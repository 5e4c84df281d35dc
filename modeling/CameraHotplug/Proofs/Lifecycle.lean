import CameraHotplug.Bench
import CameraHotplug.Provider
import CameraHotplug.Proofs.Phases
import CameraHotplug.Proofs.Shutdown
import CameraHotplug.Proofs.Stopping

/-!
# The life of a run

A run opens a watch and reads the directory. If the directory cannot be read, the run is over with
nothing else asked and nothing touched. From then on no answer of the world ends it, whatever fails:
it goes on until a stop is requested. Both ways it says that it stopped. Only a construction that
panics breaks it off, and then it goes on saying what it said before.
-/

namespace CameraHotplug

variable {σ ν δ : Type} (environment : Environment σ ν δ) (settings : Settings)

theorem Provider.shutdown_of_joined {provider : Provider σ}
    (hjoined : provider.handle.joined = true) :
    (provider.shutdown environment).1 = some (.ok ()) := by
  unfold shutdown Provider.join
  exact Handle.join_of_joined hjoined

namespace Handle

/-! ### From the first step on -/

section Play

variable {handle : Handle σ} {first : Worker σ} {stage : Stage} {move : Move σ}
  {moves : List (Move σ)}

theorem stands_after (hstands : handle.run.Stands environment settings first stage)
    (move : Move σ) :
    (handle.after environment settings move).run.Stands environment settings first stage := by
  by_cases hmove : move = .step
  · subst hmove
    exact hstands.becomes (handle.run.becomes_step environment settings)
  · exact hstands.of_rests (rests_after environment settings hmove)

theorem stands_play (hstands : handle.run.Stands environment settings first stage)
    (moves : List (Move σ)) :
    (handle.play environment settings moves).run.Stands environment settings first stage := by
  induction moves generalizing handle with
  | nil => exact hstands
  | cons move moves ih => exact ih (stands_after environment settings hstands move)

theorem phase_after_ne_starting (hphase : handle.run.phase ≠ .starting) (move : Move σ) :
    (handle.after environment settings move).run.phase ≠ .starting := by
  by_cases hmove : move = .step
  · subst hmove
    exact (handle.run.becomes_step environment settings).phase_ne_starting
  · rw [(rests_after environment settings hmove).phase]
    exact hphase

theorem position_le_after (hstands : handle.run.Stands environment settings first stage)
    (hphase : handle.run.phase ≠ .starting) (move : Move σ) :
    handle.run.stage.position ≤
      (handle.after environment settings move).run.stage.position := by
  by_cases hmove : move = .step
  · subst hmove
    exact (handle.run.becomes_step environment settings).position_le hstands hphase
  · rw [(rests_after environment settings hmove).stage]

theorem position_le_play (hstands : handle.run.Stands environment settings first stage)
    (hphase : handle.run.phase ≠ .starting) (moves : List (Move σ)) :
    handle.run.stage.position ≤
      (handle.play environment settings moves).run.stage.position := by
  induction moves generalizing handle with
  | nil => exact le_refl _
  | cons move moves ih =>
      calc
        handle.run.stage.position ≤
            (handle.after environment settings move).run.stage.position :=
          position_le_after environment settings hstands hphase move
        _ ≤ _ := ih (stands_after environment settings hstands move)
          (phase_after_ne_starting environment settings hphase move)

theorem unread_after
    (hunread : (handle.after environment settings move).run.phase.isUnread = true) :
    handle.run.phase.isUnread = true ∧
      (handle.after environment settings move).run.worker.receiver? =
        handle.run.worker.receiver? ∧
      (move = .step → (handle.after environment settings move).run.worker.registry =
        handle.run.worker.registry) := by
  by_cases hmove : move = .step
  · subst hmove
    obtain ⟨hbefore, hregistry, hreceiver⟩ :=
      (handle.run.becomes_step environment settings).unread hunread
    exact ⟨hbefore, hreceiver, fun _ => hregistry⟩
  · have hrests : Rests handle.run (handle.after environment settings move).run :=
      rests_after environment settings hmove
    rw [hrests.phase] at hunread
    exact ⟨hunread, hrests.receiver, fun hstep => absurd hstep hmove⟩

theorem unread_play
    (hunread : (handle.play environment settings moves).run.phase.isUnread = true) :
    handle.run.phase.isUnread = true ∧
      (handle.play environment settings moves).run.worker.receiver? =
        handle.run.worker.receiver? := by
  induction moves generalizing handle with
  | nil => exact ⟨hunread, rfl⟩
  | cons move moves ih =>
      obtain ⟨hnext, hlater⟩ := ih hunread
      obtain ⟨hbefore, hreceiver, -⟩ := unread_after environment settings hnext
      exact ⟨hbefore, hlater.trans hreceiver⟩

/-- A run that was broken off still says what it said at the entry or event that it was treating. -/
theorem exists_panicking_step (hgoing : handle.run.phase ≠ .panicked)
    (hpanicked : (handle.play environment settings moves).run.phase = .panicked) :
    ∃ earlier, earlier ++ [.step] <+: moves ∧
      (handle.play environment settings moves).run.stage =
        (handle.play environment settings earlier).run.stage ∧
      ((∃ name names,
          (handle.play environment settings earlier).run.phase = .scanning (name :: names)) ∨
        ∃ event events,
          (handle.play environment settings earlier).run.phase = .handling (event :: events)) := by
  induction moves using List.reverseRecOn with
  | nil => exact absurd hpanicked hgoing
  | append_singleton moves move ih =>
      rw [play_concat_move] at hpanicked ⊢
      by_cases hmove : move = .step
      · subst hmove
        have hbecomes :=
          (handle.play environment settings moves).run.becomes_step environment settings
        -- the last step is the one that panicked, or it changed nothing any more
        by_cases hbefore : (handle.play environment settings moves).run.phase = .panicked
        · obtain ⟨earlier, hearlier, hstage, htreated⟩ := ih hbefore
          have hrun : (handle.play environment settings moves).run.isFinished = true := by
            rw [Run.isFinished, hbefore, Phase.isFinished]
          refine ⟨earlier, hearlier.trans (List.prefix_append _ _), ?_, htreated⟩
          exact (congrArg Run.stage (Run.step_of_isFinished hrun)).trans hstage
        · obtain ⟨hstage, htreated⟩ := hbecomes.panics hbefore hpanicked
          exact ⟨moves, List.prefix_refl _, hstage, htreated⟩
      · have hrests : Rests (handle.play environment settings moves).run
            ((handle.play environment settings moves).after environment settings move).run :=
          rests_after environment settings hmove
        rw [hrests.phase] at hpanicked
        obtain ⟨earlier, hearlier, hstage, htreated⟩ := ih hpanicked
        exact ⟨earlier, hearlier.trans (List.prefix_append _ _), hrests.stage.trans hstage,
          htreated⟩

end Play

/-! ### The whole life -/

section Life

variable (first : Worker σ) (stage : Stage)

/-- The run of a worker after some moves. -/
def ran (moves : List (Move σ)) : Run σ :=
  ((spawned first stage).play environment settings moves).run

theorem stands_ran (moves : List (Move σ)) :
    (ran environment settings first stage moves).Stands environment settings first stage := by
  have hspawned : (spawned first stage).run.Stands environment settings first stage :=
    And.intro rfl rfl
  exact stands_play environment settings hspawned moves

/-- The run tried to open a watch and to read the directory, and did nothing else. -/
structure TouchesNothing (moves : List (Move σ)) (own : List Call) : Prop where
  calls : ∃ opened cause, own = [.openWatch settings.deviceDirectory opened,
    .readDirectory settings.deviceDirectory (.error cause)]
  receiver : (ran environment settings first stage moves).worker.receiver? = first.receiver?
  registry : ∀ earlier, earlier ++ [.step] <+: moves →
    (ran environment settings first stage (earlier ++ [.step])).worker.registry =
      (ran environment settings first stage earlier).worker.registry
  unwatched : ∀ earlier, earlier <+: moves →
    (ran environment settings first stage earlier).phase ≠ .starting →
    (ran environment settings first stage earlier).stage ≠ .watching

/-- What a run has done and said after some moves, `own` being the calls that it has made. Until its
first step it says what the worker said before. -/
structure Lifecycle (moves : List (Move σ)) (own : List Call) : Prop where
  calls : (ran environment settings first stage moves).worker.outside.calls =
    first.outside.calls ++ own
  forward : ∀ earlier later, earlier <+: later → later <+: moves →
    (stage = .uninitialized ∨
      (ran environment settings first stage earlier).phase ≠ .starting) →
    (ran environment settings first stage earlier).stage.position ≤
      (ran environment settings first stage later).stage.position
  failed_iff : ∀ error,
    (ran environment settings first stage moves).phase = .returned (.error error) ↔
      ∃ cause, own.findSome? Call.listing? = some (.error cause) ∧
        error = .directoryUnavailable settings.deviceDirectory cause
  failed : ∀ error,
    (ran environment settings first stage moves).phase = .returned (.error error) →
      TouchesNothing environment settings first stage moves own
  finished : (ran environment settings first stage moves).isFinished = true →
    (∃ error, (ran environment settings first stage moves).phase = .returned (.error error)) ∨
      (ran environment settings first stage moves).phase = .returned (.ok ()) ∧ .stop ∈ moves
  stopped : (ran environment settings first stage moves).phase ≠ .starting →
    ((ran environment settings first stage moves).stage = .stopped ↔
      (ran environment settings first stage moves).isFinished = true)
  settled : (ran environment settings first stage moves).isFinished = true →
    ∀ later, (ran environment settings first stage (moves ++ later)).phase =
      (ran environment settings first stage moves).phase
  joined : ¬ IsTaken environment settings moves (spawned first stage) →
    ((spawned first stage).play environment settings moves).join.1 =
      resultOf (ran environment settings first stage moves).phase
  shutdown : ¬ IsTaken environment settings moves (spawned first stage) →
    ∀ provider : Provider σ, provider.settings = settings →
      provider.handle = (spawned first stage).play environment settings moves →
      ∃ count result,
        (ran environment settings first stage (moves ++ shutdownMoves count)).phase =
          .returned result ∧
        (provider.shutdown environment).1 = some result ∧
        (provider.shutdown environment).2.handle =
          (spawned first stage).play environment settings (moves ++ shutdownMoves count ++ [.join])
  taken : IsTaken environment settings moves (spawned first stage) →
    ((spawned first stage).play environment settings moves).join.1 = some (.ok ()) ∧
      ∀ provider : Provider σ,
        provider.handle = (spawned first stage).play environment settings moves →
        (provider.shutdown environment).1 = some (.ok ())

variable {first stage} {moves : List (Move σ)} {own : List Call}

theorem position_ran_le {earlier later : List (Move σ)} (hle : earlier <+: later)
    (hstarted : stage = .uninitialized ∨
      (ran environment settings first stage earlier).phase ≠ .starting) :
    (ran environment settings first stage earlier).stage.position ≤
      (ran environment settings first stage later).stage.position := by
  have hstands := stands_ran environment settings first stage earlier
  by_cases hphase : (ran environment settings first stage earlier).phase = .starting
  · rw [Run.Stands, hphase] at hstands
    rw [hstands.1, hstarted.resolve_right (not_not_intro hphase), Stage.position]
    exact Nat.zero_le _
  · obtain ⟨rest, rfl⟩ := hle
    have hlater := position_le_play environment settings hstands hphase rest
    rwa [← play_append_moves] at hlater

theorem touchesNothing_of_failed
    (hcalls : (ran environment settings first stage moves).worker.outside.calls =
      first.outside.calls ++ own) {error : Error}
    (hfailed : (ran environment settings first stage moves).phase = .returned (.error error)) :
    TouchesNothing environment settings first stage moves own := by
  have hunread : (ran environment settings first stage moves).phase.isUnread = true := by
    rw [hfailed, Phase.isUnread]
  have hearly : ∀ {earlier}, earlier <+: moves →
      (ran environment settings first stage earlier).phase.isUnread = true := by
    rintro earlier ⟨rest, rfl⟩
    rw [ran, play_append_moves] at hunread
    exact (unread_play environment settings hunread).1
  refine ⟨?_, (unread_play environment settings hunread).2, ?_, ?_⟩
  · have hstands := stands_ran environment settings first stage moves
    rw [Run.Stands, hfailed] at hstands
    obtain ⟨-, opened, cause, -, hown⟩ := hstands
    exact ⟨opened, cause, List.append_cancel_left (hcalls.symm.trans hown)⟩
  · intro earlier hprefix
    have hnext := hearly hprefix
    rw [ran, play_concat_move] at hnext ⊢
    exact (unread_after environment settings hnext).2.2 rfl
  · intro earlier hprefix hphase
    exact (stands_ran environment settings first stage earlier).stage_ne_watching
      (hearly hprefix) hphase

theorem finished_ran (hphase : (ran environment settings first stage moves).phase ≠ .panicked)
    (hfinished : (ran environment settings first stage moves).isFinished = true) :
    (∃ error, (ran environment settings first stage moves).phase = .returned (.error error)) ∨
      (ran environment settings first stage moves).phase = .returned (.ok ()) ∧ .stop ∈ moves := by
  have hstands := stands_ran environment settings first stage moves
  obtain ⟨result, hresult⟩ := Run.exists_returned hfinished hphase
  cases result with
  | error error => exact Or.inl ⟨error, hresult⟩
  | ok _ =>
      rw [Run.Stands, hresult] at hstands
      obtain ⟨-, hstop, -⟩ := hstands
      rcases (stopRequested_play environment settings).mp hstop with hbefore | hmem
      · exact absurd hbefore Bool.false_ne_true
      · exact Or.inr ⟨hresult, hmem⟩

theorem shutdown_of_not_taken
    (hsound : ∀ version path state, (environment.construct version path state).1 ≠ .panicked)
    (hopen : ¬ IsTaken environment settings moves (spawned first stage)) {provider : Provider σ}
    (hsettings : provider.settings = settings)
    (hhandle : provider.handle = (spawned first stage).play environment settings moves) :
    ∃ count result,
      (ran environment settings first stage (moves ++ shutdownMoves count)).phase =
        .returned result ∧
      (provider.shutdown environment).1 = some result ∧
      (provider.shutdown environment).2.handle =
        (spawned first stage).play environment settings
          (moves ++ shutdownMoves count ++ [.join]) := by
  obtain ⟨count, hshutdown⟩ := provider.exists_shutdown_eq environment
  rw [hsettings, hhandle, ← play_append_moves] at hshutdown
  obtain ⟨hfinished, hjoined, heq⟩ := hshutdown _ rfl
  obtain ⟨result, hresult⟩ := Run.exists_returned hfinished
    ((stands_ran environment settings first stage _).phase_ne_panicked hsound)
  rw [← joined_play environment settings rfl, Bool.not_eq_true] at hopen
  refine ⟨count, result, hresult, ?_, ?_⟩
  · rw [heq, join_of_not_joined (hjoined.trans hopen), hresult, resultOf]
  · rw [heq, play_concat_move, after]

end Life

/-- Unless a construction panics, what a run says of itself only moves forward. Of a repeated run
this is said from its own first step on: until then it shows what the run before it said last. A run
fails if and only if it could not read the directory at the start, and then it has touched nothing.
Otherwise only a stop ends it, whatever else fails, and a stop does end it. Its result goes to the
first who asks for it, and a shutdown asks when it has brought the run to its end. -/
theorem run_lifecycle
    (hsound : ∀ version path state, (environment.construct version path state).1 ≠ .panicked)
    (first : Worker σ) (stage : Stage) :
    (∀ moves, ∃ own, Lifecycle environment settings first stage moves own) ∧
    ∀ schedule, (∀ early, ∃ late, early ≤ late ∧ schedule late = .step) →
      (∃ count, schedule count = .stop) →
      ∃ count result,
        ((spawned first stage).follow environment settings schedule count).run.phase =
          .returned result := by
  constructor
  · intro moves
    have hstands := stands_ran environment settings first stage moves
    have hphase := hstands.phase_ne_panicked hsound
    obtain ⟨own, hcalls, hfailed, -⟩ := hstands.exists_own
    refine ⟨own,
      { calls := hcalls
        forward := ?_
        failed_iff := hfailed
        failed := ?_
        finished := finished_ran environment settings hphase
        stopped := ?_
        settled := ?_
        joined := ?_
        shutdown := ?_
        taken := ?_ }⟩
    · intro earlier later hle _ hstarted
      exact position_ran_le environment settings hle hstarted
    · intro error herror
      exact touchesNothing_of_failed environment settings hcalls herror
    · intro hstarted
      rw [hstands.stage_eq_stopped_iff hstarted, and_iff_left hphase]
    · intro hfinished later
      rw [ran, play_append_moves]
      exact phase_play_of_isFinished environment settings hfinished later
    · intro hopen
      rw [← joined_play environment settings rfl, Bool.not_eq_true] at hopen
      exact join_of_not_joined hopen
    · intro hopen provider hsettings hhandle
      exact shutdown_of_not_taken environment settings hsound hopen hsettings hhandle
    · intro htaken
      have hjoined := (joined_play environment settings rfl).mpr htaken
      refine ⟨join_of_joined hjoined, ?_⟩
      intro provider hhandle
      exact Provider.shutdown_of_joined environment (hhandle ▸ hjoined)
  · rintro schedule hsteps ⟨count, hstop⟩
    have hrequested : ((spawned first stage).follow environment settings schedule
        (count + 1)).run.stopRequested = true :=
      (stopRequested_after environment settings).mpr (Or.inr hstop)
    obtain ⟨late, hfinished⟩ := exists_isFinished environment settings hsteps hrequested
    refine ⟨late, ?_⟩
    rw [follow_eq_play] at hfinished ⊢
    exact Run.exists_returned hfinished
      ((stands_ran environment settings first stage _).phase_ne_panicked hsound)

def unreadableBench : Bench :=
  (Bench.ofSettings .standard).setDirectoryFails true

theorem unreadableBench_lifecycle :
    let environment : Environment Bench BenchNode Unit := Bench.environment fun _ _ => .built ()
    let first := Worker.start unreadableBench .empty
    let handle := spawned first .uninitialized
    let provider : Provider Bench := ⟨.standard, handle.play environment .standard [.step, .step]⟩
    (∃ own cause, TouchesNothing environment .standard first .uninitialized [.step, .step] own ∧
      (handle.play environment .standard [.step, .step]).join.1 =
        some (.error (.directoryUnavailable Settings.standard.deviceDirectory cause)) ∧
      (provider.shutdown environment).1 =
        some (.error (.directoryUnavailable Settings.standard.deviceDirectory cause))) ∧
    (handle.play environment .standard [.step, .step, .join]).join.1 = some (.ok ()) ∧
    ∃ count result, (handle.follow environment .standard
      (fun count => if count = 0 then .stop else .step) count).run.phase = .returned result := by
  intro environment first handle provider
  have hsound : ∀ version path state,
      (environment.construct version path state).1 ≠ .panicked := by
    intro version path state
    simp [environment, Bench.environment]
  obtain ⟨hmoves, hends⟩ := run_lifecycle environment .standard hsound first .uninitialized
  obtain ⟨own, hlife⟩ := hmoves [.step, .step]
  obtain ⟨_, hjoined⟩ := hmoves [.step, .step, .join]
  refine ⟨?_, ?_, ?_⟩
  · have hopen : ¬ IsTaken environment .standard [.step, .step] handle := by
      rw [← joined_play environment .standard rfl]
      decide +kernel
    rcases hlife.finished (by decide +kernel) with ⟨error, hphase⟩ | ⟨_, hstop⟩
    · obtain ⟨cause, _, rfl⟩ := (hlife.failed_iff error).mp hphase
      obtain ⟨count, result, hreturned, hshutdown, -⟩ := hlife.shutdown hopen provider rfl rfl
      refine ⟨own, cause, hlife.failed _ hphase, ?_, ?_⟩
      · rw [hlife.joined hopen, hphase, resultOf]
      · -- the run was over before, so the shutdown finds the same result
        rw [hlife.settled (by decide +kernel), hphase, Phase.returned.injEq] at hreturned
        rw [hshutdown, hreturned]
    · exact absurd hstop (by simp)
  · have htaken : IsTaken environment .standard [.step, .step, .join] handle := by
      rw [← joined_play environment .standard rfl]
      decide +kernel
    exact (hjoined.taken htaken).1
  · apply hends
    · intro early
      exact ⟨early + 1, Nat.le_succ early, if_neg (Nat.succ_ne_zero early)⟩
    · exact ⟨0, rfl⟩

/-- A run that is over says that it stopped if and only if it did not panic. If it did, it says what
it said at the entry or event that it was treating, and whoever asks is told of the panic. A handle
says that the run is over also when someone only waits for its end. -/
theorem stopped_unless_panicked (first : Worker σ) (stage : Stage) (moves : List (Move σ)) :
    ∃ own,
      (ran environment settings first stage moves).worker.outside.calls =
        first.outside.calls ++ own ∧
      (((spawned first stage).play environment settings moves).isFinished = true ↔
        (ran environment settings first stage moves).isFinished = true ∨ .await ∈ moves) ∧
      ((ran environment settings first stage moves).isFinished = true →
        ((ran environment settings first stage moves).stage = .stopped ↔
          ∀ call ∈ own, call.isPanic = false) ∧
        ((∀ version path state, (environment.construct version path state).1 ≠ .panicked) →
          (ran environment settings first stage moves).stage = .stopped) ∧
        ((ran environment settings first stage moves).stage ≠ .stopped →
          (¬ IsTaken environment settings moves (spawned first stage) →
            ((spawned first stage).play environment settings moves).join.1 =
              some (.error .workerPanicked)) ∧
          ∃ earlier, earlier ++ [.step] <+: moves ∧
            ((ran environment settings first stage moves).stage = .scanning ∧
                (∃ name names, (ran environment settings first stage earlier).phase =
                  .scanning (name :: names)) ∨
              (ran environment settings first stage moves).stage = .watching ∧
                ∃ event events, (ran environment settings first stage earlier).phase =
                  .handling (event :: events)))) := by
  have hstands := stands_ran environment settings first stage moves
  obtain ⟨own, hcalls, -, hpanics⟩ := hstands.exists_own
  refine ⟨own, hcalls, isFinished_play environment settings rfl, ?_⟩
  intro hfinished
  have hstarted : (ran environment settings first stage moves).phase ≠ .starting := by
    intro hphase
    rw [Run.isFinished, hphase] at hfinished
    exact Bool.false_ne_true hfinished
  have hstopped : (ran environment settings first stage moves).stage = .stopped ↔
      (ran environment settings first stage moves).phase ≠ .panicked := by
    rw [hstands.stage_eq_stopped_iff hstarted, and_iff_right hfinished]
  refine ⟨?_, fun hsound => hstopped.mpr (hstands.phase_ne_panicked hsound), ?_⟩
  · rw [hstopped, Ne, ← hpanics]
    simp
  · intro hstage
    have hphase := not_not.mp (mt hstopped.mpr hstage)
    constructor
    · intro hopen
      rw [← joined_play environment settings rfl, Bool.not_eq_true] at hopen
      rw [join_of_not_joined hopen]
      change resultOf (ran environment settings first stage moves).phase = _
      rw [hphase, resultOf]
    · have hgoing : (spawned first stage).run.phase ≠ .panicked := by simp [spawned]
      obtain ⟨earlier, hearlier, hsame, htreated⟩ :=
        exists_panicking_step environment settings hgoing hphase
      have hbefore := stands_ran environment settings first stage earlier
      refine ⟨earlier, hearlier, ?_⟩
      rcases htreated with ⟨name, names, hscanning⟩ | ⟨event, events, hhandling⟩
      · change (ran environment settings first stage earlier).phase = _ at hscanning
        rw [Run.Stands, hscanning] at hbefore
        exact Or.inl ⟨hsame.trans hbefore.1, name, names, hscanning⟩
      · change (ran environment settings first stage earlier).phase = _ at hhandling
        rw [Run.Stands, hhandling] at hbefore
        exact Or.inr ⟨hsame.trans hbefore.1, event, events, hhandling⟩

/-! A camera whose construction panics is there from the start, or is plugged in later. -/

def panickingEnvironment : Environment Bench BenchNode Unit :=
  Bench.environment fun _ _ => .panicked

def wiredBench : Bench :=
  (Bench.ofSettings .standard).addNode "video1" .uvcCamera

def pluggedBench : Bench :=
  { (Bench.ofSettings .standard).hotplug "video1" .uvcCamera with watchTaken := true }

/-- Three steps lead to the panic, in the scan. -/
def wiredMoves : List (Move Bench) :=
  [.step, .step, .step]

/-- The directory is empty at first. The camera comes when the run is about to wait. -/
def pluggedMoves : List (Move Bench) :=
  [.step, .step, .step, .world pluggedBench, .step, .step]

theorem wiredBench_panics :
    ((spawned (Worker.start wiredBench .empty) .uninitialized).play panickingEnvironment .standard
      wiredMoves).join.1 = some (.error .workerPanicked) ∧
    ∃ own, (ran panickingEnvironment .standard (Worker.start wiredBench .empty) .uninitialized
        wiredMoves).worker.outside.calls = own ∧
      ¬ ∀ call ∈ own, call.isPanic = false := by
  have hopen : ¬ IsTaken panickingEnvironment .standard wiredMoves
      (spawned (Worker.start wiredBench .empty) .uninitialized) := by
    rw [← joined_play panickingEnvironment .standard rfl]
    decide +kernel
  obtain ⟨own, hcalls, _, hover⟩ := stopped_unless_panicked panickingEnvironment .standard
    (Worker.start wiredBench .empty) .uninitialized wiredMoves
  obtain ⟨hiff, _, hbroken⟩ := hover (by decide +kernel)
  have hstage : (ran panickingEnvironment .standard (Worker.start wiredBench .empty) .uninitialized
      wiredMoves).stage ≠ .stopped := by decide +kernel
  exact ⟨(hbroken hstage).1 hopen, own, hcalls, mt hiff.mpr hstage⟩

/-- The handle says that the run is over, and the run does not say that it stopped. -/
theorem panicked_run_keeps_stage :
    let scanned := (spawned (Worker.start wiredBench .empty) .uninitialized).play
      panickingEnvironment .standard wiredMoves
    let plugged := (spawned (Worker.start (Bench.ofSettings .standard) .empty) .uninitialized).play
      panickingEnvironment .standard pluggedMoves
    (scanned.isFinished = true ∧ scanned.run.stage = .scanning) ∧
      plugged.isFinished = true ∧ plugged.run.stage = .watching := by
  decide +kernel

end Handle

end CameraHotplug
