import CameraHotplug.Proofs.Panics
import CameraHotplug.Proofs.Thread

/-!
# From phase to phase

The phase that a run has come to tells what the run says of itself and what it has asked for: first a
watch, then the entries of the directory, and what became of them. Only where a construction panicked
does the run stand apart from both of its ends.
-/

namespace CameraHotplug

variable {σ ν δ : Type} (environment : Environment σ ν δ) (settings : Settings)

/-- How far along its life a run says it is. -/
def Stage.position : Stage → Nat
  | .uninitialized => 0
  | .scanning => 1
  | .watching => 2
  | .stopped => 3

/-- The answer, if the call reads a directory. -/
def Call.listing? : Call → Option (Except IoError (List String))
  | .readDirectory _ answer => some answer
  | _ => none

/-- Whether the directory was not read yet, or could not be. -/
def Phase.isUnread : Phase → Bool
  | .starting | .listing | .returned (.error _) => true
  | _ => false

/-- The directory was read after the calls made before the run, and whether what was done since was
broken off. -/
def HasListed (before : List Call) (after : Observed σ) (broken : Prop) : Prop :=
  ∃ opened names, ∃ listed : Observed σ,
    listed.calls = before ++ [.openWatch settings.deviceDirectory opened,
      .readDirectory settings.deviceDirectory (.ok names)] ∧
    Constructs environment listed after broken

namespace HasListed

variable {environment settings} {before : List Call} {middle after : Observed σ} {broken : Prop}

theorem trans (hlisted : HasListed environment settings before middle False)
    (hconstructs : Constructs environment middle after broken) :
    HasListed environment settings before after broken := by
  obtain ⟨opened, names, listed, hcalls, hmiddle⟩ := hlisted
  exact ⟨opened, names, listed, hcalls, hmiddle.trans hconstructs⟩

theorem of_calls_eq (hlisted : HasListed environment settings before middle broken)
    (hcalls : after.calls = middle.calls) :
    HasListed environment settings before after broken := by
  obtain ⟨opened, names, listed, hlistedCalls, ⟨new, hnew, hiff⟩, hcause⟩ := hlisted
  exact ⟨opened, names, listed, hlistedCalls, ⟨new, hcalls.trans hnew, hiff⟩, hcause⟩

theorem exists_own (hlisted : HasListed environment settings before after broken) :
    ∃ own, after.calls = before ++ own ∧
      (∃ names, own.findSome? Call.listing? = some (.ok names)) ∧
      ((∃ call ∈ own, call.isPanic = true) ↔ broken) := by
  obtain ⟨opened, names, listed, hcalls, ⟨new, hnew, hiff⟩, -⟩ := hlisted
  refine ⟨.openWatch settings.deviceDirectory opened ::
    .readDirectory settings.deviceDirectory (.ok names) :: new, ?_, ⟨names, rfl⟩, ?_⟩
  · rw [hnew, hcalls, List.append_assoc]
    rfl
  · simpa [Call.isPanic] using hiff

end HasListed

theorem Worker.exists_registerWatch_eq (worker : Worker σ) : ∃ answer state watching,
    (worker.registerWatch environment settings).2 =
      { worker with
        outside := ⟨state, worker.outside.calls ++ [.openWatch settings.deviceDirectory answer]⟩
        watching } := by
  unfold registerWatch Observed.openWatch
  rw [Observed.call_apply]
  split
  next heq =>
    obtain ⟨-, rfl⟩ := Prod.mk.inj heq
    exact ⟨_, _, _, rfl⟩
  next heq =>
    obtain ⟨-, rfl⟩ := Prod.mk.inj heq
    exact ⟨_, _, _, rfl⟩

variable {environment settings} in
theorem Worker.calls_of_readDirectory {worker next : Worker σ} {before : List Call} {call : Call}
    {answer : Except IoError (List String)} (hcalls : worker.outside.calls = before ++ [call])
    (hanswer : worker.readDirectory environment settings = (answer, next)) :
    next.outside.calls =
      before ++ [call, .readDirectory settings.deviceDirectory answer] := by
  rw [Worker.readDirectory_eq] at hanswer
  obtain ⟨rfl, rfl⟩ := Prod.mk.inj hanswer
  rw [Observed.readDirectory, Observed.call_apply, hcalls, List.append_assoc]
  rfl

namespace Run

variable {environment settings} {run next : Run σ} {first : Worker σ} {stage : Stage}

/-! ### What holds at each phase -/

/-- What a run of a worker says of itself and what it has asked for, phase by phase. -/
def Stands (environment : Environment σ ν δ) (settings : Settings) (first : Worker σ)
    (stage : Stage) (run : Run σ) : Prop :=
  match run.phase with
  | .starting => run.stage = stage ∧ run.worker.outside.calls = first.outside.calls
  | .listing =>
    run.stage = .scanning ∧ ∃ opened, run.worker.outside.calls =
      first.outside.calls ++ [.openWatch settings.deviceDirectory opened]
  | .scanning _ =>
    run.stage = .scanning ∧
      HasListed environment settings first.outside.calls run.worker.outside False
  | .waiting | .handling _ =>
    run.stage = .watching ∧
      HasListed environment settings first.outside.calls run.worker.outside False
  | .returned (.error error) =>
    run.stage = .stopped ∧ ∃ opened cause,
      error = .directoryUnavailable settings.deviceDirectory cause ∧
      run.worker.outside.calls = first.outside.calls ++
        [.openWatch settings.deviceDirectory opened,
          .readDirectory settings.deviceDirectory (.error cause)]
  | .returned (.ok _) =>
    run.stage = .stopped ∧ run.stopRequested = true ∧
      HasListed environment settings first.outside.calls run.worker.outside False
  | .panicked =>
    (run.stage = .scanning ∨ run.stage = .watching) ∧
      HasListed environment settings first.outside.calls run.worker.outside True

theorem Stands.becomes (hstands : run.Stands environment settings first stage)
    (hbecomes : run.Becomes environment settings next) :
    next.Stands environment settings first stage := by
  cases hbecomes with
  | opened hphase =>
      rw [Stands, hphase] at hstands
      obtain ⟨answer, state, watching, hopened⟩ :=
        run.worker.exists_registerWatch_eq environment settings
      rw [hopened]
      exact ⟨rfl, answer, congrArg (· ++ _) hstands.2⟩
  | failed hphase hanswer =>
      rw [Stands, hphase] at hstands
      obtain ⟨-, opened, hcalls⟩ := hstands
      exact ⟨rfl, opened, _, rfl, Worker.calls_of_readDirectory hcalls hanswer⟩
  | listed hphase hanswer =>
      rw [Stands, hphase] at hstands
      obtain ⟨hstage, opened, hcalls⟩ := hstands
      exact ⟨hstage, opened, _, _, Worker.calls_of_readDirectory hcalls hanswer, .rest _⟩
  | @entered name _ _ _ hphase hentry hattempt =>
      rw [Stands, hphase] at hstands
      have hconstructs := run.worker.constructs_scanEntry environment settings name
      rw [hentry] at hconstructs
      exact ⟨hstands.1, hstands.2.trans (by simpa only [eq_false hattempt] using hconstructs)⟩
  | @entryPanicked name _ _ hphase hentry =>
      rw [Stands, hphase] at hstands
      have hconstructs := run.worker.constructs_scanEntry environment settings name
      rw [hentry] at hconstructs
      exact ⟨Or.inl hstands.1, hstands.2.trans (by simpa using hconstructs)⟩
  | scanned hphase =>
      rw [Stands, hphase] at hstands
      exact ⟨rfl, hstands.2⟩
  | stopped hphase hstop =>
      rw [Stands, hphase] at hstands
      exact ⟨rfl, hstop, hstands.2⟩
  | awaited hphase hgoesOn =>
      rw [Stands, hphase] at hstands
      exact ⟨hstands.1,
        hstands.2.trans (run.worker.constructs_awaitEvents environment settings)⟩
  | @handled event _ _ hphase hevent =>
      rw [Stands, hphase] at hstands
      have hconstructs := run.worker.constructs_handleEvent environment settings event
      rw [hevent] at hconstructs
      exact ⟨hstands.1, hstands.2.trans (by simpa using hconstructs)⟩
  | @eventPanicked event _ _ hphase hevent =>
      rw [Stands, hphase] at hstands
      have hconstructs := run.worker.constructs_handleEvent environment settings event
      rw [hevent] at hconstructs
      exact ⟨Or.inr hstands.1, hstands.2.trans (by simpa using hconstructs)⟩
  | rested hphase =>
      rw [Stands, hphase] at hstands
      exact hstands
  | ended hfinished => exact hstands

theorem Stands.of_rests (hstands : run.Stands environment settings first stage) {next : Run σ}
    (hrests : Handle.Rests run next) : next.Stands environment settings first stage := by
  obtain ⟨worker, _, _, stopRequested⟩ := run
  obtain ⟨later, phase, reported, stopLater⟩ := next
  obtain ⟨rfl, rfl, hcalls, -, hstop⟩ := hrests
  cases phase with
  | starting => exact ⟨hstands.1, hcalls.trans hstands.2⟩
  | listing => exact ⟨hstands.1, hstands.2.imp fun _ => hcalls.trans⟩
  | scanning names => exact ⟨hstands.1, hstands.2.of_calls_eq hcalls⟩
  | waiting => exact ⟨hstands.1, hstands.2.of_calls_eq hcalls⟩
  | handling events => exact ⟨hstands.1, hstands.2.of_calls_eq hcalls⟩
  | returned result =>
      cases result with
      | error error =>
          obtain ⟨hstage, opened, cause, herror, hown⟩ := hstands
          exact ⟨hstage, opened, cause, herror, hcalls.trans hown⟩
      | ok _ => exact ⟨hstands.1, hstop hstands.2.1, hstands.2.2.of_calls_eq hcalls⟩
  | panicked => exact ⟨hstands.1, hstands.2.of_calls_eq hcalls⟩

/-- The calls of the run alone tell whether it failed, and whether it was broken off. -/
theorem Stands.exists_own (hstands : run.Stands environment settings first stage) :
    ∃ own, run.worker.outside.calls = first.outside.calls ++ own ∧
      (∀ error, run.phase = .returned (.error error) ↔
        ∃ cause, own.findSome? Call.listing? = some (.error cause) ∧
          error = .directoryUnavailable settings.deviceDirectory cause) ∧
      ((∃ call ∈ own, call.isPanic = true) ↔ run.phase = .panicked) := by
  obtain ⟨worker, phase, reported, stopRequested⟩ := run
  cases phase with
  | starting =>
      exact ⟨[], by simpa using hstands.2, by simp, by simp⟩
  | listing =>
      obtain ⟨-, opened, hcalls⟩ := hstands
      exact ⟨_, hcalls, by simp [Call.listing?], by simp [Call.isPanic]⟩
  | returned result =>
      cases result with
      | error error =>
          obtain ⟨-, opened, cause, rfl, hcalls⟩ := hstands
          refine ⟨_, hcalls, ?_, by simp [Call.isPanic]⟩
          intro error
          simp [List.findSome?_cons, Call.listing?, @eq_comm _ error]
      | ok _ =>
          obtain ⟨own, hcalls, ⟨names, hnames⟩, hiff⟩ := hstands.2.2.exists_own
          exact ⟨own, hcalls, by simp [hnames], by simpa using hiff⟩
  | _ =>
      obtain ⟨own, hcalls, ⟨names, hnames⟩, hiff⟩ := hstands.2.exists_own
      exact ⟨own, hcalls, by simp [hnames], by simpa using hiff⟩

theorem Stands.stage_eq_stopped_iff (hstands : run.Stands environment settings first stage)
    (hphase : run.phase ≠ .starting) :
    run.stage = .stopped ↔ run.isFinished = true ∧ run.phase ≠ .panicked := by
  obtain ⟨worker, phase, reported, stopRequested⟩ := run
  cases phase with
  | starting => exact absurd rfl hphase
  | returned result =>
      cases result with
      | error error => exact iff_of_true hstands.1 ⟨rfl, by simp⟩
      | ok _ => exact iff_of_true hstands.1 ⟨rfl, by simp⟩
  | panicked => rcases hstands.1 with hstage | hstage <;> simp_all
  | _ =>
      refine iff_of_false ?_ (fun hfinished => Bool.false_ne_true hfinished.1)
      rw [hstands.1]
      decide

theorem Stands.phase_ne_panicked (hstands : run.Stands environment settings first stage)
    (hsound : ∀ version path state, (environment.construct version path state).1 ≠ .panicked) :
    run.phase ≠ .panicked := by
  intro hphase
  rw [Stands, hphase] at hstands
  obtain ⟨_, _, _, _, _, hconstructs⟩ := hstands
  obtain ⟨version, path, state, hpanicked⟩ := hconstructs.cause trivial
  exact hsound version path state hpanicked

/-! ### One step -/

theorem Becomes.phase_ne_starting (hbecomes : run.Becomes environment settings next) :
    next.phase ≠ .starting := by
  cases hbecomes with
  | ended hfinished =>
      intro hphase
      rw [isFinished, hphase] at hfinished
      exact Bool.false_ne_true hfinished
  | _ => simp

theorem Becomes.position_le (hbecomes : run.Becomes environment settings next)
    (hstands : run.Stands environment settings first stage) (hphase : run.phase ≠ .starting) :
    run.stage.position ≤ next.stage.position := by
  cases hbecomes with
  | opened hstarting => exact absurd hstarting hphase
  | failed hlisting =>
      rw [Stands, hlisting] at hstands
      simp [hstands.1, Stage.position]
  | scanned hscanning =>
      rw [Stands, hscanning] at hstands
      simp [hstands.1, Stage.position]
  | stopped hwaiting =>
      rw [Stands, hwaiting] at hstands
      simp [hstands.1, Stage.position]
  | _ => exact le_refl _

/-- A step that ends in a panic was treating an entry or an event, and says nothing new. -/
theorem Becomes.panics (hbecomes : run.Becomes environment settings next)
    (hgoing : run.phase ≠ .panicked) (hpanicked : next.phase = .panicked) :
    next.stage = run.stage ∧
      ((∃ name names, run.phase = .scanning (name :: names)) ∨
        ∃ event events, run.phase = .handling (event :: events)) := by
  cases hbecomes with
  | entryPanicked hphase _ => exact ⟨rfl, Or.inl ⟨_, _, hphase⟩⟩
  | eventPanicked hphase _ => exact ⟨rfl, Or.inr ⟨_, _, hphase⟩⟩
  | ended _ => exact absurd hpanicked hgoing
  | _ => simp at hpanicked

theorem Becomes.unread (hbecomes : run.Becomes environment settings next)
    (hunread : next.phase.isUnread = true) :
    run.phase.isUnread = true ∧ next.worker.registry = run.worker.registry ∧
      next.worker.receiver? = run.worker.receiver? := by
  cases hbecomes with
  | opened hphase =>
      obtain ⟨_, _, _, hopened⟩ := run.worker.exists_registerWatch_eq environment settings
      simp [hopened, hphase, Phase.isUnread]
  | failed hphase hanswer =>
      rw [Worker.readDirectory_eq] at hanswer
      obtain ⟨-, rfl⟩ := Prod.mk.inj hanswer
      simp [hphase, Phase.isUnread]
  | ended _ => exact ⟨hunread, rfl, rfl⟩
  | _ => simp [Phase.isUnread] at hunread

theorem Stands.stage_ne_watching (hstands : run.Stands environment settings first stage)
    (hunread : run.phase.isUnread = true) (hphase : run.phase ≠ .starting) :
    run.stage ≠ .watching := by
  obtain ⟨worker, phase, reported, stopRequested⟩ := run
  cases phase with
  | starting => exact absurd rfl hphase
  | listing =>
      obtain ⟨rfl, -⟩ := hstands
      simp
  | returned result =>
      cases result with
      | error error =>
          obtain ⟨rfl, -⟩ := hstands
          simp
      | ok _ => exact absurd hunread Bool.false_ne_true
  | _ => exact absurd hunread Bool.false_ne_true

theorem exists_returned (hfinished : run.isFinished = true) (hphase : run.phase ≠ .panicked) :
    ∃ result, run.phase = .returned result := by
  obtain ⟨worker, phase, reported, stopRequested⟩ := run
  cases phase with
  | returned result => exact ⟨result, rfl⟩
  | panicked => exact absurd rfl hphase
  | _ => exact absurd hfinished Bool.false_ne_true

end Run

end CameraHotplug
