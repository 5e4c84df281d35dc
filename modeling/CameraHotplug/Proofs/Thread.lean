import CameraHotplug.Discovery.Handle
import CameraHotplug.Proofs.Turns
import Mathlib.Data.List.Induction

/-!
# A run on a thread of its own

A spawned run takes its steps while others request a stop, ask for its result or wait for it, change
the world and change the registry, in any order. Only a step moves the run on or asks anything of the
world. What others can do to it is to set the stop flag, which nothing clears again.
-/

namespace CameraHotplug

variable {σ ν δ : Type} (environment : Environment σ ν δ) (settings : Settings)

namespace Run

/-- All that one step can make of a run. -/
inductive Becomes (run : Run σ) : Run σ → Prop where
  | opened (hphase : run.phase = .starting) :
      Becomes run
        { run with
          worker := (run.worker.registerWatch environment settings).2
          phase := .listing
          stage := .scanning }
  | failed {cause : IoError} {worker : Worker σ} (hphase : run.phase = .listing)
      (hanswer : run.worker.readDirectory environment settings = (.error cause, worker)) :
      Becomes run
        { run with
          worker
          phase := .returned (.error (.directoryUnavailable settings.deviceDirectory cause))
          stage := .stopped }
  | listed {names : List String} {worker : Worker σ} (hphase : run.phase = .listing)
      (hanswer : run.worker.readDirectory environment settings = (.ok names, worker)) :
      Becomes run { run with worker, phase := .scanning names }
  | entered {name : String} {names : List String} {attempt : Attempt} {worker : Worker σ}
      (hphase : run.phase = .scanning (name :: names))
      (hentry : run.worker.scanEntry environment settings name = (attempt, worker))
      (hattempt : attempt ≠ .panicked) :
      Becomes run { run with worker, phase := .scanning names }
  | entryPanicked {name : String} {names : List String} {worker : Worker σ}
      (hphase : run.phase = .scanning (name :: names))
      (hentry : run.worker.scanEntry environment settings name = (.panicked, worker)) :
      Becomes run { run with worker, phase := .panicked }
  | scanned (hphase : run.phase = .scanning []) :
      Becomes run { run with phase := .waiting, stage := .watching }
  | stopped (hphase : run.phase = .waiting) (hstop : run.stopRequested = true) :
      Becomes run
        { run with
          worker := { run.worker with watching := false }
          phase := .returned (.ok ())
          stage := .stopped }
  | awaited (hphase : run.phase = .waiting) (hstop : ¬ run.stopRequested = true) :
      Becomes run
        { run with
          worker := (run.worker.awaitEvents environment settings).2
          phase := .handling (run.worker.awaitEvents environment settings).1 }
  | handled {event : WatchEvent} {events : List WatchEvent} {worker : Worker σ}
      (hphase : run.phase = .handling (event :: events))
      (hevent : run.worker.handleEvent environment settings event = (.returned, worker)) :
      Becomes run { run with worker, phase := .handling events }
  | eventPanicked {event : WatchEvent} {events : List WatchEvent} {worker : Worker σ}
      (hphase : run.phase = .handling (event :: events))
      (hevent : run.worker.handleEvent environment settings event = (.panicked, worker)) :
      Becomes run { run with worker, phase := .panicked }
  | rested (hphase : run.phase = .handling []) : Becomes run { run with phase := .waiting }
  | ended (hfinished : run.isFinished = true) : Becomes run run

theorem becomes_step (run : Run σ) :
    run.Becomes environment settings (run.step environment settings) := by
  unfold step
  split
  next hphase => exact .opened hphase
  next hphase =>
    split
    next hanswer => exact .failed hphase hanswer
    next hanswer => exact .listed hphase hanswer
  next hphase => exact .scanned hphase
  next hphase =>
    split
    next hentry => exact .entryPanicked hphase hentry
    next hattempt hentry => exact .entered hphase hentry hattempt
  next hphase =>
    split_ifs with hstop
    · exact .stopped hphase hstop
    · exact .awaited hphase hstop
  next hphase => exact .rested hphase
  next hphase =>
    split
    next hevent => exact .eventPanicked hphase hevent
    next hevent => exact .handled hphase hevent
  next hphase => exact .ended (by rw [isFinished, hphase, Phase.isFinished])
  next hphase => exact .ended (by rw [isFinished, hphase, Phase.isFinished])

@[simp]
theorem stopRequested_step (run : Run σ) :
    (run.step environment settings).stopRequested = run.stopRequested := by
  have hbecomes := run.becomes_step environment settings
  generalize run.step environment settings = next at hbecomes ⊢
  cases hbecomes <;> rfl

end Run

namespace Handle

/-- The handle of a run that has yet to take its first step. Until then the worker says of itself
what it said before. -/
def spawned (worker : Worker σ) (stage : Stage) : Handle σ where
  run := { worker, phase := .starting, stage, stopRequested := false }
  joined := false

/-- What can happen next. A join that waits for the end of the run takes the result in advance. The
world and the registry are in other hands too. -/
inductive Move (σ : Type) where
  | step
  | stop
  | join
  | await
  | world (state : σ)
  | registry (registry : Registry)

def withWorker (handle : Handle σ) (worker : Worker σ) : Handle σ :=
  { handle with run := { handle.run with worker } }

def after (handle : Handle σ) : Move σ → Handle σ
  | .step => { handle with run := handle.run.step environment settings }
  | .stop => handle.requestStop
  | .join => handle.join.2
  | .await => { handle with joined := true }
  | .world state =>
    handle.withWorker
      { handle.run.worker with outside := { handle.run.worker.outside with state } }
  | .registry registry => handle.withWorker { handle.run.worker with registry }

def play (moves : List (Move σ)) (handle : Handle σ) : Handle σ :=
  moves.foldl (after environment settings) handle

/-- The handle after so many moves of an endless schedule. -/
def follow (schedule : Nat → Move σ) (handle : Handle σ) : Nat → Handle σ
  | 0 => handle
  | count + 1 => (follow schedule handle count).after environment settings (schedule count)

variable (handle : Handle σ) (moves later : List (Move σ))

theorem play_cons_move (move : Move σ) :
    handle.play environment settings (move :: moves) =
      (handle.after environment settings move).play environment settings moves :=
  rfl

theorem play_append_moves :
    handle.play environment settings (moves ++ later) =
      (handle.play environment settings moves).play environment settings later :=
  List.foldl_append

theorem play_concat_move (move : Move σ) :
    handle.play environment settings (moves ++ [move]) =
      (handle.play environment settings moves).after environment settings move :=
  handle.play_append_moves environment settings moves [move]

theorem follow_eq_play (schedule : Nat → Move σ) (count : Nat) :
    handle.follow environment settings schedule count =
      handle.play environment settings ((List.range count).map schedule) := by
  induction count with
  | zero => rfl
  | succ count ih =>
      rw [follow, ih, List.range_succ, List.map_append, List.map_singleton, play_concat_move]

/-! ### What others can do -/

@[simp]
theorem run_join : handle.join.2.run = handle.run := by
  unfold join
  split_ifs
  · rfl
  · split <;> rfl

/-- The run itself did nothing in between. -/
structure Rests (before after : Run σ) : Prop where
  phase : after.phase = before.phase
  stage : after.stage = before.stage
  calls : after.worker.outside.calls = before.worker.outside.calls
  receiver : after.worker.receiver? = before.worker.receiver?
  stopRequested : before.stopRequested = true → after.stopRequested = true

variable {handle moves} {move : Move σ}

theorem rests_after (hmove : move ≠ .step) :
    Rests handle.run (handle.after environment settings move).run := by
  cases move with
  | step => exact absurd rfl hmove
  | stop => exact ⟨rfl, rfl, rfl, rfl, fun _ => rfl⟩
  | join =>
      rw [after, run_join]
      exact ⟨rfl, rfl, rfl, rfl, fun hstop => hstop⟩
  | await => exact ⟨rfl, rfl, rfl, rfl, fun hstop => hstop⟩
  | world state => exact ⟨rfl, rfl, rfl, rfl, fun hstop => hstop⟩
  | registry registry => exact ⟨rfl, rfl, rfl, rfl, fun hstop => hstop⟩

theorem stopRequested_after :
    (handle.after environment settings move).run.stopRequested = true ↔
      handle.run.stopRequested = true ∨ move = .stop := by
  cases move with
  | step => simp [after]
  | stop => simp [after, requestStop, Run.requestStop]
  | join => simp [after]
  | await => simp [after]
  | world state => simp [after, withWorker]
  | registry registry => simp [after, withWorker]

theorem stopRequested_play :
    (handle.play environment settings moves).run.stopRequested = true ↔
      handle.run.stopRequested = true ∨ .stop ∈ moves := by
  induction moves using List.reverseRecOn with
  | nil => simp [play]
  | append_singleton moves move ih =>
      rw [play_concat_move, stopRequested_after, ih, or_assoc, List.mem_append,
        List.mem_singleton, @eq_comm _ move]

theorem phase_after_of_isFinished (hfinished : handle.run.isFinished = true) (move : Move σ) :
    (handle.after environment settings move).run.phase = handle.run.phase := by
  by_cases hmove : move = .step
  · rw [hmove, after]
    exact congrArg Run.phase (Run.step_of_isFinished hfinished)
  · exact (rests_after environment settings hmove).phase

/-- How a run ended is settled. -/
theorem phase_play_of_isFinished (hfinished : handle.run.isFinished = true)
    (moves : List (Move σ)) :
    (handle.play environment settings moves).run.phase = handle.run.phase := by
  induction moves generalizing handle with
  | nil => rfl
  | cons move moves ih =>
      have hphase := phase_after_of_isFinished environment settings hfinished move
      have hnext : (handle.after environment settings move).run.isFinished = true := by
        rwa [Run.isFinished, hphase]
      exact (ih hnext).trans hphase

/-! ### Who gets the result -/

theorem resultOf_isSome (phase : Phase) : (resultOf phase).isSome = phase.isFinished := by
  cases phase <;> rfl

/-- Someone has taken the result, in advance or when there was one. -/
def IsTaken (moves : List (Move σ)) (handle : Handle σ) : Prop :=
  .await ∈ moves ∨ ∃ earlier, earlier ++ [.join] <+: moves ∧
    (handle.play environment settings earlier).run.isFinished = true

theorem joined_join : handle.join.2.joined = (handle.joined || handle.run.isFinished) := by
  have hresult : handle.run.isFinished = (resultOf handle.run.phase).isSome :=
    (resultOf_isSome handle.run.phase).symm
  rw [hresult]
  unfold join
  split_ifs with hjoined
  · rw [hjoined, Bool.true_or]
  · split
    next heq => rw [heq, Option.isSome_some, Bool.or_true]
    next heq => rw [heq, Option.isSome_none, Bool.or_false]

theorem joined_after :
    (handle.after environment settings move).joined = true ↔
      handle.joined = true ∨ move = .await ∨ move = .join ∧ handle.run.isFinished = true := by
  cases move with
  | join => simp [after, joined_join]
  | _ => simp [after, requestStop, withWorker]

theorem isTaken_concat :
    IsTaken environment settings (moves ++ [move]) handle ↔
      IsTaken environment settings moves handle ∨ move = .await ∨
        move = .join ∧ (handle.play environment settings moves).run.isFinished = true := by
  have hanswered : (∃ earlier, earlier ++ [.join] <+: moves ++ [move] ∧
        (handle.play environment settings earlier).run.isFinished = true) ↔
      (∃ earlier, earlier ++ [.join] <+: moves ∧
        (handle.play environment settings earlier).run.isFinished = true) ∨
      move = .join ∧ (handle.play environment settings moves).run.isFinished = true := by
    simp only [List.prefix_concat_iff]
    constructor
    · rintro ⟨earlier, hwhole | hprefix, hfinished⟩
      · obtain ⟨rfl, hlast⟩ := List.append_inj' hwhole rfl
        exact Or.inr ⟨(List.singleton_inj.mp hlast).symm, hfinished⟩
      · exact Or.inl ⟨earlier, hprefix, hfinished⟩
    · rintro (⟨earlier, hprefix, hfinished⟩ | ⟨rfl, hfinished⟩)
      · exact ⟨earlier, Or.inr hprefix, hfinished⟩
      · exact ⟨moves, Or.inl rfl, hfinished⟩
  rw [IsTaken, IsTaken, hanswered, List.mem_append, List.mem_singleton, @eq_comm _ _ move]
  exact or_or_or_comm

theorem joined_play (hfresh : handle.joined = false) :
    (handle.play environment settings moves).joined = true ↔
      IsTaken environment settings moves handle := by
  induction moves using List.reverseRecOn with
  | nil => simp [play, hfresh, IsTaken]
  | append_singleton moves move ih =>
      rw [play_concat_move, joined_after, isTaken_concat, ih]

theorem join_of_joined (hjoined : handle.joined = true) : handle.join.1 = some (.ok ()) := by
  rw [join, if_pos hjoined]

theorem join_of_not_joined (hjoined : handle.joined = false) :
    handle.join.1 = resultOf handle.run.phase := by
  rw [join, hjoined, if_neg Bool.false_ne_true]
  split <;> simp_all

/-- A handle says that the run is over if it is, and also once someone waits for it to be. -/
theorem isFinished_play (hfresh : handle.joined = false) :
    (handle.play environment settings moves).isFinished = true ↔
      (handle.play environment settings moves).run.isFinished = true ∨ .await ∈ moves := by
  rw [isFinished, Bool.or_eq_true, joined_play environment settings hfresh]
  constructor
  · rintro ((hawait | ⟨earlier, ⟨rest, rfl⟩, hfinished⟩) | hfinished)
    · exact Or.inr hawait
    · rw [List.append_assoc, play_append_moves]
      have hphase := phase_play_of_isFinished environment settings hfinished ([.join] ++ rest)
      exact Or.inl (by rwa [Run.isFinished, hphase])
    · exact Or.inl hfinished
  · rintro (hfinished | hawait)
    · exact Or.inr hfinished
    · exact Or.inl (Or.inl hawait)

end Handle

end CameraHotplug
