import CameraHotplug.Bench
import CameraHotplug.Proofs.Thread
import Mathlib.Data.Prod.Lex

/-!
# After a stop was requested

A run reads the stop flag between two batches of events and nowhere else. Asked to stop, it first
completes what it has in hand: it handles the whole rest of the batch that it took last, one event
after the other, and no event after these. Every step leaves less to do, so the run is over as soon
as it has been given steps enough.
-/

namespace CameraHotplug

variable {σ ν δ : Type} (environment : Environment σ ν δ) (settings : Settings)

/-- How much a run that is to stop has left to do. How many entries there will be is not known before
the directory has been read, so the steps up to then count more than any number of entries. -/
def Phase.remaining : Phase → Nat ×ₗ Nat
  | .starting => toLex (2, 0)
  | .listing => toLex (1, 0)
  | .scanning names => toLex (0, names.length + 2)
  | .handling events => toLex (0, events.length + 2)
  | .waiting => toLex (0, 1)
  | .returned _ | .panicked => toLex (0, 0)

namespace Run

variable {environment settings} {run next : Run σ}

theorem Becomes.remaining_lt (hbecomes : run.Becomes environment settings next)
    (hstop : run.stopRequested = true) (hgoing : run.isFinished = false) :
    next.phase.remaining < run.phase.remaining := by
  cases hbecomes with
  | awaited _ hgoesOn => exact absurd hstop hgoesOn
  | ended hfinished => exact absurd (hgoing.symm.trans hfinished) Bool.false_ne_true
  | _ hphase => simp [hphase, Phase.remaining, Prod.Lex.toLex_lt_toLex]

theorem handling_of_isFinished (hfinished : run.isFinished = true) : run.handling = [] := by
  obtain ⟨worker, phase, stage, stopRequested⟩ := run
  cases phase with
  | handling events => exact absurd hfinished Bool.false_ne_true
  | _ => rfl

/-- A batch only gets shorter, event by event. What a panic leaves of it is lost. -/
theorem Becomes.handling (hbecomes : run.Becomes environment settings next)
    (hstop : run.stopRequested = true) :
    run.handling.take 1 ++ next.handling <+: run.handling ∧
      (next.phase ≠ .panicked → run.handling.take 1 ++ next.handling = run.handling) := by
  cases hbecomes with
  | awaited _ hgoesOn => exact absurd hstop hgoesOn
  | ended hfinished => simp [handling_of_isFinished hfinished]
  | _ hphase => simp [Run.handling, hphase]

end Run

namespace Handle

variable {handle : Handle σ} {schedule : Nat → Move σ}

/-! ### The run comes to its end -/

theorem remaining_after_le (hstop : handle.run.stopRequested = true) (move : Move σ) :
    (handle.after environment settings move).run.phase.remaining ≤ handle.run.phase.remaining := by
  by_cases hmove : move = .step
  · subst hmove
    cases hfinished : handle.run.isFinished with
    | true => exact (congrArg (·.phase.remaining) (Run.step_of_isFinished hfinished)).le
    | false => exact ((handle.run.becomes_step environment settings).remaining_lt hstop hfinished).le
  · rw [(rests_after environment settings hmove).phase]

theorem stopRequested_follow_of_le {early late : Nat} (hle : early ≤ late)
    (hstop : (handle.follow environment settings schedule early).run.stopRequested = true) :
    (handle.follow environment settings schedule late).run.stopRequested = true := by
  induction late, hle using Nat.le_induction with
  | base => exact hstop
  | succ late _ ih => exact (stopRequested_after environment settings).mpr (Or.inl ih)

theorem remaining_follow_le {early late : Nat} (hle : early ≤ late)
    (hstop : (handle.follow environment settings schedule early).run.stopRequested = true) :
    (handle.follow environment settings schedule late).run.phase.remaining ≤
      (handle.follow environment settings schedule early).run.phase.remaining := by
  induction late, hle using Nat.le_induction with
  | base => exact le_refl _
  | succ late hle ih =>
      have hlate := stopRequested_follow_of_le environment settings hle hstop
      exact (remaining_after_le environment settings hlate (schedule late)).trans ih

/-- A run that is to stop and goes on taking steps is over at some point. -/
theorem exists_isFinished (hsteps : ∀ early, ∃ late, early ≤ late ∧ schedule late = .step)
    {early : Nat}
    (hstop : (handle.follow environment settings schedule early).run.stopRequested = true) :
    ∃ late, (handle.follow environment settings schedule late).run.isFinished = true := by
  -- the induction is on what is left to do, which the next step makes less
  induction hremaining : (handle.follow environment settings schedule early).run.phase.remaining
    using WellFoundedLT.induction generalizing early with
  | ind remaining ih =>
      obtain ⟨late, hle, hstep⟩ := hsteps early
      have hlate := stopRequested_follow_of_le environment settings hle hstop
      cases hfinished : (handle.follow environment settings schedule late).run.isFinished with
      | true => exact ⟨late, hfinished⟩
      | false =>
          have hnext : (handle.follow environment settings schedule (late + 1)).run =
              (handle.follow environment settings schedule late).run.step environment settings := by
            rw [follow, hstep, after]
          have hless := (Run.becomes_step environment settings _).remaining_lt hlate hfinished
          rw [← hnext] at hless
          refine @ih _ ?_ (late + 1) ?_ rfl
          · rw [← hremaining]
            exact hless.trans_le (remaining_follow_le environment settings hle hstop)
          · rw [hnext, Run.stopRequested_step]
            exact hlate

/-! ### The batch in hand -/

/-- The event whose handling begins with a move, if one does. -/
def begins (handle : Handle σ) : Move σ → List WatchEvent
  | .step => handle.run.handling.take 1
  | _ => []

/-- The events whose handling begins in the course of some moves, in this order. -/
def begun : List (Move σ) → Handle σ → List WatchEvent
  | [], _ => []
  | move :: moves, handle =>
    handle.begins move ++ begun moves (handle.after environment settings move)

theorem handling_after (hstop : handle.run.stopRequested = true) (move : Move σ) :
    handle.begins move ++ (handle.after environment settings move).run.handling <+:
        handle.run.handling ∧
      ((handle.after environment settings move).run.phase ≠ .panicked →
        handle.begins move ++ (handle.after environment settings move).run.handling =
          handle.run.handling) := by
  by_cases hmove : move = .step
  · subst hmove
    exact (handle.run.becomes_step environment settings).handling hstop
  · have hbegins : handle.begins move = [] := by
      cases move with
      | step => exact absurd rfl hmove
      | _ => rfl
    have hhandling : (handle.after environment settings move).run.handling =
        handle.run.handling := by
      unfold Run.handling
      rw [(rests_after environment settings hmove).phase]
    rw [hbegins, hhandling, List.nil_append]
    exact ⟨List.prefix_refl _, fun _ => rfl⟩

theorem begun_append_handling (hstop : handle.run.stopRequested = true) (moves : List (Move σ)) :
    handle.begun environment settings moves ++
        (handle.play environment settings moves).run.handling <+: handle.run.handling ∧
      ((handle.play environment settings moves).run.phase ≠ .panicked →
        handle.begun environment settings moves ++
          (handle.play environment settings moves).run.handling = handle.run.handling) := by
  induction moves generalizing handle with
  | nil => exact ⟨List.prefix_refl _, fun _ => rfl⟩
  | cons move moves ih =>
      have hnext : (handle.after environment settings move).run.stopRequested = true :=
        (stopRequested_after environment settings).mpr (Or.inl hstop)
      obtain ⟨hfirst, hwhole⟩ := handling_after environment settings hstop move
      obtain ⟨hrest, hwholeRest⟩ := ih hnext
      rw [begun, play_cons_move, List.append_assoc]
      constructor
      · exact ((List.prefix_append_right_inj (handle.begins move)).mpr hrest).trans hfirst
      · intro hphase
        rw [hwholeRest hphase]
        apply hwhole
        intro hpanicked
        have hfinished : (handle.after environment settings move).run.isFinished = true := by
          rw [Run.isFinished, hpanicked, Phase.isFinished]
        rw [phase_play_of_isFinished environment settings hfinished] at hphase
        exact hphase hpanicked

/-- Whatever is in hand when a stop is requested is handled first, all of it unless a construction
panics, and nothing after it. So no event is begun any more if and only if nothing is in hand then. A
run that goes on taking steps comes to its end. -/
theorem stop_waits_for_batch (handle : Handle σ) :
    (∀ moves, handle.requestStop.begun environment settings moves <+: handle.run.handling) ∧
    (∀ moves, (handle.requestStop.play environment settings moves).run.isFinished = true →
      (handle.requestStop.play environment settings moves).run.phase ≠ .panicked →
      handle.requestStop.begun environment settings moves = handle.run.handling) ∧
    ((∀ moves, handle.requestStop.begun environment settings moves = []) ↔
      handle.run.handling = []) ∧
    ∀ schedule, (∀ early, ∃ late, early ≤ late ∧ schedule late = .step) →
      ∃ count,
        (handle.requestStop.follow environment settings schedule count).run.isFinished = true := by
  have hstop : handle.requestStop.run.stopRequested = true := rfl
  have hbegun : ∀ moves,
      handle.requestStop.begun environment settings moves <+: handle.run.handling := by
    intro moves
    have hbatch := (begun_append_handling environment settings hstop moves).1
    exact (List.prefix_append _ _).trans hbatch
  refine ⟨hbegun, ?_, ?_, ?_⟩
  · intro moves hfinished hphase
    have hwhole := (begun_append_handling environment settings hstop moves).2 hphase
    rwa [Run.handling_of_isFinished hfinished, List.append_nil] at hwhole
  · constructor
    · intro hnone
      have hfirst : handle.run.handling.take 1 ++ [] = [] := hnone [.step]
      rw [List.append_nil, List.take_eq_nil_iff] at hfirst
      exact hfirst.resolve_left Nat.one_ne_zero
    · intro hempty moves
      exact List.prefix_nil.mp (hempty ▸ hbegun moves)
  · intro schedule hsteps
    exact @exists_isFinished _ _ _ environment settings _ schedule hsteps 0 hstop

/-! A camera that was there from the start is reported once more and leaves at once. Both events are
taken together. -/

def queuedBench : Bench :=
  (((Bench.ofSettings .standard).addNode "video1" .uvcCamera).emit ⟨.created, "video1"⟩).emit
    ⟨.deleted, "video1"⟩

/-- The arrival has just been handled, and the departure is in hand. -/
def busyHandle : Handle Bench :=
  (spawned (Worker.start queuedBench .empty) .uninitialized).play
    (Bench.environment fun _ _ => .built ()) .standard (List.replicate 6 .step)

theorem busyHandle_begins_departure :
    busyHandle.requestStop.begun (Bench.environment fun _ _ => .built ()) .standard
      (List.replicate 3 .step) = [⟨.deleted, "video1"⟩] := by
  have hhandling : busyHandle.run.handling = [⟨.deleted, "video1"⟩] := by decide +kernel
  obtain ⟨_, hwhole, _⟩ :=
    stop_waits_for_batch (Bench.environment fun _ _ => .built ()) .standard busyHandle
  rw [← hhandling]
  apply hwhole
  · decide +kernel
  · intro hphase
    have hresult : (resultOf (busyHandle.requestStop.play (Bench.environment fun _ _ => .built ())
        .standard (List.replicate 3 .step)).run.phase).map Except.isOk = some true := by
      decide +kernel
    rw [hphase] at hresult
    exact absurd hresult (by decide)

/-- One step after the stop was requested, the next event of the batch is handled, and the camera is
gone from the registry. -/
theorem departure_handled_after_stop :
    busyHandle.requestStop.run.stopRequested = true ∧
    busyHandle.requestStop.run.worker.registry.devices.toList = [⟨3, 4, 101⟩] ∧
    busyHandle.requestStop.begun (Bench.environment fun _ _ => .built ()) .standard [.step] =
      [⟨.deleted, "video1"⟩] ∧
    (busyHandle.requestStop.play (Bench.environment fun _ _ => .built ()) .standard
      [.step]).run.worker.registry.devices.toList = [] := by
  decide +kernel

end Handle

end CameraHotplug
