import CameraHotplug.Provider
import CameraHotplug.Proofs.Thread

/-!
# Shutting down

A shutdown is a stop, as many steps as the run still needs, and a join. The steps are enough: what a
run has in hand is known when it has read the directory, and each step leaves less of it, so the run
comes to rest, where it finds that a stop was requested.
-/

namespace CameraHotplug

variable {σ ν δ : Type} (environment : Environment σ ν δ) (settings : Settings)

/-- How many steps there are until the directory has been read, if it can be read. -/
def Phase.toRead : Phase → Nat
  | .starting => 2
  | .listing => 1
  | _ => 0

namespace Run

section Becoming

variable {environment settings} {run next : Run σ}

theorem Becomes.toRead_le (hbecomes : run.Becomes environment settings next) :
    next.phase.toRead ≤ run.phase.toRead - 1 := by
  cases hbecomes with
  | ended hfinished =>
      rw [isFinished] at hfinished
      cases hphase : run.phase with
      | starting | listing => simp [hphase, Phase.isFinished] at hfinished
      | _ => exact Nat.zero_le _
  | _ hphase => simp [hphase, Phase.toRead]

theorem Becomes.pending_lt (hbecomes : run.Becomes environment settings next)
    (hread : run.phase.toRead = 0) (hbusy : ¬ run.isAtRest = true) :
    next.pending < run.pending := by
  cases hbecomes with
  | ended hfinished =>
      refine absurd ?_ hbusy
      rw [isFinished] at hfinished
      rw [isAtRest]
      split
      · rfl
      · exact hfinished
  | stopped hphase | awaited hphase => simp [isAtRest, hphase] at hbusy
  | opened hphase | failed hphase | listed hphase => simp [hphase, Phase.toRead] at hread
  | _ hphase => simp [pending, hphase]

theorem isAtRest_of_pending (hread : run.phase.toRead = 0) (hpending : run.pending = 0) :
    run.isAtRest = true := by
  rw [pending] at hpending
  rw [isAtRest]
  cases hphase : run.phase with
  | starting | listing => simp [hphase, Phase.toRead] at hread
  | scanning | handling => simp [hphase] at hpending
  | _ => rfl

end Becoming

/-! ### The work in hand -/

section Resting

variable {environment settings} {run : Run σ} {limit : Nat}

theorem toRead_stepsToRest (hlimit : run.phase.toRead ≤ limit) :
    (run.stepsToRest environment settings limit).phase.toRead = 0 := by
  induction limit generalizing run with
  | zero => exact Nat.le_zero.mp hlimit
  | succ limit ih =>
      rw [stepsToRest]
      split_ifs with hrest
      · rw [isAtRest] at hrest
        cases hphase : run.phase with
        | starting | listing => simp [hphase, Phase.isFinished] at hrest
        | _ => rfl
      · have hnext := (run.becomes_step environment settings).toRead_le
        exact ih (by omega)

theorem isAtRest_stepsToRest (hread : run.phase.toRead = 0) (hlimit : run.pending ≤ limit) :
    (run.stepsToRest environment settings limit).isAtRest = true := by
  induction limit generalizing run with
  | zero => exact isAtRest_of_pending hread (Nat.le_zero.mp hlimit)
  | succ limit ih =>
      rw [stepsToRest]
      split_ifs with hrest
      · exact hrest
      · have hbecomes := run.becomes_step environment settings
        have hnext := hbecomes.toRead_le
        have hless := hbecomes.pending_lt hread hrest
        exact ih (by omega) (by omega)

end Resting

variable (run : Run σ)

theorem isAtRest_toRest : (run.toRest environment settings).isAtRest = true := by
  have hread : (run.stepsToRest environment settings 2).phase.toRead = 0 := by
    refine toRead_stepsToRest ?_
    cases run.phase <;> simp [Phase.toRead]
  exact isAtRest_stepsToRest hread (Nat.le_refl _)

theorem steps_add (first second : Nat) :
    run.steps environment settings (first + second) =
      (run.steps environment settings first).steps environment settings second := by
  induction first generalizing run with
  | zero => rw [Nat.zero_add, steps]
  | succ first ih => rw [Nat.succ_add, steps, steps, ih]

theorem exists_stepsToRest_eq (limit : Nat) : ∃ count,
    run.stepsToRest environment settings limit = run.steps environment settings count := by
  induction limit generalizing run with
  | zero => exact ⟨0, rfl⟩
  | succ limit ih =>
      rw [stepsToRest]
      split_ifs
      · exact ⟨0, rfl⟩
      · obtain ⟨count, hcount⟩ := ih (run.step environment settings)
        exact ⟨count + 1, hcount⟩

theorem exists_toRest_eq : ∃ count,
    run.toRest environment settings = run.steps environment settings count := by
  obtain ⟨first, hfirst⟩ := run.exists_stepsToRest_eq environment settings 2
  obtain ⟨second, hsecond⟩ := (run.steps environment settings first).exists_stepsToRest_eq
    environment settings (run.steps environment settings first).pending
  refine ⟨first + second, ?_⟩
  rw [toRest, hfirst, steps_add]
  exact hsecond

@[simp]
theorem stopRequested_steps (count : Nat) :
    (run.steps environment settings count).stopRequested = run.stopRequested := by
  induction count generalizing run with
  | zero => rfl
  | succ count ih => rw [steps, ih, stopRequested_step]

theorem isFinished_steps {run : Run σ} (hfinished : run.isFinished = true) (count : Nat) :
    (run.steps environment settings count).isFinished = true := by
  induction count with
  | zero => exact hfinished
  | succ count ih => rwa [steps, step_of_isFinished hfinished]

/-- At rest a run finds that it is to stop, unless it is over. -/
theorem isFinished_step_of_isAtRest {run : Run σ} (hrest : run.isAtRest = true)
    (hstop : run.stopRequested = true) : (run.step environment settings).isFinished = true := by
  rw [isAtRest] at hrest
  cases hphase : run.phase with
  | waiting => simp [step, hphase, hstop, isFinished, Phase.isFinished]
  | returned | panicked => simp [step, hphase, isFinished, Phase.isFinished]
  | _ => simp [hphase, Phase.isFinished] at hrest

theorem exists_settle_eq (hstop : run.stopRequested = true) : ∃ count,
    run.settle environment settings 1 = run.steps environment settings count ∧
      (run.steps environment settings count).isFinished = true := by
  have hsettle : run.settle environment settings 1 =
      ((run.toRest environment settings).step environment settings).toRest environment
        settings := by
    rw [settle]
    split_ifs <;> rfl
  obtain ⟨first, hfirst⟩ := run.exists_toRest_eq environment settings
  have hrest := run.isAtRest_toRest environment settings
  rw [hfirst] at hsettle hrest
  have hover := isFinished_step_of_isAtRest environment settings hrest
    ((run.stopRequested_steps environment settings first).trans hstop)
  obtain ⟨second, hsecond⟩ := exists_toRest_eq environment settings
    ((run.steps environment settings first).step environment settings)
  have hsum : run.steps environment settings (first + (second + 1)) =
      ((run.steps environment settings first).step environment settings).steps environment settings
        second :=
    run.steps_add environment settings first (second + 1)
  refine ⟨first + (second + 1), ?_, ?_⟩
  · rw [hsettle, hsecond, hsum]
  · rw [hsum]
    exact isFinished_steps environment settings hover second

end Run

namespace Handle

/-- What a shutdown does with a run before it takes the result. -/
def shutdownMoves (count : Nat) : List (Move σ) :=
  .stop :: List.replicate count .step

variable (handle : Handle σ) (count : Nat)

theorem play_replicate_step :
    handle.play environment settings (List.replicate count .step) =
      { handle with run := handle.run.steps environment settings count } := by
  induction count generalizing handle with
  | zero => rfl
  | succ count ih =>
      rw [List.replicate_succ, play_cons_move, ih]
      rfl

theorem play_shutdownMoves :
    handle.play environment settings (shutdownMoves count) =
      { handle with run := handle.run.requestStop.steps environment settings count } := by
  rw [shutdownMoves, play_cons_move, play_replicate_step]
  rfl

end Handle

/-- A shutdown requests a stop, and takes the result when the run has come to its end. -/
theorem Provider.exists_shutdown_eq (provider : Provider σ) : ∃ count, ∀ handle,
    handle = provider.handle.play environment provider.settings (Handle.shutdownMoves count) →
      handle.run.isFinished = true ∧ handle.joined = provider.handle.joined ∧
        provider.shutdown environment =
          (handle.join.1, { provider with handle := handle.join.2 }) := by
  obtain ⟨count, hsettle, hfinished⟩ :=
    (provider.handle.run.requestStop).exists_settle_eq environment provider.settings rfl
  refine ⟨count, ?_⟩
  rintro handle rfl
  rw [Handle.play_shutdownMoves, ← hsettle]
  rw [← hsettle] at hfinished
  exact ⟨hfinished, rfl, rfl⟩

end CameraHotplug
