import CameraHotplug.Proofs.Registration

/-!
# When a trial construction panics

Nothing that a worker asks for can panic but the construction of a device. The record of calls shows
it: what the worker was doing was broken off exactly if a construction that panicked was written down
meanwhile, and then the environment's own answer was the panic.
-/

namespace CameraHotplug

variable {σ ν δ α β : Type}

/-- Whether the call was a construction that panicked. -/
def Call.isPanic : Call → Bool
  | .construct _ _ .panicked => true
  | _ => false

/-! ### Asking -/

/-- Asking adds to the record, and no panic. -/
def IsSafe (ask : StateM (Observed σ) α) : Prop :=
  ∀ observed, ∃ new, (ask observed).2.calls = observed.calls ++ new ∧
    ∀ call ∈ new, call.isPanic = false

theorem isSafe_pure (answer : α) : IsSafe (pure answer : StateM (Observed σ) α) :=
  fun observed => ⟨[], (List.append_nil observed.calls).symm, by simp⟩

theorem isSafe_call (operation : StateM σ α) {record : α → Call}
    (hrecord : ∀ answer, (record answer).isPanic = false) :
    IsSafe (Observed.call operation record) :=
  fun observed => ⟨[record (operation observed.state).1], rfl, by simp [hrecord]⟩

theorem isSafe_bind {ask : StateM (Observed σ) α} {next : α → StateM (Observed σ) β}
    (hask : IsSafe ask) (hnext : ∀ answer, IsSafe (next answer)) : IsSafe (ask >>= next) := by
  intro observed
  obtain ⟨first, hfirst, hsafe⟩ := hask observed
  obtain ⟨second, hsecond, hsafeNext⟩ := hnext (ask observed).1 (ask observed).2
  refine ⟨first ++ second, ?_, ?_⟩
  · rw [bind_apply, hsecond, hfirst, List.append_assoc]
  · intro call hmem
    exact (List.mem_append.mp hmem).elim (hsafe call) (hsafeNext call)

theorem composes_isSafe : Composes (σ := σ) IsSafe :=
  ⟨isSafe_pure, isSafe_bind⟩

section Probing

variable (environment : Environment σ ν δ) (settings : Settings) (node : DeviceNode)

theorem isSafe_classify : IsSafe (classify environment settings node) :=
  composes_isSafe.classify (isSafe_call _ fun _ => rfl) (fun _ => isSafe_call _ fun _ => rfl)
    (isSafe_call _ fun _ => rfl) fun _ _ _ => isSafe_call _ fun _ => rfl

theorem isSafe_probeCapture : IsSafe (probeCapture environment node) :=
  composes_isSafe.probeCapture (isSafe_call _ fun _ => rfl) fun _ => isSafe_call _ fun _ => rfl

theorem isSafe_findReceiverAmong (names : List String) :
    IsSafe (Worker.findReceiverAmong environment settings names) := by
  induction names with
  | nil => exact isSafe_pure none
  | cons name names ih =>
      unfold Worker.findReceiverAmong
      cases settings.candidate? name with
      | none => exact ih
      | some node =>
          refine isSafe_bind (isSafe_classify environment settings node) ?_
          intro verdict
          cases verdict with
          | externalReceiver => exact isSafe_pure (some node)
          | external => exact ih
          | notExternal => exact ih

end Probing

/-! ### Treating -/

/-- What was done adds a construction that panicked exactly if it was broken off, and the environment
panics only if it was. -/
structure Constructs (environment : Environment σ ν δ) (before after : Observed σ)
    (broken : Prop) : Prop where
  calls : ∃ new, after.calls = before.calls ++ new ∧ ((∃ call ∈ new, call.isPanic = true) ↔ broken)
  cause : broken → ∃ version path state, (environment.construct version path state).1 = .panicked

namespace Constructs

variable {environment : Environment σ ν δ} {before middle after : Observed σ} {broken : Prop}

theorem rest (observed : Observed σ) : Constructs environment observed observed False where
  calls := ⟨[], by simp⟩
  cause := False.elim

theorem of_isSafe {ask : StateM (Observed σ) α} (hsafe : IsSafe ask) (observed : Observed σ) :
    Constructs environment observed (ask observed).2 False := by
  obtain ⟨new, hcalls, hnew⟩ := hsafe observed
  refine ⟨⟨new, hcalls, iff_false_intro ?_⟩, False.elim⟩
  rintro ⟨call, hmem, hpanic⟩
  exact Bool.false_ne_true ((hnew call hmem).symm.trans hpanic)

theorem trans (hfirst : Constructs environment before middle False)
    (hsecond : Constructs environment middle after broken) :
    Constructs environment before after broken := by
  obtain ⟨first, hbefore, hnone⟩ := hfirst.calls
  obtain ⟨second, hmiddle, hiff⟩ := hsecond.calls
  refine ⟨⟨first ++ second, by rw [hmiddle, hbefore, List.append_assoc], ?_⟩, hsecond.cause⟩
  rw [← hiff]
  constructor
  · rintro ⟨call, hmem, hpanic⟩
    rcases List.mem_append.mp hmem with hmem | hmem
    · exact (hnone.mp ⟨call, hmem, hpanic⟩).elim
    · exact ⟨call, hmem, hpanic⟩
  · rintro ⟨call, hmem, hpanic⟩
    exact ⟨call, List.mem_append_right first hmem, hpanic⟩

theorem congr {other : Prop} (hconstructs : Constructs environment before after broken)
    (hiff : broken ↔ other) : Constructs environment before after other :=
  propext hiff ▸ hconstructs

theorem construct (version : Version) (path : Path) (observed : Observed σ) :
    Constructs environment observed (Observed.construct environment version path observed).2
      ((Observed.construct environment version path observed).1 = .panicked) where
  calls := by
    refine ⟨_, rfl, ?_⟩
    rw [Observed.construct, Observed.call_apply]
    cases (environment.construct version path observed.state).1 <;>
      simp [Call.isPanic, Construction.discard]
  cause := fun hpanicked => ⟨version, path, observed.state, hpanicked⟩

end Constructs

namespace Worker

variable (environment : Environment σ ν δ) (settings : Settings) (worker : Worker σ)
  (node : DeviceNode)

theorem constructs_enroll :
    Constructs environment worker.outside (enroll environment settings worker node).2.outside
      ((enroll environment settings worker node).1 = .panicked) := by
  have hprobed : Constructs environment worker.outside
      (probeCapture environment node worker.outside).2 False :=
    .of_isSafe (isSafe_probeCapture environment node) worker.outside
  unfold enroll
  split
  next => exact (Constructs.rest worker.outside).congr (by simp)
  next id _ =>
    split
    next outside hprobe =>
      rw [hprobe] at hprobed
      exact hprobed.congr (by simp)
    next outside hprobe =>
      rw [hprobe] at hprobed
      have htried := hprobed.trans (Constructs.construct trialVersion node.path outside)
      split
      next hmade =>
        rw [hmade] at htried
        exact htried.congr (by simp)
      next hmade =>
        rw [hmade] at htried
        exact htried.congr (by simp)
      next hmade =>
        rw [hmade] at htried
        refine htried.congr ?_
        dsimp only
        split_ifs <;> simp

theorem constructs_inspect :
    Constructs environment worker.outside (inspect environment settings worker node).2.outside
      ((inspect environment settings worker node).1 = .panicked) := by
  have hclassified : Constructs environment worker.outside
      (classify environment settings node worker.outside).2 False :=
    .of_isSafe (isSafe_classify environment settings node) worker.outside
  unfold inspect
  split
  next hclass =>
    rw [hclass] at hclassified
    exact hclassified.congr (by simp)
  next outside hclass =>
    rw [hclass] at hclassified
    exact hclassified.trans (constructs_enroll environment settings { worker with outside } node)
  next outside hclass =>
    rw [hclass] at hclassified
    exact hclassified.trans (constructs_enroll environment settings
      { worker with outside, receiver? := settings.logicalId? node } node)

theorem constructs_scanEntry (name : String) :
    Constructs environment worker.outside (scanEntry environment settings worker name).2.outside
      ((scanEntry environment settings worker name).1 = .panicked) := by
  unfold scanEntry
  split
  next => exact (Constructs.rest worker.outside).congr (by simp)
  next node _ => exact constructs_inspect environment settings worker node

theorem constructs_readDirectory :
    Constructs environment worker.outside (readDirectory environment settings worker).2.outside
      False :=
  .of_isSafe (isSafe_call _ fun _ => rfl) worker.outside

theorem constructs_pause (milliseconds : UInt64) :
    Constructs environment worker.outside (pause environment worker milliseconds).outside False := by
  have hpaused : Constructs environment worker.outside
      (Observed.pause environment milliseconds worker.outside).2 False :=
    .of_isSafe (isSafe_call _ fun _ => rfl) worker.outside
  exact hpaused

theorem constructs_registerWatch :
    Constructs environment worker.outside (registerWatch environment settings worker).2.outside
      False := by
  have hopened : Constructs environment worker.outside
      (Observed.openWatch environment settings.deviceDirectory worker.outside).2 False :=
    .of_isSafe (isSafe_call _ fun _ => rfl) worker.outside
  unfold registerWatch
  split
  next hanswer =>
    rw [hanswer] at hopened
    exact hopened
  next hanswer =>
    rw [hanswer] at hopened
    exact hopened

theorem constructs_awaitEvents :
    Constructs environment worker.outside (awaitEvents environment settings worker).2.outside
      False := by
  have hwaited : Constructs environment worker.outside
      (Observed.wait environment settings.pollTimeout worker.outside).2 False :=
    .of_isSafe (isSafe_call _ fun _ => rfl) worker.outside
  have hregistered := constructs_registerWatch environment settings worker
  unfold awaitEvents
  split
  · split
    next hanswer =>
      rw [hanswer] at hwaited
      exact hwaited
    next hanswer =>
      rw [hanswer] at hwaited
      exact hwaited
  · split
    next hopened =>
      rw [hopened] at hregistered
      exact hregistered
    next hopened =>
      rw [hopened] at hregistered
      exact hregistered.trans (constructs_pause environment _ _)

theorem constructs_findReceiver :
    Constructs environment worker.outside (findReceiver environment settings worker).2.outside
      False := by
  have hlisted := constructs_readDirectory environment settings worker
  unfold findReceiver
  split
  next hanswer =>
    rw [hanswer] at hlisted
    exact hlisted
  next names next hanswer =>
    rw [hanswer] at hlisted
    exact hlisted.trans
      (.of_isSafe (isSafe_findReceiverAmong environment settings names) next.outside)

theorem constructs_nodeCreated :
    Constructs environment worker.outside (nodeCreated environment settings worker node).2.outside
      ((nodeCreated environment settings worker node).1 = .panicked) := by
  have hinspected := (constructs_pause environment worker settings.settleDelay).trans
    (constructs_inspect environment settings _ node)
  exact hinspected.congr (Attempt.ending_eq_panicked_iff _).symm

theorem constructs_auxCreated :
    Constructs environment worker.outside (auxCreated environment settings worker).2.outside
      ((auxCreated environment settings worker).1 = .panicked) := by
  have hsearched := (constructs_pause environment worker settings.receiverSettleDelay).trans
    (constructs_findReceiver environment settings _)
  unfold auxCreated
  split
  next hfound =>
    rw [hfound] at hsearched
    exact hsearched.congr (by simp)
  next node next hfound =>
    rw [hfound] at hsearched
    have henrolled := hsearched.trans (constructs_enroll environment settings
      { next with receiver? := settings.logicalId? node } node)
    exact henrolled.congr (Attempt.ending_eq_panicked_iff _).symm

theorem constructs_handleEvent (event : WatchEvent) :
    Constructs environment worker.outside (handleEvent environment settings worker event).2.outside
      ((handleEvent environment settings worker event).1 = .panicked) := by
  have hrests : Constructs environment worker.outside worker.outside
      (Ending.returned = .panicked) :=
    (Constructs.rest worker.outside).congr (by simp)
  rw [handleEvent_eq]
  split
  next node _ =>
    split
    next => exact constructs_nodeCreated environment settings worker node
    next => simpa only [outside_nodeDeleted] using hrests
  next =>
    split
    next =>
      split
      next => exact constructs_auxCreated environment settings worker
      next => simpa only [outside_auxDeleted] using hrests
    next => exact hrests

end Worker

end CameraHotplug
