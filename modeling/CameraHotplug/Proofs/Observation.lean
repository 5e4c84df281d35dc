import CameraHotplug.Classification
import Mathlib.Tactic.SplitIfs

/-!
# What asking leaves behind

Discovery knows the outside only by asking. Asking adds to the record of calls and never takes from
it, and the record shows what a probe and a construction were told. Where the answers depend on a
part of the outside that asking leaves alone, so does everything that discovery concludes from them.
-/

namespace CameraHotplug

open Observed

variable {σ ν δ κ α β : Type}

theorem bind_apply (ask : StateM σ α) (next : α → StateM σ β) (state : σ) :
    (ask >>= next) state = next (ask state).1 (ask state).2 := rfl

theorem pure_apply (answer : α) (state : σ) : (pure answer : StateM σ α) state = (answer, state) :=
  rfl

theorem Observed.call_apply (operation : StateM σ α) (record : α → Call)
    (observed : Observed σ) :
    call operation record observed =
      ((operation observed.state).1,
        ⟨(operation observed.state).2,
          observed.calls ++ [record (operation observed.state).1]⟩) := rfl

/-! ### Asking about one node -/

/-- A property that a question and what is asked after it hand on to the whole. -/
structure Composes (holds : ∀ {α : Type}, StateM (Observed σ) α → Prop) : Prop where
  pure : ∀ {α : Type} (answer : α), holds (Pure.pure answer)
  bind : ∀ {α β : Type} {ask : StateM (Observed σ) α} {next : α → StateM (Observed σ) β},
    holds ask → (∀ answer, holds (next answer)) → holds (ask >>= next)

section Composition

variable {environment : Environment σ ν δ} {settings : Settings} {node : DeviceNode}
  {holds : ∀ {α : Type}, StateM (Observed σ) α → Prop}

/-- What holds of each question that classifying a node may ask holds of classifying it. -/
theorem Composes.classify (hcomposes : Composes holds)
    (hopen : holds (Observed.openNode environment node.path .probe))
    (hquery : ∀ opened, holds (Observed.queryCapability environment opened))
    (hattribute : holds (Observed.readAttribute environment
      (node.nameAttribute settings.sysfsRoot)))
    (hformat : ∀ opened queue index,
      holds (Observed.enumerateFormat environment opened queue index)) :
    holds (classify environment settings node) := by
  apply hcomposes.bind hopen
  intro opening
  cases opening with
  | error _ => exact hcomposes.pure _
  | ok opened =>
      apply hcomposes.bind (hquery opened)
      intro answer
      cases answer with
      | error _ => exact hcomposes.pure _
      | ok capability =>
          apply hcomposes.bind hattribute
          intro content
          cases content with
          | error _ => exact hcomposes.pure _
          | ok content =>
              dsimp only
              split_ifs
              · exact hcomposes.pure _
              · apply hcomposes.bind (hformat opened _ _)
                intro format
                cases format <;> exact hcomposes.pure _
              · exact hcomposes.pure _
              · exact hcomposes.pure _

theorem Composes.probeCapture (hcomposes : Composes holds)
    (hopen : holds (Observed.openNode environment node.path .blocking))
    (hquery : ∀ opened, holds (Observed.queryCapability environment opened)) :
    holds (probeCapture environment node) := by
  apply hcomposes.bind hopen
  intro opening
  cases opening with
  | error _ => exact hcomposes.pure _
  | ok opened =>
      apply hcomposes.bind (hquery opened)
      intro answer
      cases answer <;> exact hcomposes.pure _

end Composition

/-! ### The record only grows -/

def Extends (ask : StateM (Observed σ) α) : Prop :=
  ∀ observed, observed.calls <+: (ask observed).2.calls

theorem extends_pure (answer : α) : Extends (pure answer : StateM (Observed σ) α) :=
  fun observed => List.prefix_refl observed.calls

theorem extends_call (operation : StateM σ α) (record : α → Call) :
    Extends (call operation record) :=
  fun observed => List.prefix_append observed.calls [record (operation observed.state).1]

theorem extends_bind {ask : StateM (Observed σ) α} {next : α → StateM (Observed σ) β}
    (hask : Extends ask) (hnext : ∀ answer, Extends (next answer)) : Extends (ask >>= next) :=
  fun observed => (hask observed).trans (hnext (ask observed).1 (ask observed).2)

theorem composes_extends : Composes (σ := σ) Extends :=
  ⟨extends_pure, extends_bind⟩

/-! ### What does not change while it is asked -/

/-- Asking leaves what `view` shows as it is, and the answer depends on nothing else. -/
def Settled (view : σ → κ) (ask : StateM σ α) : Prop :=
  ∀ state, view (ask state).2 = view state ∧
    ∀ other, view other = view state → (ask other).1 = (ask state).1

/-- What only reads is settled by the whole state. -/
theorem settled_id {ask : StateM σ α} (hkept : ∀ state, (ask state).2 = state) : Settled id ask :=
  fun state => ⟨hkept state, fun _ hsame => congrArg (fun state => (ask state).1) hsame⟩

theorem settled_pure (view : σ → κ) (answer : α) : Settled view (pure answer : StateM σ α) :=
  fun _ => ⟨rfl, fun _ _ => rfl⟩

theorem settled_bind {view : σ → κ} {ask : StateM σ α} {next : α → StateM σ β}
    (hask : Settled view ask) (hnext : ∀ answer, Settled view (next answer)) :
    Settled view (ask >>= next) := by
  intro state
  obtain ⟨hkept, hanswer⟩ := hask state
  obtain ⟨hnextKept, _⟩ := hnext (ask state).1 (ask state).2
  refine ⟨hnextKept.trans hkept, ?_⟩
  intro other hother
  change (next (ask other).1 (ask other).2).1 = (next (ask state).1 (ask state).2).1
  rw [hanswer other hother]
  refine (hnext (ask state).1 (ask state).2).2 (ask other).2 ?_
  rw [(hask other).1, hother, hkept]

theorem composes_settled (view : Observed σ → κ) : Composes (Settled view) :=
  ⟨settled_pure view, settled_bind⟩

theorem settled_call {view : σ → κ} {operation : StateM σ α} (record : α → Call)
    (hoperation : Settled view operation) :
    Settled (fun observed : Observed σ => view observed.state) (call operation record) :=
  fun observed => ⟨(hoperation observed.state).1, fun other hother =>
    (hoperation observed.state).2 other.state hother⟩

/-- All that is asked about one node is settled by what `view` shows. -/
structure Environment.Steady (environment : Environment σ ν δ) (settings : Settings)
    (node : DeviceNode) (view : σ → κ) : Prop where
  openNode : ∀ mode, Settled view (environment.openNode node.path mode)
  queryCapability : ∀ opened, Settled view (environment.queryCapability opened)
  enumerateFormat : ∀ opened queue index,
    Settled view (environment.enumerateFormat opened queue index)
  readAttribute : Settled view (environment.readAttribute (node.nameAttribute settings.sysfsRoot))
  construct : ∀ version, Settled view (environment.construct version node.path)

section Probing

variable (environment : Environment σ ν δ) (settings : Settings) (node : DeviceNode)

theorem extends_classify : Extends (classify environment settings node) :=
  composes_extends.classify (extends_call _ _) (fun _ => extends_call _ _) (extends_call _ _)
    fun _ _ _ => extends_call _ _

theorem extends_probeCapture : Extends (probeCapture environment node) :=
  composes_extends.probeCapture (extends_call _ _) fun _ => extends_call _ _

/-- A probe succeeds on a node that opens for use, answers, and shows that it captures. -/
theorem calls_of_probeCapture {observed : Observed σ}
    (hprobe : (probeCapture environment node observed).1 = true) :
    ∃ capability : Capability, capability.nodeCaps &&& Kernel.anyCapture ≠ 0 ∧
      (probeCapture environment node observed).2.calls = observed.calls ++
        [.openNode node.path .blocking (.ok ()), .queryCapability (.ok capability)] := by
  simp only [probeCapture, bind_apply, Observed.openNode, Observed.queryCapability, call_apply]
    at hprobe ⊢
  cases hopening : (environment.openNode node.path .blocking observed.state).1 with
  | error _ => simp [hopening, pure_apply] at hprobe
  | ok opened =>
      simp only [hopening, bind_apply, call_apply] at hprobe ⊢
      cases hanswer : (environment.queryCapability opened
          (environment.openNode node.path .blocking observed.state).2).1 with
      | error _ => simp [hanswer, pure_apply] at hprobe
      | ok capability =>
          simp only [hanswer, pure_apply, Capability.isCapture, decide_eq_true_eq] at hprobe ⊢
          exact ⟨capability, hprobe, by simp [Except.map]⟩

def Passes (version : Version) (observed : Observed σ) : Prop :=
  (probeCapture environment node observed).1 = true ∧
    ∃ device, (Observed.construct environment version node.path
      (probeCapture environment node observed).2).1 = .built device

end Probing

section Steadiness

variable {environment : Environment σ ν δ} {settings : Settings} {node : DeviceNode}
  {view : σ → κ} (hsteady : environment.Steady settings node view)

include hsteady

theorem settled_classify :
    Settled (fun observed : Observed σ => view observed.state)
      (classify environment settings node) :=
  (composes_settled _).classify (settled_call _ (hsteady.openNode _))
    (fun _ => settled_call _ (hsteady.queryCapability _)) (settled_call _ hsteady.readAttribute)
    fun _ _ _ => settled_call _ (hsteady.enumerateFormat _ _ _)

theorem settled_probeCapture :
    Settled (fun observed : Observed σ => view observed.state)
      (probeCapture environment node) :=
  (composes_settled _).probeCapture (settled_call _ (hsteady.openNode _))
    fun _ => settled_call _ (hsteady.queryCapability _)

theorem passes_congr {version : Version} {left right : Observed σ}
    (hview : view left.state = view right.state) :
    Passes environment node version left ↔ Passes environment node version right := by
  obtain ⟨hleft, hprobe⟩ := settled_probeCapture hsteady left
  obtain ⟨hright, _⟩ := settled_probeCapture hsteady right
  have hconstruct := (hsteady.construct version (probeCapture environment node left).2.state).2
    (probeCapture environment node right).2.state (hright.trans (hview.symm.trans hleft.symm))
  unfold Passes
  rw [hprobe right hview.symm, Observed.construct, Observed.call_apply, Observed.call_apply,
    hconstruct]

end Steadiness

end CameraHotplug
