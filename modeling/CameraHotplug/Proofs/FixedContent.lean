import CameraHotplug.Bench
import CameraHotplug.Proofs.Registration

/-!
# While the world stays as it is

As long as the answers depend on a content that no question changes, whatever is asked again is
answered as before and adds the same calls to the record. Two workers that know the same about the
same content then do the same to a node.
-/

namespace CameraHotplug

variable {σ ν δ κ α β : Type}

/-- The answers depend on what `view` shows, and asking leaves that as it is. What a construction
comes to is left open; opening a watch and waiting are left out. -/
structure Environment.IsFixed (environment : Environment σ ν δ) (view : σ → κ) : Prop where
  readDirectory : ∀ directory, Settled view (environment.readDirectory directory)
  openNode : ∀ path mode, Settled view (environment.openNode path mode)
  queryCapability : ∀ opened, Settled view (environment.queryCapability opened)
  enumerateFormat : ∀ opened queue index,
    Settled view (environment.enumerateFormat opened queue index)
  readAttribute : ∀ path, Settled view (environment.readAttribute path)
  construct : ∀ version path state, view (environment.construct version path state).2 = view state
  pause : ∀ milliseconds, Settled view (environment.pause milliseconds)

/-- What a construction comes to depends on what `view` shows, too. -/
structure Environment.IsDetermined (environment : Environment σ ν δ) (view : σ → κ) : Prop
    extends environment.IsFixed view where
  constructs : ∀ version path, Settled view (environment.construct version path)

/-- The same world, with the entries of its directory listed as told. -/
def Environment.relisted (environment : Environment σ ν δ) (names : List String) :
    Environment σ ν δ :=
  { environment with readDirectory := fun _ => pure (.ok names) }

theorem Environment.IsDetermined.relisted {environment : Environment σ ν δ} {view : σ → κ}
    (hdetermined : environment.IsDetermined view) (names : List String) :
    (environment.relisted names).IsDetermined view where
  readDirectory _ := settled_pure view _
  openNode := hdetermined.openNode
  queryCapability := hdetermined.queryCapability
  enumerateFormat := hdetermined.enumerateFormat
  readAttribute := hdetermined.readAttribute
  construct := hdetermined.construct
  pause := hdetermined.pause
  constructs := hdetermined.constructs

theorem Environment.IsFixed.probing {environment : Environment σ ν δ} {view : σ → κ}
    (hfixed : environment.IsFixed view) : environment.probing.IsFixed view where
  readDirectory := hfixed.readDirectory
  openNode := hfixed.openNode
  queryCapability := hfixed.queryCapability
  enumerateFormat := hfixed.enumerateFormat
  readAttribute := hfixed.readAttribute
  pause := hfixed.pause
  construct version path := by
    have hsettled : Settled view (environment.probing.construct version path) := by
      apply settled_bind (hfixed.openNode path .blocking)
      intro opening
      cases opening with
      | error cause => exact settled_pure view _
      | ok opened =>
          apply settled_bind (hfixed.queryCapability opened)
          intro answer
          cases answer <;> exact settled_pure view _
    exact fun state => (hsettled state).1

/-- All of a bench but the count of openings. -/
def Bench.content (bench : Bench) : Bench :=
  { bench with opens := [] }

theorem Bench.isDetermined (construct : Version → Path → Construction δ) :
    (Bench.environment construct).IsDetermined Bench.content where
  readDirectory directory bench := by
    refine ⟨rfl, ?_⟩
    intro other hcontent
    have hlisting : other.content.listing directory = bench.content.listing directory :=
      congrArg (Bench.listing · directory) hcontent
    exact hlisting
  openNode path _ bench := by
    refine ⟨rfl, ?_⟩
    intro other hcontent
    have hopened : (other.content.openNode path).1 = (bench.content.openNode path).1 :=
      congrArg (fun shown : Bench => (shown.openNode path).1) hcontent
    exact hopened
  queryCapability _ _ := ⟨rfl, fun _ _ => rfl⟩
  enumerateFormat _ _ _ _ := ⟨rfl, fun _ _ => rfl⟩
  readAttribute path bench := by
    refine ⟨rfl, ?_⟩
    intro other hcontent
    have htext : other.content.attributeText path = bench.content.attributeText path :=
      congrArg (Bench.attributeText · path) hcontent
    exact htext
  construct _ _ _ := rfl
  constructs _ _ _ := ⟨rfl, fun _ _ => rfl⟩
  pause _ _ := ⟨rfl, fun _ _ => rfl⟩

/-! ### Asking again -/

/-- Wherever `view` shows the same, the answer and the calls added are the same, and `view` goes on
to show it. -/
def Repeats (view : σ → κ) (ask : StateM (Observed σ) α) : Prop :=
  ∀ observed, ∃ new, ∀ other : Observed σ, view other.state = view observed.state →
    (ask other).1 = (ask observed).1 ∧ view (ask other).2.state = view observed.state ∧
      (ask other).2.calls = other.calls ++ new

section Asking

variable {view : σ → κ}

theorem repeats_pure (answer : α) : Repeats view (pure answer : StateM (Observed σ) α) :=
  fun _ => ⟨[], fun other hother => ⟨rfl, hother, (List.append_nil other.calls).symm⟩⟩

theorem repeats_call {operation : StateM σ α} (record : α → Call)
    (hoperation : Settled view operation) : Repeats view (Observed.call operation record) := by
  intro observed
  refine ⟨[record (operation observed.state).1], ?_⟩
  intro other hother
  have hanswer := (hoperation observed.state).2 other.state hother
  rw [Observed.call_apply, Observed.call_apply]
  exact ⟨hanswer, (hoperation other.state).1.trans hother, by rw [hanswer]⟩

theorem repeats_bind {ask : StateM (Observed σ) α} {next : α → StateM (Observed σ) β}
    (hask : Repeats view ask) (hnext : ∀ answer, Repeats view (next answer)) :
    Repeats view (ask >>= next) := by
  intro observed
  obtain ⟨first, hfirst⟩ := hask observed
  obtain ⟨second, hsecond⟩ := hnext (ask observed).1 (ask observed).2
  have hkept : view (ask observed).2.state = view observed.state := (hfirst observed rfl).2.1
  refine ⟨first ++ second, ?_⟩
  intro other hother
  obtain ⟨hanswer, hview, hcalls⟩ := hfirst other hother
  obtain ⟨hlast, hlastView, hlastCalls⟩ := hsecond (ask other).2 (hview.trans hkept.symm)
  rw [bind_apply, bind_apply, hanswer, ← List.append_assoc, ← hcalls]
  exact ⟨hlast, hlastView.trans hkept, hlastCalls⟩

theorem composes_repeats (view : σ → κ) : Composes (Repeats view) :=
  ⟨repeats_pure, repeats_bind⟩

theorem Repeats.view_eq {ask : StateM (Observed σ) α} (hrepeats : Repeats view ask)
    (observed : Observed σ) : view (ask observed).2.state = view observed.state := by
  obtain ⟨_, hsame⟩ := hrepeats observed
  exact (hsame observed rfl).2.1

theorem Repeats.answer_eq {ask : StateM (Observed σ) α} (hrepeats : Repeats view ask)
    {left right : Observed σ} (hview : view left.state = view right.state) :
    (ask left).1 = (ask right).1 := by
  obtain ⟨_, hsame⟩ := hrepeats right
  exact (hsame left hview).1

end Asking

section Fixed

variable {environment : Environment σ ν δ} {view : σ → κ} (hfixed : environment.IsFixed view)
  (settings : Settings) (node : DeviceNode)

include hfixed

theorem repeats_classify : Repeats view (classify environment settings node) :=
  (composes_repeats view).classify (repeats_call _ (hfixed.openNode _ _))
    (fun _ => repeats_call _ (hfixed.queryCapability _)) (repeats_call _ (hfixed.readAttribute _))
    fun _ _ _ => repeats_call _ (hfixed.enumerateFormat _ _ _)

theorem repeats_probeCapture : Repeats view (probeCapture environment node) :=
  (composes_repeats view).probeCapture (repeats_call _ (hfixed.openNode _ _))
    fun _ => repeats_call _ (hfixed.queryCapability _)

theorem repeats_findReceiverAmong (names : List String) :
    Repeats view (Worker.findReceiverAmong environment settings names) := by
  induction names with
  | nil => exact repeats_pure none
  | cons name names ih =>
      unfold Worker.findReceiverAmong
      cases settings.candidate? name with
      | none => exact ih
      | some node =>
          refine repeats_bind (repeats_classify hfixed settings node) ?_
          intro verdict
          cases verdict with
          | externalReceiver => exact repeats_pure (some node)
          | external => exact ih
          | notExternal => exact ih

end Fixed

/-! ### What treating leaves as it is -/

namespace Worker

section Kept

variable {environment : Environment σ ν δ} {view : σ → κ} (hfixed : environment.IsFixed view)
  (settings : Settings) (worker : Worker σ)

include hfixed

theorem view_enroll (node : DeviceNode) :
    view (enroll environment settings worker node).2.outside.state =
      view worker.outside.state := by
  have hprobe := (repeats_probeCapture hfixed node).view_eq worker.outside
  have hconstruct := hfixed.construct trialVersion node.path
    (probeCapture environment node worker.outside).2.state
  rcases outside_enroll environment settings worker node with heq | heq | heq
  · rw [heq]
  · rw [heq, hprobe]
  · rw [heq, Observed.construct, Observed.call_apply, hconstruct, hprobe]

theorem view_inspect (node : DeviceNode) :
    view (inspect environment settings worker node).2.outside.state =
      view worker.outside.state := by
  have hclassify := (repeats_classify hfixed settings node).view_eq worker.outside
  unfold inspect
  split
  next hclass =>
    rw [hclass] at hclassify
    exact hclassify
  next hclass =>
    rw [hclass] at hclassify
    exact (view_enroll hfixed settings _ node).trans hclassify
  next hclass =>
    rw [hclass] at hclassify
    exact (view_enroll hfixed settings _ node).trans hclassify

theorem view_scanEntry (name : String) :
    view (scanEntry environment settings worker name).2.outside.state =
      view worker.outside.state := by
  unfold scanEntry
  split
  next => rfl
  next node _ => exact view_inspect hfixed settings worker node

theorem view_scanEntries (names : List String) (count : Nat) :
    view (scanEntries environment settings names count worker).2.outside.state =
      view worker.outside.state := by
  induction names generalizing count worker with
  | nil => rfl
  | cons name names ih =>
      have hentry := view_scanEntry hfixed settings worker name
      unfold scanEntries
      split
      next hscanned =>
        rw [hscanned] at hentry
        exact hentry
      next hscanned =>
        rw [hscanned] at hentry
        exact (ih _ _).trans hentry
      next hscanned =>
        rw [hscanned] at hentry
        exact (ih _ _).trans hentry

theorem view_readDirectory :
    view (readDirectory environment settings worker).2.outside.state =
      view worker.outside.state :=
  (hfixed.readDirectory settings.deviceDirectory worker.outside.state).1

theorem view_pause (milliseconds : UInt64) :
    view (pause environment worker milliseconds).outside.state = view worker.outside.state :=
  (hfixed.pause milliseconds worker.outside.state).1

theorem view_findReceiver :
    view (findReceiver environment settings worker).2.outside.state =
      view worker.outside.state := by
  have hread := view_readDirectory hfixed settings worker
  unfold findReceiver
  split
  next hanswer =>
    rw [hanswer] at hread
    exact hread
  next names next hanswer =>
    rw [hanswer] at hread
    exact ((repeats_findReceiverAmong hfixed settings names).view_eq next.outside).trans hread

theorem view_auxCreated :
    view (auxCreated environment settings worker).2.outside.state =
      view worker.outside.state := by
  have hsearched := (view_findReceiver hfixed settings _).trans
    (view_pause hfixed worker settings.receiverSettleDelay)
  unfold auxCreated
  split
  next hfound =>
    rw [hfound] at hsearched
    exact hsearched
  next node next hfound =>
    rw [hfound] at hsearched
    exact (view_enroll hfixed settings _ node).trans hsearched

theorem view_handleEvent (event : WatchEvent) :
    view (handleEvent environment settings worker event).2.outside.state =
      view worker.outside.state := by
  rw [handleEvent_eq]
  split
  next node _ =>
    split
    next =>
      exact (view_inspect hfixed settings _ node).trans
        (view_pause hfixed worker settings.settleDelay)
    next => rw [outside_nodeDeleted]
  next =>
    split
    next =>
      split
      next => exact view_auxCreated hfixed settings worker
      next => rw [outside_auxDeleted]
    next => rfl

end Kept

end Worker

end CameraHotplug
