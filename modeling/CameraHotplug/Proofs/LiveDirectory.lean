import CameraHotplug.Proofs.NodeName
import CameraHotplug.Proofs.Observation
import Mathlib.Data.List.Basic
import Mathlib.Logic.Function.Basic

/-!
# A directory whose entries come and go

The device directory as discovery meets it: entries come with any content and keep it until they go,
and an open watch is told of each change as it happens, and of no change before it was opened. What
discovery concludes about a node depends on the content of that node's entry alone.
-/

namespace CameraHotplug

theorem EventQueue.wait_eq (queue : EventQueue) :
    queue.wait = (.ok queue.waiting, ⟨[], queue.isOpen⟩) ∨
      queue = EventQueue.empty.close ∧ queue.wait = (.error closed, queue) := by
  obtain ⟨waiting, isOpen⟩ := queue
  cases waiting with
  | cons event events => exact Or.inl rfl
  | nil =>
      cases isOpen with
      | true => exact Or.inl rfl
      | false => exact Or.inr ⟨rfl, rfl⟩

theorem EventQueue.isOpen_send (queue : EventQueue) (event : WatchEvent) :
    (queue.send event).isOpen = queue.isOpen := by
  unfold send
  split_ifs <;> rfl

structure OpenedNode where
  capability : Except IoError Capability
  format : UInt32 → UInt32 → Except IoError FourCC

/-- How an entry opens, and the name that the kernel gives to it. -/
structure Content where
  opened : OpenMode → Except IoError OpenedNode
  kernelName : Except IoError String

def Content.camera : Content where
  opened _ := .ok
    { capability := .ok ⟨"uvcvideo", "Camera", "usb", Kernel.videoCapture, 0⟩
      format := fun _ _ => .ok .yuyv }
  kernelName := .ok "Camera\n"

/-- The content of a name matters while the name is among the entries. The queue is that of the
watch, closed when there is none, and `refusal?` is why a new watch would be refused. -/
structure LiveDirectory where
  names : List String
  content : String → Content
  distinct : names.Nodup
  proper : ∀ name ∈ names, IsEntryName name
  queue : EventQueue
  refusal? : Option WatchError

namespace LiveDirectory

def oneCamera : LiveDirectory where
  names := ["video1"]
  content _ := .camera
  distinct := by decide
  proper := by decide
  queue := EventQueue.empty.close
  refusal? := none

def content? (world : LiveDirectory) (name : String) : Option Content :=
  if name ∈ world.names then some (world.content name) else none

def find? (world : LiveDirectory) (isIt : String → Bool) : Option Content :=
  (world.names.find? isIt).map world.content

def openAt (world : LiveDirectory) (directory path : Path) (mode : OpenMode) :
    Except IoError OpenedNode :=
  match world.find? fun name => directory.join name = path with
  | some content => content.opened mode
  | none => .error .noSuchEntry

def attributeAt (world : LiveDirectory) (sysfsRoot path : Path) : Except IoError String :=
  match world.find? fun name => (sysfsRoot.join name).join "name" = path with
  | some content => content.kernelName
  | none => .error .noSuchEntry

def openWatch (world : LiveDirectory) : Except WatchError Unit × LiveDirectory :=
  match world.refusal? with
  | some cause => (.error cause, world)
  | none => (.ok (), { world with queue := .empty })

def wait (world : LiveDirectory) : Except WatchError (List WatchEvent) × LiveDirectory :=
  (world.queue.wait.1, { world with queue := world.queue.wait.2 })

/-- The directory that the settings name, and devices whose construction depends on nothing but the
version and the path. -/
def environment {δ : Type} (settings : Settings) (construct : Version → Path → Construction δ) :
    Environment LiveDirectory OpenedNode δ where
  readDirectory _ := fun world => (.ok world.names, world)
  openNode path mode := fun world => (world.openAt settings.deviceDirectory path mode, world)
  queryCapability opened := fun world => (opened.capability, world)
  enumerateFormat opened queue index := fun world => (opened.format queue index, world)
  readAttribute path := fun world => (world.attributeAt settings.sysfsRoot path, world)
  openWatch _ := openWatch
  wait _ := wait
  construct version path := fun world => (construct version path, world)
  pause _ := fun world => ((), world)

/-! ### What happens to the directory -/

def insert (world : LiveDirectory) (position : Nat) (name : String) (content : Content)
    (hproper : IsEntryName name) (hfresh : name ∉ world.names) : LiveDirectory :=
  { world with
    names := world.names.take position ++ name :: world.names.drop position
    content := Function.update world.content name content
    distinct := by
      rw [List.perm_middle.nodup_iff, List.take_append_drop]
      exact List.nodup_cons.mpr ⟨hfresh, world.distinct⟩
    proper := by
      intro other hother
      rw [List.perm_middle.mem_iff, List.take_append_drop, List.mem_cons] at hother
      rcases hother with rfl | hother
      · exact hproper
      · exact world.proper other hother }

def remove (world : LiveDirectory) (name : String) : LiveDirectory :=
  { world with
    names := world.names.filter (· ≠ name)
    distinct := world.distinct.filter _
    proper := fun other hother => world.proper other (List.mem_of_mem_filter hother) }

def tell (world : LiveDirectory) (event : WatchEvent) : LiveDirectory :=
  { world with queue := world.queue.send event }

/-- What the world outside does: entries come, anywhere in the listing, and go; events are signalled
that tell of no candidate; the watch is lost with all but the first so many of its events; and new
watches are refused or no longer refused. -/
inductive Happening where
  | arrival (position : Nat) (name : String) (content : Content)
  | departure (name : String)
  | signal (event : WatchEvent)
  | loss (kept : Nat)
  | refusal (cause? : Option WatchError)

/-- Only a new name can arrive and only an entry depart, and otherwise nothing happens. -/
def happen (settings : Settings) (world : LiveDirectory) : Happening → LiveDirectory
  | .arrival position name content =>
    if h : IsEntryName name ∧ name ∉ world.names then
      (world.insert position name content h.1 h.2).tell ⟨.created, name⟩
    else world
  | .departure name =>
    if name ∈ world.names then (world.remove name).tell ⟨.deleted, name⟩ else world
  | .signal event =>
    if IsEntryName event.name ∧ settings.candidate? event.name = none then world.tell event
    else world
  | .loss kept => { world with queue := ⟨world.queue.waiting.take kept, false⟩ }
  | .refusal cause? => { world with refusal? := cause? }

section Happenings

variable (world : LiveDirectory) (name other : String)

@[simp]
theorem content?_tell (event : WatchEvent) :
    (world.tell event).content? name = world.content? name :=
  rfl

theorem content?_eq_none_iff : world.content? name = none ↔ name ∉ world.names := by
  simp [content?]

theorem mem_names_insert (position : Nat) (content : Content) (hproper : IsEntryName name)
    (hfresh : name ∉ world.names) :
    other ∈ (world.insert position name content hproper hfresh).names ↔
      other = name ∨ other ∈ world.names := by
  unfold insert
  rw [List.perm_middle.mem_iff, List.take_append_drop, List.mem_cons]

theorem content?_insert_of_ne (position : Nat) (content : Content) (hproper : IsEntryName name)
    (hfresh : name ∉ world.names) (hne : other ≠ name) :
    (world.insert position name content hproper hfresh).content? other = world.content? other := by
  have hmem := mem_names_insert world name other position content hproper hfresh
  rw [or_iff_right hne] at hmem
  simp only [content?, hmem]
  simp only [insert, Function.update_of_ne hne]

theorem mem_names_remove :
    other ∈ (world.remove name).names ↔ other ≠ name ∧ other ∈ world.names := by
  simp [remove, and_comm]

theorem content?_remove_of_ne (hne : other ≠ name) :
    (world.remove name).content? other = world.content? other := by
  simp only [content?, mem_names_remove, hne, ne_eq, not_false_eq_true, true_and]
  rfl

end Happenings

/-! ### What discovery concludes -/

theorem find?_eq_content? (world : LiveDirectory) (name : String) {isIt : String → Bool}
    (hisIt : ∀ other ∈ world.names, (isIt other = true ↔ other = name)) :
    world.find? isIt = world.content? name := by
  unfold find? content?
  split_ifs with hmem
  · have hfound : world.names.find? isIt = some name := by
      cases hfind : world.names.find? isIt with
      | none =>
          rw [List.find?_eq_none] at hfind
          exact absurd ((hisIt name hmem).mpr rfl) (hfind name hmem)
      | some other =>
          rw [(hisIt other (List.mem_of_find?_eq_some hfind)).mp (List.find?_some hfind)]
    rw [hfound, Option.map_some]
  · rw [Option.map_eq_none_iff, List.find?_eq_none]
    intro other hother htrue
    exact hmem ((hisIt other hother).mp htrue ▸ hother)

section Conclusions

variable {δ : Type} (settings : Settings) (construct : Version → Path → Construction δ)

def verdict (world : LiveDirectory) (node : DeviceNode) : Classification :=
  (classify (environment settings construct) settings node ⟨world, []⟩).1

def Receives (world : LiveDirectory) (node : DeviceNode) : Prop :=
  node.name ∈ world.names ∧ world.verdict settings construct node = .externalReceiver

instance (world : LiveDirectory) (node : DeviceNode) :
    Decidable (world.Receives settings construct node) :=
  inferInstanceAs (Decidable (_ ∧ _))

/-- The node exists, is classified as external, passes the probe and can be constructed. -/
def Qualifies (world : LiveDirectory) (node : DeviceNode) : Prop :=
  node.name ∈ world.names ∧ (world.verdict settings construct node).isExternal = true ∧
    Passes (environment settings construct) node .v3_4 ⟨world, []⟩

/-- The directory bears a node out that is present: the node exists, and if it is asked strictly, it
qualifies. -/
def BearsOut (strict : Bool) (world : LiveDirectory) (node : DeviceNode) : Prop :=
  node.name ∈ world.names ∧ (strict = true → world.Qualifies settings construct node)

theorem steady_id (node : DeviceNode) :
    (environment settings construct).Steady settings node id where
  openNode _ := settled_id fun _ => rfl
  queryCapability _ := settled_id fun _ => rfl
  enumerateFormat _ _ _ := settled_id fun _ => rfl
  readAttribute := settled_id fun _ => rfl
  construct _ := settled_id fun _ => rfl

theorem classify_eq (node : DeviceNode) (observed : Observed LiveDirectory) :
    ∃ calls, classify (environment settings construct) settings node observed =
      (observed.state.verdict settings construct node, ⟨observed.state, calls⟩) := by
  obtain ⟨hkept, hanswer⟩ := settled_classify (steady_id settings construct node) observed
  refine ⟨(classify (environment settings construct) settings node observed).2.calls, ?_⟩
  refine Prod.ext (hanswer ⟨observed.state, []⟩ rfl).symm ?_
  exact congrArg (Observed.mk · _) hkept

variable {settings construct}

section Answers

variable {node : DeviceNode} (htouches : settings.Touches node)

include htouches

theorem openAt_eq (world : LiveDirectory) (mode : OpenMode) :
    world.openAt settings.deviceDirectory node.path mode =
      match world.content? node.name with
      | some content => content.opened mode
      | none => .error .noSuchEntry := by
  unfold openAt
  rw [find?_eq_content? world node.name fun other hother => ?_]
  rw [decide_eq_true_eq, htouches.path]
  exact ⟨Path.join_injective (world.proper other hother) htouches.proper, fun heq => by rw [heq]⟩

theorem attributeAt_eq (world : LiveDirectory) :
    world.attributeAt settings.sysfsRoot (node.nameAttribute settings.sysfsRoot) =
      match world.content? node.name with
      | some content => content.kernelName
      | none => .error .noSuchEntry := by
  unfold attributeAt
  rw [find?_eq_content? world node.name fun other hother => ?_]
  rw [decide_eq_true_eq, DeviceNode.nameAttribute]
  exact ⟨Path.join_join_injective (world.proper other hother) htouches.proper (by decide),
    fun heq => by rw [heq]⟩

/-- The answers about a node depend on its own entry alone. -/
theorem steady_content? :
    (environment settings construct).Steady settings node (content? · node.name) where
  openNode mode world := by
    refine ⟨rfl, ?_⟩
    intro other (hother : other.content? node.name = world.content? node.name)
    change other.openAt _ _ _ = world.openAt _ _ _
    rw [openAt_eq htouches, openAt_eq htouches, hother]
  queryCapability _ _ := ⟨rfl, fun _ _ => rfl⟩
  enumerateFormat _ _ _ _ := ⟨rfl, fun _ _ => rfl⟩
  readAttribute world := by
    refine ⟨rfl, ?_⟩
    intro other (hother : other.content? node.name = world.content? node.name)
    change other.attributeAt _ _ = world.attributeAt _ _
    rw [attributeAt_eq htouches, attributeAt_eq htouches, hother]
  construct _ _ := ⟨rfl, fun _ _ => rfl⟩

theorem verdict_eq_notExternal {world : LiveDirectory} (hgone : node.name ∉ world.names) :
    world.verdict settings construct node = .notExternal := by
  have hopen : (environment settings construct).openNode node.path .probe world =
      (.error .noSuchEntry, world) := by
    change (world.openAt _ _ _, world) = _
    rw [openAt_eq htouches, (content?_eq_none_iff world node.name).mpr hgone]
  unfold verdict classify
  rw [bind_apply, Observed.openNode, Observed.call_apply, hopen]
  rfl

theorem mem_names_of_isExternal {world : LiveDirectory}
    (hexternal : (world.verdict settings construct node).isExternal = true) :
    node.name ∈ world.names := by
  by_contra hgone
  rw [verdict_eq_notExternal htouches hgone] at hexternal
  exact absurd hexternal (by decide)

end Answers

theorem passes_iff {node : DeviceNode} {version : Version} {observed : Observed LiveDirectory} :
    Passes (environment settings construct) node version observed ↔
      Passes (environment settings construct) node version ⟨observed.state, []⟩ :=
  passes_congr (steady_id settings construct node) rfl

theorem mem_names_congr {left right : LiveDirectory} {name : String}
    (hsame : left.content? name = right.content? name) :
    name ∈ left.names ↔ name ∈ right.names := by
  rw [← not_iff_not, ← content?_eq_none_iff, ← content?_eq_none_iff, hsame]

section OneNode

variable {left right : LiveDirectory} {node : DeviceNode} (htouches : settings.Touches node)
  (hsame : left.content? node.name = right.content? node.name)

include htouches hsame

theorem verdict_congr :
    left.verdict settings construct node = right.verdict settings construct node :=
  (settled_classify (steady_content? htouches) ⟨right, []⟩).2 ⟨left, []⟩ hsame

theorem receives_congr :
    left.Receives settings construct node ↔ right.Receives settings construct node := by
  unfold Receives
  rw [mem_names_congr hsame, verdict_congr htouches hsame]

theorem qualifies_congr :
    left.Qualifies settings construct node ↔ right.Qualifies settings construct node := by
  have hpasses : Passes (environment settings construct) node .v3_4 ⟨left, []⟩ ↔
      Passes (environment settings construct) node .v3_4 ⟨right, []⟩ :=
    passes_congr (steady_content? htouches) hsame
  unfold Qualifies
  rw [mem_names_congr hsame, verdict_congr htouches hsame, hpasses]

theorem bearsOut_congr {strict : Bool} :
    left.BearsOut settings construct strict node ↔
      right.BearsOut settings construct strict node := by
  unfold BearsOut
  rw [mem_names_congr hsame, qualifies_congr htouches hsame]

end OneNode

end Conclusions

end LiveDirectory

end CameraHotplug
