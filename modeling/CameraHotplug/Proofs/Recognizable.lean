import CameraHotplug.Proofs.BenchFiles
import CameraHotplug.Proofs.Correspondence
import CameraHotplug.Proofs.Prediction
import CameraHotplug.Proofs.Verdict

/-!
# Settings under which something is found

Some entry and some node can be found under given settings unless no entry name can begin with the
node prefix, or every name begins with a codec prefix, or no suffix is left. Checking the settings
does not rule out the first two: a separator in the node prefix and an empty codec prefix pass.
-/

namespace CameraHotplug

/-- A bench where every construction succeeds. -/
def Bench.building : Environment Bench BenchNode Unit :=
  Bench.environment fun _ _ => .built ()

theorem Bench.isFixed_building : Bench.building.IsFixed Bench.content :=
  (Bench.isDetermined _).toIsFixed

/-- The device directory with this one entry. -/
def Settings.oneEntry (settings : Settings) (name : String) (content : BenchNode) : Bench :=
  (Bench.ofSettings settings).addNode name content

/-- A scan of a directory with this one entry records a device. -/
def Settings.Finds (settings : Settings) (name : String) (content : BenchNode) : Prop :=
  ∃ id, id ∈ (Worker.scan Bench.building settings
    (Worker.start (settings.oneEntry name content) .empty)).2.registry.devices

/-- A node with the driver of a USB camera, a blank name and one format. -/
def Settings.plainCamera (settings : Settings) : BenchNode :=
  { BenchNode.blank with
    driver := settings.patterns.uvcMarker
    attribute? := some "\n"
    deviceCaps := Kernel.videoCapture
    formats := [.yuyv] }

def Settings.plainBench (settings : Settings) (name : String) : Bench :=
  settings.oneEntry name settings.plainCamera

theorem format_plainCamera (settings : Settings) :
    settings.plainCamera.format Kernel.captureQueue 0 = .ok .yuyv := by
  have hcaptures : (Kernel.captureQueue = Kernel.captureQueue &&
      settings.plainCamera.deviceCaps &&& Kernel.videoCapture ≠ 0) = true := by
    change (Kernel.captureQueue = Kernel.captureQueue &&
      Kernel.videoCapture &&& Kernel.videoCapture ≠ 0) = true
    decide
  exact if_pos hcaptures

def Settings.plainCapability (settings : Settings) : Capability where
  driver := settings.patterns.uvcMarker
  card := ""
  busInfo := "usb-mock"
  capabilities := Kernel.deviceCapabilities ||| Kernel.videoCapture
  deviceCaps := Kernel.videoCapture

theorem isCapture_plainCapability (settings : Settings) :
    settings.plainCapability.isCapture = true := by
  change Capability.isCapture ⟨_, _, _, Kernel.deviceCapabilities ||| Kernel.videoCapture,
    Kernel.videoCapture⟩ = true
  simp only [Capability.isCapture, Capability.nodeCaps]
  decide

section PlainBench

variable {settings : Settings} {node : DeviceNode}

theorem nodeAt?_plainBench (settings : Settings) (name : String) :
    (settings.plainBench name).nodeAt? ((settings.plainBench name).place name) =
      some settings.plainCamera := by
  rw [Bench.place, Settings.plainBench, Settings.oneEntry, Bench.directory_addNode]
  exact Bench.nodeAt?_addNode _ _ _

variable (hpath : node.path = settings.deviceDirectory.join node.name)

include hpath

theorem openNode_plainBench :
    (settings.plainBench node.name).openNode node.path =
      (.ok settings.plainCamera, (settings.plainBench node.name).opened node.path) := by
  refine Bench.openNode_eq ?_ rfl
  rw [hpath]
  exact Bench.nodeAt?_addNode _ _ _

theorem probeCapture_plainBench (calls : List Call) :
    (probeCapture Bench.building node ⟨settings.plainBench node.name, calls⟩).1 = true := by
  have hopen : Bench.building.openNode node.path .blocking (settings.plainBench node.name) = _ :=
    openNode_plainBench hpath
  simp only [probeCapture, bind_apply, Observed.openNode, Observed.call_apply, hopen]
  exact isCapture_plainCapability settings

variable (hplain : IsPlainName node.name)

include hplain

def introducePlainCamera :
    Introduction Bench.building settings.sysfsRoot node (settings.plainBench node.name) where
  opened := settings.plainCamera
  capability := settings.plainCapability
  content := "\n"
  name := ""
  opening := (settings.plainBench node.name).opened node.path
  told := (settings.plainBench node.name).opened node.path
  last := (settings.plainBench node.name).opened node.path
  opens := openNode_plainBench hpath
  tells := rfl
  reads := by
    have hroot : (settings.plainBench node.name).sysfsRoot = settings.sysfsRoot :=
      Bench.sysfsRoot_addNode _ _ _
    have hread : (settings.plainBench node.name).attributeText
        (node.nameAttribute settings.sysfsRoot) = .ok "\n" := by
      rw [← hroot, Bench.attributeText_nameAttribute hplain, nodeAt?_plainBench]
      rfl
    exact congrArg (·, _) hread
  trims := by
    refine ⟨⟨['\n'], rfl, ?_⟩, by simp⟩
    intro char hchar
    rw [List.mem_singleton.mp hchar]
    decide

variable (hcodecs : "" ∉ settings.patterns.codecPrefixes) (calls : List Call)

include hcodecs

theorem classify_plainBench :
    (classify Bench.building settings node ⟨settings.plainBench node.name, calls⟩).1 =
      .external := by
  refine classify_eq_external_iff.mpr
    ⟨introducePlainCamera hpath hplain, ?_, ?_, .yuyv, format_plainCamera settings⟩
  · rintro ⟨lead, hlead, hname⟩
    have hempty : lead = "" := String.toList_eq_nil_iff.mp (List.prefix_nil.mp hname)
    exact hcodecs (hempty ▸ hlead)
  · exact List.infix_rfl

theorem captures_plainBench :
    Captures Bench.building settings node ⟨settings.plainBench node.name, calls⟩ := by
  refine ⟨?_, ?_⟩
  · rw [classify_plainBench hpath hplain hcodecs]
    rfl
  · rw [(repeats_probeCapture Bench.isFixed_building node).answer_eq
      ((repeats_classify Bench.isFixed_building settings node).view_eq _)]
    exact probeCapture_plainBench hpath calls

end PlainBench

theorem listing_oneEntry (settings : Settings) (name : String) (content : BenchNode) :
    (settings.oneEntry name content).listing settings.deviceDirectory = .ok [name] := by
  have hdirectory : (settings.oneEntry name content).directory = settings.deviceDirectory :=
    Bench.directory_addNode _ _ _
  have hentries : (settings.oneEntry name content).entries = [name] := by
    simp [Settings.oneEntry, Bench.addNode, Bench.addEntry, Bench.ofSettings, Bench.make]
  have hworks : (settings.oneEntry name content).directoryFails = false := by
    simp [Settings.oneEntry, Bench.addNode, Bench.addEntry, Bench.ofSettings, Bench.make]
  simp [Bench.listing, hdirectory, hentries, hworks, Path.SamePlace]

theorem finds_iff {settings : Settings} {name : String} {content : BenchNode} :
    settings.Finds name content ↔
      ∃ node, settings.candidate? name = some node ∧
        Captures Bench.building settings node
          ⟨settings.oneEntry name content, []⟩ := by
  have hbuilds : Bench.building.BuildsWhatAnswers := fun _ _ _ _ _ _ _ => ⟨(), rfl⟩
  have hcontent :
      Bench.content (Worker.start (settings.oneEntry name content) .empty).outside.state =
        Bench.content (Observed.mk (settings.oneEntry name content) []).state := rfl
  obtain ⟨-, hmem⟩ := Worker.mem_devices_scan Bench.isFixed_building hbuilds settings
    hcontent rfl (listing_oneEntry settings name content)
  unfold Settings.Finds
  simp only [hmem]
  constructor
  · rintro ⟨_, other, hother, node, hcandidate, -, hcaptures⟩
    obtain rfl := List.mem_singleton.mp hother
    exact ⟨node, hcandidate, hcaptures⟩
  · rintro ⟨node, hcandidate, hcaptures⟩
    obtain ⟨id, hid⟩ :=
      Settings.exists_logicalId_of_node? (Settings.node?_of_candidate? hcandidate)
    exact ⟨id, name, List.mem_singleton_self name, node, hcandidate, hid, hcaptures⟩

section Blind

variable {settings : Settings}

/-- Every name begins with an empty codec prefix. -/
theorem classify_of_empty_mem {σ ν δ : Type} (hempty : "" ∈ settings.patterns.codecPrefixes)
    (environment : Environment σ ν δ) (node : DeviceNode) (observed : Observed σ) :
    (classify environment settings node observed).1 = .notExternal := by
  have hcodec : ∀ shown : Introduction environment settings.sysfsRoot node observed.state,
      shown.IsCodec settings.patterns := fun _ => ⟨"", hempty, List.nil_prefix⟩
  cases hverdict : (classify environment settings node observed).1 with
  | notExternal => rfl
  | external =>
      obtain ⟨shown, hnot, -⟩ := classify_eq_external_iff.mp hverdict
      exact absurd (hcodec shown) hnot
  | externalReceiver =>
      obtain ⟨shown, hnot, -⟩ := classify_eq_externalReceiver_iff.mp hverdict
      exact absurd (hcodec shown) hnot

/-- No entry name holds a separator. -/
theorem node?_of_separator_mem {name : String} (hslash : '/' ∈ settings.nodePrefix.toList)
    (hentry : IsEntryName name) : settings.node? name = none := by
  by_contra hnode
  obtain ⟨node, hnode⟩ := Option.ne_none_iff_exists'.mp hnode
  apply hentry.2
  rw [Settings.toList_of_node? hnode]
  exact List.mem_append_left _ hslash

theorem exists_finds_iff :
    (∃ name content, IsEntryName name ∧ settings.Finds name content) ↔
      '/' ∉ settings.nodePrefix.toList ∧ "" ∉ settings.patterns.codecPrefixes ∧
        ∃ suffix, settings.isInternal suffix = false ∧
          suffix.toNat + settings.idOffset.toNat < UInt32.size := by
  constructor
  · rintro ⟨name, content, hentry, hfinds⟩
    obtain ⟨node, hcandidate, hexternal, -⟩ := finds_iff.mp hfinds
    obtain ⟨hnode, hinternal⟩ := Settings.candidate?_eq_some_iff.mp hcandidate
    refine ⟨?_, ?_, node.suffix, hinternal, (Settings.node?_eq_some_iff.mp hnode).2.2.2⟩
    · intro hslash
      rw [node?_of_separator_mem hslash hentry] at hnode
      exact nomatch hnode
    · intro hempty
      rw [classify_of_empty_mem hempty] at hexternal
      exact nomatch hexternal
  · rintro ⟨hslash, hcodecs, suffix, hinternal, hbound⟩
    have hplain : IsPlainName (settings.nodeOf suffix).name :=
      isPlainName_append_decimal hslash suffix
    refine ⟨(settings.nodeOf suffix).name, settings.plainCamera, hplain.proper, ?_⟩
    exact finds_iff.mpr ⟨settings.nodeOf suffix,
      Settings.candidate?_eq_some_iff.mpr ⟨Settings.node?_nodeOf hbound, hinternal⟩,
      captures_plainBench rfl hplain hcodecs []⟩

theorem forall_node?_eq_none_iff :
    (∀ name, IsEntryName name → settings.node? name = none) ↔
      '/' ∈ settings.nodePrefix.toList := by
  refine ⟨?_, fun hslash _ => node?_of_separator_mem hslash⟩
  intro hnone
  by_contra hslash
  have hbound : (0 : UInt32).toNat + settings.idOffset.toNat < UInt32.size := by
    rw [UInt32.toNat_zero, Nat.zero_add]
    exact settings.idOffset.toNat_lt_size
  have hnode := hnone _ (isPlainName_append_decimal hslash 0).proper
  exact nomatch hnode.symm.trans (Settings.node?_nodeOf hbound)

theorem forall_notExternal_iff :
    (∀ (σ ν δ : Type) (environment : Environment σ ν δ) node observed,
      (classify environment settings node observed).1 = .notExternal) ↔
        "" ∈ settings.patterns.codecPrefixes := by
  refine ⟨?_, fun hempty _ _ _ => classify_of_empty_mem hempty⟩
  intro hnone
  by_contra hcodecs
  obtain ⟨node, hname, hpath⟩ : ∃ node : DeviceNode, node.name = "video0" ∧
      node.path = settings.deviceDirectory.join node.name :=
    ⟨⟨"video0", settings.deviceDirectory.join "video0", 0⟩, rfl, by dsimp only⟩
  have hplain : IsPlainName node.name := by
    rw [hname]
    exact ⟨by decide, by decide⟩
  have hexternal := classify_plainBench hpath hplain hcodecs []
  exact nomatch hexternal.symm.trans (hnone _ _ _ _ _ _)

end Blind

/-- Some entry and some content are found exactly if an entry name can begin with the node prefix,
no codec prefix is empty, and a suffix that has an id is not internal. Every name is turned down
only if the node prefix holds a separator, and every node only if a codec prefix is empty. -/
theorem finds_something_iff (settings : Settings) :
    ((∃ name content, IsEntryName name ∧ settings.Finds name content) ↔
      '/' ∉ settings.nodePrefix.toList ∧ "" ∉ settings.patterns.codecPrefixes ∧
        ∃ suffix, settings.isInternal suffix = false ∧
          suffix.toNat + settings.idOffset.toNat < UInt32.size) ∧
    ((∀ name, IsEntryName name → settings.node? name = none) ↔
      '/' ∈ settings.nodePrefix.toList) ∧
    ((∀ (σ ν δ : Type) (environment : Environment σ ν δ) node observed,
        (classify environment settings node observed).1 = .notExternal) ↔
      "" ∈ settings.patterns.codecPrefixes) :=
  ⟨exists_finds_iff, forall_node?_eq_none_iff, forall_notExternal_iff⟩

theorem standard_finds_something :
    ∃ name content, IsEntryName name ∧ Settings.standard.Finds name content :=
  (finds_something_iff .standard).1.mpr ⟨by decide, by decide, 0, by decide, by decide⟩

def nestedSettings : Settings :=
  { Settings.standard with nodePrefix := "v4l/" }

/-- Settings with an empty codec prefix, or with a separator in the node prefix, are accepted. -/
theorem accepted_settings_find_nothing :
    let blind := [Settings.standard.withCodecs [""], nestedSettings]
    (∀ settings ∈ blind, settings.flaw? = none ∧ settings.isInternal 0 = false ∧
      (0 : UInt32).toNat + settings.idOffset.toNat < UInt32.size) ∧
    ∀ settings ∈ blind, ¬ ∃ name content, IsEntryName name ∧ settings.Finds name content := by
  refine ⟨by decide, ?_⟩
  intro settings hsettings hfinds
  obtain ⟨hslash, hcodecs, -⟩ := exists_finds_iff.mp hfinds
  simp only [List.mem_cons, List.not_mem_nil, or_false] at hsettings
  rcases hsettings with rfl | rfl
  · exact hcodecs List.mem_cons_self
  · exact hslash (by decide)

end CameraHotplug
