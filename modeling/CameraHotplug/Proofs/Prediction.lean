import CameraHotplug.Listing
import CameraHotplug.Proofs.ScanAccount

/-!
# The listing predicts the scan

The listing of all nodes and the scan of discovery go their own ways through the same directory. As
long as nothing changes, and a device is constructed whenever its node opens for use and tells its
capability, the nodes that the listing marks as capturing are the ones that a scan registers.
-/

namespace CameraHotplug

variable {σ ν δ κ : Type}

/-- A device is constructed wherever its node opens for use and tells its capability. -/
def Environment.BuildsWhatAnswers (environment : Environment σ ν δ) : Prop :=
  ∀ version path state opened capability,
    (environment.openNode path .blocking state).1 = .ok opened →
    (environment.queryCapability opened (environment.openNode path .blocking state).2).1 =
      .ok capability →
    ∃ device, (environment.construct version path state).1 = .built device

theorem Environment.buildsWhatAnswers_probing (environment : Environment σ ν δ) :
    environment.probing.BuildsWhatAnswers := by
  intro version path state opened capability hopened hanswer
  have hopening : (environment.openNode path .blocking state).1 = .ok opened := hopened
  have hquery : (environment.queryCapability opened
      (environment.openNode path .blocking state).2).1 = .ok capability := hanswer
  refine ⟨capability, ?_⟩
  simp only [Environment.probing, bind_apply, hopening, hquery, pure_apply]

namespace Listing

variable (environment : Environment σ ν δ) (settings : Settings)

theorem examineAll_congr {δ' : Type} {other : Environment σ ν δ'}
    (hexamine : ∀ node id, examine other settings node id = examine environment settings node id)
    (nodes : List DeviceNode) :
    examineAll other settings nodes = examineAll environment settings nodes := by
  induction nodes with
  | nil => rfl
  | cons node nodes ih =>
      unfold examineAll
      rw [ih]
      simp only [hexamine]

/-- A listing constructs nothing. -/
theorem scan_probing (externalOnly : Bool) :
    scan environment.probing settings externalOnly = scan environment settings externalOnly := by
  unfold scan
  have hall : examineAll environment.probing settings = examineAll environment settings :=
    funext (examineAll_congr environment settings fun _ _ => rfl)
  rw [hall]
  rfl

end Listing

/-- The node is an external camera, and its probe succeeds. -/
def Captures (environment : Environment σ ν δ) (settings : Settings) (node : DeviceNode)
    (observed : Observed σ) : Prop :=
  (classify environment settings node observed).1.isExternal = true ∧
    (probeCapture environment node (classify environment settings node observed).2).1 = true

section Fixed

variable {environment : Environment σ ν δ} {view : σ → κ} (hfixed : environment.IsFixed view)
  (settings : Settings)

include hfixed

theorem captures_congr (node : DeviceNode) {left right : Observed σ}
    (hcontent : view left.state = view right.state) :
    Captures environment settings node left ↔ Captures environment settings node right := by
  have hclassify := repeats_classify hfixed settings node
  have hclassified : view (classify environment settings node left).2.state =
      view (classify environment settings node right).2.state := by
    rw [hclassify.view_eq, hclassify.view_eq, hcontent]
  rw [Captures, Captures, hclassify.answer_eq hcontent,
    (repeats_probeCapture hfixed node).answer_eq hclassified]

/-! ### What the listing shows -/

namespace Listing

theorem repeats_examine (node : DeviceNode) (id : LogicalId) :
    Repeats view (examine environment settings node id) := by
  unfold examine
  split_ifs with hinternal
  · exact repeats_pure _
  · refine repeats_bind (repeats_classify hfixed settings node) ?_
    intro verdict
    have hprobed := repeats_probeCapture hfixed node
    cases verdict with
    | notExternal => exact repeats_pure _
    | external => exact repeats_bind hprobed fun _ => repeats_pure _
    | externalReceiver => exact repeats_bind hprobed fun _ => repeats_pure _

/-- Every node with an id is listed as it would have been at the start. -/
theorem mem_examineAll (nodes : List DeviceNode) {start observed : Observed σ}
    (hcontent : view observed.state = view start.state) (listed : ListedNode) :
    listed ∈ (examineAll environment settings nodes observed).1 ↔
      ∃ node ∈ nodes, ∃ id, settings.logicalId? node = some id ∧
        (examine environment settings node id start).1 = listed := by
  induction nodes generalizing observed with
  | nil => simp [examineAll, pure_apply]
  | cons node nodes ih =>
      unfold examineAll
      cases hid : settings.logicalId? node with
      | none =>
          rw [ih hcontent]
          simp [hid]
      | some id =>
          have hexamine := repeats_examine hfixed settings node id
          dsimp only
          rw [bind_apply, bind_apply, pure_apply, List.mem_cons, hexamine.answer_eq hcontent,
            ih ((hexamine.view_eq observed).trans hcontent)]
          simp [hid, eq_comm]

end Listing

end Fixed

namespace Listing

section Examining

variable (environment : Environment σ ν δ) (settings : Settings)

theorem fst_examine (node : DeviceNode) (id : LogicalId) (observed : Observed σ) :
    (examine environment settings node id observed).1 =
      if settings.isInternal node.suffix then ⟨node.path, id, .internal, none⟩
      else
        let classified := classify environment settings node observed
        ⟨node.path, id, .examined classified.1,
          if classified.1.isExternal then some (probeCapture environment node classified.2).1
          else none⟩ := by
  unfold examine
  split_ifs
  · rfl
  · rw [bind_apply]
    obtain ⟨verdict, after⟩ := classify environment settings node observed
    cases verdict <;> rfl

@[simp]
theorem id_examine (node : DeviceNode) (id : LogicalId) (observed : Observed σ) :
    (examine environment settings node id observed).1.id = id := by
  rw [fst_examine]
  split_ifs <;> rfl

theorem listedClass_examine (node : DeviceNode) (id : LogicalId) (observed : Observed σ) :
    (examine environment settings node id observed).1.listedClass =
      if settings.isInternal node.suffix then .internal
      else .examined (classify environment settings node observed).1 := by
  rw [fst_examine]
  split_ifs <;> rfl

theorem capture?_examine (node : DeviceNode) (id : LogicalId) (observed : Observed σ) :
    (examine environment settings node id observed).1.capture? = some true ↔
      settings.isInternal node.suffix = false ∧
        Captures environment settings node observed := by
  rw [fst_examine, Captures]
  split_ifs with hinternal
  · simp [hinternal]
  · simp [hinternal]

/-- Only external nodes are probed, so a class without a probe shows no capture. -/
theorem capture?_ne_of_examine {node : DeviceNode} {id : LogicalId} {observed : Observed σ}
    {listed : ListedNode} (hlisted : (examine environment settings node id observed).1 = listed)
    (hclass : listed.listedClass = .internal ∨ listed.listedClass = .examined .notExternal ∨
      listed.capture? = some false) :
    listed.capture? ≠ some true := by
  intro hcapture
  subst hlisted
  obtain ⟨hinternal, hexternal, -⟩ := (capture?_examine environment settings node id observed).mp
    hcapture
  rw [listedClass_examine, hinternal, hcapture] at hclass
  rcases hclass with hclass | hclass | hclass
  · exact absurd hclass nofun
  · rw [ListedClass.examined.inj hclass] at hexternal
    exact absurd hexternal nofun
  · exact absurd hclass nofun

theorem mem_nodesAmong {node : DeviceNode} {names : List String} :
    node ∈ nodesAmong settings names ↔ ∃ name ∈ names, settings.node? name = some node := by
  rw [nodesAmong, List.mem_mergeSort, List.mem_filterMap]

end Examining

end Listing

/-! ### What the scan registers -/

section Registering

variable {environment : Environment σ ν δ} {view : σ → κ} (hfixed : environment.IsFixed view)
  (hbuilds : environment.BuildsWhatAnswers) (settings : Settings)

include hfixed hbuilds

/-- The construction finds the node as its probe left it. -/
theorem passes_iff_probeCapture (version : Version) {node : DeviceNode} {observed : Observed σ} :
    Passes environment node version observed ↔
      (probeCapture environment node observed).1 = true := by
  refine ⟨And.left, fun hprobe => ⟨hprobe, ?_⟩⟩
  have hkept := (repeats_probeCapture hfixed node).view_eq observed
  simp only [probeCapture, bind_apply, Observed.openNode, Observed.queryCapability,
    Observed.call_apply] at hprobe
  cases hopening : (environment.openNode node.path .blocking observed.state).1 with
  | error _ => simp [hopening, pure_apply] at hprobe
  | ok opened =>
      simp only [hopening, bind_apply, Observed.call_apply] at hprobe
      have hopen := hfixed.openNode node.path .blocking
      cases hanswer : (environment.queryCapability opened
          (environment.openNode node.path .blocking observed.state).2).1 with
      | error _ => simp [hanswer, pure_apply] at hprobe
      | ok capability =>
          refine hbuilds version node.path _ opened capability
            (((hopen observed.state).2 _ hkept).trans hopening) ?_
          refine ((hfixed.queryCapability opened _).2 _ ?_).trans hanswer
          rw [(hopen _).1, (hopen _).1, hkept]

theorem assess_eq_admitted_iff_captures {node : DeviceNode} {observed : Observed σ} :
    assess environment settings node observed = .admitted ↔
      Captures environment settings node observed := by
  rw [assess_eq_admitted_iff, passes_iff_probeCapture hfixed hbuilds, Captures]

theorem assess_ne_panicked (node : DeviceNode) (observed : Observed σ) :
    assess environment settings node observed ≠ .panicked := by
  intro hpanicked
  have hrefused : assess environment settings node observed ≠ .admitted := by
    rw [hpanicked]
    exact nofun
  unfold assess tryOut at hpanicked
  dsimp only at hpanicked
  split_ifs at hpanicked with hexternal hprobe
  exact hrefused ((assess_eq_admitted_iff_captures hfixed hbuilds settings).mpr ⟨hexternal, hprobe⟩)

theorem isForeseeable_of_buildsWhatAnswers : environment.IsForeseeable settings view where
  toIsFixed := hfixed
  assess_eq := by
    intro node left right hcontent
    have hcaptures : assess environment settings node left = .admitted ↔
        assess environment settings node right = .admitted := by
      rw [assess_eq_admitted_iff_captures hfixed hbuilds,
        assess_eq_admitted_iff_captures hfixed hbuilds,
        captures_congr hfixed settings node hcontent]
    have hleft := assess_ne_panicked hfixed hbuilds settings node left
    have hright := assess_ne_panicked hfixed hbuilds settings node right
    cases hfirst : assess environment settings node left with
    | panicked => exact absurd hfirst hleft
    | admitted => exact (hcaptures.mp hfirst).symm
    | refused =>
        cases hsecond : assess environment settings node right with
        | panicked => exact absurd hsecond hright
        | admitted => exact absurd (hfirst.symm.trans (hcaptures.mpr hsecond)) nofun
        | refused => rfl

namespace Worker

theorem mem_devices_scan {names : List String} {start : Observed σ} {worker : Worker σ}
    (hcontent : view worker.outside.state = view start.state)
    (hempty : worker.registry.devices = .empty)
    (hlisting : (readDirectory environment settings worker).1 = .ok names) :
    (∃ count, (scan environment settings worker).1 = .finished count) ∧
      ∀ id, id ∈ (scan environment settings worker).2.registry.devices ↔
        ∃ name ∈ names, ∃ node, settings.candidate? name = some node ∧
          settings.logicalId? node = some id ∧ Captures environment settings node start := by
  have hforeseeable := isForeseeable_of_buildsWhatAnswers hfixed hbuilds settings
  have hcalm : IsCalm environment settings start names :=
    fun _ _ node _ => assess_ne_panicked hfixed hbuilds settings node start
  obtain ⟨count, hfinished⟩ := (isCalm_iff_finished hforeseeable hcontent hlisting).mp hcalm
  refine ⟨⟨count, hfinished⟩, ?_⟩
  intro id
  have hnone : id ∉ worker.registry.devices := hempty ▸ Ascending.not_mem_empty id
  rw [(completes_scan hforeseeable hcontent hlisting hfinished).members, or_iff_right hnone]
  simp only [assess_eq_admitted_iff_captures hfixed hbuilds]

end Worker

end Registering

/-! ### The two together -/

namespace Listing

/-- What is listed are nodes of the directory, each as it is found there, and none that captures is
left out. -/
structure Covers (environment : Environment σ ν δ) (settings : Settings) (names : List String)
    (observed : Observed σ) (listing : Listing) : Prop where
  found : ∀ listed ∈ listing.nodes, ∃ name ∈ names, ∃ node, settings.node? name = some node ∧
    settings.logicalId? node = some listed.id ∧
      (examine environment settings node listed.id observed).1 = listed
  whole : ∀ name ∈ names, ∀ node id, settings.node? name = some node →
    settings.logicalId? node = some id →
    (examine environment settings node id observed).1.capture? = some true →
    (examine environment settings node id observed).1 ∈ listing.nodes

section Covering

variable {environment : Environment σ ν δ} {settings : Settings} {names : List String}
  {observed : Observed σ} {listing : Listing}
  (hcovers : listing.Covers environment settings names observed)

include hcovers

theorem Covers.marked_iff (id : LogicalId) :
    (∃ listed ∈ listing.nodes, listed.id = id ∧ listed.capture? = some true) ↔
      ∃ name ∈ names, ∃ node, settings.candidate? name = some node ∧
        settings.logicalId? node = some id ∧ Captures environment settings node observed := by
  constructor
  · rintro ⟨listed, hlisted, rfl, hcapture⟩
    obtain ⟨name, hname, node, hnode, hid, hexamined⟩ := hcovers.found listed hlisted
    rw [← hexamined, capture?_examine] at hcapture
    obtain ⟨hinternal, hcaptures⟩ := hcapture
    exact ⟨name, hname, node, Settings.candidate?_eq_some_iff.mpr ⟨hnode, hinternal⟩, hid,
      hcaptures⟩
  · rintro ⟨name, hname, node, hcandidate, hid, hcaptures⟩
    obtain ⟨hnode, hinternal⟩ := Settings.candidate?_eq_some_iff.mp hcandidate
    have hcapture := (capture?_examine environment settings node id observed).mpr
      ⟨hinternal, hcaptures⟩
    exact ⟨_, hcovers.whole name hname node id hnode hid hcapture, id_examine _ _ _ _ _, hcapture⟩

/-- An id has one node, and one node is listed in one way. -/
theorem Covers.not_captures {listed : ListedNode} (hlisted : listed ∈ listing.nodes)
    (hclass : listed.listedClass = .internal ∨ listed.listedClass = .examined .notExternal ∨
      listed.capture? = some false) {node : DeviceNode} {name : String}
    (hcandidate : settings.candidate? name = some node)
    (hid : settings.logicalId? node = some listed.id) :
    ¬ Captures environment settings node observed := by
  intro hcaptures
  obtain ⟨_, _, other, hother, hown, hexamined⟩ := hcovers.found listed hlisted
  obtain ⟨hnode, hinternal⟩ := Settings.candidate?_eq_some_iff.mp hcandidate
  obtain rfl := Settings.node_eq_of_logicalId?_eq hother hnode hown hid
  have hcapture := (capture?_examine environment settings _ listed.id observed).mpr
    ⟨hinternal, hcaptures⟩
  exact capture?_ne_of_examine environment settings hexamined hclass (hexamined ▸ hcapture)

end Covering

variable {environment : Environment σ ν δ} {view : σ → κ} (hfixed : environment.IsFixed view)
  (settings : Settings) (externalOnly : Bool) {observed : Observed σ}

theorem scan_of_error {cause : IoError}
    (hread : (Observed.readDirectory environment settings.deviceDirectory observed).1 =
      .error cause) :
    (scan environment settings externalOnly observed).1 = .error cause := by
  simp only [scan, bind_apply, hread, pure_apply]

include hfixed

theorem scan_of_ok {names : List String}
    (hread : (Observed.readDirectory environment settings.deviceDirectory observed).1 = .ok names) :
    ∃ listing, (scan environment settings externalOnly observed).1 = .ok listing ∧
      listing.Covers environment settings names observed := by
  have hkept := (repeats_call (.readDirectory settings.deviceDirectory)
    (hfixed.readDirectory settings.deviceDirectory)).view_eq observed
  have hall := mem_examineAll hfixed settings (nodesAmong settings names) hkept
  simp only [mem_nodesAmong] at hall
  simp only [scan, bind_apply, hread, pure_apply]
  refine ⟨_, rfl, ?_, ?_⟩
  · intro listed hlisted
    have hmem := (hall listed).mp (by
      split_ifs at hlisted
      · exact (List.mem_filter.mp hlisted).1
      · exact hlisted)
    obtain ⟨node, ⟨name, hname, hnode⟩, id, hid, rfl⟩ := hmem
    rw [id_examine]
    exact ⟨name, hname, node, hnode, hid, rfl⟩
  · intro name hname node id hnode hid hcapture
    have hmem := (hall _).mpr ⟨node, ⟨name, hname, hnode⟩, id, hid, rfl⟩
    dsimp only
    split_ifs
    · exact List.mem_filter.mpr ⟨hmem, by rw [hcapture]; rfl⟩
    · exact hmem

end Listing

namespace Worker

/-- While the content stays as it is, a scan of an empty registry registers exactly the ids that
the listing marks as capturing: no id of an internal node, of one that is no external camera, or of
one whose probe failed. Where the directory cannot be read, both say so. -/
theorem listing_predicts_scan {environment : Environment σ ν δ} {view : σ → κ}
    (hfixed : environment.IsFixed view) (hbuilds : environment.BuildsWhatAnswers)
    (settings : Settings) (externalOnly : Bool) {observed : Observed σ} {worker : Worker σ}
    (hcontent : view worker.outside.state = view observed.state)
    (hempty : worker.registry.devices = .empty) :
    let scanned := scan environment settings worker
    match (Listing.scan environment settings externalOnly observed).1 with
    | .error cause => scanned.1 = .unavailable cause ∧ scanned.2.registry.devices = .empty
    | .ok listing =>
      (∃ count, scanned.1 = .finished count) ∧
        (∀ id, id ∈ scanned.2.registry.devices ↔
          ∃ listed ∈ listing.nodes, listed.id = id ∧ listed.capture? = some true) ∧
        ∀ listed ∈ listing.nodes,
          (listed.listedClass = .internal ∨ listed.listedClass = .examined .notExternal ∨
            listed.capture? = some false) →
          listed.id ∉ scanned.2.registry.devices := by
  intro scanned
  have hanswer : (readDirectory environment settings worker).1 =
      (Observed.readDirectory environment settings.deviceDirectory observed).1 :=
    (repeats_call (.readDirectory settings.deviceDirectory)
      (hfixed.readDirectory settings.deviceDirectory)).answer_eq hcontent
  cases hread : (Observed.readDirectory environment settings.deviceDirectory observed).1 with
  | error cause =>
      rw [Listing.scan_of_error settings externalOnly hread]
      dsimp only [scanned, scan]
      rw [readDirectory_eq] at hanswer ⊢
      dsimp only at hanswer
      rw [hanswer, hread]
      exact ⟨rfl, hempty⟩
  | ok names =>
      obtain ⟨listing, hlisting, hcovers⟩ :=
        Listing.scan_of_ok hfixed settings externalOnly hread
      obtain ⟨hfinished, hmem⟩ := mem_devices_scan hfixed hbuilds settings hcontent hempty
        (hanswer.trans hread)
      rw [hlisting]
      refine ⟨hfinished, fun id => (hmem id).trans (hcovers.marked_iff id).symm, ?_⟩
      intro listed hlisted hclass hregistered
      obtain ⟨_, _, node, hcandidate, hid, hcaptures⟩ := (hmem listed.id).mp hregistered
      exact hcovers.not_captures hlisted hclass hcandidate hid hcaptures

/-! ### A directory of every kind, listed -/

/-- Shown in the order of suffixes: an internal camera, a camera, a receiver, a codec, and a
receiver that cannot capture. -/
def coveredBench : Bench :=
  crowdedBench.addNode "video5" (.codec "amphion-vpu-decoder")

def coveredListing : Listing where
  directory := ⟨"/dev"⟩
  version := .v3_4
  offset := 100
  nodes :=
    [⟨⟨"/dev/video0"⟩, ⟨3, 4, 100⟩, .internal, none⟩,
      ⟨⟨"/dev/video1"⟩, ⟨3, 4, 101⟩, .examined .external, some true⟩,
      ⟨⟨"/dev/video3"⟩, ⟨3, 4, 103⟩, .examined .externalReceiver, some true⟩,
      ⟨⟨"/dev/video5"⟩, ⟨3, 4, 105⟩, .examined .notExternal, none⟩,
      ⟨⟨"/dev/video8"⟩, ⟨3, 4, 108⟩, .examined .externalReceiver, some false⟩]
  summary := ⟨5, 1, 1, 1, 2⟩

def coveredNodes : List DeviceNode :=
  [⟨"video0", ⟨"/dev/video0"⟩, 0⟩, ⟨"video1", ⟨"/dev/video1"⟩, 1⟩, ⟨"video3", ⟨"/dev/video3"⟩, 3⟩,
    ⟨"video5", ⟨"/dev/video5"⟩, 5⟩, ⟨"video8", ⟨"/dev/video8"⟩, 8⟩]

theorem nodesAmong_coveredBench :
    Listing.nodesAmong crowdedSettings coveredBench.entries = coveredNodes := by
  have hfound : coveredBench.entries.filterMap crowdedSettings.node? =
      [⟨"video0", ⟨"/dev/video0"⟩, 0⟩, ⟨"video3", ⟨"/dev/video3"⟩, 3⟩,
        ⟨"video8", ⟨"/dev/video8"⟩, 8⟩, ⟨"video1", ⟨"/dev/video1"⟩, 1⟩,
        ⟨"video5", ⟨"/dev/video5"⟩, 5⟩] := by
    decide +kernel
  rw [Listing.nodesAmong, hfound]
  simp [List.mergeSort, coveredNodes]

theorem scan_coveredBench :
    (Listing.scan crowdedEnvironment crowdedSettings false ⟨coveredBench, []⟩).1 =
      .ok coveredListing := by
  have hread : (Observed.readDirectory crowdedEnvironment crowdedSettings.deviceDirectory
      ⟨coveredBench, []⟩).1 = .ok coveredBench.entries := by
    decide +kernel
  simp only [Listing.scan, bind_apply, hread, nodesAmong_coveredBench]
  decide +kernel

theorem coveredListing_predicts :
    (Listing.scan crowdedEnvironment crowdedSettings false ⟨coveredBench, []⟩).1 =
        .ok coveredListing ∧
      let scanned := scan crowdedEnvironment.probing crowdedSettings (start coveredBench .empty)
      (∃ count, scanned.1 = .finished count) ∧
        (∀ id, id ∈ scanned.2.registry.devices ↔
          ∃ listed ∈ coveredListing.nodes, listed.id = id ∧ listed.capture? = some true) ∧
        ⟨3, 4, 101⟩ ∈ scanned.2.registry.devices ∧ ⟨3, 4, 105⟩ ∉ scanned.2.registry.devices ∧
        ⟨3, 4, 108⟩ ∉ scanned.2.registry.devices := by
  have hcontent : Bench.content (start coveredBench .empty).outside.state =
      Bench.content (Observed.mk coveredBench []).state := rfl
  have hfixed := (Bench.isDetermined fun _ _ => Construction.built ()).toIsFixed
  have hpredicted := listing_predicts_scan hfixed.probing
    (Environment.buildsWhatAnswers_probing crowdedEnvironment) crowdedSettings false hcontent rfl
  rw [show Bench.environment (fun _ _ => .built ()) = crowdedEnvironment from rfl,
    Listing.scan_probing, scan_coveredBench] at hpredicted
  obtain ⟨hfinished, hregistered, hkeptOut⟩ := hpredicted
  refine ⟨scan_coveredBench, hfinished, hregistered, ?_, ?_, ?_⟩
  · exact (hregistered ⟨3, 4, 101⟩).mpr
      ⟨⟨⟨"/dev/video1"⟩, ⟨3, 4, 101⟩, .examined .external, some true⟩, by decide, rfl, rfl⟩
  · exact hkeptOut ⟨⟨"/dev/video5"⟩, ⟨3, 4, 105⟩, .examined .notExternal, none⟩ (by decide)
      (by decide)
  · exact hkeptOut ⟨⟨"/dev/video8"⟩, ⟨3, 4, 108⟩, .examined .externalReceiver, some false⟩
      (by decide) (by decide)

end Worker

end CameraHotplug
