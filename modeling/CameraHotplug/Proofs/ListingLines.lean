import CameraHotplug.CommandLine.Execution
import CameraHotplug.Proofs.Prediction
import CameraHotplug.Proofs.Report
import Mathlib.Data.List.Induction

/-!
# The lines of the listing

A suffix has one name, so the nodes of a directory stand in one order, however their names were
read. Each of them has a line, which is counted once, under the class that it shows. What is shown of
external nodes alone are their lines among all lines, over the same counts.
-/

namespace CameraHotplug

variable {σ ν δ κ : Type}

namespace Listing

/-! ### The order of nodes -/

section Order

variable (settings : Settings) {names others : List String}

theorem suffix_le_trans (first second third : DeviceNode)
    (hfirst : decide (first.suffix ≤ second.suffix) = true)
    (hsecond : decide (second.suffix ≤ third.suffix) = true) :
    decide (first.suffix ≤ third.suffix) = true :=
  decide_eq_true (UInt32.le_trans (of_decide_eq_true hfirst) (of_decide_eq_true hsecond))

theorem suffix_le_total (first second : DeviceNode) :
    (decide (first.suffix ≤ second.suffix) || decide (second.suffix ≤ first.suffix)) = true := by
  simpa using UInt32.le_total first.suffix second.suffix

theorem pairwise_le_nodesAmong (names : List String) :
    (nodesAmong settings names).Pairwise fun first second => first.suffix ≤ second.suffix :=
  (List.pairwise_mergeSort suffix_le_trans suffix_le_total _).imp of_decide_eq_true

theorem nodesAmong_perm (names : List String) :
    (nodesAmong settings names).Perm (names.filterMap settings.node?) :=
  List.mergeSort_perm _ _

/-- The suffix decides the node, so there is no choice in the order. -/
theorem nodesAmong_eq_of_perm (hperm : names.Perm others) :
    nodesAmong settings names = nodesAmong settings others := by
  have hnodes : (nodesAmong settings names).Perm (nodesAmong settings others) :=
    (nodesAmong_perm settings names).trans
      ((hperm.filterMap _).trans (nodesAmong_perm settings others).symm)
  refine hnodes.eq_of_pairwise ?_ (pairwise_le_nodesAmong settings names)
    (pairwise_le_nodesAmong settings others)
  intro first second hfirst hsecond hle hge
  obtain ⟨_, _, hnode⟩ := (mem_nodesAmong settings).mp hfirst
  obtain ⟨_, _, hother⟩ := (mem_nodesAmong settings).mp hsecond
  exact Settings.node_eq_of_suffix_eq hnode hother (UInt32.le_antisymm hle hge)

theorem pairwise_lt_nodesAmong (hnames : names.Nodup) :
    (nodesAmong settings names).Pairwise fun first second => first.suffix < second.suffix := by
  have hnodes : (nodesAmong settings names).Nodup := by
    refine (nodesAmong_perm settings names).nodup_iff.mpr (hnames.filterMap ?_)
    intro name other node hname hother
    exact Settings.name_eq_of_suffix_eq hname hother rfl
  refine ((pairwise_le_nodesAmong settings names).and hnodes).imp_of_mem ?_
  rintro first second hfirst hsecond ⟨hle, hne⟩
  obtain ⟨_, _, hnode⟩ := (mem_nodesAmong settings).mp hfirst
  obtain ⟨_, _, hother⟩ := (mem_nodesAmong settings).mp hsecond
  refine UInt32.lt_of_le_of_ne hle ?_
  exact fun hsuffix => hne (Settings.node_eq_of_suffix_eq hnode hother hsuffix)

/-- The names that are those of nodes. -/
def nodeNames (names : List String) : List String :=
  names.filter fun name => (settings.node? name).isSome

theorem map_name_nodesAmong_perm (names : List String) :
    ((nodesAmong settings names).map (·.name)).Perm (nodeNames settings names) := by
  refine ((nodesAmong_perm settings names).map _).trans (List.Perm.of_eq ?_)
  induction names with
  | nil => rfl
  | cons name names ih =>
      unfold nodeNames at ih ⊢
      cases hnode : settings.node? name with
      | none =>
          rw [List.filterMap_cons_none hnode, List.filter_cons_of_neg (by simp [hnode]), ih]
      | some node =>
          rw [List.filterMap_cons_some hnode, List.filter_cons_of_pos (by simp [hnode]),
            List.map_cons, ih, Settings.name_of_node? hnode]

end Order

/-! ### The lines -/

section Lines

variable (environment : Environment σ ν δ) (settings : Settings)

/-- The line shows the node as it was examined at some moment. -/
def IsLineOf (node : DeviceNode) (listed : ListedNode) : Prop :=
  settings.logicalId? node = some listed.id ∧
    ∃ observed, (examine environment settings node listed.id observed).1 = listed

theorem forall₂_examineAll {nodes : List DeviceNode}
    (hids : ∀ node ∈ nodes, ∃ id, settings.logicalId? node = some id) (observed : Observed σ) :
    List.Forall₂ (IsLineOf environment settings) nodes
      (examineAll environment settings nodes observed).1 := by
  induction nodes generalizing observed with
  | nil => exact .nil
  | cons node nodes ih =>
      rw [List.forall_mem_cons] at hids
      obtain ⟨⟨id, hid⟩, hrest⟩ := hids
      unfold examineAll
      simp only [hid, bind_apply, pure_apply]
      refine .cons ⟨?_, observed, ?_⟩ (ih hrest _)
      · rw [id_examine, hid]
      · rw [id_examine]

@[simp]
theorem path_examine (node : DeviceNode) (id : LogicalId) (observed : Observed σ) :
    (examine environment settings node id observed).1.path = node.path := by
  rw [fst_examine]
  split_ifs <;> rfl

/-- The line is that of an external node. -/
def IsExternalLine (listed : ListedNode) : Prop :=
  listed.listedClass = .examined .external ∨ listed.listedClass = .examined .externalReceiver

instance (listed : ListedNode) : Decidable (IsExternalLine listed) :=
  inferInstanceAs (Decidable (_ ∨ _))

theorem isSome_capture?_examine (node : DeviceNode) (id : LogicalId) (observed : Observed σ) :
    (examine environment settings node id observed).1.capture?.isSome = true ↔
      IsExternalLine (examine environment settings node id observed).1 := by
  rw [fst_examine, IsExternalLine]
  split_ifs
  · simp
  · dsimp only
    cases (classify environment settings node observed).1 <;> simp [Classification.isExternal]

end Lines

end Listing

/-! ### The counts -/

/-- The lines of two classes read differently. -/
theorem ListedClass.text_injective : Function.Injective ListedClass.text := by
  intro left right
  rcases left with _ | _ | _ | _ <;> rcases right with _ | _ | _ | _ <;> decide

namespace Summary

theorem count_of (nodes : List ListedNode) (listedClass : ListedClass) :
    (Summary.of nodes).count listedClass =
      nodes.countP fun listed => listed.listedClass.text = listedClass.text := by
  have hcount : (Summary.of nodes).count listedClass =
      nodes.countP fun listed => listed.listedClass = listedClass := by
    cases listedClass with
    | internal => rfl
    | examined classification => cases classification <;> rfl
  rw [hcount]
  simp only [ListedClass.text_injective.eq_iff]

def zero : Summary :=
  ⟨0, 0, 0, 0, 0⟩

/-- One more line adds to the total and to the count of its class. -/
def counting (summary : Summary) (listed : ListedNode) : Summary :=
  let summary := { summary with total := summary.total + 1 }
  match listed.listedClass with
  | .internal => { summary with internal := summary.internal + 1 }
  | .examined .notExternal => { summary with notExternal := summary.notExternal + 1 }
  | .examined .external => { summary with external := summary.external + 1 }
  | .examined .externalReceiver => { summary with receivers := summary.receivers + 1 }

theorem of_concat (nodes : List ListedNode) (listed : ListedNode) :
    Summary.of (nodes ++ [listed]) = (Summary.of nodes).counting listed := by
  simp only [Summary.of, counting, List.length_append, List.countP_append, List.countP_singleton,
    List.length_singleton]
  cases listed.listedClass with
  | internal => simp
  | examined classification => cases classification <;> simp

theorem foldl_counting (nodes : List ListedNode) :
    nodes.foldl counting zero = Summary.of nodes := by
  induction nodes using List.reverseRecOn with
  | nil => rfl
  | append_singleton nodes listed ih => rw [List.foldl_concat, ih, of_concat]

/-- Every node counted is counted under one class. -/
def IsBalanced (summary : Summary) : Prop :=
  summary.total = summary.internal + summary.notExternal + summary.external + summary.receivers

theorem IsBalanced.counting {summary : Summary} (hbalanced : summary.IsBalanced)
    (listed : ListedNode) : (summary.counting listed).IsBalanced := by
  unfold IsBalanced at hbalanced ⊢
  unfold Summary.counting
  cases listed.listedClass with
  | internal => dsimp only; omega
  | examined classification => cases classification <;> dsimp only <;> omega

theorem isBalanced_of (nodes : List ListedNode) : (Summary.of nodes).IsBalanced := by
  induction nodes using List.reverseRecOn with
  | nil => rfl
  | append_singleton nodes listed ih =>
      rw [of_concat]
      exact ih.counting listed

end Summary

/-! ### The whole listing -/

namespace Listing

/-- One line for each node among the names, by ascending suffix, and a summary that counts each line
once, under the class that the line shows. -/
structure Lists (settings : Settings) (names : List String) (listing : Listing) : Prop where
  directory : listing.directory = settings.deviceDirectory
  version : listing.version = settings.version
  offset : listing.offset = settings.idOffset
  lines : ∃ nodes : List DeviceNode,
    (nodes.map (·.name)).Perm (nodeNames settings names) ∧
    (∀ node ∈ nodes, settings.node? node.name = some node) ∧
    nodes.Pairwise (fun first second => first.suffix < second.suffix) ∧
    List.Forall₂ (fun node listed => listed.path = node.path ∧
      settings.logicalId? node = some listed.id ∧
      (listed.listedClass = .internal ↔ settings.isInternal node.suffix = true)) nodes listing.nodes
  counted : ∀ listedClass, listing.summary.count listedClass =
    listing.nodes.countP fun listed => listed.listedClass.text = listedClass.text
  tallied : listing.summary = listing.nodes.foldl Summary.counting .zero
  sum : listing.summary.total =
    listing.summary.internal + listing.summary.notExternal + listing.summary.external +
      listing.summary.receivers
  total : listing.summary.total = (nodeNames settings names).length

/-- The lines of external nodes alone, over the same summary. -/
def onlyExternal (listing : Listing) : Listing :=
  { listing with nodes := listing.nodes.filter IsExternalLine }

section Whole

variable (environment : Environment σ ν δ) (settings : Settings) {names : List String}
  {observed : Observed σ}

/-- The listing of all nodes among the names. -/
def listingOf (names : List String) (observed : Observed σ) : Listing :=
  let nodes := (examineAll environment settings (nodesAmong settings names) observed).1
  { directory := settings.deviceDirectory
    version := settings.version
    offset := settings.idOffset
    nodes := nodes
    summary := .of nodes }

theorem forall₂_listingOf (names : List String) (observed : Observed σ) :
    List.Forall₂ (IsLineOf environment settings) (nodesAmong settings names)
      (listingOf environment settings names observed).nodes := by
  refine forall₂_examineAll environment settings ?_ observed
  intro node hnode
  obtain ⟨_, _, hname⟩ := (mem_nodesAmong settings).mp hnode
  exact Settings.exists_logicalId_of_node? hname

theorem lists_listingOf (hnames : names.Nodup) (observed : Observed σ) :
    (listingOf environment settings names observed).Lists settings names := by
  have hlines := forall₂_listingOf environment settings names observed
  have hperm := map_name_nodesAmong_perm settings names
  refine ⟨rfl, rfl, rfl,
    ⟨nodesAmong settings names, hperm, ?_, pairwise_lt_nodesAmong settings hnames, ?_⟩,
    Summary.count_of _, (Summary.foldl_counting _).symm, Summary.isBalanced_of _, ?_⟩
  · intro node hnode
    obtain ⟨name, _, hname⟩ := (mem_nodesAmong settings).mp hnode
    rw [Settings.name_of_node? hname, hname]
  · refine hlines.imp ?_
    rintro node listed ⟨hid, moment, hexamined⟩
    refine ⟨?_, hid, ?_⟩
    · rw [← hexamined, path_examine]
    · rw [← hexamined, listedClass_examine]
      split_ifs with hinternal
      · exact iff_of_true rfl hinternal
      · exact iff_of_false nofun hinternal
  · rw [← hperm.length_eq, List.length_map]
    exact hlines.length_eq.symm

theorem isSome_capture?_of_mem_listingOf {listed : ListedNode}
    (hlisted : listed ∈ (listingOf environment settings names observed).nodes) :
    listed.capture?.isSome = true ↔ IsExternalLine listed := by
  have hlines := (forall₂_listingOf environment settings names observed).flip
  have hexternal : List.Forall₂ (fun own node =>
      (own.capture?.isSome = true ↔ IsExternalLine own) ∧ IsLineOf environment settings node own)
      (listingOf environment settings names observed).nodes (nodesAmong settings names) := by
    refine hlines.imp ?_
    rintro own node ⟨hid, moment, hexamined⟩
    refine ⟨?_, hid, moment, hexamined⟩
    rw [← hexamined]
    exact isSome_capture?_examine environment settings node own.id moment
  exact ((List.forall₂_and_left _ _).mp hexternal).1 listed hlisted

theorem scan_eq_listingOf
    (hread : (Observed.readDirectory environment settings.deviceDirectory observed).1 = .ok names)
    (externalOnly : Bool) :
    (scan environment settings externalOnly observed).1 =
      .ok
        (let listing := listingOf environment settings names
          (Observed.readDirectory environment settings.deviceDirectory observed).2
        if externalOnly then listing.onlyExternal else listing) := by
  simp only [scan, bind_apply, hread, pure_apply]
  cases externalOnly with
  | false => rfl
  | true =>
      refine congrArg (fun nodes => Except.ok { listingOf environment settings names
        (Observed.readDirectory environment settings.deviceDirectory observed).2 with nodes }) ?_
      refine List.filter_congr ?_
      intro listed hlisted
      rw [Bool.eq_iff_iff, decide_eq_true_eq]
      exact isSome_capture?_of_mem_listingOf environment settings hlisted

theorem report_of_scan {json externalOnly : Bool} {state : σ} {listing : Listing}
    (hscan : (scan environment settings externalOnly ⟨state, []⟩).1 = .ok listing) :
    ∃ report, CommandLine.scan environment settings json externalOnly state = .ok report ∧
      listing.IsReport json report := by
  rw [CommandLine.scan, hscan]
  cases json with
  | true => exact ⟨_, rfl, isJsonOf_document listing⟩
  | false => exact ⟨_, rfl, isTextOf_text listing⟩

end Whole

section Fixed

variable {environment : Environment σ ν δ} {view : σ → κ} (hfixed : environment.IsFixed view)
  (settings : Settings)

include hfixed

theorem repeats_examineAll (nodes : List DeviceNode) :
    Repeats view (examineAll environment settings nodes) := by
  induction nodes with
  | nil => exact repeats_pure []
  | cons node nodes ih =>
      unfold examineAll
      cases settings.logicalId? node with
      | none => exact ih
      | some id =>
          refine repeats_bind (repeats_examine hfixed settings node id) ?_
          exact fun _ => repeats_bind ih fun _ => repeats_pure _

/-- In any order of the names the same nodes are examined, one after the other, in one order. -/
theorem listingOf_relisted {names order : List String} (hperm : names.Perm order)
    {left right : Observed σ} (hcontent : view left.state = view right.state) :
    listingOf (environment.relisted order) settings order left =
      listingOf environment settings names right := by
  have hlines := (repeats_examineAll hfixed settings (nodesAmong settings names)).answer_eq hcontent
  have hrelisted : examineAll (environment.relisted order) settings =
      examineAll environment settings :=
    funext (examineAll_congr environment settings fun _ _ => rfl)
  simp only [listingOf, hrelisted, nodesAmong_eq_of_perm settings hperm.symm, hlines]

end Fixed

/-- The listing has one line for each node in the directory, by ascending suffix, and counts each
line once, under its class. The report, as text or as JSON, shows these lines and counts. The option
for external nodes leaves their lines, in the same order, and the counts. While the content stays as
it is, the directory may be listed in any order: the report is the same. -/
theorem scan_shows_each_node_once (environment : Environment σ ν δ) (settings : Settings)
    (view : σ → κ) (state : σ) {names : List String} (hnames : names.Nodup)
    (hread : (environment.readDirectory settings.deviceDirectory state).1 = .ok names) :
    ∃ listing : Listing,
      (scan environment settings false ⟨state, []⟩).1 = .ok listing ∧
      listing.Lists settings names ∧
      (∀ json, ∃ report, CommandLine.scan environment settings json false state = .ok report ∧
        listing.IsReport json report) ∧
      (∀ json, ∃ report, CommandLine.scan environment settings json true state = .ok report ∧
        listing.onlyExternal.IsReport json report) ∧
      (environment.IsFixed view → ∀ order, names.Perm order → ∀ json externalOnly,
        CommandLine.scan (environment.relisted order) settings json externalOnly state =
          CommandLine.scan environment settings json externalOnly state) := by
  have hanswer : (Observed.readDirectory environment settings.deviceDirectory ⟨state, []⟩).1 =
      .ok names := hread
  have hall := scan_eq_listingOf environment settings hanswer
  refine ⟨_, hall false, lists_listingOf environment settings hnames _,
    fun json => report_of_scan environment settings (hall false),
    fun json => report_of_scan environment settings (hall true), ?_⟩
  intro hfixed order hperm json externalOnly
  have hanswered : (Observed.readDirectory (environment.relisted order) settings.deviceDirectory
      ⟨state, []⟩).1 = .ok order := rfl
  have hcontent : view (Observed.readDirectory (environment.relisted order)
      settings.deviceDirectory ⟨state, []⟩).2.state =
        view (Observed.readDirectory environment settings.deviceDirectory ⟨state, []⟩).2.state :=
    (hfixed.readDirectory settings.deviceDirectory state).1.symm
  rw [CommandLine.scan, CommandLine.scan, hall externalOnly,
    scan_eq_listingOf (environment.relisted order) settings hanswered externalOnly,
    listingOf_relisted hfixed settings hperm hcontent]

/-! ### A directory of every kind, listed backwards -/

open Worker in
theorem coveredBench_shown :
    coveredBench.entries.Nodup ∧
      (crowdedEnvironment.readDirectory crowdedSettings.deviceDirectory coveredBench).1 =
        .ok coveredBench.entries ∧
      coveredListing.Lists crowdedSettings coveredBench.entries ∧
      coveredListing.onlyExternal.nodes.map (·.id.number) = [101, 103, 108] ∧
      (∀ json, ∃ report,
        CommandLine.scan crowdedEnvironment crowdedSettings json true coveredBench = .ok report ∧
          coveredListing.onlyExternal.IsReport json report) ∧
      ∀ json, ∃ report,
        CommandLine.scan (crowdedEnvironment.relisted coveredBench.entries.reverse)
          crowdedSettings json false coveredBench = .ok report ∧
          coveredListing.IsReport json report := by
  have hnames : coveredBench.entries.Nodup := by decide
  have hread : (crowdedEnvironment.readDirectory crowdedSettings.deviceDirectory
      coveredBench).1 = .ok coveredBench.entries := by
    decide +kernel
  have hfixed : crowdedEnvironment.IsFixed Bench.content :=
    (Bench.isDetermined fun _ _ => .built ()).toIsFixed
  obtain ⟨listing, hlisting, hlists, hall, hexternal, hshuffled⟩ :=
    scan_shows_each_node_once crowdedEnvironment crowdedSettings Bench.content coveredBench hnames
      hread
  obtain rfl : coveredListing = listing := Except.ok.inj (scan_coveredBench.symm.trans hlisting)
  refine ⟨hnames, hread, hlists, by decide, hexternal, ?_⟩
  intro json
  obtain ⟨report, hreport, hshown⟩ := hall json
  refine ⟨report, ?_, hshown⟩
  rw [hshuffled hfixed _ (List.reverse_perm _).symm json false, hreport]

end Listing

end CameraHotplug
