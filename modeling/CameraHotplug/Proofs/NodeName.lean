import CameraHotplug.DeviceNode
import CameraHotplug.Proofs.Decimal

/-!
# One name, one node, one id

A node name is the configured prefix followed by the one written form of its suffix, and an id is a
shifted suffix. So two accepted names with the same id are the same name, and an auxiliary entry is
never taken for a node when the settings have been checked. Entry names hold no separator, so joining
them onto a directory keeps them apart.
-/

namespace CameraHotplug

theorem Text.strip?_eq_some_iff {lead text rest : List Char} :
    Text.strip? lead text = some rest ↔ text = lead ++ rest := by
  induction lead generalizing text with
  | nil => simp [Text.strip?]
  | cons expected lead ih =>
      cases text with
      | nil => simp [Text.strip?]
      | cons char text =>
          by_cases heq : char = expected
          · simp [Text.strip?, heq, ih]
          · simp [Text.strip?, heq]

theorem Text.startsWith_iff_prefix {text lead : String} :
    Text.startsWith text lead = true ↔ lead.toList <+: text.toList :=
  List.isPrefixOf_iff_prefix

namespace DeviceNode

theorem named?_eq_some {directory : Path} {lead name : String} {node : DeviceNode}
    (hnamed : named? directory lead name = some node) :
    node.name = name ∧ node.path = directory.join name ∧
      name.toList = lead.toList ++ Decimal.digits node.suffix := by
  simp only [named?, Option.bind_eq_bind, Option.bind_eq_some_iff, Option.pure_def,
    Option.some.injEq] at hnamed
  obtain ⟨rest, hstrip, suffix, hread, rfl⟩ := hnamed
  refine ⟨rfl, rfl, ?_⟩
  rw [Text.strip?_eq_some_iff.mp hstrip, Decimal.eq_digits_of_read? hread]

variable {directory : Path} {lead name : String} {node : DeviceNode}

theorem name_of_named? (hnamed : named? directory lead name = some node) :
    node.name = lead ++ Decimal.text node.suffix := by
  obtain ⟨hname, -, htext⟩ := named?_eq_some hnamed
  apply String.toList_injective
  rw [hname, htext, String.toList_append, Decimal.text, String.toList_ofList]

theorem path_of_named? (hnamed : named? directory lead name = some node) :
    node.path = directory.join (lead ++ Decimal.text node.suffix) := by
  obtain ⟨hname, hpath, -⟩ := named?_eq_some hnamed
  rw [hpath, ← hname, name_of_named? hnamed]

end DeviceNode

namespace LogicalId

variable {suffix offset : UInt32} {version : Version} {id : LogicalId}

theorem number_of_forSuffix? (hid : forSuffix? suffix offset version = some id) :
    id.number.toNat = suffix.toNat + offset.toNat := by
  simp only [forSuffix?, Option.ite_none_right_eq_some, Option.some.injEq] at hid
  obtain ⟨hbound, rfl⟩ := hid
  rw [ofVersion, UInt32.toNat_add]
  exact Nat.mod_eq_of_lt hbound

theorem suffix?_of_forSuffix? (hid : forSuffix? suffix offset version = some id) :
    id.suffix? offset = some suffix := by
  have hnumber := number_of_forSuffix? hid
  have hle : offset ≤ id.number := by
    rw [UInt32.le_iff_toNat_le]
    omega
  rw [LogicalId.suffix?, if_pos hle, Option.some.injEq]
  apply UInt32.toNat_inj.mp
  rw [UInt32.toNat_sub_of_le _ _ hle]
  omega

end LogicalId

namespace Settings

variable {settings : Settings} {name : String} {node : DeviceNode}

theorem named?_of_node? (hnode : settings.node? name = some node) :
    DeviceNode.named? settings.deviceDirectory settings.nodePrefix name = some node :=
  (Option.filter_eq_some_iff.mp hnode).1

theorem name_of_node? (hnode : settings.node? name = some node) : node.name = name :=
  (DeviceNode.named?_eq_some (named?_of_node? hnode)).1

theorem path_of_node? (hnode : settings.node? name = some node) :
    node.path = settings.deviceDirectory.join name :=
  (DeviceNode.named?_eq_some (named?_of_node? hnode)).2.1

theorem toList_of_node? (hnode : settings.node? name = some node) :
    name.toList = settings.nodePrefix.toList ++ Decimal.digits node.suffix :=
  (DeviceNode.named?_eq_some (named?_of_node? hnode)).2.2

theorem exists_logicalId_of_node? (hnode : settings.node? name = some node) :
    ∃ id, settings.logicalId? node = some id :=
  Option.isSome_iff_exists.mp (Option.filter_eq_some_iff.mp hnode).2

theorem candidate?_eq_some_iff :
    settings.candidate? name = some node ↔
      settings.node? name = some node ∧ settings.isInternal node.suffix = false := by
  simp [candidate?, Option.filter_eq_some_iff]

theorem node?_of_candidate? (hcandidate : settings.candidate? name = some node) :
    settings.node? name = some node :=
  (candidate?_eq_some_iff.mp hcandidate).1

/-- The path that an id leads back to is the path of its node. -/
theorem nodePath?_of_logicalId? {id : LogicalId} (hnode : settings.node? name = some node)
    (hid : settings.logicalId? node = some id) : settings.nodePath? id = some node.path := by
  rw [nodePath?, LogicalId.suffix?_of_forSuffix? hid, Option.map_some,
    DeviceNode.path_of_named? (named?_of_node? hnode)]

theorem suffix_eq_of_logicalId?_eq {left right : DeviceNode} {id : LogicalId}
    (hleft : settings.logicalId? left = some id) (hright : settings.logicalId? right = some id) :
    left.suffix = right.suffix :=
  Option.some.inj ((LogicalId.suffix?_of_forSuffix? hleft).symm.trans
    (LogicalId.suffix?_of_forSuffix? hright))

theorem name_eq_of_suffix_eq {other : String} {otherNode : DeviceNode}
    (hnode : settings.node? name = some node) (hother : settings.node? other = some otherNode)
    (hsuffix : node.suffix = otherNode.suffix) : name = other := by
  apply String.toList_injective
  rw [toList_of_node? hnode, toList_of_node? hother, hsuffix]

theorem node_eq_of_suffix_eq {other : String} {otherNode : DeviceNode}
    (hnode : settings.node? name = some node) (hother : settings.node? other = some otherNode)
    (hsuffix : node.suffix = otherNode.suffix) : node = otherNode := by
  have hname := name_eq_of_suffix_eq hnode hother hsuffix
  exact Option.some.inj (hnode.symm.trans (hname ▸ hother))

theorem name_eq_of_logicalId?_eq {other : String} {otherNode : DeviceNode} {id : LogicalId}
    (hnode : settings.node? name = some node) (hother : settings.node? other = some otherNode)
    (hid : settings.logicalId? node = some id)
    (hotherId : settings.logicalId? otherNode = some id) : name = other :=
  name_eq_of_suffix_eq hnode hother (suffix_eq_of_logicalId?_eq hid hotherId)

theorem node_eq_of_logicalId?_eq {other : String} {otherNode : DeviceNode} {id : LogicalId}
    (hnode : settings.node? name = some node) (hother : settings.node? other = some otherNode)
    (hid : settings.logicalId? node = some id)
    (hotherId : settings.logicalId? otherNode = some id) : node = otherNode :=
  node_eq_of_suffix_eq hnode hother (suffix_eq_of_logicalId?_eq hid hotherId)

/-- The node is one that discovery may touch, and the id is its own. -/
def StandsFor (settings : Settings) (id : LogicalId) (node : DeviceNode) : Prop :=
  settings.candidate? node.name = some node ∧ settings.logicalId? node = some id

/-- The node of an id is the only one among all nodes, internal ones included. -/
theorem StandsFor.eq_of_node? {id : LogicalId} (hstands : settings.StandsFor id node)
    {other : String} {otherNode : DeviceNode} (hother : settings.node? other = some otherNode)
    (hid : settings.logicalId? otherNode = some id) : otherNode = node :=
  node_eq_of_logicalId?_eq hother (node?_of_candidate? hstands.1) hid hstands.2

theorem StandsFor.unique {id : LogicalId} {left right : DeviceNode}
    (hleft : settings.StandsFor id left) (hright : settings.StandsFor id right) : left = right :=
  hright.eq_of_node? (node?_of_candidate? hleft.1) hleft.2

theorem standsFor_of_candidate? {id : LogicalId} (hcandidate : settings.candidate? name = some node)
    (hid : settings.logicalId? node = some id) : settings.StandsFor id node :=
  ⟨(name_of_node? (node?_of_candidate? hcandidate)).symm ▸ hcandidate, hid⟩

/-- Neither prefix begins the other, so no text begins with both. -/
theorem startsWith_aux_eq_false (hvalid : settings.flaw? = none)
    (hlead : Text.startsWith name settings.nodePrefix = true) :
    Text.startsWith name settings.auxPrefix = false := by
  rw [Bool.eq_false_iff]
  intro haux
  have hoverlap : (Text.startsWith settings.nodePrefix settings.auxPrefix ||
      Text.startsWith settings.auxPrefix settings.nodePrefix) = true := by
    rw [Bool.or_eq_true, Text.startsWith_iff_prefix, Text.startsWith_iff_prefix]
    exact List.prefix_or_prefix_of_prefix (Text.startsWith_iff_prefix.mp haux)
      (Text.startsWith_iff_prefix.mp hlead)
  unfold flaw? at hvalid
  rw [if_pos hoverlap] at hvalid
  split_ifs at hvalid

theorem startsWith_of_node? (hnode : settings.node? name = some node) :
    Text.startsWith name settings.nodePrefix = true :=
  Text.startsWith_iff_prefix.mpr ⟨Decimal.digits node.suffix, (toList_of_node? hnode).symm⟩

/-- An auxiliary entry: no node, but with the auxiliary prefix. -/
def IsAuxiliary (settings : Settings) (name : String) : Prop :=
  settings.node? name = none ∧ Text.startsWith name settings.auxPrefix = true

instance (name : String) : Decidable (settings.IsAuxiliary name) :=
  inferInstanceAs (Decidable (_ ∧ _))

theorem IsAuxiliary.candidate?_eq_none (haux : settings.IsAuxiliary name) :
    settings.candidate? name = none := by
  rw [candidate?, haux.1]
  rfl

theorem isAuxiliary_of_startsWith (hvalid : settings.flaw? = none)
    (haux : Text.startsWith name settings.auxPrefix = true) : settings.IsAuxiliary name := by
  refine ⟨?_, haux⟩
  by_contra hnone
  obtain ⟨node, hnode⟩ := Option.ne_none_iff_exists'.mp hnone
  have hother := startsWith_aux_eq_false hvalid (startsWith_of_node? hnode)
  exact Bool.false_ne_true (hother.symm.trans haux)

end Settings

/-- The name of a directory entry: not empty, and without a separator. -/
def IsEntryName (name : String) : Prop :=
  name.toList ≠ [] ∧ '/' ∉ name.toList

instance (name : String) : Decidable (IsEntryName name) :=
  inferInstanceAs (Decidable (_ ∧ _))

structure Settings.Touches (settings : Settings) (node : DeviceNode) : Prop where
  proper : IsEntryName node.name
  candidate : settings.candidate? node.name = some node

theorem Settings.Touches.path {settings : Settings} {node : DeviceNode}
    (htouches : settings.Touches node) :
    node.path = settings.deviceDirectory.join node.name :=
  path_of_node? (node?_of_candidate? htouches.candidate)

theorem Settings.touches_of_candidate? {settings : Settings} {name : String} {node : DeviceNode}
    (hcandidate : settings.candidate? name = some node) (hproper : IsEntryName name) :
    settings.Touches node ∧ node.name = name := by
  have hname := name_of_node? (node?_of_candidate? hcandidate)
  exact ⟨⟨hname ▸ hproper, hname.symm ▸ hcandidate⟩, hname⟩

theorem Settings.Touches.standsFor {settings : Settings} {node : DeviceNode} {id : LogicalId}
    (htouches : settings.Touches node) (hid : settings.logicalId? node = some id) :
    settings.StandsFor id node :=
  ⟨htouches.candidate, hid⟩

theorem Settings.Touches.eq_of_name_eq {settings : Settings} {left right : DeviceNode}
    (hleft : settings.Touches left) (hright : settings.Touches right)
    (hname : left.name = right.name) : left = right :=
  Option.some.inj (hleft.candidate.symm.trans (hname ▸ hright.candidate))

namespace Path

theorem head?_ne_of_isEntryName {name : String} (hname : IsEntryName name) :
    name.toList.head? ≠ some '/' :=
  fun hhead => hname.2 (List.mem_of_head? hhead)

/-- What a directory and the first part of a name put in front of the rest does not depend on the
rest. -/
theorem exists_lead_join_append (directory : Path) (front : String) :
    ∃ lead : String, ∀ rest : String, rest.toList.head? ≠ some '/' →
      directory.join (front ++ rest) = ⟨lead ++ rest⟩ := by
  by_cases habsolute : front.toList.head? = some '/'
  · refine ⟨front, ?_⟩
    intro rest hrest
    have hhead : (front ++ rest).toList.head? = some '/' := by
      rw [String.toList_append, List.head?_append, habsolute, Option.some_or]
    rw [join, if_pos hhead]
  · have hhead : ∀ rest : String, rest.toList.head? ≠ some '/' →
        (front ++ rest).toList.head? ≠ some '/' := by
      intro rest hrest
      rw [String.toList_append, List.head?_append]
      cases hfront : front.toList.head? with
      | none => exact hrest
      | some char => exact fun heq => habsolute (hfront.trans heq)
    by_cases hends : directory.text.toList.getLast?.all (· = '/') = true
    · refine ⟨directory.text ++ front, ?_⟩
      intro rest hrest
      rw [join, if_neg (hhead rest hrest), if_pos hends, String.append_assoc]
    · refine ⟨directory.text ++ "/" ++ front, ?_⟩
      intro rest hrest
      rw [join, if_neg (hhead rest hrest), if_neg hends, String.append_assoc, String.append_assoc,
        String.append_assoc]

/-- What a directory puts in front of an entry name does not depend on the name. -/
theorem exists_lead_join (directory : Path) :
    ∃ lead : String, ∀ name, IsEntryName name → directory.join name = ⟨lead ++ name⟩ := by
  obtain ⟨lead, hlead⟩ := directory.exists_lead_join_append ""
  refine ⟨lead, ?_⟩
  intro name hname
  rw [← hlead name (head?_ne_of_isEntryName hname), String.empty_append]

theorem join_injective {directory : Path} {left right : String} (hleft : IsEntryName left)
    (hright : IsEntryName right) (hjoin : directory.join left = directory.join right) :
    left = right := by
  obtain ⟨lead, hlead⟩ := directory.exists_lead_join
  rw [hlead left hleft, hlead right hright, mk.injEq] at hjoin
  have hlist := congrArg String.toList hjoin
  rw [String.toList_append, String.toList_append] at hlist
  exact String.toList_injective (List.append_cancel_left hlist)

theorem join_of_getLast?_ne {directory : Path} {name : String} (hname : IsEntryName name)
    (hends : ¬ directory.text.toList.getLast?.all (· = '/') = true) :
    directory.join name = ⟨directory.text ++ "/" ++ name⟩ := by
  simp only [join, if_neg (head?_ne_of_isEntryName hname), if_neg hends]

theorem getLast?_join_ne (directory : Path) {name : String} (hname : IsEntryName name) :
    ¬ (directory.join name).text.toList.getLast?.all (· = '/') = true := by
  obtain ⟨lead, hlead⟩ := directory.exists_lead_join
  rw [hlead name hname, String.toList_append, List.getLast?_append,
    List.getLast?_eq_some_getLast hname.1]
  simp only [Option.some_or, Option.all_some, decide_eq_true_eq]
  exact fun heq => hname.2 (heq ▸ List.getLast_mem hname.1)

theorem join_join_injective {directory : Path} {left right last : String}
    (hleft : IsEntryName left) (hright : IsEntryName right) (hlast : IsEntryName last)
    (hjoin : (directory.join left).join last = (directory.join right).join last) :
    left = right := by
  rw [join_of_getLast?_ne hlast (getLast?_join_ne directory hleft),
    join_of_getLast?_ne hlast (getLast?_join_ne directory hright), mk.injEq] at hjoin
  have hlist := congrArg String.toList hjoin
  simp only [String.toList_append] at hlist
  have htext := List.append_cancel_right (List.append_cancel_right hlist)
  exact join_injective hleft hright (congrArg mk (String.toList_injective htext))

end Path

end CameraHotplug
