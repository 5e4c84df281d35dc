import CameraHotplug.Proofs.Place

/-!
# Names, suffixes, ids and paths

An entry is a node when its name is the prefix and the one decimal of a number that still fits when
the offset is added. The name, the suffix, the id and the path of a node determine each other. Adding
the offset and taking it away again are exact, so from the offset on every id of the version in use
has a name, and no id below the offset has one.
-/

namespace CameraHotplug

namespace LogicalId

variable {id : LogicalId} {suffix offset : UInt32} {version : Version}

theorem forSuffix?_eq_some_iff :
    forSuffix? suffix offset version = some id ↔
      id.major = version.major ∧ id.minor = version.minor ∧
        id.number.toNat = suffix.toNat + offset.toNat := by
  constructor
  · intro hid
    have hnumber := number_of_forSuffix? hid
    simp only [forSuffix?, Option.ite_none_right_eq_some, Option.some.injEq] at hid
    obtain ⟨_, rfl⟩ := hid
    exact ⟨rfl, rfl, hnumber⟩
  · rintro ⟨hmajor, hminor, hnumber⟩
    have hbound : suffix.toNat + offset.toNat < UInt32.size := hnumber ▸ id.number.toNat_lt_size
    have hsum : suffix + offset = id.number := by
      apply UInt32.toNat_inj.mp
      rw [UInt32.toNat_add, hnumber]
      exact Nat.mod_eq_of_lt hbound
    rw [forSuffix?, if_pos hbound, ofVersion, hsum, ← hmajor, ← hminor]

theorem suffix?_eq_some_iff :
    id.suffix? offset = some suffix ↔ id.number.toNat = suffix.toNat + offset.toNat := by
  rw [suffix?, Option.ite_none_right_eq_some, Option.some.injEq]
  constructor
  · rintro ⟨hle, rfl⟩
    rw [UInt32.toNat_sub_of_le _ _ hle]
    have hnat := UInt32.le_iff_toNat_le.mp hle
    omega
  · intro hnumber
    have hle : offset ≤ id.number := UInt32.le_iff_toNat_le.mpr (by omega)
    refine ⟨hle, UInt32.toNat_inj.mp ?_⟩
    rw [UInt32.toNat_sub_of_le _ _ hle]
    omega

theorem suffix?_eq_none_iff : id.suffix? offset = none ↔ id.number < offset := by
  rw [suffix?, ite_eq_right_iff]
  simp

end LogicalId

theorem DeviceNode.named?_eq_some_iff {directory : Path} {lead name : String}
    {node : DeviceNode} :
    named? directory lead name = some node ↔
      node.name = name ∧ node.path = directory.join name ∧
        name = lead ++ Decimal.text node.suffix := by
  constructor
  · intro hnamed
    obtain ⟨hname, hpath, _⟩ := named?_eq_some hnamed
    exact ⟨hname, hpath, hname.symm.trans (name_of_named? hnamed)⟩
  · rintro ⟨hname, hpath, htext⟩
    have hstrip : Text.strip? lead.toList name.toList = some (Decimal.digits node.suffix) := by
      rw [Text.strip?_eq_some_iff, htext, String.toList_append, Decimal.text, String.toList_ofList]
    obtain ⟨own, path, suffix⟩ := node
    dsimp only at hname hpath hstrip
    subst hname hpath
    simp [named?, hstrip]

namespace Settings

variable {settings : Settings} {name other : String} {node otherNode : DeviceNode}
  {id : LogicalId}

theorem isSome_logicalId?_iff :
    (settings.logicalId? node).isSome = true ↔
      node.suffix.toNat + settings.idOffset.toNat < UInt32.size := by
  rw [logicalId?, LogicalId.forSuffix?, Option.isSome_ite]

theorem node?_eq_some_iff :
    settings.node? name = some node ↔
      node.name = name ∧ node.path = settings.deviceDirectory.join name ∧
        name = settings.nodePrefix ++ Decimal.text node.suffix ∧
        node.suffix.toNat + settings.idOffset.toNat < UInt32.size := by
  rw [node?, Option.filter_eq_some_iff, DeviceNode.named?_eq_some_iff, isSome_logicalId?_iff,
    and_assoc, and_assoc]

/-- The node whose suffix is a given number. -/
def nodeOf (settings : Settings) (suffix : UInt32) : DeviceNode where
  name := settings.nodePrefix ++ Decimal.text suffix
  path := settings.deviceDirectory.join (settings.nodePrefix ++ Decimal.text suffix)
  suffix := suffix

theorem node?_nodeOf {suffix : UInt32}
    (hbound : suffix.toNat + settings.idOffset.toNat < UInt32.size) :
    settings.node? (settings.nodeOf suffix).name = some (settings.nodeOf suffix) :=
  node?_eq_some_iff.mpr ⟨rfl, rfl, rfl, hbound⟩

theorem exists_node_of_number {number : Nat}
    (hbound : number + settings.idOffset.toNat < UInt32.size) :
    ∃ node, settings.node? (settings.nodePrefix ++ toString number) = some node ∧
      node.suffix.toNat = number := by
  have hsmall : number < UInt32.size := by omega
  obtain ⟨suffix, rfl⟩ : ∃ suffix : UInt32, suffix.toNat = number :=
    ⟨UInt32.ofNatLT number hsmall, UInt32.toNat_ofNatLT⟩
  rw [← Decimal.text_eq_toString]
  exact ⟨settings.nodeOf suffix, node?_nodeOf hbound, rfl⟩

theorem exists_logicalId?_eq_some_iff :
    (∃ node, settings.node? name = some node ∧ settings.logicalId? node = some id) ↔
      id.major = settings.version.major ∧ id.minor = settings.version.minor ∧
        ∃ suffix : UInt32, id.number.toNat = suffix.toNat + settings.idOffset.toNat ∧
          name = settings.nodePrefix ++ Decimal.text suffix := by
  constructor
  · rintro ⟨node, hnode, hid⟩
    obtain ⟨hmajor, hminor, hnumber⟩ := LogicalId.forSuffix?_eq_some_iff.mp hid
    exact ⟨hmajor, hminor, node.suffix, hnumber, (node?_eq_some_iff.mp hnode).2.2.1⟩
  · rintro ⟨hmajor, hminor, suffix, hnumber, rfl⟩
    have hbound : suffix.toNat + settings.idOffset.toNat < UInt32.size :=
      hnumber ▸ id.number.toNat_lt_size
    exact ⟨settings.nodeOf suffix, node?_nodeOf hbound,
      LogicalId.forSuffix?_eq_some_iff.mpr ⟨hmajor, hminor, hnumber⟩⟩

theorem existsUnique_name (hmajor : id.major = settings.version.major)
    (hminor : id.minor = settings.version.minor) (hle : settings.idOffset ≤ id.number) :
    ∃! name, ∃ node, settings.node? name = some node ∧ settings.logicalId? node = some id := by
  have hsuffix : id.suffix? settings.idOffset = some (id.number - settings.idOffset) := if_pos hle
  have hnumber := LogicalId.suffix?_eq_some_iff.mp hsuffix
  refine ⟨_, exists_logicalId?_eq_some_iff.mpr ⟨hmajor, hminor, _, hnumber, rfl⟩, ?_⟩
  intro name hname
  obtain ⟨_, _, suffix, hown, rfl⟩ := exists_logicalId?_eq_some_iff.mp hname
  have heq : suffix = id.number - settings.idOffset := UInt32.toNat_inj.mp (by omega)
  rw [heq]

/-- Two nodes that share an id, or a place under any spelling, have one name. -/
theorem name_eq_of_shared (hnode : settings.node? name = some node)
    (hother : settings.node? other = some otherNode)
    (hshared : settings.logicalId? node = settings.logicalId? otherNode ∨
      node.path.SamePlace otherNode.path) : name = other := by
  obtain ⟨id, hid⟩ := exists_logicalId_of_node? hnode
  rcases hshared with hsame | hplace
  · exact name_eq_of_logicalId?_eq hnode hother hid (hsame ▸ hid)
  · have hsuffix := DeviceNode.suffix_eq_of_samePlace (named?_of_node? hnode)
      (named?_of_node? hother) hplace
    rw [(node?_eq_some_iff.mp hnode).2.2.1, (node?_eq_some_iff.mp hother).2.2.1, hsuffix]

/-- Whatever the offset, the prefix and the directory: the names of nodes are the prefix followed by
a number that fits with the offset, and such a name, its number, its id and its path lead to each
other without loss. An id has exactly one name from the offset on, and none and no path below it. -/
theorem names_and_ids_correspond (settings : Settings) :
    (∀ name, (∃ node, settings.node? name = some node) ↔
      ∃ number : Nat, number + settings.idOffset.toNat < UInt32.size ∧
        name = settings.nodePrefix ++ toString number) ∧
    (∀ number : Nat, number + settings.idOffset.toNat < UInt32.size →
      ∃ node id, settings.node? (settings.nodePrefix ++ toString number) = some node ∧
        node.suffix.toNat = number ∧
        node.path = settings.deviceDirectory.join (settings.nodePrefix ++ toString number) ∧
        settings.logicalId? node = some id ∧
        id.major = settings.version.major ∧ id.minor = settings.version.minor ∧
        id.number.toNat = number + settings.idOffset.toNat ∧
        id.suffix? settings.idOffset = some node.suffix ∧
        settings.nodePath? id = some node.path) ∧
    (∀ id : LogicalId, id.major = settings.version.major → id.minor = settings.version.minor →
      settings.idOffset ≤ id.number →
      ∃! name, ∃ node, settings.node? name = some node ∧ settings.logicalId? node = some id) ∧
    (∀ id : LogicalId, id.number < settings.idOffset → settings.nodePath? id = none ∧
      ∀ name node, settings.node? name = some node → settings.logicalId? node ≠ some id) ∧
    (∀ (id : LogicalId) (suffix : UInt32), id.suffix? settings.idOffset = some suffix ↔
      id.number.toNat = suffix.toNat + settings.idOffset.toNat) ∧
    ∀ name other node otherNode, settings.node? name = some node →
      settings.node? other = some otherNode →
      settings.logicalId? node = settings.logicalId? otherNode ∨
        node.path.SamePlace otherNode.path → name = other := by
  refine ⟨?names, ?nodes, ?ids, ?below, fun _ _ => LogicalId.suffix?_eq_some_iff,
    fun _ _ _ _ => name_eq_of_shared⟩
  case names =>
    intro name
    constructor
    · rintro ⟨node, hnode⟩
      obtain ⟨_, _, htext, hbound⟩ := node?_eq_some_iff.mp hnode
      exact ⟨node.suffix.toNat, hbound, htext⟩
    · rintro ⟨number, hbound, rfl⟩
      obtain ⟨node, hnode, _⟩ := exists_node_of_number hbound
      exact ⟨node, hnode⟩
  case nodes =>
    intro number hbound
    obtain ⟨node, hnode, hsuffix⟩ := exists_node_of_number hbound
    obtain ⟨id, hid⟩ := exists_logicalId_of_node? hnode
    obtain ⟨hmajor, hminor, hnumber⟩ := LogicalId.forSuffix?_eq_some_iff.mp hid
    exact ⟨node, id, hnode, hsuffix, path_of_node? hnode, hid, hmajor, hminor, hsuffix ▸ hnumber,
      LogicalId.suffix?_eq_some_iff.mpr hnumber, nodePath?_of_logicalId? hnode hid⟩
  case ids =>
    intro id hmajor hminor hle
    exact existsUnique_name hmajor hminor hle
  case below =>
    intro id hlt
    have hsuffix := LogicalId.suffix?_eq_none_iff.mpr hlt
    refine ⟨by rw [nodePath?, hsuffix, Option.map_none], ?_⟩
    intro name node _ hid
    exact Option.some_ne_none _ ((LogicalId.suffix?_of_forSuffix? hid).symm.trans hsuffix)

def edgeSettings : Settings :=
  { Settings.standard with idOffset := 4294967290, nodePrefix := "cam1" }

theorem edge_names_and_ids_correspond :
    (∃ node, edgeSettings.node? "cam15" = some node) ∧
    (∃! name, ∃ node, edgeSettings.node? name = some node ∧
      edgeSettings.logicalId? node = some ⟨3, 4, 4294967295⟩) ∧
    edgeSettings.nodePath? ⟨3, 4, 4294967289⟩ = none := by
  obtain ⟨hnames, _, hids, hbelow, _⟩ := names_and_ids_correspond edgeSettings
  exact ⟨(hnames "cam15").mpr ⟨5, by decide, rfl⟩, hids ⟨3, 4, 4294967295⟩ rfl rfl (by decide),
    (hbelow ⟨3, 4, 4294967289⟩ (by decide)).1⟩

end Settings

end CameraHotplug
