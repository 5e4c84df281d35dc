import CameraHotplug.Bench
import CameraHotplug.Proofs.Place

/-!
# The files of a bench

A bench keeps its nodes by the components of their paths, so the spelling of its directories does
not matter: a node is opened at the path of its entry, and the path of its name attribute leads back
to it.
-/

namespace CameraHotplug

/-- An entry name that is a single named component. -/
structure IsPlainName (name : String) : Prop where
  proper : IsEntryName name
  named : Path.componentOf? name.toList = some (.named name.toList)

instance (name : String) : Decidable (IsPlainName name) :=
  decidable_of_iff (IsEntryName name ∧ Path.componentOf? name.toList = some (.named name.toList))
    ⟨fun hplain => ⟨hplain.1, hplain.2⟩, fun hplain => ⟨hplain.proper, hplain.named⟩⟩

theorem isPlainName_append_decimal {lead : String} (hlead : '/' ∉ lead.toList) (number : UInt32) :
    IsPlainName (lead ++ Decimal.text number) := by
  have htext : (lead ++ Decimal.text number).toList = lead.toList ++ Decimal.digits number := by
    rw [String.toList_append, Decimal.text, String.toList_ofList]
  obtain ⟨char, hlast, hdigit⟩ := Path.getLast?_append_digits lead.toList number
  refine ⟨⟨?_, ?_⟩, ?_⟩
  · rw [htext]
    exact List.append_ne_nil_of_right_ne_nil _ (Decimal.digits_ne_nil number)
  · rw [htext, List.mem_append, not_or]
    exact ⟨hlead, Decimal.not_mem_digits (by decide) number⟩
  · rw [htext]
    refine Path.componentOf?_eq_named hlast ?_
    rintro rfl
    exact absurd hdigit (by decide)

theorem Path.under_named (directory : List Component) (name : List Char) :
    under directory [.named name] = directory ++ [.named name] := by
  unfold under
  split_ifs with hempty
  · rw [hempty, List.nil_append]
  · rfl

namespace Bench

variable {bench : Bench} {name : String}

theorem place_eq (hplain : IsPlainName name) :
    bench.place name = bench.directory.components ++ [.named name.toList] :=
  Path.components_join hplain.proper hplain.named

theorem attributeOwner?_nameAttribute {node : DeviceNode} (hplain : IsPlainName node.name) :
    bench.attributeOwner? (node.nameAttribute bench.sysfsRoot) = some (bench.place node.name) := by
  have hname : ∀ directory : Path, (directory.join "name").components =
      directory.components ++ [.named "name".toList] :=
    fun _ => Path.components_join (by decide) (by decide)
  have hpath : (node.nameAttribute bench.sysfsRoot).components =
      bench.sysfsRoot.components ++ [.named node.name.toList, .named "name".toList] := by
    rw [DeviceNode.nameAttribute, hname, Path.components_join hplain.proper hplain.named,
      List.append_assoc, List.singleton_append]
  have hroot : bench.sysfsRoot.components.isPrefixOf
      (node.nameAttribute bench.sysfsRoot).components = true := by
    rw [List.isPrefixOf_iff_prefix, hpath]
    exact List.prefix_append _ _
  rw [attributeOwner?, if_pos hroot, hpath, List.drop_left, place_eq hplain]
  exact congrArg some (Path.under_named _ _)

theorem attributeText_nameAttribute {node : DeviceNode} (hplain : IsPlainName node.name) :
    bench.attributeText (node.nameAttribute bench.sysfsRoot) =
      match (bench.nodeAt? (bench.place node.name)).bind BenchNode.attribute? with
      | some text => .ok text
      | none => .error .noSuchEntry := by
  rw [attributeText, attributeOwner?_nameAttribute hplain]
  rfl

theorem addEntry_eq (bench : Bench) (name : String) :
    bench.addEntry name =
      { bench with
        entries := if name ∈ bench.entries then bench.entries else bench.entries ++ [name] } := by
  unfold addEntry
  split_ifs <;> rfl

@[simp]
theorem place_addEntry (bench : Bench) (name other : String) :
    (bench.addEntry other).place name = bench.place name := by
  rw [addEntry_eq]
  rfl

@[simp]
theorem directory_addEntry (bench : Bench) (name : String) :
    (bench.addEntry name).directory = bench.directory := by
  rw [addEntry_eq]

@[simp]
theorem sysfsRoot_addEntry (bench : Bench) (name : String) :
    (bench.addEntry name).sysfsRoot = bench.sysfsRoot := by
  rw [addEntry_eq]

@[simp]
theorem directory_addNode (bench : Bench) (name : String) (content : BenchNode) :
    (bench.addNode name content).directory = bench.directory :=
  directory_addEntry bench name

@[simp]
theorem sysfsRoot_addNode (bench : Bench) (name : String) (content : BenchNode) :
    (bench.addNode name content).sysfsRoot = bench.sysfsRoot :=
  sysfsRoot_addEntry bench name

theorem nodeAt?_addNode (bench : Bench) (name : String) (content : BenchNode) :
    (bench.addNode name content).nodeAt? (bench.place name) = some content := by
  rw [nodeAt?, addNode, place_addEntry]
  exact List.lookup_cons_self

/-- The bench after one more opening. -/
def opened (bench : Bench) (path : Path) : Bench :=
  { bench with opens := path.components :: bench.opens }

theorem openNode_eq {path : Path} {content : BenchNode}
    (hnode : bench.nodeAt? path.components = some content) (hopens : content.refusesOpen = false) :
    bench.openNode path = (.ok content, bench.opened path) := by
  simp only [openNode, hnode, hopens, Bool.false_eq_true, if_false, opened]

end Bench

end CameraHotplug
