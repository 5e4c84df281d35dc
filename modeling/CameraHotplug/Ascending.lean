/-!
Finite sets kept as strictly ascending lists, so that two sets with the same members are equal.
-/

namespace CameraHotplug

/-- A finite set, listed in strictly ascending order. -/
structure Ascending (α : Type) [Ord α] where
  toList : List α
  ascending : toList.Pairwise fun left right => compare left right = .lt

namespace Ascending

variable {α : Type} [Ord α]

def insertInto (item : α) : List α → List α
  | [] => [item]
  | head :: rest =>
    match compare item head with
    | .lt => item :: head :: rest
    | .eq => head :: rest
    | .gt => head :: insertInto item rest

theorem mem_or_eq_of_mem_insertInto {item other : α} {items : List α}
    (member : other ∈ insertInto item items) : other = item ∨ other ∈ items := by
  induction items with
  | nil => simpa [insertInto] using member
  | cons head rest ih =>
    simp only [insertInto] at member
    split at member
    · simpa using member
    · exact Or.inr member
    · rcases List.mem_cons.1 member with rfl | member
      · simp
      · rcases ih member with rfl | member <;> simp_all

theorem pairwise_insertInto [Std.TransOrd α] (item : α) {items : List α}
    (ascending : items.Pairwise fun left right => compare left right = .lt) :
    (insertInto item items).Pairwise fun left right => compare left right = .lt := by
  induction items with
  | nil => simp [insertInto]
  | cons head rest ih =>
    have below := (List.pairwise_cons.1 ascending).1
    simp only [insertInto]
    split
    · rename_i smaller
      refine List.pairwise_cons.2 ⟨fun other member => ?_, ascending⟩
      rcases List.mem_cons.1 member with rfl | member
      · exact smaller
      · exact Std.TransCmp.lt_trans smaller (below other member)
    · exact ascending
    · rename_i greater
      refine List.pairwise_cons.2 ⟨fun other member => ?_, ih (List.pairwise_cons.1 ascending).2⟩
      rcases mem_or_eq_of_mem_insertInto member with rfl | member
      · exact Std.OrientedCmp.gt_iff_lt.1 greater
      · exact below other member

def empty : Ascending α :=
  ⟨[], List.Pairwise.nil⟩

instance : Inhabited (Ascending α) :=
  ⟨empty⟩

def insert [Std.TransOrd α] (set : Ascending α) (item : α) : Ascending α :=
  ⟨insertInto item set.toList, pairwise_insertInto item set.ascending⟩

def erase [DecidableEq α] (set : Ascending α) (item : α) : Ascending α :=
  ⟨set.toList.filter (· ≠ item), set.ascending.filter _⟩

/-- The members of a list, which may repeat and come in any order. -/
def ofList [Std.TransOrd α] (items : List α) : Ascending α :=
  items.foldl insert empty

def contains [DecidableEq α] (set : Ascending α) (item : α) : Bool :=
  decide (item ∈ set.toList)

def size (set : Ascending α) : Nat :=
  set.toList.length

instance : Membership α (Ascending α) :=
  ⟨fun set item => item ∈ set.toList⟩

instance [DecidableEq α] : DecidableEq (Ascending α) := fun left right =>
  decidable_of_iff (left.toList = right.toList)
    ⟨fun same => by cases left; cases right; cases same; rfl, fun same => by rw [same]⟩

theorem mem_def {set : Ascending α} {item : α} : item ∈ set ↔ item ∈ set.toList :=
  Iff.rfl

@[simp]
theorem contains_eq_true [DecidableEq α] {set : Ascending α} {item : α} :
    set.contains item = true ↔ item ∈ set := by
  simp [contains, mem_def]

theorem mem_insertInto [Std.LawfulEqOrd α] {item other : α} {items : List α} :
    other ∈ insertInto item items ↔ other = item ∨ other ∈ items := by
  refine ⟨mem_or_eq_of_mem_insertInto, ?_⟩
  induction items with
  | nil => simp [insertInto]
  | cons head rest ih =>
    simp only [insertInto]
    split
    · simp
    · rename_i same
      rw [Std.LawfulEqOrd.eq_of_compare same]
      simp
    · simp only [List.mem_cons]
      rintro (rfl | rfl | member)
      · exact Or.inr (ih (Or.inl rfl))
      · exact Or.inl rfl
      · exact Or.inr (ih (Or.inr member))

@[simp]
theorem mem_insert [Std.TransOrd α] [Std.LawfulEqOrd α] {set : Ascending α} {item other : α} :
    other ∈ set.insert item ↔ other = item ∨ other ∈ set :=
  mem_insertInto

@[simp]
theorem mem_erase [DecidableEq α] {set : Ascending α} {item other : α} :
    other ∈ set.erase item ↔ other ≠ item ∧ other ∈ set := by
  simp [mem_def, erase, and_comm]

@[simp]
theorem not_mem_empty (item : α) : ¬ item ∈ (empty : Ascending α) := by
  simp [mem_def, empty]

end Ascending

end CameraHotplug
