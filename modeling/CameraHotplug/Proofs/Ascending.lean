import CameraHotplug.Ascending
import Mathlib.Data.List.Sort

/-!
# Sets told by their members

An ascending list holds nothing twice, and its members are all there is to a set.
-/

namespace CameraHotplug.Ascending

variable {α : Type} [Ord α]

theorem nodup_toList [Std.ReflOrd α] (set : Ascending α) : set.toList.Nodup := by
  refine set.ascending.imp ?_
  rintro left _ hless rfl
  exact absurd (hless.symm.trans (Std.ReflOrd.compare_self (a := left))) (by decide)

variable [Std.TransOrd α] [Std.LawfulEqOrd α]

@[simp]
theorem mem_ofList {items : List α} {item : α} : item ∈ ofList items ↔ item ∈ items := by
  have hfold (set : Ascending α) : item ∈ items.foldl insert set ↔ item ∈ items ∨ item ∈ set := by
    induction items generalizing set with
    | nil => simp
    | cons first items ih =>
        rw [List.foldl_cons, ih, mem_insert, List.mem_cons]
        tauto
  rw [ofList, hfold]
  simp

/-- A set is told by its members. -/
theorem ext_mem {left right : Ascending α} (hmem : ∀ item, item ∈ left ↔ item ∈ right) :
    left = right := by
  have hirrefl : Std.Irrefl fun left right : α => compare left right = .lt :=
    ⟨fun item heq => by simp at heq⟩
  have hantisymm : Std.Antisymm fun left right : α => compare left right = .lt :=
    ⟨fun _ _ hlt hgt => by simp [Std.OrientedCmp.gt_of_lt hlt] at hgt⟩
  have hlist := left.ascending.eq_of_mem_iff right.ascending hmem
  cases left
  cases right
  cases hlist
  rfl

end CameraHotplug.Ascending
