import CameraHotplug.Proofs.JsonReading

/-!
# What is written is JSON

On one line or indented, a value is laid out as the grammar has it, with blanks where they are
allowed. Whatever the grammar asks of the parts of a list or an object then holds of how they are
written.
-/

namespace CameraHotplug.Json

variable {α κ : Type} {write inner : Json → List Char} {gap : List Char}

/-- A member as it is written, its name and its value, with a gap after the colon. -/
def written (inner : Json → List Char) (gap : List Char) (member : String × Json) : Member where
  body := member.1.toList.flatMap escape
  before := []
  after := gap
  value := inner member.2

/-- A way to write values. What stands in brackets is written in a way of its own. -/
structure Layout (write inner : Json → List Char) (gap : List Char) : Prop where
  isBlank_gap : IsBlank gap
  isTruth : ∀ value, IsTruth value (write (.bool value))
  isNumeral : ∀ value, IsNumeral value (write (.number value))
  quoted : ∀ text, write (.string text) = quoted (text.toList.flatMap escape)
  array : ∀ items, Enclosed '[' ']' (items.map inner) (write (.array items))
  object : ∀ members, Enclosed '\x7b' '\x7d'
    (members.map fun member => (written inner gap member).chars) (write (.object members))

/-! ### On one line and indented -/

section Brackets

variable {opening closing : Char} {before after : List Char} {part : α → List Char}
  (rest : List α → List Char) (hbefore : IsBlank before) (hafter : IsBlank after)
  (hlast : rest [] = after ++ [closing])
  (hmore : ∀ item items, rest (item :: items) = ',' :: (before ++ (part item ++ rest items)))

include hbefore hafter hlast hmore

theorem joined_of_rest (item : α) (items : List α) :
    Joined closing ((item :: items).map part) (before ++ (part item ++ rest items)) := by
  induction items generalizing item with
  | nil =>
      rw [hlast]
      exact .last hbefore hafter
  | cons next items ih =>
      rw [hmore]
      exact .more hbefore isBlank_nil (ih next)

/-- Before each part, and after the last, stand the same blanks. -/
theorem enclosed_of_rest (whole : List α → List Char) (hempty : whole [] = [opening, closing])
    (hfilled : ∀ item items, whole (item :: items) =
      opening :: (before ++ (part item ++ rest items))) (items : List α) :
    Enclosed opening closing (items.map part) (whole items) := by
  cases items with
  | nil =>
      rw [hempty]
      exact .empty isBlank_nil
  | cons item items =>
      rw [hfilled]
      exact .filled (joined_of_rest rest hbefore hafter hlast hmore item items)

end Brackets

theorem layout_compact : Layout compact compact [] where
  isBlank_gap := isBlank_nil
  isTruth value := by cases value <;> rfl
  isNumeral value := by rw [IsNumeral, compact]
  quoted text := by rw [compact, quote, quoted]
  array items := by
    refine enclosed_of_rest compactItems isBlank_nil isBlank_nil ?_ ?_
      (fun items => compact (.array items)) ?_ ?_ items
    · rfl
    · exact fun _ _ => rfl
    · rfl
    · exact fun _ _ => rfl
  object members := by
    refine enclosed_of_rest compactMembers isBlank_nil isBlank_nil ?_ ?_
      (fun members => compact (.object members)) ?_ ?_ members
    · rfl
    · simp [compactMembers, written, Member.chars, quoted, quote]
    · rfl
    · simp [compact, written, Member.chars, quoted, quote]

theorem isBlank_newLine (depth : Nat) : IsBlank (newLine depth) := by
  intro char hchar
  rcases List.mem_cons.mp hchar with rfl | hblank
  · decide
  · rw [List.eq_of_mem_replicate hblank]
    decide

theorem layout_indented (depth : Nat) : Layout (indented depth) (indented (depth + 1)) [' '] where
  isBlank_gap := by decide
  isTruth value := by cases value <;> rfl
  isNumeral value := by rw [IsNumeral, indented]
  quoted text := by rw [indented, quote, quoted]
  array items := by
    refine enclosed_of_rest (indentedItems depth) (isBlank_newLine (depth + 1))
      (isBlank_newLine depth) ?_ ?_ (fun items => indented depth (.array items)) ?_ ?_ items
    · rfl
    · simp [indentedItems]
    · rfl
    · simp [indented]
  object members := by
    refine enclosed_of_rest (indentedMembers depth) (isBlank_newLine (depth + 1))
      (isBlank_newLine depth) ?_ ?_ (fun members => indented depth (.object members)) ?_ ?_ members
    · rfl
    · simp [indentedMembers, written, Member.chars, quoted, quote]
    · rfl
    · simp [indented, written, Member.chars, quoted, quote]

/-! ### Texts, lists and objects -/

section Layouts

variable (hlayout : Layout write inner gap)

include hlayout

theorem Layout.isText (text : String) : IsText text (write (.string text)) :=
  ⟨_, spells_escape text.toList, hlayout.quoted text⟩

theorem Layout.isList {means : α → List Char → Prop} {toJson : α → Json}
    (hmeans : ∀ value, means value (inner (toJson value))) (values : List α) :
    IsList means values (write (.array (values.map toJson))) := by
  refine ⟨_, hlayout.array _, ?_⟩
  rw [List.map_map, List.forall₂_map_right_iff, List.forall₂_same]
  exact fun value _ => hmeans value

/-- An object written with some fields, in their order. -/
theorem Layout.isObject {name : κ → String} {writes : κ → List Char → Prop} {toJson : κ → Json}
    {fields : List κ} (hwrites : ∀ field ∈ fields, writes field (inner (toJson field)))
    (hnodup : fields.Nodup) :
    IsObject name writes fields
      (write (.object (fields.map fun field => (name field, toJson field)))) := by
  refine ⟨hnodup, _, hlayout.object _, ?_⟩
  rw [List.map_map, List.forall₂_map_left_iff, List.forall₂_map_right_iff, List.forall₂_same]
  intro field hfield
  exact .known (spells_escape (name field).toList) isBlank_nil hlayout.isBlank_gap
    (hwrites field hfield)

end Layouts

theorem isDocument_line {means : List Char → Prop} {value : Json} (hmeans : means value.compact) :
    IsDocument means value.line := by
  refine ⟨[], value.compact, [], ?_, isBlank_nil, isBlank_nil, hmeans⟩
  rw [line, String.toList_ofList, List.nil_append, List.append_nil]

end CameraHotplug.Json
