import CameraHotplug.LogicalId.Document
import CameraHotplug.Proofs.JsonWriting
import CameraHotplug.Proofs.NodeName

/-!
# An id and its text

The text of an id is cut at the first separator and the first dot, and neither stands in a decimal.
So an id is read back from its text, and no other text is read as an id. The same is true in JSON,
where an id is the string that holds its text, however that string is escaped.
-/

namespace CameraHotplug

theorem Text.cut?_eq_some_iff {mark : Char} {text before after : List Char} :
    Text.cut? mark text = some (before, after) ↔
      text = before ++ mark :: after ∧ mark ∉ before := by
  induction text generalizing before after with
  | nil => simp [Text.cut?]
  | cons char text ih =>
      by_cases hmark : char = mark
      · subst hmark
        cases before with
        | nil => simp [Text.cut?]
        | cons first before => simp +contextual [Text.cut?]
      · cases before with
        | nil => simp [Text.cut?, hmark]
        | cons first before =>
            simp only [Text.cut?, if_neg hmark, Option.map_eq_some_iff, Prod.exists, ih,
              Prod.mk.injEq, List.cons.injEq, List.cons_append, List.mem_cons, not_or]
            constructor
            · rintro ⟨_, _, ⟨htext, hrest⟩, ⟨rfl, rfl⟩, rfl⟩
              exact ⟨⟨rfl, htext⟩, Ne.symm hmark, hrest⟩
            · rintro ⟨⟨rfl, htext⟩, _, hrest⟩
              exact ⟨before, after, ⟨htext, hrest⟩, ⟨rfl, rfl⟩, rfl⟩

namespace LogicalId

/-- The version of an id, as it stands between the beginning and the first separator. -/
def versionChars (id : LogicalId) : List Char :=
  Decimal.digits id.major ++ '.' :: Decimal.digits id.minor

theorem chars_eq (id : LogicalId) :
    id.chars = "device@".toList ++
      (id.versionChars ++ '/' :: ("external/".toList ++ Decimal.digits id.number)) := by
  have hplace : "/external/".toList = '/' :: "external/".toList := by decide
  unfold chars versionChars
  rw [hplace]
  generalize "device@".toList = lead, "external/".toList = place
  simp only [List.append_assoc, List.cons_append]

theorem separator_not_mem_versionChars (id : LogicalId) : '/' ∉ id.versionChars := by
  have hmajor := Decimal.not_mem_digits (by decide : '/'.isDigit = false) id.major
  have hminor := Decimal.not_mem_digits (by decide : '/'.isDigit = false) id.minor
  simp [versionChars, hmajor, hminor]

theorem readChars?_eq_some_iff {name : List Char} {id : LogicalId} :
    readChars? name = some id ↔ name = id.chars := by
  simp only [readChars?, Option.bind_eq_bind, Option.bind_eq_some_iff, Option.pure_def,
    Option.some.injEq]
  constructor
  · rintro ⟨rest, hlead, ⟨version, place⟩, hversion, ⟨major, minor⟩, hdot, number, hplace,
      majorRead, hmajor, minorRead, hminor, numberRead, hnumber, rfl⟩
    rw [Text.strip?_eq_some_iff] at hlead hplace
    rw [Text.cut?_eq_some_iff] at hversion hdot
    rw [Decimal.read?_eq_some_iff] at hmajor hminor hnumber
    dsimp only at hdot hplace hmajor hminor
    rw [chars_eq, versionChars, ← hmajor, ← hminor, ← hnumber, ← hdot.1, ← hplace, ← hversion.1]
    exact hlead
  · rintro rfl
    have hdot : '.' ∉ Decimal.digits id.major := Decimal.not_mem_digits (by decide) id.major
    exact ⟨_, Text.strip?_eq_some_iff.mpr (chars_eq id),
      (id.versionChars, _), Text.cut?_eq_some_iff.mpr ⟨rfl, separator_not_mem_versionChars id⟩,
      (Decimal.digits id.major, Decimal.digits id.minor), Text.cut?_eq_some_iff.mpr ⟨rfl, hdot⟩,
      Decimal.digits id.number, Text.strip?_eq_some_iff.mpr rfl,
      id.major, Decimal.read?_digits _, id.minor, Decimal.read?_digits _,
      id.number, Decimal.read?_digits _, rfl⟩

theorem read?_eq_some_iff {name : String} {id : LogicalId} :
    read? name = some id ↔ name = id.text := by
  rw [read?, readChars?_eq_some_iff, text]
  constructor
  · intro hchars
    rw [← hchars, String.ofList_toList]
  · intro htext
    rw [htext, String.toList_ofList]

theorem read?_eq_none_iff {name : String} :
    read? name = none ↔ ∀ id : LogicalId, name ≠ id.text := by
  simp only [Option.eq_none_iff_forall_ne_some, ne_eq, read?_eq_some_iff]

example : read? "device@3.4/external/07" = none := by decide

@[simp]
theorem read?_text (id : LogicalId) : read? id.text = some id :=
  read?_eq_some_iff.mpr rfl

theorem text_injective : Function.Injective text :=
  fun left _ htext => Option.some.inj
    ((read?_text left).symm.trans (read?_eq_some_iff.mpr htext))

theorem parse_eq_ok_iff {name : String} {id : LogicalId} :
    parse name = .ok id ↔ name = id.text := by
  rw [parse, ← read?_eq_some_iff]
  cases read? name <;> simp

theorem parse_eq_error {name : String} (hname : ∀ id : LogicalId, name ≠ id.text) :
    parse name = .error (.invalidDeviceName name) := by
  rw [parse, read?_eq_none_iff.mpr hname]

/-! ### In JSON -/

theorem readDocument_eq_ok_iff {document : String} {id : LogicalId} :
    readDocument document = .ok id ↔
      Json.readDocument Json.readString document = .ok id.text := by
  unfold readDocument Json.readDocument readJson
  cases hread : Json.readString document.toList with
  | error fault => simp [Except.bind, Except.mapError]
  | ok value =>
      obtain ⟨name, rest⟩ := value
      cases hname : read? name with
      | none =>
          have hother := read?_eq_none_iff.mp hname id
          simp only [Except.bind, hname, Except.mapError, reduceCtorEq, false_iff]
          split_ifs <;> simp [hother]
      | some own =>
          rw [read?_eq_some_iff] at hname
          subst hname
          simp only [Except.bind, read?_text]
          split_ifs
          · simp [Except.mapError, text_injective.eq_iff]
          · simp [Except.mapError]

/-- A name is the text of an id, and then it is read as that id and no other, or it is refused by
name. Ids go through JSON unchanged, and a document is read as an id if and only if it is a string
that spells the text of the id, in any of the ways that strings can be written. -/
theorem text_and_reading_inverse :
    (∀ name id, parse name = .ok id ↔ name = id.text) ∧
    (∀ name, parse name = .error (.invalidDeviceName name) ↔ ∀ id : LogicalId, name ≠ id.text) ∧
    (∀ id : LogicalId, readDocument id.toJson.line = .ok id) ∧
    (∀ document id, readDocument document = .ok id ↔
      Json.IsDocument (Json.IsText id.text) document) ∧
    (∀ document content, Json.readDocument Json.readString document = .ok content ↔
      Json.IsDocument (Json.IsText content) document) ∧
    (∀ content : String, Json.IsDocument (Json.IsText content) (Json.string content).line) := by
  have hdocument : ∀ document id, readDocument document = .ok id ↔
      Json.IsDocument (Json.IsText id.text) document := by
    intro document id
    rw [readDocument_eq_ok_iff, Json.readDocument_string_eq_ok_iff]
  have hwritten : ∀ content : String,
      Json.IsDocument (Json.IsText content) (Json.string content).line :=
    fun content => Json.isDocument_line (Json.layout_compact.isText content)
  refine ⟨fun name id => parse_eq_ok_iff, ?_, ?_, hdocument,
    fun document content => Json.readDocument_string_eq_ok_iff, hwritten⟩
  · intro name
    constructor
    · intro hrefused id hname
      rw [parse_eq_ok_iff.mpr hname] at hrefused
      exact absurd hrefused (by simp)
    · exact parse_eq_error
  · intro id
    exact (hdocument _ _).mpr (hwritten id.text)

end LogicalId

end CameraHotplug
