import CameraHotplug.Json.Reader
import Mathlib.Data.List.Forall2
import Mathlib.Data.List.ReduceOption

/-!
# What counts as JSON

The grammar of JSON texts, apart from any reader: which texts are values, which spell a given text,
and how the items of a bracket are laid out, with blanks wherever they are allowed.
-/

namespace CameraHotplug.Json

/-! ### Blanks and ends -/

def blanks : List Char :=
  [' ', '\n', '\t', '\r']

/-- What stands between values and begins none. -/
def delimiters : List Char :=
  [',', ']', '\x7d']

def IsBlank (chars : List Char) : Prop :=
  ∀ char ∈ chars, char ∈ blanks

instance (chars : List Char) : Decidable (IsBlank chars) :=
  List.decidableBAll (· ∈ blanks) chars

/-- The text can follow a value. -/
def Ends (chars : List Char) : Prop :=
  ∀ char ∈ chars.head?, char ∈ blanks ++ delimiters

/-- The text can begin with a value. -/
def Begins (chars : List Char) : Prop :=
  ∃ char ∈ chars.head?, char ∉ blanks ++ delimiters

/-! ### Strings -/

def IsHexDigit (digit : Nat) (char : Char) : Prop :=
  digit < 16 ∧ (char = digit.digitChar ∨ char = digit.digitChar.toUpper)

/-- Four hexadecimal digits. -/
def IsUnit (unit : Nat) (chars : List Char) : Prop :=
  ∃ first second third fourth, chars = [first, second, third, fourth] ∧
    IsHexDigit (unit / 0x1000) first ∧ IsHexDigit (unit / 0x100 % 16) second ∧
    IsHexDigit (unit / 0x10 % 16) third ∧ IsHexDigit (unit % 16) fourth

/-- Letters that stand for a character after a backslash. -/
def letters : List (Char × Char) :=
  [('"', '"'), ('\\', '\\'), ('/', '/'), ('b', '\x08'), ('f', '\x0C'), ('n', '\n'), ('r', '\r'),
    ('t', '\t')]

/-- Characters that stand for themselves. -/
def IsPlain (char : Char) : Prop :=
  char ≠ '"' ∧ char ≠ '\\' ∧ 0x20 ≤ char.toNat

instance (char : Char) : Decidable (IsPlain char) :=
  inferInstanceAs (Decidable (_ ∧ _ ∧ _))

/-- The inside of a string that stands for a text. A character past 16 bits is written plainly or
as two surrogates. -/
inductive Spells : List Char → List Char → Prop where
  | nil : Spells [] []
  | plain {char : Char} {text chars : List Char} (hplain : IsPlain char)
      (hspells : Spells text chars) : Spells (char :: text) (char :: chars)
  | letter {letter meant : Char} {text chars : List Char} (hletter : (letter, meant) ∈ letters)
      (hspells : Spells text chars) : Spells (meant :: text) ('\\' :: letter :: chars)
  | unit {char : Char} {unit text chars : List Char} (hunit : IsUnit char.toNat unit)
      (hspells : Spells text chars) : Spells (char :: text) ('\\' :: 'u' :: (unit ++ chars))
  | pair {char : Char} {leading trailing text chars : List Char} (hlarge : 0x10000 ≤ char.toNat)
      (hleading : IsUnit (0xD800 + (char.toNat - 0x10000) / 0x400) leading)
      (htrailing : IsUnit (0xDC00 + (char.toNat - 0x10000) % 0x400) trailing)
      (hspells : Spells text chars) :
      Spells (char :: text)
        ('\\' :: 'u' :: (leading ++ '\\' :: 'u' :: (trailing ++ chars)))

/-- The inside of any string. Surrogates may be left alone, as the grammar has it. -/
inductive IsBody : List Char → Prop where
  | nil : IsBody []
  | plain {char : Char} {chars : List Char} (hplain : IsPlain char) (hbody : IsBody chars) :
      IsBody (char :: chars)
  | letter {letter meant : Char} {chars : List Char} (hletter : (letter, meant) ∈ letters)
      (hbody : IsBody chars) : IsBody ('\\' :: letter :: chars)
  | unit {number : Nat} {unit chars : List Char} (hunit : IsUnit number unit)
      (hbody : IsBody chars) : IsBody ('\\' :: 'u' :: (unit ++ chars))

def quoted (body : List Char) : List Char :=
  '"' :: (body ++ ['"'])

/-! ### Numbers -/

def IsDigits (chars : List Char) : Prop :=
  chars ≠ [] ∧ ∀ char ∈ chars, char.isDigit = true

instance (chars : List Char) : Decidable (IsDigits chars) :=
  @instDecidableAnd _ _ inferInstance (List.decidableBAll (·.isDigit = true) chars)

/-- Digits without a needless zero in front. -/
def IsWhole (chars : List Char) : Prop :=
  IsDigits chars ∧ (chars.head? = some '0' → chars = ['0'])

instance (chars : List Char) : Decidable (IsWhole chars) :=
  inferInstanceAs (Decidable (IsDigits chars ∧ _))

inductive IsFraction : List Char → Prop where
  | none : IsFraction []
  | some {digits : List Char} (hdigits : IsDigits digits) : IsFraction ('.' :: digits)

inductive IsExponent : List Char → Prop where
  | none : IsExponent []
  | some {letter : Char} {sign digits : List Char} (hletter : letter ∈ ['e', 'E'])
      (hsign : sign ∈ [[], ['+'], ['-']]) (hdigits : IsDigits digits) :
      IsExponent (letter :: (sign ++ digits))

/-- A number of any size. -/
inductive IsNumber : List Char → Prop where
  | mk {sign whole fraction exponent : List Char} (hsign : sign ∈ [[], ['-']])
      (hwhole : IsWhole whole) (hfraction : IsFraction fraction)
      (hexponent : IsExponent exponent) :
      IsNumber (sign ++ (whole ++ (fraction ++ exponent)))

/-! ### Brackets -/

/-- Parts with commas between them and blanks around them, up to the closing bracket. -/
inductive Joined (closing : Char) : List (List Char) → List Char → Prop where
  | last {before part after : List Char} (hbefore : IsBlank before) (hafter : IsBlank after) :
      Joined closing [part] (before ++ (part ++ (after ++ [closing])))
  | more {before part after chars : List Char} {parts : List (List Char)}
      (hbefore : IsBlank before) (hafter : IsBlank after) (hjoined : Joined closing parts chars) :
      Joined closing (part :: parts) (before ++ (part ++ (after ++ ',' :: chars)))

inductive Enclosed (opening closing : Char) : List (List Char) → List Char → Prop where
  | empty {blank : List Char} (hblank : IsBlank blank) :
      Enclosed opening closing [] (opening :: (blank ++ [closing]))
  | filled {parts : List (List Char)} {chars : List Char} (hjoined : Joined closing parts chars) :
      Enclosed opening closing parts (opening :: chars)

/-- A member of an object: the inside of its name, the blanks around the colon, and the value. -/
structure Member where
  body : List Char
  before : List Char
  after : List Char
  value : List Char

def Member.chars (member : Member) : List Char :=
  quoted member.body ++ (member.before ++ ':' :: (member.after ++ member.value))

/-- Values of any kind. -/
inductive IsValue : List Char → Prop where
  | word {chars : List Char} (hword : chars ∈ ["null".toList, "true".toList, "false".toList]) :
      IsValue chars
  | number {chars : List Char} (hnumber : IsNumber chars) : IsValue chars
  | string {body : List Char} (hbody : IsBody body) : IsValue (quoted body)
  | array {items : List (List Char)} {chars : List Char}
      (henclosed : Enclosed '[' ']' items chars) (hitems : ∀ item ∈ items, IsValue item) :
      IsValue chars
  | object {members : List Member} {chars : List Char}
      (henclosed : Enclosed '\x7b' '\x7d' (members.map Member.chars) chars)
      (hnames : ∀ member ∈ members,
        IsBody member.body ∧ IsBlank member.before ∧ IsBlank member.after)
      (hvalues : ∀ member ∈ members, IsValue member.value) : IsValue chars

/-! ### Numbers, truth values, texts, lists and records -/

def IsNumeral (value : Nat) (chars : List Char) : Prop :=
  chars = Nat.toDigits 10 value

def IsTruth (value : Bool) (chars : List Char) : Prop :=
  chars = (if value then "true" else "false").toList

def IsText (text : String) (chars : List Char) : Prop :=
  ∃ body, Spells text.toList body ∧ chars = quoted body

def IsList {α : Type} (means : α → List Char → Prop) (values : List α) (chars : List Char) : Prop :=
  ∃ items, Enclosed '[' ']' items chars ∧ List.Forall₂ means values items

section Records

variable {κ : Type} (name : κ → String) (writes : κ → List Char → Prop)

/-- A field of a record under its name, or anything under a name that is none of a field's. -/
inductive IsMember : Option κ → List Char → Prop where
  | known {field : κ} {member : Member} (hname : Spells (name field).toList member.body)
      (hbefore : IsBlank member.before) (hafter : IsBlank member.after)
      (hvalue : writes field member.value) : IsMember (some field) member.chars
  | unknown {other : List Char} {member : Member} (hother : ∀ field, (name field).toList ≠ other)
      (hname : Spells other member.body) (hbefore : IsBlank member.before)
      (hafter : IsBlank member.after) (hvalue : IsValue member.value) :
      IsMember none member.chars

/-- An object that holds some fields, each once, in any order, among members of other names. -/
def IsRecord (fields : List κ) (chars : List Char) : Prop :=
  fields.Nodup ∧ ∃ keys members, Enclosed '\x7b' '\x7d' members chars ∧
    List.Forall₂ (IsMember name writes) keys members ∧ keys.reduceOption = fields

/-- An object that holds these fields in this order and nothing else. -/
def IsObject (fields : List κ) (chars : List Char) : Prop :=
  fields.Nodup ∧ ∃ members, Enclosed '\x7b' '\x7d' members chars ∧
    List.Forall₂ (IsMember name writes) (fields.map some) members

variable {name writes}

theorem IsObject.isRecord {fields : List κ} {chars : List Char}
    (hobject : IsObject name writes fields chars) : IsRecord name writes fields chars := by
  obtain ⟨hnodup, members, henclosed, hmembers⟩ := hobject
  refine ⟨hnodup, fields.map some, members, henclosed, hmembers, ?_⟩
  rw [List.reduceOption, List.filterMap_map]
  exact List.filterMap_some

end Records

/-- A document of one value, with blanks around it. -/
def IsDocument (means : List Char → Prop) (document : String) : Prop :=
  ∃ before chars after, document.toList = before ++ (chars ++ after) ∧ IsBlank before ∧
    IsBlank after ∧ means chars

/-! ### Facts about strings and the layout -/

theorem isBlank_nil : IsBlank [] := by
  simp [IsBlank]

theorem isSpace_iff {char : Char} : isSpace char = true ↔ char ∈ blanks := by
  simp [isSpace, blanks, or_assoc]

theorem skipSpace_append {blank : List Char} (hblank : IsBlank blank) (chars : List Char) :
    skipSpace (blank ++ chars) = skipSpace chars := by
  rw [skipSpace, List.dropWhile_append_of_pos fun char hchar => isSpace_iff.mpr (hblank char hchar),
    skipSpace]

theorem skipSpace_of_begins {chars : List Char} (hbegins : Begins chars) (rest : List Char) :
    skipSpace (chars ++ rest) = chars ++ rest := by
  obtain ⟨head, hhead, hfirst⟩ := hbegins
  cases chars with
  | nil => simp at hhead
  | cons char chars =>
      obtain rfl : char = head := Option.some.inj hhead
      have hspace : ¬ isSpace char = true :=
        fun hspace => hfirst (List.mem_append_left _ (isSpace_iff.mp hspace))
      rw [List.cons_append, skipSpace, List.dropWhile_cons_of_neg hspace]

theorem ends_append {blank : List Char} (hblank : IsBlank blank) {char : Char}
    (hchar : char ∈ delimiters) (chars : List Char) : Ends (blank ++ char :: chars) := by
  intro head hhead
  cases blank with
  | nil =>
      obtain rfl : char = head := Option.some.inj hhead
      exact List.mem_append_right _ hchar
  | cons first blank =>
      obtain rfl : first = head := Option.some.inj hhead
      exact List.mem_append_left _ (hblank first List.mem_cons_self)

theorem Enclosed.exists_cons {opening closing : Char} {parts : List (List Char)}
    {chars : List Char} (henclosed : Enclosed opening closing parts chars) :
    ∃ rest, chars = opening :: rest := by
  cases henclosed <;> exact ⟨_, rfl⟩

theorem Member.chars_append (member : Member) (rest : List Char) :
    member.chars ++ rest = '"' :: (member.body ++
      '"' :: (member.before ++ ':' :: (member.after ++ (member.value ++ rest)))) := by
  simp [Member.chars, quoted]

theorem begins_cons {char : Char} (hchar : char ∉ blanks ++ delimiters) (chars : List Char) :
    Begins (char :: chars) :=
  ⟨char, rfl, hchar⟩

theorem Begins.append {chars : List Char} (hbegins : Begins chars) (rest : List Char) :
    Begins (chars ++ rest) := by
  obtain ⟨char, hchar, hfirst⟩ := hbegins
  obtain ⟨tail, rfl⟩ := List.head?_eq_some_iff.mp hchar
  exact begins_cons hfirst _

/-- Before its first part a bracket holds nothing but blanks. -/
theorem Joined.begins {closing : Char} {parts : List (List Char)} {chars : List Char}
    (hjoined : Joined closing parts chars) (hparts : ∀ part ∈ parts, Begins part)
    (rest : List Char) : Begins (skipSpace (chars ++ rest)) := by
  cases hjoined with
  | last hbefore _ =>
      have hpart := hparts _ List.mem_cons_self
      rw [List.append_assoc, List.append_assoc, skipSpace_append hbefore,
        skipSpace_of_begins hpart]
      exact hpart.append _
  | more hbefore _ _ =>
      have hpart := hparts _ List.mem_cons_self
      rw [List.append_assoc, List.append_assoc, skipSpace_append hbefore,
        skipSpace_of_begins hpart]
      exact hpart.append _

theorem Begins.head?_ne {chars : List Char} (hbegins : Begins chars) {char : Char}
    (hchar : char ∈ blanks ++ delimiters) : chars.head? ≠ some char := by
  obtain ⟨first, hfirst, hnot⟩ := hbegins
  rw [hfirst]
  exact fun heq => hnot (Option.some.inj heq ▸ hchar)

theorem Begins.ne_nil {chars : List Char} (hbegins : Begins chars) : chars ≠ [] := by
  obtain ⟨first, hfirst, _⟩ := hbegins
  rintro rfl
  simp at hfirst

theorem not_mem_of_isDigit {char : Char} (hdigit : char.isDigit = true) :
    char ∉ blanks ++ delimiters := by
  intro hmem
  simp only [blanks, delimiters, List.cons_append, List.nil_append, List.mem_cons,
    List.not_mem_nil, or_false] at hmem
  rcases hmem with rfl | rfl | rfl | rfl | rfl | rfl | rfl <;> revert hdigit <;> decide

theorem exists_cons_of_isNumber {chars : List Char} (hnumber : IsNumber chars) :
    ∃ first rest, chars = first :: rest ∧ (first = '-' ∨ first.isDigit = true) := by
  cases hnumber with
  | @mk sign whole _ _ hsign hwhole _ _ =>
      obtain ⟨⟨hsome, hdigits⟩, _⟩ := hwhole
      simp only [List.mem_cons, List.not_mem_nil, or_false] at hsign
      rcases hsign with rfl | rfl
      · cases whole with
        | nil => exact absurd rfl hsome
        | cons first _ => exact ⟨first, _, rfl, Or.inr (hdigits first List.mem_cons_self)⟩
      · exact ⟨'-', _, rfl, Or.inl rfl⟩

theorem begins_of_isValue {chars : List Char} (hvalue : IsValue chars) : Begins chars := by
  cases hvalue with
  | word hword =>
      simp only [List.mem_cons, List.not_mem_nil, or_false] at hword
      rcases hword with rfl | rfl | rfl <;> exact begins_cons (by decide) _
  | number hnumber =>
      obtain ⟨first, rest, rfl, rfl | hdigit⟩ := exists_cons_of_isNumber hnumber
      · exact begins_cons (by decide) rest
      · exact begins_cons (not_mem_of_isDigit hdigit) rest
  | string _ => exact begins_cons (by decide) _
  | array henclosed _ =>
      obtain ⟨rest, rfl⟩ := henclosed.exists_cons
      exact begins_cons (by decide) _
  | object henclosed _ _ =>
      obtain ⟨rest, rfl⟩ := henclosed.exists_cons
      exact begins_cons (by decide) _

end CameraHotplug.Json
