import CameraHotplug.Proofs.Decimal
import CameraHotplug.Proofs.JsonSkipping
import Mathlib.Data.List.Nodup

/-!
# Values that are asked for

Numbers, texts, lists and records are read from every way to write them. A record is read from an
object whatever the order of its members, and members that it does not know change nothing.
-/

namespace CameraHotplug.Json

variable {α β ρ κ : Type}

/-- Wherever a value may stand, the text is read as this one. -/
def Reads (read : Reader α) (value : α) (chars : List Char) : Prop :=
  Begins chars ∧ ∀ blank rest, IsBlank blank → Ends rest →
    read (blank ++ (chars ++ rest)) = .ok (value, rest)

theorem Reads.map {read : Reader α} {value : α} {chars : List Char}
    (hreads : Reads read value chars) (convert : α → β) :
    Reads (fun chars => (read chars).map fun (value, rest) => (convert value, rest))
      (convert value) chars := by
  refine ⟨hreads.1, ?_⟩
  intro blank rest hblank hends
  dsimp only
  rw [hreads.2 blank rest hblank hends]
  rfl

theorem reads_of_isText {text : String} {chars : List Char} (htext : IsText text chars) :
    Reads readString text chars := by
  obtain ⟨body, hspells, rfl⟩ := htext
  refine ⟨begins_cons (by decide) _, ?_⟩
  intro blank rest hblank _
  rw [readString_of_spells hspells hblank, String.ofList_toList]

/-! ### Numbers -/

theorem le_foldl_value (numerals : List Char) (total : Nat) :
    total ≤ numerals.foldl
      (fun total numeral => 10 * total + (numeral.toNat - '0'.toNat)) total := by
  induction numerals generalizing total with
  | nil => exact Nat.le_refl total
  | cons numeral numerals ih =>
      exact Nat.le_trans (by dsimp only; omega) (ih _)

/-- Digits of a number below 2^64 are all taken. -/
theorem gather_eq {numerals : List Char} {significand : Nat}
    (hlt : numerals.foldl (fun total numeral => 10 * total + (numeral.toNat - '0'.toNat))
      significand < UInt64.size) :
    gather significand numerals = (numerals.foldl
      (fun total numeral => 10 * total + (numeral.toNat - '0'.toNat)) significand, 0) := by
  induction numerals generalizing significand with
  | nil => rfl
  | cons numeral numerals ih =>
      rw [List.foldl_cons] at hlt ⊢
      rw [gather, if_pos (Nat.lt_of_le_of_lt (le_foldl_value numerals _) hlt), ih hlt]

/-- Rounding at most doubles. -/
theorem roundTo53_le (value : Nat) : roundTo53 value ≤ 2 * value := by
  unfold roundTo53
  dsimp only
  by_cases hshort : value.log2 + 1 ≤ 53
  · rw [if_pos hshort]
    omega
  · have hpow : 2 ^ (value.log2 + 1 - 53) ≤ value := by
      have hne : value ≠ 0 := fun heq => hshort (by rw [heq]; decide)
      exact Nat.le_trans (Nat.pow_le_pow_right (by decide) (by omega)) (Nat.log2_self_le hne)
    have hkept := Nat.div_mul_le_self value (2 ^ (value.log2 + 1 - 53))
    rw [if_neg hshort, Nat.shiftLeft_eq, Nat.shiftLeft_eq, Nat.shiftRight_eq_div_pow, Nat.add_mul]
    split <;> omega

theorem exceedsBinary64_of_lt {value : Nat} (hlt : value < UInt64.size) :
    (Magnitude.mk value 0).exceedsBinary64 = false := by
  have hlimit : 2 * UInt64.size ≤ Nat.pow 2 1024 - Nat.pow 2 970 := by decide +kernel
  have hone : roundTo53 (Nat.pow 10 0) = 1 := by decide
  have hrounded := roundTo53_le value
  unfold Magnitude.exceedsBinary64
  split
  next => rfl
  next power heq =>
    obtain rfl : 0 = power := Int.ofNat.inj heq
    rw [hone, Nat.mul_one, if_neg (by decide : ¬ 308 < 0)]
    split_ifs
    · rfl
    · rw [decide_eq_false_iff_not]
      dsimp only
      omega

theorem isWhole_toDigits (value : Nat) : IsWhole (Nat.toDigits 10 value) := by
  refine ⟨⟨Nat.toDigits_ne_nil, fun numeral => Nat.isDigit_of_mem_toDigits (by decide) (by decide)⟩,
    ?_⟩
  intro hzero
  rcases Nat.eq_zero_or_pos value with rfl | hpos
  · exact Nat.toDigits_zero 10
  · exact absurd hzero (Decimal.head?_toDigits_ne_zero hpos)

theorem readFraction_of_ends {magnitude : Magnitude} (hsmall : magnitude.exceedsBinary64 = false)
    {rest : List Char} (hends : Ends rest) : readFraction magnitude rest = .ok (true, rest) := by
  cases rest with
  | nil => simp [readFraction, hsmall]
  | cons char rest =>
      obtain ⟨_, hpoint, hlower, hupper⟩ := ne_of_ends hends rfl
      simp [readFraction, hsmall, hpoint, hlower, hupper]

/-- A number is written in digits alone. -/
theorem readNumber_toDigits {value : Nat} (hlt : value < UInt64.size) {rest : List Char}
    (hends : Ends rest) :
    readNumber (Nat.toDigits 10 value ++ rest) = .ok (some value, rest) := by
  obtain ⟨⟨hsome, hdigits⟩, hzero⟩ := isWhole_toDigits value
  have hspan := span_isDigit hdigits fun char hchar => (ne_of_ends hends hchar).1
  have hgather : gather 0 (Nat.toDigits 10 value) = (value, 0) := by
    have hvalue := Decimal.value_toDigits value
    rw [Decimal.value] at hvalue
    rw [gather_eq (hvalue.symm ▸ hlt), hvalue]
  have hfraction := readFraction_of_ends (exceedsBinary64_of_lt hlt) hends
  have hunsigned : readUnsigned (Nat.toDigits 10 value ++ rest) = .ok (some value, rest) := by
    rw [readUnsigned, hspan]
    split
    next heq => exact absurd (congrArg Prod.fst heq) hsome
    next heq => exact absurd (congrArg Prod.fst heq) hsome
    next heq =>
      have hlong : Nat.toDigits 10 value = '0' :: _ :: _ := congrArg Prod.fst heq
      rw [hlong] at hzero
      simp at hzero
    next heq =>
      obtain ⟨hnumerals, rfl⟩ := Prod.mk.inj heq
      rw [← hnumerals, hgather]
      dsimp only
      rw [Nat.cast_zero, hfraction]
      rfl
  cases hnumerals : Nat.toDigits 10 value with
  | nil => exact absurd hnumerals hsome
  | cons first numerals =>
      rw [hnumerals] at hdigits hunsigned
      have hfirst := hdigits first List.mem_cons_self
      have hminus : first ≠ '-' := fun heq => absurd (heq ▸ hfirst) (by decide)
      rw [List.cons_append] at hunsigned ⊢
      simpa [readNumber, hminus] using hunsigned

theorem reads_natural {limit value : Nat} (hlt : value < limit) (hlimit : limit ≤ UInt64.size) :
    Reads (readNatural limit) value (Nat.toDigits 10 value) := by
  have hnumber (rest : List Char) (hends : Ends rest) :=
    readNumber_toDigits (Nat.lt_of_lt_of_le hlt hlimit) hends
  obtain ⟨⟨hsome, hdigits⟩, _⟩ := isWhole_toDigits value
  generalize Nat.toDigits 10 value = numerals at hnumber hsome hdigits ⊢
  cases numerals with
  | nil => exact absurd rfl hsome
  | cons first numerals =>
      have hfirst := hdigits first List.mem_cons_self
      have hbegins := begins_cons (not_mem_of_isDigit hfirst) numerals
      refine ⟨hbegins, ?_⟩
      intro blank rest hblank hends
      have hread := hnumber rest hends
      rw [readNatural, skipSpace_append hblank, skipSpace_of_begins hbegins]
      rw [List.cons_append] at hread ⊢
      dsimp only
      rw [if_pos (by simp [hfirst]), hread]
      simp [Except.bind, hlt]

theorem reads_uint32 {value : UInt32} {chars : List Char} (hnumeral : IsNumeral value.toNat chars) :
    Reads readUInt32 value chars := by
  have hreads := (reads_natural value.toNat_lt_size (by decide)).map UInt32.ofNat
  rwa [UInt32.ofNat_toNat, ← hnumeral] at hreads

theorem reads_uint64 {value : UInt64} {chars : List Char} (hnumeral : IsNumeral value.toNat chars) :
    Reads readUInt64 value chars := by
  have hreads := (reads_natural value.toNat_lt_size (Nat.le_refl _)).map UInt64.ofNat
  rwa [UInt64.ofNat_toNat, ← hnumeral] at hreads

/-! ### Lists -/

/-- Every part takes a character at least, not counting blanks in front. -/
theorem Joined.length_le {closing : Char} {parts : List (List Char)} {chars : List Char}
    (hjoined : Joined closing parts chars) : parts.length ≤ chars.length := by
  induction hjoined with
  | last _ _ => simp; omega
  | more _ _ _ ih => simp; omega

theorem Joined.length_le_skipSpace {closing : Char} {parts : List (List Char)} {chars : List Char}
    (hjoined : Joined closing parts chars) (hparts : ∀ part ∈ parts, Begins part)
    (rest : List Char) : parts.length ≤ (skipSpace (chars ++ rest)).length := by
  cases hjoined with
  | last hbefore _ =>
      rw [List.append_assoc, List.append_assoc, skipSpace_append hbefore,
        skipSpace_of_begins (hparts _ List.mem_cons_self)]
      simp
      omega
  | more hbefore _ hjoined =>
      have hrest := hjoined.length_le
      rw [List.append_assoc, List.append_assoc, skipSpace_append hbefore,
        skipSpace_of_begins (hparts _ List.mem_cons_self)]
      simp
      omega

theorem begins_of_forall₂ {means : α → List Char → Prop}
    (hmeans : ∀ value part, means value part → Begins part) {values : List α}
    {parts : List (List Char)} (hall : List.Forall₂ means values parts) :
    ∀ part ∈ parts, Begins part := by
  induction hall with
  | nil => simp
  | cons hfirst _ ih => exact List.forall_mem_cons.mpr ⟨hmeans _ _ hfirst, ih⟩

theorem begins_of_reads {read : Reader α} {values : List α} {parts : List (List Char)}
    (hreads : List.Forall₂ (Reads read) values parts) : ∀ part ∈ parts, Begins part :=
  begins_of_forall₂ (fun _ _ hread => hread.1) hreads

theorem readItems_of_joined {read : Reader α} {values : List α} {parts : List (List Char)}
    {chars : List Char} (hjoined : Joined ']' parts chars)
    (hreads : List.Forall₂ (Reads read) values parts) {steps : Nat}
    (hsteps : parts.length ≤ steps) (rest : List Char) :
    readItems read steps (skipSpace (chars ++ rest)) = .ok (values, rest) := by
  induction hjoined generalizing values steps with
  | @last before part after hbefore hafter =>
      cases steps with
      | zero => simp at hsteps
      | succ steps =>
          obtain ⟨value, _, hread, hnone, rfl⟩ := List.forall₂_cons_right_iff.mp hreads
          obtain rfl := List.forall₂_nil_right_iff.mp hnone
          have hitem := hread.2 [] (after ++ ']' :: rest) isBlank_nil
            (ends_append hafter (by decide) rest)
          have hclosing : skipSpace (after ++ ']' :: rest) = ']' :: rest :=
            skipSpace_append hafter _
          have hstart : skipSpace (before ++ (part ++ (after ++ [']'])) ++ rest) =
              part ++ (after ++ ']' :: rest) := by
            simp only [List.append_assoc, List.cons_append, List.nil_append,
              skipSpace_append hbefore, skipSpace_of_begins hread.1]
          rw [List.nil_append] at hitem
          rw [hstart, readItems, hitem]
          simp only [Except.bind, hclosing]
  | @more before part after chars parts hbefore hafter hjoined ih =>
      cases steps with
      | zero => simp at hsteps
      | succ steps =>
          obtain ⟨value, others, hread, hothers, rfl⟩ := List.forall₂_cons_right_iff.mp hreads
          have hitem := hread.2 [] (after ++ ',' :: (chars ++ rest)) isBlank_nil
            (ends_append hafter (by decide) _)
          have hcomma : skipSpace (after ++ ',' :: (chars ++ rest)) = ',' :: (chars ++ rest) :=
            skipSpace_append hafter _
          have hstart : skipSpace (before ++ (part ++ (after ++ ',' :: chars)) ++ rest) =
              part ++ (after ++ ',' :: (chars ++ rest)) := by
            simp only [List.append_assoc, List.cons_append, skipSpace_append hbefore,
              skipSpace_of_begins hread.1]
          have hnext := hjoined.begins (begins_of_reads hothers) rest
          have hrest := ih hothers (Nat.le_of_succ_le_succ hsteps)
          rw [List.nil_append] at hitem
          rw [hstart, readItems, hitem]
          simp only [Except.bind, hcomma]
          split
          next heq => exact absurd heq hnext.ne_nil
          next heq => exact absurd (by rw [heq]; rfl) (hnext.head?_ne (by decide : ']' ∈ _))
          next => rw [hrest]; rfl

theorem reads_array {read : Reader α} {values : List α} {parts : List (List Char)}
    {chars : List Char} (henclosed : Enclosed '[' ']' parts chars)
    (hreads : List.Forall₂ (Reads read) values parts) : Reads (readArray read) values chars := by
  have hopening (chars : List Char) : skipSpace ('[' :: chars) = '[' :: chars := rfl
  cases henclosed with
  | @empty inner hinner =>
      obtain rfl := List.forall₂_nil_right_iff.mp hreads
      refine ⟨begins_cons (by decide) _, ?_⟩
      intro blank rest hblank _
      have hclosing : skipSpace (inner ++ ']' :: rest) = ']' :: rest := skipSpace_append hinner _
      rw [readArray, skipSpace_append hblank]
      simp only [List.cons_append, List.append_assoc, List.nil_append, hopening, hclosing]
  | @filled _ chars hjoined =>
      refine ⟨begins_cons (by decide) _, ?_⟩
      intro blank rest hblank _
      have hparts := begins_of_reads hreads
      have hnext := hjoined.begins hparts rest
      have hread := readItems_of_joined hjoined hreads
        (Nat.le_succ_of_le (hjoined.length_le_skipSpace hparts rest)) rest
      rw [readArray, skipSpace_append hblank, List.cons_append, hopening]
      split
      next tail heq =>
        obtain rfl : chars ++ rest = tail := (List.cons.inj heq).2
        split
        next heq => exact absurd heq hnext.ne_nil
        next heq => exact absurd (by rw [heq]; rfl) (hnext.head?_ne (by decide : ']' ∈ _))
        next => exact hread
      next hother => exact absurd rfl (hother _)

theorem reads_of_isList {read : Reader α} {means : α → List Char → Prop}
    (hmeans : ∀ value part, means value part → Reads read value part) {values : List α}
    {chars : List Char} (hlist : IsList means values chars) :
    Reads (readArray read) values chars := by
  obtain ⟨items, henclosed, hitems⟩ := hlist
  exact reads_array henclosed (hitems.imp hmeans)

/-! ### Records -/

theorem Reads.part {read : Reader α} {value : α} {chars : List Char}
    (hreads : Reads read value chars) (name : String) (put : ρ → α → ρ) (record : ρ) :
    Reads ((Part.of name read put).read record) (put record value) chars :=
  hreads.map (put record)

/-- The parts of a record are its fields: what a field's text puts into the record is put there, and
no part has another name. -/
structure Covers (parts : List (Part ρ)) (name : κ → String) (writes : κ → List Char → Prop)
    (put : κ → ρ → ρ) : Prop where
  injective : Function.Injective name
  known : ∀ field, ∃ part, parts.find? (·.name = name field) = some part ∧
    ∀ chars, writes field chars → ∀ record, Reads (part.read record) (put field record) chars
  unknown : ∀ other, (∀ field, name field ≠ other) → parts.find? (·.name = other) = none

theorem injective_of_nodup {name : κ → String} {all : List κ} (hall : ∀ field, field ∈ all)
    (hnodup : (all.map name).Nodup) : Function.Injective name :=
  fun left right heq => List.inj_on_of_nodup_map hnodup (hall left) (hall right) heq

theorem find?_eq_none_of_names {parts : List (Part ρ)} {name : κ → String} (all : List κ)
    (hnames : parts.map Part.name = all.map name) {other : String}
    (hother : ∀ field, name field ≠ other) : parts.find? (·.name = other) = none := by
  rw [List.find?_eq_none]
  intro part hpart hname
  have hmem : part.name ∈ all.map name := hnames ▸ List.mem_map_of_mem hpart
  obtain ⟨field, _, hfield⟩ := List.mem_map.mp hmem
  exact hother field (hfield.trans (of_decide_eq_true hname))

/-- The members still to come give each field once, and none whose name was seen. -/
structure Fresh (name : κ → String) (seen : List String) (keys : List (Option κ)) : Prop where
  ofField : ∀ other ∈ seen, ∃ field, name field = other
  unseen : ∀ field ∈ keys.reduceOption, name field ∉ seen
  once : keys.reduceOption.Nodup

theorem Fresh.head {name : κ → String} {seen : List String} {key : Option κ}
    {keys : List (Option κ)} (hfresh : Fresh name seen (key :: keys)) :
    ∀ field ∈ key, name field ∉ seen := by
  rintro field rfl
  exact hfresh.unseen field (by simp)

theorem Fresh.tail {name : κ → String} (hinjective : Function.Injective name) {seen : List String}
    {key : Option κ} {keys : List (Option κ)} (hfresh : Fresh name seen (key :: keys)) :
    Fresh name (key.elim seen fun field => name field :: seen) keys := by
  obtain ⟨hofField, hunseen, honce⟩ := hfresh
  cases key with
  | none =>
      rw [List.reduceOption_cons_of_none] at hunseen honce
      exact ⟨hofField, hunseen, honce⟩
  | some field =>
      rw [List.reduceOption_cons_of_some] at hunseen honce
      obtain ⟨hfirst, honce⟩ := List.nodup_cons.mp honce
      refine ⟨List.forall_mem_cons.mpr ⟨⟨field, rfl⟩, hofField⟩, ?_, honce⟩
      intro other hother hmem
      rcases List.mem_cons.mp hmem with heq | hmem
      · exact hfirst (hinjective heq ▸ hother)
      · exact hunseen other (List.mem_cons_of_mem _ hother) hmem

theorem foldl_reduceOption_cons (put : κ → ρ → ρ) (key : Option κ) (keys : List (Option κ))
    (record : ρ) :
    (key :: keys).reduceOption.foldl (fun record field => put field record) record =
      keys.reduceOption.foldl (fun record field => put field record)
        (key.elim record (put · record)) := by
  cases key <;> rfl

section Records

variable {parts : List (Part ρ)} {name : κ → String} {writes : κ → List Char → Prop}
  {put : κ → ρ → ρ} (hcovers : Covers parts name writes put)

include hcovers

/-- One member puts its field into the record, and no other changes it. -/
theorem readMember_of_isMember {key : Option κ} {chars : List Char}
    (hmember : IsMember name writes key chars) {seen : List String}
    (hseen : ∀ other ∈ seen, ∃ field, name field = other)
    (hfresh : ∀ field ∈ key, name field ∉ seen) (record : ρ) {rest : List Char}
    (hends : Ends rest) :
    ∃ inner, chars ++ rest = '"' :: inner ∧ readMember parts seen record inner =
      .ok ((key.elim record (put · record), key.elim seen fun field => name field :: seen),
        rest) := by
  cases hmember with
  | @known field member hname hbefore hafter hvalue =>
      obtain ⟨part, hfind, hreads⟩ := hcovers.known field
      refine ⟨_, member.chars_append rest, ?_⟩
      have hcolon : skipSpace (member.before ++ ':' :: (member.after ++ (member.value ++ rest))) =
          ':' :: (member.after ++ (member.value ++ rest)) := skipSpace_append hbefore _
      have hread := (hreads member.value hvalue record).2 member.after rest hafter hends
      simp only [readMember, readQuoted_of_spells hname, Except.bind, String.ofList_toList]
      rw [if_neg (hfresh field rfl), hcolon]
      simp only [hfind, hread, Except.map, Option.elim_some]
  | @unknown other member hother hname hbefore hafter hvalue =>
      have hunknown : ∀ field, name field ≠ String.ofList other := by
        intro field heq
        exact hother field (by rw [heq, String.toList_ofList])
      have hnotSeen : String.ofList other ∉ seen := by
        intro hmem
        obtain ⟨field, heq⟩ := hseen _ hmem
        exact hunknown field heq
      refine ⟨_, member.chars_append rest, ?_⟩
      have hcolon : skipSpace (member.before ++ ':' :: (member.after ++ (member.value ++ rest))) =
          ':' :: (member.after ++ (member.value ++ rest)) := skipSpace_append hbefore _
      simp only [readMember, readQuoted_of_spells hname, Except.bind]
      rw [if_neg hnotSeen, hcolon]
      simp only [hcovers.unknown _ hunknown, skipValue_of_isValue hvalue hafter hends, Except.map,
        Option.elim_none]

theorem readMembers_of_joined {keys : List (Option κ)} {members : List (List Char)}
    {chars : List Char} (hjoined : Joined '\x7d' members chars)
    (hmembers : List.Forall₂ (IsMember name writes) keys members) {seen : List String}
    (hfresh : Fresh name seen keys) (record : ρ) (rest : List Char) :
    ∃ inner, skipSpace (chars ++ rest) = '"' :: inner ∧
      ∀ steps, members.length ≤ steps → readMembers parts steps seen record inner =
        .ok (keys.reduceOption.foldl (fun record field => put field record) record, rest) := by
  induction hjoined generalizing keys seen record with
  | @last before member after hbefore hafter =>
      obtain ⟨key, _, hmember, hnone, rfl⟩ := List.forall₂_cons_right_iff.mp hmembers
      obtain rfl := List.forall₂_nil_right_iff.mp hnone
      obtain ⟨inner, hstart, hread⟩ := readMember_of_isMember hcovers hmember hfresh.ofField
        hfresh.head record (ends_append hafter (by decide : '\x7d' ∈ _) rest)
      have hclosing : skipSpace (after ++ '\x7d' :: rest) = '\x7d' :: rest :=
        skipSpace_append hafter _
      refine ⟨inner, ?_, ?_⟩
      · simp only [List.append_assoc, List.cons_append, List.nil_append,
          skipSpace_append hbefore, hstart]
        rfl
      · intro steps hsteps
        cases steps with
        | zero => simp at hsteps
        | succ steps =>
            rw [readMembers, hread, foldl_reduceOption_cons]
            simp only [Except.bind, hclosing]
            rfl
  | @more before member after chars members hbefore hafter hjoined ih =>
      obtain ⟨key, keys, hmember, hothers, rfl⟩ := List.forall₂_cons_right_iff.mp hmembers
      obtain ⟨inner, hstart, hread⟩ := readMember_of_isMember hcovers hmember hfresh.ofField
        hfresh.head record (ends_append hafter (by decide : ',' ∈ _) (chars ++ rest))
      obtain ⟨next, hnext, hlast⟩ :=
        ih hothers (hfresh.tail hcovers.injective) (key.elim record (put · record))
      have hcomma : skipSpace (after ++ ',' :: (chars ++ rest)) = ',' :: (chars ++ rest) :=
        skipSpace_append hafter _
      refine ⟨inner, ?_, ?_⟩
      · simp only [List.append_assoc, List.cons_append, skipSpace_append hbefore, hstart]
        rfl
      · intro steps hsteps
        cases steps with
        | zero => simp at hsteps
        | succ steps =>
            rw [readMembers, hread, foldl_reduceOption_cons]
            simp only [Except.bind, hcomma, hnext]
            exact hlast steps (Nat.le_of_succ_le_succ hsteps)

theorem reads_record {fields : List κ} {chars : List Char}
    (hrecord : IsRecord name writes fields chars) (record : ρ) :
    Reads (readRecord parts record)
      (fields.foldl (fun record field => put field record) record) chars := by
  obtain ⟨hnodup, keys, members, henclosed, hmembers, rfl⟩ := hrecord
  have hopening (chars : List Char) : skipSpace ('\x7b' :: chars) = '\x7b' :: chars := rfl
  cases henclosed with
  | @empty inner hinner =>
      obtain rfl := List.forall₂_nil_right_iff.mp hmembers
      refine ⟨begins_cons (by decide) _, ?_⟩
      intro blank rest hblank _
      have hclosing : skipSpace (inner ++ '\x7d' :: rest) = '\x7d' :: rest :=
        skipSpace_append hinner _
      rw [readRecord, skipSpace_append hblank]
      simp only [List.cons_append, List.append_assoc, List.nil_append, hopening, hclosing]
      rfl
  | @filled _ chars hjoined =>
      have hbegins : ∀ member ∈ members, Begins member := by
        refine begins_of_forall₂ ?_ hmembers
        rintro key member (_ | _) <;> exact begins_cons (by decide) _
      refine ⟨begins_cons (by decide) _, ?_⟩
      intro blank rest hblank _
      have hlength := hjoined.length_le_skipSpace hbegins rest
      have hfresh : Fresh name [] keys := ⟨by simp, by simp, hnodup⟩
      obtain ⟨inner, hstart, hread⟩ :=
        readMembers_of_joined hcovers hjoined hmembers hfresh record rest
      rw [hstart] at hlength
      rw [readRecord, skipSpace_append hblank, List.cons_append, hopening]
      simp only [hstart]
      exact hread _ hlength

end Records

/-! ### Documents -/

theorem readDocument_of_isDocument {read : Reader α} {value : α} {means : List Char → Prop}
    {document : String} (hreads : ∀ chars, means chars → Reads read value chars)
    (hdocument : IsDocument means document) : readDocument read document = .ok value := by
  obtain ⟨before, chars, after, htext, hbefore, hafter, hmeans⟩ := hdocument
  have hends : Ends after := by
    intro char hchar
    exact List.mem_append_left _ (hafter char (List.mem_of_mem_head? hchar))
  have hrest : skipSpace after = [] := by
    have happend := skipSpace_append hafter []
    rwa [List.append_nil] at happend
  rw [readDocument, htext, (hreads chars hmeans).2 before after hbefore hends]
  simp [Except.bind, hrest]

/-- A document is read as a text if and only if it is a string that spells the text. -/
theorem readDocument_string_eq_ok_iff {text document : String} :
    readDocument readString document = .ok text ↔ IsDocument (IsText text) document := by
  constructor
  · intro hread
    unfold readDocument at hread
    cases hstring : readString document.toList with
    | error fault =>
        rw [hstring] at hread
        exact absurd hread nofun
    | ok result =>
        obtain ⟨own, rest⟩ := result
        rw [hstring] at hread
        dsimp only [Except.bind] at hread
        split_ifs at hread with hrest
        obtain rfl := Except.ok.inj hread
        obtain ⟨blank, body, hblank, hspells, hchars⟩ := exists_spells_of_readString hstring
        refine ⟨blank, quoted body, rest, hchars, hblank, ?_, body, hspells, rfl⟩
        exact fun char hchar => isSpace_iff.mp (List.dropWhile_eq_nil_iff.mp hrest char hchar)
  · exact readDocument_of_isDocument fun _ => reads_of_isText

end CameraHotplug.Json
