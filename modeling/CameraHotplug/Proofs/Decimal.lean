import CameraHotplug.Text.Decimal
import Mathlib.Tactic.IntervalCases

/-!
# One written form

The reader of decimals takes nothing but the written form of a number. So two texts that are read
as the same number are the same text, and whatever is named by a decimal is named once.
-/

namespace CameraHotplug.Decimal

theorem text_eq_toString (number : UInt32) : text number = toString number.toNat :=
  rfl

theorem digitChar_sub_zero {numeral : Char} (hdigit : numeral.isDigit = true) :
    (numeral.toNat - '0'.toNat).digitChar = numeral := by
  obtain ⟨hlow, hhigh⟩ := Char.isDigit_iff_toNat.mp hdigit
  obtain ⟨digit, hsum⟩ := Nat.exists_eq_add_of_le hlow
  have hdigitLt : digit < 10 := by
    have hnine : '9'.toNat = 57 := rfl
    have hzero : '0'.toNat = 48 := rfl
    omega
  apply Char.toNat_inj.mp
  rw [hsum, Nat.add_sub_cancel_left]
  interval_cases digit <;> rfl

theorem digit_lt_ten {numeral : Char} (hdigit : numeral.isDigit = true) :
    numeral.toNat - '0'.toNat < 10 := by
  obtain ⟨hlow, hhigh⟩ := Char.isDigit_iff_toNat.mp hdigit
  have hnine : '9'.toNat = 57 := rfl
  have hzero : '0'.toNat = 48 := rfl
  omega

/-- Digits read after a positive number are written after it. -/
theorem toDigits_append_of_pos {total : Nat} (hpos : 0 < total) {numerals : List Char}
    (hdigits : ∀ numeral ∈ numerals, numeral.isDigit = true) :
    Nat.toDigits 10 total ++ numerals =
      Nat.toDigits 10 (numerals.foldl
        (fun total numeral => 10 * total + (numeral.toNat - '0'.toNat)) total) := by
  induction numerals generalizing total with
  | nil => simp
  | cons numeral numerals ih =>
      have hdigit := hdigits numeral List.mem_cons_self
      have hlast := Nat.toDigits_append_toDigits (by decide : 1 < 10) hpos (digit_lt_ten hdigit)
      rw [Nat.toDigits_of_lt_base (digit_lt_ten hdigit), digitChar_sub_zero hdigit] at hlast
      rw [List.foldl_cons, ← ih (by omega) fun other hother =>
        hdigits other (List.mem_cons_of_mem _ hother), ← hlast]
      simp

theorem toDigits_value {numerals : List Char} (hcanonical : isCanonical numerals = true) :
    Nat.toDigits 10 (value numerals) = numerals := by
  match numerals with
  | [] => simp [isCanonical] at hcanonical
  | [numeral] =>
      have hdigit : numeral.isDigit = true := hcanonical
      simp only [value, List.foldl_cons, List.foldl_nil, Nat.mul_zero, Nat.zero_add]
      rw [Nat.toDigits_of_lt_base (digit_lt_ten hdigit), digitChar_sub_zero hdigit]
  | first :: second :: rest =>
      simp only [isCanonical, Bool.and_eq_true, bne_iff_ne, List.all_eq_true] at hcanonical
      obtain ⟨⟨hfirst, hnonzero⟩, hrest⟩ := hcanonical
      have hpos : 0 < first.toNat - '0'.toNat := by
        have hlow := (Char.isDigit_iff_toNat.mp hfirst).1
        have hne : first.toNat ≠ '0'.toNat := fun heq => hnonzero (Char.toNat_inj.mp heq)
        omega
      have happend := toDigits_append_of_pos hpos hrest
      rw [Nat.toDigits_of_lt_base (digit_lt_ten hfirst), digitChar_sub_zero hfirst] at happend
      simpa [value] using happend.symm

theorem eq_digits_of_read? {numerals : List Char} {number : UInt32}
    (hread : read? numerals = some number) : numerals = digits number := by
  unfold read? at hread
  split at hread
  next hcanonical =>
    split at hread
    next hbound =>
      rw [Option.some.injEq] at hread
      rw [← hread, digits, UInt32.toNat_ofNatLT, toDigits_value hcanonical]
    next => simp at hread
  next => simp at hread

/-! ### The written form is read -/

theorem head?_toDigits_ne_zero {number : Nat} (hpos : 0 < number) :
    (Nat.toDigits 10 number).head? ≠ some '0' := by
  induction number using Nat.strongRecOn with
  | ind number ih =>
      by_cases hsmall : number < 10
      · rw [Nat.toDigits_of_lt_base hsmall]
        interval_cases number <;> decide
      · have hlead := ih (number / 10) (by omega) (by omega)
        rw [Nat.toDigits_of_base_le (by decide) (by omega)]
        rwa [List.head?_append, List.head?_eq_some_head Nat.toDigits_ne_nil, Option.some_or,
          ← List.head?_eq_some_head Nat.toDigits_ne_nil]

theorem isCanonical_toDigits (number : Nat) : isCanonical (Nat.toDigits 10 number) = true := by
  have hdigits : ∀ numeral ∈ Nat.toDigits 10 number, numeral.isDigit = true :=
    fun numeral => Nat.isDigit_of_mem_toDigits (by decide) (by decide)
  have hlead : 0 < number → (Nat.toDigits 10 number).head? ≠ some '0' := head?_toDigits_ne_zero
  have hzero : number = 0 → Nat.toDigits 10 number = ['0'] := fun heq => heq ▸ Nat.toDigits_zero 10
  have hsome : Nat.toDigits 10 number ≠ [] := Nat.toDigits_ne_nil
  generalize Nat.toDigits 10 number = numerals at hdigits hlead hzero hsome ⊢
  match numerals with
  | [] => exact absurd rfl hsome
  | [numeral] => exact hdigits numeral List.mem_cons_self
  | first :: second :: rest =>
      obtain ⟨hfirst, hrest⟩ := List.forall_mem_cons.mp hdigits
      have hpos : 0 < number := Nat.pos_of_ne_zero fun heq => absurd (hzero heq) (by simp)
      have hnonzero : first ≠ '0' := by simpa using hlead hpos
      simp only [isCanonical, Bool.and_eq_true, bne_iff_ne, List.all_eq_true]
      exact ⟨⟨hfirst, hnonzero⟩, hrest⟩

theorem value_toDigits (number : Nat) : value (Nat.toDigits 10 number) = number := by
  rw [value, ← Nat.ofDigitChars_eq_foldl, Nat.ofDigitChars_ten_toDigits]

@[simp]
theorem read?_digits (number : UInt32) : read? (digits number) = some number := by
  have hcanonical : isCanonical (digits number) = true := isCanonical_toDigits number.toNat
  have hvalue : value (digits number) = number.toNat := value_toDigits number.toNat
  have hbound : value (digits number) < UInt32.size := hvalue ▸ number.toNat_lt_size
  rw [read?, if_pos hcanonical, dif_pos hbound, Option.some.injEq]
  apply UInt32.toNat_inj.mp
  rw [UInt32.toNat_ofNatLT, hvalue]

theorem read?_eq_some_iff {numerals : List Char} {number : UInt32} :
    read? numerals = some number ↔ numerals = digits number :=
  ⟨eq_digits_of_read?, fun heq => heq ▸ read?_digits number⟩

example : read? "07".toList = none := by decide
example : read? "4294967296".toList = none := by decide

theorem digits_injective : Function.Injective digits :=
  fun left _ hdigits => Option.some.inj
    ((read?_digits left).symm.trans (read?_eq_some_iff.mpr hdigits))

theorem digits_ne_nil (number : UInt32) : digits number ≠ [] :=
  Nat.toDigits_ne_nil

theorem isDigit_of_mem_digits {number : UInt32} {char : Char} (hmem : char ∈ digits number) :
    char.isDigit = true :=
  Nat.isDigit_of_mem_toDigits (by decide) (by decide) hmem

theorem not_mem_digits {char : Char} (hchar : char.isDigit = false) (number : UInt32) :
    char ∉ digits number :=
  fun hmem => absurd ((isDigit_of_mem_digits hmem).symm.trans hchar) (by decide)

end CameraHotplug.Decimal
