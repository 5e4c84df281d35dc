import CameraHotplug.Json
import CameraHotplug.Proofs.Decimal
import CameraHotplug.Proofs.JsonText
import CameraHotplug.Proofs.Utf8Pieces
import Mathlib.Data.List.TakeWhile
import Mathlib.Tactic.IntervalCases
import Mathlib.Tactic.SplitIfs

/-!
# Strings and their spellings

A text is read from any of its spellings, its quoted form among them, and reading ends right after
the closing quote. Where nobody asks what a string stands for, any string is passed.
-/

namespace CameraHotplug.Json

/-! ### Escapes -/

theorem hexValue?_of_isHexDigit {digit : Nat} {char : Char} (hdigit : IsHexDigit digit char) :
    hexValue? char = some digit := by
  obtain ⟨hlt, rfl | rfl⟩ := hdigit
  · interval_cases digit <;> decide
  · interval_cases digit <;> decide

theorem escaped?_of_mem_letters {letter meant : Char} (hletter : (letter, meant) ∈ letters) :
    letter ≠ 'u' ∧ escaped? letter = some meant := by
  simp only [letters, List.mem_cons, Prod.mk.injEq, List.not_mem_nil, or_false] at hletter
  rcases hletter with h | h | h | h | h | h | h | h <;> obtain ⟨rfl, rfl⟩ := h <;> decide

/-- Four digits make one unit, whatever it is taken for then. -/
theorem readQuoted_of_isUnit {unit : Nat} {chars : List Char} (hunit : IsUnit unit chars)
    (paired : Bool) (leading? : Option Nat) (rest : List Char) :
    readQuoted paired (.unit leading? 0 0) (chars ++ rest) =
      match leading? with
      | some leading =>
        if isTrailingSurrogate unit then
          (readQuoted paired .plain rest).map fun (text, rest) =>
            (joinSurrogates leading unit :: text, rest)
        else .error .malformed
      | none =>
        if isLeadingSurrogate unit && paired then readQuoted paired (.leading unit) rest
        else if isTrailingSurrogate unit && paired then .error .malformed
        else
          (readQuoted paired .plain rest).map fun (text, rest) =>
            ((if isLeadingSurrogate unit || isTrailingSurrogate unit then '\uFFFD'
              else Char.ofNat unit) :: text, rest) := by
  obtain ⟨first, second, third, fourth, rfl, hfirst, hsecond, hthird, hfourth⟩ := hunit
  have hvalue : 16 * (16 * (16 * (unit / 0x1000) + unit / 0x100 % 16) + unit / 0x10 % 16) +
      unit % 16 = unit := by
    omega
  simp only [List.cons_append, List.nil_append, readQuoted, hexValue?_of_isHexDigit hfirst,
    hexValue?_of_isHexDigit hsecond, hexValue?_of_isHexDigit hthird,
    hexValue?_of_isHexDigit hfourth, Nat.mul_zero, Nat.zero_add, hvalue]
  cases leading? <;> simp

theorem readQuoted_plain {char : Char} (hplain : IsPlain char) (paired : Bool)
    (chars : List Char) :
    readQuoted paired .plain (char :: chars) =
      (readQuoted paired .plain chars).map fun (text, rest) => (char :: text, rest) := by
  obtain ⟨hquote, hbackslash, hcontrol⟩ := hplain
  rw [readQuoted, if_neg hquote, if_neg hbackslash, if_neg (Nat.not_lt.mpr hcontrol)]

theorem readQuoted_letter {letter meant : Char} (hletter : (letter, meant) ∈ letters)
    (paired : Bool) (chars : List Char) :
    readQuoted paired .plain ('\\' :: letter :: chars) =
      (readQuoted paired .plain chars).map fun (text, rest) => (meant :: text, rest) := by
  obtain ⟨hne, hmeant⟩ := escaped?_of_mem_letters hletter
  simp [readQuoted, hne, hmeant]

theorem readQuoted_backslash_u (paired : Bool) (chars : List Char) :
    readQuoted paired .plain ('\\' :: 'u' :: chars) =
      readQuoted paired (.unit none 0 0) chars := by
  simp [readQuoted]

theorem toNat_range (char : Char) :
    char.toNat < 0xD800 ∨ 0xDFFF < char.toNat ∧ char.toNat < 0x110000 :=
  char.valid

theorem not_isSurrogate (char : Char) :
    isLeadingSurrogate char.toNat = false ∧ isTrailingSurrogate char.toNat = false := by
  have hrange := toNat_range char
  simp only [isLeadingSurrogate, isTrailingSurrogate, Bool.and_eq_false_iff,
    decide_eq_false_iff_not]
  omega

/-- A text is read from any of its spellings. -/
theorem readQuoted_of_spells {text chars : List Char} (hspells : Spells text chars)
    (rest : List Char) : readQuoted true .plain (chars ++ '"' :: rest) = .ok (text, rest) := by
  induction hspells with
  | nil => simp [readQuoted]
  | plain hplain _ ih => rw [List.cons_append, readQuoted_plain hplain, ih]; rfl
  | letter hletter _ ih =>
      rw [List.cons_append, List.cons_append, readQuoted_letter hletter, ih]
      rfl
  | @unit char _ _ _ hunit _ ih =>
      obtain ⟨hleading, htrailing⟩ := not_isSurrogate char
      rw [List.cons_append, List.cons_append, List.append_assoc, readQuoted_backslash_u,
        readQuoted_of_isUnit hunit, ih]
      simp [hleading, htrailing, Except.map, Char.ofNat_toNat]
  | @pair char leading trailing text chars hlarge hleading htrailing _ ih =>
      have hrange := toNat_range char
      have hlead : isLeadingSurrogate (0xD800 + (char.toNat - 0x10000) / 0x400) = true := by
        simp only [isLeadingSurrogate, Bool.and_eq_true, decide_eq_true_eq]
        omega
      have htrail : isTrailingSurrogate (0xDC00 + (char.toNat - 0x10000) % 0x400) = true := by
        simp only [isTrailingSurrogate, Bool.and_eq_true, decide_eq_true_eq]
        omega
      have hjoined : joinSurrogates (0xD800 + (char.toNat - 0x10000) / 0x400)
          (0xDC00 + (char.toNat - 0x10000) % 0x400) = char := by
        have hsum : 0x10000 + (0xD800 + (char.toNat - 0x10000) / 0x400 - 0xD800) * 0x400 +
            (0xDC00 + (char.toNat - 0x10000) % 0x400 - 0xDC00) = char.toNat := by
          omega
        rw [joinSurrogates, hsum, Char.ofNat_toNat]
      simp only [List.cons_append, List.append_assoc, readQuoted_backslash_u,
        readQuoted_of_isUnit hleading, hlead, Bool.and_self, if_true]
      simp only [readQuoted, if_true]
      simp only [readQuoted_of_isUnit htrailing, htrail, if_true, ih, hjoined]
      rfl

/-- What a string stands for does not matter to what follows it. -/
theorem map_snd_map {result : Except Fault (List Char × List Char)}
    (extend : List Char → List Char) :
    (result.map fun (text, rest) => (extend text, rest)).map Prod.snd = result.map Prod.snd := by
  cases result <;> rfl

theorem skipQuoted_of_isBody {body : List Char} (hbody : IsBody body) (rest : List Char) :
    skipQuoted (body ++ '"' :: rest) = .ok rest := by
  unfold skipQuoted
  induction hbody with
  | nil => simp [readQuoted, Except.map]
  | @plain char _ hplain _ ih =>
      rw [List.cons_append, readQuoted_plain hplain, map_snd_map (char :: ·)]
      exact ih
  | @letter _ meant _ hletter _ ih =>
      rw [List.cons_append, List.cons_append, readQuoted_letter hletter, map_snd_map (meant :: ·)]
      exact ih
  | unit hunit _ ih =>
      rw [List.cons_append, List.cons_append, List.append_assoc, readQuoted_backslash_u,
        readQuoted_of_isUnit hunit]
      simp only [Bool.and_false, Bool.false_eq_true, if_false]
      rw [map_snd_map (_ :: ·)]
      exact ih

/-! ### What is read is a spelling -/

theorem isHexDigit_of_hexValue? {char : Char} {digit : Nat} (hvalue : hexValue? char = some digit) :
    IsHexDigit digit char := by
  have hcode : char = Char.ofNat char.toNat := (Char.ofNat_toNat char).symm
  unfold hexValue? at hvalue
  split_ifs at hvalue with hdigit hlower hupper
  · obtain rfl := Option.some.inj hvalue
    have hten := Decimal.digit_lt_ten hdigit
    exact ⟨by omega, Or.inl (Decimal.digitChar_sub_zero hdigit).symm⟩
  · obtain rfl := Option.some.inj hvalue
    have hlow : 97 ≤ char.toNat := hlower.1
    have hhigh : char.toNat ≤ 102 := hlower.2
    rw [hcode]
    generalize char.toNat = code at hlow hhigh ⊢
    interval_cases code <;> exact ⟨by decide, Or.inl (by decide)⟩
  · obtain rfl := Option.some.inj hvalue
    have hlow : 65 ≤ char.toNat := hupper.1
    have hhigh : char.toNat ≤ 70 := hupper.2
    rw [hcode]
    generalize char.toNat = code at hlow hhigh ⊢
    interval_cases code <;> exact ⟨by decide, Or.inr (by decide)⟩

theorem mem_letters_of_escaped? {letter meant : Char} (hmeant : escaped? letter = some meant) :
    (letter, meant) ∈ letters := by
  unfold escaped? at hmeant
  split at hmeant <;> cases hmeant <;> decide

section Reading

variable {paired : Bool} {chars text rest : List Char}

theorem exists_hexValue?_of_readQuoted {leading? : Option Nat} {count value : Nat}
    {result : List Char × List Char}
    (hread : readQuoted paired (.unit leading? count value) chars = .ok result) :
    ∃ char digit others, chars = char :: others ∧ hexValue? char = some digit ∧
      (count < 3 →
        readQuoted paired (.unit leading? (count + 1) (16 * value + digit)) others =
          .ok result) := by
  cases chars with
  | nil => exact absurd hread nofun
  | cons char others =>
      rw [readQuoted] at hread
      cases hdigit : hexValue? char with
      | none =>
          rw [hdigit] at hread
          dsimp only at hread
          split_ifs at hread
      | some digit =>
          refine ⟨char, digit, others, rfl, hdigit, ?_⟩
          intro hcount
          simpa only [hdigit, if_pos hcount] using hread

/-- After the letter of a unit stand its four digits. -/
theorem exists_isUnit_of_readQuoted {leading? : Option Nat} {result : List Char × List Char}
    (hread : readQuoted paired (.unit leading? 0 0) chars = .ok result) :
    ∃ unit digits others, chars = digits ++ others ∧ IsUnit unit digits ∧ unit < 0x10000 := by
  obtain ⟨first, one, chars, rfl, hone, hread⟩ := exists_hexValue?_of_readQuoted hread
  obtain ⟨second, two, chars, rfl, htwo, hread⟩ :=
    exists_hexValue?_of_readQuoted (hread (by decide))
  obtain ⟨third, three, chars, rfl, hthree, hread⟩ :=
    exists_hexValue?_of_readQuoted (hread (by decide))
  obtain ⟨fourth, four, chars, rfl, hfour, -⟩ :=
    exists_hexValue?_of_readQuoted (hread (by decide))
  replace hone := isHexDigit_of_hexValue? hone
  replace htwo := isHexDigit_of_hexValue? htwo
  replace hthree := isHexDigit_of_hexValue? hthree
  replace hfour := isHexDigit_of_hexValue? hfour
  have hsmall : one < 16 ∧ two < 16 ∧ three < 16 ∧ four < 16 :=
    ⟨hone.1, htwo.1, hthree.1, hfour.1⟩
  refine ⟨16 * (16 * (16 * one + two) + three) + four, [first, second, third, fourth], chars, rfl,
    ⟨first, second, third, fourth, rfl, ?_, ?_, ?_, ?_⟩, by omega⟩
  · convert hone using 1
    omega
  · convert htwo using 1
    omega
  · convert hthree using 1
    omega
  · convert hfour using 1
    omega

theorem exists_of_map_eq_ok {α β : Type} {result : Except Fault α} {convert : α → β} {value : β}
    (hmap : result.map convert = .ok value) : ∃ own, result = .ok own ∧ convert own = value := by
  cases result with
  | error fault => exact absurd hmap nofun
  | ok own => exact ⟨own, rfl, Except.ok.inj hmap⟩

/-- The characters begin with a spelling of the first character of the text, and what follows is
read as the rest of it. -/
def ReadsFirst (chars text rest : List Char) : Prop :=
  ∃ char spelled others more, chars = spelled ++ others ∧ text = char :: more ∧
    (∀ text body, Spells text body → Spells (char :: text) (spelled ++ body)) ∧
    readQuoted true .plain others = .ok (more, rest)

theorem readsFirst_of_map {char : Char} {spelled others : List Char}
    (hspelled : ∀ text body, Spells text body → Spells (char :: text) (spelled ++ body))
    (hread : ((readQuoted true .plain others).map fun (text, rest) => (char :: text, rest)) =
      .ok (text, rest)) : ReadsFirst (spelled ++ others) text rest := by
  obtain ⟨⟨more, left⟩, hmore, heq⟩ := exists_of_map_eq_ok hread
  obtain ⟨rfl, rfl⟩ := Prod.mk.inj heq
  exact ⟨char, spelled, others, more, rfl, rfl, hspelled, hmore⟩

/-- After a leading surrogate stands the other half of the pair. -/
theorem readsFirst_of_leading {leading : Nat} {digits : List Char}
    (hleading : isLeadingSurrogate leading = true) (hdigits : IsUnit leading digits)
    (hread : readQuoted true (.leading leading) chars = .ok (text, rest)) :
    ReadsFirst ('\\' :: 'u' :: (digits ++ chars)) text rest := by
  obtain ⟨others, rfl, htrailing⟩ : ∃ others, chars = '\\' :: 'u' :: others ∧
      readQuoted true (.unit (some leading) 0 0) others = .ok (text, rest) := by
    rcases chars with _ | ⟨first, _ | ⟨second, others⟩⟩
    · exact absurd hread nofun
    · rw [readQuoted] at hread
      split_ifs at hread
      exact absurd hread nofun
    · rw [readQuoted] at hread
      split_ifs at hread with hfirst
      rw [readQuoted] at hread
      split_ifs at hread with hsecond
      exact ⟨others, by rw [hfirst, hsecond], hread⟩
  clear hread
  obtain ⟨trailing, more, others, rfl, hunit, -⟩ := exists_isUnit_of_readQuoted htrailing
  rw [readQuoted_of_isUnit hunit] at htrailing
  dsimp only at htrailing
  split_ifs at htrailing with hsurrogate
  simp only [isLeadingSurrogate, isTrailingSurrogate, Bool.and_eq_true, decide_eq_true_eq]
    at hleading hsurrogate
  obtain ⟨char, hchar⟩ := Utf8.exists_char
    (0x10000 + (leading - 0xD800) * 0x400 + (trailing - 0xDC00)) (by omega)
  have hjoined : joinSurrogates leading trailing = char := by
    rw [joinSurrogates, ← hchar, Char.ofNat_toNat]
  have hhigh : 0xD800 + (char.toNat - 0x10000) / 0x400 = leading := by omega
  have hlow : 0xDC00 + (char.toNat - 0x10000) % 0x400 = trailing := by omega
  rw [hjoined] at htrailing
  have hspelled : ∀ text body, Spells text body →
      Spells (char :: text) ('\\' :: 'u' :: (digits ++ '\\' :: 'u' :: more) ++ body) := by
    intro text body hspells
    have hpair := Spells.pair (by omega) (hhigh.symm ▸ hdigits) (hlow.symm ▸ hunit) hspells
    simpa using hpair
  simpa using readsFirst_of_map hspelled htrailing

theorem readsFirst_of_unit (hread : readQuoted true (.unit none 0 0) chars = .ok (text, rest)) :
    ReadsFirst ('\\' :: 'u' :: chars) text rest := by
  obtain ⟨unit, digits, others, rfl, hunit, hsmall⟩ := exists_isUnit_of_readQuoted hread
  rw [readQuoted_of_isUnit hunit] at hread
  simp only [Bool.and_true] at hread
  split_ifs at hread with hleading htrailing hsurrogate
  · exact readsFirst_of_leading hleading hunit hread
  · simp [hleading, htrailing] at hsurrogate
  · have hcode : unit < 0xD800 ∨ 0xDFFF < unit := by
      simp only [isLeadingSurrogate, isTrailingSurrogate, Bool.and_eq_true, decide_eq_true_eq]
        at hleading htrailing
      omega
    obtain ⟨char, rfl⟩ := Utf8.exists_char unit (by omega)
    rw [Char.ofNat_toNat] at hread
    have hspelled : ∀ text body, Spells text body →
        Spells (char :: text) ('\\' :: 'u' :: digits ++ body) :=
      fun text body hspells => .unit hunit hspells
    exact readsFirst_of_map hspelled hread

theorem readsFirst_of_escape (hread : readQuoted true .escape chars = .ok (text, rest)) :
    ReadsFirst ('\\' :: chars) text rest := by
  cases chars with
  | nil => exact absurd hread nofun
  | cons letter chars =>
      rw [readQuoted] at hread
      split_ifs at hread with hunit
      · subst hunit
        exact readsFirst_of_unit hread
      · cases hmeant : escaped? letter with
        | none =>
            rw [hmeant] at hread
            exact absurd hread nofun
        | some meant =>
            rw [hmeant] at hread
            have hspelled : ∀ text body, Spells text body →
                Spells (meant :: text) (['\\', letter] ++ body) :=
              fun text body hspells => .letter (mem_letters_of_escaped? hmeant) hspells
            exact readsFirst_of_map hspelled hread

theorem readsFirst_of_plain (hread : readQuoted true .plain chars = .ok (text, rest)) :
    text = [] ∧ chars = '"' :: rest ∨ ReadsFirst chars text rest := by
  cases chars with
  | nil => exact absurd hread nofun
  | cons char chars =>
      rw [readQuoted] at hread
      split_ifs at hread with hquote hbackslash hcontrol
      · obtain ⟨rfl, rfl⟩ := Prod.mk.inj (Except.ok.inj hread)
        exact Or.inl ⟨rfl, by rw [hquote]⟩
      · subst hbackslash
        exact Or.inr (readsFirst_of_escape hread)
      · have hspelled : ∀ text body, Spells text body → Spells (char :: text) ([char] ++ body) :=
          fun text body hspells => .plain ⟨hquote, hbackslash, Nat.not_lt.mp hcontrol⟩ hspells
        exact Or.inr (readsFirst_of_map hspelled hread)

/-- Whatever is read as a text is a spelling of it, up to the closing quote. -/
theorem exists_spells_of_readQuoted (hread : readQuoted true .plain chars = .ok (text, rest)) :
    ∃ body, Spells text body ∧ chars = body ++ '"' :: rest := by
  induction text generalizing chars with
  | nil =>
      rcases readsFirst_of_plain hread with ⟨-, hchars⟩ | ⟨_, _, _, _, -, htext, -⟩
      · exact ⟨[], .nil, hchars⟩
      · exact absurd htext nofun
  | cons char text ih =>
      rcases readsFirst_of_plain hread with
        ⟨htext, -⟩ | ⟨first, spelled, others, more, rfl, htext, hspelled, hmore⟩
      · exact absurd htext nofun
      · obtain ⟨rfl, rfl⟩ := List.cons.inj htext
        obtain ⟨body, hspells, rfl⟩ := ih hmore
        exact ⟨spelled ++ body, hspelled text body hspells, (List.append_assoc _ _ _).symm⟩

end Reading

/-! ### The quoted form -/

theorem isHexDigit_hexDigit (value : Nat) : IsHexDigit (value % 16) (hexDigit value) :=
  ⟨Nat.mod_lt value (by decide), Or.inl rfl⟩

/-- The escape of a control character gives its number in four hexadecimal digits. -/
theorem isUnit_of_control {char : Char} (hcontrol : char.toNat < 0x20) :
    IsUnit char.toNat ['0', '0', hexDigit (char.toNat / 16), hexDigit char.toNat] := by
  have hzero : IsHexDigit 0 '0' := ⟨by decide, Or.inl rfl⟩
  have hhigh : char.toNat / 0x1000 = 0 ∧ char.toNat / 0x100 % 16 = 0 := by omega
  refine ⟨_, _, _, _, rfl, ?_, ?_, isHexDigit_hexDigit _, isHexDigit_hexDigit _⟩
  · rw [hhigh.1]
    exact hzero
  · rw [hhigh.2]
    exact hzero

theorem spells_escape_append (char : Char) {text chars : List Char} (hspells : Spells text chars) :
    Spells (char :: text) (escape char ++ chars) := by
  unfold escape
  split_ifs with hquote hbackslash hbackspace hformFeed hline hreturn htab hcontrol
  · subst hquote
    exact .letter (by decide) hspells
  · subst hbackslash
    exact .letter (by decide) hspells
  · subst hbackspace
    exact .letter (by decide) hspells
  · subst hformFeed
    exact .letter (by decide) hspells
  · subst hline
    exact .letter (by decide) hspells
  · subst hreturn
    exact .letter (by decide) hspells
  · subst htab
    exact .letter (by decide) hspells
  · exact .unit (isUnit_of_control hcontrol) hspells
  · exact .plain ⟨hquote, hbackslash, Nat.not_lt.mp hcontrol⟩ hspells

theorem spells_escape (text : List Char) : Spells text (text.flatMap escape) := by
  induction text with
  | nil => exact .nil
  | cons char text ih => exact spells_escape_append char ih

theorem readString_of_spells {text body blank : List Char} (hspells : Spells text body)
    (hblank : IsBlank blank) (rest : List Char) :
    readString (blank ++ (quoted body ++ rest)) = .ok (String.ofList text, rest) := by
  have hquote (chars : List Char) : skipSpace ('"' :: chars) = '"' :: chars := rfl
  rw [readString, skipSpace_append hblank]
  simp only [quoted, List.cons_append, List.append_assoc, List.nil_append, hquote,
    readQuoted_of_spells hspells]
  rfl

/-- Only strings are read as texts. -/
theorem exists_spells_of_readString {chars rest : List Char} {text : String}
    (hread : readString chars = .ok (text, rest)) :
    ∃ blank body, IsBlank blank ∧ Spells text.toList body ∧
      chars = blank ++ (quoted body ++ rest) := by
  have hblank : IsBlank (chars.takeWhile isSpace) :=
    fun char hchar => isSpace_iff.mp (List.mem_takeWhile_imp hchar)
  have hchars : chars = chars.takeWhile isSpace ++ skipSpace chars :=
    List.takeWhile_append_dropWhile.symm
  rw [readString] at hread
  split at hread
  next inside heq =>
    obtain ⟨⟨own, left⟩, hquoted, hpair⟩ := exists_of_map_eq_ok hread
    obtain ⟨rfl, rfl⟩ := Prod.mk.inj hpair
    obtain ⟨body, hspells, rfl⟩ := exists_spells_of_readQuoted hquoted
    refine ⟨_, body, hblank, ?_, ?_⟩
    · rwa [String.toList_ofList]
    · rw [heq] at hchars
      simpa [quoted] using hchars
  next => cases hread

end CameraHotplug.Json
