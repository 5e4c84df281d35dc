import CameraHotplug.FourCC
import CameraHotplug.Proofs.Utf8Pieces

/-!
# One text, one pixel format

A pixel format is shown as the characters that its bytes spell, or byte by byte if they spell none.
Characters are no more than the bytes that spell them. Bytes that spell nothing have one among them
that takes four characters, so the two kinds of text differ in length. Within each kind the bytes can
be read back: no escape begins another.
-/

namespace CameraHotplug

namespace FourCC

/-! ### Number and bytes -/

/-- A byte put above a number of `count` bits. -/
theorem toNat_or_shiftLeft {number : UInt32} {count : UInt32} {byte : UInt8}
    (hcount : count.toNat ≤ 24) (hnumber : number.toNat < 2 ^ count.toNat) :
    (number ||| byte.toUInt32 <<< count).toNat = number.toNat + 2 ^ count.toNat * byte.toNat := by
  have hbyte := byte.toNat_lt
  have hpower : 2 ^ count.toNat ≤ 2 ^ 24 := Nat.pow_le_pow_right (by decide) hcount
  have hsmall : byte.toNat <<< count.toNat < 2 ^ 32 := by
    rw [Nat.shiftLeft_eq]
    calc
      byte.toNat * 2 ^ count.toNat ≤ byte.toNat * 2 ^ 24 := Nat.mul_le_mul_left _ hpower
      _ < 2 ^ 32 := by omega
  have hshift : count.toNat % 32 = count.toNat := by omega
  rw [UInt32.toNat_or, UInt32.toNat_shiftLeft, UInt8.toNat_toUInt32, hshift,
    Nat.mod_eq_of_lt hsmall, Nat.or_comm, ← Nat.shiftLeft_add_eq_or_of_lt hnumber,
    Nat.shiftLeft_eq, Nat.mul_comm, Nat.add_comm]

theorem toNat_code_ofBytes (first second third fourth : UInt8) :
    (ofBytes first second third fourth).code.toNat =
      first.toNat + 256 * second.toNat + 65536 * third.toNat + 16777216 * fourth.toNat := by
  have hfirst := first.toNat_lt
  have hsecond := second.toNat_lt
  have hthird := third.toNat_lt
  have htwo : (first.toUInt32 ||| second.toUInt32 <<< 8).toNat =
      first.toNat + 256 * second.toNat :=
    toNat_or_shiftLeft (by decide) hfirst
  have hthree : (first.toUInt32 ||| second.toUInt32 <<< 8 ||| third.toUInt32 <<< 16).toNat =
      first.toNat + 256 * second.toNat + 65536 * third.toNat := by
    rw [← htwo]
    exact toNat_or_shiftLeft (by decide) (by rw [htwo]; change _ < 65536; omega)
  rw [← hthree]
  exact toNat_or_shiftLeft (by decide) (by rw [hthree]; change _ < 16777216; omega)

theorem bytes_eq (format : FourCC) :
    format.bytes =
      [UInt8.ofNat format.code.toNat, UInt8.ofNat (format.code.toNat / 256),
        UInt8.ofNat (format.code.toNat / 65536), UInt8.ofNat (format.code.toNat / 16777216)] := by
  have hbyte : ∀ count : UInt32, count.toNat < 32 →
      (format.code >>> count).toUInt8 = UInt8.ofNat (format.code.toNat / 2 ^ count.toNat) := by
    intro count hcount
    apply UInt8.toNat_inj.mp
    rw [UInt32.toNat_toUInt8, UInt32.toNat_shiftRight, UInt8.toNat_ofNat', Nat.shiftRight_eq_div_pow,
      Nat.mod_eq_of_lt hcount]
  rw [bytes, hbyte 8 (by decide), hbyte 16 (by decide), hbyte 24 (by decide)]
  rfl

/-- A format and its four bytes determine each other. -/
theorem bytes_eq_iff {format : FourCC} {first second third fourth : UInt8} :
    format.bytes = [first, second, third, fourth] ↔
      ofBytes first second third fourth = format := by
  have hcode := toNat_code_ofBytes first second third fourth
  have hnumber := format.code.toNat_lt
  have hfirst := first.toNat_lt
  have hsecond := second.toNat_lt
  have hthird := third.toNat_lt
  have hfourth := fourth.toNat_lt
  constructor
  · intro hbytes
    simp only [bytes_eq, List.cons.injEq, ← UInt8.toNat_inj, UInt8.toNat_ofNat', and_true] at hbytes
    obtain ⟨hone, htwo, hthree, hfour⟩ := hbytes
    have hsame : (ofBytes first second third fourth).code = format.code :=
      UInt32.toNat_inj.mp (by omega)
    exact congrArg FourCC.mk hsame
  · rintro rfl
    simp only [bytes_eq, hcode, List.cons.injEq, ← UInt8.toNat_inj, UInt8.toNat_ofNat', and_true]
    omega

/-! ### Escaped bytes -/

/-- The bytes that have a mark of their own behind the backslash. -/
def marks : List (UInt8 × Char) :=
  [(0x09, 't'), (0x0D, 'r'), (0x0A, 'n'), (0x27, '\''), (0x22, '"'), (0x5C, '\\')]

theorem eq_of_mem_marks {left right : UInt8} {mark : Char} (hleft : (left, mark) ∈ marks)
    (hright : (right, mark) ∈ marks) : left = right := by
  have hmarks : ∀ entry ∈ marks, ∀ other ∈ marks, entry.2 = other.2 → entry.1 = other.1 := by
    decide
  exact hmarks _ hleft _ hright rfl

theorem ne_of_mem_marks {byte : UInt8} {mark : Char} (hmark : (byte, mark) ∈ marks) :
    mark ≠ 'x' := by
  have hmarks : ∀ entry ∈ marks, entry.2 ≠ 'x' := by decide
  exact hmarks _ hmark

/-- A byte stands for itself as a character, or a backslash comes before what stands for it. -/
inductive Written : UInt8 → List Char → Prop where
  | plain {byte : UInt8} {char : Char} (hchar : char ≠ '\\') (hcode : char.toNat = byte.toNat)
    (hsmall : byte.toNat < 0x80) : Written byte [char]
  | marked {byte : UInt8} {mark : Char} (hmark : (byte, mark) ∈ marks) :
    Written byte ['\\', mark]
  | coded (byte : UInt8) : Written byte ('\\' :: 'x' :: hexDigits byte)

theorem written_escape (byte : UInt8) : Written byte (escape byte) := by
  unfold escape
  split_ifs with htab hreturn hline hquote hquotes hback hprintable
  · exact .marked (by simp [htab, marks])
  · exact .marked (by simp [hreturn, marks])
  · exact .marked (by simp [hline, marks])
  · exact .marked (by simp [hquote, marks])
  · exact .marked (by simp [hquotes, marks])
  · exact .marked (by simp [hback, marks])
  · have hsmall : byte.toNat ≤ 0x7E := by
      simp only [Bool.and_eq_true, decide_eq_true_eq, UInt8.le_iff_toNat_le] at hprintable
      exact hprintable.2
    obtain ⟨char, hcode⟩ := Utf8.exists_char byte.toNat (by omega)
    rw [← hcode, Char.ofNat_toNat]
    refine .plain ?_ hcode (by omega)
    rintro rfl
    exact hback (UInt8.toNat_inj.mp hcode.symm)
  · exact .coded byte

theorem hexDigits_injective {left right : UInt8} (hdigits : hexDigits left = hexDigits right) :
    left = right := by
  have hinjective : ∀ first second : Fin 16,
      Nat.digitChar first = Nat.digitChar second → first = second := by decide
  have hleft := left.toNat_lt
  have hright := right.toNat_lt
  simp only [hexDigits, List.cons.injEq, and_true] at hdigits
  have hhigh := hinjective ⟨left.toNat / 16, by omega⟩ ⟨right.toNat / 16, by omega⟩ hdigits.1
  have hlow := hinjective ⟨left.toNat % 16, by omega⟩ ⟨right.toNat % 16, by omega⟩ hdigits.2
  rw [Fin.mk.injEq] at hhigh hlow
  exact UInt8.toNat_inj.mp (by omega)

/-- No escape begins another. -/
theorem Written.cancel {left right : UInt8} {text other rest others : List Char}
    (hleft : Written left text) (hright : Written right other)
    (happend : text ++ rest = other ++ others) : left = right ∧ rest = others := by
  cases hleft with
  | plain hchar hcode _ =>
      cases hright with
      | plain hother hotherCode _ =>
          obtain ⟨rfl, hrest⟩ := List.cons.inj happend
          exact ⟨UInt8.toNat_inj.mp (hcode.symm.trans hotherCode), hrest⟩
      | marked hmark => exact absurd (List.cons.inj happend).1 hchar
      | coded => exact absurd (List.cons.inj happend).1 hchar
  | marked hmark =>
      cases hright with
      | plain hother _ _ => exact absurd (List.cons.inj happend).1.symm hother
      | marked hother =>
          obtain ⟨rfl, hrest⟩ := List.cons.inj (List.cons.inj happend).2
          exact ⟨eq_of_mem_marks hmark hother, hrest⟩
      | coded =>
          exact absurd (List.cons.inj (List.cons.inj happend).2).1 (ne_of_mem_marks hmark)
  | coded =>
      cases hright with
      | plain hother _ _ => exact absurd (List.cons.inj happend).1.symm hother
      | marked hother =>
          exact absurd (List.cons.inj (List.cons.inj happend).2).1.symm (ne_of_mem_marks hother)
      | coded =>
          obtain ⟨hdigits, hrest⟩ :=
            List.append_inj (List.cons.inj (List.cons.inj happend).2).2 rfl
          exact ⟨hexDigits_injective hdigits, hrest⟩

theorem escape_ne_nil (byte : UInt8) : escape byte ≠ [] := by
  intro hnil
  have hwritten := written_escape byte
  rw [hnil] at hwritten
  cases hwritten

theorem flatMap_escape_injective {left right : List UInt8}
    (htext : left.flatMap escape = right.flatMap escape) : left = right := by
  induction left generalizing right with
  | nil =>
      cases right with
      | nil => rfl
      | cons byte right =>
          exact absurd (List.append_eq_nil_iff.mp htext.symm).1 (escape_ne_nil byte)
  | cons byte left ih =>
      cases right with
      | nil => exact absurd (List.append_eq_nil_iff.mp htext).1 (escape_ne_nil byte)
      | cons other right =>
          rw [List.flatMap_cons, List.flatMap_cons] at htext
          obtain ⟨rfl, hrest⟩ := (written_escape byte).cancel (written_escape other) htext
          rw [ih hrest]

/-! ### The two kinds of text -/

theorem length_le_flatMap {α β : Type} {write : α → List β} (hwrite : ∀ item, write item ≠ [])
    (items : List α) : items.length ≤ (items.flatMap write).length := by
  induction items with
  | nil => exact Nat.le_refl 0
  | cons item items ih =>
      have hitem := List.length_pos_iff.mpr (hwrite item)
      rw [List.flatMap_cons, List.length_append, List.length_cons]
      omega

theorem length_le_of_decode? {bytes : List UInt8} {text : List Char}
    (htext : Utf8.decode? bytes = some text) : text.length ≤ bytes.length := by
  have hchar : ∀ char, String.utf8EncodeChar char ≠ [] := by
    intro char
    obtain ⟨first, others, hbytes, -⟩ := Utf8.exists_first_byte char
    exact hbytes ▸ List.cons_ne_nil first others
  rw [Utf8.decode?_eq_some_iff.mp htext]
  exact length_le_flatMap hchar text

/-- Bytes of the lower half spell one character each. -/
theorem encode_map_ofNat {bytes : List UInt8} (hbytes : ∀ byte ∈ bytes, byte.toNat < 0x80) :
    Utf8.encode (bytes.map fun byte => Char.ofNat byte.toNat) = bytes := by
  induction bytes with
  | nil => rfl
  | cons byte bytes ih =>
      have hsmall := hbytes byte List.mem_cons_self
      obtain ⟨char, hcode⟩ := Utf8.exists_char byte.toNat (by omega)
      have hchar : String.utf8EncodeChar (Char.ofNat byte.toNat) = [byte] := by
        rw [← hcode, Char.ofNat_toNat, Utf8.utf8EncodeChar_eq, hcode, if_pos hsmall,
          UInt8.ofNat_toNat]
      have hrest := ih fun other hother => hbytes other (List.mem_cons_of_mem _ hother)
      rw [List.map_cons, Utf8.encode, List.flatMap_cons, hchar, ← Utf8.encode, hrest]
      rfl

theorem exists_large_of_decode?_eq_none {bytes : List UInt8}
    (hnone : Utf8.decode? bytes = none) : ∃ byte ∈ bytes, 0x80 ≤ byte.toNat := by
  by_contra hsmall
  push Not at hsmall
  have htext := Utf8.decode?_eq_some_iff.mpr (encode_map_ofNat hsmall).symm
  exact nomatch hnone.symm.trans htext

theorem Written.length_of_large {byte : UInt8} {text : List Char} (hwritten : Written byte text)
    (hlarge : 0x80 ≤ byte.toNat) : text.length = 4 := by
  cases hwritten with
  | plain _ _ hsmall => omega
  | marked hmark =>
      have hmarks : ∀ entry ∈ marks, entry.1.toNat < 0x80 := by decide
      have hsmall : byte.toNat < 0x80 := hmarks _ hmark
      omega
  | coded => rfl

theorem length_lt_of_decode?_eq_none {bytes : List UInt8} (hnone : Utf8.decode? bytes = none) :
    bytes.length < (bytes.flatMap escape).length := by
  obtain ⟨byte, hbyte, hlarge⟩ := exists_large_of_decode?_eq_none hnone
  obtain ⟨before, after, rfl⟩ := List.append_of_mem hbyte
  have hbefore := length_le_flatMap escape_ne_nil before
  have hafter := length_le_flatMap escape_ne_nil after
  have hfour := (written_escape byte).length_of_large hlarge
  simp only [List.flatMap_append, List.flatMap_cons, List.length_append, List.length_cons]
  omega

theorem chars_of_some {format : FourCC} {text : List Char}
    (htext : Utf8.decode? format.bytes = some text) : format.chars = text := by
  rw [chars, htext, Option.getD_some]

theorem chars_of_none {format : FourCC} (hnone : Utf8.decode? format.bytes = none) :
    format.chars = format.bytes.flatMap escape := by
  rw [chars, hnone, Option.getD_none]

/-- Characters that the bytes spell are fewer than those of any format whose bytes spell none. -/
theorem chars_ne_of_some_of_none {left right : FourCC} {text : List Char}
    (hleft : Utf8.decode? left.bytes = some text) (hright : Utf8.decode? right.bytes = none) :
    left.chars ≠ right.chars := by
  intro hchars
  have hshort : text.length ≤ 4 := length_le_of_decode? hleft
  have hlong : 4 < (right.bytes.flatMap escape).length := length_lt_of_decode?_eq_none hright
  rw [chars_of_some hleft, chars_of_none hright] at hchars
  rw [← hchars] at hlong
  omega

theorem bytes_eq_of_chars_eq {left right : FourCC} (hchars : left.chars = right.chars) :
    left.bytes = right.bytes := by
  cases hleft : Utf8.decode? left.bytes with
  | none =>
      cases hright : Utf8.decode? right.bytes with
      | none =>
          rw [chars_of_none hleft, chars_of_none hright] at hchars
          exact flatMap_escape_injective hchars
      | some text => exact absurd hchars.symm (chars_ne_of_some_of_none hright hleft)
  | some text =>
      cases hright : Utf8.decode? right.bytes with
      | none => exact absurd hchars (chars_ne_of_some_of_none hleft hright)
      | some other =>
          rw [chars_of_some hleft, chars_of_some hright] at hchars
          rw [Utf8.decode?_eq_some_iff.mp hleft, Utf8.decode?_eq_some_iff.mp hright, hchars]

theorem eq_of_bytes_eq {left right : FourCC} (hbytes : left.bytes = right.bytes) :
    left = right :=
  (bytes_eq_iff.mp hbytes).symm.trans (bytes_eq_iff.mp rfl)

/-- Two formats with the same text are the same, be it as bytes or as numbers. The four bytes and
the number of a format give each other back. -/
theorem text_tells_formats_apart :
    (∀ left right : FourCC, left.text = right.text ↔ left.bytes = right.bytes) ∧
    (∀ left right : UInt32, (FourCC.mk left).text = (FourCC.mk right).text ↔ left = right) ∧
    (∀ first second third fourth : UInt8,
      (ofBytes first second third fourth).bytes = [first, second, third, fourth]) ∧
    ∀ code : UInt32, ∃ first second third fourth : UInt8,
      (FourCC.mk code).bytes = [first, second, third, fourth] ∧
        (ofBytes first second third fourth).code = code := by
  have htext : ∀ left right : FourCC, left.text = right.text ↔ left.bytes = right.bytes := by
    intro left right
    constructor
    · exact fun heq => bytes_eq_of_chars_eq (String.ofList_injective heq)
    · exact fun heq => congrArg text (eq_of_bytes_eq heq)
  refine ⟨htext, ?_, ?_, ?_⟩
  · intro left right
    rw [htext]
    exact ⟨fun heq => congrArg code (eq_of_bytes_eq heq), fun heq => heq ▸ rfl⟩
  · exact fun first second third fourth => bytes_eq_iff.mpr rfl
  · intro number
    exact ⟨_, _, _, _, rfl, congrArg code (bytes_eq_iff.mp rfl)⟩

/-- Four bytes that spell an escape are shown as they are. -/
example : (ofBytes 0x5C 0x78 0x66 0x66).text = "\\xff" := by decide

end FourCC

end CameraHotplug
