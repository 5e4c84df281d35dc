import CameraHotplug.Text.Utf8
import Mathlib.Data.List.Forall2
import Mathlib.Data.List.Infix
import Mathlib.Tactic.IntervalCases
import Mathlib.Tactic.SplitIfs

/-!
# Cutting bytes into pieces

Bytes are cut without loss: a piece that is a character consists of the bytes of that character, and
the pieces together are all bytes. The first byte of a character continues no sequence, so a
character is found wherever its bytes stand, whatever sequence is broken off before it. Both
together say that a text stands among the pieces exactly if its bytes stand among the bytes.
-/

namespace CameraHotplug.Utf8

/-! ### The bytes of a character -/

/-- The last six-bit digits of a code point, as the bytes that continue a sequence. -/
def tail : Nat → Nat → List UInt8
  | 0, _ => []
  | count + 1, code => UInt8.ofNat (code / 64 ^ count % 64 + 0x80) :: tail count code

theorem utf8EncodeChar_eq (char : Char) :
    String.utf8EncodeChar char =
      if char.toNat < 0x80 then [UInt8.ofNat char.toNat]
      else if char.toNat < 0x800 then UInt8.ofNat (char.toNat / 64 + 0xC0) :: tail 1 char.toNat
      else if char.toNat < 0x10000 then
        UInt8.ofNat (char.toNat / 64 ^ 2 + 0xE0) :: tail 2 char.toNat
      else UInt8.ofNat (char.toNat / 64 ^ 3 + 0xF0) :: tail 3 char.toNat := by
  have hrange : char.toNat < 0xD800 ∨ 0xDFFF < char.toNat ∧ char.toNat < 0x110000 := char.valid
  have hval : char.val.toNat = char.toNat := rfl
  simp only [String.utf8EncodeChar, hval, tail, Nat.reducePow, Nat.pow_zero, Nat.div_one,
    Nat.pow_one]
  by_cases hone : char.toNat < 0x80
  · rw [if_pos (by omega), if_pos hone]
  rw [if_neg (by omega), if_neg hone]
  by_cases htwo : char.toNat < 0x800
  · rw [if_pos (by omega), if_pos htwo, Nat.mod_eq_of_lt (by omega : char.toNat / 64 < 32)]
  rw [if_neg (by omega), if_neg htwo]
  by_cases hthree : char.toNat < 0x10000
  · rw [if_pos (by omega), if_pos hthree, Nat.mod_eq_of_lt (by omega : char.toNat / 4096 < 16)]
  · rw [if_neg (by omega), if_neg hthree, Nat.mod_eq_of_lt (by omega : char.toNat / 262144 < 8)]

theorem exists_char (code : Nat) (hcode : code < 0xD800 ∨ 0xDFFF < code ∧ code < 0x110000) :
    ∃ char : Char, char.toNat = code :=
  ⟨Char.ofNatAux code hcode, rfl⟩

/-! ### Sequences under way -/

/-- The first bytes of sequences, by the number of bytes that follow. -/
inductive Leads : UInt8 → Pending → Prop where
  | one {bits : Nat} (lower : 2 ≤ bits) (upper : bits < 32) :
    Leads (UInt8.ofNat (bits + 0xC0)) ⟨bits, 0, 0x80, 0xBF⟩
  | two {bits : Nat} (upper : bits < 16) :
    Leads (UInt8.ofNat (bits + 0xE0))
      ⟨bits, 1, if bits = 0 then 0xA0 else 0x80, if bits = 13 then 0x9F else 0xBF⟩
  | three {bits : Nat} (upper : bits ≤ 4) :
    Leads (UInt8.ofNat (bits + 0xF0))
      ⟨bits, 2, if bits = 0 then 0x90 else 0x80, if bits = 4 then 0x8F else 0xBF⟩

theorem pendingOf?_eq (byte : UInt8) :
    pendingOf? byte =
      if 0xC2 ≤ byte.toNat ∧ byte.toNat ≤ 0xDF then some ⟨byte.toNat - 0xC0, 0, 0x80, 0xBF⟩
      else if byte.toNat = 0xE0 then some ⟨0, 1, 0xA0, 0xBF⟩
      else if byte.toNat = 0xED then some ⟨13, 1, 0x80, 0x9F⟩
      else if 0xE1 ≤ byte.toNat ∧ byte.toNat ≤ 0xEF then
        some ⟨byte.toNat - 0xE0, 1, 0x80, 0xBF⟩
      else if byte.toNat = 0xF0 then some ⟨0, 2, 0x90, 0xBF⟩
      else if 0xF1 ≤ byte.toNat ∧ byte.toNat ≤ 0xF3 then
        some ⟨byte.toNat - 0xF0, 2, 0x80, 0xBF⟩
      else if byte.toNat = 0xF4 then some ⟨4, 2, 0x80, 0x8F⟩
      else none := by
  simp [pendingOf?, UInt8.le_iff_toNat_le, ← UInt8.toNat_inj]

theorem leads_of_pendingOf? {lead : UInt8} {pending : Pending}
    (hpending : pendingOf? lead = some pending) : Leads lead pending := by
  obtain ⟨number, hnumber⟩ : ∃ number, lead.toNat = number := ⟨_, rfl⟩
  obtain rfl : lead = UInt8.ofNat number := by rw [← hnumber, UInt8.ofNat_toNat]
  rw [pendingOf?_eq, hnumber] at hpending
  split_ifs at hpending with hone hE0 hED htwo hF0 hthree hF4
  · obtain rfl := Option.some.inj hpending
    have hleads := Leads.one (by omega : 2 ≤ number - 0xC0) (by omega)
    rwa [Nat.sub_add_cancel (by omega)] at hleads
  · obtain rfl := Option.some.inj hpending
    exact hE0 ▸ Leads.two (by omega : 0 < 16)
  · obtain rfl := Option.some.inj hpending
    exact hED ▸ Leads.two (by omega : 13 < 16)
  · obtain rfl := Option.some.inj hpending
    have hleads := Leads.two (by omega : number - 0xE0 < 16)
    rwa [Nat.sub_add_cancel (by omega), if_neg (by omega), if_neg (by omega)] at hleads
  · obtain rfl := Option.some.inj hpending
    exact hF0 ▸ Leads.three (by omega : 0 ≤ 4)
  · obtain rfl := Option.some.inj hpending
    have hleads := Leads.three (by omega : number - 0xF0 ≤ 4)
    rwa [Nat.sub_add_cancel (by omega), if_neg (by omega), if_neg (by omega)] at hleads
  · obtain rfl := Option.some.inj hpending
    exact hF4 ▸ Leads.three (by omega : 4 ≤ 4)

theorem Leads.pendingOf?_eq_some {lead : UInt8} {pending : Pending}
    (hleads : Leads lead pending) : pendingOf? lead = some pending := by
  cases hleads with
  | one lower upper =>
      rw [pendingOf?_eq, UInt8.toNat_ofNat_of_lt' (by change _ < 256; omega), if_pos (by omega),
        Nat.add_sub_cancel]
  | @two bits upper => interval_cases bits <;> rfl
  | @three bits upper => interval_cases bits <;> rfl

theorem Leads.lower {lead : UInt8} {pending : Pending} (hleads : Leads lead pending) :
    0xC0 ≤ lead.toNat := by
  cases hleads with
  | one => rw [UInt8.toNat_ofNat']; omega
  | two => rw [UInt8.toNat_ofNat']; omega
  | three => rw [UInt8.toNat_ofNat']; omega

theorem Pending.accepts_iff {pending : Pending} {byte : UInt8} :
    pending.accepts byte = true ↔
      pending.low.toNat ≤ byte.toNat ∧ byte.toNat ≤ pending.high.toNat := by
  simp [Pending.accepts, UInt8.le_iff_toNat_le]

/-- Whether a code point may come of the sequence: it begins with the bits so far, and the byte that
goes on with it is accepted. -/
def Pending.MayBecome (pending : Pending) (code : Nat) : Prop :=
  code / 64 ^ (pending.owed + 1) = pending.bits ∧
    pending.accepts (UInt8.ofNat (code / 64 ^ pending.owed % 64 + 0x80)) = true

theorem Pending.mayBecome_iff {pending : Pending} {code : Nat} :
    pending.MayBecome code ↔ code / 64 ^ (pending.owed + 1) = pending.bits ∧
      pending.low.toNat ≤ code / 64 ^ pending.owed % 64 + 0x80 ∧
      code / 64 ^ pending.owed % 64 + 0x80 ≤ pending.high.toNat := by
  rw [Pending.MayBecome, accepts_iff, UInt8.toNat_ofNat_of_lt' (by change _ < 256; omega)]

/-- The bits grow by those of the byte that goes on with the code point. -/
theorem Pending.MayBecome.bits_eq {pending : Pending} {code : Nat}
    (hcode : pending.MayBecome code) :
    64 * pending.bits + ((UInt8.ofNat (code / 64 ^ pending.owed % 64 + 0x80)).toNat - 0x80) =
      code / 64 ^ pending.owed := by
  have hbits := hcode.1
  rw [Nat.pow_succ, ← Nat.div_div_eq_div_mul] at hbits
  rw [UInt8.toNat_ofNat_of_lt' (by change _ < 256; omega)]
  omega

/-- Every character past the first 128 is written as a sequence. -/
theorem exists_leads {char : Char} (hlarge : 0x80 ≤ char.toNat) :
    ∃ lead pending, Leads lead pending ∧ pending.MayBecome char.toNat ∧
      String.utf8EncodeChar char = lead :: tail (pending.owed + 1) char.toNat := by
  have hrange : char.toNat < 0xD800 ∨ 0xDFFF < char.toNat ∧ char.toNat < 0x110000 := char.valid
  simp only [Pending.mayBecome_iff]
  rw [utf8EncodeChar_eq, if_neg (by omega)]
  by_cases htwo : char.toNat < 0x800
  · refine ⟨_, _, .one (by omega : 2 ≤ char.toNat / 64) (by omega), ?_, if_pos htwo⟩
    simp
    omega
  rw [if_neg htwo]
  by_cases hthree : char.toNat < 0x10000
  · refine ⟨_, _, .two (by omega : char.toNat / 64 ^ 2 < 16), ?_, if_pos hthree⟩
    dsimp only
    split_ifs <;> simp <;> omega
  · refine ⟨_, _, .three (by omega : char.toNat / 64 ^ 3 ≤ 4), ?_, if_neg hthree⟩
    dsimp only
    split_ifs <;> simp <;> omega

/-- The ranges of the second byte let nothing through but code points, and each in its shortest
form. -/
theorem Leads.exists_char_of_mayBecome {lead : UInt8} {pending : Pending}
    (hleads : Leads lead pending) {code : Nat} (hcode : pending.MayBecome code) :
    ∃ char : Char, char.toNat = code ∧
      String.utf8EncodeChar char = lead :: tail (pending.owed + 1) code := by
  obtain ⟨hbits, hlow, hhigh⟩ := Pending.mayBecome_iff.mp hcode
  cases hleads with
  | @one bits lower upper =>
      replace hbits : code / 64 ^ 1 = bits := hbits
      obtain ⟨char, rfl⟩ := exists_char code (by omega)
      refine ⟨char, rfl, ?_⟩
      rw [utf8EncodeChar_eq, if_neg (by omega), if_pos (by omega), ← hbits, Nat.pow_one]
  | @two bits upper =>
      replace hbits : code / 64 ^ 2 = bits := hbits
      have hrange : 0x800 ≤ code ∧ code < 0x10000 ∧ (code < 0xD800 ∨ 0xDFFF < code) := by
        dsimp only at hlow hhigh
        split_ifs at hlow hhigh <;> simp at hlow hhigh <;> omega
      obtain ⟨char, rfl⟩ := exists_char code (by omega)
      refine ⟨char, rfl, ?_⟩
      rw [utf8EncodeChar_eq, if_neg (by omega), if_neg (by omega), if_pos (by omega), ← hbits]
  | @three bits upper =>
      replace hbits : code / 64 ^ 3 = bits := hbits
      have hrange : 0x10000 ≤ code ∧ code < 0x110000 := by
        dsimp only at hlow hhigh
        split_ifs at hlow hhigh <;> simp at hlow hhigh <;> omega
      obtain ⟨char, rfl⟩ := exists_char code (by omega)
      refine ⟨char, rfl, ?_⟩
      rw [utf8EncodeChar_eq, if_neg (by omega), if_neg (by omega), if_neg (by omega), ← hbits]

/-! ### One byte -/

/-- The bytes held begin every character that may come of the sequence. -/
structure Pending.Stands (pending : Pending) (held : List UInt8) : Prop where
  low : 0x80 ≤ pending.low.toNat
  high : pending.high.toNat ≤ 0xBF
  completes : ∀ code, pending.MayBecome code → ∃ char : Char, char.toNat = code ∧
    String.utf8EncodeChar char = held ++ tail (pending.owed + 1) code

/-- Between characters nothing is held. -/
def Holds : Option Pending → List UInt8 → Prop
  | none, held => held = []
  | some pending, held => pending.Stands held

/-- A piece that is a character is cut from the bytes of that character. -/
def IsCutFrom (piece : Option Char) (chunk : List UInt8) : Prop :=
  ∀ char, piece = some char → chunk = String.utf8EncodeChar char

/-- The bytes so far are those of the pieces that have ended, and those that are held. -/
def Cuts (ended : List (Option Char)) (held bytes : List UInt8) : Prop :=
  ∃ chunks, List.Forall₂ IsCutFrom ended chunks ∧ chunks.flatten ++ held = bytes

theorem Leads.stands {lead : UInt8} {pending : Pending} (hleads : Leads lead pending) :
    pending.Stands [lead] := by
  refine ⟨?_, ?_, fun code hcode => hleads.exists_char_of_mayBecome hcode⟩
  · cases hleads with
    | one => exact Nat.le_refl 0x80
    | two => dsimp only; split_ifs <;> decide
    | three => dsimp only; split_ifs <;> decide
  · cases hleads with
    | one => exact Nat.le_refl 0xBF
    | two => dsimp only; split_ifs <;> decide
    | three => dsimp only; split_ifs <;> decide

theorem exists_cuts_start (byte : UInt8) :
    ∃ held, Holds (start byte).2 held ∧ Cuts (start byte).1 held [byte] := by
  unfold start
  by_cases hsmall : byte < 0x80
  · rw [if_pos hsmall]
    refine ⟨[], rfl, [[byte]], .cons ?_ .nil, rfl⟩
    intro char hchar
    replace hsmall : byte.toNat < 0x80 := UInt8.lt_iff_toNat_lt.mp hsmall
    obtain ⟨other, hother⟩ := exists_char byte.toNat (by omega)
    have hcode : char.toNat = byte.toNat := by
      rw [← Option.some.inj hchar, ← hother, Char.ofNat_toNat]
    rw [utf8EncodeChar_eq, hcode, if_pos hsmall, UInt8.ofNat_toNat]
  · rw [if_neg hsmall]
    cases hpending : pendingOf? byte with
    | none => exact ⟨[], rfl, [[byte]], .cons (fun _ => nofun) .nil, rfl⟩
    | some pending => exact ⟨[byte], (leads_of_pendingOf? hpending).stands, [], .nil, rfl⟩

/-- A code point whose next digits are those of an accepted byte. -/
theorem Pending.Stands.mayBecome {pending : Pending} {held : List UInt8}
    (hstands : pending.Stands held) {byte : UInt8} (haccepts : pending.accepts byte = true)
    {code : Nat} (hcode : code / 64 ^ pending.owed = 64 * pending.bits + (byte.toNat - 0x80)) :
    pending.MayBecome code ∧ UInt8.ofNat (code / 64 ^ pending.owed % 64 + 0x80) = byte := by
  have hlow := hstands.low
  have hhigh := hstands.high
  have hbyte := accepts_iff.mp haccepts
  have hnumber : code / 64 ^ pending.owed % 64 + 0x80 = byte.toNat := by omega
  have hnext : UInt8.ofNat (code / 64 ^ pending.owed % 64 + 0x80) = byte := by
    rw [hnumber, UInt8.ofNat_toNat]
  refine ⟨⟨?_, hnext.symm ▸ haccepts⟩, hnext⟩
  rw [Nat.pow_succ, ← Nat.div_div_eq_div_mul]
  omega

theorem Pending.Stands.exists_cuts_extend {pending : Pending} {held : List UInt8}
    (hstands : pending.Stands held) {byte : UInt8} (haccepts : pending.accepts byte = true) :
    ∃ next, Holds (pending.extend byte).2 next ∧
      Cuts (pending.extend byte).1 next (held ++ [byte]) := by
  obtain ⟨bits, owed, low, high⟩ := pending
  cases owed with
  | zero =>
      refine ⟨[], rfl, [held ++ [byte]], .cons ?_ .nil, by simp⟩
      intro char hchar
      obtain ⟨hcode, hnext⟩ := hstands.mayBecome haccepts (Nat.div_one _)
      obtain ⟨other, hother, hbytes⟩ := hstands.completes _ hcode
      have hsame : other = char := by
        rw [← Option.some.inj hchar, ← hother, Char.ofNat_toNat]
      rw [← hsame, hbytes, tail, tail, hnext]
  | succ owed =>
      refine ⟨held ++ [byte], ⟨Nat.le_refl 0x80, Nat.le_refl 0xBF, ?_⟩, [], .nil, rfl⟩
      intro code hbecomes
      obtain ⟨hcode, hnext⟩ := hstands.mayBecome haccepts hbecomes.1
      obtain ⟨char, hchar, hbytes⟩ := hstands.completes code hcode
      refine ⟨char, hchar, ?_⟩
      rw [hbytes, tail, hnext, List.append_assoc, List.singleton_append]

theorem step_of_accepts {pending : Pending} {byte : UInt8}
    (haccepts : pending.accepts byte = true) :
    step (some pending) byte = pending.extend byte :=
  if_pos haccepts

theorem step_of_not_accepts {pending : Pending} {byte : UInt8}
    (hrefuses : ¬ pending.accepts byte = true) :
    step (some pending) byte = (none :: (start byte).1, (start byte).2) :=
  if_neg hrefuses

/-- A byte that breaks a sequence off ends a piece of its own before it begins the next. -/
theorem Holds.exists_cuts_step {pending? : Option Pending} {held : List UInt8}
    (hholds : Holds pending? held) (byte : UInt8) :
    ∃ next, Holds (step pending? byte).2 next ∧
      Cuts (step pending? byte).1 next (held ++ [byte]) := by
  cases pending? with
  | none =>
      obtain rfl : held = [] := hholds
      exact exists_cuts_start byte
  | some pending =>
      by_cases haccepts : pending.accepts byte = true
      · rw [step_of_accepts haccepts]
        exact Pending.Stands.exists_cuts_extend hholds haccepts
      · rw [step_of_not_accepts haccepts]
        obtain ⟨next, hnext, chunks, hcut, hbytes⟩ := exists_cuts_start byte
        refine ⟨next, hnext, held :: chunks, .cons (fun _ => nofun) hcut, ?_⟩
        rw [List.flatten_cons, List.append_assoc, hbytes]

/-! ### All bytes -/

/-- Some bytes end the same pieces whatever follows them. -/
theorem Holds.exists_cuts_append {pending? : Option Pending} {held : List UInt8}
    (hholds : Holds pending? held) (front : List UInt8) :
    ∃ ended last? last, Holds last? last ∧ Cuts ended last (held ++ front) ∧
      ∀ rest, piecesFrom pending? (front ++ rest) = ended ++ piecesFrom last? rest := by
  induction front generalizing pending? held with
  | nil => exact ⟨[], pending?, held, hholds, ⟨[], .nil, by simp⟩, fun _ => rfl⟩
  | cons byte front ih =>
      obtain ⟨next, hnext, chunks, hcut, hbytes⟩ := hholds.exists_cuts_step byte
      obtain ⟨ended, last?, last, hlast, ⟨more, hmore, hall⟩, hrest⟩ := ih hnext
      refine ⟨(step pending? byte).1 ++ ended, last?, last, hlast,
        ⟨chunks ++ more, List.rel_append hcut hmore, ?_⟩, ?_⟩
      · rw [List.flatten_append, List.append_assoc, hall, ← List.append_assoc, hbytes,
          List.append_assoc, List.singleton_append]
      · intro rest
        rw [List.cons_append, piecesFrom, hrest, List.append_assoc]

theorem cuts_pieces (bytes : List UInt8) : Cuts (pieces bytes) [] bytes := by
  have hstart : Holds none [] := rfl
  obtain ⟨ended, last?, last, hlast, ⟨chunks, hcut, hbytes⟩, hrest⟩ :=
    hstart.exists_cuts_append bytes
  have hpieces : pieces bytes = ended ++ piecesFrom last? [] := by
    rw [pieces, ← hrest, List.append_nil]
  rw [hpieces]
  cases last? with
  | none =>
      obtain rfl : last = [] := hlast
      rw [piecesFrom, List.append_nil]
      exact ⟨chunks, hcut, hbytes⟩
  | some pending =>
      refine ⟨chunks ++ [last], List.rel_append hcut (.cons (fun _ => nofun) .nil), ?_⟩
      rw [List.flatten_append, List.flatten_singleton, List.append_nil]
      exact hbytes

theorem exists_chunks_append {left right : List (Option Char)} {chunks : List (List UInt8)}
    (hcut : List.Forall₂ IsCutFrom (left ++ right) chunks) :
    ∃ first second, chunks = first ++ second ∧ List.Forall₂ IsCutFrom left first ∧
      List.Forall₂ IsCutFrom right second :=
  ⟨chunks.take left.length, chunks.drop left.length, (List.take_append_drop _ _).symm,
    (List.forall₂_take_append _ _ _ hcut.flip).flip,
    (List.forall₂_drop_append _ _ _ hcut.flip).flip⟩

theorem flatten_eq_encode {text : List Char} {chunks : List (List UInt8)}
    (hcut : List.Forall₂ IsCutFrom (text.map some) chunks) : chunks.flatten = encode text := by
  induction text generalizing chunks with
  | nil =>
      cases hcut
      rfl
  | cons char text ih =>
      cases hcut with
      | cons hchar hrest =>
          rw [List.flatten_cons, ih hrest, hchar char rfl, encode, encode, List.flatMap_cons]

/-! ### Characters are found -/

theorem piecesFrom_tail {pending : Pending} {code : Nat} (hcode : pending.MayBecome code)
    (rest : List UInt8) :
    piecesFrom (some pending) (tail (pending.owed + 1) code ++ rest) =
      some (Char.ofNat code) :: piecesFrom none rest := by
  obtain ⟨bits, owed, low, high⟩ := pending
  induction owed generalizing bits low high with
  | zero =>
      have hbits := hcode.bits_eq
      rw [tail, List.cons_append, piecesFrom, step_of_accepts hcode.2]
      dsimp only [Pending.extend] at hbits ⊢
      rw [hbits, Nat.pow_zero, Nat.div_one]
      rfl
  | succ owed ih =>
      have hbits := hcode.bits_eq
      have hnext : (Pending.mk (code / 64 ^ (owed + 1)) owed 0x80 0xBF).MayBecome code := by
        rw [Pending.mayBecome_iff]
        refine ⟨rfl, Nat.le_add_left _ _, ?_⟩
        change code / 64 ^ owed % 64 + 0x80 ≤ 0xBF
        omega
      rw [tail, List.cons_append, piecesFrom, step_of_accepts hcode.2]
      dsimp only [Pending.extend] at hbits ⊢
      rw [hbits]
      exact ih _ _ _ hnext

theorem piecesFrom_char (char : Char) (rest : List UInt8) :
    piecesFrom none (String.utf8EncodeChar char ++ rest) = some char :: piecesFrom none rest := by
  by_cases hsmall : char.toNat < 0x80
  · have hnumber : (UInt8.ofNat char.toNat).toNat = char.toNat :=
      UInt8.toNat_ofNat_of_lt' (Nat.lt_trans hsmall (by decide))
    have hbyte : UInt8.ofNat char.toNat < 0x80 := by
      rw [UInt8.lt_iff_toNat_lt, hnumber]
      exact hsmall
    rw [utf8EncodeChar_eq, if_pos hsmall, List.singleton_append, piecesFrom, step, start,
      if_pos hbyte, hnumber, Char.ofNat_toNat]
    rfl
  · obtain ⟨lead, pending, hleads, hcode, hbytes⟩ := exists_leads (Nat.le_of_not_lt hsmall)
    have hlead : ¬ lead < 0x80 := by
      rw [UInt8.lt_iff_toNat_lt]
      exact Nat.not_lt.mpr (Nat.le_trans (by decide) hleads.lower)
    have hstart : start lead = ([], some pending) := by
      rw [start, if_neg hlead, hleads.pendingOf?_eq_some]
    rw [hbytes, List.cons_append, piecesFrom, step, hstart, List.nil_append,
      piecesFrom_tail hcode, Char.ofNat_toNat]

theorem piecesFrom_encode (text : List Char) (rest : List UInt8) :
    piecesFrom none (encode text ++ rest) = text.map some ++ piecesFrom none rest := by
  induction text with
  | nil => rfl
  | cons char text ih =>
      rw [encode, List.flatMap_cons, List.append_assoc, piecesFrom_char, ← encode, ih,
        List.map_cons, List.cons_append]

/-- The first byte of a character lies outside all ranges of bytes that continue a sequence. -/
theorem exists_first_byte (char : Char) :
    ∃ first others, String.utf8EncodeChar char = first :: others ∧
      (first.toNat < 0x80 ∨ 0xC0 ≤ first.toNat) := by
  by_cases hsmall : char.toNat < 0x80
  · refine ⟨UInt8.ofNat char.toNat, [], ?_, Or.inl ?_⟩
    · rw [utf8EncodeChar_eq, if_pos hsmall]
    · rw [UInt8.toNat_ofNat_of_lt' (Nat.lt_trans hsmall (by decide))]
      exact hsmall
  · obtain ⟨lead, pending, hleads, -, hbytes⟩ := exists_leads (Nat.le_of_not_lt hsmall)
    exact ⟨lead, _, hbytes, Or.inr hleads.lower⟩

theorem Pending.Stands.piecesFrom_char {pending : Pending} {held : List UInt8}
    (hstands : pending.Stands held) (char : Char) (rest : List UInt8) :
    piecesFrom (some pending) (String.utf8EncodeChar char ++ rest) =
      none :: piecesFrom none (String.utf8EncodeChar char ++ rest) := by
  obtain ⟨first, others, hbytes, hfirst⟩ := exists_first_byte char
  have hlow := hstands.low
  have hhigh := hstands.high
  have hrefuses : ¬ pending.accepts first = true := by
    rw [accepts_iff]
    omega
  rw [hbytes, List.cons_append, piecesFrom, step_of_not_accepts hrefuses, piecesFrom]
  rfl

/-- A text is found wherever its bytes stand: what was under way before them is broken off by the
first of them. -/
theorem Holds.map_some_infix {pending? : Option Pending} {held : List UInt8}
    (hholds : Holds pending? held) (text : List Char) (rest : List UInt8) :
    text.map some <:+: piecesFrom pending? (encode text ++ rest) := by
  have hafresh : text.map some <:+: piecesFrom none (encode text ++ rest) := by
    rw [piecesFrom_encode]
    exact (List.prefix_append _ _).isInfix
  cases pending? with
  | none => exact hafresh
  | some pending =>
      cases text with
      | nil => exact List.nil_infix
      | cons char text =>
          rw [encode, List.flatMap_cons, List.append_assoc] at hafresh ⊢
          rw [Pending.Stands.piecesFrom_char hholds]
          exact hafresh.trans (List.suffix_cons _ _).isInfix

theorem map_some_infix_pieces_iff (text : List Char) (bytes : List UInt8) :
    text.map some <:+: pieces bytes ↔ encode text <:+: bytes := by
  constructor
  · rintro ⟨before, after, hpieces⟩
    obtain ⟨chunks, hcut, rfl⟩ := cuts_pieces bytes
    rw [← hpieces] at hcut
    obtain ⟨upTo, last, rfl, hupTo, -⟩ := exists_chunks_append hcut
    obtain ⟨first, own, rfl, -, hown⟩ := exists_chunks_append hupTo
    refine ⟨first.flatten, last.flatten, ?_⟩
    rw [List.append_nil, List.flatten_append, List.flatten_append, flatten_eq_encode hown]
  · rintro ⟨front, back, rfl⟩
    have hstart : Holds none [] := rfl
    obtain ⟨ended, last?, last, hlast, -, hrest⟩ := hstart.exists_cuts_append front
    rw [pieces, List.append_assoc, hrest]
    exact (hlast.map_some_infix text back).trans (List.suffix_append _ _).isInfix

/-! ### Well-formed bytes -/

theorem pieces_encode (text : List Char) : pieces (encode text) = text.map some := by
  have hpieces := piecesFrom_encode text []
  rwa [List.append_nil, piecesFrom, List.append_nil] at hpieces

theorem mapM_id_eq_some_iff {own : List (Option Char)} {text : List Char} :
    own.mapM id = some text ↔ own = text.map some := by
  induction own generalizing text with
  | nil => cases text <;> simp
  | cons piece own ih =>
      cases text with
      | nil => simp [Option.bind_eq_some_iff]
      | cons char text => simp [List.mapM_cons, Option.bind_eq_some_iff, ih]

theorem decode?_eq_some_iff {bytes : List UInt8} {text : List Char} :
    decode? bytes = some text ↔ bytes = encode text := by
  rw [decode?, mapM_id_eq_some_iff]
  constructor
  · intro hpieces
    obtain ⟨chunks, hcut, hbytes⟩ := cuts_pieces bytes
    rw [hpieces] at hcut
    rw [← hbytes, List.append_nil, flatten_eq_encode hcut]
  · rintro rfl
    exact pieces_encode text

end CameraHotplug.Utf8
