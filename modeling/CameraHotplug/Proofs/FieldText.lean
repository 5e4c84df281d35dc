import CameraHotplug.Kernel
import CameraHotplug.Proofs.Utf8Pieces
import CameraHotplug.Text.Affix
import Mathlib.Data.List.TakeWhile

/-!
# Markers in texts of fixed size

A driver is known by a marker in its name, and the name comes as bytes that may hold anything. What
is malformed in them hides no marker and makes none up, because U+FFFD stands for every malformed
piece and for nothing else that a marker could ask for.
-/

namespace CameraHotplug

namespace Utf8

theorem eq_map_some_of_not_mem {own : List (Option Char)}
    (hknown : '\uFFFD' ∉ own.map (·.getD '\uFFFD')) :
    own = (own.map (·.getD '\uFFFD')).map some := by
  have hsome : ∀ piece ∈ own, some (piece.getD '\uFFFD') = piece := by
    intro piece hpiece
    cases piece with
    | none => exact absurd (List.mem_map_of_mem hpiece) hknown
    | some char => rfl
  calc
    own = own.map id := (List.map_id own).symm
    _ = own.map fun piece => some (piece.getD '\uFFFD') :=
      List.map_congr_left fun piece hpiece => (hsome piece hpiece).symm
    _ = (own.map (·.getD '\uFFFD')).map some := List.map_map.symm

theorem infix_lossy_iff {text : List Char} (htext : '\uFFFD' ∉ text) (bytes : List UInt8) :
    text <:+: lossy bytes ↔ encode text <:+: bytes := by
  rw [← map_some_infix_pieces_iff, lossy]
  constructor
  · rintro ⟨before, after, hlossy⟩
    obtain ⟨upTo, last, hpieces, hupTo, -⟩ := List.map_eq_append_iff.mp hlossy.symm
    obtain ⟨first, own, rfl, -, rfl⟩ := List.map_eq_append_iff.mp hupTo
    refine ⟨first, last, ?_⟩
    rw [hpieces, ← eq_map_some_of_not_mem htext]
  · intro hinfix
    have hlossy := hinfix.map (·.getD '\uFFFD')
    rw [List.map_map] at hlossy
    exact (List.map_id text).symm ▸ hlossy

example : lossy [0xE2, 0x82, 0x41] = ['\uFFFD', 'A'] := by decide

theorem lossy_encode (text : List Char) : lossy (encode text) = text := by
  rw [lossy, pieces_encode, List.map_map]
  exact List.map_id text

theorem zero_not_mem_lossy {bytes : List UInt8} (hbytes : 0 ∉ bytes) : '\x00' ∉ lossy bytes := by
  rw [← List.singleton_infix_iff, infix_lossy_iff (by decide)]
  exact fun hinfix => hbytes ((List.singleton_infix_iff 0 bytes).mp hinfix)

end Utf8

namespace Kernel

theorem takeWhile_append_zero (bytes rest : List UInt8) :
    (bytes ++ 0 :: rest).takeWhile (· ≠ 0) = bytes.takeWhile (· ≠ 0) := by
  rw [List.takeWhile_append]
  by_cases hall : (bytes.takeWhile (· ≠ 0)).length = bytes.length
  · rw [if_pos hall, List.takeWhile_cons_of_neg (by simp), List.append_nil]
    exact ((List.takeWhile_prefix _).eq_of_length hall).symm
  · rw [if_neg hall]

/-- The text of a field contains a marker exactly if the bytes before the first zero byte contain
those of the marker, whatever malformed pieces stand around them. Bytes after a zero byte do not
matter, the text holds no zero character, and bytes that are well-formed are read exactly. -/
theorem fieldText_keeps_markers (bytes : List UInt8) {marker : String}
    (hmarker : '\uFFFD' ∉ marker.toList) :
    (Text.contains (fieldText bytes) marker = true ↔
      Utf8.encode marker.toList <:+: bytes.takeWhile (· ≠ 0)) ∧
    (∀ rest, fieldText (bytes ++ 0 :: rest) = fieldText bytes) ∧
    '\x00' ∉ (fieldText bytes).toList ∧
    (∀ text, bytes.takeWhile (· ≠ 0) = Utf8.encode text →
      fieldText bytes = String.ofList text) := by
  refine ⟨?_, ?_, ?_, ?_⟩
  · rw [Text.contains, Text.occurs_iff_infix, fieldText, String.toList_ofList,
      Utf8.infix_lossy_iff hmarker]
  · intro rest
    rw [fieldText, takeWhile_append_zero, fieldText]
  · rw [fieldText, String.toList_ofList]
    apply Utf8.zero_not_mem_lossy
    intro hmem
    simpa using List.mem_takeWhile_imp hmem
  · intro text htext
    rw [fieldText, htext, Utf8.lossy_encode]

/-- A sequence of three bytes broken off after two, a marker, a sequence of four bytes broken off
after three, and what an earlier name left behind the zero byte. -/
def brokenField : List UInt8 :=
  [0xE2, 0x82, 0x75, 0x76, 0x63, 0xF0, 0x9F, 0x98, 0x00, 0x63, 0x61, 0x70, 0x00, 0x00, 0x00, 0x00]

theorem brokenField_keeps_uvc :
    '\uFFFD' ∉ "uvc".toList ∧ Text.contains (fieldText brokenField) "uvc" = true ∧
      '\uFFFD' ∉ "cap".toList ∧ ¬ Text.contains (fieldText brokenField) "cap" = true ∧
      fieldText (brokenField ++ [0x00, 0x21]) = fieldText brokenField := by
  have huvc : '\uFFFD' ∉ "uvc".toList := by decide
  have hcap : '\uFFFD' ∉ "cap".toList := by decide
  refine ⟨huvc, ?_, hcap, ?_, ?_⟩
  · rw [(fieldText_keeps_markers brokenField huvc).1]
    decide
  · rw [(fieldText_keeps_markers brokenField hcap).1]
    decide
  · exact (fieldText_keeps_markers brokenField huvc).2.1 [0x21]

end Kernel

end CameraHotplug
