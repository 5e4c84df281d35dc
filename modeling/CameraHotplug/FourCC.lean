import CameraHotplug.Text.Utf8

/-!
Pixel format codes: four bytes, the first in the lowest byte of the number.
-/

namespace CameraHotplug

structure FourCC where
  code : UInt32
  deriving DecidableEq, Repr

namespace FourCC

def bytes (format : FourCC) : List UInt8 :=
  [format.code.toUInt8, (format.code >>> 8).toUInt8, (format.code >>> 16).toUInt8,
    (format.code >>> 24).toUInt8]

def ofBytes (first second third fourth : UInt8) : FourCC :=
  ⟨first.toUInt32 ||| second.toUInt32 <<< 8 ||| third.toUInt32 <<< 16 ||| fourth.toUInt32 <<< 24⟩

def hexDigits (byte : UInt8) : List Char :=
  [Nat.digitChar (byte.toNat / 16), Nat.digitChar (byte.toNat % 16)]

/-- A byte in printable characters. -/
def escape (byte : UInt8) : List Char :=
  if byte = 0x09 then ['\\', 't']
  else if byte = 0x0D then ['\\', 'r']
  else if byte = 0x0A then ['\\', 'n']
  else if byte = 0x27 then ['\\', '\'']
  else if byte = 0x22 then ['\\', '"']
  else if byte = 0x5C then ['\\', '\\']
  else if 0x20 ≤ byte && byte ≤ 0x7E then [Char.ofNat byte.toNat]
  else '\\' :: 'x' :: hexDigits byte

/-- The bytes themselves when they are UTF-8, and otherwise every byte escaped. -/
def chars (format : FourCC) : List Char :=
  (Utf8.decode? format.bytes).getD (format.bytes.flatMap escape)

def text (format : FourCC) : String :=
  String.ofList format.chars

def describe (format : FourCC) : String :=
  s!"FourCC({format.text})"

def nv12 : FourCC := .ofBytes 0x4E 0x56 0x31 0x32
def yuyv : FourCC := .ofBytes 0x59 0x55 0x59 0x56
def mjpg : FourCC := .ofBytes 0x4D 0x4A 0x50 0x47

end FourCC

end CameraHotplug
