/-!
UTF-8 with malformed input. Bytes are cut into pieces: a character, or a malformed piece, which is
the longest beginning of a character that the next byte does not continue, or one byte that begins
none. A byte that breaks a sequence off is read again as the beginning of the next piece.
-/

namespace CameraHotplug.Utf8

/-- A sequence under way: its bits so far, how many bytes are owed after the next one, and the
range that the next byte must lie in. -/
structure Pending where
  bits : Nat
  owed : Nat
  low : UInt8
  high : UInt8

/-- The well-formed sequences by their first byte. The narrower ranges of the second byte keep out
overlong forms, surrogates and numbers past the last code point. -/
def pendingOf? (byte : UInt8) : Option Pending :=
  if 0xC2 ≤ byte && byte ≤ 0xDF then some ⟨byte.toNat - 0xC0, 0, 0x80, 0xBF⟩
  else if byte == 0xE0 then some ⟨0, 1, 0xA0, 0xBF⟩
  else if byte == 0xED then some ⟨0xD, 1, 0x80, 0x9F⟩
  else if 0xE1 ≤ byte && byte ≤ 0xEF then some ⟨byte.toNat - 0xE0, 1, 0x80, 0xBF⟩
  else if byte == 0xF0 then some ⟨0, 2, 0x90, 0xBF⟩
  else if 0xF1 ≤ byte && byte ≤ 0xF3 then some ⟨byte.toNat - 0xF0, 2, 0x80, 0xBF⟩
  else if byte == 0xF4 then some ⟨4, 2, 0x80, 0x8F⟩
  else none

/-- The piece that ends with a byte read between characters, if one does, and what is then under
way. -/
def start (byte : UInt8) : List (Option Char) × Option Pending :=
  if byte < 0x80 then ([some (Char.ofNat byte.toNat)], none)
  else match pendingOf? byte with
    | some pending => ([], some pending)
    | none => ([none], none)

def Pending.accepts (pending : Pending) (byte : UInt8) : Bool :=
  pending.low ≤ byte && byte ≤ pending.high

def Pending.extend (pending : Pending) (byte : UInt8) : List (Option Char) × Option Pending :=
  let bits := 64 * pending.bits + (byte.toNat - 0x80)
  match pending.owed with
  | 0 => ([some (Char.ofNat bits)], none)
  | owed + 1 => ([], some ⟨bits, owed, 0x80, 0xBF⟩)

def step (pending? : Option Pending) (byte : UInt8) : List (Option Char) × Option Pending :=
  match pending? with
  | none => start byte
  | some pending =>
    if pending.accepts byte then pending.extend byte
    else (none :: (start byte).1, (start byte).2)

def piecesFrom : Option Pending → List UInt8 → List (Option Char)
  | none, [] => []
  | some _, [] => [none]
  | pending?, byte :: bytes => (step pending? byte).1 ++ piecesFrom (step pending? byte).2 bytes

def pieces (bytes : List UInt8) : List (Option Char) :=
  piecesFrom none bytes

/-- U+FFFD stands for every malformed piece. -/
def lossy (bytes : List UInt8) : List Char :=
  (pieces bytes).map (·.getD '\uFFFD')

/-- The text of well-formed bytes. -/
def decode? (bytes : List UInt8) : Option (List Char) :=
  (pieces bytes).mapM id

def encode (text : List Char) : List UInt8 :=
  text.flatMap String.utf8EncodeChar

end CameraHotplug.Utf8
