import CameraHotplug.Json.Magnitude

/-!
Reading JSON documents into given types, strictly and from left to right: the first problem met is
the one reported, and a value that does not suit its place is refused before what follows it is
looked at. Values that nobody asked for are only checked to be JSON.
-/

namespace CameraHotplug.Json

/-- Why a document is refused: it is not JSON, it ends inside a value, or a value does not suit. -/
inductive Fault where
  | malformed
  | unfinished
  | unsuitable
  deriving DecidableEq, Repr

abbrev Reader (α : Type) := List Char → Except Fault (α × List Char)

def isSpace (char : Char) : Bool :=
  char == ' ' || char == '\n' || char == '\t' || char == '\r'

def skipSpace (chars : List Char) : List Char :=
  chars.dropWhile isSpace

def skipWord : List Char → List Char → Except Fault (List Char)
  | [], chars => .ok chars
  | _ :: _, [] => .error .unfinished
  | expected :: word, char :: chars =>
    if char = expected then skipWord word chars else .error .malformed

section Strings

def hexValue? (char : Char) : Option Nat :=
  if char.isDigit then some (char.toNat - '0'.toNat)
  else if 'a' ≤ char ∧ char ≤ 'f' then some (char.toNat - 'a'.toNat + 10)
  else if 'A' ≤ char ∧ char ≤ 'F' then some (char.toNat - 'A'.toNat + 10)
  else none

def escaped? (char : Char) : Option Char :=
  match char with
  | '"' => some '"'
  | '\\' => some '\\'
  | '/' => some '/'
  | 'b' => some '\x08'
  | 'f' => some '\x0C'
  | 'n' => some '\n'
  | 'r' => some '\r'
  | 't' => some '\t'
  | _ => none

def isLeadingSurrogate (unit : Nat) : Bool :=
  0xD800 ≤ unit && unit ≤ 0xDBFF

def isTrailingSurrogate (unit : Nat) : Bool :=
  0xDC00 ≤ unit && unit ≤ 0xDFFF

def joinSurrogates (leading trailing : Nat) : Char :=
  Char.ofNat (0x10000 + (leading - 0xD800) * 0x400 + (trailing - 0xDC00))

/-- Where the reader stands inside a string. A leading surrogate waits for its trailing one. -/
inductive Within where
  | plain
  | escape
  | unit (leading? : Option Nat) (count value : Nat)
  | leading (unit : Nat)
  | leadingEscape (unit : Nat)

def byteCount (chars : List Char) : Nat :=
  chars.foldl (fun count char => count + char.utf8Size) 0

/-- The rest of a string up to its closing quote. Surrogates have to come in pairs only where
`paired` is set; elsewhere each stands for itself as U+FFFD. A unit that breaks off less than four
bytes before the end of the document counts as unfinished. -/
def readQuoted (paired : Bool) : Within → Reader (List Char)
  | _, [] => .error .unfinished
  | .plain, char :: chars =>
    if char = '"' then .ok ([], chars)
    else if char = '\\' then readQuoted paired .escape chars
    else if char.toNat < 0x20 then .error .malformed
    else (readQuoted paired .plain chars).map fun (text, rest) => (char :: text, rest)
  | .escape, char :: chars =>
    if char = 'u' then readQuoted paired (.unit none 0 0) chars
    else match escaped? char with
      | some meant => (readQuoted paired .plain chars).map fun (text, rest) => (meant :: text, rest)
      | none => .error .malformed
  | .unit leading? count value, char :: chars =>
    match hexValue? char with
    | none =>
      if count + byteCount (char :: chars) < 4 then .error .unfinished else .error .malformed
    | some digit =>
      let unit := 16 * value + digit
      if count < 3 then readQuoted paired (.unit leading? (count + 1) unit) chars
      else match leading? with
        | some leading =>
          if isTrailingSurrogate unit then
            (readQuoted paired .plain chars).map fun (text, rest) =>
              (joinSurrogates leading unit :: text, rest)
          else .error .malformed
        | none =>
          if isLeadingSurrogate unit && paired then readQuoted paired (.leading unit) chars
          else if isTrailingSurrogate unit && paired then .error .malformed
          else
            let meant := if isLeadingSurrogate unit || isTrailingSurrogate unit then '\uFFFD'
              else Char.ofNat unit
            (readQuoted paired .plain chars).map fun (text, rest) => (meant :: text, rest)
  | .leading unit, char :: chars =>
    if char = '\\' then readQuoted paired (.leadingEscape unit) chars else .error .malformed
  | .leadingEscape unit, char :: chars =>
    if char = 'u' then readQuoted paired (.unit (some unit) 0 0) chars else .error .malformed

def skipQuoted (chars : List Char) : Except Fault (List Char) :=
  (readQuoted false .plain chars).map Prod.snd

end Strings

section Numbers

/-- The rest of a number after its `e`. A missing digit is `unfinished` only at the end. -/
def readExponent (magnitude : Magnitude) (chars : List Char) : Except Fault (List Char) :=
  let (negative, chars) := match chars with
    | '+' :: rest => (false, rest)
    | '-' :: rest => (true, rest)
    | rest => (false, rest)
  match chars.span Char.isDigit with
  | ([], []) => .error .unfinished
  | ([], _ :: _) => .error .malformed
  | (numerals, rest) =>
    let power := numerals.foldl (fun total numeral => 10 * total + (numeral.toNat - '0'.toNat)) 0
    let exponent := if negative then magnitude.exponent - power else magnitude.exponent + power
    if (Magnitude.mk magnitude.significand exponent).exceedsBinary64 then .error .malformed
    else .ok rest

/-- The rest of a number after its whole part: whether nothing more belonged to it. -/
def readFraction (magnitude : Magnitude) : Reader Bool
  | '.' :: chars =>
    match chars.span Char.isDigit with
    | ([], []) => .error .unfinished
    | ([], _ :: _) => .error .malformed
    | (numerals, rest) =>
      let (significand, left) := gather magnitude.significand numerals
      let exponent := magnitude.exponent - (numerals.length - left : Nat)
      match rest with
      | 'e' :: rest | 'E' :: rest =>
        (readExponent ⟨significand, exponent⟩ rest).map fun rest => (false, rest)
      | rest =>
        if (Magnitude.mk significand exponent).exceedsBinary64 then .error .malformed
        else .ok (false, rest)
  | 'e' :: chars | 'E' :: chars =>
    (readExponent magnitude chars).map fun rest => (false, rest)
  | rest =>
    if magnitude.exceedsBinary64 then .error .malformed else .ok (true, rest)

/-- A number without its sign. It has a natural value when it is written with digits alone and fits
into 64 bits. -/
def readUnsigned (chars : List Char) : Except Fault (Option Nat × List Char) :=
  match chars.span Char.isDigit with
  | ([], []) => .error .unfinished
  | ([], _ :: _) => .error .malformed
  | ('0' :: _ :: _, _) => .error .malformed
  | (numerals, rest) =>
    let (significand, left) := gather 0 numerals
    (readFraction ⟨significand, left⟩ rest).map fun (whole, rest) =>
      (if whole && left == 0 then some significand else none, rest)

def readNumber : Reader (Option Nat)
  | '-' :: chars => (readUnsigned chars).map fun (_, rest) => (none, rest)
  | chars => readUnsigned chars

def skipDigits (chars : List Char) : Except Fault (List Char) :=
  match chars.span Char.isDigit with
  | ([], _) => .error .malformed
  | (_, rest) => .ok rest

def skipExponent : List Char → Except Fault (List Char)
  | 'e' :: '+' :: chars | 'e' :: '-' :: chars | 'E' :: '+' :: chars | 'E' :: '-' :: chars =>
    skipDigits chars
  | 'e' :: chars | 'E' :: chars => skipDigits chars
  | chars => .ok chars

/-- A number of any size. -/
def skipNumber (chars : List Char) : Except Fault (List Char) :=
  let chars := match chars with
    | '-' :: rest => rest
    | rest => rest
  match chars.span Char.isDigit with
  | ([], _) => .error .malformed
  | ('0' :: _ :: _, _) => .error .malformed
  | (_, '.' :: rest) => (skipDigits rest).bind skipExponent
  | (_, rest) => skipExponent rest

end Numbers

section AnyValue

def skipScalar (chars : List Char) : Except Fault (List Char) :=
  match chars with
  | [] => .error .unfinished
  | 'n' :: rest => skipWord "ull".toList rest
  | 't' :: rest => skipWord "rue".toList rest
  | 'f' :: rest => skipWord "alse".toList rest
  | '"' :: rest => skipQuoted rest
  | char :: rest =>
    if char = '-' || char.isDigit then skipNumber (char :: rest) else .error .malformed

/-- The name of a member and its colon. -/
def skipName (chars : List Char) : Except Fault (List Char) :=
  match skipSpace chars with
  | [] => .error .unfinished
  | '"' :: rest =>
    (skipQuoted rest).bind fun rest =>
      match skipSpace rest with
      | ':' :: rest => .ok rest
      | [] => .error .unfinished
      | _ => .error .malformed
  | _ => .error .malformed

inductive Bracket where
  | array
  | object
  deriving DecidableEq

/-- Walks over one value. The brackets that are open stand in a list, so that nesting has no limit;
`due` says whether a value has to come next or one has just ended. Every step but the last takes a
character, so the number of characters bounds the steps. -/
def skipOpen : Nat → Bool → List Bracket → List Char → Except Fault (List Char)
  | _, false, [], chars => .ok chars
  | 0, _, _, _ => .error .unfinished
  | steps + 1, true, opened, chars =>
    match skipSpace chars with
    | '[' :: rest =>
      match skipSpace rest with
      | ']' :: rest => skipOpen steps false opened rest
      | rest => skipOpen steps true (.array :: opened) rest
    | '\x7b' :: rest =>
      match skipSpace rest with
      | '\x7d' :: rest => skipOpen steps false opened rest
      | rest => (skipName rest).bind fun rest => skipOpen steps true (.object :: opened) rest
    | rest => (skipScalar rest).bind fun rest => skipOpen steps false opened rest
  | steps + 1, false, bracket :: opened, chars =>
    match skipSpace chars, bracket with
    | [], _ => .error .unfinished
    | ',' :: rest, .array => skipOpen steps true (.array :: opened) rest
    | ',' :: rest, .object =>
      (skipName rest).bind fun rest => skipOpen steps true (.object :: opened) rest
    | ']' :: rest, .array => skipOpen steps false opened rest
    | '\x7d' :: rest, .object => skipOpen steps false opened rest
    | _, _ => .error .malformed

def skipValue (chars : List Char) : Except Fault (List Char) :=
  skipOpen (chars.length + 1) true [] chars

/-- The fault of a value that was not wanted. Unless it is a bracket, it is read first. -/
def refuse (chars : List Char) : Fault :=
  let after {α : Type} : Except Fault α → Fault
    | .ok _ => .unsuitable
    | .error fault => fault
  match chars with
  | [] => .unfinished
  | 'n' :: rest => after (skipWord "ull".toList rest)
  | 't' :: rest => after (skipWord "rue".toList rest)
  | 'f' :: rest => after (skipWord "alse".toList rest)
  | '"' :: rest => after (readQuoted true .plain rest)
  | '[' :: _ => .unsuitable
  | '\x7b' :: _ => .unsuitable
  | char :: rest =>
    if char = '-' || char.isDigit then after (readNumber (char :: rest)) else .malformed

end AnyValue

section Typed

variable {α ρ : Type}

/-- A natural number below a limit. -/
def readNatural (limit : Nat) : Reader Nat := fun chars =>
  match skipSpace chars with
  | [] => .error .unfinished
  | char :: rest =>
    if char = '-' || char.isDigit then
      (readNumber (char :: rest)).bind fun
        | (some value, rest) => if value < limit then .ok (value, rest) else .error .unsuitable
        | (none, _) => .error .unsuitable
    else .error (refuse (char :: rest))

def readUInt32 : Reader UInt32 := fun chars =>
  (readNatural UInt32.size chars).map fun (value, rest) => (UInt32.ofNat value, rest)

def readUInt64 : Reader UInt64 := fun chars =>
  (readNatural UInt64.size chars).map fun (value, rest) => (UInt64.ofNat value, rest)

def readString : Reader String := fun chars =>
  match skipSpace chars with
  | '"' :: rest => (readQuoted true .plain rest).map fun (text, rest) => (String.ofList text, rest)
  | rest => .error (refuse rest)

def readItems (read : Reader α) : Nat → Reader (List α)
  | 0, _ => .error .unfinished
  | steps + 1, chars =>
    (read chars).bind fun (item, rest) =>
      match skipSpace rest with
      | [] => .error .unfinished
      | ']' :: rest => .ok ([item], rest)
      | ',' :: rest =>
        match skipSpace rest with
        | [] => .error .unfinished
        | ']' :: _ => .error .malformed
        | rest => (readItems read steps rest).map fun (items, rest) => (item :: items, rest)
      | _ => .error .malformed

def readArray (read : Reader α) : Reader (List α) := fun chars =>
  match skipSpace chars with
  | '[' :: rest =>
    match skipSpace rest with
    | [] => .error .unfinished
    | ']' :: rest => .ok ([], rest)
    | rest => readItems read (rest.length + 1) rest
  | rest => .error (refuse rest)

/-- A named part of a record: reading its value gives the record with that part replaced. -/
structure Part (ρ : Type) where
  name : String
  read : ρ → Reader ρ

/-- A part whose value is read by itself. -/
def Part.of (name : String) (read : Reader α) (put : ρ → α → ρ) : Part ρ where
  name := name
  read record chars := (read chars).map fun (value, rest) => (put record value, rest)

/-- A member whose opening quote has been read. A known name may come once only, which is checked
before its colon. -/
def readMember (parts : List (Part ρ)) (seen : List String) (record : ρ) :
    Reader (ρ × List String) := fun chars =>
  (readQuoted true .plain chars).bind fun (name, rest) =>
    let name := String.ofList name
    if name ∈ seen then .error .unsuitable
    else match skipSpace rest with
      | [] => .error .unfinished
      | ':' :: rest =>
        match parts.find? (·.name = name) with
        | some part =>
          (part.read record rest).map fun (record, rest) => ((record, name :: seen), rest)
        | none => (skipValue rest).map fun rest => ((record, seen), rest)
      | _ => .error .malformed

def readMembers (parts : List (Part ρ)) : Nat → List String → ρ → Reader ρ
  | 0, _, _, _ => .error .unfinished
  | steps + 1, seen, record, chars =>
    (readMember parts seen record chars).bind fun ((record, seen), rest) =>
      match skipSpace rest with
      | [] => .error .unfinished
      | '\x7d' :: rest => .ok (record, rest)
      | ',' :: rest =>
        match skipSpace rest with
        | [] => .error .unfinished
        | '"' :: rest => readMembers parts steps seen record rest
        | _ => .error .malformed
      | _ => .error .malformed

/-- The parts after the first in the order of their declaration. -/
def readPositions : List (Part ρ) → ρ → Reader ρ
  | [], record, chars =>
    match skipSpace chars with
    | [] => .error .unfinished
    | ']' :: rest => .ok (record, rest)
    | _ => .error .malformed
  | part :: parts, record, chars =>
    match skipSpace chars with
    | [] => .error .unfinished
    | ']' :: rest => .ok (record, rest)
    | ',' :: rest =>
      match skipSpace rest with
      | [] => .error .unfinished
      | ']' :: _ => .error .malformed
      | rest => (part.read record rest).bind fun (record, rest) => readPositions parts record rest
    | _ => .error .malformed

/-- A record as an object of its named parts, or as an array of its first parts in order. What is
left out keeps its value in `record`. -/
def readRecord (parts : List (Part ρ)) (record : ρ) : Reader ρ := fun chars =>
  match skipSpace chars with
  | '\x7b' :: rest =>
    match skipSpace rest with
    | [] => .error .unfinished
    | '\x7d' :: rest => .ok (record, rest)
    | '"' :: rest => readMembers parts (rest.length + 1) [] record rest
    | _ => .error .malformed
  | '[' :: rest =>
    match parts, skipSpace rest with
    | _, [] => .error .unfinished
    | _, ']' :: rest => .ok (record, rest)
    | [], _ => .error .malformed
    | part :: parts, rest =>
      (part.read record rest).bind fun (record, rest) => readPositions parts record rest
  | rest => .error (refuse rest)

/-- A whole document: one value, and nothing but space after it. -/
def readDocument (read : Reader α) (text : String) : Except Fault α :=
  (read text.toList).bind fun (value, rest) =>
    if skipSpace rest = [] then .ok value else .error .malformed

end Typed

end CameraHotplug.Json
