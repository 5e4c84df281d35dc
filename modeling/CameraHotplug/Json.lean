/-!
JSON values and their two written forms, on one line and indented. Numbers are natural, as no
document of this library needs others.
-/

namespace CameraHotplug

inductive Json where
  | null
  | bool (value : Bool)
  | number (value : Nat)
  | string (text : String)
  | array (items : List Json)
  | object (members : List (String × Json))

namespace Json

def hexDigit (value : Nat) : Char :=
  Nat.digitChar (value % 16)

/-- Quotes, backslashes and control characters are escaped, and nothing else. -/
def escape (char : Char) : List Char :=
  if char = '"' then ['\\', '"']
  else if char = '\\' then ['\\', '\\']
  else if char = '\x08' then ['\\', 'b']
  else if char = '\x0C' then ['\\', 'f']
  else if char = '\n' then ['\\', 'n']
  else if char = '\r' then ['\\', 'r']
  else if char = '\t' then ['\\', 't']
  else if char.toNat < 0x20 then
    ['\\', 'u', '0', '0', hexDigit (char.toNat / 16), hexDigit char.toNat]
  else [char]

def quote (text : List Char) : List Char :=
  '"' :: (text.flatMap escape ++ ['"'])

mutual

def compact : Json → List Char
  | .null => "null".toList
  | .bool true => "true".toList
  | .bool false => "false".toList
  | .number value => Nat.toDigits 10 value
  | .string text => quote text.toList
  | .array [] => ['[', ']']
  | .array (item :: items) => '[' :: (compact item ++ compactItems items)
  | .object [] => ['\x7b', '\x7d']
  | .object ((name, value) :: members) =>
    '\x7b' :: (quote name.toList ++ ':' :: (compact value ++ compactMembers members))

def compactItems : List Json → List Char
  | [] => [']']
  | item :: items => ',' :: (compact item ++ compactItems items)

def compactMembers : List (String × Json) → List Char
  | [] => ['\x7d']
  | (name, value) :: members =>
    ',' :: (quote name.toList ++ ':' :: (compact value ++ compactMembers members))

end

/-- A new line at a depth of nesting, two blanks a level. -/
def newLine (depth : Nat) : List Char :=
  '\n' :: List.replicate (2 * depth) ' '

mutual

def indented (depth : Nat) : Json → List Char
  | .array (item :: items) =>
    '[' :: (newLine (depth + 1) ++ indented (depth + 1) item ++ indentedItems depth items)
  | .object ((name, value) :: members) =>
    '\x7b' :: (newLine (depth + 1) ++ quote name.toList ++ [':', ' '] ++
      indented (depth + 1) value ++ indentedMembers depth members)
  | .array [] => ['[', ']']
  | .object [] => ['\x7b', '\x7d']
  | .null => "null".toList
  | .bool true => "true".toList
  | .bool false => "false".toList
  | .number value => Nat.toDigits 10 value
  | .string text => quote text.toList

def indentedItems (depth : Nat) : List Json → List Char
  | [] => newLine depth ++ [']']
  | item :: items =>
    ',' :: (newLine (depth + 1) ++ indented (depth + 1) item ++ indentedItems depth items)

def indentedMembers (depth : Nat) : List (String × Json) → List Char
  | [] => newLine depth ++ ['\x7d']
  | (name, value) :: members =>
    ',' :: (newLine (depth + 1) ++ quote name.toList ++ [':', ' '] ++
      indented (depth + 1) value ++ indentedMembers depth members)

end

def line (value : Json) : String :=
  String.ofList (compact value)

def document (value : Json) : String :=
  String.ofList (indented 0 value)

end Json

end CameraHotplug
