/-!
Canonical decimals of 32-bit numbers. A number has one written form: its digits, without a sign
and without leading zeros.
-/

namespace CameraHotplug.Decimal

def digits (number : UInt32) : List Char :=
  Nat.toDigits 10 number.toNat

def text (number : UInt32) : String :=
  String.ofList (digits number)

def value (numerals : List Char) : Nat :=
  numerals.foldl (fun total numeral => 10 * total + (numeral.toNat - '0'.toNat)) 0

/-- Digits only, at least one, and no zero in front of another digit. -/
def isCanonical : List Char → Bool
  | [] => false
  | [numeral] => numeral.isDigit
  | first :: rest => first.isDigit && first != '0' && rest.all Char.isDigit

/-- Reads the written form of a number and nothing else; a number past 32 bits has none. -/
def read? (numerals : List Char) : Option UInt32 :=
  if isCanonical numerals then
    if bound : value numerals < UInt32.size then some (UInt32.ofNatLT (value numerals) bound)
    else none
  else none

end CameraHotplug.Decimal
