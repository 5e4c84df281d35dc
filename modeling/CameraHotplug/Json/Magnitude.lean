/-!
Which written numbers are too large for a binary64. A number is read as a significand below 2^64
and a power of ten; both are rounded to 53 bits and then multiplied.
-/

namespace CameraHotplug.Json

/-- A number's digits as `significand * 10 ^ exponent`. -/
structure Magnitude where
  significand : Nat
  exponent : Int

/-- The significand after further digits, as many as fit into 64 bits, and how many are left. -/
def gather (significand : Nat) : List Char → Nat × Nat
  | [] => (significand, 0)
  | numeral :: numerals =>
    let next := 10 * significand + (numeral.toNat - '0'.toNat)
    if next < UInt64.size then gather next numerals else (significand, numerals.length + 1)

/-- The nearest number of at most 53 significant bits, a tie going to the even one. -/
def roundTo53 (value : Nat) : Nat :=
  let bits := value.log2 + 1
  if bits ≤ 53 then value
  else
    let shift := bits - 53
    let kept := value >>> shift
    let lost := value % Nat.pow 2 shift
    let half := Nat.pow 2 (shift - 1)
    if half < lost || (lost == half && kept % 2 == 1) then (kept + 1) <<< shift
    else kept <<< shift

/-- The largest power of ten in range is 10^308; a product from halfway to 2^1024 is out of it. -/
def Magnitude.exceedsBinary64 (magnitude : Magnitude) : Bool :=
  match magnitude.exponent with
  | .negSucc _ => false
  | .ofNat power =>
    if magnitude.significand = 0 then false
    else if 308 < power then true
    else
      Nat.pow 2 1024 - Nat.pow 2 970 ≤
        roundTo53 magnitude.significand * roundTo53 (Nat.pow 10 power)

end CameraHotplug.Json
