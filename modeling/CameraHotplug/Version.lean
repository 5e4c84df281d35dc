import CameraHotplug.Text.Decimal

/-!
Versions of the camera device interface. The major version is always 3.
-/

namespace CameraHotplug

inductive Version where
  | v3_4
  | v3_5
  | v3_6
  deriving DecidableEq, Repr, Inhabited

namespace Version

def fromMinor? (minor : UInt32) : Option Version :=
  if minor = 4 then some .v3_4
  else if minor = 5 then some .v3_5
  else if minor = 6 then some .v3_6
  else none

/-- The oldest version stands in for every unsupported one. -/
def fallback : Version :=
  .v3_4

def fromMinor (minor : UInt32) : Version :=
  (fromMinor? minor).getD fallback

def major (_ : Version) : UInt32 :=
  3

def minor : Version → UInt32
  | .v3_4 => 4
  | .v3_5 => 5
  | .v3_6 => 6

def text (version : Version) : String :=
  Decimal.text version.major ++ "." ++ Decimal.text version.minor

end Version

end CameraHotplug
