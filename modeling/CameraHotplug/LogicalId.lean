import CameraHotplug.Text.Affix
import CameraHotplug.Version

/-!
Logical ids name external cameras to subscribers. The number of an id is the suffix of its device
node shifted by a fixed offset, so an id and a node determine each other.
-/

namespace CameraHotplug

structure LogicalId where
  major : UInt32
  minor : UInt32
  number : UInt32
  deriving DecidableEq, Repr

namespace LogicalId

def lexicographic : LogicalId → LogicalId → Ordering :=
  compareLex (compareOn major) (compareLex (compareOn minor) (compareOn number))

/-- Ids are ordered by major version, then minor version, then number. -/
instance : Ord LogicalId :=
  ⟨lexicographic⟩

instance : Std.TransOrd LogicalId :=
  inferInstanceAs (Std.TransCmp
    (compareLex (compareOn major) (compareLex (compareOn minor) (compareOn number))))

instance : Std.LawfulEqOrd LogicalId where
  compare_self := Std.ReflCmp.compare_self
  eq_of_compare {left right} same := by
    have same : lexicographic left right = .eq := same
    simp only [lexicographic, compareLex_eq_eq, compareOn] at same
    obtain ⟨major, minor, number⟩ := same
    cases left
    cases right
    simp_all only [mk.injEq]
    exact ⟨Std.LawfulEqOrd.eq_of_compare major, Std.LawfulEqOrd.eq_of_compare minor,
      Std.LawfulEqOrd.eq_of_compare number⟩

def ofVersion (version : Version) (number : UInt32) : LogicalId :=
  ⟨version.major, version.minor, number⟩

/-- A sum past 32 bits has no id. -/
def forSuffix? (suffix offset : UInt32) (version : Version) : Option LogicalId :=
  if suffix.toNat + offset.toNat < UInt32.size then some (ofVersion version (suffix + offset))
  else none

/-- The suffix that the id was made from. -/
def suffix? (id : LogicalId) (offset : UInt32) : Option UInt32 :=
  if offset ≤ id.number then some (id.number - offset) else none

def chars (id : LogicalId) : List Char :=
  "device@".toList ++ Decimal.digits id.major ++ '.' :: Decimal.digits id.minor ++
    "/external/".toList ++ Decimal.digits id.number

def text (id : LogicalId) : String :=
  String.ofList id.chars

def versionText (id : LogicalId) : String :=
  Decimal.text id.major ++ "." ++ Decimal.text id.minor

def readChars? (name : List Char) : Option LogicalId := do
  let rest ← Text.strip? "device@".toList name
  let (version, rest) ← Text.cut? '/' rest
  let (major, minor) ← Text.cut? '.' version
  let number ← Text.strip? "external/".toList rest
  return ⟨← Decimal.read? major, ← Decimal.read? minor, ← Decimal.read? number⟩

/-- The id that a name is the text of. -/
def read? (name : String) : Option LogicalId :=
  readChars? name.toList

end LogicalId

end CameraHotplug
