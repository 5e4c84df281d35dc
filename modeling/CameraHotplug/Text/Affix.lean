/-!
Parts of texts: a known beginning, the first occurrence of a mark, a marker anywhere, and the blanks
at the end.
-/

namespace CameraHotplug.Text

/-- What follows `lead`, when the text begins with it. -/
def strip? : List Char → List Char → Option (List Char)
  | [], text => some text
  | _ :: _, [] => none
  | expected :: lead, char :: text => if char = expected then strip? lead text else none

/-- The parts before and after the first `mark`. -/
def cut? (mark : Char) : List Char → Option (List Char × List Char)
  | [] => none
  | char :: text =>
    if char = mark then some ([], text)
    else (cut? mark text).map fun (before, after) => (char :: before, after)

def startsWith (text lead : String) : Bool :=
  lead.toList.isPrefixOf text.toList

/-- Whether `marker` stands in the text, all of it together. -/
def occurs (marker : List Char) : List Char → Bool
  | [] => marker.isEmpty
  | char :: text => marker.isPrefixOf (char :: text) || occurs marker text

theorem occurs_iff_infix (marker text : List Char) :
    occurs marker text = true ↔ marker <:+: text := by
  induction text with
  | nil => simp [occurs]
  | cons char text inductive_hypothesis =>
    simp [occurs, List.infix_cons_iff, inductive_hypothesis]

def contains (text marker : String) : Bool :=
  occurs marker.toList text.toList

/-- The characters that Unicode calls white space. -/
def isBlank (char : Char) : Bool :=
  let code := char.toNat
  (0x09 ≤ code && code ≤ 0x0D) || code == 0x20 || code == 0x85 || code == 0xA0 || code == 0x1680 ||
    (0x2000 ≤ code && code ≤ 0x200A) || code == 0x2028 || code == 0x2029 || code == 0x202F ||
    code == 0x205F || code == 0x3000

def trimEnd (text : String) : String :=
  String.ofList (text.toList.reverse.dropWhile isBlank).reverse

/-- Blanks are added on the right up to a width counted in characters. -/
def padEnd (width : Nat) (text : String) : String :=
  text ++ String.ofList (List.replicate (width - text.length) ' ')

end CameraHotplug.Text
