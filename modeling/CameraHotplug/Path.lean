/-!
Paths keep their text as written. Two spellings name the same file when their components agree:
empty components and a `.` after the beginning do not count, while `..` and a leading `.` do.
-/

namespace CameraHotplug

structure Path where
  text : String
  deriving DecidableEq, Inhabited, Repr

namespace Path

inductive Component where
  | root
  | current
  | parent
  | named (name : List Char)
  deriving DecidableEq, Repr

/-- One separator is put between the two sides, unless the left one is empty or already ends in
one. An absolute right side stands alone. -/
def join (left : Path) (right : String) : Path :=
  if right.toList.head? = some '/' then ⟨right⟩
  else if left.text.toList.getLast?.all (· = '/') then ⟨left.text ++ right⟩
  else ⟨left.text ++ "/" ++ right⟩

/-- The stretches between separators, some of them empty. -/
def segments : List Char → List (List Char)
  | [] => [[]]
  | char :: text =>
    match char, segments text with
    | '/', rest => [] :: rest
    | char, first :: rest => (char :: first) :: rest
    | char, [] => [[char]]

def componentOf? (segment : List Char) : Option Component :=
  if segment = [] || segment = ['.'] then none
  else if segment = ['.', '.'] then some .parent
  else some (.named segment)

def componentsOf (text : List Char) : List Component :=
  match text, segments text with
  | '/' :: _, parts => .root :: parts.filterMap componentOf?
  | _, ['.'] :: parts => .current :: parts.filterMap componentOf?
  | _, parts => parts.filterMap componentOf?

def components (path : Path) : List Component :=
  componentsOf path.text.toList

/-- The path that joining a relative path onto a directory names, in components. -/
def under (directory rest : List Component) : List Component :=
  match rest with
  | .root :: _ => rest
  | _ => if directory = [] then rest else directory ++ rest.filter (· ≠ .current)

def SamePlace (left right : Path) : Prop :=
  left.components = right.components

instance (left right : Path) : Decidable (SamePlace left right) :=
  inferInstanceAs (Decidable (left.components = right.components))

end Path

end CameraHotplug
