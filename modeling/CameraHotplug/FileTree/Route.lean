import CameraHotplug.IoError
import CameraHotplug.Path
import CameraHotplug.Text.Utf8

/-!
Paths as the system follows them: names to go through one after the other, and what the path stands
for in the directory that they lead to. A path is bytes, and its names need not be text.
-/

namespace CameraHotplug

/-- One name is the bytes between two separators. -/
abbrev EntryName := List UInt8

abbrev PathBytes := List UInt8

def Path.bytes (path : Path) : PathBytes :=
  Utf8.encode path.text.toList

/-- What a path ends with. A separator after the last name asks for a directory; a path without any
name is the root. -/
inductive Target where
  | entry (name : EntryName) (asDirectory : Bool)
  | itself
  | parent
  | root
  deriving DecidableEq, Repr

structure Route where
  fromRoot : Bool
  way : List EntryName
  target : Target
  deriving DecidableEq, Repr

namespace Route

def separator : UInt8 := 0x2F
def itselfName : EntryName := [0x2E]
def parentName : EntryName := [0x2E, 0x2E]

/-- No path has so many bytes. -/
def pathLimit : Nat := 4096

/-- No name has so many bytes. -/
def nameLimit : Nat := 256

/-- The names between separators. Several separators count as one. -/
def names (path : PathBytes) : List EntryName :=
  (path.foldr
    (fun byte pieces =>
      match pieces with
      | first :: rest => if byte = separator then [] :: first :: rest else (byte :: first) :: rest
      | [] => [[byte]])
    [[]]).filter (· ≠ [])

def targetOf (name : EntryName) (asDirectory : Bool) : Target :=
  if name = itselfName then .itself
  else if name = parentName then .parent
  else .entry name asDirectory

def ofNames (fromRoot asDirectory : Bool) (names : List EntryName) : Route :=
  match names.reverse with
  | [] => ⟨fromRoot, [], .root⟩
  | last :: before => ⟨fromRoot, before.reverse, targetOf last asDirectory⟩

def ofBytes (path : PathBytes) : Except IoError Route :=
  if path = [] then .error .noSuchEntry
  else if pathLimit ≤ path.length then .error .nameTooLong
  else
    .ok (ofNames (path.head? = some separator) (path.getLast? = some separator) (names path))

/-- The system takes a zero byte for the end of a path, so none may be part of it. This is found out
before anything is looked up. -/
def check (path : PathBytes) : Except IoError Unit :=
  if 0 ∈ path then .error .zeroByte else .ok ()

end Route

end CameraHotplug
