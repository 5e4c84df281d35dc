import CameraHotplug.FileTree

/-!
A watch on one directory of a file tree. It tells of the entries that come and go there, but not of
those that are moved, nor of entries of other directories.
-/

namespace CameraHotplug

/-- The watch stays with its directory wherever that is moved. -/
structure DirectoryWatch where
  directory : NodeNumber
  deriving DecidableEq, Repr

namespace DirectoryWatch

def open? (tree : FileTree) (path : PathBytes) : Except IoError DirectoryWatch := do
  match tree.node? (← tree.resolve path) with
  | some directory => return ⟨directory⟩
  | none => throw .noSuchEntry

/-- The event of a change, if it happened in the directory to an entry whose name is text. -/
def eventOf? (watch : DirectoryWatch) (change : EntryChange) : Option WatchEvent :=
  if change.directory = watch.directory then
    (Utf8.decode? change.name).map fun name => ⟨change.change, String.ofList name⟩
  else none

def events (watch : DirectoryWatch) (changes : List EntryChange) : List WatchEvent :=
  changes.filterMap watch.eventOf?

end DirectoryWatch

end CameraHotplug
