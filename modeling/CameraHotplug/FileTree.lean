import CameraHotplug.FileTree.Route
import CameraHotplug.Watch

/-!
Plain files and directories. Every entry has a place, the names on the way to it from the root, and
stands for a node; a file may stand at several places. Requests fail for the reason that the system
would meet first.
-/

namespace CameraHotplug

abbrev Place := List EntryName

/-- Nodes are numbered in the order in which they came into being. No number is used again. -/
abbrev NodeNumber := Nat

inductive FileContent where
  | file (bytes : List UInt8)
  | directory
  deriving DecidableEq, Repr

/-- Entries are kept with the oldest first. Paths that do not begin at the root begin at
`current`. -/
structure FileTree where
  entries : List (Place × NodeNumber)
  contents : List (NodeNumber × FileContent)
  next : NodeNumber
  current : Place

/-- An entry that came into being in a directory or went from it. A move is neither. -/
structure EntryChange where
  directory : NodeNumber
  name : EntryName
  change : Change
  deriving DecidableEq, Repr

namespace FileTree

def rootNumber : NodeNumber := 0

def root : FileTree :=
  ⟨[], [(rootNumber, .directory)], 1, []⟩

def node? (tree : FileTree) (place : Place) : Option NodeNumber :=
  if place = [] then some rootNumber else tree.entries.lookup place

def content? (tree : FileTree) (place : Place) : Option FileContent :=
  (tree.node? place).bind fun node => tree.contents.lookup node

def isDirectory (tree : FileTree) (place : Place) : Bool :=
  tree.content? place = some .directory

def isEmptyDirectory (tree : FileTree) (directory : Place) : Bool :=
  tree.entries.all fun (place, _) => place.dropLast ≠ directory

section Reading

/-- Looks a name up in a directory. -/
def find? (tree : FileTree) (directory : Place) (name : EntryName) :
    Except IoError (Option NodeNumber) :=
  if Route.nameLimit ≤ name.length then .error .nameTooLong
  else .ok (tree.node? (directory ++ [name]))

/-- Goes from a directory along names, each of which has to be that of a directory. -/
def walk (tree : FileTree) : Place → List EntryName → Except IoError Place
  | directory, [] => .ok directory
  | directory, name :: names =>
    if name = Route.itselfName then walk tree directory names
    else if name = Route.parentName then walk tree directory.dropLast names
    else
      match tree.find? directory name with
      | .error cause => .error cause
      | .ok none => .error .noSuchEntry
      | .ok (some _) =>
        if tree.isDirectory (directory ++ [name]) then walk tree (directory ++ [name]) names
        else .error .notDirectory

/-- The directory in which a route has its target. -/
def directoryOf (tree : FileTree) (route : Route) : Except IoError Place :=
  tree.walk (if route.fromRoot then [] else tree.current) route.way

/-- The place of an entry that exists. -/
def resolve (tree : FileTree) (path : PathBytes) : Except IoError Place := do
  Route.check path
  let route ← Route.ofBytes path
  let directory ← tree.directoryOf route
  match route.target with
  | .root => return []
  | .itself => return directory
  | .parent => return directory.dropLast
  | .entry name asDirectory =>
    match ← tree.find? directory name with
    | none => throw .noSuchEntry
    | some _ =>
      if asDirectory && !tree.isDirectory (directory ++ [name]) then throw .notDirectory
      else return directory ++ [name]

def doesExist (tree : FileTree) (path : PathBytes) : Bool :=
  (tree.resolve path).toBool

def readBytes (tree : FileTree) (path : PathBytes) : Except IoError (List UInt8) := do
  match tree.content? (← tree.resolve path) with
  | some (.file bytes) => return bytes
  | some .directory => throw .isDirectory
  | none => throw .noSuchEntry

def readText (tree : FileTree) (path : PathBytes) : Except IoError String := do
  match Utf8.decode? (← tree.readBytes path) with
  | some text => return String.ofList text
  | none => throw .notText

/-- The names in a directory, the oldest first. Names that are not text are left out. -/
def readNames (tree : FileTree) (path : PathBytes) : Except IoError (List String) := do
  let directory ← tree.resolve path
  if tree.isDirectory directory then
    return tree.entries.filterMap fun (place, _) =>
      if place.dropLast = directory then
        place.getLast?.bind fun name => (Utf8.decode? name).map String.ofList
      else none
  else throw .notDirectory

/-- Opens an entry for reading and writing, which a directory refuses. -/
def openFile (tree : FileTree) (path : PathBytes) : Except IoError Unit :=
  (tree.readBytes path).map fun _ => ()

end Reading

section Changing

abbrev Outcome := Except IoError (List EntryChange × FileTree)

/-- The change of an entry, if its directory is there. -/
def changeAt (tree : FileTree) (change : Change) (place : Place) : List EntryChange :=
  match tree.node? place.dropLast, place.getLast? with
  | some directory, some name => [⟨directory, name, change⟩]
  | _, _ => []

/-- A new node at a place where there was none. -/
def add (tree : FileTree) (place : Place) (content : FileContent) : FileTree :=
  { tree with
    entries := tree.entries ++ [(place, tree.next)]
    contents := (tree.next, content) :: tree.contents
    next := tree.next + 1 }

def create (tree : FileTree) (place : Place) (content : FileContent) :
    List EntryChange × FileTree :=
  (tree.changeAt .created place, tree.add place content)

def setContent (tree : FileTree) (node : NodeNumber) (content : FileContent) : FileTree :=
  { tree with contents := (node, content) :: tree.contents.filter (·.1 ≠ node) }

def drop (tree : FileTree) (place : Place) : FileTree :=
  { tree with entries := tree.entries.filter (·.1 ≠ place) }

def delete (tree : FileTree) (place : Place) : List EntryChange × FileTree :=
  (tree.changeAt .deleted place, tree.drop place)

/-- Makes the directories on the way to a place that are missing. -/
def makeDirectories (tree : FileTree) (place : Place) : FileTree :=
  (List.range (place.length + 1)).foldl
    (fun tree length =>
      if (tree.node? (place.take length)).isSome then tree
      else tree.add (place.take length) .directory) tree

/-- Puts a file at a place and makes the directories on the way. -/
def putFile (tree : FileTree) (place : Place) (bytes : List UInt8) : FileTree :=
  match tree.node? place with
  | some node => tree.setContent node (.file bytes)
  | none => (tree.makeDirectories place.dropLast).add place (.file bytes)

/-- Writes a whole file. A path that may only be a directory is refused before it is looked up. -/
def write (tree : FileTree) (path : PathBytes) (bytes : List UInt8) : Outcome := do
  Route.check path
  let route ← Route.ofBytes path
  let directory ← tree.directoryOf route
  match route.target with
  | .entry name false =>
    match ← tree.find? directory name with
    | none => return tree.create (directory ++ [name]) (.file bytes)
    | some node =>
      if tree.isDirectory (directory ++ [name]) then throw .isDirectory
      else return ([], tree.setContent node (.file bytes))
  | _ => throw .isDirectory

def makeDirectory (tree : FileTree) (path : PathBytes) : Outcome := do
  Route.check path
  let route ← Route.ofBytes path
  let directory ← tree.directoryOf route
  match route.target with
  | .entry name _ =>
    match ← tree.find? directory name with
    | none => return tree.create (directory ++ [name]) .directory
    | some _ => throw .alreadyExists
  | _ => throw .alreadyExists

/-- Gives a file a second name. -/
def link (tree : FileTree) (source target : PathBytes) : Outcome := do
  Route.check source
  Route.check target
  let sourcePlace ← tree.resolve source
  let route ← Route.ofBytes target
  let directory ← tree.directoryOf route
  match route.target with
  | .entry name asDirectory =>
    match ← tree.find? directory name, tree.node? sourcePlace with
    | some _, _ => throw .alreadyExists
    | none, none => throw .noSuchEntry
    | none, some node =>
      if asDirectory then throw .noSuchEntry
      else if tree.isDirectory sourcePlace then throw .notPermitted
      else
        let place := directory ++ [name]
        return (tree.changeAt .created place,
          { tree with entries := tree.entries ++ [(place, node)] })
  | _ => throw .alreadyExists

def removeFile (tree : FileTree) (path : PathBytes) : Outcome := do
  Route.check path
  let route ← Route.ofBytes path
  let directory ← tree.directoryOf route
  match route.target with
  | .entry name asDirectory =>
    match ← tree.find? directory name with
    | none => throw .noSuchEntry
    | some _ =>
      if tree.isDirectory (directory ++ [name]) then throw .isDirectory
      else if asDirectory then throw .notDirectory
      else return tree.delete (directory ++ [name])
  | _ => throw .isDirectory

/-- Removes an empty directory, which has to be called by its name. -/
def removeDirectory (tree : FileTree) (path : PathBytes) : Outcome := do
  Route.check path
  let route ← Route.ofBytes path
  let directory ← tree.directoryOf route
  match route.target with
  | .entry name _ =>
    match ← tree.find? directory name with
    | none => throw .noSuchEntry
    | some _ =>
      let place := directory ++ [name]
      if !tree.isDirectory place then throw .notDirectory
      else if !tree.isEmptyDirectory place then throw .notEmpty
      else return tree.delete place
  | .itself => throw .invalidArgument
  | .parent => throw .notEmpty
  | .root => throw .busy

/-- Removes a directory and all below it, the innermost entries first. -/
def removeTree (tree : FileTree) (path : PathBytes) : Outcome := do
  let place ← tree.resolve path
  if tree.isDirectory place then
    let below := tree.entries.filter fun entry => place.isPrefixOf entry.1
    return (below.reverse.flatMap fun entry => tree.changeAt .deleted entry.1,
      { tree with entries := tree.entries.filter fun entry => !place.isPrefixOf entry.1 })
  else throw .notDirectory

def move (tree : FileTree) (source target : Place) : FileTree :=
  let tree := tree.drop target
  { tree with
    entries := tree.entries.map fun (place, node) =>
      if source.isPrefixOf place then (target ++ place.drop source.length, node)
      else (place, node) }

/-- Whether the node at a place may take the place of another. -/
def mayReplace (tree : FileTree) (source target : Place) : Except IoError Unit :=
  match tree.isDirectory source, tree.isDirectory target with
  | true, false => throw .notDirectory
  | false, true => throw .isDirectory
  | false, false => return ()
  | true, true => if tree.isEmptyDirectory target then return () else throw .notEmpty

/-- Moves an entry with all below it, in place of what may be at the target. Two names of one file
stay as they are. -/
def rename (tree : FileTree) (source target : PathBytes) : Outcome := do
  Route.check source
  Route.check target
  let sourceRoute ← Route.ofBytes source
  let sourceDirectory ← tree.directoryOf sourceRoute
  let targetRoute ← Route.ofBytes target
  let targetDirectory ← tree.directoryOf targetRoute
  match sourceRoute.target, targetRoute.target with
  | .entry sourceName sourceAsDirectory, .entry targetName targetAsDirectory =>
    let sourcePlace := sourceDirectory ++ [sourceName]
    let targetPlace := targetDirectory ++ [targetName]
    match ← tree.find? sourceDirectory sourceName with
    | none => throw .noSuchEntry
    | some node =>
      let replaced? ← tree.find? targetDirectory targetName
      if !tree.isDirectory sourcePlace && (sourceAsDirectory || targetAsDirectory) then
        throw .notDirectory
      else if sourcePlace.isPrefixOf targetDirectory then throw .invalidArgument
      else if targetPlace.isPrefixOf sourceDirectory then throw .notEmpty
      else if replaced? = some node then return ([], tree)
      else
        if replaced?.isSome then tree.mayReplace sourcePlace targetPlace
        return ([], tree.move sourcePlace targetPlace)
  | _, _ => throw .busy

end Changing

end FileTree

end CameraHotplug
