import CameraHotplug.Environment
import CameraHotplug.Settings

/-!
A bench is a device directory in memory: entries that may carry a video node, and a queue of events
that its owner sends by hand. Nodes and counts are kept by the components of their path.
-/

namespace CameraHotplug

/-- A video node on the bench. `attribute?` is what its name attribute holds. -/
structure BenchNode where
  driver : String
  card : String
  attribute? : Option String
  deviceCaps : UInt32
  formats : List FourCC
  refusesOpen : Bool
  refusesQuery : Bool
  deriving DecidableEq, Repr

namespace BenchNode

def blank : BenchNode where
  driver := ""
  card := ""
  attribute? := none
  deviceCaps := 0
  formats := []
  refusesOpen := false
  refusesQuery := false

def uvcCamera : BenchNode :=
  { blank with
    driver := "uvcvideo"
    card := "USB 2.0 Camera"
    attribute? := some "USB 2.0 Camera: USB Camera\n"
    deviceCaps := Kernel.videoCapture
    formats := [.yuyv, .mjpg] }

def uvcMetadata : BenchNode :=
  { uvcCamera with deviceCaps := Kernel.metadataCapture, formats := [] }

def codec (name : String) : BenchNode :=
  { blank with
    driver := "amphion-vpu"
    card := name
    attribute? := some (name ++ "\n")
    deviceCaps := Kernel.memoryToMemory ||| Kernel.videoCapture
    formats := [.nv12] }

def capture (name : String) : BenchNode :=
  { blank with
    driver := "mxc-isi-cap"
    card := name
    attribute? := some (name ++ "\n")
    deviceCaps := Kernel.videoCaptureMultiplanar
    formats := [.nv12] }

/-- The name as the kernel would show it, on a line of its own. -/
def withName (node : BenchNode) (name? : Option String) : BenchNode :=
  { node with attribute? := name?.map (· ++ "\n") }

def capability (node : BenchNode) : Except IoError Capability :=
  if node.refusesQuery then .error .inputOutput
  else .ok
    { driver := node.driver
      card := node.card
      busInfo := "usb-mock"
      capabilities := Kernel.deviceCapabilities ||| node.deviceCaps
      deviceCaps := node.deviceCaps }

/-- Formats exist on the single-planar queue of nodes that capture there. -/
def format (node : BenchNode) (queue index : UInt32) : Except IoError FourCC :=
  if queue = Kernel.captureQueue && node.deviceCaps &&& Kernel.videoCapture ≠ 0 then
    match node.formats[index.toNat]? with
    | some format => .ok format
    | none => .error .invalidArgument
  else .error .invalidArgument

end BenchNode

structure Bench where
  directory : Path
  sysfsRoot : Path
  entries : List String
  nodes : List (List Path.Component × BenchNode)
  opens : List (List Path.Component)
  queue : EventQueue
  watchTaken : Bool
  directoryFails : Bool
  watchFails : Bool

namespace Bench

def make (directory sysfsRoot : Path) : Bench where
  directory := directory
  sysfsRoot := sysfsRoot
  entries := []
  nodes := []
  opens := []
  queue := .empty
  watchTaken := false
  directoryFails := false
  watchFails := false

def ofSettings (settings : Settings) : Bench :=
  make settings.deviceDirectory settings.sysfsRoot

/-- Where the node of an entry is kept. -/
def place (bench : Bench) (name : String) : List Path.Component :=
  (bench.directory.join name).components

def nodeAt? (bench : Bench) (place : List Path.Component) : Option BenchNode :=
  bench.nodes.lookup place

/-- An entry that is there already keeps its position. -/
def addEntry (bench : Bench) (name : String) : Bench :=
  if name ∈ bench.entries then bench else { bench with entries := bench.entries ++ [name] }

def addNode (bench : Bench) (name : String) (node : BenchNode) : Bench :=
  let bench := bench.addEntry name
  let place := bench.place name
  { bench with nodes := (place, node) :: bench.nodes.filter (·.1 ≠ place) }

def removeEntry (bench : Bench) (name : String) : Bench :=
  { bench with
    entries := bench.entries.filter (· ≠ name)
    nodes := bench.nodes.filter (·.1 ≠ bench.place name) }

def emit (bench : Bench) (event : WatchEvent) : Bench :=
  { bench with queue := bench.queue.send event }

def hotplug (bench : Bench) (name : String) (node : BenchNode) : Bench :=
  (bench.addNode name node).emit ⟨.created, name⟩

def hotplugEntry (bench : Bench) (name : String) : Bench :=
  (bench.addEntry name).emit ⟨.created, name⟩

def unplug (bench : Bench) (name : String) : Bench :=
  (bench.removeEntry name).emit ⟨.deleted, name⟩

def setDirectoryFails (bench : Bench) (fails : Bool) : Bench :=
  { bench with directoryFails := fails }

def setWatchFails (bench : Bench) (fails : Bool) : Bench :=
  { bench with watchFails := fails }

/-- What the owner of a bench can do to it. -/
inductive Action where
  | addNode (name : String) (node : BenchNode)
  | addEntry (name : String)
  | removeEntry (name : String)
  | emit (event : WatchEvent)
  | hotplug (name : String) (node : BenchNode)
  | hotplugEntry (name : String)
  | unplug (name : String)
  | setDirectoryFails (fails : Bool)
  | setWatchFails (fails : Bool)
  deriving DecidableEq, Repr

def apply (bench : Bench) : Action → Bench
  | .addNode name node => bench.addNode name node
  | .addEntry name => bench.addEntry name
  | .removeEntry name => bench.removeEntry name
  | .emit event => bench.emit event
  | .hotplug name node => bench.hotplug name node
  | .hotplugEntry name => bench.hotplugEntry name
  | .unplug name => bench.unplug name
  | .setDirectoryFails fails => bench.setDirectoryFails fails
  | .setWatchFails fails => bench.setWatchFails fails

/-- How often the node of an entry was opened, failures and other spellings included. -/
def openCount (bench : Bench) (name : String) : Nat :=
  bench.opens.count (bench.place name)

section Calls

def listing (bench : Bench) (directory : Path) : Except IoError (List String) :=
  if bench.directoryFails || decide (¬ directory.SamePlace bench.directory) then
    .error .noSuchEntry
  else .ok bench.entries

def openNode (bench : Bench) (path : Path) : Except IoError BenchNode × Bench :=
  let place := path.components
  (match bench.nodeAt? place with
    | some node => if node.refusesOpen then .error .busy else .ok node
    | none => .error .noSuchEntry,
    { bench with opens := place :: bench.opens })

/-- The place of the node whose attributes are kept in the directory of an attribute path. -/
def attributeOwner? (bench : Bench) (path : Path) : Option (List Path.Component) :=
  let root := bench.sysfsRoot.components
  if root.isPrefixOf path.components then
    match (path.components.drop root.length).reverse with
    | [] | .root :: _ => none
    | _ :: rest => some (Path.under bench.directory.components rest.reverse)
  else none

def attributeText (bench : Bench) (path : Path) : Except IoError String :=
  match (bench.attributeOwner? path).bind bench.nodeAt? |>.bind BenchNode.attribute? with
  | some text => .ok text
  | none => .error .noSuchEntry

/-- The queue can be watched once. What was sent before is delivered too. -/
def openWatch (bench : Bench) (directory : Path) : Except WatchError Unit × Bench :=
  if bench.watchFails then (.error (.generic "inotify add watch failed"), bench)
  else if ¬ directory.SamePlace bench.directory then (.error .pathNotFound, bench)
  else if bench.watchTaken then (.error (.generic "mock watch already taken"), bench)
  else (.ok (), { bench with watchTaken := true })

def wait (bench : Bench) : Except WatchError (List WatchEvent) × Bench :=
  let (answer, queue) := bench.queue.wait
  (answer, { bench with queue })

/-- The bench as an environment whose devices are constructed by `construct`. -/
def environment {δ : Type} (construct : Version → Path → Construction δ) :
    Environment Bench BenchNode δ where
  readDirectory directory := fun bench => (bench.listing directory, bench)
  openNode path _ := fun bench => bench.openNode path
  queryCapability node := fun bench => (node.capability, bench)
  enumerateFormat node queue index := fun bench => (node.format queue index, bench)
  readAttribute path := fun bench => (bench.attributeText path, bench)
  openWatch directory := fun bench => bench.openWatch directory
  wait _ := fun bench => bench.wait
  construct version path := fun bench => (construct version path, bench)
  pause _ := fun bench => ((), bench)

end Calls

end Bench

end CameraHotplug
