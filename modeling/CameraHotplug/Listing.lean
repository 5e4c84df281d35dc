import CameraHotplug.Classification
import CameraHotplug.LogicalId.Document

/-!
The listing of all device nodes: each node once, in the order of suffixes, with the class that it is
counted in.
-/

namespace CameraHotplug

inductive ListedClass where
  | internal
  | examined (classification : Classification)
  deriving DecidableEq, Repr

def ListedClass.text : ListedClass → String
  | .internal => "internal"
  | .examined classification => classification.text

/-- Only external nodes are probed for capture. -/
structure ListedNode where
  path : Path
  id : LogicalId
  listedClass : ListedClass
  capture? : Option Bool
  deriving DecidableEq, Repr

structure Summary where
  total : Nat
  internal : Nat
  notExternal : Nat
  external : Nat
  receivers : Nat
  deriving DecidableEq, Repr

structure Listing where
  directory : Path
  version : Version
  offset : UInt32
  nodes : List ListedNode
  summary : Summary
  deriving DecidableEq, Repr

def Summary.of (nodes : List ListedNode) : Summary where
  total := nodes.length
  internal := nodes.countP (·.listedClass = .internal)
  notExternal := nodes.countP (·.listedClass = .examined .notExternal)
  external := nodes.countP (·.listedClass = .examined .external)
  receivers := nodes.countP (·.listedClass = .examined .externalReceiver)

namespace Listing

section Scanning

variable {σ ν δ : Type} (environment : Environment σ ν δ) (settings : Settings)

/-- The nodes among some entry names, by ascending suffix. -/
def nodesAmong (names : List String) : List DeviceNode :=
  (names.filterMap settings.node?).mergeSort fun left right => left.suffix ≤ right.suffix

def examine (node : DeviceNode) (id : LogicalId) : StateM (Observed σ) ListedNode := do
  if settings.isInternal node.suffix then return ⟨node.path, id, .internal, none⟩
  else
    match ← classify environment settings node with
    | .notExternal => return ⟨node.path, id, .examined .notExternal, none⟩
    | classification =>
      return ⟨node.path, id, .examined classification, some (← probeCapture environment node)⟩

def examineAll : List DeviceNode → StateM (Observed σ) (List ListedNode)
  | [] => return []
  | node :: nodes => do
    match settings.logicalId? node with
    | none => examineAll nodes
    | some id =>
      let listed ← examine environment settings node id
      return listed :: (← examineAll nodes)

/-- Lists all nodes, or the external ones only; the summary counts all of them in either case. -/
def scan (externalOnly : Bool) : StateM (Observed σ) (Except IoError Listing) := do
  match ← Observed.readDirectory environment settings.deviceDirectory with
  | .error cause => return .error cause
  | .ok names =>
    let nodes ← examineAll environment settings (nodesAmong settings names)
    return .ok
      { directory := settings.deviceDirectory
        version := settings.version
        offset := settings.idOffset
        nodes := if externalOnly then nodes.filter (·.capture?.isSome) else nodes
        summary := .of nodes }

end Scanning

section Writing

def captureNote : Option Bool → String
  | some true => " [capture ok]"
  | some false => " [capture probe failed]"
  | none => ""

def nodeLine (node : ListedNode) : String :=
  "  " ++ Text.padEnd 16 node.path.text ++ " " ++ Text.padEnd 18 node.listedClass.text ++ " " ++
    node.id.text ++ captureNote node.capture? ++ "\n"

def summaryLine (summary : Summary) : String :=
  s!"Summary: {summary.total} nodes, {summary.internal} internal, " ++
    s!"{summary.notExternal} not external, {summary.external} external, " ++
    s!"{summary.receivers} receivers\n"

def text (listing : Listing) : String :=
  "Scanned " ++ listing.directory.text ++ " (device version " ++ listing.version.text ++
    ", id offset " ++ Decimal.text listing.offset ++ ")\n\n" ++
    (if listing.nodes = [] then "  No matching device nodes\n"
      else String.join (listing.nodes.map nodeLine)) ++
    "\n" ++ summaryLine listing.summary

def nodeJson (node : ListedNode) : Json :=
  .object ([("node", .string node.path.text), ("id", node.id.toJson),
    ("class", .string node.listedClass.text)] ++
    match node.capture? with
    | some capture => [("capture", .bool capture)]
    | none => [])

def summaryJson (summary : Summary) : Json :=
  .object [("total", .number summary.total), ("internal", .number summary.internal),
    ("not_external", .number summary.notExternal), ("external", .number summary.external),
    ("receivers", .number summary.receivers)]

def toJson (listing : Listing) : Json :=
  .object [("device_dir", .string listing.directory.text),
    ("version", .string listing.version.text), ("offset", .number listing.offset.toNat),
    ("devices", .array (listing.nodes.map nodeJson)), ("summary", summaryJson listing.summary)]

end Writing

end Listing

end CameraHotplug
