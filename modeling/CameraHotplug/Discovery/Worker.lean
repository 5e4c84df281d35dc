import CameraHotplug.Classification
import CameraHotplug.Registry

/-!
What discovery does: it looks through the device directory, follows the changes of it, and records
in the registry which external cameras are there. A device that fails at any point is left out and
nothing else; only a construction that panics ends what the worker was doing.
-/

namespace CameraHotplug

/-- `receiver?` is the id of the receiver that a vanishing auxiliary entry takes with it, and
`watching` tells whether a watch is open. -/
structure Worker (σ : Type) where
  outside : Observed σ
  registry : Registry
  receiver? : Option LogicalId
  watching : Bool

/-- What came of the attempt to register one entry: the registry gained an id, or it did not. -/
inductive Attempt where
  | recorded
  | unchanged
  | panicked
  deriving DecidableEq, Repr

def Attempt.ending : Attempt → Ending
  | .panicked => .panicked
  | _ => .returned

/-- What came of a scan: how many ids the registry gained. -/
inductive Scan where
  | finished (count : Nat)
  | unavailable (cause : IoError)
  | panicked
  deriving DecidableEq, Repr

/-- What came of a poll: the events that were handled. -/
inductive Poll where
  | handled (events : List WatchEvent)
  | panicked
  deriving DecidableEq, Repr

namespace Worker

variable {σ ν δ : Type} (environment : Environment σ ν δ) (settings : Settings)

def start (state : σ) (registry : Registry) : Worker σ :=
  ⟨⟨state, []⟩, registry, none, false⟩

/-- Devices are constructed for trial in this version, whichever one the settings ask for. -/
def trialVersion : Version :=
  .v3_4

/-- Probes a classified node, constructs its device once for trial and records its id. -/
def enroll (worker : Worker σ) (node : DeviceNode) : Attempt × Worker σ :=
  match settings.logicalId? node with
  | none => (.unchanged, worker)
  | some id =>
    match probeCapture environment node worker.outside with
    | (false, outside) => (.unchanged, { worker with outside })
    | (true, outside) =>
      match Observed.construct environment trialVersion node.path outside with
      | (.panicked, outside) => (.panicked, { worker with outside })
      | (.failed _, outside) => (.unchanged, { worker with outside })
      | (.built _, outside) =>
        let (changed, registry) := worker.registry.recordPresent id
        (if changed then .recorded else .unchanged, { worker with outside, registry })

/-- Whether the registry lost the id of the node. -/
def dismiss (worker : Worker σ) (node : DeviceNode) : Bool × Worker σ :=
  match settings.logicalId? node with
  | none => (false, worker)
  | some id =>
    let (changed, registry) := worker.registry.recordAbsent id
    (changed, { worker with registry })

/-- Classifies a node and enrolls it if it is external. A receiver is remembered first. -/
def inspect (worker : Worker σ) (node : DeviceNode) : Attempt × Worker σ :=
  match classify environment settings node worker.outside with
  | (.notExternal, outside) => (.unchanged, { worker with outside })
  | (.external, outside) => enroll environment settings { worker with outside } node
  | (.externalReceiver, outside) =>
    enroll environment settings
      { worker with outside, receiver? := settings.logicalId? node } node

def scanEntry (worker : Worker σ) (name : String) : Attempt × Worker σ :=
  match settings.candidate? name with
  | none => (.unchanged, worker)
  | some node => inspect environment settings worker node

/-- Scans entries in order and counts the ids that the registry gained; `none` after a panic. -/
def scanEntries : List String → Nat → Worker σ → Option Nat × Worker σ
  | [], count, worker => (some count, worker)
  | name :: names, count, worker =>
    match scanEntry environment settings worker name with
    | (.panicked, worker) => (none, worker)
    | (.recorded, worker) => scanEntries names (count + 1) worker
    | (.unchanged, worker) => scanEntries names count worker

def readDirectory (worker : Worker σ) : Except IoError (List String) × Worker σ :=
  let (answer, outside) :=
    Observed.readDirectory environment settings.deviceDirectory worker.outside
  (answer, { worker with outside })

/-- Registers every external node of the device directory. -/
def scan (worker : Worker σ) : Scan × Worker σ :=
  match readDirectory environment settings worker with
  | (.error cause, worker) => (.unavailable cause, worker)
  | (.ok names, worker) =>
    match scanEntries environment settings names 0 worker with
    | (some count, worker) => (.finished count, worker)
    | (none, worker) => (.panicked, worker)

/-- Whether a new watch was opened. A failure leaves the open one as it is. -/
def registerWatch (worker : Worker σ) : Bool × Worker σ :=
  match Observed.openWatch environment settings.deviceDirectory worker.outside with
  | (.ok _, outside) => (true, { worker with outside, watching := true })
  | (.error _, outside) => (false, { worker with outside })

def pause (worker : Worker σ) (milliseconds : UInt64) : Worker σ :=
  { worker with outside := (Observed.pause environment milliseconds worker.outside).2 }

/-- The first candidate among some entries that is a receiver. -/
def findReceiverAmong : List String → StateM (Observed σ) (Option DeviceNode)
  | [] => return none
  | name :: names => do
    match settings.candidate? name with
    | none => findReceiverAmong names
    | some node =>
      match ← classify environment settings node with
      | .externalReceiver => return some node
      | _ => findReceiverAmong names

def findReceiver (worker : Worker σ) : Option DeviceNode × Worker σ :=
  match readDirectory environment settings worker with
  | (.error _, worker) => (none, worker)
  | (.ok names, worker) =>
    let (node?, outside) := findReceiverAmong environment settings names worker.outside
    (node?, { worker with outside })

def nodeCreated (worker : Worker σ) (node : DeviceNode) : Ending × Worker σ :=
  let (attempt, worker) :=
    inspect environment settings (pause environment worker settings.settleDelay) node
  (attempt.ending, worker)

/-- A receiver that goes is no longer remembered. -/
def nodeDeleted (worker : Worker σ) (node : DeviceNode) : Worker σ :=
  let receiver? :=
    if worker.receiver? = settings.logicalId? node then none else worker.receiver?
  (dismiss settings { worker with receiver? } node).2

def auxCreated (worker : Worker σ) : Ending × Worker σ :=
  match findReceiver environment settings
      (pause environment worker settings.receiverSettleDelay) with
  | (none, worker) => (.returned, worker)
  | (some node, worker) =>
    let (attempt, worker) :=
      enroll environment settings { worker with receiver? := settings.logicalId? node } node
    (attempt.ending, worker)

def auxDeleted (worker : Worker σ) : Worker σ :=
  match worker.receiver? with
  | none => worker
  | some id =>
    { worker with receiver? := none, registry := (worker.registry.recordAbsent id).2 }

/-- Applies one change of the device directory. Entries that are neither device nodes nor auxiliary
ones, and internal devices, do not matter. -/
def handleEvent (worker : Worker σ) (event : WatchEvent) : Ending × Worker σ :=
  match settings.node? event.name with
  | some node =>
    if settings.isInternal node.suffix then (.returned, worker)
    else match event.change with
      | .created => nodeCreated environment settings worker node
      | .deleted => (.returned, nodeDeleted settings worker node)
  | none =>
    if Text.startsWith event.name settings.auxPrefix then
      match event.change with
      | .created => auxCreated environment settings worker
      | .deleted => (.returned, auxDeleted worker)
    else (.returned, worker)

/-- Handles events in order; a panic loses the rest. -/
def handleEvents : List WatchEvent → Worker σ → Ending × Worker σ
  | [], worker => (.returned, worker)
  | event :: events, worker =>
    match handleEvent environment settings worker event with
    | (.panicked, worker) => (.panicked, worker)
    | (.returned, worker) => handleEvents events worker

/-- Waits for events, or tries to open a watch when there is none. A failed watch is given up. -/
def awaitEvents (worker : Worker σ) : List WatchEvent × Worker σ :=
  if worker.watching then
    match Observed.wait environment settings.pollTimeout worker.outside with
    | (.ok events, outside) => (events, { worker with outside })
    | (.error _, outside) => ([], { worker with outside, watching := false })
  else
    match registerWatch environment settings worker with
    | (true, worker) => ([], worker)
    | (false, worker) => ([], pause environment worker settings.pollTimeout)

def poll (worker : Worker σ) : Poll × Worker σ :=
  let (events, worker) := awaitEvents environment settings worker
  match handleEvents environment settings events worker with
  | (.returned, worker) => (.handled events, worker)
  | (.panicked, worker) => (.panicked, worker)

end Worker

end CameraHotplug
