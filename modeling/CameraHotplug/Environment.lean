import CameraHotplug.Capability
import CameraHotplug.FourCC
import CameraHotplug.Watch
import CameraHotplug.Version

/-!
All that discovery asks of the world outside: directories, device nodes, attribute files, watches,
the construction of devices and the passing of time. An environment answers each call from a state
of its own, which any call may change, so the answers may differ from call to call. Discovery sees
the world only through calls, and every call is written down in order.
-/

namespace CameraHotplug

inductive OpenMode where
  | probe
  | blocking
  deriving DecidableEq, Repr

/-- What came of constructing a device. -/
inductive Construction (δ : Type) where
  | built (device : δ)
  | failed (error : Error)
  | panicked

def Construction.discard {δ : Type} : Construction δ → Construction Unit
  | .built _ => .built ()
  | .failed error => .failed error
  | .panicked => .panicked

/-- The state is `σ`, an opened node `ν` and a constructed device `δ`. Opening a watch replaces the
one that was open before. -/
structure Environment (σ ν δ : Type) where
  readDirectory : Path → StateM σ (Except IoError (List String))
  openNode : Path → OpenMode → StateM σ (Except IoError ν)
  queryCapability : ν → StateM σ (Except IoError Capability)
  enumerateFormat : ν → UInt32 → UInt32 → StateM σ (Except IoError FourCC)
  readAttribute : Path → StateM σ (Except IoError String)
  openWatch : Path → StateM σ (Except WatchError Unit)
  wait : UInt64 → StateM σ (Except WatchError (List WatchEvent))
  construct : Version → Path → StateM σ (Construction δ)
  pause : UInt64 → StateM σ Unit

/-- The same environment where a device counts as constructed when its node opens for use and tells
its capability. -/
def Environment.probing {σ ν δ : Type} (environment : Environment σ ν δ) :
    Environment σ ν Capability where
  readDirectory := environment.readDirectory
  openNode := environment.openNode
  queryCapability := environment.queryCapability
  enumerateFormat := environment.enumerateFormat
  readAttribute := environment.readAttribute
  openWatch := environment.openWatch
  wait := environment.wait
  pause := environment.pause
  construct _ path := do
    match ← environment.openNode path .blocking with
    | .error cause => return .failed (.deviceInit path cause.message)
    | .ok node =>
      match ← environment.queryCapability node with
      | .error cause => return .failed (.deviceInit path cause.message)
      | .ok capability => return .built capability

/-- A call with its answer. -/
inductive Call where
  | readDirectory (directory : Path) (answer : Except IoError (List String))
  | openNode (path : Path) (mode : OpenMode) (answer : Except IoError Unit)
  | queryCapability (answer : Except IoError Capability)
  | enumerateFormat (queue index : UInt32) (answer : Except IoError FourCC)
  | readAttribute (path : Path) (answer : Except IoError String)
  | openWatch (directory : Path) (answer : Except WatchError Unit)
  | wait (milliseconds : UInt64) (answer : Except WatchError (List WatchEvent))
  | construct (version : Version) (path : Path) (answer : Construction Unit)
  | pause (milliseconds : UInt64)

/-- The environment's state and every call made so far, the oldest first. -/
structure Observed (σ : Type) where
  state : σ
  calls : List Call

namespace Observed

variable {σ ν δ α : Type}

def call (operation : StateM σ α) (record : α → Call) : StateM (Observed σ) α := fun observed =>
  let (answer, state) := operation observed.state
  (answer, ⟨state, observed.calls ++ [record answer]⟩)

variable (environment : Environment σ ν δ)

def readDirectory (directory : Path) : StateM (Observed σ) (Except IoError (List String)) :=
  call (environment.readDirectory directory) (.readDirectory directory)

def openNode (path : Path) (mode : OpenMode) : StateM (Observed σ) (Except IoError ν) :=
  call (environment.openNode path mode) fun answer => .openNode path mode (answer.map fun _ => ())

def queryCapability (node : ν) : StateM (Observed σ) (Except IoError Capability) :=
  call (environment.queryCapability node) .queryCapability

def enumerateFormat (node : ν) (queue index : UInt32) :
    StateM (Observed σ) (Except IoError FourCC) :=
  call (environment.enumerateFormat node queue index) (.enumerateFormat queue index)

def readAttribute (path : Path) : StateM (Observed σ) (Except IoError String) :=
  call (environment.readAttribute path) (.readAttribute path)

def openWatch (directory : Path) : StateM (Observed σ) (Except WatchError Unit) :=
  call (environment.openWatch directory) (.openWatch directory)

def wait (milliseconds : UInt64) : StateM (Observed σ) (Except WatchError (List WatchEvent)) :=
  call (environment.wait milliseconds) (.wait milliseconds)

def construct (version : Version) (path : Path) : StateM (Observed σ) (Construction δ) :=
  call (environment.construct version path) fun answer => .construct version path answer.discard

def pause (milliseconds : UInt64) : StateM (Observed σ) Unit :=
  call (environment.pause milliseconds) fun _ => .pause milliseconds

end Observed

end CameraHotplug
