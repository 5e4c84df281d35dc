import CameraHotplug.IoError
import CameraHotplug.Json.Reader
import CameraHotplug.Path

/-!
What can go wrong, with the text and the status of each cause.
-/

namespace CameraHotplug

inductive WatchError where
  | generic (reason : String)
  | pathNotFound
  deriving DecidableEq, Repr

def WatchError.message : WatchError → String
  | .generic reason => reason
  | .pathNotFound => "No path was found."

def Json.Fault.message : Json.Fault → String
  | .malformed => "the text is not JSON"
  | .unfinished => "the text ends inside a value"
  | .unsuitable => "a value does not suit its place"

/-- How a request ended, as its caller is told. -/
inductive Status where
  | ok
  | illegalArgument
  | internalError
  | operationNotSupported
  deriving DecidableEq, Repr

def Status.text : Status → String
  | .ok => "OK"
  | .illegalArgument => "ILLEGAL_ARGUMENT"
  | .internalError => "INTERNAL_ERROR"
  | .operationNotSupported => "OPERATION_NOT_SUPPORTED"

inductive Error where
  | io (cause : IoError)
  | watch (cause : WatchError)
  | json (cause : Json.Fault)
  | settings (reason : String)
  | directoryUnavailable (directory : Path) (cause : IoError)
  | invalidDeviceName (name : String)
  | deviceNotPresent (name : String)
  | deviceInit (device : Path) (reason : String)
  | notSupported (operation : String)
  | workerPanicked
  deriving DecidableEq, Repr

namespace Error

/-- The text of the error that this one was made from. -/
def cause? : Error → Option String
  | .io cause => some cause.message
  | .watch cause => some cause.message
  | .json cause => some cause.message
  | .directoryUnavailable _ cause => some cause.message
  | _ => none

/-- The message without the cause at its end. -/
def heading : Error → String
  | .io _ => "I/O error: "
  | .watch _ => "filesystem watch error: "
  | .json _ => "configuration parse error: "
  | .settings reason => "invalid configuration: " ++ reason
  | .directoryUnavailable directory _ => "cannot open " ++ directory.text ++ ": "
  | .invalidDeviceName name => "invalid device name: " ++ name
  | .deviceNotPresent name => "device not present: " ++ name
  | .deviceInit device reason => "camera device " ++ device.text ++ " init failed: " ++ reason
  | .notSupported operation => "operation not supported: " ++ operation
  | .workerPanicked => "discovery worker panicked"

def message (error : Error) : String :=
  error.heading ++ error.cause?.getD ""

/-- Only a caller's own mistakes are illegal arguments. -/
def status : Error → Status
  | .invalidDeviceName _ | .deviceNotPresent _ => .illegalArgument
  | .notSupported _ => .operationNotSupported
  | _ => .internalError

end Error

end CameraHotplug
