import CameraHotplug.Error

/-!
Failures as the command line reports them: a text and an exit code for each kind.
-/

namespace CameraHotplug.CommandLine

inductive Failure where
  | invalidArguments (reason : String)
  | deviceNotFound (reason : String)
  | discoveryFailed (reason : String)
  | general (reason : String)
  deriving DecidableEq, Repr

namespace Failure

def code : Failure → UInt8
  | .invalidArguments _ => 2
  | .deviceNotFound _ => 3
  | .discoveryFailed _ => 4
  | .general _ => 1

def message : Failure → String
  | .invalidArguments reason => "Invalid arguments: " ++ reason
  | .deviceNotFound reason => "Device not found: " ++ reason
  | .discoveryFailed reason => "Discovery failed: " ++ reason
  | .general reason => "Error: " ++ reason

def ofError : Error → Failure
  | .invalidDeviceName name => .invalidArguments ("Invalid device name: " ++ name)
  | .settings reason => .invalidArguments ("Invalid configuration: " ++ reason)
  | .json cause => .invalidArguments ("Configuration parse error: " ++ cause.message)
  | .deviceNotPresent name => .deviceNotFound name
  | .io cause =>
    if cause = .noSuchEntry then .deviceNotFound cause.message
    else .general (Error.io cause).message
  | .directoryUnavailable directory cause =>
    .discoveryFailed (Error.directoryUnavailable directory cause).message
  | .watch cause => .discoveryFailed ("Filesystem watch failed: " ++ cause.message)
  | .workerPanicked => .discoveryFailed "Discovery worker panicked"
  | error => .general error.message

end Failure

end CameraHotplug.CommandLine
