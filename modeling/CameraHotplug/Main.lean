import CameraHotplug.CommandLine.Execution
import CameraHotplug.FileTree.Route

/-!
The program. It reads the two things that the commands ask for, the settings file and the names in
the device directory, and prints what they give. Requests to devices are out of its reach: every
node counts as one that does not answer.
-/

namespace CameraHotplug.Program

def ioErrorOf : IO.Error → IoError
  | .noFileOrDirectory _ _ _ => .noSuchEntry
  | .inappropriateType _ number _ => .system number.toInt32
  | .invalidArgument _ number _ => .system number.toInt32
  | .permissionDenied _ number _ => .system number.toInt32
  | .resourceBusy number _ => .system number.toInt32
  | _ => .inputOutput

/-- The bytes of the settings file, unless there is none. -/
def settingsFile (path : Path) : IO (Option (Except IoError (List UInt8))) := do
  if ← ((← IO.currentDir) / path.text).pathExists then
    try
      let bytes ← IO.FS.readBinFile path.text
      return some (.ok bytes.toList)
    catch error => return some (.error (ioErrorOf error))
  else return none

def namesIn (directory : Path) : IO (Except IoError (List String)) := do
  match Route.check directory.bytes, Route.ofBytes directory.bytes with
  | .error cause, _ => return .error cause
  | _, .error cause => return .error cause
  | .ok _, .ok _ =>
    try
      let entries ← ((← IO.currentDir) / directory.text).readDir
      return .ok (entries.map (·.fileName)).toList
    catch error => return .error (ioErrorOf error)

/-- A device directory of which only the names are known. -/
def environment (names : Except IoError (List String)) : Environment Unit Unit Unit where
  readDirectory _ := return names
  openNode _ _ := return .error .wrongDevice
  queryCapability _ := return .error .wrongDevice
  enumerateFormat _ _ _ := return .error .wrongDevice
  readAttribute _ := return .error .noSuchEntry
  openWatch _ := return .ok ()
  wait _ := return .ok []
  construct _ path := return .failed (.deviceInit path IoError.wrongDevice.message)
  pause _ := return ()

/-- How long the program watches before it ends. -/
def sleepFor : CommandLine.Command → IO Unit
  | .monitor (some seconds) => IO.sleep (1000 * seconds).toUInt32
  | .monitor none => IO.sleep 0xFFFFFFFF
  | _ => return ()

def run (arguments : List String) : IO UInt8 := do
  let parsed := CommandLine.readArguments arguments
  let contents? ← match parsed with
    | .ok (⟨_, some path, _, _⟩, _) => settingsFile path
    | _ => pure none
  let names ← match parsed with
    | .ok (options, _) =>
      match CommandLine.loadSettings (fun _ => contents?) options with
      | .ok settings => namesIn settings.deviceDirectory
      | .error _ => pure (.ok [])
    | .error _ => pure (.ok [])
  let output := CommandLine.execute (environment names) (fun _ => contents?) arguments ()
  IO.print output.stdout
  IO.eprint output.stderr
  match parsed with
  | .ok (_, command) => if output.exit = 0 then sleepFor command
  | .error _ => pure ()
  return output.exit

end CameraHotplug.Program

def main (arguments : List String) : IO UInt32 :=
  return (← CameraHotplug.Program.run arguments).toUInt32
