import CameraHotplug.CommandLine.Arguments
import CameraHotplug.CommandLine.Failure
import CameraHotplug.Listing
import CameraHotplug.Provider

/-!
The commands, over any environment. Each loads the settings first, so flawed settings are reported
before anything else.
-/

namespace CameraHotplug.CommandLine

/-- What a command leaves behind. -/
structure Output where
  exit : UInt8
  stdout : String
  stderr : String
  deriving DecidableEq, Repr

def Output.ofResult : Except Failure String → Output
  | .ok text => ⟨0, text, ""⟩
  | .error failure => ⟨failure.code, "", failure.message ++ "\n"⟩

/-- The bytes of a file that exists. -/
abbrev Files := Path → Option (Except IoError (List UInt8))

def orFailure {α : Type} (result : Except Error α) : Except Failure α :=
  result.mapError .ofError

/-- The settings of the file, or the standard ones, with the overrides of the options. -/
def loadSettings (files : Files) (options : Options) : Except Failure Settings := do
  let settings ← match options.configFile? with
    | none => pure Settings.standard
    | some path =>
      match files path with
      | none =>
        throw (Failure.invalidArguments ("Configuration file not found: " ++ path.text))
      | some contents => orFailure (Settings.readContents contents)
  let settings := { settings with
    idOffset := options.offset?.getD settings.idOffset
    versionMinor := options.minor?.getD settings.versionMinor }
  orFailure (Settings.orError settings.normalize)

section Parse

def nodeText (settings : Settings) (id : LogicalId) : String :=
  match settings.nodePath? id with
  | some path => path.text
  | none => "none (number below offset " ++ Decimal.text settings.idOffset ++ ")"

def isCurrent (settings : Settings) (id : LogicalId) : Bool :=
  id.major = settings.version.major && id.minor = settings.version.minor

def idText (settings : Settings) (id : LogicalId) : String :=
  "Device:  " ++ id.text ++ "\nVersion: " ++ id.versionText ++ "\nNumber:  " ++
    Decimal.text id.number ++ "\nNode:    " ++ nodeText settings id ++ "\n" ++
    (if isCurrent settings id then ""
      else "Note:    provider is configured for version " ++ settings.version.text ++ "\n")

def idJson (settings : Settings) (id : LogicalId) : Json :=
  .object [("id", id.toJson), ("version", .string id.versionText),
    ("number", .number id.number.toNat),
    ("node", match settings.nodePath? id with
      | some path => .string path.text
      | none => .null),
    ("current_version", .bool (isCurrent settings id))]

def parse (settings : Settings) (json : Bool) (name : String) : Except Failure String :=
  (orFailure (LogicalId.parse name)).map fun id =>
    if json then (idJson settings id).document ++ "\n" else idText settings id

end Parse

section OverEnvironment

variable {σ ν δ : Type} (environment : Environment σ ν δ)

def scan (settings : Settings) (json externalOnly : Bool) (state : σ) : Except Failure String :=
  match (Listing.scan environment settings externalOnly ⟨state, []⟩).1 with
  | .ok listing => .ok (if json then listing.toJson.document ++ "\n" else listing.text)
  | .error cause => .error (.ofError (.directoryUnavailable settings.deviceDirectory cause))

def changeLine (json : Bool) (change : StatusChange) : String :=
  if json then change.toJson.line ++ "\n"
  else Text.padEnd 28 change.id.text ++ " " ++ change.presence.text ++ "\n"

/-- The changes told while discovery makes some waits. Its result is taken at the end. -/
def monitor (settings : Settings) (json : Bool) (waits : Nat) (state : σ) :
    Except Failure String := do
  let provider ← orFailure (Provider.start settings state)
  let provider := provider.attach ⟨fun _ _ => .returned⟩
  let provider := if waits = 0 then provider
    else provider.settle environment.probing waits
  let lines := provider.registry.deliveries.map fun delivery => changeLine json delivery.change
  match (provider.detach.2.shutdown environment.probing).1 with
  | some (.error error) => throw (Failure.ofError error)
  | _ => return String.join lines

/-- A wait lasts as long as the poll timeout. -/
def waitsWithin (settings : Settings) (seconds : UInt64) : Nat :=
  1000 * seconds.toNat / settings.pollTimeout.toNat

def runCommand (files : Files) (options : Options) (command : Command) (state : σ) :
    Except Failure String := do
  let settings ← loadSettings files options
  match command with
  | .scan externalOnly => scan environment settings options.json externalOnly state
  | .monitor duration? =>
    monitor environment settings options.json (waitsWithin settings (duration?.getD 0)) state
  | .parse name => parse settings options.json name

def execute (files : Files) (arguments : List String) (state : σ) : Output :=
  match readArguments arguments with
  | .error (.usage reason) => ⟨2, "", "error: " ++ reason ++ "\n"⟩
  | .error (.version program) => ⟨0, program ++ " 0.3.0\n", ""⟩
  | .error .help => ⟨0, "Usage: extcam [OPTIONS] <COMMAND>\n", ""⟩
  | .ok (options, command) => .ofResult (runCommand environment files options command state)

end OverEnvironment

end CameraHotplug.CommandLine
