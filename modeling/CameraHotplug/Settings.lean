import CameraHotplug.Ascending
import CameraHotplug.LogicalId
import CameraHotplug.Path

/-!
The settings of a discovery run. They are chosen once, checked and normalized before use.
-/

namespace CameraHotplug

/-- The texts by which drivers and nodes are recognized. -/
structure Patterns where
  codecPrefixes : List String
  uvcMarker : String
  captureMarker : String
  receiverPrefix : String
  deriving DecidableEq

/-- Delays are in milliseconds. A device node is named by `nodePrefix` and a decimal suffix; an
auxiliary entry, whose creation signals a receiver, begins with `auxPrefix`. -/
structure Settings where
  idOffset : UInt32
  internalDevices : Ascending UInt32
  versionMinor : UInt32
  deviceDirectory : Path
  nodePrefix : String
  auxPrefix : String
  sysfsRoot : Path
  settleDelay : UInt64
  receiverSettleDelay : UInt64
  pollTimeout : UInt64
  patterns : Patterns
  deriving DecidableEq

def Patterns.standard : Patterns where
  codecPrefixes := ["amphion-vpu-decoder", "amphion-vpu-encoder"]
  uvcMarker := "uvc"
  captureMarker := "cap"
  receiverPrefix := "mxc_isi.6.capture"

namespace Settings

def standard : Settings where
  idOffset := 100
  internalDevices := .empty
  versionMinor := 4
  deviceDirectory := ⟨"/dev"⟩
  nodePrefix := "video"
  auxPrefix := "cec"
  sysfsRoot := ⟨"/sys/class/video4linux"⟩
  settleDelay := 100
  receiverSettleDelay := 800
  pollTimeout := 250
  patterns := .standard

/-- Equal but for the spelling of their paths. -/
def Agrees (left right : Settings) : Prop :=
  left.deviceDirectory.SamePlace right.deviceDirectory ∧
    left.sysfsRoot.SamePlace right.sysfsRoot ∧
    { left with deviceDirectory := right.deviceDirectory, sysfsRoot := right.sysfsRoot } = right

instance (left right : Settings) : Decidable (Agrees left right) :=
  inferInstanceAs (Decidable (_ ∧ _ ∧ _))

/-- What makes settings useless: discovery would match everything, nothing or never wait. -/
inductive Flaw where
  | emptyNodePrefix
  | emptyAuxPrefix
  | overlap (nodePrefix auxPrefix : String)
  | noPollTimeout
  deriving DecidableEq, Repr

def Flaw.message : Flaw → String
  | .emptyNodePrefix => "node_prefix must not be empty"
  | .emptyAuxPrefix => "aux_prefix must not be empty"
  | .overlap nodePrefix auxPrefix =>
    s!"node_prefix '{nodePrefix}' and aux_prefix '{auxPrefix}' overlap"
  | .noPollTimeout => "poll_timeout_ms must be positive"

/-- The first flaw, if there is one. Neither prefix may begin the other, so no entry name begins
with both. -/
def flaw? (settings : Settings) : Option Flaw :=
  if settings.nodePrefix = "" then some .emptyNodePrefix
  else if settings.auxPrefix = "" then some .emptyAuxPrefix
  else if Text.startsWith settings.nodePrefix settings.auxPrefix ||
      Text.startsWith settings.auxPrefix settings.nodePrefix then
    some (.overlap settings.nodePrefix settings.auxPrefix)
  else if settings.pollTimeout = 0 then some .noPollTimeout
  else none

def check (settings : Settings) : Except Flaw Settings :=
  match settings.flaw? with
  | some flaw => .error flaw
  | none => .ok settings

def version (settings : Settings) : Version :=
  .fromMinor settings.versionMinor

/-- Checked settings whose minor version is a supported one. -/
def normalize (settings : Settings) : Except Flaw Settings :=
  settings.check.map fun settings => { settings with versionMinor := settings.version.minor }

def isInternal (settings : Settings) (suffix : UInt32) : Bool :=
  settings.internalDevices.contains suffix

/-- Milliseconds as microseconds. -/
def microseconds (delay : UInt64) : Nat :=
  1000 * delay.toNat

end Settings

end CameraHotplug
