import CameraHotplug.DeviceNode
import CameraHotplug.Environment

/-!
Which device nodes are external cameras. A USB camera is known by its driver and by having a
format to capture in; a receiver by its driver and its name. A node that cannot be asked is neither.
-/

namespace CameraHotplug

inductive Classification where
  | notExternal
  | external
  | externalReceiver
  deriving DecidableEq, Repr

namespace Classification

def isExternal : Classification → Bool
  | .notExternal => false
  | .external | .externalReceiver => true

def text : Classification → String
  | .notExternal => "not-external"
  | .external => "external"
  | .externalReceiver => "external-receiver"

end Classification

/-- Codecs are known by the name of their node. -/
def Patterns.isCodec (patterns : Patterns) (name : String) : Bool :=
  patterns.codecPrefixes.any (Text.startsWith name ·)

section Probing

variable {σ ν δ : Type} (environment : Environment σ ν δ)

/-- Asks the node step by step and gives up at the first failure. Formats are asked for only when
the driver is one of USB cameras and the node is no codec. -/
def classify (settings : Settings) (node : DeviceNode) : StateM (Observed σ) Classification := do
  match ← Observed.openNode environment node.path .probe with
  | .error _ => return .notExternal
  | .ok opened =>
    match ← Observed.queryCapability environment opened with
    | .error _ => return .notExternal
    | .ok capability =>
      match ← Observed.readAttribute environment (node.nameAttribute settings.sysfsRoot) with
      | .error _ => return .notExternal
      | .ok content =>
        let name := Text.trimEnd content
        if settings.patterns.isCodec name then return .notExternal
        else if Text.contains capability.driver settings.patterns.uvcMarker then
          match ← Observed.enumerateFormat environment opened Kernel.captureQueue 0 with
          | .error _ => return .notExternal
          | .ok _ => return .external
        else if Text.contains capability.driver settings.patterns.captureMarker &&
            Text.startsWith name settings.patterns.receiverPrefix then
          return .externalReceiver
        else return .notExternal

/-- Whether the node opens for use and can capture. -/
def probeCapture (node : DeviceNode) : StateM (Observed σ) Bool := do
  match ← Observed.openNode environment node.path .blocking with
  | .error _ => return false
  | .ok opened =>
    match ← Observed.queryCapability environment opened with
    | .error _ => return false
    | .ok capability => return capability.isCapture

end Probing

end CameraHotplug
