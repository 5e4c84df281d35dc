import CameraHotplug.Discovery.Handle
import CameraHotplug.Settings.Document

/-!
The provider answers requests about external cameras while discovery runs behind it. Requests read
the registry; only resolving an id constructs a device.
-/

namespace CameraHotplug

structure Provider (σ : Type) where
  settings : Settings
  handle : Handle σ

namespace Provider

variable {σ ν δ : Type} (environment : Environment σ ν δ)

/-- Refuses flawed settings; discovery starts with normalized ones. -/
def start (settings : Settings) (state : σ) : Except Error (Provider σ) :=
  (Settings.orError settings.normalize).map fun settings =>
    ⟨settings, ⟨Run.start state, false⟩⟩

def registry (provider : Provider σ) : Registry :=
  provider.handle.run.worker.registry

def version (provider : Provider σ) : Version :=
  provider.settings.version

def withWorker (provider : Provider σ) (worker : Worker σ) : Provider σ :=
  { provider with
    handle := { provider.handle with run := { provider.handle.run with worker } } }

def withRegistry (provider : Provider σ) (registry : Registry) : Provider σ :=
  provider.withWorker { provider.handle.run.worker with registry }

def attach (provider : Provider σ) (subscriber : Subscriber) : Provider σ :=
  provider.withRegistry (provider.registry.attach subscriber)

def detach (provider : Provider σ) : Bool × Provider σ :=
  let (attached, registry) := provider.registry.detach
  (attached, provider.withRegistry registry)

/-- A failed construction as the caller of `resolve` sees it: always of that device. -/
def initFailure (path : Path) : Error → Error
  | .deviceInit device reason => .deviceInit device reason
  | error => .deviceInit path error.message

/-- The node of the device that a name stands for. -/
def locate (provider : Provider σ) (name : String) : Except Error Path :=
  match LogicalId.parse name with
  | .error error => .error error
  | .ok id =>
    if provider.registry.isPresent id then
      match provider.settings.nodePath? id with
      | none => .error (.invalidDeviceName name)
      | some path => .ok path
    else .error (.deviceNotPresent name)

/-- Constructs the device that a name stands for, in the version of the settings. -/
def resolve (provider : Provider σ) (name : String) : Construction δ × Provider σ :=
  match provider.locate name with
  | .error error => (.failed error, provider)
  | .ok path =>
    let worker := provider.handle.run.worker
    let (construction, outside) :=
      Observed.construct environment provider.version path worker.outside
    let provider := provider.withWorker { worker with outside }
    match construction with
    | .failed error => (.failed (initFailure path error), provider)
    | other => (other, provider)

/-- External cameras are announced to the subscriber only, never listed. -/
def cameraIds (_ : Provider σ) : List LogicalId :=
  []

def torchModeSupported (_ : Provider σ) : Bool :=
  true

def concurrentCameraIds (_ : Provider σ) : List (List LogicalId) :=
  []

def concurrentStreamsSupported (_ : Provider σ) (_ : List LogicalId) : Bool :=
  false

/-- The interface before version 3 is not offered. -/
def legacyInterface (_ : Provider σ) (_ : String) : Status :=
  (Error.notSupported "legacy device interface").status

def presence (provider : Provider σ) (id : LogicalId) : Option Presence :=
  provider.registry.lookup id

def presentDevices (provider : Provider σ) : List LogicalId :=
  provider.registry.devices.toList

def stage (provider : Provider σ) : Stage :=
  provider.handle.run.stage

def isFinished (provider : Provider σ) : Bool :=
  provider.handle.isFinished

def requestStop (provider : Provider σ) : Provider σ :=
  { provider with handle := provider.handle.requestStop }

/-- The first result of the finished run; `none` while it goes on. -/
def join (provider : Provider σ) : Option (Except Error Unit) × Provider σ :=
  let (result?, handle) := provider.handle.join
  (result?, { provider with handle })

/-- Discovery goes on until it has handled what has happened. -/
def settle (waits : Nat) (provider : Provider σ) : Provider σ :=
  let run := provider.handle.run.settle environment provider.settings waits
  { provider with handle := { provider.handle with run } }

/-- Requests a stop, lets the run finish its work in hand and takes its result. -/
def shutdown (provider : Provider σ) : Option (Except Error Unit) × Provider σ :=
  (provider.requestStop.settle environment 1).join

end Provider

end CameraHotplug
