import CameraHotplug.Discovery.Run

/-!
The handle of a run: it tells the stage, requests a stop and takes the result.
-/

namespace CameraHotplug

/-- Control of a run from outside. The result can be taken once. -/
structure Handle (σ : Type) where
  run : Run σ
  joined : Bool

namespace Handle

variable {σ : Type}

def isFinished (handle : Handle σ) : Bool :=
  handle.joined || handle.run.isFinished

def requestStop (handle : Handle σ) : Handle σ :=
  { handle with run := handle.run.requestStop }

def resultOf : Phase → Option (Except Error Unit)
  | .returned result => some result
  | .panicked => some (.error .workerPanicked)
  | _ => none

/-- The result of the run, which only the first call gets; `none` while the run goes on. -/
def join (handle : Handle σ) : Option (Except Error Unit) × Handle σ :=
  if handle.joined then (some (.ok ()), handle)
  else match resultOf handle.run.phase with
    | some result => (some result, { handle with joined := true })
    | none => (none, handle)

def describe (handle : Handle σ) : String :=
  "WorkerHandle \x7b state: " ++ handle.run.stage.describe ++ ", stop_requested: " ++
    toString handle.run.stopRequested ++ " \x7d"

end Handle

end CameraHotplug
