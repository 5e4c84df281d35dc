import CameraHotplug.Discovery.Worker

/-!
A whole run of discovery, cut into steps between which the world may change and a stop may be
requested: opening the watch, reading the directory, each entry of it, each wait, and each event.
-/

namespace CameraHotplug

/-- What a run says of itself. -/
inductive Stage where
  | uninitialized
  | scanning
  | watching
  | stopped
  deriving DecidableEq, Repr

def Stage.text : Stage → String
  | .uninitialized => "uninitialized"
  | .scanning => "scanning"
  | .watching => "watching"
  | .stopped => "stopped"

def Stage.describe : Stage → String
  | .uninitialized => "Uninitialized"
  | .scanning => "ScanningExisting"
  | .watching => "Watching"
  | .stopped => "Stopped"

/-- What a run does next. -/
inductive Phase where
  | starting
  | listing
  | scanning (names : List String)
  | waiting
  | handling (events : List WatchEvent)
  | returned (result : Except Error Unit)
  | panicked

def Phase.isFinished : Phase → Bool
  | .returned _ | .panicked => true
  | _ => false

structure Run (σ : Type) where
  worker : Worker σ
  phase : Phase
  stage : Stage
  stopRequested : Bool

namespace Run

variable {σ ν δ : Type} (environment : Environment σ ν δ) (settings : Settings)

def start (state : σ) : Run σ where
  worker := Worker.start state .empty
  phase := .starting
  stage := .uninitialized
  stopRequested := false

def isFinished (run : Run σ) : Bool :=
  run.phase.isFinished

def requestStop (run : Run σ) : Run σ :=
  { run with stopRequested := true }

/-- The watch is opened before the directory is read, so that no later entry is missed; failing to
open it is not fatal, failing to read is. A stop is noticed between waits. After a panic the stage
stays what it was. -/
def step (run : Run σ) : Run σ :=
  match run.phase with
  | .starting =>
    { run with
      worker := (run.worker.registerWatch environment settings).2
      phase := .listing
      stage := .scanning }
  | .listing =>
    match run.worker.readDirectory environment settings with
    | (.error cause, worker) =>
      { run with
        worker
        phase := .returned (.error (.directoryUnavailable settings.deviceDirectory cause))
        stage := .stopped }
    | (.ok names, worker) => { run with worker, phase := .scanning names }
  | .scanning [] => { run with phase := .waiting, stage := .watching }
  | .scanning (name :: names) =>
    match run.worker.scanEntry environment settings name with
    | (.panicked, worker) => { run with worker, phase := .panicked }
    | (_, worker) => { run with worker, phase := .scanning names }
  | .waiting =>
    if run.stopRequested then
      { run with
        worker := { run.worker with watching := false }
        phase := .returned (.ok ())
        stage := .stopped }
    else
      let (events, worker) := run.worker.awaitEvents environment settings
      { run with worker, phase := .handling events }
  | .handling [] => { run with phase := .waiting }
  | .handling (event :: events) =>
    match run.worker.handleEvent environment settings event with
    | (.panicked, worker) => { run with worker, phase := .panicked }
    | (.returned, worker) => { run with worker, phase := .handling events }
  | .returned _ | .panicked => run

def steps : Nat → Run σ → Run σ
  | 0, run => run
  | count + 1, run => steps count (run.step environment settings)

/-- Whether the run is about to wait, or finished. -/
def isAtRest (run : Run σ) : Bool :=
  match run.phase with
  | .waiting => true
  | phase => phase.isFinished

/-- At most so many steps, and none past rest. -/
def stepsToRest : Nat → Run σ → Run σ
  | 0, run => run
  | limit + 1, run =>
    if run.isAtRest then run else stepsToRest limit (run.step environment settings)

/-- How many entries or events are still to be treated, and the step that ends them. -/
def pending (run : Run σ) : Nat :=
  match run.phase with
  | .scanning names => names.length + 1
  | .handling events => events.length + 1
  | _ => 0

/-- Finishes the work in hand. The first two steps are those before the directory has been read. -/
def toRest (run : Run σ) : Run σ :=
  let run := run.stepsToRest environment settings 2
  run.stepsToRest environment settings run.pending

def isIdle (before after : Run σ) : Bool :=
  match after.phase with
  | .handling [] => after.worker.watching == before.worker.watching
  | phase => phase.isFinished

/-- Finishes the work in hand, then waits and handles what comes, until a wait brings nothing and
leaves the watch as it was, or the run is over. -/
def settle : Nat → Run σ → Run σ
  | 0, run => run.toRest environment settings
  | waits + 1, run =>
    let run := run.toRest environment settings
    let next := run.step environment settings
    if isIdle run next then next.toRest environment settings else settle waits next

end Run

end CameraHotplug
