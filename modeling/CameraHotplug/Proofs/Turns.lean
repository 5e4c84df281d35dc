import CameraHotplug.Discovery.Run
import CameraHotplug.Proofs.LiveDirectory

/-!
# Discovery and the directory, turn by turn

A run takes its steps while the directory changes, in any order. What the run has yet to learn stands
in the events that are outstanding and in the entries that its scan still awaits. A change is missed
when it is neither told nor left to the scan, and when the watch is lost before its event was taken.
-/

namespace CameraHotplug

open LiveDirectory

inductive Turn where
  | discovery
  | stop
  | outside (happening : Happening)

namespace Run

variable {δ : Type} (settings : Settings) (construct : Version → Path → Construction δ)

def world (run : Run LiveDirectory) : LiveDirectory :=
  run.worker.outside.state

def setWorld (run : Run LiveDirectory) (world : LiveDirectory) : Run LiveDirectory :=
  { run with worker := { run.worker with outside := { run.worker.outside with state := world } } }

def after (run : Run LiveDirectory) : Turn → Run LiveDirectory
  | .discovery => run.step (environment settings construct) settings
  | .stop => run.requestStop
  | .outside happening => run.setWorld (run.world.happen settings happening)

def play (turns : List Turn) (run : Run LiveDirectory) : Run LiveDirectory :=
  turns.foldl (after settings construct) run

/-! ### What is yet to be learnt -/

section Yet

variable {σ : Type}

def scanning (run : Run σ) : List String :=
  match run.phase with
  | .scanning names => names
  | _ => []

def handling (run : Run σ) : List WatchEvent :=
  match run.phase with
  | .handling events => events
  | _ => []

/-- Whether an entry of the name, if there is one by then, will be treated by the scan. -/
def awaits (run : Run σ) (name : String) : Bool :=
  match run.phase with
  | .starting | .listing => true
  | .scanning names => decide (name ∈ names)
  | _ => false

theorem step_of_isFinished {ν δ : Type} {environment : Environment σ ν δ} {settings : Settings}
    {run : Run σ} (hfinished : run.isFinished = true) : run.step environment settings = run := by
  obtain ⟨worker, phase, stage, stopRequested⟩ := run
  cases phase with
  | returned result => rfl
  | panicked => rfl
  | starting => exact absurd hfinished Bool.false_ne_true
  | listing => exact absurd hfinished Bool.false_ne_true
  | scanning names => exact absurd hfinished Bool.false_ne_true
  | waiting => exact absurd hfinished Bool.false_ne_true
  | handling events => exact absurd hfinished Bool.false_ne_true

end Yet

def outstanding (run : Run LiveDirectory) : List WatchEvent :=
  run.handling ++ run.world.queue.waiting

/-- Whether the scan will find the name as it is then, with no older event to come after it. -/
def covers (run : Run LiveDirectory) (name : String) : Bool :=
  run.awaits name && run.outstanding.all fun event => event.name ≠ name

/-- The run has looked through the directory and has dealt with all that it was told. -/
def isQuiet (run : Run LiveDirectory) : Bool :=
  match run.phase with
  | .waiting => run.world.queue.waiting.isEmpty
  | .handling events => events.isEmpty && run.world.queue.waiting.isEmpty
  | _ => false

theorem of_isQuiet {run : Run LiveDirectory} (hquiet : run.isQuiet = true) :
    run.isFinished = false ∧ run.outstanding = [] ∧ ∀ name, run.awaits name = false := by
  obtain ⟨worker, phase, stage, stopRequested⟩ := run
  cases phase with
  | waiting => exact ⟨rfl, List.isEmpty_iff.mp hquiet, fun _ => rfl⟩
  | handling events =>
      obtain ⟨hevents, hwaiting⟩ := Bool.and_eq_true_iff.mp hquiet
      refine ⟨rfl, ?_, fun _ => rfl⟩
      rw [outstanding, List.isEmpty_iff.mp hwaiting, List.append_nil]
      exact List.isEmpty_iff.mp hevents
  | starting => exact absurd hquiet Bool.false_ne_true
  | listing => exact absurd hquiet Bool.false_ne_true
  | scanning names => exact absurd hquiet Bool.false_ne_true
  | returned result => exact absurd hquiet Bool.false_ne_true
  | panicked => exact absurd hquiet Bool.false_ne_true

theorem of_isFinished {run : Run LiveDirectory} (name : String)
    (hfinished : run.isFinished = true) :
    run.awaits name = false ∧ run.handling = [] := by
  obtain ⟨worker, phase, stage, stopRequested⟩ := run
  cases phase with
  | returned result => exact ⟨rfl, rfl⟩
  | panicked => exact ⟨rfl, rfl⟩
  | starting => exact absurd hfinished Bool.false_ne_true
  | listing => exact absurd hfinished Bool.false_ne_true
  | scanning names => exact absurd hfinished Bool.false_ne_true
  | waiting => exact absurd hfinished Bool.false_ne_true
  | handling events => exact absurd hfinished Bool.false_ne_true

/-- Whether the receiver that the run remembers, if any, is the node of the name. -/
def remembers (run : Run LiveDirectory) (name : String) : Prop :=
  (settings.candidate? name).bind settings.logicalId? = run.worker.receiver?

instance (run : Run LiveDirectory) (name : String) : Decidable (run.remembers settings name) :=
  inferInstanceAs (Decidable (_ = _))

/-- The names whose changes are missed after a turn, from those that were missed before it. A
departure that is told makes up for what was missed. So does an arrival, if no more is asked than
that what is present exists, and if the name is not that of the receiver remembered. -/
def missedAfter (strict : Bool) (run : Run LiveDirectory) (missed : List String) :
    Turn → List String
  | .outside (.arrival _ name _) =>
    if ¬ IsEntryName name ∨ name ∈ run.world.names then missed
    else if run.world.queue.isOpen then
      if strict ∨ run.remembers settings name then missed else missed.filter (· ≠ name)
    else if run.covers name then missed
    else name :: missed
  | .outside (.departure name) =>
    if name ∉ run.world.names then missed
    else if run.world.queue.isOpen then missed.filter (· ≠ name)
    else if run.covers name then missed
    else name :: missed
  | .outside (.loss kept) =>
    ((run.world.queue.waiting.drop kept).map WatchEvent.name).filter
      (fun name => !(run.after settings construct (.outside (.loss kept))).covers name) ++ missed
  | _ => missed

def missed (strict : Bool) : List Turn → Run LiveDirectory → List String → List String
  | [], _, names => names
  | turn :: turns, run, names =>
    missed strict turns (run.after settings construct turn)
      (run.missedAfter settings construct strict names turn)

end Run

/-- Whether a turn leaves watching alone: no watch is lost and none refused. -/
def Turn.IsCalm : Turn → Prop
  | .outside (.loss _) | .outside (.refusal _) => False
  | _ => True

end CameraHotplug
