import CameraHotplug.Error

/-!
Changes of a directory, and a queue that delivers them in order.
-/

namespace CameraHotplug

inductive Change where
  | created
  | deleted
  deriving DecidableEq, Repr

structure WatchEvent where
  change : Change
  name : String
  deriving DecidableEq, Repr

/-- Events that were sent and not yet taken, and whether more may come. -/
structure EventQueue where
  waiting : List WatchEvent
  isOpen : Bool
  deriving DecidableEq, Repr

namespace EventQueue

def empty : EventQueue :=
  ⟨[], true⟩

def send (queue : EventQueue) (event : WatchEvent) : EventQueue :=
  if queue.isOpen then { queue with waiting := queue.waiting ++ [event] } else queue

def close (queue : EventQueue) : EventQueue :=
  { queue with isOpen := false }

def closed : WatchError :=
  .generic "watch channel closed"

/-- Takes everything that is waiting. A closed queue fails only once it is empty. -/
def wait (queue : EventQueue) : Except WatchError (List WatchEvent) × EventQueue :=
  match queue.waiting with
  | [] => (if queue.isOpen then .ok [] else .error closed, queue)
  | events => (.ok events, { queue with waiting := [] })

end EventQueue

end CameraHotplug
