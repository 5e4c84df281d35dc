import CameraHotplug.Ascending
import CameraHotplug.LogicalId.Document

/-!
The registry of present cameras and its one subscriber. Every change is told to the subscriber
as it happens, and a new subscriber is first told what is present.
-/

namespace CameraHotplug

inductive Presence where
  | present
  | notPresent
  deriving DecidableEq, Repr

def Presence.text : Presence → String
  | .present => "PRESENT"
  | .notPresent => "NOT_PRESENT"

structure StatusChange where
  id : LogicalId
  presence : Presence
  deriving DecidableEq, Repr

def StatusChange.toJson (change : StatusChange) : Json :=
  .object [("id", change.id.toJson), ("state", .string change.presence.text)]

/-- How a call of foreign code came back. -/
inductive Ending where
  | returned
  | panicked
  deriving DecidableEq, Repr

/-- One change told to the subscriber of one attachment. -/
structure Delivery where
  attachment : Nat
  change : StatusChange
  ending : Ending
  deriving DecidableEq, Repr

/-- A subscriber is foreign code: each delivery may end in a way of its own, depending on all
deliveries before. -/
structure Subscriber where
  receive : List Delivery → StatusChange → Ending

/-- The ids that are present, and who is told. Attachments are numbered from 1; `deliveries` holds
every delivery so far, the oldest first. -/
structure Registry where
  devices : Ascending LogicalId
  subscriber? : Option Subscriber
  attachments : Nat
  deliveries : List Delivery

namespace Registry

def empty : Registry :=
  ⟨.empty, none, 0, []⟩

instance : Inhabited Registry :=
  ⟨empty⟩

/-- A subscriber that panics has been told all the same. -/
def notify (registry : Registry) (change : StatusChange) : Registry :=
  match registry.subscriber? with
  | none => registry
  | some subscriber =>
    let ending := subscriber.receive registry.deliveries change
    { registry with
      deliveries := registry.deliveries ++ [⟨registry.attachments, change, ending⟩] }

/-- Whether the id was absent before. -/
def recordPresent (registry : Registry) (id : LogicalId) : Bool × Registry :=
  if registry.devices.contains id then (false, registry)
  else (true, { registry with devices := registry.devices.insert id }.notify ⟨id, .present⟩)

/-- Whether the id was present before. -/
def recordAbsent (registry : Registry) (id : LogicalId) : Bool × Registry :=
  if registry.devices.contains id then
    (true, { registry with devices := registry.devices.erase id }.notify ⟨id, .notPresent⟩)
  else (false, registry)

/-- Only ids that are present have a state. -/
def lookup (registry : Registry) (id : LogicalId) : Option Presence :=
  if registry.devices.contains id then some .present else none

def isPresent (registry : Registry) (id : LogicalId) : Bool :=
  registry.lookup id = some .present

def snapshot (registry : Registry) : List StatusChange :=
  registry.devices.toList.map fun id => ⟨id, .present⟩

def size (registry : Registry) : Nat :=
  registry.devices.size

/-- Replaces the subscriber and tells the new one what is present. -/
def attach (registry : Registry) (subscriber : Subscriber) : Registry :=
  registry.snapshot.foldl notify
    { registry with subscriber? := some subscriber, attachments := registry.attachments + 1 }

/-- Whether there was a subscriber. -/
def detach (registry : Registry) : Bool × Registry :=
  (registry.subscriber?.isSome, { registry with subscriber? := none })

def hasSubscriber (registry : Registry) : Bool :=
  registry.subscriber?.isSome

def describeId (id : LogicalId) : String :=
  "LogicalDeviceId \x7b major: " ++ Decimal.text id.major ++ ", minor: " ++ Decimal.text id.minor ++
    ", number: " ++ Decimal.text id.number ++ " \x7d: Present"

def describe (registry : Registry) : String :=
  "PresenceRegistry \x7b devices: \x7b" ++
    ", ".intercalate (registry.devices.toList.map describeId) ++
    "\x7d, subscribed: " ++ toString registry.hasSubscriber ++ " \x7d"

end Registry

end CameraHotplug
