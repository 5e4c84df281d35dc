import CameraHotplug.Bench
import CameraHotplug.Proofs.Registration

/-!
# What a failed attempt leaves behind

By the time the attempt on a receiver fails, the receiver has already been remembered. The registry
is left alone, but the receiver that was remembered before is forgotten, unless it is the very one
that failed, and then no auxiliary entry takes it along any more.
-/

namespace CameraHotplug

/-- How discovery comes to attempt a registration: an entry is listed, or its creation is told. -/
inductive Arrival where
  | listed (name : String)
  | told (name : String)
  deriving DecidableEq, Repr

namespace Arrival

variable {σ ν δ : Type} (environment : Environment σ ν δ) (settings : Settings)

def attempt (worker : Worker σ) : Arrival → Worker σ
  | .listed name => (worker.scanEntry environment settings name).2
  | .told name => (worker.handleEvent environment settings ⟨.created, name⟩).2

/-- Whether the arrival makes discovery classify the node as a receiver, and what is observed right
after that. An auxiliary entry makes it look for the node. -/
def FindsReceiver (worker : Worker σ) (node : DeviceNode) (classified : Observed σ) :
    Arrival → Prop
  | .listed name =>
    settings.candidate? name = some node ∧
      classify environment settings node worker.outside = (.externalReceiver, classified)
  | .told name =>
    (settings.candidate? name = some node ∧
      classify environment settings node (worker.pause environment settings.settleDelay).outside =
        (.externalReceiver, classified)) ∨
    (settings.node? name = none ∧ Text.startsWith name settings.auxPrefix = true ∧
      ∃ next, Worker.findReceiver environment settings
          (worker.pause environment settings.receiverSettleDelay) = (some node, next) ∧
        next.outside = classified)

end Arrival

variable {σ ν δ : Type} {environment : Environment σ ν δ} {settings : Settings}

def Fails (environment : Environment σ ν δ) (node : DeviceNode) (observed : Observed σ) : Prop :=
  (probeCapture environment node observed).1 = false ∨
    (probeCapture environment node observed).1 = true ∧
      ∃ cause, (Observed.construct environment Worker.trialVersion node.path
        (probeCapture environment node observed).2).1 = .failed cause

theorem not_passes_of_fails {node : DeviceNode} {observed : Observed σ}
    (hfails : Fails environment node observed) :
    ¬ Passes environment node Worker.trialVersion observed := by
  rintro ⟨hprobe, device, hbuilt⟩
  rcases hfails with hrefused | ⟨_, cause, hfailed⟩
  · exact absurd (hprobe.symm.trans hrefused) (by decide)
  · exact absurd (hbuilt.symm.trans hfailed) (by simp)

section Attempts

variable {worker : Worker σ} {node : DeviceNode} {classified : Observed σ} {arrival : Arrival}

theorem candidate?_of_findsReceiver
    (hfinds : arrival.FindsReceiver environment settings worker node classified) :
    ∃ name, settings.candidate? name = some node := by
  cases arrival with
  | listed name => exact ⟨name, hfinds.1⟩
  | told name =>
      rcases hfinds with ⟨hcandidate, _⟩ | ⟨_, _, next, hfound, _⟩
      · exact ⟨name, hcandidate⟩
      · obtain ⟨_, other, _, _, _, hcandidate, _⟩ :=
          Worker.classify_of_findReceiver environment settings
          (worker.pause environment settings.receiverSettleDelay) node (by rw [hfound])
        exact ⟨other, hcandidate⟩

theorem attempt_of_findsReceiver
    (hfinds : arrival.FindsReceiver environment settings worker node classified) :
    arrival.attempt environment settings worker =
      (Worker.enroll environment settings
        { worker with outside := classified, receiver? := settings.logicalId? node } node).2 := by
  cases arrival with
  | listed name =>
      obtain ⟨hcandidate, hclass⟩ := hfinds
      simp only [Arrival.attempt, Worker.scanEntry, hcandidate, Worker.inspect, hclass]
  | told name =>
      rw [Arrival.attempt]
      rcases hfinds with ⟨hcandidate, hclass⟩ | ⟨hnode, haux, next, hfound, rfl⟩
      · rw [Worker.handleEvent_eq]
        simp only [hcandidate, Worker.nodeCreated, Worker.inspect, hclass]
        rfl
      · rw [Worker.handleEvent_created_of_isAuxiliary _ _ ⟨hnode, haux⟩,
          Worker.auxCreated_of_some environment settings worker node (by rw [hfound]), hfound]

theorem attempt_of_fails
    (hfinds : arrival.FindsReceiver environment settings worker node classified)
    (hfails : Fails environment node classified) :
    ∃ outside, arrival.attempt environment settings worker =
      { worker with outside, receiver? := settings.logicalId? node } := by
  rw [attempt_of_findsReceiver hfinds]
  exact Worker.enroll_of_not_passes environment settings
    { worker with outside := classified, receiver? := settings.logicalId? node } node
    (not_passes_of_fails hfails)

/-- An attempt on a receiver that fails leaves the registry as it is and remembers the receiver all
the same. So it changes what is remembered unless that is the receiver's own id, and an auxiliary
entry that goes next takes the receiver remembered before only in that case. -/
theorem receiver?_of_failed_attempt
    (hfinds : arrival.FindsReceiver environment settings worker node classified)
    (hfails : Fails environment node classified) :
    (arrival.attempt environment settings worker).registry = worker.registry ∧
    ∃ id, settings.logicalId? node = some id ∧
      (arrival.attempt environment settings worker).receiver? = some id ∧
      ((arrival.attempt environment settings worker).receiver? = worker.receiver? ↔
        worker.receiver? = some id) ∧
      ∀ old ∈ worker.registry.devices, worker.receiver? = some old →
        ∀ name, settings.node? name = none → Text.startsWith name settings.auxPrefix = true →
          (old ∉ ((arrival.attempt environment settings worker).handleEvent environment settings
            ⟨.deleted, name⟩).2.registry.devices ↔ old = id) := by
  obtain ⟨name, hcandidate⟩ := candidate?_of_findsReceiver hfinds
  obtain ⟨id, hid⟩ := Settings.exists_logicalId_of_node? (Settings.node?_of_candidate? hcandidate)
  obtain ⟨outside, hafter⟩ := attempt_of_fails hfinds hfails
  rw [hafter, hid]
  refine ⟨rfl, id, rfl, rfl, eq_comm, ?_⟩
  intro old hpresent hold name hnode haux
  rw [Worker.handleEvent_deleted_of_isAuxiliary _ _ ⟨hnode, haux⟩, Worker.mem_devices_auxDeleted]
  dsimp only
  rw [ne_eq, Option.some.injEq, not_and_or, not_not]
  exact ⟨fun hgone => (hgone.resolve_right (not_not.mpr hpresent)).symm, fun heq => Or.inl heq.symm⟩

end Attempts

/-! ### Two receivers, one of which cannot capture -/

def twoReceivers : Bench :=
  ((Bench.ofSettings .standard).addNode "video3" (.capture "mxc_isi.6.capture")).addNode "video8"
    { BenchNode.capture "mxc_isi.6.capture" with deviceCaps := 0 }

def benchEnvironment : Environment Bench BenchNode Unit :=
  Bench.environment fun _ _ => .built ()

def firstListed : Worker Bench :=
  (Arrival.listed "video3").attempt benchEnvironment .standard (.start twoReceivers .empty)

def secondReceiver : DeviceNode :=
  ⟨"video8", ⟨"/dev/video8"⟩, 8⟩

def secondClassified : Observed Bench :=
  (classify benchEnvironment .standard secondReceiver firstListed.outside).2

theorem findsReceiver_second :
    (Arrival.listed "video8").FindsReceiver benchEnvironment .standard firstListed secondReceiver
      secondClassified :=
  ⟨by decide +kernel, Prod.ext (by decide +kernel) rfl⟩

theorem fails_second : Fails benchEnvironment secondReceiver secondClassified :=
  Or.inl (by decide +kernel)

theorem receiver?_of_second_listed :
    ∃ id, Settings.standard.logicalId? secondReceiver = some id ∧
      ((Arrival.listed "video8").attempt benchEnvironment .standard firstListed).receiver? =
        some id ∧
      (⟨3, 4, 103⟩ ∉ (((Arrival.listed "video8").attempt benchEnvironment .standard
        firstListed).handleEvent benchEnvironment .standard ⟨.deleted, "cec0"⟩).2.registry.devices ↔
        ⟨3, 4, 103⟩ = id) := by
  obtain ⟨_, id, hid, hreceiver, _, hgone⟩ :=
    receiver?_of_failed_attempt findsReceiver_second fails_second
  exact ⟨id, hid, hreceiver, hgone ⟨3, 4, 103⟩ (Ascending.mem_def.mpr (by decide +kernel))
    (by decide +kernel) "cec0" (by decide +kernel) (by decide +kernel)⟩

theorem first_receiver_left_behind :
    (Arrival.listed "video8").FindsReceiver benchEnvironment .standard firstListed secondReceiver
      secondClassified ∧
    Fails benchEnvironment secondReceiver secondClassified ∧
    firstListed.receiver? = some ⟨3, 4, 103⟩ ∧
    ((Arrival.listed "video8").attempt benchEnvironment .standard firstListed).receiver? =
      some ⟨3, 4, 108⟩ ∧
    (((Arrival.listed "video8").attempt benchEnvironment .standard firstListed).handleEvent
      benchEnvironment .standard ⟨.deleted, "cec0"⟩).2.registry.devices.toList = [⟨3, 4, 103⟩] :=
  ⟨findsReceiver_second, fails_second, by decide +kernel, by decide +kernel, by decide +kernel⟩

end CameraHotplug
