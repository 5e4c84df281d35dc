import CameraHotplug.Bench
import CameraHotplug.Proofs.Subscription

/-!
# The effect of an event is confined

An event is about one id at most: that of the node it names, that of the first receiver when an
auxiliary entry comes, and the remembered one when an auxiliary entry goes. No other id comes or
goes with it, and an entry that is neither a node that discovery may touch nor an auxiliary one has
no effect at all.
-/

namespace CameraHotplug

namespace Registry

/-- Nothing was recorded, or one change about an id that is allowed. -/
def RecordsOne (before after : Registry) (allowed : LogicalId → Prop) : Prop :=
  after = before ∨ ∃ change, allowed change.id ∧ after = (before.record change).2

theorem RecordsOne.imp {before after : Registry} {narrow wide : LogicalId → Prop}
    (hrecords : before.RecordsOne after narrow) (himp : ∀ id, narrow id → wide id) :
    before.RecordsOne after wide := by
  rcases hrecords with hsame | ⟨change, hallowed, hafter⟩
  · exact Or.inl hsame
  · exact Or.inr ⟨change, himp change.id hallowed, hafter⟩

/-- What is recorded is told, and that is all the difference it makes. -/
theorem RecordsOne.cases {before after : Registry} {allowed : LogicalId → Prop}
    (hrecords : before.RecordsOne after allowed) :
    after = before ∨ ∃ change, allowed change.id ∧ before.IsNews change ∧
      Tells before after [change] ∧
      {id | id ∈ after.devices} = change.apply {id | id ∈ before.devices} := by
  rcases hrecords with hsame | ⟨change, hallowed, rfl⟩
  · exact Or.inl hsame
  · by_cases hnews : before.IsNews change
    · obtain ⟨_, htells, hdevices⟩ := before.record_of_isNews hnews
      exact Or.inr ⟨change, hallowed, hnews, htells, hdevices⟩
    · exact Or.inl (congrArg Prod.snd (before.record_of_not_isNews hnews))

end Registry

namespace Worker

open Registry

variable {σ ν δ : Type} (environment : Environment σ ν δ) (settings : Settings)

/-- The directory is read, and the node is the first in its order that is a receiver, each asked
when its turn comes. -/
def FirstReceiver (observed : Observed σ) (node : DeviceNode) : Prop :=
  ∃ front name back, ∃ asked : Observed σ,
    (Observed.readDirectory environment settings.deviceDirectory observed).1 =
      .ok (front ++ name :: back) ∧
    PassesOver environment settings front
      (Observed.readDirectory environment settings.deviceDirectory observed).2 asked ∧
    settings.candidate? name = some node ∧
    (classify environment settings node asked).1 = .externalReceiver

/-- The event is about the id. -/
inductive IsAbout (worker : Worker σ) (event : WatchEvent) (id : LogicalId) : Prop where
  | node (node : DeviceNode) (candidate : settings.candidate? event.name = some node)
      (own : settings.logicalId? node = some id)
  | signalled (node : DeviceNode) (created : event.change = .created)
      (aux : Text.startsWith event.name settings.auxPrefix = true)
      (first : FirstReceiver environment settings
        (pause environment worker settings.receiverSettleDelay).outside node)
      (own : settings.logicalId? node = some id)
  | remembered (deleted : event.change = .deleted)
      (aux : Text.startsWith event.name settings.auxPrefix = true)
      (remembered : worker.receiver? = some id)

variable {environment settings}

/-! ### One record at most -/

section Treatments

variable (worker : Worker σ) (node : DeviceNode)

theorem recordsOne_enroll :
    worker.registry.RecordsOne (enroll environment settings worker node).2.registry
      (settings.logicalId? node = some ·) := by
  by_cases hpasses : Passes environment node trialVersion worker.outside
  · cases hid : settings.logicalId? node with
    | none =>
        left
        rw [enroll_of_logicalId?_eq_none environment settings worker node hid]
    | some id =>
        right
        refine ⟨⟨id, .present⟩, rfl, ?_⟩
        rw [enroll_of_passes environment settings worker node hid hpasses]
        rfl
  · obtain ⟨outside, hafter⟩ := enroll_of_not_passes environment settings worker node hpasses
    left
    rw [hafter]

theorem recordsOne_inspect :
    worker.registry.RecordsOne (inspect environment settings worker node).2.registry
      (settings.logicalId? node = some ·) := by
  unfold inspect
  split
  next => exact Or.inl rfl
  next outside _ => exact recordsOne_enroll { worker with outside } node
  next outside _ =>
    exact recordsOne_enroll { worker with outside, receiver? := settings.logicalId? node } node

theorem recordsOne_nodeDeleted :
    worker.registry.RecordsOne (nodeDeleted settings worker node).registry
      (settings.logicalId? node = some ·) := by
  rw [nodeDeleted_eq]
  unfold dismiss
  split
  next => exact Or.inl rfl
  next id hid => exact Or.inr ⟨⟨id, .notPresent⟩, hid, rfl⟩

theorem recordsOne_auxCreated :
    worker.registry.RecordsOne (auxCreated environment settings worker).2.registry fun id =>
      ∃ node, FirstReceiver environment settings
          (pause environment worker settings.receiverSettleDelay).outside node ∧
        settings.logicalId? node = some id := by
  cases hfound : (findReceiver environment settings
      (pause environment worker settings.receiverSettleDelay)).1 with
  | none =>
      left
      rw [auxCreated_of_none environment settings worker hfound]
  | some node =>
      obtain ⟨front, name, back, asked, hanswer, hpasses, hcandidate, hclass⟩ :=
        passesOver_of_findReceiver environment settings _ node hfound
      have hfirst : FirstReceiver environment settings
          (pause environment worker settings.receiverSettleDelay).outside node :=
        ⟨front, name, back, asked, hanswer, hpasses, hcandidate, congrArg Prod.fst hclass⟩
      rw [auxCreated_of_some environment settings worker node hfound]
      refine (recordsOne_enroll { worker with
        outside := (findReceiver environment settings
          (pause environment worker settings.receiverSettleDelay)).2.outside
        receiver? := settings.logicalId? node } node).imp ?_
      exact fun id hid => ⟨node, hfirst, hid⟩

theorem recordsOne_auxDeleted :
    worker.registry.RecordsOne (auxDeleted worker).registry (worker.receiver? = some ·) := by
  unfold auxDeleted
  split
  next => exact Or.inl rfl
  next id hremembered => exact Or.inr ⟨⟨id, .notPresent⟩, hremembered, rfl⟩

end Treatments

theorem recordsOne_handleEvent (worker : Worker σ) (event : WatchEvent) :
    worker.registry.RecordsOne (handleEvent environment settings worker event).2.registry
      (IsAbout environment settings worker event) := by
  obtain ⟨change, name⟩ := event
  rw [handleEvent_eq]
  cases hcandidate : settings.candidate? name with
  | some node =>
      have habout (id : LogicalId) (hid : settings.logicalId? node = some id) :
          IsAbout environment settings worker ⟨change, name⟩ id := .node node hcandidate hid
      cases change with
      | created =>
          exact (recordsOne_inspect (pause environment worker settings.settleDelay) node).imp habout
      | deleted => exact (recordsOne_nodeDeleted worker node).imp habout
  | none =>
      dsimp only
      split_ifs with haux
      · cases change with
        | created =>
            refine (recordsOne_auxCreated worker).imp ?_
            rintro id ⟨node, hfirst, hid⟩
            exact .signalled node rfl haux.2 hfirst hid
        | deleted =>
            exact (recordsOne_auxDeleted worker).imp fun id hid => .remembered rfl haux.2 hid
      · exact Or.inl rfl

/-! ### Nothing at all -/

/-- An entry that is no candidate has an effect only through the auxiliary prefix. -/
theorem handleEvent_of_ignored {worker : Worker σ} {event : WatchEvent}
    (hnone : settings.candidate? event.name = none)
    (hother : Text.startsWith event.name settings.auxPrefix = false) :
    handleEvent environment settings worker event = (.returned, worker) := by
  rw [handleEvent_eq, hnone]
  simp only [hother, Bool.false_eq_true, and_false, if_false]

/-! ### A deletion -/

theorem outside_handleEvent_deleted (worker : Worker σ) (name : String) :
    (handleEvent environment settings worker ⟨.deleted, name⟩).2.outside = worker.outside := by
  rw [handleEvent_eq]
  cases settings.candidate? name with
  | some node => exact outside_nodeDeleted settings worker node
  | none =>
      dsimp only
      split_ifs
      · exact outside_auxDeleted worker
      · rfl

/-- What a deletion is about is gone after it, and forgotten. -/
theorem gone_of_isAbout_deleted (hvalid : settings.flaw? = none) {worker : Worker σ}
    {name : String} {id : LogicalId}
    (habout : IsAbout environment settings worker ⟨.deleted, name⟩ id) :
    id ∉ (handleEvent environment settings worker ⟨.deleted, name⟩).2.registry.devices ∧
      (handleEvent environment settings worker ⟨.deleted, name⟩).2.receiver? ≠ some id := by
  cases habout with
  | node node candidate own =>
      have hcandidate : settings.candidate? name = some node := candidate
      rw [handleEvent_eq, hcandidate]
      dsimp only
      rw [mem_devices_nodeDeleted, receiver?_nodeDeleted, own]
      constructor
      · exact fun hkept => hkept.1 rfl
      · split_ifs with hremembered
        · exact nofun
        · exact hremembered
  | signalled _ created => exact nomatch created
  | remembered _ aux remembered =>
      have haux : settings.IsAuxiliary name := Settings.isAuxiliary_of_startsWith hvalid aux
      rw [handleEvent_deleted_of_isAuxiliary _ _ haux, mem_devices_auxDeleted,
        receiver?_auxDeleted]
      exact ⟨fun hkept => hkept.1 remembered, nofun⟩

/-- No name begins with both prefixes, and what begins with the one of nodes without being a node
that discovery may touch, or with neither, is ignored without a question. Any event makes one change
at most, about the id that it is about, and tells that change alone. A deletion asks nothing, and
what it is about is neither present nor remembered afterwards. -/
theorem event_effect_confined (environment : Environment σ ν δ) (hvalid : settings.flaw? = none)
    (worker : Worker σ) (event : WatchEvent) :
    let handled := handleEvent environment settings worker event
    (∀ name, ¬ (Text.startsWith name settings.nodePrefix = true ∧
      Text.startsWith name settings.auxPrefix = true)) ∧
    (Text.startsWith event.name settings.nodePrefix = true →
      (settings.node? event.name = none ∨
        ∃ node, settings.node? event.name = some node ∧
          settings.isInternal node.suffix = true) →
      handled = (.returned, worker)) ∧
    (Text.startsWith event.name settings.nodePrefix = false →
      Text.startsWith event.name settings.auxPrefix = false → handled = (.returned, worker)) ∧
    (handled.2.registry = worker.registry ∨
      ∃ change, IsAbout environment settings worker event change.id ∧
        worker.registry.IsNews change ∧ Tells worker.registry handled.2.registry [change] ∧
        {id | id ∈ handled.2.registry.devices} =
          change.apply {id | id ∈ worker.registry.devices}) ∧
    (event.change = .deleted → handled.2.outside = worker.outside ∧
      ∀ id, IsAbout environment settings worker event id →
        id ∉ handled.2.registry.devices ∧ handled.2.receiver? ≠ some id) := by
  intro handled
  refine ⟨?_, ?_, ?_, (recordsOne_handleEvent worker event).cases, ?_⟩
  · rintro name ⟨hlead, haux⟩
    exact Bool.false_ne_true ((Settings.startsWith_aux_eq_false hvalid hlead).symm.trans haux)
  · intro hlead hrejected
    have hnone : settings.candidate? event.name = none := by
      rcases hrejected with hnode | ⟨node, hnode, hinternal⟩
      · simp [Settings.candidate?, hnode]
      · simp [Settings.candidate?, hnode, hinternal, Option.filter]
    exact handleEvent_of_ignored hnone (Settings.startsWith_aux_eq_false hvalid hlead)
  · intro hlead haux
    have hnone : settings.candidate? event.name = none := by
      by_contra hsome
      obtain ⟨node, hcandidate⟩ := Option.ne_none_iff_exists'.mp hsome
      have hstarts := Settings.startsWith_of_node? (Settings.node?_of_candidate? hcandidate)
      exact Bool.false_ne_true (hlead.symm.trans hstarts)
    exact handleEvent_of_ignored hnone haux
  · obtain ⟨change, name⟩ := event
    rintro rfl
    exact ⟨outside_handleEvent_deleted worker name, fun id => gone_of_isAbout_deleted hvalid⟩

/-! ### Two receivers and an auxiliary entry -/

/-- The receiver that is listed first has the greater suffix. -/
def signalBench : Bench :=
  (((Bench.ofSettings .standard).addNode "video8" (.capture "mxc_isi.6.capture")).addNode "video3"
    (.capture "mxc_isi.6.capture")).addEntry "cec0"

def signalEnvironment : Environment Bench BenchNode Unit :=
  Bench.environment fun _ _ => .built ()

def unsignalledWorker : Worker Bench :=
  start signalBench (Registry.empty.attach ⟨fun _ _ => .returned⟩)

/-- The auxiliary entry has come. -/
def signalledWorker : Worker Bench :=
  (handleEvent signalEnvironment .standard unsignalledWorker ⟨.created, "cec0"⟩).2

theorem signalledWorker_loses_first :
    Settings.standard.flaw? = none ∧
      signalledWorker.receiver? = some ⟨3, 4, 108⟩ ∧
      signalledWorker.registry.devices.toList = [⟨3, 4, 108⟩] ∧
      let departed := handleEvent signalEnvironment .standard signalledWorker ⟨.deleted, "cec0"⟩
      departed.2.outside = signalledWorker.outside ∧
        ⟨3, 4, 108⟩ ∉ departed.2.registry.devices ∧ departed.2.receiver? ≠ some ⟨3, 4, 108⟩ := by
  have hvalid : Settings.standard.flaw? = none := by decide
  have hremembered : signalledWorker.receiver? = some ⟨3, 4, 108⟩ := by decide +kernel
  obtain ⟨_, _, _, _, hdeleted⟩ :=
    event_effect_confined signalEnvironment hvalid signalledWorker ⟨.deleted, "cec0"⟩
  obtain ⟨houtside, hgone⟩ := hdeleted rfl
  exact ⟨hvalid, hremembered, by decide +kernel, houtside,
    hgone ⟨3, 4, 108⟩ (.remembered rfl (by decide) hremembered)⟩

end Worker

end CameraHotplug
