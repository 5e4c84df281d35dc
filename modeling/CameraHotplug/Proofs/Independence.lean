import CameraHotplug.Proofs.Findings
import CameraHotplug.Proofs.Subscription

/-!
# Unrelated devices do not disturb each other

While the content stays as it is, what an event about a node has recorded can be told beforehand, and
it concerns one id. So the events about different nodes may be handled in any order: each id ends as
its own events leave it, and its own changes are told in their order.
-/

namespace CameraHotplug

/-! ### One id of a registry -/

namespace Registry

/-- What was told about one id, and to which attachments. -/
def toldAbout (registry : Registry) (id : LogicalId) : List (Nat × StatusChange) :=
  (registry.deliveries.filter (·.change.id = id)).map fun delivery =>
    (delivery.attachment, delivery.change)

/-- The registries hold the same about one id and have told the same about it. -/
structure AgreesOn (id : LogicalId) (left right : Registry) : Prop where
  present : id ∈ left.devices ↔ id ∈ right.devices
  told : left.toldAbout id = right.toldAbout id
  attachments : left.attachments = right.attachments
  attached : left.hasSubscriber = right.hasSubscriber

variable {id : LogicalId} {left middle right before after : Registry}

theorem AgreesOn.refl (id : LogicalId) (registry : Registry) : AgreesOn id registry registry :=
  ⟨Iff.rfl, rfl, rfl, rfl⟩

theorem AgreesOn.symm (hagrees : AgreesOn id left right) : AgreesOn id right left :=
  ⟨hagrees.present.symm, hagrees.told.symm, hagrees.attachments.symm, hagrees.attached.symm⟩

theorem AgreesOn.trans (hfirst : AgreesOn id left middle) (hsecond : AgreesOn id middle right) :
    AgreesOn id left right :=
  ⟨hfirst.present.trans hsecond.present, hfirst.told.trans hsecond.told,
    hfirst.attachments.trans hsecond.attachments, hfirst.attached.trans hsecond.attached⟩

theorem Tells.toldAbout {changes : List StatusChange} (htells : Tells before after changes)
    (id : LogicalId) :
    after.toldAbout id = before.toldAbout id ++
      if before.hasSubscriber then
        (changes.filter (·.id = id)).map (Prod.mk before.attachments)
      else [] := by
  obtain ⟨new, hdeliveries, hown, hchanges⟩ := htells.deliveries
  have hnew : (new.filter (·.change.id = id)).map
        (fun delivery => (delivery.attachment, delivery.change)) =
      ((new.map Delivery.change).filter (·.id = id)).map (Prod.mk before.attachments) := by
    rw [List.filter_map, List.map_map]
    apply List.map_congr_left
    intro delivery hmem
    rw [hown delivery (List.mem_of_mem_filter hmem)]
    rfl
  rw [Registry.toldAbout, hdeliveries, List.filter_append, List.map_append, hnew, hchanges,
    Registry.toldAbout]
  split_ifs <;> rfl

/-- A record about another id is not noticed. -/
theorem agreesOn_record_of_ne {change : StatusChange} (hother : change.id ≠ id)
    (registry : Registry) : AgreesOn id (registry.record change).2 registry := by
  by_cases hnews : registry.IsNews change
  · obtain ⟨_, htells, hdevices⟩ := registry.record_of_isNews hnews
    refine ⟨?_, ?_, htells.attachments, htells.hasSubscriber⟩
    · have hmem : id ∈ (registry.record change).2.devices ↔
          id ∈ change.apply {other | other ∈ registry.devices} := Set.ext_iff.mp hdevices id
      rw [hmem]
      unfold StatusChange.apply
      cases change.presence <;> simp [hother.symm]
    · rw [htells.toldAbout, List.filter_cons_of_neg (by simpa using hother)]
      simp
  · rw [registry.record_of_not_isNews hnews]
    exact .refl id registry

theorem AgreesOn.isNews_iff (hagrees : AgreesOn id left right) {change : StatusChange}
    (hown : change.id = id) : left.IsNews change ↔ right.IsNews change := by
  unfold IsNews
  rw [hown, hagrees.present]

/-- The same record is made by both, as far as its own id goes. -/
theorem AgreesOn.record (hagrees : AgreesOn id left right) {change : StatusChange}
    (hown : change.id = id) :
    AgreesOn id (left.record change).2 (right.record change).2 := by
  by_cases hnews : left.IsNews change
  · obtain ⟨_, hleft, hleftDevices⟩ := left.record_of_isNews hnews
    obtain ⟨_, hright, hrightDevices⟩ :=
      right.record_of_isNews ((hagrees.isNews_iff hown).mp hnews)
    refine ⟨?_, ?_, ?_, ?_⟩
    · have hmemLeft : id ∈ (left.record change).2.devices ↔
          id ∈ change.apply {other | other ∈ left.devices} := Set.ext_iff.mp hleftDevices id
      have hmemRight : id ∈ (right.record change).2.devices ↔
          id ∈ change.apply {other | other ∈ right.devices} := Set.ext_iff.mp hrightDevices id
      rw [hmemLeft, hmemRight]
      unfold StatusChange.apply
      cases change.presence <;> simp [hagrees.present]
    · rw [hleft.toldAbout, hright.toldAbout, hagrees.told, hagrees.attached, hagrees.attachments]
    · rw [hleft.attachments, hright.attachments, hagrees.attachments]
    · rw [hleft.hasSubscriber, hright.hasSubscriber, hagrees.attached]
  · rw [left.record_of_not_isNews hnews,
      right.record_of_not_isNews ((hagrees.isNews_iff hown).not.mp hnews)]
    exact hagrees

def recordAll (changes : List StatusChange) (registry : Registry) : Registry :=
  changes.foldl (fun registry change => (registry.record change).2) registry

theorem recordAll_append (first second : List StatusChange) (registry : Registry) :
    recordAll (first ++ second) registry = recordAll second (recordAll first registry) :=
  List.foldl_append

theorem recordAll_cons (change : StatusChange) (changes : List StatusChange)
    (registry : Registry) :
    recordAll (change :: changes) registry = recordAll changes (registry.record change).2 :=
  rfl

/-- Of a list of records, an id notices its own. -/
theorem AgreesOn.recordAll_filter (hagrees : AgreesOn id left right)
    (changes : List StatusChange) :
    AgreesOn id (recordAll changes left) (recordAll (changes.filter (·.id = id)) right) := by
  induction changes generalizing left right with
  | nil => exact hagrees
  | cons change changes ih =>
      rw [recordAll_cons]
      by_cases hown : change.id = id
      · rw [List.filter_cons_of_pos (by simpa using hown), recordAll_cons]
        exact ih (hagrees.record hown)
      · rw [List.filter_cons_of_neg (by simpa using hown)]
        exact ih ((agreesOn_record_of_ne hown left).trans hagrees)

theorem agreesOn_recordAll {changes others : List StatusChange}
    (hsame : changes.filter (·.id = id) = others.filter (·.id = id)) (registry : Registry) :
    AgreesOn id (recordAll changes registry) (recordAll others registry) := by
  have hchanges := (AgreesOn.refl id registry).recordAll_filter changes
  have hothers := (AgreesOn.refl id registry).recordAll_filter others
  rw [← hsame] at hothers
  exact hchanges.trans hothers.symm

end Registry

namespace Worker

variable {σ ν δ κ : Type}

/-! ### What an event has recorded -/

section Events

variable (environment : Environment σ ν δ) (settings : Settings) (start : Observed σ)

/-- What an event about a node has recorded, if anything, as the content tells. -/
def recordOf (event : WatchEvent) : Option StatusChange :=
  (settings.candidate? event.name).bind fun node =>
    (settings.logicalId? node).bind fun id =>
      match event.change with
      | .created =>
        if assess environment settings node start = .admitted then some ⟨id, .present⟩ else none
      | .deleted => some ⟨id, .notPresent⟩

/-- The event makes discovery construct a device, and that panics. -/
def Breaks (event : WatchEvent) : Prop :=
  event.change = .created ∧ ∃ node, settings.candidate? event.name = some node ∧
    assess environment settings node start = .panicked

variable {environment settings start}

theorem exists_node_of_recordOf {event : WatchEvent} {change : StatusChange}
    (hrecord : recordOf environment settings start event = some change) :
    ∃ node, settings.candidate? event.name = some node ∧
      settings.logicalId? node = some change.id := by
  simp only [recordOf, Option.bind_eq_some_iff] at hrecord
  obtain ⟨node, hcandidate, id, hid, hchange⟩ := hrecord
  refine ⟨node, hcandidate, hid.trans (congrArg some ?_)⟩
  cases hkind : event.change with
  | created =>
      rw [hkind] at hchange
      dsimp only at hchange
      split_ifs at hchange
      exact congrArg StatusChange.id (Option.some.inj hchange)
  | deleted =>
      rw [hkind] at hchange
      exact congrArg StatusChange.id (Option.some.inj hchange)

/-- The events that have an id recorded all name its node. -/
theorem exists_name_of_recordOf (environment : Environment σ ν δ) (settings : Settings)
    (start : Observed σ) (id : LogicalId) :
    ∃ name, ∀ event change, recordOf environment settings start event = some change →
      change.id = id → event.name = name := by
  by_cases hsome : ∃ event change, recordOf environment settings start event = some change ∧
      change.id = id
  · obtain ⟨event, change, hrecord, rfl⟩ := hsome
    obtain ⟨node, hcandidate, hid⟩ := exists_node_of_recordOf hrecord
    refine ⟨event.name, ?_⟩
    intro other otherChange hother hsame
    obtain ⟨otherNode, hotherCandidate, hotherId⟩ := exists_node_of_recordOf hother
    exact Settings.name_eq_of_logicalId?_eq (Settings.node?_of_candidate? hotherCandidate)
      (Settings.node?_of_candidate? hcandidate) (hsame ▸ hotherId) hid
  · refine ⟨"", ?_⟩
    intro event change hrecord hid
    exact absurd ⟨event, change, hrecord, hid⟩ hsome

/-- Whoever agrees on the events of each name agrees on the records of each id. -/
theorem filter_filterMap_recordOf {left right : List WatchEvent}
    (hsame : ∀ name, left.filter (·.name = name) = right.filter (·.name = name))
    (id : LogicalId) :
    (left.filterMap (recordOf environment settings start)).filter (·.id = id) =
      (right.filterMap (recordOf environment settings start)).filter (·.id = id) := by
  obtain ⟨name, hname⟩ := exists_name_of_recordOf environment settings start id
  have hown (events : List WatchEvent) :
      (events.filterMap (recordOf environment settings start)).filter (·.id = id) =
        ((events.filter (·.name = name)).filterMap
          (recordOf environment settings start)).filter (·.id = id) := by
    rw [List.filter_filterMap, List.filter_filterMap, List.filterMap_filter]
    congr 1
    funext event
    by_cases hmatch : event.name = name
    · simp [hmatch]
    · have hnone : (recordOf environment settings start event).filter (·.id = id) = none := by
        rw [Option.filter_eq_none_iff]
        intro change hrecord
        simpa using fun hid => hmatch (hname event change hrecord hid)
      rw [hnone]
      simp [hmatch]
  rw [hown left, hown right, hsame]

end Events

/-! ### One event -/

section Handling

variable {environment : Environment σ ν δ} {settings : Settings} {view : σ → κ}
  (hforeseeable : environment.IsForeseeable settings view) {start : Observed σ}
  {worker : Worker σ} (hcontent : view worker.outside.state = view start.state)

theorem registry_nodeDeleted {node : DeviceNode} {id : LogicalId}
    (hid : settings.logicalId? node = some id) (worker : Worker σ) :
    (nodeDeleted settings worker node).registry = (worker.registry.recordAbsent id).2 := by
  rw [nodeDeleted_eq, dismiss, hid]

include hforeseeable hcontent

/-- The node is assessed as it would have been at the start. -/
theorem assess_after_pause (node : DeviceNode) :
    assess environment settings node
        (pause environment worker settings.settleDelay).outside =
      assess environment settings node start :=
  hforeseeable.assess_eq node _ _
    ((view_pause hforeseeable.toIsFixed worker settings.settleDelay).trans hcontent)

theorem fst_handleEvent_eq_panicked_iff {event : WatchEvent}
    (hnode : ¬ settings.IsAuxiliary event.name) :
    (handleEvent environment settings worker event).1 = .panicked ↔
      Breaks environment settings start event := by
  obtain ⟨change, name⟩ := event
  have hother : ¬ (settings.node? name = none ∧
      Text.startsWith name settings.auxPrefix = true) := hnode
  rw [handleEvent_eq, Breaks]
  cases hcandidate : settings.candidate? name with
  | none => simp [hother]
  | some node =>
      cases change with
      | deleted => simp
      | created =>
          obtain ⟨id, hid⟩ :=
            Settings.exists_logicalId_of_node? (Settings.node?_of_candidate? hcandidate)
          simp only [nodeCreated, Attempt.ending_eq_panicked_iff, fst_inspect_eq_panicked_iff hid,
            assess_after_pause hforeseeable hcontent, true_and, Option.some.injEq,
            exists_eq_left']

theorem registry_handleEvent {event : WatchEvent} (hnode : ¬ settings.IsAuxiliary event.name) :
    (handleEvent environment settings worker event).2.registry =
      Registry.recordAll (recordOf environment settings start event).toList worker.registry := by
  obtain ⟨change, name⟩ := event
  have hother : ¬ (settings.node? name = none ∧
      Text.startsWith name settings.auxPrefix = true) := hnode
  rw [handleEvent_eq, recordOf]
  cases hcandidate : settings.candidate? name with
  | none =>
      dsimp only
      rw [if_neg hother]
      rfl
  | some node =>
      obtain ⟨id, hid⟩ :=
        Settings.exists_logicalId_of_node? (Settings.node?_of_candidate? hcandidate)
      simp only [Option.bind_some, hid]
      cases change with
      | deleted => exact registry_nodeDeleted hid worker
      | created =>
          have hinspected : (inspect environment settings
                (pause environment worker settings.settleDelay) node).2.registry = _ :=
            registry_inspect hid
          rw [assess_after_pause hforeseeable hcontent] at hinspected
          refine hinspected.trans ?_
          dsimp only
          split_ifs <;> rfl

/-! ### Any number of events -/

/-- Events about nodes break off exactly if one of them does, and have their records made in order
otherwise. -/
theorem handleEvents_of_nodes {events : List WatchEvent}
    (hnodes : ∀ event ∈ events, ¬ settings.IsAuxiliary event.name) :
    ((handleEvents environment settings events worker).1 = .panicked ↔
        ∃ event ∈ events, Breaks environment settings start event) ∧
      ((handleEvents environment settings events worker).1 = .returned →
        (handleEvents environment settings events worker).2.registry =
          Registry.recordAll (events.filterMap (recordOf environment settings start))
            worker.registry) := by
  induction events generalizing worker with
  | nil => exact ⟨by simp [handleEvents], fun _ => rfl⟩
  | cons event events ih =>
      have hnode := hnodes event List.mem_cons_self
      have hbreaks := fst_handleEvent_eq_panicked_iff hforeseeable hcontent hnode
      have hregistry := registry_handleEvent hforeseeable hcontent hnode
      have hview := view_handleEvent hforeseeable.toIsFixed settings worker event
      simp only [List.mem_cons, exists_eq_or_imp]
      unfold handleEvents
      cases hhandled : handleEvent environment settings worker event with
      | mk ending next =>
          rw [hhandled] at hbreaks hregistry hview
          cases ending with
          | panicked =>
              exact ⟨iff_of_true rfl (Or.inl (hbreaks.mp rfl)), fun hreturned => by cases hreturned⟩
          | returned =>
              obtain ⟨hending, hrest⟩ := ih (hview.trans hcontent)
                fun other hmem => hnodes other (List.mem_cons_of_mem event hmem)
              have hfine : ¬ Breaks environment settings start event :=
                fun hbroken => absurd (hbreaks.mpr hbroken) (by simp)
              refine ⟨by rw [or_iff_right hfine]; exact hending, ?_⟩
              intro hreturned
              rw [hrest hreturned, hregistry, ← Registry.recordAll_append]
              congr 1
              cases hrecord : recordOf environment settings start event with
              | none => rw [List.filterMap_cons_none hrecord]; rfl
              | some change => rw [List.filterMap_cons_some hrecord]; rfl

end Handling

theorem mem_iff_of_same_events {left right : List WatchEvent}
    (hsame : ∀ name, left.filter (·.name = name) = right.filter (·.name = name))
    (event : WatchEvent) : event ∈ left ↔ event ∈ right := by
  have hown (events : List WatchEvent) :
      event ∈ events ↔ event ∈ events.filter (·.name = event.name) := by
    simp
  rw [hown left, hown right, hsame]

/-- Two lists that hold the same events about each name, in the same order, come to the same: both
are handled to their end, or neither is, as the trial construction for one of the events panics. If
they are, each has its records made in its own order, and yet the same ids are present, and each id's
changes were told alike. -/
theorem unrelated_events_commute {environment : Environment σ ν δ} {view : σ → κ}
    (hdetermined : environment.IsDetermined view) (settings : Settings) (worker : Worker σ)
    {left right : List WatchEvent}
    (hnodes : ∀ event ∈ left, ¬ settings.IsAuxiliary event.name)
    (hsame : ∀ name, left.filter (·.name = name) = right.filter (·.name = name)) :
    let first := handleEvents environment settings left worker
    let second := handleEvents environment settings right worker
    first.1 = second.1 ∧
      (first.1 = .panicked ↔ ∃ event ∈ left, Breaks environment settings worker.outside event) ∧
      (first.1 = .returned →
        first.2.registry = Registry.recordAll
          (left.filterMap (recordOf environment settings worker.outside)) worker.registry ∧
        first.2.registry.devices = second.2.registry.devices ∧
        ∀ id, first.2.registry.toldAbout id = second.2.registry.toldAbout id) := by
  intro first second
  have hforeseeable := hdetermined.isForeseeable settings
  have hmem := mem_iff_of_same_events hsame
  have hstart : view worker.outside.state = view worker.outside.state := rfl
  obtain ⟨hfirst, hfirstRegistry⟩ := handleEvents_of_nodes hforeseeable hstart hnodes
  obtain ⟨hsecond, hsecondRegistry⟩ := handleEvents_of_nodes hforeseeable hstart
    fun event hright => hnodes event ((hmem event).mpr hright)
  have hbreaks : first.1 = .panicked ↔ second.1 = .panicked := by
    rw [hfirst, hsecond]
    simp only [hmem]
  have hending : first.1 = second.1 := by
    cases hleft : first.1 with
    | panicked => exact (hbreaks.mp hleft).symm
    | returned =>
        cases hright : second.1 with
        | panicked => exact nomatch hleft.symm.trans (hbreaks.mpr hright)
        | returned => rfl
  refine ⟨hending, hfirst, ?_⟩
  intro hreturned
  have hagrees (id : LogicalId) : Registry.AgreesOn id first.2.registry second.2.registry := by
    rw [hfirstRegistry hreturned, hsecondRegistry (hending.symm.trans hreturned)]
    exact Registry.agreesOn_recordAll (filter_filterMap_recordOf hsame id) worker.registry
  exact ⟨hfirstRegistry hreturned, Ascending.ext_mem fun id => (hagrees id).present,
    fun id => (hagrees id).told⟩

/-! ### Two cameras -/

def pairBench : Bench :=
  ((Bench.ofSettings .standard).addNode "video1" .uvcCamera).addNode "video2" .uvcCamera

def pairEnvironment : Environment Bench BenchNode Unit :=
  Bench.environment fun _ _ => .built ()

def pairWorker : Worker Bench :=
  start pairBench (Registry.empty.attach ⟨fun _ _ => .returned⟩)

/-- The first camera comes and goes before the second comes. -/
def oneByOne : List WatchEvent :=
  [⟨.created, "video1"⟩, ⟨.deleted, "video1"⟩, ⟨.created, "video2"⟩]

/-- The second camera comes first. -/
def interleaved : List WatchEvent :=
  [⟨.created, "video2"⟩, ⟨.created, "video1"⟩, ⟨.deleted, "video1"⟩]

theorem pairWorker_commutes :
    let first := handleEvents pairEnvironment .standard oneByOne pairWorker
    let second := handleEvents pairEnvironment .standard interleaved pairWorker
    first.1 = .returned ∧ second.1 = .returned ∧
      first.2.registry.told ≠ second.2.registry.told ∧
      first.2.registry.devices.toList = [⟨3, 4, 102⟩] ∧
      first.2.registry.devices = second.2.registry.devices ∧
      ∀ id, first.2.registry.toldAbout id = second.2.registry.toldAbout id := by
  have hreturned : (handleEvents pairEnvironment .standard oneByOne pairWorker).1 = .returned := by
    decide +kernel
  have hnodes : ∀ event ∈ oneByOne, ¬ Settings.standard.IsAuxiliary event.name := by
    decide +kernel
  have hsame (name : String) :
      oneByOne.filter (·.name = name) = interleaved.filter (·.name = name) := by
    by_cases hfirst : "video1" = name
    · subst hfirst
      decide
    · by_cases hsecond : "video2" = name
      · subst hsecond
        decide
      · simp [oneByOne, interleaved, hfirst, hsecond]
  obtain ⟨hending, _, hcommutes⟩ := unrelated_events_commute
    (Bench.isDetermined fun _ _ => .built ()) .standard pairWorker hnodes hsame
  obtain ⟨_, hdevices, htold⟩ := hcommutes hreturned
  exact ⟨hreturned, hending.symm.trans hreturned, by decide +kernel, by decide +kernel, hdevices,
    htold⟩

end Worker

end CameraHotplug
