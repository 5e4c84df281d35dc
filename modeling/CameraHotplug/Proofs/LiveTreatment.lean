import CameraHotplug.Proofs.FixedContent
import CameraHotplug.Proofs.LiveDirectory

/-!
# Treating entries and events of a live directory

While one entry or event is treated the directory stands still. So treating a node enrolls it exactly
when it qualifies, and remembers it exactly when it is a receiver, whatever led to the node.
-/

namespace CameraHotplug.Worker

open LiveDirectory

variable {δ : Type} (settings : Settings) (construct : Version → Path → Construction δ)

/-- The worker after a node was treated in the world of the worker before. -/
structure Enrolls (node : DeviceNode) (before after : Worker LiveDirectory) : Prop where
  state : after.outside.state = before.outside.state
  watching : after.watching = before.watching
  devices : ∀ id, id ∈ after.registry.devices ↔ id ∈ before.registry.devices ∨
    settings.logicalId? node = some id ∧ before.outside.state.Qualifies settings construct node
  remembered : before.outside.state.Receives settings construct node →
    after.receiver? = settings.logicalId? node
  kept : ¬ before.outside.state.Receives settings construct node →
    after.receiver? = before.receiver?

theorem Enrolls.of_ne {settings : Settings} {construct : Version → Path → Construction δ}
    {node : DeviceNode} {before after : Worker LiveDirectory} {id : LogicalId}
    (henrolls : Enrolls settings construct node before after)
    (hforeign : settings.logicalId? node ≠ some id) :
    (id ∈ after.registry.devices ↔ id ∈ before.registry.devices) ∧
      (before.receiver? ≠ some id → after.receiver? ≠ some id) := by
  constructor
  · rw [henrolls.devices]
    exact or_iff_left fun hown => hforeign hown.1
  · intro hforgotten
    by_cases hreceives : before.outside.state.Receives settings construct node
    · rw [henrolls.remembered hreceives]
      exact hforeign
    · rw [henrolls.kept hreceives]
      exact hforgotten

structure Keeps (before after : Worker LiveDirectory) : Prop where
  state : after.outside.state = before.outside.state
  watching : after.watching = before.watching
  registry : after.registry = before.registry
  receiver : after.receiver? = before.receiver?

/-- No question changes the directory. -/
theorem isFixed_environment : (environment settings construct).IsFixed id where
  readDirectory _ := settled_id fun _ => rfl
  openNode _ _ := settled_id fun _ => rfl
  queryCapability _ := settled_id fun _ => rfl
  enumerateFormat _ _ _ := settled_id fun _ => rfl
  readAttribute _ := settled_id fun _ => rfl
  construct _ _ _ := rfl
  pause _ := settled_id fun _ => rfl

variable {settings construct}

section OneNode

variable {worker : Worker LiveDirectory} {node : DeviceNode}

theorem enrolls_enroll {outside : Observed LiveDirectory}
    (hstate : outside.state = worker.outside.state)
    (hreceives : worker.outside.state.Receives settings construct node) :
    Enrolls settings construct node worker (enroll (environment settings construct) settings
      { worker with outside, receiver? := settings.logicalId? node } node).2 := by
  have hkept := view_enroll (isFixed_environment settings construct) settings
    { worker with outside, receiver? := settings.logicalId? node } node
  refine ⟨hkept.trans hstate, watching_enroll _ _ _ _, ?_, ?_, ?_⟩
  · intro id
    rw [mem_devices_enroll, passes_iff]
    dsimp only
    rw [hstate]
    simp only [Qualifies, hreceives.1, hreceives.2, Classification.isExternal, true_and]
    rfl
  · intro _
    rw [receiver?_enroll]
  · intro hother
    exact absurd hreceives hother

theorem enrolls_inspect (htouches : settings.Touches node) :
    Enrolls settings construct node worker
      (inspect (environment settings construct) settings worker node).2 := by
  obtain ⟨calls, hclass⟩ := classify_eq settings construct node worker.outside
  have hkept := view_inspect (isFixed_environment settings construct) settings worker node
  refine ⟨hkept, watching_inspect _ _ _ _, ?_, ?_, ?_⟩
  · intro id
    rw [mem_devices_inspect, hclass, passes_iff]
    dsimp only
    have hqualifies : worker.outside.state.Qualifies settings construct node ↔
        (worker.outside.state.verdict settings construct node).isExternal = true ∧
          Passes (environment settings construct) node .v3_4 ⟨worker.outside.state, []⟩ := by
      constructor
      · intro hqualifies
        exact hqualifies.2
      · intro hexternal
        exact ⟨mem_names_of_isExternal htouches hexternal.1, hexternal⟩
    rw [hqualifies]
    rfl
  · intro hreceives
    rw [receiver?_inspect, hclass]
    exact if_pos hreceives.2
  · intro hother
    rw [receiver?_inspect, hclass]
    apply if_neg
    intro (hverdict : worker.outside.state.verdict settings construct node = .externalReceiver)
    have hexternal : (worker.outside.state.verdict settings construct node).isExternal = true := by
      rw [hverdict]
      rfl
    exact hother ⟨mem_names_of_isExternal htouches hexternal, hverdict⟩

end OneNode

/-! ### One event -/

/-- An auxiliary entry leads to a receiver that is there, or to nothing. -/
theorem auxCreated_live (worker : Worker LiveDirectory) :
    Keeps worker (auxCreated (environment settings construct) settings worker).2 ∨
      ∃ node, settings.Touches node ∧ worker.outside.state.Receives settings construct node ∧
        Enrolls settings construct node worker
          (auxCreated (environment settings construct) settings worker).2 := by
  have hstate : (findReceiver (environment settings construct) settings
      (pause (environment settings construct) worker settings.receiverSettleDelay)).2.outside.state =
        worker.outside.state :=
    view_findReceiver (isFixed_environment settings construct) settings _
  cases hfound : (findReceiver (environment settings construct) settings
      (pause (environment settings construct) worker settings.receiverSettleDelay)).1 with
  | none =>
      rw [auxCreated_of_none _ _ worker hfound]
      exact Or.inl ⟨hstate, rfl, rfl, rfl⟩
  | some node =>
      obtain ⟨names, name, asked, hnames, hmem, hcandidate, _, hclass⟩ :=
        classify_of_findReceiver _ settings _ node hfound
      obtain rfl : worker.outside.state.names = names := Except.ok.inj hnames
      obtain ⟨htouches, hname⟩ :=
        Settings.touches_of_candidate? hcandidate (worker.outside.state.proper name hmem)
      obtain ⟨calls, hasked⟩ := classify_eq settings construct node asked
      rw [hasked, Prod.mk.injEq] at hclass
      have hsame : asked.state = worker.outside.state :=
        (congrArg Observed.state hclass.2).trans hstate
      have hverdict := hsame ▸ hclass.1
      rw [auxCreated_of_some _ _ worker node hfound]
      exact Or.inr ⟨node, htouches, ⟨hname ▸ hmem, hverdict⟩,
        enrolls_enroll hstate ⟨hname ▸ hmem, hverdict⟩⟩

inductive Scanned (settings : Settings) (construct : Version → Path → Construction δ)
    (name : String) (before after : Worker LiveDirectory) : Prop where
  | treated (node : DeviceNode) (touches : settings.Touches node) (own : node.name = name)
      (enrolls : Enrolls settings construct node before after)
  | passed (other : settings.candidate? name = none) (keeps : Keeps before after)

theorem scanned (worker : Worker LiveDirectory) {name : String} (hproper : IsEntryName name) :
    Scanned settings construct name worker
      (scanEntry (environment settings construct) settings worker name).2 := by
  unfold scanEntry
  cases hcandidate : settings.candidate? name with
  | none => exact .passed hcandidate ⟨rfl, rfl, rfl, rfl⟩
  | some node =>
      obtain ⟨htouches, hname⟩ := Settings.touches_of_candidate? hcandidate hproper
      exact .treated node htouches hname (enrolls_inspect htouches)

theorem Scanned.state {name : String} {before after : Worker LiveDirectory}
    (hscanned : Scanned settings construct name before after) :
    after.outside.state = before.outside.state := by
  cases hscanned with
  | treated _ _ _ enrolls => exact enrolls.state
  | passed _ keeps => exact keeps.state

theorem Scanned.watching {name : String} {before after : Worker LiveDirectory}
    (hscanned : Scanned settings construct name before after) :
    after.watching = before.watching := by
  cases hscanned with
  | treated _ _ _ enrolls => exact enrolls.watching
  | passed _ keeps => exact keeps.watching

theorem nodeCreated_live (worker : Worker LiveDirectory) {node : DeviceNode}
    (htouches : settings.Touches node) :
    Enrolls settings construct node worker
      (nodeCreated (environment settings construct) settings worker node).2 := by
  have henrolls : Enrolls settings construct node
      (pause (environment settings construct) worker settings.settleDelay)
      (nodeCreated (environment settings construct) settings worker node).2 :=
    enrolls_inspect htouches
  exact ⟨henrolls.state, henrolls.watching, henrolls.devices, henrolls.remembered, henrolls.kept⟩

inductive Handled (settings : Settings) (construct : Version → Path → Construction δ)
    (event : WatchEvent) (before after : Worker LiveDirectory) : Prop where
  | created (node : DeviceNode) (touches : settings.Touches node)
      (own : event = ⟨.created, node.name⟩) (enrolls : Enrolls settings construct node before after)
  | deleted (node : DeviceNode) (touches : settings.Touches node)
      (own : event = ⟨.deleted, node.name⟩) (after : after = nodeDeleted settings before node)
  | signalled (node : DeviceNode) (touches : settings.Touches node)
      (other : settings.candidate? event.name = none)
      (receives : before.outside.state.Receives settings construct node)
      (enrolls : Enrolls settings construct node before after)
  | auxDeleted (other : settings.candidate? event.name = none)
      (after : after = Worker.auxDeleted before)
  | ignored (other : settings.candidate? event.name = none) (keeps : Keeps before after)

theorem handled (worker : Worker LiveDirectory) {event : WatchEvent}
    (hproper : IsEntryName event.name) :
    Handled settings construct event worker
      (handleEvent (environment settings construct) settings worker event).2 := by
  obtain ⟨change, name⟩ := event
  rw [handleEvent_eq]
  cases hcandidate : settings.candidate? name with
  | some node =>
      obtain ⟨htouches, rfl⟩ := Settings.touches_of_candidate? hcandidate hproper
      cases change with
      | created => exact .created node htouches rfl (nodeCreated_live worker htouches)
      | deleted => exact .deleted node htouches rfl rfl
  | none =>
      dsimp only
      split_ifs
      · cases change with
        | created =>
            rcases auxCreated_live worker with hkeeps | ⟨node, htouches, hreceives, henrolls⟩
            · exact .ignored hcandidate hkeeps
            · exact .signalled node htouches hcandidate hreceives henrolls
        | deleted => exact .auxDeleted hcandidate rfl
      · exact .ignored hcandidate ⟨rfl, rfl, rfl, rfl⟩

theorem Handled.state {event : WatchEvent} {before after : Worker LiveDirectory}
    (hhandled : Handled settings construct event before after) :
    after.outside.state = before.outside.state := by
  cases hhandled with
  | created _ _ _ enrolls => exact enrolls.state
  | deleted _ _ _ after => rw [after, outside_nodeDeleted]
  | signalled _ _ _ _ enrolls => exact enrolls.state
  | auxDeleted _ after => rw [after, outside_auxDeleted]
  | ignored _ keeps => exact keeps.state

theorem Handled.watching {event : WatchEvent} {before after : Worker LiveDirectory}
    (hhandled : Handled settings construct event before after) :
    after.watching = before.watching := by
  cases hhandled with
  | created _ _ _ enrolls => exact enrolls.watching
  | deleted _ _ _ after => rw [after, watching_nodeDeleted]
  | signalled _ _ _ _ enrolls => exact enrolls.watching
  | auxDeleted _ after => rw [after, watching_auxDeleted]
  | ignored _ keeps => exact keeps.watching

/-! ### Waiting -/

/-- The worker after it opened a watch or waited: what it awaited is among the events, or still to
come, and it has a watch wherever events may come from. -/
structure Awaited (before after : Worker LiveDirectory) (events : List WatchEvent) : Prop where
  registry : after.registry = before.registry
  receiver : after.receiver? = before.receiver?
  content : ∀ name, after.outside.state.content? name = before.outside.state.content? name
  waiting : events ++ after.outside.state.queue.waiting = before.outside.state.queue.waiting
  unwatched : after.watching = false → after.outside.state.queue = EventQueue.empty.close
  stillOpen : before.outside.state.queue.isOpen = true → after.outside.state.queue.isOpen = true
  opened : after.outside.state.queue.isOpen = true →
    before.outside.state.queue.isOpen = true ∨ before.outside.state.queue.waiting = []

theorem awaited_registerWatch {worker : Worker LiveDirectory}
    (hqueue : worker.outside.state.queue = EventQueue.empty.close) :
    Awaited worker (registerWatch (environment settings construct) settings worker).2 [] := by
  have hopen : Observed.openWatch (environment settings construct) settings.deviceDirectory
      worker.outside = (worker.outside.state.openWatch.1,
        ⟨worker.outside.state.openWatch.2, worker.outside.calls ++
          [.openWatch settings.deviceDirectory worker.outside.state.openWatch.1]⟩) := rfl
  unfold registerWatch
  rw [hopen]
  unfold LiveDirectory.openWatch
  cases worker.outside.state.refusal? with
  | some cause =>
      exact ⟨rfl, rfl, fun _ => rfl, rfl, fun _ => hqueue, fun hopen => hopen, Or.inl⟩
  | none =>
      exact ⟨rfl, rfl, fun _ => rfl, by rw [hqueue]; rfl, fun hwatching => by simp at hwatching,
        fun _ => rfl, fun _ => Or.inr (congrArg EventQueue.waiting hqueue)⟩

theorem queue_registerWatch {worker : Worker LiveDirectory}
    (haccepted : worker.outside.state.refusal? = none) :
    (registerWatch (environment settings construct) settings worker).2.outside.state.queue =
      EventQueue.empty := by
  have hopen : Observed.openWatch (environment settings construct) settings.deviceDirectory
      worker.outside = (worker.outside.state.openWatch.1,
        ⟨worker.outside.state.openWatch.2, worker.outside.calls ++
          [.openWatch settings.deviceDirectory worker.outside.state.openWatch.1]⟩) := rfl
  unfold registerWatch
  rw [hopen]
  unfold LiveDirectory.openWatch
  rw [haccepted]

theorem awaited_awaitEvents {worker : Worker LiveDirectory}
    (hunwatched : worker.watching = false →
      worker.outside.state.queue = EventQueue.empty.close) :
    Awaited worker (awaitEvents (environment settings construct) settings worker).2
      (awaitEvents (environment settings construct) settings worker).1 := by
  unfold awaitEvents
  cases hwatching : worker.watching with
  | false =>
      have hregister : Awaited worker
          (registerWatch (environment settings construct) settings worker).2 [] :=
        awaited_registerWatch (hunwatched hwatching)
      simp only [Bool.false_eq_true, if_false]
      cases hopened : registerWatch (environment settings construct) settings worker with
      | mk opened next =>
          rw [hopened] at hregister
          cases opened with
          | true => exact hregister
          | false =>
              exact ⟨hregister.registry, hregister.receiver, hregister.content,
                hregister.waiting, hregister.unwatched, hregister.stillOpen, hregister.opened⟩
  | true =>
      have hwait : Observed.wait (environment settings construct) settings.pollTimeout
          worker.outside = (worker.outside.state.wait.1, ⟨worker.outside.state.wait.2,
            worker.outside.calls ++ [.wait settings.pollTimeout worker.outside.state.wait.1]⟩) := rfl
      simp only [if_true]
      rw [hwait]
      unfold LiveDirectory.wait
      rcases EventQueue.wait_eq worker.outside.state.queue with htaken | ⟨hclosed, hfailed⟩
      · rw [htaken]
        exact ⟨rfl, rfl, fun _ => rfl, List.append_nil _, fun hfalse => by simp at hfalse,
          fun hopen => hopen, Or.inl⟩
      · rw [hfailed]
        exact ⟨rfl, rfl, fun _ => rfl, rfl, fun _ => hclosed, fun hopen => hopen, Or.inl⟩

end CameraHotplug.Worker
