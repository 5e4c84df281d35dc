import CameraHotplug.Discovery.Worker
import CameraHotplug.Proofs.NodeName
import CameraHotplug.Proofs.Observation

/-!
# What each treatment does to the registry

A node enters the registry in one place, after it passed its probe and its trial construction, and
leaves it in one place. Everything that discovery does to an entry or an event is one of these two,
with a change of the remembered receiver around it. The lemmas below say so for each treatment, and
nothing after them opens a treatment again.
-/

namespace CameraHotplug

namespace Registry

variable (registry : Registry) (id other : LogicalId)

@[simp]
theorem devices_notify (change : StatusChange) :
    (registry.notify change).devices = registry.devices := by
  unfold notify
  split <;> rfl

theorem mem_devices_recordPresent :
    other ∈ (registry.recordPresent id).2.devices ↔ other = id ∨ other ∈ registry.devices := by
  unfold recordPresent
  split_ifs with hcontains
  · rw [Ascending.contains_eq_true] at hcontains
    exact ⟨Or.inr, fun hmem => hmem.elim (fun heq => heq ▸ hcontains) fun hmem => hmem⟩
  · rw [devices_notify, Ascending.mem_insert]

theorem mem_devices_recordAbsent :
    other ∈ (registry.recordAbsent id).2.devices ↔ other ≠ id ∧ other ∈ registry.devices := by
  unfold recordAbsent
  split_ifs with hcontains
  · rw [devices_notify, Ascending.mem_erase]
  · rw [Ascending.contains_eq_true] at hcontains
    exact ⟨fun hmem => ⟨fun heq => hcontains (heq ▸ hmem), hmem⟩, And.right⟩

end Registry

/-- How many ids the registry gained. -/
def Attempt.gain : Attempt → Nat
  | .recorded => 1
  | .unchanged | .panicked => 0

theorem Attempt.ending_eq_panicked_iff (attempt : Attempt) :
    attempt.ending = .panicked ↔ attempt = .panicked := by
  cases attempt <;> simp [Attempt.ending]

variable {σ ν δ : Type} (environment : Environment σ ν δ) (settings : Settings)

namespace Worker

variable (worker : Worker σ) (node : DeviceNode)

/-! ### One node -/

theorem enroll_of_passes {id : LogicalId} (hid : settings.logicalId? node = some id)
    (hpasses : Passes environment node trialVersion worker.outside) :
    (enroll environment settings worker node).2 =
      { worker with
        outside := (Observed.construct environment trialVersion node.path
          (probeCapture environment node worker.outside).2).2
        registry := (worker.registry.recordPresent id).2 } := by
  obtain ⟨hprobe, device, hbuilt⟩ := hpasses
  unfold enroll
  rw [hid]
  dsimp only
  split
  next hfailed => rw [hfailed] at hprobe; simp at hprobe
  next hprobed =>
    rw [hprobed] at hbuilt ⊢
    dsimp only at hbuilt ⊢
    split
    next hpanicked => rw [hpanicked] at hbuilt; simp at hbuilt
    next hfailed => rw [hfailed] at hbuilt; simp at hbuilt
    next hconstructed => rw [hconstructed]

theorem enroll_of_not_passes (hfails : ¬ Passes environment node trialVersion worker.outside) :
    ∃ outside, (enroll environment settings worker node).2 = { worker with outside } := by
  unfold enroll
  split
  next => exact ⟨worker.outside, rfl⟩
  next =>
    split
    next => exact ⟨_, rfl⟩
    next hprobed =>
      split
      next => exact ⟨_, rfl⟩
      next => exact ⟨_, rfl⟩
      next device _ hconstructed =>
        exfalso
        refine hfails ⟨by rw [hprobed], device, ?_⟩
        rw [hprobed, hconstructed]

theorem enroll_of_logicalId?_eq_none (hid : settings.logicalId? node = none) :
    enroll environment settings worker node = (.unchanged, worker) := by
  unfold enroll
  rw [hid]

theorem exists_enroll_eq : ∃ outside registry,
    (enroll environment settings worker node).2 = { worker with outside, registry } := by
  by_cases hpasses : Passes environment node trialVersion worker.outside
  · cases hid : settings.logicalId? node with
    | none =>
        exact ⟨_, _, by rw [enroll_of_logicalId?_eq_none environment settings worker node hid]⟩
    | some id => exact ⟨_, _, enroll_of_passes environment settings worker node hid hpasses⟩
  · obtain ⟨outside, heq⟩ := enroll_of_not_passes environment settings worker node hpasses
    exact ⟨outside, worker.registry, heq⟩

@[simp]
theorem receiver?_enroll :
    (enroll environment settings worker node).2.receiver? = worker.receiver? := by
  obtain ⟨outside, registry, heq⟩ := exists_enroll_eq environment settings worker node
  rw [heq]

@[simp]
theorem watching_enroll :
    (enroll environment settings worker node).2.watching = worker.watching := by
  obtain ⟨outside, registry, heq⟩ := exists_enroll_eq environment settings worker node
  rw [heq]

/-- Enrolling asks nothing, or probes only, or probes and constructs. -/
theorem outside_enroll :
    (enroll environment settings worker node).2.outside = worker.outside ∨
    (enroll environment settings worker node).2.outside =
      (probeCapture environment node worker.outside).2 ∨
    (enroll environment settings worker node).2.outside =
      (Observed.construct environment trialVersion node.path
        (probeCapture environment node worker.outside).2).2 := by
  unfold enroll
  split
  next => exact Or.inl rfl
  next =>
    split
    next hprobed => exact Or.inr (Or.inl (congrArg Prod.snd hprobed).symm)
    next hprobed =>
      refine Or.inr (Or.inr ?_)
      rw [hprobed]
      split
      next hmade => exact (congrArg Prod.snd hmade).symm
      next hmade => exact (congrArg Prod.snd hmade).symm
      next hmade => exact (congrArg Prod.snd hmade).symm

theorem calls_enroll :
    worker.outside.calls <+: (enroll environment settings worker node).2.outside.calls := by
  have hprobe := extends_probeCapture environment node worker.outside
  rcases outside_enroll environment settings worker node with heq | heq | heq
  · exact heq.symm ▸ List.prefix_refl _
  · rw [heq]
    exact hprobe
  · rw [heq]
    exact hprobe.trans (extends_call _ _ _)

theorem mem_devices_enroll {id : LogicalId} :
    id ∈ (enroll environment settings worker node).2.registry.devices ↔
      id ∈ worker.registry.devices ∨
        settings.logicalId? node = some id ∧
          Passes environment node trialVersion worker.outside := by
  by_cases hpasses : Passes environment node trialVersion worker.outside
  · cases hid : settings.logicalId? node with
    | none =>
        rw [enroll_of_logicalId?_eq_none environment settings worker node hid]
        simp
    | some own =>
        rw [enroll_of_passes environment settings worker node hid hpasses,
          Registry.mem_devices_recordPresent, Option.some.injEq, or_comm, eq_comm]
        simp [hpasses]
  · obtain ⟨outside, heq⟩ := enroll_of_not_passes environment settings worker node hpasses
    rw [heq]
    simp [hpasses]

theorem mem_devices_inspect {id : LogicalId} :
    id ∈ (inspect environment settings worker node).2.registry.devices ↔
      id ∈ worker.registry.devices ∨ settings.logicalId? node = some id ∧
        (classify environment settings node worker.outside).1.isExternal = true ∧
        Passes environment node trialVersion
          (classify environment settings node worker.outside).2 := by
  unfold inspect
  split
  next hclass => simp [hclass, Classification.isExternal]
  next hclass => simp [hclass, Classification.isExternal, mem_devices_enroll]
  next hclass => simp [hclass, Classification.isExternal, mem_devices_enroll]

theorem receiver?_inspect :
    (inspect environment settings worker node).2.receiver? =
      if (classify environment settings node worker.outside).1 = .externalReceiver then
        settings.logicalId? node
      else worker.receiver? := by
  unfold inspect
  split
  next hclass => simp [hclass]
  next hclass => simp [hclass]
  next hclass => simp [hclass]

@[simp]
theorem watching_inspect :
    (inspect environment settings worker node).2.watching = worker.watching := by
  unfold inspect
  split <;> simp

theorem exists_dismiss_eq :
    ∃ registry, (dismiss settings worker node).2 = { worker with registry } := by
  unfold dismiss
  split
  next => exact ⟨worker.registry, rfl⟩
  next => exact ⟨_, rfl⟩

theorem mem_devices_dismiss {id : LogicalId} :
    id ∈ (dismiss settings worker node).2.registry.devices ↔
      settings.logicalId? node ≠ some id ∧ id ∈ worker.registry.devices := by
  unfold dismiss
  split
  next hid => simp [hid]
  next own hid =>
    dsimp only
    rw [Registry.mem_devices_recordAbsent, hid, ne_comm, ne_eq, ne_eq, Option.some.injEq]

theorem nodeDeleted_eq :
    nodeDeleted settings worker node =
      (dismiss settings { worker with
        receiver? := if worker.receiver? = settings.logicalId? node then none
          else worker.receiver? } node).2 := rfl

@[simp]
theorem outside_nodeDeleted : (nodeDeleted settings worker node).outside = worker.outside := by
  rw [nodeDeleted_eq]
  obtain ⟨registry, heq⟩ := exists_dismiss_eq settings { worker with receiver? := _ } node
  rw [heq]

@[simp]
theorem watching_nodeDeleted : (nodeDeleted settings worker node).watching = worker.watching := by
  rw [nodeDeleted_eq]
  obtain ⟨registry, heq⟩ := exists_dismiss_eq settings { worker with receiver? := _ } node
  rw [heq]

theorem receiver?_nodeDeleted :
    (nodeDeleted settings worker node).receiver? =
      if worker.receiver? = settings.logicalId? node then none else worker.receiver? := by
  rw [nodeDeleted_eq]
  obtain ⟨registry, heq⟩ := exists_dismiss_eq settings { worker with receiver? := _ } node
  rw [heq]

theorem mem_devices_nodeDeleted {id : LogicalId} :
    id ∈ (nodeDeleted settings worker node).registry.devices ↔
      settings.logicalId? node ≠ some id ∧ id ∈ worker.registry.devices := by
  rw [nodeDeleted_eq, mem_devices_dismiss]

/-! ### The receiver that an auxiliary entry stands for -/

/-- None of the entries is a receiver, each asked when its turn comes; `last` is what is observed
after that. -/
inductive PassesOver : List String → Observed σ → Observed σ → Prop where
  | nil (observed : Observed σ) : PassesOver [] observed observed
  | other {name : String} {names : List String} {observed last : Observed σ}
      (other : settings.candidate? name = none) (rest : PassesOver names observed last) :
      PassesOver (name :: names) observed last
  | asked {name : String} {names : List String} {node : DeviceNode} {observed last : Observed σ}
      (candidate : settings.candidate? name = some node)
      (verdict : (classify environment settings node observed).1 ≠ .externalReceiver)
      (rest : PassesOver names (classify environment settings node observed).2 last) :
      PassesOver (name :: names) observed last

variable {environment settings} in
theorem PassesOver.calls {names : List String} {observed last : Observed σ}
    (hpasses : PassesOver environment settings names observed last) :
    observed.calls <+: last.calls := by
  induction hpasses with
  | nil observed => exact List.prefix_refl _
  | other _ _ ih => exact ih
  | asked _ _ _ ih => exact (extends_classify environment settings _ _).trans ih

/-- The search passes over the entries before the node that it finds, and ends right after that was
classified. -/
theorem passesOver_of_findReceiverAmong {names : List String} {observed : Observed σ}
    (hfound : (findReceiverAmong environment settings names observed).1 = some node) :
    ∃ front name back, ∃ asked : Observed σ, names = front ++ name :: back ∧
      PassesOver environment settings front observed asked ∧
      settings.candidate? name = some node ∧
      classify environment settings node asked =
        (.externalReceiver, (findReceiverAmong environment settings names observed).2) := by
  induction names generalizing observed with
  | nil => simp [findReceiverAmong, pure_apply] at hfound
  | cons name names ih =>
      unfold findReceiverAmong at hfound ⊢
      cases hcandidate : settings.candidate? name with
      | none =>
          simp only [hcandidate] at hfound ⊢
          obtain ⟨front, other, back, asked, hsplit, hpasses, found⟩ := ih hfound
          exact ⟨name :: front, other, back, asked, congrArg (name :: ·) hsplit,
            .other hcandidate hpasses, found⟩
      | some first =>
          simp only [hcandidate, bind_apply] at hfound ⊢
          cases hclass : (classify environment settings first observed).1 with
          | externalReceiver =>
              simp only [hclass, pure_apply, Option.some.injEq] at hfound ⊢
              subst hfound
              exact ⟨[], name, names, observed, rfl, .nil observed, hcandidate, Prod.ext hclass rfl⟩
          | _ =>
              have hother : (classify environment settings first observed).1 ≠
                  .externalReceiver := by simp [hclass]
              simp only [hclass] at hfound ⊢
              obtain ⟨front, other, back, asked, hsplit, hpasses, found⟩ := ih hfound
              exact ⟨name :: front, other, back, asked, congrArg (name :: ·) hsplit,
                .asked hcandidate hother hpasses, found⟩

theorem readDirectory_eq :
    readDirectory environment settings worker =
      ((Observed.readDirectory environment settings.deviceDirectory worker.outside).1,
        { worker with
          outside :=
            (Observed.readDirectory environment settings.deviceDirectory worker.outside).2 }) :=
  rfl

theorem exists_findReceiver_eq :
    ∃ outside, (findReceiver environment settings worker).2 = { worker with outside } := by
  unfold findReceiver
  rw [readDirectory_eq]
  split
  next heq =>
    rw [Prod.mk.injEq] at heq
    exact ⟨_, heq.2.symm⟩
  next heq =>
    rw [Prod.mk.injEq] at heq
    rw [← heq.2]
    exact ⟨_, rfl⟩

theorem passesOver_of_findReceiver
    (hfound : (findReceiver environment settings worker).1 = some node) :
    ∃ front name back, ∃ asked : Observed σ,
      (Observed.readDirectory environment settings.deviceDirectory worker.outside).1 =
        .ok (front ++ name :: back) ∧
      PassesOver environment settings front
        (Observed.readDirectory environment settings.deviceDirectory worker.outside).2 asked ∧
      settings.candidate? name = some node ∧
      classify environment settings node asked =
        (.externalReceiver, (findReceiver environment settings worker).2.outside) := by
  unfold findReceiver at hfound ⊢
  rw [readDirectory_eq] at hfound ⊢
  cases hanswer :
      (Observed.readDirectory environment settings.deviceDirectory worker.outside).1 with
  | error _ => simp [hanswer] at hfound
  | ok names =>
      simp only [hanswer] at hfound ⊢
      obtain ⟨front, name, back, asked, rfl, found⟩ :=
        passesOver_of_findReceiverAmong environment settings node hfound
      exact ⟨front, name, back, asked, rfl, found⟩

theorem classify_of_findReceiver
    (hfound : (findReceiver environment settings worker).1 = some node) :
    ∃ names name, ∃ asked : Observed σ,
      (Observed.readDirectory environment settings.deviceDirectory worker.outside).1 = .ok names ∧
      name ∈ names ∧ settings.candidate? name = some node ∧
      worker.outside.calls <+: asked.calls ∧
      classify environment settings node asked =
        (.externalReceiver, (findReceiver environment settings worker).2.outside) := by
  obtain ⟨front, name, back, asked, hanswer, hpasses, hcandidate, hclass⟩ :=
    passesOver_of_findReceiver environment settings worker node hfound
  exact ⟨_, name, asked, hanswer, List.mem_append_right front List.mem_cons_self, hcandidate,
    (extends_call _ _ worker.outside).trans hpasses.calls, hclass⟩

theorem auxCreated_of_none
    (hnone : (findReceiver environment settings
      (pause environment worker settings.receiverSettleDelay)).1 = none) :
    (auxCreated environment settings worker).2 =
      { worker with
        outside := (findReceiver environment settings
          (pause environment worker settings.receiverSettleDelay)).2.outside } := by
  obtain ⟨outside, hrest⟩ := exists_findReceiver_eq environment settings
    (pause environment worker settings.receiverSettleDelay)
  unfold auxCreated
  split
  next next heq =>
    rw [heq] at hrest ⊢
    dsimp only at hrest
    rw [hrest]
    rfl
  next heq => rw [heq] at hnone; simp at hnone

theorem auxCreated_of_some
    (hsome : (findReceiver environment settings
      (pause environment worker settings.receiverSettleDelay)).1 = some node) :
    (auxCreated environment settings worker).2 =
      (enroll environment settings
        { worker with
          outside := (findReceiver environment settings
            (pause environment worker settings.receiverSettleDelay)).2.outside
          receiver? := settings.logicalId? node } node).2 := by
  obtain ⟨outside, hrest⟩ := exists_findReceiver_eq environment settings
    (pause environment worker settings.receiverSettleDelay)
  unfold auxCreated
  split
  next heq => rw [heq] at hsome; simp at hsome
  next found next heq =>
    rw [heq] at hsome hrest
    obtain rfl : found = node := Option.some.inj hsome
    rw [heq]
    dsimp only at hrest
    rw [hrest]
    rfl

theorem receiver?_auxCreated :
    (auxCreated environment settings worker).2.receiver? =
      (findReceiver environment settings
        (pause environment worker settings.receiverSettleDelay)).1.elim worker.receiver?
          settings.logicalId? := by
  cases hfound : (findReceiver environment settings
      (pause environment worker settings.receiverSettleDelay)).1 with
  | none =>
      rw [auxCreated_of_none environment settings worker hfound]
      rfl
  | some node =>
      rw [auxCreated_of_some environment settings worker node hfound, receiver?_enroll]
      rfl

theorem mem_devices_auxCreated {id : LogicalId} :
    id ∈ (auxCreated environment settings worker).2.registry.devices ↔
      id ∈ worker.registry.devices ∨
        ∃ node ∈ (findReceiver environment settings
            (pause environment worker settings.receiverSettleDelay)).1,
          settings.logicalId? node = some id ∧
            Passes environment node trialVersion (findReceiver environment settings
              (pause environment worker settings.receiverSettleDelay)).2.outside := by
  cases hfound : (findReceiver environment settings
      (pause environment worker settings.receiverSettleDelay)).1 with
  | none =>
      rw [auxCreated_of_none environment settings worker hfound]
      simp
  | some node =>
      rw [auxCreated_of_some environment settings worker node hfound, mem_devices_enroll]
      simp

@[simp]
theorem outside_auxDeleted : (auxDeleted worker).outside = worker.outside := by
  unfold auxDeleted
  split <;> rfl

@[simp]
theorem watching_auxDeleted : (auxDeleted worker).watching = worker.watching := by
  unfold auxDeleted
  split <;> rfl

@[simp]
theorem receiver?_auxDeleted : (auxDeleted worker).receiver? = none := by
  unfold auxDeleted
  split
  next hnone => exact hnone
  next => rfl

theorem mem_devices_auxDeleted {id : LogicalId} :
    id ∈ (auxDeleted worker).registry.devices ↔
      worker.receiver? ≠ some id ∧ id ∈ worker.registry.devices := by
  unfold auxDeleted
  split
  next hnone => simp [hnone]
  next own hsome =>
    rw [Registry.mem_devices_recordAbsent, hsome, ne_comm, ne_eq, ne_eq, Option.some.injEq]

/-! ### A whole listing -/

section Entries

variable {environment settings worker} {name : String} {names : List String} {count : Nat}

theorem scanEntries_cons_of_panicked
    (hpanicked : (scanEntry environment settings worker name).1 = .panicked) :
    scanEntries environment settings (name :: names) count worker =
      (none, (scanEntry environment settings worker name).2) := by
  unfold scanEntries
  split
  next hentry => rw [hentry]
  next hentry => rw [hentry] at hpanicked; exact nomatch hpanicked
  next hentry => rw [hentry] at hpanicked; exact nomatch hpanicked

theorem scanEntries_cons_of_ne_panicked
    (hcalm : (scanEntry environment settings worker name).1 ≠ .panicked) :
    scanEntries environment settings (name :: names) count worker =
      scanEntries environment settings names
        (count + (scanEntry environment settings worker name).1.gain)
        (scanEntry environment settings worker name).2 := by
  conv in scanEntries _ _ (name :: names) _ _ => unfold scanEntries
  split
  next hentry => exact absurd (congrArg Prod.fst hentry) hcalm
  next hentry => rw [hentry, Attempt.gain]
  next hentry => rw [hentry, Attempt.gain, Nat.add_zero]

/-- A scan that comes to its end goes on after each entry. -/
theorem scanEntries_cons_of_ne_none
    (hcalm : (scanEntries environment settings (name :: names) count worker).1 ≠ none) :
    scanEntries environment settings (name :: names) count worker =
      scanEntries environment settings names
        (count + (scanEntry environment settings worker name).1.gain)
        (scanEntry environment settings worker name).2 := by
  apply scanEntries_cons_of_ne_panicked
  intro hpanicked
  exact hcalm (congrArg Prod.fst (scanEntries_cons_of_panicked hpanicked))

end Entries

variable {worker} in
theorem scan_of_listing {names : List String}
    (hlisting : (readDirectory environment settings worker).1 = .ok names) :
    let entries := scanEntries environment settings names 0
      (readDirectory environment settings worker).2
    (scan environment settings worker).2 = entries.2 ∧
      ((scan environment settings worker).1 = .panicked ↔ entries.1 = none) ∧
      ∀ count, (scan environment settings worker).1 = .finished count ↔
        entries.1 = some count := by
  unfold scan
  cases hread : readDirectory environment settings worker with
  | mk answer next =>
      rw [hread] at hlisting
      obtain rfl : answer = .ok names := hlisting
      dsimp only
      cases scanEntries environment settings names 0 next with
      | mk count last => cases count <;> simp

/-! ### One event -/

/-- An event matters when it names a candidate, or an auxiliary entry that is no node. -/
theorem handleEvent_eq (event : WatchEvent) :
    handleEvent environment settings worker event =
      match settings.candidate? event.name with
      | some node =>
        match event.change with
        | .created => nodeCreated environment settings worker node
        | .deleted => (.returned, nodeDeleted settings worker node)
      | none =>
        if settings.node? event.name = none ∧
            Text.startsWith event.name settings.auxPrefix = true then
          match event.change with
          | .created => auxCreated environment settings worker
          | .deleted => (.returned, auxDeleted worker)
        else (.returned, worker) := by
  obtain ⟨change, name⟩ := event
  unfold handleEvent
  cases hnode : settings.node? name with
  | none =>
      cases change with
      | created => simp [Settings.candidate?, hnode]
      | deleted => simp [Settings.candidate?, hnode]
  | some node =>
      cases hinternal : settings.isInternal node.suffix with
      | true => simp [Settings.candidate?, hnode, hinternal, Option.filter]
      | false =>
          cases change with
          | created => simp [Settings.candidate?, hnode, hinternal, Option.filter]
          | deleted => simp [Settings.candidate?, hnode, hinternal, Option.filter]

section Auxiliary

variable {settings} {name : String} (haux : settings.IsAuxiliary name)

include haux

theorem handleEvent_created_of_isAuxiliary :
    handleEvent environment settings worker ⟨.created, name⟩ =
      auxCreated environment settings worker := by
  rw [handleEvent_eq, haux.candidate?_eq_none]
  exact if_pos haux

theorem handleEvent_deleted_of_isAuxiliary :
    handleEvent environment settings worker ⟨.deleted, name⟩ = (.returned, auxDeleted worker) := by
  rw [handleEvent_eq, haux.candidate?_eq_none]
  exact if_pos haux

end Auxiliary

end Worker

end CameraHotplug
