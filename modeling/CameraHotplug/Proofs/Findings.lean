import CameraHotplug.Proofs.Agreement

/-!
# What discovery finds is settled beforehand

Where the answers about the nodes depend on a content that stays as it is, so does what discovery
makes of each node, and it can be told before discovery begins: which entries of a listing end it by
a panic, which ids it records, and which receivers it remembers.
-/

namespace CameraHotplug

variable {σ ν δ κ : Type}

/-- What comes of a node: its id is recorded, or it is turned down, or its trial construction
panics. -/
inductive Finding where
  | admitted
  | refused
  | panicked
  deriving DecidableEq, Repr

section Findings

variable (environment : Environment σ ν δ) (settings : Settings) (node : DeviceNode)

/-- What the probe and the trial construction of a node find. -/
def tryOut (observed : Observed σ) : Finding :=
  let probed := probeCapture environment node observed
  if probed.1 then
    match (Observed.construct environment Worker.trialVersion node.path probed.2).1 with
    | .built _ => .admitted
    | .failed _ => .refused
    | .panicked => .panicked
  else .refused

/-- What inspecting a node finds. Only external nodes are tried out. -/
def assess (observed : Observed σ) : Finding :=
  let classified := classify environment settings node observed
  if classified.1.isExternal then tryOut environment node classified.2 else .refused

variable {environment settings node} {observed : Observed σ}

theorem tryOut_eq_admitted_iff :
    tryOut environment node observed = .admitted ↔
      Passes environment node Worker.trialVersion observed := by
  unfold tryOut Passes
  by_cases hprobe : (probeCapture environment node observed).1 = true
  · simp only [hprobe, if_true, true_and]
    cases (Observed.construct environment Worker.trialVersion node.path
      (probeCapture environment node observed).2).1 <;> simp
  · simp [hprobe]

theorem assess_eq_admitted_iff :
    assess environment settings node observed = .admitted ↔
      (classify environment settings node observed).1.isExternal = true ∧
        Passes environment node Worker.trialVersion
          (classify environment settings node observed).2 := by
  rw [← tryOut_eq_admitted_iff, assess]
  by_cases hexternal : (classify environment settings node observed).1.isExternal = true
  · rw [if_pos hexternal, and_iff_right hexternal]
  · rw [if_neg hexternal]
    exact ⟨nofun, fun hboth => absurd hboth.1 hexternal⟩

end Findings

namespace Worker

section Treatments

variable {environment : Environment σ ν δ} {settings : Settings} {worker : Worker σ}

theorem fst_enroll_eq_panicked_iff {node : DeviceNode} {id : LogicalId}
    (hid : settings.logicalId? node = some id) :
    (enroll environment settings worker node).1 = .panicked ↔
      tryOut environment node worker.outside = .panicked := by
  rw [enroll_eq settings environment hid worker, tryOut]
  by_cases hprobe : (probeCapture environment node worker.outside).1 = true
  · simp only [hprobe, if_true]
    cases (Observed.construct environment trialVersion node.path
        (probeCapture environment node worker.outside).2).1 with
    | built device =>
        dsimp only
        split_ifs <;> simp
    | failed error => simp
    | panicked => simp
  · simp [hprobe]

theorem fst_inspect_eq_panicked_iff {node : DeviceNode} {id : LogicalId}
    (hid : settings.logicalId? node = some id) :
    (inspect environment settings worker node).1 = .panicked ↔
      assess environment settings node worker.outside = .panicked := by
  unfold inspect assess
  split
  next hclass => simp [hclass, Classification.isExternal]
  next hclass => simp [hclass, Classification.isExternal, fst_enroll_eq_panicked_iff hid]
  next hclass => simp [hclass, Classification.isExternal, fst_enroll_eq_panicked_iff hid]

theorem registry_enroll {node : DeviceNode} {id : LogicalId}
    (hid : settings.logicalId? node = some id) :
    (enroll environment settings worker node).2.registry =
      if tryOut environment node worker.outside = .admitted then
        (worker.registry.recordPresent id).2
      else worker.registry := by
  split_ifs with hadmitted
  · rw [tryOut_eq_admitted_iff] at hadmitted
    rw [enroll_of_passes environment settings worker node hid hadmitted]
  · rw [tryOut_eq_admitted_iff] at hadmitted
    obtain ⟨outside, hafter⟩ := enroll_of_not_passes environment settings worker node hadmitted
    rw [hafter]

theorem registry_inspect {node : DeviceNode} {id : LogicalId}
    (hid : settings.logicalId? node = some id) :
    (inspect environment settings worker node).2.registry =
      if assess environment settings node worker.outside = .admitted then
        (worker.registry.recordPresent id).2
      else worker.registry := by
  unfold inspect assess
  cases classify environment settings node worker.outside with
  | mk verdict outside =>
      cases verdict with
      | notExternal => rfl
      | external => exact registry_enroll hid
      | externalReceiver => exact registry_enroll hid

theorem fst_scanEntry_eq_panicked_iff {name : String} :
    (scanEntry environment settings worker name).1 = .panicked ↔
      ∃ node, settings.candidate? name = some node ∧
        assess environment settings node worker.outside = .panicked := by
  unfold scanEntry
  cases hcandidate : settings.candidate? name with
  | none => simp
  | some node =>
      obtain ⟨id, hid⟩ :=
        Settings.exists_logicalId_of_node? (Settings.node?_of_candidate? hcandidate)
      simp [fst_inspect_eq_panicked_iff hid]

theorem mem_devices_scanEntry {name : String} {id : LogicalId} :
    id ∈ (scanEntry environment settings worker name).2.registry.devices ↔
      id ∈ worker.registry.devices ∨ ∃ node, settings.candidate? name = some node ∧
        settings.logicalId? node = some id ∧
        assess environment settings node worker.outside = .admitted := by
  unfold scanEntry
  cases settings.candidate? name with
  | none => simp
  | some node =>
      rw [mem_devices_inspect, ← assess_eq_admitted_iff]
      simp

end Treatments

end Worker

/-! ### Settled by the content -/

/-- What inspecting any node finds depends on what `view` shows. -/
structure Environment.IsForeseeable (environment : Environment σ ν δ) (settings : Settings)
    (view : σ → κ) : Prop extends environment.IsFixed view where
  assess_eq : ∀ (node : DeviceNode) (left right : Observed σ),
    view left.state = view right.state →
      assess environment settings node left = assess environment settings node right

theorem tryOut_congr {environment : Environment σ ν δ} {view : σ → κ}
    (hdetermined : environment.IsDetermined view) (node : DeviceNode) {left right : Observed σ}
    (hcontent : view left.state = view right.state) :
    tryOut environment node left = tryOut environment node right := by
  have hprobe := repeats_probeCapture hdetermined.toIsFixed node
  have hprobed : view (probeCapture environment node left).2.state =
      view (probeCapture environment node right).2.state := by
    rw [hprobe.view_eq, hprobe.view_eq, hcontent]
  have hrepeats : Repeats view
      (Observed.construct environment Worker.trialVersion node.path) :=
    repeats_call _ (hdetermined.constructs Worker.trialVersion node.path)
  simp only [tryOut, hprobe.answer_eq hcontent, hrepeats.answer_eq hprobed]

theorem Environment.IsDetermined.isForeseeable {environment : Environment σ ν δ} {view : σ → κ}
    (hdetermined : environment.IsDetermined view) (settings : Settings) :
    environment.IsForeseeable settings view where
  toIsFixed := hdetermined.toIsFixed
  assess_eq := by
    intro node left right hcontent
    have hclassify := repeats_classify hdetermined.toIsFixed settings node
    have hclassified : view (classify environment settings node left).2.state =
        view (classify environment settings node right).2.state := by
      rw [hclassify.view_eq, hclassify.view_eq, hcontent]
    simp only [assess, hclassify.answer_eq hcontent, tryOut_congr hdetermined node hclassified]

/-- The receivers among the entries, in their order. -/
def receiversAmong (environment : Environment σ ν δ) (settings : Settings) (observed : Observed σ)
    (names : List String) : List DeviceNode :=
  (names.filterMap settings.candidate?).filter fun node =>
    (classify environment settings node observed).1 = .externalReceiver

theorem mem_receiversAmong {environment : Environment σ ν δ} {settings : Settings}
    {observed : Observed σ} {names : List String} {node : DeviceNode} :
    node ∈ receiversAmong environment settings observed names ↔
      (∃ name ∈ names, settings.candidate? name = some node) ∧
        (classify environment settings node observed).1 = .externalReceiver := by
  simp [receiversAmong, List.mem_filter, List.mem_filterMap]

theorem receiversAmong_cons (environment : Environment σ ν δ) (settings : Settings)
    (observed : Observed σ) (name : String) (names : List String) :
    receiversAmong environment settings observed (name :: names) =
      receiversAmong environment settings observed [name] ++
        receiversAmong environment settings observed names := by
  rw [receiversAmong, ← List.singleton_append, List.filterMap_append, List.filter_append]
  rfl

theorem receiversAmong_singleton (environment : Environment σ ν δ) {settings : Settings}
    (observed : Observed σ) {name : String} {node : DeviceNode}
    (hcandidate : settings.candidate? name = some node) :
    receiversAmong environment settings observed [name] =
      if (classify environment settings node observed).1 = .externalReceiver then [node]
      else [] := by
  rw [receiversAmong, List.filterMap_cons_some hcandidate, List.filterMap_nil]
  split_ifs with hreceiver
  · rw [List.filter_cons_of_pos (by simpa using hreceiver), List.filter_nil]
  · rw [List.filter_cons_of_neg (by simpa using hreceiver), List.filter_nil]

theorem receiversAmong_singleton_of_none (environment : Environment σ ν δ) {settings : Settings}
    (observed : Observed σ) {name : String} (hnone : settings.candidate? name = none) :
    receiversAmong environment settings observed [name] = [] := by
  rw [receiversAmong, List.filterMap_cons_none hnone]
  rfl

namespace Worker

/-- The last receiver that is remembered stays so until the next. -/
theorem receiver?_scanEntry (environment : Environment σ ν δ) (settings : Settings)
    (worker : Worker σ) (name : String) :
    (scanEntry environment settings worker name).2.receiver? =
      (receiversAmong environment settings worker.outside [name]).getLast?.elim worker.receiver?
        settings.logicalId? := by
  unfold scanEntry
  cases hcandidate : settings.candidate? name with
  | none =>
      rw [receiversAmong_singleton_of_none environment _ hcandidate]
      rfl
  | some node =>
      rw [receiversAmong_singleton environment _ hcandidate, receiver?_inspect]
      split_ifs <;> rfl

section Listings

variable {environment : Environment σ ν δ} {settings : Settings} {view : σ → κ}
  (hforeseeable : environment.IsForeseeable settings view) {start : Observed σ}
  {worker : Worker σ} (hcontent : view worker.outside.state = view start.state)
  {names : List String} {count : Nat}

include hforeseeable hcontent

theorem scanEntries_eq_none_iff :
    (scanEntries environment settings names count worker).1 = none ↔
      ∃ name ∈ names, ∃ node, settings.candidate? name = some node ∧
        assess environment settings node start = .panicked := by
  induction names generalizing count worker with
  | nil => simp [scanEntries]
  | cons name names ih =>
      have hentry : (scanEntry environment settings worker name).1 = .panicked ↔
          ∃ node, settings.candidate? name = some node ∧
            assess environment settings node start = .panicked := by
        rw [fst_scanEntry_eq_panicked_iff]
        simp only [hforeseeable.assess_eq _ worker.outside start hcontent]
      simp only [List.mem_cons, exists_eq_or_imp]
      rw [← hentry]
      by_cases hpanicked : (scanEntry environment settings worker name).1 = .panicked
      · rw [scanEntries_cons_of_panicked hpanicked]
        exact iff_of_true rfl (Or.inl hpanicked)
      · rw [scanEntries_cons_of_ne_panicked hpanicked, or_iff_right hpanicked]
        exact ih ((view_scanEntry hforeseeable.toIsFixed settings worker name).trans hcontent)

/-- A scan that is not broken off records every node that it admits. -/
theorem mem_devices_scanEntries
    (hcalm : (scanEntries environment settings names count worker).1 ≠ none) {id : LogicalId} :
    id ∈ (scanEntries environment settings names count worker).2.registry.devices ↔
      id ∈ worker.registry.devices ∨ ∃ name ∈ names, ∃ node,
        settings.candidate? name = some node ∧ settings.logicalId? node = some id ∧
          assess environment settings node start = .admitted := by
  induction names generalizing count worker with
  | nil => simp [scanEntries]
  | cons name names ih =>
      have hnext := scanEntries_cons_of_ne_none hcalm
      rw [hnext] at hcalm ⊢
      rw [ih ((view_scanEntry hforeseeable.toIsFixed settings worker name).trans hcontent) hcalm,
        mem_devices_scanEntry]
      simp only [hforeseeable.assess_eq _ worker.outside start hcontent, or_assoc, List.mem_cons,
        exists_eq_or_imp]

/-- A scan that is not broken off remembers the last receiver of the listing. -/
theorem receiver?_scanEntries
    (hcalm : (scanEntries environment settings names count worker).1 ≠ none) :
    (scanEntries environment settings names count worker).2.receiver? =
      (receiversAmong environment settings start names).getLast?.elim worker.receiver?
        settings.logicalId? := by
  induction names generalizing count worker with
  | nil => rfl
  | cons name names ih =>
      have hfirst : receiversAmong environment settings worker.outside [name] =
          receiversAmong environment settings start [name] := by
        have hverdict (node : DeviceNode) :=
          (repeats_classify hforeseeable.toIsFixed settings node).answer_eq hcontent
        simp only [receiversAmong, hverdict]
      have hnext := scanEntries_cons_of_ne_none hcalm
      rw [hnext] at hcalm ⊢
      rw [ih ((view_scanEntry hforeseeable.toIsFixed settings worker name).trans hcontent) hcalm,
        receiver?_scanEntry, hfirst, receiversAmong_cons _ _ _ name names, List.getLast?_append]
      cases (receiversAmong environment settings start names).getLast? <;> rfl

end Listings

end Worker

end CameraHotplug
