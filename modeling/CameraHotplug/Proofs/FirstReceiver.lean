import CameraHotplug.Proofs.Confinement
import CameraHotplug.Proofs.ScanAccount

/-!
# Which receiver is remembered

A scan and the search for an auxiliary entry look through the same directory, and each remembers
another receiver of it: the search stops at the first, while the scan goes on and remembers every
receiver in its turn, so that the last one stays. They agree where the first is also the last.
-/

namespace CameraHotplug

namespace Worker

variable {σ ν δ κ : Type}

/-! ### The search -/

section Searching

variable {environment : Environment σ ν δ} {view : σ → κ} (hfixed : environment.IsFixed view)
  {settings : Settings} {start : Observed σ} {names : List String}

include hfixed

theorem fst_findReceiverAmong {observed : Observed σ}
    (hcontent : view observed.state = view start.state) :
    (findReceiverAmong environment settings names observed).1 =
      (receiversAmong environment settings start names).head? := by
  induction names generalizing observed with
  | nil => rfl
  | cons name names ih =>
      rw [receiversAmong_cons]
      unfold findReceiverAmong
      cases hcandidate : settings.candidate? name with
      | none =>
          rw [receiversAmong_singleton_of_none environment start hcandidate]
          exact ih hcontent
      | some node =>
          have hclassify := repeats_classify hfixed settings node
          have hview := (hclassify.view_eq observed).trans hcontent
          rw [receiversAmong_singleton environment start hcandidate]
          simp only [bind_apply, ← hclassify.answer_eq hcontent]
          cases (classify environment settings node observed).1 with
          | externalReceiver => rfl
          | external => exact ih hview
          | notExternal => exact ih hview

variable {worker : Worker σ} (hcontent : view worker.outside.state = view start.state)

include hcontent

theorem fst_findReceiver
    (hlisting : (environment.readDirectory settings.deviceDirectory start.state).1 = .ok names) :
    (findReceiver environment settings worker).1 =
      (receiversAmong environment settings start names).head? := by
  have hanswer : (readDirectory environment settings worker).1 = .ok names :=
    ((hfixed.readDirectory settings.deviceDirectory start.state).2 worker.outside.state
      hcontent).trans hlisting
  have hview := (view_readDirectory hfixed settings worker).trans hcontent
  unfold findReceiver
  cases hread : readDirectory environment settings worker with
  | mk answer next =>
      rw [hread] at hanswer hview
      obtain rfl : answer = .ok names := hanswer
      exact fst_findReceiverAmong hfixed hview

end Searching

/-! ### The receiver that is kept in mind -/

section Remembering

variable {environment : Environment σ ν δ} {settings : Settings} {start : Observed σ}
  {names : List String} {old : Option LogicalId}

/-- Receivers of the listing have different ids. -/
theorem logicalId?_eq_iff_of_mem_receiversAmong {left right : DeviceNode}
    (hleft : left ∈ receiversAmong environment settings start names)
    (hright : right ∈ receiversAmong environment settings start names) :
    settings.logicalId? left = settings.logicalId? right ↔ left = right := by
  obtain ⟨⟨_, _, hcandidate⟩, _⟩ := mem_receiversAmong.mp hleft
  obtain ⟨⟨_, _, hother⟩, _⟩ := mem_receiversAmong.mp hright
  constructor
  · intro hsame
    have hnode := Settings.node?_of_candidate? hcandidate
    obtain ⟨id, hid⟩ := Settings.exists_logicalId_of_node? hnode
    exact Settings.node_eq_of_logicalId?_eq hnode (Settings.node?_of_candidate? hother) hid
      (hsame.symm.trans hid)
  · exact congrArg settings.logicalId?

theorem remembered_eq_some_iff {picked? : Option DeviceNode} {node : DeviceNode} {id : LogicalId}
    (hpicked : picked? ≠ none)
    (hown : ∀ picked ∈ picked?, picked ∈ receiversAmong environment settings start names)
    (hmem : node ∈ receiversAmong environment settings start names)
    (hid : settings.logicalId? node = some id) :
    picked?.elim old settings.logicalId? = some id ↔ picked? = some node := by
  obtain ⟨picked, rfl⟩ := Option.ne_none_iff_exists'.mp hpicked
  rw [← hid, Option.some.injEq]
  exact logicalId?_eq_iff_of_mem_receiversAmong (hown picked rfl) hmem

theorem last_remembered_eq_first_iff :
    (receiversAmong environment settings start names).getLast?.elim old settings.logicalId? =
        (receiversAmong environment settings start names).head?.elim old settings.logicalId? ↔
      (receiversAmong environment settings start names).head? =
        (receiversAmong environment settings start names).getLast? := by
  cases hlast : (receiversAmong environment settings start names).getLast? with
  | none =>
      rw [List.getLast?_eq_none_iff.mp hlast]
      exact iff_of_true rfl rfl
  | some last =>
      have hmem := List.mem_of_getLast? hlast
      obtain ⟨first, hfirst⟩ := Option.ne_none_iff_exists'.mp
        (List.head?_eq_none_iff.not.mpr (List.ne_nil_of_mem hmem))
      rw [hfirst, Option.some.injEq, eq_comm (a := first)]
      exact logicalId?_eq_iff_of_mem_receiversAmong hmem (List.mem_of_head? hfirst)

end Remembering

theorem passes_of_admitted {environment : Environment σ ν δ} {view : σ → κ}
    (hdetermined : environment.IsDetermined view) {settings : Settings} {node : DeviceNode}
    {start observed : Observed σ} (hcontent : view observed.state = view start.state)
    (hadmitted : assess environment settings node start = .admitted) :
    Passes environment node trialVersion observed := by
  have hclassified := (repeats_classify hdetermined.toIsFixed settings node).view_eq start
  obtain ⟨_, hpasses⟩ := assess_eq_admitted_iff.mp hadmitted
  rw [← tryOut_eq_admitted_iff] at hpasses ⊢
  rw [← hpasses]
  exact tryOut_congr hdetermined node (hcontent.trans hclassified.symm)

/-! ### What the receivers come to -/

section Coming

variable {environment : Environment σ ν δ} {view : σ → κ} {settings : Settings}
  {worker : Worker σ} {names : List String} {node : DeviceNode} {id : LogicalId}

theorem not_mem_devices_after_gone {gone : String} (hgone : settings.IsAuxiliary gone)
    (worker : Worker σ) :
    id ∉ (handleEvent environment settings worker ⟨.deleted, gone⟩).2.registry.devices ↔
      worker.receiver? = some id ∨ id ∉ worker.registry.devices := by
  rw [handleEvent_deleted_of_isAuxiliary _ _ hgone, mem_devices_auxDeleted, not_and_or, not_not]

/-- Of the receivers, the search has only the first one recorded. -/
theorem mem_devices_auxCreated_of_admitted (hdetermined : environment.IsDetermined view)
    (hfound : (findReceiver environment settings
      (pause environment worker settings.receiverSettleDelay)).1 =
        (receiversAmong environment settings worker.outside names).head?)
    (hmem : node ∈ receiversAmong environment settings worker.outside names)
    (hid : settings.logicalId? node = some id)
    (hadmitted : assess environment settings node worker.outside = .admitted) :
    id ∈ (auxCreated environment settings worker).2.registry.devices ↔
      id ∈ worker.registry.devices ∨
        (receiversAmong environment settings worker.outside names).head? = some node := by
  have hview := (view_findReceiver hdetermined.toIsFixed settings _).trans
    (view_pause hdetermined.toIsFixed worker settings.receiverSettleDelay)
  rw [mem_devices_auxCreated, hfound]
  apply or_congr_right
  constructor
  · rintro ⟨first, hfirst, hown, _⟩
    have hsame : first = node :=
      (logicalId?_eq_iff_of_mem_receiversAmong (List.mem_of_head? hfirst) hmem).mp
        (hown.trans hid.symm)
    exact hsame ▸ hfirst
  · intro hfirst
    exact ⟨node, hfirst, hid, passes_of_admitted hdetermined hview hadmitted⟩

end Coming

/-- The search remembers the first receiver of the listing, and the scan the last, or each leaves
what was remembered if there is none. So they remember the same exactly if the first receiver is the
last, too. If every receiver is admitted, the next auxiliary entry to go takes the last one after
the scan, and the first one after the search, and no other receiver. -/
theorem scan_remembers_last_search_first {environment : Environment σ ν δ} {view : σ → κ}
    (hdetermined : environment.IsDetermined view) (settings : Settings) (worker : Worker σ)
    {names : List String} {count : Nat}
    (hlisting : (readDirectory environment settings worker).1 = .ok names)
    (hfinished : (scan environment settings worker).1 = .finished count)
    {come gone : String} (hcome : settings.IsAuxiliary come) (hgone : settings.IsAuxiliary gone) :
    let receivers := receiversAmong environment settings worker.outside names
    let scanned := (scan environment settings worker).2
    let searched := (handleEvent environment settings worker ⟨.created, come⟩).2
    (findReceiver environment settings worker).1 = receivers.head? ∧
    searched.receiver? = receivers.head?.elim worker.receiver? settings.logicalId? ∧
    scanned.receiver? = receivers.getLast?.elim worker.receiver? settings.logicalId? ∧
    (scanned.receiver? = searched.receiver? ↔ receivers.head? = receivers.getLast?) ∧
    ((∀ node ∈ receivers, assess environment settings node worker.outside = .admitted) →
      ∀ node ∈ receivers, ∀ id, settings.logicalId? node = some id →
        id ∈ scanned.registry.devices ∧
        (receivers.head? = some node → id ∈ searched.registry.devices) ∧
        (id ∉ (handleEvent environment settings scanned ⟨.deleted, gone⟩).2.registry.devices ↔
          receivers.getLast? = some node) ∧
        (id ∉ (handleEvent environment settings searched ⟨.deleted, gone⟩).2.registry.devices ↔
          receivers.head? = some node ∨ id ∉ worker.registry.devices)) := by
  intro receivers scanned searched
  have hfixed := hdetermined.toIsFixed
  have hcompletes := completes_scan (hdetermined.isForeseeable settings) rfl hlisting hfinished
  have hpaused := view_pause hfixed worker settings.receiverSettleDelay
  have hfound : (findReceiver environment settings
      (pause environment worker settings.receiverSettleDelay)).1 = receivers.head? :=
    fst_findReceiver hfixed hpaused hlisting
  have hsearched : searched = (auxCreated environment settings worker).2 :=
    congrArg Prod.snd (handleEvent_created_of_isAuxiliary environment worker hcome)
  have hfirst : searched.receiver? = receivers.head?.elim worker.receiver? settings.logicalId? := by
    rw [hsearched, receiver?_auxCreated, hfound]
  refine ⟨fst_findReceiver hfixed rfl hlisting, hfirst, hcompletes.receiver, ?_, ?_⟩
  · rw [hfirst, hcompletes.receiver]
    exact last_remembered_eq_first_iff
  · intro hadmitted node hmem id hid
    have hnonempty := List.ne_nil_of_mem hmem
    have hpresent : id ∈ scanned.registry.devices := by
      obtain ⟨⟨entry, hentry, hcandidate⟩, _⟩ := mem_receiversAmong.mp hmem
      exact (hcompletes.members id).mpr
        (Or.inr ⟨entry, hentry, node, hcandidate, hid, hadmitted node hmem⟩)
    have hkeptLast : scanned.receiver? = some id ↔ receivers.getLast? = some node := by
      rw [hcompletes.receiver]
      exact remembered_eq_some_iff (List.getLast?_eq_none_iff.not.mpr hnonempty)
        (fun _ => List.mem_of_getLast?) hmem hid
    have hkeptFirst : searched.receiver? = some id ↔ receivers.head? = some node := by
      rw [hfirst]
      exact remembered_eq_some_iff (List.head?_eq_none_iff.not.mpr hnonempty)
        (fun _ => List.mem_of_head?) hmem hid
    have hmembers : id ∈ searched.registry.devices ↔
        id ∈ worker.registry.devices ∨ receivers.head? = some node := by
      rw [hsearched]
      exact mem_devices_auxCreated_of_admitted hdetermined hfound hmem hid (hadmitted node hmem)
    refine ⟨hpresent, fun hown => hmembers.mpr (Or.inr hown), ?_, ?_⟩
    · rw [not_mem_devices_after_gone hgone, hkeptLast]
      exact or_iff_left (not_not.mpr hpresent)
    · rw [not_mem_devices_after_gone hgone, hkeptFirst, hmembers, not_or, and_comm, or_and_left]
      exact and_iff_right (em _)

/-! ### Two receivers at startup -/

def signalNames : List String :=
  ["video8", "video3", "cec0"]

theorem unsignalledWorker_leaves_first :
    let scanned := (scan signalEnvironment .standard unsignalledWorker).2
    (readDirectory signalEnvironment .standard unsignalledWorker).1 = .ok signalNames ∧
      (scan signalEnvironment .standard unsignalledWorker).1 = .finished 2 ∧
      Settings.standard.IsAuxiliary "cec0" ∧
      scanned.receiver? ≠ signalledWorker.receiver? ∧
      ⟨3, 4, 108⟩ ∈ (handleEvent signalEnvironment .standard scanned
        ⟨.deleted, "cec0"⟩).2.registry.devices ∧
      ⟨3, 4, 108⟩ ∉ (handleEvent signalEnvironment .standard signalledWorker
        ⟨.deleted, "cec0"⟩).2.registry.devices := by
  intro scanned
  have hlisting : (readDirectory signalEnvironment .standard unsignalledWorker).1 =
      .ok signalNames := by
    decide +kernel
  have hfinished : (scan signalEnvironment .standard unsignalledWorker).1 = .finished 2 := by
    decide +kernel
  have haux : Settings.standard.IsAuxiliary "cec0" := by decide +kernel
  have hreceivers : receiversAmong signalEnvironment .standard unsignalledWorker.outside
      signalNames = [⟨"video8", ⟨"/dev/video8"⟩, 8⟩, ⟨"video3", ⟨"/dev/video3"⟩, 3⟩] := by
    decide +kernel
  have hadmitted : ∀ node ∈ receiversAmong signalEnvironment .standard unsignalledWorker.outside
      signalNames, assess signalEnvironment .standard node unsignalledWorker.outside =
        .admitted := by
    rw [hreceivers]
    decide +kernel
  have hdetermined : signalEnvironment.IsDetermined Bench.content :=
    Bench.isDetermined fun _ _ => .built ()
  obtain ⟨_, _, _, hsame, hdeparts⟩ := scan_remembers_last_search_first hdetermined .standard
    unsignalledWorker hlisting hfinished haux haux
  specialize hdeparts hadmitted
  rw [hreceivers] at hsame hdeparts
  obtain ⟨_, _, hleft, htaken⟩ := hdeparts _ List.mem_cons_self ⟨3, 4, 108⟩ (by decide +kernel)
  refine ⟨hlisting, hfinished, haux, ?_, ?_, ?_⟩
  · exact hsame.not.mpr (by decide)
  · exact not_not.mp (hleft.not.mpr (by decide))
  · exact htaken.mpr (Or.inl rfl)

/-- Both receivers are admitted, but the scan and the search remember different ones. -/
theorem startup_keeps_other_receiver :
    let scanned := (scan signalEnvironment .standard unsignalledWorker).2
    (∀ node ∈ receiversAmong signalEnvironment .standard unsignalledWorker.outside signalNames,
      assess signalEnvironment .standard node unsignalledWorker.outside = .admitted) ∧
    (scan signalEnvironment .standard unsignalledWorker).1 = .finished 2 ∧
    (findReceiver signalEnvironment .standard unsignalledWorker).1 =
      some ⟨"video8", ⟨"/dev/video8"⟩, 8⟩ ∧
    signalledWorker.receiver? = some ⟨3, 4, 108⟩ ∧
    scanned.receiver? = some ⟨3, 4, 103⟩ ∧
    (handleEvent signalEnvironment .standard scanned
      ⟨.deleted, "cec0"⟩).2.registry.devices.toList = [⟨3, 4, 108⟩] ∧
    (handleEvent signalEnvironment .standard signalledWorker
      ⟨.deleted, "cec0"⟩).2.registry.devices.toList = [] := by
  refine ⟨?_, ?_, ?_, ?_, ?_, ?_, ?_⟩ <;> decide +kernel

end Worker

end CameraHotplug
