import CameraHotplug.Bench
import CameraHotplug.Proofs.Place
import CameraHotplug.Proofs.Requests

/-!
# Internal devices are left alone

Discovery opens, reads and constructs candidates only, and every id that it records, remembers or
tells is the id of one. An internal device is no candidate, and it shares neither a place nor an id
with any. So nothing that the worker or the provider does is about an internal device, and resolving
its id finds nothing.
-/

namespace CameraHotplug

variable {σ ν δ α β : Type}

/-- The file that a call is about, if it is about one. -/
def Call.file? : Call → Option Path
  | .openNode path _ _ | .readAttribute path _ | .construct _ path _ => some path
  | _ => none

namespace Settings

variable {settings : Settings}

/-- The id is that of a candidate. -/
def Names (settings : Settings) (id : LogicalId) : Prop :=
  ∃ node, settings.StandsFor id node

/-- If the call is about a file, it is the node or the name attribute of a candidate. -/
def Permits (settings : Settings) (call : Call) : Prop :=
  ∀ path, call.file? = some path → ∃ name node, settings.candidate? name = some node ∧
    (path = node.path ∨ path = node.nameAttribute settings.sysfsRoot)

theorem permits_of_file?_eq_none {call : Call} (hfile : call.file? = none) :
    settings.Permits call := by
  intro path hpath
  exact absurd (hfile.symm.trans hpath) (by simp)

theorem permits_of_file?_eq_some {name : String} {node : DeviceNode} {call : Call} {path : Path}
    (hcandidate : settings.candidate? name = some node) (hfile : call.file? = some path)
    (hpath : path = node.path ∨ path = node.nameAttribute settings.sysfsRoot) :
    settings.Permits call := by
  intro other hother
  obtain rfl := Option.some.inj (hfile.symm.trans hother)
  exact ⟨name, node, hcandidate, hpath⟩

end Settings

/-! ### What is asked -/

/-- Asking adds none but allowed calls. -/
def Asks (allowed : Call → Prop) (ask : StateM (Observed σ) α) : Prop :=
  ∀ observed, (∀ call ∈ observed.calls, allowed call) →
    ∀ call ∈ (ask observed).2.calls, allowed call

section Asking

variable {allowed : Call → Prop}

theorem asks_pure (answer : α) : Asks allowed (pure answer : StateM (Observed σ) α) :=
  fun _ hcalls => hcalls

theorem asks_bind {ask : StateM (Observed σ) α} {next : α → StateM (Observed σ) β}
    (hask : Asks allowed ask) (hnext : ∀ answer, Asks allowed (next answer)) :
    Asks allowed (ask >>= next) :=
  fun observed hcalls => hnext (ask observed).1 (ask observed).2 (hask observed hcalls)

theorem composes_asks (allowed : Call → Prop) : Composes (σ := σ) (Asks allowed) :=
  ⟨asks_pure, asks_bind⟩

theorem asks_call (operation : StateM σ α) {record : α → Call}
    (hrecord : ∀ answer, allowed (record answer)) :
    Asks allowed (Observed.call operation record) := by
  intro observed hcalls call hcall
  rw [Observed.call_apply, List.mem_append, List.mem_singleton] at hcall
  rcases hcall with hcall | rfl
  · exact hcalls call hcall
  · exact hrecord _

theorem asks_quietly {settings : Settings} {operation : StateM σ α} {record : α → Call}
    (hrecord : ∀ answer, (record answer).file? = none) :
    Asks settings.Permits (Observed.call operation record) :=
  asks_call operation fun answer => Settings.permits_of_file?_eq_none (hrecord answer)

end Asking

section Candidates

variable (environment : Environment σ ν δ) {settings : Settings} {name : String}
  {node : DeviceNode} (hcandidate : settings.candidate? name = some node)

include hcandidate

theorem asks_classify : Asks settings.Permits (classify environment settings node) :=
  (composes_asks settings.Permits).classify
    (asks_call _ fun _ => Settings.permits_of_file?_eq_some hcandidate rfl (.inl rfl))
    (fun _ => asks_quietly fun _ => rfl)
    (asks_call _ fun _ => Settings.permits_of_file?_eq_some hcandidate rfl (.inr rfl))
    fun _ _ _ => asks_quietly fun _ => rfl

theorem asks_probeCapture : Asks settings.Permits (probeCapture environment node) :=
  (composes_asks settings.Permits).probeCapture
    (asks_call _ fun _ => Settings.permits_of_file?_eq_some hcandidate rfl (.inl rfl))
    fun _ => asks_quietly fun _ => rfl

theorem asks_construct (version : Version) :
    Asks settings.Permits (Observed.construct environment version node.path) :=
  asks_call _ fun _ => Settings.permits_of_file?_eq_some hcandidate rfl (.inl rfl)

end Candidates

theorem asks_findReceiverAmong (environment : Environment σ ν δ) (settings : Settings)
    (names : List String) :
    Asks settings.Permits (Worker.findReceiverAmong environment settings names) := by
  induction names with
  | nil => exact asks_pure none
  | cons name names ih =>
      unfold Worker.findReceiverAmong
      cases hcandidate : settings.candidate? name with
      | none => exact ih
      | some node =>
          refine asks_bind (asks_classify environment hcandidate) ?_
          intro verdict
          cases verdict with
          | externalReceiver => exact asks_pure (some node)
          | external => exact ih
          | notExternal => exact ih

/-! ### What is recorded and told -/

namespace Registry

/-- The ids that are present, and all that were ever told, are allowed. -/
structure Concerns (allowed : LogicalId → Prop) (registry : Registry) : Prop where
  devices : ∀ id ∈ registry.devices, allowed id
  told : ∀ delivery ∈ registry.deliveries, allowed delivery.change.id

variable {allowed : LogicalId → Prop} {registry next : Registry} {changes : List StatusChange}

theorem concerns_empty : empty.Concerns allowed where
  devices id hmem := absurd hmem (by simp [empty])
  told delivery hmem := absurd hmem (by simp [empty])

theorem Concerns.of_tells (hconcerns : registry.Concerns allowed)
    (htells : Tells registry next changes) (hchanges : ∀ change ∈ changes, allowed change.id)
    (hdevices : ∀ id ∈ next.devices, allowed id) : next.Concerns allowed := by
  obtain ⟨new, hdeliveries, _, hnew⟩ := htells.deliveries
  refine ⟨hdevices, ?_⟩
  intro delivery hmem
  rw [hdeliveries, List.mem_append] at hmem
  rcases hmem with hbefore | hmem
  · exact hconcerns.told delivery hbefore
  · have hchange := List.mem_map_of_mem (f := Delivery.change) hmem
    rw [hnew] at hchange
    split_ifs at hchange
    · exact hchanges delivery.change hchange
    · exact absurd hchange List.not_mem_nil

theorem Concerns.recordPresent (hconcerns : registry.Concerns allowed) {id : LogicalId}
    (hid : allowed id) : (registry.recordPresent id).2.Concerns allowed := by
  have hdevices : ∀ other ∈ (registry.recordPresent id).2.devices, allowed other := by
    intro other hmem
    rw [mem_devices_recordPresent] at hmem
    exact hmem.elim (fun heq => heq ▸ hid) (hconcerns.devices other)
  unfold Registry.recordPresent at hdevices ⊢
  split_ifs at hdevices ⊢
  · exact hconcerns
  · exact hconcerns.of_tells (registry.tells_notify_of_devices _ _) (by simpa using hid) hdevices

theorem Concerns.recordAbsent (hconcerns : registry.Concerns allowed) (id : LogicalId) :
    (registry.recordAbsent id).2.Concerns allowed := by
  have hdevices : ∀ other ∈ (registry.recordAbsent id).2.devices, allowed other := by
    intro other hmem
    rw [mem_devices_recordAbsent] at hmem
    exact hconcerns.devices other hmem.2
  unfold Registry.recordAbsent at hdevices ⊢
  split_ifs at hdevices ⊢ with hcontains
  · refine hconcerns.of_tells (registry.tells_notify_of_devices _ _) ?_ hdevices
    have hid := hconcerns.devices id (Ascending.contains_eq_true.mp hcontains)
    simpa using hid
  · exact hconcerns

theorem Concerns.attach (hconcerns : registry.Concerns allowed) (subscriber : Subscriber) :
    (registry.attach subscriber).Concerns allowed := by
  have hbefore : Concerns allowed { registry with
      subscriber? := some subscriber, attachments := registry.attachments + 1 } :=
    ⟨hconcerns.devices, hconcerns.told⟩
  refine hbefore.of_tells (registry.tells_attach subscriber) ?_ ?_
  · intro change hchange
    obtain ⟨id, hmem, rfl⟩ := List.mem_map.mp hchange
    exact hconcerns.devices id hmem
  · rw [devices_attach]
    exact hconcerns.devices

end Registry

/-! ### What the worker does -/

namespace Worker

/-- The worker has asked about candidates only, and its ids are those of candidates. -/
structure IsDiscreet (settings : Settings) (worker : Worker σ) : Prop where
  calls : ∀ call ∈ worker.outside.calls, settings.Permits call
  registry : worker.registry.Concerns settings.Names
  receiver : ∀ id, worker.receiver? = some id → settings.Names id

variable (environment : Environment σ ν δ) {settings : Settings} {worker next : Worker σ}

theorem isDiscreet_start (settings : Settings) (state : σ) :
    (start state .empty).IsDiscreet settings where
  calls call hcall := absurd hcall List.not_mem_nil
  registry := Registry.concerns_empty
  receiver id hid := absurd hid (by simp [start])

theorem IsDiscreet.ask (hdiscreet : worker.IsDiscreet settings) {ask : StateM (Observed σ) α}
    (hask : Asks settings.Permits ask) :
    { worker with outside := (ask worker.outside).2 }.IsDiscreet settings :=
  ⟨hask worker.outside hdiscreet.calls, hdiscreet.registry, hdiscreet.receiver⟩

section Candidates

variable {name : String} {node : DeviceNode} (hcandidate : settings.candidate? name = some node)

include hcandidate

theorem IsDiscreet.remember (hdiscreet : worker.IsDiscreet settings) :
    { worker with receiver? := settings.logicalId? node }.IsDiscreet settings :=
  ⟨hdiscreet.calls, hdiscreet.registry, fun _ hid =>
    ⟨node, Settings.standsFor_of_candidate? hcandidate hid⟩⟩

theorem IsDiscreet.enroll (hdiscreet : worker.IsDiscreet settings) :
    (enroll environment settings worker node).2.IsDiscreet settings := by
  have hprobe := asks_probeCapture environment hcandidate worker.outside hdiscreet.calls
  refine ⟨?_, ?_, ?_⟩
  · rcases outside_enroll environment settings worker node with heq | heq | heq
    · rw [heq]
      exact hdiscreet.calls
    · rw [heq]
      exact hprobe
    · rw [heq]
      exact asks_construct environment hcandidate trialVersion _ hprobe
  · by_cases hpasses : Passes environment node trialVersion worker.outside
    · obtain ⟨id, hid⟩ := Settings.exists_logicalId_of_node?
        (Settings.node?_of_candidate? hcandidate)
      rw [enroll_of_passes environment settings worker node hid hpasses]
      exact hdiscreet.registry.recordPresent
        ⟨node, Settings.standsFor_of_candidate? hcandidate hid⟩
    · obtain ⟨outside, heq⟩ := enroll_of_not_passes environment settings worker node hpasses
      rw [heq]
      exact hdiscreet.registry
  · rw [receiver?_enroll]
    exact hdiscreet.receiver

theorem IsDiscreet.inspect (hdiscreet : worker.IsDiscreet settings) :
    (inspect environment settings worker node).2.IsDiscreet settings := by
  have hclassified := hdiscreet.ask (asks_classify environment hcandidate)
  unfold Worker.inspect
  split
  next hclass =>
    rw [hclass] at hclassified
    exact hclassified
  next hclass =>
    rw [hclass] at hclassified
    exact hclassified.enroll environment hcandidate
  next hclass =>
    rw [hclass] at hclassified
    exact (hclassified.remember hcandidate).enroll environment hcandidate

end Candidates

theorem IsDiscreet.scanEntry (hdiscreet : worker.IsDiscreet settings) (name : String) :
    (scanEntry environment settings worker name).2.IsDiscreet settings := by
  unfold Worker.scanEntry
  split
  next => exact hdiscreet
  next node hcandidate => exact hdiscreet.inspect environment hcandidate

theorem IsDiscreet.readDirectory (hdiscreet : worker.IsDiscreet settings) :
    (readDirectory environment settings worker).2.IsDiscreet settings :=
  hdiscreet.ask (asks_quietly fun _ => rfl)

theorem IsDiscreet.pause (hdiscreet : worker.IsDiscreet settings) (milliseconds : UInt64) :
    (pause environment worker milliseconds).IsDiscreet settings :=
  hdiscreet.ask (asks_quietly fun _ => rfl)

theorem IsDiscreet.setWatching (hdiscreet : worker.IsDiscreet settings) (watching : Bool) :
    { worker with watching }.IsDiscreet settings :=
  ⟨hdiscreet.calls, hdiscreet.registry, hdiscreet.receiver⟩

theorem IsDiscreet.registerWatch (hdiscreet : worker.IsDiscreet settings) :
    (registerWatch environment settings worker).2.IsDiscreet settings := by
  have hopened : { worker with outside :=
      (Observed.openWatch environment settings.deviceDirectory worker.outside).2 }.IsDiscreet
        settings :=
    hdiscreet.ask (asks_quietly fun _ => rfl)
  unfold Worker.registerWatch
  split
  next hanswer =>
    rw [hanswer] at hopened
    exact hopened.setWatching true
  next hanswer =>
    rw [hanswer] at hopened
    exact hopened

theorem IsDiscreet.awaitEvents (hdiscreet : worker.IsDiscreet settings) :
    (awaitEvents environment settings worker).2.IsDiscreet settings := by
  have hwaited : { worker with outside :=
      (Observed.wait environment settings.pollTimeout worker.outside).2 }.IsDiscreet settings :=
    hdiscreet.ask (asks_quietly fun _ => rfl)
  have hregistered := hdiscreet.registerWatch environment
  unfold Worker.awaitEvents
  split
  · split
    next hanswer =>
      rw [hanswer] at hwaited
      exact hwaited
    next hanswer =>
      rw [hanswer] at hwaited
      exact hwaited.setWatching false
  · split
    next hopened =>
      rw [hopened] at hregistered
      exact hregistered
    next hopened =>
      rw [hopened] at hregistered
      exact hregistered.pause environment _

theorem IsDiscreet.findReceiver (hdiscreet : worker.IsDiscreet settings) :
    (findReceiver environment settings worker).2.IsDiscreet settings := by
  have hlisted := hdiscreet.readDirectory environment
  unfold Worker.findReceiver
  split
  next hanswer =>
    rw [hanswer] at hlisted
    exact hlisted
  next hanswer =>
    rw [hanswer] at hlisted
    exact hlisted.ask (asks_findReceiverAmong environment settings _)

theorem IsDiscreet.dismiss (hdiscreet : worker.IsDiscreet settings) (node : DeviceNode) :
    (dismiss settings worker node).2.IsDiscreet settings := by
  unfold Worker.dismiss
  split
  next => exact hdiscreet
  next id _ => exact ⟨hdiscreet.calls, hdiscreet.registry.recordAbsent id, hdiscreet.receiver⟩

theorem IsDiscreet.nodeDeleted (hdiscreet : worker.IsDiscreet settings) (node : DeviceNode) :
    (nodeDeleted settings worker node).IsDiscreet settings := by
  have hforgot : { worker with
      receiver? := if worker.receiver? = settings.logicalId? node then none
        else worker.receiver? }.IsDiscreet settings := by
    refine ⟨hdiscreet.calls, hdiscreet.registry, ?_⟩
    intro id hid
    dsimp only at hid
    split_ifs at hid
    exact hdiscreet.receiver id hid
  exact hforgot.dismiss node

theorem IsDiscreet.auxDeleted (hdiscreet : worker.IsDiscreet settings) :
    (auxDeleted worker).IsDiscreet settings := by
  unfold Worker.auxDeleted
  split
  next => exact hdiscreet
  next id _ =>
    exact ⟨hdiscreet.calls, hdiscreet.registry.recordAbsent id,
      fun other hother => absurd hother (by simp)⟩

theorem IsDiscreet.auxCreated (hdiscreet : worker.IsDiscreet settings) :
    (auxCreated environment settings worker).2.IsDiscreet settings := by
  have hsearched := (hdiscreet.pause environment settings.receiverSettleDelay).findReceiver
    environment
  unfold Worker.auxCreated
  split
  next hfound =>
    rw [hfound] at hsearched
    exact hsearched
  next node _ hfound =>
    obtain ⟨_, name, _, _, _, hcandidate, _⟩ :=
      classify_of_findReceiver environment settings _ node (congrArg Prod.fst hfound)
    rw [hfound] at hsearched
    exact (hsearched.remember hcandidate).enroll environment hcandidate

theorem IsDiscreet.handleEvent (hdiscreet : worker.IsDiscreet settings) (event : WatchEvent) :
    (handleEvent environment settings worker event).2.IsDiscreet settings := by
  rw [handleEvent_eq]
  split
  next node hcandidate =>
    split
    · exact (hdiscreet.pause environment settings.settleDelay).inspect environment hcandidate
    · exact hdiscreet.nodeDeleted node
  next =>
    split_ifs
    · split
      · exact hdiscreet.auxCreated environment
      · exact hdiscreet.auxDeleted
    · exact hdiscreet

theorem IsDiscreet.scanEntries (hdiscreet : worker.IsDiscreet settings) (names : List String)
    (count : Nat) :
    (scanEntries environment settings names count worker).2.IsDiscreet settings := by
  induction names generalizing worker count with
  | nil => exact hdiscreet
  | cons name names ih =>
      have hentry := hdiscreet.scanEntry environment name
      unfold Worker.scanEntries
      split
      next hattempt => rw [hattempt] at hentry; exact hentry
      next hattempt => rw [hattempt] at hentry; exact ih hentry (count + 1)
      next hattempt => rw [hattempt] at hentry; exact ih hentry count

theorem IsDiscreet.handleEvents (hdiscreet : worker.IsDiscreet settings)
    (events : List WatchEvent) :
    (handleEvents environment settings events worker).2.IsDiscreet settings := by
  induction events generalizing worker with
  | nil => exact hdiscreet
  | cons event events ih =>
      have hevent := hdiscreet.handleEvent environment event
      unfold Worker.handleEvents
      split
      next hending => rw [hending] at hevent; exact hevent
      next hending => rw [hending] at hevent; exact ih hevent

theorem IsDiscreet.perform (hdiscreet : worker.IsDiscreet settings) (activity : Activity) :
    (perform environment settings worker activity).IsDiscreet settings := by
  cases activity with
  | scan =>
      have hlisted := hdiscreet.readDirectory environment
      unfold Worker.perform scan
      dsimp only
      split
      next hanswer => rw [hanswer] at hlisted; exact hlisted
      next names _ hanswer =>
        rw [hanswer] at hlisted
        have hscanned := hlisted.scanEntries environment names 0
        split
        next hcount => rw [hcount] at hscanned; exact hscanned
        next hcount => rw [hcount] at hscanned; exact hscanned
  | event event => exact hdiscreet.handleEvent environment event
  | poll =>
      have hhandled := (hdiscreet.awaitEvents environment).handleEvents environment
        (Worker.awaitEvents environment settings worker).1
      unfold Worker.perform poll
      dsimp only
      split
      next hending => rw [hending] at hhandled; exact hhandled
      next hending => rw [hending] at hhandled; exact hhandled

theorem IsDiscreet.works (hdiscreet : worker.IsDiscreet settings)
    (hworks : worker.Works environment settings next) : next.IsDiscreet settings := by
  cases hworks with
  | rests => exact hdiscreet
  | registers => exact hdiscreet.registerWatch environment
  | lists => exact hdiscreet.readDirectory environment
  | scans name => exact hdiscreet.scanEntry environment name
  | stops => exact hdiscreet.setWatching false
  | awaits => exact hdiscreet.awaitEvents environment
  | handles event => exact hdiscreet.handleEvent environment event

end Worker

/-! ### What the provider does -/

namespace Provider

/-- Anything that can be done: a move of the provider, an activity of its worker, or a search for
the receiver alone. -/
inductive Act (σ : Type) where
  | move (move : Move σ)
  | activity (activity : Worker.Activity)
  | search

variable (environment : Environment σ ν δ) {provider : Provider σ}

def act (provider : Provider σ) : Act σ → Provider σ
  | .move move => provider.after environment move
  | .activity activity =>
    provider.withWorker (provider.worker.perform environment provider.settings activity)
  | .search =>
    provider.withWorker (provider.worker.findReceiver environment provider.settings).2

def actAll (acts : List (Act σ)) (provider : Provider σ) : Provider σ :=
  acts.foldl (act environment) provider

theorem settings_act (act : Act σ) :
    (provider.act environment act).settings = provider.settings := by
  cases act with
  | move move => exact provider.settings_after environment move
  | activity activity => rfl
  | search => rfl

def IsDiscreet (provider : Provider σ) : Prop :=
  provider.worker.IsDiscreet provider.settings

theorem IsDiscreet.resolve (hdiscreet : provider.IsDiscreet) (name : String) :
    (provider.resolve environment name).2.IsDiscreet := by
  cases hlocate : provider.locate name with
  | error error =>
      rw [resolve_of_error environment provider hlocate]
      exact hdiscreet
  | ok path =>
      obtain ⟨id, hpresent, _, hpath⟩ := provider.locate_eq_ok_iff.mp hlocate
      obtain ⟨node, hstands⟩ := hdiscreet.registry.devices id hpresent
      have hown := Settings.nodePath?_of_logicalId? (Settings.node?_of_candidate? hstands.1)
        hstands.2
      obtain rfl := Option.some.inj (hpath.symm.trans hown)
      rw [resolve_of_ok environment provider hlocate]
      exact Worker.IsDiscreet.ask hdiscreet (asks_construct environment hstands.1 provider.version)

theorem IsDiscreet.after (hdiscreet : provider.IsDiscreet) (move : Move σ) :
    (provider.after environment move).IsDiscreet := by
  cases move with
  | step =>
      exact Worker.IsDiscreet.works environment hdiscreet
        (Run.step_works environment provider.settings provider.handle.run)
  | stop => exact hdiscreet
  | join =>
      change provider.join.2.worker.IsDiscreet provider.settings
      rw [worker_join]
      exact hdiscreet
  | attach subscriber =>
      exact ⟨hdiscreet.calls, hdiscreet.registry.attach subscriber, hdiscreet.receiver⟩
  | detach =>
      exact ⟨hdiscreet.calls, ⟨hdiscreet.registry.devices, hdiscreet.registry.told⟩,
        hdiscreet.receiver⟩
  | resolve name => exact hdiscreet.resolve environment name
  | world state => exact ⟨hdiscreet.calls, hdiscreet.registry, hdiscreet.receiver⟩

theorem IsDiscreet.act (hdiscreet : provider.IsDiscreet) (act : Act σ) :
    (provider.act environment act).IsDiscreet := by
  cases act with
  | move move => exact hdiscreet.after environment move
  | activity activity => exact Worker.IsDiscreet.perform environment hdiscreet activity
  | search => exact Worker.IsDiscreet.findReceiver environment hdiscreet

theorem isDiscreet_actAll (settings : Settings) (state : σ) (acts : List (Act σ)) :
    let provider := actAll environment acts ⟨settings, ⟨Run.start state, false⟩⟩
    provider.settings = settings ∧ provider.IsDiscreet := by
  induction acts using List.reverseRecOn with
  | nil => exact ⟨rfl, Worker.isDiscreet_start settings state⟩
  | append_singleton acts act ih =>
      rw [actAll, List.foldl_append]
      exact ⟨(settings_act environment act).trans ih.1, ih.2.act environment act⟩

end Provider

/-! ### An internal device -/

namespace Settings

variable {settings : Settings} {name : String} {node : DeviceNode}
  (hinternal : settings.isInternal node.suffix = true)

include hinternal

theorem suffix_ne_of_candidate? {candidate : DeviceNode}
    (hcandidate : settings.candidate? name = some candidate) :
    candidate.suffix ≠ node.suffix := by
  intro hsuffix
  have hexternal := (candidate?_eq_some_iff.mp hcandidate).2
  rw [hsuffix, hinternal] at hexternal
  exact absurd hexternal (by decide)

theorem not_names_of_isInternal {id : LogicalId}
    (hid : id.number.toNat = node.suffix.toNat + settings.idOffset.toNat) :
    ¬ settings.Names id := by
  rintro ⟨candidate, hcandidate, hown⟩
  have hnumber := LogicalId.number_of_forSuffix? hown
  refine suffix_ne_of_candidate? hinternal hcandidate (UInt32.toNat_inj.mp ?_)
  omega

/-- No spelling of a candidate's file leads to a file of an internal device. -/
theorem not_samePlace_of_permits
    (hnode : DeviceNode.named? settings.deviceDirectory settings.nodePrefix name = some node)
    {call : Call} (hpermits : settings.Permits call) {path : Path}
    (hfile : call.file? = some path) :
    ¬ path.SamePlace node.path ∧ ¬ path.SamePlace (node.nameAttribute settings.sysfsRoot) := by
  obtain ⟨other, candidate, hcandidate, hpath⟩ := hpermits path hfile
  have hnamed := named?_of_node? (node?_of_candidate? hcandidate)
  have hsuffix := suffix_ne_of_candidate? hinternal hcandidate
  -- a node's own place tells its suffix, and so does the place of its attribute
  rcases hpath with rfl | rfl
  · exact ⟨fun hplace => hsuffix (DeviceNode.suffix_eq_of_samePlace hnamed hnode hplace),
      DeviceNode.not_samePlace_nameAttribute hnamed hnode⟩
  · exact ⟨fun hplace => DeviceNode.not_samePlace_nameAttribute hnode hnamed hplace.symm,
      fun hplace =>
        hsuffix (DeviceNode.suffix_eq_of_samePlace_nameAttribute hnamed hnode hplace)⟩

end Settings

namespace Provider

/-- Whatever is done from the start on, and whatever the world answers: no file of an internal
device is ever opened, read or handed over for construction, no id of it is ever present, remembered
or told, and resolving one finds no device. -/
theorem internal_device_invisible (environment : Environment σ ν δ) (settings : Settings)
    (state : σ) (acts : List (Act σ)) {name : String} {node : DeviceNode}
    (hnode : DeviceNode.named? settings.deviceDirectory settings.nodePrefix name = some node)
    (hinternal : settings.isInternal node.suffix = true) :
    let provider := actAll environment acts ⟨settings, ⟨Run.start state, false⟩⟩
    (∀ call ∈ provider.worker.outside.calls, ∀ path, call.file? = some path →
      ¬ path.SamePlace node.path ∧ ¬ path.SamePlace (node.nameAttribute settings.sysfsRoot)) ∧
    ∀ id : LogicalId, id.number.toNat = node.suffix.toNat + settings.idOffset.toNat →
      id ∉ provider.registry.devices ∧ provider.worker.receiver? ≠ some id ∧
        (∀ delivery ∈ provider.registry.deliveries, delivery.change.id ≠ id) ∧
        provider.resolve environment id.text =
          (.failed (.deviceNotPresent id.text), provider) := by
  intro provider
  obtain ⟨hsettings, hdiscreet⟩ := isDiscreet_actAll environment settings state acts
  change provider.worker.IsDiscreet provider.settings at hdiscreet
  rw [show provider.settings = settings from hsettings] at hdiscreet
  constructor
  · intro call hcall path hfile
    exact Settings.not_samePlace_of_permits hinternal hnode (hdiscreet.calls call hcall) hfile
  · intro id hid
    have hforeign := Settings.not_names_of_isInternal hinternal hid
    have habsent : id ∉ provider.registry.devices :=
      fun hmem => hforeign (hdiscreet.registry.devices id hmem)
    refine ⟨habsent, fun hreceiver => hforeign (hdiscreet.receiver id hreceiver), ?_, ?_⟩
    · rintro delivery hmem rfl
      exact hforeign (hdiscreet.registry.told delivery hmem)
    · exact resolve_of_error environment provider (provider.locate_of_not_mem habsent)

def guardedSettings : Settings :=
  { Settings.standard with internalDevices := .ofList [0] }

def guardedBench : Bench :=
  ((Bench.ofSettings guardedSettings).addNode "video0" .uvcCamera).addNode "video1" .uvcCamera

def guardedActs : List (Act Bench) :=
  [.activity .scan, .activity (.event ⟨.created, "video0"⟩), .search,
    .move (.resolve "device@3.4/external/100")]

def guardedProvider : Provider Bench :=
  actAll (Bench.environment fun _ _ => .built ()) guardedActs
    ⟨guardedSettings, ⟨Run.start guardedBench, false⟩⟩

theorem guarded_camera_invisible :
    ⟨3, 4, 101⟩ ∈ guardedProvider.registry.devices ∧
      (∀ call ∈ guardedProvider.worker.outside.calls, ∀ path, call.file? = some path →
        ¬ path.SamePlace ⟨"/dev/video0"⟩) ∧
      ⟨3, 4, 100⟩ ∉ guardedProvider.registry.devices ∧
      guardedProvider.resolve (Bench.environment fun _ _ => .built ())
          (LogicalId.mk 3 4 100).text =
        (.failed (.deviceNotPresent (LogicalId.mk 3 4 100).text), guardedProvider) := by
  have hnode : DeviceNode.named? guardedSettings.deviceDirectory guardedSettings.nodePrefix
      "video0" = some ⟨"video0", ⟨"/dev/video0"⟩, 0⟩ := by decide
  have hinvisible := internal_device_invisible (Bench.environment fun _ _ => .built ())
    guardedSettings guardedBench guardedActs hnode (by decide)
  dsimp only at hinvisible
  rw [← guardedProvider] at hinvisible
  obtain ⟨hcalls, hids⟩ := hinvisible
  obtain ⟨habsent, _, _, hresolve⟩ := hids ⟨3, 4, 100⟩ (by decide)
  exact ⟨Ascending.mem_def.mpr (by decide +kernel),
    fun call hcall path hfile => (hcalls call hcall path hfile).1, habsent, hresolve⟩

end Provider

end CameraHotplug
