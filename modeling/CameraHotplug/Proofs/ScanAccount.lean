import CameraHotplug.Proofs.Findings
import CameraHotplug.Proofs.Subscription

/-!
# What a scan comes to

A scan counts the ids that it brings, and tells each of them once. As long as the content stays as it
is, the order of the directory makes no difference to the ids, and another scan finds nothing left to
bring.
-/

namespace CameraHotplug

namespace Registry

/-- The ids came, each told as it came, and no other id came or went. -/
structure Gains (before after : Registry) (ids : List LogicalId) : Prop where
  tells : Tells before after (arrivals ids)
  distinct : ids.Nodup
  mem_iff : ∀ id, id ∈ ids ↔ id ∉ before.devices ∧ id ∈ after.devices
  kept : ∀ id ∈ before.devices, id ∈ after.devices

variable {before middle after : Registry}

theorem Gains.refl (registry : Registry) : registry.Gains registry [] where
  tells := .refl registry
  distinct := List.nodup_nil
  mem_iff _ := iff_of_false List.not_mem_nil fun hboth => hboth.1 hboth.2
  kept _ hmem := hmem

theorem Gains.trans {first second : List LogicalId} (hfirst : before.Gains middle first)
    (hsecond : middle.Gains after second) : before.Gains after (first ++ second) where
  tells := by
    rw [arrivals, List.map_append]
    exact hfirst.tells.trans hsecond.tells
  distinct := by
    apply hfirst.distinct.append hsecond.distinct
    intro id hmem hagain
    exact ((hsecond.mem_iff id).mp hagain).1 ((hfirst.mem_iff id).mp hmem).2
  mem_iff id := by
    rw [List.mem_append, hfirst.mem_iff, hsecond.mem_iff]
    have hbefore := hfirst.kept id
    have hmiddle := hsecond.kept id
    tauto
  kept id hmem := hsecond.kept id (hfirst.kept id hmem)

theorem gains_recordPresent {registry : Registry} {id : LogicalId} (hnew : id ∉ registry.devices) :
    registry.Gains (registry.recordPresent id).2 [id] where
  tells := by
    have hnews : registry.IsNews ⟨id, .present⟩ := ⟨fun _ => hnew, fun _ => rfl⟩
    exact (registry.record_of_isNews hnews).2.1
  distinct := List.nodup_singleton id
  mem_iff other := by
    rw [List.mem_singleton, mem_devices_recordPresent]
    constructor
    · rintro rfl
      exact ⟨hnew, Or.inl rfl⟩
    · rintro ⟨hother, hmem⟩
      exact hmem.resolve_right hother
  kept other hmem := by
    rw [mem_devices_recordPresent]
    exact Or.inr hmem

theorem Gains.eq_of_nil (hgains : before.Gains after []) : after = before := by
  obtain ⟨new, hdeliveries, _, hchanges⟩ := hgains.tells.deliveries
  have hnone : new = [] := by
    rw [← List.map_eq_nil_iff, hchanges]
    split_ifs <;> rfl
  have hdevices : after.devices = before.devices := by
    apply Ascending.ext_mem
    intro id
    constructor
    · intro hmem
      by_contra hnew
      exact List.not_mem_nil ((hgains.mem_iff id).mpr ⟨hnew, hmem⟩)
    · exact hgains.kept id
  have hattachments := hgains.tells.attachments
  have hsubscriber := hgains.tells.subscriber
  rw [hnone, List.append_nil] at hdeliveries
  cases before
  cases after
  simp_all

theorem Gains.length_eq {other : Registry} {ids others : List LogicalId}
    (hgains : before.Gains after ids) (hothers : before.Gains other others)
    (hdevices : other.devices = after.devices) : others.length = ids.length := by
  apply List.Perm.length_eq
  rw [List.perm_ext_iff_of_nodup hothers.distinct hgains.distinct]
  intro id
  rw [hothers.mem_iff, hgains.mem_iff, hdevices]

end Registry

namespace Worker

variable {σ ν δ κ : Type}

/-! ### The count -/

section Counting

variable (environment : Environment σ ν δ) (settings : Settings) (worker : Worker σ)

theorem gains_enroll (node : DeviceNode) :
    ∃ ids, worker.registry.Gains (enroll environment settings worker node).2.registry ids ∧
      ids.length = (enroll environment settings worker node).1.gain := by
  have hnone : ∃ ids, worker.registry.Gains worker.registry ids ∧ ids.length = 0 :=
    ⟨[], .refl worker.registry, rfl⟩
  cases hid : settings.logicalId? node with
  | none =>
      rw [enroll_of_logicalId?_eq_none environment settings worker node hid]
      exact hnone
  | some id =>
      rw [enroll_eq settings environment hid worker]
      dsimp only
      by_cases hprobe : (probeCapture environment node worker.outside).1 = true
      · rw [if_pos hprobe]
        cases (Observed.construct environment trialVersion node.path
            (probeCapture environment node worker.outside).2).1 with
        | panicked => exact hnone
        | failed error => exact hnone
        | built device =>
            dsimp only
            by_cases hmem : id ∈ worker.registry.devices
            · have hsame : worker.registry.recordPresent id = (false, worker.registry) := by
                rw [Registry.recordPresent, if_pos (Ascending.contains_eq_true.mpr hmem)]
              rw [hsame]
              exact hnone
            · have hnew : (worker.registry.recordPresent id).1 = true := by
                rw [Registry.recordPresent, if_neg (Ascending.contains_eq_true.not.mpr hmem)]
              rw [hnew]
              exact ⟨[id], Registry.gains_recordPresent hmem, rfl⟩
      · rw [if_neg hprobe]
        exact hnone

theorem gains_scanEntry (name : String) :
    ∃ ids, worker.registry.Gains (scanEntry environment settings worker name).2.registry ids ∧
      ids.length = (scanEntry environment settings worker name).1.gain := by
  have hnone : ∃ ids, worker.registry.Gains worker.registry ids ∧ ids.length = 0 :=
    ⟨[], .refl worker.registry, rfl⟩
  unfold scanEntry
  split
  next => exact hnone
  next node _ =>
    unfold inspect
    split
    next => exact hnone
    next outside _ => exact gains_enroll environment settings { worker with outside } node
    next outside _ =>
      exact gains_enroll environment settings
        { worker with outside, receiver? := settings.logicalId? node } node

variable {worker} in
theorem gains_scanEntries {names : List String} {count total : Nat}
    (hfinished : (scanEntries environment settings names count worker).1 = some total) :
    ∃ ids, total = count + ids.length ∧
      worker.registry.Gains (scanEntries environment settings names count worker).2.registry
        ids := by
  induction names generalizing count worker with
  | nil =>
      have htotal : count = total := Option.some.inj hfinished
      exact ⟨[], by rw [List.length_nil]; omega, .refl worker.registry⟩
  | cons name names ih =>
      obtain ⟨first, hgains, hlength⟩ := gains_scanEntry environment settings worker name
      have hcalm : (scanEntries environment settings (name :: names) count worker).1 ≠ none := by
        rw [hfinished]
        exact nofun
      have hnext := scanEntries_cons_of_ne_none hcalm
      rw [hnext] at hfinished ⊢
      obtain ⟨rest, htotal, hrest⟩ := ih hfinished
      refine ⟨first ++ rest, ?_, hgains.trans hrest⟩
      rw [List.length_append]
      omega

end Counting

/-! ### The whole -/

section Completing

variable {environment : Environment σ ν δ} {settings : Settings} {start : Observed σ}
  {names : List String}

/-- No entry of the listing has a node whose trial construction panics. -/
def IsCalm (environment : Environment σ ν δ) (settings : Settings) (start : Observed σ)
    (names : List String) : Prop :=
  ∀ name ∈ names, ∀ node, settings.candidate? name = some node →
    assess environment settings node start ≠ .panicked

/-- What a scan makes of a listing, as it can be told from the content at the start. -/
structure Completes (environment : Environment σ ν δ) (settings : Settings) (start : Observed σ)
    (names : List String) (before after : Worker σ) (count : Nat) : Prop where
  gains : ∃ ids, ids.length = count ∧ before.registry.Gains after.registry ids
  members : ∀ id, id ∈ after.registry.devices ↔ id ∈ before.registry.devices ∨
    ∃ name ∈ names, ∃ node, settings.candidate? name = some node ∧
      settings.logicalId? node = some id ∧ assess environment settings node start = .admitted
  receiver : after.receiver? =
    (receiversAmong environment settings start names).getLast?.elim before.receiver?
      settings.logicalId?

theorem IsCalm.perm {others : List String} (hcalm : IsCalm environment settings start names)
    (hperm : names.Perm others) : IsCalm environment settings start others :=
  fun name hmem => hcalm name (hperm.mem_iff.mpr hmem)

/-- The ids do not depend on the order. -/
theorem Completes.devices_eq {others : List String} {before after other : Worker σ}
    {count otherCount : Nat}
    (hcompletes : Completes environment settings start names before after count)
    (hother : Completes environment settings start others before other otherCount)
    (hperm : names.Perm others) : other.registry.devices = after.registry.devices := by
  apply Ascending.ext_mem
  intro id
  rw [hcompletes.members, hother.members]
  simp only [hperm.mem_iff]

/-- What has been brought once is not brought again. -/
theorem Completes.again {before after last : Worker σ} {count next : Nat}
    (hfirst : Completes environment settings start names before after count)
    (hsecond : Completes environment settings start names after last next) :
    next = 0 ∧ last.registry = after.registry ∧ last.receiver? = after.receiver? := by
  obtain ⟨ids, rfl, hgains⟩ := hsecond.gains
  have hnone : ids = [] := by
    rw [List.eq_nil_iff_forall_not_mem]
    intro id hmem
    obtain ⟨hnew, hcame⟩ := (hgains.mem_iff id).mp hmem
    apply hnew
    rw [hfirst.members]
    exact Or.inr (((hsecond.members id).mp hcame).resolve_left hnew)
  subst hnone
  refine ⟨rfl, hgains.eq_of_nil, ?_⟩
  rw [hsecond.receiver, hfirst.receiver]
  cases (receiversAmong environment settings start names).getLast? <;> rfl

variable {view : σ → κ} (hforeseeable : environment.IsForeseeable settings view)
  {worker : Worker σ} (hcontent : view worker.outside.state = view start.state)
  (hlisting : (readDirectory environment settings worker).1 = .ok names)

include hforeseeable hcontent hlisting

theorem isCalm_iff_finished :
    IsCalm environment settings start names ↔
      ∃ count, (scan environment settings worker).1 = .finished count := by
  have hread := (view_readDirectory hforeseeable.toIsFixed settings worker).trans hcontent
  obtain ⟨_, _, hfinished⟩ := scan_of_listing environment settings hlisting
  simp only [hfinished]
  rw [← Option.ne_none_iff_exists', ne_eq, scanEntries_eq_none_iff hforeseeable hread, IsCalm]
  push Not
  rfl

theorem completes_scan {count : Nat}
    (hfinished : (scan environment settings worker).1 = .finished count) :
    Completes environment settings start names worker (scan environment settings worker).2
      count := by
  have hread := (view_readDirectory hforeseeable.toIsFixed settings worker).trans hcontent
  obtain ⟨hlast, _, hcounted⟩ := scan_of_listing environment settings hlisting
  have htotal := (hcounted count).mp hfinished
  have hcalm : (scanEntries environment settings names 0
      (readDirectory environment settings worker).2).1 ≠ none := by
    rw [htotal]
    exact nofun
  rw [hlast]
  refine ⟨?_, fun id => mem_devices_scanEntries hforeseeable hread hcalm,
    receiver?_scanEntries hforeseeable hread hcalm⟩
  obtain ⟨ids, hcount, hgains⟩ := gains_scanEntries environment settings htotal
  rw [Nat.zero_add] at hcount
  exact ⟨ids, hcount.symm, hgains⟩

end Completing

theorem exists_listing_of_finished {environment : Environment σ ν δ} {settings : Settings}
    {worker : Worker σ} {count : Nat}
    (hfinished : (scan environment settings worker).1 = .finished count) :
    ∃ names, (readDirectory environment settings worker).1 = .ok names := by
  unfold scan at hfinished
  cases hread : readDirectory environment settings worker with
  | mk answer next =>
      rw [hread] at hfinished
      cases answer with
      | error cause => exact nomatch hfinished
      | ok names => exact ⟨names, rfl⟩

theorem view_scan {environment : Environment σ ν δ} {view : σ → κ}
    (hfixed : environment.IsFixed view) (settings : Settings) {worker : Worker σ}
    {names : List String} (hlisting : (readDirectory environment settings worker).1 = .ok names) :
    view (scan environment settings worker).2.outside.state = view worker.outside.state := by
  rw [(scan_of_listing environment settings hlisting).1, view_scanEntries hfixed,
    view_readDirectory hfixed]

/-- A scan that comes to its end counts the ids that it brought, which are told in that number to
the subscriber, and it takes none away. While the content stays as it is, these are the ids of the
admitted nodes, and the directory may be listed in any order: the count and the ids are the same. And
a second scan brings nothing, tells nothing, and remembers the same receiver. -/
theorem scan_accounts_for_arrivals {environment : Environment σ ν δ} {view : σ → κ}
    (hdetermined : environment.IsDetermined view) (settings : Settings) (worker : Worker σ)
    {count : Nat} (hfinished : (scan environment settings worker).1 = .finished count) :
    let scanned := (scan environment settings worker).2
    (∃ ids, ids.length = count ∧ worker.registry.Gains scanned.registry ids) ∧
    (∀ names, (readDirectory environment settings worker).1 = .ok names →
      (∀ id, id ∈ scanned.registry.devices ↔ id ∈ worker.registry.devices ∨
        ∃ name ∈ names, ∃ node, settings.candidate? name = some node ∧
          settings.logicalId? node = some id ∧
          assess environment settings node worker.outside = .admitted) ∧
      ∀ others, names.Perm others →
        (scan (environment.relisted others) settings worker).1 = .finished count ∧
          (scan (environment.relisted others) settings worker).2.registry.devices =
            scanned.registry.devices) ∧
    ∃ again, scan environment settings scanned = (.finished 0, again) ∧
      again.registry = scanned.registry ∧ again.receiver? = scanned.receiver? := by
  intro scanned
  have hforeseeable := hdetermined.isForeseeable settings
  obtain ⟨names, hlisting⟩ := exists_listing_of_finished hfinished
  have hcompletes := completes_scan hforeseeable rfl hlisting hfinished
  have hcalm := (isCalm_iff_finished hforeseeable rfl hlisting).mpr ⟨count, hfinished⟩
  refine ⟨hcompletes.gains, ?_, ?_⟩
  · intro listed hlisted
    obtain rfl : names = listed := Except.ok.inj (hlisting.symm.trans hlisted)
    refine ⟨hcompletes.members, ?_⟩
    intro others hperm
    have hrelisted := (hdetermined.relisted others).isForeseeable settings
    obtain ⟨total, htotal⟩ :=
      (isCalm_iff_finished hrelisted rfl rfl).mp (hcalm.perm hperm)
    -- the nodes are asked the same questions, however the directory is listed
    obtain ⟨hgained, hmembers, hreceiver⟩ := completes_scan hrelisted rfl rfl htotal
    have hother : Completes environment settings worker.outside others worker
        (scan (environment.relisted others) settings worker).2 total :=
      ⟨hgained, hmembers, hreceiver⟩
    have hdevices := hcompletes.devices_eq hother hperm
    obtain ⟨ids, rfl, hgains⟩ := hcompletes.gains
    obtain ⟨otherIds, rfl, hotherGains⟩ := hother.gains
    rw [← hgains.length_eq hotherGains hdevices]
    exact ⟨htotal, hdevices⟩
  · have hkept := view_scan hdetermined.toIsFixed settings hlisting
    have hagain : (readDirectory environment settings scanned).1 = .ok names := by
      rw [← hlisting]
      exact (repeats_call (.readDirectory settings.deviceDirectory)
        (hdetermined.readDirectory settings.deviceDirectory)).answer_eq hkept
    obtain ⟨next, hnext⟩ := (isCalm_iff_finished hforeseeable hkept hagain).mp hcalm
    obtain ⟨rfl, hregistry, hreceiver⟩ :=
      hcompletes.again (completes_scan hforeseeable hkept hagain hnext)
    exact ⟨(scan environment settings scanned).2, Prod.ext hnext rfl, hregistry, hreceiver⟩

/-! ### A crowded directory, listed backwards -/

def attendedWorker : Worker Bench :=
  start crowdedBench (Registry.empty.attach ⟨fun _ _ => .returned⟩)

def backwards : List String :=
  ["video1", "video8", "video3", "cec0", "video0"]

theorem crowdedBench_accounts :
    let scanned := (scan crowdedEnvironment crowdedSettings attendedWorker).2
    (scan crowdedEnvironment crowdedSettings attendedWorker).1 = .finished 2 ∧
      scanned.registry.told = [⟨⟨3, 4, 103⟩, .present⟩, ⟨⟨3, 4, 101⟩, .present⟩] ∧
      (∃ ids, ids.length = 2 ∧ attendedWorker.registry.Gains scanned.registry ids) ∧
      (scan (crowdedEnvironment.relisted backwards) crowdedSettings attendedWorker).1 =
        .finished 2 ∧
      (scan (crowdedEnvironment.relisted backwards) crowdedSettings
        attendedWorker).2.registry.devices = scanned.registry.devices ∧
      ∃ again, scan crowdedEnvironment crowdedSettings scanned = (.finished 0, again) ∧
        again.registry = scanned.registry ∧ again.receiver? = scanned.receiver? := by
  have hfinished : (scan crowdedEnvironment crowdedSettings attendedWorker).1 = .finished 2 := by
    decide +kernel
  have hlisting : (readDirectory crowdedEnvironment crowdedSettings attendedWorker).1 =
      .ok ["video0", "cec0", "video3", "video8", "video1"] := by
    decide +kernel
  obtain ⟨hgains, hshuffled, hagain⟩ := scan_accounts_for_arrivals
    (Bench.isDetermined fun _ _ => .built ()) crowdedSettings attendedWorker hfinished
  obtain ⟨_, hanyOrder⟩ := hshuffled _ hlisting
  obtain ⟨hcount, hdevices⟩ := hanyOrder backwards (by decide)
  exact ⟨hfinished, by decide +kernel, hgains, hcount, hdevices, hagain⟩

end Worker

end CameraHotplug
