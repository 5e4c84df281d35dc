import CameraHotplug.Bench
import CameraHotplug.Proofs.FixedContent

/-!
# The scan agrees with the events

An entry that a scan lists and an entry whose creation is told are treated alike, as long as nothing
changes meanwhile: the same questions, the same device constructed for trial, the same id recorded
and told. So a whole scan does what the creations of its entries would do, in the order of the
listing, up to a panic and beyond.
-/

namespace CameraHotplug

/-- Whether a call is about one device: not the directory, the watch or the time. -/
def Call.isOfDevice : Call → Bool
  | .openNode _ _ _ | .queryCapability _ | .enumerateFormat _ _ _ | .readAttribute _ _
  | .construct _ _ _ => true
  | .readDirectory _ _ | .openWatch _ _ | .wait _ _ | .pause _ => false

variable {σ ν δ κ α : Type}

namespace Worker

/-- What was asked of devices so far, their trial constructions included, with the answers. -/
def deviceCalls (worker : Worker σ) : List Call :=
  worker.outside.calls.filter Call.isOfDevice

/-- Two workers that have done the same to the devices and face the same content. -/
structure Alike (view : σ → κ) (left right : Worker σ) : Prop where
  content : view left.outside.state = view right.outside.state
  registry : left.registry = right.registry
  receiver : left.receiver? = right.receiver?
  watching : left.watching = right.watching
  calls : left.deviceCalls = right.deviceCalls

variable {view : σ → κ} {left right : Worker σ}

theorem Alike.refl (view : σ → κ) (worker : Worker σ) : Alike view worker worker :=
  ⟨rfl, rfl, rfl, rfl, rfl⟩

/-- Both ask the same and are answered the same. -/
theorem Alike.ask (halike : Alike view left right) {ask : StateM (Observed σ) α}
    (hrepeats : Repeats view ask) :
    (ask left.outside).1 = (ask right.outside).1 ∧
      Alike view { left with outside := (ask left.outside).2 }
        { right with outside := (ask right.outside).2 } := by
  obtain ⟨new, hsame⟩ := hrepeats right.outside
  obtain ⟨hanswer, hview, hcalls⟩ := hsame left.outside halike.content
  obtain ⟨_, hviewRight, hcallsRight⟩ := hsame right.outside rfl
  refine ⟨hanswer, hview.trans hviewRight.symm, halike.registry, halike.receiver,
    halike.watching, ?_⟩
  have hbefore : left.outside.calls.filter Call.isOfDevice =
      right.outside.calls.filter Call.isOfDevice := halike.calls
  rw [deviceCalls, deviceCalls, hcalls, hcallsRight, List.filter_append, List.filter_append,
    hbefore]

/-- One of them asks something that is not about a device. -/
theorem Alike.ask_right (halike : Alike view left right) {operation : StateM σ α}
    {record : α → Call} (hoperation : Settled view operation)
    (hrecord : ∀ answer, (record answer).isOfDevice = false) :
    Alike view left
      { right with outside := (Observed.call operation record right.outside).2 } := by
  refine ⟨?_, halike.registry, halike.receiver, halike.watching, ?_⟩
  · rw [Observed.call_apply]
    exact halike.content.trans (hoperation right.outside.state).1.symm
  · have hnone : [record (operation right.outside.state).1].filter Call.isOfDevice = [] := by
      rw [List.filter_eq_nil_iff]
      simp [hrecord]
    rw [halike.calls, deviceCalls, deviceCalls, Observed.call_apply, List.filter_append, hnone,
      List.append_nil]

theorem Alike.symm (halike : Alike view left right) : Alike view right left :=
  ⟨halike.content.symm, halike.registry.symm, halike.receiver.symm, halike.watching.symm,
    halike.calls.symm⟩

section Treatments

variable {environment : Environment σ ν δ} (hdetermined : environment.IsDetermined view)
  (settings : Settings)

/-- What enrolling comes to depends on two answers and the registry. -/
theorem enroll_eq (environment : Environment σ ν δ) {node : DeviceNode} {id : LogicalId}
    (hid : settings.logicalId? node = some id) (worker : Worker σ) :
    enroll environment settings worker node =
      let probed := probeCapture environment node worker.outside
      let made := Observed.construct environment trialVersion node.path probed.2
      let recorded := worker.registry.recordPresent id
      if probed.1 then
        match made.1 with
        | .panicked => (.panicked, { worker with outside := made.2 })
        | .failed _ => (.unchanged, { worker with outside := made.2 })
        | .built _ => (if recorded.1 then .recorded else .unchanged,
            { worker with outside := made.2, registry := recorded.2 })
      else (.unchanged, { worker with outside := probed.2 }) := by
  unfold enroll
  rw [hid]
  dsimp only
  cases probeCapture environment node worker.outside with
  | mk captures probed =>
      cases captures with
      | false => rfl
      | true =>
          dsimp only
          cases Observed.construct environment trialVersion node.path probed with
          | mk made constructed => cases made <;> rfl

include hdetermined

theorem Alike.enroll (halike : Alike view left right) (node : DeviceNode) :
    (enroll environment settings left node).1 = (enroll environment settings right node).1 ∧
      Alike view (enroll environment settings left node).2
        (enroll environment settings right node).2 := by
  cases hid : settings.logicalId? node with
  | none =>
      rw [enroll_of_logicalId?_eq_none _ _ _ _ hid, enroll_of_logicalId?_eq_none _ _ _ _ hid]
      exact ⟨rfl, halike⟩
  | some id =>
      obtain ⟨hcaptures, hprobed⟩ := halike.ask (repeats_probeCapture hdetermined.toIsFixed node)
      have hrepeats : Repeats view (Observed.construct environment trialVersion node.path) :=
        repeats_call _ (hdetermined.constructs trialVersion node.path)
      obtain ⟨hmade, hconstructed⟩ := hprobed.ask hrepeats
      rw [enroll_eq settings environment hid left, enroll_eq settings environment hid right]
      have hrecorded : left.registry.recordPresent id = right.registry.recordPresent id := by
        rw [halike.registry]
      dsimp only at hmade ⊢
      rw [hcaptures, hmade, hrecorded]
      by_cases hcaptured : (probeCapture environment node right.outside).1 = true
      · rw [if_pos hcaptured, if_pos hcaptured]
        split
        · exact ⟨rfl, hconstructed⟩
        · exact ⟨rfl, hconstructed⟩
        · exact ⟨rfl, hconstructed.content, rfl, hconstructed.receiver, hconstructed.watching,
            hconstructed.calls⟩
      · rw [if_neg hcaptured, if_neg hcaptured]
        exact ⟨rfl, hprobed⟩

theorem Alike.inspect (halike : Alike view left right) (node : DeviceNode) :
    (inspect environment settings left node).1 = (inspect environment settings right node).1 ∧
      Alike view (inspect environment settings left node).2
        (inspect environment settings right node).2 := by
  obtain ⟨hverdict, hclassified⟩ :=
    halike.ask (repeats_classify hdetermined.toIsFixed settings node)
  unfold Worker.inspect
  cases hleft : classify environment settings node left.outside with
  | mk verdict leftOutside =>
      cases hright : classify environment settings node right.outside with
      | mk same rightOutside =>
          rw [hleft, hright] at hverdict hclassified
          obtain rfl : verdict = same := hverdict
          cases verdict with
          | notExternal => exact ⟨rfl, hclassified⟩
          | external => exact hclassified.enroll hdetermined settings node
          | externalReceiver =>
              have hremembered : Alike view
                  { left with outside := leftOutside, receiver? := settings.logicalId? node }
                  { right with outside := rightOutside, receiver? := settings.logicalId? node } :=
                ⟨hclassified.content, hclassified.registry, rfl, hclassified.watching,
                  hclassified.calls⟩
              exact hremembered.enroll hdetermined settings node

/-- A listed entry and one whose creation is told, unless it is an auxiliary one. -/
theorem Alike.entry (halike : Alike view left right) {name : String}
    (hother : Text.startsWith name settings.auxPrefix = false) :
    (scanEntry environment settings left name).1.ending =
        (handleEvent environment settings right ⟨.created, name⟩).1 ∧
      Alike view (scanEntry environment settings left name).2
        (handleEvent environment settings right ⟨.created, name⟩).2 := by
  rw [scanEntry, handleEvent_eq]
  cases settings.candidate? name with
  | none =>
      simp only [hother, Bool.false_eq_true, and_false, if_false]
      exact ⟨rfl, halike⟩
  | some node =>
      have hpaused : Alike view left (pause environment right settings.settleDelay) :=
        halike.ask_right (hdetermined.pause settings.settleDelay) fun _ => rfl
      obtain ⟨hattempt, hinspected⟩ := hpaused.inspect hdetermined settings node
      exact ⟨congrArg Attempt.ending hattempt, hinspected⟩

end Treatments

/-! ### A whole listing -/

/-- The creations of the entries of a listing, without the auxiliary ones. -/
def creations (settings : Settings) (names : List String) : List WatchEvent :=
  (names.filter fun name => !Text.startsWith name settings.auxPrefix).map fun name =>
    ⟨.created, name⟩

theorem creations_cons (settings : Settings) (name : String) (names : List String) :
    creations settings (name :: names) =
      if Text.startsWith name settings.auxPrefix then creations settings names
      else ⟨.created, name⟩ :: creations settings names := by
  unfold creations
  cases hstarts : Text.startsWith name settings.auxPrefix with
  | false => simp [hstarts]
  | true => simp [hstarts]

theorem scanEntry_of_aux {environment : Environment σ ν δ} {settings : Settings}
    (hvalid : settings.flaw? = none) {name : String}
    (haux : Text.startsWith name settings.auxPrefix = true) (worker : Worker σ) :
    scanEntry environment settings worker name = (.unchanged, worker) := by
  rw [scanEntry, (Settings.isAuxiliary_of_startsWith hvalid haux).candidate?_eq_none]

theorem Alike.entries {environment : Environment σ ν δ}
    (hdetermined : environment.IsDetermined view)
    {settings : Settings} (hvalid : settings.flaw? = none) (names : List String) (count : Nat)
    (halike : Alike view left right) :
    ((scanEntries environment settings names count left).1 = none ↔
        (handleEvents environment settings (creations settings names) right).1 = .panicked) ∧
      Alike view (scanEntries environment settings names count left).2
        (handleEvents environment settings (creations settings names) right).2 := by
  induction names generalizing left right count with
  | nil => exact ⟨by simp [scanEntries, creations, handleEvents], halike⟩
  | cons name names ih =>
      rw [creations_cons]
      cases haux : Text.startsWith name settings.auxPrefix with
      | true =>
          rw [if_pos rfl, scanEntries, scanEntry_of_aux hvalid haux]
          exact ih count halike
      | false =>
          obtain ⟨hending, hnext⟩ := halike.entry hdetermined settings haux
          rw [if_neg Bool.false_ne_true]
          unfold scanEntries handleEvents
          cases hentry : scanEntry environment settings left name with
          | mk attempt next =>
              cases hevent : handleEvent environment settings right ⟨.created, name⟩ with
              | mk ending told =>
                  rw [hentry, hevent] at hending hnext
                  obtain rfl : attempt.ending = ending := hending
                  cases attempt with
                  | panicked => exact ⟨by simp [Attempt.ending], hnext⟩
                  | recorded => exact ih (count + 1) hnext
                  | unchanged => exact ih count hnext

/-- While the content stays as it is, scanning the directory does to the registry, the subscriber,
the remembered receiver and the devices what the creations of its entries do, handled in the order
of the listing, and one is broken off by a panic exactly where the other is. -/
theorem scan_agrees_with_creations {environment : Environment σ ν δ}
    (hdetermined : environment.IsDetermined view) {settings : Settings}
    (hvalid : settings.flaw? = none)
    (worker : Worker σ) {names : List String}
    (hlisting : (readDirectory environment settings worker).1 = .ok names) :
    let scanned := scan environment settings worker
    let told := handleEvents environment settings (creations settings names) worker
    scanned.2.registry = told.2.registry ∧ scanned.2.receiver? = told.2.receiver? ∧
      scanned.2.deviceCalls = told.2.deviceCalls ∧ scanned.2.watching = told.2.watching ∧
      view scanned.2.outside.state = view told.2.outside.state ∧
      (scanned.1 = .panicked ↔ told.1 = .panicked) := by
  intro scanned told
  have hread : Alike view worker (readDirectory environment settings worker).2 :=
    (Alike.refl view worker).ask_right (hdetermined.readDirectory settings.deviceDirectory)
      fun _ => rfl
  obtain ⟨hbroken, halike⟩ := hread.symm.entries hdetermined hvalid names 0
  obtain ⟨hlast, hpanicked, _⟩ := scan_of_listing environment settings hlisting
  have hscanned : Alike view scanned.2 told.2 := hlast ▸ halike
  exact ⟨hscanned.registry, hscanned.receiver, hscanned.calls, hscanned.watching,
    hscanned.content, hpanicked.trans hbroken⟩

/-! ### A directory of every kind -/

def crowdedSettings : Settings :=
  { Settings.standard with internalDevices := .ofList [0] }

/-- An internal camera, an auxiliary entry, a receiver, one that cannot capture, and a camera. -/
def crowdedBench : Bench :=
  (((((Bench.ofSettings crowdedSettings).addNode "video0" .uvcCamera).addEntry "cec0").addNode
    "video3" (.capture "mxc_isi.6.capture")).addNode
    "video8" { BenchNode.capture "mxc_isi.6.capture" with deviceCaps := 0 }).addNode
    "video1" .uvcCamera

def crowdedEnvironment : Environment Bench BenchNode Unit :=
  Bench.environment fun _ _ => .built ()

theorem crowdedBench_agrees :
    crowdedSettings.flaw? = none ∧
      let scanned := scan crowdedEnvironment crowdedSettings (start crowdedBench .empty)
      let told := handleEvents crowdedEnvironment crowdedSettings
        [⟨.created, "video0"⟩, ⟨.created, "video3"⟩, ⟨.created, "video8"⟩, ⟨.created, "video1"⟩]
        (start crowdedBench .empty)
      told.2.registry.devices.toList = [⟨3, 4, 101⟩, ⟨3, 4, 103⟩] ∧
        told.2.receiver? = some ⟨3, 4, 108⟩ ∧
        scanned.2.registry = told.2.registry ∧ scanned.2.receiver? = told.2.receiver? ∧
        scanned.2.deviceCalls = told.2.deviceCalls := by
  have hvalid : crowdedSettings.flaw? = none := by decide
  have hlisting : (readDirectory crowdedEnvironment crowdedSettings
      (start crowdedBench .empty)).1 = .ok ["video0", "cec0", "video3", "video8", "video1"] := by
    decide +kernel
  have hcreations : creations crowdedSettings ["video0", "cec0", "video3", "video8", "video1"] =
      [⟨.created, "video0"⟩, ⟨.created, "video3"⟩, ⟨.created, "video8"⟩, ⟨.created, "video1"⟩] := by
    decide
  obtain ⟨hregistry, hreceiver, hcalls, _⟩ :=
    scan_agrees_with_creations (Bench.isDetermined fun _ _ => .built ()) hvalid
      (start crowdedBench .empty) hlisting
  rw [hcreations] at hregistry hreceiver hcalls
  exact ⟨hvalid, by decide +kernel, by decide +kernel, hregistry, hreceiver, hcalls⟩

end Worker

end CameraHotplug
