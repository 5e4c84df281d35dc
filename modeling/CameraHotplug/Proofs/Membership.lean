import CameraHotplug.Bench
import CameraHotplug.Proofs.History

/-!
# Why an id comes and why it goes

An id enters the registry only right after its own node was classified as external, passed its probe
and was constructed for trial. It leaves only with its own node, or with an auxiliary entry while it
is the remembered receiver, and it is remembered only because its node was classified as a receiver.
-/

namespace CameraHotplug

namespace Worker

variable {σ ν δ : Type} (environment : Environment σ ν δ) (settings : Settings)

/-- Between two points of the record, and up to the second, a node was classified as external, then
probed with success, then constructed for trial with success, with no other call in between. -/
def Admits (node : DeviceNode) (before after : Observed σ) : Prop :=
  ∃ (asked classified probed : Observed σ) (verdict : Classification) (capability : Capability)
    (device : δ),
    before.calls <+: asked.calls ∧
    classify environment settings node asked = (verdict, classified) ∧
    verdict.isExternal = true ∧
    probeCapture environment node classified = (true, probed) ∧
    probed.calls = classified.calls ++
      [.openNode node.path .blocking (.ok ()), .queryCapability (.ok capability)] ∧
    capability.nodeCaps &&& Kernel.anyCapture ≠ 0 ∧
    Observed.construct environment .v3_4 node.path probed = (.built device, after) ∧
    after.calls = probed.calls ++ [.construct .v3_4 node.path (.built ())]

def Moment.Remembers (moment : Moment σ) (node : DeviceNode) : Prop :=
  ∃ asked classified : Observed σ,
    moment.before.outside.calls <+: asked.calls ∧
    classify environment settings node asked = (.externalReceiver, classified) ∧
    classified.calls <+: moment.after.outside.calls ∧
    moment.after.receiver? = settings.logicalId? node

/-- All that a moment can do to the registry and the remembered receiver. -/
inductive Moment.Effect (moment : Moment σ) : Prop where
  | kept (registry : moment.after.registry = moment.before.registry)
      (receiver : moment.after.receiver? = moment.before.receiver?)
  | enrolled (name : String) (node : DeviceNode) (asked classified : Observed σ)
      (verdict : Classification) (candidate : settings.candidate? name = some node)
      (calls : moment.before.outside.calls <+: asked.calls)
      (classifies : classify environment settings node asked = (verdict, classified))
      (external : verdict.isExternal = true)
      (after : moment.after = (enroll environment settings { moment.before with
        outside := classified
        receiver? := if verdict = .externalReceiver then settings.logicalId? node
          else moment.before.receiver? } node).2)
  | deleted (name : String) (node : DeviceNode) (cause : moment.cause = .event ⟨.deleted, name⟩)
      (candidate : settings.candidate? name = some node)
      (after : moment.after = nodeDeleted settings moment.before node)
  | auxDeleted (name : String) (cause : moment.cause = .event ⟨.deleted, name⟩)
      (aux : Text.startsWith name settings.auxPrefix = true)
      (after : moment.after = Worker.auxDeleted moment.before)

variable {environment settings}

namespace Moment

theorem effect_of_inspect {moment : Moment σ} {name : String} {node : DeviceNode}
    {asked : Observed σ} (hcandidate : settings.candidate? name = some node)
    (hcalls : moment.before.outside.calls <+: asked.calls)
    (hafter : moment.after =
      (inspect environment settings { moment.before with outside := asked } node).2) :
    moment.Effect environment settings := by
  unfold inspect at hafter
  split at hafter
  next => exact .kept (by rw [hafter]) (by rw [hafter])
  next hclass => exact .enrolled name node asked _ .external hcandidate hcalls hclass rfl hafter
  next hclass =>
    exact .enrolled name node asked _ .externalReceiver hcandidate hcalls hclass rfl hafter

theorem calls_pause (worker : Worker σ) (milliseconds : UInt64) :
    worker.outside.calls <+: (pause environment worker milliseconds).outside.calls :=
  extends_call (environment.pause milliseconds) (fun _ => .pause milliseconds) worker.outside

theorem effect_of_auxCreated {moment : Moment σ}
    (hafter : moment.after = (auxCreated environment settings moment.before).2) :
    moment.Effect environment settings := by
  cases hfound : (findReceiver environment settings
      (pause environment moment.before settings.receiverSettleDelay)).1 with
  | none =>
      rw [auxCreated_of_none environment settings moment.before hfound] at hafter
      exact .kept (by rw [hafter]) (by rw [hafter])
  | some node =>
      obtain ⟨_, name, asked, _, _, hcandidate, hcalls, hclass⟩ :=
        classify_of_findReceiver environment settings _ node hfound
      rw [auxCreated_of_some environment settings moment.before node hfound] at hafter
      exact .enrolled name node asked _ .externalReceiver hcandidate
        ((calls_pause moment.before settings.receiverSettleDelay).trans hcalls) hclass rfl hafter

theorem effect {moment : Moment σ} (happens : moment.Happens environment settings) :
    moment.Effect environment settings := by
  cases hcause : moment.cause with
  | call =>
      simp only [Happens, hcause] at happens
      obtain ⟨outside, watching, heq⟩ := happens
      exact .kept (by rw [heq]) (by rw [heq])
  | entry name =>
      simp only [Happens, hcause, scanEntry] at happens
      cases hcandidate : settings.candidate? name with
      | none =>
          simp only [hcandidate] at happens
          exact .kept (by rw [happens]) (by rw [happens])
      | some node =>
          simp only [hcandidate] at happens
          exact effect_of_inspect hcandidate (List.prefix_refl _) happens
  | event event =>
      obtain ⟨change, name⟩ := event
      simp only [Happens, hcause, handleEvent_eq] at happens
      cases hcandidate : settings.candidate? name with
      | some node =>
          simp only [hcandidate] at happens
          cases change with
          | created =>
              exact effect_of_inspect hcandidate (calls_pause moment.before _) happens
          | deleted => exact .deleted name node hcause hcandidate happens
      | none =>
          simp only [hcandidate] at happens
          split_ifs at happens with haux
          · cases change with
            | created => exact effect_of_auxCreated happens
            | deleted => exact .auxDeleted name hcause haux.2 happens
          · exact .kept (by rw [happens]) (by rw [happens])

theorem admits {moment : Moment σ} (happens : moment.Happens environment settings)
    {id : LogicalId} (hnew : id ∉ moment.before.registry.devices)
    (hmem : id ∈ moment.after.registry.devices) :
    ∃ node, settings.StandsFor id node ∧
      Admits environment settings node moment.before.outside moment.after.outside := by
  cases effect happens with
  | kept registry => exact absurd (registry ▸ hmem) hnew
  | enrolled name node asked classified verdict candidate calls classifies external after =>
      rw [after, mem_devices_enroll] at hmem
      obtain ⟨hid, hpasses⟩ := hmem.resolve_left hnew
      refine ⟨node, Settings.standsFor_of_candidate? candidate hid, ?_⟩
      rw [after, enroll_of_passes environment settings _ node hid hpasses]
      obtain ⟨hprobe, device, hbuilt⟩ := hpasses
      obtain ⟨capability, hcapture, hprobed⟩ := calls_of_probeCapture environment node hprobe
      refine ⟨asked, classified, (probeCapture environment node classified).2, verdict,
        capability, device, calls, classifies, external, Prod.ext hprobe rfl, hprobed, hcapture,
        Prod.ext hbuilt rfl, ?_⟩
      have hconstructed : (environment.construct trialVersion node.path
          (probeCapture environment node classified).2.state).1 = .built device := hbuilt
      simp only [Observed.construct, Observed.call_apply, hconstructed, Construction.discard]
      rfl
  | deleted name node cause candidate after =>
      rw [after, mem_devices_nodeDeleted] at hmem
      exact absurd hmem.2 hnew
  | auxDeleted name cause aux after =>
      rw [after, mem_devices_auxDeleted] at hmem
      exact absurd hmem.2 hnew

theorem cause_of_departure {moment : Moment σ} (happens : moment.Happens environment settings)
    {id : LogicalId} (hmem : id ∈ moment.before.registry.devices)
    (hgone : id ∉ moment.after.registry.devices) :
    ∃ name, moment.cause = .event ⟨.deleted, name⟩ ∧
      ((∃ node, settings.candidate? name = some node ∧ settings.logicalId? node = some id) ∨
        (Text.startsWith name settings.auxPrefix = true ∧
          moment.before.receiver? = some id)) := by
  cases effect happens with
  | kept registry => exact absurd (registry ▸ hmem) hgone
  | enrolled name node asked classified verdict candidate calls classifies external after =>
      rw [after, mem_devices_enroll] at hgone
      exact absurd (Or.inl hmem) hgone
  | deleted name node cause candidate after =>
      rw [after, mem_devices_nodeDeleted, not_and_or, ne_eq, not_not] at hgone
      exact ⟨name, cause, Or.inl ⟨node, candidate, hgone.resolve_right (not_not.mpr hmem)⟩⟩
  | auxDeleted name cause aux after =>
      rw [after, mem_devices_auxDeleted, not_and_or, ne_eq, not_not] at hgone
      exact ⟨name, cause, Or.inr ⟨aux, hgone.resolve_right (not_not.mpr hmem)⟩⟩

theorem receiver?_or_remembers {moment : Moment σ} (happens : moment.Happens environment settings)
    {id : LogicalId} (hreceiver : moment.after.receiver? = some id) :
    moment.before.receiver? = some id ∨
      ∃ node, settings.StandsFor id node ∧ moment.Remembers environment settings node := by
  cases effect happens with
  | kept registry receiver => exact Or.inl (receiver ▸ hreceiver)
  | enrolled name node asked classified verdict candidate calls classifies external after =>
      have hafter := congrArg Worker.receiver? after
      rw [receiver?_enroll] at hafter
      dsimp only at hafter
      split_ifs at hafter with hverdict
      · refine Or.inr ⟨node, Settings.standsFor_of_candidate? candidate
          (hafter.symm.trans hreceiver), asked, classified, calls, hverdict ▸ classifies, ?_,
          hafter⟩
        rw [after]
        exact calls_enroll environment settings
          { moment.before with outside := classified, receiver? := _ } node
      · exact Or.inl (hafter.symm.trans hreceiver)
  | deleted name node cause candidate after =>
      rw [after, receiver?_nodeDeleted] at hreceiver
      split_ifs at hreceiver
      exact Or.inl hreceiver
  | auxDeleted name cause aux after =>
      rw [after, receiver?_auxDeleted] at hreceiver
      exact absurd hreceiver (by simp)

end Moment

/-! ### Over a whole history -/

theorem Unfolds.exists_standsFor {start last : Worker σ} {story : List (Moment σ)}
    (hunfolds : Unfolds environment settings start story last) {id : LogicalId}
    (hstart : id ∈ start.registry.devices → ∃ node, settings.StandsFor id node)
    (hmem : id ∈ last.registry.devices) : ∃ node, settings.StandsFor id node := by
  induction hunfolds with
  | nil _ => exact hstart hmem
  | @cons moment rest last happens _ ih =>
      refine ih ?_ hmem
      intro hafter
      by_cases hbefore : id ∈ moment.before.registry.devices
      · exact hstart hbefore
      · obtain ⟨node, hstands, _⟩ := Moment.admits happens hbefore hafter
        exact ⟨node, hstands⟩

/-- A remembered id has been so from the start, or since the moment it was remembered at. -/
theorem Unfolds.remembered {start last : Worker σ} {story : List (Moment σ)}
    (hunfolds : Unfolds environment settings start story last) {id : LogicalId}
    (hreceiver : last.receiver? = some id) :
    (start.receiver? = some id ∧ ∀ moment ∈ story, moment.after.receiver? = some id) ∨
      ∃ node first past between, settings.StandsFor id node ∧
        story = first ++ past :: between ∧ past.Remembers environment settings node ∧
        ∀ moment ∈ between, moment.after.receiver? = some id := by
  induction hunfolds with
  | nil _ => exact Or.inl ⟨hreceiver, by simp⟩
  | @cons moment rest last happens _ ih =>
      rcases ih hreceiver with ⟨hafter, hrest⟩ | ⟨node, first, past, between, hlater⟩
      · rcases Moment.receiver?_or_remembers happens hafter with hbefore | ⟨node, hnode⟩
        · exact Or.inl ⟨hbefore, List.forall_mem_cons.mpr ⟨hafter, hrest⟩⟩
        · exact Or.inr ⟨node, [], moment, rest, hnode.1, rfl, hnode.2, hrest⟩
      · obtain ⟨hstands, rfl, hpast⟩ := hlater
        exact Or.inr ⟨node, moment :: first, past, between, hstands, rfl, hpast⟩

variable (environment settings)

/-- Every change of the registry has its reason, in every history that starts from an empty registry:
what enters was admitted at that very moment, and what leaves does so with a deletion of its own
node, or of an auxiliary entry while it is the remembered receiver. -/
theorem membership_change_justified (state : σ) (subscriber? : Option Subscriber)
    (attachments : Nat) (deliveries : List Delivery) (activities : List Activity) :
    Unfolds environment settings (start state ⟨.empty, subscriber?, attachments, deliveries⟩)
      (history environment settings activities
        (start state ⟨.empty, subscriber?, attachments, deliveries⟩))
      (performAll environment settings activities
        (start state ⟨.empty, subscriber?, attachments, deliveries⟩)) ∧
    ∀ earlier moment later, history environment settings activities
        (start state ⟨.empty, subscriber?, attachments, deliveries⟩) = earlier ++ moment :: later →
      ∀ id, (id ∉ moment.before.registry.devices → id ∈ moment.after.registry.devices →
          ∃ node, settings.StandsFor id node ∧
            Admits environment settings node moment.before.outside moment.after.outside) ∧
        (id ∈ moment.before.registry.devices → id ∉ moment.after.registry.devices →
          ∃ node, settings.StandsFor id node ∧ ∃ name, moment.cause = .event ⟨.deleted, name⟩ ∧
            (name = node.name ∨
              Text.startsWith name settings.auxPrefix = true ∧
              moment.before.receiver? = some id ∧
              ∃ first past between, earlier = first ++ past :: between ∧
                past.Remembers environment settings node ∧
                ∀ other ∈ between, other.after.receiver? = some id)) := by
  have hunfolds := unfolds_history environment settings activities
    (start state ⟨.empty, subscriber?, attachments, deliveries⟩)
  refine ⟨hunfolds, ?_⟩
  intro earlier moment later hstory id
  rw [hstory] at hunfolds
  obtain ⟨middle, hearlier, hmoment⟩ := hunfolds.split
  cases hmoment with
  | cons happens _ =>
      refine ⟨Moment.admits happens, ?_⟩
      intro hmem hgone
      obtain ⟨node, hstands⟩ :=
        hearlier.exists_standsFor (fun hnone => by simp [start] at hnone) hmem
      obtain ⟨name, hcause, hreason⟩ := Moment.cause_of_departure happens hmem hgone
      rcases hreason with ⟨own, hcandidate, hid⟩ | ⟨haux, hreceiver⟩
      · refine ⟨node, hstands, name, hcause, Or.inl ?_⟩
        obtain rfl := hstands.unique (Settings.standsFor_of_candidate? hcandidate hid)
        exact (Settings.name_of_node? (Settings.node?_of_candidate? hcandidate)).symm
      · refine ⟨node, hstands, name, hcause, Or.inr ⟨haux, hreceiver, ?_⟩⟩
        rcases hearlier.remembered hreceiver with ⟨hnone, _⟩ | ⟨other, first, past, between, hpast⟩
        · exact absurd hnone (by simp [start])
        · obtain ⟨hother, hearlier, hremembers, hbetween⟩ := hpast
          obtain rfl := hstands.unique hother
          exact ⟨first, past, between, hearlier, hremembers, hbetween⟩

def receiverHistory : List (Moment Bench) :=
  history (Bench.environment fun _ _ => .built ()) .standard [.scan, .event ⟨.deleted, "cec0"⟩]
    (start ((Bench.ofSettings .standard).addNode "video3" (.capture "mxc_isi.6.capture")) .empty)

theorem length_receiverHistory : receiverHistory.length = 3 := by
  decide +kernel

def receiverMoment (index : Fin 3) : Moment Bench :=
  receiverHistory.get (Fin.cast length_receiverHistory.symm index)

theorem receiver_comes_and_goes :
    ∃ listing arrival departure, receiverHistory = [listing, arrival, departure] ∧
      (∃ node, Settings.standard.StandsFor ⟨3, 4, 103⟩ node ∧
        Admits (Bench.environment fun _ _ => .built ()) .standard node arrival.before.outside
          arrival.after.outside) ∧
      departure.before.receiver? = some ⟨3, 4, 103⟩ ∧
      ∃ node, Settings.standard.StandsFor ⟨3, 4, 103⟩ node ∧
        ∃ name, departure.cause = .event ⟨.deleted, name⟩ ∧
          (name = node.name ∨ Text.startsWith name "cec" = true ∧
            departure.before.receiver? = some ⟨3, 4, 103⟩ ∧
            ∃ first past between, [listing, arrival] = first ++ past :: between ∧
              past.Remembers (Bench.environment fun _ _ => .built ()) .standard node ∧
              ∀ other ∈ between, other.after.receiver? = some ⟨3, 4, 103⟩) := by
  have hjustified := (membership_change_justified (Bench.environment fun _ _ => .built ())
    .standard ((Bench.ofSettings .standard).addNode "video3" (.capture "mxc_isi.6.capture"))
    none 0 [] [.scan, .event ⟨.deleted, "cec0"⟩]).2
  have harrival := (hjustified [receiverMoment 0] (receiverMoment 1) [receiverMoment 2] rfl
    ⟨3, 4, 103⟩).1
    (Ascending.mem_def.not.mpr (by decide +kernel)) (Ascending.mem_def.mpr (by decide +kernel))
  have hdeparture := (hjustified [receiverMoment 0, receiverMoment 1] (receiverMoment 2) [] rfl
    ⟨3, 4, 103⟩).2
    (Ascending.mem_def.mpr (by decide +kernel)) (Ascending.mem_def.not.mpr (by decide +kernel))
  exact ⟨receiverMoment 0, receiverMoment 1, receiverMoment 2, rfl, harrival,
    by decide +kernel, hdeparture⟩

end Worker

end CameraHotplug
