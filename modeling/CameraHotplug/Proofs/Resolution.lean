import CameraHotplug.Bench
import CameraHotplug.Proofs.Membership
import CameraHotplug.Proofs.Requests

/-!
# What a name resolves to

An id that is present entered the registry at one step of the run, when its node had just been
classified, probed and constructed for trial, and it has been there since. Resolving its text
constructs the device of that very node and does nothing else. No other name leads to a
construction, and the error tells apart what is no id, what is not there and what could not be
constructed.
-/

namespace CameraHotplug

theorem Construction.discard_eq_failed_iff {δ : Type} {made : Construction δ} {error : Error} :
    made.discard = .failed error ↔ made = .failed error := by
  cases made <;> simp [discard]

namespace Provider

variable {σ ν δ : Type} (environment : Environment σ ν δ)

/-! ### Since when an id is present -/

/-- The id entered the registry at a step that admitted the node, and has not left it since. -/
def HasRecorded (started : Provider σ) (moves : List (Move σ)) (id : LogicalId)
    (node : DeviceNode) : Prop :=
  ∃ earlier later, moves = earlier ++ .step :: later ∧
    id ∉ (started.play environment earlier).registry.devices ∧
    Worker.Admits environment started.settings node
      (started.play environment earlier).worker.outside
      (started.play environment (earlier ++ [.step])).worker.outside ∧
    ∀ between, between <+: later →
      id ∈ (started.play environment (earlier ++ .step :: between)).registry.devices

variable {environment} {started : Provider σ} {moves : List (Move σ)} {id : LogicalId}
  {node : DeviceNode}

theorem HasRecorded.concat (hrecorded : HasRecorded environment started moves id node)
    {move : Move σ}
    (hmem : id ∈ (started.play environment (moves ++ [move])).registry.devices) :
    HasRecorded environment started (moves ++ [move]) id node := by
  obtain ⟨earlier, later, rfl, hnew, hadmits, hsince⟩ := hrecorded
  rw [List.append_assoc, List.cons_append] at hmem
  refine ⟨earlier, later ++ [move], by simp, hnew, hadmits, ?_⟩
  intro between hbetween
  rcases List.prefix_concat_iff.mp hbetween with rfl | hbetween
  · exact hmem
  · exact hsince between hbetween

/-- Only a step brings an id in, and then it admits the node of the id. -/
theorem hasRecorded_of_arrival (hnew : id ∉ (started.play environment moves).registry.devices)
    {move : Move σ}
    (hmem : id ∈ (started.play environment (moves ++ [move])).registry.devices) :
    ∃ node, started.settings.StandsFor id node ∧
      HasRecorded environment started (moves ++ [move]) id node := by
  -- no request brings an id in
  have hstep : move = .step := by
    by_contra hother
    rw [play_concat, devices_after_of_ne_step _ _ hother] at hmem
    exact hnew hmem
  subst hstep
  obtain ⟨cause, happens⟩ := Worker.Works.happens environment
    (started.play environment moves).settings
    (Run.step_works environment _ (started.play environment moves).handle.run)
  have hafter := hmem
  rw [play_concat] at hafter
  obtain ⟨node, hstands, hadmits⟩ := Worker.Moment.admits happens hnew hafter
  refine ⟨node, settings_play environment started moves ▸ hstands, moves, [], rfl, hnew, ?_, ?_⟩
  · rw [play_concat, ← settings_play environment started moves]
    exact hadmits
  · intro between hbetween
    rw [List.prefix_nil.mp hbetween]
    exact hmem

theorem registry_of_start {settings : Settings} {state : σ} {started : Provider σ}
    (hstarted : start settings state = .ok started) : started.registry = .empty := by
  unfold start at hstarted
  cases hchecked : Settings.orError settings.normalize with
  | error error => simp [hchecked, Except.map] at hstarted
  | ok normalized =>
      rw [hchecked] at hstarted
      obtain rfl := Except.ok.inj hstarted
      rfl

theorem exists_hasRecorded {settings : Settings} {state : σ}
    (hstarted : start settings state = .ok started)
    (hmem : id ∈ (started.play environment moves).registry.devices) :
    ∃ node, (started.play environment moves).settings.StandsFor id node ∧
      HasRecorded environment started moves id node := by
  rw [settings_play]
  induction moves using List.reverseRecOn with
  | nil =>
      change id ∈ started.registry.devices at hmem
      rw [registry_of_start hstarted] at hmem
      exact absurd hmem (Ascending.not_mem_empty id)
  | append_singleton moves move ih =>
      by_cases hbefore : id ∈ (started.play environment moves).registry.devices
      · obtain ⟨node, hstands, hrecorded⟩ := ih hbefore
        exact ⟨node, hstands, hrecorded.concat hmem⟩
      · exact hasRecorded_of_arrival hbefore hmem

/-! ### What resolving a name comes to -/

section Resolving

variable {provider : Provider σ} {path : Path} {made : Construction δ}

/-- A name is refused as it stands, or it leads to the one device that it stands for. -/
theorem resolve_cases
    (hstand : ∀ id ∈ provider.registry.devices, ∃ node, provider.settings.StandsFor id node)
    (name : String) :
    ((∀ id ∈ provider.registry.devices, name ≠ id.text) ∧ ∃ error,
      error.status = .illegalArgument ∧
      provider.resolve environment name = (.failed error, provider)) ∨
    ∃ id node, name = LogicalId.text id ∧ id ∈ provider.registry.devices ∧
      provider.settings.StandsFor id node ∧
      provider.settings.nodePath? id = some node.path ∧
      provider.resolve environment name =
        (handedOver node.path (Observed.construct environment provider.version node.path
            provider.worker.outside).1,
          provider.withOutside (Observed.construct environment provider.version node.path
            provider.worker.outside).2) := by
  by_cases hname : ∃ id : LogicalId, name = id.text
  · obtain ⟨id, rfl⟩ := hname
    by_cases hpresent : id ∈ provider.registry.devices
    · obtain ⟨node, hstands⟩ := hstand id hpresent
      have hpath := Settings.nodePath?_of_logicalId? (Settings.node?_of_candidate? hstands.1)
        hstands.2
      exact Or.inr ⟨id, node, rfl, hpresent, hstands, hpath, resolve_of_ok environment provider
        (provider.locate_eq_ok_iff.mpr ⟨id, hpresent, rfl, hpath⟩)⟩
    · refine Or.inl ⟨?_, _, rfl,
        resolve_of_error environment provider (provider.locate_of_not_mem hpresent)⟩
      intro other hother htext
      exact hpresent (LogicalId.text_injective htext ▸ hother)
  · exact Or.inl ⟨fun id _ htext => hname ⟨id, htext⟩, _, rfl,
      resolve_of_error environment provider (provider.locate_of_ne (not_exists.mp hname))⟩

theorem exists_deviceInit_of_handedOver {error : Error}
    (hfailed : handedOver path made = .failed error) :
    ∃ device reason, error = .deviceInit device reason := by
  cases made with
  | built device => exact absurd hfailed (by simp [handedOver])
  | panicked => exact absurd hfailed (by simp [handedOver])
  | failed cause =>
      obtain rfl := Construction.failed.inj hfailed
      cases cause with
      | deviceInit device reason => exact ⟨device, reason, rfl⟩
      | _ => exact ⟨path, _, rfl⟩

theorem handedOver_status_iff (status : Status) :
    (∃ error, handedOver path made = .failed error ∧ error.status = status) ↔
      status = .internalError ∧ ∃ cause, made = .failed cause := by
  constructor
  · rintro ⟨error, hfailed, rfl⟩
    obtain ⟨device, reason, rfl⟩ := exists_deviceInit_of_handedOver hfailed
    refine ⟨rfl, ?_⟩
    cases made with
    | built device => exact absurd hfailed (by simp [handedOver])
    | panicked => exact absurd hfailed (by simp [handedOver])
    | failed cause => exact ⟨cause, rfl⟩
  · rintro ⟨rfl, cause, rfl⟩
    obtain ⟨device, reason, hinit⟩ := exists_deviceInit_of_handedOver
      (rfl : handedOver path (.failed cause : Construction δ) = .failed _)
    exact ⟨_, rfl, by rw [hinit]; rfl⟩

end Resolving

/-- In every state that a started provider can come to, resolving a name constructs a device if and
only if the name is the text of an id that is present. Then it does so once, in the version of the
settings, for the node that was classified, probed and constructed when the id entered the registry.
The error tells why there is no device, and nothing changes but the record of calls. -/
theorem resolve_exact (environment : Environment σ ν δ) {settings : Settings} {state : σ}
    {started : Provider σ} (hstarted : start settings state = .ok started) (moves : List (Move σ))
    (name : String) :
    let provider := started.play environment moves
    let resolved := provider.resolve environment name
    ∃ outside asked,
      resolved.2 = provider.withOutside outside ∧
      outside.calls = provider.worker.outside.calls ++ asked ∧
      (asked = [] → resolved.2 = provider) ∧
      (asked ≠ [] ↔ ∃ id ∈ provider.registry.devices, name = id.text) ∧
      (∀ id ∈ provider.registry.devices, name = id.text → ∃ node made,
        provider.settings.StandsFor id node ∧
        (∀ entry other, provider.settings.node? entry = some other →
          provider.settings.logicalId? other = some id → other = node) ∧
        HasRecorded environment started moves id node ∧
        provider.settings.nodePath? id = some node.path ∧
        environment.construct provider.version node.path provider.worker.outside.state =
          (made, outside.state) ∧
        asked = [.construct provider.version node.path made.discard] ∧
        resolved.1 = handedOver node.path made ∧
        ∀ error, resolved.1 = .failed error →
          ∃ device reason, error = .deviceInit device reason) ∧
      ((∀ id : LogicalId, name ≠ id.text) → resolved.1 = .failed (.invalidDeviceName name)) ∧
      (∀ id : LogicalId, name = id.text → id ∉ provider.registry.devices →
        resolved.1 = .failed (.deviceNotPresent name)) ∧
      ((∃ error, resolved.1 = .failed error ∧ error.status = .illegalArgument) ↔ asked = []) ∧
      ((∃ error, resolved.1 = .failed error ∧ error.status = .internalError) ↔
        ∃ path cause, asked = [.construct provider.version path (.failed cause)]) := by
  intro provider resolved
  have hrecorded : ∀ id ∈ provider.registry.devices, ∃ node,
      provider.settings.StandsFor id node ∧ HasRecorded environment started moves id node :=
    fun _ => exists_hasRecorded hstarted
  have hinvalid : (∀ id : LogicalId, name ≠ id.text) →
      resolved.1 = .failed (.invalidDeviceName name) := by
    intro hname
    exact congrArg Prod.fst (resolve_of_error environment provider (provider.locate_of_ne hname))
  have habsent : ∀ id : LogicalId, name = id.text → id ∉ provider.registry.devices →
      resolved.1 = .failed (.deviceNotPresent name) := by
    rintro id rfl hmem
    exact congrArg Prod.fst
      (resolve_of_error environment provider (provider.locate_of_not_mem hmem))
  -- a refused name leaves no call behind, and a name that leads to a node leaves exactly one
  rcases resolve_cases (fun id hmem => (hrecorded id hmem).imp fun _ => And.left) name with
    ⟨hother, error, hstatus, hresolve⟩ | ⟨id, node, rfl, hpresent, hstands, hpath, hresolve⟩
  · refine ⟨provider.worker.outside, [], ?_, (List.append_nil _).symm, ?_, ?_, ?_, hinvalid,
      habsent, ?_, ?_⟩
    · exact congrArg Prod.snd hresolve
    · intro _
      exact congrArg Prod.snd hresolve
    · simpa using hother
    · intro id hmem hname
      exact absurd hname (hother id hmem)
    · simp [resolved, hresolve, hstatus]
    · simp [resolved, hresolve, hstatus]
  · have hmade : resolved.1 = handedOver node.path (environment.construct provider.version
        node.path provider.worker.outside.state).1 := congrArg Prod.fst hresolve
    refine ⟨_, [.construct provider.version node.path _], congrArg Prod.snd hresolve, rfl, ?_, ?_,
      ?_, hinvalid, habsent, ?_, ?_⟩
    · intro hnone
      exact absurd hnone (List.cons_ne_nil _ _)
    · simp only [ne_eq, List.cons_ne_nil, not_false_eq_true, true_iff]
      exact ⟨id, hpresent, rfl⟩
    · intro other _ htext
      obtain rfl := LogicalId.text_injective htext
      obtain ⟨recorded, hown, hrecord⟩ := hrecorded id hpresent
      obtain rfl := hstands.unique hown
      exact ⟨node, _, hstands, fun _ _ => hstands.eq_of_node?, hrecord, hpath, rfl, rfl, hmade,
        fun error hfailed => exists_deviceInit_of_handedOver (hmade.symm.trans hfailed)⟩
    · rw [hmade, handedOver_status_iff]
      simp
    · rw [hmade, handedOver_status_iff]
      simp [Construction.discard_eq_failed_iff]

def shiftedSettings : Settings :=
  { Settings.standard with versionMinor := 5, idOffset := 2 }

def shiftedBench : Bench :=
  (Bench.ofSettings shiftedSettings).addNode "video5" .uvcCamera

def shiftedProvider : Provider Bench :=
  play (Bench.environment fun _ _ => .built ()) ⟨shiftedSettings, ⟨Run.start shiftedBench, false⟩⟩
    [.step, .step, .step]

theorem shifted_camera_resolves :
    ∃ outside, shiftedProvider.resolve (Bench.environment fun _ _ => .built ())
        (LogicalId.mk 3 5 7).text = (.built (), shiftedProvider.withOutside outside) ∧
      outside.calls = shiftedProvider.worker.outside.calls ++
        [.construct .v3_5 ⟨"/dev/video5"⟩ (.built ())] := by
  have hstarted : start shiftedSettings shiftedBench =
      .ok ⟨shiftedSettings, ⟨Run.start shiftedBench, false⟩⟩ := rfl
  have hpresent : ⟨3, 5, 7⟩ ∈ shiftedProvider.registry.devices :=
    Ascending.mem_def.mpr (by decide +kernel)
  have hexact := resolve_exact (Bench.environment fun _ _ => .built ()) hstarted
    [.step, .step, .step] (LogicalId.mk 3 5 7).text
  dsimp only at hexact
  rw [← shiftedProvider] at hexact
  obtain ⟨outside, asked, hunchanged, hcalls, _, _, hid, _⟩ := hexact
  obtain ⟨node, made, _, _, _, hpath, hmade, rfl, hanswer, _⟩ := hid ⟨3, 5, 7⟩ hpresent rfl
  have hsettings : shiftedProvider.settings = shiftedSettings := settings_play _ _ _
  have hversion : shiftedProvider.version = .v3_5 := by
    rw [version, hsettings]
    decide
  have hown : shiftedSettings.nodePath? ⟨3, 5, 7⟩ = some ⟨"/dev/video5"⟩ := by decide
  rw [hsettings, hown, Option.some.injEq] at hpath
  obtain rfl : .built () = made := (Prod.mk.inj hmade).1
  rw [hversion, ← hpath] at hcalls
  exact ⟨outside, Prod.ext hanswer hunchanged, hcalls⟩

end Provider

end CameraHotplug
