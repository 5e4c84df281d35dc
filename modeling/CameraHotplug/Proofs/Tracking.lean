import CameraHotplug.Proofs.LiveTreatment

/-!
# Keeping track of one node

What a worker holds of a node is right but for what it has yet to learn: the events that are
outstanding, and the entries that the scan still awaits. Each treatment and each change of the
directory keeps it so. The one thing that could go wrong is a late deletion, and that does no harm,
since while the node exists every outstanding deletion of it is followed by its creation.
-/

namespace CameraHotplug

open LiveDirectory

variable {δ : Type} (settings : Settings) (construct : Version → Path → Construction δ)

structure Tracked (strict : Bool) (worker : Worker LiveDirectory) (outstanding : List WatchEvent)
    (awaited : Prop) (node : DeviceNode) (id : LogicalId) : Prop where
  stays : id ∈ worker.registry.devices →
    worker.outside.state.BearsOut settings construct strict node ∨
      ⟨.deleted, node.name⟩ ∈ outstanding
  remembered : worker.receiver? = some id →
    worker.outside.state.Receives settings construct node ∨ ⟨.deleted, node.name⟩ ∈ outstanding
  listed : worker.outside.state.Qualifies settings construct node →
    worker.outside.state.verdict settings construct node = .external →
    id ∈ worker.registry.devices ∨ ⟨.created, node.name⟩ ∈ outstanding ∨ awaited
  ordered : node.name ∈ worker.outside.state.names → ∀ earlier later,
    outstanding = earlier ++ ⟨.deleted, node.name⟩ :: later → ⟨.created, node.name⟩ ∈ later

variable {settings construct}
variable {strict : Bool} {worker after : Worker LiveDirectory}
  {outstanding rest others : List WatchEvent} {event : WatchEvent} {awaited : Prop}
  {node other : DeviceNode} {id : LogicalId}

namespace Tracked

theorem right (htracked : Tracked settings construct strict worker [] False node id) :
    (id ∈ worker.registry.devices →
      worker.outside.state.BearsOut settings construct strict node) ∧
    (worker.receiver? = some id → worker.outside.state.Receives settings construct node) ∧
    (worker.outside.state.Qualifies settings construct node →
      worker.outside.state.verdict settings construct node = .external →
      id ∈ worker.registry.devices) := by
  refine ⟨?_, ?_, ?_⟩
  · intro hmem
    exact (htracked.stays hmem).resolve_right List.not_mem_nil
  · intro hreceiver
    exact (htracked.remembered hreceiver).resolve_right List.not_mem_nil
  · intro hqualifies hexternal
    rcases htracked.listed hqualifies hexternal with hmem | hcreated | hfalse
    · exact hmem
    · exact absurd hcreated List.not_mem_nil
    · exact hfalse.elim

/-! ### Events -/

theorem append (htracked : Tracked settings construct strict worker outstanding awaited node id)
    (hothers : ∀ event ∈ others, event.name ≠ node.name) :
    Tracked settings construct strict worker (outstanding ++ others) awaited node id := by
  refine ⟨?_, ?_, ?_, ?_⟩
  · intro hmem
    exact (htracked.stays hmem).imp_right (List.mem_append_left _)
  · intro hreceiver
    exact (htracked.remembered hreceiver).imp_right (List.mem_append_left _)
  · intro hqualifies hexternal
    exact (htracked.listed hqualifies hexternal).imp_right
      fun hlater => hlater.imp_left (List.mem_append_left _)
  · intro hthere earlier later heq
    -- the deletion stands before the others, so they are the end of what comes after it
    rcases List.append_eq_append_iff.mp heq with ⟨front, _, hback⟩ | ⟨back, hfront, hlater⟩
    · have hmem : (⟨.deleted, node.name⟩ : WatchEvent) ∈ others := by
        rw [hback]
        simp
      exact absurd rfl (hothers _ hmem)
    · cases back with
      | nil =>
          have hmem : (⟨.deleted, node.name⟩ : WatchEvent) ∈ others := by
            rw [List.nil_append] at hlater
            rw [← hlater]
            simp
          exact absurd rfl (hothers _ hmem)
      | cons first back =>
          rw [List.cons_append, List.cons.injEq] at hlater
          rw [← hlater.1] at hfront
          rw [hlater.2]
          exact List.mem_append_left _ (htracked.ordered hthere earlier back hfront)

theorem of_append
    (htracked : Tracked settings construct strict worker (outstanding ++ others) awaited node id)
    (hothers : ∀ event ∈ others, event.name ≠ node.name) :
    Tracked settings construct strict worker outstanding awaited node id := by
  have hfront : ∀ {change : Change}, ⟨change, node.name⟩ ∈ outstanding ++ others →
      ⟨change, node.name⟩ ∈ outstanding := fun hmem =>
    (List.mem_append.mp hmem).resolve_right fun hother => hothers _ hother rfl
  refine ⟨?_, ?_, ?_, ?_⟩
  · intro hmem
    exact (htracked.stays hmem).imp_right hfront
  · intro hreceiver
    exact (htracked.remembered hreceiver).imp_right hfront
  · intro hqualifies hexternal
    exact (htracked.listed hqualifies hexternal).imp_right fun hlater => hlater.imp_left hfront
  · intro hthere earlier later heq
    have hcreated := htracked.ordered hthere earlier (later ++ others) (by rw [heq]; simp)
    exact (List.mem_append.mp hcreated).resolve_right fun hother => hothers _ hother rfl

/-- An event that has been dealt with need no longer be outstanding. -/
theorem tail (htracked : Tracked settings construct strict worker (event :: rest) awaited node id)
    (hdeleted : event ≠ ⟨.deleted, node.name⟩)
    (hcreated : event = ⟨.created, node.name⟩ →
      worker.outside.state.Qualifies settings construct node → id ∈ worker.registry.devices) :
    Tracked settings construct strict worker rest awaited node id := by
  have hrest : (⟨.deleted, node.name⟩ : WatchEvent) ∈ event :: rest →
      ⟨.deleted, node.name⟩ ∈ rest := fun hmem =>
    (List.mem_cons.mp hmem).resolve_left hdeleted.symm
  refine ⟨?_, ?_, ?_, ?_⟩
  · intro hmem
    exact (htracked.stays hmem).imp_right hrest
  · intro hreceiver
    exact (htracked.remembered hreceiver).imp_right hrest
  · intro hqualifies hexternal
    rcases htracked.listed hqualifies hexternal with hmem | hlater | hawaited
    · exact Or.inl hmem
    · rcases List.mem_cons.mp hlater with heq | hmem
      · exact Or.inl (hcreated heq.symm hqualifies)
      · exact Or.inr (Or.inl hmem)
    · exact Or.inr (Or.inr hawaited)
  · intro hthere earlier later heq
    exact htracked.ordered hthere (event :: earlier) later (by rw [heq]; rfl)

/-! ### Treatments -/

theorem moved (htouches : settings.Touches node)
    (htracked : Tracked settings construct strict worker outstanding awaited node id)
    (hregistry : after.registry = worker.registry) (hreceiver : after.receiver? = worker.receiver?)
    (hcontent : after.outside.state.content? node.name =
      worker.outside.state.content? node.name) :
    Tracked settings construct strict after outstanding awaited node id := by
  refine ⟨?_, ?_, ?_, ?_⟩
  · rw [hregistry, bearsOut_congr htouches hcontent]
    exact htracked.stays
  · rw [hreceiver, receives_congr htouches hcontent]
    exact htracked.remembered
  · rw [hregistry, qualifies_congr htouches hcontent, verdict_congr htouches hcontent]
    exact htracked.listed
  · rw [mem_names_congr hcontent]
    exact htracked.ordered

/-- A deletion of the node is the last thing that was to be learnt of what it was. -/
theorem deleted (hid : settings.logicalId? node = some id) (htracked :
      Tracked settings construct strict worker (⟨.deleted, node.name⟩ :: rest) awaited node id) :
    Tracked settings construct strict (Worker.nodeDeleted settings worker node) rest awaited node
      id := by
  refine ⟨?_, ?_, ?_, ?_⟩
  · intro hmem
    rw [Worker.mem_devices_nodeDeleted] at hmem
    exact absurd hid hmem.1
  · intro hreceiver
    rw [Worker.receiver?_nodeDeleted, hid] at hreceiver
    split_ifs at hreceiver with hsame
    exact absurd hreceiver hsame
  · intro hqualifies _
    rw [Worker.outside_nodeDeleted] at hqualifies
    exact Or.inr (Or.inl (htracked.ordered hqualifies.1 [] rest rfl))
  · rw [Worker.outside_nodeDeleted]
    intro hthere earlier later heq
    exact htracked.ordered hthere (⟨.deleted, node.name⟩ :: earlier) later (by rw [heq]; rfl)

/-- A scan may stop awaiting a node that does not exist. -/
theorem narrowed {awaitedNext : Prop}
    (htracked : Tracked settings construct strict worker outstanding awaited node id)
    (henough : node.name ∈ worker.outside.state.names → awaited → awaitedNext) :
    Tracked settings construct strict worker outstanding awaitedNext node id :=
  { htracked with
    listed := by
      intro hqualifies hexternal
      rcases htracked.listed hqualifies hexternal with hmem | hcreated | hawaited
      · exact Or.inl hmem
      · exact Or.inr (Or.inl hcreated)
      · exact Or.inr (Or.inr (henough hqualifies.1 hawaited)) }

theorem treated {awaitedNext : Prop}
    (htracked : Tracked settings construct strict worker outstanding awaited node id)
    (hregistered : worker.outside.state.Qualifies settings construct node →
      id ∈ worker.registry.devices) :
    Tracked settings construct strict worker outstanding awaitedNext node id :=
  { htracked with listed := fun hqualifies _ => Or.inl (hregistered hqualifies) }

section Treatments

variable (htouches : settings.Touches node) (hid : settings.logicalId? node = some id)

include htouches hid

theorem eq_of_logicalId? (hother : settings.Touches other)
    (hsame : settings.logicalId? other = some id) : other = node :=
  (hother.standsFor hsame).unique (htouches.standsFor hid)

theorem enrolled (htracked : Tracked settings construct strict worker outstanding awaited node id)
    (hother : settings.Touches other)
    (henrolls : Worker.Enrolls settings construct other worker after) :
    Tracked settings construct strict after outstanding awaited node id := by
  refine ⟨?_, ?_, ?_, ?_⟩
  · intro hmem
    rw [henrolls.state]
    rcases (henrolls.devices id).mp hmem with hbefore | ⟨hsame, hqualifies⟩
    · exact htracked.stays hbefore
    · obtain rfl := eq_of_logicalId? htouches hid hother hsame
      exact Or.inl ⟨hqualifies.1, fun _ => hqualifies⟩
  · intro hreceiver
    rw [henrolls.state]
    by_cases hreceives : worker.outside.state.Receives settings construct other
    · rw [henrolls.remembered hreceives] at hreceiver
      obtain rfl := eq_of_logicalId? htouches hid hother hreceiver
      exact Or.inl hreceives
    · rw [henrolls.kept hreceives] at hreceiver
      exact htracked.remembered hreceiver
  · intro hqualifies hexternal
    rw [henrolls.state] at hqualifies hexternal
    exact (htracked.listed hqualifies hexternal).imp_left
      fun hmem => (henrolls.devices id).mpr (Or.inl hmem)
  · rw [henrolls.state]
    exact htracked.ordered

theorem deleted_of_ne
    (htracked : Tracked settings construct strict worker outstanding awaited node id)
    (hother : settings.Touches other) (hne : other ≠ node) :
    Tracked settings construct strict (Worker.nodeDeleted settings worker other) outstanding awaited
      node id := by
  have hforeign : settings.logicalId? other ≠ some id :=
    fun hsame => hne (eq_of_logicalId? htouches hid hother hsame)
  refine ⟨?_, ?_, ?_, ?_⟩
  · intro hmem
    rw [Worker.outside_nodeDeleted]
    exact htracked.stays ((Worker.mem_devices_nodeDeleted settings worker other).mp hmem).2
  · intro hreceiver
    rw [Worker.outside_nodeDeleted]
    rw [Worker.receiver?_nodeDeleted] at hreceiver
    split_ifs at hreceiver
    exact htracked.remembered hreceiver
  · intro hqualifies hexternal
    rw [Worker.outside_nodeDeleted] at hqualifies hexternal
    exact (htracked.listed hqualifies hexternal).imp_left
      fun hmem => (Worker.mem_devices_nodeDeleted settings worker other).mpr ⟨hforeign, hmem⟩
  · rw [Worker.outside_nodeDeleted]
    exact htracked.ordered

end Treatments

/-- An auxiliary entry takes the remembered receiver along. Should that have become an ordinary
camera, then its deletion is outstanding, and so is its creation. -/
theorem auxDeleted
    (htracked : Tracked settings construct strict worker outstanding awaited node id) :
    Tracked settings construct strict (Worker.auxDeleted worker) outstanding awaited node id := by
  refine ⟨?_, ?_, ?_, ?_⟩
  · intro hmem
    rw [Worker.outside_auxDeleted]
    exact htracked.stays ((Worker.mem_devices_auxDeleted worker).mp hmem).2
  · intro hreceiver
    rw [Worker.receiver?_auxDeleted] at hreceiver
    exact absurd hreceiver (by simp)
  · intro hqualifies hexternal
    rw [Worker.outside_auxDeleted] at hqualifies hexternal
    rw [Worker.mem_devices_auxDeleted]
    by_cases hreceiver : worker.receiver? = some id
    · rcases htracked.remembered hreceiver with hreceives | hdeleted
      · exact absurd (hexternal.symm.trans hreceives.2) (by decide)
      · obtain ⟨earlier, later, heq⟩ := List.append_of_mem hdeleted
        have hcreated := htracked.ordered hqualifies.1 earlier later heq
        exact Or.inr (Or.inl (heq ▸ List.mem_append_right _ (List.mem_cons_of_mem _ hcreated)))
    · exact (htracked.listed hqualifies hexternal).imp_left fun hmem => ⟨hreceiver, hmem⟩
  · rw [Worker.outside_auxDeleted]
    exact htracked.ordered

theorem handled (htouches : settings.Touches node) (hid : settings.logicalId? node = some id)
    (htracked : Tracked settings construct strict worker (event :: rest) awaited node id)
    (hhandled : Worker.Handled settings construct event worker after) :
    Tracked settings construct strict after rest awaited node id := by
  -- an event that names no candidate is not about the node
  have hforeign : settings.candidate? event.name = none →
      ∀ change, event ≠ ⟨change, node.name⟩ := by
    rintro hnone change rfl
    exact absurd (hnone.symm.trans htouches.candidate) (by simp)
  cases hhandled with
  | created other hother own enrolls =>
      subst own
      refine (htracked.enrolled htouches hid hother enrolls).tail (by simp) ?_
      intro heq hqualifies
      obtain rfl : other = node := hother.eq_of_name_eq htouches (congrArg WatchEvent.name heq)
      rw [enrolls.state] at hqualifies
      exact (enrolls.devices id).mpr (Or.inr ⟨hid, hqualifies⟩)
  | deleted other hother own hafter =>
      subst own hafter
      by_cases hsame : other = node
      · subst hsame
        exact htracked.deleted hid
      · exact (htracked.deleted_of_ne htouches hid hother hsame).tail
          (fun heq => hsame (hother.eq_of_name_eq htouches (congrArg WatchEvent.name heq)))
          (by simp)
  | signalled other hother hnone _ enrolls =>
      exact (htracked.enrolled htouches hid hother enrolls).tail (hforeign hnone _)
        fun heq => absurd heq (hforeign hnone _)
  | auxDeleted hnone hafter =>
      subst hafter
      exact htracked.auxDeleted.tail (hforeign hnone _) fun heq => absurd heq (hforeign hnone _)
  | ignored hnone keeps =>
      exact (htracked.moved htouches keeps.registry keeps.receiver (by rw [keeps.state])).tail
        (hforeign hnone _) fun heq => absurd heq (hforeign hnone _)

/-! ### Changes of the directory -/

/-- Before the scan comes to the node there is nothing to be wrong about. -/
theorem of_awaited (hawaited : awaited) (habsent : id ∉ worker.registry.devices)
    (hforgotten : worker.receiver? ≠ some id)
    (houtstanding : ∀ event ∈ outstanding, event.name ≠ node.name) :
    Tracked settings construct strict worker outstanding awaited node id := by
  refine ⟨?_, ?_, ?_, ?_⟩
  · intro hmem
    exact absurd hmem habsent
  · intro hreceiver
    exact absurd hreceiver hforgotten
  · intro _ _
    exact Or.inr (Or.inr hawaited)
  · rintro _ earlier later rfl
    exact absurd rfl (houtstanding ⟨.deleted, node.name⟩ (by simp))

theorem arrived (htracked : Tracked settings construct strict worker outstanding awaited node id)
    (hfresh : node.name ∉ worker.outside.state.names)
    (hregistry : after.registry = worker.registry)
    (hreceiver : after.receiver? = worker.receiver?) :
    Tracked settings construct strict after (outstanding ++ [⟨.created, node.name⟩]) awaited node
      id := by
  refine ⟨?_, ?_, ?_, ?_⟩
  · intro hmem
    rw [hregistry] at hmem
    rcases htracked.stays hmem with hbears | hdeleted
    · exact absurd hbears.1 hfresh
    · exact Or.inr (List.mem_append_left _ hdeleted)
  · intro hremembered
    rw [hreceiver] at hremembered
    rcases htracked.remembered hremembered with hreceives | hdeleted
    · exact absurd hreceives.1 hfresh
    · exact Or.inr (List.mem_append_left _ hdeleted)
  · intro _ _
    exact Or.inr (Or.inl (by simp))
  · intro _ earlier later heq
    rcases List.eq_nil_or_concat later with rfl | ⟨front, last, rfl⟩
    · have hlast := (List.append_inj' heq rfl).2
      simp at hlast
    · rw [List.concat_eq_append] at heq ⊢
      rw [← List.cons_append, ← List.append_assoc] at heq
      have hlast := (List.append_inj' heq rfl).2
      rw [← hlast]
      exact List.mem_append_right _ List.mem_cons_self

/-- An arrival that is told makes up for what was missed before, but not for a receiver that should
have been forgotten, nor does it undo the presence of a node that does not qualify any more. -/
theorem arrived_anew (hlenient : strict = false) (hthere : node.name ∈ worker.outside.state.names)
    (hforgotten : worker.receiver? ≠ some id)
    (houtstanding : ∀ event ∈ outstanding, event.name ≠ node.name) :
    Tracked settings construct strict worker (outstanding ++ [⟨.created, node.name⟩]) awaited
      node id := by
  refine ⟨fun _ => Or.inl ⟨hthere, ?_⟩, fun hreceiver => absurd hreceiver hforgotten,
    fun _ _ => Or.inr (Or.inl (by simp)), ?_⟩
  · intro hstrict
    exact absurd (hlenient.symm.trans hstrict) (by simp)
  · intro _ earlier later heq
    have hmem : (⟨.deleted, node.name⟩ : WatchEvent) ∈ outstanding ++ [⟨.created, node.name⟩] := by
      rw [heq]
      simp
    rcases List.mem_append.mp hmem with hbefore | hlast
    · exact absurd rfl (houtstanding _ hbefore)
    · simp at hlast

theorem departed (hgone : node.name ∉ worker.outside.state.names) :
    Tracked settings construct strict worker (outstanding ++ [⟨.deleted, node.name⟩]) awaited node
      id := by
  have hdeleted : (⟨.deleted, node.name⟩ : WatchEvent) ∈ outstanding ++ [⟨.deleted, node.name⟩] := by
    simp
  refine ⟨?_, ?_, ?_, ?_⟩
  · intro _
    exact Or.inr hdeleted
  · intro _
    exact Or.inr hdeleted
  · intro hqualifies
    exact absurd hqualifies.1 hgone
  · intro hthere
    exact absurd hthere hgone

end Tracked

end CameraHotplug
