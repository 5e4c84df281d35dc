import CameraHotplug.Proofs.Consistency

/-!
# What is missed while no watch is open

A watch that is opened again tells only of later changes, and the directory is not read again. So
what changed in between goes unnoticed until the node changes once more: the registry is right about
every node whose changes were not missed, and of the others it holds what it held before.
-/

namespace CameraHotplug

open LiveDirectory

variable {δ : Type} (settings : Settings) (construct : Version → Path → Construction δ)

def Turn.Changes (name : String) : Turn → Prop
  | .outside (.arrival _ other _) | .outside (.departure other) => other = name
  | _ => False

instance (name : String) : (turn : Turn) → Decidable (turn.Changes name)
  | .outside (.arrival _ other _) | .outside (.departure other) =>
    inferInstanceAs (Decidable (other = name))
  | .outside (.signal _) | .outside (.loss _) | .outside (.refusal _) | .discovery | .stop =>
    inferInstanceAs (Decidable False)

namespace Run

/-- From here on the node is no receiver, and changes only while no watch is open. -/
def Overlooks (node : DeviceNode) : List Turn → Run LiveDirectory → Prop
  | [], _ => True
  | turn :: turns, run =>
    ¬ run.world.Receives settings construct node ∧
      (turn.Changes node.name → run.world.queue.isOpen = false) ∧
      Overlooks node turns (run.after settings construct turn)

instance decidableOverlooks (node : DeviceNode) : (turns : List Turn) →
    (run : Run LiveDirectory) → Decidable (run.Overlooks settings construct node turns)
  | [], _ => inferInstanceAs (Decidable True)
  | turn :: turns, run =>
    have := decidableOverlooks node turns (run.after settings construct turn)
    inferInstanceAs (Decidable (_ ∧ (_ → _) ∧ _))

/-- Nothing that is to come concerns the node: the scan is not coming to it, no event of it is
outstanding, and it is not remembered as the receiver. -/
structure IsBlindTo (run : Run LiveDirectory) (node : DeviceNode) (id : LogicalId) : Prop where
  awaits : run.awaits node.name = false
  outstanding : ∀ event ∈ run.outstanding, event.name ≠ node.name
  receiver : run.worker.receiver? ≠ some id

end Run

variable {settings construct} {node : DeviceNode} {id : LogicalId}

namespace Worker

variable {before after : Worker LiveDirectory}

theorem Scanned.of_ne {name : String} (hscanned : Scanned settings construct name before after)
    (hstands : settings.StandsFor id node) (hname : name ≠ node.name) :
    (id ∈ after.registry.devices ↔ id ∈ before.registry.devices) ∧
      (before.receiver? ≠ some id → after.receiver? ≠ some id) := by
  cases hscanned with
  | passed hother keeps =>
      rw [keeps.registry, keeps.receiver]
      exact ⟨Iff.rfl, fun hforgotten => hforgotten⟩
  | treated other hother hown enrolls =>
      refine enrolls.of_ne fun hid => hname ?_
      rw [← hown, (hother.standsFor hid).unique hstands]

theorem Handled.of_ne {event : WatchEvent}
    (hhandled : Handled settings construct event before after)
    (hstands : settings.StandsFor id node) (hname : event.name ≠ node.name)
    (hreceives : ¬ before.outside.state.Receives settings construct node)
    (hforgotten : before.receiver? ≠ some id) :
    (id ∈ after.registry.devices ↔ id ∈ before.registry.devices) ∧ after.receiver? ≠ some id := by
  cases hhandled with
  | created other hother hown enrolls =>
      have hforeign : settings.logicalId? other ≠ some id := by
        intro hid
        rw [hown, (hother.standsFor hid).unique hstands] at hname
        exact hname rfl
      exact (enrolls.of_ne hforeign).imp_right fun hkept => hkept hforgotten
  | signalled other hother _ hothers enrolls =>
      have hforeign : settings.logicalId? other ≠ some id := by
        intro hid
        rw [(hother.standsFor hid).unique hstands] at hothers
        exact hreceives hothers
      exact (enrolls.of_ne hforeign).imp_right fun hkept => hkept hforgotten
  | deleted other hother hown hafter =>
      have hforeign : settings.logicalId? other ≠ some id := by
        intro hid
        rw [hown, (hother.standsFor hid).unique hstands] at hname
        exact hname rfl
      rw [hafter, mem_devices_nodeDeleted, receiver?_nodeDeleted]
      refine ⟨and_iff_right hforeign, ?_⟩
      split_ifs
      · simp
      · exact hforgotten
  | auxDeleted _ hafter =>
      rw [hafter, mem_devices_auxDeleted, receiver?_auxDeleted]
      exact ⟨and_iff_right hforgotten, by simp⟩
  | ignored _ keeps =>
      rw [keeps.registry, keeps.receiver]
      exact ⟨Iff.rfl, hforgotten⟩

end Worker

namespace Run

variable {run next : Run LiveDirectory}

theorem IsBlindTo.advanced (hblind : run.IsBlindTo node id)
    (hadvances : Advances settings construct run next) (hstands : settings.StandsFor id node)
    (hreceives : ¬ run.world.Receives settings construct node) :
    next.IsBlindTo node id ∧
      (id ∈ next.worker.registry.devices ↔ id ∈ run.worker.registry.devices) := by
  cases hadvances with
  | idles idles =>
      refine ⟨⟨?_, ?_, ?_⟩, by rw [idles.registry]⟩
      · rw [← Bool.not_eq_true]
        intro hawaits
        exact absurd ((idles.fewer node.name hawaits).symm.trans hblind.awaits) (by simp)
      · rw [idles.outstanding]
        exact hblind.outstanding
      · rw [idles.receiver]
        exact hblind.receiver
  | ends finished world registry receiver =>
      obtain ⟨hawaits, hhandling⟩ := of_isFinished node.name finished
      refine ⟨⟨hawaits, ?_, ?_⟩, by rw [registry]⟩
      · rw [Run.outstanding, hhandling, List.nil_append, world]
        exact fun event hmem => hblind.outstanding event (List.mem_append_right _ hmem)
      · rw [receiver]
        exact hblind.receiver
  | scans name names listed scanned phase =>
      have hbefore := hblind.awaits
      simp only [Run.awaits, listed, decide_eq_false_iff_not, List.mem_cons, not_or] at hbefore
      obtain ⟨hsame, hforgotten⟩ := scanned.of_ne hstands (Ne.symm hbefore.1)
      refine ⟨⟨?_, ?_, hforgotten hblind.receiver⟩, hsame⟩
      · rcases phase with hphase | hphase
        · simp only [Run.awaits, hphase, decide_eq_false_iff_not]
          exact hbefore.2
        · simp only [Run.awaits, hphase]
      · rw [outstanding_of_scans listed phase scanned.state]
        exact hblind.outstanding
  | handles event events taken handled phase =>
      have htaken : event ∈ run.outstanding := by simp [Run.outstanding, handling, taken]
      obtain ⟨hsame, hforgotten⟩ :=
        handled.of_ne hstands (hblind.outstanding event htaken) hreceives hblind.receiver
      refine ⟨⟨?_, fun other hmem => hblind.outstanding other ?_, hforgotten⟩, hsame⟩
      · rcases phase with hphase | hphase
        · simp only [Run.awaits, hphase]
        · simp only [Run.awaits, hphase]
      · have hworld : next.world = run.world := handled.state
        rcases phase with hphase | hphase
        · rw [outstanding_of_handles taken hphase hworld]
          exact List.mem_cons_of_mem _ hmem
        · simp only [Run.outstanding, handling, hphase, hworld, List.nil_append] at hmem
          exact List.mem_append_right _ hmem

/-! ### What happens outside -/

theorem IsBlindTo.tell {world : LiveDirectory} {event : WatchEvent}
    (hblind : run.IsBlindTo node id) (hqueue : world.queue = run.world.queue)
    (hforeign : run.world.queue.isOpen = true → event.name ≠ node.name) :
    (run.setWorld (world.tell event)).IsBlindTo node id := by
  refine ⟨hblind.awaits, ?_, hblind.receiver⟩
  rw [outstanding_tell hqueue]
  split_ifs with hopen
  · intro other hmem
    rcases List.mem_append.mp hmem with hbefore | hlast
    · exact hblind.outstanding other hbefore
    · exact List.mem_singleton.mp hlast ▸ hforeign hopen
  · exact hblind.outstanding

theorem IsBlindTo.happened (hblind : run.IsBlindTo node id) (hstands : settings.StandsFor id node)
    {happening : Happening}
    (hclosed : (Turn.outside happening).Changes node.name → run.world.queue.isOpen = false) :
    (run.after settings construct (.outside happening)).IsBlindTo node id := by
  have hforeign : ∀ {name : String},
      ((Turn.outside happening).Changes node.name ↔ name = node.name) →
      run.world.queue.isOpen = true → name ≠ node.name := by
    intro name hchanges hopen hname
    exact absurd (hopen.symm.trans (hclosed (hchanges.mpr hname))) (by simp)
  simp only [after, happen]
  cases happening with
  | arrival position name content =>
      dsimp only
      split_ifs
      · exact hblind.tell rfl (hforeign Iff.rfl)
      · exact hblind
  | departure name =>
      dsimp only
      split_ifs
      · exact hblind.tell rfl (hforeign Iff.rfl)
      · exact hblind
  | signal event =>
      dsimp only
      split_ifs with hallowed
      · refine hblind.tell rfl ?_
        intro _ hname
        have hcandidate := hstands.1
        rw [← hname, hallowed.2] at hcandidate
        exact absurd hcandidate (by simp)
      · exact hblind
  | loss kept =>
      refine ⟨hblind.awaits, fun event hmem => hblind.outstanding event ?_, hblind.receiver⟩
      rcases List.mem_append.mp hmem with htaken | hwaiting
      · exact List.mem_append_left _ htaken
      · exact List.mem_append_right _ (List.mem_of_mem_take hwaiting)
  | refusal cause? => exact ⟨hblind.awaits, hblind.outstanding, hblind.receiver⟩

theorem IsBlindTo.after (hblind : run.IsBlindTo node id) (horderly : run.Orderly)
    (hstands : settings.StandsFor id node) {turn : Turn}
    (hreceives : ¬ run.world.Receives settings construct node)
    (hclosed : turn.Changes node.name → run.world.queue.isOpen = false) :
    (run.after settings construct turn).IsBlindTo node id ∧
      (id ∈ (run.after settings construct turn).worker.registry.devices ↔
        id ∈ run.worker.registry.devices) := by
  cases turn with
  | discovery => exact hblind.advanced horderly.advances hstands hreceives
  | stop => exact ⟨⟨hblind.awaits, hblind.outstanding, hblind.receiver⟩, Iff.rfl⟩
  | outside happening => exact ⟨hblind.happened hstands hclosed, Iff.rfl⟩

theorem registry_after_of_isFinished (hfinished : run.isFinished = true) (turn : Turn) :
    (run.after settings construct turn).worker.registry = run.worker.registry := by
  cases turn with
  | discovery => exact congrArg (fun run => run.worker.registry) (step_of_isFinished hfinished)
  | stop => rfl
  | outside happening => rfl

theorem registry_play_of_isFinished (hfinished : run.isFinished = true) (turns : List Turn) :
    (run.play settings construct turns).worker.registry = run.worker.registry := by
  induction turns generalizing run with
  | nil => rfl
  | cons turn turns ih =>
      exact (ih (run.isFinished_after hfinished turn)).trans
        (registry_after_of_isFinished hfinished turn)

end Run

theorem Consistent.play_of_overlooks {strict : Bool} {run : Run LiveDirectory}
    {missed : List String} (hconsistent : Consistent settings construct strict run missed)
    (hstands : settings.StandsFor id node) (hblind : run.IsBlindTo node id) {turns : List Turn}
    (hoverlooks : run.Overlooks settings construct node turns) :
    id ∈ (run.play settings construct turns).worker.registry.devices ↔
      id ∈ run.worker.registry.devices := by
  induction turns generalizing run missed with
  | nil => exact Iff.rfl
  | cons turn turns ih =>
      obtain ⟨hreceives, hclosed, hrest⟩ := hoverlooks
      obtain ⟨hstill, hsame⟩ := hblind.after hconsistent.orderly hstands hreceives hclosed
      rcases hconsistent.after turn with hfinished | hafter
      · have hregistry : ((run.after settings construct turn).play settings construct
            turns).worker.registry = (run.after settings construct turn).worker.registry :=
          Run.registry_play_of_isFinished hfinished turns
        rw [← hsame, ← hregistry]
        rfl
      · exact (ih hafter hstill hrest).trans hsame

variable (settings construct)

/-- Once all that was told has been dealt with, the registry is right about every node whose changes
were not missed, whenever watches were refused, opened and lost. But while a node changes only when
no watch is open, the registry holds of it what it held before. -/
theorem registry_right_unless_missed (world : LiveDirectory) (turns : List Turn)
    (hunwatched : world.queue = EventQueue.empty.close) :
    let run := (Run.start world).play settings construct turns
    let missed := Run.missed settings construct false turns (Run.start world) []
    (run.isQuiet = true →
      (∀ id ∈ run.worker.registry.devices, ∃ node, settings.StandsFor id node ∧
        (node.name ∉ missed → node.name ∈ run.world.names)) ∧
      (∀ name node, settings.candidate? name = some node → name ∉ missed →
        run.world.Qualifies settings construct node →
        run.world.verdict settings construct node = .external →
        ∃ id, settings.logicalId? node = some id ∧ id ∈ run.worker.registry.devices)) ∧
    (∀ node id later, settings.StandsFor id node → run.IsBlindTo node id →
      run.Overlooks settings construct node later →
      (id ∈ (run.play settings construct later).worker.registry.devices ↔
        id ∈ run.worker.registry.devices)) := by
  intro run missed
  have hplayed : run.isFinished = true ∨ Consistent settings construct false run missed :=
    (consistent_start hunwatched).play turns
  constructor
  · intro hquiet
    have hconsistent := hplayed.resolve_left (by rw [(Run.of_isQuiet hquiet).1]; simp)
    constructor
    · intro id hmem
      obtain ⟨node, htouches, hid⟩ := hconsistent.founded.registered id hmem
      exact ⟨node, htouches.standsFor hid, fun hmissed =>
        ((hconsistent.right hquiet htouches hid hmissed).1 hmem).1⟩
    · intro name node hcandidate hmissed hqualifies hexternal
      obtain rfl := Settings.name_of_node? (Settings.node?_of_candidate? hcandidate)
      have hproper := LiveDirectory.proper _ node.name hqualifies.1
      obtain ⟨htouches, _⟩ := Settings.touches_of_candidate? hcandidate hproper
      obtain ⟨id, hid⟩ :=
        Settings.exists_logicalId_of_node? (Settings.node?_of_candidate? hcandidate)
      exact ⟨id, hid, (hconsistent.right hquiet htouches hid hmissed).2.2 hqualifies hexternal⟩
  · intro node id later hstands hblind hoverlooks
    rcases hplayed with hfinished | hconsistent
    · rw [Run.registry_play_of_isFinished hfinished]
    · exact hconsistent.play_of_overlooks hstands hblind hoverlooks

/-! ### A gap between two watches -/

def refusedTurns : List Turn :=
  [.outside (.refusal (some .pathNotFound)), .discovery, .discovery, .discovery, .discovery]

/-- The camera goes and another comes before a watch is opened and waited on. -/
def gapTurns : List Turn :=
  [.outside (.departure "video1"), .outside (.arrival 0 "video2" .camera), .outside (.refusal none),
    .discovery, .discovery, .discovery, .discovery]

def refusedRun : Run LiveDirectory :=
  (Run.start LiveDirectory.oneCamera).play .standard (fun _ _ => .built ()) refusedTurns

def reopenedRun : Run LiveDirectory :=
  refusedRun.play .standard (fun _ _ => .built ()) gapTurns

def departedCamera : DeviceNode :=
  ⟨"video1", ⟨"/dev/video1"⟩, 1⟩

def arrivedCamera : DeviceNode :=
  ⟨"video2", ⟨"/dev/video2"⟩, 2⟩

theorem reopenedRun_overlooks :
    departedCamera.name ∈ refusedRun.world.names ∧
      ⟨3, 4, 101⟩ ∈ reopenedRun.worker.registry.devices ∧
      ⟨3, 4, 102⟩ ∉ reopenedRun.worker.registry.devices := by
  have hquiet : refusedRun.isQuiet = true := by decide +kernel
  have hdevices : refusedRun.worker.registry.devices.toList = [⟨3, 4, 101⟩] := by decide +kernel
  have hpresent : (⟨3, 4, 101⟩ : LogicalId) ∈ refusedRun.worker.registry.devices := by
    rw [Ascending.mem_def, hdevices]
    exact List.mem_singleton_self _
  have habsent : (⟨3, 4, 102⟩ : LogicalId) ∉ refusedRun.worker.registry.devices := by
    rw [Ascending.mem_def, hdevices]
    decide
  have hstands : Settings.standard.StandsFor ⟨3, 4, 101⟩ departedCamera :=
    ⟨by decide +kernel, by decide +kernel⟩
  unfold reopenedRun
  unfold refusedRun at hquiet hpresent habsent ⊢
  obtain ⟨hright, hstays⟩ := registry_right_unless_missed .standard
    (fun _ _ => Construction.built ()) LiveDirectory.oneCamera refusedTurns rfl
  obtain ⟨node, hnode, hthere⟩ := (hright hquiet).1 ⟨3, 4, 101⟩ hpresent
  obtain rfl := hnode.unique hstands
  refine ⟨hthere (by decide +kernel), ?_, ?_⟩
  · rw [hstays departedCamera ⟨3, 4, 101⟩ gapTurns hstands
      ⟨by decide +kernel, by decide +kernel, by decide +kernel⟩ (by decide +kernel)]
    exact hpresent
  · rw [hstays arrivedCamera ⟨3, 4, 102⟩ gapTurns ⟨by decide +kernel, by decide +kernel⟩
      ⟨by decide +kernel, by decide +kernel, by decide +kernel⟩ (by decide +kernel)]
    exact habsent

theorem gap_missed_for_ever :
    reopenedRun.isQuiet = true ∧ reopenedRun.world.queue.isOpen = true ∧
    Settings.standard.StandsFor ⟨3, 4, 101⟩ departedCamera ∧
    departedCamera.name ∉ reopenedRun.world.names ∧
    Settings.standard.StandsFor ⟨3, 4, 102⟩ arrivedCamera ∧
    reopenedRun.world.Qualifies .standard (fun _ _ => Construction.built ()) arrivedCamera ∧
    reopenedRun.world.verdict .standard (fun _ _ => Construction.built ()) arrivedCamera =
      .external ∧
    reopenedRun.worker.registry.devices.toList = [⟨3, 4, 101⟩] := by
  have hdeparted : Settings.standard.StandsFor ⟨3, 4, 101⟩ departedCamera :=
    ⟨by decide +kernel, by decide +kernel⟩
  have harrived : Settings.standard.StandsFor ⟨3, 4, 102⟩ arrivedCamera :=
    ⟨by decide +kernel, by decide +kernel⟩
  have hqualifies :
      reopenedRun.world.Qualifies .standard (fun _ _ => Construction.built ()) arrivedCamera :=
    ⟨by decide +kernel, by decide +kernel, by decide +kernel, (), rfl⟩
  exact ⟨by decide +kernel, by decide +kernel, hdeparted, by decide +kernel, harrived, hqualifies,
    by decide +kernel, by decide +kernel⟩

end CameraHotplug
