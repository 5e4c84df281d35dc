import CameraHotplug.Proofs.Steps
import CameraHotplug.Proofs.Tracking

/-!
# What every turn keeps

A run that is not over keeps track of every node whose changes were not missed, and holds no id that
is not the id of some node.
-/

namespace CameraHotplug

open LiveDirectory

variable {δ : Type} (settings : Settings) (construct : Version → Path → Construction δ)

structure Founded (worker : Worker LiveDirectory) : Prop where
  registered : ∀ id ∈ worker.registry.devices,
    ∃ node, settings.Touches node ∧ settings.logicalId? node = some id
  remembered : ∀ id, worker.receiver? = some id →
    ∃ node, settings.Touches node ∧ settings.logicalId? node = some id

/-- The run may have missed changes of the names that are given. Of every other node it keeps track,
and of a node that is gone and was missed nothing is outstanding while the watch is open. -/
structure Consistent (strict : Bool) (run : Run LiveDirectory) (missed : List String) : Prop where
  orderly : run.Orderly
  founded : Founded settings run.worker
  awaited : ∀ node id, settings.Touches node → settings.logicalId? node = some id →
    run.awaits node.name = true → id ∉ run.worker.registry.devices ∧ run.worker.receiver? ≠ some id
  tracked : ∀ node id, settings.Touches node → settings.logicalId? node = some id →
    node.name ∉ missed → Tracked settings construct strict run.worker run.outstanding
      (run.awaits node.name = true) node id
  fresh : ∀ node, settings.Touches node → node.name ∈ missed → node.name ∉ run.world.names →
    run.world.queue.isOpen = true → ∀ event ∈ run.outstanding, event.name ≠ node.name

variable {settings construct} {strict : Bool}

namespace Founded

variable {worker after : Worker LiveDirectory} (hfounded : Founded settings worker)

include hfounded

theorem congr (hregistry : after.registry = worker.registry)
    (hreceiver : after.receiver? = worker.receiver?) : Founded settings after := by
  constructor
  · rw [hregistry]
    exact hfounded.registered
  · rw [hreceiver]
    exact hfounded.remembered

theorem enrolled {node : DeviceNode} (htouches : settings.Touches node)
    (henrolls : Worker.Enrolls settings construct node worker after) : Founded settings after := by
  constructor
  · intro id hmem
    rcases (henrolls.devices id).mp hmem with hbefore | ⟨hid, _⟩
    · exact hfounded.registered id hbefore
    · exact ⟨node, htouches, hid⟩
  · intro id hreceiver
    by_cases hreceives : worker.outside.state.Receives settings construct node
    · rw [henrolls.remembered hreceives] at hreceiver
      exact ⟨node, htouches, hreceiver⟩
    · rw [henrolls.kept hreceives] at hreceiver
      exact hfounded.remembered id hreceiver

theorem handled {event : WatchEvent}
    (hhandled : Worker.Handled settings construct event worker after) : Founded settings after := by
  cases hhandled with
  | created node touches own enrolls => exact hfounded.enrolled touches enrolls
  | signalled node touches other _ enrolls => exact hfounded.enrolled touches enrolls
  | deleted node touches own hafter =>
      subst hafter
      constructor
      · intro id hmem
        rw [Worker.mem_devices_nodeDeleted] at hmem
        exact hfounded.registered id hmem.2
      · intro id hreceiver
        rw [Worker.receiver?_nodeDeleted] at hreceiver
        split_ifs at hreceiver
        exact hfounded.remembered id hreceiver
  | auxDeleted other hafter =>
      subst hafter
      constructor
      · intro id hmem
        exact hfounded.registered id ((Worker.mem_devices_auxDeleted worker).mp hmem).2
      · intro id hreceiver
        rw [Worker.receiver?_auxDeleted] at hreceiver
        exact absurd hreceiver (by simp)
  | ignored other keeps => exact hfounded.congr keeps.registry keeps.receiver

end Founded

namespace Consistent

variable {run next : Run LiveDirectory} {missed : List String}

/-! ### Every step -/

theorem idled (hconsistent : Consistent settings construct strict run missed)
    (horderly : next.Orderly) (hidles : run.Idles next) :
    Consistent settings construct strict next missed where
  orderly := horderly
  founded := hconsistent.founded.congr hidles.registry hidles.receiver
  awaited node id htouches hid hawaits := by
    rw [hidles.registry, hidles.receiver]
    exact hconsistent.awaited node id htouches hid (hidles.fewer node.name hawaits)
  tracked node id htouches hid hmissed := by
    rw [hidles.outstanding]
    exact ((hconsistent.tracked node id htouches hid hmissed).narrowed
      fun hthere => hidles.enough node.name hthere).moved htouches hidles.registry hidles.receiver
        (hidles.content node.name)
  fresh node htouches hmissed hgone hopen event hmem := by
    rw [hidles.outstanding] at hmem
    rcases hidles.opened hopen with hbefore | hnone
    · rw [mem_names_congr (hidles.content node.name)] at hgone
      exact hconsistent.fresh node htouches hmissed hgone hbefore event hmem
    · rw [hnone] at hmem
      exact absurd hmem List.not_mem_nil

theorem scanned {name : String} {names : List String}
    (hconsistent : Consistent settings construct strict run missed) (horderly : next.Orderly)
    (hlisted : run.phase = .scanning (name :: names))
    (hscanned : Worker.Scanned settings construct name run.worker next.worker)
    (hphase : next.phase = .scanning names) : Consistent settings construct strict next missed := by
  have houtstanding : next.outstanding = run.outstanding :=
    Run.outstanding_of_scans hlisted (Or.inl hphase) hscanned.state
  have hbefore : ∀ other, run.awaits other = decide (other ∈ name :: names) := by
    simp [Run.awaits, hlisted]
  have hafter : ∀ other, next.awaits other = decide (other ∈ names) := by
    simp [Run.awaits, hphase]
  have hleft : ∀ {other : String}, run.awaits other = true → other ≠ name →
      next.awaits other = true := by
    intro other hawaits hne
    rw [hbefore, decide_eq_true_eq, List.mem_cons] at hawaits
    rw [hafter, decide_eq_true_eq]
    exact hawaits.resolve_left hne
  have habsent : ∀ node id, settings.Touches node → settings.logicalId? node = some id →
      next.awaits node.name = true →
      id ∉ run.worker.registry.devices ∧ run.worker.receiver? ≠ some id := by
    intro node id htouches hid hawaits
    rw [hafter, decide_eq_true_eq] at hawaits
    refine hconsistent.awaited node id htouches hid ?_
    rw [hbefore, decide_eq_true_eq]
    exact List.mem_cons_of_mem _ hawaits
  have hfresh : ∀ node, settings.Touches node → node.name ∈ missed →
      node.name ∉ next.world.names → next.world.queue.isOpen = true →
      ∀ event ∈ next.outstanding, event.name ≠ node.name := by
    intro node htouches hmissed hgone hopen
    rw [Run.world, hscanned.state] at hgone hopen
    rw [houtstanding]
    exact hconsistent.fresh node htouches hmissed hgone hopen
  cases hscanned with
  | passed hcandidate keeps =>
      refine ⟨horderly, hconsistent.founded.congr keeps.registry keeps.receiver, ?_, ?_, hfresh⟩
      · intro node id htouches hid hawaits
        rw [keeps.registry, keeps.receiver]
        exact habsent node id htouches hid hawaits
      · intro node id htouches hid hmissed
        rw [houtstanding]
        refine ((hconsistent.tracked node id htouches hid hmissed).narrowed
          fun _ hawaits => hleft hawaits ?_).moved htouches keeps.registry keeps.receiver
            (by rw [keeps.state])
        intro heq
        have hnone := htouches.candidate
        rw [heq, hcandidate] at hnone
        exact absurd hnone (by simp)
  | treated other hother hname enrolls =>
      refine ⟨horderly, hconsistent.founded.enrolled hother enrolls, ?_, ?_, hfresh⟩
      · intro node id htouches hid hawaits
        -- the entry just treated is not among those that are still awaited
        have hdistinct := hconsistent.orderly.scanDistinct
        rw [Run.scanning, hlisted, List.nodup_cons] at hdistinct
        have hforeign : settings.logicalId? other ≠ some id := by
          intro hsame
          obtain rfl := (htouches.standsFor hid).unique (hother.standsFor hsame)
          rw [hafter, hname, decide_eq_true_eq] at hawaits
          exact hdistinct.1 hawaits
        obtain ⟨hdevices, hreceiver⟩ := habsent node id htouches hid hawaits
        obtain ⟨hsame, hforgotten⟩ := enrolls.of_ne hforeign
        exact ⟨hsame.not.mpr hdevices, hforgotten hreceiver⟩
      · intro node id htouches hid hmissed
        rw [houtstanding]
        have htracked := (hconsistent.tracked node id htouches hid hmissed).enrolled htouches hid
          hother enrolls
        by_cases heq : node = other
        · subst heq
          exact htracked.treated fun hqualifies =>
            (enrolls.devices id).mpr (Or.inr ⟨hid, enrolls.state ▸ hqualifies⟩)
        · refine htracked.narrowed fun _ hawaits => hleft hawaits fun hsame => heq ?_
          exact htouches.eq_of_name_eq hother (hsame.trans hname.symm)

theorem handled {event : WatchEvent} {events : List WatchEvent}
    (hconsistent : Consistent settings construct strict run missed) (horderly : next.Orderly)
    (htaken : run.phase = .handling (event :: events))
    (hhandled : Worker.Handled settings construct event run.worker next.worker)
    (hphase : next.phase = .handling events) :
    Consistent settings construct strict next missed := by
  have houtstanding : run.outstanding = event :: next.outstanding :=
    Run.outstanding_of_handles htaken hphase hhandled.state
  have hbefore : ∀ name, run.awaits name = false := by simp [Run.awaits, htaken]
  have hafter : ∀ name, next.awaits name = false := by simp [Run.awaits, hphase]
  refine ⟨horderly, hconsistent.founded.handled hhandled, ?_, ?_, ?_⟩
  · intro node id _ _ hawaits
    exact absurd ((hafter node.name).symm.trans hawaits) Bool.false_ne_true
  · intro node id htouches hid hmissed
    have htracked := hconsistent.tracked node id htouches hid hmissed
    rw [houtstanding, hbefore, ← hafter node.name] at htracked
    exact htracked.handled htouches hid hhandled
  · intro node htouches hmissed hgone hopen other hmem
    rw [Run.world, hhandled.state] at hgone hopen
    exact hconsistent.fresh node htouches hmissed hgone hopen other
      (houtstanding ▸ List.mem_cons_of_mem _ hmem)

theorem step (hconsistent : Consistent settings construct strict run missed) :
    (run.step (environment settings construct) settings).isFinished = true ∨
      Consistent settings construct strict (run.step (environment settings construct) settings)
        missed := by
  have hadvances : Run.Advances settings construct run
      (run.step (environment settings construct) settings) := hconsistent.orderly.advances
  rcases hconsistent.orderly.of_advances hadvances with hfinished | horderly
  · exact Or.inl hfinished
  · cases hadvances with
    | idles idles => exact Or.inr (hconsistent.idled horderly idles)
    | ends finished world registry receiver => exact Or.inl finished
    | scans name names listed scanned phase =>
        rcases phase with hphase | hphase
        · exact Or.inr (hconsistent.scanned horderly listed scanned hphase)
        · exact Or.inl (congrArg Phase.isFinished hphase)
    | handles event events taken handled phase =>
        rcases phase with hphase | hphase
        · exact Or.inr (hconsistent.handled horderly taken handled hphase)
        · exact Or.inl (congrArg Phase.isFinished hphase)

/-! ### Every happening -/

theorem outside {world : LiveDirectory} {missedNext : List String}
    (hconsistent : Consistent settings construct strict run missed)
    (hevents : ∀ event ∈ (run.setWorld world).outstanding, IsEntryName event.name)
    (hunwatched : run.world.queue = EventQueue.empty.close → world.queue = EventQueue.empty.close)
    (htracked : ∀ node id, settings.Touches node → settings.logicalId? node = some id →
      node.name ∉ missedNext → Tracked settings construct strict (run.setWorld world).worker
        (run.setWorld world).outstanding (run.awaits node.name = true) node id)
    (hfresh : ∀ node, settings.Touches node → node.name ∈ missedNext →
      node.name ∉ world.names → world.queue.isOpen = true →
      ∀ event ∈ (run.setWorld world).outstanding, event.name ≠ node.name) :
    Consistent settings construct strict (run.setWorld world) missedNext where
  orderly := ⟨hevents, hconsistent.orderly.scanNames, hconsistent.orderly.scanDistinct,
    hconsistent.orderly.unopened, fun hwatching =>
      hunwatched (hconsistent.orderly.unwatched hwatching)⟩
  founded := hconsistent.founded.congr rfl rfl
  awaited := hconsistent.awaited
  tracked := htracked
  fresh := hfresh

theorem tracked_of_covers {world : LiveDirectory} {node : DeviceNode} {id : LogicalId}
    (hconsistent : Consistent settings construct strict run missed)
    (htouches : settings.Touches node) (hid : settings.logicalId? node = some id)
    (hcovers : run.covers node.name = true)
    (houtstanding : (run.setWorld world).outstanding = run.outstanding) :
    Tracked settings construct strict (run.setWorld world).worker (run.setWorld world).outstanding
      (run.awaits node.name = true) node id := by
  rw [Run.covers, Bool.and_eq_true, List.all_eq_true] at hcovers
  obtain ⟨hdevices, hreceiver⟩ := hconsistent.awaited node id htouches hid hcovers.1
  rw [houtstanding]
  exact Tracked.of_awaited hcovers.1 hdevices hreceiver
    fun event hmem => of_decide_eq_true (hcovers.2 event hmem)

/-- A change that is told, or would be if there were a watch, concerns one name. -/
theorem told {world : LiveDirectory} {event : WatchEvent} {missedNext : List String}
    (hconsistent : Consistent settings construct strict run missed)
    (hproper : IsEntryName event.name) (hqueue : world.queue = run.world.queue)
    (hcontent : ∀ name, name ≠ event.name → world.content? name = run.world.content? name)
    (hmissed : ∀ name, name ≠ event.name → (name ∈ missedNext ↔ name ∈ missed))
    (htold : run.world.queue.isOpen = true → ∀ node id, settings.Touches node →
      settings.logicalId? node = some id → node.name = event.name → node.name ∉ missedNext →
      Tracked settings construct strict (run.setWorld (world.tell event)).worker
        (run.outstanding ++ [event]) (run.awaits node.name = true) node id)
    (huntold : run.world.queue.isOpen = false → ∀ node, settings.Touches node →
      node.name = event.name → node.name ∉ missedNext → run.covers node.name = true)
    (hfresh : ∀ node, settings.Touches node → node.name = event.name →
      run.world.queue.isOpen = true → node.name ∈ missedNext → node.name ∈ world.names) :
    Consistent settings construct strict (run.setWorld (world.tell event)) missedNext := by
  have hsent : (world.tell event).queue = run.world.queue.send event :=
    congrArg (EventQueue.send · event) hqueue
  apply hconsistent.outside
  · intro other hmem
    rw [Run.outstanding_tell hqueue] at hmem
    split_ifs at hmem
    · rcases List.mem_append.mp hmem with hbefore | hlast
      · exact hconsistent.orderly.eventNames other hbefore
      · exact List.mem_singleton.mp hlast ▸ hproper
    · exact hconsistent.orderly.eventNames other hmem
  · intro hclosed
    rw [hsent, hclosed]
    rfl
  · intro node id htouches hid hnext
    by_cases hname : node.name = event.name
    · cases hopen : run.world.queue.isOpen with
      | true =>
          rw [Run.outstanding_tell hqueue, if_pos hopen]
          exact htold hopen node id htouches hid hname hnext
      | false =>
          exact hconsistent.tracked_of_covers htouches hid
            (huntold hopen node htouches hname hnext)
            (by rw [Run.outstanding_tell hqueue, hopen, if_neg (by decide)])
    · have htracked : Tracked settings construct strict (run.setWorld (world.tell event)).worker
          run.outstanding (run.awaits node.name = true) node id :=
        (hconsistent.tracked node id htouches hid ((hmissed node.name hname).not.mp hnext)).moved
          htouches
          rfl rfl (hcontent node.name hname)
      rw [Run.outstanding_tell hqueue]
      split_ifs
      · exact htracked.append fun other hmem => List.mem_singleton.mp hmem ▸ Ne.symm hname
      · exact htracked
  · intro node htouches hnext hgone hopen other hmem
    have hbefore : run.world.queue.isOpen = true := by
      rwa [hsent, EventQueue.isOpen_send] at hopen
    by_cases hname : node.name = event.name
    · exact absurd (hfresh node htouches hname hbefore hnext) hgone
    · rw [mem_names_congr ((content?_tell world _ event).trans (hcontent node.name hname))] at hgone
      rw [Run.outstanding_tell hqueue, if_pos hbefore] at hmem
      rcases List.mem_append.mp hmem with hearlier | hlast
      · exact hconsistent.fresh node htouches ((hmissed node.name hname).mp hnext) hgone hbefore
          other hearlier
      · exact List.mem_singleton.mp hlast ▸ Ne.symm hname

theorem arrival (hconsistent : Consistent settings construct strict run missed) (position : Nat)
    (name : String) (content : Content) :
    Consistent settings construct strict
      (run.after settings construct (.outside (.arrival position name content)))
      (run.missedAfter settings construct strict missed
        (.outside (.arrival position name content))) := by
  by_cases hreal : IsEntryName name ∧ name ∉ run.world.names
  · obtain ⟨hproper, hfresh⟩ := hreal
    simp only [Run.after, happen, Run.missedAfter, hproper, hfresh, not_true, or_self, if_false]
    have hthere : name ∈ (run.world.insert position name content hproper hfresh).names :=
      (mem_names_insert run.world name name position content hproper hfresh).mpr (Or.inl rfl)
    refine hconsistent.told hproper rfl ?_ ?_ ?_ ?_ ?_
    · intro other hne
      exact content?_insert_of_ne run.world name other position content hproper hfresh hne
    · intro other (hne : other ≠ name)
      split_ifs <;> simp [hne]
    · intro hopen node id htouches hid hname hnext
      dsimp only at hname
      subst hname
      rw [if_pos hopen] at hnext
      by_cases hmissed : node.name ∈ missed
      · split_ifs at hnext with hkept
        · exact absurd hmissed hnext
        · rw [not_or, Bool.not_eq_true] at hkept
          refine Tracked.arrived_anew hkept.1 hthere ?_
            (hconsistent.fresh node htouches hmissed hfresh hopen)
          rw [Run.remembers, htouches.candidate, Option.bind_some, hid] at hkept
          exact Ne.symm hkept.2
      · exact (hconsistent.tracked node id htouches hid hmissed).arrived hfresh rfl rfl
    · intro hclosed node htouches hname hnext
      by_contra hnot
      dsimp only at hname
      subst hname
      rw [if_neg (by simp [hclosed]), if_neg hnot] at hnext
      exact hnext List.mem_cons_self
    · intro node _ hname _ _
      exact hname ▸ hthere
  · have hunchanged : run.missedAfter settings construct strict missed
        (.outside (.arrival position name content)) = missed := by
      apply if_pos
      tauto
    rw [hunchanged]
    simp only [Run.after, happen, dif_neg hreal]
    exact hconsistent

theorem departure (hconsistent : Consistent settings construct strict run missed) (name : String) :
    Consistent settings construct strict (run.after settings construct (.outside (.departure name)))
      (run.missedAfter settings construct strict missed (.outside (.departure name))) := by
  by_cases hthere : name ∈ run.world.names
  · simp only [Run.after, happen, Run.missedAfter, hthere, not_true, if_false]
    refine hconsistent.told (run.world.proper name hthere) rfl ?_ ?_ ?_ ?_ ?_
    · intro other hne
      exact content?_remove_of_ne run.world name other hne
    · intro other (hne : other ≠ name)
      split_ifs <;> simp [hne]
    · intro hopen node id htouches hid hname hnext
      dsimp only at hname
      subst hname
      apply Tracked.departed
      intro hmem
      exact ((mem_names_remove run.world node.name node.name).mp hmem).1 rfl
    · intro hclosed node htouches hname hnext
      by_contra hnot
      dsimp only at hname
      subst hname
      rw [if_neg (by simp [hclosed]), if_neg hnot] at hnext
      exact hnext List.mem_cons_self
    · intro node _ hname hopen hnext
      dsimp only at hname
      rw [if_pos hopen, hname] at hnext
      simp at hnext
  · have hunchanged : run.missedAfter settings construct strict missed
        (.outside (.departure name)) = missed := if_pos hthere
    rw [hunchanged]
    simp only [Run.after, happen, if_neg hthere]
    exact hconsistent

theorem signal (hconsistent : Consistent settings construct strict run missed)
    (event : WatchEvent) :
    Consistent settings construct strict
      (run.after settings construct (.outside (.signal event))) missed := by
  simp only [Run.after, happen]
  split_ifs with hallowed
  · have hforeign : ∀ node, settings.Touches node → node.name ≠ event.name := by
      intro node htouches hname
      have hcandidate := htouches.candidate
      rw [hname, hallowed.2] at hcandidate
      exact absurd hcandidate (by simp)
    exact hconsistent.told hallowed.1 rfl (fun _ _ => rfl) (fun _ _ => Iff.rfl)
      (fun _ node _ htouches _ hname _ => absurd hname (hforeign node htouches))
      (fun _ node htouches hname _ => absurd hname (hforeign node htouches))
      fun node htouches hname _ _ => absurd hname (hforeign node htouches)
  · exact hconsistent

theorem loss (hconsistent : Consistent settings construct strict run missed) (kept : Nat) :
    Consistent settings construct strict (run.after settings construct (.outside (.loss kept)))
      (run.missedAfter settings construct strict missed (.outside (.loss kept))) := by
  have hsplit : run.outstanding =
      (run.after settings construct (.outside (.loss kept))).outstanding ++
        run.world.queue.waiting.drop kept := by
    change run.handling ++ run.world.queue.waiting =
      (run.handling ++ run.world.queue.waiting.take kept) ++ run.world.queue.waiting.drop kept
    rw [List.append_assoc, List.take_append_drop]
  apply hconsistent.outside
  · intro event hmem
    exact hconsistent.orderly.eventNames event (hsplit ▸ List.mem_append_left _ hmem)
  · intro hclosed
    rw [happen, hclosed]
    exact congrArg (EventQueue.mk · false) List.take_nil
  · intro node id htouches hid hnext
    simp only [Run.missedAfter, List.mem_append, not_or] at hnext
    by_cases hcovers :
        (run.after settings construct (.outside (.loss kept))).covers node.name = true
    · rw [Run.covers, Bool.and_eq_true, List.all_eq_true] at hcovers
      obtain ⟨hdevices, hreceiver⟩ := hconsistent.awaited node id htouches hid hcovers.1
      exact Tracked.of_awaited hcovers.1 hdevices hreceiver
        fun event hmem => of_decide_eq_true (hcovers.2 event hmem)
    · -- every event that is lost names another node
      have hdropped : ∀ event ∈ run.world.queue.waiting.drop kept, event.name ≠ node.name := by
        intro event hmem heq
        refine hnext.1 (List.mem_filter.mpr ⟨List.mem_map.mpr ⟨event, hmem, heq⟩, ?_⟩)
        simpa using hcovers
      have htracked := hconsistent.tracked node id htouches hid hnext.2
      rw [hsplit] at htracked
      exact (htracked.of_append hdropped).moved htouches rfl rfl rfl
  · intro _ _ _ _ hopen
    exact absurd hopen Bool.false_ne_true

theorem after (hconsistent : Consistent settings construct strict run missed) (turn : Turn) :
    (run.after settings construct turn).isFinished = true ∨
      Consistent settings construct strict (run.after settings construct turn)
        (run.missedAfter settings construct strict missed turn) := by
  cases turn with
  | discovery => exact hconsistent.step
  | stop =>
      exact Or.inr ⟨⟨hconsistent.orderly.eventNames, hconsistent.orderly.scanNames,
        hconsistent.orderly.scanDistinct, hconsistent.orderly.unopened,
        hconsistent.orderly.unwatched⟩, hconsistent.founded, hconsistent.awaited,
        hconsistent.tracked, hconsistent.fresh⟩
  | outside happening =>
      right
      cases happening with
      | arrival position name content => exact hconsistent.arrival position name content
      | departure name => exact hconsistent.departure name
      | signal event => exact hconsistent.signal event
      | loss kept => exact hconsistent.loss kept
      | refusal cause? =>
          exact hconsistent.outside hconsistent.orderly.eventNames (fun hclosed => hclosed)
            (fun node id htouches hid hmissed =>
              (hconsistent.tracked node id htouches hid hmissed).moved htouches rfl rfl rfl)
            hconsistent.fresh

end Consistent

theorem Consistent.play {run : Run LiveDirectory} {missed : List String}
    (hconsistent : Consistent settings construct strict run missed) (turns : List Turn) :
    (run.play settings construct turns).isFinished = true ∨
      Consistent settings construct strict (run.play settings construct turns)
        (Run.missed settings construct strict turns run missed) := by
  induction turns generalizing run missed with
  | nil => exact Or.inr hconsistent
  | cons turn turns ih =>
      rcases hconsistent.after turn with hfinished | hafter
      · exact Or.inl (Run.isFinished_play hfinished turns)
      · exact ih hafter

theorem consistent_start {world : LiveDirectory}
    (hclosed : world.queue = EventQueue.empty.close) :
    Consistent settings construct strict (Run.start world) [] := by
  have hempty : ∀ id, id ∉ (Run.start world).worker.registry.devices := Ascending.not_mem_empty
  have houtstanding : (Run.start world).outstanding = [] := congrArg EventQueue.waiting hclosed
  have hforgotten : ∀ id, (Run.start world).worker.receiver? ≠ some id := by
    simp [Run.start, Worker.start]
  refine
    { orderly :=
        { eventNames := by simp [houtstanding]
          scanNames := by simp [Run.start, Run.scanning]
          scanDistinct := by simp [Run.start, Run.scanning]
          unopened := fun _ => rfl
          unwatched := fun _ => hclosed }
      founded := ⟨?_, ?_⟩
      awaited := ?_
      tracked := ?_
      fresh := ?_ }
  · intro id hmem
    exact absurd hmem (hempty id)
  · intro id hreceiver
    exact absurd hreceiver (hforgotten id)
  · intro _ id _ _ _
    exact ⟨hempty id, hforgotten id⟩
  · intro node id _ _ _
    exact Tracked.of_awaited rfl (hempty id) (hforgotten id) (by simp [houtstanding])
  · intro _ _ hmissed
    exact absurd hmissed List.not_mem_nil

theorem Consistent.right {run : Run LiveDirectory} {missed : List String}
    (hconsistent : Consistent settings construct strict run missed) (hquiet : run.isQuiet = true)
    {node : DeviceNode} {id : LogicalId} (htouches : settings.Touches node)
    (hid : settings.logicalId? node = some id) (hmissed : node.name ∉ missed) :
    (id ∈ run.worker.registry.devices → run.world.BearsOut settings construct strict node) ∧
    (run.worker.receiver? = some id → run.world.Receives settings construct node) ∧
    (run.world.Qualifies settings construct node →
      run.world.verdict settings construct node = .external →
      id ∈ run.worker.registry.devices) := by
  obtain ⟨_, houtstanding, hawaits⟩ := Run.of_isQuiet hquiet
  have htracked := hconsistent.tracked node id htouches hid hmissed
  rw [houtstanding] at htracked
  exact (htracked.narrowed fun _ hawaited => by simp [hawaits] at hawaited).right

end CameraHotplug
