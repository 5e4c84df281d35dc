import CameraHotplug.Proofs.Consistency

/-!
# Discovery converges

As long as the watch that was opened first is never lost, no change is missed, however changes, the
scan and the handling of events are interleaved. So whenever the run has dealt with all that it was
told, the registry is what the directory asks for.
-/

namespace CameraHotplug

open LiveDirectory

variable {δ : Type} {settings : Settings} {construct : Version → Path → Construction δ}
  {strict : Bool}

/-- The watch is about to be opened, and will be, or it is open. -/
def Run.IsWatched (run : Run LiveDirectory) : Prop :=
  (run.phase = .starting ∧ run.world.queue = EventQueue.empty.close ∧ run.world.refusal? = none) ∨
    (run.phase ≠ .starting ∧ run.world.queue.isOpen = true)

/-- Before the watch is open every change is left to the scan, and after that every one is told. -/
theorem Run.IsWatched.missedAfter_eq_nil {run : Run LiveDirectory} (hwatched : run.IsWatched)
    {turn : Turn} (hcalm : turn.IsCalm) :
    run.missedAfter settings construct strict [] turn = [] := by
  have hcovers : run.world.queue.isOpen = false → ∀ name, run.covers name = true := by
    intro hclosed name
    rcases hwatched with ⟨hstarting, hqueue, _⟩ | ⟨_, hopen⟩
    · simp [covers, awaits, outstanding, handling, hstarting, hqueue, EventQueue.empty,
        EventQueue.close]
    · exact absurd (hopen.symm.trans hclosed) (by simp)
  cases turn with
  | discovery => rfl
  | stop => rfl
  | outside happening =>
      cases happening with
      | arrival position name content =>
          cases hopen : run.world.queue.isOpen with
          | true => simp [missedAfter, hopen]
          | false => simp [missedAfter, hcovers hopen]
      | departure name =>
          cases hopen : run.world.queue.isOpen with
          | true => simp [missedAfter, hopen]
          | false => simp [missedAfter, hcovers hopen]
      | signal event => rfl
      | loss kept => exact hcalm.elim
      | refusal cause? => exact hcalm.elim

theorem Run.IsWatched.tell {run : Run LiveDirectory} {world : LiveDirectory}
    (hwatched : run.IsWatched) (hqueue : world.queue = run.world.queue)
    (hrefusal : world.refusal? = run.world.refusal?) (event : WatchEvent) :
    (run.setWorld (world.tell event)).IsWatched := by
  have hsent : (world.tell event).queue = run.world.queue.send event :=
    congrArg (EventQueue.send · event) hqueue
  rcases hwatched with ⟨hstarting, hclosed, haccepted⟩ | ⟨hstarted, hopen⟩
  · refine Or.inl ⟨hstarting, hsent.trans ?_, hrefusal.trans haccepted⟩
    rw [hclosed]
    rfl
  · refine Or.inr ⟨hstarted, (congrArg EventQueue.isOpen hsent).trans ?_⟩
    rw [EventQueue.send, if_pos hopen]
    exact hopen

theorem Run.IsWatched.after {run : Run LiveDirectory} {missed : List String}
    (hwatched : run.IsWatched) (hconsistent : Consistent settings construct strict run missed)
    {turn : Turn} (hcalm : turn.IsCalm) : (run.after settings construct turn).IsWatched := by
  cases turn with
  | discovery =>
      rcases hwatched with ⟨hstarting, _, haccepted⟩ | ⟨_, hopen⟩
      · obtain ⟨worker, phase, stage, stopRequested⟩ := run
        dsimp only at hstarting
        subst hstarting
        exact Or.inr ⟨Phase.noConfusion,
          congrArg EventQueue.isOpen (Worker.queue_registerWatch haccepted)⟩
      · have hadvances : Run.Advances settings construct run
            (run.step (environment settings construct) settings) := hconsistent.orderly.advances
        exact Or.inr (hadvances.isOpen hopen)
  | stop => exact hwatched
  | outside happening =>
      cases happening with
      | arrival position name content =>
          simp only [Run.after, happen]
          split_ifs with hreal
          · exact hwatched.tell rfl rfl _
          · exact hwatched
      | departure name =>
          simp only [Run.after, happen]
          split_ifs with hthere
          · exact hwatched.tell rfl rfl _
          · exact hwatched
      | signal event =>
          simp only [Run.after, happen]
          split_ifs with hallowed
          · exact hwatched.tell rfl rfl _
          · exact hwatched
      | loss kept => exact hcalm.elim
      | refusal cause? => exact hcalm.elim

theorem Consistent.play_of_isCalm {run : Run LiveDirectory}
    (hconsistent : Consistent settings construct strict run []) (hwatched : run.IsWatched)
    {turns : List Turn} (hcalm : ∀ turn ∈ turns, turn.IsCalm) :
    (run.play settings construct turns).isFinished = true ∨
      Consistent settings construct strict (run.play settings construct turns) [] := by
  induction turns generalizing run with
  | nil => exact Or.inr hconsistent
  | cons turn turns ih =>
      obtain ⟨hfirst, hrest⟩ := List.forall_mem_cons.mp hcalm
      rcases hconsistent.after turn with hfinished | hafter
      · exact Or.inl (Run.isFinished_play hfinished turns)
      · rw [hwatched.missedAfter_eq_nil hfirst] at hafter
        exact ih hafter (hwatched.after hconsistent hfirst) hrest

variable (settings construct)

/-- However the directory changes while discovery scans and handles events, once all that was told
has been dealt with, the registry holds only cameras that are there and pass, among them every
ordinary one, and the receiver remembered is one that is there. -/
theorem convergence (world : LiveDirectory) (turns : List Turn)
    (hunwatched : world.queue = EventQueue.empty.close) (haccepted : world.refusal? = none)
    (hcalm : ∀ turn ∈ turns, turn.IsCalm)
    (hquiet : ((Run.start world).play settings construct turns).isQuiet = true) :
    let run := (Run.start world).play settings construct turns
    (∀ id ∈ run.worker.registry.devices, ∃ node, settings.StandsFor id node ∧
      run.world.Qualifies settings construct node) ∧
    (∀ name node, settings.candidate? name = some node →
      run.world.Qualifies settings construct node →
      run.world.verdict settings construct node = .external →
      ∃ id, settings.logicalId? node = some id ∧ id ∈ run.worker.registry.devices) ∧
    (∀ id, run.worker.receiver? = some id → ∃ node, settings.StandsFor id node ∧
      run.world.Receives settings construct node) := by
  have hplayed : ((Run.start world).play settings construct turns).isFinished = true ∨
      Consistent settings construct true ((Run.start world).play settings construct turns) [] :=
    (consistent_start hunwatched).play_of_isCalm (Or.inl ⟨rfl, hunwatched, haccepted⟩) hcalm
  have hconsistent := hplayed.resolve_left (by rw [(Run.of_isQuiet hquiet).1]; simp)
  refine ⟨?_, ?_, ?_⟩
  · intro id hmem
    obtain ⟨node, htouches, hid⟩ := hconsistent.founded.registered id hmem
    exact ⟨node, htouches.standsFor hid,
      ((hconsistent.right hquiet htouches hid List.not_mem_nil).1 hmem).2 rfl⟩
  · intro name node hcandidate hqualifies hexternal
    have hname := Settings.name_of_node? (Settings.node?_of_candidate? hcandidate)
    have hproper := LiveDirectory.proper _ node.name hqualifies.1
    obtain ⟨htouches, _⟩ := Settings.touches_of_candidate? hcandidate (hname ▸ hproper)
    obtain ⟨id, hid⟩ :=
      Settings.exists_logicalId_of_node? (Settings.node?_of_candidate? hcandidate)
    exact ⟨id, hid, (hconsistent.right hquiet htouches hid List.not_mem_nil).2.2 hqualifies
      hexternal⟩
  · intro id hreceiver
    obtain ⟨node, htouches, hid⟩ := hconsistent.founded.remembered id hreceiver
    exact ⟨node, htouches.standsFor hid,
      (hconsistent.right hquiet htouches hid List.not_mem_nil).2.1 hreceiver⟩

/-! ### A race -/

def racingTurns : List Turn :=
  [.discovery, .discovery, .outside (.departure "video1"), .discovery,
    .outside (.arrival 0 "video2" .camera), .discovery, .outside (.signal ⟨.created, "cec0"⟩),
    .discovery, .discovery, .discovery, .discovery, .discovery]

def racedRun : Run LiveDirectory :=
  (Run.start LiveDirectory.oneCamera).play .standard (fun _ _ => .built ()) racingTurns

theorem racedRun_converges :
    racedRun.isQuiet = true ∧ racedRun.worker.registry.devices.toList = [⟨3, 4, 102⟩] ∧
      ∃ node, Settings.standard.StandsFor ⟨3, 4, 102⟩ node ∧
        racedRun.world.Qualifies .standard (fun _ _ => Construction.built ()) node := by
  have hquiet : racedRun.isQuiet = true := by decide +kernel
  have hcalm : ∀ turn ∈ racingTurns, turn.IsCalm := by simp [racingTurns, Turn.IsCalm]
  have hdevices : racedRun.worker.registry.devices.toList = [⟨3, 4, 102⟩] := by decide +kernel
  have hmem : (⟨3, 4, 102⟩ : LogicalId) ∈ racedRun.worker.registry.devices := by
    rw [Ascending.mem_def, hdevices]
    exact List.mem_singleton_self _
  have hregistered : ∀ id ∈ racedRun.worker.registry.devices,
      ∃ node, Settings.standard.StandsFor id node ∧
        racedRun.world.Qualifies .standard (fun _ _ => Construction.built ()) node := by
    obtain ⟨hregistered, _⟩ := convergence .standard (fun _ _ => .built ())
      LiveDirectory.oneCamera racingTurns rfl rfl hcalm hquiet
    unfold racedRun
    exact hregistered
  exact ⟨hquiet, hdevices, hregistered ⟨3, 4, 102⟩ hmem⟩

end CameraHotplug
