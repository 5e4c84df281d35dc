import CameraHotplug.Proofs.LiveTreatment
import CameraHotplug.Proofs.Turns

/-!
# All that a step can do

A step of a run in a live directory does one of four things: it treats nothing, it ends the run, it
treats the next entry, or it handles the next event. Everything that is proved of steps is proved of
these four.
-/

namespace CameraHotplug

open LiveDirectory

variable {δ : Type} (settings : Settings) (construct : Version → Path → Construction δ)

namespace Run

/-- The run works on names that entries can have, on each listed one once, and takes the events of
every watch that it opened. -/
structure Orderly (run : Run LiveDirectory) : Prop where
  eventNames : ∀ event ∈ run.outstanding, IsEntryName event.name
  scanNames : ∀ name ∈ run.scanning, IsEntryName name
  scanDistinct : run.scanning.Nodup
  unopened : run.phase = .starting → run.worker.watching = false
  unwatched : run.worker.watching = false → run.world.queue = EventQueue.empty.close

/-- A step that treats nothing: it may open a watch, take events, list the entries, or turn from one
kind of work to another. -/
structure Idles (run next : Run LiveDirectory) : Prop where
  registry : next.worker.registry = run.worker.registry
  receiver : next.worker.receiver? = run.worker.receiver?
  content : ∀ name, next.world.content? name = run.world.content? name
  outstanding : next.outstanding = run.outstanding
  unwatched : next.worker.watching = false → next.world.queue = EventQueue.empty.close
  stillOpen : run.world.queue.isOpen = true → next.world.queue.isOpen = true
  opened : next.world.queue.isOpen = true → run.world.queue.isOpen = true ∨ run.outstanding = []
  started : next.phase ≠ .starting
  scanNames : ∀ name ∈ next.scanning, IsEntryName name
  scanDistinct : next.scanning.Nodup
  fewer : ∀ name, next.awaits name = true → run.awaits name = true
  enough : ∀ name ∈ run.world.names, run.awaits name = true → next.awaits name = true

inductive Advances (run next : Run LiveDirectory) : Prop where
  | idles (idles : run.Idles next)
  | ends (finished : next.isFinished = true) (world : next.world = run.world)
      (registry : next.worker.registry = run.worker.registry)
      (receiver : next.worker.receiver? = run.worker.receiver?)
  | scans (name : String) (names : List String) (listed : run.phase = .scanning (name :: names))
      (scanned : Worker.Scanned settings construct name run.worker next.worker)
      (phase : next.phase = .scanning names ∨ next.phase = .panicked)
  | handles (event : WatchEvent) (events : List WatchEvent)
      (taken : run.phase = .handling (event :: events))
      (handled : Worker.Handled settings construct event run.worker next.worker)
      (phase : next.phase = .handling events ∨ next.phase = .panicked)

variable {settings construct} {run next : Run LiveDirectory}

theorem Idles.of_phase {worker : Worker LiveDirectory} {phase phaseNext : Phase}
    {stage stageNext : Stage} {stopRequested : Bool}
    (horderly : Orderly ⟨worker, phase, stage, stopRequested⟩)
    (hstarted : phaseNext ≠ .starting)
    (houtstanding : Run.outstanding ⟨worker, phaseNext, stageNext, stopRequested⟩ =
      Run.outstanding ⟨worker, phase, stage, stopRequested⟩)
    (hscanning : Run.scanning ⟨worker, phaseNext, stageNext, stopRequested⟩ = [])
    (hawaits : ∀ name, Run.awaits ⟨worker, phaseNext, stageNext, stopRequested⟩ name =
      Run.awaits ⟨worker, phase, stage, stopRequested⟩ name) :
    Idles ⟨worker, phase, stage, stopRequested⟩ ⟨worker, phaseNext, stageNext, stopRequested⟩ where
  registry := rfl
  receiver := rfl
  content _ := rfl
  outstanding := houtstanding
  unwatched := horderly.unwatched
  stillOpen hopen := hopen
  opened := Or.inl
  started := hstarted
  scanNames := by simp [hscanning]
  scanDistinct := by simp [hscanning]
  fewer name hnext := (hawaits name).symm.trans hnext
  enough name _ hnext := (hawaits name).trans hnext

theorem Idles.of_awaited {events : List WatchEvent}
    (hawaited : Worker.Awaited run.worker next.worker events) (hstarted : next.phase ≠ .starting)
    (hhandling : run.handling = [])
    (houtstanding : next.outstanding = events ++ next.world.queue.waiting)
    (hscanning : next.scanning = []) (hawaits : ∀ name, next.awaits name = run.awaits name) :
    Idles run next := by
  have hbefore : run.outstanding = run.world.queue.waiting := by
    rw [Run.outstanding, hhandling, List.nil_append]
  refine
    { registry := hawaited.registry
      receiver := hawaited.receiver
      content := hawaited.content
      outstanding := ?_
      unwatched := hawaited.unwatched
      stillOpen := hawaited.stillOpen
      opened := ?_
      started := hstarted
      scanNames := by simp [hscanning]
      scanDistinct := by simp [hscanning]
      fewer := ?_
      enough := ?_ }
  · rw [hbefore, houtstanding]
    exact hawaited.waiting
  · rw [hbefore]
    exact hawaited.opened
  · intro name hnext
    exact (hawaits name).symm.trans hnext
  · intro name _ hbefore
    exact (hawaits name).trans hbefore

theorem Orderly.advances (horderly : run.Orderly) :
    Advances settings construct run (run.step (environment settings construct) settings) := by
  obtain ⟨worker, phase, stage, stopRequested⟩ := run
  cases phase with
  | starting =>
      have hawaited : Worker.Awaited worker
          (worker.registerWatch (environment settings construct) settings).2 [] :=
        Worker.awaited_registerWatch (horderly.unwatched (horderly.unopened rfl))
      exact .idles (.of_awaited hawaited Phase.noConfusion rfl rfl rfl fun _ => rfl)
  | listing =>
      -- whatever is listed is now awaited by name, and nothing that is not listed was there
      exact .idles
        { registry := rfl
          receiver := rfl
          content := fun _ => rfl
          outstanding := rfl
          unwatched := horderly.unwatched
          stillOpen := fun hopen => hopen
          opened := Or.inl
          started := Phase.noConfusion
          scanNames := worker.outside.state.proper
          scanDistinct := worker.outside.state.distinct
          fewer := fun _ _ => rfl
          enough := fun _ hmem _ => decide_eq_true hmem }
  | scanning names =>
      cases names with
      | nil =>
          exact .idles (.of_phase horderly Phase.noConfusion rfl rfl fun name => by simp [awaits])
      | cons name names =>
          have hscanned : Worker.Scanned settings construct name worker
              (worker.scanEntry (environment settings construct) settings name).2 :=
            worker.scanned (horderly.scanNames name List.mem_cons_self)
          simp only [Run.step]
          cases hentry : worker.scanEntry (environment settings construct) settings name with
          | mk attempt next =>
              rw [hentry] at hscanned
              cases attempt with
              | panicked => exact .scans name names rfl hscanned (Or.inr rfl)
              | recorded => exact .scans name names rfl hscanned (Or.inl rfl)
              | unchanged => exact .scans name names rfl hscanned (Or.inl rfl)
  | waiting =>
      cases stopRequested with
      | true => exact .ends rfl rfl rfl rfl
      | false =>
          have hawaited : Worker.Awaited worker
              (worker.awaitEvents (environment settings construct) settings).2
              (worker.awaitEvents (environment settings construct) settings).1 :=
            Worker.awaited_awaitEvents horderly.unwatched
          exact .idles (.of_awaited hawaited Phase.noConfusion rfl rfl rfl fun _ => rfl)
  | handling events =>
      cases events with
      | nil => exact .idles (.of_phase horderly Phase.noConfusion rfl rfl fun name => rfl)
      | cons event events =>
          have hhandled : Worker.Handled settings construct event worker
              (worker.handleEvent (environment settings construct) settings event).2 :=
            worker.handled (horderly.eventNames event List.mem_cons_self)
          simp only [Run.step]
          cases hevent : worker.handleEvent (environment settings construct) settings event with
          | mk ending next =>
              rw [hevent] at hhandled
              cases ending with
              | panicked => exact .handles event events rfl hhandled (Or.inr rfl)
              | returned => exact .handles event events rfl hhandled (Or.inl rfl)
  | returned result => exact .ends rfl rfl rfl rfl
  | panicked => exact .ends rfl rfl rfl rfl

/-! ### What remains outstanding -/

theorem outstanding_of_scans {name : String} {names : List String}
    (hlisted : run.phase = .scanning (name :: names))
    (hphase : next.phase = .scanning names ∨ next.phase = .panicked)
    (hworld : next.world = run.world) : next.outstanding = run.outstanding := by
  unfold outstanding handling
  rcases hphase with hphase | hphase
  · rw [hlisted, hphase, hworld]
  · rw [hlisted, hphase, hworld]

theorem outstanding_of_handles {event : WatchEvent} {events : List WatchEvent}
    (htaken : run.phase = .handling (event :: events)) (hphase : next.phase = .handling events)
    (hworld : next.world = run.world) : run.outstanding = event :: next.outstanding := by
  unfold outstanding handling
  rw [htaken, hphase, hworld, List.cons_append]

theorem Orderly.of_advances (horderly : run.Orderly)
    (hadvances : Advances settings construct run next) :
    next.isFinished = true ∨ next.Orderly := by
  cases hadvances with
  | idles idles =>
      exact Or.inr ⟨idles.outstanding ▸ horderly.eventNames, idles.scanNames, idles.scanDistinct,
        fun hstarting => absurd hstarting idles.started, idles.unwatched⟩
  | ends finished world registry receiver => exact Or.inl finished
  | scans name names listed scanned phase =>
      have hscanning : run.scanning = name :: names := by rw [scanning, listed]
      have hnames := horderly.scanNames
      have hdistinct := horderly.scanDistinct
      rw [hscanning] at hnames hdistinct
      rcases phase with hphase | hphase
      · right
        refine ⟨outstanding_of_scans listed (Or.inl hphase) scanned.state ▸ horderly.eventNames,
          ?_, ?_, ?_, ?_⟩
        · rw [scanning, hphase]
          exact fun other hmem => hnames other (List.mem_cons_of_mem _ hmem)
        · rw [scanning, hphase]
          exact (List.nodup_cons.mp hdistinct).2
        · intro hstarting
          rw [hphase] at hstarting
          exact absurd hstarting Phase.noConfusion
        · intro hwatching
          rw [world, scanned.state]
          exact horderly.unwatched (scanned.watching.symm.trans hwatching)
      · exact Or.inl (congrArg Phase.isFinished hphase)
  | handles event events taken handled phase =>
      rcases phase with hphase | hphase
      · have houtstanding := outstanding_of_handles taken hphase handled.state
        right
        refine ⟨?_, ?_, ?_, ?_, ?_⟩
        · intro other hmem
          exact horderly.eventNames other (houtstanding ▸ List.mem_cons_of_mem _ hmem)
        · simp [scanning, hphase]
        · simp [scanning, hphase]
        · intro hstarting
          rw [hphase] at hstarting
          exact absurd hstarting Phase.noConfusion
        · intro hwatching
          rw [world, handled.state]
          exact horderly.unwatched (handled.watching.symm.trans hwatching)
      · exact Or.inl (congrArg Phase.isFinished hphase)

theorem Advances.isOpen (hadvances : Advances settings construct run next)
    (hopen : run.world.queue.isOpen = true) :
    next.phase ≠ .starting ∧ next.world.queue.isOpen = true := by
  cases hadvances with
  | idles idles => exact ⟨idles.started, idles.stillOpen hopen⟩
  | ends finished world registry receiver =>
      refine ⟨?_, world ▸ hopen⟩
      intro hstarting
      rw [isFinished, hstarting] at finished
      exact absurd finished Bool.false_ne_true
  | scans name names listed scanned phase =>
      constructor
      · intro hstarting
        rw [hstarting] at phase
        exact phase.elim Phase.noConfusion Phase.noConfusion
      · exact (congrArg (fun world => world.queue.isOpen) scanned.state).trans hopen
  | handles event events taken handled phase =>
      constructor
      · intro hstarting
        rw [hstarting] at phase
        exact phase.elim Phase.noConfusion Phase.noConfusion
      · exact (congrArg (fun world => world.queue.isOpen) handled.state).trans hopen

theorem outstanding_tell {world : LiveDirectory} (hqueue : world.queue = run.world.queue)
    (event : WatchEvent) :
    (run.setWorld (world.tell event)).outstanding =
      if run.world.queue.isOpen then run.outstanding ++ [event] else run.outstanding := by
  change run.handling ++ (world.queue.send event).waiting = _
  rw [hqueue]
  unfold EventQueue.send outstanding
  split_ifs
  · rw [List.append_assoc]
  · rfl

/-! ### A run that is over -/

theorem isFinished_after {run : Run LiveDirectory} (hfinished : run.isFinished = true)
    (turn : Turn) : (run.after settings construct turn).isFinished = true := by
  cases turn with
  | discovery => exact (congrArg Run.isFinished (step_of_isFinished hfinished)).trans hfinished
  | stop => exact hfinished
  | outside happening => exact hfinished

theorem isFinished_play {run : Run LiveDirectory} (hfinished : run.isFinished = true)
    (turns : List Turn) : (run.play settings construct turns).isFinished = true := by
  induction turns generalizing run with
  | nil => exact hfinished
  | cons turn turns ih => exact ih (run.isFinished_after hfinished turn)

end Run

end CameraHotplug
