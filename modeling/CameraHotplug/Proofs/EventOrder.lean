import CameraHotplug.Proofs.FixedContent
import CameraHotplug.Proofs.LiveDirectory
import CameraHotplug.Proofs.Panics
import Mathlib.Data.List.Induction

/-!
# Events are handled once and in order

A worker at a bench registers its watch and polls while the owner of the bench changes things and
sends events, also in the middle of a poll. Every event that was sent is handled already, in hand,
or waiting in the queue, in this order; no move loses one, repeats one or lets one overtake another.
-/

namespace CameraHotplug

/-- The event that an action sends. -/
def Bench.Action.event? : Bench.Action → Option WatchEvent
  | .emit event => some event
  | .hotplug name _ | .hotplugEntry name => some ⟨.created, name⟩
  | .unplug name => some ⟨.deleted, name⟩
  | .addNode _ _ | .addEntry _ | .removeEntry _ | .setDirectoryFails _ | .setWatchFails _ => none

theorem Bench.queue_addEntry (bench : Bench) (name : String) :
    (bench.addEntry name).queue = bench.queue := by
  unfold addEntry
  split_ifs <;> rfl

theorem Bench.queue_apply {bench : Bench} (hopen : bench.queue.isOpen = true) (action : Action) :
    (bench.apply action).queue = ⟨bench.queue.waiting ++ action.event?.toList, true⟩ := by
  have hkept : bench.queue = ⟨bench.queue.waiting ++ [], true⟩ := by
    rw [List.append_nil, ← hopen]
  have hsent (event : WatchEvent) :
      bench.queue.send event = ⟨bench.queue.waiting ++ [event], true⟩ := by
    simp [EventQueue.send, hopen]
  cases action with
  | addNode name _ => exact (queue_addEntry bench name).trans hkept
  | addEntry name => exact (queue_addEntry bench name).trans hkept
  | removeEntry _ => exact hkept
  | emit event => exact hsent event
  | hotplug name _ =>
      exact (congrArg (EventQueue.send · _) (queue_addEntry bench name)).trans (hsent _)
  | hotplugEntry name =>
      exact (congrArg (EventQueue.send · _) (queue_addEntry bench name)).trans (hsent _)
  | unplug name => exact hsent _
  | setDirectoryFails _ => exact hkept
  | setWatchFails _ => exact hkept

/-- A worker at a bench. `inHand` is what is left of the batch of the poll under way, and `handled`
what was handled by all polls so far. A panic ends the session. -/
structure Session where
  worker : Worker Bench
  inHand : List WatchEvent
  handled : List WatchEvent
  isOver : Bool

namespace Session

/-- A poll takes more than one move: it waits first, or tries to open a watch, and then handles one
event after the other. -/
inductive Move where
  | owner (action : Bench.Action)
  | register
  | poll
  | handle

def Move.event? : Move → Option WatchEvent
  | .owner action => action.event?
  | .register | .poll | .handle => none

/-- The events sent in the course of some moves. -/
def emitted (moves : List Move) : List WatchEvent :=
  moves.filterMap Move.event?

def start (bench : Bench) (registry : Registry) : Session :=
  ⟨.start bench registry, [], [], false⟩

/-- Whether the worker is there for the next call. -/
def isIdle (session : Session) : Bool :=
  session.inHand.isEmpty && !session.isOver

def queue (session : Session) : EventQueue :=
  session.worker.outside.state.queue

def act (session : Session) (action : Bench.Action) : Session :=
  let outside := session.worker.outside
  { session with
    worker := { session.worker with outside := ⟨outside.state.apply action, outside.calls⟩ } }

variable {δ : Type} (construct : Version → Path → Construction δ) (settings : Settings)

/-- A call of the worker begins when it is idle, and an event is handled when one is in hand. -/
def after (session : Session) : Move → Session
  | .owner action => session.act action
  | .register =>
    if session.isIdle then
      { session with
        worker := (session.worker.registerWatch (Bench.environment construct) settings).2 }
    else session
  | .poll =>
    if session.isIdle then
      let (events, worker) := session.worker.awaitEvents (Bench.environment construct) settings
      { session with worker, inHand := events }
    else session
  | .handle =>
    match session.inHand, session.isOver with
    | event :: events, false =>
      let (ending, worker) :=
        session.worker.handleEvent (Bench.environment construct) settings event
      { worker, inHand := events, handled := session.handled ++ [event],
        isOver := ending = .panicked }
    | _, _ => session

def play (moves : List Move) (session : Session) : Session :=
  moves.foldl (after construct settings) session

/-! ### Where the events are -/

/-- Every event sent so far is handled, in hand or waiting. -/
structure Accounts (session : Session) (events : List WatchEvent) : Prop where
  isOpen : session.queue.isOpen = true
  all : session.handled ++ (session.inHand ++ session.queue.waiting) = events

variable {construct settings} {session : Session} {events : List WatchEvent}

theorem Accounts.owner (haccounts : session.Accounts events) (action : Bench.Action) :
    (session.act action).Accounts (events ++ action.event?.toList) := by
  have hqueue : (session.act action).queue =
      ⟨session.queue.waiting ++ action.event?.toList, true⟩ :=
    Bench.queue_apply haccounts.isOpen action
  refine ⟨by rw [hqueue], ?_⟩
  rw [hqueue, ← haccounts.all]
  simp [act]

variable (construct settings)

theorem queue_registerWatch (worker : Worker Bench) :
    (worker.registerWatch (Bench.environment construct) settings).2.outside.state.queue =
      worker.outside.state.queue := by
  have hopened : (worker.outside.state.openWatch settings.deviceDirectory).2.queue =
      worker.outside.state.queue := by
    unfold Bench.openWatch
    split_ifs <;> rfl
  unfold Worker.registerWatch
  split
  next heq => exact (congrArg (fun ended => ended.2.state.queue) heq).symm.trans hopened
  next heq => exact (congrArg (fun ended => ended.2.state.queue) heq).symm.trans hopened

theorem queue_handleEvent (worker : Worker Bench) (event : WatchEvent) :
    (worker.handleEvent (Bench.environment construct) settings event).2.outside.state.queue =
      worker.outside.state.queue := by
  have hcontent :=
    Worker.view_handleEvent (Bench.isDetermined construct).toIsFixed settings worker event
  have hqueue := congrArg (fun shown : Bench => shown.queue) hcontent
  exact hqueue

/-- An open watch hands over all that is waiting; without one nothing is handed over. -/
theorem awaitEvents_takes {worker : Worker Bench}
    (hopen : worker.outside.state.queue.isOpen = true) :
    let awaited := worker.awaitEvents (Bench.environment construct) settings
    let queue := awaited.2.outside.state.queue
    queue.isOpen = true ∧ awaited.1 ++ queue.waiting = worker.outside.state.queue.waiting ∧
      (if worker.watching then queue.waiting = [] else awaited.1 = []) := by
  intro awaited queue
  by_cases hwatching : worker.watching = true
  · have hwait : worker.outside.state.queue.wait =
        (.ok worker.outside.state.queue.waiting, ⟨[], true⟩) := by
      rcases EventQueue.wait_eq worker.outside.state.queue with heq | ⟨hclosed, _⟩
      · rw [heq, hopen]
      · rw [hclosed] at hopen
        exact absurd hopen Bool.false_ne_true
    have hawaited : awaited.1 = worker.outside.state.queue.waiting ∧ queue = ⟨[], true⟩ := by
      simp [queue, awaited, Worker.awaitEvents, hwatching, Observed.wait, Observed.call_apply,
        Bench.environment, Bench.wait, hwait]
    rw [hawaited.1, hawaited.2, if_pos hwatching]
    exact ⟨rfl, List.append_nil _, rfl⟩
  · have hregistered := queue_registerWatch construct settings worker
    have hawaited : awaited.1 = [] ∧ queue = worker.outside.state.queue := by
      simp only [queue, awaited, Worker.awaitEvents, hwatching]
      cases hanswer : worker.registerWatch (Bench.environment construct) settings with
      | mk opened next =>
          rw [hanswer] at hregistered
          cases opened with
          | true => exact ⟨rfl, hregistered⟩
          | false => exact ⟨rfl, hregistered⟩
    rw [hawaited.1, hawaited.2, if_neg hwatching]
    exact ⟨hopen, rfl, rfl⟩

variable {construct settings}

/-- One move. -/
theorem Accounts.after (haccounts : session.Accounts events) (move : Move) :
    (session.after construct settings move).Accounts (events ++ move.event?.toList) := by
  cases move with
  | owner action => exact haccounts.owner action
  | register =>
      rw [Move.event?, Option.toList_none, List.append_nil, Session.after]
      split_ifs
      · have hqueue := queue_registerWatch construct settings session.worker
        exact ⟨(congrArg EventQueue.isOpen hqueue).trans haccounts.isOpen, by
          rw [← haccounts.all, queue, hqueue, queue]⟩
      · exact haccounts
  | poll =>
      rw [Move.event?, Option.toList_none, List.append_nil, Session.after]
      split_ifs with hidle
      · obtain ⟨hopen, htaken, _⟩ := awaitEvents_takes construct settings haccounts.isOpen
        have hinHand : session.inHand = [] := by
          rw [isIdle, Bool.and_eq_true, List.isEmpty_iff] at hidle
          exact hidle.1
        refine ⟨hopen, ?_⟩
        have hall := haccounts.all
        rw [hinHand, List.nil_append, queue, ← htaken] at hall
        exact hall
      · exact haccounts
  | handle =>
      rw [Move.event?, Option.toList_none, List.append_nil, Session.after]
      split
      next event rest hinHand _ =>
        have hqueue := queue_handleEvent construct settings session.worker event
        refine ⟨(congrArg EventQueue.isOpen hqueue).trans haccounts.isOpen, ?_⟩
        have hall := haccounts.all
        rw [hinHand, queue, ← hqueue] at hall
        rw [← hall]
        simp [queue]
      next => exact haccounts

theorem emitted_append_singleton (moves : List Move) (move : Move) :
    emitted (moves ++ [move]) = emitted moves ++ move.event?.toList := by
  rw [emitted, List.filterMap_append, emitted]
  cases hevent : move.event? <;> simp [hevent]

/-- The whole session, by its last move. -/
theorem accounts_play (construct : Version → Path → Construction δ) (settings : Settings)
    (directory sysfsRoot : Path) (registry : Registry) (moves : List Move) :
    (play construct settings moves (start (.make directory sysfsRoot) registry)).Accounts
      (emitted moves) := by
  induction moves using List.reverseRecOn with
  | nil => exact ⟨rfl, rfl⟩
  | append_singleton moves move ih =>
      rw [play, List.foldl_append, emitted_append_singleton]
      exact ih.after move

/-! ### A whole poll -/

/-- The rest of a poll, one event after the other. -/
theorem play_handle {worker : Worker Bench} (handled : List WatchEvent)
    (hreturned : (worker.handleEvents (Bench.environment construct) settings events).1 =
      .returned) :
    play construct settings (events.map fun _ => .handle) ⟨worker, events, handled, false⟩ =
      ⟨(worker.handleEvents (Bench.environment construct) settings events).2, [],
        handled ++ events, false⟩ := by
  induction events generalizing worker handled with
  | nil => simp [play, Worker.handleEvents]
  | cons event events ih =>
      simp only [Worker.handleEvents] at hreturned ⊢
      cases hevent : worker.handleEvent (Bench.environment construct) settings event with
      | mk ending next =>
          rw [hevent] at hreturned
          cases ending with
          | panicked => exact absurd hreturned Ending.noConfusion
          | returned =>
              have hrest := ih (handled ++ [event]) hreturned
              simp only [play, List.map_cons, List.foldl_cons, after, hevent] at hrest ⊢
              rw [List.append_assoc, List.singleton_append] at hrest
              exact hrest

theorem exists_panicking_construct {worker : Worker Bench}
    (hpanicked : (worker.handleEvents (Bench.environment construct) settings events).1 =
      .panicked) :
    ∃ version path, construct version path = .panicked := by
  induction events generalizing worker with
  | nil => exact absurd hpanicked Ending.noConfusion
  | cons event events ih =>
      have hcause := (Worker.constructs_handleEvent (Bench.environment construct) settings worker
        event).cause
      simp only [Worker.handleEvents] at hpanicked
      cases hevent : worker.handleEvent (Bench.environment construct) settings event with
      | mk ending next =>
          rw [hevent] at hpanicked hcause
          cases ending with
          | panicked =>
              obtain ⟨version, path, _, hconstruct⟩ := hcause rfl
              exact ⟨version, path, hconstruct⟩
          | returned => exact ih hpanicked

/-- What has been handled is at all times the beginning of what was sent. A poll of an open watch
takes all that was sent and not handled yet; once it has returned, that is handled too, and it tells
these events and no others. It returns unless a construction panics. -/
theorem handled_is_beginning (construct : Version → Path → Construction δ) (settings : Settings)
    (directory sysfsRoot : Path) (registry : Registry) (moves : List Move) :
    let session := play construct settings moves (start (.make directory sysfsRoot) registry)
    session.handled <+: emitted moves ∧
      (session.isIdle = true →
        let begun := session.after construct settings .poll
        let ended := play construct settings (begun.inHand.map fun _ => .handle) begun
        let polled := session.worker.poll (Bench.environment construct) settings
        (if session.worker.watching then session.handled ++ begun.inHand = emitted moves
          else begun.inHand = []) ∧
        (polled.1 = .handled begun.inHand ∧
            ended = ⟨polled.2, [], session.handled ++ begun.inHand, false⟩ ∨
          polled.1 = .panicked ∧ ∃ version path, construct version path = .panicked)) := by
  intro session
  have haccounts : session.Accounts (emitted moves) :=
    accounts_play construct settings directory sysfsRoot registry moves
  refine ⟨⟨session.inHand ++ session.queue.waiting, haccounts.all⟩, ?_⟩
  intro hidle begun ended polled
  obtain ⟨hinHand, hgoing⟩ : session.inHand = [] ∧ session.isOver = false := by
    simpa [isIdle] using hidle
  obtain ⟨_, htaken, hwatch⟩ := awaitEvents_takes construct settings haccounts.isOpen
  cases hawaited : session.worker.awaitEvents (Bench.environment construct) settings with
  | mk events next =>
      rw [hawaited] at htaken hwatch
      have hbegun : begun = ⟨next, events, session.handled, false⟩ := by
        simp only [begun, Session.after, hidle, if_true, hawaited, hgoing]
      rw [hbegun]
      constructor
      · split_ifs at hwatch ⊢
        · have hall := haccounts.all
          rw [hinHand, List.nil_append, queue, ← htaken, hwatch, List.append_nil] at hall
          exact hall
        · exact hwatch
      · cases htreated : next.handleEvents (Bench.environment construct) settings events with
        | mk ending last =>
            have hpolled : polled = (match ending with
                | .returned => (.handled events, last)
                | .panicked => (.panicked, last)) := by
              simp only [polled, Worker.poll, hawaited, htreated]
              cases ending <;> rfl
            cases ending with
            | returned =>
                have hended : ended = ⟨last, [], session.handled ++ events, false⟩ := by
                  have hhandled := play_handle session.handled (congrArg Prod.fst htreated)
                  rw [htreated] at hhandled
                  rw [← hhandled]
                  simp only [ended, hbegun]
                exact Or.inl ⟨congrArg Prod.fst hpolled, hended.trans (by rw [hpolled])⟩
            | panicked =>
                exact Or.inr ⟨congrArg Prod.fst hpolled,
                  exists_panicking_construct (congrArg Prod.fst htreated)⟩

/-! ### A session with refusals -/

/-- The watch is refused, opened, and refused again; the second poll is interrupted by its owner. -/
def eventfulMoves : List Move :=
  [.owner (.setWatchFails true), .register, .owner (.hotplug "video1" .uvcCamera), .poll,
    .owner (.setWatchFails false), .register, .register, .owner (.hotplugEntry "cec0"), .poll,
    .handle, .owner (.unplug "video1"), .handle, .owner (.emit ⟨.deleted, "cec0"⟩)]

def eventfulSession : Session :=
  play (fun _ _ => Construction.built ()) .standard eventfulMoves
    (start (.make ⟨"/dev"⟩ ⟨"/sys/class/video4linux"⟩) .empty)

theorem eventfulSession_polls :
    eventfulSession.isIdle = true ∧ eventfulSession.worker.watching = true ∧
      eventfulSession.handled = [⟨.created, "video1"⟩, ⟨.created, "cec0"⟩] ∧
      (eventfulSession.worker.poll (Bench.environment fun _ _ => Construction.built ())
        .standard).1 = .handled [⟨.deleted, "video1"⟩, ⟨.deleted, "cec0"⟩] ∧
      eventfulSession.handled ++ [⟨.deleted, "video1"⟩, ⟨.deleted, "cec0"⟩] =
        emitted eventfulMoves := by
  have hidle : eventfulSession.isIdle = true := by decide +kernel
  have hwatching : eventfulSession.worker.watching = true := by decide +kernel
  have hinHand : (eventfulSession.after (fun _ _ => Construction.built ()) .standard
      .poll).inHand = [⟨.deleted, "video1"⟩, ⟨.deleted, "cec0"⟩] := by
    decide +kernel
  obtain ⟨_, hpoll⟩ := handled_is_beginning (fun _ _ => Construction.built ()) .standard
    ⟨"/dev"⟩ ⟨"/sys/class/video4linux"⟩ .empty eventfulMoves
  obtain ⟨hwatched, hreturned⟩ := hpoll hidle
  have htaken : eventfulSession.handled ++ _ = emitted eventfulMoves :=
    (if_pos hwatching).mp hwatched
  refine ⟨hidle, hwatching, by decide +kernel, ?_, hinHand ▸ htaken⟩
  rcases hreturned with ⟨hhandled, _⟩ | ⟨_, version, path, hpanicked⟩
  · exact hinHand ▸ hhandled
  · cases hpanicked

end Session

end CameraHotplug
