import CameraHotplug.Watch
import Mathlib.Data.List.Induction
import Mathlib.Data.List.TakeWhile
import Mathlib.Tactic.SplitIfs

/-!
# Events pass a channel whole and in order

A wait looks at the queue again and again. It takes the oldest event each time and ends when there
is none left, so events may be sent, and the sender may close, between any two looks. Every event
sent is delivered, in the hand of the wait under way, or waiting, in this order. So a wait that ends
has delivered all that was sent by then, and only one that ends without any event tells whether more
may come. A wait that nothing disturbs does what `EventQueue.wait` does at once.
-/

namespace CameraHotplug

/-- What a look at the queue finds: its oldest event, no event yet, or none any more. -/
inductive Sight where
  | event (event : WatchEvent)
  | nothing
  | ended

def EventQueue.look (queue : EventQueue) : Sight × EventQueue :=
  match queue.waiting with
  | event :: events => (.event event, { queue with waiting := events })
  | [] => (if queue.isOpen then .nothing else .ended, queue)

/-- A queue and the waits on it. `inHand` is what the wait under way has taken so far; no wait is
under way without an event. `answers` are those of the waits that have ended, the oldest first. -/
structure Channel where
  queue : EventQueue
  inHand : List WatchEvent
  answers : List (Except WatchError (List WatchEvent))

namespace Channel

inductive Move where
  | send (event : WatchEvent)
  | close
  | look
  deriving DecidableEq

def Move.event? : Move → Option WatchEvent
  | .send event => some event
  | .close | .look => none

/-- The events sent in the course of some moves, all of them before the sender closed. -/
def sent (moves : List Move) : List WatchEvent :=
  (moves.takeWhile (· ≠ .close)).filterMap Move.event?

def start : Channel :=
  ⟨.empty, [], []⟩

/-- The first look of a wait fails on a queue that is empty and closed. A later one ends the wait
whether the queue is closed or not. -/
def look (channel : Channel) : Channel :=
  match channel.inHand, channel.queue.look with
  | batch, (.event event, queue) => { channel with queue, inHand := batch ++ [event] }
  | [], (.ended, queue) =>
    { channel with queue, answers := channel.answers ++ [.error EventQueue.closed] }
  | batch, (_, queue) => { queue, inHand := [], answers := channel.answers ++ [.ok batch] }

def after (channel : Channel) : Move → Channel
  | .send event => { channel with queue := channel.queue.send event }
  | .close => { channel with queue := channel.queue.close }
  | .look => channel.look

def play (moves : List Move) (channel : Channel) : Channel :=
  moves.foldl after channel

/-- The batches of the waits that have ended, one after the other. -/
def delivered (channel : Channel) : List WatchEvent :=
  channel.answers.flatMap fun answer => answer.toOption.getD []

/-! ### One look -/

variable {channel : Channel}

theorem look_of_waiting {event : WatchEvent} {events : List WatchEvent}
    (hwaiting : channel.queue.waiting = event :: events) :
    channel.look =
      ⟨⟨events, channel.queue.isOpen⟩, channel.inHand ++ [event], channel.answers⟩ := by
  simp only [look, EventQueue.look, hwaiting]

/-- What the wait under way answers when no event is left. -/
def answer (channel : Channel) : Except WatchError (List WatchEvent) :=
  if channel.inHand = [] ∧ channel.queue.isOpen = false then .error EventQueue.closed
  else .ok channel.inHand

theorem look_of_empty (hwaiting : channel.queue.waiting = []) :
    channel.look = ⟨channel.queue, [], channel.answers ++ [channel.answer]⟩ := by
  obtain ⟨⟨waiting, isOpen⟩, inHand, answers⟩ := channel
  obtain rfl : waiting = [] := hwaiting
  cases inHand <;> cases isOpen <;> rfl

/-- A look ends the wait exactly if no event is left. -/
theorem answers_look (channel : Channel) :
    channel.look.answers =
      if channel.queue.waiting = [] then channel.answers ++ [channel.answer]
      else channel.answers := by
  cases hwaiting : channel.queue.waiting with
  | nil => rw [look_of_empty hwaiting, if_pos rfl]
  | cons event events => rw [look_of_waiting hwaiting, if_neg (List.cons_ne_nil event events)]

/-! ### Where the events are -/

/-- Every event sent so far is delivered, in hand or waiting. -/
structure Accounts (channel : Channel) (moves : List Move) : Prop where
  isOpen : channel.queue.isOpen = decide (.close ∉ moves)
  all : channel.delivered ++ (channel.inHand ++ channel.queue.waiting) = sent moves

theorem sent_append_singleton (moves : List Move) (move : Move) :
    sent (moves ++ [move]) =
      sent moves ++ if .close ∈ moves then [] else move.event?.toList := by
  by_cases hclosed : .close ∈ moves
  · have hshort : (moves.takeWhile (· ≠ .close)).length ≠ moves.length := by
      intro hlength
      have hall := (List.takeWhile_prefix _).eq_of_length hlength
      have hcounted := List.takeWhile_eq_self_iff.mp hall _ hclosed
      exact of_decide_eq_true hcounted rfl
    rw [sent, List.takeWhile_append, if_neg hshort, if_pos hclosed, List.append_nil, sent]
  · have hopen : ∀ earlier ∈ moves, decide (earlier ≠ .close) = true :=
      fun earlier hearlier => decide_eq_true fun heq => hclosed (heq ▸ hearlier)
    rw [sent, List.takeWhile_append_of_pos hopen, sent, List.takeWhile_eq_self_iff.mpr hopen,
      List.filterMap_append, if_neg hclosed]
    cases move <;> rfl

theorem delivered_append (answers : List (Except WatchError (List WatchEvent)))
    (last : Except WatchError (List WatchEvent)) (queue : EventQueue) (batch : List WatchEvent) :
    delivered ⟨queue, batch, answers ++ [last]⟩ =
      delivered ⟨queue, batch, answers⟩ ++ last.toOption.getD [] := by
  simp [delivered]

theorem answer_toOption (channel : Channel) :
    channel.answer.toOption.getD [] = channel.inHand := by
  unfold answer
  split_ifs with hended
  · exact hended.1.symm
  · rfl

/-- One move. -/
theorem Accounts.after {moves : List Move} (haccounts : channel.Accounts moves) (move : Move) :
    (channel.after move).Accounts (moves ++ [move]) := by
  have hopen := haccounts.isOpen
  have hall := haccounts.all
  cases move with
  | send event =>
      by_cases hclosed : .close ∈ moves
      · have hsame : channel.after (.send event) = channel := by
          simp [Channel.after, EventQueue.send, hopen, hclosed]
        rw [hsame]
        refine ⟨by simp [hopen], ?_⟩
        rw [sent_append_singleton, if_pos hclosed, List.append_nil, hall]
      · have hsent : channel.after (.send event) =
            { channel with
              queue := ⟨channel.queue.waiting ++ [event], channel.queue.isOpen⟩ } := by
          simp [Channel.after, EventQueue.send, hopen, hclosed]
        rw [hsent]
        refine ⟨by simp [hopen], ?_⟩
        rw [sent_append_singleton, if_neg hclosed, ← hall]
        simp [delivered, Move.event?]
  | close =>
      refine ⟨by simp [Channel.after, EventQueue.close], ?_⟩
      rw [sent_append_singleton, ← hall]
      simp [Channel.after, EventQueue.close, delivered, Move.event?]
  | look =>
      have hsent : sent (moves ++ [.look]) = sent moves := by
        rw [sent_append_singleton, Move.event?, Option.toList_none, ite_self, List.append_nil]
      cases hwaiting : channel.queue.waiting with
      | nil =>
          rw [hwaiting, List.append_nil] at hall
          rw [Channel.after, look_of_empty hwaiting]
          refine ⟨by simp [hopen], ?_⟩
          rw [delivered_append, answer_toOption, hwaiting, hsent, ← hall]
          exact List.append_nil _
      | cons event events =>
          rw [Channel.after, look_of_waiting hwaiting]
          refine ⟨by simp [hopen], ?_⟩
          rw [hsent, ← hall, hwaiting]
          simp [delivered]

theorem accounts_play (moves : List Move) : (play moves start).Accounts moves := by
  induction moves using List.reverseRecOn with
  | nil => exact ⟨rfl, rfl⟩
  | append_singleton moves move ih =>
      rw [play, List.foldl_append]
      exact ih.after move

/-- A wait that ends has delivered all that was sent. It fails if that was delivered before and no
more can come. -/
theorem Accounts.answer_cases {moves : List Move} (haccounts : channel.Accounts moves)
    (hwaiting : channel.queue.waiting = []) :
    channel.delivered ++ channel.inHand = sent moves ∧
      (channel.answer = .error EventQueue.closed ∧ channel.inHand = [] ∧ .close ∈ moves ∨
        channel.answer = .ok channel.inHand ∧ ¬ (channel.inHand = [] ∧ .close ∈ moves)) := by
  have hall := haccounts.all
  rw [hwaiting, List.append_nil] at hall
  refine ⟨hall, ?_⟩
  have hclosed : channel.queue.isOpen = false ↔ .close ∈ moves := by
    rw [haccounts.isOpen, decide_eq_false_iff_not, not_not]
  unfold answer
  by_cases hended : channel.inHand = [] ∧ channel.queue.isOpen = false
  · rw [if_pos hended]
    exact Or.inl ⟨rfl, hended.1, hclosed.mp hended.2⟩
  · rw [if_neg hended]
    exact Or.inr ⟨rfl, fun hdone => hended ⟨hdone.1, hclosed.mpr hdone.2⟩⟩

/-! ### A wait that nothing disturbs -/

theorem play_look (waiting inHand : List WatchEvent) (isOpen : Bool)
    (answers : List (Except WatchError (List WatchEvent))) :
    play (List.replicate (waiting.length + 1) .look) ⟨⟨waiting, isOpen⟩, inHand, answers⟩ =
      look ⟨⟨[], isOpen⟩, inHand ++ waiting, answers⟩ := by
  induction waiting generalizing inHand with
  | nil => rw [List.append_nil]; rfl
  | cons event events ih =>
      rw [List.length_cons, List.replicate_succ, play, List.foldl_cons, after,
        look_of_waiting rfl, ← play, ih, List.append_assoc, List.singleton_append]

theorem play_look_eq_wait (queue : EventQueue)
    (answers : List (Except WatchError (List WatchEvent))) :
    play (List.replicate (queue.waiting.length + 1) .look) ⟨queue, [], answers⟩ =
      ⟨queue.wait.2, [], answers ++ [queue.wait.1]⟩ := by
  obtain ⟨waiting, isOpen⟩ := queue
  rw [play_look, look_of_empty rfl]
  cases waiting <;> cases isOpen <;> rfl

/-- Whatever sender and receiver do in whatever order, every event sent is delivered, in hand or
waiting. A look that finds an event goes on with the wait, and one that finds none ends it: a batch
that is answered then completes what was sent by then, the empty batch says that more may come, and
only when all was delivered before and the sender has closed does the wait fail. -/
theorem waits_deliver_all (moves : List Move) :
    let channel := play moves start
    channel.delivered ++ (channel.inHand ++ channel.queue.waiting) = sent moves ∧
    (channel.look.answers = channel.answers ↔ channel.queue.waiting ≠ []) ∧
    (∀ answer, channel.look.answers = channel.answers ++ [answer] →
      (∀ batch, answer = .ok batch → channel.delivered ++ batch = sent moves) ∧
      (answer = .ok [] ↔ channel.delivered = sent moves ∧ .close ∉ moves) ∧
      (answer = .error EventQueue.closed ↔ channel.delivered = sent moves ∧ .close ∈ moves) ∧
      (∀ cause, answer = .error cause → cause = EventQueue.closed)) ∧
    (channel.inHand = [] →
      play (List.replicate (channel.queue.waiting.length + 1) .look) channel =
        ⟨channel.queue.wait.2, [], channel.answers ++ [channel.queue.wait.1]⟩) := by
  intro channel
  have haccounts : channel.Accounts moves := accounts_play moves
  refine ⟨haccounts.all, ?_, ?_, ?_⟩
  · rw [answers_look]
    split_ifs with hwaiting
    · simp [hwaiting]
    · simp [hwaiting]
  · intro answer hanswers
    rw [answers_look] at hanswers
    by_cases hwaiting : channel.queue.waiting = []
    · rw [if_pos hwaiting] at hanswers
      obtain rfl : channel.answer = answer := by simpa using hanswers
      obtain ⟨hall, hcases⟩ := haccounts.answer_cases hwaiting
      have hnone : channel.delivered = sent moves ↔ channel.inHand = [] := by
        rw [← hall, List.self_eq_append_right]
      rw [hnone]
      rcases hcases with ⟨hfailed, hended⟩ | ⟨hanswered, hgoing⟩
      · rw [hfailed]
        refine ⟨nofun, by simp [hended], by simp [hended], ?_⟩
        intro cause hcause
        exact (Except.error.inj hcause).symm
      · rw [hanswered]
        refine ⟨fun batch hbatch => Except.ok.inj hbatch ▸ hall, ?_, by simp [hgoing], nofun⟩
        simpa using hgoing
    · rw [if_neg hwaiting] at hanswers
      simp at hanswers
  · intro hidle
    have hsame : channel = ⟨channel.queue, [], channel.answers⟩ := by rw [← hidle]
    calc play (List.replicate (channel.queue.waiting.length + 1) .look) channel
        = play (List.replicate (channel.queue.waiting.length + 1) .look)
            ⟨channel.queue, [], channel.answers⟩ := congrArg _ hsame
      _ = ⟨channel.queue.wait.2, [], channel.answers ++ [channel.queue.wait.1]⟩ :=
            play_look_eq_wait channel.queue channel.answers

/-- An event that comes while a wait is under way, and the close after it. -/
def closingMoves : List Move :=
  [.send ⟨.created, "video0"⟩, .look, .send ⟨.deleted, "video0"⟩, .close, .look]

theorem closingMoves_delivered :
    let channel := play closingMoves start
    let batch : List WatchEvent := [⟨.created, "video0"⟩, ⟨.deleted, "video0"⟩]
    channel.look.answers = [.ok batch] ∧ channel.delivered ++ batch = sent closingMoves ∧
      play [.look] channel.look = ⟨⟨[], false⟩, [], [.ok batch, .error EventQueue.closed]⟩ := by
  intro channel batch
  obtain ⟨-, -, hended, -⟩ := waits_deliver_all closingMoves
  obtain ⟨-, -, -, hidle⟩ := waits_deliver_all (closingMoves ++ [.look])
  have hbatch : channel.look.answers = channel.answers ++ [.ok batch] := rfl
  exact ⟨hbatch, (hended _ hbatch).1 _ rfl, hidle rfl⟩

end Channel

end CameraHotplug
