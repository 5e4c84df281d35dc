import CameraHotplug.Proofs.Registration

/-!
# The moments of a history

A worker scans, handles events and polls, in any order. A scan treats one entry after the other and a
poll one event after the other, so an id may come and go within one activity. A history therefore
lists the single treatments, each with the worker before and after it.
-/

namespace CameraHotplug.Worker

inductive Activity where
  | scan
  | event (event : WatchEvent)
  | poll
  deriving DecidableEq, Repr

/-- What is treated at a moment; at a `call`, nothing is: the directory is read or events are
awaited. -/
inductive Cause where
  | call
  | entry (name : String)
  | event (event : WatchEvent)
  deriving DecidableEq, Repr

structure Moment (σ : Type) where
  cause : Cause
  before : Worker σ
  after : Worker σ

variable {σ ν δ : Type} (environment : Environment σ ν δ) (settings : Settings)

def perform (worker : Worker σ) : Activity → Worker σ
  | .scan => (scan environment settings worker).2
  | .event event => (handleEvent environment settings worker event).2
  | .poll => (poll environment settings worker).2

def performAll (activities : List Activity) (worker : Worker σ) : Worker σ :=
  activities.foldl (perform environment settings) worker

/-- The entries of a listing, up to a panic. -/
def entryMoments : List String → Worker σ → List (Moment σ)
  | [], _ => []
  | name :: names, worker =>
    let next := scanEntry environment settings worker name
    ⟨.entry name, worker, next.2⟩ ::
      if next.1 = .panicked then [] else entryMoments names next.2

def eventMoments : List WatchEvent → Worker σ → List (Moment σ)
  | [], _ => []
  | event :: events, worker =>
    let next := handleEvent environment settings worker event
    ⟨.event event, worker, next.2⟩ ::
      if next.1 = .panicked then [] else eventMoments events next.2

def moments (worker : Worker σ) : Activity → List (Moment σ)
  | .scan =>
    let listing := readDirectory environment settings worker
    ⟨.call, worker, listing.2⟩ ::
      match listing.1 with
      | .error _ => []
      | .ok names => entryMoments environment settings names listing.2
  | .event event => eventMoments environment settings [event] worker
  | .poll =>
    let awaited := awaitEvents environment settings worker
    ⟨.call, worker, awaited.2⟩ :: eventMoments environment settings awaited.1 awaited.2

def history : List Activity → Worker σ → List (Moment σ)
  | [], _ => []
  | activity :: activities, worker =>
    moments environment settings worker activity ++
      history activities (perform environment settings worker activity)

def Moment.Happens (moment : Moment σ) : Prop :=
  match moment.cause with
  | .call => ∃ outside watching, moment.after = { moment.before with outside, watching }
  | .entry name => moment.after = (scanEntry environment settings moment.before name).2
  | .event event => moment.after = (handleEvent environment settings moment.before event).2

/-- The moments lead from one worker to the other, each starting where the one before it ended. -/
inductive Unfolds : Worker σ → List (Moment σ) → Worker σ → Prop where
  | nil (worker : Worker σ) : Unfolds worker [] worker
  | cons {moment : Moment σ} {rest : List (Moment σ)} {last : Worker σ}
      (happens : moment.Happens environment settings) (unfolds : Unfolds moment.after rest last) :
      Unfolds moment.before (moment :: rest) last

variable {environment settings}

theorem Unfolds.append {start middle last : Worker σ} {front back : List (Moment σ)}
    (hfront : Unfolds environment settings start front middle)
    (hback : Unfolds environment settings middle back last) :
    Unfolds environment settings start (front ++ back) last := by
  induction hfront with
  | nil _ => exact hback
  | cons happens _ ih => exact .cons happens (ih hback)

theorem Unfolds.split {front back : List (Moment σ)} {start last : Worker σ}
    (hunfolds : Unfolds environment settings start (front ++ back) last) :
    ∃ middle, Unfolds environment settings start front middle ∧
      Unfolds environment settings middle back last := by
  induction front generalizing start with
  | nil => exact ⟨start, .nil start, hunfolds⟩
  | cons moment front ih =>
      cases hunfolds with
      | cons happens rest =>
          obtain ⟨middle, hfront, hback⟩ := ih rest
          exact ⟨middle, .cons happens hfront, hback⟩

variable (environment settings)

theorem unfolds_entryMoments (names : List String) (count : Nat) (worker : Worker σ) :
    Unfolds environment settings worker (entryMoments environment settings names worker)
      (scanEntries environment settings names count worker).2 := by
  induction names generalizing count worker with
  | nil => exact .nil worker
  | cons name names ih =>
      unfold entryMoments scanEntries
      cases hnext : scanEntry environment settings worker name with
      | mk attempt next =>
          have happens : Moment.Happens environment settings ⟨.entry name, worker, next⟩ := by
            simp only [Moment.Happens, hnext]
          refine .cons happens ?_
          cases attempt with
          | panicked => exact .nil next
          | recorded => exact ih (count + 1) next
          | unchanged => exact ih count next

theorem unfolds_eventMoments (events : List WatchEvent) (worker : Worker σ) :
    Unfolds environment settings worker (eventMoments environment settings events worker)
      (handleEvents environment settings events worker).2 := by
  induction events generalizing worker with
  | nil => exact .nil worker
  | cons event events ih =>
      unfold eventMoments handleEvents
      cases hnext : handleEvent environment settings worker event with
      | mk ending next =>
          have happens : Moment.Happens environment settings ⟨.event event, worker, next⟩ := by
            simp only [Moment.Happens, hnext]
          refine .cons happens ?_
          cases ending with
          | panicked => exact .nil next
          | returned => exact ih next

theorem snd_handleEvents_singleton (event : WatchEvent) (worker : Worker σ) :
    (handleEvents environment settings [event] worker).2 =
      (handleEvent environment settings worker event).2 := by
  unfold handleEvents handleEvents
  cases handleEvent environment settings worker event with
  | mk ending next => cases ending <;> rfl

theorem exists_awaitEvents_eq (worker : Worker σ) :
    ∃ outside watching, (awaitEvents environment settings worker).2 =
      { worker with outside, watching } := by
  unfold awaitEvents registerWatch
  split
  · split <;> exact ⟨_, _, rfl⟩
  · cases Observed.openWatch environment settings.deviceDirectory worker.outside with
    | mk answer outside => cases answer <;> exact ⟨_, _, rfl⟩

theorem unfolds_moments (worker : Worker σ) (activity : Activity) :
    Unfolds environment settings worker (moments environment settings worker activity)
      (perform environment settings worker activity) := by
  cases activity with
  | scan =>
      have happens : Moment.Happens environment settings
          ⟨.call, worker, (readDirectory environment settings worker).2⟩ :=
        ⟨_, worker.watching, congrArg Prod.snd (readDirectory_eq environment settings worker)⟩
      unfold moments perform scan
      refine .cons happens ?_
      cases hlisting : readDirectory environment settings worker with
      | mk answer next =>
          cases answer with
          | error cause => exact .nil next
          | ok names =>
              have hentries := unfolds_entryMoments environment settings names 0 next
              dsimp only
              cases hscan : scanEntries environment settings names 0 next with
              | mk count last =>
                  rw [hscan] at hentries
                  cases count <;> exact hentries
  | event event =>
      have hevents := unfolds_eventMoments environment settings [event] worker
      rw [snd_handleEvents_singleton] at hevents
      exact hevents
  | poll =>
      have happens : Moment.Happens environment settings
          ⟨.call, worker, (awaitEvents environment settings worker).2⟩ :=
        exists_awaitEvents_eq environment settings worker
      unfold moments perform poll
      refine .cons happens ?_
      have hevents := unfolds_eventMoments environment settings
        (awaitEvents environment settings worker).1 (awaitEvents environment settings worker).2
      dsimp only
      cases hhandled : handleEvents environment settings
          (awaitEvents environment settings worker).1
          (awaitEvents environment settings worker).2 with
      | mk ending last =>
          rw [hhandled] at hevents
          cases ending <;> exact hevents

theorem unfolds_history (activities : List Activity) (worker : Worker σ) :
    Unfolds environment settings worker (history environment settings activities worker)
      (performAll environment settings activities worker) := by
  induction activities generalizing worker with
  | nil => exact .nil worker
  | cons activity activities ih =>
      exact (unfolds_moments environment settings worker activity).append
        (ih (perform environment settings worker activity))

end CameraHotplug.Worker
