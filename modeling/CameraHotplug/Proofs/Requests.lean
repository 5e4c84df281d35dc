import CameraHotplug.Proofs.History
import CameraHotplug.Proofs.IdText
import CameraHotplug.Proofs.Subscription
import CameraHotplug.Provider

/-!
# Discovery and requests, move by move

A provider is moved by the steps of its run, by the requests made of it and by the world outside, in
any order. Requests change neither which ids are present nor what the worker remembers; all that
resolving an id leaves behind is a construction in the record of calls.
-/

namespace CameraHotplug

namespace Registry

theorem isPresent_eq_true {registry : Registry} {id : LogicalId} :
    registry.isPresent id = true ↔ id ∈ registry.devices := by
  rw [isPresent, decide_eq_true_eq, lookup_eq_some_iff]
  simp

end Registry

section Work

variable {σ ν δ : Type} (environment : Environment σ ν δ) (settings : Settings)

/-- All that one step of a run can have its worker do. -/
inductive Worker.Works (worker : Worker σ) : Worker σ → Prop where
  | rests : Works worker worker
  | registers : Works worker (worker.registerWatch environment settings).2
  | lists : Works worker (worker.readDirectory environment settings).2
  | scans (name : String) : Works worker (worker.scanEntry environment settings name).2
  | stops : Works worker { worker with watching := false }
  | awaits : Works worker (worker.awaitEvents environment settings).2
  | handles (event : WatchEvent) :
      Works worker (worker.handleEvent environment settings event).2

theorem Run.step_works (run : Run σ) :
    run.worker.Works environment settings (run.step environment settings).worker := by
  obtain ⟨worker, phase, stage, stopRequested⟩ := run
  cases phase with
  | starting => exact .registers
  | listing =>
      have hlists : worker.Works environment settings
          (worker.readDirectory environment settings).2 := .lists
      unfold step
      dsimp only
      split
      next hanswer => rw [hanswer] at hlists; exact hlists
      next hanswer => rw [hanswer] at hlists; exact hlists
  | scanning names =>
      cases names with
      | nil => exact .rests
      | cons name names =>
          have hscans : worker.Works environment settings
              (worker.scanEntry environment settings name).2 := .scans name
          unfold step
          dsimp only
          split
          next hattempt => rw [hattempt] at hscans; exact hscans
          next hattempt => rw [hattempt] at hscans; exact hscans
  | waiting =>
      unfold step
      dsimp only
      split_ifs
      · exact .stops
      · exact .awaits
  | handling events =>
      cases events with
      | nil => exact .rests
      | cons event events =>
          have hhandles : worker.Works environment settings
              (worker.handleEvent environment settings event).2 := .handles event
          unfold step
          dsimp only
          split
          next hending => rw [hending] at hhandles; exact hhandles
          next hending => rw [hending] at hhandles; exact hhandles
  | returned result => exact .rests
  | panicked => exact .rests

/-- A step treats an entry or an event, or it only calls. -/
theorem Worker.Works.happens {worker next : Worker σ}
    (hworks : worker.Works environment settings next) :
    ∃ cause, Worker.Moment.Happens environment settings ⟨cause, worker, next⟩ := by
  cases hworks with
  | rests => exact ⟨.call, _, _, rfl⟩
  | registers =>
      refine ⟨.call, ?_⟩
      unfold Worker.registerWatch
      split <;> exact ⟨_, _, rfl⟩
  | lists => exact ⟨.call, _, _, rfl⟩
  | scans name => exact ⟨.entry name, rfl⟩
  | stops => exact ⟨.call, _, _, rfl⟩
  | awaits => exact ⟨.call, Worker.exists_awaitEvents_eq environment settings worker⟩
  | handles event => exact ⟨.event event, rfl⟩

end Work

namespace Provider

/-- What can happen to a provider next. Requests that only read are left out. -/
inductive Move (σ : Type) where
  | step
  | stop
  | join
  | attach (subscriber : Subscriber)
  | detach
  | resolve (name : String)
  | world (state : σ)

variable {σ ν δ : Type} (environment : Environment σ ν δ) (provider : Provider σ)

def worker : Worker σ :=
  provider.handle.run.worker

def withOutside (outside : Observed σ) : Provider σ :=
  provider.withWorker { provider.worker with outside }

def step : Provider σ :=
  { provider with
    handle := { provider.handle with
      run := provider.handle.run.step environment provider.settings } }

def after : Move σ → Provider σ
  | .step => provider.step environment
  | .stop => provider.requestStop
  | .join => provider.join.2
  | .attach subscriber => provider.attach subscriber
  | .detach => provider.detach.2
  | .resolve name => (provider.resolve environment name).2
  | .world state => provider.withOutside { provider.worker.outside with state }

def play (moves : List (Move σ)) : Provider σ :=
  moves.foldl (after environment) provider

theorem play_concat (moves : List (Move σ)) (move : Move σ) :
    provider.play environment (moves ++ [move]) =
      (provider.play environment moves).after environment move := by
  rw [play, List.foldl_append]
  rfl

/-! ### Resolving -/

theorem locate_of_ne {name : String} (hname : ∀ id : LogicalId, name ≠ id.text) :
    provider.locate name = .error (.invalidDeviceName name) := by
  rw [locate, LogicalId.parse_eq_error hname]

theorem locate_of_not_mem {id : LogicalId} (habsent : id ∉ provider.registry.devices) :
    provider.locate id.text = .error (.deviceNotPresent id.text) := by
  rw [← Registry.isPresent_eq_true] at habsent
  rw [locate, LogicalId.parse_eq_ok_iff.mpr rfl]
  exact if_neg habsent

theorem locate_eq_ok_iff {name : String} {path : Path} :
    provider.locate name = .ok path ↔
      ∃ id ∈ provider.registry.devices, name = id.text ∧
        provider.settings.nodePath? id = some path := by
  by_cases hname : ∃ id : LogicalId, name = id.text
  · obtain ⟨id, rfl⟩ := hname
    by_cases hpresent : id ∈ provider.registry.devices
    · have hlookup := Registry.isPresent_eq_true.mpr hpresent
      rw [locate, LogicalId.parse_eq_ok_iff.mpr rfl]
      dsimp only
      rw [if_pos hlookup]
      cases hpath : provider.settings.nodePath? id with
      | none => simp [LogicalId.text_injective.eq_iff, hpath]
      | some own => simp [LogicalId.text_injective.eq_iff, hpath, hpresent]
    · rw [locate_of_not_mem provider hpresent]
      simp [LogicalId.text_injective.eq_iff, hpresent]
  · rw [locate_of_ne provider (not_exists.mp hname)]
    simp only [reduceCtorEq, false_iff]
    rintro ⟨id, _, htext, _⟩
    exact hname ⟨id, htext⟩

/-- A construction as the caller of `resolve` sees it. -/
def handedOver {δ : Type} (path : Path) : Construction δ → Construction δ
  | .failed error => .failed (initFailure path error)
  | made => made

theorem resolve_of_error {name : String} {error : Error}
    (hlocate : provider.locate name = .error error) :
    provider.resolve environment name = (.failed error, provider) := by
  rw [resolve, hlocate]

theorem resolve_of_ok {name : String} {path : Path} (hlocate : provider.locate name = .ok path) :
    provider.resolve environment name =
      (handedOver path
        (Observed.construct environment provider.version path provider.worker.outside).1,
        provider.withOutside
          (Observed.construct environment provider.version path provider.worker.outside).2) := by
  rw [resolve, hlocate]
  dsimp only [worker, withOutside]
  cases Observed.construct environment provider.version path
      provider.handle.run.worker.outside with
  | mk made outside => cases made <;> rfl

theorem exists_resolve_eq (name : String) :
    ∃ outside, (provider.resolve environment name).2 = provider.withOutside outside := by
  cases hlocate : provider.locate name with
  | error error =>
      rw [resolve_of_error environment provider hlocate]
      exact ⟨provider.worker.outside, rfl⟩
  | ok path =>
      rw [resolve_of_ok environment provider hlocate]
      exact ⟨_, rfl⟩

/-! ### What no request changes -/

theorem worker_join : provider.join.2.worker = provider.worker := by
  unfold join Handle.join
  split_ifs
  · rfl
  · dsimp only
    split <;> rfl

@[simp]
theorem settings_after (move : Move σ) :
    (provider.after environment move).settings = provider.settings := by
  cases move with
  | resolve name =>
      obtain ⟨outside, hresolve⟩ := provider.exists_resolve_eq environment name
      rw [after, hresolve]
      rfl
  | _ => rfl

@[simp]
theorem settings_play (moves : List (Move σ)) :
    (provider.play environment moves).settings = provider.settings := by
  induction moves using List.reverseRecOn with
  | nil => rfl
  | append_singleton moves move ih => rw [play_concat, settings_after, ih]

theorem devices_after_of_ne_step {move : Move σ} (hmove : move ≠ .step) :
    (provider.after environment move).registry.devices = provider.registry.devices := by
  cases move with
  | step => exact absurd rfl hmove
  | join => exact congrArg (·.registry.devices) provider.worker_join
  | attach subscriber => exact Registry.devices_attach provider.registry subscriber
  | resolve name =>
      obtain ⟨outside, hresolve⟩ := provider.exists_resolve_eq environment name
      exact congrArg (·.registry.devices) hresolve
  | _ => rfl

end Provider

end CameraHotplug
