import CameraHotplug.Proofs.Ascending
import CameraHotplug.Proofs.Registration
import Mathlib.Data.List.Induction
import Mathlib.Data.Set.Insert
import Mathlib.Logic.Function.Basic

/-!
# A subscriber mirrors the registry

A subscriber that adds every id it is told to be present, and drops every id it is told not to be,
holds exactly the ids of the registry, from the end of its attachment on and for as long as it stays
attached. It is told nothing twice, and nothing that a subscriber does, panicking included, shows in
the registry.
-/

namespace CameraHotplug

/-- The order of ids, spelled out. -/
def LogicalId.Precedes (left right : LogicalId) : Prop :=
  left.major < right.major ∨ left.major = right.major ∧
    (left.minor < right.minor ∨ left.minor = right.minor ∧ left.number < right.number)

theorem LogicalId.compare_eq_lt_iff {left right : LogicalId} :
    compare left right = .lt ↔ left.Precedes right := by
  change lexicographic left right = .lt ↔ _
  simp only [lexicographic, compareLex, compareOn, Ordering.then_eq_lt, Std.compare_eq_lt,
    Std.compare_eq_iff_eq, Precedes]

/-! ### What a sequence of changes leaves -/

def StatusChange.apply (seen : Set LogicalId) (change : StatusChange) : Set LogicalId :=
  match change.presence with
  | .present => insert change.id seen
  | .notPresent => seen \ {change.id}

/-- The ids that are left when the changes are applied in order, from none on. -/
def seen (changes : List StatusChange) : Set LogicalId :=
  changes.foldl StatusChange.apply ∅

/-- Every change is one: an id comes that was not there, or goes that was. -/
def AllNews (changes : List StatusChange) : Prop :=
  ∀ front change back, changes = front ++ change :: back →
    (change.presence = .present ↔ change.id ∉ seen front)

theorem seen_concat (changes : List StatusChange) (change : StatusChange) :
    seen (changes ++ [change]) = change.apply (seen changes) := by
  rw [seen, List.foldl_append, List.foldl_cons, List.foldl_nil, seen]

theorem allNews_nil : AllNews [] := by
  intro front change back hsplit
  exact absurd hsplit (by simp)

/-- In a list with one more item, any item is one of the others or the last. -/
theorem forall_split_concat {α : Type} {holds : List α → α → Prop} {items : List α} {last : α} :
    (∀ front item back, items ++ [last] = front ++ item :: back → holds front item) ↔
      (∀ front item back, items = front ++ item :: back → holds front item) ∧
        holds items last := by
  constructor
  · intro hall
    refine ⟨?_, hall items last [] rfl⟩
    rintro front item back rfl
    exact hall front item (back ++ [last]) (by simp)
  · rintro ⟨hitems, hlast⟩ front item back hsplit
    rcases List.eq_nil_or_concat back with rfl | ⟨middle, other, rfl⟩
    · obtain ⟨rfl, hitem⟩ := List.append_inj' hsplit rfl
      obtain rfl := List.singleton_inj.mp hitem
      exact hlast
    · rw [List.concat_eq_append, ← List.cons_append, ← List.append_assoc] at hsplit
      exact hitems front item middle (List.append_inj' hsplit rfl).1

theorem AllNews.concat {changes : List StatusChange} {change : StatusChange}
    (hnews : AllNews changes) (hnew : change.presence = .present ↔ change.id ∉ seen changes) :
    AllNews (changes ++ [change]) :=
  forall_split_concat.mpr ⟨hnews, hnew⟩

section Arrivals

def arrivals (ids : List LogicalId) : List StatusChange :=
  ids.map fun id => ⟨id, .present⟩

theorem arrivals_concat (ids : List LogicalId) (id : LogicalId) :
    arrivals (ids ++ [id]) = arrivals ids ++ [⟨id, .present⟩] := by
  simp [arrivals]

theorem seen_arrivals (ids : List LogicalId) : seen (arrivals ids) = {id | id ∈ ids} := by
  induction ids using List.reverseRecOn with
  | nil => simp [arrivals, seen]
  | append_singleton ids id ih =>
      rw [arrivals_concat, seen_concat, ih]
      ext other
      simp [StatusChange.apply, or_comm]

theorem allNews_arrivals {ids : List LogicalId} (hdistinct : ids.Nodup) :
    AllNews (arrivals ids) := by
  induction ids using List.reverseRecOn with
  | nil => exact allNews_nil
  | append_singleton ids id ih =>
      obtain ⟨hbefore, _, hfresh⟩ := List.nodup_append.mp hdistinct
      have hnew : id ∉ ids := fun hmem => hfresh id hmem id (List.mem_singleton_self id) rfl
      rw [arrivals_concat]
      refine (ih hbefore).concat ?_
      rw [seen_arrivals]
      simp [hnew]

end Arrivals

namespace Registry

/-! ### Operations -/

inductive Operation where
  | present (id : LogicalId)
  | absent (id : LogicalId)
  | attach (subscriber : Subscriber)
  | detach

def Operation.isRecord : Operation → Bool
  | .present _ | .absent _ => true
  | .attach _ | .detach => false

theorem Operation.kinds (operation : Operation) :
    operation.isRecord = true ∨ (∃ subscriber, operation = .attach subscriber) ∨
      operation = .detach := by
  cases operation with
  | present id => exact Or.inl rfl
  | absent id => exact Or.inl rfl
  | attach subscriber => exact Or.inr (Or.inl ⟨subscriber, rfl⟩)
  | detach => exact Or.inr (Or.inr rfl)

/-- The same operation, whoever the subscriber is. -/
def Operation.anonymous : Operation → Operation
  | .attach _ => .attach ⟨fun _ _ => .returned⟩
  | operation => operation

def after (registry : Registry) : Operation → Registry
  | .present id => (registry.recordPresent id).2
  | .absent id => (registry.recordAbsent id).2
  | .attach subscriber => registry.attach subscriber
  | .detach => registry.detach.2

/-- What the caller is told. Attaching tells nothing. -/
def answer (registry : Registry) : Operation → Option Bool
  | .present id => some (registry.recordPresent id).1
  | .absent id => some (registry.recordAbsent id).1
  | .attach _ => none
  | .detach => some registry.detach.1

def play (operations : List Operation) (registry : Registry) : Registry :=
  operations.foldl after registry

def answers : List Operation → Registry → List (Operation × Option Bool)
  | [], _ => []
  | operation :: operations, registry =>
    (operation, registry.answer operation) :: answers operations (registry.after operation)

theorem play_append (front back : List Operation) (registry : Registry) :
    play (front ++ back) registry = play back (play front registry) :=
  List.foldl_append

/-! ### What the subscriber is told -/

/-- What the subscriber of the latest attachment has been told. -/
def told (registry : Registry) : List StatusChange :=
  (registry.deliveries.filter (·.attachment = registry.attachments)).map Delivery.change

/-- The changes were told to the subscriber that both registries have, if they have one. -/
structure Tells (before next : Registry) (changes : List StatusChange) : Prop where
  attachments : next.attachments = before.attachments
  subscriber : next.subscriber? = before.subscriber?
  deliveries : ∃ new, next.deliveries = before.deliveries ++ new ∧
    (∀ delivery ∈ new, delivery.attachment = before.attachments) ∧
    new.map Delivery.change = if before.hasSubscriber then changes else []

variable {registry before middle next : Registry} {changes more : List StatusChange}

theorem Tells.refl (registry : Registry) : Tells registry registry [] where
  attachments := rfl
  subscriber := rfl
  deliveries := ⟨[], by simp⟩

theorem Tells.trans (hfirst : Tells before middle changes) (hsecond : Tells middle next more) :
    Tells before next (changes ++ more) := by
  obtain ⟨first, hmiddle, hfirstOwn, hfirstChanges⟩ := hfirst.deliveries
  obtain ⟨second, hnext, hsecondOwn, hsecondChanges⟩ := hsecond.deliveries
  have hsubscriber : middle.hasSubscriber = before.hasSubscriber :=
    congrArg Option.isSome hfirst.subscriber
  refine ⟨hsecond.attachments.trans hfirst.attachments,
    hsecond.subscriber.trans hfirst.subscriber, first ++ second, ?_, ?_, ?_⟩
  · rw [hnext, hmiddle, List.append_assoc]
  · intro delivery hmem
    rcases List.mem_append.mp hmem with hmem | hmem
    · exact hfirstOwn delivery hmem
    · exact (hsecondOwn delivery hmem).trans hfirst.attachments
  · rw [List.map_append, hfirstChanges, hsecondChanges, hsubscriber]
    split_ifs <;> rfl

theorem tells_notify (registry : Registry) (change : StatusChange) :
    Tells registry (registry.notify change) [change] := by
  unfold notify
  split
  next hnone => exact ⟨rfl, rfl, [], by simp [hasSubscriber, hnone]⟩
  next subscriber hsome =>
      exact ⟨rfl, rfl, [⟨registry.attachments, change, _⟩], rfl, by simp,
        by simp [hasSubscriber, hsome]⟩

theorem tells_foldl_notify (registry : Registry) (changes : List StatusChange) :
    Tells registry (changes.foldl notify registry) changes := by
  induction changes generalizing registry with
  | nil => exact .refl registry
  | cons change changes ih => exact (tells_notify registry change).trans (ih _)

theorem Tells.told (htells : Tells before next changes) :
    next.told = before.told ++ if before.hasSubscriber then changes else [] := by
  obtain ⟨new, hdeliveries, hown, hchanges⟩ := htells.deliveries
  have hkept : new.filter (·.attachment = before.attachments) = new :=
    List.filter_eq_self.mpr fun delivery hmem => decide_eq_true (hown delivery hmem)
  rw [Registry.told, hdeliveries, htells.attachments, List.filter_append, hkept, List.map_append,
    hchanges, Registry.told]

/-! ### What each operation tells -/

variable (registry)

/-- Telling a change while the ids change too. -/
theorem tells_notify_of_devices (devices : Ascending LogicalId) (change : StatusChange) :
    Tells registry ({ registry with devices }.notify change) [change] := by
  have htells := tells_notify { registry with devices } change
  exact ⟨htells.attachments, htells.subscriber, htells.deliveries⟩

/-- Records that an id is there, or that it is not. -/
def record (change : StatusChange) : Bool × Registry :=
  match change.presence with
  | .present => registry.recordPresent change.id
  | .notPresent => registry.recordAbsent change.id

/-- The registry holds something else than the change says. -/
def IsNews (change : StatusChange) : Prop :=
  change.presence = .present ↔ change.id ∉ registry.devices

theorem record_of_isNews {change : StatusChange} (hnews : registry.IsNews change) :
    (registry.record change).1 = true ∧ Tells registry (registry.record change).2 [change] ∧
      {id | id ∈ (registry.record change).2.devices} =
        change.apply {id | id ∈ registry.devices} := by
  obtain ⟨id, presence⟩ := change
  cases presence with
  | present =>
      have habsent : ¬ registry.devices.contains id = true := by
        rw [Ascending.contains_eq_true]
        exact hnews.mp rfl
      rw [record, recordPresent, if_neg habsent]
      refine ⟨rfl, registry.tells_notify_of_devices _ _, ?_⟩
      ext other
      simp [StatusChange.apply]
  | notPresent =>
      have hpresent : registry.devices.contains id = true := by
        rw [Ascending.contains_eq_true]
        by_contra habsent
        exact absurd (hnews.mpr habsent) (by simp)
      rw [record, recordAbsent, if_pos hpresent]
      refine ⟨rfl, registry.tells_notify_of_devices _ _, ?_⟩
      ext other
      simp [StatusChange.apply, and_comm]

theorem record_of_not_isNews {change : StatusChange} (hknown : ¬ registry.IsNews change) :
    registry.record change = (false, registry) := by
  obtain ⟨id, presence⟩ := change
  cases presence with
  | present =>
      have hpresent : registry.devices.contains id = true := by
        rw [Ascending.contains_eq_true]
        by_contra habsent
        exact hknown ⟨fun _ => habsent, fun _ => rfl⟩
      rw [record, recordPresent, if_pos hpresent]
  | notPresent =>
      have habsent : ¬ registry.devices.contains id = true := by
        rw [Ascending.contains_eq_true]
        intro hpresent
        exact hknown ⟨nofun, fun hgone => absurd hpresent hgone⟩
      rw [record, recordAbsent, if_neg habsent]

/-- A record changes nothing, or it makes one change, which is news, and tells it. -/
theorem record_cases {operation : Operation} (hrecord : operation.isRecord = true) :
    registry.after operation = registry ∨
      ∃ change, Tells registry (registry.after operation) [change] ∧
        (change.presence = .present ↔ change.id ∉ registry.devices) ∧
        {id | id ∈ (registry.after operation).devices} =
          change.apply {id | id ∈ registry.devices} := by
  obtain ⟨change, hafter⟩ : ∃ change, registry.after operation = (registry.record change).2 := by
    cases operation with
    | present id => exact ⟨⟨id, .present⟩, rfl⟩
    | absent id => exact ⟨⟨id, .notPresent⟩, rfl⟩
    | attach subscriber => exact absurd hrecord Bool.false_ne_true
    | detach => exact absurd hrecord Bool.false_ne_true
  rw [hafter]
  by_cases hnews : registry.IsNews change
  · exact Or.inr ⟨change, (registry.record_of_isNews hnews).2.1, hnews,
      (registry.record_of_isNews hnews).2.2⟩
  · exact Or.inl (congrArg Prod.snd (registry.record_of_not_isNews hnews))

theorem tells_attach (subscriber : Subscriber) :
    Tells { registry with
        subscriber? := some subscriber, attachments := registry.attachments + 1 }
      (registry.attach subscriber) registry.snapshot :=
  tells_foldl_notify _ _

@[simp]
theorem devices_foldl_notify (changes : List StatusChange) :
    (changes.foldl notify registry).devices = registry.devices := by
  induction changes generalizing registry with
  | nil => rfl
  | cons change changes ih => exact (ih _).trans (devices_notify registry change)

@[simp]
theorem devices_attach (subscriber : Subscriber) :
    (registry.attach subscriber).devices = registry.devices :=
  devices_foldl_notify _ _

/-! ### The mirror -/

structure IsMirrored : Prop where
  numbered : ∀ delivery ∈ registry.deliveries, delivery.attachment ≤ registry.attachments
  mirror : registry.hasSubscriber = true → seen registry.told = {id | id ∈ registry.devices}
  news : AllNews registry.told

variable {registry}

theorem isMirrored_empty : IsMirrored .empty where
  numbered := by simp [empty]
  mirror hattached := absurd hattached (by simp [empty, hasSubscriber])
  news := allNews_nil

theorem Tells.numbered (htells : Tells before next changes)
    (hnumbered : ∀ delivery ∈ before.deliveries, delivery.attachment ≤ before.attachments) :
    ∀ delivery ∈ next.deliveries, delivery.attachment ≤ next.attachments := by
  obtain ⟨new, hdeliveries, hown, _⟩ := htells.deliveries
  rw [hdeliveries, htells.attachments]
  intro delivery hmem
  rcases List.mem_append.mp hmem with hbefore | hnew
  · exact hnumbered delivery hbefore
  · exact (hown delivery hnew).le

theorem Tells.hasSubscriber (htells : Tells before next changes) :
    next.hasSubscriber = before.hasSubscriber :=
  congrArg Option.isSome htells.subscriber

/-- One change that is news, and that the registry makes as it tells it. -/
theorem IsMirrored.of_tells {change : StatusChange} (hmirrored : before.IsMirrored)
    (htells : Tells before next [change])
    (hnew : change.presence = .present ↔ change.id ∉ before.devices)
    (hdevices : {id | id ∈ next.devices} = change.apply {id | id ∈ before.devices}) :
    next.IsMirrored := by
  refine ⟨htells.numbered hmirrored.numbered, ?_, ?_⟩
  · intro hattached
    rw [htells.hasSubscriber] at hattached
    rw [htells.told, if_pos hattached, seen_concat, hmirrored.mirror hattached, hdevices]
  · rw [htells.told]
    split_ifs with hattached
    · refine hmirrored.news.concat ?_
      rw [hmirrored.mirror hattached]
      exact hnew
    · rw [List.append_nil]
      exact hmirrored.news

/-- No delivery bears the number of a new attachment yet. -/
theorem told_of_numbered
    (hnumbered : ∀ delivery ∈ registry.deliveries, delivery.attachment ≤ registry.attachments)
    (subscriber : Subscriber) :
    Registry.told { registry with
      subscriber? := some subscriber, attachments := registry.attachments + 1 } = [] := by
  rw [Registry.told, List.map_eq_nil_iff, List.filter_eq_nil_iff]
  intro delivery hmem
  have hbound := hnumbered delivery hmem
  simp only [decide_eq_true_eq]
  omega

theorem IsMirrored.attach (hmirrored : registry.IsMirrored) (subscriber : Subscriber) :
    (registry.attach subscriber).told = registry.snapshot ∧
      (registry.attach subscriber).IsMirrored := by
  have htells := registry.tells_attach subscriber
  have htold : (registry.attach subscriber).told = registry.snapshot := by
    rw [htells.told, told_of_numbered hmirrored.numbered]
    rfl
  refine ⟨htold, ?_, ?_, ?_⟩
  · exact htells.numbered fun delivery hmem =>
      (hmirrored.numbered delivery hmem).trans (Nat.le_succ _)
  · intro _
    rw [htold, devices_attach]
    exact seen_arrivals _
  · rw [htold]
    exact allNews_arrivals registry.devices.nodup_toList

theorem isMirrored_after (hmirrored : registry.IsMirrored) (operation : Operation) :
    (registry.after operation).IsMirrored := by
  rcases operation.kinds with hrecord | ⟨subscriber, rfl⟩ | rfl
  · rcases registry.record_cases hrecord with hsame | ⟨change, htells, hnew, hdevices⟩
    · rw [hsame]
      exact hmirrored
    · exact hmirrored.of_tells htells hnew hdevices
  · exact (hmirrored.attach subscriber).2
  · exact ⟨hmirrored.numbered, fun hattached => absurd hattached Bool.false_ne_true,
      hmirrored.news⟩

theorem isMirrored_play (operations : List Operation) : (play operations .empty).IsMirrored := by
  induction operations using List.reverseRecOn with
  | nil => exact isMirrored_empty
  | append_singleton operations operation ih =>
      rw [play_append]
      exact isMirrored_after ih operation

/-! ### Who is told -/

/-- The subscriber that an operation attaches. -/
def Operation.subscriber? : Operation → Option Subscriber
  | .attach subscriber => some subscriber
  | _ => none

/-- The subscriber that was attached last, unless it was detached again. -/
def attached? (operations : List Operation) : Option Subscriber :=
  (operations.filter fun operation => !operation.isRecord).getLast?.bind Operation.subscriber?

theorem subscriber?_play (operations : List Operation) :
    (play operations .empty).subscriber? = attached? operations := by
  induction operations using List.reverseRecOn with
  | nil => rfl
  | append_singleton operations operation ih =>
      rw [play_append, attached?, List.filter_append]
      rcases operation.kinds with hrecord | ⟨subscriber, rfl⟩ | rfl
      · have hkept : ((play operations .empty).after operation).subscriber? =
            (play operations .empty).subscriber? := by
          rcases (play operations .empty).record_cases hrecord with hsame | ⟨change, htells, _⟩
          · rw [hsame]
          · exact htells.subscriber
        rw [List.filter_cons_of_neg (by simp [hrecord]), List.filter_nil, List.append_nil]
        exact hkept.trans ih
      · rw [List.filter_cons_of_pos rfl, List.filter_nil, List.getLast?_concat]
        exact ((play operations .empty).tells_attach subscriber).subscriber
      · rw [List.filter_cons_of_pos rfl, List.filter_nil, List.getLast?_concat]
        rfl

/-- Each of the new deliveries is a call of the subscriber, and ended as the subscriber answers when
it is told the change after all that was delivered before. -/
def Calls (subscriber : Subscriber) (old new : List Delivery) : Prop :=
  ∀ front delivery back, new = front ++ delivery :: back →
    delivery.ending = subscriber.receive (old ++ front) delivery.change

theorem Calls.concat {subscriber : Subscriber} {old new : List Delivery} {delivery : Delivery}
    (hcalls : Calls subscriber old new)
    (hending : delivery.ending = subscriber.receive (old ++ new) delivery.change) :
    Calls subscriber old (new ++ [delivery]) :=
  forall_split_concat.mpr ⟨hcalls, hending⟩

/-- Nobody but this subscriber was told anything since the old deliveries. -/
structure Serves (subscriber : Subscriber) (old : List Delivery) (registry : Registry) : Prop where
  attached : ∀ other ∈ registry.subscriber?, other = subscriber
  called : ∃ new, registry.deliveries = old ++ new ∧ new.map Delivery.change = registry.told ∧
    Calls subscriber old new

section Serving

variable {subscriber : Subscriber} {old : List Delivery}

theorem Serves.notify (hserves : registry.Serves subscriber old) (change : StatusChange) :
    (registry.notify change).Serves subscriber old := by
  obtain ⟨hattached, new, hdeliveries, hchanges, hcalls⟩ := hserves
  have htold := (tells_notify registry change).told
  cases hsubscriber : registry.subscriber? with
  | none =>
      rw [Registry.notify, hsubscriber]
      exact ⟨hattached, new, hdeliveries, hchanges, hcalls⟩
  | some other =>
      obtain rfl : other = subscriber := hattached other hsubscriber
      rw [hasSubscriber, hsubscriber, Option.isSome_some, if_pos rfl] at htold
      refine ⟨?_, new ++ [⟨registry.attachments, change,
        other.receive registry.deliveries change⟩], ?_, ?_, hcalls.concat ?_⟩
      · rw [(tells_notify registry change).subscriber]
        exact hattached
      · rw [Registry.notify, hsubscriber, ← List.append_assoc, ← hdeliveries]
      · rw [List.map_append, hchanges, htold]
        rfl
      · rw [hdeliveries]

theorem Serves.notify_of_devices (hserves : registry.Serves subscriber old)
    (devices : Ascending LogicalId) (change : StatusChange) :
    ({ registry with devices }.notify change).Serves subscriber old := by
  have hsame : Serves subscriber old { registry with devices } :=
    ⟨hserves.attached, hserves.called⟩
  exact hsame.notify change

theorem Serves.foldl_notify (hserves : registry.Serves subscriber old)
    (changes : List StatusChange) :
    (changes.foldl Registry.notify registry).Serves subscriber old := by
  induction changes generalizing registry with
  | nil => exact hserves
  | cons change changes ih => exact ih (hserves.notify change)

theorem serves_attach
    (hnumbered : ∀ delivery ∈ registry.deliveries, delivery.attachment ≤ registry.attachments)
    (subscriber : Subscriber) :
    (registry.attach subscriber).Serves subscriber registry.deliveries := by
  refine Serves.foldl_notify ⟨?_, [], ?_, ?_, ?_⟩ _
  · exact fun other hother => (Option.some.inj hother).symm
  · rw [List.append_nil]
  · exact (told_of_numbered hnumbered subscriber).symm
  · intro front delivery back hsplit
    exact absurd hsplit (by simp)

theorem Serves.after (hserves : registry.Serves subscriber old) {operation : Operation}
    (hstays : ∀ other, operation ≠ .attach other) :
    (registry.after operation).Serves subscriber old := by
  cases operation with
  | present id =>
      rw [Registry.after, recordPresent]
      split_ifs
      · exact hserves
      · exact hserves.notify_of_devices _ _
  | absent id =>
      rw [Registry.after, recordAbsent]
      split_ifs
      · exact hserves.notify_of_devices _ _
      · exact hserves
  | attach other => exact absurd rfl (hstays other)
  | detach => exact ⟨fun other hother => absurd hother (Option.not_mem_none other), hserves.called⟩

theorem Serves.play (hserves : registry.Serves subscriber old) {operations : List Operation}
    (hstays : ∀ other, .attach other ∉ operations) :
    (play operations registry).Serves subscriber old := by
  induction operations generalizing registry with
  | nil => exact hserves
  | cons operation operations ih =>
      have hfirst : ∀ other, operation ≠ .attach other :=
        fun other heq => hstays other (heq ▸ List.mem_cons_self)
      exact ih (hserves.after hfirst) fun other hmem =>
        hstays other (List.mem_cons_of_mem _ hmem)

end Serving

/-! ### The beginning of an attachment and its end -/

theorem told_prefix_after {operation : Operation}
    (hstays : ∀ subscriber, operation ≠ .attach subscriber) :
    registry.told <+: (registry.after operation).told := by
  rcases operation.kinds with hrecord | ⟨subscriber, rfl⟩ | rfl
  · rcases registry.record_cases hrecord with hsame | ⟨change, htells, _⟩
    · exact hsame.symm ▸ List.prefix_refl _
    · rw [htells.told]
      exact List.prefix_append _ _
  · exact absurd rfl (hstays subscriber)
  · exact List.prefix_refl _

theorem told_prefix_play {operations : List Operation}
    (hstays : ∀ subscriber, .attach subscriber ∉ operations) :
    registry.told <+: (play operations registry).told := by
  induction operations generalizing registry with
  | nil => exact List.prefix_refl _
  | cons operation operations ih =>
      have hfirst : ∀ subscriber, operation ≠ .attach subscriber :=
        fun subscriber heq => hstays subscriber (heq ▸ List.mem_cons_self)
      exact (told_prefix_after hfirst).trans
        (ih fun subscriber hmem => hstays subscriber (List.mem_cons_of_mem _ hmem))

/-- The attachments up to a number are over: no subscriber is attached, or a later one is. -/
structure HasEnded (number : Nat) (registry : Registry) : Prop where
  reached : number ≤ registry.attachments
  later : registry.hasSubscriber = true → number < registry.attachments

/-- All that was delivered in between went to later attachments. -/
def DeliversAfter (number : Nat) (before next : Registry) : Prop :=
  ∃ new, next.deliveries = before.deliveries ++ new ∧
    ∀ delivery ∈ new, number < delivery.attachment

theorem DeliversAfter.trans {number : Nat} (hfirst : DeliversAfter number before middle)
    (hsecond : DeliversAfter number middle next) : DeliversAfter number before next := by
  obtain ⟨first, hmiddle, hfirstLater⟩ := hfirst
  obtain ⟨second, hnext, hsecondLater⟩ := hsecond
  refine ⟨first ++ second, by rw [hnext, hmiddle, List.append_assoc], ?_⟩
  intro delivery hmem
  rcases List.mem_append.mp hmem with hmem | hmem
  · exact hfirstLater delivery hmem
  · exact hsecondLater delivery hmem

theorem HasEnded.of_tells {number : Nat} (hended : before.HasEnded number)
    (htells : Tells before next changes) :
    next.HasEnded number ∧ DeliversAfter number before next := by
  refine ⟨⟨htells.attachments ▸ hended.reached, ?_⟩, ?_⟩
  · rw [htells.hasSubscriber, htells.attachments]
    exact hended.later
  · obtain ⟨new, hdeliveries, hown, hchanges⟩ := htells.deliveries
    refine ⟨new, hdeliveries, ?_⟩
    intro delivery hmem
    have hattached : before.hasSubscriber = true := by
      by_contra hnone
      rw [if_neg hnone, List.map_eq_nil_iff] at hchanges
      exact absurd (hchanges ▸ hmem) List.not_mem_nil
    rw [hown delivery hmem]
    exact hended.later hattached

theorem hasEnded_attach {number : Nat} (hreached : number ≤ registry.attachments)
    (subscriber : Subscriber) :
    (registry.attach subscriber).HasEnded number ∧
      DeliversAfter number registry (registry.attach subscriber) := by
  have hended : HasEnded number { registry with
      subscriber? := some subscriber, attachments := registry.attachments + 1 } :=
    ⟨Nat.le_succ_of_le hreached, fun _ => Nat.lt_succ_of_le hreached⟩
  exact hended.of_tells (registry.tells_attach subscriber)

theorem hasEnded_detach {number : Nat} (hreached : number ≤ registry.attachments) :
    registry.detach.2.HasEnded number ∧ DeliversAfter number registry registry.detach.2 :=
  ⟨⟨hreached, fun hattached => absurd hattached Bool.false_ne_true⟩, [],
    (List.append_nil _).symm, by simp⟩

theorem HasEnded.after {number : Nat} (hended : registry.HasEnded number) (operation : Operation) :
    (registry.after operation).HasEnded number ∧
      DeliversAfter number registry (registry.after operation) := by
  rcases operation.kinds with hrecord | ⟨subscriber, rfl⟩ | rfl
  · rcases registry.record_cases hrecord with hsame | ⟨change, htells, _⟩
    · rw [hsame]
      exact hended.of_tells (.refl registry)
    · exact hended.of_tells htells
  · exact hasEnded_attach hended.reached subscriber
  · exact hasEnded_detach hended.reached

theorem HasEnded.play {number : Nat} (hended : registry.HasEnded number)
    (operations : List Operation) : DeliversAfter number registry (play operations registry) := by
  induction operations generalizing registry with
  | nil => exact ⟨[], (List.append_nil _).symm, by simp⟩
  | cons operation operations ih =>
      obtain ⟨hafter, hdelivers⟩ := hended.after operation
      exact hdelivers.trans (ih hafter)

/-! ### What subscribers cannot change -/

theorem devices_after_of_not_isRecord {operation : Operation}
    (hother : operation.isRecord = false) :
    (registry.after operation).devices = registry.devices := by
  rcases operation.kinds with hrecord | ⟨subscriber, rfl⟩ | rfl
  · exact absurd (hother.symm.trans hrecord) Bool.false_ne_true
  · exact devices_attach registry subscriber
  · rfl

theorem hasSubscriber_after_of_isRecord {operation : Operation}
    (hrecord : operation.isRecord = true) :
    (registry.after operation).hasSubscriber = registry.hasSubscriber := by
  rcases registry.record_cases hrecord with hsame | ⟨change, htells, _⟩
  · rw [hsame]
  · exact htells.hasSubscriber

theorem hasSubscriber_attach (registry : Registry) (subscriber : Subscriber) :
    (registry.attach subscriber).hasSubscriber = true :=
  (registry.tells_attach subscriber).hasSubscriber

section Twins

variable {left right : Registry} (hdevices : left.devices = right.devices)

include hdevices

theorem record_congr {operation : Operation} (hrecord : operation.isRecord = true) :
    (left.after operation).devices = (right.after operation).devices ∧
      left.answer operation = right.answer operation := by
  cases operation with
  | present id =>
      simp only [after, answer, recordPresent, hdevices]
      split_ifs
      · exact ⟨hdevices, rfl⟩
      · simp
  | absent id =>
      simp only [after, answer, recordAbsent, hdevices]
      split_ifs
      · simp
      · exact ⟨hdevices, rfl⟩
  | attach subscriber => exact absurd hrecord Bool.false_ne_true
  | detach => exact absurd hrecord Bool.false_ne_true

/-- Attaching and detaching can be left out, as far as the records go. -/
theorem answers_filter_isRecord (operations : List Operation) :
    (play operations left).devices =
        (play (operations.filter Operation.isRecord) right).devices ∧
      (answers operations left).filter (·.1.isRecord) =
        answers (operations.filter Operation.isRecord) right := by
  induction operations generalizing left right with
  | nil => exact ⟨hdevices, rfl⟩
  | cons operation operations ih =>
      cases hrecord : operation.isRecord with
      | true =>
          obtain ⟨hafter, hanswer⟩ := record_congr hdevices hrecord
          obtain ⟨hplay, hanswers⟩ := ih hafter
          simp only [List.filter_cons, hrecord, if_true, answers, hanswers, hanswer]
          exact ⟨hplay, trivial⟩
      | false =>
          obtain ⟨hplay, hanswers⟩ :=
            ih ((devices_after_of_not_isRecord hrecord).trans hdevices)
          simp only [List.filter_cons, hrecord, answers]
          exact ⟨hplay, hanswers⟩

theorem after_anonymous (hattached : left.hasSubscriber = right.hasSubscriber)
    (operation : Operation) :
    (left.after operation).devices = (right.after operation.anonymous).devices ∧
      (left.after operation).hasSubscriber = (right.after operation.anonymous).hasSubscriber ∧
      left.answer operation = right.answer operation.anonymous := by
  rcases operation.kinds with hrecord | ⟨subscriber, rfl⟩ | rfl
  · have hsame : operation.anonymous = operation := by
      cases operation with
      | attach subscriber => exact absurd hrecord Bool.false_ne_true
      | _ => rfl
    obtain ⟨hafter, hanswer⟩ := record_congr hdevices hrecord
    rw [hsame, hasSubscriber_after_of_isRecord hrecord, hasSubscriber_after_of_isRecord hrecord]
    exact ⟨hafter, hattached, hanswer⟩
  · refine ⟨?_, ?_, rfl⟩
    · exact (devices_attach left subscriber).trans (hdevices.trans (devices_attach right _).symm)
    · exact (hasSubscriber_attach left subscriber).trans (hasSubscriber_attach right _).symm
  · exact ⟨hdevices, rfl, congrArg some hattached⟩

/-- Nobody can tell one subscriber from another by the answers. -/
theorem answers_anonymous (hattached : left.hasSubscriber = right.hasSubscriber)
    (operations : List Operation) :
    (answers operations left).map Prod.snd =
      (answers (operations.map Operation.anonymous) right).map Prod.snd := by
  induction operations generalizing left right with
  | nil => rfl
  | cons operation operations ih =>
      obtain ⟨hafter, hstill, hanswer⟩ := after_anonymous hdevices hattached operation
      simp only [answers, List.map_cons, ih hafter hstill, hanswer]

end Twins

/-! ### The states -/

/-- The states of a registry that keeps one for each id. -/
def statesAfter (states : LogicalId → Option Presence) :
    Operation → LogicalId → Option Presence
  | .present id =>
    if states id = some .present then states else Function.update states id (some .present)
  | .absent id => Function.update states id none
  | .attach _ | .detach => states

theorem lookup_eq_some_iff {id : LogicalId} {state : Presence} :
    registry.lookup id = some state ↔ state = .present ∧ id ∈ registry.devices := by
  rw [lookup, ← Ascending.contains_eq_true]
  split_ifs with hcontains
  · simp [hcontains, eq_comm]
  · simp [hcontains]

theorem lookup_after (operation : Operation) :
    (registry.after operation).lookup = statesAfter registry.lookup operation := by
  funext other
  cases operation with
  | present id =>
      ext state
      simp only [lookup_eq_some_iff, after, mem_devices_recordPresent, statesAfter]
      split_ifs with hpresent
      · rw [lookup_eq_some_iff, or_iff_right_of_imp fun heq =>
          heq ▸ (lookup_eq_some_iff.mp hpresent).2]
      · rw [Function.update_apply]
        split_ifs with heq
        · simp [heq, eq_comm]
        · simp [heq, lookup_eq_some_iff]
  | absent id =>
      ext state
      simp only [lookup_eq_some_iff, after, mem_devices_recordAbsent, statesAfter]
      rw [Function.update_apply]
      split_ifs with heq
      · simp [heq]
      · simp [heq, lookup_eq_some_iff]
  | attach subscriber =>
      ext state
      simp only [lookup_eq_some_iff, after, devices_attach, statesAfter]
  | detach => rfl

theorem lookup_play (operations : List Operation) :
    (play operations registry).lookup = operations.foldl statesAfter registry.lookup := by
  induction operations generalizing registry with
  | nil => rfl
  | cons operation operations ih =>
      rw [List.foldl_cons, ← lookup_after]
      exact ih

/-- Whatever has been recorded, attached and detached: the subscriber is the one attached last,
unless it was detached since. From its attachment on it is the one that is called, it has been told
the ids of the registry, by news alone and beginning with those that it found, and after its
attachment it is told nothing. Every state is that the id is present, and neither the ids nor the
answers depend on the subscribers. -/
theorem subscriber_mirrors_registry (operations : List Operation) :
    let registry := play operations .empty
    registry.subscriber? = attached? operations ∧
    (registry.hasSubscriber = true → seen registry.told = {id | id ∈ registry.devices}) ∧
    AllNews registry.told ∧
    (∀ earlier subscriber later, operations = earlier ++ .attach subscriber :: later →
      (∀ other, .attach other ∉ later) →
      registry.Serves subscriber (play earlier .empty).deliveries ∧
      (play earlier .empty).snapshot <+: registry.told ∧
        (play earlier .empty).snapshot.Pairwise fun left right => left.id.Precedes right.id) ∧
    (∀ earlier operation later, operations = earlier ++ operation :: later →
      operation.isRecord = false →
      DeliversAfter (play earlier .empty).attachments (play earlier .empty) registry) ∧
    registry.lookup = operations.foldl statesAfter (fun _ => none) ∧
    (∀ id state, registry.lookup id = some state → state = .present) ∧
    (∀ other : List Operation,
      other.filter Operation.isRecord = operations.filter Operation.isRecord →
      (play other .empty).devices = registry.devices ∧
        (answers other .empty).filter (·.1.isRecord) =
          (answers operations .empty).filter (·.1.isRecord)) ∧
    ∀ other : List Operation,
      other.map Operation.anonymous = operations.map Operation.anonymous →
      (answers other .empty).map Prod.snd = (answers operations .empty).map Prod.snd := by
  intro registry
  have hmirrored : registry.IsMirrored := isMirrored_play operations
  refine ⟨subscriber?_play operations, hmirrored.mirror, hmirrored.news, ?_, ?_,
    lookup_play operations, fun id state hstate => (lookup_eq_some_iff.mp hstate).1, ?_, ?_⟩
  · intro earlier subscriber later hsplit hstays
    have hearlier := isMirrored_play earlier
    refine ⟨?_, ?_, ?_⟩
    · change (play operations .empty).Serves _ _
      rw [hsplit, play_append]
      exact (serves_attach hearlier.numbered subscriber).play hstays
    · have hattached := (hearlier.attach subscriber).1
      change _ <+: (play operations .empty).told
      rw [hsplit, play_append, ← hattached]
      exact told_prefix_play hstays
    · exact List.pairwise_map.mpr
        ((play earlier .empty).devices.ascending.imp LogicalId.compare_eq_lt_iff.mp)
  · intro earlier operation later hsplit hends
    change DeliversAfter _ _ (play operations .empty)
    rw [hsplit, play_append]
    rcases operation.kinds with hrecord | ⟨subscriber, rfl⟩ | rfl
    · exact absurd (hends.symm.trans hrecord) Bool.false_ne_true
    · obtain ⟨hended, hdelivers⟩ := hasEnded_attach (Nat.le_refl _) subscriber
      exact hdelivers.trans (hended.play later)
    · obtain ⟨hended, hdelivers⟩ := hasEnded_detach (Nat.le_refl _)
      exact hdelivers.trans (hended.play later)
  · intro other hrecords
    obtain ⟨hdevices, hanswers⟩ := answers_filter_isRecord rfl operations
    obtain ⟨hotherDevices, hotherAnswers⟩ := answers_filter_isRecord rfl other
    rw [hrecords] at hotherDevices hotherAnswers
    exact ⟨hotherDevices.trans hdevices.symm, hotherAnswers.trans hanswers.symm⟩
  · intro other hanonymous
    rw [answers_anonymous rfl rfl other, hanonymous, ← answers_anonymous rfl rfl operations]

def quietSubscriber : Subscriber :=
  ⟨fun _ _ => .returned⟩

def faultySubscriber : Subscriber :=
  ⟨fun deliveries _ => if deliveries.length % 2 = 0 then .panicked else .returned⟩

/-- What happens before the faulty subscriber takes the place of the quiet one. -/
def quietOperations : List Operation :=
  [.attach quietSubscriber, .present ⟨3, 4, 102⟩]

def faultyOperations : List Operation :=
  quietOperations ++ .attach faultySubscriber :: [.absent ⟨3, 4, 102⟩, .present ⟨3, 4, 105⟩]

theorem faulty_subscriber_mirrors :
    (play faultyOperations .empty).deliveries.map (fun delivery =>
        (delivery.attachment, delivery.ending)) =
      [(1, .returned), (2, .returned), (2, .panicked), (2, .returned)] ∧
    (play faultyOperations .empty).subscriber? = some faultySubscriber ∧
    (play faultyOperations .empty).Serves faultySubscriber
      (play quietOperations .empty).deliveries ∧
    (play faultyOperations .empty).told =
      [⟨⟨3, 4, 102⟩, .present⟩, ⟨⟨3, 4, 102⟩, .notPresent⟩, ⟨⟨3, 4, 105⟩, .present⟩] ∧
    seen (play faultyOperations .empty).told =
      {id | id ∈ (play faultyOperations .empty).devices} ∧
    (play quietOperations .empty).snapshot <+: (play faultyOperations .empty).told := by
  obtain ⟨hsubscriber, hmirror, _, hbegins, _⟩ := subscriber_mirrors_registry faultyOperations
  obtain ⟨hserves, hsnapshot, _⟩ := hbegins quietOperations faultySubscriber
    [.absent ⟨3, 4, 102⟩, .present ⟨3, 4, 105⟩] rfl (by simp)
  exact ⟨by decide, hsubscriber, hserves, by decide, hmirror (by decide), hsnapshot⟩

end Registry

end CameraHotplug
