import Vero.Lib.BoundedQueue
import Vero.MultiBeaconNode
import Vero.SchemaBeaconAPI

/-!
`EventConsumerService`: dispatching the events of all beacon nodes to their handlers, each
once.

The keys of recent events of every type share one bounded queue. An event that is the first
of its type and key is lost exactly when an event of another type left the same key there.
-/

namespace Vero

/-- Handlers go by their names. `strIntersection` prints the intersection of two sets. -/
structure EventConsumerService where
  beaconNodes : List Host
  headEventHandlers : List String
  reorgEventHandlers : List String
  slashingEventHandlers : List String
  strIntersection : List String → List String → String

end Vero

namespace Vero.EventConsumerService

open Lib SchemaBeaconAPI

/-- An event as a beacon node sends it, and the current slot when it is handled. -/
structure Arrival where
  event : BeaconNodeEvent
  beaconNode : Host
  currentSlot : ℤ

/-- What handling an event does: the log line of an event not seen before, and the tasks that
run the handlers. Only handlers of head events are told the node. -/
inductive Output
  | logged (type : EventType) (key : String)
  | createTask (handler : String) (event : BeaconNodeEvent) (beaconNode : Option Host)
  deriving DecidableEq

variable (c : EventConsumerService)

abbrev RecentEventKeys := BoundedQueue String (10 * c.beaconNodes.length)

def key (event : BeaconNodeEvent) : String := event.dedupKey c.strIntersection

/-- Whether the key is among the recent ones, where it is then put. -/
def hasSeenEvent (recentEventKeys : c.RecentEventKeys) (event : BeaconNodeEvent) :
    Bool × c.RecentEventKeys :=
  if c.key event ∈ recentEventKeys.items then (true, recentEventKeys)
  else (false, recentEventKeys.append (c.key event))

def Arrival.old (a : Arrival) : Prop := ∃ slot ∈ a.event.slot, slot < a.currentSlot

instance (a : Arrival) : Decidable a.old :=
  inferInstanceAs (Decidable (∃ slot ∈ a.event.slot, slot < a.currentSlot))

/-- The tasks that run the handlers of an event. -/
def tasks (a : Arrival) : List Output :=
  match a.event with
  | .head _ => c.headEventHandlers.map fun h => .createTask h a.event (some a.beaconNode)
  | .chainReorg _ => c.reorgEventHandlers.map fun h => .createTask h a.event none
  | .attesterSlashing _ | .proposerSlashing _ =>
    c.slashingEventHandlers.map fun h => .createTask h a.event none

def handleEvent (recentEventKeys : c.RecentEventKeys) (a : Arrival) :
    c.RecentEventKeys × List Output :=
  if a.old then (recentEventKeys, [])
  else
    match c.hasSeenEvent recentEventKeys a.event with
    | (true, recentEventKeys) => (recentEventKeys, [])
    | (false, recentEventKeys) =>
      (recentEventKeys, .logged a.event.type (c.key a.event) :: c.tasks a)

/-- The events of all nodes, in the order in which they are handled. -/
def handleEvents (as : List Arrival) : c.RecentEventKeys × List Output :=
  as.foldl (fun s a => ((c.handleEvent s.1 a).1, s.2 ++ (c.handleEvent s.1 a).2)) (.empty, [])

lemma handleEvents_snoc (as : List Arrival) (a : Arrival) :
    c.handleEvents (as ++ [a]) =
      ((c.handleEvent (c.handleEvents as).1 a).1,
        (c.handleEvents as).2 ++ (c.handleEvent (c.handleEvents as).1 a).2) := by
  simp [handleEvents]

/-- The types and keys of the events that were not seen before, as they were logged. -/
def logged (os : List Output) : List (EventType × String) :=
  os.filterMap fun
    | .logged type key => some (type, key)
    | .createTask _ _ _ => none

lemma logged_append (os o : List Output) : logged (os ++ o) = logged os ++ logged o := by
  simp [logged]

lemma logged_tasks (a : Arrival) : logged (c.tasks a) = [] := by
  unfold tasks logged
  split <;> simp

/-- An event is handled if it is not old and its key is not in the queue. -/
lemma handleEvent_eq (q : c.RecentEventKeys) (a : Arrival) :
    c.handleEvent q a = if a.old ∨ c.key a.event ∈ q.items then (q, [])
      else (q.append (c.key a.event), .logged a.event.type (c.key a.event) :: c.tasks a) := by
  unfold handleEvent hasSeenEvent
  by_cases hold : a.old
  · simp [hold]
  · by_cases hk : c.key a.event ∈ q.items
    · simp [hold, hk]
    · simp [hold, hk]

lemma logged_handleEvent (q : c.RecentEventKeys) (a : Arrival) :
    logged (c.handleEvent q a).2 =
      if a.old ∨ c.key a.event ∈ q.items then [] else [(a.event.type, c.key a.event)] := by
  rw [handleEvent_eq]
  split_ifs with hseen
  · rfl
  · exact congrArg ((a.event.type, c.key a.event) :: ·) (c.logged_tasks a)

lemma keys_handleEvent (q : c.RecentEventKeys) (a : Arrival) :
    (c.handleEvent q a).1 =
      if a.old ∨ c.key a.event ∈ q.items then q else q.append (c.key a.event) := by
  rw [handleEvent_eq]
  split_ifs with hseen
  · rfl
  · rfl

/-! ### The queue over a stream -/

/-- The queue holds the keys last logged. -/
lemma keys_handleEvents (as : List Arrival) :
    (c.handleEvents as).1 = .window ((logged (c.handleEvents as).2).map Prod.snd) := by
  induction as using List.reverseRecOn with
  | nil => simp [handleEvents, logged]
  | append_singleton as a ih =>
    rw [handleEvents_snoc, logged_append, logged_handleEvent, keys_handleEvent]
    by_cases hseen : a.old ∨ c.key a.event ∈ (c.handleEvents as).1.items
    · simp only [hseen, if_true, List.append_nil]
      exact ih
    · simp only [hseen, if_false, List.map_append]
      rw [← List.map_singleton, ih]
      exact BoundedQueue.append_window _ _

/-- What was logged was sent, and not for an old slot. -/
lemma sent_of_logged {as : List Arrival} {t : EventType} {k : String}
    (h : (t, k) ∈ logged (c.handleEvents as).2) :
    ∃ b ∈ as, ¬ b.old ∧ b.event.type = t ∧ c.key b.event = k := by
  induction as using List.reverseRecOn with
  | nil => simp [handleEvents, logged] at h
  | append_singleton as a ih =>
    rw [handleEvents_snoc, logged_append, logged_handleEvent] at h
    rcases List.mem_append.mp h with h | h
    · obtain ⟨b, hb, hs⟩ := ih h
      exact ⟨b, by simp [hb], hs⟩
    · split_ifs at h with hseen
      · simp at h
      · obtain ⟨rfl, rfl⟩ := Prod.mk.inj (List.mem_singleton.mp h)
        exact ⟨a, by simp, fun hold => hseen (.inl hold), rfl, rfl⟩

/-! ### Main result -/

/-- The arrival is not for an old slot, and no such arrival before had its type and key. -/
def First (pre : List Arrival) (a : Arrival) : Prop :=
  ¬ a.old ∧ ∀ b ∈ pre, ¬ b.old → ¬ (b.event.type = a.event.type ∧ c.key b.event = c.key a.event)

def handlers : EventType → List String
  | .headEvent => c.headEventHandlers
  | .chainReorgEvent => c.reorgEventHandlers
  | .attesterSlashingEvent | .proposerSlashingEvent => c.slashingEventHandlers

/-- The node a handler is told of. -/
def Arrival.told (a : Arrival) : Option Host :=
  if a.event.type = .headEvent then some a.beaconNode else none

/-- Handling the arrival after the others creates a task for every handler of its type. -/
def Dispatched (pre : List Arrival) (a : Arrival) : Prop :=
  ∀ h ∈ c.handlers a.event.type,
    .createTask h a.event a.told ∈ (c.handleEvent (c.handleEvents pre).1 a).2

/-- An event of another type with the key of the arrival is among the last `10 * n` that were
not deduplicated. -/
def Collides (pre : List Arrival) (a : Arrival) : Prop :=
  ∃ t, t ≠ a.event.type ∧
    (t, c.key a.event) ∈ (logged (c.handleEvents pre).2).rtake (10 * c.beaconNodes.length)

lemma mem_tasks {a : Arrival} {h : String} (hh : h ∈ c.handlers a.event.type) :
    .createTask h a.event a.told ∈ c.tasks a := by
  obtain ⟨event, node, slot⟩ := a
  cases event with
  | head event | chainReorg event | attesterSlashing event | proposerSlashing event =>
    exact List.mem_map.mpr ⟨h, hh, rfl⟩

/-- For the first of its type and key, the queue has the key only from another type. -/
lemma seen_iff_collides {pre : List Arrival} {a : Arrival} (hf : c.First pre a) :
    c.key a.event ∈ (c.handleEvents pre).1.items ↔ c.Collides pre a := by
  rw [keys_handleEvents, BoundedQueue.items_window, BoundedQueue.map_rtake]
  constructor
  · intro h
    obtain ⟨⟨t, k⟩, hm, hk⟩ := List.mem_map.mp h
    obtain rfl : k = c.key a.event := hk
    obtain ⟨b, hb, hold, ht, hkb⟩ := c.sent_of_logged (BoundedQueue.mem_of_mem_rtake hm)
    exact ⟨t, fun he => hf.2 b hb hold ⟨ht.trans he, hkb⟩, hm⟩
  · rintro ⟨t, -, hm⟩
    exact List.mem_map.mpr ⟨_, hm, rfl⟩

lemma dispatched_iff {pre : List Arrival} {a : Arrival} (hf : c.First pre a) :
    c.Dispatched pre a ↔ c.handlers a.event.type = [] ∨ ¬ c.Collides pre a := by
  rw [← c.seen_iff_collides hf]
  have hold := hf.1
  by_cases hseen : c.key a.event ∈ (c.handleEvents pre).1.items
  · have hnone : (c.handleEvent (c.handleEvents pre).1 a).2 = [] := by
      rw [handleEvent_eq, if_pos (.inr hseen)]
    simp only [Dispatched, hnone, hseen, not_true, or_false, List.not_mem_nil]
    exact List.eq_nil_iff_forall_not_mem.symm
  · have hall : (c.handleEvent (c.handleEvents pre).1 a).2 =
        .logged a.event.type (c.key a.event) :: c.tasks a := by
      rw [handleEvent_eq, if_neg (not_or.mpr ⟨hold, hseen⟩)]
    simp only [hseen, not_false_eq_true, or_true, iff_true]
    intro h hh
    rw [hall]
    exact List.mem_cons_of_mem _ (c.mem_tasks hh)

/-- **When de-duplication loses nothing.** The first event of every type and key in a stream
is dispatched to all handlers of its type if and only if none of them that has a handler finds
its key left in the queue by an event of another type. -/
theorem deduplication_lossless_iff (as : List Arrival) :
    (∀ pre a post, as = pre ++ a :: post → c.First pre a → c.Dispatched pre a) ↔
      ∀ pre a post, as = pre ++ a :: post → c.First pre a →
        c.handlers a.event.type = [] ∨ ¬ c.Collides pre a := by
  constructor
  · intro h pre a post he hf
    exact (c.dispatched_iff hf).mp (h pre a post he hf)
  · intro h pre a post he hf
    exact (c.dispatched_iff hf).mpr (h pre a post he hf)

/-- One node, with a handler for head events and one for reorg events. -/
def oneNode : EventConsumerService where
  beaconNodes := ["a"]
  headEventHandlers := ["handle_head_event"]
  reorgEventHandlers := ["handle_reorg_event"]
  slashingEventHandlers := []
  strIntersection := fun _ _ => "set()"

/-- A reorg and the head event of its new head, whichever comes first: the second is lost. -/
theorem reorg_and_head_collide :
    let head : Arrival := ⟨.head ⟨64, "0xb", "0xp", "0xc"⟩, "a", 64⟩
    let reorg : Arrival := ⟨.chainReorg ⟨64, "2", "0xo", "0xb"⟩, "a", 64⟩
    oneNode.First [head] reorg ∧ ¬ oneNode.Dispatched [head] reorg ∧
      oneNode.First [reorg] head ∧ ¬ oneNode.Dispatched [reorg] head := by
  refine ⟨⟨by decide, by decide⟩, ?_, ⟨by decide, by decide⟩, ?_⟩
  · exact fun h => absurd (h "handle_reorg_event" (by decide)) (by decide)
  · exact fun h => absurd (h "handle_head_event" (by decide)) (by decide)

end Vero.EventConsumerService
