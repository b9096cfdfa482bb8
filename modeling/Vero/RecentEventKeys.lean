import Vero.EventConsumerService

/-!
The keys that `EventConsumerService` remembers, over a sequence of calls of `_has_seen_event`.

A key that is found is not moved to the end of the queue. It leaves the queue when `10 * n` new
keys have followed, and only then can an event with that key pass again.
-/

namespace Vero.EventConsumerService

open Lib SchemaBeaconAPI

variable (c : EventConsumerService)

/-- The queue after some calls of `_has_seen_event`, one after the other. -/
def recentEventKeys (calls : List BeaconNodeEvent) : c.RecentEventKeys :=
  calls.foldl (fun q event => (c.hasSeenEvent q event).2) .empty

/-- The calls among them that return `False`. -/
def unseen (q : c.RecentEventKeys) : List BeaconNodeEvent → List BeaconNodeEvent
  | [] => []
  | event :: calls =>
    match c.hasSeenEvent q event with
    | (true, q) => unseen q calls
    | (false, q) => event :: unseen q calls

/-- Some of the calls are for keys other than the event's, all of them different, and they are as
many as the queue holds. -/
def FullOfOthers (event : BeaconNodeEvent) (calls : List BeaconNodeEvent) : Prop :=
  ∃ others : List BeaconNodeEvent, others.Sublist calls ∧
    10 * c.beaconNodes.length ≤ others.length ∧ (others.map c.key).Nodup ∧
    c.key event ∉ others.map c.key

variable {c} {q : c.RecentEventKeys} {calls pre mid : List BeaconNodeEvent}
  {event event' : BeaconNodeEvent}

/-! ### Calls as offers to the queue -/

lemma hasSeenEvent_eq : c.hasSeenEvent q event = q.offer (c.key event) := rfl

lemma recentEventKeys_eq : c.recentEventKeys calls = BoundedQueue.recent c.key .empty calls := rfl

lemma unseen_eq : c.unseen q calls = q.novel c.key calls := by
  induction calls generalizing q with
  | nil => rfl
  | cons event calls ih =>
    by_cases hseen : c.key event ∈ q.items
    · simp only [unseen, BoundedQueue.novel, hasSeenEvent_eq, BoundedQueue.offer, hseen, if_true]
      exact ih
    · simp only [unseen, BoundedQueue.novel, hasSeenEvent_eq, BoundedQueue.offer, hseen, if_false,
        Bool.false_eq_true, ih]

lemma recentEventKeys_eq_window :
    c.recentEventKeys calls = .window ((c.unseen .empty calls).map c.key) := by
  rw [recentEventKeys_eq, BoundedQueue.recent_empty, unseen_eq]

lemma nodup_recentEventKeys : (c.recentEventKeys calls).items.Nodup :=
  BoundedQueue.nodup_recent List.nodup_nil

/-- A call that returns `False` puts its key at the end. -/
lemma recentEventKeys_snoc (h : (c.hasSeenEvent (c.recentEventKeys calls) event).1 = false) :
    c.recentEventKeys (calls ++ [event]) =
      .window ((c.unseen .empty calls).map c.key ++ [c.key event]) := by
  have hnew : c.key event ∉ (c.recentEventKeys calls).items := BoundedQueue.offer_eq_false.mp h
  have hseen : c.hasSeenEvent (c.recentEventKeys calls) event =
      (false, (c.recentEventKeys calls).append (c.key event)) := if_neg hnew
  have hsnoc : c.recentEventKeys (calls ++ [event]) =
      (c.hasSeenEvent (c.recentEventKeys calls) event).2 := by simp [recentEventKeys]
  rw [hsnoc, hseen, recentEventKeys_eq_window]
  exact BoundedQueue.append_window _ _

/-- The calls between two that return `False` for one key: so many of them do so for others. -/
lemma unseen_between (hfalse : (c.hasSeenEvent (c.recentEventKeys pre) event).1 = false)
    (hfalse' : (c.hasSeenEvent (c.recentEventKeys (pre ++ event :: mid)) event').1 = false)
    (hkey : c.key event = c.key event') :
    c.FullOfOthers event (c.unseen (c.recentEventKeys (pre ++ [event])) mid) := by
  have hcut : c.recentEventKeys (pre ++ event :: mid) =
      (c.recentEventKeys (pre ++ [event])).recent c.key mid := by
    rw [List.append_cons, recentEventKeys_eq, BoundedQueue.recent_append, ← recentEventKeys_eq]
  have hleft : c.key event ∉ (c.recentEventKeys (pre ++ event :: mid)).items :=
    hkey ▸ BoundedQueue.offer_eq_false.mp hfalse'
  have hnodup : (c.recentEventKeys (pre ++ event :: mid)).items.Nodup := nodup_recentEventKeys
  rw [hcut, recentEventKeys_snoc hfalse] at hleft hnodup
  rw [recentEventKeys_snoc hfalse, unseen_eq]
  have hitems := BoundedQueue.items_recent_of_not_mem hleft
  rw [hitems] at hnodup
  -- what the queue holds at the second call came after the first
  refine ⟨_, (BoundedQueue.rtake_suffix _).sublist, ?_, hnodup, hitems ▸ hleft⟩
  exact (BoundedQueue.length_rtake (BoundedQueue.length_of_not_mem_recent hleft)).ge

/-! ### The events of all nodes -/

/-- The calls that handling some events makes: one for each that is not for an old slot. -/
def hasSeenEventCalls (as : List Arrival) : List BeaconNodeEvent :=
  (as.filter fun a => ¬ a.old).map (·.event)

lemma unseen_snoc : c.unseen .empty (calls ++ [event]) =
    c.unseen .empty calls ++
      if c.key event ∈ (c.recentEventKeys calls).items then [] else [event] := by
  have hlast : c.unseen (c.recentEventKeys calls) [event] =
      if c.key event ∈ (c.recentEventKeys calls).items then [] else [event] := by
    unfold unseen hasSeenEvent
    split_ifs with hseen
    · rfl
    · rfl
  rw [← hlast, unseen_eq, unseen_eq, unseen_eq]
  exact BoundedQueue.novel_append

/-- The queue follows from what was logged. -/
lemma recentEventKeys_of_logged {as : List Arrival} (h : logged (c.handleEvents as).2 =
    (c.unseen .empty calls).map fun event => (event.type, c.key event)) :
    (c.handleEvents as).1 = c.recentEventKeys calls := by
  rw [keys_handleEvents, h, recentEventKeys_eq_window, List.map_map]
  rfl

/-- What is logged is what the calls return `False` for. -/
lemma logged_handleEvents (as : List Arrival) : logged (c.handleEvents as).2 =
    (c.unseen .empty (hasSeenEventCalls as)).map fun event => (event.type, c.key event) := by
  induction as using List.reverseRecOn with
  | nil => rfl
  | append_singleton as a ih =>
    rw [handleEvents_snoc, logged_append, logged_handleEvent, ih, recentEventKeys_of_logged ih]
    by_cases hold : a.old
    · have hcalls : hasSeenEventCalls (as ++ [a]) = hasSeenEventCalls as := by
        simp [hasSeenEventCalls, hold]
      simp only [hold, true_or, if_true, List.append_nil, hcalls]
    · have hcalls : hasSeenEventCalls (as ++ [a]) = hasSeenEventCalls as ++ [a.event] := by
        simp [hasSeenEventCalls, hold]
      rw [hcalls, unseen_snoc, List.map_append]
      simp only [hold, false_or]
      split_ifs with hseen
      · rfl
      · rfl

/-- Handling the events leaves the queue that these calls leave. -/
lemma recentEventKeys_handleEvents (as : List Arrival) :
    (c.handleEvents as).1 = c.recentEventKeys (hasSeenEventCalls as) :=
  recentEventKeys_of_logged (logged_handleEvents as)

/-! ### Main result -/

/-- What the queue does for a sequence of calls. -/
structure SuppressesRepeats (c : EventConsumerService) (calls : List BeaconNodeEvent) : Prop where
  nodup : (c.recentEventKeys calls).items.Nodup
  bounded : (c.recentEventKeys calls).items.length ≤ 10 * c.beaconNodes.length
  suffix : (c.recentEventKeys calls).items =
    ((c.unseen .empty calls).map c.key).rtake (10 * c.beaconNodes.length)
  between : ∀ pre event mid event' post, calls = pre ++ event :: mid ++ event' :: post →
    c.key event = c.key event' → (c.hasSeenEvent (c.recentEventKeys pre) event).1 = false →
    (c.hasSeenEvent (c.recentEventKeys (pre ++ event :: mid)) event').1 = false →
    c.FullOfOthers event (c.unseen (c.recentEventKeys (pre ++ [event])) mid)

variable (c) in
/-- **The window of the queue.** -/
theorem recentEventKeys_suppress (calls : List BeaconNodeEvent) : c.SuppressesRepeats calls where
  nodup := nodup_recentEventKeys
  bounded := (c.recentEventKeys calls).bounded
  suffix := congrArg BoundedQueue.items recentEventKeys_eq_window
  between _ _ _ _ _ _ hkey hfalse hfalse' := unseen_between hfalse hfalse' hkey

end Vero.EventConsumerService
