import Mathlib.Data.List.DropRight
import Mathlib.Data.List.Nodup
import Mathlib.Tactic.SplitIfs

/-!
Queues of bounded length: what is appended to a full one pushes out what came first.

Where only what is not in a queue is put into it, the queue is without duplicates, and what was
pushed out can come back when as many others have followed as the queue holds.
-/

namespace Vero.Lib

structure BoundedQueue (α : Type*) (maxlen : ℕ) where
  items : List α
  bounded : items.length ≤ maxlen

namespace BoundedQueue

variable {α β : Type*} {n : ℕ}

def empty : BoundedQueue α n := ⟨[], by simp⟩

def append (q : BoundedQueue α n) (x : α) : BoundedQueue α n :=
  ⟨(q.items ++ [x]).rtake n, by simp only [List.rtake, List.length_drop]; omega⟩

/-- The queue that holds the last items of a list. -/
def window (l : List α) : BoundedQueue α n :=
  ⟨l.rtake n, by simp only [List.rtake, List.length_drop]; omega⟩

lemma rtake_append_rtake (l : List α) (x : α) :
    (l.rtake n ++ [x]).rtake n = (l ++ [x]).rtake n := by
  simp only [List.rtake_eq_reverse_take_reverse]
  cases n with
  | zero => simp
  | succ n => simp [List.take_take]

/-- Appending keeps a window a window. -/
lemma append_window (l : List α) (x : α) :
    (window l : BoundedQueue α n).append x = window (l ++ [x]) := by
  simp only [append, window, rtake_append_rtake]

@[simp] lemma window_nil : (window [] : BoundedQueue α n) = empty := by simp [window, empty]

lemma items_window (l : List α) : (window l : BoundedQueue α n).items = l.rtake n := rfl

lemma map_rtake (f : α → β) (l : List α) : (l.map f).rtake n = (l.rtake n).map f := by
  simp [List.rtake, List.map_drop]

lemma mem_of_mem_rtake {l : List α} {x : α} (h : x ∈ l.rtake n) : x ∈ l :=
  List.mem_of_mem_drop h

lemma rtake_suffix (l : List α) : l.rtake n <:+ l := List.drop_suffix _ _

lemma length_rtake {l : List α} (h : n ≤ l.length) : (l.rtake n).length = n := by
  simp only [List.rtake, List.length_drop]
  omega

lemma rtake_append_of_le {l m : List α} (h : n ≤ m.length) : (l ++ m).rtake n = m.rtake n := by
  have hdrop : (l ++ m).length - n = l.length + (m.length - n) := by
    rw [List.length_append]
    omega
  unfold List.rtake
  rw [hdrop, List.drop_length_add_append]

lemma mem_rtake_of_length_lt {l m : List α} {x : α} (h : m.length < n) :
    x ∈ (l ++ x :: m).rtake n := by
  have hdrop : (l ++ x :: m).length - n ≤ l.length := by
    rw [List.length_append, List.length_cons]
    omega
  unfold List.rtake
  rw [List.drop_append_of_le_length hdrop]
  simp

lemma nodup_append {q : BoundedQueue α n} {x : α} (hq : q.items.Nodup) (hx : x ∉ q.items) :
    (q.append x).items.Nodup := by
  have hnodup : (q.items.concat x).Nodup := List.Nodup.concat hx hq
  rw [List.concat_eq_append] at hnodup
  exact hnodup.sublist (rtake_suffix _).sublist

/-! ### Without duplicates -/

section

variable [DecidableEq α]

/-- Put in what is not among the items, and say whether it was. -/
def offer (q : BoundedQueue α n) (x : α) : Bool × BoundedQueue α n :=
  if x ∈ q.items then (true, q) else (false, q.append x)

variable (key : β → α)

/-- The queue after the keys of some values were offered, one after the other. -/
def recent (q : BoundedQueue α n) (ys : List β) : BoundedQueue α n :=
  ys.foldl (fun q y => (q.offer (key y)).2) q

/-- The values among them whose keys were not in the queue when they were offered. -/
def novel (q : BoundedQueue α n) : List β → List β
  | [] => []
  | y :: ys =>
    if (q.offer (key y)).1 then novel (q.offer (key y)).2 ys
    else y :: novel (q.offer (key y)).2 ys

variable {key} {q : BoundedQueue α n} {x : α} {y : β} {ys : List β}

lemma offer_eq_false : (q.offer x).1 = false ↔ x ∉ q.items := by
  unfold offer
  split_ifs with hx
  · simp [hx]
  · simp [hx]

lemma recent_cons : q.recent key (y :: ys) = (q.offer (key y)).2.recent key ys := rfl

lemma recent_append {ys zs : List β} :
    q.recent key (ys ++ zs) = (q.recent key ys).recent key zs := List.foldl_append

lemma novel_append {ys zs : List β} :
    q.novel key (ys ++ zs) = q.novel key ys ++ (q.recent key ys).novel key zs := by
  induction ys generalizing q with
  | nil => rfl
  | cons y ys ih =>
    rw [List.cons_append, novel, novel, recent_cons]
    split_ifs with hy
    · exact ih
    · rw [ih, List.cons_append]

lemma nodup_offer (hq : q.items.Nodup) : (q.offer x).2.items.Nodup := by
  unfold offer
  split_ifs with hx
  · exact hq
  · exact nodup_append hq hx

lemma nodup_recent (hq : q.items.Nodup) : (q.recent key ys).items.Nodup := by
  induction ys generalizing q with
  | nil => exact hq
  | cons y ys ih => exact ih (nodup_offer hq)

/-- A window stays one over what is new. -/
lemma recent_window (l : List α) :
    (window l : BoundedQueue α n).recent key ys =
      window (l ++ ((window l : BoundedQueue α n).novel key ys).map key) := by
  induction ys generalizing l with
  | nil => simp [recent, novel]
  | cons y ys ih =>
    by_cases hy : key y ∈ (window l : BoundedQueue α n).items
    · have hoffer : (window l : BoundedQueue α n).offer (key y) = (true, window l) := if_pos hy
      simp only [recent_cons, novel, hoffer, if_true]
      exact ih l
    · have hoffer : (window l : BoundedQueue α n).offer (key y) = (false, window (l ++ [key y])) :=
        append_window l (key y) ▸ if_neg hy
      simp only [recent_cons, novel, hoffer, Bool.false_eq_true, if_false, List.map_cons]
      rw [ih, List.append_assoc, List.singleton_append]

lemma recent_empty :
    (empty : BoundedQueue α n).recent key ys =
      window (((empty : BoundedQueue α n).novel key ys).map key) := by
  rw [← window_nil, recent_window, List.nil_append]

/-- What has left the queue was followed by as many others as the queue holds. -/
lemma length_of_not_mem_recent {l : List α}
    (hx : x ∉ ((window (l ++ [x]) : BoundedQueue α n).recent key ys).items) :
    n ≤ ((window (l ++ [x]) : BoundedQueue α n).novel key ys).length := by
  rw [recent_window, items_window, List.append_assoc, List.singleton_append] at hx
  by_contra hlt
  apply hx
  exact mem_rtake_of_length_lt (by rw [List.length_map]; omega)

lemma items_recent_of_not_mem {l : List α}
    (hx : x ∉ ((window (l ++ [x]) : BoundedQueue α n).recent key ys).items) :
    ((window (l ++ [x]) : BoundedQueue α n).recent key ys).items =
      (((window (l ++ [x]) : BoundedQueue α n).novel key ys).rtake n).map key := by
  have hlength := length_of_not_mem_recent hx
  rw [recent_window, items_window, ← map_rtake]
  exact rtake_append_of_le (by rwa [List.length_map])

end

end BoundedQueue

end Vero.Lib
