import Mathlib.Data.List.Basic
import Mathlib.Order.Lattice

/-!
A scan that keeps the best element so far: a later element takes its place only with a higher
score, and an element at or below a floor is never kept.

The scan may stop early at an element that cannot be beaten.
-/

namespace Vero.Lib.Best

variable {α κ : Type*} [LinearOrder κ] {score : α → κ} {floor : κ} {l : List α} {x y : α}
  {best : κ × Option α}

/-- The first element of the highest score. -/
structure FirstMax (score : α → κ) (l : List α) (x : α) : Prop where
  split : ∃ before after, l = before ++ x :: after ∧ (∀ y ∈ before, score y < score x) ∧
    ∀ y ∈ after, score y ≤ score x

lemma FirstMax.mem (h : FirstMax score l x) : x ∈ l := by
  obtain ⟨before, after, rfl, -, -⟩ := h
  simp

lemma FirstMax.le (h : FirstMax score l x) (hy : y ∈ l) : score y ≤ score x := by
  obtain ⟨before, after, rfl, hbefore, hafter⟩ := h
  rcases List.mem_append.mp hy with hy | hy
  · exact (hbefore y hy).le
  · rcases List.mem_cons.mp hy with rfl | hy
    · exact le_rfl
    · exact hafter y hy

lemma FirstMax.unique (hx : FirstMax score l x) (hy : FirstMax score l y) : x = y := by
  by_contra hne
  obtain ⟨before, after, he, hbefore, hafter⟩ := hx
  obtain ⟨before', after', he', hbefore', hafter'⟩ := hy
  rcases List.append_eq_append_iff.mp (he.symm.trans he') with ⟨mid, hmid, htail⟩ |
    ⟨mid, hmid, htail⟩
  · -- then `x` comes first, so `y` is better and yet not better
    obtain ⟨rest, rfl, rfl⟩ : ∃ rest, mid = x :: rest ∧ after = rest ++ y :: after' := by
      cases mid with
      | nil => exact absurd (List.cons.inj htail).1 hne
      | cons z rest =>
        obtain ⟨rfl, hafter⟩ := List.cons.inj htail
        exact ⟨rest, rfl, hafter⟩
    have hlt := hbefore' x (by simp [hmid])
    exact absurd (hafter y (by simp)) (not_le.mpr hlt)
  · obtain ⟨rest, rfl, rfl⟩ : ∃ rest, mid = y :: rest ∧ after' = rest ++ x :: after := by
      cases mid with
      | nil => exact absurd (List.cons.inj htail).1.symm hne
      | cons z rest =>
        obtain ⟨rfl, hafter⟩ := List.cons.inj htail
        exact ⟨rest, rfl, hafter⟩
    have hlt := hbefore y (by simp [hmid])
    exact absurd (hafter' x (by simp)) (not_le.mpr hlt)

lemma FirstMax.snoc_le (h : FirstMax score l x) (hy : score y ≤ score x) :
    FirstMax score (l ++ [y]) x := by
  obtain ⟨before, after, rfl, hbefore, hafter⟩ := h
  refine ⟨before, after ++ [y], by simp, hbefore, fun z hz => ?_⟩
  rcases List.mem_append.mp hz with hz | hz
  · exact hafter z hz
  · rwa [List.mem_singleton.mp hz]

lemma firstMax_snoc (h : ∀ z ∈ l, score z < score y) : FirstMax score (l ++ [y]) y :=
  ⟨l, [], rfl, h, by simp⟩

/-- The best score and element so far, when `x` is looked at. -/
def keep (score : α → κ) (best : κ × Option α) (x : α) : κ × Option α :=
  if best.1 < score x then (score x, some x) else best

/-- What a scan of the list has kept. -/
inductive Scanned (score : α → κ) (floor : κ) (l : List α) : κ × Option α → Prop
  | none (le : ∀ y ∈ l, score y ≤ floor) : Scanned score floor l (floor, none)
  | some (x : α) (first : FirstMax score l x) (above : floor < score x) :
      Scanned score floor l (score x, some x)

lemma scanned_nil : Scanned score floor [] (floor, none) := .none (by simp)

lemma Scanned.le (h : Scanned score floor l best) (hy : y ∈ l) : score y ≤ best.1 := by
  cases h with
  | none le => exact le y hy
  | some x first => exact first.le hy

/-- **One element.** -/
lemma Scanned.snoc (h : Scanned score floor l best) (y : α) :
    Scanned score floor (l ++ [y]) (keep score best y) := by
  unfold keep
  split
  · next hlt =>
    have hall : ∀ z ∈ l, score z < score y := fun z hz => lt_of_le_of_lt (h.le hz) hlt
    have hfloor : floor < score y := by
      cases h with
      | none => exact hlt
      | some x _ above => exact above.trans hlt
    exact .some y (firstMax_snoc hall) hfloor
  · next hle =>
    have hle := not_lt.mp hle
    cases h with
    | none le =>
      refine .none fun z hz => ?_
      rcases List.mem_append.mp hz with hz | hz
      · exact le z hz
      · rwa [List.mem_singleton.mp hz]
    | some x first above => exact .some x (first.snoc_le hle) above

/-- **The scan.** It may go on from where an earlier one ended. -/
lemma Scanned.foldl (h : Scanned score floor l best) (l' : List α) :
    Scanned score floor (l ++ l') (l'.foldl (keep score) best) := by
  induction l' generalizing l best with
  | nil => simpa using h
  | cons y l' ih =>
    have hnext := ih (h.snoc y)
    rwa [List.append_assoc, List.singleton_append] at hnext

lemma scanned_foldl (score : α → κ) (floor : κ) (l : List α) :
    Scanned score floor l (l.foldl (keep score) (floor, none)) := by
  have h := (scanned_nil : Scanned score floor [] (floor, none)).foldl l
  rwa [List.nil_append] at h

/-! ### Stopping early -/

/-- The scan that returns an element at once when it is kept and ideal. -/
def scanUntil (score : α → κ) (ideal : α → Bool) (best : κ × Option α) : List α → κ × Option α
  | [] => best
  | x :: l =>
    if best.1 < score x then
      if ideal x then (score x, some x) else scanUntil score ideal (score x, some x) l
    else scanUntil score ideal best l

/-- Nothing is kept after an element of a score that no other exceeds. -/
lemma foldl_keep_eq (h : ∀ y ∈ l, score y ≤ best.1) : l.foldl (keep score) best = best := by
  induction l with
  | nil => rfl
  | cons y l ih =>
    have hy := h y List.mem_cons_self
    rw [List.foldl_cons, keep, if_neg (not_lt.mpr hy)]
    exact ih fun z hz => h z (List.mem_cons_of_mem y hz)

/-- **Stopping early changes nothing**, where nothing exceeds an ideal element. -/
lemma scanUntil_eq_foldl {ideal : α → Bool}
    (h : ∀ x ∈ l, ideal x → ∀ y ∈ l, score y ≤ score x) :
    scanUntil score ideal best l = l.foldl (keep score) best := by
  induction l generalizing best with
  | nil => rfl
  | cons x l ih =>
    have hrest : ∀ z ∈ l, ideal z → ∀ y ∈ l, score y ≤ score z := fun z hz hideal y hy =>
      h z (List.mem_cons_of_mem x hz) hideal y (List.mem_cons_of_mem x hy)
    rw [scanUntil, List.foldl_cons, keep]
    split
    · by_cases hideal : ideal x
      · have hle : ∀ y ∈ l, score y ≤ score x := fun y hy =>
          h x List.mem_cons_self hideal y (List.mem_cons_of_mem x hy)
        rw [if_pos hideal, foldl_keep_eq hle]
      · rw [if_neg hideal]
        exact ih hrest
    · exact ih hrest

end Vero.Lib.Best
