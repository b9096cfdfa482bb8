import Mathlib.Data.List.Basic
import Mathlib.Order.Basic
import Mathlib.Tactic.SplitIfs

/-!
Machines that take labelled steps, and what holds along their runs.

A step that is not enabled gives `none`; an enabled one gives the next state and what it
emits. A run may be restricted by a guard on its steps, and a machine may be started again
from what an earlier run left behind.
-/

namespace Vero.Lib.Runs

variable {σ α ο : Type*}

abbrev Machine (σ α ο : Type*) := σ → α → Option (σ × List ο)

/-- What a step may be restricted by: the state before it, what was emitted so far, and its
label. -/
abbrev Guard (σ α ο : Type*) := σ → List ο → α → Prop

/-- The steps `as` lead from `s₀` to `s` and emit `os`, each taken where the guard holds. -/
inductive RunIf (m : Machine σ α ο) (C : Guard σ α ο) (s₀ : σ) : List α → σ → List ο → Prop
  | nil : RunIf m C s₀ [] s₀ []
  | snoc {as : List α} {s s' : σ} {os o : List ο} {a : α} :
      RunIf m C s₀ as s os → C s os a → m s a = some (s', o) →
      RunIf m C s₀ (as ++ [a]) s' (os ++ o)

abbrev Run (m : Machine σ α ο) (s₀ : σ) : List α → σ → List ο → Prop :=
  RunIf m (fun _ _ _ => True) s₀

variable {m : Machine σ α ο} {C D : Guard σ α ο} {s₀ s : σ} {as : List α} {os : List ο}

/-- **The invariant rule.** What holds at the start and is kept by every step of the run
holds where the run ends. -/
theorem RunIf.invariant {I : σ → List ο → Prop} (h0 : I s₀ [])
    (hstep : ∀ s os a s' o, I s os → C s os a → m s a = some (s', o) → I s' (os ++ o))
    (r : RunIf m C s₀ as s os) : I s os := by
  induction r with
  | nil => exact h0
  | snoc _ hC hm ih => exact hstep _ _ _ _ _ ih hC hm

lemma RunIf.mono (h : ∀ s os a, C s os a → D s os a) (r : RunIf m C s₀ as s os) :
    RunIf m D s₀ as s os := by
  induction r with
  | nil => exact .nil
  | snoc _ hC hm ih => exact .snoc ih (h _ _ _ hC) hm

/-- A guard may be replaced by one that follows from it where an invariant of the run holds. -/
lemma RunIf.mono_of_invariant {I : σ → Prop} (h0 : I s₀)
    (hstep : ∀ s os a s' o, I s → C s os a → m s a = some (s', o) → I s')
    (h : ∀ s os a, I s → C s os a → D s os a) (r : RunIf m C s₀ as s os) :
    I s ∧ RunIf m D s₀ as s os := by
  induction r with
  | nil => exact ⟨h0, .nil⟩
  | snoc _ hC hm ih =>
    obtain ⟨hI, r⟩ := ih
    exact ⟨hstep _ _ _ _ _ hI hC hm, .snoc r (h _ _ _ hI hC) hm⟩

lemma RunIf.run (r : RunIf m C s₀ as s os) : Run m s₀ as s os :=
  r.mono fun _ _ _ _ => trivial

/-- A run goes on from where another one ends. -/
lemma Run.trans {s' : σ} {as' : List α} {os' : List ο} (r : Run m s₀ as s os)
    (r' : Run m s as' s' os') : Run m s₀ (as ++ as') s' (os ++ os') := by
  induction r' with
  | nil => simpa using r
  | snoc _ _ hm ih =>
    rw [← List.append_assoc, ← List.append_assoc]
    exact .snoc ih trivial hm

/-- A run has been somewhere in between. -/
lemma Run.split {as' : List α} (r : Run m s₀ (as ++ as') s os) :
    ∃ s' os' o, Run m s₀ as s' os' ∧ Run m s' as' s o ∧ os = os' ++ o := by
  generalize hall : as ++ as' = all at r
  induction r generalizing as' with
  | nil =>
    obtain ⟨rfl, rfl⟩ := List.append_eq_nil_iff.mp hall
    exact ⟨s₀, [], [], .nil, .nil, rfl⟩
  | @snoc as₁ s₁ s₂ os₁ o a r _ hm ih =>
    rcases List.eq_nil_or_concat as' with rfl | ⟨init, last, rfl⟩
    · rw [List.append_nil] at hall
      exact ⟨s₂, os₁ ++ o, [], by rw [hall]; exact .snoc r trivial hm, .nil, by simp⟩
    · rw [List.concat_eq_append, ← List.append_assoc] at hall
      obtain ⟨hinit, hlast⟩ := List.append_inj' hall rfl
      obtain rfl : last = a := by simpa using hlast
      obtain ⟨s', os', o', r₁, r₂, rfl⟩ := ih hinit
      rw [List.concat_eq_append]
      exact ⟨s', os', o' ++ o, r₁, .snoc r₂ trivial hm, by simp⟩

lemma Run.step_of_singleton {a : α} (r : Run m s₀ [a] s os) : m s₀ a = some (s, os) := by
  generalize hone : [a] = one at r
  cases r with
  | nil => cases hone
  | @snoc as₁ s₁ _ os₁ o a' r _ hm =>
    obtain ⟨hnil, hlast⟩ := List.append_inj' (show [] ++ [a] = as₁ ++ [a'] from hone) rfl
    obtain rfl : a = a' := by simpa using hlast
    generalize as₁ = bs at hnil r
    cases r with
    | nil => simpa using hm
    | snoc => simp at hnil

/-- A run, before and after one of its steps. -/
lemma Run.split_at {a : α} {as' : List α} (r : Run m s₀ (as ++ a :: as') s os) :
    ∃ s₁ s₂ os₁ o os₂, Run m s₀ as s₁ os₁ ∧ m s₁ a = some (s₂, o) ∧ Run m s₂ as' s os₂ := by
  obtain ⟨s₁, os₁, o₁, r₁, r₂, -⟩ := r.split
  rw [← List.singleton_append] at r₂
  obtain ⟨s₂, o, os₂, rstep, r₃, -⟩ := Run.split r₂
  exact ⟨s₁, s₂, os₁, o, os₂, r₁, rstep.step_of_singleton, r₃⟩

lemma run_step {s' : σ} {a : α} {o : List ο} (h : m s a = some (s', o)) : Run m s [a] s' o :=
  .snoc .nil trivial h

/-- Steps that change nothing and emit nothing of interest may be left out. -/
lemma Run.filter {p : α → Bool} {q : ο → Bool}
    (h : ∀ s a s' o, m s a = some (s', o) →
      if p a then o.filter q = o else s' = s ∧ o.filter q = [])
    (r : Run m s₀ as s os) : Run m s₀ (as.filter p) s (os.filter q) := by
  induction r with
  | nil => exact .nil
  | @snoc as s s' os o a _ _ hm ih =>
    have hstep := h s a s' o hm
    rw [List.filter_append, List.filter_append]
    cases hp : p a with
    | true =>
      rw [hp, if_pos rfl] at hstep
      rw [hstep, List.filter_cons_of_pos hp, List.filter_nil]
      exact .snoc ih trivial hm
    | false =>
      rw [hp, if_neg (by simp)] at hstep
      obtain ⟨rfl, ho⟩ := hstep
      rw [ho, List.filter_cons_of_neg (by simp [hp]), List.filter_nil, List.append_nil,
        List.append_nil]
      exact ih

/-! ### Outputs of one kind -/

/-- What a projection finds in a history is what its section embeds there. -/
lemma mem_filterMap_iff {β : Type*} {f : ο → Option β} {g : β → ο}
    (h : ∀ y x, f y = some x ↔ y = g x) {x : β} : x ∈ os.filterMap f ↔ g x ∈ os := by
  simp only [List.mem_filterMap, h, exists_eq_right]

/-! ### Moments of a history -/

/-- The history has `x` at a moment after which it goes on with `post`. -/
def Since (os : List ο) (x : ο) (post : List ο) : Prop := ∃ pre, os = pre ++ x :: post

@[simp] lemma not_since_nil {x : ο} {post : List ο} : ¬ Since [] x post := by simp [Since]

/-- A moment of a longer history is a moment of its new part, or one of its old part. -/
lemma since_append {o : List ο} {x : ο} {post : List ο} :
    Since (os ++ o) x post ↔ Since o x post ∨ ∃ p, Since os x p ∧ post = p ++ o := by
  constructor
  · rintro ⟨pre, he⟩
    rcases List.append_eq_append_iff.mp he with ⟨l, -, ho⟩ | ⟨l, hos, hl⟩
    · exact .inl ⟨l, ho⟩
    · cases l with
      | nil => exact .inl ⟨[], hl.symm⟩
      | cons y l =>
        obtain ⟨rfl, rfl⟩ := List.cons.inj hl
        exact .inr ⟨l, ⟨pre, hos⟩, rfl⟩
  · rintro (⟨pre, rfl⟩ | ⟨p, ⟨pre, rfl⟩, rfl⟩)
    · exact ⟨os ++ pre, by simp⟩
    · exact ⟨pre, by simp⟩

/-- A moment after which `y` does not come, in the old part or the new. -/
lemma since_append_of_notMem {o : List ο} {x y : ο} {post : List ο} (h : Since (os ++ o) x post)
    (hy : y ∉ post) : Since o x post ∨ ∃ p, Since os x p ∧ y ∉ p ∧ post = p ++ o := by
  rcases since_append.mp h with hnow | ⟨p, hp, rfl⟩
  · exact .inl hnow
  · have hold : y ∉ p := fun hm => hy (List.mem_append_left _ hm)
    exact .inr ⟨p, hp, hold, rfl⟩

@[simp] lemma since_singleton {x y : ο} {post : List ο} : Since [y] x post ↔ y = x ∧ post = [] := by
  constructor
  · rintro ⟨pre, he⟩
    cases pre with
    | nil => exact ⟨(List.cons.inj he).1, (List.cons.inj he).2.symm⟩
    | cons z pre => simp at he
  · rintro ⟨rfl, rfl⟩
    exact ⟨[], rfl⟩

lemma exists_since {x : ο} (h : x ∈ os) : ∃ post, Since os x post := by
  obtain ⟨pre, post, he⟩ := List.append_of_mem h
  exact ⟨post, pre, he⟩

lemma Since.mem {x : ο} {post : List ο} (h : Since os x post) : x ∈ os := by
  obtain ⟨pre, rfl⟩ := h
  simp

/-- Every entry of the history is as the history before it demands. -/
def Always (P : List ο → ο → Prop) (os : List ο) : Prop :=
  ∀ pre x post, os = pre ++ x :: post → P pre x

lemma Always.nil (P : List ο → ο → Prop) : Always P [] := fun pre x post h => by simp at h

lemma Always.snoc {P : List ο → ο → Prop} {x : ο} (h : Always P os) (hx : P os x) :
    Always P (os ++ [x]) := by
  intro pre y post he
  rcases List.eq_nil_or_concat post with rfl | ⟨init, last, rfl⟩
  · obtain ⟨rfl, hlast⟩ := List.append_inj' he rfl
    obtain rfl : x = y := by simpa using hlast
    exact hx
  · rw [List.concat_eq_append, ← List.cons_append, ← List.append_assoc] at he
    exact h pre y init (List.append_inj' he rfl).1

/-! ### Rising sequences -/

/-- The list rises strictly and the mark is at its last entry or beyond. -/
structure Rising {κ : Type*} [Preorder κ] (l : List κ) (mark : κ) : Prop where
  sorted : l.Pairwise (· < ·)
  le : ∀ x ∈ l, x ≤ mark

lemma Rising.nil {κ : Type*} [Preorder κ] (mark : κ) : Rising [] mark := ⟨.nil, by simp⟩

/-- An entry beyond the mark is new and keeps the list rising. -/
lemma Rising.snoc {κ : Type*} [Preorder κ] {l : List κ} {mark x : κ} (h : Rising l mark)
    (hx : mark < x) : Rising (l ++ [x]) x := by
  refine ⟨List.pairwise_append.mpr ⟨h.sorted, List.pairwise_singleton _ _, fun y hy z hz => ?_⟩,
    fun y hy => ?_⟩
  · rw [List.mem_singleton.mp hz]
    exact lt_of_le_of_lt (h.le y hy) hx
  · rcases List.mem_append.mp hy with hy | hy
    · exact (lt_of_le_of_lt (h.le y hy) hx).le
    · exact (List.mem_singleton.mp hy).le

lemma Rising.notMem {κ : Type*} [Preorder κ] {l : List κ} {mark x : κ} (h : Rising l mark)
    (hx : mark < x) : x ∉ l := fun hm => absurd (h.le x hm) (not_le_of_gt hx)

/-! ### Executing a machine -/

/-- Taking steps one after the other, each where the guard holds, `os` having been emitted. -/
def execIf (m : Machine σ α ο) (C : Guard σ α ο) [∀ s os a, Decidable (C s os a)] (s : σ)
    (os : List ο) : List α → Option (σ × List ο)
  | [] => some (s, os)
  | a :: as => if C s os a then (m s a).bind fun p => execIf m C p.1 (os ++ p.2) as else none

abbrev exec (m : Machine σ α ο) (s : σ) : List α → Option (σ × List ο) :=
  execIf m (fun _ _ _ => True) s []

lemma execIf_runIf [∀ s os a, Decidable (C s os a)] {as' : List α} {s' : σ} {os' : List ο}
    (r : RunIf m C s₀ as s os) (h : execIf m C s os as' = some (s', os')) :
    RunIf m C s₀ (as ++ as') s' os' := by
  induction as' generalizing as s os with
  | nil =>
    obtain ⟨rfl, rfl⟩ : s = s' ∧ os = os' := by simpa [execIf] using h
    rwa [List.append_nil]
  | cons a as' ih =>
    simp only [execIf] at h
    split_ifs at h with hC
    obtain ⟨⟨s₁, o⟩, hm, he⟩ := Option.bind_eq_some_iff.mp h
    simpa using ih (r.snoc hC hm) he

theorem exec_run [∀ s os a, Decidable (C s os a)] (h : execIf m C s₀ [] as = some (s, os)) :
    RunIf m C s₀ as s os := by
  simpa using execIf_runIf .nil h

/-- A test that succeeds on an execution is a fact about a run. -/
lemma exec_any [∀ s os a, Decidable (C s os a)] {p : σ → List ο → Bool}
    (h : (execIf m C s₀ [] as).any (fun q => p q.1 q.2) = true) :
    ∃ s os, RunIf m C s₀ as s os ∧ p s os = true := by
  cases he : execIf m C s₀ [] as with
  | none => simp [he] at h
  | some q => exact ⟨q.1, q.2, exec_run he, by simpa [he] using h⟩

/-- The same for a run with the step after it. -/
lemma exec_next [∀ s os a, Decidable (C s os a)] {a : α} {p : σ → σ → List ο → Bool}
    (h : (execIf m C s₀ [] as).any (fun q =>
      C q.1 q.2 a ∧ (m q.1 a).any fun t => p q.1 t.1 t.2) = true) :
    ∃ s os s' o, RunIf m C s₀ as s os ∧ C s os a ∧ m s a = some (s', o) ∧ p s s' o = true := by
  obtain ⟨s, os, r, hp⟩ := exec_any
    (p := fun s os => C s os a ∧ (m s a).any fun t => p s t.1 t.2) h
  obtain ⟨hC, ht⟩ := of_decide_eq_true hp
  cases hm : m s a with
  | none => simp [hm] at ht
  | some t => exact ⟨s, os, t.1, t.2, r, hC, hm, by simpa [hm] using ht⟩

/-! ### Starting again -/

/-- The states a machine is started in: a fresh one, or one made from where an earlier run
ended. -/
inductive Boots (m : Machine σ α ο) (C : Guard σ α ο) (Fresh : σ → Prop)
    (Reboot : σ → σ → Prop) : σ → Prop
  | fresh {s : σ} : Fresh s → Boots m C Fresh Reboot s
  | reboot {s₀ s s' : σ} {as : List α} {os : List ο} :
      Boots m C Fresh Reboot s₀ → RunIf m C s₀ as s os → Reboot s s' →
      Boots m C Fresh Reboot s'

lemma Boots.mono {Fresh : σ → Prop} {Reboot : σ → σ → Prop} (h : ∀ s os a, C s os a → D s os a)
    (b : Boots m C Fresh Reboot s) : Boots m D Fresh Reboot s := by
  induction b with
  | fresh hs => exact .fresh hs
  | reboot _ r hs ih => exact .reboot ih (r.mono h) hs

/-- What every fresh state has and every run and restart keeps, every start has. -/
lemma Boots.invariant {Fresh : σ → Prop} {Reboot : σ → σ → Prop} {P : σ → Prop}
    (hfresh : ∀ s, Fresh s → P s)
    (hrun : ∀ s₀ as s os, P s₀ → RunIf m C s₀ as s os → P s)
    (hboot : ∀ s s', P s → Reboot s s' → P s') (b : Boots m C Fresh Reboot s) : P s := by
  induction b with
  | fresh h => exact hfresh _ h
  | reboot _ r hs ih => exact hboot _ _ (hrun _ _ _ _ ih r) hs

end Vero.Lib.Runs
