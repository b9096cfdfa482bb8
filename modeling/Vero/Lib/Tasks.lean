import Mathlib.Data.Finset.Sort
import Mathlib.Data.List.Basic

/-!
Concurrent tasks that are awaited together.

Each task has a result, a value or an exception, and the tasks complete in any order. Whoever
gathers them finds the results in the order of the tasks, unless the first exception to come is
passed on at once.
-/

namespace Vero.Lib.Tasks

variable {ι α ε ρ : Type*} {tasks : List ι} {result : ι → ρ} {arrivals : List (ι × ρ)}

/-- All tasks have completed, in this order. -/
def Arrive (tasks : List ι) (result : ι → ρ) (arrivals : List (ι × ρ)) : Prop :=
  arrivals.Perm (tasks.map fun i => (i, result i))

lemma Arrive.mem_iff (h : Arrive tasks result arrivals) {i : ι} {x : ρ} :
    (i, x) ∈ arrivals ↔ i ∈ tasks ∧ result i = x := by
  rw [List.Perm.mem_iff h]
  simp only [List.mem_map, Prod.mk.injEq]
  constructor
  · rintro ⟨j, hj, rfl, rfl⟩
    exact ⟨hj, rfl⟩
  · rintro ⟨hi, rfl⟩
    exact ⟨i, hi, rfl, rfl⟩

variable [DecidableEq ι]

/-- The results, in the order of the tasks. -/
def results (tasks : List ι) (arrivals : List (ι × ρ)) : List ρ :=
  tasks.filterMap fun i => (arrivals.find? fun x => x.1 = i).map Prod.snd

/-- **The order of arrival does not matter.** -/
lemma Arrive.results_eq (h : Arrive tasks result arrivals) :
    results tasks arrivals = tasks.map result := by
  unfold results
  rw [← List.filterMap_eq_map]
  refine List.filterMap_congr fun i hi => ?_
  cases hfind : arrivals.find? fun x => x.1 = i with
  | none =>
    have hnone := List.find?_eq_none.mp hfind (i, result i) (h.mem_iff.mpr ⟨hi, rfl⟩)
    simp at hnone
  | some x =>
    have hkey : x.1 = i := by simpa using List.find?_some hfind
    have hvalue := (h.mem_iff.mp (List.mem_of_find?_eq_some hfind)).2
    rw [hkey] at hvalue
    simp [hvalue]

/-! ### Gathering -/

/-- The orders in which tasks complete, for every number of tasks. -/
structure Schedule where
  order : ℕ → List ℕ
  perm (n : ℕ) : (order n).Perm (List.range n)

/-- The tasks complete in the order they were started. -/
def Schedule.inOrder : Schedule := ⟨List.range, fun _ => .refl _⟩

variable {tasks : List (Except ε α)} {out : List α} {e : ε}

/-- The outcomes as they come. -/
def Schedule.completions (σ : Schedule) (tasks : List ρ) : List ρ :=
  (σ.order tasks.length).filterMap fun i => tasks[i]?

lemma Schedule.mem_completions (σ : Schedule) {tasks : List ρ} {x : ρ} :
    x ∈ σ.completions tasks ↔ x ∈ tasks := by
  unfold completions
  rw [List.mem_filterMap]
  constructor
  · rintro ⟨i, -, hi⟩
    exact List.mem_of_getElem? hi
  · intro hx
    obtain ⟨i, hi⟩ := List.mem_iff_getElem?.mp hx
    have hlt : i < tasks.length := (List.getElem?_eq_some_iff.mp hi).1
    exact ⟨i, (σ.perm tasks.length).mem_iff.mpr (List.mem_range.mpr hlt), hi⟩

/-- A list is what its places hold, one after the other. -/
lemma filterMap_range_getElem? (tasks : List ρ) :
    ((List.range tasks.length).filterMap fun i => tasks[i]?) = tasks := by
  induction tasks using List.reverseRecOn with
  | nil => rfl
  | append_singleton tasks x ih =>
    have hbefore : ∀ i ∈ List.range tasks.length, (tasks ++ [x])[i]? = tasks[i]? := fun i hi =>
      List.getElem?_append_left (List.mem_range.mp hi)
    rw [List.length_append, List.length_singleton, List.range_succ, List.filterMap_append,
      List.filterMap_congr hbefore, ih]
    simp

/-- **Every task completes once.** -/
lemma Schedule.completions_perm (σ : Schedule) (tasks : List ρ) :
    (σ.completions tasks).Perm tasks := by
  have hplaces := (σ.perm tasks.length).filterMap fun i => tasks[i]?
  rwa [filterMap_range_getElem?] at hplaces

def failure : Except ε α → Option ε
  | .error e => some e
  | .ok _ => none

lemma failure_eq_some {x : Except ε α} : failure x = some e ↔ x = .error e := by
  cases x <;> simp [failure]

/-- The first exception to come is passed on, and otherwise all values are waited for. -/
def Schedule.gather (σ : Schedule) (tasks : List (Except ε α)) : Except ε (List α) :=
  match (σ.completions tasks).findSome? failure with
  | some e => .error e
  | none => .ok (tasks.filterMap Except.toOption)

lemma filterMap_toOption (out : List α) :
    (out.map (Except.ok : α → Except ε α)).filterMap Except.toOption = out := by
  induction out with
  | nil => rfl
  | cons a out ih => simpa [Except.toOption] using ih

/-- All tasks are done: the values in the order of the tasks, or else the exception of one. -/
structure AllDone (tasks : List (Except ε α)) (result : Except ε (List α)) : Prop where
  ok_iff (out : List α) : result = .ok out ↔ tasks = out.map .ok
  error (e : ε) : result = .error e → .error e ∈ tasks

lemma exists_map_ok (h : ∀ x ∈ tasks, ∃ a, x = .ok a) : tasks = (tasks.filterMap
    Except.toOption).map .ok := by
  induction tasks with
  | nil => rfl
  | cons x tasks ih =>
    obtain ⟨a, rfl⟩ := h _ List.mem_cons_self
    have hrest := ih fun x hx => h x (List.mem_cons_of_mem _ hx)
    simpa [Except.toOption] using hrest

/-- **The order does not matter.** -/
lemma Schedule.allDone_gather (σ : Schedule) (tasks : List (Except ε α)) :
    AllDone tasks (σ.gather tasks) := by
  constructor
  · intro out
    unfold gather
    constructor
    · intro h
      split at h
      · cases h
      · next hnone =>
        have hok : ∀ x ∈ tasks, ∃ a, x = .ok a := by
          intro x hx
          have hx := List.findSome?_eq_none_iff.mp hnone x (σ.mem_completions.mpr hx)
          cases x with
          | error e => simp [failure] at hx
          | ok a => exact ⟨a, rfl⟩
        rw [← Except.ok.inj h]
        exact exists_map_ok hok
    · rintro rfl
      have hnone : (σ.completions (out.map (Except.ok : α → Except ε α))).findSome? failure
          = none := by
        rw [List.findSome?_eq_none_iff]
        intro x hx
        obtain ⟨a, -, rfl⟩ := List.mem_map.mp (σ.mem_completions.mp hx)
        rfl
      rw [hnone]
      exact congrArg Except.ok (filterMap_toOption out)
  · intro e h
    unfold gather at h
    split at h
    · next e' hfirst =>
      obtain ⟨x, hx, hsome⟩ := List.exists_of_findSome?_eq_some hfirst
      have hx := σ.mem_completions.mp hx
      rwa [failure_eq_some.mp hsome, Except.error.inj h] at hx
    · cases h

variable {tasks' : List (Except ε α)} {result result' : Except ε (List α)}

lemma allDone_nil : AllDone ([] : List (Except ε α)) (.ok []) := by
  refine ⟨fun out => ?_, fun e h => by cases h⟩
  rw [Except.ok.injEq, eq_comm (a := []), eq_comm (a := []), List.map_eq_nil_iff]

/-- An exception comes out if and only if a task has one. -/
lemma AllDone.raises_iff (h : AllDone tasks result) :
    (∃ e, result = .error e) ↔ ∃ e, .error e ∈ tasks := by
  constructor
  · rintro ⟨e, he⟩
    exact ⟨e, h.error e he⟩
  · rintro ⟨e, he⟩
    cases hresult : result with
    | error e' => exact ⟨e', rfl⟩
    | ok out =>
      rw [(h.ok_iff out).mp hresult] at he
      obtain ⟨a, -, ha⟩ := List.mem_map.mp he
      cases ha

lemma AllDone.exists_ok (h : AllDone tasks result) (hok : ∀ x ∈ tasks, ∃ a, x = .ok a) :
    ∃ out, result = .ok out :=
  ⟨_, (h.ok_iff _).mpr (exists_map_ok hok)⟩

/-- Some tasks after others. -/
lemma AllDone.append (h : AllDone tasks result) (h' : AllDone tasks' result') :
    AllDone (tasks ++ tasks') (result.bind fun xs => result'.map fun ys => xs ++ ys) := by
  constructor
  · intro out
    rw [eq_comm (a := tasks ++ tasks'), List.map_eq_append_iff]
    constructor
    · intro hout
      cases hresult : result with
      | error e => rw [hresult] at hout; cases hout
      | ok xs =>
        cases hresult' : result' with
        | error e => rw [hresult, hresult'] at hout; cases hout
        | ok ys =>
          rw [hresult, hresult'] at hout
          exact ⟨xs, ys, (Except.ok.inj hout).symm, ((h.ok_iff xs).mp hresult).symm,
            ((h'.ok_iff ys).mp hresult').symm⟩
    · rintro ⟨xs, ys, rfl, hxs, hys⟩
      rw [(h.ok_iff xs).mpr hxs.symm, (h'.ok_iff ys).mpr hys.symm]
      rfl
  · intro e he
    rw [List.mem_append]
    cases hresult : result with
    | error e' =>
      rw [hresult] at he
      exact .inl (h.error e (by rw [hresult, Except.error.inj he]))
    | ok xs =>
      cases hresult' : result' with
      | error e' =>
        rw [hresult, hresult'] at he
        exact .inr (h'.error e (by rw [hresult', Except.error.inj he]))
      | ok ys => rw [hresult, hresult'] at he; cases he

lemma allDone_singleton (x : Except ε α) : AllDone [x] (x.map fun a => [a]) := by
  cases x with
  | error e =>
    refine ⟨fun out => iff_of_false (by simp [Except.map]) fun h => ?_, fun e' h => ?_⟩
    · cases out <;> simp at h
    · rw [← Except.error.inj h]
      exact List.mem_singleton_self _
  | ok a =>
    refine ⟨fun out => ?_, fun e' h => by cases h⟩
    constructor
    · intro h
      rw [← Except.ok.inj h]
      rfl
    · intro h
      cases out with
      | nil => simp at h
      | cons b out =>
        rw [List.map_cons, List.cons.injEq, eq_comm (a := []), List.map_eq_nil_iff] at h
        rw [h.2, Except.ok.inj h.1]
        rfl

/-- One task after the other. -/
lemma allDone_mapM {β : Type*} (f : β → Except ε α) (l : List β) :
    AllDone (l.map f) (l.mapM f) := by
  induction l with
  | nil => exact allDone_nil
  | cons x l ih =>
    have hall := (allDone_singleton (f x)).append ih
    have hloop : (x :: l).mapM f =
        ((f x).map fun a => [a]).bind fun xs => (l.mapM f).map fun ys => xs ++ ys := by
      rw [List.mapM_cons]
      cases f x with
      | error e => rfl
      | ok a => cases l.mapM f <;> rfl
    rw [hloop]
    exact hall

lemma toOption_mapM {β : Type*} (f : β → Except ε α) (l : List β) :
    (l.mapM f).toOption = l.mapM fun x => (f x).toOption := by
  induction l with
  | nil => rfl
  | cons x l ih =>
    rw [List.mapM_cons, List.mapM_cons, ← ih]
    cases f x with
    | error e => rfl
    | ok a => cases l.mapM f <;> rfl

/-- Every input has its value among the values. -/
lemma exists_value {β : Type*} {f : β → Except ε α} {l : List β} {x : β}
    (h : l.map f = out.map .ok) (hx : x ∈ l) : ∃ a ∈ out, f x = .ok a := by
  have hmem := List.mem_map_of_mem (f := f) hx
  rw [h] at hmem
  obtain ⟨a, ha, he⟩ := List.mem_map.mp hmem
  exact ⟨a, ha, he.symm⟩

/-- Every value is that of an input. -/
lemma exists_input {β : Type*} {f : β → Except ε α} {l : List β} {a : α}
    (h : l.map f = out.map .ok) (ha : a ∈ out) : ∃ x ∈ l, f x = .ok a := by
  have hmem := List.mem_map_of_mem (f := (Except.ok : α → Except ε α)) ha
  rw [← h] at hmem
  exact List.mem_map.mp hmem

/-- The inputs are read back off the values. -/
lemma map_of_values {β : Type*} {f : β → Except ε α} {g : α → β} {l : List β}
    (h : l.map f = out.map .ok) (hg : ∀ x a, f x = .ok a → g a = x) : out.map g = l := by
  induction l generalizing out with
  | nil =>
    have hnil : out = [] := List.map_eq_nil_iff.mp h.symm
    rw [hnil]
    rfl
  | cons x l ih =>
    cases out with
    | nil => simp at h
    | cons a out =>
      rw [List.map_cons, List.map_cons, List.cons.injEq] at h
      rw [List.map_cons, ih h.2, hg x a h.1]

lemma map_ok_injective {out out' : List α}
    (h : out.map (Except.ok : α → Except ε α) = out'.map .ok) : out = out' :=
  List.map_injective_iff.mpr (fun _ _ => Except.ok.inj) h

/-- The values are those of any rearrangement of the tasks. -/
lemma AllDone.perm (h : AllDone tasks result) (hperm : tasks.Perm tasks')
    (hout : result = .ok out) : ∃ out', tasks' = out'.map .ok ∧ out.Perm out' := by
  have htasks := (h.ok_iff out).mp hout
  have hok : ∀ x ∈ tasks', ∃ a, x = .ok a := by
    intro x hx
    rw [← hperm.mem_iff, htasks] at hx
    obtain ⟨a, -, rfl⟩ := List.mem_map.mp hx
    exact ⟨a, rfl⟩
  refine ⟨_, exists_map_ok hok, ?_⟩
  have hvalues := hperm.filterMap Except.toOption
  rwa [htasks, filterMap_toOption] at hvalues

/-- The tasks are awaited as they complete. A task that raises is passed over, and what is made
of the others is collected. -/
def Schedule.collect {β ε' : Type*} (σ : Schedule) (use : α → Except ε' β)
    (tasks : List (Except ε α)) : Except ε' (List β) :=
  ((σ.completions tasks).filterMap Except.toOption).mapM use

omit [DecidableEq ι] in
/-- Whatever the order, what is collected is one result for each task that does not raise. -/
lemma Schedule.collect_perm {β ε' : Type*} (σ : Schedule) {l : List ι} {task : ι → Except ε α}
    {use : α → Except ε' β} {made : ι → α → β}
    (h : ∀ i ∈ l, ∀ a, task i = .ok a → use a = .ok (made i a)) :
    ∃ out, σ.collect use (l.map task) = .ok out ∧
      out.Perm (l.filterMap fun i => (task i).toOption.map (made i)) := by
  have htasks : ∀ a, a ∈ (σ.completions (l.map task)).filterMap Except.toOption →
      ∃ i ∈ l, task i = .ok a := by
    intro a ha
    obtain ⟨x, hx, hsome⟩ := List.mem_filterMap.mp ha
    obtain ⟨i, hi, rfl⟩ := List.mem_map.mp (σ.mem_completions.mp hx)
    cases hti : task i with
    | error e => rw [hti] at hsome; cases hsome
    | ok b => rw [hti] at hsome; exact ⟨i, hi, by rw [hti, Option.some.inj hsome]⟩
  have hdone := allDone_mapM use ((σ.completions (l.map task)).filterMap Except.toOption)
  have hok : ∀ x ∈ ((σ.completions (l.map task)).filterMap Except.toOption).map use,
      ∃ b, x = .ok b := by
    intro x hx
    obtain ⟨a, ha, rfl⟩ := List.mem_map.mp hx
    obtain ⟨i, hi, hia⟩ := htasks a ha
    exact ⟨made i a, h i hi a hia⟩
  obtain ⟨out, hout⟩ := hdone.exists_ok hok
  refine ⟨out, hout, ?_⟩
  have hvalues := (hdone.ok_iff out).mp hout
  have hcollected : out = ((σ.completions (l.map task)).filterMap Except.toOption).filterMap
      fun a => (use a).toOption := by
    have hread := filterMap_toOption (ε := ε') out
    rw [← hvalues, List.filterMap_map] at hread
    exact hread.symm
  have hperm := ((σ.completions_perm (l.map task)).filterMap Except.toOption).filterMap
    fun a => (use a).toOption
  rw [hcollected]
  refine hperm.trans (.of_eq ?_)
  rw [List.filterMap_filterMap, List.filterMap_map]
  refine List.filterMap_congr fun i hi => ?_
  cases hti : task i with
  | error e => simp [hti, Except.toOption]
  | ok a => simp [hti, Except.toOption, h i hi a hti]

section Nested
variable {κ : Type*} {subtasks : κ → List (Except ε α)} {done : κ → Except ε (List α)}
  {l : List κ}

lemma flatMap_eq_of_done (hsub : ∀ i ∈ l, AllDone (subtasks i) (done i)) {outs : List (List α)}
    (h : l.map done = outs.map .ok) : l.flatMap subtasks = outs.flatten.map .ok := by
  induction l generalizing outs with
  | nil =>
    have hnil := List.map_eq_nil_iff.mp h.symm
    rw [hnil]
    rfl
  | cons i l ih =>
    cases outs with
    | nil => simp at h
    | cons out outs =>
      rw [List.map_cons, List.map_cons, List.cons.injEq] at h
      have hfirst := ((hsub i List.mem_cons_self).ok_iff out).mp h.1
      have hrest := ih (fun j hj => hsub j (List.mem_cons_of_mem _ hj)) h.2
      rw [List.flatMap_cons, hfirst, hrest, List.flatten_cons, List.map_append]

/-- Tasks that each do a list of tasks themselves. -/
lemma AllDone.flatten {result : Except ε (List (List α))} (h : AllDone (l.map done) result)
    (hsub : ∀ i ∈ l, AllDone (subtasks i) (done i)) :
    AllDone (l.flatMap subtasks) (result.map List.flatten) := by
  have herror : ∀ e, result = .error e → .error e ∈ l.flatMap subtasks := by
    intro e he
    obtain ⟨i, hi, hdone⟩ := List.mem_map.mp (h.error e he)
    exact List.mem_flatMap.mpr ⟨i, hi, (hsub i hi).error e hdone⟩
  have hvalues : ∀ outs, result = .ok outs → l.flatMap subtasks = outs.flatten.map .ok :=
    fun outs houts => flatMap_eq_of_done hsub ((h.ok_iff outs).mp houts)
  cases result with
  | error e =>
    have hmem := herror e rfl
    refine ⟨fun out => iff_of_false (by simp [Except.map]) fun hout => ?_, fun e' he' => ?_⟩
    · rw [hout] at hmem
      obtain ⟨a, -, ha⟩ := List.mem_map.mp hmem
      cases ha
    · rwa [← Except.error.inj he']
  | ok outs =>
    rw [hvalues outs rfl]
    refine ⟨fun out => ?_, fun e he => by cases he⟩
    constructor
    · intro hout
      rw [← Except.ok.inj hout]
    · intro hout
      exact congrArg Except.ok (map_ok_injective hout)

end Nested

/-! ### Fanning out -/

section FanOut
variable {κ : Type*} [DecidableEq κ] {β : Type*} {items : List α}

/-- The items of each key, key by key. -/
lemma flatMap_filter_perm {keys : List κ} (key : α → κ) (hnodup : keys.Nodup)
    (hkeys : ∀ x ∈ items, key x ∈ keys) :
    (keys.flatMap fun k => items.filter fun x => key x = k).Perm items := by
  induction keys generalizing items with
  | nil =>
    have hnil : items = [] := List.eq_nil_iff_forall_not_mem.mpr fun x hx => by
      simpa using hkeys x hx
    rw [hnil]
    rfl
  | cons k keys ih =>
    obtain ⟨hk, hnodup⟩ := List.nodup_cons.mp hnodup
    have hcovered : ∀ x ∈ items.filter fun x => !decide (key x = k), key x ∈ keys := by
      intro x hx
      obtain ⟨hx, hne⟩ := List.mem_filter.mp hx
      have hne : key x ≠ k := by simpa using hne
      exact (List.mem_cons.mp (hkeys x hx)).resolve_left hne
    have hothers := ih hnodup hcovered
    have hsame : (keys.flatMap fun k' => (items.filter fun x => !decide (key x = k)).filter
        fun x => key x = k') = keys.flatMap fun k' => items.filter fun x => key x = k' := by
      refine List.flatMap_congr fun k' hk' => ?_
      rw [List.filter_filter]
      refine List.filter_congr fun x _ => ?_
      by_cases hx : key x = k'
      · have hne : key x ≠ k := fun he => hk (he ▸ hx ▸ hk')
        simp [hx, hx ▸ hne]
      · simp [hx]
    rw [hsame] at hothers
    rw [List.flatMap_cons]
    exact (hothers.append_left _).trans (List.filter_append_perm _ items)

/-- An order of the elements of each set, in which the set is iterated over or in which one task
for each element completes. -/
structure SetOrder (κ : Type*) [DecidableEq κ] where
  order : Finset κ → List κ
  nodup (s : Finset κ) : (order s).Nodup
  toFinset (s : Finset κ) : (order s).toFinset = s

def SetOrder.ascending : SetOrder ℤ where
  order s := s.sort
  nodup s := s.sort_nodup (· ≤ ·)
  toFinset s := s.sort_toFinset (· ≤ ·)

lemma SetOrder.mem_order (σ : SetOrder κ) {s : Finset κ} {k : κ} :
    k ∈ σ.order s ↔ k ∈ s := by
  rw [← List.mem_toFinset, σ.toFinset]

/-- **Every item is served once**, when the key of the item is. -/
lemma SetOrder.fanOut_perm (σ : SetOrder κ) {s : Finset κ} {key : α → κ}
    (hkeys : ∀ x ∈ items, key x ∈ s) (serve : κ → α → Option β) :
    ((σ.order s).flatMap fun k => (items.filter fun x => key x = k).filterMap (serve k)).Perm
      (items.filterMap fun x => serve (key x) x) := by
  have hserve : ((σ.order s).flatMap fun k =>
      (items.filter fun x => key x = k).filterMap (serve k)) =
      ((σ.order s).flatMap fun k => items.filter fun x => key x = k).filterMap
        fun x => serve (key x) x := by
    rw [List.filterMap_flatMap]
    refine List.flatMap_congr fun k _ => List.filterMap_congr fun x hx => ?_
    have hx : key x = k := by simpa using (List.mem_filter.mp hx).2
    rw [hx]
  rw [hserve]
  exact (flatMap_filter_perm key (σ.nodup s) fun x hx => σ.mem_order.mpr (hkeys x hx)).filterMap _

omit [DecidableEq κ] in
lemma mem_answers {γ : Type*} {ks : List κ} {answer : κ → Except ε γ} {a : γ} :
    a ∈ ks.filterMap (fun k => (answer k).toOption) ↔ ∃ k ∈ ks, answer k = .ok a := by
  refine List.mem_filterMap.trans (exists_congr fun k => and_congr_right fun _ => ?_)
  cases answer k with
  | error e => simp [Except.toOption]
  | ok b => simp [Except.toOption]

omit [DecidableEq κ] in
/-- The answers as they come, each put to use, and nothing where none came. -/
lemma flatMap_answers {γ : Type*} {ks : List κ} {answer : κ → Except ε γ} {use : γ → List β}
    {served : κ → List β} (hok : ∀ k ∈ ks, ∀ a, answer k = .ok a → use a = served k)
    (herror : ∀ k ∈ ks, ∀ e, answer k = .error e → served k = []) :
    ((ks.filterMap fun k => (answer k).toOption).flatMap use) = ks.flatMap served := by
  induction ks with
  | nil => rfl
  | cons k ks ih =>
    have hrest := ih (fun k' hk' => hok k' (List.mem_cons_of_mem _ hk'))
      fun k' hk' => herror k' (List.mem_cons_of_mem _ hk')
    rw [List.flatMap_cons, ← hrest]
    cases hanswer : answer k with
    | error e =>
      have hskip : (k :: ks).filterMap (fun k => (answer k).toOption) =
          ks.filterMap fun k => (answer k).toOption :=
        List.filterMap_cons_none (by rw [hanswer]; rfl)
      rw [hskip, herror k List.mem_cons_self e hanswer, List.nil_append]
    | ok a =>
      have htake : (k :: ks).filterMap (fun k => (answer k).toOption) =
          a :: ks.filterMap fun k => (answer k).toOption :=
        List.filterMap_cons_some (by rw [hanswer]; rfl)
      rw [htake, List.flatMap_cons, hok k List.mem_cons_self a hanswer]

/-- Results gathered in one list are told apart again by what they carry. -/
lemma filter_flatMap_key {ι : Type*} {l : List ι} {key : ι → κ} {carried : α → κ}
    {f : ι → List α} (hnodup : (l.map key).Nodup)
    (hcarried : ∀ x ∈ l, ∀ y ∈ f x, carried y = key x) {x : ι} (hx : x ∈ l) :
    ((l.flatMap f).filter fun y => carried y = key x) = f x := by
  induction l with
  | nil => cases hx
  | cons z l ih =>
    rw [List.map_cons, List.nodup_cons] at hnodup
    have hrest := ih hnodup.2 fun x hx => hcarried x (List.mem_cons_of_mem _ hx)
    have hz := hcarried z List.mem_cons_self
    rw [List.flatMap_cons, List.filter_append]
    rcases List.mem_cons.mp hx with rfl | hx
    · have hall : (f x).filter (fun y => carried y = key x) = f x :=
        List.filter_eq_self.mpr fun y hy => by simp [hz y hy]
      have hnone : (l.flatMap f).filter (fun y => carried y = key x) = [] := by
        refine List.filter_eq_nil_iff.mpr fun y hy => ?_
        obtain ⟨w, hw, hy⟩ := List.mem_flatMap.mp hy
        have hne : key w ≠ key x := fun he => hnodup.1 (he ▸ List.mem_map_of_mem hw)
        simp [hcarried w (List.mem_cons_of_mem _ hw) y hy, hne]
      rw [hall, hnone, List.append_nil]
    · have hne : key z ≠ key x := fun he => hnodup.1 (he ▸ List.mem_map_of_mem hx)
      have hnone : (f z).filter (fun y => carried y = key x) = [] :=
        List.filter_eq_nil_iff.mpr fun y hy => by simp [hz y hy, hne]
      rw [hnone, hrest hx, List.nil_append]

end FanOut

end Vero.Lib.Tasks
