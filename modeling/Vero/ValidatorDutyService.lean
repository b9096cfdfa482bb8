import Mathlib.Data.Int.Notation
import Vero.Lib.Dict
import Vero.Lib.Runs

/-!
`ValidatorDutyService.update_duties`: updating the duties of a service under a lock, again
and again until an update succeeds or the epoch is over.

A call that finds the lock held returns at once. No call is ever cancelled here.
-/

namespace Vero.ValidatorDutyService

open Lib Lib.Runs

/-- Where a call is: about to test the loop condition, awaiting `_update_duties`, asleep
before it retries, or done. -/
inductive Pc
  | testing
  | updating
  | sleeping
  | returned
  deriving DecidableEq

structure Call where
  epochAtStart : ℤ
  currentDelay : ℕ
  pc : Pc

structure State where
  currentEpoch : ℤ
  locked : Bool
  calls : Dict ℕ Call

def State.init (epoch : ℤ) : State := ⟨epoch, false, ∅⟩

inductive Action
  | updateDuties (id : ℕ)
  | testLoop (id : ℕ)
  | updateSucceeded (id : ℕ)
  | updateFailed (id : ℕ)
  | wake (id : ℕ)
  | changeEpoch (epoch : ℤ)

/-- What is seen of a run. A trigger is a call of `update_duties`: it acquires the lock, or
is dropped while another call holds it. -/
inductive Output
  | acquired (id : ℕ)
  | dropped (holderEpoch : Option ℤ)
  | started (id : ℕ)
  | completed (id : ℕ) (success : Bool)
  | epochChanged
  deriving DecidableEq

def initialDelay : ℕ := 1
def maxDelay : ℕ := 10

namespace State

/-- The epoch in which the call that has not returned yet began. -/
def holderEpoch (s : State) : Option ℤ :=
  (s.calls.values.find? fun c => c.pc ≠ .returned).map Call.epochAtStart

def setPc (s : State) (id : ℕ) (c : Call) (pc : Pc) : State :=
  { s with calls := s.calls.set id { c with pc } }

def release (s : State) (id : ℕ) (c : Call) : State :=
  { s.setPc id c .returned with locked := false }

def updateDuties (s : State) (id : ℕ) : State × List Output :=
  if s.locked then (s, [.dropped s.holderEpoch])
  else
    ({ s with locked := true, calls := s.calls.set id ⟨s.currentEpoch, initialDelay, .testing⟩ },
      [.acquired id])

/-- The head of the loop. The clock is read anew, and may have moved since the lock was
acquired. -/
def testLoop (s : State) (id : ℕ) (c : Call) : State × List Output :=
  if s.currentEpoch = c.epochAtStart then (s.setPc id c .updating, [.started id])
  else (s.release id c, [])

def wake (s : State) (id : ℕ) (c : Call) : State :=
  s.setPc id { c with currentDelay := min (c.currentDelay * 2) maxDelay } .testing

end State

/-- The call `id`, when it is at the given point. -/
def State.callAt (s : State) (id : ℕ) (pc : Pc) : Option Call :=
  (s.calls.get id).filter fun c => c.pc = pc

def step : Machine State Action Output
  | s, .updateDuties id => if s.calls.get id = none then some (s.updateDuties id) else none
  | s, .testLoop id => (s.callAt id .testing).map (s.testLoop id)
  | s, .updateSucceeded id =>
    (s.callAt id .updating).map fun c => (s.release id c, [.completed id true])
  | s, .updateFailed id =>
    (s.callAt id .updating).map fun c => (s.setPc id c .sleeping, [.completed id false])
  | s, .wake id => (s.callAt id .sleeping).map fun c => (s.wake id c, [])
  | s, .changeEpoch epoch => some ({ s with currentEpoch := epoch }, [.epochChanged])

/-! ### Simp set of the state -/

namespace State

variable (s : State) (id : ℕ) (c : Call) (pc : Pc)

@[simp] lemma epoch_setPc : (s.setPc id c pc).currentEpoch = s.currentEpoch := rfl
@[simp] lemma locked_setPc : (s.setPc id c pc).locked = s.locked := rfl
@[simp] lemma calls_setPc : (s.setPc id c pc).calls = s.calls.set id { c with pc } := rfl
@[simp] lemma epoch_release : (s.release id c).currentEpoch = s.currentEpoch := rfl
@[simp] lemma locked_release : (s.release id c).locked = false := rfl
@[simp] lemma calls_release :
    (s.release id c).calls = s.calls.set id { c with pc := .returned } := rfl
@[simp] lemma epoch_wake : (s.wake id c).currentEpoch = s.currentEpoch := rfl
@[simp] lemma locked_wake : (s.wake id c).locked = s.locked := rfl
@[simp] lemma calls_wake : (s.wake id c).calls =
    s.calls.set id ⟨c.epochAtStart, min (c.currentDelay * 2) maxDelay, .testing⟩ := rfl

lemma callAt_eq_some {s : State} {id : ℕ} {pc : Pc} {c : Call} :
    s.callAt id pc = some c ↔ s.calls.get id = some c ∧ c.pc = pc := by
  simp [callAt, Option.filter_eq_some_iff]

/-- A step of a call is one of a call at the point it is for. -/
lemma map_callAt_eq_some {α : Type*} {s : State} {id : ℕ} {pc : Pc} {f : Call → α} {x : α} :
    (s.callAt id pc).map f = some x ↔ ∃ c, s.calls.get id = some c ∧ c.pc = pc ∧ f c = x := by
  simp only [Option.map_eq_some_iff, callAt_eq_some, and_assoc]

end State

/-! ### The lock -/

/-- The call `id` has not returned. -/
def Live (s : State) (id : ℕ) : Prop := ∃ c, s.calls.get id = some c ∧ c.pc ≠ .returned

/-- A call that has not returned holds the lock, and is the only one. -/
structure Exclusive (s : State) : Prop where
  locked : ∀ id, Live s id → s.locked = true
  unique : ∀ id id', Live s id → Live s id' → id = id'

variable {s s' : State} {a : Action} {o os : List Output} {id : ℕ} {c : Call}

/-- What a step does to the calls and the lock: a new call takes the free lock, a call moves
on, or a call returns and frees the lock. -/
lemma step_calls (h : step s a = some (s', o)) :
    (s'.calls = s.calls ∧ s'.locked = s.locked) ∨
    (∃ id c, s.locked = false ∧ s'.calls = s.calls.set id c ∧ s'.locked = true) ∨
    (∃ id c c', s.calls.get id = some c ∧ c.pc ≠ .returned ∧ s'.calls = s.calls.set id c' ∧
      (c'.pc = .returned ∧ s'.locked = false ∨ s'.locked = s.locked)) := by
  cases a with
  | updateDuties id =>
    simp only [step, State.updateDuties] at h
    split_ifs at h with hnew hlock
    · obtain ⟨rfl, -⟩ := Prod.mk.inj (Option.some.inj h)
      exact .inl ⟨rfl, rfl⟩
    · obtain ⟨rfl, -⟩ := Prod.mk.inj (Option.some.inj h)
      exact .inr (.inl ⟨id, _, by simpa using hlock, rfl, rfl⟩)
  | testLoop id =>
    obtain ⟨c, hget, hpc, he⟩ := State.map_callAt_eq_some.mp h
    have hlive : c.pc ≠ .returned := by simp [hpc]
    simp only [State.testLoop] at he
    split_ifs at he
    · obtain ⟨rfl, -⟩ := Prod.mk.inj he
      exact .inr (.inr ⟨id, c, _, hget, hlive, rfl, .inr rfl⟩)
    · obtain ⟨rfl, -⟩ := Prod.mk.inj he
      exact .inr (.inr ⟨id, c, _, hget, hlive, rfl, .inl ⟨rfl, rfl⟩⟩)
  | updateSucceeded id =>
    obtain ⟨c, hget, hpc, he⟩ := State.map_callAt_eq_some.mp h
    obtain ⟨rfl, -⟩ := Prod.mk.inj he
    exact .inr (.inr ⟨id, c, _, hget, by simp [hpc], rfl, .inl ⟨rfl, rfl⟩⟩)
  | updateFailed id =>
    obtain ⟨c, hget, hpc, he⟩ := State.map_callAt_eq_some.mp h
    obtain ⟨rfl, -⟩ := Prod.mk.inj he
    exact .inr (.inr ⟨id, c, _, hget, by simp [hpc], rfl, .inr rfl⟩)
  | wake id =>
    obtain ⟨c, hget, hpc, he⟩ := State.map_callAt_eq_some.mp h
    obtain ⟨rfl, -⟩ := Prod.mk.inj he
    exact .inr (.inr ⟨id, c, _, hget, by simp [hpc], rfl, .inr rfl⟩)
  | changeEpoch epoch =>
    obtain ⟨rfl, -⟩ := Prod.mk.inj (Option.some.inj h)
    exact .inl ⟨rfl, rfl⟩

lemma exclusive_init (epoch : ℤ) : Exclusive (.init epoch) where
  locked := by simp [Live, State.init]
  unique := by simp [Live, State.init]

lemma exclusive_step (hx : Exclusive s) (h : step s a = some (s', o)) : Exclusive s' := by
  rcases step_calls h with ⟨hcalls, hlock⟩ | ⟨id, c, hfree, hcalls, hlock⟩ |
    ⟨id, c, c', hget, hlive, hcalls, hlock⟩
  · have hkeep : ∀ i, Live s' i → Live s i := by
      intro i hi
      rwa [Live, hcalls] at hi
    refine ⟨fun i hi => ?_, fun i j hi hj => hx.unique i j (hkeep i hi) (hkeep j hj)⟩
    have hheld := hx.locked i (hkeep i hi)
    rwa [hlock]
  · -- no call was live, so the new one is alone
    have honly : ∀ i, Live s' i → i = id := by
      rintro i ⟨d, hd, hpc⟩
      by_contra hne
      simp only [hcalls, Dict.get_set, hne, if_false] at hd
      simpa [hfree] using hx.locked i ⟨d, hd, hpc⟩
    refine ⟨fun _ _ => hlock, fun i j hi hj => ?_⟩
    rw [honly i hi, honly j hj]
  · have hholds := hx.locked id ⟨c, hget, hlive⟩
    have hkeep : ∀ i, Live s' i → Live s i := by
      rintro i ⟨d, hd, hpc⟩
      by_cases hi : i = id
      · exact ⟨c, hi ▸ hget, hlive⟩
      · simp only [hcalls, Dict.get_set, hi, if_false] at hd
        exact ⟨d, hd, hpc⟩
    refine ⟨fun i hi => ?_, fun i j hi hj => hx.unique i j (hkeep i hi) (hkeep j hj)⟩
    rcases hlock with ⟨hret, -⟩ | hlock
    · -- the only live call returned
      obtain rfl := hx.unique i id (hkeep i hi) ⟨c, hget, hlive⟩
      obtain ⟨d, hd, hpc⟩ := hi
      simp only [hcalls, Dict.get_set, if_true, Option.some.injEq] at hd
      exact absurd (hd ▸ hret) hpc
    · rw [hlock, hholds]

/-! ### Triggers -/

/-- The call started an update in this part of the history, and it succeeded. -/
def Ran (id : ℕ) (post : List Output) : Prop :=
  [.started id, .completed id true].Sublist post

/-- The call goes on until an update succeeds, as long as the epoch stays what it is. -/
def Pursuing (s : State) (id : ℕ) (c : Call) : Prop :=
  s.calls.get id = some c ∧ c.pc ≠ .returned ∧ c.epochAtStart = s.currentEpoch

/-- Every trigger since the epoch last changed has been served, or the call that holds the
lock will serve it. -/
structure Attended (s : State) (os : List Output) : Prop where
  acquired : ∀ id post, Since os (.acquired id) post → .epochChanged ∉ post →
    Ran id post ∨ ∃ c, Pursuing s id c ∧ (c.pc = .updating → .started id ∈ post)
  dropped : ∀ post, Since os (.dropped (some s.currentEpoch)) post → .epochChanged ∉ post →
    (∃ id, .completed id true ∈ post) ∨ ∃ id c, Pursuing s id c

lemma attended_init (epoch : ℤ) : Attended (.init epoch) [] where
  acquired := by simp
  dropped := by simp

lemma Ran.mono {post : List Output} (h : Ran id post) : Ran id (post ++ o) :=
  h.trans (List.sublist_append_left _ _)

/-- A step of the call that holds the lock: it goes on, or an update of it succeeds. -/
lemma Attended.move (h : Attended s os)
    (hmove : ∀ id c, Pursuing s id c →
      (∃ c', Pursuing s' id c' ∧ (c'.pc = .updating → c.pc = .updating ∨ .started id ∈ o)) ∨
      (c.pc = .updating ∧ .completed id true ∈ o))
    (hepoch : s'.currentEpoch = s.currentEpoch) (hacq : ∀ id, .acquired id ∉ o)
    (hdrop : ∀ e, .dropped e ∉ o) : Attended s' (os ++ o) where
  acquired := by
    intro id post hs hsame
    rcases since_append_of_notMem hs hsame with hnow | ⟨p, hp, hsame', rfl⟩
    · exact absurd hnow.mem (hacq id)
    · rcases h.acquired id p hp hsame' with hr | ⟨c, hc, hstart⟩
      · exact .inl hr.mono
      · rcases hmove id c hc with ⟨c', hc', hu⟩ | ⟨hu, hdone⟩
        · refine .inr ⟨c', hc', fun hpc => ?_⟩
          rcases hu hpc with hu | hu
          · simp [hstart hu]
          · simp [hu]
        · have h1 := List.singleton_sublist.mpr (hstart hu)
          have h2 := List.singleton_sublist.mpr hdone
          exact .inl (h1.append h2)
  dropped := by
    intro post hs hsame
    rcases since_append_of_notMem hs hsame with hnow | ⟨p, hp, hsame', rfl⟩
    · exact absurd hnow.mem (hdrop _)
    · rcases h.dropped p (hepoch ▸ hp) hsame' with ⟨id, hd⟩ | ⟨id, c, hc⟩
      · exact .inl ⟨id, by simp [hd]⟩
      · rcases hmove id c hc with ⟨c', hc', -⟩ | ⟨-, hdone⟩
        · exact .inr ⟨id, c', hc'⟩
        · exact .inl ⟨id, by simp [hdone]⟩

lemma pursuing_of_holderEpoch (h : s.holderEpoch = some s.currentEpoch) :
    ∃ id c, Pursuing s id c := by
  obtain ⟨c, hf, he⟩ := Option.map_eq_some_iff.mp h
  obtain ⟨id, hget⟩ := Dict.mem_values_iff.mp (List.mem_of_find?_eq_some hf)
  exact ⟨id, c, hget, by simpa using List.find?_some hf, he⟩

lemma attended_updateDuties (h : Attended s os) (hnew : s.calls.get id = none) :
    Attended (s.updateDuties id).1 (os ++ (s.updateDuties id).2) := by
  have hne : ∀ i c, Pursuing s i c → i ≠ id := by
    rintro i c ⟨hget, -⟩ rfl
    simp [hnew] at hget
  unfold State.updateDuties
  split_ifs with hlock
  · -- the trigger is dropped: the holder goes on
    refine ⟨fun i post hs hsame => ?_, fun post hs hsame => ?_⟩
    · rcases since_append_of_notMem hs hsame with hnow | ⟨p, hp, hsame', rfl⟩
      · simp at hnow
      · rcases h.acquired i p hp hsame' with hr | ⟨c, hc, hstart⟩
        · exact .inl hr.mono
        · exact .inr ⟨c, hc, fun hpc => by simp [hstart hpc]⟩
    · rcases since_append_of_notMem hs hsame with hnow | ⟨p, hp, hsame', rfl⟩
      · simp only [since_singleton, Output.dropped.injEq] at hnow
        exact .inr (pursuing_of_holderEpoch hnow.1)
      · rcases h.dropped p hp hsame' with ⟨i, hd⟩ | hc
        · exact .inl ⟨i, by simp [hd]⟩
        · exact .inr hc
  · -- the trigger acquires the lock
    have hkeep : ∀ i c, Pursuing s i c → Pursuing
        { s with locked := true, calls := s.calls.set id ⟨s.currentEpoch, initialDelay, .testing⟩ }
        i c := fun i c hc => ⟨by simp [hne i c hc, hc.1], hc.2⟩
    refine ⟨fun i post hs hsame => ?_, fun post hs hsame => ?_⟩
    · rcases since_append_of_notMem hs hsame with hnow | ⟨p, hp, hsame', rfl⟩
      · simp only [since_singleton, Output.acquired.injEq] at hnow
        obtain ⟨rfl, rfl⟩ := hnow
        exact .inr ⟨⟨s.currentEpoch, initialDelay, .testing⟩, ⟨by simp, by simp, rfl⟩, by simp⟩
      · rcases h.acquired i p hp hsame' with hr | ⟨c, hc, hstart⟩
        · exact .inl hr.mono
        · exact .inr ⟨c, hkeep i c hc, fun hpc => by simp [hstart hpc]⟩
    · rcases since_append_of_notMem hs hsame with hnow | ⟨p, hp, hsame', rfl⟩
      · simp at hnow
      · rcases h.dropped p hp hsame' with ⟨i, hd⟩ | ⟨i, c, hc⟩
        · exact .inl ⟨i, by simp [hd]⟩
        · exact .inr ⟨i, c, hkeep i c hc⟩

/-- Other calls do not move when one does. -/
lemma Pursuing.set {i : ℕ} {c' : Call} (hp : Pursuing s i c) (hi : i ≠ id)
    (hcalls : s'.calls = s.calls.set id c') (hepoch : s'.currentEpoch = s.currentEpoch) :
    Pursuing s' i c :=
  ⟨by simp [hcalls, hi, hp.1], hp.2.1, hp.2.2.trans hepoch.symm⟩

/-- A call that goes on from its epoch leaves every pursuit a pursuit. -/
lemma Pursuing.replace {i : ℕ} {d c' : Call} (hp : Pursuing s i d)
    (hget : s.calls.get id = some c) (hcalls : s'.calls = s.calls.set id c')
    (hepoch : s'.currentEpoch = s.currentEpoch) (hstart : c'.epochAtStart = c.epochAtStart)
    (hpc : c'.pc ≠ .returned) (hupdating : c'.pc = .updating → .started id ∈ o) :
    ∃ d', Pursuing s' i d' ∧ (d'.pc = .updating → d.pc = .updating ∨ .started i ∈ o) := by
  by_cases hi : i = id
  · subst hi
    obtain rfl := Option.some.inj (hp.1.symm.trans hget)
    have hnew : s'.calls.get i = some c' := by simp [hcalls]
    have hsame : c'.epochAtStart = s'.currentEpoch := by rw [hstart, hepoch, hp.2.2]
    exact ⟨c', ⟨hnew, hpc, hsame⟩, fun hu => .inr (hupdating hu)⟩
  · exact ⟨d, hp.set hi hcalls hepoch, .inl⟩

lemma attended_step (h : Attended s os) (hs : step s a = some (s', o)) :
    Attended s' (os ++ o) := by
  cases a with
  | updateDuties id =>
    simp only [step] at hs
    split_ifs at hs with hnew
    have ha := attended_updateDuties h hnew
    rwa [Option.some.inj hs] at ha
  | testLoop id =>
    obtain ⟨c, hget, hpc, he⟩ := State.map_callAt_eq_some.mp hs
    simp only [State.testLoop] at he
    split_ifs at he with hepoch
    · obtain ⟨rfl, rfl⟩ := Prod.mk.inj he
      refine h.move (fun i d hd => .inl ?_) rfl (by simp) (by simp)
      exact hd.replace hget (State.calls_setPc ..) rfl rfl (by simp) (by simp)
    · -- the epoch the call began in is over, so it pursues nothing
      obtain ⟨rfl, rfl⟩ := Prod.mk.inj he
      refine h.move (fun i d hd => .inl ⟨d, hd.set ?_ rfl rfl, .inl⟩) rfl (by simp)
        (by simp)
      rintro rfl
      obtain rfl := Option.some.inj (hd.1.symm.trans hget)
      exact hepoch hd.2.2.symm
  | updateSucceeded id =>
    obtain ⟨c, hget, hpc, he⟩ := State.map_callAt_eq_some.mp hs
    obtain ⟨rfl, rfl⟩ := Prod.mk.inj he
    refine h.move (fun i d hd => ?_) rfl (by simp) (by simp)
    by_cases hi : i = id
    · subst hi
      obtain rfl := Option.some.inj (hd.1.symm.trans hget)
      exact .inr ⟨hpc, by simp⟩
    · exact .inl ⟨d, hd.set hi rfl rfl, .inl⟩
  | updateFailed id =>
    obtain ⟨c, hget, hpc, he⟩ := State.map_callAt_eq_some.mp hs
    obtain ⟨rfl, rfl⟩ := Prod.mk.inj he
    refine h.move (fun i d hd => .inl ?_) rfl (by simp) (by simp)
    exact hd.replace hget (State.calls_setPc ..) rfl rfl (by simp) (by simp)
  | wake id =>
    obtain ⟨c, hget, hpc, he⟩ := State.map_callAt_eq_some.mp hs
    obtain ⟨rfl, rfl⟩ := Prod.mk.inj he
    refine h.move (fun i d hd => .inl ?_) rfl (by simp) (by simp)
    exact hd.replace hget (State.calls_wake ..) rfl rfl (by simp) (by simp)
  | changeEpoch epoch =>
    obtain ⟨rfl, rfl⟩ := Prod.mk.inj (Option.some.inj hs)
    refine ⟨fun i post hs hsame => ?_, fun post hs hsame => ?_⟩
    · rcases since_append_of_notMem hs hsame with hnow | ⟨p, hp, hsame', rfl⟩
      · simp at hnow
      · simp at hsame
    · rcases since_append_of_notMem hs hsame with hnow | ⟨p, hp, hsame', rfl⟩
      · simp at hnow
      · simp at hsame

/-! ### Main result -/

lemma attended_run {epoch : ℤ} {as : List Action} (r : Run step (.init epoch) as s os) :
    Exclusive s ∧ Attended s os := by
  refine r.invariant (I := fun s os => Exclusive s ∧ Attended s os) ?_ ?_
  · exact ⟨exclusive_init epoch, attended_init epoch⟩
  · intro s os a s' o ⟨hx, ha⟩ _ hs
    exact ⟨exclusive_step hx hs, attended_step ha hs⟩

/-- **Triggers are served.** At most one `_update_duties` is in flight. Whenever the lock is
free, the epoch not having changed since a trigger: a trigger that found the lock free
started an update that succeeded, and for one that found it held by a call begun in this
epoch an update has succeeded since. -/
theorem triggers_served {epoch : ℤ} {as : List Action} (r : Run step (.init epoch) as s os) :
    (∀ id id' c c', s.callAt id .updating = some c → s.callAt id' .updating = some c' →
      id = id') ∧
    (s.locked = false →
      (∀ id post, Since os (.acquired id) post → .epochChanged ∉ post →
        [.started id, .completed id true].Sublist post) ∧
      ∀ post, Since os (.dropped (some s.currentEpoch)) post → .epochChanged ∉ post →
        ∃ id, .completed id true ∈ post) := by
  obtain ⟨hx, ha⟩ := attended_run r
  have hlive : ∀ id c, s.callAt id .updating = some c → Live s id := by
    intro id c hc
    obtain ⟨hget, hpc⟩ := State.callAt_eq_some.mp hc
    exact ⟨c, hget, by simp [hpc]⟩
  refine ⟨fun id id' c c' hc hc' => ?_, fun hfree => ?_⟩
  · exact hx.unique id id' (hlive id c hc) (hlive id' c' hc')
  have hnone : ∀ id c, ¬ Pursuing s id c := by
    intro id c hp
    have hheld := hx.locked id ⟨c, hp.1, hp.2.1⟩
    simp [hfree] at hheld
  refine ⟨fun id post hs hsame => ?_, fun post hs hsame => ?_⟩
  · rcases ha.acquired id post hs hsame with hr | ⟨c, hc, -⟩
    · exact hr
    · exact absurd hc (hnone id c)
  · rcases ha.dropped post hs hsame with hd | ⟨id, c, hc⟩
    · exact hd
    · exact absurd hc (hnone id c)

/-- An update that fails once, is triggered again during the retry, and then succeeds. -/
def retried : List Action :=
  [.updateDuties 0, .testLoop 0, .updateFailed 0, .wake 0, .testLoop 0, .updateDuties 1,
    .updateSucceeded 0]

lemma retried_run : ∃ s os, Run step (.init 7) retried s os ∧ s.locked = false ∧
    s.currentEpoch = 7 ∧ os = [.acquired 0, .started 0, .completed 0 false, .started 0,
      .dropped (some 7), .completed 0 true] := by
  have he : (exec step (.init 7) retried).isSome := by rfl
  exact ⟨_, _, exec_run (Option.some_get he).symm, rfl, rfl, rfl⟩

theorem triggers_served_retried : ∃ os s, Run step (.init 7) retried s os ∧
    [.started 0, .completed 0 true].Sublist os.tail ∧ ∃ id, .completed id true ∈ os.drop 5 := by
  obtain ⟨s, os, r, hfree, hepoch, hos⟩ := retried_run
  have h := (triggers_served r).2 hfree
  have h1 : Since os (.acquired 0) os.tail := ⟨[], by rw [hos]; rfl⟩
  have h2 : Since os (.dropped (some s.currentEpoch)) (os.drop 5) :=
    ⟨os.take 4, by rw [hos, hepoch]; rfl⟩
  exact ⟨os, s, r, h.1 0 _ h1 (by rw [hos]; decide), h.2 _ h2 (by rw [hos]; decide)⟩

/-- A trigger that finds an update in flight is dropped, and no update starts after it. -/
theorem dropped_trigger_unserved : ∃ as s os, Run step (.init 7) as s os ∧ s.locked = false ∧
    ∃ post, Since os (.dropped (some s.currentEpoch)) post ∧ .epochChanged ∉ post ∧
      ∀ id, .started id ∉ post := by
  obtain ⟨s, os, r, hfree, hepoch, hos⟩ := retried_run
  exact ⟨retried, s, os, r, hfree, os.drop 5, ⟨os.take 4, by rw [hos, hepoch]; rfl⟩,
    by rw [hos]; decide, by rw [hos]; simp⟩

end Vero.ValidatorDutyService
