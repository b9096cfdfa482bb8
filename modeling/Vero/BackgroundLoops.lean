import Vero.TaskManager

/-!
The loops that run in the background: an event stream for every beacon node, and the slot
ticker.

Each of them is a task that ends by creating its successor. A stream that fails is resumed ten
seconds later, one that ends is resumed at once, and a cancelled one is not.
-/

namespace Vero.BackgroundLoops

open Lib.Runs TaskManager

/-- What a task runs. Everything that is no loop goes by its name. -/
inductive Coro
  | handleEvents (beaconNode : String)
  | onNewSlot
  | other (name : String)
  deriving DecidableEq

def Coro.isLoop : Coro → Bool
  | .handleEvents _ | .onNewSlot => true
  | .other _ => false

/-- Why a loop goes on from its await. -/
inductive Wake
  | cancelled
  | raised
  | ended
  | handlers (names : List String)

/-- How a step of a loop leaves its task, and which tasks it creates. -/
abbrev StepEnd := Option Outcome × List Coro

/-- The next step of `handle_events`: `handlers` are those of an event that was not seen before. -/
def handleEvents (beaconNode : String) : Wake → StepEnd
  | .handlers names => (none, names.map .other)
  | .cancelled => (some .cancelled, [])
  | .raised => (some .returned, [.handleEvents beaconNode])
  | .ended => (some .returned, [.handleEvents beaconNode])

/-- The next step of `on_new_slot`: the handlers of the slot, and then the next slot. -/
def onNewSlot : Wake → StepEnd
  | .handlers names => (none, names.map .other)
  | .cancelled => (some .cancelled, [])
  | .raised => (some .exception, [])
  | .ended => (some .returned, [.onNewSlot])

/-- Nothing that the ticker calls raises. -/
def Coro.goesOn : Coro → Wake → StepEnd → Prop
  | .handleEvents beaconNode, wake, result => result = BackgroundLoops.handleEvents beaconNode wake
  | .onNewSlot, wake, result => wake ≠ .raised ∧ result = BackgroundLoops.onNewSlot wake
  | .other _, _, result => ∀ coro ∈ result.2, coro.isLoop = false

/-- A task that was asked to cancel is cancelled at its next step. -/
def Loops : Guard (State Coro) (Action Coro) TaskManager.Event := fun s _ action =>
  match action with
  | .resume task outcome created => ∀ t, s.tasks[task]? = some t →
      ∃ wake, t.coro.goesOn wake (outcome, created) ∧
        (t.coro.isLoop = true → (wake = .cancelled ↔ t.cancelRequested = true))
  | _ => True

/-! ### Counting tasks -/

section Counting

variable {κ : Type} [DecidableEq κ] {s s' : State κ} {l : κ}

/-- A task that has not returned, nor failed. -/
def Unreturned (l : κ) (p : κ × Option Outcome) : Bool :=
  p.1 = l && (p.2 = none || p.2 = some .cancelled)

/-- The tasks of a coroutine that run, or were cancelled. -/
def unreturned (l : κ) (s : State κ) : ℕ :=
  (s.tasks.map fun t => (t.coro, t.outcome)).countP (Unreturned l)

lemma unreturned_createTask (coro : κ) :
    unreturned l (s.createTask coro) = unreturned l s + if coro = l then 1 else 0 := by
  unfold State.createTask unreturned
  split_ifs <;> simp_all [Unreturned, Task.cancel]

lemma unreturned_createTasks (coros : List κ) :
    unreturned l (s.createTasks coros) = unreturned l s + coros.count l := by
  induction coros generalizing s with
  | nil => simp [State.createTasks]
  | cons coro coros ih =>
    have hrest := ih (s := s.createTask coro)
    have hone := unreturned_createTask (s := s) (l := l) coro
    rw [State.createTasks, List.foldl_cons, ← State.createTasks, hrest, hone, List.count_cons]
    by_cases h : coro = l
    · simp only [h, if_true, beq_self_eq_true]
      omega
    · simp [h]

lemma unreturned_cancelAll : unreturned l s.cancelAll = unreturned l s := by
  have hsame : s.cancelAll.tasks.map (fun t => (t.coro, t.outcome)) =
      s.tasks.map fun t => (t.coro, t.outcome) := by
    apply List.ext_getElem?
    intro i
    rw [List.getElem?_map, List.getElem?_map, getElem?_cancelAll, Option.map_map]
    congr 1
    funext t
    unfold State.asked
    by_cases h : i ∈ s.tracked <;> simp [h]
  unfold unreturned
  rw [hsame]

/-- The step of a task changes the count of its own coroutine alone. -/
lemma unreturned_set {t : TaskManager.Task κ} {task : ℕ} (ht : s.tasks[task]? = some t)
    (hpending : t.outcome = none) (t' : TaskManager.Task κ) (hcoro : t'.coro = t.coro) :
    unreturned l { s with tasks := s.tasks.set task t' } + (if t.coro = l then 1 else 0) =
      unreturned l s +
        if t.coro = l ∧ (t'.outcome = none ∨ t'.outcome = some .cancelled) then 1 else 0 := by
  have hlt := (List.getElem?_eq_some_iff.mp ht).1
  have hget := (List.getElem?_eq_some_iff.mp ht).2
  have hpos : t.coro = l →
      0 < (s.tasks.map fun t => (t.coro, t.outcome)).countP (Unreturned l) := by
    intro he
    refine List.countP_pos_iff.mpr ⟨(t.coro, t.outcome), ?_, by simp [Unreturned, he, hpending]⟩
    exact List.mem_map_of_mem (List.mem_of_getElem? ht)
  unfold unreturned
  rw [List.map_set, List.countP_set (by simpa using hlt)]
  simp only [List.getElem_map, hget]
  have hnew : Unreturned l (t'.coro, t'.outcome) =
      decide (t.coro = l ∧ (t'.outcome = none ∨ t'.outcome = some .cancelled)) := by
    simp [Unreturned, hcoro]
  have hold : Unreturned l (t.coro, t.outcome) = decide (t.coro = l) := by
    simp [Unreturned, hpending]
  rw [hnew, hold]
  by_cases he : t.coro = l
  · have := hpos he
    by_cases ho : t'.outcome = none ∨ t'.outcome = some .cancelled
    · simp only [he, ho, and_self, decide_true, if_true]
      omega
    · simp only [he, ho, and_false, decide_true, decide_false, if_true, if_false,
        Bool.false_eq_true]
      omega
  · simp [he]

end Counting

/-! ### Loops -/

variable {s s' : State Coro} {as : List (Action Coro)} {os o : List TaskManager.Event} {l : Coro}

/-- How often a coroutine was started from outside. -/
def starts (l : Coro) (as : List (Action Coro)) : ℕ :=
  as.countP fun
    | .createTask coro => coro = l
    | _ => false

/-- A loop is gone on with by one task, or it was cancelled. -/
lemma count_of_goesOn {coro : Coro} {wake : Wake} {outcome : Option Outcome}
    {created : List Coro} (hl : l.isLoop = true) (h : coro.goesOn wake (outcome, created)) :
    created.count l + (if coro = l ∧ (outcome = none ∨ outcome = some .cancelled) then 1 else 0) =
      if coro = l then 1 else 0 := by
  have hother : ∀ names : List String, (names.map Coro.other).count l = 0 := by
    intro names
    rw [List.count_eq_zero]
    intro hmem
    obtain ⟨name, -, rfl⟩ := List.mem_map.mp hmem
    cases hl
  cases coro with
  | handleEvents beaconNode =>
    cases wake with
    | cancelled | raised | ended =>
      obtain ⟨rfl, rfl⟩ := Prod.mk.inj h
      by_cases he : Coro.handleEvents beaconNode = l <;> simp [he]
    | handlers names =>
      obtain ⟨rfl, rfl⟩ := Prod.mk.inj h
      simp [hother]
  | onNewSlot =>
    obtain ⟨hraised, h⟩ := h
    cases wake with
    | raised => exact absurd rfl hraised
    | cancelled | ended =>
      obtain ⟨rfl, rfl⟩ := Prod.mk.inj h
      by_cases he : Coro.onNewSlot = l <;> simp [he]
    | handlers names =>
      obtain ⟨rfl, rfl⟩ := Prod.mk.inj h
      simp [hother]
  | other name =>
    have hne : Coro.other name ≠ l := by
      rintro rfl
      cases hl
    have hnone : created.count l = 0 := by
      rw [List.count_eq_zero]
      intro hmem
      rw [h l hmem] at hl
      cases hl
    simp [hne, hnone]

lemma unreturned_step {action : Action Coro} (hl : l.isLoop = true)
    (hloops : Loops s os action) (hstep : step s action = some (s', o)) :
    unreturned l s' = unreturned l s + starts l [action] := by
  cases action with
  | createTask coro =>
    obtain ⟨rfl, -⟩ := Prod.mk.inj (Option.some.inj hstep)
    rw [unreturned_createTask]
    simp [starts]
  | resume task outcome created =>
    obtain ⟨t, ht, hpending, hcases⟩ := resume_cases hstep
    obtain ⟨wake, hgoes, -⟩ := hloops t ht
    have hcount := count_of_goesOn hl hgoes
    rcases hcases with ⟨-, -, rfl, rfl, rfl, -⟩ | ⟨-, rfl, -⟩
    · have hset := unreturned_set (l := l) ht hpending { t with outcome := some .cancelled } rfl
      simp [starts] at hset hcount ⊢
      omega
    · have hset := unreturned_set (l := l) ht hpending { t with started := true, outcome } rfl
      rw [unreturned_createTasks]
      simp [starts] at hset hcount ⊢
      omega
  | taskDoneCallback task =>
    obtain ⟨t, outcome, -, -, -, rfl, -⟩ := taskDoneCallback_cases hstep
    rfl
  | setShutdownEvent =>
    obtain ⟨rfl, -⟩ := Prod.mk.inj (Option.some.inj hstep)
    rfl
  | cancelAll =>
    obtain ⟨rfl, -⟩ := Prod.mk.inj (Option.some.inj hstep)
    rw [unreturned_cancelAll]
    simp [starts]

lemma unreturned_run (hl : l.isLoop = true) (r : RunIf step Loops init as s os) :
    unreturned l s = starts l as := by
  induction r with
  | nil => rfl
  | snoc _ hloops hstep ih =>
    rw [unreturned_step hl hloops hstep, ih]
    simp [starts]

/-! ### Nothing is cancelled before the shutdown -/

/-- Nobody has asked a task to cancel. -/
structure Undisturbed (s : State Coro) : Prop where
  running : s.shutdownEvent = false
  unasked : ∀ t ∈ s.tasks, t.cancelRequested = false
  uncancelled : ∀ t ∈ s.tasks, t.coro.isLoop = true → t.outcome ≠ some .cancelled

lemma Undisturbed.createTask (hs : Undisturbed s) (coro : Coro) :
    Undisturbed (s.createTask coro) := by
  unfold State.createTask
  rw [if_neg (by simp [hs.running])]
  refine ⟨hs.running, fun t ht => ?_, fun t ht hloop => ?_⟩
  · rcases List.mem_append.mp ht with ht | ht
    · exact hs.unasked t ht
    · rw [List.mem_singleton.mp ht]
  · rcases List.mem_append.mp ht with ht | ht
    · exact hs.uncancelled t ht hloop
    · rw [List.mem_singleton.mp ht]
      simp

lemma Undisturbed.createTasks (hs : Undisturbed s) (coros : List Coro) :
    Undisturbed (s.createTasks coros) := by
  induction coros generalizing s with
  | nil => exact hs
  | cons coro coros ih => exact ih (hs.createTask coro)

/-- A loop that nobody asked to cancel is not cancelled. -/
lemma not_cancelled {coro : Coro} {wake : Wake} {outcome : Option Outcome} {created : List Coro}
    (hloop : coro.isLoop = true) (h : coro.goesOn wake (outcome, created))
    (hwake : wake ≠ .cancelled) : outcome ≠ some .cancelled := by
  cases coro with
  | handleEvents beaconNode =>
    cases wake with
    | cancelled => exact absurd rfl hwake
    | raised | ended | handlers =>
      obtain ⟨rfl, -⟩ := Prod.mk.inj h
      simp
  | onNewSlot =>
    obtain ⟨-, h⟩ := h
    cases wake with
    | cancelled => exact absurd rfl hwake
    | raised | ended | handlers =>
      obtain ⟨rfl, -⟩ := Prod.mk.inj h
      simp
  | other name => cases hloop

lemma Undisturbed.step {action : Action Coro} (hs : Undisturbed s) (hloops : Loops s os action)
    (hstep : step s action = some (s', o)) (hset : action ≠ .setShutdownEvent)
    (hcancel : action ≠ .cancelAll) : Undisturbed s' := by
  cases action with
  | createTask coro =>
    obtain ⟨rfl, -⟩ := Prod.mk.inj (Option.some.inj hstep)
    exact hs.createTask coro
  | resume task outcome created =>
    obtain ⟨t, ht, -, ⟨hasked, -⟩ | ⟨-, rfl, -⟩⟩ := resume_cases hstep
    · rw [hs.unasked t (List.mem_of_getElem? ht)] at hasked
      cases hasked
    · have hunasked := hs.unasked t (List.mem_of_getElem? ht)
      obtain ⟨wake, hgoes, hwake⟩ := hloops t ht
      have hset : Undisturbed
          { s with tasks := s.tasks.set task { t with started := true, outcome } } := by
        refine ⟨hs.running, fun t' ht' => ?_, fun t' ht' hloop => ?_⟩
        · rcases List.mem_or_eq_of_mem_set ht' with ht' | rfl
          · exact hs.unasked t' ht'
          · exact hunasked
        · rcases List.mem_or_eq_of_mem_set ht' with ht' | rfl
          · exact hs.uncancelled t' ht' hloop
          · refine not_cancelled hloop hgoes fun he => ?_
            rw [(hwake hloop).mp he] at hunasked
            cases hunasked
      exact hset.createTasks created
  | taskDoneCallback task =>
    obtain ⟨t, outcome, -, -, -, rfl, -⟩ := taskDoneCallback_cases hstep
    exact ⟨hs.running, hs.unasked, hs.uncancelled⟩
  | setShutdownEvent => exact absurd rfl hset
  | cancelAll => exact absurd rfl hcancel

lemma undisturbed_run (r : RunIf step Loops init as s os) (hset : .setShutdownEvent ∉ as)
    (hcancel : .cancelAll ∉ as) : Undisturbed s := by
  induction r with
  | nil => exact ⟨rfl, fun t ht => by simp [init] at ht, fun t ht => by simp [init] at ht⟩
  | @snoc as₁ s₁ s₂ os₁ o a _ hloops hstep ih =>
    have hbefore := ih (fun h => hset (by simp [h])) fun h => hcancel (by simp [h])
    exact hbefore.step hloops hstep (by rintro rfl; simp at hset) (by rintro rfl; simp at hcancel)

/-! ### Main result -/

/-- The tasks of a coroutine that go on. -/
def running (l : Coro) (s : State Coro) : ℕ :=
  s.tasks.countP fun t => t.coro = l && t.outcome = none

lemma unreturned_eq :
    unreturned l s = s.tasks.countP fun t => Unreturned l (t.coro, t.outcome) := by
  rw [unreturned, List.countP_map]
  rfl

lemma running_le_unreturned : running l s ≤ unreturned l s := by
  rw [unreturned_eq]
  apply List.countP_mono_left
  intro t _ ht
  simp only [Bool.and_eq_true, decide_eq_true_eq] at ht
  simp [Unreturned, ht.1, ht.2]

lemma running_eq_unreturned (hl : l.isLoop = true) (hs : Undisturbed s) :
    running l s = unreturned l s := by
  rw [unreturned_eq]
  apply List.countP_congr
  intro t ht
  by_cases he : t.coro = l
  · have hne := hs.uncancelled t ht (by rwa [he])
    simp [Unreturned, he, hne]
  · simp [Unreturned, he]

/-- How the tasks of a loop are kept going, and come to their end. -/
structure KeptGoing (l : Coro) (as : List (Action Coro)) (s : State Coro) : Prop where
  atMost : running l s ≤ starts l as
  exactly : .setShutdownEvent ∉ as → .cancelAll ∉ as → running l s = starts l as
  ends : Stopping s → ∀ task t outcome created s' o, s.tasks[task]? = some t → t.coro = l →
    Loops s [] (.resume task outcome created) →
      step s (.resume task outcome created) = some (s', o) →
        outcome = some .cancelled ∧ created = []

/-- **Background loops.** Until the shutdown there is exactly one task for every event stream
that was started, and one for the ticker, however often streams fail or end. In the shutdown each
ends at its next step and has no successor. -/
theorem keptGoing_of_run (hl : l.isLoop = true) (r : RunIf step Loops init as s os) :
    KeptGoing l as s := by
  have hcount := unreturned_run hl r
  constructor
  case atMost => exact running_le_unreturned.trans hcount.le
  case exactly =>
    intro hset hcancel
    rw [running_eq_unreturned hl (undisturbed_run r hset hcancel), hcount]
  case ends =>
    intro hstopping task t outcome created s' o ht hcoro hloops hstep
    obtain ⟨t', ht', hpending, -⟩ := resume_cases hstep
    obtain rfl := Option.some.inj (ht.symm.trans ht')
    obtain ⟨wake, hgoes, hwake⟩ := hloops t ht
    have hloop : t.coro.isLoop = true := by rwa [hcoro]
    obtain rfl := (hwake hloop).mpr (hstopping.2 t (List.mem_of_getElem? ht) hpending)
    cases hc : t.coro with
    | handleEvents beaconNode =>
      rw [hc] at hgoes
      exact Prod.mk.inj hgoes
    | onNewSlot =>
      rw [hc] at hgoes
      exact Prod.mk.inj hgoes.2
    | other name =>
      rw [hc] at hloop
      cases hloop

/-- A stream that is ended by the beacon node and then fails, with an event in between. -/
def resumedStream : List (Action Coro) :=
  [.createTask (.handleEvents "http://node"),
    .resume 0 (some .returned) [.handleEvents "http://node"],
    .resume 1 none [.other "handle_head_event"],
    .resume 1 (some .returned) [.handleEvents "http://node"], .taskDoneCallback 0]

theorem keptGoing_resumedStream : ∃ s os, RunIf step Loops init resumedStream s os ∧
    KeptGoing (.handleEvents "http://node") resumedStream s := by
  have hstream : ∀ {s : State Coro} {os : List TaskManager.Event} {task : ℕ} {result : StepEnd}
      (wake : Wake), result = handleEvents "http://node" wake →
      (s.tasks[task]?).map (fun t => (t.coro, t.cancelRequested)) =
        some (.handleEvents "http://node", false) → wake ≠ .cancelled →
      Loops s os (.resume task result.1 result.2) := by
    intro s os task result wake hresult hfound hwake t ht
    rw [ht, Option.map_some, Option.some.injEq, Prod.mk.injEq] at hfound
    rw [hfound.1]
    exact ⟨wake, hresult, fun _ => by simp [hwake, hfound.2]⟩
  have hrun : RunIf step Loops init resumedStream _ _ :=
    .snoc (.snoc (.snoc (.snoc (.snoc .nil trivial rfl)
      (hstream .ended rfl rfl (by simp)) rfl)
      (hstream (.handlers ["handle_head_event"]) rfl rfl (by simp)) rfl)
      (hstream .raised rfl rfl (by simp)) rfl) trivial rfl
  exact ⟨_, _, hrun, keptGoing_of_run rfl hrun⟩

end Vero.BackgroundLoops
