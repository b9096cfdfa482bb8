import Mathlib.Data.Finset.Card
import Vero.Lib.Runs

/-!
`TaskManager`: the tasks of the event loop that are kept track of, and how they end.

A task runs in steps, between which anything else may happen. The manager holds on to a task
until its callback has run. After the shutdown event a new task is cancelled before its first
step, and all others are asked to cancel at once.
-/

namespace Vero.TaskManager

open Lib.Runs

/-- How a task ends. A `HandledRuntimeError` has been taken care of where it was raised. -/
inductive Outcome
  | returned
  | handledRuntimeError
  | exception
  | cancelled
  deriving DecidableEq

structure Task (κ : Type) where
  coro : κ
  started : Bool
  cancelRequested : Bool
  outcome : Option Outcome
  deriving DecidableEq

/-- Tasks go by the order in which they were created. -/
structure State (κ : Type) where
  tasks : List (Task κ)
  tracked : Finset ℕ
  shutdownEvent : Bool
  errors : ℕ
  deriving DecidableEq

/-- What happens in the event loop. The next step of a task creates further tasks, and it may
end the task. -/
inductive Action (κ : Type)
  | createTask (coro : κ)
  | resume (task : ℕ) (outcome : Option Outcome) (created : List κ)
  | taskDoneCallback (task : ℕ)
  | setShutdownEvent
  | cancelAll

inductive Event
  | created (task : ℕ) (shutdownEvent : Bool)
  | ran (task : ℕ)
  | calledBack (task : ℕ) (outcome : Outcome) (shutdownEvent : Bool)
  deriving DecidableEq

variable {κ : Type}

def init : State κ := ⟨[], ∅, false, 0⟩

def Task.cancel (t : Task κ) : Task κ :=
  if t.outcome = none then { t with cancelRequested := true } else t

/-- What `create_task` leaves behind in the history. -/
def creations (shutdownEvent : Bool) : List κ → ℕ → List Event
  | [], _ => []
  | _ :: coros, task => .created task shutdownEvent :: creations shutdownEvent coros (task + 1)

namespace State

variable (s : State κ)

/-- `create_task`: the task is either tracked or cancelled. -/
def createTask (coro : κ) : State κ :=
  if s.shutdownEvent then
    { s with tasks := s.tasks ++ [Task.cancel ⟨coro, false, false, none⟩] }
  else
    { s with
      tasks := s.tasks ++ [⟨coro, false, false, none⟩]
      tracked := insert s.tasks.length s.tracked }

def createTasks (coros : List κ) : State κ := coros.foldl createTask s

/-- A task that was cancelled before its first step ends there. -/
def resume (task : ℕ) (outcome : Option Outcome) (created : List κ) :
    Option (State κ × List Event) :=
  match s.tasks[task]? with
  | none => none
  | some t =>
    if t.outcome ≠ none then none
    else if t.cancelRequested ∧ ¬ t.started then
      if outcome = some .cancelled ∧ created = [] then
        some ({ s with tasks := s.tasks.set task { t with outcome } }, [])
      else none
    else
      let ended := { s with tasks := s.tasks.set task { t with started := true, outcome } }
      let events := creations s.shutdownEvent created s.tasks.length
      some (ended.createTasks created, .ran task :: events)

/-- How much the callback adds to the errors. -/
def errorsOf : Outcome → ℕ
  | .cancelled => if s.shutdownEvent then 0 else 1
  | .exception => 1
  | .returned | .handledRuntimeError => 0

def taskDoneCallback (task : ℕ) : Option (State κ × List Event) :=
  match (s.tasks[task]?).bind Task.outcome with
  | none => none
  | some outcome =>
    if task ∈ s.tracked then
      some ({ s with tracked := s.tracked.erase task, errors := s.errors + s.errorsOf outcome },
        [.calledBack task outcome s.shutdownEvent])
    else none

def cancelAll : State κ :=
  { s with tasks := s.tasks.mapIdx fun task t => if task ∈ s.tracked then t.cancel else t }

end State

def step : Machine (State κ) (Action κ) Event := fun s action =>
  match action with
  | .createTask coro => some (s.createTask coro, [.created s.tasks.length s.shutdownEvent])
  | .resume task outcome created => s.resume task outcome created
  | .taskDoneCallback task => s.taskDoneCallback task
  | .setShutdownEvent => some ({ s with shutdownEvent := true }, [])
  | .cancelAll => some (s.cancelAll, [])

/-! ### Steps -/

variable {s s' : State κ} {action : Action κ} {o os : List Event} {as : List (Action κ)}

/-- What a step of a task is. -/
lemma resume_cases {task : ℕ} {outcome : Option Outcome} {created : List κ}
    (h : s.resume task outcome created = some (s', o)) :
    ∃ t, s.tasks[task]? = some t ∧ t.outcome = none ∧
      ((t.cancelRequested = true ∧ t.started = false ∧ outcome = some .cancelled ∧
          created = [] ∧ s' = { s with tasks := s.tasks.set task { t with outcome } } ∧ o = []) ∨
        (¬ (t.cancelRequested = true ∧ t.started = false) ∧
          s' = State.createTasks
            { s with tasks := s.tasks.set task { t with started := true, outcome } } created ∧
          o = .ran task :: creations s.shutdownEvent created s.tasks.length)) := by
  unfold State.resume at h
  cases ht : s.tasks[task]? with
  | none => simp [ht] at h
  | some t =>
    rw [ht] at h
    dsimp only at h
    split_ifs at h with hended hcancelled hcreated
    · simp only [Option.some.injEq, Prod.mk.injEq] at h
      obtain ⟨rfl, rfl⟩ := h
      refine ⟨t, rfl, not_not.mp hended, .inl ⟨hcancelled.1, by simpa using hcancelled.2,
        hcreated.1, hcreated.2, rfl, rfl⟩⟩
    · simp only [Option.some.injEq, Prod.mk.injEq] at h
      obtain ⟨rfl, rfl⟩ := h
      exact ⟨t, rfl, not_not.mp hended, .inr ⟨by simpa using hcancelled, rfl, rfl⟩⟩

lemma taskDoneCallback_cases {task : ℕ} (h : s.taskDoneCallback task = some (s', o)) :
    ∃ t outcome, s.tasks[task]? = some t ∧ t.outcome = some outcome ∧ task ∈ s.tracked ∧
      s' = { s with
        tracked := s.tracked.erase task, errors := s.errors + s.errorsOf outcome } ∧
      o = [.calledBack task outcome s.shutdownEvent] := by
  unfold State.taskDoneCallback at h
  cases ht : s.tasks[task]? with
  | none => simp [ht] at h
  | some t =>
    cases houtcome : t.outcome with
    | none => simp [ht, houtcome] at h
    | some outcome =>
      simp only [ht, Option.bind_some, houtcome] at h
      split_ifs at h with htracked
      simp only [Option.some.injEq, Prod.mk.injEq] at h
      exact ⟨t, outcome, rfl, houtcome, htracked, h.1.symm, h.2.symm⟩

/-! ### Callbacks -/

/-- The task whose callback has run. -/
def Event.callback : Event → Option ℕ
  | .calledBack task _ _ => some task
  | _ => none

/-- The errors that a callback has counted. -/
def Event.isError : Event → Bool
  | .calledBack _ .exception _ => true
  | .calledBack _ .cancelled shutdownEvent => !shutdownEvent
  | _ => false

/-- The manager holds on to every task that runs, and to every result that nobody has seen. -/
structure Managed (s : State κ) (os : List Event) : Prop where
  known : ∀ i ∈ s.tracked, i < s.tasks.length
  waiting : ∀ i t, s.tasks[i]? = some t → t.outcome = none → i ∉ s.tracked →
    t.cancelRequested = true ∧ t.started = false
  ran : ∀ i, .ran i ∈ os → ∃ t, s.tasks[i]? = some t ∧ t.started = true
  late : ∀ i, .created i true ∈ os → i ∉ s.tracked ∧ ∃ t, s.tasks[i]? = some t ∧
    t.started = false
  ended : ∀ i t outcome, s.tasks[i]? = some t → t.outcome = some outcome → t.started = true →
    i ∈ s.tracked ∨ ∃ shutdownEvent, .calledBack i outcome shutdownEvent ∈ os
  calledBack : ∀ i outcome shutdownEvent, .calledBack i outcome shutdownEvent ∈ os →
    i ∉ s.tracked ∧ ∃ t, s.tasks[i]? = some t ∧ t.outcome = some outcome
  once : (os.filterMap Event.callback).Nodup
  errors : s.errors = os.countP Event.isError

lemma managed_init : Managed (init : State κ) [] where
  known i hi := by simp [init] at hi
  waiting i t ht := by simp [init] at ht
  ran i hi := by simp at hi
  late i hi := by simp at hi
  ended i t outcome ht := by simp [init] at ht
  calledBack i outcome shutdownEvent hi := by simp at hi
  once := List.nodup_nil
  errors := rfl

/-- A task in a longer list of tasks is an old one or the one added. -/
lemma getElem?_snoc {tasks : List (Task κ)} {t t' : Task κ} {i : ℕ}
    (h : (tasks ++ [t])[i]? = some t') :
    tasks[i]? = some t' ∨ (i = tasks.length ∧ t' = t) := by
  rcases lt_trichotomy i tasks.length with hlt | rfl | hgt
  · exact .inl (by rwa [List.getElem?_append_left hlt] at h)
  · exact .inr ⟨rfl, by simpa using h.symm⟩
  · have hnone : (tasks ++ [t])[i]? = none := List.getElem?_eq_none (by simp; omega)
    rw [hnone] at h
    cases h

lemma getElem?_old {tasks : List (Task κ)} {t t' : Task κ} {i : ℕ} (h : tasks[i]? = some t') :
    (tasks ++ [t])[i]? = some t' := by
  rw [List.getElem?_append_left (List.getElem?_eq_some_iff.mp h).1]
  exact h

/-- A new task is tracked, or it has been asked to cancel. -/
lemma managed_append {t : Task κ} {tracked : Finset ℕ} (hs : Managed s os)
    (hstarted : t.started = false) (hpending : t.outcome = none)
    (htracked : ∀ i, i ∈ tracked ↔ i ∈ s.tracked ∨ i = s.tasks.length ∧ s.shutdownEvent = false)
    (hcancel : s.shutdownEvent = true → t.cancelRequested = true) :
    Managed { s with tasks := s.tasks ++ [t], tracked }
      (os ++ [.created s.tasks.length s.shutdownEvent]) := by
  have hnew : s.tasks.length ∉ s.tracked := fun hmem => absurd (hs.known _ hmem) (lt_irrefl _)
  -- an old task is tracked as before
  have hold : ∀ {i : ℕ} {t' : Task κ}, s.tasks[i]? = some t' → (i ∈ tracked ↔ i ∈ s.tracked) := by
    intro i t' ht'
    have hlt := (List.getElem?_eq_some_iff.mp ht').1
    rw [htracked]
    constructor
    · rintro (h | ⟨h, -⟩)
      · exact h
      · omega
    · exact .inl
  constructor
  case known =>
    intro i hi
    simp only [List.length_append, List.length_singleton]
    rcases (htracked i).mp hi with hi | ⟨rfl, -⟩
    · have := hs.known i hi
      omega
    · omega
  case waiting =>
    intro i t' ht' hpending' hi
    rcases getElem?_snoc ht' with ht' | ⟨rfl, rfl⟩
    · exact hs.waiting i t' ht' hpending' fun hmem => hi ((hold ht').mpr hmem)
    · refine ⟨hcancel ?_, hstarted⟩
      by_contra hshutdown
      exact hi ((htracked _).mpr (.inr ⟨rfl, by simpa using hshutdown⟩))
  case ran =>
    intro i hi
    obtain ⟨t', ht', hran⟩ := hs.ran i (by simpa using hi)
    exact ⟨t', getElem?_old ht', hran⟩
  case late =>
    intro i hi
    rcases List.mem_append.mp hi with hi | hi
    · obtain ⟨hi, t', ht', hran⟩ := hs.late i hi
      exact ⟨fun hmem => hi ((hold ht').mp hmem), t', getElem?_old ht', hran⟩
    · obtain ⟨rfl, hshutdown⟩ := Event.created.inj (List.mem_singleton.mp hi)
      refine ⟨fun hmem => ?_, t, List.getElem?_concat_length, hstarted⟩
      rcases (htracked _).mp hmem with hmem | ⟨-, hopen⟩
      · exact hnew hmem
      · rw [← hshutdown] at hopen
        cases hopen
  case ended =>
    intro i t' outcome ht' houtcome hran
    rcases getElem?_snoc ht' with ht' | ⟨rfl, rfl⟩
    · rcases hs.ended i t' outcome ht' houtcome hran with hmem | ⟨sd, hcalled⟩
      · exact .inl ((hold ht').mpr hmem)
      · exact .inr ⟨sd, by simp [hcalled]⟩
    · rw [hstarted] at hran
      cases hran
  case calledBack =>
    intro i outcome sd hi
    obtain ⟨hi, t', ht', houtcome⟩ := hs.calledBack i outcome sd (by simpa using hi)
    exact ⟨fun hmem => hi ((hold ht').mp hmem), t', getElem?_old ht', houtcome⟩
  case once =>
    rw [List.filterMap_append]
    simpa [Event.callback, List.filterMap_cons] using hs.once
  case errors => simpa [Event.isError] using hs.errors

lemma managed_createTask (hs : Managed s os) (coro : κ) :
    Managed (s.createTask coro) (os ++ [.created s.tasks.length s.shutdownEvent]) := by
  unfold State.createTask
  split_ifs with hshutdown
  · exact managed_append hs rfl rfl (by simp [hshutdown]) fun _ => rfl
  · refine managed_append hs rfl rfl (fun i => ?_) fun h => absurd h hshutdown
    rw [Finset.mem_insert]
    simp [hshutdown, or_comm]

lemma length_createTask (coro : κ) : (s.createTask coro).tasks.length = s.tasks.length + 1 := by
  unfold State.createTask
  split_ifs <;> simp

lemma shutdownEvent_createTask (coro : κ) :
    (s.createTask coro).shutdownEvent = s.shutdownEvent := by
  unfold State.createTask
  split_ifs <;> rfl

lemma managed_createTasks (hs : Managed s os) (coros : List κ) :
    Managed (s.createTasks coros) (os ++ creations s.shutdownEvent coros s.tasks.length) := by
  induction coros generalizing s os with
  | nil => simpa [State.createTasks, creations] using hs
  | cons coro coros ih =>
    have hrest := ih (managed_createTask hs coro)
    rw [length_createTask, shutdownEvent_createTask] at hrest
    simpa [State.createTasks, creations] using hrest

/-- The next step of a task, after which it may have ended. -/
lemma managed_ran {t : Task κ} {task : ℕ} (hs : Managed s os)
    (ht : s.tasks[task]? = some t) (hpending : t.outcome = none)
    (hruns : ¬ (t.cancelRequested = true ∧ t.started = false)) (outcome : Option Outcome) :
    Managed { s with tasks := s.tasks.set task { t with started := true, outcome } }
      (os ++ [.ran task]) := by
  have hlt := (List.getElem?_eq_some_iff.mp ht).1
  have htracked : task ∈ s.tracked := by
    by_contra hmem
    exact hruns (hs.waiting task t ht hpending hmem)
  have hself : (s.tasks.set task { t with started := true, outcome })[task]? =
      some { t with started := true, outcome } := by simp [hlt]
  have hother : ∀ {i : ℕ}, i ≠ task →
      (s.tasks.set task { t with started := true, outcome })[i]? = s.tasks[i]? := fun hne =>
    List.getElem?_set_ne hne.symm
  constructor
  case known =>
    intro i hi
    simpa using hs.known i hi
  case waiting =>
    intro i t' ht' hpending' hi
    by_cases he : i = task
    · subst he
      exact absurd htracked hi
    · exact hs.waiting i t' (by rwa [hother he] at ht') hpending' hi
  case ran =>
    intro i hi
    by_cases he : i = task
    · subst he
      exact ⟨_, hself, rfl⟩
    · obtain ⟨t', ht', hran⟩ := hs.ran i (by simpa [he] using hi)
      exact ⟨t', by rwa [hother he], hran⟩
  case late =>
    intro i hi
    obtain ⟨huntracked, t', ht', hran⟩ := hs.late i (by simpa using hi)
    have hne : i ≠ task := by
      rintro rfl
      exact huntracked htracked
    exact ⟨huntracked, t', by rwa [hother hne], hran⟩
  case ended =>
    intro i t' outcome' ht' houtcome hran
    by_cases he : i = task
    · subst he
      exact .inl htracked
    · rcases hs.ended i t' outcome' (by rwa [hother he] at ht') houtcome hran with hmem | ⟨sd, hc⟩
      · exact .inl hmem
      · exact .inr ⟨sd, by simp [hc]⟩
  case calledBack =>
    intro i outcome' sd hi
    obtain ⟨huntracked, t', ht', houtcome⟩ := hs.calledBack i outcome' sd (by simpa using hi)
    have hne : i ≠ task := by
      rintro rfl
      exact huntracked htracked
    exact ⟨huntracked, t', by rwa [hother hne], houtcome⟩
  case once =>
    rw [List.filterMap_append]
    simpa [Event.callback, List.filterMap_cons] using hs.once
  case errors => simpa [Event.isError] using hs.errors

/-- A task that never took a step has ended. -/
lemma managed_unstarted {t : Task κ} {task : ℕ} {outcome : Option Outcome} (hs : Managed s os)
    (ht : s.tasks[task]? = some t) (hpending : t.outcome = none) (hstarted : t.started = false)
    (hended : outcome ≠ none) :
    Managed { s with tasks := s.tasks.set task { t with outcome } } os := by
  have hlt := (List.getElem?_eq_some_iff.mp ht).1
  have hself : (s.tasks.set task { t with outcome })[task]? = some { t with outcome } := by
    simp [hlt]
  have hother : ∀ {i : ℕ}, i ≠ task →
      (s.tasks.set task { t with outcome })[i]? = s.tasks[i]? := fun hne =>
    List.getElem?_set_ne hne.symm
  constructor
  case known =>
    intro i hi
    simpa using hs.known i hi
  case waiting =>
    intro i t' ht' hpending' hi
    by_cases he : i = task
    · subst he
      obtain rfl := Option.some.inj (hself.symm.trans ht')
      exact absurd hpending' hended
    · exact hs.waiting i t' (by rwa [hother he] at ht') hpending' hi
  case ran =>
    intro i hi
    obtain ⟨t', ht', hran⟩ := hs.ran i hi
    by_cases he : i = task
    · subst he
      obtain rfl := Option.some.inj (ht.symm.trans ht')
      rw [hstarted] at hran
      cases hran
    · exact ⟨t', by rwa [hother he], hran⟩
  case late =>
    intro i hi
    obtain ⟨hi, t', ht', hran⟩ := hs.late i hi
    by_cases he : i = task
    · subst he
      exact ⟨hi, _, hself, hstarted⟩
    · exact ⟨hi, t', by rwa [hother he], hran⟩
  case ended =>
    intro i t' outcome' ht' houtcome hran
    by_cases he : i = task
    · subst he
      obtain rfl := Option.some.inj (hself.symm.trans ht')
      rw [hstarted] at hran
      cases hran
    · exact hs.ended i t' outcome' (by rwa [hother he] at ht') houtcome hran
  case calledBack =>
    intro i outcome' sd hi
    obtain ⟨hi, t', ht', houtcome⟩ := hs.calledBack i outcome' sd hi
    by_cases he : i = task
    · subst he
      obtain rfl := Option.some.inj (ht.symm.trans ht')
      rw [hpending] at houtcome
      cases houtcome
    · exact ⟨hi, t', by rwa [hother he], houtcome⟩
  case once => exact hs.once
  case errors => exact hs.errors

lemma managed_callback {t : Task κ} {task : ℕ} {outcome : Outcome} (hs : Managed s os)
    (ht : s.tasks[task]? = some t) (houtcome : t.outcome = some outcome)
    (htracked : task ∈ s.tracked) :
    Managed { s with
        tracked := s.tracked.erase task, errors := s.errors + s.errorsOf outcome }
      (os ++ [.calledBack task outcome s.shutdownEvent]) := by
  constructor
  case known => exact fun i hi => hs.known i (Finset.mem_of_mem_erase hi)
  case waiting =>
    intro i t' ht' hpending hi
    by_cases he : i = task
    · subst he
      obtain rfl := Option.some.inj (ht.symm.trans ht')
      rw [hpending] at houtcome
      cases houtcome
    · exact hs.waiting i t' ht' hpending fun hmem => hi (Finset.mem_erase.mpr ⟨he, hmem⟩)
  case ran =>
    intro i hi
    exact hs.ran i (by simpa using hi)
  case late =>
    intro i hi
    obtain ⟨huntracked, hfound⟩ := hs.late i (by simpa using hi)
    exact ⟨fun hmem => huntracked (Finset.mem_of_mem_erase hmem), hfound⟩
  case ended =>
    intro i t' outcome' ht' houtcome' hran
    by_cases he : i = task
    · subst he
      obtain rfl := Option.some.inj (ht.symm.trans ht')
      obtain rfl := Option.some.inj (houtcome.symm.trans houtcome')
      exact .inr ⟨s.shutdownEvent, by simp⟩
    · rcases hs.ended i t' outcome' ht' houtcome' hran with hmem | ⟨sd, hcalled⟩
      · exact .inl (Finset.mem_erase.mpr ⟨he, hmem⟩)
      · exact .inr ⟨sd, by simp [hcalled]⟩
  case calledBack =>
    intro i outcome' sd hi
    rcases List.mem_append.mp hi with hi | hi
    · obtain ⟨huntracked, hfound⟩ := hs.calledBack i outcome' sd hi
      exact ⟨fun hmem => huntracked (Finset.mem_of_mem_erase hmem), hfound⟩
    · obtain ⟨rfl, rfl, -⟩ := Event.calledBack.inj (List.mem_singleton.mp hi)
      exact ⟨Finset.notMem_erase _ _, t, ht, houtcome⟩
  case once =>
    -- a tracked task has not been called back
    rw [List.filterMap_append, List.nodup_append]
    refine ⟨hs.once, by simp [Event.callback], fun i hi j hj hij => ?_⟩
    obtain ⟨event, hevent, he⟩ := List.mem_filterMap.mp hi
    cases event with
    | calledBack task' outcome' sd =>
      have htask : task' = task := by
        calc task' = i := by simpa [Event.callback] using he
          _ = j := hij
          _ = task := by simpa [Event.callback, List.filterMap_cons] using hj
      rw [htask] at hevent
      exact (hs.calledBack task outcome' sd hevent).1 htracked
    | created | ran => simp [Event.callback] at he
  case errors =>
    rw [List.countP_append, ← hs.errors]
    cases outcome with
    | cancelled => cases hsd : s.shutdownEvent <;> simp [State.errorsOf, Event.isError, hsd]
    | returned | handledRuntimeError | exception => simp [State.errorsOf, Event.isError]

@[simp] lemma outcome_cancel (t : Task κ) : t.cancel.outcome = t.outcome := by
  unfold Task.cancel
  split_ifs <;> rfl

@[simp] lemma started_cancel (t : Task κ) : t.cancel.started = t.started := by
  unfold Task.cancel
  split_ifs <;> rfl

@[simp] lemma coro_cancel (t : Task κ) : t.cancel.coro = t.coro := by
  unfold Task.cancel
  split_ifs <;> rfl

lemma cancelRequested_cancel (t : Task κ) :
    t.cancel.cancelRequested = true ↔ t.cancelRequested = true ∨ t.outcome = none := by
  unfold Task.cancel
  split_ifs with h <;> simp [h]

/-- What `cancel_all` makes of a task. -/
def State.asked (s : State κ) (task : ℕ) (t : Task κ) : Task κ :=
  if task ∈ s.tracked then t.cancel else t

lemma getElem?_cancelAll (i : ℕ) :
    s.cancelAll.tasks[i]? = (s.tasks[i]?).map (s.asked i) := by
  simp only [State.cancelAll, List.getElem?_mapIdx]
  rfl

@[simp] lemma outcome_asked (i : ℕ) (t : Task κ) : (s.asked i t).outcome = t.outcome := by
  unfold State.asked
  split_ifs <;> simp

@[simp] lemma started_asked (i : ℕ) (t : Task κ) : (s.asked i t).started = t.started := by
  unfold State.asked
  split_ifs <;> simp

lemma cancelRequested_asked {i : ℕ} {t : Task κ} (h : t.cancelRequested = true) :
    (s.asked i t).cancelRequested = true := by
  unfold State.asked
  split_ifs
  · exact (cancelRequested_cancel t).mpr (.inl h)
  · exact h

lemma managed_cancelAll (hs : Managed s os) : Managed s.cancelAll os := by
  have hafter : ∀ {i : ℕ} {t' : Task κ}, s.cancelAll.tasks[i]? = some t' →
      ∃ t, s.tasks[i]? = some t ∧ s.asked i t = t' := by
    intro i t' ht'
    rw [getElem?_cancelAll] at ht'
    exact Option.map_eq_some_iff.mp ht'
  have hbefore : ∀ {i : ℕ} {t : Task κ}, s.tasks[i]? = some t →
      s.cancelAll.tasks[i]? = some (s.asked i t) := by
    intro i t ht
    rw [getElem?_cancelAll, ht, Option.map_some]
  constructor
  case known =>
    intro i hi
    simpa [State.cancelAll] using hs.known i hi
  case waiting =>
    intro i t' ht' hpending hi
    obtain ⟨t, ht, rfl⟩ := hafter ht'
    obtain ⟨hcancel, hstarted⟩ := hs.waiting i t ht (by simpa using hpending) hi
    exact ⟨cancelRequested_asked hcancel, by simpa using hstarted⟩
  case ran =>
    intro i hi
    obtain ⟨t, ht, hran⟩ := hs.ran i hi
    exact ⟨_, hbefore ht, by simpa using hran⟩
  case late =>
    intro i hi
    obtain ⟨huntracked, t, ht, hran⟩ := hs.late i hi
    exact ⟨huntracked, _, hbefore ht, by simpa using hran⟩
  case ended =>
    intro i t' outcome ht' houtcome hran
    obtain ⟨t, ht, rfl⟩ := hafter ht'
    exact hs.ended i t outcome ht (by simpa using houtcome) (by simpa using hran)
  case calledBack =>
    intro i outcome sd hi
    obtain ⟨huntracked, t, ht, houtcome⟩ := hs.calledBack i outcome sd hi
    exact ⟨huntracked, _, hbefore ht, by simpa using houtcome⟩
  case once => exact hs.once
  case errors => exact hs.errors

lemma managed_step (hs : Managed s os) (hstep : step s action = some (s', o)) :
    Managed s' (os ++ o) := by
  cases action with
  | createTask coro =>
    obtain ⟨rfl, rfl⟩ := Prod.mk.inj (Option.some.inj hstep)
    exact managed_createTask hs coro
  | resume task outcome created =>
    obtain ⟨t, ht, hpending, ⟨-, hstarted, rfl, -, rfl, rfl⟩ | ⟨hruns, rfl, rfl⟩⟩ :=
      resume_cases hstep
    · rw [List.append_nil]
      exact managed_unstarted hs ht hpending hstarted (by simp)
    · have hrest := managed_createTasks (managed_ran hs ht hpending hruns outcome) created
      rw [List.length_set, List.append_assoc] at hrest
      exact hrest
  | taskDoneCallback task =>
    obtain ⟨t, outcome, ht, houtcome, htracked, rfl, rfl⟩ := taskDoneCallback_cases hstep
    exact managed_callback hs ht houtcome htracked
  | setShutdownEvent =>
    obtain ⟨rfl, rfl⟩ := Prod.mk.inj (Option.some.inj hstep)
    rw [List.append_nil]
    exact ⟨hs.known, hs.waiting, hs.ran, hs.late, hs.ended, hs.calledBack, hs.once, hs.errors⟩
  | cancelAll =>
    obtain ⟨rfl, rfl⟩ := Prod.mk.inj (Option.some.inj hstep)
    rw [List.append_nil]
    exact managed_cancelAll hs

lemma managed_run (r : Run step init as s os) : Managed s os :=
  r.invariant managed_init fun _ _ _ _ _ hs _ hstep => managed_step hs hstep

/-! ### Main results -/

/-- What the manager knows of the tasks at the end of a run. -/
structure Accounted (s : State κ) (os : List Event) : Prop where
  referenced : ∀ i t, s.tasks[i]? = some t → t.started = true → t.outcome = none → i ∈ s.tracked
  seen : ∀ i t outcome, s.tasks[i]? = some t → t.started = true → t.outcome = some outcome →
    i ∈ s.tracked ∨ ∃ shutdownEvent, .calledBack i outcome shutdownEvent ∈ os
  once : (os.filterMap Event.callback).Nodup
  errors : s.errors = os.countP Event.isError
  late : ∀ i, .created i true ∈ os → .ran i ∉ os

/-- **Tasks.** A running task is never let go of. Each that ends is called back once, so that no
exception is lost or counted twice. A task created after the shutdown event never runs. -/
theorem accounted_of_run (r : Run step (init : State κ) as s os) : Accounted s os := by
  have hs := managed_run r
  constructor
  case referenced =>
    intro i t ht hstarted hpending
    by_contra hmem
    have hwaiting := (hs.waiting i t ht hpending hmem).2
    rw [hstarted] at hwaiting
    cases hwaiting
  case seen =>
    intro i t outcome ht hstarted houtcome
    exact hs.ended i t outcome ht houtcome hstarted
  case once => exact hs.once
  case errors => exact hs.errors
  case late =>
    intro i hlate hran
    obtain ⟨-, t, ht, hnot⟩ := hs.late i hlate
    obtain ⟨t', ht', hstarted⟩ := hs.ran i hran
    obtain rfl := Option.some.inj (ht.symm.trans ht')
    rw [hstarted] at hnot
    cases hnot

/-- A task that creates another, which fails; a third one after the shutdown event. -/
def failingTask : List (Action String) :=
  [.createTask "handle_events", .resume 0 none ["handle_head_event"],
    .resume 1 (some .exception) [], .taskDoneCallback 1, .setShutdownEvent,
    .createTask "handle_head_event", .resume 2 (some .cancelled) []]

theorem accounted_failingTask : ∃ s os, Run step init failingTask s os ∧ s.errors = 1 ∧
    .created 2 true ∈ os ∧ Accounted s os := by
  obtain ⟨s, os, r, hp⟩ := @exec_any _ _ _ step (fun _ _ _ => True) init failingTask _
    (fun s os => s.errors = 1 && .created 2 true ∈ os) (by decide)
  rw [Bool.and_eq_true, decide_eq_true_eq, decide_eq_true_eq] at hp
  exact ⟨s, os, r, hp.1, hp.2, accounted_of_run r⟩

/-- The process is shutting down, and all tasks know. -/
def Stopping (s : State κ) : Prop :=
  s.shutdownEvent = true ∧ ∀ t ∈ s.tasks, t.outcome = none → t.cancelRequested = true

lemma stopping_cancelAll (hs : Managed s os) (hshutdown : s.shutdownEvent = true) :
    Stopping s.cancelAll := by
  refine ⟨hshutdown, fun t' ht' hpending => ?_⟩
  obtain ⟨i, hi⟩ := List.mem_iff_getElem?.mp ht'
  rw [getElem?_cancelAll] at hi
  obtain ⟨t, ht, rfl⟩ := Option.map_eq_some_iff.mp hi
  by_cases htracked : i ∈ s.tracked
  · simp only [State.asked, htracked, if_true]
    exact (cancelRequested_cancel t).mpr (.inr (by simpa using hpending))
  · exact cancelRequested_asked (hs.waiting i t ht (by simpa using hpending) htracked).1

lemma Stopping.createTask (hs : Stopping s) (coro : κ) : Stopping (s.createTask coro) := by
  unfold State.createTask
  rw [if_pos hs.1]
  refine ⟨hs.1, fun t ht hpending => ?_⟩
  rcases List.mem_append.mp ht with ht | ht
  · exact hs.2 t ht hpending
  · rw [List.mem_singleton.mp ht]
    rfl

lemma Stopping.createTasks (hs : Stopping s) (coros : List κ) : Stopping (s.createTasks coros) := by
  induction coros generalizing s with
  | nil => exact hs
  | cons coro coros ih => exact ih (hs.createTask coro)

lemma Stopping.set {t : Task κ} {task : ℕ} (hs : Stopping s)
    (ht : t.outcome = none → t.cancelRequested = true) :
    Stopping { s with tasks := s.tasks.set task t } := by
  refine ⟨hs.1, fun t' ht' hpending => ?_⟩
  rcases List.mem_or_eq_of_mem_set ht' with ht' | rfl
  · exact hs.2 t' ht' hpending
  · exact ht hpending

lemma Stopping.step (hs : Stopping s) (hstep : step s action = some (s', o)) : Stopping s' := by
  cases action with
  | createTask coro =>
    obtain ⟨rfl, -⟩ := Prod.mk.inj (Option.some.inj hstep)
    exact hs.createTask coro
  | resume task outcome created =>
    obtain ⟨t, ht, hpending, ⟨hcancel, -, -, -, rfl, -⟩ | ⟨-, rfl, -⟩⟩ := resume_cases hstep
    · exact hs.set fun _ => hcancel
    · have hcancel := hs.2 t (List.mem_of_getElem? ht) hpending
      have hset : Stopping
          { s with tasks := s.tasks.set task { t with started := true, outcome } } :=
        hs.set fun _ => hcancel
      exact hset.createTasks created
  | taskDoneCallback task =>
    obtain ⟨t, outcome, -, -, -, rfl, -⟩ := taskDoneCallback_cases hstep
    exact hs
  | setShutdownEvent =>
    obtain ⟨rfl, -⟩ := Prod.mk.inj (Option.some.inj hstep)
    exact ⟨rfl, hs.2⟩
  | cancelAll =>
    obtain ⟨rfl, -⟩ := Prod.mk.inj (Option.some.inj hstep)
    refine ⟨hs.1, fun t' ht' hpending => ?_⟩
    obtain ⟨i, hi⟩ := List.mem_iff_getElem?.mp ht'
    rw [getElem?_cancelAll] at hi
    obtain ⟨t, ht, rfl⟩ := Option.map_eq_some_iff.mp hi
    exact cancelRequested_asked (hs.2 t (List.mem_of_getElem? ht) (by simpa using hpending))

lemma shutdownEvent_createTasks (coros : List κ) :
    (s.createTasks coros).shutdownEvent = s.shutdownEvent := by
  induction coros generalizing s with
  | nil => rfl
  | cons coro coros ih => exact ih.trans (shutdownEvent_createTask coro)

lemma shutdownEvent_step (hshutdown : s.shutdownEvent = true ∨ action = .setShutdownEvent)
    (hstep : step s action = some (s', o)) : s'.shutdownEvent = true := by
  cases action with
  | createTask coro =>
    obtain ⟨rfl, -⟩ := Prod.mk.inj (Option.some.inj hstep)
    rw [shutdownEvent_createTask]
    simpa using hshutdown
  | resume task outcome created =>
    obtain ⟨t, -, -, ⟨-, -, -, -, rfl, -⟩ | ⟨-, rfl, -⟩⟩ := resume_cases hstep
    · simpa using hshutdown
    · rw [shutdownEvent_createTasks]
      simpa using hshutdown
  | taskDoneCallback task =>
    obtain ⟨t, outcome, -, -, -, rfl, -⟩ := taskDoneCallback_cases hstep
    simpa using hshutdown
  | setShutdownEvent =>
    obtain ⟨rfl, -⟩ := Prod.mk.inj (Option.some.inj hstep)
    rfl
  | cancelAll =>
    obtain ⟨rfl, -⟩ := Prod.mk.inj (Option.some.inj hstep)
    simpa [State.cancelAll] using hshutdown

lemma shutdownEvent_run {s₀ : State κ} (r : Run step s₀ as s os)
    (hset : s₀.shutdownEvent = true ∨ .setShutdownEvent ∈ as) : s.shutdownEvent = true := by
  induction r with
  | nil => simpa using hset
  | snoc _ _ hstep ih =>
    refine shutdownEvent_step ?_ hstep
    rcases hset with h | h
    · exact .inl (ih (.inl h))
    · rcases List.mem_append.mp h with h | h
      · exact .inl (ih (.inr h))
      · exact .inr (List.mem_singleton.mp h).symm

/-- **Shutdown.** When the shutdown event was set and all tasks were cancelled, no task that goes
on has not been asked to cancel, however the tasks go on and whatever they create. -/
theorem stopping_of_run {as' : List (Action κ)}
    (r : Run step (init : State κ) (as ++ .cancelAll :: as') s os)
    (hset : .setShutdownEvent ∈ as) : Stopping s := by
  obtain ⟨s₁, s₂, os₁, o₁, os₂, r₁, hstep, r₂⟩ := r.split_at
  obtain ⟨rfl, -⟩ := Prod.mk.inj (Option.some.inj hstep)
  have hcancelled : Stopping s₁.cancelAll :=
    stopping_cancelAll (managed_run r₁) (shutdownEvent_run r₁ (.inr hset))
  exact r₂.invariant (I := fun s _ => Stopping s) hcancelled fun _ _ _ _ _ hs _ hstep =>
    hs.step hstep

/-- A task that has started, and one that has not. -/
def cancelledTasks : List (Action String) :=
  [.createTask "handle_events", .resume 0 none ["handle_head_event"], .setShutdownEvent]

theorem stopping_cancelledTasks : ∃ s os,
    Run step init (cancelledTasks ++ .cancelAll :: [.resume 0 none ["handle_head_event"]]) s os ∧
      s.tasks.length = 3 ∧ Stopping s := by
  obtain ⟨s, os, r, hp⟩ := @exec_any _ _ _ step (fun _ _ _ => True) init
    (cancelledTasks ++ .cancelAll :: [.resume 0 none ["handle_head_event"]]) _
    (fun s _ => s.tasks.length = 3) (by decide)
  exact ⟨s, os, r, by simpa using hp, stopping_of_run r (by simp [cancelledTasks])⟩

end Vero.TaskManager
