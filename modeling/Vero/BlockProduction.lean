import Mathlib.Algebra.Order.Field.Rat
import Mathlib.Data.Finset.Max
import Mathlib.Data.Finset.Order
import Mathlib.Tactic.Linarith
import Vero.Context
import Vero.Lib.Best
import Vero.Lib.Runs
import Vero.MultiBeaconNode

/-!
`_produce_best_block`: the best block of those that arrive in time, or else the first.

All nodes are asked at once. A loop collects what has arrived whenever it wakes, until the
cutoff has passed or nothing is pending. If it has no block by then, the pending nodes are
waited for, one answer after the other.
-/

namespace Vero

/-- `_TESTS` is `tests` here. -/
inductive Network
  | mainnet
  | hoodi
  | gnosis
  | chiado
  | tests
  | custom
  deriving DecidableEq

namespace SchemaBeaconAPI

structure ProduceBlockV3Response where
  version : ForkVersion
  executionPayloadBlinded : Bool
  executionPayloadValue : String
  consensusBlockValue : String
  deriving DecidableEq

end SchemaBeaconAPI

open SchemaBeaconAPI

/-- A response whose values are numbers. -/
structure ProducedBlockV3 (int : String → Option ℤ) extends ProduceBlockV3Response where
  consensus : ℤ
  execution : ℤ
  int_consensus : int consensusBlockValue = some consensus
  int_execution : int executionPayloadValue = some execution

/-- What `BeaconNode.produce_block_v3` makes of a decoded response. An empty value counts as
zero, and one that is not a number makes the call raise. -/
def BeaconNode.produceBlockV3 (int : String → Option ℤ) (response : ProduceBlockV3Response) :
    Option (ProducedBlockV3 int) :=
  let response := { response with
    consensusBlockValue :=
      if response.consensusBlockValue = "" then "0" else response.consensusBlockValue
    executionPayloadValue :=
      if response.executionPayloadValue = "" then "0" else response.executionPayloadValue }
  match hc : int response.consensusBlockValue, he : int response.executionPayloadValue with
  | some consensus, some execution => some ⟨response, consensus, execution, hc, he⟩
  | _, _ => none

end Vero

namespace Vero.ProduceBestBlock

open Lib Lib.Runs Lib.Best SchemaBeaconAPI

/-- A call of `_produce_best_block` at `startTime`, with one task for each node that is used:
when the task completes, and the response it decodes unless its request fails. -/
structure Call where
  int : String → Option ℤ
  network : Network
  secondsPerSlot : ℕ
  multiBeaconNode : MultiBeaconNode
  beaconNodesProposal : List Host
  startTime : ℚ
  completion : ℕ → ℚ
  response : ℕ → Option ProduceBlockV3Response

namespace Call

variable (p : Call)

def secondsPerInterval : ℚ := p.secondsPerSlot / BeaconChain.intervalsPerSlot

def timeout : ℚ := 1 / 2 * p.secondsPerInterval

def cutoff : ℚ := p.startTime + p.timeout

def beaconNodesToUse : List Host :=
  if p.beaconNodesProposal ≠ [] then p.beaconNodesProposal
  else p.multiBeaconNode.initializedBeaconNodes

def tasks : List ℕ := List.range p.beaconNodesToUse.length

/-- What awaiting the task gives, or nothing where it raises. -/
def result (i : ℕ) : Option (ProducedBlockV3 p.int) :=
  (p.response i).bind (BeaconNode.produceBlockV3 p.int)

/-- The execution payload values of Gnosis Chain and Chiado are in another currency. -/
def compareConsensusBlockValueOnly : Prop := p.network = .gnosis ∨ p.network = .chiado

instance : Decidable p.compareConsensusBlockValueOnly := inferInstanceAs (Decidable (_ ∨ _))

def blockValue (r : ProducedBlockV3 p.int) : ℤ :=
  if p.compareConsensusBlockValueOnly then r.consensus else r.consensus + r.execution

end Call

/-- Where the call awaits, or how it ended. -/
inductive Phase (int : String → Option ℤ)
  | collecting (remainingTimeout : ℚ)
  | awaitingFirst
  | returned (response : ProducedBlockV3 int)
  | raised

/-- `clock` is the last reading of the loop's clock. The tasks that are pending in the end are
cancelled. -/
structure State (int : String → Option ℤ) where
  clock : ℚ
  pending : List ℕ
  bestBlockValue : ℤ
  bestBlockResponse : Option (ProducedBlockV3 int)
  phase : Phase int

/-- `asyncio.wait` returns at `time` with `done`, in the order in which the loop takes them, and
the clock shows `clock` when they are dealt with. Or the next task completes. -/
inductive Action
  | wake (time : ℚ) (done : List ℕ) (clock : ℚ)
  | completed (task : ℕ)

inductive Output
  | collected (task : ℕ)
  | awaited (task : ℕ)
  deriving DecidableEq

variable (p : Call)

namespace State

variable {p} (s : State p.int)

/-- The test of the collection loop, and what follows once it fails. -/
def settle : State p.int :=
  let remainingTimeout := max (p.timeout - (s.clock - p.startTime)) 0
  if s.pending ≠ [] ∧ 0 < remainingTimeout then { s with phase := .collecting remainingTimeout }
  else
    match s.bestBlockResponse with
    | some response => { s with phase := .returned response }
    | none =>
      if s.pending ≠ [] then { s with phase := .awaitingFirst } else { s with phase := .raised }

/-- The body of the loop over the tasks that are done. -/
def collect (best : ℤ × Option (ProducedBlockV3 p.int)) (task : ℕ) :
    ℤ × Option (ProducedBlockV3 p.int) :=
  match p.result task with
  | some response => keep p.blockValue best response
  | none => best

/-- What `asyncio.wait` may return. It waits for the first task to complete, and for the timeout
at most. While the body of the loop runs no task completes. -/
structure Wakes (remainingTimeout time : ℚ) (done : List ℕ) (clock : ℚ) : Prop where
  later : s.clock ≤ time
  perm : done.Perm (s.pending.filter fun i => p.completion i ≤ time)
  first : done ≠ [] ∨ s.clock + remainingTimeout ≤ time
  read : time ≤ clock
  busy : ∀ i ∈ s.pending, time < p.completion i → clock < p.completion i

instance (remainingTimeout time : ℚ) (done : List ℕ) (clock : ℚ) :
    Decidable (s.Wakes remainingTimeout time done clock) :=
  decidable_of_iff (s.clock ≤ time ∧
      done.Perm (s.pending.filter fun i => p.completion i ≤ time) ∧
      (done ≠ [] ∨ s.clock + remainingTimeout ≤ time) ∧ time ≤ clock ∧
      ∀ i ∈ s.pending, time < p.completion i → clock < p.completion i)
    ⟨fun ⟨later, perm, first, read, busy⟩ => ⟨later, perm, first, read, busy⟩,
      fun h => ⟨h.later, h.perm, h.first, h.read, h.busy⟩⟩

def wake (done : List ℕ) (clock : ℚ) : State p.int :=
  let best := done.foldl collect (s.bestBlockValue, s.bestBlockResponse)
  { s with
    clock
    pending := s.pending.filter (· ∉ done)
    bestBlockValue := best.1
    bestBlockResponse := best.2 }.settle

/-- The next task that `asyncio.as_completed` yields. -/
def completed (task : ℕ) : State p.int :=
  let s := { s with pending := s.pending.erase task }
  match p.result task with
  | some response => { s with phase := .returned response }
  | none => if s.pending ≠ [] then s else { s with phase := .raised }

/-- The call up to its first await. -/
def init (p : Call) : State p.int := settle ⟨p.startTime, p.tasks, -1, none, .raised⟩

end State

def step : Machine (State p.int) Action Output
  | s, .wake time done clock =>
    match s.phase with
    | .collecting remainingTimeout =>
      if s.Wakes remainingTimeout time done clock then
        some (s.wake done clock, done.map .collected)
      else none
    | _ => none
  | s, .completed task =>
    match s.phase with
    | .awaitingFirst =>
      if task ∈ s.pending ∧ ∀ i ∈ s.pending, p.completion task ≤ p.completion i then
        some (s.completed task, [.awaited task])
      else none
    | _ => none

def collected (os : List Output) : List ℕ :=
  os.filterMap fun
    | .collected task => some task
    | .awaited _ => none

def awaited (os : List Output) : List ℕ :=
  os.filterMap fun
    | .awaited task => some task
    | .collected _ => none

@[simp] lemma collected_append (os o : List Output) :
    collected (os ++ o) = collected os ++ collected o := by
  simp [collected]

@[simp] lemma awaited_append (os o : List Output) :
    awaited (os ++ o) = awaited os ++ awaited o := by
  simp [awaited]

@[simp] lemma collected_map_collected (l : List ℕ) : collected (l.map .collected) = l := by
  simp [collected, List.filterMap_map]

@[simp] lemma awaited_map_collected (l : List ℕ) : awaited (l.map .collected) = [] := by
  simp [awaited, List.filterMap_map]

@[simp] lemma collected_awaited (task : ℕ) : collected [.awaited task] = [] := rfl

@[simp] lemma awaited_awaited (task : ℕ) : awaited [.awaited task] = [task] := rfl

/-! ### The invariant -/

variable {p} {s s' : State p.int} {os o : List Output} {a : Action}

/-- What a phase says of the tasks awaited one by one, and of those still pending. -/
def Standing (s : State p.int) (tasks : List ℕ) : Phase p.int → Prop
  | .collecting remainingTimeout =>
    tasks = [] ∧ s.pending ≠ [] ∧ s.clock + remainingTimeout = p.cutoff
  | .awaitingFirst =>
    s.bestBlockResponse = none ∧ s.pending ≠ [] ∧ ∀ i ∈ tasks, p.result i = none
  | .returned response =>
    (tasks = [] ∧ s.bestBlockResponse = some response ∧
      ∀ i ∈ s.pending, p.cutoff ≤ p.completion i) ∨
    (s.bestBlockResponse = none ∧ ∃ failed i, tasks = failed ++ [i] ∧
      (∀ j ∈ failed, p.result j = none) ∧ p.result i = some response ∧
      ∀ j ∈ s.pending, p.completion i ≤ p.completion j)
  | .raised => s.bestBlockResponse = none ∧ s.pending = [] ∧ ∀ i ∈ tasks, p.result i = none

/-- Every task is collected, awaited or pending, and the best block is the first of the highest
value among those collected. -/
structure Inv (s : State p.int) (os : List Output) : Prop where
  tasks : (collected os ++ awaited os ++ s.pending).Perm p.tasks
  scanned : Scanned p.blockValue (-1) ((collected os).filterMap p.result)
    (s.bestBlockValue, s.bestBlockResponse)
  standing : Standing s (awaited os) s.phase

/-- The loop over some tasks is a scan of their responses. -/
lemma foldl_collect (tasks : List ℕ) (best : ℤ × Option (ProducedBlockV3 p.int)) :
    tasks.foldl State.collect best = (tasks.filterMap p.result).foldl (keep p.blockValue) best := by
  induction tasks generalizing best with
  | nil => rfl
  | cons i tasks ih =>
    rw [List.foldl_cons, ih, List.filterMap_cons]
    unfold State.collect
    cases p.result i with
    | none => rfl
    | some response => rfl

/-- When the loop ends the pending tasks are late, or nothing was collected. -/
lemma inv_settle (htasks : (collected os ++ s.pending).Perm p.tasks)
    (hscanned : Scanned p.blockValue (-1) ((collected os).filterMap p.result)
      (s.bestBlockValue, s.bestBlockResponse)) (hawaited : awaited os = [])
    (hlate : s.bestBlockResponse = none ∨ ∀ i ∈ s.pending, s.clock < p.completion i) :
    Inv s.settle os := by
  have htasks' : (collected os ++ awaited os ++ s.pending).Perm p.tasks := by
    rwa [hawaited, List.append_nil]
  unfold State.settle
  dsimp only
  split
  · next hloop =>
    obtain ⟨hpending, htime⟩ := hloop
    refine ⟨htasks', hscanned, hawaited, hpending, ?_⟩
    rw [max_eq_left_of_lt (by simpa using htime)]
    unfold Call.cutoff
    ring
  · next hloop =>
    split
    · next response hbest =>
      refine ⟨htasks', hscanned, .inl ⟨hawaited, hbest, fun i hi => ?_⟩⟩
      have hclock : p.cutoff ≤ s.clock := by
        by_contra hlt
        refine hloop ⟨List.ne_nil_of_mem hi, lt_max_of_lt_left ?_⟩
        unfold Call.cutoff at hlt
        linarith
      have hpending := hlate.resolve_left (by simp [hbest]) i hi
      exact hclock.trans hpending.le
    · next hbest =>
      split
      · next hpending =>
        exact ⟨htasks', hscanned, hbest, hpending, by simp [hawaited]⟩
      · next hpending =>
        exact ⟨htasks', hscanned, hbest, not_not.mp hpending, by simp [hawaited]⟩

lemma inv_init : Inv (State.init p) [] :=
  inv_settle (.refl _) scanned_nil rfl (.inl rfl)

/-- The tasks that are done and those that are left. -/
lemma Wakes.perm_append {remainingTimeout time clock : ℚ} {done : List ℕ}
    (hw : s.Wakes remainingTimeout time done clock) :
    (done ++ s.pending.filter (· ∉ done)).Perm s.pending := by
  have hleft : s.pending.filter (· ∉ done) =
      s.pending.filter fun i => !decide (p.completion i ≤ time) := by
    refine List.filter_congr fun i hi => ?_
    have hmem : i ∈ done ↔ p.completion i ≤ time := by
      rw [hw.perm.mem_iff, List.mem_filter, decide_eq_true_eq]
      exact and_iff_right hi
    simp only [hmem, decide_not]
  rw [hleft]
  exact (hw.perm.append_right _).trans (List.filter_append_perm _ _)

lemma inv_wake (h : Inv s os) {remainingTimeout time clock : ℚ} {done : List ℕ}
    (hphase : s.phase = .collecting remainingTimeout)
    (hw : s.Wakes remainingTimeout time done clock) :
    Inv (s.wake done clock) (os ++ done.map .collected) := by
  have hstanding := h.standing
  rw [hphase] at hstanding
  obtain ⟨hawaited, hpending, hcutoff⟩ := hstanding
  have htasks := h.tasks
  rw [hawaited, List.append_nil] at htasks
  refine inv_settle ?_ ?_ ?_ (.inr fun i hi => ?_)
  · rw [collected_append, collected_map_collected, List.append_assoc]
    exact ((Wakes.perm_append hw).append_left _).trans htasks
  · rw [collected_append, collected_map_collected, List.filterMap_append, foldl_collect]
    exact h.scanned.foldl _
  · simp [hawaited]
  · -- a task that is not done completes after the loop body
    obtain ⟨hi, hnot⟩ := List.mem_filter.mp hi
    refine hw.busy i hi (lt_of_not_ge fun hle => of_decide_eq_true hnot ?_)
    exact hw.perm.mem_iff.mpr (List.mem_filter.mpr ⟨hi, decide_eq_true hle⟩)

lemma inv_completed (h : Inv s os) {task : ℕ} (hphase : s.phase = .awaitingFirst)
    (hmem : task ∈ s.pending) (hfirst : ∀ i ∈ s.pending, p.completion task ≤ p.completion i) :
    Inv (s.completed task) (os ++ [.awaited task]) := by
  have hstanding := h.standing
  rw [hphase] at hstanding
  obtain ⟨hbest, hpending, hfailed⟩ := hstanding
  have htasks : (collected (os ++ [.awaited task]) ++ awaited (os ++ [.awaited task]) ++
      s.pending.erase task).Perm p.tasks := by
    simp only [collected_append, awaited_append, collected_awaited, awaited_awaited,
      List.append_nil]
    refine List.Perm.trans ?_ h.tasks
    simp only [List.append_assoc, List.singleton_append]
    exact ((List.perm_cons_erase hmem).symm.append_left _).append_left _
  have hscanned : Scanned p.blockValue (-1)
      ((collected (os ++ [.awaited task])).filterMap p.result)
      (s.bestBlockValue, s.bestBlockResponse) := by
    simpa using h.scanned
  have hawaited : awaited (os ++ [.awaited task]) = awaited os ++ [task] := by simp
  unfold State.completed
  dsimp only
  split
  · next response hresult =>
    refine ⟨htasks, hscanned, ?_⟩
    rw [hawaited]
    refine .inr ⟨hbest, awaited os, task, rfl, hfailed, hresult, fun j hj => ?_⟩
    exact hfirst j (List.mem_of_mem_erase hj)
  · next hresult =>
    have hfailed' : ∀ i ∈ awaited os ++ [task], p.result i = none := by
      intro i hi
      rcases List.mem_append.mp hi with hi | hi
      · exact hfailed i hi
      · rwa [List.mem_singleton.mp hi]
    split
    · next hleft =>
      refine ⟨htasks, hscanned, ?_⟩
      dsimp only
      rw [hawaited, hphase]
      exact ⟨hbest, hleft, hfailed'⟩
    · next hleft =>
      refine ⟨htasks, hscanned, ?_⟩
      rw [hawaited]
      exact ⟨hbest, not_not.mp hleft, hfailed'⟩

lemma inv_step (h : Inv s os) (hs : step p s a = some (s', o)) : Inv s' (os ++ o) := by
  cases a with
  | wake time done clock =>
    simp only [step] at hs
    split at hs
    · next remainingTimeout hphase =>
      split_ifs at hs with hw
      obtain ⟨rfl, rfl⟩ := Prod.mk.inj (Option.some.inj hs)
      exact inv_wake h hphase hw
    · simp at hs
  | completed task =>
    simp only [step] at hs
    split at hs
    · next hphase =>
      split_ifs at hs with hc
      obtain ⟨rfl, rfl⟩ := Prod.mk.inj (Option.some.inj hs)
      exact inv_completed h hphase hc.1 hc.2
    · simp at hs

lemma inv_run {as : List Action} (r : Run (step p) (.init p) as s os) : Inv s os :=
  r.invariant inv_init fun _ _ _ _ _ h _ hs => inv_step h hs

/-! ### Termination -/

/-- More awaits than these are not left. -/
def State.awaits (s : State p.int) : ℕ :=
  match s.phase with
  | .collecting _ => s.pending.length + 1
  | .awaitingFirst => s.pending.length
  | .returned _ | .raised => 0

lemma awaits_settle (s : State p.int) : s.settle.awaits ≤ s.pending.length + 1 := by
  unfold State.settle
  dsimp only
  split
  · exact le_rfl
  · split
    · exact Nat.zero_le _
    · split
      · exact Nat.le_succ _
      · exact Nat.zero_le _

lemma awaits_settle_of_late (h : p.cutoff ≤ s.clock) : s.settle.awaits ≤ s.pending.length := by
  have htime : ¬ 0 < max (p.timeout - (s.clock - p.startTime)) 0 := by
    rw [lt_max_iff, not_or]
    unfold Call.cutoff at h
    exact ⟨by linarith, lt_irrefl 0⟩
  unfold State.settle
  dsimp only
  rw [if_neg fun hloop => htime hloop.2]
  split
  · exact Nat.zero_le _
  · split_ifs
    · exact le_rfl
    · exact Nat.zero_le _

/-- **One await less.** A wake finds a task done, or the timeout over. -/
lemma awaits_step (h : Inv s os) (hs : step p s a = some (s', o)) : s'.awaits < s.awaits := by
  have hstanding := h.standing
  cases a with
  | wake time done clock =>
    simp only [step] at hs
    split at hs
    · next remainingTimeout hphase =>
      split_ifs at hs with hw
      obtain ⟨rfl, -⟩ := Prod.mk.inj (Option.some.inj hs)
      rw [hphase] at hstanding
      have hlength := (Wakes.perm_append hw).length_eq
      rw [List.length_append] at hlength
      have hawaits : s.awaits = s.pending.length + 1 := by rw [State.awaits, hphase]
      rw [hawaits]
      rcases hw.first with hdone | htime
      · have hpos := List.length_pos_of_ne_nil hdone
        have hsettle : (s.wake done clock).awaits ≤ (s.pending.filter (· ∉ done)).length + 1 :=
          awaits_settle _
        omega
      · have hlate : p.cutoff ≤ clock := by
          have hread := hw.read
          linarith [hstanding.2.2]
        have hsettle : (s.wake done clock).awaits ≤ (s.pending.filter (· ∉ done)).length :=
          awaits_settle_of_late hlate
        omega
    · simp at hs
  | completed task =>
    simp only [step] at hs
    split at hs
    · next hphase =>
      split_ifs at hs with hc
      obtain ⟨rfl, -⟩ := Prod.mk.inj (Option.some.inj hs)
      have hawaits : s.awaits = s.pending.length := by rw [State.awaits, hphase]
      have hpos := List.length_pos_of_mem hc.1
      have herase := List.length_erase_of_mem hc.1
      rw [hawaits]
      unfold State.completed
      dsimp only
      split
      · exact hpos
      · split
        · change State.awaits { s with pending := s.pending.erase task } < s.pending.length
          rw [State.awaits, hphase]
          dsimp only
          omega
        · exact hpos
    · simp at hs

lemma length_run {as : List Action} (r : Run (step p) (.init p) as s os) :
    as.length + s.awaits ≤ p.tasks.length + 1 := by
  induction r with
  | nil =>
    have hinit : (State.init p).awaits ≤ p.tasks.length + 1 := awaits_settle _
    simpa using hinit
  | snoc r _ hs ih =>
    have hless := awaits_step (inv_run r) hs
    rw [List.length_append, List.length_singleton]
    omega

/-- The call has ended. -/
def State.Ended (s : State p.int) : Prop :=
  s.phase = .raised ∨ ∃ response, s.phase = .returned response

/-- A call that has not ended goes on: its wait may last until all tasks have completed and the
timeout is over. -/
lemma exists_step (h : Inv s os) (hs : ¬ s.Ended) : ∃ a, step p s a ≠ none := by
  have hstanding := h.standing
  cases hphase : s.phase with
  | collecting remainingTimeout =>
    obtain ⟨time, htime⟩ := Finset.exists_le
      (insert s.clock (insert (s.clock + remainingTimeout) (s.pending.toFinset.image p.completion)))
    have hdone : ∀ i ∈ s.pending, p.completion i ≤ time := by
      intro i hi
      apply htime
      simp only [Finset.mem_insert, Finset.mem_image, List.mem_toFinset]
      exact .inr (.inr ⟨i, hi, rfl⟩)
    have hw : s.Wakes remainingTimeout time s.pending time := by
      refine ⟨htime _ (by simp), ?_, .inr (htime _ (by simp)), le_rfl, fun i hi hlt => hlt⟩
      rw [List.filter_eq_self.mpr fun i hi => decide_eq_true (hdone i hi)]
    refine ⟨.wake time s.pending time, ?_⟩
    simp [step, hphase, hw]
  | awaitingFirst =>
    rw [hphase] at hstanding
    obtain ⟨task, hmem, hfirst⟩ := s.pending.toFinset.exists_min_image p.completion
      (by simpa [Finset.nonempty_iff_ne_empty] using hstanding.2.1)
    have hc : task ∈ s.pending ∧ ∀ i ∈ s.pending, p.completion task ≤ p.completion i :=
      ⟨List.mem_toFinset.mp hmem, fun i hi => hfirst i (List.mem_toFinset.mpr hi)⟩
    refine ⟨.completed task, ?_⟩
    simp [step, hphase, hc.1]
    exact hc.2
  | returned response => exact absurd (.inr ⟨response, hphase⟩) hs
  | raised => exact absurd (.inl hphase) hs

/-! ### The result -/

/-- Nothing is worth less than nothing. -/
lemma blockValue_nonneg {r : ProducedBlockV3 p.int} (h : 0 ≤ r.consensus ∧ 0 ≤ r.execution) :
    0 ≤ p.blockValue r := by
  obtain ⟨hconsensus, hexecution⟩ := h
  unfold Call.blockValue
  split
  · exact hconsensus
  · omega

lemma Inv.mem_tasks (h : Inv s os) {i : ℕ} :
    i ∈ p.tasks ↔ i ∈ collected os ∨ i ∈ awaited os ∨ i ∈ s.pending := by
  rw [← h.tasks.mem_iff, List.mem_append, List.mem_append, or_assoc]

/-- With no best block, no task that was collected gave one. -/
lemma Inv.none_collected (h : Inv s os)
    (hnonneg : ∀ i ∈ p.tasks, ∀ r ∈ p.result i, 0 ≤ r.consensus ∧ 0 ≤ r.execution)
    (hbest : s.bestBlockResponse = none) : ∀ i ∈ collected os, p.result i = none := by
  intro i hi
  by_contra hne
  obtain ⟨r, hr⟩ := Option.ne_none_iff_exists'.mp hne
  have hscanned := h.scanned
  rw [hbest] at hscanned
  generalize s.bestBlockValue = value at hscanned
  cases hscanned with
  | none hle =>
    have hvalue := blockValue_nonneg (hnonneg i (h.mem_tasks.mpr (.inl hi)) r hr)
    have hfloor := hle r (List.mem_filterMap.mpr ⟨i, hi, hr⟩)
    omega

/-- The best block is one that was collected, and none that was is worth more. -/
lemma Inv.best (h : Inv s os) {response : ProducedBlockV3 p.int}
    (hbest : s.bestBlockResponse = some response) :
    (∃ i ∈ collected os, p.result i = some response) ∧
      ∀ i ∈ collected os, ∀ r ∈ p.result i, p.blockValue r ≤ p.blockValue response := by
  have hscanned := h.scanned
  rw [hbest] at hscanned
  generalize s.bestBlockValue = value at hscanned
  cases hscanned with
  | some _ first =>
    obtain ⟨i, hi, hr⟩ := List.mem_filterMap.mp first.mem
    exact ⟨⟨i, hi, hr⟩, fun j hj r hr => first.le (List.mem_filterMap.mpr ⟨j, hj, hr⟩)⟩

/-- The call has raised exactly when every task has failed. -/
lemma Inv.raised_iff (h : Inv s os)
    (hnonneg : ∀ i ∈ p.tasks, ∀ r ∈ p.result i, 0 ≤ r.consensus ∧ 0 ≤ r.execution)
    (hended : s.Ended) : s.phase = .raised ↔ ∀ i ∈ p.tasks, p.result i = none := by
  have hstanding := h.standing
  constructor
  · intro hphase i hi
    rw [hphase] at hstanding
    obtain ⟨hbest, hpending, hfailed⟩ := hstanding
    rcases h.mem_tasks.mp hi with hi | hi | hi
    · exact h.none_collected hnonneg hbest i hi
    · exact hfailed i hi
    · simp [hpending] at hi
  · intro hall
    rcases hended with hphase | ⟨response, hphase⟩
    · exact hphase
    · rw [hphase] at hstanding
      rcases hstanding with ⟨-, hbest, -⟩ | ⟨-, failed, i, hawaited, -, hresult, -⟩
      · obtain ⟨⟨i, hi, hr⟩, -⟩ := h.best hbest
        simp [hall i (h.mem_tasks.mpr (.inl hi))] at hr
      · have hi : i ∈ awaited os := by simp [hawaited]
        simp [hall i (h.mem_tasks.mpr (.inr (.inl hi)))] at hresult

/-- What is returned, of the blocks collected or else of those that came later. -/
lemma Inv.returned (h : Inv s os)
    (hnonneg : ∀ i ∈ p.tasks, ∀ r ∈ p.result i, 0 ≤ r.consensus ∧ 0 ≤ r.execution)
    {response : ProducedBlockV3 p.int} (hphase : s.phase = .returned response) :
    ((∃ i ∈ collected os, p.result i ≠ none) →
      (∀ i ∈ p.tasks, p.result i ≠ none → p.completion i < p.cutoff → i ∈ collected os) ∧
      (∃ i ∈ collected os, p.result i = some response) ∧
      ∀ i ∈ collected os, ∀ r ∈ p.result i, p.blockValue r ≤ p.blockValue response) ∧
    ((∀ i ∈ collected os, p.result i = none) →
      ∃ i ∈ awaited os, p.result i = some response ∧
        ∀ j ∈ p.tasks, p.result j ≠ none → p.completion i ≤ p.completion j) := by
  have hstanding := h.standing
  rw [hphase] at hstanding
  rcases hstanding with ⟨hawaited, hbest, hlate⟩ | ⟨hbest, failed, i, hawaited, hfailed, hresult,
    hfirst⟩
  · obtain ⟨hmem, hmax⟩ := h.best hbest
    refine ⟨fun _ => ⟨fun i hi _ htime => ?_, hmem, hmax⟩, fun hnone => ?_⟩
    · rcases h.mem_tasks.mp hi with hi | hi | hi
      · exact hi
      · simp [hawaited] at hi
      · exact absurd htime (not_lt.mpr (hlate i hi))
    · obtain ⟨i, hi, hr⟩ := hmem
      simp [hnone i hi] at hr
  · refine ⟨fun ⟨j, hj, hne⟩ => absurd (h.none_collected hnonneg hbest j hj) hne, fun hnone => ?_⟩
    refine ⟨i, by simp [hawaited], hresult, fun j hj hne => ?_⟩
    rcases h.mem_tasks.mp hj with hj | hj | hj
    · exact absurd (hnone j hj) hne
    · rw [hawaited, List.mem_append, List.mem_singleton] at hj
      rcases hj with hj | rfl
      · exact absurd (hfailed j hj) hne
      · exact le_rfl
    · exact hfirst j hj

/-- **The block that is chosen.** However the tasks complete and the loop wakes, the call ends
after one await more than there are tasks at most. It raises if and only if every task fails.
If a response was collected when the loop ended, all those that came before the cutoff were, and
the one returned is worth the most. If none was, the first to come is returned. -/
theorem produceBestBlock_best (p : Call)
    (h : ∀ i ∈ p.tasks, ∀ r ∈ p.result i, 0 ≤ r.consensus ∧ 0 ≤ r.execution)
    {as : List Action} {s : State p.int} {os : List Output}
    (r : Run (step p) (.init p) as s os) :
    as.length ≤ p.tasks.length + 1 ∧ (¬ s.Ended → ∃ a, step p s a ≠ none) ∧
    (collected os ++ awaited os).Nodup ∧
    (s.Ended → (s.phase = .raised ↔ ∀ i ∈ p.tasks, p.result i = none)) ∧
    ∀ response, s.phase = .returned response →
      ((∃ i ∈ collected os, p.result i ≠ none) →
        (∀ i ∈ p.tasks, p.result i ≠ none → p.completion i < p.cutoff → i ∈ collected os) ∧
        (∃ i ∈ collected os, p.result i = some response) ∧
        ∀ i ∈ collected os, ∀ r ∈ p.result i, p.blockValue r ≤ p.blockValue response) ∧
      ((∀ i ∈ collected os, p.result i = none) →
        ∃ i ∈ awaited os, p.result i = some response ∧
          ∀ j ∈ p.tasks, p.result j ≠ none → p.completion i ≤ p.completion j) := by
  have hinv := inv_run r
  have hlength := length_run r
  have hnodup : (collected os ++ awaited os ++ s.pending).Nodup :=
    hinv.tasks.nodup_iff.mpr List.nodup_range
  exact ⟨by omega, exists_step hinv, (List.nodup_append.mp hnodup).1, hinv.raised_iff h,
    fun response hphase => hinv.returned h hphase⟩

/-- Two nodes answer in the first second, and the third fails. -/
def threeNodes : Call where
  int := decimal
  network := .mainnet
  secondsPerSlot := 12
  multiBeaconNode := MultiBeaconNode.threeNodes
  beaconNodesProposal := []
  startTime := 0
  completion i := (i + 1) / 2
  response i :=
    if i = 0 then some ⟨.electra, false, "5", ""⟩
    else if i = 1 then some ⟨.electra, true, "3", "4"⟩
    else none

def twoWakes : List Action := [.wake 1 [1, 0] 1, .wake (3 / 2) [2] (3 / 2)]

def State.returnedValue {p : Call} (s : State p.int) : Option ℤ :=
  match s.phase with
  | .returned response => some (p.blockValue response)
  | _ => none

/-- The second block is worth more than the first. -/
theorem produceBestBlock_best_threeNodes : ∃ s os response,
    Run (step threeNodes) (.init threeNodes) twoWakes s os ∧ s.phase = .returned response ∧
    threeNodes.blockValue response = 7 ∧
    ∀ i ∈ collected os, ∀ r ∈ threeNodes.result i, threeNodes.blockValue r ≤ 7 := by
  obtain ⟨s, os, r, hp⟩ := @exec_any _ _ _ (step threeNodes) (fun _ _ _ => True)
    (.init threeNodes) twoWakes _ (fun s os => s.returnedValue = some 7 ∧
      ∃ i ∈ collected os, (threeNodes.result i).isSome) (by decide +kernel)
  obtain ⟨hvalue, i, hi, hsome⟩ := of_decide_eq_true hp
  obtain ⟨response, hphase, hseven⟩ : ∃ response, s.phase = .returned response ∧
      threeNodes.blockValue response = 7 := by
    unfold State.returnedValue at hvalue
    split at hvalue
    · next response hphase => exact ⟨response, hphase, Option.some.inj hvalue⟩
    · simp at hvalue
  obtain ⟨-, -, -, -, hreturned⟩ := produceBestBlock_best threeNodes (by decide +kernel) r
  have hmax := ((hreturned response hphase).1 ⟨i, hi, Option.isSome_iff_ne_none.mp hsome⟩).2.2
  rw [hseven] at hmax
  exact ⟨s, os, response, r, hphase, hseven, hmax⟩

end Vero.ProduceBestBlock
