import Mathlib.Data.List.Sort
import Vero.Lib.Runs
import Vero.MultiBeaconNode

/-!
`AttestationDataProvider`: concurrent calls of `produce_attestation_data` over two caches of
confirmed finality checkpoints.

A call is a machine of its own. Between two of its suspension points nothing else runs, so a
step is what happens up to the next `await`: a node answers one of its requests, the call
takes the next completed task, a timeout fires, or the call is cancelled.
-/

namespace Vero.AttestationDataProvider

open Lib Lib.Votes SchemaBeaconAPI MultiBeaconNode

/-- How a call came by the data it returns. -/
inductive Path
  | cache
  | confirmation
  | consensus
  deriving DecidableEq

/-- Where a call is suspended. `tasks` are the nodes whose task is running, `done` what the
completed tasks not yet awaited gave. -/
inductive Phase
  | waitingForAttestationData (tasks : List Host) (done : List AttestationData)
  | confirming (attData : AttestationData) (tasks done confirmations : List Host)
  | polling (tally : Tally) (tasks : List Host) (done : List Arrival)
  | returned (attData : AttestationData) (path : Path)
  | raised
  | cancelled

structure Call where
  slot : ℤ
  headEventBlockRoot : Option Root
  phase : Phase

structure State where
  multiBeaconNode : Initialized
  sourceCheckpointConfirmationCache : Dict String Checkpoint
  targetCheckpointConfirmationCache : Dict String Checkpoint
  calls : Dict ℕ Call

inductive Action
  | produceAttestationData (id : ℕ) (slot : ℤ) (headEventBlockRoot : Option Root)
  | respond (id : ℕ) (host : Host) (response : Option AttestationData)
  | resume (id : ℕ)
  | timeout (id : ℕ)
  | cancel (id : ℕ)
  | initializeFull (host : Host)
  | prune

inductive Output
  | response (host : Host) (attData : AttestationData)
  | confirmed (source target : Checkpoint) (confirmations : List Host)

def State.init (m : Initialized) : State := ⟨m, ∅, ∅, ∅⟩

namespace State

def hosts (s : State) : List Host := s.multiBeaconNode.initializedBeaconNodes

def threshold (s : State) : ℕ := s.multiBeaconNode.attestationConsensusThreshold

def setPhase (s : State) (id : ℕ) (c : Call) (phase : Phase) : State :=
  { s with calls := s.calls.set id { c with phase } }

def cacheCheckpoints (s : State) (source target : Checkpoint) : State :=
  { s with
    sourceCheckpointConfirmationCache :=
      s.sourceCheckpointConfirmationCache.set source.epoch source
    targetCheckpointConfirmationCache :=
      s.targetCheckpointConfirmationCache.set target.epoch target }

/-- Both checkpoints are in their cache. -/
def Cached (s : State) (d : AttestationData) : Prop :=
  s.sourceCheckpointConfirmationCache.get d.source.epoch = some d.source ∧
    s.targetCheckpointConfirmationCache.get d.target.epoch = some d.target

instance (s : State) (d : AttestationData) : Decidable (s.Cached d) :=
  inferInstanceAs (Decidable (_ ∧ _))

/-! ### The suspension points of a call -/

/-- A round of `produce_attestation_data_without_head_event` starts. -/
def startRound (s : State) (tally : Tally) : Phase := .polling tally s.hosts []

/-- `wait_for_checkpoints` returns and its caller caches the checkpoints. -/
def finishConfirming (s : State) (id : ℕ) (c : Call) (d : AttestationData)
    (confirmations : List Host) : State × List Output :=
  ((s.cacheCheckpoints d.source d.target).setPhase id c (.returned d .confirmation),
    [.confirmed d.source d.target confirmations])

/-- The loop of `wait_for_checkpoints` looks for the next task. When none is left it falls
through. -/
def awaitConfirmation (s : State) (id : ℕ) (c : Call) (d : AttestationData)
    (tasks done confirmations : List Host) : State × List Output :=
  if tasks = [] ∧ done = [] then s.finishConfirming id c d confirmations
  else (s.setPhase id c (.confirming d tasks done confirmations), [])

def confirmFinalityCheckpoints (s : State) (id : ℕ) (c : Call) (d : AttestationData) :
    State × List Output :=
  if s.Cached d then (s.setPhase id c (.returned d .cache), [])
  else s.awaitConfirmation id c d s.hosts [] []

/-- `produce_attestation_data` up to its first suspension point. -/
def start (s : State) : Option Root → Phase
  | none => s.startRound .init
  | some _ => if s.hosts = [] then .raised else .waitingForAttestationData s.hosts []

/-- The node answers a request of the call: the task completes, or asks again. -/
def respond (s : State) (id : ℕ) (c : Call) (host : Host) (response : Option AttestationData) :
    Option State :=
  match c.phase with
  | .waitingForAttestationData tasks done =>
    if host ∈ tasks then
      match response.filter fun d => some d.beaconBlockRoot = c.headEventBlockRoot with
      | some d => some (s.setPhase id c
          (.waitingForAttestationData (tasks.erase host) (done ++ [d])))
      | none => some s
    else none
  | .confirming attData tasks done confirmations =>
    if host ∈ tasks then
      match response.filter fun d => d.source = attData.source ∧ d.target = attData.target with
      | some _ => some (s.setPhase id c
          (.confirming attData (tasks.erase host) (done ++ [host]) confirmations))
      | none => some s
    else none
  | .polling tally tasks done =>
    if host ∈ tasks then
      some (s.setPhase id c (.polling tally (tasks.erase host) (done ++ [(host, response)])))
    else none
  | _ => none

/-- The call takes the next completed task, or starts a new round of polling. -/
def resume (s : State) (id : ℕ) (c : Call) : Option (State × List Output) :=
  match c.phase with
  | .waitingForAttestationData _ (d :: _) => some (s.confirmFinalityCheckpoints id c d)
  | .confirming d tasks (host :: done) confirmations =>
    if s.threshold ≤ (confirmations ++ [host]).length then
      some (s.finishConfirming id c d (confirmations ++ [host]))
    else some (s.awaitConfirmation id c d tasks done (confirmations ++ [host]))
  | .polling tally tasks (a :: done) =>
    match processArrival s.threshold tally a with
    | (_, some d) =>
      some ((s.cacheCheckpoints d.source d.target).setPhase id c (.returned d .consensus), [])
    | (tally, none) => some (s.setPhase id c (.polling tally tasks done), [])
  | .polling tally [] [] => some (s.setPhase id c (s.startRound tally), [])
  | _ => none

/-- A timeout of the head event path falls back to polling without an expected root. -/
def timeout (s : State) (id : ℕ) (c : Call) : Option State :=
  match c.phase with
  | .waitingForAttestationData _ _ | .confirming _ _ _ _ =>
    some (s.setPhase id c (s.startRound .init))
  | _ => none

def cancel (s : State) (id : ℕ) (c : Call) : Option State :=
  match c.phase with
  | .waitingForAttestationData _ _ | .confirming _ _ _ _ | .polling _ _ _ =>
    some (s.setPhase id c .cancelled)
  | _ => none

/-! ### Pruning -/

/-- The three entries of highest epoch. `int` is Python's: nothing where it raises. -/
def pruned (int : String → Option ℤ) (cache : Dict String Checkpoint) :
    Option (Dict String Checkpoint) :=
  (cache.items.mapM fun it => (int it.1).map fun epoch => (epoch, it)).map fun keyed =>
    .ofList (((keyed.insertionSort fun a b => b.1 ≤ a.1).map Prod.snd).take 3)

/-- The second assignment is not reached when the first raises. -/
def prune (int : String → Option ℤ) (s : State) : State :=
  match pruned int s.sourceCheckpointConfirmationCache with
  | none => s
  | some source =>
    let s := { s with sourceCheckpointConfirmationCache := source }
    match pruned int s.targetCheckpointConfirmationCache with
    | none => s
    | some target => { s with targetCheckpointConfirmationCache := target }

end State

def responseOutput (host : Host) : Option AttestationData → List Output
  | some d => [.response host d]
  | none => []

def step (int : String → Option ℤ) : Runs.Machine State Action Output
  | s, .produceAttestationData id slot r =>
    match s.calls.get id with
    | some _ => none
    | none => some ({ s with calls := s.calls.set id ⟨slot, r, s.start r⟩ }, [])
  | s, .respond id host response =>
    (s.calls.get id).bind fun c =>
      (s.respond id c host response).map fun s' => (s', responseOutput host response)
  | s, .resume id => (s.calls.get id).bind fun c => s.resume id c
  | s, .timeout id => (s.calls.get id).bind fun c => (s.timeout id c).map fun s' => (s', [])
  | s, .cancel id => (s.calls.get id).bind fun c => (s.cancel id c).map fun s' => (s', [])
  | s, .initializeFull host =>
    some ({ s with multiBeaconNode := s.multiBeaconNode.markInitialized (· = host) }, [])
  | s, .prune => some (s.prune int, [])

/-- The answers the nodes gave. -/
def responses (os : List Output) : List (Host × AttestationData) :=
  os.filterMap fun
    | .response host d => some (host, d)
    | .confirmed _ _ _ => none

@[simp] lemma responses_append (os o : List Output) :
    responses (os ++ o) = responses os ++ responses o := by
  simp [responses]

lemma mem_responses {os : List Output} {h : Host} {d : AttestationData} :
    (h, d) ∈ responses os ↔ .response h d ∈ os := by
  refine Runs.mem_filterMap_iff (g := fun x : Host × _ => Output.response x.1 x.2) fun y x => ?_
  cases y <;> simp [Prod.ext_iff, eq_comm]

/-- Keying the items of a list keeps the items. -/
lemma map_snd_keyed {α β : Type*} {f : α → Option β} {l : List α} {keyed : List (β × α)}
    (h : (l.mapM fun x => (f x).map fun k => (k, x)) = some keyed) : keyed.map Prod.snd = l := by
  induction l generalizing keyed with
  | nil =>
    obtain rfl : keyed = [] := by simpa [eq_comm] using h
    rfl
  | cons x l ih =>
    simp only [List.mapM_cons, Option.bind_eq_bind, Option.bind_eq_some_iff, Option.map_eq_some_iff,
      Option.pure_def, Option.some.injEq] at h
    obtain ⟨_, ⟨k, -, rfl⟩, rest, hrest, rfl⟩ := h
    simp [ih hrest]

/-- Pruning only removes entries. -/
lemma get_pruned {int : String → Option ℤ} {cache cache' : Dict String Checkpoint} {e : String}
    {c : Checkpoint} (h : State.pruned int cache = some cache') (hc : cache'.get e = some c) :
    cache.get e = some c := by
  obtain ⟨keyed, hk, rfl⟩ := Option.map_eq_some_iff.mp h
  have hmem := List.mem_of_mem_take (Dict.get_ofList hc)
  obtain ⟨⟨k, it⟩, hin, rfl⟩ := List.mem_map.mp hmem
  rw [List.mem_insertionSort] at hin
  refine Dict.mem_items_iff.mp ?_
  rw [← map_snd_keyed hk]
  exact List.mem_map_of_mem hin

end Vero.AttestationDataProvider
