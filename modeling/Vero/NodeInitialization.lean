import Mathlib.Data.List.Dedup
import Vero.OptimisticResponses

/-!
The initialization of the beacon nodes, and the specs that the initialized nodes returned.

Every node tries until an attempt succeeds, while `MultiBeaconNode.initialize` waits for enough
of them. What it compares at the end is not what they returned.
-/

namespace Vero.NodeInitialization

open BeaconNode (Scored Error maxScore)

variable {Spec : Type} [DecidableEq Spec]

/-- The fields of a spec and how values are printed. -/
structure SpecClass (Spec : Type) where
  fields : List String
  getattr : Spec → String → String
  repr : List Spec → String

/-! ### One node -/

/-- A node with the spec it was built with. The spec that its request returned when it was
initialized is not kept by the code. -/
structure Node (Spec : Type) extends Scored where
  spec : Spec
  ignoreSpecMismatch : Bool
  returned : Option Spec

def newNode (spec : Spec) (ignoreSpecMismatch : Bool) (host : Host) : Node Spec where
  host := host
  initialized := false
  score := 0
  nonneg := le_refl 0
  le := by decide
  spec := spec
  ignoreSpecMismatch := ignoreSpecMismatch
  returned := none

/-- The node whose request returned the spec that it accepts. -/
def Node.accept (bn : Node Spec) (bnSpec : Spec) : Node Spec :=
  { bn with
    initialized := true
    score := maxScore
    nonneg := by decide
    le := le_refl _
    returned := some bnSpec }

def mismatchMessage (c : SpecClass Spec) (bn : Node Spec) (bnSpec : Spec) : String :=
  c.fields.foldl
    (fun msg field =>
      if c.getattr bn.spec field ≠ c.getattr bnSpec field then
        msg ++ s!"\n{field}:" ++ s!"\n\tIncluded value: {c.getattr bn.spec field}" ++
          s!"\n\tValue returned by beacon node: {c.getattr bnSpec field}"
      else msg)
    s!"Spec values returned by beacon node {bn.host} not equal to hardcoded spec values:"

/-- The method `_initialize_full`. The answer is what `get_spec` returns or raises. -/
def tryInitialize (c : SpecClass Spec) (bn : Node Spec) (answer : Except Error Spec) :
    Except Error (Node Spec) := do
  let bnSpec ← answer
  if bn.spec ≠ bnSpec ∧ ¬ bn.ignoreSpecMismatch then
    throw (.valueError (mismatchMessage c bn bnSpec))
  return bn.accept bnSpec

/-- The node after an attempt, and what is logged where it failed and is to be repeated. -/
def initializeFull (c : SpecClass Spec) (bn : Node Spec) (answer : Except Error Spec) :
    Node Spec × Option Error :=
  match tryInitialize c bn answer with
  | .ok bn => (bn, none)
  | .error e => (bn, some e)

/-! ### All nodes -/

structure Setup (Spec : Type) where
  hosts : List Host
  distinct : hosts.Nodup
  attestationConsensusThreshold : ℕ
  spec : Spec
  ignoreSpecMismatch : Bool

def Setup.beaconNodes (m : Setup Spec) : List (Node Spec) :=
  m.hosts.map (newNode m.spec m.ignoreSpecMismatch)

/-- An attempt of a node that ends. -/
structure Attempt (Spec : Type) where
  host : Host
  answer : Except Error Spec

/-- The attempts that end before the waiting loop makes its test, and when it does. -/
structure Round (Spec : Type) where
  attempts : List (Attempt Spec)
  now : ℚ

/-- The first test is made when every node has ended an attempt. -/
structure Schedule (hosts : List Host) (Spec : Type) where
  start : ℚ
  gathered : List (Attempt Spec)
  each : ∀ host ∈ hosts, ∃ a ∈ gathered, a.host = host
  first : ℚ
  later : List (Round Spec)
  ordered : List.Pairwise (· ≤ ·) (start :: first :: later.map Round.now)

def initTimeout : ℚ := 300

variable {hosts : List Host}

def Schedule.rounds (s : Schedule hosts Spec) : List (Round Spec) :=
  ⟨s.gathered, s.first⟩ :: s.later

def Schedule.deadline (s : Schedule hosts Spec) : ℚ := s.start + initTimeout

/-- A node that is initialized makes no further attempts. -/
def endAttempt (c : SpecClass Spec) (nodes : List (Node Spec)) (a : Attempt Spec) :
    List (Node Spec) :=
  nodes.map fun bn =>
    if bn.host = a.host ∧ bn.initialized = false then (initializeFull c bn a.answer).1 else bn

def initializedBeaconNodes (nodes : List (Node Spec)) : List (Node Spec) :=
  nodes.filter fun bn => bn.initialized

def initErrorMessage (threshold : ℕ) (nodes : List (Node Spec)) : String :=
  "Failed to fully initialize a sufficient amount of beacon nodes - " ++
    s!"{(initializedBeaconNodes nodes).length}/{nodes.length} initialized " ++
    s!"(required: {threshold})"

/-- What follows the waiting loop: the specs that are compared are those of the nodes' own. -/
def checkSpecs (c : SpecClass Spec) (nodes : List (Node Spec)) : Except Error (List (Node Spec)) :=
  let specs := (initializedBeaconNodes nodes).map Node.spec
  if specs.dedup.length = 1 then .ok nodes
  else .error (.runtimeError s!"Beacon nodes provided different specs: {c.repr specs}")

/-- Nothing while the loop goes on waiting. -/
def waitForNodes (c : SpecClass Spec) (threshold : ℕ) (deadline : ℚ) :
    List (Node Spec) → List (Round Spec) → Option (Except Error (List (Node Spec)))
  | _, [] => none
  | nodes, r :: rounds =>
    let nodes := r.attempts.foldl (endAttempt c) nodes
    if (initializedBeaconNodes nodes).length < threshold then
      if deadline ≤ r.now then some (.error (.runtimeError (initErrorMessage threshold nodes)))
      else waitForNodes c threshold deadline nodes rounds
    else some (checkSpecs c nodes)

/-- The method `initialize` of `MultiBeaconNode`. -/
def initializeNodes (c : SpecClass Spec) (m : Setup Spec) (skipInit : Bool)
    (s : Schedule m.hosts Spec) : Option (Except Error (List (Node Spec))) :=
  if skipInit then some (.ok (m.beaconNodes.map fun bn => { bn with initialized := true }))
  else waitForNodes c m.attestationConsensusThreshold s.deadline m.beaconNodes s.rounds

/-! ### What the nodes answer -/

/-- What the nodes accept of one answer. -/
def accepted (m : Setup Spec) (answer : Except Error Spec) : Option Spec :=
  answer.toOption.filter fun s => m.ignoreSpecMismatch ∨ m.spec = s

/-- The spec that the node's requests return first, of those that it accepts. -/
def acceptedSpec (m : Setup Spec) (attempts : List (Attempt Spec)) (host : Host) : Option Spec :=
  attempts.findSome? fun a => if a.host = host then accepted m a.answer else none

def acceptedSpecs (m : Setup Spec) (attempts : List (Attempt Spec)) : List Spec :=
  m.hosts.filterMap (acceptedSpec m attempts)

/-- The attempts that have ended when a test finds the threshold reached, if one does before the
deadline has passed. -/
def attemptsWhenReached (m : Setup Spec) (deadline : ℚ) :
    List (Attempt Spec) → List (Round Spec) → Option (List (Attempt Spec))
  | _, [] => none
  | before, r :: rounds =>
    let attempts := before ++ r.attempts
    if (acceptedSpecs m attempts).length < m.attestationConsensusThreshold then
      if deadline ≤ r.now then none else attemptsWhenReached m deadline attempts rounds
    else some attempts

variable {c : SpecClass Spec} {m : Setup Spec} {bn : Node Spec} {nodes : List (Node Spec)}
variable {attempts : List (Attempt Spec)} {a : Attempt Spec} {host : Host} {bnSpec : Spec}

/-- The node after its attempts. -/
def nodeAfter (m : Setup Spec) (attempts : List (Attempt Spec)) (host : Host) : Node Spec :=
  match acceptedSpec m attempts host with
  | none => newNode m.spec m.ignoreSpecMismatch host
  | some s => (newNode m.spec m.ignoreSpecMismatch host).accept s

@[simp] lemma host_nodeAfter : (nodeAfter m attempts host).host = host := by
  unfold nodeAfter
  split <;> rfl

@[simp] lemma spec_nodeAfter : (nodeAfter m attempts host).spec = m.spec := by
  unfold nodeAfter
  split <;> rfl

lemma initialized_nodeAfter : (nodeAfter m attempts host).initialized =
    (acceptedSpec m attempts host).isSome := by
  unfold nodeAfter
  split
  case h_1 h => rw [h]; rfl
  case h_2 h => rw [h]; rfl

lemma returned_nodeAfter : (nodeAfter m attempts host).returned = acceptedSpec m attempts host := by
  unfold nodeAfter
  split
  case h_1 h => rw [h]; rfl
  case h_2 h => rw [h]; rfl

lemma acceptedSpec_snoc : acceptedSpec m (attempts ++ [a]) host =
    (acceptedSpec m attempts host).or (if a.host = host then accepted m a.answer else none) := by
  unfold acceptedSpec
  rw [List.findSome?_append]
  congr 1
  simp

lemma tryInitialize_of_accepts (h : bn.ignoreSpecMismatch = true ∨ bn.spec = bnSpec) :
    tryInitialize c bn (.ok bnSpec) = .ok (bn.accept bnSpec) := by
  have hpass : ¬ (bn.spec ≠ bnSpec ∧ ¬ bn.ignoreSpecMismatch = true) := by tauto
  simp only [tryInitialize, bind, Except.bind]
  rw [if_neg hpass]
  rfl

lemma tryInitialize_of_refuses (h : ¬ (bn.ignoreSpecMismatch = true ∨ bn.spec = bnSpec)) :
    tryInitialize c bn (.ok bnSpec) = .error (.valueError (mismatchMessage c bn bnSpec)) := by
  have hraise : bn.spec ≠ bnSpec ∧ ¬ bn.ignoreSpecMismatch = true := by tauto
  simp only [tryInitialize, bind, Except.bind]
  rw [if_pos hraise]
  rfl

lemma initializeFull_newNode (answer : Except Error Spec) :
    (initializeFull c (newNode m.spec m.ignoreSpecMismatch host) answer).1 =
      match accepted m answer with
      | none => newNode m.spec m.ignoreSpecMismatch host
      | some s => (newNode m.spec m.ignoreSpecMismatch host).accept s := by
  unfold initializeFull accepted
  cases answer with
  | error e => rfl
  | ok bnSpec =>
    rw [Except.toOption, Option.filter_some]
    by_cases h : m.ignoreSpecMismatch = true ∨ m.spec = bnSpec
    · rw [tryInitialize_of_accepts h, if_pos (by simpa using h)]
    · rw [tryInitialize_of_refuses h, if_neg (by simpa using h)]

lemma nodeAfter_snoc (c : SpecClass Spec) : nodeAfter m (attempts ++ [a]) host =
    if host = a.host ∧ (nodeAfter m attempts host).initialized = false then
      (initializeFull c (nodeAfter m attempts host) a.answer).1
    else nodeAfter m attempts host := by
  rw [initialized_nodeAfter]
  unfold nodeAfter
  rw [acceptedSpec_snoc]
  cases acceptedSpec m attempts host with
  | some s => simp
  | none =>
    by_cases hhost : host = a.host
    · subst hhost
      simp only [Option.none_or, if_true, Option.isSome_none, and_self]
      rw [initializeFull_newNode]
    · simp [hhost, Ne.symm hhost]

/-- The nodes after the attempts that have ended. -/
lemma foldl_endAttempt (before attempts : List (Attempt Spec)) :
    attempts.foldl (endAttempt c) (m.hosts.map (nodeAfter m before)) =
      m.hosts.map (nodeAfter m (before ++ attempts)) := by
  induction attempts generalizing before with
  | nil => rw [List.append_nil]; rfl
  | cons a attempts ih =>
    have hone : endAttempt c (m.hosts.map (nodeAfter m before)) a =
        m.hosts.map (nodeAfter m (before ++ [a])) := by
      unfold endAttempt
      rw [List.map_map]
      refine List.map_congr_left fun host _ => ?_
      rw [nodeAfter_snoc c, Function.comp_apply, host_nodeAfter]
    rw [List.foldl_cons, hone, ih, List.append_assoc, List.singleton_append]

/-! ### The initialized nodes -/

lemma returned_initialized (m : Setup Spec) (attempts : List (Attempt Spec)) (hosts : List Host) :
    (initializedBeaconNodes (hosts.map (nodeAfter m attempts))).map Node.returned =
      (hosts.filterMap (acceptedSpec m attempts)).map some := by
  induction hosts with
  | nil => rfl
  | cons host hosts ih =>
    unfold initializedBeaconNodes at ih ⊢
    rw [List.map_cons, List.filter_cons, initialized_nodeAfter, List.filterMap_cons]
    cases h : acceptedSpec m attempts host with
    | none => simpa using ih
    | some s => simpa [returned_nodeAfter, h] using ih

lemma length_initialized (m : Setup Spec) (attempts : List (Attempt Spec)) :
    (initializedBeaconNodes (m.hosts.map (nodeAfter m attempts))).length =
      (acceptedSpecs m attempts).length := by
  have hlen := congrArg List.length (returned_initialized m attempts m.hosts)
  rwa [List.length_map, List.length_map] at hlen

lemma returned_of_initialized {bn : Node Spec}
    (h : bn ∈ initializedBeaconNodes (m.hosts.map (nodeAfter m attempts))) :
    ∃ s ∈ acceptedSpecs m attempts, bn.returned = some s := by
  have hmem : bn.returned ∈ (acceptedSpecs m attempts).map some := by
    rw [acceptedSpecs, ← returned_initialized]
    exact List.mem_map_of_mem h
  obtain ⟨s, hs, hbn⟩ := List.mem_map.mp hmem
  exact ⟨s, hs, hbn.symm⟩

lemma initialized_of_accepted {s : Spec} (h : s ∈ acceptedSpecs m attempts) :
    ∃ bn ∈ initializedBeaconNodes (m.hosts.map (nodeAfter m attempts)), bn.returned = some s := by
  have hmem := List.mem_map_of_mem (f := some) h
  rw [acceptedSpecs, ← returned_initialized] at hmem
  exact List.mem_map.mp hmem

/-- A node that must not ignore a mismatch accepts the spec it was built with only. -/
lemma acceptedSpec_of_checked (hcheck : m.ignoreSpecMismatch = false) {s : Spec}
    (h : s ∈ acceptedSpecs m attempts) : s = m.spec := by
  obtain ⟨host, -, hs⟩ := List.mem_filterMap.mp h
  obtain ⟨a, -, ha⟩ := List.exists_of_findSome?_eq_some hs
  split_ifs at ha
  obtain ⟨-, hpass⟩ := Option.filter_eq_some_iff.mp ha
  simpa [hcheck, eq_comm] using hpass

/-- All nodes were built with one spec, so the comparison finds one wherever it finds any. -/
lemma checkSpecs_nodeAfter (c : SpecClass Spec) (h : acceptedSpecs m attempts ≠ []) :
    checkSpecs c (m.hosts.map (nodeAfter m attempts)) =
      .ok (m.hosts.map (nodeAfter m attempts)) := by
  have hlen := length_initialized m attempts
  have hall : (initializedBeaconNodes (m.hosts.map (nodeAfter m attempts))).map Node.spec =
      List.replicate (acceptedSpecs m attempts).length m.spec := by
    refine List.eq_replicate_iff.mpr ⟨by rw [List.length_map, hlen], fun s hs => ?_⟩
    obtain ⟨bn, hbn, rfl⟩ := List.mem_map.mp hs
    obtain ⟨host, -, rfl⟩ := List.mem_map.mp (List.mem_of_mem_filter hbn)
    exact spec_nodeAfter
  unfold checkSpecs
  simp only
  rw [hall, List.replicate_dedup (mt List.length_eq_zero_iff.mp h), if_pos (List.length_singleton)]

lemma checkSpecs_of_none (h : initializedBeaconNodes nodes = []) : checkSpecs c nodes =
    .error (.runtimeError s!"Beacon nodes provided different specs: {c.repr []}") := by
  unfold checkSpecs
  rw [h]
  rfl

lemma checkSpecs_eq_ok {nodes nodes' : List (Node Spec)} (h : checkSpecs c nodes = .ok nodes') :
    nodes' = nodes := by
  unfold checkSpecs at h
  simp only at h
  split_ifs at h
  exact (Except.ok.inj h).symm

lemma checkSpecs_eq_error {e : Error} (h : checkSpecs c nodes = .error e) :
    ∃ message, e = .runtimeError message := by
  unfold checkSpecs at h
  simp only at h
  split_ifs at h
  exact ⟨_, (Except.error.inj h).symm⟩

/-! ### The waiting loop -/

variable {deadline : ℚ} {rounds : List (Round Spec)} {before : List (Attempt Spec)}

/-- By induction on the rounds, of which `before` are the attempts that have ended. -/
lemma waitForNodes_of_reached
    (h : attemptsWhenReached m deadline before rounds = some attempts) :
    waitForNodes c m.attestationConsensusThreshold deadline (m.hosts.map (nodeAfter m before))
        rounds = some (checkSpecs c (m.hosts.map (nodeAfter m attempts))) ∧
      m.attestationConsensusThreshold ≤ (acceptedSpecs m attempts).length := by
  induction rounds generalizing before with
  | nil => cases h
  | cons r rounds ih =>
    simp only [attemptsWhenReached, waitForNodes] at h ⊢
    rw [foldl_endAttempt, length_initialized]
    split_ifs at h ⊢ with hfew hlate
    · exact ih h
    · obtain rfl := Option.some.inj h
      exact ⟨rfl, Nat.le_of_not_lt hfew⟩

lemma waitForNodes_of_not_reached (h : attemptsWhenReached m deadline before rounds = none) :
    ∀ result, waitForNodes c m.attestationConsensusThreshold deadline
      (m.hosts.map (nodeAfter m before)) rounds = some result →
        ∃ message, result = .error (.runtimeError message) := by
  induction rounds generalizing before with
  | nil =>
    intro result hresult
    cases hresult
  | cons r rounds ih =>
    intro result
    simp only [attemptsWhenReached, waitForNodes] at h ⊢
    rw [foldl_endAttempt, length_initialized]
    split_ifs at h ⊢ with hfew hlate
    · intro hresult
      exact ⟨_, (Option.some.inj hresult).symm⟩
    · exact ih h result

/-- The waiting ends at a test after the deadline, if not before. -/
lemma waitForNodes_settled {threshold : ℕ} (hlate : ∃ r ∈ rounds, deadline ≤ r.now)
    (nodes : List (Node Spec)) : (waitForNodes c threshold deadline nodes rounds).isSome := by
  induction rounds generalizing nodes with
  | nil =>
    obtain ⟨r, hr, -⟩ := hlate
    cases hr
  | cons r rounds ih =>
    simp only [waitForNodes]
    split_ifs with hfew hpassed
    · rfl
    · obtain ⟨r', hr', hnow⟩ := hlate
      rcases List.mem_cons.mp hr' with rfl | hr'
      · exact absurd hnow hpassed
      · exact ih ⟨r', hr', hnow⟩ _
    · rfl

lemma beaconNodes_eq (m : Setup Spec) : m.beaconNodes = m.hosts.map (nodeAfter m []) := rfl

/-- The nodes after their attempts, without their specs. -/
def Setup.after (m : Setup Spec)
    (h : m.attestationConsensusThreshold ≤ m.hosts.length) (attempts : List (Attempt Spec)) :
    MultiBeaconNode where
  beaconNodes := m.hosts.map fun host => (nodeAfter m attempts host).toBeaconNode
  attestationConsensusThreshold := m.attestationConsensusThreshold
  distinct := by simpa [Function.comp_def] using m.distinct
  threshold_le := by simpa using h

lemma length_initializedBeaconNodes_after
    (h : m.attestationConsensusThreshold ≤ m.hosts.length) :
    (m.after h attempts).initializedBeaconNodes.length = (acceptedSpecs m attempts).length := by
  rw [← length_initialized]
  unfold MultiBeaconNode.initializedBeaconNodes initializedBeaconNodes Setup.after
  simp [List.filter_map, Function.comp_def]

/-- A test of the waiting loop ends as that of the nodes without their specs does. -/
theorem waitForNodes_one (c : SpecClass Spec)
    (h : m.attestationConsensusThreshold ≤ m.hosts.length) (r : Round Spec) :
    (waitForNodes c m.attestationConsensusThreshold deadline (m.hosts.map (nodeAfter m before))
      [r]).map Except.isOk =
    ((m.after h (before ++ r.attempts)).initializeBeaconNodes false (deadline ≤ r.now)).map
      Except.isOk := by
  have hlen : (m.after h (before ++ r.attempts)).initializedBeaconNodes.length =
    (acceptedSpecs m (before ++ r.attempts)).length := length_initializedBeaconNodes_after h
  have hsame : (m.after h (before ++ r.attempts)).attestationConsensusThreshold =
    m.attestationConsensusThreshold := rfl
  unfold MultiBeaconNode.initializeBeaconNodes
  simp only [waitForNodes, Bool.false_eq_true, if_false, hsame]
  rw [foldl_endAttempt, length_initialized]
  by_cases hfew : (acceptedSpecs m (before ++ r.attempts)).length < m.attestationConsensusThreshold
  · rw [if_pos hfew, dif_neg (by omega)]
    by_cases hlate : deadline ≤ r.now
    · simp [hlate, Except.isOk, Except.toBool]
    · simp [hlate]
  · rw [if_neg hfew, dif_pos (by omega)]
    by_cases hne : acceptedSpecs m (before ++ r.attempts) = []
    · rw [if_pos (List.length_eq_zero_iff.mp (by rw [hlen, hne, List.length_nil]))]
      have hnone := length_initialized m (before ++ r.attempts)
      rw [hne, List.length_nil, List.length_eq_zero_iff] at hnone
      simp [checkSpecs_of_none hnone, Except.isOk, Except.toBool]
    · rw [checkSpecs_nodeAfter c hne, if_neg fun hnone => hne ?_]
      · rfl
      · rw [hnone] at hlen
        exact List.length_eq_zero_iff.mp hlen.symm

/-! ### Main result -/

/-- Enough nodes are initialized, and one spec was returned by all of them, which is the one
they were built with unless a mismatch is ignored. -/
structure OneSpec (m : Setup Spec) (nodes : List (Node Spec)) : Prop where
  enough : m.attestationConsensusThreshold ≤ (initializedBeaconNodes nodes).length
  common : ∀ bn ∈ initializedBeaconNodes nodes, ∀ bn' ∈ initializedBeaconNodes nodes,
    bn.returned = bn'.returned
  hardcoded : m.ignoreSpecMismatch = false →
    ∀ bn ∈ initializedBeaconNodes nodes, bn.returned = some m.spec

/-- The initialization admits nodes of one spec or raises, at the latest at the first test after
the deadline. -/
structure Admission (c : SpecClass Spec) (m : Setup Spec) (s : Schedule m.hosts Spec) : Prop where
  returned : ∀ nodes, initializeNodes c m false s = some (.ok nodes) → OneSpec m nodes
  raised : ∀ e, initializeNodes c m false s = some (.error e) → ∃ message, e = .runtimeError message
  settled : (∃ r ∈ s.rounds, s.deadline ≤ r.now) → (initializeNodes c m false s).isSome

lemma oneSpec_nodeAfter
    (henough : m.attestationConsensusThreshold ≤ (acceptedSpecs m attempts).length)
    (hsame : m.ignoreSpecMismatch = true → ∀ spec ∈ acceptedSpecs m attempts,
      ∀ spec' ∈ acceptedSpecs m attempts, spec = spec') :
    OneSpec m (m.hosts.map (nodeAfter m attempts)) where
  enough := by
    rw [length_initialized]
    exact henough
  common := by
    intro bn hbn bn' hbn'
    obtain ⟨spec, hspec, hreturned⟩ := returned_of_initialized hbn
    obtain ⟨spec', hspec', hreturned'⟩ := returned_of_initialized hbn'
    rw [hreturned, hreturned']
    by_cases hignore : m.ignoreSpecMismatch = true
    · rw [hsame hignore spec hspec spec' hspec']
    · rw [acceptedSpec_of_checked (by simpa using hignore) hspec,
        acceptedSpec_of_checked (by simpa using hignore) hspec']
  hardcoded := by
    intro hcheck bn hbn
    obtain ⟨spec, hspec, hreturned⟩ := returned_of_initialized hbn
    rw [hreturned, acceptedSpec_of_checked hcheck hspec]

/-- **When one spec is admitted.** Where a mismatch is ignored, the specs that the nodes have
returned by the test that finds enough nodes must be the same; nothing in the code sees to it. -/
theorem admission_iff (c : SpecClass Spec) (m : Setup Spec) (s : Schedule m.hosts Spec) :
    Admission c m s ↔ (m.ignoreSpecMismatch = true →
      ∀ attempts, attemptsWhenReached m s.deadline [] s.rounds = some attempts →
        ∀ spec ∈ acceptedSpecs m attempts, ∀ spec' ∈ acceptedSpecs m attempts, spec = spec') := by
  constructor
  · intro h _ attempts hreached spec hspec spec' hspec'
    obtain ⟨hwait, -⟩ := waitForNodes_of_reached (c := c) hreached
    rw [checkSpecs_nodeAfter c (List.ne_nil_of_mem hspec), ← beaconNodes_eq] at hwait
    obtain ⟨bn, hbn, hreturned⟩ := initialized_of_accepted hspec
    obtain ⟨bn', hbn', hreturned'⟩ := initialized_of_accepted hspec'
    have hcommon := (h.returned _ hwait).common bn hbn bn' hbn'
    rw [hreturned, hreturned'] at hcommon
    exact Option.some.inj hcommon
  · intro h
    refine ⟨fun nodes hnodes => ?_, fun e he => ?_, fun hlate => waitForNodes_settled hlate _⟩
    · cases hreached : attemptsWhenReached m s.deadline [] s.rounds with
      | none =>
        obtain ⟨message, hraise⟩ := waitForNodes_of_not_reached hreached _ hnodes
        cases hraise
      | some attempts =>
        obtain ⟨hwait, henough⟩ := waitForNodes_of_reached (c := c) hreached
        obtain rfl := checkSpecs_eq_ok (Option.some.inj (hwait.symm.trans hnodes))
        exact oneSpec_nodeAfter henough fun hignore => h hignore attempts hreached
    · cases hreached : attemptsWhenReached m s.deadline [] s.rounds with
      | none =>
        obtain ⟨message, hraise⟩ := waitForNodes_of_not_reached hreached _ he
        exact ⟨message, Except.error.inj hraise⟩
      | some attempts =>
        obtain ⟨hwait, -⟩ := waitForNodes_of_reached (c := c) hreached
        exact checkSpecs_eq_error (Option.some.inj (hwait.symm.trans he))

/-! ### Two nodes of different specs -/

/-- A spec of one field. -/
def slotsPerEpoch : SpecClass ℕ := ⟨["SLOTS_PER_EPOCH"], fun s _ => toString s, toString⟩

def twoNodes : Setup ℕ := ⟨["a", "b"], by decide, 2, 32, true⟩

/-- Both nodes answer the first request, one of them with another number. -/
def bothAnswer : Schedule ["a", "b"] ℕ where
  start := 0
  gathered := [⟨"a", .ok 32⟩, ⟨"b", .ok 8⟩]
  each := by decide
  first := 0
  later := []
  ordered := by simp

/-- Both are admitted. -/
theorem different_specs_admitted :
    initializeNodes slotsPerEpoch twoNodes false bothAnswer =
      some (.ok [(newNode 32 true "a").accept 32, (newNode 32 true "b").accept 8]) ∧
    ¬ Admission slotsPerEpoch twoNodes bothAnswer := by
  have hbothOk : initializeNodes slotsPerEpoch twoNodes false bothAnswer =
      some (.ok [(newNode 32 true "a").accept 32, (newNode 32 true "b").accept 8]) := rfl
  refine ⟨hbothOk, fun h => ?_⟩
  have hcommon := (h.returned _ hbothOk).common _ (.head _) _ (.tail _ (.head _))
  exact absurd (Option.some.inj hcommon) (by decide)

end Vero.NodeInitialization
