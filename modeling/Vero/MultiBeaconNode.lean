import Vero.Lib.Dict
import Vero.Lib.Votes
import Vero.Args
import Vero.SchemaBeaconAPI

/-!
`MultiBeaconNode`: the connected beacon nodes, their initialization, and
`produce_attestation_data_without_head_event`, which polls all initialized nodes round after
round until enough of them agree.

The loop adjusts a counter as nodes change their answers. It is proved to return exactly at
the first moment of agreement among the latest answers.
-/

namespace Vero

/-- The name of a beacon node's host, which identifies the node. -/
abbrev Host := String

structure BeaconNode where
  host : Host
  initialized : Bool

/-- The command line arguments are refused when two nodes share a host or the threshold
exceeds their number. -/
structure MultiBeaconNode where
  beaconNodes : List BeaconNode
  attestationConsensusThreshold : ℕ
  distinct : (beaconNodes.map BeaconNode.host).Nodup
  threshold_le : attestationConsensusThreshold ≤ beaconNodes.length

end Vero

namespace Vero.MultiBeaconNode

open Lib Lib.Votes SchemaBeaconAPI

/-! ### Initialization -/

def initializedBeaconNodes (m : MultiBeaconNode) : List Host :=
  (m.beaconNodes.filter BeaconNode.initialized).map BeaconNode.host

lemma initializedBeaconNodes_nodup (m : MultiBeaconNode) : m.initializedBeaconNodes.Nodup :=
  m.distinct.sublist (List.filter_sublist.map _)

/-- `initialize_full` succeeded for the nodes the test selects. -/
def markInitialized (m : MultiBeaconNode) (p : Host → Bool) : MultiBeaconNode :=
  { m with
    beaconNodes := m.beaconNodes.map fun bn =>
      { bn with initialized := bn.initialized || p bn.host }
    distinct := by simpa [Function.comp_def] using m.distinct
    threshold_le := by simpa using m.threshold_le }

@[simp] lemma threshold_markInitialized (m : MultiBeaconNode) (p : Host → Bool) :
    (m.markInitialized p).attestationConsensusThreshold = m.attestationConsensusThreshold := rfl

lemma initializedBeaconNodes_markInitialized (m : MultiBeaconNode) (p : Host → Bool) :
    (m.markInitialized p).initializedBeaconNodes =
      (m.beaconNodes.filter fun bn => bn.initialized || p bn.host).map BeaconNode.host := by
  simp [initializedBeaconNodes, markInitialized, List.filter_map, Function.comp_def]

/-- Nodes that are initialized stay so. -/
lemma initializedBeaconNodes_sublist (m : MultiBeaconNode) (p : Host → Bool) :
    List.Sublist m.initializedBeaconNodes (m.markInitialized p).initializedBeaconNodes := by
  rw [initializedBeaconNodes_markInitialized]
  exact (List.monotone_filter_right _ fun bn h => by simp [h]).map _

/-- Enough nodes are initialized to reach the threshold. -/
structure Initialized extends MultiBeaconNode where
  enough : attestationConsensusThreshold ≤ toMultiBeaconNode.initializedBeaconNodes.length

def Initialized.markInitialized (m : Initialized) (p : Host → Bool) : Initialized :=
  ⟨m.toMultiBeaconNode.markInitialized p,
    m.enough.trans (initializedBeaconNodes_sublist _ p).length_le⟩

def initErrorMessage (m : MultiBeaconNode) : String :=
  "Failed to fully initialize a sufficient amount of beacon nodes - " ++
    s!"{m.initializedBeaconNodes.length}/{m.beaconNodes.length} initialized " ++
    s!"(required: {m.attestationConsensusThreshold})"

/-- The method `initialize` when its waiting loop makes its test, or nothing while it goes on
waiting. All nodes hold the one spec they were built with, so the set of their specs has one
element unless no node is initialized. -/
def initializeBeaconNodes (m : MultiBeaconNode) (skipInit deadlinePassed : Bool) :
    Option (Except String Initialized) :=
  if skipInit then
    some (.ok ⟨m.markInitialized fun _ => true, by
      rw [initializedBeaconNodes_markInitialized]
      simpa using m.threshold_le⟩)
  else if h : m.attestationConsensusThreshold ≤ m.initializedBeaconNodes.length then
    if m.initializedBeaconNodes = [] then
      some (.error "Beacon nodes provided different specs: []")
    else some (.ok ⟨m, h⟩)
  else if deadlinePassed then some (.error m.initErrorMessage)
  else none

/-! ### Polling for a consensus -/

/-- A task of a polling round that completed: the node it asked, and the data the node gave
or nothing where the request failed. -/
abbrev Arrival := Ballot Host AttestationData

structure Tally where
  hostToAttData : Dict Host AttestationData
  attDataCounter : Dict AttestationData ℤ

def Tally.init : Tally := ⟨∅, ∅⟩

/-- The body of the loop over completed tasks, with the data it returns if it returns. -/
def processArrival (threshold : ℕ) (t : Tally) (a : Arrival) : Tally × Option AttestationData :=
  match a.2 with
  | none => (t, none)
  | some attData =>
    let prevAttData := t.hostToAttData.get a.1
    if some attData = prevAttData then (t, none)
    else
      let hostToAttData := t.hostToAttData.set a.1 attData
      let counter := t.attDataCounter.set attData (t.attDataCounter.getD attData 0 + 1)
      let counter := match prevAttData with
        | none => counter
        | some prev => counter.set prev (counter.getD prev 0 - 1)
      (⟨hostToAttData, counter⟩,
        if (threshold : ℤ) ≤ counter.getD attData 0 then some attData else none)

/-- The state of the polling loop: the tally, and what the function returned once it has. -/
structure Polling where
  tally : Tally
  returned : Option AttestationData

def Polling.init : Polling := ⟨.init, none⟩

/-- After the return the remaining tasks are cancelled, so nothing arrives any more. -/
def Polling.arrive (threshold : ℕ) (p : Polling) (a : Arrival) : Polling :=
  match p.returned with
  | some _ => p
  | none =>
    let (tally, returned) := processArrival threshold p.tally a
    ⟨tally, returned⟩

/-- A round of tasks: the nodes initialized when it starts, and their completions in order. -/
structure Round where
  initialized : List Host
  arrivals : List Arrival
  each : (arrivals.map Prod.fst).Perm initialized

/-- The rounds of a call. Nodes are among those configured, and one that has been
initialized stays so. -/
structure Rounds (beaconNodes : List Host) where
  rounds : List Round
  subset : ∀ r ∈ rounds, r.initialized ⊆ beaconNodes
  nodup : ∀ r ∈ rounds, r.initialized.Nodup
  grows : rounds.Pairwise fun r r' => r.initialized ⊆ r'.initialized

def Rounds.arrivals {beaconNodes : List Host} (rs : Rounds beaconNodes) : List Arrival :=
  rs.rounds.flatMap Round.arrivals

/-- The loop over the arrivals of its rounds, up to any point. A round that ends without
agreement is followed by the next, so the stream of arrivals is all the loop depends on. -/
def produceAttestationDataWithoutHeadEvent (threshold : ℕ) (arrivals : List Arrival) : Polling :=
  arrivals.foldl (Polling.arrive threshold) .init

lemma produce_snoc (k : ℕ) (as : List Arrival) (a : Arrival) :
    produceAttestationDataWithoutHeadEvent k (as ++ [a]) =
      (produceAttestationDataWithoutHeadEvent k as).arrive k a := by
  simp [produceAttestationDataWithoutHeadEvent]

/-! ### The counter -/

/-- The counter agrees with the dictionary: every value is counted once for each host that
has it. -/
def Tally.Counts (t : Tally) : Prop :=
  ∀ x, t.attDataCounter.getD x 0 = (t.hostToAttData.holders x).card

lemma counts_init : Tally.init.Counts := fun x => by simp [Tally.init]

lemma getD_counter {k : ℕ} {t : Tally} {host : Host} {d : AttestationData}
    (hnew : some d ≠ t.hostToAttData.get host) (x : AttestationData) :
    (processArrival k t (host, some d)).1.attDataCounter.getD x 0 +
        (if t.hostToAttData.get host = some x then 1 else 0) =
      t.attDataCounter.getD x 0 + if d = x then 1 else 0 := by
  cases hprev : t.hostToAttData.get host with
  | none =>
    by_cases hx : x = d
    · simp [processArrival, hprev, hx]
    · simp [processArrival, hprev, hx, Ne.symm hx]
  | some prev =>
    have hne : prev ≠ d := fun he => hnew (by rw [hprev, he])
    by_cases hx : x = d
    · subst hx
      simp [processArrival, hprev, hne, hne.symm]
    · by_cases hx' : x = prev
      · subst hx'
        simp [processArrival, hprev, hne, hne.symm]
      · simp [processArrival, hprev, hne.symm, hx, Ne.symm hx, hx', Ne.symm hx']

lemma get_processArrival (k : ℕ) (t : Tally) (a : Arrival) (h : Host) :
    (processArrival k t a).1.hostToAttData.get h =
      if a.1 = h then a.2.or (t.hostToAttData.get h) else t.hostToAttData.get h := by
  obtain ⟨host, v⟩ := a
  cases v with
  | none => simp [processArrival]
  | some d =>
    by_cases hsame : some d = t.hostToAttData.get host
    · by_cases hh : host = h
      · subst hh; simp [processArrival, hsame]
      · simp [processArrival, hsame, hh]
    · by_cases hh : host = h
      · subst hh; simp [processArrival, hsame]
      · simp [processArrival, hsame, hh, Ne.symm hh]

/-- A new answer moves its host from the holders of the old value to those of the new. -/
lemma counts_processArrival {k : ℕ} {t : Tally} (h : t.Counts) (a : Arrival) :
    (processArrival k t a).1.Counts := by
  obtain ⟨host, v⟩ := a
  cases v with
  | none => exact h
  | some d =>
    by_cases hsame : some d = t.hostToAttData.get host
    · simpa [processArrival, hsame] using h
    · intro x
      have hhosts : (processArrival k t (host, some d)).1.hostToAttData =
          t.hostToAttData.set host d := by simp [processArrival, hsame]
      have hcount := getD_counter (k := k) hsame x
      have hcard := Dict.card_holders_set t.hostToAttData host d x
      have hx := h x
      rw [hhosts]
      split_ifs at hcount hcard <;> omega

/-- The body returns the value of the arrival, when the host did not have it and with it
enough hosts have it. -/
lemma processArrival_returned {k : ℕ} {t : Tally} (h : t.Counts) (a : Arrival)
    (d : AttestationData) :
    (processArrival k t a).2 = some d ↔ a.2 = some d ∧ t.hostToAttData.get a.1 ≠ some d ∧
      k ≤ ((processArrival k t a).1.hostToAttData.holders d).card := by
  have hcount := counts_processArrival (k := k) h a
  obtain ⟨host, v⟩ := a
  cases v with
  | none => simp [processArrival]
  | some e =>
    by_cases hsame : some e = t.hostToAttData.get host
    · simp only [processArrival, if_pos hsame, reduceCtorEq, false_iff, not_and]
      rintro he hne -
      exact hne (hsame ▸ he)
    · have hret : (processArrival k t (host, some e)).2 =
          if (k : ℤ) ≤ (processArrival k t (host, some e)).1.attDataCounter.getD e 0 then some e
          else none := by simp [processArrival, hsame]
      rw [hret, hcount e]
      constructor
      · intro hd
        split_ifs at hd with hk
        obtain rfl := Option.some.inj hd
        exact ⟨rfl, fun hg => hsame hg.symm, by exact_mod_cast hk⟩
      · rintro ⟨he, -, hk⟩
        obtain rfl := Option.some.inj he
        rw [if_pos (by exact_mod_cast hk)]

/-! ### The loop -/

/-- What the loop knows after the arrivals `as`. -/
structure Tracks (k : ℕ) (as : List Arrival) (p : Polling) : Prop where
  counts : p.tally.Counts
  seen : ∃ q, q <+: as ∧ (∀ h, p.tally.hostToAttData.get h = latest q h) ∧
    (p.returned = none → q = as)
  waiting : p.returned = none → ∀ q, q <+: as → ∀ y, ¬ Agreed k q y
  done : ∀ d, p.returned = some d → FirstAgreed k as d
  held : ∀ d, p.returned = some d → k ≤ (p.tally.hostToAttData.holders d).card

lemma tracks_init {k : ℕ} (hk : 1 ≤ k) : Tracks k [] .init where
  counts := counts_init
  seen := ⟨[], List.prefix_refl _, fun h => rfl, fun _ => rfl⟩
  waiting := by
    intro _ q hq y
    rw [List.prefix_nil.mp hq]
    exact not_agreed_nil hk y
  done := by simp [Polling.init]
  held := by simp [Polling.init]

lemma tracks_arrive {k : ℕ} {as : List Arrival} {p : Polling} (h : Tracks k as p)
    (a : Arrival) : Tracks k (as ++ [a]) (p.arrive k a) := by
  obtain ⟨q, hq, hseen, hall⟩ := h.seen
  cases hret : p.returned with
  | some d =>
    have hp : p.arrive k a = p := by simp [Polling.arrive, hret]
    rw [hp]
    refine ⟨h.counts, ⟨q, hq.trans (List.prefix_append _ _), hseen, by simp [hret]⟩,
      by simp [hret], fun e he => (h.done e he).snoc a, h.held⟩
  | none =>
    obtain rfl := hall hret
    have hp : p.arrive k a = ⟨(processArrival k p.tally a).1, (processArrival k p.tally a).2⟩ := by
      simp [Polling.arrive, hret]
    have hlatest : ∀ h, (processArrival k p.tally a).1.hostToAttData.get h =
        latest (q ++ [a]) h := fun h => by
      rw [get_processArrival, latest_snoc, hseen]
    have hholders : ∀ d, (processArrival k p.tally a).1.hostToAttData.holders d =
        supporters (q ++ [a]) d := fun d => by ext h; simp [hlatest]
    -- the body returns exactly when the arrival brings about an agreement
    have hiff : ∀ d, (processArrival k p.tally a).2 = some d ↔ Agreed k (q ++ [a]) d := by
      intro d
      rw [processArrival_returned h.counts, hholders, hseen]
      exact ⟨fun hd => hd.2.2, fun hd =>
        have hnew := eq_of_agreed_snoc hd (h.waiting hret q (List.prefix_refl q) d)
        ⟨hnew.1, hnew.2, hd⟩⟩
    rw [hp]
    refine ⟨counts_processArrival h.counts a, ⟨_, List.prefix_refl _, hlatest, fun _ => rfl⟩,
      fun hnone r hr y hy => ?_, fun d hd => ?_, fun d hd => ?_⟩
    · rcases List.prefix_concat_iff.mp hr with rfl | hr'
      · simp [(hiff y).mpr hy] at hnone
      · exact h.waiting hret r hr' y hy
    · exact (firstAgreed_snoc_iff (h.waiting hret)).mpr ((hiff d).mp hd)
    · rw [hholders]
      exact (hiff d).mp hd

lemma tracks_produce {k : ℕ} (hk : 1 ≤ k) (as : List Arrival) :
    Tracks k as (produceAttestationDataWithoutHeadEvent k as) := by
  induction as using List.reverseRecOn with
  | nil => exact tracks_init hk
  | append_singleton as a ih =>
    rw [produce_snoc]
    exact tracks_arrive ih a

lemma Rounds.host_mem {beaconNodes : List Host} {rs : Rounds beaconNodes} {a : Arrival}
    (h : a ∈ rs.arrivals) : a.1 ∈ beaconNodes := by
  obtain ⟨r, hr, ha⟩ := List.mem_flatMap.mp h
  exact rs.subset r hr (r.each.mem_iff.mp (List.mem_map_of_mem ha))

/-- **Consensus without a head event is exact.** At any point of any rounds the call has
returned `d` if and only if the answers so far contain a first moment of agreement and it is
on `d`; its counter counts the hosts; and under the default threshold no other value is held
by enough hosts when it returns. -/
theorem consensus_exact {beaconNodes : List Host} {k : ℕ} (hk : 1 ≤ k) (rs : Rounds beaconNodes)
    (as : List Arrival) (has : as <+: rs.arrivals) :
    (∀ d, (produceAttestationDataWithoutHeadEvent k as).returned = some d ↔
      FirstAgreed k as d) ∧
    (∀ x, (produceAttestationDataWithoutHeadEvent k as).tally.attDataCounter.getD x 0 =
      ((produceAttestationDataWithoutHeadEvent k as).tally.hostToAttData.holders x).card) ∧
    (∀ urls : List String, urls.length = beaconNodes.length →
      Args.processAttestationConsensusThreshold none urls = .ok (k : ℤ) →
      ∀ d, (produceAttestationDataWithoutHeadEvent k as).returned = some d →
      ∀ x, k ≤ ((produceAttestationDataWithoutHeadEvent k as).tally.hostToAttData.holders x).card →
        x = d) := by
  have ht := tracks_produce hk as
  refine ⟨fun d => ⟨ht.done d, fun hd => ?_⟩, ht.counts, fun urls hlen hthr d hd x hx => ?_⟩
  · cases hret : (produceAttestationDataWithoutHeadEvent k as).returned with
    | some e => rw [(ht.done e hret).unique hd]
    | none =>
      obtain ⟨p, b, s, rfl, -, hb⟩ := hd
      exact absurd hb (ht.waiting hret _ ⟨s, by simp⟩ d)
  · obtain ⟨q, hq, hseen, -⟩ := ht.seen
    have hsub : ∀ y, (produceAttestationDataWithoutHeadEvent k as).tally.hostToAttData.holders y ⊆
        beaconNodes.toFinset := by
      intro y h hh
      rw [Dict.mem_holders, hseen] at hh
      exact List.mem_toFinset.mpr
        (Rounds.host_mem ((hq.trans has).subset (mem_of_latest hh)))
    have hdefault : (urls.length : ℤ) / 2 + 1 = k := Except.ok.inj hthr
    have hmaj : beaconNodes.toFinset.card < 2 * k :=
      calc beaconNodes.toFinset.card ≤ beaconNodes.length := List.toFinset_card_le beaconNodes
        _ = urls.length := hlen.symm
        _ < 2 * k := by omega
    obtain ⟨h, hh⟩ := majority_meets hmaj (hsub x) (hsub d) hx (ht.held d hd)
    simp only [Finset.mem_inter, Dict.mem_holders] at hh
    exact Option.some.inj (hh.1.symm.trans hh.2)

/-- Node `b` changes its answer in a second round. -/
def lateRounds (old new : AttestationData) : Rounds ["a", "b", "c"] where
  rounds :=
    [⟨["a", "b"], [("b", some old), ("a", some new)], .swap "a" "b" []⟩,
      ⟨["a", "b", "c"], [("c", none), ("a", some new), ("b", some new)],
        show ["c", "a", "b"].Perm ["a", "b", "c"] by decide⟩]
  subset := by simp
  nodup := by simp
  grows := by simp

/-- The answer of `b` in the second round is the first moment two of three nodes agree. -/
theorem consensus_exact_late :
    FirstAgreed 2 (lateRounds ⟨"3", "0", "0xold", ⟨"0", "0x0"⟩, ⟨"1", "0x1"⟩⟩
      ⟨"3", "0", "0xnew", ⟨"0", "0x0"⟩, ⟨"1", "0x1"⟩⟩).arrivals
      ⟨"3", "0", "0xnew", ⟨"0", "0x0"⟩, ⟨"1", "0x1"⟩⟩ :=
  ((consensus_exact (by decide) _ _ (List.prefix_refl _)).1 _).mp (by decide +kernel)

/-! ### Nodes to run against -/

def threeNodes : MultiBeaconNode :=
  ⟨[⟨"a", true⟩, ⟨"b", true⟩, ⟨"c", true⟩], 2, by decide, by decide⟩

end Vero.MultiBeaconNode
