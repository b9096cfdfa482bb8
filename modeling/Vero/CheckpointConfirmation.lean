import Vero.CheckpointInvariant

/-!
What the confirmation caches of `AttestationDataProvider` vouch for.

The caches hold nothing but what enough nodes confirmed; but they keep sources and targets
apart, and a pair served from them need not have been confirmed as a pair.
-/

namespace Vero.AttestationDataProvider

open Lib Lib.Votes SchemaBeaconAPI MultiBeaconNode

variable {s : State} {id : ℕ}

/-! ### What changes the caches -/

/-- The call an action is a step of. -/
def Action.call : Action → Option ℕ
  | .produceAttestationData id _ _ | .respond id _ _ | .resume id | .timeout id | .cancel id =>
    some id
  | .initializeFull _ | .prune => none

namespace State

def caches (s : State) : Dict String Checkpoint × Dict String Checkpoint :=
  (s.sourceCheckpointConfirmationCache, s.targetCheckpointConfirmationCache)

def Returned (s : State) (id : ℕ) : Prop :=
  ∃ c d path, s.calls.get id = some c ∧ c.phase = .returned d path

lemma returned_setPhase (s : State) (id : ℕ) (c : Call) (d : AttestationData) (path : Path) :
    (s.setPhase id c (.returned d path)).Returned id := by
  simp [Returned]

lemma awaitConfirmation_caches (s : State) (id : ℕ) (c : Call) (d : AttestationData)
    (tasks done confirmations : List Host) :
    (s.awaitConfirmation id c d tasks done confirmations).1.Returned id ∨
      (s.awaitConfirmation id c d tasks done confirmations).1.caches = s.caches := by
  unfold awaitConfirmation
  split
  · exact .inl (returned_setPhase _ _ _ _ _)
  · exact .inr rfl

lemma confirmFinalityCheckpoints_caches (s : State) (id : ℕ) (c : Call) (d : AttestationData) :
    (s.confirmFinalityCheckpoints id c d).1.Returned id ∨
      (s.confirmFinalityCheckpoints id c d).1.caches = s.caches := by
  unfold confirmFinalityCheckpoints
  split
  · exact .inr rfl
  · exact awaitConfirmation_caches _ _ _ _ _ _ _

lemma respond_caches {s s' : State} {id : ℕ} {c : Call} {host : Host}
    {r : Option AttestationData} (hs : s.respond id c host r = some s') :
    s'.caches = s.caches := by
  unfold respond at hs
  grind [caches, setPhase]

lemma timeout_caches {s s' : State} {id : ℕ} {c : Call} (hs : s.timeout id c = some s') :
    s'.caches = s.caches := by
  unfold timeout at hs
  grind [caches, setPhase, startRound]

lemma cancel_caches {s s' : State} {id : ℕ} {c : Call} (hs : s.cancel id c = some s') :
    s'.caches = s.caches := by
  unfold cancel at hs
  grind [caches, setPhase]

lemma resume_caches {s s' : State} {id : ℕ} {c : Call} {o : List Output}
    (hs : s.resume id c = some (s', o)) : s'.Returned id ∨ s'.caches = s.caches := by
  unfold resume at hs
  split at hs
  · next d done _ =>
    have h := confirmFinalityCheckpoints_caches s id c d
    rwa [Option.some.inj hs] at h
  · next d tasks host done confirmations _ =>
    split at hs
    · obtain ⟨rfl, rfl⟩ := Prod.mk.inj (Option.some.inj hs)
      exact .inl (returned_setPhase _ _ _ _ _)
    · have h := awaitConfirmation_caches s id c d tasks done (confirmations ++ [host])
      rwa [Option.some.inj hs] at h
  · split at hs
    · obtain ⟨rfl, rfl⟩ := Prod.mk.inj (Option.some.inj hs)
      exact .inl (returned_setPhase _ _ _ _ _)
    · obtain ⟨rfl, rfl⟩ := Prod.mk.inj (Option.some.inj hs)
      exact .inr rfl
  · obtain ⟨rfl, rfl⟩ := Prod.mk.inj (Option.some.inj hs)
    exact .inr rfl
  · simp at hs

end State

/-- A call writes the caches only in the step in which it returns. -/
lemma step_caches {int : String → Option ℤ} {a : Action} {s' : State} {o : List Output}
    (ha : a.call = some id) (hs : step int s a = some (s', o)) :
    s'.Returned id ∨ s'.caches = s.caches := by
  cases effect_of_step hs with
  | started i slot r => exact .inr rfl
  | responded i c host r s' get responds => exact .inr (State.respond_caches responds)
  | resumed i c s' o get resumes =>
    obtain rfl : i = id := Option.some.inj ha
    exact State.resume_caches resumes
  | timedOut i c s' get timesOut => exact .inr (State.timeout_caches timesOut)
  | cancelled i c s' get cancels => exact .inr (State.cancel_caches cancels)
  | initialized host => exact .inr rfl
  | pruned => simp [Action.call] at ha

/-! ### Main results -/

/-- **The caches only ever hold confirmed checkpoints.** Every entry stands under its own
epoch and was returned by as many distinct initialized nodes as the threshold asks for; a
step of a call that does not return in it, such as a timeout or a cancellation, leaves both
caches as they were; and `wait_for_checkpoints` returns only with enough distinct
confirmations. -/
theorem caches_confirmed {int : String → Option ℤ} {m : Initialized} {as : List Action}
    {s : State} {os : List Output} (r : Runs.Run (step int) (.init m) as s os) :
    (∀ e c, (e, c) ∈ s.sourceCheckpointConfirmationCache.items → c.epoch = e ∧
      ∃ S : Finset Host, m.attestationConsensusThreshold ≤ S.card ∧
        ∀ h ∈ S, h ∈ s.hosts ∧ ∃ d, .response h d ∈ os ∧ d.source = c) ∧
    (∀ e c, (e, c) ∈ s.targetCheckpointConfirmationCache.items → c.epoch = e ∧
      ∃ S : Finset Host, m.attestationConsensusThreshold ≤ S.card ∧
        ∀ h ∈ S, h ∈ s.hosts ∧ ∃ d, .response h d ∈ os ∧ d.target = c) ∧
    (∀ id a s' o, a.call = some id → step int s a = some (s', o) → ¬ s'.Returned id →
      s'.sourceCheckpointConfirmationCache = s.sourceCheckpointConfirmationCache ∧
      s'.targetCheckpointConfirmationCache = s.targetCheckpointConfirmationCache) ∧
    ∀ a b l, .confirmed a b l ∈ os → l.Nodup ∧ m.attestationConsensusThreshold ≤ l.length ∧
      ∀ h ∈ l, h ∈ s.hosts ∧ ∃ d, .response h d ∈ os ∧ d.source = a ∧ d.target = b := by
  have hi := inv_run r
  refine ⟨fun e c hc => ?_, fun e c hc => ?_, fun id a s' o ha hs hret => ?_, fun a b l hl => ?_⟩
  · obtain ⟨he, t, ht⟩ := hi.source e c (Dict.mem_items_iff.mp hc)
    refine ⟨he, _, ht, fun h hh => ?_⟩
    obtain ⟨d, hd, hsrc, -⟩ := mem_vouchers.mp hh
    exact ⟨hi.initialized h d hd, d, mem_responses.mp hd, hsrc⟩
  · obtain ⟨he, u, hu⟩ := hi.target e c (Dict.mem_items_iff.mp hc)
    refine ⟨he, _, hu, fun h hh => ?_⟩
    obtain ⟨d, hd, -, htgt⟩ := mem_vouchers.mp hh
    exact ⟨hi.initialized h d hd, d, mem_responses.mp hd, htgt⟩
  · rcases step_caches ha hs with h | h
    · exact absurd h hret
    · exact Prod.mk.inj h
  · obtain ⟨hn, hk, hc⟩ := hi.confirmed a b l hl
    refine ⟨hn, hk, fun h hh => ?_⟩
    obtain ⟨d, hd, hsrc, htgt⟩ := hc h hh
    exact ⟨hi.initialized h d hd, d, mem_responses.mp hd, hsrc, htgt⟩

/-- **The head event path returns confirmed data.** The data has the root of the head event;
its checkpoints were confirmed as a pair by enough nodes, or were served from the caches
after each of the two was confirmed, within a pair of its own. -/
theorem head_event_confirmed {int : String → Option ℤ} {m : Initialized} {as : List Action}
    {s : State} {os : List Output} (r : Runs.Run (step int) (.init m) as s os) {id : ℕ} {c : Call}
    {root : Root} {d : AttestationData} {path : Path} (hc : s.calls.get id = some c)
    (hroot : c.headEventBlockRoot = some root) (hret : c.phase = .returned d path)
    (hpath : path ≠ .consensus) :
    d.beaconBlockRoot = root ∧
      (Jointly m.attestationConsensusThreshold os d.source d.target ∨
        path = .cache ∧ (∃ t, Jointly m.attestationConsensusThreshold os d.source t) ∧
          ∃ u, Jointly m.attestationConsensusThreshold os u d.target) := by
  have hsound := (inv_run r).calls id c hc
  simp only [Call.Sound, hret] at hsound
  cases path with
  | cache =>
    obtain ⟨hr, ht, hu⟩ := hsound
    exact ⟨Option.some.inj (hr.symm.trans hroot), .inr ⟨rfl, ht, hu⟩⟩
  | confirmation =>
    obtain ⟨hr, hj⟩ := hsound
    exact ⟨Option.some.inj (hr.symm.trans hroot), .inl hj⟩
  | consensus => exact absurd rfl hpath

/-! ### A pair served from the caches -/

def twoNodes : Initialized where
  beaconNodes := [⟨"a", true⟩, ⟨"b", true⟩]
  attestationConsensusThreshold := 2
  distinct := by decide
  threshold_le := by decide
  enough := by decide

def attData (root : Root) (source target : String) : AttestationData :=
  ⟨"96", "0", root, ⟨source, "0xs" ++ source⟩, ⟨target, "0xt" ++ target⟩⟩

/-- Both nodes agree on data and the call returns it. -/
def agreeing (id : ℕ) (d : AttestationData) : List Action :=
  [.produceAttestationData id 96 none, .respond id "a" (some d), .respond id "b" (some d),
    .resume id, .resume id]

/-- Two pairs are confirmed, then a third call takes its source from the first and its
target from the second. -/
def crossing : List Action :=
  agreeing 0 (attData "0x1" "1" "2") ++ agreeing 1 (attData "0x2" "2" "3") ++
    [.produceAttestationData 2 96 (some "0x3"),
      .respond 2 "a" (some (attData "0x3" "1" "3")), .resume 2]

lemma crossing_run : ∃ s os, Runs.Run (step String.toInt?) (.init twoNodes) crossing s os ∧
    s.calls.get 2 = some ⟨96, some "0x3", .returned (attData "0x3" "1" "3") .cache⟩ ∧
    responses os = [("a", attData "0x1" "1" "2"), ("b", attData "0x1" "1" "2"),
      ("a", attData "0x2" "2" "3"), ("b", attData "0x2" "2" "3"),
      ("a", attData "0x3" "1" "3")] ∧
    s.sourceCheckpointConfirmationCache.items = [("1", ⟨"1", "0xs1"⟩), ("2", ⟨"2", "0xs2"⟩)] := by
  have he : (Runs.exec (step String.toInt?) (.init twoNodes) crossing).isSome := by rfl
  exact ⟨_, _, Runs.exec_run (Option.some_get he).symm, rfl, rfl, rfl⟩

/-- The entry of epoch 1 outlived a later confirmation, and two nodes returned it. -/
theorem caches_confirmed_crossing : ∃ s os,
    Runs.Run (step String.toInt?) (.init twoNodes) crossing s os ∧
    ∃ S : Finset Host, 2 ≤ S.card ∧
      ∀ h ∈ S, h ∈ s.hosts ∧ ∃ d, .response h d ∈ os ∧ d.source = ⟨"1", "0xs1"⟩ := by
  obtain ⟨s, os, r, -, -, hsource⟩ := crossing_run
  exact ⟨s, os, r, ((caches_confirmed r).1 "1" ⟨"1", "0xs1"⟩ (by simp [hsource])).2⟩

theorem head_event_confirmed_crossing : ∃ s os,
    Runs.Run (step String.toInt?) (.init twoNodes) crossing s os ∧
    (Jointly 2 os ⟨"1", "0xs1"⟩ ⟨"3", "0xt3"⟩ ∨
      Path.cache = .cache ∧ (∃ t, Jointly 2 os ⟨"1", "0xs1"⟩ t) ∧
        ∃ u, Jointly 2 os u ⟨"3", "0xt3"⟩) := by
  obtain ⟨s, os, r, hc, -, -⟩ := crossing_run
  exact ⟨s, os, r, (head_event_confirmed r hc rfl rfl (by decide)).2⟩

/-- Only node `a` returned the pair the third call returns on the head event path. -/
theorem cached_pair_not_joint : ∃ as s os,
    Runs.Run (step String.toInt?) (.init twoNodes) as s os ∧
    ∃ id c root d path, s.calls.get id = some c ∧ c.headEventBlockRoot = some root ∧
      c.phase = .returned d path ∧ path ≠ .consensus ∧
      ¬ Jointly twoNodes.attestationConsensusThreshold os d.source d.target := by
  obtain ⟨s, os, r, hc, hos, -⟩ := crossing_run
  refine ⟨crossing, s, os, r, 2, _, _, _, _, hc, rfl, rfl, by decide, ?_⟩
  rw [Jointly, hos]
  decide

end Vero.AttestationDataProvider
