import Vero.AttestationDataProvider

/-!
The invariant of the confirmation caches of `AttestationDataProvider`.

Every answer of a node stays in the history of the run, so whatever enough nodes confirmed
once stays confirmed. The invariant says this of the caches and of every call, wherever it is
suspended.
-/

namespace Vero.AttestationDataProvider

open Lib Lib.Votes SchemaBeaconAPI MultiBeaconNode

/-! ### Simp set of the state -/

namespace State

variable (s : State) (id : ℕ) (c : Call) (p : Phase) (source target : Checkpoint)

@[simp] lemma hosts_setPhase : (s.setPhase id c p).hosts = s.hosts := rfl
@[simp] lemma threshold_setPhase : (s.setPhase id c p).threshold = s.threshold := rfl
@[simp] lemma calls_setPhase : (s.setPhase id c p).calls = s.calls.set id { c with phase := p } :=
  rfl
@[simp] lemma source_setPhase : (s.setPhase id c p).sourceCheckpointConfirmationCache =
    s.sourceCheckpointConfirmationCache := rfl
@[simp] lemma target_setPhase : (s.setPhase id c p).targetCheckpointConfirmationCache =
    s.targetCheckpointConfirmationCache := rfl
@[simp] lemma hosts_cacheCheckpoints : (s.cacheCheckpoints source target).hosts = s.hosts := rfl
@[simp] lemma threshold_cacheCheckpoints :
    (s.cacheCheckpoints source target).threshold = s.threshold := rfl
@[simp] lemma calls_cacheCheckpoints : (s.cacheCheckpoints source target).calls = s.calls := rfl

end State

/-! ### Confirmations -/

/-- The node returned data with this source and this target. -/
def Confirms (os : List Output) (source target : Checkpoint) (h : Host) : Prop :=
  ∃ d, (h, d) ∈ responses os ∧ d.source = source ∧ d.target = target

/-- At least `k` distinct nodes each returned data with this source and this target. -/
def Jointly (k : ℕ) (os : List Output) (source target : Checkpoint) : Prop :=
  Vouched k (responses os) fun d => d.source = source ∧ d.target = target

lemma Jointly.mono {k : ℕ} {os o : List Output} {source target : Checkpoint}
    (h : Jointly k os source target) : Jointly k (os ++ o) source target :=
  Vouched.mono (by simp) (fun _ hd => hd) h

/-- What a call that returned through a path can rely on. -/
def Justified (k : ℕ) (os : List Output) (c : Call) (d : AttestationData) : Path → Prop
  | .cache => c.headEventBlockRoot = some d.beaconBlockRoot ∧
      (∃ t, Jointly k os d.source t) ∧ ∃ u, Jointly k os u d.target
  | .confirmation => c.headEventBlockRoot = some d.beaconBlockRoot ∧ Jointly k os d.source d.target
  | .consensus => Vouched k (responses os) fun e => e = d

/-- What is known of a call, wherever it is suspended. -/
def Call.Sound (k : ℕ) (hosts : List Host) (os : List Output) (c : Call) : Prop :=
  match c.phase with
  | .waitingForAttestationData tasks done =>
    tasks ⊆ hosts ∧ ∀ d ∈ done, c.headEventBlockRoot = some d.beaconBlockRoot
  | .confirming d tasks done confirmations =>
    tasks ⊆ hosts ∧ c.headEventBlockRoot = some d.beaconBlockRoot ∧
      (confirmations ++ done ++ tasks).Nodup ∧ k ≤ (confirmations ++ done ++ tasks).length ∧
      ∀ h ∈ confirmations ++ done, Confirms os d.source d.target h
  | .polling tally tasks done =>
    tasks ⊆ hosts ∧ tally.Counts ∧
      (∀ h d, tally.hostToAttData.get h = some d → (h, d) ∈ responses os) ∧
      ∀ h d, (h, some d) ∈ done → (h, d) ∈ responses os
  | .returned d path => Justified k os c d path
  | .raised | .cancelled => True

lemma Call.Sound.mono {k : ℕ} {hosts hosts' : List Host} {os o : List Output} {c : Call}
    (hh : hosts ⊆ hosts') (h : c.Sound k hosts os) : c.Sound k hosts' (os ++ o) := by
  have hconf : ∀ {a b x}, Confirms os a b x → Confirms (os ++ o) a b x :=
    fun ⟨d, hd, hs⟩ => ⟨d, by simp [hd], hs⟩
  obtain ⟨slot, r, phase⟩ := c
  cases phase with
  | waitingForAttestationData tasks done => exact ⟨List.Subset.trans h.1 hh, h.2⟩
  | confirming d tasks done confirmations =>
    obtain ⟨ht, hr, hn, hk, hc⟩ := h
    exact ⟨List.Subset.trans ht hh, hr, hn, hk, fun x hx => hconf (hc x hx)⟩
  | polling tally tasks done =>
    obtain ⟨ht, hc, hget, hdone⟩ := h
    exact ⟨List.Subset.trans ht hh, hc, fun x d hd => by simp [hget x d hd],
      fun x d hd => by simp [hdone x d hd]⟩
  | returned d path =>
    cases path with
    | cache =>
      obtain ⟨hr, ⟨t, ht⟩, ⟨u, hu⟩⟩ := h
      exact ⟨hr, ⟨t, ht.mono⟩, ⟨u, hu.mono⟩⟩
    | confirmation => exact ⟨h.1, h.2.mono⟩
    | consensus => exact Vouched.mono (by simp) (fun _ hd => hd) h
  | raised | cancelled => trivial

/-! ### The invariant -/

structure Inv (k : ℕ) (s : State) (os : List Output) : Prop where
  threshold : s.threshold = k
  initialized : ∀ h d, (h, d) ∈ responses os → h ∈ s.hosts
  source : ∀ e c, s.sourceCheckpointConfirmationCache.get e = some c →
    c.epoch = e ∧ ∃ t, Jointly k os c t
  target : ∀ e c, s.targetCheckpointConfirmationCache.get e = some c →
    c.epoch = e ∧ ∃ u, Jointly k os u c
  calls : ∀ id c, s.calls.get id = some c → c.Sound k s.hosts os
  confirmed : ∀ a b l, .confirmed a b l ∈ os →
    l.Nodup ∧ k ≤ l.length ∧ ∀ h ∈ l, Confirms os a b h

variable {k : ℕ} {s : State} {os : List Output} {id : ℕ} {c : Call}

lemma inv_init (m : Initialized) :
    Inv m.attestationConsensusThreshold (.init m) [] where
  threshold := rfl
  initialized := by simp [responses]
  source := by simp [State.init]
  target := by simp [State.init]
  calls := by simp [State.init]
  confirmed := by simp

lemma Inv.setPhase (h : Inv k s os) {i : ℕ} {p : Phase}
    (hc : ({ c with phase := p } : Call).Sound k s.hosts os) : Inv k (s.setPhase i c p) os where
  threshold := h.threshold
  initialized := h.initialized
  source := h.source
  target := h.target
  calls := by
    intro id' c' hc'
    simp only [State.calls_setPhase, Dict.get_set] at hc'
    split_ifs at hc' with hid
    · obtain rfl := Option.some.inj hc'
      exact hc
    · exact h.calls id' c' hc'
  confirmed := h.confirmed

/-- The only writer of the caches keeps what they vouch for. -/
lemma Inv.cacheCheckpoints (h : Inv k s os) {source target : Checkpoint}
    (hj : Jointly k os source target) : Inv k (s.cacheCheckpoints source target) os where
  threshold := h.threshold
  initialized := h.initialized
  source := by
    intro e c hc
    simp only [State.cacheCheckpoints, Dict.get_set] at hc
    split_ifs at hc with he
    · obtain rfl := Option.some.inj hc
      exact ⟨he.symm, target, hj⟩
    · exact h.source e c hc
  target := by
    intro e c hc
    simp only [State.cacheCheckpoints, Dict.get_set] at hc
    split_ifs at hc with he
    · obtain rfl := Option.some.inj hc
      exact ⟨he.symm, source, hj⟩
    · exact h.target e c hc
  calls := h.calls
  confirmed := h.confirmed

/-- What is emitted must come from initialized nodes, and be confirmed as it says. -/
lemma Inv.emit (h : Inv k s os) {o : List Output}
    (hresp : ∀ x d, (x, d) ∈ responses o → x ∈ s.hosts)
    (hconf : ∀ a b l, .confirmed a b l ∈ o →
      l.Nodup ∧ k ≤ l.length ∧ ∀ x ∈ l, Confirms os a b x) : Inv k s (os ++ o) where
  threshold := h.threshold
  initialized := by
    intro x d hx
    rcases List.mem_append.mp (responses_append os o ▸ hx) with hx | hx
    · exact h.initialized x d hx
    · exact hresp x d hx
  source := fun e c hc => (h.source e c hc).imp_right fun ⟨t, ht⟩ => ⟨t, ht.mono⟩
  target := fun e c hc => (h.target e c hc).imp_right fun ⟨u, hu⟩ => ⟨u, hu.mono⟩
  calls := fun id c hc => (h.calls id c hc).mono (List.Subset.refl _)
  confirmed := by
    intro a b l hl
    have hall : l.Nodup ∧ k ≤ l.length ∧ ∀ x ∈ l, Confirms os a b x := by
      rcases List.mem_append.mp hl with hl | hl
      · exact h.confirmed a b l hl
      · exact hconf a b l hl
    exact ⟨hall.1, hall.2.1, fun x hx =>
      (hall.2.2 x hx).imp fun d hd => ⟨by simp [hd.1], hd.2⟩⟩

lemma Inv.emit_nil (h : Inv k s os) : Inv k s (os ++ []) := by simpa using h

/-! ### The steps of a call -/

lemma sound_startRound {tally : Tally} (hc : tally.Counts)
    (hget : ∀ x d, tally.hostToAttData.get x = some d → (x, d) ∈ responses os) :
    ({ c with phase := s.startRound tally } : Call).Sound k s.hosts os :=
  ⟨List.Subset.refl _, hc, hget, by simp⟩

lemma sound_startRound_init : ({ c with phase := s.startRound .init } : Call).Sound k s.hosts os :=
  sound_startRound counts_init (by simp [Tally.init])

lemma sound_start {slot : ℤ} {r : Option Root} :
    (⟨slot, r, s.start r⟩ : Call).Sound k s.hosts os := by
  cases r with
  | none => exact sound_startRound_init (c := ⟨slot, none, .raised⟩)
  | some r =>
    by_cases hs : s.hosts = []
    · simp [State.start, hs, Call.Sound]
    · simp [State.start, hs, Call.Sound]

lemma inv_finishConfirming (id : ℕ) (h : Inv k s os) {d : AttestationData}
    {confirmations : List Host} (hr : c.headEventBlockRoot = some d.beaconBlockRoot)
    (hn : confirmations.Nodup) (hk : k ≤ confirmations.length)
    (hc : ∀ x ∈ confirmations, Confirms os d.source d.target x) :
    Inv k (s.finishConfirming id c d confirmations).1
      (os ++ (s.finishConfirming id c d confirmations).2) := by
  have hj : Jointly k os d.source d.target := Vouched.of_nodup hn hk hc
  have hcached := (h.cacheCheckpoints hj).setPhase (i := id) (c := c)
    (p := .returned d .confirmation) ⟨hr, hj⟩
  refine hcached.emit (by simp [State.finishConfirming, responses]) fun a b l hl => ?_
  obtain ⟨rfl, rfl, rfl⟩ : a = d.source ∧ b = d.target ∧ l = confirmations := by
    simpa [State.finishConfirming] using hl
  exact ⟨hn, hk, hc⟩

/-- When no task is left, every task that was started has been awaited. -/
lemma inv_awaitConfirmation (id : ℕ) (h : Inv k s os) {d : AttestationData}
    {tasks done confirmations : List Host}
    (hs : ({ c with phase := .confirming d tasks done confirmations } : Call).Sound k s.hosts os) :
    Inv k (s.awaitConfirmation id c d tasks done confirmations).1
      (os ++ (s.awaitConfirmation id c d tasks done confirmations).2) := by
  unfold State.awaitConfirmation
  by_cases hnone : tasks = [] ∧ done = []
  · obtain ⟨rfl, rfl⟩ := hnone
    obtain ⟨-, hr, hn, hk, hc⟩ := hs
    simp only [List.append_nil] at hn hk hc
    rw [if_pos ⟨rfl, rfl⟩]
    exact inv_finishConfirming id h hr hn hk hc
  · rw [if_neg hnone]
    exact (h.setPhase hs).emit_nil

lemma inv_confirmFinalityCheckpoints (id : ℕ) (h : Inv k s os) {d : AttestationData}
    (hr : c.headEventBlockRoot = some d.beaconBlockRoot) :
    Inv k (s.confirmFinalityCheckpoints id c d).1
      (os ++ (s.confirmFinalityCheckpoints id c d).2) := by
  unfold State.confirmFinalityCheckpoints
  by_cases hcached : s.Cached d
  · rw [if_pos hcached]
    have hsource := (h.source _ _ hcached.1).2
    have htarget := (h.target _ _ hcached.2).2
    have hret : ({ c with phase := .returned d .cache } : Call).Sound k s.hosts os :=
      ⟨hr, hsource, htarget⟩
    exact (h.setPhase hret).emit_nil
  · rw [if_neg hcached]
    refine inv_awaitConfirmation id h ⟨List.Subset.refl _, hr, ?_, ?_, by simp⟩
    · exact initializedBeaconNodes_nodup _
    · rw [← h.threshold]
      exact s.multiBeaconNode.enough

lemma inv_respond (h : Inv k s os) {host : Host} {r : Option AttestationData} {s' : State}
    (hc : s.calls.get id = some c) (hs : s.respond id c host r = some s') :
    Inv k s' (os ++ responseOutput host r) := by
  obtain ⟨slot, head, phase⟩ := c
  have hsound := h.calls id _ hc
  -- the answer first enters the history, then the call reacts to it
  have hemit : host ∈ s.hosts → Inv k s (os ++ responseOutput host r) := fun hh => by
    cases r with
    | none => exact h.emit_nil
    | some d => exact h.emit (by simp [responseOutput, responses, hh]) (by simp [responseOutput])
  have hheard : ∀ d, r = some d → (host, d) ∈ responses (os ++ responseOutput host r) := by
    rintro d rfl
    simp [responseOutput, responses]
  cases phase with
  | waitingForAttestationData tasks done =>
    simp only [State.respond] at hs
    split_ifs at hs with hmem
    have hbase := hsound.mono (o := responseOutput host r) (List.Subset.refl _)
    have hs' := hemit (hsound.1 hmem)
    split at hs
    · next d hf =>
      obtain rfl := Option.some.inj hs
      obtain ⟨-, hroot⟩ := Option.filter_eq_some_iff.mp hf
      refine hs'.setPhase ⟨fun x hx => hbase.1 (List.mem_of_mem_erase hx), fun e he => ?_⟩
      rcases List.mem_append.mp he with he | he
      · exact hbase.2 e he
      · obtain rfl := List.mem_singleton.mp he
        exact (of_decide_eq_true hroot).symm
    · obtain rfl := Option.some.inj hs
      exact hs'
  | confirming d tasks done confirmations =>
    simp only [State.respond] at hs
    split_ifs at hs with hmem
    obtain ⟨ht, hr, hn, hk, hconf⟩ := hsound.mono (o := responseOutput host r) (List.Subset.refl _)
    have hs' := hemit (ht hmem)
    split at hs
    · next e hf =>
      obtain rfl := Option.some.inj hs
      obtain ⟨he, hmatch⟩ := Option.filter_eq_some_iff.mp hf
      -- the host moves from the running tasks to the completed ones
      have hperm : (confirmations ++ (done ++ [host]) ++ tasks.erase host).Perm
          (confirmations ++ done ++ tasks) := by
        simpa using ((List.perm_cons_erase hmem).symm.append_left done).append_left confirmations
      refine hs'.setPhase ⟨fun x hx => ht (List.mem_of_mem_erase hx), hr, hperm.nodup_iff.mpr hn,
        hperm.length_eq ▸ hk, fun x hx => ?_⟩
      rw [← List.append_assoc] at hx
      rcases List.mem_append.mp hx with hx | hx
      · exact hconf x hx
      · obtain rfl := List.mem_singleton.mp hx
        exact ⟨e, hheard e he, by simpa using hmatch⟩
    · obtain rfl := Option.some.inj hs
      exact hs'
  | polling tally tasks done =>
    simp only [State.respond] at hs
    split_ifs at hs with hmem
    obtain rfl := Option.some.inj hs
    obtain ⟨ht, hcnt, hget, hdone⟩ :=
      hsound.mono (o := responseOutput host r) (List.Subset.refl _)
    refine (hemit (ht hmem)).setPhase ⟨fun x hx => ht (List.mem_of_mem_erase hx), hcnt, hget,
      fun x d hx => ?_⟩
    rcases List.mem_append.mp hx with hx | hx
    · exact hdone x d hx
    · obtain ⟨rfl, hd⟩ := Prod.mk.inj (List.mem_singleton.mp hx)
      exact hheard d hd.symm
  | returned d path => simp [State.respond] at hs
  | raised => simp [State.respond] at hs
  | cancelled => simp [State.respond] at hs

/-- With the arrival, too, the tally holds only what was answered. -/
lemma mem_responses_of_processArrival {tally : Tally} {a : Arrival}
    (hget : ∀ x e, tally.hostToAttData.get x = some e → (x, e) ∈ responses os)
    (harr : ∀ e, a.2 = some e → (a.1, e) ∈ responses os) (x : Host) (e : AttestationData)
    (hx : (processArrival k tally a).1.hostToAttData.get x = some e) : (x, e) ∈ responses os := by
  rw [get_processArrival] at hx
  split_ifs at hx with hhost
  · subst hhost
    rcases Option.or_eq_some_iff.mp hx with hx | ⟨-, hx⟩
    · exact harr e hx
    · exact hget _ e hx
  · exact hget x e hx

/-- A value that wins the count is held by hosts that all returned it. -/
lemma vouched_of_processArrival {tally : Tally} {a : Arrival} {d : AttestationData}
    (hcnt : tally.Counts)
    (hget : ∀ x e, tally.hostToAttData.get x = some e → (x, e) ∈ responses os)
    (harr : ∀ e, a.2 = some e → (a.1, e) ∈ responses os)
    (hd : (processArrival k tally a).2 = some d) : Vouched k (responses os) fun e => e = d := by
  obtain ⟨-, -, hk⟩ := (processArrival_returned hcnt a d).mp hd
  refine .of_finset hk fun x hx => ⟨d, ?_, rfl⟩
  exact mem_responses_of_processArrival hget harr x d (Dict.mem_holders.mp hx)

lemma inv_resume (h : Inv k s os) {s' : State} {o : List Output} (hc : s.calls.get id = some c)
    (hs : s.resume id c = some (s', o)) : Inv k s' (os ++ o) := by
  obtain ⟨slot, head, phase⟩ := c
  have hsound := h.calls id _ hc
  cases phase with
  | waitingForAttestationData tasks done =>
    cases done with
    | nil => simp [State.resume] at hs
    | cons d done =>
      have hroot := hsound.2 d (by simp)
      have hinv := inv_confirmFinalityCheckpoints id h hroot
      simp only [State.resume, Option.some.injEq] at hs
      rwa [hs] at hinv
  | confirming d tasks done confirmations =>
    cases done with
    | nil => simp [State.resume] at hs
    | cons host done =>
      obtain ⟨ht, hr, hn, hk, hconf⟩ := hsound
      have hmove : confirmations ++ host :: done = confirmations ++ [host] ++ done := by simp
      rw [hmove] at hn hk hconf
      simp only [State.resume, h.threshold] at hs
      split_ifs at hs with henough
      · have hinv := inv_finishConfirming id h hr hn.of_append_left.of_append_left
          henough fun x hx => hconf x (List.mem_append_left _ hx)
        rwa [Option.some.inj hs] at hinv
      · have hrest : (⟨slot, head, .confirming d tasks done (confirmations ++ [host])⟩ :
            Call).Sound k s.hosts os := ⟨ht, hr, hn, hk, hconf⟩
        have hinv := inv_awaitConfirmation id h
          (c := ⟨slot, head, .confirming d tasks (host :: done) confirmations⟩) hrest
        rwa [Option.some.inj hs] at hinv
  | polling tally tasks done =>
    obtain ⟨ht, hcnt, hget, hdone⟩ := hsound
    cases done with
    | nil =>
      cases tasks with
      | nil =>
        obtain ⟨rfl, rfl⟩ : s.setPhase id ⟨slot, head, _⟩ (s.startRound tally) = s' ∧ [] = o := by
          simpa [State.resume] using hs
        exact (h.setPhase (sound_startRound hcnt hget)).emit_nil
      | cons host tasks => simp [State.resume] at hs
    | cons a done =>
      have harr : ∀ e, a.2 = some e → (a.1, e) ∈ responses os := fun e he =>
        hdone a.1 e (by simp [← he])
      simp only [State.resume, h.threshold] at hs
      split at hs
      · next d hp =>
        have hv := vouched_of_processArrival hcnt hget harr (by rw [hp])
        have hj : Jointly k os d.source d.target :=
          Vouched.mono (List.Subset.refl _) (by rintro e rfl; exact ⟨rfl, rfl⟩) hv
        have hret : (⟨slot, head, .returned d .consensus⟩ : Call).Sound k s.hosts os := hv
        obtain ⟨rfl, rfl⟩ := Prod.mk.inj (Option.some.inj hs)
        exact ((h.cacheCheckpoints hj).setPhase
          (c := ⟨slot, head, .polling tally tasks (a :: done)⟩) hret).emit_nil
      · next tally' hp =>
        have htally : tally' = (processArrival k tally a).1 := by rw [hp]
        have hrest : (⟨slot, head, .polling tally' tasks done⟩ : Call).Sound k s.hosts os := by
          refine ⟨ht, htally ▸ counts_processArrival hcnt a, ?_,
            fun x e hx => hdone x e (List.mem_cons_of_mem _ hx)⟩
          rw [htally]
          exact mem_responses_of_processArrival hget harr
        obtain ⟨rfl, rfl⟩ := Prod.mk.inj (Option.some.inj hs)
        exact (h.setPhase (c := ⟨slot, head, .polling tally tasks (a :: done)⟩) hrest).emit_nil
  | returned d path => simp [State.resume] at hs
  | raised => simp [State.resume] at hs
  | cancelled => simp [State.resume] at hs

lemma inv_timeout (h : Inv k s os) {s' : State} (hs : s.timeout id c = some s') : Inv k s' os := by
  unfold State.timeout at hs
  split at hs
  · obtain rfl := Option.some.inj hs
    exact h.setPhase sound_startRound_init
  · obtain rfl := Option.some.inj hs
    exact h.setPhase sound_startRound_init
  · simp at hs

lemma inv_cancel (h : Inv k s os) {s' : State} (hs : s.cancel id c = some s') : Inv k s' os := by
  unfold State.cancel at hs
  split at hs
  all_goals first
    | (obtain rfl := Option.some.inj hs; exact h.setPhase trivial)
    | simp at hs

lemma inv_initializeFull (h : Inv k s os) (p : Host → Bool) :
    Inv k { s with multiBeaconNode := s.multiBeaconNode.markInitialized p } os := by
  have hsub : s.hosts ⊆ (s.multiBeaconNode.markInitialized p).initializedBeaconNodes :=
    (initializedBeaconNodes_sublist _ p).subset
  exact ⟨h.threshold, fun x d hx => hsub (h.initialized x d hx), h.source, h.target,
    fun id c hc => List.append_nil os ▸ (h.calls id c hc).mono hsub, h.confirmed⟩

lemma inv_prune (h : Inv k s os) (int : String → Option ℤ) : Inv k (s.prune int) os := by
  unfold State.prune
  split
  · exact h
  · next source hsource =>
    dsimp only
    split
    · exact ⟨h.threshold, h.initialized, fun e c hc => h.source e c (get_pruned hsource hc),
        h.target, h.calls, h.confirmed⟩
    · next target htarget =>
      exact ⟨h.threshold, h.initialized, fun e c hc => h.source e c (get_pruned hsource hc),
        fun e c hc => h.target e c (get_pruned htarget hc), h.calls, h.confirmed⟩

/-- What a step can do, with the call it is a step of. -/
inductive Effect (int : String → Option ℤ) (s : State) : Action → State → List Output → Prop
  | started (id : ℕ) (slot : ℤ) (r : Option Root) :
    Effect int s (.produceAttestationData id slot r)
      (s.setPhase id ⟨slot, r, .raised⟩ (s.start r)) []
  | responded (id : ℕ) (c : Call) (host : Host) (r : Option AttestationData) (s' : State)
    (get : s.calls.get id = some c) (responds : s.respond id c host r = some s') :
    Effect int s (.respond id host r) s' (responseOutput host r)
  | resumed (id : ℕ) (c : Call) (s' : State) (o : List Output) (get : s.calls.get id = some c)
    (resumes : s.resume id c = some (s', o)) : Effect int s (.resume id) s' o
  | timedOut (id : ℕ) (c : Call) (s' : State) (get : s.calls.get id = some c)
    (timesOut : s.timeout id c = some s') : Effect int s (.timeout id) s' []
  | cancelled (id : ℕ) (c : Call) (s' : State) (get : s.calls.get id = some c)
    (cancels : s.cancel id c = some s') : Effect int s (.cancel id) s' []
  | initialized (host : Host) :
    Effect int s (.initializeFull host)
      { s with multiBeaconNode := s.multiBeaconNode.markInitialized (· = host) } []
  | pruned : Effect int s .prune (s.prune int) []

lemma effect_of_step {int : String → Option ℤ} {a : Action} {s' : State} {o : List Output}
    (hs : step int s a = some (s', o)) : Effect int s a s' o := by
  cases a with
  | produceAttestationData id slot r =>
    simp only [step] at hs
    split at hs
    · simp at hs
    · obtain ⟨rfl, rfl⟩ := Prod.mk.inj (Option.some.inj hs)
      exact .started id slot r
  | respond id host r =>
    obtain ⟨c, hget, he⟩ := Option.bind_eq_some_iff.mp hs
    obtain ⟨s'', hr, he⟩ := Option.map_eq_some_iff.mp he
    obtain ⟨rfl, rfl⟩ := Prod.mk.inj he
    exact .responded id c host r s'' hget hr
  | resume id =>
    obtain ⟨c, hget, hr⟩ := Option.bind_eq_some_iff.mp hs
    exact .resumed id c s' o hget hr
  | timeout id =>
    obtain ⟨c, hget, he⟩ := Option.bind_eq_some_iff.mp hs
    obtain ⟨s'', hr, he⟩ := Option.map_eq_some_iff.mp he
    obtain ⟨rfl, rfl⟩ := Prod.mk.inj he
    exact .timedOut id c s'' hget hr
  | cancel id =>
    obtain ⟨c, hget, he⟩ := Option.bind_eq_some_iff.mp hs
    obtain ⟨s'', hr, he⟩ := Option.map_eq_some_iff.mp he
    obtain ⟨rfl, rfl⟩ := Prod.mk.inj he
    exact .cancelled id c s'' hget hr
  | initializeFull host =>
    obtain ⟨rfl, rfl⟩ := Prod.mk.inj (Option.some.inj hs)
    exact .initialized host
  | prune =>
    obtain ⟨rfl, rfl⟩ := Prod.mk.inj (Option.some.inj hs)
    exact .pruned

lemma inv_step {int : String → Option ℤ} {a : Action} {s' : State} {o : List Output}
    (h : Inv k s os) (hs : step int s a = some (s', o)) : Inv k s' (os ++ o) := by
  cases effect_of_step hs with
  | started id slot r => exact (h.setPhase sound_start).emit_nil
  | responded id c host r s' get responds => exact inv_respond h get responds
  | resumed id c s' o get resumes => exact inv_resume h get resumes
  | timedOut id c s' get timesOut => exact (inv_timeout h timesOut).emit_nil
  | cancelled id c s' get cancels => exact (inv_cancel h cancels).emit_nil
  | initialized host => exact (inv_initializeFull h _).emit_nil
  | pruned => exact (inv_prune h int).emit_nil

lemma inv_run {int : String → Option ℤ} {m : Initialized} {as : List Action}
    (r : Runs.Run (step int) (.init m) as s os) : Inv m.attestationConsensusThreshold s os :=
  r.invariant (inv_init m) fun _ _ _ _ _ hi _ hs => inv_step hi hs

end Vero.AttestationDataProvider
