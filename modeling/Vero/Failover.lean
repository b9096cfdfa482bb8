import Mathlib.Data.List.Perm.Basic
import Vero.Lib.Runs
import Vero.OptimisticResponses

/-!
Scores of beacon nodes over time: how a node that fails stops being the best.

A request gains its node a point once the headers of its response are in, and costs it five when
it fails, before that or while the text is read. In between any other request may go on, be
cancelled or fail, and any stream may. Nodes go by their hosts, which are distinct.
-/

namespace Vero.MultiBeaconNode

open BeaconNode Lib.Runs

/-- A request whose headers are in and whose text is being read. -/
structure Reading where
  host : Host
  contentType : Option String
  /-- Whether it is the request of `initialize_full`. -/
  initializing : Bool
  deriving DecidableEq

structure Requests where
  nodes : List Scored
  reading : List Reading

inductive Turn
  /-- The headers of a response are in, or the request fails. -/
  | answer (host : Host) (initializing : Bool) (answer : Answer)
  /-- The text of a response has been read, or cannot be. -/
  | text (i : ℕ) (text : Except String String)
  /-- A request is cancelled while its text is read. One without headers leaves nothing behind. -/
  | cancelled (i : ℕ)
  /-- `handle_events` has caught an exception. -/
  | streamFailed (host : Host)

/-- A request that has returned or raised. -/
structure Answered where
  host : Host
  fulfilled : Bool
  deriving DecidableEq

/-- The setter of the score. -/
def setScore (bn : Scored) (value : ℤ) : Scored :=
  { bn with
    score := max 0 (min value maxScore)
    nonneg := le_max_left _ _
    le := max_le (by decide) (min_le_right _ _) }

/-- `_initialize_full` once it has the text: `specMatches` tells whether that is the spec in use, or
whether a mismatch is ignored. -/
def initializeFull (specMatches : String → Bool) (bn : Scored) (text : String) : Scored :=
  if specMatches text then { setScore bn maxScore with initialized := true } else bn

def Requests.find (requests : Requests) (host : Host) : Option Scored :=
  requests.nodes.find? fun bn => bn.host = host

def Requests.put (requests : Requests) (bn : Scored) : Requests :=
  { requests with nodes := requests.nodes.map fun bn' => if bn'.host = bn.host then bn else bn' }

/-- How many requests to a node have their headers and not their text. -/
def Requests.beingRead (requests : Requests) (host : Host) : ℕ :=
  requests.reading.countP fun r => r.host = host

/-- A node is initialized by one request at a time, until one of them succeeds. -/
def Requests.MayInitialize (requests : Requests) (bn : Scored) : Prop :=
  bn.initialized = false ∧ ∀ r ∈ requests.reading, r.initializing = true → r.host ≠ bn.host

instance (requests : Requests) (bn : Scored) : Decidable (requests.MayInitialize bn) :=
  inferInstanceAs (Decidable (_ ∧ _))

variable (specMatches : String → Bool)

def step : Machine Requests Turn Answered := fun requests turn =>
  match turn with
  | .answer host initializing answer => do
    let bn ← requests.find host
    if initializing = true → requests.MayInitialize bn then
      match awaitHeaders bn answer with
      | (bn, .error _) => some (requests.put bn, [⟨host, false⟩])
      | (bn, .ok contentType) =>
        some ({ requests.put bn with
          reading := requests.reading ++ [⟨host, contentType, initializing⟩] }, [])
    else none
  | .text i text => do
    let r ← requests.reading[i]?
    let bn ← requests.find r.host
    let requests := { requests with reading := requests.reading.eraseIdx i }
    match awaitText bn r.contentType text with
    | (bn, .error _) => some (requests.put bn, [⟨r.host, false⟩])
    | (bn, .ok text) =>
      some (requests.put (if r.initializing then initializeFull specMatches bn text else bn),
        [⟨r.host, true⟩])
  | .cancelled i => do
    let _ ← requests.reading[i]?
    some ({ requests with reading := requests.reading.eraseIdx i }, [])
  | .streamFailed host => do
    let bn ← requests.find host
    some (requests.put (bn.addScore (-scoreDeltaFailure)), [])

/-- From here on requests to one node are fulfilled and its stream does not fail, and requests to
another fail, if not before their headers then after. -/
def Diverging (healthy failing : Host) : Guard Requests Turn Answered := fun requests _ turn =>
  (∀ p ∈ step specMatches requests turn, ∀ x ∈ p.2,
    (x.host = healthy → x.fulfilled = true) ∧ (x.host = failing → x.fulfilled = false)) ∧
    match turn with
    | .answer _ _ _ | .text _ _ => True
    | .cancelled i => ∀ r ∈ requests.reading[i]?, r.host ≠ failing
    | .streamFailed host => host ≠ healthy

instance {healthy failing : Host} {requests : Requests} {os : List Answered} (turn : Turn) :
    Decidable (Diverging specMatches healthy failing requests os turn) := by
  unfold Diverging
  cases turn <;> infer_instance

variable {specMatches} {healthy failing host : Host} {requests requests' : Requests} {turn : Turn}
  {os o : List Answered} {bn bn' : Scored} {answer : Answer} {r : Reading} {i : ℕ}

/-! ### Scores -/

lemma addScore_score (delta : ℤ) :
    (bn.addScore delta).score = max 0 (min (bn.score + delta) maxScore) := rfl

lemma initializeFull_spec (text : String) : (initializeFull specMatches bn text).host = bn.host ∧
    (bn.initialized = true → (initializeFull specMatches bn text).initialized = true) ∧
    bn.score ≤ (initializeFull specMatches bn text).score := by
  unfold initializeFull
  split
  · exact ⟨rfl, fun _ => rfl, le_max_of_le_right (le_min bn.le bn.le)⟩
  · exact ⟨rfl, id, le_rfl⟩

/-- Headers gain a point, and a request that fails before them costs five. -/
lemma awaitHeaders_fst (bn : Scored) (answer : Answer) :
    (awaitHeaders bn answer).1 = bn.addScore
      (if (awaitHeaders bn answer).2.isOk then scoreDeltaSuccess else -scoreDeltaFailure) := by
  cases answer with
  | error message => rfl
  | ok response =>
    unfold awaitHeaders
    rcases h : handleNokStatusCode response with e | u
    · simp [h, Except.isOk, Except.toBool]
    · simp [h, Except.isOk, Except.toBool]

/-- The text gains nothing, and a request that fails with it costs five. -/
lemma awaitText_fst (bn : Scored) (contentType : Option String) (text : Except String String) :
    (awaitText bn contentType text).1 =
      if (awaitText bn contentType text).2.isOk then bn else bn.addScore (-scoreDeltaFailure) := by
  unfold awaitText
  split <;> rfl

/-! ### The best node -/

/-- **Nobody has a higher score than the best node.** -/
lemma le_of_bestBeaconNode {nodes : List Scored} {best bn : Scored}
    (h : bestBeaconNode nodes = some best) (hbn : bn ∈ initializedNodes nodes) :
    bn.score ≤ best.score := by
  have hsorted := @List.pairwise_mergeSort Scored (fun a b => decide (b.score ≤ a.score))
    (fun a b c hab hbc => by simp only [decide_eq_true_eq] at *; omega)
    (fun a b => by simp only [Bool.or_eq_true, decide_eq_true_eq]; omega) (initializedNodes nodes)
  unfold bestBeaconNode at h
  obtain ⟨rest, hrest⟩ := List.head?_eq_some_iff.mp h
  have hmem := (List.mergeSort_perm (initializedNodes nodes)
    fun a b : Scored => decide (b.score ≤ a.score)).mem_iff.mpr hbn
  rw [hrest] at hmem hsorted
  rcases List.mem_cons.mp hmem with rfl | hmem
  · exact le_refl _
  · simpa using List.rel_of_pairwise_cons hsorted hmem

lemma exists_bestBeaconNode {nodes : List Scored} {bn : Scored}
    (h : bn ∈ initializedNodes nodes) : ∃ best, bestBeaconNode nodes = some best := by
  cases hbest : bestBeaconNode nodes with
  | some best => exact ⟨best, rfl⟩
  | none =>
    unfold bestBeaconNode at hbest
    have hnil := List.head?_eq_none_iff.mp hbest
    have hmem := (List.mergeSort_perm (initializedNodes nodes)
      fun a b : Scored => decide (b.score ≤ a.score)).mem_iff.mpr h
    rw [hnil] at hmem
    cases hmem

/-! ### Steps -/

/-- All that a step can do: to the node it is about, to the requests that are being read, and what
it tells. -/
inductive Effect (requests : Requests) : Requests → List Answered → Turn → Prop
  | gained (bn : Scored) (r : Reading) (hbn : bn ∈ requests.nodes) (hr : r.host = bn.host)
      (initializing : Bool) (answer : Answer) :
      Effect requests ({ requests with reading := requests.reading ++ [r] }.put
        (bn.addScore scoreDeltaSuccess)) [] (.answer bn.host initializing answer)
  | failed (bn : Scored) (hbn : bn ∈ requests.nodes) (initializing : Bool) (answer : Answer) :
      Effect requests (requests.put (bn.addScore (-scoreDeltaFailure))) [⟨bn.host, false⟩]
        (.answer bn.host initializing answer)
  | unread (bn : Scored) (r : Reading) (i : ℕ) (hbn : bn ∈ requests.nodes) (hr : r.host = bn.host)
      (hi : requests.reading[i]? = some r) (text : Except String String) :
      Effect requests ({ requests with reading := requests.reading.eraseIdx i }.put
        (bn.addScore (-scoreDeltaFailure))) [⟨bn.host, false⟩] (.text i text)
  | read (bn bn' : Scored) (r : Reading) (i : ℕ) (hbn : bn ∈ requests.nodes)
      (hr : r.host = bn.host) (hi : requests.reading[i]? = some r) (text : Except String String)
      (hhost : bn'.host = bn.host) (hinit : bn.initialized = true → bn'.initialized = true)
      (hscore : bn.score ≤ bn'.score) :
      Effect requests ({ requests with reading := requests.reading.eraseIdx i }.put bn')
        [⟨bn.host, true⟩] (.text i text)
  | cancelled (r : Reading) (i : ℕ) (hi : requests.reading[i]? = some r) :
      Effect requests { requests with reading := requests.reading.eraseIdx i } [] (.cancelled i)
  | streamFailed (bn : Scored) (hbn : bn ∈ requests.nodes) :
      Effect requests (requests.put (bn.addScore (-scoreDeltaFailure))) [] (.streamFailed bn.host)

lemma find_spec (h : requests.find host = some bn) : bn ∈ requests.nodes ∧ bn.host = host :=
  ⟨List.mem_of_find?_eq_some h, by simpa using List.find?_some h⟩

lemma effect_of_step (h : step specMatches requests turn = some (requests', o)) :
    Effect requests requests' o turn := by
  cases turn with
  | answer host initializing answer =>
    obtain ⟨bn, hfind, h⟩ := Option.bind_eq_some_iff.mp h
    obtain ⟨hbn, rfl⟩ := find_spec hfind
    split at h
    case isFalse => cases h
    case isTrue =>
      have hscore := awaitHeaders_fst bn answer
      split at h
      case h_1 bn' e heq =>
        cases h
        rw [heq] at hscore
        obtain rfl : bn' = bn.addScore (-scoreDeltaFailure) := hscore
        exact .failed bn hbn initializing answer
      case h_2 bn' contentType heq =>
        cases h
        rw [heq] at hscore
        obtain rfl : bn' = bn.addScore scoreDeltaSuccess := hscore
        exact .gained bn _ hbn rfl initializing answer
  | text i text =>
    obtain ⟨r, hi, h⟩ := Option.bind_eq_some_iff.mp h
    obtain ⟨bn, hfind, h⟩ := Option.bind_eq_some_iff.mp h
    obtain ⟨hbn, hr⟩ := find_spec hfind
    have hscore := awaitText_fst bn r.contentType text
    rw [← hr] at h
    split at h
    case h_1 bn' e heq =>
      cases h
      rw [heq] at hscore
      obtain rfl : bn' = bn.addScore (-scoreDeltaFailure) := hscore
      exact .unread bn r i hbn hr.symm hi text
    case h_2 bn' text' heq =>
      cases h
      rw [heq] at hscore
      obtain rfl : bn' = bn := hscore
      have hfull := @initializeFull_spec specMatches bn' text'
      split
      · exact .read bn' _ r i hbn hr.symm hi text hfull.1 hfull.2.1 hfull.2.2
      · exact .read bn' bn' r i hbn hr.symm hi text rfl id le_rfl
  | cancelled i =>
    obtain ⟨r, hi, h⟩ := Option.bind_eq_some_iff.mp h
    cases h
    exact .cancelled r i hi
  | streamFailed host =>
    obtain ⟨bn, hfind, hstep⟩ := Option.bind_eq_some_iff.mp h
    obtain ⟨hbn, rfl⟩ := find_spec hfind
    obtain ⟨rfl, rfl⟩ := Prod.mk.inj (Option.some.inj hstep)
    exact .streamFailed bn hbn

lemma mem_put (h : bn ∈ (requests.put bn').nodes) :
    bn = bn' ∨ (bn ∈ requests.nodes ∧ bn.host ≠ bn'.host) := by
  obtain ⟨bn₀, hbn₀, he⟩ := List.mem_map.mp h
  split at he
  · exact .inl he.symm
  · next hne => exact .inr (he ▸ ⟨hbn₀, hne⟩)

lemma hosts_put (hhost : bn'.host = bn.host) (hbn : bn ∈ requests.nodes) :
    bn' ∈ (requests.put bn').nodes :=
  List.mem_map.mpr ⟨bn, hbn, if_pos hhost.symm⟩

lemma beingRead_append : { requests with reading := requests.reading ++ [r] }.beingRead host =
    requests.beingRead host + if r.host = host then 1 else 0 := by
  simp [Requests.beingRead, List.countP_append, List.countP_singleton]

lemma beingRead_eraseIdx (hi : requests.reading[i]? = some r) :
    { requests with reading := requests.reading.eraseIdx i }.beingRead host +
      (if r.host = host then 1 else 0) = requests.beingRead host := by
  obtain ⟨hlt, hget⟩ := List.getElem?_eq_some_iff.mp hi
  have hperm := (List.getElem_cons_eraseIdx_perm hlt).countP_eq fun r => decide (r.host = host)
  rw [List.countP_cons, hget] at hperm
  simpa [Requests.beingRead] using hperm

/-! ### Runs -/

/-- The score a failing node may have had `failures` later, `beingRead` of its requests having their
point already. -/
def allowance (score : ℤ) (failures beingRead : ℕ) : ℤ := max 0 (score - 4 * failures) + beingRead

/-- A failure takes back the point of its own headers and four more. -/
lemma allowance_failed {q : ℤ} {failures beingRead : ℕ}
    (h : bn.score ≤ allowance q failures (beingRead + 1)) :
    (bn.addScore (-scoreDeltaFailure)).score ≤ allowance q (failures + 1) beingRead := by
  simp only [allowance, addScore_score, scoreDeltaFailure] at h ⊢
  push_cast at h ⊢
  omega

lemma allowance_mono (q : ℤ) (failures : ℕ) {k l : ℕ} (h : k ≤ l) :
    allowance q failures k ≤ allowance q failures l :=
  Int.add_le_add_left (Int.ofNat_le.mpr h) _

/-- How the scores of two nodes compare while they diverge, from `p` and `q`. -/
structure Apart (healthy failing : Host) (p q : ℤ) (requests : Requests) (os : List Answered) :
    Prop where
  known : ∃ bn ∈ requests.nodes, bn.host = healthy
  healthy : ∀ bn ∈ requests.nodes, bn.host = healthy → bn.initialized = true ∧ p ≤ bn.score
  failing : ∀ bn ∈ requests.nodes, bn.host = failing →
    bn.score ≤ allowance q (os.count ⟨failing, false⟩) (requests.beingRead failing)

variable {p q : ℤ} {reading : List Reading}

/-- A step is about one node, and what is told and read of the other nodes stays. -/
lemma Apart.put (h : Apart healthy failing p q requests os) (hbn : bn ∈ requests.nodes)
    (hhost : bn'.host = bn.host)
    (hhealthy : bn.host = healthy →
      (bn.initialized = true → bn'.initialized = true) ∧ bn.score ≤ bn'.score)
    (hfailing : bn.host = failing →
      bn.score ≤ allowance q (os.count ⟨failing, false⟩) (requests.beingRead failing) →
      bn'.score ≤ allowance q ((os ++ o).count ⟨failing, false⟩)
        ({ requests with reading := reading }.beingRead failing))
    (hother : bn.host ≠ failing → o.count ⟨failing, false⟩ = 0 ∧
      { requests with reading := reading }.beingRead failing = requests.beingRead failing) :
    Apart healthy failing p q ({ requests with reading := reading }.put bn') (os ++ o) := by
  refine ⟨?_, ?_, ?_⟩
  · obtain ⟨known, hknown, hh⟩ := h.known
    by_cases heq : bn.host = healthy
    · exact ⟨bn', hosts_put hhost hbn, hhost.trans heq⟩
    · refine ⟨known, List.mem_map.mpr ⟨known, hknown, if_neg ?_⟩, hh⟩
      rw [hh, hhost]
      exact Ne.symm heq
  · intro x hx hxhost
    rcases mem_put hx with rfl | ⟨hold, -⟩
    · have hbefore := h.healthy bn hbn (hhost.symm.trans hxhost)
      have hafter := hhealthy (hhost.symm.trans hxhost)
      exact ⟨hafter.1 hbefore.1, hbefore.2.trans hafter.2⟩
    · exact h.healthy x hold hxhost
  · intro x hx hxhost
    rcases mem_put hx with rfl | ⟨hold, hne⟩
    · have heq := hhost.symm.trans hxhost
      exact hfailing heq (h.failing bn hbn heq)
    · have hkeeps := hother fun heq => hne (hxhost.trans (hhost.trans heq).symm)
      rw [List.count_append, hkeeps.1, Nat.add_zero]
      exact (h.failing x hold hxhost).trans_eq (by rw [← hkeeps.2]; rfl)

lemma count_answered (fulfilled : Bool) (h : host ≠ failing) :
    [(⟨host, fulfilled⟩ : Answered)].count ⟨failing, false⟩ = 0 := by
  rw [List.count_singleton]
  simp [h]

lemma Apart.step (h : Apart healthy failing p q requests os)
    (hguard : Diverging specMatches healthy failing requests os turn)
    (hs : step specMatches requests turn = some (requests', o)) :
    Apart healthy failing p q requests' (os ++ o) := by
  have htold := hguard.1 _ hs
  have hother := hguard.2
  cases effect_of_step hs with
  | gained bn r hbn hr initializing answer =>
    refine h.put (o := []) hbn rfl (fun _ => ⟨id, ?_⟩) (fun heq hle => ?_) fun hne => ⟨rfl, ?_⟩
    · have hmax := bn.le
      rw [addScore_score, scoreDeltaSuccess]
      omega
    · rw [beingRead_append, if_pos (hr.trans heq), addScore_score, List.append_nil]
      simp only [allowance, scoreDeltaSuccess] at hle ⊢
      omega
    · rw [beingRead_append, if_neg fun heq => hne (hr.symm.trans heq), Nat.add_zero]
  | failed bn hbn initializing answer =>
    have hne : bn.host ≠ healthy := fun heq =>
      Bool.false_ne_true ((htold _ (List.mem_singleton_self _)).1 heq)
    refine h.put hbn rfl (fun heq => absurd heq hne) (fun heq hle => ?_)
      fun hne => ⟨count_answered false hne, rfl⟩
    rw [heq, List.count_append, List.count_singleton_self]
    exact allowance_failed (hle.trans (allowance_mono _ _ (Nat.le_succ _)))
  | unread bn r i hbn hr hi text =>
    have hne : bn.host ≠ healthy := fun heq =>
      Bool.false_ne_true ((htold _ (List.mem_singleton_self _)).1 heq)
    refine h.put hbn rfl (fun heq => absurd heq hne) (fun heq hle => ?_)
      fun hne => ⟨count_answered false hne, ?_⟩
    · rw [heq, List.count_append, List.count_singleton_self]
      rw [← beingRead_eraseIdx hi, if_pos (hr.trans heq)] at hle
      exact allowance_failed hle
    · rw [← beingRead_eraseIdx hi, if_neg fun heq => hne (hr.symm.trans heq), Nat.add_zero]
  | read bn bn' r i hbn hr hi text hhost hinit hscore =>
    have hne : bn.host ≠ failing := fun heq =>
      Bool.false_ne_true ((htold _ (List.mem_singleton_self _)).2 heq).symm
    refine h.put hbn hhost (fun _ => ⟨hinit, hscore⟩) (fun heq => absurd heq hne)
      fun hne => ⟨count_answered true hne, ?_⟩
    rw [← beingRead_eraseIdx hi, if_neg fun heq => hne (hr.symm.trans heq), Nat.add_zero]
  | cancelled r i hi =>
    have hkept := @beingRead_eraseIdx failing requests r i hi
    rw [if_neg (hother r hi), Nat.add_zero] at hkept
    rw [List.append_nil]
    exact ⟨h.known, h.healthy, fun bn hbn heq => (h.failing bn hbn heq).trans_eq (by rw [hkept])⟩
  | streamFailed bn hbn =>
    refine h.put (o := []) hbn rfl (fun heq => absurd heq hother) (fun heq hle => ?_)
      fun hne => ⟨rfl, rfl⟩
    rw [List.append_nil]
    refine le_trans ?_ hle
    have hmin := bn.nonneg
    rw [addScore_score, scoreDeltaFailure]
    omega

end Vero.MultiBeaconNode
