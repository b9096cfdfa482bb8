import Vero.AttestationDataPolling

/-!
`poll_health_periodically`: the health of a remote signer, checked once a second.

The next check is due one second after the one before it was due, however long that one took. A
check that fails costs the signer what twenty good ones gain it.
-/

namespace Vero.RemoteSigner

open Lib
open BeaconNode (cancelledError)
open DoppelgangerDetector (Exception Timed Program clock sleep passOn paced Follows readsClock
  sleepsFor readsClock_eq_some sleepsFor_eq_some passOn_ok passOn_error)

structure HealthCheckResponse where
  status : String
  outcome : String
  deriving DecidableEq

/-- The signer has answered, or its score was set. -/
inductive Health
  | healthcheck (answer : Except String HealthCheckResponse)
  | scored (score : ℤ)
  deriving DecidableEq

def maxScore : ℤ := 100
def scoreDeltaSuccess : ℤ := 1
def scoreDeltaFailure : ℤ := 20

def clamp (value : ℤ) : ℤ := max 0 (min value maxScore)

def asksHealth (ev : Timed Health) : Option (Except Exception HealthCheckResponse) :=
  match ev.event with
  | .own (.healthcheck answer) => some (passOn answer)
  | _ => none

def setsScore (score : ℤ) (ev : Timed Health) : Option (Except Exception ℤ) :=
  if ev.event = .own (.scored score) then some (.ok score) else none

/-- The setter of the score. -/
def setScore (value : ℤ) : Program Health ℤ := .await (setsScore (clamp value))

def HealthCheckResponse.up (r : HealthCheckResponse) : Prop := r.status = "UP" ∧ r.outcome = "UP"

instance (r : HealthCheckResponse) : Decidable r.up := inferInstanceAs (Decidable (_ ∧ _))

def getHealthcheckStatus (score : ℤ) : Program Health ℤ := do
  let decodedResponse ← .await asksHealth
  if decodedResponse.up then setScore (score + scoreDeltaSuccess)
  else setScore (score - scoreDeltaFailure)

/-- It never returns. -/
def pollHealthPeriodically (score : ℤ) : Program Health Empty := do
  let nextRun ← clock
  Coroutine.loop (fun (s : ℚ × ℤ) => do
    let score ← Coroutine.tryCatch (getHealthcheckStatus s.2) fun e =>
      if e = .foreign cancelledError then .raise e else setScore (s.2 - scoreDeltaFailure)
    let nextRun := s.1 + 1
    let time ← clock
    sleep (max 0 (nextRun - time))
    pure (.inl (nextRun, score))) (nextRun, score)

/-! ### Checks -/

structure Check where
  answered : ℚ
  answer : Except String HealthCheckResponse
  set : ℚ
  checked : ℚ
  woke : ℚ

/-- The signer is healthy by this answer. -/
def Healthy : Except String HealthCheckResponse → Prop
  | .ok r => r.up
  | .error _ => False

instance : (answer : Except String HealthCheckResponse) → Decidable (Healthy answer)
  | .ok r => inferInstanceAs (Decidable r.up)
  | .error _ => instDecidableFalse

def scoreAfter (score : ℤ) (answer : Except String HealthCheckResponse) : ℤ :=
  clamp (if Healthy answer then score + scoreDeltaSuccess else score - scoreDeltaFailure)

/-- A check that was due a second before `nextRun`, up to the sleep after it. -/
def Check.request (score : ℤ) (k : Check) : List (Timed Health) :=
  [⟨k.answered, .own (.healthcheck k.answer)⟩, ⟨k.set, .own (.scored (scoreAfter score k.answer))⟩,
    ⟨k.checked, .clock⟩]

def Check.slept (nextRun : ℚ) (k : Check) (answer : Except String Unit) : Timed Health :=
  ⟨k.woke, .slept (max 0 (nextRun - k.checked)) answer⟩

def Check.events (nextRun : ℚ) (score : ℤ) (k : Check) : List (Timed Health) :=
  k.request score ++ [k.slept nextRun (.ok ())]

def scoreOf (score : ℤ) (checks : List Check) : ℤ :=
  checks.foldl (fun score k => scoreAfter score k.answer) score

/-- The events of one check after the other. -/
def events (nextRun : ℚ) (score : ℤ) : List Check → List (Timed Health)
  | [] => []
  | k :: checks =>
    k.events (nextRun + 1) score ++ events (nextRun + 1) (scoreAfter score k.answer) checks

/-- What has happened since the last full check, and what the loop has come to. -/
inductive Last (nextRun : ℚ) (score : ℤ) :
    Coroutine.Outcome Exception Empty → List (Timed Health) → Prop
  | checking : Last nextRun score .waiting []
  | answered (t : ℚ) (answer : Except String HealthCheckResponse)
      (caught : answer ≠ .error cancelledError) :
      Last nextRun score .waiting [⟨t, .own (.healthcheck answer)⟩]
  | scored (t u : ℚ) (answer : Except String HealthCheckResponse)
      (caught : answer ≠ .error cancelledError) : Last nextRun score .waiting
        [⟨t, .own (.healthcheck answer)⟩, ⟨u, .own (.scored (scoreAfter score answer))⟩]
  | sleeping (k : Check) (caught : k.answer ≠ .error cancelledError) :
      Last nextRun score .waiting (k.request score)
  | cancelled (t : ℚ) : Last nextRun score (.raised (.foreign cancelledError))
      [⟨t, .own (.healthcheck (.error cancelledError))⟩]
  | interrupted (k : Check) (caught : k.answer ≠ .error cancelledError) (name : String) :
      Last nextRun score (.raised (.foreign name))
        (k.request score ++ [k.slept (nextRun + 1) (.error name)])

/-- Full checks since the clock was read, and the last one, which knows when the last full check was
due and what score it left. -/
def Polled (score : ℤ) (L : ℚ → ℤ → List (Timed Health) → Prop) (es : List (Timed Health)) : Prop :=
  ∃ (start : ℚ) (checks : List Check) (last : List (Timed Health)),
    (∀ k ∈ checks, k.answer ≠ .error cancelledError) ∧
      L (start + checks.length) (scoreOf score checks) last ∧
      es = ⟨start, .clock⟩ :: (events start score checks ++ last)

variable {score : ℤ} {L L' : ℚ → ℤ → List (Timed Health) → Prop} {es : List (Timed Health)} {δ : ℚ}
variable {E : Coroutine.Environment (Timed Health)}

lemma Polled.mono (h : Polled score L es) (himp : ∀ n p l, L n p l → L' n p l) :
    Polled score L' es := by
  obtain ⟨start, checks, last, hcaught, hL, he⟩ := h
  exact ⟨start, checks, last, hcaught, himp _ _ last hL, he⟩

lemma Polled.append (h : Polled score L es) {evs : List (Timed Health)}
    (himp : ∀ n p l, L n p l → L' n p (l ++ evs)) : Polled score L' (es ++ evs) := by
  obtain ⟨start, checks, last, hcaught, hL, rfl⟩ := h
  refine ⟨start, checks, last ++ evs, hcaught, himp _ _ last hL, ?_⟩
  rw [List.cons_append, List.append_assoc]

lemma events_append (nextRun : ℚ) (score : ℤ) (checks : List Check) (k : Check) :
    events nextRun score (checks ++ [k]) = events nextRun score checks ++
      k.events (nextRun + checks.length + 1) (scoreOf score checks) := by
  induction checks generalizing nextRun score with
  | nil => simp [events, scoreOf]
  | cons k' checks ih =>
    rw [List.cons_append, events, ih, events, List.append_assoc]
    congr 3
    rw [List.length_cons]
    push_cast
    ring

/-- A check is over. -/
lemma Polled.check (h : Polled score L es) {n : ℚ} {p : ℤ}
    (himp : ∀ n' p' l, L n' p' l → ∃ k : Check, k.answer ≠ .error cancelledError ∧
      n = n' + 1 ∧ p = scoreAfter p' k.answer ∧ l = k.events (n' + 1) p') :
    Polled score (fun n' p' l => n' = n ∧ p' = p ∧ l = []) es := by
  obtain ⟨start, checks, last, hcaught, hL, rfl⟩ := h
  obtain ⟨k, hk, rfl, rfl, rfl⟩ := himp _ _ last hL
  refine ⟨start, checks ++ [k], [], fun x hx => ?_, ⟨?_, ?_, rfl⟩, ?_⟩
  · rcases List.mem_append.mp hx with hx | hx
    · exact hcaught x hx
    · rwa [List.mem_singleton.mp hx]
  · rw [List.length_append, List.length_singleton]
    push_cast
    ring
  · rw [scoreOf, List.foldl_append]
    rfl
  · rw [events_append, List.append_nil]

/-! ### What the loop awaits -/

lemma asksHealth_eq_some {ev : Timed Health} {x : Except Exception HealthCheckResponse}
    (h : asksHealth ev = some x) :
    ∃ answer, ev.event = .own (.healthcheck answer) ∧ passOn answer = x := by
  obtain ⟨time, event⟩ := ev
  cases event with
  | own y =>
    cases y with
    | healthcheck answer => exact ⟨answer, rfl, Option.some.inj h⟩
    | scored => cases h
  | clock | slept | liveness => cases h

/-- The history ends with an answer that has `good`. -/
def Answered (P : List (Timed Health) → Prop)
    (good : Except String HealthCheckResponse → Prop) (h : List (Timed Health)) : Prop :=
  ∃ pre t answer, P pre ∧ good answer ∧ h = pre ++ [⟨t, .own (.healthcheck answer)⟩]

/-- It ends with an answer, and the score after it. -/
def Scored (P : List (Timed Health) → Prop) (score score' : ℤ) (h : List (Timed Health)) : Prop :=
  ∃ pre t u answer, P pre ∧ answer ≠ .error cancelledError ∧ score' = scoreAfter score answer ∧
    h = pre ++ [⟨t, .own (.healthcheck answer)⟩, ⟨u, .own (.scored (scoreAfter score answer))⟩]

variable {P : List (Timed Health) → Prop}

/-- The score is set after an answer it agrees with. -/
lemma setScore_spec {good : Except String HealthCheckResponse → Prop} {value : ℤ}
    (hcaught : ∀ answer, good answer → answer ≠ .error cancelledError)
    (hvalue : ∀ answer, good answer → clamp value = scoreAfter score answer)
    {Q : Exception → List (Timed Health) → Prop} :
    Coroutine.Triple E (Answered P good) (setScore value)
      ⟨Scored P score, Q, fun h => P h ∨ Answered P (· ≠ .error cancelledError) h⟩ := by
  refine .await (fun h ⟨pre, t, answer, hP, hgood, hh⟩ _ =>
      .inr ⟨pre, t, answer, hP, hcaught answer hgood, hh⟩)
    (fun h ev s ⟨pre, t, answer, hP, hgood, hh⟩ _ ha => ?_) fun h ev e _ _ ha => ?_
  · unfold setsScore at ha
    split_ifs at ha with hev
    obtain rfl := Except.ok.inj (Option.some.inj ha)
    rw [hvalue answer hgood] at hev ⊢
    refine ⟨pre, t, ev.time, answer, hP, hcaught answer hgood, rfl, ?_⟩
    rw [hh, List.append_assoc, ← hev]
    rfl
  · unfold setsScore at ha
    split_ifs at ha
    cases Option.some.inj ha

/-- **One check.** A failure is caught unless it is a cancellation. -/
lemma check_spec : Coroutine.Triple E P
    (Coroutine.tryCatch (getHealthcheckStatus score) fun e =>
      if e = .foreign cancelledError then .raise e else setScore (score - scoreDeltaFailure))
    ⟨Scored P score,
      fun e h => e = .foreign cancelledError ∧ Answered P (· = .error cancelledError) h,
      fun h => P h ∨ Answered P (· ≠ .error cancelledError) h⟩ := by
  refine Coroutine.Triple.tryCatch
    (N := fun e h => ∃ name, e = .foreign name ∧ Answered P (· = .error name) h) ?_ fun e => ?_
  · refine Coroutine.Triple.bind (M := fun r => Answered P (· = .ok r)) ?_ fun r => ?_
    · refine .await (fun _ h _ => .inl h) (fun h ev r hP _ ha => ?_) fun h ev e hP _ ha => ?_
      · obtain ⟨answer, hev, hanswer⟩ := asksHealth_eq_some ha
        exact ⟨h, ev.time, answer, hP, passOn_ok hanswer, by rw [← hev]⟩
      · obtain ⟨answer, hev, hanswer⟩ := asksHealth_eq_some ha
        obtain ⟨name, he, herror⟩ := passOn_error hanswer
        exact ⟨name, he, h, ev.time, answer, hP, herror, by rw [← hev]⟩
    · have hcaught : ∀ answer : Except String HealthCheckResponse, answer = .ok r →
          answer ≠ .error cancelledError := by
        rintro _ rfl h
        cases h
      by_cases hup : r.up
      · rw [if_pos hup]
        refine setScore_spec hcaught ?_
        rintro _ rfl
        rw [scoreAfter, if_pos (show Healthy (.ok r) from hup)]
      · rw [if_neg hup]
        refine setScore_spec hcaught ?_
        rintro _ rfl
        rw [scoreAfter, if_neg (show ¬ Healthy (.ok r) from hup)]
  · by_cases he : e = .foreign cancelledError
    · rw [if_pos he]
      refine .raise fun h ⟨name, hname, hanswered⟩ _ => ⟨he, ?_⟩
      obtain rfl : name = cancelledError := Exception.foreign.inj (hname.symm.trans he)
      exact hanswered
    · rw [if_neg he]
      have hcaught : ∀ answer : Except String HealthCheckResponse,
          (∃ name, e = .foreign name ∧ answer = .error name) → answer ≠ .error cancelledError := by
        rintro _ ⟨name, hname, rfl⟩ hcancelled
        obtain rfl : name = cancelledError := Except.error.inj hcancelled
        exact he hname
      have hvalue : ∀ answer : Except String HealthCheckResponse,
          (∃ name, e = .foreign name ∧ answer = .error name) →
            clamp (score - scoreDeltaFailure) = scoreAfter score answer := by
        rintro _ ⟨name, -, rfl⟩
        rw [scoreAfter, if_neg (show ¬ Healthy (.error name) from id)]
      refine (setScore_spec hcaught hvalue).imp (fun h ⟨name, hname, pre, t, answer, hP, hanswer,
        hh⟩ => ?_) (fun _ _ _ h => h) (fun _ _ _ h => h) fun _ _ h => h
      exact ⟨pre, t, answer, hP, ⟨name, hname, hanswer⟩, hh⟩

/-- Between two checks. -/
def Due (n : ℚ) (p : ℤ) (n' : ℚ) (p' : ℤ) (l : List (Timed Health)) : Prop :=
  n' = n ∧ p' = p ∧ l = []

/-- The clock was read after a check. -/
def Read (n : ℚ) (p : ℤ) (time : ℚ) (n' : ℚ) (p' : ℤ) (l : List (Timed Health)) : Prop :=
  ∃ k : Check, k.answer ≠ .error cancelledError ∧ n' = n ∧ p = scoreAfter p' k.answer ∧
    k.checked = time ∧ l = k.request p'

/-- Sleeping ends the check, at a time that it did not know before. -/
lemma Polled.slept {n time : ℚ} {p : ℤ} {ev : Timed Health} {answer : Except String Unit}
    (h : Polled score (Read n p time) es)
    (hev : ev.event = .slept (max 0 (n + 1 - time)) answer) :
    Polled score (fun n' p' l => ∃ k : Check, k.answer ≠ .error cancelledError ∧ n' = n ∧
      p = scoreAfter p' k.answer ∧ l = k.request p' ++ [k.slept (n' + 1) answer])
      (es ++ [ev]) := by
  refine h.append fun n' p' l ⟨k, hk, hn, hp, hchecked, hl⟩ => ?_
  refine ⟨{ k with woke := ev.time }, hk, hn, hp, ?_⟩
  have hlast : ev = Check.slept (n' + 1) { k with woke := ev.time } answer := by
    rw [Check.slept, hchecked, hn, ← hev]
  rw [hl, ← hlast]
  rfl

variable {n : ℚ} {p : ℤ}

/-- A check, between two checks. -/
lemma polled_check_spec : Coroutine.Triple E (Polled score (Due n p))
    (Coroutine.tryCatch (getHealthcheckStatus p) fun e =>
      if e = .foreign cancelledError then .raise e else setScore (p - scoreDeltaFailure))
    ⟨Scored (Polled score (Due n p)) p, fun e => Polled score (Last · · (.raised e)),
      Polled score (Last · · .waiting)⟩ := by
  refine check_spec.imp (fun _ h => h) (fun _ _ _ h => h)
    (fun e h _ ⟨he, pre, t, answer, hP, hanswer, hh⟩ => ?_) fun h _ hwaiting => ?_
  · change Polled score (Last · · (.raised e)) h
    rw [hh, he, hanswer]
    refine Polled.append hP fun n' p' l ⟨_, _, hl⟩ => ?_
    rw [hl]
    exact .cancelled t
  · change Polled score (Last · · .waiting) h
    rcases hwaiting with hP | ⟨pre, t, answer, hP, hcaught, hh⟩
    · refine Polled.mono hP fun n' p' l ⟨_, _, hl⟩ => ?_
      rw [hl]
      exact .checking
    · rw [hh]
      refine Polled.append hP fun n' p' l ⟨_, _, hl⟩ => ?_
      rw [hl]
      exact .answered t answer hcaught

/-- The clock is read after a check. -/
lemma polled_clock_spec {p' : ℤ} : Coroutine.Triple E (Scored (Polled score (Due n p)) p p') clock
    ⟨fun time => Polled score (Read n p' time), fun e => Polled score (Last · · (.raised e)),
      Polled score (Last · · .waiting)⟩ := by
  refine .await (fun h ⟨pre, t, u, answer, hP, hcaught, hscore, hh⟩ _ => ?_)
    (fun h ev time ⟨pre, t, u, answer, hP, hcaught, hscore, hh⟩ _ ha => ?_)
    fun h ev e _ _ ha => ?_
  · change Polled score (Last · · .waiting) h
    rw [hh]
    refine Polled.append hP fun n' q l ⟨_, hq, hl⟩ => ?_
    rw [hl, ← hq]
    exact .scored t u answer hcaught
  · obtain ⟨hev, ht⟩ := readsClock_eq_some ha
    obtain rfl := Except.ok.inj ht
    change Polled score (Read n p' ev.time) (h ++ [ev])
    rw [hh, List.append_assoc]
    refine Polled.append hP fun n' q l ⟨hn, hq, hl⟩ => ?_
    refine ⟨⟨t, answer, u, ev.time, ev.time⟩, hcaught, hn, by rw [hscore, hq], rfl, ?_⟩
    rw [hl, hq, hev]
    rfl
  · cases (readsClock_eq_some ha).2

/-- The sleep until the next check is due. -/
lemma polled_sleep_spec {time : ℚ} : Coroutine.Triple E (Polled score (Read n p time))
    (sleep (max 0 (n + 1 - time)))
    ⟨fun _ => Polled score (Due (n + 1) p), fun e => Polled score (Last · · (.raised e)),
      Polled score (Last · · .waiting)⟩ := by
  refine .await (fun h hP _ => ?_) (fun h ev u hP _ ha => ?_) fun h ev e hP _ ha => ?_
  · change Polled score (Last · · .waiting) h
    refine Polled.mono hP fun n' q l ⟨k, hk, _, _, _, hl⟩ => ?_
    rw [hl]
    exact .sleeping k hk
  · obtain ⟨answer, hev, hanswer⟩ := sleepsFor_eq_some ha
    obtain rfl : answer = .ok u := passOn_ok hanswer
    refine (hP.slept hev).check fun n' q l ⟨k, hk, hn, hq, hl⟩ => ?_
    exact ⟨k, hk, by rw [hn], hq, hl⟩
  · obtain ⟨answer, hev, hanswer⟩ := sleepsFor_eq_some ha
    obtain ⟨name, rfl, rfl⟩ := passOn_error hanswer
    change Polled score (Last · · (.raised (.foreign name))) (h ++ [ev])
    refine (hP.slept hev).mono fun n' q l ⟨k, hk, _, _, hl⟩ => ?_
    rw [hl]
    exact .interrupted k hk name

/-- **The loop.** -/
lemma pollHealthPeriodically_spec :
    Coroutine.Triple E (· = []) (pollHealthPeriodically score)
      ⟨fun _ _ => False, fun e => Polled score (Last · · (.raised e)),
        fun h => h = [] ∨ Polled score (Last · · .waiting) h⟩ := by
  refine Coroutine.Triple.bind
    (M := fun start h => h = [⟨start, .clock⟩]) ?_ fun start => ?_
  · refine .await (fun h hnil _ => .inl hnil) (fun h ev t hnil _ ha => ?_) fun h ev e _ _ ha => ?_
    · obtain ⟨hev, ht⟩ := readsClock_eq_some ha
      obtain rfl := Except.ok.inj ht
      change h ++ [ev] = [⟨ev.time, .clock⟩]
      rw [hnil, ← hev, List.nil_append]
    · cases (readsClock_eq_some ha).2
  refine Coroutine.Triple.imp (Q := ⟨fun _ _ => False, fun e => Polled score (Last · · (.raised e)),
      Polled score (Last · · .waiting)⟩)
    (Coroutine.Triple.loop (I := fun s : ℚ × ℤ => Polled score (Due s.1 s.2)) (fun s => ?_)
      (start, score)) (fun h hstart => ?_) (fun _ _ _ h => h) (fun _ _ _ h => h) fun _ _ h => ?_
  · refine polled_check_spec.bind fun p' => polled_clock_spec.bind fun time => ?_
    exact polled_sleep_spec.bind fun _ => .pure fun _ h _ => h
  · exact ⟨start, [], [], by simp, by simp [Due, scoreOf], by simpa [events] using hstart⟩
  · exact Or.inr h

/-! ### The pace of the checks -/

/-- A check with its sleep goes on until it is `nextRun`, less what the sleep is too short by. -/
lemma Check.le_woke (k : Check) (h : (k.events n p).IsChain (Follows δ)) : n - δ ≤ k.woke := by
  have hsplit : k.events n p = [⟨k.answered, .own (.healthcheck k.answer)⟩,
      ⟨k.set, .own (.scored (scoreAfter p k.answer))⟩] ++
        [⟨k.checked, .clock⟩, k.slept n (.ok ())] := rfl
  rw [hsplit] at h
  have hlate := (List.isChain_pair.mp h.right_of_append).2 _ rfl
  have hdelay := le_max_right 0 (n - k.checked)
  dsimp only [Check.slept] at hlate
  linarith

/-- However long the checks take and however late they come, the times they are due at do not
move. -/
lemma le_woke_of_getElem? {checks : List Check} {last : List (Timed Health)} {i : ℕ} {k : Check}
    (h : (events n p checks ++ last).IsChain (Follows δ)) (hk : checks[i]? = some k) :
    n + (i + 1) - δ ≤ k.woke := by
  induction checks generalizing n p i with
  | nil => cases hk
  | cons k' checks ih =>
    rw [events, List.append_assoc] at h
    cases i with
    | zero =>
      obtain rfl : k' = k := Option.some.inj hk
      have hfirst := k'.le_woke h.left_of_append
      simpa using hfirst
    | succ i =>
      have hrest := ih h.right_of_append hk
      push_cast
      linarith

/-! ### The score -/

/-- A score that the setter leaves as it is. -/
def Bounded (score : ℤ) : Prop := 0 ≤ score ∧ score ≤ maxScore

lemma bounded_scoreAfter (p : ℤ) (answer : Except String HealthCheckResponse) :
    Bounded (scoreAfter p answer) := by
  unfold scoreAfter Bounded clamp maxScore
  omega

lemma bounded_scoreOf {checks : List Check} (hp : Bounded p) : Bounded (scoreOf p checks) := by
  induction checks generalizing p with
  | nil => exact hp
  | cons k checks ih => exact ih (bounded_scoreAfter p k.answer)

lemma scoreOf_append (p : ℤ) (checks checks' : List Check) :
    scoreOf p (checks ++ checks') = scoreOf (scoreOf p checks) checks' := List.foldl_append

lemma scoreOf_failing {checks : List Check} (hp : Bounded p)
    (h : ∀ k ∈ checks, ¬ Healthy k.answer) :
    scoreOf p checks = max 0 (p - scoreDeltaFailure * checks.length) := by
  induction checks generalizing p with
  | nil =>
    have hle := hp.1
    simp [scoreOf, hle]
  | cons k checks ih =>
    have hfirst : scoreAfter p k.answer = max 0 (p - scoreDeltaFailure) := by
      have hle := hp.2
      rw [scoreAfter, if_neg (h k List.mem_cons_self), clamp]
      unfold scoreDeltaFailure
      omega
    have hrest := ih (bounded_scoreAfter p k.answer) fun x hx => h x (List.mem_cons_of_mem _ hx)
    change scoreOf (scoreAfter p k.answer) checks = _
    rw [hrest, hfirst, List.length_cons]
    push_cast
    unfold scoreDeltaFailure
    omega

lemma scoreOf_healthy {checks : List Check} (hp : Bounded p)
    (h : ∀ k ∈ checks, Healthy k.answer) :
    scoreOf p checks = min maxScore (p + scoreDeltaSuccess * checks.length) := by
  induction checks generalizing p with
  | nil =>
    have hle := hp.2
    simp [scoreOf, hle]
  | cons k checks ih =>
    have hfirst : scoreAfter p k.answer = min (p + scoreDeltaSuccess) maxScore := by
      have hle := hp.1
      rw [scoreAfter, if_pos (h k List.mem_cons_self), clamp]
      unfold scoreDeltaSuccess maxScore
      omega
    have hrest := ih (bounded_scoreAfter p k.answer) fun x hx => h x (List.mem_cons_of_mem _ hx)
    change scoreOf (scoreAfter p k.answer) checks = _
    rw [hrest, hfirst, List.length_cons]
    push_cast
    unfold scoreDeltaSuccess
    omega

/-- **The health of a signer.** The loop checks it until a check or a sleep is interrupted, and
sets its score after each check. The times the checks are due at stay a second apart. Checks that
fail take twenty from the score each, as far as it goes, and good ones after them give one. -/
theorem health_of_history {o : Coroutine.Outcome Exception Empty}
    (ho : (pollHealthPeriodically maxScore).History es o) (hE : (paced δ).Allows es) :
    o = .waiting ∧ es = [] ∨
      ∃ (start : ℚ) (checks : List Check) (last : List (Timed Health)),
        es = ⟨start, .clock⟩ :: (events start maxScore checks ++ last) ∧
        (∀ k ∈ checks, k.answer ≠ .error cancelledError) ∧
        Last (start + checks.length) (scoreOf maxScore checks) o last ∧
        (∀ (i : ℕ) (k : Check), checks[i]? = some k → start + (i + 1) - δ ≤ k.woke) ∧
        ∀ before failing healthy, checks = before ++ failing ++ healthy →
          (∀ k ∈ failing, ¬ Healthy k.answer) → (∀ k ∈ healthy, Healthy k.answer) →
            scoreOf maxScore checks =
              min 100 (max 0 (scoreOf maxScore before - 20 * failing.length) +
                healthy.length) := by
  have hpolled : o = .waiting ∧ es = [] ∨ Polled maxScore (Last · · o) es := by
    have hat := pollHealthPeriodically_spec.history ho hE
    cases o with
    | returned x => exact x.elim
    | raised e => exact .inr hat
    | waiting => exact hat.imp (fun hnil => ⟨rfl, hnil⟩) id
  refine hpolled.imp id fun ⟨start, checks, last, hcaught, hlast, he⟩ => ?_
  refine ⟨start, checks, last, he, hcaught, hlast, fun i k hk => ?_, ?_⟩
  · have hchain : (events start maxScore checks ++ last).IsChain (Follows δ) := by
      have hpaced : es.IsChain (Follows δ) := hE
      rw [he] at hpaced
      exact hpaced.tail
    exact le_woke_of_getElem? hchain hk
  · rintro before failing healthy rfl hfailing hhealthy
    have hmax : Bounded maxScore := by unfold Bounded maxScore; omega
    have hbefore : Bounded (scoreOf maxScore before) := bounded_scoreOf hmax
    rw [scoreOf_append, scoreOf_healthy (bounded_scoreOf hmax) hhealthy, scoreOf_append,
      scoreOf_failing hbefore hfailing]
    unfold maxScore scoreDeltaFailure scoreDeltaSuccess
    omega

/-- The first check times out after a second, and the next one is there at once and good; the sleep
after it ends late. -/
def timeout : List (Timed Health) :=
  [⟨0, .clock⟩, ⟨1, .own (.healthcheck (.error "TimeoutError()"))⟩, ⟨1, .own (.scored 80)⟩,
    ⟨1, .clock⟩, ⟨1, .slept 0 (.ok ())⟩, ⟨1.25, .own (.healthcheck (.ok ⟨"UP", "UP"⟩))⟩,
    ⟨1.25, .own (.scored 81)⟩, ⟨1.25, .clock⟩, ⟨2.5, .slept 0.75 (.ok ())⟩]

lemma history_timeout : (pollHealthPeriodically maxScore).History timeout .waiting := by
  unfold Coroutine.History
  decide +kernel

lemma length_events (checks : List Check) : (events n p checks).length = 4 * checks.length := by
  induction checks generalizing n p with
  | nil => rfl
  | cons k checks ih =>
    have hround : (k.events (n + 1) p).length = 4 := rfl
    rw [events, List.length_append, ih, hround, List.length_cons]
    omega

lemma length_last {last : List (Timed Health)} (h : Last n p .waiting last) : last.length ≤ 3 := by
  cases h <;> simp [Check.request]

/-- Two checks are all that has happened. -/
lemma checks_of_timeout {start : ℚ} {checks : List Check} {last : List (Timed Health)}
    (he : timeout = ⟨start, .clock⟩ :: (events start maxScore checks ++ last))
    (hlast : Last n p .waiting last) : start = 0 ∧ ∃ k k', checks = [k, k'] ∧
      k.answer = .error "TimeoutError()" ∧ k'.answer = .ok ⟨"UP", "UP"⟩ := by
  have hlength := congrArg List.length he
  have hthree := length_last hlast
  rw [List.length_cons, List.length_append, length_events] at hlength
  have htwo : checks.length = 2 := by
    have hnine : timeout.length = 9 := rfl
    omega
  obtain ⟨k, k', rfl⟩ := List.length_eq_two.mp htwo
  simp only [timeout, events, Check.events, Check.request, List.cons_append, List.nil_append,
    List.cons.injEq, Timed.mk.injEq, DoppelgangerDetector.Event.own.injEq,
    Health.healthcheck.injEq] at he
  exact ⟨he.1.1.symm, k, k', rfl, he.2.1.2.symm, he.2.2.2.2.2.1.2.symm⟩

theorem health_of_history_timeout : ∃ k k' : Check, ∃ last,
    timeout = ⟨0, .clock⟩ :: (events 0 maxScore [k, k'] ++ last) ∧
      (1 : ℚ) - 0.001 ≤ k.woke ∧ (2 : ℚ) - 0.001 ≤ k'.woke ∧ scoreOf maxScore [k, k'] = 81 := by
  have hpaced : (paced 0.001).Allows timeout := by
    change timeout.IsChain (Follows 0.001)
    simp only [timeout, List.isChain_cons_cons, Follows, DoppelgangerDetector.Event.slept.injEq,
      reduceCtorEq]
    norm_num
  rcases health_of_history history_timeout hpaced with ⟨-, hnil⟩ | hchecks
  · cases hnil
  · obtain ⟨start, checks, last, he, -, hlast, hdue, hscore⟩ := hchecks
    obtain ⟨rfl, k, k', rfl, hfailed, hgood⟩ := checks_of_timeout he hlast
    refine ⟨k, k', last, he, ?_, ?_, ?_⟩
    · have hfirst := hdue 0 k rfl
      norm_num at hfirst ⊢
      exact hfirst
    · have hsecond := hdue 1 k' rfl
      norm_num at hsecond ⊢
      exact hsecond
    · have hup : ∀ x ∈ [k'], Healthy x.answer := by
        intro x hx
        rw [List.mem_singleton.mp hx, hgood]
        decide
      rw [hscore [] [k] [k'] rfl (by simp [hfailed, Healthy]) hup]
      rfl

end Vero.RemoteSigner
