import Vero.CheckpointConfirmation
import Vero.DoppelgangerDetector
import Vero.Lib.Pacing

/-!
The polling loops of a beacon node: `wait_for_attestation_data` and `wait_for_checkpoints`.

Each asks for the attestation data of one slot, round after round, until an answer is the expected
one, and waits in between so that no two requests start too soon after one another.
-/

namespace Vero.BeaconNode

open Lib Lib.Pacing SchemaBeaconAPI
open DoppelgangerDetector (Exception Timed Program clock sleep passOn paced Follows readsClock
  sleepsFor readsClock_eq_some sleepsFor_eq_some passOn_ok passOn_error)

/-- A request for attestation data has been answered. -/
structure Answered where
  slot : ℤ
  answer : Except String AttestationData
  deriving DecidableEq

def asksAttestationData (slot : ℤ) (ev : Timed Answered) :
    Option (Except Exception AttestationData) :=
  match ev.event with
  | .own x => if x.slot = slot then some (passOn x.answer) else none
  | _ => none

def produceAttestationData (slot : ℤ) : Program Answered AttestationData :=
  .await (asksAttestationData slot)

def cancelledError : String := "CancelledError"

/-- `except Exception`, which a cancellation is not. -/
def exceptException {κ α : Type} (c : Program κ α) : Program κ (Option α) :=
  Coroutine.tryCatch (c >>= fun a => pure (some a)) fun e =>
    if e = .foreign cancelledError then .raise e else pure none

variable {β : Type}

/-- Asks until an answer is accepted, every 50 ms at most. -/
def waitFor (slot : ℤ) (accept : AttestationData → Option β) : Program Answered β :=
  Coroutine.loop (fun _ => do
    let requestStartTime ← clock
    let attData ← exceptException (produceAttestationData slot)
    match attData.bind accept with
    | some b => pure (.inr b)
    | none => do
      let time ← clock
      sleep (max (0.05 - (time - requestStartTime)) 0)
      pure (.inl ())) ()

def waitForAttestationData (expectedHeadBlockRoot : Root) (slot : ℤ) :
    Program Answered AttestationData :=
  waitFor slot fun d => if d.beaconBlockRoot = expectedHeadBlockRoot then some d else none

def waitForCheckpoints (slot : ℤ) (expectedSourceCp expectedTargetCp : Checkpoint) :
    Program Answered Unit :=
  waitFor slot fun d =>
    if d.source = expectedSourceCp ∧ d.target = expectedTargetCp then some () else none

/-! ### Rounds -/

/-- A request that did not bring what was waited for, and the sleep after it. -/
structure Round where
  start : ℚ
  answered : ℚ
  answer : Except String AttestationData
  checked : ℚ
  woke : ℚ

def Round.request (slot : ℤ) (r : Round) : List (Timed Answered) :=
  [⟨r.start, .clock⟩, ⟨r.answered, .own ⟨slot, r.answer⟩⟩, ⟨r.checked, .clock⟩]

def Round.slept (r : Round) (answer : Except String Unit) : Timed Answered :=
  ⟨r.woke, .slept (max (0.05 - (r.checked - r.start)) 0) answer⟩

def Round.events (slot : ℤ) (r : Round) : List (Timed Answered) :=
  r.request slot ++ [r.slept (.ok ())]

/-- The loop goes on after this answer: the request failed, or its data is not accepted. -/
def Missed (accept : AttestationData → Option β) : Except String AttestationData → Prop
  | .ok d => accept d = none
  | .error e => e ≠ cancelledError

/-- What has happened since the last full round, and what the loop has come to. -/
inductive Last (slot : ℤ) (accept : AttestationData → Option β) :
    Coroutine.Outcome Exception β → List (Timed Answered) → Prop
  | beginning : Last slot accept .waiting []
  | requesting (start : ℚ) : Last slot accept .waiting [⟨start, .clock⟩]
  | missed (start answered : ℚ) (answer : Except String AttestationData)
      (missed : Missed accept answer) :
      Last slot accept .waiting [⟨start, .clock⟩, ⟨answered, .own ⟨slot, answer⟩⟩]
  | sleeping (r : Round) (missed : Missed accept r.answer) :
      Last slot accept .waiting (r.request slot)
  | returned (start answered : ℚ) (d : AttestationData) (b : β) (accepted : accept d = some b) :
      Last slot accept (.returned b) [⟨start, .clock⟩, ⟨answered, .own ⟨slot, .ok d⟩⟩]
  | cancelled (start answered : ℚ) : Last slot accept (.raised (.foreign cancelledError))
      [⟨start, .clock⟩, ⟨answered, .own ⟨slot, .error cancelledError⟩⟩]
  | interrupted (r : Round) (missed : Missed accept r.answer) (name : String) :
      Last slot accept (.raised (.foreign name)) (r.request slot ++ [r.slept (.error name)])

/-- Rounds that brought nothing, and the last one. -/
def Polled (slot : ℤ) (accept : AttestationData → Option β)
    (L : List (Timed Answered) → Prop) (es : List (Timed Answered)) : Prop :=
  ∃ (rounds : List Round) (last : List (Timed Answered)),
    (∀ r ∈ rounds, Missed accept r.answer) ∧ L last ∧
      es = rounds.flatMap (Round.events slot) ++ last

variable {slot : ℤ} {accept : AttestationData → Option β} {δ : ℚ}
variable {E : Coroutine.Environment (Timed Answered)}
variable {L L' : List (Timed Answered) → Prop} {es : List (Timed Answered)}

lemma Polled.mono (h : Polled slot accept L es) (himp : ∀ l, L l → L' l) :
    Polled slot accept L' es := by
  obtain ⟨rounds, last, hmissed, hL, he⟩ := h
  exact ⟨rounds, last, hmissed, himp last hL, he⟩

lemma Polled.append (h : Polled slot accept L es) {evs : List (Timed Answered)}
    (himp : ∀ l, L l → L' (l ++ evs)) : Polled slot accept L' (es ++ evs) := by
  obtain ⟨rounds, last, hmissed, hL, rfl⟩ := h
  exact ⟨rounds, last ++ evs, hmissed, himp last hL, by rw [List.append_assoc]⟩

/-- A round is over. -/
lemma Polled.round (h : Polled slot accept L es)
    (himp : ∀ l, L l → ∃ r : Round, Missed accept r.answer ∧ l = r.events slot) :
    Polled slot accept (· = []) es := by
  obtain ⟨rounds, last, hmissed, hL, rfl⟩ := h
  obtain ⟨r, hr, rfl⟩ := himp last hL
  refine ⟨rounds ++ [r], [], fun x hx => ?_, rfl, by simp⟩
  rcases List.mem_append.mp hx with hx | hx
  · exact hmissed x hx
  · rwa [List.mem_singleton.mp hx]

/-! ### What the loop awaits -/

lemma asksAttestationData_eq_some {ev : Timed Answered} {x : Except Exception AttestationData}
    (h : asksAttestationData slot ev = some x) :
    ∃ answer, ev.event = .own ⟨slot, answer⟩ ∧ passOn answer = x := by
  obtain ⟨time, event⟩ := ev
  cases event with
  | own y =>
    obtain ⟨asked, answer⟩ := y
    by_cases hs : asked = slot
    · exact ⟨answer, by rw [hs], by simpa [asksAttestationData, hs] using h⟩
    · simp [asksAttestationData, hs] at h
  | clock | slept | liveness => cases h

/-- What the request comes to, and how it was answered. -/
def Outcome (answer : Except String AttestationData) : Option AttestationData → Prop
  | some d => answer = .ok d
  | none => ∃ e, answer = .error e ∧ e ≠ cancelledError

/-- The history ends with the answer to a request. -/
def Asked (slot : ℤ) (P : List (Timed Answered) → Prop)
    (good : Except String AttestationData → Prop) (h : List (Timed Answered)) : Prop :=
  ∃ pre t answer, P pre ∧ good answer ∧ h = pre ++ [⟨t, .own ⟨slot, answer⟩⟩]

lemma exceptException_spec {P : List (Timed Answered) → Prop} :
    Coroutine.Triple E P (exceptException (produceAttestationData slot))
      ⟨fun attData => Asked slot P (Outcome · attData),
        fun e h => e = .foreign cancelledError ∧ Asked slot P (· = .error cancelledError) h,
        P⟩ := by
  refine Coroutine.Triple.tryCatch
    (N := fun e h => ∃ name, e = .foreign name ∧ Asked slot P (· = .error name) h) ?_ fun e => ?_
  · refine Coroutine.Triple.bind (M := fun d => Asked slot P (· = .ok d)) ?_ fun d => ?_
    · refine .await (fun _ h _ => h) (fun h ev d hP _ ha => ?_) fun h ev e hP _ ha => ?_
      · obtain ⟨answer, hev, hanswer⟩ := asksAttestationData_eq_some ha
        exact ⟨h, ev.time, answer, hP, passOn_ok hanswer, by rw [← hev]⟩
      · obtain ⟨answer, hev, hanswer⟩ := asksAttestationData_eq_some ha
        obtain ⟨name, he, herror⟩ := passOn_error hanswer
        exact ⟨name, he, h, ev.time, answer, hP, herror, by rw [← hev]⟩
    · exact .pure fun _ h _ => h
  · by_cases he : e = .foreign cancelledError
    · rw [if_pos he]
      refine .raise fun h ⟨name, hname, hasked⟩ _ => ⟨he, ?_⟩
      obtain rfl : name = cancelledError := Exception.foreign.inj (hname.symm.trans he)
      exact hasked
    · rw [if_neg he]
      refine .pure fun h ⟨name, hname, pre, t, answer, hP, hgood, hh⟩ _ => ?_
      have hother : name ≠ cancelledError := fun hsame => he (hname.trans (by rw [hsame]))
      exact ⟨pre, t, answer, hP, ⟨name, hgood, hother⟩, hh⟩

/-- **The loop.** Whatever it comes to, it has been through rounds that brought nothing. -/
lemma waitFor_spec : Coroutine.Triple E (· = []) (waitFor slot accept)
    ⟨fun b => Polled slot accept (Last slot accept (.returned b)),
      fun e => Polled slot accept (Last slot accept (.raised e)),
      Polled slot accept (Last slot accept .waiting)⟩ := by
  refine Coroutine.Triple.imp (P := Polled slot accept (· = []))
    (Coroutine.Triple.loop (I := fun _ => Polled slot accept (· = [])) (fun _ => ?_) ())
    (fun h hnil => ⟨[], [], by simp, rfl, by simpa using hnil⟩) (fun _ _ _ h => h)
    (fun _ _ _ h => h) fun _ _ h => h
  refine Coroutine.Triple.bind
    (M := fun start => Polled slot accept (· = [⟨start, .clock⟩])) ?_ fun start => ?_
  · refine .await (fun _ h _ => h.mono fun l hl => hl ▸ .beginning) (fun h ev t hP _ ha => ?_)
      fun h ev e _ _ ha => ?_
    · obtain ⟨hev, ht⟩ := readsClock_eq_some ha
      obtain rfl := Except.ok.inj ht
      exact hP.append fun l hl => by rw [hl, ← hev, List.nil_append]
    · cases (readsClock_eq_some ha).2
  refine Coroutine.Triple.bind (M := fun attData => Asked slot
    (Polled slot accept (· = [⟨start, .clock⟩])) (Outcome · attData)) ?_ fun attData => ?_
  · refine exceptException_spec.imp (fun _ h => h) (fun _ _ _ h => h) (fun e h _ hraised => ?_)
      fun _ _ h => h.mono fun l hl => hl ▸ .requesting start
    obtain ⟨rfl, pre, t, answer, hP, rfl, rfl⟩ := hraised
    exact hP.append fun l hl => hl ▸ .cancelled start t
  cases hb : attData.bind accept with
  | some b =>
    refine .pure fun h ⟨pre, t, answer, hP, houtcome, hh⟩ _ => ?_
    obtain ⟨d, rfl, hd⟩ := Option.bind_eq_some_iff.mp hb
    obtain rfl : answer = .ok d := houtcome
    rw [hh]
    exact hP.append fun l hl => hl ▸ .returned start t d b hd
  | none =>
    have hmissed : ∀ answer, Outcome answer attData → Missed accept answer := by
      intro answer houtcome
      cases attData with
      | some d =>
        obtain rfl : answer = .ok d := houtcome
        exact hb
      | none =>
        obtain ⟨e, rfl, he⟩ := houtcome
        exact he
    refine Coroutine.Triple.bind (M := fun time => Polled slot accept fun l =>
      ∃ r : Round, r.start = start ∧ r.checked = time ∧ Missed accept r.answer ∧
        l = r.request slot) ?_ fun time => ?_
    · refine .await (fun h ⟨pre, t, answer, hP, houtcome, hh⟩ _ => ?_)
        (fun h ev t ⟨pre, answered, answer, hP, houtcome, hh⟩ _ ha => ?_)
        fun h ev e _ _ ha => ?_
      · rw [hh]
        exact hP.append fun l hl => hl ▸ .missed start t answer (hmissed answer houtcome)
      · obtain ⟨hev, ht⟩ := readsClock_eq_some ha
        obtain rfl := Except.ok.inj ht
        rw [hh, List.append_assoc]
        refine Polled.append hP fun l hl => ?_
        exact ⟨⟨start, answered, answer, ev.time, ev.time⟩, rfl, rfl, hmissed answer houtcome, by
          rw [hl, hev]; rfl⟩
      · cases (readsClock_eq_some ha).2
    refine Coroutine.Triple.bind (M := fun _ => Polled slot accept (· = [])) ?_ fun _ =>
      .pure fun _ h _ => h
    -- the round ends with the sleep, whose time it did not know before
    have hslept : ∀ {h ev answer}, Polled slot accept (fun l => ∃ r : Round, r.start = start ∧
          r.checked = time ∧ Missed accept r.answer ∧ l = r.request slot) h →
        ev.event = .slept (max (0.05 - (time - start)) 0) answer →
        Polled slot accept (fun l => ∃ r : Round, Missed accept r.answer ∧
          l = r.request slot ++ [r.slept answer]) (h ++ [ev]) := by
      intro h ev answer hP hev
      refine hP.append fun l ⟨r, hstart, hchecked, hr, hl⟩ => ?_
      refine ⟨{ r with woke := ev.time }, hr, ?_⟩
      have hlast : ev = Round.slept { r with woke := ev.time } answer := by
        rw [Round.slept, hstart, hchecked, ← hev]
      rw [hl, ← hlast]
      rfl
    refine .await (fun h hP _ => hP.mono fun l ⟨r, _, _, hr, hl⟩ => hl ▸ .sleeping r hr)
      (fun h ev u hP _ ha => ?_) fun h ev e hP _ ha => ?_
    · obtain ⟨answer, hev, hanswer⟩ := sleepsFor_eq_some ha
      obtain rfl : answer = .ok u := passOn_ok hanswer
      exact (hslept hP hev).round fun l hl => hl
    · obtain ⟨answer, hev, hanswer⟩ := sleepsFor_eq_some ha
      obtain ⟨name, rfl, rfl⟩ := passOn_error hanswer
      exact (hslept hP hev).mono fun l ⟨r, hr, hl⟩ => hl ▸ .interrupted r hr name

/-! ### The pace of the requests -/

/-- When the requests were started. -/
def starts (rounds : List Round) (last : List (Timed Answered)) : List ℚ :=
  rounds.map Round.start ++ (last.head?.map Timed.time).toList

lemma head?_starts (slot : ℤ) (rounds : List Round) (last : List (Timed Answered)) :
    (starts rounds last).head? =
      (rounds.flatMap (Round.events slot) ++ last).head?.map Timed.time := by
  cases rounds with
  | nil => cases last <;> rfl
  | cons r rounds => rfl

/-- A round with its sleep takes 50 ms, less what the sleep is too short by. -/
lemma Round.le_woke (r : Round) (h : (r.events slot).IsChain (Follows δ)) :
    r.start + (0.05 - δ) ≤ r.woke := by
  have hsplit : r.events slot = [⟨r.start, .clock⟩, ⟨r.answered, .own ⟨slot, r.answer⟩⟩] ++
      [⟨r.checked, .clock⟩, r.slept (.ok ())] := rfl
  rw [hsplit] at h
  have hslept := h.right_of_append
  have hlate := (List.isChain_pair.mp hslept).2 _ rfl
  have hdelay := le_max_left (0.05 - (r.checked - r.start)) 0
  dsimp only [Round.slept] at hlate
  linarith

lemma spaced_starts {rounds : List Round} {last : List (Timed Answered)}
    (h : (rounds.flatMap (Round.events slot) ++ last).IsChain (Follows δ)) :
    Spaced (0.05 - δ) (starts rounds last) := by
  induction rounds with
  | nil => cases last <;> simp [starts, Spaced]
  | cons r rounds ih =>
    rw [List.flatMap_cons, List.append_assoc] at h
    have hround : r.start + (0.05 - δ) ≤ r.woke := r.le_woke h.left_of_append
    refine List.isChain_cons.mpr ⟨fun t ht => ?_, ih h.right_of_append⟩
    change t ∈ (starts rounds last).head? at ht
    rw [head?_starts slot] at ht
    obtain ⟨ev, hev, rfl⟩ := Option.map_eq_some_iff.mp ht
    obtain ⟨rest, hrest⟩ : ∃ rest, rounds.flatMap (Round.events slot) ++ last = ev :: rest :=
      ⟨_, (List.eq_cons_of_mem_head? hev)⟩
    rw [hrest] at h
    have hnext : [r.slept (.ok ()), ev].IsChain (Follows δ) := by
      have hsplit : r.events slot ++ ev :: rest =
          r.request slot ++ ([r.slept (.ok ()), ev] ++ rest) := by
        rw [Round.events, List.append_assoc]
        rfl
      rw [hsplit] at h
      exact h.right_of_append.left_of_append
    have hmono := (List.isChain_pair.mp hnext).1
    exact hround.trans hmono

lemma polled_of_history {E : Coroutine.Environment (Timed Answered)}
    {o : Coroutine.Outcome Exception β} (ho : (waitFor slot accept).History es o)
    (hE : E.Allows es) : Polled slot accept (Last slot accept o) es := by
  have hat := waitFor_spec.history ho hE
  cases o with
  | returned b | raised e | waiting => exact hat

/-- **Polling.** The loop ends with the first answer that is accepted, or where it is cancelled;
all its requests are for the slot; and in a span of time it starts no more of them than one
every 50 ms. -/
theorem polling_of_history {o : Coroutine.Outcome Exception β} (hδ : δ ≤ 0.05)
    (ho : (waitFor slot accept).History es o) (hE : (paced δ).Allows es) :
    ∃ (rounds : List Round) (last : List (Timed Answered)),
      es = rounds.flatMap (Round.events slot) ++ last ∧
      (∀ r ∈ rounds, Missed accept r.answer) ∧ Last slot accept o last ∧
      ∀ a b : ℚ, a ≤ b →
        ((starts rounds last).filter fun t => a ≤ t ∧ t ≤ b).length • (0.05 - δ) ≤
          b - a + (0.05 - δ) := by
  obtain ⟨rounds, last, hmissed, hlast, rfl⟩ := polled_of_history ho hE
  have hspaced := spaced_starts hE
  exact ⟨rounds, last, rfl, hmissed, hlast, fun a b hab =>
    hspaced.count_le (sub_nonneg.mpr hδ) hab⟩

/-! ### What the provider makes of the answers -/

def answers (es : List (Timed Answered)) : List (Except String AttestationData) :=
  es.filterMap fun ev =>
    match ev.event with
    | .own x => some x.answer
    | _ => none

/-- The node gives the call one answer after the other. -/
def respondAll (s : AttestationDataProvider.State) (id : ℕ) (host : Host)
    (answers : List (Except String AttestationData)) : Option AttestationDataProvider.State :=
  answers.foldlM (fun s answer =>
    (s.calls.get id).bind fun c => s.respond id c host answer.toOption) s

lemma answers_rounds (rounds : List Round) :
    answers (rounds.flatMap (Round.events slot)) = rounds.map Round.answer := by
  induction rounds with
  | nil => rfl
  | cons r rounds ih =>
    have hround : answers (r.events slot) = [r.answer] := rfl
    unfold answers at ih hround ⊢
    rw [List.flatMap_cons, List.filterMap_append, hround, ih]
    rfl

lemma answers_append (es es' : List (Timed Answered)) :
    answers (es ++ es') = answers es ++ answers es' := List.filterMap_append

section Provider

variable {s : AttestationDataProvider.State} {c : AttestationDataProvider.Call} {id : ℕ}
variable {host : Host}

/-- How a call takes the answers of one node: passing over those that are not accepted, until one
is, which it keeps. -/
structure Takes (s : AttestationDataProvider.State) (id : ℕ)
    (c : AttestationDataProvider.Call) (host : Host) (accept : AttestationData → Option β)
    (done : β → AttestationDataProvider.State) : Prop where
  get : s.calls.get id = some c
  missed : ∀ d, accept d = none → s.respond id c host (some d) = some s
  failed : s.respond id c host none = some s
  accepted : ∀ d b, accept d = some b → s.respond id c host (some d) = some (done b)
  moves : ∀ b, done b ≠ s
  injective : Function.Injective done

variable {done : β → AttestationDataProvider.State}

/-- An answer that is not accepted, be it a cancellation. -/
def Passed (accept : AttestationData → Option β) : Except String AttestationData → Prop
  | .ok d => accept d = none
  | .error _ => True

lemma Missed.passed {answer : Except String AttestationData} (h : Missed accept answer) :
    Passed accept answer := by
  cases answer with
  | ok d => exact h
  | error e => exact trivial

lemma Takes.respondAll_passed (h : Takes s id c host accept done)
    {l : List (Except String AttestationData)} (hl : ∀ answer ∈ l, Passed accept answer) :
    respondAll s id host l = some s := by
  induction l with
  | nil => rfl
  | cons answer l ih =>
    have hpassed := hl answer List.mem_cons_self
    have hfirst : (s.calls.get id).bind (fun c => s.respond id c host answer.toOption) =
        some s := by
      rw [h.get]
      cases answer with
      | ok d => exact h.missed d hpassed
      | error e => exact h.failed
    have hrest := ih fun x hx => hl x (List.mem_cons_of_mem _ hx)
    unfold respondAll at hrest ⊢
    rw [List.foldlM_cons, hfirst]
    exact hrest

/-- What the answers of a history make of the call, as far as the loop has come. -/
lemma Takes.respondAll_polled (h : Takes s id c host accept done)
    {o : Coroutine.Outcome Exception β} (hpolled : Polled slot accept (Last slot accept o) es) :
    respondAll s id host (answers es) = some (match o with
      | .returned b => done b
      | .raised _ | .waiting => s) := by
  obtain ⟨rounds, last, hmissed, hlast, rfl⟩ := hpolled
  have hrounds : ∀ answer ∈ rounds.map Round.answer, Passed accept answer :=
    List.forall_mem_map.mpr fun r hr => (hmissed r hr).passed
  have hthen : ∀ l : List (Except String AttestationData),
      respondAll s id host (rounds.map Round.answer ++ l) = respondAll s id host l := by
    intro l
    have hfirst := h.respondAll_passed hrounds
    unfold respondAll at hfirst ⊢
    rw [List.foldlM_append, hfirst]
    rfl
  rw [answers_append, answers_rounds, hthen]
  cases hlast with
  | beginning | requesting => rfl
  | missed start answered answer hmiss =>
    exact h.respondAll_passed (l := [answer]) (by simpa using hmiss.passed)
  | sleeping r hmiss | interrupted r hmiss name =>
    exact h.respondAll_passed (l := [r.answer]) (by simpa using hmiss.passed)
  | cancelled =>
    exact h.respondAll_passed (l := [.error cancelledError]) (by simp [Passed])
  | returned start answered d b hd =>
    change ((s.calls.get id).bind fun c => s.respond id c host (some d)).bind _ = _
    rw [h.get, Option.bind_some, h.accepted d b hd]
    rfl

/-- **The call knows the task by its answers.** -/
lemma Takes.respondAll_iff (h : Takes s id c host accept done)
    {o : Coroutine.Outcome Exception β} (ho : (waitFor slot accept).History es o) :
    (∀ b, o = .returned b ↔ respondAll s id host (answers es) = some (done b)) ∧
      ((∀ b, o ≠ .returned b) ↔ respondAll s id host (answers es) = some s) := by
  rw [h.respondAll_polled (polled_of_history (E := .all) ho trivial)]
  cases o with
  | returned b =>
    refine ⟨fun b' => ?_, ?_⟩
    · simp only [Coroutine.Outcome.returned.injEq, Option.some.injEq]
      exact h.injective.eq_iff.symm
    · simp only [ne_eq, Coroutine.Outcome.returned.injEq, forall_eq', Option.some.injEq, false_iff]
      exact h.moves b
  | raised e | waiting =>
    refine ⟨fun b => ?_, by simp⟩
    simp only [reduceCtorEq, Option.some.injEq, false_iff]
    exact (h.moves b).symm

lemma get_setPhase (phase : AttestationDataProvider.Phase) :
    (s.setPhase id c phase).calls.get id = some { c with phase } := by
  unfold AttestationDataProvider.State.setPhase
  rw [Dict.get_set, if_pos rfl]

/-- A call is moved by a phase other than its own. -/
lemma setPhase_ne {phase : AttestationDataProvider.Phase} (hc : s.calls.get id = some c)
    (h : phase ≠ c.phase) : s.setPhase id c phase ≠ s := by
  intro he
  have hget := @get_setPhase s c id phase
  rw [he, hc] at hget
  exact h (congrArg AttestationDataProvider.Call.phase (Option.some.inj hget)).symm

lemma setPhase_inj {phase phase' : AttestationDataProvider.Phase}
    (h : s.setPhase id c phase = s.setPhase id c phase') : phase = phase' := by
  have hsame := @get_setPhase s c id phase
  rw [h, get_setPhase] at hsame
  exact (congrArg AttestationDataProvider.Call.phase (Option.some.inj hsame)).symm

lemma erase_ne {tasks : List Host} (h : host ∈ tasks) : tasks.erase host ≠ tasks := by
  intro he
  have hlength := List.length_erase_of_mem h
  have hpos := List.length_pos_of_mem h
  rw [he] at hlength
  omega

lemma takes_waitForAttestationData {root : Root} {tasks : List Host} {ready : List AttestationData}
    (hc : s.calls.get id = some c) (hhost : host ∈ tasks)
    (hroot : c.headEventBlockRoot = some root)
    (hphase : c.phase = .waitingForAttestationData tasks ready) :
    Takes s id c host (fun d => if d.beaconBlockRoot = root then some d else none)
      fun d => s.setPhase id c (.waitingForAttestationData (tasks.erase host) (ready ++ [d])) where
  get := hc
  missed d hmissed := by
    have hne : d.beaconBlockRoot ≠ root := fun he => by simp [he] at hmissed
    unfold AttestationDataProvider.State.respond
    simp [hphase, hhost, hroot, Option.filter_some, hne]
  failed := by
    unfold AttestationDataProvider.State.respond
    simp [hphase, hhost]
  accepted d b hd := by
    have heq : d.beaconBlockRoot = root ∧ d = b := by simpa using hd
    unfold AttestationDataProvider.State.respond
    rw [← heq.2]
    simp [hphase, hhost, hroot, Option.filter_some, heq.1]
  moves d := by
    refine setPhase_ne hc fun he => erase_ne hhost ?_
    rw [hphase] at he
    exact (AttestationDataProvider.Phase.waitingForAttestationData.inj he).1
  injective d d' he := by
    have hphases := setPhase_inj he
    have hready := (AttestationDataProvider.Phase.waitingForAttestationData.inj hphases).2
    simpa using hready

lemma takes_waitForCheckpoints {attData : AttestationData} {tasks confirmed confirmations :
    List Host} (hc : s.calls.get id = some c) (hhost : host ∈ tasks)
    (hphase : c.phase = .confirming attData tasks confirmed confirmations) :
    Takes s id c host
      (fun d => if d.source = attData.source ∧ d.target = attData.target then some () else none)
      fun _ => s.setPhase id c
        (.confirming attData (tasks.erase host) (confirmed ++ [host]) confirmations) where
  get := hc
  missed d hmissed := by
    have hne : ¬ (d.source = attData.source ∧ d.target = attData.target) := fun he => by
      simp [he] at hmissed
    have hpass : (some d).filter (fun d => d.source = attData.source ∧
        d.target = attData.target) = none := by
      rw [Option.filter_some, if_neg (by simpa using hne)]
    unfold AttestationDataProvider.State.respond
    simp only [hphase, hhost, hpass, if_true]
  failed := by
    unfold AttestationDataProvider.State.respond
    simp [hphase, hhost]
  accepted d b hd := by
    have heq : d.source = attData.source ∧ d.target = attData.target := by simpa using hd
    have hpass : (some d).filter (fun d => d.source = attData.source ∧
        d.target = attData.target) = some d := by
      rw [Option.filter_some, if_pos (by simpa using heq)]
    unfold AttestationDataProvider.State.respond
    simp only [hphase, hhost, hpass, if_true]
  moves _ := by
    refine setPhase_ne hc fun he => erase_ne hhost ?_
    rw [hphase] at he
    exact (AttestationDataProvider.Phase.confirming.inj he).2.1
  injective _ _ _ := rfl

/-- **The tasks of a call are the loops of its nodes.** A call that is given the answers of one of
its nodes, in the order in which the loop of that node had them, finds the task done exactly
where the loop has returned, with what it returned, and is as it was exactly where the loop has
not: where it goes on, and where it was cancelled. -/
theorem respond_of_history {tasks : List Host} (hc : s.calls.get id = some c)
    (hhost : host ∈ tasks) :
    (∀ root ready o, c.headEventBlockRoot = some root →
      c.phase = .waitingForAttestationData tasks ready →
      (waitForAttestationData root c.slot).History es o →
        (∀ d, o = .returned d ↔ respondAll s id host (answers es) =
          some (s.setPhase id c
            (.waitingForAttestationData (tasks.erase host) (ready ++ [d])))) ∧
        ((∀ d, o ≠ .returned d) ↔ respondAll s id host (answers es) = some s)) ∧
    ∀ attData confirmed confirmations o,
      c.phase = .confirming attData tasks confirmed confirmations →
      (waitForCheckpoints c.slot attData.source attData.target).History es o →
        (o = .returned () ↔ respondAll s id host (answers es) = some (s.setPhase id c
          (.confirming attData (tasks.erase host) (confirmed ++ [host]) confirmations))) ∧
        (o ≠ .returned () ↔ respondAll s id host (answers es) = some s) := by
  refine ⟨fun root ready o hroot hphase ho => ?_, fun attData confirmed confirmations o hphase ho =>
    ?_⟩
  · exact (takes_waitForAttestationData hc hhost hroot hphase).respondAll_iff ho
  · obtain ⟨hreturned, hnot⟩ := (takes_waitForCheckpoints hc hhost hphase).respondAll_iff ho
    exact ⟨hreturned (), ⟨fun h => hnot.mp fun _ => h, fun h => hnot.mpr h ()⟩⟩

end Provider

/-! ### Two requests -/

/-- The first request times out after 10 ms, and the second is answered. -/
def secondTry (d : AttestationData) : List (Timed Answered) :=
  [⟨0, .clock⟩, ⟨0.01, .own ⟨96, .error "TimeoutError()"⟩⟩, ⟨0.01, .clock⟩,
    ⟨0.051, .slept 0.04 (.ok ())⟩, ⟨0.051, .clock⟩, ⟨0.06, .own ⟨96, .ok d⟩⟩]

def headData : AttestationData := ⟨"96", "0", "0x1", ⟨"1", "0xs1"⟩, ⟨"2", "0xt2"⟩⟩

lemma history_secondTry : (waitForAttestationData "0x1" 96).History (secondTry headData)
    (.returned headData) := by
  unfold Coroutine.History
  decide +kernel

theorem polling_of_history_secondTry : ∃ (rounds : List Round) (last : List (Timed Answered)),
    secondTry headData = rounds.flatMap (Round.events 96) ++ last ∧
      ((starts rounds last).filter fun t => (0 : ℚ) ≤ t ∧ t ≤ 0.06).length • ((0.05 : ℚ) - 0.002) ≤
        0.06 - 0 + (0.05 - 0.002) := by
  have hpaced : (paced 0.002).Allows (secondTry headData) := by
    change (secondTry headData).IsChain (Follows 0.002)
    simp only [secondTry, List.isChain_cons_cons, Follows, DoppelgangerDetector.Event.slept.injEq,
      reduceCtorEq]
    norm_num
  obtain ⟨rounds, last, he, -, -, hcount⟩ :=
    polling_of_history (by norm_num) history_secondTry hpaced
  exact ⟨rounds, last, he, hcount 0 0.06 (by norm_num)⟩

/-- A call of which two nodes are asked. -/
def waitingCall : AttestationDataProvider.Call :=
  ⟨96, some "0x1", .waitingForAttestationData ["a", "b"] []⟩

def waitingState : AttestationDataProvider.State :=
  { AttestationDataProvider.State.init AttestationDataProvider.twoNodes with
    calls := (∅ : Dict ℕ AttestationDataProvider.Call).set 0 waitingCall }

/-- The loop is cancelled while it sleeps after the first request. -/
def cutShort : List (Timed Answered) :=
  [⟨0, .clock⟩, ⟨0.01, .own ⟨96, .error "TimeoutError()"⟩⟩, ⟨0.01, .clock⟩,
    ⟨0.02, .slept 0.04 (.error cancelledError)⟩]

lemma history_cutShort : (waitForAttestationData "0x1" 96).History cutShort
    (.raised (.foreign cancelledError)) := by
  unfold Coroutine.History
  decide +kernel

theorem respond_of_history_secondTry :
    respondAll waitingState 0 "a" (answers (secondTry headData)) =
        some (waitingState.setPhase 0 waitingCall (.waitingForAttestationData ["b"] [headData])) ∧
      respondAll waitingState 0 "a" (answers cutShort) = some waitingState := by
  constructor
  · exact (((@respond_of_history _ waitingState waitingCall 0 "a" ["a", "b"] rfl (by decide)).1
      "0x1" [] (.returned headData) rfl rfl history_secondTry).1 headData).mp rfl
  · exact ((@respond_of_history _ waitingState waitingCall 0 "a" ["a", "b"] rfl (by decide)).1
      "0x1" [] _ rfl rfl history_cutShort).2.mp nofun

end Vero.BeaconNode
