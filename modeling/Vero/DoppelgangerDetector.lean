import Mathlib.Tactic.Linarith
import Mathlib.Tactic.NormNum
import Vero.Context
import Vero.Lib.Coroutines

/-!
`DoppelgangerDetector`: watching the own validators for two epochs before performing duties.

The detector is told by its history: the clock as it was read, the times it slept, and the
answers of the beacon node. The liveness of the epoch after the present one is asked for when
that epoch has passed, and once more when its attestations can be included no longer.
-/

namespace Vero.DoppelgangerDetector

open Lib

inductive Exception
  | doppelgangersDetected
  | runtimeError (text : String)
  | foreign (name : String)
  deriving DecidableEq

structure ValidatorLiveness where
  index : String
  isLive : Bool
  deriving DecidableEq

/-- What a process is through. Besides the events of the detector it has its own. -/
inductive Event (κ : Type)
  | clock
  | slept (delay : ℚ) (answer : Except String Unit)
  | liveness (epoch : ℤ) (validatorIndices : List ℕ)
      (answer : Except String (List ValidatorLiveness))
  | own (event : κ)
  deriving DecidableEq

structure Timed (κ : Type) where
  time : ℚ
  event : Event κ
  deriving DecidableEq

abbrev Program (κ α : Type) := Coroutine (Timed κ) Exception α

variable {κ : Type}

/-- An exception of the code that is awaited. -/
def passOn {α : Type} : Except String α → Except Exception α := Except.mapError .foreign

def readsClock (ev : Timed κ) : Option (Except Exception ℚ) :=
  match ev.event with
  | .clock => some (.ok ev.time)
  | _ => none

def sleepsFor (delay : ℚ) (ev : Timed κ) : Option (Except Exception Unit) :=
  match ev.event with
  | .slept d answer => if d = delay then some (passOn answer) else none
  | _ => none

def asksLiveness (epoch : ℤ) (validatorIndices : List ℕ) (ev : Timed κ) :
    Option (Except Exception (List ValidatorLiveness)) :=
  match ev.event with
  | .liveness e indices answer =>
    if e = epoch ∧ indices = validatorIndices then some (passOn answer) else none
  | _ => none

/-- `time.time()`. -/
def clock : Program κ ℚ := .await readsClock

/-- `asyncio.sleep()`. -/
def sleep (delay : ℚ) : Program κ Unit := .await (sleepsFor delay)

/-- `asyncio.sleep(ts - time.time())`. -/
def sleepUntil (ts : ℚ) : Program κ Unit := do sleep (ts - (← clock))

def getLiveness (epoch : ℤ) (validatorIndices : List ℕ) : Program κ (List ValidatorLiveness) :=
  .await (asksLiveness epoch validatorIndices)

section

variable (b : BeaconChain)

/-- A slightly more accurate version of `asyncio.sleep()`, which can be off by 16ms. -/
def preciseWaitForTimestamp (timestamp : ℤ) : Program κ Unit := do
  let time ← clock
  let delay := timestamp - time
  sleep (delay - 0.016)
  Coroutine.loop (fun _ => do
    if (← clock) < timestamp then
      sleep 0
      pure (.inl ())
    else
      pure (.inr ())) ()

def waitForEpoch (epoch : ℤ) : Program κ Unit :=
  preciseWaitForTimestamp (b.getTimestampForSlot (epoch * b.slotsPerEpoch))

def fetchLivenessData (epoch : ℤ) (validatorIndices : List ℕ) :
    Program κ (List ValidatorLiveness) :=
  getLiveness epoch validatorIndices

def processLivenessData (livenessData : List ValidatorLiveness) : Program κ Unit :=
  if livenessData.any (·.isLive) then .raise .doppelgangersDetected else pure ()

def raiseIfDoppelgangerDetected (epoch : ℤ) (validatorIndices : List ℕ) : Program κ Unit := do
  processLivenessData (← fetchLivenessData epoch validatorIndices)

/-- The middle of the last slot whose block may include an attestation of the epoch. -/
def tsToWaitFor (epochToMonitorForAttestations : ℤ) : ℚ :=
  let lastSlotInNextEpoch := (epochToMonitorForAttestations + 2) * b.slotsPerEpoch - 1
  b.getTimestampForSlot lastSlotInNextEpoch + (b.secondsPerSlot : ℚ) / 2

/-- `detect`, for the active or pending validators at its start. -/
def detect (validatorIndices : List ℕ) : Program κ Unit := do
  let currentEpoch := b.currentEpoch (← clock)
  -- the answer is not looked at: this only checks that the endpoint works
  let _ ← fetchLivenessData currentEpoch validatorIndices
  let epochToMonitorForAttestations := currentEpoch + 1
  waitForEpoch b epochToMonitorForAttestations
  waitForEpoch b (epochToMonitorForAttestations + 1)
  raiseIfDoppelgangerDetected epochToMonitorForAttestations validatorIndices
  sleepUntil (tsToWaitFor b epochToMonitorForAttestations)
  raiseIfDoppelgangerDetected epochToMonitorForAttestations validatorIndices

end

/-! ### Time -/

/-- The clock does not go back, and no sleep is shorter than asked for by more than `δ`. -/
def Follows (δ : ℚ) (before ev : Timed κ) : Prop :=
  before.time ≤ ev.time ∧
    ∀ delay, ev.event = .slept delay (.ok ()) → before.time + delay - δ ≤ ev.time

def paced (δ : ℚ) : Coroutine.Environment (Timed κ) where
  Allows h := h.IsChain (Follows δ)
  of_append h := h.left_of_append

/-- Something happened last, and it was not before `ts`. -/
def Reached (ts : ℚ) (h : List (Timed κ)) : Prop := ∃ pre ev, h = pre ++ [ev] ∧ ts ≤ ev.time

/-- Time passes, and nothing else happens. -/
def Quiet (ev : Timed κ) : Prop :=
  ev.event = .clock ∨ ∃ delay answer, ev.event = .slept delay answer

/-- The history goes on from `h₀` with events that have `S`. -/
def From (h₀ : List (Timed κ)) (S : List (Timed κ) → Prop) (h : List (Timed κ)) : Prop :=
  ∃ post, S post ∧ h = h₀ ++ post

/-- A history with `S`, and then a quiet time. -/
def Quietly (S : List (Timed κ) → Prop) (post : List (Timed κ)) : Prop :=
  ∃ pre quiet, S pre ∧ (∀ ev ∈ quiet, Quiet ev) ∧ post = pre ++ quiet

/-- A quiet time that lasts until `ts`. -/
def Waited (S : List (Timed κ) → Prop) (ts : ℚ) (post : List (Timed κ)) : Prop :=
  Quietly S post ∧ Reached ts post

variable {S S' : List (Timed κ) → Prop} {post h₀ : List (Timed κ)} {ts : ℚ} {δ : ℚ}

lemma From.mono {h : List (Timed κ)} (hfrom : From h₀ S h) (himp : ∀ post, S post → S' post) :
    From h₀ S' h := by
  obtain ⟨post, hS, rfl⟩ := hfrom
  exact ⟨post, himp post hS, rfl⟩

lemma From.snoc {h : List (Timed κ)} {ev : Timed κ} (hfrom : From h₀ S h)
    (hS : ∀ post, S post → S' (post ++ [ev])) : From h₀ S' (h ++ [ev]) := by
  obtain ⟨post, hpost, rfl⟩ := hfrom
  exact ⟨post ++ [ev], hS post hpost, by simp⟩

lemma quietly (h : S post) : Quietly S post := ⟨post, [], h, by simp, by simp⟩

lemma Quietly.snoc {ev : Timed κ} (h : Quietly S post) (hev : Quiet ev) :
    Quietly S (post ++ [ev]) := by
  obtain ⟨pre, quiet, hS, hquiet, rfl⟩ := h
  refine ⟨pre, quiet ++ [ev], hS, fun x hx => ?_, by simp⟩
  rcases List.mem_append.mp hx with hx | hx
  · exact hquiet x hx
  · rwa [List.mem_singleton.mp hx]

lemma Quietly.quietly (h : Quietly (Quietly S) post) : Quietly S post := by
  obtain ⟨_, late, ⟨pre, early, hS, hearly, rfl⟩, hlate, rfl⟩ := h
  refine ⟨pre, early ++ late, hS, fun x hx => ?_, by simp⟩
  rcases List.mem_append.mp hx with hx | hx
  · exact hearly x hx
  · exact hlate x hx

lemma Quietly.mono (h : Quietly S post) (himp : ∀ post, S post → S' post) : Quietly S' post := by
  obtain ⟨pre, quiet, hS, hquiet, rfl⟩ := h
  exact ⟨pre, quiet, himp pre hS, hquiet, rfl⟩

/-! ### What each part awaits -/

/-- The clock was read last, and showed `t`. -/
def Read (S : List (Timed κ) → Prop) (t : ℚ) (post : List (Timed κ)) : Prop :=
  ∃ pre, S pre ∧ post = pre ++ [⟨t, .clock⟩]

/-- The beacon node gave this answer last. -/
def Told (S : List (Timed κ) → Prop) (epoch : ℤ) (indices : List ℕ)
    (answer : Except String (List ValidatorLiveness)) (post : List (Timed κ)) : Prop :=
  ∃ pre t, S pre ∧ post = pre ++ [⟨t, .liveness epoch indices answer⟩]

lemma passOn_ok {α : Type} {x : Except String α} {a : α} (h : passOn x = .ok a) : x = .ok a := by
  cases x with
  | ok y => rw [Except.ok.inj h]
  | error e => cases h

lemma passOn_error {α : Type} {x : Except String α} {e : Exception} (h : passOn x = .error e) :
    ∃ name, e = .foreign name ∧ x = .error name := by
  cases x with
  | ok y => cases h
  | error name => exact ⟨name, (Except.error.inj h).symm, rfl⟩

lemma readsClock_eq_some {ev : Timed κ} {x : Except Exception ℚ} (h : readsClock ev = some x) :
    ev = ⟨ev.time, .clock⟩ ∧ x = .ok ev.time := by
  obtain ⟨time, event⟩ := ev
  cases event with
  | clock => exact ⟨rfl, (Option.some.inj h).symm⟩
  | slept | liveness | own => cases h

lemma sleepsFor_eq_some {delay : ℚ} {ev : Timed κ} {x : Except Exception Unit}
    (h : sleepsFor delay ev = some x) :
    ∃ answer, ev.event = .slept delay answer ∧ passOn answer = x := by
  obtain ⟨time, event⟩ := ev
  cases event with
  | slept d answer =>
    by_cases hd : d = delay
    · exact ⟨answer, by simp [hd], by simpa [sleepsFor, hd] using h⟩
    · simp [sleepsFor, hd] at h
  | clock | liveness | own => cases h

lemma asksLiveness_eq_some {epoch : ℤ} {indices : List ℕ} {ev : Timed κ}
    {x : Except Exception (List ValidatorLiveness)} (h : asksLiveness epoch indices ev = some x) :
    ∃ answer, ev.event = .liveness epoch indices answer ∧ passOn answer = x := by
  obtain ⟨time, event⟩ := ev
  cases event with
  | liveness e asked answer =>
    by_cases he : e = epoch ∧ asked = indices
    · exact ⟨answer, by simp [he.1, he.2], by simpa [asksLiveness, he.1, he.2] using h⟩
    · simp [asksLiveness, he] at h
  | clock | slept | own => cases h

lemma clock_spec : Coroutine.Triple (paced δ) (From h₀ S) clock
    ⟨fun t => From h₀ (Read S t), fun _ _ => False, From h₀ S⟩ := by
  refine .await (fun _ h _ => h) (fun h ev t hfrom _ ha => ?_) fun h ev e _ _ ha => ?_
  · obtain ⟨hev, ht⟩ := readsClock_eq_some ha
    obtain rfl := Except.ok.inj ht
    exact hfrom.snoc fun post hpost => ⟨post, hpost, by rw [← hev]⟩
  · cases (readsClock_eq_some ha).2

/-- The history before a sleep ends with an event, from which on it is slept. -/
lemma le_time_of_slept {h : List (Timed κ)} {last ev : Timed κ} {delay : ℚ}
    (hpaced : (paced δ).Allows (h ++ [last] ++ [ev])) (hev : ev.event = .slept delay (.ok ())) :
    last.time + delay - δ ≤ ev.time := by
  have hchain : [last, ev].IsChain (Follows δ) := by
    rw [List.append_assoc] at hpaced
    exact List.IsChain.right_of_append hpaced
  exact (List.isChain_pair.mp hchain).2 delay hev

lemma sleep_spec {delay : ℚ} : Coroutine.Triple (paced δ) (From h₀ S) (sleep delay)
    ⟨fun _ h => From h₀ (Quietly S) h ∧
        ∃ pre ev, h = pre ++ [ev] ∧ From h₀ S pre ∧ ev.event = .slept delay (.ok ()),
      fun e h => (∃ name, e = .foreign name) ∧ From h₀ (Quietly S) h, From h₀ S⟩ := by
  refine .await (fun _ h _ => h) (fun h ev t hfrom _ ha => ?_) fun h ev e hfrom _ ha => ?_
  · obtain ⟨answer, hev, hanswer⟩ := sleepsFor_eq_some ha
    have hok := passOn_ok hanswer
    refine ⟨hfrom.snoc fun post hpost => (quietly hpost).snoc (.inr ⟨delay, answer, hev⟩),
      h, ev, rfl, hfrom, by rw [hev, hok]⟩
  · obtain ⟨answer, hev, hanswer⟩ := sleepsFor_eq_some ha
    obtain ⟨name, he, -⟩ := passOn_error hanswer
    exact ⟨⟨name, he⟩, hfrom.snoc fun post hpost =>
      (quietly hpost).snoc (.inr ⟨delay, answer, hev⟩)⟩

lemma fetchLivenessData_spec {epoch : ℤ} {indices : List ℕ} :
    Coroutine.Triple (paced δ) (From h₀ S) (fetchLivenessData epoch indices)
      ⟨fun data => From h₀ (Told S epoch indices (.ok data)),
        fun e h => ∃ name, e = .foreign name ∧
          From h₀ (Told S epoch indices (.error name)) h, From h₀ S⟩ := by
  refine .await (fun _ h _ => h) (fun h ev data hfrom _ ha => ?_) fun h ev e hfrom _ ha => ?_
  · obtain ⟨answer, hev, hanswer⟩ := asksLiveness_eq_some ha
    have hok := passOn_ok hanswer
    exact hfrom.snoc fun post hpost => ⟨post, ev.time, hpost, by rw [← hok, ← hev]⟩
  · obtain ⟨answer, hev, hanswer⟩ := asksLiveness_eq_some ha
    obtain ⟨name, he, herror⟩ := passOn_error hanswer
    exact ⟨name, he, hfrom.snoc fun post hpost => ⟨post, ev.time, hpost, by rw [← herror, ← hev]⟩⟩

/-- **Polling.** When the waiting is over the clock has shown the timestamp. -/
lemma preciseWaitForTimestamp_spec {timestamp : ℤ} :
    Coroutine.Triple (paced δ) (From h₀ S) (preciseWaitForTimestamp timestamp)
      ⟨fun _ => From h₀ (Waited S timestamp),
        fun e h => (∃ name, e = .foreign name) ∧ From h₀ (Quietly S) h, From h₀ (Quietly S)⟩ := by
  have hread : ∀ {S : List (Timed κ) → Prop} {t : ℚ} {post : List (Timed κ)},
      Read (Quietly S) t post → Quietly S post := by
    rintro S t post ⟨pre, hpre, rfl⟩
    exact hpre.snoc (.inl rfl)
  refine Coroutine.Triple.bind (M := fun t => From h₀ (Read S t)) ?_ fun t => ?_
  · exact clock_spec.imp (fun _ h => h) (fun _ _ _ h => h) (fun _ _ _ h => h.elim)
      fun _ _ h => h.mono fun _ => quietly
  refine Coroutine.Triple.bind (M := fun _ => From h₀ (Quietly S)) ?_ fun _ => ?_
  · have hquiet : ∀ post, Read S t post → Quietly S post := fun post ⟨pre, hpre, he⟩ =>
      hread ⟨pre, quietly hpre, he⟩
    have hmono : ∀ post, Quietly (Read S t) post → Quietly S post := fun post h =>
      (h.mono hquiet).quietly
    exact sleep_spec.imp (fun _ h => h) (fun _ _ _ h => h.1.mono hmono)
      (fun _ _ _ h => ⟨h.1, h.2.mono hmono⟩) fun _ _ h => h.mono hquiet
  · refine Coroutine.Triple.loop (I := fun _ => From h₀ (Quietly S)) (fun _ => ?_) ()
    refine Coroutine.Triple.bind (M := fun t => From h₀ (Read (Quietly S) t)) ?_ fun t => ?_
    · exact clock_spec.imp (fun _ h => h) (fun _ _ _ h => h) (fun _ _ _ h => h.elim) fun _ _ h => h
    by_cases hlt : t < timestamp
    · simp only [hlt, if_true]
      have hmono : ∀ post, Quietly (Read (Quietly S) t) post → Quietly S post := fun post h =>
        (h.mono fun _ => hread).quietly
      refine Coroutine.Triple.bind (M := fun _ => From h₀ (Quietly S)) ?_ fun _ => ?_
      · exact sleep_spec.imp (fun _ h => h) (fun _ _ _ h => h.1.mono hmono)
          (fun _ _ _ h => ⟨h.1, h.2.mono hmono⟩) fun _ _ h => h.mono fun _ => hread
      · exact .pure fun _ h _ => h
    · simp only [hlt, if_false]
      refine .pure fun h hfrom _ => hfrom.mono fun post hpost => ⟨hread hpost, ?_⟩
      obtain ⟨pre, -, rfl⟩ := hpost
      exact ⟨pre, ⟨t, .clock⟩, rfl, not_lt.mp hlt⟩

lemma sleepUntil_spec : Coroutine.Triple (paced δ) (From h₀ S) (sleepUntil ts)
    ⟨fun _ => From h₀ (Waited S (ts - δ)),
      fun e h => (∃ name, e = .foreign name) ∧ From h₀ (Quietly S) h, From h₀ (Quietly S)⟩ := by
  refine Coroutine.Triple.bind (M := fun t => From h₀ (Read S t)) ?_ fun t => ?_
  · exact clock_spec.imp (fun _ h => h) (fun _ _ _ h => h) (fun _ _ _ h => h.elim)
      fun _ _ h => h.mono fun _ => quietly
  · have hquiet : ∀ post, Read S t post → Quietly S post := by
      rintro post ⟨pre, hpre, rfl⟩
      exact (quietly hpre).snoc (.inl rfl)
    have hmono : ∀ post, Quietly (Read S t) post → Quietly S post := fun post h =>
      (h.mono hquiet).quietly
    refine sleep_spec.imp (fun _ h => h) (fun _ h hpaced hslept => ?_)
      (fun _ _ _ h => ⟨h.1, h.2.mono hmono⟩) fun _ _ h => h.mono hquiet
    obtain ⟨-, _, ev, rfl, ⟨_, ⟨pre, hpre, rfl⟩, rfl⟩, hev⟩ := hslept
    rw [← List.append_assoc h₀] at hpaced
    have hlate := le_time_of_slept hpaced hev
    refine ⟨pre ++ [⟨t, .clock⟩] ++ [ev], ⟨?_, _, ev, rfl, ?_⟩, by simp⟩
    · exact ((quietly hpre).snoc (.inl rfl)).snoc (.inr ⟨_, _, hev⟩)
    · calc ts - δ = t + (ts - t) - δ := by ring
        _ ≤ ev.time := hlate

/-! ### Liveness -/

/-- Nobody is live by the last answer. -/
def Confirmed (S : List (Timed κ) → Prop) (epoch : ℤ) (indices : List ℕ)
    (post : List (Timed κ)) : Prop :=
  ∃ data, (∀ v ∈ data, v.isLive = false) ∧ Told S epoch indices (.ok data) post

/-- Somebody is live by this answer. -/
def Alarm (epoch : ℤ) (indices : List ℕ) (ev : Timed κ) : Prop :=
  ∃ data, ev.event = .liveness epoch indices (.ok data) ∧ ∃ v ∈ data, v.isLive = true

/-- The last event is an answer by which somebody is live. -/
def Alarmed (S : List (Timed κ) → Prop) (epoch : ℤ) (indices : List ℕ)
    (post : List (Timed κ)) : Prop :=
  ∃ pre ev, S pre ∧ Alarm epoch indices ev ∧ post = pre ++ [ev]

lemma raiseIfDoppelgangerDetected_spec {epoch : ℤ} {indices : List ℕ} :
    Coroutine.Triple (paced δ) (From h₀ S) (raiseIfDoppelgangerDetected epoch indices)
      ⟨fun _ => From h₀ (Confirmed S epoch indices),
        fun e h => (e = .doppelgangersDetected ∧ From h₀ (Alarmed S epoch indices) h) ∨
          ∃ name, e = .foreign name ∧ From h₀ (Told S epoch indices (.error name)) h,
        From h₀ S⟩ := by
  refine Coroutine.Triple.bind
    (M := fun data => From h₀ (Told S epoch indices (.ok data))) ?_ fun data => ?_
  · exact fetchLivenessData_spec.imp (fun _ h => h) (fun _ _ _ h => h) (fun _ _ _ h => .inr h)
      fun _ _ h => h
  · unfold processLivenessData
    by_cases hlive : data.any (·.isLive)
    · simp only [hlive, if_true]
      refine .raise fun h hfrom _ => .inl ⟨rfl, hfrom.mono fun post ⟨pre, t, hpre, he⟩ => ?_⟩
      exact ⟨pre, _, hpre, ⟨data, rfl, List.any_eq_true.mp hlive⟩, he⟩
    · simp only [hlive]
      refine .pure fun h hfrom _ => hfrom.mono fun post htold => ⟨data, fun v hv => ?_, htold⟩
      exact Bool.eq_false_iff.mpr fun hv' => hlive (List.any_eq_true.mpr ⟨v, hv, hv'⟩)

/-! ### Detection -/

section

variable (b : BeaconChain) (indices : List ℕ)

/-- The clock was read in the epoch, and the endpoint answered. -/
def Tested (epoch : ℤ) (post : List (Timed κ)) : Prop :=
  ∃ t data, b.currentEpoch t = epoch ∧
    Told (· = [⟨t, .clock⟩]) epoch indices (.ok data) post

/-- Nobody was live in the next epoch, by an answer asked for when that epoch was over. -/
def Checked (epoch : ℤ) : List (Timed κ) → Prop :=
  Confirmed (Waited (Tested b indices epoch)
    (b.getTimestampForSlot ((epoch + 1 + 1) * b.slotsPerEpoch) : ℚ)) (epoch + 1) indices

/-- Nor by an answer asked for when its last attestations could be included no longer. -/
def Cleared (δ : ℚ) (epoch : ℤ) : List (Timed κ) → Prop :=
  Confirmed (Waited (Checked b indices epoch) (tsToWaitFor b (epoch + 1) - δ)) (epoch + 1)
    indices

/-- Only the validators given are asked about, for the present epoch and the next. -/
def Expected (epoch : ℤ) (ev : Timed κ) : Prop :=
  Quiet ev ∨ ∃ answer, ev.event = .liveness epoch indices answer ∨
    ev.event = .liveness (epoch + 1) indices answer

/-- A history that begins in the epoch, with no alarm. -/
structure Calm (epoch : ℤ) (post : List (Timed κ)) : Prop where
  begun : ∃ t rest, post = ⟨t, .clock⟩ :: rest ∧ b.currentEpoch t = epoch
  expected : ∀ ev ∈ post, Expected indices epoch ev
  quiet : ∀ ev ∈ post, ¬ Alarm (epoch + 1) indices ev

/-- What has come before an exception. -/
def Failed (epoch : ℤ) (e : Exception) (post : List (Timed κ)) : Prop :=
  (e = .doppelgangersDetected ∧
      Alarmed (Calm b indices epoch) (epoch + 1) indices post) ∨
    ∃ name, e = .foreign name ∧ Calm b indices epoch post

end

variable {b : BeaconChain} {indices : List ℕ} {epoch : ℤ}

lemma not_alarm_of_quiet {ev : Timed κ} (h : Quiet ev) : ¬ Alarm epoch indices ev := by
  rintro ⟨data, hev, -⟩
  rcases h with h | ⟨delay, answer, h⟩
  · simp [hev] at h
  · simp [hev] at h

lemma Calm.snoc {ev : Timed κ} (h : Calm b indices epoch post)
    (hexpected : Expected indices epoch ev)
    (hquiet : ¬ Alarm (epoch + 1) indices ev) :
    Calm b indices epoch (post ++ [ev]) := by
  obtain ⟨⟨t, rest, rfl, ht⟩, hall, hnone⟩ := h
  refine ⟨⟨t, rest ++ [ev], rfl, ht⟩, fun x hx => ?_, fun x hx => ?_⟩
  · rcases List.mem_append.mp hx with hx | hx
    · exact hall x hx
    · rwa [List.mem_singleton.mp hx]
  · rcases List.mem_append.mp hx with hx | hx
    · exact hnone x hx
    · rwa [List.mem_singleton.mp hx]

lemma calm_begin {t : ℚ} (ht : b.currentEpoch t = epoch) :
    Calm b indices epoch ([⟨t, .clock⟩] : List (Timed κ)) := by
  refine ⟨⟨t, [], rfl, ht⟩, fun ev hev => ?_, fun ev hev => ?_⟩
  · rw [List.mem_singleton.mp hev]
    exact .inl (.inl rfl)
  · rw [List.mem_singleton.mp hev]
    exact not_alarm_of_quiet (.inl rfl)

lemma Calm.of_quietly (h : Quietly S post) (hS : ∀ post, S post → Calm b indices epoch post) :
    Calm b indices epoch post := by
  obtain ⟨pre, quiet, hpre, hquiet, rfl⟩ := h
  have hcalm := hS pre hpre
  induction quiet using List.reverseRecOn with
  | nil => simpa using hcalm
  | append_singleton quiet ev ih =>
    have hev := hquiet ev (by simp)
    rw [← List.append_assoc]
    exact (ih fun x hx => hquiet x (by simp [hx])).snoc (.inl hev) (not_alarm_of_quiet hev)

/-- The first answer is about another epoch. -/
lemma Calm.of_told {answer : Except String (List ValidatorLiveness)}
    (h : Told S epoch indices answer post)
    (hS : ∀ post, S post → Calm b indices epoch post) :
    Calm b indices epoch post := by
  obtain ⟨pre, t, hpre, rfl⟩ := h
  refine (hS pre hpre).snoc (.inr ⟨answer, .inl rfl⟩) ?_
  rintro ⟨data, hev, -⟩
  have hepoch : epoch = epoch + 1 := by
    injection hev
  omega

lemma Calm.of_confirmed (h : Confirmed S (epoch + 1) indices post)
    (hS : ∀ post, S post → Calm b indices epoch post) :
    Calm b indices epoch post := by
  obtain ⟨data, hdata, pre, t, hpre, rfl⟩ := h
  refine (hS pre hpre).snoc (.inr ⟨_, .inr rfl⟩) ?_
  rintro ⟨data', hev, v, hv, hlive⟩
  obtain rfl : data = data' := by
    injection hev with _ _ hok
    exact Except.ok.inj hok
  rw [hdata v hv] at hlive
  cases hlive

lemma Calm.of_told_error {name : String}
    (h : Told S (epoch + 1) indices (.error name) post)
    (hS : ∀ post, S post → Calm b indices epoch post) :
    Calm b indices epoch post := by
  obtain ⟨pre, t, hpre, rfl⟩ := h
  refine (hS pre hpre).snoc (.inr ⟨_, .inr rfl⟩) ?_
  rintro ⟨data, hev, -⟩
  cases hev

lemma Calm.of_tested (h : Tested b indices epoch post) :
    Calm b indices epoch post := by
  obtain ⟨t, data, ht, htold⟩ := h
  exact .of_told htold fun _ hpost => by rw [hpost]; exact calm_begin ht

lemma Calm.of_checked (h : Checked b indices epoch post) :
    Calm b indices epoch post :=
  .of_confirmed h fun _ hwaited => .of_quietly hwaited.1 fun _ => .of_tested

lemma Calm.of_cleared (h : Cleared b indices δ epoch post) :
    Calm b indices epoch post :=
  .of_confirmed h fun _ hwaited => .of_quietly hwaited.1 fun _ => .of_checked

variable (δ b indices) in
/-- What becomes of a detection that began in an epoch. -/
def Judged (epoch : ℤ) (h₀ : List (Timed κ)) : Coroutine.Post (Timed κ) Exception Unit :=
  ⟨fun _ => From h₀ (Cleared b indices δ epoch),
    fun e => From h₀ (Failed b indices epoch e), From h₀ (Calm b indices epoch)⟩

/-- While the detector only waits there is no alarm. -/
lemma judged_of_quiet {P : List (Timed κ) → Prop} {c : Program κ Unit}
    {M : Unit → List (Timed κ) → Prop}
    (t : Coroutine.Triple (paced δ) P c ⟨M, fun e h => (∃ name, e = .foreign name) ∧
      From h₀ (Quietly S) h, From h₀ (Quietly S)⟩)
    (hS : ∀ post, S post → Calm b indices epoch post) :
    Coroutine.Triple (paced δ) P c ⟨M, (Judged δ b indices epoch h₀).raised,
      (Judged δ b indices epoch h₀).waiting⟩ := by
  have hcalm : ∀ post, Quietly S post → Calm b indices epoch post := fun _ h =>
    .of_quietly h hS
  exact t.imp (fun _ h => h) (fun _ _ _ h => h)
    (fun _ _ _ ⟨⟨name, he⟩, h⟩ => h.mono fun post hpost => .inr ⟨name, he, hcalm post hpost⟩)
    fun _ _ h => h.mono hcalm

lemma judged_raiseIfDoppelgangerDetected
    (hS : ∀ post, S post → Calm b indices epoch post) :
    Coroutine.Triple (paced δ) (From h₀ S) (raiseIfDoppelgangerDetected (epoch + 1) indices)
      ⟨fun _ => From h₀ (Confirmed S (epoch + 1) indices),
        (Judged δ b indices epoch h₀).raised,
        (Judged δ b indices epoch h₀).waiting⟩ := by
  refine raiseIfDoppelgangerDetected_spec.imp (fun _ h => h) (fun _ _ _ h => h) (fun e h _ he => ?_)
    fun _ _ h => h.mono hS
  rcases he with ⟨rfl, hfrom⟩ | ⟨name, rfl, hfrom⟩
  · exact hfrom.mono fun post ⟨pre, ev, hpre, hev, hpost⟩ =>
      .inl ⟨rfl, pre, ev, hS pre hpre, hev, hpost⟩
  · exact hfrom.mono fun post htold => .inr ⟨name, rfl, .of_told_error htold hS⟩

/-- The part of the detection that follows the first reading of the clock. -/
lemma judged_detect {t : ℚ} (ht : b.currentEpoch t = epoch) :
    Coroutine.Triple (paced δ) (From h₀ (· = [⟨t, .clock⟩])) (do
      let _ ← fetchLivenessData epoch indices
      waitForEpoch b (epoch + 1)
      waitForEpoch b (epoch + 1 + 1)
      raiseIfDoppelgangerDetected (epoch + 1) indices
      sleepUntil (tsToWaitFor b (epoch + 1))
      raiseIfDoppelgangerDetected (epoch + 1) indices)
      (Judged δ b indices epoch h₀) := by
  have hbegin : ∀ post : List (Timed κ), post = [⟨t, .clock⟩] → Calm b indices epoch post :=
    fun post hpost => by rw [hpost]; exact calm_begin ht
  refine .bind (M := fun _ => From h₀ (Tested b indices epoch)) ?_ fun _ => ?_
  · refine fetchLivenessData_spec.imp (fun _ h => h) (fun data _ _ h => ?_) (fun e _ _ h => ?_)
      fun _ _ h => h.mono hbegin
    · exact h.mono fun _ htold => ⟨t, data, ht, htold⟩
    · obtain ⟨name, rfl, h⟩ := h
      exact h.mono fun _ htold => .inr ⟨name, rfl, .of_told htold hbegin⟩
  refine .bind (judged_of_quiet preciseWaitForTimestamp_spec fun _ => .of_tested) fun _ => ?_
  refine .bind (judged_of_quiet preciseWaitForTimestamp_spec fun _ h =>
    .of_quietly h.1 fun _ => .of_tested) fun _ => ?_
  refine .bind (M := fun _ => From h₀ (Checked b indices epoch)) ?_ fun _ => ?_
  · refine (judged_raiseIfDoppelgangerDetected fun _ hwaited => .of_quietly hwaited.1 fun _ =>
      .of_tested).pre fun _ h => h.mono fun _ ⟨hquiet, hreached⟩ => ⟨?_, hreached⟩
    exact (hquiet.mono fun _ h => h.1).quietly
  refine .bind (judged_of_quiet sleepUntil_spec fun _ => .of_checked) fun _ => ?_
  exact judged_raiseIfDoppelgangerDetected fun _ hwaited =>
    .of_quietly hwaited.1 fun _ => .of_checked

/-- **Detection.** -/
lemma detect_spec (h₀ : List (Timed κ)) :
    Coroutine.Triple (paced δ) (· = h₀) (detect b indices)
      ⟨fun _ => From h₀ fun post => ∃ epoch, Cleared b indices δ epoch post,
        fun e => From h₀ fun post => ∃ epoch, Failed b indices epoch e post,
        From h₀ fun post => post = [] ∨ ∃ epoch, Calm b indices epoch post⟩ := by
  refine .bind (M := fun t => From h₀ (· = [⟨t, .clock⟩])) ?_ fun t => ?_
  · refine (clock_spec (S := (· = []))).imp (fun h he => ⟨[], rfl, by simpa using he⟩)
      (fun t _ _ h => h.mono ?_) (fun _ _ _ h => h.elim) fun _ _ h => h.mono fun _ => .inl
    rintro post ⟨pre, rfl, rfl⟩
    rfl
  · exact (judged_detect rfl).imp (fun _ h => h) (fun _ _ _ h => h.mono fun _ hpost => ⟨_, hpost⟩)
      (fun _ _ _ h => h.mono fun _ hpost => ⟨_, hpost⟩) fun _ _ h => h.mono fun _ hpost =>
      .inr ⟨_, hpost⟩

/-! ### Main result -/

/-- What a detection has come to, and what it has asked for on the way. -/
structure Detection (b : BeaconChain) (indices : List ℕ) (δ : ℚ) (epoch : ℤ) (h : List (Timed κ))
    (o : Coroutine.Outcome Exception Unit) : Prop where
  begun : ∃ t rest, h = ⟨t, .clock⟩ :: rest ∧ b.currentEpoch t = epoch
  expected : ∀ ev ∈ h, Expected indices epoch ev
  cleared : o = .returned () → Cleared b indices δ epoch h
  detected : o = .raised .doppelgangersDetected ↔ ∃ ev ∈ h, Alarm (epoch + 1) indices ev

lemma detection_of_calm {h : List (Timed κ)} {o : Coroutine.Outcome Exception Unit}
    (hcalm : Calm b indices epoch h) (hreturned : o = .returned () → Cleared b indices δ epoch h)
    (hraised : o ≠ .raised .doppelgangersDetected) : Detection b indices δ epoch h o :=
  ⟨hcalm.begun, hcalm.expected, hreturned, fun ho => absurd ho hraised,
    fun ⟨ev, hev, halarm⟩ => absurd halarm (hcalm.quiet ev hev)⟩

lemma detection_of_alarmed {h : List (Timed κ)}
    (halarmed : Alarmed (Calm b indices epoch) (epoch + 1) indices h) :
    Detection b indices δ epoch h (.raised .doppelgangersDetected) := by
  obtain ⟨pre, ev, hcalm, halarm, rfl⟩ := halarmed
  obtain ⟨t, rest, rfl, ht⟩ := hcalm.begun
  refine ⟨⟨t, rest ++ [ev], rfl, ht⟩, fun x hx => ?_, (fun h => by cases h),
    fun _ => ⟨ev, by simp, halarm⟩, fun _ => rfl⟩
  rcases List.mem_append.mp hx with hx | hx
  · exact hcalm.expected x hx
  · rw [List.mem_singleton.mp hx]
    obtain ⟨data, hev, -⟩ := halarm
    exact .inr ⟨_, .inr hev⟩

/-- **Doppelgangers.** The detector returns only when nobody was live in the epoch after the one
it was started in, by an answer asked for after that epoch and by one asked for in the last slot
in which its attestations can be included. It raises as soon as it is told of a live validator. -/
theorem detection_of_history {h : List (Timed κ)}
    {o : Coroutine.Outcome Exception Unit} (hpaced : h.IsChain (Follows δ))
    (hrun : (detect b indices).History h o) :
    (h = [] ∧ o = .waiting) ∨ ∃ epoch, Detection b indices δ epoch h o := by
  have hat := (detect_spec []).history hrun hpaced
  cases o with
  | returned a =>
    obtain ⟨post, ⟨epoch, hcleared⟩, rfl⟩ := hat
    have hcalm := Calm.of_cleared hcleared
    exact .inr ⟨epoch, detection_of_calm hcalm (fun _ => hcleared) fun h => by cases h⟩
  | raised e =>
    obtain ⟨post, ⟨epoch, ⟨rfl, halarmed⟩ | ⟨name, rfl, hcalm⟩⟩, rfl⟩ := hat
    · exact .inr ⟨epoch, detection_of_alarmed halarmed⟩
    · exact .inr ⟨epoch, detection_of_calm hcalm (fun h => by cases h) fun h => by cases h⟩
  | waiting =>
    obtain ⟨post, rfl | ⟨epoch, hcalm⟩, rfl⟩ := hat
    · exact .inl ⟨rfl, rfl⟩
    · exact .inr ⟨epoch, detection_of_calm hcalm (fun h => by cases h) fun h => by cases h⟩

/-- A detection that begins in epoch 0. The first answer is about epoch 0, and not looked at. -/
def quietEpochs : List (Timed Empty) :=
  [⟨1606824028, .clock⟩, ⟨1606824028.1, .liveness 0 [7] (.ok [⟨"7", true⟩])⟩,
    ⟨1606824028.2, .clock⟩, ⟨1606824407, .slept 378.784 (.ok ())⟩, ⟨1606824407, .clock⟩,
    ⟨1606824407, .clock⟩, ⟨1606824790.97, .slept 383.984 (.ok ())⟩, ⟨1606824790.98, .clock⟩,
    ⟨1606824791, .slept 0 (.ok ())⟩, ⟨1606824791, .clock⟩,
    ⟨1606824791.2, .liveness 1 [7] (.ok [⟨"7", false⟩])⟩, ⟨1606824791.2, .clock⟩,
    ⟨1606825169, .slept 377.8 (.ok ())⟩, ⟨1606825169.3, .liveness 1 [7] (.ok [⟨"7", false⟩])⟩]

theorem detection_quietEpochs :
    (detect (mainnet id).beaconChain [7]).History quietEpochs (.returned ()) ∧
      ∃ epoch, Detection (mainnet id).beaconChain [7] 0.016 epoch quietEpochs (.returned ()) := by
  have hrun : (detect (mainnet id).beaconChain [7]).History quietEpochs (.returned ()) := by
    unfold Coroutine.History
    decide +kernel
  have hpaced : quietEpochs.IsChain (Follows 0.016) := by
    simp only [quietEpochs, List.isChain_cons_cons, Follows, Event.slept.injEq, reduceCtorEq]
    norm_num
  rcases detection_of_history hpaced hrun with ⟨hnil, -⟩ | hdetection
  · cases hnil
  · exact ⟨hrun, hdetection⟩

end Vero.DoppelgangerDetector
