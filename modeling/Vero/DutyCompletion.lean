import Vero.DutyRuns

/-!
`wait_for_duty_completion` after an attempt of the current slot has ended: whether it returns at
once, or polls for a completion that never comes.
-/

namespace Vero.DutyRuns

open Lib Lib.Runs

namespace Service

variable (d : Service)

/-- Steps that stay in the slot and leave its duties as they are. -/
def Undisturbed (slot : ℤ) : Guard d.State d.Action d.Output := fun s _ a =>
  ∀ p ∈ d.step s a, d.currentSlot p.1 = slot ∧ (d.updates a → d.duties p.1 slot = d.duties s slot)

/-- With `p` as the last slot completed, nobody waits for the slot any more. -/
def Over (s : d.State) (slot p : ℤ) : Prop := p = slot ∨ slot < p ∧ d.hasDutyForSlot s slot ≠ none

/-- What an attempt of the slot may meet. One that begins a run meets no run of an earlier slot.
One that does not begin a run meets neither a duty of the slot nor a run of it, or it comes after
the slot was completed and meets no run of an earlier slot. -/
def Waitable (s : d.State) (slot : ℤ) : Prop :=
  (d.Performs s slot → ∀ i p, (d.marks s).inFlight i = some p → slot ≤ p) ∧
  (¬ d.Performs s slot →
    (d.hasDutyForSlot s slot = some false ∧ (d.marks s).started ≠ slot) ∨
    (d.Over s slot (d.marks s).finished ∧
      ∀ i p, (d.marks s).inFlight i = some p → d.Over s slot p))

variable {d} {s s' s₁ s₂ : d.State} {a : d.Action} {o os : List d.Output} {slot : ℤ} {id : ℕ}

/-- The immediate returns of the wait, and the one after its first look at the counter. -/
lemma returned_iff : d.waitForDutyCompletion s = .returned ↔
    (d.hasDutyForSlot s (d.currentSlot s) = some false ∧
      (d.marks s).started ≠ d.currentSlot s) ∨
    d.Over s (d.currentSlot s) (d.marks s).finished := by
  unfold waitForDutyCompletion Shutdown.DutyService.waitForDutyCompletion Over
  dsimp only
  by_cases hfinished : (d.marks s).finished = d.currentSlot s
  · simp [hfinished]
  · rw [if_neg hfinished]
    cases hduty : d.hasDutyForSlot s (d.currentSlot s) with
    | none => simp [hfinished]
    | some hasDuty =>
      by_cases hnone : ¬ hasDuty ∧ (d.marks s).started ≠ d.currentSlot s
      · simp [hnone]
      · by_cases hlt : (d.marks s).finished < d.currentSlot s
        · simp [hlt, hfinished, hlt.le]
        · have hlt' : d.currentSlot s < (d.marks s).finished := by omega
          simp [hlt, hlt']

/-- In the slot of a run that was begun, by `id`, with no run of an earlier slot beside it. -/
structure Begun (d : Service) (slot : ℤ) (id : ℕ) (s : d.State) : Prop where
  current : d.currentSlot s = slot
  tested : d.hasDutyForSlot s slot ≠ none
  inFlight : ∀ i p, (d.marks s).inFlight i = some p → slot ≤ p
  finished : (d.marks s).inFlight id = none → slot ≤ (d.marks s).finished

/-- The duties of the slot outlast a step that begins no run. -/
lemma Undisturbed.duties (hu : d.Undisturbed slot s os a) (h : d.step s a = some (s', o))
    (hkept : ¬ d.updates a → ∀ p, d.duties s' p = d.duties s p) :
    d.duties s' slot = d.duties s slot := by
  by_cases hupdates : d.updates a
  · exact (hu _ h).2 hupdates
  · exact hkept hupdates slot

lemma Begun.step (hd : d.Lawful) (hs : d.Begun slot id s) (hu : d.Undisturbed slot s os a)
    (h : d.step s a = some (s', o)) : d.Begun slot id s' := by
  have hcurrent := (hu _ h).1
  rcases hd.effect h with ⟨i, hattempt, hperforms, new, he⟩ | ⟨-, he, hkept⟩ |
    ⟨i, p, -, get, he, hkept⟩
  · have htested := hd.tested h hattempt hperforms
    rw [hs.current] at htested he
    refine ⟨hcurrent, htested, fun j q hj => ?_, fun hnone => ?_⟩
    · rw [he, Marks.inFlight_start] at hj
      split_ifs at hj
      · exact (Option.some.inj hj).le
      · exact hs.inFlight j q hj
    · rw [he, Marks.inFlight_start] at hnone
      split_ifs at hnone
      rw [he]
      exact hs.finished hnone
  · have hduties := hu.duties h hkept
    exact ⟨hcurrent, hd.hasDuty_congr hduties ▸ hs.tested, he ▸ hs.inFlight, he ▸ hs.finished⟩
  · have hduties := hu.duties h hkept
    refine ⟨hcurrent, hd.hasDuty_congr hduties ▸ hs.tested, fun j q hj => ?_, fun _ => ?_⟩
    · rw [he, Marks.inFlight_finish] at hj
      split_ifs at hj
      exact hs.inFlight j q hj
    · rw [he]
      exact hs.inFlight i p get

/-- What a run of the slot keeps to, whatever else happens in the slot. -/
lemma Begun.run (hd : d.Lawful) (hs : d.Begun slot id s) {as : List d.Action}
    (r : RunIf d.step (d.Undisturbed slot) s as s' os) : d.Begun slot id s' := by
  refine r.invariant (I := fun s _ => d.Begun slot id s) hs ?_
  intro s os a s' o hs hu h
  exact hs.step hd hu h

/-- In the slot of an attempt that began no run, `s₁` being the state it left behind. -/
structure Unbegun (d : Service) (slot : ℤ) (s₁ s : d.State) : Prop where
  current : d.currentSlot s = slot
  duties : d.duties s slot = d.duties s₁ slot
  idle : ¬ d.Performs s slot
  started : (d.marks s).started = (d.marks s₁).started
  inFlight : ∀ i p, (d.marks s).inFlight i = some p → (d.marks s₁).inFlight i = some p
  finished : (d.marks s).finished = (d.marks s₁).finished ∨
    ∃ i, (d.marks s₁).inFlight i = some (d.marks s).finished

lemma Unbegun.step (hd : d.Lawful) (hs : d.Unbegun slot s₁ s) (hu : d.Undisturbed slot s os a)
    (h : d.step s a = some (s', o)) : d.Unbegun slot s₁ s' := by
  have hcurrent := (hu _ h).1
  rcases hd.effect h with ⟨i, -, hperforms, -⟩ | ⟨-, he, hkept⟩ | ⟨i, p, -, get, he, hkept⟩
  · exact absurd (hs.current ▸ hperforms) hs.idle
  · have hduties := hu.duties h hkept
    refine ⟨hcurrent, hduties.trans hs.duties, fun hp => hs.idle ?_, he ▸ hs.started,
      he ▸ hs.inFlight, he ▸ hs.finished⟩
    exact hd.performs_of_step h (by rw [he]) hduties hp
  · have hduties := hu.duties h hkept
    refine ⟨hcurrent, hduties.trans hs.duties, fun hp => hs.idle ?_, he ▸ hs.started,
      fun j q hj => ?_, .inr ⟨i, ?_⟩⟩
    · exact hd.performs_of_step h (by rw [he]; rfl) hduties hp
    · rw [he, Marks.inFlight_finish] at hj
      split_ifs at hj
      exact hs.inFlight j q hj
    · rw [he]
      exact hs.inFlight i p get

/-- An attempt that begins no run leaves such a state behind. -/
lemma unbegun_of_attempt (hd : d.Lawful) (h : d.step s a = some (s₁, o))
    (ha : d.attempt a = some (id, d.currentSlot s)) (hp : ¬ d.Performs s (d.currentSlot s)) :
    d.Unbegun (d.currentSlot s) s₁ s₁ := by
  obtain ⟨hmarks, hduties⟩ := hd.stays h ha hp
  exact {
    current := (hd.fresh h ha).2
    duties := rfl
    idle := fun hp₁ => hp (hd.performs_of_step h (by rw [hmarks]) (hduties _) hp₁)
    started := rfl
    inFlight := fun _ _ hi => hi
    finished := .inl rfl }

lemma Unbegun.run (hd : d.Lawful) (hs : d.Unbegun slot s₁ s) {as : List d.Action}
    (r : RunIf d.step (d.Undisturbed slot) s as s' os) : d.Unbegun slot s₁ s' := by
  refine r.invariant (I := fun s _ => d.Unbegun slot s₁ s) hs ?_
  intro s os a s' o hs hu h
  exact hs.step hd hu h

/-- A run in flight may fail in the slot, with nothing else happening. -/
lemma Lawful.fails_undisturbed (hd : d.Lawful) {p : ℤ} (hget : (d.marks s).inFlight id = some p)
    (hcurrent : d.currentSlot s = slot) :
    ∃ a s' o, d.step s a = some (s', o) ∧ (∀ os, d.Undisturbed slot s os a) ∧
      d.currentSlot s' = slot ∧ d.marks s' = (d.marks s).finish id p ∧
      d.hasDutyForSlot s' slot = d.hasDutyForSlot s slot := by
  obtain ⟨a, s', o, h, hno, hslot, hmarks, hduties⟩ := hd.fails_next hget
  refine ⟨a, s', o, h, fun os p hp => ?_, hslot.trans hcurrent, hmarks,
    hd.hasDuty_congr (hduties slot)⟩
  obtain rfl := Option.some.inj (h.symm.trans hp)
  exact ⟨hslot.trans hcurrent, fun hyes => absurd hyes hno⟩

/-- **After a run of the slot.** Once it is over the wait returns at once in every state of the
slot, unless a run of an earlier slot was in flight. -/
lemma returns_of_begun_iff (hd : d.Lawful) (h : d.step s a = some (s₁, o))
    (ha : d.attempt a = some (id, d.currentSlot s)) (hp : d.Performs s (d.currentSlot s)) :
    (∀ as s₂ os, RunIf d.step (d.Undisturbed (d.currentSlot s)) s₁ as s₂ os →
      (d.marks s₂).inFlight id = none → d.waitForDutyCompletion s₂ = .returned) ↔
    ∀ i p, (d.marks s).inFlight i = some p → d.currentSlot s ≤ p := by
  obtain ⟨hnew, hcurrent⟩ := hd.fresh h ha
  have hmarks := hd.starts h ha hp
  have htested := hd.tested h ha hp
  generalize d.currentSlot s = slot at ha hp hcurrent hmarks htested ⊢
  constructor
  · -- the run of the slot ends first, and then the other one sets the counter
    intro hall i p hi
    have hne : i ≠ id := by
      rintro rfl
      simp [hnew] at hi
    have hown : (d.marks s₁).inFlight id = some slot := by
      rw [hmarks, Marks.inFlight_start, if_pos rfl]
    obtain ⟨a₂, s₂, o₂, h₂, hu₂, hslot₂, hmarks₂, hduty₂⟩ := hd.fails_undisturbed hown hcurrent
    have hother : (d.marks s₂).inFlight i = some p := by
      rw [hmarks₂, Marks.inFlight_finish, if_neg hne, hmarks, Marks.inFlight_start, if_neg hne, hi]
    obtain ⟨a₃, s₃, o₃, h₃, hu₃, hslot₃, hmarks₃, hduty₃⟩ := hd.fails_undisturbed hother hslot₂
    have hnone : (d.marks s₃).inFlight id = none := by
      rw [hmarks₃, Marks.inFlight_finish, if_neg hne.symm, hmarks₂, Marks.inFlight_finish,
        if_pos rfl]
    have hreturned := returned_iff.mp (hall _ _ _ (.snoc (.snoc .nil (hu₂ _) h₂) (hu₃ _) h₃) hnone)
    have hstarted : (d.marks s₃).started = slot := by
      rw [hmarks₃, hmarks₂, hmarks]
      rfl
    rw [hslot₃, hstarted, hmarks₃] at hreturned
    rcases hreturned with ⟨-, hno⟩ | he | ⟨hlt, -⟩
    · exact absurd rfl hno
    · exact (show p = slot from he).ge
    · exact (show slot < p from hlt).le
  · intro hall as s₂ os r hnone
    have hbegun : d.Begun slot id s₁ := by
      refine ⟨hcurrent, htested, fun i p hi => ?_, fun hnone => ?_⟩
      · rw [hmarks, Marks.inFlight_start] at hi
        split_ifs at hi
        · exact (Option.some.inj hi).le
        · exact hall i p hi
      · rw [hmarks, Marks.inFlight_start, if_pos rfl] at hnone
        simp at hnone
    have hs₂ := hbegun.run hd r
    rw [returned_iff, hs₂.current]
    rcases (hs₂.finished hnone).eq_or_lt with he | hlt
    · exact .inr (.inl he.symm)
    · exact .inr (.inr ⟨hlt, hs₂.tested⟩)

/-- **After an attempt that began no run.** The wait looks for a duty of the slot, and finds the
counter as the attempt left it or as a run that was in flight sets it. -/
lemma returns_of_unbegun_iff (hd : d.Lawful) (h : d.step s a = some (s₁, o))
    (ha : d.attempt a = some (id, d.currentSlot s)) (hp : ¬ d.Performs s (d.currentSlot s)) :
    (∀ as s₂ os, RunIf d.step (d.Undisturbed (d.currentSlot s)) s₁ as s₂ os →
      (d.marks s₂).inFlight id = none → d.waitForDutyCompletion s₂ = .returned) ↔
    (d.hasDutyForSlot s (d.currentSlot s) = some false ∧ (d.marks s).started ≠ d.currentSlot s) ∨
    (d.Over s (d.currentSlot s) (d.marks s).finished ∧
      ∀ i p, (d.marks s).inFlight i = some p → d.Over s (d.currentSlot s) p) := by
  obtain ⟨hnew, hcurrent⟩ := hd.fresh h ha
  obtain ⟨hmarks, hduties⟩ := hd.stays h ha hp
  have hduty := hd.hasDuty_congr (hduties (d.currentSlot s))
  have hunbegun := unbegun_of_attempt hd h ha hp
  unfold Over
  generalize d.currentSlot s = slot at ha hp hcurrent hduty hunbegun ⊢
  rw [← hmarks, ← hduty]
  rw [← hmarks] at hnew
  constructor
  · intro hall
    by_cases hquiet : d.hasDutyForSlot s₁ slot = some false ∧ (d.marks s₁).started ≠ slot
    · exact .inl hquiet
    · refine .inr ⟨?_, fun i p hi => ?_⟩
      · have hreturned := returned_iff.mp (hall _ _ _ .nil hnew)
        rw [hcurrent] at hreturned
        exact hreturned.resolve_left hquiet
      · -- that run ends first
        obtain ⟨a₂, s₂, o₂, h₂, hu₂, hslot₂, hmarks₂, hduty₂⟩ := hd.fails_undisturbed hi hcurrent
        have hnone : (d.marks s₂).inFlight id = none := by
          rw [hmarks₂, Marks.inFlight_finish, hnew, ite_self]
        have hreturned := returned_iff.mp (hall _ _ _ (.snoc .nil (hu₂ _) h₂) hnone)
        unfold Over at hreturned
        rw [hslot₂, hduty₂, hmarks₂] at hreturned
        exact hreturned.resolve_left hquiet
  · intro hcond as s₂ os r hnone
    have hs₂ := hunbegun.run hd r
    have hduty₂ := hd.hasDuty_congr hs₂.duties
    rw [returned_iff]
    unfold Over
    rw [hs₂.current, hduty₂, hs₂.started]
    rcases hcond with hquiet | ⟨hover, hall⟩
    · exact .inl hquiet
    · rcases hs₂.finished with he | ⟨i, hi⟩
      · exact .inr (he ▸ hover)
      · exact .inr (hall i _ hi)

/-- The attempt ends at once, and the wait polls as long as the slot lasts. -/
def Stuck (d : Service) (s : d.State) (a : d.Action) : Prop :=
  ∃ id s₁ o, d.attempt a = some (id, d.currentSlot s) ∧ d.step s a = some (s₁, o) ∧
    (d.marks s₁).inFlight id = none ∧
    ∀ as s₂ os, RunIf d.step (d.Undisturbed (d.currentSlot s)) s₁ as s₂ os →
      d.waitForDutyCompletion s₂ = .polling (d.currentSlot s)

/-- There is a duty of the slot, but neither a run of it nor one that would set the counter. -/
lemma Lawful.stuck (hd : d.Lawful) (h : d.step s a = some (s₁, o))
    (ha : d.attempt a = some (id, d.currentSlot s)) (hp : ¬ d.Performs s (d.currentSlot s))
    (hduty : d.hasDutyForSlot s (d.currentSlot s) = some true)
    (hfinished : (d.marks s).finished < d.currentSlot s)
    (hnone : ∀ i, (d.marks s).inFlight i = none) : d.Stuck s a := by
  obtain ⟨hmarks, hduties⟩ := hd.stays h ha hp
  rw [← hd.hasDuty_congr (hduties _)] at hduty
  rw [← hmarks] at hfinished hnone
  refine ⟨id, s₁, o, ha, h, hnone id, fun as s₂ os r => ?_⟩
  have hs₂ := (unbegun_of_attempt hd h ha hp).run hd r
  generalize d.currentSlot s = slot at hduty hfinished hs₂ ⊢
  have hfinished₂ : (d.marks s₂).finished = (d.marks s₁).finished := by
    refine hs₂.finished.resolve_right ?_
    rintro ⟨i, hi⟩
    simp [hnone i] at hi
  unfold waitForDutyCompletion Shutdown.DutyService.waitForDutyCompletion
  dsimp only
  rw [hs₂.current, hfinished₂, if_neg hfinished.ne, hd.hasDuty_congr hs₂.duties, hduty]
  simp [hfinished]

end Service

variable {c : Context} {b : SyncBeaconChain} {d : Service}

/-- **Which attempts a wait returns after.** In the slot of an attempt that has ended, whatever
happens there while the duties of the slot stay as they are, `wait_for_duty_completion` returns
at once if and only if the attempt met a state that can be waited on. -/
theorem waitForDutyCompletion_returns_iff (hd : d ∈ dutyServices c b) {s s₁ : d.State}
    {a : d.Action} {o : List d.Output} {id : ℕ} (ha : d.attempt a = some (id, d.currentSlot s))
    (h : d.step s a = some (s₁, o)) :
    (∀ as s₂ os, RunIf d.step (d.Undisturbed (d.currentSlot s)) s₁ as s₂ os →
      (d.marks s₂).inFlight id = none → d.waitForDutyCompletion s₂ = .returned) ↔
    d.Waitable s (d.currentSlot s) := by
  have hlawful := lawful_of_mem hd
  by_cases hp : d.Performs s (d.currentSlot s)
  · rw [Service.returns_of_begun_iff hlawful h ha hp]
    exact ⟨fun hall => ⟨fun _ => hall, fun hno => absurd hp hno⟩, fun hw => hw.1 hp⟩
  · rw [Service.returns_of_unbegun_iff hlawful h ha hp]
    exact ⟨fun hcond => ⟨fun hyes => absurd hyes hp, fun _ => hcond⟩, fun hw => hw.2 hp⟩

/-! ### Waits that return, and waits that do not -/

/-- A validator with an attester duty and a proposer duty in slot 1. -/
def due : List Services.Action :=
  Services.activated :: Services.attesterUpdate "0xA" [Services.attesterDuty 1] ++
    Services.proposerUpdate [⟨"0xa", 7, 1⟩]

def headEvent : Services.Action := .attestation (.handleHeadEvent 0 ⟨1, "0xb", "0xp", "0xc"⟩)

/-- The head event has the validator attest, and nobody waits once that is over. -/
theorem waitForDutyCompletion_returns_due : ∃ s os s₁ o,
    Run (Services.step (mainnet id)) Services.fresh due s os ∧
    (attestation (mainnet id)).step s headEvent = some (s₁, o) ∧
    ∀ as s₂ os, RunIf (attestation (mainnet id)).step
        ((attestation (mainnet id)).Undisturbed ((attestation (mainnet id)).currentSlot s))
        s₁ as s₂ os →
      ((attestation (mainnet id)).marks s₂).inFlight 0 = none →
      (attestation (mainnet id)).waitForDutyCompletion s₂ = .returned := by
  obtain ⟨s, os, r, hp⟩ := @exec_any _ _ _ (Services.step (mainnet id)) (fun _ _ _ => True)
    Services.fresh due _ (fun s _ => (mainnet id).currentSlot s.now = 1 ∧
      ((Services.step (mainnet id) s headEvent).isSome ∧
        ∀ r ∈ s.attestation.attestRuns.values, r.flight = none) ∧
      ¬ (mainnet id).refuses s.now ∧ s.attestation.lastSlotDutyStartedFor < 1 ∧
      s.attestation.hasDutyForSlot (mainnet id) 1) (by decide +kernel)
  obtain ⟨hslot, ⟨hstep, hidle⟩, hperforms⟩ := of_decide_eq_true hp
  obtain ⟨⟨s₁, o⟩, hs⟩ := Option.isSome_iff_exists.mp hstep
  have ha : (attestation (mainnet id)).attempt headEvent =
    some (0, (attestation (mainnet id)).currentSlot s) := congrArg (fun p => some (0, p)) hslot.symm
  have hperforms : (attestation (mainnet id)).Performs s
      ((attestation (mainnet id)).currentSlot s) := by
    change s.attestation.Performs (mainnet id) s.now ((mainnet id).currentSlot s.now)
    rw [hslot]
    exact hperforms
  refine ⟨s, os, s₁, o, r, hs, ?_⟩
  refine (waitForDutyCompletion_returns_iff (c := mainnet id) (b := SyncCommitteeService.periods)
    (by simp [dutyServices]) ha hs).mpr ⟨fun _ i p hi => ?_, fun hno => absurd hperforms hno⟩
  exact absurd (hi.symm.trans (flights_eq_none hidle i)) (Option.some_ne_none p)

def slashed : List Services.Action := due ++ [.tracker (.slashedValidators [⟨7, "0xa"⟩])]

def newSlot : Services.Action := .blockProposal (.onNewSlot 0 1)

/-- The last slot of the first period has begun, and the duties of that period are stored. -/
def lastSlot : SyncCommitteeService.State :=
  .init (1606824023 + 8191 * 12) (Dict.empty.set 0 (SyncCommitteeService.committee 0))

/-- The duties of slot 1 are refused because a slashing was detected, and the waits poll for
them. In the last slot of a period nobody is asked to sign, and the wait polls as well. -/
theorem waitForDutyCompletion_polls :
    (∃ s os, Run (Services.step (mainnet id)) Services.fresh slashed s os ∧
      (attestation (mainnet id)).Stuck s headEvent ∧
      (blockProposal (mainnet id)).Stuck s newSlot) ∧
    (syncCommittee SyncCommitteeService.periods).Stuck lastSlot
      (.handleHeadEvent 0 (SyncCommitteeService.headEvent 8191)) := by
  constructor
  · obtain ⟨s, os, r, hp⟩ := @exec_any _ _ _ (Services.step (mainnet id)) (fun _ _ _ => True)
      Services.fresh slashed _ (fun s _ =>
        ((mainnet id).currentSlot s.now = 1 ∧ (mainnet id).refuses s.now) ∧
        ((Services.step (mainnet id) s headEvent).isSome ∧
          s.attestation.hasDutyForSlot (mainnet id) 1 ∧
          s.attestation.lastSlotDutyCompletedFor < 1 ∧
          ∀ r ∈ s.attestation.attestRuns.values, r.flight = none) ∧
        (Services.step (mainnet id) s newSlot).isSome ∧
          s.blockProposal.hasDutyForSlot (mainnet id) 1 = some true ∧
          s.blockProposal.lastSlotDutyCompletedFor < 1 ∧
          ∀ t ∈ s.blockProposal.slotTasks.values, t.flight = none) (by decide +kernel)
    obtain ⟨⟨hslot, hrefuses⟩, ⟨hstep, hduty, hlast, hidle⟩, hstep', hduty', hlast', hidle'⟩ :=
      of_decide_eq_true hp
    refine ⟨s, os, r, ?_, ?_⟩
    · obtain ⟨⟨s₁, o⟩, hs⟩ := Option.isSome_iff_exists.mp hstep
      refine (attestation_lawful (mainnet id)).stuck hs
        (congrArg (fun p => some (0, p)) hslot.symm) (fun hp => hp.1 hrefuses) ?_
        (hslot.symm ▸ hlast : _ < (mainnet id).currentSlot s.now)
        (fun i => flights_eq_none hidle i)
      change some (decide (s.attestation.hasDutyForSlot (mainnet id)
        ((mainnet id).currentSlot s.now))) = some true
      rw [hslot]
      simp [hduty]
    · obtain ⟨⟨s₁, o⟩, hs⟩ := Option.isSome_iff_exists.mp hstep'
      exact (blockProposal_lawful (mainnet id)).stuck hs
        (congrArg (fun p => some (0, p)) hslot.symm) (fun hp => hp.1 hrefuses)
        (hslot.symm ▸ hduty' : s.blockProposal.hasDutyForSlot (mainnet id)
          ((mainnet id).currentSlot s.now) = some true)
        (hslot.symm ▸ hlast' : _ < (mainnet id).currentSlot s.now)
        (fun i => flights_eq_none hidle' i)
  · obtain ⟨s₁, o, hs⟩ : ∃ s₁ o, (syncCommittee SyncCommitteeService.periods).step lastSlot
        (.handleHeadEvent 0 (SyncCommitteeService.headEvent 8191)) = some (s₁, o) := ⟨_, _, rfl⟩
    have hslot : SyncCommitteeService.periods.currentSlot lastSlot.time = 8191 := by
      decide +kernel
    have hmembers : ¬ (lastSlot.syncCommitteeMembers SyncCommitteeService.periods
        (SyncCommitteeService.periods.currentSlot lastSlot.time)).Nonempty := by
      decide +kernel
    refine (syncCommittee_lawful SyncCommitteeService.periods).stuck hs
      (congrArg (fun p => some (0, p)) hslot.symm) (fun hp => hmembers hp.2) ?_ ?_
      fun i => congrFun (congrArg Marks.inFlight (SyncCommitteeService.marks_init _ _)) i
    · decide +kernel
    · decide +kernel

end Vero.DutyRuns
