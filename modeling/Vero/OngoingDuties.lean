import Vero.DutyRuns

/-!
`has_ongoing_duty`: whether the last slot a duty was started for is the current one and comes
after the last slot one was completed for.

With one run at a time that is whether a run of the current slot is in flight. Where runs
overlap, it is as long as they come to their ends in turn.
-/

namespace Vero.DutyRuns

open Lib Lib.Runs

namespace Service

variable (d : Service)

/-- A clock that does not go back to an earlier slot. -/
def Forward : Guard d.State d.Action d.Output := fun s _ a =>
  ∀ p ∈ d.step s a, d.currentSlot s ≤ d.currentSlot p.1

instance {s : d.State} {os : List d.Output} {a : d.Action} : Decidable (d.Forward s os a) :=
  inferInstanceAs (Decidable (∀ p ∈ d.step s a, _))

instance {s : d.State} : Decidable (d.hasOngoingDuty s) := inferInstanceAs (Decidable (_ ∧ _))

/-- A run starts for a slot later than the last one completed. It ends where no run for a later
slot has been the last to end, and if its slot is the current one, where it is the last of it. -/
def InTurn : Guard d.State d.Action d.Output := fun s _ a =>
  ∀ p ∈ d.step s a, (d.marks s).InTurn (d.currentSlot s) (d.marks p.1)

/-- `has_ongoing_duty` is exact after the step, and the last slot completed has not fallen. -/
def Tells : Guard d.State d.Action d.Output := fun s _ a =>
  ∀ p ∈ d.step s a, (d.hasOngoingDuty p.1 ↔ (d.marks p.1).Running (d.currentSlot p.1)) ∧
    (d.marks s).finished ≤ (d.marks p.1).finished

/-- The marks of the service stand for its runs. -/
def Exact (s : d.State) : Prop := (d.marks s).Exact (d.currentSlot s)

variable {d} {s s' : d.State} {a : d.Action} {o : List d.Output}

/-- **One step.** -/
lemma Exact.tells_iff (hd : d.Lawful) (hs : d.Exact s) {os : List d.Output}
    (hforward : d.Forward s os a) : d.Tells s os a ↔ d.InTurn s os a := by
  refine forall₂_congr fun p hp => ?_
  have hmove := hd.move (Option.mem_def.mp hp)
  by_cases hsame : d.marks p.1 = d.marks s
  · have hlater := Marks.Exact.later hs (hforward p hp)
    unfold hasOngoingDuty
    rw [hsame]
    exact iff_of_true ⟨hlater.ongoing_iff, le_rfl⟩ (Marks.inTurn_stay _ _)
  · unfold hasOngoingDuty
    rw [hd.sameSlot (Option.mem_def.mp hp) hsame]
    exact Marks.Exact.move_iff hs hmove

lemma Exact.step (hd : d.Lawful) (hs : d.Exact s) {os : List d.Output}
    (hforward : d.Forward s os a) (hturn : d.InTurn s os a) (h : d.step s a = some (s', o)) :
    d.Exact s' := by
  by_cases hsame : d.marks s' = d.marks s
  · unfold Exact
    rw [hsame]
    exact Marks.Exact.later hs (hforward _ h)
  · unfold Exact
    rw [hd.sameSlot h hsame]
    exact Marks.Exact.move hs (hd.move h) (hturn _ h)

end Service

variable {c : Context} {b : SyncBeaconChain} {d : Service}

/-- **When `has_ongoing_duty` is exact.** In a run of any of the services it always is, and the
last slot completed never falls, if and only if the runs of the duty come to their ends in
turn. -/
theorem hasOngoingDuty_exact_iff (hd : d ∈ dutyServices c b) {s₀ : d.State}
    (h₀ : d.marks s₀ = .idle) :
    (∀ as s os, RunIf d.step (fun s os a => d.Forward s os a ∧ d.InTurn s os a) s₀ as s os →
      (d.hasOngoingDuty s ↔ (d.marks s).Running (d.currentSlot s))) ∧
    ∀ as s os, RunIf d.step (fun s os a => d.Forward s os a ∧ d.Tells s os a) s₀ as s os ↔
      RunIf d.step (fun s os a => d.Forward s os a ∧ d.InTurn s os a) s₀ as s os := by
  have hlawful := lawful_of_mem hd
  have hstart : d.Exact s₀ := by
    unfold Service.Exact
    rw [h₀]
    exact Marks.exact_idle (hlawful.nonneg s₀)
  have hturn : ∀ {as s os},
      RunIf d.step (fun s os a => d.Forward s os a ∧ d.InTurn s os a) s₀ as s os →
      d.Exact s ∧ RunIf d.step (fun s os a => d.Forward s os a ∧ d.Tells s os a) s₀ as s os :=
    RunIf.mono_of_invariant hstart (fun s os a s' o hs hC h => hs.step hlawful hC.1 hC.2 h)
      fun s os a hs hC => ⟨hC.1, (hs.tells_iff hlawful hC.1).mpr hC.2⟩
  refine ⟨fun as s os r => (hturn r).1.ongoing_iff, fun as s os => ⟨fun r => ?_, fun r =>
    (hturn r).2⟩⟩
  exact (RunIf.mono_of_invariant hstart
    (fun s os a s' o hs hC h => hs.step hlawful hC.1 ((hs.tells_iff hlawful hC.1).mp hC.2) h)
    (fun s os a hs hC => ⟨hC.1, (hs.tells_iff hlawful hC.1).mp hC.2⟩) r).2

abbrev mainnetAttestation : Service := attestation (mainnet id)

abbrev mainnetSync : Service := syncCommittee SyncCommitteeService.periods

/-- A sync committee service that has the duties of the first period. -/
def stored : SyncCommitteeService.State :=
  .init 0 (Dict.empty.set 0 (SyncCommitteeService.committee 0))

/-- In turn, of runs whose numbers are below `n`. -/
def InTurnBelow (n : ℕ) (m : Marks ℕ) (now : ℤ) (m' : Marks ℕ) : Prop :=
  ∀ i < n, (∀ p ∈ m'.inFlight i, m.inFlight i = none → m.finished < p) ∧
    ∀ p ∈ m.inFlight i, m'.inFlight i = none →
      m.finished ≤ p ∧ (p = now → ∀ j < n, m.inFlight j = some p → j = i)

instance (n : ℕ) (m : Marks ℕ) (now : ℤ) (m' : Marks ℕ) : Decidable (InTurnBelow n m now m') :=
  inferInstanceAs (Decidable (∀ i < n, (∀ p ∈ m'.inFlight i, m.inFlight i = none →
    m.finished < p) ∧ ∀ p ∈ m.inFlight i, m'.inFlight i = none →
      m.finished ≤ p ∧ (p = now → ∀ j < n, m.inFlight j = some p → j = i)))

lemma inTurn_of_below {n : ℕ} {m m' : Marks ℕ} {now : ℤ} (h : InTurnBelow n m now m')
    (hm : ∀ i, n ≤ i → m.inFlight i = none) (hm' : ∀ i, n ≤ i → m'.inFlight i = none) :
    m.InTurn now m' := by
  refine ⟨fun i p hnone hsome => ?_, fun i p hsome hnone => ?_⟩
  · have hi : i < n := not_le.mp fun hle => by simp [hm' i hle] at hsome
    exact (h i hi).1 p hsome hnone
  · have hi : i < n := not_le.mp fun hle => by simp [hm i hle] at hsome
    obtain ⟨hle, honly⟩ := (h i hi).2 p hsome hnone
    refine ⟨hle, fun hnow j hj => ?_⟩
    exact honly hnow j (not_le.mp fun hle => by simp [hm j hle] at hj) hj

/-- The runs of a sync committee service have the numbers 0 and 1 and end in turn, and its clock
does not go back. -/
def TwoInTurn : Guard SyncCommitteeService.State SyncCommitteeService.Action
    SyncCommitteeService.Output := fun s _ a =>
  ∀ p ∈ SyncCommitteeService.step SyncCommitteeService.periods s a,
    SyncCommitteeService.periods.currentSlot s.time ≤
        SyncCommitteeService.periods.currentSlot p.1.time ∧
      (∀ i ∈ p.1.produceRuns.keys, i < 2) ∧
      InTurnBelow 2 s.marks (SyncCommitteeService.periods.currentSlot s.time) p.1.marks

instance (s : SyncCommitteeService.State) (os : List SyncCommitteeService.Output)
    (a : SyncCommitteeService.Action) : Decidable (TwoInTurn s os a) :=
  inferInstanceAs (Decidable (∀ p ∈ _, _))

lemma inTurn_of_two {as : List SyncCommitteeService.Action} {s : SyncCommitteeService.State}
    {os : List SyncCommitteeService.Output} (r : RunIf mainnetSync.step TwoInTurn stored as s os) :
    RunIf mainnetSync.step (fun s os a => mainnetSync.Forward s os a ∧ mainnetSync.InTurn s os a)
      stored as s os := by
  have hbelow : ∀ t : SyncCommitteeService.State, (∀ i ∈ t.produceRuns.keys, i < 2) →
      ∀ i, 2 ≤ i → t.marks.inFlight i = none := by
    intro t hkeys i hi
    refine Option.bind_eq_none_iff.mpr fun r hr => ?_
    exact absurd (hkeys i (Dict.mem_keys_iff.mpr ⟨r, hr⟩)) (not_lt.mpr hi)
  refine (RunIf.mono_of_invariant
    (I := fun t : SyncCommitteeService.State => ∀ i ∈ t.produceRuns.keys, i < 2) ?_ ?_ ?_ r).2
  · exact nofun
  · intro t os a t' o _ htwo h
    exact (htwo (t', o) h).2.1
  · intro t os a ht htwo
    refine ⟨fun p hp => (htwo p hp).1, fun p hp => ?_⟩
    obtain ⟨-, hkeys, hturn⟩ := htwo p hp
    exact inTurn_of_below hturn (hbelow t ht) (hbelow p.1 hkeys)

/-- Head events of slots 0 and 1 start a run each, and the first is the first to end. -/
def overlapping : List SyncCommitteeService.Action :=
  [.handleHeadEvent 0 (SyncCommitteeService.headEvent 0),
    .clock (SyncCommitteeService.periods.getTimestampForSlot 1),
    .handleHeadEvent 1 (SyncCommitteeService.headEvent 1), .produceFailed 0]

/-- The first of two overlapping runs has ended, and then both have. -/
theorem hasOngoingDuty_exact_overlapping :
    (∃ s os, RunIf mainnetSync.step
        (fun s os a => mainnetSync.Forward s os a ∧ mainnetSync.Tells s os a) stored
        overlapping s os ∧ mainnetSync.hasOngoingDuty s) ∧
      ∃ s os, RunIf mainnetSync.step
        (fun s os a => mainnetSync.Forward s os a ∧ mainnetSync.Tells s os a) stored
        (overlapping ++ [.produceFailed 1]) s os ∧ ¬ mainnetSync.hasOngoingDuty s := by
  obtain ⟨hexact, hiff⟩ := hasOngoingDuty_exact_iff (c := mainnet id)
    (b := SyncCommitteeService.periods) (d := mainnetSync) (by simp [dutyServices])
    (SyncCommitteeService.marks_init 0 _)
  constructor
  · obtain ⟨s, os, r, hp⟩ := @exec_any _ _ _
      (SyncCommitteeService.step SyncCommitteeService.periods) TwoInTurn stored overlapping _
      (fun s _ => s.marks.inFlight 1 =
        some (SyncCommitteeService.periods.currentSlot s.time)) (by decide +kernel)
    have hturn := inTurn_of_two r
    exact ⟨s, os, (hiff _ _ _).mpr hturn, (hexact _ _ _ hturn).mpr ⟨1, of_decide_eq_true hp⟩⟩
  · obtain ⟨s, os, r, hp⟩ := @exec_any _ _ _
      (SyncCommitteeService.step SyncCommitteeService.periods) TwoInTurn stored
      (overlapping ++ [.produceFailed 1]) _
      (fun s _ => ∀ r ∈ s.produceRuns.values, r.flight = none) (by decide +kernel)
    have hturn := inTurn_of_two r
    refine ⟨s, os, (hiff _ _ _).mpr hturn, fun hongoing => ?_⟩
    obtain ⟨i, hi⟩ := (hexact _ _ _ hturn).mp hongoing
    exact Option.some_ne_none _ (hi.symm.trans (flights_eq_none (of_decide_eq_true hp) i))

/-! ### Runs that are out of turn -/

/-- The attestations of slot 1 outlast those of slot 2. -/
def outlasted : List Services.Action :=
  Services.activated ::
    Services.attesterUpdate "0xA" [Services.attesterDuty 1, Services.attesterDuty 2] ++
    [.attestation (.handleHeadEvent 0 ⟨1, "0xb", "0xp", "0xc"⟩), .clock 1606824047,
      .attestation (.handleHeadEvent 1 ⟨2, "0xb", "0xp", "0xc"⟩), .attestation (.attestEnded 1)]

/-- Two head events in slot 0 start a run each. -/
def twoHeads : List SyncCommitteeService.Action :=
  [.handleHeadEvent 0 (SyncCommitteeService.headEvent 0),
    .handleHeadEvent 1 (SyncCommitteeService.headEvent 0), .produceFailed 0]

/-- The run of slot 1 ends last and takes the counter back. The service then has an ongoing duty
with nothing in flight. Of two runs for one slot the first that ends hides the other. -/
theorem hasOngoingDuty_not_exact :
    (∃ s os s' o,
      RunIf mainnetAttestation.step mainnetAttestation.Forward Services.fresh outlasted s os ∧
      mainnetAttestation.step s (.attestation (.attestEnded 0)) = some (s', o) ∧
      (mainnetAttestation.marks s').finished < (mainnetAttestation.marks s).finished ∧
      mainnetAttestation.hasOngoingDuty s' ∧
      ∀ slot, ¬ (mainnetAttestation.marks s').Running slot) ∧
    ∃ s os, RunIf mainnetSync.step mainnetSync.Forward stored twoHeads s os ∧
      ¬ mainnetSync.hasOngoingDuty s ∧
      (mainnetSync.marks s).Running (mainnetSync.currentSlot s) := by
  constructor
  · obtain ⟨s, os, s', o, r, -, hs, hp⟩ := @exec_next _ _ _ mainnetAttestation.step
      mainnetAttestation.Forward Services.fresh outlasted _ (.attestation (.attestEnded 0))
      (fun s s' _ =>
        (mainnetAttestation.marks s').finished < (mainnetAttestation.marks s).finished ∧
        mainnetAttestation.hasOngoingDuty s' ∧
        ∀ r ∈ s'.attestation.attestRuns.values, r.flight = none) (by decide +kernel)
    obtain ⟨hfell, hongoing, hvalues⟩ := of_decide_eq_true hp
    refine ⟨s, os, s', o, r, hs, hfell, hongoing, ?_⟩
    rintro slot ⟨i, hi⟩
    exact Option.some_ne_none slot (hi.symm.trans (flights_eq_none hvalues i))
  · obtain ⟨s, os, r, hp⟩ := @exec_any _ _ _ mainnetSync.step mainnetSync.Forward
      stored twoHeads _ (fun s _ =>
        (SyncCommitteeService.State.marks s).inFlight 1 =
          some (SyncCommitteeService.periods.currentSlot s.time) ∧
        ¬ mainnetSync.hasOngoingDuty s) (by decide +kernel)
    obtain ⟨hget, hidle⟩ := of_decide_eq_true hp
    exact ⟨s, os, r, hidle, 1, hget⟩

end Vero.DutyRuns
