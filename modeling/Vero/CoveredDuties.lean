import Vero.AttestationSteps

/-!
Which duties of a response are in the store, and which are still to come.
-/

namespace Vero.AttestationService

open Lib SchemaBeaconAPI

variable {c : Context} {now : Moment}
variable {slot slot' : ℤ} {stored stored' : Duties} {duties rest batch : List AttesterDuty}

/-! ### Covered duties -/

/-- Every duty later than the slot is stored with a selection proof, or still pending. -/
def Covers (slot : ℤ) (stored : Duties) (duties pending : List AttesterDuty) : Prop :=
  ∀ d ∈ duties, slot < d.slot →
    (∃ p ∈ stored, p.toAttesterDuty = d) ∨ d ∈ pending

instance (pending : List AttesterDuty) : Decidable (Covers slot stored duties pending) :=
  inferInstanceAs (Decidable (∀ d ∈ _, _))

lemma Covers.mono (h : Covers slot stored duties rest) (hslot : slot ≤ slot')
    (hstored : ∀ p ∈ stored, slot' < p.slot → p ∈ stored') :
    Covers slot' stored' duties rest := by
  intro d hd hlater
  rcases h d hd (hslot.trans_lt hlater) with ⟨p, hp, rfl⟩ | hpending
  · exact .inl ⟨p, hstored p hp hlater, rfl⟩
  · exact .inr hpending

lemma covers_past (h : ∀ d ∈ duties, d.slot ≤ slot) : Covers slot stored duties rest :=
  fun d hd hlater => absurd (h d hd) (not_le.mpr hlater)

/-- A batch that arrived with its proofs is pending no longer. -/
lemma Covers.store (h : Covers slot stored duties (batch ++ rest))
    {proofs : List AttesterDutyWithSelectionProof}
    (hproofs : proofs.map AttesterDutyWithSelectionProof.toAttesterDuty = batch) :
    Covers slot (stored ∪ proofs.toFinset) duties rest := by
  intro d hd hlater
  rcases h d hd hlater with ⟨p, hp, rfl⟩ | hpending
  · exact .inl ⟨p, Finset.mem_union_left _ hp, rfl⟩
  · rcases List.mem_append.mp hpending with hbatch | hrest
    · rw [← hproofs] at hbatch
      obtain ⟨p, hp, he⟩ := List.mem_map.mp hbatch
      exact .inl ⟨p, Finset.mem_union_right _ (List.mem_toFinset.mpr hp), he⟩
    · exact .inr hrest

/-- The two batches of a response have all its duties but those of earlier slots. -/
lemma mem_due {response : GetAttesterDutiesResponse} {d : AttesterDuty} :
    d ∈ [State.dueSoon c now response, State.dueLater c now response].flatten ↔
      d ∈ response.data ∧ c.currentSlot now ≤ d.slot := by
  simp only [List.flatten_cons, List.flatten_nil, List.append_nil, List.mem_append,
    State.dueSoon, State.dueLater, List.mem_filter, decide_eq_true_eq]
  constructor
  · rintro (⟨hd, hdue, -⟩ | ⟨hd, hlater⟩)
    · exact ⟨hd, hdue⟩
    · exact ⟨hd, by omega⟩
  · rintro ⟨hd, hdue⟩
    rcases Int.lt_or_le (c.currentSlot now + 1) d.slot with h | h
    · exact .inr ⟨hd, h⟩
    · exact .inl ⟨hd, hdue, h⟩

lemma covers_due (response : GetAttesterDutiesResponse) :
    Covers (c.currentSlot now) stored response.data
      [State.dueSoon c now response, State.dueLater c now response].flatten :=
  fun _ hd hlater => .inr (mem_due.mpr ⟨hd, hlater.le⟩)

end Vero.AttestationService
