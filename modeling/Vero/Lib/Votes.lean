import Mathlib.Data.Finset.Card
import Mathlib.Data.Finset.Filter
import Mathlib.Data.List.Infix

/-!
Voters that answer again and again: the latest answer of each, who supports a value, and
the first moment a value is supported by enough of them.
-/

namespace Vero.Lib.Votes

variable {ι α : Type*} [DecidableEq ι] [DecidableEq α]

/-- One answer: the voter, and its value or nothing where it failed to give one. -/
abbrev Ballot (ι α : Type*) := ι × Option α

/-- The last value the voter gave; a failure leaves it as it was. -/
def latest (bs : List (Ballot ι α)) (i : ι) : Option α :=
  bs.foldl (fun v b => if b.1 = i then b.2.or v else v) none

def supporters (bs : List (Ballot ι α)) (x : α) : Finset ι :=
  {i ∈ (bs.map Prod.fst).toFinset | latest bs i = some x}

/-- At least `k` distinct voters support the value. -/
def Agreed (k : ℕ) (bs : List (Ballot ι α)) (x : α) : Prop := k ≤ (supporters bs x).card

/-- The answers contain a first moment of agreement, and it is on `x`. -/
def FirstAgreed (k : ℕ) (bs : List (Ballot ι α)) (x : α) : Prop :=
  ∃ p b s, bs = p ++ b :: s ∧ (∀ q, q <+: p → ∀ y, ¬ Agreed k q y) ∧ Agreed k (p ++ [b]) x

omit [DecidableEq α] in
@[simp] lemma latest_nil (i : ι) : latest ([] : List (Ballot ι α)) i = none := rfl

omit [DecidableEq α] in
lemma latest_snoc (bs : List (Ballot ι α)) (b : Ballot ι α) (i : ι) :
    latest (bs ++ [b]) i = if b.1 = i then b.2.or (latest bs i) else latest bs i := by
  simp [latest]

omit [DecidableEq α] in
lemma mem_of_latest {bs : List (Ballot ι α)} {i : ι} {x : α} (h : latest bs i = some x) :
    (i, some x) ∈ bs := by
  induction bs using List.reverseRecOn with
  | nil => simp at h
  | append_singleton bs b ih =>
    obtain ⟨j, v⟩ := b
    rw [latest_snoc] at h
    by_cases hj : j = i
    · subst hj
      cases v with
      | none => simp only [if_true, Option.none_or] at h; simp [ih h]
      | some y =>
        simp only [if_true, Option.some_or, Option.some.injEq] at h
        simp [h]
    · simp only [hj, if_false] at h
      simp [ih h]

@[simp] lemma mem_supporters {bs : List (Ballot ι α)} {i : ι} {x : α} :
    i ∈ supporters bs x ↔ latest bs i = some x := by
  simp only [supporters, Finset.mem_filter, List.mem_toFinset, and_iff_right_iff_imp]
  exact fun h => List.mem_map.mpr ⟨_, mem_of_latest h, rfl⟩

lemma not_agreed_nil {k : ℕ} (hk : 1 ≤ k) (x : α) : ¬ Agreed k ([] : List (Ballot ι α)) x := by
  simp [Agreed, supporters]
  omega

/-- Only the value of the last answer can come to be agreed on by it. -/
lemma eq_of_agreed_snoc {k : ℕ} {bs : List (Ballot ι α)} {b : Ballot ι α} {x : α}
    (h : Agreed k (bs ++ [b]) x) (h' : ¬ Agreed k bs x) :
    b.2 = some x ∧ latest bs b.1 ≠ some x := by
  by_contra hc
  refine h' (le_trans h (Finset.card_le_card fun i hi => ?_))
  rw [mem_supporters, latest_snoc] at hi
  rw [mem_supporters]
  by_cases hb : b.1 = i
  · subst hb
    simp only [if_true] at hi
    cases hv : b.2 with
    | none => simpa [hv] using hi
    | some y =>
      simp only [hv, Option.some_or] at hi
      by_contra hl
      exact hc ⟨hv.trans hi, hl⟩
  · simpa [hb] using hi

lemma FirstAgreed.snoc {k : ℕ} {bs : List (Ballot ι α)} {x : α} (h : FirstAgreed k bs x)
    (b : Ballot ι α) : FirstAgreed k (bs ++ [b]) x := by
  obtain ⟨p, c, s, rfl, hp, hx⟩ := h
  exact ⟨p, c, s ++ [b], by simp, hp, hx⟩

/-- Without agreement so far, the first agreement can only come with the last answer. -/
lemma firstAgreed_snoc_iff {k : ℕ} {bs : List (Ballot ι α)} {b : Ballot ι α} {x : α}
    (hnone : ∀ q, q <+: bs → ∀ y, ¬ Agreed k q y) :
    FirstAgreed k (bs ++ [b]) x ↔ Agreed k (bs ++ [b]) x := by
  refine ⟨fun ⟨p, c, s, he, hp, hx⟩ => ?_, fun h => ⟨bs, b, [], rfl, hnone, h⟩⟩
  rcases List.eq_nil_or_concat s with rfl | ⟨s', d, rfl⟩
  · rwa [he]
  · have hpre : p ++ [c] <+: bs := by
      have he' : bs ++ [b] = (p ++ c :: s') ++ [d] := by simpa using he
      have := (List.append_inj' he' rfl).1
      exact ⟨s', by simp [this]⟩
    exact absurd hx (hnone _ hpre x)

/-- The first moment of agreement is one moment, on one value. -/
lemma FirstAgreed.unique {k : ℕ} {bs : List (Ballot ι α)} {x y : α} (hx : FirstAgreed k bs x)
    (hy : FirstAgreed k bs y) : x = y := by
  obtain ⟨p, b, s, he, hp, hb⟩ := hx
  obtain ⟨p', b', s', he', hp', hb'⟩ := hy
  have hpre : p ++ [b] <+: bs := ⟨s, by simp [he]⟩
  have hpre' : p' ++ [b'] <+: bs := ⟨s', by simp [he']⟩
  have hsame : p ++ [b] = p' ++ [b'] := by
    rcases List.prefix_or_prefix_of_prefix hpre hpre' with h | h
    · rcases List.prefix_concat_iff.mp h with h' | h'
      · exact h'
      · exact absurd hb (hp' _ h' x)
    · rcases List.prefix_concat_iff.mp h with h' | h'
      · exact h'.symm
      · exact absurd hb' (hp _ h' y)
  have hlast := (eq_of_agreed_snoc hb (hp p (List.prefix_refl p) x)).1
  rw [hsame] at hb
  obtain ⟨-, hbb⟩ := List.append_inj' hsame rfl
  have hlast' := (eq_of_agreed_snoc hb' (hp' p' (List.prefix_refl p') y)).1
  obtain rfl : b = b' := by simpa using hbb
  exact Option.some.inj (hlast.symm.trans hlast')

/-! ### Vouching -/

/-- The voters that at some point gave a value with the property. -/
def vouchers (vs : List (ι × α)) (P : α → Prop) [DecidablePred P] : Finset ι :=
  ((vs.filter fun v => P v.2).map Prod.fst).toFinset

/-- At least `k` distinct voters at some point gave a value with the property. -/
def Vouched (k : ℕ) (vs : List (ι × α)) (P : α → Prop) [DecidablePred P] : Prop :=
  k ≤ (vouchers vs P).card

instance (k : ℕ) (vs : List (ι × α)) (P : α → Prop) [DecidablePred P] :
    Decidable (Vouched k vs P) := inferInstanceAs (Decidable (_ ≤ _))

section

variable {k : ℕ} {vs ws : List (ι × α)} {P Q : α → Prop} [DecidablePred P] [DecidablePred Q]

omit [DecidableEq α] in
@[simp] lemma mem_vouchers {i : ι} : i ∈ vouchers vs P ↔ ∃ x, (i, x) ∈ vs ∧ P x := by
  simp [vouchers]

omit [DecidableEq α] in
/-- What was vouched for stays so as more values are given. -/
lemma Vouched.mono (hs : vs ⊆ ws) (hP : ∀ x, P x → Q x) (h : Vouched k vs P) :
    Vouched k ws Q := by
  have hsub : vouchers vs P ⊆ vouchers ws Q := by
    intro i hi
    obtain ⟨x, hx, hp⟩ := mem_vouchers.mp hi
    exact mem_vouchers.mpr ⟨x, hs hx, hP x hp⟩
  calc k ≤ (vouchers vs P).card := h
    _ ≤ (vouchers ws Q).card := Finset.card_le_card hsub

omit [DecidableEq α] in
lemma Vouched.of_finset {s : Finset ι} (hk : k ≤ s.card)
    (h : ∀ i ∈ s, ∃ x, (i, x) ∈ vs ∧ P x) : Vouched k vs P := by
  have hsub : s ⊆ vouchers vs P := fun i hi => mem_vouchers.mpr (h i hi)
  calc k ≤ s.card := hk
    _ ≤ (vouchers vs P).card := Finset.card_le_card hsub

omit [DecidableEq α] in
lemma Vouched.of_nodup {l : List ι} (hl : l.Nodup) (hk : k ≤ l.length)
    (h : ∀ i ∈ l, ∃ x, (i, x) ∈ vs ∧ P x) : Vouched k vs P := by
  have hcard : l.toFinset.card = l.length := List.toFinset_card_of_nodup hl
  refine .of_finset (hcard ▸ hk) fun i hi => ?_
  exact h i (List.mem_toFinset.mp hi)

end

/-! ### Majorities -/

/-- **Majorities meet**: of two sets of more than half of the voters each, one voter is in
both. -/
lemma majority_meets {k : ℕ} {voters A B : Finset ι} (hk : voters.card < 2 * k)
    (hA : A ⊆ voters) (hB : B ⊆ voters) (hAk : k ≤ A.card) (hBk : k ≤ B.card) :
    (A ∩ B).Nonempty := by
  rw [← Finset.card_pos]
  have hu := Finset.card_union_add_card_inter A B
  have hle := Finset.card_le_card (Finset.union_subset hA hB)
  omega

end Vero.Lib.Votes
