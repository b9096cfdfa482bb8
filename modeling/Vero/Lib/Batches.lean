import Mathlib.Data.List.Basic
import Mathlib.Data.List.Forall2

/-!
Cutting a list into slices of one size, the last of which may be shorter.

The slices are taken at the offsets `0, b, 2 * b, …`. Put together again they are the list.
-/

namespace Vero.Lib.Batches

variable {α β : Type*} {l : List α} {b : ℕ}

/-- The multiples of `b` below `n`. -/
def offsets (n b : ℕ) : List ℕ := List.range' 0 ((n + b - 1) / b) b

def slice (l : List α) (i b : ℕ) : List α := (l.drop i).take b

lemma length_slice (l : List α) (i b : ℕ) : (slice l i b).length = min b (l.length - i) := by
  simp [slice]

lemma zip_slice (l : List α) (l' : List β) (i b : ℕ) :
    (slice l i b).zip (slice l' i b) = slice (l.zip l') i b := by
  unfold slice List.zip
  rw [List.drop_zipWith, List.take_zipWith]

/-- Consecutive slices are one longer slice. -/
lemma flatMap_slice (l : List α) (s k b : ℕ) :
    ((List.range' s k b).flatMap fun i => slice l i b) = slice l s (k * b) := by
  induction k generalizing s with
  | zero => simp [slice]
  | succ k ih =>
    have hsize : (k + 1) * b = b + k * b := by
      rw [Nat.succ_mul]
      omega
    rw [List.range'_succ, List.flatMap_cons, ih]
    unfold slice
    rw [hsize, List.take_add, List.drop_drop]

/-- No slice is empty. -/
lemma lt_of_mem_offsets {n i : ℕ} (hb : 1 ≤ b) (h : i ∈ offsets n b) : i < n := by
  obtain ⟨k, hk, rfl⟩ := List.mem_range'.mp h
  have hstart : (k + 1) * b ≤ n + b - 1 :=
    Nat.le_trans (Nat.mul_le_mul_right b hk) (Nat.div_mul_le_self _ _)
  have hcomm := Nat.mul_comm b k
  rw [Nat.succ_mul] at hstart
  omega

/-- **The slices are the list.** -/
lemma flatMap_offsets (l : List α) (hb : 1 ≤ b) :
    ((offsets l.length b).flatMap fun i => slice l i b) = l := by
  have hdiv := Nat.div_add_mod (l.length + b - 1) b
  have hmod := Nat.mod_lt (l.length + b - 1) hb
  have hcomm := Nat.mul_comm b ((l.length + b - 1) / b)
  have hcover : l.length ≤ (l.length + b - 1) / b * b := by omega
  unfold offsets
  rw [flatMap_slice]
  unfold slice
  rw [List.drop_zero]
  exact List.take_of_length_le hcover

/-! ### Lists put together of parts -/

variable {ι : Type*} {R : α → β → Prop} {f : ι → List α} {g : ι → List β}

/-- What stands on the right is related to something on the left. -/
lemma exists_left {l' : List β} (h : List.Forall₂ R l l') {y : β} (hy : y ∈ l') :
    ∃ x ∈ l, R x y := by
  induction h with
  | nil => cases hy
  | cons hab _ ih =>
    rcases List.mem_cons.mp hy with rfl | hy
    · exact ⟨_, List.mem_cons_self, hab⟩
    · obtain ⟨x, hx, hxy⟩ := ih hy
      exact ⟨x, List.mem_cons_of_mem _ hx, hxy⟩

lemma forall₂_flatMap {is : List ι} (h : ∀ i ∈ is, List.Forall₂ R (f i) (g i)) :
    List.Forall₂ R (is.flatMap f) (is.flatMap g) := by
  induction is with
  | nil => exact .nil
  | cons i is ih =>
    rw [List.flatMap_cons, List.flatMap_cons]
    exact List.rel_append (h i List.mem_cons_self)
      (ih fun j hj => h j (List.mem_cons_of_mem _ hj))

end Vero.Lib.Batches
