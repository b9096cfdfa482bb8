import Vero.BeaconChain
import Vero.ValidatorStatusTrackerService

/-!
What the duty services share: the chain, the command line arguments they read, and the moment
at which a step of theirs is taken.
-/

namespace Vero

/-- `int` is Python's on strings, nothing where it raises; `hashFunction` is SHA-256. -/
structure Context where
  beaconChain : BeaconChain
  disableSlashingDetection : Bool
  int : String → Option ℤ
  hashFunction : List UInt8 → List UInt8

structure Moment where
  time : ℚ
  tracker : ValidatorStatusTrackerService.State

namespace Context

variable (c : Context) (now : Moment)

def currentSlot : ℤ := c.beaconChain.currentSlot now.time

def currentEpoch : ℤ := c.beaconChain.currentEpoch now.time

/-- Duties are refused once a slashing was detected, unless the detection is disabled. -/
def refuses : Prop := now.tracker.slashingDetected = true ∧ c.disableSlashingDetection = false

instance : Decidable (c.refuses now) := inferInstanceAs (Decidable (_ ∧ _))

end Context

/-- Python's `int` on a string of digits. -/
def decimal (s : String) : Option ℤ :=
  s.toList.foldl
    (fun n ch => if ch.isDigit then n.map fun n => 10 * n + ((ch.toNat - 48 : ℕ) : ℤ) else none)
    (if s = "" then none else some 0)

lemma decimal_toString (n : ℕ) : decimal (toString n) = some (n : ℤ) := by
  have hfold : ∀ (l : List Char) (k : ℕ), (∀ ch ∈ l, ch.isDigit = true) →
      l.foldl (fun n ch =>
        if ch.isDigit then n.map fun n => 10 * n + ((ch.toNat - 48 : ℕ) : ℤ) else none)
        (some (k : ℤ)) = some ((Nat.ofDigitChars 10 l k : ℕ) : ℤ) := by
    intro l
    induction l with
    | nil => exact fun k _ => rfl
    | cons ch l ih =>
      intro k hl
      rw [List.forall_mem_cons] at hl
      simp only [List.foldl_cons, hl.1, if_true, Option.map_some]
      exact_mod_cast ih (10 * k + (ch.toNat - 48)) hl.2
  have hdigits : (toString n).toList = Nat.toDigits 10 n := Nat.toList_repr
  have hne : toString n ≠ "" := fun he => by
    rw [he] at hdigits
    exact Nat.toDigits_ne_nil hdigits.symm
  unfold decimal
  rw [if_neg hne, hdigits]
  have h := hfold (Nat.toDigits 10 n) 0 fun ch hch =>
    Nat.isDigit_of_mem_toDigits (by omega) (by omega) hch
  rwa [Nat.ofDigitChars_ten_toDigits] at h

/-- The slots of mainnet, with slashing detection. -/
def mainnet (hashFunction : List UInt8 → List UInt8) : Context where
  beaconChain := ⟨1606824023, 32, 12, by decide, by decide⟩
  disableSlashingDetection := false
  int := decimal
  hashFunction := hashFunction

end Vero
