import Vero.Lib.Regex

/-!
The patterns that texts of the Keymanager API are checked against.

They are searched for in the text, so that a line break at its end is let through.
-/

namespace Vero.SchemaKeymanagerAPI

open Lib

/-- `[a-fA-F0-9]`. -/
def isHexDigit (ch : Char) : Bool :=
  ('a' ≤ ch ∧ ch ≤ 'f') ∨ ('A' ≤ ch ∧ ch ≤ 'F') ∨ ('0' ≤ ch ∧ ch ≤ '9')

/-- A number of hexadecimal digits behind `0x`. -/
def hexadecimal (digits : ℕ) : Regex :=
  .seq (.literal '0') (.seq (.literal 'x') (.rep (.char isHexDigit) digits digits))

def decimalUpTo (digits : ℕ) : Regex :=
  .alt (.literal '0')
    (.seq (.char fun ch => '1' ≤ ch ∧ ch ≤ '9') (.rep (.char Char.isDigit) 0 (digits - 1)))

/-- `^0x[a-fA-F0-9]{40}$` -/
def ethAddress : Regex := (hexadecimal 40).whole

/-- `^(0|[1-9][0-9]{0,19})$` -/
def uint64String : Regex := (decimalUpTo 20).whole

/-- `0x` and this many hexadecimal digits. -/
structure Hexadecimal (digits : ℕ) (s : String) : Prop where
  head : s.toList.take 2 = ['0', 'x']
  length : s.length = 2 + digits
  hex : ∀ ch ∈ s.toList.drop 2, isHexDigit ch = true

variable {digits : ℕ} {s : String} {w : List Char}

lemma mem_hexadecimal : w ∈ (hexadecimal digits).language ↔
    w.take 2 = ['0', 'x'] ∧ w.length = 2 + digits ∧ ∀ ch ∈ w.drop 2, isHexDigit ch = true := by
  unfold hexadecimal
  simp only [Regex.mem_literal_seq, Regex.mem_char_rep]
  constructor
  · rintro ⟨_, ⟨v, ⟨hleast, hmost, hall⟩, rfl⟩, rfl⟩
    exact ⟨rfl, by simp; omega, hall⟩
  · rintro ⟨htake, hlen, hall⟩
    have hw : w = '0' :: 'x' :: w.drop 2 := by
      conv_lhs => rw [← List.take_append_drop 2 w, htake]
      rfl
    have hdrop : (w.drop 2).length = digits := by rw [List.length_drop, hlen]; omega
    exact ⟨_, ⟨w.drop 2, ⟨hdrop.ge, hdrop.le, hall⟩, rfl⟩, hw⟩

lemma hexadecimal_iff : s.toList ∈ (hexadecimal digits).language ↔ Hexadecimal digits s :=
  mem_hexadecimal.trans ⟨fun h => ⟨h.1, h.2.1, h.2.2⟩, fun h => ⟨h.head, h.length, h.hex⟩⟩

/-- What the pattern of a hexadecimal number lets through. -/
lemma search_hexadecimal_iff : (hexadecimal digits).whole.search s.toList = true ↔
    Hexadecimal digits s ∨ ∃ t, s = t ++ "\n" ∧ Hexadecimal digits t := by
  have hplain : (hexadecimal digits).Plain := ⟨trivial, trivial, trivial⟩
  refine (Regex.search_whole hplain).trans (or_congr hexadecimal_iff ?_)
  constructor
  · rintro ⟨w, hw, hs⟩
    refine ⟨.ofList w, String.toList_injective (by simp [hs]), hexadecimal_iff.mp ?_⟩
    rwa [String.toList_ofList]
  · rintro ⟨t, rfl, ht⟩
    exact ⟨t.toList, hexadecimal_iff.mpr ht, by simp⟩

end Vero.SchemaKeymanagerAPI
