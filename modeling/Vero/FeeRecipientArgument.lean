import Vero.SchemaKeymanagerAPI
import Vero.SignatureProvider

/-!
The fee recipient argument.

Its length and its first two characters are checked, and the rest is decoded into bytes. The
decoder skips blanks between two bytes, so the bytes may be fewer than the length suggests.
-/

namespace Vero.Args

open SchemaKeymanagerAPI

def feeRecipientByteLength : ℕ := 20

/-- `reprFromHexError` prints what `bytes.fromhex` raises on a text. What is raised here is a
`ValueError`. -/
def processFeeRecipient (reprFromHexError : String → String) (inputString : String) :
    Except String String :=
  if !inputString.startsWith "0x" ∨ inputString.length ≠ 2 + 2 * feeRecipientByteLength then
    .error s!"Invalid fee recipient: {inputString}"
  else
    let digits := inputString.toList.drop 2
    match hexBytes digits with
    | none =>
      .error s!"Invalid fee recipient {inputString}: {reprFromHexError (String.ofList digits)}"
    | some _ => .ok inputString

/-- Pairs of hexadecimal digits, with blanks anywhere but within a pair. -/
inductive SpacedPairs : List Char → Prop
  | nil : SpacedPairs []
  | blank {ch : Char} {chs : List Char} : isSpace ch = true → SpacedPairs chs →
      SpacedPairs (ch :: chs)
  | pair {high low : Char} {chs : List Char} : isHexDigit high = true → isHexDigit low = true →
      SpacedPairs chs → SpacedPairs (high :: low :: chs)

/-- The text has the length of an address, but some of it is blank. -/
structure Blank (s : String) : Prop where
  head : s.toList.take 2 = ['0', 'x']
  length : s.length = 2 + 2 * feeRecipientByteLength
  pairs : SpacedPairs (s.toList.drop 2)
  blank : ∃ ch ∈ s.toList.drop 2, isSpace ch = true

variable {s : String} {ch : Char} {chs : List Char}

/-! ### What is decoded -/

lemma isSome_hexDigit : (hexDigit ch).isSome = isHexDigit ch := by
  unfold hexDigit isHexDigit
  split_ifs with hdigit hlower hupper
  · simp [hdigit]
  · simp [hlower]
  · simp [hupper]
  · simp [hdigit, hlower, hupper]

lemma not_isHexDigit_of_isSpace (h : isSpace ch = true) : isHexDigit ch = false := by
  have hsmall : ch.toNat ≤ 32 := by
    rcases of_decide_eq_true h with rfl | ⟨-, h⟩
    · decide
    · omega
  have hlt : ∀ d : Char, 32 < d.toNat → ¬ d ≤ ch := fun d hd hle => by
    have : d.toNat ≤ ch.toNat := hle
    omega
  simp [isHexDigit, hlt 'a' (by decide), hlt 'A' (by decide), hlt '0' (by decide)]

lemma isSome_hexBytes_iff : (hexBytes chs).isSome = true ↔ SpacedPairs chs := by
  constructor
  · intro h
    fun_induction hexBytes chs with
    | case1 => exact .nil
    | case2 ch hch => exact .blank hch .nil
    | case3 ch hch => cases h
    | case4 ch ch' chs hch ih => exact .blank hch (ih h)
    | case5 ch ch' chs hch ih =>
      obtain ⟨high, hhigh⟩ := Option.isSome_iff_exists.mp (Option.isSome_of_isSome_bind h)
      rw [hhigh, Option.bind_some] at h
      obtain ⟨low, hlow⟩ := Option.isSome_iff_exists.mp (Option.isSome_of_isSome_bind h)
      rw [hlow, Option.bind_some, Option.isSome_map] at h
      refine .pair ?_ ?_ (ih h)
      · rw [← isSome_hexDigit, hhigh]
        rfl
      · rw [← isSome_hexDigit, hlow]
        rfl
  · intro h
    induction h with
    | nil => rfl
    | @blank ch chs hch _ ih =>
      cases chs with
      | nil => simp [hexBytes, hch]
      | cons ch' chs => simpa [hexBytes, hch] using ih
    | @pair high low chs hhigh hlow _ ih =>
      have hnot : isSpace high = false := by
        by_contra hspace
        rw [not_isHexDigit_of_isSpace (by simpa using hspace)] at hhigh
        cases hhigh
      obtain ⟨a, ha⟩ := Option.isSome_iff_exists.mp (isSome_hexDigit.trans hhigh)
      obtain ⟨b, hb⟩ := Option.isSome_iff_exists.mp (isSome_hexDigit.trans hlow)
      simpa [hexBytes, hnot, ha, hb] using ih

/-- Without blanks, pairs of digits are just digits. -/
lemma SpacedPairs.hex (h : SpacedPairs chs) (hnone : ∀ ch ∈ chs, isSpace ch = false) :
    ∀ ch ∈ chs, isHexDigit ch = true := by
  induction h with
  | nil => simp
  | blank hch _ _ =>
    rw [hnone _ List.mem_cons_self] at hch
    cases hch
  | pair hhigh hlow _ ih =>
    refine List.forall_mem_cons.mpr ⟨hhigh, List.forall_mem_cons.mpr ⟨hlow, ih ?_⟩⟩
    exact fun ch hch => hnone ch (List.mem_cons_of_mem _ (List.mem_cons_of_mem _ hch))

lemma spacedPairs_of_hex (n : ℕ) (hlen : chs.length = 2 * n)
    (h : ∀ ch ∈ chs, isHexDigit ch = true) : SpacedPairs chs := by
  induction n generalizing chs with
  | zero =>
    rw [List.length_eq_zero_iff.mp hlen]
    exact .nil
  | succ n ih =>
    obtain _ | ⟨high, _ | ⟨low, chs⟩⟩ := chs
    · simp at hlen
    · simp at hlen
      omega
    · obtain ⟨hhigh, hrest⟩ := List.forall_mem_cons.mp h
      obtain ⟨hlow, hrest⟩ := List.forall_mem_cons.mp hrest
      refine .pair hhigh hlow (ih ?_ hrest)
      simp only [List.length_cons] at hlen
      omega

/-! ### What is accepted -/

lemma processFeeRecipient_eq (reprFromHexError : String → String) (s r : String) :
    processFeeRecipient reprFromHexError s = .ok r ↔
      r = s ∧ s.toList.take 2 = ['0', 'x'] ∧ s.length = 2 + 2 * feeRecipientByteLength ∧
        SpacedPairs (s.toList.drop 2) := by
  have hhead : s.startsWith "0x" = true ↔ s.toList.take 2 = ['0', 'x'] := by
    rw [String.startsWith_string_iff, List.prefix_iff_eq_take]
    exact eq_comm
  unfold processFeeRecipient
  rw [← hhead, ← isSome_hexBytes_iff]
  split_ifs with hshape
  · refine iff_of_false nofun ?_
    rintro ⟨-, hstart, hlen, -⟩
    rcases hshape with hnot | hne
    · simp [hstart] at hnot
    · exact hne hlen
  · rw [not_or, Bool.not_eq_true', not_not, Bool.not_eq_false] at hshape
    dsimp only
    cases hbytes : hexBytes (s.toList.drop 2) with
    | none => simp
    | some bytes => simp [hshape.1, hshape.2, eq_comm]

/-- **Which fee recipients are accepted.** An accepted one is returned as it is. Whether it is
accepted and whether it is an address, as the pattern of the API describes one, come to the same
unless it is a text of the right length in which blanks stand for some of the digits. -/
theorem processFeeRecipient_accepts_iff (reprFromHexError : String → String) (s : String) :
    (∀ r, processFeeRecipient reprFromHexError s = .ok r → r = s) ∧
    (s.toList ∈ (hexadecimal 40).language ↔ Hexadecimal 40 s) ∧
    (((∃ r, processFeeRecipient reprFromHexError s = .ok r) ↔ Hexadecimal 40 s) ↔ ¬ Blank s) := by
  have haccepts : (∃ r, processFeeRecipient reprFromHexError s = .ok r) ↔
      s.toList.take 2 = ['0', 'x'] ∧ s.length = 2 + 2 * feeRecipientByteLength ∧
        SpacedPairs (s.toList.drop 2) := by
    simp [processFeeRecipient_eq]
  refine ⟨fun r hr => ((processFeeRecipient_eq _ s r).mp hr).1, hexadecimal_iff, ?_⟩
  rw [haccepts]
  constructor
  · rintro hiff hblank
    obtain ⟨ch, hmem, hspace⟩ := hblank.blank
    have hhex := (hiff.mp ⟨hblank.head, hblank.length, hblank.pairs⟩).hex ch hmem
    rw [not_isHexDigit_of_isSpace hspace] at hhex
    cases hhex
  · intro hnot
    constructor
    · rintro ⟨hhead, hlen, hpairs⟩
      refine ⟨hhead, hlen, hpairs.hex fun ch hmem => ?_⟩
      by_contra hspace
      exact hnot ⟨hhead, hlen, hpairs, ch, hmem, by simpa using hspace⟩
    · rintro ⟨hhead, hlen, hhex⟩
      refine ⟨hhead, hlen, spacedPairs_of_hex feeRecipientByteLength ?_ hhex⟩
      rw [List.length_drop, String.length_toList, hlen]
      rfl

/-- Nineteen bytes and two blanks. -/
def nineteenBytes : String := "0x" ++ String.ofList (List.replicate 38 'a') ++ "  "

theorem nineteenBytes_accepted :
    (∀ reprFromHexError,
      processFeeRecipient reprFromHexError nineteenBytes = .ok nineteenBytes) ∧
    ¬ Hexadecimal 40 nineteenBytes := by
  have hchars : nineteenBytes.toList.take 2 = ['0', 'x'] ∧
      nineteenBytes.length = 2 + 2 * feeRecipientByteLength ∧
      (hexBytes (nineteenBytes.toList.drop 2)).isSome = true ∧
      ' ' ∈ nineteenBytes.toList.drop 2 := by decide +kernel
  obtain ⟨hhead, hlen, hbytes, hblank⟩ := hchars
  refine ⟨fun reprFromHexError => ?_, fun h => ?_⟩
  · rw [processFeeRecipient_eq]
    exact ⟨rfl, hhead, hlen, isSome_hexBytes_iff.mp hbytes⟩
  · have hhex := h.hex ' ' hblank
    rw [not_isHexDigit_of_isSpace rfl] at hhex
    cases hhex

end Vero.Args
