import Vero.SchemaKeymanagerAPI
import Vero.ValidatorRegistrations

/-!
Gas limits, from the request that sets one to the registration that carries it.

The pattern they are checked against counts digits. Twenty digits may be more than 64 bits hold,
and a line break may follow them.
-/

namespace Vero.BlockProposalService

open Lib SchemaKeymanagerAPI ValidatorStatusTrackerService
open Keymanager (somePubkey)

/-- A number of 64 bits, written as a decimal. -/
def UInt64Decimal (s : String) : Prop := ∃ n : ℕ, n < 2 ^ 64 ∧ s = toString n

/-- Two kinds of texts that are no such number are let through. -/
inductive Overlooked (s : String) : Prop
  | lineBreak (last : s.toList.getLast? = some '\n')
  | twentyDigits (length : s.length = 20) (large : 2 ^ 64 ≤ Nat.ofDigitChars 10 s.toList 0)

variable {s : String} {w cs : List Char} {c : Char}

/-! ### Decimals -/

lemma digitChar_sub (h : 48 ≤ c.toNat ∧ c.toNat ≤ 57) : (c.toNat - 48).digitChar = c := by
  refine Char.toNat_inj.mp ?_
  rw [Nat.toNat_digitChar_of_lt_ten (by omega)]
  omega

/-- A digit that is not zero, and more digits behind it. -/
structure NoLeadingZero (w : List Char) : Prop where
  head : ∃ c ∈ w.head?, '1' ≤ c ∧ c ≤ '9'
  digits : ∀ c ∈ w, c.isDigit = true

lemma mem_decimalUpTo {k : ℕ} : w ∈ (decimalUpTo (k + 1)).language ↔
    w = ['0'] ∨ NoLeadingZero w ∧ w.length ≤ k + 1 := by
  have hnonzero : w ∈ (Regex.seq (.char fun ch => '1' ≤ ch ∧ ch ≤ '9')
      (.rep (.char Char.isDigit) 0 k)).language ↔
      NoLeadingZero w ∧ w.length ≤ k + 1 := by
    refine Language.mem_mul.trans ?_
    simp only [Regex.mem_char_rep]
    constructor
    · rintro ⟨u, ⟨c, hc, rfl⟩, v, ⟨-, hlen, hv⟩, rfl⟩
      have hc : '1' ≤ c ∧ c ≤ '9' := of_decide_eq_true hc
      have hdigit : c.isDigit = true :=
        Char.isDigit_iff_toNat.mpr ⟨le_trans (by decide : 48 ≤ 49) hc.1, hc.2⟩
      exact ⟨⟨⟨c, rfl, hc⟩, List.forall_mem_cons.mpr ⟨hdigit, hv⟩⟩, by simpa using hlen⟩
    · rintro ⟨⟨⟨c, hhead, hc⟩, hdigits⟩, hlen⟩
      cases w with
      | nil => cases hhead
      | cons d v =>
        obtain rfl := Option.some.inj hhead
        refine ⟨[d], ⟨d, decide_eq_true hc, rfl⟩, v, ⟨Nat.zero_le _, by simpa using hlen, ?_⟩, rfl⟩
        exact fun ch hch => hdigits ch (List.mem_cons_of_mem _ hch)
  exact or_congr Regex.mem_literal hnonzero

/-- Reading more digits behind a number and writing it again. -/
lemma toDigits_append {acc : ℕ} (hacc : 0 < acc)
    (h : ∀ c ∈ cs, c.isDigit = true) :
    Nat.toDigits 10 acc ++ cs = Nat.toDigits 10 (Nat.ofDigitChars 10 cs acc) := by
  induction cs generalizing acc with
  | nil => simp
  | cons c cs ih =>
    obtain ⟨hc, hcs⟩ := List.forall_mem_cons.mp h
    have hbounds : 48 ≤ c.toNat ∧ c.toNat ≤ 57 := Char.isDigit_iff_toNat.mp hc
    have hvalue : c.toNat - 48 < 10 := by omega
    have hchar := digitChar_sub hbounds
    have hnext := Nat.toDigits_append_toDigits (by decide) hacc hvalue
    rw [Nat.toDigits_of_lt_base hvalue, hchar] at hnext
    calc Nat.toDigits 10 acc ++ c :: cs
        = (Nat.toDigits 10 acc ++ [c]) ++ cs := by simp
      _ = Nat.toDigits 10 (10 * acc + (c.toNat - 48)) ++ cs := by rw [hnext]
      _ = Nat.toDigits 10 (Nat.ofDigitChars 10 cs (10 * acc + (c.toNat - 48))) :=
        ih (by omega) hcs
      _ = Nat.toDigits 10 (Nat.ofDigitChars 10 (c :: cs) acc) := by rw [Nat.ofDigitChars_cons]; rfl

/-- Without a leading zero the digits are those of the number they stand for. -/
lemma NoLeadingZero.toDigits (h : NoLeadingZero w) :
    Nat.toDigits 10 (Nat.ofDigitChars 10 w 0) = w := by
  obtain ⟨c, hhead, hc⟩ := h.head
  cases w with
  | nil => cases hhead
  | cons d cs =>
    obtain rfl := Option.some.inj hhead
    have hbounds : 49 ≤ d.toNat ∧ d.toNat ≤ 57 := hc
    have hvalue : d.toNat - 48 < 10 := by omega
    have hchar := digitChar_sub (c := d) (by omega)
    have hdigits : ∀ ch ∈ cs, ch.isDigit = true := fun ch hch =>
      h.digits ch (List.mem_cons_of_mem _ hch)
    have hrest := toDigits_append (show 0 < d.toNat - 48 by omega) hdigits
    rw [Nat.toDigits_of_lt_base hvalue, hchar] at hrest
    rw [Nat.ofDigitChars_cons, Nat.mul_zero, Nat.zero_add]
    exact hrest.symm

lemma noLeadingZero_toDigits {n : ℕ} (hn : n ≠ 0) : NoLeadingZero (Nat.toDigits 10 n) := by
  refine ⟨?_, fun c hc => Nat.isDigit_of_mem_toDigits (by decide) (by decide) hc⟩
  induction n using Nat.strong_induction_on with
  | _ n ih =>
    by_cases hlt : n < 10
    · have hvalue := Nat.toNat_digitChar_of_lt_ten hlt
      rw [Nat.toDigits_of_lt_base hlt]
      refine ⟨_, rfl, ?_⟩
      change 49 ≤ n.digitChar.toNat ∧ n.digitChar.toNat ≤ 57
      omega
    · obtain ⟨c, hhead, hc⟩ := ih (n / 10) (by omega) (by omega)
      rw [Nat.toDigits_of_base_le (by decide) (by omega)]
      exact ⟨c, by rw [List.head?_append, Option.mem_def.mp hhead]; rfl, hc⟩

/-- The texts of the pattern without a line break are the decimals of up to twenty digits. -/
lemma mem_decimalUpTo_iff {k : ℕ} : w ∈ (decimalUpTo (k + 1)).language ↔
    ∃ n : ℕ, n < 10 ^ (k + 1) ∧ w = Nat.toDigits 10 n := by
  rw [mem_decimalUpTo]
  constructor
  · rintro (rfl | ⟨hw, hlen⟩)
    · exact ⟨0, by positivity, by simp⟩
    · have hdigits := hw.toDigits
      refine ⟨Nat.ofDigitChars 10 w 0, ?_, hdigits.symm⟩
      rwa [← Nat.length_toDigits_le_iff (by decide) (by omega), hdigits]
  · rintro ⟨n, hn, rfl⟩
    by_cases hzero : n = 0
    · left
      rw [hzero, Nat.toDigits_zero]
    · right
      exact ⟨noLeadingZero_toDigits hzero,
        (Nat.length_toDigits_le_iff (by decide) (by omega)).mpr hn⟩

lemma uint64String_search_iff : uint64String.search s.toList = true ↔
    ∃ n : ℕ, n < 10 ^ 20 ∧ (s = toString n ∨ s = toString n ++ "\n") := by
  have hplain : (decimalUpTo 20).Plain := ⟨trivial, trivial, trivial⟩
  have htext : ∀ n : ℕ, (toString n).toList = Nat.toDigits 10 n := fun n => Nat.toList_repr
  refine (Regex.search_whole hplain).trans ?_
  simp only [mem_decimalUpTo_iff]
  constructor
  · rintro (⟨n, hn, hs⟩ | ⟨w, ⟨n, hn, rfl⟩, hs⟩)
    · exact ⟨n, hn, .inl (String.toList_injective (hs.trans (htext n).symm))⟩
    · refine ⟨n, hn, .inr (String.toList_injective ?_)⟩
      rw [hs, String.toList_append, htext]
      rfl
  · rintro ⟨n, hn, rfl | rfl⟩
    · exact .inl ⟨n, hn, htext n⟩
    · refine .inr ⟨_, ⟨n, hn, rfl⟩, ?_⟩
      rw [String.toList_append, htext]
      rfl

/-! ### Which texts are numbers of 64 bits -/

lemma not_overlooked_toString {n : ℕ} (hn : n < 2 ^ 64) : ¬ Overlooked (toString n) := by
  have htext : (toString n).toList = Nat.toDigits 10 n := Nat.toList_repr
  rintro (hlast | ⟨-, hlarge⟩)
  · rw [htext] at hlast
    have hdigit := Nat.isDigit_of_mem_toDigits (by decide) (by decide)
      (List.mem_of_getLast? hlast)
    cases hdigit
  · rw [htext, Nat.ofDigitChars_ten_toDigits] at hlarge
    omega

/-- Among the texts that are let through, the numbers are those not overlooked. -/
lemma uint64Decimal_iff (h : uint64String.search s.toList = true) :
    UInt64Decimal s ↔ ¬ Overlooked s := by
  constructor
  · rintro ⟨n, hn, rfl⟩
    exact not_overlooked_toString hn
  · intro hnot
    obtain ⟨n, hn, rfl | rfl⟩ := uint64String_search_iff.mp h
    · refine ⟨n, ?_, rfl⟩
      have htext : (toString n).toList = Nat.toDigits 10 n := Nat.toList_repr
      by_contra hlarge
      have hlarge : 2 ^ 64 ≤ n := by omega
      refine hnot (.twentyDigits ?_ ?_)
      · have hle := (Nat.length_toDigits_le_iff (n := n) (k := 20) (b := 10) (by decide)
          (by decide)).mpr hn
        have hge : ¬ (Nat.toDigits 10 n).length ≤ 19 := by
          rw [Nat.length_toDigits_le_iff (by decide) (by decide)]
          omega
        rw [← String.length_toList, htext]
        omega
      · rwa [htext, Nat.ofDigitChars_ten_toDigits]
    · exact absurd (.lineBreak (by simp)) hnot

/-! ### From the request to the registration -/

/-- An override that was set without an exception is in force. -/
lemma get_of_configure {m m' : Keymanager.State} {col : Keymanager.Column} {pubkey : String}
    {value : Option String} {fault : Keymanager.Fault}
    (h : Keymanager.configure m col pubkey value fault = (m', .ok ())) :
    (m'.overrides col).get pubkey = value := by
  unfold Keymanager.configure at h
  cases fault with
  | some e => cases h
  | none =>
    dsimp only at h
    split_ifs at h
    · cases (Prod.mk.inj h).2
    · obtain ⟨rfl, -⟩ := Prod.mk.inj h
      cases value <;> simp

/-- What a registration carries once a gas limit was set. -/
lemma gasLimit_setGasLimit {m m' : Keymanager.State} {pubkey : String} {fault : Keymanager.Fault}
    (h : Keymanager.setGasLimit m pubkey s fault = (m', .ok ())) (cliArgs : CLIArgs) :
    (⟨cliArgs, some m'⟩ : ProposerSettings).gasLimit pubkey = s := by
  have hset : (m'.overrides .gasLimit).get pubkey = some s := get_of_configure h
  unfold ProposerSettings.gasLimit ProposerSettings.overridden
  dsimp only
  rw [Dict.getD, hset, Option.getD_some]

/-- **Which accepted gas limits are numbers of 64 bits.** Every such number is accepted. Where a
text is accepted and stored, the registrations of the validator carry such a number unless the
text is of one of the two kinds that are overlooked. -/
theorem registered_gasLimit_iff (s : String) :
    (UInt64Decimal s → uint64String.search s.toList = true) ∧
    (uint64String.search s.toList = true → ∀ m m' fault cliArgs timestamp v,
      Keymanager.setGasLimit m v.pubkey s fault = (m', .ok ()) →
      (UInt64Decimal ((⟨cliArgs, some m'⟩ : ProposerSettings).validatorRegistration timestamp
        v).gasLimit ↔ ¬ Overlooked s)) := by
  constructor
  · rintro ⟨n, hn, rfl⟩
    exact uint64String_search_iff.mpr ⟨n, lt_trans hn (by decide), .inl rfl⟩
  · intro hsearch m m' fault cliArgs timestamp v hset
    have hplaced := gasLimit_setGasLimit hset cliArgs
    change UInt64Decimal ((⟨cliArgs, some m'⟩ : ProposerSettings).gasLimit v.pubkey) ↔ _
    rw [hplaced]
    exact uint64Decimal_iff hsearch

/-- A manager with one key. -/
def oneKey : Keymanager.State :=
  .init ((∅ : Dict String Keymanager.Row).set somePubkey
    ⟨"http://signer:9000", none, none, none⟩)

/-- Sixty million. -/
theorem registered_gasLimit_iff_sixtyMillion : ∃ m,
    Keymanager.setGasLimit oneKey somePubkey "60000000" none = (m, .ok ()) ∧
    UInt64Decimal ((⟨⟨"0xfee0000000000000000000000000000000000001", 30000000, []⟩, some m⟩ :
      ProposerSettings).validatorRegistration 1606824023 ⟨7, somePubkey⟩).gasLimit := by
  have hsearch : uint64String.search "60000000".toList = true := by decide +kernel
  have hnot : ¬ Overlooked "60000000" := by
    rintro (hlast | ⟨hlen, -⟩)
    · exact absurd hlast (by decide)
    · exact absurd hlen (by decide)
  refine ⟨_, rfl, ?_⟩
  exact ((registered_gasLimit_iff "60000000").2 hsearch oneKey _ none _ 1606824023
    ⟨7, somePubkey⟩ rfl).mpr hnot

/-- The smallest number of 65 bits is accepted, and so is a number with a line break behind it. -/
theorem overlooked_gasLimits :
    (uint64String.search "18446744073709551616".toList = true ∧ ∃ m,
      Keymanager.setGasLimit oneKey somePubkey "18446744073709551616" none = (m, .ok ()) ∧
      ¬ UInt64Decimal ((⟨⟨"0xfee0000000000000000000000000000000000001", 30000000, []⟩, some m⟩ :
        ProposerSettings).validatorRegistration 1606824023 ⟨7, somePubkey⟩).gasLimit) ∧
    uint64String.search "30000000\n".toList = true ∧ ∃ m,
      Keymanager.setGasLimit oneKey somePubkey "30000000\n" none = (m, .ok ()) ∧
      ¬ UInt64Decimal ((⟨⟨"0xfee0000000000000000000000000000000000001", 30000000, []⟩, some m⟩ :
        ProposerSettings).validatorRegistration 1606824023 ⟨7, somePubkey⟩).gasLimit := by
  have hlarge : uint64String.search "18446744073709551616".toList = true := by decide +kernel
  have hbreak : uint64String.search "30000000\n".toList = true := by decide +kernel
  refine ⟨⟨hlarge, _, rfl, fun h => ?_⟩, hbreak, _, rfl, fun h => ?_⟩
  · exact (uint64Decimal_iff hlarge).mp h (.twentyDigits (by decide) (by decide))
  · exact (uint64Decimal_iff hbreak).mp h (.lineBreak (by decide))

end Vero.BlockProposalService
