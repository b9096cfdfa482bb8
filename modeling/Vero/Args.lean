import Mathlib.Data.Int.Notation
import Mathlib.Tactic.SplitIfs

/-!
The attestation consensus threshold, as the command line arguments are processed.
-/

namespace Vero.Args

def processAttestationConsensusThreshold (value : Option ℤ) (beaconNodeUrls : List String) :
    Except String ℤ :=
  match value with
  | none => .ok (beaconNodeUrls.length / 2 + 1)
  | some value =>
    if value ≤ 0 then
      .error s!"Invalid value for attestation_consensus_threshold: {value}"
    else if (beaconNodeUrls.length : ℤ) < value then
      .error (s!"Invalid value for attestation_consensus_threshold ({value})" ++
        s!" with {beaconNodeUrls.length} beacon node(s)")
    else .ok value

/-- An accepted threshold can be met, and is never zero. -/
lemma threshold_bounds {value : Option ℤ} {urls : List String} {k : ℤ} (hurls : urls ≠ [])
    (h : processAttestationConsensusThreshold value urls = .ok k) :
    1 ≤ k ∧ k ≤ urls.length := by
  have hlen : 1 ≤ urls.length := List.length_pos_iff.mpr hurls
  cases value with
  | none =>
    obtain rfl := Except.ok.inj h
    omega
  | some v =>
    simp only [processAttestationConsensusThreshold] at h
    split_ifs at h with h1 h2
    obtain rfl := Except.ok.inj h
    omega

end Vero.Args
