import Vero.Keymanager

/-!
The overrides kept in memory against those of the table.

Deleting a key takes its row and with it the overrides stored there. The overrides in memory
stay, and are in force again once the key is imported anew.
-/

namespace Vero.Keymanager

open Lib Lib.Runs

variable {http : Http} {s₀ s s' : State} {a : Call} {as : List Call} {os o : List Output}

/-- What is kept in memory is what a restart would load. -/
def OverridesLoaded (s : State) : Prop :=
  ∀ pubkey,
    s.pubkeyToFeeRecipientOverride.get pubkey =
      (loadFeeRecipientOverride s.keymanagerData).get pubkey ∧
    s.pubkeyToGasLimitOverride.get pubkey =
      (loadGasLimitOverride s.keymanagerData).get pubkey ∧
    s.pubkeyToGraffitiOverride.get pubkey = (loadGraffitiOverride s.keymanagerData).get pubkey

lemma overridesLoaded_iff : OverridesLoaded s ↔ ∀ col pubkey,
    (s.overrides col).get pubkey = (s.keymanagerData.get pubkey).bind fun row => row.get col := by
  constructor
  · intro h col pubkey
    obtain ⟨hfee, hgas, hgraffiti⟩ := h pubkey
    cases col with
    | feeRecipient => rw [← get_loadOverride]; exact hfee
    | gasLimit => rw [← get_loadOverride]; exact hgas
    | graffiti => rw [← get_loadOverride]; exact hgraffiti
  · intro h pubkey
    refine ⟨?_, ?_, ?_⟩
    · exact (h .feeRecipient pubkey).trans (get_loadOverride _ _ _).symm
    · exact (h .gasLimit pubkey).trans (get_loadOverride _ _ _).symm
    · exact (h .graffiti pubkey).trans (get_loadOverride _ _ _).symm

/-- A deletion takes no row in which an override is stored. -/
def Unconfigured (s : State) : Call → Prop
  | .deleteRemoteKeys pubkeys _ => ∀ k ∈ pubkeys, k.2 = none →
      ∀ row ∈ s.keymanagerData.get k.1,
        row.feeRecipient = none ∧ row.gasLimit = none ∧ row.graffiti = none
  | _ => True

instance (s : State) (a : Call) : Decidable (Unconfigured s a) := by
  cases a <;> unfold Unconfigured <;> infer_instance

lemma overridesLoaded_entered (h : Entered http s) : OverridesLoaded s := by
  obtain ⟨data, henter⟩ := h
  have hinit : OverridesLoaded (.init data) := fun pubkey => ⟨rfl, rfl, rfl⟩
  obtain ⟨hdata, hover⟩ := updateMapping_frame http (.init data) none
  rw [henter] at hdata hover
  rw [overridesLoaded_iff] at hinit ⊢
  intro col pubkey
  rw [hover, hdata]
  exact hinit col pubkey

/-- The row of a key is set together with its override. -/
lemma overridesLoaded_configure (h : OverridesLoaded s) (col : Column) (pubkey : String)
    (value : Option String) (fault : Fault) :
    OverridesLoaded (configure s col pubkey value fault).1 := by
  rcases configure_cases s col pubkey value fault with he | ⟨row, hrow, he⟩
  · rwa [he]
  · rw [he]
    rw [overridesLoaded_iff] at h ⊢
    intro col' pk
    rw [State.overrides_setOverrides, State.keymanagerData_setOverrides, Dict.get_set]
    have hold : (s.overrides col').get pk = (s.keymanagerData.get pk).bind fun row =>
      row.get col' := h col' pk
    by_cases hcol : col' = col
    · subst hcol
      cases value with
      | some v => by_cases hpk : pk = pubkey <;> simp [hpk, hold]
      | none => by_cases hpk : pk = pubkey <;> simp [hpk, hold]
    · by_cases hpk : pk = pubkey
      · subst hpk
        simp only [if_neg hcol, if_true, Option.bind_some, Row.get_set]
        simpa [hrow] using hold
      · simpa [if_neg hcol, if_neg hpk] using hold

/-- A row that is inserted has no overrides. -/
lemma overridesLoaded_import (h : OverridesLoaded s) (keys : List (RemoteKey × Fault))
    (fault : Fault) : OverridesLoaded (importRemoteKeys http s keys fault).1 := by
  obtain ⟨hdata, hover⟩ := updateMapping_frame http
    { s with keymanagerData := (importRows s.keymanagerData keys).1 } fault
  rw [overridesLoaded_iff] at h ⊢
  intro col pubkey
  have hold := h col pubkey
  have hget := get_importRows s.keymanagerData keys pubkey
  have hnew : (importRemoteKeys http s keys fault).1.keymanagerData =
    (importRows s.keymanagerData keys).1 := hdata
  have hkept : (importRemoteKeys http s keys fault).1.overrides col = s.overrides col :=
    (hover col).trans (s.overrides_withData _ col)
  rw [hkept, hnew, hget, hold]
  cases s.keymanagerData.get pubkey with
  | some row => rfl
  | none =>
    cases keys.find? fun k => k.1.pubkey = pubkey ∧ k.2 = none with
    | none => rfl
    | some k => cases col <;> rfl

/-- A deletion keeps the overrides right exactly where it takes none from the table. -/
lemma overridesLoaded_delete (h : OverridesLoaded s) (pubkeys : List (String × Fault))
    (fault : Fault) : OverridesLoaded (deleteRemoteKeys http s pubkeys fault).1 ↔
      Unconfigured s (.deleteRemoteKeys pubkeys fault) := by
  obtain ⟨hdata, hover⟩ := updateMapping_frame http
    { s with keymanagerData := (deleteRows s.keymanagerData pubkeys).1 } fault
  have hnew : (deleteRemoteKeys http s pubkeys fault).1.keymanagerData =
    (deleteRows s.keymanagerData pubkeys).1 := hdata
  have hkept : ∀ col, (deleteRemoteKeys http s pubkeys fault).1.overrides col =
    s.overrides col := fun col => (hover col).trans (s.overrides_withData _ col)
  rw [overridesLoaded_iff] at h ⊢
  simp only [hkept, hnew, get_deleteRows, h]
  constructor
  · rintro hall ⟨pubkey, f⟩ hmem hf row hrow
    obtain rfl : f = none := hf
    have hlost : ∀ col, row.get col = none := fun col => by
      simpa [hmem, show s.keymanagerData.get pubkey = some row from hrow] using hall col pubkey
    exact ⟨hlost .feeRecipient, hlost .gasLimit, hlost .graffiti⟩
  · intro hun col pubkey
    by_cases hmem : (pubkey, none) ∈ pubkeys
    · cases hrow : s.keymanagerData.get pubkey with
      | none => simp
      | some row =>
        obtain ⟨hfee, hgas, hgraffiti⟩ := hun _ hmem rfl row hrow
        rw [if_pos hmem]
        cases col with
        | feeRecipient => exact hfee
        | gasLimit => exact hgas
        | graffiti => exact hgraffiti
    · rw [if_neg hmem]

lemma overridesLoaded_step (h : OverridesLoaded s) (hs : step http s a = some (s', o)) :
    OverridesLoaded s' ↔ Unconfigured s a := by
  rcases step_cases hs with ⟨-, hdel, col, pubkey, value, fault, rfl⟩ | ⟨keys, fault, rfl, rfl⟩ |
    ⟨pubkeys, fault, rfl, rfl⟩
  · refine ⟨fun _ => ?_, fun _ => overridesLoaded_configure h col pubkey value fault⟩
    cases a with
    | deleteRemoteKeys keys f => exact absurd rfl (hdel keys f)
    | _ => trivial
  · exact ⟨fun _ => trivial, fun _ => overridesLoaded_import h keys fault⟩
  · exact overridesLoaded_delete h pubkeys fault

/-- **The overrides in memory are those of the table.** They are as long as no key is deleted
while an override is stored for it, and the first such deletion leaves the override of a key
that has none in the table. -/
theorem overrides_loaded_iff_unconfigured (h0 : Entered http s₀)
    (r : RunIf (step http) (fun s _ a => Unconfigured s a) s₀ as s os) :
    OverridesLoaded s ∧ ∀ a s' o, step http s a = some (s', o) →
      (OverridesLoaded s' ↔ Unconfigured s a) := by
  have hloaded : OverridesLoaded s := by
    refine r.invariant (I := fun s _ => OverridesLoaded s) (overridesLoaded_entered h0) ?_
    intro s os a s' o h hun hs
    exact (overridesLoaded_step h hs).mpr hun
  exact ⟨hloaded, fun a s' o hs => overridesLoaded_step hloaded hs⟩

/-- A key whose fee recipient was set, and unset again before the key was deleted. -/
def unsetBeforeDeleted : List Call :=
  [.importRemoteKeys [(someKey, none)] none,
    .setFeeRecipient somePubkey "0xfee0000000000000000000000000000000000001" none,
    .deleteConfiguredFeeRecipient somePubkey none, .deleteRemoteKeys [(somePubkey, none)] none]

theorem overrides_loaded_iff_unconfigured_unset : ∃ s os,
    RunIf (step oneSigner) (fun s _ a => Unconfigured s a) (.init ∅) unsetBeforeDeleted s os ∧
    OverridesLoaded s := by
  obtain ⟨s, os, r, -⟩ := @exec_any _ _ _ (step oneSigner)
    (fun s _ a => Unconfigured s a) (.init ∅) unsetBeforeDeleted _ (fun _ _ => true)
    (by decide +kernel)
  exact ⟨s, os, r, (overrides_loaded_iff_unconfigured entered_empty r).1⟩

/-- The key is deleted while its fee recipient is set, and imported again. -/
def deletedAndReimported : List Call :=
  [.importRemoteKeys [(someKey, none)] none,
    .setFeeRecipient somePubkey "0xfee0000000000000000000000000000000000001" none,
    .deleteRemoteKeys [(somePubkey, none)] none, .importRemoteKeys [(someKey, none)] none]

/-- The fee recipient set before the deletion is in force, which no table holds. -/
theorem reimported_overridden : ∃ as s os, Entered oneSigner (.init ∅) ∧
    Run (step oneSigner) (.init ∅) as s os ∧
    (loadFeeRecipientOverride s.keymanagerData).get somePubkey = none ∧
    s.pubkeyToFeeRecipientOverride.get somePubkey =
      some "0xfee0000000000000000000000000000000000001" ∧ ¬ OverridesLoaded s := by
  obtain ⟨s, os, r, hp⟩ := @exec_any _ _ _ (step oneSigner) (fun _ _ _ => True)
    (.init ∅) deletedAndReimported _ (fun s _ =>
      (loadFeeRecipientOverride s.keymanagerData).get somePubkey = none ∧
      s.pubkeyToFeeRecipientOverride.get somePubkey =
        some "0xfee0000000000000000000000000000000000001") (by decide +kernel)
  obtain ⟨hload, hkept⟩ := of_decide_eq_true hp
  refine ⟨deletedAndReimported, s, os, entered_empty, r, hload, hkept, fun h => ?_⟩
  have hsame := (h somePubkey).1
  rw [hload, hkept] at hsame
  exact Option.some_ne_none _ hsame

end Vero.Keymanager
