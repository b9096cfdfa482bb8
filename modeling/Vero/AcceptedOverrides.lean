import Vero.KeymanagerEndpoints

/-!
Overrides in every life of the database: what is stored was let through by an endpoint.

The endpoints check a value before they hand it to the manager, and what the duties make of it
later is not checked again.
-/

namespace Vero.KeymanagerApi

open Lib Lib.Runs Keymanager SchemaKeymanagerAPI
open BlockProposalService (ProposerSettings)

def accepts : Column → String → Prop
  | .feeRecipient => acceptsFeeRecipient
  | .gasLimit => acceptsGasLimit
  | .graffiti => acceptsGraffiti

/-- The values of the table and those in memory, also of keys that are deleted. -/
structure Stored (s : State) : Prop where
  rows : ∀ pubkey row, s.keymanagerData.get pubkey = some row → row.Accepted
  overrides : ∀ col pubkey v, (s.overrides col).get pubkey = some v → accepts col v

/-- A manager over an empty database. -/
def Fresh (http : Http) (s : State) : Prop :=
  updatePubkeyToRemoteSignerMapping http (.init ∅) none = (s, .ok ())

/-- The process is started again, on the table that it left. -/
def Restarted (http : Http) (s s' : State) : Prop :=
  updatePubkeyToRemoteSignerMapping http (.init s.keymanagerData) none = (s', .ok ())

variable {srv : Server} {r : Request} {s s₀ s' : State} {requests : List Request}
  {es o : List Exchange} {c : Call} {col : Column} {pubkey : String} {value : Option String}
  {row : Row} {endpoint : Endpoint} {out : List Output} {http : Http}

/-! ### What is let through -/

lemma accepted_iff : row.Accepted ↔ ∀ col v, row.get col = some v → accepts col v := by
  constructor
  · intro h col v hv
    cases col with
    | feeRecipient => exact h.feeRecipient v hv
    | gasLimit => exact h.gasLimit v hv
    | graffiti => exact h.graffiti v hv
  · intro h
    exact ⟨h .feeRecipient, h .gasLimit, h .graffiti⟩

/-- The values of a call are such as their endpoints accept. -/
def Passed : Call → Prop
  | .setFeeRecipient _ v _ => accepts .feeRecipient v
  | .setGasLimit _ v _ => accepts .gasLimit v
  | .setGraffiti _ v _ => accepts .graffiti v
  | _ => True

lemma passed_bodyCall {α : Type} {decode : List UInt8 → Except DecodeError α}
    {call : α → Option Call} (h : ∀ requestData c, call requestData = some c → Passed c)
    (hcall : bodyCall r decode call = some c) : Passed c := by
  unfold bodyCall at hcall
  split at hcall
  · cases hcall
  · exact h _ c hcall

/-- **An endpoint hands on no value that it does not accept.** -/
lemma passed_endpointCall (h : endpointCall srv r endpoint = some c) : Passed c := by
  cases endpoint with
  | feeRecipientPost pubkey =>
    refine passed_bodyCall (fun requestData c hc => ?_) h
    split at hc
    case isTrue => cases hc
    case isFalse hzero =>
      obtain rfl := Option.some.inj hc
      exact ⟨requestData.valid, hzero⟩
  | gasLimitPost pubkey =>
    refine passed_bodyCall (fun requestData c hc => ?_) h
    obtain rfl := Option.some.inj hc
    exact requestData.valid
  | graffitiPost pubkey =>
    refine passed_bodyCall (fun requestData c hc => ?_) h
    cases hencode : encodeGraffiti requestData.graffiti with
    | error text => simp [hencode] at hc
    | ok bytes =>
      simp only [hencode] at hc
      obtain rfl := Option.some.inj hc
      exact ⟨bytes, hencode⟩
  | remoteKeysPost | remoteKeysDelete =>
    refine passed_bodyCall (fun requestData c hc => ?_) h
    obtain rfl := Option.some.inj hc
    exact trivial
  | feeRecipientDelete pubkey | gasLimitDelete pubkey | graffitiDelete pubkey =>
    obtain rfl := Option.some.inj h
    exact trivial
  | feeRecipientGet _ | gasLimitGet _ | graffitiGet _ | remoteKeysGet | voluntaryExitPost _ =>
    cases h

lemma passed_call (h : call srv r = some c) : Passed c := by
  unfold call at h
  split at h
  · split at h
    · cases h
    · exact passed_endpointCall h
  · cases h

/-! ### What is stored -/

lemma stored_configure (h : Stored s) (hvalue : ∀ v ∈ value, accepts col v) (pubkey : String)
    (fault : Fault) : Stored (configure s col pubkey value fault).1 := by
  rcases configure_cases s col pubkey value fault with he | ⟨row, hrow, he⟩
  · rwa [he]
  · rw [he]
    refine ⟨fun pk row' hrow' => ?_, fun col' pk v hv => ?_⟩
    · rw [State.keymanagerData_setOverrides, Dict.get_set] at hrow'
      split at hrow'
      case isFalse => exact h.rows pk row' hrow'
      case isTrue =>
        obtain rfl := Option.some.inj hrow'
        rw [accepted_iff]
        intro col' v hv
        rw [Row.get_set] at hv
        split at hv
        case isTrue heq => exact heq ▸ hvalue v hv
        case isFalse => exact accepted_iff.mp (h.rows pubkey row hrow) col' v hv
    · rw [State.overrides_setOverrides] at hv
      split at hv
      case isFalse => exact h.overrides col' pk v hv
      case isTrue heq =>
        subst heq
        cases value with
        | none =>
          rw [Dict.get_filterKeys] at hv
          split at hv
          · exact h.overrides col' pk v hv
          · cases hv
        | some w =>
          rw [Dict.get_set] at hv
          split at hv
          · obtain rfl := Option.some.inj hv
            exact hvalue w rfl
          · exact h.overrides col' pk v hv

/-- Rows that are left or inserted. -/
lemma stored_updateMapping {data : Dict String Row} {fault : Fault} (h : Stored s)
    (hdata : ∀ pubkey row, data.get pubkey = some row → row.Accepted) :
    Stored (updatePubkeyToRemoteSignerMapping http { s with keymanagerData := data } fault).1 := by
  obtain ⟨hkept, hover⟩ := updateMapping_frame http { s with keymanagerData := data } fault
  refine ⟨fun pubkey row hrow => ?_, fun col pubkey v hv => ?_⟩
  · rw [hkept] at hrow
    exact hdata pubkey row hrow
  · rw [hover, State.overrides_withData] at hv
    exact h.overrides col pubkey v hv

lemma stored_import (h : Stored s) (keys : List (RemoteKey × Fault)) (fault : Fault) :
    Stored (importRemoteKeys http s keys fault).1 := by
  refine stored_updateMapping h fun pubkey row hrow => ?_
  rw [get_importRows] at hrow
  cases hold : s.keymanagerData.get pubkey with
  | some row' =>
    rw [hold] at hrow
    exact Option.some.inj hrow ▸ h.rows pubkey row' hold
  | none =>
    rw [hold, Option.none_or] at hrow
    obtain ⟨k, -, rfl⟩ := Option.map_eq_some_iff.mp hrow
    rw [accepted_iff]
    intro col v hv
    cases col <;> cases hv

lemma stored_delete (h : Stored s) (pubkeys : List (String × Fault)) (fault : Fault) :
    Stored (deleteRemoteKeys http s pubkeys fault).1 := by
  refine stored_updateMapping h fun pubkey row hrow => ?_
  rw [get_deleteRows] at hrow
  split at hrow
  · cases hrow
  · exact h.rows pubkey row hrow

lemma stored_call (h : Stored s) (hpassed : Passed c)
    (hstep : Keymanager.step http s c = some (s', out)) : Stored s' := by
  cases c with
  | importRemoteKeys keys fault =>
    obtain rfl := (Prod.mk.inj (Option.some.inj hstep)).1
    exact stored_import h keys fault
  | deleteRemoteKeys pubkeys fault =>
    obtain rfl := (Prod.mk.inj (Option.some.inj hstep)).1
    exact stored_delete h pubkeys fault
  | setFeeRecipient pubkey v fault | setGasLimit pubkey v fault | setGraffiti pubkey v fault =>
    obtain rfl := (Prod.mk.inj (Option.some.inj hstep)).1
    exact stored_configure h (fun w hw => Option.some.inj hw ▸ hpassed) pubkey fault
  | deleteConfiguredFeeRecipient pubkey fault | deleteConfiguredGasLimit pubkey fault
  | deleteConfiguredGraffitiValue pubkey fault =>
    obtain rfl := (Prod.mk.inj (Option.some.inj hstep)).1
    exact stored_configure h (fun w hw => by cases hw) pubkey fault

lemma stored_step (h : Stored s) (hstep : step srv s r = some (s', o)) : Stored s' := by
  by_cases hadmitted : Admitted srv r
  · obtain ⟨hperforms, hhandled⟩ := step_of_admitted (s := s) hadmitted
    rw [hhandled] at hstep
    obtain ⟨rfl, -⟩ := Prod.mk.inj (Option.some.inj hstep)
    cases hcall : call srv r with
    | none =>
      rw [hcall] at hperforms
      have hsame : (handler srv r s).1 = s := hperforms
      rwa [hsame]
    | some c =>
      rw [hcall] at hperforms
      obtain ⟨out, hc, -⟩ := hperforms
      exact stored_call h (passed_call hcall) hc
  · rw [step_of_not_admitted hadmitted] at hstep
    obtain ⟨rfl, -⟩ := Prod.mk.inj (Option.some.inj hstep)
    exact h

/-- A manager that is constructed over accepted rows. -/
lemma stored_init {data : Dict String Row}
    (h : ∀ pubkey row, data.get pubkey = some row → row.Accepted) : Stored (.init data) := by
  refine ⟨h, fun col pubkey v hv => ?_⟩
  have hload : ((State.init data).overrides col).get pubkey =
      (data.get pubkey).bind fun row => row.get col := by
    rw [← get_loadOverride]
    cases col <;> rfl
  rw [hload] at hv
  obtain ⟨row, hrow, hget⟩ := Option.bind_eq_some_iff.mp hv
  exact accepted_iff.mp (h pubkey row hrow) col v hget

lemma stored_entered {data : Dict String Row}
    (h : ∀ pubkey row, data.get pubkey = some row → row.Accepted)
    (hs : updatePubkeyToRemoteSignerMapping http (.init data) none = (s, .ok ())) : Stored s := by
  have hstored : Stored (updatePubkeyToRemoteSignerMapping http (.init data) none).1 :=
    stored_updateMapping (stored_init h) h
  rwa [hs] at hstored

lemma stored_run (h : Stored s₀) (run : Run (step srv) s₀ requests s es) : Stored s := by
  refine RunIf.invariant (I := fun s _ => Stored s) h ?_ run
  intro s os r s' o hI _ hstep
  exact stored_step hI hstep

lemma stored_boots
    (h : Boots (step srv) (fun _ _ _ => True) (Fresh http) (Restarted http) s) : Stored s := by
  refine h.invariant ?_ ?_ ?_
  · intro s hfresh
    exact stored_entered (fun pubkey row hrow => by simp at hrow) hfresh
  · intro s₀ requests s es hstored run
    exact stored_run hstored run
  · intro s s' hstored hrestarted
    exact stored_entered hstored.rows hrestarted

/-! ### What the duties go by -/

lemma overridden_cases {p : ProposerSettings} (henabled : p.keymanager = some s) (h : Stored s)
    (col : Column) (pubkey default : String) :
    p.overridden col pubkey default = default ∨ accepts col (p.overridden col pubkey default) := by
  unfold ProposerSettings.overridden
  rw [henabled]
  dsimp only
  rw [Dict.getD]
  cases hv : (s.overrides col).get pubkey with
  | none => exact .inl rfl
  | some v => exact .inr (h.overrides col pubkey v hv)

/-- **Overrides are fit for the duties.** From an empty database, over any number of restarts and in
every run of requests: the fee recipient and the gas limit of a key are the defaults or such as
the endpoints accept, and the graffiti of a block can be encoded, so it is never for the
graffiti that producing a block fails. -/
theorem accepted_of_run (h0 : Boots (step srv) (fun _ _ _ => True) (Fresh srv.remote.toHttp)
      (Restarted srv.remote.toHttp) s₀)
    (run : Run (step srv) s₀ requests s es) {p : ProposerSettings}
    (henabled : p.keymanager = some s) (pubkey : String) :
    (p.feeRecipient pubkey = p.cliArgs.feeRecipient ∨
        acceptsFeeRecipient (p.feeRecipient pubkey)) ∧
      (p.gasLimit pubkey = toString p.cliArgs.gasLimit ∨ acceptsGasLimit (p.gasLimit pubkey)) ∧
      ∀ h duty, GoesBy h p → duty.pubkey = pubkey → ∃ graffiti,
        h.dutyGraffiti duty = pure graffiti ∧
          (graffiti = p.cliArgs.graffiti ∨ graffiti.length = 32) := by
  have hstored := stored_run (stored_boots h0) run
  refine ⟨overridden_cases henabled hstored .feeRecipient pubkey _,
    overridden_cases henabled hstored .gasLimit pubkey _, fun h duty hby hduty => ?_⟩
  subst hduty
  cases hv : (s.overrides .graffiti).get duty.pubkey with
  | none => exact ⟨_, dutyGraffiti_of_none hby henabled hv, .inl rfl⟩
  | some v =>
    obtain ⟨bytes, hencode⟩ := hstored.overrides .graffiti duty.pubkey v hv
    exact ⟨bytes, dutyGraffiti_of_some hby henabled hv hencode,
      .inr (encodeGraffiti_eq_ok_iff.mp hencode).1⟩

/-- A key is imported and its graffiti set. -/
theorem accepted_hello : ∃ s es, Run (step someServer) (.init ∅)
    [ownerImports, requestOf "POST" ["eth", "v1", "validator", somePubkey, "graffiti"]
      (some "Bearer c0ffee")] s es ∧
    s.pubkeyToGraffitiOverride.get somePubkey = some "hello" ∧
    ∃ graffiti, (handlerOf s).dutyGraffiti ⟨somePubkey, 7, 1⟩ = pure graffiti := by
  obtain ⟨s, es, run, hs⟩ := @exec_any _ _ _ (step someServer) (fun _ _ _ => True) (.init ∅)
    [ownerImports, requestOf "POST" ["eth", "v1", "validator", somePubkey, "graffiti"]
      (some "Bearer c0ffee")] _
    (fun s _ => s.pubkeyToGraffitiOverride.get somePubkey = some "hello") (by decide +kernel)
  obtain ⟨-, -, hgraffiti⟩ := @accepted_of_run someServer s (.init ∅) _ es (.fresh rfl) run
    (settingsOf s) rfl somePubkey
  obtain ⟨graffiti, hduty, -⟩ := hgraffiti (handlerOf s) ⟨somePubkey, 7, 1⟩ ⟨rfl, rfl⟩ rfl
  exact ⟨s, es, run, of_decide_eq_true hs, graffiti, hduty⟩

end Vero.KeymanagerApi
