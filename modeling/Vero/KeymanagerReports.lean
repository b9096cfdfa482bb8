import Vero.KeymanagerOverrides
import Vero.Lib.PaddedText
import Vero.SchemaKeymanagerAPI
import Vero.SlotFollowUps
import Vero.ValidatorRegistrations

/-!
What the Keymanager API reports of a key, against what the duties of the validator go by.

The reports read the table, and take what is empty there for what is not set. The duties read the
overrides in memory, where an empty text is an override like any other.
-/

namespace Vero

open Lib

/-- `decode_graffiti`: the text without the zeros behind it. -/
def decodeGraffiti (graffitiBytes : List UInt8) : Except String String :=
  match PaddedText.decode? (graffitiBytes.rdropWhile (· = 0)) with
  | some graffiti => .ok graffiti
  | none => .error "UnicodeDecodeError"

variable {g : String} {bytes : List UInt8}

lemma encodeGraffiti_eq_ok_iff : encodeGraffiti g = .ok bytes ↔
    bytes.length = 32 ∧ ∃ k, bytes = PaddedText.encode g ++ List.replicate k 0 := by
  have hpad : encodeGraffiti g =
      if 32 < ((PaddedText.encode g).rightpad 32 0).length then
        .error "Encoded graffiti exceeds the maximum length of 32 bytes"
      else .ok ((PaddedText.encode g).rightpad 32 0) := rfl
  rw [hpad]
  unfold List.rightpad
  rw [List.length_append, List.length_replicate]
  split_ifs with hlong
  · refine iff_of_false (by simp) ?_
    rintro ⟨hlen, k, rfl⟩
    rw [List.length_append] at hlen
    omega
  · rw [Except.ok.injEq]
    constructor
    · rintro rfl
      refine ⟨?_, _, rfl⟩
      rw [List.length_append, List.length_replicate]
      omega
    · rintro ⟨hlen, k, rfl⟩
      rw [List.length_append, List.length_replicate] at hlen
      rw [← hlen, Nat.add_sub_cancel_left]

/-- **Decoding a graffiti loses nothing of its bytes.** -/
lemma encodeGraffiti_decodeGraffiti (h : encodeGraffiti g = .ok bytes) :
    ∃ g', decodeGraffiti bytes = .ok g' ∧ encodeGraffiti g' = .ok bytes := by
  obtain ⟨hlen, k, rfl⟩ := encodeGraffiti_eq_ok_iff.mp h
  obtain ⟨j, hj⟩ := PaddedText.encode_rdropWhile_append g.toList
  rw [String.ofList_toList] at hj
  refine ⟨.ofList (g.toList.rdropWhile (· = '\x00')), ?_,
    encodeGraffiti_eq_ok_iff.mpr ⟨hlen, j + k, ?_⟩⟩
  · have hdecode := PaddedText.rdropWhile_encode g.toList
    rw [String.ofList_toList] at hdecode
    unfold decodeGraffiti
    rw [PaddedText.rdropWhile_append_zeros, hdecode, PaddedText.decode?_encode]
  · rw [List.replicate_add, ← List.append_assoc, ← hj]

lemma encodeGraffiti_empty : encodeGraffiti "" = .ok (List.replicate 32 0) := by
  refine encodeGraffiti_eq_ok_iff.mpr ⟨by simp, 32, ?_⟩
  rw [PaddedText.encode_eq]
  rfl

end Vero

namespace Vero.Keymanager

open Lib BlockProposalService SchemaKeymanagerAPI

/-! ### Reports -/

structure ValidatorFeeRecipient where
  pubkey : String
  ethaddress : String
  deriving DecidableEq

structure ValidatorGasLimit where
  pubkey : String
  gasLimit : String
  deriving DecidableEq

structure ValidatorGraffiti where
  pubkey : String
  graffiti : String
  deriving DecidableEq

/-- The value of a column, or the default where there is none or an empty one. -/
def reported (s : State) (col : Column) (pubkey : String) (default : Except String String)
    (fault : Fault) : Except Exception String :=
  match fault with
  | some e => .error (.raised e)
  | none =>
    match s.keymanagerData.get pubkey with
    | none => .error (.pubkeyNotFound pubkey)
    | some row =>
      match (row.get col).filter (· ≠ "") with
      | some value => .ok value
      | none => default.mapError .raised

variable (s : State) (cliArgs : CLIArgs) (pubkey : String) (fault : Fault)

def getFeeRecipient : Except Exception ValidatorFeeRecipient :=
  (reported s .feeRecipient pubkey (.ok cliArgs.feeRecipient) fault).map (⟨pubkey, ·⟩)

def getGasLimit : Except Exception ValidatorGasLimit :=
  (reported s .gasLimit pubkey (.ok (toString cliArgs.gasLimit)) fault).map (⟨pubkey, ·⟩)

def getGraffiti : Except Exception ValidatorGraffiti :=
  (reported s .graffiti pubkey (decodeGraffiti cliArgs.graffiti) fault).map (⟨pubkey, ·⟩)

/-! ### What the endpoints accept -/

def acceptsFeeRecipient (ethaddress : String) : Prop :=
  ethAddress.search ethaddress.toList = true ∧
    ethaddress ≠ "0x0000000000000000000000000000000000000000"

def acceptsGasLimit (gasLimit : String) : Prop := uint64String.search gasLimit.toList = true

def acceptsGraffiti (graffiti : String) : Prop := ∃ bytes, encodeGraffiti graffiti = .ok bytes

/-- The values of a row are such as the endpoints accept. -/
structure Row.Accepted (row : Row) : Prop where
  feeRecipient : ∀ v ∈ row.feeRecipient, acceptsFeeRecipient v
  gasLimit : ∀ v ∈ row.gasLimit, acceptsGasLimit v
  graffiti : ∀ v ∈ row.graffiti, acceptsGraffiti v

/-! ### Reports against duties -/

/-- The handler of slots goes by these settings. -/
structure GoesBy (h : SlotHandler) (p : ProposerSettings) : Prop where
  graffiti : h.graffiti = p.cliArgs.graffiti
  override : h.pubkeyToGraffitiOverride = p.keymanager.map (·.pubkeyToGraffitiOverride)

/-- What is reported of a key is what its duties go by. -/
structure ReportsUsed (h : SlotHandler) (p : ProposerSettings) (s : State) (pubkey : String) :
    Prop where
  graffiti : ∃ report bytes, getGraffiti s p.cliArgs pubkey none = .ok report ∧
    encodeGraffiti report.graffiti = .ok bytes ∧
    ∀ duty, duty.pubkey = pubkey → h.dutyGraffiti duty = pure bytes
  feeRecipient : ∃ report, getFeeRecipient s p.cliArgs pubkey none = .ok report ∧
    ∀ v, v.pubkey = pubkey → (p.preparation v).feeRecipient = report.ethaddress ∧
      ∀ timestamp, (p.validatorRegistration timestamp v).feeRecipient = report.ethaddress
  gasLimit : ∃ report, getGasLimit s p.cliArgs pubkey none = .ok report ∧
    ∀ v, v.pubkey = pubkey →
      ∀ timestamp, (p.validatorRegistration timestamp v).gasLimit = report.gasLimit

variable {s : State} {p : ProposerSettings} {h : SlotHandler} {row : Row} {pubkey : String}
variable {col : Column} {default : String}

lemma get_overrides (hloaded : OverridesLoaded s) (hrow : s.keymanagerData.get pubkey = some row)
    (col : Column) : (s.overrides col).get pubkey = row.get col := by
  rw [overridesLoaded_iff.mp hloaded, hrow, Option.bind_some]

lemma reported_eq (hrow : s.keymanagerData.get pubkey = some row) (hvalue : row.get col ≠ some "")
    (default : String) :
    reported s col pubkey (.ok default) none = .ok ((row.get col).getD default) := by
  unfold reported
  dsimp only
  rw [hrow]
  dsimp only
  cases hget : row.get col with
  | none => rfl
  | some value =>
    have hne : value ≠ "" := fun hempty => hvalue (hget.trans (congrArg some hempty))
    rw [Option.filter_some, if_pos (by simpa using hne)]
    rfl

lemma overridden_eq (henabled : p.keymanager = some s) (hloaded : OverridesLoaded s)
    (hrow : s.keymanagerData.get pubkey = some row) (col : Column) (default : String) :
    p.overridden col pubkey default = (row.get col).getD default := by
  unfold ProposerSettings.overridden
  rw [henabled]
  dsimp only
  rw [Dict.getD, get_overrides hloaded hrow]

/-- The endpoints accept no empty fee recipient and no empty gas limit. -/
lemma Row.Accepted.ne_empty (hacc : row.Accepted) (hcol : col ≠ .graffiti) :
    row.get col ≠ some "" := by
  intro hempty
  cases col with
  | feeRecipient => exact absurd (hacc.feeRecipient "" hempty).1 (by decide +kernel)
  | gasLimit => exact absurd (hacc.gasLimit "" hempty) (by unfold acceptsGasLimit; decide +kernel)
  | graffiti => exact hcol rfl

lemma dutyGraffiti_of_none {duty : SchemaBeaconAPI.ProposerDuty} (hby : GoesBy h p)
    (henabled : p.keymanager = some s) (hget : (s.overrides .graffiti).get duty.pubkey = none) :
    h.dutyGraffiti duty = pure p.cliArgs.graffiti := by
  have hoverride : s.pubkeyToGraffitiOverride.get duty.pubkey = none := hget
  unfold SlotHandler.dutyGraffiti
  rw [hby.override, henabled, Option.map_some, Option.bind_some, hoverride, hby.graffiti]

lemma dutyGraffiti_of_some {duty : SchemaBeaconAPI.ProposerDuty} {value : String}
    (hby : GoesBy h p) (henabled : p.keymanager = some s)
    (hget : (s.overrides .graffiti).get duty.pubkey = some value)
    (hencode : encodeGraffiti value = .ok bytes) : h.dutyGraffiti duty = pure bytes := by
  have hoverride : s.pubkeyToGraffitiOverride.get duty.pubkey = some value := hget
  unfold SlotHandler.dutyGraffiti
  rw [hby.override, henabled, Option.map_some, Option.bind_some, hoverride]
  dsimp only
  rw [hencode]

/-- The graffiti is the one value of which an empty text is accepted. -/
lemma graffitiUsed_iff (hby : GoesBy h p) (henabled : p.keymanager = some s)
    (hloaded : OverridesLoaded s) (hdefault : encodeGraffiti g = .ok p.cliArgs.graffiti)
    (hrow : s.keymanagerData.get pubkey = some row) (hacc : row.Accepted) :
    (∃ report bytes, getGraffiti s p.cliArgs pubkey none = .ok report ∧
      encodeGraffiti report.graffiti = .ok bytes ∧
      ∀ duty, duty.pubkey = pubkey → h.dutyGraffiti duty = pure bytes) ↔
    ¬ (row.graffiti = some "" ∧ p.cliArgs.graffiti ≠ List.replicate 32 0) := by
  obtain ⟨g', hdecode, hencode⟩ := encodeGraffiti_decodeGraffiti hdefault
  have hget : ∀ duty : SchemaBeaconAPI.ProposerDuty, duty.pubkey = pubkey →
      (s.overrides .graffiti).get duty.pubkey = row.graffiti := fun duty hduty =>
    get_overrides hloaded (hduty ▸ hrow) .graffiti
  have hreport : getGraffiti s p.cliArgs pubkey none =
      (match row.graffiti.filter (· ≠ "") with
        | some value => Except.ok value
        | none => .ok g').map (⟨pubkey, ·⟩) := by
    unfold getGraffiti reported
    dsimp only
    rw [hrow, hdecode]
    rfl
  rw [hreport]
  cases hgraffiti : row.graffiti with
  | none =>
    refine iff_of_true ⟨⟨pubkey, g'⟩, _, rfl, hencode, fun duty hduty => ?_⟩ fun hempty =>
      absurd hempty.1 (Option.some_ne_none _).symm
    exact dutyGraffiti_of_none hby henabled ((hget duty hduty).trans hgraffiti)
  | some value =>
    have hused : ∀ bytes, encodeGraffiti value = .ok bytes → ∀ duty, duty.pubkey = pubkey →
        h.dutyGraffiti duty = pure bytes := fun bytes hbytes duty hduty =>
      dutyGraffiti_of_some hby henabled ((hget duty hduty).trans hgraffiti) hbytes
    by_cases hempty : value = ""
    · subst hempty
      have hzeros := hused _ encodeGraffiti_empty
      rw [Option.filter_some, if_neg (by simp)]
      simp only [true_and, ne_eq, not_not]
      constructor
      · rintro ⟨report, bytes, he, hbytes, hall⟩
        obtain rfl := Except.ok.inj he
        obtain rfl := Except.ok.inj (hencode.symm.trans hbytes)
        have hsame := (hall ⟨pubkey, 0, 0⟩ rfl).symm.trans (hzeros ⟨pubkey, 0, 0⟩ rfl)
        have hrun := congrArg (fun x => x.outcome (.init Dict.empty Dict.empty)) hsame
        exact Except.ok.inj (Prod.mk.inj hrun).2
      · intro hdefault
        rw [hdefault] at hencode
        exact ⟨⟨pubkey, g'⟩, _, rfl, hencode, hzeros⟩
    · obtain ⟨bytes, hbytes⟩ := hacc.graffiti value hgraffiti
      rw [Option.filter_some, if_pos (by simpa using hempty)]
      exact iff_of_true ⟨⟨pubkey, value⟩, bytes, rfl, hbytes, hused bytes hbytes⟩ fun h =>
        hempty (Option.some.inj h.1)

/-- **When the reports on a key are what its duties go by.** The overrides being those of the
table and its values such as the endpoints accept, they are unless the graffiti of the key was
set to the empty text while there is a default graffiti. -/
theorem reportsUsed_iff (h : SlotHandler) {p : ProposerSettings} (hby : GoesBy h p)
    (henabled : p.keymanager = some s) (hloaded : OverridesLoaded s)
    (hdefault : encodeGraffiti g = .ok p.cliArgs.graffiti)
    (hrow : s.keymanagerData.get pubkey = some row) (hacc : row.Accepted) :
    ReportsUsed h p s pubkey ↔
      ¬ (row.graffiti = some "" ∧ p.cliArgs.graffiti ≠ List.replicate 32 0) := by
  rw [← graffitiUsed_iff hby henabled hloaded hdefault hrow hacc]
  refine ⟨fun hused => hused.graffiti, fun hgraffiti => ⟨hgraffiti, ?_, ?_⟩⟩
  · refine ⟨_, congrArg (Except.map _)
      (reported_eq hrow (hacc.ne_empty (by decide)) p.cliArgs.feeRecipient), ?_⟩
    rintro v rfl
    have hused := overridden_eq henabled hloaded hrow .feeRecipient p.cliArgs.feeRecipient
    exact ⟨hused, fun _ => hused⟩
  · refine ⟨_, congrArg (Except.map _)
      (reported_eq hrow (hacc.ne_empty (by decide)) (toString p.cliArgs.gasLimit)), ?_⟩
    rintro v rfl timestamp
    exact overridden_eq henabled hloaded hrow .gasLimit (toString p.cliArgs.gasLimit)

/-! ### An empty graffiti -/

/-- "Vero". -/
def defaultGraffiti : List UInt8 := [86, 101, 114, 111] ++ List.replicate 28 0

lemma encodeGraffiti_vero : encodeGraffiti "Vero" = .ok defaultGraffiti := by
  refine encodeGraffiti_eq_ok_iff.mpr ⟨rfl, 28, ?_⟩
  rw [PaddedText.encode_eq]
  rfl

/-- "hello". -/
lemma encodeGraffiti_hello :
    encodeGraffiti "hello" = .ok ([104, 101, 108, 108, 111] ++ List.replicate 27 0) := by
  refine encodeGraffiti_eq_ok_iff.mpr ⟨rfl, 27, ?_⟩
  rw [PaddedText.encode_eq]
  rfl

def someRow : Row := ⟨"http://signer:9000", none, none, none⟩

/-- A manager with one key, for which nothing is set. -/
def unset : State := .init ((∅ : Dict String Row).set somePubkey someRow)

def settingsOf (s : State) : ProposerSettings :=
  ⟨⟨"0xfee0000000000000000000000000000000000001", 60000000, defaultGraffiti⟩, some s⟩

def handlerOf (s : State) : SlotHandler :=
  { SlotHandler.nodesDown with
    graffiti := defaultGraffiti
    pubkeyToGraffitiOverride := some s.pubkeyToGraffitiOverride }

lemma overridesLoaded_unset : OverridesLoaded unset := fun _ => ⟨rfl, rfl, rfl⟩

lemma get_unset : unset.keymanagerData.get somePubkey = some someRow := by
  unfold unset State.init
  rw [Dict.get_set, if_pos rfl]

def allSetRow : Row :=
  ⟨"http://signer:9000", some "0xfee0000000000000000000000000000000000002", some "30000000",
    some "hello"⟩

/-- A manager with one key, for which everything is set. -/
def allSet : State := .init ((∅ : Dict String Row).set somePubkey allSetRow)

lemma allSetRow_accepted : allSetRow.Accepted := by
  refine ⟨fun v hv => ?_, fun v hv => ?_, fun v hv => ?_⟩
  · obtain rfl := Option.some.inj hv
    exact ⟨by decide +kernel, by decide⟩
  · obtain rfl := Option.some.inj hv
    exact show uint64String.search "30000000".toList = true by decide +kernel
  · obtain rfl := Option.some.inj hv
    exact ⟨_, encodeGraffiti_hello⟩

theorem reportsUsed_iff_allSet :
    ReportsUsed (handlerOf allSet) (settingsOf allSet) allSet somePubkey := by
  have hrow : allSet.keymanagerData.get somePubkey = some allSetRow := by
    unfold allSet State.init
    rw [Dict.get_set, if_pos rfl]
  refine (reportsUsed_iff (handlerOf allSet) ⟨rfl, rfl⟩ rfl (fun _ => ⟨rfl, rfl, rfl⟩)
    encodeGraffiti_vero hrow allSetRow_accepted).mpr fun h => ?_
  exact absurd (Option.some.inj h.1) (by decide)

/-- The graffiti of the key, set to the empty text. -/
def emptied : State := (setGraffiti unset somePubkey "" none).1

lemma decodeGraffiti_vero : decodeGraffiti defaultGraffiti = .ok "Vero" := by
  have hzeros : defaultGraffiti.rdropWhile (· = 0) = PaddedText.encode "Vero" := by
    rw [PaddedText.encode_eq]
    decide
  unfold decodeGraffiti
  rw [hzeros, PaddedText.decode?_encode]

lemma get_emptied :
    emptied.keymanagerData.get somePubkey = some { someRow with graffiti := some "" } := by
  simp [emptied, setGraffiti, configure, update, get_unset, Row.set]

lemma getGraffiti_emptied : getGraffiti emptied (settingsOf emptied).cliArgs somePubkey none =
    .ok ⟨somePubkey, "Vero"⟩ := by
  have hdecode : decodeGraffiti (settingsOf emptied).cliArgs.graffiti = .ok "Vero" :=
    decodeGraffiti_vero
  unfold getGraffiti reported
  dsimp only
  rw [get_emptied, hdecode]
  rfl

/-- **An empty graffiti is used, while the default one is reported.** -/
theorem emptied_graffiti : (setGraffiti unset somePubkey "" none).2 = .ok () ∧
    acceptsGraffiti "" ∧ OverridesLoaded emptied ∧ encodeGraffiti "Vero" = .ok defaultGraffiti ∧
    getGraffiti emptied (settingsOf emptied).cliArgs somePubkey none = .ok ⟨somePubkey, "Vero"⟩ ∧
    (∀ duty, duty.pubkey = somePubkey →
      (handlerOf emptied).dutyGraffiti duty = pure (List.replicate 32 0)) ∧
    ¬ ReportsUsed (handlerOf emptied) (settingsOf emptied) emptied somePubkey := by
  have hby : GoesBy (handlerOf emptied) (settingsOf emptied) := ⟨rfl, rfl⟩
  have hloaded : OverridesLoaded emptied :=
    overridesLoaded_configure overridesLoaded_unset .graffiti somePubkey (some "") none
  have haccepts : acceptsGraffiti "" := ⟨_, encodeGraffiti_empty⟩
  have hacc : ({ someRow with graffiti := some "" } : Row).Accepted := by
    refine ⟨nofun, nofun, fun v hv => ?_⟩
    obtain rfl := Option.some.inj hv
    exact haccepts
  have hset : (setGraffiti unset somePubkey "" none).2 = .ok () := by
    simp [setGraffiti, configure, update, get_unset]
  refine ⟨hset, haccepts, hloaded, encodeGraffiti_vero, getGraffiti_emptied, ?_, fun hused => ?_⟩
  · intro duty hduty
    have hget := get_overrides hloaded get_emptied .graffiti
    exact dutyGraffiti_of_some hby rfl (hduty ▸ hget) encodeGraffiti_empty
  · refine (graffitiUsed_iff hby rfl hloaded encodeGraffiti_vero get_emptied hacc).mp
      hused.graffiti ⟨rfl, ?_⟩
    have hne : defaultGraffiti ≠ List.replicate 32 0 := by decide
    exact hne

end Vero.Keymanager
