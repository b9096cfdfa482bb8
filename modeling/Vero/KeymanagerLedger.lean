import Vero.KeymanagerEndpoints
import Vero.RemoteSigners

/-!
What a client of the Keymanager API can know.

From its requests and their responses it can keep a ledger of the keys and their overrides. As
long as no import or deletion fails as a whole, the ledger is the table.
-/

namespace Vero.KeymanagerApi

open Lib Lib.Runs Keymanager SchemaKeymanagerAPI

/-- The rows by their keys. -/
abbrev Ledger := String → Option Row

namespace Ledger

def write (l : Ledger) (col : Column) (pubkey : String) (value : Option String) : Ledger :=
  Function.update l pubkey ((l pubkey).map fun row => row.set value col)

/-- The keys that are said to be imported. -/
def imported (l : Ledger) (told : List ((RemoteKey × Fault) × ImportStatusMessage)) : Ledger :=
  told.foldl (fun l t => if t.2.status = .imported then
    Function.update l t.1.1.pubkey (some t.1.1.row) else l) l

/-- Without the keys that are said to be deleted. -/
def deleted (l : Ledger) (told : List ((String × Fault) × DeleteStatusMessage)) : Ledger :=
  told.foldl (fun l t => if t.2.status = .deleted then Function.update l t.1.1 none else l) l

/-- The ledger after a call and the response to it. -/
def record (l : Ledger) : Call → Body → Ledger
  | .importRemoteKeys keys _, .importRemoteKeys messages => l.imported (keys.zip messages)
  | .deleteRemoteKeys pubkeys _, .deleteRemoteKeys messages => l.deleted (pubkeys.zip messages)
  | .setFeeRecipient pubkey value _, .empty => l.write .feeRecipient pubkey (some value)
  | .deleteConfiguredFeeRecipient pubkey _, .empty => l.write .feeRecipient pubkey none
  | .setGasLimit pubkey value _, .empty => l.write .gasLimit pubkey (some value)
  | .deleteConfiguredGasLimit pubkey _, .empty => l.write .gasLimit pubkey none
  | .setGraffiti pubkey value _, .empty => l.write .graffiti pubkey (some value)
  | .deleteConfiguredGraffitiValue pubkey _, .empty => l.write .graffiti pubkey none
  | _, _ => l

end Ledger

def recordExchange (srv : Server) (l : Ledger) (e : Exchange) : Ledger :=
  match call srv e.request with
  | none => l
  | some c => l.record c e.response.body

def ledger (srv : Server) (l : Ledger) (es : List Exchange) : Ledger :=
  es.foldl (recordExchange srv) l

/-- What a response tells is what the ledger has. -/
def Told (srv : Server) (l : Ledger) : Body → Prop
  | .listFeeRecipient data => ∃ row, l data.pubkey = some row ∧
      data.ethaddress = (row.feeRecipient.filter (· ≠ "")).getD srv.cliArgs.feeRecipient
  | .listGasLimit data => ∃ row, l data.pubkey = some row ∧
      data.gasLimit = (row.gasLimit.filter (· ≠ "")).getD (toString srv.cliArgs.gasLimit)
  | .graffiti data => ∃ row, l data.pubkey = some row ∧
      (row.graffiti.filter (· ≠ "") = some data.graffiti ∨
        row.graffiti.filter (· ≠ "") = none ∧
          decodeGraffiti srv.cliArgs.graffiti = .ok data.graffiti)
  | .listRemoteKeys data => ∀ pubkey url,
      ⟨⟨pubkey, url⟩, false⟩ ∈ data ↔ ∃ row, l pubkey = some row ∧ row.url = url
  | .error (.pubkeyNotFound pubkey) => l pubkey = none
  | _ => True

/-- An import or a deletion is answered for each of its keys, and does not fail as a whole. -/
def ConfirmedCall (http : Http) (s : State) : Call → Prop
  | .importRemoteKeys keys fault => (importRemoteKeys http s keys fault).2.isOk = true
  | .deleteRemoteKeys pubkeys fault => (deleteRemoteKeys http s pubkeys fault).2.isOk = true
  | _ => True

def Confirmed (srv : Server) : Guard State Request Exchange := fun s _ r =>
  ∀ c ∈ call srv r, ConfirmedCall srv.remote.toHttp s c

instance (http : Http) (s : State) : ∀ c, Decidable (ConfirmedCall http s c)
  | .importRemoteKeys _ _ => instDecidableEqBool _ _
  | .deleteRemoteKeys _ _ => instDecidableEqBool _ _
  | .setFeeRecipient _ _ _ | .setGasLimit _ _ _ | .setGraffiti _ _ _
  | .deleteConfiguredFeeRecipient _ _ | .deleteConfiguredGasLimit _ _
  | .deleteConfiguredGraffitiValue _ _ => instDecidableTrue

instance (srv : Server) (s : State) (es : List Exchange) (r : Request) :
    Decidable (Confirmed srv s es r) :=
  inferInstanceAs (Decidable (∀ c ∈ call srv r, ConfirmedCall srv.remote.toHttp s c))

variable {srv : Server} {r : Request} {s s₀ s' : State} {requests : List Request}
  {es o : List Exchange} {l : Ledger} {c : Call} {data : Dict String Row} {col : Column}
  {pubkey : String} {value : Option String} {fault : Fault}

/-! ### The table -/

lemma get_set_eq (data : Dict String Row) (pubkey : String) (row : Row) :
    (data.set pubkey row).get = Function.update data.get pubkey (some row) := by
  ext1 pk
  rw [Dict.get_set, Function.update_apply]

lemma get_filterKeys_eq (data : Dict String Row) (pubkey : String) :
    (data.filterKeys (· ≠ pubkey)).get = Function.update data.get pubkey none := by
  ext1 pk
  rw [Dict.get_filterKeys, Function.update_apply]
  by_cases h : pk = pubkey <;> simp [h]

/-- **The statuses of an import tell what it makes of the table.** -/
lemma imported_importRows (data : Dict String Row) (keys : List (RemoteKey × Fault)) :
    Ledger.imported data.get (keys.zip (importRows data keys).2) =
      (importRows data keys).1.get := by
  induction keys generalizing data with
  | nil => rfl
  | cons k keys ih =>
    have hhead : (if (importRow data k).2.status = .imported then
        Function.update data.get k.1.pubkey (some k.1.row) else data.get) =
          (importRow data k).1.get := by
      obtain ⟨remoteKey, fault⟩ := k
      cases fault with
      | some e => rfl
      | none =>
        cases hget : data.get remoteKey.pubkey with
        | some row => simp [importRow, hget]
        | none => simp [importRow, hget, get_set_eq]
    have hrest := ih (importRow data k).1
    rw [← hhead] at hrest
    exact hrest

lemma deleted_deleteRows (data : Dict String Row) (pubkeys : List (String × Fault)) :
    Ledger.deleted data.get (pubkeys.zip (deleteRows data pubkeys).2) =
      (deleteRows data pubkeys).1.get := by
  induction pubkeys generalizing data with
  | nil => rfl
  | cons k pubkeys ih =>
    have hhead : (if (deleteRow data k).2.status = .deleted then
        Function.update data.get k.1 none else data.get) = (deleteRow data k).1.get := by
      obtain ⟨pubkey, fault⟩ := k
      cases fault with
      | some e => rfl
      | none =>
        cases hget : data.get pubkey with
        | none => simp [deleteRow, hget]
        | some row =>
          rw [deleteRow, hget]
          exact (get_filterKeys_eq data pubkey).symm
    have hrest := ih (deleteRow data k).1
    rw [← hhead] at hrest
    exact hrest

/-- Where a column is set, the row was there; where the key is not found, it was not. -/
lemma configure_told (s : State) (col : Column) (pubkey : String) (value : Option String)
    (fault : Fault) :
    ((configure s col pubkey value fault).2 = .ok () ∧
      (configure s col pubkey value fault).1.keymanagerData.get =
        Ledger.write s.keymanagerData.get col pubkey value) ∨
    ∃ e, (configure s col pubkey value fault).2 = .error e ∧
      (configure s col pubkey value fault).1 = s ∧
      ∀ pk, e = .pubkeyNotFound pk → s.keymanagerData.get pk = none := by
  cases fault with
  | some e => exact .inr ⟨_, rfl, rfl, fun pk h => by cases h⟩
  | none =>
    cases hrow : s.keymanagerData.get pubkey with
    | none =>
      refine .inr ⟨.pubkeyNotFound pubkey, ?_, ?_, fun pk h => ?_⟩
      · simp [configure, update, hrow]
      · simp [configure, update, hrow]
      · rw [← Exception.pubkeyNotFound.inj h]
        exact hrow
    | some row =>
      refine .inl ⟨by simp [configure, update, hrow], ?_⟩
      simp [configure, update, hrow, Ledger.write, get_set_eq]

/-! ### Reports -/

lemma reported_told {default : Except String String} {v : String}
    (h : reported s col pubkey default fault = .ok v) :
    ∃ row, s.keymanagerData.get pubkey = some row ∧
      ((row.get col).filter (· ≠ "") = some v ∨
        (row.get col).filter (· ≠ "") = none ∧ default = .ok v) := by
  unfold reported at h
  cases fault with
  | some e => cases h
  | none =>
    cases hrow : s.keymanagerData.get pubkey with
    | none => simp [hrow] at h
    | some row =>
      refine ⟨row, rfl, ?_⟩
      simp only [hrow] at h
      cases hvalue : (row.get col).filter (· ≠ "") with
      | some value =>
        simp only [hvalue] at h
        exact .inl (congrArg some (Except.ok.inj h))
      | none =>
        simp only [hvalue] at h
        cases default with
        | error e => cases h
        | ok d => exact .inr ⟨rfl, congrArg Except.ok (Except.ok.inj h)⟩

lemma reported_notFound {default : Except String String} {pk : String}
    (h : reported s col pubkey default fault = .error (.pubkeyNotFound pk)) :
    s.keymanagerData.get pk = none := by
  unfold reported at h
  cases fault with
  | some e => cases h
  | none =>
    cases hrow : s.keymanagerData.get pubkey with
    | none =>
      simp only [hrow, Except.error.injEq, Exception.pubkeyNotFound.injEq] at h
      exact h ▸ hrow
    | some row =>
      simp only [hrow] at h
      split at h
      · cases h
      · cases default <;> cases h

lemma getD_told (col : Column) {row : Row} {default v : String}
    (h : (row.get col).filter (· ≠ "") = some v ∨
      (row.get col).filter (· ≠ "") = none ∧ Except.ok (ε := String) default = .ok v) :
    v = ((row.get col).filter (· ≠ "")).getD default := by
  rcases h with h | ⟨h, hdefault⟩
  · rw [h, Option.getD_some]
  · rw [h, Option.getD_none, Except.ok.inj hdefault]

/-! ### Handlers -/

/-- The body of what a handler ends with. -/
def Handled.body (handled : Handled) : Body :=
  match handled.2 with
  | .ok response => response.body
  | .error e => .error e

lemma body_exceptionHandler (s : State) (handled : Handled) :
    (exceptionHandler s fun _ => handled).2.body = handled.body := by
  obtain ⟨s', result⟩ := handled
  cases result <;> rfl

lemma told_answer {α : Type} {status : ℕ} {body : α → Body} {p : State × Except Exception α}
    (hok : ∀ a, p.2 = .ok a → Told srv l (body a))
    (herror : ∀ pk, p.2 = .error (.pubkeyNotFound pk) → l pk = none) :
    Told srv l (answer status body p).body := by
  obtain ⟨s', result⟩ := p
  cases result with
  | ok a => exact hok a rfl
  | error e =>
    cases e with
    | pubkeyNotFound pk => exact herror pk rfl
    | raised text => exact trivial

lemma told_withBody {α : Type} {decode : List UInt8 → Except DecodeError α} {handler : α → Handled}
    (h : ∀ requestData, Told srv l (handler requestData).body) :
    Told srv l (withBody r decode s handler).body := by
  unfold withBody Request.read
  cases r.content with
  | error text => exact trivial
  | ok content =>
    dsimp only
    cases decode content with
    | ok requestData => exact h requestData
    | error e => cases e <;> exact trivial

/-- A report on one column, in whatever form. -/
lemma told_report {α : Type} {build : String → α} {body : α → Body}
    {default : Except String String}
    (h : ∀ v, reported s col pubkey default fault = .ok v →
      Told srv s.keymanagerData.get (body (build v))) :
    Told srv s.keymanagerData.get
      (answer 200 body (s, (reported s col pubkey default fault).map build)).body := by
  cases hreport : reported s col pubkey default fault with
  | ok v => exact h v hreport
  | error e =>
    cases e with
    | pubkeyNotFound pk => exact reported_notFound hreport
    | raised text => exact trivial

lemma told_configure (status : ℕ) : Told srv s.keymanagerData.get
    (answer status (fun _ => .empty) (configure s col pubkey value fault)).body := by
  refine told_answer (fun _ _ => trivial) fun pk herror => ?_
  rcases configure_told s col pubkey value fault with ⟨hok, -⟩ | ⟨e, he, -, hnone⟩
  · rw [hok] at herror
    cases herror
  · exact hnone pk (Except.error.inj (he.symm.trans herror))

/-- The mapping is built anew from another table, which keys were imported to or deleted from. -/
def remapped {α : Type} (http : Http) (s : State) (keymanagerData : Dict String Row) (messages : α)
    (fault : Fault) : State × Except Exception α :=
  let (s, result) := updatePubkeyToRemoteSignerMapping http { s with keymanagerData } fault
  (s, result.map fun _ => messages)

lemma importRemoteKeys_eq {http : Http} {keys : List (RemoteKey × Fault)} :
    importRemoteKeys http s keys fault = remapped http s (importRows s.keymanagerData keys).1
      (importRows s.keymanagerData keys).2 fault := rfl

lemma deleteRemoteKeys_eq {http : Http} {pubkeys : List (String × Fault)} :
    deleteRemoteKeys http s pubkeys fault = remapped http s (deleteRows s.keymanagerData pubkeys).1
      (deleteRows s.keymanagerData pubkeys).2 fault := rfl

lemma remapped_raised {α : Type} {http : Http} {data : Dict String Row} {messages : α}
    {pk : String} : (remapped http s data messages fault).2 ≠ .error (.pubkeyNotFound pk) := by
  unfold remapped updatePubkeyToRemoteSignerMapping
  cases fault with
  | some e => simp [Except.map]
  | none =>
    dsimp only
    split <;> simp [Except.map]

lemma told_importRemoteKeys {http : Http} {keys : List (RemoteKey × Fault)} :
    Told srv l (answer 200 .importRemoteKeys (importRemoteKeys http s keys fault)).body := by
  rw [importRemoteKeys_eq]
  exact told_answer (fun _ _ => trivial) fun pk herror => absurd herror remapped_raised

lemma told_deleteRemoteKeys {http : Http} {pubkeys : List (String × Fault)} :
    Told srv l (answer 200 .deleteRemoteKeys (deleteRemoteKeys http s pubkeys fault)).body := by
  rw [deleteRemoteKeys_eq]
  exact told_answer (fun _ _ => trivial) fun pk herror => absurd herror remapped_raised

lemma told_listRemoteKeys (h : Follows s) (hsigners : Signers srv.remote.toHttp
    s.pubkeyToRemoteSigner) : Told srv s.keymanagerData.get (remoteKeysGet s).body := by
  intro pubkey url
  rw [← (follows_iff hsigners).mp h pubkey url]
  unfold listRemoteKeys
  simp only [List.map_map, List.mem_map, Prod.exists]
  constructor
  · rintro ⟨pk, signer, hmem, heq⟩
    obtain ⟨rfl, rfl⟩ : pk = pubkey ∧ signer.url = url := by simpa using heq
    exact ⟨signer, Dict.mem_items_iff.mp hmem, rfl⟩
  · rintro ⟨signer, hget, rfl⟩
    exact ⟨pubkey, signer, Dict.mem_items_iff.mpr hget, rfl⟩

lemma sign_told {message : SchemaRemoteSigner.VoluntaryExitSignableMessage} {pk : String}
    (h : sign srv s message pubkey = .error (.pubkeyNotFound pk)) :
    s.pubkeyToRemoteSigner.get pk = none := by
  unfold sign at h
  cases hsigner : s.pubkeyToRemoteSigner.get pubkey with
  | none =>
    simp only [hsigner, Except.error.injEq, Raised.pubkeyNotFound.injEq] at h
    exact h ▸ hsigner
  | some signer =>
    simp only [hsigner] at h
    cases hsigned : s.sign srv.remote message pubkey with
    | ok t => simp [hsigned, Except.mapError] at h
    | error e => simp [hsigned, Except.mapError] at h

lemma signVoluntaryExitMessage_told {epoch : Option ℤ} {pk : String}
    (h : signVoluntaryExitMessage srv r s pubkey epoch = .error (.pubkeyNotFound pk)) :
    s.pubkeyToRemoteSigner.get pk = none := by
  unfold signVoluntaryExitMessage at h
  split at h
  · cases h
  · cases h
  · cases hfork : srv.genesis.getForkInfo (srv.genesis.slotsPerEpoch *
        epoch.getD (srv.genesis.currentEpoch r.time)) with
    | error text => simp [hfork, Except.mapError, bind, Except.bind] at h
    | ok forkInfo =>
      simp only [hfork, Except.mapError, bind, Except.bind] at h
      split at h
      · rename_i hsign
        exact sign_told (hsign.trans (congrArg Except.error (Except.error.inj h)))
      · cases h

/-- A key without a signer is not in the table. -/
lemma told_voluntaryExit (h : Follows s) (pubkey : String) :
    Told srv s.keymanagerData.get (voluntaryExitPost srv r s pubkey).body := by
  have hnone : ∀ pk, s.pubkeyToRemoteSigner.get pk = none → s.keymanagerData.get pk = none := by
    intro pk hsigner
    rw [Option.eq_none_iff_forall_ne_some] at hsigner ⊢
    intro row hrow
    obtain ⟨signer, hget⟩ := Dict.mem_keys_iff.mp
      ((h.keys pk).mpr (Dict.mem_keys_iff.mpr ⟨row, hrow⟩))
    exact hsigner signer hget
  unfold voluntaryExitPost
  cases hepoch : exitEpoch srv r with
  | error e =>
    unfold exitEpoch at hepoch
    split at hepoch
    · cases hepoch
    · split at hepoch
      · obtain rfl := Except.error.inj hepoch
        exact trivial
      · cases hepoch
  | ok epoch =>
    dsimp only
    cases hsigned : signVoluntaryExitMessage srv r s pubkey epoch with
    | ok signed => exact trivial
    | error e =>
      cases e with
      | pubkeyNotFound pk => exact hnone pk (signVoluntaryExitMessage_told hsigned)
      | _ => exact trivial

/-- **Every response tells what the table has.** -/
lemma told_handle (h : Follows s) (hsigners : Signers srv.remote.toHttp s.pubkeyToRemoteSigner)
    (endpoint : Endpoint) : Told srv s.keymanagerData.get (handle srv r s endpoint).body := by
  cases endpoint with
  | feeRecipientGet pubkey =>
    refine told_report fun v hv => ?_
    obtain ⟨row, hrow, hvalue⟩ := reported_told hv
    exact ⟨row, hrow, getD_told .feeRecipient hvalue⟩
  | gasLimitGet pubkey =>
    refine told_report fun v hv => ?_
    obtain ⟨row, hrow, hvalue⟩ := reported_told hv
    exact ⟨row, hrow, getD_told .gasLimit hvalue⟩
  | graffitiGet pubkey => exact told_report fun v hv => reported_told hv
  | feeRecipientPost pubkey =>
    refine told_withBody fun requestData => ?_
    split
    · exact trivial
    · exact told_configure 202
  | gasLimitPost pubkey => exact told_withBody fun requestData => told_configure 202
  | graffitiPost pubkey =>
    refine told_withBody fun requestData => ?_
    split
    · exact trivial
    · exact told_configure 202
  | feeRecipientDelete pubkey | gasLimitDelete pubkey | graffitiDelete pubkey =>
    exact told_configure 204
  | remoteKeysGet => exact told_listRemoteKeys h hsigners
  | remoteKeysPost => exact told_withBody fun requestData => told_importRemoteKeys
  | remoteKeysDelete => exact told_withBody fun requestData => told_deleteRemoteKeys
  | voluntaryExitPost pubkey => exact told_voluntaryExit h pubkey

/-! ### Calls -/

/-- A call on one column, which a ledger writes where it is answered. -/
lemma record_configure (status : ℕ) (col : Column) (pubkey : String) (value : Option String)
    (fault : Fault) (hwrite : ∀ l : Ledger, l.record c .empty = l.write col pubkey value)
    (helse : ∀ (l : Ledger) e, l.record c (.error e) = l) :
    (configure s col pubkey value fault).1.keymanagerData.get = Ledger.record s.keymanagerData.get c
      (answer status (fun _ => .empty) (configure s col pubkey value fault)).body := by
  rcases configure_told s col pubkey value fault with ⟨hok, hget⟩ | ⟨e, he, hs, -⟩
  · have hbody : (answer status (fun _ => .empty) (configure s col pubkey value fault)).body =
        .empty := by
      unfold answer Handled.body
      rw [hok]
      rfl
    rw [hget, hbody, hwrite]
  · have hbody : (answer status (fun _ => .empty) (configure s col pubkey value fault)).body =
        .error (.ofException e) := by
      unfold answer Handled.body
      rw [he]
      rfl
    rw [hs, hbody, helse]

/-- The keys of the table are the keys with a signer still. -/
lemma follows_configure (h : Follows s) (col : Column) (pubkey : String) (value : Option String)
    (fault : Fault) : Follows (configure s col pubkey value fault).1 := by
  rcases configure_cases s col pubkey value fault with he | ⟨row, hrow, he⟩
  · rwa [he]
  · rw [he]
    refine ⟨fun pk => ?_, fun pk signer row' hsigner hrow' => ?_, ?_⟩
    · rw [State.pubkeyToRemoteSigner_setOverrides, State.keymanagerData_setOverrides, h.keys,
        Dict.mem_keys_iff, Dict.mem_keys_iff]
      by_cases hpk : pk = pubkey
      · subst hpk
        simp [hrow]
      · simp [hpk]
    · rw [State.pubkeyToRemoteSigner_setOverrides] at hsigner
      rw [State.keymanagerData_setOverrides, Dict.get_set] at hrow'
      split at hrow'
      case isTrue hpk =>
        subst hpk
        obtain rfl := Option.some.inj hrow'
        rw [h.url pk signer row hsigner hrow]
        cases col <;> rfl
      case isFalse => exact h.url pk signer row' hsigner hrow'
    · rw [State.pubkeyToRemoteSigner_setOverrides]
      exact h.shared

/-- A mapping that could be built anew follows the table. -/
lemma follows_updateMapping {http : Http} (hsigners : Signers http s.pubkeyToRemoteSigner)
    (h : (updatePubkeyToRemoteSignerMapping http s fault).2.isOk = true) :
    Follows (updatePubkeyToRemoteSignerMapping http s fault).1 := by
  obtain ⟨-, ⟨-, -, hfollows⟩ | ⟨hfails, -⟩⟩ := updateMapping_cases fault hsigners
  · exact hfollows
  · exfalso
    cases fault with
    | some e => cases h
    | none =>
      obtain ⟨pubkey, row, hrow, hnot⟩ := hfails.resolve_left fun hne => hne rfl
      have hnodup : ((s.keymanagerData.items.map fun it => (it.1, it.2.url)).map
          Prod.fst).Nodup := by
        rw [List.map_map]
        exact s.keymanagerData.nodup
      have hempty : Filed (.ofList (s.pubkeyToRemoteSigner.values.map fun signer =>
          (signer.url, signer))) ∅ := fun pubkey signer hs => by simp at hs
      rcases newMapping_spec (n := s.signers) hnodup (keyed_ofList hsigners)
        (filed_ofList hsigners) hempty with ⟨-, m, e, he⟩ | ⟨hall, -⟩
      · rw [updatePubkeyToRemoteSignerMapping] at h
        simp only [he] at h
        cases h
      · exact hnot (hall (pubkey, row.url) (mem_rows.mpr ⟨row, hrow, rfl⟩))

/-- Where the mapping could be built, it follows the new table. -/
lemma remapped_spec {α : Type} {http : Http} {data : Dict String Row} {messages : α}
    (hsigners : Signers http s.pubkeyToRemoteSigner)
    (hok : (remapped http s data messages fault).2.isOk = true) :
    (remapped http s data messages fault).2 = .ok messages ∧
      (remapped http s data messages fault).1.keymanagerData = data ∧
      Follows (remapped http s data messages fault).1 := by
  have hframe := (updateMapping_frame http { s with keymanagerData := data } fault).1
  have hfollows := @follows_updateMapping { s with keymanagerData := data } fault http hsigners
  unfold remapped at hok ⊢
  dsimp only at hok ⊢
  cases hresult : (updatePubkeyToRemoteSignerMapping http
      { s with keymanagerData := data } fault).2 with
  | error e =>
    rw [hresult] at hok
    cases hok
  | ok => exact ⟨rfl, hframe, hfollows (by rw [hresult]; rfl)⟩

lemma importRemoteKeys_spec {http : Http} {keys : List (RemoteKey × Fault)}
    (hsigners : Signers http s.pubkeyToRemoteSigner)
    (hok : (importRemoteKeys http s keys fault).2.isOk = true) :
    (importRemoteKeys http s keys fault).2 = .ok (importRows s.keymanagerData keys).2 ∧
      (importRemoteKeys http s keys fault).1.keymanagerData = (importRows s.keymanagerData keys).1 ∧
      Follows (importRemoteKeys http s keys fault).1 := by
  rw [importRemoteKeys_eq] at hok ⊢
  exact remapped_spec hsigners hok

lemma deleteRemoteKeys_spec {http : Http} {pubkeys : List (String × Fault)}
    (hsigners : Signers http s.pubkeyToRemoteSigner)
    (hok : (deleteRemoteKeys http s pubkeys fault).2.isOk = true) :
    (deleteRemoteKeys http s pubkeys fault).2 = .ok (deleteRows s.keymanagerData pubkeys).2 ∧
      (deleteRemoteKeys http s pubkeys fault).1.keymanagerData =
        (deleteRows s.keymanagerData pubkeys).1 ∧
      Follows (deleteRemoteKeys http s pubkeys fault).1 := by
  rw [deleteRemoteKeys_eq] at hok ⊢
  exact remapped_spec hsigners hok

/-- **What a ledger records of a call is what the call makes of the table.** -/
lemma record_step {http : Http} {handled : Handled} {out : Output}
    (hsigners : Signers http s.pubkeyToRemoteSigner) (h : Follows s)
    (hconfirmed : ConfirmedCall http s c)
    (hstep : Keymanager.step http s c = some (handled.1, [out]))
    (hreply : handled.2 = reply c out) :
    handled.1.keymanagerData.get = Ledger.record s.keymanagerData.get c handled.body ∧
      Follows handled.1 := by
  obtain ⟨s', result⟩ := handled
  obtain rfl : result = reply c out := hreply
  cases c with
  | importRemoteKeys keys fault =>
    obtain ⟨hresult, hdata, hfollows⟩ := importRemoteKeys_spec hsigners hconfirmed
    simp only [Keymanager.step, Option.some.injEq, Prod.mk.injEq, List.cons.injEq, and_true]
      at hstep
    obtain ⟨rfl, rfl⟩ := hstep
    refine ⟨?_, hfollows⟩
    rw [hresult]
    exact (congrArg Dict.get hdata).trans (imported_importRows s.keymanagerData keys).symm
  | deleteRemoteKeys pubkeys fault =>
    obtain ⟨hresult, hdata, hfollows⟩ := deleteRemoteKeys_spec hsigners hconfirmed
    simp only [Keymanager.step, Option.some.injEq, Prod.mk.injEq, List.cons.injEq, and_true]
      at hstep
    obtain ⟨rfl, rfl⟩ := hstep
    refine ⟨?_, hfollows⟩
    rw [hresult]
    exact (congrArg Dict.get hdata).trans (deleted_deleteRows s.keymanagerData pubkeys).symm
  | setFeeRecipient pubkey v fault | setGasLimit pubkey v fault | setGraffiti pubkey v fault =>
    obtain ⟨rfl, hout⟩ := Prod.mk.inj (Option.some.inj hstep)
    obtain rfl := (List.cons.inj hout).1
    exact ⟨record_configure 202 _ pubkey (some v) fault (fun _ => rfl) fun _ _ => rfl,
      follows_configure h _ _ _ _⟩
  | deleteConfiguredFeeRecipient pubkey fault | deleteConfiguredGasLimit pubkey fault
  | deleteConfiguredGraffitiValue pubkey fault =>
    obtain ⟨rfl, hout⟩ := Prod.mk.inj (Option.some.inj hstep)
    obtain rfl := (List.cons.inj hout).1
    exact ⟨record_configure 204 _ pubkey none fault (fun _ => rfl) fun _ _ => rfl,
      follows_configure h _ _ _ _⟩

/-! ### Runs -/

/-- The ledger is the table, the signers follow it, and everything told was so. -/
structure Known (srv : Server) (l : Ledger) (s : State) (es : List Exchange) : Prop where
  table : s.keymanagerData.get = ledger srv l es
  follows : Follows s
  signers : Signers srv.remote.toHttp s.pubkeyToRemoteSigner
  told : Always (fun pre e => Told srv (ledger srv l pre) e.response.body) es

lemma told_handler (h : Follows s) (hsigners : Signers srv.remote.toHttp s.pubkeyToRemoteSigner) :
    Told srv s.keymanagerData.get (handler srv r s).body := by
  unfold handler resolve
  cases routes r.path with
  | nil => exact trivial
  | cons route rest =>
    dsimp only
    cases (route :: rest).lookup r.method with
    | none => exact trivial
    | some endpoint => exact told_handle h hsigners endpoint

lemma told_refusal (r : Request) : Told srv l (refusal r).body := by
  unfold refusal
  cases hexpect : expectHandler r with
  | none =>
    dsimp only
    split <;> exact trivial
  | some response =>
    unfold expectHandler at hexpect
    split at hexpect
    · cases hexpect
    · split at hexpect
      · cases hexpect
      · obtain rfl := Option.some.inj hexpect
        exact trivial

lemma ledger_snoc (srv : Server) (l : Ledger) (es : List Exchange) (e : Exchange) :
    ledger srv l (es ++ [e]) = recordExchange srv (ledger srv l es) e := by
  simp [ledger]

lemma Known.step (h : Known srv l s es) (hconfirmed : Confirmed srv s es r)
    (hstep : step srv s r = some (s', o)) : Known srv l s' (es ++ o) := by
  by_cases hadmitted : Admitted srv r
  · obtain ⟨hperforms, hhandled⟩ := step_of_admitted (s := s) hadmitted
    rw [hhandled] at hstep
    obtain ⟨rfl, rfl⟩ := Prod.mk.inj (Option.some.inj hstep)
    have hbody := body_exceptionHandler s (handler srv r s)
    have htold : Told srv (ledger srv l es)
        (exceptionHandler s fun _ => handler srv r s).2.body := by
      rw [hbody, ← h.table]
      exact told_handler h.follows h.signers
    cases hcall : call srv r with
    | none =>
      rw [hcall] at hperforms
      have hsame : (handler srv r s).1 = s := hperforms
      rw [hsame]
      refine ⟨?_, h.follows, h.signers, h.told.snoc htold⟩
      rw [ledger_snoc, recordExchange, hcall]
      exact h.table
    | some c =>
      rw [hcall] at hperforms
      obtain ⟨out, hc, hreply⟩ := hperforms
      obtain ⟨htable, hfollows⟩ := record_step h.signers h.follows (hconfirmed c hcall) hc hreply
      refine ⟨?_, hfollows, signers_step h.signers hc, h.told.snoc htold⟩
      rw [ledger_snoc, recordExchange, hcall, htable, hbody, h.table]
  · rw [step_of_not_admitted hadmitted] at hstep
    obtain ⟨rfl, rfl⟩ := Prod.mk.inj (Option.some.inj hstep)
    have hnone : call srv r = none := if_neg hadmitted
    refine ⟨?_, h.follows, h.signers, h.told.snoc ?_⟩
    · rw [ledger_snoc, recordExchange, hnone]
      exact h.table
    · exact told_refusal r

lemma known_entered (h0 : Entered srv.remote.toHttp s) :
    Known srv s.keymanagerData.get s [] := by
  have hsigners := signers_entered h0
  obtain ⟨data, hentered⟩ := h0
  have hempty : Signers srv.remote.toHttp (State.init data).pubkeyToRemoteSigner :=
    ⟨fun _ _ hs => by simp [State.init] at hs, fun _ _ _ _ hs => by simp [State.init] at hs⟩
  have hok : (updatePubkeyToRemoteSignerMapping srv.remote.toHttp (.init data) none).2.isOk =
      true := by
    rw [hentered]
    rfl
  have hfollows := follows_updateMapping hempty hok
  rw [hentered] at hfollows
  exact ⟨rfl, hfollows, hsigners, .nil _⟩

/-- **A client knows the table.** As long as no import or deletion fails as a whole, the ledger kept
from requests and responses is the table, whoever else sends requests without the token; every
response tells what the ledger had before it, and the signers are those of the keys in it. -/
theorem ledger_of_run (h0 : Entered srv.remote.toHttp s₀)
    (run : RunIf (step srv) (Confirmed srv) s₀ requests s es) :
    s.keymanagerData.get = ledger srv s₀.keymanagerData.get es ∧ Follows s ∧
      ∀ pre e post, es = pre ++ e :: post →
        Told srv (ledger srv s₀.keymanagerData.get pre) e.response.body := by
  have hknown : Known srv s₀.keymanagerData.get s es := by
    refine RunIf.invariant (I := Known srv s₀.keymanagerData.get) (known_entered h0) ?_ run
    intro _ _ _ _ _ hI hC hm
    exact hI.step hC hm
  exact ⟨hknown.table, hknown.follows, hknown.told⟩

theorem ledger_imported : ∃ s es,
    RunIf (step someServer) (Confirmed someServer) (.init ∅) [strangerImports, ownerImports] s es ∧
      ledger someServer (∅ : Dict String Row).get es somePubkey = some someKey.row := by
  obtain ⟨s, es, run, hs⟩ := @exec_any _ _ _ (step someServer) (Confirmed someServer) (.init ∅)
    [strangerImports, ownerImports] _
    (fun s _ => s.keymanagerData.get somePubkey = some someKey.row) (by decide +kernel)
  have htable := (@ledger_of_run someServer s (.init ∅) _ es entered_empty run).1
  exact ⟨s, es, run, (congrFun htable somePubkey).symm.trans (of_decide_eq_true hs)⟩

end Vero.KeymanagerApi
