import Vero.Lib.Dict
import Vero.Lib.Runs

/-!
`Keymanager`: the table of remote keys, with the overrides and the signers kept in memory
beside it.

No operation here waits for another task, so each is one step. A statement may raise in the
database; it then changes nothing there.
-/

namespace Vero.Keymanager

open Lib Lib.Runs

/-- The host name of a URL, and opening a session with it as the base URL; the text is that
of an exception. -/
structure Http where
  hostname : String → Except String (Option String)
  clientSession : String → Except String Unit

/-- What a statement raises in the database, nothing where it goes through. -/
abbrev Fault := Option String

inductive Exception
  | pubkeyNotFound (pubkey : String)
  | raised (text : String)
  deriving DecidableEq

/-! ### Signers -/

/-- Two signers are one object where their numbers agree. -/
structure RemoteSigner where
  id : ℕ
  url : String
  host : String
  deriving DecidableEq

variable (http : Http)

def RemoteSigner.init (id : ℕ) (url : String) : Except String RemoteSigner :=
  match http.hostname url with
  | .error e => .error e
  | .ok hostname =>
    let host := hostname.getD ""
    if host = "" then .error s!"Failed to parse hostname from {url}"
    else (http.clientSession url).map fun _ => ⟨id, url, host⟩

/-- A signer can be built for the URL. -/
def Opens (url : String) : Prop :=
  ∃ host, http.hostname url = .ok (some host) ∧ host ≠ "" ∧ http.clientSession url = .ok ()

variable {http}

lemma RemoteSigner.init_ok_iff {id : ℕ} {url : String} {signer : RemoteSigner} :
    RemoteSigner.init http id url = .ok signer ↔
      Opens http url ∧ signer.id = id ∧ signer.url = url ∧
        http.hostname url = .ok (some signer.host) := by
  unfold init Opens
  cases hname : http.hostname url with
  | error e => simp
  | ok hostname =>
    cases hostname with
    | none => simp
    | some host =>
      by_cases hempty : host = ""
      · simp [hempty]
      · cases hsession : http.clientSession url with
        | error e => simp [hempty, Except.map]
        | ok =>
          simp only [Option.getD_some, hempty, if_false, Except.map, Except.ok.injEq,
            Option.some.injEq, ne_eq]
          constructor
          · rintro rfl
            exact ⟨⟨host, rfl, hempty, trivial⟩, rfl, rfl, rfl⟩
          · rintro ⟨-, rfl, rfl, rfl⟩
            rfl

lemma RemoteSigner.exists_init {url : String} (h : Opens http url) (id : ℕ) :
    ∃ signer, RemoteSigner.init http id url = .ok signer := by
  have ⟨host, hhost, _, _⟩ := h
  exact ⟨⟨id, url, host⟩, RemoteSigner.init_ok_iff.mpr ⟨h, rfl, rfl, hhost⟩⟩

/-! ### The table and the overrides -/

inductive Column
  | feeRecipient
  | gasLimit
  | graffiti
  deriving DecidableEq

structure Row where
  url : String
  feeRecipient : Option String
  gasLimit : Option String
  graffiti : Option String
  deriving DecidableEq

def Row.get (row : Row) : Column → Option String
  | .feeRecipient => row.feeRecipient
  | .gasLimit => row.gasLimit
  | .graffiti => row.graffiti

def Row.set (row : Row) (value : Option String) : Column → Row
  | .feeRecipient => { row with feeRecipient := value }
  | .gasLimit => { row with gasLimit := value }
  | .graffiti => { row with graffiti := value }

@[simp] lemma Row.get_set (row : Row) (value : Option String) (col col' : Column) :
    (row.set value col).get col' = if col' = col then value else row.get col' := by
  cases col <;> cases col' <;> rfl

/-- What one of the loaders reads from the table. -/
def loadOverride (data : Dict String Row) (col : Column) : Dict String String :=
  .ofList (data.items.filterMap fun it => (it.2.get col).map (it.1, ·))

def loadFeeRecipientOverride (data : Dict String Row) : Dict String String :=
  loadOverride data .feeRecipient

def loadGasLimitOverride (data : Dict String Row) : Dict String String :=
  loadOverride data .gasLimit

def loadGraffitiOverride (data : Dict String Row) : Dict String String :=
  loadOverride data .graffiti

@[simp] lemma get_loadOverride (data : Dict String Row) (col : Column) (pubkey : String) :
    (loadOverride data col).get pubkey = (data.get pubkey).bind fun row => row.get col :=
  Dict.get_ofList_filterMap data (fun row => row.get col) pubkey

/-- `signers` counts the signers built so far. -/
structure State where
  keymanagerData : Dict String Row
  pubkeyToRemoteSigner : Dict String RemoteSigner
  pubkeyToFeeRecipientOverride : Dict String String
  pubkeyToGasLimitOverride : Dict String String
  pubkeyToGraffitiOverride : Dict String String
  signers : ℕ

namespace State

def overrides (s : State) : Column → Dict String String
  | .feeRecipient => s.pubkeyToFeeRecipientOverride
  | .gasLimit => s.pubkeyToGasLimitOverride
  | .graffiti => s.pubkeyToGraffitiOverride

def setOverrides (s : State) (d : Dict String String) : Column → State
  | .feeRecipient => { s with pubkeyToFeeRecipientOverride := d }
  | .gasLimit => { s with pubkeyToGasLimitOverride := d }
  | .graffiti => { s with pubkeyToGraffitiOverride := d }

@[simp] lemma overrides_setOverrides (s : State) (d : Dict String String) (col col' : Column) :
    (s.setOverrides d col).overrides col' = if col' = col then d else s.overrides col' := by
  cases col <;> cases col' <;> rfl

@[simp] lemma overrides_withData (s : State) (data : Dict String Row) (col : Column) :
    { s with keymanagerData := data }.overrides col = s.overrides col := by
  cases col <;> rfl

@[simp] lemma keymanagerData_setOverrides (s : State) (d : Dict String String) (col : Column) :
    (s.setOverrides d col).keymanagerData = s.keymanagerData := by
  cases col <;> rfl

@[simp] lemma pubkeyToRemoteSigner_setOverrides (s : State) (d : Dict String String)
    (col : Column) : (s.setOverrides d col).pubkeyToRemoteSigner = s.pubkeyToRemoteSigner := by
  cases col <;> rfl

end State

/-! ### The overrides of one key -/

/-- The `UPDATE` of one column of one row, with its row count. -/
def update (data : Dict String Row) (col : Column) (value : Option String) (pubkey : String) :
    Dict String Row × ℕ :=
  match data.get pubkey with
  | none => (data, 0)
  | some row => (data.set pubkey (row.set value col), 1)

/-- Setting the override of a key, or deleting it where `value` is none. -/
def configure (s : State) (col : Column) (pubkey : String) (value : Option String)
    (fault : Fault) : State × Except Exception Unit :=
  match fault with
  | some e => (s, .error (.raised e))
  | none =>
    let (keymanagerData, rowcount) := update s.keymanagerData col value pubkey
    let s := { s with keymanagerData }
    if rowcount = 0 then (s, .error (.pubkeyNotFound pubkey))
    else
      let d := match value with
        | some v => (s.overrides col).set pubkey v
        | none => (s.overrides col).filterKeys (· ≠ pubkey)
      (s.setOverrides d col, .ok ())

def setFeeRecipient (s : State) (pubkey feeRecipient : String) : Fault →
    State × Except Exception Unit :=
  configure s .feeRecipient pubkey (some feeRecipient)

def deleteConfiguredFeeRecipient (s : State) (pubkey : String) : Fault →
    State × Except Exception Unit :=
  configure s .feeRecipient pubkey none

def setGasLimit (s : State) (pubkey gasLimit : String) : Fault →
    State × Except Exception Unit :=
  configure s .gasLimit pubkey (some gasLimit)

def deleteConfiguredGasLimit (s : State) (pubkey : String) : Fault →
    State × Except Exception Unit :=
  configure s .gasLimit pubkey none

def setGraffiti (s : State) (pubkey graffiti : String) : Fault →
    State × Except Exception Unit :=
  configure s .graffiti pubkey (some graffiti)

def deleteConfiguredGraffitiValue (s : State) (pubkey : String) : Fault →
    State × Except Exception Unit :=
  configure s .graffiti pubkey none

/-! ### The signers of the keys -/

/-- The loop over the rows. `signers` numbers the next signer to be built. -/
def newMapping (http : Http) (mapping : Dict String RemoteSigner) :
    List (String × String) → Dict String RemoteSigner → Dict String RemoteSigner → ℕ →
      ℕ × Except String (Dict String RemoteSigner)
  | [], _, new, signers => (signers, .ok new)
  | (pubkey, url) :: rows, signersByUrl, new, signers =>
    match (mapping.get pubkey).filter (·.url = url) with
    | some signer => newMapping http mapping rows signersByUrl (new.set pubkey signer) signers
    | none =>
      match signersByUrl.get url with
      | some signer => newMapping http mapping rows signersByUrl (new.set pubkey signer) signers
      | none =>
        match RemoteSigner.init http signers url with
        | .error e => (signers, .error e)
        | .ok signer =>
          newMapping http mapping rows (signersByUrl.set url signer) (new.set pubkey signer)
            (signers + 1)

/-- The mapping is overwritten only once the loop is through. -/
def updatePubkeyToRemoteSignerMapping (http : Http) (s : State) (fault : Fault) :
    State × Except Exception Unit :=
  match fault with
  | some e => (s, .error (.raised e))
  | none =>
    let rows := s.keymanagerData.items.map fun it => (it.1, it.2.url)
    let signersByUrl := .ofList (s.pubkeyToRemoteSigner.values.map fun signer =>
      (signer.url, signer))
    match newMapping http s.pubkeyToRemoteSigner rows signersByUrl ∅ s.signers with
    | (signers, .error e) => ({ s with signers }, .error (.raised e))
    | (signers, .ok mapping) => ({ s with signers, pubkeyToRemoteSigner := mapping }, .ok ())

/-! ### Importing and deleting keys -/

structure RemoteKey where
  pubkey : String
  url : String
  deriving DecidableEq

inductive ImportStatus
  | imported
  | duplicate
  | error
  deriving DecidableEq

structure ImportStatusMessage where
  status : ImportStatus
  message : String
  deriving DecidableEq

inductive DeleteStatus
  | deleted
  | notFound
  | error
  deriving DecidableEq

structure DeleteStatusMessage where
  status : DeleteStatus
  message : String
  deriving DecidableEq

/-- The row inserted for a key. -/
def RemoteKey.row (remoteKey : RemoteKey) : Row := ⟨remoteKey.url, none, none, none⟩

def importRow (data : Dict String Row) : RemoteKey × Fault → Dict String Row × ImportStatusMessage
  | (_, some e) => (data, ⟨.error, e⟩)
  | (remoteKey, none) =>
    match data.get remoteKey.pubkey with
    | some _ => (data, ⟨.duplicate, ""⟩)
    | none => (data.set remoteKey.pubkey remoteKey.row, ⟨.imported, ""⟩)

/-- One insertion after the other, each committed. -/
def importRows : Dict String Row → List (RemoteKey × Fault) →
    Dict String Row × List ImportStatusMessage
  | data, [] => (data, [])
  | data, k :: ks =>
    let (data, message) := importRow data k
    let (data, messages) := importRows data ks
    (data, message :: messages)

def importRemoteKeys (http : Http) (s : State) (remoteKeys : List (RemoteKey × Fault))
    (fault : Fault) : State × Except Exception (List ImportStatusMessage) :=
  let (keymanagerData, messages) := importRows s.keymanagerData remoteKeys
  let (s, result) := updatePubkeyToRemoteSignerMapping http { s with keymanagerData } fault
  (s, result.map fun _ => messages)

def deleteRow (data : Dict String Row) : String × Fault → Dict String Row × DeleteStatusMessage
  | (_, some e) => (data, ⟨.error, e⟩)
  | (pubkey, none) =>
    match data.get pubkey with
    | none => (data, ⟨.notFound, ""⟩)
    | some _ => (data.filterKeys (· ≠ pubkey), ⟨.deleted, ""⟩)

def deleteRows : Dict String Row → List (String × Fault) →
    Dict String Row × List DeleteStatusMessage
  | data, [] => (data, [])
  | data, k :: ks =>
    let (data, message) := deleteRow data k
    let (data, messages) := deleteRows data ks
    (data, message :: messages)

def deleteRemoteKeys (http : Http) (s : State) (pubkeys : List (String × Fault))
    (fault : Fault) : State × Except Exception (List DeleteStatusMessage) :=
  let (keymanagerData, messages) := deleteRows s.keymanagerData pubkeys
  let (s, result) := updatePubkeyToRemoteSignerMapping http { s with keymanagerData } fault
  (s, result.map fun _ => messages)

/-! ### The calls of the API -/

/-- A call, with what each statement it executes raises in the database. -/
inductive Call
  | importRemoteKeys (remoteKeys : List (RemoteKey × Fault)) (fault : Fault)
  | deleteRemoteKeys (pubkeys : List (String × Fault)) (fault : Fault)
  | setFeeRecipient (pubkey feeRecipient : String) (fault : Fault)
  | deleteConfiguredFeeRecipient (pubkey : String) (fault : Fault)
  | setGasLimit (pubkey gasLimit : String) (fault : Fault)
  | deleteConfiguredGasLimit (pubkey : String) (fault : Fault)
  | setGraffiti (pubkey graffiti : String) (fault : Fault)
  | deleteConfiguredGraffitiValue (pubkey : String) (fault : Fault)

inductive Output
  | imported (result : Except Exception (List ImportStatusMessage))
  | deleted (result : Except Exception (List DeleteStatusMessage))
  | configured (result : Except Exception Unit)

def configured (p : State × Except Exception Unit) : Option (State × List Output) :=
  some (p.1, [.configured p.2])

def step (http : Http) : Machine State Call Output
  | s, .importRemoteKeys remoteKeys fault =>
    let (s, result) := importRemoteKeys http s remoteKeys fault
    some (s, [.imported result])
  | s, .deleteRemoteKeys pubkeys fault =>
    let (s, result) := deleteRemoteKeys http s pubkeys fault
    some (s, [.deleted result])
  | s, .setFeeRecipient pubkey feeRecipient fault =>
    configured (setFeeRecipient s pubkey feeRecipient fault)
  | s, .deleteConfiguredFeeRecipient pubkey fault =>
    configured (deleteConfiguredFeeRecipient s pubkey fault)
  | s, .setGasLimit pubkey gasLimit fault => configured (setGasLimit s pubkey gasLimit fault)
  | s, .deleteConfiguredGasLimit pubkey fault =>
    configured (deleteConfiguredGasLimit s pubkey fault)
  | s, .setGraffiti pubkey graffiti fault => configured (setGraffiti s pubkey graffiti fault)
  | s, .deleteConfiguredGraffitiValue pubkey fault =>
    configured (deleteConfiguredGraffitiValue s pubkey fault)

/-- An enabled manager, as it is constructed over a table. -/
def State.init (keymanagerData : Dict String Row) : State where
  keymanagerData
  pubkeyToRemoteSigner := ∅
  pubkeyToFeeRecipientOverride := loadFeeRecipientOverride keymanagerData
  pubkeyToGasLimitOverride := loadGasLimitOverride keymanagerData
  pubkeyToGraffitiOverride := loadGraffitiOverride keymanagerData
  signers := 0

/-- The manager was entered over some table. -/
def Entered (http : Http) (s : State) : Prop :=
  ∃ keymanagerData, updatePubkeyToRemoteSignerMapping http (.init keymanagerData) none = (s, .ok ())

/-! ### What a call does to the table -/

variable {s s' : State} {data : Dict String Row} {col : Column} {pubkey : String}
variable {value : Option String} {fault : Fault}

/-- The row that an import leaves at a key: the one that stood there, or that of the first
insertion to go through. -/
lemma get_importRows (data : Dict String Row) (remoteKeys : List (RemoteKey × Fault))
    (pubkey : String) :
    (importRows data remoteKeys).1.get pubkey = (data.get pubkey).or
      ((remoteKeys.find? fun k => k.1.pubkey = pubkey ∧ k.2 = none).map fun k => k.1.row) := by
  induction remoteKeys generalizing data with
  | nil => simp [importRows]
  | cons k ks ih =>
    obtain ⟨remoteKey, fault⟩ := k
    have hrest : (importRows data ((remoteKey, fault) :: ks)).1.get pubkey =
        (importRows (importRow data (remoteKey, fault)).1 ks).1.get pubkey := rfl
    rw [hrest, ih]
    cases fault with
    | some e => simp [importRow]
    | none =>
      cases hget : data.get remoteKey.pubkey with
      | some row =>
        by_cases h : remoteKey.pubkey = pubkey
        · subst h
          simp [importRow, hget]
        · simp [importRow, hget, h]
      | none =>
        by_cases h : remoteKey.pubkey = pubkey
        · subst h
          simp [importRow, hget]
        · simp [importRow, hget, h, Ne.symm h]

/-- A deletion takes the rows of the keys whose statement goes through. -/
lemma get_deleteRows (data : Dict String Row) (pubkeys : List (String × Fault))
    (pubkey : String) :
    (deleteRows data pubkeys).1.get pubkey =
      if (pubkey, none) ∈ pubkeys then none else data.get pubkey := by
  induction pubkeys generalizing data with
  | nil => simp [deleteRows]
  | cons k ks ih =>
    obtain ⟨pk, fault⟩ := k
    have hrest : (deleteRows data ((pk, fault) :: ks)).1.get pubkey =
        (deleteRows (deleteRow data (pk, fault)).1 ks).1.get pubkey := rfl
    rw [hrest, ih]
    cases fault with
    | some e => simp [deleteRow]
    | none =>
      by_cases hmem : (pubkey, none) ∈ ks
      · simp [hmem]
      · cases hget : data.get pk with
        | none =>
          by_cases h : pubkey = pk
          · subst h
            simp [deleteRow, hget]
          · simp [deleteRow, hget, h]
        | some row =>
          by_cases h : pubkey = pk <;> simp [deleteRow, hget, hmem, h]

/-- The overrides and the table are not what the signers are about. -/
lemma updateMapping_frame (http : Http) (s : State) (fault : Fault) :
    (updatePubkeyToRemoteSignerMapping http s fault).1.keymanagerData = s.keymanagerData ∧
    ∀ col, (updatePubkeyToRemoteSignerMapping http s fault).1.overrides col =
      s.overrides col := by
  unfold updatePubkeyToRemoteSignerMapping
  cases fault with
  | some e => exact ⟨rfl, fun col => rfl⟩
  | none =>
    dsimp only
    split
    · exact ⟨rfl, fun col => by cases col <;> rfl⟩
    · exact ⟨rfl, fun col => by cases col <;> rfl⟩

/-- A column of one row is set together with the override of the key, or nothing is. -/
lemma configure_cases (s : State) (col : Column) (pubkey : String) (value : Option String)
    (fault : Fault) :
    (configure s col pubkey value fault).1 = s ∨
      ∃ row, s.keymanagerData.get pubkey = some row ∧
        (configure s col pubkey value fault).1 =
          { s with keymanagerData := s.keymanagerData.set pubkey (row.set value col) }.setOverrides
            (match value with
              | some v => (s.overrides col).set pubkey v
              | none => (s.overrides col).filterKeys (· ≠ pubkey)) col := by
  cases fault with
  | some e => exact .inl rfl
  | none =>
    cases hrow : s.keymanagerData.get pubkey with
    | none => exact .inl (by simp [configure, update, hrow])
    | some row =>
      refine .inr ⟨row, rfl, ?_⟩
      cases value <;> cases col <;> simp [configure, update, hrow, State.overrides]

/-- A call edits the row of one key, or imports keys, or deletes keys. -/
lemma step_cases {a : Call} {o : List Output} (h : step http s a = some (s', o)) :
    ((∀ keys f, a ≠ .importRemoteKeys keys f) ∧ (∀ keys f, a ≠ .deleteRemoteKeys keys f) ∧
        ∃ col pubkey value fault, s' = (configure s col pubkey value fault).1) ∨
      (∃ keys fault, a = .importRemoteKeys keys fault ∧
        s' = (importRemoteKeys http s keys fault).1) ∨
      ∃ keys fault, a = .deleteRemoteKeys keys fault ∧
        s' = (deleteRemoteKeys http s keys fault).1 := by
  cases a with
  | importRemoteKeys keys fault =>
    exact .inr (.inl ⟨keys, fault, rfl, (Prod.mk.inj (Option.some.inj h)).1.symm⟩)
  | deleteRemoteKeys keys fault =>
    exact .inr (.inr ⟨keys, fault, rfl, (Prod.mk.inj (Option.some.inj h)).1.symm⟩)
  | _ =>
    exact .inl ⟨by simp, by simp, _, _, _, _, (Prod.mk.inj (Option.some.inj h)).1.symm⟩

/-! ### Signers to run against -/

/-- The libraries on the URL of one signer, and on texts without a host. -/
def oneSigner : Http where
  hostname url := .ok (if url = "http://signer:9000" then some "signer" else none)
  clientSession _ := .ok ()

def somePubkey : String := "0x" ++ String.ofList (List.replicate 96 'a')

def someKey : RemoteKey := ⟨somePubkey, "http://signer:9000"⟩

lemma entered_empty : Entered oneSigner (.init ∅) := ⟨∅, rfl⟩

/-- The libraries on the URLs of two signers. -/
def twoSigners : Http where
  hostname url := .ok (if url = "http://signer:9000" then some "signer"
    else if url = "http://other:9000" then some "other" else none)
  clientSession _ := .ok ()

lemma opens_twoSigners {url : String} (h : url ∈ ["http://signer:9000", "http://other:9000"]) :
    Opens twoSigners url := by
  rcases List.mem_cons.mp h with rfl | h
  · exact ⟨"signer", rfl, by decide, rfl⟩
  · obtain rfl := List.mem_singleton.mp h
    exact ⟨"other", rfl, by decide, rfl⟩

/-- A key of the signer that has `someKey`. -/
def sharingKey : RemoteKey := ⟨"0x" ++ String.ofList (List.replicate 96 'b'), "http://signer:9000"⟩

def elsewhereKey : RemoteKey := ⟨"0x" ++ String.ofList (List.replicate 96 'c'), "http://other:9000"⟩

end Vero.Keymanager
