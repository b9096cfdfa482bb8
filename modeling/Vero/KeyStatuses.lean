import Vero.RemoteSigners

/-!
What an import or a deletion reports of each key, and what it leaves in the table.

A list may name a key more than once. Each position has its own status, which is about the table
as the positions before it have left it.
-/

namespace Vero.Keymanager

open Lib Lib.Runs

variable {http : Http} {s : State} {data : Dict String Row} {i : ℕ}
variable {remoteKey : RemoteKey} {remoteKeys : List RemoteKey}
variable {pubkey pk : String} {pubkeys : List String}

/-! ### Imports -/

/-- The key is not in the table, and no earlier entry of the list has it. -/
def FirstAbsent (data : Dict String Row) (remoteKeys : List RemoteKey) (i : ℕ)
    (remoteKey : RemoteKey) : Prop :=
  data.get remoteKey.pubkey = none ∧ ∀ k ∈ remoteKeys.take i, k.pubkey ≠ remoteKey.pubkey

instance : Decidable (FirstAbsent data remoteKeys i remoteKey) := by
  unfold FirstAbsent
  infer_instance

def importMessage (data : Dict String Row) (remoteKeys : List RemoteKey) (i : ℕ)
    (remoteKey : RemoteKey) : ImportStatusMessage :=
  ⟨if FirstAbsent data remoteKeys i remoteKey then .imported else .duplicate, ""⟩

/-- One status for each entry in order, and one row more for each imported one. -/
structure Imported (data data' : Dict String Row) (remoteKeys : List RemoteKey)
    (messages : List ImportStatusMessage) : Prop where
  length : messages.length = remoteKeys.length
  status : ∀ i remoteKey, remoteKeys[i]? = some remoteKey →
    messages[i]? = some (importMessage data remoteKeys i remoteKey)
  table : data'.items = data.items ++
    ((remoteKeys.zip messages).filter (·.2.status = .imported)).map fun p => (p.1.pubkey, p.1.row)

lemma items_set_of_get {row : Row} (h : data.get pubkey = none) :
    (data.set pubkey row).items = data.items ++ [(pubkey, row)] := by
  have hnot : pubkey ∉ data.keys := by
    intro hmem
    obtain ⟨row', hrow'⟩ := Dict.mem_keys_iff.mp hmem
    exact Option.some_ne_none _ (hrow'.symm.trans h)
  unfold Dict.set
  rw [dif_neg hnot]

lemma importRow_of_get {row : Row} (h : data.get remoteKey.pubkey = some row) :
    importRow data (remoteKey, none) = (data, ⟨.duplicate, ""⟩) := by
  simp only [importRow, h]

lemma importRow_of_get_none (h : data.get remoteKey.pubkey = none) :
    importRow data (remoteKey, none) =
      (data.set remoteKey.pubkey remoteKey.row, ⟨.imported, ""⟩) := by
  simp only [importRow, h]

/-- What is absent after the first entry was absent before, and is another key. -/
lemma get_importRow_eq_none : (importRow data (remoteKey, none)).1.get pubkey = none ↔
    data.get pubkey = none ∧ remoteKey.pubkey ≠ pubkey := by
  cases hget : data.get remoteKey.pubkey with
  | some row =>
    rw [importRow_of_get hget]
    refine ⟨fun hnone => ⟨hnone, ?_⟩, fun hnone => hnone.1⟩
    rintro rfl
    exact Option.some_ne_none row (hget.symm.trans hnone)
  | none =>
    rw [importRow_of_get_none hget, Dict.get_set]
    by_cases he : pubkey = remoteKey.pubkey
    · simp [he]
    · simp [he, Ne.symm he]

lemma firstAbsent_succ {k : RemoteKey} : FirstAbsent data (k :: remoteKeys) (i + 1) remoteKey ↔
    FirstAbsent (importRow data (k, none)).1 remoteKeys i remoteKey := by
  unfold FirstAbsent
  rw [get_importRow_eq_none, List.take_succ_cons, List.forall_mem_cons, and_assoc]

lemma imported_importRows (data : Dict String Row) (remoteKeys : List RemoteKey) :
    Imported data (importRows data (remoteKeys.map (·, none))).1 remoteKeys
      (importRows data (remoteKeys.map (·, none))).2 := by
  induction remoteKeys generalizing data with
  | nil => exact ⟨rfl, nofun, (List.append_nil _).symm⟩
  | cons k ks ih =>
    obtain ⟨hlength, hstatus, htable⟩ := ih (importRow data (k, none)).1
    have hfirst : (importRow data (k, none)).2 = importMessage data (k :: ks) 0 k ∧
        (importRow data (k, none)).1.items = data.items ++
          if (importRow data (k, none)).2.status = .imported then [(k.pubkey, k.row)] else [] := by
      cases hget : data.get k.pubkey with
      | some row => simp [importMessage, FirstAbsent, importRow_of_get hget, hget]
      | none =>
        simp [importMessage, FirstAbsent, importRow_of_get_none hget, items_set_of_get hget, hget]
    refine ⟨congrArg (· + 1) hlength, ?_, ?_⟩
    · rintro (_ | i) remoteKey hget
      · obtain rfl := Option.some.inj hget
        exact congrArg some hfirst.1
      · unfold importMessage
        simp only [firstAbsent_succ]
        exact hstatus i remoteKey hget
    · refine htable.trans ?_
      rw [hfirst.2, List.append_assoc]
      refine congrArg _ ?_
      have hzip : (k :: ks).zip (importRows data ((k :: ks).map (·, none))).2 =
          (k, (importRow data (k, none)).2) :: ks.zip
            (importRows (importRow data (k, none)).1 (ks.map (·, none))).2 := rfl
      rw [hzip, List.filter_cons]
      by_cases himported : (importRow data (k, none)).2.status = .imported <;> simp [himported]

/-! ### Deletions -/

/-- The key is in the table, and no earlier entry of the list is the same. -/
def FirstPresent (data : Dict String Row) (pubkeys : List String) (i : ℕ) (pubkey : String) :
    Prop :=
  data.get pubkey ≠ none ∧ pubkey ∉ pubkeys.take i

instance : Decidable (FirstPresent data pubkeys i pubkey) := by
  unfold FirstPresent
  infer_instance

def deleteMessage (data : Dict String Row) (pubkeys : List String) (i : ℕ) (pubkey : String) :
    DeleteStatusMessage :=
  ⟨if FirstPresent data pubkeys i pubkey then .deleted else .notFound, ""⟩

/-- One status for each entry in order, and the rows of the entries taken away. -/
structure Deleted (data data' : Dict String Row) (pubkeys : List String)
    (messages : List DeleteStatusMessage) : Prop where
  length : messages.length = pubkeys.length
  status : ∀ i pubkey, pubkeys[i]? = some pubkey →
    messages[i]? = some (deleteMessage data pubkeys i pubkey)
  table : data'.items = data.items.filter fun it => it.1 ∉ pubkeys

lemma items_deleteRow (data : Dict String Row) (pk : String) :
    (deleteRow data (pk, none)).1.items = data.items.filter fun it => it.1 ≠ pk := by
  cases hget : data.get pk with
  | some row => simp only [deleteRow, hget, Dict.filterKeys]
  | none =>
    simp only [deleteRow, hget]
    refine (List.filter_eq_self.mpr ?_).symm
    rintro ⟨pubkey, row⟩ hmem
    refine decide_eq_true ?_
    rintro rfl
    exact Option.some_ne_none row ((Dict.mem_items_iff.mp hmem).symm.trans hget)

lemma get_deleteRow_ne_none : (deleteRow data (pk, none)).1.get pubkey ≠ none ↔
    data.get pubkey ≠ none ∧ pubkey ≠ pk := by
  have hsome : ∀ d : Dict String Row, d.get pubkey ≠ none ↔ ∃ row, (pubkey, row) ∈ d.items := by
    intro d
    simp only [Dict.mem_items_iff, Option.ne_none_iff_exists']
  rw [hsome, hsome, items_deleteRow]
  simp [and_comm]

lemma firstPresent_succ : FirstPresent data (pk :: pubkeys) (i + 1) pubkey ↔
    FirstPresent (deleteRow data (pk, none)).1 pubkeys i pubkey := by
  unfold FirstPresent
  rw [get_deleteRow_ne_none, List.take_succ_cons, List.mem_cons, not_or, and_assoc]

lemma deleted_deleteRows (data : Dict String Row) (pubkeys : List String) :
    Deleted data (deleteRows data (pubkeys.map (·, none))).1 pubkeys
      (deleteRows data (pubkeys.map (·, none))).2 := by
  induction pubkeys generalizing data with
  | nil => exact ⟨rfl, nofun, by simp [deleteRows]⟩
  | cons pk pks ih =>
    obtain ⟨hlength, hstatus, htable⟩ := ih (deleteRow data (pk, none)).1
    have hfirst : (deleteRow data (pk, none)).2 = deleteMessage data (pk :: pks) 0 pk := by
      cases hget : data.get pk <;> simp [deleteMessage, FirstPresent, deleteRow, hget]
    refine ⟨congrArg (· + 1) hlength, ?_, ?_⟩
    · rintro (_ | i) pubkey hget
      · obtain rfl := Option.some.inj hget
        exact congrArg some hfirst
      · unfold deleteMessage
        simp only [firstPresent_succ]
        exact hstatus i pubkey hget
    · refine htable.trans ?_
      rw [items_deleteRow, List.filter_filter]
      refine List.filter_congr fun it _ => ?_
      simp [List.mem_cons, not_or, Bool.and_comm]

/-! ### The mapping behind them -/

variable {mapping signersByUrl : Dict String RemoteSigner}

/-- A signer kept in memory has the URL, or one can be built for it. -/
def Served (http : Http) (s : State) (url : String) : Prop :=
  (∃ pubkey signer, s.pubkeyToRemoteSigner.get pubkey = some signer ∧ signer.url = url) ∨
    Opens http url

/-- The loop over the rows goes through where each URL has a signer or opens. -/
lemma newMapping_ok_iff (http : Http) (rows : List (String × String))
    (new : Dict String RemoteSigner) (n : ℕ)
    (hmapping : ∀ pubkey signer, mapping.get pubkey = some signer →
      signer.url ∈ signersByUrl.keys) :
    (∃ m mapping', newMapping http mapping rows signersByUrl new n = (m, .ok mapping')) ↔
      ∀ p ∈ rows, p.2 ∈ signersByUrl.keys ∨ Opens http p.2 := by
  induction rows generalizing signersByUrl new n with
  | nil => exact iff_of_true ⟨n, new, rfl⟩ (by simp)
  | cons p rows ih =>
    obtain ⟨pubkey, url⟩ := p
    rw [List.forall_mem_cons]
    rcases newMapping_cases pubkey url rows n with
      ⟨signer, signersByUrl', m, htaken, he⟩ | ⟨hby, e, hinit, he⟩
    · rw [he]
      cases htaken with
      | kept hget hurl =>
        obtain rfl : signer.url = url := hurl
        exact (ih _ _ hmapping).trans (and_iff_right (.inl (hmapping pubkey signer hget))).symm
      | shared hby =>
        exact (ih _ _ hmapping).trans
          (and_iff_right (.inl (Dict.mem_keys_iff.mpr ⟨signer, hby⟩))).symm
      | built hby hinit =>
        have hopens : Opens http url := (RemoteSigner.init_ok_iff.mp hinit).1
        have hkeys : ∀ u, u ∈ (signersByUrl.set url signer).keys ↔
            u = url ∨ u ∈ signersByUrl.keys := by
          intro u
          rw [Dict.mem_keys_iff, Dict.mem_keys_iff, Dict.get_set]
          by_cases he : u = url <;> simp [he]
        refine (ih _ _ fun pk σ hσ => (hkeys _).mpr (.inr (hmapping pk σ hσ))).trans ?_
        rw [and_iff_right (.inr hopens)]
        refine forall₂_congr fun p _ => ?_
        rw [hkeys, or_assoc]
        refine ⟨?_, .inr⟩
        rintro (he | h)
        · exact .inr (he ▸ hopens)
        · exact h
    · rw [he]
      refine iff_of_false (by rintro ⟨m, mapping', hok⟩; cases hok) ?_
      rintro ⟨hfirst, -⟩
      have hnot : url ∉ signersByUrl.keys := by
        intro hmem
        obtain ⟨signer, hsigner⟩ := Dict.mem_keys_iff.mp hmem
        exact Option.some_ne_none signer (hsigner.symm.trans hby)
      obtain ⟨signer, hok⟩ := RemoteSigner.exists_init (hfirst.resolve_left hnot) n
      rw [hinit] at hok
      cases hok

lemma updateMapping_ok_iff (s : State) :
    (updatePubkeyToRemoteSignerMapping http s none).2 = .ok () ↔
      ∀ pubkey row, s.keymanagerData.get pubkey = some row → Served http s row.url := by
  have hkeys : ∀ url, url ∈ (Dict.ofList (s.pubkeyToRemoteSigner.values.map fun signer =>
      (signer.url, signer))).keys ↔
      ∃ pubkey signer, s.pubkeyToRemoteSigner.get pubkey = some signer ∧ signer.url = url := by
    intro url
    rw [Dict.mem_keys_iff]
    constructor
    · rintro ⟨signer, hget⟩
      obtain ⟨σ, hσ, he⟩ := List.mem_map.mp (Dict.get_ofList hget)
      obtain ⟨pubkey, hpubkey⟩ := Dict.mem_values_iff.mp hσ
      exact ⟨pubkey, σ, hpubkey, (Prod.mk.inj he).1⟩
    · rintro ⟨pubkey, signer, hget, rfl⟩
      exact Dict.exists_get_ofList
        (List.mem_map.mpr ⟨signer, Dict.mem_values_iff.mpr ⟨pubkey, hget⟩, rfl⟩)
  have hloop := newMapping_ok_iff http (s.keymanagerData.items.map fun it => (it.1, it.2.url)) ∅
    s.signers fun pubkey signer hget => (hkeys signer.url).mpr ⟨pubkey, signer, hget, rfl⟩
  have hcall : (updatePubkeyToRemoteSignerMapping http s none).2 = .ok () ↔
      ∃ m mapping', newMapping http s.pubkeyToRemoteSigner
        (s.keymanagerData.items.map fun it => (it.1, it.2.url))
        (.ofList (s.pubkeyToRemoteSigner.values.map fun signer => (signer.url, signer))) ∅
        s.signers = (m, .ok mapping') := by
    unfold updatePubkeyToRemoteSignerMapping
    dsimp only
    split
    · next m e he => simp [he]
    · next m mapping' he => simp [he]
  refine hcall.trans (hloop.trans ?_)
  simp only [hkeys]
  constructor
  · intro hall pubkey row hrow
    exact hall (pubkey, row.url) (mem_rows.mpr ⟨row, hrow, rfl⟩)
  · intro hall p hp
    obtain ⟨row, hrow, hurl⟩ := mem_rows.mp hp
    exact hurl ▸ hall p.1 row hrow

/-! ### Both calls -/

/-- The call returns a status for each key, and the table is what they say. -/
def ImportsReported (http : Http) (s : State) (remoteKeys : List RemoteKey) : Prop :=
  ∃ s' messages, importRemoteKeys http s (remoteKeys.map (·, none)) none = (s', .ok messages) ∧
    Imported s.keymanagerData s'.keymanagerData remoteKeys messages

def DeletesReported (http : Http) (s : State) (pubkeys : List String) : Prop :=
  ∃ s' messages, deleteRemoteKeys http s (pubkeys.map (·, none)) none = (s', .ok messages) ∧
    Deleted s.keymanagerData s'.keymanagerData pubkeys messages

/-- Statuses that fit the table are returned where every row left in it is served. -/
lemma rebuilt_iff {β : Type} {P : Dict String Row → β → Prop} {messages : β}
    (hmessages : P data messages) :
    (∃ s' ms, ((updatePubkeyToRemoteSignerMapping http { s with keymanagerData := data } none).1,
        (updatePubkeyToRemoteSignerMapping http { s with keymanagerData := data } none).2.map
          fun _ => messages) = (s', .ok ms) ∧ P s'.keymanagerData ms) ↔
      ∀ pubkey row, data.get pubkey = some row → Served http s row.url := by
  obtain ⟨hdata, -⟩ := updateMapping_frame http { s with keymanagerData := data } none
  refine Iff.trans ?_ (updateMapping_ok_iff { s with keymanagerData := data })
  constructor
  · rintro ⟨s', ms, hcall, -⟩
    obtain ⟨-, hresult⟩ := Prod.mk.inj hcall
    cases hok : (updatePubkeyToRemoteSignerMapping http { s with keymanagerData := data } none).2
      with
    | error e => rw [hok] at hresult; cases hresult
    | ok u => rfl
  · intro hok
    rw [hok]
    exact ⟨_, _, rfl, hdata ▸ hmessages⟩

lemma importsReported_iff : ImportsReported http s remoteKeys ↔ ∀ pubkey row,
    (importRows s.keymanagerData (remoteKeys.map (·, none))).1.get pubkey = some row →
      Served http s row.url := by
  unfold ImportsReported importRemoteKeys
  exact rebuilt_iff (P := fun data => Imported s.keymanagerData data remoteKeys)
    (imported_importRows s.keymanagerData remoteKeys)

lemma deletesReported_iff : DeletesReported http s pubkeys ↔ ∀ pubkey row,
    (deleteRows s.keymanagerData (pubkeys.map (·, none))).1.get pubkey = some row →
      Served http s row.url := by
  unfold DeletesReported deleteRemoteKeys
  exact rebuilt_iff (P := fun data => Deleted s.keymanagerData data pubkeys)
    (deleted_deleteRows s.keymanagerData pubkeys)

/-- **When imports and deletions report what they did.** An import of keys whose URLs open does
where every row that stood in the table is served, and a deletion does where every row is that
it leaves there. -/
theorem statuses_iff_served (http : Http) (s : State) :
    (∀ remoteKeys, (∀ k ∈ remoteKeys, Opens http k.url) →
      (ImportsReported http s remoteKeys ↔
        ∀ pubkey row, s.keymanagerData.get pubkey = some row → Served http s row.url)) ∧
    ∀ pubkeys, DeletesReported http s pubkeys ↔ ∀ pubkey row,
      s.keymanagerData.get pubkey = some row → pubkey ∉ pubkeys → Served http s row.url := by
  constructor
  · intro remoteKeys hopens
    refine importsReported_iff.trans (forall_congr' fun pubkey => ?_)
    rw [get_importRows]
    cases hold : s.keymanagerData.get pubkey with
    | some row => exact Iff.rfl
    | none =>
      refine iff_of_true (fun row hrow => .inr ?_) nofun
      -- a row that is new has the URL of a key in the list
      rw [Option.none_or] at hrow
      obtain ⟨k, hk, rfl⟩ := Option.map_eq_some_iff.mp hrow
      obtain ⟨remoteKey, hmem, rfl⟩ := List.mem_map.mp (List.mem_of_find?_eq_some hk)
      exact hopens remoteKey hmem
  · intro pubkeys
    refine deletesReported_iff.trans (forall_congr' fun pubkey => ?_)
    rw [get_deleteRows]
    by_cases hin : pubkey ∈ pubkeys <;> simp [hin]

theorem statuses_iff_served_someKey : ImportsReported oneSigner (.init ∅) [someKey, someKey] := by
  have hopens : ∀ k ∈ [someKey, someKey], Opens oneSigner k.url := by
    intro k hk
    obtain rfl : k = someKey := by simpa using hk
    exact ⟨"signer", rfl, by decide, rfl⟩
  refine ((statuses_iff_served oneSigner (.init ∅)).1 [someKey, someKey] hopens).mpr ?_
  intro pubkey row hrow
  simp [State.init] at hrow

/-! ### A row that is left over -/

def hostlessKey : RemoteKey := ⟨somePubkey, "signer:9000"⟩

def otherKey : RemoteKey := ⟨"0x" ++ String.ofList (List.replicate 96 'b'), "http://signer:9000"⟩

/-- The manager after a key without a host was imported. -/
def leftOver : State := (importRemoteKeys oneSigner (.init ∅) [(hostlessKey, none)] none).1

lemma not_served_leftOver : ∃ row,
    leftOver.keymanagerData.get somePubkey = some row ∧ ¬ Served oneSigner leftOver row.url := by
  have hrow : leftOver.keymanagerData.get somePubkey = some hostlessKey.row := by
    decide +kernel
  have hmapping : leftOver.pubkeyToRemoteSigner.items = [] := by decide +kernel
  refine ⟨hostlessKey.row, hrow, ?_⟩
  rintro (⟨pubkey, signer, hsigner, -⟩ | ⟨host, hhost, -, -⟩)
  · rw [← Dict.mem_items_iff, hmapping] at hsigner
    cases hsigner
  · exact absurd hhost (by simp [oneSigner, hostlessKey, RemoteKey.row])

/-- **A row that was left over makes the next import raise.** -/
theorem leftOver_unreported : Entered oneSigner (.init ∅) ∧
    (∃ os, Run (step oneSigner) (.init ∅) [.importRemoteKeys [(hostlessKey, none)] none]
      leftOver os) ∧
    Opens oneSigner otherKey.url ∧ ¬ ImportsReported oneSigner leftOver [otherKey] ∧
    ¬ DeletesReported oneSigner leftOver [otherKey.pubkey] := by
  obtain ⟨row, hrow, hnot⟩ := not_served_leftOver
  have hother : somePubkey ≠ otherKey.pubkey := by decide +kernel
  have hrun : ∃ os, Run (step oneSigner) (.init ∅)
      [.importRemoteKeys [(hostlessKey, none)] none] leftOver os := ⟨_, run_step rfl⟩
  refine ⟨entered_empty, hrun, ⟨"signer", rfl, by decide, rfl⟩, fun himports => ?_,
    fun hdeletes => ?_⟩
  · refine hnot (importsReported_iff.mp himports somePubkey row ?_)
    rw [get_importRows, hrow, Option.some_or]
  · refine hnot (deletesReported_iff.mp hdeletes somePubkey row ?_)
    rw [get_deleteRows, if_neg (by simpa using hother), hrow]

end Vero.Keymanager
