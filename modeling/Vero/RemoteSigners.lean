import Vero.Keymanager

/-!
The signers against the table of keys.

The rows of an import or a deletion are committed one by one, before the mapping is built
anew. Where a signer cannot be built the mapping stays as it was.
-/

namespace Vero.Keymanager

open Lib Lib.Runs

variable {http : Http} {s₀ s s' : State} {a : Call} {as : List Call} {os o : List Output}
variable {mapping new signersByUrl : Dict String RemoteSigner}

/-- The keys of the table are those with a signer, each signer has the URL of its row, and
keys with one URL have one signer. -/
structure Follows (s : State) : Prop where
  keys : ∀ pubkey, pubkey ∈ s.pubkeyToRemoteSigner.keys ↔ pubkey ∈ s.keymanagerData.keys
  url : ∀ pubkey signer row, s.pubkeyToRemoteSigner.get pubkey = some signer →
    s.keymanagerData.get pubkey = some row → signer.url = row.url
  shared : ∀ pubkey pubkey' signer signer', s.pubkeyToRemoteSigner.get pubkey = some signer →
    s.pubkeyToRemoteSigner.get pubkey' = some signer' → signer.url = signer'.url →
    signer = signer'

/-- What holds of the signers in every state: each was built, one for each URL. -/
structure Signers (http : Http) (mapping : Dict String RemoteSigner) : Prop where
  opens : ∀ pubkey signer, mapping.get pubkey = some signer → Opens http signer.url
  shared : ∀ pubkey pubkey' signer signer', mapping.get pubkey = some signer →
    mapping.get pubkey' = some signer' → signer.url = signer'.url → signer = signer'

/-! ### The loop over the rows -/

/-- The signers stand under their URLs, which open. -/
def Keyed (http : Http) (signersByUrl : Dict String RemoteSigner) : Prop :=
  ∀ url signer, signersByUrl.get url = some signer → signer.url = url ∧ Opens http url

/-- Each signer of a mapping is the one that stands under its URL. -/
def Filed (signersByUrl mapping : Dict String RemoteSigner) : Prop :=
  ∀ pubkey signer, mapping.get pubkey = some signer → signersByUrl.get signer.url = some signer

lemma Signers.of_filed (hkeyed : Keyed http signersByUrl) (h : Filed signersByUrl mapping) :
    Signers http mapping := by
  refine ⟨fun pubkey signer hs => (hkeyed _ _ (h pubkey signer hs)).2, ?_⟩
  intro pubkey pubkey' signer signer' hs hs' he
  have hfirst := h pubkey signer hs
  rw [he, h pubkey' signer' hs'] at hfirst
  exact (Option.some.inj hfirst).symm

lemma Filed.set {signer : RemoteSigner} {pubkey : String} (h : Filed signersByUrl mapping)
    (hs : signersByUrl.get signer.url = some signer) :
    Filed signersByUrl (mapping.set pubkey signer) :=
  Dict.forall_set.mpr ⟨hs, fun pk σ _ hσ => h pk σ hσ⟩

/-- A signer filed under a URL that had none. -/
lemma Filed.add {signer : RemoteSigner} (h : Filed signersByUrl mapping)
    (hnone : signersByUrl.get signer.url = none) :
    Filed (signersByUrl.set signer.url signer) mapping := by
  intro pubkey σ hσ
  have hold := h pubkey σ hσ
  rw [Dict.get_set, if_neg ?_]
  · exact hold
  · intro he
    rw [he, hnone] at hold
    exact Option.some_ne_none _ hold.symm

/-- The signers that the loop starts with. -/
lemma keyed_ofList (h : Signers http mapping) :
    Keyed http (.ofList (mapping.values.map fun signer => (signer.url, signer))) := by
  intro url signer hget
  obtain ⟨σ, hσ, he⟩ := List.mem_map.mp (Dict.get_ofList hget)
  obtain ⟨rfl, rfl⟩ := Prod.mk.inj he
  obtain ⟨pubkey, hpubkey⟩ := Dict.mem_values_iff.mp hσ
  exact ⟨rfl, h.opens pubkey σ hpubkey⟩

lemma filed_ofList (h : Signers http mapping) :
    Filed (.ofList (mapping.values.map fun signer => (signer.url, signer))) mapping := by
  intro pubkey signer hs
  have hmem : (signer.url, signer) ∈ mapping.values.map fun σ => (σ.url, σ) :=
    List.mem_map.mpr ⟨signer, Dict.mem_values_iff.mpr ⟨pubkey, hs⟩, rfl⟩
  obtain ⟨σ, hσ⟩ := Dict.exists_get_ofList hmem
  obtain ⟨σ', hσ', he⟩ := List.mem_map.mp (Dict.get_ofList hσ)
  obtain ⟨hurl, rfl⟩ := Prod.mk.inj he
  obtain ⟨pubkey', hpubkey'⟩ := Dict.mem_values_iff.mp hσ'
  rw [hσ, h.shared pubkey' pubkey σ' signer hpubkey' hs hurl]

/-- Where the loop takes the signer of a row from, and the signers and their number after it. -/
inductive Taken (http : Http) (mapping signersByUrl : Dict String RemoteSigner)
    (pubkey url : String) (n : ℕ) : RemoteSigner → Dict String RemoteSigner → ℕ → Prop
  | kept {signer : RemoteSigner} (hget : mapping.get pubkey = some signer)
      (hurl : signer.url = url) : Taken http mapping signersByUrl pubkey url n signer signersByUrl n
  | shared {signer : RemoteSigner} (hby : signersByUrl.get url = some signer) :
      Taken http mapping signersByUrl pubkey url n signer signersByUrl n
  | built {signer : RemoteSigner} (hby : signersByUrl.get url = none)
      (hinit : RemoteSigner.init http n url = .ok signer) :
      Taken http mapping signersByUrl pubkey url n signer (signersByUrl.set url signer) (n + 1)

/-- A row has its signer taken, or there is none and it cannot be built. -/
lemma newMapping_cases (pubkey url : String) (rows : List (String × String)) (n : ℕ) :
    (∃ signer signersByUrl' m, Taken http mapping signersByUrl pubkey url n signer signersByUrl' m ∧
      newMapping http mapping ((pubkey, url) :: rows) signersByUrl new n =
        newMapping http mapping rows signersByUrl' (new.set pubkey signer) m) ∨
    (signersByUrl.get url = none ∧ ∃ e, RemoteSigner.init http n url = .error e ∧
      newMapping http mapping ((pubkey, url) :: rows) signersByUrl new n = (n, .error e)) := by
  rw [newMapping]
  cases hreuse : (mapping.get pubkey).filter (·.url = url) with
  | some signer =>
    obtain ⟨hget, hurl⟩ := Option.filter_eq_some_iff.mp hreuse
    exact .inl ⟨signer, signersByUrl, n, .kept hget (of_decide_eq_true hurl), rfl⟩
  | none =>
    cases hby : signersByUrl.get url with
    | some signer => exact .inl ⟨signer, signersByUrl, n, .shared hby, rfl⟩
    | none =>
      cases hinit : RemoteSigner.init http n url with
      | error e => exact .inr ⟨rfl, e, rfl, rfl⟩
      | ok signer =>
        exact .inl ⟨signer, signersByUrl.set url signer, n + 1, .built hby hinit, rfl⟩

lemma newMapping_cons (pubkey url : String) (rows : List (String × String)) (n : ℕ)
    (hkeyed : Keyed http signersByUrl) (hold : Filed signersByUrl mapping)
    (hnew : Filed signersByUrl new) :
    (¬ Opens http url ∧ ∃ m e,
      newMapping http mapping ((pubkey, url) :: rows) signersByUrl new n = (m, .error e)) ∨
    ∃ signer signersByUrl' m, Opens http url ∧ signer.url = url ∧
      newMapping http mapping ((pubkey, url) :: rows) signersByUrl new n =
        newMapping http mapping rows signersByUrl' (new.set pubkey signer) m ∧
      Keyed http signersByUrl' ∧ Filed signersByUrl' mapping ∧
      Filed signersByUrl' (new.set pubkey signer) := by
  rcases newMapping_cases pubkey url rows n with
    ⟨signer, signersByUrl', m, htaken, he⟩ | ⟨-, e, hinit, he⟩
  · refine .inr ⟨signer, signersByUrl', m, ?_⟩
    rw [he]
    cases htaken with
    | kept hget hurl =>
      obtain rfl : signer.url = url := hurl
      have hfiled := hold pubkey signer hget
      exact ⟨(hkeyed _ _ hfiled).2, rfl, rfl, hkeyed, hold, hnew.set hfiled⟩
    | shared hby =>
      obtain ⟨rfl, hopens⟩ := hkeyed url signer hby
      exact ⟨hopens, rfl, rfl, hkeyed, hold, hnew.set hby⟩
    | built hby hinit =>
      obtain ⟨hopens, -, rfl, -⟩ := RemoteSigner.init_ok_iff.mp hinit
      have hself : (signersByUrl.set signer.url signer).get signer.url = some signer := by simp
      refine ⟨hopens, rfl, rfl, ?_, hold.add hby, (hnew.add hby).set hself⟩
      exact Dict.forall_set.mpr ⟨⟨rfl, hopens⟩, fun u σ _ hσ => hkeyed u σ hσ⟩
  · refine .inl ⟨fun hopens => ?_, n, e, he⟩
    obtain ⟨signer, hok⟩ := RemoteSigner.exists_init hopens n
    rw [hinit] at hok
    cases hok

/-- The loop raises where a URL does not open, and otherwise gives each row its signer. -/
lemma newMapping_spec {rows : List (String × String)} {n : ℕ}
    (hnodup : (rows.map Prod.fst).Nodup) (hkeyed : Keyed http signersByUrl)
    (hold : Filed signersByUrl mapping) (hnew : Filed signersByUrl new) :
    ((∃ p ∈ rows, ¬ Opens http p.2) ∧
      ∃ m e, newMapping http mapping rows signersByUrl new n = (m, .error e)) ∨
    ((∀ p ∈ rows, Opens http p.2) ∧ ∃ m mapping',
      newMapping http mapping rows signersByUrl new n = (m, .ok mapping') ∧
      Signers http mapping' ∧
      (∀ p ∈ rows, ∃ signer, mapping'.get p.1 = some signer ∧ signer.url = p.2) ∧
      ∀ pubkey, pubkey ∉ rows.map Prod.fst → mapping'.get pubkey = new.get pubkey) := by
  induction rows generalizing signersByUrl new n with
  | nil =>
    exact .inr ⟨by simp, n, new, rfl, .of_filed hkeyed hnew, by simp, fun _ _ => rfl⟩
  | cons p rows ih =>
    obtain ⟨pubkey, url⟩ := p
    rw [List.map_cons, List.nodup_cons] at hnodup
    rcases newMapping_cons pubkey url rows n hkeyed hold hnew with
      ⟨hnot, m, e, he⟩ | ⟨signer, byUrl, m, hopens, rfl, he, hkeyed', hold', hnew'⟩
    · exact .inl ⟨⟨_, List.mem_cons_self, hnot⟩, m, e, he⟩
    · rw [he]
      rcases ih (n := m) hnodup.2 hkeyed' hold' hnew' with
        ⟨⟨p, hp, hnot⟩, herr⟩ | ⟨hall, m', mapping', hok, hsigners, hrows, hrest⟩
      · exact .inl ⟨⟨p, List.mem_cons_of_mem _ hp, hnot⟩, herr⟩
      · refine .inr ⟨?_, m', mapping', hok, hsigners, ?_, fun pk hpk => ?_⟩
        · exact List.forall_mem_cons.mpr ⟨hopens, hall⟩
        · refine List.forall_mem_cons.mpr ⟨⟨signer, ?_, rfl⟩, hrows⟩
          rw [hrest pubkey hnodup.1, Dict.get_set, if_pos rfl]
        · rw [List.map_cons, List.mem_cons, not_or] at hpk
          rw [hrest pk hpk.2, Dict.get_set, if_neg hpk.1]

/-! ### What the rebuilding does -/

lemma mem_rows {data : Dict String Row} {p : String × String} :
    p ∈ data.items.map (fun it => (it.1, it.2.url)) ↔
      ∃ row, data.get p.1 = some row ∧ row.url = p.2 := by
  simp only [List.mem_map]
  constructor
  · rintro ⟨⟨pubkey, row⟩, hmem, rfl⟩
    exact ⟨row, Dict.mem_items_iff.mp hmem, rfl⟩
  · rintro ⟨row, hrow, hurl⟩
    exact ⟨(p.1, row), Dict.mem_items_iff.mpr hrow, by rw [hurl]⟩

/-- Either the rebuilding goes through, and the mapping follows the table, or it raises, and
the mapping is what it was. -/
lemma updateMapping_cases (fault : Fault) (h : Signers http s.pubkeyToRemoteSigner) :
    Signers http (updatePubkeyToRemoteSignerMapping http s fault).1.pubkeyToRemoteSigner ∧
    ((fault = none ∧ (∀ pubkey row, s.keymanagerData.get pubkey = some row →
        Opens http row.url) ∧
      Follows (updatePubkeyToRemoteSignerMapping http s fault).1) ∨
    ((fault ≠ none ∨ ∃ pubkey row, s.keymanagerData.get pubkey = some row ∧
        ¬ Opens http row.url) ∧
      (updatePubkeyToRemoteSignerMapping http s fault).1.pubkeyToRemoteSigner =
        s.pubkeyToRemoteSigner)) := by
  cases fault with
  | some e => exact ⟨h, .inr ⟨.inl (by simp), rfl⟩⟩
  | none =>
    have hnodup : ((s.keymanagerData.items.map fun it => (it.1, it.2.url)).map Prod.fst).Nodup := by
      rw [List.map_map]
      exact s.keymanagerData.nodup
    have hempty : ∀ byUrl, Filed byUrl ∅ := fun byUrl pubkey signer hs => by simp at hs
    rcases newMapping_spec (n := s.signers) hnodup (keyed_ofList h) (filed_ofList h)
      (hempty _) with ⟨⟨p, hp, hnot⟩, m, e, he⟩ | ⟨hall, m, mapping, he, hsigners, hrows, hrest⟩
    · have hs' : updatePubkeyToRemoteSignerMapping http s none =
          ({ s with signers := m }, .error (.raised e)) := by
        simp only [updatePubkeyToRemoteSignerMapping, he]
      obtain ⟨row, hrow, hurl⟩ := mem_rows.mp hp
      rw [hs']
      exact ⟨h, .inr ⟨.inr ⟨p.1, row, hrow, hurl ▸ hnot⟩, rfl⟩⟩
    · have hs' : updatePubkeyToRemoteSignerMapping http s none =
          ({ s with signers := m, pubkeyToRemoteSigner := mapping }, .ok ()) := by
        simp only [updatePubkeyToRemoteSignerMapping, he]
      have hrow : ∀ pubkey row, s.keymanagerData.get pubkey = some row →
          ∃ signer, mapping.get pubkey = some signer ∧ signer.url = row.url :=
        fun pubkey row hget => hrows (pubkey, row.url) (mem_rows.mpr ⟨row, hget, rfl⟩)
      rw [hs']
      refine ⟨hsigners, .inl ⟨rfl, fun pubkey row hget => ?_, ?_, ?_, hsigners.shared⟩⟩
      · exact hall (pubkey, row.url) (mem_rows.mpr ⟨row, hget, rfl⟩)
      · intro pubkey
        constructor
        · intro hmem
          by_contra hnot
          have hout : pubkey ∉ (s.keymanagerData.items.map fun it =>
              (it.1, it.2.url)).map Prod.fst := by rwa [List.map_map]
          obtain ⟨signer, hget⟩ := Dict.mem_keys_iff.mp hmem
          rw [hrest pubkey hout] at hget
          simp at hget
        · intro hmem
          obtain ⟨row, hget⟩ := Dict.mem_keys_iff.mp hmem
          obtain ⟨signer, hsigner, -⟩ := hrow pubkey row hget
          exact Dict.mem_keys_iff.mpr ⟨signer, hsigner⟩
      · intro pubkey signer row hsigner hget
        obtain ⟨signer', hsigner', hurl⟩ := hrow pubkey row hget
        obtain rfl := Option.some.inj (hsigner.symm.trans hsigner')
        exact hurl

lemma signers_entered (h : Entered http s) : Signers http s.pubkeyToRemoteSigner := by
  obtain ⟨data, henter⟩ := h
  have hinit : Signers http (State.init data).pubkeyToRemoteSigner :=
    ⟨fun pubkey signer hs => by simp [State.init] at hs,
      fun pubkey pubkey' signer signer' hs => by simp [State.init] at hs⟩
  have hs := (updateMapping_cases none hinit).1
  rwa [henter] at hs

lemma signers_step (h : Signers http s.pubkeyToRemoteSigner)
    (hs : step http s a = some (s', o)) : Signers http s'.pubkeyToRemoteSigner := by
  rcases step_cases hs with ⟨-, -, col, pubkey, value, fault, rfl⟩ | ⟨keys, fault, -, rfl⟩ |
    ⟨pubkeys, fault, -, rfl⟩
  · rcases configure_cases s col pubkey value fault with he | ⟨row, -, he⟩
    · rwa [he]
    · rw [he, State.pubkeyToRemoteSigner_setOverrides]
      exact h
  · exact (updateMapping_cases fault
      (s := { s with keymanagerData := (importRows s.keymanagerData keys).1 }) h).1
  · exact (updateMapping_cases fault
      (s := { s with keymanagerData := (deleteRows s.keymanagerData pubkeys).1 }) h).1

lemma signers_run (h0 : Entered http s₀) (r : Run (step http) s₀ as s os) :
    Signers http s.pubkeyToRemoteSigner := by
  refine r.invariant (I := fun s _ => Signers http s.pubkeyToRemoteSigner)
    (signers_entered h0) ?_
  intro s os a s' o h _ hs
  exact signers_step h hs

/-! ### The calls that rebuild the mapping -/

/-- A call that rebuilds the mapping, and what reading the table for it raises. -/
def Call.rebuilds : Call → Option Fault
  | .importRemoteKeys _ fault => some fault
  | .deleteRemoteKeys _ fault => some fault
  | _ => none

/-- Whether the call leaves the key in the table with the URL: a row that stood there and is
not deleted, or the first insertion of a new key to go through. -/
def Leaves (s : State) : Call → String → String → Prop
  | .importRemoteKeys keys _, pubkey, url =>
    (∃ row, s.keymanagerData.get pubkey = some row ∧ row.url = url) ∨
      (s.keymanagerData.get pubkey = none ∧
        ∃ k, keys.find? (fun k => k.1.pubkey = pubkey ∧ k.2 = none) = some k ∧ k.1.url = url)
  | .deleteRemoteKeys pubkeys _, pubkey, url =>
    (pubkey, none) ∉ pubkeys ∧ ∃ row, s.keymanagerData.get pubkey = some row ∧ row.url = url
  | _, _, _ => False

/-- A signer can be built for every row the call leaves; where the table cannot be read, the
mapping is right already. -/
def Rebuilds (http : Http) (s : State) (a : Call) : Prop :=
  match a.rebuilds with
  | some none => ∀ pubkey url, Leaves s a pubkey url → Opens http url
  | some (some _) => ∀ pubkey url,
      (∃ signer, s.pubkeyToRemoteSigner.get pubkey = some signer ∧ signer.url = url) ↔
        Leaves s a pubkey url
  | none => True

lemma leaves_import (s : State) (keys : List (RemoteKey × Fault)) (fault : Fault)
    (pubkey url : String) : Leaves s (.importRemoteKeys keys fault) pubkey url ↔
      ∃ row, (importRows s.keymanagerData keys).1.get pubkey = some row ∧ row.url = url := by
  rw [get_importRows]
  simp only [Leaves]
  cases s.keymanagerData.get pubkey with
  | some row => simp
  | none =>
    cases keys.find? fun k => k.1.pubkey = pubkey ∧ k.2 = none with
    | none => simp
    | some k => simp [RemoteKey.row]

lemma leaves_delete (s : State) (pubkeys : List (String × Fault)) (fault : Fault)
    (pubkey url : String) : Leaves s (.deleteRemoteKeys pubkeys fault) pubkey url ↔
      ∃ row, (deleteRows s.keymanagerData pubkeys).1.get pubkey = some row ∧ row.url = url := by
  rw [get_deleteRows]
  simp only [Leaves]
  by_cases hmem : (pubkey, none) ∈ pubkeys <;> simp [hmem]

/-- Following a table, key by key. -/
lemma follows_iff (h : Signers http s.pubkeyToRemoteSigner) : Follows s ↔ ∀ pubkey url,
    (∃ signer, s.pubkeyToRemoteSigner.get pubkey = some signer ∧ signer.url = url) ↔
      ∃ row, s.keymanagerData.get pubkey = some row ∧ row.url = url := by
  constructor
  · intro hf pubkey url
    constructor
    · rintro ⟨signer, hsigner, rfl⟩
      obtain ⟨row, hrow⟩ := Dict.mem_keys_iff.mp
        ((hf.keys pubkey).mp (Dict.mem_keys_iff.mpr ⟨signer, hsigner⟩))
      exact ⟨row, hrow, (hf.url pubkey signer row hsigner hrow).symm⟩
    · rintro ⟨row, hrow, rfl⟩
      obtain ⟨signer, hsigner⟩ := Dict.mem_keys_iff.mp
        ((hf.keys pubkey).mpr (Dict.mem_keys_iff.mpr ⟨row, hrow⟩))
      exact ⟨signer, hsigner, hf.url pubkey signer row hsigner hrow⟩
  · intro hall
    refine ⟨fun pubkey => ?_, fun pubkey signer row hsigner hrow => ?_, h.shared⟩
    · rw [Dict.mem_keys_iff, Dict.mem_keys_iff]
      constructor
      · rintro ⟨signer, hsigner⟩
        obtain ⟨row, hrow, -⟩ := (hall pubkey signer.url).mp ⟨signer, hsigner, rfl⟩
        exact ⟨row, hrow⟩
      · rintro ⟨row, hrow⟩
        obtain ⟨signer, hsigner, -⟩ := (hall pubkey row.url).mpr ⟨row, hrow, rfl⟩
        exact ⟨signer, hsigner⟩
    · obtain ⟨row', hrow', hurl⟩ := (hall pubkey signer.url).mp ⟨signer, hsigner, rfl⟩
      obtain rfl := Option.some.inj (hrow.symm.trans hrow')
      exact hurl.symm

/-- What the rebuilding makes of a table that was changed before. -/
lemma follows_rebuild_iff {data : Dict String Row} {fault : Fault}
    (h : Signers http s.pubkeyToRemoteSigner) {left : String → String → Prop}
    (hleft : ∀ pubkey url, left pubkey url ↔
      ∃ row, data.get pubkey = some row ∧ row.url = url) :
    Follows (updatePubkeyToRemoteSignerMapping http { s with keymanagerData := data } fault).1 ↔
      match fault with
      | none => ∀ pubkey url, left pubkey url → Opens http url
      | some _ => ∀ pubkey url,
          (∃ signer, s.pubkeyToRemoteSigner.get pubkey = some signer ∧ signer.url = url) ↔
            left pubkey url := by
  obtain ⟨hsigners, hcases⟩ := updateMapping_cases fault
    (s := { s with keymanagerData := data }) h
  have hframe := (updateMapping_frame http { s with keymanagerData := data } fault).1
  simp only [hleft]
  rcases hcases with ⟨rfl, hopens, hfollows⟩ | ⟨hfails, hkept⟩
  · refine ⟨fun _ => ?_, fun _ => hfollows⟩
    rintro pubkey url ⟨row, hrow, rfl⟩
    exact hopens pubkey row hrow
  · rw [follows_iff hsigners, hkept, hframe]
    cases fault with
    | some e => exact Iff.rfl
    | none =>
      obtain ⟨pubkey, row, hrow, hnot⟩ := hfails.resolve_left (fun hne => hne rfl)
      refine ⟨fun hall => ?_, fun hopens => ?_⟩
      -- no signer was ever built for a URL that does not open
      · obtain ⟨signer, hsigner, hurl⟩ := (hall pubkey row.url).mpr ⟨row, hrow, rfl⟩
        exact absurd (hurl ▸ h.opens pubkey signer hsigner) hnot
      · exact absurd (hopens pubkey row.url ⟨row, hrow, rfl⟩) hnot

/-- **When the signers follow the table.** After an import or a deletion, from any state that
a manager reaches, the mapping follows the table exactly where a signer can be built for every
row the call leaves. -/
theorem follows_iff_rebuilds (h0 : Entered http s₀) (r : Run (step http) s₀ as s os)
    (hs : step http s a = some (s', o)) (ha : a.rebuilds ≠ none) :
    Follows s' ↔ Rebuilds http s a := by
  have hsigners := signers_run h0 r
  cases a with
  | importRemoteKeys keys fault =>
    obtain rfl := (Prod.mk.inj (Option.some.inj hs)).1
    exact (follows_rebuild_iff hsigners (leaves_import s keys fault)).trans
      (by cases fault <;> exact Iff.rfl)
  | deleteRemoteKeys pubkeys fault =>
    obtain rfl := (Prod.mk.inj (Option.some.inj hs)).1
    exact (follows_rebuild_iff hsigners (leaves_delete s pubkeys fault)).trans
      (by cases fault <;> exact Iff.rfl)
  | _ => exact absurd rfl ha

def importTwo : Call := .importRemoteKeys [(someKey, none), (sharingKey, none)] none

def importElsewhere : Call := .importRemoteKeys [(elsewhereKey, none), (someKey, none)] none

def deleteSomeKey : Call := .deleteRemoteKeys [(somePubkey, none)] none

/-- Two keys of one signer are there when a third comes, and one of them goes. -/
theorem follows_iff_rebuilds_sharedUrl : ∃ s os s₁ o₁ s₂ o₂,
    Run (step twoSigners) (.init ∅) [importTwo] s os ∧
    step twoSigners s importElsewhere = some (s₁, o₁) ∧ Follows s₁ ∧
    step twoSigners s₁ deleteSomeKey = some (s₂, o₂) ∧ Follows s₂ ∧
    s₂.keymanagerData.items =
      [(sharingKey.pubkey, sharingKey.row), (elsewhereKey.pubkey, elsewhereKey.row)] := by
  have h0 : Entered twoSigners (.init ∅) := ⟨∅, rfl⟩
  obtain ⟨s, os, s₁, o₁, r, -, hs₁, hp⟩ := @exec_next _ _ _ (step twoSigners) (fun _ _ _ => True)
    (.init ∅) [importTwo] _ importElsewhere (fun s s₁ _ =>
      s.keymanagerData.items.map (fun it => it.2.url) =
          ["http://signer:9000", "http://signer:9000"] ∧
        s₁.keymanagerData.items = [(somePubkey, someKey.row),
          (sharingKey.pubkey, sharingKey.row), (elsewhereKey.pubkey, elsewhereKey.row)] ∧
        (deleteRemoteKeys twoSigners s₁ [(somePubkey, none)] none).1.keymanagerData.items =
          [(sharingKey.pubkey, sharingKey.row), (elsewhereKey.pubkey, elsewhereKey.row)])
    (by decide +kernel)
  obtain ⟨hurls, hitems, hleft⟩ := of_decide_eq_true hp
  obtain ⟨⟨s₂, o₂⟩, hs₂⟩ : ∃ p, step twoSigners s₁ deleteSomeKey = some p := ⟨_, rfl⟩
  refine ⟨s, os, s₁, o₁, s₂, o₂, r, hs₁, ?_, hs₂, ?_, ?_⟩
  · refine (follows_iff_rebuilds h0 r hs₁ nofun).mpr ?_
    rintro pubkey url (⟨row, hrow, rfl⟩ | ⟨-, k, hk, rfl⟩)
    · refine opens_twoSigners (List.mem_cons.mpr (.inl ?_))
      have hmem := List.mem_map_of_mem (f := fun it => it.2.url) (Dict.mem_items_iff.mpr hrow)
      rw [hurls] at hmem
      simpa using hmem
    · have hmem := List.mem_of_find?_eq_some hk
      simp only [List.mem_cons, List.not_mem_nil, or_false] at hmem
      rcases hmem with rfl | rfl
      · exact opens_twoSigners (by decide)
      · exact opens_twoSigners (by decide)
  · refine (follows_iff_rebuilds h0 (r.snoc trivial hs₁) hs₂ nofun).mpr ?_
    rintro pubkey url ⟨-, row, hrow, rfl⟩
    have hmem := Dict.mem_items_iff.mpr hrow
    rw [hitems] at hmem
    simp only [List.mem_cons, List.not_mem_nil, or_false, Prod.mk.injEq] at hmem
    rcases hmem with ⟨-, rfl⟩ | ⟨-, rfl⟩ | ⟨-, rfl⟩
    · exact opens_twoSigners (by decide)
    · exact opens_twoSigners (by decide)
    · exact opens_twoSigners (by decide)
  · obtain rfl := (Prod.mk.inj (Option.some.inj hs₂)).1
    exact hleft

/-- A key with a URL that has no host. -/
def importHostless : Call := .importRemoteKeys [(⟨somePubkey, "signer:9000"⟩, none)] none

/-- The row of the key is in the table when the call raises, and the key has no signer. -/
theorem hostless_unmapped : ∃ s₀ as s os a s' o, Entered oneSigner s₀ ∧
    Run (step oneSigner) s₀ as s os ∧ a.rebuilds ≠ none ∧
    step oneSigner s a = some (s', o) ∧ somePubkey ∈ s'.keymanagerData.keys ∧
    ¬ Follows s' := by
  obtain ⟨s, os, s', o, r, -, hs, hp⟩ := @exec_next _ _ _ (step oneSigner) (fun _ _ _ => True)
    (.init ∅) [] _ importHostless (fun _ s' _ => somePubkey ∈ s'.keymanagerData.keys ∧
      somePubkey ∉ s'.pubkeyToRemoteSigner.keys) (by decide +kernel)
  obtain ⟨hkey, hnot⟩ := of_decide_eq_true hp
  exact ⟨.init ∅, [], s, os, importHostless, s', o, entered_empty, r, nofun, hs, hkey,
    fun hf => hnot ((hf.keys somePubkey).mpr hkey)⟩

end Vero.Keymanager
