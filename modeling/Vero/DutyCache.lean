import Vero.AttestationService
import Vero.BlockProposalService
import Vero.Lib.Files
import Vero.SchemaKeymanagerAPI

/-!
`DutyCache`: the files that keep the duties over a restart, and saves that are interrupted.

The duties and their dependent roots are written to two files, one after the other. A save that
is interrupted between them leaves new duties beside old roots.
-/

namespace Vero.DutyCache

open Lib Lib.FileOp SchemaBeaconAPI

/-- `^0x[a-fA-F0-9]{64}$` -/
def dutyDependentRoot : Regex := (SchemaKeymanagerAPI.hexadecimal 64).whole

abbrev Roots := Dict ℤ Root

inductive Error
  | fileNotFoundError (fp : String)
  | decodeError (message : String)
  | validationError (root : Root)

/-- `msgspec.json` at one type. -/
structure Codec (α : Type) where
  encode : α → List UInt8
  decode : List UInt8 → Except String α

/-- What is encoded is decoded again, and no beginning of it is. -/
structure Codec.Inverts {α : Type} (c : Codec α) (x : α) : Prop where
  decode_encode : c.decode (c.encode x) = .ok x
  truncated : ∀ bytes, bytes <+: c.encode x → bytes ≠ c.encode x → ∃ e, c.decode bytes = .error e

lemma Codec.Inverts.error_of_lt {α : Type} {c : Codec α} {x : α} (h : c.Inverts x) {n : ℕ}
    (hn : n < (c.encode x).length) : ∃ e, c.decode ((c.encode x).take n) = .error e := by
  refine h.truncated _ (List.take_prefix n _) fun hwhole => ?_
  have hlen := congrArg List.length hwhole
  rw [List.length_take] at hlen
  omega

/-! ### The two files of one kind of duties -/

/-- The codec of the roots is that of texts, whose pattern is checked after it. -/
structure DutyFiles (D : Type) where
  duties : Codec D
  dependentRoots : Codec Roots
  dutiesFname : String
  depRootsFname : String
  distinct : dutiesFname ≠ depRootsFname

def loadBytesFromFp (files : Files String UInt8) (fp : String) : Except Error (List UInt8) :=
  match files fp with
  | some bytes => .ok bytes
  | none => .error (.fileNotFoundError fp)

def decodeDependentRoots (c : Codec Roots) (bytes : List UInt8) : Except Error Roots := do
  let roots ← (c.decode bytes).mapError .decodeError
  match roots.values.find? fun root => !dutyDependentRoot.search root.toList with
  | some root => throw (.validationError root)
  | none => return roots

namespace DutyFiles

variable {D : Type} (f : DutyFiles D)

def load (files : Files String UInt8) : Except Error (D × Roots) := do
  let duties ← (f.duties.decode (← loadBytesFromFp files f.dutiesFname)).mapError .decodeError
  let dependentRoots ←
    decodeDependentRoots f.dependentRoots (← loadBytesFromFp files f.depRootsFname)
  return (duties, dependentRoots)

def cache (pair : D × Roots) : List (FileOp String UInt8) :=
  save (f.duties.encode pair.1) f.dutiesFname ++
    save (f.dependentRoots.encode pair.2) f.depRootsFname

end DutyFiles

structure Codecs where
  attesterDuties : Codec (Dict ℤ AttestationService.Duties)
  proposerDuties : Codec (Dict ℤ BlockProposalService.Duties)
  dependentRoots : Codec Roots

inductive Kind
  | attester
  | proposer

def Kind.Duties : Kind → Type
  | attester => Dict ℤ AttestationService.Duties
  | proposer => Dict ℤ BlockProposalService.Duties

def Kind.files (c : Codecs) : (kind : Kind) → DutyFiles kind.Duties
  | attester => ⟨c.attesterDuties, c.dependentRoots, "cache_attester_duties.json",
      "cache_attester_dependent_roots.json", by decide⟩
  | proposer => ⟨c.proposerDuties, c.dependentRoots, "cache_proposer_duties.json",
      "cache_proposer_dependent_roots.json", by decide⟩

def loadAttesterDuties (c : Codecs) (files : Files String UInt8) :
    Except Error (Dict ℤ AttestationService.Duties × Roots) :=
  (Kind.attester.files c).load files

def cacheAttesterDuties (c : Codecs) (duties : Dict ℤ AttestationService.Duties)
    (dependentRoots : Roots) : List (FileOp String UInt8) :=
  (Kind.attester.files c).cache (duties, dependentRoots)

def loadProposerDuties (c : Codecs) (files : Files String UInt8) :
    Except Error (Dict ℤ BlockProposalService.Duties × Roots) :=
  (Kind.proposer.files c).load files

def cacheProposerDuties (c : Codecs) (duties : Dict ℤ BlockProposalService.Duties)
    (dependentRoots : Roots) : List (FileOp String UInt8) :=
  (Kind.proposer.files c).cache (duties, dependentRoots)

/-! ### What is left of the two files -/

variable {D : Type} {f : DutyFiles D} {pair : D × Roots} {files : Files String UInt8} {n : ℕ}

/-- The operations after which the duties are written and the roots are not begun. -/
def DutyFiles.between (f : DutyFiles D) (pair : D × Roots) : ℕ :=
  (f.duties.encode pair.1).length + 1

lemma interrupted_cache_dutiesFname :
    interrupted (f.cache pair) (n + 1) files f.dutiesFname =
      some ((f.duties.encode pair.1).take n) := by
  unfold DutyFiles.cache
  rw [interrupted_append, interrupted_save_of_ne f.distinct, interrupted_save,
    Function.update_self]

lemma interrupted_cache_depRootsFname (h : n ≤ f.between pair) :
    interrupted (f.cache pair) n files f.depRootsFname = files f.depRootsFname := by
  unfold DutyFiles.cache
  have hnone : n - (save (f.duties.encode pair.1) f.dutiesFname).length = 0 := by
    rw [length_save]
    exact Nat.sub_eq_zero_of_le h
  rw [interrupted_append, hnone, interrupted_zero, interrupted_save_of_ne f.distinct.symm]

lemma interrupted_cache_depRootsFname_add :
    interrupted (f.cache pair) (f.between pair + (n + 1)) files f.depRootsFname =
      some ((f.dependentRoots.encode pair.2).take n) := by
  unfold DutyFiles.cache
  rw [interrupted_append, length_save]
  have hrest : f.between pair + (n + 1) - ((f.duties.encode pair.1).length + 1) = n + 1 := by
    unfold DutyFiles.between
    omega
  rw [hrest, interrupted_save, Function.update_self]

/-! ### What is loaded -/

lemma loadBytesFromFp_eq_ok {fp : String} {bytes : List UInt8} :
    loadBytesFromFp files fp = .ok bytes ↔ files fp = some bytes := by
  unfold loadBytesFromFp
  cases files fp <;> simp

lemma mapError_eq_ok {α ε ε' : Type} {r : Except ε α} {g : ε → ε'} {x : α} :
    r.mapError g = .ok x ↔ r = .ok x := by
  cases r <;> simp [Except.mapError]

lemma bind_eq_ok {α β ε : Type} {r : Except ε α} {g : α → Except ε β} {y : β} :
    (r >>= g) = .ok y ↔ ∃ x, r = .ok x ∧ g x = .ok y := by
  cases r <;> simp [bind, Except.bind]

lemma decodeDependentRoots_eq_ok {c : Codec Roots} {bytes : List UInt8} {roots : Roots} :
    decodeDependentRoots c bytes = .ok roots ↔ c.decode bytes = .ok roots ∧
      ∀ root ∈ roots.values, dutyDependentRoot.search root.toList = true := by
  unfold decodeDependentRoots
  rw [bind_eq_ok]
  constructor
  · rintro ⟨roots', hdecode, hcheck⟩
    cases hfind : roots'.values.find? fun root => !dutyDependentRoot.search root.toList with
    | some root => simp [hfind, throw, throwThe, MonadExceptOf.throw] at hcheck
    | none =>
      rw [hfind] at hcheck
      obtain rfl := Except.ok.inj hcheck
      refine ⟨mapError_eq_ok.mp hdecode, fun root hroot => ?_⟩
      simpa using List.find?_eq_none.mp hfind root hroot
  · rintro ⟨hdecode, hall⟩
    refine ⟨roots, mapError_eq_ok.mpr hdecode, ?_⟩
    have hnone : roots.values.find? (fun root => !dutyDependentRoot.search root.toList) = none :=
      List.find?_eq_none.mpr fun root hroot => by simp [hall root hroot]
    rw [hnone]
    rfl

lemma load_eq_ok {loaded : D × Roots} : f.load files = .ok loaded ↔
    (∃ bytes, files f.dutiesFname = some bytes ∧ f.duties.decode bytes = .ok loaded.1) ∧
      ∃ bytes, files f.depRootsFname = some bytes ∧
        decodeDependentRoots f.dependentRoots bytes = .ok loaded.2 := by
  unfold DutyFiles.load
  simp only [bind_eq_ok, mapError_eq_ok, loadBytesFromFp_eq_ok]
  constructor
  · rintro ⟨bytes, hfile, duties, hduties, bytes', hfile', roots, hroots, hloaded⟩
    obtain rfl := Except.ok.inj hloaded
    exact ⟨⟨bytes, hfile, hduties⟩, bytes', hfile', hroots⟩
  · rintro ⟨⟨bytes, hfile, hduties⟩, bytes', hfile', hroots⟩
    exact ⟨bytes, hfile, loaded.1, hduties, bytes', hfile', loaded.2, hroots, rfl⟩

/-- A file of duties that is cut short is not loaded. -/
lemma not_load_of_lt (hinv : f.duties.Inverts pair.1)
    (hn : n < (f.duties.encode pair.1).length) {loaded : D × Roots} :
    f.load (interrupted (f.cache pair) (n + 1) files) ≠ .ok loaded := by
  intro h
  obtain ⟨⟨bytes, hfile, hdecode⟩, -⟩ := load_eq_ok.mp h
  rw [interrupted_cache_dutiesFname] at hfile
  obtain rfl := Option.some.inj hfile
  obtain ⟨e, he⟩ := hinv.error_of_lt hn
  rw [he] at hdecode
  cases hdecode

/-- The duties that are written whole are loaded. -/
lemma duties_whole (hinv : f.duties.Inverts pair.1) (h : f.between pair ≤ n) {duties : D} :
    (∃ bytes, interrupted (f.cache pair) n files f.dutiesFname = some bytes ∧
      f.duties.decode bytes = .ok duties) ↔ duties = pair.1 := by
  obtain ⟨k, rfl⟩ : ∃ k, n = k + 1 := ⟨n - 1, by unfold DutyFiles.between at h; omega⟩
  have hlen : (f.duties.encode pair.1).length ≤ k := Nat.succ_le_succ_iff.mp h
  rw [interrupted_cache_dutiesFname, List.take_of_length_le hlen]
  constructor
  · rintro ⟨bytes, hbytes, hdecode⟩
    obtain rfl := Option.some.inj hbytes
    exact (Except.ok.inj (hinv.decode_encode.symm.trans hdecode)).symm
  · rintro rfl
    exact ⟨_, rfl, hinv.decode_encode⟩

/-- Between the two files, the new duties are loaded with the roots that are there. -/
lemma load_between (hinv : f.duties.Inverts pair.1) {loaded : D × Roots} :
    f.load (interrupted (f.cache pair) (f.between pair) files) = .ok loaded ↔
      loaded.1 = pair.1 ∧ ∃ bytes, files f.depRootsFname = some bytes ∧
        decodeDependentRoots f.dependentRoots bytes = .ok loaded.2 := by
  rw [load_eq_ok, interrupted_cache_depRootsFname (le_refl _), duties_whole hinv (le_refl _)]

/-- Once the roots are begun, nothing but the new pair is loaded. -/
lemma load_after_between (hduties : f.duties.Inverts pair.1)
    (hroots : f.dependentRoots.Inverts pair.2) {loaded : D × Roots} :
    f.load (interrupted (f.cache pair) (f.between pair + (n + 1)) files) = .ok loaded ↔
      loaded = pair ∧ (f.dependentRoots.encode pair.2).length ≤ n ∧
        ∀ root ∈ pair.2.values, dutyDependentRoot.search root.toList = true := by
  rw [load_eq_ok, interrupted_cache_depRootsFname_add, duties_whole hduties (Nat.le_add_right _ _)]
  simp only [decodeDependentRoots_eq_ok]
  constructor
  · rintro ⟨hone, bytes, hbytes, hdecode, hall⟩
    obtain rfl := Option.some.inj hbytes
    have hlen : (f.dependentRoots.encode pair.2).length ≤ n := by
      by_contra hlt
      obtain ⟨e, he⟩ := hroots.error_of_lt (Nat.lt_of_not_le hlt)
      rw [he] at hdecode
      cases hdecode
    rw [List.take_of_length_le hlen, hroots.decode_encode] at hdecode
    have htwo : pair.2 = loaded.2 := Except.ok.inj hdecode
    refine ⟨Prod.ext hone htwo.symm, hlen, ?_⟩
    rw [htwo]
    exact hall
  · rintro ⟨rfl, hlen, hall⟩
    exact ⟨rfl, _, rfl, by rw [List.take_of_length_le hlen, hroots.decode_encode], hall⟩

/-! ### Main result -/

/-- What is loaded was passed to one save. -/
def Unmixed (f : DutyFiles D) (saved : Set (D × Roots)) (files : Files String UInt8) : Prop :=
  ∀ loaded, f.load files = .ok loaded → loaded ∈ saved

/-- A save that stops after `n` operations, upon files that earlier saves may have written. -/
structure Kept (f : DutyFiles D) (earlier : Set (D × Roots)) (files : Files String UInt8)
    (pair : D × Roots) (n : ℕ) : Prop where
  unmixed : Unmixed f (insert pair earlier) (interrupted (f.cache pair) n files)
  loaded : (∀ root ∈ pair.2.values, dutyDependentRoot.search root.toList = true) →
    (f.cache pair).length ≤ n → f.load (interrupted (f.cache pair) n files) = .ok pair

lemma length_cache : (f.cache pair).length =
    f.between pair + ((f.dependentRoots.encode pair.2).length + 1) := by
  unfold DutyFiles.cache DutyFiles.between
  rw [List.length_append, length_save, length_save]

/-- By the place where the save stops: before it, in the duties, between the files, in the roots
or behind them. -/
lemma unmixed_interrupted_iff {saved : Set (D × Roots)} (hpair : pair ∈ saved)
    (hduties : f.duties.Inverts pair.1) (hroots : f.dependentRoots.Inverts pair.2) :
    Unmixed f saved (interrupted (f.cache pair) n files) ↔
      (n = 0 → Unmixed f saved files) ∧
      (n = f.between pair → ∀ bytes roots, files f.depRootsFname = some bytes →
        decodeDependentRoots f.dependentRoots bytes = .ok roots → (pair.1, roots) ∈ saved) := by
  have hpos : 0 < f.between pair := Nat.succ_pos _
  rcases Nat.eq_zero_or_pos n with rfl | hn
  · rw [interrupted_zero]
    exact ⟨fun h => ⟨fun _ => h, fun hbetween => by omega⟩, fun h => h.1 rfl⟩
  obtain ⟨k, rfl⟩ : ∃ k, n = k + 1 := ⟨n - 1, by omega⟩
  rcases Nat.lt_trichotomy (k + 1) (f.between pair) with hlt | heq | hgt
  · have hk : k < (f.duties.encode pair.1).length := Nat.succ_lt_succ_iff.mp hlt
    refine iff_of_true (fun loaded h => absurd h (not_load_of_lt hduties hk)) ⟨?_, ?_⟩
    · intro hzero
      omega
    · intro hbetween
      omega
  · rw [heq]
    constructor
    · refine fun h => ⟨fun hzero => by omega, fun _ bytes roots hbytes hdecode => ?_⟩
      exact h (pair.1, roots) ((load_between hduties).mpr ⟨rfl, bytes, hbytes, hdecode⟩)
    · rintro ⟨-, h⟩ ⟨duties, roots⟩ hload
      obtain ⟨hsame, bytes, hbytes, hdecode⟩ := (load_between hduties).mp hload
      obtain rfl : duties = pair.1 := hsame
      exact h rfl bytes roots hbytes hdecode
  · obtain ⟨j, hj⟩ : ∃ j, k + 1 = f.between pair + (j + 1) := ⟨k - f.between pair, by omega⟩
    rw [hj]
    refine iff_of_true (fun loaded h => ?_) ⟨?_, ?_⟩
    · obtain ⟨rfl, -⟩ := (load_after_between hduties hroots).mp h
      exact hpair
    · intro hzero
      omega
    · intro hbetween
      omega

lemma load_cached (hduties : f.duties.Inverts pair.1) (hroots : f.dependentRoots.Inverts pair.2)
    (hmatch : ∀ root ∈ pair.2.values, dutyDependentRoot.search root.toList = true)
    (hn : (f.cache pair).length ≤ n) :
    f.load (interrupted (f.cache pair) n files) = .ok pair := by
  rw [length_cache] at hn
  obtain ⟨j, hj⟩ : ∃ j, n = f.between pair + (j + 1) := ⟨n - f.between pair - 1, by omega⟩
  rw [hj]
  exact (load_after_between hduties hroots).mpr ⟨rfl, by omega, hmatch⟩

/-- **When two saves are not mixed.** A save that is not interrupted is loaded back, and what is
loaded after one that is was passed to one save, unless nothing was written and this did not hold
before, or only the duties were and the roots beside them are of no save of these duties. -/
theorem kept_iff (c : Codecs) (kind : Kind) (earlier : Set (kind.Duties × Roots))
    (files : Files String UInt8) (pair : kind.Duties × Roots) (n : ℕ)
    (hduties : (kind.files c).duties.Inverts pair.1)
    (hroots : (kind.files c).dependentRoots.Inverts pair.2) :
    Kept (kind.files c) earlier files pair n ↔
      (n = 0 → Unmixed (kind.files c) (insert pair earlier) files) ∧
      (n = (kind.files c).between pair → ∀ bytes roots,
        files (kind.files c).depRootsFname = some bytes →
          decodeDependentRoots (kind.files c).dependentRoots bytes = .ok roots →
            (pair.1, roots) ∈ insert pair earlier) := by
  rw [← unmixed_interrupted_iff (Set.mem_insert pair earlier) hduties hroots]
  exact ⟨fun h => h.unmixed, fun h => ⟨h, fun hmatch hn => load_cached hduties hroots hmatch hn⟩⟩

/-! ### Runs -/

/-- Saves one after the other, each of which stops somewhere. -/
def run (f : DutyFiles D) (saves : List ((D × Roots) × ℕ)) (files : Files String UInt8) :
    Files String UInt8 :=
  saves.foldl (fun files s => interrupted (f.cache s.1) s.2 files) files

/-- Where no save stops between its two files, none are mixed. -/
theorem unmixed_run {saved : Set (D × Roots)} {saves : List ((D × Roots) × ℕ)}
    (hinv : ∀ s ∈ saves, f.duties.Inverts s.1.1 ∧ f.dependentRoots.Inverts s.1.2)
    (hstop : ∀ s ∈ saves, s.2 ≠ f.between s.1) (hsaved : ∀ s ∈ saves, s.1 ∈ saved)
    (h : Unmixed f saved files) : Unmixed f saved (run f saves files) := by
  induction saves generalizing files with
  | nil => exact h
  | cons s saves ih =>
    obtain ⟨hduties, hroots⟩ := hinv s (by simp)
    refine ih (fun t ht => hinv t (by simp [ht])) (fun t ht => hstop t (by simp [ht]))
      (fun t ht => hsaved t (by simp [ht])) ?_
    refine (unmixed_interrupted_iff (hsaved s (by simp)) hduties hroots).mpr ⟨fun _ => h, ?_⟩
    intro hbetween
    exact absurd hbetween (hstop s (by simp))

/-! ### New duties beside old roots -/

def ascii (s : String) : List UInt8 := s.toList.map fun ch => UInt8.ofNat ch.toNat

/-- A codec of two values. -/
def twoValues {α : Type} (x y : α) (isFirst : α → Bool) (s t : String) : Codec α where
  encode z := ascii (if isFirst z then s else t)
  decode bytes :=
    if bytes = ascii s then .ok x else if bytes = ascii t then .ok y
    else .error "Input data was truncated"

lemma inverts_twoValues {α : Type} {x y z : α} {isFirst : α → Bool} {s t : String}
    (hlen : (ascii s).length = (ascii t).length) (hne : ascii t ≠ ascii s)
    (hz : z = if isFirst z then x else y) : (twoValues x y isFirst s t).Inverts z where
  decode_encode := by
    simp only [twoValues]
    cases hfirst : isFirst z with
    | true =>
      rw [hfirst, if_pos rfl] at hz
      rw [if_pos rfl, if_pos rfl, hz]
    | false =>
      rw [hfirst, if_neg Bool.false_ne_true] at hz
      rw [if_neg Bool.false_ne_true, if_neg hne, if_pos rfl, hz]
  truncated := by
    intro bytes hbegin hlt
    have hsame : ((twoValues x y isFirst s t).encode z).length = (ascii s).length := by
      simp only [twoValues]
      cases isFirst z with
      | true => rfl
      | false => exact hlen.symm
    have hshort : bytes.length < (ascii s).length := by
      rw [← hsame]
      exact lt_of_le_of_ne hbegin.length_le fun he => hlt (hbegin.eq_of_length he)
    have hs : bytes ≠ ascii s := by
      rintro rfl
      exact absurd hshort (lt_irrefl _)
    have ht : bytes ≠ ascii t := by
      rintro rfl
      exact absurd hlen hshort.ne'
    simp only [twoValues]
    exact ⟨_, by rw [if_neg hs, if_neg ht]⟩

def rootOf (ch : Char) : Root := "0x" ++ String.ofList (List.replicate 64 ch)

/-- What is kept of one epoch. -/
def ofEpoch {ν : Type} (epoch : ℤ) (v : ν) : Dict ℤ ν := ⟨[(epoch, v)], by simp⟩

def oldSave : Kind.attester.Duties × Roots := (ofEpoch 1 (∅ : Finset _), ofEpoch 1 (rootOf 'a'))
def newSave : Kind.attester.Duties × Roots := (ofEpoch 2 (∅ : Finset _), ofEpoch 2 (rootOf 'b'))

def twoEpochs : Codecs where
  attesterDuties := twoValues oldSave.1 newSave.1 (fun d => d.keys = [1])
    "\x7b\"1\":[]\x7d" "\x7b\"2\":[]\x7d"
  proposerDuties := twoValues (ofEpoch 1 []) (ofEpoch 2 []) (fun d => d.keys = [1])
    "\x7b\"1\":[]\x7d" "\x7b\"2\":[]\x7d"
  dependentRoots := twoValues oldSave.2 newSave.2 (fun d => d.keys = [1])
    ("\x7b\"1\":\"" ++ rootOf 'a' ++ "\"\x7d") ("\x7b\"2\":\"" ++ rootOf 'b' ++ "\"\x7d")

abbrev attesterFiles : DutyFiles Kind.attester.Duties := Kind.attester.files twoEpochs

/-- The files that the first save leaves. -/
def oldFiles : Files String UInt8 :=
  interrupted (attesterFiles.cache oldSave) (attesterFiles.cache oldSave).length fun _ => none

lemma inverts_duties : attesterFiles.duties.Inverts newSave.1 :=
  inverts_twoValues (by decide +kernel) (by decide +kernel) (if_neg (by decide)).symm

lemma inverts_roots {roots : Roots} (h : roots = oldSave.2 ∨ roots = newSave.2) :
    attesterFiles.dependentRoots.Inverts roots := by
  refine inverts_twoValues (by decide +kernel) (by decide +kernel) ?_
  obtain rfl | rfl := h
  · exact (if_pos (by decide)).symm
  · exact (if_neg (by decide)).symm

/-- A save that is interrupted in its first file is not loaded. -/
theorem kept_in_duties : Kept (Kind.attester.files twoEpochs) {oldSave} oldFiles newSave 3 :=
  (kept_iff twoEpochs .attester {oldSave} oldFiles newSave 3 inverts_duties
    (inverts_roots (.inr rfl))).mpr
    ⟨fun h => absurd h (by decide), fun h => absurd h (by decide +kernel)⟩

lemma search_rootOf {ch : Char} (h : SchemaKeymanagerAPI.isHexDigit ch = true) :
    dutyDependentRoot.search (rootOf ch).toList = true := by
  have htext : (rootOf ch).toList = '0' :: 'x' :: List.replicate 64 ch := by simp [rootOf]
  refine SchemaKeymanagerAPI.search_hexadecimal_iff.mpr (.inl ⟨?_, ?_, fun c hc => ?_⟩)
  · rw [htext]
    rfl
  · rw [← String.length_toList, htext]
    rfl
  · rw [htext] at hc
    obtain rfl : c = ch := List.eq_of_mem_replicate hc
    exact h

/-- A save that is interrupted between its files leaves the new duties beside the old roots. -/
theorem saves_mixed :
    attesterFiles.load (interrupted (attesterFiles.cache newSave) (attesterFiles.between newSave)
      oldFiles) = .ok (newSave.1, oldSave.2) ∧
    ¬ Kept attesterFiles {oldSave} oldFiles newSave (attesterFiles.between newSave) := by
  have hfile : oldFiles attesterFiles.depRootsFname =
      some (attesterFiles.dependentRoots.encode oldSave.2) := by
    unfold oldFiles
    rw [length_cache, interrupted_cache_depRootsFname_add, List.take_of_length_le (le_refl _)]
  have hroots : decodeDependentRoots attesterFiles.dependentRoots
      (attesterFiles.dependentRoots.encode oldSave.2) = .ok oldSave.2 := by
    refine decodeDependentRoots_eq_ok.mpr ⟨(inverts_roots (.inl rfl)).decode_encode, ?_⟩
    intro root hroot
    obtain rfl : root = rootOf 'a' := List.mem_singleton.mp hroot
    exact search_rootOf (by decide)
  have hload : attesterFiles.load (interrupted (attesterFiles.cache newSave)
      (attesterFiles.between newSave) oldFiles) = .ok (newSave.1, oldSave.2) :=
    (load_between inverts_duties).mpr ⟨rfl, _, hfile, hroots⟩
  have hkeys : newSave.1.keys ≠ oldSave.1.keys ∧ oldSave.2.keys ≠ newSave.2.keys := by decide
  refine ⟨hload, fun h => ?_⟩
  rcases h.unmixed _ hload with hnew | hold
  · exact hkeys.2 (congrArg Dict.keys (Prod.ext_iff.mp hnew).2)
  · exact hkeys.1 (congrArg Dict.keys (Prod.ext_iff.mp hold).1)

end Vero.DutyCache
