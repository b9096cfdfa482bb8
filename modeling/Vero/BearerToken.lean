import Vero.KeymanagerEndpoints
import Vero.Lib.Files
import Vero.OptimisticResponses

/-!
`_get_bearer_token_value`: the token of the Keymanager API, over the lives of the process.

The first life that finds no file makes the token and writes it. A life that is killed while it
writes leaves a beginning of the token, which the lives after it go on with.
-/

namespace Vero.KeymanagerApi

open Lib Lib.Runs Lib.FileOp

/-- Python's `bytes.hex`. -/
def hex (bytes : List UInt8) : List Char :=
  bytes.flatMap fun b => [Nat.digitChar (b.toNat / 16), Nat.digitChar (b.toNat % 16)]

/-- How a text file is read: every end of a line becomes a line feed. -/
def universalNewlines : List Char → List Char
  | '\r' :: '\n' :: text => '\n' :: universalNewlines text
  | '\r' :: text => '\n' :: universalNewlines text
  | ch :: text => ch :: universalNewlines text
  | [] => []

def readToken (text : List Char) : String :=
  BeaconNode.strip (.ofList (universalNewlines text))

variable {Path : Type} [DecidableEq Path] (fp : Path) (srv : Server)

/-- The token, and what is done to the files. -/
def getBearerTokenValue (urandom : List UInt8) (files : Files Path Char) :
    String × List (FileOp Path Char) :=
  match files fp with
  | some text => (readToken text, [])
  | none => (.ofList (hex urandom), save (hex urandom) fp)

def createApp (token : String) : Server := { srv with bearerToken := token }

/-- A life of the process: the bytes the system would give it, and after how many operations on
files it is killed, if it does not get to its app. -/
structure Life where
  urandom : Vector UInt8 32
  killedAfter : Option ℕ

/-- The apps are what the lives come to. -/
def live : Machine (Files Path Char) Life Server := fun files life =>
  let (token, ops) := getBearerTokenValue fp life.urandom.toList files
  some (interrupted ops (life.killedAfter.getD ops.length) files,
    if life.killedAfter = none then [createApp srv token] else [])

/-! ### The file -/

/-- The life opens a file that is not there. -/
def Life.Opens (l : Life) : Prop := l.killedAfter ≠ some 0

instance (l : Life) : Decidable l.Opens := inferInstanceAs (Decidable (_ ≠ _))

/-- What the life writes into it. -/
def Life.written (l : Life) : List Char :=
  match l.killedAfter with
  | none => hex l.urandom.toList
  | some n => (hex l.urandom.toList).take (n - 1)

/-- What the file holds after these lives. -/
def tokenText (text : Option (List Char)) (lives : List Life) : Option (List Char) :=
  text.or ((lives.find? (·.Opens)).map Life.written)

variable {fp srv} {text : List Char} {files files' : Files Path Char} {life : Life}
variable {lives : List Life} {apps : List Server}

lemma tokenText_snoc (text : Option (List Char)) :
    tokenText text (lives ++ [life]) =
      (tokenText text lives).or (if life.Opens then some life.written else none) := by
  unfold tokenText
  rw [List.find?_append, Option.map_or, Option.or_assoc]
  by_cases h : life.Opens <;> simp [h]

/-- A file that is there is left as it is. -/
lemma live_of_some (h : files fp = some text) :
    live fp srv files life = some (files,
      if life.killedAfter = none then [createApp srv (readToken text)] else []) := by
  unfold live getBearerTokenValue
  rw [h]
  simp [interrupted]

lemma live_of_none (h : files fp = none) :
    live fp srv files life = some
      (Function.update files fp (if life.Opens then some life.written else none),
        if life.killedAfter = none then [createApp srv (.ofList life.written)] else []) := by
  have hsame : Function.update files fp none = files := by
    rw [← h, Function.update_eq_self]
  obtain ⟨urandom, killedAfter⟩ := life
  unfold live getBearerTokenValue Life.Opens Life.written
  rw [h]
  dsimp only
  cases killedAfter with
  | none =>
    rw [Option.getD_none, length_save, interrupted_save, List.take_length]
    simp
  | some n =>
    rw [Option.getD_some]
    cases n with
    | zero => simp [hsame]
    | succ n =>
      rw [interrupted_save]
      simp

/-! ### The digits -/

lemma hexDigit_digitChar {d : ℕ} (h : d < 16) :
    hexDigit (Nat.digitChar d) = some d ∧ isSpace (Nat.digitChar d) = false := by
  have hall : ∀ d < 16, hexDigit (Nat.digitChar d) = some d ∧
      isSpace (Nat.digitChar d) = false := by decide
  exact hall d h

lemma toNat_div_lt (b : UInt8) : b.toNat / 16 < 16 := by
  have hb := b.toNat_lt
  omega

lemma hexDigit_of_mem_hex {bytes : List UInt8} {ch : Char} (h : ch ∈ hex bytes) :
    hexDigit ch ≠ none := by
  obtain ⟨b, -, hb⟩ := List.mem_flatMap.mp h
  rcases List.mem_pair.mp hb with rfl | rfl
  · rw [(hexDigit_digitChar (toNat_div_lt b)).1]
    exact Option.some_ne_none _
  · rw [(hexDigit_digitChar (Nat.mod_lt _ (by decide))).1]
    exact Option.some_ne_none _

/-- The digits are read as what they were written for. -/
lemma hexBytes_hex (bytes : List UInt8) : hexBytes (hex bytes) = some bytes := by
  induction bytes with
  | nil => rfl
  | cons b bytes ih =>
    obtain ⟨hhigh, hblank⟩ := hexDigit_digitChar (toNat_div_lt b)
    have hlow := (hexDigit_digitChar (Nat.mod_lt b.toNat (by decide : 0 < 16))).1
    have hbyte : UInt8.ofNat (16 * (b.toNat / 16) + b.toNat % 16) = b := by
      rw [Nat.div_add_mod]
      simp
    change hexBytes (Nat.digitChar (b.toNat / 16) :: Nat.digitChar (b.toNat % 16) :: hex bytes) = _
    unfold hexBytes
    rw [if_neg (by simp [hblank]), hhigh, hlow, ih]
    simp only [Option.bind_some, Option.map_some, hbyte]

lemma universalNewlines_of_notMem (h : '\r' ∉ text) : universalNewlines text = text := by
  induction text using universalNewlines.induct with
  | case1 | case2 => simp at h
  | case3 ch text hpair hreturn ih =>
    rw [universalNewlines.eq_3 ch text hpair hreturn, ih (List.not_mem_of_not_mem_cons h)]
  | case4 => rfl

lemma not_isSpace_of_hexDigit {ch : Char} (h : hexDigit ch ≠ none) :
    BeaconNode.isSpace ch = false := by
  have hrange : (48 ≤ ch.toNat ∧ ch.toNat ≤ 57) ∨ (97 ≤ ch.toNat ∧ ch.toNat ≤ 102) ∨
      (65 ≤ ch.toNat ∧ ch.toNat ≤ 70) := by
    unfold hexDigit at h
    split_ifs at h with hdecimal hlower hupper
    · exact .inl hdecimal
    · exact .inr (.inl hlower)
    · exact .inr (.inr hupper)
    · exact absurd rfl h
  unfold BeaconNode.isSpace
  simp only [List.mem_cons, List.not_mem_nil, or_false, decide_eq_false_iff_not]
  omega

lemma readToken_of_digits (h : ∀ ch ∈ text, hexDigit ch ≠ none) :
    readToken text = .ofList text := by
  have hr : '\r' ∉ text := fun hmem => h _ hmem (by decide)
  have htrim : ∀ l : List Char, (∀ ch ∈ l, hexDigit ch ≠ none) →
      l.dropWhile BeaconNode.isSpace = l := by
    intro l hl
    cases l with
    | nil => rfl
    | cons ch l =>
      exact List.dropWhile_cons_of_neg (by simp [not_isSpace_of_hexDigit (hl ch (by simp))])
  unfold readToken BeaconNode.strip
  rw [universalNewlines_of_notMem hr, String.toList_ofList, htrim text h,
    htrim text.reverse (by simpa using h), List.reverse_reverse]

lemma Life.hexDigit_of_mem_written {ch : Char} (h : ch ∈ life.written) : hexDigit ch ≠ none := by
  unfold Life.written at h
  split at h
  · exact hexDigit_of_mem_hex h
  · exact hexDigit_of_mem_hex (List.mem_of_mem_take h)

lemma Life.written_prefix (life : Life) : life.written <+: hex life.urandom.toList := by
  unfold Life.written
  split
  · exact List.prefix_refl _
  · exact List.take_prefix _ _

lemma length_hex (bytes : List UInt8) : (hex bytes).length = 2 * bytes.length := by
  unfold hex
  rw [List.length_flatMap]
  simp [mul_comm]

/-- Two digits are read for each byte. -/
lemma length_of_hexBytes {bytes : List UInt8} (h : hexBytes text = some bytes)
    (hdigits : ∀ ch ∈ text, isSpace ch = false) : text.length = 2 * bytes.length := by
  fun_induction hexBytes text generalizing bytes with
  | case1 =>
    obtain rfl := Option.some.inj h
    rfl
  | case2 ch hblank | case4 ch ch' text hblank ih =>
    rw [hdigits ch List.mem_cons_self] at hblank
    cases hblank
  | case3 ch => cases h
  | case5 ch ch' text hblank ih =>
    obtain ⟨high, hhigh, h⟩ := Option.bind_eq_some_iff.mp h
    obtain ⟨low, hlow, h⟩ := Option.bind_eq_some_iff.mp h
    obtain ⟨rest, hrest, rfl⟩ := Option.map_eq_some_iff.mp h
    have hlength := ih hrest fun x hx => hdigits x (by simp [hx])
    simp only [List.length_cons, hlength]
    omega

/-- Nothing less than all the digits stands for the bytes. -/
lemma Life.hexBytes_written (life : Life) :
    hexBytes life.written = some life.urandom.toList ↔
      ∀ n, life.killedAfter = some n → 64 < n := by
  have hwhole : (hex life.urandom.toList).length = 64 := by
    rw [length_hex, Vector.length_toList]
  have hdigits : ∀ ch ∈ life.written, isSpace ch = false := by
    intro ch hch
    obtain ⟨b, -, hb⟩ := List.mem_flatMap.mp (life.written_prefix.mem hch)
    rcases List.mem_pair.mp hb with rfl | rfl
    · exact (hexDigit_digitChar (toNat_div_lt b)).2
    · exact (hexDigit_digitChar (Nat.mod_lt _ (by decide))).2
  have hall : hexBytes life.written = some life.urandom.toList ↔ life.written.length = 64 := by
    refine ⟨fun h => ?_, fun h => ?_⟩
    · rw [length_of_hexBytes h hdigits, Vector.length_toList]
    · rw [life.written_prefix.eq_of_length (h.trans hwhole.symm), hexBytes_hex]
  rw [hall]
  unfold Life.written
  cases life.killedAfter with
  | none => simpa using hwhole
  | some n =>
    dsimp only
    rw [List.length_take, hwhole]
    simp only [Option.some.injEq, forall_eq']
    omega

/-! ### Lives -/

/-- The file, and the token of the apps, after these lives. -/
structure Settled (fp : Path) (files₀ : Files Path Char) (lives : List Life)
    (files : Files Path Char) (apps : List Server) : Prop where
  files : files = Function.update files₀ fp (tokenText (files₀ fp) lives)
  apps : ∀ app ∈ apps,
    (tokenText (files₀ fp) lives).map readToken = some app.bearerToken

lemma Settled.step {files₀ : Files Path Char} {new : List Server}
    (h : Settled fp files₀ lives files apps)
    (hstep : live fp srv files life = some (files', new)) :
    Settled fp files₀ (lives ++ [life]) files' (apps ++ new) := by
  have hfile : files fp = tokenText (files₀ fp) lives := by
    rw [h.files, Function.update_self]
  cases htext : tokenText (files₀ fp) lives with
  | some text =>
    have hsnoc : tokenText (files₀ fp) (lives ++ [life]) = some text := by
      rw [tokenText_snoc, htext, Option.some_or]
    rw [live_of_some (hfile.trans htext)] at hstep
    obtain ⟨rfl, rfl⟩ := Prod.mk.inj (Option.some.inj hstep)
    refine ⟨by rw [hsnoc, ← htext, ← h.files], fun app happ => ?_⟩
    rw [hsnoc]
    rcases List.mem_append.mp happ with hold | hnew
    · rw [← htext]
      exact h.apps app hold
    · split_ifs at hnew
      · rw [List.mem_singleton.mp hnew]
        rfl
      · cases hnew
  | none =>
    have hsnoc : tokenText (files₀ fp) (lives ++ [life]) =
        if life.Opens then some life.written else none := by
      rw [tokenText_snoc, htext, Option.none_or]
    rw [live_of_none (hfile.trans htext)] at hstep
    obtain ⟨rfl, rfl⟩ := Prod.mk.inj (Option.some.inj hstep)
    refine ⟨by rw [hsnoc, h.files, Function.update_idem], fun app happ => ?_⟩
    rcases List.mem_append.mp happ with hold | hnew
    · have hnone := h.apps app hold
      rw [htext] at hnone
      cases hnone
    · split_ifs at hnew with hserved
      · have hopens : life.Opens := by
          unfold Life.Opens
          rw [hserved]
          decide
        have hread : readToken life.written = .ofList life.written :=
          readToken_of_digits fun ch hch => life.hexDigit_of_mem_written hch
        rw [hsnoc, if_pos hopens, List.mem_singleton.mp hnew, Option.map_some, hread]
        rfl
      · cases hnew

/-- **The token over the lives of the process.** All apps ask for one token, what the file says,
and no other file is touched. Where there was no file, it is what the first life to open it wrote:
the digits of its own bytes, all of them unless it was killed before. -/
theorem token_of_run {files₀ : Files Path Char}
    (r : Run (live fp srv) files₀ lives files apps) :
    files = Function.update files₀ fp (tokenText (files₀ fp) lives) ∧
      (∀ app ∈ apps, ∃ text, tokenText (files₀ fp) lives = some text ∧
        ∀ q : Request, Bears app q ↔ q.authorization = some ("Bearer " ++ readToken text)) ∧
      (files₀ fp = none → ∀ app ∈ apps, ∃ life ∈ lives,
        app.bearerToken = .ofList life.written ∧ life.written <+: hex life.urandom.toList ∧
          (hexBytes app.bearerToken.toList = some life.urandom.toList ↔
            ∀ n, life.killedAfter = some n → 64 < n)) := by
  have hsettled : Settled fp files₀ lives files apps := by
    induction r with
    | nil =>
      refine ⟨?_, fun _ happ => by cases happ⟩
      have hnone : tokenText (files₀ fp) [] = files₀ fp := by simp [tokenText]
      rw [hnone, Function.update_eq_self]
    | snoc _ _ hstep ih => exact ih.step hstep
  refine ⟨hsettled.files, fun app happ => ?_, fun hnone app happ => ?_⟩
  · obtain ⟨text, htext, hread⟩ := Option.map_eq_some_iff.mp (hsettled.apps app happ)
    refine ⟨text, htext, fun q => ?_⟩
    rw [hread]
    exact Iff.rfl
  · obtain ⟨text, htext, hread⟩ := Option.map_eq_some_iff.mp (hsettled.apps app happ)
    unfold tokenText at htext
    rw [hnone, Option.none_or] at htext
    obtain ⟨life, hlife, rfl⟩ := Option.map_eq_some_iff.mp htext
    have htoken : app.bearerToken = .ofList life.written := by
      rw [← hread]
      exact readToken_of_digits fun ch hch => life.hexDigit_of_mem_written hch
    refine ⟨life, List.mem_of_find?_eq_some hlife, htoken, life.written_prefix, ?_⟩
    rw [htoken, String.toList_ofList]
    exact life.hexBytes_written

/-- A first life that is killed with ten digits written, and a second one. -/
def killedLife : Life := ⟨.replicate 32 0xab, some 11⟩

def secondLife : Life := ⟨.replicate 32 0xcd, none⟩

theorem token_killed : ∃ files app, Run (live "token.txt" someServer) (fun _ => none)
    [killedLife, secondLife] files [app] ∧
      (∀ q : Request, Bears app q ↔ q.authorization = some "Bearer ababababab") ∧
      ∃ life ∈ [killedLife, secondLife], app.bearerToken = .ofList life.written := by
  let files₀ : Files String Char := fun _ => none
  have hkilled : live "token.txt" someServer files₀ killedLife =
      some (Function.update files₀ "token.txt" (some "ababababab".toList), []) :=
    live_of_none rfl
  have hsecond : live "token.txt" someServer
      (Function.update files₀ "token.txt" (some "ababababab".toList)) secondLife = _ :=
    live_of_some rfl
  have r := (run_step hkilled).trans (run_step hsecond)
  obtain ⟨-, happs, hfresh⟩ := token_of_run r
  refine ⟨_, _, r, fun q => ?_, ?_⟩
  · obtain ⟨text, htext, hbears⟩ := happs _ List.mem_cons_self
    obtain rfl : "ababababab".toList = text := Option.some.inj htext
    have hread : "Bearer " ++ readToken "ababababab".toList = "Bearer ababababab" := by
      decide +kernel
    rw [← hread]
    exact hbears q
  · obtain ⟨life, hlife, htoken, -⟩ := hfresh rfl _ List.mem_cons_self
    exact ⟨life, hlife, htoken⟩

end Vero.KeymanagerApi
