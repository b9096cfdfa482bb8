import Mathlib.Computability.Language

/-!
Regular expressions over characters, with anchors, and the search for a match in a text.

A search need not begin at the start of the text. `$` stands at the end, and before a line
break that ends the text. Between two anchors, what is found is the whole text, or all of it
but such a line break.
-/

namespace Vero.Lib

inductive Regex
  | char (p : Char → Bool)
  | seq (r r' : Regex)
  | alt (r r' : Regex)
  | rep (r : Regex) (least most : ℕ)
  | bos
  | eos

namespace Regex

/-- A place in a text: whether it is the beginning, and the characters that follow. -/
abbrev Place := Bool × List Char

/-- Between `least` and `most` times. -/
def repeated (f : Place → List Place) : ℕ → ℕ → Place → List Place
  | least, 0, x => if least = 0 then [x] else []
  | least, most + 1, x =>
    (f x).flatMap (repeated f (least - 1) most) ++ if least = 0 then [x] else []

/-- The places at which a match may end. -/
def ends : Regex → Place → List Place
  | char p, (_, c :: t) => if p c then [(false, t)] else []
  | char _, (_, []) => []
  | seq r r', x => (ends r x).flatMap (ends r')
  | alt r r', x => ends r x ++ ends r' x
  | rep r least most, x => repeated (ends r) least most x
  | bos, (b, t) => if b then [(b, t)] else []
  | eos, (b, t) => if t = [] ∨ t = ['\n'] then [(b, t)] else []

/-- Whether there is a match anywhere in the text. -/
def search (r : Regex) (text : List Char) : Bool :=
  ends r (true, text) ≠ [] || text.tails.tail.any fun t => ends r (false, t) ≠ []

def literal (c : Char) : Regex := char (· = c)

/-! ### Languages -/

/-- What an expression without anchors matches. -/
def language : Regex → Language Char
  | char p => {w | ∃ c, p c = true ∧ w = [c]}
  | seq r r' => language r * language r'
  | alt r r' => language r + language r'
  | rep r least most => {w | ∃ k, least ≤ k ∧ k ≤ most ∧ w ∈ language r ^ k}
  | bos | eos => 0

def Plain : Regex → Prop
  | char _ => True
  | seq r r' | alt r r' => Plain r ∧ Plain r'
  | rep r _ _ => Plain r
  | bos | eos => False

variable {r r' : Regex} {b b' : Bool} {s t : List Char}

/-- Taking a word of a language off a text leads from one place to the other. -/
def Takes (l : Language Char) (x y : Place) : Prop :=
  ∃ w ∈ l, x.2 = w ++ y.2 ∧ y.1 = (x.1 && w.isEmpty)

lemma isEmpty_append (u v : List Char) : (u ++ v).isEmpty = (u.isEmpty && v.isEmpty) := by
  cases u <;> rfl

lemma takes_mul {l l' : Language Char} {x z : Place} :
    Takes (l * l') x z ↔ ∃ y, Takes l x y ∧ Takes l' y z := by
  constructor
  · rintro ⟨w, hw, hs, hb⟩
    obtain ⟨u, hu, v, hv, rfl⟩ := Language.mem_mul.mp hw
    refine ⟨(x.1 && u.isEmpty, v ++ z.2), ⟨u, hu, ?_, rfl⟩, ⟨v, hv, rfl, ?_⟩⟩
    · rw [hs, List.append_assoc]
    · rw [hb, isEmpty_append, Bool.and_assoc]
  · rintro ⟨y, ⟨u, hu, hs, hb⟩, ⟨v, hv, hs', hb'⟩⟩
    refine ⟨u ++ v, Language.append_mem_mul hu hv, ?_, ?_⟩
    · rw [hs, hs', List.append_assoc]
    · rw [hb', hb, isEmpty_append, Bool.and_assoc]

lemma takes_one {x y : Place} : Takes 1 x y ↔ x = y := by
  constructor
  · rintro ⟨w, hw, hs, hb⟩
    obtain rfl := (Language.mem_one w).mp hw
    exact Prod.ext (by simpa using hb.symm) hs
  · rintro rfl
    exact ⟨[], Language.nil_mem_one, rfl, by simp⟩

lemma mem_repeated {f : Place → List Place} {l : Language Char} (least most : ℕ) {x z : Place}
    (hf : ∀ x y, y ∈ f x ↔ Takes l x y) : z ∈ repeated f least most x ↔
      ∃ k, least ≤ k ∧ k ≤ most ∧ Takes (l ^ k) x z := by
  induction most generalizing least x with
  | zero =>
    have hstay : z ∈ repeated f least 0 x ↔ least = 0 ∧ x = z := by
      unfold repeated
      split_ifs with h
      · simp [h, eq_comm]
      · simp [h]
    rw [hstay]
    constructor
    · rintro ⟨rfl, rfl⟩
      exact ⟨0, le_rfl, le_rfl, by rw [pow_zero, takes_one]⟩
    · rintro ⟨k, hleast, hk, h⟩
      obtain rfl : k = 0 := by omega
      rw [pow_zero, takes_one] at h
      exact ⟨by omega, h⟩
  | succ most ih =>
    have hstep : z ∈ repeated f least (most + 1) x ↔
        (∃ y ∈ f x, z ∈ repeated f (least - 1) most y) ∨ (least = 0 ∧ x = z) := by
      simp only [repeated, List.mem_append, List.mem_flatMap]
      refine or_congr Iff.rfl ?_
      split_ifs with h
      · simp [h, eq_comm]
      · simp [h]
    rw [hstep]
    constructor
    · rintro (⟨y, hy, hz⟩ | ⟨rfl, rfl⟩)
      · obtain ⟨k, hleast, hmost, hk⟩ := (ih (least - 1)).mp hz
        refine ⟨k + 1, by omega, by omega, ?_⟩
        rw [pow_succ', takes_mul]
        exact ⟨y, (hf x y).mp hy, hk⟩
      · exact ⟨0, le_rfl, by omega, by rw [pow_zero, takes_one]⟩
    · rintro ⟨k, hleast, hmost, h⟩
      cases k with
      | zero =>
        rw [pow_zero, takes_one] at h
        exact .inr ⟨by omega, h⟩
      | succ k =>
        rw [pow_succ', takes_mul] at h
        obtain ⟨y, hy, hk⟩ := h
        exact .inl ⟨y, (hf x y).mpr hy, (ih (least - 1)).mpr ⟨k, by omega, by omega, hk⟩⟩

/-- **Matching takes the words of the language.** -/
lemma mem_ends (h : r.Plain) {x y : Place} : y ∈ r.ends x ↔ Takes r.language x y := by
  induction r generalizing x y with
  | char p =>
    obtain ⟨b, s⟩ := x
    cases s with
    | nil =>
      refine iff_of_false (by simp [ends]) ?_
      rintro ⟨w, ⟨c, -, rfl⟩, hs, -⟩
      simp at hs
    | cons c t =>
      constructor
      · intro hy
        simp only [ends] at hy
        split_ifs at hy with hp
        · obtain rfl := List.mem_singleton.mp hy
          exact ⟨[c], ⟨c, hp, rfl⟩, rfl, by simp⟩
        · simp at hy
      · rintro ⟨w, ⟨c', hp, rfl⟩, hs, hb⟩
        obtain ⟨rfl, rfl⟩ := List.cons.inj hs
        have hy : y = (false, y.2) := Prod.ext (by simpa using hb) rfl
        simp only [ends, if_pos hp]
        exact List.mem_singleton.mpr hy
  | seq r r' ih ih' =>
    simp only [ends, language, List.mem_flatMap, takes_mul]
    exact exists_congr fun z => and_congr (ih h.1) (ih' h.2)
  | alt r r' ih ih' =>
    simp only [ends, language, List.mem_append, ih h.1, ih' h.2]
    constructor
    · rintro (⟨w, hw, hs⟩ | ⟨w, hw, hs⟩)
      · exact ⟨w, .inl hw, hs⟩
      · exact ⟨w, .inr hw, hs⟩
    · rintro ⟨w, hw | hw, hs⟩
      · exact .inl ⟨w, hw, hs⟩
      · exact .inr ⟨w, hw, hs⟩
  | rep r least most ih =>
    simp only [ends]
    rw [mem_repeated least most fun x y => ih h]
    constructor
    · rintro ⟨k, hleast, hmost, w, hw, hs⟩
      exact ⟨w, ⟨k, hleast, hmost, hw⟩, hs⟩
    · rintro ⟨w, ⟨k, hleast, hmost, hw⟩, hs⟩
      exact ⟨k, hleast, hmost, w, hw, hs⟩
  | bos => cases h
  | eos => cases h

/-! ### Whole texts -/

/-- From the beginning of a text to its end. -/
def whole (r : Regex) : Regex := seq bos (seq r eos)

/-- **What is searched for between the anchors.** -/
theorem search_whole (h : r.Plain) {text : List Char} : r.whole.search text = true ↔
    text ∈ r.language ∨ ∃ w ∈ r.language, text = w ++ ['\n'] := by
  have hlater : ∀ t, ends r.whole (false, t) = [] := fun t => by simp [whole, ends]
  have hfirst : ends r.whole (true, text) ≠ [] ↔
      ∃ y ∈ r.ends (true, text), y.2 = [] ∨ y.2 = ['\n'] := by
    simp only [whole, ends, if_true, List.flatMap_cons, List.flatMap_nil, List.append_nil, ne_eq,
      List.flatMap_eq_nil_iff, not_forall]
    refine exists_congr fun y => ?_
    by_cases hy : y.2 = [] ∨ y.2 = ['\n'] <;> simp [hy]
  have hsearch : r.whole.search text = true ↔ ends r.whole (true, text) ≠ [] := by
    simp [search, hlater]
  rw [hsearch, hfirst]
  constructor
  · rintro ⟨y, hy, hend⟩
    obtain ⟨w, hw, hs, -⟩ := (mem_ends h).mp hy
    rcases hend with hend | hend
    · left
      rw [hend, List.append_nil] at hs
      rwa [show text = w from hs]
    · right
      exact ⟨w, hw, by rw [← hend]; exact hs⟩
  · rintro (hw | ⟨w, hw, rfl⟩)
    · exact ⟨(true && text.isEmpty, []), (mem_ends h).mpr ⟨text, hw, by simp, rfl⟩, .inl rfl⟩
    · exact ⟨(true && w.isEmpty, ['\n']), (mem_ends h).mpr ⟨w, hw, rfl, rfl⟩, .inr rfl⟩

/-! ### Words -/

lemma mem_literal {c : Char} {w : List Char} : w ∈ (literal c).language ↔ w = [c] := by
  constructor
  · rintro ⟨c', hc, rfl⟩
    simpa using hc
  · rintro rfl
    exact ⟨c, by simp, rfl⟩

lemma mem_literal_seq {c : Char} {w : List Char} :
    w ∈ (seq (literal c) r).language ↔ ∃ v ∈ r.language, w = c :: v := by
  refine Language.mem_mul.trans ?_
  constructor
  · rintro ⟨u, hu, v, hv, rfl⟩
    obtain rfl := mem_literal.mp hu
    exact ⟨v, hv, rfl⟩
  · rintro ⟨v, hv, rfl⟩
    exact ⟨[c], mem_literal.mpr rfl, v, hv, rfl⟩

/-- Characters of one class. -/
lemma mem_char_pow {p : Char → Bool} {k : ℕ} {w : List Char} :
    w ∈ (char p).language ^ k ↔ w.length = k ∧ ∀ c ∈ w, p c = true := by
  induction k generalizing w with
  | zero =>
    rw [pow_zero, Language.mem_one, List.length_eq_zero_iff]
    constructor
    · rintro rfl
      exact ⟨rfl, by simp⟩
    · exact fun h => h.1
  | succ k ih =>
    rw [pow_succ', Language.mem_mul]
    constructor
    · rintro ⟨u, ⟨c, hc, rfl⟩, v, hv, rfl⟩
      obtain ⟨hlen, hall⟩ := ih.mp hv
      exact ⟨by simp [hlen], List.forall_mem_cons.mpr ⟨hc, hall⟩⟩
    · rintro ⟨hlen, hall⟩
      cases w with
      | nil => simp at hlen
      | cons c v =>
        obtain ⟨hc, hall⟩ := List.forall_mem_cons.mp hall
        exact ⟨[c], ⟨c, hc, rfl⟩, v, ih.mpr ⟨by simpa using hlen, hall⟩, rfl⟩

lemma mem_char_rep {p : Char → Bool} {least most : ℕ} {w : List Char} :
    w ∈ (rep (char p) least most).language ↔
      least ≤ w.length ∧ w.length ≤ most ∧ ∀ c ∈ w, p c = true := by
  constructor
  · rintro ⟨k, hleast, hmost, hw⟩
    obtain ⟨rfl, hall⟩ := mem_char_pow.mp hw
    exact ⟨hleast, hmost, hall⟩
  · rintro ⟨hleast, hmost, hall⟩
    exact ⟨w.length, hleast, hmost, mem_char_pow.mpr ⟨rfl, hall⟩⟩

end Regex

end Vero.Lib
