import Mathlib.Data.String.Basic

/-!
The pieces into which a text is split by a separator.

Whether a separator begins is tried at one place after the other, and the search goes on behind
the separator once it is found.
-/

namespace Vero.Lib.SplitOn

open String

/-- The pieces of a text, of which `piece` is the beginning of the first. -/
inductive Pieces (sep : List Char) : List Char → List Char → List (List Char) → Prop
  | last (piece : List Char) : Pieces sep piece [] [piece]
  | split {piece rest : List Char} {out : List (List Char)} (h : Pieces sep [] rest out) :
    Pieces sep piece (sep ++ rest) (piece :: out)
  | char {piece rest : List Char} {c : Char} {out : List (List Char)}
      (hnot : ¬ sep <+: c :: rest) (h : Pieces sep (piece ++ [c]) rest out) :
    Pieces sep piece (c :: rest) out

variable {sep piece text rest p q r l m : List Char} {c d : Char} {out : List (List Char)}
variable {acc : List String}

lemma Pieces.of_length_lt (h : Pieces sep piece text out) (hlt : text.length < sep.length) :
    out = [piece ++ text] := by
  induction h with
  | last piece => rw [List.append_nil]
  | split h ih => rw [List.length_append] at hlt; omega
  | char hnot h ih =>
    rw [List.length_cons] at hlt
    rw [ih (by omega), List.append_assoc, List.singleton_append]

lemma Pieces.of_begins (hsep : sep ≠ []) (h : Pieces sep piece (sep ++ rest) out) :
    ∃ out', out = piece :: out' ∧ Pieces sep [] rest out' := by
  generalize ht : sep ++ rest = text at h
  cases h with
  | last => exact absurd (List.append_eq_nil_iff.mp ht).1 hsep
  | split h =>
    rw [List.append_cancel_left ht]
    exact ⟨_, rfl, h⟩
  | char hnot h => exact absurd ⟨rest, ht⟩ hnot

lemma Pieces.of_not_begins (hnot : ¬ sep <+: c :: rest) (h : Pieces sep piece (c :: rest) out) :
    Pieces sep (piece ++ [c]) rest out := by
  generalize ht : c :: rest = text at h
  cases h with
  | last => cases ht
  | split h => exact absurd ⟨_, ht.symm⟩ hnot
  | char _ h =>
    obtain ⟨rfl, rfl⟩ := List.cons.inj ht
    exact h

/-! ### One step of the search

`l` is split off already, `m` is the piece so far, and `p` has matched the separator. -/

/-- The place behind a text. -/
def placeAfter (text : List Char) : Pos.Raw := ⟨utf8Len text⟩

lemma splitOnAux_end (acc : List String) (l t : List Char) (sep : String) (j : Pos.Raw) :
    splitOnAux (ofList (l ++ t)) sep (placeAfter l) (placeAfter (l ++ t)) j acc =
      acc.reverse ++ [ofList t] := by
  have hextract := extract_of_valid l t []
  rw [List.append_nil, ← utf8Len_append] at hextract
  have hend : (placeAfter (l ++ t)).atEnd (ofList (l ++ t)) := by
    unfold placeAfter
    rw [atEnd_iff, rawEndPos_ofList]
    exact Nat.le_refl _
  unfold splitOnAux
  rw [if_pos hend]
  unfold placeAfter
  rw [hextract, List.reverse_cons]

/-- Where the search stands before a character. -/
lemma not_atEnd (l : List Char) : ¬ (placeAfter l).atEnd (ofList (l ++ c :: r)) := by
  have hpos := c.utf8Size_pos
  unfold placeAfter
  rw [atEnd_iff, rawEndPos_ofList, Pos.Raw.mk_le_mk, utf8Len_append, utf8Len_cons]
  omega

lemma get_placeAfter (l : List Char) : (placeAfter l).get (ofList (l ++ c :: r)) = c :=
  get_of_valid l (c :: r)

lemma next_placeAfter (l : List Char) :
    (placeAfter l).next (ofList (l ++ c :: r)) = placeAfter (l ++ [c]) := by
  refine (next_of_valid l c r).trans ?_
  unfold placeAfter
  rw [utf8Len_append, utf8Len_cons, utf8Len_nil, zero_add]

lemma splitOnAux_matched (hq : q ≠ []) :
    splitOnAux (ofList (l ++ c :: r)) (ofList (p ++ c :: q)) (placeAfter m) (placeAfter l)
        (placeAfter p) acc =
      splitOnAux (ofList (l ++ c :: r)) (ofList (p ++ c :: q)) (placeAfter m)
        (placeAfter (l ++ [c])) (placeAfter (p ++ [c])) acc := by
  obtain ⟨d, q, rfl⟩ := List.exists_cons_of_ne_nil hq
  have hmore : ¬ (placeAfter (p ++ [c])).atEnd (ofList (p ++ c :: d :: q)) := by
    have hend := not_atEnd (c := d) (r := q) (p ++ [c])
    rwa [List.append_assoc, List.singleton_append] at hend
  rw [splitOnAux, if_neg (not_atEnd l), get_placeAfter, get_placeAfter, if_pos (by simp)]
  dsimp only
  rw [next_placeAfter, next_placeAfter, if_neg hmore]

lemma splitOnAux_found :
    splitOnAux (ofList (l ++ m ++ p ++ c :: r)) (ofList (p ++ [c])) (placeAfter l)
        (placeAfter (l ++ m ++ p)) (placeAfter p) acc =
      splitOnAux (ofList (l ++ m ++ p ++ c :: r)) (ofList (p ++ [c]))
        (placeAfter (l ++ m ++ p ++ [c])) (placeAfter (l ++ m ++ p ++ [c])) 0
        (ofList m :: acc) := by
  have hlast : (placeAfter (p ++ [c])).atEnd (ofList (p ++ [c])) := by
    unfold placeAfter
    rw [atEnd_iff, rawEndPos_ofList]
    exact Nat.le_refl _
  have hback : (placeAfter (l ++ m ++ p ++ [c])).unoffsetBy (placeAfter (p ++ [c])) =
      placeAfter (l ++ m) := by
    unfold placeAfter Pos.Raw.unoffsetBy
    simp only [utf8Len_append]
    congr 1
    omega
  have hextract : (placeAfter l).extract (ofList (l ++ m ++ p ++ c :: r)) (placeAfter (l ++ m)) =
      ofList m := by
    have hpiece := extract_of_valid l m (p ++ c :: r)
    rwa [← utf8Len_append, ← List.append_assoc] at hpiece
  rw [splitOnAux, if_neg (not_atEnd _), get_placeAfter, get_placeAfter, if_pos (by simp)]
  dsimp only
  rw [next_placeAfter, next_placeAfter, if_pos hlast, hback, hextract]

/-- The search goes on one character behind the place where the match began. -/
lemma splitOnAux_failed {a : Char} {t : List Char} (hne : c ≠ d) (ht : p ++ c :: r = a :: t) :
    splitOnAux (ofList (m ++ p ++ c :: r)) (ofList (p ++ d :: q)) (placeAfter l)
        (placeAfter (m ++ p)) (placeAfter p) acc =
      splitOnAux (ofList (m ++ p ++ c :: r)) (ofList (p ++ d :: q)) (placeAfter l)
        (placeAfter (m ++ [a])) 0 acc := by
  have hback : (placeAfter (m ++ p)).unoffsetBy (placeAfter p) = placeAfter m := by
    unfold placeAfter Pos.Raw.unoffsetBy
    rw [utf8Len_append, Nat.add_sub_cancel]
  have hnext : (placeAfter m).next (ofList (m ++ p ++ c :: r)) = placeAfter (m ++ [a]) := by
    rw [List.append_assoc, ht]
    exact next_placeAfter m
  rw [splitOnAux, if_neg (not_atEnd _), get_placeAfter, get_placeAfter, if_neg (by simpa using hne),
    hback, hnext]

/-! ### The whole search -/

/-- By induction on the text from the place where the match began, then on what of the separator
is still to be matched. -/
theorem splitOnAux_of_pieces (l m p q r : List Char) (acc : List String)
    (out : List (List Char)) (hq : q ≠ []) (h : Pieces (p ++ q) m (p ++ r) out) :
    splitOnAux (ofList (l ++ m ++ p ++ r)) (ofList (p ++ q)) (placeAfter l)
      (placeAfter (l ++ m ++ p)) (placeAfter p) acc = acc.reverse ++ out.map ofList := by
  induction hn : p.length + r.length using Nat.strong_induction_on
    generalizing l m p q r acc out with
  | h n ih =>
  induction q generalizing p r with
  | nil => exact absurd rfl hq
  | cons d q ihq =>
  cases r with
  | nil =>
    have hlast := h.of_length_lt (by simp)
    have hend := splitOnAux_end acc l (m ++ p) (ofList (p ++ d :: q)) (placeAfter p)
    rw [← List.append_assoc] at hend
    simp only [List.append_nil] at hlast ⊢
    rw [hend, hlast, List.map_singleton]
  | cons c r =>
  rw [List.length_cons] at hn
  by_cases hc : c = d
  · subst hc
    have hshift : p ++ c :: r = (p ++ [c]) ++ r := by simp
    have htext : l ++ m ++ p ++ c :: r = (l ++ m ++ p ++ [c]) ++ r := by simp
    cases q with
    | nil =>
      rw [hshift] at h
      obtain ⟨out', rfl, hrest⟩ := h.of_begins (by simp)
      have hnext := ih r.length (by omega) (l ++ m ++ p ++ [c]) [] [] (p ++ [c]) r
        (ofList m :: acc) out' (by simp) hrest (by simp)
      rw [List.append_nil, List.append_nil, List.nil_append] at hnext
      rw [splitOnAux_found, htext]
      refine hnext.trans ?_
      rw [List.reverse_cons, List.append_assoc, List.map_cons, List.singleton_append]
    | cons e q =>
      have hsep : p ++ c :: e :: q = (p ++ [c]) ++ e :: q := by simp
      rw [splitOnAux_matched (by simp), htext, hsep]
      rw [hshift, hsep] at h
      have hlen : (p ++ [c]).length + r.length = n := by
        rw [List.length_append, List.length_singleton]
        omega
      have hnext := ihq (p ++ [c]) r (by simp) h hlen
      simp only [← List.append_assoc] at hnext ⊢
      exact hnext
  · obtain ⟨a, t, ht⟩ := List.exists_cons_of_ne_nil (show p ++ c :: r ≠ [] by simp)
    have hnot : ¬ p ++ d :: q <+: a :: t := by
      rw [← ht, List.prefix_append_right_inj, List.cons_prefix_cons]
      exact fun hbegins => hc hbegins.1.symm
    have htext : l ++ m ++ p ++ c :: r = l ++ (m ++ [a]) ++ t := by
      rw [List.append_assoc _ p, ht]
      simp
    have hlen := congrArg List.length ht
    rw [List.length_append, List.length_cons, List.length_cons] at hlen
    rw [ht] at h
    have hnext := ih t.length (by omega) l (m ++ [a]) [] (p ++ d :: q) t acc out (by simp)
      (h.of_not_begins hnot) (by simp)
    rw [List.append_nil, List.nil_append, ← List.append_assoc] at hnext
    rw [splitOnAux_failed hc ht, htext, ← List.append_assoc]
    exact hnext

theorem splitOn_of_pieces {s sep : String} (hsep : sep ≠ "")
    (h : Pieces sep.toList [] s.toList out) : s.splitOn sep = out.map ofList := by
  have hq : sep.toList ≠ [] := by
    rwa [Ne, String.toList_eq_nil_iff]
  have hwhole := splitOnAux_of_pieces [] [] [] sep.toList s.toList [] out hq h
  simp only [List.nil_append, ofList_toList] at hwhole
  unfold splitOn
  rw [if_neg (by simpa using hsep)]
  exact hwhole

/-! ### Texts of few pieces -/

lemma Pieces.of_nowhere (piece : List Char) (h : ¬ sep <:+: text) :
    Pieces sep piece text [piece ++ text] := by
  induction text generalizing piece with
  | nil =>
    rw [List.append_nil]
    exact .last piece
  | cons c text ih =>
    have hrest := ih (piece ++ [c]) fun hin => h (List.infix_cons hin)
    rw [List.append_assoc, List.singleton_append] at hrest
    exact .char (fun hbegins => h hbegins.isInfix) hrest

/-- Where the separator's first character does not come before, nothing is split before it. -/
lemma Pieces.of_not_mem (piece : List Char) (hc : c ∉ text) (h : Pieces (c :: sep) [] rest out) :
    Pieces (c :: sep) piece (text ++ c :: sep ++ rest) ((piece ++ text) :: out) := by
  induction text generalizing piece with
  | nil =>
    rw [List.append_nil]
    exact .split h
  | cons d text ih =>
    obtain ⟨hne, hmem⟩ := not_or.mp (mt List.mem_cons.mpr hc)
    have hrest := ih (piece ++ [d]) hmem
    rw [List.append_assoc piece, List.singleton_append] at hrest
    refine .char (fun hbegins => ?_) hrest
    exact hne (List.cons_prefix_cons.mp hbegins).1

lemma splitOn_once {a b sep : String} {ch : Char} {cs : List Char} (hsep : sep.toList = ch :: cs)
    (ha : ch ∉ a.toList) (hb : ¬ sep.toList <:+: b.toList) :
    (a ++ sep ++ b).splitOn sep = [a, b] := by
  have hpieces : Pieces sep.toList [] (a ++ sep ++ b).toList [a.toList, b.toList] := by
    have hrest := Pieces.of_nowhere [] hb
    rw [hsep] at hrest
    rw [String.toList_append, String.toList_append, hsep]
    exact hrest.of_not_mem [] ha
  have hne : sep ≠ "" := by
    rintro rfl
    cases hsep
  rw [splitOn_of_pieces hne hpieces]
  simp

end Vero.Lib.SplitOn
