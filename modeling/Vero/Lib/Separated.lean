import Mathlib.Data.List.DropRight
import Mathlib.Data.List.Infix

/-!
Lists written as one text, with a separator between their items.

A reader splits the text at the separators, trims the pieces and passes over those of which
nothing is left. What it reads can be written and read again.
-/

namespace Vero.Lib.Separated

variable {α : Type*} {p : α → Bool} {sep : α} {l text : List α} {items : List (List α)}

/-- What is left without the blanks at both ends. -/
def trim (p : α → Bool) (l : List α) : List α := (l.dropWhile p).rdropWhile p

def read [DecidableEq α] (p : α → Bool) (sep : α) (text : List α) : List (List α) :=
  ((text.splitOn sep).map (trim p)).filter (· ≠ [])

/-- An item that can be written: trimmed, not empty and without a separator. -/
structure Item (p : α → Bool) (sep : α) (l : List α) : Prop where
  trimmed : trim p l = l
  ne_nil : l ≠ []
  sep_notMem : sep ∉ l

lemma trim_sublist : (trim p l).Sublist l :=
  (List.rdropWhile_prefix p _).sublist.trans (List.dropWhile_suffix p).sublist

lemma trim_trim : trim p (trim p l) = trim p l := by
  have hfront : (trim p l).dropWhile p = trim p l := by
    have hpre : trim p l <+: l.dropWhile p := List.rdropWhile_prefix p _
    rw [List.dropWhile_eq_self_iff]
    intro hlen
    have hne : l.dropWhile p ≠ [] := fun hnil => by simp [trim, hnil] at hlen
    have hhead : (trim p l)[0] = (l.dropWhile p).head hne := by
      rw [List.head_eq_getElem]
      exact hpre.getElem hlen
    rw [hhead, List.head_dropWhile_not p hne]
    exact Bool.false_ne_true
  rw [trim, hfront]
  exact List.rdropWhile_idempotent p _

variable [DecidableEq α]

lemma notMem_of_mem_splitOn (h : l ∈ text.splitOn sep) : sep ∉ l := by
  induction text generalizing l with
  | nil =>
    rw [List.splitOn_nil, List.mem_singleton] at h
    rw [h]
    exact List.not_mem_nil
  | cons a text ih =>
    rw [List.splitOn_cons_eq_if_modifyHead] at h
    split_ifs at h with ha
    · rcases List.mem_cons.mp h with rfl | h
      · exact List.not_mem_nil
      · exact ih h
    · cases hpieces : text.splitOn sep with
      | nil => exact absurd hpieces (List.splitOn_ne_nil sep text)
      | cons piece pieces =>
        rw [hpieces, List.modifyHead_cons] at h
        rcases List.mem_cons.mp h with rfl | h
        · have hpiece : sep ∉ piece := ih (hpieces ▸ List.mem_cons_self)
          have hne : sep ≠ a := fun he => ha (by simp [he])
          simp [hpiece, hne]
        · exact ih (hpieces ▸ List.mem_cons_of_mem _ h)

/-- What is read can be written. -/
lemma item_of_mem_read (h : l ∈ read p sep text) : Item p sep l := by
  obtain ⟨hmem, hne⟩ := List.mem_filter.mp h
  obtain ⟨piece, hpiece, rfl⟩ := List.mem_map.mp hmem
  have hsep := notMem_of_mem_splitOn hpiece
  exact ⟨trim_trim, of_decide_eq_true hne, fun hm => hsep (trim_sublist.subset hm)⟩

/-- **What is written is read.** -/
theorem read_intercalate (h : ∀ l ∈ items, Item p sep l) :
    read p sep ([sep].intercalate items) = items := by
  unfold read
  cases hitems : items with
  | nil => simp [trim]
  | cons item rest =>
    rw [← hitems, List.splitOn_intercalate sep (fun l hl => (h l hl).sep_notMem) (by simp [hitems])]
    have hmap : items.map (trim p) = items := by
      calc items.map (trim p) = items.map id := List.map_congr_left fun l hl => (h l hl).trimmed
        _ = items := List.map_id items
    rw [hmap, List.filter_eq_self]
    exact fun l hl => decide_eq_true (h l hl).ne_nil

end Vero.Lib.Separated
