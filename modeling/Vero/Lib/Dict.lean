import Mathlib.Data.List.Nodup
import Mathlib.Data.Finset.Card
import Mathlib.Data.Finset.Filter

/-!
Dictionaries in insertion order: setting a key that is present keeps its place, setting a
new one puts it last.
-/

namespace Vero.Lib

/-- No key stands twice among the items. -/
structure Dict (κ ν : Type*) where
  items : List (κ × ν)
  nodup : (items.map Prod.fst).Nodup

variable {κ ν : Type*} [DecidableEq κ]

namespace Dict

def empty : Dict κ ν := ⟨[], by simp⟩

instance : EmptyCollection (Dict κ ν) := ⟨empty⟩

def keys (d : Dict κ ν) : List κ := d.items.map Prod.fst

def values (d : Dict κ ν) : List ν := d.items.map Prod.snd

def get (d : Dict κ ν) (k : κ) : Option ν :=
  (d.items.find? fun it => it.1 = k).map Prod.snd

def getD (d : Dict κ ν) (k : κ) (v : ν) : ν := (d.get k).getD v

/-- The items with the value at `k` replaced. -/
def replaced (items : List (κ × ν)) (k : κ) (v : ν) : List (κ × ν) :=
  items.map fun it => if it.1 = k then (k, v) else it

lemma keys_replaced (items : List (κ × ν)) (k : κ) (v : ν) :
    (replaced items k v).map Prod.fst = items.map Prod.fst := by
  induction items with
  | nil => rfl
  | cons it items ih =>
    by_cases h : it.1 = k <;> simp_all [replaced]

omit [DecidableEq κ] in
lemma nodup_snoc {items : List (κ × ν)} {k : κ} (v : ν) (h : (items.map Prod.fst).Nodup)
    (hk : k ∉ items.map Prod.fst) : ((items ++ [(k, v)]).map Prod.fst).Nodup := by
  rw [List.map_append, List.nodup_append]
  refine ⟨h, by simp, fun a ha b hb he => hk ?_⟩
  have hb' : b = k := List.mem_singleton.mp hb
  rw [← hb', ← he]
  exact ha

def set (d : Dict κ ν) (k : κ) (v : ν) : Dict κ ν :=
  if h : k ∈ d.keys then ⟨replaced d.items k v, by rw [keys_replaced]; exact d.nodup⟩
  else ⟨d.items ++ [(k, v)], nodup_snoc v d.nodup h⟩

/-- The items whose key passes the test. -/
def filterKeys (d : Dict κ ν) (p : κ → Bool) : Dict κ ν :=
  ⟨d.items.filter fun it => p it.1, d.nodup.sublist (List.filter_sublist.map _)⟩

def ofList (l : List (κ × ν)) : Dict κ ν := l.foldl (fun d it => d.set it.1 it.2) ∅

lemma mem_items_iff {d : Dict κ ν} {k : κ} {v : ν} : (k, v) ∈ d.items ↔ d.get k = some v := by
  obtain ⟨items, hd⟩ := d
  unfold get
  induction items with
  | nil => simp
  | cons it items ih =>
    obtain ⟨k', v'⟩ := it
    simp only [List.map_cons, List.nodup_cons] at hd
    by_cases h : k' = k
    · subst h
      have hnot : ∀ w, (k', w) ∉ items := fun w hw =>
        hd.1 (List.mem_map.mpr ⟨_, hw, rfl⟩)
      simp [hnot, eq_comm]
    · have hne : (k, v) ≠ (k', v') := fun he => h (Prod.mk.inj he).1.symm
      simp only [List.mem_cons, hne, false_or, List.find?_cons, h, decide_false]
      exact ih hd.2

@[simp] lemma get_empty (k : κ) : (∅ : Dict κ ν).get k = none := rfl
@[simp] lemma getD_empty (k : κ) (v : ν) : (∅ : Dict κ ν).getD k v = v := rfl

lemma mem_items_set {d : Dict κ ν} {k k' : κ} {v w : ν} :
    (k', w) ∈ (d.set k v).items ↔ (k' = k ∧ w = v) ∨ (k' ≠ k ∧ (k', w) ∈ d.items) := by
  unfold set
  by_cases h : k ∈ d.keys
  · simp only [dif_pos h, replaced, List.mem_map, Prod.exists]
    constructor
    · rintro ⟨a, b, hab, he⟩
      by_cases ha : a = k
      · simp only [ha, if_true, Prod.mk.injEq] at he
        exact .inl ⟨he.1.symm, he.2.symm⟩
      · simp only [ha, if_false, Prod.mk.injEq] at he
        obtain ⟨rfl, rfl⟩ := he
        exact .inr ⟨ha, hab⟩
    · rintro (⟨rfl, rfl⟩ | ⟨hne, hm⟩)
      · obtain ⟨⟨a, b⟩, hab, rfl⟩ := List.mem_map.mp h
        exact ⟨a, b, hab, by simp⟩
      · exact ⟨k', w, hm, by simp [hne]⟩
  · simp only [dif_neg h, List.mem_append, List.mem_singleton, Prod.mk.injEq]
    constructor
    · rintro (hm | hm)
      · exact .inr ⟨fun he => h (he ▸ List.mem_map.mpr ⟨_, hm, rfl⟩), hm⟩
      · exact .inl hm
    · rintro (hm | ⟨-, hm⟩)
      · exact .inr hm
      · exact .inl hm

@[simp] lemma get_set (d : Dict κ ν) (k k' : κ) (v : ν) :
    (d.set k v).get k' = if k' = k then some v else d.get k' := by
  ext w
  rw [← mem_items_iff, mem_items_set, mem_items_iff]
  by_cases h : k' = k <;> simp [h, eq_comm]

/-- What every entry has after one was set. -/
lemma forall_set {d : Dict κ ν} {k : κ} {v : ν} {P : κ → ν → Prop} :
    (∀ i w, (d.set k v).get i = some w → P i w) ↔
      P k v ∧ ∀ i w, i ≠ k → d.get i = some w → P i w := by
  constructor
  · intro h
    refine ⟨h k v (by simp), fun i w hi hw => h i w ?_⟩
    rwa [get_set, if_neg hi]
  · rintro ⟨hk, hrest⟩ i w hw
    rw [get_set] at hw
    split_ifs at hw with hi
    · obtain rfl := Option.some.inj hw
      exact hi ▸ hk
    · exact hrest i w hi hw

@[simp] lemma getD_set (d : Dict κ ν) (k k' : κ) (v w : ν) :
    (d.set k v).getD k' w = if k' = k then v else d.getD k' w := by
  unfold getD
  rw [get_set]
  split <;> rfl

@[simp] lemma get_filterKeys (d : Dict κ ν) (p : κ → Bool) (k : κ) :
    (d.filterKeys p).get k = if p k then d.get k else none := by
  ext w
  rw [← mem_items_iff]
  by_cases h : p k <;> simp [filterKeys, h, mem_items_iff]

@[simp] lemma getD_filterKeys (d : Dict κ ν) (p : κ → Bool) (k : κ) (w : ν) :
    (d.filterKeys p).getD k w = if p k then d.getD k w else w := by
  unfold getD
  rw [get_filterKeys]
  split <;> rfl

omit [DecidableEq κ] in
lemma nodup_items (d : Dict κ ν) : d.items.Nodup := d.nodup.of_map Prod.fst

/-- The item of a key and the items of the other keys. -/
lemma items_perm_of_get {d : Dict κ ν} {k : κ} {v : ν} (h : d.get k = some v) :
    d.items.Perm ((k, v) :: (d.filterKeys (· ≠ k)).items) := by
  have hk : (k, v) ∉ (d.filterKeys (· ≠ k)).items := by simp [mem_items_iff]
  refine (List.perm_ext_iff_of_nodup d.nodup_items
    (List.nodup_cons.mpr ⟨hk, nodup_items _⟩)).mpr ?_
  rintro ⟨k', w⟩
  rw [List.mem_cons, mem_items_iff, mem_items_iff, get_filterKeys, Prod.mk.injEq]
  by_cases he : k' = k
  · subst he
    simp [h, eq_comm]
  · simp [he]

lemma items_set_perm (d : Dict κ ν) (k : κ) (v : ν) :
    (d.set k v).items.Perm ((k, v) :: (d.filterKeys (· ≠ k)).items) := by
  have hget : (d.set k v).get k = some v := by simp
  refine (items_perm_of_get hget).trans (List.Perm.cons _ ?_)
  refine (List.perm_ext_iff_of_nodup (nodup_items _) (nodup_items _)).mpr ?_
  rintro ⟨k', w⟩
  rw [mem_items_iff, mem_items_iff, get_filterKeys, get_filterKeys, get_set]
  by_cases he : k' = k <;> simp [he]

lemma filterKeys_of_get_none {d : Dict κ ν} {k : κ} (h : d.get k = none) :
    (d.filterKeys (· ≠ k)).items.Perm d.items := by
  refine (List.perm_ext_iff_of_nodup (nodup_items _) (nodup_items _)).mpr ?_
  rintro ⟨k', w⟩
  rw [mem_items_iff, mem_items_iff, get_filterKeys]
  by_cases he : k' = k <;> simp [he, h]

/-- An element added to what a key holds, which is nothing by default. -/
lemma flatMap_set_perm {β : Type*} {d : Dict κ ν} {k : κ} {v w : ν} {f : κ × ν → List β}
    {x : β} (hw : f (k, w) = []) (hv : f (k, v) = f (k, d.getD k w) ++ [x]) :
    ((d.set k v).items.flatMap f).Perm (d.items.flatMap f ++ [x]) := by
  have hset := (items_set_perm d k v).flatMap_right f
  rw [List.flatMap_cons, hv] at hset
  refine hset.trans ?_
  have hbefore : (f (k, d.getD k w) ++ (d.filterKeys (· ≠ k)).items.flatMap f).Perm
      (d.items.flatMap f) := by
    cases hget : d.get k with
    | none =>
      rw [getD, hget, Option.getD_none, hw, List.nil_append]
      exact (filterKeys_of_get_none hget).flatMap_right f
    | some u =>
      have hu := ((items_perm_of_get hget).flatMap_right f).symm
      rw [List.flatMap_cons] at hu
      rwa [getD, hget, Option.getD_some]
  rw [List.append_assoc]
  refine (List.Perm.append_left _ List.perm_append_comm).trans ?_
  rw [← List.append_assoc]
  exact hbefore.append_right [x]

lemma mem_keys_iff {d : Dict κ ν} {k : κ} : k ∈ d.keys ↔ ∃ v, d.get k = some v := by
  simp only [keys, List.mem_map, ← mem_items_iff]
  exact ⟨fun ⟨⟨a, b⟩, h, e⟩ => ⟨b, e ▸ h⟩, fun ⟨v, h⟩ => ⟨_, h, rfl⟩⟩

lemma mem_values_iff {d : Dict κ ν} {v : ν} : v ∈ d.values ↔ ∃ k, d.get k = some v := by
  simp only [values, List.mem_map, ← mem_items_iff]
  exact ⟨fun ⟨⟨a, b⟩, h, e⟩ => ⟨a, e ▸ h⟩, fun ⟨k, h⟩ => ⟨_, h, rfl⟩⟩

/-- Building a dictionary from items invents none. -/
lemma get_ofList {l : List (κ × ν)} {k : κ} {v : ν} (h : (ofList l).get k = some v) :
    (k, v) ∈ l := by
  suffices ∀ d : Dict κ ν, (l.foldl (fun d it => d.set it.1 it.2) d).get k = some v →
      (k, v) ∈ l ∨ d.get k = some v by
    simpa using this ∅ h
  clear h
  induction l with
  | nil => exact fun d h => .inr h
  | cons it l ih =>
    intro d h
    rcases ih _ h with h' | h'
    · exact .inl (List.mem_cons_of_mem _ h')
    · by_cases hk : k = it.1
      · subst hk
        simp only [get_set, if_true, Option.some.injEq] at h'
        exact .inl (by simp [← h'])
      · simp only [get_set, hk, if_false] at h'
        exact .inr h'

/-- A key of the items has one of their values. -/
lemma exists_get_ofList {l : List (κ × ν)} {k : κ} {v : ν} (h : (k, v) ∈ l) :
    ∃ w, (ofList l).get k = some w := by
  suffices ∀ d : Dict κ ν, ((k, v) ∈ l ∨ ∃ w, d.get k = some w) →
      ∃ w, (l.foldl (fun d it => d.set it.1 it.2) d).get k = some w from this ∅ (.inl h)
  clear h
  induction l with
  | nil => simp
  | cons it l ih =>
    rintro d (hm | ⟨w, hw⟩)
    · rcases List.mem_cons.mp hm with rfl | hm
      · exact ih _ (.inr ⟨v, by simp⟩)
      · exact ih _ (.inl hm)
    · by_cases hk : k = it.1
      · exact ih _ (.inr ⟨it.2, by simp [hk]⟩)
      · exact ih _ (.inr ⟨w, by simp [hk, hw]⟩)

/-- Keys that differ are all kept when a dictionary is built. -/
lemma get_ofList_iff {l : List (κ × ν)} (h : (l.map Prod.fst).Nodup) {k : κ} {v : ν} :
    (ofList l).get k = some v ↔ (k, v) ∈ l := by
  refine ⟨get_ofList, ?_⟩
  suffices ∀ d : Dict κ ν, (k, v) ∈ l ∨ (k ∉ l.map Prod.fst ∧ d.get k = some v) →
      (l.foldl (fun d it => d.set it.1 it.2) d).get k = some v from fun hm => this ∅ (.inl hm)
  induction l with
  | nil => simp
  | cons it l ih =>
    rw [List.map_cons, List.nodup_cons] at h
    rintro d (hm | ⟨hk, hd⟩)
    · rcases List.mem_cons.mp hm with rfl | hm
      · exact ih h.2 _ (.inr ⟨h.1, by simp⟩)
      · exact ih h.2 _ (.inl hm)
    · rw [List.map_cons, List.mem_cons, not_or] at hk
      refine ih h.2 _ (.inr ⟨hk.2, ?_⟩)
      rwa [get_set, if_neg hk.1]

omit [DecidableEq κ] in
lemma keys_filterMap_sublist {β : Type*} (f : ν → Option β) (items : List (κ × ν)) :
    ((items.filterMap fun it => (f it.2).map (it.1, ·)).map Prod.fst).Sublist
      (items.map Prod.fst) := by
  induction items with
  | nil => exact .slnil
  | cons it items ih =>
    cases hf : f it.2 with
    | none => simpa [List.filterMap_cons, hf] using ih.cons it.1
    | some w => simpa [List.filterMap_cons, hf] using ih

/-- The dictionary that a comprehension with a test on the values builds. -/
lemma get_ofList_filterMap {β : Type*} (d : Dict κ ν) (f : ν → Option β) (k : κ) :
    (ofList (d.items.filterMap fun it => (f it.2).map (it.1, ·))).get k =
      (d.get k).bind f := by
  have hnodup := d.nodup.sublist (keys_filterMap_sublist f d.items)
  ext v
  rw [get_ofList_iff hnodup, List.mem_filterMap, Option.bind_eq_some_iff]
  constructor
  · rintro ⟨⟨k', w⟩, hm, he⟩
    obtain ⟨v', hv', he⟩ := Option.map_eq_some_iff.mp he
    obtain ⟨rfl, rfl⟩ := Prod.mk.inj he
    exact ⟨w, mem_items_iff.mp hm, hv'⟩
  · rintro ⟨w, hw, hv⟩
    exact ⟨(k, w), mem_items_iff.mpr hw, by simp [hv]⟩

/-! ### Values that differ -/

/-- No two of the values that pass the test have the same image. -/
def Distinct {β : Type*} (d : Dict κ ν) (p : ν → Prop) (f : ν → β) : Prop :=
  ∀ k k' v v', d.get k = some v → d.get k' = some v' → p v → p v' → f v = f v' → k = k'

lemma Distinct.set {β : Type*} {d : Dict κ ν} {p : ν → Prop} {f : ν → β} (h : d.Distinct p f)
    {k : κ} {v : ν} (hnew : p v → ∀ i w, i ≠ k → d.get i = some w → p w → f w ≠ f v) :
    (d.set k v).Distinct p f := by
  intro i j w w' hw hw' hp hp' he
  rw [get_set] at hw hw'
  split_ifs at hw hw' with hi hj hj
  · exact hi.trans hj.symm
  · obtain rfl := Option.some.inj hw
    exact absurd he.symm (hnew hp j w' hj hw' hp')
  · obtain rfl := Option.some.inj hw'
    exact absurd he (hnew hp' i w hi hw hp)
  · exact h i j w w' hw hw' hp hp' he

/-! ### The keys that hold a value -/

variable [DecidableEq ν]

/-- The keys at which the dictionary has the value `v`. -/
def holders (d : Dict κ ν) (v : ν) : Finset κ := {k ∈ d.keys.toFinset | d.get k = some v}

@[simp] lemma mem_holders {d : Dict κ ν} {k : κ} {v : ν} :
    k ∈ d.holders v ↔ d.get k = some v := by
  simp only [holders, Finset.mem_filter, List.mem_toFinset, and_iff_right_iff_imp]
  exact fun h => mem_keys_iff.mpr ⟨v, h⟩

@[simp] lemma holders_empty (v : ν) : (∅ : Dict κ ν).holders v = ∅ := by
  ext k; simp

/-- Setting a key moves it from the holders of its old value to those of the new one. -/
lemma card_holders_set (d : Dict κ ν) (k : κ) (v w : ν) :
    ((d.set k v).holders w).card + (if d.get k = some w then 1 else 0) =
      (d.holders w).card + if v = w then 1 else 0 := by
  by_cases hv : v = w
  · have hset : (d.set k v).holders w = insert k (d.holders w) := by
      ext k'; by_cases h : k' = k <;> simp [h, hv]
    by_cases hk : d.get k = some w
    · rw [hset, Finset.insert_eq_of_mem (by simpa using hk)]
      simp [hk, hv]
    · rw [hset, Finset.card_insert_of_notMem (by simpa using hk)]
      simp [hk, hv]
  · have hset : (d.set k v).holders w = (d.holders w).erase k := by
      ext k'; by_cases h : k' = k <;> simp [h, hv]
    by_cases hk : d.get k = some w
    · have hmem : k ∈ d.holders w := by simpa using hk
      simpa [hset, hk, hv] using Finset.card_erase_add_one hmem
    · rw [hset, Finset.erase_eq_of_notMem (by simpa using hk)]
      simp [hk, hv]

end Dict

end Vero.Lib
