import Mathlib.Data.List.Basic
import Mathlib.Order.Basic

/-!
Events told apart by a key, and holders that work on one key each.

The keys come up in order, each with a holder of its own. What holds between a holder and the
events of its key is kept by the steps of that holder, whatever the others do in between.
-/

namespace Vero.Lib.Chains

variable {κ τ : Type*}

section Chain

variable [DecidableEq κ] {k k' : κ} {x : τ} {l : List τ} {es : List (κ × τ)}

/-- What happened for one key. -/
def chain (k : κ) (es : List (κ × τ)) : List τ :=
  es.filterMap fun e => if e.1 = k then some e.2 else none

lemma chain_append (es es' : List (κ × τ)) : chain k (es ++ es') = chain k es ++ chain k es' :=
  List.filterMap_append

lemma chain_own (k : κ) (l : List τ) : chain k (l.map (Prod.mk k)) = l := by
  simp [chain, List.filterMap_map]

lemma chain_other (h : k' ≠ k) (l : List τ) : chain k (l.map (Prod.mk k')) = [] := by
  rw [chain, List.filterMap_eq_nil_iff]
  intro e he
  obtain ⟨x, -, rfl⟩ := List.mem_map.mp he
  exact if_neg h

lemma chain_append_other (h : k' ≠ k) : chain k (es ++ l.map (Prod.mk k')) = chain k es := by
  rw [chain_append, chain_other h, List.append_nil]

lemma chain_append_own : chain k (es ++ l.map (Prod.mk k)) = chain k es ++ l := by
  rw [chain_append, chain_own]

lemma mem_chain (h : (k, x) ∈ es) : x ∈ chain k es := List.mem_filterMap.mpr ⟨_, h, if_pos rfl⟩

end Chain

/-! ### Holders -/

variable {ι H : Type*} [Preorder κ] [DecidableEq κ]

/-- What holds between a holder and the events of its key, and of the events of a key with any
holder or none. -/
structure Account (κ τ H : Type*) where
  key : H → κ
  active : H → Prop
  Holds : H → List τ → Prop
  Whole : κ → List τ → Prop
  whole_nil : ∀ k, Whole k []
  whole_of_holds : ∀ t l, Holds t l → Whole (key t) l

variable {A : Account κ τ H} {last : κ} {holders holders' : ι → Option H} {es : List (κ × τ)}
variable {id : ι} {t t' : H} {l : List τ}

/-- Nothing happened yet for the keys after the last one, and every active holder knows what
happened for its key. -/
structure Account.Kept (A : Account κ τ H) (last : κ) (holders : ι → Option H)
    (es : List (κ × τ)) : Prop where
  untouched : ∀ k, last < k → chain k es = []
  holds : ∀ id t, holders id = some t → A.active t → A.Holds t (chain (A.key t) es)
  whole : ∀ k, A.Whole k (chain k es)

namespace Account.Kept

lemma nil (h : ∀ id, holders id = none) : A.Kept last holders [] where
  untouched _ _ := rfl
  holds id t ht := by
    rw [h id] at ht
    cases ht
  whole := A.whole_nil

/-- Holders that are not active may come and go. -/
lemma idle (h : A.Kept last holders es)
    (hholders : ∀ id t, holders' id = some t → A.active t → holders id = some t) :
    A.Kept last holders' es :=
  ⟨h.untouched, fun id t ht ha => h.holds id t (hholders id t ht ha) ha, h.whole⟩

/-- **A holder goes on**, and no other one has its key. -/
lemma advance (h : A.Kept last holders es) (hle : A.key t ≤ last)
    (hdistinct : ∀ i q, i ≠ id → holders i = some q → A.active q → A.key q ≠ A.key t)
    (hkey : A.key t' = A.key t) (hnew : A.Holds t' (chain (A.key t) es ++ l))
    (hid : holders' id = some t') (hother : ∀ i, i ≠ id → holders' i = holders i) :
    A.Kept last holders' (es ++ l.map (Prod.mk (A.key t))) := by
  refine ⟨fun k hk => ?_, fun i q hq ha => ?_, fun k => ?_⟩
  · rw [chain_append_other (hle.trans_lt hk).ne]
    exact h.untouched k hk
  · by_cases hi : i = id
    · subst hi
      obtain rfl := Option.some.inj (hid.symm.trans hq)
      rw [hkey, chain_append_own]
      exact hnew
    · rw [hother i hi] at hq
      rw [chain_append_other (hdistinct i q hi hq ha).symm]
      exact h.holds i q hq ha
  · by_cases hk : A.key t = k
    · subst hk
      rw [chain_append_own, ← hkey]
      exact A.whole_of_holds t' _ (hkey ▸ hnew)
    · rw [chain_append_other hk]
      exact h.whole k

/-- **A holder starts** with a key for which nothing has happened. -/
lemma start (h : A.Kept last holders es) (hlater : last < A.key t)
    (hstarted : ∀ i q, holders i = some q → A.active q → A.key q ≤ last)
    (hnew : A.Holds t l) (hid : holders' id = some t)
    (hother : ∀ i, i ≠ id → holders' i = holders i) :
    A.Kept (A.key t) holders' (es ++ l.map (Prod.mk (A.key t))) := by
  have hown : chain (A.key t) (es ++ l.map (Prod.mk (A.key t))) = l := by
    rw [chain_append_own, h.untouched _ hlater, List.nil_append]
  refine ⟨fun k hk => ?_, fun i q hq ha => ?_, fun k => ?_⟩
  · rw [chain_append_other hk.ne]
    exact h.untouched k (hlater.trans hk)
  · by_cases hi : i = id
    · subst hi
      obtain rfl := Option.some.inj (hid.symm.trans hq)
      rw [hown]
      exact hnew
    · rw [hother i hi] at hq
      rw [chain_append_other ((hstarted i q hq ha).trans_lt hlater).ne']
      exact h.holds i q hq ha
  · by_cases hk : A.key t = k
    · subst hk
      rw [hown]
      exact A.whole_of_holds t l hnew
    · rw [chain_append_other hk]
      exact h.whole k

end Account.Kept

end Vero.Lib.Chains
