import Vero.EventConsumerService
import Vero.Context

/-!
The slashings of a stream and the flag of the tracker.

De-duplication goes by the text of a key, the handler by the indices it reads. An event that
is held back has the key of one whose handlers ran, and for slashings equal keys mean equal
indices.
-/

namespace Vero.SlashingEvents

open SchemaBeaconAPI EventConsumerService ValidatorStatusTrackerService

variable {c : EventConsumerService} {int : String → Option ℤ}

/-! ### Events in their canonical form -/

/-- The decimal string of an index. -/
def Index (s : String) : Prop := ∃ n : ℕ, s = toString n

/-- Indices are decimal and roots start with `0x`. -/
def Canonical : BeaconNodeEvent → Prop
  | .head event => ∃ digits, event.block = "0x" ++ digits
  | .chainReorg event => ∃ digits, event.newHeadBlock = "0x" ++ digits
  | .attesterSlashing event => (∀ i ∈ event.attestation1AttestingIndices, Index i) ∧
      ∀ i ∈ event.attestation2AttestingIndices, Index i
  | .proposerSlashing event => Index event.signedHeader1ProposerIndex

lemma isDigit_of_index {s : String} (h : Index s) {ch : Char} (hch : ch ∈ s.toList) :
    ch.isDigit = true := by
  obtain ⟨n, rfl⟩ := h
  have hdigits : ch ∈ Nat.toDigits 10 n := by rwa [← Nat.toList_repr]
  exact Nat.isDigit_of_mem_toDigits (by omega) (by omega) hdigits

lemma index_ne {s : String} (h : Index s) {t : String} (ch : Char) (hch : ch ∈ t.toList)
    (hnot : ch.isDigit = false) : s ≠ t := by
  rintro rfl
  have hdigit := isDigit_of_index h hch
  rw [hnot] at hdigit
  exact Bool.noConfusion hdigit

/-! ### The text of a set -/

/-- What follows the first member: the others, each after a comma, and the brace. -/
def strRest : List String → List Char
  | [] => ['}']
  | i :: l => ',' :: ' ' :: '\'' :: (i.toList ++ '\'' :: strRest l)

/-- Python's `str` of a set whose members, decimal strings, come in this order. -/
def strSet : List String → String
  | [] => "set()"
  | i :: l => String.ofList ('{' :: '\'' :: (i.toList ++ '\'' :: strRest l))

/-- The intersection is printed in some order of its members. -/
def PrintsSets (strIntersection : List String → List String → String) : Prop :=
  ∀ a b, (∀ i ∈ a ++ b, Index i) →
    ∃ l, (∀ i, i ∈ l ↔ i ∈ a ∧ i ∈ b) ∧ strIntersection a b = strSet l

lemma quote_notMem {i : String} (h : Index i) : '\'' ∉ i.toList := fun hm => by
  have hdigit := isDigit_of_index h hm
  revert hdigit
  decide

/-- Texts that are quoted once are told apart by where the quote stands. -/
lemma quoted_inj {x y r r' : List Char} (hx : '\'' ∉ x) (hy : '\'' ∉ y)
    (h : x ++ '\'' :: r = y ++ '\'' :: r') : x = y ∧ r = r' := by
  induction x generalizing y with
  | nil =>
    cases y with
    | nil => exact ⟨rfl, (List.cons.inj h).2⟩
    | cons ch y => exact absurd ((List.cons.inj h).1 ▸ List.mem_cons_self) hy
  | cons ch x ih =>
    cases y with
    | nil => exact absurd ((List.cons.inj h).1 ▸ List.mem_cons_self) hx
    | cons ch' y =>
      obtain ⟨rfl, hrest⟩ := List.cons.inj h
      rw [List.mem_cons, not_or] at hx hy
      obtain ⟨rfl, hr⟩ := ih hx.2 hy.2 hrest
      exact ⟨rfl, hr⟩

lemma strRest_inj {l l' : List String} (hl : ∀ i ∈ l, Index i) (hl' : ∀ i ∈ l', Index i)
    (h : strRest l = strRest l') : l = l' := by
  induction l generalizing l' with
  | nil =>
    cases l' with
    | nil => rfl
    | cons i' l' => simp [strRest] at h
  | cons i l ih =>
    cases l' with
    | nil => simp [strRest] at h
    | cons i' l' =>
      rw [List.forall_mem_cons] at hl hl'
      simp only [strRest, List.cons.injEq, true_and] at h
      obtain ⟨hi, hrest⟩ := quoted_inj (quote_notMem hl.1) (quote_notMem hl'.1) h
      rw [String.toList_inj.mp hi, ih hl.2 hl'.2 hrest]

/-- The text of a set of decimal strings determines its members. -/
lemma strSet_inj {l l' : List String} (hl : ∀ i ∈ l, Index i) (hl' : ∀ i ∈ l', Index i)
    (h : strSet l = strSet l') : l = l' := by
  have hchars := congrArg String.toList h
  cases l with
  | nil =>
    cases l' with
    | nil => rfl
    | cons i' l' => simp [strSet] at hchars
  | cons i l =>
    cases l' with
    | nil => simp [strSet] at hchars
    | cons i' l' =>
      rw [List.forall_mem_cons] at hl hl'
      simp only [strSet, String.toList_ofList, List.cons.injEq, true_and] at hchars
      obtain ⟨hi, hrest⟩ := quoted_inj (quote_notMem hl.1) (quote_notMem hl'.1) hchars
      rw [String.toList_inj.mp hi, strRest_inj hl.2 hl'.2 hrest]

lemma index_ne_strSet {s : String} (h : Index s) (l : List String) : s ≠ strSet l := by
  cases l with
  | nil => exact index_ne h 's' (by simp [strSet]) (by decide)
  | cons i l => exact index_ne h '{' (by simp [strSet]) (by decide)

lemma strSet_ne_root (l : List String) (digits : String) : strSet l ≠ "0x" ++ digits := by
  intro h
  have hchars := congrArg String.toList h
  cases l with
  | nil => simp [strSet] at hchars
  | cons i l => simp [strSet] at hchars

lemma index_ne_root {s digits : String} (h : Index s) : s ≠ "0x" ++ digits :=
  index_ne h 'x' (by simp) (by decide)

/-! ### Equal keys -/

/-- The event is a slashing of an active or pending validator. A proposer slashing is of the
proposer that its first header names. -/
def Slashes (s : State) : BeaconNodeEvent → Prop
  | .attesterSlashing event => ∃ v ∈ s.activeValidators ++ s.pendingValidators, ∃ n : ℕ,
      v.index = n ∧ toString n ∈ event.attestation1AttestingIndices ∧
        toString n ∈ event.attestation2AttestingIndices
  | .proposerSlashing event => ∃ v ∈ s.activeValidators ++ s.pendingValidators, ∃ n : ℕ,
      v.index = n ∧ event.signedHeader1ProposerIndex = toString n
  | .head _ | .chainReorg _ => False

/-- Of two events with one key, the second is a slashing of ours if the first is. -/
lemma slashes_of_key {s : State} {e e' : BeaconNodeEvent} (hprint : PrintsSets c.strIntersection)
    (he : Canonical e) (he' : Canonical e') (hkey : c.key e' = c.key e) (h : Slashes s e) :
    Slashes s e' := by
  cases e with
  | head event => exact h.elim
  | chainReorg event => exact h.elim
  | attesterSlashing event =>
    obtain ⟨l, hl, hstr⟩ := hprint _ _ (List.forall_mem_append.mpr he)
    have hkey' : c.key e' = strSet l := hkey.trans hstr
    cases e' with
    | head event' | chainReorg event' =>
      obtain ⟨digits, hroot⟩ := he'
      exact absurd (hkey'.symm.trans hroot) (strSet_ne_root l digits)
    | attesterSlashing event' =>
      obtain ⟨l', hl', hstr'⟩ := hprint _ _ (List.forall_mem_append.mpr he')
      obtain rfl := strSet_inj (fun i hi => he.1 i ((hl i).mp hi).1)
        (fun i hi => he'.1 i ((hl' i).mp hi).1) (hkey'.symm.trans hstr')
      obtain ⟨v, hv, n, hn, hboth⟩ := h
      exact ⟨v, hv, n, hn, (hl' _).mp ((hl _).mpr hboth)⟩
    | proposerSlashing event' => exact absurd hkey' (index_ne_strSet he' l)
  | proposerSlashing event =>
    cases e' with
    | head event' | chainReorg event' =>
      obtain ⟨digits, hroot⟩ := he'
      exact absurd (hkey.symm.trans hroot) (index_ne_root he)
    | attesterSlashing event' =>
      obtain ⟨l, -, hstr⟩ := hprint _ _ (List.forall_mem_append.mpr he')
      exact absurd (hkey.symm.trans hstr) (index_ne_strSet he l)
    | proposerSlashing event' =>
      obtain ⟨v, hv, n, hn, hindex⟩ := h
      have hsame : event'.signedHeader1ProposerIndex = event.signedHeader1ProposerIndex := hkey
      exact ⟨v, hv, n, hn, hsame.trans hindex⟩

/-! ### What is dispatched -/

/-- Whoever is not for an old slot has its tasks created, or those of an arrival with its
key are. -/
lemma dispatched_key {as : List Arrival} :
    (∀ b ∈ as, ¬ b.old → ∃ a ∈ as, c.key a.event = c.key b.event ∧
      ∀ o ∈ c.tasks a, o ∈ (c.handleEvents as).2) ∧
    ∀ p ∈ logged (c.handleEvents as).2, ∃ a ∈ as, c.key a.event = p.2 ∧
      ∀ o ∈ c.tasks a, o ∈ (c.handleEvents as).2 := by
  induction as using List.reverseRecOn with
  | nil => exact ⟨by simp, by simp [handleEvents, logged]⟩
  | append_singleton as a ih =>
    obtain ⟨hmem, hlogged⟩ := ih
    have hgrow : ∀ {k : String}, (∃ b ∈ as, c.key b.event = k ∧
        ∀ o ∈ c.tasks b, o ∈ (c.handleEvents as).2) →
        ∃ b ∈ as ++ [a], c.key b.event = k ∧
          ∀ o ∈ c.tasks b, o ∈ (c.handleEvents (as ++ [a])).2 := by
      rintro k ⟨b, hb, hk, htasks⟩
      refine ⟨b, List.mem_append_left _ hb, hk, fun o ho => ?_⟩
      rw [handleEvents_snoc]
      exact List.mem_append_left _ (htasks o ho)
    by_cases hseen : a.old ∨ c.key a.event ∈ (c.handleEvents as).1.items
    · refine ⟨fun b hb hold => ?_, fun p hp => ?_⟩
      · rcases List.mem_append.mp hb with hb | hb
        · exact hgrow (hmem b hb hold)
        · obtain rfl := List.mem_singleton.mp hb
          -- its key is in the queue, so it was logged
          have hk := hseen.resolve_left hold
          rw [keys_handleEvents, Lib.BoundedQueue.items_window] at hk
          obtain ⟨p, hp, hpk⟩ := List.mem_map.mp (Lib.BoundedQueue.mem_of_mem_rtake hk)
          rw [← hpk]
          exact hgrow (hlogged p hp)
      · rw [handleEvents_snoc, logged_append, logged_handleEvent, if_pos hseen,
          List.append_nil] at hp
        exact hgrow (hlogged p hp)
    · have hnew : (c.handleEvent (c.handleEvents as).1 a).2 =
          .logged a.event.type (c.key a.event) :: c.tasks a := by
        rw [handleEvent_eq, if_neg hseen]
      have hself : ∃ b ∈ as ++ [a], c.key b.event = c.key a.event ∧
          ∀ o ∈ c.tasks b, o ∈ (c.handleEvents (as ++ [a])).2 := by
        refine ⟨a, by simp, rfl, fun o ho => ?_⟩
        rw [handleEvents_snoc, hnew]
        exact List.mem_append_right _ (List.mem_cons_of_mem _ ho)
      refine ⟨fun b hb hold => ?_, fun p hp => ?_⟩
      · rcases List.mem_append.mp hb with hb | hb
        · exact hgrow (hmem b hb hold)
        · obtain rfl := List.mem_singleton.mp hb
          exact hself
      · rw [handleEvents_snoc, logged_append, logged_handleEvent, if_neg hseen] at hp
        rcases List.mem_append.mp hp with hp | hp
        · exact hgrow (hlogged p hp)
        · obtain rfl := List.mem_singleton.mp hp
          exact hself

lemma event_of_mem_tasks {a : Arrival} {h : String} {e : BeaconNodeEvent} {node : Option Host}
    (hm : .createTask h e node ∈ c.tasks a) : a.event = e := by
  obtain ⟨event, node', slot⟩ := a
  cases event with
  | head event | chainReorg event | attesterSlashing event | proposerSlashing event =>
    obtain ⟨h', -, he⟩ := List.mem_map.mp hm
    exact (Output.createTask.inj he).2.1

/-- A task is one of an arrival. -/
lemma sent_of_task {as : List Arrival} {h : String} {e : BeaconNodeEvent} {node : Option Host}
    (hm : .createTask h e node ∈ (c.handleEvents as).2) : ∃ a ∈ as, a.event = e := by
  induction as using List.reverseRecOn with
  | nil => simp [handleEvents] at hm
  | append_singleton as a ih =>
    rw [handleEvents_snoc] at hm
    rcases List.mem_append.mp hm with hm | hm
    · obtain ⟨b, hb, he⟩ := ih hm
      exact ⟨b, List.mem_append_left _ hb, he⟩
    · refine ⟨a, by simp, ?_⟩
      rw [handleEvent_eq] at hm
      split_ifs at hm with hseen
      · simp at hm
      · rcases List.mem_cons.mp hm with hm | hm
        · cases hm
        · exact event_of_mem_tasks hm

/-! ### Running the tasks -/

/-- The handler raises for an event that is no slashing. -/
def handleSlashingEvent (int : String → Option ℤ) (s : State) : BeaconNodeEvent → State
  | .attesterSlashing event => step int s (.attesterSlashing event)
  | .proposerSlashing event => step int s (.proposerSlashing event)
  | .head _ | .chainReorg _ => s

/-- The handler of the tracker does not wait for anything, so each of its tasks is one step.
The other handlers leave the tracker alone. -/
def runTask (int : String → Option ℤ) (s : State) : Output → State
  | .createTask handler event _ =>
    if handler = "handle_slashing_event" then handleSlashingEvent int s event else s
  | .logged _ _ => s

/-- A task of the handler whose event is a slashing of ours. -/
def Detects (s : State) : Output → Prop
  | .createTask h e _ => h = "handle_slashing_event" ∧ Slashes s e
  | .logged _ _ => False

/-- The event of a task is in its canonical form. -/
def CanonicalTask : Output → Prop
  | .createTask _ e _ => Canonical e
  | .logged _ _ => True

lemma detect_iff {s : State} {slashed : List ℤ} : (s.detect slashed).slashingDetected = true ↔
    s.slashingDetected = true ∨ ∃ i ∈ slashed, i ∈ s.activeOrPendingIndices := by
  unfold State.detect
  split_ifs with h
  · exact ⟨fun _ => .inr h, fun _ => rfl⟩
  · exact ⟨.inl, fun h' => h'.resolve_right h⟩

lemma mem_activeOrPendingIndices {s : State} {i : ℤ} : i ∈ s.activeOrPendingIndices ↔
    ∃ v ∈ s.activeValidators ++ s.pendingValidators, v.index = i := List.mem_map

/-- The indices of canonical strings. -/
lemma mapM_index (hint : ∀ n : ℕ, int (toString n) = some (n : ℤ)) {l : List String}
    (hl : ∀ i ∈ l, Index i) : ∃ l', l.mapM int = some l' ∧
      ∀ x, x ∈ l' ↔ ∃ n : ℕ, x = n ∧ toString n ∈ l := by
  induction l with
  | nil => exact ⟨[], rfl, by simp⟩
  | cons i l ih =>
    obtain ⟨l', hl', hmem⟩ := ih fun j hj => hl j (List.mem_cons_of_mem _ hj)
    obtain ⟨n, rfl⟩ := hl i List.mem_cons_self
    have hcons : (toString n :: l).mapM int = some ((n : ℤ) :: l') := by
      rw [List.mapM_cons, hint, hl']
      rfl
    refine ⟨n :: l', hcons, fun x => ?_⟩
    rw [List.mem_cons, hmem]
    constructor
    · rintro (rfl | ⟨m, rfl, hm⟩)
      · exact ⟨n, rfl, List.mem_cons_self⟩
      · exact ⟨m, rfl, List.mem_cons_of_mem _ hm⟩
    · rintro ⟨m, rfl, hm⟩
      rcases List.mem_cons.mp hm with he | hm
      · have hint' := hint m
        rw [he, hint n] at hint'
        exact .inl (Option.some.inj hint').symm
      · exact .inr ⟨m, rfl, hm⟩

lemma attesterSlashing_iff (hint : ∀ n : ℕ, int (toString n) = some (n : ℤ)) {s : State}
    {event : AttesterSlashingEvent} (he : Canonical (.attesterSlashing event)) :
    (step int s (.attesterSlashing event)).slashingDetected = true ↔
      s.slashingDetected = true ∨ Slashes s (.attesterSlashing event) := by
  obtain ⟨l1, h1, hmem1⟩ := mapM_index hint he.1
  obtain ⟨l2, h2, hmem2⟩ := mapM_index hint he.2
  have hslashed : State.slashedIndices int event = some (l1.filter (· ∈ l2)) := by
    simp [State.slashedIndices, h1, h2]
  simp only [step, State.handleAttesterSlashing, hslashed, detect_iff]
  refine or_congr_right ⟨?_, ?_⟩
  · rintro ⟨i, hi, hours⟩
    obtain ⟨v, hv, rfl⟩ := mem_activeOrPendingIndices.mp hours
    obtain ⟨hi1, hi2⟩ := List.mem_filter.mp hi
    obtain ⟨n, hn, hn1⟩ := (hmem1 _).mp hi1
    obtain ⟨m, hm, hm2⟩ := (hmem2 _).mp (of_decide_eq_true hi2)
    obtain rfl : n = m := by omega
    exact ⟨v, hv, n, hn, hn1, hm2⟩
  · rintro ⟨v, hv, n, hn, hn1, hn2⟩
    refine ⟨v.index, List.mem_filter.mpr ⟨(hmem1 _).mpr ⟨n, hn, hn1⟩, ?_⟩,
      mem_activeOrPendingIndices.mpr ⟨v, hv, rfl⟩⟩
    exact decide_eq_true ((hmem2 _).mpr ⟨n, hn, hn2⟩)

lemma proposerSlashing_iff (hint : ∀ n : ℕ, int (toString n) = some (n : ℤ)) {s : State}
    {event : ProposerSlashingEvent} (he : Canonical (.proposerSlashing event)) :
    (step int s (.proposerSlashing event)).slashingDetected = true ↔
      s.slashingDetected = true ∨ Slashes s (.proposerSlashing event) := by
  obtain ⟨n, hn⟩ := he
  have hslashed : int event.signedHeader1ProposerIndex = some (n : ℤ) := by rw [hn, hint]
  simp only [step, State.handleProposerSlashing, hslashed, detect_iff]
  refine or_congr_right ⟨?_, ?_⟩
  · rintro ⟨i, hi, hours⟩
    obtain rfl := List.mem_singleton.mp hi
    obtain ⟨v, hv, hindex⟩ := mem_activeOrPendingIndices.mp hours
    exact ⟨v, hv, n, hindex, hn⟩
  · rintro ⟨v, hv, m, hm, hm'⟩
    have hint' := hint m
    rw [← hm', hslashed] at hint'
    have hnm : (n : ℤ) = m := Option.some.inj hint'
    exact ⟨n, by simp, mem_activeOrPendingIndices.mpr ⟨v, hv, hm.trans hnm.symm⟩⟩

lemma runTask_iff (hint : ∀ n : ℕ, int (toString n) = some (n : ℤ)) {s : State} {o : Output}
    (ho : CanonicalTask o) :
    (runTask int s o).slashingDetected = true ↔ s.slashingDetected = true ∨ Detects s o := by
  cases o with
  | logged type key => simp [runTask, Detects]
  | createTask handler event node =>
    by_cases hh : handler = "handle_slashing_event"
    · simp only [runTask, Detects, hh, if_true, true_and]
      cases event with
      | head event => simp [handleSlashingEvent, Slashes]
      | chainReorg event => simp [handleSlashingEvent, Slashes]
      | attesterSlashing event => exact attesterSlashing_iff hint ho
      | proposerSlashing event => exact proposerSlashing_iff hint ho
    · simp [runTask, Detects, hh]

lemma detect_lists (s : State) (slashed : List ℤ) :
    (s.detect slashed).activeValidators = s.activeValidators ∧
      (s.detect slashed).pendingValidators = s.pendingValidators := by
  unfold State.detect
  split_ifs
  · exact ⟨rfl, rfl⟩
  · exact ⟨rfl, rfl⟩

lemma runTask_lists (s : State) (o : Output) :
    (runTask int s o).activeValidators = s.activeValidators ∧
      (runTask int s o).pendingValidators = s.pendingValidators := by
  cases o with
  | logged type key => exact ⟨rfl, rfl⟩
  | createTask handler event node =>
    by_cases hh : handler = "handle_slashing_event"
    · simp only [runTask, if_pos hh]
      cases event with
      | head event | chainReorg event => exact ⟨rfl, rfl⟩
      | attesterSlashing event =>
        simp only [handleSlashingEvent, step, State.handleAttesterSlashing]
        split
        · exact detect_lists _ _
        · exact ⟨rfl, rfl⟩
      | proposerSlashing event =>
        simp only [handleSlashingEvent, step, State.handleProposerSlashing]
        split
        · exact detect_lists _ _
        · exact ⟨rfl, rfl⟩
    · have hsame : runTask int s (.createTask handler event node) = s := if_neg hh
      rw [hsame]
      exact ⟨rfl, rfl⟩

lemma slashes_congr {s s' : State} (ha : s'.activeValidators = s.activeValidators)
    (hp : s'.pendingValidators = s.pendingValidators) (e : BeaconNodeEvent) :
    Slashes s' e ↔ Slashes s e := by
  cases e <;> simp only [Slashes, ha, hp]

/-- The flag after tasks were run one after the other. -/
lemma runTasks_iff (hint : ∀ n : ℕ, int (toString n) = some (n : ℤ)) {s : State}
    {ts : List Output} (hts : ∀ o ∈ ts, CanonicalTask o) :
    (ts.foldl (runTask int) s).slashingDetected = true ↔
      s.slashingDetected = true ∨ ∃ o ∈ ts, Detects s o := by
  induction ts generalizing s with
  | nil => simp
  | cons o ts ih =>
    obtain ⟨ha, hp⟩ : (runTask int s o).activeValidators = s.activeValidators ∧
        (runTask int s o).pendingValidators = s.pendingValidators := runTask_lists s o
    have hsame : ∀ o', Detects (runTask int s o) o' ↔ Detects s o' := fun o' => by
      cases o' with
      | logged type key => exact Iff.rfl
      | createTask handler event node => exact and_congr_right fun _ => slashes_congr ha hp event
    rw [List.foldl_cons, ih fun o' ho' => hts o' (List.mem_cons_of_mem _ ho'),
      runTask_iff hint (hts o List.mem_cons_self)]
    simp only [hsame, List.mem_cons, exists_eq_or_imp, or_assoc]

/-! ### Main result -/

/-- A slashing has no slot that could be old. -/
lemma not_old_of_slashes {s : State} {a : Arrival} (h : Slashes s a.event) : ¬ a.old := by
  obtain ⟨event, node, slot⟩ := a
  cases event with
  | head event => exact h.elim
  | chainReorg event => exact h.elim
  | attesterSlashing event | proposerSlashing event =>
    rintro ⟨slot', hslot, -⟩
    simp [BeaconNodeEvent.slot] at hslot

/-- **De-duplication hides no slashing.** Once the tasks that a stream of events created have
run, in whatever order, the flag is up if and only if it was up before or the stream has a
slashing of an active or pending validator; and no step of the tracker lowers it. -/
theorem slashing_detected_iff {s : State} {as : List Arrival} {ts : List Output}
    (hint : ∀ n : ℕ, int (toString n) = some (n : ℤ)) (hprint : PrintsSets c.strIntersection)
    (hhandler : "handle_slashing_event" ∈ c.slashingEventHandlers)
    (hcanon : ∀ a ∈ as, Canonical a.event) (hts : ts.Perm (c.handleEvents as).2) :
    ((ts.foldl (runTask int) s).slashingDetected = true ↔
      s.slashingDetected = true ∨ ∃ a ∈ as, Slashes s a.event) ∧
    ∀ (s : State) (a : Action), s.slashingDetected = true →
      (step int s a).slashingDetected = true := by
  refine ⟨?_, fun s a h => slashingDetected_step a h⟩
  have htasks : ∀ o ∈ ts, CanonicalTask o := by
    intro o ho
    cases o with
    | logged type key => trivial
    | createTask handler event node =>
      obtain ⟨a, ha, rfl⟩ := sent_of_task (hts.mem_iff.mp ho)
      exact hcanon a ha
  rw [runTasks_iff hint htasks]
  refine or_congr_right ⟨?_, ?_⟩
  · rintro ⟨o, ho, hdetects⟩
    cases o with
    | logged type key => exact hdetects.elim
    | createTask handler event node =>
      obtain ⟨a, ha, rfl⟩ := sent_of_task (hts.mem_iff.mp ho)
      exact ⟨a, ha, hdetects.2⟩
  · rintro ⟨a, ha, hslashes⟩
    obtain ⟨b, hb, hkey, hcreated⟩ := dispatched_key.1 a ha (not_old_of_slashes hslashes)
    have hb' := slashes_of_key hprint (hcanon a ha) (hcanon b hb) hkey hslashes
    have htype : "handle_slashing_event" ∈ c.handlers b.event.type := by
      cases hevent : b.event with
      | head event => rw [hevent] at hb'; exact hb'.elim
      | chainReorg event => rw [hevent] at hb'; exact hb'.elim
      | attesterSlashing event | proposerSlashing event => exact hhandler
    exact ⟨_, hts.mem_iff.mpr (hcreated _ (c.mem_tasks htype)), rfl, hb'⟩

/-- Two nodes and the handler of the tracker. -/
def twoNodes : EventConsumerService where
  beaconNodes := ["a", "b"]
  headEventHandlers := []
  reorgEventHandlers := []
  slashingEventHandlers := ["handle_slashing_event"]
  strIntersection a b := strSet (a.filter (· ∈ b)).dedup

lemma printsSets_twoNodes : PrintsSets twoNodes.strIntersection := by
  intro a b _
  exact ⟨_, fun i => by simp, rfl⟩

/-- One slashing of validator 7, as two nodes see it: in one attestation of the second node
another validator takes part. -/
def seenTwice : List Arrival :=
  [⟨.attesterSlashing ⟨["1", "7"], ["7"]⟩, "a", 64⟩,
    ⟨.attesterSlashing ⟨["7", "1"], ["9", "7"]⟩, "b", 64⟩]

theorem slashing_detected_iff_seenTwice :
    ((twoNodes.handleEvents seenTwice).2.foldl (runTask decimal)
      ⟨false, [⟨7, "0xa"⟩], []⟩).slashingDetected = true := by
  have hindex : ∀ a ∈ seenTwice, Canonical a.event := by
    have h1 : Index "1" := ⟨1, rfl⟩
    have h7 : Index "7" := ⟨7, rfl⟩
    have h9 : Index "9" := ⟨9, rfl⟩
    simp [seenTwice, Canonical, h1, h7, h9]
  refine (slashing_detected_iff decimal_toString printsSets_twoNodes List.mem_cons_self hindex
    (List.Perm.refl _)).1.mpr (.inr ⟨_, List.mem_cons_self, ⟨7, "0xa"⟩, by simp, 7, rfl, ?_⟩)
  exact ⟨by decide, by decide⟩

end Vero.SlashingEvents
