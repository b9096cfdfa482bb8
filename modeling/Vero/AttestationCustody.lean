import Vero.AttestationPipeline
import Vero.Lib.Chains

/-!
The chain of custody of the attestations of a slot.

What happens for one slot is the beginning of one round: one attestation data, each duty of the
slot asked for one signature of it, and one publication of what came back.
-/

namespace Vero.AttestationService

open Lib Lib.Runs Lib.Chains SchemaBeaconAPI SchemaRemoteSigner
open Keymanager (Signed)

/-! ### What happened for a slot -/

def requests (l : List Custody) : List AttesterDutyWithSelectionProof :=
  l.filterMap fun
    | .signatureRequested duty _ => some duty
    | _ => none

def completions (l : List Custody) :
    List (AttesterDutyWithSelectionProof × Except String (Signed AttestationSignableMessage)) :=
  l.filterMap fun
    | .signatureCompleted duty answer => some (duty, answer)
    | _ => none

/-- The tasks of the duties at work: each asks once for a signature of the data, and comes back
once after that. -/
inductive Gathering (attData : AttestationData) (duties : List AttesterDutyWithSelectionProof) :
    List Custody → Prop
  | nil : Gathering attData duties []
  | request {l : List Custody} (duty : AttesterDutyWithSelectionProof)
      (before : Gathering attData duties l) (mem : duty ∈ duties) (new : duty ∉ requests l) :
      Gathering attData duties (l ++ [.signatureRequested duty attData])
  | complete {l : List Custody} (duty : AttesterDutyWithSelectionProof)
      (answer : Except String (Signed AttestationSignableMessage))
      (before : Gathering attData duties l) (requested : duty ∈ requests l)
      (new : duty ∉ (completions l).map Prod.fst) (returns : Returns attData duty answer) :
      Gathering attData duties (l ++ [.signatureCompleted duty answer])

def preparation (attData : AttestationData) (duties : List AttesterDutyWithSelectionProof) :
    List Custody :=
  [.started, .produced attData, .aggregationScheduled (duties.filter fun d => d.isAggregator)]

/-- What happened is the beginning of one round of attestations, with duties of the slot. -/
inductive Attested (slot : ℤ) : List Custody → Prop
  | nothing : Attested slot []
  | started : Attested slot [.started]
  | signing (attData : AttestationData) (duties : List AttesterDutyWithSelectionProof)
      (l : List Custody) (own : ∀ d ∈ duties, d.slot = slot) (nodup : duties.Nodup)
      (tasks : Gathering attData duties l) : Attested slot (preparation attData duties ++ l)
  | published (attData : AttestationData) (duties : List AttesterDutyWithSelectionProof)
      (l : List Custody) (own : ∀ d ∈ duties, d.slot = slot) (nodup : duties.Nodup)
      (tasks : Gathering attData duties l) (all : ((completions l).map Prod.fst).Perm duties) :
      Attested slot (preparation attData duties ++ l ++
        [.published (attestations attData duties (completions l))])

variable {c : Context} {now : Moment} {s s' : State} {a : Action} {o os : List Output}
variable {p p' : Pipeline} {es new : List (ℤ × Custody)} {l tail : List Custody} {slot : ℤ}
variable {attData : AttestationData} {duties : List AttesterDutyWithSelectionProof}
variable {duty : AttesterDutyWithSelectionProof} {id : ℕ} {r : AttestRun} {k : Collection}
variable {answer : Except String (Signed AttestationSignableMessage)}

/-! ### The tasks -/

lemma requests_requested : requests (l ++ [.signatureRequested duty attData]) =
    requests l ++ [duty] := List.filterMap_append

lemma requests_completed : requests (l ++ [.signatureCompleted duty answer]) = requests l := by
  simp [requests]

lemma completions_requested : completions (l ++ [.signatureRequested duty attData]) =
    completions l := by
  simp [completions]

lemma completions_completed : completions (l ++ [.signatureCompleted duty answer]) =
    completions l ++ [(duty, answer)] := List.filterMap_append

lemma Gathering.mem_of_requests (h : Gathering attData duties l) :
    ∀ d ∈ requests l, d ∈ duties := by
  induction h with
  | nil => simp [requests]
  | request duty _ mem _ ih =>
    rw [requests_requested]
    exact List.forall_mem_append.mpr ⟨ih, by simpa using mem⟩
  | complete duty answer _ _ _ _ ih => rwa [requests_completed]

/-- Whoever came back had asked. -/
lemma Gathering.mem_of_completions (h : Gathering attData duties l) :
    ∀ d ∈ (completions l).map Prod.fst, d ∈ requests l := by
  induction h with
  | nil => simp [completions]
  | request duty _ _ _ ih =>
    rw [completions_requested, requests_requested]
    exact fun d hd => List.mem_append_left _ (ih d hd)
  | complete duty answer _ requested _ _ ih =>
    rw [requests_completed, completions_completed, List.map_append]
    exact List.forall_mem_append.mpr ⟨ih, by simpa using requested⟩

lemma Gathering.nodup_completions (h : Gathering attData duties l) :
    ((completions l).map Prod.fst).Nodup := by
  induction h with
  | nil => exact List.nodup_nil
  | request duty _ _ _ ih => rwa [completions_requested]
  | complete duty answer _ _ new _ ih =>
    rw [completions_completed, List.map_append]
    exact ih.append (List.nodup_singleton _) (List.disjoint_singleton.mpr new)

/-- When as many have come back as there are duties, all have. -/
lemma Gathering.perm (h : Gathering attData duties l)
    (hlength : ((completions l).map Prod.fst).length = duties.length) :
    ((completions l).map Prod.fst).Perm duties := by
  have hsub : ∀ d ∈ (completions l).map Prod.fst, d ∈ duties := fun d hd =>
    h.mem_of_requests d (h.mem_of_completions d hd)
  exact (List.subperm_of_subset h.nodup_completions hsub).perm_of_length_le hlength.ge

lemma attestations_append (completed completed' : List (AttesterDutyWithSelectionProof ×
    Except String (Signed AttestationSignableMessage))) :
    attestations attData duties (completed ++ completed') =
      attestations attData duties completed ++ attestations attData duties completed' :=
  List.filterMap_append

/-! ### What a run knows -/

/-- A run, with what it collected, and what happened for its slot. -/
inductive Holds : AttestRun × Option Collection → List Custody → Prop
  | started (r : AttestRun) (k : Option Collection) (data : r.attData = none)
      (own : ∀ d ∈ r.duties, d.slot = r.slot) : Holds (r, k) [.started]
  | gathering (r : AttestRun) (k : Collection) (attData : AttestationData) (l tail : List Custody)
      (data : r.attData = some attData) (phase : r.phase ≠ .producing)
      (order : k.duties.toFinset = r.duties) (nodup : k.duties.Nodup)
      (own : ∀ d ∈ k.duties, d.slot = r.slot) (tasks : Gathering attData k.duties l)
      (unsigned : ∀ d, d ∈ r.unsigned ↔ d ∈ k.duties ∧ d ∉ requests l)
      (completed : (completions l).map Prod.fst = k.completed)
      (signed : k.signedAttestations = attestations attData k.duties (completions l))
      (published : tail = [] ∨ k.completed.length = k.duties.length ∧
        tail = [.published k.signedAttestations]) :
      Holds (r, some k) (preparation attData k.duties ++ l ++ tail)

lemma Holds.attested {t : AttestRun × Option Collection} (h : Holds t l) :
    Attested t.1.slot l := by
  cases h with
  | started => exact .started
  | gathering r k attData l tail data phase order nodup own tasks unsigned completed signed
      published =>
    rcases published with rfl | ⟨hlength, rfl⟩
    · rw [List.append_nil]
      exact .signing attData k.duties l own nodup tasks
    · rw [signed]
      refine .published attData k.duties l own nodup tasks (tasks.perm ?_)
      rw [completed, hlength]

/-- A run that ends stays as it is otherwise. -/
lemma Holds.ended {k : Option Collection} (h : Holds (r, k) l) :
    Holds ({ r with phase := .ended }, k) l := by
  cases h with
  | started _ _ data own => exact .started _ _ data own
  | gathering r k attData l tail data phase order nodup own tasks unsigned completed signed
      published =>
    exact .gathering { r with phase := .ended } k attData l tail data (by simp) order nodup own
      tasks unsigned completed signed published

/-! ### What a step keeps -/

/-- Every run knows what happened for its slot. -/
def account : Account ℤ Custody (AttestRun × Option Collection) where
  key t := t.1.slot
  active _ := True
  Holds := Holds
  Whole := Attested
  whole_nil _ := .nothing
  whole_of_holds _ _ h := h.attested

def Pipeline.holders (p : Pipeline) (id : ℕ) : Option (AttestRun × Option Collection) :=
  (p.service.attestRuns.get id).map fun r => (r, p.collections.get id)

def Kept (p : Pipeline) (es : List (ℤ × Custody)) : Prop :=
  account.Kept p.service.lastSlotDutyStartedFor p.holders es

lemma kept_init (duties : Dict ℤ Duties) (roots : Dict ℤ Root) : Kept (.init duties roots) [] :=
  Account.Kept.nil fun _ => rfl

lemma Kept.holds (h : Kept p es) (get : p.service.attestRuns.get id = some r) :
    Holds (r, p.collections.get id) (chain r.slot es) := by
  have hid : p.holders id = some (r, p.collections.get id) := by
    rw [Pipeline.holders, get]
    rfl
  exact Account.Kept.holds h id _ hid trivial

lemma Kept.same (h : Kept p es) (hlast : s'.lastSlotDutyStartedFor =
    p.service.lastSlotDutyStartedFor) (hruns : s'.attestRuns = p.service.attestRuns) :
    Kept { p with service := s' } es := by
  unfold Kept Pipeline.holders
  dsimp only
  rw [hlast, hruns]
  exact h

/-- A run goes on with the attestations of its slot. -/
lemma Kept.advance (h : Kept p es) (ho : Orderly p.service os) (r' : AttestRun)
    (get : p.service.attestRuns.get id = some r) (hslot : r'.slot = r.slot)
    (hlast : p'.service.lastSlotDutyStartedFor = p.service.lastSlotDutyStartedFor)
    (hruns : ∀ i, p'.service.attestRuns.get i =
      if i = id then some r' else p.service.attestRuns.get i)
    (hcollections : ∀ i, i ≠ id → p'.collections.get i = p.collections.get i)
    (hnew : Holds (r', p'.collections.get id) (chain r.slot es ++ l)) :
    Kept p' (es ++ l.map (Prod.mk r.slot)) := by
  have hid : p'.holders id = some (r', p'.collections.get id) := by
    rw [Pipeline.holders, hruns, if_pos rfl]
    rfl
  have hother : ∀ i, i ≠ id → p'.holders i = p.holders i := fun i hi => by
    rw [Pipeline.holders, hruns, if_neg hi, hcollections i hi]
    rfl
  have hdistinct : ∀ i q, i ≠ id → p.holders i = some q → account.active q →
      account.key q ≠ r.slot := by
    intro i q hi hq _
    obtain ⟨r₁, hr₁, rfl⟩ := Option.map_eq_some_iff.mp hq
    exact ho.slot_ne hr₁ get hi
  have hle : account.key (r, p.collections.get id) ≤ p.service.lastSlotDutyStartedFor :=
    ho.rising.le _ (ho.runs id r get)
  have hkey : account.key (r', p'.collections.get id) = account.key (r, p.collections.get id) :=
    hslot
  unfold Kept
  rw [hlast]
  exact Account.Kept.advance h hle hdistinct hkey hnew hid hother

/-- A run ends. -/
lemma Kept.ended (h : Kept p es) (ho : Orderly p.service os)
    (get : p.service.attestRuns.get id = some r) :
    Kept { p with service := p.service.endAttest id r } (es ++ []) := by
  refine h.advance (l := []) ho { r with phase := .ended } get rfl rfl
    (fun _ => Dict.get_set _ _ _ _) (fun _ _ => rfl) ?_
  rw [List.append_nil]
  exact (h.holds get).ended

/-- An attempt starts a run for a slot for which nothing has happened, or leaves the runs as they
are. -/
lemma Kept.attempt (h : Kept p es) (ho : Orderly p.service os)
    (hattempt : Attempt c now p.service id slot s' o) :
    Kept { p with service := s' } (es ++ o.filterMap begun) := by
  rw [filterMap_begun]
  cases hattempt with
  | refused =>
    rw [starts_nil, List.map_nil, List.append_nil]
    exact h.same rfl rfl
  | idle _ _ hstarts =>
    rw [hstarts, List.map_nil, List.append_nil]
    exact h.same rfl rfl
  | started _ later _ hstarts =>
    rw [hstarts]
    let t : AttestRun × Option Collection :=
      (⟨slot, p.service.dutiesForSlot c slot, .producing, none, ∅⟩, p.collections.get id)
    have hholds : account.Holds t [.started] :=
      .started _ _ rfl fun d hd => (mem_dutiesForSlot.mp hd).2
    have hlater : p.service.lastSlotDutyStartedFor < account.key t := later
    have hstarted : ∀ i q, p.holders i = some q → account.active q →
        account.key q ≤ p.service.lastSlotDutyStartedFor := by
      intro i q hq _
      obtain ⟨r₁, hr₁, rfl⟩ := Option.map_eq_some_iff.mp hq
      exact ho.rising.le _ (ho.runs i r₁ hr₁)
    refine Account.Kept.start h hlater hstarted hholds ?_ fun i (hi : i ≠ id) => ?_
    · unfold Pipeline.holders State.startAttest
      dsimp only
      rw [Dict.get_set, if_pos rfl]
      rfl
    · unfold Pipeline.holders State.startAttest
      dsimp only
      rw [Dict.get_set, if_neg hi]
      rfl

/-- While a task is to ask for its signature, nothing is published. -/
lemma Gathering.length_ne (h : Gathering attData duties l) (hmem : duty ∈ duties)
    (hnew : duty ∉ requests l) : ((completions l).map Prod.fst).length ≠ duties.length := by
  intro hlength
  exact hnew (h.mem_of_completions duty ((h.perm hlength).mem_iff.mpr hmem))

/-- A task asks for its signature. -/
lemma Holds.request {k : Option Collection} (h : Holds (r, k) l) (hdata : r.attData = some attData)
    (hmem : duty ∈ r.unsigned) :
    Holds ({ r with unsigned := r.unsigned.erase duty }, k)
      (l ++ [.signatureRequested duty attData]) := by
  cases h with
  | started _ _ data =>
    rw [hdata] at data
    cases data
  | gathering r k attData' l tail data phase order nodup own tasks unsigned completed signed
      published =>
    obtain rfl : attData' = attData := Option.some.inj (data.symm.trans hdata)
    obtain ⟨hduty, hnew⟩ := (unsigned duty).mp hmem
    have htail : tail = [] := by
      rcases published with htail | ⟨hlength, -⟩
      · exact htail
      · rw [← completed] at hlength
        exact absurd hlength (tasks.length_ne hduty hnew)
    have hunsigned : ∀ d, d ∈ r.unsigned.erase duty ↔
        d ∈ k.duties ∧ d ∉ requests (l ++ [.signatureRequested duty attData']) := by
      intro d
      rw [Finset.mem_erase, unsigned d, requests_requested, List.mem_append, List.mem_singleton]
      tauto
    have hholds := Holds.gathering { r with unsigned := r.unsigned.erase duty } k attData' _ []
      hdata phase order nodup own (tasks.request duty hduty hnew) hunsigned
      (by rw [completions_requested, completed]) (by rw [completions_requested, signed]) (.inl rfl)
    rw [htail]
    simpa using hholds

/-- A task comes back, and the last one that does has the attestations published. -/
lemma Holds.complete (h : Holds (r, some k) l) (hdata : r.attData = some attData)
    (hmem : duty ∈ k.duties) (hasked : duty ∉ r.unsigned) (hnew : duty ∉ k.completed)
    (hreturns : Returns attData duty answer) {k' : Collection}
    (hadd : k.add attData duty answer = .ok k') :
    Holds (r, some k') (l ++ .signatureCompleted duty answer ::
      if k'.completed.length = k'.duties.length then [.published k'.signedAttestations]
      else []) := by
  cases h with
  | started _ _ data =>
    rw [hdata] at data
    cases data
  | gathering _ _ attData' l tail data phase order nodup own tasks unsigned completed signed
      published =>
    obtain rfl : attData' = attData := Option.some.inj (data.symm.trans hdata)
    rw [add_eq hmem hreturns] at hadd
    obtain rfl := Except.ok.inj hadd
    have hrequested : duty ∈ requests l := by
      by_contra hnot
      exact hasked ((unsigned duty).mpr ⟨hmem, hnot⟩)
    have htail : tail = [] := by
      rcases published with htail | ⟨hlength, -⟩
      · exact htail
      · rw [← completed] at hlength hnew
        exact absurd ((tasks.perm hlength).mem_iff.mpr hmem) hnew
    have htasks := tasks.complete duty answer hrequested (completed ▸ hnew) hreturns
    have hcompleted : (completions (l ++ [.signatureCompleted duty answer])).map Prod.fst =
        k.completed ++ [duty] := by
      rw [completions_completed, List.map_append, completed]
      rfl
    have hsigned : k.signedAttestations ++ attestations attData' k.duties [(duty, answer)] =
        attestations attData' k.duties (completions (l ++ [.signatureCompleted duty answer])) := by
      rw [completions_completed, attestations_append, signed]
    have hholds (tail : List Custody) := Holds.gathering r { k with
      completed := k.completed ++ [duty]
      signedAttestations :=
        k.signedAttestations ++ attestations attData' k.duties [(duty, answer)] } attData'
      (l ++ [.signatureCompleted duty answer]) tail data phase order nodup own htasks
      (by rwa [requests_completed]) hcompleted hsigned
    rw [htail, List.append_nil]
    split
    · next hlength => simpa using hholds _ (.inr ⟨hlength, rfl⟩)
    · simpa using hholds _ (.inl rfl)

lemma kept_service (h : Kept p es) (ho : Orderly p.service os)
    (ha : ∀ id attData, a ≠ .attestationData id attData)
    (hs : step c now p.service a = some (s', o)) :
    Kept { p with service := s' } (es ++ ((asked p.service a).toList ++ o.filterMap begun)) := by
  by_cases hu : a.updates
  · obtain ⟨hlast, -, hruns, hstarts, -⟩ := update_frame hu hs
    rw [asked_of_updates hu, filterMap_begun, hstarts]
    simpa using h.same hlast hruns
  · cases transition_of_step hu hs with
    | onNewSlot slot =>
      have hkept : Kept { p with service := p.service.onNewSlot slot } es := h.same rfl rfl
      rw [← List.append_nil es] at hkept
      exact hkept
    | lateHeadEvent id event => simpa [asked] using h
    | handleHeadEvent id event => exact h.attempt ho (attempt_of_eq rfl rfl)
    | deadlineJob id slot => exact h.attempt ho (attempt_of_eq rfl rfl)
    | produced id _ attData | refused id _ attData => exact absurd rfl (ha id attData)
    | requestSignature id r duty _ get mem =>
      obtain ⟨attData, hdata⟩ : ∃ attData, r.attData = some attData := by
        refine Option.ne_none_iff_exists'.mp fun hnone => ?_
        simp [step, get, State.requestSignature, hnone] at hs
      have hasked : asked p.service (.requestSignature id duty) =
          some (r.slot, .signatureRequested duty attData) := by
        simp [asked, get, hdata]
      rw [hasked]
      exact h.advance (l := [.signatureRequested duty attData]) ho
        { r with unsigned := r.unsigned.erase duty } get rfl rfl
        (fun _ => Dict.get_set _ _ _ _) (fun _ _ => rfl) ((h.holds get).request hdata mem)
    | attestEnded id r get => exact h.ended ho get

/-- A run that awaits its data has only been started. -/
lemma Holds.producing {k : Option Collection} (h : Holds (r, k) l) (hphase : r.phase = .producing) :
    l = [.started] ∧ ∀ d ∈ r.duties, d.slot = r.slot := by
  cases h with
  | started _ _ _ own => exact ⟨rfl, own⟩
  | gathering _ _ _ _ _ _ phase => exact absurd hphase phase

lemma kept_dataProduced (h : Kept p es) (ho : Orderly p.service os)
    (get : p.service.attestRuns.get id = some r)
    (hs : dataProduced c now p id attData duties r = some (p', new)) : Kept p' (es ++ new) := by
  obtain ⟨hphase, hnodup, hduties, -, ⟨rfl, rfl⟩ | ⟨rfl, rfl⟩⟩ := eq_of_dataProduced get hs
  · exact h.ended ho get
  · obtain ⟨hstarted, hown⟩ := (h.holds get).producing hphase
    have hholds := Holds.gathering
      { r with phase := .signing, attData := some attData, unsigned := r.duties }
      ⟨duties, [], []⟩ attData [] [] rfl (by simp) hduties hnodup
      (fun d hd => hown d (hduties ▸ List.mem_toFinset.mpr hd)) .nil
      (fun d => by simp [← hduties, requests]) rfl rfl (.inl rfl)
    refine h.advance (l := [.produced attData,
      .aggregationScheduled (duties.filter fun d => d.isAggregator)]) ho
      { r with phase := .signing, attData := some attData, unsigned := r.duties } get rfl rfl
      (fun _ => Dict.get_set _ _ _ _) (fun i hi => ?_) ?_
    · dsimp only
      rw [Dict.get_set, if_neg hi]
    · dsimp only
      rw [Dict.get_set, if_pos rfl, hstarted]
      simpa [preparation] using hholds

lemma kept_collected (h : Kept p es) (ho : Orderly p.service os)
    (get : p.service.attestRuns.get id = some r) (hk : p.collections.get id = some k)
    (hdata : r.attData = some attData)
    (hs : collected p id duty answer r k attData = some (p', new)) : Kept p' (es ++ new) := by
  obtain ⟨hmem, hasked, hnew, hreturns, k', hadd, rfl, rfl⟩ := eq_of_collected hs
  have hold := h.holds get
  rw [hk] at hold
  have hholds := hold.complete hdata hmem hasked hnew hreturns hadd
  have hruns : ∀ i, p.service.attestRuns.get i =
      if i = id then some r else p.service.attestRuns.get i := by
    intro i
    split_ifs with hi
    · rw [hi, get]
    · rfl
  have hcollections : ∀ i, i ≠ id → (p.collections.set id k').get i = p.collections.get i :=
    fun i hi => by rw [Dict.get_set, if_neg hi]
  have hid : (p.collections.set id k').get id = some k' := by rw [Dict.get_set, if_pos rfl]
  rw [← hid] at hholds
  have hkept : Kept ⟨p.service, p.collections.set id k'⟩ _ :=
    h.advance ho r get rfl rfl hruns hcollections hholds
  rw [List.map_cons] at hkept
  split_ifs at hkept ⊢ <;> exact hkept

/-- **Every step keeps the accounts.** -/
lemma kept_step (h : Kept p es) (ho : Orderly p.service os) {a : PipelineAction}
    (hs : pipelineStep c now p a = some (p', new)) : Kept p' (es ++ new) := by
  cases a with
  | service a =>
    by_cases ha : ∀ id attData, a ≠ .attestationData id attData
    · obtain ⟨s', o, hservice, rfl, rfl⟩ := eq_of_service ha hs
      exact kept_service h ho ha hservice
    · push Not at ha
      obtain ⟨id, attData, rfl⟩ := ha
      cases hs
  | attestationData id attData duties =>
    obtain ⟨r, get, hs⟩ := Option.bind_eq_some_iff.mp hs
    exact kept_dataProduced h ho get hs
  | signatureCompleted id duty answer =>
    obtain ⟨r, get, hs⟩ := Option.bind_eq_some_iff.mp hs
    obtain ⟨k, hk, hs⟩ := Option.bind_eq_some_iff.mp hs
    obtain ⟨attData, hdata, hs⟩ := Option.bind_eq_some_iff.mp hs
    exact kept_collected h ho get hk hdata hs

/-! ### What is published -/

lemma Gathering.mem_of_mem_requests (h : Gathering attData duties l) {d}
    (hd : d ∈ requests l) : .signatureRequested d attData ∈ l := by
  induction h with
  | nil => simp [requests] at hd
  | request duty _ _ _ ih =>
    rw [requests_requested, List.mem_append, List.mem_singleton] at hd
    rcases hd with hd | rfl
    · exact List.mem_append_left _ (ih hd)
    · simp
  | complete duty answer _ _ _ _ ih =>
    rw [requests_completed] at hd
    exact List.mem_append_left _ (ih hd)

lemma Gathering.returns (h : Gathering attData duties l) {x} (hx : x ∈ completions l) :
    .signatureCompleted x.1 x.2 ∈ l ∧ Returns attData x.1 x.2 := by
  induction h with
  | nil => simp [completions] at hx
  | request duty _ _ _ ih =>
    rw [completions_requested] at hx
    exact ⟨List.mem_append_left _ (ih hx).1, (ih hx).2⟩
  | complete duty answer _ _ _ returns ih =>
    rw [completions_completed, List.mem_append, List.mem_singleton] at hx
    rcases hx with hx | rfl
    · exact ⟨List.mem_append_left _ (ih hx).1, (ih hx).2⟩
    · exact ⟨by simp, returns⟩

lemma Gathering.published_notMem (h : Gathering attData duties l)
    (signedAttestations : List SingleAttestation) : .published signedAttestations ∉ l := by
  induction h with
  | nil => simp
  | request _ _ _ _ ih | complete _ _ _ _ _ _ ih => simpa using ih

/-- Where something is published, all of a round has happened. -/
lemma Attested.complete (h : Attested slot l) {signedAttestations : List SingleAttestation}
    (hm : .published signedAttestations ∈ l) : ∃ attData duties tasks,
      (∀ d ∈ duties, d.slot = slot) ∧ duties.Nodup ∧ Gathering attData duties tasks ∧
        ((completions tasks).map Prod.fst).Perm duties ∧
        signedAttestations = attestations attData duties (completions tasks) ∧
        l = preparation attData duties ++ tasks ++ [.published signedAttestations] := by
  cases h with
  | nothing | started => simp at hm
  | signing attData duties l own nodup tasks =>
    exact absurd hm (by simp [preparation, tasks.published_notMem])
  | published attData duties l own nodup tasks all =>
    have hsame : signedAttestations = attestations attData duties (completions l) := by
      simpa [preparation, tasks.published_notMem] using hm
    exact ⟨attData, duties, l, own, nodup, tasks, all, hsame, by rw [hsame]⟩

/-- What an attestation is made of. -/
lemma exists_of_mem_attestations (h : Gathering attData duties l) {x : SingleAttestation}
    (hx : x ∈ attestations attData duties (completions l)) :
    ∃ d ∈ duties, ∃ t, .signatureRequested d attData ∈ l ∧ .signatureCompleted d (.ok t) ∈ l ∧
      t.1.attestation = attData ∧ ∃ d' ∈ duties, d'.pubkey = d.pubkey ∧
        x = ⟨d'.committeeIndex, d'.validatorIndex, attData, t.2.1⟩ := by
  obtain ⟨⟨d, answer⟩, hcompleted, hanswer⟩ := List.mem_filterMap.mp hx
  obtain ⟨t, ht, ha⟩ := Option.bind_eq_some_iff.mp hanswer
  obtain rfl : answer = .ok t := by
    cases answer with
    | error e => cases ht
    | ok t' => exact congrArg Except.ok (Option.some.inj ht)
  obtain ⟨hmem, hmessage, hpubkey⟩ := h.returns hcompleted
  have hrequested := h.mem_of_completions d (List.mem_map.mpr ⟨_, hcompleted, rfl⟩)
  refine ⟨d, h.mem_of_requests d hrequested, t, h.mem_of_mem_requests hrequested, hmem,
    hmessage, ?_⟩
  unfold singleAttestation at ha
  split at ha
  · cases ha
  · next d' hd' =>
    obtain ⟨d₁, hd₁, hitem⟩ := List.mem_map.mp (Dict.get_ofList hd')
    obtain ⟨hkey, rfl⟩ := Prod.mk.inj hitem
    exact ⟨d₁, hd₁, hkey.trans hpubkey, (Option.some.inj ha).symm⟩

/-- **The chain of custody of the attestations.** In every interleaving of runs, signatures,
updates and failures, what happens for a slot is the beginning of one round, and all of it has
happened where attestations are published: each has a signature over the one data of the slot, by
a key that has a duty there and was asked once. -/
theorem attestations_of_run {duties : Dict ℤ Duties} {roots : Dict ℤ Root}
    {as : List (Moment × PipelineAction)} (r : Run (traced c) (.init duties roots) as p es) :
    (∃ as' os, Run (moved c) (.init duties roots) as' p.service os ∧
      signed os = es.filterMap requested) ∧
    ∀ slot, Attested slot (chain slot es) ∧
      ∀ signedAttestations, (slot, .published signedAttestations) ∈ es →
        ∃ attData duties tasks, (∀ d ∈ duties, d.slot = slot) ∧ duties.Nodup ∧
          Gathering attData duties tasks ∧ ((completions tasks).map Prod.fst).Perm duties ∧
          chain slot es =
            preparation attData duties ++ tasks ++ [.published signedAttestations] ∧
          ∀ x ∈ signedAttestations, ∃ d ∈ duties, ∃ t,
            .signatureRequested d attData ∈ tasks ∧ .signatureCompleted d (.ok t) ∈ tasks ∧
              t.1.attestation = attData ∧ ∃ d' ∈ duties, d'.pubkey = d.pubkey ∧
                x = ⟨d'.committeeIndex, d'.validatorIndex, attData, t.2.1⟩ := by
  have hkept : (∃ os, Orderly p.service os) ∧ Kept p es := by
    refine r.invariant (I := fun p es => (∃ os, Orderly p.service os) ∧ Kept p es)
      ⟨⟨[], orderly_init duties roots⟩, kept_init duties roots⟩ ?_
    rintro p es a p' new ⟨⟨os, ho⟩, hkept⟩ - hs
    refine ⟨?_, kept_step hkept ho hs⟩
    rcases service_of_step hs with ⟨hservice, -⟩ | ⟨a', o, hstep, -⟩
    · exact ⟨os, hservice ▸ ho⟩
    · exact ⟨os ++ o, orderly_step ho hstep⟩
  refine ⟨service_of_run r, fun slot => ?_⟩
  have hattested : Attested slot (chain slot es) := Account.Kept.whole hkept.2 slot
  refine ⟨hattested, fun signedAttestations hm => ?_⟩
  obtain ⟨attData, duties, tasks, own, nodup, htasks, all, rfl, hl⟩ :=
    hattested.complete (mem_chain hm)
  exact ⟨attData, duties, tasks, own, nodup, htasks, all, hl, fun x hx =>
    exists_of_mem_attestations htasks hx⟩

/-! ### Two duties of a slot -/

def ownDuty (pubkey : Pubkey) (validatorIndex : String) : AttesterDutyWithSelectionProof where
  pubkey
  validatorIndex
  committeeIndex := "3"
  committeeLength := 128
  committeesAtSlot := "4"
  validatorCommitteeIndex := "11"
  slot := 1
  isAggregator := false
  selectionProof := []

def twoDuties : List AttesterDutyWithSelectionProof := [ownDuty "0xa" "7", ownDuty "0xb" "8"]

def firstData : AttestationData := ⟨"1", "0", "0xd", ⟨"0", "0xs"⟩, ⟨"0", "0xt"⟩⟩

/-- The second task fails, and the first one comes back after it. -/
def oneSigned : List (Moment × PipelineAction) :=
  [.service (.handleHeadEvent 0 ⟨1, "0xd", "0xp", "0xc"⟩), .attestationData 0 firstData twoDuties,
    .service (.requestSignature 0 (ownDuty "0xa" "7")),
    .service (.requestSignature 0 (ownDuty "0xb" "8")),
    .signatureCompleted 0 (ownDuty "0xb" "8") (.error "TimeoutError()"),
    .signatureCompleted 0 (ownDuty "0xa" "7") (.ok (⟨fuluInfo, firstData⟩, "0xsig", "0xa"))].map
      (Prod.mk ⟨1606824036, .init⟩)

def ownAttestations : List SingleAttestation := [⟨"3", "7", firstData, "0xsig"⟩]

theorem attestations_of_run_oneSigned : ∃ p es,
    Run (traced (mainnet fun x => x)) (.init ((∅ : Dict ℤ Duties).set 0 twoDuties.toFinset) ∅)
      oneSigned p es ∧ (1, .published ownAttestations) ∈ es ∧ Attested 1 (chain 1 es) ∧
      ∃ attData duties tasks, chain 1 es =
        preparation attData duties ++ tasks ++ [.published ownAttestations] := by
  obtain ⟨p, es, r, hp⟩ := @exec_any _ _ _ (traced (mainnet fun x => x)) (fun _ _ _ => True)
    (.init ((∅ : Dict ℤ Duties).set 0 twoDuties.toFinset) ∅) oneSigned _
    (fun _ es => (1, Custody.published ownAttestations) ∈ es) (by decide +kernel)
  have hm := of_decide_eq_true hp
  obtain ⟨hattested, hpublished⟩ := (attestations_of_run r).2 1
  obtain ⟨attData, duties, tasks, -, -, -, -, hl, -⟩ := hpublished _ hm
  exact ⟨p, es, r, hm, hattested, attData, duties, tasks, hl⟩

end Vero.AttestationService
