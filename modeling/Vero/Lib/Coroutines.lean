import Mathlib.Data.List.Induction

/-!
Coroutines, told by their histories.

A history lists the events a coroutine has been through: what it awaited, with the answer it
got, and what it did in between. A coroutine reads a history from the front. It returns or
raises and leaves the rest unread, or it waits for an event after the last one; or the history
goes on as the coroutine does not.
-/

namespace Vero.Lib

inductive Progress (η ε α : Type)
  | returned (value : α) (rest : List η)
  | raised (error : ε) (rest : List η)
  | waiting
  | other
  deriving DecidableEq

/-- What is left unread is an end of the history. -/
def Progress.Within {η ε α : Type} (es : List η) : Progress η ε α → Prop
  | .returned _ rest | .raised _ rest => rest <:+ es
  | .waiting | .other => True

lemma Progress.Within.trans {η ε α : Type} {es rest : List η} {p : Progress η ε α}
    (h : p.Within rest) (hrest : rest <:+ es) : p.Within es := by
  cases p with
  | returned _ _ | raised _ _ => exact List.IsSuffix.trans h hrest
  | waiting | other => trivial

structure Coroutine (η ε α : Type) where
  run : List η → Progress η ε α
  within (es : List η) : (run es).Within es

namespace Coroutine

variable {η ε α β γ σ : Type}

protected def pure (a : α) : Coroutine η ε α := ⟨fun es => .returned a es, List.suffix_refl⟩

def raise (e : ε) : Coroutine η ε α := ⟨fun es => .raised e es, List.suffix_refl⟩

/-- Goes on from what another coroutine came to, where that has ended. -/
def andThen (c : Coroutine η ε α) (returned : α → Coroutine η ε β)
    (raised : ε → Coroutine η ε β) : Coroutine η ε β where
  run es :=
    match c.run es with
    | .returned a rest => (returned a).run rest
    | .raised e rest => (raised e).run rest
    | .waiting => .waiting
    | .other => .other
  within es := by
    have hc := c.within es
    split
    next a rest h => exact ((returned a).within rest).trans (by rwa [h] at hc)
    next e rest h => exact ((raised e).within rest).trans (by rwa [h] at hc)
    next => trivial
    next => trivial

instance : Monad (Coroutine η ε) where
  pure := Coroutine.pure
  bind c f := c.andThen f raise

/-- The next event, which must be one that `answer` knows. -/
def await (answer : η → Option (Except ε α)) : Coroutine η ε α where
  run
    | [] => .waiting
    | ev :: es =>
      match answer ev with
      | some (.ok a) => .returned a es
      | some (.error e) => .raised e es
      | none => .other
  within es := by
    cases es with
    | nil => trivial
    | cons ev es =>
      dsimp only
      split
      next => exact List.suffix_cons ev es
      next => exact List.suffix_cons ev es
      next => trivial

def tryCatch (c : Coroutine η ε α) (handler : ε → Coroutine η ε α) : Coroutine η ε α :=
  c.andThen Coroutine.pure handler

/-- An exception of the cleanup replaces what the body came to. -/
def tryFinally (c : Coroutine η ε α) (cleanup : Coroutine η ε Unit) : Coroutine η ε α :=
  c.andThen (fun a => cleanup.andThen (fun _ => Coroutine.pure a) raise)
    fun e => cleanup.andThen (fun _ => raise e) raise

/-- A context is left whenever it was entered. -/
def withContext (enter : Coroutine η ε γ) (leave : Coroutine η ε Unit)
    (body : γ → Coroutine η ε α) : Coroutine η ε α :=
  enter >>= fun x => tryFinally (body x) leave

/-- Rounds of a loop, which goes on from `inl` and ends with `inr`. -/
def loopFor (body : σ → Coroutine η ε (σ ⊕ α)) : ℕ → σ → Coroutine η ε α
  | 0, _ => ⟨fun _ => .other, fun _ => trivial⟩
  | n + 1, s => body s >>= Sum.elim (loopFor body n) pure

/-- Each round but the last takes an event, so there are no more rounds than events and one. -/
def loop (body : σ → Coroutine η ε (σ ⊕ α)) (s : σ) : Coroutine η ε α where
  run es := (loopFor body (es.length + 1) s).run es
  within es := (loopFor body (es.length + 1) s).within es

/-! ### Histories -/

/-- What a coroutine has come to at the end of a history. -/
inductive Outcome (ε α : Type)
  | returned (value : α)
  | raised (error : ε)
  | waiting

def Outcome.progress : Outcome ε α → Progress η ε α
  | .returned a => .returned a []
  | .raised e => .raised e []
  | .waiting => .waiting

/-- The coroutine has gone through all of the history and come to the outcome. -/
def History (c : Coroutine η ε α) (es : List η) (o : Outcome ε α) : Prop := c.run es = o.progress

/-- The histories that are possible where a coroutine runs. -/
structure Environment (η : Type) where
  Allows : List η → Prop
  of_append : ∀ {h h' : List η}, Allows (h ++ h') → Allows h

def Environment.all : Environment η := ⟨fun _ => True, fun _ => trivial⟩

/-- What is asserted of the history when a coroutine returns, when it raises, and wherever it
waits. -/
structure Post (η ε α : Type) where
  returned : α → List η → Prop
  raised : ε → List η → Prop
  waiting : List η → Prop

/-- The assertion about what was read, after a history `past`. -/
def Post.Met (Q : Post η ε α) (E : Environment η) (past es : List η) : Progress η ε α → Prop
  | .returned a rest => ∀ used, es = used ++ rest → E.Allows (past ++ used) →
      Q.returned a (past ++ used)
  | .raised e rest => ∀ used, es = used ++ rest → E.Allows (past ++ used) →
      Q.raised e (past ++ used)
  | .waiting => E.Allows (past ++ es) → Q.waiting (past ++ es)
  | .other => True

/-- After a history with `P`, the coroutine meets `Q`. -/
def Triple (E : Environment η) (P : List η → Prop) (c : Coroutine η ε α) (Q : Post η ε α) : Prop :=
  ∀ past es, P past → Q.Met E past es (c.run es)

def Post.At (Q : Post η ε α) (h : List η) : Outcome ε α → Prop
  | .returned a => Q.returned a h
  | .raised e => Q.raised e h
  | .waiting => Q.waiting h

variable {E : Environment η} {P P' : List η → Prop} {Q Q' : Post η ε α} {c : Coroutine η ε α}

/-- **A triple is a fact about every history that is possible.** -/
theorem Triple.history (t : Triple E (· = []) c Q) {es : List η} {o : Outcome ε α}
    (ho : c.History es o) (hE : E.Allows es) : Q.At es o := by
  have hmet := t [] es rfl
  rw [ho] at hmet
  cases o with
  | returned a | raised e => exact hmet es (by simp) hE
  | waiting => exact hmet hE

/-! ### Rules -/

lemma Triple.imp (t : Triple E P c Q) (hP : ∀ h, P' h → P h)
    (hreturned : ∀ a h, E.Allows h → Q.returned a h → Q'.returned a h)
    (hraised : ∀ e h, E.Allows h → Q.raised e h → Q'.raised e h)
    (hwaiting : ∀ h, E.Allows h → Q.waiting h → Q'.waiting h) : Triple E P' c Q' := by
  intro past es hp
  have hmet := t past es (hP past hp)
  cases hc : c.run es with
  | returned a rest =>
    rw [hc] at hmet
    exact fun used he hE => hreturned a _ hE (hmet used he hE)
  | raised e rest =>
    rw [hc] at hmet
    exact fun used he hE => hraised e _ hE (hmet used he hE)
  | waiting =>
    rw [hc] at hmet
    exact fun hE => hwaiting _ hE (hmet hE)
  | other => trivial

lemma Triple.pre (t : Triple E P c Q) (hP : ∀ h, P' h → P h) : Triple E P' c Q :=
  fun past es hp => t past es (hP past hp)

lemma Triple.of_forall (t : ∀ h, P h → Triple E (· = h) c Q) : Triple E P c Q :=
  fun past es hp => t past hp past es rfl

/-- What is asserted when a history goes on. -/
lemma Post.Met.resume {past used rest : List η} {p : Progress η ε α} (hw : p.Within rest)
    (h : E.Allows (past ++ used) → Q.Met E (past ++ used) rest p) :
    Q.Met E past (used ++ rest) p := by
  cases p with
  | returned a m | raised e m =>
    obtain ⟨u, rfl⟩ := hw
    intro used' he hE
    obtain rfl : used ++ u = used' := by
      rw [← List.append_assoc] at he
      exact List.append_cancel_right he
    rw [← List.append_assoc] at hE ⊢
    exact h (E.of_append hE) u rfl hE
  | waiting =>
    intro hE
    rw [← List.append_assoc] at hE ⊢
    exact h (E.of_append hE) hE
  | other => trivial

lemma Triple.pure {a : α} (h : ∀ h, P h → E.Allows h → Q.returned a h) :
    Triple E P (Pure.pure a : Coroutine η ε α) Q := by
  intro past es hp used he hE
  obtain rfl : used = [] := by simpa using he
  rw [List.append_nil] at hE ⊢
  exact h past hp hE

lemma Triple.raise {e : ε} (h : ∀ h, P h → E.Allows h → Q.raised e h) :
    Triple E P (Coroutine.raise e : Coroutine η ε α) Q := by
  intro past es hp used he hE
  obtain rfl : used = [] := by simpa using he
  rw [List.append_nil] at hE ⊢
  exact h past hp hE

lemma Triple.andThen {returned : α → Coroutine η ε β} {raised : ε → Coroutine η ε β}
    {Q : Post η ε β} {M : α → List η → Prop} {N : ε → List η → Prop}
    (t : Triple E P c ⟨M, N, Q.waiting⟩) (hreturned : ∀ a, Triple E (M a) (returned a) Q)
    (hraised : ∀ e, Triple E (N e) (raised e) Q) : Triple E P (c.andThen returned raised) Q := by
  intro past es hp
  have hmet := t past es hp
  have hw := c.within es
  simp only [Coroutine.andThen]
  cases hc : c.run es with
  | returned a rest =>
    rw [hc] at hmet hw
    obtain ⟨used, rfl⟩ := hw
    exact .resume ((returned a).within rest) fun hE => hreturned a _ rest (hmet used rfl hE)
  | raised e rest =>
    rw [hc] at hmet hw
    obtain ⟨used, rfl⟩ := hw
    exact .resume ((raised e).within rest) fun hE => hraised e _ rest (hmet used rfl hE)
  | waiting =>
    rw [hc] at hmet
    exact hmet
  | other => trivial

lemma Triple.bind {f : α → Coroutine η ε β} {Q : Post η ε β} {M : α → List η → Prop}
    (t : Triple E P c ⟨M, Q.raised, Q.waiting⟩) (hf : ∀ a, Triple E (M a) (f a) Q) :
    Triple E P (c >>= f) Q :=
  t.andThen hf fun _ => .raise fun _ h _ => h

lemma Triple.tryCatch {handler : ε → Coroutine η ε α} {N : ε → List η → Prop}
    (t : Triple E P c ⟨Q.returned, N, Q.waiting⟩) (hhandler : ∀ e, Triple E (N e) (handler e) Q) :
    Triple E P (c.tryCatch handler) Q :=
  t.andThen (fun _ => .pure fun _ h _ => h) hhandler

lemma Triple.tryFinally {cleanup : Coroutine η ε Unit} {M : α → List η → Prop}
    {N : ε → List η → Prop} (t : Triple E P c ⟨M, N, Q.waiting⟩)
    (hreturned : ∀ a, Triple E (M a) cleanup ⟨fun _ => Q.returned a, Q.raised, Q.waiting⟩)
    (hraised : ∀ e, Triple E (N e) cleanup ⟨fun _ => Q.raised e, Q.raised, Q.waiting⟩) :
    Triple E P (c.tryFinally cleanup) Q := by
  refine t.andThen (fun a => ?_) fun e => ?_
  · exact (hreturned a).andThen (fun _ => .pure fun _ h _ => h) fun _ => .raise fun _ h _ => h
  · exact (hraised e).andThen (fun _ => .raise fun _ h _ => h) fun _ => .raise fun _ h _ => h

lemma Triple.await {answer : η → Option (Except ε α)}
    (hwaiting : ∀ h, P h → E.Allows h → Q.waiting h)
    (hreturned : ∀ h ev a, P h → E.Allows (h ++ [ev]) → answer ev = some (.ok a) →
      Q.returned a (h ++ [ev]))
    (hraised : ∀ h ev e, P h → E.Allows (h ++ [ev]) → answer ev = some (.error e) →
      Q.raised e (h ++ [ev])) : Triple E P (Coroutine.await answer) Q := by
  intro past es hp
  cases es with
  | nil =>
    intro hE
    rw [List.append_nil] at hE ⊢
    exact hwaiting past hp hE
  | cons ev es =>
    simp only [Coroutine.await]
    split
    next a ha =>
      intro used he hE
      obtain rfl : [ev] = used := List.append_cancel_right (show [ev] ++ es = used ++ es from he)
      exact hreturned past ev a hp hE ha
    next e he' =>
      intro used he hE
      obtain rfl : [ev] = used := List.append_cancel_right (show [ev] ++ es = used ++ es from he)
      exact hraised past ev e hp hE he'
    next => trivial

lemma Triple.loopFor {body : σ → Coroutine η ε (σ ⊕ α)} {I : σ → List η → Prop}
    (hbody : ∀ s, Triple E (I s) (body s) ⟨Sum.elim I Q.returned, Q.raised, Q.waiting⟩)
    (n : ℕ) (s : σ) : Triple E (I s) (Coroutine.loopFor body n s) Q := by
  induction n generalizing s with
  | zero => exact fun _ _ _ => trivial
  | succ n ih =>
    refine (hbody s).bind fun r => ?_
    cases r with
    | inl s' => exact ih s'
    | inr a => exact .pure fun _ h _ => h

/-- **The rule for loops.** What every round keeps, each further round may rely on. -/
lemma Triple.loop {body : σ → Coroutine η ε (σ ⊕ α)} {I : σ → List η → Prop}
    (hbody : ∀ s, Triple E (I s) (body s) ⟨Sum.elim I Q.returned, Q.raised, Q.waiting⟩)
    (s : σ) : Triple E (I s) (Coroutine.loop body s) Q :=
  fun past es hp => Triple.loopFor hbody (es.length + 1) s past es hp

lemma Triple.forM {l : List β} {f : β → Coroutine η ε Unit} {I : List η → Prop}
    {Q : Post η ε Unit} (hf : ∀ x ∈ l, Triple E I (f x) ⟨fun _ => I, Q.raised, Q.waiting⟩)
    (hQ : ∀ h, I h → Q.returned () h) : Triple E I (l.forM f) Q := by
  induction l with
  | nil => exact .pure fun h hI _ => hQ h hI
  | cons x l ih =>
    refine (hf x List.mem_cons_self).bind fun _ => ih fun y hy => ?_
    exact hf y (List.mem_cons_of_mem x hy)

/-! ### What comes before what -/

/-- Every event of the kind comes after a history with `G`. -/
def Preceded (K : η → Prop) (G : List η → Prop) (h : List η) : Prop :=
  ∀ pre ev post, h = pre ++ ev :: post → K ev → G pre

variable {K : η → Prop} {G : List η → Prop} {h : List η} {ev : η}

lemma preceded_nil : Preceded K G [] := fun pre ev post he => by simp at he

lemma Preceded.snoc (hp : Preceded K G h) (hev : K ev → G h) : Preceded K G (h ++ [ev]) := by
  intro pre ev' post he hK
  induction post using List.reverseRecOn with
  | nil =>
    obtain ⟨rfl, hlast⟩ := List.append_inj' he rfl
    obtain rfl : ev = ev' := by simpa using hlast
    exact hev hK
  | append_singleton post last _ =>
    rw [← List.cons_append, ← List.append_assoc] at he
    obtain ⟨rfl, -⟩ := List.append_inj' he rfl
    exact hp pre ev' post rfl hK

lemma Preceded.append {post : List η} (hp : Preceded K G h) (hpost : ∀ ev ∈ post, ¬ K ev) :
    Preceded K G (h ++ post) := by
  induction post using List.reverseRecOn with
  | nil => simpa using hp
  | append_singleton post ev ih =>
    rw [← List.append_assoc]
    have hev : ¬ K ev := hpost ev (by simp)
    exact (ih fun x hx => hpost x (by simp [hx])).snoc fun hK => absurd hK hev

/-! ### Contexts -/

section Contexts

variable [DecidableEq γ]

/-- Which events enter and leave a context. -/
inductive Crossing (γ : Type)
  | entered (context : γ)
  | left (context : γ)
  | neither

variable (crossing : η → Crossing γ)

def enteredContexts (h : List η) : List γ :=
  h.filterMap fun ev =>
    match crossing ev with
    | .entered x => some x
    | _ => none

def leftContexts (h : List η) : List γ :=
  h.filterMap fun ev =>
    match crossing ev with
    | .left x => some x
    | _ => none

/-- Only the context entered last can be left. -/
def cross (stack : List γ) (ev : η) : Option (List γ) :=
  match crossing ev with
  | .entered x => some (x :: stack)
  | .left x => if stack.head? = some x then some stack.tail else none
  | .neither => some stack

/-- The contexts that have been entered and not left, the last one first. -/
def openContexts (h : List η) : Option (List γ) := h.foldlM (cross crossing) []

variable {crossing}

@[simp] lemma openContexts_snoc (h : List η) (ev : η) :
    openContexts crossing (h ++ [ev]) = (openContexts crossing h).bind (cross crossing · ev) := by
  simp [openContexts, List.foldlM_append]

/-- The contexts open after a history are these. -/
def Open (crossing : η → Crossing γ) (stack : List γ) (h : List η) : Prop :=
  openContexts crossing h = some stack

lemma Open.snoc {stack stack' : List γ} {h : List η} {ev : η} (hopen : Open crossing stack h)
    (hcross : cross crossing stack ev = some stack') : Open crossing stack' (h ++ [ev]) := by
  unfold Open at *
  simp [hopen, hcross]

/-- What was entered has been left or is open still. -/
lemma Open.perm {stack : List γ} {h : List η} (hopen : Open crossing stack h) :
    (enteredContexts crossing h).Perm (leftContexts crossing h ++ stack) := by
  induction h using List.reverseRecOn generalizing stack with
  | nil =>
    obtain rfl : [] = stack := Option.some.inj hopen
    exact .refl _
  | append_singleton h ev ih =>
    unfold Open at hopen ih
    rw [openContexts_snoc] at hopen
    obtain ⟨before, hbefore, hcross⟩ := Option.bind_eq_some_iff.mp hopen
    have hperm := ih hbefore
    unfold cross at hcross
    unfold enteredContexts leftContexts at hperm ⊢
    simp only [List.filterMap_append, List.filterMap_cons, List.filterMap_nil]
    cases hev : crossing ev with
    | neither =>
      rw [hev] at hcross
      obtain rfl : before = stack := Option.some.inj hcross
      simpa using hperm
    | entered x =>
      rw [hev] at hcross
      obtain rfl : x :: before = stack := Option.some.inj hcross
      have hopened := (List.perm_append_singleton x before).append_left (leftContexts crossing h)
      rw [← List.append_assoc] at hopened
      simpa [leftContexts] using (hperm.append_right [x]).trans hopened
    | left x =>
      rw [hev] at hcross
      cases before with
      | nil => simp at hcross
      | cons y before =>
        by_cases hxy : y = x
        · obtain rfl : before = stack := by simpa [hxy] using hcross
          simpa [hxy] using hperm
        · simp [hxy] at hcross

variable (E crossing) in
/-- Every context entered is left again, the last one first, however it ends. -/
def Balanced (c : Coroutine η ε α) : Prop :=
  ∀ stack, Triple E (Open crossing stack) c
    ⟨fun _ => Open crossing stack, fun _ => Open crossing stack,
      fun h => ∃ inner, Open crossing (inner ++ stack) h⟩

lemma Balanced.pure (a : α) : Balanced E crossing (Pure.pure a : Coroutine η ε α) :=
  fun _ => .pure fun _ h _ => h

lemma Balanced.raise (e : ε) : Balanced E crossing (Coroutine.raise e : Coroutine η ε α) :=
  fun _ => .raise fun _ h _ => h

lemma Balanced.bind {f : α → Coroutine η ε β} (hc : Balanced E crossing c)
    (hf : ∀ a, Balanced E crossing (f a)) : Balanced E crossing (c >>= f) :=
  fun stack => (hc stack).bind fun a => hf a stack

lemma Balanced.tryCatch {handler : ε → Coroutine η ε α} (hc : Balanced E crossing c)
    (hhandler : ∀ e, Balanced E crossing (handler e)) : Balanced E crossing (c.tryCatch handler) :=
  fun stack => Triple.tryCatch (hc stack) fun e => hhandler e stack

lemma Balanced.loop {body : σ → Coroutine η ε (σ ⊕ α)}
    (hbody : ∀ s, Balanced E crossing (body s)) (s : σ) :
    Balanced E crossing (Coroutine.loop body s) := by
  intro stack
  refine Triple.loop (I := fun _ => Open crossing stack) (fun s => ?_) s
  refine (hbody s stack).imp (fun _ h => h) (fun r _ _ h => ?_) (fun _ _ _ h => h) fun _ _ h => h
  cases r with
  | inl s' | inr a => exact h

lemma Balanced.forM {l : List β} {f : β → Coroutine η ε Unit}
    (hf : ∀ x ∈ l, Balanced E crossing (f x)) : Balanced E crossing (l.forM f) :=
  fun stack => Triple.forM (fun x hx => hf x hx stack) fun _ h => h

/-- An event that enters and leaves nothing. -/
lemma Balanced.await {answer : η → Option (Except ε α)}
    (h : ∀ ev, (answer ev).isSome → crossing ev = .neither) :
    Balanced E crossing (Coroutine.await answer) := by
  intro stack
  have hcross : ∀ ev x, answer ev = some x → cross crossing stack ev = some stack := by
    intro ev x hx
    simp [cross, h ev (by simp [hx])]
  exact .await (fun _ h _ => ⟨[], h⟩) (fun _ ev _ h _ ha => h.snoc (hcross ev _ ha))
    fun _ ev _ h _ ha => h.snoc (hcross ev _ ha)

/-- **A context manager keeps the balance.** It is entered unless entering it fails, and it is
left even if leaving it fails. -/
lemma Balanced.withContext (context : γ) {entering : η → Option (Except ε β)}
    {leaving : η → Option (Except ε Unit)} {body : β → Coroutine η ε α}
    (hentered : ∀ ev x, entering ev = some (.ok x) → crossing ev = .entered context)
    (hfailed : ∀ ev e, entering ev = some (.error e) → crossing ev = .neither)
    (hleft : ∀ ev, (leaving ev).isSome → crossing ev = .left context)
    (hbody : ∀ x, Balanced E crossing (body x)) :
    Balanced E crossing
      (Coroutine.withContext (Coroutine.await entering) (Coroutine.await leaving) body) := by
  intro stack
  refine Triple.bind (M := fun _ => Open crossing (context :: stack)) ?_ fun x => ?_
  · refine .await (fun _ h _ => ⟨[], h⟩) (fun _ ev x h _ ha => h.snoc ?_)
      fun _ ev e h _ ha => h.snoc ?_
    · simp [cross, hentered ev x ha]
    · simp [cross, hfailed ev e ha]
  · have hleave : ∀ {Q : Post η ε Unit}, (∀ h, Open crossing stack h → Q.returned () h) →
        (∀ e h, Open crossing stack h → Q.raised e h) →
        (∀ h, Open crossing (context :: stack) h → Q.waiting h) →
        Triple E (Open crossing (context :: stack)) (Coroutine.await leaving) Q := by
      intro Q hreturned hraised hwaiting
      have hcross : ∀ ev y, leaving ev = some y →
          cross crossing (context :: stack) ev = some stack := by
        intro ev y hy
        simp [cross, hleft ev (by simp [hy])]
      exact .await (fun h hopen _ => hwaiting h hopen)
        (fun _ ev _ h _ ha => hreturned _ (h.snoc (hcross ev _ ha)))
        fun _ ev e h _ ha => hraised e _ (h.snoc (hcross ev _ ha))
    refine Triple.tryFinally (M := fun _ => Open crossing (context :: stack))
      (N := fun _ => Open crossing (context :: stack)) ?_ (fun a => ?_) fun e => ?_
    · exact (hbody x _).imp (fun _ h => h) (fun _ _ _ h => h) (fun _ _ _ h => h)
        fun _ _ ⟨inner, h⟩ => ⟨inner ++ [context], by simpa using h⟩
    · exact hleave (fun _ h => h) (fun _ _ h => h) fun _ h => ⟨[context], h⟩
    · exact hleave (fun _ h => h) (fun _ _ h => h) fun _ h => ⟨[context], h⟩

/-- **All contexts are left at the end.** -/
theorem Balanced.closed {es : List η} {o : Outcome ε α} (hc : Balanced E crossing c)
    (ho : c.History es o) (hE : E.Allows es) :
    (∃ stack, Open crossing stack es) ∧ (o ≠ .waiting → Open crossing [] es) := by
  have hstart : Triple E (· = []) c _ := (hc []).pre fun h hnil => by rw [hnil]; rfl
  have hat := hstart.history ho hE
  cases o with
  | returned a | raised e => exact ⟨⟨[], hat⟩, fun _ => hat⟩
  | waiting =>
    obtain ⟨inner, hopen⟩ := hat
    exact ⟨⟨inner ++ [], hopen⟩, fun hne => absurd rfl hne⟩

end Contexts

end Coroutine

end Vero.Lib
