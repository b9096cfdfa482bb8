import Vero.DoppelgangerDetector

/-!
`run_services`: starting everything, in an order, and leaving it in the reverse order.

Contexts are entered on an exit stack, the slot ticker starts after genesis, and the duty
services come last: where doppelganger detection is enabled, they come after it.
-/

namespace Vero.RunServices

open Lib DoppelgangerDetector

/-- The command line arguments that startup depends on. -/
structure CLIArgs where
  enableKeymanagerApi : Bool
  remoteSignerUrl : Option String
  enableDoppelgangerDetection : Bool

inductive DutyService
  | attestation
  | blockProposal
  | syncCommittee
  deriving DecidableEq

/-- In the order in which they are started. -/
def dutyServices : List DutyService := [.attestation, .blockProposal, .syncCommittee]

/-- What the exit stack holds. -/
inductive Component
  | db
  | multiBeaconNode
  | keymanager
  | remoteSigner (url : String)
  | dutyService (service : DutyService)
  deriving DecidableEq

/-- A service that handles slots. -/
inductive SlotHandler
  | validatorStatusTracker
  | dutyService (service : DutyService)
  deriving DecidableEq

inductive Action
  | startScheduler
  | enter (component : Component)
  | exit (component : Component)
  | runMigrations
  | startSlotTicker
  | initializeStatuses
  | addNewSlotHandler (handler : SlotHandler)
  | chooseBestBeaconNode
  | setShutdownEvent
  | addDutyService (service : DutyService)
  | addHeadEventHandler (service : DutyService)
  | addReorgEventHandler (service : DutyService)
  | addSlashingEventHandler
  | startEventConsumer
  | cancelAll
  deriving DecidableEq

/-- The events of startup itself. An action may raise. -/
inductive Step
  | did (action : Action) (answer : Except String Unit)
  | activeOrPendingIndices (indices : List ℕ)
  | shutdownEventIsSet (isSet : Bool)
  deriving DecidableEq

def performs (action : Action) (ev : Timed Step) : Option (Except Exception Unit) :=
  match ev.event with
  | .own (.did a answer) => if a = action then some (passOn answer) else none
  | _ => none

def perform (action : Action) : Program Step Unit := .await (performs action)

def readsIndices (ev : Timed Step) : Option (Except Exception (List ℕ)) :=
  match ev.event with
  | .own (.activeOrPendingIndices indices) => some (.ok indices)
  | _ => none

def activeOrPendingIndices : Program Step (List ℕ) := .await readsIndices

def readsShutdownEvent (ev : Timed Step) : Option (Except Exception Bool) :=
  match ev.event with
  | .own (.shutdownEventIsSet isSet) => some (.ok isSet)
  | _ => none

def shutdownEventIsSet : Program Step Bool := .await readsShutdownEvent

/-- `exit_stack.enter_context`: what follows is the body. -/
def entering (component : Component) (body : Program Step Unit) : Program Step Unit :=
  .withContext (perform (.enter component)) (perform (.exit component)) fun _ => body

def waitForGenesis (genesisTimestamp : ℤ) : Program Step Unit :=
  Coroutine.loop (fun _ => do
    let timeRemaining := genesisTimestamp - (← clock)
    if timeRemaining ≤ 0 then
      pure (.inr ())
    else
      sleep (min timeRemaining 10)
      pure (.inl ())) ()

/-- Runs until the shutdown event is set. -/
def monitorEventLoop : Program Step Unit :=
  Coroutine.loop (fun _ => do
    if ← shutdownEventIsSet then
      pure (.inr ())
    else
      sleep 0.1
      pure (.inl ())) ()

def registerEventHandlers : Program Step Unit := do
  dutyServices.forM fun service => perform (.addHeadEventHandler service)
  dutyServices.forM fun service => perform (.addReorgEventHandler service)
  perform .addSlashingEventHandler

def startDutyServices (body : Program Step Unit) : List DutyService → Program Step Unit
  | [] => body
  | service :: services => entering (.dutyService service) do
      perform (.addDutyService service)
      perform (.addNewSlotHandler (.dutyService service))
      startDutyServices body services

variable (b : BeaconChain) (cliArgs : CLIArgs)

def detectDoppelgangers : Program Step Unit :=
  Coroutine.tryCatch (do
    perform .chooseBestBeaconNode
    detect b (← activeOrPendingIndices)) fun e =>
      if e = .doppelgangersDetected then do
        perform .setShutdownEvent
        .raise e
      else .raise e

/-- The Keymanager, or a single remote signer. -/
def signatureProvider : Except Exception Component :=
  if cliArgs.enableKeymanagerApi then .ok .keymanager
  else match cliArgs.remoteSignerUrl with
    | some url => .ok (.remoteSigner url)
    | none => .error (.runtimeError "remote_signer_url is None despite disabled Keymanager API")

def detectDoppelgangersIfEnabled : Program Step Unit :=
  if cliArgs.enableDoppelgangerDetection then detectDoppelgangers b else pure ()

/-- From the slot ticker on. -/
def startServices : Program Step Unit := do
  perform .startSlotTicker
  perform .initializeStatuses
  perform (.addNewSlotHandler .validatorStatusTracker)
  detectDoppelgangersIfEnabled b cliArgs
  startDutyServices (do
    registerEventHandlers
    perform .startEventConsumer
    monitorEventLoop
    perform .cancelAll) dutyServices

def runServices : Program Step Unit := do
  perform .startScheduler
  entering .db do
    perform .runMigrations
    entering .multiBeaconNode do
      waitForGenesis (b.getTimestampForSlot 0)
      match signatureProvider cliArgs with
      | .ok provider => entering provider (startServices b cliArgs)
      | .error e => .raise e

/-! ### Contexts -/

/-- The actions that enter a component and leave it. -/
def crossing (ev : Timed Step) : Coroutine.Crossing Component :=
  match ev.event with
  | .own (.did (.enter component) (.ok _)) => .entered component
  | .own (.did (.exit component) _) => .left component
  | _ => .neither

def Action.crosses : Action → Bool
  | .enter _ | .exit _ => true
  | _ => false

section Balance

variable {E : Coroutine.Environment (Timed Step)}

lemma balanced_clock : Coroutine.Balanced E crossing (clock : Program Step ℚ) := by
  refine .await fun ev hev => ?_
  obtain ⟨x, hx⟩ := Option.isSome_iff_exists.mp hev
  rw [(readsClock_eq_some hx).1]
  rfl

lemma balanced_sleep (delay : ℚ) :
    Coroutine.Balanced E crossing (sleep delay : Program Step Unit) := by
  refine .await fun ev hev => ?_
  obtain ⟨x, hx⟩ := Option.isSome_iff_exists.mp hev
  obtain ⟨answer, hev, -⟩ := sleepsFor_eq_some hx
  simp [crossing, hev]

lemma balanced_getLiveness (epoch : ℤ) (indices : List ℕ) :
    Coroutine.Balanced E crossing (fetchLivenessData (κ := Step) epoch indices) := by
  refine .await fun ev hev => ?_
  obtain ⟨x, hx⟩ := Option.isSome_iff_exists.mp hev
  obtain ⟨answer, hev, -⟩ := asksLiveness_eq_some hx
  simp [crossing, hev]

lemma performs_eq_some {action : Action} {ev : Timed Step} {x : Except Exception Unit}
    (h : performs action ev = some x) :
    ∃ answer, ev.event = .own (.did action answer) ∧ passOn answer = x := by
  obtain ⟨time, event⟩ := ev
  cases event with
  | clock | slept | liveness => cases h
  | own step =>
    cases step with
    | did a answer =>
      by_cases ha : a = action
      · exact ⟨answer, by simp [ha], by simpa [performs, ha] using h⟩
      · simp [performs, ha] at h
    | activeOrPendingIndices | shutdownEventIsSet => cases h

lemma balanced_perform {action : Action} (h : action.crosses = false) :
    Coroutine.Balanced E crossing (perform action) := by
  refine .await fun ev hev => ?_
  obtain ⟨x, hx⟩ := Option.isSome_iff_exists.mp hev
  obtain ⟨answer, hev, -⟩ := performs_eq_some hx
  cases action with
  | enter | exit => cases h
  | _ => simp [crossing, hev]

lemma balanced_activeOrPendingIndices :
    Coroutine.Balanced E crossing activeOrPendingIndices := by
  refine .await fun ev hev => ?_
  obtain ⟨time, event⟩ := ev
  cases event with
  | clock | slept | liveness => cases hev
  | own step =>
    cases step with
    | activeOrPendingIndices => rfl
    | did | shutdownEventIsSet => cases hev

lemma balanced_shutdownEventIsSet : Coroutine.Balanced E crossing shutdownEventIsSet := by
  refine .await fun ev hev => ?_
  obtain ⟨time, event⟩ := ev
  cases event with
  | clock | slept | liveness => cases hev
  | own step =>
    cases step with
    | shutdownEventIsSet => rfl
    | did | activeOrPendingIndices => cases hev

lemma balanced_entering {component : Component} {body : Program Step Unit}
    (hbody : Coroutine.Balanced E crossing body) :
    Coroutine.Balanced E crossing (entering component body) := by
  refine .withContext component (fun ev x hx => ?_) (fun ev e he => ?_) (fun ev hev => ?_)
    fun _ => hbody
  · obtain ⟨answer, hev, hanswer⟩ := performs_eq_some hx
    simp [crossing, hev, passOn_ok hanswer]
  · obtain ⟨answer, hev, hanswer⟩ := performs_eq_some he
    obtain ⟨name, -, rfl⟩ := passOn_error hanswer
    simp [crossing, hev]
  · obtain ⟨x, hx⟩ := Option.isSome_iff_exists.mp hev
    obtain ⟨answer, hev, -⟩ := performs_eq_some hx
    simp [crossing, hev]

lemma balanced_preciseWaitForTimestamp (timestamp : ℤ) :
    Coroutine.Balanced E crossing (preciseWaitForTimestamp (κ := Step) timestamp) := by
  refine balanced_clock.bind fun t => (balanced_sleep _).bind fun _ => .loop (fun _ => ?_) ()
  refine balanced_clock.bind fun t => ?_
  split_ifs
  · exact (balanced_sleep 0).bind fun _ => .pure _
  · exact .pure _

lemma balanced_raiseIfDoppelgangerDetected (epoch : ℤ) (indices : List ℕ) :
    Coroutine.Balanced E crossing (raiseIfDoppelgangerDetected (κ := Step) epoch indices) := by
  refine (balanced_getLiveness epoch indices).bind fun data => ?_
  unfold processLivenessData
  split_ifs
  · exact .raise _
  · exact .pure _

lemma balanced_detect (indices : List ℕ) :
    Coroutine.Balanced E crossing (detect (κ := Step) b indices) := by
  refine balanced_clock.bind fun t => (balanced_getLiveness _ indices).bind fun _ => ?_
  refine (balanced_preciseWaitForTimestamp _).bind fun _ => ?_
  refine (balanced_preciseWaitForTimestamp _).bind fun _ => ?_
  refine (balanced_raiseIfDoppelgangerDetected _ indices).bind fun _ => ?_
  refine .bind (balanced_clock.bind fun t => balanced_sleep _) fun _ => ?_
  exact balanced_raiseIfDoppelgangerDetected _ indices

lemma balanced_detectDoppelgangers : Coroutine.Balanced E crossing (detectDoppelgangers b) := by
  refine .tryCatch ?_ fun e => ?_
  · exact (balanced_perform rfl).bind fun _ =>
      balanced_activeOrPendingIndices.bind fun indices => balanced_detect b indices
  · split_ifs
    · exact (balanced_perform rfl).bind fun _ => .raise e
    · exact .raise e

lemma balanced_startDutyServices {body : Program Step Unit}
    (hbody : Coroutine.Balanced E crossing body) (services : List DutyService) :
    Coroutine.Balanced E crossing (startDutyServices body services) := by
  induction services with
  | nil => exact hbody
  | cons service services ih =>
    exact balanced_entering ((balanced_perform rfl).bind fun _ =>
      (balanced_perform rfl).bind fun _ => ih)

lemma balanced_startServices : Coroutine.Balanced E crossing (startServices b cliArgs) := by
  refine (balanced_perform rfl).bind fun _ => (balanced_perform rfl).bind fun _ => ?_
  refine (balanced_perform rfl).bind fun _ => .bind ?_ fun _ => balanced_startDutyServices ?_ _
  · unfold detectDoppelgangersIfEnabled
    split_ifs
    · exact balanced_detectDoppelgangers b
    · exact .pure ()
  · refine .bind ?_ fun _ => (balanced_perform rfl).bind fun _ => .bind ?_ fun _ =>
      balanced_perform rfl
    · exact (Coroutine.Balanced.forM fun _ _ => balanced_perform rfl).bind fun _ =>
        (Coroutine.Balanced.forM fun _ _ => balanced_perform rfl).bind fun _ => balanced_perform rfl
    · refine .loop (fun _ => balanced_shutdownEventIsSet.bind fun isSet => ?_) ()
      split_ifs
      · exact .pure _
      · exact (balanced_sleep _).bind fun _ => .pure _

lemma balanced_runServices : Coroutine.Balanced E crossing (runServices b cliArgs) := by
  refine (balanced_perform rfl).bind fun _ => balanced_entering ?_
  refine (balanced_perform rfl).bind fun _ => balanced_entering (.bind ?_ fun _ => ?_)
  · refine .loop (fun _ => balanced_clock.bind fun t => ?_) ()
    dsimp only
    split_ifs
    · exact .pure _
    · exact (balanced_sleep _).bind fun _ => .pure _
  · cases signatureProvider cliArgs with
    | ok provider => exact balanced_entering (balanced_startServices b cliArgs)
    | error e => exact .raise e

end Balance

/-! ### Order -/

/-- The actions that let the duty services work. -/
def Action.isDuty : Action → Bool
  | .enter (.dutyService _) | .addDutyService _ | .addNewSlotHandler (.dutyService _)
  | .addHeadEventHandler _ | .addReorgEventHandler _ | .startEventConsumer => true
  | _ => false

def Done (action : Action) (ev : Timed Step) : Prop :=
  ∃ answer, ev.event = .own (.did action answer)

def Duty (ev : Timed Step) : Prop := ∃ action, action.isDuty = true ∧ Done action ev

/-- No duty service works yet. -/
def Idle (h : List (Timed Step)) : Prop := ∀ ev ∈ h, ¬ Duty ev

def ShutdownRead (h : List (Timed Step)) : Prop :=
  ∃ ev ∈ h, ev.event = .own (.shutdownEventIsSet true)

/-- The shutdown event has been set. -/
def ShutdownSet (h : List (Timed Step)) : Prop :=
  ∃ ev ∈ h, ev.event = .own (.did .setShutdownEvent (.ok ()))

section

def GenesisPassed (h : List (Timed Step)) : Prop := ∃ ev ∈ h, (b.genesisTime : ℚ) ≤ ev.time

/-- A detection has come to its end, for the validators there were before it. -/
def NobodyLive (δ : ℚ) (h : List (Timed Step)) : Prop :=
  ∃ pre t indices post rest epoch,
    h = pre ++ [⟨t, .own (.activeOrPendingIndices indices)⟩] ++ post ++ rest ∧
      Cleared b indices δ epoch post

/-- What comes before what. -/
structure InOrder (δ : ℚ) (h : List (Timed Step)) : Prop where
  ticker : Coroutine.Preceded (Done .startSlotTicker) (GenesisPassed b) h
  duties : cliArgs.enableDoppelgangerDetection = true →
    Coroutine.Preceded Duty (NobodyLive b δ) h
  cancelled : Coroutine.Preceded (Done .cancelAll) ShutdownRead h

/-- In order, and as far as `F`. -/
def Phase (δ : ℚ) (F : List (Timed Step) → Prop) (h : List (Timed Step)) : Prop :=
  InOrder b cliArgs δ h ∧ F h

/-- When a live validator is found the shutdown begins, and the duty services have not begun. -/
def Ordered (δ : ℚ) : Coroutine.Post (Timed Step) Exception Unit :=
  ⟨fun _ => InOrder b cliArgs δ,
    fun e h => InOrder b cliArgs δ h ∧ (e = .doppelgangersDetected → Idle h ∧ ShutdownSet h),
    InOrder b cliArgs δ⟩

end

variable {b : BeaconChain} {cliArgs : CLIArgs} {δ : ℚ} {h h' : List (Timed Step)} {ev : Timed Step}
  {action : Action}

/-- Nothing that has to wait for something else. -/
def Plain (ev : Timed Step) : Prop :=
  ¬ Done .startSlotTicker ev ∧ ¬ Duty ev ∧ ¬ Done .cancelAll ev

lemma plain_of_not_did (h : ∀ action answer, ev.event ≠ .own (.did action answer)) : Plain ev :=
  ⟨fun ⟨_, he⟩ => h _ _ he, fun ⟨_, _, _, he⟩ => h _ _ he, fun ⟨_, he⟩ => h _ _ he⟩

lemma Done.eq {action' : Action} (h : Done action ev) (h' : Done action' ev) :
    action = action' := by
  obtain ⟨answer, he⟩ := h
  obtain ⟨answer', he'⟩ := h'
  rw [he] at he'
  injection he' with he'
  injection he'

lemma Done.duty_iff (h : Done action ev) : Duty ev ↔ action.isDuty = true := by
  constructor
  · rintro ⟨action', hduty, hdone⟩
    rwa [h.eq hdone]
  · intro hduty
    exact ⟨action, hduty, h⟩

lemma NobodyLive.append (hn : NobodyLive b δ h) : NobodyLive b δ (h ++ h') := by
  obtain ⟨pre, t, indices, post, rest, epoch, rfl, hcleared⟩ := hn
  exact ⟨pre, t, indices, post, rest ++ h', epoch, by simp, hcleared⟩

lemma GenesisPassed.append (hg : GenesisPassed b h) : GenesisPassed b (h ++ h') := by
  obtain ⟨ev, hev, hle⟩ := hg
  exact ⟨ev, by simp [hev], hle⟩

lemma InOrder.append (ho : InOrder b cliArgs δ h) (hplain : ∀ ev ∈ h', Plain ev) :
    InOrder b cliArgs δ (h ++ h') :=
  ⟨ho.ticker.append fun ev hev => (hplain ev hev).1,
    fun henabled => (ho.duties henabled).append fun ev hev => (hplain ev hev).2.1,
    ho.cancelled.append fun ev hev => (hplain ev hev).2.2⟩

/-- What an action must wait for. -/
structure Due (b : BeaconChain) (cliArgs : CLIArgs) (δ : ℚ) (action : Action)
    (h : List (Timed Step)) : Prop where
  ticker : action = .startSlotTicker → GenesisPassed b h
  duties : action.isDuty = true → cliArgs.enableDoppelgangerDetection = true → NobodyLive b δ h
  cancelled : action = .cancelAll → ShutdownRead h

lemma InOrder.snoc (ho : InOrder b cliArgs δ h) (hdone : Done action ev)
    (hdue : Due b cliArgs δ action h) : InOrder b cliArgs δ (h ++ [ev]) :=
  ⟨ho.ticker.snoc fun hev => hdue.ticker (hdone.eq hev),
    fun henabled => (ho.duties henabled).snoc fun hev =>
      hdue.duties (hdone.duty_iff.mp hev) henabled,
    ho.cancelled.snoc fun hev => hdue.cancelled (hdone.eq hev)⟩

/-- An exception of the code that is awaited is not that of the detector. -/
lemma ordered_foreign {e : Exception} (ho : InOrder b cliArgs δ h)
    (he : ∃ name, e = .foreign name) : (Ordered b cliArgs δ).raised e h := by
  obtain ⟨name, rfl⟩ := he
  exact ⟨ho, fun h => by cases h⟩

lemma ordered_perform {F : List (Timed Step) → Prop}
    (hdue : ∀ h, F h → Due b cliArgs δ action h)
    (hF : ∀ h ev, F h → Done action ev → F (h ++ [ev])) :
    Coroutine.Triple (paced δ) (Phase b cliArgs δ F) (perform action)
      ⟨fun _ => Phase b cliArgs δ F, (Ordered b cliArgs δ).raised,
        (Ordered b cliArgs δ).waiting⟩ := by
  refine .await (fun h hphase _ => hphase.1) (fun h ev x hphase _ hx => ?_)
    fun h ev e hphase _ he => ?_
  · obtain ⟨answer, hev, -⟩ := performs_eq_some hx
    have hdone : Done action ev := ⟨answer, hev⟩
    exact ⟨hphase.1.snoc hdone (hdue h hphase.2), hF h ev hphase.2 hdone⟩
  · obtain ⟨answer, hev, hanswer⟩ := performs_eq_some he
    obtain ⟨name, he, -⟩ := passOn_error hanswer
    exact ordered_foreign (hphase.1.snoc ⟨answer, hev⟩ (hdue h hphase.2)) ⟨name, he⟩

lemma due_exit (component : Component) : Due b cliArgs δ (.exit component) h :=
  ⟨by simp, by simp [Action.isDuty], by simp⟩

/-- Leaving a context changes nothing of the order. -/
lemma ordered_entering {F : List (Timed Step) → Prop} {component : Component}
    {body : Program Step Unit} (hdue : ∀ h, F h → Due b cliArgs δ (.enter component) h)
    (hF : ∀ h ev, F h → Done (.enter component) ev → F (h ++ [ev]))
    (hbody : Coroutine.Triple (paced δ) (Phase b cliArgs δ F) body (Ordered b cliArgs δ)) :
    Coroutine.Triple (paced δ) (Phase b cliArgs δ F) (entering component body)
      (Ordered b cliArgs δ) := by
  refine (ordered_perform hdue hF).bind fun _ => ?_
  refine Coroutine.Triple.tryFinally (M := fun _ => InOrder b cliArgs δ)
    (N := (Ordered b cliArgs δ).raised) hbody (fun _ => ?_) fun e => ?_
  · refine .await (fun h ho _ => ho) (fun h ev x ho _ hx => ?_) fun h ev e ho _ he => ?_
    · obtain ⟨answer, hev, -⟩ := performs_eq_some hx
      exact ho.snoc ⟨answer, hev⟩ (due_exit component)
    · obtain ⟨answer, hev, hanswer⟩ := performs_eq_some he
      obtain ⟨name, he, -⟩ := passOn_error hanswer
      exact ordered_foreign (ho.snoc ⟨answer, hev⟩ (due_exit component)) ⟨name, he⟩
  · refine .await (fun h ho _ => ho.1) (fun h ev x ho _ hx => ?_) fun h ev e ho _ he => ?_
    · obtain ⟨answer, hev, -⟩ := performs_eq_some hx
      have hdone : Done (.exit component) ev := ⟨answer, hev⟩
      refine ⟨ho.1.snoc hdone (due_exit component), fun he => ?_⟩
      obtain ⟨hidle, set, hset, hevent⟩ := ho.2 he
      refine ⟨fun x hx => ?_, set, by simp [hset], hevent⟩
      rcases List.mem_append.mp hx with hx | hx
      · exact hidle x hx
      · rw [List.mem_singleton.mp hx, hdone.duty_iff]
        exact Bool.false_ne_true
    · obtain ⟨answer, hev, hanswer⟩ := performs_eq_some he
      obtain ⟨name, he, -⟩ := passOn_error hanswer
      exact ordered_foreign (ho.1.snoc ⟨answer, hev⟩ (due_exit component)) ⟨name, he⟩

/-- Awaiting something that has to wait for nothing. -/
lemma ordered_await {α : Type} {answer : Timed Step → Option (Except Exception α)}
    {F : List (Timed Step) → Prop} {G : α → List (Timed Step) → Prop}
    (hplain : ∀ ev x, answer ev = some x → Plain ev)
    (hforeign : ∀ ev e, answer ev = some (.error e) → ∃ name, e = .foreign name)
    (hG : ∀ h ev a, F h → answer ev = some (.ok a) → G a (h ++ [ev])) :
    Coroutine.Triple (paced δ) (Phase b cliArgs δ F) (.await answer)
      ⟨fun a => Phase b cliArgs δ (G a), (Ordered b cliArgs δ).raised,
        (Ordered b cliArgs δ).waiting⟩ := by
  have hsnoc : ∀ {h : List (Timed Step)} {ev : Timed Step} {x : Except Exception α},
      InOrder b cliArgs δ h → answer ev = some x → InOrder b cliArgs δ (h ++ [ev]) := by
    intro h ev x ho hx
    refine ho.append fun ev' hev' => ?_
    rw [List.mem_singleton.mp hev']
    exact hplain ev x hx
  exact .await (fun h hphase _ => hphase.1)
    (fun h ev a hphase _ ha => ⟨hsnoc hphase.1 ha, hG h ev a hphase.2 ha⟩)
    fun h ev e hphase _ he => ordered_foreign (hsnoc hphase.1 he) (hforeign ev e he)

lemma Idle.append (hidle : Idle h) (hplain : ∀ ev ∈ h', Plain ev) : Idle (h ++ h') := by
  intro ev hev
  rcases List.mem_append.mp hev with hev | hev
  · exact hidle ev hev
  · exact (hplain ev hev).2.1

lemma Idle.snoc (hidle : Idle h) (hev : ¬ Duty ev) : Idle (h ++ [ev]) := by
  intro x hx
  rcases List.mem_append.mp hx with hx | hx
  · exact hidle x hx
  · rwa [List.mem_singleton.mp hx]

lemma Idle.snoc_done (hidle : Idle h) (hdone : Done action ev) (hduty : action.isDuty = false) :
    Idle (h ++ [ev]) :=
  hidle.snoc fun hd => by simp [hdone.duty_iff.mp hd] at hduty

lemma ordered_clock {F : List (Timed Step) → Prop} :
    Coroutine.Triple (paced δ) (Phase b cliArgs δ F) clock
      ⟨fun t => Phase b cliArgs δ fun h => ∃ pre, F pre ∧ h = pre ++ [⟨t, .clock⟩],
        (Ordered b cliArgs δ).raised, (Ordered b cliArgs δ).waiting⟩ := by
  refine ordered_await (fun ev x hx => ?_) (fun ev e he => ?_) fun h ev t hF ht => ?_
  · rw [(readsClock_eq_some hx).1]
    exact plain_of_not_did fun _ _ he => by cases he
  · cases (readsClock_eq_some he).2
  · obtain ⟨hev, ht⟩ := readsClock_eq_some ht
    obtain rfl := Except.ok.inj ht
    exact ⟨h, hF, by rw [← hev]⟩

lemma ordered_sleep {F : List (Timed Step) → Prop} {delay : ℚ}
    (hF : ∀ h ev, F h → Plain ev → F (h ++ [ev])) :
    Coroutine.Triple (paced δ) (Phase b cliArgs δ F) (sleep delay)
      ⟨fun _ => Phase b cliArgs δ F, (Ordered b cliArgs δ).raised,
        (Ordered b cliArgs δ).waiting⟩ := by
  have hplain : ∀ {ev : Timed Step} {x : Except Exception Unit},
      sleepsFor delay ev = some x → Plain ev := by
    intro ev x hx
    obtain ⟨answer, hev, -⟩ := sleepsFor_eq_some hx
    exact plain_of_not_did fun _ _ he => by rw [hev] at he; cases he
  refine ordered_await (fun ev x hx => hplain hx) (fun ev e he => ?_)
    fun h ev _ hfacts ha => hF h ev hfacts (hplain ha)
  obtain ⟨answer, -, hanswer⟩ := sleepsFor_eq_some he
  obtain ⟨name, he, -⟩ := passOn_error hanswer
  exact ⟨name, he⟩

/-- Startup goes on when genesis has come. -/
lemma ordered_waitForGenesis :
    Coroutine.Triple (paced δ) (Phase b cliArgs δ Idle)
      (waitForGenesis (b.getTimestampForSlot 0))
      ⟨fun _ => Phase b cliArgs δ fun h => Idle h ∧ GenesisPassed b h,
        (Ordered b cliArgs δ).raised, (Ordered b cliArgs δ).waiting⟩ := by
  have hread : ∀ (t : ℚ) (h : List (Timed Step)),
      (∃ pre, Idle pre ∧ h = pre ++ [⟨t, .clock⟩]) → Idle h := by
    rintro t _ ⟨pre, hidle, rfl⟩
    exact hidle.snoc fun ⟨_, _, _, he⟩ => by cases he
  refine Coroutine.Triple.loop (I := fun _ => Phase b cliArgs δ Idle) (fun _ => ?_) ()
  refine .bind ordered_clock fun t => ?_
  dsimp only
  split_ifs with hpassed
  · refine .pure fun h hphase _ => ⟨hphase.1, hread t h hphase.2, ?_⟩
    obtain ⟨-, pre, -, rfl⟩ := hphase
    refine ⟨⟨t, .clock⟩, by simp, ?_⟩
    have hgenesis : b.getTimestampForSlot 0 = b.genesisTime := by
      simp [BeaconChain.getTimestampForSlot]
    rw [hgenesis] at hpassed
    linarith
  · refine Coroutine.Triple.bind (M := fun _ => Phase b cliArgs δ Idle) ?_ fun _ => ?_
    · exact (ordered_sleep fun h ev hidle hplain => hidle.snoc hplain.2.1).pre
        fun h hphase => ⟨hphase.1, hread t h hphase.2⟩
    · exact .pure fun _ h _ => h

/-! ### Detection at startup -/

lemma plain_of_expected {indices : List ℕ} {epoch : ℤ} (he : Expected indices epoch ev) :
    Plain ev := by
  refine plain_of_not_did fun action answer hev => ?_
  rcases he with (h | ⟨_, _, h⟩) | ⟨_, h | h⟩ <;> rw [h] at hev <;> cases hev

lemma plain_of_alarm {indices : List ℕ} {epoch : ℤ} (ha : Alarm epoch indices ev) : Plain ev := by
  refine plain_of_not_did fun action answer hev => ?_
  obtain ⟨_, h, -⟩ := ha
  rw [h] at hev
  cases hev

/-- Whatever an exception of the detector comes after, it is all about the detection. -/
lemma plain_of_failed {indices : List ℕ} {epoch : ℤ} {e : Exception}
    (hf : Failed b indices epoch e h) : ∀ ev ∈ h, Plain ev := by
  intro ev hev
  rcases hf with ⟨-, pre, last, hcalm, halarm, rfl⟩ | ⟨name, -, hcalm⟩
  · rcases List.mem_append.mp hev with hev | hev
    · exact plain_of_expected (hcalm.expected ev hev)
    · rw [List.mem_singleton.mp hev]
      exact plain_of_alarm halarm
  · exact plain_of_expected (hcalm.expected ev hev)

/-- The indices were read last, and no duty service works yet. -/
def IndicesRead (indices : List ℕ) (h : List (Timed Step)) : Prop :=
  Idle h ∧ ∃ pre t, h = pre ++ [⟨t, .own (.activeOrPendingIndices indices)⟩]

lemma ordered_activeOrPendingIndices :
    Coroutine.Triple (paced δ) (Phase b cliArgs δ Idle) activeOrPendingIndices
      ⟨fun indices => Phase b cliArgs δ (IndicesRead indices), (Ordered b cliArgs δ).raised,
        (Ordered b cliArgs δ).waiting⟩ := by
  have hread : ∀ {ev : Timed Step} {x : Except Exception (List ℕ)}, readsIndices ev = some x →
      ∃ indices, ev = ⟨ev.time, .own (.activeOrPendingIndices indices)⟩ ∧ x = .ok indices := by
    intro ev x hx
    obtain ⟨time, event⟩ := ev
    cases event with
    | clock | slept | liveness => cases hx
    | own step =>
      cases step with
      | activeOrPendingIndices indices => exact ⟨indices, rfl, (Option.some.inj hx).symm⟩
      | did | shutdownEventIsSet => cases hx
  have hplain : ∀ {ev : Timed Step} {x : Except Exception (List ℕ)}, readsIndices ev = some x →
      Plain ev := by
    intro ev x hx
    obtain ⟨indices, hev, -⟩ := hread hx
    rw [hev]
    exact plain_of_not_did fun _ _ he => by cases he
  refine ordered_await (fun ev x hx => hplain hx) (fun ev e he => ?_)
    fun h ev indices hidle hx => ?_
  · obtain ⟨_, -, he⟩ := hread he
    cases he
  · refine ⟨hidle.snoc (hplain hx).2.1, h, ev.time, ?_⟩
    obtain ⟨indices', hev, hx⟩ := hread hx
    obtain rfl := Except.ok.inj hx
    rw [← hev]

/-- A detection in the course of startup. -/
lemma ordered_detect (indices : List ℕ) :
    Coroutine.Triple (paced δ) (Phase b cliArgs δ (IndicesRead indices)) (detect b indices)
      ⟨fun _ => Phase b cliArgs δ (NobodyLive b δ), fun e h => InOrder b cliArgs δ h ∧
        (e = .doppelgangersDetected → Idle h), InOrder b cliArgs δ⟩ := by
  refine .of_forall fun h₀ hphase => ?_
  obtain ⟨ho, hidle, pre, t, hlast⟩ := hphase
  refine (detect_spec h₀).imp (fun _ h => h) (fun _ _ _ hfrom => ?_) (fun e _ _ hfrom => ?_)
    fun _ _ hfrom => ?_
  · obtain ⟨post, ⟨epoch, hcleared⟩, rfl⟩ := hfrom
    refine ⟨ho.append fun ev hev => ?_, pre, t, indices, post, [], epoch, by simp [hlast], hcleared⟩
    exact plain_of_expected ((Calm.of_cleared hcleared).expected ev hev)
  · obtain ⟨post, ⟨epoch, hfailed⟩, rfl⟩ := hfrom
    have hplain := plain_of_failed hfailed
    exact ⟨ho.append hplain, fun _ => hidle.append hplain⟩
  · obtain ⟨post, rfl | ⟨epoch, hcalm⟩, rfl⟩ := hfrom
    · simpa using ho
    · exact ho.append fun ev hev => plain_of_expected (hcalm.expected ev hev)

lemma due_of_idle {h : List (Timed Step)} (hticker : action ≠ .startSlotTicker)
    (hduty : action.isDuty = false) (hcancel : action ≠ .cancelAll) :
    Due b cliArgs δ action h :=
  ⟨fun he => absurd he hticker, fun he => by simp [he] at hduty, fun he => absurd he hcancel⟩

lemma ordered_detectDoppelgangers :
    Coroutine.Triple (paced δ) (Phase b cliArgs δ Idle) (detectDoppelgangers b)
      ⟨fun _ => Phase b cliArgs δ (NobodyLive b δ), (Ordered b cliArgs δ).raised,
        (Ordered b cliArgs δ).waiting⟩ := by
  refine .tryCatch (N := fun e h => InOrder b cliArgs δ h ∧
    (e = .doppelgangersDetected → Idle h)) ?_ fun e => ?_
  · refine .bind (M := fun _ => Phase b cliArgs δ Idle) ?_ fun _ => ?_
    · refine (ordered_perform (F := Idle) (fun h _ => ?_) fun h ev hidle hdone => ?_).imp
        (fun _ h => h) (fun _ _ _ h => h) (fun e h _ he => ⟨he.1, fun hdd => (he.2 hdd).1⟩)
        fun _ _ h => h
      · exact due_of_idle (by simp) rfl (by simp)
      · exact hidle.snoc_done hdone rfl
    · refine .bind (M := fun indices => Phase b cliArgs δ (IndicesRead indices)) ?_ ordered_detect
      exact ordered_activeOrPendingIndices.imp (fun _ h => h) (fun _ _ _ h => h)
        (fun e h _ he => ⟨he.1, fun hdd => (he.2 hdd).1⟩) fun _ _ h => h
  · split_ifs with he
    · refine .bind (M := fun _ h => InOrder b cliArgs δ h ∧ Idle h ∧ ShutdownSet h) ?_ fun _ =>
        .raise fun h hset _ => ⟨hset.1, fun _ => hset.2⟩
      refine .await (fun h hraised _ => hraised.1) (fun h ev x hraised _ hx => ?_)
        fun h ev e' hraised _ hx => ?_
      · obtain ⟨answer, hev, hanswer⟩ := performs_eq_some hx
        have hdone : Done .setShutdownEvent ev := ⟨answer, hev⟩
        refine ⟨hraised.1.snoc hdone (due_of_idle (by simp) rfl (by simp)),
          (hraised.2 he).snoc_done hdone rfl, ev, by simp, ?_⟩
        rw [hev, passOn_ok hanswer]
      · obtain ⟨answer, hev, hanswer⟩ := performs_eq_some hx
        obtain ⟨name, hname, -⟩ := passOn_error hanswer
        exact ordered_foreign (hraised.1.snoc ⟨answer, hev⟩ (due_of_idle (by simp) rfl (by simp)))
          ⟨name, hname⟩
    · exact .raise fun h hraised _ => ⟨hraised.1, fun hdd => absurd hdd he⟩

/-! ### Startup -/

variable (b cliArgs δ) in
/-- The duty services may work. -/
def Ready (h : List (Timed Step)) : Prop :=
  cliArgs.enableDoppelgangerDetection = true → NobodyLive b δ h

lemma Ready.append (hr : Ready b cliArgs δ h) : Ready b cliArgs δ (h ++ h') :=
  fun henabled => (hr henabled).append

lemma due_of_ready (hr : Ready b cliArgs δ h) (hticker : action ≠ .startSlotTicker)
    (hcancel : action ≠ .cancelAll) : Due b cliArgs δ action h :=
  ⟨fun he => absurd he hticker, fun _ => hr, fun he => absurd he hcancel⟩

lemma ordered_perform_of_ready (hticker : action ≠ .startSlotTicker)
    (hcancel : action ≠ .cancelAll) :
    Coroutine.Triple (paced δ) (Phase b cliArgs δ (Ready b cliArgs δ)) (perform action)
      ⟨fun _ => Phase b cliArgs δ (Ready b cliArgs δ), (Ordered b cliArgs δ).raised,
        (Ordered b cliArgs δ).waiting⟩ :=
  ordered_perform (fun _ hr => due_of_ready hr hticker hcancel) fun _ _ hr _ => hr.append

lemma ordered_perform_of_idle (hticker : action ≠ .startSlotTicker)
    (hduty : action.isDuty = false) (hcancel : action ≠ .cancelAll) :
    Coroutine.Triple (paced δ) (Phase b cliArgs δ Idle) (perform action)
      ⟨fun _ => Phase b cliArgs δ Idle, (Ordered b cliArgs δ).raised,
        (Ordered b cliArgs δ).waiting⟩ :=
  ordered_perform (fun _ _ => due_of_idle hticker hduty hcancel) fun _ _ hidle hdone =>
    hidle.snoc_done hdone hduty

lemma ordered_startDutyServices {body : Program Step Unit}
    (hbody : Coroutine.Triple (paced δ) (Phase b cliArgs δ (Ready b cliArgs δ)) body
      (Ordered b cliArgs δ)) (services : List DutyService) :
    Coroutine.Triple (paced δ) (Phase b cliArgs δ (Ready b cliArgs δ))
      (startDutyServices body services) (Ordered b cliArgs δ) := by
  induction services with
  | nil => exact hbody
  | cons service services ih =>
    refine ordered_entering (fun _ hr => due_of_ready hr (by simp) (by simp))
      (fun _ _ hr _ => hr.append) ?_
    refine .bind (ordered_perform_of_ready (by simp) (by simp)) fun _ => ?_
    exact .bind (ordered_perform_of_ready (by simp) (by simp)) fun _ => ih

lemma ordered_shutdownEventIsSet :
    Coroutine.Triple (paced δ) (Phase b cliArgs δ (Ready b cliArgs δ)) shutdownEventIsSet
      ⟨fun isSet => Phase b cliArgs δ fun h =>
          Ready b cliArgs δ h ∧ (isSet = true → ShutdownRead h),
        (Ordered b cliArgs δ).raised, (Ordered b cliArgs δ).waiting⟩ := by
  have hread : ∀ {ev : Timed Step} {x : Except Exception Bool}, readsShutdownEvent ev = some x →
      ∃ isSet, ev.event = .own (.shutdownEventIsSet isSet) ∧ x = .ok isSet := by
    intro ev x hx
    obtain ⟨time, event⟩ := ev
    cases event with
    | clock | slept | liveness => cases hx
    | own step =>
      cases step with
      | shutdownEventIsSet isSet => exact ⟨isSet, rfl, (Option.some.inj hx).symm⟩
      | did | activeOrPendingIndices => cases hx
  refine ordered_await (fun ev x hx => ?_) (fun ev e he => ?_) fun h ev isSet hr hx => ?_
  · obtain ⟨_, hev, -⟩ := hread hx
    exact plain_of_not_did fun _ _ he => by rw [hev] at he; cases he
  · obtain ⟨_, -, he⟩ := hread he
    cases he
  · obtain ⟨isSet', hev, hx⟩ := hread hx
    obtain rfl := Except.ok.inj hx
    exact ⟨hr.append, fun hset => ⟨ev, by simp, by rw [hev, hset]⟩⟩

lemma ordered_monitorEventLoop :
    Coroutine.Triple (paced δ) (Phase b cliArgs δ (Ready b cliArgs δ)) monitorEventLoop
      ⟨fun _ => Phase b cliArgs δ fun h => Ready b cliArgs δ h ∧ ShutdownRead h,
        (Ordered b cliArgs δ).raised, (Ordered b cliArgs δ).waiting⟩ := by
  refine Coroutine.Triple.loop (I := fun _ => Phase b cliArgs δ (Ready b cliArgs δ))
    (fun _ => ?_) ()
  refine .bind ordered_shutdownEventIsSet fun isSet => ?_
  split_ifs with hset
  · exact .pure fun h hphase _ => ⟨hphase.1, hphase.2.1, hphase.2.2 hset⟩
  · refine .bind (M := fun _ => Phase b cliArgs δ (Ready b cliArgs δ)) ?_ fun _ =>
      .pure fun _ h _ => h
    exact (ordered_sleep fun _ _ hr _ => hr.append).pre fun h hphase => ⟨hphase.1, hphase.2.1⟩

/-- What the duty services need is done when they have been started. -/
lemma ordered_dutyWork :
    Coroutine.Triple (paced δ) (Phase b cliArgs δ (Ready b cliArgs δ)) (do
      registerEventHandlers
      perform .startEventConsumer
      monitorEventLoop
      perform .cancelAll) (Ordered b cliArgs δ) := by
  have hforM : ∀ (f : DutyService → Action), (∀ service, f service ≠ .startSlotTicker) →
      (∀ service, f service ≠ .cancelAll) →
      Coroutine.Triple (paced δ) (Phase b cliArgs δ (Ready b cliArgs δ))
        (dutyServices.forM fun service => perform (f service))
        ⟨fun _ => Phase b cliArgs δ (Ready b cliArgs δ), (Ordered b cliArgs δ).raised,
          (Ordered b cliArgs δ).waiting⟩ := by
    intro f hticker hcancel
    exact .forM (fun service _ => ordered_perform_of_ready (hticker service) (hcancel service))
      fun _ h => h
  refine .bind (M := fun _ => Phase b cliArgs δ (Ready b cliArgs δ)) ?_ fun _ => ?_
  · refine .bind (hforM .addHeadEventHandler (by simp) (by simp)) fun _ => ?_
    refine .bind (hforM .addReorgEventHandler (by simp) (by simp)) fun _ => ?_
    exact ordered_perform_of_ready (by simp) (by simp)
  refine .bind (ordered_perform_of_ready (by simp) (by simp)) fun _ => ?_
  refine .bind ordered_monitorEventLoop fun _ => ?_
  refine (ordered_perform (fun h hfacts => ?_) fun h ev hfacts _ => ?_).imp (fun _ h => h)
    (fun _ _ _ h => h.1) (fun _ _ _ h => h) fun _ _ h => h
  · exact ⟨by simp, fun _ => hfacts.1, fun _ => hfacts.2⟩
  · obtain ⟨hr, set, hset, he⟩ := hfacts
    exact ⟨hr.append, set, by simp [hset], he⟩

lemma ordered_startServices :
    Coroutine.Triple (paced δ) (Phase b cliArgs δ fun h => Idle h ∧ GenesisPassed b h)
      (startServices b cliArgs) (Ordered b cliArgs δ) := by
  refine .bind (M := fun _ => Phase b cliArgs δ Idle) ?_ fun _ => ?_
  · refine (ordered_perform (fun h hfacts => ?_) fun h ev hfacts hdone => ?_).imp (fun _ h => h)
      (fun _ _ _ h => ⟨h.1, h.2.1⟩) (fun _ _ _ h => h) fun _ _ h => h
    · exact ⟨fun _ => hfacts.2, (fun he => by cases he), by simp⟩
    · exact ⟨hfacts.1.snoc_done hdone rfl, hfacts.2.append⟩
  refine .bind (ordered_perform_of_idle (by simp) rfl (by simp)) fun _ => ?_
  refine .bind (ordered_perform_of_idle (by simp) rfl (by simp)) fun _ => ?_
  refine .bind (M := fun _ => Phase b cliArgs δ (Ready b cliArgs δ)) ?_ fun _ =>
    ordered_startDutyServices ordered_dutyWork dutyServices
  unfold detectDoppelgangersIfEnabled
  split_ifs with henabled
  · exact ordered_detectDoppelgangers.imp (fun _ h => h)
      (fun _ _ _ h => ⟨h.1, fun _ => h.2⟩) (fun _ _ _ h => h) fun _ _ h => h
  · exact .pure fun h hphase _ => ⟨hphase.1, fun he => absurd he henabled⟩

lemma ordered_runServices :
    Coroutine.Triple (paced δ) (· = []) (runServices b cliArgs) (Ordered b cliArgs δ) := by
  have hstart : ∀ h : List (Timed Step), h = [] → Phase b cliArgs δ Idle h := by
    rintro _ rfl
    refine ⟨⟨Coroutine.preceded_nil, fun _ => Coroutine.preceded_nil, Coroutine.preceded_nil⟩, ?_⟩
    intro ev hev
    cases hev
  refine Coroutine.Triple.pre ?_ hstart
  refine .bind (ordered_perform_of_idle (by simp) rfl (by simp)) fun _ => ?_
  refine ordered_entering (fun _ _ => due_of_idle (by simp) rfl (by simp))
    (fun _ _ hidle hdone => hidle.snoc_done hdone rfl) ?_
  refine .bind (ordered_perform_of_idle (by simp) rfl (by simp)) fun _ => ?_
  refine ordered_entering (fun _ _ => due_of_idle (by simp) rfl (by simp))
    (fun _ _ hidle hdone => hidle.snoc_done hdone rfl) ?_
  refine .bind ordered_waitForGenesis fun _ => ?_
  unfold signatureProvider
  split_ifs
  · exact ordered_entering (fun _ _ => due_of_idle (by simp) rfl (by simp))
      (fun _ _ hfacts hdone => ⟨hfacts.1.snoc_done hdone rfl, hfacts.2.append⟩)
      ordered_startServices
  · cases cliArgs.remoteSignerUrl with
    | none => exact .raise fun _ hphase _ => ⟨hphase.1, fun he => by cases he⟩
    | some url =>
      exact ordered_entering (fun _ _ => due_of_idle (by simp) rfl (by simp))
        (fun _ _ hfacts hdone => ⟨hfacts.1.snoc_done hdone rfl, hfacts.2.append⟩)
        ordered_startServices

/-! ### Main results -/

/-- **Order.** The slot ticker waits for genesis. With doppelganger detection no duty service
works before a detection has ended well; one that finds a live validator sets the shutdown
event, and then no duty service has begun. -/
theorem inOrder_of_history {o : Coroutine.Outcome Exception Unit} (hpaced : h.IsChain (Follows δ))
    (hrun : (runServices b cliArgs).History h o) :
    InOrder b cliArgs δ h ∧ (o = .raised .doppelgangersDetected → Idle h ∧ ShutdownSet h) := by
  have hat := ordered_runServices.history hrun hpaced
  cases o with
  | returned a | waiting => exact ⟨hat, fun he => by cases he⟩
  | raised e =>
    refine ⟨hat.1, fun he => hat.2 ?_⟩
    injection he

/-- A doppelganger of validator 7 attests in epoch 1, and is found when that epoch is over. -/
def doppelgangerFound : List (Timed Step) :=
  [⟨1606824000, .own (.did .startScheduler (.ok ()))⟩,
    ⟨1606824000, .own (.did (.enter .db) (.ok ()))⟩,
    ⟨1606824000, .own (.did .runMigrations (.ok ()))⟩,
    ⟨1606824004, .own (.did (.enter .multiBeaconNode) (.ok ()))⟩,
    ⟨1606824005, .clock⟩, ⟨1606824015, .slept 10 (.ok ())⟩, ⟨1606824015, .clock⟩,
    ⟨1606824023, .slept 8 (.ok ())⟩, ⟨1606824023, .clock⟩,
    ⟨1606824023, .own (.did (.enter (.remoteSigner "http://signer:9000")) (.ok ()))⟩,
    ⟨1606824023, .own (.did .startSlotTicker (.ok ()))⟩,
    ⟨1606824025, .own (.did .initializeStatuses (.ok ()))⟩,
    ⟨1606824025, .own (.did (.addNewSlotHandler .validatorStatusTracker) (.ok ()))⟩,
    ⟨1606824025, .own (.did .chooseBestBeaconNode (.ok ()))⟩,
    ⟨1606824025, .own (.activeOrPendingIndices [7])⟩,
    ⟨1606824028, .clock⟩, ⟨1606824028.1, .liveness 0 [7] (.ok [⟨"7", false⟩])⟩,
    ⟨1606824028.2, .clock⟩, ⟨1606824407, .slept 378.784 (.ok ())⟩, ⟨1606824407, .clock⟩,
    ⟨1606824407, .clock⟩, ⟨1606824791, .slept 383.984 (.ok ())⟩, ⟨1606824791, .clock⟩,
    ⟨1606824791.2, .liveness 1 [7] (.ok [⟨"7", true⟩])⟩,
    ⟨1606824791.2, .own (.did .setShutdownEvent (.ok ()))⟩,
    ⟨1606824791.2, .own (.did (.exit (.remoteSigner "http://signer:9000")) (.ok ()))⟩,
    ⟨1606824791.2, .own (.did (.exit .multiBeaconNode) (.ok ()))⟩,
    ⟨1606824791.2, .own (.did (.exit .db) (.ok ()))⟩]

def withRemoteSigner : CLIArgs := ⟨false, some "http://signer:9000", true⟩

lemma history_doppelgangerFound :
    (runServices (mainnet id).beaconChain withRemoteSigner).History doppelgangerFound
      (.raised .doppelgangersDetected) := by
  unfold Coroutine.History
  decide +kernel

theorem inOrder_doppelgangerFound :
    InOrder (mainnet id).beaconChain withRemoteSigner 0.016 doppelgangerFound ∧
      Idle doppelgangerFound ∧ ShutdownSet doppelgangerFound := by
  have hpaced : doppelgangerFound.IsChain (Follows 0.016) := by
    simp only [doppelgangerFound, List.isChain_cons_cons, Follows, Event.slept.injEq, reduceCtorEq]
    norm_num
  obtain ⟨ho, hdetected⟩ := inOrder_of_history hpaced history_doppelgangerFound
  exact ⟨ho, hdetected rfl⟩

/-- The contexts are left in the reverse order, and at the end each as often as entered. -/
structure Unwound (h : List (Timed Step)) (o : Coroutine.Outcome Exception Unit) : Prop where
  nested : ∃ stack, Coroutine.Open crossing stack h
  closed : o ≠ .waiting → Coroutine.Open crossing [] h
  left : o ≠ .waiting →
    (Coroutine.enteredContexts crossing h).Perm (Coroutine.leftContexts crossing h)

/-- **Exit stack.** However startup ends, what was entered is left again, last in first out. -/
theorem unwound_of_history {o : Coroutine.Outcome Exception Unit}
    (hrun : (runServices b cliArgs).History h o) :
    Unwound h o := by
  obtain ⟨hopen, hclosed⟩ := (balanced_runServices b cliArgs (E := .all)).closed hrun trivial
  exact ⟨hopen, hclosed, fun ho => by simpa using (hclosed ho).perm⟩

theorem unwound_doppelgangerFound :
    Unwound doppelgangerFound (.raised .doppelgangersDetected) :=
  unwound_of_history history_doppelgangerFound

end Vero.RunServices
