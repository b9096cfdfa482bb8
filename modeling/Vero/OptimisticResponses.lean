import Mathlib.Data.List.Perm.Basic
import Mathlib.Tactic.SplitIfs
import Vero.MultiBeaconNode
import Vero.SchemaValidator
import Vero.SyncCommitteeService

/-!
Requests to beacon nodes, the stream of their events, and where optimistic data is refused.

A node tells of its data whether it was taken from a block it has not fully verified. Every
request checks this but one.
-/

namespace Vero.BeaconNode

open SchemaBeaconAPI SchemaValidator SyncCommitteeService

def maxScore : ℤ := 100
def scoreDeltaSuccess : ℤ := 1
def scoreDeltaFailure : ℤ := 5

/-- Why a request or the stream raises. What libraries raise goes by its kind. -/
inductive Error
  | beaconNodeNotReady (url text : String)
  | beaconNodeUnsupportedEndpoint (url text : String)
  | beaconNodeReturnedBadRequest (url text : String)
  | valueError (message : String)
  | notImplementedError (message : String)
  | runtimeError (message : String)
  | indexError (message : String)
  | clientError (message : String)
  | decodeError (message : String)
  deriving DecidableEq

/-- Reading the text may fail after the headers have come. -/
structure ClientResponse where
  status : ℕ
  url : String
  contentType : Option String
  text : Except String String

/-- What a node sends back, or how the request failed before that. -/
abbrev Answer := Except String ClientResponse

structure ExecutionOptimisticResponse (α : Type) where
  executionOptimistic : Bool
  data : α

structure ValidatorInfo where
  index : String
  status : ValidatorStatus
  pubkey : Pubkey

/-- Events of a slashing do not tell whether they are optimistic. -/
structure Event where
  executionOptimistic : Option Bool
  event : BeaconNodeEvent

/-- `msgspec.json.decode` at the types used here, Python's `int`, and how the values in
messages are printed. -/
structure Client where
  getBlockRootResponse : String → Except String (ExecutionOptimisticResponse Root)
  getStateValidatorsResponse : String → Except String (ExecutionOptimisticResponse
    (List ValidatorInfo))
  getAttesterDutiesResponse : String → Except String (ExecutionOptimisticResponse
    GetAttesterDutiesResponse)
  getProposerDutiesResponse : String → Except String (ExecutionOptimisticResponse
    GetProposerDutiesResponse)
  getSyncDutiesResponse : String → Except String (ExecutionOptimisticResponse (List SyncDuty))
  headEvent : String → Except String (ExecutionOptimisticResponse HeadEvent)
  chainReorgEvent : String → Except String (ExecutionOptimisticResponse ChainReorgEvent)
  attesterSlashingEvent : String → Except String AttesterSlashingEvent
  proposerSlashingEvent : String → Except String ProposerSlashingEvent
  int : String → Option ℤ
  reprLines : List String → String
  reprEvent : BeaconNodeEvent → String

/-- A node with the score that its setter keeps between the bounds. -/
structure Scored extends BeaconNode where
  score : ℤ
  nonneg : 0 ≤ score
  le : score ≤ maxScore

def Scored.addScore (bn : Scored) (delta : ℤ) : Scored :=
  { bn with
    score := max 0 (min (bn.score + delta) maxScore)
    nonneg := le_max_left _ _
    le := max_le (by decide) (min_le_right _ _) }

/-! ### Requests -/

def handleNokStatusCode (response : ClientResponse) : Except Error Unit :=
  if response.status < 400 then .ok ()
  else do
    let text ← response.text.mapError .clientError
    if response.status = 503 then throw (.beaconNodeNotReady response.url text)
    if response.status = 405 then throw (.beaconNodeUnsupportedEndpoint response.url text)
    if response.status = 400 then throw (.beaconNodeReturnedBadRequest response.url text)
    throw (.valueError (s!"Received status code {response.status} for request to {response.url}" ++
      s!" Full response text: {text}"))

/-- `_make_request` until the headers of a response that is not refused are in, with its content
type. -/
def awaitHeaders (bn : Scored) (answer : Answer) : Scored × Except Error (Option String) :=
  match answer with
  | .error message => (bn.addScore (-scoreDeltaFailure), .error (.clientError message))
  | .ok response =>
    match handleNokStatusCode response with
    | .error e => (bn.addScore (-scoreDeltaFailure), .error e)
    | .ok () => (bn.addScore scoreDeltaSuccess, .ok response.contentType)

/-- `_make_request` from there on, other tasks having run in between. -/
def awaitText (bn : Scored) (contentType : Option String) (text : Except String String) :
    Scored × Except Error String :=
  match contentType.filter (· ≠ "application/json"), text with
  | some contentType, _ => (bn.addScore (-scoreDeltaFailure),
      .error (.notImplementedError s!"Content type in response unsupported: {contentType}"))
  | none, .error message => (bn.addScore (-scoreDeltaFailure), .error (.clientError message))
  | none, .ok text => (bn, .ok text)

/-- A request that nothing happens to its node during. A fulfilled one gains the node a point even
where its content is refused afterwards, which costs it five. -/
def makeRequest (bn : Scored) (answer : Answer) : Scored × Except Error String :=
  match awaitHeaders bn answer with
  | (bn, .error e) => (bn, .error e)
  | (bn, .ok contentType) => awaitText bn contentType (answer.bind (·.text))

def raiseIfOptimistic {α : Type} (host : Host) (response : ExecutionOptimisticResponse α) :
    Except Error Unit :=
  if response.executionOptimistic then throw (.valueError s!"Execution optimistic on {host}")
  else pure ()

/-- The data of a response that is not optimistic. -/
def checkedData {α : Type} (host : Host)
    (decode : String → Except String (ExecutionOptimisticResponse α)) (text : String) :
    Except Error α := do
  let response ← (decode text).mapError .decodeError
  raiseIfOptimistic host response
  return response.data

variable (c : Client)

def getBlockRoot (bn : Scored) (answer : Answer) : Except Error Root := do
  checkedData bn.host c.getBlockRootResponse (← (makeRequest bn answer).2)

def getAttesterDuties (bn : Scored) (answer : Answer) : Except Error GetAttesterDutiesResponse := do
  checkedData bn.host c.getAttesterDutiesResponse (← (makeRequest bn answer).2)

def getProposerDuties (bn : Scored) (answer : Answer) : Except Error GetProposerDutiesResponse := do
  checkedData bn.host c.getProposerDutiesResponse (← (makeRequest bn answer).2)

def getSyncDuties (bn : Scored) (answer : Answer) : Except Error (List SyncDuty) := do
  checkedData bn.host c.getSyncDutiesResponse (← (makeRequest bn answer).2)

def toValidatorIndexPubkey (v : ValidatorInfo) : Except Error ValidatorIndexPubkey :=
  match c.int v.index with
  | some index => .ok ⟨⟨index, v.pubkey⟩, v.status⟩
  | none => .error (.valueError s!"invalid literal for int() with base 10: '{v.index}'")

/-- Nothing is asked for no ids. The response is not checked. -/
def getValidators (ids : List String) (bn : Scored) (answer : Answer) :
    Except Error (List ValidatorIndexPubkey) :=
  if ids = [] then .ok []
  else do
    let text ← (makeRequest bn answer).2
    let response ← (c.getStateValidatorsResponse text).mapError .decodeError
    response.data.mapM (toValidatorIndexPubkey c)

/-- The requests whose responses tell whether they are optimistic. -/
inductive Query
  | getBlockRoot
  | getValidators (ids : List String)
  | getAttesterDuties
  | getProposerDuties
  | getSyncDuties
  deriving DecidableEq

inductive Reply
  | blockRoot (root : Root)
  | validators (validators : List ValidatorIndexPubkey)
  | attesterDuties (response : GetAttesterDutiesResponse)
  | proposerDuties (response : GetProposerDutiesResponse)
  | syncDuties (data : List SyncDuty)

def call (bn : Scored) (answer : Answer) : Query → Except Error Reply
  | .getBlockRoot => (getBlockRoot c bn answer).map .blockRoot
  | .getValidators ids => (getValidators c ids bn answer).map .validators
  | .getAttesterDuties => (getAttesterDuties c bn answer).map .attesterDuties
  | .getProposerDuties => (getProposerDuties c bn answer).map .proposerDuties
  | .getSyncDuties => (getSyncDuties c bn answer).map .syncDuties

/-! ### Events -/

/-- A line of the stream, or how reading it failed. -/
abbrev Line := Except Error String

/-- Python's `str.isspace` for one character. -/
def isSpace (ch : Char) : Bool :=
  (9 ≤ ch.toNat ∧ ch.toNat ≤ 13) ∨ (28 ≤ ch.toNat ∧ ch.toNat ≤ 32) ∨
    (0x2000 ≤ ch.toNat ∧ ch.toNat ≤ 0x200a) ∨
    ch.toNat ∈ [0x85, 0xa0, 0x1680, 0x2028, 0x2029, 0x202f, 0x205f, 0x3000]

def strip (s : String) : String :=
  String.ofList (((s.toList.dropWhile isSpace).reverse.dropWhile isSpace).reverse)

/-- The lines up to an empty one, and what follows it. A stream that ends before raises in the
generator. -/
def eventData : List Line → Except Error (List String × List Line)
  | [] => .error (.runtimeError "async generator raised StopAsyncIteration")
  | .error e :: _ => .error e
  | .ok line :: lines =>
    if line = "\n" ∨ line = "\r\n" then .ok ([], lines)
    else (eventData lines).map fun (data, rest) => (line :: data, rest)

def eventStruct : String → Option (String → Except String Event)
  | "head" => some fun text =>
    (c.headEvent text).map fun r => ⟨some r.executionOptimistic, .head r.data⟩
  | "chain_reorg" => some fun text =>
    (c.chainReorgEvent text).map fun r => ⟨some r.executionOptimistic, .chainReorg r.data⟩
  | "attester_slashing" => some fun text =>
    (c.attesterSlashingEvent text).map fun e => ⟨none, .attesterSlashing e⟩
  | "proposer_slashing" => some fun text =>
    (c.proposerSlashingEvent text).map fun e => ⟨none, .proposerSlashing e⟩
  | _ => none

/-- What is decoded: the first line of the data, after its first `data:`. -/
def eventText (data : List String) : Except Error String :=
  match data.head?.bind fun line => (line.splitOn "data:")[1]? with
  | some text => .ok text
  | none => .error (.indexError "list index out of range")

def decodeStruct (name : String) (data : List String) : Except Error Event :=
  match eventStruct c name with
  | none => .error (.notImplementedError
      s!"Unable to process event with name {name}, event_data: {c.reprLines data}!")
  | some decode => do (decode (← eventText data)).mapError .decodeError

def decodeEvent (name : String) (data : List String) : Except Error Event := do
  let event ← decodeStruct c name data
  if event.executionOptimistic = some true then
    throw (.valueError s!"Execution optimistic for event: {c.reprEvent event.event}")
  return event

def eventName (line : String) : String := strip ((line.splitOn ":").getD 1 "")

lemma length_eventData {lines rest : List Line} {data : List String}
    (h : eventData lines = .ok (data, rest)) : rest.length < lines.length := by
  induction lines generalizing data with
  | nil => simp [eventData] at h
  | cons l lines ih =>
    cases l with
    | error e => simp [eventData] at h
    | ok line =>
      simp only [eventData] at h
      split_ifs at h
      · obtain ⟨-, rfl⟩ := Prod.mk.inj (Except.ok.inj h)
        simp
      · cases he : eventData lines with
        | error e => simp [he, Except.map] at h
        | ok p =>
          rw [he] at h
          obtain ⟨-, rfl⟩ := Prod.mk.inj (Except.ok.inj h)
          exact (ih he).trans (by simp)

/-- The events the stream yields, and the exception that ends it, if one does. A line that
begins no event is skipped, be it a comment, blank or unexpected. -/
def subscribeToEvents (lines : List Line) : List Event × Option Error :=
  match lines with
  | [] => ([], none)
  | .error e :: _ => ([], some e)
  | .ok line :: lines =>
    if line.startsWith "event:" then
      match _h : eventData lines with
      | .error e => ([], some e)
      | .ok (data, rest) =>
        match decodeEvent c (eventName line) data with
        | .error e => ([], some e)
        | .ok event =>
          let (events, e) := subscribeToEvents rest
          (event :: events, e)
    else subscribeToEvents lines
termination_by lines.length
decreasing_by
  · have hlt := length_eventData ‹eventData lines = _›
    simp only [List.length_cons]
    omega
  · simp

end Vero.BeaconNode

namespace Vero.MultiBeaconNode

open BeaconNode

/-! ### Several nodes -/

def initializedNodes (nodes : List Scored) : List Scored := nodes.filter fun bn => bn.initialized

/-- The node of the highest score, the first of them where several have it. -/
def bestBeaconNode (nodes : List Scored) : Option Scored :=
  ((initializedNodes nodes).mergeSort fun a b => b.score ≤ a.score).head?

/-- The first result that is no exception, in the order in which the tasks are completed. -/
def getFirstBeaconNodeResponse {α : Type} (funcName : String) :
    List (Except Error α) → Except Error α
  | [] => .error (.runtimeError
      s!"Failed to get a response from all beacon nodes for {funcName}")
  | .ok response :: _ => .ok response
  | .error _ :: results => getFirstBeaconNodeResponse funcName results

/-- An order in which the tasks of the initialized nodes are completed. -/
structure Completion (nodes : List Scored) where
  order : List Scored
  each : order.Perm (initializedNodes nodes)

variable (c : Client)

/-- The validators are asked of all nodes, everything else of the best. `next` finds none
where no node is initialized. -/
def request (nodes : List Scored) (answers : Scored → Answer) (completion : Completion nodes)
    (q : Query) : Except Error Reply :=
  match q with
  | .getValidators _ => getFirstBeaconNodeResponse "get_validators"
      (completion.order.map fun bn => call c bn (answers bn) q)
  | .getBlockRoot | .getAttesterDuties | .getProposerDuties | .getSyncDuties =>
    match bestBeaconNode nodes with
    | some bn => call c bn (answers bn) q
    | none => .error (.runtimeError "coroutine raised StopIteration")

end Vero.MultiBeaconNode

namespace Vero.BeaconNode

open SchemaBeaconAPI SchemaValidator

variable {c : Client} {bn : Scored} {answer : Answer} {q : Query} {lines : List Line}

/-! ### Which responses are optimistic -/

/-- What a response to the query, or nothing that can be read, says of itself. -/
def executionOptimistic (c : Client) (text : String) : Query → Option Bool
  | .getBlockRoot => (c.getBlockRootResponse text).toOption.map (·.executionOptimistic)
  | .getValidators _ => (c.getStateValidatorsResponse text).toOption.map (·.executionOptimistic)
  | .getAttesterDuties => (c.getAttesterDutiesResponse text).toOption.map (·.executionOptimistic)
  | .getProposerDuties => (c.getProposerDutiesResponse text).toOption.map (·.executionOptimistic)
  | .getSyncDuties => (c.getSyncDutiesResponse text).toOption.map (·.executionOptimistic)

/-- The query is sent, and the node answers it with a response that is optimistic. -/
def Optimistic (c : Client) (bn : Scored) (answer : Answer) (q : Query) : Prop :=
  q ≠ .getValidators [] ∧
    ∃ text, (makeRequest bn answer).2 = .ok text ∧ executionOptimistic c text q = some true

/-- Every validator of the response has a number for its index. -/
def Numbered (c : Client) (bn : Scored) (answer : Answer) : Prop :=
  ∀ text response, (makeRequest bn answer).2 = .ok text →
    c.getStateValidatorsResponse text = .ok response → ∀ v ∈ response.data, c.int v.index ≠ none

lemma response_of_optimistic {α : Type} {decoded : Except String (ExecutionOptimisticResponse α)}
    (h : decoded.toOption.map (·.executionOptimistic) = some true) :
    ∃ response, decoded = .ok response ∧ response.executionOptimistic = true := by
  cases decoded with
  | error e => simp [Except.toOption] at h
  | ok response => exact ⟨response, rfl, by simpa [Except.toOption] using h⟩

/-- A request that is checked raises for every optimistic response. -/
lemma checkedData_of_optimistic {α : Type} {host : Host} {text : String}
    {decode : String → Except String (ExecutionOptimisticResponse α)}
    (h : (decode text).toOption.map (·.executionOptimistic) = some true) :
    checkedData host decode text = .error (.valueError s!"Execution optimistic on {host}") := by
  obtain ⟨response, hdecode, hopt⟩ := response_of_optimistic h
  simp [checkedData, hdecode, raiseIfOptimistic, hopt, Except.mapError, bind, Except.bind, throw,
    throwThe, MonadExceptOf.throw]

lemma call_of_optimistic (h : Optimistic c bn answer q) (hq : ∀ ids, q ≠ .getValidators ids) :
    call c bn answer q = .error (.valueError s!"Execution optimistic on {bn.host}") := by
  obtain ⟨-, text, htext, hopt⟩ := h
  cases q with
  | getBlockRoot =>
    rw [call, getBlockRoot, htext]
    exact congrArg (Except.map Reply.blockRoot) (checkedData_of_optimistic hopt)
  | getValidators ids => exact absurd rfl (hq ids)
  | getAttesterDuties =>
    rw [call, getAttesterDuties, htext]
    exact congrArg (Except.map Reply.attesterDuties) (checkedData_of_optimistic hopt)
  | getProposerDuties =>
    rw [call, getProposerDuties, htext]
    exact congrArg (Except.map Reply.proposerDuties) (checkedData_of_optimistic hopt)
  | getSyncDuties =>
    rw [call, getSyncDuties, htext]
    exact congrArg (Except.map Reply.syncDuties) (checkedData_of_optimistic hopt)

lemma mapM_toValidatorIndexPubkey (data : List ValidatorInfo) :
    (∃ e, data.mapM (toValidatorIndexPubkey c) = .error e) ↔ ∃ v ∈ data, c.int v.index = none := by
  induction data with
  | nil => simp [pure, Except.pure]
  | cons v data ih =>
    rw [List.mapM_cons]
    cases hv : c.int v.index with
    | none => simp [toValidatorIndexPubkey, hv, bind, Except.bind]
    | some index =>
      have hhead : toValidatorIndexPubkey c v = .ok ⟨⟨index, v.pubkey⟩, v.status⟩ := by
        simp [toValidatorIndexPubkey, hv]
      rw [hhead]
      simp only [List.mem_cons, exists_eq_or_imp, hv, reduceCtorEq, false_or, ← ih]
      cases data.mapM (toValidatorIndexPubkey c) with
      | error e => simp [bind, Except.bind]
      | ok l => simp [bind, Except.bind, pure, Except.pure]

/-- An optimistic response with validators is delivered, unless one of them has no number. -/
lemma getValidators_of_optimistic {ids : List String}
    (h : Optimistic c bn answer (.getValidators ids)) :
    (∃ e, call c bn answer (.getValidators ids) = .error e) ↔ ¬ Numbered c bn answer := by
  obtain ⟨hids, text, htext, hopt⟩ := h
  have hids : ids ≠ [] := fun he => hids (he ▸ rfl)
  obtain ⟨response, hdecode, -⟩ := response_of_optimistic hopt
  have hcall : call c bn answer (.getValidators ids) =
      (response.data.mapM (toValidatorIndexPubkey c)).map .validators := by
    simp [call, getValidators, hids, htext, hdecode, Except.mapError, bind, Except.bind]
  have hraise : (∃ e, call c bn answer (.getValidators ids) = .error e) ↔
      ∃ e, response.data.mapM (toValidatorIndexPubkey c) = .error e := by
    rw [hcall]
    cases response.data.mapM (toValidatorIndexPubkey c) with
    | error e => simp [Except.map]
    | ok l => simp [Except.map]
  rw [hraise, mapM_toValidatorIndexPubkey]
  constructor
  · rintro ⟨v, hv, hnone⟩ hnum
    exact hnum text response htext hdecode v hv hnone
  · intro hnum
    by_contra hall
    refine hnum fun text' response' ht hd v hv hnone => hall ⟨v, ?_, hnone⟩
    obtain rfl : text' = text := Except.ok.inj (ht.symm.trans htext)
    obtain rfl : response' = response := Except.ok.inj (hd.symm.trans hdecode)
    exact hv

/-! ### The stream -/

/-- The stream comes to an event that can be read. -/
inductive Reached (c : Client) (event : Event) : List Line → Prop
  | here {line : String} {lines rest : List Line} {data : List String}
      (begins : line.startsWith "event:" = true) (read : eventData lines = .ok (data, rest))
      (decoded : decodeStruct c (eventName line) data = .ok event) :
      Reached c event (.ok line :: lines)
  | skipped {line : String} {lines : List Line} (begins : line.startsWith "event:" = false)
      (reached : Reached c event lines) : Reached c event (.ok line :: lines)
  | later {line : String} {lines rest : List Line} {data : List String} {e : Event}
      (begins : line.startsWith "event:" = true) (read : eventData lines = .ok (data, rest))
      (yielded : decodeEvent c (eventName line) data = .ok e) (reached : Reached c event rest) :
      Reached c event (.ok line :: lines)

lemma not_optimistic_of_decodeEvent {name : String} {data : List String} {event : Event}
    (h : decodeEvent c name data = .ok event) : event.executionOptimistic ≠ some true := by
  unfold decodeEvent at h
  cases hd : decodeStruct c name data with
  | error e => simp [hd, bind, Except.bind] at h
  | ok e =>
    simp only [hd, bind, Except.bind] at h
    split_ifs at h with hopt
    obtain rfl := Except.ok.inj h
    exact hopt

lemma decodeEvent_of_optimistic {name : String} {data : List String} {event : Event}
    (h : decodeStruct c name data = .ok event) (hopt : event.executionOptimistic = some true) :
    decodeEvent c name data =
      .error (.valueError s!"Execution optimistic for event: {c.reprEvent event.event}") := by
  simp [decodeEvent, h, hopt, bind, Except.bind, throw, throwThe, MonadExceptOf.throw]

/-- No event that is yielded is optimistic. -/
lemma yielded_not_optimistic {event : Event} (h : event ∈ (subscribeToEvents c lines).1) :
    event.executionOptimistic ≠ some true := by
  fun_induction subscribeToEvents c lines with
  | case1 => simp at h
  | case2 => simp at h
  | case3 => simp at h
  | case4 => simp at h
  | case5 line lines begins data rest read e yielded events err heq ih =>
    rcases List.mem_cons.mp h with rfl | h
    · exact not_optimistic_of_decodeEvent yielded
    · exact ih (by rw [heq]; exact h)
  | case6 line lines begins ih => exact ih h

/-- An optimistic event that the stream comes to ends it. -/
lemma raised_of_reached {event : Event} (h : Reached c event lines)
    (hopt : event.executionOptimistic = some true) : (subscribeToEvents c lines).2 =
      some (.valueError s!"Execution optimistic for event: {c.reprEvent event.event}") := by
  induction h with
  | here begins read decoded =>
    have hraise := decodeEvent_of_optimistic decoded hopt
    rw [subscribeToEvents, if_pos begins]
    split
    · simp_all
    · simp_all
  | skipped begins _ ih =>
    rw [subscribeToEvents, if_neg (by simp [begins])]
    exact ih
  | later begins read yielded _ ih =>
    rw [subscribeToEvents, if_pos begins]
    split
    · simp_all
    · simp_all

end Vero.BeaconNode

namespace Vero.MultiBeaconNode

open BeaconNode

variable {c : Client} {nodes : List Scored} {answers : Scored → Answer}
variable {completion : Completion nodes} {q : Query} {lines : List Line}

/-! ### Whose data is returned -/

/-- The node whose reply a request returns. -/
def responder (c : Client) (nodes : List Scored) (answers : Scored → Answer)
    (completion : Completion nodes) (q : Query) : Option Scored :=
  match q with
  | .getValidators _ => completion.order.find? fun bn => (call c bn (answers bn) q).isOk
  | .getBlockRoot | .getAttesterDuties | .getProposerDuties | .getSyncDuties =>
    (bestBeaconNode nodes).filter fun bn => (call c bn (answers bn) q).isOk

lemma mem_initializedNodes_of_best {bn : Scored} (h : bestBeaconNode nodes = some bn) :
    bn ∈ initializedNodes nodes := by
  have hm := List.mem_of_mem_head? (Option.mem_def.mpr h)
  exact (List.mergeSort_perm _ _).mem_iff.mp hm

lemma mem_initializedNodes_of_responder {bn : Scored}
    (h : responder c nodes answers completion q = some bn) : bn ∈ initializedNodes nodes := by
  cases q with
  | getValidators ids => exact completion.each.mem_iff.mp (List.mem_of_find?_eq_some h)
  | getBlockRoot | getAttesterDuties | getProposerDuties | getSyncDuties =>
    exact mem_initializedNodes_of_best (Option.filter_eq_some_iff.mp h).1

/-- The first response is that of the first node that gives one. -/
lemma getFirst_map {α β : Type} {funcName : String} {f : α → Except Error β} {l : List α} {b : β} :
    getFirstBeaconNodeResponse funcName (l.map f) = .ok b ↔
      ∃ a, l.find? (fun a => (f a).isOk) = some a ∧ f a = .ok b := by
  induction l with
  | nil => simp [getFirstBeaconNodeResponse]
  | cons a l ih =>
    rw [List.map_cons, List.find?_cons]
    cases hf : f a with
    | error e => simpa [getFirstBeaconNodeResponse, Except.isOk, Except.toBool] using ih
    | ok b' => simp [getFirstBeaconNodeResponse, Except.isOk, Except.toBool, hf]

/-- What a request returns is what its responder returns. -/
lemma request_eq_ok_iff {reply : Reply} : request c nodes answers completion q = .ok reply ↔
    ∃ bn, responder c nodes answers completion q = some bn ∧
      call c bn (answers bn) q = .ok reply := by
  have hbest : (match bestBeaconNode nodes with
      | some bn => call c bn (answers bn) q
      | none => .error (.runtimeError "coroutine raised StopIteration")) = .ok reply ↔
      ∃ bn, (bestBeaconNode nodes).filter (fun bn => (call c bn (answers bn) q).isOk) = some bn ∧
        call c bn (answers bn) q = .ok reply := by
    cases hb : bestBeaconNode nodes with
    | none => simp
    | some bn =>
      simp only [Option.filter_eq_some_iff, Option.some.injEq]
      constructor
      · intro h
        exact ⟨bn, ⟨rfl, by simp [h, Except.isOk, Except.toBool]⟩, h⟩
      · rintro ⟨bn, ⟨rfl, -⟩, h⟩
        exact h
  cases q with
  | getValidators ids => exact getFirst_map
  | getBlockRoot | getAttesterDuties | getProposerDuties | getSyncDuties => exact hbest

/-! ### Main result -/

/-- Optimistic data is refused: nodes raise for it, no request returns any, and the stream of
events raises instead of yielding it. -/
structure Refused (c : Client) (nodes : List Scored) (answers : Scored → Answer)
    (completion : Completion nodes) (q : Query) (lines : List Line) : Prop where
  rejected : ∀ bn ∈ initializedNodes nodes, Optimistic c bn (answers bn) q →
    ∃ e, call c bn (answers bn) q = .error e
  returned : ∀ reply, request c nodes answers completion q = .ok reply → ∃ bn,
    responder c nodes answers completion q = some bn ∧ call c bn (answers bn) q = .ok reply ∧
      ¬ Optimistic c bn (answers bn) q
  yielded : ∀ event ∈ (subscribeToEvents c lines).1, event.executionOptimistic ≠ some true
  raised : ∀ event, Reached c event lines → event.executionOptimistic = some true →
    ∃ message, (subscribeToEvents c lines).2 = some (.valueError message)

/-- **When optimistic data is refused.** Every optimistic response and event is refused,
however many nodes there are and in whatever order they answer, unless the query is
`get_validators` and an optimistic response to it has a number for every index. -/
theorem refused_iff (c : Client) (nodes : List Scored) (answers : Scored → Answer)
    (completion : Completion nodes) (q : Query) (lines : List Line) :
    Refused c nodes answers completion q lines ↔ ∀ ids, q = .getValidators ids →
      ∀ bn ∈ initializedNodes nodes, Optimistic c bn (answers bn) q →
        ¬ Numbered c bn (answers bn) := by
  constructor
  · rintro h ids rfl bn hbn hopt
    exact (getValidators_of_optimistic hopt).mp (h.rejected bn hbn hopt)
  · intro h
    have hrejected : ∀ bn ∈ initializedNodes nodes, Optimistic c bn (answers bn) q →
        ∃ e, call c bn (answers bn) q = .error e := by
      intro bn hbn hopt
      by_cases hq : ∃ ids, q = .getValidators ids
      · obtain ⟨ids, rfl⟩ := hq
        exact (getValidators_of_optimistic hopt).mpr (h ids rfl bn hbn hopt)
      · exact ⟨_, call_of_optimistic hopt fun ids he => hq ⟨ids, he⟩⟩
    refine ⟨hrejected, fun reply hreply => ?_, fun event => yielded_not_optimistic,
      fun event hreached hopt => ⟨_, raised_of_reached hreached hopt⟩⟩
    obtain ⟨bn, hbn, hcall⟩ := request_eq_ok_iff.mp hreply
    refine ⟨bn, hbn, hcall, fun hopt => ?_⟩
    obtain ⟨e, he⟩ := hrejected bn (mem_initializedNodes_of_responder hbn) hopt
    rw [hcall] at he
    cases he

/-! ### The validators of an optimistic node -/

/-- The response about one validator, as an optimistic node sends it. -/
def optimisticValidator : String :=
  "\x7b\"execution_optimistic\":true,\"data\":[\x7b\"index\":\"7\"," ++
    "\"status\":\"active_ongoing\",\"validator\":\x7b\"pubkey\":\"0xa\"\x7d\x7d]\x7d"

/-- A client that can read this response. -/
def oneValidator : Client where
  getBlockRootResponse := fun _ => .error ""
  getStateValidatorsResponse := fun text =>
    if text = optimisticValidator then .ok ⟨true, [⟨"7", .activeOngoing, "0xa"⟩]⟩ else .error ""
  getAttesterDutiesResponse := fun _ => .error ""
  getProposerDutiesResponse := fun _ => .error ""
  getSyncDutiesResponse := fun _ => .error ""
  headEvent := fun _ => .error ""
  chainReorgEvent := fun _ => .error ""
  attesterSlashingEvent := fun _ => .error ""
  proposerSlashingEvent := fun _ => .error ""
  int := decimal
  reprLines := fun _ => ""
  reprEvent := fun _ => ""

def node : Scored := ⟨⟨"a", true⟩, 100, by decide, by decide⟩

def answer : Answer := .ok
  ⟨200, "http://a/eth/v1/beacon/states/head/validators", some "application/json",
    .ok optimisticValidator⟩

/-- The validator is returned, though the response is optimistic. -/
theorem optimistic_validator_returned :
    Optimistic oneValidator node answer (.getValidators ["0xa"]) ∧
    request oneValidator [node] (fun _ => answer) ⟨[node], .refl _⟩ (.getValidators ["0xa"]) =
      .ok (.validators [⟨⟨7, "0xa"⟩, .activeOngoing⟩]) ∧
    ¬ Refused oneValidator [node] (fun _ => answer) ⟨[node], .refl _⟩ (.getValidators ["0xa"])
      [] := by
  have hopt : Optimistic oneValidator node answer (.getValidators ["0xa"]) :=
    ⟨by decide, optimisticValidator, rfl, by
      simp [executionOptimistic, oneValidator, Except.toOption]⟩
  have hcall : call oneValidator node answer (.getValidators ["0xa"]) =
      .ok (.validators [⟨⟨7, "0xa"⟩, .activeOngoing⟩]) := by
    have hint : decimal "7" = some 7 := by decide
    have htext : (makeRequest node answer).2 = .ok optimisticValidator := rfl
    simp [call, getValidators, htext, oneValidator, toValidatorIndexPubkey, hint, Except.mapError,
      Except.map, bind, Except.bind, pure, Except.pure]
  refine ⟨hopt, ?_, fun h => ?_⟩
  · simp [request, hcall, getFirstBeaconNodeResponse]
  · obtain ⟨e, he⟩ := h.rejected node (by simp [initializedNodes, node]) hopt
    rw [hcall] at he
    cases he

end Vero.MultiBeaconNode
