import Vero.KeymanagerReports

/-!
The Keymanager API: its endpoints behind the two middlewares.

Before the middlewares the server refuses a request that expects what it does not know. A handler
waits for the body of its request, and on a voluntary exit for a beacon node and a signer. From the
body on no other handler comes between what it reads and what it writes, so a request is one step.
-/

namespace Vero

/-! ### Bodies -/

namespace SchemaKeymanagerAPI

open Lib Keymanager

/-- `^0x[a-fA-F0-9]{96}$` -/
def pubkey : Regex := (hexadecimal 96).whole

structure ImportRemoteKeysRequest where
  remoteKeys : List RemoteKey
  valid : ∀ k ∈ remoteKeys, pubkey.search k.pubkey.toList = true

structure DeleteRemoteKeysRequest where
  pubkeys : List String
  valid : ∀ k ∈ pubkeys, pubkey.search k.toList = true

structure SetFeeRecipientRequest where
  ethaddress : String
  valid : ethAddress.search ethaddress.toList = true

structure SetGasLimitRequest where
  gasLimit : String
  valid : uint64String.search gasLimit.toList = true

structure SetGraffitiRequest where
  graffiti : String

structure RemoteKeyWithReadOnlyStatus extends RemoteKey where
  readonly : Bool
  deriving DecidableEq

structure VoluntaryExit where
  epoch : String
  validatorIndex : String
  deriving DecidableEq

structure SignedVoluntaryExit where
  message : VoluntaryExit
  signature : String
  deriving DecidableEq

end SchemaKeymanagerAPI

namespace SchemaRemoteSigner

structure VoluntaryExitSignableMessage where
  forkInfo : ForkInfo
  voluntaryExit : SchemaKeymanagerAPI.VoluntaryExit
  deriving DecidableEq

end SchemaRemoteSigner

end Vero

namespace Vero.KeymanagerApi

open Lib Lib.Runs Keymanager SchemaKeymanagerAPI SchemaRemoteSigner
open ValidatorStatusTrackerService (ValidatorIndexPubkey)

/-- The text may not fit the type, or not be JSON at all. -/
inductive DecodeError
  | validationError (text : String)
  | malformed (text : String)

/-- What is raised on the way to a response. -/
inductive Raised
  | httpException (statusCode : ℕ) (reason : String)
  | validationError (text : String)
  | pubkeyNotFound (pubkey : String)
  | exception (text : String)
  deriving DecidableEq

def Raised.ofDecodeError : DecodeError → Raised
  | .validationError text => .validationError text
  | .malformed text => .exception text

def Raised.ofException : Exception → Raised
  | .pubkeyNotFound pubkey => .pubkeyNotFound pubkey
  | .raised text => .exception text

/-- The message of an error is a reason, or else the `repr` of what was raised. -/
inductive Body
  | empty
  | text (text : String)
  | error (raised : Raised)
  | listFeeRecipient (data : ValidatorFeeRecipient)
  | listGasLimit (data : ValidatorGasLimit)
  | graffiti (data : ValidatorGraffiti)
  | listRemoteKeys (data : List RemoteKeyWithReadOnlyStatus)
  | importRemoteKeys (data : List ImportStatusMessage)
  | deleteRemoteKeys (data : List DeleteStatusMessage)
  | signVoluntaryExit (data : SignedVoluntaryExit)
  deriving DecidableEq

structure Response where
  status : ℕ
  body : Body
  deriving DecidableEq

/-- A request, and what is met on the way: what each statement raises in the database, the
validators that beacon nodes answer with, and the time at which they have. -/
structure Request where
  method : String
  /-- The segments of the path, decoded. -/
  path : List String
  epoch : Option String
  authorization : Option String
  /-- The `Expect` header of a request of HTTP/1.1, which alone may have one. -/
  expect : Option String
  content : Except String (List UInt8)
  faults : ℕ → Fault
  validators : Except String (List ValidatorIndexPubkey)
  time : ℚ

/-- The app with its token, the decoders of `msgspec`, Python's `int`, and the signers. -/
structure Server where
  bearerToken : String
  setFeeRecipientRequest : List UInt8 → Except DecodeError SetFeeRecipientRequest
  setGasLimitRequest : List UInt8 → Except DecodeError SetGasLimitRequest
  setGraffitiRequest : List UInt8 → Except DecodeError SetGraffitiRequest
  importRemoteKeysRequest : List UInt8 → Except DecodeError ImportRemoteKeysRequest
  deleteRemoteKeysRequest : List UInt8 → Except DecodeError DeleteRemoteKeysRequest
  int : String → Option ℤ
  remote : Remote VoluntaryExitSignableMessage
  genesis : Genesis
  cliArgs : CLIArgs

/-! ### Routes -/

inductive Endpoint
  | feeRecipientGet (pubkey : String)
  | feeRecipientPost (pubkey : String)
  | feeRecipientDelete (pubkey : String)
  | gasLimitGet (pubkey : String)
  | gasLimitPost (pubkey : String)
  | gasLimitDelete (pubkey : String)
  | graffitiGet (pubkey : String)
  | graffitiPost (pubkey : String)
  | graffitiDelete (pubkey : String)
  | remoteKeysGet
  | remoteKeysPost
  | remoteKeysDelete
  | voluntaryExitPost (pubkey : String)
  deriving DecidableEq

/-- The endpoints at a path, by their methods. A `HEAD` goes to the handler of `GET`, and
`{pubkey}` stands for no empty segment. -/
def routes : List String → List (String × Endpoint)
  | ["eth", "v1", "validator", "", _] => []
  | ["eth", "v1", "validator", pubkey, "feerecipient"] =>
    [("GET", .feeRecipientGet pubkey), ("HEAD", .feeRecipientGet pubkey),
      ("POST", .feeRecipientPost pubkey), ("DELETE", .feeRecipientDelete pubkey)]
  | ["eth", "v1", "validator", pubkey, "gas_limit"] =>
    [("GET", .gasLimitGet pubkey), ("HEAD", .gasLimitGet pubkey),
      ("POST", .gasLimitPost pubkey), ("DELETE", .gasLimitDelete pubkey)]
  | ["eth", "v1", "validator", pubkey, "graffiti"] =>
    [("GET", .graffitiGet pubkey), ("HEAD", .graffitiGet pubkey),
      ("POST", .graffitiPost pubkey), ("DELETE", .graffitiDelete pubkey)]
  | ["eth", "v1", "remotekeys"] =>
    [("GET", .remoteKeysGet), ("HEAD", .remoteKeysGet), ("POST", .remoteKeysPost),
      ("DELETE", .remoteKeysDelete)]
  | ["eth", "v1", "validator", pubkey, "voluntary_exit"] => [("POST", .voluntaryExitPost pubkey)]
  | _ => []

def resolve (r : Request) : Except Raised Endpoint :=
  match routes r.path with
  | [] => .error (.httpException 404 "Not Found")
  | found =>
    match found.lookup r.method with
    | some endpoint => .ok endpoint
    | none => .error (.httpException 405 "Method Not Allowed")

/-! ### Handlers -/

/-- What a handler makes of a manager. -/
abbrev Handled := State × Except Raised Response

def Request.read {α : Type} (r : Request) (decode : List UInt8 → Except DecodeError α) :
    Except Raised α :=
  match r.content with
  | .error text => .error (.exception text)
  | .ok content => (decode content).mapError .ofDecodeError

/-- A handler that reads its body first. -/
def withBody {α : Type} (r : Request) (decode : List UInt8 → Except DecodeError α) (s : State)
    (handler : α → Handled) : Handled :=
  match r.read decode with
  | .error e => (s, .error e)
  | .ok requestData => handler requestData

/-- The end of a handler that has called the manager. -/
def answer {α : Type} (status : ℕ) (body : α → Body) (p : State × Except Exception α) : Handled :=
  (p.1, (p.2.mapError .ofException).map fun data => ⟨status, body data⟩)

variable (srv : Server) (r : Request) (s : State)

def feeRecipientGet (pubkey : String) : Handled :=
  answer 200 .listFeeRecipient (s, getFeeRecipient s srv.cliArgs pubkey (r.faults 0))

def feeRecipientPost (pubkey : String) : Handled :=
  withBody r srv.setFeeRecipientRequest s fun requestData =>
    if requestData.ethaddress = "0x0000000000000000000000000000000000000000" then
      (s, .error (.httpException 400
        "Cannot specify the 0x00 fee recipient address through the API."))
    else answer 202 (fun _ => .empty) (setFeeRecipient s pubkey requestData.ethaddress (r.faults 0))

def feeRecipientDelete (pubkey : String) : Handled :=
  answer 204 (fun _ => .empty) (deleteConfiguredFeeRecipient s pubkey (r.faults 0))

def gasLimitGet (pubkey : String) : Handled :=
  answer 200 .listGasLimit (s, getGasLimit s srv.cliArgs pubkey (r.faults 0))

def gasLimitPost (pubkey : String) : Handled :=
  withBody r srv.setGasLimitRequest s fun requestData =>
    answer 202 (fun _ => .empty) (setGasLimit s pubkey requestData.gasLimit (r.faults 0))

def gasLimitDelete (pubkey : String) : Handled :=
  answer 204 (fun _ => .empty) (deleteConfiguredGasLimit s pubkey (r.faults 0))

def graffitiGet (pubkey : String) : Handled :=
  answer 200 .graffiti (s, getGraffiti s srv.cliArgs pubkey (r.faults 0))

def graffitiPost (pubkey : String) : Handled :=
  withBody r srv.setGraffitiRequest s fun requestData =>
    match encodeGraffiti requestData.graffiti with
    | .error text => (s, .error (.exception text))
    | .ok _ => answer 202 (fun _ => .empty) (setGraffiti s pubkey requestData.graffiti (r.faults 0))

def graffitiDelete (pubkey : String) : Handled :=
  answer 204 (fun _ => .empty) (deleteConfiguredGraffitiValue s pubkey (r.faults 0))

def listRemoteKeys : List RemoteKey :=
  s.pubkeyToRemoteSigner.items.map fun it => ⟨it.1, it.2.url⟩

def remoteKeysGet : Handled :=
  (s, .ok ⟨200, .listRemoteKeys ((listRemoteKeys s).map (⟨·, false⟩))⟩)

/-- The statements of the loop, one for each entry, with what they raise. -/
def statements {α : Type} (l : List α) (faults : ℕ → Fault) : List (α × Fault) :=
  l.zipIdx.map fun (entry, i) => (entry, faults i)

def remoteKeysPost : Handled :=
  withBody r srv.importRemoteKeysRequest s fun requestData =>
    answer 200 .importRemoteKeys
      (importRemoteKeys srv.remote.toHttp s (statements requestData.remoteKeys r.faults)
        (r.faults requestData.remoteKeys.length))

def remoteKeysDelete : Handled :=
  withBody r srv.deleteRemoteKeysRequest s fun requestData =>
    answer 200 .deleteRemoteKeys
      (deleteRemoteKeys srv.remote.toHttp s (statements requestData.pubkeys r.faults)
        (r.faults requestData.pubkeys.length))

/-- `sign` of the manager, telling a key without a signer from one whose signer fails. -/
def sign (message : VoluntaryExitSignableMessage) (identifier : String) :
    Except Raised (Signed VoluntaryExitSignableMessage) :=
  match s.pubkeyToRemoteSigner.get identifier with
  | none => .error (.pubkeyNotFound identifier)
  | some _ => (s.sign srv.remote message identifier).mapError .exception

def signVoluntaryExitMessage (pubkey : String) (epoch : Option ℤ) :
    Except Raised SignedVoluntaryExit :=
  match r.validators with
  | .error text => .error (.exception text)
  | .ok [] => .error (.exception s!"Failed to find validator index for pubkey: {pubkey}")
  | .ok (validator :: _) => do
    let epoch := epoch.getD (srv.genesis.currentEpoch r.time)
    let forkInfo ← (srv.genesis.getForkInfo (srv.genesis.slotsPerEpoch * epoch)).mapError .exception
    let message := ⟨toString epoch, toString validator.index⟩
    let (_, sig, _) ← sign srv s ⟨forkInfo, message⟩ pubkey
    return ⟨message, sig⟩

/-- `int(epoch) if epoch else None` -/
def exitEpoch : Except Raised (Option ℤ) :=
  match r.epoch.filter (· ≠ "") with
  | none => .ok none
  | some epoch =>
    match srv.int epoch with
    | none => .error (.exception s!"invalid literal for int() with base 10: '{epoch}'")
    | some epoch => .ok (some epoch)

def voluntaryExitPost (pubkey : String) : Handled :=
  match exitEpoch srv r with
  | .error e => (s, .error e)
  | .ok epoch =>
    (s, (signVoluntaryExitMessage srv r s pubkey epoch).map (⟨200, .signVoluntaryExit ·⟩))

def handle : Endpoint → Handled
  | .feeRecipientGet pubkey => feeRecipientGet srv r s pubkey
  | .feeRecipientPost pubkey => feeRecipientPost srv r s pubkey
  | .feeRecipientDelete pubkey => feeRecipientDelete r s pubkey
  | .gasLimitGet pubkey => gasLimitGet srv r s pubkey
  | .gasLimitPost pubkey => gasLimitPost srv r s pubkey
  | .gasLimitDelete pubkey => gasLimitDelete r s pubkey
  | .graffitiGet pubkey => graffitiGet srv r s pubkey
  | .graffitiPost pubkey => graffitiPost srv r s pubkey
  | .graffitiDelete pubkey => graffitiDelete r s pubkey
  | .remoteKeysGet => remoteKeysGet s
  | .remoteKeysPost => remoteKeysPost srv r s
  | .remoteKeysDelete => remoteKeysDelete srv r s
  | .voluntaryExitPost pubkey => voluntaryExitPost srv r s pubkey

/-- The handler that a request is resolved to, which for some only raises. -/
def handler : Handled :=
  match resolve r with
  | .error e => (s, .error e)
  | .ok endpoint => handle srv r s endpoint

/-! ### Middlewares -/

def bearerAuthentication (handler : State → Handled) : Handled :=
  match r.authorization.filter (· ≠ "") with
  | none => (s, .error (.httpException 401 "No value provided for Authorization header"))
  | some value =>
    if value ≠ s!"Bearer {srv.bearerToken}" then
      (s, .error (.httpException 403 "Invalid value provided for Authorization header"))
    else handler s

def Raised.statusCode : Raised → ℕ
  | .httpException statusCode _ => statusCode
  | .validationError _ => 400
  | .pubkeyNotFound _ => 500
  | .exception _ => 500

def exceptionHandler (handler : State → Handled) : State × Response :=
  match handler s with
  | (s, .ok response) => (s, response)
  | (s, .error e) => (s, ⟨e.statusCode, .error e⟩)

/-- The server itself refuses what it does not know to be expected, on any path. -/
def expectHandler : Option Response :=
  match r.expect.filter (· ≠ "") with
  | none => none
  | some expect =>
    if expect.toLower = "100-continue" then none
    else some ⟨417, .text s!"Unknown Expect: {expect}"⟩

/-- A request with its response. -/
structure Exchange where
  request : Request
  response : Response

def step : Machine State Request Exchange := fun s r =>
  match expectHandler r with
  | some response => some (s, [⟨r, response⟩])
  | none =>
    let (s, response) := exceptionHandler s fun s => bearerAuthentication srv r s (handler srv r)
    some (s, [⟨r, response⟩])

/-! ### Calls of the manager -/

/-- The request bears the token. -/
def Bears : Prop := r.authorization = some s!"Bearer {srv.bearerToken}"

instance : Decidable (Bears srv r) := inferInstanceAs (Decidable (_ = _))

/-- The request reaches a handler. -/
def Admitted : Prop := expectHandler r = none ∧ Bears srv r

instance : Decidable (Admitted srv r) := inferInstanceAs (Decidable (_ ∧ _))

/-- A handler that reads its body first calls the manager only if there is one. -/
def bodyCall {α : Type} (r : Request) (decode : List UInt8 → Except DecodeError α)
    (call : α → Option Call) : Option Call :=
  match r.read decode with
  | .error _ => none
  | .ok requestData => call requestData

/-- The call of the manager that an endpoint comes to, if it changes anything. -/
def endpointCall : Endpoint → Option Call
  | .feeRecipientPost pubkey => bodyCall r srv.setFeeRecipientRequest fun requestData =>
    if requestData.ethaddress = "0x0000000000000000000000000000000000000000" then none
    else some (.setFeeRecipient pubkey requestData.ethaddress (r.faults 0))
  | .feeRecipientDelete pubkey => some (.deleteConfiguredFeeRecipient pubkey (r.faults 0))
  | .gasLimitPost pubkey => bodyCall r srv.setGasLimitRequest fun requestData =>
    some (.setGasLimit pubkey requestData.gasLimit (r.faults 0))
  | .gasLimitDelete pubkey => some (.deleteConfiguredGasLimit pubkey (r.faults 0))
  | .graffitiPost pubkey => bodyCall r srv.setGraffitiRequest fun requestData =>
    match encodeGraffiti requestData.graffiti with
    | .error _ => none
    | .ok _ => some (.setGraffiti pubkey requestData.graffiti (r.faults 0))
  | .graffitiDelete pubkey => some (.deleteConfiguredGraffitiValue pubkey (r.faults 0))
  | .remoteKeysPost => bodyCall r srv.importRemoteKeysRequest fun requestData =>
    some (.importRemoteKeys (statements requestData.remoteKeys r.faults)
      (r.faults requestData.remoteKeys.length))
  | .remoteKeysDelete => bodyCall r srv.deleteRemoteKeysRequest fun requestData =>
    some (.deleteRemoteKeys (statements requestData.pubkeys r.faults)
      (r.faults requestData.pubkeys.length))
  | .feeRecipientGet _ | .gasLimitGet _ | .graffitiGet _ | .remoteKeysGet
  | .voluntaryExitPost _ => none

def call : Option Call :=
  if Admitted srv r then
    match resolve r with
    | .error _ => none
    | .ok endpoint => endpointCall srv r endpoint
  else none

/-- What is answered for a call of the manager. -/
def reply : Call → Output → Except Raised Response
  | _, .imported result => (result.mapError .ofException).map (⟨200, .importRemoteKeys ·⟩)
  | _, .deleted result => (result.mapError .ofException).map (⟨200, .deleteRemoteKeys ·⟩)
  | .setFeeRecipient _ _ _, .configured result
  | .setGasLimit _ _ _, .configured result
  | .setGraffiti _ _ _, .configured result =>
    (result.mapError .ofException).map fun _ => ⟨202, .empty⟩
  | _, .configured result => (result.mapError .ofException).map fun _ => ⟨204, .empty⟩

/-- A handler makes the call and tells what came of it, or leaves the manager as it is. -/
def Performs (srv : Server) (s : State) (handled : Handled) : Option Call → Prop
  | none => handled.1 = s
  | some c => ∃ out, Keymanager.step srv.remote.toHttp s c = some (handled.1, [out]) ∧
      handled.2 = reply c out

variable {srv r s} {s₀ s' : State} {requests : List Request} {es o : List Exchange}
  {endpoint : Endpoint} {c : Call}

lemma performs_withBody {α : Type} {decode : List UInt8 → Except DecodeError α}
    {handler : α → Handled} {call : α → Option Call}
    (h : ∀ requestData, Performs srv s (handler requestData) (call requestData)) :
    Performs srv s (withBody r decode s handler) (bodyCall r decode call) := by
  unfold withBody bodyCall
  cases r.read decode with
  | error e => exact rfl
  | ok requestData => exact h requestData

/-- **An endpoint changes the manager by the one call it comes to.** -/
lemma handle_performs (endpoint : Endpoint) :
    Performs srv s (handle srv r s endpoint) (endpointCall srv r endpoint) := by
  cases endpoint with
  | feeRecipientPost pubkey =>
    refine performs_withBody fun requestData => ?_
    split
    · exact rfl
    · exact ⟨_, rfl, rfl⟩
  | graffitiPost pubkey =>
    refine performs_withBody fun requestData => ?_
    cases encodeGraffiti requestData.graffiti with
    | error text => exact rfl
    | ok bytes => exact ⟨_, rfl, rfl⟩
  | gasLimitPost pubkey => exact performs_withBody fun requestData => ⟨_, rfl, rfl⟩
  | remoteKeysPost => exact performs_withBody fun requestData => ⟨_, rfl, rfl⟩
  | remoteKeysDelete => exact performs_withBody fun requestData => ⟨_, rfl, rfl⟩
  | feeRecipientDelete pubkey | gasLimitDelete pubkey | graffitiDelete pubkey =>
    exact ⟨_, rfl, rfl⟩
  | voluntaryExitPost pubkey =>
    unfold handle voluntaryExitPost
    cases exitEpoch srv r <;> exact rfl
  | feeRecipientGet _ | gasLimitGet _ | graffitiGet _ | remoteKeysGet => exact rfl

/-! ### Authentication -/

/-- What a request gets that is not admitted. -/
def refusal (r : Request) : Response :=
  match expectHandler r with
  | some response => response
  | none =>
    let e : Raised := match r.authorization.filter (· ≠ "") with
      | none => .httpException 401 "No value provided for Authorization header"
      | some _ => .httpException 403 "Invalid value provided for Authorization header"
    ⟨e.statusCode, .error e⟩

lemma bearerAuthentication_of_bears (h : Bears srv r) (handler : State → Handled) :
    bearerAuthentication srv r s handler = handler s := by
  have hvalue : r.authorization.filter (· ≠ "") = some s!"Bearer {srv.bearerToken}" := by
    rw [h, Option.filter_some, if_pos]
    rw [decide_eq_true_iff]
    intro hempty
    simp only [String.append_eq_empty_iff] at hempty
    exact absurd hempty.1 (by decide)
  unfold bearerAuthentication
  rw [hvalue]
  simp

lemma step_of_not_admitted (h : ¬ Admitted srv r) : step srv s r = some (s, [⟨r, refusal r⟩]) := by
  unfold step refusal
  cases hexpect : expectHandler r with
  | some response => rfl
  | none =>
    have hbears : ¬ Bears srv r := fun hb => h ⟨hexpect, hb⟩
    unfold exceptionHandler bearerAuthentication
    cases hvalue : r.authorization.filter (· ≠ "") with
    | none => rfl
    | some value =>
      have hne : value ≠ s!"Bearer {srv.bearerToken}" := fun heq =>
        hbears ((Option.filter_eq_some_iff.mp hvalue).1.trans (congrArg some heq))
      simp only [if_pos hne]

/-- **A request that is admitted changes the manager by its call, if it comes to one.** -/
lemma step_of_admitted (h : Admitted srv r) :
    Performs srv s (handler srv r s) (call srv r) ∧
      step srv s r = some ((handler srv r s).1,
        [⟨r, (exceptionHandler s fun _ => handler srv r s).2⟩]) := by
  constructor
  · unfold call handler
    rw [if_pos h]
    cases resolve r with
    | error e => exact rfl
    | ok endpoint => exact handle_performs endpoint
  · have hhandled : exceptionHandler s (fun s => bearerAuthentication srv r s (handler srv r)) =
        exceptionHandler s fun _ => handler srv r s := by
      unfold exceptionHandler
      dsimp only
      rw [bearerAuthentication_of_bears h.2]
    unfold step
    rw [h.1]
    dsimp only
    rw [hhandled]
    unfold exceptionHandler
    cases handler srv r s with
    | mk s' result => cases result <;> rfl

/-- Every request gets one response. -/
lemma step_total : ∃ s' response, step srv s r = some (s', [⟨r, response⟩]) := by
  by_cases h : Admitted srv r
  · exact ⟨_, _, (step_of_admitted h).2⟩
  · exact ⟨_, _, step_of_not_admitted h⟩

/-- What a step tells is its request with the response to it. -/
lemma told_of_step {o : List Exchange} (h : step srv s r = some (s', o)) :
    ∃ response, o = [⟨r, response⟩] := by
  obtain ⟨_, response, htotal⟩ := @step_total srv r s
  rw [htotal] at h
  exact ⟨response, (Prod.mk.inj (Option.some.inj h)).2.symm⟩

/-- **Only requests with the token count.** However many requests without it come in between, the
manager ends as if they had not come, the others are answered as if they had not, and each of
them learns nothing but whether its header was empty, or that the server does not know what it
expects. -/
theorem authenticated_of_run (run : Run (step srv) s₀ requests s es) :
    Run (step srv) s₀ (requests.filter fun r => Bears srv r) s
        (es.filter fun e => Bears srv e.request) ∧
      ∀ e ∈ es, ¬ Bears srv e.request → e.response = refusal e.request := by
  constructor
  · refine run.filter fun s r s' o hstep => ?_
    by_cases h : Bears srv r
    · obtain ⟨response, rfl⟩ := told_of_step hstep
      simp [h]
    · rw [step_of_not_admitted fun ha => h ha.2] at hstep
      obtain ⟨rfl, rfl⟩ := Prod.mk.inj (Option.some.inj hstep)
      simp [h]
  · refine RunIf.invariant (I := fun _ es => ∀ e ∈ es, ¬ Bears srv e.request →
      e.response = refusal e.request) (by simp) ?_ run
    intro s es r s' o hI _ hstep e he hnot
    rcases List.mem_append.mp he with hold | hnew
    · exact hI e hold hnot
    · obtain ⟨response, rfl⟩ := told_of_step hstep
      obtain rfl := List.mem_singleton.mp hnew
      rw [step_of_not_admitted fun ha => hnot ha.2] at hstep
      have htold := (Prod.mk.inj (Option.some.inj hstep)).2
      exact (congrArg Exchange.response (List.cons.inj htold).1).symm

/-! ### A server to ask -/

def someServer : Server where
  bearerToken := "c0ffee"
  setFeeRecipientRequest _ := .error (.malformed "JSON is malformed")
  setGasLimitRequest _ := .error (.malformed "JSON is malformed")
  setGraffitiRequest _ := .ok ⟨"hello"⟩
  importRemoteKeysRequest _ := .ok ⟨[someKey], by simp only [List.mem_singleton, forall_eq]
                                                  decide +kernel⟩
  deleteRemoteKeysRequest _ := .error (.malformed "JSON is malformed")
  int _ := none
  remote := alwaysSigns VoluntaryExitSignableMessage
  genesis := someGenesis
  cliArgs := ⟨"0xfee0000000000000000000000000000000000001", 60000000, defaultGraffiti⟩

def requestOf (method : String) (path : List String) (authorization : Option String) : Request where
  method
  path
  epoch := none
  authorization
  expect := none
  content := .ok []
  faults _ := none
  validators := .ok []
  time := 0

/-- A key imported by somebody without the token, who then expects what no server knows, and by
somebody with it. -/
def strangerImports : Request := requestOf "POST" ["eth", "v1", "remotekeys"] (some "Bearer tea")

def strangerExpects : Request := { strangerImports with expect := some "foo" }

def ownerImports : Request := requestOf "POST" ["eth", "v1", "remotekeys"] (some "Bearer c0ffee")

lemma not_bears_stranger : ¬ Bears someServer strangerImports := by decide

lemma bears_owner : Bears someServer ownerImports := by decide

theorem authenticated_twoImports : ∃ s es,
    Run (step someServer) (.init ∅) [strangerImports, strangerExpects, ownerImports] s es ∧
      Run (step someServer) (.init ∅) [ownerImports] s
        (es.filter fun e => Bears someServer e.request) ∧
      ∀ e ∈ es, ¬ Bears someServer e.request → e.response = refusal e.request := by
  obtain ⟨s₁, response₁, h₁⟩ := @step_total someServer strangerImports (.init ∅)
  obtain ⟨s₂, response₂, h₂⟩ := @step_total someServer strangerExpects s₁
  obtain ⟨s₃, response₃, h₃⟩ := @step_total someServer ownerImports s₂
  have run := RunIf.snoc (.snoc (.snoc (.nil (C := fun _ _ _ => True)) trivial h₁) trivial h₂)
    trivial h₃
  have hexpects : ¬ Bears someServer strangerExpects := not_bears_stranger
  have hfilter : [strangerImports, strangerExpects, ownerImports].filter
      (fun r => Bears someServer r) = [ownerImports] := by
    rw [List.filter_cons_of_neg (by simp [not_bears_stranger]),
      List.filter_cons_of_neg (by simp [hexpects]),
      List.filter_cons_of_pos (by simp [bears_owner]), List.filter_nil]
  obtain ⟨hcount, hrefused⟩ := authenticated_of_run run
  exact ⟨s₃, _, run, hfilter ▸ hcount, hrefused⟩

end Vero.KeymanagerApi
