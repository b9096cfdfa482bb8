import Vero.BlockProduction
import Vero.DutyCache
import Vero.FeeRecipientArgument
import Vero.KeymanagerReports
import Vero.Lib.Separated
import Vero.OptimisticResponses
import Vero.RunServices

/-!
The command line arguments: what is taken of them, and the nodes that are made from them.

`argparse` has read them into a namespace. A list of URLs comes as one text with commas in it.
-/

namespace Vero.Args

open Lib

/-- What `urlparse` finds in a URL. -/
structure ParseResult where
  scheme : String
  netloc : String
  hostname : Option String

/-- `urlparse`, `pathlib` and `yarl`, how texts and exceptions are printed, and the version of the
service. Two paths are equal where they print alike. -/
structure Libraries (Path : Type) where
  urlparse : String → Except String ParseResult
  url : String → Except String Unit
  path : String → Path
  join : Path → String → Path
  str : Path → String
  str_injective : Function.Injective str
  reprList : List String → String
  reprFromHexError : String → String
  version : String

/-! ### What was parsed -/

def networkValue : Network → String
  | .mainnet => "mainnet"
  | .hoodi => "hoodi"
  | .gnosis => "gnosis"
  | .chiado => "chiado"
  | .tests => "_tests"
  | .custom => "custom"

def networks : List Network := [.mainnet, .hoodi, .gnosis, .chiado, .tests, .custom]

def networkChoices : List String := (networks.filter (· ≠ .tests)).map networkValue

/-- `Network(value)` -/
def networkOf (value : String) : Option Network := networks.find? fun n => networkValue n = value

def getLevelNamesMapping : List (String × ℕ) :=
  [("CRITICAL", 50), ("FATAL", 50), ("ERROR", 40), ("WARN", 30), ("WARNING", 30), ("INFO", 20),
    ("DEBUG", 10), ("NOTSET", 0)]

def levelToName : List (ℕ × String) :=
  [(50, "CRITICAL"), (40, "ERROR"), (30, "WARNING"), (20, "INFO"), (10, "DEBUG"), (0, "NOTSET")]

/-- A choice of each kind, and one of the two sources of keys. -/
structure Namespace where
  network : String
  networkCustomConfigPath : Option String
  remoteSignerUrl : Option String
  beaconNodeUrls : String
  beaconNodeUrlsProposal : String
  attestationConsensusThreshold : Option ℤ
  feeRecipient : String
  dataDir : String
  graffiti : String
  gasLimit : Option ℤ
  useExternalBuilder : Bool
  builderBoostFactor : ℤ
  enableDoppelgangerDetection : Bool
  enableKeymanagerApi : Bool
  keymanagerApiTokenFilePath : Option String
  keymanagerApiAddress : String
  keymanagerApiPort : ℤ
  metricsAddress : String
  metricsPort : ℤ
  logLevel : String
  ignoreSpecMismatch : Bool
  dangerDisableSlashingDetection : Bool
  network_mem : network ∈ networkChoices
  logLevel_mem : logLevel ∈ getLevelNamesMapping.map Prod.fst
  keySource : remoteSignerUrl.isSome ≠ enableKeymanagerApi

/-- All arguments, those that startup and the proposals depend on among them. -/
@[ext]
structure CLIArgs (Path : Type) extends
    toProposals : Vero.CLIArgs, toStartup : RunServices.CLIArgs where
  network : Network
  networkCustomConfigPath : Option String
  beaconNodeUrls : List String
  beaconNodeUrlsProposal : List String
  attestationConsensusThreshold : ℤ
  dataDir : String
  useExternalBuilder : Bool
  builderBoostFactor : ℤ
  keymanagerApiTokenFilePath : Path
  keymanagerApiAddress : String
  keymanagerApiPort : ℤ
  metricsAddress : String
  metricsPort : ℤ
  logLevel : ℕ
  ignoreSpecMismatch : Bool
  disableSlashingDetection : Bool

/-! ### Processing -/

/-- How the program ends without having started: with `parser.error`, given a message or a
`ValueError`, or with a `KeyError`. -/
inductive Exit
  | error (message : String)
  | valueError (text : String)
  | keyError (network : Network)
  deriving DecidableEq

variable {Path : Type} (lib : Libraries Path)

def validateUrl (url : String) : Except String String :=
  match lib.urlparse url with
  | .error e => .error e
  | .ok parsed =>
    if parsed.scheme ≠ "" ∧ parsed.netloc ≠ "" then .ok url else .error s!"Invalid URL: {url}"

def stripped (inputString : String) : List String :=
  (inputString.toList.splitOn ',').map fun item => BeaconNode.strip (.ofList item)

def validateCommaSeparatedStrings (inputString entityName : String) (minValuesRequired : ℕ) :
    Except String (List String) :=
  let items := (stripped inputString).filter (· ≠ "")
  if items.length < minValuesRequired then .error s!"Not enough {entityName}s provided"
  else if items.length ≠ items.dedup.length then
    .error s!"{entityName}s must be unique: {lib.reprList items}"
  else .ok items

/-- What a validation raises is given to `parser.error`. -/
def raised {α : Type} (r : Except String α) : Except Exit α := r.mapError .valueError

/-- A list of URLs of which no two have the same host name. -/
def validatedUrls (inputString entityName : String) (minValuesRequired : ℕ)
    (hostnameError : String) : Except Exit (List String) := do
  let items ← raised (validateCommaSeparatedStrings lib inputString entityName minValuesRequired)
  let urls ← raised (items.mapM (validateUrl lib))
  let parsed ← raised (urls.mapM lib.urlparse)
  if (parsed.map ParseResult.hostname).dedup.length ≠ urls.length then throw (.error hostnameError)
  return urls

def processGasLimit (inputValue : Option ℤ) (network : Network) : Except Exit ℤ :=
  match inputValue, network with
  | some value, _ => .ok value
  | none, .mainnet => .ok 60000000
  | none, .gnosis => .ok 17000000
  | none, .hoodi => .ok 60000000
  | none, .chiado => .ok 17000000
  | none, .custom => .ok 100000000
  | none, .tests => .error (.keyError .tests)

def keymanagerApiTokenFilePath (p : Namespace) : Path :=
  match p.keymanagerApiTokenFilePath.filter (· ≠ "") with
  | some file => lib.path file
  | none => lib.join (lib.path p.dataDir) "keymanager-api-token.txt"

def parseNetwork (value : String) : Except Exit Network :=
  match networkOf value with
  | some network => .ok network
  | none => .error (.valueError s!"'{value}' is not a valid Network")

/-- `parse_cli_args`, from what `argparse` read. -/
def parseCliArgs (p : Namespace) : Except Exit (CLIArgs Path) := do
  let beaconNodeUrls ← validatedUrls lib p.beaconNodeUrls "beacon node url" 1
    "Beacon node URLs must have unique hostnames."
  let beaconNodeUrlsProposal ← validatedUrls lib p.beaconNodeUrlsProposal
    "proposal beacon node url" 0 "Proposal beacon node URLs must have unique hostnames."
  let network ← parseNetwork p.network
  let remoteSignerUrl ← raised (p.remoteSignerUrl.mapM (validateUrl lib))
  let attestationConsensusThreshold ←
    raised (processAttestationConsensusThreshold p.attestationConsensusThreshold beaconNodeUrls)
  let feeRecipient ← raised (processFeeRecipient lib.reprFromHexError p.feeRecipient)
  let graffiti ← raised (encodeGraffiti p.graffiti)
  let gasLimit ← processGasLimit p.gasLimit network
  return {
    network, remoteSignerUrl, beaconNodeUrls, beaconNodeUrlsProposal
    attestationConsensusThreshold, feeRecipient, graffiti, gasLimit
    networkCustomConfigPath := p.networkCustomConfigPath
    dataDir := p.dataDir
    useExternalBuilder := p.useExternalBuilder
    builderBoostFactor := p.builderBoostFactor
    enableDoppelgangerDetection := p.enableDoppelgangerDetection
    enableKeymanagerApi := p.enableKeymanagerApi
    keymanagerApiTokenFilePath := keymanagerApiTokenFilePath lib p
    keymanagerApiAddress := p.keymanagerApiAddress
    keymanagerApiPort := p.keymanagerApiPort
    metricsAddress := p.metricsAddress
    metricsPort := p.metricsPort
    logLevel := (getLevelNamesMapping.lookup p.logLevel).getD 0
    ignoreSpecMismatch := p.ignoreSpecMismatch
    disableSlashingDetection := p.dangerDisableSlashingDetection }

/-! ### The nodes -/

/-- The constructor of `BeaconNode`, as far as it depends on the URL. -/
def beaconNode (baseUrl : String) : Except String BeaconNode := do
  lib.url baseUrl
  let parsed ← lib.urlparse baseUrl
  let host := parsed.hostname.getD ""
  if host = "" then throw s!"Failed to parse hostname from {baseUrl}"
  return ⟨host, false⟩

/-- The nodes of `MultiBeaconNode`, and those for proposals. -/
def beaconNodes (args : CLIArgs Path) : Except String (List BeaconNode × List BeaconNode) := do
  let nodes ← args.beaconNodeUrls.mapM (beaconNode lib)
  let proposal ← args.beaconNodeUrlsProposal.mapM (beaconNode lib)
  return (nodes, proposal)

variable {lib : Libraries Path} {p : Namespace} {args : CLIArgs Path}

/-! ### Lists of URLs -/

/-- A text that stands for itself in a list with commas. -/
def Item (s : String) : Prop := Separated.Item BeaconNode.isSpace ',' s.toList

lemma filter_stripped (s : String) : (stripped s).filter (· ≠ "") =
    (Separated.read BeaconNode.isSpace ',' s.toList).map String.ofList := by
  have hstrip : (fun item => BeaconNode.strip (String.ofList item)) =
      String.ofList ∘ Separated.trim BeaconNode.isSpace := by
    ext1 item
    unfold BeaconNode.strip
    rw [String.toList_ofList]
    rfl
  have hne : ((fun item : String => decide (item ≠ "")) ∘
      String.ofList ∘ Separated.trim BeaconNode.isSpace) =
      (fun l : List Char => decide (l ≠ [])) ∘ Separated.trim BeaconNode.isSpace := by
    ext1 item
    simp [String.ofList_eq_empty_iff]
  unfold stripped Separated.read
  rw [List.filter_map, List.filter_map, List.map_map, hstrip, hne]

lemma nodup_of_length_dedup {α : Type} [DecidableEq α] {l : List α}
    (h : l.dedup.length = l.length) : l.Nodup := by
  rw [← (List.dedup_sublist l).eq_of_length h]
  exact List.nodup_dedup l

/-- The URLs of an accepted list: there are enough of them, each is a URL, and no two of them are
or print alike or have the same host name. -/
structure Listed (lib : Libraries Path) (minValuesRequired : ℕ) (urls : List String) : Prop where
  enough : minValuesRequired ≤ urls.length
  items : ∀ url ∈ urls, Item url
  valid : ∀ url ∈ urls, validateUrl lib url = .ok url
  hostnames : ∃ parsed : List ParseResult, urls.map lib.urlparse = parsed.map .ok ∧
    (parsed.map ParseResult.hostname).Nodup

lemma validateUrl_eq_ok {url url' : String} (h : validateUrl lib url = .ok url') : url' = url := by
  unfold validateUrl at h
  split at h
  · cases h
  · split_ifs at h
    exact (Except.ok.inj h).symm

lemma mapM_eq_ok {α β ε : Type} {f : α → Except ε β} {l : List α} {out : List β} :
    l.mapM f = .ok out ↔ l.map f = out.map .ok := (Tasks.allDone_mapM f l).ok_iff out

lemma items_of_validate {inputString entityName : String} {n : ℕ} {items : List String}
    (h : validateCommaSeparatedStrings lib inputString entityName n = .ok items) :
    n ≤ items.length ∧ ∀ s ∈ items, Item s := by
  unfold validateCommaSeparatedStrings at h
  dsimp only at h
  split_ifs at h with hlen
  obtain rfl := Except.ok.inj h
  refine ⟨not_lt.mp hlen, fun s hs => ?_⟩
  rw [filter_stripped] at hs
  obtain ⟨l, hl, rfl⟩ := List.mem_map.mp hs
  unfold Item
  rw [String.toList_ofList]
  exact Separated.item_of_mem_read hl

lemma listed_of_validatedUrls {inputString entityName hostnameError : String} {n : ℕ}
    {urls : List String}
    (h : validatedUrls lib inputString entityName n hostnameError = .ok urls) :
    Listed lib n urls := by
  unfold validatedUrls raised at h
  simp only [DutyCache.bind_eq_ok, DutyCache.mapError_eq_ok, mapM_eq_ok] at h
  obtain ⟨items, hitems, urls', hurls, parsed, hparsed, h⟩ := h
  obtain ⟨hlen, hitem⟩ := items_of_validate hitems
  -- the URLs are the items themselves
  obtain rfl : urls' = items := by
    have hsame := Tasks.map_of_values hurls (g := id) fun url url' hurl => validateUrl_eq_ok hurl
    rwa [List.map_id] at hsame
  split_ifs at h with hnames
  · cases h
  · obtain rfl : urls' = urls := Except.ok.inj h
    refine ⟨hlen, hitem, fun url hurl => ?_, parsed, hparsed, ?_⟩
    · obtain ⟨url', -, hvalid⟩ := Tasks.exists_value hurls hurl
      rw [hvalid, validateUrl_eq_ok hvalid]
    · refine nodup_of_length_dedup ?_
      have hcount := congrArg List.length hparsed
      rw [List.length_map, List.length_map] at hcount
      rw [not_not.mp hnames, hcount, List.length_map]

/-! ### The nodes -/

lemma beaconNode_eq_ok {url : String} {bn : BeaconNode} (h : beaconNode lib url = .ok bn) :
    ∃ parsed, lib.urlparse url = .ok parsed ∧ parsed.hostname = some bn.host ∧ bn.host ≠ "" ∧
      bn.initialized = false := by
  unfold beaconNode at h
  simp only [DutyCache.bind_eq_ok] at h
  obtain ⟨-, -, parsed, hparsed, h⟩ := h
  split_ifs at h with hhost
  · cases h
  · obtain rfl := Except.ok.inj h
    cases hname : parsed.hostname with
    | none => simp [hname] at hhost
    | some host => exact ⟨parsed, hparsed, by simp [hname], by simpa [hname] using hhost, rfl⟩

/-- **The nodes of an accepted list have different hosts.** -/
lemma Listed.nodup_hosts {n : ℕ} {urls : List String} {nodes : List BeaconNode}
    (h : Listed lib n urls) (hnodes : urls.mapM (beaconNode lib) = .ok nodes) :
    nodes.length = urls.length ∧ (nodes.map BeaconNode.host).Nodup ∧
      ∀ bn ∈ nodes, bn.initialized = false := by
  obtain ⟨parsed, hparsed, hnodup⟩ := h.hostnames
  rw [mapM_eq_ok] at hnodes
  have hnames : parsed.map ParseResult.hostname = (nodes.map BeaconNode.host).map some := by
    clear hnodup h
    induction urls generalizing parsed nodes with
    | nil =>
      rw [List.map_nil, eq_comm, List.map_eq_nil_iff] at hparsed hnodes
      rw [hparsed, hnodes]
      rfl
    | cons url urls ih =>
      obtain ⟨first, parsed, rfl⟩ : ∃ x l, parsed = x :: l := by
        cases parsed with
        | nil => cases hparsed
        | cons x l => exact ⟨x, l, rfl⟩
      obtain ⟨bn, nodes, rfl⟩ : ∃ x l, nodes = x :: l := by
        cases nodes with
        | nil => cases hnodes
        | cons x l => exact ⟨x, l, rfl⟩
      rw [List.map_cons, List.map_cons, List.cons.injEq] at hparsed hnodes
      obtain ⟨found, hfound, hname, -⟩ := beaconNode_eq_ok hnodes.1
      obtain rfl : found = first := Except.ok.inj (hfound.symm.trans hparsed.1)
      rw [List.map_cons, hname, ih hnodes.2 parsed hparsed.2]
      rfl
  have hcount := congrArg List.length hnodes
  rw [List.length_map, List.length_map] at hcount
  refine ⟨hcount.symm, ?_, fun bn hbn => ?_⟩
  · rw [hnames] at hnodup
    exact List.Nodup.of_map some hnodup
  · obtain ⟨url, -, hurl⟩ := Tasks.exists_input hnodes hbn
    obtain ⟨-, -, -, -, hidle⟩ := beaconNode_eq_ok hurl
    exact hidle

/-- The URL is refused by `yarl`, or has no host name. -/
def NoNode (lib : Libraries Path) (url e : String) : Prop :=
  lib.url url = .error e ∨
    ∃ parsed, lib.urlparse url = .ok parsed ∧ parsed.hostname.getD "" = "" ∧
      e = s!"Failed to parse hostname from {url}"

lemma Listed.noNode {n : ℕ} {urls : List String} {e : String} (h : Listed lib n urls)
    (he : urls.mapM (beaconNode lib) = .error e) : ∃ url ∈ urls, NoNode lib url e := by
  obtain ⟨url, hurl, hraised⟩ :=
    List.mem_map.mp ((Tasks.allDone_mapM (beaconNode lib) urls).error e he)
  obtain ⟨parsed, hparsed, -⟩ := h.hostnames
  obtain ⟨found, -, hfound⟩ := Tasks.exists_value hparsed hurl
  refine ⟨url, hurl, ?_⟩
  unfold beaconNode at hraised
  cases hyarl : lib.url url with
  | error e' =>
    rw [hyarl] at hraised
    exact .inl (by rw [hyarl, Except.error.inj hraised])
  | ok =>
    rw [hyarl, hfound] at hraised
    simp only [bind, Except.bind] at hraised
    split_ifs at hraised with hhost
    · exact .inr ⟨found, hfound, hhost, (Except.error.inj hraised).symm⟩
    · cases hraised

/-! ### What is accepted -/

/-- What the program starts with: URLs that can be told apart, a threshold that can be met, which
is by default the least majority, one source of keys, and a graffiti of 32 bytes. -/
structure WellFormed (lib : Libraries Path) (p : Namespace) (args : CLIArgs Path) : Prop where
  nodes : Listed lib 1 args.beaconNodeUrls
  proposal : Listed lib 0 args.beaconNodeUrlsProposal
  signer : ∀ url ∈ args.remoteSignerUrl, validateUrl lib url = .ok url
  keySource : args.remoteSignerUrl.isSome ≠ args.enableKeymanagerApi
  threshold_pos : 1 ≤ args.attestationConsensusThreshold
  threshold_le : args.attestationConsensusThreshold ≤ args.beaconNodeUrls.length
  threshold_given : ∀ k ∈ p.attestationConsensusThreshold, args.attestationConsensusThreshold = k
  majority : p.attestationConsensusThreshold = none → ∀ k : ℤ,
    args.attestationConsensusThreshold ≤ k ↔ (args.beaconNodeUrls.length : ℤ) < 2 * k
  graffiti : encodeGraffiti p.graffiti = .ok args.graffiti
  network : args.network ≠ .tests
  logLevel : args.logLevel ∈ levelToName.map Prod.fst

lemma lookup_mem_levels {name : String} (h : name ∈ getLevelNamesMapping.map Prod.fst) :
    (getLevelNamesMapping.lookup name).getD 0 ∈ levelToName.map Prod.fst := by
  revert name
  decide

lemma networkOf_choice {value : String} (h : value ∈ networkChoices) :
    ∃ network, networkOf value = some network ∧ network ≠ .tests := by
  revert value
  decide

lemma threshold_given {value k : ℤ} {urls : List String}
    (h : processAttestationConsensusThreshold (some value) urls = .ok k) : k = value := by
  simp only [processAttestationConsensusThreshold] at h
  split_ifs at h
  exact (Except.ok.inj h).symm

lemma wellFormed_of_parseCliArgs (h : parseCliArgs lib p = .ok args) : WellFormed lib p args := by
  unfold parseCliArgs raised parseNetwork at h
  obtain ⟨choice, hchoice, hnotTests⟩ := networkOf_choice p.network_mem
  simp only [hchoice, DutyCache.bind_eq_ok, DutyCache.mapError_eq_ok] at h
  obtain ⟨urls, hurls, proposal, hproposal, network, hnetwork, signer, hsigner, threshold,
    hthreshold, feeRecipient, -, graffiti, hgraffiti, gasLimit, -, h⟩ := h
  obtain rfl := Except.ok.inj h
  obtain rfl := Except.ok.inj hnetwork
  have hlisted := listed_of_validatedUrls hurls
  have hne : urls ≠ [] := List.length_pos_iff.mp hlisted.enough
  obtain ⟨hpos, hle⟩ := threshold_bounds hne hthreshold
  have hsame : signer = p.remoteSignerUrl ∧ ∀ url ∈ signer, validateUrl lib url = .ok url := by
    cases hgiven : p.remoteSignerUrl with
    | none =>
      rw [hgiven] at hsigner
      obtain rfl : none = signer := Except.ok.inj hsigner
      exact ⟨rfl, by simp⟩
    | some url =>
      rw [hgiven, Option.mapM_some] at hsigner
      cases hvalid : validateUrl lib url with
      | error e => rw [hvalid] at hsigner; cases hsigner
      | ok url' =>
        rw [hvalid] at hsigner
        obtain rfl : some url' = signer := Except.ok.inj hsigner
        obtain rfl : url' = url := validateUrl_eq_ok hvalid
        refine ⟨rfl, fun x hx => ?_⟩
        rw [← Option.some.inj hx]
        exact hvalid
  exact
    { nodes := hlisted
      proposal := listed_of_validatedUrls hproposal
      signer := hsame.2
      keySource := hsame.1 ▸ p.keySource
      threshold_pos := hpos
      threshold_le := hle
      threshold_given := fun k hk => by
        rw [Option.mem_def.mp hk] at hthreshold
        exact threshold_given hthreshold
      majority := fun hnone k => by
        rw [hnone] at hthreshold
        have hdefault : (urls.length : ℤ) / 2 + 1 = threshold := Except.ok.inj hthreshold
        dsimp only
        omega
      graffiti := hgraffiti
      network := hnotTests
      logLevel := lookup_mem_levels p.logLevel_mem }

/-- **An accepted command line makes nodes that can agree.** The nodes made from it have different
hosts, and all of them together reach the threshold once they are initialized. They are not made
only where `yarl` refuses a URL or one has no host name. -/
theorem nodes_of_parseCliArgs (h : parseCliArgs lib p = .ok args) : WellFormed lib p args ∧
    (∀ nodes proposal, beaconNodes lib args = .ok (nodes, proposal) →
      (proposal.map BeaconNode.host).Nodup ∧
      ∃ m : MultiBeaconNode, m.beaconNodes = nodes ∧
        (m.attestationConsensusThreshold : ℤ) = args.attestationConsensusThreshold ∧
        m.initializedBeaconNodes = [] ∧
        m.attestationConsensusThreshold ≤
          (m.markInitialized fun _ => true).initializedBeaconNodes.length) ∧
    ∀ e, beaconNodes lib args = .error e →
      ∃ url ∈ args.beaconNodeUrls ++ args.beaconNodeUrlsProposal, NoNode lib url e := by
  have hwell := wellFormed_of_parseCliArgs h
  refine ⟨hwell, fun nodes proposal hmade => ?_, fun e hraised => ?_⟩
  · unfold beaconNodes at hmade
    simp only [DutyCache.bind_eq_ok] at hmade
    obtain ⟨nodes', hnodes, proposal', hproposal, hmade⟩ := hmade
    obtain ⟨rfl, rfl⟩ := Prod.mk.inj (Except.ok.inj hmade)
    obtain ⟨hlen, hdistinct, hidle⟩ := hwell.nodes.nodup_hosts hnodes
    obtain ⟨-, hproposals, -⟩ := hwell.proposal.nodup_hosts hproposal
    have hpos := hwell.threshold_pos
    have hle := hwell.threshold_le
    refine ⟨hproposals, ⟨nodes', args.attestationConsensusThreshold.toNat, hdistinct, by omega⟩,
      rfl, Int.toNat_of_nonneg (by omega), ?_, ?_⟩
    · unfold MultiBeaconNode.initializedBeaconNodes
      rw [List.map_eq_nil_iff, List.filter_eq_nil_iff]
      exact fun bn hbn => by simp [hidle bn hbn]
    · rw [MultiBeaconNode.initializedBeaconNodes_markInitialized, List.length_map]
      have hall : nodes'.filter (fun bn => bn.initialized || true) = nodes' :=
        List.filter_eq_self.mpr fun bn _ => Bool.or_true _
      dsimp only
      rw [hall]
      omega
  · unfold beaconNodes at hraised
    cases hnodes : args.beaconNodeUrls.mapM (beaconNode lib) with
    | error e' =>
      rw [hnodes] at hraised
      obtain rfl : e' = e := Except.error.inj hraised
      obtain ⟨url, hurl, hnone⟩ := hwell.nodes.noNode hnodes
      exact ⟨url, List.mem_append_left _ hurl, hnone⟩
    | ok nodes =>
      cases hproposal : args.beaconNodeUrlsProposal.mapM (beaconNode lib) with
      | error e' =>
        rw [hnodes, hproposal] at hraised
        obtain rfl : e' = e := Except.error.inj hraised
        obtain ⟨url, hurl, hnone⟩ := hwell.proposal.noNode hproposal
        exact ⟨url, List.mem_append_right _ hurl, hnone⟩
      | ok proposal =>
        rw [hnodes, hproposal] at hraised
        cases hraised

/-! ### A start with two nodes -/

def knownUrls : List (String × ParseResult) :=
  [("http://beacon-node-1:5052", ⟨"http", "beacon-node-1:5052", some "beacon-node-1"⟩),
    ("http://beacon-node-2:5052", ⟨"http", "beacon-node-2:5052", some "beacon-node-2"⟩),
    ("http://signer:9000", ⟨"http", "signer:9000", some "signer"⟩)]

def posix : Libraries String where
  urlparse url := .ok ((knownUrls.lookup url).getD ⟨"", "", none⟩)
  url _ := .ok ()
  path file := file
  join dir name := dir ++ "/" ++ name
  str := id
  str_injective := Function.injective_id
  reprList items := ", ".intercalate items
  reprFromHexError digits := digits
  version := "v1.2.0"

lemma hoodi_mem : "hoodi" ∈ networkChoices := by decide

lemma warn_mem : "WARN" ∈ getLevelNamesMapping.map Prod.fst := by decide

lemma signer_only : (some "http://signer:9000").isSome ≠ false := by decide

def twoNodes : Namespace where
  network := "hoodi"
  networkCustomConfigPath := none
  remoteSignerUrl := some "http://signer:9000"
  beaconNodeUrls := " http://beacon-node-1:5052,, http://beacon-node-2:5052"
  beaconNodeUrlsProposal := ""
  attestationConsensusThreshold := none
  feeRecipient := "0x1c6c96549debfc6aaec7631051b84ce9a6e11ad2"
  dataDir := "/vero/data"
  graffiti := "Vero"
  gasLimit := none
  useExternalBuilder := false
  builderBoostFactor := 90
  enableDoppelgangerDetection := true
  enableKeymanagerApi := false
  keymanagerApiTokenFilePath := none
  keymanagerApiAddress := "localhost"
  keymanagerApiPort := 8001
  metricsAddress := "localhost"
  metricsPort := 8000
  logLevel := "WARN"
  ignoreSpecMismatch := false
  dangerDisableSlashingDetection := false
  network_mem := hoodi_mem
  logLevel_mem := warn_mem
  keySource := signer_only

/-- What the program is started with. -/
def started : CLIArgs String where
  network := .hoodi
  networkCustomConfigPath := none
  remoteSignerUrl := some "http://signer:9000"
  beaconNodeUrls := ["http://beacon-node-1:5052", "http://beacon-node-2:5052"]
  beaconNodeUrlsProposal := []
  attestationConsensusThreshold := 2
  feeRecipient := "0x1c6c96549debfc6aaec7631051b84ce9a6e11ad2"
  dataDir := "/vero/data"
  graffiti := Keymanager.defaultGraffiti
  gasLimit := 60000000
  useExternalBuilder := false
  builderBoostFactor := 90
  enableDoppelgangerDetection := true
  enableKeymanagerApi := false
  keymanagerApiTokenFilePath := "/vero/data/keymanager-api-token.txt"
  keymanagerApiAddress := "localhost"
  keymanagerApiPort := 8001
  metricsAddress := "localhost"
  metricsPort := 8000
  logLevel := 30
  ignoreSpecMismatch := false
  disableSlashingDetection := false

lemma proposal_twoNodes : validatedUrls posix twoNodes.beaconNodeUrlsProposal
    "proposal beacon node url" 0 "Proposal beacon node URLs must have unique hostnames." =
      .ok [] := by
  decide +kernel

lemma feeRecipient_twoNodes : processFeeRecipient posix.reprFromHexError twoNodes.feeRecipient =
    .ok started.feeRecipient := by
  have hchars : twoNodes.feeRecipient.toList.take 2 = ['0', 'x'] ∧
      twoNodes.feeRecipient.length = 2 + 2 * feeRecipientByteLength ∧
      (hexBytes (twoNodes.feeRecipient.toList.drop 2)).isSome = true := by
    decide +kernel
  rw [processFeeRecipient_eq]
  exact ⟨rfl, hchars.1, hchars.2.1, isSome_hexBytes_iff.mp hchars.2.2⟩

lemma parse_twoNodes : parseCliArgs posix twoNodes = .ok started := by
  have hurls : validatedUrls posix twoNodes.beaconNodeUrls "beacon node url" 1
      "Beacon node URLs must have unique hostnames." = .ok started.beaconNodeUrls := by
    decide +kernel
  have hgraffiti : encodeGraffiti twoNodes.graffiti = .ok started.graffiti :=
    Keymanager.encodeGraffiti_vero
  unfold parseCliArgs
  rw [hurls, proposal_twoNodes, feeRecipient_twoNodes, hgraffiti]
  rfl

theorem nodes_of_parseCliArgs_twoNodes : ∃ nodes,
    beaconNodes posix started = .ok (nodes, []) ∧
      ∃ m : MultiBeaconNode, m.beaconNodes = nodes ∧ m.attestationConsensusThreshold = 2 := by
  obtain ⟨-, hmade, -⟩ := nodes_of_parseCliArgs parse_twoNodes
  have hnodes : beaconNodes posix started =
      .ok ([⟨"beacon-node-1", false⟩, ⟨"beacon-node-2", false⟩], []) := rfl
  obtain ⟨-, m, hm, hthreshold, -⟩ := hmade _ _ hnodes
  exact ⟨_, hnodes, m, hm, Int.ofNat_inj.mp hthreshold⟩

end Vero.Args
