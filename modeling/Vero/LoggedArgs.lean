import Std.Data.String.ToInt
import Vero.ParsedArgs

/-!
The log of the command line arguments: a line for every argument that is not its default.

A list of URLs is printed with commas, a graffiti as its text and a level by its name. The lines
still tell all arguments apart.
-/

namespace Vero.Args

open Lib

variable {Path : Type} (lib : Libraries Path)

/-- The value of an argument, as it is compared and printed. -/
inductive Value (Path : Type)
  | none
  | str (s : String)
  | int (n : ℤ)
  | bool (b : Bool)
  | path (p : Path)
  | network (n : Network)
  deriving DecidableEq

def networkName : Network → String
  | .mainnet => "MAINNET"
  | .hoodi => "HOODI"
  | .gnosis => "GNOSIS"
  | .chiado => "CHIADO"
  | .tests => "_TESTS"
  | .custom => "CUSTOM"

def Value.text : Value Path → String
  | .none => "None"
  | .str s => s
  | .int n => toString n
  | .bool true => "True"
  | .bool false => "False"
  | .path p => lib.str p
  | .network n => "Network." ++ networkName n

def Value.ofOption : Option String → Value Path
  | Option.none => .none
  | some s => .str s

structure Action (Path : Type) where
  dest : String
  default : Value Path
  value : Value Path

/-- `getLevelName` -/
def levelName (level : ℕ) : String := (levelToName.lookup level).getD s!"Level {level}"

/-- The arguments in the order in which they are added to the parser. -/
def actions (args : CLIArgs Path) (graffiti : String) : List (Action Path) :=
  [⟨"network", .none, .network args.network⟩,
    ⟨"network_custom_config_path", .none, .ofOption args.networkCustomConfigPath⟩,
    ⟨"remote_signer_url", .none, .ofOption args.remoteSignerUrl⟩,
    ⟨"beacon_node_urls", .none, .str (",".intercalate args.beaconNodeUrls)⟩,
    ⟨"beacon_node_urls_proposal", .str "", .str (",".intercalate args.beaconNodeUrlsProposal)⟩,
    ⟨"attestation_consensus_threshold", .none, .int args.attestationConsensusThreshold⟩,
    ⟨"fee_recipient", .none, .str args.feeRecipient⟩,
    ⟨"data_dir", .str "/vero/data", .str args.dataDir⟩,
    ⟨"graffiti", .str s!"Vero {lib.version}", .str graffiti⟩,
    ⟨"gas_limit", .none, .int args.gasLimit⟩,
    ⟨"use_external_builder", .bool false, .bool args.useExternalBuilder⟩,
    ⟨"builder_boost_factor", .int 90, .int args.builderBoostFactor⟩,
    ⟨"enable_doppelganger_detection", .bool false, .bool args.enableDoppelgangerDetection⟩,
    ⟨"enable_keymanager_api", .bool false, .bool args.enableKeymanagerApi⟩,
    ⟨"keymanager_api_token_file_path", .none, .path args.keymanagerApiTokenFilePath⟩,
    ⟨"keymanager_api_address", .str "localhost", .str args.keymanagerApiAddress⟩,
    ⟨"keymanager_api_port", .int 8001, .int args.keymanagerApiPort⟩,
    ⟨"metrics_address", .str "localhost", .str args.metricsAddress⟩,
    ⟨"metrics_port", .int 8000, .int args.metricsPort⟩,
    ⟨"log_level", .str "INFO", .str (levelName args.logLevel)⟩,
    ⟨"ignore_spec_mismatch", .bool false, .bool args.ignoreSpecMismatch⟩,
    ⟨"DANGER____disable_slashing_detection", .bool false, .bool args.disableSlashingDetection⟩]

def Action.line (x : Action Path) : String := s!"{x.dest}: {x.value.text lib}"

def logged [DecidableEq Path] (actions : List (Action Path)) : List String :=
  (actions.filter fun x => x.default ≠ x.value).map (Action.line lib)

def logCliArgValues [DecidableEq Path] (validatedArgs : CLIArgs Path) :
    Except String (List String) := do
  let graffiti ← decodeGraffiti validatedArgs.graffiti
  return logged lib (actions lib validatedArgs graffiti)

variable {lib : Libraries Path} {p : Namespace} {args : CLIArgs Path}

/-! ### Lists of URLs -/

/-- **A printed list is read as it is.** -/
lemma filter_stripped_intercalate {items : List String} (h : ∀ s ∈ items, Item s) :
    (stripped (",".intercalate items)).filter (· ≠ "") = items := by
  have hitems : ∀ l ∈ items.map String.toList, Separated.Item BeaconNode.isSpace ',' l :=
    List.forall_mem_map.mpr h
  have hread := Separated.read_intercalate hitems
  rw [filter_stripped, String.toList_intercalate, show ",".toList = [','] from rfl, hread,
    List.map_map]
  calc items.map (String.ofList ∘ String.toList) = items.map id :=
        List.map_congr_left fun s _ => String.ofList_toList
    _ = items := List.map_id items

/-- A printed list of URLs is accepted as it is. -/
lemma Listed.validated {n : ℕ} {urls : List String} (h : Listed lib n urls)
    (entityName hostnameError : String) :
    validatedUrls lib (",".intercalate urls) entityName n hostnameError = .ok urls := by
  obtain ⟨parsed, hparsed, hnodup⟩ := h.hostnames
  have hcount := congrArg List.length hparsed
  rw [List.length_map, List.length_map] at hcount
  have hurls : urls.Nodup := by
    have hok : (urls.map lib.urlparse).Nodup := hparsed ▸
      (List.Nodup.of_map _ hnodup).map fun _ _ he => Except.ok.inj he
    exact List.Nodup.of_map _ hok
  have hitems : validateCommaSeparatedStrings lib (",".intercalate urls) entityName n =
      .ok urls := by
    unfold validateCommaSeparatedStrings
    dsimp only
    rw [filter_stripped_intercalate h.items, if_neg (not_lt.mpr h.enough), hurls.dedup,
      if_neg (not_not.mpr rfl)]
  have hvalid : urls.mapM (validateUrl lib) = .ok urls :=
    mapM_eq_ok.mpr (List.map_congr_left h.valid)
  unfold validatedUrls
  rw [hitems]
  change (raised (urls.mapM (validateUrl lib)) >>= _) = _
  rw [hvalid]
  change (raised (urls.mapM lib.urlparse) >>= _) = _
  rw [mapM_eq_ok.mpr hparsed]
  change (if _ then _ else _) = _
  rw [hnodup.dedup, List.length_map, hcount, if_neg (not_not.mpr rfl)]
  rfl

/-! ### What the log tells -/

/-- The values are texts of one kind. -/
def Value.SameKind : Value Path → Value Path → Prop
  | .str _, .str _ | .int _, .int _ | .bool _, .bool _ | .path _, .path _
  | .network _, .network _ => True
  | _, _ => False

lemma networkName_injective : Function.Injective networkName := by
  intro n n' h
  cases n <;> cases n' <;> first | rfl | exact absurd h (by decide)

lemma Value.text_inj {v w : Value Path} (hkind : v.SameKind w) (h : v.text lib = w.text lib) :
    v = w := by
  cases v with
  | none => cases w <;> exact hkind.elim
  | str s => cases w with
    | str s' => exact congrArg Value.str h
    | _ => exact hkind.elim
  | int n => cases w with
    | int n' => exact congrArg Value.int (Int.repr_injective h)
    | _ => exact hkind.elim
  | bool b => cases w with
    | bool b' => cases b <;> cases b' <;> simp_all [Value.text]
    | _ => exact hkind.elim
  | path q => cases w with
    | path q' => exact congrArg Value.path (lib.str_injective h)
    | _ => exact hkind.elim
  | network n => cases w with
    | network n' =>
      have hname : networkName n = networkName n' := String.append_right_inj _ |>.mp h
      exact congrArg Value.network (networkName_injective hname)
    | _ => exact hkind.elim

/-- Two values of one argument: where both are logged, they are of one kind. -/
structure Action.Fits (x y : Action Path) : Prop where
  dest : x.dest = y.dest
  default : x.default = y.default
  kind : x.default ≠ x.value → y.default ≠ y.value → x.value.SameKind y.value

/-- The name ends where the first colon is. -/
lemma Action.line_inj {x y : Action Path} (hx : ':' ∉ x.dest.toList) (hy : ':' ∉ y.dest.toList)
    (h : x.line lib = y.line lib) : x.dest = y.dest ∧ x.value.text lib = y.value.text lib := by
  have hline : ∀ z : Action Path, (z.line lib).toList =
      z.dest.toList ++ ':' :: ' ' :: (z.value.text lib).toList := fun z => by
    have htext : z.line lib = z.dest ++ ": " ++ z.value.text lib := rfl
    rw [htext, String.toList_append, String.toList_append, List.append_assoc]
    rfl
  have hlist := congrArg String.toList h
  rw [hline, hline] at hlist
  have hsplit := congrArg (List.splitOn ':') hlist
  rw [List.splitOn_append_cons_self_of_not_mem hx, List.splitOn_append_cons_self_of_not_mem hy]
    at hsplit
  have hdest := (List.cons.inj hsplit).1
  rw [hdest] at hlist
  have htext := List.append_cancel_left hlist
  rw [List.cons.injEq, List.cons.injEq] at htext
  exact ⟨String.toList_inj.mp hdest, String.toList_inj.mp htext.2.2⟩

section Logged

variable [DecidableEq Path] {x y : Action Path} {xs ys : List (Action Path)}

lemma notMem_logged (hx : ':' ∉ x.dest.toList) (hcolon : ∀ z ∈ xs, ':' ∉ z.dest.toList)
    (hdest : x.dest ∉ xs.map Action.dest) : x.line lib ∉ logged lib xs := by
  intro hm
  obtain ⟨z, hz, hline⟩ := List.mem_map.mp hm
  have hzs : z ∈ xs := List.mem_of_mem_filter hz
  obtain ⟨hsame, -⟩ := Action.line_inj (hcolon z hzs) hx hline
  exact hdest (hsame ▸ List.mem_map_of_mem hzs)

lemma logged_cons : logged lib (x :: xs) =
    if x.default ≠ x.value then x.line lib :: logged lib xs else logged lib xs := by
  unfold logged
  rw [List.filter_cons]
  split_ifs with h h' h' <;> simp_all

/-- **Equal logs are of equal values.** -/
lemma values_of_logged (hfits : List.Forall₂ Action.Fits xs ys)
    (hdests : (xs.map Action.dest).Nodup) (hcolon : ∀ x ∈ xs, ':' ∉ x.dest.toList)
    (hcolon' : ∀ y ∈ ys, ':' ∉ y.dest.toList) (h : logged lib xs = logged lib ys) :
    xs.map Action.value = ys.map Action.value := by
  induction hfits with
  | nil => rfl
  | @cons x y xs ys hxy hfits ih =>
    have hnames : xs.map Action.dest = ys.map Action.dest := by
      clear ih hdests hcolon hcolon' h
      induction hfits with
      | nil => rfl
      | cons hf _ ih => rw [List.map_cons, List.map_cons, hf.dest, ih]
    obtain ⟨hnew, hdests⟩ := List.nodup_cons.mp hdests
    have hx := hcolon x List.mem_cons_self
    have hy := hcolon' y List.mem_cons_self
    have ih := ih hdests (fun z hz => hcolon z (List.mem_cons_of_mem _ hz))
      fun z hz => hcolon' z (List.mem_cons_of_mem _ hz)
    rw [logged_cons, logged_cons] at h
    split_ifs at h with hshown hshown' hshown'
    · obtain ⟨hline, hrest⟩ := List.cons.inj h
      obtain ⟨-, htext⟩ := Action.line_inj hx hy hline
      rw [List.map_cons, List.map_cons, ih hrest,
        Value.text_inj (hxy.kind hshown hshown') htext]
    · -- no other argument has the name of this one
      have hmem : x.line lib ∈ logged lib ys := h ▸ List.mem_cons_self
      refine absurd hmem (notMem_logged hx (fun z hz => hcolon' z (List.mem_cons_of_mem _ hz)) ?_)
      rwa [← hnames]
    · have hmem : y.line lib ∈ logged lib xs := h ▸ List.mem_cons_self
      refine absurd hmem (notMem_logged hy (fun z hz => hcolon z (List.mem_cons_of_mem _ hz)) ?_)
      rwa [← hxy.dest]
    · rw [List.map_cons, List.map_cons, ih h, ← not_not.mp hshown, ← not_not.mp hshown',
        hxy.default]

end Logged

/-- What an accepted command line gives fixes the arguments. -/
lemma fits_actions {args' : CLIArgs Path} (graffiti graffiti' : String) :
    List.Forall₂ Action.Fits (actions lib args graffiti) (actions lib args' graffiti') := by
  have hoption : ∀ dest o o', Action.Fits (⟨dest, .none, Value.ofOption o⟩ : Action Path)
      ⟨dest, .none, Value.ofOption o'⟩ := by
    intro dest o o'
    refine ⟨rfl, rfl, fun h h' => ?_⟩
    cases o with
    | none => exact absurd rfl h
    | some s => cases o' with
      | none => exact absurd rfl h'
      | some s' => trivial
  unfold actions
  repeat' refine List.Forall₂.cons ?_ ?_
  all_goals first | exact hoption _ _ _ | exact ⟨rfl, rfl, fun _ _ => trivial⟩ | exact .nil

lemma Value.ofOption_injective :
    Function.Injective (Value.ofOption : Option String → Value Path) := by
  intro o o' h
  cases o <;> cases o' <;> simp_all [Value.ofOption]

lemma levelName_inj {level level' : ℕ} (hl : level ∈ levelToName.map Prod.fst)
    (hl' : level' ∈ levelToName.map Prod.fst) (h : levelName level = levelName level') :
    level = level' := by
  have hall : ∀ l ∈ levelToName.map Prod.fst, ∀ l' ∈ levelToName.map Prod.fst,
      levelName l = levelName l' → l = l' := by decide
  exact hall level hl level' hl' h

lemma intercalate_inj {items items' : List String} (hi : ∀ s ∈ items, Item s)
    (hi' : ∀ s ∈ items', Item s) (h : ",".intercalate items = ",".intercalate items') :
    items = items' := by
  rw [← filter_stripped_intercalate hi, h, filter_stripped_intercalate hi']

lemma dests_nodup (graffiti : String) : ((actions lib args graffiti).map Action.dest).Nodup := by
  simp only [actions, List.map_cons, List.map_nil]
  decide

lemma colon_notMem_dest {graffiti : String} {x : Action Path}
    (h : x ∈ actions lib args graffiti) : ':' ∉ x.dest.toList := by
  have hnames : ∀ dest ∈ (actions lib args graffiti).map Action.dest, ':' ∉ dest.toList := by
    simp only [actions, List.map_cons, List.map_nil]
    decide
  exact hnames x.dest (List.mem_map_of_mem h)

/-- **The log tells what the program was started with.** Every accepted command line is logged,
the lists it logs are accepted as they are printed, and two that log the same lines give the same
arguments. -/
theorem args_of_log [DecidableEq Path] {p' : Namespace} {args' : CLIArgs Path}
    (h : parseCliArgs lib p = .ok args) (h' : parseCliArgs lib p' = .ok args') :
    (∃ lines, logCliArgValues lib args = .ok lines) ∧
      (∀ entityName hostnameError, validatedUrls lib (",".intercalate args.beaconNodeUrls)
        entityName 1 hostnameError = .ok args.beaconNodeUrls) ∧
      (∀ entityName hostnameError, validatedUrls lib (",".intercalate args.beaconNodeUrlsProposal)
        entityName 0 hostnameError = .ok args.beaconNodeUrlsProposal) ∧
      (logCliArgValues lib args = logCliArgValues lib args' → args = args') := by
  have hwell := wellFormed_of_parseCliArgs h
  have hwell' := wellFormed_of_parseCliArgs h'
  obtain ⟨g, hdecode, hencode⟩ := encodeGraffiti_decodeGraffiti hwell.graffiti
  obtain ⟨g', hdecode', hencode'⟩ := encodeGraffiti_decodeGraffiti hwell'.graffiti
  have hlog : logCliArgValues lib args = .ok (logged lib (actions lib args g)) := by
    rw [logCliArgValues, hdecode]
    rfl
  have hlog' : logCliArgValues lib args' = .ok (logged lib (actions lib args' g')) := by
    rw [logCliArgValues, hdecode']
    rfl
  refine ⟨⟨_, hlog⟩, hwell.nodes.validated, hwell.proposal.validated, fun hsame => ?_⟩
  rw [hlog, hlog'] at hsame
  have hvalues := values_of_logged (fits_actions g g') (dests_nodup g)
    (fun _ => colon_notMem_dest) (fun _ => colon_notMem_dest) (Except.ok.inj hsame)
  simp only [actions, List.map_cons, List.map_nil, List.cons.injEq, Value.str.injEq,
    Value.int.injEq, Value.bool.injEq, Value.path.injEq, Value.network.injEq] at hvalues
  obtain ⟨hnetwork, hconfig, hsigner, hurls, hproposal, hthreshold, hfee, hdir, hgraffiti, hgas,
    hbuilder, hboost, hdoppelganger, hkeymanager, htoken, haddress, hport, hmetrics, hmetricsPort,
    hlevel, hspec, hslashing, -⟩ := hvalues
  rw [hgraffiti] at hencode
  have hbytes : args.graffiti = args'.graffiti := Except.ok.inj (hencode.symm.trans hencode')
  have hconfig := Value.ofOption_injective hconfig
  have hsigner := Value.ofOption_injective hsigner
  have hurls := intercalate_inj hwell.nodes.items hwell'.nodes.items hurls
  have hproposal := intercalate_inj hwell.proposal.items hwell'.proposal.items hproposal
  have hlevel := levelName_inj hwell.logLevel hwell'.logLevel hlevel
  exact CLIArgs.ext hfee hgas hbytes hkeymanager hsigner hdoppelganger hnetwork hconfig hurls
    hproposal hthreshold hdir hbuilder hboost htoken haddress hport hmetrics hmetricsPort hlevel
    hspec hslashing

lemma warning_mem : "WARNING" ∈ getLevelNamesMapping.map Prod.fst := by decide

/-- The same nodes in another spelling, with some of the defaults given. -/
def twoNodesSpelled : Namespace :=
  { twoNodes with
    beaconNodeUrls := "http://beacon-node-1:5052,http://beacon-node-2:5052 ,"
    attestationConsensusThreshold := some 2
    gasLimit := some 60000000
    keymanagerApiTokenFilePath := some "/vero/data/keymanager-api-token.txt"
    logLevel := "WARNING"
    logLevel_mem := warning_mem }

lemma parse_twoNodesSpelled : ∃ args, parseCliArgs posix twoNodesSpelled = .ok args ∧
    logCliArgValues posix args = logCliArgValues posix started := by
  have hurls : validatedUrls posix twoNodesSpelled.beaconNodeUrls "beacon node url" 1
      "Beacon node URLs must have unique hostnames." = .ok started.beaconNodeUrls := by
    decide +kernel
  have hproposal : validatedUrls posix twoNodesSpelled.beaconNodeUrlsProposal
      "proposal beacon node url" 0 "Proposal beacon node URLs must have unique hostnames." =
        .ok [] := proposal_twoNodes
  have hfee : processFeeRecipient posix.reprFromHexError twoNodesSpelled.feeRecipient =
      .ok started.feeRecipient := feeRecipient_twoNodes
  have hgraffiti : encodeGraffiti twoNodesSpelled.graffiti = .ok started.graffiti :=
    Keymanager.encodeGraffiti_vero
  refine ⟨_, ?_, rfl⟩
  unfold parseCliArgs
  rw [hurls, hproposal, hfee, hgraffiti]
  rfl

theorem args_of_log_twoNodes : twoNodes.beaconNodeUrls ≠ twoNodesSpelled.beaconNodeUrls ∧
    ∃ lines args args', parseCliArgs posix twoNodes = .ok args ∧
      parseCliArgs posix twoNodesSpelled = .ok args' ∧
      logCliArgValues posix args = .ok lines ∧ args = args' := by
  obtain ⟨args, hparse, hsame⟩ := parse_twoNodesSpelled
  obtain ⟨⟨lines, hlines⟩, -, -, hargs⟩ := args_of_log parse_twoNodes hparse
  exact ⟨by decide, lines, started, args, parse_twoNodes, hparse, hlines, hargs hsame.symm⟩

end Vero.Args
