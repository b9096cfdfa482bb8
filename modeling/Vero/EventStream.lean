import Mathlib.Data.List.TakeWhile
import Vero.Lib.SplitOn
import Vero.OptimisticResponses

/-!
Reading back the events that a node writes to its stream.

Each event is a line with its topic, a line with its data and an empty line. Comments and blank
lines stand between the events.
-/

namespace Vero.EventConsumerService

/-- What `handle_events` subscribes to. -/
def topics : List String := ["head", "chain_reorg", "attester_slashing", "proposer_slashing"]

end Vero.EventConsumerService

namespace Vero.BeaconNode

open SchemaBeaconAPI Lib.SplitOn
open EventConsumerService (topics)

variable {c : Client}

/-! ### What a node writes -/

inductive SentEvent
  | head (event : ExecutionOptimisticResponse HeadEvent)
  | chainReorg (event : ExecutionOptimisticResponse ChainReorgEvent)
  | attesterSlashing (event : AttesterSlashingEvent)
  | proposerSlashing (event : ProposerSlashingEvent)

namespace SentEvent

def topic : SentEvent → String
  | head _ => "head"
  | chainReorg _ => "chain_reorg"
  | attesterSlashing _ => "attester_slashing"
  | proposerSlashing _ => "proposer_slashing"

def toEvent : SentEvent → Event
  | head r => ⟨some r.executionOptimistic, .head r.data⟩
  | chainReorg r => ⟨some r.executionOptimistic, .chainReorg r.data⟩
  | attesterSlashing e => ⟨none, .attesterSlashing e⟩
  | proposerSlashing e => ⟨none, .proposerSlashing e⟩

/-- The type of the event's topic is decoded from the text, and it is this event. -/
def DecodedFrom (c : Client) (text : String) : SentEvent → Prop
  | head r => c.headEvent text = .ok r
  | chainReorg r => c.chainReorgEvent text = .ok r
  | attesterSlashing e => c.attesterSlashingEvent text = .ok e
  | proposerSlashing e => c.proposerSlashingEvent text = .ok e

end SentEvent

/-- The end of a line. -/
def LineEnd (s : String) : Prop := s = "\n" ∨ s = "\r\n"

/-- The lines of a stream of events, which `encode` turns into JSON. -/
inductive Stream (encode : SentEvent → String) : List SentEvent → List Line → Prop
  | done : Stream encode [] []
  | comment {sent : List SentEvent} {lines : List Line} {line : String}
      (begins : line.startsWith ":" = true) (rest : Stream encode sent lines) :
      Stream encode sent (.ok line :: lines)
  | keepAlive {sent : List SentEvent} {lines : List Line} {line : String}
      (blank : strip line = "") (rest : Stream encode sent lines) :
      Stream encode sent (.ok line :: lines)
  | event {sent : List SentEvent} {lines : List Line} {e : SentEvent} {s t u : String}
      (hs : LineEnd s) (ht : LineEnd t) (hu : LineEnd u) (rest : Stream encode sent lines) :
      Stream encode (e :: sent)
        (.ok ("event: " ++ e.topic ++ s) :: .ok ("data: " ++ encode e ++ t) :: .ok u :: lines)

/-- The white space of JSON. -/
def jsonSpace : List Char := [' ', '\t', '\n', '\r']

/-- Decoding inverts encoding, whatever white space stands around. -/
def Inverts (c : Client) (encode : SentEvent → String) (e : SentEvent) : Prop :=
  ∀ before after : String, before.toList ⊆ jsonSpace → after.toList ⊆ jsonSpace →
    e.DecodedFrom c (before ++ encode e ++ after)

variable {encode : SentEvent → String} {e : SentEvent} {sent : List SentEvent}
variable {lines : List Line} {s t u line : String}

/-! ### The lines of one event -/

lemma topic_mem (e : SentEvent) : e.topic ∈ topics := by
  cases e <;> simp [SentEvent.topic, topics]

lemma eventStruct_topic {text : String} (h : e.DecodedFrom c text) :
    ∃ decode, eventStruct c e.topic = some decode ∧ decode text = .ok e.toEvent := by
  cases e <;>
  · refine ⟨_, rfl, ?_⟩
    simp only [SentEvent.DecodedFrom] at h
    simp [h, Except.map, SentEvent.toEvent]

lemma eventName_event (hs : LineEnd s) : eventName ("event: " ++ e.topic ++ s) = e.topic := by
  have hstrip : ∀ topic ∈ topics, ∀ s ∈ ["\n", "\r\n"],
      strip (" " ++ topic ++ s) = topic ∧ ':' ∉ (" " ++ topic ++ s).toList := by
    decide
  obtain ⟨hname, hcolon⟩ := hstrip e.topic (topic_mem e) s (by simpa [LineEnd] using hs)
  have hline : "event: " ++ e.topic ++ s = "event" ++ ":" ++ (" " ++ e.topic ++ s) := by
    simp only [← String.append_assoc]
    rfl
  have hsplit : ("event" ++ ":" ++ (" " ++ e.topic ++ s)).splitOn ":" =
      ["event", " " ++ e.topic ++ s] :=
    splitOn_once rfl (by decide) (mt (List.singleton_infix_iff _ _).mp hcolon)
  unfold eventName
  rw [hline, hsplit]
  exact hname

lemma begins_event : ("event: " ++ e.topic ++ s).startsWith "event:" = true := by
  rw [String.startsWith_string_iff]
  refine ⟨' ' :: (e.topic ++ s).toList, ?_⟩
  simp

lemma data_nowhere_snoc {l : List Char} (ch : Char) (hch : ':' ≠ ch)
    (h : ¬ "data:".toList <:+: l) : ¬ "data:".toList <:+: l ++ [ch] := by
  rw [List.infix_concat_iff, not_or]
  refine ⟨?_, h⟩
  rintro ⟨u, hu⟩
  have hlast := congrArg List.getLast? hu
  rw [List.getLast?_append, List.getLast?_concat] at hlast
  exact hch (Option.some.inj hlast)

/-- White space around a text adds no separator. -/
lemma data_nowhere {json : String} (ht : LineEnd t) (h : ¬ "data:".toList <:+: json.toList) :
    ¬ "data:".toList <:+: (" " ++ json ++ t).toList := by
  have hbefore : ¬ "data:".toList <:+: ' ' :: json.toList := by
    rw [List.infix_cons_iff, not_or]
    exact ⟨fun hbegins => absurd (List.cons_prefix_cons.mp hbegins).1 (by decide), h⟩
  rw [String.toList_append, String.toList_append]
  obtain rfl | rfl := ht
  · exact data_nowhere_snoc '\n' (by decide) hbefore
  · have hreturn := data_nowhere_snoc '\r' (by decide) hbefore
    have htwo := data_nowhere_snoc '\n' (by decide) hreturn
    rwa [List.append_assoc] at htwo

lemma eventText_data {json : String} (ht : LineEnd t) (h : ¬ "data:".toList <:+: json.toList)
    (data : List String) :
    eventText (("data: " ++ json ++ t) :: data) = .ok (" " ++ json ++ t) := by
  have hline : "data: " ++ json ++ t = "" ++ "data:" ++ (" " ++ json ++ t) := by
    simp only [← String.append_assoc]
    rfl
  unfold eventText
  rw [List.head?_cons, hline]
  rw [Option.bind_some, splitOn_once rfl (by decide) (data_nowhere ht h)]
  rfl

lemma eventData_event (hu : LineEnd u) {json : String} :
    eventData (.ok ("data: " ++ json ++ t) :: .ok u :: lines) =
      .ok (["data: " ++ json ++ t], lines) := by
  have hne {v : String} (hv : LineEnd v) : "data: " ++ json ++ t ≠ v := by
    intro he
    have hhead := congrArg (fun w : String => w.toList.head?) he
    obtain rfl | rfl := hv <;> simp at hhead
  have hdata : ¬ ("data: " ++ json ++ t = "\n" ∨ "data: " ++ json ++ t = "\r\n") :=
    not_or.mpr ⟨hne (.inl rfl), hne (.inr rfl)⟩
  have hblank : u = "\n" ∨ u = "\r\n" := hu
  rw [eventData, if_neg hdata, eventData, if_pos hblank]
  rfl

/-- The event is decoded from its own lines. -/
lemma decodeStruct_event (hs : LineEnd s) (ht : LineEnd t) (hinv : Inverts c encode e)
    (hjson : ¬ "data:".toList <:+: (encode e).toList) :
    decodeStruct c (eventName ("event: " ++ e.topic ++ s)) ["data: " ++ encode e ++ t] =
      .ok e.toEvent := by
  have hspace : t.toList ⊆ jsonSpace := by
    obtain rfl | rfl := ht <;> decide
  obtain ⟨decode, hdecode, hevent⟩ := eventStruct_topic (hinv " " t (by decide) hspace)
  unfold decodeStruct
  rw [eventName_event hs, hdecode, eventText_data ht hjson]
  simp [hevent, Except.mapError, bind, Except.bind]

/-! ### The whole stream -/

lemma subscribeToEvents_skip (h : line.startsWith "event:" = false) :
    subscribeToEvents c (.ok line :: lines) = subscribeToEvents c lines := by
  rw [subscribeToEvents, if_neg (by simp [h])]

lemma not_begins_of_comment (h : line.startsWith ":" = true) :
    line.startsWith "event:" = false := by
  rw [Bool.eq_false_iff, Ne, String.startsWith_string_iff]
  rw [String.startsWith_string_iff] at h
  intro hevent
  have hone := List.prefix_of_prefix_length_le h hevent (by decide)
  revert hone
  decide

lemma not_begins_of_blank (h : strip line = "") : line.startsWith "event:" = false := by
  rw [Bool.eq_false_iff, Ne, String.startsWith_string_iff]
  rintro ⟨rest, hline⟩
  have hstart : line.toList.dropWhile isSpace = 'e' :: ("vent:".toList ++ rest) := by
    rw [← hline]
    exact List.dropWhile_cons_of_neg (by decide)
  have hblank := congrArg String.toList h
  rw [strip, String.toList_ofList, hstart, String.toList_empty, List.reverse_eq_nil_iff,
    List.dropWhile_eq_nil_iff] at hblank
  exact absurd (hblank 'e' (by simp)) (by decide)

lemma subscribeToEvents_yield {rest : List Line} {data : List String} {event : Event}
    (begins : line.startsWith "event:" = true) (read : eventData lines = .ok (data, rest))
    (yielded : decodeEvent c (eventName line) data = .ok event) :
    subscribeToEvents c (.ok line :: lines) =
      (event :: (subscribeToEvents c rest).1, (subscribeToEvents c rest).2) := by
  rw [subscribeToEvents, if_pos begins]
  split
  case h_1 hread =>
    rw [hread] at read
    cases read
  case h_2 hread =>
    rw [hread] at read
    obtain ⟨rfl, rfl⟩ := Prod.mk.inj (Except.ok.inj read)
    rw [yielded]

lemma subscribeToEvents_raise {rest : List Line} {data : List String} {err : Error}
    (begins : line.startsWith "event:" = true) (read : eventData lines = .ok (data, rest))
    (raised : decodeEvent c (eventName line) data = .error err) :
    subscribeToEvents c (.ok line :: lines) = ([], some err) := by
  rw [subscribeToEvents, if_pos begins]
  split
  case h_1 hread =>
    rw [hread] at read
    cases read
  case h_2 hread =>
    rw [hread] at read
    obtain ⟨rfl, rfl⟩ := Prod.mk.inj (Except.ok.inj read)
    rw [raised]

lemma decodeEvent_of_not_optimistic {name : String} {data : List String} {event : Event}
    (h : decodeStruct c name data = .ok event) (hopt : event.executionOptimistic ≠ some true) :
    decodeEvent c name data = .ok event := by
  simp [decodeEvent, h, hopt, bind, Except.bind, pure, Except.pure]

/-- The events are read up to the first optimistic one, which is raised for. -/
def readUpToOptimistic (c : Client) (events : List Event) : List Event × Option Error :=
  (events.takeWhile fun e => e.executionOptimistic ≠ some true,
    (events.find? fun e => e.executionOptimistic = some true).map fun e =>
      .valueError s!"Execution optimistic for event: {c.reprEvent e.event}")

/-- **What is read of a stream.** Its events are yielded in order up to the first optimistic
one, which raises and is not yielded. -/
theorem subscribeToEvents_of_stream (c : Client) (encode : SentEvent → String)
    (sent : List SentEvent) (lines : List Line) (h : Stream encode sent lines)
    (hinv : ∀ e ∈ sent, Inverts c encode e)
    (hjson : ∀ e ∈ sent, ¬ "data:".toList <:+: (encode e).toList) :
    subscribeToEvents c lines = readUpToOptimistic c (sent.map SentEvent.toEvent) := by
  induction h with
  | done =>
    rw [subscribeToEvents]
    rfl
  | comment begins _ ih =>
    rw [subscribeToEvents_skip (not_begins_of_comment begins)]
    exact ih hinv hjson
  | keepAlive blank _ ih =>
    rw [subscribeToEvents_skip (not_begins_of_blank blank)]
    exact ih hinv hjson
  | @event sent lines e s t u hs ht hu _ ih =>
    have hdecode := decodeStruct_event hs ht (hinv e (by simp)) (hjson e (by simp))
    have hrest := ih (fun e he => hinv e (by simp [he])) (fun e he => hjson e (by simp [he]))
    rw [List.map_cons, readUpToOptimistic]
    by_cases hopt : e.toEvent.executionOptimistic = some true
    · have hraise := decodeEvent_of_optimistic hdecode hopt
      rw [subscribeToEvents_raise begins_event (eventData_event hu) hraise,
        List.takeWhile_cons_of_neg (by simpa using hopt),
        List.find?_cons_of_pos (by simpa using hopt)]
      rfl
    · have hyield := decodeEvent_of_not_optimistic hdecode hopt
      rw [subscribeToEvents_yield begins_event (eventData_event hu) hyield, hrest,
        List.takeWhile_cons_of_pos (by simpa using hopt),
        List.find?_cons_of_neg (by simpa using hopt)]
      rfl

/-! ### A stream of two events -/

def headJson : String :=
  "\x7b\"slot\":\"1\",\"block\":\"0xa\",\"previous_duty_dependent_root\":\"0xb\"," ++
    "\"current_duty_dependent_root\":\"0xc\",\"execution_optimistic\":false\x7d"

def reorgJson : String :=
  "\x7b\"slot\":\"1\",\"depth\":\"1\",\"old_head_block\":\"0xa\"," ++
    "\"new_head_block\":\"0xd\",\"execution_optimistic\":true\x7d"

def someHead : SentEvent := .head ⟨false, ⟨1, "0xa", "0xb", "0xc"⟩⟩

def someReorg : SentEvent := .chainReorg ⟨true, ⟨1, "1", "0xa", "0xd"⟩⟩

def encodeTwo : SentEvent → String
  | .head _ => headJson
  | .chainReorg _ => reorgJson
  | .attesterSlashing _ | .proposerSlashing _ => ""

def compact (text : String) : String := String.ofList (text.toList.filter (· ∉ jsonSpace))

/-- A client that can read these events. -/
def twoEvents : Client where
  getBlockRootResponse := fun _ => .error ""
  getStateValidatorsResponse := fun _ => .error ""
  getAttesterDutiesResponse := fun _ => .error ""
  getProposerDutiesResponse := fun _ => .error ""
  getSyncDutiesResponse := fun _ => .error ""
  headEvent := fun text =>
    if compact text = compact headJson then .ok ⟨false, ⟨1, "0xa", "0xb", "0xc"⟩⟩ else .error ""
  chainReorgEvent := fun text =>
    if compact text = compact reorgJson then .ok ⟨true, ⟨1, "1", "0xa", "0xd"⟩⟩ else .error ""
  attesterSlashingEvent := fun _ => .error ""
  proposerSlashingEvent := fun _ => .error ""
  int := fun _ => none
  reprLines := fun _ => ""
  reprEvent := fun _ => "ChainReorgEvent"

lemma compact_around {before json after : String} (hb : before.toList ⊆ jsonSpace)
    (ha : after.toList ⊆ jsonSpace) : compact (before ++ json ++ after) = compact json := by
  have hnone {text : String} (h : text.toList ⊆ jsonSpace) :
      text.toList.filter (· ∉ jsonSpace) = [] := by
    rw [List.filter_eq_nil_iff]
    intro ch hch
    simpa using h hch
  unfold compact
  rw [String.toList_append, String.toList_append, List.filter_append, List.filter_append,
    hnone hb, hnone ha, List.nil_append, List.append_nil]

lemma inverts_two : ∀ e ∈ [someHead, someReorg], Inverts twoEvents encodeTwo e := by
  intro e he before after hb ha
  obtain rfl | rfl : e = someHead ∨ e = someReorg := by simpa using he
  · have hsame : compact (before ++ headJson ++ after) = compact headJson := compact_around hb ha
    simp only [someHead, SentEvent.DecodedFrom, twoEvents, encodeTwo]
    rw [if_pos hsame]
  · have hsame : compact (before ++ reorgJson ++ after) = compact reorgJson := compact_around hb ha
    simp only [someReorg, SentEvent.DecodedFrom, twoEvents, encodeTwo]
    rw [if_pos hsame]

/-- The head event is yielded, and the reorganisation is raised for. -/
theorem subscribeToEvents_two : ∃ lines, Stream encodeTwo [someHead, someReorg] lines ∧
    subscribeToEvents twoEvents lines = ([someHead.toEvent],
      some (.valueError "Execution optimistic for event: ChainReorgEvent")) := by
  have hcomment : ": connected\n".startsWith ":" = true := by
    rw [String.startsWith_string_iff]
    decide
  have hblank : strip "\n" = "" := by decide
  have hstream : Stream encodeTwo [someHead, someReorg] _ :=
    .comment hcomment (.event (.inl rfl) (.inl rfl) (.inl rfl) (.keepAlive hblank
      (.event (.inr rfl) (.inr rfl) (.inr rfl) .done)))
  have hjson : ∀ e ∈ [someHead, someReorg], ¬ "data:".toList <:+: (encodeTwo e).toList := by
    intro e he
    obtain rfl | rfl : e = someHead ∨ e = someReorg := by simpa using he
    · decide +kernel
    · decide +kernel
  exact ⟨_, hstream, subscribeToEvents_of_stream twoEvents encodeTwo [someHead, someReorg] _
    hstream inverts_two hjson⟩

end Vero.BeaconNode
