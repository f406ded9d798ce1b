/-
Module: ClaudeProxy.Proofs.StreamAgreement
Layer: Proofs
Purpose: A client that reads a streamed answer ends up with what it would have received without
  streaming. The encoder buffers exactly the tools the decoder has announced, with the same
  arguments (`SyncedAt`), and the events carry the text and the usage of the chunks (`Emits`); so the
  message a client rebuilds is the translation of the whole answer.
Trusted boundary: none
Main exports: SyncedAt, Emits, runLines_emits, Answer, StreamsAnswer, rebuild,
  streamed_agrees_with_whole
-/
import ClaudeProxy.Library.Outcome
import ClaudeProxy.Provider.Response
import ClaudeProxy.Proofs.Truncation

namespace ClaudeProxy

open Library

/-! ### What the encoder takes from a list of events -/

def eventText : ProviderEvent → Option String
  | .text text => some text
  | _ => none

def eventUsage : ProviderEvent → Option Usage
  | .usage usage => some usage
  | _ => none

/-- The encoder's tools after one more event. -/
def bufferEvent (tools : Std.TreeMap Nat BufferedTool) : ProviderEvent → Std.TreeMap Nat BufferedTool
  | .toolStart index id name => tools.insert index { id := id, name := name, arguments := "" }
  | .toolDelta index arguments =>
      match tools[index]? with
      | some tool => tools.insert index { tool with arguments := tool.arguments ++ arguments }
      | none => tools
  | _ => tools

namespace StreamEncoder

/-- What the encoder holds back of tools depends on the events about tools alone. -/
theorem encode_tools (encoder : StreamEncoder) (event : ProviderEvent) :
    (encoder.encode event).1.tools = bufferEvent encoder.tools event := by
  cases event with
  | text text =>
      unfold encode encodeText
      cases encoder.textBlock <;> rfl
  | toolStart index id name => rfl
  | toolDelta index arguments =>
      unfold encode bufferEvent
      dsimp only
      cases encoder.tools[index]? <;> rfl
  | finished reason usage => exact recordFinalUsage_tools encoder usage
  | usage usage => rfl

/-- So it does over any number of events. -/
theorem encodeAll_tools (encoder : StreamEncoder) (events : List ProviderEvent) :
    (encoder.encodeAll events).1.tools = events.foldl bufferEvent encoder.tools := by
  induction events generalizing encoder with
  | nil => rfl
  | cons event rest inductionHypothesis =>
      unfold encodeAll
      dsimp only
      rw [inductionHypothesis, encode_tools, List.foldl_cons]

/-- The last usage that an open event reports is the one that counts. -/
theorem encode_outputTokens (encoder : StreamEncoder) {event : ProviderEvent} (isOpen : event.Open) :
    (encoder.encode event).1.outputTokens =
      ((eventUsage event).map Usage.outputTokens).getD encoder.outputTokens := by
  cases event with
  | text text =>
      unfold encode encodeText
      cases encoder.textBlock <;> rfl
  | toolStart index id name => rfl
  | toolDelta index arguments =>
      unfold encode
      dsimp only
      cases encoder.tools[index]? <;> rfl
  | finished reason usage => exact absurd trivial isOpen
  | usage usage => rfl

/-- The last usage among the events is the one the encoder reports. -/
theorem encodeAll_outputTokens (encoder : StreamEncoder) {events : List ProviderEvent}
    (areOpen : ∀ event ∈ events, event.Open) :
    (encoder.encodeAll events).1.outputTokens =
      ((events.filterMap eventUsage).getLast?.map Usage.outputTokens).getD encoder.outputTokens := by
  induction events generalizing encoder with
  | nil => rfl
  | cons event rest inductionHypothesis =>
      rw [List.forall_mem_cons] at areOpen
      unfold encodeAll
      dsimp only
      rw [inductionHypothesis _ areOpen.2, encode_outputTokens encoder areOpen.1, List.filterMap_cons]
      cases eventUsage event with
      | none => rfl
      | some usage =>
          dsimp only
          rw [List.getLast?_cons]
          cases (rest.filterMap eventUsage).getLast? <;> rfl

end StreamEncoder

/-- The text a client has seen is the concatenation of the text events, if there are any. -/
theorem foldl_seenText (events : List ProviderEvent) (text : Option String) :
    events.foldl seenText text =
      if events.filterMap eventText = [] then text
      else some (text.getD "" ++ String.join (events.filterMap eventText)) := by
  induction events generalizing text with
  | nil => rfl
  | cons event rest inductionHypothesis =>
      rw [List.foldl_cons, inductionHypothesis, List.filterMap_cons]
      cases event with
      | text more =>
          by_cases silent : rest.filterMap eventText = []
          · simp [eventText, seenText, silent]
          · simp [eventText, seenText, silent, String.append_assoc]
      | toolStart index id name => rfl
      | toolDelta index arguments => rfl
      | finished reason usage => rfl
      | usage usage => rfl

/-! ### Encoder and decoder hold the same tools -/

/-- Some first fragments of a tool give it an id and a name. -/
def NamedBy (front : List Value) : Prop :=
  String.join (front.map idFragment) ≠ "" ∧ String.join (front.map nameFragment) ≠ ""

/-- More fragments take neither away. -/
theorem NamedBy.mono {front longer : List Value} (named : NamedBy front)
    (isPrefix : front <+: longer) : NamedBy longer := by
  obtain ⟨later, rfl⟩ := isPrefix
  simp only [NamedBy, List.map_append, join_append, ne_eq, append_eq_empty, not_and]
  exact ⟨fun empty => absurd empty named.1, fun empty => absurd empty named.2⟩

/-- A tool that waits for its announcement has no id or no name yet. -/
theorem ToolTable.Holds.unnamed {tools : ToolTable} {calls : List Value} (holds : tools.Holds calls)
    {index : Nat} (notStarted : ((tools.lookup index).getD {}).started = false) :
    ¬ NamedBy (fragmentsAt index calls) := by
  rw [holds index] at notStarted
  split at notStarted
  · next absent =>
      rw [absent]
      exact fun named => named.1 rfl
  · have waiting : decide (joinedAt idFragment index calls ≠ "" ∧
        joinedAt nameFragment index calls ≠ "") = false := notStarted
    have unnamed := of_decide_eq_false waiting
    exact unnamed

/-- The fragment that gives a tool the last of its id and its name. -/
theorem named_first_of_unnamed {index : Nat} {calls : List Value}
    (unnamed : ¬ NamedBy (fragmentsAt index calls)) {call : Value}
    (found : callIndex call = some index) :
    ∀ shorter, shorter <+: fragmentsAt index (calls ++ [call]) → NamedBy shorter →
      shorter = fragmentsAt index (calls ++ [call]) := by
  intro shorter isPrefix named
  have grown : fragmentsAt index (calls ++ [call]) = fragmentsAt index calls ++ [call] := by
    simp [fragmentsAt, found]
  rw [grown] at isPrefix ⊢
  rcases List.prefix_concat_iff.mp isPrefix with whole | before
  · exact whole
  · exact absurd (named.mono before) unnamed

/-- The id and the name of a tool as they were when it first had both: put together from its first
fragments, as many as it takes. -/
def IdentityOf (index : Nat) (calls : List Value) (id name : String) : Prop :=
  id ≠ "" ∧ name ≠ "" ∧ ∃ front, front <+: fragmentsAt index calls ∧
    (∀ shorter, shorter <+: front → NamedBy shorter → shorter = front) ∧
    id = String.join (front.map idFragment) ∧ name = String.join (front.map nameFragment)

/-- At one index, the encoder holds nothing while the decoder's tool waits for its id and name, and
afterwards a tool with the same arguments, under the id and name at the time of its announcement. -/
inductive SyncedAt (tools : ToolTable) (calls : List Value)
    (buffered : Std.TreeMap Nat BufferedTool) (index : Nat) : Prop
  | waiting (absent : buffered[index]? = none)
      (notStarted : ((tools.lookup index).getD {}).started = false)
  | announced {tool : StreamedTool} {id name : String} (held : tools.lookup index = some tool)
      (started : tool.started = true)
      (present : buffered[index]? = some { id := id, name := name, arguments := tool.arguments })
      (identity : IdentityOf index calls id name)

/-- More fragments do not change what a tool is known by. -/
theorem IdentityOf.append {index : Nat} {calls : List Value} {id name : String}
    (identity : IdentityOf index calls id name) (more : List Value) :
    IdentityOf index (calls ++ more) id name := by
  obtain ⟨hasId, hasName, front, isPrefix, first, idEq, nameEq⟩ := identity
  refine ⟨hasId, hasName, front, ?_, first, idEq, nameEq⟩
  rw [fragmentsAt_append]
  exact isPrefix.trans (List.prefix_append _ _)

/-- A part of arguments goes to the end of what is there. -/
theorem bufferEvent_delta {buffered : Std.TreeMap Nat BufferedTool} {index : Nat}
    {tool : BufferedTool} (present : buffered[index]? = some tool) (arguments : String) :
    bufferEvent buffered (.toolDelta index arguments) =
      buffered.insert index { tool with arguments := tool.arguments ++ arguments } := by
  unfold bufferEvent
  dsimp only
  rw [present]

/-- The events of one fragment change the encoder at the index of the fragment alone. -/
theorem callEvents_other {index other : Nat} (differs : other ≠ index) (tool : StreamedTool)
    (call : Value) (buffered : Std.TreeMap Nat BufferedTool) :
    ((callEvents index tool call).foldl bufferEvent buffered)[other]? = buffered[other]? := by
  have start : ∀ (held : Std.TreeMap Nat BufferedTool) id name,
      (bufferEvent held (.toolStart index id name))[other]? = held[other]? := by
    intro held id name
    unfold bufferEvent
    rw [Std.TreeMap.getElem?_insert]
    simp [differs.symm]
  have delta : ∀ (held : Std.TreeMap Nat BufferedTool) arguments,
      (bufferEvent held (.toolDelta index arguments))[other]? = held[other]? := by
    intro held arguments
    unfold bufferEvent
    dsimp only
    cases held[index]? with
    | none => rfl
    | some tool =>
        dsimp only
        rw [Std.TreeMap.getElem?_insert]
        simp [differs.symm]
  have pushed : ∀ (held : Std.TreeMap Nat BufferedTool) started,
      ((argumentEvents index started call).foldl bufferEvent held)[other]? = held[other]? := by
    intro held started
    unfold argumentEvents
    split
    · rfl
    · split
      · exact delta held _
      · rfl
  unfold callEvents announceEvents
  rw [List.foldl_append, pushed]
  split
  · rw [List.foldl_cons]
    split
    · exact (delta _ _).trans (start _ _ _)
    · exact start _ _ _
  · rfl

/-- The arguments of a fragment reach the encoder's copy of an announced tool. -/
theorem argumentEvents_buffered {index : Nat} {buffered : Std.TreeMap Nat BufferedTool}
    {held : BufferedTool} (present : buffered[index]? = some held) (call : Value) :
    ((argumentEvents index true call).foldl bufferEvent buffered)[index]? =
      some { held with arguments := held.arguments ++ argumentsFragment call } := by
  unfold argumentEvents argumentsFragment
  cases (call.pointer ["function", "arguments"]).bind Value.asStr with
  | none => simpa using present
  | some arguments =>
      dsimp only
      rw [if_pos rfl, List.foldl_cons, bufferEvent_delta present]
      simp

/-- A tool that is not announced yet tells nothing of its arguments. -/
theorem argumentEvents_waiting (index : Nat) (call : Value) : argumentEvents index false call = [] := by
  unfold argumentEvents
  cases (call.pointer ["function", "arguments"]).bind Value.asStr <;> rfl

/-- The announcement of a tool hands its id, its name and the arguments held back to the encoder. -/
theorem announceEvents_buffered {index : Nat} {tool : StreamedTool} (waiting : tool.started = false)
    (ready : tool.Ready) (buffered : Std.TreeMap Nat BufferedTool) :
    ((announceEvents index tool).foldl bufferEvent buffered)[index]? =
      some { id := tool.id, name := tool.name, arguments := tool.arguments } := by
  have started : (bufferEvent buffered (.toolStart index tool.id tool.name))[index]? =
      some { id := tool.id, name := tool.name, arguments := "" } := by
    simp [bufferEvent]
  unfold announceEvents
  rw [if_pos ⟨waiting, ready⟩, List.foldl_cons]
  by_cases held : tool.arguments ≠ ""
  · rw [if_pos held, List.foldl_cons, bufferEvent_delta started]
    simp
  · have none : tool.arguments = "" := not_not.mp held
    rw [if_neg held, none]
    exact started

/-- A tool is announced once. -/
theorem announceEvents_of_started {index : Nat} {tool : StreamedTool}
    (quiet : ¬ (tool.started = false ∧ tool.Ready)) : announceEvents index tool = [] :=
  if_neg quiet

/-- One fragment, at its own index. -/
theorem SyncedAt.absorb_same {tools : ToolTable} {calls : List Value}
    {buffered : Std.TreeMap Nat BufferedTool} {index : Nat} (synced : SyncedAt tools calls buffered index)
    (holds : tools.Holds calls) {call : Value} (found : callIndex call = some index) :
    SyncedAt (tools.insert index (((tools.lookup index).getD {}).absorb call)) (calls ++ [call])
      ((callEvents index ((tools.lookup index).getD {}) call).foldl bufferEvent buffered) index := by
  have held : AList.lookup index (tools.insert index (((tools.lookup index).getD {}).absorb call)) =
      some (((tools.lookup index).getD {}).absorb call) := AList.lookup_insert _
  have put : ((tools.lookup index).getD {}).absorb call = assembled index (calls ++ [call]) := by
    have after := holds.absorb (Option.isSome_iff_exists.mpr ⟨index, found⟩) index
    have present : fragmentsAt index (calls ++ [call]) ≠ [] := by simp [fragmentsAt, found]
    unfold ToolTable.absorb at after
    rw [found] at after
    dsimp only at after
    rw [held, if_neg present] at after
    exact Option.some.inj after
  cases synced with
  | waiting absent notStarted =>
      have firstNamed := named_first_of_unnamed (holds.unnamed notStarted) found
      generalize (tools.lookup index).getD {} = tool at held put notStarted ⊢
      by_cases ready : (tool.pushIdentity call).Ready
      · have started : (tool.absorb call).started = true := by
          simp [StreamedTool.absorb, ready]
        refine .announced held started ?_ ⟨ready.1, ready.2, fragmentsAt index (calls ++ [call]),
          List.prefix_rfl, firstNamed, ?_, ?_⟩
        · unfold callEvents
          rw [List.foldl_append, started]
          have waiting : (tool.pushIdentity call).started = false := notStarted
          exact argumentEvents_buffered (announceEvents_buffered waiting ready buffered) call
        · exact congrArg StreamedTool.id put
        · exact congrArg StreamedTool.name put
      · have notYet : (tool.absorb call).started = false := by
          simp [StreamedTool.absorb, ready, notStarted]
        refine .waiting ?_ ?_
        · unfold callEvents
          rw [notYet, argumentEvents_waiting, announceEvents_of_started fun quiet => ready quiet.2]
          exact absent
        · rw [held]
          exact notYet
  | @announced tool id name found' started present identity =>
      rw [found'] at held put ⊢
      have stillStarted : (tool.absorb call).started = true := by
        simp [StreamedTool.absorb, started]
      have quiet : ¬ ((tool.pushIdentity call).started = false ∧ (tool.pushIdentity call).Ready) := by
        intro waiting
        have notStarted : tool.started = false := waiting.1
        rw [started] at notStarted
        cases notStarted
      refine .announced held stillStarted ?_ (identity.append [call])
      unfold callEvents
      rw [Option.getD_some, announceEvents_of_started quiet, List.nil_append, stillStarted]
      exact argumentEvents_buffered present call

/-- One fragment keeps decoder and encoder in step at every index. -/
theorem SyncedAt.absorb {tools : ToolTable} {calls : List Value}
    {buffered : Std.TreeMap Nat BufferedTool} (synced : ∀ index, SyncedAt tools calls buffered index)
    (holds : tools.Holds calls) {call : Value} {index : Nat} (found : callIndex call = some index)
    (other : Nat) :
    SyncedAt (tools.absorb call) (calls ++ [call])
      ((callEvents index ((tools.lookup index).getD {}) call).foldl bufferEvent buffered) other := by
  have absorbed : tools.absorb call =
      tools.insert index (((tools.lookup index).getD {}).absorb call) := by
    unfold ToolTable.absorb
    rw [found]
  rw [absorbed]
  by_cases same : other = index
  · subst same
    exact (synced other).absorb_same holds found
  · cases synced other with
    | waiting absent notStarted =>
        refine .waiting ?_ ?_
        · rw [callEvents_other same]
          exact absent
        · rw [AList.lookup_insert_ne same]
          exact notStarted
    | announced held started present identity =>
        refine .announced ?_ started ?_ (identity.append [call])
        · rw [AList.lookup_insert_ne same]
          exact held
        · rw [callEvents_other same]
          exact present

/-! ### The events of a chunk -/

/-- The text fragment of a choice. -/
def choiceText (choice : Value) : Option String :=
  (choice.pointer ["delta", "content"]).bind Value.asStr

/-- The text fragments of a chunk. -/
def chunkTexts (chunk : Value) : List String := (chunkChoices chunk).filterMap choiceText

/-- Everything the decoder has yielded, next to what it has read: the text events are the non-empty
text fragments, the usage events the usages, and the encoder holds the announced tools. -/
structure Emits (texts : List String) (calls : List Value) (usages : List Usage) (tools : ToolTable)
    (events : List ProviderEvent) : Prop where
  texts : events.filterMap eventText = texts.filter (· ≠ "")
  usages : events.filterMap eventUsage = usages
  holds : tools.Holds calls
  synced : ∀ index, SyncedAt tools calls (events.foldl bufferEvent ∅) index

/-- At the beginning nothing has come, and nothing has been told. -/
theorem emits_nothing : Emits [] [] [] ∅ [] where
  texts := rfl
  usages := rfl
  holds := ToolTable.holds_empty
  synced index := .waiting (by simp) (by simp)

/-- The events of a fragment carry no text and no usage. -/
theorem callEvents_silent {index : Nat} {tool : StreamedTool} {call : Value} {event : ProviderEvent}
    (member : event ∈ callEvents index tool call) : eventText event = none ∧ eventUsage event = none := by
  unfold callEvents announceEvents argumentEvents at member
  rcases List.mem_append.mp member with announced | pushed
  · split at announced
    · rcases List.mem_cons.mp announced with rfl | heldBack
      · exact ⟨rfl, rfl⟩
      · split at heldBack
        · obtain rfl := List.mem_singleton.mp heldBack
          exact ⟨rfl, rfl⟩
        · cases heldBack
    · cases announced
  · split at pushed
    · cases pushed
    · split at pushed
      · obtain rfl := List.mem_singleton.mp pushed
        exact ⟨rfl, rfl⟩
      · cases pushed

variable {texts : List String} {calls : List Value} {usages : List Usage} {tools : ToolTable}
  {events : List ProviderEvent}

/-- One fragment of a call more keeps what has been told in line with what has come. -/
theorem Emits.decodeCall (emits : Emits texts calls usages tools events) {call : Value}
    {next : ToolTable} (returned : (decodeCall tools call).result = .ok next) :
    Emits texts (calls ++ [call]) usages next (events ++ (ClaudeProxy.decodeCall tools call).yielded) := by
  obtain ⟨indexed, rfl⟩ := decodeCall_ok.mp returned
  obtain ⟨index, found⟩ := Option.isSome_iff_exists.mp indexed
  rw [decodeCall_eq found]
  have noText : (callEvents index ((tools.lookup index).getD {}) call).filterMap eventText = [] :=
    List.filterMap_eq_nil_iff.mpr fun _ member => (callEvents_silent member).1
  have noUsage : (callEvents index ((tools.lookup index).getD {}) call).filterMap eventUsage = [] :=
    List.filterMap_eq_nil_iff.mpr fun _ member => (callEvents_silent member).2
  constructor
  · rw [List.filterMap_append, noText, List.append_nil]
    exact emits.texts
  · rw [List.filterMap_append, noUsage, List.append_nil]
    exact emits.usages
  · exact emits.holds.absorb indexed
  · intro other
    rw [List.foldl_append]
    exact SyncedAt.absorb emits.synced emits.holds found other

/-- So do all the fragments of a chunk. -/
theorem Emits.decodeCalls (emits : Emits texts calls usages tools events) {more : List Value}
    {next : ToolTable} (returned : (more.foldlM ClaudeProxy.decodeCall tools).result = .ok next) :
    Emits texts (calls ++ more) usages next
      (events ++ (more.foldlM ClaudeProxy.decodeCall tools).yielded) := by
  refine Gen.foldlM_invariant (fun handled state seen => Emits texts handled usages state seen)
    ?_ emits returned
  intro handled call state seen next emitsThere stepped
  exact emitsThere.decodeCall stepped

/-- Events that leave the encoder's tools as they are. -/
theorem Emits.quiet (emits : Emits texts calls usages tools events) {more : List ProviderEvent}
    (quiet : ∀ held, more.foldl bufferEvent held = held) {moreTexts : List String}
    (textEvents : more.filterMap eventText = moreTexts.filter (· ≠ "")) {moreUsages : List Usage}
    (usageEvents : more.filterMap eventUsage = moreUsages) :
    Emits (texts ++ moreTexts) calls (usages ++ moreUsages) tools (events ++ more) := by
  constructor
  · rw [List.filterMap_append, List.filter_append, textEvents, emits.texts]
  · rw [List.filterMap_append, usageEvents, emits.usages]
  · exact emits.holds
  · intro index
    rw [List.foldl_append, quiet]
    exact emits.synced index

/-- So does the usage of a chunk. -/
theorem Emits.decodeUsage {state : Decoder} (emits : Emits texts calls usages state.tools events)
    (chunk : Value) :
    Emits texts calls (usages ++ (chunkUsage chunk).toList) state.tools
      (events ++ (ClaudeProxy.decodeUsage state chunk).yielded) := by
  have yielded : (ClaudeProxy.decodeUsage state chunk).yielded =
      ((chunkUsage chunk).map ProviderEvent.usage).toList := by
    unfold ClaudeProxy.decodeUsage
    cases chunkUsage chunk <;> rfl
  rw [yielded]
  have noText : texts = texts ++ [] := (List.append_nil texts).symm
  rw [noText]
  apply emits.quiet
  · intro held
    cases chunkUsage chunk <;> rfl
  · cases chunkUsage chunk <;> rfl
  · cases chunkUsage chunk <;> rfl

/-- So does the text of a choice. -/
theorem Emits.decodeContent (emits : Emits texts calls usages tools events) (choice : Value) :
    Emits (texts ++ (choiceText choice).toList) calls usages tools
      (events ++ (ClaudeProxy.decodeContent choice).yielded) := by
  have noUsage : usages = usages ++ [] := (List.append_nil usages).symm
  rw [noUsage]
  unfold ClaudeProxy.decodeContent choiceText
  cases (choice.pointer ["delta", "content"]).bind Value.asStr with
  | none => exact emits.quiet (fun _ => rfl) rfl rfl
  | some content =>
      dsimp only
      rw [Gen.yieldIf_yielded]
      by_cases shown : content ≠ ""
      · rw [if_pos shown]
        apply emits.quiet
        · intro held
          rfl
        · rw [Option.toList_some, List.filter_cons_of_pos (by simpa using shown)]
          rfl
        · rfl
      · rw [if_neg shown]
        apply emits.quiet
        · intro held
          rfl
        · rw [Option.toList_some, List.filter_cons_of_neg (by simpa using shown)]
          rfl
        · rfl

/-- A choice adds its text and its calls. -/
theorem Emits.decodeChoice {state next : Decoder} {choice : Value}
    (emits : Emits texts calls usages state.tools events)
    (returned : (decodeChoice state choice).result = .ok next) :
    Emits (texts ++ (choiceText choice).toList)
      (calls ++ choiceCalls choice) usages next.tools
      (events ++ (ClaudeProxy.decodeChoice state choice).yielded) := by
  unfold ClaudeProxy.decodeChoice at returned ⊢
  rw [Gen.bind_of_ok (decodeContent_ok choice)] at returned ⊢
  obtain ⟨middle, callsEq, reasonEq, yieldedEq⟩ := Gen.bind_result_ok returned
  have sameTools : next.tools = middle := by
    rw [(decodeReason_ok.mp reasonEq).2]
  dsimp only
  rw [yieldedEq, decodeReason_yields_nothing, List.append_nil, ← List.append_assoc, sameTools]
  exact (emits.decodeContent choice).decodeCalls callsEq

/-- What the decoder has yielded, in terms of the chunks it has read. -/
def EmitsChunks (chunks : List Value) (state : Decoder) (events : List ProviderEvent) : Prop :=
  Emits (chunks.flatMap chunkTexts) (chunks.flatMap chunkCalls) (chunks.filterMap chunkUsage)
    state.tools events

/-- In the middle of a chunk: of its choices, those handled so far count. -/
def EmitsPart (chunks : List Value) (chunk : Value) (handled : List Value) (state : Decoder)
    (events : List ProviderEvent) : Prop :=
  Emits (chunks.flatMap chunkTexts ++ handled.filterMap choiceText)
    (chunks.flatMap chunkCalls ++ handled.flatMap choiceCalls)
    (chunks.filterMap chunkUsage ++ (chunkUsage chunk).toList) state.tools events

/-- The choices of a chunk are told one after the other. -/
theorem EmitsPart.decodeChoice {chunks handled : List Value} {chunk choice : Value}
    {state next : Decoder} (emits : EmitsPart chunks chunk handled state events)
    (returned : (decodeChoice state choice).result = .ok next) :
    EmitsPart chunks chunk (handled ++ [choice]) next
      (events ++ (ClaudeProxy.decodeChoice state choice).yielded) := by
  have texts : (handled ++ [choice]).filterMap choiceText =
      handled.filterMap choiceText ++ (choiceText choice).toList := by
    rw [List.filterMap_append, List.filterMap_cons, List.filterMap_nil]
    cases choiceText choice <;> rfl
  unfold EmitsPart at emits ⊢
  rw [texts, List.flatMap_append, List.flatMap_singleton, ← List.append_assoc, ← List.append_assoc]
  exact Emits.decodeChoice emits returned

/-- A chunk that is decoded has been told completely. -/
theorem EmitsChunks.decodeChunk {chunks : List Value} {state next : Decoder} {chunk : Value}
    (emits : EmitsChunks chunks state events)
    (returned : (ClaudeProxy.decodeChunk state chunk).result = .ok next) :
    EmitsChunks (chunks ++ [chunk]) next
      (events ++ (ClaudeProxy.decodeChunk state chunk).yielded) := by
  have initially : EmitsPart chunks chunk []
      { state with finalUsage := (chunkUsage chunk).or state.finalUsage }
      (events ++ (ClaudeProxy.decodeUsage state chunk).yielded) := by
    unfold EmitsPart
    rw [List.filterMap_nil, List.flatMap_nil, List.append_nil, List.append_nil]
    exact Emits.decodeUsage emits chunk
  have usages : (chunks ++ [chunk]).filterMap chunkUsage =
      chunks.filterMap chunkUsage ++ (chunkUsage chunk).toList := by
    rw [List.filterMap_append, List.filterMap_cons, List.filterMap_nil]
    cases chunkUsage chunk <;> rfl
  unfold ClaudeProxy.decodeChunk at returned ⊢
  rw [Gen.bind_of_ok decodeUsage_ok] at returned ⊢
  have looped := Gen.foldlM_invariant (EmitsPart chunks chunk)
    (fun _ _ _ _ _ there stepped => EmitsPart.decodeChoice there stepped) initially returned
  unfold EmitsChunks
  rw [usages, List.flatMap_append, List.flatMap_singleton, List.flatMap_append,
    List.flatMap_singleton]
  rw [List.append_assoc] at looped
  exact looped

section Lines

variable {crates : Crates} {order : IterationOrder}

/-- So has the chunk of a line. -/
theorem EmitsChunks.decodeLine {handled : List Bytes} {state next : Decoder} {line : Bytes}
    (emits : EmitsChunks (handled.filterMap (lineChunk crates)) state events)
    (returned : (decodeLine crates order state line).result = .ok (.next next)) :
    EmitsChunks ((handled ++ [line]).filterMap (lineChunk crates)) next
      (events ++ (ClaudeProxy.decodeLine crates order state line).yielded) := by
  obtain ⟨sound, -⟩ := decodeLine_next.mp returned
  rw [List.filterMap_append, List.filterMap_cons, List.filterMap_nil]
  rcases sound with noData | ⟨data, chunk, dataEq, notDone, parsed, chunkSound⟩
  · have passedOver : lineChunk crates line = none := by
      rw [lineChunk, noData]
    unfold ClaudeProxy.decodeLine at returned ⊢
    rw [noData, Gen.ofExcept_ok, pure_bind] at returned ⊢
    cases returned
    rw [passedOver]
    simpa using emits
  · have carried : lineChunk crates line = some chunk := by
      rw [lineChunk, dataEq]
      dsimp only
      rw [if_neg notDone, parsed]
      rfl
    unfold ClaudeProxy.decodeLine at returned ⊢
    rw [dataEq, Gen.ofExcept_ok, pure_bind] at returned ⊢
    dsimp only at returned ⊢
    unfold decodeData at returned ⊢
    rw [if_neg notDone, parsed] at returned ⊢
    dsimp only at returned ⊢
    obtain ⟨middle, chunkEq, nextEq, yieldedEq⟩ := Gen.bind_result_ok returned
    cases nextEq
    rw [carried, yieldedEq, Gen.pure_yielded, List.append_nil]
    exact EmitsChunks.decodeChunk emits chunkEq

/-- What a pass over some lines yields, in terms of the chunks on them. -/
theorem runLines_emits {input : List Bytes} {state : Decoder}
    (returned : (runLines (decodeLine crates order) {} input).result = .ok (.next state)) :
    EmitsChunks (input.filterMap (lineChunk crates)) state
      (runLines (decodeLine crates order) {} input).yielded := by
  have initially : EmitsChunks (([] : List Bytes).filterMap (lineChunk crates)) {} [] := emits_nothing
  exact runLines_invariant
    (fun handled state seen => EmitsChunks (handled.filterMap (lineChunk crates)) state seen)
    (fun _ _ _ _ _ there stepped => EmitsChunks.decodeLine there stepped) initially returned

end Lines

/-! ### Answers, whole and streamed -/

/-- A tool call of an answer. -/
structure AnswerCall where
  id : String
  name : String
  arguments : String
deriving DecidableEq, Repr, Inhabited

/-- An answer of the provider, independent of how it is sent. -/
structure Answer where
  text : Option String
  calls : List AnswerCall
  finishReason : String
  usage : Option Usage
deriving DecidableEq, Repr, Inhabited

/-- The tool calls have ids and names, and the finish reason is a known one. -/
structure Answer.WellFormed (answer : Answer) : Prop where
  named : ∀ call ∈ answer.calls, call.id ≠ "" ∧ call.name ≠ ""
  known : (knownReason answer.finishReason).isSome

/-- A call as it stands in a response. -/
def AnswerCall.toToolCall (call : AnswerCall) : OpenAiToolCall :=
  { id := call.id
    function := { name := call.name, arguments := call.arguments } }

/-- The answer in one response. -/
def Answer.whole (answer : Answer) (responseId : String) : OpenAiResponse :=
  { id := responseId
    choices :=
      [{ message :=
          { content := answer.text
            toolCalls := answer.calls.map AnswerCall.toToolCall }
         finishReason := some answer.finishReason }]
    usage := answer.usage.map fun usage =>
      { promptTokens := usage.inputTokens, completionTokens := usage.outputTokens } }

/-- The fragments of one call: its id is whole in one of them, its name in one of them, and their
arguments put together are its arguments. Fragments without an id or a name, or with an empty one,
may stand anywhere. -/
structure AnswerCall.Streamed (call : AnswerCall) (fragments : List Value) : Prop where
  id : (fragments.map idFragment).filter (· ≠ "") = [call.id]
  name : (fragments.map nameFragment).filter (· ≠ "") = [call.name]
  arguments : String.join (fragments.map argumentsFragment) = call.arguments

/-- A way of streaming an answer in chunks: text and arguments in any pieces, the calls numbered in
ascending order and their fragments interleaved in any way, one finish reason, and the usage, if
any, once. -/
structure Answer.Streamed (answer : Answer) (numbered : List (Nat × AnswerCall))
    (chunks : List Value) : Prop where
  text : String.join (chunks.flatMap chunkTexts) = answer.text.getD ""
  calls : numbered.map Prod.snd = answer.calls
  ascending : (numbered.map Prod.fst).Pairwise (· < ·)
  fragments : ∀ entry ∈ numbered,
    entry.2.Streamed (fragmentsAt entry.1 (chunks.flatMap chunkCalls))
  indexes : ∀ fragment ∈ chunks.flatMap chunkCalls, ∃ entry ∈ numbered,
    callIndex fragment = some entry.1
  finishReason : chunks.flatMap chunkReasons = [answer.finishReason]
  usage : chunks.filterMap chunkUsage = answer.usage.toList

/-- Lines that carry chunks of JSON, and lines that carry nothing. -/
def CarriesChunks (crates : Crates) (input : List Bytes) : Prop :=
  ∀ line ∈ input, lineData line = .ok none ∨ (lineChunk crates line).isSome

/-- A body that streams an answer: its complete lines carry the chunks, and perhaps a `[DONE]` after
them. -/
def StreamsAnswer (crates : Crates) (answer : Answer) (body : Bytes) : Prop :=
  ∃ input, CarriesChunks crates input ∧
    (∃ numbered, answer.Streamed numbered (input.filterMap (lineChunk crates))) ∧
    (lines lineFeed body = input ∨
      ∃ done after, IsDone done ∧ lines lineFeed body = input ++ done :: after)

/-- A block of the client's message as a block of a response: the input of a tool is what its JSON
denotes. -/
def rebuild (crates : Crates) : ClientBlock → Except String OutputBlock
  | .text text => .ok (.text text)
  | .toolUse id name partialJson => (crates.fromStr partialJson).map (.toolUse id name)

section Agreement

variable {crates : Crates} {order : IterationOrder} {answer : Answer}

/-- Lines that carry a chunk each are nothing but these chunks. -/
theorem filterMap_of_chunks {input : List Bytes} {chunks : List Value}
    (each : input.map (lineChunk crates) = chunks.map some) :
    input.filterMap (lineChunk crates) = chunks := by
  have kept := congrArg (List.filterMap id) each
  rw [List.filterMap_map, List.filterMap_map] at kept
  exact kept.trans List.filterMap_some

/-- Lines that each carry a chunk. -/
theorem carriesChunks_of_chunks {input : List Bytes} {chunks : List Value}
    (each : input.map (lineChunk crates) = chunks.map some) : CarriesChunks crates input := by
  intro line member
  have found : lineChunk crates line ∈ chunks.map some := by
    rw [← each]
    exact List.mem_map_of_mem member
  obtain ⟨chunk, -, isChunk⟩ := List.mem_map.mp found
  rw [← isChunk]
  exact .inr rfl

theorem lineSound_of_carries {line : Bytes}
    (carries : lineData line = .ok none ∨ (lineChunk crates line).isSome)
    (sound : ∀ chunk, lineChunk crates line = some chunk → ChunkSound chunk) :
    LineSound crates line := by
  rcases carries with noData | isChunk
  · exact .inl noData
  · obtain ⟨chunk, found⟩ := Option.isSome_iff_exists.mp isChunk
    have chunkSound := sound chunk found
    unfold lineChunk at found
    split at found
    · next data dataEq =>
        split at found
        · cases found
        · next notDone =>
            refine .inr ⟨data, chunk, dataEq, notDone, ?_, chunkSound⟩
            cases parsed : crates.fromStr data with
            | error error => rw [parsed] at found; cases found
            | ok value => rw [parsed] at found; cases found; rfl
    · cases found

/-- The chunks of a streamed answer are sound. -/
theorem Answer.Streamed.sound (wellFormed : answer.WellFormed) {numbered : List (Nat × AnswerCall)}
    {chunks : List Value} (streamed : answer.Streamed numbered chunks) {chunk : Value}
    (member : chunk ∈ chunks) : ChunkSound chunk := by
  intro choice choiceMember
  constructor
  · intro call callMember
    have inChunks : call ∈ chunks.flatMap chunkCalls := by
      refine List.mem_flatMap.mpr ⟨chunk, member, ?_⟩
      exact List.mem_flatMap.mpr ⟨choice, choiceMember, callMember⟩
    obtain ⟨entry, -, found⟩ := streamed.indexes call inChunks
    rw [found]
    rfl
  · intro reason found
    have inChunks : reason ∈ chunks.flatMap chunkReasons := by
      refine List.mem_flatMap.mpr ⟨chunk, member, ?_⟩
      exact List.mem_filterMap.mpr ⟨choice, choiceMember, found⟩
    rw [streamed.finishReason, List.mem_singleton] at inChunks
    rw [inChunks]
    exact wellFormed.known

/-- The decoder reads all lines of a streamed answer. -/
theorem runLines_of_streamed (wellFormed : answer.WellFormed) {input : List Bytes}
    (carries : CarriesChunks crates input) {numbered : List (Nat × AnswerCall)}
    (streamed : answer.Streamed numbered (input.filterMap (lineChunk crates))) :
    ∃ state, (runLines (decodeLine crates order) {} input).result = .ok (.next state) := by
  have each : ∀ state line next, (decodeLine crates order state line).result = .ok (.next next) ↔
      LineSound crates line ∧ next = state.absorbLine crates line := fun _ _ _ => decodeLine_next
  refine ⟨_, (runLines_result_next each).mpr ⟨?_, rfl⟩⟩
  intro line member
  apply lineSound_of_carries (carries line member)
  intro chunk found
  exact streamed.sound wellFormed (List.mem_filterMap.mpr ⟨line, member, found⟩)

/-! ### The tools -/

/-- A call that is streamed has a fragment. -/
theorem AnswerCall.Streamed.present {call : AnswerCall} {fragments : List Value}
    (streamed : call.Streamed fragments) : fragments ≠ [] := by
  intro absent
  have id := streamed.id
  rw [absent] at id
  cases id

/-- The parts of a call, put together from all its fragments. -/
theorem AnswerCall.Streamed.assembled {call : AnswerCall} {index : Nat} {calls : List Value}
    (streamed : call.Streamed (fragmentsAt index calls)) (named : call.id ≠ "" ∧ call.name ≠ "") :
    assembled index calls =
      { id := call.id, name := call.name, arguments := call.arguments, started := true } := by
  have idEq : joinedAt idFragment index calls = call.id := by
    unfold joinedAt
    rw [← join_filter_nonempty, streamed.id, join_cons, join_nil, String.append_empty]
  have nameEq : joinedAt nameFragment index calls = call.name := by
    unfold joinedAt
    rw [← join_filter_nonempty, streamed.name, join_cons, join_nil, String.append_empty]
  have argumentsEq : joinedAt argumentsFragment index calls = call.arguments := streamed.arguments
  unfold ClaudeProxy.assembled
  rw [idEq, nameEq, argumentsEq, decide_eq_true named]

/-- A field that is whole in one fragment is whole as soon as it is there at all. -/
theorem join_front_of_whole {front parts : List String} {whole : String} (isPrefix : front <+: parts)
    (single : parts.filter (· ≠ "") = [whole]) (nonempty : String.join front ≠ "") :
    String.join front = whole := by
  have filtered : front.filter (· ≠ "") <+: [whole] := by
    rw [← single]
    exact isPrefix.filter _
  rw [← join_filter_nonempty] at nonempty ⊢
  obtain ⟨rest, restEq⟩ := filtered
  rcases List.append_eq_singleton_iff.mp restEq with ⟨empty, -⟩ | ⟨kept, -⟩
  · rw [empty] at nonempty
    exact absurd rfl nonempty
  · rw [kept, join_cons, join_nil, String.append_empty]

/-- The identity under which a call was announced is the call's own. -/
theorem IdentityOf.eq {call : AnswerCall} {index : Nat} {calls : List Value} {id name : String}
    (identity : IdentityOf index calls id name)
    (streamed : call.Streamed (fragmentsAt index calls)) : id = call.id ∧ name = call.name := by
  obtain ⟨hasId, hasName, front, isPrefix, -, rfl, rfl⟩ := identity
  exact ⟨join_front_of_whole (isPrefix.map idFragment) streamed.id hasId,
    join_front_of_whole (isPrefix.map nameFragment) streamed.name hasName⟩

/-- A call as the encoder buffers it. -/
def AnswerCall.buffered (call : AnswerCall) : BufferedTool :=
  { id := call.id, name := call.name, arguments := call.arguments }

variable {numbered : List (Nat × AnswerCall)} {chunks : List Value}

/-- The decoder's table holds the calls of the answer, and nothing else. -/
theorem Answer.Streamed.lookup (wellFormed : answer.WellFormed)
    (streamed : answer.Streamed numbered chunks) {tools : ToolTable}
    (holds : tools.Holds (chunks.flatMap chunkCalls)) (index : Nat) (tool : StreamedTool) :
    tools.lookup index = some tool ↔ ∃ call, (index, call) ∈ numbered ∧
      tool = { id := call.id, name := call.name, arguments := call.arguments, started := true } := by
  have named : ∀ entry ∈ numbered, entry.2.id ≠ "" ∧ entry.2.name ≠ "" := by
    intro entry member
    apply wellFormed.named
    rw [← streamed.calls]
    exact List.mem_map_of_mem member
  rw [holds index]
  constructor
  · intro found
    split at found
    · cases found
    · next present =>
        obtain ⟨fragment, member⟩ := List.exists_mem_of_ne_nil _ present
        obtain ⟨inChunks, atIndex⟩ := List.mem_filter.mp member
        obtain ⟨⟨number, call⟩, entryMember, entryIndex⟩ := streamed.indexes fragment inChunks
        have same : number = index := by
          rw [of_decide_eq_true atIndex] at entryIndex
          exact (Option.some.inj entryIndex).symm
        subst same
        rw [(streamed.fragments _ entryMember).assembled (named _ entryMember)] at found
        cases found
        exact ⟨call, entryMember, rfl⟩
  · rintro ⟨call, member, rfl⟩
    have callStreamed := streamed.fragments _ member
    rw [if_neg callStreamed.present, callStreamed.assembled (named _ member)]

/-- The encoder's tools, in key order, are the calls of the answer. -/
theorem toList_of_ascending {buffered : Std.TreeMap Nat BufferedTool}
    {entries : List (Nat × BufferedTool)} (ascending : (entries.map Prod.fst).Pairwise (· < ·))
    (agrees : ∀ index tool, buffered[index]? = some tool ↔ (index, tool) ∈ entries) :
    buffered.toList = entries := by
  have ordered : buffered.toList.Pairwise fun first second => first.1 < second.1 := by
    refine buffered.ordered_keys_toList.imp ?_
    intro first second before
    exact Nat.compare_eq_lt.mp before
  have orderedEntries : entries.Pairwise fun first second => first.1 < second.1 :=
    List.pairwise_map.mp ascending
  have distinct : ∀ {list : List (Nat × BufferedTool)},
      list.Pairwise (fun first second => first.1 < second.1) → list.Nodup := by
    intro list sorted
    refine sorted.imp ?_
    intro first second before same
    rw [same] at before
    exact lt_irrefl _ before
  refine List.Perm.eq_of_pairwise ?_ ordered orderedEntries ?_
  · intro first second _ _ before after
    exact absurd before (lt_asymm after)
  · rw [List.perm_ext_iff_of_nodup (distinct ordered) (distinct orderedEntries)]
    rintro ⟨index, tool⟩
    rw [Std.TreeMap.mem_toList_iff_getElem?_eq_some, agrees]

/-- In the end the encoder has the calls of the answer, in their order. -/
theorem Answer.Streamed.buffered (wellFormed : answer.WellFormed)
    (streamed : answer.Streamed numbered chunks) {state : Decoder} {events : List ProviderEvent}
    (emits : EmitsChunks chunks state events) :
    ((events.foldl bufferEvent ∅).toList.map Prod.snd) = answer.calls.map AnswerCall.buffered := by
  have listed : (events.foldl bufferEvent ∅).toList =
      numbered.map fun entry => (entry.1, entry.2.buffered) := by
    apply toList_of_ascending
    · rw [List.map_map]
      exact streamed.ascending
    · intro index tool
      have atIndex := streamed.lookup wellFormed emits.holds index
      constructor
      · intro found
        cases emits.synced index with
        | waiting absent notStarted =>
            rw [absent] at found
            cases found
        | announced held started present identity =>
            obtain ⟨call, member, rfl⟩ := (atIndex _).mp held
            obtain ⟨rfl, rfl⟩ := identity.eq (streamed.fragments _ member)
            rw [present] at found
            cases found
            exact List.mem_map.mpr ⟨_, member, rfl⟩
      · intro member
        obtain ⟨⟨number, call⟩, entryMember, same⟩ := List.mem_map.mp member
        cases same
        have held := (streamed.lookup wellFormed emits.holds number _).mpr
          ⟨call, entryMember, rfl⟩
        cases emits.synced number with
        | waiting absent notStarted =>
            rw [held] at notStarted
            cases notStarted
        | announced held' started present identity =>
            rw [held] at held'
            cases held'
            obtain ⟨rfl, rfl⟩ := identity.eq (streamed.fragments _ entryMember)
            exact present
  rw [listed, List.map_map, ← streamed.calls, List.map_map]
  rfl

/-! ### The two translations -/

/-- Every argument string of the answer is JSON. -/
def Answer.ArgumentsParse (crates : Crates) (answer : Answer) : Prop :=
  ∀ call ∈ answer.calls, ∃ value, crates.fromStr call.arguments = .ok value

/-- The decoder accepts the tools of a streamed answer when all arguments are JSON. -/
theorem Answer.Streamed.validate (wellFormed : answer.WellFormed)
    (streamed : answer.Streamed numbered chunks) {tools : ToolTable}
    (holds : tools.Holds (chunks.flatMap chunkCalls)) :
    validateStreamedTools crates order tools = .ok () ↔ answer.ArgumentsParse crates := by
  rw [validateStreamedTools_ok]
  constructor
  · intro each call member
    rw [← streamed.calls] at member
    obtain ⟨entry, entryMember, rfl⟩ := List.mem_map.mp member
    have held := (streamed.lookup wellFormed holds entry.1 _).mpr ⟨entry.2, entryMember, rfl⟩
    have checked := each _ (ToolTable.mem_values.mpr ⟨_, held⟩)
    exact (validateStreamedTool_ok.mp checked).2
  · intro parse tool member
    obtain ⟨index, found⟩ := ToolTable.mem_values.mp member
    obtain ⟨call, entryMember, rfl⟩ := (streamed.lookup wellFormed holds index tool).mp found
    refine validateStreamedTool_ok.mpr ⟨rfl, parse call ?_⟩
    rw [← streamed.calls]
    exact List.mem_map.mpr ⟨_, entryMember, rfl⟩

/-- The text a client has seen is the text of the answer, unless that is empty. -/
theorem Answer.Streamed.seenText (streamed : answer.Streamed numbered chunks) {state : Decoder}
    {events : List ProviderEvent} (emits : EmitsChunks chunks state events) :
    events.foldl seenText none = answer.text.filter (· ≠ "") := by
  rw [foldl_seenText, emits.texts, join_filter_nonempty, streamed.text]
  have silent : (chunks.flatMap chunkTexts).filter (· ≠ "") = [] ↔ answer.text.getD "" = "" := by
    rw [← streamed.text, join_eq_empty, List.filter_eq_nil_iff]
    simp
  by_cases empty : answer.text.getD "" = ""
  · rw [if_pos (silent.mpr empty)]
    cases textEq : answer.text with
    | none => rfl
    | some text =>
        rw [textEq] at empty
        have isEmpty : text = "" := empty
        rw [isEmpty]
        rfl
  · rw [if_neg (fun none => empty (silent.mp none))]
    cases textEq : answer.text with
    | none =>
        rw [textEq] at empty
        exact absurd rfl empty
    | some text =>
        rw [textEq] at empty
        have shown : text ≠ "" := empty
        simp [Option.filter, shown]

/-- The whole answer is translated when all arguments are JSON, and then to the same blocks that the
client rebuilds from the encoder's tools. -/
theorem convert_calls_iff (calls : List AnswerCall) (outputs : List OutputBlock) :
    (calls.map AnswerCall.toToolCall).mapM (convertToolCall crates) = .ok outputs ↔
      ((calls.map AnswerCall.buffered).map BufferedTool.toBlock).mapM (rebuild crates) =
        .ok outputs := by
  rw [Except.mapM_eq_ok, Except.mapM_eq_ok, List.forall₂_map_left_iff, List.map_map,
    List.forall₂_map_left_iff]
  have sameBlock : ∀ (call : AnswerCall) output,
      convertToolCall crates call.toToolCall = .ok output ↔
      rebuild crates (BufferedTool.toBlock call.buffered) = .ok output := by
    intro call output
    unfold convertToolCall rebuild BufferedTool.toBlock AnswerCall.buffered AnswerCall.toToolCall
    dsimp only
    cases crates.fromStr call.arguments <;> simp [Except.map]
  constructor
  · exact List.Forall₂.imp fun call output => (sameBlock call output).mp
  · exact List.Forall₂.imp fun call output => (sameBlock call output).mpr

/-- The client's blocks, rebuilt, are the content of the whole answer. -/
theorem rebuild_finishedBlocks {text : Option String} {tools : List BufferedTool}
    {outputs : List OutputBlock}
    (rebuilt : (tools.map BufferedTool.toBlock).mapM (rebuild crates) = .ok outputs) :
    (finishedBlocks (text.filter (· ≠ "")) tools).mapM (rebuild crates) =
      .ok (responseContent text outputs) := by
  unfold responseContent finishedBlocks
  cases text.filter (· ≠ "") with
  | none =>
      cases tools with
      | nil =>
          cases rebuilt
          rfl
      | cons tool rest =>
          cases outputs with
          | nil =>
              rw [Except.mapM_eq_ok] at rebuilt
              cases rebuilt
          | cons output more => exact rebuilt
  | some shown =>
      dsimp only
      rw [Except.mapM_eq_ok] at rebuilt ⊢
      exact .cons rfl rebuilt

/-- The translation of the whole answer, when all arguments are JSON. -/
theorem convertResponse_whole {reason : StopReason}
    (known : mapStopReason (some answer.finishReason) = .ok reason) {outputs : List OutputBlock}
    (converted : (answer.calls.map AnswerCall.toToolCall).mapM (convertToolCall crates) = .ok outputs)
    (responseId model : String) :
    convertResponse crates (answer.whole responseId) model =
      .ok
        { id := responseId
          kind := "message"
          role := "assistant"
          model := model
          content := responseContent answer.text outputs
          stopReason := some reason.asStr
          stopSequence := none
          usage := answer.usage.getD ⟨0, 0⟩ } := by
  unfold convertResponse Answer.whole
  dsimp only
  rw [converted, known]
  cases answer.usage <;> cases answer.text <;> rfl

/-- The calls are translated exactly if their arguments are JSON. -/
theorem exists_convertToolCalls : (∃ outputs,
    (answer.calls.map AnswerCall.toToolCall).mapM (convertToolCall crates) = .ok outputs) ↔
      answer.ArgumentsParse crates := by
  rw [Except.exists_mapM_eq_ok]
  constructor
  · intro each call member
    obtain ⟨output, outputEq⟩ := each call.toToolCall (List.mem_map_of_mem member)
    unfold convertToolCall at outputEq
    cases parsed : crates.fromStr call.toToolCall.function.arguments with
    | error error =>
        rw [parsed] at outputEq
        cases outputEq
    | ok value => exact ⟨value, parsed⟩
  · intro parse call member
    obtain ⟨source, sourceMember, rfl⟩ := List.mem_map.mp member
    obtain ⟨value, parsed⟩ := parse source sourceMember
    refine ⟨.toolUse source.id source.name value, ?_⟩
    unfold convertToolCall AnswerCall.toToolCall
    dsimp only
    rw [parsed]

/-- The whole answer is an error as well, if the arguments of a call are no JSON. -/
theorem convertResponse_whole_error
    (notJson : ¬ answer.ArgumentsParse crates) (responseId model : String) :
    ∃ error, convertResponse crates (answer.whole responseId) model = .error error := by
  cases converted : (answer.calls.map AnswerCall.toToolCall).mapM (convertToolCall crates) with
  | error error =>
      refine ⟨error, ?_⟩
      unfold convertResponse Answer.whole
      dsimp only
      rw [converted]
      rfl
  | ok outputs => exact absurd (exists_convertToolCalls.mp ⟨outputs, converted⟩) notJson

/-! ### The run -/

/-- `finish` followed by leaving the loop. -/
theorem finish_bind_pure {α : Type} (state : Decoder) (missing : String) (value : α) :
    (finish crates order state missing >>= fun _ => (pure value : Gen ProxyError ProviderEvent α)) =
      ⟨(finish crates order state missing).yielded,
        (finish crates order state missing).result.map fun _ => value⟩ := by
  cases finishEq : (finish crates order state missing).result with
  | error error => rw [Gen.bind_of_error finishEq]; rfl
  | ok done => rw [Gen.bind_of_ok finishEq, Gen.pure_yielded, List.append_nil]; rfl

theorem decodeLine_of_isDone {line : Bytes} (done : IsDone line) (state : Decoder) :
    decodeLine crates order state line =
      (finish crates order state "provider stream ended without a finish reason" >>= fun _ =>
        pure .done) := by
  unfold IsDone at done
  unfold decodeLine
  rw [done, Gen.ofExcept_ok, pure_bind]
  rfl

/-- At a `[DONE]` the decoder finishes and leaves the lines after it alone. -/
theorem runLines_of_done {done : Bytes} (isDone : IsDone done) (state : Decoder)
    (after : List Bytes) :
    runLines (decodeLine crates order) state (done :: after) =
      ⟨(finish crates order state "provider stream ended without a finish reason").yielded,
        (finish crates order state "provider stream ended without a finish reason").result.map
          fun _ => .done⟩ := by
  rw [runLines, decodeLine_of_isDone isDone, finish_bind_pure]
  cases (finish crates order state "provider stream ended without a finish reason").result with
  | error error => exact Gen.resume_of_error rfl _
  | ok finished => exact Gen.resume_of_done rfl _

/-- A body is over at its `[DONE]`, whatever comes after it and however the body ends. -/
theorem decodeBody_of_done {input after : List Bytes} {done : Bytes} {state : Decoder}
    (returned : (runLines (decodeLine crates order) {} input).result = .ok (.next state))
    (isDone : IsDone done) (ending : Ending) :
    decodeBody crates order (input ++ done :: after) ending =
      ⟨(runLines (decodeLine crates order) {} input).yielded ++
          (finish crates order state "provider stream ended without a finish reason").yielded,
        (finish crates order state "provider stream ended without a finish reason").result.map
          fun _ => .closed⟩ := by
  unfold decodeBody
  rw [runLines_append, Gen.resume_of_next returned, runLines_of_done isDone]
  cases (finish crates order state "provider stream ended without a finish reason").result with
  | error error => exact Gen.bind_of_error rfl _
  | ok finished =>
      rw [Gen.bind_of_ok rfl]
      simp [Except.map]

/-- A complete body without `[DONE]` is over at its end. -/
theorem decodeBody_of_end {input : List Bytes} {state : Decoder}
    (returned : (runLines (decodeLine crates order) {} input).result = .ok (.next state)) :
    decodeBody crates order input .complete =
      ⟨(runLines (decodeLine crates order) {} input).yielded ++
          (finish crates order state "provider stream terminated before completion").yielded,
        (finish crates order state "provider stream terminated before completion").result.map
          fun _ => .closed⟩ := by
  unfold decodeBody
  rw [Gen.bind_of_ok returned]
  dsimp only [endBody]
  rw [finish_bind_pure]

/-- The decoder on the lines of a streamed answer: the events of the chunks, and then the end of the
stream, by `[DONE]` or by the end of the body. -/
theorem decodeBody_of_streamed {input body : List Bytes} {state : Decoder}
    (returned : (runLines (decodeLine crates order) {} input).result = .ok (.next state))
    (ends : body = input ∨ ∃ done after, IsDone done ∧ body = input ++ done :: after) :
    ∃ missing, decodeBody crates order body .complete =
      ⟨(runLines (decodeLine crates order) {} input).yielded ++
          (finish crates order state missing).yielded,
        (finish crates order state missing).result.map fun _ => .closed⟩ := by
  rcases ends with rfl | ⟨done, after, isDone, rfl⟩
  · exact ⟨_, decodeBody_of_end returned⟩
  · exact ⟨_, decodeBody_of_done returned isDone .complete⟩

theorem runLines_open {input : List Bytes} {state : Decoder}
    (returned : (runLines (decodeLine crates order) {} input).result = .ok (.next state)) :
    ∀ event ∈ (runLines (decodeLine crates order) {} input).yielded, event.Open := by
  have reader : Gen.EndsWith ProviderEvent.Open ProviderEvent.IsFinished
      (runLines (decodeLine crates order) {} input) :=
    .runLines (decodeLine_endsWith crates order) {} input
  unfold Gen.EndsWith at reader
  rw [returned] at reader
  exact reader

/-- The message of a streamed answer whose arguments are all JSON. -/
theorem bodyStream_of_streamed (request : StreamRequest) (wellFormed : answer.WellFormed)
    (streamed : answer.Streamed numbered chunks) {state : Decoder} {events : List ProviderEvent}
    (areOpen : ∀ event ∈ events, event.Open) (knows : state.Knows chunks)
    (emits : EmitsChunks chunks state events) (reason : StopReason) :
    clientRun {} (bodyStream request
        ⟨events.map .ok ++ [.ok (.finished reason state.finalUsage)], .closed⟩) =
      some
        { phase := .stopped
          blocks := finishedBlocks (answer.text.filter (· ≠ ""))
            (answer.calls.map AnswerCall.buffered)
          stopReason := some reason.asStr
          usage :=
            { inputTokens := request.inputTokens
              outputTokens := (answer.usage.getD ⟨0, 0⟩).outputTokens } } := by
  have tools : (encoderAfter request events).bufferedTools =
      answer.calls.map AnswerCall.buffered := by
    unfold encoderAfter StreamEncoder.bufferedTools
    rw [StreamEncoder.encodeAll_tools]
    exact streamed.buffered wellFormed emits
  have tokens : (state.finalUsage.map Usage.outputTokens).getD
      (encoderAfter request events).outputTokens = (answer.usage.getD ⟨0, 0⟩).outputTokens := by
    unfold encoderAfter
    rw [knows.usage, StreamEncoder.encodeAll_outputTokens _ areOpen, emits.usages, streamed.usage]
    cases answer.usage <;> rfl
  rw [bodyStream_finished request areOpen, streamed.seenText emits, tools, tokens]

end Agreement

/-- What the lines of a streamed answer leave behind: the decoder knows them, the events tell them,
and only the end of the stream is missing. -/
structure Received (crates : Crates) (order : IterationOrder) (chunks : List Value)
    (body : List Bytes) (state : Decoder) (events : List ProviderEvent) : Prop where
  knows : state.Knows chunks
  emits : EmitsChunks chunks state events
  areOpen : ∀ event ∈ events, event.Open
  ends : ∃ missing, decodeBody crates order body .complete =
    ⟨events ++ (finish crates order state missing).yielded,
      (finish crates order state missing).result.map fun _ => .closed⟩

section Delivery

variable {crates : Crates} {order : IterationOrder} {answer : Answer}

theorem received_of_streams (wellFormed : answer.WellFormed) {body : Bytes}
    (streams : StreamsAnswer crates answer body) :
    ∃ numbered chunks, answer.Streamed numbered chunks ∧
      ∃ state events, Received crates order chunks (lines lineFeed body) state events := by
  obtain ⟨input, carries, ⟨numbered, streamed⟩, ends⟩ := streams
  obtain ⟨state, returned⟩ : ∃ state, (runLines (decodeLine crates order) {} input).result =
      .ok (.next state) := runLines_of_streamed wellFormed carries streamed
  exact ⟨numbered, _, streamed, state, _, (runLines_knows returned).2, runLines_emits returned,
    runLines_open returned, decodeBody_of_streamed returned ends⟩

/-- The frames for a body, once its decoding is known. -/
theorem messageFrames_of_decoded (request : StreamRequest) {chunks : List Bytes}
    {feed : Feed (Except ProxyError ProviderEvent)}
    (decoded : (decodeBody crates order (lines lineFeed chunks.flatten) .complete).toFeed = feed) :
    messageFrames crates order request (responseBody chunks .complete) =
      bodyStream request feed := by
  unfold messageFrames
  rw [parseSse_responseBody, decoded]

/-- A streamed answer whose arguments are all JSON is delivered. -/
theorem clientRun_of_streamed (request : StreamRequest) (wellFormed : answer.WellFormed)
    {chunks : List Bytes} (streams : StreamsAnswer crates answer chunks.flatten)
    (parse : answer.ArgumentsParse crates) {reason : StopReason}
    (known : mapStopReason (some answer.finishReason) = .ok reason) :
    clientRun {} (messageFrames crates order request (responseBody chunks .complete)) =
      some
        { phase := .stopped
          blocks := finishedBlocks (answer.text.filter (· ≠ ""))
            (answer.calls.map AnswerCall.buffered)
          stopReason := some reason.asStr
          usage :=
            { inputTokens := request.inputTokens
              outputTokens := (answer.usage.getD ⟨0, 0⟩).outputTokens } } := by
  obtain ⟨numbered, read, streamed, state, events, received⟩ :=
    @received_of_streams crates order _ wellFormed _ streams
  obtain ⟨knows, emits, areOpen, missing, bodyEq⟩ := received
  have accepted : validateStreamedTools crates order state.tools = .ok () :=
    (streamed.validate wellFormed knows.tools).mpr parse
  have finalReason : state.finalReason = some reason := by
    rw [knows.reason, streamed.finishReason]
    simp [knownReason, known, Except.toOption]
  rw [finish_of_passed crates order accepted finalReason] at bodyEq
  have decoded : (decodeBody crates order (lines lineFeed chunks.flatten) .complete).toFeed =
      ⟨events.map .ok ++ [.ok (.finished reason state.finalUsage)], .closed⟩ := by
    rw [bodyEq]
    simp [Gen.toFeed, Except.map]
  rw [messageFrames_of_decoded request decoded]
  exact bodyStream_of_streamed request wellFormed streamed areOpen knows emits reason

/-- A streamed answer with an argument that is not JSON breaks off. -/
theorem clientRun_of_broken (request : StreamRequest) (wellFormed : answer.WellFormed)
    {chunks : List Bytes} (streams : StreamsAnswer crates answer chunks.flatten)
    (notJson : ¬ answer.ArgumentsParse crates) :
    ∃ client, clientRun {} (messageFrames crates order request (responseBody chunks .complete)) =
      some client ∧ client.phase = .failed := by
  obtain ⟨numbered, read, streamed, state, events, received⟩ :=
    @received_of_streams crates order _ wellFormed _ streams
  obtain ⟨knows, emits, areOpen, missing, bodyEq⟩ := received
  obtain ⟨toolError, failed⟩ : ∃ toolError,
      validateStreamedTools crates order state.tools = .error toolError := by
    cases checked : validateStreamedTools crates order state.tools with
    | error toolError => exact ⟨toolError, rfl⟩
    | ok passed => exact absurd ((streamed.validate wellFormed knows.tools).mp checked) notJson
  rw [finish_of_failed crates order failed] at bodyEq
  have decoded : (decodeBody crates order (lines lineFeed chunks.flatten) .complete).toFeed =
      ⟨events.map .ok ++ [.error toolError], .closed⟩ := by
    rw [bodyEq]
    simp [Gen.toFeed, Except.map]
  rw [messageFrames_of_decoded request decoded]
  exact bodyStream_failed request areOpen toolError

end Delivery

/-- Streaming and not streaming an answer agree. However the answer is cut into chunks of JSON, and
the chunks into bytes, the client's message is broken exactly when the whole answer has no
translation, and otherwise it has the translation's content, stop reason and output tokens. -/
theorem streamed_agrees_with_whole (crates : Crates) (order : IterationOrder)
    (request : StreamRequest) {answer : Answer} (wellFormed : answer.WellFormed)
    {chunks : List Bytes} (streams : StreamsAnswer crates answer chunks.flatten)
    (responseId model : String) :
    ∃ client, clientRun {} (messageFrames crates order request (responseBody chunks .complete)) =
        some client ∧
      match convertResponse crates (answer.whole responseId) model with
      | .error _ => client.phase = .failed
      | .ok response =>
          client.phase = .stopped ∧
          client.blocks.mapM (rebuild crates) = .ok response.content ∧
          client.stopReason = response.stopReason ∧
          client.usage.outputTokens = response.usage.outputTokens := by
  by_cases parse : answer.ArgumentsParse crates
  · obtain ⟨outputs, converted⟩ := exists_convertToolCalls.mpr parse
    obtain ⟨reason, known⟩ := knownReason_isSome.mp wellFormed.known
    rw [clientRun_of_streamed request wellFormed streams parse known,
      convertResponse_whole known converted]
    refine ⟨_, rfl, rfl, ?_, rfl, rfl⟩
    exact rebuild_finishedBlocks ((convert_calls_iff _ _).mp converted)
  · obtain ⟨error, converted⟩ := convertResponse_whole_error parse responseId model
    rw [converted]
    exact clientRun_of_broken request wellFormed streams parse

/-- A text and one call, whose arguments are the JSON number one. -/
def sampleAnswer : Answer :=
  { text := some "hi"
    calls := [{ id := "a", name := "f", arguments := "1" }]
    finishReason := "stop"
    usage := none }

def sampleCalls : List (Nat × AnswerCall) := [(0, { id := "a", name := "f", arguments := "1" })]

theorem sampleAnswer_wellFormed : sampleAnswer.WellFormed where
  named := by decide
  known := by decide

theorem isDone_dataDone : IsDone (utf8Bytes "data: [DONE]") := by
  unfold IsDone
  decide +kernel

theorem lineChunk_of_lineData {crates : Crates} {line : Bytes} {data : String} {chunk : Value}
    (carried : lineData line = .ok (some data)) (notDone : data ≠ "[DONE]")
    (parsed : crates.fromStr data = .ok chunk) : lineChunk crates line = some chunk := by
  unfold lineChunk
  rw [carried]
  dsimp only
  rw [if_neg notDone, parsed]
  rfl

/-- A line of data carries the chunk that its payload is. -/
theorem lineChunk_of_data {crates : Crates} {data : String} {chunk : Value} (present : data ≠ "")
    (notDone : data ≠ "[DONE]") (first : data.toList.head?.any isWhitespace = false)
    (last : data.toList.getLast?.any isWhitespace = false) (parsed : crates.fromStr data = .ok chunk) :
    lineChunk crates (utf8Bytes ("data: " ++ data)) = some chunk :=
  lineChunk_of_lineData (lineData_data present first last) notDone parsed

theorem sampleLines_chunks :
    sampleLines.map (lineChunk sampleCrates) = [sampleTextChunk, sampleCallChunk].map some := by
  have differs : sampleCallJson ≠ sampleTextJson := by decide +kernel
  have text : lineChunk sampleCrates (utf8Bytes ("data: " ++ sampleTextJson)) =
      some sampleTextChunk := by
    refine lineChunk_of_data ?_ ?_ ?_ ?_ (by simp [sampleCrates])
    · decide +kernel
    · decide +kernel
    · decide +kernel
    · decide +kernel
  have call : lineChunk sampleCrates (utf8Bytes ("data: " ++ sampleCallJson)) =
      some sampleCallChunk := by
    refine lineChunk_of_data ?_ ?_ ?_ ?_ (by simp [sampleCrates, differs])
    · decide +kernel
    · decide +kernel
    · decide +kernel
    · decide +kernel
  unfold sampleLines
  rw [List.map_cons, text, List.map_singleton, call]
  rfl

theorem sampleLines_streamed :
    sampleAnswer.Streamed sampleCalls (sampleLines.filterMap (lineChunk sampleCrates)) := by
  rw [filterMap_of_chunks sampleLines_chunks]
  constructor
  · decide +kernel
  · rfl
  · decide +kernel
  · intro entry member
    obtain rfl := List.mem_singleton.mp member
    constructor <;> decide +kernel
  · decide +kernel
  · decide +kernel
  · decide +kernel

theorem sampleBody_streams : StreamsAnswer sampleCrates sampleAnswer [sampleBody].flatten := by
  have carries : CarriesChunks sampleCrates sampleLines := carriesChunks_of_chunks sampleLines_chunks
  have linesEq : lines lineFeed [sampleBody].flatten =
      sampleLines ++ utf8Bytes "data: [DONE]" :: [] := by
    unfold sampleBody
    rw [List.flatten_singleton, lines_append_delimiter, lines_append_delimiter,
      lines_append_delimiter]
    · rfl
    · decide +kernel
    · decide +kernel
    · decide +kernel
  exact ⟨sampleLines, carries, ⟨sampleCalls, sampleLines_streamed⟩,
    .inr ⟨_, [], isDone_dataDone, linesEq⟩⟩

/-- The sample's answer, streamed in some chunks and sent whole. -/
theorem streamed_agrees_with_whole_sample :
    ∃ client, clientRun {} (messageFrames sampleCrates insertionOrder default
        (responseBody [sampleBody] .complete)) = some client ∧
      match convertResponse sampleCrates (sampleAnswer.whole "r") "m" with
      | .error _ => client.phase = .failed
      | .ok response =>
          client.phase = .stopped ∧
          client.blocks.mapM (rebuild sampleCrates) = .ok response.content ∧
          client.stopReason = response.stopReason ∧
          client.usage.outputTokens = response.usage.outputTokens :=
  streamed_agrees_with_whole sampleCrates insertionOrder default sampleAnswer_wellFormed
    sampleBody_streams "r" "m"

end ClaudeProxy
