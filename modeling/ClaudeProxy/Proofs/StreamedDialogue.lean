/-
Module: ClaudeProxy.Proofs.StreamedDialogue
Layer: Proofs
Purpose: Conversations with a client that reads its answers as streams. Whatever the provider sent, a
  stream that the client has read up to its `message_stop` can be put together into a message; here is
  when `normalize` accepts the request that goes on from such messages.
Trusted boundary: none
Main exports: ClientBlock.Usable, completed_rebuilds, StreamedRound, StreamedRound.Proper,
  StreamGoesOn, streamed_dialogue_accepted_iff
-/
import ClaudeProxy.Proofs.Dialogue
import ClaudeProxy.Proofs.ToolIdentity

namespace ClaudeProxy

open Library

/-! ### Streams that a client has read to their end -/

/-- A block that can go into a message. A call has an id, a name, and JSON as its arguments. -/
def ClientBlock.Usable (crates : Crates) : ClientBlock → Prop
  | .text _ => True
  | .toolUse id name partialJson =>
      id ≠ "" ∧ name ≠ "" ∧ ∃ value, crates.fromStr partialJson = .ok value

section Completed

variable {crates : Crates} {order : IterationOrder} {request : StreamRequest}
  {chunks : List Bytes} {ending : Ending} {client : Client}

/-- A client has a complete message only of a stream that ends with `Finished`. -/
theorem finished_of_completed
    (run : clientRun {} (messageFrames crates order request (responseBody chunks ending)) =
      some client) (complete : client.phase = .stopped) :
    ∃ (events : List ProviderEvent) (reason : StopReason) (usage : Option Usage),
      parseSse crates order (responseBody chunks ending) =
        ⟨events.map .ok ++ [.ok (.finished reason usage)], .closed⟩ := by
  obtain ⟨events, areOpen, shape⟩ :=
    @parseSse_shape crates order (responseBody chunks ending)
  unfold messageFrames at run
  generalize parseSse crates order (responseBody chunks ending) = feed at shape run ⊢
  -- the other two ends of a stream leave the client with a broken message
  have notBroken : ¬ ∃ other, clientRun {} (bodyStream request feed) = some other ∧
      other.phase = .failed := by
    rintro ⟨other, otherRun, failed⟩
    rw [run] at otherRun
    cases otherRun
    rw [complete] at failed
    cases failed
  cases shape with
  | finished reason usage => exact ⟨events, reason, usage, rfl⟩
  | failed error => exact absurd (bodyStream_failed request areOpen error) notBroken
  | silent => exact absurd (bodyStream_silent request areOpen) notBroken

/-- What the encoder has buffered of checked tools can go into a message. -/
theorem usable_of_buffered {read : List Value} {state : Decoder} {events : List ProviderEvent}
    (emits : EmitsChunks read state events)
    (accepted : validateStreamedTools crates order state.tools = .ok ()) {tool : BufferedTool}
    (member : tool ∈ (events.foldl bufferEvent ∅).toList.map Prod.snd) :
    tool.toBlock.Usable crates := by
  obtain ⟨⟨index, _⟩, entry, rfl⟩ := List.mem_map.mp member
  have found := Std.TreeMap.mem_toList_iff_getElem?_eq_some.mp entry
  cases emits.synced index with
  | waiting absent _ =>
      rw [absent] at found
      cases found
  | announced held _ present identity =>
      rw [present] at found
      cases found
      have checked := (validateStreamedTools_ok crates order).mp accepted _
        (ToolTable.mem_values.mpr ⟨index, held⟩)
      exact ⟨identity.1, identity.2.1, (validateStreamedTool_ok.mp checked).2⟩

/-- The blocks of a complete message. -/
theorem usable_of_completed
    (run : clientRun {} (messageFrames crates order request (responseBody chunks ending)) =
      some client) (complete : client.phase = .stopped) :
    client.blocks ≠ [] ∧ ∀ block ∈ client.blocks, block.Usable crates := by
  obtain ⟨events, reason, usage, finished⟩ := finished_of_completed run complete
  obtain ⟨state, other, text, emits, accepted, otherRun, blocks⟩ :=
    blocks_of_finished request finished
  rw [run] at otherRun
  cases otherRun
  have tools : ∀ block ∈ ((events.foldl bufferEvent ∅).toList.map Prod.snd).map
      BufferedTool.toBlock, block.Usable crates := by
    intro block member
    obtain ⟨tool, buffered, rfl⟩ := List.mem_map.mp member
    exact usable_of_buffered emits accepted buffered
  rw [blocks]
  refine ⟨StreamEncoder.finishedBlocks_ne_nil text _, ?_⟩
  generalize (events.foldl bufferEvent ∅).toList.map Prod.snd = buffered at tools ⊢
  intro block member
  match text, buffered with
  | none, [] =>
      obtain rfl := List.mem_singleton.mp member
      trivial
  | none, _ :: _ => exact tools block member
  | some shown, _ =>
      rcases List.mem_cons.mp member with rfl | isTool
      · trivial
      · exact tools block isTool

end Completed

/-! ### The message that a client puts together -/

/-- A call of a client's message: its id and its arguments. -/
def ClientBlock.call : ClientBlock → Option (String × String)
  | .text _ => none
  | .toolUse id _ partialJson => some (id, partialJson)

def clientCalls (blocks : List ClientBlock) : List (String × String) :=
  blocks.filterMap ClientBlock.call

section Rebuilt

variable {crates : Crates} {blocks : List ClientBlock} {content : List OutputBlock}

/-- A block whose arguments parse can be rebuilt. -/
theorem exists_rebuild {block : ClientBlock} (usable : block.Usable crates) :
    ∃ output, rebuild crates block = .ok output := by
  cases block with
  | text shown => exact ⟨.text shown, rfl⟩
  | toolUse id name partialJson =>
      obtain ⟨-, -, value, parsed⟩ := usable
      exact ⟨.toolUse id name value, by rw [rebuild, parsed]; rfl⟩

theorem rebuild_toolUse {id name partialJson : String} {output : OutputBlock} :
    rebuild crates (.toolUse id name partialJson) = .ok output ↔
      ∃ value, crates.fromStr partialJson = .ok value ∧ output = .toolUse id name value := by
  rw [rebuild]
  cases crates.fromStr partialJson with
  | error message => simp [Except.map]
  | ok value => simp [Except.map, eq_comm]

/-- A message has the calls of the blocks that it is put together from. -/
theorem calledIds_rebuilt (rebuilt : blocks.mapM (rebuild crates) = .ok content) :
    calledIds content = (clientCalls blocks).map Prod.fst := by
  have each := Except.mapM_eq_ok.mp rebuilt
  clear rebuilt
  unfold calledIds clientCalls
  induction each with
  | nil => rfl
  | @cons block output _ _ here _ inductionHypothesis =>
      cases block with
      | text shown =>
          cases here
          exact inductionHypothesis
      | toolUse id name partialJson =>
          obtain ⟨value, -, rfl⟩ := rebuild_toolUse.mp here
          exact congrArg (id :: ·) inductionHypothesis

/-- It can be sent back if the arguments are objects. -/
theorem returnable_rebuilt (rebuilt : blocks.mapM (rebuild crates) = .ok content) :
    (∀ block ∈ content, Returnable block) ↔
      ∀ call ∈ clientCalls blocks, ∃ entries, crates.fromStr call.2 = .ok (.object entries) := by
  rw [clientCalls, List.forall_mem_filterMap]
  symm
  refine Except.forall_iff_of_forall₂ (Except.mapM_eq_ok.mp rebuilt) ?_
  intro block output made
  cases block with
  | text shown =>
      cases made
      simp [ClientBlock.call, Returnable]
  | toolUse id name partialJson =>
      obtain ⟨value, parsed, rfl⟩ := rebuild_toolUse.mp made
      cases value <;> simp [ClientBlock.call, parsed, Returnable, Value.isObject]

end Rebuilt

/-- A stream that a client has read to its end gives it a message, whatever the provider sent: there
is something in it, the arguments of every call are JSON, and every call has an id. -/
theorem completed_rebuilds {crates : Crates} {order : IterationOrder} {request : StreamRequest}
    {chunks : List Bytes} {ending : Ending} {client : Client}
    (run : clientRun {} (messageFrames crates order request (responseBody chunks ending)) =
      some client) (complete : client.phase = .stopped) :
    ∃ content, client.blocks.mapM (rebuild crates) = .ok content ∧ content ≠ [] ∧
      "" ∉ calledIds content := by
  obtain ⟨nonempty, usable⟩ := usable_of_completed run complete
  obtain ⟨content, rebuilt⟩ : ∃ content, client.blocks.mapM (rebuild crates) = .ok content :=
    Except.exists_mapM_eq_ok.mpr fun block member => exists_rebuild (usable block member)
  refine ⟨content, rebuilt, ?_, ?_⟩
  · rintro rfl
    exact nonempty (List.forall₂_nil_right_iff.mp (Except.mapM_eq_ok.mp rebuilt))
  · rw [calledIds_rebuilt rebuilt]
    intro unnamed
    obtain ⟨⟨id, partialJson⟩, called, isEmpty⟩ := List.mem_map.mp unnamed
    obtain ⟨block, member, isCall⟩ := List.mem_filterMap.mp called
    have checked := usable block member
    cases block with
    | text shown => cases isCall
    | toolUse _ _ _ =>
        cases isCall
        exact checked.1 isEmpty

/-! ### When a streamed conversation goes on -/

/-- An answer that a client has read as a stream to its end, and what it replies. -/
structure StreamedRound where
  order : IterationOrder
  stream : StreamRequest
  chunks : List Bytes
  ending : Ending
  client : Client
  reply : ToolReply

/-- The message that the client puts together, without anything in it if it cannot. -/
def StreamedRound.content (crates : Crates) (round : StreamedRound) : List OutputBlock :=
  (round.client.blocks.mapM (rebuild crates)).toOption.getD []

structure StreamedRound.Proper (crates : Crates) (round : StreamedRound) : Prop where
  received : clientRun {} (messageFrames crates round.order round.stream
    (responseBody round.chunks round.ending)) = some round.client
  complete : round.client.phase = .stopped
  followsUp : round.reply.FollowsUp (round.content crates)

/-- A streamed answer, as the client sends it back. -/
def StreamedRound.round (crates : Crates) (round : StreamedRound) : Round where
  answer := .obj [("role", .string "assistant"),
    ("content", .array ((round.content crates).map OutputBlock.toValue))]
  reply := round.reply

def StreamedRound.read (crates : Crates) (round : StreamedRound) : ReadRound where
  answer := (round.round crates).answer
  content := round.content crates
  reply := round.reply

/-- What a conversation must keep to. The arguments that were streamed for each call are a JSON object,
and no id comes twice; that every call has one is granted. -/
structure StreamGoesOn (crates : Crates) (request : AnthropicRequest) (rounds : List StreamedRound) :
    Prop where
  short : request.messages.length + 2 * rounds.length ≤ 10000
  objects : ∀ round ∈ rounds, ∀ call ∈ clientCalls round.client.blocks,
    ∃ entries, crates.fromStr call.2 = .ok (.object entries)
  once : (request.messages.flatMap toolUseIds ++
    rounds.flatMap fun round => (clientCalls round.client.blocks).map Prod.fst).Nodup

section Conversation

variable {crates : Crates} {request : AnthropicRequest} {loose : Bool}
  {normalized : NormalizedRequest} {rounds : List StreamedRound}

/-- A complete stream can be put together, and a request can go on from it. -/
theorem StreamedRound.Proper.read {round : StreamedRound} (proper : round.Proper crates) :
    round.client.blocks.mapM (rebuild crates) = .ok (round.content crates) ∧
      (round.read crates).Proper ∧ "" ∉ calledIds (round.content crates) := by
  obtain ⟨content, rebuilt, speaks, named⟩ := completed_rebuilds proper.received proper.complete
  have isContent : round.content crates = content := by
    rw [StreamedRound.content, rebuilt]
    rfl
  rw [isContent]
  refine ⟨rebuilt, ⟨?_, ?_, proper.followsUp⟩, named⟩
  · simp [echoed, StreamedRound.read, StreamedRound.round, Value.strAt]
  · rw [StreamedRound.read, isContent]
    exact speaks

/-- A conversation that the proxy streams to a client. Whatever bytes the provider sent, and wherever
they were cut, the client can put together a message from every stream that it has read to the end; and
the next request, with all of them, is accepted exactly when the conversation is not too long, the
arguments of every call were streamed as a JSON object, and no call has the id of another. -/
theorem streamed_dialogue_accepted_iff (accepted : normalize crates request loose = .ok normalized)
    (proper : ∀ round ∈ rounds, round.Proper crates) :
    (∀ round ∈ rounds, round.client.blocks.mapM (rebuild crates) = .ok (round.content crates)) ∧
      ((∃ continued, normalize crates
          (dialogue request (rounds.map (StreamedRound.round crates))) loose = .ok continued) ↔
        StreamGoesOn crates request rounds) := by
  have rebuilt : ∀ round ∈ rounds,
      round.client.blocks.mapM (rebuild crates) = .ok (round.content crates) :=
    fun round member => (proper round member).read.1
  have properReads : ∀ round ∈ rounds.map (StreamedRound.read crates), round.Proper := by
    rw [List.forall_mem_map]
    exact fun round member => (proper round member).read.2.1
  have named : ∀ round ∈ rounds, "" ∉ calledIds (round.read crates).content :=
    fun round member => (proper round member).read.2.2
  have sameIds : ∀ round ∈ rounds, calledIds (round.read crates).content =
      (clientCalls round.client.blocks).map Prod.fst :=
    fun round member => calledIds_rebuilt (rebuilt round member)
  have returnable : (∀ round ∈ rounds, ∀ block ∈ (round.read crates).content, Returnable block) ↔
      ∀ round ∈ rounds, ∀ call ∈ clientCalls round.client.blocks,
        ∃ entries, crates.fromStr call.2 = .ok (.object entries) :=
    forall₂_congr fun round member => returnable_rebuilt (rebuilt round member)
  have sameRounds : rounds.map (StreamedRound.round crates) =
      (rounds.map (StreamedRound.read crates)).map ReadRound.round := by
    rw [List.map_map]
    rfl
  refine ⟨rebuilt, ?_⟩
  rw [sameRounds, rounds_accepted_iff accepted properReads, List.length_map, List.forall_mem_map,
    List.forall_mem_map, List.flatMap_map, returnable, and_iff_right named,
    List.flatMap_congr sameIds]
  constructor
  · rintro ⟨short, objects, once⟩
    exact ⟨short, objects, once⟩
  · rintro ⟨short, objects, once⟩
    exact ⟨short, objects, once⟩

end Conversation

/-! ### A streamed call -/

/-- A call of a clock, in one chunk. -/
def clockCallJson : String :=
  "\x7b\"choices\":[\x7b\"delta\":\x7b\"tool_calls\":[\x7b\"index\":0,\"id\":\"a\"," ++
    "\"function\":\x7b\"name\":\"clock\",\"arguments\":\"\x7b\x7d\"\x7d\x7d]\x7d," ++
    "\"finish_reason\":\"tool_calls\"\x7d]\x7d"

def clockCallChunk : Value :=
  .obj [("choices", .array [.obj
    [("delta", .obj [("tool_calls", .array [.obj
        [("index", .num 0), ("id", .string "a"),
          ("function", .obj [("name", .string "clock"), ("arguments", .string "\x7b\x7d")])]])]),
      ("finish_reason", .string "tool_calls")]])]

/-- The third-party entry points at the texts of the call. -/
def clockCrates : Crates where
  fromStr text :=
    if text = clockCallJson then .ok clockCallChunk
    else if text = "\x7b\x7d" then .ok (.object [])
    else .error "expected value at line 1 column 1"
  toJson _ := "\x7b\x7d"
  base64Decode _ := none
  urlParse _ := .error "not called"

def clockCall : AnswerCall := { id := "a", name := "clock", arguments := "\x7b\x7d" }

def clockAnswer : Answer :=
  { text := none, calls := [clockCall], finishReason := "tool_calls", usage := none }

def clockLines : List Bytes := [utf8Bytes ("data: " ++ clockCallJson)]

def clockBody : Bytes :=
  utf8Bytes ("data: " ++ clockCallJson) ++ lineFeed ::
    (utf8Bytes "data: [DONE]" ++ lineFeed :: [])

theorem clockCrates_arguments : clockCrates.fromStr "\x7b\x7d" = .ok (.object []) := by
  have differs : "\x7b\x7d" ≠ clockCallJson := by decide +kernel
  simp [clockCrates, differs]

theorem clockLines_chunks : clockLines.map (lineChunk clockCrates) = [clockCallChunk].map some := by
  have call : lineChunk clockCrates (utf8Bytes ("data: " ++ clockCallJson)) =
      some clockCallChunk := by
    refine lineChunk_of_data ?_ ?_ ?_ ?_ (by simp [clockCrates])
    · decide +kernel
    · decide +kernel
    · decide +kernel
    · decide +kernel
  rw [clockLines, List.map_singleton, call]
  rfl

/-- The sample's call is streamed in its body. -/
theorem clockBody_streams : StreamsAnswer clockCrates clockAnswer [clockBody].flatten := by
  have carries : CarriesChunks clockCrates clockLines := carriesChunks_of_chunks clockLines_chunks
  have streamed : clockAnswer.Streamed [(0, clockCall)]
      (clockLines.filterMap (lineChunk clockCrates)) := by
    rw [filterMap_of_chunks clockLines_chunks]
    constructor
    · decide +kernel
    · rfl
    · decide +kernel
    · intro entry member
      obtain rfl := List.mem_singleton.mp member
      constructor <;> decide +kernel
    · decide +kernel
    · decide +kernel
    · decide +kernel
  have linesEq : lines lineFeed [clockBody].flatten =
      clockLines ++ utf8Bytes "data: [DONE]" :: [] := by
    unfold clockBody
    rw [List.flatten_singleton, lines_append_delimiter, lines_append_delimiter]
    · rfl
    · decide +kernel
    · decide +kernel
  exact ⟨clockLines, carries, ⟨_, streamed⟩, .inr ⟨_, [], isDone_dataDone, linesEq⟩⟩

/-- The client has the call, and reports what the clock gave. -/
def clockRound : StreamedRound where
  order := insertionOrder
  stream := default
  chunks := [clockBody]
  ending := .complete
  client :=
    { phase := .stopped
      blocks := [.toolUse "a" "clock" "\x7b\x7d"]
      stopReason := some "tool_use"
      usage := ⟨0, 0⟩ }
  reply :=
    { results := [{ toolUseId := "a", content := .string "noon", isError := false }]
      texts := [] }

/-- Its client has the whole message in the end. -/
theorem clockRound_received : clientRun {} (messageFrames clockCrates insertionOrder default
    (responseBody [clockBody] .complete)) = some clockRound.client := by
  have wellFormed : clockAnswer.WellFormed := ⟨by decide, by decide⟩
  have parse : clockAnswer.ArgumentsParse clockCrates := by
    intro call member
    obtain rfl := List.mem_singleton.mp member
    exact ⟨_, clockCrates_arguments⟩
  exact clientRun_of_streamed default wellFormed clockBody_streams parse rfl

theorem clockRound_content :
    clockRound.content clockCrates = [.toolUse "a" "clock" (.object [])] := by
  have rebuilt : clockRound.client.blocks.mapM (rebuild clockCrates) =
      .ok [.toolUse "a" "clock" (.object [])] := by
    apply Except.mapM_eq_ok.mpr
    exact .cons (rebuild_toolUse.mpr ⟨_, clockCrates_arguments, rfl⟩) .nil
  rw [StreamedRound.content, rebuilt]
  rfl

/-- The round of the sample is a proper one. -/
theorem clockRound_proper : ∀ round ∈ [clockRound], round.Proper clockCrates := by
  rw [List.forall_mem_singleton]
  refine ⟨clockRound_received, rfl, ?_⟩
  rw [clockRound_content]
  exact ⟨.refl _, by simp [ToolReply.content, clockRound]⟩

/-- A greeting is answered by a call for the time, and goes on. -/
theorem streamed_dialogue_accepted_clock :
    StreamGoesOn clockCrates helloRequest [clockRound] ∧
      ∃ continued, normalize clockCrates
        (dialogue helloRequest ([clockRound].map (StreamedRound.round clockCrates))) false =
          .ok continued := by
  have goesOn : StreamGoesOn clockCrates helloRequest [clockRound] := by
    refine ⟨by decide, ?_, by decide⟩
    rw [List.forall_mem_singleton]
    intro call member
    obtain rfl := List.mem_singleton.mp member
    exact ⟨_, clockCrates_arguments⟩
  refine ⟨goesOn, ?_⟩
  exact (@streamed_dialogue_accepted_iff clockCrates helloRequest false helloNormalized [clockRound]
    rfl clockRound_proper).2.mpr goesOn

end ClaudeProxy
