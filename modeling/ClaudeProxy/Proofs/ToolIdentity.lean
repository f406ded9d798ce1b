/-
Module: ClaudeProxy.Proofs.ToolIdentity
Layer: Proofs
Purpose: Under which id and name a client gets a streamed tool. The decoder announces a tool as soon as
  it has some id and some name, and the announcement is final; its arguments go on to grow. The client
  has one block for each tool with all of its arguments, and with all of its id and name exactly if
  nothing of them came after the announcement.
Trusted boundary: none
Main exports: AnnouncedTools, CompleteTools, Settled, decodeBody_finished, announcedTools_of_finished,
  completeTools_iff, tool_identity_iff
-/
import ClaudeProxy.Proofs.StreamAgreement

namespace ClaudeProxy

open Library

/-! ### The tools of a client -/

def ClientBlock.isToolUse : ClientBlock → Bool
  | .text _ => false
  | .toolUse _ _ _ => true

/-- The indexes of the tools that some fragments belong to, in ascending order. -/
structure ToolIndexes (calls : List Value) (indexes : List Nat) : Prop where
  ascending : indexes.Pairwise (· < ·)
  complete : ∀ index, index ∈ indexes ↔ fragmentsAt index calls ≠ []

/-- There is one block for each tool, in the order of their indexes. It has all arguments of the tool,
under the id and the name that the tool had when it first had both. -/
def AnnouncedTools (calls : List Value) (blocks : List ClientBlock) : Prop :=
  ∃ indexes, ToolIndexes calls indexes ∧
    List.Forall₂ (fun index block => ∃ id name, IdentityOf index calls id name ∧
      block = .toolUse id name (joinedAt argumentsFragment index calls))
      indexes (blocks.filter ClientBlock.isToolUse)

/-- There is one block for each tool, in the order of their indexes, with everything that its
fragments say. -/
def CompleteTools (calls : List Value) (blocks : List ClientBlock) : Prop :=
  ∃ indexes, ToolIndexes calls indexes ∧
    blocks.filter ClientBlock.isToolUse = indexes.map fun index =>
      .toolUse (joinedAt idFragment index calls) (joinedAt nameFragment index calls)
        (joinedAt argumentsFragment index calls)

/-- Once the first fragments of a tool have given it an id and a name, no later one adds to them. -/
def Settled (fragments : List Value) : Prop :=
  ∀ front later, fragments = front ++ later → NamedBy front →
    String.join (later.map idFragment) = "" ∧ String.join (later.map nameFragment) = ""

theorem ToolIndexes.unique {calls : List Value} {first second : List Nat}
    (one : ToolIndexes calls first) (two : ToolIndexes calls second) : first = second := by
  have distinct : ∀ {list : List Nat}, list.Pairwise (· < ·) → list.Nodup :=
    fun sorted => sorted.imp Nat.ne_of_lt
  refine List.Perm.eq_of_pairwise ?_ one.ascending two.ascending ?_
  · intro here there _ _ before after
    exact absurd before (lt_asymm after)
  · rw [List.perm_ext_iff_of_nodup (distinct one.ascending) (distinct two.ascending)]
    intro index
    rw [one.complete, two.complete]

theorem append_eq_left {held more : String} : held = held ++ more ↔ more = "" := by
  constructor
  · intro same
    have lengths := congrArg String.length same
    rw [String.length_append] at lengths
    exact String.length_eq_zero_iff.mp (by omega)
  · rintro rfl
    rw [String.append_empty]

/-- An announced identity is complete exactly if the tool is settled. -/
theorem IdentityOf.complete_iff {index : Nat} {calls : List Value} {id name : String}
    (identity : IdentityOf index calls id name) :
    id = joinedAt idFragment index calls ∧ name = joinedAt nameFragment index calls ↔
      Settled (fragmentsAt index calls) := by
  obtain ⟨hasId, hasName, front, ⟨later, split⟩, first, rfl, rfl⟩ := identity
  have named : NamedBy front := ⟨hasId, hasName⟩
  unfold joinedAt
  rw [← split, List.map_append, List.map_append, join_append, join_append, append_eq_left,
    append_eq_left]
  constructor
  · rintro ⟨noId, noName⟩ other rest splitOther namedOther
    -- two first parts of the same fragments: the one that is first to name the tool is the shorter
    have comparable : front <+: other ∨ other <+: front :=
      List.prefix_or_prefix_of_prefix (List.prefix_append front later) ⟨rest, splitOther.symm⟩
    have longer : front <+: other := by
      rcases comparable with shorter | before
      · exact shorter
      · rw [first other before namedOther]
    obtain ⟨middle, rfl⟩ := longer
    rw [List.append_assoc, List.append_cancel_left_eq] at splitOther
    subst splitOther
    rw [List.map_append, join_append, append_eq_empty] at noId noName
    exact ⟨noId.2, noName.2⟩
  · intro settled
    exact settled front later rfl named

/-- The client's tools are complete exactly if every tool of the stream is settled. -/
theorem completeTools_iff {calls : List Value} {blocks : List ClientBlock}
    (announced : AnnouncedTools calls blocks) :
    CompleteTools calls blocks ↔ ∀ index, Settled (fragmentsAt index calls) := by
  obtain ⟨indexes, areIndexes, each⟩ := announced
  constructor
  · rintro ⟨others, areOthers, complete⟩ index
    obtain rfl := areIndexes.unique areOthers
    by_cases absent : fragmentsAt index calls = []
    · rw [absent]
      intro front later split named
      obtain ⟨rfl, -⟩ := List.append_eq_nil_iff.mp split.symm
      exact absurd rfl named.1
    · have member := (areIndexes.complete index).mpr absent
      rw [complete, List.forall₂_map_right_iff, List.forall₂_same] at each
      obtain ⟨id, name, identity, same⟩ := each index member
      rw [← identity.complete_iff]
      injection same with sameId sameName
      exact ⟨sameId.symm, sameName.symm⟩
  · intro settled
    refine ⟨indexes, areIndexes, ?_⟩
    have sameBlocks : List.Forall₂ (fun index block => block = ClientBlock.toolUse
        (joinedAt idFragment index calls) (joinedAt nameFragment index calls)
        (joinedAt argumentsFragment index calls)) indexes (blocks.filter ClientBlock.isToolUse) := by
      refine each.imp ?_
      rintro index block ⟨id, name, identity, rfl⟩
      obtain ⟨sameId, sameName⟩ := identity.complete_iff.mpr (settled index)
      rw [← sameId, ← sameName]
    generalize blocks.filter ClientBlock.isToolUse = tools at sameBlocks ⊢
    clear each areIndexes
    induction sameBlocks with
    | nil => rfl
    | cons here _ inductionHypothesis => rw [List.map_cons, here, inductionHypothesis]

/-! ### Streams that end with `Finished` -/

section Finished

variable {crates : Crates} {order : IterationOrder}

theorem toFeed_finished {run : Gen ProxyError ProviderEvent Tail} {events : List ProviderEvent}
    {last : ProviderEvent}
    (ends : run.toFeed = ⟨events.map .ok ++ [.ok last], .closed⟩) :
    run.yielded = events ++ [last] ∧ run.result = .ok .closed := by
  unfold Gen.toFeed at ends
  cases outcome : run.result with
  | error error =>
      rw [outcome] at ends
      have lastItems := congrArg (fun feed => feed.items.getLast?) ends
      simp at lastItems
  | ok tail =>
      rw [outcome] at ends
      injection ends with items tails
      rw [← List.map_singleton, ← List.map_append] at items
      have injective : Function.Injective (Except.ok : ProviderEvent → Except ProxyError ProviderEvent) :=
        fun _ _ same => Except.ok.inj same
      exact ⟨(List.map_injective_iff.mpr injective) items, by rw [tails]⟩

/-- A body that is decoded to the end has a first part that is sound, whose events are all there is
before `Finished`, and whose tools pass. -/
theorem decodeBody_finished {input : List Bytes} {ending : Ending} {events : List ProviderEvent}
    {reason : StopReason} {usage : Option Usage}
    (ends : (decodeBody crates order input ending).toFeed =
      ⟨events.map .ok ++ [.ok (.finished reason usage)], .closed⟩) :
    ∃ state, (runLines (decodeLine crates order) {} (linesBeforeDone input)).result =
        .ok (.next state) ∧
      validateStreamedTools crates order state.tools = .ok () ∧
      (runLines (decodeLine crates order) {} (linesBeforeDone input)).yielded = events ∧
      usage = state.finalUsage := by
  obtain ⟨yielded, result⟩ := toFeed_finished ends
  -- the decoder's own exit reports the usage it holds
  have reported : ∀ {state : Decoder} {stop : StopReason},
      [ProviderEvent.finished stop state.finalUsage] = [.finished reason usage] →
        usage = state.finalUsage := by
    intro state stop same
    injection same with sameEvent
    injection sameEvent with _ sameUsage
    exact sameUsage.symm
  have passed : ∀ state missing, (finish crates order state missing).result.map
      (fun _ => Tail.closed) = .ok .closed →
      validateStreamedTools crates order state.tools = .ok () ∧
        ∃ reason, (finish crates order state missing).yielded =
          [.finished reason state.finalUsage] := by
    intro state missing finished
    rcases finish_cases crates order state missing with
      ⟨reason, -, accepted, finishEq⟩ | ⟨error, finishEq⟩
    · rw [finishEq]
      exact ⟨accepted, reason, rfl⟩
    · rw [finishEq] at finished
      cases finished
  have flowEq := result
  unfold decodeBody at flowEq
  obtain ⟨flow, linesEq, endEq, -⟩ := Gen.bind_result_ok flowEq
  cases flow with
  | done =>
      obtain ⟨before, last, after, state, rfl, beforeEq, lastEq⟩ := runLines_result_done linesEq
      obtain ⟨sound, -⟩ := runLines_knows beforeEq
      obtain ⟨isDone, -⟩ := isDone_of_done lastEq
      rw [decodeBody_of_done beforeEq isDone] at yielded result
      obtain ⟨accepted, stop, finishEq⟩ := passed state _ result
      rw [finishEq] at yielded
      rw [linesBeforeDone_append sound isDone]
      obtain ⟨sameEvents, sameLast⟩ := List.append_inj' yielded rfl
      exact ⟨state, beforeEq, accepted, sameEvents, reported sameLast⟩
  | next state =>
      obtain ⟨sound, -⟩ := runLines_knows linesEq
      rw [linesBeforeDone_of_sound sound]
      cases ending with
      | silent => cases endEq
      | broken error => cases endEq
      | complete =>
          rw [decodeBody_of_end linesEq] at yielded result
          obtain ⟨accepted, stop, finishEq⟩ := passed state _ result
          rw [finishEq] at yielded
          obtain ⟨sameEvents, sameLast⟩ := List.append_inj' yielded rfl
          exact ⟨state, linesEq, accepted, sameEvents, reported sameLast⟩

/-- The tools of the encoder, once the decoder has accepted its own: each begun tool is announced. -/
theorem bufferedTools_announced {chunks : List Value} {state : Decoder} {events : List ProviderEvent}
    (emits : EmitsChunks chunks state events)
    (accepted : validateStreamedTools crates order state.tools = .ok ()) (index : Nat) :
    fragmentsAt index (chunks.flatMap chunkCalls) = [] ∧
        (events.foldl bufferEvent ∅)[index]? = none ∨
      fragmentsAt index (chunks.flatMap chunkCalls) ≠ [] ∧
        ∃ id name, IdentityOf index (chunks.flatMap chunkCalls) id name ∧
          (events.foldl bufferEvent ∅)[index]? = some
            { id := id, name := name,
              arguments := joinedAt argumentsFragment index (chunks.flatMap chunkCalls) } := by
  have held := emits.holds index
  by_cases absent : fragmentsAt index (chunks.flatMap chunkCalls) = []
  · rw [if_pos absent] at held
    cases emits.synced index with
    | waiting notBuffered _ => exact .inl ⟨absent, notBuffered⟩
    | announced found _ _ _ =>
        rw [held] at found
        cases found
  · rw [if_neg absent] at held
    have checked := (validateStreamedTools_ok crates order).mp accepted _
      (ToolTable.mem_values.mpr ⟨index, held⟩)
    have started := (validateStreamedTool_ok.mp checked).1
    cases emits.synced index with
    | waiting _ notStarted =>
        rw [held, Option.getD_some, started] at notStarted
        cases notStarted
    | @announced tool id name found _ present identity =>
        rw [held] at found
        cases found
        exact .inr ⟨absent, id, name, identity, present⟩

/-- The tool blocks of a finished message are the buffered tools. -/
theorem filter_finishedBlocks (text : Option String) (tools : List BufferedTool) :
    (finishedBlocks text tools).filter ClientBlock.isToolUse = tools.map BufferedTool.toBlock := by
  have kept : (tools.map BufferedTool.toBlock).filter ClientBlock.isToolUse =
      tools.map BufferedTool.toBlock := by
    rw [List.filter_eq_self]
    intro block member
    obtain ⟨tool, -, rfl⟩ := List.mem_map.mp member
    rfl
  cases text with
  | some text => exact kept
  | none =>
      cases tools with
      | nil => rfl
      | cons tool rest => exact kept

/-- The blocks that a client has of the tools in an encoder. -/
theorem announcedTools_of_buffered {calls : List Value} {buffered : Std.TreeMap Nat BufferedTool}
    (each : ∀ index, fragmentsAt index calls = [] ∧ buffered[index]? = none ∨
      fragmentsAt index calls ≠ [] ∧ ∃ id name, IdentityOf index calls id name ∧
        buffered[index]? = some
          { id := id, name := name, arguments := joinedAt argumentsFragment index calls })
    (text : Option String) :
    AnnouncedTools calls (finishedBlocks text (buffered.toList.map Prod.snd)) := by
  refine ⟨buffered.toList.map Prod.fst, ⟨?_, ?_⟩, ?_⟩
  · rw [List.pairwise_map]
    exact buffered.ordered_keys_toList.imp fun before => Nat.compare_eq_lt.mp before
  · intro index
    have listed : index ∈ buffered.toList.map Prod.fst ↔ ∃ tool, buffered[index]? = some tool := by
      constructor
      · intro member
        obtain ⟨⟨key, tool⟩, entry, rfl⟩ := List.mem_map.mp member
        exact ⟨tool, Std.TreeMap.mem_toList_iff_getElem?_eq_some.mp entry⟩
      · rintro ⟨tool, found⟩
        exact List.mem_map.mpr ⟨_, Std.TreeMap.mem_toList_iff_getElem?_eq_some.mpr found, rfl⟩
    rw [listed]
    rcases each index with ⟨absent, notBuffered⟩ | ⟨present, id, name, -, found⟩
    · simp [absent, notBuffered]
    · simp [present, found]
  · rw [filter_finishedBlocks, List.map_map, List.forall₂_map_left_iff, List.forall₂_map_right_iff,
      List.forall₂_same]
    rintro ⟨index, tool⟩ entry
    have found := Std.TreeMap.mem_toList_iff_getElem?_eq_some.mp entry
    rcases each index with ⟨-, notBuffered⟩ | ⟨-, id, name, identity, held⟩
    · rw [notBuffered] at found
      cases found
    · rw [held] at found
      cases found
      exact ⟨id, name, identity, rfl⟩

/-- Of a stream that ends with `Finished` the client has the blocks of the buffered tools, and these are
the tools that the decoder has checked. -/
theorem blocks_of_finished (request : StreamRequest) {chunks : List Bytes} {ending : Ending}
    {events : List ProviderEvent} {reason : StopReason} {usage : Option Usage}
    (finished : parseSse crates order (responseBody chunks ending) =
      ⟨events.map .ok ++ [.ok (.finished reason usage)], .closed⟩) :
    ∃ state client text,
      EmitsChunks ((linesBeforeDone (lines lineFeed chunks.flatten)).filterMap (lineChunk crates))
        state events ∧
      validateStreamedTools crates order state.tools = .ok () ∧
      clientRun {} (messageFrames crates order request (responseBody chunks ending)) = some client ∧
      client.blocks = finishedBlocks text ((events.foldl bufferEvent ∅).toList.map Prod.snd) := by
  have ends := finished
  rw [parseSse_responseBody] at ends
  obtain ⟨state, returned, accepted, yielded, -⟩ := decodeBody_finished ends
  have emits := runLines_emits returned
  have areOpen := runLines_open returned
  rw [yielded] at emits areOpen
  have frames : messageFrames crates order request (responseBody chunks ending) =
      bodyStream request ⟨events.map .ok ++ [.ok (.finished reason usage)], .closed⟩ := by
    unfold messageFrames
    rw [finished]
  have tools : (encoderAfter request events).bufferedTools =
      (events.foldl bufferEvent ∅).toList.map Prod.snd := by
    unfold encoderAfter StreamEncoder.bufferedTools
    rw [StreamEncoder.encodeAll_tools]
    rfl
  rw [← tools, frames, bodyStream_finished request areOpen reason usage]
  exact ⟨state, _, _, emits, accepted, rfl, rfl⟩

/-- It is a complete message, with one block for each tool under its announced identity. -/
theorem announcedTools_of_finished (request : StreamRequest) {chunks : List Bytes} {ending : Ending}
    {events : List ProviderEvent} {reason : StopReason} {usage : Option Usage}
    (finished : parseSse crates order (responseBody chunks ending) =
      ⟨events.map .ok ++ [.ok (.finished reason usage)], .closed⟩) :
    ∃ client, clientRun {} (messageFrames crates order request (responseBody chunks ending)) =
        some client ∧
      AnnouncedTools (seenCalls crates (lines lineFeed chunks.flatten)) client.blocks := by
  obtain ⟨state, client, text, emits, accepted, run, blocks⟩ := blocks_of_finished request finished
  refine ⟨client, run, ?_⟩
  rw [blocks]
  exact announcedTools_of_buffered (bufferedTools_announced emits accepted) text

/-- A client gets one block for each tool of a finished stream, with all of its arguments; and it gets
the whole of every id and name exactly if each tool was settled when it first had both. -/
theorem tool_identity_iff (request : StreamRequest) (chunks : List Bytes) (ending : Ending)
    (events : List ProviderEvent) (reason : StopReason) (usage : Option Usage)
    (finished : parseSse crates order (responseBody chunks ending) =
      ⟨events.map .ok ++ [.ok (.finished reason usage)], .closed⟩) :
    ∃ client, clientRun {} (messageFrames crates order request (responseBody chunks ending)) =
        some client ∧
      AnnouncedTools (seenCalls crates (lines lineFeed chunks.flatten)) client.blocks ∧
      (CompleteTools (seenCalls crates (lines lineFeed chunks.flatten)) client.blocks ↔
        ∀ index, Settled (fragmentsAt index
          (seenCalls crates (lines lineFeed chunks.flatten)))) := by
  obtain ⟨client, run, announced⟩ := announcedTools_of_finished request finished
  exact ⟨client, run, announced, completeTools_iff announced⟩

end Finished

/-! ### A name in two pieces -/

section Complete

variable {crates : Crates} {order : IterationOrder}

/-- Sound lines that hold a complete answer, and a `[DONE]` after them, end with `Finished`. -/
theorem parseSse_of_complete {chunks input after : List Bytes} {done : Bytes}
    (sound : ∀ line ∈ input, LineSound crates line) (isDone : IsDone done)
    (linesEq : lines lineFeed chunks.flatten = input ++ done :: after)
    (complete : CompleteAnswer crates (input ++ done :: after)) (ending : Ending) :
    ∃ (events : List ProviderEvent) (reason : StopReason) (usage : Option Usage),
      parseSse crates order (responseBody chunks ending) =
        ⟨events.map .ok ++ [.ok (.finished reason usage)], .closed⟩ := by
  have each : ∀ state line next, (decodeLine crates order state line).result = .ok (.next next) ↔
      LineSound crates line ∧ next = state.absorbLine crates line := fun _ _ _ => decodeLine_next
  obtain ⟨state, returned⟩ : ∃ state, (runLines (decodeLine crates order) {} input).result =
      .ok (.next state) := ⟨_, (runLines_result_next each).mpr ⟨sound, rfl⟩⟩
  obtain ⟨-, knows⟩ := runLines_knows returned
  obtain ⟨⟨line, isLine, chunk, found, text, isReason, known⟩, tools⟩ := complete
  unfold seenCalls at tools
  rw [linesBeforeDone_append sound isDone] at isLine tools
  obtain ⟨reason, finalReason⟩ : ∃ reason, state.finalReason = some reason := by
    obtain ⟨stop, stopEq⟩ := Option.isSome_iff_exists.mp known
    have member : stop ∈ ((input.filterMap (lineChunk crates)).flatMap chunkReasons).filterMap
        knownReason := List.mem_filterMap.mpr ⟨text, List.mem_flatMap.mpr
          ⟨chunk, List.mem_filterMap.mpr ⟨line, isLine, found⟩, isReason⟩, stopEq⟩
    rw [knows.reason, ← Option.isSome_iff_exists, List.getLast?_isSome]
    exact List.ne_nil_of_mem member
  have accepted : validateStreamedTools crates order state.tools = .ok () := by
    rw [validateStreamedTools_ok]
    intro tool member
    obtain ⟨index, held⟩ := ToolTable.mem_values.mp member
    have heldEq := knows.tools index
    rw [held] at heldEq
    split at heldEq
    · cases heldEq
    · next present =>
        cases heldEq
        obtain ⟨hasId, hasName, parses⟩ := tools index present
        exact validateStreamedTool_ok.mpr ⟨decide_eq_true ⟨hasId, hasName⟩, parses⟩
  refine ⟨(runLines (decodeLine crates order) {} input).yielded, reason, state.finalUsage, ?_⟩
  rw [parseSse_responseBody, linesEq, decodeBody_of_done returned isDone,
    finish_of_passed crates order accepted finalReason]
  simp [Gen.toFeed, Except.map]

end Complete

/-- The first piece of a call: its id, and the first half of its name. -/
def splitHeadJson : String :=
  "\x7b\"choices\":[\x7b\"delta\":\x7b\"tool_calls\":[\x7b\"index\":0,\"id\":\"a\"," ++
    "\"function\":\x7b\"name\":\"get_\"\x7d\x7d]\x7d\x7d]\x7d"

def splitHead : Value :=
  .obj [("index", .num 0), ("id", .string "a"), ("function", .obj [("name", .string "get_")])]

/-- The second piece: the rest of the name, and the arguments. -/
def splitTailJson : String :=
  "\x7b\"choices\":[\x7b\"delta\":\x7b\"tool_calls\":[\x7b\"index\":0," ++
    "\"function\":\x7b\"name\":\"weather\",\"arguments\":\"\x7b\x7d\"\x7d\x7d]\x7d," ++
    "\"finish_reason\":\"tool_calls\"\x7d]\x7d"

def splitTail : Value :=
  .obj [("index", .num 0),
    ("function", .obj [("name", .string "weather"), ("arguments", .string "\x7b\x7d")])]

def splitHeadChunk : Value :=
  .obj [("choices", .array [.obj [("delta", .obj [("tool_calls", .array [splitHead])])]])]

def splitTailChunk : Value :=
  .obj [("choices", .array [.obj [("delta", .obj [("tool_calls", .array [splitTail])]),
    ("finish_reason", .string "tool_calls")]])]

/-- The third-party entry points at the texts of the two pieces. -/
def splitCrates : Crates where
  fromStr text :=
    if text = splitHeadJson then .ok splitHeadChunk
    else if text = splitTailJson then .ok splitTailChunk
    else if text = "\x7b\x7d" then .ok (.object [])
    else .error "expected value at line 1 column 1"
  toJson _ := "\x7b\x7d"
  base64Decode _ := none
  urlParse _ := .error "not called"

def splitLines : List Bytes :=
  [utf8Bytes ("data: " ++ splitHeadJson), utf8Bytes ("data: " ++ splitTailJson)]

/-- The body that streams the call, in one chunk. -/
def splitBody : Bytes :=
  utf8Bytes ("data: " ++ splitHeadJson) ++ lineFeed ::
    (utf8Bytes ("data: " ++ splitTailJson) ++ lineFeed ::
      (utf8Bytes "data: [DONE]" ++ lineFeed :: []))

theorem splitLines_chunks :
    splitLines.map (lineChunk splitCrates) = [splitHeadChunk, splitTailChunk].map some := by
  have differs : splitTailJson ≠ splitHeadJson := by decide +kernel
  have head : lineChunk splitCrates (utf8Bytes ("data: " ++ splitHeadJson)) =
      some splitHeadChunk := by
    refine lineChunk_of_data ?_ ?_ ?_ ?_ (by simp [splitCrates])
    · decide +kernel
    · decide +kernel
    · decide +kernel
    · decide +kernel
  have tail : lineChunk splitCrates (utf8Bytes ("data: " ++ splitTailJson)) =
      some splitTailChunk := by
    refine lineChunk_of_data ?_ ?_ ?_ ?_ (by simp [splitCrates, differs])
    · decide +kernel
    · decide +kernel
    · decide +kernel
    · decide +kernel
  unfold splitLines
  rw [List.map_cons, head, List.map_singleton, tail]
  rfl

theorem splitLines_sound : ∀ line ∈ splitLines, LineSound splitCrates line := by
  intro line member
  apply lineSound_of_carries (carriesChunks_of_chunks splitLines_chunks line member)
  intro chunk found
  have listed : chunk ∈ splitLines.filterMap (lineChunk splitCrates) :=
    List.mem_filterMap.mpr ⟨line, member, found⟩
  rw [filterMap_of_chunks splitLines_chunks] at listed
  rcases List.mem_cons.mp listed with rfl | later
  · unfold ChunkSound ChoiceSound
    decide +kernel
  · obtain rfl := List.mem_singleton.mp later
    unfold ChunkSound ChoiceSound
    decide +kernel

theorem splitBody_lines :
    lines lineFeed [splitBody].flatten = splitLines ++ utf8Bytes "data: [DONE]" :: [] := by
  unfold splitBody
  rw [List.flatten_singleton, lines_append_delimiter, lines_append_delimiter,
    lines_append_delimiter]
  · rfl
  · decide +kernel
  · decide +kernel
  · decide +kernel

theorem splitBody_calls :
    seenCalls splitCrates (lines lineFeed [splitBody].flatten) = [splitHead, splitTail] := by
  unfold seenCalls
  rw [splitBody_lines, linesBeforeDone_append splitLines_sound isDone_dataDone,
    filterMap_of_chunks splitLines_chunks]
  rfl

theorem splitFragments (index : Nat) :
    fragmentsAt index [splitHead, splitTail] = if index = 0 then [splitHead, splitTail] else [] := by
  have head : callIndex splitHead = some 0 := by decide +kernel
  have tail : callIndex splitTail = some 0 := by decide +kernel
  unfold fragmentsAt
  by_cases first : index = 0
  · simp [head, tail, first]
  · have other : ¬ 0 = index := fun same => first same.symm
    simp [head, tail, first, other]

theorem splitBody_complete :
    CompleteAnswer splitCrates (lines lineFeed [splitBody].flatten) where
  finishReason := by
    rw [splitBody_lines, linesBeforeDone_append splitLines_sound isDone_dataDone]
    have listed : splitTailChunk ∈ splitLines.filterMap (lineChunk splitCrates) := by
      rw [filterMap_of_chunks splitLines_chunks]
      exact List.mem_cons_of_mem _ List.mem_cons_self
    obtain ⟨line, member, found⟩ := List.mem_filterMap.mp listed
    exact ⟨line, member, _, found, "tool_calls", by decide +kernel, by decide +kernel⟩
  tools := by
    intro index present
    rw [splitBody_calls] at present ⊢
    rw [splitFragments] at present
    split at present
    · next first =>
        subst first
        refine ⟨by decide +kernel, by decide +kernel, .object [], ?_⟩
        have text : joinedAt argumentsFragment 0 [splitHead, splitTail] = "{}" := by
          decide +kernel
        have notHead : "{}" ≠ splitHeadJson := by decide +kernel
        have notTail : "{}" ≠ splitTailJson := by decide +kernel
        rw [text]
        simp [splitCrates, notHead, notTail]
    · exact absurd rfl present

/-- The stream ends with `Finished`. -/
theorem splitBody_finished :
    ∃ (events : List ProviderEvent) (reason : StopReason) (usage : Option Usage),
      parseSse splitCrates insertionOrder (responseBody [splitBody] .complete) =
        ⟨events.map .ok ++ [.ok (.finished reason usage)], .closed⟩ :=
  parseSse_of_complete splitLines_sound isDone_dataDone splitBody_lines
    (by rw [← splitBody_lines]; exact splitBody_complete) .complete

/-- The calls of the sample come in several fragments. -/
theorem tool_identity_iff_split :
    ∃ client, clientRun {} (messageFrames splitCrates insertionOrder default
        (responseBody [splitBody] .complete)) = some client ∧
      AnnouncedTools (seenCalls splitCrates (lines lineFeed [splitBody].flatten)) client.blocks ∧
      (CompleteTools (seenCalls splitCrates (lines lineFeed [splitBody].flatten)) client.blocks ↔
        ∀ index, Settled (fragmentsAt index
          (seenCalls splitCrates (lines lineFeed [splitBody].flatten)))) := by
  obtain ⟨events, reason, usage, finished⟩ := splitBody_finished
  exact tool_identity_iff default [splitBody] .complete events reason usage finished

/-- The name comes in two pieces and the client has the first: the tool is announced with it. -/
theorem split_name_lost :
    (∃ (events : List ProviderEvent) (reason : StopReason) (usage : Option Usage),
      parseSse splitCrates insertionOrder (responseBody [splitBody] .complete) =
        ⟨events.map .ok ++ [.ok (.finished reason usage)], .closed⟩) ∧
    ∃ client, clientRun {} (messageFrames splitCrates insertionOrder default
        (responseBody [splitBody] .complete)) = some client ∧
      ¬ CompleteTools (seenCalls splitCrates (lines lineFeed [splitBody].flatten))
        client.blocks := by
  refine ⟨splitBody_finished, ?_⟩
  obtain ⟨events, reason, usage, finished⟩ := splitBody_finished
  obtain ⟨client, run, announced⟩ := announcedTools_of_finished default finished
  refine ⟨client, run, ?_⟩
  rw [completeTools_iff announced, splitBody_calls]
  intro settled
  have pieces := settled 0
  rw [splitFragments, if_pos rfl] at pieces
  obtain ⟨-, restOfName⟩ := pieces [splitHead] [splitTail] rfl
    ⟨by decide +kernel, by decide +kernel⟩
  exact absurd restOfName (by decide +kernel)

end ClaudeProxy
