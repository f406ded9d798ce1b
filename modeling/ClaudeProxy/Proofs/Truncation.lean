/-
Module: ClaudeProxy.Proofs.Truncation
Layer: Proofs
Purpose: A stream that was cut off is not taken for a complete answer. Cutting a response body only
  cuts events off its end, and a body whose lines do not hold a complete answer ends in an error.
Trusted boundary: none
Main exports: linesBeforeDone, CompleteAnswer, openEvents, decodeBody_complete, parseSse_truncated
-/
import ClaudeProxy.Proofs.StreamLifecycle
import ClaudeProxy.Proofs.StreamedTools

namespace ClaudeProxy

open Library

/-! ### Complete answers -/

/-- The lines before the first `[DONE]`. -/
def linesBeforeDone (input : List Bytes) : List Bytes :=
  input.takeWhile fun line => ¬ IsDone line

/-- The tool call fragments on the lines before the first `[DONE]`. -/
def seenCalls (crates : Crates) (input : List Bytes) : List Value :=
  ((linesBeforeDone input).filterMap (lineChunk crates)).flatMap chunkCalls

/-- A list of lines that holds a complete answer: some line names a known finish reason, and every
tool that was begun has an id, a name and arguments that are JSON. -/
structure CompleteAnswer (crates : Crates) (input : List Bytes) : Prop where
  finishReason : ∃ line ∈ linesBeforeDone input, ∃ chunk, lineChunk crates line = some chunk ∧
    ∃ reason ∈ chunkReasons chunk, (knownReason reason).isSome
  tools : ∀ index, fragmentsAt index (seenCalls crates input) ≠ [] →
    joinedAt idFragment index (seenCalls crates input) ≠ "" ∧
    joinedAt nameFragment index (seenCalls crates input) ≠ "" ∧
    ∃ value, crates.fromStr (joinedAt argumentsFragment index (seenCalls crates input)) = .ok value

section Completeness

variable {crates : Crates} {order : IterationOrder}

theorem linesBeforeDone_of_sound {before : List Bytes}
    (sound : ∀ line ∈ before, LineSound crates line) : linesBeforeDone before = before := by
  unfold linesBeforeDone
  rw [List.takeWhile_eq_self_iff]
  intro line member
  simpa using not_isDone_of_sound (sound line member)

theorem linesBeforeDone_append {before : List Bytes}
    (sound : ∀ line ∈ before, LineSound crates line) {last : Bytes} (done : IsDone last)
    (after : List Bytes) : linesBeforeDone (before ++ last :: after) = before := by
  unfold linesBeforeDone
  rw [List.takeWhile_append_of_pos, List.takeWhile_cons_of_neg, List.append_nil]
  · simpa using done
  · intro line member
    simpa using not_isDone_of_sound (sound line member)

theorem validateStreamedTool_ok {tool : StreamedTool} :
    validateStreamedTool crates tool = .ok () ↔
      tool.started = true ∧ ∃ value, crates.fromStr tool.arguments = .ok value := by
  unfold validateStreamedTool
  cases tool.started with
  | false => simp
  | true => cases crates.fromStr tool.arguments <;> simp

/-- The values of the table are the tools at its indexes. -/
theorem ToolTable.mem_values {tools : ToolTable} {tool : StreamedTool} :
    tool ∈ tools.values ↔ ∃ index, tools.lookup index = some tool := by
  constructor
  · intro member
    obtain ⟨⟨index, held⟩, entry, same⟩ := List.mem_map.mp member
    cases same
    exact ⟨index, AList.mem_lookup_iff.mpr entry⟩
  · rintro ⟨index, found⟩
    have entry : (⟨index, tool⟩ : Sigma fun _ => StreamedTool) ∈ tools.entries :=
      AList.mem_lookup_iff.mp found
    exact List.mem_map.mpr ⟨_, entry, rfl⟩

/-- A decoder that may finish has read a complete answer. -/
theorem completeAnswer_of_finish {input : List Bytes} {state : Decoder}
    (knows : state.Knows ((linesBeforeDone input).filterMap (lineChunk crates)))
    {reason : StopReason} (reasonKnown : state.finalReason = some reason)
    (passed : validateStreamedTools crates order state.tools = .ok ()) :
    CompleteAnswer crates input := by
  constructor
  · rw [knows.reason] at reasonKnown
    have member := List.mem_of_getLast? reasonKnown
    obtain ⟨text, textMember, known⟩ := List.mem_filterMap.mp member
    obtain ⟨chunk, chunkMember, reasonMember⟩ := List.mem_flatMap.mp textMember
    obtain ⟨line, lineMember, found⟩ := List.mem_filterMap.mp chunkMember
    exact ⟨line, lineMember, chunk, found, text, reasonMember, by rw [known]; rfl⟩
  · intro index begun
    have held : state.tools.lookup index =
        if fragmentsAt index (seenCalls crates input) = [] then none
        else some (assembled index (seenCalls crates input)) := knows.tools index
    rw [if_neg begun] at held
    have checked := (validateStreamedTools_ok crates order).mp passed _
      (ToolTable.mem_values.mpr ⟨index, held⟩)
    obtain ⟨started, value, parsed⟩ := validateStreamedTool_ok.mp checked
    have named := of_decide_eq_true started
    exact ⟨named.1, named.2, value, parsed⟩

/-- A complete body that does not end in an error holds a complete answer. -/
theorem decodeBody_complete {input : List Bytes} {tail : Tail}
    (returned : (decodeBody crates order input .complete).result = .ok tail) :
    tail = .closed ∧ CompleteAnswer crates input := by
  obtain ⟨flow, linesEq, endEq, -⟩ := Gen.bind_result_ok returned
  cases flow with
  | done =>
      cases endEq
      obtain ⟨before, last, after, state, inputEq, beforeEq, lastEq⟩ := runLines_result_done linesEq
      obtain ⟨sound, knows⟩ := runLines_knows beforeEq
      obtain ⟨done, reason, reasonKnown, passed⟩ := isDone_of_done lastEq
      rw [inputEq]
      refine ⟨rfl, completeAnswer_of_finish ?_ reasonKnown passed⟩
      rw [linesBeforeDone_append sound done]
      exact knows
  | next state =>
      obtain ⟨sound, knows⟩ := runLines_knows linesEq
      unfold endBody at endEq
      dsimp only at endEq
      rcases finish_cases crates order state "provider stream terminated before completion"
        with ⟨reason, reasonKnown, passed, finishEq⟩ | ⟨error, finishEq⟩
      · rw [finishEq, Gen.bind_of_ok rfl] at endEq
        cases endEq
        refine ⟨rfl, completeAnswer_of_finish ?_ reasonKnown passed⟩
        rw [linesBeforeDone_of_sound sound]
        exact knows
      · rw [finishEq, Gen.fail_bind] at endEq
        cases endEq

end Completeness

/-! ### Events before the outcome -/

instance (event : ProviderEvent) : Decidable event.IsFinished :=
  match event with
  | .finished _ _ => .isTrue trivial
  | .text _ => .isFalse id
  | .toolStart _ _ _ => .isFalse id
  | .toolDelta _ _ => .isFalse id
  | .usage _ => .isFalse id

/-- The event of an item, unless the item is an outcome. -/
def openEvent : Except ProxyError ProviderEvent → Option ProviderEvent
  | .ok event => if event.IsFinished then none else some event
  | .error _ => none

/-- The events of a decoded stream, its outcome left out. -/
def openEvents (feed : Feed (Except ProxyError ProviderEvent)) : List ProviderEvent :=
  feed.items.filterMap openEvent

theorem openEvents_toFeed (run : Gen ProxyError ProviderEvent Tail) :
    openEvents run.toFeed = run.yielded.filter fun event => event.Open := by
  have items : (run.yielded.map Except.ok).filterMap openEvent =
      run.yielded.filter fun event => event.Open := by
    rw [List.filterMap_map, ← List.filterMap_eq_filter]
    refine List.filterMap_congr fun event _ => ?_
    by_cases finished : event.IsFinished <;> simp [openEvent, Option.guard, finished]
  unfold openEvents Gen.toFeed
  cases run.result with
  | ok tail => exact items
  | error error =>
      dsimp only
      rw [List.filterMap_append, items]
      exact List.append_nil _

section Truncating

variable (crates : Crates)

theorem openEvents_alike {first second : Gen ProxyError ProviderEvent Tail}
    (alike : Gen.Alike ToolErrors first second) :
    openEvents first.toFeed = openEvents second.toFeed := by
  rw [openEvents_toFeed, openEvents_toFeed]
  rcases alike with same | ⟨yielded, error, error', -, firstEq, secondEq⟩
  · rw [same]
  · rw [firstEq, secondEq]

/-- The end of a body yields nothing but the outcome. -/
theorem endBody_open (order : IterationOrder) (state : Decoder) (ending : Ending) :
    (endBody crates order state ending).yielded.filter (fun event => event.Open) = [] := by
  cases ending with
  | silent => rfl
  | broken error => rfl
  | complete =>
      unfold endBody
      rcases finish_cases crates order state "provider stream terminated before completion"
        with ⟨reason, _, _, finishEq⟩ | ⟨error, finishEq⟩
      · rw [finishEq]
        rfl
      · rw [finishEq]
        rfl

theorem decodeBody_open (order : IterationOrder) (input : List Bytes) (ending : Ending) :
    openEvents (decodeBody crates order input ending).toFeed =
      (runLines (decodeLine crates order) {} input).yielded.filter fun event => event.Open := by
  rw [openEvents_toFeed]
  unfold decodeBody
  cases linesEq : (runLines (decodeLine crates order) {} input).result with
  | error error => rw [Gen.bind_of_error linesEq]
  | ok flow =>
      rw [Gen.bind_of_ok linesEq, List.filter_append]
      cases flow with
      | done => exact List.append_nil _
      | next state =>
          dsimp only
          rw [endBody_open, List.append_nil]

/-- A body cut short: its events are the first events of the whole body, whatever happens to the
whole body later, and it ends in an error unless what is left is itself a complete answer. -/
theorem parseSse_truncated (order order' : IterationOrder) (chunks chunks' : List Bytes)
    (cut : chunks.flatten <+: chunks'.flatten) (ending : Ending) :
    openEvents (parseSse crates order (responseBody chunks .complete)) <+:
        openEvents (parseSse crates order' (responseBody chunks' ending)) ∧
      ∃ events : List ProviderEvent, (∀ event ∈ events, event.Open) ∧
        ((∃ reason usage, parseSse crates order (responseBody chunks .complete) =
            ⟨events.map .ok ++ [.ok (.finished reason usage)], .closed⟩ ∧
          CompleteAnswer crates (lines lineFeed chunks.flatten)) ∨
        ∃ error, parseSse crates order (responseBody chunks .complete) =
          ⟨events.map .ok ++ [.error error], .closed⟩) := by
  constructor
  · rw [parseSse_responseBody, parseSse_responseBody,
      ← openEvents_alike (decodeBody_alike crates order order' _ ending), decodeBody_open,
      decodeBody_open]
    have linesCut : lines lineFeed chunks.flatten <+: lines lineFeed chunks'.flatten :=
      lines_prefix cut
    exact (runLines_monotone ({} : Decoder) linesCut).filter _
  · obtain ⟨events, areOpen, shape⟩ := parseSse_shape crates order (responseBody chunks .complete)
    refine ⟨events, areOpen, ?_⟩
    have feedEq := parseSse_responseBody crates order chunks .complete
    have judged : ∀ tail,
        (decodeBody crates order (lines lineFeed chunks.flatten) .complete).result = .ok tail →
          tail = .closed ∧ CompleteAnswer crates (lines lineFeed chunks.flatten) :=
      fun tail returned => decodeBody_complete returned
    generalize decodeBody crates order (lines lineFeed chunks.flatten) .complete = run at feedEq judged
    generalize parseSse crates order (responseBody chunks .complete) = feed at shape feedEq ⊢
    unfold Gen.toFeed at feedEq
    cases runEq : run.result with
    | error error =>
        rw [runEq] at feedEq
        dsimp only at feedEq
        cases shape with
        | finished reason usage =>
            have lastItems := congrArg (fun feed => feed.items.getLast?) feedEq
            simp at lastItems
        | failed error => exact .inr ⟨error, rfl⟩
        | silent =>
            have tails := congrArg Feed.tail feedEq
            cases tails
    | ok tail =>
        rw [runEq] at feedEq
        dsimp only at feedEq
        obtain ⟨rfl, complete⟩ := judged tail runEq
        cases shape with
        | finished reason usage => exact .inl ⟨reason, usage, rfl, complete⟩
        | failed error => exact .inr ⟨error, rfl⟩
        | silent =>
            have tails := congrArg Feed.tail feedEq
            cases tails

end Truncating

/-- The first line of the sample, and a part of the second. -/
def sampleCut : List Bytes :=
  [utf8Bytes ("data: " ++ sampleTextJson) ++ [lineFeed],
    (utf8Bytes ("data: " ++ sampleCallJson)).take 20]

/-- The sample cut in the middle of its call: the text is there, and then an error. -/
theorem parseSse_truncated_in_line :
    openEvents (parseSse sampleCrates insertionOrder (responseBody sampleCut .complete)) <+:
        openEvents (parseSse sampleCrates reverseOrder (responseBody [sampleBody] .silent)) ∧
      ∃ events : List ProviderEvent, (∀ event ∈ events, event.Open) ∧
        ((∃ reason usage,
            parseSse sampleCrates insertionOrder (responseBody sampleCut .complete) =
              ⟨events.map .ok ++ [.ok (.finished reason usage)], .closed⟩ ∧
            CompleteAnswer sampleCrates (lines lineFeed sampleCut.flatten)) ∨
        ∃ error, parseSse sampleCrates insertionOrder (responseBody sampleCut .complete) =
          ⟨events.map .ok ++ [.error error], .closed⟩) :=
  parseSse_truncated sampleCrates insertionOrder reverseOrder sampleCut [sampleBody]
    (by decide +kernel) .silent

end ClaudeProxy
