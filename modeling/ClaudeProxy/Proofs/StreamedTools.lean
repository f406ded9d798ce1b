/-
Module: ClaudeProxy.Proofs.StreamedTools
Layer: Proofs
Purpose: What the decoder knows after a list of lines. A tool is the concatenation of the fragments
  that name its index; a successful pass over some lines leaves exactly the tools, the last finish
  reason and the last usage of the chunks in those lines (`Decoder.Knows`).
Trusted boundary: none
Main exports: callIndex, fragmentsAt, joinedAt, StreamedTool.absorb, decodeCall_eq, knownReason,
  ChunkSound, decodeChunk_ok, lineChunk, Decoder.Knows, runLines_knows
-/
import ClaudeProxy.Proofs.Framing

namespace ClaudeProxy

open Library

/-! ### Fragments -/

def callIndex (call : Value) : Option Nat := (call.get "index").bind Value.asU64

def idFragment (call : Value) : String := (call.strAt "id").getD ""

def nameFragment (call : Value) : String :=
  ((call.pointer ["function", "name"]).bind Value.asStr).getD ""

def argumentsFragment (call : Value) : String :=
  ((call.pointer ["function", "arguments"]).bind Value.asStr).getD ""

/-- The fragments of the tool with a given index, in order. -/
def fragmentsAt (index : Nat) (calls : List Value) : List Value :=
  calls.filter fun call => callIndex call = some index

/-- One field of a tool, put together from its fragments. -/
def joinedAt (field : Value → String) (index : Nat) (calls : List Value) : String :=
  String.join ((fragmentsAt index calls).map field)

theorem fragmentsAt_append (index : Nat) (first second : List Value) :
    fragmentsAt index (first ++ second) = fragmentsAt index first ++ fragmentsAt index second :=
  List.filter_append _ _

theorem joinedAt_append (field : Value → String) (index : Nat) (first second : List Value) :
    joinedAt field index (first ++ second) =
      joinedAt field index first ++ joinedAt field index second := by
  unfold joinedAt
  rw [fragmentsAt_append, List.map_append, join_append]

/-- A tool can be announced once it has an id and a name. -/
def StreamedTool.Ready (tool : StreamedTool) : Prop := tool.id ≠ "" ∧ tool.name ≠ ""

instance (tool : StreamedTool) : Decidable tool.Ready :=
  inferInstanceAs (Decidable (_ ∧ _))

/-- A tool after one more fragment. -/
def StreamedTool.absorb (tool : StreamedTool) (call : Value) : StreamedTool :=
  { id := tool.id ++ idFragment call
    name := tool.name ++ nameFragment call
    arguments := tool.arguments ++ argumentsFragment call
    started := tool.started || decide (tool.pushIdentity call).Ready }

/-- The announcement of a tool that has just become ready, with the arguments held back so far. -/
def announceEvents (index : Nat) (tool : StreamedTool) : List ProviderEvent :=
  if tool.started = false ∧ tool.Ready then
    .toolStart index tool.id tool.name ::
      if tool.arguments ≠ "" then [.toolDelta index tool.arguments] else []
  else []

/-- The arguments in a fragment, if its tool has been announced. -/
def argumentEvents (index : Nat) (started : Bool) (call : Value) : List ProviderEvent :=
  match (call.pointer ["function", "arguments"]).bind Value.asStr with
  | none => []
  | some arguments => if started = true then [.toolDelta index arguments] else []

/-- The events of one fragment. -/
def callEvents (index : Nat) (tool : StreamedTool) (call : Value) : List ProviderEvent :=
  announceEvents index (tool.pushIdentity call) ++
    argumentEvents index (tool.absorb call).started call

theorem announce_eq (index : Nat) (tool : StreamedTool) :
    announce index tool =
      ⟨announceEvents index tool,
        .ok { tool with started := tool.started || decide tool.Ready }⟩ := by
  unfold announce announceEvents
  by_cases fresh : tool.started = false ∧ tool.Ready
  · have guarded : tool.started = false ∧ tool.id ≠ "" ∧ tool.name ≠ "" := fresh
    rw [if_pos guarded, if_pos fresh, Gen.bind_of_ok rfl, Gen.bind_of_ok (Gen.yieldIf_result _ _)]
    simp [fresh.2]
  · have guarded : ¬ (tool.started = false ∧ tool.id ≠ "" ∧ tool.name ≠ "") := fresh
    rw [if_neg guarded, if_neg fresh]
    have unchanged : (tool.started || decide tool.Ready) = tool.started := by
      cases started : tool.started with
      | true => rfl
      | false =>
          have notReady : ¬ tool.Ready := fun ready => fresh ⟨started, ready⟩
          simp [notReady]
    rw [unchanged]
    rfl

theorem pushArguments_eq (index : Nat) (tool : StreamedTool) (call : Value) :
    pushArguments index tool call =
      ⟨argumentEvents index tool.started call,
        .ok { tool with arguments := tool.arguments ++ argumentsFragment call }⟩ := by
  unfold pushArguments argumentEvents argumentsFragment
  cases (call.pointer ["function", "arguments"]).bind Value.asStr with
  | none => simp [pure, Gen.pure]
  | some arguments =>
      dsimp only
      rw [Gen.bind_of_ok (Gen.yieldIf_result _ _)]
      simp

theorem decodeCall_of_none {call : Value} (missing : callIndex call = none) (tools : ToolTable) :
    decodeCall tools call =
      Gen.fail (ProxyError.new .upstream "streamed tool call lacks index") := by
  unfold callIndex at missing
  unfold decodeCall
  rw [missing]

/-- What one fragment does: its tool absorbs it, and the table takes the tool back. -/
theorem decodeCall_eq {call : Value} {index : Nat} (found : callIndex call = some index)
    (tools : ToolTable) :
    decodeCall tools call =
      ⟨callEvents index ((tools.lookup index).getD {}) call,
        .ok (tools.insert index (((tools.lookup index).getD {}).absorb call))⟩ := by
  unfold callIndex at found
  unfold decodeCall
  rw [found]
  dsimp only
  rw [announce_eq, Gen.bind_of_ok rfl, pushArguments_eq, Gen.bind_of_ok rfl]
  rw [Gen.pure_yielded, List.append_nil]
  rfl

/-! ### The table -/

/-- The table after one more fragment. -/
def ToolTable.absorb (tools : ToolTable) (call : Value) : ToolTable :=
  match callIndex call with
  | none => tools
  | some index => tools.insert index (((tools.lookup index).getD {}).absorb call)

/-- The tool that some fragments make, put together field by field. -/
def assembled (index : Nat) (calls : List Value) : StreamedTool :=
  { id := joinedAt idFragment index calls
    name := joinedAt nameFragment index calls
    arguments := joinedAt argumentsFragment index calls
    started := decide (joinedAt idFragment index calls ≠ "" ∧ joinedAt nameFragment index calls ≠ "") }

/-- The table holds a tool for each index some fragment names, put together from those fragments. -/
def ToolTable.Holds (tools : ToolTable) (calls : List Value) : Prop :=
  ∀ index, tools.lookup index =
    if fragmentsAt index calls = [] then none else some (assembled index calls)

theorem assembled_nil {index : Nat} {calls : List Value} (absent : fragmentsAt index calls = []) :
    assembled index calls = {} := by
  simp [assembled, joinedAt, absent]

/-- Putting fragments together one after the other is putting them together field by field. -/
theorem assembled_append {call : Value} {index : Nat} (found : callIndex call = some index)
    (calls : List Value) :
    assembled index (calls ++ [call]) = (assembled index calls).absorb call := by
  have fragment : fragmentsAt index [call] = [call] := by
    simp [fragmentsAt, found]
  have joined : ∀ field : Value → String,
      joinedAt field index (calls ++ [call]) = joinedAt field index calls ++ field call := by
    intro field
    rw [joinedAt_append]
    unfold joinedAt
    rw [fragment, List.map_singleton, join_cons, join_nil, String.append_empty]
  have grown : ∀ held more : String, held ≠ "" → held ++ more ≠ "" := by
    intro held more nonempty empty
    exact nonempty (append_eq_empty.mp empty).1
  unfold assembled StreamedTool.absorb
  simp only [joined, StreamedTool.mk.injEq, true_and]
  rw [Bool.eq_iff_iff, Bool.or_eq_true, decide_eq_true_iff, decide_eq_true_iff, decide_eq_true_iff]
  constructor
  · intro ready
    exact .inr ready
  · rintro (before | ready)
    · exact ⟨grown _ _ before.1, grown _ _ before.2⟩
    · exact ready

theorem fragmentsAt_other {call : Value} {index other : Nat} (found : callIndex call = some index)
    (differs : other ≠ index) (calls : List Value) :
    fragmentsAt other (calls ++ [call]) = fragmentsAt other calls := by
  rw [fragmentsAt_append]
  simp [fragmentsAt, found, differs.symm]

theorem assembled_other {call : Value} {index other : Nat} (found : callIndex call = some index)
    (differs : other ≠ index) (calls : List Value) :
    assembled other (calls ++ [call]) = assembled other calls := by
  unfold assembled joinedAt
  rw [fragmentsAt_other found differs]

/-- An empty table holds what no fragment has told. -/
theorem ToolTable.holds_empty : ToolTable.Holds ∅ [] := by
  intro index
  simp [fragmentsAt]

/-- One fragment keeps the table in agreement with the fragments seen. -/
theorem ToolTable.Holds.absorb {tools : ToolTable} {calls : List Value} (holds : tools.Holds calls)
    {call : Value} (indexed : (callIndex call).isSome) :
    (tools.absorb call).Holds (calls ++ [call]) := by
  obtain ⟨index, found⟩ := Option.isSome_iff_exists.mp indexed
  have held : (tools.lookup index).getD {} = assembled index calls := by
    rw [holds index]
    split
    · next absent => rw [assembled_nil absent]; rfl
    · rfl
  unfold ToolTable.absorb
  rw [found]
  intro other
  by_cases same : other = index
  · subst same
    have present : fragmentsAt other (calls ++ [call]) ≠ [] := by
      simp [fragmentsAt, found]
    rw [AList.lookup_insert, if_neg present, held, assembled_append found]
  · rw [AList.lookup_insert_ne same, holds other, fragmentsAt_other found same,
      assembled_other found same]

/-! ### A chunk -/

/-- The stop reason of a known finish reason. -/
def knownReason (reason : String) : Option StopReason :=
  (mapStopReason (some reason)).toOption

/-- A choice the decoder accepts: its calls are numbered and its finish reason, if any, is known. -/
def ChoiceSound (choice : Value) : Prop :=
  (∀ call ∈ choiceCalls choice, (callIndex call).isSome) ∧
    ∀ reason, choice.strAt "finish_reason" = some reason → (knownReason reason).isSome

def ChunkSound (chunk : Value) : Prop := ∀ choice ∈ chunkChoices chunk, ChoiceSound choice

/-- The decoder after a choice. -/
def Decoder.absorbChoice (state : Decoder) (choice : Value) : Decoder :=
  { state with
    tools := (choiceCalls choice).foldl ToolTable.absorb state.tools
    finalReason := ((choice.strAt "finish_reason").bind knownReason).or state.finalReason }

/-- The decoder after a chunk. -/
def Decoder.absorb (state : Decoder) (chunk : Value) : Decoder :=
  (chunkChoices chunk).foldl Decoder.absorbChoice
    { state with finalUsage := (chunkUsage chunk).or state.finalUsage }

/-- A finish reason is known exactly if it stands for a stop reason. -/
theorem knownReason_isSome {reason : String} :
    (knownReason reason).isSome ↔ ∃ stop, mapStopReason (some reason) = .ok stop := by
  unfold knownReason
  cases mapStopReason (some reason) <;> simp [Except.toOption]

/-- A call is accepted when it is numbered. -/
theorem decodeCall_ok {tools next : ToolTable} {call : Value} :
    (decodeCall tools call).result = .ok next ↔
      (callIndex call).isSome ∧ next = tools.absorb call := by
  cases found : callIndex call with
  | none =>
      rw [decodeCall_of_none found]
      simp
  | some index =>
      rw [decodeCall_eq found]
      unfold ToolTable.absorb
      rw [found]
      simp [eq_comm]

/-- The last usage that a chunk reports is kept. -/
theorem decodeUsage_ok {state : Decoder} {chunk : Value} :
    (decodeUsage state chunk).result =
      .ok { state with finalUsage := (chunkUsage chunk).or state.finalUsage } := by
  unfold decodeUsage
  cases chunkUsage chunk with
  | none => rfl
  | some usage => rfl

/-- Content never fails. -/
theorem decodeContent_ok (choice : Value) : (decodeContent choice).result = .ok () := by
  unfold decodeContent
  cases (choice.pointer ["delta", "content"]).bind Value.asStr with
  | none => rfl
  | some content => exact Gen.yieldIf_result _ _

/-- Calls are decoded exactly if each of them has an index. -/
theorem decodeCalls_ok {tools next : ToolTable} {calls : List Value} :
    (calls.foldlM decodeCall tools).result = .ok next ↔
      (∀ call ∈ calls, (callIndex call).isSome) ∧ next = calls.foldl ToolTable.absorb tools := by
  have each : ∀ tools call next, (decodeCall tools call).result = .ok next ↔
      (callIndex call).isSome ∧ next = ToolTable.absorb tools call := fun _ _ _ => decodeCall_ok
  exact Gen.foldlM_result_ok each

/-- A finish reason is accepted when it is known. -/
theorem decodeReason_ok {state next : Decoder} {choice : Value} :
    (decodeReason state choice).result = .ok next ↔
      (∀ reason, choice.strAt "finish_reason" = some reason → (knownReason reason).isSome) ∧
        next = { state with
          finalReason := ((choice.strAt "finish_reason").bind knownReason).or state.finalReason } := by
  unfold decodeReason
  cases choice.strAt "finish_reason" with
  | none =>
      constructor
      · intro returned
        cases returned
        exact ⟨fun _ present => (Option.some_ne_none _ present.symm).elim, rfl⟩
      · rintro ⟨-, rfl⟩
        rfl
  | some reason =>
      dsimp only
      cases mapped : mapStopReason (some reason) with
      | error error =>
          have unknown : knownReason reason = none := by rw [knownReason, mapped]; rfl
          constructor
          · intro returned
            cases returned
          · rintro ⟨each, -⟩
            have isKnown := each reason rfl
            rw [unknown] at isKnown
            cases isKnown
      | ok stop =>
          have known : knownReason reason = some stop := by rw [knownReason, mapped]; rfl
          rw [Option.bind_some, known]
          constructor
          · intro returned
            cases returned
            refine ⟨?_, rfl⟩
            intro other same
            cases same
            rw [known]
            rfl
          · rintro ⟨-, rfl⟩
            rfl

/-- A choice is accepted when it is sound. -/
theorem decodeChoice_ok {state next : Decoder} {choice : Value} :
    (decodeChoice state choice).result = .ok next ↔
      ChoiceSound choice ∧ next = state.absorbChoice choice := by
  unfold decodeChoice
  rw [Gen.bind_of_ok (decodeContent_ok choice)]
  constructor
  · intro returned
    obtain ⟨tools, callsEq, reasonEq, -⟩ := Gen.bind_result_ok returned
    obtain ⟨indexed, rfl⟩ := decodeCalls_ok.mp callsEq
    obtain ⟨known, nextEq⟩ := decodeReason_ok.mp reasonEq
    exact ⟨⟨indexed, known⟩, nextEq⟩
  · rintro ⟨⟨indexed, known⟩, rfl⟩
    dsimp only
    rw [Gen.bind_of_ok (decodeCalls_ok.mpr ⟨indexed, rfl⟩)]
    exact decodeReason_ok.mpr ⟨known, rfl⟩

/-- A chunk is accepted when each of its choices is. -/
theorem decodeChunk_ok {state next : Decoder} {chunk : Value} :
    (decodeChunk state chunk).result = .ok next ↔
      ChunkSound chunk ∧ next = state.absorb chunk := by
  have each : ∀ state choice next, (decodeChoice state choice).result = .ok next ↔
      ChoiceSound choice ∧ next = state.absorbChoice choice := fun _ _ _ => decodeChoice_ok
  unfold decodeChunk
  rw [Gen.bind_of_ok decodeUsage_ok]
  exact Gen.foldlM_result_ok each

/-! ### What the decoder knows -/

/-- The tool call fragments of a chunk. -/
def chunkCalls (chunk : Value) : List Value := (chunkChoices chunk).flatMap choiceCalls

/-- The finish reasons a chunk names. -/
def chunkReasons (chunk : Value) : List String :=
  (chunkChoices chunk).filterMap fun choice => choice.strAt "finish_reason"

/-- The decoder's state is the content of the chunks read so far: the tools put together from all
fragments, the last finish reason, the last usage. -/
structure Decoder.Knows (state : Decoder) (chunks : List Value) : Prop where
  tools : state.tools.Holds (chunks.flatMap chunkCalls)
  reason : state.finalReason = ((chunks.flatMap chunkReasons).filterMap knownReason).getLast?
  usage : state.finalUsage = (chunks.filterMap chunkUsage).getLast?

/-- At the beginning nothing is known. -/
theorem Decoder.knows_nothing : Decoder.Knows {} [] :=
  ⟨ToolTable.holds_empty, rfl, rfl⟩

/-- A table that takes in more calls holds what they tell. -/
theorem ToolTable.Holds.foldl {tools : ToolTable} {seen : List Value} (holds : tools.Holds seen)
    {calls : List Value} (indexed : ∀ call ∈ calls, (callIndex call).isSome) :
    (calls.foldl ToolTable.absorb tools).Holds (seen ++ calls) := by
  induction calls generalizing tools seen with
  | nil => simpa using holds
  | cons call rest inductionHypothesis =>
      rw [List.forall_mem_cons] at indexed
      have continued := inductionHypothesis (holds.absorb indexed.1) indexed.2
      rw [List.append_assoc] at continued
      exact continued

/-- The choices of a chunk change the tools by their calls alone. -/
theorem absorbChoices_tools (choices : List Value) (state : Decoder) :
    (choices.foldl Decoder.absorbChoice state).tools =
      (choices.flatMap choiceCalls).foldl ToolTable.absorb state.tools := by
  induction choices generalizing state with
  | nil => rfl
  | cons choice rest inductionHypothesis =>
      rw [List.foldl_cons, inductionHypothesis, List.flatMap_cons, List.foldl_append]
      rfl

/-- They leave the usage as it is. -/
theorem absorbChoices_usage (choices : List Value) (state : Decoder) :
    (choices.foldl Decoder.absorbChoice state).finalUsage = state.finalUsage := by
  induction choices generalizing state with
  | nil => rfl
  | cons choice rest inductionHypothesis => exact inductionHypothesis _

/-- The last reason that is known is kept. -/
theorem absorbChoices_reason (choices : List Value) (state : Decoder) :
    (choices.foldl Decoder.absorbChoice state).finalReason =
      ((choices.filterMap fun choice => choice.strAt "finish_reason").filterMap
        knownReason).getLast?.or state.finalReason := by
  induction choices generalizing state with
  | nil => rfl
  | cons choice rest inductionHypothesis =>
      rw [List.foldl_cons, inductionHypothesis, List.filterMap_cons, Decoder.absorbChoice]
      cases choice.strAt "finish_reason" with
      | none => rfl
      | some reason =>
          dsimp only [Option.bind_some]
          rw [List.filterMap_cons]
          cases knownReason reason with
          | none => rfl
          | some stop =>
              dsimp only
              rw [← List.singleton_append, List.getLast?_append, Option.or_assoc]
              rfl

/-- One more chunk, one more piece of knowledge. -/
theorem Decoder.Knows.absorb {state : Decoder} {chunks : List Value} (knows : state.Knows chunks)
    {chunk : Value} (sound : ChunkSound chunk) : (state.absorb chunk).Knows (chunks ++ [chunk]) := by
  have indexed : ∀ call ∈ chunkCalls chunk, (callIndex call).isSome := by
    intro call member
    obtain ⟨choice, choiceMember, callMember⟩ := List.mem_flatMap.mp member
    exact (sound choice choiceMember).1 call callMember
  constructor
  · rw [List.flatMap_append, List.flatMap_singleton, Decoder.absorb, absorbChoices_tools]
    exact knows.tools.foldl indexed
  · rw [List.flatMap_append, List.flatMap_singleton, Decoder.absorb, absorbChoices_reason,
      List.filterMap_append, List.getLast?_append, knows.reason]
    rfl
  · rw [List.filterMap_append, List.getLast?_append, Decoder.absorb, absorbChoices_usage, knows.usage]
    rw [List.filterMap_cons, List.filterMap_nil]
    cases chunkUsage chunk <;> rfl

/-! ### A line -/

section Lines

variable (crates : Crates)

/-- The chunk on a line: none on a line without data, and none on `[DONE]`. -/
def lineChunk (line : Bytes) : Option Value :=
  match lineData line with
  | .ok (some data) => if data = "[DONE]" then none else (crates.fromStr data).toOption
  | _ => none

/-- The line that ends the stream. -/
def IsDone (line : Bytes) : Prop := lineData line = .ok (some "[DONE]")

instance (line : Bytes) : Decidable (IsDone line) :=
  inferInstanceAs (Decidable (lineData line = .ok (some "[DONE]")))

/-- A line the decoder goes on from: it carries no data, or a sound chunk. -/
def LineSound (line : Bytes) : Prop :=
  lineData line = .ok none ∨
    ∃ data chunk, lineData line = .ok (some data) ∧ data ≠ "[DONE]" ∧
      crates.fromStr data = .ok chunk ∧ ChunkSound chunk

/-- The decoder after a line. -/
def Decoder.absorbLine (state : Decoder) (line : Bytes) : Decoder :=
  (lineChunk crates line).elim state state.absorb

variable {crates} {order : IterationOrder}

/-- A payload is passed when it is a sound chunk. -/
theorem decodeData_next {state next : Decoder} {data : String} :
    (decodeData crates order state data).result = .ok (.next next) ↔
      data ≠ "[DONE]" ∧ ∃ chunk, crates.fromStr data = .ok chunk ∧ ChunkSound chunk ∧
        next = state.absorb chunk := by
  unfold decodeData
  by_cases done : data = "[DONE]"
  · rw [if_pos done]
    constructor
    · intro returned
      obtain ⟨_, _, impossible, _⟩ := Gen.bind_result_ok returned
      cases impossible
    · rintro ⟨notDone, _⟩
      exact absurd done notDone
  · rw [if_neg done]
    cases parsed : crates.fromStr data with
    | error error =>
        constructor
        · intro returned
          cases returned
        · rintro ⟨_, chunk, impossible, _⟩
          cases impossible
    | ok chunk =>
        constructor
        · intro returned
          obtain ⟨middle, chunkEq, nextEq, -⟩ := Gen.bind_result_ok returned
          obtain ⟨sound, rfl⟩ := decodeChunk_ok.mp chunkEq
          cases nextEq
          exact ⟨done, chunk, rfl, sound, rfl⟩
        · rintro ⟨-, held, heldEq, sound, rfl⟩
          cases heldEq
          dsimp only
          rw [Gen.bind_of_ok (decodeChunk_ok.mpr ⟨sound, rfl⟩)]
          rfl

/-- A line is passed when it is sound. -/
theorem decodeLine_next {state next : Decoder} {line : Bytes} :
    (decodeLine crates order state line).result = .ok (.next next) ↔
      LineSound crates line ∧ next = state.absorbLine crates line := by
  unfold decodeLine LineSound Decoder.absorbLine lineChunk
  cases lineData line with
  | error error =>
      rw [Gen.ofExcept_error, Gen.fail_bind]
      simp
  | ok data =>
      rw [Gen.ofExcept_ok, pure_bind]
      cases data with
      | none =>
          constructor
          · intro returned
            cases returned
            exact ⟨.inl rfl, rfl⟩
          · rintro ⟨-, rfl⟩
            rfl
      | some data =>
          dsimp only
          rw [decodeData_next]
          constructor
          · rintro ⟨notDone, chunk, parsed, sound, rfl⟩
            rw [if_neg notDone, parsed]
            exact ⟨.inr ⟨data, chunk, rfl, notDone, parsed, sound⟩, rfl⟩
          · rintro ⟨noData | ⟨held, chunk, heldEq, notDone, parsed, sound⟩, rfl⟩
            · cases noData
            · cases heldEq
              rw [if_neg notDone, parsed]
              exact ⟨notDone, chunk, rfl, sound, rfl⟩

/-- The decoder leaves the stream on `[DONE]` alone, and only when its tools pass and a finish reason
was seen. -/
theorem isDone_of_done {state : Decoder} {line : Bytes}
    (left : (decodeLine crates order state line).result = .ok .done) :
    IsDone line ∧ ∃ reason, state.finalReason = some reason ∧
      validateStreamedTools crates order state.tools = .ok () := by
  unfold decodeLine at left
  unfold IsDone
  generalize lineData line = payload at left ⊢
  cases payload with
  | error error =>
      rw [Gen.ofExcept_error, Gen.fail_bind] at left
      cases left
  | ok data =>
      rw [Gen.ofExcept_ok, pure_bind] at left
      cases data with
      | none => cases left
      | some data =>
          unfold decodeData at left
          dsimp only at left
          by_cases done : data = "[DONE]"
          · subst done
            refine ⟨rfl, ?_⟩
            rcases finish_cases crates order state "provider stream ended without a finish reason"
              with ⟨reason, known, passed, -⟩ | ⟨error, finishEq⟩
            · exact ⟨reason, known, passed⟩
            · rw [if_pos rfl, finishEq, Gen.fail_bind] at left
              cases left
          · rw [if_neg done] at left
            cases parsed : crates.fromStr data with
            | error error =>
                rw [parsed] at left
                cases left
            | ok chunk =>
                rw [parsed] at left
                obtain ⟨_, _, impossible, _⟩ := Gen.bind_result_ok left
                cases impossible

/-- A line with a chunk is not the last one. -/
theorem not_isDone_of_sound {line : Bytes} (sound : LineSound crates line) : ¬ IsDone line := by
  intro done
  unfold IsDone at done
  rcases sound with noData | ⟨data, chunk, found, notDone, _⟩
  · rw [noData] at done
    cases done
  · rw [found] at done
    cases done
    exact notDone rfl

/-- The chunk of a sound line is sound. -/
theorem chunkSound_of_lineSound {line : Bytes} (sound : LineSound crates line) {chunk : Value}
    (found : lineChunk crates line = some chunk) : ChunkSound chunk := by
  unfold lineChunk at found
  rcases sound with noData | ⟨data, held, dataEq, notDone, parsed, heldSound⟩
  · rw [noData] at found
    cases found
  · rw [dataEq] at found
    dsimp only at found
    rw [if_neg notDone, parsed] at found
    cases found
    exact heldSound

/-- Lines that are sound add the chunks that they carry. -/
theorem Decoder.Knows.absorbLines {state : Decoder} {chunks : List Value} (knows : state.Knows chunks)
    {input : List Bytes} (sound : ∀ line ∈ input, LineSound crates line) :
    (input.foldl (Decoder.absorbLine crates) state).Knows
      (chunks ++ input.filterMap (lineChunk crates)) := by
  induction input generalizing state chunks with
  | nil => simpa using knows
  | cons line rest inductionHypothesis =>
      rw [List.forall_mem_cons] at sound
      rw [List.foldl_cons, List.filterMap_cons, Decoder.absorbLine]
      cases found : lineChunk crates line with
      | none => exact inductionHypothesis knows sound.2
      | some chunk =>
          have chunkSound := chunkSound_of_lineSound sound.1 found
          have continued := inductionHypothesis (knows.absorb chunkSound) sound.2
          rw [List.append_assoc] at continued
          exact continued

/-- After a pass over some lines the decoder knows exactly the content of their chunks. -/
theorem runLines_knows {input : List Bytes} {state : Decoder}
    (returned : (runLines (decodeLine crates order) {} input).result = .ok (.next state)) :
    (∀ line ∈ input, LineSound crates line) ∧ state.Knows (input.filterMap (lineChunk crates)) := by
  have each : ∀ state line next, (decodeLine crates order state line).result = .ok (.next next) ↔
      LineSound crates line ∧ next = state.absorbLine crates line := fun _ _ _ => decodeLine_next
  obtain ⟨sound, rfl⟩ := (runLines_result_next each).mp returned
  exact ⟨sound, Decoder.knows_nothing.absorbLines sound⟩

end Lines

end ClaudeProxy
