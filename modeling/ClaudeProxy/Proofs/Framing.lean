/-
Module: ClaudeProxy.Proofs.Framing
Layer: Proofs
Purpose: The decoder does not depend on how its input is framed. A response body acts through its
  complete lines alone (`parseSse_responseBody`), so chunk boundaries do not matter; a line acts
  alike with either line ending, and a line that carries no data does not act at all. What is left
  is the order in which a `HashMap` hands out the streamed tools: it decides which of two broken
  tools is reported.
Trusted boundary: none
Main exports: Ending, responseBody, decodeBody, parseSse_responseBody, Reframe, SameUpToToolError,
  parseSse_framing
-/
import ClaudeProxy.Provider.Sse
import Mathlib.Logic.Relation

namespace ClaudeProxy

open Library

/-- How a response body ends: completely, in silence, or with a transport error. -/
inductive Ending where
  | complete
  | silent
  | broken (error : TransportError)
deriving DecidableEq, Repr, Inhabited

/-- What follows the last chunk. -/
def Ending.items : Ending → List (Except TransportError Bytes)
  | .broken error => [.error error]
  | _ => []

def Ending.tail : Ending → Tail
  | .silent => .pending
  | _ => .closed

/-- A response body in chunks. -/
def responseBody (chunks : List Bytes) (ending : Ending) : Feed (Except TransportError Bytes) :=
  ⟨chunks.map .ok ++ ending.items, ending.tail⟩

section Decoding

variable (crates : Crates) (order : IterationOrder)

/-- What the decoder does when the body has ended and no line has ended the stream. -/
def endBody (state : Decoder) : Ending → Gen ProxyError ProviderEvent Tail
  | .complete => do
      finish crates order state "provider stream terminated before completion"
      pure .closed
  | .silent => pure .pending
  | .broken error => Gen.fail (classifyTransport error)

/-- The decoder as a function of the complete lines of a body. -/
def decodeBody (input : List Bytes) (ending : Ending) : Gen ProxyError ProviderEvent Tail := do
  match ← runLines (decodeLine crates order) {} input with
  | .done => pure .closed
  | .next state => endBody crates order state ending

/-- A stream whose tools are complete ends with its reason. -/
theorem finish_of_passed {state : Decoder} {reason : StopReason}
    (passed : validateStreamedTools crates order state.tools = .ok ())
    (known : state.finalReason = some reason) (missing : String) :
    finish crates order state missing = ⟨[.finished reason state.finalUsage], .ok ()⟩ := by
  unfold finish
  rw [passed, known]
  rfl

/-- One whose tools are not ends with an error. -/
theorem finish_of_failed {state : Decoder} {error : ProxyError}
    (failed : validateStreamedTools crates order state.tools = .error error) (missing : String) :
    finish crates order state missing = Gen.fail error := by
  unfold finish
  rw [failed]
  rfl

/-- A run of `finish` yields one `Finished`, or fails and yields nothing. -/
theorem finish_cases (state : Decoder) (missing : String) :
    (∃ reason, state.finalReason = some reason ∧
      validateStreamedTools crates order state.tools = .ok () ∧
      finish crates order state missing =
        ⟨[.finished reason state.finalUsage], .ok ()⟩) ∨
    ∃ error, finish crates order state missing = Gen.fail error := by
  cases checked : validateStreamedTools crates order state.tools with
  | error error => exact .inr ⟨error, finish_of_failed crates order checked missing⟩
  | ok passed =>
      cases known : state.finalReason with
      | none =>
          refine .inr ⟨ProxyError.new .upstream missing, ?_⟩
          unfold finish
          rw [checked, known]
          rfl
      | some reason =>
          exact .inl ⟨reason, rfl, rfl, finish_of_passed crates order checked known missing⟩

/-- The decoder sees the complete lines of the body and its ending, and nothing else. -/
theorem parseSse_responseBody (chunks : List Bytes) (ending : Ending) :
    parseSse crates order (responseBody chunks ending) =
      (decodeBody crates order (lines lineFeed chunks.flatten) ending).toFeed := by
  have classified : ((responseBody chunks ending).items.map fun chunk =>
      chunk.mapError classifyTransport) =
        chunks.map .ok ++ ending.items.map fun chunk => chunk.mapError classifyTransport := by
    unfold responseBody
    rw [List.map_append, List.map_map]
    rfl
  unfold parseSse decodeBody
  dsimp only
  congr 1
  rw [classified, pump_chunks List.not_mem_nil, List.nil_append, Gen.resume, bind_assoc]
  apply bind_congr
  intro flow
  cases flow with
  | done => rw [pure_bind]
  | next state => cases ending <;> rfl

/-! ### One line -/

theorem popCarriageReturn_append (line : Bytes) : popCarriageReturn (line ++ [13]) = line := by
  simp [popCarriageReturn]

theorem textData_carriageReturn (text : String) : textData (text ++ "\r") = textData text := by
  unfold textData
  rw [stripPrefix_append_carriageReturn (by decide)]
  cases stripPrefix "data:" text with
  | none => rfl
  | some rest => simp [trim_append_carriageReturn]

/-- A further carriage return before the line feed changes nothing: the decoder drops one, and a
second one is trimmed off the payload. -/
theorem lineData_carriageReturn (line : Bytes) : lineData (line ++ [13]) = lineData line := by
  unfold lineData
  rw [popCarriageReturn_append]
  by_cases ends : line.getLast? = some 13
  · obtain ⟨front, rfl⟩ : ∃ front, line = front ++ [13] := by
      obtain ⟨front, frontEq⟩ := List.getLast?_eq_some_iff.mp ends
      exact ⟨front, frontEq⟩
    rw [popCarriageReturn_append, fromUtf8_append_carriageReturn]
    cases fromUtf8 front with
    | none => rfl
    | some text => simp [textData_carriageReturn]
  · have kept : popCarriageReturn line = line := by
      simp [popCarriageReturn, ends]
    rw [kept]

/-- What a line of text carries. -/
theorem lineData_utf8Bytes (text : String) : lineData (utf8Bytes text) = .ok (textData text) := by
  rw [← lineData_carriageReturn]
  unfold lineData
  rw [popCarriageReturn_append, fromUtf8_utf8Bytes]

/-- A line of data carries its payload. -/
theorem lineData_data {payload : String} (present : payload ≠ "")
    (first : payload.toList.head?.any isWhitespace = false)
    (last : payload.toList.getLast?.any isWhitespace = false) :
    lineData (utf8Bytes ("data: " ++ payload)) = .ok (some payload) := by
  have split : "data: " ++ payload = "data:" ++ (" " ++ payload) := by
    rw [← String.append_assoc]
    rfl
  rw [lineData_utf8Bytes, split]
  unfold textData
  rw [stripPrefix_append, Option.map_some, trim_space, trim_of_visible first last]
  dsimp only
  rw [if_neg present]

/-- A complete line of valid UTF-8 that does not start with `data:`: a blank line, a comment, or
another field. -/
def CarriesNoData (line : Bytes) : Prop :=
  lineFeed ∉ line ∧ ∃ text, fromUtf8 line = some text ∧ ¬ "data:".toList <+: text.toList

/-- A line that is no data line carries nothing. -/
theorem lineData_of_carriesNoData {line : Bytes} (noData : CarriesNoData line) :
    lineData line = .ok none := by
  obtain ⟨-, text, decoded, notData⟩ := noData
  have plain : textData text = none := by
    unfold textData stripPrefix
    rw [if_neg (by rwa [List.isPrefixOf_iff_prefix])]
    rfl
  rw [← lineData_carriageReturn]
  unfold lineData
  rw [popCarriageReturn_append, decoded]
  dsimp only
  rw [plain]

variable {crates order}

/-- A carriage return at the end of a line makes no difference. -/
theorem decodeLine_carriageReturn (state : Decoder) (line : Bytes) :
    decodeLine crates order state (line ++ [13]) = decodeLine crates order state line := by
  unfold decodeLine
  rw [lineData_carriageReturn]

/-- A line that carries nothing is passed over. -/
theorem decodeLine_of_carriesNoData {line : Bytes} (noData : CarriesNoData line) (state : Decoder) :
    decodeLine crates order state line = pure (.next state) := by
  unfold decodeLine
  rw [lineData_of_carriesNoData noData]
  rfl

/-! ### Reframing -/

/-- A place between two lines: the start of the input, or right after a line feed. -/
def LineBoundary (before : Bytes) : Prop :=
  before = [] ∨ ∃ front, before = front ++ [lineFeed]

/-- At a boundary no line is begun. -/
theorem LineBoundary.remainder {before : Bytes} (boundary : LineBoundary before) :
    remainder lineFeed before = [] := by
  rcases boundary with rfl | ⟨front, rfl⟩
  · rfl
  · exact remainder_terminated front

/-- One change of framing: a line ending becomes CRLF, or a line that carries no data appears between
two lines. -/
inductive Reframe : Bytes → Bytes → Prop
  | crlf (before after : Bytes) :
      Reframe (before ++ lineFeed :: after) (before ++ 13 :: lineFeed :: after)
  | insert {before : Bytes} (boundary : LineBoundary before) {line : Bytes}
      (noData : CarriesNoData line) (after : Bytes) :
      Reframe (before ++ after) (before ++ line ++ lineFeed :: after)

/-- One change of framing leaves the decoder's pass over the lines as it is. -/
theorem Reframe.runLines_eq {first second : Bytes} (reframe : Reframe first second)
    (state : Decoder) :
    runLines (decodeLine crates order) state (lines lineFeed first) =
      runLines (decodeLine crates order) state (lines lineFeed second) := by
  cases reframe with
  | crlf before after =>
      have clean : lineFeed ∉ remainder lineFeed before := remainder_clean before
      have cleanAfterReturn : lineFeed ∉ remainder lineFeed before ++ [13] := by
        simpa [lineFeed] using clean
      have shifted : remainder lineFeed before ++ 13 :: lineFeed :: after =
          (remainder lineFeed before ++ [13]) ++ lineFeed :: after := by simp
      rw [lines_append before, lines_append before, shifted, lines_append_delimiter clean,
        lines_append_delimiter cleanAfterReturn]
      apply runLines_replace
      intro state
      exact (decodeLine_carriageReturn state _).symm
  | @insert before boundary line noData after =>
      have inserted : lines lineFeed (before ++ line ++ lineFeed :: after) =
          lines lineFeed before ++ line :: lines lineFeed after := by
        rw [List.append_assoc, lines_append, boundary.remainder, List.nil_append,
          lines_append_delimiter noData.1]
      rw [inserted, lines_append, boundary.remainder, List.nil_append]
      exact (runLines_insert (decodeLine_of_carriesNoData noData) state _ _).symm

/-- Any number of changes of framing, in either direction. -/
def SameFraming (first second : Bytes) : Prop := Relation.EqvGen Reframe first second

/-- What has the same framing is decoded to the same events. -/
theorem SameFraming.runLines_eq {first second : Bytes} (same : SameFraming first second)
    (state : Decoder) :
    runLines (decodeLine crates order) state (lines lineFeed first) =
      runLines (decodeLine crates order) state (lines lineFeed second) := by
  induction same with
  | rel _ _ reframe => exact reframe.runLines_eq state
  | refl _ => rfl
  | symm _ _ _ inductionHypothesis => exact inductionHypothesis.symm
  | trans _ _ _ _ _ toMiddle fromMiddle => exact toMiddle.trans fromMiddle

end Decoding

/-! ### Iteration order -/

/-- The two errors that validation may choose between, depending on the tool it visits first. -/
def ToolErrors (error error' : ProxyError) : Prop :=
  error = incompleteToolCall ∧ error' = invalidToolJson ∨
    error = invalidToolJson ∧ error' = incompleteToolCall

section Order

variable (crates : Crates) (order order' : IterationOrder)

/-- There are two things that can be wrong with a streamed tool. -/
theorem validateStreamedTool_error {tool : StreamedTool} {error : ProxyError}
    (failed : validateStreamedTool crates tool = .error error) :
    error = incompleteToolCall ∨ error = invalidToolJson := by
  unfold validateStreamedTool at failed
  split at failed
  · cases failed
    exact .inl rfl
  · split at failed
    · cases failed
    · cases failed
      exact .inr rfl

/-- A pass over a list of tools succeeds when each tool passes, and otherwise reports one of them. -/
theorem forM_validate_cases (tools : List StreamedTool) :
    ((∀ tool ∈ tools, validateStreamedTool crates tool = .ok ()) ∧
      tools.forM (validateStreamedTool crates) = .ok ()) ∨
    ∃ tool ∈ tools, ∃ error, validateStreamedTool crates tool = .error error ∧
      tools.forM (validateStreamedTool crates) = .error error := by
  induction tools with
  | nil => exact .inl ⟨by simp, rfl⟩
  | cons tool rest inductionHypothesis =>
      rw [List.forM_eq_forM, List.forM_cons]
      rw [List.forM_eq_forM] at inductionHypothesis
      cases checked : validateStreamedTool crates tool with
      | error error => exact .inr ⟨tool, by simp, error, checked, rfl⟩
      | ok done =>
          rcases inductionHypothesis with ⟨each, passed⟩ | ⟨other, member, error, failed, stopped⟩
          · refine .inl ⟨?_, passed⟩
            intro other member
            rcases List.mem_cons.mp member with rfl | later
            · exact checked
            · exact each other later
          · exact .inr ⟨other, List.mem_cons_of_mem _ member, error, failed, stopped⟩

/-- The tools pass if each of them does, in whatever order they are looked at. -/
theorem validateStreamedTools_ok {tools : ToolTable} :
    validateStreamedTools crates order tools = .ok () ↔
      ∀ tool ∈ tools.values, validateStreamedTool crates tool = .ok () := by
  unfold validateStreamedTools
  rcases forM_validate_cases crates (order.visit tools.values) with
    ⟨each, passed⟩ | ⟨tool, member, error, failed, stopped⟩
  · refine iff_of_true passed ?_
    intro tool member
    exact each tool ((order.perm tools.values).mem_iff.mpr member)
  · rw [stopped]
    refine iff_of_false (by simp) ?_
    intro each
    rw [each tool ((order.perm tools.values).mem_iff.mp member)] at failed
    cases failed

/-- Otherwise one of the two errors is reported. -/
theorem validateStreamedTools_error {tools : ToolTable} {error : ProxyError}
    (failed : validateStreamedTools crates order tools = .error error) :
    error = incompleteToolCall ∨ error = invalidToolJson := by
  unfold validateStreamedTools at failed
  rcases forM_validate_cases crates (order.visit tools.values) with
    ⟨_, passed⟩ | ⟨tool, _, found, failedThere, stopped⟩
  · rw [passed] at failed
    cases failed
  · rw [stopped] at failed
    cases failed
    exact validateStreamedTool_error crates failedThere

/-- Two orders of iteration agree on whether a table passes. -/
theorem validateStreamedTools_alike (tools : ToolTable) :
    validateStreamedTools crates order tools = validateStreamedTools crates order' tools ∨
      ∃ error error', validateStreamedTools crates order tools = .error error ∧
        validateStreamedTools crates order' tools = .error error' ∧ ToolErrors error error' := by
  have agree : validateStreamedTools crates order tools = .ok () ↔
      validateStreamedTools crates order' tools = .ok () := by
    rw [validateStreamedTools_ok, validateStreamedTools_ok]
  cases first : validateStreamedTools crates order tools with
  | ok done => exact .inl (agree.mp first).symm
  | error error =>
      cases second : validateStreamedTools crates order' tools with
      | ok done =>
          rw [agree.mpr second] at first
          cases first
      | error error' =>
          rcases validateStreamedTools_error crates order first with rfl | rfl <;>
            rcases validateStreamedTools_error crates order' second with rfl | rfl
          · exact .inl rfl
          · exact .inr ⟨_, _, rfl, rfl, .inl ⟨rfl, rfl⟩⟩
          · exact .inr ⟨_, _, rfl, rfl, .inr ⟨rfl, rfl⟩⟩
          · exact .inl rfl

/-- In two orders of iteration the end of a stream differs at most in which of the two errors it is.
-/
theorem finish_alike (state : Decoder) (missing : String) :
    Gen.Alike ToolErrors (finish crates order state missing)
      (finish crates order' state missing) := by
  refine .bind ?_ fun _ => .refl _
  rcases validateStreamedTools_alike crates order order' state.tools with
    same | ⟨error, error', first, second, related⟩
  · rw [same]
    exact .refl _
  · rw [first, second]
    exact .inr ⟨[], error, error', related, rfl, rfl⟩

/-- So does the decoding of a payload. -/
theorem decodeData_alike (state : Decoder) (data : String) :
    Gen.Alike ToolErrors (decodeData crates order state data)
      (decodeData crates order' state data) := by
  unfold decodeData
  by_cases done : data = "[DONE]"
  · rw [if_pos done, if_pos done]
    exact .bind (finish_alike crates order order' state _) fun _ => .refl _
  · rw [if_neg done, if_neg done]
    exact .refl _

/-- So does that of a line. -/
theorem decodeLine_alike (state : Decoder) (line : Bytes) :
    Gen.Alike ToolErrors (decodeLine crates order state line)
      (decodeLine crates order' state line) := by
  refine .bind (.refl _) fun data => ?_
  cases data with
  | none => exact .refl _
  | some data => exact decodeData_alike crates order order' state data

/-- So does that of a whole body. -/
theorem decodeBody_alike (input : List Bytes) (ending : Ending) :
    Gen.Alike ToolErrors (decodeBody crates order input ending)
      (decodeBody crates order' input ending) := by
  refine .bind (runLines_alike (decodeLine_alike crates order order') {} input) fun flow => ?_
  cases flow with
  | done => exact .refl _
  | next state =>
      cases ending with
      | complete => exact .bind (finish_alike crates order order' state _) fun _ => .refl _
      | silent => exact .refl _
      | broken error => exact .refl _

end Order

/-- Two decoded streams with the same events and the same outcome, except that where validation
rejects the tools each may report its own broken tool. -/
def SameUpToToolError (first second : Feed (Except ProxyError ProviderEvent)) : Prop :=
  first = second ∨ ∃ events error error', ToolErrors error error' ∧
    first = ⟨events ++ [.error error], .closed⟩ ∧ second = ⟨events ++ [.error error'], .closed⟩

/-- What is alike in this way is the same up to the error of a tool. -/
theorem sameUpToToolError_of_alike {first second : Gen ProxyError ProviderEvent Tail}
    (alike : Gen.Alike ToolErrors first second) :
    SameUpToToolError first.toFeed second.toFeed := by
  rcases alike with same | ⟨yielded, error, error', related, firstEq, secondEq⟩
  · exact .inl (by rw [same])
  · subst firstEq secondEq
    exact .inr ⟨yielded.map .ok, error, error', related, rfl, rfl⟩

/-- Chunk boundaries, line endings and lines without data change nothing about a decoded stream. Two
runs over the same content, however framed, yield the same events and come to the same outcome; with
different orders of iteration they may report different broken tools, and with the same order they
do not. -/
theorem parseSse_framing (crates : Crates) (order order' : IterationOrder)
    (chunks chunks' : List Bytes) (same : SameFraming chunks.flatten chunks'.flatten)
    (ending : Ending) :
    SameUpToToolError (parseSse crates order (responseBody chunks ending))
        (parseSse crates order' (responseBody chunks' ending)) ∧
      parseSse crates order (responseBody chunks ending) =
        parseSse crates order (responseBody chunks' ending) := by
  have sameOrder : ∀ order, decodeBody crates order (lines lineFeed chunks.flatten) ending =
      decodeBody crates order (lines lineFeed chunks'.flatten) ending := by
    intro order
    unfold decodeBody
    rw [same.runLines_eq]
  constructor
  · rw [parseSse_responseBody, parseSse_responseBody, sameOrder order]
    exact sameUpToToolError_of_alike (decodeBody_alike crates order order' _ ending)
  · rw [parseSse_responseBody, parseSse_responseBody, sameOrder order]

/-- A chunk with two broken tools: one without an id, one whose arguments are not JSON. -/
def brokenToolsText : String :=
  "\x7b\"choices\":[\x7b\"delta\":\x7b\"tool_calls\":[\x7b\"index\":0\x7d,\x7b\"index\":1," ++
    "\"id\":\"a\",\"function\":\x7b\"name\":\"f\",\"arguments\":\"x\"\x7d\x7d]\x7d\x7d]\x7d"

/-- The value that `brokenToolsText` denotes. -/
def brokenToolsChunk : Value :=
  .obj [("choices", .array [.obj [("delta", .obj [("tool_calls", .array
    [.obj [("index", .num 0)],
      .obj [("index", .num 1), ("id", .string "a"),
        ("function", .obj [("name", .string "f"), ("arguments", .string "x")])]])])]])]

/-- The third-party entry points at the texts of the example: `x` is not JSON. -/
def brokenToolsCrates : Crates where
  fromStr text :=
    if text = brokenToolsText then .ok brokenToolsChunk
    else .error "expected value at line 1 column 1"
  toJson _ := brokenToolsText
  base64Decode _ := none
  urlParse _ := .error "not called"

/-- A body of one chunk, one line and those two tools. -/
def brokenToolsBytes : List Bytes := [utf8Bytes ("data: " ++ brokenToolsText ++ "\n")]

def insertionOrder : IterationOrder := ⟨id, fun _ => .rfl⟩

def reverseOrder : IterationOrder := ⟨List.reverse, List.reverse_perm⟩

/-! ### A text and a call -/

/-- A piece of text. -/
def sampleTextJson : String :=
  "\x7b\"choices\":[\x7b\"delta\":\x7b\"content\":\"hi\"\x7d\x7d]\x7d"

def sampleTextChunk : Value :=
  .obj [("choices", .array [.obj [("delta", .obj [("content", .string "hi")])]])]

/-- The whole of a call. -/
def sampleCallJson : String :=
  "\x7b\"choices\":[\x7b\"delta\":\x7b\"tool_calls\":[\x7b\"index\":0,\"id\":\"a\"," ++
    "\"function\":\x7b\"name\":\"f\",\"arguments\":\"1\"\x7d\x7d]\x7d," ++
    "\"finish_reason\":\"stop\"\x7d]\x7d"

def sampleCallChunk : Value :=
  .obj [("choices", .array [.obj
    [("delta", .obj [("tool_calls", .array [.obj
        [("index", .num 0), ("id", .string "a"),
          ("function", .obj [("name", .string "f"), ("arguments", .string "1")])]])]),
      ("finish_reason", .string "stop")]])]

/-- The third-party entry points at the texts of the sample. -/
def sampleCrates : Crates where
  fromStr text :=
    if text = sampleTextJson then .ok sampleTextChunk
    else if text = sampleCallJson then .ok sampleCallChunk
    else if text = "1" then .ok (.num 1)
    else .error "expected value at line 1 column 1"
  toJson _ := "1"
  base64Decode _ := none
  urlParse _ := .error "not called"

/-- The lines that stream the sample. -/
def sampleLines : List Bytes :=
  [utf8Bytes ("data: " ++ sampleTextJson), utf8Bytes ("data: " ++ sampleCallJson)]

/-- The body that streams the sample, in one chunk. -/
def sampleBody : Bytes :=
  utf8Bytes ("data: " ++ sampleTextJson) ++ lineFeed ::
    (utf8Bytes ("data: " ++ sampleCallJson) ++ lineFeed ::
      (utf8Bytes "data: [DONE]" ++ lineFeed :: []))

/-- The lines of the sample after the first. -/
def sampleTail : Bytes :=
  utf8Bytes ("data: " ++ sampleCallJson) ++ lineFeed ::
    (utf8Bytes "data: [DONE]" ++ lineFeed :: [])

/-- The sample once more, in three chunks, with a CRLF and a comment between its first two lines. -/
def sampleReframed : List Bytes :=
  [utf8Bytes ("data: " ++ sampleTextJson) ++ [13], [lineFeed] ++ utf8Bytes ": hi",
    lineFeed :: sampleTail]

/-- The sample with a carriage return and a comment more has the same framing. -/
theorem sampleReframed_same : SameFraming [sampleBody].flatten sampleReframed.flatten := by
  let first := utf8Bytes ("data: " ++ sampleTextJson)
  have boundary : LineBoundary (first ++ [13, lineFeed]) := .inr ⟨first ++ [13], by simp⟩
  have noData : CarriesNoData (utf8Bytes ": hi") :=
    ⟨by decide +kernel, ": hi", by decide +kernel, by decide +kernel⟩
  have ending : Reframe [sampleBody].flatten (first ++ [13, lineFeed] ++ sampleTail) := by
    simpa [sampleBody, sampleTail, first] using Reframe.crlf first sampleTail
  have comment : Reframe (first ++ [13, lineFeed] ++ sampleTail) sampleReframed.flatten := by
    simpa [sampleReframed, first] using Reframe.insert boundary noData sampleTail
  exact .trans _ _ _ (.rel _ _ ending) (.rel _ _ comment)

/-- The sample, with its text and its call, and the same with another line ending and a comment, in
other chunks. -/
theorem parseSse_framing_crlf :
    SameUpToToolError
        (parseSse sampleCrates insertionOrder (responseBody [sampleBody] .complete))
        (parseSse sampleCrates reverseOrder (responseBody sampleReframed .complete)) ∧
      parseSse sampleCrates insertionOrder (responseBody [sampleBody] .complete) =
        parseSse sampleCrates insertionOrder (responseBody sampleReframed .complete) :=
  parseSse_framing sampleCrates insertionOrder reverseOrder [sampleBody] sampleReframed
    sampleReframed_same .complete

/-- Two runs over the very same bytes in the very same chunks can report different errors: the order
of iteration over the tools is not determined by the input. -/
theorem parseSse_order_dependent :
    ¬ ∀ (crates : Crates) (order order' : IterationOrder) (chunks chunks' : List Bytes),
      chunks.flatten = chunks'.flatten →
        parseSse crates order (responseBody chunks .complete) =
          parseSse crates order' (responseBody chunks' .complete) := by
  intro always
  have same := always brokenToolsCrates insertionOrder reverseOrder brokenToolsBytes
    brokenToolsBytes rfl
  rw [parseSse_responseBody, parseSse_responseBody] at same
  have lastItems := congrArg (fun feed => feed.items.getLast?) same
  have differ :
      (decodeBody brokenToolsCrates insertionOrder (lines lineFeed brokenToolsBytes.flatten)
          .complete).toFeed.items.getLast? = some (.error invalidToolJson) ∧
        (decodeBody brokenToolsCrates reverseOrder (lines lineFeed brokenToolsBytes.flatten)
          .complete).toFeed.items.getLast? = some (.error incompleteToolCall) := by
    decide +kernel
  rw [differ.1, differ.2] at lastItems
  revert lastItems
  decide

end ClaudeProxy
