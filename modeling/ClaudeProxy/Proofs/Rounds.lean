/-
Module: ClaudeProxy.Proofs.Rounds
Layer: Proofs
Purpose: Requests that go on. A client adds rounds to a request that was accepted: the blocks that it
  read off an answer, as a message of the assistant, and its reply. Here is when `normalize` takes all
  of it back, wherever the blocks come from.
Trusted boundary: none
Main exports: Returnable, ReadRound, ReadRound.Proper, normalize_rounds, normalize_extended,
  history_extended, rounds_accepted_iff
-/
import ClaudeProxy.Client.Dialogue
import ClaudeProxy.Proofs.Deserialization
import ClaudeProxy.Proofs.Segments
import ClaudeProxy.Proofs.ToolHistory
import ClaudeProxy.Proofs.ToolPairing

namespace ClaudeProxy

open Library

/-! ### Objects that the client writes -/

theorem hasOnly_obj {allowed : List String} {entries : Entries}
    (known : ∀ entry ∈ entries, entry.1 ∈ allowed) : HasOnly allowed (.obj entries) := by
  intro key member
  obtain ⟨entry, held, rfl⟩ := List.mem_map.mp member
  exact known entry (Entries.mem_collected held)

theorem ensureOnly_obj {allowed : List String} {entries : Entries}
    (known : ∀ entry ∈ entries, entry.1 ∈ allowed) (path : String) (strict : Bool) :
    ensureOnly (.obj entries) allowed path strict = .ok () := by
  cases strict with
  | false => rfl
  | true => exact ensureOnly_strict.mpr ⟨rfl, hasOnly_obj known⟩

theorem requiredStr_eq_ok {value : Value} {key path text : String} :
    requiredStr value key path = .ok text ↔ value.strAt key = some text := orReject_eq_ok

section Reading

variable {crates : Crates} {path : String} {strict : Bool}

theorem parseBlock_text (text : String) :
    parseBlock crates (.obj [("type", .string "text"), ("text", .string text)]) path strict =
      .ok (.text text) := by
  apply Except.bind_eq_ok.mpr
  refine ⟨"text", requiredStr_eq_ok.mpr (by simp [Value.strAt]), ?_⟩
  unfold parseBlockOf parseText
  rw [if_pos rfl, ensureOnly_obj (by simp)]
  apply Except.bind_eq_ok.mpr
  refine ⟨(), rfl, ?_⟩
  apply Except.bind_eq_ok.mpr
  refine ⟨(), rejectIf_eq_ok.mpr (by simp [Value.isNull]), ?_⟩
  apply Except.bind_eq_ok.mpr
  exact ⟨text, requiredStr_eq_ok.mpr (by simp [Value.strAt]), rfl⟩

/-- A call is read back if its input is an object. -/
theorem parseBlock_toolUse (id name : String) (input : Value) {parsed : InputBlock} :
    parseBlock crates (OutputBlock.toolUse id name input).toValue path strict = .ok parsed ↔
      input.isObject = true ∧ parsed = .toolUse id name input := by
  have kind : requiredStr (OutputBlock.toolUse id name input).toValue "type" path =
      .ok "tool_use" := requiredStr_eq_ok.mpr (by simp [OutputBlock.toValue, Value.strAt])
  have idEq : requiredStr (OutputBlock.toolUse id name input).toValue "id" path = .ok id :=
    requiredStr_eq_ok.mpr (by simp [OutputBlock.toValue, Value.strAt])
  have nameEq : requiredStr (OutputBlock.toolUse id name input).toValue "name" path = .ok name :=
    requiredStr_eq_ok.mpr (by simp [OutputBlock.toValue, Value.strAt])
  have inputEq : (OutputBlock.toolUse id name input).toValue.get "input" = some input := by
    simp [OutputBlock.toValue]
  have known : ensureOnly (OutputBlock.toolUse id name input).toValue
      ["type", "id", "name", "input", "cache_control"] path strict = .ok () :=
    ensureOnly_obj (by simp) path strict
  unfold parseBlock parseBlockOf
  rw [kind]
  change parseToolUse _ path strict = .ok parsed ↔ _
  unfold parseToolUse
  rw [known, idEq, nameEq, inputEq]
  simp only [Except.bind_eq_ok, orReject_eq_ok, Option.filter_eq_some_iff]
  constructor
  · rintro ⟨_, -, _, ⟨⟩, _, ⟨⟩, _, ⟨⟨⟩, isObject⟩, same⟩
    exact ⟨isObject, (Except.ok.inj same).symm⟩
  · rintro ⟨isObject, rfl⟩
    exact ⟨(), trivial, id, rfl, name, rfl, input, ⟨rfl, isObject⟩, rfl⟩

theorem parseBlock_toolResult (result : CallResult) :
    parseBlock crates result.toValue path strict =
      .ok (.toolResult result.toolUseId result.content result.isError) := by
  apply Except.bind_eq_ok.mpr
  refine ⟨"tool_result", requiredStr_eq_ok.mpr (by simp [CallResult.toValue, Value.strAt]), ?_⟩
  unfold parseBlockOf parseToolResult
  rw [if_neg (by decide), if_neg (by decide), if_neg (by decide), if_pos rfl]
  apply Except.bind_eq_ok.mpr
  refine ⟨(), ensureOnly_obj (by simp) path strict, ?_⟩
  apply Except.bind_eq_ok.mpr
  refine ⟨result.toolUseId, requiredStr_eq_ok.mpr (by simp [CallResult.toValue, Value.strAt]), ?_⟩
  simp [CallResult.toValue, flagAt, Value.asBool, pure, Except.pure]

end Reading

/-! ### Rounds -/

/-- A block of an answer, as the request that follows says it. -/
def OutputBlock.toInput : OutputBlock → InputBlock
  | .text written => .text written
  | .toolUse id name input => .toolUse id name input

def CallResult.toInput (result : CallResult) : InputBlock :=
  .toolResult result.toolUseId result.content result.isError

def ToolReply.blocks (reply : ToolReply) : List InputBlock :=
  reply.results.map CallResult.toInput ++ reply.texts.map InputBlock.text

/-- What a reply consists of, and how each part is written and read. -/
def ToolReply.parts (reply : ToolReply) : List (CallResult ⊕ String) :=
  reply.results.map Sum.inl ++ reply.texts.map Sum.inr

def writePart : CallResult ⊕ String → Value
  | .inl result => result.toValue
  | .inr text => .obj [("type", .string "text"), ("text", .string text)]

def readPart : CallResult ⊕ String → InputBlock
  | .inl result => result.toInput
  | .inr text => .text text

/-- A call whose input the client can send back. -/
def Returnable : OutputBlock → Prop
  | .text _ => True
  | .toolUse _ _ input => input.isObject = true

/-- A round, with the blocks that the client reads off its answer. -/
structure ReadRound where
  answer : Value
  content : List OutputBlock
  reply : ToolReply
deriving Inhabited

structure ReadRound.Proper (round : ReadRound) : Prop where
  echo : echoed round.answer =
    { role := "assistant", content := .array (round.content.map OutputBlock.toValue) }
  speaks : round.content ≠ []
  followsUp : round.reply.FollowsUp round.content

def ReadRound.round (round : ReadRound) : Round where
  answer := round.answer
  reply := round.reply

/-- The messages of a round in normal form. -/
def ReadRound.turns (round : ReadRound) : List NormalizedMessage :=
  [{ role := .assistant, blocks := round.content.map OutputBlock.toInput },
    { role := .user, blocks := round.reply.blocks }]

section Messages

variable {crates : Crates} {strict : Bool}

/-- The blocks of an answer are read back one by one. -/
theorem parseBlock_output {block : OutputBlock} {path : String} {parsed : InputBlock} :
    parseBlock crates block.toValue path strict = .ok parsed ↔
      Returnable block ∧ parsed = block.toInput := by
  cases block with
  | text written =>
      rw [show (OutputBlock.text written).toValue =
        .obj [("type", .string "text"), ("text", .string written)] from rfl, parseBlock_text]
      simp [Returnable, OutputBlock.toInput, eq_comm]
  | toolUse id name input => exact parseBlock_toolUse id name input

/-- A pass over an array in which each element is read in one way, if at all. -/
theorem parseContent_array {α : Type} {write : α → Value} {good : α → Prop} {read : α → InputBlock}
    (each : ∀ item path parsed, parseBlock crates (write item) path strict = .ok parsed ↔
      good item ∧ parsed = read item)
    {items : List α} (nonempty : items ≠ []) {index : Nat} {blocks : List InputBlock} :
    parseContent crates (.array (items.map write)) index strict = .ok blocks ↔
      (∀ item ∈ items, good item) ∧ blocks = items.map read := by
  have present : rejectIf (items.map write = [])
      (ProxyError.invalid s!"messages[{index}].content must not be empty") = .ok () := by
    rw [rejectIf_eq_ok, List.map_eq_nil_iff]
    exact nonempty
  have pass : ((items.map write).zipIdx.mapM fun entry =>
      parseBlock crates entry.1 s!"messages[{index}].content[{entry.2}]" strict) = .ok blocks ↔
        (∀ item ∈ items, good item) ∧ blocks = items.map read :=
    Except.mapM_written_eq_ok fun item position parsed => each item _ parsed
  constructor
  · intro accepted
    obtain ⟨_, _, parsed⟩ := Except.bind_eq_ok.mp accepted
    exact pass.mp parsed
  · intro readBack
    exact Except.bind_eq_ok.mpr ⟨(), present, pass.mpr readBack⟩

/-- The message of an answer is read back if its calls are returnable. -/
theorem normalizeMessage_echoed {round : ReadRound} (proper : round.Proper) {index : Nat}
    {message : NormalizedMessage} :
    normalizeMessage crates (echoed round.round.answer) index strict = .ok message ↔
      (∀ block ∈ round.content, Returnable block) ∧
        message = { role := .assistant, blocks := round.content.map OutputBlock.toInput } := by
  unfold normalizeMessage ReadRound.round
  rw [proper.echo]
  dsimp only
  rw [Except.bind_eq_ok]
  have content := @parseContent_array crates strict _ OutputBlock.toValue Returnable
    OutputBlock.toInput (fun _ _ _ => parseBlock_output) _ proper.speaks index
  constructor
  · rintro ⟨_, ⟨⟩, parsed⟩
    obtain ⟨blocks, blocksEq, same⟩ := Except.bind_eq_ok.mp parsed
    cases same
    obtain ⟨returnable, rfl⟩ := content.mp blocksEq
    exact ⟨returnable, rfl⟩
  · rintro ⟨returnable, rfl⟩
    exact ⟨.assistant, rfl, Except.bind_eq_ok.mpr ⟨_, content.mpr ⟨returnable, rfl⟩, rfl⟩⟩

theorem parseBlock_part (part : CallResult ⊕ String) (path : String) (parsed : InputBlock) :
    parseBlock crates (writePart part) path strict = .ok parsed ↔ True ∧ parsed = readPart part := by
  cases part with
  | inl result =>
      rw [writePart, parseBlock_toolResult]
      simp [readPart, CallResult.toInput, eq_comm]
  | inr text =>
      rw [writePart, parseBlock_text]
      simp [readPart, eq_comm]

/-- A reply is always read. -/
theorem normalizeMessage_reply {round : ReadRound} (proper : round.Proper) {index : Nat}
    {message : NormalizedMessage} :
    normalizeMessage crates { role := "user", content := .array round.round.reply.content } index
        strict = .ok message ↔
      message = { role := .user, blocks := round.reply.blocks } := by
  have written : round.reply.content = round.reply.parts.map writePart := by
    simp [ToolReply.content, ToolReply.parts, Function.comp_def, writePart]
  have blocks : round.reply.blocks = round.reply.parts.map readPart := by
    simp [ToolReply.blocks, ToolReply.parts, Function.comp_def, readPart]
  have nonempty := proper.followsUp.speaks
  rw [written, ne_eq, List.map_eq_nil_iff] at nonempty
  have content := @parseContent_array crates strict _ _ _ _ parseBlock_part _ nonempty index
  unfold normalizeMessage ReadRound.round
  dsimp only
  rw [written, blocks, Except.bind_eq_ok]
  constructor
  · rintro ⟨_, ⟨⟩, parsed⟩
    obtain ⟨read, readEq, same⟩ := Except.bind_eq_ok.mp parsed
    cases same
    obtain ⟨-, rfl⟩ := content.mp readEq
    rfl
  · rintro rfl
    exact ⟨.user, rfl, Except.bind_eq_ok.mpr ⟨_, content.mpr ⟨fun _ _ => trivial, rfl⟩, rfl⟩⟩

/-- The messages of the rounds, from any position of the request on. -/
theorem normalize_rounds {rounds : List ReadRound} (proper : ∀ round ∈ rounds, round.Proper)
    {start : Nat} {turns : List NormalizedMessage} :
    (((rounds.map ReadRound.round).flatMap Round.messages).zipIdx start).mapM
        (fun entry => normalizeMessage crates entry.1 entry.2 strict) = .ok turns ↔
      (∀ round ∈ rounds, ∀ block ∈ round.content, Returnable block) ∧
        turns = rounds.flatMap ReadRound.turns := by
  induction rounds generalizing start turns with
  | nil => simp [pure, Except.pure, eq_comm]
  | cons round rest inductionHypothesis =>
      rw [List.forall_mem_cons] at proper
      rw [List.map_cons, List.flatMap_cons, Round.messages, List.cons_append, List.cons_append,
        List.nil_append, List.zipIdx_cons, List.zipIdx_cons, List.mapM_cons, Except.bind_eq_ok,
        List.forall_mem_cons, List.flatMap_cons]
      simp only [List.mapM_cons, Except.bind_eq_ok, normalizeMessage_echoed proper.1,
        normalizeMessage_reply proper.1, inductionHypothesis proper.2]
      constructor
      · rintro ⟨_, ⟨returnable, rfl⟩, _, ⟨_, rfl, _, ⟨later, rfl⟩, same⟩, same'⟩
        cases same
        cases same'
        exact ⟨⟨returnable, later⟩, rfl⟩
      · rintro ⟨⟨returnable, later⟩, rfl⟩
        exact ⟨_, ⟨returnable, rfl⟩, _, ⟨_, rfl, _, ⟨later, rfl⟩, rfl⟩, rfl⟩

end Messages

/-! ### Requests that go on -/

section Extended

variable {crates : Crates} {request : AnthropicRequest}

theorem checkFields_extended {strict : Bool} (accepted : checkFields request strict = .ok ())
    (more : List InputMessage) :
    checkFields { request with messages := request.messages ++ more } strict = .ok () ↔
      request.messages.length + more.length ≤ 10000 := by
  unfold checkFields at accepted ⊢
  simp only [Except.bind_eq_ok, rejectIf_eq_ok] at accepted ⊢
  obtain ⟨_, model, _, present, _, -, _, tools, _, stop, _, maxTokens, _, known, _, topK, _,
    temperature, topP⟩ := accepted
  constructor
  · rintro ⟨_, _, _, _, _, short, _⟩
    simpa using short
  · intro short
    exact ⟨(), model, (), by simp [present], (), by simpa using short, (), tools, (), stop, (),
      maxTokens, (), known, (), topK, (), temperature, topP⟩

/-- A request that goes on is read where it was read before; what comes new is read after it, and
checked against the ids that it left. -/
theorem normalize_extended {loose : Bool} {normalized : NormalizedRequest}
    (accepted : normalize crates request loose = .ok normalized) (more : List InputMessage)
    {continued : NormalizedRequest} :
    normalize crates { request with messages := request.messages ++ more } loose = .ok continued ↔
      request.messages.length + more.length ≤ 10000 ∧ ∃ turns history,
        ((more.zipIdx request.messages.length).mapM fun entry =>
          normalizeMessage crates entry.1 entry.2 (!loose)) = .ok turns ∧
        validateToolHistory (normalized.messages ++ turns) = .ok history ∧
        continued = { normalized with messages := normalized.messages ++ turns } := by
  obtain ⟨fields, system, turns, history, names, choice, systemEq, turnsEq, -, namesEq, choiceEq,
    choiceFits, rfl⟩ := normalize_eq_ok.mp accepted
  rw [normalize_eq_ok, checkFields_extended fields]
  apply and_congr_right
  intro _
  have split : ∀ {read : List NormalizedMessage},
      ((request.messages ++ more).zipIdx.mapM fun entry =>
        normalizeMessage crates entry.1 entry.2 (!loose)) = .ok read ↔
      ∃ later, ((more.zipIdx request.messages.length).mapM fun entry =>
        normalizeMessage crates entry.1 entry.2 (!loose)) = .ok later ∧ read = turns ++ later := by
    intro read
    rw [List.zipIdx_append, List.mapM_append, Nat.zero_add, turnsEq, Except.bind_eq_ok]
    constructor
    · rintro ⟨_, ⟨⟩, joined⟩
      obtain ⟨later, laterEq, same⟩ := Except.bind_eq_ok.mp joined
      cases same
      exact ⟨later, laterEq, rfl⟩
    · rintro ⟨later, laterEq, rfl⟩
      exact ⟨turns, rfl, Except.bind_eq_ok.mpr ⟨later, laterEq, rfl⟩⟩
  constructor
  · rintro ⟨system', read, history, names', choice', systemEq', readEq, historyEq, -, choiceEq', -,
      rfl⟩
    rw [systemEq] at systemEq'
    rw [choiceEq] at choiceEq'
    cases systemEq'
    cases choiceEq'
    obtain ⟨later, laterEq, rfl⟩ := split.mp readEq
    rw [← List.append_assoc] at historyEq
    exact ⟨later, history, laterEq, historyEq, by simp⟩
  · rintro ⟨later, history, laterEq, historyEq, rfl⟩
    rw [List.append_assoc] at historyEq
    exact ⟨system, turns ++ later, history, names, choice, systemEq, split.mpr ⟨later, laterEq, rfl⟩,
      historyEq, namesEq, choiceEq, choiceFits, by simp⟩

/-- The calls that stand in the messages of an accepted request. -/
theorem opens_of_normalize {loose : Bool} {normalized : NormalizedRequest}
    (accepted : normalize crates request loose = .ok normalized) :
    Mark.opens (normalized.messages.flatMap messageMarks) = request.messages.flatMap toolUseIds := by
  have placed := (toolHistory_of_normalize accepted).1
  obtain ⟨-, system, turns, _, _, _, systemEq, turnsEq, -, -, -, -, rfl⟩ :=
    normalize_eq_ok.mp accepted
  have ids : List.Forall₂ SameTurnIds request.messages turns := by
    apply Except.forall₂_of_zipIdx
    exact (Except.mapM_eq_ok.mp turnsEq).imp fun _ _ read => normalizeMessage_ids read
  have silent : system.flatMap (fun message => Mark.opens (messageMarks message)) = [] := by
    rw [List.flatMap_eq_nil_iff]
    intro message member
    have isSystem := normalizeSystem_role systemEq message member
    unfold messageMarks
    rw [Mark.opens_flatMap, List.flatMap_eq_nil_iff]
    intro block inside
    have inPlace := placed message (List.mem_append_left _ member) block inside
    rw [isSystem] at inPlace
    cases block with
    | text text => rfl
    | image mediaType data => rfl
    | toolUse id name input => cases inPlace.1
    | toolResult toolUseId content isError => rfl
  rw [Mark.opens_flatMap, List.flatMap_append, silent, List.nil_append]
  exact Except.flatMap_eq_of_forall₂ (fun _ _ same => same.uses) ids

end Extended

/-! ### The calls of the rounds -/

theorem calledIds_append (first second : List OutputBlock) :
    calledIds (first ++ second) = calledIds first ++ calledIds second :=
  List.filterMap_append

/-- What a round does to the ids. -/
theorem marks_of_turns (round : ReadRound) :
    round.turns.flatMap messageMarks =
      (calledIds round.content).map .opened ++
        (round.reply.results.map (·.toolUseId)).map .closed := by
  have opened : (round.content.map OutputBlock.toInput).flatMap blockMarks =
      (calledIds round.content).map .opened := by
    unfold calledIds
    induction round.content with
    | nil => rfl
    | cons block rest inductionHypothesis =>
        rw [List.map_cons, List.flatMap_cons, inductionHypothesis]
        cases block <;> rfl
  have answered : (round.reply.results.map CallResult.toInput).flatMap blockMarks =
      (round.reply.results.map (·.toolUseId)).map .closed := by
    induction round.reply.results with
    | nil => rfl
    | cons result rest inductionHypothesis =>
        rw [List.map_cons, List.flatMap_cons, inductionHypothesis]
        rfl
  have spoken : (round.reply.texts.map InputBlock.text).flatMap blockMarks = [] := by
    rw [List.flatMap_map]
    exact List.flatMap_eq_nil_iff.mpr fun _ _ => rfl
  simp [ReadRound.turns, messageMarks, ToolReply.blocks, opened, answered, spoken]

/-- Everything stands in its place but for calls without an id. -/
theorem placed_turns (round : ReadRound) :
    (∀ message ∈ round.turns, ∀ block ∈ message.blocks, Placed message.role block) ↔
      "" ∉ calledIds round.content := by
  have asked : (∀ block ∈ round.content.map OutputBlock.toInput,
      Placed .assistant block) ↔ "" ∉ calledIds round.content := by
    unfold calledIds
    induction round.content with
    | nil => simp
    | cons block rest inductionHypothesis =>
        rw [List.map_cons, List.forall_mem_cons, inductionHypothesis]
        cases block with
        | text written => simp [OutputBlock.toInput, Placed]
        | toolUse id name input => simp [OutputBlock.toInput, Placed, eq_comm]
  have answered : ∀ block ∈ round.reply.blocks, Placed .user block := by
    intro block member
    rcases List.mem_append.mp member with result | text
    · obtain ⟨given, -, rfl⟩ := List.mem_map.mp result
      rfl
    · obtain ⟨written, -, rfl⟩ := List.mem_map.mp text
      trivial
  unfold ReadRound.turns
  rw [List.forall_mem_cons, List.forall_mem_singleton, asked]
  exact and_iff_left answered

/-! ### When a request goes on -/

section Rounds

variable {crates : Crates} {request : AnthropicRequest} {loose : Bool}
  {normalized : NormalizedRequest} {rounds : List ReadRound}

theorem length_rounds (rounds : List ReadRound) :
    ((rounds.map ReadRound.round).flatMap Round.messages).length = 2 * rounds.length := by
  induction rounds with
  | nil => rfl
  | cons round rest inductionHypothesis =>
      rw [List.map_cons, List.flatMap_cons, List.length_append, inductionHypothesis,
        List.length_cons]
      simp only [Round.messages, List.length_cons, List.length_nil]
      omega

theorem marks_of_rounds (rounds : List ReadRound) :
    (rounds.flatMap ReadRound.turns).flatMap messageMarks =
      rounds.flatMap fun round =>
        (calledIds round.content).map .opened ++
          (round.reply.results.map (·.toolUseId)).map .closed := by
  rw [List.flatMap_assoc]
  congr 1
  funext round
  exact marks_of_turns round

/-- The history of the request is valid after the rounds exactly when their calls are named, and by
new names. -/
theorem history_extended (accepted : normalize crates request loose = .ok normalized)
    (proper : ∀ round ∈ rounds, round.Proper) :
    (∃ history, validateToolHistory (normalized.messages ++ rounds.flatMap ReadRound.turns) =
        .ok history) ↔
      (∀ round ∈ rounds, "" ∉ calledIds round.content) ∧
        (request.messages.flatMap toolUseIds ++
          rounds.flatMap fun round => calledIds round.content).Nodup := by
  obtain ⟨placedBefore, pairedBefore⟩ := toolHistory_of_normalize accepted
  have placed : (∀ message ∈ normalized.messages ++ rounds.flatMap ReadRound.turns,
      ∀ block ∈ message.blocks, Placed message.role block) ↔
        ∀ round ∈ rounds, "" ∉ calledIds round.content := by
    rw [List.forall_mem_append, and_iff_right placedBefore, List.forall_mem_flatMap]
    exact forall₂_congr fun round _ => placed_turns round
  have paired := paired_append_rounds
    (fun round member => (proper round member).followsUp.answers) pairedBefore
  rw [validateToolHistory_accepts_iff, placed, List.flatMap_append, marks_of_rounds, paired,
    opens_of_normalize accepted]

/-- A request with more rounds is accepted exactly when it is not too long, and each call of the rounds
can be sent back, has an id, and one that was not used before. -/
theorem rounds_accepted_iff (accepted : normalize crates request loose = .ok normalized)
    (proper : ∀ round ∈ rounds, round.Proper) :
    (∃ continued, normalize crates (dialogue request (rounds.map ReadRound.round)) loose =
        .ok continued) ↔
      request.messages.length + 2 * rounds.length ≤ 10000 ∧
        (∀ round ∈ rounds, ∀ block ∈ round.content, Returnable block) ∧
        (∀ round ∈ rounds, "" ∉ calledIds round.content) ∧
        (request.messages.flatMap toolUseIds ++
          rounds.flatMap fun round => calledIds round.content).Nodup := by
  unfold dialogue
  simp only [normalize_extended accepted, length_rounds, normalize_rounds proper]
  have history := history_extended accepted proper
  constructor
  · rintro ⟨_, short, turns, checked, ⟨returnable, rfl⟩, historyEq, -⟩
    exact ⟨short, returnable, history.mp ⟨checked, historyEq⟩⟩
  · rintro ⟨short, returnable, fresh⟩
    obtain ⟨checked, historyEq⟩ := history.mpr fresh
    exact ⟨_, short, _, checked, ⟨returnable, rfl⟩, historyEq, rfl⟩

end Rounds

end ClaudeProxy
