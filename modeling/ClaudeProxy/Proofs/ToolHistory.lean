/-
Module: ClaudeProxy.Proofs.ToolHistory
Layer: Proofs
Purpose: What `validate_tool_history` decides. The two sets that it fills while it goes through the
  messages are a ledger of the marks of the blocks, so that it accepts exactly the histories in which,
  position by position, calls are new and results answer an earlier call for the first time.
Trusted boundary: none
Main exports: orderedBlocks, CallAt, ResultAt, ValidHistory, visit_complete,
  validateToolHistory_accepts_iff, validateToolHistory_exact
-/
import ClaudeProxy.Proofs.Translation

namespace ClaudeProxy

open Library

/-! ### Valid histories -/

/-- All blocks in order, each with the role of its message. -/
def orderedBlocks (messages : List NormalizedMessage) : List (MessageRole × InputBlock) :=
  messages.flatMap fun message => message.blocks.map fun block => (message.role, block)

/-- A `tool_use` block stands at a position. -/
def CallAt (blocks : List (MessageRole × InputBlock)) (position : Nat) (role : MessageRole)
    (id : String) : Prop :=
  ∃ name input, blocks[position]? = some (role, .toolUse id name input)

/-- A `tool_result` block stands at a position. -/
def ResultAt (blocks : List (MessageRole × InputBlock)) (position : Nat) (role : MessageRole)
    (id : String) : Prop :=
  ∃ content isError, blocks[position]? = some (role, .toolResult id content isError)

/-- A history of tool calls as the provider needs it. -/
structure ValidHistory (blocks : List (MessageRole × InputBlock)) : Prop where
  call : ∀ position role id, CallAt blocks position role id →
    role = .assistant ∧ id ≠ "" ∧
      ∀ other otherRole, CallAt blocks other otherRole id → other = position
  result : ∀ position role id, ResultAt blocks position role id →
    role = .user ∧ (∃ earlier < position, ∃ callRole, CallAt blocks earlier callRole id) ∧
      ∀ other otherRole, ResultAt blocks other otherRole id → other = position

/-! ### The marks of the blocks -/

/-- What a block does to the ids of tool calls, if anything. -/
def blockMark (entry : MessageRole × InputBlock) : Option (Mark String) :=
  match entry.2 with
  | .text _ => none
  | .image _ _ => none
  | .toolUse id _ _ => some (.opened id)
  | .toolResult toolUseId _ _ => some (.closed toolUseId)

theorem blockMarks_eq (role : MessageRole) (block : InputBlock) :
    blockMarks block = (blockMark (role, block)).toList := by
  cases block <;> rfl

theorem messageMarks_eq (message : NormalizedMessage) :
    messageMarks message =
      (message.blocks.map fun block => (message.role, block)).filterMap blockMark := by
  unfold messageMarks
  induction message.blocks with
  | nil => rfl
  | cons block rest inductionHypothesis =>
      rw [List.flatMap_cons, inductionHypothesis, blockMarks_eq message.role, List.map_cons,
        List.filterMap_cons]
      cases blockMark (message.role, block) <;> rfl

theorem flatMap_messageMarks (messages : List NormalizedMessage) :
    messages.flatMap messageMarks = (orderedBlocks messages).filterMap blockMark := by
  induction messages with
  | nil => rfl
  | cons message rest inductionHypothesis =>
      unfold orderedBlocks at *
      rw [List.flatMap_cons, List.flatMap_cons, List.filterMap_append, inductionHypothesis,
        messageMarks_eq]

theorem callAt_iff {blocks : List (MessageRole × InputBlock)} {position : Nat} {id : String} :
    MarkAt blockMark blocks position (.opened id) ↔ ∃ role, CallAt blocks position role id := by
  unfold MarkAt CallAt
  rw [Option.bind_eq_some_iff]
  constructor
  · rintro ⟨⟨role, block⟩, held, marked⟩
    cases block with
    | toolUse other name input =>
        cases marked
        exact ⟨role, name, input, held⟩
    | text => cases marked
    | image => cases marked
    | toolResult => cases marked
  · rintro ⟨role, name, input, held⟩
    exact ⟨_, held, rfl⟩

theorem resultAt_iff {blocks : List (MessageRole × InputBlock)} {position : Nat} {id : String} :
    MarkAt blockMark blocks position (.closed id) ↔ ∃ role, ResultAt blocks position role id := by
  unfold MarkAt ResultAt
  rw [Option.bind_eq_some_iff]
  constructor
  · rintro ⟨⟨role, block⟩, held, marked⟩
    cases block with
    | toolResult other content isError =>
        cases marked
        exact ⟨role, content, isError, held⟩
    | text => cases marked
    | image => cases marked
    | toolUse => cases marked
  · rintro ⟨role, content, isError, held⟩
    exact ⟨_, held, rfl⟩

/-! ### What the check accepts -/

/-- A block in its place is accepted when its marks fit what has been met. -/
theorem visit_complete {role : MessageRole} {history : ToolHistory} {block : InputBlock}
    {ledger : Ledger String} (placed : Placed role block)
    (fits : (blockMarks block).foldlM Ledger.mark history.ledger = some ledger) :
    ∃ next, ToolHistory.visit role history block = .ok next ∧ next.ledger = ledger := by
  cases block with
  | text text =>
      cases fits
      exact ⟨history, rfl, rfl⟩
  | image mediaType data =>
      cases fits
      exact ⟨history, rfl, rfl⟩
  | toolUse id name input =>
      obtain ⟨isAssistant, named⟩ := placed
      by_cases known : id ∈ history.calls
      · simp [blockMarks, Ledger.mark, ToolHistory.ledger, known] at fits
      · have same : { opened := id :: history.calls, closed := history.results } = ledger := by
          simpa [blockMarks, Ledger.mark, ToolHistory.ledger, known] using fits
        have passes : ¬ (role ≠ .assistant ∨ id = "" ∨ id ∈ history.calls) := by
          simp [isAssistant, named, known]
        refine ⟨{ history with calls := id :: history.calls }, ?_, same⟩
        simp only [ToolHistory.visit, rejectIf, if_neg passes]
        rfl
  | toolResult toolUseId content isError =>
      by_cases refused : toolUseId ∉ history.calls ∨ toolUseId ∈ history.results
      · simp [blockMarks, Ledger.mark, ToolHistory.ledger, refused] at fits
      · have same : { opened := history.calls, closed := toolUseId :: history.results } = ledger := by
          simpa [blockMarks, Ledger.mark, ToolHistory.ledger, refused] using fits
        have passes : ¬ (role ≠ .user ∨ toolUseId ∉ history.calls ∨ toolUseId ∈ history.results) := by
          rw [not_or]
          exact ⟨not_not.mpr placed, refused⟩
        refine ⟨{ history with results := toolUseId :: history.results }, ?_, same⟩
        simp only [ToolHistory.visit, rejectIf, if_neg passes]
        rfl

/-- A history is accepted exactly when its blocks are in their places and their marks are paired. -/
theorem validateToolHistory_accepts_iff (messages : List NormalizedMessage) :
    (∃ history, validateToolHistory messages = .ok history) ↔
      (∀ message ∈ messages, ∀ block ∈ message.blocks, Placed message.role block) ∧
        Paired (messages.flatMap messageMarks) := by
  constructor
  · rintro ⟨history, accepted⟩
    exact validateToolHistory_ok accepted
  · rintro ⟨placed, paired⟩
    have step : ∀ (state : ToolHistory) (message : NormalizedMessage) (viewed : Ledger String),
        (∀ block ∈ message.blocks, Placed message.role block) →
          (messageMarks message).foldlM Ledger.mark state.ledger = some viewed →
            ∃ next, state.visitMessage message = .ok next ∧ next.ledger = viewed := by
      intro state message viewed placedHere fits
      have each : ∀ (history : ToolHistory) (block : InputBlock) (ledger : Ledger String),
          Placed message.role block →
            (blockMarks block).foldlM Ledger.mark history.ledger = some ledger →
              ∃ next, ToolHistory.visit message.role history block = .ok next ∧
                next.ledger = ledger :=
        fun _ _ _ here marks => visit_complete here marks
      exact Except.foldlM_simulated each placedHere fits
    have scanned : (messages.flatMap messageMarks).foldlM Ledger.mark (ToolHistory.ledger {}) =
        some (Ledger.of (messages.flatMap messageMarks)) := scan_eq_some.mpr ⟨paired, rfl⟩
    obtain ⟨history, accepted, -⟩ := Except.foldlM_simulated step placed scanned
    exact ⟨history, accepted⟩

theorem mem_orderedBlocks {messages : List NormalizedMessage} {role : MessageRole}
    {block : InputBlock} :
    (role, block) ∈ orderedBlocks messages ↔
      ∃ message ∈ messages, message.role = role ∧ block ∈ message.blocks := by
  simp only [orderedBlocks, List.mem_flatMap, List.mem_map, Prod.mk.injEq]
  constructor
  · rintro ⟨message, member, _, inside, rfl, rfl⟩
    exact ⟨message, member, rfl, inside⟩
  · rintro ⟨message, member, rfl, inside⟩
    exact ⟨message, member, block, inside, rfl, rfl⟩

/-- Blocks are in their places when those at each position are. -/
theorem placed_iff (messages : List NormalizedMessage) :
    (∀ message ∈ messages, ∀ block ∈ message.blocks, Placed message.role block) ↔
      (∀ position role id, CallAt (orderedBlocks messages) position role id →
          role = .assistant ∧ id ≠ "") ∧
        ∀ position role id, ResultAt (orderedBlocks messages) position role id → role = .user := by
  constructor
  · intro placed
    constructor
    · rintro position role id ⟨name, input, held⟩
      obtain ⟨message, member, rfl, inside⟩ := mem_orderedBlocks.mp (List.mem_of_getElem? held)
      exact placed message member _ inside
    · rintro position role id ⟨content, isError, held⟩
      obtain ⟨message, member, rfl, inside⟩ := mem_orderedBlocks.mp (List.mem_of_getElem? held)
      exact placed message member _ inside
  · rintro ⟨calls, results⟩ message member block inside
    obtain ⟨position, held⟩ :=
      List.mem_iff_getElem?.mp (mem_orderedBlocks.mpr ⟨message, member, rfl, inside⟩)
    cases block with
    | text text => trivial
    | image mediaType data => trivial
    | toolUse id name input => exact calls position message.role id ⟨name, input, held⟩
    | toolResult toolUseId content isError =>
        exact results position message.role toolUseId ⟨content, isError, held⟩

/-- The check accepts exactly the valid histories. -/
theorem validateToolHistory_exact (messages : List NormalizedMessage) :
    (∃ history, validateToolHistory messages = .ok history) ↔
      ValidHistory (orderedBlocks messages) := by
  rw [validateToolHistory_accepts_iff, placed_iff, flatMap_messageMarks, paired_filterMap_iff]
  simp only [callAt_iff, resultAt_iff]
  constructor
  · rintro ⟨⟨calls, results⟩, callOnce, resultOnce, callFirst⟩
    constructor
    · intro position role id here
      obtain ⟨isAssistant, named⟩ := calls position role id here
      refine ⟨isAssistant, named, ?_⟩
      intro other otherRole there
      exact callOnce other position id ⟨otherRole, there⟩ ⟨role, here⟩
    · intro position role id here
      refine ⟨results position role id here, callFirst position id ⟨role, here⟩, ?_⟩
      intro other otherRole there
      exact resultOnce other position id ⟨otherRole, there⟩ ⟨role, here⟩
  · intro valid
    refine ⟨⟨?_, ?_⟩, ?_, ?_, ?_⟩
    · intro position role id here
      exact ⟨(valid.call position role id here).1, (valid.call position role id here).2.1⟩
    · intro position role id here
      exact (valid.result position role id here).1
    · rintro first second id ⟨firstRole, here⟩ ⟨secondRole, there⟩
      exact (valid.call second secondRole id there).2.2 first firstRole here
    · rintro first second id ⟨firstRole, here⟩ ⟨secondRole, there⟩
      exact (valid.result second secondRole id there).2.2 first firstRole here
    · rintro position id ⟨role, here⟩
      exact (valid.result position role id here).2.1

end ClaudeProxy
