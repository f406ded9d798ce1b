/-
Module: ClaudeProxy.Proofs.Translation
Layer: Proofs
Purpose: Which requests reach a provider. What the normal form has placed and what the adaptation has
  fitted, the translation accepts, with one exception: an image in a message of the assistant.
Trusted boundary: none
Main exports: blockMarks, Placed, validateToolHistory_ok, Adapted, adaptRequest_messages,
  convertMessage_ok, convertMessage_error, buildRequest_accepts
-/
import ClaudeProxy.Anthropic.Normalize
import ClaudeProxy.Library.Pairing
import ClaudeProxy.Proofs.Adaptation
import ClaudeProxy.Proofs.Validation
import ClaudeProxy.Provider.Translate

namespace ClaudeProxy

open Library

/-! ### A valid tool history -/

/-- What a block does to the ids of tool calls. -/
def blockMarks : InputBlock → List (Mark String)
  | .text _ => []
  | .image _ _ => []
  | .toolUse id _ _ => [.opened id]
  | .toolResult toolUseId _ _ => [.closed toolUseId]

def messageMarks (message : NormalizedMessage) : List (Mark String) :=
  message.blocks.flatMap blockMarks

/-- Calls stand in messages of the assistant, results in messages of the user. -/
def Placed (role : MessageRole) : InputBlock → Prop
  | .text _ => True
  | .image _ _ => True
  | .toolUse id _ _ => role = .assistant ∧ id ≠ ""
  | .toolResult _ _ _ => role = .user

def ToolHistory.ledger (history : ToolHistory) : Ledger String :=
  { opened := history.calls, closed := history.results }

theorem visit_ok {role : MessageRole} {history next : ToolHistory} {block : InputBlock}
    (accepted : ToolHistory.visit role history block = .ok next) :
    Placed role block ∧
      (blockMarks block).foldlM Ledger.mark history.ledger = some next.ledger := by
  cases block with
  | text text =>
      cases accepted
      exact ⟨trivial, rfl⟩
  | image mediaType data =>
      cases accepted
      exact ⟨trivial, rfl⟩
  | toolUse id name input =>
      obtain ⟨_, checked, same⟩ := Except.bind_eq_ok.mp accepted
      cases same
      have fits := rejectIf_eq_ok.mp checked
      simp only [not_or, ne_eq, not_not] at fits
      obtain ⟨placed, named, new⟩ := fits
      refine ⟨⟨placed, named⟩, ?_⟩
      simp [blockMarks, Ledger.mark, ToolHistory.ledger, new]
  | toolResult toolUseId content isError =>
      obtain ⟨_, checked, same⟩ := Except.bind_eq_ok.mp accepted
      cases same
      have fits := rejectIf_eq_ok.mp checked
      simp only [not_or, ne_eq, not_not] at fits
      obtain ⟨placed, known, new⟩ := fits
      refine ⟨placed, ?_⟩
      simp [blockMarks, Ledger.mark, ToolHistory.ledger, known, new]

/-- In a valid history every block is in its place, and calls and results are paired. -/
theorem validateToolHistory_ok {messages : List NormalizedMessage} {history : ToolHistory}
    (accepted : validateToolHistory messages = .ok history) :
    (∀ message ∈ messages, ∀ block ∈ message.blocks, Placed message.role block) ∧
      Paired (messages.flatMap messageMarks) := by
  have step : ∀ (state : ToolHistory) (message : NormalizedMessage) (next : ToolHistory),
      state.visitMessage message = .ok next →
        (∀ block ∈ message.blocks, Placed message.role block) ∧
        (messageMarks message).foldlM Ledger.mark state.ledger = some next.ledger := by
    intro state message next visited
    exact Except.foldlM_simulates (fun _ _ _ seen => visit_ok seen) visited
  obtain ⟨placed, scanned⟩ := Except.foldlM_simulates step accepted
  exact ⟨placed, (scan_eq_some.mp scanned).1⟩

/-! ### An adapted request -/

/-- What the adaptation may do to a block: only a tool result changes, into a string. -/
inductive Adapted : InputBlock → InputBlock → Prop
  | text (text : String) : Adapted (.text text) (.text text)
  | image (mediaType : String) (data : ImageData) :
      Adapted (.image mediaType data) (.image mediaType data)
  | toolUse (id name : String) (input : Value) : Adapted (.toolUse id name input) (.toolUse id name input)
  | toolResult (toolUseId : String) (content : Value) (isError : Bool) (text : String) :
      Adapted (.toolResult toolUseId content isError) (.toolResult toolUseId (.string text) isError)

section Adaptation

variable {crates : Crates} {capabilities : CapabilityProfile}

theorem adapted_fittedBlock (block : InputBlock) : Adapted block (fittedBlock crates block) := by
  cases block with
  | text text => exact .text text
  | image mediaType data => exact .image mediaType data
  | toolUse id name input => exact .toolUse id name input
  | toolResult toolUseId content isError =>
      cases content with
      | string text => exact .toolResult toolUseId (.string text) isError text
      | null => exact .toolResult toolUseId .null isError (crates.toJson .null)
      | bool value => exact .toolResult toolUseId (.bool value) isError (crates.toJson (.bool value))
      | number value =>
          exact .toolResult toolUseId (.number value) isError (crates.toJson (.number value))
      | array items =>
          exact .toolResult toolUseId (.array items) isError (crates.toJson (.array items))
      | object entries =>
          exact .toolResult toolUseId (.object entries) isError (crates.toJson (.object entries))

/-- An adapted message keeps its role, and its blocks are adapted one by one. -/
def AdaptedMessage (message adapted : NormalizedMessage) : Prop :=
  adapted.role = message.role ∧ List.Forall₂ Adapted message.blocks adapted.blocks

/-- A message that is made to fit keeps its blocks, each in its adapted form. -/
theorem adapted_fittedMessage (message : NormalizedMessage) :
    AdaptedMessage message (fittedMessage crates message) := by
  refine ⟨rfl, ?_⟩
  unfold fittedMessage
  rw [List.forall₂_map_right_iff, List.forall₂_same]
  intro block _
  exact adapted_fittedBlock block

/-- An adapted request has the messages of the request, adapted one by one. -/
theorem adaptRequest_messages {request adapted : NormalizedRequest}
    (accepted : adaptRequest crates capabilities request = .ok adapted) :
    List.Forall₂ AdaptedMessage request.messages adapted.messages := by
  obtain ⟨-, rfl⟩ := adaptRequest_eq_ok.mp accepted
  unfold fittedRequest
  rw [List.forall₂_map_right_iff, List.forall₂_same]
  intro message _
  exact adapted_fittedMessage message

end Adaptation

/-- An adapted block is about the same tool. -/
theorem Adapted.marks {block adapted : InputBlock} (adaptedBlock : Adapted block adapted) :
    blockMarks adapted = blockMarks block := by
  cases adaptedBlock <;> rfl

/-- It may stand where it stood. -/
theorem Adapted.placed {role : MessageRole} {block adapted : InputBlock}
    (adaptedBlock : Adapted block adapted) (placed : Placed role block) : Placed role adapted := by
  cases adaptedBlock <;> exact placed

/-! ### A translated request -/

def InputBlock.isImage : InputBlock → Bool
  | .image _ _ => true
  | _ => false

theorem Adapted.isImage {block adapted : InputBlock} (adaptedBlock : Adapted block adapted) :
    adapted.isImage = block.isImage := by
  cases adaptedBlock <;> rfl

/-- A message of the assistant that has an image. -/
def ShowsImage (message : NormalizedMessage) : Prop :=
  message.role = .assistant ∧ ∃ block ∈ message.blocks, block.isImage = true

/-- The only error of the translation. -/
def assistantOnly : ProxyError :=
  .invalid "assistant messages may contain only text and tool_use blocks"

/-- A message whose blocks are in their places and whose tool results are strings. -/
def Translatable (message : NormalizedMessage) : Prop :=
  ∀ block ∈ message.blocks, Placed message.role block ∧ ∃ original, Adapted original block

section Translation

variable {crates : Crates}

/-- What may stand in a user's message is translated. -/
theorem userParts_add {role : MessageRole} (notAssistant : role ≠ .assistant)
    {block original : InputBlock} (placed : Placed role block) (adapted : Adapted original block)
    (parts : UserParts) : ∃ next, parts.add block = .ok next := by
  cases adapted with
  | text text => exact ⟨_, rfl⟩
  | image mediaType data => exact ⟨_, rfl⟩
  | toolUse id name input => exact absurd placed.1 notAssistant
  | toolResult toolUseId content isError text => exact ⟨_, rfl⟩

/-- So is what may stand in an assistant's, but for an image. -/
theorem assistantParts_add {block : InputBlock} (placed : Placed .assistant block)
    (parts : AssistantParts) :
    (∃ next, parts.add crates block = .ok next) ∨ parts.add crates block = .error assistantOnly := by
  cases block with
  | text text => exact .inl ⟨_, rfl⟩
  | image mediaType data => exact .inr rfl
  | toolUse id name input => exact .inl ⟨_, rfl⟩
  | toolResult toolUseId content isError => cases placed

/-- An image there is an error. -/
theorem assistantParts_add_image {block : InputBlock} (image : block.isImage = true)
    (parts : AssistantParts) : parts.add crates block = .error assistantOnly := by
  cases block with
  | image mediaType data => rfl
  | text => cases image
  | toolUse => cases image
  | toolResult => cases image

theorem assistantParts_add_other {block : InputBlock} (placed : Placed .assistant block)
    (notImage : block.isImage = false) (parts : AssistantParts) :
    ∃ next, parts.add crates block = .ok next := by
  cases block with
  | text text => exact ⟨_, rfl⟩
  | image mediaType data => cases notImage
  | toolUse id name input => exact ⟨_, rfl⟩
  | toolResult toolUseId content isError => cases placed

/-- A message without an assistant's image is translated. -/
theorem convertMessage_ok {message : NormalizedMessage} (translatable : Translatable message)
    (noImage : ¬ ShowsImage message) : ∃ segment, convertMessage crates message = .ok segment := by
  obtain ⟨role, blocks⟩ := message
  have userParts (notAssistant : role ≠ .assistant) :
      ∃ parts, blocks.foldlM UserParts.add {} = .ok parts := by
    apply Except.exists_foldlM_eq_ok
    intro block member
    obtain ⟨placed, original, adapted⟩ := translatable block member
    exact userParts_add notAssistant placed adapted
  cases role with
  | system =>
      obtain ⟨parts, partsEq⟩ := userParts (by simp)
      exact ⟨_, Except.bind_eq_ok.mpr ⟨parts, partsEq, rfl⟩⟩
  | user =>
      obtain ⟨parts, partsEq⟩ := userParts (by simp)
      exact ⟨_, Except.bind_eq_ok.mpr ⟨parts, partsEq, rfl⟩⟩
  | assistant =>
      have assistantParts : ∃ parts, blocks.foldlM (AssistantParts.add crates) {} = .ok parts := by
        apply Except.exists_foldlM_eq_ok
        intro block member
        apply assistantParts_add_other (translatable block member).1
        by_contra image
        exact noImage ⟨rfl, block, member, by simpa using image⟩
      obtain ⟨parts, partsEq⟩ := assistantParts
      exact ⟨_, Except.bind_eq_ok.mpr ⟨parts, partsEq, rfl⟩⟩

/-- One with such an image is not. -/
theorem convertMessage_error {message : NormalizedMessage} (translatable : Translatable message)
    (image : ShowsImage message) : convertMessage crates message = .error assistantOnly := by
  obtain ⟨role, blocks⟩ := message
  obtain ⟨rfl, block, member, isImage⟩ := image
  have failed : blocks.foldlM (AssistantParts.add crates) {} = .error assistantOnly := by
    apply Except.foldlM_eq_error
    · intro other otherMember
      exact assistantParts_add (translatable other otherMember).1
    · exact ⟨block, member, assistantParts_add_image isImage⟩
  unfold convertMessage
  dsimp only
  rw [failed]
  rfl

/-- An accepted request has a valid tool history. -/
theorem toolHistory_of_normalize {request : AnthropicRequest} {loose : Bool}
    {normalized : NormalizedRequest} (accepted : normalize crates request loose = .ok normalized) :
    (∀ message ∈ normalized.messages, ∀ block ∈ message.blocks, Placed message.role block) ∧
      Paired (normalized.messages.flatMap messageMarks) := by
  obtain ⟨-, system, turns, history, -, -, -, -, historyEq, -, -, -, rfl⟩ :=
    normalize_eq_ok.mp accepted
  exact validateToolHistory_ok historyEq

/-- What `normalize` and `adapt_request` have accepted is translatable. -/
theorem translatable_of_accepted {capabilities : CapabilityProfile} {request : AnthropicRequest}
    {loose : Bool} {normalized adapted : NormalizedRequest}
    (accepted : normalize crates request loose = .ok normalized)
    (fits : adaptRequest crates capabilities normalized = .ok adapted) :
    ∀ message ∈ adapted.messages, Translatable message := by
  have placed := (toolHistory_of_normalize accepted).1
  intro message member block blockMember
  obtain ⟨original, originalMember, sameRole, blocks⟩ :=
    Except.exists_of_mem_right (adaptRequest_messages fits) member
  obtain ⟨before, beforeMember, adaptedBlock⟩ := Except.exists_of_mem_right blocks blockMember
  have inPlace := adaptedBlock.placed (placed original originalMember before beforeMember)
  rw [sameRole]
  exact ⟨inPlace, before, adaptedBlock⟩

/-- Adaptation neither adds nor removes images. -/
theorem showsImage_adapted {message adapted : NormalizedMessage}
    (adaptedMessage : AdaptedMessage message adapted) : ShowsImage adapted ↔ ShowsImage message := by
  obtain ⟨sameRole, blocks⟩ := adaptedMessage
  unfold ShowsImage
  rw [sameRole]
  apply and_congr_right
  intro
  constructor
  · rintro ⟨block, member, image⟩
    obtain ⟨original, originalMember, adaptedBlock⟩ := Except.exists_of_mem_right blocks member
    exact ⟨original, originalMember, adaptedBlock.isImage.symm.trans image⟩
  · rintro ⟨block, member, image⟩
    obtain ⟨changed, changedMember, adaptedBlock⟩ := Except.exists_of_mem_left blocks member
    exact ⟨changed, changedMember, adaptedBlock.isImage.trans image⟩

/-- The translation accepts an accepted and adapted request exactly when no message of the assistant
shows an image, and else rejects it with its only error. -/
theorem buildRequest_accepts {capabilities : CapabilityProfile} {request : AnthropicRequest}
    {loose : Bool} {normalized adapted : NormalizedRequest}
    (accepted : normalize crates request loose = .ok normalized)
    (fits : adaptRequest crates capabilities normalized = .ok adapted) (model : String)
    (stream : Bool) :
    ((∀ message ∈ normalized.messages, ¬ ShowsImage message) →
      ∃ body, buildRequest crates capabilities adapted model stream = .ok body) ∧
    ((∃ message ∈ normalized.messages, ShowsImage message) →
      buildRequest crates capabilities adapted model stream = .error assistantOnly) := by
  have translatable := translatable_of_accepted accepted fits
  have adaptedMessages := adaptRequest_messages fits
  constructor
  · intro noImages
    have each : ∀ message ∈ adapted.messages,
        ∃ segment, convertMessage crates message = .ok segment := by
      intro message member
      obtain ⟨original, originalMember, same⟩ := Except.exists_of_mem_right adaptedMessages member
      apply convertMessage_ok (translatable message member)
      rw [showsImage_adapted same]
      exact noImages original originalMember
    obtain ⟨segments, segmentsEq⟩ := Except.exists_mapM_eq_ok.mpr each
    exact ⟨_, Except.bind_eq_ok.mpr
      ⟨segments.flatten, Except.bind_eq_ok.mpr ⟨segments, segmentsEq, rfl⟩, rfl⟩⟩
  · rintro ⟨original, originalMember, shows⟩
    obtain ⟨message, member, same⟩ := Except.exists_of_mem_left adaptedMessages originalMember
    have failed : adapted.messages.mapM (convertMessage crates) = .error assistantOnly := by
      apply Except.mapM_eq_error
      · intro other otherMember
        by_cases image : ShowsImage other
        · exact .inr (convertMessage_error (translatable other otherMember) image)
        · exact .inl (convertMessage_ok (translatable other otherMember) image)
      · exact ⟨message, member, convertMessage_error (translatable message member)
          ((showsImage_adapted same).mpr shows)⟩
    unfold buildRequest convertMessages
    rw [failed]
    rfl

end Translation

/-! ### Samples -/

/-- The one URL of the samples is well formed. -/
def pictureCrates : Crates where
  fromStr _ := .error "not called"
  toJson _ := "\x7b\x7d"
  base64Decode _ := none
  urlParse url :=
    if url = "https://pictures/1" then .ok { scheme := "https", username := "", password := none }
    else .error "not called"

def pictureBlock : Value :=
  .obj [("type", .string "image"),
    ("source", .obj [("type", .string "url"), ("url", .string "https://pictures/1")])]

/-- A picture, shown by a given role. -/
def pictureRequest (role : String) : AnthropicRequest where
  model := "m"
  maxTokens := 1
  messages := [{ role := role, content := .array [pictureBlock] }]

/-- Its normal form. -/
def pictureNormalized (role : MessageRole) : NormalizedRequest where
  originalModel := "m"
  maxTokens := 1
  messages := [
    { role := role
      blocks := [.image "application/octet-stream" (.url "https://pictures/1")] }]
  temperature := none
  topP := none
  stopSequences := []
  tools := []
  toolChoice := none
  stream := false

/-- A user's picture is translated, and an assistant's is not. -/
theorem buildRequest_accepts_picture :
    ((∀ message ∈ (pictureNormalized .user).messages, ¬ ShowsImage message) →
      ∃ body, buildRequest pictureCrates {} (pictureNormalized .user) "m" false = .ok body) ∧
    ((∃ message ∈ (pictureNormalized .user).messages, ShowsImage message) →
      buildRequest pictureCrates {} (pictureNormalized .user) "m" false = .error assistantOnly) :=
  @buildRequest_accepts pictureCrates {} (pictureRequest "user") false (pictureNormalized .user)
    (pictureNormalized .user) rfl rfl "m" false

/-- A picture in a message of the assistant is normalized and fits every target that sees, but is not
translated. -/
theorem buildRequest_rejects_picture :
    normalize pictureCrates (pictureRequest "assistant") false =
        .ok (pictureNormalized .assistant) ∧
      adaptRequest pictureCrates {} (pictureNormalized .assistant) =
        .ok (pictureNormalized .assistant) ∧
      buildRequest pictureCrates {} (pictureNormalized .assistant) "m" false =
        .error assistantOnly :=
  ⟨rfl, rfl, rfl⟩

end ClaudeProxy
