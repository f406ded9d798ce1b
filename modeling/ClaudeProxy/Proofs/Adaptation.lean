/-
Module: ClaudeProxy.Proofs.Adaptation
Layer: Proofs
Purpose: What `adapt_request` comes to. The source goes through the features one after the other; here
  are the requests that it accepts, and the one request that it makes of each.
Trusted boundary: none
Main exports: FitsBlock, Fits, fittedBlock, fittedRequest, adaptRequest_eq_ok, adaptRequest_again
-/
import ClaudeProxy.Library.Outcome
import ClaudeProxy.Provider.Adapt

namespace ClaudeProxy

open Library

/-! ### What a profile accepts -/

def FitsBlock (capabilities : CapabilityProfile) : InputBlock → Prop
  | .image _ _ => capabilities.vision = true
  | .toolResult _ content _ =>
      content.isString = false → capabilities.allowStructuredToolResultsToString = true
  | _ => True

/-- Every feature of the request is one that the target has, or one with a fallback that the profile
allows. -/
structure Fits (capabilities : CapabilityProfile) (request : NormalizedRequest) : Prop where
  maxTokens : capabilities.maxOutputTokens < request.maxTokens →
    capabilities.allowMaxTokensClamping = true
  temperature : request.temperature.isSome = true ∧ capabilities.supportsTemperature = false →
    capabilities.allowTemperatureFallback = true
  topP : request.topP.isSome = true ∧ capabilities.supportsTopP = false →
    capabilities.allowTopPFallback = true
  stop : request.stopSequences ≠ [] ∧ capabilities.supportsStop = false →
    capabilities.allowStopFallback = true
  tools : request.tools ≠ [] → capabilities.tools = true
  toolChoice : request.toolChoice.any ToolChoice.allowsParallel = true ∧
    capabilities.parallelTools = false → capabilities.allowParallelToolFallback = true
  blocks : ∀ message ∈ request.messages, ∀ block ∈ message.blocks, FitsBlock capabilities block

/-! ### What becomes of a request -/

def fittedBlock (crates : Crates) : InputBlock → InputBlock
  | .toolResult toolUseId content isError =>
      .toolResult toolUseId
        (if content.isString = false then .string (crates.toJson content) else content) isError
  | block => block

def fittedMessage (crates : Crates) (message : NormalizedMessage) : NormalizedMessage :=
  { message with blocks := message.blocks.map (fittedBlock crates) }

def fittedChoice (capabilities : CapabilityProfile) (choice : Option ToolChoice) :
    Option ToolChoice :=
  if capabilities.parallelTools = false then choice.map ToolChoice.withoutParallel else choice

/-- The request without the features that the target lacks. -/
def fittedRequest (crates : Crates) (capabilities : CapabilityProfile)
    (request : NormalizedRequest) : NormalizedRequest where
  originalModel := request.originalModel
  maxTokens := min request.maxTokens capabilities.maxOutputTokens
  messages := request.messages.map (fittedMessage crates)
  temperature := if capabilities.supportsTemperature = false then none else request.temperature
  topP := if capabilities.supportsTopP = false then none else request.topP
  stopSequences := if capabilities.supportsStop = false then [] else request.stopSequences
  tools := request.tools
  toolChoice := fittedChoice capabilities request.toolChoice
  stream := request.stream

/-! ### Each feature -/

/-- A feature that is lacking is adapted if the profile allows it, and everything else stays. -/
theorem fallback_ok_iff {α : Type} {lacking allowed : Prop} [Decidable lacking] [Decidable allowed]
    {adapted unchanged result : α} {message : String} :
    fallback lacking allowed adapted message unchanged = .ok result ↔
      (lacking → allowed) ∧ result = if lacking then adapted else unchanged := by
  unfold fallback
  by_cases lacks : lacking
  · by_cases allows : allowed
    · simp [lacks, allows, eq_comm]
    · simp [lacks, allows]
  · simp [lacks, eq_comm]

section Features

variable {crates : Crates} {capabilities : CapabilityProfile} {request result : NormalizedRequest}

theorem adaptMaxTokens_eq_ok : adaptMaxTokens capabilities request = .ok result ↔
    (capabilities.maxOutputTokens < request.maxTokens →
      capabilities.allowMaxTokensClamping = true) ∧
    result = { request with maxTokens := min request.maxTokens capabilities.maxOutputTokens } := by
  unfold adaptMaxTokens
  rw [fallback_ok_iff]
  apply and_congr_right
  intro _
  split
  · rename_i above
    rw [Nat.min_eq_right (Nat.le_of_lt above)]
  · rename_i within
    rw [Nat.min_eq_left (Nat.le_of_not_lt within)]

theorem adaptTemperature_eq_ok : adaptTemperature capabilities request = .ok result ↔
    (request.temperature.isSome = true ∧ capabilities.supportsTemperature = false →
      capabilities.allowTemperatureFallback = true) ∧
    result = { request with
      temperature := if capabilities.supportsTemperature = false then none
        else request.temperature } := by
  unfold adaptTemperature
  rw [fallback_ok_iff]
  cases supports : capabilities.supportsTemperature with
  | true => simp
  | false =>
      obtain ⟨_, _, _, temperature, _, _, _, _, _⟩ := request
      cases temperature <;> simp

theorem adaptTopP_eq_ok : adaptTopP capabilities request = .ok result ↔
    (request.topP.isSome = true ∧ capabilities.supportsTopP = false →
      capabilities.allowTopPFallback = true) ∧
    result = { request with
      topP := if capabilities.supportsTopP = false then none else request.topP } := by
  unfold adaptTopP
  rw [fallback_ok_iff]
  cases supports : capabilities.supportsTopP with
  | true => simp
  | false =>
      obtain ⟨_, _, _, _, topP, _, _, _, _⟩ := request
      cases topP <;> simp

theorem adaptStop_eq_ok : adaptStop capabilities request = .ok result ↔
    (request.stopSequences ≠ [] ∧ capabilities.supportsStop = false →
      capabilities.allowStopFallback = true) ∧
    result = { request with
      stopSequences := if capabilities.supportsStop = false then []
        else request.stopSequences } := by
  unfold adaptStop
  rw [fallback_ok_iff]
  cases supports : capabilities.supportsStop with
  | true => simp
  | false =>
      obtain ⟨_, _, _, _, _, stopSequences, _, _, _⟩ := request
      cases stopSequences <;> simp

/-- A choice that forbids parallel calls has nothing to be forbidden. -/
theorem ToolChoice.withoutParallel_of_not_allowed {choice : ToolChoice}
    (closed : choice.allowsParallel = false) : choice.withoutParallel = choice := by
  cases choice with
  | none => rfl
  | auto disableParallel => cases disableParallel <;> trivial
  | any disableParallel => cases disableParallel <;> trivial
  | tool name disableParallel => cases disableParallel <;> trivial

/-- After the adaptation it forbids them. -/
theorem ToolChoice.allowsParallel_withoutParallel (choice : ToolChoice) :
    choice.withoutParallel.allowsParallel = false := by
  cases choice <;> rfl

theorem adaptToolChoice_eq_ok : adaptToolChoice capabilities request = .ok result ↔
    (request.toolChoice.any ToolChoice.allowsParallel = true ∧
      capabilities.parallelTools = false → capabilities.allowParallelToolFallback = true) ∧
    result = { request with toolChoice := fittedChoice capabilities request.toolChoice } := by
  unfold adaptToolChoice fittedChoice
  rw [fallback_ok_iff]
  cases supports : capabilities.parallelTools with
  | true => simp
  | false =>
      obtain ⟨_, _, _, _, _, _, _, toolChoice, _⟩ := request
      cases toolChoice with
      | none => simp
      | some choice =>
          cases allows : choice.allowsParallel with
          | true => simp [allows]
          | false => simp [allows, ToolChoice.withoutParallel_of_not_allowed allows]

/-- A block is adapted exactly if it fits, and to one form. -/
theorem adaptBlock_eq_ok {block adapted : InputBlock} :
    adaptBlock crates capabilities block = .ok adapted ↔
      FitsBlock capabilities block ∧ adapted = fittedBlock crates block := by
  cases block with
  | text text => simp [adaptBlock, FitsBlock, fittedBlock, eq_comm]
  | image mediaType data =>
      unfold adaptBlock FitsBlock fittedBlock
      dsimp only
      simp only [Except.bind_eq_ok, rejectIf_eq_ok]
      constructor
      · rintro ⟨_, sees, same⟩
        cases same
        exact ⟨by simpa using sees, rfl⟩
      · rintro ⟨sees, rfl⟩
        exact ⟨(), by simpa using sees, rfl⟩
  | toolUse id name input => simp [adaptBlock, FitsBlock, fittedBlock, eq_comm]
  | toolResult toolUseId content isError =>
      unfold adaptBlock FitsBlock fittedBlock
      dsimp only
      rw [fallback_ok_iff]
      apply and_congr_right
      intro _
      cases content.isString <;> simp

theorem mapM_fitted {α : Type} {adapt : α → Except ProxyError α} {fits : α → Prop} {fitted : α → α}
    (each : ∀ item adapted, adapt item = .ok adapted ↔ fits item ∧ adapted = fitted item)
    {items results : List α} :
    items.mapM adapt = .ok results ↔ (∀ item ∈ items, fits item) ∧ results = items.map fitted := by
  rw [Except.mapM_eq_ok]
  induction items generalizing results with
  | nil => simp
  | cons item rest inductionHypothesis =>
      rw [List.forall₂_cons_left_iff, List.forall_mem_cons, List.map_cons]
      constructor
      · rintro ⟨head, tail, here, later, rfl⟩
        obtain ⟨fitsHere, rfl⟩ := (each item head).mp here
        obtain ⟨fitsLater, rfl⟩ := inductionHypothesis.mp later
        exact ⟨⟨fitsHere, fitsLater⟩, rfl⟩
      · rintro ⟨⟨fitsHere, fitsLater⟩, rfl⟩
        exact ⟨_, _, (each item _).mpr ⟨fitsHere, rfl⟩, inductionHypothesis.mpr ⟨fitsLater, rfl⟩, rfl⟩

/-- So is a message. -/
theorem adaptMessage_eq_ok (message adapted : NormalizedMessage) :
    adaptMessage crates capabilities message = .ok adapted ↔
      (∀ block ∈ message.blocks, FitsBlock capabilities block) ∧
        adapted = fittedMessage crates message := by
  unfold adaptMessage fittedMessage
  rw [Except.bind_eq_ok]
  constructor
  · rintro ⟨blocks, blocksEq, same⟩
    obtain ⟨fits, rfl⟩ := (mapM_fitted fun _ _ => adaptBlock_eq_ok).mp blocksEq
    cases same
    exact ⟨fits, rfl⟩
  · rintro ⟨fits, rfl⟩
    exact ⟨_, (mapM_fitted fun _ _ => adaptBlock_eq_ok).mpr ⟨fits, rfl⟩, rfl⟩

/-! ### The request -/

/-- A request is accepted exactly if it fits, and one request is made of it. -/
theorem adaptRequest_eq_ok : adaptRequest crates capabilities request = .ok result ↔
    Fits capabilities request ∧ result = fittedRequest crates capabilities request := by
  unfold adaptRequest
  simp only [Except.bind_eq_ok, adaptMaxTokens_eq_ok, adaptTemperature_eq_ok, adaptTopP_eq_ok,
    adaptStop_eq_ok, rejectIf_eq_ok, adaptToolChoice_eq_ok]
  constructor
  · rintro ⟨_, ⟨maxTokens, rfl⟩, _, ⟨temperature, rfl⟩, _, ⟨topP, rfl⟩, _, ⟨stop, rfl⟩, _, tools, _,
      ⟨toolChoice, rfl⟩, messages, messagesEq, same⟩
    obtain ⟨blocks, rfl⟩ := (mapM_fitted adaptMessage_eq_ok).mp messagesEq
    cases same
    refine ⟨⟨maxTokens, temperature, topP, stop, ?_, toolChoice, blocks⟩, rfl⟩
    intro present
    simpa [present] using tools
  · rintro ⟨fits, rfl⟩
    refine ⟨_, ⟨fits.maxTokens, rfl⟩, _, ⟨fits.temperature, rfl⟩, _, ⟨fits.topP, rfl⟩, _,
      ⟨fits.stop, rfl⟩, (), ?_, _, ⟨fits.toolChoice, rfl⟩, _,
      (mapM_fitted adaptMessage_eq_ok).mpr ⟨fits.blocks, rfl⟩, rfl⟩
    rintro ⟨present, lacks⟩
    rw [fits.tools present] at lacks
    cases lacks

theorem fittedBlock_fits (block : InputBlock) (fits : FitsBlock capabilities block) :
    FitsBlock capabilities (fittedBlock crates block) := by
  cases block with
  | text text => trivial
  | image mediaType data => exact fits
  | toolUse id name input => trivial
  | toolResult toolUseId content isError =>
      intro notString
      split at notString
      · cases notString
      · contradiction

/-- A block that has been made to fit stays as it is. -/
theorem fittedBlock_again (block : InputBlock) :
    fittedBlock crates (fittedBlock crates block) = fittedBlock crates block := by
  cases block with
  | text text => rfl
  | image mediaType data => rfl
  | toolUse id name input => rfl
  | toolResult toolUseId content isError =>
      unfold fittedBlock
      dsimp only
      by_cases plain : content.isString = false
      · rw [if_pos plain, if_neg (by simp [Value.isString])]
      · rw [if_neg plain, if_neg plain]

/-- So does a choice of tools. -/
theorem fittedChoice_again (choice : Option ToolChoice) :
    fittedChoice capabilities (fittedChoice capabilities choice) =
      fittedChoice capabilities choice := by
  unfold fittedChoice
  by_cases lacks : capabilities.parallelTools = false
  · rw [if_pos lacks, if_pos lacks]
    cases choice with
    | none => rfl
    | some choice => cases choice <;> rfl
  · rw [if_neg lacks, if_neg lacks]

/-- What has been made to fit fits. -/
theorem fittedRequest_fits (fits : Fits capabilities request) :
    Fits capabilities (fittedRequest crates capabilities request) := by
  constructor
  · intro above
    have within : min request.maxTokens capabilities.maxOutputTokens ≤
        capabilities.maxOutputTokens := Nat.min_le_right _ _
    exact absurd above (Nat.not_lt.mpr within)
  · rintro ⟨present, lacks⟩
    simp [fittedRequest, lacks] at present
  · rintro ⟨present, lacks⟩
    simp [fittedRequest, lacks] at present
  · rintro ⟨present, lacks⟩
    simp [fittedRequest, lacks] at present
  · exact fits.tools
  · rintro ⟨parallel, lacks⟩
    simp [fittedRequest, fittedChoice, lacks, Option.any_map,
      ToolChoice.allowsParallel_withoutParallel] at parallel
  · simp only [fittedRequest, fittedMessage, List.mem_map]
    rintro _ ⟨message, member, rfl⟩ _ memberBlock
    obtain ⟨block, isBlock, rfl⟩ := List.mem_map.mp memberBlock
    exact fittedBlock_fits block (fits.blocks message member block isBlock)

/-- Nothing more is to be done to it. -/
theorem fittedRequest_again : fittedRequest crates capabilities
    (fittedRequest crates capabilities request) = fittedRequest crates capabilities request := by
  have sameMessage : ∀ message, fittedMessage crates (fittedMessage crates message) =
      fittedMessage crates message := by
    intro message
    simp only [fittedMessage, List.map_map]
    congr 1
    exact List.map_congr_left fun block _ => fittedBlock_again block
  unfold fittedRequest
  dsimp only
  congr 1
  · exact Nat.min_eq_left (Nat.min_le_right _ _)
  · rw [List.map_map]
    exact List.map_congr_left fun message _ => sameMessage message
  · split <;> rfl
  · split <;> rfl
  · split <;> rfl
  · exact fittedChoice_again request.toolChoice

/-- A request that has been adapted is adapted into itself. -/
theorem adaptRequest_again (accepted : adaptRequest crates capabilities request = .ok result) :
    adaptRequest crates capabilities result = .ok result := by
  obtain ⟨fits, rfl⟩ := adaptRequest_eq_ok.mp accepted
  exact adaptRequest_eq_ok.mpr ⟨fittedRequest_fits fits, fittedRequest_again.symm⟩

end Features

end ClaudeProxy
