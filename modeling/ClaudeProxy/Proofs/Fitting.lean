/-
Module: ClaudeProxy.Proofs.Fitting
Layer: Proofs
Purpose: What a provider is asked for. A request is rejected exactly for a feature that the profile
  lacks and has no fallback for; what is accepted reaches the wire without any such feature, and with
  nothing else changed. Callers adapt a request that has been adapted already, and send the same.
Trusted boundary: none
Main exports: Exceeds, FittedAs, Frame, FittingBody, adaptRequest_exact, SentOnce, adaptation_once
-/
import ClaudeProxy.Proofs.Candidates
import ClaudeProxy.Proofs.RequestBody
import ClaudeProxy.Proofs.Segments

namespace ClaudeProxy

open Library

/-! ### What a profile rejects -/

/-- A request uses a feature that the profile lacks, and the profile allows no fallback for it, or
there is none. -/
inductive Exceeds (capabilities : CapabilityProfile) (request : NormalizedRequest) : Prop where
  | maxTokens (above : capabilities.maxOutputTokens < request.maxTokens)
      (noFallback : capabilities.allowMaxTokensClamping = false)
  | temperature (used : request.temperature ≠ none)
      (lacks : capabilities.supportsTemperature = false)
      (noFallback : capabilities.allowTemperatureFallback = false)
  | topP (used : request.topP ≠ none) (lacks : capabilities.supportsTopP = false)
      (noFallback : capabilities.allowTopPFallback = false)
  | stop (used : request.stopSequences ≠ []) (lacks : capabilities.supportsStop = false)
      (noFallback : capabilities.allowStopFallback = false)
  | tools (used : request.tools ≠ []) (lacks : capabilities.tools = false)
  | parallelTools (choice : ToolChoice) (used : request.toolChoice = some choice)
      (parallel : choice = .auto false ∨ choice = .any false ∨ ∃ name, choice = .tool name false)
      (lacks : capabilities.parallelTools = false)
      (noFallback : capabilities.allowParallelToolFallback = false)
  | image (message : NormalizedMessage) (isMessage : message ∈ request.messages)
      (mediaType : String) (data : ImageData) (used : .image mediaType data ∈ message.blocks)
      (lacks : capabilities.vision = false)
  | toolResult (message : NormalizedMessage) (isMessage : message ∈ request.messages)
      (toolUseId : String) (content : Value) (isError : Bool)
      (used : .toolResult toolUseId content isError ∈ message.blocks)
      (structured : content.isString = false)
      (noFallback : capabilities.allowStructuredToolResultsToString = false)

theorem ToolChoice.allowsParallel_iff {choice : ToolChoice} : choice.allowsParallel = true ↔
    choice = .auto false ∨ choice = .any false ∨ ∃ name, choice = .tool name false := by
  cases choice <;> simp [ToolChoice.allowsParallel]

theorem Exceeds.not_fits {capabilities : CapabilityProfile} {request : NormalizedRequest}
    (exceeds : Exceeds capabilities request) : ¬ Fits capabilities request := by
  intro fits
  cases exceeds with
  | maxTokens above noFallback =>
      have allowed := fits.maxTokens above
      simp [noFallback] at allowed
  | temperature used lacks noFallback =>
      have allowed := fits.temperature ⟨Option.isSome_iff_ne_none.mpr used, lacks⟩
      simp [noFallback] at allowed
  | topP used lacks noFallback =>
      have allowed := fits.topP ⟨Option.isSome_iff_ne_none.mpr used, lacks⟩
      simp [noFallback] at allowed
  | stop used lacks noFallback =>
      have allowed := fits.stop ⟨used, lacks⟩
      simp [noFallback] at allowed
  | tools used lacks =>
      have has := fits.tools used
      simp [lacks] at has
  | parallelTools choice used parallel lacks noFallback =>
      have open' : request.toolChoice.any ToolChoice.allowsParallel = true := by
        rw [used]
        exact ToolChoice.allowsParallel_iff.mpr parallel
      have allowed := fits.toolChoice ⟨open', lacks⟩
      simp [noFallback] at allowed
  | image message isMessage mediaType data used lacks =>
      have sees : capabilities.vision = true := fits.blocks message isMessage _ used
      simp [lacks] at sees
  | toolResult message isMessage toolUseId content isError used structured noFallback =>
      have allowed := fits.blocks message isMessage _ used structured
      simp [noFallback] at allowed

/-- A request that uses nothing the profile rejects fits it. -/
theorem fits_of_not_exceeds {capabilities : CapabilityProfile} {request : NormalizedRequest}
    (within : ¬ Exceeds capabilities request) : Fits capabilities request := by
  constructor
  · intro above
    by_contra noFallback
    exact within (.maxTokens above (by simpa using noFallback))
  · rintro ⟨used, lacks⟩
    by_contra noFallback
    exact within (.temperature (Option.isSome_iff_ne_none.mp used) lacks (by simpa using noFallback))
  · rintro ⟨used, lacks⟩
    by_contra noFallback
    exact within (.topP (Option.isSome_iff_ne_none.mp used) lacks (by simpa using noFallback))
  · rintro ⟨used, lacks⟩
    by_contra noFallback
    exact within (.stop used lacks (by simpa using noFallback))
  · intro used
    by_contra lacks
    exact within (.tools used (by simpa using lacks))
  · rintro ⟨parallel, lacks⟩
    by_contra noFallback
    obtain ⟨choice, used, allows⟩ := (Option.any_eq_true _ _).mp parallel
    exact within (.parallelTools choice used (ToolChoice.allowsParallel_iff.mp allows) lacks
      (by simpa using noFallback))
  · intro message isMessage block used
    cases block with
    | text text => trivial
    | toolUse id name input => trivial
    | image mediaType data =>
        change capabilities.vision = true
        by_contra lacks
        exact within (.image message isMessage mediaType data used (by simpa using lacks))
    | toolResult toolUseId content isError =>
        intro structured
        by_contra noFallback
        exact within (.toolResult message isMessage toolUseId content isError used structured
          (by simpa using noFallback))

theorem adaptRequest_rejects_iff {crates : Crates} {capabilities : CapabilityProfile}
    {request : NormalizedRequest} :
    (∃ error, adaptRequest crates capabilities request = .error error) ↔
      Exceeds capabilities request := by
  cases outcome : adaptRequest crates capabilities request with
  | error error =>
      have exceeds : Exceeds capabilities request := by
        by_contra within
        have accepted := (@adaptRequest_eq_ok crates capabilities request _).mpr
          ⟨fits_of_not_exceeds within, rfl⟩
        rw [outcome] at accepted
        cases accepted
      exact iff_of_true ⟨error, rfl⟩ exceeds
  | ok adapted =>
      have fits := (adaptRequest_eq_ok.mp outcome).1
      exact iff_of_false (by simp) fun exceeds => exceeds.not_fits fits

/-! ### What is changed -/

/-- What becomes of a block: a structured tool result is replaced by its serialization, and every
other block stays as it is. -/
inductive FittedAs (crates : Crates) : InputBlock → InputBlock → Prop where
  | text (text : String) : FittedAs crates (.text text) (.text text)
  | image (mediaType : String) (data : ImageData) :
      FittedAs crates (.image mediaType data) (.image mediaType data)
  | toolUse (id name : String) (input : Value) :
      FittedAs crates (.toolUse id name input) (.toolUse id name input)
  | stringResult (toolUseId text : String) (isError : Bool) :
      FittedAs crates (.toolResult toolUseId (.string text) isError)
        (.toolResult toolUseId (.string text) isError)
  | structuredResult (toolUseId : String) (content : Value) (isError : Bool)
      (structured : content.isString = false) :
      FittedAs crates (.toolResult toolUseId content isError)
        (.toolResult toolUseId (.string (crates.toJson content)) isError)

/-- An adapted request differs from the request in what the profile asks for and in nothing else. -/
structure Frame (crates : Crates) (capabilities : CapabilityProfile)
    (request adapted : NormalizedRequest) : Prop where
  originalModel : adapted.originalModel = request.originalModel
  maxTokens : adapted.maxTokens = min request.maxTokens capabilities.maxOutputTokens
  temperature : adapted.temperature =
    if capabilities.supportsTemperature = true then request.temperature else none
  topP : adapted.topP = if capabilities.supportsTopP = true then request.topP else none
  stop : adapted.stopSequences =
    if capabilities.supportsStop = true then request.stopSequences else []
  tools : adapted.tools = request.tools
  toolChoice : adapted.toolChoice =
    if capabilities.parallelTools = true then request.toolChoice
    else request.toolChoice.map ToolChoice.withoutParallel
  stream : adapted.stream = request.stream
  messages : List.Forall₂ (fun before after => after.role = before.role ∧
    List.Forall₂ (FittedAs crates) before.blocks after.blocks) request.messages adapted.messages

section Frame

variable {crates : Crates} {capabilities : CapabilityProfile} {request adapted : NormalizedRequest}

theorem fittedAs_fittedBlock (block : InputBlock) :
    FittedAs crates block (fittedBlock crates block) := by
  cases block with
  | text text => exact .text text
  | image mediaType data => exact .image mediaType data
  | toolUse id name input => exact .toolUse id name input
  | toolResult toolUseId content isError =>
      unfold fittedBlock
      dsimp only
      by_cases structured : content.isString = false
      · rw [if_pos structured]
        exact .structuredResult toolUseId content isError structured
      · rw [if_neg structured]
        cases content with
        | string text => exact .stringResult toolUseId text isError
        | null => exact absurd rfl structured
        | bool => exact absurd rfl structured
        | number => exact absurd rfl structured
        | array => exact absurd rfl structured
        | object => exact absurd rfl structured

theorem frame_of_adapted (accepted : adaptRequest crates capabilities request = .ok adapted) :
    Frame crates capabilities request adapted := by
  obtain ⟨-, rfl⟩ := adaptRequest_eq_ok.mp accepted
  constructor
  · rfl
  · rfl
  · cases supports : capabilities.supportsTemperature <;> simp [fittedRequest, supports]
  · cases supports : capabilities.supportsTopP <;> simp [fittedRequest, supports]
  · cases supports : capabilities.supportsStop <;> simp [fittedRequest, supports]
  · rfl
  · cases supports : capabilities.parallelTools <;> simp [fittedRequest, fittedChoice, supports]
  · rfl
  · unfold fittedRequest
    rw [List.forall₂_map_right_iff, List.forall₂_same]
    intro message _
    refine ⟨rfl, ?_⟩
    unfold fittedMessage
    rw [List.forall₂_map_right_iff, List.forall₂_same]
    intro block _
    exact fittedAs_fittedBlock block

end Frame

/-! ### What reaches the wire -/

/-- The token limit of a body, which stands under one of two names. -/
def tokenLimit (capabilities : CapabilityProfile) (body : Value) : Option Value :=
  body.get (if capabilities.useMaxCompletionTokens = true then "max_completion_tokens"
    else "max_tokens")

/-- A body that asks for nothing the profile lacks. -/
structure FittingBody (capabilities : CapabilityProfile) (request : NormalizedRequest)
    (body : Value) : Prop where
  tokens : tokenLimit capabilities body =
    some (.num (min request.maxTokens capabilities.maxOutputTokens))
  temperature : capabilities.supportsTemperature = false → body.get "temperature" = none
  topP : capabilities.supportsTopP = false → body.get "top_p" = none
  stop : capabilities.supportsStop = false → body.get "stop" = none
  tools : capabilities.tools = false → body.get "tools" = none
  messages : ∃ messages, body.get "messages" = some (.array messages) ∧
    (capabilities.vision = false → ∀ message ∈ messages, ∀ parts,
      message.get "content" = some (.array parts) → ∀ part ∈ parts, part.get "image_url" = none) ∧
    ∀ message ∈ messages, message.strAt "role" = some "tool" →
      ∃ text, message.get "content" = some (.string text)

/-- The only parts with an `image_url` are images. -/
theorem image_of_part {block : InputBlock} {part : Value} (isPart : blockPart block = some part)
    (notImage : block.isImage = false) : part.get "image_url" = none := by
  cases block with
  | text text =>
      cases isPart
      simp [textPart]
  | image mediaType data => cases notImage
  | toolUse id name input => cases isPart
  | toolResult toolUseId content isError => cases isPart

/-- A part of a sent message comes from a block of the message it belongs to. -/
theorem SegmentFor.part_from_block {crates : Crates} {message : NormalizedMessage}
    {segment : List Value} (segmentFor : SegmentFor crates message segment) {sent : Value}
    (isSent : sent ∈ segment) {parts : List Value}
    (content : sent.get "content" = some (.array parts)) {part : Value} (isPart : part ∈ parts) :
    ∃ block ∈ message.blocks, blockPart block = some part := by
  have fromUser {role : String} (shape : UserSegment role message.blocks segment) :
      ∃ block ∈ message.blocks, blockPart block = some part := by
    rcases shape.sent_cases isSent with ⟨block, -, result⟩ | ⟨held, rfl, heldParts⟩
    · obtain ⟨-, -, text, isText⟩ := blockResult_sent result
      rw [isText] at content
      cases content
    · obtain rfl : held = .array parts := by simpa using content
      rw [← List.mem_filterMap, ← heldParts]
      exact isPart
  unfold SegmentFor at segmentFor
  split at segmentFor
  case h_1 => exact fromUser segmentFor
  case h_2 => exact fromUser segmentFor
  case h_3 =>
    obtain ⟨-, held, -⟩ := segmentFor.sent_fields isSent
    rw [content] at held
    unfold assistantContent at held
    split at held <;> cases held

/-- A message with the role `tool` has a string for its content. -/
theorem SegmentFor.tool_content {crates : Crates} {message : NormalizedMessage}
    {segment : List Value} (segmentFor : SegmentFor crates message segment) {sent : Value}
    (isSent : sent ∈ segment) (isTool : sent.strAt "role" = some "tool") :
    ∃ text, sent.get "content" = some (.string text) := by
  have fromUser {role : String} (other : role ≠ "tool")
      (shape : UserSegment role message.blocks segment) :
      ∃ text, sent.get "content" = some (.string text) := by
    rcases shape.sent_cases isSent with ⟨block, -, result⟩ | ⟨held, rfl, -⟩
    · exact (blockResult_sent result).2.2
    · exact absurd (by simpa [Value.strAt] using isTool) other
  unfold SegmentFor at segmentFor
  split at segmentFor
  case h_1 => exact fromUser (by decide) segmentFor
  case h_2 => exact fromUser (by decide) segmentFor
  case h_3 =>
    obtain ⟨role, -, -⟩ := segmentFor.sent_fields isSent
    rw [isTool] at role
    simp at role

section Wire

variable {crates : Crates} {capabilities : CapabilityProfile} {request adapted : NormalizedRequest}

/-- An accepted request has no image where the profile cannot see. -/
theorem no_image_of_adapted (accepted : adaptRequest crates capabilities request = .ok adapted)
    (blind : capabilities.vision = false) {message : NormalizedMessage}
    (isMessage : message ∈ adapted.messages) {block : InputBlock} (isBlock : block ∈ message.blocks) :
    block.isImage = false := by
  obtain ⟨fits, -⟩ := adaptRequest_eq_ok.mp (adaptRequest_again accepted)
  have fitsBlock := fits.blocks message isMessage block isBlock
  cases block with
  | image mediaType data =>
      change capabilities.vision = true at fitsBlock
      rw [blind] at fitsBlock
      cases fitsBlock
  | text text => rfl
  | toolUse id name input => rfl
  | toolResult toolUseId content isError => rfl

theorem fittingBody_of_built (accepted : adaptRequest crates capabilities request = .ok adapted)
    {model : String} {stream : Bool} {body : Value}
    (built : buildRequest crates capabilities adapted model stream = .ok body) :
    FittingBody capabilities request body := by
  have frame := frame_of_adapted accepted
  obtain ⟨messages, converted, fields⟩ := buildRequest_body built
  constructor
  · unfold tokenLimit
    cases field : capabilities.useMaxCompletionTokens with
    | true => simp [fields.maxCompletionTokens, field, frame.maxTokens]
    | false => simp [fields.maxTokens, field, frame.maxTokens]
  · intro lacks
    simp [fields.temperature, frame.temperature, lacks]
  · intro lacks
    simp [fields.topP, frame.topP, lacks]
  · intro lacks
    simp [fields.stop, frame.stop, lacks]
  · intro lacks
    have none' : adapted.tools = [] := by
      by_contra present
      have has := (adaptRequest_eq_ok.mp (adaptRequest_again accepted)).1.tools present
      rw [lacks] at has
      cases has
    simp [fields.tools, none']
  · refine ⟨messages, fields.messages, ?_, ?_⟩
    · intro blind sent isSent parts content part isPart
      obtain ⟨message, isMessage, segment, segmentFor, inSegment⟩ :=
        exists_segment_of_mem converted isSent
      obtain ⟨block, isBlock, fromBlock⟩ := segmentFor.part_from_block inSegment content isPart
      exact image_of_part fromBlock (no_image_of_adapted accepted blind isMessage isBlock)
    · intro sent isSent isTool
      obtain ⟨message, isMessage, segment, segmentFor, inSegment⟩ :=
        exists_segment_of_mem converted isSent
      exact segmentFor.tool_content inSegment isTool

end Wire

/-- The adaptation rejects exactly what the profile has neither feature nor fallback for. What it
accepts reaches the wire without what the profile lacks, and otherwise unchanged. -/
theorem adaptRequest_exact (crates : Crates) (capabilities : CapabilityProfile)
    (request : NormalizedRequest) :
    ((∃ error, adaptRequest crates capabilities request = .error error) ↔
      Exceeds capabilities request) ∧
    ∀ adapted, adaptRequest crates capabilities request = .ok adapted →
      Frame crates capabilities request adapted ∧
      ∀ model stream body, buildRequest crates capabilities adapted model stream = .ok body →
        FittingBody capabilities request body := by
  constructor
  · exact adaptRequest_rejects_iff
  · intro adapted accepted
    constructor
    · exact frame_of_adapted accepted
    · intro model stream body built
      exact fittingBody_of_built accepted built

/-! ### Adapting twice -/

/-- A candidate carries the request as its provider adapted it, and what the provider then does with
it, adapting it once more, it does with that request as it stands. Each structured tool result of the
request is serialized once. -/
structure SentOnce (crates : Crates) (environment : Environment) (order : IterationOrder)
    (request : NormalizedRequest) (candidate : Candidate) : Prop where
  adapted : adaptRequest crates candidate.provider.capabilities request = .ok candidate.request
  body : ∀ model stream, candidate.provider.prepare crates candidate.request model stream =
    buildRequest crates candidate.provider.capabilities candidate.request model stream
  tokens : candidate.provider.countTokens crates environment candidate.request =
    ClaudeProxy.countTokens crates environment candidate.request
      candidate.provider.capabilities.tokenizer
  execute : ∀ model upstream,
    candidate.provider.execute crates environment candidate.request model upstream =
      candidate.provider.execute crates environment request model upstream
  stream : ∀ model upstream,
    candidate.provider.stream crates environment order candidate.request model upstream =
      candidate.provider.stream crates environment order request model upstream
  results : ∀ again,
    adaptRequest crates candidate.provider.capabilities candidate.request = .ok again →
      List.Forall₂ (fun before after => List.Forall₂ (FittedAs crates) before.blocks after.blocks)
        request.messages again.messages

/-- An adapted request is prepared without another change. -/
theorem prepare_adapted {crates : Crates} {provider : Provider} {request adapted : NormalizedRequest}
    (accepted : adaptRequest crates provider.capabilities request = .ok adapted) (model : String)
    (stream : Bool) : provider.prepare crates request model stream =
      buildRequest crates provider.capabilities adapted model stream := by
  unfold Provider.prepare
  rw [accepted]
  rfl

theorem sentOnce_of_adapted {crates : Crates} {environment : Environment} {order : IterationOrder}
    {request : NormalizedRequest} {candidate : Candidate}
    (accepted : adaptRequest crates candidate.provider.capabilities request =
      .ok candidate.request) : SentOnce crates environment order request candidate := by
  have again := adaptRequest_again accepted
  have sameBody (model : String) (stream : Bool) :
      candidate.provider.prepare crates candidate.request model stream =
        candidate.provider.prepare crates request model stream := by
    rw [prepare_adapted again, prepare_adapted accepted]
  have frame := frame_of_adapted accepted
  constructor
  · exact accepted
  · exact prepare_adapted again
  · unfold Provider.countTokens
    rw [again]
    rfl
  · intro model upstream
    unfold Provider.execute
    rw [sameBody, frame.originalModel]
  · intro model upstream
    unfold Provider.stream
    rw [sameBody]
  · intro twice twiceEq
    rw [again] at twiceEq
    cases twiceEq
    exact frame.messages.imp fun _ _ same => same.2

/-- Adapting an adapted request changes nothing, so that every candidate of a router is sent, and
counted, as the one adaptation of the request. -/
theorem adaptation_once (crates : Crates) (environment : Environment) (order : IterationOrder)
    (request : NormalizedRequest) :
    (∀ capabilities adapted, adaptRequest crates capabilities request = .ok adapted →
      adaptRequest crates capabilities adapted = .ok adapted) ∧
    ∀ (router : Router) draws clock circuits route circuits' candidates,
      router.candidates crates draws clock circuits route request =
        (circuits', some (.ok candidates)) →
      ∀ candidate ∈ candidates, SentOnce crates environment order request candidate := by
  constructor
  · intro capabilities adapted accepted
    exact adaptRequest_again accepted
  · intro router draws clock circuits route circuits' candidates gathered candidate isCandidate
    obtain ⟨resolved, -, fromTarget⟩ := candidates_fromTarget gathered isCandidate
    exact sentOnce_of_adapted fromTarget.2

end ClaudeProxy
