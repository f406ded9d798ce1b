/-
Module: ClaudeProxy.Proofs.RequestBody
Layer: Proofs
Purpose: What the body of an upstream request says, field by field. `build_request` inserts the
  fields one after the other, most of them only where the request has something to say.
Trusted boundary: none
Main exports: BodyOf, buildRequest_body
-/
import ClaudeProxy.Library.Outcome
import ClaudeProxy.Provider.Translate

namespace ClaudeProxy

open Library

/-! ### Entries that may be left out -/

theorem lookup_optional {α : Type} (held : Option α) (key wanted : String) (write : α → Value) :
    (held.map fun value => (key, write value)).toList.reverse.lookup wanted =
      if wanted = key then held.map write else none := by
  cases held with
  | none => simp
  | some value => simp

theorem lookup_unless (absent : Prop) [Decidable absent] (key wanted : String) (value : Value) :
    (if absent then [] else [(key, value)]).reverse.lookup wanted =
      if wanted = key then (if absent then none else some value) else none := by
  by_cases isAbsent : absent
  · simp [isAbsent]
  · simp [isAbsent]

theorem lookup_choiceEntries (choice : Option ToolChoice) (wanted : String) :
    ((choice.map choiceEntries).getD []).reverse.lookup wanted =
      if wanted = "tool_choice" then choice.map fun choice => (choiceValue choice).1
      else if wanted = "parallel_tool_calls" then
        choice.bind fun choice => (choiceValue choice).2.map Value.bool
      else none := by
  cases choice with
  | none => simp
  | some choice =>
      cases choice <;> simp [choiceEntries, choiceValue, Entries.lookup_cons] <;> grind

/-! ### The body -/

/-- The fields of a body. The token limit stands under one of two names. -/
structure BodyOf (capabilities : CapabilityProfile) (request : NormalizedRequest)
    (messages : List Value) (body : Value) : Prop where
  messages : body.get "messages" = some (.array messages)
  maxTokens : body.get "max_tokens" =
    if capabilities.useMaxCompletionTokens = true then none else some (.num request.maxTokens)
  maxCompletionTokens : body.get "max_completion_tokens" =
    if capabilities.useMaxCompletionTokens = true then some (.num request.maxTokens) else none
  temperature : body.get "temperature" = request.temperature.map Value.ofF64
  topP : body.get "top_p" = request.topP.map Value.ofF64
  stop : body.get "stop" =
    if request.stopSequences = [] then none
    else some (.array (request.stopSequences.map Value.string))
  tools : body.get "tools" =
    if request.tools = [] then none else some (.array (request.tools.map toolValue))
  toolChoice : body.get "tool_choice" =
    request.toolChoice.map fun choice => (choiceValue choice).1
  parallelToolCalls : body.get "parallel_tool_calls" =
    request.toolChoice.bind fun choice => (choiceValue choice).2.map Value.bool

theorem buildRequest_body {crates : Crates} {capabilities : CapabilityProfile}
    {request : NormalizedRequest} {model : String} {stream : Bool} {body : Value}
    (built : buildRequest crates capabilities request model stream = .ok body) :
    ∃ messages, convertMessages crates request = .ok messages ∧
      BodyOf capabilities request messages body := by
  obtain ⟨messages, messagesEq, same⟩ := Except.bind_eq_ok.mp built
  cases same
  refine ⟨messages, messagesEq, ?_⟩
  have streamOptions (wanted : String) (other : wanted ≠ "stream_options") :
      (if stream = true then [("stream_options", Value.obj [("include_usage", .bool true)])]
        else []).reverse.lookup wanted = none := by
    cases stream <;> simp [other]
  constructor
  all_goals
    simp only [Value.get_obj, List.reverse_append, List.lookup_append, lookup_optional,
      lookup_unless, lookup_choiceEntries]
    rw [streamOptions _ (by decide)]
    cases capabilities.useMaxCompletionTokens <;> simp [List.isEmpty_iff]

end ClaudeProxy
