/-
Module: ClaudeProxy.Anthropic.Deserialize
Layer: Model
Purpose: How a request body becomes an `AnthropicRequest` (the derived `Deserialize` of
  `src/domain.rs`), from the text and from a `Value`. The text is given by its syntax tree, whose
  literals carry what `serde_json` makes of them. The derived code drives the same visitors over both
  sources, so it is written out once: a `Value` is read through the tree that shows its data.
Trusted boundary: human-reviewed model
Main exports: JsonText, Reader, readValue, Value.toText, readMessage, readTool, readRequest,
  AnthropicRequest.fromText, AnthropicRequest.fromValue
-/
import ClaudeProxy.Domain

namespace ClaudeProxy

/-! ### Numbers -/

/-- `value as f64`: the nearest number, and of two the one with an even significand. -/
def F64.ofNat (value : Nat) : F64 :=
  if value = 0 then zero
  else
    let exponent := value.log2
    let significand :=
      if exponent ≤ 52 then value <<< (52 - exponent)
      else
        let dropped := exponent - 52
        let kept := value >>> dropped
        let rest := value - kept <<< dropped
        let half := 2 ^ (dropped - 1)
        if half < rest ∨ rest = half ∧ kept % 2 = 1 then kept + 1 else kept
    ⟨BitVec.ofNat 64 ((exponent + 1023) * 2 ^ 52 + (significand - 2 ^ 52))⟩

/-- The same for an `i64`. -/
def F64.ofInt (value : Int) : F64 :=
  let magnitude := ofNat value.natAbs
  if value < 0 then ⟨magnitude.bits ||| 0x8000000000000000⟩ else magnitude

example : F64.ofNat 1 = F64.one := by decide

/-! ### The text -/

/-- A JSON text. A number literal is `none` if it lies out of range, a string literal if its bytes or
escapes make no text; the entries of an object stand as they are written. -/
inductive JsonText where
  | null
  | bool (value : Bool)
  | number (literal : Option Number)
  | string (literal : Option String)
  | array (items : List JsonText)
  | object (entries : List (Option String × JsonText))
deriving Inhabited

/-- How many arrays and objects may still be entered; a `Value` has no such limit. -/
abbrev Depth := Option Nat

/-- `check_recursion!`. -/
def Depth.enter : Depth → Option Depth
  | none => some none
  | some left => if left ≤ 1 then none else some (some (left - 1))

/-- The depth that `serde_json` starts with. -/
def textDepth : Depth := some 128

/-- The `Deserialize` of a type; `none` is any of its errors. -/
abbrev Reader (α : Type) := Depth → JsonText → Option α

mutual

/-- The `Deserialize` of `Value`: the last entry of a key counts. -/
def readValue (depth : Depth) : JsonText → Option Value
  | .null => some .null
  | .bool value => some (.bool value)
  | .number literal => literal.map .number
  | .string literal => literal.map .string
  | .array items => depth.enter.bind fun inner => (readValues inner items).map .array
  | .object entries => depth.enter.bind fun inner => (readEntries inner entries).map .obj

def readValues (depth : Depth) : List JsonText → Option (List Value)
  | [] => some []
  | item :: rest =>
      (readValue depth item).bind fun value => (readValues depth rest).map fun values =>
        value :: values

def readEntries (depth : Depth) : List (Option String × JsonText) → Option Entries
  | [] => some []
  | (key, item) :: rest =>
      key.bind fun key => (readValue depth item).bind fun value =>
        (readEntries depth rest).map fun entries => (key, value) :: entries

end

mutual

/-- The data of a `Value`, as its `Deserializer` shows it. -/
def Value.toText : Value → JsonText
  | .null => .null
  | .bool value => .bool value
  | .number value => .number (some value)
  | .string value => .string (some value)
  | .array items => .array (toTexts items)
  | .object entries => .object (toEntries entries)

def Value.toTexts : List Value → List JsonText
  | [] => []
  | item :: rest => item.toText :: toTexts rest

def Value.toEntries : List (String × Value) → List (Option String × JsonText)
  | [] => []
  | (key, item) :: rest => (some key, item.toText) :: toEntries rest

end

/-! ### Fields -/

def readString : Reader String := fun _ text =>
  match text with
  | .string literal => literal
  | _ => none

def readBool : Reader Bool := fun _ text =>
  match text with
  | .bool value => some value
  | _ => none

def readU32 : Reader Nat := fun _ text =>
  match text with
  | .number (some (.posInt value)) => if value < 2 ^ 32 then some value else none
  | _ => none

def readF64 : Reader F64 := fun _ text =>
  match text with
  | .number (some (.posInt value)) => some (.ofNat value)
  | .number (some (.negInt value)) => some (.ofInt value)
  | .number (some (.float value)) => some value
  | _ => none

/-- `Option<T>`. -/
def readOption {α : Type} (read : Reader α) : Reader (Option α) := fun depth text =>
  match text with
  | .null => some none
  | text => (read depth text).map some

/-- `Vec<T>`. -/
def readVec {α : Type} (read : Reader α) : Reader (List α) := fun depth text =>
  match text with
  | .array items => depth.enter.bind fun inner => items.mapM (read inner)
  | _ => none

/-- The entries of an object whose keys are texts. -/
def keyed (entries : List (Option String × JsonText)) : Option (List (String × JsonText)) :=
  entries.mapM fun entry => entry.1.map fun key => (key, entry.2)

/-- The value of a known field, if there is one; a field that comes twice is an error. -/
def fieldAt (name : String) (entries : List (String × JsonText)) : Option (Option JsonText) :=
  match entries.filter (·.1 = name) with
  | [] => some none
  | [entry] => some (some entry.2)
  | _ => none

def required {α : Type} (name : String) (read : Reader α) (depth : Depth)
    (entries : List (String × JsonText)) : Option α :=
  (fieldAt name entries).bind fun found => found.bind (read depth)

/-- A field with `#[serde(default)]`. -/
def defaulted {α : Type} (name : String) (default : α) (read : Reader α) (depth : Depth)
    (entries : List (String × JsonText)) : Option α :=
  (fieldAt name entries).bind fun found =>
    match found with
    | none => some default
    | some text => read depth text

/-- A field with `#[serde(flatten)]`: the entries that are no known fields, in a `BTreeMap`. -/
def flattened (known : List String) (depth : Depth) (entries : List (String × JsonText)) :
    Option Entries :=
  let unknown := entries.filter fun entry => entry.1 ∉ known
  (unknown.mapM fun entry => (readValue depth entry.2).map fun value => (entry.1, value)).map
    fun values => values.foldl (fun map entry => Entries.insert entry.1 entry.2 map) []

/-! ### Structs -/

/-- A struct without flattened fields is also read from an array of its fields, and the values of its
unknown fields are skipped unread. -/
def readMessage : Reader InputMessage := fun depth text =>
  match text with
  | .object entries => do
      let inner ← depth.enter
      let entries ← keyed entries
      let role ← required "role" readString inner entries
      let content ← required "content" readValue inner entries
      pure { role := role, content := content }
  | .array [role, content] => do
      let inner ← depth.enter
      let role ← readString inner role
      let content ← readValue inner content
      pure { role := role, content := content }
  | _ => none

def toolFields : List String := ["name", "description", "input_schema"]

def readTool : Reader ToolDefinition := fun depth text =>
  match text with
  | .object entries => do
      let inner ← depth.enter
      let entries ← keyed entries
      let name ← required "name" readString inner entries
      let description ← defaulted "description" none (readOption readString) inner entries
      let inputSchema ← required "input_schema" readValue inner entries
      let extensions ← flattened toolFields inner entries
      pure
        { name := name
          description := description
          inputSchema := inputSchema
          extensions := extensions }
  | _ => none

def requestFields : List String :=
  ["model", "max_tokens", "messages", "stream", "system", "temperature", "top_p", "top_k",
    "stop_sequences", "metadata", "tools", "tool_choice", "thinking"]

def readFields (depth : Depth) (entries : List (String × JsonText)) : Option AnthropicRequest := do
  let model ← required "model" readString depth entries
  let maxTokens ← required "max_tokens" readU32 depth entries
  let messages ← required "messages" (readVec readMessage) depth entries
  let stream ← defaulted "stream" false readBool depth entries
  let system ← defaulted "system" none (readOption readValue) depth entries
  let temperature ← defaulted "temperature" none (readOption readF64) depth entries
  let topP ← defaulted "top_p" none (readOption readF64) depth entries
  let topK ← defaulted "top_k" none (readOption readU32) depth entries
  let stopSequences ← defaulted "stop_sequences" none (readOption (readVec readString)) depth entries
  let metadata ← defaulted "metadata" none (readOption readValue) depth entries
  let tools ← defaulted "tools" [] (readVec readTool) depth entries
  let toolChoice ← defaulted "tool_choice" none (readOption readValue) depth entries
  let thinking ← defaulted "thinking" none (readOption readValue) depth entries
  let extensions ← flattened requestFields depth entries
  pure
    { model := model
      maxTokens := maxTokens
      messages := messages
      stream := stream
      system := system
      temperature := temperature
      topP := topP
      topK := topK
      stopSequences := stopSequences
      metadata := metadata
      tools := tools
      toolChoice := toolChoice
      thinking := thinking
      extensions := extensions }

def readRequest : Reader AnthropicRequest := fun depth text =>
  match text with
  | .object entries => do
      let inner ← depth.enter
      let entries ← keyed entries
      readFields inner entries
  | _ => none

/-- `serde_json::from_slice`, as the `Json` extractor calls it. -/
def AnthropicRequest.fromText (text : JsonText) : Option AnthropicRequest :=
  readRequest textDepth text

/-- `serde_json::from_value`. -/
def AnthropicRequest.fromValue (value : Value) : Option AnthropicRequest :=
  readRequest none value.toText

end ClaudeProxy
