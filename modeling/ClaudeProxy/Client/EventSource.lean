/-
Module: ClaudeProxy.Client.EventSource
Layer: Abstraction
Purpose: What a client receives: the event stream of the HTML standard over the bytes of the body, with
  the data of each event read as JSON. The client's JSON reader is a parameter; it reads back what the
  proxy's crate wrote, for values that JSON represents exactly.
Trusted boundary: human-reviewed specification
Main exports: clientEvent, received, Value.Exact, FaithfulJson
-/
import ClaudeProxy.Library.EventStream
import ClaudeProxy.Proofs.Deserialization

namespace ClaudeProxy

open Library

/-- The name of an event and its JSON value. -/
def clientEvent (parseJson : String → Option Value) (event : ServerEvent) :
    Option (String × Value) := do
  let name ← fromUtf8 event.type
  let text ← fromUtf8 event.data
  let value ← parseJson text
  pure (name, value)

def received (parseJson : String → Option Value) (chunks : List Bytes) :
    List (Option (String × Value)) :=
  (readEvents chunks).map (clientEvent parseJson)

/-- A value as the crate holds it: integers of 64 bits, finite floats, and each map in the order of its
keys. Its text determines it. -/
inductive Value.Exact : Value → Prop where
  | null : Exact .null
  | bool (flag : Bool) : Exact (.bool flag)
  | string (text : String) : Exact (.string text)
  | unsigned {value : Nat} (fits : value < 2 ^ 64) : Exact (.number (.posInt value))
  | signed {value : Int} (fits : -((2 ^ 63 : Nat) : Int) ≤ value) (negative : value < 0) :
      Exact (.number (.negInt value))
  | float {value : F64} (finite : value.isFinite = true) : Exact (.number (.float value))
  | array {items : List Value} (each : ∀ item ∈ items, Exact item) : Exact (.array items)
  | object {entries : Entries} (ascending : entries.Ascending)
      (each : ∀ entry ∈ entries, Exact entry.2) : Exact (.object entries)

/-- What is relied on of the texts of some values: `serde_json` escapes control characters, and the
client reads back what was written. -/
structure FaithfulJson (crates : Crates) (parseJson : String → Option Value) (values : List Value) :
    Prop where
  escapes : ∀ value ∈ values, ∀ symbol ∈ (crates.toJson value).toList, 0x20 ≤ symbol.toNat
  readsBack : ∀ value ∈ values, value.Exact → parseJson (crates.toJson value) = some value

end ClaudeProxy
