/-
Module: ClaudeProxy.Json
Layer: Model
Purpose: The JSON values of `serde_json` and the accessors the code uses on them. A `Map` is a
  `BTreeMap<String, Value>` (the crate's `preserve_order` feature is off), so an object lists its
  entries in key order and inserting a present key replaces its value. The text syntax is not
  modelled: parsing and printing are entry points of the crate, taken as parameters in
  `ClaudeProxy.Crates`.
Trusted boundary: human-reviewed model
Main exports: F64, Number, Value, Value.get, Value.set, Value.pointer, Entries.insert, Value.obj
-/
import Mathlib.Data.List.Basic
import Mathlib.Data.String.Basic

namespace ClaudeProxy

/-- An IEEE 754 binary64 number, by its bit pattern. -/
structure F64 where
  bits : BitVec 64
deriving DecidableEq, Repr, Inhabited

namespace F64

def zero : F64 := ⟨0⟩

def one : F64 := ⟨0x3FF0000000000000⟩

/-- `(0.0..=1.0).contains(&value)`. Non-negative numbers are ordered by their bit patterns, negative
zero equals zero, and every NaN lies above positive infinity or has its sign bit set. -/
def inUnitInterval (value : F64) : Bool :=
  value.bits == 0x8000000000000000 || value.bits.toNat ≤ one.bits.toNat

/-- Neither infinite nor NaN: the exponent is not all ones. -/
def isFinite (value : F64) : Bool :=
  value.bits.extractLsb' 52 11 != 0x7FF

end F64

/-- `serde_json::Number`: a `u64`, a negative `i64`, or a finite `f64`. -/
inductive Number where
  | posInt (value : Nat)
  | negInt (value : Int)
  | float (value : F64)
deriving DecidableEq, Repr, Inhabited

/-- `serde_json::Value`. -/
inductive Value where
  | null
  | bool (value : Bool)
  | number (value : Number)
  | string (value : String)
  | array (items : List Value)
  | object (entries : List (String × Value))
deriving Repr, Inhabited

/-- The entries of a `Map`, in key order. -/
abbrev Entries := List (String × Value)

/-- `BTreeMap::insert`. -/
def Entries.insert (key : String) (value : Value) : Entries → Entries
  | [] => [(key, value)]
  | (other, held) :: rest =>
      if key = other then (key, value) :: rest
      else if key < other then (key, value) :: (other, held) :: rest
      else (other, held) :: Entries.insert key value rest

@[simp] theorem Entries.lookup_cons (key wanted : String) (value : Value) (entries : Entries) :
    ((key, value) :: entries).lookup wanted =
      if wanted = key then some value else entries.lookup wanted := by
  by_cases same : wanted = key
  · subst same
    simp
  · have differs : (wanted == key) = false := by simpa using same
    rw [List.lookup_cons, differs, if_neg same]

theorem Entries.lookup_insert (key wanted : String) (value : Value) (entries : Entries) :
    (Entries.insert key value entries).lookup wanted =
      if wanted = key then some value else entries.lookup wanted := by
  induction entries with
  | nil => exact lookup_cons key wanted value []
  | cons entry rest inductionHypothesis =>
      obtain ⟨other, held⟩ := entry
      unfold Entries.insert
      by_cases here : key = other
      · subst here
        rw [if_pos rfl, lookup_cons, lookup_cons]
        split <;> rfl
      · rw [if_neg here]
        by_cases before : key < other
        · rw [if_pos before, lookup_cons]
        · rw [if_neg before, lookup_cons, lookup_cons, inductionHypothesis]
          by_cases hit : wanted = other
          · subst hit
            rw [if_pos rfl, if_pos rfl, if_neg fun same : wanted = key => here same.symm]
          · rw [if_neg hit, if_neg hit]

namespace Value

/-- `Value::get` with a string index. -/
def get (key : String) : Value → Option Value
  | .object entries => entries.lookup key
  | _ => none

/-- `Value::pointer`, for the pointers the code writes: no token of theirs is an array index, so
each step is a lookup in an object. -/
def pointer : List String → Value → Option Value
  | [], value => some value
  | key :: path, value => (value.get key).bind (pointer path)

def asStr : Value → Option String
  | .string text => some text
  | _ => none

def asBool : Value → Option Bool
  | .bool value => some value
  | _ => none

def asU64 : Value → Option Nat
  | .number (.posInt value) => some value
  | _ => none

def asArray : Value → Option (List Value)
  | .array items => some items
  | _ => none

def asObject : Value → Option Entries
  | .object entries => some entries
  | _ => none

def isNull : Value → Bool
  | .null => true
  | _ => false

def isString : Value → Bool
  | .string _ => true
  | _ => false

def isObject : Value → Bool
  | .object _ => true
  | _ => false

/-- A `json!({...})` literal. -/
def obj (entries : Entries) : Value :=
  .object (entries.foldl (fun map entry => Entries.insert entry.1 entry.2 map) [])

/-- `json!(n)` for an unsigned integer. -/
def num (value : Nat) : Value := .number (.posInt value)

/-- `json!(x)` for an `f64`: a number that JSON cannot write becomes `null`. -/
def ofF64 (value : F64) : Value :=
  if value.isFinite = true then .number (.float value) else .null

/-- `value[key] = held` on an object. -/
def set (value : Value) (key : String) (held : Value) : Value :=
  match value with
  | .object entries => .object (Entries.insert key held entries)
  | value => value

/-- The string at a key, if the value is an object that has a string there. -/
def strAt (key : String) (value : Value) : Option String :=
  (value.get key).bind asStr

theorem lookup_foldl_insert (key : String) (entries map : Entries) :
    (entries.foldl (fun map entry => Entries.insert entry.1 entry.2 map) map).lookup key =
      (entries.reverse ++ map).lookup key := by
  induction entries generalizing map with
  | nil => rfl
  | cons entry rest inductionHypothesis =>
      obtain ⟨name, value⟩ := entry
      rw [List.foldl_cons, inductionHypothesis, List.reverse_cons, List.append_assoc,
        List.lookup_append, List.lookup_append, Entries.lookup_insert, List.singleton_append,
        Entries.lookup_cons]

/-- In a literal the last value of a key is the one that counts. -/
@[simp] theorem get_obj (key : String) (entries : Entries) :
    get key (obj entries) = entries.reverse.lookup key := by
  simpa [obj, get] using lookup_foldl_insert key entries []

@[simp] theorem get_object (key : String) (entries : Entries) :
    get key (.object entries) = entries.lookup key := rfl

@[simp] theorem get_set_object (key wanted : String) (held : Value) (entries : Entries) :
    get wanted (set (.object entries) key held) =
      if wanted = key then some held else entries.lookup wanted :=
  Entries.lookup_insert key wanted held entries

@[simp] theorem asStr_string (text : String) : asStr (.string text) = some text := rfl

@[simp] theorem asU64_num (value : Nat) : asU64 (num value) = some value := rfl

@[simp] theorem asArray_array (items : List Value) : asArray (.array items) = some items := rfl

theorem asStr_eq_some {value : Value} {text : String} :
    asStr value = some text ↔ value = .string text := by
  cases value <;> simp [asStr]

end Value

end ClaudeProxy
