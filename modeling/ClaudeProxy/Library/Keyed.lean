/-
Module: ClaudeProxy.Library.Keyed
Layer: Library
Purpose: A store of records by key. In the abstract it is a finite map, and a call has the reply and
  the map after it that one expects. The rows of a table are such a map, and inserting, updating and
  deleting rows by their key is what the calls ask for.
Trusted boundary: none
Main exports: StoreCall, StoreReply, FiniteMap, Schema, Schema.after, Schema.Replies, tableMap,
  tableMap_append, tableMap_change, tableMap_remove, entries_tableMap
-/
import Mathlib.Data.Finmap

namespace ClaudeProxy.Library

/-! ### Calls on a finite map -/

inductive StoreCall (Key Posted : Type) where
  | create (posted : Posted)
  | update (key : Key) (posted : Posted)
  | delete (key : Key)
  | get (key : Key)
  | list

inductive StoreReply (Record : Type) where
  | accepted
  | refused
  | found (record : Record)
  | listed (records : List Record)

/-- What is posted has a key of its own, for its creation, and is shown as a record under a key. -/
structure Schema (Key Posted Record : Type) where
  postedKey : Posted → Key
  record : Key → Posted → Record
  recordKey : Record → Key

abbrev FiniteMap (Key Record : Type) := Finmap fun _ : Key => Record

variable {Key Posted Record Row : Type} [DecidableEq Key]

def StoreReply.when (condition : Prop) [Decidable condition] : StoreReply Record :=
  if condition then .accepted else .refused

def StoreReply.ofOption : Option Record → StoreReply Record
  | some record => .found record
  | none => .refused

namespace Schema

variable (schema : Schema Key Posted Record)

/-- A call touches the record of one key. -/
def after (map : FiniteMap Key Record) : StoreCall Key Posted → FiniteMap Key Record
  | .create posted =>
      if schema.postedKey posted ∈ map then map
      else map.insert (schema.postedKey posted) (schema.record (schema.postedKey posted) posted)
  | .update key posted => if key ∈ map then map.insert key (schema.record key posted) else map
  | .delete key => map.erase key
  | .get _ | .list => map

/-- The records of a list stand in any order. -/
def Replies (map : FiniteMap Key Record) : StoreCall Key Posted → StoreReply Record → Prop
  | .create posted, reply => reply = .when (schema.postedKey posted ∉ map)
  | .update key _, reply | .delete key, reply => reply = .when (key ∈ map)
  | .get key, reply => reply = .ofOption (map.lookup key)
  | .list, reply => ∃ records, reply = .listed records ∧
      map.entries = Multiset.ofList (records.map fun record => ⟨schema.recordKey record, record⟩)

end Schema

theorem insert_inj {map : FiniteMap Key Record} {key : Key} {first second : Record} :
    map.insert key first = map.insert key second ↔ first = second := by
  constructor
  · intro same
    have found := congrArg (Finmap.lookup key) same
    rw [Finmap.lookup_insert, Finmap.lookup_insert] at found
    exact Option.some.inj found
  · intro same
    rw [same]

/-! ### Rows of a table -/

section Rows

variable (key : Row → Key) (shown : Row → Record)

/-- The first row under a key counts. -/
def tableMap (rows : List Row) : FiniteMap Key Record :=
  (rows.map fun row => Sigma.mk (key row) (shown row)).toFinmap

theorem tableMap_cons (row : Row) (rows : List Row) :
    tableMap key shown (row :: rows) = (tableMap key shown rows).insert (key row) (shown row) :=
  Finmap.toFinmap_cons _ _ _

variable {key shown}

theorem lookup_tableMap (rows : List Row) (wanted : Key) :
    (tableMap key shown rows).lookup wanted = (rows.find? (key · == wanted)).map shown := by
  induction rows with
  | nil => rfl
  | cons row rows inductionHypothesis =>
      rw [tableMap_cons, List.find?_cons]
      by_cases same : wanted = key row
      · subst same
        simp
      · have differs : (key row == wanted) = false := beq_false_of_ne (Ne.symm same)
        rw [Finmap.lookup_insert_of_ne _ same, inductionHypothesis, differs]

theorem mem_tableMap {rows : List Row} {wanted : Key} :
    wanted ∈ tableMap key shown rows ↔ rows.any (key · == wanted) = true := by
  rw [← Finmap.lookup_isSome, lookup_tableMap, Option.isSome_map, List.find?_isSome, List.any_eq_true]

theorem filter_pos_iff_mem {rows : List Row} {wanted : Key} :
    0 < (rows.filter (key · == wanted)).length ↔ wanted ∈ tableMap key shown rows := by
  rw [mem_tableMap, List.length_pos_iff, List.any_eq_true, ne_eq, List.filter_eq_nil_iff]
  push Not
  rfl

/-- A new row under a new key. -/
theorem tableMap_append {rows : List Row} {row : Row}
    (fresh : key row ∉ tableMap key shown rows) :
    tableMap key shown (rows ++ [row]) =
      (tableMap key shown rows).insert (key row) (shown row) := by
  apply Finmap.ext_lookup
  intro wanted
  rw [lookup_tableMap, List.find?_append, Option.map_or, ← lookup_tableMap]
  by_cases same : wanted = key row
  · subst same
    rw [Finmap.lookup_insert, Finmap.lookup_eq_none.mpr fresh]
    simp
  · rw [Finmap.lookup_insert_of_ne _ same]
    simp [Ne.symm same]

/-- A change of the rows under a key, which all look the same after it. -/
theorem tableMap_change {rows : List Row} {wanted : Key} {change : Row → Row} {record : Record}
    (kept : ∀ row, key (change row) = key row)
    (changed : ∀ row, key row = wanted → shown (change row) = record) :
    tableMap key shown (rows.map fun row => if key row == wanted then change row else row) =
      if wanted ∈ tableMap key shown rows then (tableMap key shown rows).insert wanted record
      else tableMap key shown rows := by
  apply Finmap.ext_lookup
  intro other
  have sameKey : ((key · == other) ∘ fun row => if key row == wanted then change row else row) =
      (key · == other) := by
    funext row
    by_cases chosen : (key row == wanted) = true
    · simp only [Function.comp_apply, if_pos chosen, kept]
    · simp only [Function.comp_apply, if_neg chosen]
  rw [lookup_tableMap, List.find?_map, sameKey]
  by_cases present : wanted ∈ tableMap key shown rows
  · rw [if_pos present]
    by_cases same : other = wanted
    · subst same
      obtain ⟨row, found⟩ := Option.isSome_iff_exists.mp
        (List.find?_isSome.mpr (List.any_eq_true.mp (mem_tableMap.mp present)))
      have keyEq := List.find?_some found
      rw [Finmap.lookup_insert, found, Option.map_some, Option.map_some, if_pos keyEq,
        changed row (eq_of_beq keyEq)]
    · rw [Finmap.lookup_insert_of_ne _ same, lookup_tableMap]
      cases found : rows.find? (key · == other) with
      | none => rfl
      | some row =>
          have matched := List.find?_some found
          have keyEq := eq_of_beq matched
          have unchosen : ¬ (key row == wanted) = true := by
            simpa [keyEq] using same
          rw [Option.map_some, if_neg unchosen]
  · rw [if_neg present, lookup_tableMap]
    cases found : rows.find? (key · == other) with
    | none => rfl
    | some row =>
        have member := List.mem_of_find?_eq_some found
        have unchosen : ¬ (key row == wanted) = true := by
          intro chosen
          exact present (mem_tableMap.mpr (List.any_eq_true.mpr ⟨row, member, chosen⟩))
        rw [Option.map_some, if_neg unchosen]

theorem tableMap_remove {rows : List Row} {wanted : Key} :
    tableMap key shown (rows.filter fun row => !(key row == wanted)) =
      (tableMap key shown rows).erase wanted := by
  apply Finmap.ext_lookup
  intro other
  rw [lookup_tableMap, List.find?_filter]
  by_cases same : other = wanted
  · subst same
    rw [Finmap.lookup_erase]
    simp
  · rw [Finmap.lookup_erase_ne same, lookup_tableMap]
    have sameRow : (fun row => decide ((!(key row == wanted)) = true ∧ (key row == other) = true)) =
        (key · == other) := by
      funext row
      by_cases chosen : key row = other
      · simp [chosen, same]
      · simp [chosen]
    rw [sameRow]

theorem entries_tableMap {rows : List Row} (distinct : (rows.map key).Nodup) :
    (tableMap key shown rows).entries =
      Multiset.ofList (rows.map fun row => ⟨key row, shown row⟩) := by
  induction rows with
  | nil => rfl
  | cons row rows inductionHypothesis =>
      rw [List.map_cons, List.nodup_cons] at distinct
      obtain ⟨notLater, later⟩ := distinct
      have fresh : key row ∉ tableMap key shown rows := by
        intro member
        obtain ⟨other, otherMember, same⟩ := List.any_eq_true.mp (mem_tableMap.mp member)
        exact notLater (List.mem_map.mpr ⟨other, otherMember, eq_of_beq same⟩)
      rw [tableMap_cons, Finmap.entries_insert_of_notMem fresh, inductionHypothesis later]
      rfl

theorem distinct_append {rows : List Row} {row : Row} {wanted : Key} (isKey : key row = wanted)
    (distinct : (rows.map key).Nodup) (fresh : rows.any (key · == wanted) = false) :
    ((rows ++ [row]).map key).Nodup := by
  subst isKey
  rw [List.map_append, List.map_singleton]
  apply List.Nodup.append distinct (List.nodup_singleton _)
  intro present member isNew
  obtain ⟨other, otherMember, sameKey⟩ := List.mem_map.mp member
  rw [List.mem_singleton.mp isNew] at sameKey
  have found : rows.any (key · == key row) = true :=
    List.any_eq_true.mpr ⟨other, otherMember, beq_iff_eq.mpr sameKey⟩
  rw [fresh] at found
  cases found

theorem distinct_change {rows : List Row} {wanted : Key} {change : Row → Row}
    (kept : ∀ row, key (change row) = key row) (distinct : (rows.map key).Nodup) :
    ((rows.map fun row => if key row == wanted then change row else row).map key).Nodup := by
  have same : (rows.map fun row => if key row == wanted then change row else row).map key =
      rows.map key := by
    rw [List.map_map]
    apply List.map_congr_left
    intro row _
    rw [Function.comp_apply]
    split
    · exact kept row
    · rfl
  rw [same]
  exact distinct

end Rows

end ClaudeProxy.Library
