/-
Module: ClaudeProxy.Proofs.Deserialization
Layer: Proofs
Purpose: Two ways from a body to a request. A body that is read as a request, and also as a `Value`,
  gives the same request when it is read from that `Value`; and where fields of the `Value` are
  replaced, they are replaced in the request.
Trusted boundary: none
Main exports: Entries.collected, Rereads, fromValue_rewritten
-/
import ClaudeProxy.Anthropic.Deserialize
import ClaudeProxy.Library.Outcome
import Mathlib.Data.Option.Basic

namespace ClaudeProxy

open Library

/-! ### Maps in key order -/

namespace Entries

def Ascending (entries : Entries) : Prop :=
  entries.Pairwise fun first second => first.1 < second.1

/-- The map that a list of entries makes. -/
def collected (entries : Entries) : Entries :=
  entries.foldl (fun map entry => Entries.insert entry.1 entry.2 map) []

theorem insert_cons (key : String) (value : Value) (head : String × Value) (rest : Entries) :
    Entries.insert key value (head :: rest) =
      if key = head.1 then (key, value) :: rest
      else if key < head.1 then (key, value) :: head :: rest
      else head :: Entries.insert key value rest := rfl

theorem mem_insert {key : String} {value : Value} {entry : String × Value} {entries : Entries}
    (member : entry ∈ Entries.insert key value entries) :
    entry = (key, value) ∨ entry ∈ entries := by
  induction entries with
  | nil => exact .inl (List.mem_singleton.mp member)
  | cons head rest inductionHypothesis =>
      rw [insert_cons] at member
      split at member
      · rcases List.mem_cons.mp member with here | later
        · exact .inl here
        · exact .inr (List.mem_cons_of_mem _ later)
      · split at member
        · rcases List.mem_cons.mp member with here | later
          · exact .inl here
          · exact .inr later
        · rcases List.mem_cons.mp member with here | later
          · rw [here]
            exact .inr List.mem_cons_self
          · rcases inductionHypothesis later with here | held
            · exact .inl here
            · exact .inr (List.mem_cons_of_mem _ held)

theorem Ascending.insert {entries : Entries} (ascending : entries.Ascending) (key : String)
    (value : Value) : (Entries.insert key value entries).Ascending := by
  induction entries with
  | nil => exact List.pairwise_singleton _ _
  | cons head rest inductionHypothesis =>
      obtain ⟨above, ascendingRest⟩ := List.pairwise_cons.mp ascending
      rw [insert_cons]
      split
      · rename_i same
        apply List.pairwise_cons.mpr
        refine ⟨?_, ascendingRest⟩
        intro entry member
        rw [same]
        exact above entry member
      · split
        · rename_i before
          apply List.pairwise_cons.mpr
          refine ⟨?_, ascending⟩
          intro entry member
          rcases List.mem_cons.mp member with here | later
          · rw [here]
            exact before
          · exact lt_trans before (above entry later)
        · rename_i different notBefore
          apply List.pairwise_cons.mpr
          refine ⟨?_, inductionHypothesis ascendingRest⟩
          intro entry member
          rcases mem_insert member with here | later
          · rw [here]
            exact lt_of_le_of_ne (not_lt.mp notBefore) (Ne.symm different)
          · exact above entry later

/-- A key above all others goes to the end. -/
theorem insert_of_above {entries : Entries} {key : String} (above : ∀ entry ∈ entries, entry.1 < key)
    (value : Value) : Entries.insert key value entries = entries ++ [(key, value)] := by
  induction entries with
  | nil => rfl
  | cons head rest inductionHypothesis =>
      rw [List.forall_mem_cons] at above
      rw [insert_cons]
      rw [if_neg (ne_of_gt above.1), if_neg (not_lt_of_gt above.1), inductionHypothesis above.2]
      rfl

section Collected

variable {entries : Entries}

theorem ascending_foldl {map : Entries} (ascending : map.Ascending) :
    (entries.foldl (fun map entry => Entries.insert entry.1 entry.2 map) map).Ascending := by
  induction entries generalizing map with
  | nil => exact ascending
  | cons entry rest inductionHypothesis => exact inductionHypothesis (ascending.insert entry.1 entry.2)

theorem collected_ascending (entries : Entries) : entries.collected.Ascending :=
  ascending_foldl List.Pairwise.nil

theorem foldl_of_ascending {map : Entries} (ascending : (map ++ entries).Ascending) :
    entries.foldl (fun map entry => Entries.insert entry.1 entry.2 map) map = map ++ entries := by
  induction entries generalizing map with
  | nil => simp
  | cons entry rest inductionHypothesis =>
      obtain ⟨-, -, between⟩ := List.pairwise_append.mp ascending
      have above : ∀ held ∈ map, held.1 < entry.1 := fun held member =>
        between held member entry List.mem_cons_self
      rw [List.foldl_cons, insert_of_above above]
      have sameList : map ++ [(entry.1, entry.2)] ++ rest = map ++ entry :: rest := by simp
      rw [← sameList] at ascending ⊢
      exact inductionHypothesis ascending

/-- A list in key order is the map that it makes. -/
theorem collected_of_ascending (ascending : entries.Ascending) : entries.collected = entries := by
  have made := @foldl_of_ascending entries [] ascending
  exact made

theorem mem_foldl {map : Entries} {entry : String × Value}
    (member : entry ∈ entries.foldl (fun map entry => Entries.insert entry.1 entry.2 map) map) :
    entry ∈ map ∨ entry ∈ entries := by
  induction entries generalizing map with
  | nil => exact .inl member
  | cons head rest inductionHypothesis =>
      rcases inductionHypothesis member with held | later
      · rcases mem_insert held with here | before
        · rw [here]
          exact .inr List.mem_cons_self
        · exact .inl before
      · exact .inr (List.mem_cons_of_mem _ later)

theorem mem_collected {entry : String × Value} (member : entry ∈ entries.collected) :
    entry ∈ entries := by
  rcases mem_foldl member with impossible | held
  · cases impossible
  · exact held

end Collected

/-! ### Some keys of a map -/

/-- The entries of some keys. -/
def only (wanted : String → Bool) (entries : Entries) : Entries :=
  entries.filter fun entry => wanted entry.1

section Only

variable {wanted : String → Bool} {entries : Entries} {key : String} {value : Value}

theorem only_insert_of_not (unwanted : wanted key = false) :
    (Entries.insert key value entries).only wanted = entries.only wanted := by
  unfold only
  induction entries with
  | nil => simp [Entries.insert, unwanted]
  | cons head rest inductionHypothesis =>
      rw [insert_cons]
      split
      · rename_i same
        have unwantedHead : wanted head.1 = false := by rw [← same, unwanted]
        simp [unwanted, unwantedHead]
      · split
        · simp [unwanted]
        · rw [List.filter_cons, List.filter_cons, inductionHypothesis]

/-- In front of larger keys a key goes to the front. -/
theorem insert_of_below (below : ∀ entry ∈ entries, key < entry.1) :
    Entries.insert key value entries = (key, value) :: entries := by
  cases entries with
  | nil => rfl
  | cons head rest =>
      rw [List.forall_mem_cons] at below
      rw [insert_cons]
      rw [if_neg (ne_of_lt below.1), if_pos below.1]

theorem only_insert (isWanted : wanted key = true) (ascending : entries.Ascending) :
    (Entries.insert key value entries).only wanted =
      Entries.insert key value (entries.only wanted) := by
  unfold only
  induction entries with
  | nil => simp [Entries.insert, isWanted]
  | cons head rest inductionHypothesis =>
      obtain ⟨above, ascendingRest⟩ := List.pairwise_cons.mp ascending
      rw [insert_cons]
      by_cases same : key = head.1
      · rw [if_pos same]
        have wantedHead : wanted head.1 = true := by rw [← same, isWanted]
        rw [List.filter_cons, List.filter_cons, if_pos isWanted, if_pos wantedHead, insert_cons,
          if_pos same]
      · rw [if_neg same]
        by_cases before : key < head.1
        · rw [if_pos before, List.filter_cons, if_pos isWanted]
          symm
          apply insert_of_below
          intro entry member
          rcases List.mem_cons.mp (List.mem_of_mem_filter member) with here | later
          · rw [here]
            exact before
          · exact lt_trans before (above entry later)
        · rw [if_neg before, List.filter_cons, List.filter_cons, inductionHypothesis ascendingRest]
          by_cases wantedHead : wanted head.1 = true
          · rw [if_pos wantedHead, if_pos wantedHead, insert_cons, if_neg same, if_neg before]
          · rw [if_neg wantedHead, if_neg wantedHead]

theorem only_foldl {map : Entries} (ascending : map.Ascending) :
    (entries.foldl (fun map entry => Entries.insert entry.1 entry.2 map) map).only wanted =
      (entries.only wanted).foldl (fun map entry => Entries.insert entry.1 entry.2 map)
        (map.only wanted) := by
  induction entries generalizing map with
  | nil => rfl
  | cons entry rest inductionHypothesis =>
      rw [List.foldl_cons, inductionHypothesis (ascending.insert entry.1 entry.2)]
      unfold only
      rw [List.filter_cons]
      by_cases isWanted : wanted entry.1 = true
      · rw [if_pos isWanted, List.foldl_cons]
        congr 1
        exact only_insert isWanted ascending
      · rw [if_neg isWanted]
        congr 1
        exact only_insert_of_not (by simpa using isWanted)

/-- Above a key there is no entry of it. -/
theorem only_key_of_below (below : ∀ entry ∈ entries, key < entry.1) :
    entries.only (fun other => other = key) = [] := by
  apply List.filter_eq_nil_iff.mpr
  intro entry member
  simpa using ne_of_gt (below entry member)

/-- An inserted key has the one entry. -/
theorem only_key_insert (ascending : entries.Ascending) :
    (Entries.insert key value entries).only (fun other => other = key) = [(key, value)] := by
  induction entries with
  | nil => simp [Entries.insert, only]
  | cons head rest inductionHypothesis =>
      obtain ⟨above, ascendingRest⟩ := List.pairwise_cons.mp ascending
      rw [insert_cons]
      by_cases same : key = head.1
      · have none := only_key_of_below fun entry member => same ▸ above entry member
        rw [if_pos same]
        unfold only at none ⊢
        rw [List.filter_cons, if_pos (by simp), none]
      · rw [if_neg same]
        by_cases before : key < head.1
        · have none : Entries.only (fun other => other = key) (head :: rest) = [] := by
            apply only_key_of_below
            rw [List.forall_mem_cons]
            exact ⟨before, fun entry member => lt_trans before (above entry member)⟩
          rw [if_pos before]
          unfold only at none ⊢
          rw [List.filter_cons, if_pos (by simp), none]
        · have later := inductionHypothesis ascendingRest
          rw [if_neg before]
          unfold only at later ⊢
          rw [List.filter_cons, if_neg (by simpa using Ne.symm same), later]

/-- To take some keys of the map is to take them from the list. -/
theorem only_collected : entries.collected.only wanted = (entries.only wanted).collected :=
  only_foldl List.Pairwise.nil

end Only

end Entries

theorem Value.obj_eq (entries : Entries) : Value.obj entries = .object entries.collected := rfl

/-! ### Reading again -/

/-- What is read from a text is read again from the value of the text. -/
def Rereads {α : Type} (read : Reader α) : Prop :=
  ∀ {depth : Depth} {text : JsonText} {result : α} {value : Value},
    read depth text = some result → readValue depth text = some value →
      read none value.toText = some result

/-- A text and what is shown of its value. -/
def Shown (depth : Depth) (text shown : JsonText) : Prop :=
  ∃ value, readValue depth text = some value ∧ shown = value.toText

theorem Rereads.shown {α : Type} {read : Reader α} (rereads : Rereads read) {depth : Depth}
    {text shown : JsonText} {result : α} (isShown : Shown depth text shown)
    (accepted : read depth text = some result) : read none shown = some result := by
  obtain ⟨value, valueEq, rfl⟩ := isShown
  exact rereads accepted valueEq

theorem toTexts_eq_map (items : List Value) : Value.toTexts items = items.map Value.toText := by
  induction items with
  | nil => rfl
  | cons item rest inductionHypothesis =>
      rw [Value.toTexts, inductionHypothesis]
      rfl

theorem toEntries_eq_map (entries : Entries) :
    Value.toEntries entries = entries.map fun entry => (some entry.1, entry.2.toText) := by
  induction entries with
  | nil => rfl
  | cons entry rest inductionHypothesis =>
      obtain ⟨key, item⟩ := entry
      rw [Value.toEntries, inductionHypothesis]
      rfl

theorem readValues_eq_some {depth : Depth} {items : List JsonText} {values : List Value} :
    readValues depth items = some values ↔
      List.Forall₂ (fun item value => readValue depth item = some value) items values := by
  induction items generalizing values with
  | nil => simp [readValues, eq_comm]
  | cons item rest inductionHypothesis =>
      rw [readValues, List.forall₂_cons_left_iff]
      simp only [Option.bind_eq_some_iff, Option.map_eq_some_iff, inductionHypothesis]
      constructor
      · rintro ⟨value, here, tail, later, rfl⟩
        exact ⟨value, tail, here, later, rfl⟩
      · rintro ⟨value, tail, here, later, rfl⟩
        exact ⟨value, here, tail, later, rfl⟩

theorem readEntries_eq_some {depth : Depth} {items : List (Option String × JsonText)}
    {entries : Entries} :
    readEntries depth items = some entries ↔
      List.Forall₂ (fun item entry => item.1 = some entry.1 ∧
        readValue depth item.2 = some entry.2) items entries := by
  induction items generalizing entries with
  | nil => simp [readEntries, eq_comm]
  | cons item rest inductionHypothesis =>
      obtain ⟨key, text⟩ := item
      rw [readEntries, List.forall₂_cons_left_iff]
      simp only [Option.bind_eq_some_iff, Option.map_eq_some_iff, inductionHypothesis]
      constructor
      · rintro ⟨name, nameEq, value, valueEq, tail, later, rfl⟩
        exact ⟨(name, value), tail, ⟨nameEq, valueEq⟩, later, rfl⟩
      · rintro ⟨entry, tail, ⟨nameEq, valueEq⟩, later, rfl⟩
        exact ⟨entry.1, nameEq, entry.2, valueEq, tail, later, rfl⟩

/-- Values that are read again one by one are read again as an array, and as a map. -/
theorem readValues_toTexts {values : List Value}
    (each : ∀ value ∈ values, readValue none value.toText = some value) :
    readValues none (Value.toTexts values) = some values := by
  rw [readValues_eq_some, toTexts_eq_map, List.forall₂_map_left_iff, List.forall₂_same]
  exact each

theorem readEntries_toEntries {entries : Entries}
    (each : ∀ entry ∈ entries, readValue none entry.2.toText = some entry.2) :
    readEntries none (Value.toEntries entries) = some entries := by
  rw [readEntries_eq_some, toEntries_eq_map, List.forall₂_map_left_iff, List.forall₂_same]
  intro entry member
  exact ⟨rfl, each entry member⟩

mutual

/-- A value that was read is read again. The induction is on the text. -/
theorem readValue_toText {depth : Depth} : (text : JsonText) → {value : Value} →
    readValue depth text = some value → readValue none value.toText = some value
  | .null, value, accepted => by
      cases accepted
      rfl
  | .bool _, value, accepted => by
      cases accepted
      rfl
  | .number literal, value, accepted => by
      obtain ⟨number, rfl, rfl⟩ := Option.map_eq_some_iff.mp accepted
      rfl
  | .string literal, value, accepted => by
      obtain ⟨string, rfl, rfl⟩ := Option.map_eq_some_iff.mp accepted
      rfl
  | .array items, value, accepted => by
      obtain ⟨inner, -, read⟩ := Option.bind_eq_some_iff.mp accepted
      obtain ⟨values, valuesEq, rfl⟩ := Option.map_eq_some_iff.mp read
      have again := readValues_toTexts (readValues_each items valuesEq)
      rw [Value.toText, readValue]
      exact congrArg (Option.map Value.array) again
  | .object items, value, accepted => by
      obtain ⟨inner, -, read⟩ := Option.bind_eq_some_iff.mp accepted
      obtain ⟨entries, entriesEq, rfl⟩ := Option.map_eq_some_iff.mp read
      have each := readEntries_each items entriesEq
      have again : readEntries none (Value.toEntries entries.collected) = some entries.collected :=
        readEntries_toEntries fun entry member => each entry (Entries.mem_collected member)
      rw [Value.obj_eq, Value.toText, readValue]
      apply (congrArg (Option.map Value.obj) again).trans
      rw [Option.map_some, Value.obj_eq,
        Entries.collected_of_ascending (Entries.collected_ascending entries)]

theorem readValues_each {depth : Depth} : (items : List JsonText) → {values : List Value} →
    readValues depth items = some values →
    ∀ value ∈ values, readValue none value.toText = some value
  | [], values, accepted => by
      cases accepted
      simp
  | item :: rest, values, accepted => by
      obtain ⟨value, valueEq, read⟩ := Option.bind_eq_some_iff.mp accepted
      obtain ⟨tail, tailEq, rfl⟩ := Option.map_eq_some_iff.mp read
      rw [List.forall_mem_cons]
      exact ⟨readValue_toText item valueEq, readValues_each rest tailEq⟩

theorem readEntries_each {depth : Depth} : (items : List (Option String × JsonText)) →
    {entries : Entries} → readEntries depth items = some entries →
    ∀ entry ∈ entries, readValue none entry.2.toText = some entry.2
  | [], entries, accepted => by
      cases accepted
      simp
  | (key, item) :: rest, entries, accepted => by
      obtain ⟨name, -, read⟩ := Option.bind_eq_some_iff.mp accepted
      obtain ⟨value, valueEq, read⟩ := Option.bind_eq_some_iff.mp read
      obtain ⟨tail, tailEq, rfl⟩ := Option.map_eq_some_iff.mp read
      rw [List.forall_mem_cons]
      exact ⟨readValue_toText item valueEq, readEntries_each rest tailEq⟩

end

theorem readValue_rereads : Rereads readValue := by
  intro depth text result value accepted valueEq
  rw [accepted] at valueEq
  cases valueEq
  exact readValue_toText text accepted

/-! ### Simple readers -/

/-- A scalar that was read as a value shows itself again. -/
theorem toText_eq_of_scalar {depth : Depth} {text : JsonText} {value : Value}
    (valueEq : readValue depth text = some value) (noArray : ∀ items, text ≠ .array items)
    (noObject : ∀ entries, text ≠ .object entries) : value.toText = text := by
  cases text with
  | null | bool flag =>
      cases valueEq
      rfl
  | number literal | string literal =>
      obtain ⟨_, rfl, rfl⟩ := Option.map_eq_some_iff.mp valueEq
      rfl
  | array items => exact absurd rfl (noArray items)
  | object entries => exact absurd rfl (noObject entries)

/-- A reader of scalars does not look at the depth, and takes no array and no object. -/
theorem Rereads.scalar {α : Type} {read : Reader α}
    (anyDepth : ∀ depth depth' text, read depth text = read depth' text)
    (noArray : ∀ depth items, read depth (.array items) = none)
    (noObject : ∀ depth entries, read depth (.object entries) = none) : Rereads read := by
  intro depth text result value accepted valueEq
  have same : value.toText = text := by
    apply toText_eq_of_scalar valueEq
    · rintro items rfl
      rw [noArray] at accepted
      cases accepted
    · rintro entries rfl
      rw [noObject] at accepted
      cases accepted
  rw [same, anyDepth none depth]
  exact accepted

theorem readString_rereads : Rereads readString :=
  Rereads.scalar (fun _ _ _ => rfl) (fun _ _ => rfl) fun _ _ => rfl

theorem readU32_rereads : Rereads readU32 :=
  Rereads.scalar (fun _ _ _ => rfl) (fun _ _ => rfl) fun _ _ => rfl

theorem readF64_rereads : Rereads readF64 :=
  Rereads.scalar (fun _ _ _ => rfl) (fun _ _ => rfl) fun _ _ => rfl

theorem readOption_of_ne {α : Type} {read : Reader α} {depth : Depth} {text : JsonText}
    (notNull : text ≠ .null) : readOption read depth text = (read depth text).map some := by
  cases text with
  | null => exact absurd rfl notNull
  | bool => rfl
  | number => rfl
  | string => rfl
  | array => rfl
  | object => rfl

/-- Only `null` is read as `null`. -/
theorem toText_ne_null {depth : Depth} {text : JsonText} {value : Value}
    (valueEq : readValue depth text = some value) (notNull : text ≠ .null) :
    value.toText ≠ .null := by
  intro isNull
  cases value with
  | null =>
      cases text with
      | null => exact notNull rfl
      | bool => cases valueEq
      | number literal =>
          obtain ⟨_, -, impossible⟩ := Option.map_eq_some_iff.mp valueEq
          cases impossible
      | string literal =>
          obtain ⟨_, -, impossible⟩ := Option.map_eq_some_iff.mp valueEq
          cases impossible
      | array items =>
          obtain ⟨_, -, read⟩ := Option.bind_eq_some_iff.mp valueEq
          obtain ⟨_, -, impossible⟩ := Option.map_eq_some_iff.mp read
          cases impossible
      | object entries =>
          obtain ⟨_, -, read⟩ := Option.bind_eq_some_iff.mp valueEq
          obtain ⟨_, -, impossible⟩ := Option.map_eq_some_iff.mp read
          cases impossible
  | bool => cases isNull
  | number => cases isNull
  | string => cases isNull
  | array => cases isNull
  | object => cases isNull

theorem Rereads.option {α : Type} {read : Reader α} (rereads : Rereads read) :
    Rereads (readOption read) := by
  intro depth text result value accepted valueEq
  by_cases isNull : text = .null
  · subst isNull
    cases valueEq
    exact accepted
  · rw [readOption_of_ne isNull] at accepted
    obtain ⟨inner, innerEq, rfl⟩ := Option.map_eq_some_iff.mp accepted
    rw [readOption_of_ne (toText_ne_null valueEq isNull), rereads innerEq valueEq]
    rfl

/-- The items of an array that was read as a value. -/
theorem readValue_array {depth : Depth} {items : List JsonText} {value : Value}
    (valueEq : readValue depth (.array items) = some value) :
    ∃ inner values, depth.enter = some inner ∧ value = .array values ∧
      List.Forall₂ (fun item value => readValue inner item = some value) items values := by
  obtain ⟨inner, entered, read⟩ := Option.bind_eq_some_iff.mp valueEq
  obtain ⟨values, valuesEq, rfl⟩ := Option.map_eq_some_iff.mp read
  exact ⟨inner, values, entered, rfl, readValues_eq_some.mp valuesEq⟩

theorem Rereads.vec {α : Type} {read : Reader α} (rereads : Rereads read) :
    Rereads (readVec read) := by
  intro depth text result value accepted valueEq
  cases text with
  | array items =>
      obtain ⟨inner, values, entered, rfl, each⟩ := readValue_array valueEq
      have readItems : items.mapM (read inner) = some result := by
        simpa only [readVec, entered, Option.bind_some] using accepted
      have again : (Value.toTexts values).mapM (read none) = some result := by
        rw [Except.mapM_eq_some] at readItems ⊢
        rw [toTexts_eq_map, List.forall₂_map_left_iff]
        clear accepted valueEq
        induction each generalizing result with
        | nil =>
            cases readItems
            exact .nil
        | cons here later inductionHypothesis =>
            cases readItems with
            | cons first rest => exact .cons (rereads first here) (inductionHypothesis rest)
      exact again
  | null => cases accepted
  | bool => cases accepted
  | number => cases accepted
  | string => cases accepted
  | object => cases accepted

/-! ### Fields -/

/-- The entries that a map shows. -/
def shownEntries (entries : Entries) : List (String × JsonText) :=
  entries.map fun entry => (entry.1, entry.2.toText)

theorem keyed_toEntries (entries : Entries) :
    keyed (Value.toEntries entries) = some (shownEntries entries) := by
  unfold keyed shownEntries
  rw [Except.mapM_eq_some, toEntries_eq_map, List.forall₂_map_left_iff, List.forall₂_map_right_iff,
    List.forall₂_same]
  intro entry _
  rfl

/-- Named entries, and the values of them. -/
abbrev Valued (depth : Depth) (named : List (String × JsonText)) (entries : Entries) : Prop :=
  List.Forall₂ (fun item entry => item.1 = entry.1 ∧ readValue depth item.2 = some entry.2) named
    entries

/-- The entries of an object that was read as a value. -/
theorem readValue_object {depth : Depth} {items : List (Option String × JsonText)} {value : Value}
    (valueEq : readValue depth (.object items) = some value) {named : List (String × JsonText)}
    (keyedEq : keyed items = some named) :
    ∃ inner entries, depth.enter = some inner ∧ Valued inner named entries ∧
      value = .object entries.collected := by
  obtain ⟨inner, entered, read⟩ := Option.bind_eq_some_iff.mp valueEq
  obtain ⟨entries, entriesEq, rfl⟩ := Option.map_eq_some_iff.mp read
  refine ⟨inner, entries, entered, ?_, rfl⟩
  have each := readEntries_eq_some.mp entriesEq
  have names := Except.mapM_eq_some.mp keyedEq
  clear entriesEq valueEq read keyedEq
  induction each generalizing named with
  | nil =>
      cases names
      exact .nil
  | cons here later inductionHypothesis =>
      cases names with
      | cons name others =>
          obtain ⟨nameEq, valueEq⟩ := here
          rw [nameEq] at name
          cases name
          exact .cons ⟨rfl, valueEq⟩ (inductionHypothesis others)

/-- Some of the entries, by their keys. -/
theorem Valued.filter {depth : Depth} {named : List (String × JsonText)} {entries : Entries}
    (valued : Valued depth named entries) (wanted : String → Bool) :
    Valued depth (named.filter fun item => wanted item.1) (entries.only wanted) := by
  unfold Entries.only
  induction valued with
  | nil => exact .nil
  | cons here later inductionHypothesis =>
      rw [List.filter_cons, List.filter_cons, here.1]
      split
      · exact .cons here inductionHypothesis
      · exact inductionHypothesis

theorem shownEntries_filter (wanted : String → Bool) (entries : Entries) :
    (shownEntries entries).filter (fun item => wanted item.1) =
      shownEntries (entries.only wanted) := by
  unfold shownEntries Entries.only
  rw [List.filter_map]
  rfl

/-- What a field of the source shows in the map: nothing, or the value of its text. -/
def FieldShown (depth : Depth) (name : String) (named shown : List (String × JsonText)) : Prop :=
  ∀ found, fieldAt name named = some found → ∃ found', fieldAt name shown = some found' ∧
    Option.Rel (Shown depth) found found'

theorem fieldShown_of_only {depth : Depth} {name : String} {named : List (String × JsonText)}
    {entries map : Entries} (valued : Valued depth named entries)
    (same : map.only (fun key => key = name) = (entries.only fun key => key = name).collected) :
    FieldShown depth name named (shownEntries map) := by
  intro found foundEq
  have filtered := valued.filter fun key => decide (key = name)
  unfold fieldAt at foundEq ⊢
  rw [shownEntries_filter (fun key => decide (key = name)), same]
  revert filtered
  generalize entries.only (fun key => decide (key = name)) = ofName
  intro filtered
  split at foundEq
  · rename_i none
    rw [none] at filtered
    cases filtered
    cases foundEq
    exact ⟨_, rfl, .none⟩
  · rename_i item one
    rw [one] at filtered
    cases filtered with
    | cons here later =>
        cases later
        cases foundEq
        exact ⟨_, rfl, .some ⟨_, here.2, rfl⟩⟩
  · cases foundEq

theorem fieldAt_inserted {key : String} {value : Value} {map : Entries}
    (ascending : map.Ascending) :
    fieldAt key (shownEntries (Entries.insert key value map)) = some (some value.toText) := by
  unfold fieldAt
  rw [shownEntries_filter (fun other => decide (other = key)), Entries.only_key_insert ascending]
  rfl

section Fields

variable {α : Type} {read : Reader α} {depth : Depth} {name : String}
  {named shown : List (String × JsonText)} {result : α}

theorem Rereads.required (rereads : Rereads read) (fieldShown : FieldShown depth name named shown)
    (accepted : required name read depth named = some result) :
    required name read none shown = some result := by
  obtain ⟨found, foundEq, readEq⟩ := Option.bind_eq_some_iff.mp accepted
  obtain ⟨text, rfl, textEq⟩ := Option.bind_eq_some_iff.mp readEq
  obtain ⟨found', foundEq', related⟩ := fieldShown _ foundEq
  cases related with
  | some isShown =>
      apply Option.bind_eq_some_iff.mpr
      exact ⟨_, foundEq', rereads.shown isShown textEq⟩

theorem Rereads.defaulted {default : α} (rereads : Rereads read)
    (fieldShown : FieldShown depth name named shown)
    (accepted : defaulted name default read depth named = some result) :
    defaulted name default read none shown = some result := by
  obtain ⟨found, foundEq, readEq⟩ := Option.bind_eq_some_iff.mp accepted
  obtain ⟨found', foundEq', related⟩ := fieldShown _ foundEq
  apply Option.bind_eq_some_iff.mpr
  cases related with
  | none => exact ⟨none, foundEq', readEq⟩
  | some isShown => exact ⟨_, foundEq', rereads.shown isShown readEq⟩

end Fields

/-- The flattened entries are those of the map. -/
theorem flattened_shown {depth : Depth} {known : List String} {named : List (String × JsonText)}
    {entries map extensions : Entries} (valued : Valued depth named entries)
    (same : map.only (fun key => key ∉ known) = (entries.only fun key => key ∉ known).collected)
    (accepted : flattened known depth named = some extensions) :
    flattened known none (shownEntries map) = some extensions := by
  have filtered := valued.filter fun key => decide (key ∉ known)
  have each : ∀ entry ∈ entries.only fun key => decide (key ∉ known),
      readValue none entry.2.toText = some entry.2 := by
    intro entry member
    obtain ⟨item, -, -, readEq⟩ := Except.exists_of_mem_right filtered member
    exact readValue_toText item.2 readEq
  unfold flattened at accepted ⊢
  dsimp only at accepted ⊢
  rw [shownEntries_filter (fun key => decide (key ∉ known)), same]
  revert filtered each
  generalize entries.only (fun key => decide (key ∉ known)) = unknown
  intro filtered each
  have readEntries : (named.filter fun item => decide (item.1 ∉ known)).mapM
      (fun entry => (readValue depth entry.2).map fun value => (entry.1, value)) =
        some unknown := by
    rw [Except.mapM_eq_some]
    refine filtered.imp ?_
    intro item entry here
    rw [here.2, here.1]
    rfl
  rw [readEntries] at accepted
  have rereadEntries : (shownEntries unknown.collected).mapM
      (fun entry => (readValue none entry.2).map fun value => (entry.1, value)) =
        some unknown.collected := by
    rw [Except.mapM_eq_some]
    unfold shownEntries
    rw [List.forall₂_map_left_iff, List.forall₂_same]
    intro entry member
    rw [each entry (Entries.mem_collected member)]
    rfl
  rw [rereadEntries]
  cases accepted
  exact congrArg some (Entries.collected_of_ascending (Entries.collected_ascending unknown))

/-! ### Structs -/

theorem readMessage_rereads : Rereads readMessage := by
  intro depth text result value accepted valueEq
  cases text with
  | object items =>
      simp only [readMessage, Option.bind_eq_bind, Option.bind_eq_some_iff] at accepted
      obtain ⟨inner, entered, named, keyedEq, role, roleEq, content, contentEq, same⟩ := accepted
      obtain ⟨inner', entries, entered', valued, rfl⟩ := readValue_object valueEq keyedEq
      rw [entered] at entered'
      cases entered'
      have shown : ∀ name, FieldShown inner name named (shownEntries entries.collected) :=
        fun name => fieldShown_of_only valued Entries.only_collected
      have roleShown := readString_rereads.required (shown "role") roleEq
      have contentShown := readValue_rereads.required (shown "content") contentEq
      simp only [readMessage, Value.toText, Depth.enter, keyed_toEntries, Option.bind_eq_bind,
        Option.bind_some, roleShown, contentShown]
      exact same
  | array items =>
      match items, accepted, valueEq with
      | [roleText, contentText], accepted, valueEq =>
          simp only [readMessage, Option.bind_eq_bind, Option.bind_eq_some_iff] at accepted
          obtain ⟨inner, entered, role, roleEq, content, contentEq, same⟩ := accepted
          obtain ⟨inner', values, entered', rfl, each⟩ := readValue_array valueEq
          rw [entered] at entered'
          cases entered'
          cases each with
          | cons roleValue others =>
              cases others with
              | cons contentValue none =>
                  cases none
                  have roleShown := readString_rereads roleEq roleValue
                  have contentShown := readValue_rereads contentEq contentValue
                  simp only [readMessage, Value.toText, Value.toTexts, Depth.enter,
                    Option.bind_eq_bind, Option.bind_some, roleShown, contentShown]
                  exact same
  | null => cases accepted
  | bool => cases accepted
  | number => cases accepted
  | string => cases accepted

theorem readTool_rereads : Rereads readTool := by
  intro depth text result value accepted valueEq
  cases text with
  | object items =>
      simp only [readTool, Option.bind_eq_bind, Option.bind_eq_some_iff] at accepted
      obtain ⟨inner, entered, named, keyedEq, name, nameEq, description, descriptionEq, inputSchema,
        inputSchemaEq, extensions, extensionsEq, same⟩ := accepted
      obtain ⟨inner', entries, entered', valued, rfl⟩ := readValue_object valueEq keyedEq
      rw [entered] at entered'
      cases entered'
      have shown : ∀ name, FieldShown inner name named (shownEntries entries.collected) :=
        fun name => fieldShown_of_only valued Entries.only_collected
      have nameShown := readString_rereads.required (shown "name") nameEq
      have descriptionShown := Rereads.defaulted (Rereads.option readString_rereads)
        (shown "description") descriptionEq
      have inputSchemaShown := readValue_rereads.required (shown "input_schema") inputSchemaEq
      have extensionsShown := flattened_shown valued Entries.only_collected extensionsEq
      simp only [readTool, Value.toText, Depth.enter, keyed_toEntries, Option.bind_eq_bind,
        Option.bind_some, nameShown, descriptionShown, inputSchemaShown, extensionsShown]
      exact same
  | null => cases accepted
  | bool => cases accepted
  | number => cases accepted
  | string => cases accepted
  | array => cases accepted

/-! ### The request -/

/-- What `count_tokens` makes of the body's map. -/
def rewrittenEntries (entries : Entries) : Entries :=
  Entries.insert "stream" (.bool false) (Entries.insert "max_tokens" (.num 1) entries)

theorem only_rewritten {wanted : String → Bool} {entries : Entries}
    (notMaxTokens : wanted "max_tokens" = false) (notStream : wanted "stream" = false) :
    (rewrittenEntries entries.collected).only wanted = (entries.only wanted).collected := by
  unfold rewrittenEntries
  rw [Entries.only_insert_of_not notStream, Entries.only_insert_of_not notMaxTokens,
    Entries.only_collected]

theorem rewritten_stream (entries : Entries) :
    defaulted "stream" false readBool none (shownEntries (rewrittenEntries entries.collected)) =
      some false := by
  have ascending := (Entries.collected_ascending entries).insert "max_tokens" (.num 1)
  unfold defaulted rewrittenEntries
  rw [fieldAt_inserted ascending]
  rfl

theorem rewritten_maxTokens (entries : Entries) :
    required "max_tokens" readU32 none (shownEntries (rewrittenEntries entries.collected)) =
      some 1 := by
  have ofName : fieldAt "max_tokens" (shownEntries (rewrittenEntries entries.collected)) =
      some (some (Value.num 1).toText) := by
    have inserted := @fieldAt_inserted "max_tokens" (.num 1) _ (Entries.collected_ascending entries)
    unfold fieldAt at inserted ⊢
    rw [shownEntries_filter (fun other => decide (other = "max_tokens"))] at inserted ⊢
    unfold rewrittenEntries
    rw [Entries.only_insert_of_not (by decide)]
    exact inserted
  unfold required
  rw [ofName]
  rfl

/-- What the fields of a request are read from. -/
structure FieldsRead (depth : Depth) (entries : List (String × JsonText))
    (request : AnthropicRequest) : Prop where
  model : required "model" readString depth entries = some request.model
  maxTokens : required "max_tokens" readU32 depth entries = some request.maxTokens
  messages : required "messages" (readVec readMessage) depth entries = some request.messages
  stream : defaulted "stream" false readBool depth entries = some request.stream
  system : defaulted "system" none (readOption readValue) depth entries = some request.system
  temperature : defaulted "temperature" none (readOption readF64) depth entries =
    some request.temperature
  topP : defaulted "top_p" none (readOption readF64) depth entries = some request.topP
  topK : defaulted "top_k" none (readOption readU32) depth entries = some request.topK
  stopSequences : defaulted "stop_sequences" none (readOption (readVec readString)) depth entries =
    some request.stopSequences
  metadata : defaulted "metadata" none (readOption readValue) depth entries = some request.metadata
  tools : defaulted "tools" [] (readVec readTool) depth entries = some request.tools
  toolChoice : defaulted "tool_choice" none (readOption readValue) depth entries =
    some request.toolChoice
  thinking : defaulted "thinking" none (readOption readValue) depth entries = some request.thinking
  extensions : flattened requestFields depth entries = some request.extensions

theorem readFields_eq_some {depth : Depth} {entries : List (String × JsonText)}
    {request : AnthropicRequest} :
    readFields depth entries = some request ↔ FieldsRead depth entries request := by
  constructor
  · intro accepted
    obtain ⟨_, model, accepted⟩ := Option.bind_eq_some_iff.mp accepted
    obtain ⟨_, maxTokens, accepted⟩ := Option.bind_eq_some_iff.mp accepted
    obtain ⟨_, messages, accepted⟩ := Option.bind_eq_some_iff.mp accepted
    obtain ⟨_, stream, accepted⟩ := Option.bind_eq_some_iff.mp accepted
    obtain ⟨_, system, accepted⟩ := Option.bind_eq_some_iff.mp accepted
    obtain ⟨_, temperature, accepted⟩ := Option.bind_eq_some_iff.mp accepted
    obtain ⟨_, topP, accepted⟩ := Option.bind_eq_some_iff.mp accepted
    obtain ⟨_, topK, accepted⟩ := Option.bind_eq_some_iff.mp accepted
    obtain ⟨_, stopSequences, accepted⟩ := Option.bind_eq_some_iff.mp accepted
    obtain ⟨_, metadata, accepted⟩ := Option.bind_eq_some_iff.mp accepted
    obtain ⟨_, tools, accepted⟩ := Option.bind_eq_some_iff.mp accepted
    obtain ⟨_, toolChoice, accepted⟩ := Option.bind_eq_some_iff.mp accepted
    obtain ⟨_, thinking, accepted⟩ := Option.bind_eq_some_iff.mp accepted
    obtain ⟨_, extensions, accepted⟩ := Option.bind_eq_some_iff.mp accepted
    cases accepted
    exact ⟨model, maxTokens, messages, stream, system, temperature, topP, topK, stopSequences,
      metadata, tools, toolChoice, thinking, extensions⟩
  · intro fields
    refine Option.bind_eq_some_iff.mpr ⟨_, fields.model, ?_⟩
    refine Option.bind_eq_some_iff.mpr ⟨_, fields.maxTokens, ?_⟩
    refine Option.bind_eq_some_iff.mpr ⟨_, fields.messages, ?_⟩
    refine Option.bind_eq_some_iff.mpr ⟨_, fields.stream, ?_⟩
    refine Option.bind_eq_some_iff.mpr ⟨_, fields.system, ?_⟩
    refine Option.bind_eq_some_iff.mpr ⟨_, fields.temperature, ?_⟩
    refine Option.bind_eq_some_iff.mpr ⟨_, fields.topP, ?_⟩
    refine Option.bind_eq_some_iff.mpr ⟨_, fields.topK, ?_⟩
    refine Option.bind_eq_some_iff.mpr ⟨_, fields.stopSequences, ?_⟩
    refine Option.bind_eq_some_iff.mpr ⟨_, fields.metadata, ?_⟩
    refine Option.bind_eq_some_iff.mpr ⟨_, fields.tools, ?_⟩
    refine Option.bind_eq_some_iff.mpr ⟨_, fields.toolChoice, ?_⟩
    refine Option.bind_eq_some_iff.mpr ⟨_, fields.thinking, ?_⟩
    refine Option.bind_eq_some_iff.mpr ⟨_, fields.extensions, ?_⟩
    rfl

/-- A body that is read as a request and as a map of values: the map with the two fields replaced is
read as the request with the two fields replaced. -/
theorem fromValue_rewritten {text : JsonText} {request : AnthropicRequest} {value : Value}
    (accepted : AnthropicRequest.fromText text = some request)
    (valueEq : readValue textDepth text = some value) :
    ∃ entries, value = .object entries ∧
      AnthropicRequest.fromValue (.object (rewrittenEntries entries)) =
        some { request with maxTokens := 1, stream := false } := by
  unfold AnthropicRequest.fromText at accepted
  cases text with
  | object items =>
      simp only [readRequest, Option.bind_eq_bind, Option.bind_eq_some_iff] at accepted
      obtain ⟨inner, entered, named, keyedEq, fieldsEq⟩ := accepted
      obtain ⟨inner', entries, entered', valued, rfl⟩ := readValue_object valueEq keyedEq
      rw [entered] at entered'
      cases entered'
      refine ⟨entries.collected, rfl, ?_⟩
      have shown : ∀ name, name ≠ "max_tokens" → name ≠ "stream" →
          FieldShown inner name named (shownEntries (rewrittenEntries entries.collected)) := by
        intro name notMaxTokens notStream
        apply fieldShown_of_only valued
        exact only_rewritten (decide_eq_false notMaxTokens.symm) (decide_eq_false notStream.symm)
      have optionalShown : ∀ name, name ≠ "max_tokens" → name ≠ "stream" →
          ∀ {α : Type} {read : Reader α} {result}, Rereads read →
            defaulted name none (readOption read) inner named = some result →
            defaulted name none (readOption read) none
              (shownEntries (rewrittenEntries entries.collected)) = some result :=
        fun name notMaxTokens notStream _ _ _ rereads readEq =>
          Rereads.defaulted rereads.option (shown name notMaxTokens notStream) readEq
      have fields := readFields_eq_some.mp fieldsEq
      have modelShown := readString_rereads.required (shown "model" (by decide) (by decide)) fields.model
      have messagesShown := Rereads.required (Rereads.vec readMessage_rereads)
        (shown "messages" (by decide) (by decide)) fields.messages
      have systemShown := optionalShown "system" (by decide) (by decide) readValue_rereads fields.system
      have temperatureShown := optionalShown "temperature" (by decide) (by decide) readF64_rereads
        fields.temperature
      have topPShown := optionalShown "top_p" (by decide) (by decide) readF64_rereads fields.topP
      have topKShown := optionalShown "top_k" (by decide) (by decide) readU32_rereads fields.topK
      have stopSequencesShown := optionalShown "stop_sequences" (by decide) (by decide)
        (Rereads.vec readString_rereads) fields.stopSequences
      have metadataShown := optionalShown "metadata" (by decide) (by decide) readValue_rereads
        fields.metadata
      have toolsShown := Rereads.defaulted (Rereads.vec readTool_rereads)
        (shown "tools" (by decide) (by decide)) fields.tools
      have toolChoiceShown := optionalShown "tool_choice" (by decide) (by decide) readValue_rereads
        fields.toolChoice
      have thinkingShown := optionalShown "thinking" (by decide) (by decide) readValue_rereads
        fields.thinking
      have extensionsShown := flattened_shown valued
        (only_rewritten (by decide) (by decide)) fields.extensions
      have fieldsShown : readFields none (shownEntries (rewrittenEntries entries.collected)) =
          some { request with maxTokens := 1, stream := false } :=
        readFields_eq_some.mpr
          { model := modelShown
            maxTokens := rewritten_maxTokens entries
            messages := messagesShown
            stream := rewritten_stream entries
            system := systemShown
            temperature := temperatureShown
            topP := topPShown
            topK := topKShown
            stopSequences := stopSequencesShown
            metadata := metadataShown
            tools := toolsShown
            toolChoice := toolChoiceShown
            thinking := thinkingShown
            extensions := extensionsShown }
      unfold AnthropicRequest.fromValue
      rw [Value.toText]
      simp only [readRequest, Depth.enter, keyed_toEntries, Option.bind_eq_bind, Option.bind_some]
      exact fieldsShown
  | null => cases accepted
  | bool => cases accepted
  | number => cases accepted
  | string => cases accepted
  | array => cases accepted

end ClaudeProxy
