/-
Module: ClaudeProxy.Library.Pairing
Layer: Library
Purpose: Histories in which things are opened and closed by name. A checker that keeps the names
  opened and closed so far accepts a history exactly when it is paired: no name is opened twice, none
  is closed twice, and each is opened before it is closed.
Trusted boundary: none
Main exports: Mark, opens, closes, Paired, paired_append_rounds, Ledger.mark, scan_eq_some, MarkAt,
  paired_filterMap_iff
-/
import Mathlib.Data.List.Induction
import Mathlib.Data.List.Nodup
import Mathlib.Data.List.Perm.Basic

namespace ClaudeProxy.Library

/-- What happens to a name. -/
inductive Mark (α : Type) where
  | opened (name : α)
  | closed (name : α)
deriving DecidableEq, Repr

namespace Mark

variable {α : Type}

def opens : List (Mark α) → List α
  | [] => []
  | .opened name :: rest => name :: opens rest
  | .closed _ :: rest => opens rest

def closes : List (Mark α) → List α
  | [] => []
  | .opened _ :: rest => closes rest
  | .closed name :: rest => name :: closes rest

@[simp] theorem opens_append (first second : List (Mark α)) :
    opens (first ++ second) = opens first ++ opens second := by
  induction first with
  | nil => rfl
  | cons mark rest inductionHypothesis =>
      cases mark with
      | opened name => exact congrArg (List.cons name) inductionHypothesis
      | closed name => exact inductionHypothesis

@[simp] theorem closes_append (first second : List (Mark α)) :
    closes (first ++ second) = closes first ++ closes second := by
  induction first with
  | nil => rfl
  | cons mark rest inductionHypothesis =>
      cases mark with
      | opened name => exact inductionHypothesis
      | closed name => exact congrArg (List.cons name) inductionHypothesis

@[simp] theorem opens_map_opened (names : List α) : opens (names.map opened) = names := by
  induction names with
  | nil => rfl
  | cons name rest inductionHypothesis => exact congrArg (List.cons name) inductionHypothesis

@[simp] theorem opens_map_closed (names : List α) : opens (names.map closed) = [] := by
  induction names with
  | nil => rfl
  | cons name rest inductionHypothesis => exact inductionHypothesis

@[simp] theorem closes_map_opened (names : List α) : closes (names.map opened) = [] := by
  induction names with
  | nil => rfl
  | cons name rest inductionHypothesis => exact inductionHypothesis

@[simp] theorem closes_map_closed (names : List α) : closes (names.map closed) = names := by
  induction names with
  | nil => rfl
  | cons name rest inductionHypothesis => exact congrArg (List.cons name) inductionHypothesis

/-- The names opened by a list of parts. -/
theorem opens_flatMap {β : Type} (marks : β → List (Mark α)) (parts : List β) :
    opens (parts.flatMap marks) = parts.flatMap fun part => opens (marks part) := by
  induction parts with
  | nil => rfl
  | cons part rest inductionHypothesis =>
      rw [List.flatMap_cons, List.flatMap_cons, opens_append, inductionHypothesis]

theorem closes_flatMap {β : Type} (marks : β → List (Mark α)) (parts : List β) :
    closes (parts.flatMap marks) = parts.flatMap fun part => closes (marks part) := by
  induction parts with
  | nil => rfl
  | cons part rest inductionHypothesis =>
      rw [List.flatMap_cons, List.flatMap_cons, closes_append, inductionHypothesis]

end Mark

open Mark

variable {α : Type}

/-- A history in which every name is opened at most once, and closed at most once and only after it
was opened. -/
structure Paired (marks : List (Mark α)) : Prop where
  openedOnce : (opens marks).Nodup
  closedOnce : (closes marks).Nodup
  openedFirst : ∀ before name after, marks = before ++ .closed name :: after → name ∈ opens before

theorem Paired.nil : Paired ([] : List (Mark α)) where
  openedOnce := .nil
  closedOnce := .nil
  openedFirst := by
    intro before name after split
    cases before <;> cases split

/-- Names opened before they are closed: it remains to look at the last mark. -/
theorem openedFirst_append_singleton {marks : List (Mark α)} {mark : Mark α}
    (earlier : ∀ before name after, marks = before ++ .closed name :: after → name ∈ opens before)
    (last : ∀ name, mark = .closed name → name ∈ opens marks) :
    ∀ before name after, marks ++ [mark] = before ++ .closed name :: after →
      name ∈ opens before := by
  intro before name after split
  rcases List.eq_nil_or_concat after with rfl | ⟨middle, final, rfl⟩
  · obtain ⟨rfl, same⟩ := List.append_inj' split rfl
    exact last name (List.cons.inj same).1
  · rw [List.concat_eq_append, ← List.cons_append, ← List.append_assoc] at split
    exact earlier before name middle (List.append_inj' split rfl).1

/-- What the last mark of a paired history must satisfy. -/
def Extends (marks : List (Mark α)) : Mark α → Prop
  | .opened name => name ∉ opens marks
  | .closed name => name ∈ opens marks ∧ name ∉ closes marks

theorem paired_append_singleton {marks : List (Mark α)} {mark : Mark α} :
    Paired (marks ++ [mark]) ↔ Paired marks ∧ Extends marks mark := by
  constructor
  · intro paired
    have before : Paired marks := by
      constructor
      · have once := paired.openedOnce
        rw [opens_append] at once
        exact once.of_append_left
      · have once := paired.closedOnce
        rw [closes_append] at once
        exact once.of_append_left
      · intro front name after split
        apply paired.openedFirst front name (after ++ [mark])
        rw [split, List.append_assoc, List.cons_append]
    refine ⟨before, ?_⟩
    cases mark with
    | opened name =>
        have once := paired.openedOnce
        rw [opens_append] at once
        intro member
        exact (List.disjoint_of_nodup_append once) member (List.mem_singleton_self name)
    | closed name =>
        constructor
        · exact paired.openedFirst marks name [] rfl
        · have once := paired.closedOnce
          rw [closes_append] at once
          intro member
          exact (List.disjoint_of_nodup_append once) member (List.mem_singleton_self name)
  · rintro ⟨paired, fits⟩
    cases mark with
    | opened name =>
        constructor
        · rw [opens_append]
          exact paired.openedOnce.append (List.nodup_singleton name) (by simpa [opens, Extends] using fits)
        · rw [closes_append]
          simpa [closes] using paired.closedOnce
        · apply openedFirst_append_singleton paired.openedFirst
          intro other impossible
          cases impossible
    | closed name =>
        constructor
        · rw [opens_append]
          simpa [opens] using paired.openedOnce
        · rw [closes_append]
          exact paired.closedOnce.append (List.nodup_singleton name) (by simpa [closes] using fits.2)
        · apply openedFirst_append_singleton paired.openedFirst
          intro other same
          cases same
          exact fits.1

/-! ### Histories that grow -/

theorem Paired.of_append {marks more : List (Mark α)} (paired : Paired (marks ++ more)) :
    Paired marks := by
  induction more using List.reverseRecOn with
  | nil => rwa [List.append_nil] at paired
  | append_singleton more mark inductionHypothesis =>
      rw [← List.append_assoc] at paired
      exact inductionHypothesis (paired_append_singleton.mp paired).1

/-- What is closed was opened. -/
theorem Paired.mem_opens_of_mem_closes {marks : List (Mark α)} (paired : Paired marks) {name : α}
    (closed : name ∈ closes marks) : name ∈ opens marks := by
  induction marks using List.reverseRecOn with
  | nil => cases closed
  | append_singleton marks mark inductionHypothesis =>
      obtain ⟨before, fits⟩ := paired_append_singleton.mp paired
      rw [closes_append, List.mem_append] at closed
      rw [opens_append, List.mem_append]
      rcases closed with earlier | last
      · exact .inl (inductionHypothesis before earlier)
      · cases mark with
        | opened other => cases last
        | closed other =>
            obtain rfl := List.mem_singleton.mp last
            exact .inl fits.1

/-- Names are opened one after the other: they are new, and no two are the same. -/
theorem Paired.append_opened {marks : List (Mark α)} (paired : Paired marks) {names : List α}
    (fresh : (opens marks ++ names).Nodup) : Paired (marks ++ names.map .opened) := by
  induction names using List.reverseRecOn with
  | nil => simpa using paired
  | append_singleton names name inductionHypothesis =>
      rw [← List.append_assoc] at fresh
      have earlier := inductionHypothesis fresh.of_append_left
      rw [List.map_append, ← List.append_assoc]
      apply paired_append_singleton.mpr
      refine ⟨earlier, ?_⟩
      intro member
      rw [opens_append, opens_map_opened] at member
      exact List.disjoint_of_nodup_append fresh member (List.mem_singleton_self name)

/-- Names are closed one after the other: they are open, and none was closed before. -/
theorem Paired.append_closed {marks : List (Mark α)} (paired : Paired marks) {names : List α}
    (known : ∀ name ∈ names, name ∈ opens marks) (fresh : (closes marks ++ names).Nodup) :
    Paired (marks ++ names.map .closed) := by
  induction names using List.reverseRecOn with
  | nil => simpa using paired
  | append_singleton names name inductionHypothesis =>
      rw [← List.append_assoc] at fresh
      have knownEarlier : ∀ other ∈ names, other ∈ opens marks := fun other member =>
        known other (List.mem_append_left _ member)
      have earlier := inductionHypothesis knownEarlier fresh.of_append_left
      rw [List.map_append, ← List.append_assoc]
      apply paired_append_singleton.mpr
      refine ⟨earlier, ?_, ?_⟩
      · rw [opens_append, opens_map_closed, List.append_nil]
        exact known name (List.mem_append_right _ (List.mem_singleton_self name))
      · intro member
        rw [closes_append, closes_map_closed] at member
        exact List.disjoint_of_nodup_append fresh member (List.mem_singleton_self name)

/-- Some names are opened, and then all of them are closed, in any order: this goes on from a paired
history exactly when the names are new and no two are the same. -/
theorem paired_append_answered {marks : List (Mark α)} (paired : Paired marks)
    {names answered : List α} (same : answered.Perm names) :
    Paired (marks ++ (names.map .opened ++ answered.map .closed)) ↔
      (opens marks ++ names).Nodup := by
  constructor
  · intro grown
    have once := grown.openedOnce
    simpa using once
  · intro fresh
    have opened := paired.append_opened fresh
    rw [← List.append_assoc]
    apply opened.append_closed
    · intro name member
      rw [opens_append, opens_map_opened]
      exact List.mem_append_right _ (same.mem_iff.mp member)
    · rw [closes_append, closes_map_opened, List.append_nil]
      have namesOnce : names.Nodup := fresh.of_append_right
      apply paired.closedOnce.append (same.nodup_iff.mpr namesOnce)
      intro name closed member
      exact List.disjoint_of_nodup_append fresh (paired.mem_opens_of_mem_closes closed)
        (same.mem_iff.mp member)

/-- The same in rounds. -/
theorem paired_append_rounds {β : Type} {names answered : β → List α} {rounds : List β}
    (same : ∀ round ∈ rounds, (answered round).Perm (names round)) {marks : List (Mark α)}
    (paired : Paired marks) :
    Paired (marks ++ rounds.flatMap fun round =>
        (names round).map .opened ++ (answered round).map .closed) ↔
      (opens marks ++ rounds.flatMap names).Nodup := by
  induction rounds generalizing marks with
  | nil => simpa using iff_of_true paired paired.openedOnce
  | cons round rest inductionHypothesis =>
      rw [List.forall_mem_cons] at same
      have here := paired_append_answered paired same.1
      simp only [List.flatMap_cons]
      rw [← List.append_assoc marks, ← List.append_assoc (opens marks)]
      constructor
      · intro grown
        have opened := (inductionHypothesis same.2 grown.of_append).mp grown
        simpa using opened
      · intro fresh
        apply (inductionHypothesis same.2 (here.mpr fresh.of_append_left)).mpr
        simpa using fresh

/-! ### The checker -/

/-- The names opened and closed so far, the latest first. -/
structure Ledger (α : Type) where
  opened : List α := []
  closed : List α := []
deriving DecidableEq, Repr

def Ledger.mark [DecidableEq α] (ledger : Ledger α) : Mark α → Option (Ledger α)
  | .opened name =>
      if name ∈ ledger.opened then none
      else some { ledger with opened := name :: ledger.opened }
  | .closed name =>
      if name ∉ ledger.opened ∨ name ∈ ledger.closed then none
      else some { ledger with closed := name :: ledger.closed }

/-- The ledger of a history. -/
def Ledger.of (marks : List (Mark α)) : Ledger α :=
  { opened := (opens marks).reverse, closed := (closes marks).reverse }

/-- One more mark is accepted exactly when it fits the history. -/
theorem mark_eq_some [DecidableEq α] {marks : List (Mark α)} {mark : Mark α} {ledger : Ledger α} :
    (Ledger.of marks).mark mark = some ledger ↔
      Extends marks mark ∧ ledger = Ledger.of (marks ++ [mark]) := by
  cases mark with
  | opened name => simp [Ledger.mark, Ledger.of, Extends, opens, closes, eq_comm]
  | closed name => simp [Ledger.mark, Ledger.of, Extends, opens, closes, and_assoc, eq_comm]

/-- The checker accepts exactly the paired histories. -/
theorem scan_eq_some [DecidableEq α] {marks : List (Mark α)} {ledger : Ledger α} :
    marks.foldlM Ledger.mark {} = some ledger ↔ Paired marks ∧ ledger = Ledger.of marks := by
  induction marks using List.reverseRecOn generalizing ledger with
  | nil =>
      constructor
      · intro accepted
        cases accepted
        exact ⟨.nil, rfl⟩
      · rintro ⟨-, rfl⟩
        rfl
  | append_singleton marks mark inductionHypothesis =>
      rw [List.foldlM_append, Option.bind_eq_bind, Option.bind_eq_some_iff, paired_append_singleton]
      simp only [List.foldlM_cons, List.foldlM_nil, bind_pure]
      constructor
      · rintro ⟨middle, accepted, last⟩
        obtain ⟨paired, rfl⟩ := inductionHypothesis.mp accepted
        obtain ⟨fits, same⟩ := mark_eq_some.mp last
        exact ⟨⟨paired, fits⟩, same⟩
      · rintro ⟨⟨paired, fits⟩, same⟩
        exact ⟨Ledger.of marks, inductionHypothesis.mpr ⟨paired, rfl⟩, mark_eq_some.mpr ⟨fits, same⟩⟩

/-! ### Histories by position

The things that happen may be listed among others that do nothing to any name. A position of such a
list stands for what happens there. -/

section Positions

variable {β : Type} {mark : β → Option (Mark α)} {items : List β}

/-- No value is made at two positions. -/
theorem nodup_filterMap_iff {γ : Type} {make : β → Option γ} {items : List β} :
    (items.filterMap make).Nodup ↔
      ∀ (first second : Nat) (made : γ), items[first]?.bind make = some made →
        items[second]?.bind make = some made → first = second := by
  rw [List.Nodup, List.pairwise_filterMap, List.pairwise_iff_getElem]
  constructor
  · intro apart first second made here there
    obtain ⟨item, itemEq, itemMade⟩ := Option.bind_eq_some_iff.mp here
    obtain ⟨other, otherEq, otherMade⟩ := Option.bind_eq_some_iff.mp there
    obtain ⟨inside, rfl⟩ := List.getElem?_eq_some_iff.mp itemEq
    obtain ⟨inside', rfl⟩ := List.getElem?_eq_some_iff.mp otherEq
    by_contra differ
    rcases Nat.lt_or_gt_of_ne differ with before | after
    · exact apart first second inside inside' before made itemMade made otherMade rfl
    · exact apart second first inside' inside after made otherMade made itemMade rfl
  · intro once first second inside inside' before made itemMade other otherMade same
    subst same
    have atFirst : items[first]?.bind make = some made := by
      rw [List.getElem?_eq_getElem inside]
      exact itemMade
    have atSecond : items[second]?.bind make = some made := by
      rw [List.getElem?_eq_getElem inside']
      exact otherMade
    exact absurd (once first second made atFirst atSecond) (Nat.ne_of_lt before)

def Mark.openedName : Mark α → Option α
  | .opened name => some name
  | .closed _ => none

def Mark.closedName : Mark α → Option α
  | .opened _ => none
  | .closed name => some name

theorem opens_eq_filterMap (marks : List (Mark α)) : opens marks = marks.filterMap openedName := by
  induction marks with
  | nil => rfl
  | cons mark rest inductionHypothesis =>
      cases mark with
      | opened name => simpa [opens, openedName] using inductionHypothesis
      | closed name => exact inductionHypothesis

theorem closes_eq_filterMap (marks : List (Mark α)) : closes marks = marks.filterMap closedName := by
  induction marks with
  | nil => rfl
  | cons mark rest inductionHypothesis =>
      cases mark with
      | opened name => exact inductionHypothesis
      | closed name => simpa [closes, closedName] using inductionHypothesis

theorem openedName_eq_some {mark : Mark α} {name : α} :
    mark.openedName = some name ↔ mark = .opened name := by
  cases mark <;> simp [openedName]

theorem closedName_eq_some {mark : Mark α} {name : α} :
    mark.closedName = some name ↔ mark = .closed name := by
  cases mark <;> simp [closedName]

/-- What happens at a position of a list. -/
def MarkAt (mark : β → Option (Mark α)) (items : List β) (position : Nat) (happens : Mark α) : Prop :=
  items[position]?.bind mark = some happens

theorem openedAt_iff {position : Nat} {name : α} :
    (items[position]?.bind fun item => (mark item).bind openedName) = some name ↔
      MarkAt mark items position (.opened name) := by
  unfold MarkAt
  rw [← Option.bind_assoc, Option.bind_eq_some_iff]
  simp only [openedName_eq_some, exists_eq_right]

theorem closedAt_iff {position : Nat} {name : α} :
    (items[position]?.bind fun item => (mark item).bind closedName) = some name ↔
      MarkAt mark items position (.closed name) := by
  unfold MarkAt
  rw [← Option.bind_assoc, Option.bind_eq_some_iff]
  simp only [closedName_eq_some, exists_eq_right]

/-- The names opened in a list are those opened at a position of it. -/
theorem mem_opens_filterMap {name : α} :
    name ∈ opens (items.filterMap mark) ↔ ∃ position, MarkAt mark items position (.opened name) := by
  rw [opens_eq_filterMap, List.mem_filterMap]
  simp only [openedName_eq_some, exists_eq_right, List.mem_filterMap, MarkAt, Option.bind_eq_some_iff]
  constructor
  · rintro ⟨item, member, marked⟩
    obtain ⟨position, held⟩ := List.mem_iff_getElem?.mp member
    exact ⟨position, item, held, marked⟩
  · rintro ⟨position, item, held, marked⟩
    exact ⟨item, List.mem_of_getElem? held, marked⟩

/-- What happens before a position happens at an earlier one. -/
theorem markAt_take {position bound : Nat} {happens : Mark α} :
    MarkAt mark (items.take bound) position happens ↔
      position < bound ∧ MarkAt mark items position happens := by
  unfold MarkAt
  rw [List.getElem?_take]
  by_cases inside : position < bound
  · simp [inside]
  · simp [inside]

/-- Each name is opened before it is closed, by position. -/
theorem openedFirst_filterMap :
    (∀ before name after, items.filterMap mark = before ++ .closed name :: after →
        name ∈ opens before) ↔
      ∀ position name, MarkAt mark items position (.closed name) →
        ∃ earlier < position, MarkAt mark items earlier (.opened name) := by
  constructor
  · intro openedFirst position name closedHere
    obtain ⟨item, held, marked⟩ := Option.bind_eq_some_iff.mp closedHere
    obtain ⟨inside, rfl⟩ := List.getElem?_eq_some_iff.mp held
    have split : items.filterMap mark =
        (items.take position).filterMap mark ++
          .closed name :: (items.drop (position + 1)).filterMap mark := by
      rw [← List.filterMap_cons_some marked, List.getElem_cons_drop, ← List.filterMap_append,
        List.take_append_drop]
    obtain ⟨earlier, opened⟩ := mem_opens_filterMap.mp (openedFirst _ _ _ split)
    exact ⟨earlier, markAt_take.mp opened⟩
  · intro earlier before name after split
    obtain ⟨front, rest, rfl, rfl, restEq⟩ := List.filterMap_eq_append_iff.mp split
    obtain ⟨idle, item, back, rfl, nothing, marked, -⟩ := List.filterMap_eq_cons_iff.mp restEq
    have whole : front ++ (idle ++ item :: back) = (front ++ idle) ++ item :: back := by
      rw [List.append_assoc]
    rw [whole] at earlier
    have closedHere :
        MarkAt mark ((front ++ idle) ++ item :: back) (front ++ idle).length (.closed name) := by
      unfold MarkAt
      rw [List.getElem?_append_right (Nat.le_refl _), Nat.sub_self]
      exact marked
    obtain ⟨position, inside, opened⟩ := earlier _ _ closedHere
    have inFront : MarkAt mark (front ++ idle) position (.opened name) := by
      have taken := markAt_take.mpr ⟨inside, opened⟩
      rwa [List.take_left'] at taken
      rfl
    have listed := mem_opens_filterMap.mpr ⟨position, inFront⟩
    rw [List.filterMap_append, List.filterMap_eq_nil_iff.mpr nothing, List.append_nil] at listed
    exact listed

/-- A paired history, by position. -/
theorem paired_filterMap_iff :
    Paired (items.filterMap mark) ↔
      (∀ first second name, MarkAt mark items first (.opened name) →
          MarkAt mark items second (.opened name) → first = second) ∧
        (∀ first second name, MarkAt mark items first (.closed name) →
          MarkAt mark items second (.closed name) → first = second) ∧
        ∀ position name, MarkAt mark items position (.closed name) →
          ∃ earlier < position, MarkAt mark items earlier (.opened name) := by
  have openedOnce : (opens (items.filterMap mark)).Nodup ↔
      ∀ first second name, MarkAt mark items first (.opened name) →
        MarkAt mark items second (.opened name) → first = second := by
    rw [opens_eq_filterMap, List.filterMap_filterMap, nodup_filterMap_iff]
    simp only [openedAt_iff]
  have closedOnce : (closes (items.filterMap mark)).Nodup ↔
      ∀ first second name, MarkAt mark items first (.closed name) →
        MarkAt mark items second (.closed name) → first = second := by
    rw [closes_eq_filterMap, List.filterMap_filterMap, nodup_filterMap_iff]
    simp only [closedAt_iff]
  rw [← openedOnce, ← closedOnce, ← openedFirst_filterMap]
  constructor
  · intro paired
    exact ⟨paired.openedOnce, paired.closedOnce, paired.openedFirst⟩
  · intro conditions
    exact ⟨conditions.1, conditions.2.1, conditions.2.2⟩

end Positions

end ClaudeProxy.Library
