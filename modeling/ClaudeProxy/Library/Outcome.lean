/-
Module: ClaudeProxy.Library.Outcome
Layer: Library
Purpose: Fallible functions over lists. A `mapM` succeeds exactly when the function succeeds on every
  element, and then the results stand in the order of the elements; a `forM` succeeds exactly when
  every check passes. A bind succeeds exactly when both of its parts do.
Trusted boundary: none
Main exports: Except.bind_eq_ok, Except.mapM_eq_ok, Except.forM_eq_ok, Except.foldlM_eq_error,
  Except.mapM_eq_error, Except.foldlM_accumulates, Except.foldlM_simulates, Except.foldlM_simulated
-/
import Mathlib.Data.List.Forall2

namespace ClaudeProxy.Library.Except

variable {ε α β γ : Type}

theorem bind_eq_ok {first : Except ε α} {next : α → Except ε β} {value : β} :
    (first >>= next) = .ok value ↔ ∃ middle, first = .ok middle ∧ next middle = .ok value := by
  cases first with
  | error error =>
      constructor
      · intro impossible
        cases impossible
      · rintro ⟨_, impossible, _⟩
        cases impossible
  | ok middle =>
      constructor
      · intro returned
        exact ⟨middle, rfl, returned⟩
      · rintro ⟨_, same, returned⟩
        cases same
        exact returned

theorem map_eq_ok {convert : α → β} {made : Except ε α} {result : β} :
    made.map convert = .ok result ↔ ∃ value, made = .ok value ∧ convert value = result := by
  cases made with
  | error error => simp [Except.map]
  | ok value => simp [Except.map]

/-- A `mapM` succeeds exactly when the function succeeds element by element. -/
theorem mapM_eq_ok {step : α → Except ε β} {items : List α} {results : List β} :
    items.mapM step = .ok results ↔
      List.Forall₂ (fun item result => step item = .ok result) items results := by
  induction items generalizing results with
  | nil =>
      rw [List.mapM_nil, List.forall₂_nil_left_iff]
      constructor
      · intro returned
        cases returned
        rfl
      · rintro rfl
        rfl
  | cons item rest inductionHypothesis =>
      rw [List.mapM_cons, bind_eq_ok, List.forall₂_cons_left_iff]
      constructor
      · rintro ⟨result, stepEq, returned⟩
        obtain ⟨tail, restEq, same⟩ := bind_eq_ok.mp returned
        cases same
        exact ⟨result, tail, stepEq, inductionHypothesis.mp restEq, rfl⟩
      · rintro ⟨result, tail, stepEq, restOk, rfl⟩
        refine ⟨result, stepEq, bind_eq_ok.mpr ⟨tail, inductionHypothesis.mpr restOk, rfl⟩⟩

/-- Whether a `mapM` succeeds depends on each element alone. -/
theorem exists_mapM_eq_ok {step : α → Except ε β} {items : List α} :
    (∃ results, items.mapM step = .ok results) ↔
      ∀ item ∈ items, ∃ result, step item = .ok result := by
  induction items with
  | nil => exact iff_of_true ⟨[], rfl⟩ (by simp)
  | cons item rest inductionHypothesis =>
      rw [List.forall_mem_cons, ← inductionHypothesis]
      constructor
      · rintro ⟨results, returned⟩
        rw [mapM_eq_ok, List.forall₂_cons_left_iff] at returned
        obtain ⟨result, tail, stepEq, restOk, rfl⟩ := returned
        exact ⟨⟨result, stepEq⟩, tail, mapM_eq_ok.mpr restOk⟩
      · rintro ⟨⟨result, stepEq⟩, tail, restOk⟩
        exact ⟨result :: tail, mapM_eq_ok.mpr (.cons stepEq (mapM_eq_ok.mp restOk))⟩

/-- A pass of checks succeeds exactly when each check does. -/
theorem forM_eq_ok {check : α → Except ε PUnit} {items : List α} :
    items.forM check = .ok () ↔ ∀ item ∈ items, check item = .ok () := by
  induction items with
  | nil => exact iff_of_true rfl (by simp)
  | cons item rest inductionHypothesis =>
      rw [List.forM_eq_forM, List.forM_cons, bind_eq_ok, List.forall_mem_cons, ← inductionHypothesis]
      constructor
      · rintro ⟨_, checked, restOk⟩
        exact ⟨checked, restOk⟩
      · rintro ⟨checked, restOk⟩
        exact ⟨(), checked, restOk⟩

/-- Two functions that differ by a condition on the element: so do their `mapM`s. -/
theorem mapM_eq_ok_and {strict loose : α → Except ε β} {condition : α → Prop} {items : List α}
    (each : ∀ item ∈ items, ∀ result, strict item = .ok result ↔
      loose item = .ok result ∧ condition item) {results : List β} :
    items.mapM strict = .ok results ↔
      items.mapM loose = .ok results ∧ ∀ item ∈ items, condition item := by
  rw [mapM_eq_ok, mapM_eq_ok]
  induction items generalizing results with
  | nil => simp
  | cons item rest inductionHypothesis =>
      rw [List.forall_mem_cons] at each ⊢
      cases results with
      | nil => simp
      | cons result more =>
          rw [List.forall₂_cons, List.forall₂_cons, each.1, inductionHypothesis each.2]
          exact ⟨fun ⟨⟨a, b⟩, c, d⟩ => ⟨⟨a, c⟩, b, d⟩, fun ⟨⟨a, c⟩, b, d⟩ => ⟨⟨a, b⟩, c, d⟩⟩

/-- The same for a loop. -/
theorem foldlM_eq_ok_and {strict loose : β → α → Except ε β} {condition : α → Prop}
    (each : ∀ state item result, strict state item = .ok result ↔
      loose state item = .ok result ∧ condition item) {items : List α} {start final : β} :
    items.foldlM strict start = .ok final ↔
      items.foldlM loose start = .ok final ∧ ∀ item ∈ items, condition item := by
  induction items generalizing start with
  | nil => simp
  | cons item rest inductionHypothesis =>
      rw [List.foldlM_cons, List.foldlM_cons, bind_eq_ok, bind_eq_ok, List.forall_mem_cons]
      constructor
      · rintro ⟨middle, first, others⟩
        obtain ⟨firstLoose, holds⟩ := (each start item middle).mp first
        obtain ⟨othersLoose, allHold⟩ := inductionHypothesis.mp others
        exact ⟨⟨middle, firstLoose, othersLoose⟩, holds, allHold⟩
      · rintro ⟨⟨middle, firstLoose, othersLoose⟩, holds, allHold⟩
        exact ⟨middle, (each start item middle).mpr ⟨firstLoose, holds⟩,
          inductionHypothesis.mpr ⟨othersLoose, allHold⟩⟩

/-- A pass over written elements, each of which is read in one way, if at all, wherever it stands. -/
theorem mapM_written_eq_ok {step : γ × Nat → Except ε β} {write : α → γ} {good : α → Prop}
    {read : α → β}
    (each : ∀ item position result, step (write item, position) = .ok result ↔
      good item ∧ result = read item)
    {items : List α} {start : Nat} {results : List β} :
    ((items.map write).zipIdx start).mapM step = .ok results ↔
      (∀ item ∈ items, good item) ∧ results = items.map read := by
  induction items generalizing start results with
  | nil => simp [pure, Except.pure, eq_comm]
  | cons item rest inductionHypothesis =>
      rw [List.map_cons, List.zipIdx_cons, List.mapM_cons, bind_eq_ok, List.forall_mem_cons,
        List.map_cons]
      constructor
      · rintro ⟨result, stepEq, returned⟩
        obtain ⟨tail, restEq, same⟩ := bind_eq_ok.mp returned
        cases same
        obtain ⟨holds, rfl⟩ := (each item start result).mp stepEq
        obtain ⟨holdLater, rfl⟩ := inductionHypothesis.mp restEq
        exact ⟨⟨holds, holdLater⟩, rfl⟩
      · rintro ⟨⟨holds, holdLater⟩, rfl⟩
        refine ⟨read item, (each item start _).mpr ⟨holds, rfl⟩, ?_⟩
        exact bind_eq_ok.mpr ⟨rest.map read, inductionHypothesis.mpr ⟨holdLater, rfl⟩, rfl⟩

/-- A property of the elements of a list, seen through their positions. -/
theorem forall_mem_zipIdx {items : List α} {holds : α → Prop} :
    (∀ entry ∈ items.zipIdx, holds entry.1) ↔ ∀ item ∈ items, holds item := by
  constructor
  · intro each item member
    obtain ⟨index, bound, rfl⟩ := List.mem_iff_getElem.mp member
    have entry : (items[index], index) ∈ items.zipIdx := by
      rw [List.mem_zipIdx_iff_getElem?]
      exact List.getElem?_eq_getElem bound
    exact each _ entry
  · intro each entry member
    exact each _ (List.fst_mem_of_mem_zipIdx member)

/-- Two lists read element by element as the same list: they are related element by element. -/
theorem forall₂_of_common {reads : α → γ → Prop} {reads' : β → γ → Prop} {related : α → β → Prop}
    (common : ∀ first second read, reads first read → reads' second read → related first second)
    {firsts : List α} {seconds : List β} {read : List γ} (one : List.Forall₂ reads firsts read)
    (two : List.Forall₂ reads' seconds read) : List.Forall₂ related firsts seconds := by
  induction one generalizing seconds with
  | nil =>
      cases two
      exact .nil
  | cons head tail inductionHypothesis =>
      cases two with
      | cons head' tail' => exact .cons (common _ _ _ head head') (inductionHypothesis tail')

/-- A loop whose steps all succeed succeeds. -/
theorem exists_foldlM_eq_ok {step : β → α → Except ε β} {items : List α}
    (each : ∀ item ∈ items, ∀ state, ∃ next, step state item = .ok next) (start : β) :
    ∃ final, items.foldlM step start = .ok final := by
  induction items generalizing start with
  | nil => exact ⟨start, rfl⟩
  | cons item rest inductionHypothesis =>
      rw [List.forall_mem_cons] at each
      obtain ⟨next, stepEq⟩ := each.1 start
      obtain ⟨final, restEq⟩ := inductionHypothesis each.2 next
      refine ⟨final, ?_⟩
      rw [List.foldlM_cons]
      exact bind_eq_ok.mpr ⟨next, stepEq, restEq⟩

/-- A loop that can fail in one way only fails so when it meets an element at which every step
fails. -/
theorem foldlM_eq_error {step : β → α → Except ε β} {error : ε} {items : List α}
    (each : ∀ item ∈ items, ∀ state, (∃ next, step state item = .ok next) ∨
      step state item = .error error)
    (bad : ∃ item ∈ items, ∀ state, step state item = .error error) (start : β) :
    items.foldlM step start = .error error := by
  induction items generalizing start with
  | nil =>
      obtain ⟨item, member, -⟩ := bad
      cases member
  | cons item rest inductionHypothesis =>
      rw [List.forall_mem_cons] at each
      rw [List.foldlM_cons]
      rcases each.1 start with ⟨next, stepEq⟩ | failed
      · rw [stepEq]
        apply inductionHypothesis each.2
        obtain ⟨culprit, member, fails⟩ := bad
        rcases List.mem_cons.mp member with rfl | later
        · have impossible := fails start
          rw [stepEq] at impossible
          cases impossible
        · exact ⟨culprit, later, fails⟩
      · rw [failed]
        rfl

/-- The same for a `mapM`. -/
theorem mapM_eq_error {step : α → Except ε β} {error : ε} {items : List α}
    (each : ∀ item ∈ items, (∃ result, step item = .ok result) ∨ step item = .error error)
    (bad : ∃ item ∈ items, step item = .error error) : items.mapM step = .error error := by
  induction items with
  | nil =>
      obtain ⟨item, member, -⟩ := bad
      cases member
  | cons item rest inductionHypothesis =>
      rw [List.forall_mem_cons] at each
      rw [List.mapM_cons]
      rcases each.1 with ⟨result, stepEq⟩ | failed
      · have failedLater : rest.mapM step = .error error := by
          apply inductionHypothesis each.2
          obtain ⟨culprit, member, fails⟩ := bad
          rcases List.mem_cons.mp member with rfl | later
          · rw [stepEq] at fails
            cases fails
          · exact ⟨culprit, later, fails⟩
        rw [stepEq, failedLater]
        rfl
      · rw [failed]
        rfl

/-- A loop whose state stands for what it has collected: each item adds its own. -/
theorem foldlM_accumulates {σ μ : Type} {step : σ → α → Except ε σ} {collect : α → List μ}
    {holds : σ → List μ → Prop}
    (each : ∀ {state next item collected}, holds state collected → step state item = .ok next →
      holds next (collected ++ collect item))
    {items : List α} {start final : σ} {collected : List μ} (initial : holds start collected)
    (accepted : items.foldlM step start = .ok final) :
    holds final (collected ++ items.flatMap collect) := by
  induction items generalizing start collected with
  | nil =>
      cases accepted
      simpa using initial
  | cons item rest inductionHypothesis =>
      obtain ⟨next, stepped, restEq⟩ := bind_eq_ok.mp accepted
      rw [List.flatMap_cons, ← List.append_assoc]
      exact inductionHypothesis (each initial stepped) restEq

/-- A loop that is simulated by another one: if each accepted element satisfies a condition and
drives the view of the state through its own marks, then so does the whole loop. -/
theorem foldlM_simulates {σ τ μ : Type} {step : σ → α → Except ε σ} {holds : α → Prop}
    {marks : α → List μ} {view : σ → τ} {mark : τ → μ → Option τ}
    (each : ∀ state item next, step state item = .ok next →
      holds item ∧ (marks item).foldlM mark (view state) = some (view next))
    {items : List α} {start final : σ} (accepted : items.foldlM step start = .ok final) :
    (∀ item ∈ items, holds item) ∧
      (items.flatMap marks).foldlM mark (view start) = some (view final) := by
  induction items generalizing start with
  | nil =>
      cases accepted
      exact ⟨by simp, rfl⟩
  | cons item rest inductionHypothesis =>
      rw [List.foldlM_cons] at accepted
      obtain ⟨next, stepEq, restEq⟩ := bind_eq_ok.mp accepted
      obtain ⟨holdsHere, marksHere⟩ := each start item next stepEq
      obtain ⟨holdsLater, marksLater⟩ := inductionHypothesis restEq
      constructor
      · rw [List.forall_mem_cons]
        exact ⟨holdsHere, holdsLater⟩
      · rw [List.flatMap_cons, List.foldlM_append, marksHere]
        exact marksLater

/-- Conversely, a fold succeeds where every element meets its condition and the simpler machine
accepts the marks. -/
theorem foldlM_simulated {σ τ μ : Type} {step : σ → α → Except ε σ} {holds : α → Prop}
    {marks : α → List μ} {view : σ → τ} {mark : τ → μ → Option τ}
    (each : ∀ state item viewed, holds item → (marks item).foldlM mark (view state) = some viewed →
      ∃ next, step state item = .ok next ∧ view next = viewed)
    {items : List α} {start : σ} {viewed : τ} (placed : ∀ item ∈ items, holds item)
    (accepted : (items.flatMap marks).foldlM mark (view start) = some viewed) :
    ∃ final, items.foldlM step start = .ok final ∧ view final = viewed := by
  induction items generalizing start with
  | nil =>
      cases accepted
      exact ⟨start, rfl, rfl⟩
  | cons item rest inductionHypothesis =>
      rw [List.flatMap_cons, List.foldlM_append] at accepted
      obtain ⟨middle, marksHere, marksLater⟩ := Option.bind_eq_some_iff.mp accepted
      obtain ⟨holdsHere, holdsLater⟩ := List.forall_mem_cons.mp placed
      obtain ⟨next, stepEq, rfl⟩ := each start item middle holdsHere marksHere
      obtain ⟨final, restEq, viewEq⟩ := inductionHypothesis holdsLater marksLater
      refine ⟨final, ?_, viewEq⟩
      rw [List.foldlM_cons, stepEq]
      exact restEq

/-- Every element of a related list has its partner. -/
theorem exists_of_mem_right {related : α → β → Prop} {firsts : List α} {seconds : List β}
    (each : List.Forall₂ related firsts seconds) {second : β} (member : second ∈ seconds) :
    ∃ first ∈ firsts, related first second := by
  induction each with
  | nil => cases member
  | @cons head head' tail tail' here later inductionHypothesis =>
      rcases List.mem_cons.mp member with rfl | further
      · exact ⟨head, List.mem_cons_self, here⟩
      · obtain ⟨first, firstMember, holds⟩ := inductionHypothesis further
        exact ⟨first, List.mem_cons_of_mem head firstMember, holds⟩

theorem exists_of_mem_left {related : α → β → Prop} {firsts : List α} {seconds : List β}
    (each : List.Forall₂ related firsts seconds) {first : α} (member : first ∈ firsts) :
    ∃ second ∈ seconds, related first second :=
  exists_of_mem_right each.flip member

/-- A pass over the positions of a list is a pass over the list. -/
theorem forall₂_of_zipIdx {related : α → β → Prop} {items : List α} {results : List β}
    (each : List.Forall₂ (fun entry result => related entry.1 result) items.zipIdx results) :
    List.Forall₂ related items results := by
  have projected := List.forall₂_map_left_iff.mpr each
  rwa [List.zipIdx_map_fst] at projected

theorem exists_iff_of_forall₂ {related : α → β → Prop} {first : α → Prop} {second : β → Prop}
    {firsts : List α} {seconds : List β} (each : List.Forall₂ related firsts seconds)
    (same : ∀ one other, related one other → (first one ↔ second other)) :
    (∃ one ∈ firsts, first one) ↔ ∃ other ∈ seconds, second other := by
  induction each with
  | nil => simp
  | cons here _ inductionHypothesis =>
      rw [List.exists_mem_cons_iff, List.exists_mem_cons_iff, inductionHypothesis, same _ _ here]

theorem forall_iff_of_forall₂ {related : α → β → Prop} {first : α → Prop} {second : β → Prop}
    {firsts : List α} {seconds : List β} (each : List.Forall₂ related firsts seconds)
    (same : ∀ one other, related one other → (first one ↔ second other)) :
    (∀ one ∈ firsts, first one) ↔ ∀ other ∈ seconds, second other := by
  induction each with
  | nil => simp
  | cons here _ inductionHypothesis =>
      rw [List.forall_mem_cons, List.forall_mem_cons, inductionHypothesis, same _ _ here]

/-- Related lists whose elements expand to the same parts expand to the same list. -/
theorem flatMap_eq_of_forall₂ {related : α → β → Prop} {expand : α → List γ} {expand' : β → List γ}
    (same : ∀ first second, related first second → expand' second = expand first) {firsts : List α}
    {seconds : List β} (each : List.Forall₂ related firsts seconds) :
    seconds.flatMap expand' = firsts.flatMap expand := by
  induction each with
  | nil => rfl
  | cons here later inductionHypothesis =>
      rw [List.flatMap_cons, List.flatMap_cons, same _ _ here, inductionHypothesis]

/-- Where an element of a concatenation stands. -/
theorem append_eq_append_cons {firsts seconds before after : List α} {item : α}
    (split : firsts ++ seconds = before ++ item :: after) :
    (∃ middle, firsts = before ++ item :: middle ∧ after = middle ++ seconds) ∨
      ∃ middle, before = firsts ++ middle ∧ seconds = middle ++ item :: after := by
  rcases List.append_eq_append_iff.mp split with ⟨middle, rfl, secondsEq⟩ | ⟨middle, rfl, tailEq⟩
  · exact .inr ⟨middle, rfl, secondsEq⟩
  · cases middle with
    | nil => exact .inr ⟨[], by simp, tailEq.symm⟩
    | cons head rest =>
        rw [List.cons_append] at tailEq
        obtain ⟨rfl, rfl⟩ := List.cons.inj tailEq
        exact .inl ⟨rest, rfl, rfl⟩

/-- A successful loop made a successful step at each element. -/
theorem exists_step_of_foldlM {step : β → α → Except ε β} {items : List α} {start final : β}
    (accepted : items.foldlM step start = .ok final) :
    ∀ item ∈ items, ∃ state next, step state item = .ok next := by
  induction items generalizing start with
  | nil => simp
  | cons item rest inductionHypothesis =>
      rw [List.foldlM_cons] at accepted
      obtain ⟨next, stepEq, restEq⟩ := bind_eq_ok.mp accepted
      rw [List.forall_mem_cons]
      exact ⟨⟨start, next, stepEq⟩, inductionHypothesis restEq⟩

/-- The same for an optional function: a `mapM` has a value when each element has one. -/
theorem exists_mapM_eq_some {step : α → Option β} {items : List α}
    (each : ∀ item ∈ items, ∃ result, step item = some result) :
    ∃ results, items.mapM step = some results := by
  induction items with
  | nil => exact ⟨[], rfl⟩
  | cons item rest inductionHypothesis =>
      rw [List.forall_mem_cons] at each
      obtain ⟨result, stepEq⟩ := each.1
      obtain ⟨results, restEq⟩ := inductionHypothesis each.2
      refine ⟨result :: results, ?_⟩
      rw [List.mapM_cons, stepEq, restEq]
      rfl

/-- It has the values in the order of the elements. -/
theorem mapM_eq_some {step : α → Option β} {items : List α} {results : List β} :
    items.mapM step = some results ↔
      List.Forall₂ (fun item result => step item = some result) items results := by
  induction items generalizing results with
  | nil => simp [eq_comm]
  | cons item rest inductionHypothesis =>
      have peeled : (item :: rest).mapM step = some results ↔
          ∃ result, step item = some result ∧ ∃ tail, rest.mapM step = some tail ∧
            result :: tail = results := by
        rw [List.mapM_cons]
        cases step item with
        | none => simp
        | some result => cases rest.mapM step <;> simp
      rw [peeled, List.forall₂_cons_left_iff]
      constructor
      · rintro ⟨result, here, tail, later, rfl⟩
        exact ⟨result, tail, here, inductionHypothesis.mp later, rfl⟩
      · rintro ⟨result, tail, here, later, rfl⟩
        exact ⟨result, here, tail, inductionHypothesis.mpr later, rfl⟩

/-! ### How a function fails -/

/-- Every error of a function has a property. -/
def Fails (holds : ε → Prop) (run : Except ε α) : Prop := ∀ error, run = .error error → holds error

theorem Fails.ok {holds : ε → Prop} (value : α) : Fails holds (.ok value : Except ε α) := by
  intro error impossible
  cases impossible

theorem Fails.error {holds : ε → Prop} {error : ε} (here : holds error) :
    Fails holds (.error error : Except ε α) := by
  intro other same
  cases same
  exact here

theorem Fails.imp {holds other : ε → Prop} {run : Except ε α} (fails : Fails holds run)
    (implied : ∀ error, holds error → other error) : Fails other run :=
  fun error failed => implied error (fails error failed)

theorem Fails.bind {holds : ε → Prop} {first : Except ε α} {next : α → Except ε β}
    (one : Fails holds first) (two : ∀ value, Fails holds (next value)) :
    Fails holds (first >>= next) := by
  intro error failed
  cases first with
  | error error' =>
      cases failed
      exact one error rfl
  | ok value => exact two value error failed

theorem Fails.mapM {holds : ε → Prop} {step : α → Except ε β}
    (each : ∀ item, Fails holds (step item)) (items : List α) : Fails holds (items.mapM step) := by
  induction items with
  | nil =>
      rw [List.mapM_nil]
      exact .ok []
  | cons item rest inductionHypothesis =>
      rw [List.mapM_cons]
      exact (each item).bind fun result => inductionHypothesis.bind fun results => .ok _

theorem Fails.foldlM {holds : ε → Prop} {step : β → α → Except ε β}
    (each : ∀ state item, Fails holds (step state item)) (items : List α) (start : β) :
    Fails holds (items.foldlM step start) := by
  induction items generalizing start with
  | nil => exact .ok start
  | cons item rest inductionHypothesis =>
      rw [List.foldlM_cons]
      exact (each start item).bind inductionHypothesis

end ClaudeProxy.Library.Except
