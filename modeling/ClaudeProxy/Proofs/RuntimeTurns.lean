/-
Module: ClaudeProxy.Proofs.RuntimeTurns
Layer: Proofs
Purpose: The part of a runtime as another machine. If the other machine has an answer for each step of
  each request on the runtime, it follows every run of the service move by move, from before the
  runtime is put in place, and its moves are those answers and no others.
Trusted boundary: none
Main exports: RuntimeAnswers, Service.Answers, TurnRules, Service.RelatedOn, TurnRules.run
-/
import ClaudeProxy.Proofs.RuntimeIsolation

namespace ClaudeProxy

open Library

/-! ### Answers -/

/-- How another machine answers what happens on a runtime: time passes, a request takes a step at some
time, or goes away. -/
structure RuntimeAnswers (Other Turn : Type) where
  ticked : Nat → List Turn
  stepped : Instant → LiveRuntime → ApiCall → Surroundings → Other → List Turn → Prop
  left : ApiCall → Other → List Turn → Prop

/-- The answer to a move of the service: requests on other runtimes, requests that come and reloads are
answered with nothing. -/
def Service.Answers {Other Turn : Type} (answers : RuntimeAnswers Other Turn) (number : Nat)
    (service : Service) (other : Other) : ServiceMove → List Turn → Prop
  | .tick elapsed, turns => turns = answers.ticked elapsed
  | .advance index around, turns =>
      match service.find index with
      | some (call, live) =>
          if call.runtime = number then answers.stepped service.clock live call around other turns
          else turns = []
      | none => turns = []
  | .disconnect index, turns =>
      match service.find index with
      | some (call, _) => if call.runtime = number then answers.left call other turns else turns = []
      | none => turns = []
  | .arrive _, turns | .hangup _, turns => turns = []

section Turns

variable {crates : Crates} {environment : Environment} {order : IterationOrder}
  {hashKey : String → Digest} {errors : JsonErrors} {Other Turn : Type}
  {answers : RuntimeAnswers Other Turn} {runtime : Runtime} {turn : Other → Turn → Other}
  {start : Other} {related : Instant → LiveRuntime → List ApiCall → Other → Prop}

variable (crates environment order hashKey errors) in
/-- The answers keep the other machine related to a runtime and the requests on it. -/
structure TurnRules (answers : RuntimeAnswers Other Turn) (runtime : Runtime)
    (turn : Other → Turn → Other) (start : Other)
    (related : Instant → LiveRuntime → List ApiCall → Other → Prop) : Prop where
  starts : related 0 runtime.live [] start
  ticks : ∀ {clock live calls other} (elapsed : Nat), related clock live calls other →
    related (clock + elapsed) live calls ((answers.ticked elapsed).foldl turn other)
  arrives : ∀ {clock live calls other} {call : ApiCall}, call.phase = .arrived →
    related clock live calls other → related clock live (calls ++ [call]) other
  steps : ∀ {clock live calls other index} {call : ApiCall} (around : Surroundings),
    live.runtime = runtime → related clock live calls other → calls[index]? = some call →
      let step := call.phase.advance crates environment order hashKey errors call.request clock around
        live
      ∃ turns, answers.stepped clock live call around other turns ∧
        related clock (step.1.liveAfter call step.2) (step.1.callsAfter index call calls)
          (turns.foldl turn other)
  leaves : ∀ {clock live calls other index} {call : ApiCall},
    live.runtime = runtime → related clock live calls other → calls[index]? = some call →
      ∃ turns, answers.left call other turns ∧
        related clock { live with limits := call.phase.release live.limits } (calls.eraseIdx index)
          (turns.foldl turn other)

/-- The other machine is related to the runtime at a number and the requests on it. Before it is put in
place, the runtime is as it will be then. -/
structure Service.RelatedOn (number : Nat) (runtime : Runtime)
    (related : Instant → LiveRuntime → List ApiCall → Other → Prop) (service : Service)
    (other : Other) : Prop where
  placed : service.Placed
  related : related service.clock (service.runtimes[number]?.getD runtime.live)
    (part (ApiCall.isOn number) id service.calls) other

/-! ### One move -/

variable {service : Service} {number index : Nat} {call : ApiCall} {live : LiveRuntime}
  {other : Other}

/-- After a step of a request on the runtime. -/
theorem relatedOn_settle (found : service.find index = some (call, live)) (here : call.runtime = number)
    {around : Surroundings} {result : StepResult} {after : LiveRuntime}
    (placed : (service.settle environment index call around.upstream result after).Placed)
    {later : Other}
    (turned : related service.clock (result.liveAfter call after)
      (result.callsAfter (service.ownPlace number index) call
        (part (ApiCall.isOn number) id service.calls)) later) :
    (service.settle environment index call around.upstream result after).RelatedOn number runtime
      related later := by
  obtain ⟨isCall, isLive⟩ := Service.find_eq_some.mp found
  have kept : call.isOn number = true := decide_eq_true here
  have bound := (List.getElem?_eq_some_iff.mp isLive).1
  have runtimes : (service.settle environment index call around.upstream result after).runtimes[
      number]? = some (result.liveAfter call after) := by
    rw [Service.settle_runtimes, ← here, List.getElem?_set_self bound]
  refine ⟨placed, ?_⟩
  rw [runtimes, Option.getD_some]
  cases result with
  | goesOn next =>
      have changed := @part_set _ _ (ApiCall.isOn number) id _ _ _ isCall kept
        { call with phase := next } kept
      simp only [StepResult.callsAfter, Service.ownPlace] at turned
      simp only [Service.settle, Service.setRuntime, changed]
      exact turned
  | ends outcome =>
      have erased := part_eraseIdx (ApiCall.isOn number) id isCall kept
      simp only [StepResult.callsAfter, Service.ownPlace] at turned
      simp only [Service.settle, Service.leave, Service.setRuntime, erased]
      exact turned

theorem Service.RelatedOn.settled_elsewhere
    (relatedOn : service.RelatedOn number runtime related other)
    (found : service.find index = some (call, live)) (elsewhere : call.runtime ≠ number)
    {around : Surroundings} {result : StepResult} {after : LiveRuntime}
    (placed : (service.settle environment index call around.upstream result after).Placed) :
    (service.settle environment index call around.upstream result after).RelatedOn number runtime
      related other := by
  obtain ⟨isCall, _⟩ := Service.find_eq_some.mp found
  have notKept : call.isOn number = false := decide_eq_false elsewhere
  refine ⟨placed, ?_⟩
  rw [Service.settle_runtimes, List.getElem?_set_ne elsewhere]
  cases result with
  | goesOn next =>
      have changed := @part_set_of_not _ _ (ApiCall.isOn number) id _ _ _ isCall notKept
        { call with phase := next } notKept
      simp only [Service.settle, Service.setRuntime, changed]
      exact relatedOn.related
  | ends outcome =>
      have erased := part_eraseIdx_of_not (ApiCall.isOn number) id isCall notKept
      simp only [Service.settle, Service.leave, Service.setRuntime, erased]
      exact relatedOn.related

/-- A request on the runtime is found among those of the runtime, which is in place. -/
theorem Service.RelatedOn.own (relatedOn : service.RelatedOn number runtime related other)
    (found : service.find index = some (call, live)) (here : call.runtime = number) :
    service.runtimes[number]? = some live ∧
      related service.clock live (part (ApiCall.isOn number) id service.calls) other ∧
      (part (ApiCall.isOn number) id service.calls)[service.ownPlace number index]? = some call := by
  obtain ⟨isCall, isLive⟩ := Service.find_eq_some.mp found
  have before := relatedOn.related
  rw [here] at isLive
  rw [isLive, Option.getD_some] at before
  exact ⟨isLive, before, part_getElem? _ _ isCall (decide_eq_true here)⟩

theorem Service.RelatedOn.advanced
    (rules : TurnRules crates environment order hashKey errors answers runtime turn start related)
    (relatedOn : service.RelatedOn number runtime related other)
    (isOwn : ∀ live, service.runtimes[number]? = some live → live.runtime = runtime) (index : Nat)
    (around : Surroundings) :
    ∃ turns, service.Answers answers number other (.advance index around) turns ∧
      (service.step crates environment order hashKey errors (.advance index around)).RelatedOn number
        runtime related (turns.foldl turn other) := by
  have placed := relatedOn.placed.change (@Service.step_cases crates environment order hashKey errors
    service (.advance index around))
  simp only [Service.step, Service.advance, Service.Answers] at placed ⊢
  cases found : service.find index with
  | none => exact ⟨[], rfl, relatedOn⟩
  | some entry =>
      obtain ⟨call, live⟩ := entry
      rw [found] at placed
      by_cases here : call.runtime = number
      · obtain ⟨isLive, before, isHere⟩ := relatedOn.own found here
        obtain ⟨turns, answered, turned⟩ := rules.steps around (isOwn live isLive) before isHere
        refine ⟨turns, by simpa only [here, if_true] using answered, ?_⟩
        exact relatedOn_settle found here placed turned
      · exact ⟨[], by simp only [here, if_false],
          relatedOn.settled_elsewhere found here placed⟩

theorem Service.RelatedOn.disconnected
    (rules : TurnRules crates environment order hashKey errors answers runtime turn start related)
    (relatedOn : service.RelatedOn number runtime related other)
    (isOwn : ∀ live, service.runtimes[number]? = some live → live.runtime = runtime) (index : Nat) :
    ∃ turns, service.Answers answers number other (.disconnect index) turns ∧
      (service.step crates environment order hashKey errors (.disconnect index)).RelatedOn number
        runtime related (turns.foldl turn other) := by
  have placed := relatedOn.placed.change (@Service.step_cases crates environment order hashKey errors
    service (.disconnect index))
  simp only [Service.step, Service.Answers] at placed ⊢
  cases found : service.find index with
  | none => exact ⟨[], rfl, relatedOn⟩
  | some entry =>
      obtain ⟨call, live⟩ := entry
      rw [found] at placed
      obtain ⟨isCall, _⟩ := Service.find_eq_some.mp found
      by_cases here : call.runtime = number
      · obtain ⟨isLive, before, isHere⟩ := relatedOn.own found here
        have erased := part_eraseIdx (ApiCall.isOn number) id isCall (decide_eq_true here)
        have bound := (List.getElem?_eq_some_iff.mp isLive).1
        obtain ⟨turns, answered, turned⟩ := rules.leaves (isOwn live isLive) before isHere
        refine ⟨turns, by simpa only [here, if_true] using answered, placed, ?_⟩
        simp only [Service.leave, Service.setRuntime, here, List.getElem?_set_self bound,
          Option.getD_some, erased]
        exact turned
      · have erased := part_eraseIdx_of_not (ApiCall.isOn number) id isCall (decide_eq_false here)
        refine ⟨[], by simp only [here, if_false], placed, ?_⟩
        simp only [Service.leave, Service.setRuntime, List.getElem?_set_ne here, erased]
        exact relatedOn.related

/-- A runtime that is put in place is the one that is waited for, or comes at another number. -/
theorem Service.RelatedOn.reloaded (relatedOn : service.RelatedOn number runtime related other)
    (loaded : Except ProxyError AppConfig)
    (isOwn : ∀ live, (service.step crates environment order hashKey errors
      (.hangup loaded)).runtimes[number]? = some live → live.runtime = runtime) :
    (service.step crates environment order hashKey errors (.hangup loaded)).RelatedOn number runtime
      related other := by
  have placed := relatedOn.placed.change (@Service.step_cases crates environment order hashKey errors
    service (.hangup loaded))
  obtain ⟨more, heeds, isAfter, isMore⟩ :=
    @hangup_runtimes crates environment hashKey loaded service
  rw [Service.step, isAfter] at isOwn placed ⊢
  refine ⟨placed, ?_⟩
  have same : (service.runtimes ++ more)[number]?.getD runtime.live =
      service.runtimes[number]?.getD runtime.live := by
    by_cases bound : number < service.runtimes.length
    · rw [List.getElem?_append_left bound]
    · have absent := List.getElem?_eq_none (Nat.le_of_not_lt bound)
      rw [absent, Option.getD_none]
      cases isNew : (service.runtimes ++ more)[number]? with
      | none => rfl
      | some new =>
          have isRuntime := isOwn new isNew
          rw [List.getElem?_append_right (Nat.le_of_not_lt bound)] at isNew
          rcases isMore with rfl | ⟨config, built, _, _, rfl⟩
          · cases isNew
          · obtain ⟨rfl⟩ := List.mem_singleton.mp (List.mem_of_getElem? isNew)
            exact congrArg Runtime.live isRuntime
  dsimp only
  rw [same]
  exact relatedOn.related

theorem Service.RelatedOn.arrived
    (rules : TurnRules crates environment order hashKey errors answers runtime turn start related)
    (relatedOn : service.RelatedOn number runtime related other) (request : ApiRequest) :
    (service.step crates environment order hashKey errors (.arrive request)).RelatedOn number runtime
      related other := by
  refine ⟨relatedOn.placed.change (@Service.step_cases crates environment order hashKey errors service
    (.arrive request)), ?_⟩
  have before := relatedOn.related
  simp only [Service.step, part_append]
  by_cases here : service.runtimes.length - 1 = number
  · have kept : ApiCall.isOn number
        { request := request, runtime := service.runtimes.length - 1, phase := .arrived } = true :=
      decide_eq_true here
    rw [part_cons _ _ kept]
    exact rules.arrives rfl before
  · have notKept : ApiCall.isOn number
        { request := request, runtime := service.runtimes.length - 1, phase := .arrived } = false :=
      decide_eq_false here
    rw [part_cons_of_not _ _ notKept]
    simpa [part] using before

/-! ### Runs -/

/-- The other machine follows every run of the service, with the answers of the requests on the
runtime. -/
theorem TurnRules.run
    (rules : TurnRules crates environment order hashKey errors answers runtime turn start related)
    (first : Runtime) (moves : List ServiceMove) {number : Nat} {live : LiveRuntime}
    (isLive : (Service.run crates environment order hashKey errors first moves).runtimes[number]? =
      some live) (isRuntime : live.runtime = runtime) :
    ∃ turns, InStep (Service.step crates environment order hashKey errors) turn
      (Service.Answers answers number) (Service.RelatedOn number runtime related) (.initial first)
      start moves turns := by
  apply exists_inStep fun service =>
    ∀ live, service.runtimes[number]? = some live → live.runtime = runtime
  · intro service move isOwn live isLive
    obtain ⟨later, isLater, same⟩ :=
      (@Service.step_cases crates environment order hashKey errors service move).keepsRuntimes number
        live isLive
    exact same.symm.trans (isOwn later isLater)
  · intro service other move isOwn relatedOn
    have keeps := (@Service.step_cases crates environment order hashKey errors service
      move).keepsRuntimes
    have isOwnBefore : ∀ live, service.runtimes[number]? = some live → live.runtime = runtime := by
      intro live isLive
      obtain ⟨later, isLater, same⟩ := keeps number live isLive
      exact same.symm.trans (isOwn later isLater)
    cases move with
    | tick elapsed =>
        obtain ⟨present, calls, contacts, answered, dropped⟩ := relatedOn.placed
        exact ⟨_, rfl, ⟨present, calls, contacts, answered, dropped⟩,
          rules.ticks elapsed relatedOn.related⟩
    | arrive request => exact ⟨[], rfl, relatedOn.arrived rules request⟩
    | advance index around => exact relatedOn.advanced rules isOwnBefore index around
    | disconnect index => exact relatedOn.disconnected rules isOwnBefore index
    | hangup loaded => exact ⟨[], rfl, relatedOn.reloaded loaded isOwn⟩
  · refine ⟨@placed_run crates environment order hashKey errors first [], ?_⟩
    have isStart : (Service.initial first).runtimes[number]?.getD runtime.live = runtime.live := by
      cases number with
      | zero =>
          rw [← isRuntime, run_first first moves isLive]
          rfl
      | succ number => rfl
    rw [isStart]
    exact rules.starts
  · intro other isOther
    change (Service.run crates environment order hashKey errors first moves).runtimes[number]? =
      some other at isOther
    rw [isLive] at isOther
    cases isOther
    exact isRuntime

end Turns

end ClaudeProxy
