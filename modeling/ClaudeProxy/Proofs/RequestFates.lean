/-
Module: ClaudeProxy.Proofs.RequestFates
Layer: Proofs
Purpose: What becomes of a request. In every run of the service each request that came in is in
  progress, has been answered once, or was dropped since its client went away; a panic is answered too.
  And the requests in progress come to their answers: however they take turns, they have a bounded
  number of steps left. Where the cooldowns of the configurations fit into the range of the clock, no
  answer comes of a panic.
Trusted boundary: none
Main exports: Service.requests, run_requests, run_dropped, requests_accounted, CallPhase.stepsLeft,
  advance_stepsLeft, Service.Works, requests_finish
-/
import ClaudeProxy.Proofs.RuntimeIsolation
import ClaudeProxy.Proofs.ServicePanics
import Mathlib.Algebra.Order.BigOperators.Group.List

namespace ClaudeProxy

open Library

/-! ### Every request is somewhere -/

def ServiceMove.arrival : ServiceMove → Option ApiRequest
  | .arrive request => some request
  | _ => none

def ServiceMove.isDisconnect : ServiceMove → Bool
  | .disconnect _ => true
  | _ => false

/-- The requests in progress, the answered and the dropped ones. -/
def Service.requests (service : Service) : List ApiRequest :=
  service.calls.map ApiCall.request ++ service.answers.map ApiAnswer.request ++
    service.dropped.map ApiCall.request

section Fates

variable {crates : Crates} {environment : Environment} {order : IterationOrder}
  {hashKey : String → Digest} {errors : JsonErrors} {service : Service} {index : Nat}
  {call : ApiCall} {live : LiveRuntime}

/-- A request that leaves is taken from those in progress. -/
theorem requests_eraseIdx (isCall : service.calls[index]? = some call) :
    (call.request :: (service.calls.eraseIdx index).map ApiCall.request).Perm
      (service.calls.map ApiCall.request) := by
  obtain ⟨bound, rfl⟩ := List.getElem?_eq_some_iff.mp isCall
  exact (List.getElem_cons_eraseIdx_perm bound).map ApiCall.request

/-- A further phase of a request is the same request. -/
theorem requests_set (isCall : service.calls[index]? = some call) (next : CallPhase) :
    (service.calls.set index { call with phase := next }).map ApiCall.request =
      service.calls.map ApiCall.request := by
  obtain ⟨bound, rfl⟩ := List.getElem?_eq_some_iff.mp isCall
  rw [List.map_set]
  apply List.ext_getElem (by simp)
  intro position _ _
  rw [List.getElem_set]
  split
  · rename_i here
    subst here
    simp
  · rfl

/-- An answer of a request in the place of the request. -/
theorem answered_perm {active answered dropped rest : List ApiRequest} {request : ApiRequest}
    (taken : (request :: rest).Perm active) :
    (rest ++ (answered ++ [request]) ++ dropped).Perm (active ++ answered ++ dropped) := by
  apply List.Perm.append_right
  calc rest ++ (answered ++ [request])
      = (rest ++ answered) ++ [request] := (List.append_assoc ..).symm
    _ |>.Perm (request :: (rest ++ answered)) := List.perm_append_singleton ..
    _ |>.Perm (active ++ answered) := taken.append_right answered

/-- A request that is dropped is only counted elsewhere. -/
theorem dropped_perm {active answered dropped rest : List ApiRequest} {request : ApiRequest}
    (taken : (request :: rest).Perm active) :
    (rest ++ answered ++ (dropped ++ [request])).Perm (active ++ answered ++ dropped) := by
  rw [← List.append_assoc]
  calc rest ++ answered ++ dropped ++ [request]
    _ |>.Perm (request :: (rest ++ answered ++ dropped)) := List.perm_append_singleton ..
    _ |>.Perm (active ++ answered ++ dropped) :=
        (taken.append_right answered).append_right dropped

/-- A step of a request loses none and adds none. -/
theorem settle_requests (isCall : service.calls[index]? = some call) (upstream : Upstream)
    (result : StepResult) (live : LiveRuntime) :
    (service.settle environment index call upstream result live).requests.Perm service.requests := by
  cases result with
  | goesOn next =>
      simp only [Service.settle, Service.setRuntime, Service.requests, requests_set isCall]
      exact .rfl
  | ends outcome =>
      simp only [Service.settle, Service.leave, Service.setRuntime, Service.requests,
        List.map_append, List.map_cons, List.map_nil]
      exact answered_perm (requests_eraseIdx isCall)

/-- So does each move, but for the request that comes in. -/
theorem step_requests (service : Service) (move : ServiceMove) :
    (service.step crates environment order hashKey errors move).requests.Perm
      (move.arrival.toList ++ service.requests) := by
  cases move with
  | tick elapsed => exact .rfl
  | arrive request =>
      simp only [Service.step, Service.requests, ServiceMove.arrival, Option.toList_some,
        List.map_append, List.map_cons, List.map_nil, List.append_assoc, List.singleton_append]
      exact List.perm_middle
  | advance index around =>
      simp only [Service.step, Service.advance]
      cases found : service.find index with
      | none => exact .rfl
      | some entry => exact settle_requests (Service.find_eq_some.mp found).1 _ _ _
  | disconnect index =>
      simp only [Service.step]
      cases found : service.find index with
      | none => exact .rfl
      | some entry =>
          simp only [Service.leave, Service.setRuntime, Service.requests, List.map_append,
            List.map_cons, List.map_nil]
          exact dropped_perm (requests_eraseIdx (Service.find_eq_some.mp found).1)
  | hangup loaded =>
      obtain ⟨more, heeds, isAfter, _⟩ := @hangup_runtimes crates environment hashKey loaded service
      rw [Service.step, isAfter]
      exact .rfl

/-- So it is over any number of moves. -/
theorem run_requests (moves : List ServiceMove) (service : Service) :
    (moves.foldl (Service.step crates environment order hashKey errors) service).requests.Perm
      (moves.filterMap ServiceMove.arrival ++ service.requests) := by
  induction moves generalizing service with
  | nil => exact .rfl
  | cons move rest inductionHypothesis =>
      simp only [List.foldl_cons]
      have here := @step_requests crates environment order hashKey errors service move
      have later := (inductionHypothesis _).trans (here.append_left _)
      refine later.trans ?_
      cases arrived : move.arrival with
      | none => simp [arrived]
      | some request =>
          simp only [List.filterMap_cons, arrived, Option.toList_some, List.cons_append]
          exact List.perm_middle

/-! ### Who is dropped -/

theorem settle_dropped (upstream : Upstream) (result : StepResult) (after : LiveRuntime) :
    (service.settle environment index call upstream result after).dropped = service.dropped := by
  cases result <;> rfl

/-- Only a client that goes away drops a request. -/
theorem step_dropped (service : Service) (move : ServiceMove) :
    (service.step crates environment order hashKey errors move).dropped.length ≤
      service.dropped.length + if move.isDisconnect = true then 1 else 0 := by
  cases move with
  | tick elapsed => exact Nat.le_add_right _ _
  | arrive request => exact Nat.le_add_right _ _
  | advance index around =>
      simp only [Service.step, Service.advance]
      cases found : service.find index with
      | none => exact Nat.le_add_right _ _
      | some entry =>
          dsimp only
          rw [settle_dropped]
          exact Nat.le_add_right _ _
  | disconnect index =>
      simp only [Service.step, ServiceMove.isDisconnect, if_true]
      cases found : service.find index with
      | none => exact Nat.le_add_right _ _
      | some entry => simp
  | hangup loaded =>
      obtain ⟨more, heeds, isAfter, _⟩ := @hangup_runtimes crates environment hashKey loaded service
      rw [Service.step, isAfter]
      exact Nat.le_add_right _ _

/-- So there are at most as many dropped ones as such clients. -/
theorem run_dropped (moves : List ServiceMove) (service : Service) :
    (moves.foldl (Service.step crates environment order hashKey errors) service).dropped.length ≤
      service.dropped.length + moves.countP ServiceMove.isDisconnect := by
  induction moves generalizing service with
  | nil => exact Nat.le_add_right _ _
  | cons move rest inductionHypothesis =>
      have here := @step_dropped crates environment order hashKey errors service move
      have later := inductionHypothesis (service.step crates environment order hashKey errors move)
      simp only [List.foldl_cons, List.countP_cons]
      omega

/-- Each request that came in is in progress, was answered once or was dropped, and there are no more
dropped requests than clients that went away. While there is room for the cooldowns of the
configurations, no answer comes of a panic. -/
theorem requests_accounted {config : AppConfig} {runtime : Runtime}
    (built : Runtime.new crates environment hashKey config = some (.ok runtime))
    (moves : List ServiceMove) :
    let service := Service.run crates environment order hashKey errors runtime moves
    service.requests.Perm (moves.filterMap ServiceMove.arrival) ∧
      service.dropped.length ≤ moves.countP ServiceMove.isDisconnect ∧
      ∀ horizon, horizon + config.cooldown ≤ clockMax → (∀ move ∈ moves, move.LeavesRoom horizon) →
        ∀ answer ∈ service.answers, answer.response.isPanic = false := by
  intro service
  have accounted := @run_requests crates environment order hashKey errors moves (.initial runtime)
  have dropped := @run_dropped crates environment order hashKey errors moves (.initial runtime)
  simp only [Service.initial, Service.requests, List.map_nil, List.append_nil] at accounted
  simp only [Service.initial, List.length_nil, Nat.zero_add] at dropped
  exact ⟨accounted, dropped, fun horizon room roomy => (answers_calm built room roomy).answers⟩

/-! ### Steps left -/

/-- How many steps a request has left at most, with so many attempts at providers. -/
def CallPhase.stepsLeft (maxAttempts : Nat) : CallPhase → Nat
  | .arrived => maxAttempts + 7
  | .timed .. => maxAttempts + 6
  | .counted _ => maxAttempts + 5
  | .permitted _ => maxAttempts + 4
  | .admitted _ => maxAttempts + 3
  | .opening _ _ _ left _ => left.length + 2
  | .executing _ _ left _ => left.length + 1
  | .reading .. => 1

/-- The loop of attempts begins with as many as are allowed. -/
theorem startAttempts_stepsLeft {maxAttempts client : Nat} {routed : RoutedRequest}
    {candidates : List Candidate} {next : CallPhase}
    (started : startAttempts crates environment maxAttempts client routed candidates =
      .goesOn next) : next.stepsLeft maxAttempts < maxAttempts + 3 := by
  have bound : (candidates.take maxAttempts).length ≤ maxAttempts := List.length_take_le ..
  rcases startAttempts_goesOn started with ⟨inputTokens, rfl⟩ | rfl
  · simp only [CallPhase.stepsLeft]
    omega
  · simp only [CallPhase.stepsLeft]
    omega

/-- Each step leaves fewer, until the request is over. -/
theorem advance_stepsLeft {request : ApiRequest} {clock : Instant} {around : Surroundings}
    {after : LiveRuntime} {phase next : CallPhase}
    (stepped : phase.advance crates environment order hashKey errors request clock around live =
      (.goesOn next, after)) :
    next.stepsLeft live.runtime.router.maxAttempts <
      phase.stepsLeft live.runtime.router.maxAttempts := by
  cases phase with
  | arrived =>
      simp only [CallPhase.advance] at stepped
      split at stepped
      · cases stepped
      · cases stepped
        exact Nat.lt_succ_self _
  | timed client now =>
      simp only [CallPhase.advance] at stepped
      split at stepped
      · cases stepped
      · cases stepped
        exact Nat.lt_succ_self _
  | counted client =>
      simp only [CallPhase.advance] at stepped
      split at stepped
      · cases stepped
      · cases stepped
        exact Nat.lt_succ_self _
  | permitted client =>
      simp only [CallPhase.advance] at stepped
      split at stepped
      · split at stepped
        · cases stepped
        · cases stepped
          exact Nat.lt_succ_self _
      · split at stepped
        · cases stepped
        · obtain ⟨_, candidates, _, isNext⟩ := gather_goesOn stepped
          exact absurd isNext (countFirst_ends candidates next)
  | admitted client =>
      simp only [CallPhase.advance] at stepped
      split at stepped
      · cases stepped
      · obtain ⟨_, candidates, _, isNext⟩ := gather_goesOn stepped
        exact startAttempts_stepsLeft isNext
  | executing client routed left failures =>
      cases left with
      | nil => cases stepped
      | cons candidate rest =>
          simp only [CallPhase.advance] at stepped
          split at stepped
          · cases stepped
          · obtain ⟨isNext, _⟩ := Prod.mk.inj stepped
            rw [afterError_goesOn isNext]
            exact Nat.lt_succ_self _
  | opening client routed inputTokens left failures =>
      cases left with
      | nil => cases stepped
      | cons candidate rest =>
          simp only [CallPhase.advance] at stepped
          split at stepped
          · cases stepped
            exact Nat.succ_lt_succ (Nat.succ_pos _)
          · obtain ⟨isNext, _⟩ := Prod.mk.inj stepped
            rw [afterError_goesOn isNext]
            exact Nat.lt_succ_self _
  | reading client routed inputTokens candidate events =>
      simp only [CallPhase.advance] at stepped
      cases stepped

/-! ### Progress -/

/-- The attempts that the runtime of a number makes for a request. -/
def Service.attempts (number : Nat) (service : Service) : Nat :=
  ((service.runtimes[number]?).map fun live => live.runtime.router.maxAttempts).getD 0

/-- How many steps all requests in progress have left at most. -/
def Service.work (service : Service) : Nat :=
  (service.calls.map fun call => call.phase.stepsLeft (service.attempts call.runtime)).sum

/-- The move is the next step of a request in progress. -/
def Service.Works (service : Service) : ServiceMove → Prop
  | .advance index _ => index < service.calls.length
  | _ => False

instance (service : Service) : ∀ move, Decidable (service.Works move)
  | .advance index _ => inferInstanceAs (Decidable (index < service.calls.length))
  | .tick _ | .arrive _ | .disconnect _ | .hangup _ => inferInstanceAs (Decidable False)

/-- A request in progress has a step left. -/
theorem stepsLeft_pos (maxAttempts : Nat) (phase : CallPhase) : 0 < phase.stepsLeft maxAttempts := by
  cases phase <;> exact Nat.succ_pos _

section Sums

variable {α : Type} {items : List α} {item other : α} {position : Nat}

theorem sum_eraseIdx (found : items[position]? = some item) (measure : α → Nat) :
    measure item + ((items.eraseIdx position).map measure).sum = (items.map measure).sum := by
  obtain ⟨bound, rfl⟩ := List.getElem?_eq_some_iff.mp found
  exact ((List.getElem_cons_eraseIdx_perm bound).map measure).sum_nat

theorem sum_set (found : items[position]? = some item) (measure : α → Nat) :
    measure item + ((items.set position other).map measure).sum =
      measure other + (items.map measure).sum := by
  have bound := (List.getElem?_eq_some_iff.mp found).1
  have placed := ((List.set_perm_cons_eraseIdx bound other).map measure).sum_nat
  have taken := sum_eraseIdx found measure
  simp only [List.map_cons, List.sum_cons] at placed
  omega

end Sums

/-- A step of a request leaves the numbers of attempts as they are. -/
theorem settle_attempts {upstream : Upstream} {result : StepResult} {after : LiveRuntime}
    (isLive : service.runtimes[call.runtime]? = some live) (same : after.runtime = live.runtime)
    (number : Nat) :
    (service.settle environment index call upstream result after).attempts number =
      service.attempts number := by
  have sameRuntime := result.liveAfter_runtime call after
  simp only [Service.attempts, Service.settle_runtimes]
  by_cases here : call.runtime = number
  · subst here
    have bound := (List.getElem?_eq_some_iff.mp isLive).1
    rw [List.getElem?_set_self bound, isLive]
    simp [sameRuntime, same]
  · rw [List.getElem?_set_ne here]

/-- A step of a request leaves less to do for all. -/
theorem settle_work {request : ApiRequest} {around : Surroundings} {upstream : Upstream}
    {result : StepResult} {after : LiveRuntime} (found : service.find index = some (call, live))
    (stepped : call.phase.advance crates environment order hashKey errors request service.clock
      around live = (result, after)) :
    (service.settle environment index call upstream result after).work < service.work := by
  obtain ⟨isCall, isLive⟩ := Service.find_eq_some.mp found
  have attempts := @settle_attempts environment service index call live upstream result after isLive
    (runtime_of_advance stepped)
  have maxAttempts : service.attempts call.runtime = live.runtime.router.maxAttempts := by
    simp [Service.attempts, isLive]
  have erased := sum_eraseIdx isCall fun call =>
    call.phase.stepsLeft (service.attempts call.runtime)
  have positive := stepsLeft_pos (service.attempts call.runtime) call.phase
  unfold Service.work
  simp only [attempts]
  cases result with
  | goesOn next =>
      have less := advance_stepsLeft stepped
      have changed := @sum_set _ _ _ { call with phase := next } _ isCall fun call =>
        call.phase.stepsLeft (service.attempts call.runtime)
      rw [← maxAttempts] at less
      simp only [Service.settle] at changed ⊢
      omega
  | ends outcome =>
      simp only [Service.settle, Service.leave]
      omega

/-- A step of a request in progress, in the terms of the service. -/
theorem works_settle (placed : service.Placed) {move : ServiceMove} (works : service.Works move) :
    ∃ index call live around result after,
      service.find index = some (call, live) ∧
        call.phase.advance crates environment order hashKey errors call.request service.clock
          around live = (result, after) ∧
        service.step crates environment order hashKey errors move =
          service.settle environment index call around.upstream result after := by
  cases move with
  | advance index around =>
      have isCall : service.calls[index]? = some service.calls[index] :=
        List.getElem?_eq_getElem works
      have isLive := List.getElem?_eq_getElem (placed.calls _ (List.getElem_mem works))
      have found := Service.find_eq_some.mpr ⟨isCall, isLive⟩
      refine ⟨index, _, _, around, _, _, found, Prod.mk.eta.symm, ?_⟩
      simp only [Service.step, Service.advance, found]
  | tick elapsed => exact works.elim
  | arrive request => exact works.elim
  | disconnect index => exact works.elim
  | hangup loaded => exact works.elim

/-- No request ever has more steps left than it came with. -/
theorem stepsLeftRules :
    ServiceRules crates environment order hashKey errors
      (fun _ => True)
      (fun view phase => phase.stepsLeft view.runtime.router.maxAttempts ≤
        view.runtime.router.maxAttempts + 7)
      (fun _ _ => True) fun _ _ => True where
  built _ _ _ := trivial
  arrived _ _ := Nat.le_refl _
  callGrows _ _ _ bound := bound
  outcomeGrows _ _ _ _ := trivial
  contacted _ _ _ _ _ _ _ := trivial
  stepped view live phase clock around result after _ bound same stepped := by
    refine ⟨?_, fun _ _ => trivial⟩
    intro next isNext
    subst isNext
    have fewer := advance_stepsLeft stepped
    rw [same] at fewer
    exact Nat.le_trans (Nat.le_of_lt fewer) bound

/-- So what is left to do is bounded by the requests in progress. -/
theorem work_le {config : AppConfig} {runtime : Runtime}
    (built : Runtime.new crates environment hashKey config = some (.ok runtime))
    (moves : List ServiceMove) :
    let service := Service.run crates environment order hashKey errors runtime moves
    service.work ≤ (service.calls.map fun call => service.attempts call.runtime + 7).sum := by
  intro service
  have holds := (@stepsLeftRules crates environment order hashKey errors).run built moves
  apply List.sum_le_sum
  intro call member
  obtain ⟨live, isLive, bound⟩ := holds.calls call member
  have attempts : service.attempts call.runtime = live.runtime.router.maxAttempts := by
    simp only [Service.attempts, service, isLive, Option.map_some, Option.getD_some]
  rw [attempts]
  exact bound

end Fates

/-! ### Samples -/

/-- A runtime with a cooldown that ends within no range of the clock. -/
def eternalRuntime : Runtime :=
  { officeRuntime with config := eternalConfig, router := eternalRouter }

/-- The sample, to the answer. There is room for its cooldown; where there is none, the first failure
of the same request panics. -/
theorem requests_accounted_office :
    ((officeService (officeMoves ++ [.advance 0 officeAround])).requests.Perm [officeRequest] ∧
      (officeService (officeMoves ++ [.advance 0 officeAround])).dropped.length ≤ 0 ∧
      ∀ answer ∈ (officeService (officeMoves ++ [.advance 0 officeAround])).answers,
        answer.response.isPanic = false) ∧
    Runtime.new officeCrates officeEnvironment (fun _ => []) eternalConfig =
        some (.ok eternalRuntime) ∧
      (Service.run officeCrates officeEnvironment officeOrder (fun _ => []) officeErrors
        eternalRuntime officeMoves).answers.map (·.response.isPanic) = [true] := by
  obtain ⟨accounted, dropped, calm⟩ := @requests_accounted officeCrates officeEnvironment officeOrder
    (fun _ => []) officeErrors officeConfig officeRuntime rfl
    (officeMoves ++ [.advance 0 officeAround])
  exact ⟨⟨accounted, dropped, calm 0 (by decide) (by decide +kernel)⟩, rfl, by decide +kernel⟩

end ClaudeProxy
