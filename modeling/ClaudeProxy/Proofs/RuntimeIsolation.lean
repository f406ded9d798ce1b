/-
Module: ClaudeProxy.Proofs.RuntimeIsolation
Layer: Proofs
Purpose: What a reload changes for requests in progress: nothing. In every run of the service, the part
  of it that belongs to one runtime (its limits and circuits, the requests that loaded it, their
  attempts and answers) is the whole of a service that was started with this runtime and is never
  reloaded. So the service with reloads is an interleaving of services without any.
Trusted boundary: none
Main exports: part, place, Service.alone, Service.ownMoves, step_alone, alone_invariant, RuntimeRules,
  runtimes_isolated
-/
import ClaudeProxy.Proofs.ServiceSteps

namespace ClaudeProxy

open Library

/-! ### Part of a list -/

section Parts

variable {α β : Type} (keep : α → Bool) (view : α → β) {items : List α} {index : Nat}
  {item : α}

/-- The items to keep, as they are seen. -/
def part (items : List α) : List β := (items.filter keep).map view

/-- The place of an item among those to keep. -/
def place (index : Nat) (items : List α) : Nat := (items.take index).countP keep

theorem part_append (first second : List α) :
    part keep view (first ++ second) = part keep view first ++ part keep view second := by
  simp only [part, List.filter_append, List.map_append]

theorem part_length (items : List α) : (part keep view items).length = items.countP keep := by
  simp only [part, List.length_map, List.countP_eq_length_filter]

theorem part_cons (kept : keep item = true) (rest : List α) :
    part keep view (item :: rest) = view item :: part keep view rest := by
  simp only [part, List.filter_cons_of_pos kept, List.map_cons]

theorem part_cons_of_not (notKept : keep item = false) (rest : List α) :
    part keep view (item :: rest) = part keep view rest := by
  simp [part, notKept]

theorem part_nil_of_not (each : ∀ item ∈ items, keep item = false) : part keep view items = [] := by
  simp only [part, List.map_eq_nil_iff, List.filter_eq_nil_iff]
  intro item member
  simp [each item member]

theorem split_at (found : items[index]? = some item) :
    items = items.take index ++ item :: items.drop (index + 1) := by
  obtain ⟨bound, rfl⟩ := List.getElem?_eq_some_iff.mp found
  rw [List.getElem_cons_drop, List.take_append_drop]

/-- An item that is kept is found in the part at its own place. -/
theorem part_getElem? (found : items[index]? = some item) (kept : keep item = true) :
    (part keep view items)[place keep index items]? = some (view item) := by
  have before := congrArg (part keep view) (split_at found)
  rw [part_append, part_cons keep view kept] at before
  rw [before, place, ← part_length keep view, List.getElem?_append_right (Nat.le_refl _),
    Nat.sub_self]
  rfl

/-- A change of it in the whole is one in the part. -/
theorem part_set (found : items[index]? = some item) (kept : keep item = true) {other : α}
    (keptOther : keep other = true) :
    part keep view (items.set index other) =
      (part keep view items).set (place keep index items) (view other) := by
  have bound := (List.getElem?_eq_some_iff.mp found).1
  have before := congrArg (part keep view) (split_at found)
  rw [part_append, part_cons keep view kept] at before
  rw [List.set_eq_take_append_cons_drop, if_pos bound, part_append,
    part_cons keep view keptOther, before, place, ← part_length keep view]
  simp

/-- So is its removal. -/
theorem part_eraseIdx (found : items[index]? = some item) (kept : keep item = true) :
    part keep view (items.eraseIdx index) =
      (part keep view items).eraseIdx (place keep index items) := by
  have before := congrArg (part keep view) (split_at found)
  rw [part_append, part_cons keep view kept] at before
  rw [List.eraseIdx_eq_take_drop_succ, part_append, before, place, ← part_length keep view,
    List.eraseIdx_append_of_length_le (Nat.le_refl _), Nat.sub_self]
  rfl

/-- A change of another item is none in the part. -/
theorem part_set_of_not (found : items[index]? = some item) (notKept : keep item = false) {other : α}
    (notKeptOther : keep other = false) :
    part keep view (items.set index other) = part keep view items := by
  have bound := (List.getElem?_eq_some_iff.mp found).1
  conv_rhs => rw [split_at found]
  rw [List.set_eq_take_append_cons_drop, if_pos bound, part_append, part_append,
    part_cons_of_not keep view notKept, part_cons_of_not keep view notKeptOther]

/-- Nor is its removal. -/
theorem part_eraseIdx_of_not (found : items[index]? = some item) (notKept : keep item = false) :
    part keep view (items.eraseIdx index) = part keep view items := by
  conv_rhs => rw [split_at found]
  rw [List.eraseIdx_eq_take_drop_succ, part_append, part_append,
    part_cons_of_not keep view notKept]

end Parts

/-! ### One runtime -/

/-- As it is on a service of its own runtime alone. -/
def ApiCall.onOwn (call : ApiCall) : ApiCall := { call with runtime := 0 }

def Contact.onOwn (contact : Contact) : Contact := { contact with runtime := 0 }

def ApiAnswer.onOwn (answer : ApiAnswer) : ApiAnswer := { answer with runtime := 0 }

def ApiCall.isOn (number : Nat) (call : ApiCall) : Bool := call.runtime = number

def Contact.isOn (number : Nat) (contact : Contact) : Bool := contact.runtime = number

def ApiAnswer.isOn (number : Nat) (answer : ApiAnswer) : Bool := answer.runtime = number

/-- What belongs to one runtime. -/
def Service.alone (number : Nat) (service : Service) : Service where
  clock := service.clock
  runtimes := (service.runtimes[number]?).toList
  calls := part (ApiCall.isOn number) ApiCall.onOwn service.calls
  contacts := part (Contact.isOn number) Contact.onOwn service.contacts
  answers := part (ApiAnswer.isOn number) ApiAnswer.onOwn service.answers
  dropped := part (ApiCall.isOn number) ApiCall.onOwn service.dropped

/-- The place of a call among those on its runtime. -/
def Service.ownPlace (number index : Nat) (service : Service) : Nat :=
  place (ApiCall.isOn number) index service.calls

/-- What a move is for the part of one runtime. -/
def Service.ownMoves (number : Nat) (service : Service) : ServiceMove → List ServiceMove
  | .tick elapsed => [.tick elapsed]
  | .arrive request => if number + 1 = service.runtimes.length then [.arrive request] else []
  | .advance index around =>
      if (service.calls[index]?).any (ApiCall.isOn number) = true then
        [.advance (service.ownPlace number index) around]
      else []
  | .disconnect index =>
      if (service.calls[index]?).any (ApiCall.isOn number) = true then
        [.disconnect (service.ownPlace number index)]
      else []
  | .hangup _ => []

section Isolation

variable {crates : Crates} {environment : Environment} {order : IterationOrder}
  {hashKey : String → Digest} {errors : JsonErrors} {service : Service} {number index : Nat}
  {call : ApiCall} {live : LiveRuntime}

/-! ### One move -/

/-- A runtime alone is the only one. -/
theorem alone_runtimes (isLive : service.runtimes[number]? = some live) :
    (service.alone number).runtimes = [live] := by
  simp [Service.alone, isLive]

/-- A request on it is found there. -/
theorem alone_find (isCall : service.calls[index]? = some call)
    (isLive : service.runtimes[call.runtime]? = some live) :
    (service.alone call.runtime).find (service.ownPlace call.runtime index) =
      some (call.onOwn, live) := by
  apply Service.find_eq_some.mpr
  constructor
  · exact part_getElem? _ _ isCall (by simp [ApiCall.isOn])
  · rw [alone_runtimes isLive]
    rfl

/-- Its attempts are the same there. -/
theorem contact_onOwn (upstream : Upstream) (call : ApiCall) :
    call.onOwn.contact upstream = (call.contact upstream).map Contact.onOwn := by
  obtain ⟨request, runtime, phase⟩ := call
  cases phase with
  | executing client routed left failures => cases left <;> rfl
  | opening client routed inputTokens left failures => cases left <;> rfl
  | arrived => rfl
  | timed client now => rfl
  | counted client => rfl
  | permitted client => rfl
  | admitted client => rfl
  | reading client routed inputTokens candidate events => rfl

/-- An attempt for it is recorded in the part. -/
theorem part_contacts (upstream : Upstream) (call : ApiCall) (contacts : List Contact) :
    part (Contact.isOn call.runtime) Contact.onOwn (contacts ++ (call.contact upstream).toList) =
      part (Contact.isOn call.runtime) Contact.onOwn contacts ++
        (call.onOwn.contact upstream).toList := by
  rw [part_append, contact_onOwn]
  cases made : call.contact upstream with
  | none => rfl
  | some contact =>
      have kept : contact.isOn call.runtime = true := by
        simp [Contact.isOn, contact_runtime made]
      simp [part, kept]

/-- Attempts for requests on other runtimes are not. -/
theorem part_contacts_of_ne (upstream : Upstream) (elsewhere : call.runtime ≠ number)
    (contacts : List Contact) :
    part (Contact.isOn number) Contact.onOwn (contacts ++ (call.contact upstream).toList) =
      part (Contact.isOn number) Contact.onOwn contacts := by
  rw [part_append]
  cases made : call.contact upstream with
  | none => simp [part]
  | some contact =>
      have notKept : contact.isOn number = false := by
        simp [Contact.isOn, contact_runtime made, elsewhere]
      simp [part, notKept]

theorem setRuntime_alone (bound : call.runtime < service.runtimes.length) (later : LiveRuntime) :
    (((service.runtimes.set call.runtime later)[call.runtime]?).toList) =
      (service.alone call.runtime).runtimes.set 0 later := by
  rw [List.getElem?_set_self bound, alone_runtimes (List.getElem?_eq_getElem bound)]
  rfl

/-- A step of a request is one in its own part. -/
theorem settle_alone (isCall : service.calls[index]? = some call)
    (bound : call.runtime < service.runtimes.length) (upstream : Upstream) (result : StepResult)
    (later : LiveRuntime) :
    (service.settle environment index call upstream result later).alone call.runtime =
      (service.alone call.runtime).settle environment (service.ownPlace call.runtime index)
        call.onOwn upstream result later := by
  have isOn : call.isOn call.runtime = true := by simp [ApiCall.isOn]
  have contacts := part_contacts upstream call service.contacts
  have erased := part_eraseIdx (ApiCall.isOn call.runtime) ApiCall.onOwn isCall isOn
  have freed := setRuntime_alone bound { later with limits := call.phase.release later.limits }
  cases result with
  | goesOn next =>
      have changed := @part_set _ _ (ApiCall.isOn call.runtime) ApiCall.onOwn _ _ _ isCall isOn
        { call with phase := next } isOn
      have runtimes := setRuntime_alone bound later
      simp only [Service.settle, Service.setRuntime, Service.alone, contacts, changed,
        Service.ownPlace] at runtimes ⊢
      rw [runtimes]
      rfl
  | ends outcome =>
      have answers : part (ApiAnswer.isOn call.runtime) ApiAnswer.onOwn (service.answers ++
          [⟨call.request, call.runtime, call.request.respond environment outcome⟩]) =
            part (ApiAnswer.isOn call.runtime) ApiAnswer.onOwn service.answers ++
              [⟨call.request, 0, call.request.respond environment outcome⟩] := by
        rw [part_append]
        simp [part, ApiAnswer.isOn, ApiAnswer.onOwn]
      simp only [Service.settle, Service.leave, Service.setRuntime, Service.alone, contacts, erased,
        answers, Service.ownPlace] at freed ⊢
      rw [freed]
      rfl

/-- A request goes away from its own part. -/
theorem left_alone (isCall : service.calls[index]? = some call)
    (bound : call.runtime < service.runtimes.length) (later : LiveRuntime) :
    Service.alone call.runtime
        { service.leave index call later with dropped := service.dropped ++ [call] } =
      { (service.alone call.runtime).leave (service.ownPlace call.runtime index) call.onOwn later with
        dropped := (service.alone call.runtime).dropped ++ [call.onOwn] } := by
  have isOn : call.isOn call.runtime = true := by simp [ApiCall.isOn]
  have erased := part_eraseIdx (ApiCall.isOn call.runtime) ApiCall.onOwn isCall isOn
  have freed := setRuntime_alone bound { later with limits := call.phase.release later.limits }
  have dropped : part (ApiCall.isOn call.runtime) ApiCall.onOwn (service.dropped ++ [call]) =
      part (ApiCall.isOn call.runtime) ApiCall.onOwn service.dropped ++ [call.onOwn] := by
    rw [part_append, part_cons _ _ isOn]
    rfl
  simp only [Service.leave, Service.setRuntime, Service.alone, erased, dropped,
    Service.ownPlace] at freed ⊢
  rw [freed]
  rfl

/-! ### Moves elsewhere -/

/-- A step of a request on another runtime is none here. -/
theorem settle_alone_of_ne (isCall : service.calls[index]? = some call)
    (elsewhere : call.runtime ≠ number) (upstream : Upstream) (result : StepResult)
    (later : LiveRuntime) :
    (service.settle environment index call upstream result later).alone number =
      service.alone number := by
  have notOn : call.isOn number = false := by simp [ApiCall.isOn, elsewhere]
  have contacts := part_contacts_of_ne upstream elsewhere service.contacts
  have erased := part_eraseIdx_of_not (ApiCall.isOn number) ApiCall.onOwn isCall notOn
  cases result with
  | goesOn next =>
      have changed := @part_set_of_not _ _ (ApiCall.isOn number) ApiCall.onOwn _ _ _ isCall notOn
        { call with phase := next } notOn
      simp only [Service.settle, Service.setRuntime, Service.alone, contacts, changed,
        List.getElem?_set_ne elsewhere]
  | ends outcome =>
      have answers : part (ApiAnswer.isOn number) ApiAnswer.onOwn (service.answers ++
          [⟨call.request, call.runtime, call.request.respond environment outcome⟩]) =
            part (ApiAnswer.isOn number) ApiAnswer.onOwn service.answers := by
        rw [part_append]
        simp [part, ApiAnswer.isOn, elsewhere]
      simp only [Service.settle, Service.leave, Service.setRuntime, Service.alone, contacts, erased,
        answers, List.getElem?_set_ne elsewhere]

/-- Neither is its departure. -/
theorem left_alone_of_ne (isCall : service.calls[index]? = some call)
    (elsewhere : call.runtime ≠ number) (later : LiveRuntime) :
    Service.alone number
        { service.leave index call later with dropped := service.dropped ++ [call] } =
      service.alone number := by
  have notOn : call.isOn number = false := by simp [ApiCall.isOn, elsewhere]
  have erased := part_eraseIdx_of_not (ApiCall.isOn number) ApiCall.onOwn isCall notOn
  have dropped : part (ApiCall.isOn number) ApiCall.onOwn (service.dropped ++ [call]) =
      part (ApiCall.isOn number) ApiCall.onOwn service.dropped := by
    rw [part_append, part_cons_of_not _ _ notOn]
    simp [part]
  simp only [Service.leave, Service.setRuntime, Service.alone, erased, dropped,
    List.getElem?_set_ne elsewhere]

/-- What is there of a runtime stays as it is when another one is put in place. -/
theorem hangup_alone (isLive : service.runtimes[number]? = some live)
    (loaded : Except ProxyError AppConfig) :
    (service.hangup crates environment hashKey loaded).alone number = service.alone number := by
  have bound := (List.getElem?_eq_some_iff.mp isLive).1
  unfold Service.hangup
  split
  · rfl
  · split
    · rfl
    · split
      · rfl
      · rfl
      · split
        · split
          · simp only [Service.alone, List.getElem?_append_left bound]
          · rfl
        · rfl

/-- A request that comes in comes to the newest runtime, whether that is alone or not. -/
theorem arrive_alone (isLive : service.runtimes[number]? = some live) (request : ApiRequest) :
    (service.ownMoves number (.arrive request)).foldl
        (Service.step crates environment order hashKey errors) (service.alone number) =
      (service.step crates environment order hashKey errors (.arrive request)).alone number := by
  have bound := (List.getElem?_eq_some_iff.mp isLive).1
  simp only [Service.ownMoves]
  split
  · rename_i isLast
    have isOn : ApiCall.isOn number
        { request := request, runtime := service.runtimes.length - 1, phase := .arrived } = true := by
      simp only [ApiCall.isOn, decide_eq_true_eq]
      omega
    simp only [List.foldl_cons, List.foldl_nil, Service.step, alone_runtimes isLive]
    simp only [Service.alone, part_append, part_cons _ _ isOn, isLive]
    rfl
  · rename_i notLast
    have notOn : ApiCall.isOn number
        { request := request, runtime := service.runtimes.length - 1, phase := .arrived } = false := by
      simp only [ApiCall.isOn, decide_eq_false_iff_not]
      omega
    simp only [List.foldl_nil, Service.step, Service.alone, part_append, part_cons_of_not _ _ notOn]
    simp [part]

/-- A step of a request is matched by the moves of its runtime. -/
theorem advance_alone (isLive : service.runtimes[number]? = some live) (index : Nat)
    (around : Surroundings) :
    (service.ownMoves number (.advance index around)).foldl
        (Service.step crates environment order hashKey errors) (service.alone number) =
      (service.step crates environment order hashKey errors (.advance index around)).alone
        number := by
  have bound := (List.getElem?_eq_some_iff.mp isLive).1
  simp only [Service.ownMoves]
  cases isCall : service.calls[index]? with
  | none =>
      have absent : service.find index = none := by simp [Service.find, isCall]
      simp [Service.step, Service.advance, absent]
  | some call =>
      by_cases here : call.runtime = number
      · subst here
        have found := Service.find_eq_some.mpr ⟨isCall, isLive⟩
        have foundAlone := alone_find isCall isLive
        simp only [Option.any_some, ApiCall.isOn, decide_true, if_true, List.foldl_cons,
          List.foldl_nil, Service.step, Service.advance, found, foundAlone]
        exact (settle_alone isCall bound _ _ _).symm
      · have notOn : call.isOn number = false := by simp [ApiCall.isOn, here]
        simp only [Option.any_some, notOn, Bool.false_eq_true, if_false, List.foldl_nil,
          Service.step, Service.advance]
        cases found : service.find index with
        | none => rfl
        | some entry =>
            obtain ⟨same, other⟩ := entry
            obtain ⟨isSame, _⟩ := Service.find_eq_some.mp found
            rw [isCall] at isSame
            cases isSame
            exact (settle_alone_of_ne isCall here _ _ _).symm

/-- So is a client that goes away. -/
theorem disconnect_alone (isLive : service.runtimes[number]? = some live) (index : Nat) :
    (service.ownMoves number (.disconnect index)).foldl
        (Service.step crates environment order hashKey errors) (service.alone number) =
      (service.step crates environment order hashKey errors (.disconnect index)).alone number := by
  have bound := (List.getElem?_eq_some_iff.mp isLive).1
  simp only [Service.ownMoves]
  cases isCall : service.calls[index]? with
  | none =>
      have absent : service.find index = none := by simp [Service.find, isCall]
      simp [Service.step, absent]
  | some call =>
      by_cases here : call.runtime = number
      · subst here
        have found := Service.find_eq_some.mpr ⟨isCall, isLive⟩
        have foundAlone := alone_find isCall isLive
        simp only [Option.any_some, ApiCall.isOn, decide_true, if_true, List.foldl_cons,
          List.foldl_nil, Service.step, found, foundAlone]
        exact (left_alone isCall bound _).symm
      · have notOn : call.isOn number = false := by simp [ApiCall.isOn, here]
        simp only [Option.any_some, notOn, Bool.false_eq_true, if_false, List.foldl_nil,
          Service.step]
        cases found : service.find index with
        | none => rfl
        | some entry =>
            obtain ⟨same, other⟩ := entry
            obtain ⟨isSame, _⟩ := Service.find_eq_some.mp found
            rw [isCall] at isSame
            cases isSame
            exact (left_alone_of_ne isCall here _).symm

/-- Each move is one of the part of a runtime, or none. -/
theorem step_alone (isLive : service.runtimes[number]? = some live) (move : ServiceMove) :
    (service.ownMoves number move).foldl (Service.step crates environment order hashKey errors)
        (service.alone number) =
      (service.step crates environment order hashKey errors move).alone number := by
  cases move with
  | tick elapsed => rfl
  | arrive request => exact arrive_alone isLive request
  | advance index around => exact advance_alone isLive index around
  | disconnect index => exact disconnect_alone isLive index
  | hangup loaded => exact (hangup_alone isLive loaded).symm

/-! ### Runs -/

/-- Nothing belongs to a runtime that is yet to come. -/
structure Service.Placed (service : Service) : Prop where
  present : service.runtimes ≠ []
  calls : ∀ call ∈ service.calls, call.runtime < service.runtimes.length
  contacts : ∀ contact ∈ service.contacts, contact.runtime < service.runtimes.length
  answers : ∀ answer ∈ service.answers, answer.runtime < service.runtimes.length
  dropped : ∀ call ∈ service.dropped, call.runtime < service.runtimes.length

/-- No move takes the runtime of a request away. -/
theorem Service.Placed.change {after : Service} (placed : service.Placed)
    (change : service.Change crates environment order hashKey errors after) : after.Placed := by
  obtain ⟨present, calls, contacts, answers, dropped⟩ := placed
  cases change with
  | idle clock heedsHangup => exact ⟨present, calls, contacts, answers, dropped⟩
  | arrived request =>
      exact ⟨present, forall_snoc calls (Nat.sub_lt (List.length_pos_iff.mpr present) Nat.one_pos),
        contacts, answers, dropped⟩
  | @settled index call live stepped around result found isStep =>
      obtain ⟨isCall, _⟩ := Service.find_eq_some.mp found
      have bound := calls call (List.mem_of_getElem? isCall)
      have isAfter := service.settle_runtimes environment index call around.upstream result stepped
      have sameLength := congrArg List.length isAfter
      rw [List.length_set] at sameLength
      have made : ∀ contact ∈ service.contacts ++ (call.contact around.upstream).toList,
          contact.runtime < service.runtimes.length := by
        refine List.forall_mem_append.mpr ⟨contacts, fun contact member => ?_⟩
        rw [contact_runtime (Option.mem_toList.mp member)]
        exact bound
      have rest : ∀ other ∈ service.calls.eraseIdx index, other.runtime < service.runtimes.length :=
        fun other member => calls other (List.mem_of_mem_eraseIdx member)
      constructor
      · rw [isAfter]
        simpa using present
      · rw [sameLength]
        cases result with
        | goesOn next =>
            intro other member
            rcases List.mem_or_eq_of_mem_set member with old | rfl
            · exact calls other old
            · exact bound
        | ends outcome => exact rest
      · rw [sameLength]
        cases result <;> exact made
      · rw [sameLength]
        cases result with
        | goesOn next => exact answers
        | ends outcome => exact forall_snoc answers bound
      · rw [sameLength]
        cases result with
        | goesOn next => exact dropped
        | ends outcome => exact dropped
  | @left index call live found =>
      obtain ⟨isCall, _⟩ := Service.find_eq_some.mp found
      have bound := calls call (List.mem_of_getElem? isCall)
      have sameLength : ∀ later, (service.runtimes.set call.runtime later).length =
          service.runtimes.length := fun later => List.length_set
      constructor
      · simpa [Service.leave, Service.setRuntime] using present
      · intro other member
        simp only [Service.leave, Service.setRuntime, sameLength]
        exact calls other (List.mem_of_mem_eraseIdx member)
      · simp only [Service.leave, Service.setRuntime, sameLength]
        exact contacts
      · simp only [Service.leave, Service.setRuntime, sameLength]
        exact answers
      · simp only [Service.leave, Service.setRuntime, sameLength]
        exact forall_snoc dropped bound
  | @swapped config runtime current built isCurrent sameServer =>
      have longer : ∀ number, number < service.runtimes.length →
          number < (service.runtimes ++ [runtime.live]).length := by
        intro number bound
        rw [List.length_append]
        exact Nat.lt_add_right _ bound
      exact ⟨List.append_ne_nil_of_left_ne_nil present _,
        fun call member => longer _ (calls call member),
        fun contact member => longer _ (contacts contact member),
        fun answer member => longer _ (answers answer member),
        fun call member => longer _ (dropped call member)⟩

/-- So it is there in every run. -/
theorem placed_run (runtime : Runtime) (moves : List ServiceMove) :
    (Service.run crates environment order hashKey errors runtime moves).Placed := by
  apply foldl_invariant Service.Placed
  · intro service move placed
    exact placed.change (service.step_cases move)
  · exact ⟨List.cons_ne_nil _ _, fun _ => List.not_mem_nil.elim, fun _ => List.not_mem_nil.elim,
      fun _ => List.not_mem_nil.elim, fun _ => List.not_mem_nil.elim⟩

/-- A runtime that has just been put in place, alone. -/
theorem swapped_alone (placed : service.Placed) (runtime : Runtime) :
    Service.alone service.runtimes.length
        { service with runtimes := service.runtimes ++ [runtime.live] } =
      (Service.initial runtime).step crates environment order hashKey errors
        (.tick service.clock) := by
  have calls : part (ApiCall.isOn service.runtimes.length) ApiCall.onOwn service.calls = [] :=
    part_nil_of_not _ _ fun call member => by
      simp [ApiCall.isOn, Nat.ne_of_lt (placed.calls call member)]
  have contacts : part (Contact.isOn service.runtimes.length) Contact.onOwn service.contacts = [] :=
    part_nil_of_not _ _ fun contact member => by
      simp [Contact.isOn, Nat.ne_of_lt (placed.contacts contact member)]
  have answers : part (ApiAnswer.isOn service.runtimes.length) ApiAnswer.onOwn service.answers = [] :=
    part_nil_of_not _ _ fun answer member => by
      simp [ApiAnswer.isOn, Nat.ne_of_lt (placed.answers answer member)]
  have dropped : part (ApiCall.isOn service.runtimes.length) ApiCall.onOwn service.dropped = [] :=
    part_nil_of_not _ _ fun call member => by
      simp [ApiCall.isOn, Nat.ne_of_lt (placed.dropped call member)]
  simp [Service.alone, calls, contacts, answers, dropped, Service.step, Service.initial]

/-- A move is at most one move of a part, and never a reload of it. -/
theorem ownMoves_cases (service : Service) (number : Nat) (move : ServiceMove) :
    service.ownMoves number move = [] ∨
      ∃ own, (∀ loaded, own ≠ .hangup loaded) ∧ service.ownMoves number move = [own] := by
  cases move with
  | tick elapsed => exact .inr ⟨_, by simp, rfl⟩
  | arrive request =>
      simp only [Service.ownMoves]
      split
      · exact .inr ⟨_, by simp, rfl⟩
      · exact .inl rfl
  | advance index around =>
      simp only [Service.ownMoves]
      split
      · exact .inr ⟨_, by simp, rfl⟩
      · exact .inl rfl
  | disconnect index =>
      simp only [Service.ownMoves]
      split
      · exact .inr ⟨_, by simp, rfl⟩
      · exact .inl rfl
  | hangup loaded => exact .inl rfl

/-- A runtime is new only if a reload has just put it in place. -/
theorem Service.Change.new_runtime {after : Service}
    (change : service.Change crates environment order hashKey errors after)
    (absent : service.runtimes[number]? = none) (isLive : after.runtimes[number]? = some live) :
    ∃ runtime : Runtime, number = service.runtimes.length ∧ live = runtime.live ∧
      after = { service with runtimes := service.runtimes ++ [runtime.live] } := by
  have beyond := List.getElem?_eq_none_iff.mp absent
  have bound := (List.getElem?_eq_some_iff.mp isLive).1
  cases change with
  | idle clock heedsHangup => exact absurd bound (Nat.not_lt_of_le beyond)
  | arrived request => exact absurd bound (Nat.not_lt_of_le beyond)
  | @settled index call found stepped around result isFound isStep =>
      rw [Service.settle_runtimes, List.length_set] at bound
      exact absurd bound (Nat.not_lt_of_le beyond)
  | left found =>
      simp only [Service.leave, Service.setRuntime, List.length_set] at bound
      exact absurd bound (Nat.not_lt_of_le beyond)
  | @swapped config runtime current built isCurrent sameServer =>
      rw [List.length_append, List.length_singleton] at bound
      have isLast : number = service.runtimes.length := by omega
      subst isLast
      refine ⟨runtime, rfl, ?_, rfl⟩
      simpa using isLive.symm

/-- What holds of a service from its start on, as long as it is not reloaded, holds of the part of each
runtime of any service. -/
theorem alone_invariant {holds : Service → Prop} (starts : ∀ runtime, holds (.initial runtime))
    (steps : ∀ (service : Service) (live : LiveRuntime) (move : ServiceMove),
      service.runtimes = [live] → (∀ loaded, move ≠ .hangup loaded) → holds service →
        holds (service.step crates environment order hashKey errors move))
    (runtime : Runtime) (moves : List ServiceMove) {number : Nat} {live : LiveRuntime}
    (isLive : (Service.run crates environment order hashKey errors runtime moves).runtimes[number]? =
      some live) :
    holds ((Service.run crates environment order hashKey errors runtime moves).alone number) := by
  induction moves using List.reverseRecOn generalizing live with
  | nil =>
      have first : number = 0 := Nat.lt_one_iff.mp (List.getElem?_eq_some_iff.mp isLive).1
      subst first
      exact starts runtime
  | append_singleton moves move inductionHypothesis =>
      have isRun : Service.run crates environment order hashKey errors runtime (moves ++ [move]) =
          (Service.run crates environment order hashKey errors runtime moves).step crates environment
            order hashKey errors move := List.foldl_append
      rw [isRun] at isLive ⊢
      have placed := @placed_run crates environment order hashKey errors runtime moves
      generalize Service.run crates environment order hashKey errors runtime moves = service at *
      cases present : service.runtimes[number]? with
      | some before =>
          have held := inductionHypothesis present
          rw [← step_alone present]
          rcases ownMoves_cases service number move with isNil | ⟨own, noHangup, isOwn⟩
          · rw [isNil]
            exact held
          · rw [isOwn]
            exact steps _ before own (alone_runtimes present) noHangup held
      | none =>
          have change := @Service.step_cases crates environment order hashKey errors service move
          obtain ⟨new, rfl, rfl, isAfter⟩ := change.new_runtime present isLive
          rw [isAfter, @swapped_alone crates environment order hashKey errors service placed new]
          exact steps _ new.live _ rfl (by simp) (starts new)

variable (crates environment order hashKey errors) in
/-- What relates a runtime to the requests on it, at every time, if only they can change it. -/
structure RuntimeRules (related : Instant → LiveRuntime → List ApiCall → Prop) : Prop where
  starts : ∀ runtime : Runtime, related 0 runtime.live []
  ticks : ∀ {clock live calls} (elapsed : Nat), related clock live calls →
    related (clock + elapsed) live calls
  arrives : ∀ {clock live calls} (request : ApiRequest), related clock live calls →
    related clock live (calls ++ [{ request := request, runtime := 0, phase := .arrived }])
  steps : ∀ {clock live calls index} {call : ApiCall} (around : Surroundings),
    related clock live calls → calls[index]? = some call →
      let step := call.phase.advance crates environment order hashKey errors call.request clock around
        live
      related clock (step.1.liveAfter call step.2) (step.1.callsAfter index call calls)
  leaves : ∀ {clock live calls index} {call : ApiCall}, related clock live calls →
    calls[index]? = some call →
      related clock { live with limits := call.phase.release live.limits } (calls.eraseIdx index)

/-- What the moves of a runtime alone keep holds of it in every run of the service. -/
theorem RuntimeRules.run {related : Instant → LiveRuntime → List ApiCall → Prop}
    (rules : RuntimeRules crates environment order hashKey errors related) (runtime : Runtime)
    (moves : List ServiceMove) {number : Nat} {live : LiveRuntime}
    (isLive : (Service.run crates environment order hashKey errors runtime moves).runtimes[number]? =
      some live) :
    related (Service.run crates environment order hashKey errors runtime moves).clock live
      ((Service.run crates environment order hashKey errors runtime moves).alone number).calls := by
  have held := @alone_invariant crates environment order hashKey errors
    (fun service => ∃ live, service.runtimes = [live] ∧ related service.clock live service.calls)
    (fun runtime => ⟨runtime.live, rfl, rules.starts runtime⟩) ?_ runtime moves number live isLive
  · obtain ⟨own, isOwn, holds⟩ := held
    rw [alone_runtimes isLive] at isOwn
    cases isOwn
    exact holds
  · intro service live move isAlone noHangup ⟨own, isOwn, holds⟩
    rw [isAlone] at isOwn
    cases isOwn
    have found : ∀ {index call other}, service.find index = some (call, other) →
        service.calls[index]? = some call ∧ other = live ∧ call.runtime = 0 := by
      intro index call other isFound
      obtain ⟨isCall, isOther⟩ := Service.find_eq_some.mp isFound
      rw [isAlone] at isOther
      obtain ⟨bound, same⟩ := List.getElem?_eq_some_iff.mp isOther
      have first : call.runtime = 0 := Nat.lt_one_iff.mp bound
      simp only [first, List.getElem_cons_zero] at same
      exact ⟨isCall, same.symm, first⟩
    cases move with
    | tick elapsed => exact ⟨live, isAlone, rules.ticks elapsed holds⟩
    | arrive request =>
        refine ⟨live, isAlone, ?_⟩
        have last : service.runtimes.length - 1 = 0 := by rw [isAlone]; rfl
        simp only [Service.step, last]
        exact rules.arrives request holds
    | advance index around =>
        simp only [Service.step, Service.advance]
        cases isFound : service.find index with
        | none => exact ⟨live, isAlone, holds⟩
        | some entry =>
            obtain ⟨call, other⟩ := entry
            obtain ⟨isCall, rfl, first⟩ := found isFound
            have turned := rules.steps around holds isCall
            dsimp only
            revert turned
            rcases call.phase.advance crates environment order hashKey errors call.request
              service.clock around other with ⟨result, after⟩
            intro turned
            refine ⟨result.liveAfter call after, ?_, ?_⟩
            · rw [Service.settle_runtimes, isAlone, first]
              rfl
            · cases result <;> exact turned
    | disconnect index =>
        simp only [Service.step]
        cases isFound : service.find index with
        | none => exact ⟨live, isAlone, holds⟩
        | some entry =>
            obtain ⟨call, other⟩ := entry
            obtain ⟨isCall, rfl, first⟩ := found isFound
            refine ⟨_, ?_, rules.leaves holds isCall⟩
            simp only [Service.leave, Service.setRuntime, isAlone, first]
            rfl
    | hangup loaded => exact absurd rfl (noHangup loaded)

/-- The first runtime is the one of the start. -/
theorem run_first (runtime : Runtime) (moves : List ServiceMove) {live : LiveRuntime}
    (isLive : (Service.run crates environment order hashKey errors runtime moves).runtimes[0]? =
      some live) : live.runtime = runtime := by
  have keeps : (Service.initial runtime).KeepsRuntimes
      (Service.run crates environment order hashKey errors runtime moves) := by
    apply foldl_invariant (Service.KeepsRuntimes (.initial runtime))
    · intro service move keeps number live isLive
      obtain ⟨later, isLater, same⟩ := keeps number live isLive
      obtain ⟨last, isLast, sameLast⟩ :=
        (@Service.step_cases crates environment order hashKey errors service move).keepsRuntimes
          number later isLater
      exact ⟨last, isLast, sameLast.trans same⟩
    · exact .same rfl
  obtain ⟨later, isLater, same⟩ := keeps 0 runtime.live rfl
  rw [isLive] at isLater
  cases isLater
  exact same

/-- The part of each runtime is the whole of a service that is started with it and never reloaded. -/
theorem runtimes_isolated (runtime : Runtime) (moves : List ServiceMove) {number : Nat}
    {live : LiveRuntime}
    (isLive : (Service.run crates environment order hashKey errors runtime moves).runtimes[number]? =
      some live) :
    ∃ own, (∀ move ∈ own, ∀ loaded, move ≠ .hangup loaded) ∧
      Service.run crates environment order hashKey errors live.runtime own =
        (Service.run crates environment order hashKey errors runtime moves).alone number := by
  have held := @alone_invariant crates environment order hashKey errors
    (fun service => ∃ first own, (∀ move ∈ own, ∀ loaded, move ≠ ServiceMove.hangup loaded) ∧
      Service.run crates environment order hashKey errors first own = service)
    (fun first => ⟨first, [], fun _ => List.not_mem_nil.elim, rfl⟩) ?_ runtime moves number live
    isLive
  · obtain ⟨first, own, noHangup, isAlone⟩ := held
    have same : live.runtime = first := by
      apply @run_first crates environment order hashKey errors first own live
      rw [isAlone, alone_runtimes isLive]
      rfl
    exact ⟨own, noHangup, same ▸ isAlone⟩
  · intro service alone move _ notHangup ⟨first, own, noHangup, isRun⟩
    refine ⟨first, own ++ [move], forall_snoc noHangup notHangup, ?_⟩
    rw [← isRun]
    exact List.foldl_append

end Isolation

/-- The sample goes on: another request comes, to the runtime that has been put in place meanwhile. -/
def mixedMoves : List ServiceMove := officeMoves ++ [.arrive officeRequest, .advance 1 officeAround]

/-- The first runtime, whose request is still in progress after its first attempt, is one by itself. -/
theorem runtimes_isolated_office :
    ((officeService mixedMoves).calls.map (·.runtime) = [0, 1] ∧
      (officeService mixedMoves).contacts.length = 1) ∧
    ∃ own, (∀ move ∈ own, ∀ loaded, move ≠ .hangup loaded) ∧
      officeService own = (officeService mixedMoves).alone 0 := by
  have present : 0 < (officeService mixedMoves).runtimes.length := by decide +kernel
  have isLive := List.getElem?_eq_getElem present
  have isolated := @runtimes_isolated officeCrates officeEnvironment officeOrder (fun _ => [])
    officeErrors officeRuntime mixedMoves 0 _ isLive
  rw [run_first officeRuntime mixedMoves isLive] at isolated
  exact ⟨⟨by decide +kernel, by decide +kernel⟩, isolated⟩

end ClaudeProxy
