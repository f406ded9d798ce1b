/-
Module: ClaudeProxy.Provider.Circuit
Layer: Model
Purpose: The circuit of a provider (`available`, `record_success` and `record_failure` in
  `src/provider.rs`): after a number of failures in a row it opens for a while. It is kept under a lock,
  and a panic under the lock leaves the lock poisoned.
Trusted boundary: human-reviewed model. Arithmetic on `u32` wraps around, as in a release build.
Main exports: clockMax, addDuration, CircuitState, CircuitState.available, countsAsFailure,
  availableSection, successSection, failureSection, Circuits
-/
import ClaudeProxy.Error
import ClaudeProxy.Library.Mutex
import Mathlib.Algebra.Group.Nat.Defs

namespace ClaudeProxy

open Library

/-! ### The clock -/

/-- `std::time::Instant`. -/
abbrev Instant := Nat

def nanosecondsPerSecond : Nat := 1000000000

/-- The last instant of a 64-bit target: its seconds are an `i64`. -/
def clockMax : Instant := 2 ^ 63 * nanosecondsPerSecond - 1

/-- `Instant + Duration`; `none` if it panics. -/
def addDuration (now : Instant) (duration : Nat) : Option Instant :=
  if now + duration ≤ clockMax then some (now + duration) else none

/-! ### Under the lock -/

structure CircuitState where
  failures : Nat := 0
  openUntil : Option Instant := none
deriving DecidableEq, Repr, Inhabited

/-- Whether the circuit is closed at a time. An opening that is over is forgotten. -/
def CircuitState.available (state : CircuitState) (now : Instant) : Bool × CircuitState :=
  match state.openUntil with
  | none => (true, state)
  | some limit => if now < limit then (false, state) else (true, { state with openUntil := none })

/-- The locked part of `available`. -/
def availableSection (now : Instant) (state : CircuitState) : Option Bool × CircuitState :=
  let (available, state) := state.available now
  (some available, state)

/-- The locked part of `record_success`. -/
def successSection (_ : CircuitState) : Option Unit × CircuitState :=
  (some (), { failures := 0, openUntil := none })

/-- The errors that count against a provider. -/
def countsAsFailure (error : ProxyError) : Bool :=
  error.kind = .upstream ∨ error.kind = .timeout ∨ error.kind = .overloaded

/-- The locked part of `record_failure`. -/
def failureSection (threshold cooldown : Nat) (now : Instant) (state : CircuitState) :
    Option Unit × CircuitState :=
  let state := { state with failures := (state.failures + 1) % 2 ^ 32 }
  if threshold ≤ state.failures then
    match addDuration now cooldown with
    | none => (none, state)
    | some limit => (some (), { state with openUntil := some limit })
  else (some (), state)

/-! ### The circuits -/

/-- The circuits of all providers, by the provider's id. -/
abbrev Circuits := Locks String CircuitState

end ClaudeProxy
