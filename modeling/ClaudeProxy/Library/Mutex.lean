/-
Module: ClaudeProxy.Library.Mutex
Layer: Library
Purpose: Locks that remember a panic, and counting semaphores. A critical section that panics leaves
  its value as it was at that moment and the lock poisoned, and whoever insists on a poisoned lock
  panics too. So all locks of a table stay usable exactly as long as no section panics. A semaphore
  has an upper bound on its permits, and panics when it is made or filled beyond it.
Trusted boundary: none
Main exports: Mutex, Mutex.withLock, Locks, Locks.withLock, Locks.Healthy, Locks.healthy_withLock,
  Semaphore, Semaphore.new, Semaphore.tryAcquire, Semaphore.release, Semaphore.Sound
-/
import Mathlib.Logic.Function.Basic

namespace ClaudeProxy.Library

/-! ### One lock -/

structure Mutex (α : Type) where
  value : α
  poisoned : Bool := false
deriving DecidableEq, Repr, Inhabited

section Mutex

variable {α β : Type}

/-- Lock, insist that the lock is not poisoned, run a critical section, unlock. The section gives its
result, `none` if it panics, and the value that it leaves behind. -/
def Mutex.withLock (mutex : Mutex α) (critical : α → Option β × α) : Option β × Mutex α :=
  if mutex.poisoned = true then (none, mutex)
  else
    let (result, value) := critical mutex.value
    (result, { value := value, poisoned := result.isNone })

theorem Mutex.withLock_healthy {mutex : Mutex α} (healthy : mutex.poisoned = false)
    (critical : α → Option β × α) :
    mutex.withLock critical =
      ((critical mutex.value).1,
        { value := (critical mutex.value).2, poisoned := (critical mutex.value).1.isNone }) := by
  unfold Mutex.withLock
  rw [if_neg (by simp [healthy])]

theorem Mutex.withLock_poisoned {mutex : Mutex α} (poisoned : mutex.poisoned = true)
    (critical : α → Option β × α) : mutex.withLock critical = (none, mutex) := if_pos poisoned

end Mutex

/-! ### A table of locks -/

abbrev Locks (κ α : Type) := κ → Mutex α

namespace Locks

variable {κ α β : Type}

/-- No lock of the table is poisoned. -/
def Healthy (locks : Locks κ α) : Prop := ∀ key, (locks key).poisoned = false

/-- All locks, each around the same value. -/
def fresh (value : α) : Locks κ α := fun _ => { value := value }

theorem healthy_fresh (value : α) : (fresh value : Locks κ α).Healthy := fun _ => rfl

variable [DecidableEq κ]

/-- A critical section under one of the locks. -/
def withLock (locks : Locks κ α) (key : κ) (critical : α → Option β × α) :
    Option β × Locks κ α :=
  let (result, mutex) := (locks key).withLock critical
  (result, Function.update locks key mutex)

theorem withLock_fst (locks : Locks κ α) (key : κ) (critical : α → Option β × α) :
    (locks.withLock key critical).1 = ((locks key).withLock critical).1 := rfl

theorem withLock_self (locks : Locks κ α) (key : κ) (critical : α → Option β × α) :
    (locks.withLock key critical).2 key = ((locks key).withLock critical).2 :=
  Function.update_self ..

theorem withLock_of_ne {key other : κ} (different : other ≠ key) (locks : Locks κ α)
    (critical : α → Option β × α) : (locks.withLock key critical).2 other = locks other :=
  Function.update_of_ne different ..

theorem withLock_healthy {locks : Locks κ α} {key : κ} (healthy : (locks key).poisoned = false)
    (critical : α → Option β × α) :
    locks.withLock key critical =
      ((critical (locks key).value).1,
        Function.update locks key
          { value := (critical (locks key).value).2
            poisoned := (critical (locks key).value).1.isNone }) := by
  unfold withLock
  rw [Mutex.withLock_healthy healthy]

/-- A section that panics leaves a poisoned lock, and only such a section does. -/
theorem healthy_withLock {locks : Locks κ α} (healthy : locks.Healthy) (key : κ)
    (critical : α → Option β × α) :
    (locks.withLock key critical).2.Healthy ↔ (locks.withLock key critical).1.isSome = true := by
  rw [withLock_healthy (healthy key)]
  dsimp only
  constructor
  · intro after
    have here := after key
    rw [Function.update_self] at here
    simpa using here
  · intro returned other
    by_cases same : other = key
    · subst same
      rw [Function.update_self]
      simpa using returned
    · rw [Function.update_of_ne same]
      exact healthy other

/-- A section that never panics returns, and leaves all locks as they have to be. -/
theorem Healthy.withLock {locks : Locks κ α} (healthy : locks.Healthy) (key : κ)
    {critical : α → Option β × α} (returns : ∀ value, (critical value).1.isSome = true) :
    (locks.withLock key critical).1.isSome = true ∧ (locks.withLock key critical).2.Healthy := by
  have returned : (locks.withLock key critical).1.isSome = true := by
    rw [withLock_healthy (healthy key)]
    exact returns _
  exact ⟨returned, (healthy_withLock healthy key critical).mpr returned⟩

end Locks

/-! ### Semaphores -/

/-- The permits that are left, and those that have been handed out. -/
structure Semaphore where
  permits : Nat
  taken : Nat := 0
deriving DecidableEq, Repr, Inhabited

namespace Semaphore

variable {most : Nat}

/-- A new semaphore; `none` if it panics. -/
def new (most permits : Nat) : Option Semaphore :=
  if permits ≤ most then some { permits := permits } else none

/-- Whether a permit was left, and the semaphore without it. -/
def tryAcquire (semaphore : Semaphore) : Bool × Semaphore :=
  if semaphore.permits = 0 then (false, semaphore)
  else (true, { permits := semaphore.permits - 1, taken := semaphore.taken + 1 })

/-- A permit comes back; `none` if the semaphore panics because it is full. -/
def release (most : Nat) (semaphore : Semaphore) : Option Semaphore :=
  if semaphore.permits < most then
    some { permits := semaphore.permits + 1, taken := semaphore.taken - 1 }
  else none

/-- There never were more permits than there may be. -/
def Sound (most : Nat) (semaphore : Semaphore) : Prop := semaphore.permits + semaphore.taken ≤ most

theorem new_eq_some {permits : Nat} {semaphore : Semaphore} :
    new most permits = some semaphore ↔ permits ≤ most ∧ semaphore = { permits := permits } := by
  unfold new
  split
  · next fits => simp [fits, eq_comm]
  · next tooMany => simp [tooMany]

theorem Sound.tryAcquire {semaphore : Semaphore} (sound : semaphore.Sound most) :
    semaphore.tryAcquire.2.Sound most := by
  unfold Sound Semaphore.tryAcquire at *
  split
  · exact sound
  · dsimp only
    omega

/-- A permit that was handed out finds room when it comes back. -/
theorem Sound.release {semaphore : Semaphore} (sound : semaphore.Sound most)
    (out : 0 < semaphore.taken) :
    ∃ filled, semaphore.release most = some filled ∧ filled.Sound most := by
  unfold Sound at sound
  unfold Semaphore.release
  rw [if_pos (by omega)]
  refine ⟨_, rfl, ?_⟩
  unfold Sound
  dsimp only
  omega

end Semaphore

end ClaudeProxy.Library
