/-
Module: ClaudeProxy.Library.SlidingWindow
Layer: Library
Purpose: A limiter that lets a bounded number of entries pass in any window of time. It keeps the times
  of the entries that passed in a queue and forgets those at the front that are as old as the window
  is wide. The limit holds in every window as long as nothing was forgotten that is still in the
  window of a later entry; so it holds when the times of the entries never run backwards, and then an
  entry passes exactly if its own window has room.
Trusted boundary: none
Main exports: SlidingWindow.evict, SlidingWindow.countWithin, SlidingWindow.History,
  History.enter, History.Bounded, History.Bounded.enter, History.Exact, History.run,
  History.run_exact
-/
import Mathlib.Data.List.Basic
import Mathlib.Data.List.Induction
import Mathlib.Data.List.TakeWhile

namespace ClaudeProxy.Library.SlidingWindow

/-- The front of the queue, up to the first entry that is younger than the window is wide. -/
def expired (width now : Nat) (queue : List Nat) : List Nat :=
  queue.takeWhile fun entry => entry + width ≤ now

/-- The queue without that front. -/
def evict (width now : Nat) (queue : List Nat) : List Nat :=
  queue.dropWhile fun entry => entry + width ≤ now

theorem expired_append_evict (width now : Nat) (queue : List Nat) :
    expired width now queue ++ evict width now queue = queue :=
  List.takeWhile_append_dropWhile

theorem expired_old {width now entry : Nat} {queue : List Nat}
    (member : entry ∈ expired width now queue) : entry + width ≤ now := by
  simpa using List.mem_takeWhile_imp member

/-- How many of the times lie in the window that ends with `last` and is open at its start. -/
def countWithin (width last : Nat) (times : List Nat) : Nat :=
  times.countP fun time => time ≤ last ∧ last < time + width

theorem countWithin_append (width last : Nat) (first second : List Nat) :
    countWithin width last (first ++ second) =
      countWithin width last first + countWithin width last second :=
  List.countP_append

theorem countWithin_perm {width last : Nat} {first second : List Nat} (same : first.Perm second) :
    countWithin width last first = countWithin width last second :=
  same.countP_eq _

theorem countWithin_le_length (width last : Nat) (times : List Nat) :
    countWithin width last times ≤ times.length :=
  List.countP_le_length

theorem countWithin_eq_zero {width last : Nat} {times : List Nat}
    (old : ∀ time ∈ times, time + width ≤ last) : countWithin width last times = 0 := by
  unfold countWithin
  rw [List.countP_eq_zero]
  intro time member inside
  have isOld := old time member
  simp only [decide_eq_true_eq] at inside
  omega

theorem countWithin_singleton_of_outside {width last time : Nat}
    (outside : ¬ (time ≤ last ∧ last < time + width)) : countWithin width last [time] = 0 := by
  simp [countWithin, outside]

/-! ### A limiter and its history -/

/-- The queue, everything forgotten so far and everything that passed. -/
structure History where
  queue : List Nat := []
  evicted : List Nat := []
  passed : List Nat := []
deriving DecidableEq, Repr, Inhabited

/-- An entry comes to the limiter with a time. -/
def History.enter (width limit now : Nat) (history : History) : History :=
  let rest := evict width now history.queue
  let evicted := history.evicted ++ expired width now history.queue
  if rest.length < limit then
    { queue := rest ++ [now], evicted := evicted, passed := history.passed ++ [now] }
  else { queue := rest, evicted := evicted, passed := history.passed }

/-- Nothing is lost track of, the queue has no more entries than the limit, and neither has any
window. -/
structure History.Bounded (width limit : Nat) (history : History) : Prop where
  kept : history.passed.Perm (history.evicted ++ history.queue)
  room : history.queue.length ≤ limit
  bound : ∀ last, countWithin width last history.passed ≤ limit

namespace History.Bounded

variable {width limit now : Nat} {history : History}

theorem empty : ({} : History).Bounded width limit := by
  constructor
  · exact .refl _
  · exact Nat.zero_le _
  · intro last
    exact Nat.zero_le _

/-- An entry keeps the limit in every window, unless it passes with a time in whose window something
has been forgotten. -/
theorem enter (bounded : history.Bounded width limit)
    (outside : (evict width now history.queue).length < limit →
      ∀ entry ∈ history.evicted, entry + width ≤ now) :
    (history.enter width limit now).Bounded width limit := by
  obtain ⟨kept, room, bound⟩ := bounded
  have split : history.passed.Perm
      ((history.evicted ++ expired width now history.queue) ++
        evict width now history.queue) := by
    rw [List.append_assoc, expired_append_evict]
    exact kept
  unfold History.enter
  dsimp only
  by_cases passes : (evict width now history.queue).length < limit
  · have gone : ∀ entry ∈ history.evicted ++ expired width now history.queue,
        entry + width ≤ now := by
      intro entry member
      rcases List.mem_append.mp member with before | here
      · exact outside passes entry before
      · exact expired_old here
    rw [if_pos passes]
    constructor
    · rw [← List.append_assoc]
      exact split.append_right _
    · rw [List.length_append, List.length_singleton]
      exact passes
    · intro last
      rw [countWithin_append]
      by_cases inside : now ≤ last ∧ last < now + width
      · -- nothing that was forgotten reaches into a window with the new entry
        have forgotten : countWithin width last
            (history.evicted ++ expired width now history.queue) = 0 := by
          apply countWithin_eq_zero
          intro entry member
          exact Nat.le_trans (gone entry member) inside.1
        rw [countWithin_perm split, countWithin_append, forgotten, Nat.zero_add]
        have queued := countWithin_le_length width last (evict width now history.queue)
        have one := countWithin_le_length width last [now]
        rw [List.length_singleton] at one
        omega
      · rw [countWithin_singleton_of_outside inside]
        exact bound last
  · rw [if_neg passes]
    constructor
    · exact split
    · have shorter : (evict width now history.queue).length ≤ history.queue.length :=
        (List.dropWhile_suffix _).length_le
      exact Nat.le_trans shorter room
    · exact bound

end History.Bounded

/-! ### Entries in the order of their times -/

/-- What is old for a wider condition need not be dropped for a narrower one first. -/
theorem dropWhile_dropWhile_of_imp {α : Type} {first second : α → Bool}
    (implied : ∀ item, first item = true → second item = true) (items : List α) :
    (items.dropWhile first).dropWhile second = items.dropWhile second := by
  induction items with
  | nil => rfl
  | cons item rest inductionHypothesis =>
      cases isFirst : first item with
      | true =>
          rw [List.dropWhile_cons_of_pos isFirst, List.dropWhile_cons_of_pos (implied item isFirst)]
          exact inductionHypothesis
      | false => rw [List.dropWhile_cons_of_neg (by simp [isFirst])]

theorem evict_evict {width earlier now : Nat} (notLater : earlier ≤ now) (queue : List Nat) :
    evict width now (evict width earlier queue) = evict width now queue := by
  unfold evict
  apply dropWhile_dropWhile_of_imp
  intro entry old
  rw [decide_eq_true_eq] at old ⊢
  exact Nat.le_trans old notLater

/-- In order, what is old stands at the front. -/
theorem evict_eq_filter {width now : Nat} {times : List Nat} (sorted : times.Pairwise (· ≤ ·)) :
    evict width now times = times.filter fun time => now < time + width := by
  unfold evict
  induction times with
  | nil => rfl
  | cons time rest inductionHypothesis =>
      obtain ⟨first, sortedRest⟩ := List.pairwise_cons.mp sorted
      by_cases old : time + width ≤ now
      · rw [List.dropWhile_cons_of_pos (by simpa using old), inductionHypothesis sortedRest,
          List.filter_cons_of_neg (by simpa using old)]
      · have young : ∀ later ∈ time :: rest, now < later + width := by
          intro later member
          rcases List.mem_cons.mp member with rfl | inRest
          · omega
          · have order := first later inRest
            omega
        rw [List.dropWhile_cons_of_neg (by simpa using old), List.filter_eq_self.mpr]
        intro later member
        exact decide_eq_true (young later member)

theorem length_evict {width now : Nat} {times : List Nat} (sorted : times.Pairwise (· ≤ ·))
    (past : ∀ time ∈ times, time ≤ now) :
    (evict width now times).length = countWithin width now times := by
  rw [evict_eq_filter sorted, ← List.countP_eq_length_filter]
  unfold countWithin
  apply List.countP_congr
  intro time member
  have before := past time member
  simp [before]

/-- The limiter has seen entries in the order of their times, the last of them at `clock`. Its queue
is what has passed in the window that ends there. -/
structure History.Exact (width clock : Nat) (history : History) : Prop where
  sorted : history.passed.Pairwise (· ≤ ·)
  past : ∀ time ∈ history.passed, time ≤ clock
  old : ∀ time ∈ history.evicted, time + width ≤ clock
  queue : history.queue = evict width clock history.passed

namespace History.Exact

variable {width limit clock now : Nat} {history : History}

theorem empty : ({} : History).Exact width clock := by
  constructor
  · exact List.Pairwise.nil
  · simp
  · simp
  · rfl

/-- What the limiter counts for an entry is what has passed in the entry's window. -/
theorem counts (isExact : history.Exact width clock) (later : clock ≤ now) :
    (evict width now history.queue).length = countWithin width now history.passed := by
  rw [isExact.queue, evict_evict later]
  apply length_evict isExact.sorted
  intro time member
  exact Nat.le_trans (isExact.past time member) later

theorem enter (positive : 0 < width) (isExact : history.Exact width clock) (later : clock ≤ now) :
    (history.enter width limit now).Exact width now := by
  obtain ⟨sorted, past, old, queue⟩ := isExact
  have pastNow : ∀ time ∈ history.passed, time ≤ now :=
    fun time member => Nat.le_trans (past time member) later
  have oldNow : ∀ time ∈ history.evicted ++ expired width now history.queue,
      time + width ≤ now := by
    intro time member
    rcases List.mem_append.mp member with before | here
    · exact Nat.le_trans (old time before) later
    · exact expired_old here
  have kept : evict width now history.queue = evict width now history.passed := by
    rw [queue, evict_evict later]
  unfold History.enter
  dsimp only
  by_cases passes : (evict width now history.queue).length < limit
  · rw [if_pos passes]
    have sortedNow : (history.passed ++ [now]).Pairwise (· ≤ ·) := by
      rw [List.pairwise_append]
      refine ⟨sorted, List.pairwise_singleton _ _, ?_⟩
      intro time member last isLast
      rw [List.mem_singleton.mp isLast]
      exact pastNow time member
    constructor
    · exact sortedNow
    · intro time member
      rcases List.mem_append.mp member with before | here
      · exact pastNow time before
      · exact Nat.le_of_eq (List.mem_singleton.mp here)
    · exact oldNow
    · -- the new entry is younger than the window is wide, so it is not evicted itself
      dsimp only
      rw [kept, evict_eq_filter sorted, evict_eq_filter sortedNow, List.filter_append,
        List.filter_cons_of_pos (by simpa using positive), List.filter_nil]
  · rw [if_neg passes]
    constructor
    · exact sorted
    · exact pastNow
    · exact oldNow
    · exact kept

end History.Exact

/-- Entries that come one after the other. -/
def History.run (width limit : Nat) (readings : List Nat) : History :=
  readings.foldl (fun history now => history.enter width limit now) {}

/-- If the times never run backwards, then the limiter is exact and no window has more entries than
the limit. -/
theorem History.run_exact {width limit : Nat} (positive : 0 < width) {readings : List Nat}
    (ordered : readings.Pairwise (· ≤ ·)) :
    (History.run width limit readings).Exact width (readings.getLast?.getD 0) ∧
      (History.run width limit readings).Bounded width limit := by
  induction readings using List.reverseRecOn with
  | nil => exact ⟨.empty, .empty⟩
  | append_singleton before now inductionHypothesis =>
      rw [List.pairwise_append] at ordered
      obtain ⟨orderedBefore, -, notLater⟩ := ordered
      obtain ⟨exactBefore, boundedBefore⟩ := inductionHypothesis orderedBefore
      have later : before.getLast?.getD 0 ≤ now := by
        cases lastEq : before.getLast? with
        | none => exact Nat.zero_le now
        | some last =>
            exact notLater last (List.mem_of_getLast? lastEq) now (List.mem_singleton_self now)
      have entered : History.run width limit (before ++ [now]) =
          (History.run width limit before).enter width limit now := by
        unfold History.run
        rw [List.foldl_append]
        rfl
      rw [entered, List.getLast?_append, List.getLast?_singleton]
      refine ⟨exactBefore.enter positive later, boundedBefore.enter ?_⟩
      intro _ entry member
      exact Nat.le_trans (exactBefore.old entry member) later

end ClaudeProxy.Library.SlidingWindow
