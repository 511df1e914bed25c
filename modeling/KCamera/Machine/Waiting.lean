import KCamera.Machine.Discipline
import Mathlib.Data.Set.Basic

/-!
# Threads that wait for each other

Threads are entangled when each of them waits for one of them. That cannot be
when whoever is waited for waits higher up, in an order that has a top.
-/

namespace KCamera.Machine

variable {World Stage Tid Choice Op : Type} {Resp : Op → Type} {Mutex Label : Type}

/-- Each of the threads waits for one of them. -/
structure Entangled (waits : Tid → Tid → Prop) (threads : Set Tid) : Prop where
  nonempty : threads.Nonempty
  waiting : ∀ thread ∈ threads, ∃ other ∈ threads, waits thread other

/-- No threads are entangled when heights rise from a thread to the one it waits
for. -/
theorem not_entangled {waits : Tid → Tid → Prop} (height : Tid → Nat) {top : Nat}
    (bounded : ∀ thread, height thread ≤ top)
    (rises : ∀ thread other last, waits thread other → waits other last →
      height thread < height other) (threads : Set Tid) : ¬Entangled waits threads := by
  rintro ⟨⟨first, member⟩, waiting⟩
  -- From each of the threads a walk of any length climbs.
  have climbs : ∀ steps, ∃ thread ∈ threads, steps ≤ height thread := by
    intro steps
    induction steps with
    | zero => exact ⟨first, member, Nat.zero_le _⟩
    | succ steps ih =>
        obtain ⟨thread, inside, high⟩ := ih
        obtain ⟨other, inside', waits⟩ := waiting thread inside
        obtain ⟨last, -, waits'⟩ := waiting other inside'
        have rise := rises thread other last waits waits'
        exact ⟨other, inside', by omega⟩
  obtain ⟨thread, -, high⟩ := climbs (top + 1)
  have low := bounded thread
  omega

/-- The mutex that a thread cannot go on without: it locks it, or it was woken
from a wait that gave it back. -/
inductive Wants (state : State World Stage Tid Op Resp Mutex Label) (thread : Tid)
    (mutex : Mutex) : Prop where
  | lock {rest : Prog Op Resp Mutex Label Unit} (code : state.code thread = .lock mutex rest)
  | wake {test : Op} {again : Resp test → Bool} {rest : Prog Op Resp Mutex Label Unit}
      (code : state.code thread = .asleep test again mutex rest)
      (woken : thread ∉ state.sleeping)

/-- A disciplined thread wants only what it may lock. -/
theorem Disciplined.mayLock [DecidableEq Tid] [DecidableEq Mutex]
    {semantics : Semantics World Stage Tid Choice Op Resp Mutex Label}
    {discipline : Discipline Stage Tid Op Mutex Label}
    {state : State World Stage Tid Op Resp Mutex Label} {thread : Tid} {mutex : Mutex}
    (disciplined : Disciplined semantics discipline state) (wants : Wants state thread mutex) :
    discipline.mayLock thread (state.stage thread) (state.held thread) mutex := by
  have follows := disciplined.follows thread
  cases wants with
  | lock code =>
      rw [code] at follows
      exact follows.1
  | wake code woken =>
      rw [code] at follows
      exact follows.2.2.1.2

end KCamera.Machine
