import KCamera.Machine.Program
import KCamera.Machine.Run
import Mathlib.Data.List.Nodup
import Mathlib.Data.Nat.Find

/-!
# Lock disciplines

A discipline says what a thread may do at each stage and which mutexes a stage
promises to hold. `Follows` checks a program against it instruction by
instruction; `Disciplined` is what that guarantees of every state of every run:
mutexes exclude each other and every thread still follows the discipline.
Invariants of runs are then proved operation by operation.
-/

namespace KCamera.Machine

variable {World Stage Tid Choice Op : Type} {Resp : Op → Type} {Mutex Label : Type}

/-- A discipline. `entry` describes the threads that jump to a label. -/
structure Discipline (Stage Tid Op Mutex Label : Type) where
  allowed : Tid → Stage → List Mutex → Op → Prop
  mayLock : Tid → Stage → List Mutex → Mutex → Prop
  holds : Stage → Mutex → Prop
  entry : Tid → Label → Stage → List Mutex → Prop

section Follows

variable [DecidableEq Mutex] (semantics : Semantics World Stage Tid Choice Op Resp Mutex Label)
  (discipline : Discipline Stage Tid Op Mutex Label) (thread : Tid)

/-- `thread`, at `stage` and holding `held`, follows the discipline to the end
of the program. A test that sends it to sleep does not move its stage. -/
def Follows : Stage → List Mutex → Prog Op Resp Mutex Label Unit → Prop
  | _, held, .done _ => held = []
  | stage, held, .op operation rest =>
      discipline.allowed thread stage held operation ∧ ∀ response,
        (∀ mutex, discipline.holds (semantics.after stage operation response) mutex →
          mutex ∈ held) ∧
        Follows (semantics.after stage operation response) held (rest response)
  | stage, held, .lock mutex rest =>
      discipline.mayLock thread stage held mutex ∧ mutex ∉ held ∧
        Follows stage (mutex :: held) rest
  | stage, held, .unlock mutex rest =>
      mutex ∈ held ∧ ¬discipline.holds stage mutex ∧ Follows stage (held.erase mutex) rest
  | stage, held, .signal rest => Follows stage held rest
  | stage, held, .await test again mutex rest =>
      discipline.allowed thread stage held test ∧ ¬discipline.holds stage mutex ∧
        (∃ outer, held = mutex :: outer ∧ mutex ∉ outer ∧
          discipline.mayLock thread stage outer mutex) ∧
        ∀ response, if again response then semantics.after stage test response = stage
          else (∀ mutex, discipline.holds (semantics.after stage test response) mutex →
              mutex ∈ held) ∧
            Follows (semantics.after stage test response) held rest
  | stage, outer, .asleep test again mutex rest =>
      discipline.allowed thread stage (mutex :: outer) test ∧ ¬discipline.holds stage mutex ∧
        (mutex ∉ outer ∧ discipline.mayLock thread stage outer mutex) ∧
        ∀ response, if again response then semantics.after stage test response = stage
          else (∀ held, discipline.holds (semantics.after stage test response) held →
              held ∈ mutex :: outer) ∧
            Follows (semantics.after stage test response) (mutex :: outer) rest
  | stage, held, .jump label => discipline.entry thread label stage held

/-- The current operation is one that the discipline allows. -/
theorem Follows.allowed {stage : Stage} {held : List Mutex} {operation : Op}
    {code : Prog Op Resp Mutex Label Unit}
    (follows : Follows semantics discipline thread stage held code)
    (current : code.current = some operation) :
    discipline.allowed thread stage held operation := by
  cases code with
  | op _ _ | await _ _ _ _ =>
      cases current
      exact follows.1
  | _ => cases current

end Follows

section Runs

variable [DecidableEq Tid] [DecidableEq Mutex]
variable {semantics : Semantics World Stage Tid Choice Op Resp Mutex Label}
  {discipline : Discipline Stage Tid Op Mutex Label}

/-- Mutexes are owned by the threads that hold them. -/
structure Locked (state : State World Stage Tid Op Resp Mutex Label) : Prop where
  owner : ∀ mutex thread, state.owner mutex = some thread ↔ mutex ∈ state.held thread
  nodup : ∀ thread, (state.held thread).Nodup

/-- What every state of a run guarantees about its threads. -/
structure Disciplined (semantics : Semantics World Stage Tid Choice Op Resp Mutex Label)
    (discipline : Discipline Stage Tid Op Mutex Label)
    (state : State World Stage Tid Op Resp Mutex Label) : Prop extends Locked state where
  follows : ∀ thread, Follows semantics discipline thread (state.stage thread)
    (state.held thread) (state.code thread)
  promised : ∀ thread mutex, discipline.holds (state.stage thread) mutex →
    mutex ∈ state.held thread

section Locked

variable {state : State World Stage Tid Op Resp Mutex Label} {thread : Tid} {mutex : Mutex}

omit [DecidableEq Tid] [DecidableEq Mutex] in
/-- Two threads never hold the same mutex. -/
theorem Locked.exclusive {other : Tid} (locked : Locked state) (held : mutex ∈ state.held thread)
    (also : mutex ∈ state.held other) : thread = other := by
  have left := (locked.owner mutex thread).mpr held
  have right := (locked.owner mutex other).mpr also
  exact Option.some.inj (left.symm.trans right)

/-- Owners and held mutexes agree after a free mutex is taken. -/
theorem Locked.take (thread : Tid) (locked : Locked state) (unowned : state.owner mutex = none) :
    Locked (take state thread mutex) where
  owner other holder := by
    have unheld : ∀ holder, mutex ∉ state.held holder := fun holder held => by
      rw [← locked.owner, unowned] at held
      cases held
    by_cases sameMutex : other = mutex
    · subst sameMutex
      by_cases sameThread : holder = thread
      · simp [Machine.take, sameThread]
      · simp [Machine.take, sameThread, unheld, Ne.symm sameThread]
    · by_cases sameThread : holder = thread
      · subst sameThread
        simp [Machine.take, sameMutex, locked.owner]
      · simp [Machine.take, sameMutex, sameThread, locked.owner]
  nodup holder := by
    have unheld : mutex ∉ state.held thread := fun held => by
      rw [← locked.owner, unowned] at held
      cases held
    by_cases sameThread : holder = thread
    · subst sameThread
      simpa [Machine.take] using ⟨unheld, locked.nodup holder⟩
    · simpa [Machine.take, sameThread] using locked.nodup holder

/-- Owners and held mutexes agree after a held mutex is given back. -/
theorem Locked.give (locked : Locked state) (held : mutex ∈ state.held thread) :
    Locked (give state thread mutex) where
  owner other holder := by
    by_cases sameThread : holder = thread
    · subst sameThread
      by_cases sameMutex : other = mutex
      · subst sameMutex
        simp [Machine.give, (locked.nodup holder).mem_erase_iff]
      · simp [Machine.give, sameMutex, locked.owner, (locked.nodup holder).mem_erase_iff]
    · by_cases sameMutex : other = mutex
      · subst sameMutex
        have unheld : other ∉ state.held holder := fun also =>
          sameThread (locked.exclusive also held)
        simp [Machine.give, sameThread, unheld]
      · simp [Machine.give, sameMutex, sameThread, locked.owner]
  nodup holder := by
    by_cases sameThread : holder = thread
    · subst sameThread
      simpa [Machine.give] using (locked.nodup holder).erase mutex
    · simpa [Machine.give, sameThread] using locked.nodup holder

end Locked

/-- Only `thread` moved, and it still follows the discipline. -/
theorem Disciplined.moved {state next : State World Stage Tid Op Resp Mutex Label} (thread : Tid)
    (disciplined : Disciplined semantics discipline state) (locked : Locked next)
    (others : ∀ other, other ≠ thread → next.stage other = state.stage other ∧
      next.held other = state.held other ∧ next.code other = state.code other)
    (own : Follows semantics discipline thread (next.stage thread) (next.held thread)
      (next.code thread))
    (promised : ∀ mutex, discipline.holds (next.stage thread) mutex → mutex ∈ next.held thread) :
    Disciplined semantics discipline next where
  toLocked := locked
  follows other := by
    by_cases same : other = thread
    · exact same ▸ own
    · obtain ⟨stage, held, code⟩ := others other same
      rw [stage, held, code]
      exact disciplined.follows other
  promised other mutex holds := by
    by_cases same : other = thread
    · subst same
      exact promised mutex holds
    · obtain ⟨stage, held, _⟩ := others other same
      rw [stage] at holds
      rw [held]
      exact disciplined.promised other mutex holds

variable (bodies : ∀ thread label stage held, discipline.entry thread label stage held →
  Follows semantics discipline thread stage held (semantics.body label))

include bodies in
/-- Every step keeps the discipline. -/
theorem Disciplined.step {state next : State World Stage Tid Op Resp Mutex Label}
    {event : Event Tid Choice} (disciplined : Disciplined semantics discipline state)
    (taken : step semantics state event = some next) :
    Disciplined semantics discipline next := by
  cases event with
  | wake thread =>
      simp only [Machine.step, Option.ite_none_right_eq_some, Option.some.injEq] at taken
      obtain ⟨_, rfl⟩ := taken
      exact ⟨⟨disciplined.owner, disciplined.nodup⟩, disciplined.follows, disciplined.promised⟩
  | act thread choice woken =>
      have own := disciplined.follows thread
      have promised := disciplined.promised thread
      have locked := disciplined.toLocked
      cases code : state.code thread with
      | done _ => simp [Machine.step, code] at taken
      | op operation rest =>
          simp only [Machine.step, code, Option.map_eq_some_iff] at taken
          obtain ⟨⟨world, response⟩, _, rfl⟩ := taken
          rw [code] at own
          obtain ⟨_, after⟩ := own
          refine disciplined.moved thread ⟨locked.owner, locked.nodup⟩ ?_ ?_ ?_
          · intro other different
            simp [goOn, performed, different]
          · simpa [goOn, performed] using (after response).2
          · simpa [goOn, performed] using (after response).1
      | lock mutex rest =>
          simp only [Machine.step, code, Option.ite_none_right_eq_some, Option.some.injEq] at taken
          obtain ⟨unowned, rfl⟩ := taken
          rw [code] at own
          have locked' := locked.take thread (Option.isNone_iff_eq_none.mp unowned)
          refine disciplined.moved thread ⟨locked'.owner, locked'.nodup⟩ ?_ ?_ ?_
          · intro other different
            simp [goOn, take, different]
          · simpa [goOn, take] using own.2.2
          · intro other holds
            have held := promised other (by simpa [goOn, take] using holds)
            simp [goOn, take, held]
      | unlock mutex rest =>
          simp only [Machine.step, code, Option.some.injEq] at taken
          subst taken
          rw [code] at own
          obtain ⟨held, kept, tail⟩ := own
          have locked' := locked.give held
          refine disciplined.moved thread ⟨locked'.owner, locked'.nodup⟩ ?_ ?_ ?_
          · intro other different
            simp [goOn, give, different]
          · simpa [goOn, give] using tail
          · intro other holds
            have stays : other ≠ mutex := by
              rintro rfl
              exact kept (by simpa [goOn, give] using holds)
            have member := promised other (by simpa [goOn, give] using holds)
            simpa [goOn, give] using (List.mem_erase_of_ne stays).mpr member
      | signal rest =>
          rw [code] at own
          have moved : ∀ sleeping, Disciplined semantics discipline
              (goOn { state with sleeping } thread rest) := by
            intro sleeping
            refine disciplined.moved thread ⟨locked.owner, locked.nodup⟩ ?_ ?_ ?_
            · intro other different
              simp [goOn, different]
            · simpa [goOn, Follows] using own
            · simpa [goOn] using promised
          cases woken <;>
            simp only [Machine.step, code, Option.ite_none_right_eq_some, Option.some.injEq]
              at taken <;>
            obtain ⟨_, rfl⟩ := taken <;> exact moved _
      | await test again mutex rest =>
          simp only [Machine.step, code, Option.map_eq_some_iff] at taken
          obtain ⟨⟨world, response⟩, _, rfl⟩ := taken
          rw [code] at own
          obtain ⟨allowed, kept, ⟨outer, heldEq, outside, mayLock⟩, tail⟩ := own
          have answer := tail response
          by_cases sleeps : again response
          · simp only [sleeps, if_true] at answer ⊢
            have locked' : Locked (give state thread mutex) := locked.give (by simp [heldEq])
            refine disciplined.moved thread ⟨locked'.owner, locked'.nodup⟩ ?_ ?_ ?_
            · intro other different
              simp [goOn, give, performed, different]
            · rw [heldEq] at allowed tail
              have asleep : Follows semantics discipline thread (state.stage thread) outer
                  (.asleep test again mutex rest) := ⟨allowed, kept, ⟨outside, mayLock⟩, tail⟩
              simpa [goOn, give, performed, answer, heldEq] using asleep
            · intro other holds
              simp only [goOn, give, performed, Function.update_self, answer] at holds ⊢
              have stays : other ≠ mutex := by
                rintro rfl
                exact kept holds
              exact (List.mem_erase_of_ne stays).mpr (promised other holds)
          · simp only [sleeps] at answer ⊢
            refine disciplined.moved thread ⟨locked.owner, locked.nodup⟩ ?_ ?_ ?_
            · intro other different
              simp [goOn, performed, different]
            · simpa [goOn, performed] using answer.2
            · simpa [goOn, performed] using answer.1
      | asleep test again mutex rest =>
          simp only [Machine.step, code, Option.ite_none_right_eq_some, Option.some.injEq] at taken
          obtain ⟨⟨_, unowned⟩, rfl⟩ := taken
          rw [code] at own
          obtain ⟨allowed, kept, ⟨outside, mayLock⟩, tail⟩ := own
          have locked' := locked.take thread (Option.isNone_iff_eq_none.mp unowned)
          refine disciplined.moved thread ⟨locked'.owner, locked'.nodup⟩ ?_ ?_ ?_
          · intro other different
            simp [goOn, take, different]
          · have awaits : Follows semantics discipline thread (state.stage thread)
                (mutex :: state.held thread) (.await test again mutex rest) :=
              ⟨allowed, kept, ⟨_, rfl, outside, mayLock⟩, tail⟩
            simpa [goOn, take] using awaits
          · intro other holds
            have held := promised other (by simpa [goOn, take] using holds)
            simp [goOn, take, held]
      | jump label =>
          simp only [Machine.step, code, Option.some.injEq] at taken
          subst taken
          rw [code] at own
          refine disciplined.moved thread ⟨locked.owner, locked.nodup⟩ ?_ ?_ ?_
          · intro other different
            simp [goOn, different]
          · simpa [goOn] using bodies thread label _ _ own
          · simpa [goOn] using promised

include bodies in
/-- Every state of a run is disciplined. -/
theorem Reach.disciplined {condition : State World Stage Tid Op Resp Mutex Label →
    Event Tid Choice → Prop} {initial : State World Stage Tid Op Resp Mutex Label → Prop}
    (base : ∀ state, initial state → Disciplined semantics discipline state)
    {state : State World Stage Tid Op Resp Mutex Label}
    (reached : Reach (Machine.step semantics) condition initial state) :
    Disciplined semantics discipline state :=
  reached.invariant _ base fun _ _ _ _ disciplined _ taken => disciplined.step bodies taken

end Runs

end KCamera.Machine
