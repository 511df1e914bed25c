import Mathlib.Logic.Function.Basic

/-!
# Threads of sequential programs

A program is a tree of operations on a shared world and of the synchronisation
that POSIX threads offer: mutexes and one condition variable. A thread runs a
program; a machine says what each operation does to the world. Every step of a
machine is one instruction of one thread, so runs are the interleavings of the
threads' programs.

Each thread also has a stage. Stages record how far a thread is in a protocol;
operations move them and nothing reads them.
-/

namespace KCamera.Machine

/-- A program over operations `Op`. `jump` ends a program by going on as the
program of a label. -/
inductive Prog (Op : Type) (Resp : Op → Type) (Mutex Label : Type) (α : Type) : Type where
  | done (value : α)
  | op (operation : Op) (rest : Resp operation → Prog Op Resp Mutex Label α)
  | lock (mutex : Mutex) (rest : Prog Op Resp Mutex Label α)
  | unlock (mutex : Mutex) (rest : Prog Op Resp Mutex Label α)
  /-- Wake one of the sleeping threads. -/
  | signal (rest : Prog Op Resp Mutex Label α)
  /-- Sleep and release `mutex` as long as `test` says so. -/
  | await (test : Op) (again : Resp test → Bool) (mutex : Mutex)
      (rest : Prog Op Resp Mutex Label α)
  /-- Inside `await`, until woken and in possession of `mutex`. -/
  | asleep (test : Op) (again : Resp test → Bool) (mutex : Mutex)
      (rest : Prog Op Resp Mutex Label α)
  | jump (label : Label)

namespace Prog

variable {Op : Type} {Resp : Op → Type} {Mutex Label : Type} {α β : Type}

protected def bind : Prog Op Resp Mutex Label α → (α → Prog Op Resp Mutex Label β) →
    Prog Op Resp Mutex Label β
  | done value, next => next value
  | op operation rest, next => op operation fun response => (rest response).bind next
  | lock mutex rest, next => lock mutex (rest.bind next)
  | unlock mutex rest, next => unlock mutex (rest.bind next)
  | signal rest, next => signal (rest.bind next)
  | await test again mutex rest, next => await test again mutex (rest.bind next)
  | asleep test again mutex rest, next => asleep test again mutex (rest.bind next)
  | jump label, _ => jump label

instance : Monad (Prog Op Resp Mutex Label) where
  pure := done
  bind := Prog.bind

/-- Returning is being done. -/
@[simp] theorem pure_eq (value : α) :
    (pure value : Prog Op Resp Mutex Label α) = done value := rfl

/-- Being done goes on with the value. -/
@[simp] theorem done_bind (value : α) (next : α → Prog Op Resp Mutex Label β) :
    done value >>= next = next value := rfl

/-- What follows an operation moves behind its response. -/
@[simp] theorem op_bind (operation : Op) (rest : Resp operation → Prog Op Resp Mutex Label α)
    (next : α → Prog Op Resp Mutex Label β) :
    op operation rest >>= next = op operation fun response => rest response >>= next := rfl

/-- What follows moves behind the lock. -/
@[simp] theorem lock_bind (mutex : Mutex) (rest : Prog Op Resp Mutex Label α)
    (next : α → Prog Op Resp Mutex Label β) :
    lock mutex rest >>= next = lock mutex (rest >>= next) := rfl

/-- What follows moves behind the unlock. -/
@[simp] theorem unlock_bind (mutex : Mutex) (rest : Prog Op Resp Mutex Label α)
    (next : α → Prog Op Resp Mutex Label β) :
    unlock mutex rest >>= next = unlock mutex (rest >>= next) := rfl

/-- What follows moves behind the signal. -/
@[simp] theorem signal_bind (rest : Prog Op Resp Mutex Label α)
    (next : α → Prog Op Resp Mutex Label β) :
    signal rest >>= next = signal (rest >>= next) := rfl

/-- What follows moves behind the wait loop. -/
@[simp] theorem await_bind (test : Op) (again : Resp test → Bool) (mutex : Mutex)
    (rest : Prog Op Resp Mutex Label α) (next : α → Prog Op Resp Mutex Label β) :
    await test again mutex rest >>= next = await test again mutex (rest >>= next) := rfl

/-- Nothing follows a jump. -/
@[simp] theorem jump_bind (label : Label) (next : α → Prog Op Resp Mutex Label β) :
    (jump label : Prog Op Resp Mutex Label α) >>= next = jump label := rfl

/-- Sequencing is associative. -/
@[simp] theorem bind_assoc {γ : Type} (prog : Prog Op Resp Mutex Label α)
    (first : α → Prog Op Resp Mutex Label β) (second : β → Prog Op Resp Mutex Label γ) :
    prog >>= first >>= second = prog >>= fun value => first value >>= second := by
  induction prog with
  | done _ => rfl
  | op operation rest ih => exact congrArg (op operation) (funext fun response => ih response)
  | lock mutex rest ih => exact congrArg (lock mutex) ih
  | unlock mutex rest ih => exact congrArg (unlock mutex) ih
  | signal rest ih => exact congrArg signal ih
  | await test again mutex rest ih => exact congrArg (await test again mutex) ih
  | asleep test again mutex rest ih => exact congrArg (asleep test again mutex) ih
  | jump _ => rfl

/-- One operation as a program. -/
def perform (operation : Op) : Prog Op Resp Mutex Label (Resp operation) := op operation done

/-- `pthread_mutex_lock`. -/
def acquire (mutex : Mutex) : Prog Op Resp Mutex Label Unit := lock mutex (done ())

/-- `pthread_mutex_unlock`. -/
def release (mutex : Mutex) : Prog Op Resp Mutex Label Unit := unlock mutex (done ())

/-- `pthread_cond_signal`. -/
def notify : Prog Op Resp Mutex Label Unit := signal (done ())

/-- `while (test) pthread_cond_wait(cond, mutex)`. -/
def waitWhile (test : Op) (again : Resp test → Bool) (mutex : Mutex) :
    Prog Op Resp Mutex Label Unit := await test again mutex (done ())

/-- An operation, and what uses its response. -/
@[simp] theorem perform_bind (operation : Op)
    (next : Resp operation → Prog Op Resp Mutex Label β) :
    perform operation >>= next = op operation next := rfl

/-- A mutex is taken, then the rest runs. -/
@[simp] theorem acquire_bind (mutex : Mutex) (next : Unit → Prog Op Resp Mutex Label β) :
    acquire mutex >>= next = lock mutex (next ()) := rfl

/-- A mutex is given back, then the rest runs. -/
@[simp] theorem release_bind (mutex : Mutex) (next : Unit → Prog Op Resp Mutex Label β) :
    release mutex >>= next = unlock mutex (next ()) := rfl

/-- A signal is sent, then the rest runs. -/
@[simp] theorem notify_bind (next : Unit → Prog Op Resp Mutex Label β) :
    notify >>= next = signal (next ()) := rfl

/-- The wait loop, then the rest. -/
@[simp] theorem waitWhile_bind (test : Op) (again : Resp test → Bool) (mutex : Mutex)
    (next : Unit → Prog Op Resp Mutex Label β) :
    waitWhile test again mutex >>= next = await test again mutex (next ()) := rfl

/-- The operation that the next step performs, if it performs one. -/
def current : Prog Op Resp Mutex Label α → Option Op
  | op operation _ => some operation
  | await test _ _ _ => some test
  | _ => none

end Prog

/-! ## Machines -/

/-- Everything a step can read or write. -/
structure State (World Stage Tid Op : Type) (Resp : Op → Type) (Mutex Label : Type) where
  world : World
  stage : Tid → Stage
  code : Tid → Prog Op Resp Mutex Label Unit
  owner : Mutex → Option Tid
  held : Tid → List Mutex
  sleeping : List Tid

/-- What operations do and where labels lead. `exec` has no result while an
operation blocks; a `Choice` is what the environment contributes to it. -/
structure Semantics (World Stage Tid Choice Op : Type) (Resp : Op → Type)
    (Mutex Label : Type) where
  exec : Tid → (operation : Op) → Choice → World → Option (World × Resp operation)
  after : Stage → (operation : Op) → Resp operation → Stage
  body : Label → Prog Op Resp Mutex Label Unit

/-- A thread's next instruction, or a spurious wakeup. A signal wakes `woken`. -/
inductive Event (Tid Choice : Type) where
  | act (thread : Tid) (choice : Choice) (woken : Option Tid)
  | wake (thread : Tid)

section Steps

variable {World Stage Tid Choice Op : Type} {Resp : Op → Type} {Mutex Label : Type}
variable [DecidableEq Tid] [DecidableEq Mutex]

open Function (update)

/-- `thread` goes on with `code`. -/
def goOn (state : State World Stage Tid Op Resp Mutex Label) (thread : Tid)
    (code : Prog Op Resp Mutex Label Unit) : State World Stage Tid Op Resp Mutex Label :=
  { state with code := update state.code thread code }

/-- `thread` gets `mutex`. -/
def take (state : State World Stage Tid Op Resp Mutex Label) (thread : Tid) (mutex : Mutex) :
    State World Stage Tid Op Resp Mutex Label :=
  { state with
    owner := update state.owner mutex (some thread)
    held := update state.held thread (mutex :: state.held thread) }

/-- `thread` gives `mutex` back. -/
def give (state : State World Stage Tid Op Resp Mutex Label) (thread : Tid) (mutex : Mutex) :
    State World Stage Tid Op Resp Mutex Label :=
  { state with
    owner := update state.owner mutex none
    held := update state.held thread ((state.held thread).erase mutex) }

/-- `thread` has performed `operation`. -/
def performed (semantics : Semantics World Stage Tid Choice Op Resp Mutex Label)
    (state : State World Stage Tid Op Resp Mutex Label) (thread : Tid) (operation : Op)
    (world : World) (response : Resp operation) : State World Stage Tid Op Resp Mutex Label :=
  { state with
    world
    stage := update state.stage thread (semantics.after (state.stage thread) operation response) }

/-- One step; `none` while the thread is blocked. -/
def step (semantics : Semantics World Stage Tid Choice Op Resp Mutex Label)
    (state : State World Stage Tid Op Resp Mutex Label) :
    Event Tid Choice → Option (State World Stage Tid Op Resp Mutex Label)
  | .act thread choice woken =>
      match state.code thread with
      | .done _ => none
      | .op operation rest =>
          (semantics.exec thread operation choice state.world).map fun (world, response) =>
            goOn (performed semantics state thread operation world response) thread (rest response)
      | .lock mutex rest =>
          if (state.owner mutex).isNone then some (goOn (take state thread mutex) thread rest)
          else none
      | .unlock mutex rest => some (goOn (give state thread mutex) thread rest)
      | .signal rest =>
          match woken with
          | none => if state.sleeping.isEmpty then some (goOn state thread rest) else none
          | some other =>
              if other ∈ state.sleeping then
                some (goOn { state with sleeping := state.sleeping.erase other } thread rest)
              else none
      | .await test again mutex rest =>
          (semantics.exec thread test choice state.world).map fun (world, response) =>
            let tested := performed semantics state thread test world response
            if again response then
              goOn { give tested thread mutex with sleeping := thread :: state.sleeping } thread
                (.asleep test again mutex rest)
            else goOn tested thread rest
      | .asleep test again mutex rest =>
          if thread ∉ state.sleeping ∧ (state.owner mutex).isNone then
            some (goOn (take state thread mutex) thread (.await test again mutex rest))
          else none
      | .jump label => some (goOn state thread (semantics.body label))
  | .wake thread =>
      if thread ∈ state.sleeping then
        some { state with sleeping := state.sleeping.erase thread }
      else none

/-- The operation that an event performs, if it performs one. -/
def Event.operation (state : State World Stage Tid Op Resp Mutex Label) :
    Event Tid Choice → Option Op
  | .act thread _ _ => (state.code thread).current
  | .wake _ => none

/-- A step performs the current operation of its thread, or leaves the world
and all stages alone. -/
theorem step_world {semantics : Semantics World Stage Tid Choice Op Resp Mutex Label}
    {state next : State World Stage Tid Op Resp Mutex Label} {event : Event Tid Choice}
    (taken : step semantics state event = some next) :
    (event.operation state = none ∧ next.world = state.world ∧ next.stage = state.stage) ∨
      ∃ thread choice woken operation world response,
        event = .act thread choice woken ∧ (state.code thread).current = some operation ∧
        semantics.exec thread operation choice state.world = some (world, response) ∧
        next.world = world ∧
        next.stage =
          update state.stage thread (semantics.after (state.stage thread) operation response) := by
  cases event with
  | wake thread =>
      simp only [step, Option.ite_none_right_eq_some, Option.some.injEq] at taken
      obtain ⟨_, rfl⟩ := taken
      exact .inl ⟨rfl, rfl, rfl⟩
  | act thread choice woken =>
      cases code : state.code thread with
      | done _ => simp [step, code] at taken
      | op operation rest =>
          simp only [step, code, Option.map_eq_some_iff] at taken
          obtain ⟨⟨world, response⟩, executed, rfl⟩ := taken
          exact .inr ⟨thread, choice, woken, operation, world, response, rfl, by rw [code]; rfl,
            executed, rfl, rfl⟩
      | lock mutex rest =>
          simp only [step, code, Option.ite_none_right_eq_some, Option.some.injEq] at taken
          obtain ⟨_, rfl⟩ := taken
          exact .inl ⟨by simp [Event.operation, code, Prog.current], rfl, rfl⟩
      | unlock mutex rest =>
          simp only [step, code, Option.some.injEq] at taken
          subst taken
          exact .inl ⟨by simp [Event.operation, code, Prog.current], rfl, rfl⟩
      | signal rest =>
          cases woken <;>
            simp only [step, code, Option.ite_none_right_eq_some, Option.some.injEq] at taken <;>
            obtain ⟨_, rfl⟩ := taken <;> exact .inl ⟨by simp [Event.operation, code, Prog.current], rfl, rfl⟩
      | await test again mutex rest =>
          simp only [step, code, Option.map_eq_some_iff] at taken
          obtain ⟨⟨world, response⟩, executed, rfl⟩ := taken
          refine .inr ⟨thread, choice, woken, test, world, response, rfl, by rw [code]; rfl,
            executed, ?_, ?_⟩
          · by_cases sleeps : again response <;> simp [sleeps, goOn, give, performed]
          · by_cases sleeps : again response <;> simp [sleeps, goOn, give, performed]
      | asleep test again mutex rest =>
          simp only [step, code, Option.ite_none_right_eq_some, Option.some.injEq] at taken
          obtain ⟨_, rfl⟩ := taken
          exact .inl ⟨by simp [Event.operation, code, Prog.current], rfl, rfl⟩
      | jump label =>
          simp only [step, code, Option.some.injEq] at taken
          subst taken
          exact .inl ⟨by simp [Event.operation, code, Prog.current], rfl, rfl⟩

end Steps

end KCamera.Machine
