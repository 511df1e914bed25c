import KCamera.Machine.Program
import KCamera.Machine.Run

/-!
# Programs that run alone

What a program does while no other thread moves, as a function. `alone_reach`
connects it to the machine: a thread that finds its mutexes free gets there.
-/

namespace KCamera.Machine

variable {World Stage Tid Choice Op : Type} {Resp : Op → Type} {Mutex Label α β : Type}
variable [DecidableEq Mutex]

namespace Prog

/-- Run a program that holds `held`; `none` where it would block or go on as a label. -/
def alone (exec : (operation : Op) → World → Option (World × Resp operation)) :
    Prog Op Resp Mutex Label α → World → List Mutex → Option (World × List Mutex × α)
  | done value, world, held => some (world, held, value)
  | op operation rest, world, held =>
      (exec operation world).bind fun (next, response) => (rest response).alone exec next held
  | lock mutex rest, world, held =>
      if mutex ∈ held then none else rest.alone exec world (mutex :: held)
  | unlock mutex rest, world, held => rest.alone exec world (held.erase mutex)
  | signal rest, world, held => rest.alone exec world held
  | await test again _ rest, world, held =>
      (exec test world).bind fun (next, response) =>
        if again response then none else rest.alone exec next held
  | asleep _ _ _ _, _, _ => none
  | jump _, _, _ => none

variable {exec : (operation : Op) → World → Option (World × Resp operation)}

/-- A program that is done returns its value. -/
@[simp] theorem alone_done (value : α) (world : World) (held : List Mutex) :
    (done value : Prog Op Resp Mutex Label α).alone exec world held =
      some (world, held, value) := rfl

/-- An operation that does not block, then the rest. -/
@[simp] theorem alone_op (operation : Op) (rest : Resp operation → Prog Op Resp Mutex Label α)
    (world : World) (held : List Mutex) :
    (op operation rest).alone exec world held =
      (exec operation world).bind fun (next, response) =>
        (rest response).alone exec next held := rfl

/-- Alone, a thread blocks only on a mutex it holds itself. -/
@[simp] theorem alone_lock (mutex : Mutex) (rest : Prog Op Resp Mutex Label α) (world : World)
    (held : List Mutex) :
    (lock mutex rest).alone exec world held =
      if mutex ∈ held then none else rest.alone exec world (mutex :: held) := rfl

/-- A mutex that is given back is not held by the rest. -/
@[simp] theorem alone_unlock (mutex : Mutex) (rest : Prog Op Resp Mutex Label α) (world : World)
    (held : List Mutex) :
    (unlock mutex rest).alone exec world held = rest.alone exec world (held.erase mutex) := rfl

/-- One operation by itself. -/
@[simp] theorem alone_perform (operation : Op) (world : World) (held : List Mutex) :
    (perform operation : Prog Op Resp Mutex Label _).alone exec world held =
      (exec operation world).map fun (next, response) => (next, held, response) := by
  simp only [perform, alone_op, alone_done]
  cases exec operation world <;> rfl

/-- Giving back a mutex by itself. -/
@[simp] theorem alone_release (mutex : Mutex) (world : World) (held : List Mutex) :
    (release mutex : Prog Op Resp Mutex Label Unit).alone exec world held =
      some (world, held.erase mutex, ()) := rfl

/-- Two programs in a row. -/
theorem alone_bind (prog : Prog Op Resp Mutex Label α) (next : α → Prog Op Resp Mutex Label β)
    (world : World) (held : List Mutex) :
    (prog >>= next).alone exec world held =
      (prog.alone exec world held).bind fun (world, held, value) =>
        (next value).alone exec world held := by
  induction prog generalizing world held with
  | done value => rfl
  | op operation rest ih =>
      simp only [op_bind, alone]
      cases exec operation world with
      | none => rfl
      | some result => exact ih result.2 _ _
  | lock mutex rest ih =>
      simp only [lock_bind, alone]
      split
      · rfl
      · exact ih _ _
  | unlock mutex rest ih => exact ih _ _
  | signal rest ih => exact ih _ _
  | await test again mutex rest ih =>
      simp only [await_bind, alone]
      cases exec test world with
      | none => rfl
      | some result =>
          dsimp only [Option.bind_some]
          split
          · rfl
          · exact ih _ _
  | asleep test again mutex rest ih => rfl
  | jump label => rfl

end Prog

section Machine

variable [DecidableEq Tid] {semantics : Semantics World Stage Tid Choice Op Resp Mutex Label}
  {thread : Tid} {choice : Choice}

/-- Steps of one thread. -/
def By (thread : Tid) (_ : State World Stage Tid Op Resp Mutex Label) (event : Event Tid Choice) :
    Prop :=
  ∃ choice woken, event = .act thread choice woken

/-- `thread` holds `mutexes`, and nobody holds anything else. -/
structure Undisturbed (thread : Tid) (mutexes : List Mutex)
    (state : State World Stage Tid Op Resp Mutex Label) : Prop where
  held : state.held thread = mutexes
  free : ∀ mutex ∉ mutexes, state.owner mutex = none

/-- By its own steps `thread` gets to a world and a code. -/
def Gets (semantics : Semantics World Stage Tid Choice Op Resp Mutex Label) (thread : Tid)
    (state : State World Stage Tid Op Resp Mutex Label) (world : World) (held : List Mutex)
    (code : Prog Op Resp Mutex Label Unit) : Prop :=
  ∃ later, Reach (step semantics) (By thread) (· = state) later ∧ later.world = world ∧
    later.code thread = code ∧ Undisturbed thread held later

/-- A step of the thread, and what it gets to from there. -/
theorem Gets.step {state middle : State World Stage Tid Op Resp Mutex Label} {woken : Option Tid}
    {world : World} {held : List Mutex} {code : Prog Op Resp Mutex Label Unit}
    (taken : step semantics state (.act thread choice woken) = some middle)
    (gets : Gets semantics thread middle world held code) :
    Gets semantics thread state world held code := by
  obtain ⟨later, reached, rest⟩ := gets
  have first : Reach (Machine.step semantics) (By thread) (· = state) middle :=
    .step (.start rfl) ⟨choice, woken, rfl⟩ taken
  exact ⟨later, first.trans reached, rest⟩

/-- A thread that nobody disturbs does in the machine what its program does alone. -/
theorem alone_reach (prog : Prog Op Resp Mutex Label α) (next : α → Prog Op Resp Mutex Label Unit)
    {state : State World Stage Tid Op Resp Mutex Label} {held held' : List Mutex} {world : World}
    {value : α} (code : state.code thread = prog >>= next)
    (undisturbed : Undisturbed thread held state)
    (executed : prog.alone (fun operation => semantics.exec thread operation choice) state.world
      held = some (world, held', value)) :
    Gets semantics thread state world held' (next value) := by
  induction prog generalizing state held with
  | done value =>
      cases executed
      exact ⟨state, .start rfl, rfl, code, undisturbed⟩
  | op operation rest ih =>
      obtain ⟨⟨middle, response⟩, performs, executed⟩ := Option.bind_eq_some_iff.mp executed
      have taken : step semantics state (.act thread choice none) =
          some (goOn (performed semantics state thread operation middle response) thread
            (rest response >>= next)) := by
        simp [step, code, performs]
      refine Gets.step taken (ih response ?_ ?_ executed)
      · simp [goOn]
      · exact ⟨undisturbed.held, undisturbed.free⟩
  | lock mutex rest ih =>
      simp only [Prog.alone, Option.ite_none_left_eq_some] at executed
      obtain ⟨free, executed⟩ := executed
      have taken : step semantics state (.act thread choice none) =
          some (goOn (take state thread mutex) thread (rest >>= next)) := by
        simp [step, code, undisturbed.free mutex free]
      refine Gets.step taken (ih ?_ ⟨?_, ?_⟩ executed)
      · simp [goOn]
      · simp [goOn, take, undisturbed.held]
      · intro other unheld
        simp only [List.mem_cons, not_or] at unheld
        simpa [goOn, take, unheld.1] using undisturbed.free other unheld.2
  | unlock mutex rest ih =>
      have taken : step semantics state (.act thread choice none) =
          some (goOn (give state thread mutex) thread (rest >>= next)) := by
        simp [step, code]
      refine Gets.step taken (ih ?_ ⟨?_, ?_⟩ executed)
      · simp [goOn]
      · simp [goOn, give, undisturbed.held]
      · intro other unheld
        by_cases same : other = mutex
        · simp [goOn, give, same]
        · have before : other ∉ held := fun member =>
            unheld ((List.mem_erase_of_ne same).mpr member)
          simpa [goOn, give, same] using undisturbed.free other before
  | signal rest ih =>
      cases sleeping : state.sleeping with
      | nil =>
          have taken : step semantics state (.act thread choice none) =
              some (goOn state thread (rest >>= next)) := by
            simp [step, code, sleeping]
          refine Gets.step taken (ih ?_ ?_ executed)
          · simp [goOn]
          · exact ⟨undisturbed.held, undisturbed.free⟩
      | cons sleeper others =>
          have taken : step semantics state (.act thread choice (some sleeper)) =
              some (goOn { state with sleeping := state.sleeping.erase sleeper } thread
                (rest >>= next)) := by
            simp [step, code, sleeping]
          refine Gets.step taken (ih ?_ ?_ executed)
          · simp [goOn]
          · exact ⟨undisturbed.held, undisturbed.free⟩
  | await test again mutex rest ih =>
      obtain ⟨⟨middle, response⟩, performs, executed⟩ := Option.bind_eq_some_iff.mp executed
      simp only [Option.ite_none_left_eq_some] at executed
      obtain ⟨awake, executed⟩ := executed
      have taken : step semantics state (.act thread choice none) =
          some (goOn (performed semantics state thread test middle response) thread
            (rest >>= next)) := by
        simp [step, code, performs, awake]
      refine Gets.step taken (ih ?_ ?_ executed)
      · simp [goOn]
      · exact ⟨undisturbed.held, undisturbed.free⟩
  | asleep test again mutex rest ih => cases executed
  | jump label => cases executed

end Machine

end KCamera.Machine
