import KCamera.Machine.Program

/-!
# The operations in a program

`Every` says which operations a program performs before it ends or goes on as a
label, whatever it is answered; `Once` says which it performs behind a certain one. A
thread keeps to both until it jumps.
-/

namespace KCamera.Machine

variable {World Stage Tid Choice Op : Type} {Resp : Op → Type} {Mutex Label : Type}

namespace Prog

variable {α β : Type} {good : Op → Prop}

/-- The program performs no operation but good ones. -/
@[simp] def Every (good : Op → Prop) : Prog Op Resp Mutex Label α → Prop
  | op operation rest => good operation ∧ ∀ response, (rest response).Every good
  | lock _ rest | unlock _ rest | signal rest => rest.Every good
  | await test _ _ rest | asleep test _ _ rest => good test ∧ rest.Every good
  | done _ | jump _ => True

/-- A sequence is good throughout when both parts are. -/
theorem Every.bind {prog : Prog Op Resp Mutex Label α}
    {next : α → Prog Op Resp Mutex Label β} (every : prog.Every good)
    (rest : ∀ value, (next value).Every good) : (prog >>= next).Every good := by
  induction prog with
  | done value => exact rest value
  | jump label => trivial
  | op operation tail ih => exact ⟨every.1, fun response => ih response (every.2 response)⟩
  | lock other tail ih => exact ih every
  | unlock other tail ih => exact ih every
  | signal tail ih => exact ih every
  | await test again other tail ih => exact ⟨every.1, ih every.2⟩
  | asleep test again other tail ih => exact ⟨every.1, ih every.2⟩

/-- What is good throughout is so by any weaker standard. -/
theorem Every.mono {weaker : Op → Prop} {prog : Prog Op Resp Mutex Label α}
    (every : prog.Every good) (implied : ∀ operation, good operation → weaker operation) :
    prog.Every weaker := by
  induction prog with
  | done value => trivial
  | jump label => trivial
  | op operation tail ih =>
      exact ⟨implied _ every.1, fun response => ih response (every.2 response)⟩
  | lock other tail ih => exact ih every
  | unlock other tail ih => exact ih every
  | signal tail ih => exact ih every
  | await test again other tail ih => exact ⟨implied _ every.1, ih every.2⟩
  | asleep test again other tail ih => exact ⟨implied _ every.1, ih every.2⟩

/-- A branch is good throughout when each side is under its condition. -/
@[simp] theorem every_ite {condition : Prop} [Decidable condition]
    {first second : Prog Op Resp Mutex Label α} :
    (if condition then first else second).Every good ↔
      (condition → first.Every good) ∧ (¬condition → second.Every good) := by
  split <;> simp [*]

/-- What follows a branch moves into both sides. -/
theorem ite_bind {condition : Prop} [Decidable condition]
    {first second : Prog Op Resp Mutex Label α} (next : α → Prog Op Resp Mutex Label β) :
    (if condition then first else second) >>= next =
      if condition then first >>= next else second >>= next := by
  split <;> rfl

/-- The operation that comes next is a good one. -/
theorem Every.current {prog : Prog Op Resp Mutex Label α} {operation : Op}
    (every : prog.Every good) (current : prog.current = some operation) : good operation := by
  cases prog with
  | op _ _ | await _ _ _ _ =>
      cases current
      exact every.1
  | _ => cases current

/-- Behind a trigger the program performs no operation but good ones. -/
@[simp] def Once (trigger good : Op → Prop) : Prog Op Resp Mutex Label α → Prop
  | op operation rest =>
      (trigger operation → ∀ response, (rest response).Every good) ∧
        ∀ response, (rest response).Once trigger good
  | lock _ rest | unlock _ rest | signal rest => rest.Once trigger good
  | await test _ _ rest | asleep test _ _ rest => ¬trigger test ∧ rest.Once trigger good
  | done _ | jump _ => True

variable {trigger : Op → Prop}

/-- A program without the trigger, with one that keeps to the rule behind it. -/
theorem Every.bind_once {prog : Prog Op Resp Mutex Label α}
    {next : α → Prog Op Resp Mutex Label β} (every : prog.Every fun operation => ¬trigger operation)
    (rest : ∀ value, (next value).Once trigger good) : (prog >>= next).Once trigger good := by
  induction prog with
  | done value => exact rest value
  | jump label => trivial
  | op operation tail ih =>
      exact ⟨fun now => absurd now every.1, fun response => ih response (every.2 response)⟩
  | lock other tail ih => exact ih every
  | unlock other tail ih => exact ih every
  | signal tail ih => exact ih every
  | await test again other tail ih => exact ⟨every.1, ih every.2⟩
  | asleep test again other tail ih => exact ⟨every.1, ih every.2⟩

/-- A program without the trigger promises nothing behind it. -/
theorem Every.once {prog : Prog Op Resp Mutex Label α}
    (every : prog.Every fun operation => ¬trigger operation) : prog.Once trigger good := by
  induction prog with
  | done value => trivial
  | jump label => trivial
  | op operation tail ih =>
      exact ⟨fun now => absurd now every.1, fun response => ih response (every.2 response)⟩
  | lock other tail ih => exact ih every
  | unlock other tail ih => exact ih every
  | signal tail ih => exact ih every
  | await test again other tail ih => exact ⟨every.1, ih every.2⟩
  | asleep test again other tail ih => exact ⟨every.1, ih every.2⟩

/-- What holds of a program holds of what is left of it after an instruction. -/
structure Lasting (keeps : Prog Op Resp Mutex Label Unit → Prop) : Prop where
  op : ∀ {operation rest}, keeps (.op operation rest) → ∀ response, keeps (rest response)
  lock : ∀ {mutex rest}, keeps (.lock mutex rest) → keeps rest
  unlock : ∀ {mutex rest}, keeps (.unlock mutex rest) → keeps rest
  signal : ∀ {rest}, keeps (.signal rest) → keeps rest
  sleeps : ∀ {test again mutex rest}, keeps (.await test again mutex rest) →
    keeps (.asleep test again mutex rest)
  goes : ∀ {test again mutex rest}, keeps (.await test again mutex rest) → keeps rest
  wakes : ∀ {test again mutex rest}, keeps (.asleep test again mutex rest) →
    keeps (.await test again mutex rest)

/-- A program stays good throughout as it runs. -/
theorem Every.lasting :
    Lasting fun prog : Prog Op Resp Mutex Label Unit => prog.Every good where
  op every response := every.2 response
  lock every := every
  unlock every := every
  signal every := every
  sleeps every := every
  goes every := every.2
  wakes every := every

/-- What a program promises behind its trigger it keeps as it runs. -/
theorem Once.lasting :
    Lasting fun prog : Prog Op Resp Mutex Label Unit => prog.Once trigger good where
  op once response := once.2 response
  lock once := once
  unlock once := once
  signal once := once
  sleeps once := once
  goes once := once.2
  wakes once := once

end Prog

section Steps

variable [DecidableEq Tid] [DecidableEq Mutex]
  {semantics : Semantics World Stage Tid Choice Op Resp Mutex Label}
  {state next : State World Stage Tid Op Resp Mutex Label} {event : Event Tid Choice}
  {thread : Tid}

/-- Who does not move stays where it is in its program. -/
theorem step_code_of_ne (taken : step semantics state event = some next)
    (still : ∀ choice woken, event ≠ .act thread choice woken) :
    next.code thread = state.code thread := by
  cases event with
  | wake other =>
      simp only [step, Option.ite_none_right_eq_some, Option.some.injEq] at taken
      obtain ⟨_, rfl⟩ := taken
      rfl
  | act mover choice woken =>
      have different : thread ≠ mover := by
        rintro rfl
        exact still choice woken rfl
      cases code : state.code mover with
      | done _ => simp [step, code] at taken
      | op operation rest =>
          simp only [step, code, Option.map_eq_some_iff] at taken
          obtain ⟨_, _, rfl⟩ := taken
          simp [goOn, performed, different]
      | lock other rest =>
          simp only [step, code, Option.ite_none_right_eq_some, Option.some.injEq] at taken
          obtain ⟨_, rfl⟩ := taken
          simp [goOn, take, different]
      | unlock other rest | jump label =>
          simp only [step, code, Option.some.injEq] at taken
          subst taken
          simp [goOn, give, different]
      | signal rest =>
          cases woken <;>
            simp only [step, code, Option.ite_none_right_eq_some, Option.some.injEq] at taken <;>
            obtain ⟨_, rfl⟩ := taken <;> simp [goOn, different]
      | await test again other rest =>
          simp only [step, code, Option.map_eq_some_iff] at taken
          obtain ⟨_, _, rfl⟩ := taken
          split <;> simp [goOn, give, performed, different]
      | asleep test again other rest =>
          simp only [step, code, Option.ite_none_right_eq_some, Option.some.injEq] at taken
          obtain ⟨_, rfl⟩ := taken
          simp [goOn, take, different]

/-- Whoever comes to an operation goes on with the answer. -/
theorem step_op {choice : Choice} {woken : Option Tid} {operation : Op}
    {rest : Resp operation → Prog Op Resp Mutex Label Unit}
    (taken : step semantics state (.act thread choice woken) = some next)
    (code : state.code thread = .op operation rest) :
    ∃ response, semantics.exec thread operation choice state.world =
        some (next.world, response) ∧ next.code thread = rest response := by
  simp only [step, code, Option.map_eq_some_iff] at taken
  obtain ⟨⟨world, response⟩, executed, rfl⟩ := taken
  exact ⟨response, executed, by simp [goOn]⟩

/-- Whoever gets a mutex goes on. -/
theorem step_lock {choice : Choice} {woken : Option Tid} {mutex : Mutex}
    {rest : Prog Op Resp Mutex Label Unit}
    (taken : step semantics state (.act thread choice woken) = some next)
    (code : state.code thread = .lock mutex rest) : next.code thread = rest := by
  simp only [step, code, Option.ite_none_right_eq_some, Option.some.injEq] at taken
  obtain ⟨_, rfl⟩ := taken
  simp [goOn]

/-- What lasts of a thread's program lasts until the thread goes on as a label. -/
theorem Prog.Lasting.step {keeps : Prog Op Resp Mutex Label Unit → Prop}
    (lasting : Prog.Lasting keeps) (taken : step semantics state event = some next)
    (holds : keeps (state.code thread)) :
    keeps (next.code thread) ∨
      ∃ label, state.code thread = .jump label ∧ next.code thread = semantics.body label := by
  by_cases moves : ∃ choice woken, event = .act thread choice woken
  · obtain ⟨choice, woken, rfl⟩ := moves
    cases code : state.code thread with
    | done _ => simp [Machine.step, code] at taken
    | op operation rest =>
        obtain ⟨response, _, after⟩ := step_op taken code
        rw [code] at holds
        exact .inl (after ▸ lasting.op holds response)
    | lock mutex rest =>
        rw [code] at holds
        exact .inl (step_lock taken code ▸ lasting.lock holds)
    | unlock other rest =>
        simp only [Machine.step, code, Option.some.injEq] at taken
        subst taken
        rw [code] at holds
        exact .inl (by simpa [goOn] using lasting.unlock holds)
    | signal rest =>
        rw [code] at holds
        cases woken <;>
          simp only [Machine.step, code, Option.ite_none_right_eq_some, Option.some.injEq]
            at taken <;>
          obtain ⟨_, rfl⟩ := taken <;> exact .inl (by simpa [goOn] using lasting.signal holds)
    | await test again other rest =>
        simp only [Machine.step, code, Option.map_eq_some_iff] at taken
        obtain ⟨⟨world, response⟩, _, rfl⟩ := taken
        rw [code] at holds
        refine .inl ?_
        dsimp only
        split
        · simpa [goOn] using lasting.sleeps holds
        · simpa [goOn] using lasting.goes holds
    | asleep test again other rest =>
        simp only [Machine.step, code, Option.ite_none_right_eq_some, Option.some.injEq] at taken
        obtain ⟨_, rfl⟩ := taken
        rw [code] at holds
        exact .inl (by simpa [goOn] using lasting.wakes holds)
    | jump label =>
        simp only [Machine.step, code, Option.some.injEq] at taken
        subst taken
        exact .inr ⟨label, rfl, by simp [goOn]⟩
  · have same := step_code_of_ne taken fun choice woken acts => moves ⟨choice, woken, acts⟩
    exact .inl (same ▸ holds)

end Steps

end KCamera.Machine
