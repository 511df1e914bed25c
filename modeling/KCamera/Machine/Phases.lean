import KCamera.Machine.Text

/-!
# Phases of programs

A protocol takes a thread from phase to phase as it performs operations, and says which
operations a phase admits. `Leads` checks a program against it. Phases are no part of a
state: threads whose programs keep to a protocol can be given phases at every step.
-/

namespace KCamera.Machine

variable {World Stage Tid Choice Op Phase : Type} {Resp : Op → Type} {Mutex Label : Type}

/-- A protocol of threads. A thread that goes on as a label is in the phase `entry`. -/
structure Protocol (Phase Op : Type) (Resp : Op → Type) (Label : Type) where
  admits : Phase → Op → Prop
  after : Phase → (operation : Op) → Resp operation → Phase
  entry : Label → Phase

namespace Prog

variable {α β : Type} {protocol : Protocol Phase Op Resp Label} {phase : Phase}

/-- From `phase` the program keeps to the protocol, and its value and the phase that it
ends in satisfy `post`. The test of a wait loop leaves the phase. -/
@[simp] def Leads (protocol : Protocol Phase Op Resp Label) (post : α → Phase → Prop) :
    Phase → Prog Op Resp Mutex Label α → Prop
  | phase, done value => post value phase
  | phase, op operation rest =>
      protocol.admits phase operation ∧
        ∀ response, (rest response).Leads protocol post (protocol.after phase operation response)
  | phase, lock _ rest | phase, unlock _ rest | phase, signal rest =>
      rest.Leads protocol post phase
  | phase, await test _ _ rest | phase, asleep test _ _ rest =>
      protocol.admits phase test ∧ (∀ response, protocol.after phase test response = phase) ∧
        rest.Leads protocol post phase
  | phase, jump label => phase = protocol.entry label

/-- A program goes on from where the program before it leads. -/
theorem Leads.bind {post : α → Phase → Prop} {post' : β → Phase → Prop}
    {prog : Prog Op Resp Mutex Label α} {next : α → Prog Op Resp Mutex Label β}
    (leads : prog.Leads protocol post phase)
    (rest : ∀ value phase, post value phase → (next value).Leads protocol post' phase) :
    (prog >>= next).Leads protocol post' phase := by
  induction prog generalizing phase with
  | done value => exact rest value phase leads
  | jump label => exact leads
  | op operation tail ih => exact ⟨leads.1, fun response => ih response (leads.2 response)⟩
  | lock other tail ih => exact ih leads
  | unlock other tail ih => exact ih leads
  | signal tail ih => exact ih leads
  | await test again other tail ih => exact ⟨leads.1, leads.2.1, ih leads.2.2⟩
  | asleep test again other tail ih => exact ⟨leads.1, leads.2.1, ih leads.2.2⟩

/-- A program that leads to something leads to what this implies. -/
theorem Leads.mono {post weaker : α → Phase → Prop} {prog : Prog Op Resp Mutex Label α}
    (leads : prog.Leads protocol post phase)
    (implied : ∀ value phase, post value phase → weaker value phase) :
    prog.Leads protocol weaker phase := by
  induction prog generalizing phase with
  | done value => exact implied value phase leads
  | jump label => exact leads
  | op operation tail ih => exact ⟨leads.1, fun response => ih response (leads.2 response)⟩
  | lock other tail ih => exact ih leads
  | unlock other tail ih => exact ih leads
  | signal tail ih => exact ih leads
  | await test again other tail ih => exact ⟨leads.1, leads.2.1, ih leads.2.2⟩
  | asleep test again other tail ih => exact ⟨leads.1, leads.2.1, ih leads.2.2⟩

/-- A branch leads where each side does under its condition. -/
@[simp] theorem leads_ite {condition : Prop} [Decidable condition] {post : α → Phase → Prop}
    {first second : Prog Op Resp Mutex Label α} :
    (if condition then first else second).Leads protocol post phase ↔
      (condition → first.Leads protocol post phase) ∧
        (¬condition → second.Leads protocol post phase) := by
  split <;> simp [*]

/-- Before a stop the program performs no operation but good ones. -/
@[simp] def Until (stop good : Op → Prop) : Prog Op Resp Mutex Label α → Prop
  | op operation rest =>
      ¬stop operation → good operation ∧ ∀ response, (rest response).Until stop good
  | lock _ rest | unlock _ rest | signal rest => rest.Until stop good
  | await test _ _ rest | asleep test _ _ rest =>
      ¬stop test → good test ∧ rest.Until stop good
  | done _ | jump _ => True

/-- Phases in which nothing but good operations is admitted, and that only a stop ends. -/
theorem Leads.until {inside : Phase → Prop} {stop good : Op → Prop} {post : α → Phase → Prop}
    {prog : Prog Op Resp Mutex Label α}
    (closed : ∀ phase operation, inside phase → protocol.admits phase operation →
      ¬stop operation → good operation ∧
        ∀ response, inside (protocol.after phase operation response))
    (leads : prog.Leads protocol post phase) (within : inside phase) : prog.Until stop good := by
  induction prog generalizing phase with
  | done value => trivial
  | jump label => trivial
  | op operation tail ih =>
      intro goesOn
      obtain ⟨fine, kept⟩ := closed phase operation within leads.1 goesOn
      exact ⟨fine, fun response => ih response (leads.2 response) (kept response)⟩
  | lock other tail ih => exact ih leads within
  | unlock other tail ih => exact ih leads within
  | signal tail ih => exact ih leads within
  | await test again other tail ih =>
      intro goesOn
      exact ⟨(closed phase test within leads.1 goesOn).1, ih leads.2.2 within⟩
  | asleep test again other tail ih =>
      intro goesOn
      exact ⟨(closed phase test within leads.1 goesOn).1, ih leads.2.2 within⟩

end Prog

/-! ## Steps -/

section Steps

variable [DecidableEq Tid] [DecidableEq Mutex] {protocol : Protocol Phase Op Resp Label}
  {semantics : Semantics World Stage Tid Choice Op Resp Mutex Label}
  {state next : State World Stage Tid Op Resp Mutex Label} {event : Event Tid Choice}
  {phases : Tid → Phase}

open Function (update)

/-- The threads' programs keep to the protocol from these phases on. -/
def Phased (protocol : Protocol Phase Op Resp Label)
    (state : State World Stage Tid Op Resp Mutex Label) (phases : Tid → Phase) : Prop :=
  ∀ thread, (state.code thread).Leads protocol (fun _ _ => True) (phases thread)

omit [DecidableEq Tid] [DecidableEq Mutex] in
/-- What a thread is about to perform is admitted in its phase. -/
theorem Phased.admits (phased : Phased protocol state phases) {thread : Tid} {operation : Op}
    (current : (state.code thread).current = some operation) :
    protocol.admits (phases thread) operation := by
  have leads := phased thread
  generalize state.code thread = code at current leads
  cases code with
  | op _ _ | await _ _ _ _ =>
      cases current
      exact leads.1
  | _ => cases current

/-- A step of a thread whose program goes on from a phase. -/
theorem Phased.goOn (phased : Phased protocol state phases) {thread : Tid} {choice : Choice}
    {woken : Option Tid} {phase : Phase}
    (taken : step semantics state (.act thread choice woken) = some next)
    (leads : (next.code thread).Leads protocol (fun _ _ => True) phase) :
    Phased protocol next (update phases thread phase) := by
  intro other
  by_cases same : other = thread
  · subst same
    rwa [Function.update_self]
  · rw [Function.update_of_ne same, step_code_of_ne taken]
    · exact phased other
    · rintro choice' woken' acts
      cases acts
      exact same rfl

/-- A step moves the phase of the thread that performs an operation, if one does. -/
theorem Phased.step
    (bodies : ∀ label, (semantics.body label).Leads protocol (fun _ _ => True)
      (protocol.entry label))
    (phased : Phased protocol state phases) (taken : step semantics state event = some next) :
    (event.operation state = none ∧ next.world = state.world ∧ next.stage = state.stage ∧
        Phased protocol next phases) ∨
      ∃ thread choice woken operation response,
        event = .act thread choice woken ∧ (state.code thread).current = some operation ∧
        semantics.exec thread operation choice state.world = some (next.world, response) ∧
        next.stage =
          update state.stage thread (semantics.after (state.stage thread) operation response) ∧
        Phased protocol next
          (update phases thread (protocol.after (phases thread) operation response)) := by
  cases event with
  | wake thread =>
      simp only [Machine.step, Option.ite_none_right_eq_some, Option.some.injEq] at taken
      obtain ⟨_, rfl⟩ := taken
      exact .inl ⟨rfl, rfl, rfl, phased⟩
  | act thread choice woken =>
      have leads := phased thread
      have still (leads : (next.code thread).Leads protocol (fun _ _ => True) (phases thread)) :
          Phased protocol next phases := by
        simpa using phased.goOn taken leads
      cases code : state.code thread with
      | done _ => simp [Machine.step, code] at taken
      | op operation rest =>
          obtain ⟨response, executed, after⟩ := step_op taken code
          rw [code] at leads
          refine .inr ⟨thread, choice, woken, operation, response, rfl, by rw [code]; rfl, executed,
            ?_, phased.goOn taken (after ▸ leads.2 response)⟩
          rcases step_world taken with ⟨none, _⟩ | ⟨_, _, _, _, _, _, event, performs, executed',
            _, stage⟩
          · simp [Event.operation, code, Prog.current] at none
          · cases event
            rw [code] at performs
            cases performs
            have same := executed.symm.trans executed'
            simp only [Option.some.injEq, Prod.mk.injEq] at same
            rw [stage, same.2]
      | lock mutex rest =>
          rw [code] at leads
          simp only [Machine.step, code, Option.ite_none_right_eq_some, Option.some.injEq] at taken
          obtain ⟨_, rfl⟩ := taken
          refine .inl ⟨by simp [Event.operation, code, Prog.current], rfl, rfl, still ?_⟩
          simpa [Machine.goOn] using leads
      | unlock mutex rest =>
          rw [code] at leads
          simp only [Machine.step, code, Option.some.injEq] at taken
          subst taken
          refine .inl ⟨by simp [Event.operation, code, Prog.current], rfl, rfl, still ?_⟩
          simpa [Machine.goOn] using leads
      | signal rest =>
          rw [code] at leads
          cases woken <;>
            simp only [Machine.step, code, Option.ite_none_right_eq_some, Option.some.injEq]
              at taken <;>
            obtain ⟨_, rfl⟩ := taken <;>
            exact .inl ⟨by simp [Event.operation, code, Prog.current], rfl, rfl,
              still (by simpa [Machine.goOn] using leads)⟩
      | await test again mutex rest =>
          rw [code] at leads
          have moved := taken
          simp only [Machine.step, code, Option.map_eq_some_iff] at taken
          obtain ⟨⟨world, response⟩, executed, rfl⟩ := taken
          refine .inr ⟨thread, choice, woken, test, response, rfl, by rw [code]; rfl, ?_, ?_, ?_⟩
          · by_cases sleeps : again response <;>
              simpa [sleeps, Machine.goOn, give, performed] using executed
          · by_cases sleeps : again response <;> simp [sleeps, Machine.goOn, give, performed]
          · refine phased.goOn moved ?_
            rw [leads.2.1 response]
            by_cases sleeps : again response
            · simpa [sleeps, Machine.goOn] using leads
            · simpa [sleeps, Machine.goOn] using leads.2.2
      | asleep test again mutex rest =>
          rw [code] at leads
          simp only [Machine.step, code, Option.ite_none_right_eq_some, Option.some.injEq] at taken
          obtain ⟨_, rfl⟩ := taken
          refine .inl ⟨by simp [Event.operation, code, Prog.current], rfl, rfl, still ?_⟩
          simpa [Machine.goOn] using leads
      | jump label =>
          rw [code] at leads
          simp only [Machine.step, code, Option.some.injEq] at taken
          subst taken
          refine .inl ⟨by simp [Event.operation, code, Prog.current], rfl, rfl, still ?_⟩
          have entry : phases thread = protocol.entry label := leads
          simpa [Machine.goOn, entry] using bodies label

end Steps

end KCamera.Machine
