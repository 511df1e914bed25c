import KCamera.Engine.Obeys

/-!
# Runs of the module

How properties of all runs are proved, operation by operation, and how
particular runs are executed.
-/

namespace KCamera

open Machine

open Function (update)

variable {condition : System → Tid → Choice → Op → Prop}

/-- A step under a condition is a step. -/
theorem performing.weaken {state : System} {event : Event Tid Choice}
    (admitted : performing condition state event) : performing anyOperation state event := by
  cases event with
  | wake thread => trivial
  | act thread choice woken =>
      intro operation current
      exact ⟨(admitted operation current).1, trivial⟩

/-- A run under a condition is a run. -/
theorem Runs.weaken {state : System} (reached : Runs condition state) : Runs anyOperation state :=
  reached.mono fun _ _ admitted => admitted.weaken

/-- The states that a run goes on to from `state`. -/
abbrev Later (condition : System → Tid → Choice → Op → Prop) (state : System) : System → Prop :=
  Reach (step semantics) (performing condition) (· = state)

/-- Every state of every run is disciplined. -/
theorem Runs.disciplined {state : System} (reached : Runs condition state) :
    Disciplined semantics discipline state :=
  Reach.disciplined bodies initial_disciplined reached

/-- `thread` performs an operation in a state of a run. -/
structure Turn (condition : System → Tid → Choice → Op → Prop) (state : System) (thread : Tid)
    (choice : Choice) (operation : Op) (world : World) (response : operation.Resp) : Prop where
  reached : Runs anyOperation state
  running : state.world.fault = none
  current : (state.code thread).current = some operation
  admitted : condition state thread choice operation
  told : operation = .initMutexes → choice.inUse = state.inUse
  executed : operation.run thread choice state.world = some (world, response)

section Turn

variable {state : System} {thread : Tid} {choice : Choice} {operation : Op} {world : World}
  {response : operation.Resp}

/-- A step with an operation performs it, unless it changes nothing. -/
theorem performs_of_step {state next : System} {thread : Tid} {choice : Choice}
    {woken : Option Tid} {operation : Op}
    (taken : step semantics state (.act thread choice woken) = some next)
    (current : (state.code thread).current = some operation) :
    next.world = state.world ∨
      ∃ response, operation.run thread choice state.world = some (next.world, response) := by
  rcases step_world taken with ⟨_, same, _⟩ | ⟨_, _, _, _, world, response, event, performs, executed,
    world', _⟩
  · exact .inl same
  · cases event
    rw [current, Option.some.injEq] at performs
    subst performs
    have executed : operation.exec thread choice state.world = some (world, response) := executed
    unfold Op.exec at executed
    split at executed
    · cases executed
    · exact .inr ⟨response, by rw [world', executed]⟩

/-- A step of a run performs an operation, or leaves the world and all stages alone. -/
theorem Runs.turn {condition' : System → Tid → Choice → Op → Prop} {state next : System}
    {event : Event Tid Choice} (reached : Runs condition' state)
    (admitted : performing condition state event) (taken : step semantics state event = some next) :
    (event.operation state = none ∧ next.world = state.world ∧ next.stage = state.stage) ∨
      ∃ thread choice woken operation response,
        event = .act thread choice woken ∧ event.operation state = some operation ∧
        Turn condition state thread choice operation next.world response ∧
        next.stage = update state.stage thread
          ((state.stage thread).after operation response) := by
  rcases step_world taken with quiet |
    ⟨thread, choice, woken, operation, world, response, rfl, current, executed, rfl, stage⟩
  · exact .inl quiet
  · have executed : operation.exec thread choice state.world = some (next.world, response) :=
      executed
    unfold Op.exec at executed
    split at executed
    · cases executed
    · rename_i running
      exact .inr ⟨thread, choice, woken, operation, response, rfl, current,
        ⟨reached.weaken, by simpa using running, current, (admitted _ current).2,
          (admitted _ current).1, executed⟩, stage⟩

/-- A turn starts in a disciplined state. -/
theorem Turn.disciplined (turn : Turn condition state thread choice operation world response) :
    Disciplined semantics discipline state :=
  turn.reached.disciplined

/-- What a thread performs its stage allows. -/
theorem Turn.allowed (turn : Turn condition state thread choice operation world response) :
    (state.stage thread).allows thread (state.held thread) operation :=
  (turn.disciplined.follows thread).allowed semantics discipline thread turn.current

/-- Where nothing is undefined, `kcInit` initialises mutexes that nobody holds and a
condition variable that nobody sleeps on. -/
theorem Turn.initMutexes_idle {response : Op.Resp .initMutexes}
    (turn : Turn condition state thread choice .initMutexes world response)
    (sound : world.fault = none) :
    state.owner .frame = none ∧ state.owner .params = none ∧ state.sleeping = [] := by
  have executed := turn.executed
  simp only [Op.run, turn.told rfl, Option.some.injEq, Prod.mk.injEq, and_true] at executed
  have idle : state.inUse = false := by
    by_contra busy
    rw [if_pos (by simpa using busy)] at executed
    simp [← executed, World.fail] at sound
  simpa [System.inUse, and_assoc] using idle

/-- A thread whose stage promises a mutex has it. -/
theorem Turn.promised (turn : Turn condition state thread choice operation world response)
    {other : Tid} (mutex : Mutex) (holds : (state.stage other).holds mutex) :
    mutex ∈ state.held other :=
  turn.disciplined.promised other mutex holds

/-- Two stages that promise one mutex, or a stage and a thread that has it, are
of one thread. -/
theorem Turn.exclusive (turn : Turn condition state thread choice operation world response)
    {first second : Tid} {mutex : Mutex} (held : mutex ∈ state.held first)
    (also : mutex ∈ state.held second) : first = second :=
  turn.disciplined.toLocked.exclusive held also

end Turn

/-- An invariant of the world and the stages holds in all that a run goes on to
if it holds there and every operation keeps it. -/
theorem Later.invariant (invariant : World → (Tid → Stage) → Prop) {state : System}
    (reached : Runs anyOperation state) (start : invariant state.world state.stage)
    (kept : ∀ state thread choice operation world response,
      Turn condition state thread choice operation world response →
      invariant state.world state.stage →
      invariant world (update state.stage thread
        ((state.stage thread).after operation response)))
    {later : System} (run : Later condition state later) : invariant later.world later.stage := by
  refine Reach.invariant (fun state => invariant state.world state.stage) ?_ ?_ run
  · rintro _ rfl
    exact start
  · intro middle event next prior holds admitted taken
    have weaker : Later anyOperation state middle :=
      prior.mono fun _ _ admitted => admitted.weaken
    rcases Runs.turn (reached.trans weaker) admitted taken with ⟨_, world, stage⟩ |
      ⟨thread, choice, woken, operation, response, _, _, turn, stage⟩
    · rw [world, stage]
      exact holds
    · rw [stage]
      exact kept _ _ _ _ _ _ turn holds

/-- An invariant of the world and the stages holds in every run if it holds at
the start and every operation keeps it. -/
theorem Runs.invariant (invariant : World → (Tid → Stage) → Prop)
    (start : invariant .initial fun _ => .idle)
    (kept : ∀ state thread choice operation world response,
      Turn condition state thread choice operation world response →
      invariant state.world state.stage →
      invariant world (update state.stage thread
        ((state.stage thread).after operation response)))
    {state : System} (reached : Runs condition state) : invariant state.world state.stage :=
  Later.invariant invariant (.start rfl) start kept reached

/-- An invariant that speaks of one stage at a time is kept if the thread that
moves keeps it for itself and for every other thread. -/
theorem Runs.each (invariant : World → Tid → Stage → Prop)
    (start : ∀ thread, invariant .initial thread .idle)
    (own : ∀ state thread choice operation world response,
      Turn condition state thread choice operation world response →
      (∀ thread, invariant state.world thread (state.stage thread)) →
      invariant world thread ((state.stage thread).after operation response))
    (others : ∀ state thread choice operation world response,
      Turn condition state thread choice operation world response →
      (∀ thread, invariant state.world thread (state.stage thread)) →
      ∀ other, other ≠ thread → invariant world other (state.stage other))
    {state : System} (reached : Runs condition state) (thread : Tid) :
    invariant state.world thread (state.stage thread) := by
  refine Runs.invariant (fun world stage => ∀ thread, invariant world thread (stage thread)) start
    ?_ reached thread
  intro state thread choice operation world response turn holds other
  by_cases same : other = thread
  · subst same
    simpa using own _ _ _ _ _ _ turn holds
  · simpa [same] using others _ _ _ _ _ _ turn holds other same

/-! ## Execution -/

/-- `count` instructions of a thread with the same answers throughout. -/
def turns (thread : Tid) (count : Nat) (choice : Choice) : List (Event Tid Choice) :=
  List.replicate count (.act thread choice none)

/-- The parameters of a new Camera. -/
def someParams : KcParams := kcInitParams default

/-- The instructions of a call of Python's thread, or the first of them. -/
def calls (request : Request) (count : Nat) : List (Event Tid Choice) :=
  turns (.python 0) count { request := some request }

/-- The event with what `kcInit` is to be told. -/
def System.tell (state : System) : Event Tid Choice → Event Tid Choice
  | .act thread choice woken => .act thread { choice with inUse := state.inUse } woken
  | .wake thread => .wake thread

/-- One step of an execution. -/
def System.step (state : System) (event : Event Tid Choice) : Option System :=
  Machine.step semantics state (state.tell event)

/-- An execution tells `kcInit` the truth. -/
theorem System.tell_performing (state : System) (event : Event Tid Choice) :
    performing anyOperation state (state.tell event) := by
  cases event with
  | wake thread => trivial
  | act thread choice woken =>
      intro operation _
      exact ⟨fun _ => rfl, trivial⟩

/-- An executed run is a run. -/
theorem runs_of_run {events : List (Event Tid Choice)} {state last : System}
    (reached : Runs anyOperation state) (executed : run System.step state events = some last) :
    Runs anyOperation last := by
  induction events generalizing state with
  | nil =>
      cases executed
      exact reached
  | cons event rest ih =>
      obtain ⟨next, taken, tail⟩ := Option.bind_eq_some_iff.mp executed
      exact ih (.step reached (state.tell_performing event) taken) tail

/-- An event of one of `threads` whose operation passes a check. -/
def passes (threads : List Tid) (check : System → Tid → Choice → Op → Bool) (state : System) :
    Event Tid Choice → Bool
  | .act thread choice _ =>
      thread ∈ threads && (state.code thread).current.all (check state thread choice)
  | .wake thread => thread ∈ threads

/-- Run a list of events; `none` when one of them is not enabled or does not pass. -/
def checkedRun (threads : List Tid) (check : System → Tid → Choice → Op → Bool) :
    System → List (Event Tid Choice) → Option System
  | state, [] => some state
  | state, event :: rest =>
      if passes threads check state (state.tell event) then
        (state.step event).bind fun next => checkedRun threads check next rest
      else none

/-- The other threads have not moved. -/
def OnlyMoved (threads : List Tid) (state : System) : Prop :=
  ∀ thread ∉ threads, state.stage thread = .idle

/-- A step of one of the threads that were listed. -/
theorem OnlyMoved.step {threads : List Tid} {check : System → Tid → Choice → Op → Bool}
    {state next : System} {event : Event Tid Choice} (moved : OnlyMoved threads state)
    (passed : passes threads check state event) (taken : step semantics state event = some next) :
    OnlyMoved threads next := by
  intro other outside
  rcases step_world taken with ⟨_, _, stage⟩ | ⟨thread, _, _, _, _, _, rfl, _, _, _, stage⟩
  · rw [stage]
    exact moved other outside
  · have different : other ≠ thread := by
      rintro rfl
      simp [passes, outside] at passed
    rw [stage, Function.update_of_ne different]
    exact moved other outside

/-- A checked run meets a condition that the check implies. -/
theorem runs_of_checkedRun {threads : List Tid} {check : System → Tid → Choice → Op → Bool}
    (sound : ∀ state thread choice operation, OnlyMoved threads state →
      check state thread choice operation → condition state thread choice operation)
    {state last : System} {events : List (Event Tid Choice)} (reached : Runs condition state)
    (moved : OnlyMoved threads state)
    (executed : checkedRun threads check state events = some last) : Runs condition last := by
  induction events generalizing state with
  | nil =>
      cases executed
      exact reached
  | cons event rest ih =>
      simp only [checkedRun, Option.ite_none_right_eq_some, Option.bind_eq_some_iff] at executed
      obtain ⟨passed, next, taken, tail⟩ := executed
      refine ih (.step reached ?_ taken) (moved.step passed taken) tail
      cases event with
      | wake _ => trivial
      | act thread choice woken =>
          intro operation current
          simp only [System.tell, passes, current, Option.all_some, Bool.and_eq_true] at passed
          exact ⟨fun _ => rfl, sound _ _ _ _ moved passed.2⟩

/-- A run whose last state passes a test. -/
theorem exists_run {events : List (Event Tid Choice)} {test : System → Bool}
    (passed : (run System.step System.initial events).any test) :
    ∃ state, Runs anyOperation state ∧ test state := by
  cases executed : run System.step System.initial events with
  | none => simp [executed] at passed
  | some last => exact ⟨last, runs_of_run (.start rfl) executed, by simpa [executed] using passed⟩

/-- A run that meets a condition and whose last state passes a test. -/
theorem exists_checkedRun (condition : System → Tid → Choice → Op → Prop) {threads : List Tid}
    {check : System → Tid → Choice → Op → Bool}
    (sound : ∀ state thread choice operation, OnlyMoved threads state →
      check state thread choice operation → condition state thread choice operation)
    {events : List (Event Tid Choice)} {test : System → Bool}
    (passed : (checkedRun threads check System.initial events).any test) :
    ∃ state, Runs condition state ∧ test state := by
  cases executed : checkedRun threads check System.initial events with
  | none => simp [executed] at passed
  | some last =>
      exact ⟨last, runs_of_checkedRun sound (.start rfl) (fun _ _ => rfl) executed,
        by simpa [executed] using passed⟩

end KCamera
