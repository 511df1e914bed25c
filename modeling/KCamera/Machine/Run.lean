/-!
# Runs of a labelled machine

A machine is a partial step function: an event that is not enabled has no
successor. `Reach` collects the states that runs reach when every step
satisfies a side condition on the state before it and the event.
-/

namespace KCamera.Machine

variable {State Event : Type}

/-- The states reached from `initial` by steps that `allowed` admits. -/
inductive Reach (step : State → Event → Option State) (allowed : State → Event → Prop)
    (initial : State → Prop) : State → Prop where
  | start {state : State} (valid : initial state) : Reach step allowed initial state
  | step {state next : State} {event : Event} (prior : Reach step allowed initial state)
      (admitted : allowed state event) (taken : step state event = some next) :
      Reach step allowed initial next

/-- The side condition that admits every step. -/
def unrestricted : State → Event → Prop := fun _ _ => True

namespace Reach

variable {step : State → Event → Option State} {allowed allowed' : State → Event → Prop}
  {initial : State → Prop}

/-- A property that holds initially and is kept by every admitted step holds of
every reached state. -/
theorem invariant (property : State → Prop) (base : ∀ state, initial state → property state)
    (kept : ∀ state event next, Reach step allowed initial state → property state →
      allowed state event → step state event = some next → property next)
    {state : State} (reached : Reach step allowed initial state) : property state := by
  induction reached with
  | start valid => exact base _ valid
  | step prior admitted taken ih => exact kept _ _ _ prior ih admitted taken

/-- A weaker side condition reaches at least as many states. -/
theorem mono (weaker : ∀ state event, allowed state event → allowed' state event)
    {state : State} (reached : Reach step allowed initial state) :
    Reach step allowed' initial state := by
  induction reached with
  | start valid => exact .start valid
  | step _ admitted taken ih => exact .step ih (weaker _ _ admitted) taken

/-- A run that goes on from where another ended. -/
theorem trans {middle last : State} (reached : Reach step allowed initial middle)
    (later : Reach step allowed (· = middle) last) : Reach step allowed initial last := by
  induction later with
  | start same => exact same ▸ reached
  | step _ admitted taken ih => exact .step ih admitted taken

end Reach

/-- The machine with a memory of its steps. -/
def monitored {Memory : Type} (step : State → Event → Option State)
    (observe : Memory → State → Event → Memory) :
    State × Memory → Event → Option (State × Memory)
  | (state, memory), event => (step state event).map fun next => (next, observe memory state event)

/-- A step of the monitored machine is one of the machine. -/
theorem monitored_eq_some {Memory : Type} {step : State → Event → Option State}
    {observe : Memory → State → Event → Memory} {current next : State × Memory} {event : Event} :
    monitored step observe current event = some next ↔
      step current.1 event = some next.1 ∧ next.2 = observe current.2 current.1 event := by
  obtain ⟨state, memory⟩ := current
  obtain ⟨after, memory'⟩ := next
  simp only [monitored, Option.map_eq_some_iff, Prod.mk.injEq]
  constructor
  · rintro ⟨_, taken, rfl, rfl⟩
    exact ⟨taken, rfl⟩
  · rintro ⟨taken, rfl⟩
    exact ⟨_, taken, rfl, rfl⟩

/-- Without its memory a monitored run is a run. -/
theorem Reach.forget {Memory : Type} {step : State → Event → Option State}
    {observe : Memory → State → Event → Memory} {watched : State × Memory → Event → Prop}
    {allowed : State → Event → Prop} {initial : State × Memory → Prop} {initial' : State → Prop}
    (start : ∀ current, initial current → initial' current.1)
    (admits : ∀ current event, watched current event → allowed current.1 event)
    {current : State × Memory} (reached : Reach (monitored step observe) watched initial current) :
    Reach step allowed initial' current.1 := by
  induction reached with
  | start valid => exact .start (start _ valid)
  | step _ admitted taken ih => exact .step ih (admits _ _ admitted) (monitored_eq_some.mp taken).1

/-- Run a list of events; `none` when one of them is not enabled. -/
def run (step : State → Event → Option State) : State → List Event → Option State
  | state, [] => some state
  | state, event :: rest => (step state event).bind fun next => run step next rest

/-- A run of two lists of events is one run after the other. -/
theorem run_append (step : State → Event → Option State) (state : State)
    (first second : List Event) :
    run step state (first ++ second) =
      (run step state first).bind fun middle => run step middle second := by
  induction first generalizing state with
  | nil => rfl
  | cons event rest ih =>
      rw [List.cons_append, run, run, Option.bind_assoc]
      exact congrArg _ (funext fun next => ih next)

/-- A run that can be executed can be executed up to any moment. -/
theorem run_initially {step : State → Event → Option State} {state : State}
    {taken events : List Event} (executed : (run step state events).isSome)
    (initial : taken <+: events) : ∃ middle, run step state taken = some middle := by
  obtain ⟨rest, rfl⟩ := initial
  rw [run_append] at executed
  obtain ⟨last, whole⟩ := Option.isSome_iff_exists.mp executed
  obtain ⟨middle, before, -⟩ := Option.bind_eq_some_iff.mp whole
  exact ⟨middle, before⟩

/-- An executed run of admitted events reaches its last state. -/
theorem reach_run_of_allowed {step : State → Event → Option State}
    {allowed : State → Event → Prop} {initial : State → Prop} {state last : State}
    {events : List Event} (each : ∀ event ∈ events, ∀ state, allowed state event)
    (reached : Reach step allowed initial state) (executed : run step state events = some last) :
    Reach step allowed initial last := by
  induction events generalizing state with
  | nil =>
      cases executed
      exact reached
  | cons event rest ih =>
      obtain ⟨next, taken, tail⟩ := Option.bind_eq_some_iff.mp executed
      have admitted := each event (List.mem_cons_self ..) state
      exact ih (fun other member => each other (List.mem_cons_of_mem _ member))
        (.step reached admitted taken) tail

/-- An executed run reaches its last state. -/
theorem reach_run {step : State → Event → Option State} {initial : State → Prop}
    {state last : State} {events : List Event}
    (reached : Reach step unrestricted initial state)
    (executed : run step state events = some last) : Reach step unrestricted initial last :=
  reach_run_of_allowed (fun _ _ _ => trivial) reached executed

/-- A run whose events pass a test where they occur. -/
def passingRun (step : State → Event → Option State) (test : State → Event → Bool) :
    State → List Event → Option State
  | state, [] => some state
  | state, event :: rest =>
      if test state event then (step state event).bind fun next => passingRun step test next rest
      else none

/-- A run whose events pass a computable test is a run of the condition. -/
theorem reach_passingRun {step : State → Event → Option State} {test : State → Event → Bool}
    {allowed : State → Event → Prop} {initial : State → Prop} {state last : State}
    {events : List Event} (sound : ∀ state event, test state event → allowed state event)
    (reached : Reach step allowed initial state)
    (executed : passingRun step test state events = some last) : Reach step allowed initial last := by
  induction events generalizing state with
  | nil =>
      cases executed
      exact reached
  | cons event rest ih =>
      rw [passingRun] at executed
      split at executed
      · rename_i passed
        obtain ⟨next, taken, behind⟩ := Option.bind_eq_some_iff.mp executed
        exact ih (reached.step (sound state event passed) taken) behind
      · cases executed

/-- A run that passes ends in a reached state that passes a last test. -/
theorem exists_passingRun {step : State → Event → Option State} {test : State → Event → Bool}
    {allowed : State → Event → Prop} {initial : State → Prop} {state : State}
    {events : List Event} {final : State → Bool}
    (reached : Reach step allowed initial state)
    (sound : ∀ state event, test state event → allowed state event)
    (passed : (passingRun step test state events).any final) :
    ∃ last, Reach step allowed initial last ∧ final last := by
  cases executed : passingRun step test state events with
  | none => simp [executed] at passed
  | some last =>
      exact ⟨last, reach_passingRun sound reached executed, by simpa [executed] using passed⟩

end KCamera.Machine
