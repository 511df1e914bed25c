import KCamera.Engine.Runs

/-!
# Runs with a memory

Some results are about what happened before: which threads were joined, which
frames were delivered, when `frame` was called last. A memory follows the
operations of a run and is read by none of them.
-/

namespace KCamera

open Machine

open Function (update)

variable {Memory : Type} {observe : Memory → System → Tid → Choice → Op → Memory}
  {condition : Memory → System → Tid → Choice → Op → Prop} {fresh : Memory}

/-- A memory notes the operations. -/
def watch (observe : Memory → System → Tid → Choice → Op → Memory) (memory : Memory)
    (state : System) : Event Tid Choice → Memory
  | .act thread choice _ =>
      ((state.code thread).current).elim memory (observe memory state thread choice)
  | .wake _ => memory

/-- The runs with a memory in which every operation meets a condition. -/
abbrev Watched (observe : Memory → System → Tid → Choice → Op → Memory)
    (condition : Memory → System → Tid → Choice → Op → Prop) (fresh : Memory) :
    System × Memory → Prop :=
  Reach (monitored (step semantics) (watch observe))
    (fun current event => performing (condition current.2) current.1 event)
    (· = (.initial, fresh))

/-- A run with a memory is a run. -/
theorem Watched.runs {current : System × Memory} (reached : Watched observe condition fresh current) :
    Runs anyOperation current.1 := by
  refine Reach.forget ?_ ?_ reached
  · rintro _ rfl
    rfl
  · intro current event admitted
    exact admitted.weaken

/-- An invariant of the world, the stages and the memory holds if it holds at
the start and every operation keeps it. -/
theorem Watched.invariant (invariant : World → (Tid → Stage) → Memory → Prop)
    (start : invariant .initial (fun _ => .idle) fresh)
    (kept : ∀ state memory thread choice operation world response,
      Turn (condition memory) state thread choice operation world response →
      invariant state.world state.stage memory →
      invariant world (update state.stage thread
        ((state.stage thread).after operation response))
        (observe memory state thread choice operation))
    {current : System × Memory} (reached : Watched observe condition fresh current) :
    invariant current.1.world current.1.stage current.2 := by
  refine Reach.invariant (fun current => invariant current.1.world current.1.stage current.2)
    ?_ ?_ reached
  · rintro _ rfl
    exact start
  · rintro ⟨state, memory⟩ event ⟨next, memory'⟩ prior holds admitted taken
    obtain ⟨taken, rfl⟩ := monitored_eq_some.mp taken
    dsimp only at holds admitted taken ⊢
    rcases Runs.turn (Watched.runs prior) admitted taken with ⟨quiet, world, stage⟩ |
      ⟨thread, choice, woken, operation, response, rfl, current, turn, stage⟩
    · have same : watch observe memory state event = memory := by
        cases event with
        | wake _ => rfl
        | act thread choice woken =>
            have quiet : (state.code thread).current = none := quiet
            simp [watch, quiet]
      rw [world, stage, same]
      exact holds
    · have current : (state.code thread).current = some operation := current
      have same : watch observe memory state (.act thread choice woken) =
          observe memory state thread choice operation := by
        simp [watch, current]
      rw [stage, same]
      exact kept _ _ _ _ _ _ _ turn holds

/-! ## Execution -/

/-- Run a list of events with a memory; `none` when one of them is not enabled
or does not pass. -/
def watchedRun (threads : List Tid) (observe : Memory → System → Tid → Choice → Op → Memory)
    (check : Memory → System → Tid → Choice → Op → Bool) :
    System × Memory → List (Event Tid Choice) → Option (System × Memory)
  | current, [] => some current
  | current, event :: rest =>
      let event := current.1.tell event
      if passes threads (check current.2) current.1 event then
        (monitored (step semantics) (watch observe) current event).bind fun next =>
          watchedRun threads observe check next rest
      else none

/-- A run with a memory that meets a condition and whose end passes a test. -/
theorem exists_watchedRun (condition : Memory → System → Tid → Choice → Op → Prop)
    {threads : List Tid} {check : Memory → System → Tid → Choice → Op → Bool}
    (sound : ∀ memory state thread choice operation, OnlyMoved threads state →
      check memory state thread choice operation → condition memory state thread choice operation)
    {events : List (Event Tid Choice)} {test : System × Memory → Bool}
    (passed : (watchedRun threads observe check (System.initial, fresh) events).any test) :
    ∃ current, Watched observe condition fresh current ∧ test current := by
  have follows : ∀ (events : List (Event Tid Choice)) (current last : System × Memory),
      Watched observe condition fresh current → OnlyMoved threads current.1 →
      watchedRun threads observe check current events = some last →
      Watched observe condition fresh last := by
    intro events
    induction events with
    | nil =>
        intro current last reached _ executed
        cases executed
        exact reached
    | cons event rest ih =>
        intro current last reached moved executed
        simp only [watchedRun, Option.ite_none_right_eq_some, Option.bind_eq_some_iff] at executed
        obtain ⟨passed, next, taken, tail⟩ := executed
        refine ih next last (.step reached ?_ taken)
          (moved.step passed (monitored_eq_some.mp taken).1) tail
        cases event with
        | wake _ => trivial
        | act thread choice woken =>
            intro operation performs
            simp only [System.tell, passes, performs, Option.all_some, Bool.and_eq_true] at passed
            exact ⟨fun _ => rfl, sound _ _ _ _ _ moved passed.2⟩
  cases executed : watchedRun threads observe check (System.initial, fresh) events with
  | none => simp [executed] at passed
  | some last =>
      exact ⟨last, follows events _ last (.start rfl) (fun _ _ => rfl) executed,
        by simpa [executed] using passed⟩

end KCamera
