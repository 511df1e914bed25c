import KCamera.Engine.Facts

/-!
# Stop requests

`kcStopInternal` asks the video thread to end by clearing `run`, and the video
thread sets `run` itself when it starts up. A request is kept if no thread that
was created before it has still to start up.
-/

namespace KCamera

open Machine

open Function (update)

/-- No thread is created. -/
def NoStart (_ : System) (_ : Tid) (_ : Choice) (operation : Op) : Prop :=
  operation ≠ .createThread

/-- Until a thread is created `run` is cleared, and every test of it ends an event loop. -/
structure StopKept (stopped : System) : Prop where
  run : ∀ later, Later NoStart stopped later → later.world.run = false
  leaves : ∀ later, Later NoStart stopped later → ∀ thread choice world answer,
    Op.readLoop.run thread choice later.world = some (world, answer) → answer = false

/-- What `kcStopInternal` asks for by `kcStopCameraLoop` is kept. -/
def KeepsStops (condition : System → Tid → Choice → Op → Prop) (state : System) : Prop :=
  ∀ event stopped join, performing condition state event →
    step semantics state event = some stopped →
    event.operation state = some (.stopCameraLoop join) → StopKept stopped

/-- `kcStopCameraLoop` is called when every thread that was created has set `run`. -/
def StartedUp (state : System) (_ : Tid) (_ : Choice) (operation : Op) : Prop :=
  ∀ join, operation = .stopCameraLoop join →
    ∀ index < state.world.spawned, (state.stage (.video index)).set

instance startedUpDecidable (state : System) (thread : Tid) (choice : Choice) (operation : Op) :
    Decidable (StartedUp state thread choice operation) :=
  inferInstanceAs (Decidable (∀ join : Bool, operation = .stopCameraLoop join →
    ∀ index < state.world.spawned, (state.stage (.video index)).set))

/-- `run` is cleared and no thread is left to set it. -/
structure Settled (created : Nat) (world : World) (stages : Tid → Stage) : Prop where
  run : world.run = false
  spawned : world.spawned = created
  set : ∀ index < created, (stages (.video index)).set

/-- A settled stop stays so until a thread is created. -/
theorem Settled.step {condition : System → Tid → Choice → Op → Prop} {state : System}
    {thread : Tid} {choice : Choice} {operation : Op} {world : World} {response : operation.Resp}
    {created : Nat} (turn : Turn condition state thread choice operation world response)
    (settled : Settled created state.world state.stage) (idle : operation ≠ .createThread) :
    Settled created world
      (update state.stage thread ((state.stage thread).after operation response)) where
  run := by
    rcases (Op.run_threads turn.executed).loop with same | ⟨rfl, _⟩ | ⟨_, cleared⟩
    · rw [same]
      exact settled.run
    · obtain ⟨video, begun, unset⟩ := turn.allowed
      cases thread with
      | python index => exact absurd rfl video
      | video index =>
          have before := (life turn.reached index).created (by simp [begun])
          have set := settled.set index (settled.spawned ▸ before)
          rw [set] at unset
          cases unset
    · exact cleared
  spawned := by
    rcases (Op.run_threads turn.executed).spawned with same | ⟨starts, _, _⟩
    · rw [same]
      exact settled.spawned
    · exact absurd starts idle
  set index before := turn.set_kept (settled.set index before)

/-- In runs that stop the camera only when its threads have started up, no stop
request is lost. -/
theorem keepsStops_of_startedUp (state : System) (reached : Runs StartedUp state) :
    KeepsStops StartedUp state := by
  intro event stopped join admitted taken stops
  have later : Runs StartedUp stopped := .step reached admitted taken
  have settled : Settled stopped.world.spawned stopped.world stopped.stage := by
    rcases Runs.turn reached admitted taken with ⟨quiet, _⟩ |
      ⟨thread, choice, woken, operation, response, _, performs, turn, stage⟩
    · rw [quiet] at stops
      cases stops
    · rw [performs, Option.some.injEq] at stops
      subst stops
      have value := result_eq turn.executed
      have spawned : stopped.world.spawned = state.world.spawned := by rw [value]
      refine ⟨by rw [value], rfl, ?_⟩
      intro index created
      rw [stage]
      exact turn.set_kept (turn.admitted join rfl index (spawned ▸ created))
  have kept : ∀ after, Later NoStart stopped after → after.world.run = false := by
    intro after run
    have settled := Later.invariant (Settled stopped.world.spawned) later.weaken settled
      (fun _ _ _ _ _ _ turn settled => settled.step turn turn.admitted) run
    exact settled.run
  refine ⟨kept, ?_⟩
  intro after run thread choice world answer executed
  cases executed
  exact kept after run

/-- A run in which `stop()` comes to clear `run` after the start-up. -/
theorem keepsStops_of_startedUp_stop : ∃ state, Runs StartedUp state ∧ KeepsStops StartedUp state ∧
    ((state.code (.python 0)).current = some (.stopCameraLoop true) ∧ state.world.run) := by
  have passed : (checkedRun [.python 0, .video 0]
      (fun state thread choice operation => StartedUp state thread choice operation)
      System.initial (calls (.newCamera someParams) 25 ++ calls (.record someParams) 20 ++
        turns (.video 0) 3 {} ++ calls .deleteCamera 4)).any
      (fun state => (state.code (.python 0)).current = some (.stopCameraLoop true) ∧
        state.world.run) := by
    decide +kernel
  obtain ⟨state, reached, stops⟩ := exists_checkedRun StartedUp
    (fun _ _ _ _ _ check => of_decide_eq_true check) passed
  exact ⟨state, reached, keepsStops_of_startedUp state reached, of_decide_eq_true stops⟩

/-- A thread that starts up after the request sets `run` again. -/
theorem keepsStops_lost_to_startUp :
    ¬∀ state, Runs anyOperation state → KeepsStops anyOperation state := by
  intro claim
  have passed : (run System.step System.initial
      (calls (.newCamera someParams) 25 ++ calls (.record someParams) 20 ++ turns (.video 0) 2 {} ++
        calls .deleteCamera 4)).any (fun state =>
      (state.code (.python 0)).current = some (.stopCameraLoop true) ∧
        (step semantics state (.act (.python 0) {} none)).any fun stopped =>
          (stopped.code (.video 0)).current = some .setRun ∧
            (step semantics stopped (.act (.video 0) {} none)).any fun later => later.world.run) := by
    decide +kernel
  obtain ⟨state, reached, test⟩ := exists_run passed
  obtain ⟨stops, test⟩ := of_decide_eq_true test
  obtain ⟨stopped, taken, test⟩ := (Option.any_eq_true _ _).mp test
  obtain ⟨starts, test⟩ := of_decide_eq_true test
  obtain ⟨later, sets, set⟩ := (Option.any_eq_true _ _).mp test
  have admitted : performing anyOperation state (.act (.python 0) {} none) := by
    intro operation current
    rw [stops] at current
    cases current
    exact ⟨by simp, trivial⟩
  have kept := claim state reached _ stopped true admitted taken stops
  have run : Later NoStart stopped later := by
    refine .step (.start rfl) ?_ sets
    intro operation current
    rw [starts] at current
    cases current
    simp [NoStart]
  simp [kept.run later run] at set

end KCamera
