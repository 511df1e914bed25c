import KCamera.Engine.Facts
import KCamera.Engine.Watch

/-!
# Joins

`kcStopInternal` joins `m_thread`. Whether that is a thread that can be joined
depends on the starts and stops before; the code consults `m_stopping` only.
-/

namespace KCamera

open Machine

open Function (update)

/-- What is remembered of starts and joins. -/
structure Joins where
  /-- A thread was created since the last stop that joins. -/
  due : Bool := false
  joined : List Nat := []

/-- The starts and joins of a run. -/
def Joins.observe (joins : Joins) (state : System) (_ : Tid) (choice : Choice) : Op → Joins
  | .createThread => { joins with due := joins.due || choice.spawns }
  | .stopCameraLoop true => { joins with due := false }
  | .join => { joins with joined := state.world.g.thread.toList ++ joins.joined }
  | _ => joins

/-- Where `m_thread` is joined it was created and not yet joined. -/
def JoinsOnce (current : System × Joins) : Prop :=
  ∀ thread, (current.1.code thread).current = some .join → ∃ index,
    current.1.world.g.thread = some index ∧ index < current.1.world.spawned ∧
      index ∉ current.2.joined

/-- Between two stops that join, a thread is created; so it is before the first. -/
def StartsBetween (joins : Joins) (_ : System) (_ : Tid) (_ : Choice) (operation : Op) : Prop :=
  operation = .stopCameraLoop true → joins.due

instance startsBetweenDecidable (joins : Joins) (state : System) (thread : Tid) (choice : Choice)
    (operation : Op) : Decidable (StartsBetween joins state thread choice operation) :=
  inferInstanceAs (Decidable (operation = .stopCameraLoop true → joins.due))

/-- `m_thread` was created and is not joined. -/
def Joinable (world : World) (joins : Joins) : Prop :=
  ∃ index, world.g.thread = some index ∧ index < world.spawned ∧ index ∉ joins.joined

/-- On the way from `kcStopCameraLoop` to `pthread_join`. -/
def Switch.joining : Switch → Bool
  | halting join | stopping join _ => join
  | _ => false

/-- A thread can be joined when it is due and when it is about to be. -/
structure Accounted (world : World) (stages : Tid → Stage) (joins : Joins) : Prop where
  due : joins.due → Joinable world joins
  joining : ∀ thread, (stages thread).switch.joining → joins.due = false ∧ Joinable world joins
  joined : ∀ index ∈ joins.joined, index < world.spawned

section

variable {joins : Joins} {state : System} {thread : Tid} {choice : Choice} {operation : Op}
  {world : World} {response : operation.Resp}

/-- A thread stays joinable while `m_thread` does. -/
theorem Joinable.kept {next : World} (joinable : Joinable state.world joins)
    (thread : next.g.thread = state.world.g.thread)
    (spawned : state.world.spawned ≤ next.spawned) : Joinable next joins := by
  obtain ⟨index, last, created, fresh⟩ := joinable
  exact ⟨index, by rw [thread, last], Nat.lt_of_lt_of_le created spawned, fresh⟩

/-- One thread starts or stops the camera. -/
theorem Accounted.switched {next : World} {joins' : Joins} {stage : Stage}
    (accounted : Accounted state.world state.stage joins)
    (alone : ∀ other ≠ thread, (state.stage other).switch = .none)
    (due : joins'.due → Joinable next joins')
    (own : stage.switch.joining → joins'.due = false ∧ Joinable next joins')
    (joined : ∀ index ∈ joins'.joined, index ∈ joins.joined ∨ state.world.g.thread = some index ∧
      Joinable state.world joins)
    (spawned : state.world.spawned ≤ next.spawned) :
    Accounted next (update state.stage thread stage) joins' where
  due := due
  joining other switching := by
    by_cases same : other = thread
    · subst same
      exact own (by simpa using switching)
    · rw [Function.update_of_ne same, alone other same] at switching
      cases switching
  joined index member := by
    rcases joined index member with before | ⟨last, index', last', created, _⟩
    · exact Nat.lt_of_lt_of_le (accounted.joined index before) spawned
    · have same : index' = index := Option.some.inj (last'.symm.trans last)
      exact Nat.lt_of_lt_of_le (same ▸ created) spawned

/-- Every operation keeps the account. -/
theorem Accounted.step
    (turn : Turn (StartsBetween joins) state thread choice operation world response)
    (accounted : Accounted state.world state.stage joins) :
    Accounted world (update state.stage thread ((state.stage thread).after operation response))
      (joins.observe state thread choice operation) := by
  have allowed := turn.allowed
  by_cases switches : operation.switches
  · have alone : ∀ other ≠ thread, (state.stage other).switch = .none :=
      fun _ different => turn.unswitched switches different
    have later : state.world.spawned ≤ world.spawned := by
      rcases (Op.run_threads turn.executed).spawned with same | ⟨_, _, more⟩ <;> omega
    have kept : operation ≠ .createThread → Joinable state.world joins → Joinable world joins := by
      intro other joinable
      rcases (Op.run_threads turn.executed).last with same | ⟨starts, _, _⟩
      · exact joinable.kept same later
      · exact absurd starts other
    cases operation with
    | createThread =>
        have value := result_eq turn.executed
        cases spawns : choice.spawns with
        | false =>
            simp only [World.createThread, spawns] at value
            refine accounted.switched alone ?_ (by simp [Switch.joining]) ?_ later
            · intro due
              have due : joins.due := by simpa [Joins.observe, spawns] using due
              exact (accounted.due due).kept (by rw [value]; rfl) later
            · exact fun index member => .inl member
        | true =>
            simp only [World.createThread, spawns] at value
            refine accounted.switched alone ?_ (by simp [Switch.joining]) ?_ later
            · intro _
              refine ⟨state.world.spawned, by rw [value]; rfl, by simp [value], ?_⟩
              exact fun member => Nat.lt_irrefl _ (accounted.joined _ member)
            · exact fun index member => .inl member
    | stopCameraLoop join =>
        cases join with
        | false =>
            exact accounted.switched alone (fun due => kept (by simp) (accounted.due due))
              (by simp [Switch.joining]) (fun index member => .inl member) later
        | true =>
            have joinable := kept (by simp) (accounted.due (turn.admitted rfl))
            exact accounted.switched alone (by simp [Joins.observe]) (fun _ => ⟨rfl, joinable⟩)
              (fun index member => .inl member) later
    | clearRun join signal =>
        refine accounted.switched alone (fun due => kept (by simp) (accounted.due due)) ?_
          (fun index member => .inl member) later
        intro joining
        have before : (state.stage thread).switch.joining := by
          simpa [allowed.2.1, Switch.joining] using joining
        exact (accounted.joining thread before).imp_right (kept (by simp))
    | dropFrame =>
        refine accounted.switched alone (fun due => kept (by simp) (accounted.due due)) ?_
          (fun index member => .inl member) later
        intro joining
        obtain ⟨join, stopping⟩ := allowed
        have before : (state.stage thread).switch.joining := by
          simpa [stopping, Switch.joining] using joining
        exact (accounted.joining thread before).imp_right (kept (by simp))
    | join =>
        obtain ⟨_, stopping, _⟩ := allowed
        obtain ⟨undue, joinable⟩ :=
          accounted.joining thread (by simp [stopping, Switch.joining])
        refine accounted.switched alone ?_ (by simp [Switch.joining]) ?_ later
        · intro due
          have due : joins.due := due
          simp [undue] at due
        · intro index member
          simp only [Joins.observe, List.mem_append, Option.mem_toList] at member
          exact member.symm.imp_right fun last => ⟨last, joinable⟩
    | awaitStopped | resetState | setStopping =>
        exact accounted.switched alone (fun due => kept (by simp) (accounted.due due))
          (by simp [Switch.joining]) (fun index member => .inl member) later
    | _ => cases switches
  · have quiet : operation.switches = false := by simpa using switches
    have same : joins.observe state thread choice operation = joins := by
      cases operation with
      | createThread | stopCameraLoop join | join => cases quiet
      | _ => rfl
    have thread' : world.g.thread = state.world.g.thread := by
      rcases (Op.run_threads turn.executed).last with same | ⟨rfl, _⟩
      · exact same
      · cases quiet
    have spawned : state.world.spawned ≤ world.spawned := by
      rcases (Op.run_threads turn.executed).spawned with same | ⟨_, _, more⟩ <;> omega
    rw [same]
    refine ⟨fun due => (accounted.due due).kept thread' spawned, ?_, ?_⟩
    · intro other joining
      have before : (state.stage other).switch.joining := by
        by_cases moved : other = thread
        · subst moved
          rwa [Function.update_self, turn.switch_kept quiet] at joining
        · rwa [Function.update_of_ne moved] at joining
      exact (accounted.joining other before).imp_right fun joinable => joinable.kept thread' spawned
    · intro index member
      exact Nat.lt_of_lt_of_le (accounted.joined index member) spawned

end

/-- At first there is no thread to join. -/
theorem accounted_initial : Accounted .initial (fun _ => .idle) {} where
  due due := by cases due
  joining _ joining := by cases joining
  joined _ member := by cases member

/-- In runs that start the camera between two stops that join, every join is of a
thread that was created and not yet joined. -/
theorem joinsOnce_of_startsBetween (current : System × Joins)
    (reached : Watched Joins.observe StartsBetween {} current) : JoinsOnce current := by
  have accounted : Accounted current.1.world current.1.stage current.2 := by
    refine Watched.invariant Accounted accounted_initial ?_ reached
    intro state joins thread choice operation world response turn accounted
    exact accounted.step turn
  intro thread joins
  obtain ⟨_, stopping, _⟩ :=
    (reached.runs.disciplined.follows thread).allowed semantics discipline _ joins
  exact (accounted.joining thread (by simp [stopping, Switch.joining])).2

/-- A Camera, a recording, and the end of the Camera as far as its join. -/
def oneStop : List (Event Tid Choice) :=
  calls (.newCamera someParams) 25 ++ calls (.record someParams) 20 ++ calls .deleteCamera 10

/-- A run that starts, stops and comes to join its only video thread. -/
theorem joinsOnce_of_startsBetween_oneStop : ∃ current,
    Watched Joins.observe StartsBetween {} current ∧ JoinsOnce current ∧
      (current.1.code (.python 0)).current = some .join := by
  have passed : (watchedRun [.python 0] Joins.observe
      (fun joins state thread choice operation => StartsBetween joins state thread choice operation)
      (System.initial, {}) oneStop).any
      (fun current => (current.1.code (.python 0)).current = some .join) := by
    decide +kernel
  obtain ⟨current, reached, joins⟩ := exists_watchedRun StartsBetween
    (fun _ _ _ _ _ _ check => of_decide_eq_true check) passed
  exact ⟨current, reached, joinsOnce_of_startsBetween current reached, of_decide_eq_true joins⟩

/-- Without a condition. -/
def anyJoins : Joins → System → Tid → Choice → Op → Prop := fun _ _ _ _ _ => True

/-- The end of a Camera that was never started joins what was never created. -/
theorem joinsOnce_lost_to_unstarted :
    ¬∀ current, Watched Joins.observe anyJoins {} current → JoinsOnce current := by
  intro claim
  have passed : (watchedRun [.python 0] Joins.observe (fun _ _ _ _ _ => true)
      (System.initial, {}) (calls (.newCamera someParams) 25 ++ calls .deleteCamera 10)).any
      (fun current => (current.1.code (.python 0)).current = some .join ∧
        current.1.world.g.thread = none) := by
    decide +kernel
  obtain ⟨current, reached, test⟩ := exists_watchedRun anyJoins (fun _ _ _ _ _ _ _ => trivial) passed
  obtain ⟨joins, none⟩ := of_decide_eq_true test
  obtain ⟨index, last, _⟩ := claim current reached (.python 0) joins
  simp [none] at last

end KCamera
