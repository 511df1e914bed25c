import KCamera.Camera.Join
import KCamera.Engine.Marks
import KCamera.Machine.Waiting

/-!
# Deadlocks

All threads take the mutexes in one order, in which `pthread_join` comes after
`m_paramsMutex` and before the others. A video thread that stops itself takes
`m_paramsMutex`; if it does so while it is joined, it and the thread that joins it
wait for each other.
-/

namespace KCamera

open Machine

open Function (update)

/-- A thread waits for another, which owns the mutex that it wants or which it
joins. -/
inductive System.WaitsFor (state : System) (thread : Tid) : Tid → Prop where
  | mutex {mutex : Mutex} {other : Tid} (wants : Wants state thread mutex)
      (owned : state.owner mutex = some other) : WaitsFor state thread other
  | join {index : Nat} (joins : (state.code thread).current = some .join)
      (last : state.world.g.thread = some index) (running : state.world.exited index = false) :
      WaitsFor state thread (.video index)

/-- No threads wait for each other. -/
def System.DeadlockFree (state : System) : Prop :=
  ∀ threads : Set Tid, ¬Entangled state.WaitsFor threads

/-- `kcFrameData` decides to stop the camera. -/
def World.stopsItself (world : World) (capture : Capture) (choice : Choice) : Bool :=
  match (world.beginFrame capture choice.now choice.allocates).2 with
  | .idle | .outOfMemory _ => true
  | _ => false

/-- A stop that joins begins when the video thread has not decided to stop the
camera itself, and until it has joined the video thread does not so decide. -/
def StopsApart (state : System) (thread : Tid) (choice : Choice) : Op → Prop
  | .stopCameraLoop true => ∀ index, state.world.g.thread = some index →
      (state.stage (.video index)).selfStop = false
  | .beginFrame capture => state.world.stopsItself capture choice →
      state.world.g.thread = some thread.index → ∀ other,
        (state.stage other).switch.joining = false
  | _ => True

/-- The thread that is joined, or about to be, does not stop the camera itself. -/
def Apart (world : World) (stages : Tid → Stage) : Prop :=
  ∀ other index, (stages other).switch.joining → world.g.thread = some index →
    (stages (.video index)).selfStop = false

section

variable {condition : System → Tid → Choice → Op → Prop} {state : System} {thread : Tid}
  {choice : Choice} {operation : Op} {world : World} {response : operation.Resp}

/-- Only `kcFrameData` decides to stop the camera. -/
theorem Turn.selfStop (turn : Turn condition state thread choice operation world response)
    (stops : ((state.stage thread).after operation response).selfStop = true) :
    (state.stage thread).selfStop = true ∨
      ∃ capture, operation = .beginFrame capture ∧ state.world.stopsItself capture choice := by
  have executed := turn.executed
  by_cases moves : Mark.selfStop ∈ operation.marks
  · cases operation with
    | readStopping =>
        simp only [Stage.after] at stops
        split at stops
        · cases stops
        · exact .inl stops
    | beginFrame capture =>
        have answer : (state.world.beginFrame capture choice.now choice.allocates).2 = response :=
          congrArg Prod.snd (Option.some.inj executed)
        cases response with
        | idle | outOfMemory record =>
            refine .inr ⟨capture, rfl, ?_⟩
            unfold World.stopsItself
            rw [answer]
        | _ => exact .inl stops
    | stopCameraLoop join => cases stops
    | endCall request reply => cases stops
    | _ => simp [Op.marks] at moves
  · have same : ((state.stage thread).after operation response).selfStop =
        (state.stage thread).selfStop := turn.shares moves
    exact .inl (same ▸ stops)

/-- A thread that has not decided to stop the camera decides so only in
`kcFrameData`. -/
theorem Turn.selfStop_update (turn : Turn condition state thread choice operation world response)
    {other : Tid} (before : (state.stage other).selfStop = false)
    (stays : ∀ capture, other = thread → operation = .beginFrame capture →
      state.world.stopsItself capture choice = false) :
    (update state.stage thread ((state.stage thread).after operation response)
      other).selfStop = false := by
  by_cases same : other = thread
  · subst same
    rw [Function.update_self]
    by_contra stops
    rcases turn.selfStop (by simpa using stops) with did | ⟨capture, performs, decides⟩
    · rw [before] at did
      cases did
    · rw [stays capture rfl performs] at decides
      cases decides
  · rw [Function.update_of_ne same]
    exact before

/-- Each operation keeps the video thread that is joined from stopping itself. -/
theorem Apart.step (turn : Turn StopsApart state thread choice operation world response)
    (apart : Apart state.world state.stage) :
    Apart world (update state.stage thread ((state.stage thread).after operation response)) := by
  intro other index joining last
  by_cases switches : operation.switches
  · -- Only the thread itself can be joining.
    have own : other = thread := by
      by_contra different
      rw [Function.update_of_ne different, turn.unswitched switches different] at joining
      cases joining
    subst own
    rw [Function.update_self] at joining
    have kept : operation ≠ .createThread → state.world.g.thread = some index := by
      intro starts
      rcases (Op.run_threads turn.executed).last with same | ⟨starts', -⟩
      · rw [← same, last]
      · exact absurd starts' starts
    refine turn.selfStop_update ?_ ?_
    · cases operation with
      | stopCameraLoop join =>
          cases join with
          | true => exact turn.admitted index (kept (by simp))
          | false => cases joining
      | clearRun join signal =>
          refine apart other index ?_ (kept (by simp))
          rw [turn.allowed.2.1]
          exact joining
      | dropFrame =>
          obtain ⟨join, stopping⟩ := turn.allowed
          refine apart other index ?_ (kept (by simp))
          rw [stopping]
          simpa [stopping, Switch.joining] using joining
      | awaitStopped | resetState | createThread | join | setStopping => cases joining
      | _ => cases switches
    · intro capture _ performs
      subst performs
      cases switches
  · have quiet : operation.switches = false := by simpa using switches
    rw [turn.switch_update quiet other] at joining
    have same : world.g.thread = state.world.g.thread := by
      rcases (Op.run_threads turn.executed).last with same | ⟨rfl, -⟩
      · exact same
      · cases quiet
    rw [same] at last
    refine turn.selfStop_update (apart other index joining last) ?_
    rintro capture rfl rfl
    by_contra decides
    have settled := turn.admitted (by simpa using decides) last other
    rw [settled] at joining
    cases joining

/-- In runs with stops apart, no thread that stops itself is joined. -/
theorem apart (reached : Runs StopsApart state) : Apart state.world state.stage := by
  refine Runs.invariant Apart ?_ (fun _ _ _ _ _ _ turn apart => apart.step turn) reached
  intro other index joining
  cases joining

end

/-! ## Heights -/

/-- The mutex that a thread is to lock next. -/
def Code.wanted : Code Unit → Option Mutex
  | .lock mutex _ | .asleep _ _ mutex _ => some mutex
  | _ => none

/-- How high a thread waits. -/
def Code.height (code : Code Unit) : Nat :=
  if code.current = some .join then joinRank else code.wanted.elim 0 Mutex.rank

/-- The mutex of the controls is the highest. -/
theorem Mutex.rank_le (mutex : Mutex) : mutex.rank ≤ 4 := by
  cases mutex <;> simp [Mutex.rank]

/-- No thread waits higher than for the mutex of the controls. -/
theorem Code.height_le (code : Code Unit) : code.height ≤ 4 := by
  unfold height
  split
  · decide
  · cases code.wanted with
    | none => exact Nat.zero_le _
    | some mutex => exact mutex.rank_le

/-- A thread waits as high as the mutex that it wants. -/
theorem height_of_wants {state : System} {thread : Tid} {mutex : Mutex}
    (wants : Wants state thread mutex) : Code.height (state.code thread) = mutex.rank := by
  cases wants with
  | lock code =>
      rw [code]
      rfl
  | wake code woken =>
      rw [code]
      rfl

/-- A joining thread waits for its video thread. -/
theorem height_of_join {state : System} {thread : Tid}
    (joins : (state.code thread).current = some .join) :
    Code.height (state.code thread) = joinRank :=
  if_pos joins

/-- An awake thread wants the mutex that it is to lock next. -/
theorem wants_of_wanted {state : System} {thread : Tid} {mutex : Mutex}
    (wanted : Code.wanted (state.code thread) = some mutex) (awake : thread ∉ state.sleeping) :
    Wants state thread mutex := by
  cases code : state.code thread with
  | lock mutex' rest =>
      simp only [code, Code.wanted, Option.some.injEq] at wanted
      subst wanted
      exact .lock code
  | asleep test again mutex' rest =>
      simp only [code, Code.wanted, Option.some.injEq] at wanted
      subst wanted
      exact .wake code awake
  | _ => simp [code, Code.wanted] at wanted

/-- A thread that joins is past `kcStopCameraLoop`. -/
theorem joining_of_join {state : System} {thread : Tid}
    (disciplined : Disciplined semantics discipline state)
    (joins : (state.code thread).current = some .join) :
    thread.isPython ∧ (state.stage thread).switch.joining ∧
      ∀ mutex ∈ state.held thread, mutex.rank < joinRank := by
  obtain ⟨python, stopping, below⟩ :=
    (disciplined.follows thread).allowed semantics discipline thread joins
  exact ⟨python, by rw [stopping]; rfl, below⟩

/-- In runs whose stops are apart no threads wait for each other. -/
theorem deadlockFree_of_stopsApart (state : System) (reached : Runs StopsApart state) :
    state.DeadlockFree := by
  have disciplined := reached.disciplined
  have settled := apart reached
  refine not_entangled (fun thread => Code.height (state.code thread))
    (fun thread => Code.height_le _) ?_
  intro thread other last waits waits'
  -- What the other thread holds is below what it waits for.
  have above : ∀ mutex ∈ state.held other, mutex.rank < Code.height (state.code other) := by
    intro mutex held
    cases waits' with
    | mutex wants owned =>
        rw [height_of_wants wants]
        exact (disciplined.mayLock wants).1 mutex held
    | join joins last running =>
        rw [height_of_join joins]
        exact (joining_of_join disciplined joins).2.2 mutex held
  cases waits with
  | mutex wants owned =>
      have held := (disciplined.owner _ other).mp owned
      have rise := above _ held
      rw [← height_of_wants wants] at rise
      exact rise
  | join joins last running =>
      have calm := settled thread _ (joining_of_join disciplined joins).2.1 last
      change Code.height (state.code thread) < _
      rw [height_of_join joins]
      cases waits' with
      | mutex wants owned =>
          obtain ⟨-, gil, params⟩ := disciplined.mayLock wants
          rw [height_of_wants wants]
          rename_i mutex
          cases mutex with
          | gil => simp at gil
          | params => simp [calm] at params
          | frame | record list | controls => simp [Mutex.rank, joinRank]
      | join joins' last' running' =>
          have python := (joining_of_join disciplined joins').1
          cases python

/-- A check of `StopsApart` that no run is needed for: no thread stops the camera
itself. -/
def stopsApartCheck (state : System) (_ : Tid) (choice : Choice) : Op → Bool
  | .stopCameraLoop true =>
      state.world.g.thread.all fun index => !(state.stage (.video index)).selfStop
  | .beginFrame capture => !state.world.stopsItself capture choice
  | _ => true

/-- What the computable test of the run admits keeps stops apart. -/
theorem stopsApart_of_check {state : System} {thread : Tid} {choice : Choice} {operation : Op}
    (check : stopsApartCheck state thread choice operation) :
    StopsApart state thread choice operation := by
  cases operation with
  | stopCameraLoop join =>
      cases join with
      | false => trivial
      | true =>
          intro index last
          simpa [stopsApartCheck, last] using check
  | beginFrame capture =>
      intro decides
      simp [stopsApartCheck, decides] at check
  | _ => trivial

/-- The end of a Camera whose frames are still coming. -/
theorem deadlockFree_of_stopsApart_oneStop : ∃ state, Runs StopsApart state ∧
    state.DeadlockFree ∧ state.WaitsFor (.python 0) (.video 0) := by
  have passed : (checkedRun [.python 0, .video 0] stopsApartCheck System.initial
      (calls (.newCamera someParams) 25 ++ calls (.record someParams) 20 ++
        turns (.video 0) 40 {} ++ calls .deleteCamera 10)).any
      (fun state => (state.code (.python 0)).current = some .join ∧
        state.world.g.thread = some 0 ∧ state.world.exited 0 = false) := by
    decide +kernel
  obtain ⟨state, reached, test⟩ := exists_checkedRun StopsApart
    (fun _ _ _ _ _ check => stopsApart_of_check check) passed
  obtain ⟨joins, last, running⟩ := of_decide_eq_true test
  exact ⟨state, reached, deadlockFree_of_stopsApart state reached, .join joins last running⟩

/-- A reader waits for a frame, the video thread finds the camera idle, and before
it stops the camera another of Python's threads does. -/
def idleStopBesideStop : List (Event Tid Choice) :=
  turns (.python 0) 25 { request := some (.newCamera someParams), now := 1000000 } ++
    turns (.python 0) 9 { request := some (.stream someParams), now := 1000000 } ++
    turns (.python 0) 17 { request := some (.frame 0 false), now := 1000000 } ++
    turns (.video 0) 29 { now := 1000000 } ++ turns (.video 0) 3 { now := 7000000 } ++
    turns (.python 1) 9 { request := some (.stop 0), now := 7000000 } ++
    [.act (.python 1) {} (some (.python 0))] ++ turns (.python 1) 2 {}

/-- A stop and the video thread's own stop wait for each other. -/
theorem deadlockFree_lost_to_idle : ¬∀ state, Runs anyOperation state → state.DeadlockFree := by
  intro claim
  have passed : (run System.step System.initial idleStopBesideStop).any (fun state =>
      ((state.code (.python 1)).current = some .join ∧ state.world.g.thread = some 0 ∧
        state.world.exited 0 = false) ∧
      (Code.wanted (state.code (.video 0)) = some .params ∧ .video 0 ∉ state.sleeping) ∧
      state.owner .params = some (.python 1)) := by
    decide +kernel
  obtain ⟨state, reached, test⟩ := exists_run passed
  obtain ⟨⟨joins, last, running⟩, ⟨wanted, awake⟩, owned⟩ := of_decide_eq_true test
  refine claim state reached {.python 1, .video 0} ⟨⟨.python 1, by simp⟩, ?_⟩
  rintro thread (rfl | rfl)
  · exact ⟨.video 0, by simp, .join joins last running⟩
  · exact ⟨.python 1, by simp, .mutex (wants_of_wanted wanted awake) owned⟩

end KCamera
