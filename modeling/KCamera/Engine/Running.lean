import KCamera.Engine.Facts
import KCamera.Engine.Marks

/-!
# A record is attached while the camera runs

`m_run` is set as long as a record is attached, except inside the functions that
stop and start the camera and between `kcStartRecord` and the `kcStart` behind it.
Who waits for a frame of a recording is outside of these.
-/

namespace KCamera

open Machine

open Function (update)

/-- The thread is to set `m_run` or to detach the record before anyone waits. -/
def Stage.suspends (stage : Stage) : Prop :=
  stage.restarting ∨ (∃ join, stage.switch = .stopping join true) ∨
    ∃ list, stage.binding = some (list, false)

/-- A record is attached only while the camera runs or a thread suspends it. -/
def Running (world : World) (stages : Tid → Stage) : Prop :=
  world.g.record.isSome → world.g.run ∨ ∃ thread, (stages thread).suspends

variable {condition : System → Tid → Choice → Op → Prop} {state : System} {thread : Tid}
  {choice : Choice} {operation : Op} {world : World} {response : operation.Resp}

/-- Who has stopped the camera in order to start it again has the interpreter lock. -/
theorem restarting_calling (reached : Runs condition state) (thread : Tid)
    (restarting : (state.stage thread).restarting) :
    (state.stage thread).calling.isSome ∧ (state.stage thread).released = false := by
  refine Runs.each (fun _ _ stage => stage.restarting → stage.calling.isSome ∧
    stage.released = false) ?_ ?_ ?_ reached thread restarting
  · intro thread restarting
    cases restarting
  · intro state thread choice operation world response turn calling
    have allowed := turn.allowed
    intro restarting
    by_cases moves : Mark.restarting ∈ operation.marks
    · cases operation with
      | clearRun join signal =>
          obtain ⟨_, _, python, video⟩ := allowed
          have restarts : signal = false := by simpa using restarting
          by_cases interpreter : thread.isPython
          · obtain ⟨⟨request, called, _⟩, released⟩ := python interpreter
            exact ⟨by simp [called], released⟩
          · simp [video interpreter] at restarts
      | resetState => cases restarting
      | _ => simp [Op.marks] at moves
    · have shares : (state.stage thread).Shares _ .restarting := turn.shares moves
      have before : (state.stage thread).restarting := shares ▸ restarting
      by_cases calls : Mark.calling ∈ operation.marks
      · cases operation with
        | nextCall =>
            obtain ⟨_, idle, _⟩ := allowed
            simp [idle, Stage.idle] at before
        | endCall request reply =>
            obtain ⟨_, _, _, _, _, _, _, _, settled, _⟩ := allowed
            simp [settled] at before
        | setTimer =>
            obtain ⟨_, _, _, _, _, _, settled⟩ := allowed
            simp [settled] at before
        | _ => simp [Op.marks] at calls
      · have same : (state.stage thread).Shares _ .calling := turn.shares calls
        obtain ⟨called, released⟩ := calling thread before
        exact ⟨same.1 ▸ called, same.2.trans released⟩
  · intro state thread choice operation world response _ calling other _
    exact calling other

/-- Only `kcStart` ends what `kcStartRecord` leaves open. -/
theorem Turn.binding_kept (turn : Turn condition state thread choice operation world response)
    (starts : operation ≠ .resetState) {other : Tid} {list : ListId}
    (binding : (state.stage other).binding = some (list, false)) :
    (update state.stage thread ((state.stage thread).after operation response) other).binding =
      some (list, false) := by
  by_cases touched : Mark.binding ∈ operation.marks
  · have allowed := turn.allowed
    by_cases same : other = thread
    · subst same
      cases operation with
      | allocRecord =>
          obtain ⟨_, _, _, _, _, unbound, _⟩ := allowed
          simp [unbound] at binding
      | newStreamer origin =>
          obtain ⟨_, _, _, _, bound⟩ := allowed
          cases origin <;> simp [binding] at bound
      | resetState => exact absurd rfl starts
      | _ => simp [Op.marks] at touched
    · rwa [Function.update_of_ne same]
  · have shares : (state.stage other).Shares _ .binding := turn.shares_update touched other
    exact Eq.trans shares binding

/-- A thread goes on to suspend the record until it sets `m_run` or detaches it. -/
theorem Turn.suspends_kept (turn : Turn condition state thread choice operation world response)
    (starts : operation ≠ .resetState) (drops : operation ≠ .dropFrame) {other : Tid}
    (suspends : (state.stage other).suspends) :
    (update state.stage thread ((state.stage thread).after operation response) other).suspends := by
  have allowed := turn.allowed
  by_cases same : other = thread
  · subst same
    rw [Function.update_self]
    rcases suspends with restarting | ⟨join, stopping⟩ | ⟨list, binding⟩
    · by_cases moves : Mark.restarting ∈ operation.marks
      · cases operation with
        | clearRun join signal =>
            cases signal with
            | false => exact .inl rfl
            | true => exact .inr (.inl ⟨join, rfl⟩)
        | resetState => exact absurd rfl starts
        | _ => simp [Op.marks] at moves
      · have shares : (state.stage other).Shares _ .restarting := turn.shares moves
        exact .inl (Eq.trans shares restarting)
    · by_cases moves : Mark.switch ∈ operation.marks
      · cases operation with
        | awaitStopped => simp [allowed.2.2.2.2] at stopping
        | createThread => simp [allowed.2.2.2.1] at stopping
        | dropFrame => exact absurd rfl drops
        | join => simp [allowed.2.1] at stopping
        | setStopping => simp [allowed.2.1] at stopping
        | resetState => exact absurd rfl starts
        | stopCameraLoop join => simp [allowed.2.1] at stopping
        | clearRun join signal => simp [allowed.2.1] at stopping
        | _ => simp [Op.marks] at moves
      · have shares : (state.stage other).Shares _ .switch := turn.shares moves
        exact .inr (.inl ⟨join, Eq.trans shares stopping⟩)
    · have kept := turn.binding_kept starts binding
      rw [Function.update_self] at kept
      exact .inr (.inr ⟨list, kept⟩)
  · rwa [Function.update_of_ne same]

/-- One operation attaches a record only where the camera runs or is to run. -/
theorem Running.step (turn : Turn condition state thread choice operation world response)
    (running : Running state.world state.stage) :
    Running world (update state.stage thread ((state.stage thread).after operation response)) := by
  intro attached
  by_cases records : operation = .allocRecord
  · subst records
    exact .inr ⟨thread, .inr (.inr ⟨_, by rw [Function.update_self]; rfl⟩)⟩
  · have before : state.world.g.record.isSome := by
      rcases Op.run_record turn.executed records with same | none
      · rwa [same] at attached
      · simp [none] at attached
    have drops : operation ≠ .dropFrame := by
      rintro rfl
      rw [result_eq turn.executed] at attached
      simp [World.dropFrame] at attached
    rcases (Op.run_threads turn.executed).run with same | ⟨_, run⟩ | ⟨⟨join, signal, rfl⟩, _⟩
    · by_cases starts : operation = .resetState
      · subst starts
        exact .inl (by rw [result_eq turn.executed]; rfl)
      · rcases running before with run | ⟨other, suspends⟩
        · exact .inl (same.trans run)
        · exact .inr ⟨other, turn.suspends_kept starts drops suspends⟩
    · exact .inl run
    · refine .inr ⟨thread, ?_⟩
      rw [Function.update_self]
      cases signal with
      | false => exact .inl rfl
      | true => exact .inr (.inl ⟨join, rfl⟩)

/-- In every run, a record is attached only while the camera runs or a thread
suspends it. -/
theorem running (reached : Runs condition state) : Running state.world state.stage := by
  refine Runs.invariant Running ?_ (fun _ _ _ _ _ _ turn running => running.step turn) reached
  intro attached
  simp [World.initial] at attached

/-- To a thread that has the interpreter lock and `m_frameMutex`, and suspends no
record itself, the camera runs while a record is attached. -/
theorem run_of_attached (reached : Runs condition state) (gil : .gil ∈ state.held thread)
    (frame : .frame ∈ state.held thread) (outside : ¬(state.stage thread).suspends)
    (attached : state.world.g.record.isSome) : state.world.g.run := by
  have disciplined := reached.disciplined
  rcases running reached attached with run | ⟨other, suspends⟩
  · exact run
  · have same : other = thread := by
      rcases suspends with restarting | ⟨join, stopping⟩ | ⟨list, binding⟩
      · obtain ⟨calling, released⟩ := restarting_calling reached other restarting
        have held := disciplined.promised other .gil (.inl ⟨calling, by simp [released]⟩)
        exact disciplined.toLocked.exclusive held gil
      · have held := disciplined.promised other .frame (.inr (.inr ⟨join, stopping⟩))
        exact disciplined.toLocked.exclusive held frame
      · have held := disciplined.promised other .gil (by simp [discipline, binding])
        exact disciplined.toLocked.exclusive held gil
    exact absurd (same ▸ suspends) outside

end KCamera
