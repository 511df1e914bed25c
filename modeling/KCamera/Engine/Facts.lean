import KCamera.Engine.Lists
import KCamera.Engine.Runs

/-!
# Facts of every run

What holds in all runs, whatever the calls and the schedule: which video threads
there are, which lists there are, and what an interpreter's thread knows while it
has the interpreter lock.
-/

namespace KCamera

open Machine

open Function (update)

variable {condition : System → Tid → Choice → Op → Prop} {state : System} {thread : Tid}
  {choice : Choice} {operation : Op} {world : World} {response : operation.Resp}

/-! ## The interpreter lock -/

/-- An operation of a thread that has the interpreter lock, while another's stage
promises it, is of that other thread. -/
theorem Turn.sole (turn : Turn condition state thread choice operation world response)
    (gil : .gil ∈ state.held thread) {other : Tid} (holds : (state.stage other).holds .gil) :
    other = thread :=
  turn.exclusive (turn.promised .gil holds) gil

/-- The thread was told that there is no record, and there is none. -/
def KnowsNone (world : World) (stage : Stage) : Prop :=
  world.fault = none → stage.seen = some none → world.g.record = none

/-- While no record is attached only `kcStartRecord` attaches one. -/
theorem KnowsNone.kept (turn : Turn condition state thread choice operation world response)
    {stage : Stage} (knows : KnowsNone state.world stage) (starts : operation ≠ .allocRecord) :
    KnowsNone world stage := by
  intro _ seen
  have none := knows turn.running seen
  rcases Op.run_record turn.executed starts with same | detached
  · rw [same, none]
  · exact detached

/-- A thread's own step keeps what it knows of the missing record. -/
theorem KnowsNone.own (turn : Turn condition state thread choice operation world response)
    (knows : KnowsNone state.world (state.stage thread)) :
    KnowsNone world ((state.stage thread).after operation response) := by
  have executed := turn.executed
  by_cases starts : operation = .allocRecord
  · subst starts
    intro _ seen
    simp at seen
  · have kept := knows.kept turn starts
    intro sound seen
    cases operation with
    | allocRecord => exact absurd rfl starts
    | getRecord =>
        cases executed
        simpa using seen
    | stopRecord =>
        rw [result_eq executed] at sound ⊢
        simp only [World.stopRecord] at sound ⊢
        split
        · assumption
        · rename_i list attached
          rw [attached] at sound
          dsimp only at sound
          split
          · rename_i freed
            simp [freed, World.fail] at sound
          · exact World.detach_record _
    | newStreamer origin | setTimer | endCall request reply => simp [Stage.idle] at seen
    | readStopping | hasRecord | lastRecordFrame | nextRecordFrame list | construct =>
        refine kept sound ?_
        simp only [Stage.after] at seen
        split at seen <;> exact seen
    | dropFrame =>
        refine kept sound ?_
        simp only [Stage.after] at seen
        split at seen <;> exact seen
    | beginFrame capture =>
        refine kept sound ?_
        cases response <;> exact seen
    | _ => exact kept sound seen

/-- In every run, who was told that there is no record is right. -/
theorem knowsNone (reached : Runs condition state) (thread : Tid) :
    KnowsNone state.world (state.stage thread) := by
  refine Runs.each (fun world _ stage => KnowsNone world stage) ?_ ?_ ?_ reached thread
  · intro thread _ seen
    simp [Stage.idle] at seen
  · intro state thread choice operation world response turn knows
    exact (knows thread).own turn
  · intro state thread choice operation world response turn knows other different
    by_cases starts : operation = .allocRecord
    · subst starts
      intro _ seen
      exact absurd (turn.sole turn.allowed.2.1 (by simp [seen])) different
    · exact (knows other).kept turn starts

/-! ## Identities -/

/-- Identities that were not given out belong to nothing. -/
structure Numbered (world : World) : Prop where
  lists : ∀ list, world.nextList ≤ list → world.lists list = none
  record : ∀ list, world.g.record = some list → list < world.nextList

/-- One operation uses up identities in order. -/
theorem Numbered.step (turn : Turn condition state thread choice operation world response)
    (numbered : Numbered state.world) : Numbered world where
  lists list beyond := by
    have later : state.world.nextList ≤ world.nextList := by
      rcases Op.run_nextList turn.executed with same | ⟨next, _⟩ <;> omega
    have absent := numbered.lists list (by omega)
    rcases Op.run_lists turn.executed list with
      same | ⟨before, _, _⟩ | ⟨_, freed⟩ | ⟨starts, rfl, found, _⟩ | ⟨rfl, rfl, _⟩
    · rw [same, absent]
    · simp [absent] at before
    · exact freed
    · subst starts
      rw [result_eq turn.executed] at beyond
      simp [World.allocRecord, found] at beyond
    · rw [result_eq turn.executed] at beyond
      simp [World.newLoader] at beyond
  record list attached := by
    by_cases starts : operation = .allocRecord
    · subst starts
      rw [result_eq turn.executed] at attached ⊢
      unfold World.allocRecord at attached ⊢
      split at attached
      · exact numbered.record list attached
      · cases attached
        simp
    · have later : state.world.nextList ≤ world.nextList := by
        rcases Op.run_nextList turn.executed with same | ⟨next, _⟩ <;> omega
      rcases Op.run_record turn.executed starts with same | detached
      · exact Nat.lt_of_lt_of_le (numbered.record list (same ▸ attached)) later
      · simp [detached] at attached

/-- In every run, identities that were not given out belong to nothing. -/
theorem numbered (reached : Runs condition state) : Numbered state.world := by
  refine Runs.invariant (fun world _ => Numbered world) ?_
    (fun _ _ _ _ _ _ turn numbered => numbered.step turn) reached
  exact ⟨fun _ _ => rfl, fun _ attached => by simp [World.initial] at attached⟩

/-! ## Video threads -/

/-- The operations that move the life of a video thread on. -/
def Op.moves : Op → Bool
  | .begin | .setRun | .construct | .publishApp | .useApp | .takeCapture | .readLoop | .stopped
  | .clearApp | .destruct | .exit | .endCall _ _ => true
  | _ => false

/-- The life of a video thread. -/
def Stage.life (stage : Stage) : Phase × Bool × Bool × Bool :=
  (stage.phase, stage.set, stage.left, stage.threw)

/-- Few operations move a video thread on in its life. -/
theorem Stage.after_life (stage : Stage) (operation : Op) (response : operation.Resp)
    (quiet : operation.moves = false) : (stage.after operation response).life = stage.life := by
  cases operation with
  | readStopping | hasRecord | lastRecordFrame | nextRecordFrame list =>
      simp only [Stage.after]
      split <;> rfl
  | dropFrame =>
      simp only [Stage.after]
      split <;> rfl
  | beginFrame capture => cases response <;> rfl
  | begin | setRun | construct | publishApp | useApp | takeCapture | readLoop | stopped
  | clearApp | destruct | exit | endCall request reply => cases quiet
  | _ => rfl

/-- What the life of a video thread says about it. -/
structure Life (world : World) (index : Nat) (stage : Stage) : Prop where
  created : stage.phase ≠ .unborn → index < world.spawned
  exited : world.exited index = true ↔ stage.phase = .exited
  unset : stage.phase = .unborn → stage.set = false ∧ stage.left = false ∧ stage.threw = false
  thrown : stage.threw → stage.set
  set : stage.phase ≠ .unborn → stage.phase ≠ .begun → stage.set
  ended : stage.phase = .stopped ∨ stage.phase = .cleared ∨ stage.phase = .destroyed ∨
    stage.phase = .exited → stage.left ∨ stage.threw

/-- What others do leaves a video thread's life. -/
theorem Life.kept {index : Nat} {stage stage' : Stage} {next : World}
    (life : Life world index stage) (same : stage'.life = stage.life)
    (spawned : world.spawned ≤ next.spawned) (exited : next.exited index = world.exited index) :
    Life next index stage' := by
  simp only [Stage.life, Prod.mk.injEq] at same
  obtain ⟨phase, set, left, threw⟩ := same
  constructor
  · rw [phase]
    exact fun born => Nat.lt_of_lt_of_le (life.created born) spawned
  · rw [phase, exited]
    exact life.exited
  · rw [phase, set, left, threw]
    exact life.unset
  · rw [set, threw]
    exact life.thrown
  · rw [phase, set]
    exact life.set
  · rw [phase, left, threw]
    exact life.ended

/-- A thread past `kcStartCameraLoop`'s first line has set `run`. -/
theorem Life.going {index : Nat} {stage : Stage} (life : Life world index stage)
    (born : stage.phase ≠ .unborn) (begun : stage.phase ≠ .begun) :
    index < world.spawned ∧ stage.set :=
  ⟨life.created born, life.set born begun⟩

/-- A video thread's own step moves it on as the world says. -/
theorem Life.own {index : Nat}
    (turn : Turn condition state (.video index) choice operation world response)
    (life : Life state.world index (state.stage (.video index))) :
    Life world index ((state.stage (.video index)).after operation response) := by
  have allowed := turn.allowed
  have executed := turn.executed
  have terminated := life.exited
  by_cases moves : operation.moves
  · have created : operation ≠ .begin → (state.stage (.video index)).phase ≠ .unborn →
        index < state.world.spawned := fun _ born => life.created born
    cases operation with
    | begin =>
        obtain ⟨_, unborn⟩ := allowed
        simp only [Op.run] at executed
        split at executed
        · rename_i born
          cases executed
          obtain ⟨unset, unleft, unthrown⟩ := life.unset unborn
          constructor <;> simp_all [Tid.index]
        · cases executed
    | setRun =>
        obtain ⟨_, begun, _⟩ := allowed
        cases executed
        have born := life.created (by simp [begun])
        constructor <;> simp_all
    | construct =>
        obtain ⟨_, begun, set, _⟩ := allowed
        cases executed
        have born := life.created (by simp [begun])
        cases choice.throws <;> constructor <;> simp_all
    | publishApp =>
        obtain ⟨_, constructed⟩ := allowed
        obtain ⟨born, set⟩ := life.going (by simp [constructed]) (by simp [constructed])
        cases executed
        constructor <;> simp_all
    | useApp | takeCapture =>
        have published := allowed.2.1
        obtain ⟨born, set⟩ := life.going (by simp [published]) (by simp [published])
        obtain ⟨_, _, _, _, _, spawned, exited⟩ : Agree state.world world .threads :=
          Op.run_agree executed (by simp [Op.touches])
        constructor <;> simp_all
    | readLoop | stopped =>
        have published := allowed.2.1
        obtain ⟨born, set⟩ := life.going (by simp [published]) (by simp [published])
        cases executed
        constructor <;> simp_all
    | clearApp =>
        obtain ⟨_, stopped⟩ := allowed
        obtain ⟨born, set⟩ := life.going (by simp [stopped]) (by simp [stopped])
        have ended := life.ended (.inl stopped)
        cases executed
        constructor <;> simp_all
    | destruct =>
        obtain ⟨_, finished⟩ := allowed
        cases executed
        rcases finished with ⟨published, threw⟩ | cleared
        · obtain ⟨born, set⟩ := life.going (by simp [published]) (by simp [published])
          constructor <;> simp_all
        · obtain ⟨born, set⟩ := life.going (by simp [cleared]) (by simp [cleared])
          have ended := life.ended (.inr (.inl cleared))
          constructor <;> simp_all
    | exit =>
        obtain ⟨_, finished⟩ := allowed
        cases executed
        rcases finished with ⟨begun, threw⟩ | destroyed
        · have born := life.created (by simp [begun])
          have set := life.thrown threw
          constructor <;> simp_all [Tid.index]
        · obtain ⟨born, set⟩ := life.going (by simp [destroyed]) (by simp [destroyed])
          have ended := life.ended (.inr (.inr (.inl destroyed)))
          constructor <;> simp_all [Tid.index]
    | endCall request reply => simp at allowed
    | _ => cases moves
  · refine life.kept (Stage.after_life _ _ _ (by simpa using moves)) ?_ ?_
    · rcases (Op.run_threads executed).spawned with same | ⟨_, _, more⟩ <;> omega
    · rcases (Op.run_threads executed).exited with same | ⟨rfl, _⟩
      · rw [same]
      · simp [Op.moves] at moves

/-- In every run, the life of a video thread says what the world does. -/
theorem life (reached : Runs condition state) (index : Nat) :
    Life state.world index (state.stage (.video index)) := by
  refine Runs.each (fun world thread stage => ∀ index, thread = .video index →
    Life world index stage) ?_ ?_ ?_ reached _ index rfl
  · rintro _ index rfl
    constructor <;> simp [Stage.idle, World.initial]
  · rintro state _ choice operation world response turn lives index rfl
    exact (lives _ index rfl).own turn
  · rintro state thread choice operation world response turn lives _ different index rfl
    refine (lives _ index rfl).kept rfl ?_ ?_
    · rcases (Op.run_threads turn.executed).spawned with same | ⟨_, _, more⟩ <;> omega
    · rcases (Op.run_threads turn.executed).exited with same | ⟨rfl, exited⟩
      · rw [same]
      · cases thread with
        | python other =>
            have video := turn.allowed.1
            simp at video
        | video other =>
            have other : index ≠ other := fun same => different (by rw [same])
            simp [exited, Tid.index, other]

/-- A thread that has set `run` has done so for good. -/
theorem Turn.set_kept (turn : Turn condition state thread choice operation world response)
    {index : Nat} (set : (state.stage (.video index)).set) :
    (update state.stage thread ((state.stage thread).after operation response) (.video index)).set := by
  by_cases same : .video index = thread
  · subst same
    rw [Function.update_self]
    by_cases moves : operation.moves
    · cases operation with
      | endCall request reply =>
          have python := turn.allowed.1
          simp at python
      | construct =>
          simp only [Stage.after]
          split <;> exact set
      | setRun => rfl
      | begin | publishApp | useApp | takeCapture | readLoop | stopped | clearApp | destruct
      | exit => exact set
      | _ => cases moves
    · have same := Stage.after_life (state.stage (.video index)) operation response
        (by simpa using moves)
      simp only [Stage.life, Prod.mk.injEq] at same
      rw [same.2.1]
      exact set
  · rw [Function.update_of_ne same]
    exact set

/-! ## Starting and stopping -/

/-- The operations that go through `kcStart` and `kcStopInternal`. -/
def Op.switches : Op → Bool
  | .awaitStopped | .resetState | .createThread | .stopCameraLoop _ | .clearRun _ _ | .dropFrame
  | .join | .setStopping => true
  | _ => false

/-- Few operations change where a thread is in starting and stopping. -/
theorem Turn.switch_kept (turn : Turn condition state thread choice operation world response)
    (quiet : operation.switches = false) :
    ((state.stage thread).after operation response).switch = (state.stage thread).switch := by
  cases operation with
  | endCall request reply =>
      obtain ⟨_, _, _, _, unswitched, _⟩ := turn.allowed
      exact unswitched.symm
  | readStopping | hasRecord | lastRecordFrame | nextRecordFrame list | construct =>
      simp only [Stage.after]
      split <;> rfl
  | beginFrame capture => cases response <;> rfl
  | awaitStopped | resetState | createThread | stopCameraLoop join | clearRun join signal
  | dropFrame | join | setStopping => cases quiet
  | _ => rfl

/-- The others keep that for every thread. -/
theorem Turn.switch_update (turn : Turn condition state thread choice operation world response)
    (quiet : operation.switches = false) (other : Tid) :
    (update state.stage thread ((state.stage thread).after operation response) other).switch =
      (state.stage other).switch := by
  by_cases same : other = thread
  · subst same
    rw [Function.update_self, turn.switch_kept quiet]
  · rw [Function.update_of_ne same]

/-- While a thread starts or stops the camera no other does. -/
theorem Turn.unswitched (turn : Turn condition state thread choice operation world response)
    (switches : operation.switches) {other : Tid} (different : other ≠ thread) :
    (state.stage other).switch = .none := by
  have allowed := turn.allowed
  have held : .params ∈ state.held thread := by
    cases operation with
    | awaitStopped => exact allowed.2.2.2.1
    | stopCameraLoop join => exact allowed.1
    | resetState => exact turn.promised .params (by simp [allowed.2.2.2.2])
    | createThread => exact turn.promised .params (by simp [allowed.2.2.2.1])
    | clearRun join signal => exact turn.promised .params (by simp [allowed.2.1])
    | dropFrame =>
        obtain ⟨join, stopping⟩ := allowed
        exact turn.promised .params (by simp [stopping])
    | join => exact turn.promised .params (by simp [allowed.2.1])
    | setStopping => exact turn.promised .params (by simp [allowed.2.1])
    | _ => cases switches
  by_contra switching
  exact different (turn.exclusive (turn.promised .params switching) held)

end KCamera
