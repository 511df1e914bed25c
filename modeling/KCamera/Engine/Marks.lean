import KCamera.Engine.Runs

/-!
# What operations do to stages

A stage falls into marks, of which an operation moves few. An operation that
leaves a mark alone needs no further look at the stage.
-/

namespace KCamera

open Machine

open Function (update)

/-- Parts of a stage. -/
inductive Mark where
  /-- The life of a video thread. -/
  | life
  | switch
  | restarting
  | selfStop
  | deferred
  /-- The call and whether it gave the interpreter lock back. -/
  | calling
  | footing
  | self
  | seen
  | binding
  | loading
  /-- How far `kcRecordProgress` is. -/
  | progress
  | made
  | closing
  | carried
  | appending
  /-- How far `frame` is with a recording. -/
  | noted
  | awaited
  | finishing
deriving DecidableEq, Repr

/-- Two stages have a mark in common. -/
def Stage.Shares (stage next : Stage) : Mark → Prop
  | .life =>
      next.phase = stage.phase ∧ next.set = stage.set ∧ next.left = stage.left ∧
        next.threw = stage.threw
  | .switch => next.switch = stage.switch
  | .restarting => next.restarting = stage.restarting
  | .selfStop => next.selfStop = stage.selfStop
  | .deferred => next.deferred = stage.deferred
  | .calling => next.calling = stage.calling ∧ next.released = stage.released
  | .footing => next.footing = stage.footing
  | .self => next.self = stage.self
  | .seen => next.seen = stage.seen
  | .binding => next.binding = stage.binding
  | .loading => next.loading = stage.loading
  | .progress =>
      next.progressing = stage.progressing ∧ next.reading = stage.reading ∧
        next.limited = stage.limited
  | .made => next.made = stage.made
  | .closing => next.closing = stage.closing
  | .carried => next.carried = stage.carried
  | .appending => next.appending = stage.appending
  | .noted => next.noted = stage.noted ∧ next.waited = stage.waited
  | .awaited => next.awaited = stage.awaited
  | .finishing => next.finishing = stage.finishing

/-- A stage shares every mark with itself. -/
theorem Stage.Shares.refl (stage : Stage) (mark : Mark) : stage.Shares stage mark := by
  cases mark <;> simp [Shares]

/-- The marks that an operation may move. What a call has to settle before it
returns is not moved by its return. -/
def Op.marks : Op → List Mark
  | .nextCall => [.calling, .footing]
  | .endCall _ _ =>
      [.life, .selfStop, .deferred, .calling, .footing, .self, .seen, .progress, .made, .appending,
        .noted, .awaited, .finishing]
  | .recordOf _ => [.self]
  | .getRecord => [.seen]
  | .allocRecord => [.binding, .seen]
  | .stopRecord => [.deferred, .seen]
  | .newStreamer _ => [.binding, .seen, .made]
  | .newCamera | .initParams _ | .freeCamera => [.footing]
  | .streamCallback _ | .freeRecord _ => [.closing]
  | .recordingNow | .derefRecord | .recordLimited | .sameRecord _ => [.progress]
  | .newLoader | .load _ _ => [.loading]
  | .freeStreamer _ => [.closing, .self]
  | .awaitStopped | .createThread | .dropFrame | .join | .setStopping => [.switch]
  | .resetState => [.switch, .restarting, .binding]
  | .readStopping => [.selfStop]
  | .stopCameraLoop _ => [.switch, .selfStop]
  | .clearRun _ _ => [.switch, .restarting]
  | .setTimer => [.seen, .calling]
  | .takeFrame => [.carried]
  | .noteIndex _ _ | .nextRecordFrame _ => [.noted]
  | .hasRecord | .lastRecordFrame => [.awaited]
  | .next _ => [.carried, .noted]
  | .copyBack _ => [.carried, .awaited]
  | .makeArray _ _ _ => [.carried, .noted]
  | .beginFrame _ => [.selfStop, .deferred, .carried, .appending, .finishing]
  | .append _ _ => [.carried, .appending, .deferred]
  | .endFrame => [.deferred, .finishing]
  | .begin | .setRun | .construct | .publishApp | .useApp | .takeCapture | .readLoop | .stopped
  | .clearApp | .destruct | .exit => [.life]
  | _ => []

/-- An operation moves only its marks. -/
theorem Stage.after_shares {stage : Stage} {thread : Tid} {held : List Mutex} {operation : Op}
    {mark : Mark} (allowed : stage.allows thread held operation) (response : operation.Resp)
    (untouched : mark ∉ operation.marks) : stage.Shares (stage.after operation response) mark := by
  cases operation with
  | endCall request reply =>
      obtain ⟨_, _, _, carried, switch, binding, loading, closing, restarting, _⟩ := allowed
      cases mark <;>
        first
        | exact carried.symm | exact switch.symm | exact binding.symm | exact loading.symm
        | exact closing.symm | exact restarting.symm
        | exact absurd (by simp [Op.marks]) untouched
  | readStopping | hasRecord | lastRecordFrame | nextRecordFrame list | construct | dropFrame =>
      simp only [after]
      split <;> cases mark <;>
        first
        | exact rfl | exact ⟨rfl, rfl⟩ | exact ⟨rfl, rfl, rfl⟩ | exact ⟨rfl, rfl, rfl, rfl⟩
        | exact absurd (by simp [Op.marks]) untouched
  | beginFrame capture =>
      cases response <;> cases mark <;>
        first
        | exact rfl | exact ⟨rfl, rfl⟩ | exact ⟨rfl, rfl, rfl⟩ | exact ⟨rfl, rfl, rfl, rfl⟩
        | exact absurd (by simp [Op.marks]) untouched
  | nextCall | recordOf _ | getRecord | allocRecord | stopRecord | newStreamer _ | newCamera
  | initParams _ | freeCamera | streamCallback _ | freeRecord _ | recordingNow | derefRecord
  | recordLimited | sameRecord _ | newLoader | load _ _ | freeStreamer _ | awaitStopped | createThread | join
  | setStopping | resetState | stopCameraLoop _ | clearRun _ _ | setTimer | takeFrame
  | noteIndex _ _ | next _ | copyBack _ | makeArray _ _ _ | append _ _ | endFrame | «begin» | setRun
  | publishApp | useApp | takeCapture | readLoop | stopped | clearApp | destruct | exit =>
      cases mark <;>
        first
        | exact rfl | exact ⟨rfl, rfl⟩ | exact ⟨rfl, rfl, rfl⟩ | exact ⟨rfl, rfl, rfl, rfl⟩
        | exact absurd (by simp [Op.marks]) untouched
  | _ => exact .refl stage mark

section

variable {condition : System → Tid → Choice → Op → Prop} {state : System} {thread : Tid}
  {choice : Choice} {operation : Op} {world : World} {response : operation.Resp} {mark : Mark}

/-- An operation changes only the marks that it is listed with. -/
theorem Turn.shares (turn : Turn condition state thread choice operation world response)
    (untouched : mark ∉ operation.marks) :
    (state.stage thread).Shares ((state.stage thread).after operation response) mark :=
  Stage.after_shares turn.allowed response untouched

/-- A mark that the operation leaves alone is left alone in every thread's stage. -/
theorem Turn.shares_update (turn : Turn condition state thread choice operation world response)
    (untouched : mark ∉ operation.marks) (other : Tid) :
    (state.stage other).Shares
      (update state.stage thread ((state.stage thread).after operation response) other) mark := by
  by_cases same : other = thread
  · subst same
    rw [Function.update_self]
    exact turn.shares untouched
  · rw [Function.update_of_ne same]
    exact .refl _ mark

end

end KCamera
