import KCamera.Engine.Text
import KCamera.Machine.Lockset

/-!
# The mutexes of the lists

What the discipline leaves open: that the functions of `streamer.c` and `kcamera.c` that
work on a list do so with the list's own mutex. `kcRecordProgress` takes the mutex of the
record that it was told, and works on the record that is attached.
-/

namespace KCamera

open Machine

/-- What a thread knows of the records it works on. -/
structure Hands where
  /-- The record whose mutex `kcRecordProgress` takes. -/
  reading : Option ListId
  /-- The list that a frame is on the way to. -/
  appending : Option ListId

/-- What a thread knows that is between its calls. -/
abbrev Hands.empty : Hands := ⟨none, none⟩

/-- What an operation needs beside what the discipline says: mostly the mutex of its list. -/
@[simp] def Op.needs (hands : Hands) (held : List Mutex) : Op → Prop
  | .append list _ | .next list | .copyBack list | .seek list _ | .time list | .saveNext list
  | .setListShift list _ | .setListDuration list _ => .record list ∈ held
  | .recordLimited | .durationProgress => ∃ list, hands.reading = some list ∧ .record list ∈ held
  | .setTimer => .frame ∈ held
  | .allocRecord => hands.reading = none
  | .stopRecord | .dropFrame => hands.appending = none
  | _ => True

/-- What a thread knows behind an operation. -/
@[simp] def Op.tells (hands : Hands) : (operation : Op) → operation.Resp → Hands
  | .derefRecord, list => { hands with reading := some list }
  | .sameRecord _, _ => { hands with reading := none }
  | .beginFrame _, .recording list _ => { hands with appending := some list }
  | .append _ _, _ => { hands with appending := none }
  | .endCall _ _, _ => .empty
  | _, _ => hands

/-- What its stage shows of that. -/
@[simp] def Stage.hands (stage : Stage) : Hands := ⟨stage.reading, stage.appending⟩

/-- The locking of the lists. -/
def locking : Locking Hands Op Op.Resp Mutex where
  start := .empty
  learns := Op.tells
  needs := Op.needs
  more {known held more operation} sub needs := by
    cases operation with
    | recordLimited | durationProgress =>
        obtain ⟨list, told, member⟩ := needs
        exact ⟨list, told, sub member⟩
    | append | next | copyBack | seek | time | saveNext | setListShift | setListDuration
    | setTimer => exact sub needs
    | allocRecord | stopRecord | dropFrame => exact needs
    | _ => trivial

/-- Quiet operations need no mutex. -/
theorem Op.quiet.free {operation : Op} (quiet : operation.quiet) : locking.Free operation := by
  cases operation <;>
    first | exact ⟨fun _ => trivial, fun _ => rfl⟩ | exact ⟨fun _ => rfl, fun _ => rfl⟩ |
      exact quiet.elim

/-- Quiet functions keep to the locking whatever is held. -/
theorem guarded_of_quiet {α : Type} {code : Code α} (every : code.Every Op.quiet)
    (held : List Mutex) : code.Guarded locking (· = .empty) .empty held :=
  Prog.Every.guarded (every.mono fun _ => Op.quiet.free) held

section

attribute [local simp] Prog.acquire Prog.release Prog.perform Prog.notify Prog.waitWhile
  Prog.ite_bind locking

variable (held : List Mutex)

/-! ## kcamera.c -/

/-- The timer is set with `m_frameMutex` held. -/
theorem takeStreamFrame_guarded : Code.takeStreamFrame.Guarded locking (· = .empty) .empty held := by
  simp [Code.takeStreamFrame]

/-- Started or running, the live frame is taken with the mutex held. -/
theorem kcNextStreamFrame_guarded :
    Code.kcNextStreamFrame.Guarded locking (· = .empty) .empty held := by
  simp only [Code.kcNextStreamFrame, Prog.perform_bind]
  refine ⟨trivial, fun run => ?_⟩
  simp only [Prog.guarded_ite]
  refine ⟨fun _ => takeStreamFrame_guarded _, fun _ => ?_⟩
  refine (guarded_of_quiet kcStart_every _).bind ?_
  rintro _ _ rfl
  exact takeStreamFrame_guarded _

/-- A frame is appended with the mutex of the list. -/
theorem kcFrameData_guarded (capture : Capture) :
    (Code.kcFrameData capture).Guarded locking (· = .empty) .empty held := by
  simp only [Code.kcFrameData, Prog.acquire_bind, Prog.perform_bind]
  refine ⟨trivial, fun begun => ?_⟩
  cases begun with
  | idle => exact guarded_of_quiet (kcStopInternal_every false true) _
  | outOfMemory record =>
      exact guarded_of_quiet (kcStopRecord_every.bind fun _ => kcStopInternal_every false true) _
  | recording list frame =>
      exact ⟨List.mem_cons_self, fun res => guarded_of_quiet (finishFrame_every _) _⟩
  | stored | skipped => exact guarded_of_quiet (finishFrame_every false) _

/-- The record's fields are read with its mutex held. -/
theorem kcRecordProgress_guarded :
    Code.kcRecordProgress.Guarded locking (fun _ => True) .empty held := by
  simp [Code.kcRecordProgress]

/-! ## run.cpp -/

/-- A turn of the loop appends with the record's mutex held. -/
theorem eventLoop_guarded : Code.eventLoop.Guarded locking (fun _ => True) .empty held := by
  simp [Code.eventLoop, Code.eventLoopTurn, Code.closeLoop, Code.attempt, Code.unwind]
  intro response
  cases response with
  | none => simp
  | some capture =>
      refine (kcFrameData_guarded _ capture).bind ?_
      rintro _ _ rfl
      simp

/-- The start-up needs no mutex. -/
theorem vidThread_guarded : Code.vidThread.Guarded locking (fun _ => True) .empty held := by
  simp [Code.vidThread, Code.openLoop, Code.attempt, Code.unwind, Code.kcSetBrightness,
    Code.kcSetAWB, Code.kcSetFramerate, Code.kcSetAutoShutter, Code.set]

/-! ## streamer.c -/

/-- A record is read with its mutex held. -/
theorem recordFrame_guarded (self : StreamerId) (bytes : Bool) (list : ListId) :
    (Code.recordFrame self bytes list).Guarded locking (fun _ => True) .empty held := by
  simp [Code.recordFrame, Code.kcWaitNextRecordFrame, Code.frameTuple]
  rintro (- | frame) <;> simp

/-- The last frame is copied with the record's mutex held. -/
theorem liveFrame_guarded (self : StreamerId) (bytes : Bool) :
    (Code.liveFrame self bytes).Guarded locking (fun _ => True) .empty held := by
  simp only [Code.liveFrame, Prog.perform_bind]
  refine ⟨trivial, ?_⟩
  rintro (- | list)
  · refine (kcNextStreamFrame_guarded _).bind ?_
    rintro (- | frame) _ rfl <;> simp [Code.frameTuple]
  · simp [Code.kcWaitLastRecordFrame, Code.frameTuple]

/-- A Streamer's own list is read with its mutex held. -/
theorem streamerProgress_guarded (self : StreamerId) :
    (Code.streamerProgress self).Guarded locking (fun _ => True) .empty held := by
  simp only [Code.streamerProgress, Prog.perform_bind]
  refine ⟨trivial, ?_⟩
  rintro (- | list)
  · exact (kcRecordProgress_guarded _).bind fun _ _ _ => by simp
  · refine ⟨trivial, fun current => ?_⟩
    simp only [Prog.guarded_ite]
    exact ⟨fun _ => (kcRecordProgress_guarded _).bind fun _ _ _ => by simp,
      fun _ => by simp [Code.locked]⟩

/-- The methods that perform one operation on a list. -/
theorem streamer_guarded (self : StreamerId) (code : Code Reply)
    (listed : ListId → Code Reply) (unlisted : Code Reply)
    (text : code = (do
      match ← Code.perform (.recordOf self) with
      | some list => listed list
      | none => unlisted))
    (some : ∀ list, (listed list).Guarded locking (fun _ => True) .empty held)
    (none : unlisted.Guarded locking (fun _ => True) .empty held) :
    code.Guarded locking (fun _ => True) .empty held := by
  rw [text]
  simp only [Prog.perform_bind]
  refine ⟨trivial, ?_⟩
  rintro (- | list)
  · exact none
  · exact some list

/-! ## The interpreter -/

/-- A call of quiet operations. -/
theorem call_of_quiet {code : Code Reply} (every : code.Every Op.quiet) :
    code.Guarded locking (fun _ => True) .empty held :=
  (guarded_of_quiet every held).forget

/-- Every call keeps to the locking. -/
theorem serve_guarded (request : Request) :
    (Code.serve request).Guarded locking (fun _ => True) .empty held := by
  cases request with
  | dropArray frame => simp [Code.serve]
  | newCamera params => exact call_of_quiet _ (cameraNew_every params)
  | deleteCamera => exact call_of_quiet _ ((kcStopInternal_every true true).bind fun _ => by simp)
  | setAttr params =>
      exact ⟨trivial, fun _ => call_of_quiet _ (kcUpdateParams_every.bind fun _ => trivial)⟩
  | rejected _ | loadEmpty => simp [Code.serve, Code.cameraLoadEmpty]
  | stream params =>
      simp only [Code.serve, Code.cameraStream, Prog.perform_bind]
      refine ⟨trivial, fun _ => ⟨trivial, ?_⟩⟩
      rintro (- | self) <;> simp
  | record params => exact call_of_quiet _ (cameraRecord_every params)
  | load file => exact call_of_quiet _ (createLoader_every file)
  | delete self => exact call_of_quiet _ (streamerDealloc_every self)
  | frame self bytes =>
      exact streamer_guarded _ self _ _ _ rfl (fun list => recordFrame_guarded _ self bytes list)
        (liveFrame_guarded _ self bytes)
  | progress self => exact streamerProgress_guarded _ self
  | stop self =>
      refine streamer_guarded _ self _ _ _ rfl (fun list => ?_) ?_
      · exact (guarded_of_quiet kcStopRecord_every _).bind fun _ _ _ => trivial
      · exact (guarded_of_quiet (kcStopInternal_every true true) _).bind fun _ _ _ => trivial
  | seek self _ | start self | time self =>
      exact streamer_guarded _ self _ _ _ rfl (fun list => by simp [Code.locked]) (by simp)
  | save self => exact streamer_guarded _ self _ _ _ rfl (fun list => by simp [Code.locked]) (by simp)
  | inspect self query =>
      exact streamer_guarded _ self _ _ _ rfl (fun list => by simp) (by cases query <;> simp)
  | setStartShift self _ | setDuration self _ =>
      refine ⟨trivial, fun _ => streamer_guarded _ self _ _ _ rfl (fun list => ?_) (by simp)⟩
      simp [Code.locked]

/-- Every program keeps to the locking from its start. -/
theorem body_guarded (label : Label) :
    (semantics.body label).Guarded locking (fun _ => True) locking.start [] := by
  cases label with
  | python =>
      refine ⟨trivial, fun request => (serve_guarded _ request).bind fun reply known _ => ?_⟩
      simp [Code.finish]
  | video => exact vidThread_guarded _
  | eventLoop => exact eventLoop_guarded _
  | saving self list len =>
      simp [semantics, Label.body, Code.saving, Code.locked, Code.finish]
      rintro (- | size | -) <;> simp

end

/-! ## Runs -/

/-- A stage shows what its thread knows. -/
theorem Stage.hands_after (stage : Stage) (operation : Op) (response : operation.Resp) :
    (stage.after operation response).hands = operation.tells stage.hands response := by
  cases operation with
  | beginFrame capture => cases response <;> rfl
  | _ => simp only [Stage.after, Op.tells, Stage.hands] <;> first | rfl | (split <;> rfl)

/-- In every run a thread has the mutexes that its next operation needs. -/
theorem guardedAll {condition : System → Tid → Choice → Op → Prop} {state : System}
    (reached : Runs condition state) : GuardedAll locking Stage.hands state := by
  refine Reach.invariant (GuardedAll locking Stage.hands) ?_ ?_ reached
  · rintro _ rfl thread
    cases thread with
    | python index | video index => trivial
  · intro state event next prior guarded admitted taken
    exact guarded.step Stage.hands_after body_guarded taken

end KCamera
