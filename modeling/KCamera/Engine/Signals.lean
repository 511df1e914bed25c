import KCamera.Engine.Stage
import KCamera.Machine.Wakeups

/-!
# Signals

Whoever appends or stores a frame or stops the camera with a signal signals before
it gives `m_frameMutex` back, and readers wait with this mutex alone. One lemma for
each function.
-/

namespace KCamera

open Machine

/-- The operations behind which `kcFrameData` and `kcStopInternal` signal. -/
@[simp] def Op.owes : (operation : Op) → operation.Resp → Bool
  | .append _ _, _ => true
  | .beginFrame _, begun =>
      match begun with
      | .stored => true
      | _ => false
  | .clearRun _ signal, _ => signal
  | _, _ => false

/-- The readers' loops go on while their test says so. -/
@[simp] def Op.isTest : (test : Op) → (test.Resp → Bool) → Prop
  | .slotEmpty, again | .nextRecordFrame _, again | .lastRecordFrame, again =>
      ∀ response, again response = response
  | _, _ => False

/-- The program signals what it owes to the readers, and waits as they do. -/
abbrev Prompt {α : Type} (code : Code α) : Prop :=
  code.Prompt .frame Op.owes Op.isTest

section

attribute [local simp] Prog.Prompt Prog.signals Prog.acquire Prog.release Prog.perform Prog.notify
  Prog.waitWhile

/-! ## kcamera.c -/

/-- `kcInit` owes no signal. -/
theorem kcInit_prompt (camera : CameraId) : Prompt (Code.kcInit camera) := by
  simp [Code.kcInit]

/-- `kcStart` owes no signal: no frame appears before the thread runs. -/
theorem kcStart_prompt : Prompt Code.kcStart := by
  simp [Code.kcStart]

/-- With `signal` the stop is broadcast in the critical section that clears `m_run`. -/
theorem kcStopInternal_prompt (join signal : Bool) : Prompt (Code.kcStopInternal join signal) := by
  unfold Code.kcStopInternal Code.stopRunning
  cases join <;> cases signal <;> simp [apply_ite]

/-- `kcStopRecord` signals nobody. -/
theorem kcStopRecord_prompt : Prompt Code.kcStopRecord := by
  simp [Code.kcStopRecord]

/-- The wait for the next frame is one loop with `m_frameMutex` alone. -/
theorem kcWaitNextRecordFrame_prompt (list : ListId) :
    Prompt (Code.kcWaitNextRecordFrame list) := by
  simp [Code.kcWaitNextRecordFrame]

/-- The wait for the last frame is one loop with `m_frameMutex` alone. -/
theorem kcWaitLastRecordFrame_prompt : Prompt Code.kcWaitLastRecordFrame := by
  simp only [Code.kcWaitLastRecordFrame]
  simp [apply_ite]

/-- The wait for a live frame is one loop with `m_frameMutex` alone. -/
theorem takeStreamFrame_prompt : Prompt Code.takeStreamFrame := by
  simp [Code.takeStreamFrame]

/-- Started or running, the camera is waited for in the same way. -/
theorem kcNextStreamFrame_prompt : Prompt Code.kcNextStreamFrame := by
  simp only [Code.kcNextStreamFrame, Prog.perform_bind]
  intro run
  refine ⟨by simp, ?_⟩
  cases run with
  | true => exact takeStreamFrame_prompt
  | false => exact kcStart_prompt.bind fun _ => takeStreamFrame_prompt

/-- Behind the append nothing more is owed. -/
theorem finishFrame_prompt (failed : Bool) : Prompt (Code.finishFrame failed) := by
  simp only [Code.finishFrame, Prog.perform_bind, Prog.release_bind]
  intro exceeded
  refine ⟨by simp, ?_⟩
  change Prompt (if failed || exceeded.isSome then Code.kcStopRecord else pure ())
  split
  · exact kcStopRecord_prompt
  · trivial

/-- An appended or stored frame is broadcast before `m_frameMutex` is given back. -/
theorem kcFrameData_prompt (capture : Capture) : Prompt (Code.kcFrameData capture) := by
  simp only [Code.kcFrameData, Prog.acquire_bind, Prog.perform_bind]
  intro begun
  cases begun with
  | idle => exact ⟨by simp, kcStopInternal_prompt false true⟩
  | outOfMemory record =>
      exact ⟨by simp, kcStopRecord_prompt.bind fun _ => kcStopInternal_prompt false true⟩
  | recording list frame => exact ⟨by simp, fun res => ⟨by simp, finishFrame_prompt _⟩⟩
  | stored => exact ⟨by simp, finishFrame_prompt false⟩
  | skipped => exact ⟨by simp, finishFrame_prompt false⟩

/-- The setters have nothing to do with frames. -/
theorem set_prompt (setter : Setter) : Prompt (Code.set setter) := by
  simp [Code.set]

/-- A setter that is called only on a change. -/
theorem whenChanged_prompt (setting : Setting) (setter : Setter) :
    Prompt (Code.whenChanged setting (Code.set setter)) := by
  simp only [Code.whenChanged, Prog.perform_bind]
  intro changed
  refine ⟨by simp, ?_⟩
  cases changed with
  | true => exact set_prompt setter
  | false => trivial

/-- The restart stops without a signal, as `kcUpdateParams` asks. -/
theorem applyParams_prompt (restart : Bool) : Prompt (Code.applyParams restart) := by
  cases restart with
  | true =>
      refine (kcStopInternal_prompt true false).bind fun _ => ?_
      simpa using kcStart_prompt
  | false => simp [Code.applyParams]

/-- The settings one after the other, then the restart or the copy. -/
theorem kcUpdateParams_prompt : Prompt Code.kcUpdateParams := by
  simp only [Code.kcUpdateParams, Prog.acquire_bind, Prog.perform_bind]
  intro resolution
  refine ⟨by simp, (whenChanged_prompt .framerate .framerate).bind fun _ => ?_⟩
  intro mode
  have setters : Prompt (do
      Code.whenChanged .brightness Code.kcSetBrightness
      Code.whenChanged .autoShutter Code.kcSetAutoShutter
      Code.whenChanged .awb Code.kcSetAWB
      Code.whenChanged .awbGains Code.kcSetAWBGains
      Code.whenChanged .shutterSpeed Code.kcSetShutterSpeed
      Code.release .params
      if resolution || mode then
        let run ← Code.perform .readRun
        Code.applyParams run
      else Code.applyParams false) := by
    refine (whenChanged_prompt .brightness .brightness).bind fun _ => ?_
    refine (whenChanged_prompt .autoShutter .autoShutter).bind fun _ => ?_
    refine (whenChanged_prompt .awb .awb).bind fun _ => ?_
    refine (whenChanged_prompt .awbGains .awbGains).bind fun _ => ?_
    refine (whenChanged_prompt .shutterSpeed .shutterSpeed).bind fun _ => ?_
    change Prompt (if resolution || mode then _ else _)
    split
    · exact fun run => ⟨by simp, applyParams_prompt run⟩
    · exact applyParams_prompt false
  refine ⟨by cases mode <;> simp, ?_⟩
  cases mode with
  | true => exact fun _ => ⟨by simp, setters⟩
  | false => exact setters

/-- A fresh list has no frame to tell of. -/
theorem kcStartRecord_prompt : Prompt Code.kcStartRecord := by
  simp [Code.kcStartRecord, apply_ite]

/-- Progress is read without a wait. -/
theorem kcRecordProgress_prompt : Prompt Code.kcRecordProgress := by
  simp [Code.kcRecordProgress, apply_ite]

/-! ## run.cpp -/

/-- An exception ends the video thread silently. -/
theorem unwind_prompt : Prompt Code.unwind := by
  simp [Code.unwind]

/-- Both ways on from a libcamera call are prompt. -/
theorem attempt_prompt {rest : Code Unit} (prompt : Prompt rest) : Prompt (Code.attempt rest) := by
  simp only [Code.attempt, Prog.perform_bind]
  intro threw
  refine ⟨by simp, ?_⟩
  cases threw with
  | true => exact unwind_prompt
  | false => exact prompt

/-- The start-up of `event_loop` owes no signal. -/
theorem openLoop_prompt : Prompt Code.openLoop := by
  refine fun _ => ⟨by simp, ?_⟩
  refine (set_prompt .brightness).bind fun _ => ?_
  refine (set_prompt .awb).bind fun _ => ?_
  refine (set_prompt .framerate).bind fun _ => ?_
  refine (set_prompt .autoShutter).bind fun _ => ?_
  exact attempt_prompt <| attempt_prompt <| attempt_prompt trivial

/-- The only signals of a turn are those of `kcFrameData`. -/
theorem eventLoopTurn_prompt : Prompt Code.eventLoopTurn := by
  simp only [Code.eventLoopTurn, Prog.acquire_bind, Prog.perform_bind, Prog.release_bind]
  intro threw
  refine ⟨by simp, ?_⟩
  cases threw with
  | true => exact unwind_prompt
  | false =>
      refine attempt_prompt fun capture => ⟨by simp, ?_⟩
      cases capture with
      | none => exact unwind_prompt
      | some capture => exact (kcFrameData_prompt capture).bind fun _ => attempt_prompt trivial

/-- Neither does the end of `event_loop`. -/
theorem closeLoop_prompt : Prompt Code.closeLoop :=
  attempt_prompt (by simp)

/-- The video thread up to its loop. -/
theorem vidThread_prompt : Prompt Code.vidThread := by
  simp only [Code.vidThread, Prog.perform_bind]
  refine fun _ => ⟨by simp, fun _ => ⟨by simp, fun threw => ⟨by simp, ?_⟩⟩⟩
  cases threw with
  | true => simp
  | false => exact fun _ => ⟨by simp, openLoop_prompt⟩

/-! ## streamer.c -/

/-- A Streamer's end stops the camera with a signal, or its record. -/
theorem streamerDealloc_prompt (self : StreamerId) : Prompt (Code.streamerDealloc self) := by
  simp only [Code.streamerDealloc, Prog.perform_bind]
  intro record
  refine ⟨by simp, ?_⟩
  cases record with
  | none => exact (kcStopInternal_prompt true true).bind fun _ => by simp
  | some list =>
      intro current
      refine ⟨by simp, ?_⟩
      by_cases attached : current = some list
      · simpa [attached] using kcStopRecord_prompt.bind fun _ => by simp
      · simp [attached]

/-- `frame()` of a record waits before it takes the record's mutex. -/
theorem recordFrame_prompt (self : StreamerId) (bytes : Bool) (list : ListId) :
    Prompt (Code.recordFrame self bytes list) := by
  refine fun _ => ⟨by simp, (kcWaitNextRecordFrame_prompt list).bind fun _ => ?_⟩
  simp only [Prog.acquire_bind, Prog.perform_bind]
  refine fun frame => ⟨by simp, ?_⟩
  cases frame <;> simp [Code.frameTuple]

/-- `frame()` of a stream waits for a record's last frame or for a live one. -/
theorem liveFrame_prompt (self : StreamerId) (bytes : Bool) :
    Prompt (Code.liveFrame self bytes) := by
  refine fun record => ⟨by simp, ?_⟩
  cases record with
  | some list => exact kcWaitLastRecordFrame_prompt.bind fun _ => by simp [Code.frameTuple]
  | none =>
      refine kcNextStreamFrame_prompt.bind fun frame => ?_
      cases frame <;> simp [Code.frameTuple]

/-- `frame()` in both cases. -/
theorem streamerFrame_prompt (self : StreamerId) (bytes : Bool) :
    Prompt (Code.streamerFrame self bytes) := by
  refine fun record => ⟨by simp, ?_⟩
  cases record with
  | some list => exact recordFrame_prompt self bytes list
  | none => exact liveFrame_prompt self bytes

/-- `stop()` of a stream signals, of a record it does not. -/
theorem streamerStop_prompt (self : StreamerId) : Prompt (Code.streamerStop self) := by
  refine fun record => ⟨by simp, ?_⟩
  cases record with
  | some list => exact kcStopRecord_prompt.bind fun _ => trivial
  | none => exact (kcStopInternal_prompt true true).bind fun _ => trivial

/-- `progress()` never waits for a frame. -/
theorem streamerProgress_prompt (self : StreamerId) : Prompt (Code.streamerProgress self) := by
  simp only [Code.streamerProgress, Prog.perform_bind]
  refine fun record => ⟨by simp, ?_⟩
  cases record with
  | none => exact kcRecordProgress_prompt.bind fun _ => trivial
  | some list =>
      refine fun current => ⟨by simp, ?_⟩
      change Prompt (if current = some list then _ else _)
      split
      · exact kcRecordProgress_prompt.bind fun _ => trivial
      · simp [Code.locked]

/-! ## kcameramodule.c -/

/-- `load()` of a file never waits for a frame. -/
theorem createLoader_prompt (file : Option (List UInt8)) : Prompt (Code.createLoader file) := by
  refine fun made => ⟨by simp, fun error => ⟨by simp, ?_⟩⟩
  cases error with
  | none => trivial
  | some error => exact (streamerDealloc_prompt _).bind fun _ => trivial

/-- `stream()` never waits for a frame. -/
theorem cameraStream_prompt (params : KcParams) : Prompt (Code.cameraStream params) := by
  simp only [Code.cameraStream, Prog.perform_bind]
  refine fun _ => ⟨by simp, fun streamer => ⟨by simp, ?_⟩⟩
  cases streamer <;> simp

/-- The second half of `record()` starts the camera. -/
theorem startRecording_prompt : Prompt Code.startRecording := by
  refine kcStartRecord_prompt.bind fun list => ?_
  cases list with
  | none => trivial
  | some list => exact kcStart_prompt.bind fun _ => by simp

/-- `record()`, with or without a record that goes on. -/
theorem cameraRecord_prompt (params : KcParams) : Prompt (Code.cameraRecord params) := by
  simp only [Code.cameraRecord, Prog.perform_bind]
  refine fun _ => ⟨by simp, fun current => ⟨by simp, ?_⟩⟩
  cases current with
  | none => exact startRecording_prompt
  | some list => exact kcStopRecord_prompt.bind fun _ => startRecording_prompt

/-- The Camera's end stops the camera with a signal. -/
theorem cameraDealloc_prompt : Prompt Code.cameraDealloc :=
  (kcStopInternal_prompt true true).bind fun _ => by simp

/-- `Camera()` is `kcInit` and `kcUpdateParams`. -/
theorem cameraNew_prompt (params : KcParams) : Prompt (Code.cameraNew params) := by
  refine fun camera => ⟨by simp, ?_⟩
  cases camera with
  | none => trivial
  | some camera =>
      refine (kcInit_prompt camera).bind fun _ => fun _ => ⟨by simp, ?_⟩
      exact kcUpdateParams_prompt.bind fun _ => trivial

/-- An assignment is `kcUpdateParams`. -/
theorem cameraSetAttr_prompt (params : KcParams) : Prompt (Code.cameraSetAttr params) :=
  fun _ => ⟨by simp, kcUpdateParams_prompt.bind fun _ => trivial⟩

/-! ## The interpreter -/

/-- Every request is served promptly. -/
theorem serve_prompt (request : Request) : Prompt (Code.serve request) := by
  cases request with
  | newCamera params => exact cameraNew_prompt params
  | deleteCamera => exact cameraDealloc_prompt
  | setAttr params => exact cameraSetAttr_prompt params
  | stream params => exact cameraStream_prompt params
  | record params => exact cameraRecord_prompt params
  | load file => exact createLoader_prompt file
  | delete self => exact streamerDealloc_prompt self
  | frame self bytes => exact streamerFrame_prompt self bytes
  | stop self => exact streamerStop_prompt self
  | progress self => exact streamerProgress_prompt self
  | rejected _ | loadEmpty | dropArray _ => simp [Code.serve, Code.cameraLoadEmpty]
  | seek self _ | start self | time self | save self | setStartShift self _
  | setDuration self _ =>
      simp only [Code.serve, Code.streamerSeek, Code.streamerStart, Code.streamerTime,
        Code.streamerSave, Code.streamerSetStartShift, Code.streamerSetDuration, Code.locked]
      simp
      rintro (_ | list) <;> simp
  | inspect self query =>
      simp only [Code.serve, Code.streamerInspect, Prog.perform_bind]
      refine fun record => ⟨by simp, ?_⟩
      cases record <;> cases query <;> simp

/-- The reply owes no signal. -/
theorem finish_prompt (request : Request) (reply : Reply) : Prompt (Code.finish request reply) := by
  simp [Code.finish]

/-- The code of every thread signals what it owes to the readers. -/
theorem bodies_prompt (label : Label) : Prompt label.body := by
  cases label with
  | python =>
      refine fun request => ⟨by simp, ?_⟩
      exact (serve_prompt request).bind fun reply => finish_prompt request reply
  | video => exact vidThread_prompt
  | eventLoop =>
      refine fun run => ⟨by simp, ?_⟩
      cases run with
      | true => exact eventLoopTurn_prompt
      | false => exact closeLoop_prompt
  | saving self list len =>
      have step : Prompt (Code.locked list (.saveNext list)) := by simp [Code.locked]
      refine step.bind fun turn => ?_
      cases turn <;> simp [Code.finish]

end

end KCamera
