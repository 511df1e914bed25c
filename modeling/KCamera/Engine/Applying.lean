import KCamera.Engine.Facts
import KCamera.Engine.Parameters
import KCamera.Machine.Phases

/-!
# How calls apply parameters

A call that stores parameters goes on to start the camera with them or to copy them to
`m_currParams`, and changes no parameter behind that; only `stream` does neither. One
lemma for each function.
-/

namespace KCamera

open Machine

open Function (update)

/-- The calls that store parameters. -/
def Request.stores : Request → Bool
  | newCamera _ | setAttr _ | rejected _ | stream _ | record _ => true
  | _ => false

/-- How far a call is with the parameters. -/
inductive Applying where
  /-- It has stored nothing yet. -/
  | before
  /-- `camera_new` has made a Camera that `g_params` does not lead to. -/
  | made (camera : CameraId)
  | stored
  /-- The width and height may be new to the sessions. -/
  | resized
  /-- The camera stands still, or is started for the new width and height. -/
  | restarted
  /-- `m_currParams` has them. -/
  | applied
  /-- A call that stores nothing has limited the framerate and starts the camera. -/
  | launched
  /-- The interpreter lock may be given back. -/
  | waiting
deriving DecidableEq

/-- The call that a thread is in, and how far it is. -/
structure CallPhase where
  request : Option Request
  progress : Applying

/-- Where a call is when it has just stored its parameters. -/
def Request.storing : Request → Applying
  | stream _ => .applied
  | record _ => .resized
  | _ => .stored

namespace CallPhase

/-- Between calls. -/
def idle : CallPhase := ⟨none, .before⟩

/-- What a call in this phase may perform. -/
@[simp] def admits (phase : CallPhase) : Op → Prop
  | .nextCall => phase = idle
  | .endCall request reply =>
      phase.request = some request ∧ (∀ camera, phase.progress ≠ .made camera) ∧
        (request.stores → (∃ message, reply = .error message) ∨ phase.progress = .applied)
  | .newCamera => phase.progress = .before ∧ ∃ params, phase.request = some (.newCamera params)
  | .initParams camera =>
      phase.progress = .made camera ∧ ∃ params, phase.request = some (.newCamera params)
  | .storeParams _ =>
      phase.progress = .before ∧ ∃ request, phase.request = some request ∧ request.stores
  | .resetState =>
      phase.request.isSome ∧ (phase.progress = .before ∨ phase.progress = .stored ∨
        phase.progress = .resized)
  | .startParams =>
      phase.request.isSome ∧ (phase.progress = .before ∨ phase.progress = .restarted)
  | .createThread =>
      phase.request.isSome ∧ (phase.progress = .launched ∨
        phase.progress = .applied ∧ ∀ params, phase.request ≠ some (.stream params))
  | .copyParams =>
      phase.request.isSome ∧ (phase.progress = .stored ∨ phase.progress = .restarted) ∧
        ∀ params, phase.request ≠ some (.record params)
  | .freeCamera => ∀ camera, phase.progress ≠ .made camera
  | .setMode => phase.request.isSome ∧ phase.progress = .stored
  | .resetShutter =>
      phase.request.isSome ∧ (phase.progress = .stored ∨ phase.progress = .resized)
  | .setControl _ =>
      phase.request = none ∨ (phase.progress = .stored ∨ phase.progress = .resized) ∧
        ∀ params, phase.request ≠ some (.record params)
  | .setTimer =>
      phase.progress = .before ∧ ∃ request, phase.request = some request ∧ request.stores = false
  | _ => True

/-- The phase behind an operation. -/
@[simp] def after (phase : CallPhase) : (operation : Op) → operation.Resp → CallPhase
  | .nextCall, request => ⟨some request, .before⟩
  | .endCall _ _, _ => idle
  | .newCamera, camera => { phase with progress := camera.elim .before .made }
  | .initParams _, _ => { phase with progress := .before }
  | .storeParams _, _ => { phase with progress := phase.request.elim .before Request.storing }
  | .setMode, _ => { phase with progress := .resized }
  | .readRun, run =>
      if phase.progress = .resized ∧ run = false then { phase with progress := .restarted }
      else phase
  | .resetState, _ =>
      if phase.progress = .before then phase else { phase with progress := .restarted }
  | .startParams, _ =>
      { phase with progress := if phase.progress = .before then .launched else .applied }
  | .createThread, _ =>
      { phase with progress := if phase.progress = .launched then .before else phase.progress }
  | .copyParams, _ => { phase with progress := .applied }
  | .setTimer, _ => { phase with progress := .waiting }
  | _, _ => phase

end CallPhase

/-- The protocol of a call. -/
def applying : Protocol CallPhase Op Op.Resp Label where
  admits := CallPhase.admits
  after := CallPhase.after
  entry
    | .saving self _ _ => ⟨some (.save self), .before⟩
    | _ => .idle

/-- The protocol admits what the phase does. -/
@[simp] theorem applying_admits (phase : CallPhase) (operation : Op) :
    applying.admits phase operation = phase.admits operation := rfl

/-- The protocol moves as the phase does. -/
@[simp] theorem applying_after (phase : CallPhase) (operation : Op) (response : operation.Resp) :
    applying.after phase operation response = phase.after operation response := rfl

/-- From one phase the program comes to another. -/
abbrev Lands {α : Type} (phase landing : CallPhase) (code : Code α) : Prop :=
  code.Leads applying (fun _ after => after = landing) phase

/-- The program leaves the phase. -/
abbrev Stays {α : Type} (phase : CallPhase) (code : Code α) : Prop := Lands phase phase code

section

attribute [local simp] Prog.acquire Prog.release Prog.perform Prog.notify Prog.waitWhile
  Prog.ite_bind Prog.bind CallPhase.idle Request.storing

variable {phase landing : CallPhase} {request : Request} {α β : Type}

/-- A function, and the program behind it. -/
theorem Lands.bind {post : β → CallPhase → Prop} {code : Code α} {next : α → Code β}
    (lands : Lands phase landing code)
    (rest : ∀ value, (next value).Leads applying post landing) :
    (code >>= next).Leads applying post phase :=
  Prog.Leads.bind lands fun value _ same => same ▸ rest value

/-! ## kcamera.c -/

/-- `kcInit` makes `g_params` lead to the new Camera. -/
theorem kcInit_lands (params : KcParams) (camera : CameraId) :
    Lands ⟨some (.newCamera params), .made camera⟩ ⟨some (.newCamera params), .before⟩
      (Code.kcInit camera) := by
  simp [Code.kcInit]

/-- `kcStart` of a call that has stored nothing. -/
theorem kcStart_stays : Stays ⟨some request, .before⟩ Code.kcStart := by
  simp [Code.kcStart]

/-- `kcStart` of a call that has stored parameters. -/
theorem kcStart_lands {progress : Applying} (stored : progress = .stored ∨ progress = .resized)
    (calls : ∀ params, request ≠ .stream params) :
    Lands ⟨some request, progress⟩ ⟨some request, .applied⟩ Code.kcStart := by
  rcases stored with rfl | rfl <;> simpa [Code.kcStart] using calls

/-- Stopping the camera touches no parameter but the measured framerate. -/
theorem kcStopInternal_stays (join signal : Bool) : Stays phase (Code.kcStopInternal join signal) := by
  simp [Code.kcStopInternal, Code.stopRunning]

/-- `kcStopRecord` touches no parameter. -/
theorem kcStopRecord_stays : Stays phase Code.kcStopRecord := by
  simp [Code.kcStopRecord]

/-- A setter may shorten the exposure only before the call applies its parameters. -/
theorem set_stays {setter : Setter} (admitted : phase.admits (.setControl setter)) :
    Stays phase (Code.set setter) := by
  simpa [Code.set] using admitted

/-- The same for a setter called on a change. -/
theorem whenChanged_stays {setting : Setting} {setter : Setter}
    (admitted : phase.admits (.setControl setter)) :
    Stays phase (Code.whenChanged setting (Code.set setter)) := by
  simpa [Code.whenChanged, Code.set] using admitted

/-- The end of `kcUpdateParams` for a changed width or height. -/
theorem applyParams_restarts {progress : Applying}
    (stored : progress = .stored ∨ progress = .resized) (calls : ∀ params, request ≠ .stream params) :
    Lands ⟨some request, progress⟩ ⟨some request, .applied⟩ (Code.applyParams true) := by
  refine (kcStopInternal_stays true false).bind fun _ => ?_
  refine ⟨?_, fun _ => ?_⟩
  · simpa using stored
  · exact kcStart_lands stored calls

/-- The end of `kcUpdateParams` for the same width and height, or a camera that
stands still. -/
theorem applyParams_copies {progress : Applying}
    (stored : progress = .stored ∨ progress = .restarted)
    (calls : ∀ params, request ≠ .record params) :
    Lands ⟨some request, progress⟩ ⟨some request, .applied⟩ (Code.applyParams false) := by
  simpa [Code.applyParams] using ⟨stored, calls⟩

/-- Whatever changed, `kcUpdateParams` ends with the stored parameters applied. -/
theorem kcUpdateParams_lands (calls : ∀ params, request ≠ .record params)
    (streams : ∀ params, request ≠ .stream params) :
    Lands ⟨some request, .stored⟩ ⟨some request, .applied⟩ Code.kcUpdateParams := by
  simp only [Code.kcUpdateParams, Prog.acquire_bind, Prog.perform_bind]
  refine ⟨trivial, fun resolution => ?_⟩
  refine (whenChanged_stays (by simpa using calls)).bind fun _ => ⟨trivial, fun mode => ?_⟩
  have setters {progress : Applying} (stored : progress = .stored ∧ mode = false ∨
      progress = .resized ∧ mode = true) :
      Lands ⟨some request, progress⟩ ⟨some request, .applied⟩ (do
        Code.whenChanged .brightness Code.kcSetBrightness
        Code.whenChanged .autoShutter Code.kcSetAutoShutter
        Code.whenChanged .awb Code.kcSetAWB
        Code.whenChanged .awbGains Code.kcSetAWBGains
        Code.whenChanged .shutterSpeed Code.kcSetShutterSpeed
        Code.release .params
        if resolution || mode then
          let run ← Code.perform .readRun
          Code.applyParams run
        else Code.applyParams false) := by
    have set (setting : Setting) (setter : Setter) :
        Stays ⟨some request, progress⟩ (Code.whenChanged setting (Code.set setter)) := by
      refine whenChanged_stays (.inr ⟨?_, by simpa using calls⟩)
      exact stored.imp And.left And.left
    refine (set .brightness .brightness).bind fun _ => ?_
    refine (set .autoShutter .autoShutter).bind fun _ => ?_
    refine (set .awb .awb).bind fun _ => ?_
    refine (set .awbGains .awbGains).bind fun _ => ?_
    refine (set .shutterSpeed .shutterSpeed).bind fun _ => ?_
    change Lands _ _ (if resolution || mode then _ else _)
    split
    · refine ⟨trivial, fun run => ?_⟩
      rcases stored with ⟨rfl, -⟩ | ⟨rfl, -⟩
      · cases run with
        | true => exact applyParams_restarts (.inl rfl) streams
        | false => exact applyParams_copies (.inl rfl) calls
      · cases run with
        | true => exact applyParams_restarts (.inr rfl) streams
        | false => exact applyParams_copies (.inr rfl) calls
    · rename_i unchanged
      rcases stored with ⟨rfl, -⟩ | ⟨-, rfl⟩
      · exact applyParams_copies (.inl rfl) calls
      · simp at unchanged
  cases mode with
  | true => exact ⟨⟨rfl, rfl⟩, fun _ => setters (.inr ⟨rfl, rfl⟩)⟩
  | false => exact setters (.inl ⟨rfl, rfl⟩)

/-- A function that leaves the phase. -/
theorem kcFrameData_stays (capture : Capture) : Stays phase (Code.kcFrameData capture) := by
  have stop : Stays phase Code.kcStopRecord := kcStopRecord_stays
  have finish (failed : Bool) : Stays phase (Code.finishFrame failed) := by
    simpa [Code.finishFrame] using fun _ _ => stop
  simp only [Code.kcFrameData, Prog.acquire_bind, Prog.perform_bind]
  refine ⟨trivial, fun begun => ?_⟩
  cases begun with
  | idle => exact kcStopInternal_stays false true
  | outOfMemory record => exact stop.bind fun _ => kcStopInternal_stays false true
  | recording list frame => exact ⟨trivial, fun res => finish _⟩
  | stored | skipped => exact finish false

/-- The duration and shift are read from the parameters, which stay. -/
theorem kcStartRecord_stays : Stays phase Code.kcStartRecord := by
  simp [Code.kcStartRecord]

/-- `m_memReserve` is read from the parameters, which stay. -/
theorem kcRecordProgress_stays : Stays phase Code.kcRecordProgress := by
  simp [Code.kcRecordProgress]

/-- Waiting for a record's next frame touches no parameter. -/
theorem kcWaitNextRecordFrame_stays (list : ListId) :
    Stays phase (Code.kcWaitNextRecordFrame list) := by
  simp [Code.kcWaitNextRecordFrame]

/-- Waiting for a record's last frame touches no parameter. -/
theorem kcWaitLastRecordFrame_stays : Stays phase Code.kcWaitLastRecordFrame := by
  simp [Code.kcWaitLastRecordFrame]

/-- `kcNextStreamFrame` may start the camera, and wait. -/
theorem kcNextStreamFrame_lands (reads : request.stores = false) :
    Lands ⟨some request, .before⟩ ⟨some request, .waiting⟩ Code.kcNextStreamFrame := by
  have take : Lands ⟨some request, .before⟩ ⟨some request, .waiting⟩ Code.takeStreamFrame := by
    simp [Code.takeStreamFrame, reads]
  refine ⟨trivial, fun run => ?_⟩
  cases run with
  | true => exact take
  | false => exact kcStart_stays.bind fun _ => take

/-! ## run.cpp -/

/-- A video thread that ends by an exception is in no call. -/
theorem unwind_stays : Stays phase Code.unwind := by
  simp [Code.unwind]

/-- Both ways on from a libcamera call leave the phase. -/
theorem attempt_stays {rest : Code Unit} (stays : Stays phase rest) :
    Stays phase (Code.attempt rest) := by
  refine ⟨trivial, fun threw => ?_⟩
  cases threw with
  | true => exact unwind_stays
  | false => exact stays

/-- A video thread may call the setters, as it is in no call. -/
theorem openLoop_stays : Stays .idle Code.openLoop := by
  have set (setter : Setter) : Stays .idle (Code.set setter) := set_stays (.inl rfl)
  refine ⟨trivial, fun _ => ?_⟩
  refine (set .brightness).bind fun _ => (set .awb).bind fun _ => ?_
  refine (set .framerate).bind fun _ => (set .autoShutter).bind fun _ => ?_
  exact attempt_stays <| attempt_stays <| attempt_stays rfl

/-- A turn of the loop leaves its thread in no call. -/
theorem eventLoopTurn_stays : Stays .idle Code.eventLoopTurn := by
  simp only [Code.eventLoopTurn, Prog.acquire_bind, Prog.perform_bind, Prog.release_bind]
  refine ⟨trivial, fun threw => ?_⟩
  cases threw with
  | true => exact unwind_stays
  | false =>
      refine attempt_stays ⟨trivial, fun capture => ?_⟩
      cases capture with
      | none => exact unwind_stays
      | some capture => exact (kcFrameData_stays capture).bind fun _ => attempt_stays rfl

/-- The end of `event_loop` leaves the phase. -/
theorem closeLoop_stays : Stays phase Code.closeLoop :=
  attempt_stays (by simp)

/-- A video thread is in no call as long as it lives. -/
theorem vidThread_stays : Stays .idle Code.vidThread := by
  refine ⟨trivial, fun _ => ⟨trivial, fun _ => ⟨trivial, fun threw => ?_⟩⟩⟩
  cases threw with
  | true => exact ⟨trivial, fun _ => rfl⟩
  | false => exact ⟨trivial, fun _ => openLoop_stays⟩

/-! ## Calls -/

/-- A call comes to its end, with all that it stores applied unless it fails. -/
abbrev Serves (request : Request) (code : Code Reply) : Prop :=
  code.Leads applying (fun reply after => after.admits (.endCall request reply))
    ⟨some request, .before⟩

/-- A call that stores nothing. -/
theorem Lands.serves {code : Code Reply} {progress : Applying} (reads : request.stores = false)
    (lands : Lands ⟨some request, .before⟩ ⟨some request, progress⟩ code)
    (done : ∀ camera, progress ≠ .made camera) : Serves request code := by
  refine Prog.Leads.mono lands fun reply after same => ?_
  subst same
  exact ⟨rfl, done, by simp [reads]⟩

/-- A call that stores nothing and leaves the phase may return. -/
theorem Stays.serves {code : Code Reply} (reads : request.stores = false)
    (stays : Stays ⟨some request, .before⟩ code) : Serves request code :=
  Lands.serves reads stays (by simp)

/-! ## streamer.c -/

/-- A Streamer's end stores nothing. -/
theorem streamerDealloc_stays (self : StreamerId) : Stays phase (Code.streamerDealloc self) := by
  refine ⟨trivial, fun record => ?_⟩
  cases record with
  | none => exact (kcStopInternal_stays true true).bind fun _ => by simp
  | some list =>
      refine ⟨trivial, fun current => ?_⟩
      have stop : Stays phase Code.kcStopRecord := kcStopRecord_stays
      by_cases attached : current = some list
      · simpa [attached] using stop.bind fun _ => by simp
      · simp [attached]

/-- `frame()` may start the camera, with nothing stored to apply. -/
theorem streamerFrame_serves (self : StreamerId) (bytes : Bool) :
    Serves (.frame self bytes) (Code.streamerFrame self bytes) := by
  refine ⟨trivial, fun record => ?_⟩
  cases record with
  | some list =>
      refine Stays.serves rfl ⟨trivial, fun _ => (kcWaitNextRecordFrame_stays list).bind fun _ => ?_⟩
      refine ⟨trivial, fun frame => ?_⟩
      cases frame <;> simp [Code.frameTuple]
  | none =>
      refine ⟨trivial, fun record => ?_⟩
      cases record with
      | some list =>
          refine Stays.serves rfl (kcWaitLastRecordFrame_stays.bind fun _ => ?_)
          simp [Code.frameTuple]
      | none =>
          refine (kcNextStreamFrame_lands rfl).bind fun frame => ?_
          cases frame <;> simp [Code.frameTuple, Request.stores]

/-- `stop()` stores nothing. -/
theorem streamerStop_stays (self : StreamerId) : Stays phase (Code.streamerStop self) := by
  refine ⟨trivial, fun record => ?_⟩
  cases record with
  | some list => exact kcStopRecord_stays.bind fun _ => rfl
  | none => exact (kcStopInternal_stays true true).bind fun _ => rfl

/-- `progress()` stores nothing. -/
theorem streamerProgress_stays (self : StreamerId) : Stays phase (Code.streamerProgress self) := by
  refine ⟨trivial, fun record => ?_⟩
  cases record with
  | none => exact kcRecordProgress_stays.bind fun _ => rfl
  | some list =>
      refine ⟨trivial, fun current => ?_⟩
      change Stays phase (if current = some list then _ else _)
      split
      · exact kcRecordProgress_stays.bind fun _ => rfl
      · simp [Code.locked]

/-! ## kcameramodule.c -/

/-- `load()` of a file stores nothing. -/
theorem createLoader_stays (file : Option (List UInt8)) : Stays phase (Code.createLoader file) := by
  refine ⟨trivial, fun made => ⟨trivial, fun error => ?_⟩⟩
  cases error with
  | none => rfl
  | some error => exact (streamerDealloc_stays _).bind fun _ => rfl

/-- The Camera's end stores nothing. -/
theorem cameraDealloc_stays : Stays ⟨some request, .before⟩ Code.cameraDealloc :=
  (kcStopInternal_stays true true).bind fun _ => by simp

/-- `camera_stream` leaves `m_currParams` as it is. -/
theorem cameraStream_serves (params : KcParams) :
    Serves (.stream params) (Code.cameraStream params) := by
  refine ⟨⟨rfl, _, rfl, rfl⟩, fun _ => ⟨trivial, fun streamer => ?_⟩⟩
  cases streamer <;> simp

/-- `camera_record` starts the camera, unless a recording goes on. -/
theorem cameraRecord_serves (params : KcParams) :
    Serves (.record params) (Code.cameraRecord params) := by
  have start : Code.startRecording.Leads applying
      (fun reply after => after.admits (.endCall (.record params) reply))
      ⟨some (.record params), .resized⟩ := by
    refine kcStartRecord_stays.bind fun list => ?_
    cases list with
    | none => simp
    | some list => exact (kcStart_lands (.inr rfl) (by simp)).bind fun _ => by simp
  refine ⟨⟨rfl, _, rfl, rfl⟩, fun _ => ⟨trivial, fun current => ?_⟩⟩
  cases current with
  | none => exact start
  | some list => exact kcStopRecord_stays.bind fun _ => start

/-- `Camera()` applies its parameters after `kcInit` has made `g_params` lead to
them. -/
theorem cameraNew_serves (params : KcParams) :
    Serves (.newCamera params) (Code.cameraNew params) := by
  simp only [Code.cameraNew, Prog.perform_bind]
  refine ⟨⟨rfl, params, rfl⟩, fun camera => ?_⟩
  cases camera with
  | none => simp
  | some camera =>
      refine (kcInit_lands params camera).bind fun _ => ⟨⟨rfl, _, rfl, rfl⟩, fun _ => ?_⟩
      exact (kcUpdateParams_lands (by simp) (by simp)).bind fun _ => by simp

/-- An assignment applies what it stores. -/
theorem cameraSetAttr_serves (params : KcParams) :
    Serves (.setAttr params) (Code.cameraSetAttr params) :=
  ⟨⟨rfl, _, rfl, rfl⟩, fun _ => (kcUpdateParams_lands (by simp) (by simp)).bind fun _ => by simp⟩

/-! ## The interpreter -/

/-- Each request is served as the protocol of calls says. -/
theorem serve_serves (request : Request) : Serves request (Code.serve request) := by
  cases request with
  | newCamera params => exact cameraNew_serves params
  | deleteCamera => exact Stays.serves rfl cameraDealloc_stays
  | setAttr params => exact cameraSetAttr_serves params
  | rejected params => simp [Code.serve, Request.stores]
  | stream params => exact cameraStream_serves params
  | record params => exact cameraRecord_serves params
  | load file => exact Stays.serves rfl (createLoader_stays file)
  | delete self => exact Stays.serves rfl (streamerDealloc_stays self)
  | frame self bytes => exact streamerFrame_serves self bytes
  | stop self => exact Stays.serves rfl (streamerStop_stays self)
  | progress self => exact Stays.serves rfl (streamerProgress_stays self)
  | loadEmpty | dropArray _ =>
      exact Stays.serves rfl (by simp [Code.serve, Code.cameraLoadEmpty])
  | seek self _ | start self | time self | setStartShift self _ | setDuration self _ =>
      refine Stays.serves rfl ?_
      simp only [Code.serve, Code.streamerSeek, Code.streamerStart, Code.streamerTime,
        Code.streamerSetStartShift, Code.streamerSetDuration, Code.locked]
      simp
      rintro (_ | list) <;> simp
  | save self =>
      refine Stays.serves rfl ⟨trivial, fun record => ?_⟩
      cases record with
      | none => rfl
      | some list =>
          refine ⟨trivial, fun opened => ?_⟩
          cases opened with
          | true => exact ⟨trivial, fun _ => rfl⟩
          | false => rfl
  | inspect self query =>
      refine Stays.serves rfl ⟨trivial, fun record => ?_⟩
      cases record <;> cases query <;> simp

/-- Every thread keeps to the protocol. -/
theorem bodies_lead (label : Label) :
    label.body.Leads applying (fun _ _ => True) (applying.entry label) := by
  have finish {phase : CallPhase} {request : Request} {reply : Reply}
      (ends : phase.admits (.endCall request reply)) :
      (Code.finish request reply).Leads applying (fun _ _ => True) phase :=
    ⟨ends, fun _ => rfl⟩
  cases label with
  | python =>
      exact ⟨rfl, fun request => (serve_serves request).bind fun reply after ends => finish ends⟩
  | video => exact vidThread_stays.mono fun _ _ _ => trivial
  | eventLoop =>
      refine ⟨trivial, fun run => ?_⟩
      cases run with
      | true => exact eventLoopTurn_stays.mono fun _ _ _ => trivial
      | false => exact closeLoop_stays.mono fun _ _ _ => trivial
  | saving self list len =>
      have turn : Stays ⟨some (.save self), .before⟩ (Code.locked list (.saveNext list)) := by
        simp [Code.locked]
      refine turn.bind fun step => ?_
      have ends (reply : Reply) :
          CallPhase.admits ⟨some (.save self), .before⟩ (.endCall (.save self) reply) := by
        simp [Request.stores]
      cases step with
      | wrote size => rfl
      | finished | failed => exact finish (ends _)

end

/-! ## Runs -/

/-- The call has stored parameters. -/
def CallPhase.hasStored (phase : CallPhase) : Prop :=
  phase.progress = .stored ∨ phase.progress = .resized ∨ phase.progress = .restarted ∨
    phase.progress = .applied

/-- What the phases have of the stages. -/
structure InStep (stages : Tid → Stage) (phases : Tid → CallPhase) : Prop where
  calling : ∀ thread, (phases thread).request = (stages thread).calling
  called : ∀ thread, (phases thread).progress ≠ .before → (phases thread).request.isSome
  unreleased : ∀ thread, (phases thread).progress ≠ .waiting → (stages thread).released = false
  storing : ∀ thread, (phases thread).hasStored →
    ∃ request, (phases thread).request = some request ∧ request.stores

section

variable {condition : System → Tid → Choice → Op → Prop} {state next : System} {thread : Tid}
  {choice : Choice} {operation : Op} {response : operation.Resp} {phases : Tid → CallPhase}

/-- A step of a run. -/
structure Steps (state next : System) : Prop where
  reached : Runs anyOperation state
  taken : ∃ event, performing anyOperation state event ∧ step semantics state event = some next

/-- `thread` performs an operation in its phase. -/
structure Move (condition : System → Tid → Choice → Op → Prop) (state next : System)
    (phases : Tid → CallPhase) (thread : Tid) (choice : Choice) (operation : Op)
    (response : operation.Resp) : Prop where
  turn : Turn condition state thread choice operation next.world response
  stage : next.stage = update state.stage thread ((state.stage thread).after operation response)
  steps : Steps state next
  phased : Phased applying state phases
  inStep : InStep state.stage phases

/-- A step performs what the phase of its thread admits. -/
theorem Move.admits (move : Move condition state next phases thread choice operation response) :
    (phases thread).admits operation :=
  move.phased.admits move.turn.current

/-- A phase and a stage after an operation. -/
theorem InStep.own {stage : Stage} {phase : CallPhase} {held : List Mutex}
    (allowed : stage.allows thread held operation) (admitted : phase.admits operation)
    (calling : phase.request = stage.calling)
    (called : phase.progress ≠ .before → phase.request.isSome)
    (unreleased : phase.progress ≠ .waiting → stage.released = false)
    (response : operation.Resp) :
    (phase.after operation response).request = (stage.after operation response).calling ∧
      ((phase.after operation response).progress ≠ .before →
        (phase.after operation response).request.isSome) ∧
      ((phase.after operation response).progress ≠ .waiting →
        (stage.after operation response).released = false) := by
  by_cases moves : Mark.calling ∈ operation.marks
  · cases operation with
    | nextCall =>
        refine ⟨rfl, fun _ => rfl, fun _ => unreleased ?_⟩
        simp [show phase = .idle from admitted, CallPhase.idle]
    | endCall request reply => exact ⟨rfl, by simp [CallPhase.idle], fun _ => rfl⟩
    | setTimer =>
        obtain ⟨_, request, here, _⟩ := admitted
        exact ⟨calling, fun _ => Option.isSome_iff_exists.mpr ⟨request, here⟩, by simp⟩
    | _ => simp [Op.marks] at moves
  · obtain ⟨same, released⟩ : stage.Shares (stage.after operation response) .calling :=
      Stage.after_shares allowed response moves
    rw [same, released, ← calling]
    cases operation with
    | nextCall | endCall _ _ | setTimer => simp [Op.marks] at moves
    | storeParams params =>
        obtain ⟨before, request, called, stores⟩ := admitted
        exact ⟨rfl, fun _ => Option.isSome_iff_exists.mpr ⟨request, called⟩,
          fun _ => unreleased (by simp [before])⟩
    | newCamera | initParams _ =>
        obtain ⟨progress, params, called⟩ := admitted
        exact ⟨rfl, fun _ => by simp [called], fun _ => unreleased (by simp [progress])⟩
    | setMode =>
        obtain ⟨called, progress⟩ := admitted
        exact ⟨rfl, fun _ => called, fun _ => unreleased (by simp [progress])⟩
    | copyParams =>
        obtain ⟨called, progress | progress, _⟩ := admitted <;>
          exact ⟨rfl, fun _ => called, fun _ => unreleased (by simp [progress])⟩
    | resetState =>
        obtain ⟨here, progress | progress | progress⟩ := admitted <;>
          simp_all
    | startParams | createThread =>
        obtain ⟨here, progress | progress⟩ := admitted <;> simp_all
    | readRun =>
        simp only [CallPhase.after]
        split
        · rename_i halted
          exact ⟨rfl, fun _ => called (by simp [halted.1]),
            fun _ => unreleased (by simp [halted.1])⟩
        · exact ⟨rfl, called, unreleased⟩
    | _ => exact ⟨rfl, called, unreleased⟩

/-- Only a call that stores parameters comes to have stored some. -/
theorem CallPhase.hasStored_after {phase : CallPhase} (admitted : phase.admits operation)
    (known : phase.hasStored → ∃ request, phase.request = some request ∧ request.stores)
    (stored : (phase.after operation response).hasStored) :
    ∃ request, (phase.after operation response).request = some request ∧ request.stores := by
  have before {progress : Applying} (same : phase.progress = progress)
      (stores : progress = .stored ∨ progress = .resized ∨ progress = .restarted) :
      ∃ request, phase.request = some request ∧ request.stores :=
    known (by rcases stores with rfl | rfl | rfl <;> simp [hasStored, same])
  cases operation with
  | storeParams params =>
      obtain ⟨_, request, called, stores⟩ := admitted
      exact ⟨request, called, stores⟩
  | nextCall | endCall _ _ | initParams _ | setTimer => simp [hasStored, idle] at stored
  | newCamera => cases response <;> simp [hasStored] at stored
  | setMode => exact before admitted.2 (.inl rfl)
  | copyParams =>
      obtain ⟨_, progress | progress, _⟩ := admitted
      · exact before progress (.inl rfl)
      · exact before progress (.inr (.inr rfl))
  | resetState =>
      obtain ⟨_, progress | progress | progress⟩ := admitted
      · simp [hasStored, progress] at stored
      · simpa [progress] using before progress (.inl rfl)
      · simpa [progress] using before progress (.inr (.inl rfl))
  | startParams =>
      obtain ⟨_, progress | progress⟩ := admitted
      · simp [hasStored, progress] at stored
      · exact before progress (.inr (.inr rfl))
  | createThread =>
      obtain ⟨_, progress | ⟨progress, _⟩⟩ := admitted
      · simp [hasStored, progress] at stored
      · exact known (by simp [hasStored, progress])
  | readRun =>
      simp only [after] at stored ⊢
      split
      · rename_i halted
        exact before halted.1 (.inr (.inl rfl))
      · rename_i unhalted
        rw [if_neg unhalted] at stored
        exact known stored
  | _ => exact known stored

/-- After a step every stage still is in step with its phase. -/
theorem Move.inStep_next (move : Move condition state next phases thread choice operation response) :
    InStep next.stage
      (update phases thread ((phases thread).after operation response)) := by
  obtain ⟨calling, called, unreleased, storing⟩ := move.inStep
  have own := InStep.own move.turn.allowed move.admits (calling thread) (called thread)
    (unreleased thread) response
  rw [move.stage]
  constructor
  · intro other
    by_cases same : other = thread
    · subst same
      simpa using own.1
    · simpa [same] using calling other
  · intro other
    by_cases same : other = thread
    · subst same
      simpa using own.2.1
    · simpa [same] using called other
  · intro other
    by_cases same : other = thread
    · subst same
      simpa using own.2.2
    · simpa [same] using unreleased other
  · intro other stored
    by_cases same : other = thread
    · subst same
      rw [Function.update_self] at stored ⊢
      exact CallPhase.hasStored_after move.admits (storing other) stored
    · rw [Function.update_of_ne same] at stored ⊢
      exact storing other stored

/-- Who has stored parameters, or is about to, has the interpreter lock. -/
theorem Move.sole (move : Move condition state next phases thread choice operation response)
    (gil : .gil ∈ state.held thread) {other : Tid} (calls : (phases other).request.isSome)
    (lock : (phases other).progress ≠ .waiting) : other = thread := by
  refine move.turn.sole gil (.inl ⟨?_, ?_⟩)
  · rwa [← move.inStep.calling]
  · simp [move.inStep.unreleased other lock]

/-- An invariant of runs that reads the phases: it holds at the start, steps without an
operation keep it, and so does every operation. -/
theorem Runs.phased (invariant : System → (Tid → CallPhase) → Prop)
    (start : invariant .initial fun _ => .idle)
    (quiet : ∀ state next phases, next.world = state.world → next.stage = state.stage →
      Steps state next → invariant state phases → invariant next phases)
    (kept : ∀ state next phases thread choice operation response,
      Move condition state next phases thread choice operation response →
      invariant state phases →
      invariant next (update phases thread ((phases thread).after operation response)))
    (reached : Runs condition state) :
    ∃ phases, Phased applying state phases ∧ InStep state.stage phases ∧
      invariant state phases := by
  refine Reach.invariant (fun state => ∃ phases, Phased applying state phases ∧
    InStep state.stage phases ∧ invariant state phases) ?_ ?_ reached
  · rintro _ rfl
    refine ⟨fun _ => .idle, ?_, ⟨fun _ => rfl, ?_, fun _ _ => rfl, ?_⟩, start⟩
    · rintro (index | index) <;> rfl
    · intro thread other
      exact absurd rfl other
    · intro thread stored
      simp [CallPhase.hasStored, CallPhase.idle] at stored
  · intro state event next prior known admitted taken
    obtain ⟨phases, phased, inStep, holds⟩ := known
    have steps : Steps state next := ⟨Runs.weaken prior, event, admitted.weaken, taken⟩
    rcases phased.step bodies_lead taken with ⟨_, world, stage, phased'⟩ |
      ⟨thread, choice, woken, operation, response, rfl, current, executed, stage, phased'⟩
    · refine ⟨phases, phased', ?_, quiet _ _ _ world stage steps holds⟩
      rwa [stage]
    · have executed : operation.exec thread choice state.world = some (next.world, response) :=
        executed
      unfold Op.exec at executed
      split at executed
      · cases executed
      · rename_i running
        have move : Move condition state next phases thread choice operation response :=
          ⟨⟨Runs.weaken prior, by simpa using running, current, (admitted _ current).2,
            (admitted _ current).1, executed⟩, stage, steps, phased, inStep⟩
        exact ⟨_, phased', move.inStep_next, kept _ _ _ _ _ _ _ move holds⟩

/-! ## The Camera behind `g_params` -/

/-- There is one Camera, and `g_params` leads to it unless it was just made. -/
structure Pointed (world : World) (phases : Tid → CallPhase) : Prop where
  live : ∀ camera, (world.cameras camera).isSome ↔ world.camera = some camera
  made : ∀ thread camera, (phases thread).progress = .made camera → world.camera = some camera
  pointed : ∀ camera, world.camera = some camera →
    world.params = some camera ∨ ∃ thread, (phases thread).progress = .made camera

/-- Only `camera_new` and `kcInit` come to a Camera that was just made, or leave it. -/
theorem CallPhase.after_made {phase : CallPhase} {camera : CameraId}
    (admitted : phase.admits operation) (creates : operation ≠ .newCamera)
    (sets : operation ≠ .initParams camera) :
    (phase.after operation response).progress = .made camera ↔ phase.progress = .made camera := by
  cases operation with
  | newCamera => exact absurd rfl creates
  | initParams other =>
      obtain ⟨progress, _⟩ := admitted
      have different : other ≠ camera := by
        rintro rfl
        exact sets rfl
      simp [progress, different]
  | nextCall =>
      have idle : phase = .idle := admitted
      simp [idle, CallPhase.idle]
  | endCall request reply => simp [CallPhase.idle, admitted.2.1 camera]
  | storeParams params =>
      obtain ⟨progress, request, called, _⟩ := admitted
      cases request <;> simp [called, progress, Request.storing]
  | setMode => simp [admitted.2]
  | copyParams => obtain ⟨_, progress | progress, _⟩ := admitted <;> simp [progress]
  | resetState => obtain ⟨_, progress | progress | progress⟩ := admitted <;> simp [progress]
  | startParams => obtain ⟨_, progress | progress⟩ := admitted <;> simp [progress]
  | createThread => obtain ⟨_, progress | ⟨progress, _⟩⟩ := admitted <;> simp [progress]
  | setTimer => simp [admitted.1]
  | readRun =>
      simp only [CallPhase.after]
      split
      · rename_i halted
        simp [halted.1]
      · rfl
  | _ => rfl

/-- A Camera that was just made is the one `camera_new` works on. -/
theorem Pointed.newCamera {response : Option CameraId}
    (move : Move condition state next phases thread choice .newCamera response)
    (pointed : Pointed state.world phases) :
    Pointed next.world (update phases thread ((phases thread).after .newCamera response)) := by
  obtain ⟨before, params, called⟩ := move.admits
  have executed := move.turn.executed
  simp only [Op.run, World.newCamera, Option.some.injEq] at executed
  cases present : state.world.camera with
  | some camera =>
      simp only [present, Prod.mk.injEq] at executed
      obtain ⟨world, rfl⟩ := executed
      have same (other : Tid) : (update phases thread
          ((phases thread).after .newCamera none) other).progress = (phases other).progress := by
        by_cases same : other = thread
        · subst same
          simp [before]
        · simp [same]
      rw [← world]
      refine ⟨pointed.live, ?_, ?_⟩
      · simpa only [same] using pointed.made
      · simpa only [same] using pointed.pointed
  | none =>
      simp only [present, Prod.mk.injEq] at executed
      obtain ⟨world, rfl⟩ := executed
      rw [← world]
      constructor
      · intro camera
        by_cases new : camera = state.world.nextCamera
        · simp [new]
        · have dead := pointed.live camera
          simp only [present, reduceCtorEq, iff_false] at dead
          simpa [new, Ne.symm new] using dead
      · intro other camera made
        by_cases same : other = thread
        · subst same
          simpa [eq_comm] using made
        · rw [Function.update_of_ne same] at made
          have there := pointed.made other camera made
          simp [present] at there
      · intro camera there
        refine .inr ⟨thread, ?_⟩
        rw [Function.update_self]
        simpa [eq_comm] using there

/-- A Camera is freed only when no call still makes one. -/
theorem Pointed.freeCamera {response : Unit}
    (move : Move condition state next phases thread choice .freeCamera response)
    (pointed : Pointed state.world phases)
    (sole : .gil ∈ state.held thread → ∀ {other camera},
      (phases other).progress = .made camera → other = thread) :
    Pointed next.world (update phases thread ((phases thread).after .freeCamera response)) := by
  have unmade := move.admits
  have gil := move.turn.allowed.2.1
  have alone (other : Tid) (camera : CameraId) : (update phases thread
      ((phases thread).after .freeCamera response) other).progress ≠ .made camera := by
    intro made
    by_cases same : other = thread
    · subst same
      rw [Function.update_self] at made
      exact unmade camera made
    · rw [Function.update_of_ne same] at made
      exact same (sole gil made)
  rw [result_eq move.turn.executed]
  unfold World.freeCamera
  cases present : state.world.camera with
  | none =>
      refine ⟨?_, fun other camera made => absurd made (alone other camera), ?_⟩
      · simpa [present] using pointed.live
      · simp [present]
  | some found =>
      refine ⟨fun camera => ?_, fun other camera made => absurd made (alone other camera), nofun⟩
      by_cases same : camera = found
      · simp [same]
      · have dead := pointed.live camera
        simp only [present, Option.some.injEq, Ne.symm same, iff_false] at dead
        simpa [same] using dead

/-- `kcInit` makes `g_params` lead to the Camera that the call has made. -/
theorem Pointed.initParams {camera : CameraId} {response : Unit}
    (move : Move condition state next phases thread choice (.initParams camera) response)
    (pointed : Pointed state.world phases)
    (sole : .gil ∈ state.held thread → ∀ {other camera},
      (phases other).progress = .made camera → other = thread) :
    Pointed next.world
      (update phases thread ((phases thread).after (.initParams camera) response)) := by
  obtain ⟨made, _⟩ := move.admits
  have present := pointed.made thread camera made
  obtain ⟨same, params, objects⟩ :
      Agree { state.world with params := some camera } next.world .cameras := by
    rw [result_eq move.turn.executed]
    exact state.world.initParams_pointed camera (by simp) (by simp) (by simp)
  constructor
  · intro other
    rw [same]
    have alive := congrArg Option.isSome (objects other)
    simp only [Option.isSome_map] at alive
    rw [alive]
    exact pointed.live other
  · intro other found made
    by_cases own : other = thread
    · subst own
      simp at made
    · rw [Function.update_of_ne own] at made
      exact absurd (sole move.turn.allowed.2.1 made) own
  · intro found there
    rw [same] at there
    have there : state.world.camera = some found := there
    rw [present, Option.some.injEq] at there
    exact .inl (there ▸ params)

/-- Each operation keeps `g_params` with the Camera, but for a call that is making
one. -/
theorem Pointed.step (move : Move condition state next phases thread choice operation response)
    (pointed : Pointed state.world phases) :
    Pointed next.world (update phases thread ((phases thread).after operation response)) := by
  have admitted := move.admits
  -- Who is setting up a Camera is the only one that makes, sets up or frees one.
  have sole (gil : .gil ∈ state.held thread) {other : Tid} {camera : CameraId}
      (made : (phases other).progress = .made camera) : other = thread :=
    move.sole gil (move.inStep.called other (by simp [made])) (by simp [made])
  have still (creates : operation ≠ .newCamera) (sets : ∀ camera, operation ≠ .initParams camera)
      (other : Tid) (camera : CameraId) :
      (update phases thread ((phases thread).after operation response) other).progress =
        .made camera ↔ (phases other).progress = .made camera := by
    by_cases same : other = thread
    · subst same
      rw [Function.update_self]
      exact CallPhase.after_made admitted creates (sets camera)
    · rw [Function.update_of_ne same]
  have kept (creates : operation ≠ .newCamera) (sets : ∀ camera, operation ≠ .initParams camera)
      (camera : next.world.camera = state.world.camera)
      (params : next.world.params = state.world.params)
      (alive : ∀ other, (next.world.cameras other).isSome = (state.world.cameras other).isSome) :
      Pointed next.world (update phases thread ((phases thread).after operation response)) := by
    constructor
    · intro other
      rw [alive, camera]
      exact pointed.live other
    · intro other found made
      rw [camera]
      exact pointed.made other found ((still creates sets other found).mp made)
    · intro found present
      rw [params]
      refine (pointed.pointed found (camera ▸ present)).imp_right ?_
      rintro ⟨other, made⟩
      exact ⟨other, (still creates sets other found).mpr made⟩
  by_cases creates : operation = .newCamera
  · subst creates
    exact pointed.newCamera move
  by_cases frees : operation = .freeCamera
  · subst frees
    exact pointed.freeCamera move sole
  by_cases sets : ∃ camera, operation = .initParams camera
  · obtain ⟨camera, rfl⟩ := sets
    exact pointed.initParams move sole
  have sets (camera : CameraId) : operation ≠ .initParams camera := fun same => sets ⟨camera, same⟩
  rcases Op.run_cameras move.turn.executed with ⟨camera, params, objects⟩ | ⟨created, _⟩ |
    ⟨freed, _⟩ | ⟨set, _⟩ | ⟨_, camera, params, alive, _⟩ | ⟨_, camera, params, alive, _⟩
  · refine kept creates sets camera params fun other => ?_
    simpa using congrArg Option.isSome (objects other)
  · exact absurd created creates
  · exact absurd freed frees
  · exact absurd set (sets _)
  · exact kept creates sets camera params alive
  · exact kept creates sets camera params alive

/-- At first there is no Camera and no call. -/
theorem pointed_initial : Pointed .initial fun _ => .idle :=
  ⟨fun _ => ⟨nofun, nofun⟩, nofun, nofun⟩

/-- A call that stores parameters stores them where `g_params` leads to, if it leads
anywhere. -/
theorem Move.stores {params : KcParams} {response : Unit}
    (move : Move condition state next phases thread choice (.storeParams params) response)
    (pointed : Pointed state.world phases) :
    next.world.kcParams = none ∨ ∃ old, state.world.kcParams = some old ∧
      state.world.cameraParams = some old ∧ next.world.kcParams = some params ∧
      next.world.g.currParams = state.world.g.currParams := by
  obtain ⟨before, request, called, stores⟩ := move.admits
  cases move.turn.params with
  | measured quiet => cases quiet
  | failed fault =>
      have running := move.turn.running
      rw [result_eq move.turn.executed] at fault
      unfold World.onCamera at fault
      split at fault <;> simp [running] at fault
  | missed _ missed same =>
      left
      cases after : next.world.kcParams with
      | none => rfl
      | some params =>
          exfalso
          obtain ⟨old, _, found, _⟩ := same.params params after
          -- Some Camera is behind `g_params`, so it is the one that there is.
          obtain ⟨pointer, led⟩ : ∃ camera, state.world.params = some camera := by
            cases pointer : state.world.params with
            | none => simp [World.kcParams, pointer] at found
            | some camera => exact ⟨camera, rfl⟩
          have alive : (state.world.cameras pointer).isSome := by
            have alive : state.world.kcParams.isSome := by simp [found]
            simpa [World.kcParams, led] using alive
          have dead := missed pointer ((pointed.live pointer).mp alive) led
          simp [dead] at alive
  | stored same_operation same present after current =>
      cases same_operation
      obtain ⟨old, found⟩ := Option.isSome_iff_exists.mp present
      exact .inr ⟨old, found, same.trans found, after, current⟩
  | initialised same | sized same | reset same | tuned same | started same | copied same => cases same

end

end KCamera
