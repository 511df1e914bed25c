import KCamera.Engine.Operations
import KCamera.Machine.Program

/-!
# The program text

The functions of `kcamera.c`, `run.cpp`, `streamer.c` and `kcameramodule.c` as
programs of threads. The interpreter's threads take the interpreter lock, make
one call and give the lock back; only `kcNextStreamFrame` gives it back within a
call. A thread that `pthread_create` made runs `vidThread`.
-/

namespace KCamera

open Machine

/-- Programs that are gone back to. -/
inductive Label where
  | python
  | video
  /-- The loop of `event_loop`. -/
  | eventLoop
  /-- The loop of `save`, with the bytes written so far. -/
  | saving (self : StreamerId) (list : ListId) (len : UInt32)
deriving DecidableEq, Repr

abbrev Code := Prog Op Op.Resp Mutex Label

namespace Code

abbrev perform (operation : Op) : Code operation.Resp := Prog.perform operation
abbrev acquire (mutex : Mutex) : Code Unit := Prog.acquire mutex
abbrev release (mutex : Mutex) : Code Unit := Prog.release mutex
abbrev notify : Code Unit := Prog.notify
abbrev waitWhile (test : Op) (again : test.Resp → Bool) (mutex : Mutex) : Code Unit :=
  Prog.waitWhile test again mutex
abbrev jump {α : Type} (label : Label) : Code α := Prog.jump label

/-! ## kcamera.c -/

def kcInit (camera : CameraId) : Code Unit := do
  perform .initMutexes
  acquire .params
  perform (.initParams camera)
  release .params

def kcStart : Code Unit := do
  acquire .params
  perform .awaitStopped
  acquire .frame
  perform .resetState
  release .frame
  perform .startParams
  perform .createThread
  release .params

/-- `kcStopInternal` behind its test of `m_stopping`. -/
def stopRunning (join signal : Bool) : Code Unit := do
  acquire .params
  perform (.stopCameraLoop join)
  acquire .frame
  perform (.clearRun join signal)
  if signal then
    notify
    perform .dropFrame
  release .frame
  if join then perform .join else perform .setStopping
  perform .clearFps
  release .params

def kcStopInternal (join signal : Bool) : Code Unit := do
  let stopping ← perform .readStopping
  if stopping then pure () else stopRunning join signal

def kcStop : Code Unit := kcStopInternal true true

def kcExit : Code Unit := kcStop

def kcWaitNextRecordFrame (list : ListId) : Code Unit := do
  acquire .frame
  waitWhile (.nextRecordFrame list) (fun again => again) .frame
  release .frame

def kcWaitLastRecordFrame : Code Unit := do
  acquire .frame
  let recording ← perform .hasRecord
  if recording then waitWhile .lastRecordFrame (fun again => again) .frame
  release .frame

/-- `kcNextStreamFrame` behind its test of `m_run`. -/
def takeStreamFrame : Code (Option KcFrame) := do
  acquire .frame
  let wait ← perform .setTimer
  if wait then release .gil
  waitWhile .slotEmpty (fun again => again) .frame
  let frame ← perform .takeFrame
  release .frame
  if wait then acquire .gil
  pure frame

def kcNextStreamFrame : Code (Option KcFrame) := do
  let run ← perform .readRun
  if run then takeStreamFrame
  else
    kcStart
    takeStreamFrame

def kcStopRecord : Code Unit := do
  acquire .frame
  perform .stopRecord
  release .frame

/-- The end of `kcFrameData`'s critical section and what its flags ask for. -/
def finishFrame (failed : Bool) : Code Unit := do
  let exceeded ← perform .endFrame
  release .frame
  if failed || exceeded.isSome then kcStopRecord else pure ()

def kcFrameData (capture : Capture) : Code Unit := do
  acquire .frame
  match ← perform (.beginFrame capture) with
  | .idle =>
      release .frame
      kcStopInternal false true
  | .outOfMemory _ =>
      release .frame
      kcStopRecord
      kcStopInternal false true
  | .recording list frame =>
      acquire (.record list)
      let res ← perform (.append list frame)
      release (.record list)
      notify
      finishFrame (res < 0)
  | .stored =>
      notify
      finishFrame false
  | .skipped => finishFrame false

/-- A setter of `run.cpp`. -/
def set (setter : Setter) : Code Unit := do
  acquire .controls
  perform (.setControl setter)
  release .controls

def kcSetBrightness : Code Unit := set .brightness
def kcSetAWBGains : Code Unit := set .awbGains
def kcSetAWB : Code Unit := set .awb
def kcSetFramerate : Code Unit := set .framerate
def kcSetShutterSpeed : Code Unit := set .shutterSpeed
def kcSetAutoShutter : Code Unit := set .autoShutter

/-- `if (changed) setter()`. -/
def whenChanged (setting : Setting) (setter : Code Unit) : Code Unit := do
  let changed ← perform (.changed setting)
  if changed then setter else pure ()

/-- `kcUpdateParams` behind its first critical section. -/
def applyParams (restart : Bool) : Code Unit := do
  if restart then
    kcStopInternal true false
    perform .resetShutter
    kcStart
  else
    acquire .params
    perform .copyParams
    release .params

def kcUpdateParams : Code Unit := do
  acquire .params
  let resolution ← perform (.changed .resolution)
  whenChanged .framerate kcSetFramerate
  let mode ← perform (.changed .mode)
  if mode then perform .setMode else pure ()
  whenChanged .brightness kcSetBrightness
  whenChanged .autoShutter kcSetAutoShutter
  whenChanged .awb kcSetAWB
  whenChanged .awbGains kcSetAWBGains
  whenChanged .shutterSpeed kcSetShutterSpeed
  release .params
  if resolution || mode then
    let run ← perform .readRun
    applyParams run
  else applyParams false

/-- The list, or `none` for a return of -1. -/
def kcStartRecord : Code (Option ListId) := do
  let current ← perform .getRecord
  if current.isSome then pure none -- already recording
  else
    acquire .frame
    let list ← perform .allocRecord
    release .frame
    pure (some list)

def kcRecordProgress : Code UInt32 := do
  let recording ← perform .recordingNow
  if recording then
    let p0 ← perform .memoryProgress
    let list ← perform .derefRecord
    acquire (.record list)
    let limited ← perform .recordLimited
    let p1 ← if limited then perform .durationProgress else pure 0
    perform (.sameRecord list)
    release (.record list)
    pure (max p0 p1)
  else pure 100

/-! ## run.cpp -/

/-- Leave `kcStartCameraLoop` through its handler. -/
def unwind : Code Unit := do
  perform .destruct
  perform .exit

/-- Call `app` and go on with `rest` unless the call throws. -/
def attempt (rest : Code Unit) : Code Unit := do
  let threw ← perform .useApp
  if threw then unwind else rest

/-- `event_loop` before its loop. -/
def openLoop : Code Unit := do
  perform .setOptions
  kcSetBrightness
  kcSetAWB
  kcSetFramerate
  kcSetAutoShutter
  attempt <| attempt <| attempt <| jump .eventLoop -- open, configure and start the camera

/-- One turn of the loop of `event_loop` with `run` set. -/
def eventLoopTurn : Code Unit := do
  acquire .controls
  let threw ← perform .useApp -- app->SetControls
  release .controls
  if threw then unwind
  else attempt do -- app->Wait
    match ← perform .takeCapture with
    | none => unwind
    | some capture =>
        kcFrameData capture
        attempt (jump .eventLoop) -- app->QueueRequest

/-- `event_loop` behind its loop, and the end of `kcStartCameraLoop`. -/
def closeLoop : Code Unit :=
  attempt do -- app->StopCamera
    perform .stopped
    perform .clearApp
    perform .destruct
    perform .exit

def eventLoop : Code Unit := do
  let run ← perform .readLoop
  if run then eventLoopTurn else closeLoop

/-- `vidThread` with `kcStartCameraLoop`. -/
def vidThread : Code Unit := do
  perform .begin
  perform .setRun
  let threw ← perform .construct
  if threw then perform .exit
  else
    perform .publishApp
    openLoop

/-! ## streamer.c -/

def streamerDealloc (self : StreamerId) : Code Reply := do
  match ← perform (.recordOf self) with
  | some list =>
      let current ← perform .getRecord
      if current = some list then kcStopRecord
      perform (.freeRecord list)
  | none =>
      kcStop
      perform (.streamCallback self)
  perform (.freeStreamer self)
  pure .none

/-- The tuple of `streamer_frame`. -/
def frameTuple (self : StreamerId) (frame : KcFrame) (bytes : Bool) : Code Reply := do
  let index ← perform (.makeArray self frame bytes)
  pure (.frame frame index)

/-- `streamer_frame` of a recording. -/
def recordFrame (self : StreamerId) (bytes : Bool) (list : ListId) : Code Reply := do
  perform (.noteIndex self list)
  kcWaitNextRecordFrame list
  acquire (.record list)
  match ← perform (.next list) with
  | none =>
      release (.record list)
      pure .none
  | some frame =>
      let reply ← frameTuple self frame bytes
      release (.record list)
      pure reply

/-- `streamer_frame` of the live stream. -/
def liveFrame (self : StreamerId) (bytes : Bool) : Code Reply := do
  match ← perform .getRecord with
  | some list => -- if we're recording, send the most recently recorded frame
      kcWaitLastRecordFrame
      acquire (.record list)
      let frame ← perform (.copyBack list)
      let reply ← frameTuple self frame bytes
      release (.record list)
      pure reply
  | none =>
      match ← kcNextStreamFrame with
      | none => pure .none
      | some frame => frameTuple self frame bytes

def streamerFrame (self : StreamerId) (bytes : Bool) : Code Reply := do
  match ← perform (.recordOf self) with
  | some list => recordFrame self bytes list
  | none => liveFrame self bytes

/-- One operation on a list under its mutex. -/
def locked (list : ListId) (operation : Op) : Code (Op.Resp operation) := do
  acquire (.record list)
  let response ← perform operation
  release (.record list)
  pure response

def streamerSeek (self : StreamerId) (n : UInt32) : Code Reply := do
  match ← perform (.recordOf self) with
  | some list =>
      locked list (.seek list n)
      pure .none
  | none => pure (.error "cannot seek within this type of stream")

def streamerStop (self : StreamerId) : Code Reply := do
  match ← perform (.recordOf self) with
  | some _ =>
      kcStopRecord
      pure (.integer 0)
  | none =>
      kcStop
      pure (.integer 0)

def streamerStart (self : StreamerId) : Code Reply := do
  match ← perform (.recordOf self) with
  | some list =>
      perform (.start list)
      pure (.integer 0)
  | none => pure (.integer 0)

/-- `streamer_recording`, `streamer_len` and `streamer_index`. -/
def streamerInspect (self : StreamerId) (query : Query) : Code Reply := do
  match ← perform (.recordOf self) with
  | some list =>
      let found ← perform (.inspect list)
      pure (.integer (match query with
        | .recording => found.elim 0 FrameList.recording
        | .len => (found.elim 0 FrameList.len).toNat
        | .index => (found.elim 0 FrameList.readIndex).toNat))
  | none =>
      match query with
      | .recording => pure (.integer 0)
      | .len => pure (.integer (-1))
      | .index =>
          let index ← perform (.indexOf self)
          pure (.integer index.toNat)

def streamerProgress (self : StreamerId) : Code Reply := do
  match ← perform (.recordOf self) with
  | some list =>
      let current ← perform .getRecord
      if current = some list then
        let progress ← kcRecordProgress
        pure (.integer progress.toNat)
      else
        let found ← locked list (.inspect list)
        pure (.integer (found.elim 0 FrameList.playProgress).toNat)
  | none =>
      let progress ← kcRecordProgress
      pure (.integer progress.toNat)

def streamerTime (self : StreamerId) : Code Reply := do
  match ← perform (.recordOf self) with
  | some list =>
      let time ← locked list (.time list)
      pure (.float time)
  | none => pure (.float 0)

def streamerSave (self : StreamerId) : Code Reply := do
  match ← perform (.recordOf self) with
  | some list =>
      let opened ← perform .openFile
      if opened then
        locked list (.seek list 0)
        jump (.saving self list 0)
      else pure (.error SaveError.open.message)
  | none => pure (.error "cannot save this type of stream")

def streamerSetStartShift (self : StreamerId) (startShift : Int32) : Code Reply := do
  perform (.setStreamerShift self startShift)
  match ← perform (.recordOf self) with
  | some list =>
      locked list (.setListShift list startShift)
      pure .none
  | none => pure .none

def streamerSetDuration (self : StreamerId) (duration : UInt32) : Code Reply := do
  perform (.setStreamerDuration self duration)
  match ← perform (.recordOf self) with
  | some list =>
      locked list (.setListDuration list duration)
      pure .none
  | none => pure .none

/-! ## kcameramodule.c -/

/-- `createStream` with a filename; when `streamer_init` fails the new object is
deallocated. -/
def createLoader (file : Option (List UInt8)) : Code Reply := do
  let (self, list) ← perform .newLoader
  match ← perform (.load list file) with
  | none => pure (.streamer self)
  | some error =>
      let _ ← streamerDealloc self
      pure (.error error.message)

def cameraStream (params : KcParams) : Code Reply := do
  perform (.storeParams params)
  match ← perform .streamObject with
  | none =>
      let self ← perform (.newStreamer .stream)
      perform (.keepStreamObject self)
      pure (.streamer self)
  | some self =>
      perform (.shareStreamObject self)
      pure (.streamer self)

/-- `camera_record` after the recording before it is stopped. -/
def startRecording : Code Reply := do
  match ← kcStartRecord with
  | none => pure (.error "recorder is already recording")
  | some list =>
      kcStart
      let self ← perform (.newStreamer (.record list))
      pure (.streamer self)

def cameraRecord (params : KcParams) : Code Reply := do
  perform (.storeParams params)
  let current ← perform .getRecord
  if current.isSome then kcStopRecord
  startRecording

def cameraLoadEmpty : Code Reply := do
  let self ← perform (.newStreamer .load)
  pure (.streamer self)

def cameraDealloc : Code Reply := do
  kcExit
  perform .freeCamera
  pure .none

/-- `camera_new` and `camera_init`. -/
def cameraNew (params : KcParams) : Code Reply := do
  match ← perform .newCamera with
  | none => pure (.error "only one Camera object allowed")
  | some camera =>
      kcInit camera
      perform (.storeParams params)
      kcUpdateParams
      pure .none

def cameraSetAttr (params : KcParams) : Code Reply := do
  perform (.storeParams params)
  kcUpdateParams
  pure .none

/-! ## The interpreter -/

/-- The call that a request makes. -/
def serve : Request → Code Reply
  | .newCamera params => cameraNew params
  | .deleteCamera => cameraDealloc
  | .setAttr params => cameraSetAttr params
  | .rejected params => do
      perform (.storeParams params)
      pure (.error "")
  | .stream params => cameraStream params
  | .record params => cameraRecord params
  | .loadEmpty => cameraLoadEmpty
  | .load file => createLoader file
  | .delete self => streamerDealloc self
  | .frame self bytes => streamerFrame self bytes
  | .seek self n => streamerSeek self n
  | .stop self => streamerStop self
  | .start self => streamerStart self
  | .inspect self query => streamerInspect self query
  | .progress self => streamerProgress self
  | .time self => streamerTime self
  | .save self => streamerSave self
  | .setStartShift self startShift => streamerSetStartShift self startShift
  | .setDuration self duration => streamerSetDuration self duration
  | .dropArray frame => do
      perform (.freeArray frame)
      pure .none

/-- The end of a call. -/
def finish (request : Request) (reply : Reply) : Code Unit := do
  perform (.endCall request reply)
  release .gil
  jump .python

def python : Code Unit := do
  acquire .gil
  let request ← perform .nextCall
  let reply ← serve request
  finish request reply

/-- A turn of the loop of `save`. -/
def saving (self : StreamerId) (list : ListId) (len : UInt32) : Code Unit := do
  match ← locked list (.saveNext list) with
  | .finished => finish (.save self) (.integer len.toNat)
  | .wrote size => jump (.saving self list (len + size))
  | .failed => finish (.save self) (.error SaveError.writing.message)

end Code

/-- The program of a label. -/
def Label.body : Label → Code Unit
  | python => Code.python
  | video => Code.vidThread
  | eventLoop => Code.eventLoop
  | saving self list len => Code.saving self list len

end KCamera
