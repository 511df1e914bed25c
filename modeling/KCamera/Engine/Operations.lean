import KCamera.Engine.World
import KCamera.FrameList.Progress

/-!
# Operations

What the instructions of `kcamera.c`, `run.cpp`, `streamer.c` and
`kcameramodule.c` do to the shared state. An operation stands for a stretch of
source that no other thread can observe half done: a critical section or part of
one, or a single access. `Op.exec` is `none` while an operation blocks.
-/

namespace KCamera

/-- The methods that read one field. -/
inductive Query where
  | recording
  | len
  | index
deriving DecidableEq, Repr

/-- A call of the module from Python. Keyword arguments and assigned values are
given by the parameters they leave behind. -/
inductive Request where
  /-- `Camera(...)` -/
  | newCamera (params : KcParams)
  /-- the Camera is deallocated -/
  | deleteCamera
  | setAttr (params : KcParams)
  /-- a call that raises an exception after it may have stored parameters -/
  | rejected (params : KcParams)
  | stream (params : KcParams)
  | record (params : KcParams)
  /-- `load` with an empty filename -/
  | loadEmpty
  /-- `load`; `none` when the file cannot be opened -/
  | load (file : Option (List UInt8))
  /-- the Streamer is deallocated -/
  | delete (streamer : StreamerId)
  /-- `frame`, with the type "bytes" or without -/
  | frame (streamer : StreamerId) (bytes : Bool)
  | seek (streamer : StreamerId) (n : UInt32)
  | stop (streamer : StreamerId)
  | start (streamer : StreamerId)
  | inspect (streamer : StreamerId) (query : Query)
  | progress (streamer : StreamerId)
  | time (streamer : StreamerId)
  | save (streamer : StreamerId)
  | setStartShift (streamer : StreamerId) (startShift : Int32)
  | setDuration (streamer : StreamerId) (duration : UInt32)
  /-- an array that `frame` returned is deallocated -/
  | dropArray (frame : KcFrame)
deriving DecidableEq

/-- The Streamer whose method a call is. -/
def Request.streamer : Request → Option StreamerId
  | frame streamer _ | seek streamer _ | stop streamer | start streamer | inspect streamer _
  | progress streamer | time streamer | save streamer | setStartShift streamer _
  | setDuration streamer _ => some streamer
  | _ => none

/-- What a call returns to Python. -/
inductive Reply where
  | none
  /-- the tuple of `frame`: array, timestamp and index -/
  | frame (frame : KcFrame) (index : UInt32)
  | integer (value : Int)
  | float (value : ℚ)
  | streamer (streamer : StreamerId)
  | error (message : String)
deriving DecidableEq

/-- One turn of `save`. -/
inductive SaveStep where
  | finished
  | wrote (size : UInt32)
  | failed
deriving DecidableEq, Repr

/-- A completed request as the event loop hands it to `kcFrameData`. -/
structure Capture where
  width : UInt16
  height : UInt16
  pts : UInt64
  data : List UInt8
deriving DecidableEq

/-- The frame that `kcFrameData` builds in a block of its own; bytes that are
not written stand as zero. -/
def Capture.frame (capture : Capture) (block : Nat) (pts : UInt64) : KcFrame :=
  let size := kcSizeofFrameBuffer capture.width.toUInt32 capture.height.toUInt32 .bgr
  .build block capture.width capture.height .bgr pts capture.data
    (List.replicate (size.toNat - dataOffset - capture.data.length) 0)

/-- How far `kcFrameData` gets before `flistAppend`. -/
inductive Begun where
  /-- The idle timeout has passed. -/
  | idle
  /-- `malloc` failed, with the record attached at that moment. -/
  | outOfMemory (record : Option ListId)
  /-- The frame goes to the attached record. -/
  | recording (list : ListId) (frame : KcFrame)
  /-- The frame went to `m_frame`. -/
  | stored
  | skipped

/-- What the environment answers. -/
structure Choice where
  request : Option Request := none
  /-- `malloc` of a frame block succeeds. -/
  allocates : Bool := true
  /-- What `malloc` returns for a list node. -/
  node : Option Addr := none
  /-- `getTime()` -/
  now : UInt32 := 0
  /-- `memfree()` -/
  memfree : UInt32 := 100
  pts : UInt64 := 0
  data : List UInt8 := []
  /-- The libcamera call throws. -/
  throws : Bool := false
  /-- `pthread_create` succeeds. -/
  spawns : Bool := true
  /-- For each record of a loaded file: whether the reserve is exceeded, and
  whether the frame and the node are allocated. -/
  loads : Nat → Bool × Bool × Bool := fun _ => (false, true, true)
  /-- Opening a file, or writing a record to it, fails. -/
  writeFails : Bool := false
  /-- A mutex or the condition variable of `g_state` is in use. The machine fills
  this in; see `performing`. -/
  inUse : Bool := false

/-- The operations, by source file. -/
inductive Op where
  /-- The interpreter runs a call, or returns from it. -/
  | nextCall
  | endCall (request : Request) (reply : Reply)
  -- kcameramodule.c
  | storeParams (params : KcParams)
  | newCamera
  | freeCamera
  | streamObject
  | keepStreamObject (streamer : StreamerId)
  | shareStreamObject (streamer : StreamerId)
  | streamCallback (streamer : StreamerId)
  -- kcamera.c
  | initMutexes
  | initParams (camera : CameraId)
  | awaitStopped
  | resetState
  | startParams
  | createThread
  | readStopping
  | stopCameraLoop (join : Bool)
  | clearRun (join signal : Bool)
  | dropFrame
  | join
  | setStopping
  | clearFps
  | stopped
  | nextRecordFrame (list : ListId)
  | hasRecord
  | lastRecordFrame
  | readRun
  | setTimer
  | slotEmpty
  | takeFrame
  | beginFrame (capture : Capture)
  | append (list : ListId) (frame : KcFrame)
  | endFrame
  | changed (setting : Setting)
  | setMode
  | resetShutter
  | copyParams
  | getRecord
  | allocRecord
  | stopRecord
  | recordingNow
  | memoryProgress
  | derefRecord
  | recordLimited
  | durationProgress
  | sameRecord (list : ListId)
  -- run.cpp
  | begin
  | setRun
  | construct
  | publishApp
  | setOptions
  | useApp
  | takeCapture
  | readLoop
  | clearApp
  | destruct
  | exit
  | setControl (setter : Setter)
  -- streamer.c
  | newStreamer (origin : Origin)
  | newLoader
  | load (list : ListId) (file : Option (List UInt8))
  | recordOf (streamer : StreamerId)
  | indexOf (streamer : StreamerId)
  | freeRecord (list : ListId)
  | freeStreamer (streamer : StreamerId)
  | noteIndex (streamer : StreamerId) (list : ListId)
  | next (list : ListId)
  | copyBack (list : ListId)
  | makeArray (streamer : StreamerId) (frame : KcFrame) (bytes : Bool)
  | seek (list : ListId) (n : UInt32)
  | start (list : ListId)
  | inspect (list : ListId)
  | time (list : ListId)
  | openFile
  | saveNext (list : ListId)
  | setStreamerShift (streamer : StreamerId) (startShift : Int32)
  | setListShift (list : ListId) (startShift : Int32)
  | setStreamerDuration (streamer : StreamerId) (duration : UInt32)
  | setListDuration (list : ListId) (duration : UInt32)
  -- dobj.c
  | freeArray (frame : KcFrame)
deriving DecidableEq

/-- What an operation answers. -/
abbrev Op.Resp : Op → Type
  | nextCall => Request
  | newCamera => Option CameraId
  | streamObject => Option StreamerId
  | readStopping | nextRecordFrame _ | hasRecord | lastRecordFrame | readRun | setTimer | slotEmpty
  | changed _ | recordingNow | construct | useApp | readLoop | openFile => Bool
  | takeFrame | next _ => Option KcFrame
  | copyBack _ => KcFrame
  | beginFrame _ => Begun
  | append _ _ => Int
  | endFrame | getRecord | recordOf _ => Option ListId
  | recordLimited => Bool
  | allocRecord | derefRecord => ListId
  | memoryProgress | durationProgress => UInt32
  | takeCapture => Option Capture
  | newStreamer _ => StreamerId
  | newLoader => StreamerId × ListId
  | load _ _ => Option LoadError
  | inspect _ => Option FrameList
  | time _ => ℚ
  | makeArray _ _ _ | indexOf _ => UInt32
  | saveNext _ => SaveStep
  | _ => Unit

/-! ## kcamera.c -/

/-- `KC_MAX_FRAME_TIMEOUT`, in microseconds. -/
def maxFrameTimeout : UInt32 := 5000000

/-- `kcGetTimer` at `now`. -/
def kcGetTimer (now timer : UInt32) : UInt32 := now - timer

namespace World

variable (world : World)

/-- The critical section of `kcStart`. -/
def resetState : World :=
  { world with
    g.frame := none
    g.run := true
    g.ptsOffset := -1
    g.pts := 0
    g.lastPts := 0
    g.frameTimer := 0
    g.stopping := false }

/-- `kcInit`, after the mutexes. -/
def initParams (camera : CameraId) : World :=
  let params := kcInitParams ((world.cameras camera).elim default Camera.params)
  let world := { world with params := some camera }
  let world := (world.setParams params).detach
  { world with g.currParams := params }

/-- `pthread_create`. -/
def createThread (spawns : Bool) : World :=
  if spawns then { world with g.thread := some world.spawned, spawned := world.spawned + 1 }
  else world

/-- The part of `kcStopInternal`'s critical section under `signal`. -/
def dropFrame : World :=
  { (world.free world.g.frame.toList).detach with g.frame := none }

/-- The idle test of `kcFrameData`. -/
def idle (now : UInt32) : Bool :=
  world.g.record.isNone ∧ world.g.frameTimer ≠ 0 ∧
    maxFrameTimeout < kcGetTimer now world.g.frameTimer

/-- Take the offset out of a capture timestamp; the first frame after a start
sets it. -/
def shiftPts (pts : UInt64) : World :=
  let offset := if world.g.ptsOffset < 0 then pts.toInt64 else world.g.ptsOffset
  { world with g.ptsOffset := offset, g.pts := pts - offset.toUInt64 }

/-- Update the measured framerate. -/
def measure : World :=
  if world.g.lastPts < world.g.pts then
    match world.kcParams with
    | none => world.fail .freedCamera
    | some params => world.setParams (measureFps params (world.g.pts - world.g.lastPts))
  else world

/-- Drop a live frame that has expired. -/
def expire : World :=
  match world.g.record, world.g.frame with
  | none, some frame =>
      match world.kcParams with
      | none => world.fail .freedCamera
      | some params =>
          if params.maxLatency.toUInt64 < world.g.pts - frame.pts then
            { world.free [frame] with g.frame := none }
          else world
  | _, _ => world

/-- Build the frame, unless there is no use for it or no memory. -/
def storeFrame (capture : Capture) (allocates : Bool) : World × Begun :=
  if (world.g.frame.isNone ∨ world.g.record.isSome) ∧ world.g.run then
    if allocates then
      let frame := capture.frame world.blocks world.g.pts
      let world := { world with blocks := world.blocks + 1 }
      match world.g.record with
      | some list => (world, .recording list frame)
      | none => ({ world with g.frame := some frame }, .stored)
    else (world, .outOfMemory world.g.record)
  else (world, .skipped)

/-- `kcFrameData` from its lock up to `flistAppend`. -/
def beginFrame (capture : Capture) (now : UInt32) (allocates : Bool) : World × Begun :=
  let world := { world with captured := capture.pts }
  if world.idle now then (world, .idle)
  else (world.shiftPts capture.pts).measure.expire.storeFrame capture allocates

/-- `flistAppend` on `m_record`. Blocks when `node` is not free. -/
def append (list : ListId) (frame : KcFrame) (node : Option Addr) : Option (World × Int) :=
  if world.g.record = some list then
    match world.lists list with
    | none => some (world.fail .freedList, 0)
    | some found =>
        if node.all fun node => Available found frame node then
          let appended := flistAppend found frame node
          let world := (world.setList list appended.list).free appended.freed
          if found.recording ≠ 0 ∧ appended.status ≠ -2 then
            some (world.note list (.appended frame), appended.status)
          else some (world, appended.status)
        else none
  else some (world.fail .nullRecord, 0)

/-- The end of `kcFrameData`'s critical section: the record, if the reserve is
exceeded. -/
def endFrame (memfree : UInt32) : World × Option ListId :=
  ({ world with g.lastPts := world.g.pts },
    if memfree < world.g.currParams.memReserve then world.g.record else none)

/-- The critical section of `kcStartRecord`. -/
def allocRecord : World × ListId :=
  match world.kcParams with
  | none => (world.fail .freedCamera, world.nextList)
  | some params =>
      let world' := world.setList world.nextList (flistInit params.startShift params.recordDuration)
      ({ world' with
          g.record := some world.nextList
          nextList := world.nextList + 1
          recordings := world.nextList :: world.recordings }, world.nextList)

/-- The critical section of `kcStopRecord`. -/
def stopRecord : World :=
  match world.g.record with
  | none => world
  | some list =>
      match world.lists list with
      | none => world.fail .freedList
      | some found => (world.setList list { found with recording := 0 }).detach

/-- The waiting condition of `kcWaitNextRecordFrame`. -/
def nextRecordFrame (list : ListId) : World × Bool :=
  match world.lists list with
  | none => (world.fail .freedList, false)
  | some found =>
      match flistEnd found with
      | none => (world.fail .freedNode, false)
      | some ended => (world, ended && world.g.run && world.g.record = some list)

/-- The waiting condition of `kcWaitLastRecordFrame`. -/
def lastRecordFrame : World × Bool :=
  match world.g.record with
  | none => (world.fail .nullRecord, false)
  | some list =>
      match world.lists list with
      | none => (world.fail .freedList, false)
      | some found => (world, found.back.isNone && world.g.run)

/-! ## streamer.c -/

/-- `kcCopyFrame` of a frame. -/
def copyFrame (frame : KcFrame) (allocates : Bool) : World × KcFrame :=
  if allocates then
    ({ world with blocks := world.blocks + 1 }, kcCopyFrame frame world.blocks)
  else (world.fail .copyFailed, frame)

/-- `flistNext`, and `kcCopyFrame` of what it returns. -/
def next (list : ListId) (allocates : Bool) : World × Option KcFrame :=
  match world.lists list with
  | none => (world.fail .freedList, none)
  | some found =>
      match flistNext found with
      | none => (world.fail .freedNode, none)
      | some (found, none) => ((world.setList list found).note list .noFrame, none)
      | some (found, some frame) =>
          let (world, copy) := (world.setList list found).copyFrame frame allocates
          (world, some copy)

/-- Copy the most recently recorded frame for the live stream. -/
def copyBack (list : ListId) (allocates : Bool) : World × KcFrame :=
  match world.lists list with
  | none => (world.fail .freedList, default)
  | some found =>
      match found.back with
      | none => (world.fail .nullFrame, default)
      | some back =>
          match found.nodes back with
          | none => (world.fail .freedNode, default)
          | some node => world.copyFrame node.data allocates

/-- Wrap a frame into an array and a tuple, which gets the Streamer's index. -/
def makeArray (streamer : StreamerId) (frame : KcFrame) (bytes : Bool) : World × UInt32 :=
  match world.streamers streamer with
  | none => (world.fail .freedStreamer, 0)
  | some found =>
      if bytes then (world.fail .notAnArray, found.index)
      else
        let world := { world with arrays := frame :: world.arrays }
        match found.record with
        | none =>
            (world.setStreamer streamer { found with index := found.index + 1 }, found.index)
        | some list => (world.note list (.returned found.index frame), found.index)

/-- `streamer_init` with an empty filename. -/
def newStreamer (origin : Origin) : World × StreamerId :=
  let streamer := world.nextStreamer
  let world := { world with nextStreamer := streamer + 1 }
  match world.g.record with
  | none => (world.setStreamer streamer ⟨none, 0, 0, 0, origin⟩, streamer)
  | some list =>
      match world.lists list with
      | none => (world.fail .freedList, streamer)
      | some found =>
          (world.setStreamer streamer ⟨some list, 0, found.startShift, found.duration, origin⟩,
            streamer)

/-- `streamer_init` with a filename, up to `streamer_load`. -/
def newLoader : World × StreamerId × ListId :=
  let streamer := world.nextStreamer
  let list := world.nextList
  let world := world.setList list (flistInit 0 0)
  ({ world.setStreamer streamer ⟨some list, 0, 0, 0, .load⟩ with
      nextStreamer := streamer + 1, nextList := list + 1 }, streamer, list)

/-- What `malloc` and the memory reserve answer for each record of a file. -/
def loadTurn (loads : Nat → Bool × Bool × Bool) (turn : Nat) : LoadTurn :=
  let (exceeded, frame, node) := loads turn
  { memReserveExceeded := exceeded
    block := if frame then some (world.blocks + turn) else none
    node := if node ∧ turn < 2 ^ 29 then some (Fin.ofNat (2 ^ 29) turn) else none }

/-- `streamer_load`. The list is not shared before it returns. -/
def load (list : ListId) (file : Option (List UInt8)) (loads : Nat → Bool × Bool × Bool) :
    World × Option LoadError :=
  match world.lists list with
  | none => (world.fail .freedList, none)
  | some found =>
      let loaded := streamerLoad found file (world.loadTurn loads)
      let blocks := world.blocks + loaded.list.len.toNat + loaded.lost.length
      ({ world.setList list loaded.list with blocks }, loaded.error)

/-- `flistClear` and `free` of a list. -/
def freeRecord (list : ListId) : World :=
  match (world.lists list).map flistClear with
  | none => world.fail .freedList
  | some none => world.fail .freedNode
  | some (some (_, frames)) =>
      { world.free frames with
        lists := Function.update world.lists list none
        freedLists := list :: world.freedLists }

/-- A turn of `save`: `flistNext`, and writing what it returns. -/
def saveNext (list : ListId) (fails : Bool) : World × SaveStep :=
  match world.lists list with
  | none => (world.fail .freedList, .failed)
  | some found =>
      match flistNext found with
      | none => (world.fail .freedNode, .failed)
      | some (found, none) => (world.setList list found, .finished)
      | some (found, some frame) =>
          (world.setList list found,
            if fails then .failed else .wrote (UInt32.ofNat (saveFrame frame).length))

/-- Change a list that is not freed. -/
def onList (list : ListId) (change : FrameList → FrameList) : World :=
  match world.lists list with
  | none => world.fail .freedList
  | some found => world.setList list (change found)

/-- Change a Streamer. -/
def onStreamer (streamer : StreamerId) (change : Streamer → Streamer) : World :=
  match world.streamers streamer with
  | none => world.fail .freedStreamer
  | some found => world.setStreamer streamer (change found)

/-! ## kcameramodule.c -/

/-- The call is one that Python can make now. -/
def callable : Request → Bool
  | .newCamera _ => true
  | .dropArray frame => frame ∈ world.arrays
  | .delete streamer =>
      (world.streamers streamer).isSome ∧ streamer ∉ world.users.map Prod.snd
  | .deleteCamera | .setAttr _ | .rejected _ | .stream _ | .record _ | .loadEmpty | .load _ =>
      world.camera.isSome
  | request => request.streamer.any fun streamer => (world.streamers streamer).isSome

/-- `camera_new`; `none` when there is a Camera already. -/
def newCamera : World × Option CameraId :=
  match world.camera with
  | some _ => (world, none)
  | none =>
      let camera := world.nextCamera
      ({ world with
          camera := some camera
          nextCamera := camera + 1
          cameras := Function.update world.cameras camera (some ⟨default, none⟩) }, some camera)

/-- Change the Camera object. -/
def onCamera (change : Camera → Camera) : World :=
  match world.camera with
  | none => world
  | some camera =>
      { world with
        cameras := Function.update world.cameras camera ((world.cameras camera).map change) }

/-- The end of `camera_dealloc`. -/
def freeCamera : World :=
  match world.camera with
  | none => world
  | some camera =>
      { world with camera := none, cameras := Function.update world.cameras camera none }

end World

/-! ## Execution -/

/-- The index of a video thread. -/
def Tid.index : Tid → Nat
  | .python index | .video index => index

/-- What an operation does while there has been no undefined behaviour. -/
def Op.run (thread : Tid) (choice : Choice) (world : World) :
    (operation : Op) → Option (World × operation.Resp)
  | .nextCall =>
      match choice.request with
      | none => none
      | some request =>
          if world.callable request then
            let users := request.streamer.toList.map fun streamer => (thread, streamer)
            some ({ world with users := users ++ world.users }, request)
          else none
  | .endCall request _ =>
      some (match request.streamer with
        | none => world
        | some streamer =>
            { world with users := world.users.filter (· ≠ (thread, streamer)) }, ())
  | .storeParams params => some (world.onCamera fun camera => { camera with params }, ())
  | .newCamera => some world.newCamera
  | .freeCamera => some (world.freeCamera, ())
  | .streamObject =>
      some (world, (world.camera.bind world.cameras).bind Camera.streamerObject)
  | .keepStreamObject streamer =>
      some (world.onCamera fun camera => { camera with streamerObject := some streamer }, ())
  | .shareStreamObject streamer =>
      some (if (world.streamers streamer).isSome then world else world.fail .freedStreamer, ())
  | .streamCallback streamer =>
      some (world.onCamera fun camera =>
        if camera.streamerObject = some streamer then { camera with streamerObject := none }
        else camera, ())
  | .initMutexes => some (if choice.inUse then world.fail .mutexInUse else world, ())
  | .initParams camera => some (world.initParams camera, ())
  | .awaitStopped => if world.g.stopping then none else some (world, ())
  | .resetState => some (world.resetState, ())
  | .startParams =>
      some (match world.kcParams with
        | none => world.fail .freedCamera
        | some params =>
            { world.setParams (limitFramerate params) with
              g.currParams := limitFramerate params }, ())
  | .createThread => some (world.createThread choice.spawns, ())
  | .readStopping => some (world, world.g.stopping)
  | .stopCameraLoop _ => some ({ world with run := false }, ())
  | .clearRun _ _ => some ({ world with g.run := false }, ())
  | .dropFrame => some (world.dropFrame, ())
  | .join =>
      if world.g.thread.all world.exited then some (world, ()) else none
  | .setStopping => some ({ world with g.stopping := true }, ())
  | .clearFps =>
      some (match world.kcParams with
        | none => world.fail .freedCamera
        | some params => world.setParams { params with fps := 0 }, ())
  | .stopped => some ({ world with g.stopping := false }, ())
  | .nextRecordFrame list => some (world.nextRecordFrame list)
  | .hasRecord => some (world, world.g.record.isSome)
  | .lastRecordFrame => some world.lastRecordFrame
  | .readRun => some (world, world.g.run)
  | .setTimer =>
      some ({ world with g.frameTimer := choice.now }, world.g.frame.isNone && world.g.run)
  | .slotEmpty => some (world, world.g.frame.isNone && world.g.run)
  | .takeFrame => some ({ world with g.frame := none }, world.g.frame)
  | .beginFrame capture => some (world.beginFrame capture choice.now choice.allocates)
  | .append list frame => world.append list frame choice.node
  | .endFrame => some (world.endFrame choice.memfree)
  | .changed setting =>
      some (match world.kcParams with
        | none => (world.fail .freedCamera, false)
        | some params => (world, setting.changed params world.g.currParams))
  | .setMode =>
      some (match world.kcParams with
        | none => world.fail .freedCamera
        | some params => world.setParams (kcSetMode params), ())
  | .resetShutter =>
      some (match world.kcParams with
        | none => world.fail .freedCamera
        | some params =>
            world.setParams { params with shutterSpeed := maxShutterSpeed params.framerate }, ())
  | .copyParams =>
      some (match world.kcParams with
        | none => world.fail .freedCamera
        | some params => { world with g.currParams := params }, ())
  | .getRecord => some (world, world.g.record)
  | .allocRecord => some world.allocRecord
  | .stopRecord => some (world.stopRecord, ())
  | .recordingNow => some (world, world.g.run && world.g.record.isSome)
  | .memoryProgress =>
      some (if world.g.currParams.memReserve = 0 then (world.fail .divideByZero, 0)
        else (world, KCamera.memoryProgress choice.memfree world.g.currParams.memReserve))
  | .derefRecord =>
      some (match world.g.record with
        | none => (world.fail .nullRecord, 0)
        | some list => (world, list))
  | .recordLimited =>
      some (match world.g.record with
        | none => (world.fail .nullRecord, false)
        | some list =>
            match world.lists list with
            | none => (world.fail .freedList, false)
            | some found => (world, found.duration ≠ 0))
  | .durationProgress =>
      some (match world.g.record with
        | none => (world.fail .nullRecord, 0)
        | some list =>
            match world.lists list with
            | none => (world.fail .freedList, 0)
            | some found =>
                match found.durationProgress with
                | none => (world.fail .nullFrame, 0)
                | some progress => (world, progress))
  | .sameRecord list =>
      some (if world.g.record = some list then world else world.fail .nullRecord, ())
  | .begin => if thread.index < world.spawned then some (world, ()) else none
  | .setRun => some ({ world with run := true }, ())
  | .construct => some (world, choice.throws)
  | .publishApp => some ({ world with app := some thread.index }, ())
  | .setOptions =>
      some (match world.app, world.kcParams with
        | none, _ => world.fail .nullApp
        | _, none => world.fail .freedCamera
        | some app, some params =>
            { world with
              options := Function.update world.options app (some (params.width, params.height)) },
        ())
  | .useApp =>
      some (match world.app with
        | none => (world.fail .nullApp, false)
        | some _ => (world, choice.throws))
  | .takeCapture =>
      some (match world.app with
        | none => (world.fail .nullApp, none)
        | some app =>
            let (width, height) := (world.options app).getD (0, 0)
            (world, if choice.throws then none else
              some ⟨width.toUInt16, height.toUInt16, choice.pts, choice.data⟩))
  | .readLoop => some (world, world.run)
  | .clearApp => some ({ world with app := none }, ())
  | .destruct => some (world, ())
  | .exit => some ({ world with exited := Function.update world.exited thread.index true }, ())
  | .setControl setter =>
      some (match world.kcParams with
        | none => world.fail .freedCamera
        | some params =>
            if setter = .framerate ∧ params.framerate = 0 then world.fail .divideByZero
            else
              let (params, controls) := setter.apply params world.controls
              { world.setParams params with controls }, ())
  | .newStreamer origin => some (world.newStreamer origin)
  | .newLoader => some world.newLoader
  | .load list file => some (world.load list file choice.loads)
  | .recordOf streamer =>
      some (match world.streamers streamer with
        | none => (world.fail .freedStreamer, none)
        | some found => (world, found.record))
  | .indexOf streamer =>
      some (match world.streamers streamer with
        | none => (world.fail .freedStreamer, 0)
        | some found => (world, found.index))
  | .freeRecord list => some (world.freeRecord list, ())
  | .freeStreamer streamer =>
      some ({ world with streamers := Function.update world.streamers streamer none }, ())
  | .noteIndex streamer list =>
      some (match world.lists list with
        | none => world.fail .freedList
        | some found => world.onStreamer streamer fun self => { self with index := found.readIndex },
        ())
  | .next list => some (world.next list choice.allocates)
  | .copyBack list => some (world.copyBack list choice.allocates)
  | .makeArray streamer frame bytes => some (world.makeArray streamer frame bytes)
  | .seek list n =>
      some (world.onList list (fun found => (flistSeek found n).1) |>.note list (.seek n), ())
  | .start list => some (world.onList list fun found => { found with recording := 1 }, ())
  | .inspect list =>
      some (if (world.lists list).isSome then world else world.fail .freedList, world.lists list)
  | .time list =>
      some (match (world.lists list).map fun found =>
          found.time (world.g.record = some list) with
        | none => (world.fail .freedList, 0)
        | some none => (world.fail .freedNode, 0)
        | some (some value) => (world, value))
  | .openFile => some (world, !choice.writeFails)
  | .saveNext list => some (world.saveNext list choice.writeFails)
  | .setStreamerShift streamer startShift =>
      some (world.onStreamer streamer fun self => { self with startShift }, ())
  | .setListShift list startShift =>
      some (world.onList list fun found => { found with startShift }, ())
  | .setStreamerDuration streamer duration =>
      some (world.onStreamer streamer fun self => { self with duration }, ())
  | .setListDuration list duration =>
      some (world.onList list fun found => { found with duration }, ())
  | .freeArray frame =>
      some ({ world.free [frame] with arrays := world.arrays.erase frame }, ())

/-- What an operation does; nothing runs after undefined behaviour. -/
def Op.exec (thread : Tid) (operation : Op) (choice : Choice) (world : World) :
    Option (World × operation.Resp) :=
  if world.fault.isSome then none else operation.run thread choice world

end KCamera
