import KCamera.File.Format
import KCamera.Engine.Params

/-!
# The shared state

The globals of `kcamera.c`, `run.cpp` and `kcameramodule.c`, and the objects
they lead to. Objects have identities that are never used again, so a pointer
to an object that was freed is one that leads nowhere; `fault` records the first
use of such a pointer and ends the run. Small allocations (a `FrameList`, Python
objects) are taken to succeed; frames and list nodes may fail to be allocated.
-/

namespace KCamera

abbrev ListId := Nat
abbrev StreamerId := Nat
abbrev CameraId := Nat

/-- A thread of the interpreter, or a video thread that `pthread_create` made. -/
inductive Tid where
  | python (index : Nat)
  | video (index : Nat)
deriving DecidableEq, Repr

/-- The mutexes, and the interpreter lock. -/
inductive Mutex where
  | gil
  | params
  | frame
  | record (list : ListId)
  | controls
deriving DecidableEq, Repr

/-- Uses of memory that have no defined result. -/
inductive Fault where
  /-- A null frame or `FrameNode` is read. -/
  | nullFrame
  /-- `memcpy` into the null that `malloc` returned. -/
  | copyFailed
  /-- A list node is used after it was freed. -/
  | freedNode
  /-- A `FrameList` is used after it was freed. -/
  | freedList
  /-- `m_record` is null where it is read through. -/
  | nullRecord
  /-- The cached live `Streamer` is used after it was deallocated. -/
  | freedStreamer
  /-- `g_params` points into a `Camera` that was deallocated, or is null. -/
  | freedCamera
  /-- `app` is null. -/
  | nullApp
  /-- `1000000/m_framerate` with no framerate. -/
  | divideByZero
  /-- `PyArray_SetBaseObject` on something other than an array. -/
  | notAnArray
  /-- A mutex is initialised that a thread holds, or a condition variable that
  threads sleep on. -/
  | mutexInUse
deriving DecidableEq, Repr

/-- `KcState`, without its mutexes and its condition variable. -/
structure KcState where
  run : Bool
  stopping : Bool
  lastPts : UInt64
  thread : Option Nat
  frame : Option KcFrame
  currParams : KcParams
  ptsOffset : Int64
  pts : UInt64
  frameTimer : UInt32
  record : Option ListId

structure Camera where
  params : KcParams
  streamerObject : Option StreamerId

/-- How a `Streamer` came about. -/
inductive Origin where
  | stream
  /-- By `record()`, for the list that its `kcStartRecord` allocated. -/
  | record (list : ListId)
  | load
deriving DecidableEq, Repr

structure Streamer where
  record : Option ListId
  index : UInt32
  startShift : Int32
  duration : UInt32
  origin : Origin

/-- What happens to a recording, and what its readers get. -/
inductive Reading where
  | appended (frame : KcFrame)
  | ended
  | returned (index : UInt32) (frame : KcFrame)
  | noFrame
  | seek (n : UInt32)

structure World where
  g : KcState
  /-- `g_params`, a pointer into a `Camera`. -/
  params : Option CameraId
  /-- `g_camera`. -/
  camera : Option CameraId
  cameras : CameraId → Option Camera
  /-- `run` of `run.cpp`. -/
  run : Bool
  /-- The thread whose `LibcameraRaw` is `app`. -/
  app : Option Nat
  /-- `app->options`: width and height, once `event_loop` has set them. -/
  options : Nat → Option (UInt32 × UInt32)
  controls : Controls
  lists : ListId → Option FrameList
  streamers : StreamerId → Option Streamer
  /-- The frames of the `DObj`s that returned arrays are based on. -/
  arrays : List KcFrame
  /-- The threads that are in a Streamer's method. -/
  users : List (Tid × StreamerId)
  nextCamera : Nat
  nextList : Nat
  nextStreamer : Nat
  /-- How many video threads were created. -/
  spawned : Nat
  /-- The video threads that have terminated. -/
  exited : Nat → Bool
  /-- How many frame blocks were allocated; they are numbered from zero. -/
  blocks : Nat
  fault : Option Fault
  /-- The frame blocks and the lists that were passed to `free`. -/
  freed : List Nat
  freedLists : List ListId
  /-- The lists that `kcStartRecord` allocated. -/
  recordings : List ListId
  /-- The last capture timestamp that `kcFrameData` took. -/
  captured : UInt64
  readings : ListId → List Reading

namespace World

variable (world : World)

/-- After the module is imported. -/
def initial : World where
  g := {
    run := false
    stopping := false
    lastPts := 0
    thread := none
    frame := none
    currParams := default
    ptsOffset := 0
    pts := 0
    frameTimer := 0
    record := none }
  params := none
  camera := none
  cameras := fun _ => none
  run := false
  app := none
  options := fun _ => none
  controls := default
  lists := fun _ => none
  streamers := fun _ => none
  arrays := []
  users := []
  nextCamera := 0
  nextList := 0
  nextStreamer := 0
  spawned := 0
  exited := fun _ => false
  blocks := 0
  fault := none
  freed := []
  freedLists := []
  recordings := []
  captured := 0
  readings := fun _ => []

/-- Undefined behaviour. -/
def fail (fault : Fault) : World := { world with fault := some fault }

/-- `*g_params`. -/
def kcParams : Option KcParams := (world.params.bind world.cameras).map Camera.params

/-- Write `*g_params`. -/
def setParams (params : KcParams) : World :=
  match world.params with
  | none => world
  | some camera =>
      { world with
        cameras := Function.update world.cameras camera
          ((world.cameras camera).map fun found => { found with params }) }

def setList (list : ListId) (found : FrameList) : World :=
  { world with lists := Function.update world.lists list (some found) }

def setStreamer (streamer : StreamerId) (found : Streamer) : World :=
  { world with streamers := Function.update world.streamers streamer (some found) }

/-- Something happened to a list that its readers can tell. -/
def note (list : ListId) (reading : Reading) : World :=
  { world with
    readings := Function.update world.readings list (world.readings list ++ [reading]) }

/-- `free` of frame blocks. -/
def free (frames : List KcFrame) : World :=
  { world with freed := world.freed ++ frames.map KcFrame.block }

/-- `m_record = NULL`. -/
def detach : World :=
  match world.g.record with
  | none => world
  | some list => { world.note list .ended with g.record := none }

end World

end KCamera
