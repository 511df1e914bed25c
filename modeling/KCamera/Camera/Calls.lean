import KCamera.Camera.Arguments

/-!
# Calls of the Camera

What `stream(...)`, `record(...)` and assignments to attributes do with the values that they
are given, when no other thread comes between. `parseArgs` and the table of members
are only here; behind what they store, the calls do what the engine's requests do.
-/

namespace KCamera.Module

open Machine

/-- The `Camera` object, and what `g_state` and `run.cpp` have of it. -/
structure CameraState where
  params : KcParams
  resObject : Option PyValue
  modeObject : Option PyValue
  /-- `m_currParams` -/
  current : KcParams
  controls : Controls
  run : Bool
  stopping : Bool
  /-- `m_record` is set. -/
  recording : Bool
  /-- The setters that the thread of `m_thread` has still to run before its loop. -/
  startUp : List Setter
deriving Inhabited

/-- How a call ends. -/
inductive Outcome where
  | returned
  | raised
  | undefined
deriving DecidableEq, Repr

namespace CameraState

/-! ## kcamera.c and run.cpp -/

/-- A setter of `run.cpp`. -/
def set (setter : Setter) (state : CameraState) : CameraState :=
  { state with
    params := (setter.apply state.params state.controls).1
    controls := (setter.apply state.params state.controls).2 }

/-- `if (changed) setter()`. -/
def whenChanged (setting : Setting) (setter : Setter) (state : CameraState) : CameraState :=
  if setting.changed state.params state.current then state.set setter else state

/-- `pthread_join`; the thread comes to its loop before it ends. -/
def join (state : CameraState) : CameraState :=
  { state.startUp.foldl (fun state setter => state.set setter) state with startUp := [] }

/-- `kcStopInternal`, with `join`. -/
def kcStopInternal (state : CameraState) (signal : Bool) : CameraState :=
  if state.stopping then state
  else
    let state := { state with run := false, recording := state.recording && !signal }.join
    { state with params := { state.params with fps := 0 } }

/-- `kcStart`, once no session is stopping. -/
def kcStart (state : CameraState) : CameraState :=
  { state with
    run := true
    stopping := false
    params := limitFramerate state.params
    current := limitFramerate state.params
    startUp := [.brightness, .awb, .framerate, .autoShutter] }

/-- The comparisons of `kcUpdateParams`. -/
def applyChanges (state : CameraState) : CameraState :=
  let state := state.whenChanged .framerate .framerate
  let state :=
    if Setting.mode.changed state.params state.current then
      { state with params := kcSetMode state.params }
    else state
  let state := state.whenChanged .brightness .brightness
  let state := state.whenChanged .autoShutter .autoShutter
  let state := state.whenChanged .awb .awb
  let state := state.whenChanged .awbGains .awbGains
  state.whenChanged .shutterSpeed .shutterSpeed

/-- `restart` of `kcUpdateParams`. -/
def restart (state : CameraState) : Bool :=
  Setting.resolution.changed state.params state.current ∨
    Setting.mode.changed state.params state.current

/-- The longest shutter speed, for a session that is started anew. -/
def resetShutter (state : CameraState) : CameraState :=
  { state with params :=
      { state.params with shutterSpeed := maxShutterSpeed state.params.framerate } }

def kcUpdateParams (state : CameraState) : CameraState :=
  let applied := state.applyChanges
  if state.restart ∧ applied.run then ((applied.kcStopInternal false).resetShutter).kcStart
  else { applied with current := applied.params }

/-! ## kcameramodule.c -/

def updateResObject (state : CameraState) : CameraState :=
  { state with resObject := some (.pair state.params.width state.params.height) }

/-- The `resolution` argument of `parseArgs`. -/
def parseResolution (state : CameraState) : Option PyValue → CameraState × Bool
  | none => (state.updateResObject, true)
  | some value =>
      let ((width, height), parsed) := value.parsePair state.params.width state.params.height
      let state := { state with params := { state.params with width, height } }
      if parsed then ({ state with resObject := some value }, true) else (state, false)

/-- The size of `m_mode`. -/
def modeSize : Nat := 128

/-- The `mode` argument of `parseArgs`; `strcpy` writes past the end of
`m_mode` when the text is too long. -/
def parseMode (state : CameraState) : Option PyValue → CameraState × Outcome
  | none => ({ state with modeObject := some (.ofString state.params.mode) }, .returned)
  | some value =>
      match value.asText with
      | none => (state, .raised)
      | some text =>
          if text.utf8ByteSize < modeSize then
            ({ state with
              params := { state.params with mode := text }, modeObject := some value }, .returned)
          else (state, .undefined)

def parseArgs (state : CameraState) (arguments : Arguments) : CameraState × Outcome :=
  let (params, converted) := arguments.parseKeywords state.params
  let state := { state with params }
  if converted then
    let (state, parsed) := state.parseResolution arguments.resolution
    if parsed then state.parseMode arguments.mode else (state, .raised)
  else (state, .raised)

def camera_stream (state : CameraState) (arguments : Arguments) : CameraState × Outcome :=
  state.parseArgs arguments

/-- `camera_record`, once no session is stopping. -/
def camera_record (state : CameraState) (arguments : Arguments) : CameraState × Outcome :=
  match state.parseArgs arguments with
  | (state, .returned) => ({ state with recording := true }.kcStart, .returned)
  | other => other

end CameraState

/-- The attributes of a Camera; the others are read-only or do not exist. -/
inductive Attribute where
  | parameter (parameter : Parameter)
  | mode
  | other
deriving DecidableEq

/-- What `PyLong_AsUnsignedLong` returns when it raises. -/
def conversionFailed : UInt32 := 0xffffffff

/-- The limits of `camera_setAttr`. -/
def limitValue (params : KcParams) : Parameter → PyValue → PyValue
  | .brightness, value =>
      if 100 < value.asUnsignedLong.getD conversionFailed then .int 100 else value
  | .framerate, value =>
      let val := value.asUnsignedLong.getD conversionFailed
      if val < params.minFps then .int params.minFps.toNat
      else if params.maxFps < val then .int params.maxFps.toNat
      else value
  | _, value => value

/-- The conversion for the limits has left an exception behind. -/
def limitRaises : Parameter → PyValue → Bool
  | .brightness, value | .framerate, value => value.asUnsignedLong.isNone
  | _, _ => false

/-- How far `camera_setAttr` gets. -/
inductive Stored where
  /-- It reads something as a string that is none. -/
  | undefined
  /-- It returns -1 before `PyObject_GenericSetAttr`. -/
  | refused
  /-- It returns what `PyObject_GenericSetAttr` has, after `kcUpdateParams`. -/
  | generic (after : CameraState) (accepted : Bool)

namespace CameraState

/-- `PyObject_GenericSetAttr` for a plain parameter. -/
def storeMember (state : CameraState) (parameter : Parameter) (value : PyValue) :
    CameraState × Bool :=
  match parameter.member value with
  | some field => ({ state with params := parameter.put field state.params }, true)
  | none => (state, false)

/-- `camera_setAttr` up to `kcUpdateParams`. The bytes of a mode are compared, whatever
kind of string it is. -/
def store (state : CameraState) (name : Attribute) (value : PyValue) : Stored :=
  match name with
  | .parameter parameter =>
      let (stored, accepted) := state.storeMember parameter (limitValue state.params parameter value)
      .generic stored (accepted ∧ ¬limitRaises parameter value)
  | .mode =>
      match value with
      | .str text =>
          match PyValue.matchRaw kcModes text with
          | some mode =>
              .generic { state with params := { state.params with mode }, modeObject := some value }
                true
          | none => .refused
      | _ => .undefined
  | .other => .generic state false

/-- `updateResObject` if a call has changed the width or the height. -/
def followSize (width height : UInt32) (state : CameraState) : CameraState :=
  if width ≠ state.params.width ∨ height ≠ state.params.height then state.updateResObject
  else state

/-- `kcUpdateParams`, and the resolution object after it. -/
def sideEffects (before state : CameraState) : CameraState :=
  followSize before.params.width before.params.height state.kcUpdateParams

def camera_setAttr (state : CameraState) (name : Attribute) (value : PyValue) :
    CameraState × Outcome :=
  match state.store name value with
  | .undefined => (state, .undefined)
  | .refused => (state, .raised)
  | .generic stored accepted =>
      (state.sideEffects stored, if accepted then .returned else .raised)

end CameraState

/-- The calls on a Camera. -/
inductive Call where
  | setAttr (name : Attribute) (value : PyValue)
  | stream (arguments : Arguments)
  | record (arguments : Arguments)

def Call.apply (state : CameraState) : Call → CameraState × Outcome
  | .setAttr name value => state.camera_setAttr name value
  | .stream arguments => state.camera_stream arguments
  | .record arguments => state.camera_record arguments

end KCamera.Module
