import KCamera.Camera.Refinement
import KCamera.Camera.Stores

/-!
# Rejected calls

A call that raises an exception should leave everything as it was, and one that
does not should store each value it is given, limited to its range. `parseArgs`
stores the values one by one before it looks at the last, and `camera_setAttr`
takes the failure of a conversion for a large value.
-/

namespace KCamera.Module

open Machine PyValue

/-! ## What is stored -/

namespace Parameter

/-- The range of an integer parameter. -/
def range (params : KcParams) : Parameter → Int × Int
  | framerate => (params.minFps.toNat, params.maxFps.toNat)
  | brightness => (0, 100)
  | saturation => (0, 255)
  | startShift => (-2 ^ 31, 2 ^ 31 - 1)
  | _ => (0, 2 ^ 32 - 1)

/-- The integer value, limited to its range, is stored. -/
def Shows (params : KcParams) (parameter : Parameter) (value : PyValue) (stored : Int) : Prop :=
  ∃ integer, value.index = some integer ∧ stored = limit (parameter.range params) integer

/-- The field holds the value, limited to its range. -/
def Holds (params : KcParams) : (parameter : Parameter) → PyValue → parameter.Value → Prop
  | framerate, value, field => Shows params framerate value field.toNat
  | brightness, value, field => Shows params brightness value field.toNat
  | saturation, value, field => Shows params saturation value field.toNat
  | maxLatency, value, field => Shows params maxLatency value field.toNat
  | memReserve, value, field => Shows params memReserve value field.toNat
  | startShift, value, field => Shows params startShift value field.toInt
  | duration, value, field | awbRed, value, field | awbBlue, value, field
  | shutterSpeed, value, field => value.asFloat = some field
  | autoshutter, value, field | awb, value, field | hflip, value, field
  | vflip, value, field => value.truth = some field

/-- The low 32 bits of the integer are the integer limited to its range. -/
def Fits (params : KcParams) (parameter : Parameter) (value : PyValue) : Prop :=
  match parameter with
  | framerate | brightness | saturation | maxLatency | memReserve =>
      ∃ integer, value.index = some integer ∧
        integer % 2 ^ 32 = limit (parameter.range params) integer
  | startShift =>
      ∃ integer, value.index = some integer ∧
        integer.bmod (2 ^ 32) = limit (parameter.range params) integer
  | _ => True

end Parameter

/-- The mode is one that the camera has, and stored with its object. -/
def StoresMode (value : PyValue) (after : CameraState) : Prop :=
  ∃ mode ∈ kcModes, value = .ofString mode ∧ after.params.mode = mode ∧
    after.modeObject = some value

/-- Each argument is stored, limited to its range. -/
structure Arguments.Stored (arguments : Arguments) (before after : CameraState) : Prop where
  plain : ∀ parameter value, arguments.plain parameter = some value →
    parameter.Holds before.params value (parameter.get after.params)
  resolution : ∀ value, arguments.resolution = some value →
    value.Reports after.params.width after.params.height ∧ after.resObject = some value
  mode : ∀ value, arguments.mode = some value → StoresMode value after

/-- Each value of the call is stored, limited to its range. -/
def Call.Stored (before after : CameraState) : Call → Prop
  | .setAttr (.parameter parameter) value =>
      parameter.Holds before.params value (parameter.get after.params)
  | .setAttr .mode value => StoresMode value after
  | .setAttr .other _ => False
  | .stream arguments | .record arguments => arguments.Stored before after

/-- What a rejected call must leave: the parameters, the resolution and mode
objects, `m_currParams` and the controls. -/
def CameraState.kept (state : CameraState) :
    KcParams × (Option PyValue × Option PyValue) × KcParams × Controls :=
  (state.params, state.objects, state.current, state.controls)

namespace Arguments

variable (arguments : Arguments)

end Arguments

section

variable {state next : CameraState} {arguments : Arguments} {outcome : Outcome}

/-- A state that keeps what accepted arguments have stored, but for the plain
parameters. -/
structure Follows (arguments : Arguments) (state after : CameraState) : Prop where
  width : after.params.width = ((state.resolved arguments).moded arguments.mode).params.width
  height : after.params.height = ((state.resolved arguments).moded arguments.mode).params.height
  mode : after.params.mode = ((state.resolved arguments).moded arguments.mode).params.mode
  objects : after.objects = ((state.resolved arguments).moded arguments.mode).objects

open CameraState

end

/-! ## The condition on a call -/

/-- The Camera has the state that the system gives it. -/
structure CameraState.Occurs (camera : CameraState) (state : System) : Prop where
  params : state.world.kcParams = some camera.params
  current : state.world.g.currParams = camera.current
  controls : state.world.controls = camera.controls
  run : state.world.g.run = camera.run
  stopping : state.world.g.stopping = camera.stopping
  recording : state.world.g.record.isSome = camera.recording

/-- The tuning of a Camera that occurs, once `g_params` leads to it. -/
theorem CameraState.Occurs.tuned {camera : CameraState} {state : System}
    (occurs : camera.Occurs state) (sound : state.world.fault = none)
    (pointed : state.world.camera = state.world.params) : state.world.Tuned camera.tuning :=
  ⟨sound, pointed, occurs.params, occurs.current, occurs.controls⟩

/-- From there the engine comes to what a call leaves, when nobody disturbs its request. -/
theorem CameraState.Occurs.gets {camera : CameraState} {state : System} {call : Call}
    {request : Request} {thread : Tid} {next : Reply → Code Unit} (occurs : camera.Occurs state)
    (sound : state.world.fault = none) (pointed : state.world.camera = state.world.params)
    (furnished : state.world.Furnished) (found : call.request camera = some request)
    (goes : call.GoesAlone camera) (code : state.code thread = Code.serve request >>= next)
    (undisturbed : Undisturbed thread [.gil] state) :
    ∃ world reply, Gets semantics thread state world [.gil] (next reply) ∧
      world.Tuned (call.apply camera).1.tuning :=
  Call.gets found goes (occurs.tuned sound pointed) furnished occurs.stopping code undisturbed

end KCamera.Module
