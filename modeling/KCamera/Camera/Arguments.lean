import KCamera.Engine.Params
import KCamera.Machine.Fields
import KCamera.Python.Value

/-!
# Arguments of the Camera

The parameters by name, with what the formats of `parseArgs` and the member
table of `kcameramodule.c` make of a value for each. Resolution and mode, which
have objects of their own, are kept apart.
-/

namespace KCamera.Module

open Machine

/-- The parameters that are plain fields of `KcParams`. -/
inductive Parameter where
  | framerate
  | duration
  | brightness
  | autoshutter
  | awb
  | awbRed
  | awbBlue
  | shutterSpeed
  | saturation
  | maxLatency
  | memReserve
  | hflip
  | vflip
  | startShift
deriving DecidableEq, Repr

namespace Parameter

/-- The type of the field. -/
abbrev Value : Parameter → Type
  | framerate | brightness | saturation | maxLatency | memReserve => UInt32
  | duration | awbRed | awbBlue | shutterSpeed => ℚ
  | autoshutter | awb | hflip | vflip => Bool
  | startShift => Int32

def get : (parameter : Parameter) → KcParams → parameter.Value
  | framerate, params => params.framerate
  | duration, params => params.duration
  | brightness, params => params.brightness
  | autoshutter, params => params.autoShutter
  | awb, params => params.awb
  | awbRed, params => params.awbRed
  | awbBlue, params => params.awbBlue
  | shutterSpeed, params => params.shutterSpeed
  | saturation, params => params.saturation
  | maxLatency, params => params.maxLatency
  | memReserve, params => params.memReserve
  | hflip, params => params.hflip
  | vflip, params => params.vflip
  | startShift, params => params.startShift

def put : (parameter : Parameter) → parameter.Value → KcParams → KcParams
  | framerate, value, params => { params with framerate := value }
  | duration, value, params => { params with duration := value }
  | brightness, value, params => { params with brightness := value }
  | autoshutter, value, params => { params with autoShutter := value }
  | awb, value, params => { params with awb := value }
  | awbRed, value, params => { params with awbRed := value }
  | awbBlue, value, params => { params with awbBlue := value }
  | shutterSpeed, value, params => { params with shutterSpeed := value }
  | saturation, value, params => { params with saturation := value }
  | maxLatency, value, params => { params with maxLatency := value }
  | memReserve, value, params => { params with memReserve := value }
  | hflip, value, params => { params with hflip := value }
  | vflip, value, params => { params with vflip := value }
  | startShift, value, params => { params with startShift := value }

/-- The parameter's letter in the format of `parseArgs`: `I`, `f` or `p`. -/
def format : (parameter : Parameter) → PyValue → Option parameter.Value
  | framerate, value | brightness, value | saturation, value | maxLatency, value
  | memReserve, value => value.asUnsigned
  | duration, value | awbRed, value | awbBlue, value | shutterSpeed, value => value.asFloat
  | autoshutter, value | awb, value | hflip, value | vflip, value => value.truth
  | startShift, value => value.asUnsigned.map UInt32.toInt32

/-- The parameter's member type: `T_UINT`, `T_FLOAT` or `T_BOOL`. -/
def member : (parameter : Parameter) → PyValue → Option parameter.Value
  | framerate, value | brightness, value | saturation, value | maxLatency, value
  | memReserve, value => value.asUnsignedMember
  | duration, value | awbRed, value | awbBlue, value | shutterSpeed, value => value.asFloat
  | autoshutter, value | awb, value | hflip, value | vflip, value => value.asBoolMember
  | startShift, value => value.asUnsignedMember.map UInt32.toInt32

/-- The parameters in the order of `kwlist`. -/
def kwlist : List Parameter :=
  [framerate, duration, brightness, autoshutter, awb, awbRed, awbBlue, shutterSpeed, saturation,
    maxLatency, memReserve, hflip, vflip, startShift]

/-- The parameters as fields of `KcParams`. -/
def fields : Fields KcParams Parameter Value where
  get
  put
  get_put parameter value params := by cases parameter <;> rfl
  get_put_of_ne {parameter other} value params different := by
    cases parameter <;> cases other <;> first | rfl | exact absurd rfl different
  put_get parameter params := by cases parameter <;> rfl

/-- A stored parameter leaves the others. -/
theorem get_put_of_ne (parameter : Parameter) {other : Parameter} (different : other ≠ parameter)
    (value : parameter.Value) (params : KcParams) :
    other.get (parameter.put value params) = other.get params :=
  fields.get_put_of_ne value params (Ne.symm different)

end Parameter

/-- The fields of `KcParams` that are not plain parameters. -/
structure Rest where
  width : UInt32
  height : UInt32
  mode : String
  fps : ℚ
  maxFps : UInt32
  minFps : UInt32

def rest (params : KcParams) : Rest :=
  ⟨params.width, params.height, params.mode, params.fps, params.maxFps, params.minFps⟩

/-- A stored parameter leaves what is no plain parameter. -/
@[simp] theorem rest_put (parameter : Parameter) (value : parameter.Value) (params : KcParams) :
    rest (parameter.put value params) = rest params := by
  cases parameter <;> rfl

/-- The keyword arguments of `Camera`, `stream` and `record`. -/
structure Arguments where
  resolution : Option PyValue
  mode : Option PyValue
  plain : Parameter → Option PyValue
  /-- How many keywords are not in `kwlist`. -/
  unknown : Nat

/-- A call without arguments. -/
def Arguments.empty : Arguments := ⟨none, none, fun _ => none, 0⟩

/-- What comes in for the plain parameters. -/
def Arguments.input (arguments : Arguments) : Fields.Input Parameter.Value :=
  fun parameter => (arguments.plain parameter).map parameter.format

/-- How many keywords are given. -/
def Arguments.given (arguments : Arguments) : Nat :=
  arguments.resolution.toList.length + arguments.mode.toList.length +
    (Parameter.kwlist.flatMap fun parameter => (arguments.plain parameter).toList).length +
    arguments.unknown

/-- `PyArg_ParseTupleAndKeywords` in `parseArgs`: it converts the values in the
order of `kwlist` and looks for unknown keywords when it is through. -/
def Arguments.parseKeywords (arguments : Arguments) (params : KcParams) : KcParams × Bool :=
  if Parameter.kwlist.length + 2 < arguments.given then (params, false)
  else
    let (params, converted) := Parameter.fields.storeAll arguments.input Parameter.kwlist params
    (params, converted ∧ arguments.unknown = 0)

end KCamera.Module
