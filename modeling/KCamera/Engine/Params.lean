import Mathlib.Data.Rat.Floor

/-!
# Parameters and controls

The `KcParams` record of `kcamera.h`, the parts of `kcamera.c` that derive one
parameter from another, and the setters of `run.cpp` that translate parameters
into libcamera controls. Floating-point values are taken exactly.
-/

namespace KCamera

structure KcParams where
  width : UInt32
  height : UInt32
  framerate : UInt32
  duration : ℚ
  mode : String
  brightness : UInt32
  autoShutter : Bool
  awb : Bool
  awbRed : ℚ
  awbBlue : ℚ
  shutterSpeed : ℚ
  saturation : UInt32
  maxLatency : UInt32
  memReserve : UInt32
  hflip : Bool
  vflip : Bool
  startShift : Int32
  fps : ℚ
  maxFps : UInt32
  minFps : UInt32
deriving Inhabited, DecidableEq

/-- `KC_MODE_320X240X10`, `KC_MODE_640X480X10` and `KC_MODE_1280X960X10`. -/
def kcModes : List String := ["320x240x10", "640x480x10", "1280x960x10"]

def maxShutterSpeed (fps : UInt32) : ℚ := 1 / fps.toNat

def kcSetMinMaxFramerate (params : KcParams) : KcParams :=
  if params.mode ∈ kcModes then { params with maxFps := 90, minFps := 4 } else params

/-- An unknown mode changes nothing. -/
def kcSetMode (params : KcParams) : KcParams :=
  if params.mode = "320x240x10" then { params with width := 320, height := 240 }
  else if params.mode = "640x480x10" then { params with width := 640, height := 480 }
  else if params.mode = "1280x960x10" then { params with width := 1280, height := 960 }
  else params

/-- The values `kcInit` sets, over an arbitrary block. -/
def kcInitParams (params : KcParams) : KcParams :=
  kcSetMinMaxFramerate { params with
    width := 640
    height := 480
    framerate := 30
    duration := 0
    mode := "640x480x10"
    brightness := 50
    autoShutter := true
    awb := true
    awbRed := 1
    awbBlue := 1
    shutterSpeed := maxShutterSpeed 30
    saturation := 200
    maxLatency := 100000
    memReserve := 10
    hflip := false
    vflip := false
    startShift := 0
    fps := 0 }

/-- The framerate limits that `kcStart` applies. -/
def limitFramerate (params : KcParams) : KcParams :=
  let params := kcSetMinMaxFramerate params
  if params.framerate > params.maxFps then { params with framerate := params.maxFps }
  else if params.framerate < params.minFps then { params with framerate := params.minFps }
  else params

/-- `KC_FPS_FILTER`. -/
def fpsFilter : ℚ := 1 / 5

/-- The filtered framerate after a frame that came `interval` microseconds
after the one before. -/
def measureFps (params : KcParams) (interval : UInt64) : KcParams :=
  { params with
    fps := (1 - fpsFilter) * params.fps + fpsFilter * (1000000 / interval.toNat) }

/-- The duration limit that `kcStartRecord` gives a list: a `float` converted
to `unsigned`. -/
def KcParams.recordDuration (params : KcParams) : UInt32 := UInt32.ofNat ⌊params.duration⌋.toNat

/-- The most recent value of each control in `_controls`. -/
structure Controls where
  exposureValue : Option ℚ
  brightness : Option ℚ
  contrast : Option ℚ
  colourGains : Option (ℚ × ℚ)
  frameDurations : Option (ℕ × ℕ)
  exposureTime : Option ℕ
deriving Inhabited, DecidableEq

/-- The setters of `run.cpp`. -/
inductive Setter where
  | brightness
  | awbGains
  | awb
  | framerate
  | shutterSpeed
  | autoShutter
deriving DecidableEq, Repr

/-- `BRIGHTNESS_KNEE`. -/
def brightnessKnee : UInt32 := 75

/-- `BRIGHTNESS_CONTRAST_RATIO`. -/
def brightnessContrastRatio : ℚ := 1 / 2

/-- `kcSetBrightness`; above the knee some digital gain is added. -/
def kcSetBrightness (params : KcParams) (controls : Controls) : Controls :=
  let brightness : ℚ := params.brightness.toInt32.toInt
  let controls := { controls with exposureValue := some ((brightness - 50) / 5) }
  if params.brightness ≤ brightnessKnee then
    { controls with brightness := some 0, contrast := some 1 }
  else
    { controls with
      brightness := some ((brightness - 75) / (100 - 75))
      contrast := some ((brightness - 75) / ((100 - 75) * brightnessContrastRatio) + 1) }

def kcSetAWBGains (params : KcParams) (controls : Controls) : Controls :=
  { controls with colourGains := some (params.awbRed * 2, params.awbBlue * 2) }

def kcSetAWB (params : KcParams) (controls : Controls) : Controls :=
  if params.awb then { controls with colourGains := some (0, 0) }
  else kcSetAWBGains params controls

/-- The shutter speed in whole microseconds. -/
def KcParams.shutterMicroseconds (params : KcParams) : ℕ := ⌊params.shutterSpeed * 1000000⌋.toNat

/-- `kcSetFramerate`, which also shortens the shutter speed to the frame time. -/
def kcSetFramerate (params : KcParams) (controls : Controls) : KcParams × Controls :=
  let frameTime := 1000000 / params.framerate.toNat
  let controls := { controls with frameDurations := some (frameTime, frameTime) }
  if frameTime < params.shutterMicroseconds then
    ({ params with shutterSpeed := frameTime / 1000000 },
      { controls with exposureTime := some frameTime })
  else (params, controls)

def kcSetShutterSpeed (params : KcParams) (controls : Controls) : Controls :=
  { controls with exposureTime := some params.shutterMicroseconds }

def kcSetAutoShutter (params : KcParams) (controls : Controls) : Controls :=
  if params.autoShutter then { controls with exposureTime := some 0 }
  else kcSetShutterSpeed params controls

/-- What a setter does to the parameters and the controls. -/
def Setter.apply (params : KcParams) (controls : Controls) : Setter → KcParams × Controls
  | .brightness => (params, kcSetBrightness params controls)
  | .awbGains => (params, kcSetAWBGains params controls)
  | .awb => (params, kcSetAWB params controls)
  | .framerate => kcSetFramerate params controls
  | .shutterSpeed => (params, kcSetShutterSpeed params controls)
  | .autoShutter => (params, kcSetAutoShutter params controls)

/-- A comparison of `kcUpdateParams`. -/
inductive Setting where
  | resolution
  | framerate
  | mode
  | brightness
  | autoShutter
  | awb
  | awbGains
  | shutterSpeed
deriving DecidableEq, Repr

/-- The setting differs between `g_params` and `m_currParams`. -/
def Setting.changed (params current : KcParams) : Setting → Bool
  | .resolution => params.width ≠ current.width ∨ params.height ≠ current.height
  | .framerate => params.framerate ≠ current.framerate
  | .mode => params.mode ≠ current.mode
  | .brightness => params.brightness ≠ current.brightness
  | .autoShutter => params.autoShutter ≠ current.autoShutter
  | .awb => params.awb ≠ current.awb
  | .awbGains => params.awbRed ≠ current.awbRed ∨ params.awbBlue ≠ current.awbBlue
  | .shutterSpeed => params.shutterSpeed ≠ current.shutterSpeed

end KCamera
