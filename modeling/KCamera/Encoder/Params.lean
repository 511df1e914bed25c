import KCamera.Python.Value

/-!
# Encoder parameters

The `KeParams` record of `kencoder.h` and the copies of it that `kencoder`
keeps: the attribute objects, `g_currParams`, `g_options`, and what the open
device has been told.
-/

namespace KCamera.Kencoder

structure KeParams where
  width : UInt32
  height : UInt32
  bitrate : UInt32
  mode : String
deriving Inhabited, DecidableEq

/-- The fields of `VideoOptions` that the constructor of `H264Encoder` hands to
the device. -/
structure VideoOptions where
  width : UInt32
  height : UInt32
  bitrate : UInt32
deriving DecidableEq

/-- `VideoOptions()` -/
def VideoOptions.initial : VideoOptions := ⟨640, 480, 0⟩

/-- What is in force on the open device. -/
structure DeviceSettings where
  width : UInt32
  height : UInt32
  bitrate : UInt32
deriving Inhabited, DecidableEq

/-- The device as the constructor of `H264Encoder` configures it; `standard` is
the bitrate that the driver uses of its own accord. -/
def openDevice (standard : UInt32) (options : VideoOptions) : DeviceSettings where
  width := options.width
  height := options.height
  bitrate := if options.bitrate ≠ 0 then options.bitrate else standard

/-- The parameters of the `Encoder` object with the copies in `run.cpp`. -/
structure Settings where
  params : KeParams
  resObject : Option PyValue
  modeObject : Option PyValue
  currParams : KeParams
  options : VideoOptions

/-- `keInit` up to the construction of the encoder. -/
def Settings.keInit (settings : Settings) : Settings :=
  { settings with
    currParams := settings.params
    options := { settings.options with
      width := settings.params.width, height := settings.params.height } }

/-- `keGetModes` -/
def keGetModes : List String := ["default"]

/-- The `bitrate` argument of `parseArgs`. -/
def Settings.parseBitrate (settings : Settings) : Option PyValue → Option Settings
  | none => some settings
  | some value => value.asUnsigned.map fun bitrate =>
      { settings with params := { settings.params with bitrate } }

/-- The `resolution` argument of `parseArgs`. -/
def Settings.parseResolution (settings : Settings) : Option PyValue → Option Settings
  | none => some settings
  | some value =>
      match value.parsePair settings.params.width settings.params.height with
      | ((width, height), true) => some { settings with
          params := { settings.params with width, height }, resObject := some value }
      | (_, false) => none

/-- The `mode` argument of `parseArgs`. -/
def Settings.parseMode (settings : Settings) : Option PyValue → Option Settings
  | none => some settings
  | some value => value.asText.map fun text => { settings with
      params := { settings.params with mode := text }, modeObject := some value }

/-- `parseArgs`; the fields set before a failure do not matter, since the object
is gone then. -/
def Settings.parseArgs (settings : Settings) (resolution bitrate mode : Option PyValue) :
    Option Settings :=
  ((settings.parseBitrate bitrate).bind (parseResolution · resolution)).bind (parseMode · mode)

/-- The fields that `encoder_init` sets, in a new object. -/
def Settings.fresh : Settings where
  params := ⟨640, 480, 3000000, "default"⟩
  resObject := none
  modeObject := none
  currParams := default
  options := .initial

/-- `encoder_init`, with the device it opens. -/
def encoder_init (standard : UInt32) (resolution bitrate mode : Option PyValue) :
    Option (Settings × DeviceSettings) :=
  (Settings.fresh.parseArgs resolution bitrate mode).map fun settings =>
    (settings.keInit, openDevice standard settings.keInit.options)

/-- The attributes of an `Encoder`; assignment to any other raises. -/
inductive Attribute where
  | resolution
  | bitrate
  | mode
  | unknown
deriving DecidableEq, Repr

/-- How far `encoder_setAttr` gets. -/
inductive Stored where
  /-- It returns -1 before `PyObject_GenericSetAttr`. -/
  | refused
  /-- It returns what `PyObject_GenericSetAttr` has, after `keUpdateParams`. -/
  | generic (accepted : Bool)
deriving DecidableEq, Repr

/-- `encoder_setAttr` up to `keUpdateParams`. A mode that is not a string is
undefined and counts as refused here. -/
def Settings.setAttr (settings : Settings) (name : Attribute) (value : PyValue) :
    Settings × Stored :=
  match name with
  | .mode =>
      match value with
      | .str text =>
          match PyValue.matchRaw keGetModes text with
          | some mode =>
              ({ settings with params := { settings.params with mode }, modeObject := some value },
                .generic true)
          | none => (settings, .refused)
      | _ => (settings, .refused)
  | .resolution =>
      let ((width, height), parsed) :=
        value.parsePair settings.params.width settings.params.height
      let settings := { settings with params := { settings.params with width, height } }
      if parsed then ({ settings with resObject := some value }, .generic true)
      else (settings, .refused)
  | .bitrate =>
      match value.asUnsignedMember with
      | some bitrate =>
          ({ settings with params := { settings.params with bitrate } }, .generic true)
      | none => (settings, .generic false)
  | .unknown => (settings, .generic false)

/-- The first test of `keUpdateParams`. -/
def Settings.bitrateChanged (settings : Settings) : Bool :=
  settings.params.bitrate ≠ settings.currParams.bitrate

/-- `restart` of `keUpdateParams`. -/
def Settings.restart (settings : Settings) : Bool :=
  settings.params.width ≠ settings.currParams.width ∨
    settings.params.height ≠ settings.currParams.height

/-- The end of `keUpdateParams` without a restart. -/
def Settings.follow (settings : Settings) : Settings :=
  { settings with currParams := settings.params }

end KCamera.Kencoder
