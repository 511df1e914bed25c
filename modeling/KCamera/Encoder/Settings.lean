import KCamera.Encoder.Params
import Mathlib.Tactic.Tauto

/-!
# Encoder settings

Construction of an `Encoder` and assignments to its attributes, one after the
other and with every device operation succeeding. The bitrate reaches the device
only through `SetBitrate`, and no new device is told of it.
-/

namespace KCamera.Kencoder

/-- The `Encoder` object with the open device. -/
structure Configured where
  settings : Settings
  device : DeviceSettings

/-- `keUpdateParams`; the driver's own bitrate is `standard`. -/
def Configured.keUpdateParams (standard : UInt32) (configured : Configured) : Configured :=
  let settings := configured.settings
  let device :=
    if settings.bitrateChanged then { configured.device with bitrate := settings.params.bitrate }
    else configured.device
  if settings.restart then ⟨settings.keInit, openDevice standard settings.keInit.options⟩
  else ⟨settings.follow, device⟩

/-- `encoder_setAttr`, and whether the assignment is accepted. -/
def Configured.encoder_setAttr (standard : UInt32) (configured : Configured) (name : Attribute)
    (value : PyValue) : Configured × Bool :=
  match configured.settings.setAttr name value with
  | (settings, .refused) => (⟨settings, configured.device⟩, false)
  | (settings, .generic accepted) =>
      (Configured.keUpdateParams standard ⟨settings, configured.device⟩, accepted)

/-- An assignment to `resolution` or `bitrate`. -/
inductive Assignment where
  | resolution (value : PyValue)
  | bitrate (value : PyValue)

def Configured.assign (standard : UInt32) (configured : Configured) :
    Assignment → Configured × Bool
  | .resolution value => configured.encoder_setAttr standard .resolution value
  | .bitrate value => configured.encoder_setAttr standard .bitrate value

/-- The object constructed with these arguments. -/
def Constructed (standard : UInt32) (resolution bitrate mode : Option PyValue)
    (configured : Configured) : Prop :=
  encoder_init standard resolution bitrate mode = some (configured.settings, configured.device)

/-- The device, the parameters and the attributes agree. The `bitrate`
attribute is read from the parameters. -/
structure Configured.InForce (configured : Configured) : Prop where
  width : configured.device.width = configured.settings.params.width
  height : configured.device.height = configured.settings.params.height
  bitrate : configured.device.bitrate = configured.settings.params.bitrate
  resolution : ∃ value, configured.settings.resObject = some value ∧
    value.Reports configured.settings.params.width configured.settings.params.height

/-- What is in force, stored and reported. -/
def Configured.values (configured : Configured) :
    DeviceSettings × (UInt32 × UInt32 × UInt32) × Option PyValue :=
  (configured.device,
    (configured.settings.params.width, configured.settings.params.height,
      configured.settings.params.bitrate),
    configured.settings.resObject)

/-- The bitrate that the constructor's arguments ask for. -/
def chosenBitrate (bitrate : Option PyValue) : Option UInt32 :=
  bitrate.elim (some 3000000) PyValue.asUnsigned

/-- The arguments have a resolution that fits and the bitrate that the driver
uses of its own accord. -/
def Fitting (standard : UInt32) (resolution bitrate : Option PyValue) : Prop :=
  (∃ value width height, resolution = some value ∧ value.Reports width height) ∧
    chosenBitrate bitrate = some standard

/-- A resolution that fits, new only with the driver's own bitrate; or one that
is refused before another width is stored. -/
def Admits (standard : UInt32) (configured : Configured) : Assignment → Prop
  | .resolution value =>
      let params := configured.settings.params
      match value.parsePair params.width params.height with
      | ((width, height), true) => value.Reports width height ∧
          ((width = params.width ∧ height = params.height) ∨ params.bitrate = standard)
      | ((width, _), false) => width = params.width
  | .bitrate _ => True

/-! ## One call -/

/-- `g_currParams` follows the parameters, and `g_options` has no bitrate. -/
structure Tracked (configured : Configured) : Prop extends configured.InForce where
  currWidth : configured.settings.currParams.width = configured.settings.params.width
  currHeight : configured.settings.currParams.height = configured.settings.params.height
  currBitrate : configured.settings.currParams.bitrate = configured.settings.params.bitrate
  options : configured.settings.options.bitrate = 0

section Construction

variable {standard : UInt32} {resolution bitrate mode : Option PyValue} {configured : Configured}

/-- What a new object has from its arguments. -/
theorem Constructed.spec (built : Constructed standard resolution bitrate mode configured) :
    configured.settings.currParams = configured.settings.params ∧
      configured.settings.options.bitrate = 0 ∧
      configured.device =
        ⟨configured.settings.params.width, configured.settings.params.height, standard⟩ ∧
      chosenBitrate bitrate = some configured.settings.params.bitrate ∧
      configured.settings.resObject = resolution ∧
      ∀ value, resolution = some value → value.parsePair 640 480 =
        ((configured.settings.params.width, configured.settings.params.height), true) := by
  obtain ⟨settings, device⟩ := configured
  simp only [Constructed, encoder_init, Option.map_eq_some_iff, Prod.mk.injEq] at built
  obtain ⟨parsed, parse, rfl, rfl⟩ := built
  simp only [Settings.parseArgs, Option.bind_eq_some_iff] at parse
  obtain ⟨second, ⟨first, bits, size⟩, rest⟩ := parse
  have rate : chosenBitrate bitrate = some first.params.bitrate ∧ first.options = .initial ∧
      first.resObject = none ∧ first.params.width = 640 ∧ first.params.height = 480 := by
    cases bitrate with
    | none =>
        cases bits
        exact ⟨rfl, rfl, rfl, rfl, rfl⟩
    | some given =>
        obtain ⟨chosen, asked, rfl⟩ := Option.map_eq_some_iff.mp bits
        exact ⟨asked, rfl, rfl, rfl, rfl⟩
  have shape : second.params.bitrate = first.params.bitrate ∧ second.options = .initial ∧
      second.resObject = resolution ∧ ∀ value, resolution = some value →
        value.parsePair 640 480 = ((second.params.width, second.params.height), true) := by
    obtain ⟨-, options, object, width, height⟩ := rate
    cases resolution with
    | none =>
        cases size
        exact ⟨rfl, options, object, fun _ absent => by cases absent⟩
    | some value =>
        simp only [Settings.parseResolution, width, height] at size
        split at size
        · rename_i parsed
          cases size
          refine ⟨rfl, options, rfl, fun _ same => ?_⟩
          cases same
          exact parsed
        · cases size
  have last : parsed.params.bitrate = second.params.bitrate ∧ parsed.options = second.options ∧
      parsed.resObject = second.resObject ∧ parsed.params.width = second.params.width ∧
      parsed.params.height = second.params.height := by
    cases mode with
    | none =>
        cases rest
        exact ⟨rfl, rfl, rfl, rfl, rfl⟩
    | some text =>
        obtain ⟨_, _, rfl⟩ := Option.map_eq_some_iff.mp rest
        exact ⟨rfl, rfl, rfl, rfl, rfl⟩
  obtain ⟨lastBitrate, lastOptions, lastObject, lastWidth, lastHeight⟩ := last
  obtain ⟨sameBitrate, options, object, parse⟩ := shape
  refine ⟨rfl, ?_, ?_, ?_, lastObject.trans object, ?_⟩
  · simp [Settings.keInit, lastOptions, options, VideoOptions.initial]
  · simp [openDevice, Settings.keInit, lastOptions, options, VideoOptions.initial]
  · rw [rate.1, ← sameBitrate, ← lastBitrate]
    rfl
  · intro value given
    rw [parse value given, ← lastWidth, ← lastHeight]
    rfl

/-- A new object agrees with its device exactly when its arguments fit. -/
theorem Constructed.inForce_iff (built : Constructed standard resolution bitrate mode configured) :
    configured.InForce ↔ Fitting standard resolution bitrate := by
  obtain ⟨-, -, device, chosen, object, parse⟩ := built.spec
  constructor
  · rintro ⟨-, -, rate, value, stored, reports⟩
    refine ⟨⟨value, _, _, object.symm.trans stored, reports⟩, ?_⟩
    rw [chosen, ← rate, device]
  · rintro ⟨⟨value, width, height, given, reports⟩, asked⟩
    have pair := parse value given
    rw [reports.parsePair] at pair
    simp only [Prod.mk.injEq, and_true] at pair
    have rate : standard = configured.settings.params.bitrate := by
      rw [asked] at chosen
      exact Option.some.inj chosen
    refine ⟨by rw [device], by rw [device], ?_, value, object.trans given, ?_⟩
    · rw [device]
      exact rate
    · rwa [← pair.1, ← pair.2]

/-- What the constructor configures is tracked. -/
theorem Constructed.tracked (built : Constructed standard resolution bitrate mode configured)
    (agrees : configured.InForce) : Tracked configured := by
  obtain ⟨same, options, -⟩ := built.spec
  exact ⟨agrees, by rw [same], by rw [same], by rw [same], options⟩

end Construction

/-- An accepted resolution comes into force. A new device has the driver's own
bitrate. -/
theorem Tracked.setResolution {standard : UInt32} {configured : Configured}
    (tracked : Tracked configured) {value : PyValue} {width height : UInt32}
    (reports : value.Reports width height)
    (kept : (width = configured.settings.params.width ∧
      height = configured.settings.params.height) ∨
        configured.settings.params.bitrate = standard) :
    Tracked (configured.assign standard (.resolution value)).1 := by
  obtain ⟨settings, device⟩ := configured
  obtain ⟨⟨sameWidth, sameHeight, sameBitrate, -⟩, currWidth, currHeight, currBitrate, options⟩ :=
    tracked
  simp only at sameWidth sameHeight sameBitrate currWidth currHeight currBitrate options kept
  simp only [Configured.assign, Configured.encoder_setAttr, Settings.setAttr, reports.parsePair,
    if_true, Configured.keUpdateParams, Settings.bitrateChanged, currBitrate]
  by_cases same : width = settings.params.width ∧ height = settings.params.height
  · obtain ⟨rfl, rfl⟩ := same
    simp only [Settings.restart, currWidth, currHeight]
    simp only [ne_eq, not_true_eq_false, or_self, decide_false, Bool.false_eq_true, if_false]
    exact ⟨⟨sameWidth, sameHeight, sameBitrate, value, rfl, reports⟩, rfl, rfl, rfl, options⟩
  · have anew : settings.params.bitrate = standard := kept.resolve_left same
    have restart : (decide (width ≠ settings.params.width ∨ height ≠ settings.params.height)) := by
      rw [decide_eq_true_eq]
      tauto
    simp only [Settings.restart, currWidth, currHeight, restart, if_true]
    refine ⟨⟨rfl, rfl, ?_, value, rfl, reports⟩, rfl, rfl, rfl, options⟩
    simp [openDevice, Settings.keInit, options, anew]

/-- A bitrate comes into force, and a refused one changes nothing. -/
theorem Tracked.setBitrate (standard : UInt32) {configured : Configured}
    (tracked : Tracked configured) (value : PyValue) :
    Tracked (configured.assign standard (.bitrate value)).1 := by
  obtain ⟨settings, device⟩ := configured
  obtain ⟨⟨sameWidth, sameHeight, sameBitrate, object⟩, currWidth, currHeight, currBitrate,
    options⟩ := tracked
  simp only at sameWidth sameHeight sameBitrate currWidth currHeight currBitrate options object
  cases asked : value.asUnsignedMember with
  | none =>
      simp [Configured.assign, Configured.encoder_setAttr, Settings.setAttr, asked,
        Configured.keUpdateParams, Settings.bitrateChanged, Settings.restart, currBitrate,
        currWidth, currHeight]
      exact ⟨⟨sameWidth, sameHeight, sameBitrate, object⟩, rfl, rfl, rfl, options⟩
  | some bitrate =>
      have calm : ¬(settings.params.width ≠ settings.params.width ∨
          settings.params.height ≠ settings.params.height) := by
        simp
      simp only [Configured.assign, Configured.encoder_setAttr, Settings.setAttr, asked,
        Configured.keUpdateParams, Settings.bitrateChanged, Settings.restart, currWidth,
        currHeight, calm, decide_false, Bool.false_eq_true, if_false]
      by_cases changed : bitrate = settings.currParams.bitrate
      · have unchanged : decide (bitrate ≠ settings.currParams.bitrate) = false := by
          simpa using changed
        simp only [unchanged, Bool.false_eq_true, if_false]
        have rate : device.bitrate = bitrate := by
          rw [sameBitrate, ← currBitrate, changed]
        exact ⟨⟨sameWidth, sameHeight, rate, object⟩, rfl, rfl, rfl, options⟩
      · have told : decide (bitrate ≠ settings.currParams.bitrate) = true := by
          simpa using changed
        simp only [told, if_true]
        exact ⟨⟨sameWidth, sameHeight, rfl, object⟩, rfl, rfl, rfl, options⟩

/-- An admitted assignment keeps the copies together. -/
theorem Tracked.assign {standard : UInt32} {configured : Configured}
    (tracked : Tracked configured) {assignment : Assignment}
    (admits : Admits standard configured assignment) :
    Tracked (configured.assign standard assignment).1 := by
  cases assignment with
  | bitrate value => exact tracked.setBitrate standard value
  | resolution value =>
      simp only [Admits] at admits
      split at admits
      · obtain ⟨reports, kept⟩ := admits
        exact tracked.setResolution reports kept
      · rename_i width height refused
        have same := PyValue.parsePair_height (congrArg Prod.snd refused)
        rw [refused] at same
        subst admits
        simp only at same
        subst same
        simpa [Configured.assign, Configured.encoder_setAttr, Settings.setAttr, refused] using tracked

/-- A rejected assignment that is admitted leaves everything as it was. -/
theorem Tracked.rejected {standard : UInt32} {configured : Configured}
    (tracked : Tracked configured) {assignment : Assignment}
    (admits : Admits standard configured assignment)
    (rejected : (configured.assign standard assignment).2 = false) :
    (configured.assign standard assignment).1.values = configured.values := by
  cases assignment with
  | bitrate value =>
      cases asked : value.asUnsignedMember with
      | none =>
          simp [Configured.assign, Configured.encoder_setAttr, Settings.setAttr, asked,
            Configured.keUpdateParams, Settings.bitrateChanged, Settings.restart,
            tracked.currBitrate, tracked.currWidth, tracked.currHeight, Configured.values,
            Settings.follow]
      | some bitrate =>
          simp [Configured.assign, Configured.encoder_setAttr, Settings.setAttr, asked] at rejected
  | resolution value =>
      simp only [Admits] at admits
      split at admits
      · rename_i width height parsed
        simp [Configured.assign, Configured.encoder_setAttr, Settings.setAttr, parsed] at rejected
      · rename_i width height refused
        have same := PyValue.parsePair_height (congrArg Prod.snd refused)
        rw [refused] at same
        simp only at same
        simp [Configured.assign, Configured.encoder_setAttr, Settings.setAttr, refused,
          Configured.values, admits, same]

/-- Agreement after an assignment, and no change where it is rejected, take an
admitted assignment. -/
theorem Tracked.admits {standard : UInt32} {configured : Configured}
    (tracked : Tracked configured) {assignment : Assignment}
    (agrees : (configured.assign standard assignment).1.InForce) :
    Admits standard configured assignment := by
  cases assignment with
  | bitrate value => trivial
  | resolution value =>
      simp only [Admits]
      split
      · rename_i width height parsed
        simp only [Configured.assign, Configured.encoder_setAttr, Settings.setAttr, parsed,
          if_true, Configured.keUpdateParams, Settings.bitrateChanged, tracked.currBitrate,
          Settings.restart, tracked.currWidth, tracked.currHeight] at agrees
        by_cases same : width = configured.settings.params.width ∧
            height = configured.settings.params.height
        · obtain ⟨rfl, rfl⟩ := same
          simp only [ne_eq, not_true_eq_false, or_self, decide_false, Bool.false_eq_true,
            if_false] at agrees
          obtain ⟨-, -, -, stored, shown, reports⟩ := agrees
          cases shown
          exact ⟨reports, .inl ⟨rfl, rfl⟩⟩
        · have restart : decide (width ≠ configured.settings.params.width ∨
              height ≠ configured.settings.params.height) = true := by
            rw [decide_eq_true_eq]
            tauto
          simp only [restart, if_true] at agrees
          obtain ⟨-, -, rate, stored, shown, reports⟩ := agrees
          cases shown
          refine ⟨reports, .inr ?_⟩
          simpa [openDevice, Settings.keInit, tracked.options] using rate.symm
      · rename_i width height refused
        have width' := agrees.width
        simp only [Configured.assign, Configured.encoder_setAttr, Settings.setAttr, refused] at width'
        exact width'.symm.trans tracked.width

/-! ## Sequences of calls -/

/-- After each call the values in force are those stored and reported, and a
rejected assignment changes nothing. -/
def KeptInForce (standard : UInt32) (configured : Configured) : List Assignment → Prop
  | [] => configured.InForce
  | assignment :: rest =>
      let (next, accepted) := configured.assign standard assignment
      configured.InForce ∧ (accepted = false → next.values = configured.values) ∧
        KeptInForce standard next rest

/-- Every assignment of the sequence is admitted. -/
def AllAdmitted (standard : UInt32) (configured : Configured) : List Assignment → Prop
  | [] => True
  | assignment :: rest => Admits standard configured assignment ∧
      AllAdmitted standard (configured.assign standard assignment).1 rest

/-- What is kept in force is in force at first. -/
theorem KeptInForce.first {standard : UInt32} {configured : Configured}
    {assignments : List Assignment} (kept : KeptInForce standard configured assignments) :
    configured.InForce := by
  cases assignments with
  | nil => exact kept
  | cons => exact kept.1

/-- The settings stay in force exactly when every assignment is admitted. -/
theorem Tracked.kept_iff {standard : UInt32} {configured : Configured}
    (tracked : Tracked configured) (assignments : List Assignment) :
    KeptInForce standard configured assignments ↔ AllAdmitted standard configured assignments := by
  induction assignments generalizing configured with
  | nil => exact ⟨fun _ => trivial, fun _ => tracked.toInForce⟩
  | cons assignment rest ih =>
      constructor
      · rintro ⟨-, -, later⟩
        have admits := tracked.admits later.first
        exact ⟨admits, (ih (tracked.assign admits)).mp later⟩
      · rintro ⟨admits, later⟩
        exact ⟨tracked.toInForce, tracked.rejected admits,
          (ih (tracked.assign admits)).mpr later⟩

/-- The device is configured as the attributes say exactly when the constructor's
arguments fit and every assignment is admitted. -/
theorem keptInForce_iff {standard : UInt32} {resolution bitrate mode : Option PyValue}
    {configured : Configured} (built : Constructed standard resolution bitrate mode configured)
    (assignments : List Assignment) :
    KeptInForce standard configured assignments ↔
      Fitting standard resolution bitrate ∧ AllAdmitted standard configured assignments := by
  constructor
  · intro kept
    have tracked := built.tracked kept.first
    exact ⟨built.inForce_iff.mp kept.first, (tracked.kept_iff assignments).mp kept⟩
  · rintro ⟨fitting, admitted⟩
    have tracked := built.tracked (built.inForce_iff.mpr fitting)
    exact (tracked.kept_iff assignments).mpr admitted

/-- An `Encoder` of 640 by 480 pixels, at a bitrate that the driver does not use. -/
def plainEncoder : Configured where
  settings :=
    { params := ⟨640, 480, 3000000, "default"⟩
      resObject := some (.pair 640 480)
      modeObject := none
      currParams := ⟨640, 480, 3000000, "default"⟩
      options := ⟨640, 480, 0⟩ }
  device := ⟨640, 480, 10000000⟩

/-- The example's encoder is constructed with a resolution only. -/
theorem plainEncoder_constructed :
    Constructed 10000000 (some (.pair 640 480)) none none plainEncoder := by
  rfl

/-- Assigning a bitrate to the example's encoder. -/
theorem keptInForce_iff_plain :
    KeptInForce 10000000 plainEncoder [.bitrate (.int 5000000)] ↔
      Fitting 10000000 (some (.pair 640 480)) none ∧
        AllAdmitted 10000000 plainEncoder [.bitrate (.int 5000000)] :=
  keptInForce_iff plainEncoder_constructed _

/-- The device never hears of the bitrate that the constructor has stored. -/
theorem bitrate_not_in_force :
    ¬∀ standard resolution bitrate mode configured,
      Constructed standard resolution bitrate mode configured →
        ∀ assignments, KeptInForce standard configured assignments := by
  intro claim
  have kept := claim _ _ _ _ _ plainEncoder_constructed []
  have rate := kept.first.bitrate
  exact absurd rate (by decide)

end KCamera.Kencoder
