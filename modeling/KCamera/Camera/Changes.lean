import KCamera.Camera.Calls
import KCamera.Camera.Tuning

/-!
# What the calls change

Of the parameters, the setters write the shutter speed only; a changed mode
brings its size along, and a start limits the framerate. The first parse of
`parseArgs` writes the plain parameters that are given.
-/

namespace KCamera.Module

open Machine PyValue

/-! ## The setters -/

/-- The fields beside parameters and controls. -/
structure Outer where
  resObject : Option PyValue
  modeObject : Option PyValue
  current : KcParams
  run : Bool
  stopping : Bool
  recording : Bool
  startUp : List Setter

namespace CameraState

def outer (state : CameraState) : Outer :=
  ⟨state.resObject, state.modeObject, state.current, state.run, state.stopping, state.recording,
    state.startUp⟩

/-- What the setters read and write. -/
def tuning (state : CameraState) : Tuning := ⟨state.params, state.current, state.controls⟩

end CameraState

/-- What a state has of the camera is what it has beside parameters and controls. -/
theorem eq_of_outer {state next : CameraState} (outer : next.outer = state.outer) :
    next.current = state.current ∧ next.run = state.run :=
  ⟨congrArg Outer.current outer, congrArg Outer.run outer⟩

/-- Only `kcSetFramerate` writes a parameter. -/
theorem setter_params {setter : Setter} (other : setter ≠ .framerate) (params : KcParams)
    (controls : Controls) : (setter.apply params controls).1 = params := by
  cases setter with
  | framerate => exact absurd rfl other
  | _ => rfl

/-- The shutter speed that the framerate leaves. -/
def followedShutter (params current : KcParams) : ℚ :=
  if params.framerate = current.framerate then params.shutterSpeed else params.limitedShutter

/-- The parameters with another shutter speed. -/
def withShutter (speed : ℚ) (params : KcParams) : KcParams :=
  { params with shutterSpeed := speed }

/-- The parameters with another measured framerate. -/
def withMeasured (fps : ℚ) (params : KcParams) : KcParams := { params with fps := fps }

namespace CameraState

variable (state : CameraState)

/-- A setter that is called on a change writes parameters and controls only. -/
@[simp] theorem whenChanged_outer (setting : Setting) (setter : Setter) :
    (state.whenChanged setting setter).outer = state.outer := by
  unfold whenChanged
  split <;> rfl

/-- A setter that is called on a change acts as it does in the engine. -/
theorem whenChanged_tuning (setting : Setting) (setter : Setter) :
    (state.whenChanged setting setter).tuning = state.tuning.whenChanged setting setter := by
  unfold whenChanged Tuning.whenChanged
  change _ = if setting.changed state.params state.current then _ else _
  split <;> rfl

/-- The setters leave `m_currParams` to the end of `kcUpdateParams`. -/
theorem whenChanged_current (setting : Setting) (setter : Setter) :
    (state.whenChanged setting setter).current = state.current :=
  (eq_of_outer (state.whenChanged_outer setting setter)).1

/-- A changed framerate shortens the shutter speed to the new frame time. -/
theorem whenChanged_framerate_params :
    (state.whenChanged .framerate .framerate).params =
      withShutter (followedShutter state.params state.current) state.params := by
  unfold whenChanged followedShutter withShutter
  by_cases same : state.params.framerate = state.current.framerate
  · rw [if_neg (by simp [Setting.changed, same]), if_pos same]
  · rw [if_pos (by simp [Setting.changed, same]), if_neg same]
    simp [set, Setter.apply, kcSetFramerate_eq]

/-- Without a restart the tuning is updated as the engine's `kcUpdateParams`
does it. -/
theorem kcUpdateParams_tuning {state : CameraState} (same : state.restart = false) :
    state.kcUpdateParams.tuning = state.tuning.update := by
  have mode : Setting.mode.changed state.params state.current = false := by
    unfold restart at same
    simp only [decide_eq_false_iff_not, not_or, Bool.not_eq_true] at same
    exact same.2
  have mode' : Setting.mode.changed (state.whenChanged .framerate .framerate).params
      (state.whenChanged .framerate .framerate).current = false := by
    rw [whenChanged_framerate_params, whenChanged_current]
    exact mode
  unfold kcUpdateParams applyChanges
  simp only [same, mode', Bool.false_eq_true, false_and, if_false, Tuning.update]
  simp only [← whenChanged_tuning]
  rfl

end CameraState

/-! ## Stopping and starting -/

/-- The framerate limits that every mode has. -/
structure Limits (params : KcParams) : Prop where
  least : params.minFps = 4
  most : params.maxFps = 90

/-- The framerate is within the limits. -/
def Within (params : KcParams) : Prop :=
  params.minFps ≤ params.framerate ∧ params.framerate ≤ params.maxFps

/-- The limits of every mode are the same, so computing them again changes nothing. -/
theorem Limits.kcSetMinMaxFramerate {params : KcParams} (limits : Limits params) :
    kcSetMinMaxFramerate params = params := by
  obtain ⟨⟩ := params
  obtain ⟨rfl, rfl⟩ := limits
  unfold KCamera.kcSetMinMaxFramerate
  split <;> rfl

/-- A start limits the framerate and nothing else that can be read. -/
theorem limitFramerate_get {parameter : Parameter} (other : parameter ≠ .framerate)
    (params : KcParams) : parameter.get (limitFramerate params) = parameter.get params := by
  have same : parameter.get (kcSetMinMaxFramerate params) = parameter.get params := by
    unfold kcSetMinMaxFramerate
    split
    · cases parameter <;> rfl
    · rfl
  rw [← same]
  unfold limitFramerate
  dsimp only
  split
  · exact Parameter.framerate.get_put_of_ne other _ _
  · split
    · exact Parameter.framerate.get_put_of_ne other _ _
    · rfl

/-- A start leaves a framerate within the limits. -/
theorem Limits.limitFramerate {params : KcParams} (limits : Limits params) :
    Limits (limitFramerate params) ∧ Within (limitFramerate params) := by
  simp only [KCamera.limitFramerate, limits.kcSetMinMaxFramerate]
  obtain ⟨least, most⟩ := limits
  split
  · refine ⟨⟨least, most⟩, ?_, UInt32.le_refl _⟩
    change params.minFps ≤ params.maxFps
    rw [least, most]
    decide
  · rename_i low
    split
    · refine ⟨⟨least, most⟩, UInt32.le_refl _, ?_⟩
      change params.minFps ≤ params.maxFps
      rw [least, most]
      decide
    · rename_i high
      exact ⟨⟨least, most⟩, UInt32.not_lt.mp high, UInt32.not_lt.mp low⟩

/-- A mode changes no attribute but its own. -/
theorem kcSetMode_get (parameter : Parameter) (params : KcParams) :
    parameter.get (kcSetMode params) = parameter.get params := by
  unfold kcSetMode
  split
  · cases parameter <;> rfl
  · split
    · cases parameter <;> rfl
    · split
      · cases parameter <;> rfl
      · rfl

/-- A mode changes none of the other fields but width and height. -/
theorem kcSetMode_rest (params : KcParams) :
    (kcSetMode params).mode = params.mode ∧ (kcSetMode params).fps = params.fps ∧
      (kcSetMode params).maxFps = params.maxFps ∧ (kcSetMode params).minFps = params.minFps := by
  unfold kcSetMode
  split
  · exact ⟨rfl, rfl, rfl, rfl⟩
  · split
    · exact ⟨rfl, rfl, rfl, rfl⟩
    · split <;> exact ⟨rfl, rfl, rfl, rfl⟩

namespace CameraState

/-- The objects beside the parameters. -/
def objects (state : CameraState) : Option PyValue × Option PyValue :=
  (state.resObject, state.modeObject)

/-- Every setter leaves the parameters but for the shutter speed. -/
theorem set_params (state : CameraState) (setter : Setter) :
    ∃ speed, (state.set setter).params = withShutter speed state.params := by
  obtain ⟨speed, same⟩ := state.tuning.set_params setter
  exact ⟨speed, same⟩

variable (state : CameraState)

end CameraState

/-! ## Assignments -/

open CameraState

/-- An integer limited to a range. -/
def limit (range : Int × Int) (value : Int) : Int := max range.1 (min range.2 value)

section

variable {state : CameraState}

/-- What is stored of a value that is limited. -/
def limited (least most val : UInt32) : UInt32 :=
  if val < least then least else if most < val then most else val

/-- The tests of `camera_setAttr` limit the value. -/
theorem limitValue_brightness (params : KcParams) (value : PyValue) :
    Parameter.brightness.member (limitValue params .brightness value) =
      some (limited 0 100 (value.asUnsignedLong.getD conversionFailed)) := by
  change (limitValue params .brightness value).asUnsignedMember = _
  simp only [limitValue, limited, UInt32.not_lt_zero, if_false]
  split
  · exact asUnsignedMember_toNat 100
  · rename_i bounded
    cases found : value.asUnsignedLong with
    | none =>
        rw [found] at bounded
        exact absurd (by decide) bounded
    | some val => exact asUnsignedMember_of_long found

/-- An assigned framerate is limited to 4 and 90; what is no number counts as the
largest. -/
theorem limitValue_framerate (limits : Limits state.params) (value : PyValue) :
    Parameter.framerate.member (limitValue state.params .framerate value) =
      some (limited 4 90 (value.asUnsignedLong.getD conversionFailed)) := by
  change (limitValue state.params .framerate value).asUnsignedMember = _
  simp only [limitValue, limited, limits.least, limits.most]
  split
  · exact asUnsignedMember_toNat 4
  · split
    · exact asUnsignedMember_toNat 90
    · rename_i bounded
      cases found : value.asUnsignedLong with
      | none =>
          rw [found] at bounded
          exact absurd (by decide) bounded
      | some val => exact asUnsignedMember_of_long found

end

end KCamera.Module
