import KCamera.Camera.Parse
import KCamera.Engine.Applying

/-!
# What calls store

The engine's requests are given by the parameters that they leave behind. Here these are
tied to the arguments and values that Python gives: `parseArgs` and `camera_setAttr`
make them of the parameters that the Camera has.
-/

namespace KCamera

open Machine KCamera.Module

open Function (update)

/-- The parameters are those that `parseArgs` makes of `current`, with this outcome. -/
def Parsed (outcome : Outcome) (current params : KcParams) : Prop :=
  ∃ (state : CameraState) (arguments : Arguments), state.params = current ∧
    (state.parseArgs arguments).2 = outcome ∧ (state.parseArgs arguments).1.params = params

/-- The parameters are those that an assignment makes of `current`. -/
def Assigned (accepted : Bool) (current params : KcParams) : Prop :=
  ∃ (state after : CameraState) (name : Attribute) (value : PyValue), state.params = current ∧
    state.store name value = .generic after accepted ∧ after.params = params

/-- What a request stores comes of a call from Python. A rejected assignment is an
assignment, since `kcUpdateParams` follows it. -/
def Request.Stores (current params : KcParams) : Request → Prop
  | .newCamera _ | .stream _ | .record _ => Parsed .returned current params
  | .rejected _ => Parsed .raised current params
  | .setAttr _ => ∃ accepted, Assigned accepted current params
  | _ => False

/-- What an accepted request stores. -/
def Request.Accepts (current params : KcParams) : Request → Prop
  | .newCamera _ | .stream _ | .record _ => Parsed .returned current params
  | .setAttr _ => Assigned true current params
  | _ => False

/-- The calls that store parameters return without an exception. -/
def Accepted (state : System) (thread : Tid) (_ : Choice) : Op → Prop
  | .storeParams params => ∀ request current, (state.stage thread).calling = some request →
      state.world.cameraParams = some current → request.Accepts current params
  | .endCall request reply => request.stores → ∀ message, reply ≠ .error message
  | _ => True

/-- A call that is accepted stores what it parses. -/
theorem Request.Accepts.stores {request : Request} {current params : KcParams}
    (accepts : request.Accepts current params) : request.Stores current params := by
  cases request with
  | setAttr _ => exact ⟨true, accepts⟩
  | newCamera _ | stream _ | record _ => exact accepts
  | _ => exact accepts.elim

/-- The limits are no plain parameters. -/
theorem limits_of_rest {params params' : KcParams} (limits : Limits params)
    (same : rest params' = rest params) : Limits params' :=
  ⟨(congrArg Rest.minFps same).trans limits.least, (congrArg Rest.maxFps same).trans limits.most⟩

/-- Storing a member leaves what is no plain parameter. -/
theorem storeMember_rest (state : CameraState) (parameter : Parameter) (value : PyValue) :
    rest (state.storeMember parameter value).1.params = rest state.params := by
  unfold CameraState.storeMember
  split
  · exact rest_put parameter _ _
  · rfl

/-- An assignment leaves the limits. -/
theorem Assigned.limits {accepted : Bool} {current params : KcParams}
    (assigned : Assigned accepted current params) (limits : Limits current) : Limits params := by
  obtain ⟨state, after, name, value, rfl, stored, rfl⟩ := assigned
  cases name with
  | parameter parameter =>
      simp only [CameraState.store, Stored.generic.injEq] at stored
      rw [← stored.1]
      exact limits_of_rest limits (storeMember_rest ..)
  | mode =>
      simp only [CameraState.store] at stored
      split at stored
      · split at stored
        · cases stored
          exact ⟨limits.least, limits.most⟩
        · cases stored
      · cases stored
  | other =>
      cases stored
      exact limits

/-- What a call stores leaves the limits. -/
theorem Request.Stores.limits {request : Request} {current params : KcParams}
    (stores : request.Stores current params) (limits : Limits current) : Limits params := by
  have parsed {outcome : Outcome} (parsed : Parsed outcome current params) : Limits params := by
    obtain ⟨state, arguments, rfl, _, rfl⟩ := parsed
    exact parseArgs_limits limits arguments
  cases request with
  | setAttr _ =>
      obtain ⟨accepted, assigned⟩ := stores
      exact assigned.limits limits
  | newCamera _ | stream _ | record _ | rejected _ => exact parsed stores
  | _ => exact stores.elim

/-! ## What holds of the parameters throughout -/

/-- A property of parameters that all but calls keep. -/
structure Stable (good : KcParams → Prop) : Prop where
  initial : good (kcInitParams default)
  measured : ∀ params fps, good params → good (withMeasured fps params)
  sized : ∀ params, good params → good (kcSetMode params)
  shutter : ∀ params speed, good params → good (withShutter speed params)
  limited : ∀ params, good params → good (limitFramerate params)

/-- The parameters, if there are some, have the property. -/
def World.ParamsAre (world : World) (good : KcParams → Prop) : Prop :=
  world.fault = none → ∀ params, world.kcParams = some params → good params

/-- A setter writes at most the shutter speed. -/
theorem Setter.apply_params (setter : Setter) (params : KcParams) (controls : Controls) :
    ∃ speed, (setter.apply params controls).1 = withShutter speed params := by
  by_cases framerate : setter = .framerate
  · subst framerate
    exact ⟨params.limitedShutter, by simp [Setter.apply, kcSetFramerate_eq, withShutter]⟩
  · exact ⟨params.shutterSpeed, setter_params framerate params controls⟩

section

variable {condition : System → Tid → Choice → Op → Prop} {state : System} {thread : Tid}
  {choice : Choice} {operation : Op} {world : World} {response : operation.Resp}
  {good : KcParams → Prop}

/-- What the calls keep as well holds throughout. -/
theorem Stable.step (stable : Stable good)
    (turn : Turn condition state thread choice operation world response)
    (stored : ∀ params current, operation = .storeParams params →
      state.world.cameraParams = some current → good current → good params)
    (before : state.world.ParamsAre good) : world.ParamsAre good := by
  have before := before turn.running
  intro sound params after
  cases turn.params with
  | measured quiet same =>
      obtain ⟨old, fps, found, rfl⟩ := same.params params after
      exact stable.measured old fps (before old found)
  | failed fault => simp [sound] at fault
  | missed same_operation missed same =>
      obtain ⟨old, fps, found, rfl⟩ := same.params params after
      exact stable.measured old fps (before old found)
  | stored same_operation same present found current =>
      rw [after, Option.some.injEq] at found
      obtain ⟨old, there⟩ := Option.isSome_iff_exists.mp present
      exact found ▸ stored _ old same_operation (same.trans there) (before old there)
  | initialised same found current =>
      rw [found params after]
      exact stable.initial
  | sized same there found current =>
      rw [after, Option.some.injEq] at found
      exact found ▸ stable.sized _ (before _ there)
  | reset same there found current =>
      rw [after, Option.some.injEq] at found
      exact found ▸ stable.shutter _ _ (before _ there)
  | @tuned setter old same there found current =>
      rw [after, Option.some.injEq] at found
      obtain ⟨speed, changed⟩ := setter.apply_params old state.world.controls
      rw [found, changed]
      exact stable.shutter _ _ (before _ there)
  | started same there found current =>
      rw [after, Option.some.injEq] at found
      exact found ▸ stable.limited _ (before _ there)
  | copied same there found current =>
      rw [after, Option.some.injEq] at found
      exact found ▸ before _ there

/-- No operation but a store changes the limits. -/
theorem stable_limits : Stable Limits where
  initial := by constructor <;> decide
  measured _ _ limits := ⟨limits.least, limits.most⟩
  sized params limits := by
    obtain ⟨-, -, most, least⟩ := kcSetMode_rest params
    exact ⟨least.trans limits.least, most.trans limits.most⟩
  shutter _ _ limits := ⟨limits.least, limits.most⟩
  limited _ limits := limits.limitFramerate.1

end

/-- The calls with keyword arguments. -/
def Request.takesKeywords : Request → Bool
  | newCamera _ | stream _ | record _ => true
  | _ => false

/-- Keyword calls store parameters over those that the table pairs them with, and no call
fails. -/
def acceptedBy (table : List (KcParams × KcParams)) (state : System) (thread : Tid) (_ : Choice) :
    Op → Bool
  | .storeParams params =>
      (state.stage thread).calling.any Request.takesKeywords &&
        state.world.cameraParams.any fun current => (current, params) ∈ table
  | .endCall _ reply =>
      match reply with
      | .error _ => false
      | _ => true
  | _ => true

/-- What the computable test of a run admits is accepted. -/
theorem accepted_of_acceptedBy {table : List (KcParams × KcParams)}
    (parsed : ∀ pair ∈ table, Parsed .returned pair.1 pair.2) {state : System} {thread : Tid}
    {choice : Choice} {operation : Op} (passed : acceptedBy table state thread choice operation) :
    Accepted state thread choice operation := by
  cases operation with
  | storeParams params =>
      intro request current calling camera
      simp only [acceptedBy, calling, camera, Option.any_some, Bool.and_eq_true,
        decide_eq_true_eq] at passed
      have parsed := parsed _ passed.2
      cases request with
      | newCamera _ | stream _ | record _ => exact parsed
      | _ => cases passed.1
  | endCall request reply =>
      rintro _ message rfl
      cases passed
  | _ => trivial

end KCamera

namespace KCamera.Module

/-- The framerate as the only argument. -/
def Arguments.framerate (rate : Int) : Arguments :=
  { Arguments.empty with
    plain := fun parameter => if parameter = .framerate then some (.int rate) else none }

end KCamera.Module

namespace KCamera

open KCamera.Module

/-- Parameters with another framerate. -/
def withFramerate (framerate : UInt32) (params : KcParams) : KcParams := { params with framerate }

/-- A call without arguments stores what there is. -/
theorem parsed_empty (params : KcParams) : Parsed .returned params params :=
  ⟨{ (default : CameraState) with params }, .empty, rfl, rfl, rfl⟩

/-- A framerate is stored as its low 32 bits. -/
theorem parsed_framerate (rate : Int) (params : KcParams) :
    Parsed .returned params (withFramerate (UInt32.ofInt rate) params) :=
  ⟨{ (default : CameraState) with params }, .framerate rate, rfl, rfl, rfl⟩

end KCamera
