import KCamera.Engine.Objects
import KCamera.Engine.Marks

/-!
# What operations do to the parameters

Who changes `*g_params` and `m_currParams`, and who sets the size of a session.
-/

namespace KCamera

open Machine

open Function (update)

/-- The parameters of the Camera object. -/
def World.cameraParams (world : World) : Option KcParams :=
  (world.camera.bind world.cameras).map Camera.params

/-- `kcInit` overwrites all parameters. -/
theorem kcInitParams_eq (params : KcParams) : kcInitParams params = kcInitParams default := by
  simp [kcInitParams, kcSetMinMaxFramerate, kcModes]

/-- At most the measured framerate changes, or the parameters are gone. -/
structure Measured (world next : World) : Prop where
  params : ∀ params, next.kcParams = some params →
    ∃ old fps, world.kcParams = some old ∧ params = { old with fps := fps }
  current : next.g.currParams = world.g.currParams

/-- The operations that write parameters other than the measured framerate. -/
def Op.writesParams : Op → Bool
  | .storeParams _ | .initParams _ | .setMode | .resetShutter | .setControl _ | .startParams
  | .copyParams => true
  | _ => false

/-- What an operation does to `*g_params` and `m_currParams`. -/
inductive ParamsEffect (world next : World) (operation : Op) : Prop where
  | measured (quiet : operation.writesParams = false) (same : Measured world next)
  | failed (fault : next.fault.isSome)
  | missed {params : KcParams} (operation_eq : operation = .storeParams params)
      (missed : ∀ camera, world.camera = some camera → world.params = some camera →
        world.cameras camera = none)
      (same : Measured world next)
  | stored {params : KcParams} (operation_eq : operation = .storeParams params)
      (same : world.cameraParams = world.kcParams) (before : world.kcParams.isSome)
      (after : next.kcParams = some params) (current : next.g.currParams = world.g.currParams)
  | initialised {camera : CameraId} (operation_eq : operation = .initParams camera)
      (after : ∀ params, next.kcParams = some params → params = kcInitParams default)
      (current : next.g.currParams = kcInitParams default)
  | sized {old : KcParams} (operation_eq : operation = .setMode)
      (before : world.kcParams = some old) (after : next.kcParams = some (kcSetMode old))
      (current : next.g.currParams = world.g.currParams)
  | reset {old : KcParams} (operation_eq : operation = .resetShutter)
      (before : world.kcParams = some old)
      (after : next.kcParams = some { old with shutterSpeed := maxShutterSpeed old.framerate })
      (current : next.g.currParams = world.g.currParams)
  | tuned {setter : Setter} {old : KcParams} (operation_eq : operation = .setControl setter)
      (before : world.kcParams = some old)
      (after : next.kcParams = some (setter.apply old world.controls).1)
      (current : next.g.currParams = world.g.currParams)
  | started {old : KcParams} (operation_eq : operation = .startParams)
      (before : world.kcParams = some old) (after : next.kcParams = some (limitFramerate old))
      (current : next.g.currParams = limitFramerate old)
  | copied {old : KcParams} (operation_eq : operation = .copyParams)
      (before : world.kcParams = some old) (after : next.kcParams = some old)
      (current : next.g.currParams = old)

section

variable {thread : Tid} {choice : Choice} {operation : Op} {world next : World}
  {response : operation.Resp}

/-- Worlds that agree on the tuning have the same parameters behind `g_params`. -/
theorem Agree.kcParams (agree : Agree world next .tuning) : next.kcParams = world.kcParams := by
  obtain ⟨_, params, cameras⟩ := agree
  unfold World.kcParams
  rw [params]
  cases world.params with
  | none => rfl
  | some camera => exact cameras camera

/-- The same parameters are at most measured. -/
theorem Measured.of_kcParams (params : next.kcParams = world.kcParams)
    (current : next.g.currParams = world.g.currParams) : Measured world next where
  params after found := ⟨after, after.fps, params ▸ found, rfl⟩
  current

/-- Where the tuning stays nothing is measured. -/
theorem Measured.of_agree (agree : Agree world next .tuning) : Measured world next :=
  .of_kcParams agree.kcParams agree.1

/-- Two measurements are one. -/
theorem Measured.trans {middle : World} (first : Measured world middle)
    (second : Measured middle next) : Measured world next where
  params after found := by
    obtain ⟨old, fps, middle, rfl⟩ := second.params after found
    obtain ⟨oldest, _, before, rfl⟩ := first.params old middle
    exact ⟨oldest, fps, before, rfl⟩
  current := second.current.trans first.current

namespace World

/-- A store through `g_params` leaves the engine's own state. -/
theorem setParams_g (world : World) (params : KcParams) : (world.setParams params).g = world.g := by
  unfold setParams
  split <;> rfl

/-- Storing another measured framerate is a measurement. -/
theorem measured_setParams {old : KcParams} (before : world.kcParams = some old) (fps : ℚ) :
    Measured world (world.setParams { old with fps }) where
  params after found := by
    rw [setParams_kcParams _ before, Option.some.injEq] at found
    exact ⟨old, fps, before, found.symm⟩
  current := by rw [setParams_g]

/-- `kcFrameData` measures the framerate. -/
theorem measured_measure (world : World) : Measured world world.measure := by
  unfold measure
  split
  · cases found : world.kcParams with
    | none => exact .of_kcParams rfl rfl
    | some old => exact measured_setParams found _
  · exact .of_kcParams rfl rfl

/-- Getting ready for a capture at most measures. -/
theorem measured_readied (world : World) (capture : Capture) :
    Measured world (world.readied capture) := by
  have taken : Agree world { world with captured := capture.pts } .tuning :=
    ⟨rfl, rfl, fun _ => rfl⟩
  have shifted : Agree world ({ world with captured := capture.pts }.shiftPts capture.pts)
      .tuning :=
    taken.trans (shiftPts_agree _ _ (by simp))
  exact (Measured.of_agree shifted).trans <| (measured_measure _).trans <|
    .of_agree (expire_agree _ (by simp) (by simp))

/-- The first half of `kcFrameData` at most measures. -/
theorem measured_beginFrame (world : World) (capture : Capture) (now : UInt32)
    (allocates : Bool) : Measured world (world.beginFrame capture now allocates).1 := by
  have ready := world.measured_readied capture
  rcases world.beginFrame_cases capture now allocates with
    ⟨_, value⟩ | ⟨_, value⟩ | ⟨_, value⟩ | ⟨_, _, value⟩ | ⟨_, _, value⟩ <;> rw [value]
  · exact .of_kcParams rfl rfl
  · exact ready
  · exact ready
  · exact ready.trans (.of_kcParams rfl rfl)
  · exact ready.trans (.of_kcParams rfl rfl)

end World

/-- A new Camera is not the one that `g_params` points into. -/
theorem World.measured_newCamera (fresh : ∀ camera, world.params = some camera →
    camera < world.nextCamera) : Measured world world.newCamera.1 := by
  unfold newCamera
  split
  · exact .of_kcParams rfl rfl
  · refine .of_kcParams ?_ rfl
    unfold kcParams
    cases pointer : world.params with
    | none => rfl
    | some camera => simp [(fresh camera pointer).ne]

/-- Without the Camera there are no parameters to compare. -/
theorem World.measured_freeCamera : Measured world world.freeCamera := by
  unfold freeCamera
  split
  · exact .of_kcParams rfl rfl
  · rename_i camera _
    refine ⟨fun params found => ?_, rfl⟩
    cases pointer : world.params with
    | none => simp [kcParams, pointer] at found
    | some pointed =>
        by_cases same : pointed = camera
        · simp [kcParams, pointer, same] at found
        · refine ⟨params, params.fps, ?_, rfl⟩
          simpa [kcParams, pointer, same] using found

/-- `parseArgs` and `camera_setAttr` write into the Camera object. -/
theorem ParamsEffect.of_storeParams (world : World) (params : KcParams) :
    ParamsEffect world (world.onCamera fun camera => { camera with params })
      (.storeParams params) := by
  unfold World.onCamera
  cases present : world.camera with
  | none => exact .missed rfl (by simp [present]) (.of_kcParams rfl rfl)
  | some camera =>
      by_cases pointed : world.params = some camera
      · cases live : world.cameras camera with
        | none =>
            refine .missed rfl ?_ (.of_kcParams (by simp [World.kcParams, pointed, live]) rfl)
            intro other same _
            rw [present, Option.some.injEq] at same
            exact same ▸ live
        | some found =>
            refine .stored rfl ?_ ?_ ?_ rfl
            · simp [World.cameraParams, World.kcParams, present, pointed]
            · simp [World.kcParams, pointed, live]
            · simp [World.kcParams, pointed, live]
      · refine .missed rfl ?_ (.of_kcParams ?_ rfl)
        · intro other same pointer
          rw [present] at same
          exact absurd (same ▸ pointer) pointed
        · unfold World.kcParams
          cases pointer : world.params with
          | none => rfl
          | some other =>
              have different : other ≠ camera := by
                rintro rfl
                exact pointed pointer
              simp [different]

/-- `kcInit` resets the parameters and `m_currParams` alike. -/
theorem ParamsEffect.of_initParams (world : World) (camera : CameraId) :
    ParamsEffect world (world.initParams camera) (.initParams camera) := by
  refine .initialised rfl (fun params found => ?_) (kcInitParams_eq _)
  have detach (world : World) : world.detach.kcParams = world.kcParams :=
    (World.detach_agree world (by simp) (by simp) : Agree world world.detach .tuning).kcParams
  have found : (({ world with params := some camera }.setParams
      (kcInitParams ((world.cameras camera).elim default Camera.params))).detach).kcParams =
        some params := found
  rw [detach] at found
  cases before : ({ world with params := some camera } : World).kcParams with
  | none =>
      cases live : world.cameras camera <;> simp_all [World.kcParams, World.setParams]
  | some old =>
      rw [World.setParams_kcParams _ before, Option.some.injEq] at found
      rw [← found, kcInitParams_eq]

/-- What an operation does to the parameters. -/
theorem Op.run_params (fresh : ∀ camera, world.params = some camera → camera < world.nextCamera)
    (executed : operation.run thread choice world = some (next, response)) :
    ParamsEffect world next operation := by
  have fails (fault : Fault) : ParamsEffect world (world.fail fault) operation := .failed rfl
  by_cases touched : Part.tuning ∈ operation.touches
  · cases operation with
    | storeParams params => exact result_eq executed ▸ .of_storeParams world params
    | newCamera => exact .measured rfl (result_eq executed ▸ World.measured_newCamera fresh)
    | freeCamera => exact .measured rfl (result_eq executed ▸ World.measured_freeCamera)
    | initParams camera => exact result_eq executed ▸ .of_initParams world camera
    | beginFrame capture =>
        exact .measured rfl (result_eq executed ▸ world.measured_beginFrame capture _ _)
    | startParams =>
        rw [result_eq executed]
        cases before : world.kcParams with
        | none => exact fails _
        | some old => exact .started rfl before (World.setParams_kcParams _ before) rfl
    | clearFps =>
        rw [result_eq executed]
        cases before : world.kcParams with
        | none => exact fails _
        | some old => exact .measured rfl (World.measured_setParams before 0)
    | setMode =>
        rw [result_eq executed]
        cases before : world.kcParams with
        | none => exact fails _
        | some old =>
            exact .sized rfl before (World.setParams_kcParams _ before)
              (congrArg KcState.currParams (world.setParams_g _))
    | resetShutter =>
        rw [result_eq executed]
        cases before : world.kcParams with
        | none => exact fails _
        | some old =>
            exact .reset rfl before (World.setParams_kcParams _ before)
              (congrArg KcState.currParams (world.setParams_g _))
    | copyParams =>
        rw [result_eq executed]
        cases before : world.kcParams with
        | none => exact fails _
        | some old => exact .copied rfl before before rfl
    | setControl setter =>
        rw [result_eq executed]
        cases before : world.kcParams with
        | none => exact fails _
        | some old =>
            dsimp only
            split
            · exact fails _
            · exact .tuned rfl before (World.setParams_kcParams _ before)
                (congrArg KcState.currParams (world.setParams_g _))
    | _ => simp [Op.touches] at touched
  · refine .measured ?_ (.of_agree (Op.run_agree executed touched))
    cases operation <;> first | rfl | simp [Op.touches] at touched

/-- Only `event_loop` sets the size of a session. -/
theorem Op.run_options (executed : operation.run thread choice world = some (next, response)) :
    next.options = world.options ∨ operation = .setOptions ∧ ∃ app params,
      world.app = some app ∧ world.kcParams = some params ∧
        next.options = update world.options app (some (params.width, params.height)) := by
  by_cases touched : Part.sizes ∈ operation.touches
  · cases operation with
    | setOptions =>
        rw [result_eq executed]
        dsimp only
        split
        · exact .inl rfl
        · exact .inl rfl
        · rename_i app params there found
          exact .inr ⟨rfl, app, params, there, found, rfl⟩
    | _ => simp [Op.touches] at touched
  · exact .inl (Op.run_agree executed touched)

/-- Only `kcInit` moves `g_params`, and it is never cleared. -/
theorem Op.run_pointer (executed : operation.run thread choice world = some (next, response)) :
    next.params = world.params ∨
      ∃ camera, operation = .initParams camera ∧ next.params = some camera := by
  rcases Op.run_cameras executed with ⟨_, params, _⟩ | ⟨_, _, _, params, _⟩ |
    ⟨_, _, _, params, _⟩ | ⟨same, _, params, _⟩ | ⟨_, _, params, _⟩ | ⟨_, _, params, _⟩
  · exact .inl params
  · exact .inl params
  · exact .inl params
  · exact .inr ⟨_, same, params⟩
  · exact .inl params
  · exact .inl params

/-- Cameras are counted and never uncounted. -/
theorem Op.run_nextCamera (executed : operation.run thread choice world = some (next, response)) :
    world.nextCamera ≤ next.nextCamera := by
  by_cases touched : Part.census ∈ operation.touches
  · cases operation with
    | newCamera =>
        rw [result_eq executed]
        simp only [World.newCamera]
        split
        · exact Nat.le_refl _
        · exact Nat.le_succ _
    | _ => simp [Op.touches] at touched
  · exact (Op.run_agree executed touched : Agree world next .census).ge

end

/-! ## Runs -/

section

variable {condition : System → Tid → Choice → Op → Prop} {state : System} {thread : Tid}
  {choice : Choice} {operation : Op} {world : World} {response : operation.Resp}

/-- `g_params` points into no Camera that is yet to come. -/
structure CamerasNumbered (world : World) (stages : Tid → Stage) : Prop where
  pointer : ∀ camera, world.params = some camera → camera < world.nextCamera
  new : ∀ thread camera, (stages thread).footing = .new camera → camera < world.nextCamera

/-- One operation leads `g_params` to Cameras that were made. -/
theorem CamerasNumbered.step (turn : Turn condition state thread choice operation world response)
    (numbered : CamerasNumbered state.world state.stage) :
    CamerasNumbered world
      (update state.stage thread ((state.stage thread).after operation response)) := by
  have more := Op.run_nextCamera turn.executed
  constructor
  · intro camera pointed
    have old (same : world.params = state.world.params) : camera < world.nextCamera :=
      Nat.lt_of_lt_of_le (numbered.pointer camera (same ▸ pointed)) more
    rcases Op.run_cameras turn.executed with ⟨_, same, _⟩ | ⟨_, _, _, same, _⟩ |
      ⟨_, _, _, same, _⟩ | ⟨initialised, _, same, _⟩ | ⟨_, _, same, _, _⟩ | ⟨_, _, same, _, _⟩
    · exact old same
    · exact old same
    · exact old same
    · subst initialised
      obtain ⟨_, _, _, _, _, new⟩ := turn.allowed
      rw [same, Option.some.injEq] at pointed
      subst pointed
      exact Nat.lt_of_lt_of_le (numbered.new thread _ new) more
    · exact old same
    · exact old same
  · intro other camera new
    have old (before : (state.stage other).footing = .new camera) : camera < world.nextCamera :=
      Nat.lt_of_lt_of_le (numbered.new other camera before) more
    by_cases same : other = thread
    · subst same
      rw [Function.update_self] at new
      by_cases moves : Mark.footing ∈ operation.marks
      · cases operation with
        | newCamera =>
            have value := turn.executed
            simp only [Op.run, World.newCamera, Option.some.injEq] at value
            split at value
            · cases value
              cases new
            · cases value
              cases new
              exact Nat.lt_succ_self _
        | nextCall =>
            cases response <;> cases new
        | endCall request reply | initParams _ | freeCamera => cases new
        | _ => simp [Op.marks] at moves
      · exact old ((turn.shares moves).symm.trans new)
    · rw [Function.update_of_ne same] at new
      exact old new

/-- In every run, `g_params` leads to a Camera that was made. -/
theorem camerasNumbered (reached : Runs condition state) :
    CamerasNumbered state.world state.stage := by
  refine Runs.invariant CamerasNumbered ⟨nofun, nofun⟩ ?_ reached
  intro state thread choice operation world response turn numbered
  exact numbered.step turn

/-- What an operation of a run does to the parameters. -/
theorem Turn.params (turn : Turn condition state thread choice operation world response) :
    ParamsEffect state.world world operation :=
  Op.run_params (camerasNumbered turn.reached).pointer turn.executed

end

end KCamera
