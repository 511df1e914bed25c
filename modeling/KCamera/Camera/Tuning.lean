import KCamera.Engine.Effects
import KCamera.Engine.Code
import KCamera.Machine.Alone

/-!
# Tuning

While the camera runs, `kcUpdateParams` brings the controls up to date setting
by setting; when it starts, `event_loop` sets them all. `Tuning` is the part of
the state that both work on.
-/

namespace KCamera

open Machine

/-- What the setters read and write. -/
structure Tuning where
  params : KcParams
  /-- `m_currParams` -/
  current : KcParams
  controls : Controls

namespace Tuning

/-- A setter of `run.cpp`. -/
def set (setter : Setter) (tuning : Tuning) : Tuning :=
  { tuning with
    params := (setter.apply tuning.params tuning.controls).1
    controls := (setter.apply tuning.params tuning.controls).2 }

/-- `if (changed) setter()`. -/
def whenChanged (setting : Setting) (setter : Setter) (tuning : Tuning) : Tuning :=
  if setting.changed tuning.params tuning.current then tuning.set setter else tuning

/-- `kcUpdateParams`, when resolution and mode are as they were. -/
def update (tuning : Tuning) : Tuning :=
  let tuning := tuning.whenChanged .framerate .framerate
  let tuning := tuning.whenChanged .brightness .brightness
  let tuning := tuning.whenChanged .autoShutter .autoShutter
  let tuning := tuning.whenChanged .awb .awb
  let tuning := tuning.whenChanged .awbGains .awbGains
  let tuning := tuning.whenChanged .shutterSpeed .shutterSpeed
  { tuning with current := tuning.params }

/-- The setters that `event_loop` starts with. -/
def startUp (tuning : Tuning) : Tuning :=
  (((tuning.set .brightness).set .awb).set .framerate).set .autoShutter

end Tuning

/-- The setters that `event_loop` starts with. -/
def Code.startUp : Code Unit := do
  kcSetBrightness
  kcSetAWB
  kcSetFramerate
  kcSetAutoShutter

/-- The start-up of `event_loop` with its setters named. -/
theorem openLoop_startUp : Code.openLoop =
    (Code.perform .setOptions >>= fun _ => Code.startUp >>= fun _ =>
      Code.attempt <| Code.attempt <| Code.attempt <| Code.jump .eventLoop) := by
  simp [Code.openLoop, Code.startUp]

/-! ## The tuning of a world -/

/-- The world's Camera is the one behind `g_params`, and this is its tuning. -/
structure World.Tuned (world : World) (tuning : Tuning) : Prop where
  sound : world.fault = none
  pointed : world.camera = world.params
  params : world.kcParams = some tuning.params
  current : world.g.currParams = tuning.current
  controls : world.controls = tuning.controls

section

variable {world : World} {tuning : Tuning} {thread : Tid} {choice : Choice} {held : List Mutex}

/-- What a program does alone for a thread of the engine. -/
abbrev Code.alone {α : Type} (code : Code α) (thread : Tid) (choice : Choice) (world : World)
    (held : List Mutex) : Option (World × List Mutex × α) :=
  Prog.alone (fun operation => operation.exec thread choice) code world held

/-- The parameters and the controls are changed. -/
theorem World.Tuned.changed (tuned : world.Tuned tuning) (params : KcParams) (controls : Controls) :
    ({ world.setParams params with controls } : World).Tuned ⟨params, tuning.current, controls⟩ := by
  have same : (world.setParams params).fault = world.fault ∧
      (world.setParams params).camera = world.camera ∧
      (world.setParams params).g = world.g := by
    unfold World.setParams
    split <;> exact ⟨rfl, rfl, rfl⟩
  obtain ⟨fault, camera, g⟩ := same
  constructor
  · exact fault.trans tuned.sound
  · exact camera.trans (tuned.pointed.trans (World.setParams_params _ params).symm)
  · exact World.setParams_kcParams params tuned.params
  · exact (congrArg KcState.currParams g).trans tuned.current
  · rfl

end

/-! ## Programs on a tuning -/

/-- From every world with the tuning `before` a program that runs alone ends with
a value and the tuning `after`. -/
def Tunes {α : Type} (thread : Tid) (choice : Choice) (code : Code α) (held : List Mutex)
    (before : Tuning) (value : α) (held' : List Mutex) (after : Tuning) : Prop :=
  ∀ world : World, world.Tuned before →
    ∃ next, code.alone thread choice world held = some (next, held', value) ∧ next.Tuned after

section

variable {thread : Tid} {choice : Choice} {held : List Mutex} {tuning : Tuning}

/-- One program after the other. -/
theorem Tunes.bind {α β : Type} {code : Code α} {rest : α → Code β} {held₁ held₂ : List Mutex}
    {middle after : Tuning} {value : α} {result : β}
    (first : Tunes thread choice code held tuning value held₁ middle)
    (second : Tunes thread choice (rest value) held₁ middle result held₂ after) :
    Tunes thread choice (code >>= rest) held tuning result held₂ after := by
  intro world tuned
  obtain ⟨next, executed, tuned'⟩ := first world tuned
  obtain ⟨last, executed', tuned''⟩ := second next tuned'
  refine ⟨last, ?_, tuned''⟩
  have executed : Prog.alone (fun operation => operation.exec thread choice) code world held =
    some (next, held₁, value) := executed
  rw [Code.alone, Prog.alone_bind, executed]
  exact executed'

/-- Taking a mutex that is not held. -/
theorem tunes_acquire {mutex : Mutex} (free : mutex ∉ held) :
    Tunes thread choice (Code.acquire mutex) held tuning () (mutex :: held) tuning := by
  intro world tuned
  exact ⟨world, by simp [Code.acquire, Prog.acquire, free], tuned⟩

/-- Giving back the mutex that was taken last. -/
theorem tunes_release {mutex : Mutex} :
    Tunes thread choice (Code.release mutex) (mutex :: held) tuning () held tuning := by
  intro world tuned
  exact ⟨world, by simp, tuned⟩

/-- Returning a value. -/
theorem tunes_pure {α : Type} (value : α) :
    Tunes thread choice (pure value) held tuning value held tuning := by
  intro world tuned
  exact ⟨world, by simp, tuned⟩

/-- The comparison with `m_currParams`. -/
theorem tunes_changed (setting : Setting) :
    Tunes thread choice (Code.perform (.changed setting)) held tuning
      (setting.changed tuning.params tuning.current) held tuning := by
  intro world tuned
  exact ⟨world, by simp [Op.exec, Op.run, tuned.sound, tuned.params, tuned.current], tuned⟩

/-- The Camera gets other parameters, which `g_params` leads to. -/
theorem World.Tuned.stored {world : World} (tuned : world.Tuned tuning) (params : KcParams) :
    (world.onCamera fun camera => { camera with params }).Tuned { tuning with params } := by
  obtain ⟨camera, pointer, live⟩ : ∃ camera, world.params = some camera ∧
      (world.cameras camera).isSome := by
    have found := tuned.params
    unfold World.kcParams at found
    cases pointer : world.params with
    | none => simp [pointer] at found
    | some camera => exact ⟨camera, rfl, by cases live : world.cameras camera <;> simp_all⟩
  have same := tuned.pointed
  rw [pointer] at same
  constructor
  · simp [World.onCamera, same, tuned.sound]
  · simp [World.onCamera, same, pointer]
  · obtain ⟨found, live⟩ := Option.isSome_iff_exists.mp live
    simp [World.onCamera, same, World.kcParams, pointer, live]
  · simp [World.onCamera, same, tuned.current]
  · simp [World.onCamera, same, tuned.controls]

/-- Parameters are stored. -/
theorem tunes_storeParams (params : KcParams) :
    Tunes thread choice (Code.perform (.storeParams params)) held tuning () held
      { tuning with params } := by
  intro world tuned
  exact ⟨_, by simp [Op.exec, Op.run, tuned.sound], tuned.stored params⟩

/-- `m_currParams` takes them over. -/
theorem tunes_copyParams :
    Tunes thread choice (Code.perform .copyParams) held tuning () held
      { tuning with current := tuning.params } := by
  intro world tuned
  refine ⟨{ world with g.currParams := tuning.params },
    by simp [Op.exec, Op.run, tuned.sound, tuned.params], ?_⟩
  exact ⟨tuned.sound, tuned.pointed, tuned.params, rfl, tuned.controls⟩

/-- The parameters and `m_currParams` are those of a start. -/
theorem World.Tuned.started {world : World} (tuned : world.Tuned tuning) :
    ({ world.setParams (limitFramerate tuning.params) with
      g.currParams := limitFramerate tuning.params } : World).Tuned
        ⟨limitFramerate tuning.params, limitFramerate tuning.params, tuning.controls⟩ := by
  have changed := tuned.changed (limitFramerate tuning.params) tuning.controls
  refine ⟨changed.sound, changed.pointed, changed.params, rfl, ?_⟩
  rw [← tuned.controls]
  unfold World.setParams
  split <;> rfl

/-- A start limits the framerate before it copies the parameters. -/
theorem tunes_startParams :
    Tunes thread choice (Code.perform .startParams) held tuning () held
      ⟨limitFramerate tuning.params, limitFramerate tuning.params, tuning.controls⟩ := by
  intro world tuned
  exact ⟨_, by simp [Op.exec, Op.run, tuned.sound, tuned.params], tuned.started⟩

/-- A setter with a framerate to divide by. -/
theorem tunes_setControl (setter : Setter) (positive : tuning.params.framerate ≠ 0) :
    Tunes thread choice (Code.perform (.setControl setter)) held tuning () held
      (tuning.set setter) := by
  intro world tuned
  refine ⟨_, ?_, tuned.changed (tuning.set setter).params (tuning.set setter).controls⟩
  simp [Op.exec, Op.run, tuned.sound, tuned.params, positive, Tuning.set, tuned.controls]

/-- The setter with the mutex of the controls around it. -/
theorem tunes_set (setter : Setter) (positive : tuning.params.framerate ≠ 0)
    (free : .controls ∉ held) :
    Tunes thread choice (Code.set setter) held tuning () held (tuning.set setter) := by
  exact (tunes_acquire free).bind ((tunes_setControl setter positive).bind tunes_release)

/-- A setter that is called on a change. -/
theorem tunes_whenChanged (setting : Setting) (setter : Setter)
    (positive : tuning.params.framerate ≠ 0) (free : .controls ∉ held) :
    Tunes thread choice (Code.whenChanged setting (Code.set setter)) held tuning () held
      (tuning.whenChanged setting setter) := by
  refine (tunes_changed setting).bind ?_
  unfold Tuning.whenChanged
  split
  · exact tunes_set setter positive free
  · exact tunes_pure ()

/-- Setters leave all parameters but the shutter speed. -/
theorem Tuning.set_params (tuning : Tuning) (setter : Setter) :
    ∃ shutterSpeed, (tuning.set setter).params = { tuning.params with shutterSpeed } := by
  cases setter with
  | framerate =>
      simp only [Tuning.set, Setter.apply, kcSetFramerate]
      split
      · exact ⟨_, rfl⟩
      · exact ⟨tuning.params.shutterSpeed, rfl⟩
  | _ => exact ⟨tuning.params.shutterSpeed, rfl⟩

/-- No setter writes the framerate. -/
@[simp] theorem Tuning.set_framerate (tuning : Tuning) (setter : Setter) :
    (tuning.set setter).params.framerate = tuning.params.framerate := by
  obtain ⟨shutterSpeed, same⟩ := tuning.set_params setter
  rw [same]

/-- Nor does one that is called on a change. -/
@[simp] theorem Tuning.whenChanged_framerate (tuning : Tuning) (setting : Setting)
    (setter : Setter) :
    (tuning.whenChanged setting setter).params.framerate = tuning.params.framerate := by
  unfold Tuning.whenChanged
  split
  · exact tuning.set_framerate setter
  · rfl

/-- Setters do not change the mode. -/
@[simp] theorem Tuning.whenChanged_mode (tuning : Tuning) (setting : Setting) (setter : Setter) :
    Setting.mode.changed (tuning.whenChanged setting setter).params
        (tuning.whenChanged setting setter).current =
      Setting.mode.changed tuning.params tuning.current := by
  unfold Tuning.whenChanged
  split
  · obtain ⟨shutterSpeed, same⟩ := tuning.set_params setter
    rw [same]
    rfl
  · rfl

/-- `kcUpdateParams` for settings that need no restart. -/
theorem tunes_kcUpdateParams (positive : tuning.params.framerate ≠ 0)
    (resolution : Setting.resolution.changed tuning.params tuning.current = false)
    (mode : Setting.mode.changed tuning.params tuning.current = false)
    (unlocked : .params ∉ held) (free : .controls ∉ held) :
    Tunes thread choice Code.kcUpdateParams held tuning () held tuning.update := by
  have outside : Mutex.controls ∉ Mutex.params :: held := by simp [free]
  refine (tunes_acquire unlocked).bind <| (tunes_changed .resolution).bind <|
    (tunes_whenChanged .framerate .framerate positive outside).bind <|
    (tunes_changed .mode).bind ?_
  rw [Tuning.whenChanged_mode, mode, resolution]
  simp only [Bool.false_eq_true, if_false, Bool.or_false]
  refine (tunes_whenChanged .brightness .brightness (by simpa using positive) outside).bind ?_
  refine (tunes_whenChanged .autoShutter .autoShutter (by simpa using positive) outside).bind ?_
  refine (tunes_whenChanged .awb .awb (by simpa using positive) outside).bind ?_
  refine (tunes_whenChanged .awbGains .awbGains (by simpa using positive) outside).bind ?_
  refine (tunes_whenChanged .shutterSpeed .shutterSpeed (by simpa using positive) outside).bind ?_
  refine tunes_release.bind ?_
  exact (tunes_acquire unlocked).bind (tunes_copyParams.bind tunes_release)

/-- An assignment to an attribute that needs no restart. -/
theorem tunes_cameraSetAttr (params : KcParams) (positive : params.framerate ≠ 0)
    (resolution : Setting.resolution.changed params tuning.current = false)
    (mode : Setting.mode.changed params tuning.current = false)
    (unlocked : .params ∉ held) (free : .controls ∉ held) :
    Tunes thread choice (Code.cameraSetAttr params) held tuning .none held
      (Tuning.update { tuning with params }) := by
  refine (tunes_storeParams params).bind ?_
  exact (tunes_kcUpdateParams positive resolution mode unlocked free).bind (tunes_pure Reply.none)

/-- The start-up of `event_loop`. -/
theorem tunes_startUp (positive : tuning.params.framerate ≠ 0) (free : .controls ∉ held) :
    Tunes thread choice Code.startUp held tuning () held tuning.startUp := by
  refine (tunes_set .brightness positive free).bind ?_
  refine (tunes_set .awb (by simpa using positive) free).bind ?_
  refine (tunes_set .framerate (by simpa using positive) free).bind ?_
  exact tunes_set .autoShutter (by simpa using positive) free

end

/-! ## What the start-up sets -/

/-- The frame time in whole microseconds. -/
def KcParams.frameTime (params : KcParams) : ℕ := 1000000 / params.framerate.toNat

/-- The shutter speed is no longer than the frame time. -/
def KcParams.Fits (params : KcParams) : Prop := params.shutterMicroseconds ≤ params.frameTime

instance fitsDecidable (params : KcParams) : Decidable params.Fits :=
  inferInstanceAs (Decidable (params.shutterMicroseconds ≤ params.frameTime))

/-- What `kcSetAWB` sets. -/
def KcParams.gains (params : KcParams) : ℚ × ℚ :=
  if params.awb then (0, 0) else (params.awbRed * 2, params.awbBlue * 2)

/-- The controls of `event_loop`'s start-up. -/
def KcParams.controls (params : KcParams) : Controls :=
  { kcSetBrightness params default with
    colourGains := some params.gains
    frameDurations := some (params.frameTime, params.frameTime)
    exposureTime := some (if params.autoShutter then 0
      else min params.frameTime params.shutterMicroseconds) }

/-- A shutter speed in whole microseconds. -/
def microseconds (speed : ℚ) : ℕ := ⌊speed * 1000000⌋.toNat

/-- The shutter speed in microseconds, truncated as the source does. -/
theorem KcParams.shutterMicroseconds_eq (params : KcParams) :
    params.shutterMicroseconds = microseconds params.shutterSpeed := rfl

/-- A whole number of microseconds is not changed by the truncation. -/
@[simp] theorem microseconds_frameTime (time : ℕ) : microseconds ((time : ℚ) / 1000000) = time := by
  have whole : ((time : ℚ) / 1000000) * 1000000 = time := by field_simp
  simp [microseconds, whole]

/-- The shutter speed that `kcSetFramerate` leaves. -/
def KcParams.limitedShutter (params : KcParams) : ℚ :=
  if params.frameTime < params.shutterMicroseconds then params.frameTime / 1000000
  else params.shutterSpeed

/-- `kcSetFramerate` by what it writes: the limited shutter speed, the frame time
and the exposure. -/
theorem kcSetFramerate_eq (params : KcParams) (controls : Controls) :
    kcSetFramerate params controls =
      ({ params with shutterSpeed := params.limitedShutter },
        { controls with
          frameDurations := some (params.frameTime, params.frameTime)
          exposureTime := if params.frameTime < params.shutterMicroseconds then
            some params.frameTime else controls.exposureTime }) := by
  unfold kcSetFramerate KcParams.limitedShutter KcParams.frameTime
  dsimp only
  split <;> rfl

/-- The limited shutter speed is the shorter of shutter speed and frame time. -/
theorem microseconds_limitedShutter (params : KcParams) :
    microseconds params.limitedShutter = min params.frameTime params.shutterMicroseconds := by
  unfold KcParams.limitedShutter
  split
  · rename_i short
    rw [microseconds_frameTime, Nat.min_eq_left short.le]
  · rename_i fits
    rw [Nat.min_eq_right (Nat.le_of_not_lt fits)]
    rfl

/-- `kcSetBrightness` by what it writes. -/
theorem kcSetBrightness_eq (params : KcParams) (controls : Controls) :
    kcSetBrightness params controls =
      { controls with
        exposureValue := (kcSetBrightness params default).exposureValue
        brightness := (kcSetBrightness params default).brightness
        contrast := (kcSetBrightness params default).contrast } := by
  unfold kcSetBrightness
  dsimp only
  split <;> rfl

/-- `kcSetAWB` by what it writes. -/
theorem kcSetAWB_eq (params : KcParams) (controls : Controls) :
    kcSetAWB params controls = { controls with colourGains := some params.gains } := by
  unfold kcSetAWB KcParams.gains
  split <;> rfl

/-- `kcSetAutoShutter` by what it writes. -/
theorem kcSetAutoShutter_eq (params : KcParams) (controls : Controls) :
    kcSetAutoShutter params controls = { controls with
      exposureTime := some (if params.autoShutter then 0 else params.shutterMicroseconds) } := by
  unfold kcSetAutoShutter
  split <;> rfl

/-- The start-up sets every control. -/
theorem Tuning.startUp_controls (tuning : Tuning) :
    tuning.startUp.controls = tuning.params.controls := by
  obtain ⟨params, current, controls⟩ := tuning
  simp only [startUp, set, Setter.apply, kcSetFramerate_eq, kcSetAWB_eq, kcSetAutoShutter_eq,
    KcParams.shutterMicroseconds_eq, KcParams.controls]
  rw [microseconds_limitedShutter, kcSetBrightness_eq]
  rfl

/-! ## kcUpdateParams setting by setting -/

namespace Tuning

variable (tuning : Tuning)

/-- What a changed framerate writes. -/
theorem whenChanged_framerate_eq : tuning.whenChanged .framerate .framerate =
    if tuning.params.framerate = tuning.current.framerate then tuning
    else ⟨{ tuning.params with shutterSpeed := tuning.params.limitedShutter }, tuning.current,
      { tuning.controls with
        frameDurations := some (tuning.params.frameTime, tuning.params.frameTime)
        exposureTime := if tuning.params.frameTime < tuning.params.shutterMicroseconds then
          some tuning.params.frameTime else tuning.controls.exposureTime }⟩ := by
  by_cases same : tuning.params.framerate = tuning.current.framerate <;>
    simp [whenChanged, Setting.changed, same, set, Setter.apply, kcSetFramerate_eq]

/-- What a changed brightness writes. -/
theorem whenChanged_brightness_eq : tuning.whenChanged .brightness .brightness =
    { tuning with
      controls := if tuning.params.brightness = tuning.current.brightness then tuning.controls
        else kcSetBrightness tuning.params tuning.controls } := by
  by_cases same : tuning.params.brightness = tuning.current.brightness <;>
    simp [whenChanged, Setting.changed, same, set, Setter.apply]

/-- What a changed automatic shutter writes. -/
theorem whenChanged_autoShutter_eq : tuning.whenChanged .autoShutter .autoShutter =
    { tuning with controls := { tuning.controls with
      exposureTime := if tuning.params.autoShutter = tuning.current.autoShutter then
          tuning.controls.exposureTime
        else some (if tuning.params.autoShutter then 0
          else tuning.params.shutterMicroseconds) } } := by
  by_cases same : tuning.params.autoShutter = tuning.current.autoShutter <;>
    simp [whenChanged, Setting.changed, same, set, Setter.apply, kcSetAutoShutter_eq]

/-- What a changed white balance writes. -/
theorem whenChanged_awb_eq : tuning.whenChanged .awb .awb =
    { tuning with controls := { tuning.controls with
      colourGains := if tuning.params.awb = tuning.current.awb then tuning.controls.colourGains
        else some tuning.params.gains } } := by
  by_cases same : tuning.params.awb = tuning.current.awb <;>
    simp [whenChanged, Setting.changed, same, set, Setter.apply, kcSetAWB_eq]

/-- What changed gains of the white balance write. -/
theorem whenChanged_awbGains_eq : tuning.whenChanged .awbGains .awbGains =
    { tuning with controls := { tuning.controls with
      colourGains := if tuning.params.awbRed = tuning.current.awbRed ∧
            tuning.params.awbBlue = tuning.current.awbBlue then tuning.controls.colourGains
        else some (tuning.params.awbRed * 2, tuning.params.awbBlue * 2) } } := by
  by_cases red : tuning.params.awbRed = tuning.current.awbRed <;>
    by_cases blue : tuning.params.awbBlue = tuning.current.awbBlue <;>
    simp [whenChanged, Setting.changed, red, blue, set, Setter.apply, kcSetAWBGains]

/-- What a changed shutter speed writes. -/
theorem whenChanged_shutterSpeed_eq : tuning.whenChanged .shutterSpeed .shutterSpeed =
    { tuning with controls := { tuning.controls with
      exposureTime := if tuning.params.shutterSpeed = tuning.current.shutterSpeed then
          tuning.controls.exposureTime
        else some tuning.params.shutterMicroseconds } } := by
  by_cases same : tuning.params.shutterSpeed = tuning.current.shutterSpeed <;>
    simp [whenChanged, Setting.changed, same, set, Setter.apply, kcSetShutterSpeed]

end Tuning

end KCamera
