import KCamera.Camera.Tuning
import KCamera.Engine.Runs

/-!
# Settings

Sequences of assignments to the attributes of a running Camera: when do the
controls stay as the start-up of `event_loop` would set them for the parameters
of the moment?
-/

namespace KCamera

open Machine

/-! ## Assignments -/

/-- An assignment to an attribute of the Camera. -/
inductive Assignment where
  | framerate (value : UInt32)
  | brightness (value : UInt32)
  | autoShutter (value : Bool)
  | awb (value : Bool)
  | awbRed (value : ℚ)
  | awbBlue (value : ℚ)
  | shutterSpeed (value : ℚ)
deriving DecidableEq

/-- The parameters as `camera_setAttr` stores them; brightness and framerate are limited. -/
def Assignment.store (params : KcParams) : Assignment → KcParams
  | .framerate value =>
      { params with
        framerate := if value < params.minFps then params.minFps
          else if params.maxFps < value then params.maxFps else value }
  | .brightness value => { params with brightness := if 100 < value then 100 else value }
  | .autoShutter value => { params with autoShutter := value }
  | .awb value => { params with awb := value }
  | .awbRed value => { params with awbRed := value }
  | .awbBlue value => { params with awbBlue := value }
  | .shutterSpeed value => { params with shutterSpeed := value }

/-- `kcUpdateParams` after an assignment, from parameters that the controls agree with. -/
def Tuning.assigned (params current : KcParams) (assignment : Assignment) : Tuning :=
  Tuning.update ⟨assignment.store params, current, params.controls⟩

/-! ## Assignments that keep the controls in agreement -/

/-- Gains that change leave the white balance alone: it is manual, or they are zero. -/
def KcParams.KeepGains (params next : KcParams) : Prop :=
  next.awb → (next.awbRed = params.awbRed ∧ next.awbBlue = params.awbBlue) ∨
    (next.awbRed = 0 ∧ next.awbBlue = 0)

/-- With the framerate as it was, a shutter speed that changes suits the automatic
shutter or fits the frame time, and so does one that takes over from it. -/
def KcParams.KeepShutter (params current next : KcParams) : Prop :=
  (next.shutterSpeed = current.shutterSpeed ∨
      if next.autoShutter then next.shutterMicroseconds = 0 else next.Fits) ∧
    (next.autoShutter = params.autoShutter ∨ next.autoShutter = true ∨ next.Fits)

/-- Another framerate shortens the shutter speed only of a manual shutter. -/
def KcParams.KeepFramerate (params current next : KcParams) : Prop :=
  if next.Fits ∧ params.shutterSpeed = current.shutterSpeed then
    params.autoShutter = true ∨ params.Fits
  else params.autoShutter = false

/-- The assignment leaves the automatic algorithms in control, and the shutter
within the frame time. -/
def Assignment.Keeps (params current : KcParams) (assignment : Assignment) : Prop :=
  params.KeepGains (assignment.store params) ∧
    if (assignment.store params).framerate = params.framerate then
      params.KeepShutter current (assignment.store params)
    else params.KeepFramerate current (assignment.store params)

/-- Parameters that the camera runs with: limits as `kcInit` sets them, and a
framerate within them. Of `m_currParams` they differ at most in a shutter speed
that was too long when the camera started. -/
structure KcParams.Running (params current : KcParams) : Prop where
  limits : params.minFps = 4 ∧ params.maxFps = 90
  framerate : 4 ≤ params.framerate ∧ params.framerate ≤ 90
  same : current = { params with shutterSpeed := current.shutterSpeed }
  shutter : params.shutterSpeed = current.shutterSpeed ∨
    ¬current.Fits ∧ params.shutterSpeed = current.limitedShutter

section

variable {params current next : KcParams}

/-- While the camera runs the frame times agree. -/
theorem KcParams.Running.frameTime (running : params.Running current) :
    current.frameTime = params.frameTime := by
  rw [running.same]
  rfl

/-- A framerate within the limits has a frame time. -/
theorem frameTime_pos (positive : 4 ≤ params.framerate) (bounded : params.framerate ≤ 90) :
    0 < params.frameTime := by
  have low : 4 ≤ params.framerate.toNat := positive
  have high : params.framerate.toNat ≤ 90 := bounded
  exact Nat.div_pos (by omega) (by omega)

/-- A shutter speed that the start has shortened takes the whole frame time. -/
theorem KcParams.Running.shortened (running : params.Running current)
    (moved : params.shutterSpeed ≠ current.shutterSpeed) :
    params.shutterMicroseconds = params.frameTime ∧
      params.frameTime < current.shutterMicroseconds := by
  rcases running.shutter with same | ⟨long, limited⟩
  · exact absurd same moved
  · have long : current.frameTime < current.shutterMicroseconds := Nat.lt_of_not_le long
    rw [running.frameTime] at long
    refine ⟨?_, long⟩
    rw [KcParams.shutterMicroseconds_eq, limited, microseconds_limitedShutter, running.frameTime,
      Nat.min_eq_left long.le]

/-- `kcSetBrightness` reads the brightness only. -/
theorem kcSetBrightness_congr (same : next.brightness = params.brightness) (controls : Controls) :
    kcSetBrightness next controls = kcSetBrightness params controls := by
  unfold kcSetBrightness
  rw [same]

/-- Either way the brightness controls are the start-up's. -/
theorem brightness_controls (next params : KcParams) :
    (if next.brightness = params.brightness then params.controls
      else kcSetBrightness next params.controls) = { params.controls with
        exposureValue := next.controls.exposureValue
        brightness := next.controls.brightness
        contrast := next.controls.contrast } := by
  split
  · rename_i same
    simp [KcParams.controls, kcSetBrightness_congr same]
  · rw [kcSetBrightness_eq]
    rfl

/-- The gains that `kcSetAWB` and then `kcSetAWBGains` leave. -/
theorem gains_controls (next params : KcParams) :
    (if next.awbRed = params.awbRed ∧ next.awbBlue = params.awbBlue then
      if next.awb = params.awb then params.controls.colourGains else some next.gains
      else some (next.awbRed * 2, next.awbBlue * 2)) =
      if next.awbRed = params.awbRed ∧ next.awbBlue = params.awbBlue then some next.gains
      else some (next.awbRed * 2, next.awbBlue * 2) := by
  split
  · rename_i still
    split
    · rename_i balance
      simp [KcParams.controls, KcParams.gains, still, balance]
    · rfl
  · rfl

/-- The gains are the start-up's if and only if `KeepGains` holds. -/
theorem gains_eq_iff (next params : KcParams) :
    (if next.awbRed = params.awbRed ∧ next.awbBlue = params.awbBlue then some next.gains
      else some (next.awbRed * 2, next.awbBlue * 2)) = some next.gains ↔
      params.KeepGains next := by
  unfold KcParams.KeepGains
  split
  · rename_i still
    simp [still]
  · rename_i moved
    cases awb : next.awb <;> simp [KcParams.gains, awb, moved]

/-! ## With the framerate as it was -/

/-- The exposure time that `kcSetAutoShutter` and then `kcSetShutterSpeed` leave. -/
def KcParams.exposure (params current next : KcParams) : Option ℕ :=
  if next.shutterSpeed = current.shutterSpeed then
    if next.autoShutter = params.autoShutter then params.controls.exposureTime
    else some (if next.autoShutter then 0 else next.shutterMicroseconds)
  else some next.shutterMicroseconds

/-- When the framerate stays, only the gains and the shutter speed can end up
differently from the start-up. -/
theorem update_same (running : params.Running current) (same : next.framerate = params.framerate) :
    Tuning.update ⟨next, current, params.controls⟩ = ⟨next, next, { next.controls with
      colourGains := if next.awbRed = params.awbRed ∧ next.awbBlue = params.awbBlue then
          some next.gains
        else some (next.awbRed * 2, next.awbBlue * 2)
      exposureTime := params.exposure current next }⟩ := by
  obtain ⟨speed, rfl⟩ : ∃ speed, current = { params with shutterSpeed := speed } :=
    ⟨_, running.same⟩
  have time : next.frameTime = params.frameTime := by
    unfold KcParams.frameTime
    rw [same]
  simp only [Tuning.update, Tuning.whenChanged_framerate_eq, Tuning.whenChanged_brightness_eq,
    Tuning.whenChanged_autoShutter_eq, Tuning.whenChanged_awb_eq, Tuning.whenChanged_awbGains_eq,
    Tuning.whenChanged_shutterSpeed_eq, same, if_true, brightness_controls, gains_controls,
    Tuning.mk.injEq, true_and]
  simp [KcParams.controls, KcParams.exposure, time]

/-- The exposure time is the start-up's if and only if `KeepShutter` holds. -/
theorem exposure_eq_iff (running : params.Running current)
    (same : next.framerate = params.framerate) :
    params.exposure current next = next.controls.exposureTime ↔
      params.KeepShutter current next := by
  have time : next.frameTime = params.frameTime := by
    unfold KcParams.frameTime
    rw [same]
  unfold KcParams.exposure KcParams.KeepShutter
  by_cases still : next.shutterSpeed = current.shutterSpeed
  · by_cases auto : next.autoShutter = params.autoShutter
    · have speed : min params.frameTime params.shutterMicroseconds =
          min params.frameTime next.shutterMicroseconds := by
        by_cases moved : params.shutterSpeed = current.shutterSpeed
        · rw [KcParams.shutterMicroseconds_eq, KcParams.shutterMicroseconds_eq, moved, still]
        · obtain ⟨whole, long⟩ := running.shortened moved
          rw [KcParams.shutterMicroseconds_eq, ← still, ← KcParams.shutterMicroseconds_eq] at long
          omega
      simp [still, auto, KcParams.controls, speed, time]
    · cases own : next.autoShutter with
      | true =>
          rw [own] at auto
          simp [still, Ne.symm auto, own, KcParams.controls]
      | false =>
          rw [own] at auto
          simp [still, auto, own, KcParams.controls, KcParams.Fits]
  · cases own : next.autoShutter with
    | true => simp [still, own, KcParams.controls]
    | false =>
        simp only [still, own, KcParams.controls, KcParams.Fits, false_or, if_false,
          Bool.false_eq_true, Option.some.injEq]
        constructor
        · intro least
          have fits : next.shutterMicroseconds ≤ next.frameTime := by omega
          exact ⟨fits, .inr fits⟩
        · rintro ⟨fits, _⟩
          omega

/-! ## With another framerate -/

/-- The exposure time that `kcSetFramerate` and then `kcSetShutterSpeed` leave. -/
def KcParams.limitedExposure (params current next : KcParams) : Option ℕ :=
  if next.limitedShutter = current.shutterSpeed then
    if next.frameTime < next.shutterMicroseconds then some next.frameTime
      else params.controls.exposureTime
  else some (microseconds next.limitedShutter)

/-- The parameters after `kcSetFramerate`. -/
def KcParams.limited (params : KcParams) : KcParams :=
  { params with shutterSpeed := params.limitedShutter }

/-- Another framerate shortens the shutter speed if it has to. -/
theorem update_framerate (running : params.Running current)
    (only : next = { params with framerate := next.framerate })
    (different : next.framerate ≠ params.framerate) :
    Tuning.update ⟨next, current, params.controls⟩ =
      ⟨next.limited, next.limited, { next.limited.controls with
        exposureTime := params.limitedExposure current next }⟩ := by
  obtain ⟨speed, rfl⟩ : ∃ speed, current = { params with shutterSpeed := speed } :=
    ⟨_, running.same⟩
  obtain ⟨rate, rfl⟩ : ∃ rate, next = { params with framerate := rate } := ⟨_, only⟩
  simp only [Tuning.update, Tuning.whenChanged_framerate_eq, Tuning.whenChanged_brightness_eq,
    Tuning.whenChanged_autoShutter_eq, Tuning.whenChanged_awb_eq, Tuning.whenChanged_awbGains_eq,
    Tuning.whenChanged_shutterSpeed_eq, different, if_true, if_false, and_self]
  rfl

/-- Only an automatic shutter is lost to a shortened shutter speed, and a manual one
that was limited by the frame time to a longer frame time. -/
theorem limitedExposure_eq_iff (running : params.Running current)
    (only : next = { params with framerate := next.framerate })
    (positive : 0 < next.frameTime) :
    params.limitedExposure current next = next.limited.controls.exposureTime ↔
      params.KeepFramerate current next := by
  have auto : next.limited.autoShutter = params.autoShutter := by rw [only]; rfl
  have speed : next.shutterSpeed = params.shutterSpeed := by rw [only]
  have limited : next.limited.shutterMicroseconds = min next.frameTime next.shutterMicroseconds :=
    microseconds_limitedShutter next
  have exposure : next.limited.controls.exposureTime = some (if params.autoShutter then 0
      else min next.frameTime next.shutterMicroseconds) := by
    simp only [KcParams.controls, auto, limited]
    rw [← Nat.min_assoc, show next.limited.frameTime = next.frameTime from rfl, Nat.min_self]
  have slower : next.shutterMicroseconds = params.shutterMicroseconds := by
    rw [KcParams.shutterMicroseconds_eq, speed, KcParams.shutterMicroseconds_eq]
  rw [exposure, slower]
  by_cases fits : next.Fits
  · have fits' : params.shutterMicroseconds ≤ next.frameTime := slower ▸ fits
    have whole : next.limitedShutter = params.shutterSpeed := by
      simp [KcParams.limitedShutter, slower, Nat.not_lt.mpr fits', speed]
    rw [Nat.min_eq_right fits']
    by_cases still : params.shutterSpeed = current.shutterSpeed
    · have keeps : params.KeepFramerate current next ↔ params.autoShutter = true ∨ params.Fits := by
        rw [KcParams.KeepFramerate, if_pos ⟨fits, still⟩]
      have old : params.limitedExposure current next = params.controls.exposureTime := by
        rw [KcParams.limitedExposure, if_pos (whole.trans still), if_neg (Nat.not_lt.mpr fits)]
      rw [old, keeps]
      cases own : params.autoShutter with
      | true => simp [KcParams.controls, own]
      | false => simp [KcParams.controls, own, KcParams.Fits]
    · have keeps : params.KeepFramerate current next ↔ params.autoShutter = false := by
        rw [KcParams.KeepFramerate, if_neg (by simp [still])]
      have new : params.limitedExposure current next = some params.shutterMicroseconds := by
        simp [KcParams.limitedExposure, whole, still, KcParams.shutterMicroseconds_eq]
      have time := frameTime_pos running.framerate.1 running.framerate.2
      have shortened := (running.shortened still).1
      rw [new, keeps]
      cases own : params.autoShutter with
      | true => simp; omega
      | false => simp
  · have short : next.frameTime < params.shutterMicroseconds := slower ▸ Nat.lt_of_not_le fits
    have longest : params.shutterMicroseconds ≤ current.shutterMicroseconds := by
      by_cases still : params.shutterSpeed = current.shutterSpeed
      · rw [KcParams.shutterMicroseconds_eq, still, KcParams.shutterMicroseconds_eq]
      · have shortened := running.shortened still
        omega
    have least : microseconds next.limitedShutter = next.frameTime := by
      rw [microseconds_limitedShutter, slower, Nat.min_eq_left short.le]
    have moved : next.limitedShutter ≠ current.shutterSpeed := by
      intro same
      rw [same, ← KcParams.shutterMicroseconds_eq] at least
      omega
    have keeps : params.KeepFramerate current next ↔ params.autoShutter = false := by
      rw [KcParams.KeepFramerate, if_neg (by simp [fits])]
    have new : params.limitedExposure current next = some next.frameTime := by
      simp [KcParams.limitedExposure, moved, least]
    rw [new, keeps, Nat.min_eq_left short.le]
    cases own : params.autoShutter with
    | true => simp; omega
    | false => simp

/-! ## One assignment -/

/-- The control list agrees with the start-up in everything but gains and exposure. -/
theorem controls_eq_iff (gains : Option (ℚ × ℚ)) (exposure : Option ℕ) :
    { next.controls with colourGains := gains, exposureTime := exposure } = next.controls ↔
      gains = some next.gains ∧ exposure = next.controls.exposureTime := by
  simp [KcParams.controls]

/-- An assignment leaves the framerate within the limits. -/
theorem Assignment.store_framerate (running : params.Running current) (assignment : Assignment) :
    4 ≤ (assignment.store params).framerate ∧ (assignment.store params).framerate ≤ 90 := by
  obtain ⟨least, most⟩ := running.limits
  cases assignment with
  | framerate value =>
      simp only [Assignment.store, least, most]
      split
      · decide
      · split
        · decide
        · rename_i low high
          exact ⟨UInt32.not_lt.mp low, UInt32.not_lt.mp high⟩
  | _ => exact running.framerate

/-- An assignment leaves the limits. -/
theorem Assignment.store_limits (params : KcParams) (assignment : Assignment) :
    (assignment.store params).minFps = params.minFps ∧
      (assignment.store params).maxFps = params.maxFps := by
  cases assignment <;> exact ⟨rfl, rfl⟩

/-- Only an assignment to `framerate` changes the framerate, and it changes nothing else. -/
theorem Assignment.store_only (assignment : Assignment)
    (different : (assignment.store params).framerate ≠ params.framerate) :
    assignment.store params = { params with framerate := (assignment.store params).framerate } := by
  cases assignment with
  | framerate value => rfl
  | _ => exact absurd rfl different

/-- The gains are kept when the framerate changes. -/
theorem keepGains_framerate (only : next = { params with framerate := next.framerate }) :
    params.KeepGains next := by
  intro _
  left
  rw [only]
  exact ⟨rfl, rfl⟩

/-- An assignment keeps the controls in agreement with the parameters if and only
if it is one that `Keeps` admits. -/
theorem assigned_agrees_iff (running : params.Running current) (assignment : Assignment) :
    (Tuning.assigned params current assignment).controls =
        (Tuning.assigned params current assignment).params.controls ↔
      assignment.Keeps params current := by
  unfold Tuning.assigned Assignment.Keeps
  by_cases same : (assignment.store params).framerate = params.framerate
  · rw [update_same running same, if_pos same]
    dsimp only
    rw [controls_eq_iff, gains_eq_iff, exposure_eq_iff running same]
  · have only := assignment.store_only same
    obtain ⟨least, most⟩ := assignment.store_framerate running
    rw [update_framerate running only same, if_neg same]
    dsimp only
    rw [← limitedExposure_eq_iff running only (frameTime_pos least most)]
    simp only [keepGains_framerate only, true_and]
    constructor
    · intro agrees
      rw [← agrees]
    · intro agrees
      rw [agrees]

/-- The camera runs on with the parameters that an assignment leaves. -/
theorem assigned_running (running : params.Running current) (assignment : Assignment) :
    ∃ result, (Tuning.assigned params current assignment).params = result ∧
      (Tuning.assigned params current assignment).current = result ∧ result.Running result := by
  obtain ⟨low, high⟩ := assignment.store_limits params
  have limits := running.limits
  rw [← low, ← high] at limits
  have framerate := assignment.store_framerate running
  unfold Tuning.assigned
  by_cases same : (assignment.store params).framerate = params.framerate
  · rw [update_same running same]
    exact ⟨_, rfl, rfl, limits, framerate, rfl, .inl rfl⟩
  · rw [update_framerate running (assignment.store_only same) same]
    exact ⟨_, rfl, rfl, limits, framerate, rfl, .inl rfl⟩

end

/-! ## Sequences of assignments -/

/-- What `camera_setAttr` makes of an assignment. -/
def World.assign (world : World) (assignment : Assignment) : World :=
  match world.kcParams with
  | none => world
  | some params =>
      ((Code.cameraSetAttr (assignment.store params)).alone (.python 0) {} world [.gil]).elim world
        Prod.fst

/-- The start-up of `event_loop` would leave every control as it is; in particular
the automatic algorithms that are on are in control. -/
structure World.Agrees (world : World) : Prop where
  startUp : ∃ next held, Code.startUp.alone (.video 0) {} world [] = some (next, held, ()) ∧
    next.controls = world.controls
  balance : ∀ params, world.kcParams = some params → params.awb →
    world.controls.colourGains = some (0, 0)
  shutter : ∀ params, world.kcParams = some params → params.autoShutter →
    world.controls.exposureTime = some 0

/-- The controls agree with the parameters at the start and after every assignment. -/
def World.AlwaysAgrees (world : World) : List Assignment → Prop
  | [] => world.Agrees
  | assignment :: rest => world.Agrees ∧ (world.assign assignment).AlwaysAgrees rest

/-- Every assignment is one that keeps the agreement. -/
def World.EachKeeps (world : World) : List Assignment → Prop
  | [] => True
  | assignment :: rest =>
      (∀ params, world.kcParams = some params → assignment.Keeps params world.g.currParams) ∧
        (world.assign assignment).EachKeeps rest

/-- The camera starts up: `kcStart` copies the parameters, and `event_loop` sets
the controls. -/
def World.start (world : World) : World :=
  ((Code.perform .startParams >>= fun _ => Code.startUp).alone (.video 0) {} world []).elim world
    Prod.fst

/-- A Camera is alive and `g_params` points to its parameters, with the framerate
limits of `kcInit`. -/
structure World.Ready (world : World) (params : KcParams) : Prop where
  sound : world.fault = none
  pointed : world.camera = world.params
  found : world.kcParams = some params
  limits : params.minFps = 4 ∧ params.maxFps = 90

section

variable {world : World} {params current : KcParams}

/-- While the camera runs there is a framerate to divide by. -/
theorem KcParams.Running.framerate_ne (running : params.Running current) :
    params.framerate ≠ 0 := by
  intro zero
  have least := running.framerate.1
  rw [zero] at least
  exact absurd least (by decide)

/-- The controls agree with the parameters when they are what a start-up sets. -/
theorem World.Tuned.agrees_iff {tuning : Tuning} (tuned : world.Tuned tuning)
    (positive : tuning.params.framerate ≠ 0) :
    world.Agrees ↔ tuning.controls = tuning.params.controls := by
  have free : Mutex.controls ∉ ([] : List Mutex) := List.not_mem_nil
  obtain ⟨next, executed, tuned'⟩ := tunes_startUp positive free world tuned
  have controls : next.controls = tuning.params.controls :=
    tuned'.controls.trans tuning.startUp_controls
  rw [← tuned.controls]
  constructor
  · intro agrees
    obtain ⟨other, held, executed', same⟩ := agrees.startUp
    rw [executed'] at executed
    cases executed
    rw [← same, controls]
  · intro same
    refine ⟨⟨next, [], executed, controls.trans same.symm⟩, ?_, ?_⟩
    · intro params found automatic
      rw [tuned.params] at found
      cases found
      simp [same, KcParams.controls, KcParams.gains, automatic]
    · intro params found automatic
      rw [tuned.params] at found
      cases found
      simp [same, KcParams.controls, automatic]

/-- An assignment while the camera runs. -/
theorem tunes_assign {thread : Tid} {choice : Choice} (running : params.Running current)
    (assignment : Assignment) :
    Tunes thread choice (Code.cameraSetAttr (assignment.store params)) [.gil]
      ⟨params, current, params.controls⟩ .none [.gil]
      (Tuning.assigned params current assignment) := by
  obtain ⟨least, most⟩ := assignment.store_framerate running
  have positive : (assignment.store params).framerate ≠ 0 := by
    intro zero
    rw [zero] at least
    exact absurd least (by decide)
  have resolution : Setting.resolution.changed (assignment.store params) current = false := by
    rw [running.same]
    cases assignment <;> simp [Setting.changed, Assignment.store]
  have mode : Setting.mode.changed (assignment.store params) current = false := by
    rw [running.same]
    cases assignment <;> simp [Setting.changed, Assignment.store]
  exact tunes_cameraSetAttr (assignment.store params) positive resolution mode (by simp) (by simp)

/-- An assignment in the engine is one of the tuning. -/
theorem World.Tuned.assign (tuned : world.Tuned ⟨params, current, params.controls⟩)
    (running : params.Running current) (assignment : Assignment) :
    (world.assign assignment).Tuned (Tuning.assigned params current assignment) := by
  obtain ⟨next, executed, tuned'⟩ := tunes_assign running assignment world tuned
  unfold World.assign
  rw [tuned.params]
  dsimp only
  rw [executed]
  exact tuned'

/-- What always agrees agrees now. -/
theorem World.AlwaysAgrees.agrees {assignments : List Assignment}
    (always : world.AlwaysAgrees assignments) : world.Agrees := by
  cases assignments with
  | nil => exact always
  | cons _ _ => exact always.1

/-- From controls that agree with the parameters, they always agree if and only if
every assignment keeps them in agreement. -/
theorem World.Tuned.alwaysAgrees_iff (assignments : List Assignment) {world : World}
    {params current : KcParams} (tuned : world.Tuned ⟨params, current, params.controls⟩)
    (running : params.Running current) :
    world.AlwaysAgrees assignments ↔ world.EachKeeps assignments := by
  have agrees : world.Agrees := (tuned.agrees_iff running.framerate_ne).mpr rfl
  induction assignments generalizing world params current with
  | nil => exact iff_of_true agrees trivial
  | cons assignment rest ih =>
      have keeps : (∀ found, world.kcParams = some found →
          assignment.Keeps found world.g.currParams) ↔ assignment.Keeps params current := by
        simp [tuned.params, tuned.current]
      have next := tuned.assign running assignment
      obtain ⟨result, params', current', running'⟩ := assigned_running running assignment
      have agrees_iff := (next.agrees_iff (by
        rw [params']
        exact running'.framerate_ne)).trans (assigned_agrees_iff running assignment)
      unfold World.AlwaysAgrees World.EachKeeps
      rw [keeps]
      by_cases kept : assignment.Keeps params current
      · have controls := (assigned_agrees_iff running assignment).mpr kept
        have value : Tuning.assigned params current assignment =
            ⟨result, result, result.controls⟩ := by
          rw [params'] at controls
          rw [← controls, ← params']
          conv_rhs => enter [2]; rw [params', ← current']
        rw [value] at next
        simp [agrees, kept, ih next running' (agrees_iff.mpr kept)]
      · have never : ¬(world.assign assignment).AlwaysAgrees rest := by
          intro always
          exact kept (agrees_iff.mp always.agrees)
        simp [kept, never]

/-- In the machine an assignment that nobody disturbs leads to a world that agrees
with its parameters just when `Keeps` admits it. -/
theorem cameraSetAttr_gets {state : System} {thread : Tid} {next : Reply → Code Unit}
    (tuned : state.world.Tuned ⟨params, current, params.controls⟩)
    (running : params.Running current) (assignment : Assignment)
    (code : state.code thread = Code.cameraSetAttr (assignment.store params) >>= next)
    (undisturbed : Undisturbed thread [.gil] state) :
    ∃ world, Gets semantics thread state world [.gil] (next .none) ∧
      (world.Agrees ↔ assignment.Keeps params current) := by
  obtain ⟨result, params', current', running'⟩ := assigned_running running assignment
  have tunes : Tunes thread {} (Code.cameraSetAttr (assignment.store params)) [.gil]
      ⟨params, current, params.controls⟩ .none [.gil]
      (Tuning.assigned params current assignment) := tunes_assign running assignment
  obtain ⟨world, executed, tuned'⟩ := tunes state.world tuned
  refine ⟨world, alone_reach _ next code undisturbed executed, ?_⟩
  rw [← assigned_agrees_iff running assignment]
  exact tuned'.agrees_iff (by
    rw [params']
    exact running'.framerate_ne)

/-! ## From the start -/

/-- The start shortens a shutter speed that is too long, but not in `m_currParams`. -/
theorem KcParams.limited_running (limits : params.minFps = 4 ∧ params.maxFps = 90)
    (framerate : 4 ≤ params.framerate ∧ params.framerate ≤ 90) :
    params.limited.Running params := by
  refine ⟨limits, framerate, rfl, ?_⟩
  by_cases fits : params.Fits
  · left
    have fits : ¬params.frameTime < params.shutterMicroseconds := Nat.not_lt.mpr fits
    simp [KcParams.limited, KcParams.limitedShutter, fits]
  · exact .inr ⟨fits, rfl⟩

/-- A start leaves the framerate within the limits. -/
theorem limitFramerate_limits (limits : params.minFps = 4 ∧ params.maxFps = 90) :
    ((limitFramerate params).minFps = 4 ∧ (limitFramerate params).maxFps = 90) ∧
      4 ≤ (limitFramerate params).framerate ∧ (limitFramerate params).framerate ≤ 90 := by
  have same : (kcSetMinMaxFramerate params).minFps = 4 ∧
      (kcSetMinMaxFramerate params).maxFps = 90 := by
    unfold kcSetMinMaxFramerate
    split
    · exact ⟨rfl, rfl⟩
    · exact limits
  unfold limitFramerate
  generalize kcSetMinMaxFramerate params = params at same
  obtain ⟨low, high⟩ := same
  dsimp only
  split
  · refine ⟨⟨low, high⟩, ?_⟩
    simp only [high]
    decide
  · split
    · refine ⟨⟨low, high⟩, ?_⟩
      simp only [low]
      decide
    · rename_i most least
      rw [low] at least
      rw [high] at most
      exact ⟨⟨low, high⟩, UInt32.not_lt.mp least, UInt32.not_lt.mp most⟩

/-- A limited shutter speed is not limited further. -/
theorem limited_controls (params : KcParams) : params.limited.controls = params.controls := by
  have limited : params.limited.shutterMicroseconds =
      min params.frameTime params.shutterMicroseconds := microseconds_limitedShutter params
  have time : params.limited.frameTime = params.frameTime := rfl
  simp only [KcParams.controls, limited, time]
  rw [← Nat.min_assoc, Nat.min_self]
  rfl

/-- A start-up limits the shutter speed and sets every control. -/
theorem Tuning.startUp_eq (tuning : Tuning) :
    tuning.startUp = ⟨tuning.params.limited, tuning.current, tuning.params.limited.controls⟩ := by
  rw [limited_controls, ← tuning.startUp_controls]
  simp only [startUp, set, Setter.apply, kcSetFramerate_eq]
  rfl

/-- After the start the controls agree with the parameters. -/
theorem World.Ready.started (ready : world.Ready params) :
    world.start.Tuned ⟨(limitFramerate params).limited, limitFramerate params,
      (limitFramerate params).limited.controls⟩ := by
  have framerate := (KcParams.limited_running (limitFramerate_limits ready.limits).1
    (limitFramerate_limits ready.limits).2).framerate_ne
  have tuned : world.Tuned ⟨params, world.g.currParams, world.controls⟩ :=
    ⟨ready.sound, ready.pointed, ready.found, rfl, rfl⟩
  have starts : Tunes (.video 0) {} (Code.perform .startParams >>= fun _ => Code.startUp) []
      ⟨params, world.g.currParams, world.controls⟩ () []
      (Tuning.startUp ⟨limitFramerate params, limitFramerate params, world.controls⟩) :=
    tunes_startParams.bind (tunes_startUp framerate (by simp))
  obtain ⟨next, executed, tuned'⟩ := starts world tuned
  rw [Tuning.startUp_eq] at tuned'
  unfold World.start
  rw [executed]
  exact tuned'

/-- From the start of the camera on the controls always agree with the parameters if
and only if every assignment keeps them in agreement. -/
theorem alwaysAgrees_iff_eachKeeps (ready : world.Ready params) (assignments : List Assignment) :
    world.start.AlwaysAgrees assignments ↔ world.start.EachKeeps assignments := by
  obtain ⟨limits, framerate⟩ := limitFramerate_limits ready.limits
  exact ready.started.alwaysAgrees_iff assignments (KcParams.limited_running limits framerate)

end

/-- A world with a new Camera. -/
def someWorld : World :=
  { World.initial with
    params := some 0
    camera := some 0
    cameras := Function.update (fun _ => none) 0 (some ⟨someParams, none⟩) }

/-- The example's Camera is ready to be started. -/
theorem someWorld_ready : someWorld.Ready someParams where
  sound := rfl
  pointed := rfl
  found := rfl
  limits := by decide

/-- Three assignments in a row on the example's Camera. -/
theorem someWorld_alwaysAgrees_iff :
    someWorld.start.AlwaysAgrees [.awb false, .awbRed 2, .framerate 15] ↔
      someWorld.start.EachKeeps [.awb false, .awbRed 2, .framerate 15] :=
  alwaysAgrees_iff_eachKeeps someWorld_ready _

/-- A gain assigned during automatic white balance ends it. -/
theorem not_alwaysAgrees : ¬∀ (world : World) (params : KcParams), world.Ready params →
    ∀ assignments : List Assignment, world.start.AlwaysAgrees assignments := by
  intro always
  have started := someWorld_ready.started
  obtain ⟨limits, framerate⟩ := limitFramerate_limits someWorld_ready.limits
  have keeps := (started.alwaysAgrees_iff [.awbRed 2]
    (KcParams.limited_running limits framerate)).mp (always _ _ someWorld_ready _)
  have gains := (keeps.1 _ started.params).1 (by decide)
  rcases gains with ⟨red, _⟩ | ⟨red, _⟩
  · exact absurd red (by decide)
  · exact absurd red (by decide)

end KCamera
