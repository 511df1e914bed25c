import KCamera.Camera.Stores

/-!
# Ranges of the parameters

Whoever writes the parameters, `kcSetFramerate` and `kcSetBrightness` should find a
framerate within its limits and a brightness of at most 100, and `kcRecordProgress` a
memory reserve that is not zero. Assignments are limited; keyword arguments are not, but
for the framerate, which `kcStart` limits before it creates a video thread.
-/

namespace KCamera

open Machine KCamera.Module

open Function (update)

/-- The framerate is within its limits and the brightness at most 100. -/
structure InRange (params : KcParams) : Prop where
  within : Within params
  brightness : params.brightness ≤ 100

/-- Who is about to use the parameters finds them in range. -/
structure UsesInRange (state : System) : Prop where
  setter : ∀ thread setter params, state.world.fault = none →
    (state.code thread).current = some (.setControl setter) →
    setter = .framerate ∨ setter = .brightness → state.world.kcParams = some params →
    InRange params
  progress : ∀ thread, state.world.fault = none →
    (state.code thread).current = some .memoryProgress →
    state.world.g.currParams.memReserve ≠ 0

/-- Neither `kcSetFramerate` nor `kcSetBrightness`. -/
def Op.paced (operation : Op) : Prop :=
  operation ≠ .setControl .framerate ∧ operation ≠ .setControl .brightness

/-- The video thread has `kcSetFramerate` and `kcSetBrightness` behind it. -/
def Paced (state : System) (index : Nat) : Prop :=
  (state.stage (.video index)).phase ≠ .unborn ∧ (state.code (.video index)).Every Op.paced

/-- No video thread that was created is yet to come to its setters. -/
def AllPaced (state : System) : Prop := ∀ index < state.world.spawned, Paced state index

/-- What keyword calls store is in range, unless no video thread can come to see it
before `kcStart` does; what an assignment leaves alone was in range before. -/
def Request.Bounds (state : System) (current params : KcParams) : Request → Prop
  | .newCamera _ => InRange params
  | .setAttr _ =>
      (params.framerate = current.framerate → Within current) ∧
        (params.brightness = current.brightness → current.brightness ≤ 100)
  | _ => InRange params ∨ AllPaced state

/-- The calls are accepted and bounded, and leave a memory reserve; a video thread is
created for a brightness in range. -/
structure Bounded (state : System) (thread : Tid) (choice : Choice) (operation : Op) : Prop where
  accepted : Accepted state thread choice operation
  stores : ∀ params, operation = .storeParams params → params.memReserve ≠ 0 ∧
    ∀ request current, (state.stage thread).calling = some request →
      state.world.cameraParams = some current → request.Bounds state current params
  creates : operation = .createThread → ∀ params, state.world.kcParams = some params →
    params.brightness ≤ 100

/-! ## Assignments -/

/-- A limited value is between the limits. -/
theorem limited_bounds {least most : UInt32} (order : least ≤ most) (val : UInt32) :
    least ≤ limited least most val ∧ limited least most val ≤ most := by
  unfold limited
  split
  · exact ⟨UInt32.le_refl _, order⟩
  · rename_i enough
    split
    · exact ⟨order, UInt32.le_refl _⟩
    · rename_i bounded
      exact ⟨UInt32.not_lt.mp enough, UInt32.not_lt.mp bounded⟩

/-- `camera_setAttr` limits what it stores. -/
theorem storeMember_limited {state : CameraState} (limits : Limits state.params)
    (parameter : Parameter) (value : PyValue) :
    let stored := (state.storeMember parameter (limitValue state.params parameter value)).1.params
    (Within stored ∨ stored.framerate = state.params.framerate) ∧
      (stored.brightness ≤ 100 ∨ stored.brightness = state.params.brightness) := by
  dsimp only
  unfold CameraState.storeMember
  split
  · rename_i field stored
    cases parameter with
    | framerate =>
        rw [limitValue_framerate limits] at stored
        cases stored
        have bounds := limited_bounds (show (4 : UInt32) ≤ 90 by decide)
          (value.asUnsignedLong.getD conversionFailed)
        refine ⟨.inl ?_, .inr rfl⟩
        change state.params.minFps ≤ limited 4 90 _ ∧ limited 4 90 _ ≤ state.params.maxFps
        rw [limits.least, limits.most]
        exact bounds
    | brightness =>
        rw [limitValue_brightness] at stored
        cases stored
        exact ⟨.inr rfl, .inl (limited_bounds (by decide) _).2⟩
    | _ => exact ⟨.inr rfl, .inr rfl⟩
  · exact ⟨.inr rfl, .inr rfl⟩

/-- The limits being the same everywhere, the range depends on the framerate only. -/
theorem within_of_framerate {params params' : KcParams} (limits : Limits params)
    (limits' : Limits params') (same : params'.framerate = params.framerate)
    (within : Within params) : Within params' := by
  rw [Within, limits.least, limits.most] at within
  rw [Within, limits'.least, limits'.most, same]
  exact within

/-- What an assignment leaves is in range, if what it leaves alone was. -/
theorem Assigned.inRange {accepted : Bool} {current params : KcParams}
    (assigned : Assigned accepted current params) (limits : Limits current)
    (framerate : params.framerate = current.framerate → Within current)
    (brightness : params.brightness = current.brightness → current.brightness ≤ 100) :
    InRange params := by
  have limits' := assigned.limits limits
  obtain ⟨state, after, name, value, rfl, stored, rfl⟩ := assigned
  have left (cases : (Within after.params ∨ after.params.framerate = state.params.framerate) ∧
      (after.params.brightness ≤ 100 ∨ after.params.brightness = state.params.brightness)) :
      InRange after.params := by
    obtain ⟨paced, bright⟩ := cases
    constructor
    · rcases paced with within | same
      · exact within
      · exact within_of_framerate limits limits' same (framerate same)
    · rcases bright with most | same
      · exact most
      · exact same ▸ brightness same
  cases name with
  | parameter parameter =>
      simp only [CameraState.store, Stored.generic.injEq] at stored
      have cases := storeMember_limited limits parameter value
      rw [stored.1] at cases
      exact left cases
  | mode =>
      simp only [CameraState.store] at stored
      split at stored
      · split at stored
        · cases stored
          exact left ⟨.inr rfl, .inr rfl⟩
        · cases stored
      · cases stored
  | other =>
      cases stored
      exact left ⟨.inr rfl, .inr rfl⟩

/-! ## Stable properties -/

/-- No operation but a store makes the memory reserve zero. -/
theorem stable_reserve : Stable (·.memReserve ≠ 0) where
  initial := by decide
  measured _ _ reserve := reserve
  sized params reserve := by
    have same : (kcSetMode params).memReserve = params.memReserve := kcSetMode_get .memReserve params
    rwa [same]
  shutter _ _ reserve := reserve
  limited params reserve := by
    have same : (limitFramerate params).memReserve = params.memReserve :=
      limitFramerate_get (show Parameter.memReserve ≠ .framerate by decide) params
    rwa [same]

/-- No operation but a store makes the brightness too large. -/
theorem stable_brightness : Stable (·.brightness ≤ 100) where
  initial := by decide
  measured _ _ bright := bright
  sized params bright := by
    have same : (kcSetMode params).brightness = params.brightness := kcSetMode_get .brightness params
    rwa [same]
  shutter _ _ bright := bright
  limited params bright := by
    have same : (limitFramerate params).brightness = params.brightness :=
      limitFramerate_get (show Parameter.brightness ≠ .framerate by decide) params
    rwa [same]

/-- No operation but a store brings the framerate out of its limits. -/
theorem stable_within : Stable fun params => Limits params ∧ Within params where
  initial := ⟨stable_limits.initial, by decide, by decide⟩
  measured _ _ known := ⟨stable_limits.measured _ _ known.1, known.2⟩
  sized params known := by
    have limits := stable_limits.sized params known.1
    exact ⟨limits, within_of_framerate known.1 limits (kcSetMode_get .framerate params) known.2⟩
  shutter _ _ known := ⟨stable_limits.shutter _ _ known.1, known.2⟩
  limited _ known := known.1.limitFramerate

/-! ## Video threads -/

section

variable {condition : System → Tid → Choice → Op → Prop} {state next : System} {thread : Tid}
  {choice : Choice} {operation : Op} {world : World} {response : operation.Resp}

attribute [local simp] Prog.acquire Prog.release Prog.perform Prog.notify Prog.ite_bind Op.paced in
/-- The loop of `event_loop` runs no setter. -/
theorem eventLoop_paced : Code.eventLoop.Every Op.paced := by
  have throws : Code.unwind.Every Op.paced := by simp [Code.unwind]
  have attempt {rest : Code Unit} (every : rest.Every Op.paced) :
      (Code.attempt rest).Every Op.paced := by
    simpa [Code.attempt] using ⟨every, throws⟩
  have stop : (Code.kcStopInternal false true).Every Op.paced := by
    simp [Code.kcStopInternal, Code.stopRunning]
  have record : Code.kcStopRecord.Every Op.paced := by simp [Code.kcStopRecord]
  have finish (failed : Bool) : (Code.finishFrame failed).Every Op.paced := by
    simpa [Code.finishFrame] using fun _ _ => record
  have frame (capture : Capture) : (Code.kcFrameData capture).Every Op.paced := by
    simp only [Code.kcFrameData, Prog.acquire_bind, Prog.perform_bind]
    refine ⟨by simp, fun begun => ?_⟩
    cases begun with
    | idle => exact stop
    | outOfMemory list => exact record.bind fun _ => stop
    | recording list frame => exact ⟨by simp, fun res => finish _⟩
    | stored | skipped => exact finish false
  refine ⟨by simp, fun run => ?_⟩
  cases run with
  | false => exact attempt (by simp)
  | true =>
      refine ⟨by simp, fun threw => ?_⟩
      cases threw with
      | true => exact throws
      | false =>
          refine attempt ⟨by simp, fun capture => ?_⟩
          cases capture with
          | none => exact throws
          | some capture => exact (frame capture).bind fun _ => attempt trivial

/-- A video thread that was born stays so. -/
theorem Turn.born {index : Nat}
    (turn : Turn condition state (.video index) choice operation world response)
    (born : (state.stage (.video index)).phase ≠ .unborn) :
    ((state.stage (.video index)).after operation response).phase ≠ .unborn := by
  have allowed := turn.allowed
  by_cases moves : Mark.life ∈ operation.marks
  · cases operation with
    | endCall request reply => exact absurd allowed.1 (by simp)
    | construct =>
        simp only [Stage.after]
        split
        · exact born
        · simp
    | setRun | useApp | takeCapture | readLoop => exact born
    | «begin» | publishApp | stopped | clearApp | destruct | exit => simp
    | _ => simp [Op.marks] at moves
  · have shares : (state.stage (.video index)).Shares _ .life := turn.shares moves
    rwa [shares.1]

/-- A thread that has its setters behind it keeps them behind it. -/
theorem Paced.step {index : Nat} (steps : Steps state next) (paced : Paced state index) :
    Paced next index := by
  obtain ⟨reached, event, admitted, taken⟩ := steps
  obtain ⟨born, every⟩ := paced
  constructor
  · rcases Runs.turn reached admitted taken with ⟨_, _, same⟩ |
      ⟨mover, choice, woken, operation, response, _, _, turn, stage⟩
    · rwa [same]
    · rw [stage]
      by_cases own : Tid.video index = mover
      · subst own
        rw [Function.update_self]
        exact turn.born born
      · rwa [Function.update_of_ne own]
  · rcases Prog.Every.lasting.step taken every with goes | ⟨label, code, after⟩
    · exact goes
    · have follows := reached.disciplined.follows (.video index)
      rw [code] at follows
      rw [after]
      cases label with
      | video =>
          obtain ⟨_, stage, _⟩ := follows
          exact absurd (by rw [stage]; rfl) born
      | eventLoop => exact eventLoop_paced
      | python | saving self list len => exact absurd follows.1 (by simp)

/-- No thread is created, so all that there are keep their setters behind them. -/
theorem AllPaced.step (steps : Steps state next)
    (spawned : next.world.spawned = state.world.spawned) (paced : AllPaced state) :
    AllPaced next := fun index created =>
  (paced index (spawned ▸ created)).step steps

end

/-! ## Calls -/

/-- The call runs setters, or is about to copy what they have seen. -/
def CallPhase.setting (phase : CallPhase) : Prop :=
  (phase.progress = .stored ∨ phase.progress = .resized ∨ phase.progress = .restarted) ∧
    ∀ params, phase.request ≠ some (.record params)

/-- The call goes on to create a video thread, if it does. -/
def CallPhase.starting (phase : CallPhase) : Prop :=
  phase.progress = .launched ∨
    phase.progress = .applied ∧ ∀ params, phase.request ≠ some (.stream params)

/-- What is known of the parameters, by the phases of the calls. -/
structure Kept (state : System) (phases : Tid → CallPhase) : Prop where
  pointed : Pointed state.world phases
  limits : state.world.ParamsAre Limits
  /-- Out of range they are only while no thread can see it. -/
  ranged : state.world.ParamsAre InRange ∨ AllPaced state
  setting : ∀ thread, (phases thread).setting → state.world.ParamsAre InRange
  starting : ∀ thread, (phases thread).starting → state.world.ParamsAre Within

section

variable {condition : System → Tid → Choice → Op → Prop} {state next : System} {thread : Tid}
  {choice : Choice} {operation : Op} {response : operation.Resp} {phases : Tid → CallPhase}

/-- Only a store makes a call run setters that did not before. -/
theorem CallPhase.setting.before {phase : CallPhase} (admitted : phase.admits operation)
    (stores : ∀ params, operation ≠ .storeParams params)
    (setting : (phase.after operation response).setting) : phase.setting := by
  obtain ⟨progress, calls⟩ := setting
  cases operation with
  | storeParams params => exact absurd rfl (stores params)
  | nextCall | endCall _ _ | initParams _ | copyParams | setTimer => simp [idle] at progress
  | newCamera => cases response <;> simp at progress
  | setMode => exact ⟨.inl admitted.2, calls⟩
  | startParams | createThread =>
      simp only [after] at progress
      split at progress <;> simp_all
  | resetState =>
      obtain ⟨called, before | before⟩ := admitted
      · simp [before] at progress
      · refine ⟨before.imp_right .inl, ?_⟩
        simpa only [after, apply_ite CallPhase.request, ite_self] using calls
  | readRun =>
      simp only [after] at progress calls
      split at calls
      · rename_i halted
        exact ⟨.inr (.inl halted.1), calls⟩
      · rename_i unhalted
        rw [if_neg unhalted] at progress
        exact ⟨progress, calls⟩
  | _ => exact ⟨progress, calls⟩

/-- Only a start or a copy makes a call go on to create a thread. -/
theorem CallPhase.starting.before {phase : CallPhase} (admitted : phase.admits operation)
    (starting : (phase.after operation response).starting) :
    phase.starting ∨ operation = .startParams ∨ operation = .copyParams ∧ phase.setting := by
  cases operation with
  | startParams => exact .inr (.inl rfl)
  | copyParams =>
      obtain ⟨_, progress, calls⟩ := admitted
      exact .inr (.inr ⟨rfl, progress.imp_right .inr, calls⟩)
  | storeParams params =>
      obtain ⟨_, request, called, _⟩ := admitted
      exfalso
      cases request <;> simp_all [CallPhase.starting, Request.storing]
  | nextCall | endCall _ _ | initParams _ | setMode | setTimer =>
      simp [CallPhase.starting, idle] at starting
  | newCamera => cases response <;> simp [CallPhase.starting] at starting
  | resetState =>
      obtain ⟨_, before | before | before⟩ := admitted <;>
        simp [CallPhase.starting, before] at starting
  | createThread =>
      obtain ⟨_, before | ⟨before, _⟩⟩ := admitted <;>
        simp_all [CallPhase.starting]
  | readRun =>
      left
      simp only [after] at starting
      split at starting
      · simp [CallPhase.starting] at starting
      · exact starting
  | _ => exact .inl starting

/-- What other calls leave of the parameters while this one is in its phase. -/
theorem Kept.storeParams_own (move : Move condition state next phases thread choice operation response)
    {other : Tid} (phase : (phases other).setting ∨ (phases other).starting)
    {params : KcParams} (stores : operation = .storeParams params) : other = thread := by
  subst stores
  refine move.sole move.turn.allowed.2.1 (move.inStep.called other ?_) ?_ <;>
    rcases phase with ⟨progress | progress | progress, _⟩ | progress | ⟨progress, _⟩ <;>
    simp [progress]

/-- A bounded call stores what is in range, or what no thread can see. -/
theorem Kept.stores {params : KcParams} {response : Unit}
    (move : Move Bounded state next phases thread choice (.storeParams params) response)
    (kept : Kept state phases) :
    (next.world.ParamsAre InRange ∨ AllPaced state) ∧
      (((phases thread).after (.storeParams params) response).setting →
        next.world.ParamsAre InRange) := by
  obtain ⟨before, request, called, _⟩ := move.admits
  have calling := move.inStep.calling thread
  rw [called] at calling
  rcases move.stores kept.pointed with gone | ⟨current, found, camera, after, _⟩
  · have nothing : next.world.ParamsAre InRange := by
      intro _ params there
      rw [gone] at there
      cases there
    exact ⟨.inl nothing, fun _ => nothing⟩
  · have accepts := move.turn.admitted.accepted request current calling.symm camera
    have bounds := (move.turn.admitted.stores params rfl).2 request current calling.symm camera
    have limits := kept.limits move.turn.running current found
    have are (inRange : InRange params) : next.world.ParamsAre InRange := by
      intro _ found there
      rw [after, Option.some.injEq] at there
      exact there ▸ inRange
    cases request with
    | newCamera _ => exact ⟨.inl (are bounds), fun _ => are bounds⟩
    | setAttr _ =>
        have inRange := are (accepts.inRange limits bounds.1 bounds.2)
        exact ⟨.inl inRange, fun _ => inRange⟩
    | stream _ | record _ =>
        refine ⟨bounds.imp_left are, fun setting => ?_⟩
        exfalso
        simp [CallPhase.setting, called, Request.storing] at setting
    | _ => exact accepts.elim

/-- All but calls that store parameters leave the framerate within its limits. -/
theorem within_kept (turn : Turn condition state thread choice operation next.world response)
    (stores : ∀ params, operation ≠ .storeParams params) (limits : state.world.ParamsAre Limits)
    (within : state.world.ParamsAre Within) : next.world.ParamsAre Within := by
  have both : state.world.ParamsAre fun params => Limits params ∧ Within params :=
    fun sound params found => ⟨limits sound params found, within sound params found⟩
  have after := stable_within.step turn (fun params _ same => absurd same (stores params)) both
  exact fun sound params found => (after sound params found).2

/-- All but stores keep the parameters in range. -/
theorem inRange_kept (turn : Turn condition state thread choice operation next.world response)
    (stores : ∀ params, operation ≠ .storeParams params) (limits : state.world.ParamsAre Limits)
    (inRange : state.world.ParamsAre InRange) : next.world.ParamsAre InRange := by
  have within := within_kept turn stores limits
    fun sound params found => (inRange sound params found).within
  have brightness := stable_brightness.step turn
    (fun params _ same => absurd same (stores params))
    fun sound params found => (inRange sound params found).brightness
  exact fun sound params found => ⟨within sound params found, brightness sound params found⟩

/-- A start limits the framerate. -/
theorem within_startParams {response : Unit}
    (turn : Turn condition state thread choice .startParams next.world response)
    (limits : state.world.ParamsAre Limits) : next.world.ParamsAre Within := by
  intro sound params after
  cases turn.params with
  | measured quiet => cases quiet
  | failed fault => simp [sound] at fault
  | started _ there found _ =>
      rw [after, Option.some.injEq] at found
      exact found ▸ (limits turn.running _ there).limitFramerate.2
  | missed same | stored same | initialised same | sized same | reset same | tuned same
  | copied same => cases same

/-- The limits stay what every mode has. -/
theorem Kept.limits_next (move : Move Bounded state next phases thread choice operation response)
    (kept : Kept state phases) : next.world.ParamsAre Limits := by
  refine stable_limits.step move.turn ?_ kept.limits
  rintro params current rfl camera limits
  obtain ⟨_, request, called, _⟩ := move.admits
  rw [move.inStep.calling] at called
  exact (move.turn.admitted.accepted request current called camera).stores.limits limits

/-- The parameters are in range, or no video thread is yet to come to its setters. -/
theorem Kept.ranged_next (move : Move Bounded state next phases thread choice operation response)
    (kept : Kept state phases) : next.world.ParamsAre InRange ∨ AllPaced next := by
  have turn := move.turn
  by_cases stores : ∃ params, operation = .storeParams params
  · obtain ⟨params, rfl⟩ := stores
    refine (kept.stores move).1.imp_right fun paced => paced.step move.steps ?_
    rcases (Op.run_threads turn.executed).spawned with same | ⟨creates, _⟩
    · exact same
    · cases creates
  · have stores (params : KcParams) : operation ≠ .storeParams params := fun same =>
      stores ⟨params, same⟩
    rcases (Op.run_threads turn.executed).spawned with same | ⟨rfl, _⟩
    · refine kept.ranged.imp (inRange_kept turn stores kept.limits) ?_
      exact fun paced => paced.step move.steps same
    · refine .inl (inRange_kept turn stores kept.limits fun sound params found => ⟨?_, ?_⟩)
      · exact kept.starting thread move.admits.2 sound params found
      · exact turn.admitted.creates rfl params found

/-- A bounded step keeps what is known of the parameters. -/
theorem Kept.step (move : Move Bounded state next phases thread choice operation response)
    (kept : Kept state phases) :
    Kept next (update phases thread ((phases thread).after operation response)) := by
  have turn := move.turn
  refine ⟨kept.pointed.step move, kept.limits_next move, kept.ranged_next move, ?_, ?_⟩
  · intro other setting
    by_cases stores : ∃ params, operation = .storeParams params
    · obtain ⟨params, rfl⟩ := stores
      by_cases own : other = thread
      · subst own
        rw [Function.update_self] at setting
        exact (kept.stores move).2 setting
      · rw [Function.update_of_ne own] at setting
        exact absurd (Kept.storeParams_own move (.inl setting) rfl) own
    · have stores (params : KcParams) : operation ≠ .storeParams params := fun same =>
        stores ⟨params, same⟩
      refine inRange_kept turn stores kept.limits (kept.setting other ?_)
      by_cases own : other = thread
      · subst own
        rw [Function.update_self] at setting
        exact setting.before move.admits stores
      · rwa [Function.update_of_ne own] at setting
  · intro other starting
    have before : (phases other).starting ∨ other = thread ∧ (operation = .startParams ∨
        operation = .copyParams ∧ (phases thread).setting) := by
      by_cases own : other = thread
      · subst own
        rw [Function.update_self] at starting
        exact (starting.before move.admits).imp_right fun how => ⟨rfl, how⟩
      · rw [Function.update_of_ne own] at starting
        exact .inl starting
    have within (inRange : state.world.ParamsAre InRange) : state.world.ParamsAre Within :=
      fun sound params found => (inRange sound params found).within
    rcases before with before | ⟨rfl, rfl | ⟨rfl, setting⟩⟩
    · refine within_kept turn ?_ kept.limits (kept.starting other before)
      rintro params rfl
      obtain rfl := Kept.storeParams_own move (.inr before) rfl
      obtain ⟨progress, _⟩ := move.admits
      simp [CallPhase.starting, progress] at before
    · exact within_startParams turn kept.limits
    · exact within_kept turn (by simp) kept.limits (within (kept.setting other setting))

/-- At first there are no parameters. -/
theorem kept_initial : Kept .initial fun _ => .idle where
  pointed := pointed_initial
  limits _ _ found := by cases found
  ranged := .inl fun _ _ found => by cases found
  setting _ setting := by simp [CallPhase.setting, CallPhase.idle] at setting
  starting _ starting := by simp [CallPhase.starting, CallPhase.idle] at starting

/-- A step that leaves the world leaves what is known. -/
theorem Kept.quiet (steps : Steps state next) (world : next.world = state.world)
    (kept : Kept state phases) : Kept next phases where
  pointed := world ▸ kept.pointed
  limits := world ▸ kept.limits
  ranged := kept.ranged.imp (fun inRange => world ▸ inRange) fun paced =>
    paced.step steps (by rw [world])
  setting thread setting := world ▸ kept.setting thread setting
  starting thread starting := world ▸ kept.starting thread starting

/-! ## The memory reserve -/

/-- The memory reserve is not zero, and `kcRecordProgress` comes to use it once there
are parameters. -/
structure Reserved (world : World) (stages : Tid → Stage) : Prop where
  params : world.ParamsAre (·.memReserve ≠ 0)
  current : world.fault = none → world.params.isSome → world.g.currParams.memReserve ≠ 0
  record : world.g.record.isSome → world.params.isSome
  progressing : ∀ thread, (stages thread).progressing → world.params.isSome

/-- At first there is nothing to reserve. -/
theorem reserved_initial : Reserved .initial fun _ => .idle where
  params _ _ found := by cases found
  current _ pointed := by cases pointed
  record attached := by cases attached
  progressing _ going := by cases going

/-- `g_params` leads to a Camera once it has led to one. -/
theorem pointer_kept {world : World}
    (turn : Turn condition state thread choice operation world response)
    (pointed : state.world.params.isSome) : world.params.isSome := by
  rcases Op.run_pointer turn.executed with same | ⟨camera, _, after⟩
  · rwa [same]
  · simp [after]

/-- `m_currParams` is left alone, or taken from parameters with a reserve. -/
theorem Reserved.current_next {world : World}
    (turn : Turn condition state thread choice operation world response)
    (reserved : Reserved state.world state.stage) (sound : world.fault = none)
    (pointed : world.params.isSome) : world.g.currParams.memReserve ≠ 0 := by
  have running := turn.running
  have same (current : world.g.currParams = state.world.g.currParams)
      (sets : ∀ camera, operation ≠ .initParams camera) :
      world.g.currParams.memReserve ≠ 0 := by
    rw [current]
    refine reserved.current running ?_
    rcases Op.run_pointer turn.executed with same | ⟨camera, set, _⟩
    · rwa [same] at pointed
    · exact absurd set (sets camera)
  cases turn.params with
  | measured quiet measured =>
      refine same measured.current ?_
      rintro camera rfl
      cases quiet
  | failed fault => simp [sound] at fault
  | missed stores _ measured => exact same measured.current (by simp [stores])
  | stored stores _ _ _ current => exact same current (by simp [stores])
  | initialised _ _ current =>
      rw [current]
      decide
  | sized sets _ _ current => exact same current (by simp [sets])
  | reset resets _ _ current => exact same current (by simp [resets])
  | tuned sets _ _ current => exact same current (by simp [sets])
  | started _ there _ current =>
      rw [current]
      exact stable_reserve.limited _ (reserved.params running _ there)
  | copied _ there _ current =>
      rw [current]
      exact reserved.params running _ there

/-- A bounded step keeps the memory reserve. -/
theorem Reserved.step {world : World}
    (turn : Turn Bounded state thread choice operation world response)
    (reserved : Reserved state.world state.stage) :
    Reserved world (update state.stage thread ((state.stage thread).after operation response)) where
  params := by
    refine stable_reserve.step turn ?_ reserved.params
    rintro params current rfl _ _
    exact (turn.admitted.stores params rfl).1
  current := reserved.current_next turn
  record attached := by
    by_cases starts : operation = .allocRecord
    · subst starts
      rw [result_eq turn.executed] at attached ⊢
      unfold World.allocRecord at attached ⊢
      cases found : state.world.kcParams with
      | none =>
          simp only [found] at attached ⊢
          exact reserved.record attached
      | some params =>
          cases pointer : state.world.params with
          | none => simp [World.kcParams, pointer] at found
          | some camera => simp [World.setList, pointer]
    · rcases Op.run_record turn.executed starts with same | detached
      · exact pointer_kept turn (reserved.record (same ▸ attached))
      · simp [detached] at attached
  progressing other going := by
    by_cases own : other = thread
    · subst own
      rw [Function.update_self] at going
      by_cases moves : Mark.progress ∈ operation.marks
      · cases operation with
        | recordingNow =>
            have executed := turn.executed
            cases executed
            simp only [Stage.after, Bool.and_eq_true] at going
            exact pointer_kept turn (reserved.record going.2)
        | derefRecord | recordLimited => exact pointer_kept turn (reserved.progressing other going)
        | sameRecord _ | endCall _ _ => simp [Stage.idle] at going
        | _ => simp [Op.marks] at moves
      · have shares : (state.stage other).Shares _ .progress := turn.shares moves
        rw [shares.1] at going
        exact pointer_kept turn (reserved.progressing other going)
    · rw [Function.update_of_ne own] at going
      exact pointer_kept turn (reserved.progressing other going)

end

/-! ## Runs -/

/-- In runs of bounded calls the parameters are in range whenever they are used. -/
theorem usesInRange_of_bounded (state : System) (reached : Runs Bounded state) :
    UsesInRange state := by
  obtain ⟨phases, phased, inStep, kept⟩ := reached.phased Kept kept_initial
    (fun _ _ _ world _ steps kept => kept.quiet steps world)
    (fun _ _ _ _ _ _ _ move kept => kept.step move)
  have reserved : Reserved state.world state.stage := by
    refine Runs.invariant Reserved reserved_initial ?_ reached
    exact fun _ _ _ _ _ _ turn reserved => reserved.step turn
  constructor
  · intro thread setter params sound current setters found
    have allowed := (reached.disciplined.follows thread).allowed semantics discipline thread current
    cases thread with
    | python index =>
        obtain ⟨_, _, _, request, called, _⟩ := allowed.1 rfl
        refine kept.setting (.python index) ?_ sound params found
        rcases phased.admits current with idle | ⟨progress, calls⟩
        · rw [inStep.calling] at idle
          simp [idle] at called
        · exact ⟨progress.imp_right .inl, calls⟩
    | video index =>
        have looping := allowed.2 (by simp)
        rcases kept.ranged with inRange | paced
        · exact inRange sound params found
        · have created := (life reached index).created (by simp [looping.1])
          have behind := (paced index created).2.current current
          rcases setters with rfl | rfl
          · exact absurd rfl behind.1
          · exact absurd rfl behind.2
  · intro thread sound current
    have allowed := (reached.disciplined.follows thread).allowed semantics discipline thread current
    exact reserved.current sound (reserved.progressing thread allowed.2.2.2)

/-- `Camera()`, `record(framerate=200)` and `progress()`, while the video thread comes to
its setters. -/
def fastRecording : List (Event Tid Choice) :=
  calls (.newCamera someParams) 25 ++ calls (.record (withFramerate 200 someParams)) 20 ++
    turns (.video 0) 13 {} ++ calls (.progress 0) 5

/-- The calls are those of `fastRecording`, made while no video thread was created. -/
def boundedBy (state : System) (thread : Tid) (choice : Choice) (operation : Op) : Bool :=
  acceptedBy [(someParams, someParams), (someParams, withFramerate 200 someParams)] state thread
      choice operation &&
    match operation with
    | .storeParams params =>
        params = someParams ∨ params.memReserve ≠ 0 ∧ state.world.spawned = 0 ∧
          (state.stage thread).calling = some (.record params)
    | .createThread => state.world.kcParams.all fun params => params.brightness ≤ 100
    | _ => true

/-- What the computable test of the run admits is bounded. -/
theorem bounded_of_boundedBy {state : System} {thread : Tid} {choice : Choice} {operation : Op}
    (check : boundedBy state thread choice operation) : Bounded state thread choice operation := by
  simp only [boundedBy, Bool.and_eq_true] at check
  obtain ⟨accepted, bounded⟩ := check
  constructor
  · refine accepted_of_acceptedBy ?_ accepted
    simp only [List.mem_cons, List.not_mem_nil, or_false]
    rintro pair (rfl | rfl)
    · exact parsed_empty someParams
    · exact parsed_framerate 200 someParams
  · rintro params rfl
    rcases of_decide_eq_true bounded with rfl | ⟨reserve, none, record⟩
    · have inRange : InRange someParams := ⟨by constructor <;> decide, by decide⟩
      refine ⟨by decide, fun request current calling camera => ?_⟩
      simp only [acceptedBy, calling, Option.any_some, Bool.and_eq_true] at accepted
      cases request with
      | newCamera _ => exact inRange
      | stream _ | record _ => exact .inl inRange
      | _ => simp [Request.takesKeywords] at accepted
    · refine ⟨reserve, fun request current calling camera => ?_⟩
      rw [record, Option.some.injEq] at calling
      subst calling
      exact .inr fun index created => by omega
  · rintro rfl params found
    rw [found] at bounded
    exact of_decide_eq_true bounded

/-- The framerate is limited to 90 before the video thread comes to divide by it. -/
theorem usesInRange_of_bounded_record : ∃ state, Runs Bounded state ∧ UsesInRange state ∧
    (state.code (.video 0)).current = some (.setControl .framerate) ∧
    (state.code (.python 0)).current = some .memoryProgress ∧
    state.world.kcParams = some (withFramerate 90 someParams) := by
  have passed : (checkedRun [.python 0, .video 0] boundedBy .initial fastRecording).any fun state =>
      (state.code (.video 0)).current = some (.setControl .framerate) ∧
        (state.code (.python 0)).current = some .memoryProgress ∧
        state.world.kcParams = some (withFramerate 90 someParams) := by
    decide +kernel
  obtain ⟨state, reached, there⟩ := exists_checkedRun Bounded (by
    intro state thread choice operation _ check
    exact bounded_of_boundedBy check) passed
  obtain ⟨setter, progress, params⟩ := of_decide_eq_true there
  exact ⟨state, reached, usesInRange_of_bounded state reached, setter, progress, params⟩

/-- `Camera(framerate=0)` comes to divide by the framerate. -/
theorem usesInRange_lost_to_camera : ¬∀ state, Runs Accepted state → UsesInRange state := by
  intro claim
  have passed : (checkedRun [.python 0] (acceptedBy [(someParams, withFramerate 0 someParams)])
      .initial (calls (.newCamera (withFramerate 0 someParams)) 13)).any fun state =>
      state.world.fault = none ∧
        (state.code (.python 0)).current = some (.setControl .framerate) ∧
        state.world.kcParams = some (withFramerate 0 someParams) := by
    decide +kernel
  obtain ⟨state, reached, there⟩ := exists_checkedRun Accepted (by
    intro state thread choice operation _ check
    refine accepted_of_acceptedBy ?_ check
    intro pair member
    rw [List.mem_singleton.mp member]
    exact parsed_framerate 0 someParams) passed
  obtain ⟨sound, setter, params⟩ := of_decide_eq_true there
  have inRange := (claim state reached).setter _ _ _ sound setter (.inl rfl) params
  exact absurd inRange.within.1 (by decide)

end KCamera
