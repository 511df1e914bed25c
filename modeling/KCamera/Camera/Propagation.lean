import KCamera.Camera.Stores

/-!
# Propagation of the parameters

When a call that stores parameters returns, `m_currParams` should have them, and the
sessions of a running camera should have been started with their width and height. On
the way stand `stream`, which tells nobody what it stores, sessions that a start leaves
open, and the start-up of another session, which shortens the shutter speed.
-/

namespace KCamera

open Machine KCamera.Module

open Function (update)

/-- The width and height. -/
def frameSize (params : KcParams) : UInt32 × UInt32 := (params.width, params.height)

/-- The sessions that are open have the width and height of the parameters. -/
def Sized (world : World) (stages : Tid → Stage) : Prop :=
  ∀ params index size, world.kcParams = some params → (stages (.video index)).looping →
    world.options index = some size → size = frameSize params

/-- A call that stores parameters is about to return without an exception. -/
def Returning (state : System) (thread : Tid) : Prop :=
  ∃ request reply, (state.code thread).current = some (.endCall request reply) ∧ request.stores ∧
    ∀ message, reply ≠ .error message

/-- What a call has done with the parameters when it returns: `m_currParams` has them,
but for the measured framerate, which no call sets, and so have the sessions of a camera
that runs. -/
structure Applied (state : System) (params : KcParams) : Prop where
  current : withMeasured 0 state.world.g.currParams = withMeasured 0 params
  sessions : state.world.g.run → ∀ index size, (state.stage (.video index)).looping →
    state.world.options index = some size → size = frameSize params

/-- The end of a call. -/
def Op.ends : Op → Prop
  | .endCall _ _ => True
  | _ => False

/-- The operation neither stores parameters nor copies them to `m_currParams`. -/
def Op.settles : Op → Prop
  | .storeParams _ | .startParams | .copyParams => False
  | _ => True

/-- A call that stores parameters has nothing of that ahead before it returns. -/
def Settling (state : System) (thread : Tid) : Prop :=
  (∃ request, (state.stage thread).calling = some request ∧ request.stores) ∧
    (state.code thread).Until Op.ends Op.settles

/-- The calls return. `stream` stores what `m_currParams` has, a Camera is made while
`m_run` is not set, the camera is started when the open sessions have the width and
height, and no start-up shortens the shutter speed of a call that is about to return. -/
structure Propagates (state : System) (thread : Tid) (choice : Choice) (operation : Op) : Prop where
  accepted : Accepted state thread choice operation
  streams : ∀ given params, (state.stage thread).calling = some (.stream given) →
    operation = .storeParams params →
    withMeasured 0 params = withMeasured 0 state.world.g.currParams
  makes : ∀ given, (state.stage thread).calling = some (.newCamera given) →
    (∃ params, operation = .storeParams params) ∨ (∃ camera, operation = .initParams camera) →
    state.world.g.run = false
  starts : operation = .resetState → Sized state.world state.stage
  setters : ∀ setter params, operation = .setControl setter → ¬thread.isPython →
    state.world.kcParams = some params → (∃ other, Settling state other) →
    (setter.apply params state.world.controls).1 = params

/-! ## Parameters that agree -/

/-- The parameters agree, but for the measured framerate and the shutter speed. -/
def Alike (current params : KcParams) : Prop :=
  withShutter 0 (withMeasured 0 params) = withShutter 0 (withMeasured 0 current)

/-- Parameters that agree have one width and height. -/
theorem Alike.size {current params : KcParams} (alike : Alike current params) :
    frameSize params = frameSize current := by
  have same : withShutter 0 (withMeasured 0 params) = withShutter 0 (withMeasured 0 current) :=
    alike
  exact (congrArg frameSize same :)

/-- A measurement of the framerate does not count. -/
theorem Alike.measured {current params : KcParams} (fps : ℚ) (alike : Alike current params) :
    Alike current (withMeasured fps params) :=
  alike

/-- Nor does a shutter speed that was limited. -/
theorem Alike.shutter {current params : KcParams} (speed : ℚ) (alike : Alike current params) :
    Alike current (withShutter speed params) :=
  alike

/-- A start leaves the width and height. -/
theorem frameSize_limitFramerate (params : KcParams) :
    frameSize (limitFramerate params) = frameSize params := by
  unfold limitFramerate kcSetMinMaxFramerate
  split <;> dsimp only <;> split <;> first | rfl | (split <;> rfl)

/-- An assignment leaves the width and height. -/
theorem Assigned.size {accepted : Bool} {current params : KcParams}
    (assigned : Assigned accepted current params) : frameSize params = frameSize current := by
  obtain ⟨state, after, name, value, rfl, stored, rfl⟩ := assigned
  cases name with
  | parameter parameter =>
      simp only [CameraState.store, Stored.generic.injEq] at stored
      rw [← stored.1]
      have same := storeMember_rest state parameter (limitValue state.params parameter value)
      exact Prod.ext (congrArg Rest.width same) (congrArg Rest.height same)
  | mode =>
      simp only [CameraState.store] at stored
      split at stored
      · split at stored
        · cases stored
          rfl
        · cases stored
      · cases stored
  | other =>
      cases stored
      rfl

/-! ## Sessions -/

section

variable {condition : System → Tid → Choice → Op → Prop} {state next : System} {thread : Tid}
  {choice : Choice} {operation : Op} {world : World} {response : operation.Resp}
  {phases : Tid → CallPhase}

/-- The life of a session has reached `app`. -/
def Phase.opened : Phase → Prop
  | .unborn | .begun | .constructed => False
  | _ => True

/-- Only sessions that were opened have options. -/
structure Opened (world : World) (stages : Tid → Stage) : Prop where
  app : ∀ index, world.app = some index → (stages (.video index)).phase.opened
  options : ∀ index, (world.options index).isSome → (stages (.video index)).phase.opened

/-- A session that was opened stays so. -/
theorem Turn.opened (turn : Turn condition state thread choice operation world response)
    {index : Nat} (before : (state.stage (.video index)).phase.opened) :
    (update state.stage thread ((state.stage thread).after operation response)
      (.video index)).phase.opened := by
  by_cases own : Tid.video index = thread
  · subst own
    rw [Function.update_self]
    have allowed := turn.allowed
    by_cases moves : Mark.life ∈ operation.marks
    · cases operation with
      | endCall request reply => exact absurd allowed.1 (by simp)
      | construct =>
          obtain ⟨_, phase, _⟩ := allowed
          simp [phase, Phase.opened] at before
      | «begin» =>
          obtain ⟨_, phase⟩ := allowed
          simp [phase, Phase.opened] at before
      | setRun | useApp | takeCapture | readLoop => exact before
      | publishApp | stopped | clearApp | destruct | exit => trivial
      | _ => simp [Op.marks] at moves
    · have shares : (state.stage (.video index)).Shares _ .life := turn.shares moves
      rwa [shares.1]
  · rwa [Function.update_of_ne own]

/-- Each operation keeps `app` and the options with sessions that were opened. -/
theorem Opened.step (turn : Turn condition state thread choice operation world response)
    (opened : Opened state.world state.stage) :
    Opened world (update state.stage thread ((state.stage thread).after operation response)) where
  app index found := by
    rcases (Op.run_threads turn.executed).app with same | ⟨rfl, after⟩ | ⟨_, after⟩
    · exact turn.opened (opened.app index (same ▸ found))
    · obtain ⟨video, _⟩ := turn.allowed
      rw [after, Option.some.injEq] at found
      cases thread with
      | python _ => exact absurd rfl video
      | video other =>
          cases found
          simp [Tid.index, Phase.opened]
    · rw [after] at found
      cases found
  options index found := by
    rcases Op.run_options turn.executed with same | ⟨rfl, app, params, there, _, after⟩
    · exact turn.opened (opened.options index (same ▸ found))
    · by_cases own : index = app
      · subst own
        exact turn.opened (opened.app index there)
      · rw [after, Function.update_of_ne own] at found
        exact turn.opened (opened.options index found)

/-- In every run, only sessions that were opened have options. -/
theorem onlyOpened (reached : Runs condition state) : Opened state.world state.stage :=
  Runs.invariant Opened ⟨nofun, nofun⟩ (fun _ _ _ _ _ _ turn opened => opened.step turn) reached

/-- A session opens when its thread sets `app`. -/
theorem Turn.looping_before (turn : Turn condition state thread choice operation world response)
    {index : Nat} (looping : (update state.stage thread
      ((state.stage thread).after operation response) (.video index)).looping) :
    (state.stage (.video index)).looping ∨
      state.world.options index = none ∧ operation = .publishApp := by
  by_cases own : Tid.video index = thread
  · subst own
    rw [Function.update_self] at looping
    have allowed := turn.allowed
    by_cases moves : Mark.life ∈ operation.marks
    · cases operation with
      | endCall request reply => exact absurd allowed.1 (by simp)
      | publishApp =>
          obtain ⟨_, phase⟩ := allowed
          refine .inr ⟨?_, rfl⟩
          by_contra set
          have opened := (onlyOpened turn.reached).options index (Option.isSome_iff_ne_none.mpr set)
          simp [phase, Phase.opened] at opened
      | construct =>
          obtain ⟨_, phase, _⟩ := allowed
          simp only [Stage.after] at looping
          split at looping <;> simp [phase] at looping
      | setRun => exact .inl looping
      | useApp =>
          obtain ⟨_, published, unthrown⟩ := allowed
          exact .inl ⟨published, looping.2.1, unthrown⟩
      | takeCapture | readLoop => exact .inl allowed.2
      | «begin» | stopped | clearApp | destruct | exit => simp at looping
      | _ => simp [Op.marks] at moves
    · obtain ⟨phase, _, left, threw⟩ : (state.stage (.video index)).Shares _ .life :=
        turn.shares moves
      obtain ⟨published, stays, unthrown⟩ := looping
      exact .inl ⟨phase ▸ published, left ▸ stays, threw ▸ unthrown⟩
  · rw [Function.update_of_ne own] at looping
    exact .inl looping

/-- The sessions keep the width and height while the parameters do. -/
theorem Sized.kept (turn : Turn condition state thread choice operation world response)
    (size : ∀ params, world.kcParams = some params →
      ∃ old, state.world.kcParams = some old ∧ frameSize params = frameSize old)
    (sized : Sized state.world state.stage) :
    Sized world (update state.stage thread ((state.stage thread).after operation response)) := by
  intro params index found after looping options
  obtain ⟨old, before, same⟩ := size params after
  have was (looped : (state.stage (.video index)).looping)
      (there : state.world.options index = some found) : found = frameSize params := by
    rw [same]
    exact sized old index found before looped there
  rcases Op.run_options turn.executed with kept | ⟨rfl, app, current, _, there, set⟩
  · rw [kept] at options
    rcases turn.looping_before looping with before | ⟨none, _⟩
    · exact was before options
    · simp [none] at options
  · rcases turn.looping_before looping with looped | ⟨_, publishes⟩
    · by_cases own : index = app
      · subst own
        rw [set, Function.update_self, Option.some.injEq] at options
        rw [before, Option.some.injEq] at there
        rw [same, there, ← options]
        rfl
      · rw [set, Function.update_of_ne own] at options
        exact was looped options
    · cases publishes

/-- Which operations change the width and height. -/
def Op.resizes : Op → Bool
  | .storeParams _ | .initParams _ | .setMode => true
  | _ => false

/-- An operation that is not said to resize leaves the width and height. -/
theorem Turn.size_kept (turn : Turn condition state thread choice operation world response)
    (sound : world.fault = none) (other : operation.resizes = false) (params : KcParams)
    (after : world.kcParams = some params) :
    ∃ old, state.world.kcParams = some old ∧ frameSize params = frameSize old := by
  cases turn.params with
  | measured quiet same =>
      obtain ⟨old, fps, before, rfl⟩ := same.params params after
      exact ⟨old, before, rfl⟩
  | failed fault => simp [sound] at fault
  | missed same | stored same | initialised same | sized same => simp [same, Op.resizes] at other
  | reset same before found =>
      rw [after, Option.some.injEq] at found
      exact ⟨_, before, by rw [found]; rfl⟩
  | @tuned setter old same before found =>
      rw [after, Option.some.injEq] at found
      obtain ⟨speed, changed⟩ := setter.apply_params old state.world.controls
      exact ⟨old, before, by rw [found, changed]; rfl⟩
  | started same before found =>
      rw [after, Option.some.injEq] at found
      exact ⟨_, before, by rw [found, frameSize_limitFramerate]⟩
  | copied same before found =>
      rw [after, Option.some.injEq] at found
      exact ⟨_, before, by rw [found]⟩

/-! ## Calls -/

/-- The call has stored parameters that `m_currParams` does not have yet. -/
def CallPhase.pending (phase : CallPhase) : Prop :=
  phase.progress = .stored ∨ phase.progress = .resized ∨ phase.progress = .restarted

/-- How far the parameters have come, by the phases of the calls. -/
structure Propagated (state : System) (phases : Tid → CallPhase) : Prop where
  pointed : Pointed state.world phases
  alike : (∃ thread, (phases thread).pending) ∨
    state.world.ParamsAre (Alike state.world.g.currParams)
  applied : ∀ thread, (phases thread).progress = .applied → state.world.ParamsAre fun params =>
    withMeasured 0 state.world.g.currParams = withMeasured 0 params
  sized : state.world.fault = none → state.world.g.run → Sized state.world state.stage ∨
    ∃ thread, (phases thread).progress = .resized

/-- A call that is accepted comes to its end with nothing pending. -/
theorem Move.ends_applied {request : Request} {reply : Reply} {response : Unit}
    (move : Move Propagates state next phases thread choice (.endCall request reply) response) :
    ¬(phases thread).pending := by
  intro pending
  obtain ⟨called, _, returns⟩ := move.admits
  obtain ⟨stored, there, stores⟩ := move.inStep.storing thread (by
    rcases pending with same | same | same <;> simp [CallPhase.hasStored, same])
  rw [called, Option.some.injEq] at there
  subst there
  rcases returns stores with ⟨message, same⟩ | applied
  · exact move.turn.admitted.accepted stores message same
  · simp [CallPhase.pending, applied] at pending

/-- What is pending stays so until it is started or copied. -/
theorem Move.pending_kept
    (move : Move Propagates state next phases thread choice operation response) {other : Tid}
    (pending : (phases other).pending) :
    (update phases thread ((phases thread).after operation response) other).pending ∨
      operation = .startParams ∨ operation = .copyParams := by
  by_cases own : other = thread
  · subst own
    rw [Function.update_self]
    have admitted := move.admits
    cases operation with
    | startParams => exact .inr (.inl rfl)
    | copyParams => exact .inr (.inr rfl)
    | endCall request reply => exact absurd pending move.ends_applied
    | setMode => exact .inl (.inr (.inl rfl))
    | nextCall =>
        have idle : phases other = .idle := admitted
        simp [CallPhase.pending, idle, CallPhase.idle] at pending
    | newCamera | storeParams _ | setTimer | initParams _ =>
        simp [CallPhase.pending, admitted.1] at pending
    | createThread =>
        obtain ⟨_, progress | ⟨progress, _⟩⟩ := admitted <;>
          simp [CallPhase.pending, progress] at pending
    | resetState =>
        obtain ⟨_, progress | progress | progress⟩ := admitted
        · simp [CallPhase.pending, progress] at pending
        · exact .inl (by simp [CallPhase.pending, progress])
        · exact .inl (by simp [CallPhase.pending, progress])
    | readRun =>
        left
        simp only [CallPhase.after]
        split
        · exact .inr (.inr rfl)
        · exact pending
    | _ => exact .inl pending
  · rw [Function.update_of_ne own]
    exact .inl pending

/-- A start and a copy leave the same parameters in both places. -/
theorem Turn.copies (turn : Turn condition state thread choice operation world response)
    (copies : operation = .startParams ∨ operation = .copyParams) :
    world.ParamsAre (world.g.currParams = ·) := by
  intro sound params after
  cases turn.params with
  | failed fault => simp [sound] at fault
  | started _ _ found current | copied _ _ found current =>
      rw [after, Option.some.injEq] at found
      rw [current, found]
  | measured quiet => rcases copies with rfl | rfl <;> cases quiet
  | missed same | stored same | initialised same | sized same | reset same | tuned same =>
      rcases copies with rfl | rfl <;> cases same

/-- `stream` stores what `m_currParams` has. -/
theorem Move.streams {params given : KcParams} {response : Unit}
    (move : Move Propagates state next phases thread choice (.storeParams params) response)
    (pointed : Pointed state.world phases)
    (called : (phases thread).request = some (.stream given)) :
    next.world.ParamsAre fun params =>
      withMeasured 0 next.world.g.currParams = withMeasured 0 params := by
  intro _ found after
  rw [move.inStep.calling] at called
  rcases move.stores pointed with gone | ⟨_, _, _, stored, current⟩
  · simp [gone] at after
  · rw [stored, Option.some.injEq] at after
    rw [current, ← after]
    exact (move.turn.admitted.streams given params called rfl).symm

/-- Some call still has to copy its parameters, or `m_currParams` has them. -/
theorem Propagated.alike_next
    (move : Move Propagates state next phases thread choice operation response)
    (propagated : Propagated state phases) :
    (∃ other, (update phases thread ((phases thread).after operation response) other).pending) ∨
      next.world.ParamsAre (Alike next.world.g.currParams) := by
  have turn := move.turn
  by_cases copies : operation = .startParams ∨ operation = .copyParams
  · refine .inr fun sound params after => ?_
    rw [turn.copies copies sound params after]
    rfl
  · rcases propagated.alike with ⟨other, pending⟩ | alike
    · exact .inl ⟨other, (move.pending_kept pending).resolve_right copies⟩
    · by_cases stores : ∃ params, operation = .storeParams params
      · obtain ⟨params, rfl⟩ := stores
        obtain ⟨_, request, called, stores⟩ := move.admits
        cases request with
        | stream given =>
            refine .inr fun sound found after => ?_
            exact congrArg (withShutter 0) (move.streams propagated.pointed called sound found
              after).symm
        | newCamera _ | setAttr _ | rejected _ | record _ =>
            refine .inl ⟨thread, ?_⟩
            simp [CallPhase.pending, called, Request.storing]
        | _ => cases stores
      · by_cases sets : operation = .setMode
        · subst sets
          exact .inl ⟨thread, by simp [CallPhase.pending]⟩
        right
        have before := alike turn.running
        intro sound params after
        cases turn.params with
        | measured quiet same =>
            obtain ⟨old, fps, there, rfl⟩ := same.params params after
            rw [same.current]
            exact (before old there).measured fps
        | failed fault => simp [sound] at fault
        | missed same | stored same => exact absurd ⟨_, same⟩ stores
        | initialised _ found current =>
            rw [current, found params after]
            rfl
        | sized same => exact absurd same sets
        | reset same there found current =>
            rw [after, Option.some.injEq] at found
            rw [current, found]
            exact (before _ there).shutter _
        | @tuned setter old same there found current =>
            rw [after, Option.some.injEq] at found
            obtain ⟨speed, changed⟩ := setter.apply_params old state.world.controls
            rw [current, found, changed]
            exact (before old there).shutter speed
        | started same | copied same => simp [same] at copies

/-- The parameters of the call are applied. -/
def CallPhase.done (phase : CallPhase) : Prop :=
  phase.progress = .applied ∧ phase.request.isSome

/-- A call whose parameters are applied neither stores nor copies any before it returns. -/
theorem CallPhase.done.closed {phase : CallPhase} (done : phase.done)
    (admitted : phase.admits operation) (goesOn : ¬operation.ends) :
    operation.settles ∧ ∀ response, (phase.after operation response).done := by
  obtain ⟨applied, called⟩ := done
  cases operation with
  | endCall request reply => exact absurd trivial goesOn
  | nextCall =>
      have idle : phase = .idle := admitted
      simp [idle, CallPhase.idle] at applied
  | newCamera | initParams _ | storeParams _ | resetState | startParams | copyParams | setMode
  | setTimer => simp [applied] at admitted
  | createThread | readRun => exact ⟨trivial, fun response => by simp [CallPhase.done, applied, called]⟩
  | _ => exact ⟨trivial, fun response => ⟨applied, called⟩⟩

/-- So says its code. -/
theorem Move.settling (move : Move condition state next phases thread choice operation response)
    {other : Tid} (applied : (phases other).progress = .applied) : Settling state other := by
  obtain ⟨request, called, stores⟩ :=
    move.inStep.storing other (by simp [CallPhase.hasStored, applied])
  refine ⟨⟨request, move.inStep.calling other ▸ called, stores⟩, ?_⟩
  have closed (phase : CallPhase) (operation : Op) (done : phase.done)
      (admitted : applying.admits phase operation) (goesOn : ¬operation.ends) :
      operation.settles ∧ ∀ response, (applying.after phase operation response).done :=
    done.closed admitted goesOn
  exact Prog.Leads.until closed (move.phased other) ⟨applied, by simp [called]⟩

/-- While a call's parameters are applied, no other operation writes any but a setter of a
video thread. -/
theorem Move.applied_alone
    (move : Move condition state next phases thread choice operation response) {other : Tid}
    (applied : (phases other).progress = .applied) (writes : operation.writesParams) :
    ¬thread.isPython ∧ ∃ setter, operation = .setControl setter := by
  have allowed := move.turn.allowed
  have called := move.inStep.called other (by simp [applied])
  have mine (gil : .gil ∈ state.held thread) : (phases thread).progress = .applied := by
    rw [← move.sole gil called (by simp [applied])]
    exact applied
  have here (gil : .gil ∈ state.held thread) : (phases thread).request.isSome := by
    rw [← move.sole gil called (by simp [applied])]
    exact called
  have admitted := move.admits
  cases operation with
  | setControl setter =>
      refine ⟨fun python => ?_, setter, rfl⟩
      obtain ⟨gil, _⟩ := allowed.1 python
      rcases admitted with none | ⟨progress, _⟩
      · simpa [none] using here gil
      · simp [mine gil] at progress
  | storeParams _ | initParams _ => simp [mine allowed.2.1] at admitted
  | setMode | resetShutter | startParams | copyParams => simp [mine allowed.2.1] at admitted
  | _ => cases writes

/-- How a call comes to have its parameters applied. -/
theorem CallPhase.applied_before {phase : CallPhase} (admitted : phase.admits operation)
    (applied : (phase.after operation response).progress = .applied) :
    phase.progress = .applied ∨ (operation = .startParams ∨ operation = .copyParams) ∨
      ∃ params given, operation = .storeParams params ∧ phase.request = some (.stream given) := by
  cases operation with
  | startParams => exact .inr (.inl (.inl rfl))
  | copyParams => exact .inr (.inl (.inr rfl))
  | storeParams params =>
      obtain ⟨_, request, called, stores⟩ := admitted
      cases request with
      | stream given => exact .inr (.inr ⟨params, given, rfl, called⟩)
      | _ => simp [called, Request.storing] at applied
  | nextCall | endCall _ _ | initParams _ | setMode | setTimer => simp [idle] at applied
  | newCamera => cases response <;> simp at applied
  | resetState | createThread =>
      simp only [after] at applied
      split at applied <;> simp_all
  | readRun =>
      simp only [after] at applied
      split at applied
      · cases applied
      · exact .inl applied
  | _ => exact .inl applied

/-- A call whose parameters are applied still finds them in both places. -/
theorem Propagated.applied_next
    (move : Move Propagates state next phases thread choice operation response)
    (propagated : Propagated state phases) (other : Tid)
    (applied : (update phases thread ((phases thread).after operation response) other).progress =
      .applied) :
    next.world.ParamsAre fun params =>
      withMeasured 0 next.world.g.currParams = withMeasured 0 params := by
  have copied (copies : operation = .startParams ∨ operation = .copyParams) :
      next.world.ParamsAre fun params =>
        withMeasured 0 next.world.g.currParams = withMeasured 0 params := by
    intro sound params after
    rw [move.turn.copies copies sound params after]
  -- What was applied before stays so.
  have kept (before : (phases other).progress = .applied) :
      next.world.ParamsAre fun params =>
        withMeasured 0 next.world.g.currParams = withMeasured 0 params := by
    intro sound params after
    have same := propagated.applied other before move.turn.running
    by_cases writes : operation.writesParams
    · obtain ⟨video, setter, rfl⟩ := move.applied_alone before writes
      cases move.turn.params with
      | failed fault => simp [sound] at fault
      | @tuned setter old operation_eq there found current =>
          cases operation_eq
          have unchanged := move.turn.admitted.setters _ old rfl video there
            ⟨other, move.settling before⟩
          rw [after, Option.some.injEq, unchanged] at found
          rw [current, found]
          exact same old there
      | measured quiet => cases quiet
      | missed other | stored other | initialised other | sized other | reset other
      | started other | copied other => cases other
    · cases move.turn.params with
      | measured _ measured =>
          obtain ⟨old, fps, there, rfl⟩ := measured.params params after
          rw [measured.current]
          exact same old there
      | failed fault => simp [sound] at fault
      | missed other | stored other | initialised other | sized other | reset other
      | tuned other | started other | copied other => simp [other, Op.writesParams] at writes
  by_cases own : other = thread
  · subst own
    rw [Function.update_self] at applied
    rcases CallPhase.applied_before move.admits applied with
      before | copies | ⟨params, given, rfl, called⟩
    · exact kept before
    · exact copied copies
    · exact move.streams propagated.pointed called
  · rw [Function.update_of_ne own] at applied
    exact kept applied

/-- While the camera runs, a call whose new width and height the sessions may lack goes on
to restart it. -/
theorem Move.resized_kept
    (move : Move Propagates state next phases thread choice operation response)
    (running : state.world.g.run) (starts : operation ≠ .resetState) {other : Tid}
    (resized : (phases other).progress = .resized) :
    (update phases thread ((phases thread).after operation response) other).progress =
      .resized := by
  by_cases own : other = thread
  · subst own
    rw [Function.update_self]
    have admitted := move.admits
    cases operation with
    | nextCall =>
        have idle : phases other = .idle := admitted
        simp [idle, CallPhase.idle] at resized
    | endCall request reply => exact absurd (.inr (.inl resized)) move.ends_applied
    | resetState => exact absurd rfl starts
    | readRun =>
        have answer : response = state.world.g.run := by
          have executed := move.turn.executed
          simp only [Op.run, Option.some.injEq, Prod.mk.injEq] at executed
          exact executed.2.symm
        simp [answer, running, resized]
    | newCamera | storeParams _ | setTimer | initParams _ | setMode | startParams | createThread
    | copyParams => simp [resized] at admitted
    | _ => exact resized
  · rwa [Function.update_of_ne own]

/-- What a call stores while the camera runs has the width and height that the parameters
had, or the call goes on to restart it. -/
theorem Move.stores_size {params : KcParams} {response : Unit}
    (move : Move Propagates state next phases thread choice (.storeParams params) response)
    (propagated : Propagated state phases) (running : state.world.g.run) :
    ((phases thread).after (.storeParams params) response).progress = .resized ∨
      ∀ found, next.world.kcParams = some found →
        ∃ old, state.world.kcParams = some old ∧ frameSize found = frameSize old := by
  have gil := move.turn.allowed.2.1
  obtain ⟨before, request, called, stores⟩ := move.admits
  have calling := move.inStep.calling thread
  rw [called] at calling
  have size (same : ∀ old, state.world.kcParams = some old →
      state.world.cameraParams = some old → frameSize params = frameSize old) :
      ∀ found, next.world.kcParams = some found →
        ∃ old, state.world.kcParams = some old ∧ frameSize found = frameSize old := by
    intro found after
    rcases move.stores propagated.pointed with gone | ⟨old, there, current, stored, _⟩
    · simp [gone] at after
    · rw [stored, Option.some.injEq] at after
      exact ⟨old, there, after ▸ same old there current⟩
  cases request with
  | newCamera given =>
      have halted := move.turn.admitted.makes given calling.symm (.inl ⟨_, rfl⟩)
      simp [halted] at running
  | record given => exact .inl (by simp [called, Request.storing])
  | setAttr given =>
      exact .inr <| size fun old _ current =>
        (move.turn.admitted.accepted _ old calling.symm current).size
  | rejected given =>
      exact .inr <| size fun old _ current =>
        (move.turn.admitted.accepted _ old calling.symm current).elim
  | stream given =>
      refine .inr <| size fun old there _ => ?_
      have same := congrArg frameSize (move.turn.admitted.streams given params calling.symm rfl)
      rcases propagated.alike with ⟨other, pending⟩ | alike
      · -- Only this thread is in a call, and it has stored nothing so far.
        have own : other = thread := by
          refine move.sole gil (move.inStep.called other ?_) ?_ <;>
            rcases pending with same | same | same <;> simp [same]
        subst own
        simp [CallPhase.pending, before] at pending
      · exact same.trans (alike move.turn.running old there).size.symm
  | _ => cases stores

/-- The sessions have the width and height, or a call goes on to restart the camera. -/
theorem Propagated.sized_next
    (move : Move Propagates state next phases thread choice operation response)
    (propagated : Propagated state phases) (sound : next.world.fault = none)
    (running : next.world.g.run) :
    Sized next.world next.stage ∨
      ∃ other, (update phases thread ((phases thread).after operation response) other).progress =
        .resized := by
  have turn := move.turn
  rw [move.stage]
  by_cases starts : operation = .resetState
  · subst starts
    exact .inl <| Sized.kept turn (turn.size_kept sound rfl) (turn.admitted.starts rfl)
  have ran : state.world.g.run := by
    rcases (Op.run_threads turn.executed).run with same | ⟨reset, _⟩ | ⟨_, halted⟩
    · exact same ▸ running
    · exact absurd reset starts
    · simp [halted] at running
  rcases propagated.sized turn.running ran with sized | ⟨other, resized⟩
  · by_cases resizes : operation.resizes
    · cases operation with
      | setMode => exact .inr ⟨thread, by simp⟩
      | storeParams params =>
          rcases move.stores_size propagated ran with resized | size
          · exact .inr ⟨thread, by rwa [Function.update_self]⟩
          · exact .inl <| Sized.kept turn size sized
      | initParams camera =>
          obtain ⟨_, given, called⟩ := move.admits
          rw [move.inStep.calling] at called
          have halted := turn.admitted.makes given called (.inr ⟨camera, rfl⟩)
          simp [halted] at ran
      | _ => cases resizes
    · exact .inl <| Sized.kept turn (turn.size_kept sound (by simpa using resizes)) sized
  · exact .inr ⟨other, move.resized_kept ran starts resized⟩

/-- One operation, for all that is known of the parameters. -/
theorem Propagated.step
    (move : Move Propagates state next phases thread choice operation response)
    (propagated : Propagated state phases) :
    Propagated next (update phases thread ((phases thread).after operation response)) where
  pointed := propagated.pointed.step move
  alike := propagated.alike_next move
  applied := propagated.applied_next move
  sized := propagated.sized_next move

/-- A step that leaves world and stages leaves what is known. -/
theorem Propagated.quiet (propagated : Propagated state phases)
    (world : next.world = state.world) (stage : next.stage = state.stage) :
    Propagated next phases := by
  obtain ⟨pointed, alike, applied, sized⟩ := propagated
  constructor <;> rw [world]
  · exact pointed
  · exact alike
  · exact applied
  · rw [stage]
    exact sized

/-- At first there is nothing to propagate. -/
theorem propagated_initial : Propagated .initial fun _ => .idle where
  pointed := pointed_initial
  alike := .inr fun _ _ found => by cases found
  applied _ applied := by cases applied
  sized _ running := by cases running

end

/-! ## Runs -/

/-- Whenever a call that stores parameters returns, `m_currParams` and the sessions have
them. -/
theorem applied_of_propagates (state : System) (reached : Runs Propagates state) (thread : Tid)
    (params : KcParams) (returning : Returning state thread) (sound : state.world.fault = none)
    (found : state.world.cameraParams = some params) : Applied state params := by
  obtain ⟨phases, phased, inStep, propagated⟩ := reached.phased Propagated propagated_initial
    (fun _ _ _ world stage _ propagated => propagated.quiet world stage)
    (fun _ _ _ _ _ _ _ move propagated => propagated.step move)
  obtain ⟨request, reply, current, stores, returns⟩ := returning
  have allowed := (reached.disciplined.follows thread).allowed semantics discipline thread current
  have applied : (phases thread).progress = .applied := by
    rcases (phased.admits current).2.2 stores with ⟨message, same⟩ | applied
    · exact absurd same (returns message)
    · exact applied
  -- No other thread is in a call, as this one has the interpreter lock.
  have alone {other : Tid} {progress : Applying} (there : (phases other).progress = progress)
      (begun : progress ≠ .before) (lock : progress ≠ .waiting) : progress = .applied := by
    have called := inStep.called other (by rwa [there])
    have held := reached.disciplined.promised other .gil
      (.inl ⟨inStep.calling other ▸ called, by simp [inStep.unreleased other (by rwa [there])]⟩)
    have same := reached.disciplined.toLocked.exclusive held allowed.2.1
    rw [← there, same, applied]
  have pointed : state.world.kcParams = some params := by
    obtain ⟨camera, there⟩ : ∃ camera, state.world.camera = some camera := by
      cases there : state.world.camera with
      | none => simp [World.cameraParams, there] at found
      | some camera => exact ⟨camera, rfl⟩
    rcases propagated.pointed.pointed camera there with led | ⟨other, made⟩
    · simpa [World.cameraParams, World.kcParams, there, led] using found
    · cases alone made (by simp) (by simp)
  refine ⟨propagated.applied thread applied sound params pointed, fun running => ?_⟩
  rcases propagated.sized sound running with sized | ⟨other, resized⟩
  · exact fun index size looping options => sized params index size pointed looping options
  · cases alone resized (by simp) (by simp)

/-- `Camera()` and `record(framerate=10)`, which returns while the video thread is behind
its setters. -/
def slowRecording : List (Event Tid Choice) :=
  calls (.newCamera someParams) 25 ++ calls (.record (withFramerate 10 someParams)) 17 ++
    turns (.video 0) 14 {}

/-- The calls are those of `slowRecording`, the first session is the only one, and no
start-up changes the shutter speed. -/
def propagatesBy (state : System) (thread : Tid) (choice : Choice) (operation : Op) : Bool :=
  acceptedBy [(someParams, someParams), (someParams, withFramerate 10 someParams)] state thread
      choice operation &&
    match operation with
    | .storeParams _ => !state.world.g.run && (state.stage thread).calling.all fun request =>
        match request with
        | .stream _ => false
        | _ => true
    | .initParams _ => !state.world.g.run
    | .resetState => (state.stage (.video 0)).phase ≠ .published
    | .setControl setter => state.world.kcParams.all fun params =>
        (setter.apply params state.world.controls).1 = params
    | _ => true

/-- What the computable test of the run admits propagates. -/
theorem propagates_of_propagatesBy {state : System} {thread : Tid} {choice : Choice}
    {operation : Op} (moved : OnlyMoved [.python 0, .video 0] state)
    (check : propagatesBy state thread choice operation) :
    Propagates state thread choice operation := by
  simp only [propagatesBy, Bool.and_eq_true] at check
  obtain ⟨accepted, propagates⟩ := check
  constructor
  · refine accepted_of_acceptedBy ?_ accepted
    simp only [List.mem_cons, List.not_mem_nil, or_false]
    rintro pair (rfl | rfl)
    · exact parsed_empty someParams
    · exact parsed_framerate 10 someParams
  · rintro given params called rfl
    simp [called] at propagates
  · rintro given called (⟨params, rfl⟩ | ⟨camera, rfl⟩)
    · simp only [Bool.and_eq_true, Bool.not_eq_true'] at propagates
      exact propagates.1
    · simpa using propagates
  · rintro rfl params index size _ looping _
    by_cases first : index = 0
    · subst first
      exact absurd looping.1 (of_decide_eq_true propagates)
    · have idle := moved (.video index) (by simpa using first)
      rw [idle] at looping
      cases looping.1
  · rintro setter params rfl _ found _
    rw [found] at propagates
    exact of_decide_eq_true propagates

/-- The call returns with a framerate of 10 in both places, and the session's size
is the parameters'. -/
theorem applied_of_propagates_record : ∃ state, Runs Propagates state ∧
    Returning state (.python 0) ∧ state.world.options 0 = some (640, 480) ∧
    Applied state (withFramerate 10 someParams) := by
  have passed : (checkedRun [.python 0, .video 0] propagatesBy .initial slowRecording).any
      fun state => state.world.fault = none ∧
        (state.code (.python 0)).current =
          some (.endCall (.record (withFramerate 10 someParams)) (.streamer 0)) ∧
        state.world.options 0 = some (640, 480) ∧
        state.world.cameraParams = some (withFramerate 10 someParams) := by
    decide +kernel
  obtain ⟨state, reached, there⟩ := exists_checkedRun Propagates (by
    intro state thread choice operation moved check
    exact propagates_of_propagatesBy moved check) passed
  obtain ⟨sound, current, options, params⟩ := of_decide_eq_true there
  have returning : Returning state (.python 0) := ⟨_, _, current, rfl, by simp⟩
  exact ⟨state, reached, returning, options,
    applied_of_propagates state reached _ _ returning sound params⟩

/-- `stream(framerate=10)` leaves 15 in `m_currParams`. -/
theorem applied_lost_to_stream : ¬∀ state, Runs Accepted state → ∀ thread params,
    Returning state thread → state.world.fault = none → state.world.cameraParams = some params →
    Applied state params := by
  intro claim
  have passed : (checkedRun [.python 0]
      (acceptedBy [(someParams, withFramerate 15 someParams),
        (withFramerate 15 someParams, withFramerate 10 someParams)]) .initial
      (calls (.newCamera (withFramerate 15 someParams)) 27 ++
        calls (.stream (withFramerate 10 someParams)) 7)).any fun state =>
      state.world.fault = none ∧
        (state.code (.python 0)).current =
          some (.endCall (.stream (withFramerate 10 someParams)) (.streamer 0)) ∧
        state.world.g.currParams.framerate = 15 ∧
        state.world.cameraParams = some (withFramerate 10 someParams) := by
    decide +kernel
  obtain ⟨state, reached, there⟩ := exists_checkedRun Accepted (by
    intro state thread choice operation _ check
    refine accepted_of_acceptedBy ?_ check
    simp only [List.mem_cons, List.not_mem_nil, or_false]
    rintro pair (rfl | rfl)
    · exact parsed_framerate 15 someParams
    · exact parsed_framerate 10 (withFramerate 15 someParams)) passed
  obtain ⟨sound, current, copied, params⟩ := of_decide_eq_true there
  have applied := claim state reached _ _ ⟨_, _, current, rfl, by simp⟩ sound params
  have same : state.world.g.currParams.framerate = 10 := congrArg KcParams.framerate applied.current
  simp [copied] at same

end KCamera
