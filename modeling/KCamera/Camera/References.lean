import KCamera.Engine.Facts
import KCamera.Engine.Objects

/-!
# References

The Camera keeps a Streamer that it does not own, and the engine keeps a pointer
to the Camera's parameters. What keeps them from outliving what they refer to is
that Streamers report their end to the Camera, that the Camera stops the engine
at its own, and the order in which Python gives them up.
-/

namespace KCamera

open Machine

open Function (update)

/-- The operations that go through `g_params`. -/
def Op.usesParams : Op → Bool
  | .startParams | .clearFps | .beginFrame _ | .changed _ | .setMode | .resetShutter | .copyParams
  | .setControl _ | .allocRecord | .setOptions => true
  | _ => false

/-- The Camera keeps no Streamer that is gone, and who is about to use the
parameters finds a Camera's. -/
structure RefersToLive (state : System) : Prop where
  object : ∀ streamer, state.world.streamObject = some streamer →
    (state.world.streamers streamer).isSome
  params : ∀ thread operation, state.world.fault = none →
    (state.code thread).current = some operation → operation.usesParams →
    state.world.kcParams.isSome

/-- `frame`, `stop` and the end of a live Streamer happen while there is a Camera;
a Camera ends when every video thread has left its loop or was thrown out of it;
and a Streamer with a record is not the Camera's when it ends. -/
def endsInOrder (state : System) (thread : Tid) (_ : Choice) : Op → Bool
  | .recordOf streamer =>
      (state.stage thread).calling.any Request.drives →
        (state.world.streamers streamer).any (fun found => found.record.isNone) →
        state.world.camera.isSome
  | .freeCamera => ∀ index < state.world.spawned,
      (state.stage (.video index)).left ∨ (state.stage (.video index)).threw
  | .freeStreamer streamer =>
      (state.world.streamers streamer).any (fun found => found.record.isSome) →
        state.world.streamObject ≠ some streamer
  | _ => true

/-- Every operation is one that `endsInOrder` admits. -/
def EndsInOrder (state : System) (thread : Tid) (choice : Choice) (operation : Op) : Prop :=
  endsInOrder state thread choice operation

/-! ## What a thread can count on -/

/-- What the stage of a thread says about Cameras and Streamers. -/
structure Standing (world : World) (stage : Stage) : Prop where
  /-- Who uses the parameters does so while there is a Camera. -/
  based : stage.founded → world.camera.isSome
  /-- A new Camera is not given back before it is set up. -/
  new : ∀ camera, stage.footing = .new camera →
    world.camera = some camera ∧ stage.released = false ∧ stage.calling.isSome
  /-- A Streamer has the list that it was seen with. -/
  self : ∀ streamer record, stage.self = some (streamer, record) →
    streamer < world.nextStreamer ∧
      ∀ found, world.streamers streamer = some found → found.record = record
  /-- The Camera does not keep a live Streamer that is about to go. -/
  closing : ∀ streamer, stage.closing = some streamer →
    streamer < world.nextStreamer ∧
      ∀ found, world.streamers streamer = some found → found.record = none →
        world.streamObject ≠ some streamer
  /-- A Streamer that was just made is there. -/
  made : ∀ streamer, stage.made = some streamer →
    stage.calling.isSome ∧ (stage.released = false → (world.streamers streamer).isSome)

section

variable {condition : System → Tid → Choice → Op → Prop} {state : System} {thread : Tid}
  {choice : Choice} {operation : Op} {world : World} {response : operation.Resp}

/-- Who changes Cameras or Streamers has the interpreter lock. -/
theorem Turn.objects_gil (turn : Turn condition state thread choice operation world response)
    (touched : .cameras ∈ operation.touches ∨ .streamers ∈ operation.touches) :
    .gil ∈ state.held thread := by
  have allowed := turn.allowed
  cases operation with
  | newCamera | freeCamera | initParams _ | keepStreamObject _ | streamCallback _ | newStreamer _
  | newLoader | freeStreamer _ | noteIndex _ _ | setStreamerShift _ _ | setStreamerDuration _ _
  | makeArray _ _ _ => exact allowed.2.1
  | _ => simp [Op.touches] at touched

/-- A Camera with the same Streamer. -/
theorem Agree.streamObject {next : World} (agree : Agree world next .cameras) :
    next.streamObject = world.streamObject := by
  obtain ⟨camera, _, objects⟩ := agree
  unfold World.streamObject
  rw [camera]
  cases present : world.camera with
  | none => rfl
  | some camera =>
      have same := objects camera
      cases found : world.cameras camera <;> cases found' : next.cameras camera <;>
        simp_all

/-- Identities of Streamers are only used up. -/
theorem Turn.nextStreamer_le (turn : Turn condition state thread choice operation world response) :
    state.world.nextStreamer ≤ world.nextStreamer := by
  rcases Op.run_nextStreamer turn.executed with same | ⟨more, _⟩ <;> omega

/-- A Streamer that is not new was there before, with the same list. -/
theorem Turn.streamer_before (turn : Turn condition state thread choice operation world response)
    {streamer : StreamerId} {found : Streamer} (old : streamer < state.world.nextStreamer)
    (live : world.streamers streamer = some found) :
    ∃ before, state.world.streamers streamer = some before ∧ found.record = before.record := by
  rcases Op.run_streamers turn.executed streamer with
    kept | ⟨before, after, record⟩ | ⟨fresh, _, _, _⟩ | ⟨_, gone⟩
  · exact ⟨found, kept ▸ live, rfl⟩
  · rw [live, Option.some.injEq] at after
    exact ⟨_, before, by rw [after, record]⟩
  · exact absurd (fresh ▸ old) (Nat.lt_irrefl _)
  · simp [gone] at live

/-- A Streamer is there until it is freed. -/
theorem Turn.streamer_kept (turn : Turn condition state thread choice operation world response)
    {streamer : StreamerId} (stays : operation ≠ .freeStreamer streamer)
    (live : (state.world.streamers streamer).isSome) : (world.streamers streamer).isSome := by
  rcases Op.run_streamers turn.executed streamer with
    kept | ⟨_, after, _⟩ | ⟨_, _, _, there⟩ | ⟨frees, _⟩
  · rwa [kept]
  · simp [after]
  · exact there
  · exact absurd frees stays

/-- Only `camera_stream` gives the Camera a Streamer to keep. -/
theorem Turn.object_before (turn : Turn condition state thread choice operation world response)
    {streamer : StreamerId} (other : ∀ kept, operation ≠ .keepStreamObject kept)
    (object : world.streamObject = some streamer) : state.world.streamObject = some streamer := by
  rcases Op.run_cameras turn.executed with agree | ⟨_, _, camera, _, cameras⟩ |
    ⟨_, _, camera, _, _⟩ | ⟨_, camera, _, cameras⟩ | ⟨same, _, _, _, _⟩ | ⟨_, _, _, _, before⟩
  · rwa [agree.streamObject] at object
  · simp [World.streamObject, camera, cameras] at object
  · simp [World.streamObject, camera] at object
  · have agree : Agree state.world { world with params := state.world.params } .cameras :=
      ⟨camera, rfl, cameras⟩
    rwa [← agree.streamObject]
  · exact absurd same (other _)
  · exact (before _ object).2

/-- The Camera changes when one is made or freed. -/
theorem Turn.camera_kept (turn : Turn condition state thread choice operation world response)
    (old : operation ≠ .newCamera) (stays : operation ≠ .freeCamera) :
    world.camera = state.world.camera := by
  rcases Op.run_cameras turn.executed with agree | ⟨created, _, _, _, _⟩ | ⟨freed, _, _, _, _⟩ |
    ⟨_, same, _, _⟩ | ⟨_, same, _, _, _⟩ | ⟨_, same, _, _, _⟩
  · exact agree.1
  · exact absurd created old
  · exact absurd freed stays
  · exact same
  · exact same
  · exact same

/-- What a thread knows of a Streamer stays true. -/
theorem self_kept (turn : Turn condition state thread choice operation world response)
    {streamer : StreamerId} {record : Option ListId}
    (known : streamer < state.world.nextStreamer ∧
      ∀ found, state.world.streamers streamer = some found → found.record = record) :
    streamer < world.nextStreamer ∧
      ∀ found, world.streamers streamer = some found → found.record = record := by
  refine ⟨Nat.lt_of_lt_of_le known.1 turn.nextStreamer_le, ?_⟩
  intro found live
  obtain ⟨before, there, record'⟩ := turn.streamer_before known.1 live
  rw [record', known.2 before there]

/-- The Camera is not given a Streamer that is about to go. -/
theorem closing_kept (turn : Turn condition state thread choice operation world response)
    {streamer : StreamerId} (other : ∀ kept, operation ≠ .keepStreamObject kept)
    (known : streamer < state.world.nextStreamer ∧
      ∀ found, state.world.streamers streamer = some found → found.record = none →
        state.world.streamObject ≠ some streamer) :
    streamer < world.nextStreamer ∧
      ∀ found, world.streamers streamer = some found → found.record = none →
        world.streamObject ≠ some streamer := by
  refine ⟨Nat.lt_of_lt_of_le known.1 turn.nextStreamer_le, ?_⟩
  intro found live record object
  obtain ⟨before, there, record'⟩ := turn.streamer_before known.1 live
  exact known.2 before there (record' ▸ record) (turn.object_before other object)

/-- What a stage knows while another thread moves. -/
theorem Standing.other (turn : Turn condition state thread choice operation world response)
    {other : Tid} (different : other ≠ thread) (standing : Standing state.world (state.stage other)) :
    Standing world (state.stage other) := by
  have self := fun streamer record same => self_kept turn (standing.self streamer record same)
  by_cases touched : .cameras ∈ operation.touches ∨ .streamers ∈ operation.touches
  · have away : ¬(state.stage other).holds .gil := fun holds =>
      different (turn.sole (turn.objects_gil touched) holds)
    refine ⟨?_, ?_, self, ?_, ?_⟩
    · rintro ⟨_, released, request, called, _⟩
      exact absurd (.inl ⟨by simp [called], by simp [released]⟩) away
    · intro camera new
      obtain ⟨_, released, calling⟩ := standing.new camera new
      exact absurd (.inl ⟨calling, by simp [released]⟩) away
    · intro streamer closing
      exact absurd (by simp [closing]) away
    · intro streamer made
      obtain ⟨calling, _⟩ := standing.made streamer made
      exact ⟨calling, fun released => absurd (.inl ⟨calling, by simp [released]⟩) away⟩
  · obtain ⟨cameras, streamers⟩ := not_or.mp touched
    have cameras : Agree state.world world .cameras := Op.run_agree turn.executed cameras
    obtain ⟨streamers, counted⟩ : Agree state.world world .streamers :=
      Op.run_agree turn.executed streamers
    refine ⟨?_, ?_, self, ?_, ?_⟩
    · rw [cameras.1]
      exact standing.based
    · rw [cameras.1]
      exact standing.new
    · rw [cameras.streamObject, streamers, counted]
      exact standing.closing
    · rw [streamers]
      exact standing.made

/-- The operations that change what a thread can count on. -/
def Op.grounds : Op → Bool
  | .nextCall | .endCall _ _ | .recordOf _ | .newStreamer _ | .newCamera | .initParams _
  | .freeCamera | .streamCallback _ | .freeRecord _ | .freeStreamer _ | .setTimer => true
  | _ => false

/-- What `Standing` reads of a stage. -/
def Stage.standing (stage : Stage) : Option Request × Bool × Footing ×
    Option (StreamerId × Option ListId) × Option StreamerId × Option StreamerId :=
  (stage.calling, stage.released, stage.footing, stage.self, stage.closing, stage.made)

/-- Few operations change what a stage says about Cameras and Streamers. -/
theorem Stage.after_standing (stage : Stage) (operation : Op) (response : operation.Resp)
    (quiet : operation.grounds = false) :
    (stage.after operation response).standing = stage.standing := by
  cases operation with
  | readStopping | hasRecord | lastRecordFrame | nextRecordFrame list | construct | dropFrame =>
      simp only [Stage.after]
      split <;> rfl
  | beginFrame capture => cases response <;> rfl
  | nextCall | endCall _ _ | recordOf _ | newStreamer _ | newCamera | initParams _ | freeCamera
  | streamCallback _ | freeRecord _ | freeStreamer _ | setTimer => cases quiet
  | _ => rfl

/-- What is said depends on that part of the stage only. -/
theorem Standing.congr {stage stage' : Stage} (same : stage'.standing = stage.standing)
    (standing : Standing world stage) : Standing world stage' := by
  simp only [Stage.standing, Prod.mk.injEq] at same
  obtain ⟨calling, released, footing, self, closing, made⟩ := same
  constructor
  · simpa only [Stage.founded, calling, released, footing, self] using standing.based
  · simpa only [calling, released, footing] using standing.new
  · simpa only [self] using standing.self
  · simpa only [closing] using standing.closing
  · simpa only [calling, released, made] using standing.made

/-- Operations that leave the thread's grounds alone keep its standing. -/
theorem Standing.quiet (turn : Turn condition state thread choice operation world response)
    (quiet : operation.grounds = false) (standing : Standing state.world (state.stage thread)) :
    Standing world (state.stage thread) := by
  have allowed := turn.allowed
  have camera : world.camera = state.world.camera := by
    refine turn.camera_kept ?_ ?_ <;> rintro rfl <;> cases quiet
  refine ⟨?_, ?_, fun streamer record same => self_kept turn (standing.self streamer record same),
    ?_, ?_⟩
  · rw [camera]
    exact standing.based
  · rw [camera]
    exact standing.new
  · intro streamer closing
    refine closing_kept turn ?_ (standing.closing streamer closing)
    rintro kept rfl
    obtain ⟨_, _, _, _, _, unclosed⟩ := allowed
    simp [unclosed] at closing
  · intro streamer made
    obtain ⟨calling, live⟩ := standing.made streamer made
    refine ⟨calling, fun released => turn.streamer_kept ?_ (live released)⟩
    rintro rfl
    cases quiet

/-- The Camera calls are made while there is a Camera. -/
theorem World.callable_ofCamera {request : Request} (callable : world.callable request)
    (camera : request.ofCamera) (old : ∀ params, request ≠ .newCamera params) :
    world.camera.isSome := by
  cases request with
  | newCamera params => exact absurd rfl (old params)
  | deleteCamera | setAttr _ | rejected _ | stream _ | record _ | loadEmpty | load _ =>
      exact callable
  | _ => cases camera

/-- Python calls only what it has references to. -/
theorem Turn.callable {request : Request}
    (turn : Turn condition state thread choice .nextCall world request) :
    state.world.callable request := by
  have executed := turn.executed
  simp only [Op.run] at executed
  split at executed
  · cases executed
  · split at executed
    · rename_i callable
      cases executed
      exact callable
    · cases executed

/-- What the thread itself knows after an operation. -/
theorem Standing.own (turn : Turn EndsInOrder state thread choice operation world response)
    (beyond : ∀ streamer, state.world.nextStreamer ≤ streamer →
      state.world.streamers streamer = none)
    (standing : Standing state.world (state.stage thread)) (sound : world.fault = none) :
    Standing world ((state.stage thread).after operation response) := by
  by_cases grounds : operation.grounds
  · have allowed := turn.allowed
    have executed := turn.executed
    have admitted := turn.admitted
    have self := fun streamer record same => self_kept turn (standing.self streamer record same)
    have closing (other : ∀ kept, operation ≠ .keepStreamObject kept) :=
      fun streamer same => closing_kept turn other (standing.closing streamer same)
    have made (stays : ∀ freed, operation ≠ .freeStreamer freed) :
        ∀ streamer, (state.stage thread).made = some streamer →
          (state.stage thread).calling.isSome ∧ ((state.stage thread).released = false →
            (world.streamers streamer).isSome) := by
      intro streamer made
      obtain ⟨calling, live⟩ := standing.made streamer made
      exact ⟨calling, fun released => turn.streamer_kept (stays streamer) (live released)⟩
    cases operation with
    | nextCall =>
        obtain ⟨_, idle, _⟩ := allowed
        have cameras : Agree state.world world .cameras := Op.run_agree executed (by simp [Op.touches])
        rw [idle]
        refine ⟨?_, ?_, by simp [Stage.idle], by simp [Stage.idle], by simp [Stage.idle]⟩
        · rintro ⟨footing, _, request, called, license⟩
          cases called
          have old : ∀ params, response ≠ Request.newCamera params := by
            rintro params rfl
            cases footing
          have camera : Request.ofCamera response := by simpa [Stage.idle] using license
          rw [cameras.1]
          exact state.world.callable_ofCamera turn.callable camera old
        · intro camera new
          dsimp only [Stage.after] at new
          split at new <;> cases new
    | endCall request reply => constructor <;> simp [Stage.idle]
    | recordOf streamer =>
        have value := result_eq executed
        cases live : state.world.streamers streamer with
        | none =>
            rw [live] at value
            simp [value, World.fail] at sound
        | some found =>
            simp only [Op.run, live, Option.some.injEq, Prod.mk.injEq] at executed
            obtain ⟨rfl, rfl⟩ := executed
            refine ⟨?_, standing.new, ?_, standing.closing, standing.made⟩
            · rintro ⟨footing, released, request, called, camera | ⟨drives, _, self⟩⟩
              · exact standing.based ⟨footing, released, request, called, .inl camera⟩
              · simp only [Stage.after, Option.some.injEq, Prod.mk.injEq] at called self
                have there : found.record.isNone := by simp [self.2]
                have called : (state.stage thread).calling.any Request.drives := by
                  simp [called, drives]
                simpa [EndsInOrder, endsInOrder, live, there, called] using admitted
            · intro other record same
              simp only [Stage.after, Option.some.injEq, Prod.mk.injEq] at same
              obtain ⟨rfl, rfl⟩ := same
              refine ⟨?_, by simp [live]⟩
              by_contra old
              simp [beyond streamer (Nat.le_of_not_lt old)] at live
    | newStreamer origin =>
        have cameras : Agree state.world world .cameras := Op.run_agree executed (by simp [Op.touches])
        refine ⟨?_, ?_, self, closing (by simp), ?_⟩
        · rw [cameras.1]
          exact standing.based
        · rw [cameras.1]
          exact standing.new
        · intro streamer made
          cases made
          exact ⟨allowed.2.2.1, fun _ => Op.run_newStreamer executed sound⟩
    | newCamera =>
        cases present : state.world.camera with
        | none =>
            simp only [Op.run, World.newCamera, present, Option.some.injEq, Prod.mk.injEq]
              at executed
            obtain ⟨rfl, rfl⟩ := executed
            obtain ⟨_, _, calling, _, released⟩ := allowed
            refine ⟨by simp, ?_, self, closing (by simp), standing.made⟩
            intro camera new
            simp only [Stage.after, Option.elim_some, Footing.new.injEq] at new
            exact ⟨congrArg some new, released, calling⟩
        | some camera =>
            simp only [Op.run, World.newCamera, present, Option.some.injEq, Prod.mk.injEq]
              at executed
            obtain ⟨rfl, rfl⟩ := executed
            exact ⟨by simp, by simp, self, closing (by simp), standing.made⟩
    | initParams camera =>
        obtain ⟨_, _, _, _, _, new⟩ := allowed
        obtain ⟨present, _, _⟩ := standing.new camera new
        refine ⟨?_, by simp, self, closing (by simp), made (by simp)⟩
        simp [turn.camera_kept (by simp) (by simp), present]
    | freeCamera => exact ⟨by simp, by simp, self, closing (by simp), made (by simp)⟩
    | streamCallback streamer =>
        obtain ⟨_, _, _, about, _⟩ := allowed
        have camera := turn.camera_kept (by simp) (by simp)
        refine ⟨?_, ?_, self, ?_, made (by simp)⟩
        · rw [camera]
          exact standing.based
        · rw [camera]
          exact standing.new
        · intro other same
          cases same
          refine ⟨(self _ _ about).1, ?_⟩
          intro found _ _ object
          exact (Op.run_streamCallback executed object).1 rfl
    | freeRecord list =>
        obtain ⟨_, _, _, ⟨_, streamer, about⟩, _⟩ := allowed
        have camera := turn.camera_kept (by simp) (by simp)
        refine ⟨?_, ?_, self, ?_, made (by simp)⟩
        · rw [camera]
          exact standing.based
        · rw [camera]
          exact standing.new
        · intro other same
          simp only [Stage.after, about, Option.map_some, Option.some.injEq] at same
          subst same
          obtain ⟨old, record⟩ := self _ _ about
          refine ⟨old, fun found live none => ?_⟩
          simp [record found live] at none
    | freeStreamer streamer =>
        obtain ⟨_, _, _, _, unmade, _⟩ := allowed
        have camera := turn.camera_kept (by simp) (by simp)
        refine ⟨?_, ?_, by simp, by simp, ?_⟩
        · rw [camera]
          rintro ⟨footing, released, request, called, license⟩
          refine standing.based ⟨footing, released, request, called, .inl ?_⟩
          simpa using license
        · rw [camera]
          exact standing.new
        · intro other made
          simp [unmade] at made
    | setTimer =>
        obtain ⟨_, _, _, settled, unreleased, _⟩ := allowed
        have camera := turn.camera_kept (by simp) (by simp)
        refine ⟨?_, ?_, self, closing (by simp), ?_⟩
        · rw [camera]
          rintro ⟨footing, _, request, called, license⟩
          exact standing.based ⟨footing, unreleased, request, called, license⟩
        · intro other new
          simp [settled] at new
        · intro other same
          obtain ⟨calling, live⟩ := made (by simp) other same
          exact ⟨calling, fun _ => live unreleased⟩
    | _ => cases grounds
  · have quiet : operation.grounds = false := by simpa using grounds
    exact (standing.quiet turn quiet).congr (Stage.after_standing _ _ _ quiet)

/-! ## What holds of all threads -/

/-- The references of the Camera, of the engine and of the threads are in order. -/
structure Referenced (world : World) (stages : Tid → Stage) : Prop where
  standing : world.fault = none → ∀ thread, Standing world (stages thread)
  beyond : ∀ streamer, world.nextStreamer ≤ streamer → world.streamers streamer = none
  object : ∀ streamer, world.streamObject = some streamer → (world.streamers streamer).isSome
  /-- `g_params` leads to the Camera unless that is new. -/
  pointed : ∀ camera, world.camera = some camera → (world.cameras camera).isSome ∧
    (world.params = some camera ∨ ∃ thread, (stages thread).footing = .new camera)
  /-- A video thread that is in its loop, or has yet to enter it, finds parameters. -/
  video : ∀ index < world.spawned, (stages (.video index)).left = false →
    (stages (.video index)).threw = false → world.kcParams.isSome

/-- There are parameters behind `g_params` while its Camera is there. -/
theorem World.kcParams_isSome {world : World} {camera : CameraId}
    (pointed : world.params = some camera) :
    world.kcParams.isSome = (world.cameras camera).isSome := by
  simp [World.kcParams, pointed]

/-- Who counts on the parameters finds them. -/
theorem Referenced.founded (referenced : Referenced state.world state.stage)
    (disciplined : Disciplined semantics discipline state) (sound : state.world.fault = none)
    (founded : (state.stage thread).founded) : state.world.kcParams.isSome := by
  obtain ⟨camera, present⟩ :=
    Option.isSome_iff_exists.mp ((referenced.standing sound thread).based founded)
  obtain ⟨live, pointed | ⟨other, new⟩⟩ := referenced.pointed camera present
  · rw [World.kcParams_isSome pointed, live]
  · obtain ⟨footing, unreleased, request, called, _⟩ := founded
    obtain ⟨_, released, calling⟩ := (referenced.standing sound other).new camera new
    have held : .gil ∈ state.held thread :=
      disciplined.promised thread .gil (.inl ⟨by simp [called], by simp [unreleased]⟩)
    have also : .gil ∈ state.held other :=
      disciplined.promised other .gil (.inl ⟨calling, by simp [released]⟩)
    rw [disciplined.toLocked.exclusive also held, footing] at new
    cases new

/-- Only the end of a Camera takes parameters away. -/
theorem Referenced.kcParams_kept
    (turn : Turn condition state thread choice operation world response)
    (referenced : Referenced state.world state.stage) (stays : operation ≠ .freeCamera)
    (before : state.world.kcParams.isSome) : world.kcParams.isSome := by
  have standing := referenced.standing turn.running thread
  cases pointer : state.world.params with
  | none => simp [World.kcParams, pointer] at before
  | some camera =>
      rw [World.kcParams_isSome pointer] at before
      rcases Op.run_cameras turn.executed with ⟨_, params, objects⟩ | ⟨_, _, _, params, cameras⟩ |
        ⟨freed, _, _, _, _⟩ | @⟨new, rfl, _, params, objects⟩ | ⟨_, _, params, alive, _⟩ |
        ⟨_, _, params, alive, _⟩
      · rw [World.kcParams_isSome (params.trans pointer)]
        have same := congrArg Option.isSome (objects camera)
        simpa [before] using same
      · rw [World.kcParams_isSome (params.trans pointer), cameras]
        by_cases same : camera = state.world.nextCamera
        · simp [same]
        · simpa [same] using before
      · exact absurd freed stays
      · obtain ⟨_, _, _, _, _, footing⟩ := turn.allowed
        obtain ⟨present, _, _⟩ := standing.new new footing
        rw [World.kcParams_isSome params]
        have same := congrArg Option.isSome (objects new)
        simpa [(referenced.pointed new present).1] using same
      · rw [World.kcParams_isSome (params.trans pointer), alive, before]
      · rw [World.kcParams_isSome (params.trans pointer), alive, before]

/-- The Camera's Streamer goes after the Camera has given it up. -/
theorem Referenced.object_step
    (turn : Turn EndsInOrder state thread choice operation world response)
    (referenced : Referenced state.world state.stage) (streamer : StreamerId)
    (object : world.streamObject = some streamer) : (world.streamers streamer).isSome := by
  have standing := referenced.standing turn.running thread
  have allowed := turn.allowed
  by_cases keeps : ∃ kept, operation = .keepStreamObject kept
  · obtain ⟨kept, rfl⟩ := keeps
    obtain ⟨_, _, _, made, unreleased, _⟩ := allowed
    obtain rfl := Op.run_keepStreamObject turn.executed object
    exact turn.streamer_kept (by simp) ((standing.made _ made).2 unreleased)
  · have before := turn.object_before (fun kept same => keeps ⟨kept, same⟩) object
    have live := referenced.object streamer before
    by_cases frees : operation = .freeStreamer streamer
    · subst frees
      have admitted := turn.admitted
      obtain ⟨_, _, _, closing, _, _⟩ := allowed
      obtain ⟨found, there⟩ := Option.isSome_iff_exists.mp live
      have listed : found.record.isSome := by
        cases record : found.record with
        | none => exact absurd before ((standing.closing streamer closing).2 found there record)
        | some list => rfl
      simp [EndsInOrder, endsInOrder, there, listed, before] at admitted
    · exact turn.streamer_kept frees live

/-- Identities that were not given out have no Streamer. -/
theorem Referenced.beyond_step
    (turn : Turn condition state thread choice operation world response)
    (referenced : Referenced state.world state.stage) (streamer : StreamerId)
    (beyond : world.nextStreamer ≤ streamer) : world.streamers streamer = none := by
  have absent := referenced.beyond streamer (Nat.le_trans turn.nextStreamer_le beyond)
  rcases Op.run_streamers turn.executed streamer with
    same | ⟨before, _, _⟩ | ⟨_, counted, _, _⟩ | ⟨_, gone⟩
  · rw [same, absent]
  · simp [absent] at before
  · rw [counted] at beyond
    exact absurd beyond (Nat.not_succ_le_self streamer)
  · exact gone

/-- A thread that is setting up a new Camera goes on to do so. -/
theorem Turn.new_kept (turn : Turn condition state thread choice operation world response)
    {camera : CameraId} (sets : operation ≠ .initParams camera) (stays : operation ≠ .freeCamera)
    (new : ∃ other, (state.stage other).footing = .new camera) :
    ∃ other, (update state.stage thread ((state.stage thread).after operation response)
      other).footing = .new camera := by
  obtain ⟨other, new⟩ := new
  refine ⟨other, ?_⟩
  by_cases same : other = thread
  · subst same
    rw [Function.update_self]
    have allowed := turn.allowed
    by_cases grounds : operation.grounds
    · cases operation with
      | nextCall =>
          obtain ⟨_, idle, _⟩ := allowed
          simp [idle, Stage.idle] at new
      | endCall request reply =>
          obtain ⟨_, _, _, _, _, _, _, _, _, _, settled⟩ := allowed
          exact absurd new (settled camera)
      | newCamera => simp [allowed.2.2.2.1] at new
      | initParams set =>
          obtain ⟨_, _, _, _, _, footing⟩ := allowed
          rw [footing, Footing.new.injEq] at new
          exact absurd (by rw [new]) sets
      | freeCamera => exact absurd rfl stays
      | recordOf _ | newStreamer _ | streamCallback _ | freeRecord _ | freeStreamer _ | setTimer =>
          exact new
      | _ => cases grounds
    · have kept := Stage.after_standing (state.stage other) operation response (by simpa using grounds)
      simp only [Stage.standing, Prod.mk.injEq] at kept
      rw [kept.2.2.1, new]
  · rw [Function.update_of_ne same, new]

/-- `g_params` leads to the Camera that there is, or a call is making it. -/
theorem Referenced.pointed_step
    (turn : Turn condition state thread choice operation world response)
    (referenced : Referenced state.world state.stage) (camera : CameraId)
    (present : world.camera = some camera) : (world.cameras camera).isSome ∧
      (world.params = some camera ∨
        ∃ other, (update state.stage thread ((state.stage thread).after operation response)
          other).footing = .new camera) := by
  by_cases creates : operation = .newCamera ∧ state.world.camera = none
  · obtain ⟨rfl, absent⟩ := creates
    have executed := turn.executed
    simp only [Op.run, World.newCamera, absent, Option.some.injEq, Prod.mk.injEq] at executed
    obtain ⟨rfl, rfl⟩ := executed
    cases present
    exact ⟨by simp, .inr ⟨thread, by simp⟩⟩
  · have standing := referenced.standing turn.running thread
    have frees : operation ≠ .freeCamera := by
      rintro rfl
      rw [result_eq turn.executed] at present
      unfold World.freeCamera at present
      split at present
      · rename_i absent
        simp [absent] at present
      · cases present
    have keeps (before : state.world.camera = some camera) (params : world.params = state.world.params)
        (sets : operation ≠ .initParams camera) : world.params = some camera ∨
          ∃ other, (update state.stage thread ((state.stage thread).after operation response)
            other).footing = .new camera := by
      rcases (referenced.pointed camera before).2 with points | new
      · exact .inl (params.trans points)
      · exact .inr (turn.new_kept sets frees new)
    rcases Op.run_cameras turn.executed with ⟨camera', params, objects⟩ | ⟨same, none, _, _, _⟩ |
      ⟨same, _, _, _, _⟩ | @⟨new, rfl, camera', params, objects⟩ | ⟨rfl, camera', params, alive, _⟩ |
      ⟨rfl, camera', params, alive, _⟩
    · have before := camera'.symm.trans present
      refine ⟨?_, ?_⟩
      · have same := congrArg Option.isSome (objects camera)
        simpa [(referenced.pointed camera before).1] using same
      · by_cases sets : operation = .initParams camera
        · subst sets
          have pointed : Agree { state.world with params := some camera } world .cameras := by
            rw [result_eq turn.executed]
            exact state.world.initParams_pointed camera (by simp) (by simp) (by simp)
          exact .inl pointed.2.1
        · exact keeps before params sets
    · exact absurd ⟨same, none⟩ creates
    · exact absurd same frees
    · obtain ⟨_, _, _, _, _, footing⟩ := turn.allowed
      have before := (standing.new new footing).1
      obtain rfl : new = camera :=
        Option.some.inj (before.symm.trans (camera'.symm.trans present))
      have same := congrArg Option.isSome (objects new)
      exact ⟨by simpa [(referenced.pointed new before).1] using same, .inl params⟩
    · have before := camera'.symm.trans present
      exact ⟨(alive camera).trans (referenced.pointed camera before).1,
        keeps before params (by simp)⟩
    · have before := camera'.symm.trans present
      exact ⟨(alive camera).trans (referenced.pointed camera before).1,
        keeps before params (by simp)⟩

/-- Who has left the loop or was thrown out of it does not come back. -/
theorem Turn.gone_kept (turn : Turn condition state thread choice operation world response)
    {index : Nat} (away : (state.stage (.video index)).left ∨ (state.stage (.video index)).threw) :
    (update state.stage thread ((state.stage thread).after operation response)
        (.video index)).left ∨
      (update state.stage thread ((state.stage thread).after operation response)
        (.video index)).threw := by
  by_cases same : .video index = thread
  · subst same
    rw [Function.update_self]
    have allowed := turn.allowed
    by_cases moves : operation.moves
    · cases operation with
      | endCall request reply => exact absurd allowed.1 (by simp)
      | construct =>
          cases response with
          | true => exact .inr rfl
          | false => exact away
      | useApp =>
          obtain ⟨_, _, threw⟩ := allowed
          simp only [threw, Bool.false_eq_true, or_false] at away
          exact .inl away
      | takeCapture | readLoop =>
          obtain ⟨_, _, left, threw⟩ := allowed
          simp [left, threw] at away
      | begin | setRun | publishApp | stopped | clearApp | destruct | exit => exact away
      | _ => cases moves
    · have kept := Stage.after_life (state.stage (.video index)) operation response
        (by simpa using moves)
      simp only [Stage.life, Prod.mk.injEq] at kept
      rwa [kept.2.2.1, kept.2.2.2]
  · rwa [Function.update_of_ne same]

/-- While a session goes on there are parameters for its thread. -/
theorem Referenced.video_step
    (turn : Turn EndsInOrder state thread choice operation world response)
    (referenced : Referenced state.world state.stage) (index : Nat) (created : index < world.spawned)
    (left : (update state.stage thread ((state.stage thread).after operation response)
      (.video index)).left = false)
    (threw : (update state.stage thread ((state.stage thread).after operation response)
      (.video index)).threw = false) : world.kcParams.isSome := by
  have before : ¬((state.stage (.video index)).left ∨ (state.stage (.video index)).threw) := by
    intro away
    rcases turn.gone_kept away with away | away
    · rw [left] at away
      cases away
    · rw [threw] at away
      cases away
  rcases (Op.run_threads turn.executed).spawned with same | ⟨rfl, _, more⟩
  · rw [same] at created
    have frees : operation ≠ .freeCamera := by
      rintro rfl
      have admitted := turn.admitted
      simp only [EndsInOrder, endsInOrder, decide_eq_true_eq] at admitted
      exact before (admitted index created)
    simp only [not_or, Bool.not_eq_true] at before
    exact referenced.kcParams_kept turn frees (referenced.video index created before.1 before.2)
  · obtain ⟨_, _, _, _, founded⟩ := turn.allowed
    exact referenced.kcParams_kept turn (by simp)
      (referenced.founded turn.disciplined turn.running founded)

/-- One operation, for all references. -/
theorem Referenced.step (turn : Turn EndsInOrder state thread choice operation world response)
    (referenced : Referenced state.world state.stage) :
    Referenced world
      (update state.stage thread ((state.stage thread).after operation response)) where
  standing sound other := by
    have standing := referenced.standing turn.running
    by_cases same : other = thread
    · subst same
      rw [Function.update_self]
      exact (standing other).own turn referenced.beyond sound
    · rw [Function.update_of_ne same]
      exact (standing other).other turn same
  beyond := referenced.beyond_step turn
  object := referenced.object_step turn
  pointed := referenced.pointed_step turn
  video := referenced.video_step turn

/-- At first there is nothing to refer to. -/
theorem referenced_initial : Referenced .initial fun _ => .idle where
  standing _ _ := by constructor <;> simp [Stage.idle]
  beyond _ _ := rfl
  object _ object := by simp [World.streamObject, World.initial] at object
  pointed _ present := by cases present
  video _ created := by simp [World.initial] at created

/-- Who uses the parameters counts on a Camera, or is in the loop of `event_loop`. -/
theorem allows_usesParams {stage : Stage} {held : List Mutex}
    (allowed : stage.allows thread held operation) (uses : operation.usesParams) :
    stage.founded ∨ ¬thread.isPython ∧ stage.looping := by
  cases operation with
  | startParams | changed _ | setMode | resetShutter | copyParams => exact .inl allowed.2.2
  | clearFps | setControl _ =>
      obtain ⟨python, video⟩ := allowed
      by_cases interpreter : thread.isPython
      · exact .inl (python interpreter).2
      · exact .inr ⟨interpreter, video interpreter⟩
  | allocRecord => exact .inl allowed.2.2.2.2.2.2.2.2
  | setOptions => exact .inr allowed
  | beginFrame capture =>
      obtain ⟨video, _, rfl⟩ := allowed
      exact .inr ⟨video, rfl, rfl, rfl⟩
  | _ => cases uses

end

/-- In runs that end Streamers, threads and Cameras in order, the Camera keeps no
Streamer that is gone and the parameters are those of a Camera. -/
theorem refersToLive_of_endsInOrder (state : System) (reached : Runs EndsInOrder state) :
    RefersToLive state := by
  have referenced : Referenced state.world state.stage := by
    refine Runs.invariant Referenced referenced_initial ?_ reached
    intro state thread choice operation world response turn referenced
    exact referenced.step turn
  have disciplined := reached.disciplined
  refine ⟨referenced.object, ?_⟩
  intro thread operation sound performs uses
  have allowed := (disciplined.follows thread).allowed semantics discipline _ performs
  rcases allows_usesParams allowed uses with founded | ⟨video, published, left, threw⟩
  · exact referenced.founded disciplined sound founded
  · cases thread with
    | python index => simp at video
    | video index =>
        have created := (life reached index).created (by simp [published])
        exact referenced.video index created left threw

/-- The Streamer and the Camera end, and there are others. -/
def twoLives : List (Event Tid Choice) :=
  calls (.newCamera someParams) 25 ++ calls (.stream someParams) 9 ++ calls (.delete 0) 19 ++
    calls .deleteCamera 17 ++ calls (.newCamera someParams) 25 ++ calls (.stream someParams) 9

/-- A Streamer and its Camera end, and others are made after them. -/
theorem refersToLive_of_endsInOrder_stream : ∃ state, Runs EndsInOrder state ∧ RefersToLive state ∧
    state.world.streamers 0 = none ∧ state.world.cameras 0 = none ∧
    state.world.streamObject = some 1 ∧ state.world.params = some 1 := by
  have passed : (checkedRun [.python 0] endsInOrder System.initial twoLives).any fun state =>
      (state.world.streamers 0).isNone ∧ (state.world.cameras 0).isNone ∧
        state.world.streamObject = some 1 ∧ state.world.params = some 1 := by
    decide +kernel
  obtain ⟨state, reached, there⟩ := exists_checkedRun EndsInOrder (fun _ _ _ _ _ check => check)
    passed
  obtain ⟨streamer, camera, streams, params⟩ := of_decide_eq_true there
  exact ⟨state, reached, refersToLive_of_endsInOrder state reached,
    Option.isNone_iff_eq_none.mp streamer, Option.isNone_iff_eq_none.mp camera, streams, params⟩

/-- A Streamer that `stream` made during a recording ends without a word to the Camera. -/
theorem refersToLive_lost_to_recording : ¬∀ state, Runs anyOperation state → RefersToLive state := by
  intro claim
  have passed : (run System.step System.initial
      (calls (.newCamera someParams) 25 ++ calls (.record someParams) 20 ++
        calls (.stream someParams) 9 ++ calls (.delete 1) 9)).any
      (fun state => state.world.streamObject = some 1 ∧ state.world.streamers 1 = none) := by
    decide +kernel
  obtain ⟨state, reached, test⟩ := exists_run passed
  obtain ⟨keeps, gone⟩ := of_decide_eq_true test
  have live := (claim state reached).object 1 keeps
  simp [gone] at live

end KCamera
