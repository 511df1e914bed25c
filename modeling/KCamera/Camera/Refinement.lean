import KCamera.Camera.Parse
import KCamera.Engine.Objects
import KCamera.Engine.Parameters
import KCamera.Engine.Stage

/-!
# The calls and the engine's requests

The engine has a call as a request with the parameters that it leaves behind. A call
that nobody disturbs does to the parameters, `m_currParams` and the controls what its
request does. A restart is left out: it waits for the video thread.
-/

namespace KCamera

open Machine KCamera.Module

/-! ## Requests that run alone -/

section

variable {world : World} {tuning : Tuning} {thread : Tid} {choice : Choice}

/-- What the engine's functions refer to behind `g_params` is there. -/
structure World.Furnished (world : World) : Prop where
  record : ∀ list, world.g.record = some list → (world.lists list).isSome
  stream : ∀ streamer, world.streamObject = some streamer → (world.streamers streamer).isSome

/-- The tuning is a matter of a few fields. -/
theorem World.Tuned.congr {next : World} (tuned : world.Tuned tuning)
    (sound : next.fault = world.fault) (camera : next.camera = world.camera)
    (pointer : next.params = world.params) (params : next.kcParams = world.kcParams)
    (current : next.g.currParams = world.g.currParams) (controls : next.controls = world.controls) :
    next.Tuned tuning where
  sound := sound.trans tuned.sound
  pointed := by rw [camera, pointer, tuned.pointed]
  params := params.trans tuned.params
  current := current.trans tuned.current
  controls := controls.trans tuned.controls

/-- The Camera keeps another Streamer. -/
theorem World.Tuned.kept (tuned : world.Tuned tuning) (streamer : StreamerId) :
    (world.onCamera fun camera => { camera with streamerObject := some streamer }).Tuned
      tuning := by
  have agree : Agree world _ .tuning := world.onCamera_agree
    (fun camera => { camera with streamerObject := some streamer }) (by decide) fun _ => rfl
  refine tuned.congr ?_ ?_ agree.2.1 (Agree.kcParams agree) agree.1 ?_ <;>
    (unfold World.onCamera; split <;> rfl)

/-- Parameters are stored, and nothing that calls refer to changes. -/
theorem World.Furnished.onCamera (furnished : world.Furnished) (params : KcParams) :
    (world.onCamera fun camera => { camera with params }).Furnished := by
  have stored : Agree world _ .streamers := world.storeParams_agree params (by decide)
  constructor
  · have record : Agree world _ .attached := world.storeParams_agree params (by decide)
    have lists : Agree world _ .lists := world.storeParams_agree params (by decide)
    intro list attached
    rw [record] at attached
    rw [lists.1]
    exact furnished.record list attached
  · intro streamer object
    rw [stored.1]
    obtain ⟨camera, found, present, live, same⟩ := World.onCamera_streamObject object
    exact furnished.stream streamer (by simpa [World.streamObject, present, live] using same)

/-- A Streamer is made for the attached record, which is there. -/
theorem World.Tuned.newStreamer (tuned : world.Tuned tuning)
    (attached : ∀ list, world.g.record = some list → (world.lists list).isSome) (origin : Origin) :
    (world.newStreamer origin).1.Tuned tuning := by
  cases record : world.g.record with
  | none =>
      refine tuned.congr ?_ ?_ ?_ ?_ ?_ ?_ <;>
        simp [World.newStreamer, record, World.setStreamer, World.kcParams]
  | some list =>
      obtain ⟨found, live⟩ := Option.isSome_iff_exists.mp (attached list record)
      refine tuned.congr ?_ ?_ ?_ ?_ ?_ ?_ <;>
        simp [World.newStreamer, record, live, World.setStreamer, World.kcParams]

/-- A record that is there is stopped and detached. -/
theorem World.Tuned.stopRecord (tuned : world.Tuned tuning)
    (attached : ∀ list, world.g.record = some list → (world.lists list).isSome) :
    world.stopRecord.Tuned tuning ∧ world.stopRecord.g.record = none ∧
      world.stopRecord.g.stopping = world.g.stopping := by
  cases record : world.g.record with
  | none => simpa [World.stopRecord, record] using tuned
  | some list =>
      obtain ⟨found, live⟩ := Option.isSome_iff_exists.mp (attached list record)
      have stopped : world.stopRecord =
          { (world.setList list { found with recording := 0 }).note list .ended with
            g.record := none } := by
        simp [World.stopRecord, record, live, World.detach, World.setList]
      rw [stopped]
      exact ⟨tuned.congr rfl rfl rfl rfl rfl rfl, rfl, rfl⟩

/-- A list is made for the parameters that are there. -/
theorem World.Tuned.allocRecord (tuned : world.Tuned tuning) :
    world.allocRecord.1.Tuned tuning ∧ world.allocRecord.1.g.stopping = world.g.stopping ∧
      ∀ list, world.allocRecord.1.g.record = some list →
        (world.allocRecord.1.lists list).isSome := by
  unfold World.allocRecord
  simp only [tuned.params]
  refine ⟨tuned.congr rfl rfl rfl rfl rfl rfl, rfl, ?_⟩
  rintro list ⟨⟩
  simp [World.setList]

/-- An operation that goes on, and the rest of the program. -/
theorem alone_perform_bind {α : Type} {operation : Op} {next : World} {response : operation.Resp}
    {rest : operation.Resp → Code α} {held : List Mutex} (sound : world.fault = none)
    (executed : operation.run thread choice world = some (next, response)) :
    Code.alone (Code.perform operation >>= rest) thread choice world held =
      (rest response).alone thread choice next held := by
  simp [Code.alone, Op.exec, sound, executed]

/-- `camera_stream` behind its parse. -/
theorem cameraStream_alone (tuned : world.Tuned tuning) (furnished : world.Furnished)
    (params : KcParams) :
    ∃ next streamer, (Code.cameraStream params).alone thread choice world [.gil] =
      some (next, [.gil], .streamer streamer) ∧ next.Tuned { tuning with params } := by
  have stored := tuned.stored params
  have furnished := furnished.onCamera params
  rw [Code.cameraStream, alone_perform_bind tuned.sound rfl]
  generalize (world.onCamera fun camera => { camera with params }) = middle at stored furnished ⊢
  rw [alone_perform_bind stored.sound rfl]
  cases object : (middle.camera.bind middle.cameras).bind Camera.streamerObject with
  | some streamer =>
      refine ⟨middle, streamer, ?_, stored⟩
      simp [Code.alone, Op.exec, Op.run, stored.sound, furnished.stream streamer object]
  | none =>
      have made := stored.newStreamer furnished.record .stream
      refine ⟨_, (middle.newStreamer .stream).2, ?_, made.kept (middle.newStreamer .stream).2⟩
      simp [Code.alone, Op.exec, Op.run, stored.sound, made.sound]

/-- `kcStart` when no session is stopping. The record is not its business. -/
theorem kcStart_alone (tuned : world.Tuned tuning) (settled : world.g.stopping = false) :
    ∃ next, Code.kcStart.alone thread choice world [.gil] = some (next, [.gil], ()) ∧
      next.Tuned ⟨limitFramerate tuning.params, limitFramerate tuning.params, tuning.controls⟩ ∧
      next.g.record = world.g.record ∧ next.lists = world.lists := by
  have reset : world.resetState.Tuned tuning := tuned.congr rfl rfl rfl rfl rfl rfl
  have record : Agree world.resetState _ .attached :=
    world.resetState.setParams_agree (limitFramerate tuning.params) (by decide)
  have lists : Agree world.resetState _ .lists :=
    world.resetState.setParams_agree (limitFramerate tuning.params) (by decide)
  have started := reset.started
  have sound : (world.resetState.setParams (limitFramerate tuning.params)).fault = none :=
    started.sound
  have created (begun : World) : (begun.createThread choice.spawns).fault = begun.fault ∧
      (begun.createThread choice.spawns).g.record = begun.g.record ∧
      (begun.createThread choice.spawns).lists = begun.lists := by
    unfold World.createThread
    split <;> exact ⟨rfl, rfl, rfl⟩
  let begun : World := { world.resetState.setParams (limitFramerate tuning.params) with
    g.currParams := limitFramerate tuning.params }
  refine ⟨begun.createThread choice.spawns, ?_, ?_, (created begun).2.1.trans record,
    (created begun).2.2.trans lists.1⟩
  · simp [Code.kcStart, Code.alone, Prog.acquire, Op.exec, Op.run, tuned.sound, settled,
      reset.sound, reset.params, sound, begun]
  · refine started.congr (created begun).1 ?_ ?_ ?_ ?_ ?_ <;>
      (unfold World.createThread; split <;> rfl)

/-- `kcStopRecord`, also when there is no record. -/
theorem kcStopRecord_alone (tuned : world.Tuned tuning) (furnished : world.Furnished) :
    ∃ next, Code.kcStopRecord.alone thread choice world [.gil] = some (next, [.gil], ()) ∧
      next.Tuned tuning ∧ next.g.record = none ∧ next.g.stopping = world.g.stopping := by
  obtain ⟨stopped, detached, same⟩ := tuned.stopRecord furnished.record
  refine ⟨world.stopRecord, ?_, stopped, detached, same⟩
  simp [Code.kcStopRecord, Code.alone, Prog.acquire, Op.exec, Op.run, tuned.sound]

/-- A program that ends, and what follows it. -/
theorem alone_bind_of {α β : Type} {code : Code α} {next : World} {value : α} {held held' : List Mutex}
    (executed : code.alone thread choice world held = some (next, held', value))
    (rest : α → Code β) : Code.alone (code >>= rest) thread choice world held =
      (rest value).alone thread choice next held' := by
  have executed : Prog.alone (fun operation => operation.exec thread choice) code world held =
    some (next, held', value) := executed
  rw [Code.alone, Prog.alone_bind, executed]
  rfl

/-- The second half of `camera_record`, when there is no record. -/
theorem startRecording_alone (tuned : world.Tuned tuning) (detached : world.g.record = none)
    (settled : world.g.stopping = false) :
    ∃ next streamer, Code.startRecording.alone thread choice world [.gil] =
      some (next, [.gil], .streamer streamer) ∧
      next.Tuned ⟨limitFramerate tuning.params, limitFramerate tuning.params, tuning.controls⟩ := by
  obtain ⟨made, still, live⟩ := tuned.allocRecord
  have allocates : Code.kcStartRecord.alone thread choice world [.gil] =
      some (world.allocRecord.1, [.gil], some world.allocRecord.2) := by
    simp [Code.kcStartRecord, Code.alone, Prog.acquire, Op.exec, Op.run, tuned.sound, detached]
  obtain ⟨begun, (starts : Code.kcStart.alone thread choice _ [.gil] = _), tuned', record, lists⟩ :=
    kcStart_alone made (still.trans settled)
  have attached : ∀ list, begun.g.record = some list → (begun.lists list).isSome := by
    intro list attached
    rw [lists]
    exact live list (record ▸ attached)
  have bound := tuned'.newStreamer attached (.record world.allocRecord.2)
  refine ⟨_, (begun.newStreamer (.record world.allocRecord.2)).2, ?_, bound⟩
  rw [Code.startRecording, alone_bind_of allocates, alone_bind_of starts,
    alone_perform_bind tuned'.sound rfl]
  rfl

/-- `camera_record` behind its parse. -/
theorem cameraRecord_alone (tuned : world.Tuned tuning) (furnished : world.Furnished)
    (settled : world.g.stopping = false) (params : KcParams) :
    ∃ next streamer, (Code.cameraRecord params).alone thread choice world [.gil] =
      some (next, [.gil], .streamer streamer) ∧
      next.Tuned ⟨limitFramerate params, limitFramerate params, tuning.controls⟩ := by
  have stored := tuned.stored params
  have furnished := furnished.onCamera params
  have threads : Agree world _ .threads := world.storeParams_agree params (by decide)
  have settled := threads.2.1.trans settled
  rw [Code.cameraRecord, alone_perform_bind tuned.sound rfl]
  generalize (world.onCamera fun camera => { camera with params }) = middle
    at stored furnished settled ⊢
  rw [alone_perform_bind stored.sound rfl]
  cases record : middle.g.record with
  | none =>
      obtain ⟨next, streamer, executed, tuned'⟩ := startRecording_alone stored record settled
      exact ⟨next, streamer, by simpa using executed, tuned'⟩
  | some list =>
      obtain ⟨bare, stops, tuned, detached, same⟩ := kcStopRecord_alone stored furnished
      obtain ⟨next, streamer, executed, tuned'⟩ :=
        startRecording_alone tuned detached (same.trans settled)
      refine ⟨next, streamer, ?_, tuned'⟩
      simpa using (alone_bind_of stops fun _ => Code.startRecording).trans executed

/-- A call whose arguments are rejected stores what was parsed before. -/
theorem rejected_alone (tuned : world.Tuned tuning) (params : KcParams) :
    ∃ next, (Code.serve (.rejected params)).alone thread choice world [.gil] =
      some (next, [.gil], .error "") ∧ next.Tuned { tuning with params } := by
  refine ⟨_, ?_, tuned.stored params⟩
  rw [Code.serve, alone_perform_bind tuned.sound rfl]
  rfl

end

/-! ## Calls -/

namespace Module

open CameraState

/-- The request for a parse that has come to its end. -/
def Outcome.request (accepted : KcParams → Request) (params : KcParams) : Outcome → Option Request
  | .returned => some (accepted params)
  | .raised => some (.rejected params)
  | .undefined => none

/-- The request that the engine has of a call; there is none when nothing is stored. -/
def Call.request (camera : CameraState) : Call → Option Request
  | .stream arguments =>
      (camera.parseArgs arguments).2.request .stream (camera.parseArgs arguments).1.params
  | .record arguments =>
      (camera.parseArgs arguments).2.request .record (camera.parseArgs arguments).1.params
  | .setAttr name value =>
      match camera.store name value with
      | .generic stored _ => some (.setAttr stored.params)
      | .undefined | .refused => none

/-- `record` finds no session stopping; an assignment needs no restart and has a framerate
to divide by. -/
def Call.GoesAlone (camera : CameraState) : Call → Prop
  | .stream _ => True
  | .record _ => camera.stopping = false
  | .setAttr name value => ∀ stored accepted, camera.store name value = .generic stored accepted →
      stored.restart = false ∧ stored.params.framerate ≠ 0

section

variable {camera : CameraState} {world : World} {thread : Tid} {choice : Choice}

/-- A parse changes parameters only. -/
theorem parseArgs_tuning (camera : CameraState) (arguments : Arguments) :
    (camera.parseArgs arguments).1.tuning =
      { camera.tuning with params := (camera.parseArgs arguments).1.params } := by
  obtain ⟨params, resObject, modeObject, same⟩ := parseArgs_frame camera arguments
  rw [same]
  rfl

/-- So does the store of an assignment. -/
theorem store_tuning {name : Attribute} {value : PyValue} {stored : CameraState} {accepted : Bool}
    (found : camera.store name value = .generic stored accepted) :
    stored.tuning = { camera.tuning with params := stored.params } := by
  cases name with
  | parameter parameter =>
      simp only [store, storeMember, Stored.generic.injEq] at found
      obtain ⟨rfl, -⟩ := found
      split <;> rfl
  | mode =>
      cases value with
      | str text =>
          simp only [store] at found
          split at found
          · cases found
            rfl
          · cases found
      | _ => cases found
  | other =>
      cases found
      rfl

/-- What an assignment without a restart leaves is what the engine's `kcUpdateParams` leaves. -/
theorem sideEffects_tuning {stored : CameraState} (same : stored.restart = false) :
    (camera.sideEffects stored).tuning = stored.tuning.update := by
  have follows : (camera.sideEffects stored).tuning = stored.kcUpdateParams.tuning := by
    unfold sideEffects followSize
    split <;> rfl
  rw [follows, kcUpdateParams_tuning same]

/-- Alone, the engine's request does to parameters, `m_currParams` and controls what the
call does. -/
theorem Call.refined {call : Call} {request : Request} (found : call.request camera = some request)
    (goes : call.GoesAlone camera) (tuned : world.Tuned camera.tuning)
    (furnished : world.Furnished) (stopping : world.g.stopping = camera.stopping) :
    ∃ next reply, (Code.serve request).alone thread choice world [.gil] =
      some (next, [.gil], reply) ∧ next.Tuned (call.apply camera).1.tuning := by
  cases call with
  | stream arguments =>
      have parsed := parseArgs_tuning camera arguments
      simp only [Call.request] at found
      cases outcome : (camera.parseArgs arguments).2 with
      | returned =>
          rw [outcome] at found
          cases found
          obtain ⟨next, streamer, executed, tuned'⟩ := cameraStream_alone tuned furnished
            (camera.parseArgs arguments).1.params
          exact ⟨next, _, executed, parsed ▸ tuned'⟩
      | raised =>
          rw [outcome] at found
          cases found
          obtain ⟨next, executed, tuned'⟩ := rejected_alone tuned
            (camera.parseArgs arguments).1.params
          exact ⟨next, _, executed, parsed ▸ tuned'⟩
      | undefined =>
          rw [outcome] at found
          cases found
  | record arguments =>
      have parsed := parseArgs_tuning camera arguments
      simp only [Call.request] at found
      cases outcome : (camera.parseArgs arguments).2 with
      | returned =>
          rw [outcome] at found
          cases found
          obtain ⟨next, streamer, executed, tuned'⟩ := cameraRecord_alone tuned furnished
            (stopping.trans goes) (camera.parseArgs arguments).1.params
          refine ⟨next, _, executed, ?_⟩
          have after : (camera.camera_record arguments).1.tuning =
              ⟨limitFramerate (camera.parseArgs arguments).1.params,
                limitFramerate (camera.parseArgs arguments).1.params, camera.tuning.controls⟩ := by
            rw [camera_record_returned outcome]
            exact congrArg (Tuning.mk _ _) (congrArg Tuning.controls parsed)
          exact after ▸ tuned'
      | raised =>
          rw [outcome] at found
          cases found
          obtain ⟨next, executed, tuned'⟩ := rejected_alone tuned
            (camera.parseArgs arguments).1.params
          have after : (camera.camera_record arguments).1 = (camera.parseArgs arguments).1 := by
            unfold camera_record
            split
            · rename_i accepted parse
              rw [parse] at outcome
              cases outcome
            · rfl
          exact ⟨next, _, executed, (congrArg CameraState.tuning after).trans parsed ▸ tuned'⟩
      | undefined =>
          rw [outcome] at found
          cases found
  | setAttr name value =>
      simp only [Call.request] at found
      cases kept : camera.store name value with
      | undefined | refused =>
          rw [kept] at found
          cases found
      | generic stored accepted =>
          rw [kept] at found
          cases found
          obtain ⟨still, positive⟩ := goes stored accepted kept
          have parts := still
          unfold restart at parts
          simp only [decide_eq_false_iff_not, not_or, Bool.not_eq_true] at parts
          have after := store_tuning kept
          rw [show stored.current = camera.tuning.current from congrArg Tuning.current after] at parts
          have tunes : Tunes thread choice (Code.cameraSetAttr stored.params) [.gil] camera.tuning
              .none [.gil] (Tuning.update { camera.tuning with params := stored.params }) :=
            tunes_cameraSetAttr stored.params positive parts.1 parts.2 (by simp) (by simp)
          obtain ⟨next, executed, tuned'⟩ := tunes world tuned
          refine ⟨next, _, executed, ?_⟩
          simp only [Call.apply, camera_setAttr, kept]
          rw [sideEffects_tuning still, after]
          exact tuned'

/-- In the machine a request that nobody disturbs gets to what the call leaves. -/
theorem Call.gets {call : Call} {request : Request} {state : System} {next : Reply → Code Unit}
    (found : call.request camera = some request) (goes : call.GoesAlone camera)
    (tuned : state.world.Tuned camera.tuning) (furnished : state.world.Furnished)
    (stopping : state.world.g.stopping = camera.stopping)
    (code : state.code thread = Code.serve request >>= next)
    (undisturbed : Undisturbed thread [.gil] state) :
    ∃ world reply, Gets semantics thread state world [.gil] (next reply) ∧
      world.Tuned (call.apply camera).1.tuning := by
  obtain ⟨world, reply, (executed : (Code.serve request).alone thread {} _ [.gil] = _), tuned'⟩ :=
    Call.refined found goes tuned furnished stopping
  exact ⟨world, reply, alone_reach _ next code undisturbed executed, tuned'⟩

end

end Module

end KCamera
