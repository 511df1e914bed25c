import KCamera.Engine.Operations

/-!
# What operations do

The shared state falls into parts, of which an operation touches few. For the
operations that do more than one thing there is one lemma that says what they
can do.
-/

namespace KCamera

/-- Parts of the shared state. -/
inductive Part where
  /-- Which video threads run, and what tells them to stop. -/
  | threads
  /-- The capture clock. -/
  | clock
  /-- The attached record. -/
  | attached
  | lists
  /-- Which lists were made. -/
  | numbering
  | readings
  | streamers
  /-- Where frames are, apart from lists. -/
  | frames
  /-- The live frame. -/
  | slot
  /-- When a live frame was asked for last. -/
  | timer
  /-- Which Camera there is, and the Streamer that it keeps. -/
  | cameras
  /-- How many Cameras there have been. -/
  | census
  /-- The parameters of the Cameras, and `m_currParams`. -/
  | tuning
  /-- The sizes of the sessions. -/
  | sizes
deriving DecidableEq, Repr

/-- Two worlds agree on a part. -/
def Agree (world next : World) : Part → Prop
  | .threads =>
      next.g.run = world.g.run ∧ next.g.stopping = world.g.stopping ∧
        next.g.thread = world.g.thread ∧ next.run = world.run ∧ next.app = world.app ∧
        next.spawned = world.spawned ∧ next.exited = world.exited
  | .clock =>
      next.g.pts = world.g.pts ∧ next.g.ptsOffset = world.g.ptsOffset ∧
        next.captured = world.captured
  | .attached => next.g.record = world.g.record
  | .lists => next.lists = world.lists ∧ next.freedLists = world.freedLists
  | .numbering => next.nextList = world.nextList ∧ next.recordings = world.recordings
  | .readings => next.readings = world.readings
  | .streamers => next.streamers = world.streamers ∧ next.nextStreamer = world.nextStreamer
  | .frames =>
      next.g.frame = world.g.frame ∧ next.arrays = world.arrays ∧ next.blocks = world.blocks ∧
        next.freed = world.freed
  | .slot => next.g.frame = world.g.frame
  | .timer => next.g.frameTimer = world.g.frameTimer
  | .cameras =>
      next.camera = world.camera ∧ next.params = world.params ∧
        ∀ camera, (next.cameras camera).map Camera.streamerObject =
          (world.cameras camera).map Camera.streamerObject
  | .census => next.nextCamera = world.nextCamera
  | .tuning =>
      next.g.currParams = world.g.currParams ∧ next.params = world.params ∧
        ∀ camera, (next.cameras camera).map Camera.params = (world.cameras camera).map Camera.params
  | .sizes => next.options = world.options

/-- The parts that an operation may change. -/
def Op.touches : Op → List Part
  | .initParams _ => [.attached, .readings, .cameras, .tuning]
  | .newCamera => [.cameras, .tuning, .census]
  | .freeCamera => [.cameras, .tuning]
  | .keepStreamObject _ | .streamCallback _ => [.cameras]
  | .storeParams _ | .startParams | .clearFps | .setMode | .resetShutter | .copyParams
  | .setControl _ => [.tuning]
  | .setOptions => [.sizes]
  | .resetState => [.threads, .clock, .frames, .slot, .timer]
  | .createThread | .stopCameraLoop _ | .clearRun _ _ | .setStopping | .stopped | .setRun
  | .publishApp | .clearApp | .exit => [.threads]
  | .dropFrame => [.attached, .readings, .frames, .slot]
  | .setTimer => [.timer]
  | .takeFrame => [.frames, .slot]
  | .copyBack _ | .freeArray _ => [.frames]
  | .beginFrame _ => [.clock, .frames, .slot, .tuning]
  | .append _ _ | .next _ => [.lists, .readings, .frames]
  | .allocRecord => [.attached, .lists, .numbering]
  | .stopRecord => [.attached, .lists, .readings]
  | .newStreamer _ | .freeStreamer _ | .noteIndex _ _ | .setStreamerShift _ _
  | .setStreamerDuration _ _ => [.streamers]
  | .newLoader => [.streamers, .lists, .numbering]
  | .load _ _ | .freeRecord _ => [.lists, .frames]
  | .makeArray _ _ _ => [.streamers, .readings, .frames]
  | .seek _ _ => [.lists, .readings]
  | .start _ | .saveNext _ | .setListShift _ _ | .setListDuration _ _ => [.lists]
  | _ => []

section Agree

variable {part : Part} {first second third : World}

/-- Every world agrees with itself. -/
theorem Agree.refl (world : World) (part : Part) : Agree world world part := by
  cases part <;> simp [Agree]

/-- Steps that leave a part alone leave it alone together. -/
theorem Agree.trans (left : Agree first second part) (right : Agree second third part) :
    Agree first third part := by
  cases part <;> simp_all [Agree]

end Agree

namespace World

variable (world : World) (part : Part)

/-- A fault is recorded and nothing else changes. -/
theorem fail_agree (fault : Fault) : Agree world (world.fail fault) part := by
  cases part <;> simp [Agree, fail]

/-- Cameras that change, but not in one field. -/
theorem map_update_field {Field : Type} (field : Camera → Field)
    (cameras : CameraId → Option Camera) (camera other : CameraId) (change : Camera → Camera)
    (keeps : ∀ found, field (change found) = field found) :
    (Function.update cameras camera ((cameras camera).map change) other).map field =
      (cameras other).map field := by
  by_cases same : other = camera
  · subst same
    simp only [Function.update_self, Option.map_map]
    congr 1
    funext found
    exact keeps found
  · rw [Function.update_of_ne same]

variable {part} in
/-- A store through `g_params` changes parameters only, of whichever Camera it leads
to. -/
theorem setParams_agree (params : KcParams) (tuning : part ≠ .tuning) :
    Agree world (world.setParams params) part := by
  unfold setParams
  split
  · exact .refl world part
  · cases part with
    | cameras =>
        exact ⟨rfl, rfl, fun other =>
          map_update_field Camera.streamerObject world.cameras _ other _ fun found => rfl⟩
    | tuning => exact absurd rfl tuning
    | _ => simp [Agree]

/-- `g_params` itself stays where it is. -/
theorem setParams_params (params : KcParams) : (world.setParams params).params = world.params := by
  unfold setParams
  split <;> rfl

variable {world} in
/-- What was stored through `g_params` is read back through it. -/
theorem setParams_kcParams {old : KcParams} (params : KcParams)
    (found : world.kcParams = some old) : (world.setParams params).kcParams = some params := by
  unfold kcParams setParams at *
  cases pointer : world.params with
  | none => simp [pointer] at found
  | some camera =>
      cases live : world.cameras camera with
      | none => simp [pointer, live] at found
      | some _ => simp [live]

variable {part} in
/-- A call's own Camera is known without `g_params`; its parameters are all that
changes. -/
theorem storeParams_agree (params : KcParams) (tuning : part ≠ .tuning) :
    Agree world (world.onCamera fun camera => { camera with params }) part := by
  unfold onCamera
  split
  · exact .refl world part
  · cases part with
    | cameras =>
        exact ⟨rfl, rfl, fun other =>
          map_update_field Camera.streamerObject world.cameras _ other _ fun found => rfl⟩
    | tuning => exact absurd rfl tuning
    | _ => simp [Agree]

variable {part} in
/-- Of a Camera only the Streamer that it keeps changes. -/
theorem onCamera_agree (change : Camera → Camera) (other : part ≠ .cameras)
    (keeps : ∀ found, (change found).params = found.params) :
    Agree world (world.onCamera change) part := by
  unfold onCamera
  split
  · exact .refl world part
  · cases part with
    | cameras => exact absurd rfl other
    | tuning =>
        exact ⟨rfl, rfl, fun other =>
          map_update_field Camera.params world.cameras _ other _ keeps⟩
    | _ => simp [Agree]

variable {part} in
/-- The Camera's end takes its parameters with it. -/
theorem freeCamera_agree (other : part ≠ .cameras) (tuning : part ≠ .tuning) :
    Agree world world.freeCamera part := by
  unfold freeCamera
  cases world.camera <;> cases part <;> simp_all [Agree]

variable {part} in
/-- A new Camera brings its parameters and is counted. -/
theorem newCamera_agree (other : part ≠ .cameras) (tuning : part ≠ .tuning)
    (census : part ≠ .census) : Agree world world.newCamera.1 part := by
  unfold newCamera
  cases world.camera <;> cases part <;> simp_all [Agree]

/-- An operation on the parameters fails without them. -/
theorem onParams_agree (change : KcParams → World) (same : ∀ params, Agree world (change params) part) :
    Agree world (match world.kcParams with
      | none => world.fail .freedCamera
      | some params => change params) part := by
  cases world.kcParams with
  | none => exact world.fail_agree part _
  | some params => exact same params

variable {part}

/-- An entry in a list's log of readings changes the log only. -/
theorem note_agree (list : ListId) (reading : Reading) (other : part ≠ .readings) :
    Agree world (world.note list reading) part := by
  cases part <;> simp_all [Agree, note]

/-- A new state of one list changes the lists only. -/
theorem setList_agree (list : ListId) (found : FrameList) (other : part ≠ .lists) :
    Agree world (world.setList list found) part := by
  cases part <;> simp_all [Agree, setList]

/-- A new state of one Streamer changes the Streamers only. -/
theorem setStreamer_agree (streamer : StreamerId) (found : Streamer) (other : part ≠ .streamers) :
    Agree world (world.setStreamer streamer found) part := by
  cases part <;> simp_all [Agree, setStreamer]

/-- Freed frames change the frames only. -/
theorem free_agree (frames : List KcFrame) (other : part ≠ .frames) :
    Agree world (world.free frames) part := by
  cases part <;> simp_all [Agree, free]

/-- Dropping `m_record` ends its log of readings. -/
theorem detach_agree (attached : part ≠ .attached) (readings : part ≠ .readings) :
    Agree world world.detach part := by
  unfold detach
  cases world.g.record <;> cases part <;> simp_all [Agree, note]

/-- A change to a list that exists, or a fault. -/
theorem onList_agree (list : ListId) (change : FrameList → FrameList) (other : part ≠ .lists) :
    Agree world (world.onList list change) part := by
  unfold onList
  cases world.lists list with
  | none => exact world.fail_agree part _
  | some found => exact world.setList_agree list _ other

/-- A change to a Streamer that exists, or a fault. -/
theorem onStreamer_agree (streamer : StreamerId) (change : Streamer → Streamer)
    (other : part ≠ .streamers) : Agree world (world.onStreamer streamer change) part := by
  unfold onStreamer
  cases world.streamers streamer with
  | none => exact world.fail_agree part _
  | some found => exact world.setStreamer_agree streamer _ other

/-- A copy is one more block; without memory there is a fault. -/
theorem copyFrame_agree (frame : KcFrame) (allocates : Bool) (other : part ≠ .frames) :
    Agree world (world.copyFrame frame allocates).1 part := by
  unfold copyFrame
  cases allocates <;> cases part <;> simp_all [Agree, fail]

/-- The measured framerate is stored with the parameters. -/
theorem measure_agree (tuning : part ≠ .tuning) : Agree world world.measure part := by
  unfold measure
  split
  · cases world.kcParams with
    | none => exact world.fail_agree part _
    | some params => exact world.setParams_agree _ tuning
  · exact .refl world part

/-- A live frame that is not asked for any more is freed and its slot emptied. -/
theorem expire_agree (frames : part ≠ .frames) (slot : part ≠ .slot) :
    Agree world world.expire part := by
  unfold expire
  split
  · cases world.kcParams with
    | none => exact world.fail_agree part _
    | some params =>
        dsimp only
        split
        · cases part <;> simp_all [Agree, free]
        · exact .refl world part
  · exact .refl world part

/-- The shifted timestamp and its offset are the clock. -/
theorem shiftPts_agree (pts : UInt64) (other : part ≠ .clock) :
    Agree world (world.shiftPts pts) part := by
  cases part <;> simp_all [Agree, shiftPts]

/-- A captured frame becomes a block, and the live frame unless there is a record. -/
theorem storeFrame_agree (capture : Capture) (allocates : Bool) (frames : part ≠ .frames)
    (slot : part ≠ .slot) : Agree world (world.storeFrame capture allocates).1 part := by
  unfold storeFrame
  split
  · split
    · dsimp only
      split <;> cases part <;>
        first | exact absurd rfl frames | exact absurd rfl slot | simp [Agree]
    · exact .refl world part
  · exact .refl world part

/-- The first half of `kcFrameData`, up to the append. -/
theorem beginFrame_agree (capture : Capture) (now : UInt32) (allocates : Bool)
    (clock : part ≠ .clock) (frames : part ≠ .frames) (slot : part ≠ .slot)
    (tuning : part ≠ .tuning) :
    Agree world (world.beginFrame capture now allocates).1 part := by
  have taken : Agree world { world with captured := capture.pts } part := by
    cases part <;> simp_all [Agree]
  unfold beginFrame
  dsimp only
  split
  · exact taken
  · exact taken.trans <| (shiftPts_agree _ _ clock).trans <| (measure_agree _ tuning).trans <|
      (expire_agree _ frames slot).trans <| storeFrame_agree _ capture allocates frames slot

/-- `kcInit` behind its assignment to `g_params`. -/
theorem initParams_pointed (camera : CameraId) (attached : part ≠ .attached)
    (readings : part ≠ .readings) (tuning : part ≠ .tuning) :
    Agree { world with params := some camera } (world.initParams camera) part := by
  have detached := (setParams_agree { world with params := some camera }
    (kcInitParams ((world.cameras camera).elim default Camera.params)) tuning).trans <|
    detach_agree _ attached readings
  refine detached.trans ?_
  cases part with
  | tuning => exact absurd rfl tuning
  | _ => simp [Agree, initParams]

/-- `kcInit` sets `g_params` and the parameters behind it, and drops an earlier record. -/
theorem initParams_agree (camera : CameraId) (attached : part ≠ .attached)
    (readings : part ≠ .readings) (cameras : part ≠ .cameras) (tuning : part ≠ .tuning) :
    Agree world (world.initParams camera) part := by
  have pointed : Agree world { world with params := some camera } part := by
    cases part <;> simp_all [Agree]
  exact pointed.trans (world.initParams_pointed camera attached readings tuning)

/-- The end of a session frees the live frame and drops the record. -/
theorem dropFrame_agree (attached : part ≠ .attached) (readings : part ≠ .readings)
    (frames : part ≠ .frames) (slot : part ≠ .slot) : Agree world world.dropFrame part := by
  have detached := (free_agree world world.g.frame.toList frames).trans <|
    detach_agree _ attached readings
  refine detached.trans ?_
  cases part <;> simp_all [Agree, dropFrame]

/-- `kcStartRecord` makes a list, numbers it and attaches it. -/
theorem allocRecord_agree (attached : part ≠ .attached) (lists : part ≠ .lists)
    (numbering : part ≠ .numbering) :
    Agree world world.allocRecord.1 part := by
  unfold allocRecord
  cases world.kcParams with
  | none => exact world.fail_agree part _
  | some params => cases part <;> simp_all [Agree, setList]

/-- `kcStopRecord` clears `m_recording` of the attached list and detaches it. -/
theorem stopRecord_agree (attached : part ≠ .attached) (lists : part ≠ .lists)
    (readings : part ≠ .readings) : Agree world world.stopRecord part := by
  unfold stopRecord
  split
  · exact .refl world part
  · split
    · exact world.fail_agree part _
    · exact (setList_agree world _ _ lists).trans (detach_agree _ attached readings)

/-- The test of the wait for the next frame reads only. -/
theorem nextRecordFrame_agree (list : ListId) : Agree world (world.nextRecordFrame list).1 part := by
  unfold nextRecordFrame
  split
  · exact world.fail_agree part _
  · split
    · exact world.fail_agree part _
    · exact .refl world part

/-- The test of the wait for the last frame reads only. -/
theorem lastRecordFrame_agree : Agree world world.lastRecordFrame.1 part := by
  unfold lastRecordFrame
  split
  · exact world.fail_agree part _
  · split
    · exact world.fail_agree part _
    · exact .refl world part

/-- Reading moves the cursor and copies a frame; an empty reading is logged. -/
theorem next_agree (list : ListId) (allocates : Bool) (lists : part ≠ .lists)
    (readings : part ≠ .readings) (frames : part ≠ .frames) :
    Agree world (world.next list allocates).1 part := by
  unfold next
  split
  · exact world.fail_agree part _
  · split
    · exact world.fail_agree part _
    · exact (setList_agree world _ _ lists).trans (note_agree _ _ _ readings)
    · exact (setList_agree world _ _ lists).trans (copyFrame_agree _ _ _ frames)

/-- The last frame is copied, with the list as it was. -/
theorem copyBack_agree (list : ListId) (allocates : Bool) (frames : part ≠ .frames) :
    Agree world (world.copyBack list allocates).1 part := by
  unfold copyBack
  split
  · exact world.fail_agree part _
  · split
    · exact world.fail_agree part _
    · split
      · exact world.fail_agree part _
      · exact copyFrame_agree _ _ _ frames

/-- The array owns the frame; a stream counts it in `m_index`, a record logs it. -/
theorem makeArray_agree (streamer : StreamerId) (frame : KcFrame) (bytes : Bool)
    (streamers : part ≠ .streamers) (readings : part ≠ .readings) (frames : part ≠ .frames) :
    Agree world (world.makeArray streamer frame bytes).1 part := by
  have kept : Agree world { world with arrays := frame :: world.arrays } part := by
    cases part <;> simp_all [Agree]
  unfold makeArray
  split
  · exact world.fail_agree part _
  · split
    · exact world.fail_agree part _
    · dsimp only
      split
      · exact kept.trans (setStreamer_agree _ _ _ streamers)
      · exact kept.trans (note_agree _ _ _ readings)

/-- A Streamer is made, for the record that is attached if there is one. -/
theorem newStreamer_agree (origin : Origin) (other : part ≠ .streamers) :
    Agree world (world.newStreamer origin).1 part := by
  have counted : Agree world { world with nextStreamer := world.nextStreamer + 1 } part := by
    cases part <;> simp_all [Agree]
  unfold newStreamer
  dsimp only
  split
  · exact counted.trans (setStreamer_agree _ _ _ other)
  · split
    · exact counted.trans (fail_agree _ part _)
    · exact counted.trans (setStreamer_agree _ _ _ other)

/-- `load()` makes a Streamer with an empty list of its own. -/
theorem newLoader_agree (streamers : part ≠ .streamers) (lists : part ≠ .lists)
    (numbering : part ≠ .numbering) :
    Agree world world.newLoader.1 part := by
  cases part <;> simp_all [Agree, newLoader, setList, setStreamer]

/-- Loading fills the list with new blocks. -/
theorem load_agree (list : ListId) (file : Option (List UInt8)) (loads : Nat → Bool × Bool × Bool)
    (lists : part ≠ .lists) (frames : part ≠ .frames) :
    Agree world (world.load list file loads).1 part := by
  unfold load
  split
  · exact world.fail_agree part _
  · cases part <;> simp_all [Agree, setList]

/-- A list is freed with all its frames. -/
theorem freeRecord_agree (list : ListId) (lists : part ≠ .lists) (frames : part ≠ .frames) :
    Agree world (world.freeRecord list) part := by
  unfold freeRecord
  split
  · exact world.fail_agree part _
  · exact world.fail_agree part _
  · cases part <;> simp_all [Agree, free]

/-- Saving moves the cursor of the list only. -/
theorem saveNext_agree (list : ListId) (fails : Bool) (other : part ≠ .lists) :
    Agree world (world.saveNext list fails).1 part := by
  unfold saveNext
  split
  · exact world.fail_agree part _
  · split
    · exact world.fail_agree part _
    · exact setList_agree world _ _ other
    · exact setList_agree world _ _ other

/-- An append changes one list, frees what falls out of it and logs a frame that was
kept. -/
theorem append_agree {list : ListId} {frame : KcFrame} {node : Option Addr} {next : World}
    {status : Int} (lists : part ≠ .lists) (readings : part ≠ .readings) (frames : part ≠ .frames)
    (appended : world.append list frame node = some (next, status)) : Agree world next part := by
  unfold append at appended
  split at appended
  · split at appended
    · cases appended
      exact world.fail_agree part _
    · have stored (found : FrameList) (freed : List KcFrame) :=
        (setList_agree world list found lists).trans (free_agree _ freed frames)
      split at appended
      · dsimp only at appended
        split at appended
        · cases appended
          exact (stored _ _).trans (note_agree _ _ _ readings)
        · cases appended
          exact stored _ _
      · cases appended
  · cases appended
    exact world.fail_agree part _

end World

/-- An operation that always succeeds has one outcome. -/
theorem result_eq {Response : Type} {result : World × Response} {next : World}
    {response : Response} (executed : some result = some (next, response)) : next = result.1 :=
  (congrArg Prod.fst (Option.some.inj executed)).symm

/-- An operation changes only the parts that it touches. -/
theorem Op.run_agree {thread : Tid} {choice : Choice} {operation : Op} {world next : World}
    {response : operation.Resp} {part : Part}
    (executed : operation.run thread choice world = some (next, response))
    (untouched : part ∉ operation.touches) : Agree world next part := by
  have same := Agree.refl world part
  have fails := world.fail_agree part
  have avoids : ∀ touched ∈ operation.touches, part ≠ touched := by
    rintro _ member rfl
    exact untouched member
  cases operation with
  | nextCall =>
      simp only [Op.run] at executed
      split at executed
      · cases executed
      · split at executed
        · cases executed
          cases part <;> simp [Agree]
        · cases executed
  | endCall request reply =>
      rw [result_eq executed]
      cases request.streamer <;> cases part <;> simp [Agree]
  -- kcameramodule.c
  | storeParams params =>
      rw [result_eq executed]
      exact world.storeParams_agree params (avoids _ (.head _))
  | newCamera =>
      rw [result_eq executed]
      exact world.newCamera_agree (avoids _ (.head _)) (avoids _ (.tail _ (.head _)))
        (avoids _ (.tail _ (.tail _ (.head _))))
  | freeCamera =>
      rw [result_eq executed]
      exact world.freeCamera_agree (avoids _ (.head _)) (avoids _ (.tail _ (.head _)))
  | keepStreamObject streamer | streamCallback streamer =>
      rw [result_eq executed]
      refine world.onCamera_agree _ (avoids _ (.head _)) fun found => ?_
      first | rfl | (split <;> rfl)
  | shareStreamObject streamer =>
      rw [result_eq executed]
      cases world.streamers streamer with
      | none => exact fails _
      | some found => exact same
  -- kcamera.c
  | initMutexes =>
      rw [result_eq executed]
      split
      · exact fails _
      · exact same
  | initParams camera =>
      rw [result_eq executed]
      exact world.initParams_agree camera (avoids _ (.head _)) (avoids _ (.tail _ (.head _)))
        (avoids _ (.tail _ (.tail _ (.head _)))) (avoids _ (.tail _ (.tail _ (.tail _ (.head _)))))
  | resetState =>
      rw [result_eq executed]
      cases part <;> simp_all [Agree, Op.touches, World.resetState]
  | createThread =>
      rw [result_eq executed]
      simp only [World.createThread]
      cases choice.spawns <;> cases part <;> simp_all [Agree, Op.touches]
  | stopCameraLoop join => rw [result_eq executed]; cases part <;> simp_all [Agree, Op.touches]
  | clearRun join signal => rw [result_eq executed]; cases part <;> simp_all [Agree, Op.touches]
  | setStopping => rw [result_eq executed]; cases part <;> simp_all [Agree, Op.touches]
  | stopped => rw [result_eq executed]; cases part <;> simp_all [Agree, Op.touches]
  | setRun => rw [result_eq executed]; cases part <;> simp_all [Agree, Op.touches]
  | publishApp => rw [result_eq executed]; cases part <;> simp_all [Agree, Op.touches]
  | clearApp => rw [result_eq executed]; cases part <;> simp_all [Agree, Op.touches]
  | exit => rw [result_eq executed]; cases part <;> simp_all [Agree, Op.touches]
  | setTimer => rw [result_eq executed]; cases part <;> simp_all [Agree, Op.touches]
  | takeFrame => rw [result_eq executed]; cases part <;> simp_all [Agree, Op.touches]
  | endFrame => rw [result_eq executed]; cases part <;> simp [Agree, World.endFrame]
  | dropFrame =>
      rw [result_eq executed]
      exact world.dropFrame_agree (avoids _ (.head _)) (avoids _ (.tail _ (.head _)))
        (avoids _ (.tail _ (.tail _ (.head _)))) (avoids _ (.tail _ (.tail _ (.tail _ (.head _)))))
  | beginFrame capture =>
      rw [result_eq executed]
      exact world.beginFrame_agree capture _ _ (avoids _ (.head _)) (avoids _ (.tail _ (.head _)))
        (avoids _ (.tail _ (.tail _ (.head _)))) (avoids _ (.tail _ (.tail _ (.tail _ (.head _)))))
  | append list frame =>
      exact world.append_agree (avoids _ (.head _)) (avoids _ (.tail _ (.head _)))
        (avoids _ (.tail _ (.tail _ (.head _)))) executed
  | allocRecord =>
      rw [result_eq executed]
      exact world.allocRecord_agree (avoids _ (.head _)) (avoids _ (.tail _ (.head _)))
        (avoids _ (.tail _ (.tail _ (.head _))))
  | stopRecord =>
      rw [result_eq executed]
      exact world.stopRecord_agree (avoids _ (.head _)) (avoids _ (.tail _ (.head _)))
        (avoids _ (.tail _ (.tail _ (.head _))))
  | nextRecordFrame list => rw [result_eq executed]; exact world.nextRecordFrame_agree list
  | lastRecordFrame => rw [result_eq executed]; exact world.lastRecordFrame_agree
  | startParams =>
      rw [result_eq executed]
      refine world.onParams_agree part _ fun params =>
        (world.setParams_agree (limitFramerate params) (avoids _ (.head _))).trans ?_
      cases part <;> simp_all [Agree, Op.touches]
  | clearFps | setMode | resetShutter =>
      rw [result_eq executed]
      exact world.onParams_agree part _ fun params => world.setParams_agree _ (avoids _ (.head _))
  | copyParams =>
      rw [result_eq executed]
      refine world.onParams_agree part _ fun params => ?_
      cases part <;> simp_all [Agree, Op.touches]
  | changed setting =>
      rw [result_eq executed]
      cases world.kcParams with
      | none => exact fails _
      | some params => exact same
  | memoryProgress =>
      rw [result_eq executed]
      split
      · exact fails _
      · exact same
  | derefRecord =>
      rw [result_eq executed]
      cases world.g.record with
      | none => exact fails _
      | some list => exact same
  | recordLimited =>
      rw [result_eq executed]
      split
      · exact fails _
      · split
        · exact fails _
        · exact same
  | durationProgress =>
      rw [result_eq executed]
      split
      · exact fails _
      · split
        · exact fails _
        · split
          · exact fails _
          · exact same
  | sameRecord list =>
      rw [result_eq executed]
      split
      · exact same
      · exact fails _
  -- run.cpp
  | setOptions =>
      rw [result_eq executed]
      dsimp only
      split
      · exact fails _
      · exact fails _
      · cases part <;> simp_all [Agree, Op.touches]
  | useApp =>
      rw [result_eq executed]
      cases world.app with
      | none => exact fails _
      | some app => exact same
  | takeCapture =>
      rw [result_eq executed]
      cases world.app with
      | none => exact fails _
      | some app => exact same
  | setControl setter =>
      rw [result_eq executed]
      refine world.onParams_agree part _ fun params => ?_
      dsimp only
      split
      · exact fails _
      · refine (world.setParams_agree (setter.apply params world.controls).1
          (avoids _ (.head _))).trans ?_
        cases part <;> simp_all [Agree, Op.touches]
  -- streamer.c
  | newStreamer origin =>
      rw [result_eq executed]
      exact world.newStreamer_agree origin (avoids _ (.head _))
  | newLoader =>
      rw [result_eq executed]
      exact world.newLoader_agree (avoids _ (.head _)) (avoids _ (.tail _ (.head _)))
        (avoids _ (.tail _ (.tail _ (.head _))))
  | load list file =>
      rw [result_eq executed]
      exact world.load_agree list file _ (avoids _ (.head _)) (avoids _ (.tail _ (.head _)))
  | recordOf streamer | indexOf streamer =>
      rw [result_eq executed]
      cases world.streamers streamer with
      | none => exact fails _
      | some found => exact same
  | freeRecord list =>
      rw [result_eq executed]
      exact world.freeRecord_agree list (avoids _ (.head _)) (avoids _ (.tail _ (.head _)))
  | freeStreamer streamer =>
      rw [result_eq executed]
      cases part <;> simp_all [Agree, Op.touches]
  | noteIndex streamer list =>
      rw [result_eq executed]
      cases world.lists list with
      | none => exact fails _
      | some found => exact world.onStreamer_agree streamer _ (avoids _ (.head _))
  | next list =>
      rw [result_eq executed]
      exact world.next_agree list _ (avoids _ (.head _)) (avoids _ (.tail _ (.head _)))
        (avoids _ (.tail _ (.tail _ (.head _))))
  | copyBack list =>
      rw [result_eq executed]
      exact world.copyBack_agree list _ (avoids _ (.head _))
  | makeArray streamer frame bytes =>
      rw [result_eq executed]
      exact world.makeArray_agree streamer frame bytes (avoids _ (.head _))
        (avoids _ (.tail _ (.head _))) (avoids _ (.tail _ (.tail _ (.head _))))
  | seek list n =>
      rw [result_eq executed]
      exact (world.onList_agree list _ (avoids _ (.head _))).trans
        (World.note_agree _ _ _ (avoids _ (.tail _ (.head _))))
  | start list | setListShift list _ | setListDuration list _ =>
      rw [result_eq executed]
      exact world.onList_agree list _ (avoids _ (.head _))
  | setStreamerShift streamer _ | setStreamerDuration streamer _ =>
      rw [result_eq executed]
      exact world.onStreamer_agree streamer _ (avoids _ (.head _))
  | inspect list =>
      rw [result_eq executed]
      split
      · exact same
      · exact fails _
  | time list =>
      rw [result_eq executed]
      split
      · exact fails _
      · exact fails _
      · exact same
  | saveNext list =>
      rw [result_eq executed]
      exact world.saveNext_agree list _ (avoids _ (.head _))
  | freeArray frame =>
      rw [result_eq executed]
      refine (world.free_agree [frame] (avoids _ (.head _))).trans ?_
      cases part <;> simp_all [Agree, Op.touches]
  | awaitStopped | join | «begin» =>
      simp only [Op.run] at executed
      split at executed
      · first | cases executed; exact same | cases executed
      · first | cases executed; exact same | cases executed
  | _ => rw [result_eq executed]; exact same

/-! ## The attached record -/

/-- Afterwards no record is attached. -/
@[simp] theorem World.detach_record (world : World) : world.detach.g.record = none := by
  unfold detach
  split
  · assumption
  · rfl

/-- Only `kcStartRecord` attaches a record. -/
theorem Op.run_record {thread : Tid} {choice : Choice} {operation : Op} {world next : World}
    {response : operation.Resp}
    (executed : operation.run thread choice world = some (next, response))
    (other : operation ≠ .allocRecord) :
    next.g.record = world.g.record ∨ next.g.record = none := by
  by_cases touched : Part.attached ∈ operation.touches
  · cases operation with
    | allocRecord => exact absurd rfl other
    | initParams camera =>
        rw [result_eq executed]
        exact .inr (by simp [World.initParams])
    | dropFrame =>
        rw [result_eq executed]
        exact .inr (by simp [World.dropFrame])
    | stopRecord =>
        rw [result_eq executed]
        simp only [World.stopRecord]
        split
        · exact .inl rfl
        · split
          · exact .inl rfl
          · exact .inr (World.detach_record _)
    | _ => simp [touches] at touched
  · exact .inl (run_agree executed touched)

/-! ## The threads and their flags -/

/-- What an operation does to each of the things that start and stop threads. -/
structure ThreadsEffect (thread : Tid) (choice : Choice) (operation : Op) (world next : World) :
    Prop where
  spawned : next.spawned = world.spawned ∨
    operation = .createThread ∧ choice.spawns ∧ next.spawned = world.spawned + 1
  last : next.g.thread = world.g.thread ∨
    operation = .createThread ∧ choice.spawns ∧ next.g.thread = some world.spawned
  exited : next.exited = world.exited ∨
    operation = .exit ∧ next.exited = Function.update world.exited thread.index true
  loop : next.run = world.run ∨ operation = .setRun ∧ next.run = true ∨
    (∃ join, operation = .stopCameraLoop join) ∧ next.run = false
  run : next.g.run = world.g.run ∨ operation = .resetState ∧ next.g.run = true ∨
    (∃ join signal, operation = .clearRun join signal) ∧ next.g.run = false
  stopping : next.g.stopping = world.g.stopping ∨
    operation = .setStopping ∧ next.g.stopping = true ∨ next.g.stopping = false
  app : next.app = world.app ∨ operation = .publishApp ∧ next.app = some thread.index ∨
    operation = .clearApp ∧ next.app = none

/-- Where the threads' part is left alone there is no effect on them. -/
theorem ThreadsEffect.of_agree {thread : Tid} {choice : Choice} {operation : Op}
    {world next : World} (agree : Agree world next .threads) :
    ThreadsEffect thread choice operation world next := by
  obtain ⟨run, stopping, last, loop, app, spawned, exited⟩ := agree
  exact ⟨.inl spawned, .inl last, .inl exited, .inl loop, .inl run, .inl stopping, .inl app⟩

/-- Every operation's effect on the threads and their flags is one of those listed. -/
theorem Op.run_threads {thread : Tid} {choice : Choice} {operation : Op} {world next : World}
    {response : operation.Resp}
    (executed : operation.run thread choice world = some (next, response)) :
    ThreadsEffect thread choice operation world next := by
  by_cases touched : Part.threads ∈ operation.touches
  · cases operation with
    | createThread =>
        have value := result_eq executed
        cases spawns : choice.spawns with
        | false =>
            rw [value, spawns]
            exact .of_agree (.refl world _)
        | true =>
            rw [value, spawns]
            constructor <;> simp [World.createThread, spawns]
    | resetState =>
        rw [result_eq executed]
        constructor <;> simp [World.resetState]
    | stopCameraLoop join | clearRun join signal | setStopping | stopped | setRun | publishApp
    | clearApp | exit =>
        rw [result_eq executed]
        constructor <;> simp
    | _ => simp [touches] at touched
  · exact .of_agree (run_agree executed touched)

/-! ## kcFrameData -/

namespace World

variable {world : World}

/-- Before a frame is built for a capture. -/
def readied (world : World) (capture : Capture) : World :=
  (({ world with captured := capture.pts }.shiftPts capture.pts).measure).expire

/-- Getting ready for a capture touches the clock, the live frame and the
parameters. -/
theorem readied_agree (capture : Capture) {part : Part} (clock : part ≠ .clock)
    (frames : part ≠ .frames) (slot : part ≠ .slot) (tuning : part ≠ .tuning) :
    Agree world (world.readied capture) part := by
  have taken : Agree world { world with captured := capture.pts } part := by
    cases part <;> simp_all [Agree]
  exact taken.trans <| (shiftPts_agree _ _ clock).trans <| (measure_agree _ tuning).trans <|
    expire_agree _ frames slot

/-- What `kcFrameData` does up to `flistAppend`. -/
theorem beginFrame_cases (world : World) (capture : Capture) (now : UInt32) (allocates : Bool) :
    let ready := world.readied capture
    let frame := capture.frame ready.blocks ready.g.pts
    (world.idle now ∧ world.beginFrame capture now allocates =
        ({ world with captured := capture.pts }, .idle)) ∨
      (¬((ready.g.frame.isNone ∨ ready.g.record.isSome) ∧ ready.g.run) ∧
        world.beginFrame capture now allocates = (ready, .skipped)) ∨
      (allocates = false ∧ world.beginFrame capture now allocates =
        (ready, .outOfMemory ready.g.record)) ∨
      (∃ list, ready.g.record = some list ∧ world.beginFrame capture now allocates =
        ({ ready with blocks := ready.blocks + 1 }, .recording list frame)) ∨
      (ready.g.record = none ∧ ready.g.frame = none ∧ world.beginFrame capture now allocates =
        ({ ready with blocks := ready.blocks + 1, g.frame := some frame }, .stored)) := by
  intro ready frame
  have value : world.beginFrame capture now allocates =
      if world.idle now then ({ world with captured := capture.pts }, .idle)
      else ready.storeFrame capture allocates := rfl
  rw [value]
  split
  · exact .inl ⟨by assumption, rfl⟩
  · unfold storeFrame
    split
    · rename_i room
      split
      · dsimp only
        split
        · rename_i list attached
          exact .inr (.inr (.inr (.inl ⟨list, attached, rfl⟩)))
        · rename_i unattached
          have empty : ready.g.frame = none := by simpa [unattached] using room.1
          exact .inr (.inr (.inr (.inr ⟨unattached, empty, rfl⟩)))
      · rename_i failed
        exact .inr (.inr (.inl ⟨by simpa using failed, rfl⟩))
    · rename_i full
      exact .inr (.inl ⟨full, rfl⟩)

/-- When there is no memory the attached record is reported. -/
theorem beginFrame_outOfMemory {capture : Capture} {now : UInt32} {allocates : Bool}
    {record : Option ListId}
    (failed : (world.beginFrame capture now allocates).2 = .outOfMemory record) :
    world.g.record = record := by
  have same : (world.readied capture).g.record = world.g.record :=
    (readied_agree capture (by simp) (by simp) (by simp) (by simp) : Agree world (world.readied capture) .attached)
  rcases world.beginFrame_cases capture now allocates with
    ⟨_, value⟩ | ⟨_, value⟩ | ⟨_, value⟩ | ⟨_, _, value⟩ | ⟨_, _, value⟩ <;>
    rw [value] at failed <;> cases failed
  exact same.symm

/-- A reserve that is exceeded ends the attached record. -/
theorem endFrame_exceeded {memfree : UInt32} {record : ListId}
    (exceeded : (world.endFrame memfree).2 = some record) : world.g.record = some record := by
  simp only [endFrame] at exceeded
  split at exceeded
  · exact exceeded
  · cases exceeded

/-- A list after `flistAppend`, with the frames that it freed. -/
def appended (world : World) (list : ListId) (result : Appended) : World :=
  (world.setList list result.list).free result.freed

/-- What the call of `flistAppend` does. -/
theorem append_cases {list : ListId} {frame : KcFrame} {node : Option Addr} {next : World}
    {status : Int} (executed : world.append list frame node = some (next, status)) :
    ((∃ fault, next = world.fail fault) ∧ status = 0) ∨
      ∃ found, world.g.record = some list ∧ world.lists list = some found ∧
        (∀ addr, node = some addr → Available found frame addr) ∧
        status = (flistAppend found frame node).status ∧
        next = if found.recording ≠ 0 ∧ (flistAppend found frame node).status ≠ -2 then
            (world.appended list (flistAppend found frame node)).note list (.appended frame)
          else world.appended list (flistAppend found frame node) := by
  unfold append at executed
  split at executed
  · rename_i attached
    split at executed
    · cases executed
      exact .inl ⟨⟨_, rfl⟩, rfl⟩
    · rename_i found live
      split at executed
      · rename_i available
        refine .inr ⟨found, attached, live, ?_, ?_⟩
        · rintro addr rfl
          simpa using available
        · dsimp only at executed
          split at executed <;> cases executed <;> simp_all [appended]
      · cases executed
  · cases executed
    exact .inl ⟨⟨_, rfl⟩, rfl⟩

end World

end KCamera
