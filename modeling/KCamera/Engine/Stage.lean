import KCamera.Engine.Code
import KCamera.Machine.Discipline

/-!
# Stages

What a thread has done so far, as far as other threads' guarantees depend on
it, and what it may do next. Stages are moved by the operations and read by
nothing; `System` is the machine whose runs the results are about.
-/

namespace KCamera

open Machine

/-- The life of a video thread. -/
inductive Phase where
  | unborn
  | begun
  /-- Its `LibcameraRaw` exists. -/
  | constructed
  /-- `app` was set to it. -/
  | published
  /-- `kcStopped` was called. -/
  | stopped
  /-- `app` was set to null. -/
  | cleared
  /-- Its `LibcameraRaw` is gone. -/
  | destroyed
  | exited
deriving DecidableEq, Repr

/-- Inside `kcStart` or `kcStopInternal`. -/
inductive Switch where
  | none
  /-- In `kcStart`, past the spin on `m_stopping`. -/
  | ready
  /-- The state is reset and the thread not yet created. -/
  | starting
  /-- In `kcStopInternal`, `run` is cleared. -/
  | halting (join : Bool)
  /-- `m_run` is cleared; `detach` if the record is still to be dropped. -/
  | stopping (join detach : Bool)
deriving DecidableEq, Repr

/-- What a call of an interpreter's thread knows about the Camera. -/
inductive Footing where
  /-- If the call needs one, it is behind `g_params`. -/
  | settled
  /-- There may be none: it is not made yet, or it is freed. -/
  | absent
  /-- It is made, and `g_params` does not lead to it yet. -/
  | new (camera : CameraId)
deriving DecidableEq, Repr

/-- A settled call does not stand on a new Camera. -/
theorem Footing.settled_ne_new (camera : CameraId) : settled ≠ new camera := by
  intro same
  cases same

structure Stage where
  phase : Phase := .unborn
  /-- `kcStartCameraLoop` has set `run`. -/
  set : Bool := false
  /-- The loop of `event_loop` has ended. -/
  left : Bool := false
  /-- A libcamera call threw. -/
  threw : Bool := false
  switch : Switch := .none
  /-- `kcUpdateParams` has stopped the camera and not started it again. -/
  restarting : Bool := false
  /-- `kcFrameData` has set `stop` and `kcStopInternal` has not acted on it. -/
  selfStop : Bool := false
  /-- `kcFrameData` has set `stopRecord`, because of a record. -/
  deferred : Option (Option ListId) := none
  /-- The call that an interpreter's thread is in. -/
  calling : Option Request := none
  /-- The call may have given the interpreter lock back. -/
  released : Bool := false
  footing : Footing := .settled
  /-- The Streamer of the call and its `m_record`. -/
  self : Option (StreamerId × Option ListId) := none
  /-- What `kcGetRecord` returned last. -/
  seen : Option (Option ListId) := none
  /-- `kcStartRecord`'s list that no Streamer has yet, and whether the state was
  reset since. -/
  binding : Option (ListId × Bool) := none
  /-- The list that a file is loaded into. -/
  loading : Option ListId := none
  /-- `kcRecordProgress` has found a record and goes on to read it. -/
  progressing : Bool := false
  /-- The Streamer that `createStream` has made. -/
  made : Option StreamerId := none
  /-- Only the Streamer itself is left for `streamer_dealloc` to free. -/
  closing : Option StreamerId := none
  /-- A frame that only the thread knows. -/
  carried : Option KcFrame := none
  /-- The list that the carried frame goes to. -/
  appending : Option ListId := none
  /-- `m_index` was taken from the list. -/
  noted : Option ListId := none
  /-- `kcWaitNextRecordFrame` has returned. -/
  waited : Option ListId := none
  /-- `kcWaitLastRecordFrame` has returned. -/
  awaited : Bool := false
  /-- The record whose mutex `kcRecordProgress` takes. -/
  reading : Option ListId := none
  /-- With that mutex it has found that the record has a duration. -/
  limited : Bool := false
  /-- `kcFrameData` is behind its last test of `m_run`, in its critical section. -/
  finishing : Bool := false

namespace Stage

/-- An interpreter's thread between calls, and a video thread that has not begun. -/
def idle : Stage := {}

/-- What operations do to the stage of their thread. -/
@[simp] def after (stage : Stage) : (operation : Op) → operation.Resp → Stage
  | .nextCall, request =>
      { stage with
        calling := some request
        footing := match request with | .newCamera _ => .absent | _ => .settled }
  | .endCall _ _, _ => .idle
  | .recordOf streamer, record => { stage with self := some (streamer, record) }
  | .getRecord, record => { stage with seen := some record }
  | .allocRecord, list => { stage with binding := some (list, false), seen := none }
  | .stopRecord, _ => { stage with deferred := none, seen := stage.seen.map fun _ => none }
  | .newStreamer _, streamer =>
      { stage with binding := none, seen := none, made := some streamer }
  | .newCamera, camera => { stage with footing := camera.elim .absent .new }
  | .initParams _, _ => { stage with footing := .settled }
  | .freeCamera, _ => { stage with footing := .absent }
  | .streamCallback streamer, _ => { stage with closing := some streamer }
  | .recordingNow, recording => { stage with progressing := recording }
  | .derefRecord, list => { stage with reading := some list, limited := false }
  | .recordLimited, limited => { stage with limited }
  | .sameRecord _, _ => { stage with progressing := false, reading := none, limited := false }
  | .newLoader, (_, list) => { stage with loading := some list }
  | .load _ _, _ => { stage with loading := none }
  | .freeRecord _, _ => { stage with closing := stage.self.map Prod.fst }
  | .freeStreamer _, _ => { stage with closing := none, self := none }
  | .awaitStopped, _ => { stage with switch := .ready }
  | .resetState, _ =>
      { stage with
        switch := .starting
        restarting := false
        binding := stage.binding.map fun (list, _) => (list, true) }
  | .createThread, _ => { stage with switch := .none }
  | .readStopping, stopping => if stopping then { stage with selfStop := false } else stage
  | .stopCameraLoop join, _ => { stage with switch := .halting join, selfStop := false }
  | .clearRun join signal, _ =>
      { stage with switch := .stopping join signal, restarting := !signal }
  | .dropFrame, _ =>
      match stage.switch with
      | .stopping join _ => { stage with switch := .stopping join false }
      | _ => stage
  | .join, _ | .setStopping, _ => { stage with switch := .none }
  | .setTimer, wait => { stage with seen := none, released := wait }
  | .takeFrame, frame => { stage with carried := frame }
  | .noteIndex _ list, _ => { stage with noted := some list }
  | .nextRecordFrame list, again => if again then stage else { stage with waited := some list }
  | .hasRecord, recording => if recording then stage else { stage with awaited := true }
  | .lastRecordFrame, again => if again then stage else { stage with awaited := true }
  | .next _, frame =>
      { stage with
        carried := frame
        waited := none
        noted := if frame.isSome then stage.noted else none }
  | .copyBack _, frame => { stage with carried := some frame, awaited := false }
  | .makeArray _ _ _, _ => { stage with carried := none, noted := none }
  | .beginFrame _, begun =>
      match begun with
      | .idle => { stage with selfStop := true }
      | .outOfMemory record => { stage with selfStop := true, deferred := some record }
      | .recording list frame =>
          { stage with carried := some frame, appending := some list, finishing := true }
      | .stored | .skipped => { stage with finishing := true }
  | .append list _, status =>
      { stage with
        carried := none
        appending := none
        deferred := if status < 0 then some (some list) else stage.deferred }
  | .endFrame, exceeded =>
      { stage with
        deferred := if exceeded.isSome then some exceeded else stage.deferred
        finishing := false }
  | .begin, _ => { stage with phase := .begun }
  | .setRun, _ => { stage with set := true }
  | .construct, threw =>
      if threw then { stage with threw := true } else { stage with phase := .constructed }
  | .publishApp, _ => { stage with phase := .published }
  | .useApp, threw => { stage with threw }
  | .takeCapture, capture => { stage with threw := capture.isNone }
  | .readLoop, run => { stage with left := !run }
  | .stopped, _ => { stage with phase := .stopped }
  | .clearApp, _ => { stage with phase := .cleared }
  | .destruct, _ => { stage with phase := .destroyed }
  | .exit, _ => { stage with phase := .exited }
  | _, _ => stage

/-- The mutexes that a stage holds. -/
@[simp] def holds (stage : Stage) : Mutex → Prop
  | .gil =>
      stage.calling.isSome ∧ ¬stage.released ∨ stage.seen.isSome ∨ stage.binding.isSome ∨
        stage.loading.isSome ∨ stage.closing.isSome ∨ stage.noted.isSome ∨ stage.waited.isSome ∨
          stage.progressing ∨ ∃ self list, stage.self = some (self, some list)
  | .params => stage.switch ≠ .none
  | .frame => stage.appending.isSome ∨ stage.finishing ∨ ∃ join, stage.switch = .stopping join true
  | _ => False

end Stage

/-- The order in which mutexes are taken. -/
@[simp] def Mutex.rank : Mutex → Nat
  | gil => 0
  | params => 1
  | frame => 3
  | record _ | controls => 4

/-- `pthread_join` comes between the mutexes held around it and the others. -/
@[simp] def joinRank : Nat := 2

/-- The interpreter's threads. -/
@[simp] def Tid.isPython : Tid → Bool
  | python _ => true
  | video _ => false

/-- The calls that start a recording and read it. -/
def Request.reads : Request → Bool
  | record _ | frame _ _ | seek _ _ => true
  | _ => false

/-- The calls that Python makes through the Camera. -/
def Request.ofCamera : Request → Bool
  | newCamera _ | deleteCamera | setAttr _ | rejected _ | stream _ | record _ | loadEmpty
  | load _ => true
  | _ => false

/-- The calls through which a live Streamer starts or stops the camera. -/
def Request.drives : Request → Bool
  | frame _ _ | stop _ | delete _ => true
  | _ => false

namespace Stage

/-- The call of the stage is none that starts a recording or reads it. -/
@[simp] def elsewhere (stage : Stage) : Prop := ∃ request, stage.calling = some request ∧ ¬request.reads

/-- The call can count on the parameters: it is one of the Camera, or of a live
Streamer. -/
@[simp] def founded (stage : Stage) : Prop :=
  stage.footing = .settled ∧ stage.released = false ∧ ∃ request, stage.calling = some request ∧
    (request.ofCamera ∨ request.drives ∧ ∃ streamer, stage.self = some (streamer, none))

/-- The thread is in the loop of `event_loop`, or on the way to it. -/
@[simp] def looping (stage : Stage) : Prop :=
  stage.phase = .published ∧ stage.left = false ∧ stage.threw = false

/-- The stage's Streamer has a list that it may use. -/
@[simp] def uses (stage : Stage) (list : ListId) : Prop :=
  stage.closing = none ∧ ∃ streamer, stage.self = some (streamer, some list)

/-- What a thread may perform. -/
@[simp] def allows (thread : Tid) (stage : Stage) (held : List Mutex) : Op → Prop
  | .nextCall => thread.isPython ∧ stage = .idle ∧ held = [.gil]
  | .endCall request _ =>
      thread.isPython ∧ .gil ∈ held ∧ stage.calling = some request ∧ stage.carried = none ∧
        stage.switch = .none ∧ stage.binding = none ∧ stage.loading = none ∧ stage.closing = none ∧
        stage.restarting = false ∧ stage.progressing = false ∧ ∀ camera, stage.footing ≠ .new camera
  | .newCamera =>
      thread.isPython ∧ .gil ∈ held ∧ stage.calling.isSome ∧ stage.footing = .absent ∧
        stage.released = false
  | .readStopping => True
  | .setTimer =>
      thread.isPython ∧ .gil ∈ held ∧ stage.calling.isSome ∧ stage.footing = .settled ∧
        stage.released = false ∧ stage.seen = some none ∧ stage.restarting = false
  | .getRecord =>
      thread.isPython ∧ .gil ∈ held ∧ stage.calling.isSome ∧ stage.binding = none ∧
        stage.awaited = false
  | .clearFps | .setControl _ =>
      (thread.isPython → .gil ∈ held ∧ stage.founded) ∧ (¬thread.isPython → stage.looping)
  | .slotEmpty => thread.isPython ∧ .frame ∈ held ∧ stage.calling.isSome
  | .takeFrame => thread.isPython ∧ .frame ∈ held ∧ stage.calling.isSome ∧ stage.carried = none
  -- starting and stopping
  | .awaitStopped =>
      thread.isPython ∧ .gil ∈ held ∧ stage.calling.isSome ∧ .params ∈ held ∧ stage.switch = .none
  | .resetState =>
      thread.isPython ∧ .gil ∈ held ∧ stage.calling.isSome ∧ .frame ∈ held ∧ stage.switch = .ready
  | .createThread =>
      thread.isPython ∧ .gil ∈ held ∧ stage.calling.isSome ∧ stage.switch = .starting ∧
        stage.founded
  | .stopCameraLoop join =>
      .params ∈ held ∧ stage.switch = .none ∧ thread.isPython = join ∧
        (thread.isPython → stage.elsewhere) ∧ (¬thread.isPython → stage.looping)
  | .clearRun join signal =>
      .frame ∈ held ∧ stage.switch = .halting join ∧
        (thread.isPython → stage.elsewhere ∧ stage.released = false) ∧ (¬thread.isPython → signal)
  | .dropFrame => ∃ join, stage.switch = .stopping join true
  | .join => thread.isPython ∧ stage.switch = .stopping true false ∧
      ∀ mutex ∈ held, mutex.rank < joinRank
  | .setStopping => ¬thread.isPython ∧ stage.switch = .stopping false false ∧ stage.looping
  | .initParams camera =>
      thread.isPython ∧ .gil ∈ held ∧ .params ∈ held ∧ stage.switch = .none ∧ stage.elsewhere ∧
        stage.footing = .new camera
  | .startParams | .changed _ | .setMode | .resetShutter | .copyParams =>
      thread.isPython ∧ .gil ∈ held ∧ stage.founded
  | .stopRecord => .frame ∈ held ∧ (thread.isPython → .gil ∈ held)
  -- the video thread
  | .begin => ¬thread.isPython ∧ stage.phase = .unborn
  | .setRun => ¬thread.isPython ∧ stage.phase = .begun ∧ stage.set = false
  | .construct => ¬thread.isPython ∧ stage.phase = .begun ∧ stage.set ∧ stage.threw = false
  | .publishApp => ¬thread.isPython ∧ stage.phase = .constructed
  | .setOptions | .takeCapture | .readLoop => ¬thread.isPython ∧ stage.looping
  | .useApp => ¬thread.isPython ∧ stage.phase = .published ∧ stage.threw = false
  | .stopped => ¬thread.isPython ∧ stage.phase = .published ∧ stage.left
  | .clearApp => ¬thread.isPython ∧ stage.phase = .stopped
  | .destruct =>
      ¬thread.isPython ∧ (stage.phase = .published ∧ stage.threw ∨ stage.phase = .cleared)
  | .exit => ¬thread.isPython ∧ (stage.phase = .begun ∧ stage.threw ∨ stage.phase = .destroyed)
  | .beginFrame _ =>
      ¬thread.isPython ∧ .frame ∈ held ∧ stage = { phase := .published, set := true }
  | .append list frame =>
      ¬thread.isPython ∧ stage.appending = some list ∧ stage.carried = some frame ∧
        stage.deferred = none
  | .endFrame => ¬thread.isPython ∧ .frame ∈ held ∧ stage.appending = none ∧ stage.finishing
  -- Streamers and their lists
  | .allocRecord =>
      thread.isPython ∧ .gil ∈ held ∧ stage.calling.isSome ∧ .frame ∈ held ∧
        stage.seen = some none ∧ stage.binding = none ∧ stage.noted = none ∧ stage.waited = none ∧
        stage.founded
  | .newStreamer origin =>
      thread.isPython ∧ .gil ∈ held ∧ stage.calling.isSome ∧
        stage.founded ∧
        (match origin with
          | .record list => stage.binding = some (list, true)
          | _ => stage.binding = none ∧ stage.elsewhere)
  | .newLoader =>
      thread.isPython ∧ .gil ∈ held ∧ stage.elsewhere ∧ stage.binding = none ∧ stage.loading = none
  | .load list _ => thread.isPython ∧ .gil ∈ held ∧ stage.elsewhere ∧ stage.loading = some list
  | .freeRecord list =>
      thread.isPython ∧ .gil ∈ held ∧ stage.elsewhere ∧ stage.uses list ∧ stage.loading = none ∧
        stage.binding = none ∧ ∃ record, stage.seen = some record ∧ record ≠ some list
  | .freeStreamer streamer =>
      thread.isPython ∧ .gil ∈ held ∧ stage.elsewhere ∧ stage.closing = some streamer ∧
        stage.made = none ∧ ∃ record, stage.self = some (streamer, record)
  | .keepStreamObject streamer =>
      thread.isPython ∧ .gil ∈ held ∧ stage.calling.isSome ∧ stage.made = some streamer ∧
        stage.released = false ∧ stage.closing = none
  | .streamCallback streamer =>
      thread.isPython ∧ .gil ∈ held ∧ stage.calling.isSome ∧ stage.self = some (streamer, none) ∧
        stage.closing = none
  | .noteIndex streamer list =>
      thread.isPython ∧ .gil ∈ held ∧ stage.calling.isSome ∧ stage.uses list ∧
        stage.self = some (streamer, some list) ∧ stage.noted = none ∧ stage.carried = none
  | .nextRecordFrame list =>
      thread.isPython ∧ .gil ∈ held ∧ stage.calling.isSome ∧ stage.uses list ∧ .frame ∈ held ∧
        stage.noted = some list ∧ stage.carried = none ∧ stage.switch = .none ∧
        stage.binding = none ∧ stage.restarting = false
  | .lastRecordFrame =>
      thread.isPython ∧ .gil ∈ held ∧ stage.calling.isSome ∧ .frame ∈ held ∧
        (∃ list, stage.seen = some (some list)) ∧ stage.switch = .none ∧ stage.binding = none ∧
        stage.restarting = false
  | .recordingNow => thread.isPython ∧ .gil ∈ held ∧ stage.calling.isSome ∧ stage.reading = none
  | .memoryProgress | .derefRecord =>
      thread.isPython ∧ .gil ∈ held ∧ stage.calling.isSome ∧ stage.progressing
  | .recordLimited =>
      thread.isPython ∧ .gil ∈ held ∧ stage.calling.isSome ∧ stage.progressing ∧
        stage.reading.isSome
  | .durationProgress =>
      thread.isPython ∧ .gil ∈ held ∧ stage.calling.isSome ∧ stage.progressing ∧
        stage.reading.isSome ∧ stage.limited
  | .sameRecord list =>
      thread.isPython ∧ .gil ∈ held ∧ stage.calling.isSome ∧ stage.progressing ∧
        stage.reading = some list
  | .next list =>
      thread.isPython ∧ .gil ∈ held ∧ stage.calling.isSome ∧ stage.uses list ∧
        .record list ∈ held ∧ stage.noted = some list ∧ stage.waited = some list ∧
        stage.carried = none
  | .copyBack list =>
      thread.isPython ∧ .gil ∈ held ∧ stage.calling.isSome ∧ stage.seen = some (some list) ∧
        stage.carried = none ∧ stage.noted = none ∧ stage.awaited
  | .makeArray streamer frame _ =>
      thread.isPython ∧ .gil ∈ held ∧ stage.calling.isSome ∧ stage.carried = some frame ∧
        ∃ record, stage.self = some (streamer, record) ∧ stage.noted = record
  | .seek list _ =>
      thread.isPython ∧ .gil ∈ held ∧ stage.calling.isSome ∧ stage.uses list ∧ stage.noted = none
  | .start list | .saveNext list | .setListShift list _ | .setListDuration list _ =>
      thread.isPython ∧ .gil ∈ held ∧ stage.elsewhere ∧ stage.uses list ∧ stage.loading = none ∧
        stage.progressing = false
  | .inspect list | .time list =>
      thread.isPython ∧ .gil ∈ held ∧ stage.calling.isSome ∧ stage.uses list
  | .setStreamerShift _ _ | .setStreamerDuration _ _ =>
      thread.isPython ∧ .gil ∈ held ∧ stage.elsewhere
  | .freeArray frame => thread.isPython ∧ .gil ∈ held ∧ stage.calling = some (.dropArray frame)
  | _ => thread.isPython ∧ .gil ∈ held ∧ stage.calling.isSome

end Stage

/-- The discipline that all threads follow. Only a video thread that is about to
stop itself takes `m_paramsMutex`. -/
def discipline : Discipline Stage Tid Op Mutex Label where
  allowed := Stage.allows
  mayLock thread stage held mutex :=
    (∀ other ∈ held, other.rank < mutex.rank) ∧
      (mutex = .gil → thread.isPython) ∧
      (mutex = .params → thread.isPython ∨ stage.selfStop)
  holds := Stage.holds
  entry thread label stage held :=
    match label with
    | .python => thread.isPython ∧ stage = .idle ∧ held = []
    | .video => ¬thread.isPython ∧ stage = .idle ∧ held = []
    | .eventLoop => ¬thread.isPython ∧ stage = { phase := .published, set := true } ∧ held = []
    | .saving self list _ =>
        thread.isPython ∧ held = [.gil] ∧
          stage = { calling := some (.save self), self := some (self, some list) }

/-- The machine. -/
def semantics : Semantics World Stage Tid Choice Op Op.Resp Mutex Label where
  exec thread operation choice world := operation.exec thread choice world
  after := Stage.after
  body := Label.body

abbrev System := State World Stage Tid Op Op.Resp Mutex Label

/-- The module is imported; every thread is at its start. -/
def System.initial : System where
  world := .initial
  stage _ := .idle
  code
    | .python _ => .jump .python
    | .video _ => .jump .video
  owner _ := none
  held _ := []
  sleeping := []

/-- `m_frameMutex` or `m_paramsMutex` is held, or a thread sleeps on `m_cond`. -/
def System.inUse (state : System) : Bool :=
  (state.owner .frame).isSome || (state.owner .params).isSome || !state.sleeping.isEmpty

/-- Every operation that a step performs meets a condition, and `kcInit` is told
whether what it initialises is in use. -/
def performing (condition : System → Tid → Choice → Op → Prop) (state : System) :
    Event Tid Choice → Prop
  | .act thread choice _ =>
      ∀ operation, (state.code thread).current = some operation →
        (operation = .initMutexes → choice.inUse = state.inUse) ∧
          condition state thread choice operation
  | .wake _ => True

/-- The runs of the module in which every operation meets a condition. -/
abbrev Runs (condition : System → Tid → Choice → Op → Prop) : System → Prop :=
  Reach (step semantics) (performing condition) (· = .initial)

/-- No condition. -/
def anyOperation : System → Tid → Choice → Op → Prop := fun _ _ _ _ => True

end KCamera
