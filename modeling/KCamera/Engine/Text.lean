import KCamera.Engine.Effects
import KCamera.Engine.Marks
import KCamera.Machine.Text

/-!
# What the text says

The discipline allows more than the text does. `numpy` frees the frame of an array
once, when the array is deallocated, and a call that has begun to read a recording does
nothing else before it returns.
-/

namespace KCamera

open Machine

/-- Not the operations by which the interpreter takes a call and frees an array. -/
@[simp] def Op.inCall : Op → Prop
  | .nextCall | .freeArray _ => False
  | _ => True

/-- Nor the one by which `frame` begins to read a recording. -/
@[simp] def Op.plain : Op → Prop
  | .nextCall | .freeArray _ | .noteIndex _ _ => False
  | _ => True

/-- Nor one that needs a mutex around it that the discipline does not ask for, or that
tells the thread which record it works on. -/
@[simp] def Op.quiet : Op → Prop
  | .nextCall | .freeArray _ | .noteIndex _ _ | .setTimer | .append _ _ | .next _ | .copyBack _
  | .seek _ _ | .time _ | .saveNext _ | .setListShift _ _ | .setListDuration _ _ | .derefRecord
  | .recordLimited | .durationProgress | .beginFrame _ => False
  | _ => True

/-- Quiet operations are plain. -/
theorem Op.quiet.plain {operation : Op} (quiet : operation.quiet) : operation.plain := by
  cases operation <;> trivial

/-- A function that is quiet throughout is plain throughout. -/
theorem plain_of_quiet {α : Type} {code : Code α} (every : code.Every Op.quiet) :
    code.Every Op.plain :=
  every.mono fun _ => Op.quiet.plain

/-- Plain operations occur within calls only. -/
theorem Op.plain.inCall {operation : Op} (plain : operation.plain) : operation.inCall := by
  cases operation <;> trivial

/-- `frame` begins to read a recording. -/
@[simp] def Op.isNote : Op → Prop
  | .noteIndex _ _ => True
  | _ => False

/-- What a call does behind that. -/
@[simp] def Op.inReading : Op → Prop
  | .nextRecordFrame _ | .next _ | .makeArray _ _ _ | .endCall _ _ => True
  | _ => False

/-- Plain operations do not begin to read. -/
theorem Op.plain.not_isNote {operation : Op} (plain : operation.plain) : ¬operation.isNote := by
  cases operation <;> first | exact id | exact plain.elim

section

attribute [local simp] Prog.acquire Prog.release Prog.perform Prog.notify Prog.waitWhile
  Prog.ite_bind

/-! ## kcamera.c -/

/-- Starting the camera is quiet. -/
theorem kcStart_every : Code.kcStart.Every Op.quiet := by
  simp [Code.kcStart]

/-- Stopping it is quiet, with or without a join and a signal. -/
theorem kcStopInternal_every (join signal : Bool) :
    (Code.kcStopInternal join signal).Every Op.quiet := by
  simp [Code.kcStopInternal, Code.stopRunning]

/-- Stopping a record is quiet. -/
theorem kcStopRecord_every : Code.kcStopRecord.Every Op.quiet := by
  simp [Code.kcStopRecord]

/-- So are the setters. -/
theorem whenChanged_every (setting : Setting) (setter : Setter) :
    (Code.whenChanged setting (Code.set setter)).Every Op.quiet := by
  simp [Code.whenChanged, Code.set]

/-- Restarting the camera, or copying the parameters, is quiet. -/
theorem applyParams_every (restart : Bool) : (Code.applyParams restart).Every Op.quiet := by
  cases restart with
  | true =>
      refine (kcStopInternal_every true false).bind fun _ => ?_
      simp [Code.kcStart]
  | false => simp [Code.applyParams]

/-- Applying parameters is quiet. -/
theorem kcUpdateParams_every : Code.kcUpdateParams.Every Op.quiet := by
  simp only [Code.kcUpdateParams, Prog.acquire_bind, Prog.perform_bind]
  refine ⟨trivial, fun resolution => (whenChanged_every .framerate .framerate).bind fun _ => ?_⟩
  refine ⟨trivial, fun mode => ?_⟩
  have setters : Prog.Every Op.quiet (do
      Code.whenChanged .brightness Code.kcSetBrightness
      Code.whenChanged .autoShutter Code.kcSetAutoShutter
      Code.whenChanged .awb Code.kcSetAWB
      Code.whenChanged .awbGains Code.kcSetAWBGains
      Code.whenChanged .shutterSpeed Code.kcSetShutterSpeed
      Code.release .params
      if resolution || mode then do
        let run ← Code.perform .readRun
        Code.applyParams run
      else Code.applyParams false) := by
    refine (whenChanged_every .brightness .brightness).bind fun _ => ?_
    refine (whenChanged_every .autoShutter .autoShutter).bind fun _ => ?_
    refine (whenChanged_every .awb .awb).bind fun _ => ?_
    refine (whenChanged_every .awbGains .awbGains).bind fun _ => ?_
    refine (whenChanged_every .shutterSpeed .shutterSpeed).bind fun _ => ?_
    simp only [Prog.release_bind, Prog.perform_bind, Prog.Every, Prog.every_ite]
    exact ⟨fun _ => ⟨trivial, fun run => applyParams_every run⟩, fun _ => applyParams_every false⟩
  simp only [Prog.every_ite]
  exact ⟨fun _ => ⟨trivial, fun _ => setters⟩, fun _ => setters⟩

/-- Taking a live frame sets the timer and is plain. -/
theorem takeStreamFrame_every : Code.takeStreamFrame.Every Op.plain := by
  simp [Code.takeStreamFrame]

/-- A live frame is taken plainly, whether or not the camera runs. -/
theorem kcNextStreamFrame_every : Code.kcNextStreamFrame.Every Op.plain := by
  simp only [Code.kcNextStreamFrame, Prog.perform_bind]
  refine ⟨trivial, fun run => ?_⟩
  simp only [Prog.every_ite]
  exact ⟨fun _ => takeStreamFrame_every,
    fun _ => (plain_of_quiet kcStart_every).bind fun _ => takeStreamFrame_every⟩

/-- Behind the append `kcFrameData` is quiet. -/
theorem finishFrame_every (failed : Bool) : (Code.finishFrame failed).Every Op.quiet := by
  simp [Code.finishFrame, Code.kcStopRecord]

/-- Frames are appended without an array or a reading. -/
theorem kcFrameData_every (capture : Capture) : (Code.kcFrameData capture).Every Op.plain := by
  simp only [Code.kcFrameData, Prog.acquire_bind, Prog.perform_bind]
  refine ⟨trivial, fun begun => ?_⟩
  cases begun with
  | idle => exact plain_of_quiet (kcStopInternal_every false true)
  | outOfMemory record =>
      exact plain_of_quiet (kcStopRecord_every.bind fun _ => kcStopInternal_every false true)
  | recording list frame => exact ⟨trivial, fun res => plain_of_quiet (finishFrame_every _)⟩
  | stored | skipped => exact plain_of_quiet (finishFrame_every false)

/-- Progress is computed without an array or a reading. -/
theorem kcRecordProgress_every : Code.kcRecordProgress.Every Op.plain := by
  simp [Code.kcRecordProgress]

/-! ## run.cpp -/

/-- The video thread's loop knows no arrays. -/
theorem eventLoop_every : Code.eventLoop.Every Op.plain := by
  simp [Code.eventLoop, Code.eventLoopTurn, Code.closeLoop, Code.attempt, Code.unwind]
  intro response
  cases response with
  | none => simp
  | some capture => exact (kcFrameData_every capture).bind fun _ => by simp

/-- Nor does its beginning. -/
theorem vidThread_every : Code.vidThread.Every Op.plain := by
  simp [Code.vidThread, Code.openLoop, Code.attempt, Code.unwind, Code.kcSetBrightness,
    Code.kcSetAWB, Code.kcSetFramerate, Code.kcSetAutoShutter, Code.set]

/-! ## streamer.c -/

/-- A Streamer's end frees lists and itself, and no array. -/
theorem streamerDealloc_every (self : StreamerId) :
    (Code.streamerDealloc self).Every Op.quiet := by
  simp only [Code.streamerDealloc, Prog.perform_bind]
  refine ⟨trivial, ?_⟩
  rintro (- | list)
  · exact (kcStopInternal_every true true).bind fun _ => by simp
  · simp [Code.kcStopRecord]

/-- Behind its first operation `frame` of a recording waits, reads and makes an array. -/
theorem recordFrame_every (self : StreamerId) (bytes : Bool) (list : ListId) :
    ∃ rest, Code.recordFrame self bytes list = .op (.noteIndex self list) rest ∧
      ∀ response, (rest response).Every fun operation =>
        operation.plain ∧ operation.inReading := by
  simp only [Code.recordFrame, Prog.perform_bind]
  refine ⟨_, rfl, fun response => ?_⟩
  simp [Code.kcWaitNextRecordFrame, Code.frameTuple]
  rintro (- | frame) <;> simp

/-- `frame()` of a stream makes an array and frees none. -/
theorem liveFrame_every (self : StreamerId) (bytes : Bool) :
    (Code.liveFrame self bytes).Every Op.plain := by
  simp only [Code.liveFrame, Prog.perform_bind]
  refine ⟨trivial, ?_⟩
  rintro (- | list)
  · refine kcNextStreamFrame_every.bind ?_
    rintro (- | frame) <;> simp [Code.frameTuple]
  · simp [Code.kcWaitLastRecordFrame, Code.frameTuple]

/-- `progress()` is plain. -/
theorem streamerProgress_every (self : StreamerId) :
    (Code.streamerProgress self).Every Op.plain := by
  simp only [Code.streamerProgress, Prog.perform_bind]
  refine ⟨trivial, ?_⟩
  rintro (- | list)
  · exact kcRecordProgress_every.bind fun _ => by simp
  · refine ⟨trivial, fun current => ?_⟩
    simp only [Prog.every_ite]
    exact ⟨fun _ => kcRecordProgress_every.bind fun _ => by simp, fun _ => by simp [Code.locked]⟩

/-- The methods that perform one operation on a list. -/
theorem streamer_every (self : StreamerId) (code : Code Reply)
    (listed : ListId → Code Reply) (unlisted : Code Reply)
    (text : code = (do
      match ← Code.perform (.recordOf self) with
      | some list => listed list
      | none => unlisted))
    (some : ∀ list, (listed list).Every Op.plain) (none : unlisted.Every Op.plain) :
    code.Every Op.plain := by
  rw [text]
  simp only [Prog.perform_bind]
  refine ⟨trivial, ?_⟩
  rintro (- | list)
  · exact none
  · exact some list

/-! ## kcameramodule.c -/

/-- `load()` of a file is quiet, also when it ends the Streamer again. -/
theorem createLoader_every (file : Option (List UInt8)) :
    (Code.createLoader file).Every Op.quiet := by
  refine ⟨trivial, fun made => ⟨trivial, fun error => ?_⟩⟩
  cases error with
  | none => trivial
  | some error => exact (streamerDealloc_every _).bind fun _ => trivial

/-- `record()` is quiet. -/
theorem cameraRecord_every (params : KcParams) : (Code.cameraRecord params).Every Op.quiet := by
  simp only [Code.cameraRecord, Prog.perform_bind]
  have starts : Code.startRecording.Every Op.quiet := by
    simp only [Code.startRecording]
    refine Prog.Every.bind (by simp [Code.kcStartRecord]) ?_
    rintro (- | list)
    · trivial
    · exact kcStart_every.bind fun _ => by simp
  refine ⟨trivial, fun _ => ⟨trivial, fun current => ?_⟩⟩
  simp only [Prog.every_ite]
  exact ⟨fun _ => kcStopRecord_every.bind fun _ => starts, fun _ => starts⟩

/-- `Camera()` is quiet. -/
theorem cameraNew_every (params : KcParams) : (Code.cameraNew params).Every Op.quiet := by
  simp only [Code.cameraNew, Prog.perform_bind]
  refine ⟨trivial, ?_⟩
  rintro (- | camera)
  · trivial
  · refine Prog.Every.bind (by simp [Code.kcInit]) fun _ => ⟨trivial, fun _ => ?_⟩
    exact kcUpdateParams_every.bind fun _ => trivial

/-! ## The interpreter -/

/-- All calls are plain but the end of an array and `frame()`. -/
theorem serve_every {request : Request} (other : ∀ frame, request ≠ .dropArray frame)
    (reads : ∀ self bytes, request ≠ .frame self bytes) :
    (Code.serve request).Every Op.plain := by
  cases request with
  | dropArray frame => exact absurd rfl (other frame)
  | newCamera params => exact plain_of_quiet (cameraNew_every params)
  | deleteCamera => exact plain_of_quiet ((kcStopInternal_every true true).bind fun _ => by simp)
  | setAttr params =>
      exact ⟨trivial, fun _ => plain_of_quiet (kcUpdateParams_every.bind fun _ => trivial)⟩
  | rejected _ | loadEmpty => simp [Code.serve, Code.cameraLoadEmpty]
  | stream params =>
      simp only [Code.serve, Code.cameraStream, Prog.perform_bind]
      refine ⟨trivial, fun _ => ⟨trivial, ?_⟩⟩
      rintro (- | self) <;> simp
  | record params => exact plain_of_quiet (cameraRecord_every params)
  | load file => exact plain_of_quiet (createLoader_every file)
  | delete self => exact plain_of_quiet (streamerDealloc_every self)
  | frame self bytes => exact absurd rfl (reads self bytes)
  | progress self => exact streamerProgress_every self
  | stop self =>
      refine streamer_every self _ _ _ rfl (fun list => ?_) ?_
      · exact plain_of_quiet (kcStopRecord_every.bind fun _ => trivial)
      · exact plain_of_quiet ((kcStopInternal_every true true).bind fun _ => trivial)
  | seek self _ | start self | time self | save self =>
      exact streamer_every self _ _ _ rfl (fun list => by simp [Code.locked]) (by simp)
  | inspect self query =>
      exact streamer_every self _ _ _ rfl (fun list => by simp) (by cases query <;> simp)
  | setStartShift self _ | setDuration self _ =>
      refine ⟨trivial, fun _ => streamer_every self _ _ _ rfl (fun list => ?_) (by simp)⟩
      simp [Code.locked]

/-- The loop of `save()` is plain. -/
theorem saving_every (self : StreamerId) (list : ListId) (len : UInt32) :
    (Code.saving self list len).Every Op.plain := by
  simp [Code.saving, Code.locked, Code.finish]
  rintro (- | size | -) <;> simp

/-- Replying is plain. -/
theorem finish_every (request : Request) (reply : Reply) :
    (Code.finish request reply).Every Op.plain := by
  simp [Code.finish]

/-- No call but the end of an array frees one. -/
theorem serve_inCall {request : Request} (other : ∀ frame, request ≠ .dropArray frame) :
    (Code.serve request).Every Op.inCall := by
  by_cases reads : ∃ self bytes, request = .frame self bytes
  · obtain ⟨self, bytes, rfl⟩ := reads
    simp only [Code.serve, Code.streamerFrame, Prog.perform_bind]
    refine ⟨trivial, ?_⟩
    rintro (- | list)
    · exact (liveFrame_every self bytes).mono fun _ => Op.plain.inCall
    · obtain ⟨rest, text, every⟩ := recordFrame_every self bytes list
      change (Code.recordFrame self bytes list).Every Op.inCall
      rw [text]
      exact ⟨trivial, fun response => (every response).mono fun _ plain => plain.1.inCall⟩
  · refine (serve_every other ?_).mono fun _ => Op.plain.inCall
    rintro self bytes rfl
    exact reads ⟨self, bytes, rfl⟩

/-- A call that has begun to read a recording goes on with that. -/
theorem serve_once (request : Request) (next : Reply → Code Unit)
    (ends : ∀ reply, (next reply).Every fun operation =>
      operation.plain ∧ operation.inReading) :
    (Code.serve request >>= next).Once Op.isNote Op.inReading := by
  have plainly {code : Code Reply} (every : code.Every Op.plain) :
      (code >>= next).Once Op.isNote Op.inReading :=
    (every.mono fun _ => Op.plain.not_isNote).bind_once fun reply =>
      ((ends reply).mono fun _ plain => plain.1.not_isNote).once
  by_cases drops : ∃ frame, request = .dropArray frame
  · obtain ⟨frame, rfl⟩ := drops
    refine ⟨False.elim, fun _ => ?_⟩
    exact ((ends .none).mono fun _ plain => plain.1.not_isNote).once
  by_cases reads : ∃ self bytes, request = .frame self bytes
  · obtain ⟨self, bytes, rfl⟩ := reads
    simp only [Code.serve, Code.streamerFrame, Prog.perform_bind]
    refine ⟨False.elim, ?_⟩
    rintro (- | list)
    · exact plainly (liveFrame_every self bytes)
    · obtain ⟨rest, text, every⟩ := recordFrame_every self bytes list
      change (Code.recordFrame self bytes list >>= next).Once Op.isNote Op.inReading
      rw [text]
      refine ⟨fun _ response => ?_, fun response => ?_⟩
      · exact ((every response).mono fun _ plain => plain.2).bind fun reply =>
          (ends reply).mono fun _ plain => plain.2
      · exact ((every response).mono fun _ plain => plain.1.not_isNote).bind_once fun reply =>
          ((ends reply).mono fun _ plain => plain.1.not_isNote).once
  · exact plainly (serve_every (fun frame same => drops ⟨frame, same⟩)
      fun self bytes same => reads ⟨self, bytes, same⟩)

/-- What runs outside of calls is plain. -/
theorem body_every {label : Label} (other : label ≠ .python) : label.body.Every Op.plain := by
  cases label with
  | python => exact absurd rfl other
  | video => exact vidThread_every
  | eventLoop => exact eventLoop_every
  | saving self list len => exact saving_every self list len

/-- Every program reads a recording at most once before it goes on as a label. -/
theorem body_once (label : Label) : label.body.Once Op.isNote Op.inReading := by
  by_cases python : label = .python
  · subst python
    refine ⟨False.elim, fun request => serve_once request _ fun reply => ?_⟩
    simp [Code.finish]
  · exact ((body_every python).mono fun _ => Op.plain.not_isNote).once

end

/-! ## Runs -/

/-- How far a thread is with the arrays: it takes a call, is in one, or frees the
frame of an array that is still there. -/
inductive ArrayKept (world : World) : Code Unit → Prop where
  | python : ArrayKept world Code.python
  | called (rest : Request → Code Unit)
      (served : ∀ request, rest request = (Code.serve request >>= Code.finish request)) :
      ArrayKept world (.op .nextCall rest)
  | inCall {code : Code Unit} (every : code.Every Op.inCall) : ArrayKept world code
  | freeing {frame : KcFrame} {rest : Unit → Code Unit} (kept : frame ∈ world.arrays)
      (every : ∀ response, (rest response).Every Op.inCall) :
      ArrayKept world (.op (.freeArray frame) rest)

/-- Steps of others matter only to a thread that is about to free an array's frame. -/
theorem ArrayKept.mono {world next : World} {code : Code Unit} (kept : ArrayKept world code)
    (arrays : ∀ frame, code.current = some (.freeArray frame) → frame ∈ world.arrays →
      frame ∈ next.arrays) : ArrayKept next code := by
  cases kept with
  | python => exact .python
  | called rest served => exact .called rest served
  | inCall every => exact .inCall every
  | freeing kept every => exact .freeing (arrays _ rfl kept) every

/-- The call that a request makes. -/
theorem ArrayKept.served {world : World} {request : Request} (callable : world.callable request) :
    ArrayKept world (Code.serve request >>= Code.finish request) := by
  have finishes (reply : Reply) : (Code.finish request reply).Every Op.inCall :=
    (finish_every request reply).mono fun _ => Op.plain.inCall
  by_cases drops : ∃ frame, request = .dropArray frame
  · obtain ⟨frame, rfl⟩ := drops
    refine .freeing (by simpa [World.callable] using callable) fun _ => ?_
    exact finishes _
  · exact .inCall ((serve_inCall fun frame same => drops ⟨frame, same⟩).bind finishes)

/-- The expiry of the live frame frees no array. -/
@[simp] theorem World.expire_arrays (world : World) : world.expire.arrays = world.arrays := by
  unfold World.expire
  repeat' split
  all_goals rfl

/-- Before a frame is built nothing happens to arrays. -/
@[simp] theorem World.readied_arrays (world : World) (capture : Capture) :
    (world.readied capture).arrays = world.arrays := by
  have measured : Agree _ _ .frames :=
    ({ world with captured := capture.pts }.shiftPts capture.pts).measure_agree (by simp)
  rw [World.readied, World.expire_arrays, measured.2.1]
  rfl

/-- What an operation does to the frames of arrays. -/
theorem Op.run_arrays {thread : Tid} {choice : Choice} {operation : Op} {world next : World}
    {response : operation.Resp}
    (executed : operation.run thread choice world = some (next, response)) :
    next.arrays = world.arrays ∨
      (∃ streamer frame bytes, operation = .makeArray streamer frame bytes ∧
        next.arrays = frame :: world.arrays) ∨
      ∃ frame, operation = .freeArray frame ∧ next.arrays = world.arrays.erase frame := by
  by_cases touched : Part.frames ∈ operation.touches
  · cases operation with
    | freeArray frame =>
        rw [result_eq executed]
        exact .inr (.inr ⟨frame, rfl, rfl⟩)
    | makeArray streamer frame bytes =>
        rw [result_eq executed]
        simp only [World.makeArray]
        split
        · exact .inl rfl
        · split
          · exact .inl rfl
          · refine .inr (.inl ⟨streamer, frame, bytes, rfl, ?_⟩)
            split <;> rfl
    | resetState | takeFrame =>
        rw [result_eq executed]
        exact .inl rfl
    | dropFrame =>
        rw [result_eq executed]
        simp only [World.dropFrame, World.detach]
        split <;> exact .inl rfl
    | copyBack list =>
        rw [result_eq executed]
        simp only [World.copyBack, World.copyFrame]
        repeat' split
        all_goals exact .inl rfl
    | next list =>
        rw [result_eq executed]
        simp only [World.next, World.copyFrame]
        repeat' split
        all_goals exact .inl rfl
    | load list file =>
        rw [result_eq executed]
        simp only [World.load]
        split <;> exact .inl rfl
    | freeRecord list =>
        rw [result_eq executed]
        simp only [World.freeRecord]
        split <;> exact .inl rfl
    | append list frame =>
        rcases World.append_cases executed with ⟨⟨fault, rfl⟩, _⟩ | ⟨found, _, _, _, _, value⟩
        · exact .inl rfl
        · rw [value]
          split <;> exact .inl rfl
    | beginFrame capture =>
        rw [result_eq executed]
        refine .inl ?_
        rcases world.beginFrame_cases capture choice.now choice.allocates with
          ⟨_, value⟩ | ⟨_, value⟩ | ⟨_, value⟩ | ⟨_, _, value⟩ | ⟨_, _, value⟩ <;>
          simp [value]
    | _ => simp [Op.touches] at touched
  · exact .inl (run_agree executed touched).2.1

/-- The thread that moves. -/
theorem ArrayKept.own {state next : System} {thread : Tid} {choice : Choice} {woken : Option Tid}
    (kept : ArrayKept state.world (state.code thread))
    (taken : step semantics state (.act thread choice woken) = some next) :
    ArrayKept next.world (next.code thread) := by
  have executed {operation : Op} {response : operation.Resp}
      (performs : operation.exec thread choice state.world = some (next.world, response)) :
      operation.run thread choice state.world = some (next.world, response) := by
    unfold Op.exec at performs
    split at performs
    · cases performs
    · exact performs
  generalize code : state.code thread = before at kept
  cases kept with
  | python =>
      rw [step_lock taken code]
      exact .called _ fun request => rfl
  | called rest served =>
      obtain ⟨request, performs, after⟩ := step_op taken code
      have answer := executed performs
      simp only [Op.run] at answer
      split at answer
      · cases answer
      · split at answer
        · rename_i callable
          simp only [Option.some.injEq, Prod.mk.injEq] at answer
          obtain ⟨world, rfl⟩ := answer
          rw [after, served, ← world]
          exact .mono (.served callable) fun frame _ member => member
        · cases answer
  | freeing kept every =>
      obtain ⟨response, _, after⟩ := step_op taken code
      exact .inCall (after ▸ every response)
  | inCall every =>
      rcases Prog.Every.lasting.step taken (code ▸ every) with goes | ⟨label, _, after⟩
      · exact .inCall goes
      · rw [after]
        by_cases python : label = .python
        · subst python
          exact .python
        · exact .inCall ((body_every python).mono fun _ => Op.plain.inCall)

/-- In every run, whoever is about to free an array's frame finds the array there. -/
theorem arrayKept {condition : System → Tid → Choice → Op → Prop} {state : System}
    (reached : Runs condition state) (thread : Tid) :
    ArrayKept state.world (state.code thread) := by
  refine Reach.invariant (fun state => ∀ thread, ArrayKept state.world (state.code thread)) ?_ ?_
    reached thread
  · rintro _ rfl thread
    cases thread with
    | python index | video index => exact .inCall trivial
  · intro state event next prior kept admitted taken other
    by_cases moves : ∃ choice woken, event = .act other choice woken
    · obtain ⟨choice, woken, rfl⟩ := moves
      exact (kept other).own taken
    · rw [step_code_of_ne taken fun choice woken acts => moves ⟨choice, woken, acts⟩]
      refine (kept other).mono fun frame current member => ?_
      rcases Runs.turn prior admitted taken with ⟨_, same, _⟩ |
        ⟨thread, choice, woken, operation, response, rfl, _, turn, _⟩
      · rw [same]
        exact member
      · rcases Op.run_arrays turn.executed with same | ⟨_, _, _, _, more⟩ | ⟨freed, rfl, _⟩
        · rw [same]
          exact member
        · rw [more]
          exact List.mem_cons_of_mem _ member
        · have mine := turn.disciplined.follows other
          have allowed := mine.allowed semantics discipline other current
          have together := turn.exclusive turn.allowed.2.1 allowed.2.1
          subst together
          exact absurd ⟨choice, woken, rfl⟩ moves

/-- An array is freed while its frame is there. -/
theorem Turn.freeArray_mem {condition : System → Tid → Choice → Op → Prop} {state : System}
    {thread : Tid} {choice : Choice} {frame : KcFrame} {world : World} {response : Unit}
    (turn : Turn condition state thread choice (.freeArray frame) world response) :
    frame ∈ state.world.arrays := by
  have current := turn.current
  have kept := arrayKept turn.reached thread
  generalize state.code thread = code at current kept
  cases kept with
  | python => cases current
  | called rest served => cases current
  | inCall every => exact absurd (every.current current) id
  | freeing kept every =>
      cases current
      exact kept

section

variable {condition : System → Tid → Choice → Op → Prop} {state : System} {thread : Tid}
  {choice : Choice} {operation : Op} {world : World} {response : operation.Resp}

/-- Only `noteIndex` begins to read a recording. -/
theorem Turn.noted_before (turn : Turn condition state thread choice operation world response)
    (other : ¬operation.isNote) {list : ListId}
    (noted : ((state.stage thread).after operation response).noted = some list) :
    (state.stage thread).noted = some list := by
  by_cases moves : Mark.noted ∈ operation.marks
  · cases operation with
    | noteIndex self list => exact absurd trivial other
    | next asked =>
        simp only [Stage.after] at noted
        split at noted
        · exact noted
        · cases noted
    | endCall request reply | makeArray streamer frame bytes => simp [Stage.idle] at noted
    | nextRecordFrame asked =>
        simp only [Stage.after] at noted
        split at noted <;> exact noted
    | _ => simp [Op.marks] at moves
  · have shares : (state.stage thread).Shares _ .noted := turn.shares moves
    exact shares.1 ▸ noted

/-- A thread that has begun to read a recording goes on with that. -/
structure ReadsOn (stage : Stage) (code : Code Unit) : Prop where
  once : code.Once Op.isNote Op.inReading
  every : stage.noted.isSome → code.Every Op.inReading

/-- A thread that goes on as a label reads nothing. -/
theorem unnoted_of_jump (reached : Runs condition state) {label : Label}
    (code : state.code thread = .jump label) : (state.stage thread).noted = none := by
  have follows := reached.disciplined.follows thread
  rw [code] at follows
  cases label with
  | python | video =>
      obtain ⟨_, stage, _⟩ := follows
      rw [stage]
      rfl
  | eventLoop =>
      obtain ⟨_, stage, _⟩ := follows
      rw [stage]
  | saving self list len =>
      obtain ⟨_, _, stage⟩ := follows
      rw [stage]

/-- One step of any thread keeps a reader at its reading. -/
theorem ReadsOn.step {next : System} {event : Event Tid Choice} (reached : Runs condition state)
    (admitted : performing condition state event) (taken : step semantics state event = some next)
    (reads : ReadsOn (state.stage thread) (state.code thread)) :
    ReadsOn (next.stage thread) (next.code thread) := by
  have onward (before : (state.stage thread).noted.isSome) :
      (next.code thread).Every Op.inReading := by
    rcases Prog.Every.lasting.step taken (reads.every before) with goes | ⟨label, code, _⟩
    · exact goes
    · simp [unnoted_of_jump reached code] at before
  constructor
  · rcases Prog.Once.lasting.step taken reads.once with goes | ⟨label, _, after⟩
    · exact goes
    · rw [after]
      exact body_once label
  · intro noted
    rcases Runs.turn reached admitted taken with ⟨_, _, same⟩ |
      ⟨mover, choice, woken, operation, response, rfl, current, turn, stage⟩
    · exact onward (same ▸ noted)
    · by_cases own : thread = mover
      · subst own
        rw [stage, Function.update_self] at noted
        by_cases note : operation.isNote
        · have once := reads.once
          cases code : state.code thread with
          | op performed rest =>
              obtain ⟨answer, _, after⟩ := step_op taken code
              have same := turn.current
              rw [code] at once same
              cases same
              exact after ▸ once.1 note answer
          | await test again mutex rest =>
              have same := turn.current
              rw [code] at once same
              cases same
              exact absurd note once.1
          | _ =>
              have same := turn.current
              rw [code] at same
              cases same
        · obtain ⟨list, noted⟩ := Option.isSome_iff_exists.mp noted
          exact onward (by simp [turn.noted_before note noted])
      · rw [stage, Function.update_of_ne own] at noted
        exact onward noted

/-- In every run, a thread that has begun to read does nothing else. -/
theorem readsOn (reached : Runs condition state) (thread : Tid) :
    ReadsOn (state.stage thread) (state.code thread) := by
  refine Reach.invariant (fun state => ∀ thread, ReadsOn (state.stage thread) (state.code thread))
    ?_ ?_ reached thread
  · rintro _ rfl thread
    cases thread with
    | python index | video index => exact ⟨trivial, fun _ => trivial⟩
  · intro state event next prior reads admitted taken other
    exact (reads other).step prior admitted taken

/-- What a thread performs that has begun to read a recording. -/
theorem Turn.inReading (turn : Turn condition state thread choice operation world response)
    (noted : (state.stage thread).noted.isSome) : operation.inReading :=
  ((readsOn turn.reached thread).every noted).current turn.current

end

end KCamera
