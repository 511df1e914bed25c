import KCamera.Engine.Stage

/-!
# The code follows the discipline

One lemma for each function, used by its callers. A function is checked
together with the code `next` that runs after it; the hypothesis about `next`
says at which stage the function leaves its thread.
-/

namespace KCamera

open Machine

/-- `thread`, at `stage` and holding `held`, runs `code` within the discipline. -/
def Obeys (thread : Tid) (stage : Stage) (held : List Mutex) (code : Code Unit) : Prop :=
  Follows semantics discipline thread stage held code

/-- The mutexes of the stage are among those held. -/
@[simp] def Stage.within (stage : Stage) (held : List Mutex) : Prop :=
  (stage.holds .gil → .gil ∈ held) ∧ (stage.holds .params → .params ∈ held) ∧
    (stage.holds .frame → .frame ∈ held)

/-- `within` spelled out for one mutex at a time. -/
theorem Stage.within_iff (stage : Stage) (held : List Mutex) :
    (∀ mutex, stage.holds mutex → mutex ∈ held) ↔ stage.within held := by
  constructor
  · intro all
    exact ⟨all .gil, all .params, all .frame⟩
  · rintro ⟨gil, params, frame⟩ mutex holds
    cases mutex with
    | gil => exact gil holds
    | params => exact params holds
    | frame => exact frame holds
    | record _ | controls => cases holds

/-- When a thread may wait for a mutex. -/
@[simp] def MayLock (thread : Tid) (stage : Stage) (held : List Mutex) (mutex : Mutex) : Prop :=
  (∀ other ∈ held, other.rank < mutex.rank) ∧ (mutex = .gil → thread.isPython) ∧
    (mutex = .params → thread.isPython ∨ stage.selfStop)

/-! ## Instructions -/

section Rules

variable {thread : Tid} {stage : Stage} {held : List Mutex}

/-- An operation must be allowed, and what follows is checked at the stage it leads
to. -/
@[simp] theorem obeys_op {operation : Op} {rest : operation.Resp → Code Unit} :
    Obeys thread stage held (.op operation rest) ↔ stage.allows thread held operation ∧
      ∀ response, (stage.after operation response).within held ∧
        Obeys thread (stage.after operation response) held (rest response) := by
  simp only [Obeys, Follows, ← Stage.within_iff]
  rfl

/-- A thread takes only mutexes it may wait for and does not hold. -/
@[simp] theorem obeys_lock {mutex : Mutex} {rest : Code Unit} :
    Obeys thread stage held (.lock mutex rest) ↔ MayLock thread stage held mutex ∧
      mutex ∉ held ∧ Obeys thread stage (mutex :: held) rest := Iff.rfl

/-- A thread gives back only what it holds and its stage does not need. -/
@[simp] theorem obeys_unlock {mutex : Mutex} {rest : Code Unit} :
    Obeys thread stage held (.unlock mutex rest) ↔ mutex ∈ held ∧ ¬stage.holds mutex ∧
      Obeys thread stage (held.erase mutex) rest := Iff.rfl

/-- A broadcast leaves the stage and the held mutexes alone. -/
@[simp] theorem obeys_signal {rest : Code Unit} :
    Obeys thread stage held (.signal rest) ↔ Obeys thread stage held rest := Iff.rfl

/-- A thread that sleeps in a wait loop stays at its stage and holds what it
held around the loop. -/
@[simp] theorem obeys_await {test : Op} {again : test.Resp → Bool} {mutex : Mutex} {rest : Code Unit} :
    Obeys thread stage held (.await test again mutex rest) ↔
      stage.allows thread held test ∧ ¬stage.holds mutex ∧
        (∃ outer, held = mutex :: outer ∧ mutex ∉ outer ∧ MayLock thread stage outer mutex) ∧
        ∀ response, if again response then stage.after test response = stage
          else (stage.after test response).within held ∧
            Obeys thread (stage.after test response) held rest := by
  simp only [Obeys, Follows, ← Stage.within_iff]
  rfl

/-- A jump is checked at its label's entry, not inlined. -/
@[simp] theorem obeys_jump {label : Label} :
    Obeys thread stage held (.jump label) ↔ discipline.entry thread label stage held := Iff.rfl

/-- A thread ends with no mutex held. -/
@[simp] theorem obeys_done {value : Unit} : Obeys thread stage held (.done value) ↔ held = [] := Iff.rfl

end Rules

/-- A stage at which an interpreter's thread runs the engine's functions. -/
structure Stage.Calling (stage : Stage) (request : Request) : Prop where
  called : stage.calling = some request
  switch : stage.switch = .none
  selfStop : stage.selfStop = false
  deferred : stage.deferred = none
  appending : stage.appending = none
  progressing : stage.progressing = false
  reading : stage.reading = none
  limited : stage.limited = false
  finishing : stage.finishing = false

/-- A stage at which it also starts and stops the camera. -/
structure Stage.Founded (stage : Stage) (request : Request) : Prop
    extends stage.Calling request where
  footing : stage.footing = .settled
  released : stage.released = false
  license : request.ofCamera ∨ request.drives ∧ ∃ streamer, stage.self = some (streamer, none)

/-- Nothing keeps the thread from giving the interpreter lock back. -/
structure Stage.Free (stage : Stage) (request : Request) : Prop
    extends stage.Founded request where
  restarting : stage.restarting = false
  binding : stage.binding = none
  loading : stage.loading = none
  closing : stage.closing = none
  noted : stage.noted = none
  waited : stage.waited = none
  carried : stage.carried = none
  seen : stage.seen = some none
  alone : ∀ self list, stage.self ≠ some (self, some list)

section Python

variable {index : Nat} {stage : Stage} {request : Request}

/-- A call that has only looked at its Streamer and at the record. -/
theorem Stage.calling_of {self : Option (StreamerId × Option ListId)}
    {seen : Option (Option ListId)} :
    Stage.Calling { calling := some request, self, seen } request :=
  ⟨rfl, rfl, rfl, rfl, rfl, rfl, rfl, rfl, rfl⟩

/-- Such a call may start and stop the camera when its request licenses that. -/
theorem Stage.founded_of {self : Option (StreamerId × Option ListId)}
    {seen : Option (Option ListId)}
    (license : request.ofCamera ∨ request.drives ∧ ∃ streamer, self = some (streamer, none)) :
    Stage.Founded { calling := some request, self, seen } request :=
  ⟨calling_of, rfl, rfl, license⟩

/-- A stage without a new recording is one that `kcStart` leaves alone. -/
theorem Stage.started (unbound : stage.binding = none) (settled : stage.restarting = false) :
    { stage with
      restarting := false
      binding := stage.binding.map fun (list, _) => (list, true) } = stage := by
  cases stage
  subst unbound settled
  rfl

/-! ## kcamera.c -/

/-- After `kcInit` the call stands on the Camera it has just made. -/
theorem kcInit_obeys {camera : CameraId} {next : Unit → Code Unit}
    (calling : stage.Calling request) (elsewhere : request.reads = false)
    (new : stage.footing = .new camera)
    (rest : Obeys (.python index) { stage with footing := .settled } [.gil] (next ())) :
    Obeys (.python index) stage [.gil] (Code.kcInit camera >>= next) := by
  obtain ⟨called, switch, _, _, appending, _, _, _, finishing⟩ := calling
  cases stage
  subst called switch appending finishing new
  simpa [Code.kcInit, elsewhere] using rest

/-- `kcStart` ends a restart, and the state was reset for the list that waits for a
Streamer. -/
theorem kcStart_obeys {next : Unit → Code Unit} (founded : stage.Founded request)
    (rest : Obeys (.python index)
      { stage with
        restarting := false
        binding := stage.binding.map fun (list, _) => (list, true) } [.gil] (next ())) :
    Obeys (.python index) stage [.gil] (Code.kcStart >>= next) := by
  obtain ⟨⟨called, switch, _, _, appending, _, _, _, finishing⟩, footing, released, license⟩ := founded
  cases stage
  subst called switch appending finishing footing released
  simpa [Code.kcStart, license] using rest

/-- When `m_stopping` is set `kcStopInternal` does nothing. -/
theorem kcStop_obeys (signal : Bool) {next : Unit → Code Unit} (founded : stage.Founded request)
    (elsewhere : request.reads = false) (already : Obeys (.python index) stage [.gil] (next ()))
    (rest : Obeys (.python index) { stage with restarting := !signal } [.gil] (next ())) :
    Obeys (.python index) stage [.gil] (Code.kcStopInternal true signal >>= next) := by
  obtain ⟨⟨called, switch, selfStop, _, appending, _, _, _, finishing⟩, footing, released, license⟩ :=
    founded
  cases stage
  subst called switch selfStop appending finishing footing released
  cases signal <;>
    simpa [Code.kcStopInternal, Code.stopRunning, elsewhere, license] using ⟨rest, already⟩

/-- The wait ends with a list to read from, noted and waited for. -/
theorem kcWaitNextRecordFrame_obeys {self : StreamerId} {list : ListId}
    {seen : Option (Option ListId)} {next : Unit → Code Unit}
    (rest : Obeys (.python index)
      { calling := some request, self := some (self, some list), seen, noted := some list,
        waited := some list } [.gil] (next ())) :
    Obeys (.python index)
      { calling := some request, self := some (self, some list), seen, noted := some list } [.gil]
      (Code.kcWaitNextRecordFrame list >>= next) := by
  simpa [Code.kcWaitNextRecordFrame] using rest

/-- The wait ends with the record's last frame to be copied. -/
theorem kcWaitLastRecordFrame_obeys {about : Option (StreamerId × Option ListId)} {list : ListId}
    {next : Unit → Code Unit}
    (rest : Obeys (.python index)
      { calling := some request, self := about, seen := some (some list), awaited := true } [.gil]
      (next ())) :
    Obeys (.python index) { calling := some request, self := about, seen := some (some list) } [.gil]
      (Code.kcWaitLastRecordFrame >>= next) := by
  simpa [Code.kcWaitLastRecordFrame] using rest

/-- The interpreter lock is given back while the thread waits for a frame. -/
theorem takeStreamFrame_obeys {next : Option KcFrame → Code Unit} (free : stage.Free request)
    (rest : ∀ released frame, Obeys (.python index)
      { stage with seen := none, released, carried := frame } [.gil] (next frame)) :
    Obeys (.python index) stage [.gil] (Code.takeStreamFrame >>= next) := by
  obtain ⟨⟨⟨called, switch, _, _, appending, progressing, _, _, finishing⟩, footing, released, _⟩,
    settled, binding, loading, closing, noted, waited, carried, seen, alone⟩ := free
  cases stage
  subst called switch appending progressing finishing footing released settled binding loading
    closing noted waited carried seen
  simp only at alone
  simpa [Code.takeStreamFrame, alone] using ⟨rest false, rest true⟩

/-- `kcNextStreamFrame` first starts the camera if it does not run, then takes a
frame. -/
theorem kcNextStreamFrame_obeys {next : Option KcFrame → Code Unit} (free : stage.Free request)
    (rest : ∀ released frame, Obeys (.python index)
      { stage with seen := none, released, carried := frame } [.gil] (next frame)) :
    Obeys (.python index) stage [.gil] (Code.kcNextStreamFrame >>= next) := by
  have take := takeStreamFrame_obeys free rest
  have start : Obeys (.python index) stage [.gil]
      (Code.kcStart >>= fun _ => Code.takeStreamFrame >>= next) :=
    kcStart_obeys free.toFounded (by rwa [Stage.started free.binding free.restarting])
  simpa [Code.kcNextStreamFrame, free.called, free.switch, free.appending, free.finishing] using ⟨start, take⟩

/-- After `kcStopRecord` the record that the call has seen is gone. -/
theorem kcStopRecord_obeys {next : Unit → Code Unit} (calling : stage.Calling request)
    (rest : Obeys (.python index) { stage with seen := stage.seen.map fun _ => none } [.gil]
      (next ())) :
    Obeys (.python index) stage [.gil] (Code.kcStopRecord >>= next) := by
  obtain ⟨called, switch, _, deferred, appending, _, _, _, finishing⟩ := calling
  cases stage
  subst called switch deferred appending finishing
  simpa [Code.kcStopRecord] using rest

/-- A setter takes the mutex of the controls, which is last in the order. -/
theorem set_obeys {thread : Tid} {held : List Mutex} {next : Unit → Code Unit} (setter : Setter)
    (within : stage.within held) (below : ∀ other ∈ held, other.rank < 4)
    (allowed : stage.allows thread held (.setControl setter))
    (rest : Obeys thread stage held (next ())) :
    Obeys thread stage held (Code.set setter >>= next) := by
  have outside : Mutex.controls ∉ held := fun held => by simpa using below _ held
  simp only [Stage.within, Stage.holds] at within
  simpa [Code.set] using
    ⟨below, outside, by simpa using allowed, by simpa using within, rest⟩

/-- Whether or not the setting has changed, the stage is the same afterwards. -/
theorem whenChanged_obeys {setting : Setting} {setter : Setter} {next : Unit → Code Unit}
    (founded : stage.Founded request) :
    Obeys (.python index) stage [.params, .gil]
        (Code.whenChanged setting (Code.set setter) >>= next) ↔
      Obeys (.python index) stage [.params, .gil] (next ()) := by
  obtain ⟨⟨called, switch, _, _, appending, _, _, _, finishing⟩, footing, released, license⟩ := founded
  have set (rest : Obeys (.python index) stage [.params, .gil] (next ())) :
      Obeys (.python index) stage [.params, .gil] (Code.set setter >>= next) :=
    set_obeys setter (by simp [appending, switch, finishing]) (by simp)
      (by simp [called, footing, released, license]) rest
  simpa [Code.whenChanged, called, appending, finishing, switch, footing, released, license] using set

/-- A restart leaves nothing of it behind. -/
theorem applyParams_obeys (restart : Bool) {next : Unit → Code Unit}
    (founded : stage.Founded request) (elsewhere : request.reads = false)
    (unbound : stage.binding = none) (settled : stage.restarting = false)
    (rest : Obeys (.python index) stage [.gil] (next ())) :
    Obeys (.python index) stage [.gil] (Code.applyParams restart >>= next) := by
  have restarted (restarting : Bool) : Obeys (.python index) { stage with restarting } [.gil]
      (Code.perform .resetShutter >>= fun _ => Code.kcStart >>= next) := by
    obtain ⟨calling, footing, released, license⟩ := founded
    have start : Obeys (.python index) { stage with restarting } [.gil] (Code.kcStart >>= next) :=
      kcStart_obeys ⟨⟨calling.called, calling.switch, calling.selfStop, calling.deferred,
        calling.appending, calling.progressing, calling.reading, calling.limited,
        calling.finishing⟩, footing, released, license⟩
        (by simpa only [Stage.started unbound settled] using rest)
    simpa [calling.called, calling.switch, calling.appending, calling.finishing, footing, released,
      license] using start
  have stop : Obeys (.python index) stage [.gil] (Code.kcStopInternal true false >>= fun _ =>
      Code.perform .resetShutter >>= fun _ => Code.kcStart >>= next) :=
    kcStop_obeys false founded elsewhere (restarted stage.restarting) (restarted true)
  cases restart with
  | false =>
      simpa [Code.applyParams, founded.called, founded.switch, founded.appending, founded.finishing,
        founded.footing, founded.released, founded.license] using rest
  | true => simpa [Code.applyParams] using stop

/-- `kcUpdateParams` gives `m_paramsMutex` back before it restarts the camera. -/
theorem kcUpdateParams_obeys {next : Unit → Code Unit} (founded : stage.Founded request)
    (elsewhere : request.reads = false) (unbound : stage.binding = none)
    (settled : stage.restarting = false) (rest : Obeys (.python index) stage [.gil] (next ())) :
    Obeys (.python index) stage [.gil] (Code.kcUpdateParams >>= next) := by
  have apply (restart : Bool) : Obeys (.python index) stage [.gil] (Code.applyParams restart >>= next) :=
    applyParams_obeys restart founded elsewhere unbound settled rest
  simpa [Code.kcUpdateParams, Code.kcSetFramerate, Code.kcSetBrightness, Code.kcSetAutoShutter,
    Code.kcSetAWB, Code.kcSetAWBGains, Code.kcSetShutterSpeed, whenChanged_obeys founded,
    founded.called, founded.appending, founded.finishing, founded.switch, founded.footing,
    founded.released, founded.license] using ⟨apply false, apply true⟩

/-- `kcStartRecord` gives no list when there is a record, and else one that waits
for a Streamer. -/
theorem kcStartRecord_obeys {self : Option (StreamerId × Option ListId)}
    {seen : Option (Option ListId)} {next : Option ListId → Code Unit}
    (camera : request.ofCamera)
    (already : ∀ seen, Obeys (.python index) { calling := some request, self, seen } [.gil]
      (next none))
    (started : ∀ list, Obeys (.python index)
      { calling := some request, self, binding := some (list, false) } [.gil] (next (some list))) :
    Obeys (.python index) { calling := some request, self, seen } [.gil]
      (Code.kcStartRecord >>= next) := by
  simp [Code.kcStartRecord]
  rintro (_ | record)
  · simpa [camera] using started
  · exact already (some (some record))

/-- The limits of the record are read with its mutex held. -/
theorem kcRecordProgress_obeys {next : UInt32 → Code Unit} (calling : stage.Calling request)
    (rest : ∀ progress, Obeys (.python index) stage [.gil] (next progress)) :
    Obeys (.python index) stage [.gil] (Code.kcRecordProgress >>= next) := by
  obtain ⟨called, switch, _, _, appending, progressing, reading, limited, finishing⟩ := calling
  cases stage
  subst called switch appending progressing reading limited finishing
  simpa [Code.kcRecordProgress] using
    ⟨rest 100, fun p0 => ⟨rest (max p0 0), fun p1 => rest (max p0 p1)⟩⟩

end Python

section Video

variable {index : Nat}

/-- The video thread ends a recording because of what it found in `kcFrameData`. -/
theorem kcStopRecord_obeys_video {selfStop : Bool} {deferred : Option (Option ListId)}
    {next : Unit → Code Unit}
    (rest : Obeys (.video index) { phase := .published, set := true, selfStop } [] (next ())) :
    Obeys (.video index) { phase := .published, set := true, selfStop, deferred } []
      (Code.kcStopRecord >>= next) := by
  simpa [Code.kcStopRecord] using rest

/-- The video thread stops the camera itself, without joining. -/
theorem kcStopInternal_obeys_video {next : Unit → Code Unit}
    (rest : Obeys (.video index) { phase := .published, set := true } [] (next ())) :
    Obeys (.video index) { phase := .published, set := true, selfStop := true } []
      (Code.kcStopInternal false true >>= next) := by
  simpa [Code.kcStopInternal, Code.stopRunning] using rest

/-- The end of `kcFrameData`, behind the append: a record that has failed or expired
is stopped after `m_frameMutex` is given back. -/
theorem finishFrame_obeys {failed : Bool} {deferred : Option (Option ListId)}
    {next : Unit → Code Unit} (reason : failed = false → deferred = none)
    (rest : Obeys (.video index) { phase := .published, set := true } [] (next ())) :
    Obeys (.video index) { phase := .published, set := true, deferred, finishing := true } [.frame]
      (Code.finishFrame failed >>= next) := by
  have stop (deferred : Option (Option ListId)) : Obeys (.video index)
      { phase := .published, set := true, deferred } [] (Code.kcStopRecord >>= next) :=
    kcStopRecord_obeys_video rest
  simp [Code.finishFrame]
  rintro (_ | record)
  · cases failed with
    | false => simpa [reason] using rest
    | true => simpa using stop deferred
  · simpa using stop (some (some record))

/-- In each of the five ways a frame can begin, the video thread returns to its loop
with no mutex held. -/
theorem kcFrameData_obeys {capture : Capture} {next : Unit → Code Unit}
    (rest : Obeys (.video index) { phase := .published, set := true } [] (next ())) :
    Obeys (.video index) { phase := .published, set := true } [] (Code.kcFrameData capture >>= next) := by
  have finish : Obeys (.video index) { phase := .published, set := true, finishing := true } [.frame]
      (Code.finishFrame false >>= next) := finishFrame_obeys (fun _ => rfl) rest
  have stop := kcStopInternal_obeys_video rest
  simp [Code.kcFrameData]
  intro begun
  cases begun with
  | idle => simpa using stop
  | outOfMemory record =>
      simpa [Prog.bind_assoc] using kcStopRecord_obeys_video stop
  | recording list frame =>
      simp
      intro status
      by_cases failed : status < 0
      · simpa [failed] using finishFrame_obeys (by simp) rest
      · simpa [failed] using finish
  | stored => simpa using finish
  | skipped => simpa using finish

/-! ## run.cpp -/

/-- A thrown exception ends the video thread without another call of the engine. -/
theorem unwind_obeys {left : Bool} :
    Obeys (.video index) { phase := .published, set := true, left, threw := true } []
      Code.unwind := by
  simp [Code.unwind, Code.perform, Prog.perform]

/-- A libcamera call that may throw: both ways on follow the discipline. -/
theorem attempt_obeys {left : Bool} {rest : Code Unit}
    (follows : Obeys (.video index) { phase := .published, set := true, left } [] rest) :
    Obeys (.video index) { phase := .published, set := true, left } [] (Code.attempt rest) := by
  simpa [Code.attempt] using ⟨follows, unwind_obeys⟩

/-- The start-up of `event_loop`, with its four setters. -/
theorem openLoop_obeys : Obeys (.video index) { phase := .published, set := true } [] Code.openLoop := by
  have loop : Obeys (.video index) { phase := .published, set := true } [] (Code.jump .eventLoop) := by
    simp [Code.jump, discipline]
  have start := attempt_obeys (attempt_obeys (attempt_obeys loop))
  have set (setter : Setter) {next : Unit → Code Unit}
      (rest : Obeys (.video index) { phase := .published, set := true } [] (next ())) :
      Obeys (.video index) { phase := .published, set := true } [] (Code.set setter >>= next) :=
    set_obeys setter (by simp) (by simp) (by simp) rest
  simpa [Code.openLoop, Code.kcSetBrightness, Code.kcSetAWB, Code.kcSetFramerate,
    Code.kcSetAutoShutter] using
    set .brightness (set .awb (set .framerate (set .autoShutter start)))

/-- One turn of the loop, from the request to `kcFrameData`. -/
theorem eventLoopTurn_obeys :
    Obeys (.video index) { phase := .published, set := true } [] Code.eventLoopTurn := by
  have unwind : Obeys (.video index) { phase := .published, set := true, threw := true } []
      Code.unwind := unwind_obeys
  have loop : Obeys (.video index) { phase := .published, set := true } [] (Code.jump .eventLoop) := by
    simp [Code.jump, discipline]
  simp only [Code.eventLoopTurn, Prog.acquire_bind, Prog.perform_bind, Prog.release_bind, obeys_lock,
    obeys_op, obeys_unlock]
  refine ⟨by simp, by simp, by simp, fun threw => ⟨by simp, by simp, by simp, ?_⟩⟩
  cases threw with
  | true => simpa using unwind
  | false =>
      refine attempt_obeys ?_
      simp only [obeys_op]
      refine ⟨by simp, fun taken => ⟨by simp, ?_⟩⟩
      cases taken with
      | none => exact unwind
      | some capture => exact kcFrameData_obeys (attempt_obeys loop)

/-- The end of `event_loop` after its loop was left. -/
theorem closeLoop_obeys :
    Obeys (.video index) { phase := .published, set := true, left := true } [] Code.closeLoop := by
  refine attempt_obeys ?_
  simp [Code.perform, Prog.perform]

/-- The loop's test, and what follows in either case. -/
theorem eventLoop_obeys : Obeys (.video index) { phase := .published, set := true } [] Code.eventLoop := by
  simpa [Code.eventLoop] using
    ⟨closeLoop_obeys, eventLoopTurn_obeys⟩

/-- The video thread from its creation on. -/
theorem vidThread_obeys : Obeys (.video index) .idle [] Code.vidThread := by
  simpa [Code.vidThread, Code.perform, Prog.perform, Stage.idle] using openLoop_obeys

end Video

/-! ## streamer.c -/

section Calls

variable {index : Nat} {request : Request} {list : ListId}
  {about : Option (StreamerId × Option ListId)} {seen : Option (Option ListId)}
  {self : StreamerId} {next : Reply → Code Unit}
  (rest : ∀ about seen made released footing reply, (∀ camera, footing ≠ .new camera) →
    Obeys (.python index) { calling := some request, self := about, seen, made, released, footing }
      [.gil] (next reply))

include rest

/-- `frame()` of a Streamer that has a record. -/
theorem recordFrame_obeys {bytes : Bool} : Obeys (.python index)
    { calling := some request, self := some (self, some list), seen } [.gil]
    (Code.recordFrame self bytes list >>= next) := by
  simp [Code.recordFrame]
  refine kcWaitNextRecordFrame_obeys ?_
  simp
  rintro (_ | frame)
  · simpa using rest _ _ _ _ .settled _ Footing.settled_ne_new
  · simpa [Code.frameTuple] using fun _ => rest _ _ _ _ .settled _ Footing.settled_ne_new

/-- `frame()` of a Streamer that has none: from the record being made, or from the
stream. -/
theorem liveFrame_obeys {bytes : Bool} (drives : request.drives) :
    Obeys (.python index) { calling := some request, self := some (self, none), seen } [.gil]
      (Code.liveFrame self bytes >>= next) := by
  simp [Code.liveFrame]
  rintro (_ | list)
  · simp
    refine kcNextStreamFrame_obeys
      ⟨Stage.founded_of (.inr ⟨drives, self, rfl⟩), rfl, rfl, rfl, rfl, rfl, rfl, rfl, rfl, by simp⟩ ?_
    rintro released (_ | frame)
    · simpa using rest _ _ _ _ .settled _ Footing.settled_ne_new
    · simpa [Code.frameTuple] using fun _ => rest _ _ _ _ .settled _ Footing.settled_ne_new
  · simp
    refine kcWaitLastRecordFrame_obeys ?_
    simpa [Code.frameTuple] using fun _ _ => rest _ _ _ _ .settled _ Footing.settled_ne_new

/-- `frame()` in both cases. -/
theorem streamerFrame_obeys {bytes : Bool} (drives : request.drives) :
    Obeys (.python index) { calling := some request, self := about, seen } [.gil]
      (Code.streamerFrame self bytes >>= next) := by
  simp [Code.streamerFrame]
  rintro (_ | list)
  · exact liveFrame_obeys rest drives
  · exact recordFrame_obeys rest

/-- `seek()` takes the record's mutex only. -/
theorem streamerSeek_obeys {n : UInt32} :
    Obeys (.python index) { calling := some request, self := about, seen } [.gil]
      (Code.streamerSeek self n >>= next) := by
  simp [Code.streamerSeek, Code.locked]
  rintro (_ | list) <;> simpa using rest _ _ _ _ .settled _ Footing.settled_ne_new

/-- The calls that read one thing without a mutex. -/
theorem streamerInspect_obeys {query : Query} :
    Obeys (.python index) { calling := some request, self := about, seen } [.gil]
      (Code.streamerInspect self query >>= next) := by
  simp [Code.streamerInspect]
  rintro (_ | list)
  · cases query <;> simp [rest]
  · simp [rest]

/-- `progress()` asks the engine while the record is the Streamer's own. -/
theorem streamerProgress_obeys :
    Obeys (.python index) { calling := some request, self := about, seen } [.gil]
      (Code.streamerProgress self >>= next) := by
  simp [Code.streamerProgress]
  rintro (_ | list)
  · simpa using kcRecordProgress_obeys Stage.calling_of fun _ => rest _ _ _ _ .settled _ Footing.settled_ne_new
  · simp
    intro current
    by_cases same : current = some list
    · simpa [same] using kcRecordProgress_obeys Stage.calling_of fun _ => rest _ _ _ _ .settled _ Footing.settled_ne_new
    · simpa [same, Code.locked] using fun _ => rest _ _ _ _ .settled _ Footing.settled_ne_new

/-- `time()` takes the record's mutex only. -/
theorem streamerTime_obeys :
    Obeys (.python index) { calling := some request, self := about, seen } [.gil]
      (Code.streamerTime self >>= next) := by
  simp [Code.streamerTime, Code.locked]
  rintro (_ | list) <;> simp [rest]

/-- The second half of `record()`: the list, the start and the Streamer. -/
theorem startRecording_obeys (camera : request.ofCamera) :
    Obeys (.python index) { calling := some request, self := about, seen } [.gil]
      (Code.startRecording >>= next) := by
  simp only [Code.startRecording, Prog.bind_assoc]
  refine kcStartRecord_obeys camera (fun _ => rest _ _ _ _ .settled _ Footing.settled_ne_new) fun list => ?_
  simp only [Prog.bind_assoc]
  refine kcStart_obeys ⟨⟨rfl, rfl, rfl, rfl, rfl, rfl, rfl, rfl, rfl⟩, rfl, rfl, .inl camera⟩ ?_
  simp [rest, camera]

/-- `record()` stops a record that there is before it starts its own. -/
theorem cameraRecord_obeys {params : KcParams} (camera : request.ofCamera) :
    Obeys (.python index) { calling := some request, self := about, seen } [.gil]
      (Code.cameraRecord params >>= next) := by
  simp [Code.cameraRecord]
  rintro (_ | list)
  · simpa using startRecording_obeys rest camera
  · simpa using kcStopRecord_obeys Stage.calling_of (startRecording_obeys rest camera)

variable (elsewhere : request.reads = false)

include elsewhere

/-- The end of a Streamer: a stream stops the camera, a current record is stopped,
then all is freed. -/
theorem streamerDealloc_obeys (license : request.ofCamera ∨ request.drives) :
    Obeys (.python index) { calling := some request, self := about, seen } [.gil]
      (Code.streamerDealloc self >>= next) := by
  simp [Code.streamerDealloc]
  rintro (_ | list)
  · simp
    refine kcStop_obeys true (Stage.founded_of (license.imp id fun drives => ⟨drives, self, rfl⟩))
      elsewhere ?_ ?_ <;>
      simpa [elsewhere] using rest _ _ _ _ .settled _ Footing.settled_ne_new
  · simp
    intro current
    by_cases same : current = some list
    · simp [same]
      refine kcStopRecord_obeys Stage.calling_of ?_
      simpa [elsewhere] using rest _ _ _ _ .settled _ Footing.settled_ne_new
    · simpa [same, elsewhere] using rest _ _ _ _ .settled _ Footing.settled_ne_new

/-- `stop()` of a stream stops the camera, of a record the record. -/
theorem streamerStop_obeys (drives : request.drives) :
    Obeys (.python index) { calling := some request, self := about, seen } [.gil]
      (Code.streamerStop self >>= next) := by
  simp [Code.streamerStop]
  rintro (_ | list)
  · simpa [Code.kcStop] using kcStop_obeys true (Stage.founded_of (.inr ⟨drives, self, rfl⟩)) elsewhere
      (rest _ _ _ _ .settled _ Footing.settled_ne_new) (rest _ _ _ _ .settled _ Footing.settled_ne_new)
  · simpa using kcStopRecord_obeys Stage.calling_of (rest _ _ _ _ .settled _ Footing.settled_ne_new)

/-- `start()` only starts the Streamer's record, without a mutex. -/
theorem streamerStart_obeys :
    Obeys (.python index) { calling := some request, self := about, seen } [.gil]
      (Code.streamerStart self >>= next) := by
  simp [Code.streamerStart]
  rintro (_ | list) <;> simpa [elsewhere] using rest _ _ _ _ .settled _ Footing.settled_ne_new

/-- `start_shift` is stored with the record's mutex held. -/
theorem streamerSetStartShift_obeys {startShift : Int32} :
    Obeys (.python index) { calling := some request, self := about, seen } [.gil]
      (Code.streamerSetStartShift self startShift >>= next) := by
  simp [Code.streamerSetStartShift, Code.locked, elsewhere]
  rintro (_ | list) <;> simpa [elsewhere] using rest _ _ _ _ .settled _ Footing.settled_ne_new

/-- `duration` is stored with the record's mutex held. -/
theorem streamerSetDuration_obeys {duration : UInt32} :
    Obeys (.python index) { calling := some request, self := about, seen } [.gil]
      (Code.streamerSetDuration self duration >>= next) := by
  simp [Code.streamerSetDuration, Code.locked, elsewhere]
  rintro (_ | list) <;> simpa [elsewhere] using rest _ _ _ _ .settled _ Footing.settled_ne_new

/-! ## kcameramodule.c -/

/-- A file that cannot be loaded ends the Streamer that was made for it. -/
theorem createLoader_obeys {file : Option (List UInt8)} (camera : request.ofCamera) :
    Obeys (.python index) { calling := some request, self := about, seen } [.gil]
      (Code.createLoader file >>= next) := by
  simp [Code.createLoader, elsewhere]
  rintro self list (_ | error)
  · simpa using rest _ _ _ _ .settled _ Footing.settled_ne_new
  · simpa using
      streamerDealloc_obeys (fun _ _ _ _ _ _ => rest _ _ _ _ _ _) elsewhere (.inl camera)

/-- `stream()` makes a Streamer only when there is no other stream. -/
theorem cameraStream_obeys {params : KcParams} (camera : request.ofCamera) :
    Obeys (.python index) { calling := some request, self := about, seen } [.gil]
      (Code.cameraStream params >>= next) := by
  simp [Code.cameraStream]
  rintro (_ | self) <;> simp [rest, elsewhere, camera]

/-- `load()` without a file. -/
theorem cameraLoadEmpty_obeys (camera : request.ofCamera) :
    Obeys (.python index) { calling := some request, self := about, seen } [.gil]
      (Code.cameraLoadEmpty >>= next) := by
  simp [Code.cameraLoadEmpty, rest, elsewhere, camera]

/-- The end of the Camera stops the camera before it frees it. -/
theorem cameraDealloc_obeys (camera : request.ofCamera) :
    Obeys (.python index) { calling := some request, self := about, seen } [.gil]
      (Code.cameraDealloc >>= next) := by
  simp only [Code.cameraDealloc, Code.kcExit, Code.kcStop, Prog.bind_assoc]
  refine kcStop_obeys true (Stage.founded_of (.inl camera)) elsewhere ?_ ?_ <;> simp [rest]

/-- `Camera()` initialises the engine before it applies the settings. -/
theorem cameraNew_obeys {params : KcParams} (camera : request.ofCamera) :
    Obeys (.python index) { calling := some request, footing := .absent } [.gil]
      (Code.cameraNew params >>= next) := by
  simp [Code.cameraNew]
  rintro (_ | new)
  · simp [rest]
  · simp
    refine kcInit_obeys ⟨rfl, rfl, rfl, rfl, rfl, rfl, rfl, rfl, rfl⟩ elsewhere rfl ?_
    simpa using kcUpdateParams_obeys (Stage.founded_of (.inl camera)) elsewhere rfl rfl
      (rest _ _ _ _ .settled _ Footing.settled_ne_new)

/-- An assignment to an attribute applies the settings. -/
theorem cameraSetAttr_obeys {params : KcParams} (camera : request.ofCamera) :
    Obeys (.python index) { calling := some request, self := about, seen } [.gil]
      (Code.cameraSetAttr params >>= next) := by
  simpa [Code.cameraSetAttr] using
    kcUpdateParams_obeys (Stage.founded_of (.inl camera)) elsewhere rfl rfl
      (rest _ _ _ _ .settled _ Footing.settled_ne_new)

end Calls

/-! ## The interpreter -/

section Interpreter

variable {index : Nat} {request : Request} {about : Option (StreamerId × Option ListId)}
  {seen : Option (Option ListId)}

/-- Every call that has finished its work may return its reply. -/
theorem finish_obeys {made : Option StreamerId} {released : Bool} {footing : Footing}
    {reply : Reply} (settled : ∀ camera, footing ≠ .new camera) :
    Obeys (.python index) { calling := some request, self := about, seen, made, released, footing }
      [.gil] (Code.finish request reply) := by
  simp [Code.finish, discipline, Stage.idle, settled]

/-- `save()` goes on in the loop over the frames when there is a record. -/
theorem streamerSave_obeys {self : StreamerId} {next : Reply → Code Unit}
    (rest : ∀ about seen made released footing reply, (∀ camera, footing ≠ .new camera) →
      Obeys (.python index)
        { calling := some (.save self), self := about, seen, made, released, footing } [.gil]
        (next reply)) :
    Obeys (.python index) { calling := some (.save self) } [.gil]
      (Code.streamerSave self >>= next) := by
  simp [Code.streamerSave, Code.locked]
  rintro (_ | list)
  · simp [rest]
  · simp [rest, discipline]

/-- Each request is served within the discipline, whatever it finds. -/
theorem serve_obeys {next : Reply → Code Unit}
    (rest : ∀ about seen made released footing reply, (∀ camera, footing ≠ .new camera) →
      Obeys (.python index) { calling := some request, self := about, seen, made, released, footing }
        [.gil] (next reply)) :
    Obeys (.python index) (Stage.idle.after .nextCall request) [.gil]
      (Code.serve request >>= next) := by
  cases request with
  | newCamera params => exact cameraNew_obeys rest rfl rfl
  | deleteCamera => exact cameraDealloc_obeys rest rfl rfl
  | setAttr params => exact cameraSetAttr_obeys rest rfl rfl
  | rejected params => simp [Code.serve, rest, Stage.idle]
  | stream params => exact cameraStream_obeys rest rfl rfl
  | record params => exact cameraRecord_obeys rest rfl
  | loadEmpty => exact cameraLoadEmpty_obeys rest rfl rfl
  | load file => exact createLoader_obeys rest rfl rfl
  | delete self => exact streamerDealloc_obeys rest rfl (.inr rfl)
  | frame self bytes => exact streamerFrame_obeys rest rfl
  | seek self n => exact streamerSeek_obeys rest
  | stop self => exact streamerStop_obeys rest rfl rfl
  | start self => exact streamerStart_obeys rest rfl
  | inspect self query => exact streamerInspect_obeys rest
  | progress self => exact streamerProgress_obeys rest
  | time self => exact streamerTime_obeys rest
  | save self => exact streamerSave_obeys rest
  | setStartShift self startShift => exact streamerSetStartShift_obeys rest rfl
  | setDuration self duration => exact streamerSetDuration_obeys rest rfl
  | dropArray frame => simp [Code.serve, rest, Stage.idle]

/-- An interpreter's thread takes a request, serves it and replies. -/
theorem python_obeys : Obeys (.python index) .idle [] Code.python := by
  simp [Code.python, Stage.idle]
  exact fun request => serve_obeys fun _ _ _ _ _ _ => finish_obeys

/-- One turn of the loop of `save()`. -/
theorem saving_obeys {self : StreamerId} {list : ListId} {len : UInt32} :
    Obeys (.python index) { calling := some (.save self), self := some (self, some list) } [.gil]
      (Code.saving self list len) := by
  simp [Code.saving, Code.locked, Request.reads]
  rintro (_ | size | _)
  · exact finish_obeys Footing.settled_ne_new
  · simp [discipline]
  · exact finish_obeys Footing.settled_ne_new

end Interpreter

/-! ## Runs -/

/-- Every program follows the discipline from where it is jumped to. -/
theorem bodies (thread : Tid) (label : Label) (stage : Stage) (held : List Mutex)
    (entry : discipline.entry thread label stage held) :
    Follows semantics discipline thread stage held (semantics.body label) := by
  cases label with
  | python =>
      obtain ⟨python, rfl, rfl⟩ := entry
      cases thread with
      | python index => exact python_obeys
      | video index => cases python
  | video =>
      obtain ⟨video, rfl, rfl⟩ := entry
      cases thread with
      | python index => exact absurd rfl video
      | video index => exact vidThread_obeys
  | eventLoop =>
      obtain ⟨video, rfl, rfl⟩ := entry
      cases thread with
      | python index => exact absurd rfl video
      | video index => exact eventLoop_obeys
  | saving self list len =>
      obtain ⟨python, rfl, rfl⟩ := entry
      cases thread with
      | python index => exact saving_obeys
      | video index => cases python

/-- At the start every thread is idle and holds nothing. -/
theorem initial_disciplined (state : System) (initial : state = .initial) :
    Disciplined semantics discipline state := by
  subst initial
  refine ⟨⟨?_, ?_⟩, ?_, ?_⟩
  · simp [System.initial]
  · simp [System.initial]
  · rintro (index | index) <;> simp [System.initial, Follows, discipline]
  · rintro thread (_ | _ | _ | _ | _) <;> simp [System.initial, discipline, Stage.idle]

end KCamera
