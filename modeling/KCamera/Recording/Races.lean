import KCamera.Engine.Access
import KCamera.Engine.Holdings
import KCamera.Engine.Lockset
import KCamera.Recording.Timestamps

/-!
# Races on recordings

The video thread appends to the list that Python's threads read, seek, save and free.
Two threads are about to race if their next operations use the same memory and one of
them writes it. The mutexes of the frames and of each list, and the interpreter lock
among Python's threads, leave few such pairs: those with the methods that take no mutex,
and the clearing of `m_recording`, which does not take the mutex of the list.
-/

namespace KCamera

open Machine

open Function (update)

variable {condition : System → Tid → Choice → Op → Prop} {state : System} {thread : Tid}
  {choice : Choice} {operation : Op} {world : World} {response : operation.Resp}

/-! ## What is attached meanwhile -/

/-- A Camera is made only while no frame is on the way to a record, which `kcInit` drops
without a mutex. -/
def InitsApart (state : System) (_ : Tid) (_ : Choice) : Op → Prop
  | .initParams _ => ∀ other, (state.stage other).appending = none
  | _ => True

/-- A frame is on the way to the attached record only, and the record that a thread has
taken for its progress is not replaced. -/
structure Steadied (world : World) (stages : Tid → Stage) : Prop where
  appending : ∀ thread list, (stages thread).appending = some list → world.g.record = some list
  reading : ∀ thread list, (stages thread).reading = some list →
    (stages thread).progressing ∧ (world.g.record = some list ∨ world.g.record = none)

/-- What the next operation needs is there. -/
theorem Turn.needs (turn : Turn condition state thread choice operation world response) :
    operation.needs (state.stage thread).hands (state.held thread) :=
  (guardedAll turn.reached thread).current turn.current

/-- The frame that is on its way goes to the attached record. -/
theorem World.beginFrame_attached {world : World} {capture : Capture} {now : UInt32}
    {allocates : Bool} {list : ListId} {frame : KcFrame}
    (begun : (world.beginFrame capture now allocates).2 = .recording list frame) :
    (world.beginFrame capture now allocates).1.g.record = some list := by
  rcases world.beginFrame_cases capture now allocates with
    ⟨_, value⟩ | ⟨_, value⟩ | ⟨_, value⟩ | ⟨_, attached, value⟩ | ⟨_, _, value⟩ <;>
    rw [value] at begun
  case inr.inr.inr.inl =>
    rw [value]
    cases begun
    exact attached
  all_goals nomatch begun

/-- While a frame is on its way the record stays attached. -/
theorem Turn.record_kept (turn : Turn InitsApart state thread choice operation world response)
    (other : Tid) (appending : (state.stage other).appending.isSome) :
    world.g.record = state.world.g.record := by
  have video := appending_video turn.reached other appending
  have frame : .frame ∈ state.held other := turn.promised .frame (.inl appending)
  have needs := turn.needs
  by_cases touched : Part.attached ∈ operation.touches
  · cases operation with
    | initParams camera => simp [turn.admitted other] at appending
    | allocRecord =>
        have same := turn.exclusive frame turn.allowed.2.2.2.1
        exact absurd (same ▸ turn.allowed.1) video
    | stopRecord =>
        have same := turn.exclusive frame turn.allowed.1
        simp only [Op.needs, Stage.hands] at needs
        simp [same, needs] at appending
    | dropFrame =>
        have own : .frame ∈ state.held thread := turn.promised .frame (.inr (.inr turn.allowed))
        have same := turn.exclusive frame own
        simp only [Op.needs, Stage.hands] at needs
        simp [same, needs] at appending
    | _ => simp [Op.touches] at touched
  · exact Op.run_agree turn.executed touched

/-- A frame is appended to the attached record. -/
theorem Steadied.appending_step
    (turn : Turn InitsApart state thread choice operation world response)
    (steadied : Steadied state.world state.stage) (other : Tid) (list : ListId)
    (appends : (update state.stage thread ((state.stage thread).after operation response)
      other).appending = some list) : world.g.record = some list := by
  have kept (before : (state.stage other).appending = some list) : world.g.record = some list :=
    (turn.record_kept other (by simp [before])).trans (steadied.appending other list before)
  by_cases same : other = thread
  · subst same
    rw [Function.update_self] at appends
    by_cases moves : Mark.appending ∈ operation.marks
    · cases operation with
      | beginFrame capture =>
          obtain ⟨_, _, alone⟩ := turn.allowed
          have answer := congrArg Prod.snd (Option.some.inj turn.executed)
          rw [result_eq turn.executed]
          rw [alone] at appends
          cases response with
          | recording taken built =>
              cases appends
              exact World.beginFrame_attached answer
          | _ => cases appends
      | append | endCall => cases appends
      | _ => simp [Op.marks] at moves
    · have shares : _ = _ := turn.shares moves
      exact kept (shares ▸ appends)
  · rw [Function.update_of_ne same] at appends
    exact kept appends

/-- The record taken for its progress is still that of the engine. -/
theorem Steadied.reading_step
    (turn : Turn InitsApart state thread choice operation world response)
    (steadied : Steadied state.world state.stage) (other : Tid) (list : ListId)
    (reads : (update state.stage thread ((state.stage thread).after operation response)
      other).reading = some list) :
    (update state.stage thread ((state.stage thread).after operation response)
      other).progressing ∧ (world.g.record = some list ∨ world.g.record = none) := by
  have kept (before : (state.stage other).reading = some list) :
      world.g.record = some list ∨ world.g.record = none := by
    obtain ⟨progressing, told⟩ := steadied.reading other list before
    by_cases starts : operation = .allocRecord
    · subst starts
      have holds : (state.stage other).holds .gil := by simp [progressing]
      have same := turn.sole turn.allowed.2.1 holds
      have needs := turn.needs
      simp [← same, before] at needs
    · rcases Op.run_record turn.executed starts with same | detached
      · rwa [same]
      · exact .inr detached
  by_cases same : other = thread
  · subst same
    rw [Function.update_self] at reads ⊢
    by_cases moves : Mark.progress ∈ operation.marks
    · cases operation with
      | derefRecord =>
          refine ⟨turn.allowed.2.2.2, ?_⟩
          have executed := turn.executed
          simp only [Op.run, Option.some.injEq] at executed
          cases attached : state.world.g.record with
          | none =>
              rw [attached] at executed
              cases executed
              exact .inr attached
          | some record =>
              rw [attached] at executed
              cases executed
              cases reads
              exact .inl attached
      | recordingNow =>
          obtain ⟨_, _, _, unread⟩ := turn.allowed
          simp [unread] at reads
      | recordLimited => exact ⟨(steadied.reading other list reads).1, kept reads⟩
      | sameRecord asked => cases reads
      | endCall request reply => cases reads
      | _ => simp [Op.marks] at moves
    · have shares : (state.stage other).Shares _ .progress := turn.shares moves
      have before := shares.2.1 ▸ reads
      exact ⟨shares.1 ▸ (steadied.reading other list before).1, kept before⟩
  · rw [Function.update_of_ne same] at reads ⊢
    exact ⟨(steadied.reading other list reads).1, kept reads⟩

/-- In runs with initialisations apart, both are so in every state. -/
theorem steadied (reached : Runs InitsApart state) : Steadied state.world state.stage := by
  refine Runs.invariant Steadied ?_ ?_ reached
  · constructor
    · intro thread list appending
      cases appending
    · intro thread list reading
      cases reading
  · intro state thread choice operation world response turn steadied
    exact ⟨steadied.appending_step turn, steadied.reading_step turn⟩

/-! ## Who is apart from whom -/

/-- A thread is about to perform an operation. -/
structure About (state : System) (thread : Tid) (operation : Op) : Prop where
  reached : Runs InitsApart state
  sound : state.world.fault = none
  current : (state.code thread).current = some operation

section

variable {first second : Tid} {other : Op} {list : ListId} {field : Field} {location : Location}

/-- What a thread is about to do its stage allows. -/
theorem About.allowed (about : About state thread operation) :
    (state.stage thread).allows thread (state.held thread) operation :=
  (about.reached.disciplined.follows thread).allowed semantics discipline thread about.current

/-- What a thread is about to do it holds the mutexes for. -/
theorem About.needs (about : About state thread operation) :
    operation.needs (state.stage thread).hands (state.held thread) :=
  (guardedAll about.reached thread).current about.current

/-- Two threads that hold one mutex are the same. -/
theorem About.exclusive (about : About state thread operation) {mutex : Mutex}
    (held : mutex ∈ state.held first) (also : mutex ∈ state.held second) : first = second :=
  about.reached.disciplined.toLocked.exclusive held also

/-- An operation reads or writes a location. -/
def Op.uses (world : World) (operation : Op) (location : Location) : Prop :=
  location ∈ operation.reads world ∨ location ∈ operation.writes world

/-- The list that an operation names. -/
def Op.named : Op → Option ListId
  | .append list _ | .nextRecordFrame list | .next list | .copyBack list | .noteIndex _ list
  | .seek list _ | .start list | .inspect list | .time list | .saveNext list | .setListShift list _
  | .setListDuration list _ | .load list _ | .freeRecord list => some list
  | _ => none

/-- An operation that names a list uses no other. -/
theorem Op.uses.named {asked : ListId} (uses : operation.uses world (.list list field))
    (named : operation.named = some asked) : asked = list := by
  unfold Op.uses at uses
  cases operation <;> simp only [Op.named, Option.some.injEq, reduceCtorEq] at named <;>
    subst named <;> simp only [Op.reads, Op.writes, mem_fieldsOf, mem_wholeList, List.not_mem_nil,
      false_or, or_false, or_self] at uses <;>
    first | exact uses | exact uses.1 | exact uses.elim And.left And.left

/-- The live frame is used with the mutex of the frames. -/
theorem About.slot_locked (about : About state thread operation)
    (uses : operation.uses state.world .slot) : .frame ∈ state.held thread := by
  have allowed := about.allowed
  have needs := about.needs
  have unlisted (list : ListId) (fields : List Field) : .slot ∉ fieldsOf list fields := by
    simp [fieldsOf]
  have unrecorded (fields : List Field) : .slot ∉ state.world.recordFields fields := by
    unfold World.recordFields
    split
    · simp
    · exact unlisted _ _
  cases operation with
  | slotEmpty => exact allowed.2.1
  | takeFrame => exact allowed.2.1
  | beginFrame capture => exact allowed.2.1
  | resetState => exact allowed.2.2.2.1
  | setTimer => exact needs
  | dropFrame => exact about.reached.disciplined.promised thread .frame (.inr (.inr allowed))
  | _ => simp [Op.uses, Op.reads, Op.writes, wholeList, unlisted, unrecorded] at uses

/-- Whoever uses a list has the interpreter lock, or appends to it or stops it. -/
theorem About.list_locked (about : About state thread operation)
    (uses : operation.uses state.world (.list list field)) :
    .gil ∈ state.held thread ∨ (∃ frame, operation = .append list frame) ∨
      operation = .stopRecord ∧ state.world.g.record = some list := by
  have allowed := about.allowed
  cases operation with
  | stopRecord =>
      simp only [Op.uses, Op.reads, Op.writes, List.not_mem_nil, false_or, mem_recordFields] at uses
      exact .inr (.inr ⟨rfl, uses.1⟩)
  | append asked frame => exact .inr (.inl ⟨frame, by rw [uses.named rfl]⟩)
  | nextRecordFrame | lastRecordFrame | next | copyBack | noteIndex | seek | start | inspect | time
  | recordLimited | durationProgress | saveNext | setListShift | setListDuration | newStreamer | allocRecord
  | newLoader | load | freeRecord => exact .inl allowed.2.1
  | _ => simp [Op.uses, Op.reads, Op.writes] at uses

/-- Who makes, fills or frees a list does so apart from the attached record. -/
theorem About.unattached (about : About state thread operation)
    (uses : operation.uses state.world (.list list field))
    (whole : operation = .newLoader ∨ (∃ asked file, operation = .load asked file) ∨
      ∃ asked, operation = .freeRecord asked) : state.world.g.record ≠ some list := by
  intro attached
  have allowed := about.allowed
  rcases whole with rfl | ⟨asked, file, rfl⟩ | ⟨asked, rfl⟩
  · have same : state.world.nextList = list := by simpa [Op.uses, Op.reads, Op.writes] using uses
    exact Nat.lt_irrefl _ (same ▸ (numbered about.reached).record list attached)
  · have same := uses.named rfl
    subst same
    have known := recorded about.reached
    exact (known.loading thread asked allowed.2.2.2).2 (known.attached asked attached)
  · have same := uses.named rfl
    subst same
    obtain ⟨_, _, _, _, _, _, record, seen, different⟩ := allowed
    exact seen_apart about.reached about.sound seen different attached

/-- What another thread can be about to do to a list that a frame is being appended to. -/
theorem About.beside_append {frame : KcFrame} (about : About state first (.append list frame))
    (beside : About state second other) (apart : first ≠ second)
    (uses : other.uses state.world (.list list field)) :
    other = .start list ∨ other = .inspect list ∨ (∃ self, other = .noteIndex self list) ∨
      ∃ origin, other = .newStreamer origin := by
  obtain ⟨_, appending, _⟩ := about.allowed
  have attached := (steadied about.reached).appending first list appending
  have frameHeld : .frame ∈ state.held first :=
    about.reached.disciplined.promised first .frame (.inl (by simp [appending]))
  have listHeld : .record list ∈ state.held first := about.needs
  have allowed := beside.allowed
  have needs := beside.needs
  have unframed (also : .frame ∈ state.held second) : False :=
    apart (about.exclusive frameHeld also)
  have unlisted (also : .record list ∈ state.held second) : False :=
    apart (about.exclusive listHeld also)
  cases other with
  | append asked frame' =>
      obtain ⟨_, appending', _⟩ := allowed
      exact (unframed (beside.reached.disciplined.promised second .frame
        (.inl (by simp [appending'])))).elim
  | stopRecord => exact (unframed allowed.1).elim
  | nextRecordFrame asked => exact (unframed allowed.2.2.2.2.1).elim
  | lastRecordFrame | allocRecord => exact (unframed allowed.2.2.2.1).elim
  | next asked | copyBack asked | seek asked n | time asked | saveNext asked
  | setListShift asked _ | setListDuration asked _ =>
      exact (unlisted (uses.named rfl ▸ needs)).elim
  | recordLimited | durationProgress =>
      obtain ⟨told, reading, held⟩ := needs
      have known := ((steadied about.reached).reading second told reading).2
      simp only [attached, Option.some.injEq, reduceCtorEq, or_false] at known
      exact (unlisted (known ▸ held)).elim
  | newLoader => exact absurd attached (beside.unattached uses (.inl rfl))
  | load asked file => exact absurd attached (beside.unattached uses (.inr (.inl ⟨_, _, rfl⟩)))
  | freeRecord asked => exact absurd attached (beside.unattached uses (.inr (.inr ⟨_, rfl⟩)))
  | start asked => exact .inl (by rw [uses.named rfl])
  | inspect asked => exact .inr (.inl (by rw [uses.named rfl]))
  | noteIndex self asked => exact .inr (.inr (.inl ⟨self, by rw [uses.named rfl]⟩))
  | newStreamer origin => exact .inr (.inr (.inr ⟨origin, rfl⟩))
  | _ => simp [Op.uses, Op.reads, Op.writes] at uses

/-- What another thread can be about to do to the flag of a record that is being stopped. -/
theorem About.beside_stop (about : About state first .stopRecord)
    (attached : state.world.g.record = some list) (beside : About state second other)
    (apart : first ≠ second) (uses : other.uses state.world (.list list .recording)) :
    other = .start list ∨ other = .inspect list ∨ other = .time list := by
  have allowed := beside.allowed
  have unframed (also : .frame ∈ state.held second) : False :=
    apart (about.exclusive about.allowed.1 also)
  cases other with
  | append asked frame =>
      obtain ⟨_, appending, _⟩ := allowed
      exact (unframed (beside.reached.disciplined.promised second .frame
        (.inl (by simp [appending])))).elim
  | stopRecord => exact (unframed allowed.1).elim
  | allocRecord => exact (unframed allowed.2.2.2.1).elim
  | newLoader => exact absurd attached (beside.unattached uses (.inl rfl))
  | load asked file => exact absurd attached (beside.unattached uses (.inr (.inl ⟨_, _, rfl⟩)))
  | freeRecord asked => exact absurd attached (beside.unattached uses (.inr (.inr ⟨_, rfl⟩)))
  | start asked => exact .inl (by rw [uses.named rfl])
  | inspect asked => exact .inr (.inl (by rw [uses.named rfl]))
  | time asked => exact .inr (.inr (by rw [uses.named rfl]))
  | _ => simp [Op.uses, Op.reads, Op.writes] at uses

end

/-! ## Races -/

/-- The pairs that no mutex keeps apart, the one that writes first: with `streamer_start` and
the methods that read one field, and `kcStopRecord` with `streamer_time`. -/
inductive Unprotected : Op → Op → Prop where
  | appendStart (list : ListId) (frame : KcFrame) :
      Unprotected (.append list frame) (.start list)
  | appendInspect (list : ListId) (frame : KcFrame) :
      Unprotected (.append list frame) (.inspect list)
  | stopStart (list : ListId) : Unprotected .stopRecord (.start list)
  | stopInspect (list : ListId) : Unprotected .stopRecord (.inspect list)
  | stopTime (list : ListId) : Unprotected .stopRecord (.time list)
  | startAppend (list : ListId) (frame : KcFrame) :
      Unprotected (.start list) (.append list frame)
  | startStop (list : ListId) : Unprotected (.start list) .stopRecord

/-- In every run the next operations of two threads use no memory that one of them writes,
but for the pairs that no mutex keeps apart. -/
theorem races_unprotected (state : System) (reached : Runs InitsApart state)
    (sound : state.world.fault = none) (first second : Tid) (apart : first ≠ second)
    (operation other : Op) (current : (state.code first).current = some operation)
    (beside : (state.code second).current = some other) (location : Location)
    (writes : location ∈ operation.writes state.world)
    (uses : other.uses state.world location) : Unprotected operation other := by
  have mine : About state first operation := ⟨reached, sound, current⟩
  have theirs : About state second other := ⟨reached, sound, beside⟩
  cases location with
  | slot =>
      have held := mine.slot_locked (.inr writes)
      exact absurd (mine.exclusive held (theirs.slot_locked uses)) apart
  | list list field =>
      rcases mine.list_locked (.inr writes) with gil | ⟨frame, rfl⟩ | ⟨rfl, attached⟩
      · rcases theirs.list_locked uses with gil' | ⟨frame, rfl⟩ | ⟨rfl, attached⟩
        · exact absurd (mine.exclusive gil gil') apart
        · rcases theirs.beside_append mine apart.symm (.inr writes) with
            rfl | rfl | ⟨self, rfl⟩ | ⟨origin, rfl⟩
          · exact .startAppend list frame
          all_goals simp [Op.writes] at writes
        · have flag : field = .recording := by
            simpa [Op.uses, Op.reads, Op.writes, attached] using uses
          subst flag
          rcases theirs.beside_stop attached mine apart.symm (.inr writes) with rfl | rfl | rfl
          · exact .startStop list
          all_goals simp [Op.writes] at writes
      · rcases mine.beside_append theirs apart uses with rfl | rfl | ⟨self, rfl⟩ | ⟨origin, rfl⟩
        · exact .appendStart list frame
        · exact .appendInspect list frame
        all_goals
          cases field <;> simp [Op.writes, Op.uses, Op.reads] at writes uses
      · have flag : field = .recording := by simpa [Op.writes, attached] using writes
        subst flag
        rcases mine.beside_stop attached theirs apart uses with rfl | rfl | rfl
        · exact .stopStart list
        · exact .stopInspect list
        · exact .stopTime list

/-- The reserve is exceeded, and the record is stopped while its time is asked for. -/
theorem races_unprotected_stopTime : ∃ state, Runs InitsApart state ∧
    (state.code (.video 0)).current = some .stopRecord ∧
      (state.code (.python 0)).current = some (.time 0) ∧ Unprotected .stopRecord (.time 0) := by
  have passed : (checkedRun [.python 0, .video 0] (fun state _ _ operation =>
      match operation with
      | .initParams _ => (state.stage (.video 0)).appending.isNone ∧
          (state.stage (.python 0)).appending.isNone
      | _ => true) System.initial
      (calls (.newCamera someParams) 25 ++ calls (.record someParams) 20 ++
        turns (.video 0) 37 { node := some 0, memfree := 0 } ++ calls (.time 0) 4)).any
      (fun state => state.world.fault = none ∧ state.world.g.record = some 0 ∧
        (state.code (.video 0)).current = some .stopRecord ∧
        (state.code (.python 0)).current = some (.time 0)) := by
    decide +kernel
  obtain ⟨state, reached, test⟩ := exists_checkedRun InitsApart (by
    intro state thread choice operation moved check
    cases operation with
    | initParams camera =>
        intro other
        by_cases member : other ∈ [Tid.python 0, .video 0]
        · simp only [List.mem_cons, List.not_mem_nil, or_false] at member
          rcases member with rfl | rfl <;> simp_all
        · rw [moved other member]
          rfl
    | _ => trivial) passed
  obtain ⟨sound, attached, stops, asks⟩ := of_decide_eq_true test
  refine ⟨state, reached, stops, asks, ?_⟩
  refine races_unprotected state reached sound (.video 0) (.python 0) (by decide) _ _ stops asks
    (.list 0 .recording) ?_ ?_
  · simp [Op.writes, attached]
  · simp [Op.uses, Op.reads]

end KCamera
