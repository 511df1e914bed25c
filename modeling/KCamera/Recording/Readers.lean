import KCamera.Engine.Facts
import KCamera.Engine.Marks
import KCamera.Engine.Signals

/-!
# Readers that sleep

Readers of the live stream and of a recording sleep on one condition variable.
It is signalled once for each new frame and each stop, so a signal that is due to
one reader can go to another, and the end of a recording is not signalled at all.
-/

namespace KCamera

open Machine

open Function (update)

/-- What a reader's loop waits behind: no live frame, no frame of the recording
that it has not read, or no frame of the attached record. -/
def World.waits (world : World) : Op → Prop
  | .slotEmpty => world.g.frame = none ∧ world.g.run
  | .nextRecordFrame list => (world.nextRecordFrame list).2
  | .lastRecordFrame => world.lastRecordFrame.2
  | _ => False

/-- The loop in which a thread is asleep. -/
def asleepIn (state : System) (thread : Tid) : Option Op :=
  match state.code thread with
  | .asleep test _ _ _ => if thread ∈ state.sleeping then some test else none
  | _ => none

/-- Outside the critical sections of `m_frameMutex`, whoever sleeps without a
signal on its way waits for what it sleeps for. -/
def NoneForgotten (state : System) : Prop :=
  state.owner .frame = none → ∀ thread test, asleepIn state thread = some test →
    state.world.waits test

/-- Only readers of the live stream are asleep. -/
def OnlyLiveAsleep (state : System) : Prop :=
  ∀ thread test, asleepIn state thread = some test → test = .slotEmpty

/-- A live frame comes and the camera stops while at most one reader is asleep, a
restart while none is; a frame of a recording comes while its reader sleeps alone,
and a recording ends while no reader of it is asleep. -/
def HeardByAll (state : System) (_ : Tid) (choice : Choice) : Op → Prop
  | .beginFrame _ =>
      state.world.g.record = none → choice.allocates → ¬state.world.idle choice.now →
        state.sleeping.length ≤ 1
  | .append _ _ => OnlyLiveAsleep state ∨ state.sleeping.length ≤ 1
  | .stopRecord => OnlyLiveAsleep state
  | .clearRun _ signal => state.sleeping.length ≤ if signal then 1 else 0
  | _ => True

/-! ## What readers wait for -/

namespace World

variable {world next : World}

/-- Nobody waits while the camera is off. -/
theorem run_of_waits {test : Op} (waits : world.waits test) : world.g.run := by
  cases test with
  | slotEmpty => exact waits.2
  | nextRecordFrame list =>
      simp only [World.waits, nextRecordFrame] at waits
      split at waits
      · cases waits
      · split at waits
        · cases waits
        · simp only [Bool.and_eq_true] at waits
          exact waits.1.2
  | lastRecordFrame =>
      simp only [World.waits, lastRecordFrame] at waits
      split at waits
      · cases waits
      · split at waits
        · cases waits
        · simp only [Bool.and_eq_true] at waits
          exact waits.2
  | _ => cases waits

/-- A test that sends a reader to sleep changes nothing. -/
theorem nextRecordFrame_again {list : ListId} (again : (world.nextRecordFrame list).2) :
    (world.nextRecordFrame list).1 = world := by
  unfold nextRecordFrame at again ⊢
  split at again
  · cases again
  · split at again
    · cases again
    · rfl

/-- Waiting on for the last frame changes nothing. -/
theorem lastRecordFrame_again (again : world.lastRecordFrame.2) :
    world.lastRecordFrame.1 = world := by
  unfold lastRecordFrame at again ⊢
  split at again
  · cases again
  · split at again
    · cases again
    · rfl

/-- Readers of a recording wait for what is in the record and its list. -/
theorem waits_of_agree {test : Op} (recorded : test ≠ .slotEmpty) (lists : Agree world next .lists)
    (attached : Agree world next .attached) (run : next.g.run = world.g.run)
    (waits : world.waits test) : next.waits test := by
  obtain ⟨lists, _⟩ := lists
  have attached : next.g.record = world.g.record := attached
  cases test with
  | slotEmpty => exact absurd rfl recorded
  | nextRecordFrame list =>
      have same : (next.nextRecordFrame list).2 = (world.nextRecordFrame list).2 := by
        simp only [nextRecordFrame, lists, attached, run]
        split
        · rfl
        · split <;> rfl
      exact same.trans waits
  | lastRecordFrame =>
      have same : next.lastRecordFrame.2 = world.lastRecordFrame.2 := by
        simp only [lastRecordFrame, lists, attached, run]
        split
        · rfl
        · split <;> rfl
      exact same.trans waits
  | _ => cases waits

/-- An empty slot stays so until a frame is stored. -/
theorem readied_empty (capture : Capture) (empty : world.g.frame = none) :
    (world.readied capture).g.frame = none := by
  let shifted := { world with captured := capture.pts }.shiftPts capture.pts
  have slot : shifted.measure.g.frame = world.g.frame :=
    (measure_agree _ (by simp) : Agree shifted shifted.measure .slot)
  have measured := slot.trans empty
  change shifted.measure.expire.g.frame = none
  unfold expire
  split
  · rename_i expired
    simp [measured] at expired
  · exact measured

/-- `kcFrameData` stores a live frame when it is not idle and has memory. -/
theorem beginFrame_stored {capture : Capture} {now : UInt32} {allocates : Bool}
    (stored : (world.beginFrame capture now allocates).2 = .stored) :
    world.g.record = none ∧ allocates ∧ ¬world.idle now := by
  have same : (world.readied capture).g.record = world.g.record :=
    (readied_agree capture (by simp) (by simp) (by simp) (by simp) : Agree world (world.readied capture) .attached)
  have value : world.beginFrame capture now allocates =
      if world.idle now then ({ world with captured := capture.pts }, .idle)
      else (world.readied capture).storeFrame capture allocates := rfl
  rw [value] at stored
  split at stored
  · cases stored
  · rename_i busy
    unfold storeFrame at stored
    split at stored
    · split at stored
      · rename_i allocated
        dsimp only at stored
        split at stored
        · cases stored
        · rename_i detached
          exact ⟨same ▸ detached, allocated, busy⟩
      · cases stored
    · cases stored

end World

section

variable {condition : System → Tid → Choice → Op → Prop} {state : System} {thread : Tid}
  {choice : Choice} {operation : Op} {world : World} {response : operation.Resp}

/-! ## What operations do about it -/

/-- Between clearing `m_run` and dropping the record the camera is off. -/
theorem run_of_stopping (reached : Runs condition state) (thread : Tid) {join : Bool}
    (stopping : (state.stage thread).switch = .stopping join true) :
    state.world.g.run = false := by
  refine Runs.each (fun world _ stage => ∀ join, stage.switch = .stopping join true →
    world.g.run = false) ?_ ?_ ?_ reached thread join stopping
  · intro _ _ stopping
    cases stopping
  · intro state thread choice operation world response turn off join stopping
    have allowed := turn.allowed
    have run := (Op.run_threads turn.executed).run
    by_cases switches : operation.switches
    · cases operation with
      | clearRun join signal =>
          rw [result_eq turn.executed]
      | dropFrame =>
          obtain ⟨join', stopping'⟩ := allowed
          simp [stopping'] at stopping
      | awaitStopped | resetState | createThread | stopCameraLoop _ | join | setStopping =>
          cases stopping
      | _ => cases switches
    · have before : (state.stage thread).switch = .stopping join true :=
        (turn.switch_kept (by simpa using switches)).symm.trans stopping
      rcases run with same | ⟨rfl, _⟩ | ⟨⟨_, _, rfl⟩, _⟩
      · exact same.trans (off thread join before)
      · simp [Op.switches] at switches
      · simp [Op.switches] at switches
  · intro state thread choice operation world response turn off other different join stopping
    have off := off other join stopping
    rcases (Op.run_threads turn.executed).run with same | ⟨rfl, _⟩ | ⟨_, set⟩
    · exact same.trans off
    · have unswitched := turn.unswitched rfl different
      simp [unswitched] at stopping
    · exact set

/-- The live slot stays empty and the camera on. -/
theorem Turn.live_kept (turn : Turn condition state thread choice operation world response)
    (begins : ∀ capture, operation ≠ .beginFrame capture)
    (stops : ∀ join signal, operation ≠ .clearRun join signal)
    (waits : state.world.waits .slotEmpty) : world.waits .slotEmpty := by
  obtain ⟨empty, run⟩ := waits
  have executed := turn.executed
  constructor
  · by_cases touched : Part.slot ∈ operation.touches
    · cases operation with
      | beginFrame capture => exact absurd rfl (begins capture)
      | resetState | takeFrame | dropFrame =>
          exact congrArg (fun world : World => world.g.frame) (result_eq executed)
      | _ => simp [Op.touches] at touched
    · exact Eq.trans (Op.run_agree executed touched) empty
  · rcases (Op.run_threads executed).run with same | ⟨_, set⟩ | ⟨⟨join, signal, clears⟩, _⟩
    · exact same.trans run
    · exact set
    · exact absurd clears (stops join signal)

/-- Without the interpreter lock only the operations of a video thread change what
readers of a recording wait for. -/
theorem Turn.recorded_kept (turn : Turn condition state thread choice operation world response)
    (unlocked : .gil ∉ state.held thread) (appends : ∀ list frame, operation ≠ .append list frame)
    (ends : operation ≠ .stopRecord) (stops : ∀ join signal, operation ≠ .clearRun join signal)
    {test : Op} (recorded : test ≠ .slotEmpty) (waits : state.world.waits test) :
    world.waits test := by
  have allowed := turn.allowed
  have executed := turn.executed
  by_cases drops : operation = .dropFrame
  · subst drops
    obtain ⟨join, stopping⟩ := allowed
    have off := run_of_stopping turn.reached thread stopping
    simp [World.run_of_waits waits] at off
  · have attached : Part.attached ∉ operation.touches := by
      intro touched
      cases operation with
      | dropFrame | stopRecord => contradiction
      | initParams camera | allocRecord => exact unlocked allowed.2.1
      | _ => simp [Op.touches] at touched
    have lists : Part.lists ∉ operation.touches := by
      intro touched
      cases operation with
      | stopRecord => contradiction
      | append list frame => exact absurd rfl (appends list frame)
      | next _ | allocRecord | newLoader | load _ _ | freeRecord _ | seek _ _ | start _ | saveNext _
      | setListShift _ _ | setListDuration _ _ => exact unlocked allowed.2.1
      | _ => simp [Op.touches] at touched
    have run : world.g.run = state.world.g.run := by
      rcases (Op.run_threads executed).run with same | ⟨rfl, _⟩ | ⟨⟨join, signal, clears⟩, _⟩
      · exact same
      · exact absurd allowed.2.1 unlocked
      · exact absurd clears (stops join signal)
    exact World.waits_of_agree recorded (Op.run_agree executed lists)
      (Op.run_agree executed attached) run waits

/-- Readers of a recording sleep with the interpreter lock. -/
theorem reader_gil (disciplined : Disciplined semantics discipline state) {reader : Tid}
    {test : Op} {again : test.Resp → Bool} {mutex : Mutex} {rest : Code Unit}
    (code : state.code reader = .asleep test again mutex rest) (recorded : test ≠ .slotEmpty)
    (waits : state.world.waits test) : .gil ∈ state.held reader := by
  have follows := disciplined.follows reader
  rw [code] at follows
  have allowed : (state.stage reader).allows reader (mutex :: state.held reader) test := follows.1
  cases test with
  | slotEmpty => exact absurd rfl recorded
  | nextRecordFrame list =>
      obtain ⟨_, _, _, _, _, noted, _⟩ := allowed
      exact disciplined.promised reader .gil (by simp [discipline, noted])
  | lastRecordFrame =>
      obtain ⟨_, _, _, _, ⟨list, seen⟩, _⟩ := allowed
      exact disciplined.promised reader .gil (by simp [discipline, seen])
  | _ => cases waits

/-- `kcFrameData` leaves what readers wait for alone until it has a frame. -/
theorem Turn.begun_kept {capture : Capture} {response : Op.Resp (.beginFrame capture)}
    (turn : Turn condition state thread choice (.beginFrame capture) world response)
    (unstored : response ≠ .stored) {test : Op} (waits : state.world.waits test) :
    world.waits test := by
  have executed := turn.executed
  have run : world.g.run = state.world.g.run :=
    (Op.run_agree executed (by simp [Op.touches]) : Agree state.world world .threads).1
  by_cases live : test = .slotEmpty
  · subst live
    refine ⟨?_, run.trans waits.2⟩
    have empty := World.readied_empty capture waits.1
    have executed : (state.world.beginFrame capture choice.now choice.allocates) =
        (world, response) := Option.some.inj executed
    rcases state.world.beginFrame_cases capture choice.now choice.allocates with
      ⟨_, value⟩ | ⟨_, value⟩ | ⟨_, value⟩ | ⟨_, _, value⟩ | ⟨_, _, value⟩ <;>
      obtain ⟨rfl, rfl⟩ := Prod.mk.inj (value.symm.trans executed)
    · exact waits.1
    · exact empty
    · exact empty
    · exact empty
    · exact absurd rfl unstored
  · exact World.waits_of_agree live (Op.run_agree executed (by simp [Op.touches]))
      (Op.run_agree executed (by simp [Op.touches])) run waits

/-- Who goes to sleep waits for what it tested. -/
theorem waits_of_again {test : Op} {again : test.Resp → Bool} {world next : World}
    {response : test.Resp} (tested : test.isTest again)
    (executed : test.exec thread choice world = some (next, response)) (answer : again response) :
    next.waits test := by
  unfold Op.exec at executed
  split at executed
  · cases executed
  · cases test with
    | slotEmpty =>
        cases executed
        simpa [World.waits] using (tested _).symm.trans answer
    | nextRecordFrame list =>
        have executed : world.nextRecordFrame list = (next, response) := Option.some.inj executed
        have holds : (world.nextRecordFrame list).2 := by
          rw [executed]
          exact (tested response).symm.trans answer
        have same := World.nextRecordFrame_again holds
        rw [executed] at same
        rw [show next = world from same]
        exact holds
    | lastRecordFrame =>
        have executed : world.lastRecordFrame = (next, response) := Option.some.inj executed
        have holds : (world.lastRecordFrame).2 := by
          rw [executed]
          exact (tested response).symm.trans answer
        have same := World.lastRecordFrame_again holds
        rw [executed] at same
        rw [show next = world from same]
        exact holds
    | _ => cases tested

/-- Where only readers of the live stream are asleep, nothing else is kept from them. -/
theorem OnlyLiveAsleep.kept (only : OnlyLiveAsleep state)
    (live : state.world.waits .slotEmpty → world.waits .slotEmpty) :
    Attends World.waits .frame Op.owes state thread operation world response := by
  refine .inl fun sleeper member _ test again other rest code waits => ?_
  obtain rfl : test = .slotEmpty := only sleeper test (by simp [asleepIn, code, member])
  exact live waits

/-- Every operation of these runs attends to the readers. -/
theorem Turn.attends (turn : Turn HeardByAll state thread choice operation world response) :
    Attends World.waits .frame Op.owes state thread operation world response := by
  have admitted := turn.admitted
  have allowed := turn.allowed
  have others (begins : ∀ capture, operation ≠ .beginFrame capture)
      (appends : ∀ list frame, operation ≠ .append list frame) (ends : operation ≠ .stopRecord)
      (stops : ∀ join signal, operation ≠ .clearRun join signal) :
      Attends World.waits .frame Op.owes state thread operation world response := by
    refine .inl fun sleeper member different test again other rest code waits => ?_
    by_cases live : test = .slotEmpty
    · subst live
      exact turn.live_kept begins stops waits
    · have unlocked : .gil ∉ state.held thread := fun gil =>
        different (turn.exclusive (reader_gil turn.disciplined code live waits) gil)
      exact turn.recorded_kept unlocked appends ends stops live waits
  cases operation with
  | beginFrame capture =>
      by_cases stored : response = .stored
      · have executed : state.world.beginFrame capture choice.now choice.allocates =
            (world, response) := Option.some.inj turn.executed
        obtain ⟨detached, allocated, busy⟩ := World.beginFrame_stored
          (show (state.world.beginFrame capture choice.now choice.allocates).2 = .stored by
            rw [executed]
            exact stored)
        exact .inr ⟨by simp [stored], allowed.2.1, admitted detached allocated busy⟩
      · exact .inl fun _ _ _ _ _ _ _ _ waits => turn.begun_kept stored waits
  | append list frame =>
      rcases admitted with only | few
      · exact only.kept (turn.live_kept (by simp) (by simp))
      · exact .inr ⟨rfl, turn.promised .frame (.inl (by simp [allowed.2.1])), few⟩
  | stopRecord => exact admitted.kept (turn.live_kept (by simp) (by simp))
  | clearRun join signal =>
      cases signal with
      | true => exact .inr ⟨rfl, allowed.1, admitted⟩
      | false =>
          have none : state.sleeping = [] := List.length_eq_zero_iff.mp (Nat.le_zero.mp admitted)
          refine .inl fun sleeper member => ?_
          simp [none] at member
  | _ => exact others (by simp) (by simp) (by simp) (by simp)

/-- In runs where every signal has one reader to wake no wakeup is lost. -/
theorem noneForgotten_of_heardByAll (state : System) (reached : Runs HeardByAll state) :
    NoneForgotten state := by
  intro free thread test asleep
  have calm : Calm World.waits state := by
    refine Reach.calm (fun state reached => Runs.disciplined reached) bodies_prompt ?_ ?_ ?_
      reached free
    · rintro _ rfl
      refine ⟨rfl, fun thread => ?_⟩
      cases thread <;> trivial
    · intro thread test again choice world next response tested executed answer
      exact waits_of_again tested executed answer
    · intro state thread choice woken operation world response reached calm current admitted executed
      have running : state.world.fault = none := by
        by_contra faulty
        simp [semantics, Op.exec, Option.isSome_iff_ne_none.mpr faulty] at executed
      have executed : operation.run thread choice state.world = some (world, response) := by
        simpa [semantics, Op.exec, running] using executed
      have turn : Turn HeardByAll state thread choice operation world response :=
        ⟨Runs.weaken reached, running, current, (admitted _ current).2, (admitted _ current).1,
          executed⟩
      exact turn.attends
  unfold asleepIn at asleep
  split at asleep
  · rename_i code
    split at asleep
    · rename_i sleeping
      cases asleep
      obtain ⟨test', again, other, rest, code', waits⟩ := calm thread sleeping
      rw [code] at code'
      cases code'
      exact waits
    · cases asleep
  · cases asleep

end

/-- A reader of the live stream sleeps until the first frame comes, and sleeps again
behind it. -/
theorem noneForgotten_of_heardByAll_again : ∃ state, Runs HeardByAll state ∧
    NoneForgotten state ∧ state.world.arrays.length = 1 ∧
      asleepIn state (.python 0) = some .slotEmpty := by
  have passed : (checkedRun [.python 0, .video 0] (fun state _ _ operation =>
      match operation with
      | .beginFrame _ => state.sleeping.length ≤ 1
      | .append _ _ | .stopRecord | .clearRun _ _ => false
      | _ => true) System.initial
      (calls (.newCamera someParams) 25 ++ calls (.stream someParams) 9 ++
        calls (.frame 0 false) 17 ++ turns (.video 0) 30 {} ++
        [.act (.video 0) {} (some (.python 0))] ++ turns (.video 0) 2 {} ++
        calls (.frame 0 false) 18)).any
      (fun state => state.world.arrays.length = 1 ∧
        asleepIn state (.python 0) = some .slotEmpty) := by
    decide +kernel
  obtain ⟨state, reached, asleep⟩ := exists_checkedRun HeardByAll (by
    intro state thread choice operation moved check
    cases operation with
    | beginFrame capture => exact fun _ _ _ => of_decide_eq_true check
    | append list frame | stopRecord | clearRun join signal => cases check
    | _ => trivial) passed
  exact ⟨state, reached, noneForgotten_of_heardByAll state reached, of_decide_eq_true asleep⟩

end KCamera
