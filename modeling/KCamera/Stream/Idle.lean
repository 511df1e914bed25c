import KCamera.Engine.Running
import KCamera.Engine.Watch

/-!
# Idle shut-down

`kcFrameData` stops the camera when no live frame was asked for in a while. The
timer is a 32-bit clock that is set where a live frame is taken from the slot,
and nowhere else; it stands at zero as long as a recording is read instead.
-/

namespace KCamera

open Machine

open Function (update)

/-- What is remembered of time and of the live stream. -/
structure Activity where
  /-- How many operations there were. -/
  operations : Nat := 0
  /-- When `frame` was last called on the live stream. -/
  called : Option Nat := none
  /-- When such a call last took its mutex to get a frame from the slot, or got
  one from a recording. -/
  asked : Option Nat := none

/-- The call is `frame` of the live stream. -/
def World.asksLive (world : World) : Request → Bool
  | .frame streamer _ => (world.streamers streamer).any fun found => found.record.isNone
  | _ => false

/-- The calls of `frame` on the live stream; `time` is the true time of every
operation, in microseconds. -/
def Activity.observe (time : Nat → Nat) (activity : Activity) (state : System) (_ : Tid)
    (choice : Choice) (operation : Op) : Activity where
  operations := activity.operations + 1
  called :=
    if operation = .nextCall ∧ choice.request.any state.world.asksLive then
      some (time activity.operations)
    else activity.called
  asked := match operation with
    | .setTimer | .copyBack _ => some (time activity.operations)
    | _ => activity.asked

/-- `getTime` is the true time in 32 bits. -/
def ReadsClock (time : Nat → Nat) (activity : Activity) (_ : System) (_ : Tid) (choice : Choice)
    (_ : Op) : Prop :=
  choice.now = UInt32.ofNat (time activity.operations)

instance readsClockDecidable (time : Nat → Nat) (activity : Activity) (state : System)
    (thread : Tid) (choice : Choice) (operation : Op) :
    Decidable (ReadsClock time activity state thread choice operation) :=
  inferInstanceAs (Decidable (choice.now = UInt32.ofNat (time activity.operations)))

/-- The camera is stopped for inactivity only without a recording, and more than
five seconds of true time after the last call. -/
def StopsOnlyIdle (time : Nat → Nat) (last : Activity → Option Nat)
    (current : System × Activity) : Prop :=
  ∀ thread capture choice, (current.1.code thread).current = some (.beginFrame capture) →
    ReadsClock time current.2 current.1 thread choice (.beginFrame capture) →
    (current.1.world.beginFrame capture choice.now choice.allocates).2 = .idle →
    current.1.world.g.record = none ∧
      ∀ since, last current.2 = some since → since + 5000000 < time current.2.operations

/-! ## The timer -/

/-- The timer is the 32-bit image of a time that is not before `asked`, unless
it is zero. -/
def Timed (time : Nat → Nat) (world : World) (activity : Activity) : Prop :=
  world.g.frameTimer ≠ 0 → ∃ set ≤ time activity.operations,
    world.g.frameTimer = UInt32.ofNat set ∧ ∀ asked, activity.asked = some asked → asked ≤ set

/-- Modulo 2^32 no more time passes than really does. -/
theorem kcGetTimer_le {set now : Nat} (before : set ≤ now) :
    (kcGetTimer (UInt32.ofNat now) (UInt32.ofNat set)).toNat ≤ now - set := by
  have value : kcGetTimer (UInt32.ofNat now) (UInt32.ofNat set) = UInt32.ofNat (now - set) :=
    (UInt32.ofNat_sub before).symm
  rw [value, UInt32.toNat_ofNat']
  exact Nat.mod_le _ _

/-- The timer of a world that has run out measures true time. -/
theorem Timed.elapsed {time : Nat → Nat} {world : World} {activity : Activity} {now : UInt32}
    (timed : Timed time world activity) (reads : now = UInt32.ofNat (time activity.operations))
    (idle : world.idle now) {asked : Nat} (last : activity.asked = some asked) :
    asked + 5000000 < time activity.operations := by
  simp only [World.idle, decide_eq_true_eq] at idle
  obtain ⟨_, running, expired⟩ := idle
  obtain ⟨set, before, timer, later⟩ := timed running
  have bound := kcGetTimer_le before
  rw [reads, timer, UInt32.lt_iff_toNat_lt] at expired
  have limit : maxFrameTimeout.toNat = 5000000 := rfl
  have asked := later asked last
  omega

/-! ## Recordings and the timer -/

/-- The timer stands at zero while a recording can be read. -/
structure Unset (world : World) (stages : Tid → Stage) : Prop where
  /-- `kcStartRecord` is followed by `kcStart`, which resets the timer. -/
  attached : world.g.record.isSome → world.g.frameTimer = 0 ∨
    ∃ thread list, (stages thread).binding = some (list, false)
  seen : ∀ thread list, (stages thread).seen = some (some list) → world.g.frameTimer = 0

section

variable {condition : System → Tid → Choice → Op → Prop} {state : System} {thread : Tid}
  {choice : Choice} {operation : Op} {world : World} {response : operation.Resp}

/-- One operation sets the timer only where no recording can be read. -/
theorem Unset.step (turn : Turn condition state thread choice operation world response)
    (none : KnowsNone state.world (state.stage thread)) (unset : Unset state.world state.stage) :
    Unset world (update state.stage thread ((state.stage thread).after operation response)) := by
  have allowed := turn.allowed
  by_cases timer : Part.timer ∈ operation.touches
  · cases operation with
    | resetState =>
        have value := result_eq turn.executed
        have zero : world.g.frameTimer = 0 := by rw [value]; rfl
        exact ⟨fun _ => .inl zero, fun _ _ _ => zero⟩
    | setTimer =>
        obtain ⟨_, gil, _, _, _, seen, _⟩ := allowed
        have value := result_eq turn.executed
        have detached := none turn.running seen
        refine ⟨?_, ?_⟩
        · simp [value, detached]
        · intro other list known
          by_cases same : other = thread
          · subst same
            simp at known
          · rw [Function.update_of_ne same] at known
            exact absurd (turn.sole gil (by simp [known])) same
    | _ => simp [Op.touches] at timer
  · have timer : world.g.frameTimer = state.world.g.frameTimer :=
      (Op.run_agree turn.executed timer : Agree state.world world .timer)
    have starts : operation ≠ .resetState := by
      rintro rfl
      exact timer (by simp [Op.touches])
    refine ⟨fun attached => ?_, ?_⟩
    · by_cases records : operation = .allocRecord
      · subst records
        exact .inr ⟨thread, _, by rw [Function.update_self]; rfl⟩
      · have before : state.world.g.record.isSome := by
          rcases Op.run_record turn.executed records with same | none
          · rwa [same] at attached
          · simp [none] at attached
        rw [timer]
        refine (unset.attached before).imp_right ?_
        rintro ⟨other, list, binding⟩
        exact ⟨other, list, turn.binding_kept starts binding⟩
    · intro other list known
      rw [timer]
      by_cases same : other = thread
      · subst same
        rw [Function.update_self] at known
        by_cases moved : Mark.seen ∈ operation.marks
        · cases operation with
          | getRecord =>
              obtain ⟨_, gil, _, unbound⟩ := allowed
              have attached : state.world.g.record.isSome := by
                have executed := turn.executed
                cases executed
                simp_all
              rcases unset.attached attached with zero | ⟨binder, bound, binding⟩
              · exact zero
              · have held : (state.stage binder).holds .gil := by simp [binding]
                obtain rfl := turn.sole gil held
                simp [unbound] at binding
          | endCall request reply | allocRecord | newStreamer origin | setTimer =>
              simp [Stage.idle] at known
          | stopRecord =>
              cases seen : (state.stage other).seen <;> simp [seen] at known
          | _ => simp [Op.marks] at moved
        · have shares : (state.stage other).Shares _ .seen := turn.shares moved
          exact unset.seen other list (shares ▸ known)
      · rw [Function.update_of_ne same] at known
        exact unset.seen other list known

end

/-- In every run, the timer stands at zero while a recording can be read. -/
theorem unset {condition : System → Tid → Choice → Op → Prop} {state : System}
    (reached : Runs condition state) : Unset state.world state.stage := by
  refine Runs.invariant Unset ?_ ?_ reached
  · exact ⟨by simp [World.initial], by simp [Stage.idle]⟩
  · intro state thread choice operation world response turn unset
    exact unset.step turn (knowsNone turn.reached thread)

section

variable {time : Nat → Nat} {activity : Activity} {state : System} {thread : Tid}
  {choice : Choice} {operation : Op} {world : World} {response : operation.Resp}

/-- Every operation keeps the timer timed. -/
theorem Timed.step (forward : Monotone time)
    (turn : Turn (ReadsClock time activity) state thread choice operation world response)
    (timed : Timed time state.world activity) :
    Timed time world (activity.observe time state thread choice operation) := by
  have later : time activity.operations ≤ time (activity.operations + 1) :=
    forward (Nat.le_succ _)
  by_cases timer : Part.timer ∈ operation.touches
  · cases operation with
    | resetState =>
        intro running
        rw [result_eq turn.executed] at running
        exact absurd rfl running
    | setTimer =>
        intro _
        refine ⟨time activity.operations, later, ?_, ?_⟩
        · rw [result_eq turn.executed]
          exact turn.admitted
        · intro asked last
          cases last
          exact Nat.le_refl _
    | _ => simp [Op.touches] at timer
  · have timer' : world.g.frameTimer = state.world.g.frameTimer :=
      (Op.run_agree turn.executed timer : Agree state.world world .timer)
    intro running
    rw [timer'] at running ⊢
    by_cases copies : ∃ list, operation = .copyBack list
    · obtain ⟨list, rfl⟩ := copies
      obtain ⟨_, _, _, seen, _⟩ := turn.allowed
      exact absurd ((unset turn.reached).seen thread list seen) running
    · obtain ⟨set, before, same, asked⟩ := timed running
      have kept : (activity.observe time state thread choice operation).asked = activity.asked := by
        cases operation with
        | setTimer => exact absurd (by simp [Op.touches]) timer
        | copyBack list => exact absurd ⟨list, rfl⟩ copies
        | _ => rfl
      exact ⟨set, Nat.le_trans before later, same, by rwa [kept]⟩

end

/-- Whatever the calls and wherever the clock stands, the camera is stopped for
inactivity only five seconds after a call took its mutex for a live frame or got
one from a recording. -/
theorem stopsOnlyIdle_asked (time : Nat → Nat) (forward : Monotone time)
    (current : System × Activity)
    (reached : Watched (Activity.observe time) (ReadsClock time) {} current) :
    StopsOnlyIdle time Activity.asked current := by
  have timed : Timed time current.1.world current.2 := by
    refine Watched.invariant (fun world _ activity => Timed time world activity) ?_ ?_ reached
    · exact fun running => absurd rfl running
    · intro state activity thread choice operation world response turn timed
      exact timed.step forward turn
  intro thread capture choice _ reads stops
  have idle : current.1.world.idle choice.now := by
    rcases current.1.world.beginFrame_cases capture choice.now choice.allocates with
      ⟨idle, _⟩ | ⟨_, value⟩ | ⟨_, value⟩ | ⟨_, _, value⟩ | ⟨_, _, value⟩
    · exact idle
    all_goals
      rw [value] at stops
      cases stops
  refine ⟨?_, fun asked last => timed.elapsed reads idle last⟩
  simp only [World.idle, decide_eq_true_eq] at idle
  exact Option.isNone_iff_eq_none.mp idle.1

/-! ## A call that has just begun -/

/-- Six seconds pass before the operation of one number. -/
def pause (first operation : Nat) : Nat := if operation < first then 1000000 else 7000000

/-- The clock of the example does not go back. -/
theorem pause_monotone (first : Nat) : Monotone (pause first) := by
  intro earlier later before
  unfold pause
  split <;> split <;> omega

/-- A reader has waited for a frame while the camera starts, and the first frame
is about to be looked at. -/
def untilFirstFrame : List (Event Tid Choice) :=
  turns (.python 0) 25 { request := some (.newCamera someParams), now := 1000000 } ++
    turns (.python 0) 9 { request := some (.stream someParams), now := 1000000 } ++
    turns (.python 0) 17 { request := some (.frame 0 false), now := 1000000 } ++
    turns (.video 0) 29 { now := 1000000 }

/-- Two interpreter threads and a video thread whose clock passes a check. -/
theorem exists_timed (first : Nat) {events : List (Event Tid Choice)}
    {test : System × Activity → Bool}
    (passed : (watchedRun [.python 0, .python 1, .video 0] (Activity.observe (pause first))
      (fun activity state thread choice operation =>
        ReadsClock (pause first) activity state thread choice operation)
      (System.initial, {}) events).any test) :
    ∃ current, Watched (Activity.observe (pause first)) (ReadsClock (pause first)) {} current ∧
      test current :=
  exists_watchedRun (ReadsClock (pause first)) (fun _ _ _ _ _ _ check => of_decide_eq_true check)
    passed

/-- A frame arrives now, and finds the camera idle. -/
def findsIdle (current : System × Activity) (asked called : Option Nat) : Bool :=
  ((current.1.code (.video 0)).current).any (fun operation => match operation with
    | .beginFrame capture =>
        match (current.1.world.beginFrame capture 7000000 true).2 with
        | .idle => true
        | _ => false
    | _ => false) &&
  (current.2.asked = asked ∧ current.2.called = called)

/-- A frame finds the camera idle six seconds after the stream was last asked. -/
theorem stopsOnlyIdle_asked_first : ∃ current,
    Watched (Activity.observe (pause 47)) (ReadsClock (pause 47)) {} current ∧
      StopsOnlyIdle (pause 47) Activity.asked current ∧
      (findsIdle current (some 1000000) (some 1000000) ∧
        pause 47 current.2.operations = 7000000) := by
  have passed : (watchedRun [.python 0, .python 1, .video 0] (Activity.observe (pause 47))
      (fun activity state thread choice operation =>
        ReadsClock (pause 47) activity state thread choice operation)
      (System.initial, {}) untilFirstFrame).any
      (fun current => findsIdle current (some 1000000) (some 1000000) &&
        pause 47 current.2.operations = 7000000) := by
    decide +kernel
  obtain ⟨current, reached, test⟩ := exists_timed 47 passed
  simp only [Bool.and_eq_true, decide_eq_true_eq] at test
  exact ⟨current, reached, stopsOnlyIdle_asked (pause 47) (pause_monotone 47) current reached, test⟩

/-- A call that has not reached its mutex yet does not keep the camera running. -/
theorem stopsOnlyIdle_called_lost : ¬∀ time, Monotone time → ∀ current,
    Watched (Activity.observe time) (ReadsClock time) {} current →
      StopsOnlyIdle time Activity.called current := by
  intro claim
  have passed : (watchedRun [.python 0, .python 1, .video 0] (Activity.observe (pause 47))
      (fun activity state thread choice operation =>
        ReadsClock (pause 47) activity state thread choice operation)
      (System.initial, {}) (untilFirstFrame ++
        turns (.python 1) 3 { request := some (.frame 0 false), now := 7000000 })).any
      (fun current => findsIdle current (some 1000000) (some 7000000) &&
        current.2.operations = 48) := by
    decide +kernel
  obtain ⟨current, reached, test⟩ := exists_timed 47 passed
  simp only [findsIdle, Bool.and_eq_true, decide_eq_true_eq] at test
  obtain ⟨⟨begins, _, called⟩, operations⟩ := test
  have now : pause 47 current.2.operations = 7000000 := by
    rw [operations]
    rfl
  cases performs : (current.1.code (.video 0)).current with
  | none => simp [performs] at begins
  | some operation =>
      cases operation with
      | beginFrame capture =>
          have idle : (current.1.world.beginFrame capture 7000000 true).2 = .idle := by
            simp only [performs, Option.any_some] at begins
            split at begins
            · assumption
            · cases begins
          have reads : ReadsClock (pause 47) current.2 current.1 (.video 0) { now := 7000000 }
              (.beginFrame capture) := by
            rw [ReadsClock, now]
            rfl
          have later := (claim (pause 47) (pause_monotone 47) current reached (.video 0) capture
            { now := 7000000 } performs reads idle).2 7000000 called
          rw [now] at later
          omega
      | _ => simp [performs] at begins

end KCamera
