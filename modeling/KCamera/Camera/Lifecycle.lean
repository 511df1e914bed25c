import KCamera.Engine.Facts

/-!
# Lifecycle flags

`m_stopping`, `m_run` and `app` are set and cleared by different functions, and
`kcStartCameraLoop` leaves what a libcamera call skips when it throws as it is.
-/

namespace KCamera

open Machine

open Function (update)

/-- A video thread was created and has not terminated. -/
def World.going (world : World) : Prop := ∃ index < world.spawned, world.exited index = false

/-- The flags agree with the life of the video threads, `m_run` outside of
`kcStart` and `kcStopInternal`. -/
structure FlagsAgree (state : System) : Prop where
  stopping : state.world.g.stopping → state.world.going
  run : state.world.g.run → (∀ thread, (state.stage thread).switch = .none) → state.world.going
  app : ¬state.world.going → state.world.app = none

/-- `event_loop` does not throw, the construction of a `LibcameraRaw` throws only
while `m_run` is zero or when another thread was created since, and
`pthread_create` succeeds. -/
def NoneThrow (state : System) (thread : Tid) (choice : Choice) (operation : Op) : Prop :=
  (operation = .useApp ∨ operation = .takeCapture → choice.throws = false) ∧
  (operation = .construct → choice.throws →
    state.world.g.run = false ∨ thread.index + 1 < state.world.spawned) ∧
  (operation = .createThread → choice.spawns)

instance noneThrowDecidable (state : System) (thread : Tid) (choice : Choice) (operation : Op) :
    Decidable (NoneThrow state thread choice operation) :=
  inferInstanceAs (Decidable
    ((operation = .useApp ∨ operation = .takeCapture → choice.throws = false) ∧
    (operation = .construct → choice.throws →
      state.world.g.run = false ∨ thread.index + 1 < state.world.spawned) ∧
    (operation = .createThread → choice.spawns)))

/-- Only a thread that has not got as far as `event_loop` was left by an exception. -/
def Unthrown (world : World) (stage : Stage) : Prop :=
  world.fault = none → stage.threw → stage.phase = .begun ∨ stage.phase = .exited

/-- The thread that was created last has not left its event loop, and is not
asked to. -/
structure Serving (world : World) (stages : Tid → Stage) (index : Nat) : Prop where
  last : world.spawned = index + 1
  stays : (stages (.video index)).left = false
  unthrown : world.fault = none → (stages (.video index)).threw = false
  goes : (stages (.video index)).phase ≠ .exited
  asked : (stages (.video index)).set → world.run

/-- What the flags say of the threads while none throws. -/
structure Agreed (world : World) (stages : Tid → Stage) : Prop where
  unthrown : ∀ thread, Unthrown world (stages thread)
  stopping : world.g.stopping → ∃ index, (stages (.video index)).phase = .published
  app : world.app.isSome → ∃ index, (stages (.video index)).phase = .published ∨
    (stages (.video index)).phase = .stopped
  run : world.g.run → (∀ thread, (stages thread).switch ≠ .starting) →
    (∀ thread join, (stages thread).switch ≠ .halting join) → ∃ index, Serving world stages index
  halted : ∀ thread join detach, (stages thread).switch = .stopping join detach →
    world.g.run = false

section

variable {state : System} {thread : Tid} {choice : Choice} {operation : Op} {world : World}
  {response : operation.Resp}

/-- A thread's own step throws before it comes to `event_loop`, or not at all. -/
theorem Unthrown.own (turn : Turn NoneThrow state thread choice operation world response)
    (unthrown : Unthrown state.world (state.stage thread)) :
    Unthrown world ((state.stage thread).after operation response) := by
  intro sound threw
  have before := unthrown turn.running
  have allowed := turn.allowed
  by_cases moves : operation.moves
  · cases operation with
    | begin => exact .inl rfl
    | setRun => exact .inl allowed.2.1
    | construct =>
        simp only [Stage.after] at threw ⊢
        split at threw
        · rename_i throws
          simpa [throws] using .inl allowed.2.1
        · have unthrown := allowed.2.2.2
          have threw : (state.stage thread).threw := threw
          simp [unthrown] at threw
    | publishApp =>
        have constructed := allowed.2
        simpa [constructed] using before threw
    | useApp =>
        have value := turn.executed
        have calm : choice.throws = false := turn.admitted.1 (.inl rfl)
        have threw : response = true := threw
        subst threw
        simp only [Op.run] at value
        split at value <;> simp [calm] at value
    | takeCapture =>
        have value := turn.executed
        have calm : choice.throws = false := turn.admitted.1 (.inr rfl)
        have threw : response.isNone := threw
        simp only [Op.run, calm] at value
        split at value
        · cases value
          cases sound
        · cases value
          cases threw
    | readLoop =>
        have unthrown := allowed.2.2.2
        have threw : (state.stage thread).threw := threw
        simp [unthrown] at threw
    | stopped =>
        have published := allowed.2.1
        simpa [published] using before threw
    | clearApp =>
        have stopped := allowed.2
        simpa [stopped] using before threw
    | destruct =>
        rcases allowed.2 with ⟨published, _⟩ | cleared
        · simpa [published] using before threw
        · simpa [cleared] using before threw
    | exit => exact .inr rfl
    | endCall request reply => cases threw
    | _ => cases moves
  · have same := Stage.after_life (state.stage thread) operation response (by simpa using moves)
    simp only [Stage.life, Prod.mk.injEq] at same
    rw [same.2.2.2] at threw
    rw [same.1]
    exact before threw

/-- A thread that does not throw leaves its event loop through `kcStopped`. -/
theorem Turn.published_kept (turn : Turn NoneThrow state thread choice operation world response)
    (unthrown : Unthrown state.world (state.stage thread)) {index : Nat}
    (published : (state.stage (.video index)).phase = .published) :
    (update state.stage thread ((state.stage thread).after operation response)
        (.video index)).phase = .published ∨
      operation = .stopped ∧ (update state.stage thread
        ((state.stage thread).after operation response) (.video index)).phase = .stopped := by
  by_cases same : .video index = thread
  · subst same
    rw [Function.update_self]
    have allowed := turn.allowed
    by_cases moves : operation.moves
    · cases operation with
      | stopped => exact .inr ⟨rfl, rfl⟩
      | useApp | takeCapture | readLoop => exact .inl published
      | destruct =>
          rcases allowed.2 with ⟨_, threw⟩ | cleared
          · simpa [published] using unthrown turn.running threw
          · simp [published] at cleared
      | begin | setRun | construct | publishApp | clearApp | exit | endCall request reply =>
          simp [published] at allowed
      | _ => cases moves
    · have same := Stage.after_life (state.stage (.video index)) operation response
        (by simpa using moves)
      simp only [Stage.life, Prod.mk.injEq] at same
      rw [same.1]
      exact .inl published
  · rw [Function.update_of_ne same]
    exact .inl published

/-- A thread that has called `kcStopped` clears `app` next. -/
theorem Turn.stopped_kept (turn : Turn NoneThrow state thread choice operation world response)
    {index : Nat} (stopped : (state.stage (.video index)).phase = .stopped) :
    operation = .clearApp ∨ (update state.stage thread
      ((state.stage thread).after operation response) (.video index)).phase = .stopped := by
  by_cases same : .video index = thread
  · subst same
    rw [Function.update_self]
    have allowed := turn.allowed
    by_cases moves : operation.moves
    · cases operation with
      | clearApp => exact .inl rfl
      | begin | setRun | construct | publishApp | useApp | takeCapture | readLoop | stopped
      | destruct | exit | endCall request reply => simp [stopped] at allowed
      | _ => cases moves
    · have same := Stage.after_life (state.stage (.video index)) operation response
        (by simpa using moves)
      simp only [Stage.life, Prod.mk.injEq] at same
      rw [same.1]
      exact .inr stopped
  · rw [Function.update_of_ne same]
    exact .inr stopped

/-- The newest thread keeps serving in what it does itself. -/
theorem Serving.own {index : Nat}
    (turn : Turn NoneThrow state (.video index) choice operation world response)
    (serving : Serving state.world state.stage index) (running : state.world.g.run) :
    let after := (state.stage (.video index)).after operation response
    after.left = false ∧ (world.fault = none → after.threw = false) ∧ after.phase ≠ .exited ∧
      (after.set → (state.stage (.video index)).set ∨ operation = .setRun) := by
  intro after
  have stays := serving.stays
  have unthrown := serving.unthrown turn.running
  have allowed := turn.allowed
  have executed := turn.executed
  have life := life turn.reached index
  by_cases moves : operation.moves
  · cases operation with
    | begin => exact ⟨stays, fun _ => unthrown, by simp [after], .inl⟩
    | setRun => exact ⟨stays, fun _ => unthrown, by simp [after, allowed.2.1], fun _ => .inr rfl⟩
    | publishApp => exact ⟨stays, fun _ => unthrown, by simp [after], .inl⟩
    | construct =>
        have calm : choice.throws = false := by
          cases throws : choice.throws with
          | false => rfl
          | true =>
              rcases turn.admitted.2.1 rfl throws with halted | newer
              · simp [halted] at running
              · simp [Tid.index, serving.last] at newer
        have moved : after = { state.stage (.video index) with phase := .constructed } := by
          cases executed
          simp [after, calm]
        rw [moved]
        exact ⟨stays, fun _ => unthrown, by simp, .inl⟩
    | useApp =>
        have published := allowed.2.1
        have calm : choice.throws = false := turn.admitted.1 (.inl rfl)
        refine ⟨stays, fun sound => ?_, by simp [after, published], .inl⟩
        simp only [Op.run, calm] at executed
        split at executed <;> cases executed <;> rfl
    | takeCapture =>
        have published := allowed.2.1
        have calm : choice.throws = false := turn.admitted.1 (.inr rfl)
        refine ⟨stays, fun sound => ?_, by simp [after, published], .inl⟩
        simp only [Op.run, calm] at executed
        split at executed
        · cases executed
          cases sound
        · cases executed
          rfl
    | readLoop =>
        have published := allowed.2.1
        have set := life.set (by simp [published]) (by simp [published])
        have asked := serving.asked set
        cases executed
        exact ⟨by simp [after, asked], fun _ => unthrown, by simp [after, published], .inl⟩
    | stopped =>
        have left := allowed.2.2
        simp [stays] at left
    | clearApp =>
        have ended := life.ended (.inl allowed.2)
        simp [stays, unthrown] at ended
    | destruct =>
        rcases allowed.2 with ⟨_, threw⟩ | cleared
        · simp [unthrown] at threw
        · have ended := life.ended (.inr (.inl cleared))
          simp [stays, unthrown] at ended
    | exit =>
        rcases allowed.2 with ⟨_, threw⟩ | destroyed
        · simp [unthrown] at threw
        · have ended := life.ended (.inr (.inr (.inl destroyed)))
          simp [stays, unthrown] at ended
    | endCall request reply => simp at allowed
    | _ => cases moves
  · have same := Stage.after_life (state.stage (.video index)) operation response
      (by simpa using moves)
    simp only [Stage.life, Prod.mk.injEq] at same
    obtain ⟨phase, set, left, threw⟩ := same
    refine ⟨by rw [left, stays], fun _ => by rw [threw, unthrown], ?_, ?_⟩
    · rw [phase]
      exact serving.goes
    · rw [set]
      exact .inl

/-- The newest thread serves until it is asked to stop. -/
theorem Serving.kept (turn : Turn NoneThrow state thread choice operation world response)
    {index : Nat} (serving : Serving state.world state.stage index) (running : state.world.g.run)
    (idle : operation ≠ .createThread) (going : ∀ join, operation ≠ .stopCameraLoop join) :
    Serving world (update state.stage thread ((state.stage thread).after operation response))
      index := by
  have last : world.spawned = index + 1 := by
    rcases (Op.run_threads turn.executed).spawned with same | ⟨starts, _⟩
    · rw [same, serving.last]
    · exact absurd starts idle
  have loop : state.world.run ∨ operation = .setRun → world.run := by
    intro asked
    rcases (Op.run_threads turn.executed).loop with same | ⟨_, set⟩ | ⟨⟨join, stops⟩, _⟩
    · rcases asked with asked | rfl
      · rwa [same]
      · rw [result_eq turn.executed]
    · exact set
    · exact absurd stops (going join)
  by_cases same : .video index = thread
  · subst same
    obtain ⟨stays, unthrown, goes, set⟩ := serving.own turn running
    constructor
    · exact last
    all_goals rw [Function.update_self]
    · exact stays
    · exact unthrown
    · exact goes
    · exact fun now => loop ((set now).imp_left serving.asked)
  · constructor
    · exact last
    all_goals rw [Function.update_of_ne same]
    · exact serving.stays
    · exact fun _ => serving.unthrown turn.running
    · exact serving.goes
    · exact fun set => loop (.inl (serving.asked set))

/-- A new thread serves. -/
theorem Serving.created (turn : Turn NoneThrow state thread choice .createThread world ()) :
    Serving world (update state.stage thread ((state.stage thread).after .createThread ()))
      state.world.spawned := by
  have spawns : choice.spawns := turn.admitted.2.2 rfl
  have value := result_eq turn.executed
  have life := life turn.reached state.world.spawned
  have unborn : (state.stage (.video state.world.spawned)).phase = .unborn := by
    by_contra born
    exact Nat.lt_irrefl _ (life.created born)
  obtain ⟨unset, stays, unthrown⟩ := life.unset unborn
  have other : Tid.video state.world.spawned ≠ thread := by
    rintro rfl
    have python := turn.allowed.1
    simp at python
  constructor
  · simp [value, World.createThread, spawns]
  all_goals rw [Function.update_of_ne other]
  · exact stays
  · exact fun _ => unthrown
  · simp [unborn]
  · simp [unset]

/-- Every operation keeps the flags in agreement. -/
theorem Agreed.step (turn : Turn NoneThrow state thread choice operation world response)
    (agreed : Agreed state.world state.stage) :
    Agreed world (update state.stage thread ((state.stage thread).after operation response)) where
  unthrown other := by
    by_cases same : other = thread
    · subst same
      rw [Function.update_self]
      exact (agreed.unthrown other).own turn
    · rw [Function.update_of_ne same]
      exact fun _ => agreed.unthrown other turn.running
  stopping stops := by
    rcases (Op.run_threads turn.executed).stopping with same | ⟨rfl, _⟩ | cleared
    · rw [same] at stops
      obtain ⟨index, published⟩ := agreed.stopping stops
      rcases turn.published_kept (agreed.unthrown thread) published with kept | ⟨rfl, _⟩
      · exact ⟨index, kept⟩
      · rw [result_eq turn.executed] at same
        simp [stops] at same
    · obtain ⟨video, _, published, _⟩ := turn.allowed
      cases thread with
      | python index => exact absurd rfl video
      | video index => exact ⟨index, by simpa using published⟩
    · simp [cleared] at stops
  app set := by
    rcases (Op.run_threads turn.executed).app with same | ⟨rfl, _⟩ | ⟨_, cleared⟩
    · rw [same] at set
      obtain ⟨index, published | stopped⟩ := agreed.app set
      · rcases turn.published_kept (agreed.unthrown thread) published with kept | ⟨_, kept⟩
        · exact ⟨index, .inl kept⟩
        · exact ⟨index, .inr kept⟩
      · rcases turn.stopped_kept stopped with rfl | kept
        · rw [result_eq turn.executed] at same
          simp [← same] at set
        · exact ⟨index, .inr kept⟩
    · obtain ⟨video, _⟩ := turn.allowed
      cases thread with
      | python index => exact absurd rfl video
      | video index => exact ⟨index, .inl (by simp)⟩
    · simp [cleared] at set
  run running unstarted unhalted := by
    by_cases switches : operation.switches
    · have alone : ∀ other ≠ thread, (state.stage other).switch = .none :=
        fun _ different => turn.unswitched switches different
      have allowed := turn.allowed
      cases operation with
      | createThread => exact ⟨_, Serving.created turn⟩
      | resetState => exact absurd (by simp) (unstarted thread)
      | stopCameraLoop join => exact absurd (by simp) (unhalted thread join)
      | clearRun join signal =>
          rw [result_eq turn.executed] at running
          cases running
      | awaitStopped =>
          have same : world.g.run = state.world.g.run := by
            have agree : Agree state.world world .threads :=
              Op.run_agree turn.executed (by simp [Op.touches])
            exact agree.1
          rw [same] at running
          have unswitched : ∀ other, (state.stage other).switch = .none := by
            intro other
            by_cases own : other = thread
            · rw [own]
              exact allowed.2.2.2.2
            · exact alone other own
          obtain ⟨index, serving⟩ := agreed.run running (by simp [unswitched]) (by simp [unswitched])
          exact ⟨index, serving.kept turn running (by simp) (by simp)⟩
      | dropFrame | join | setStopping =>
          have stopping : ∃ join detach, (state.stage thread).switch = .stopping join detach := by
            first
            | exact allowed.imp fun join stopping => ⟨true, stopping⟩
            | exact ⟨_, _, allowed.2.1⟩
          obtain ⟨join, detach, stopping⟩ := stopping
          have halted := agreed.halted thread join detach stopping
          rcases (Op.run_threads turn.executed).run with same | ⟨starts, _⟩ | ⟨_, cleared⟩
          · simp [same, halted] at running
          · cases starts
          · simp [cleared] at running
      | _ => cases switches
    · have quiet : operation.switches = false := by simpa using switches
      have same : world.g.run = state.world.g.run := by
        rcases (Op.run_threads turn.executed).run with same | ⟨rfl, _⟩ | ⟨⟨_, _, rfl⟩, _⟩
        · exact same
        · cases quiet
        · cases quiet
      have switch := turn.switch_update quiet
      rw [same] at running
      simp only [switch] at unstarted unhalted
      obtain ⟨index, serving⟩ := agreed.run running unstarted unhalted
      refine ⟨index, serving.kept turn running ?_ ?_⟩
      · rintro rfl
        cases quiet
      · rintro join rfl
        cases quiet
  halted other join detach stopping := by
    by_cases switches : operation.switches
    · have own : other = thread := by
        by_contra different
        rw [Function.update_of_ne different, turn.unswitched switches different] at stopping
        cases stopping
      subst own
      rw [Function.update_self] at stopping
      cases operation with
      | clearRun join signal => rw [result_eq turn.executed]
      | dropFrame =>
          obtain ⟨join, before⟩ := turn.allowed
          have agree : Agree state.world world .threads :=
            Op.run_agree turn.executed (by simp [Op.touches])
          rw [agree.1]
          exact agreed.halted other join true before
      | awaitStopped | resetState | createThread | stopCameraLoop join | join | setStopping =>
          cases stopping
      | _ => cases switches
    · have quiet : operation.switches = false := by simpa using switches
      rw [turn.switch_update quiet] at stopping
      rcases (Op.run_threads turn.executed).run with same | ⟨rfl, _⟩ | ⟨_, cleared⟩
      · rw [same]
        exact agreed.halted other join detach stopping
      · cases quiet
      · exact cleared

end

/-- At first no thread runs and no flag is set. -/
theorem agreed_initial : Agreed .initial fun _ => .idle where
  unthrown _ _ threw := by cases threw
  stopping stops := by cases stops
  app set := by cases set
  run running := by cases running
  halted _ _ _ stopping := by cases stopping

/-- In runs in which nothing throws the flags agree with the life of the threads. -/
theorem flagsAgree_of_noneThrow (state : System) (reached : Runs NoneThrow state) :
    FlagsAgree state := by
  have agreed : Agreed state.world state.stage :=
    Runs.invariant Agreed agreed_initial (fun _ _ _ _ _ _ turn agreed => agreed.step turn) reached
  have going : ∀ index, (state.stage (.video index)).phase ≠ .unborn →
      (state.stage (.video index)).phase ≠ .exited → state.world.going := by
    intro index born goes
    have life := life reached index
    refine ⟨index, life.created born, ?_⟩
    by_contra exited
    exact goes (life.exited.mp (by simpa using exited))
  constructor
  · intro stopping
    obtain ⟨index, published⟩ := agreed.stopping stopping
    exact going index (by simp [published]) (by simp [published])
  · intro running unswitched
    obtain ⟨index, serving⟩ := agreed.run running (by simp [unswitched]) (by simp [unswitched])
    have life := life reached index
    refine ⟨index, by simp [serving.last], ?_⟩
    by_contra exited
    exact serving.goes (life.exited.mp (by simpa using exited))
  · intro ended
    by_contra set
    obtain ⟨index, published | stopped⟩ := agreed.app (Option.isSome_iff_ne_none.mpr set)
    · exact ended (going index (by simp [published]) (by simp [published]))
    · exact ended (going index (by simp [stopped]) (by simp [stopped]))

/-- A run whose video thread has set `app` while the camera runs. -/
theorem flagsAgree_of_noneThrow_recording : ∃ state, Runs NoneThrow state ∧ FlagsAgree state ∧
    (state.world.g.run ∧ state.world.app = some 0) := by
  have passed : (checkedRun [.python 0, .video 0]
      (fun state thread choice operation => NoneThrow state thread choice operation)
      System.initial (calls (.newCamera someParams) 25 ++ calls (.record someParams) 20 ++
        turns (.video 0) 22 {})).any
      (fun state => state.world.g.run ∧ state.world.app = some 0) := by
    decide +kernel
  obtain ⟨state, reached, served⟩ := exists_checkedRun NoneThrow
    (fun _ _ _ _ _ check => of_decide_eq_true check) passed
  exact ⟨state, reached, flagsAgree_of_noneThrow state reached, of_decide_eq_true served⟩

/-- A thread that throws when it opens the camera leaves `app` behind. -/
theorem flagsAgree_lost_to_open : ¬∀ state, Runs anyOperation state → FlagsAgree state := by
  intro claim
  have passed : (run System.step System.initial
      (calls (.newCamera someParams) 25 ++ calls (.record someParams) 20 ++ turns (.video 0) 18 {} ++
        turns (.video 0) 3 { throws := true })).any (fun state =>
      (∀ index < state.world.spawned, state.world.exited index) ∧ state.world.app = some 0) := by
    decide +kernel
  obtain ⟨state, reached, test⟩ := exists_run passed
  obtain ⟨ended, left⟩ := of_decide_eq_true test
  have cleared := (claim state reached).app (by
    rintro ⟨index, created, going⟩
    simp [ended index created] at going)
  simp [left] at cleared

end KCamera
