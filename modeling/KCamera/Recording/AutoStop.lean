import KCamera.Engine.Effects
import KCamera.Engine.Runs

/-!
# The automatic end of a recording

`kcFrameData` decides to end a recording in its critical section and calls
`kcStopRecord` behind it. In between another recording can have been attached.
-/

namespace KCamera

open Machine

/-- A step in which a thread ends a recording of its own accord leaves every
other recording alone. -/
def SparesOthers (state : System) : Prop :=
  ∀ thread choice woken next ended,
    step semantics state (.act thread choice woken) = some next →
    (state.code thread).current = some .stopRecord →
    (state.stage thread).deferred = some (some ended) →
    ∀ other ≠ ended, next.world.lists other = state.world.lists other ∧
      (state.world.g.record = some other → next.world.g.record = some other)

/-- A recording starts only when no thread is about to end one of its own accord. -/
def NoStopOwed (state : System) (_ : Tid) (_ : Choice) (operation : Op) : Prop :=
  operation = .allocRecord → ∀ thread ended, (state.stage thread).deferred ≠ some (some ended)

/-- The recording that a thread is about to end is attached, or none is. -/
def Owes (world : World) (stage : Stage) : Prop :=
  ∀ ended, stage.deferred = some (some ended) →
    world.g.record = none ∨ world.g.record = some ended

section Turns

variable {state : System} {thread : Tid} {choice : Choice} {operation : Op} {world : World}
  {response : operation.Resp}

/-- Other threads change a record only to none while a stop is owed. -/
theorem Owes.other (turn : Turn NoStopOwed state thread choice operation world response)
    {other : Tid} (owes : Owes state.world (state.stage other)) : Owes world (state.stage other) := by
  intro ended deferred
  by_cases starts : operation = .allocRecord
  · exact absurd deferred (turn.admitted starts other ended)
  · rcases Op.run_record turn.executed starts with same | none
    · rw [same]
      exact owes ended deferred
    · exact .inl none

/-- A thread's own step keeps what it owes to the recording it saw. -/
theorem Owes.own (turn : Turn NoStopOwed state thread choice operation world response)
    (owes : Owes state.world (state.stage thread)) :
    Owes world ((state.stage thread).after operation response) := by
  have kept := owes.other turn
  have executed := turn.executed
  intro ended deferred
  cases operation with
  | beginFrame capture =>
      cases response with
      | outOfMemory record =>
          simp only [Stage.after, Option.some.injEq] at deferred
          have begun : (state.world.beginFrame capture choice.now choice.allocates).2 = _ :=
            congrArg Prod.snd (Option.some.inj executed)
          have same : world.g.record = state.world.g.record :=
            (Op.run_agree executed (by simp [Op.touches]) : Agree state.world world .attached)
          rw [same, World.beginFrame_outOfMemory begun]
          exact .inr deferred
      | _ => exact kept ended deferred
  | append list frame =>
      rcases World.append_cases executed with ⟨⟨fault, rfl⟩, rfl⟩ | ⟨found, attached, _, _, _, rfl⟩
      · exact kept ended deferred
      · by_cases failed : response < 0
        · simp only [Stage.after, failed, if_true, Option.some.injEq] at deferred
          subst deferred
          split <;> exact .inr attached
        · simp only [Stage.after, failed, if_false] at deferred
          exact kept ended deferred
  | endFrame =>
      cases response with
      | none => exact kept ended deferred
      | some record =>
          simp only [Stage.after, Option.isSome_some, if_true, Option.some.injEq] at deferred
          have exceeded : (state.world.endFrame choice.memfree).2 = _ :=
            congrArg Prod.snd (Option.some.inj executed)
          have same : world.g.record = state.world.g.record :=
            (Op.run_agree executed (by simp [Op.touches]) : Agree state.world world .attached)
          rw [same, World.endFrame_exceeded exceeded, deferred]
          exact .inr rfl
  | stopRecord | endCall request reply => simp [Stage.idle] at deferred
  | readStopping | hasRecord | lastRecordFrame | nextRecordFrame list | construct =>
      refine kept ended ?_
      simp only [Stage.after] at deferred
      split at deferred <;> exact deferred
  | dropFrame =>
      refine kept ended ?_
      simp only [Stage.after] at deferred
      split at deferred <;> exact deferred
  | _ => exact kept ended deferred

end Turns

/-- In runs where no stop is owed, who ends a recording ends its own or none. -/
theorem owes_always {state : System} (reached : Runs NoStopOwed state) (thread : Tid) :
    Owes state.world (state.stage thread) := by
  refine Runs.each (fun world _ stage => Owes world stage) ?_ ?_ ?_ reached thread
  · intro thread ended deferred
    simp [Stage.idle] at deferred
  · intro state thread choice operation world response turn owes
    exact (owes thread).own turn
  · intro state thread choice operation world response turn owes other _
    exact (owes other).other turn

/-- `kcStopRecord` on the recording that is attached leaves the others alone. -/
theorem stopRecord_others {world : World} {ended other : ListId}
    (attached : world.g.record = none ∨ world.g.record = some ended) (different : other ≠ ended) :
    world.stopRecord.lists other = world.lists other ∧
      (world.g.record = some other → world.stopRecord.g.record = some other) := by
  rcases attached with none | some
  · simp [World.stopRecord, none]
  · have unattached : world.g.record ≠ Option.some other := by
      rw [some]
      simpa using Ne.symm different
    refine ⟨?_, fun attached => absurd attached unattached⟩
    simp only [World.stopRecord, some]
    split
    · rfl
    · simp [World.detach, World.setList, World.note, some, different]

/-- In runs where no recording starts while a stop is owed to one before it,
a stop that a thread owes to one recording never ends another. -/
theorem sparesOthers_of_noStopOwed (state : System) (reached : Runs NoStopOwed state) :
    SparesOthers state := by
  intro thread choice woken next ended taken current deferred other different
  have attached := owes_always reached thread ended deferred
  rcases performs_of_step taken current with same | ⟨response, executed⟩
  · rw [same]
    exact ⟨rfl, id⟩
  · rw [result_eq executed]
    exact stopRecord_others attached different

/-- A Camera, and a recording whose first frame finds the memory reserve exceeded. -/
def untilStopOwed : List (Event Tid Choice) :=
  calls (.newCamera someParams) 25 ++ calls (.record someParams) 16 ++
    turns (.video 0) 36 { node := some 0, memfree := 0 }

/-- The rest of `record()`, and a second call of it up to its new list. -/
def thenRecord : List (Event Tid Choice) :=
  turns (.python 0) 3 {} ++ calls (.record someParams) 11

/-- A thread is about to end a recording. -/
def aboutToStop (thread : Tid) (ended : ListId) (attached : Option ListId) (state : System) : Bool :=
  (state.code thread).current = some .stopRecord ∧
    (state.stage thread).deferred = some (some ended) ∧ state.world.g.record = attached

/-- A run whose video thread comes to end the first recording. -/
theorem sparesOthers_of_noStopOwed_first : ∃ state, Runs NoStopOwed state ∧ SparesOthers state ∧
    aboutToStop (.video 0) 0 (some 0) state := by
  have passed : (checkedRun [.python 0, .video 0]
      (fun state _ _ operation => operation = .allocRecord →
        ∀ thread ∈ [Tid.python 0, .video 0], (state.stage thread).deferred = none)
      System.initial (untilStopOwed ++ turns (.video 0) 1 {})).any
      (aboutToStop (.video 0) 0 (some 0)) := by
    decide +kernel
  obtain ⟨state, reached, stop⟩ := exists_checkedRun NoStopOwed (by
    intro state _ _ operation moved check starts thread ended
    by_cases moves : thread ∈ [Tid.python 0, Tid.video 0]
    · simp [of_decide_eq_true check starts thread moves]
    · simp [moved thread moves, Stage.idle]) passed
  exact ⟨state, reached, sparesOthers_of_noStopOwed state reached, stop⟩

/-- The stop that is owed to the first recording ends the second. -/
theorem sparesOthers_lost_to_record :
    ¬∀ state, Runs anyOperation state → SparesOthers state := by
  intro claim
  have passed : (run System.step System.initial
      (untilStopOwed ++ thenRecord ++ turns (.python 0) 1 {} ++ turns (.video 0) 1 {})).any
      (fun state => aboutToStop (.video 0) 0 (some 1) state &&
        ((step semantics state (.act (.video 0) {} none)).any fun next =>
          next.world.g.record = none)) := by
    decide +kernel
  obtain ⟨state, reached, test⟩ := exists_run passed
  simp only [aboutToStop, Bool.and_eq_true, decide_eq_true_eq] at test
  obtain ⟨⟨current, deferred, attached⟩, detached⟩ := test
  cases taken : step semantics state (.act (.video 0) {} none) with
  | none => simp [taken] at detached
  | some next =>
      simp only [taken, Option.any_some, decide_eq_true_eq] at detached
      have kept := (claim state reached _ _ _ next 0 taken current deferred 1 (by decide)).2 attached
      rw [detached] at kept
      cases kept

end KCamera
