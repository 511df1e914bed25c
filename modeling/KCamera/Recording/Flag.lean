import KCamera.Engine.Facts

/-!
# The recording flag

`m_recording` of a list and `g_state.m_record` are changed independently. The
flag tells the truth when it is set only on the list that is attached.
-/

namespace KCamera

open Machine

open Function (update)

/-- Only the attached list has its flag set, and a list that is not attached
never has it set again. -/
structure FlagTrue (condition : System → Tid → Choice → Op → Prop) (state : System) : Prop where
  attached : ∀ list found, state.world.lists list = some found → found.recording ≠ 0 →
    state.world.g.record = some list
  forever : ∀ list < state.world.nextList, state.world.g.record ≠ some list → ∀ later,
    Reach (step semantics) (performing condition) (· = state) later →
    ∀ found, later.world.lists list = some found → found.recording = 0

/-- The flag is cleared where a list is detached, and is set on no other list
than the attached one. -/
def ClearsFlag (state : System) (_ : Tid) (_ : Choice) : Op → Prop
  | .dropFrame | .initParams _ =>
      ∀ list found, state.world.g.record = some list → state.world.lists list = some found →
        found.recording = 0
  | .start list => state.world.g.record = some list
  | .newLoader => False
  | _ => True

/-! ## Operations on one list -/

/-- Seeking leaves the flag. -/
theorem seekFrom_recording (fuel : Nat) (list : FrameList) (n : UInt32) :
    (seekFrom fuel list n).recording = list.recording := by
  induction fuel generalizing list with
  | zero => rfl
  | succ fuel ih =>
      unfold seekFrom
      split
      · split
        · exact ih _
        · rfl
      · rfl

/-- `flistSeek` leaves the flag. -/
theorem flistSeek_recording (list : FrameList) (n : UInt32) :
    (flistSeek list n).1.recording = list.recording := by
  unfold flistSeek
  split
  · rfl
  · exact seekFrom_recording _ _ _

/-- Reading leaves the flag. -/
theorem flistNext_recording {list moved : FrameList} {frame : Option KcFrame}
    (taken : flistNext list = some (moved, frame)) : moved.recording = list.recording := by
  unfold flistNext at taken
  split at taken
  · cases taken
  · cases taken
    rfl
  · obtain ⟨found, _, same⟩ := Option.map_eq_some_iff.mp taken
    cases same
    rfl

/-! ## Runs -/

/-- What keeps the flag true: the flags themselves, and that no thread loads a file. -/
structure Flagged (world : World) (stages : Tid → Stage) : Prop where
  attached : ∀ list found, world.lists list = some found → found.recording ≠ 0 →
    world.g.record = some list
  idle : ∀ thread, (stages thread).loading = none

section Turns

variable {state : System} {thread : Tid} {choice : Choice} {operation : Op} {world : World}
  {response : operation.Resp}

/-- A flag that is set after an operation was set before, unless the list is attached. -/
theorem Flagged.before (turn : Turn ClearsFlag state thread choice operation world response)
    (flagged : Flagged state.world state.stage) {list : ListId} {found : FrameList}
    (live : world.lists list = some found) (set : found.recording ≠ 0) :
    state.world.g.record = some list ∨ operation = .allocRecord ∧ list = state.world.nextList := by
  rcases Op.run_lists turn.executed list with
    same | ⟨before, after, step⟩ | ⟨_, freed⟩ | ⟨starts, new, _, _⟩ | ⟨loads, _, _⟩
  · exact .inl (flagged.attached list found (same ▸ live) set)
  · rw [after, Option.some.injEq] at live
    subst live
    have kept := flagged.attached list _ before
    cases step with
    | append frame attached _ | stopped attached => exact .inl attached
    | next taken | saved taken => exact .inl (kept (by rwa [← flistNext_recording taken]))
    | sought n => exact .inl (kept (by rwa [← flistSeek_recording _ n]))
    | started => exact .inl turn.admitted
    | shifted startShift | limited duration => exact .inl (kept set)
    | loaded file =>
        have loading := turn.allowed.2.2.2
        simp [flagged.idle thread] at loading
  · simp [freed] at live
  · exact .inr ⟨starts, new⟩
  · subst loads
    exact absurd turn.admitted id

/-- A list stays attached unless its flag is cleared. -/
theorem Flagged.stays (turn : Turn ClearsFlag state thread choice operation world response)
    {list : ListId} {found : FrameList} (live : world.lists list = some found)
    (set : found.recording ≠ 0) (attached : state.world.g.record = some list) :
    world.g.record = some list := by
  by_cases touched : Part.attached ∈ operation.touches
  · cases operation with
    | initParams camera | dropFrame =>
        have same : Agree state.world world .lists :=
          Op.run_agree turn.executed (by simp [Op.touches])
        exact absurd (turn.admitted list found attached (same.1 ▸ live)) set
    | allocRecord =>
        have none := knowsNone turn.reached thread turn.running turn.allowed.2.2.2.2.1
        simp [none] at attached
    | stopRecord =>
        rw [result_eq turn.executed] at live ⊢
        simp only [World.stopRecord, attached] at live ⊢
        split at live
        · exact attached
        · simp only [World.detach_lists, World.setList, Function.update_self, Option.some.injEq]
            at live
          exact absurd (live ▸ rfl) set
    | _ => simp [Op.touches] at touched
  · have same : Agree state.world world .attached := Op.run_agree turn.executed touched
    exact Eq.trans same attached

/-- Nothing but `newLoader` puts a thread at loading a file. -/
theorem loading_after (stage : Stage) (operation : Op) (response : operation.Resp)
    (idle : stage.loading = none) (other : operation ≠ .newLoader) :
    (stage.after operation response).loading = none := by
  cases operation with
  | newLoader => exact absurd rfl other
  | readStopping | hasRecord | lastRecordFrame | nextRecordFrame list | construct =>
      simp only [Stage.after]
      split <;> exact idle
  | dropFrame =>
      simp only [Stage.after]
      split <;> exact idle
  | beginFrame capture => cases response <;> exact idle
  | load list file | endCall request reply => rfl
  | _ => exact idle

/-- One operation keeps the flags true. -/
theorem Flagged.step (turn : Turn ClearsFlag state thread choice operation world response)
    (flagged : Flagged state.world state.stage) :
    Flagged world (update state.stage thread ((state.stage thread).after operation response)) where
  attached list found live set := by
    rcases flagged.before turn live set with attached | ⟨rfl, rfl⟩
    · exact Flagged.stays turn live set attached
    · have value := result_eq turn.executed
      unfold World.allocRecord at value
      split at value
      · rw [value, World.fail_lists, (numbered turn.reached).lists _ (Nat.le_refl _)] at live
        cases live
      · rw [value]
  idle other := by
    by_cases same : other = thread
    · subst same
      rw [Function.update_self]
      refine loading_after _ _ _ (flagged.idle other) ?_
      rintro rfl
      exact turn.admitted
    · rw [Function.update_of_ne same]
      exact flagged.idle other

end Turns

/-- In runs that clear the flag, it stays true. -/
theorem flagged (state : System) (reached : Runs ClearsFlag state) :
    Flagged state.world state.stage := by
  refine Runs.invariant Flagged ?_ (fun _ _ _ _ _ _ turn flagged => flagged.step turn) reached
  exact ⟨fun list found live => by simp [World.initial] at live, fun _ => rfl⟩

/-- A list that was made and is not attached stays so. -/
theorem detached_later {condition : System → Tid → Choice → Op → Prop} {state later : System}
    (reached : Runs anyOperation state) {list : ListId} (made : list < state.world.nextList)
    (detached : state.world.g.record ≠ some list) (run : Later condition state later) :
    list < later.world.nextList ∧ later.world.g.record ≠ some list := by
  refine Later.invariant
    (fun world _ => list < world.nextList ∧ world.g.record ≠ some list) reached ⟨made, detached⟩
    ?_ run
  rintro state thread choice operation world response turn ⟨made, detached⟩
  refine ⟨?_, fun attached => ?_⟩
  · rcases Op.run_nextList turn.executed with same | ⟨next, _⟩
    · rwa [same]
    · rw [next]
      exact Nat.lt_succ_of_lt made
  · by_cases starts : operation = .allocRecord
    · subst starts
      have value := result_eq turn.executed
      unfold World.allocRecord at value
      split at value
      · rw [value] at attached
        exact detached attached
      · rw [value] at attached
        cases attached
        exact Nat.lt_irrefl _ made
    · rcases Op.run_record turn.executed starts with same | none
      · exact detached (same ▸ attached)
      · simp [none] at attached

/-- In runs that clear the flag where they detach a list, and set it on no other,
the flag tells the truth. -/
theorem flagTrue_of_clearsFlag (state : System) (reached : Runs ClearsFlag state) :
    FlagTrue ClearsFlag state where
  attached := (flagged state reached).attached
  forever list made detached later run found live := by
    by_contra set
    have attached := (flagged later (reached.trans run)).attached list found live set
    exact (detached_later reached.weaken made detached run).2 attached

/-- A Camera, a recording, and a call that stops it. -/
def stoppedRecording : List (Event Tid Choice) :=
  calls (.newCamera someParams) 25 ++ calls (.record someParams) 20 ++ calls (.stop 0) 7

/-- The condition as a test of one operation. -/
def clearsFlag (state : System) : Op → Bool
  | .dropFrame | .initParams _ =>
      (state.world.g.record.bind state.world.lists).all (·.recording = 0)
  | .start list => state.world.g.record = some list
  | .newLoader => false
  | _ => true

/-- What the computable test of the run admits clears the flag. -/
theorem clearsFlag_sound {state : System} {thread : Tid} {choice : Choice} {operation : Op}
    (passed : clearsFlag state operation) : ClearsFlag state thread choice operation := by
  cases operation with
  | dropFrame | initParams camera =>
      intro list found attached live
      simpa [clearsFlag, attached, live] using passed
  | start list => simpa [clearsFlag, ClearsFlag] using passed
  | newLoader => cases passed
  | _ => trivial

/-- A recording that was stopped, with its list still there. -/
theorem flagTrue_of_clearsFlag_stopped : ∃ state, Runs ClearsFlag state ∧
    FlagTrue ClearsFlag state ∧
    (state.world.nextList = 1 ∧ state.world.g.record = none ∧ (state.world.lists 0).isSome) := by
  have passed : (checkedRun [.python 0] (fun state _ _ operation => clearsFlag state operation)
      System.initial stoppedRecording).any (fun state =>
        state.world.nextList = 1 ∧ state.world.g.record = none ∧
          (state.world.lists 0).isSome) := by
    decide +kernel
  obtain ⟨state, reached, stopped⟩ := exists_checkedRun ClearsFlag
    (fun _ _ _ _ _ check => clearsFlag_sound check) passed
  exact ⟨state, reached, flagTrue_of_clearsFlag state reached, of_decide_eq_true stopped⟩

/-- `kcStop` detaches a recording and leaves its flag set. -/
theorem flagTrue_lost_to_stop :
    ¬∀ state, Runs anyOperation state → FlagTrue anyOperation state := by
  intro claim
  have passed : (run System.step System.initial (calls (.newCamera someParams) 25 ++
      calls (.record someParams) 20 ++ calls .deleteCamera 10)).any (fun state =>
        state.world.g.record = none ∧ (state.world.lists 0).any (·.recording = 1)) := by
    decide +kernel
  obtain ⟨state, reached, test⟩ := exists_run passed
  obtain ⟨detached, set⟩ := of_decide_eq_true test
  cases live : state.world.lists 0 with
  | none => simp [live] at set
  | some found =>
      have recording : found.recording = 1 := by simpa [live] using set
      have attached := (claim state reached).attached 0 found live (by simp [recording])
      simp [detached] at attached

end KCamera
