import KCamera.Engine.Holdings
import KCamera.Engine.Running
import KCamera.Engine.Shapes
import KCamera.FrameList.Ends

/-!
# Frames that are there

`kcRecordProgress`, `streamer_time`, `streamer_frame` and `flistAppend` read
frames through `m_front`, `m_back` and `m_record`. Each relies on something that
was tested before, or on nothing: `kcRecordProgress` tests `m_record` without a
mutex and the list not at all.
-/

namespace KCamera

open Machine

open Function (update)

/-- No record is detached while `kcRecordProgress` reads it, which finds no duration
or a frame once it has the mutex; a record that `frame` of the live stream
has found is not detached before it holds a frame; and no frame that the start
shift has kept is dropped for a frame for which there is no memory. -/
def ReadsPresent (state : System) (thread : Tid) (choice : Choice) : Op → Prop
  | .stopRecord | .dropFrame | .initParams _ =>
      ∀ other, (state.stage other).progressing = false
  | .recordLimited => ∀ list found, state.world.g.record = some list →
      state.world.lists list = some found → found.duration = 0 ∨ found.len ≠ 0
  | .hasRecord => ∀ list found, (state.stage thread).seen = some (some list) →
      state.world.lists list = some found → state.world.g.record = some list ∨ found.len ≠ 0
  | .append list frame => choice.node = none → ∀ found,
      state.world.lists list = some found → ¬dropsKept found frame
  | _ => True

/-! ## Lists -/

/-- A list of which nodes are live that earlier turns of a load have made, with
ends in order. -/
def AnchoredUpTo (turn : Nat) (list : FrameList) : Prop :=
  (∃ cells, Anchored list cells) ∧ list.startShift = 0 ∧ LoadedUpTo turn list

/-- One more record of a file keeps the list anchored. -/
theorem AnchoredUpTo.append (world : World) (loads : Nat → Bool × Bool × Bool) (turn : Nat)
    (list : FrameList) (frame : KcFrame) (anchored : AnchoredUpTo turn list) :
    AnchoredUpTo (turn + 1) (flistAppend list frame (world.loadTurn loads turn).node).list := by
  obtain ⟨⟨cells, shape⟩, shift, loaded⟩ := anchored
  have fresh := fun addr placed => (loaded.available world loads frame addr placed).2
  obtain ⟨cells', shape', _⟩ := flistAppend_anchored shape frame fresh
    fun _ => not_dropsKept shift frame
  exact ⟨⟨cells', shape'⟩, (flistAppend_settings shape.toChained frame fresh).1.trans shift,
    loaded.append world loads turn list frame⟩

/-- What is loaded into a new list has its ends in order. -/
theorem streamerLoad_anchored (world : World) (loads : Nat → Bool × Bool × Bool)
    (file : Option (List UInt8)) {list : FrameList} {cells : List Cell}
    (shape : Anchored list cells) (shift : list.startShift = 0)
    (unused : ∀ addr, list.nodes addr = none) :
    ∃ cells', Anchored (streamerLoad list file (world.loadTurn loads)).list cells' := by
  cases file with
  | none => exact ⟨cells, shape⟩
  | some bytes =>
      obtain ⟨last, anchored, _⟩ := loadLoop_keeps (AnchoredUpTo.append world loads) 0 list bytes
        ⟨⟨cells, shape⟩, shift, ⟨cells, shape.toChained⟩, fun addr live => absurd (unused addr) live⟩
      exact anchored

/-- What operations do to a list with its ends in order leaves them in order, and
leaves no list empty that was not. -/
theorem ListStep.anchored {world : World} {choice : Choice} {operation : Op} {list : ListId}
    {found moved : FrameList} {cells : List Cell}
    (step : ListStep world choice operation list found moved) (shape : Anchored found cells)
    (kept : ∀ frame, operation = .append list frame → choice.node = none → ¬dropsKept found frame)
    (loads : (∃ file, operation = .load list file) →
      found.startShift = 0 ∧ ∀ addr, found.nodes addr = none) :
    ∃ cells', Anchored moved cells' ∧ (cells ≠ [] → cells' ≠ []) := by
  cases step with
  | append frame attached available =>
      exact flistAppend_anchored shape frame available (kept frame rfl)
  | loaded file =>
      obtain ⟨shift, unused⟩ := loads ⟨file, rfl⟩
      obtain ⟨cells', shape'⟩ := streamerLoad_anchored world choice.loads file shape shift unused
      refine ⟨cells', shape', fun nonempty => ?_⟩
      obtain ⟨cell, member⟩ := List.exists_mem_of_ne_nil cells nonempty
      obtain ⟨next, live⟩ := (shape.segment nonempty).live member
      simp [unused] at live
  | next taken | saved taken =>
      obtain ⟨readNode, readIndex, rfl⟩ := flistNext_moves taken
      exact ⟨cells, shape.congr rfl rfl rfl rfl, id⟩
  | sought n =>
      obtain ⟨readNode, readIndex, same⟩ := flistSeek_moves found n
      rw [same]
      exact ⟨cells, shape.congr rfl rfl rfl rfl, id⟩
  | stopped attached | started | shifted startShift | limited duration =>
      exact ⟨cells, shape.congr rfl rfl rfl rfl, id⟩

/-! ## Runs -/

/-- What is known of lists and readers in all runs that read what is present. -/
structure Presence (world : World) (stages : Tid → Stage) : Prop where
  anchored : ∀ list found, world.lists list = some found → ∃ cells, Anchored found cells
  /-- A file is loaded into a list without a start shift. -/
  loading : ∀ thread list found, (stages thread).loading = some list →
    world.lists list = some found → found.startShift = 0
  progressing : ∀ thread, (stages thread).progressing → world.g.record.isSome
  reading : world.fault = none → ∀ thread list, (stages thread).reading = some list →
    (stages thread).progressing ∧ world.g.record = some list
  limited : world.fault = none → ∀ thread list found, (stages thread).limited →
    (stages thread).reading = some list → world.lists list = some found → found.len ≠ 0
  awaited : world.fault = none → ∀ thread list found, (stages thread).awaited →
    (stages thread).seen = some (some list) → world.lists list = some found → found.len ≠ 0

section

variable {condition : System → Tid → Choice → Op → Prop} {state : System} {thread : Tid}
  {choice : Choice} {operation : Op} {world : World} {response : operation.Resp}

/-- A list is left alone, changed or freed unless it is new. -/
theorem Turn.list_before (turn : Turn condition state thread choice operation world response)
    {list : ListId} {moved : FrameList} (old : list < state.world.nextList)
    (live : world.lists list = some moved) :
    ∃ found, state.world.lists list = some found ∧
      (moved = found ∨ ListStep state.world choice operation list found moved) := by
  rcases Op.run_lists turn.executed list with
    same | ⟨before, after, step⟩ | ⟨_, gone⟩ | ⟨_, rfl, _, _⟩ | ⟨_, rfl, _⟩
  · exact ⟨moved, same ▸ live, .inl rfl⟩
  · rw [live, Option.some.injEq] at after
    exact ⟨_, before, .inr (after ▸ step)⟩
  · simp [gone] at live
  · exact absurd old (Nat.lt_irrefl _)
  · exact absurd old (Nat.lt_irrefl _)

variable (presence : Presence state.world state.stage)

include presence

/-- An operation on a list keeps its ends in order and its frames from running out. -/
theorem Presence.list_step (turn : Turn ReadsPresent state thread choice operation world response)
    {list : ListId} {found moved : FrameList} (live : state.world.lists list = some found)
    (step : ListStep state.world choice operation list found moved) :
    (∃ cells, Anchored moved cells) ∧ (found.len ≠ 0 → moved.len ≠ 0) := by
  obtain ⟨cells, shape⟩ := presence.anchored list found live
  have admitted := turn.admitted
  obtain ⟨cells', shape', kept⟩ := step.anchored shape
    (by
      rintro frame rfl missing
      exact admitted missing found live)
    (by
      rintro ⟨file, rfl⟩
      obtain ⟨_, _, _, loading⟩ := turn.allowed
      exact ⟨presence.loading thread list found loading live,
        (shaped turn.reached).unused thread list found loading live⟩)
  refine ⟨⟨cells', shape'⟩, fun holds zero => ?_⟩
  exact kept (shape.toChained.nonempty_of_len holds) (shape'.len_eq_zero_iff.mp zero)

/-- A list that holds a frame goes on to hold one. -/
theorem Presence.len_step (turn : Turn ReadsPresent state thread choice operation world response)
    {list : ListId} {moved : FrameList} (old : list < state.world.nextList)
    (live : world.lists list = some moved)
    (holds : ∀ found, state.world.lists list = some found → found.len ≠ 0) : moved.len ≠ 0 := by
  obtain ⟨found, before, rfl | step⟩ := turn.list_before old live
  · exact holds moved before
  · exact (presence.list_step turn before step).2 (holds found before)

/-- Every list is anchored. -/
theorem Presence.anchored_step
    (turn : Turn ReadsPresent state thread choice operation world response) (list : ListId)
    (moved : FrameList) (live : world.lists list = some moved) : ∃ cells, Anchored moved cells := by
  rcases Op.run_lists turn.executed list with
    same | ⟨before, after, step⟩ | ⟨_, gone⟩ | ⟨_, _, _, after⟩ | ⟨_, _, after⟩
  · exact presence.anchored list moved (same ▸ live)
  · rw [live, Option.some.injEq] at after
    exact (presence.list_step turn before (after ▸ step)).1
  · simp [gone] at live
  · rw [live, Option.some.injEq] at after
    exact ⟨[], after ▸ flistInit_anchored _ _⟩
  · rw [live, Option.some.injEq] at after
    exact ⟨[], after ▸ flistInit_anchored _ _⟩

/-- A list that is loaded has no shift. -/
theorem Presence.loading_step
    (turn : Turn ReadsPresent state thread choice operation world response) (other : Tid)
    (list : ListId) (moved : FrameList)
    (loads : (update state.stage thread ((state.stage thread).after operation response)
      other).loading = some list) (live : world.lists list = some moved) : moved.startShift = 0 := by
  rcases turn.loading_before loads with ⟨before, idle⟩ | ⟨rfl, rfl⟩
  · obtain ⟨old, apart⟩ := (recorded turn.reached).loading other list before
    obtain ⟨found, live', rfl | step⟩ := turn.list_before old live
    · exact presence.loading other list moved before live'
    · have shift := presence.loading other list found before live'
      have own (gil : .gil ∈ state.held thread) : other = thread := turn.sole gil (by simp [before])
      cases step with
      | append frame attached available | stopped attached =>
          exact absurd ((recorded turn.reached).attached list attached) apart
      | loaded file => exact absurd rfl (idle (own turn.allowed.2.1) file)
      | next taken | saved taken =>
          obtain ⟨readNode, readIndex, rfl⟩ := flistNext_moves taken
          exact shift
      | sought n =>
          obtain ⟨readNode, readIndex, same⟩ := flistSeek_moves found n
          rw [same]
          exact shift
      | shifted startShift =>
          obtain ⟨_, gil, _, _, unloaded, _⟩ := turn.allowed
          rw [own gil, unloaded] at before
          cases before
      | started | limited duration => exact shift
  · have value := result_eq turn.executed
    have new : world.lists state.world.nextList = some (flistInit 0 0) := by
      rw [value]
      simp [World.newLoader, World.setStreamer, World.setList]
    rw [new, Option.some.injEq] at live
    rw [← live]
    rfl

/-- Who goes on to read the record for its progress finds one. -/
theorem Presence.progressing_step
    (turn : Turn ReadsPresent state thread choice operation world response) (other : Tid)
    (progressing : (update state.stage thread ((state.stage thread).after operation response)
      other).progressing) : world.g.record.isSome := by
  by_cases finds : operation = .recordingNow ∧ other = thread
  · obtain ⟨rfl, rfl⟩ := finds
    have executed := turn.executed
    cases executed
    simp only [Function.update_self, Stage.after, Bool.and_eq_true] at progressing
    exact progressing.2
  · have before : (state.stage other).progressing := by
      by_cases moves : Mark.progress ∈ operation.marks
      · by_cases same : other = thread
        · subst same
          rw [Function.update_self] at progressing
          cases operation with
          | recordingNow => exact absurd ⟨rfl, rfl⟩ finds
          | derefRecord | recordLimited => exact progressing
          | sameRecord list => cases progressing
          | endCall request reply => cases progressing
          | _ => simp [Op.marks] at moves
        · rwa [Function.update_of_ne same] at progressing
      · have shares : (state.stage other).Shares _ .progress := turn.shares_update moves other
        exact shares.1 ▸ progressing
    have attached := presence.progressing other before
    by_cases touched : Part.attached ∈ operation.touches
    · have admitted := turn.admitted
      cases operation with
      | stopRecord | dropFrame | initParams _ => simp [admitted other] at before
      | allocRecord =>
          have value := result_eq turn.executed
          unfold World.allocRecord at value
          split at value
          · rw [value]
            exact attached
          · rw [value]
            rfl
      | _ => simp [Op.touches] at touched
    · have same : world.g.record = state.world.g.record :=
        (Op.run_agree turn.executed touched : Agree state.world world .attached)
      rw [same]
      exact attached

/-- While `kcRecordProgress` reads a record nobody detaches or replaces it. -/
theorem Presence.record_kept
    (turn : Turn ReadsPresent state thread choice operation world response) {other : Tid}
    (progressing : (state.stage other).progressing) : world.g.record = state.world.g.record := by
  by_cases touched : Part.attached ∈ operation.touches
  · have admitted := turn.admitted
    cases operation with
    | stopRecord | dropFrame | initParams _ => simp [admitted other] at progressing
    | allocRecord =>
        obtain ⟨_, gil, _, _, seen, _⟩ := turn.allowed
        have attached := presence.progressing other progressing
        rw [knowsNone turn.reached thread turn.running seen] at attached
        cases attached
    | _ => simp [Op.touches] at touched
  · exact (Op.run_agree turn.executed touched : Agree state.world world .attached)

/-- The record that is read for its progress is still attached. -/
theorem Presence.reading_step
    (turn : Turn ReadsPresent state thread choice operation world response)
    (sound : world.fault = none) (other : Tid) (list : ListId)
    (reading : (update state.stage thread ((state.stage thread).after operation response)
      other).reading = some list) :
    (update state.stage thread ((state.stage thread).after operation response)
        other).progressing ∧ world.g.record = some list := by
  have allowed := turn.allowed
  by_cases derefs : operation = .derefRecord ∧ other = thread
  · obtain ⟨rfl, rfl⟩ := derefs
    have executed := turn.executed
    rw [Function.update_self] at reading ⊢
    simp only [Op.run, Option.some.injEq] at executed
    split at executed
    · cases executed
      cases sound
    · rename_i found attached
      cases executed
      cases reading
      exact ⟨allowed.2.2.2, attached⟩
  · have before : (state.stage other).reading = some list ∧
        (update state.stage thread ((state.stage thread).after operation response)
          other).progressing = (state.stage other).progressing := by
      by_cases moves : Mark.progress ∈ operation.marks
      · by_cases same : other = thread
        · subst same
          rw [Function.update_self] at reading
          cases operation with
          | recordingNow =>
              obtain ⟨_, _, _, unread⟩ := allowed
              rw [Stage.after, unread] at reading
              cases reading
          | derefRecord => exact absurd ⟨rfl, rfl⟩ derefs
          | recordLimited =>
              rw [Function.update_self]
              exact ⟨reading, rfl⟩
          | sameRecord list => cases reading
          | endCall request reply => cases reading
          | _ => simp [Op.marks] at moves
        · rw [Function.update_of_ne same] at reading ⊢
          exact ⟨reading, rfl⟩
      · have shares : (state.stage other).Shares _ .progress := turn.shares_update moves other
        exact ⟨shares.2.1 ▸ reading, shares.1⟩
    obtain ⟨reading, same⟩ := before
    obtain ⟨progressing, attached⟩ := presence.reading turn.running other list reading
    exact ⟨same ▸ progressing, (presence.record_kept turn progressing).trans attached⟩

/-- Where a duration was found there is a frame, and goes on to be one. -/
theorem Presence.limited_step
    (turn : Turn ReadsPresent state thread choice operation world response)
    (sound : world.fault = none) (other : Tid) (list : ListId) (moved : FrameList)
    (limited : (update state.stage thread ((state.stage thread).after operation response)
      other).limited)
    (reading : (update state.stage thread ((state.stage thread).after operation response)
      other).reading = some list)
    (live : world.lists list = some moved) : moved.len ≠ 0 := by
  have goes_on (before : (state.stage other).limited)
      (told : (state.stage other).reading = some list) : moved.len ≠ 0 := by
    obtain ⟨_, attached⟩ := presence.reading turn.running other list told
    exact presence.len_step turn ((numbered turn.reached).record list attached) live
      (presence.limited turn.running other list · before told)
  by_cases same : other = thread
  · subst same
    rw [Function.update_self] at limited reading
    by_cases moves : Mark.progress ∈ operation.marks
    · cases operation with
      | recordLimited =>
          have admitted := turn.admitted
          have executed := turn.executed
          have attached := (presence.reading turn.running other list reading).2
          simp only [Op.run, attached, Option.some.injEq] at executed
          split at executed
          · cases executed
            cases sound
          · rename_i found live'
            cases executed
            rw [live', Option.some.injEq] at live
            subst live
            exact (admitted list found attached live').resolve_left (by simpa using limited)
      | recordingNow => exact goes_on limited reading
      | derefRecord => cases limited
      | sameRecord list => cases reading
      | endCall request reply => cases reading
      | _ => simp [Op.marks] at moves
    · have shares : (state.stage other).Shares _ .progress := turn.shares moves
      exact goes_on (shares.2.2 ▸ limited) (shares.2.1 ▸ reading)
  · rw [Function.update_of_ne same] at limited reading
    exact goes_on limited reading

/-- When the wait for the first frame of a record ends, there is one. -/
theorem Presence.lastRecordFrame
    {response : Op.Resp .lastRecordFrame}
    (turn : Turn ReadsPresent state thread choice .lastRecordFrame world response)
    (sound : world.fault = none) (ends : response = false) {list : ListId} {found : FrameList}
    (seen : (state.stage thread).seen = some (some list))
    (live : state.world.lists list = some found) : found.len ≠ 0 := by
  obtain ⟨_, gil, _, frame, _, unswitched, unbound, settled⟩ := turn.allowed
  have outside : ¬(state.stage thread).suspends := by
    rintro (restarting | ⟨join, stopping⟩ | ⟨list, binding⟩)
    · simp [settled] at restarting
    · simp [unswitched] at stopping
    · simp [unbound] at binding
  have executed := turn.executed
  simp only [Op.run, World.lastRecordFrame, Option.some.injEq] at executed
  split at executed
  · cases executed
    cases sound
  · rename_i record attached
    have run := run_of_attached turn.reached gil frame outside (by simp [attached])
    obtain ⟨_, same | detached⟩ := knowsRecord turn.reached thread list seen
    · rw [attached, Option.some.injEq] at same
      subst same
      rw [live] at executed
      cases executed
      obtain ⟨cells, shape⟩ := presence.anchored record found live
      refine shape.back_isSome ?_
      simpa [run] using ends
    · rw [attached] at detached
      cases detached

/-- The last frame that was waited for is there. -/
theorem Presence.awaited_step
    (turn : Turn ReadsPresent state thread choice operation world response)
    (sound : world.fault = none) (other : Tid) (list : ListId) (moved : FrameList)
    (awaited : (update state.stage thread ((state.stage thread).after operation response)
      other).awaited)
    (seen : (update state.stage thread ((state.stage thread).after operation response)
      other).seen = some (some list))
    (live : world.lists list = some moved) : moved.len ≠ 0 := by
  have goes_on (before : (state.stage other).awaited)
      (told : (state.stage other).seen = some (some list)) : moved.len ≠ 0 :=
    presence.len_step turn (knowsRecord turn.reached other list told).1 live
      (presence.awaited turn.running other list · before told)
  by_cases same : other = thread
  · subst same
    rw [Function.update_self] at awaited seen
    by_cases waits : Mark.awaited ∈ operation.marks
    · have executed := turn.executed
      cases operation with
      | hasRecord =>
          have admitted := turn.admitted
          cases executed
          simp only [Stage.after] at awaited seen
          split at awaited
          · rename_i attached
            rw [if_pos attached] at seen
            exact goes_on awaited seen
          · rename_i detached
            rw [if_neg detached] at seen
            rcases admitted list moved seen live with attached | holds
            · simp [attached] at detached
            · exact holds
      | lastRecordFrame =>
          have lists : Agree state.world world .lists :=
            Op.run_agree executed (by simp [Op.touches])
          simp only [Stage.after] at awaited seen
          split at awaited
          · rename_i again
            rw [if_pos again] at seen
            exact goes_on awaited seen
          · rename_i ends
            rw [if_neg ends] at seen
            exact presence.lastRecordFrame turn sound (by simpa using ends) seen (lists.1 ▸ live)
      | copyBack copied => cases awaited
      | endCall request reply => cases awaited
      | _ => simp [Op.marks] at waits
    · have shares : (state.stage other).Shares _ .awaited := turn.shares waits
      have before : (state.stage other).awaited := shares ▸ awaited
      by_cases tells : Mark.seen ∈ operation.marks
      · cases operation with
        | getRecord =>
            obtain ⟨_, _, _, _, unawaited⟩ := turn.allowed
            simp [unawaited] at before
        | stopRecord => cases told : (state.stage other).seen <;> simp [told] at seen
        | endCall request reply | allocRecord | newStreamer origin | setTimer =>
            simp [Stage.idle] at seen
        | _ => simp [Op.marks] at tells
      · have shares : (state.stage other).Shares _ .seen := turn.shares tells
        exact goes_on before (shares ▸ seen)
  · rw [Function.update_of_ne same] at awaited seen
    exact goes_on awaited seen

/-- One operation, for all that is known of lists and readers. -/
theorem Presence.step (turn : Turn ReadsPresent state thread choice operation world response) :
    Presence world (update state.stage thread ((state.stage thread).after operation response)) where
  anchored := presence.anchored_step turn
  loading := presence.loading_step turn
  progressing := presence.progressing_step turn
  reading := presence.reading_step turn
  limited := presence.limited_step turn
  awaited := presence.awaited_step turn

end

end KCamera
