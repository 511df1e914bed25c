import KCamera.FrameList.StartShift
import KCamera.FrameList.Links

/-!
# The negative start shift

While a list waits for `streamer_start`, `flistAppend` trims it to a window
behind the newest frame. For ordered frames the window has a description of its
own, `trailing`, and a started list only grows.
-/

namespace KCamera

open Heap Machine

/-! ## Appending and reading -/

/-- The operations of the video thread and of a reader. -/
def ListOp.Streams : ListOp → Prop
  | .append _ _ | .next | .seek _ => True
  | _ => False

/-- The frame that an operation appends. -/
def ListOp.frame? : ListOp → Option KcFrame
  | .append frame _ => some frame
  | _ => none

/-- The frames that operations append, in order. -/
def appendedFrames (ops : List ListOp) : List KcFrame := ops.filterMap ListOp.frame?

/-- The frames of two runs in a row. -/
theorem appendedFrames_append (first second : List ListOp) :
    appendedFrames (first ++ second) = appendedFrames first ++ appendedFrames second :=
  List.filterMap_append

/-- One list differs from another in its cursor only. -/
def MovesCursor (list list' : FrameList) : Prop :=
  ∃ readNode readIndex, list' = { list with readNode, readIndex }

/-- A streaming operation reads, or it appends with `flistAppend`. -/
theorem ListOp.streams_cases {list list' : FrameList} {op : ListOp} (streams : op.Streams)
    (applied : op.apply list = some list') :
    (op.frame? = none ∧ MovesCursor list list') ∨
      ∃ frame node, op = .append frame node ∧ Available list frame node ∧
        list' = (flistAppend list frame (some node)).list := by
  cases op with
  | append frame node =>
      simp only [apply] at applied
      split at applied
      · cases applied
        exact .inr ⟨frame, node, rfl, ‹_›, rfl⟩
      · cases applied
  | next =>
      obtain ⟨⟨moved, frame⟩, taken, same⟩ := Option.map_eq_some_iff.mp applied
      cases same
      exact .inl ⟨rfl, flistNext_moves taken⟩
  | seek n =>
      cases applied
      exact .inl ⟨rfl, flistSeek_moves list n⟩
  | clear | start | setShift _ | setDuration _ => exact streams.elim

/-- Moving the cursor leaves the chain. -/
theorem Chained.movesCursor {list list' : FrameList} {cells : List Cell}
    (shape : Chained list cells) (moves : MovesCursor list list') : Chained list' cells := by
  obtain ⟨readNode, readIndex, rfl⟩ := moves
  exact shape.congr rfl rfl rfl rfl

/-! ## Ordered lists -/

instance : DecidableRel KcFrame.Before :=
  fun earlier later => inferInstanceAs (Decidable (earlier.pts ≤ later.pts))

/-- Along an ordered list the elements below a bound come first. -/
theorem dropWhile_eq_filter {α : Type} {relation : α → α → Prop} {old : α → Bool}
    (down : ∀ earlier later, relation earlier later → old later → old earlier) {items : List α}
    (ordered : items.Pairwise relation) : items.dropWhile old = items.filter fun item => !old item := by
  induction items with
  | nil => rfl
  | cons item rest ih =>
      obtain ⟨before, ordered⟩ := List.pairwise_cons.mp ordered
      by_cases gone : old item
      · simpa [gone] using ih ordered
      · have kept : ∀ later ∈ rest, old later = false := by
          intro later member
          by_contra below
          exact gone (down item later (before later member) (by simpa using below))
        rw [List.dropWhile_cons_of_neg gone]
        exact (List.filter_eq_self.mpr (by simpa [gone] using kept)).symm

/-- `dropWhile` depends on its test at the elements only. -/
theorem dropWhile_congr {α : Type} {old old' : α → Bool} {items : List α}
    (same : ∀ item ∈ items, old item = old' item) : items.dropWhile old = items.dropWhile old' := by
  induction items with
  | nil => rfl
  | cons item rest ih =>
      have tail := ih fun other member => same other (List.mem_cons_of_mem _ member)
      simp only [List.dropWhile_cons, same item List.mem_cons_self, tail]

/-- Dropping as many elements as a prefix has. -/
theorem drop_takeWhile_length {α : Type} (old : α → Bool) (items : List α) :
    items.drop (items.takeWhile old).length = items.dropWhile old := by
  have whole : items.takeWhile old ++ items.dropWhile old = items :=
    List.takeWhile_append_dropWhile
  calc items.drop (items.takeWhile old).length
      = (items.takeWhile old ++ items.dropWhile old).drop (items.takeWhile old).length := by
        rw [whole]
    _ = items.dropWhile old := List.drop_left

/-! ## The window -/

/-- `frame` is at most a negative shift older than `newest`. -/
def inWindow (startShift : Int32) (newest frame : KcFrame) : Bool :=
  (newest.pts.toNat : Int) + startShift.toInt ≤ frame.pts.toNat

/-- The frames within a negative shift of the newest one. -/
def trailing (startShift : Int32) (frames : List KcFrame) : List KcFrame :=
  frames.filter fun frame => frames.getLast?.all fun newest => inWindow startShift newest frame

/-- The trimming loop's comparison is exact for the time stamps of a clock that
is far from its end. -/
theorem windowStart_gt_iff {startShift : Int32} {frame newest : KcFrame}
    (small : frame.pts.toNat < 2 ^ 62) (small' : newest.pts.toNat < 2 ^ 62) :
    frame.pts.toInt64 < windowStart newest.pts startShift ↔
      ¬inWindow startShift newest frame := by
  have shift := widened_toNat startShift
  have low := startShift.le_toInt
  have high := startShift.toInt_lt
  have left : frame.pts.toInt64.toInt = frame.pts.toNat := by
    have bits := BitVec.toInt_eq_toNat_cond frame.pts.toInt64.toBitVec
    have same : frame.pts.toInt64.toBitVec.toNat = frame.pts.toNat := rfl
    rw [Int64.toInt_toBitVec, same] at bits
    omega
  have right : (windowStart newest.pts startShift).toInt =
      newest.pts.toNat + startShift.toInt := by
    have bits := BitVec.toInt_eq_toNat_cond (windowStart newest.pts startShift).toBitVec
    have same : (windowStart newest.pts startShift).toBitVec.toNat =
      (newest.pts + startShift.toInt64.toUInt64).toNat := rfl
    rw [Int64.toInt_toBitVec, same, UInt64.toNat_add] at bits
    omega
  simp [Int64.lt_iff_toInt_lt, left, right, inWindow]

/-- With a newest frame the window is what is within the shift of it. -/
theorem trailing_concat (startShift : Int32) (frames : List KcFrame) (newest : KcFrame) :
    trailing startShift (frames ++ [newest]) =
      (frames ++ [newest]).filter (inWindow startShift newest) := by
  simp [trailing]

/-- A negative shift keeps the newest frame. -/
theorem inWindow_self {startShift : Int32} (negative : startShift < 0) (newest : KcFrame) :
    inWindow startShift newest newest := by
  have zero : (0 : Int32).toInt = 0 := rfl
  rw [Int32.lt_iff_toInt_lt, zero] at negative
  simp only [inWindow, decide_eq_true_eq]
  omega

/-- The newest frame is in its own window. -/
theorem trailing_getLast? {startShift : Int32} (negative : startShift < 0)
    (frames : List KcFrame) : (trailing startShift frames).getLast? = frames.getLast? := by
  rcases frames.eq_nil_or_concat' with rfl | ⟨earlier, newest, rfl⟩
  · rfl
  · simp [trailing_concat, inWindow_self negative]

/-- Trimming the window of the frames before `newest` to that of `newest`. -/
theorem trailing_append {startShift : Int32} (negative : startShift < 0)
    {frames : List KcFrame} {newest : KcFrame}
    (ordered : (frames ++ [newest]).Pairwise KcFrame.Before) :
    trailing startShift (frames ++ [newest]) =
      (trailing startShift frames).dropWhile (fun frame => !inWindow startShift newest frame) ++
        [newest] := by
  obtain ⟨sorted, -, last⟩ := List.pairwise_append.mp ordered
  have down : ∀ earlier later : KcFrame, earlier.Before later →
      (!inWindow startShift newest later) → (!inWindow startShift newest earlier) := by
    intro earlier later before old
    rw [KcFrame.Before, UInt64.le_iff_toNat_le] at before
    simp only [inWindow, Bool.not_eq_true', decide_eq_false_iff_not] at old ⊢
    omega
  have windowSorted : (trailing startShift frames).Pairwise KcFrame.Before := sorted.filter _
  rw [dropWhile_eq_filter down windowSorted, trailing_concat, List.filter_append, trailing,
    List.filter_filter]
  have single : [newest].filter (inWindow startShift newest) = [newest] := by
    simp [inWindow_self negative]
  rw [single]
  congr 1
  refine List.filter_congr fun frame member => ?_
  -- A frame in the newest window was in every window before.
  cases tail : frames.getLast? with
  | none => simp
  | some previous =>
      have before := last previous (List.mem_of_mem_getLast? tail) newest (by simp)
      rw [KcFrame.Before, UInt64.le_iff_toNat_le] at before
      rw [Bool.eq_iff_iff]
      simp only [inWindow, Option.all_some, Bool.not_not, Bool.and_eq_true, decide_eq_true_eq]
      omega

/-! ## Waiting for the start -/

/-- What a waiting list keeps when `frame` arrives. -/
def keepWindow (startShift : Int32) (kept : List KcFrame) (frame : KcFrame) : List KcFrame :=
  kept.dropWhile (fun old => old.pts.toInt64 < windowStart frame.pts startShift) ++ [frame]

/-- What a waiting list holds after `frames`. -/
def preTrigger (startShift : Int32) (frames : List KcFrame) : List KcFrame :=
  frames.foldl (keepWindow startShift) []

/-- The frames before the trigger, one frame on. -/
theorem preTrigger_concat (startShift : Int32) (frames : List KcFrame) (frame : KcFrame) :
    preTrigger startShift (frames ++ [frame]) =
      keepWindow startShift (preTrigger startShift frames) frame := by
  simp [preTrigger]

/-- For the frames of an ordered recording the two windows are the same. -/
theorem preTrigger_eq_trailing {startShift : Int32} (negative : startShift < 0)
    {frames : List KcFrame} (ordered : frames.Pairwise KcFrame.Before)
    (small : ∀ frame ∈ frames, frame.pts.toNat < 2 ^ 62) :
    preTrigger startShift frames = trailing startShift frames := by
  induction frames using List.reverseRecOn with
  | nil => rfl
  | append_singleton earlier newest ih =>
      have sorted := (List.pairwise_append.mp ordered).1
      have smaller := fun frame member => small frame (List.mem_append_left _ member)
      have exact_old : ∀ old ∈ trailing startShift earlier,
          decide (old.pts.toInt64 < windowStart newest.pts startShift) =
            !inWindow startShift newest old := by
        intro old member
        have bound := smaller old (List.mem_filter.mp member).1
        simp [windowStart_gt_iff bound (small newest (by simp))]
      rw [preTrigger_concat, ih sorted smaller, keepWindow, trailing_append negative ordered]
      congr 1
      exact dropWhile_congr exact_old

/-- The duration limit of a list of frames whose last one is `frame`. -/
def reaches (duration : UInt32) (frames : List KcFrame) (frame : KcFrame) : Bool :=
  duration ≠ 0 ∧ frames.head?.any fun first => duration ≤ elapsed first frame

/-- The limit depends on the frames, not on their nodes. -/
theorem limitReached_eq_reaches (duration : UInt32) (cells : List Cell) (frame : KcFrame) :
    limitReached duration cells frame = reaches duration (framesOf cells) frame := by
  cases cells <;> rfl

/-- A list that waits for `streamer_start` with the frames `kept`. -/
structure Awaiting (startShift : Int32) (duration : UInt32) (kept : List KcFrame)
    (list : FrameList) : Prop where
  recording : list.recording = -1
  startShift : list.startShift = startShift
  duration : list.duration = duration
  contents : Contents list kept

/-- What an append removes from a waiting list and what it adds. -/
theorem appendedCells_waiting {list : FrameList} (negative : list.startShift < 0)
    (waiting : list.recording = -1) (cells : List Cell) (frame : KcFrame) (node : Addr) :
    framesOf (appendedCells list cells frame node) =
      keepWindow list.startShift (framesOf cells) frame := by
  have below : ¬list.startShift > 0 := by
    intro positive
    exact Int32.lt_irrefl (Int32.lt_trans negative positive)
  have removed : discarded list cells frame = (cells.takeWhile fun cell =>
      cell.2.pts.toInt64 < windowStart frame.pts list.startShift).length := by
    simp [discarded, waiting, below, negative]
  rw [appendedCells, removed, drop_takeWhile_length]
  simp [framesOf, keepWindow, List.dropWhile_map, Function.comp_def]

section Waiting

variable {startShift : Int32} {duration : UInt32} {kept : List KcFrame} {list : FrameList}

/-- A new list with a negative shift awaits its trigger. -/
theorem flistInit_awaiting (negative : startShift < 0) :
    Awaiting startShift duration [] (flistInit startShift duration) where
  recording := by
    have nonzero : startShift ≠ 0 := by
      rintro rfl
      exact absurd negative (by decide)
    exact if_neg nonzero
  startShift := rfl
  duration := rfl
  contents := ⟨[], (flistInit_anchored startShift duration).toChained, rfl⟩

/-- A waiting list trims itself to the window and then tests its duration. -/
theorem Awaiting.append (awaiting : Awaiting startShift duration kept list)
    (negative : startShift < 0) {frame : KcFrame} {node : Addr}
    (fresh : Available list frame node) :
    let result := flistAppend list frame (some node)
    let limit := reaches duration (keepWindow startShift kept frame) frame
    result.status = (if limit then -1 else 0) ∧
      result.list.recording = (if limit then 0 else -1) ∧
      result.list.startShift = startShift ∧ result.list.duration = duration ∧
      Contents result.list (keepWindow startShift kept frame) := by
  obtain ⟨waiting, rfl, rfl, cells, shape, rfl⟩ := awaiting
  have active : list.recording ≠ 0 := by rw [waiting]; decide
  have spec := flistAppend_spec frame shape active fresh
  have frames := appendedCells_waiting negative waiting cells frame node
  have below : ¬list.startShift > 0 := by
    intro positive
    exact Int32.lt_irrefl (Int32.lt_trans negative positive)
  have mode : modeAfter list frame = -1 := by simp [modeAfter, below, waiting]
  have status := spec.status
  have recording := spec.recording
  rw [limitReached_eq_reaches, frames] at status recording
  rw [mode] at recording
  exact ⟨status, recording, spec.startShift, spec.duration, _, spec.shape.toChained, frames⟩

/-- Reading does not end the waiting. -/
theorem Awaiting.movesCursor {list' : FrameList} (awaiting : Awaiting startShift duration kept list)
    (moves : MovesCursor list list') : Awaiting startShift duration kept list' := by
  obtain ⟨waiting, rfl, rfl, cells, shape, rfl⟩ := awaiting
  have shape' := shape.movesCursor moves
  obtain ⟨readNode, readIndex, rfl⟩ := moves
  exact ⟨waiting, rfl, rfl, cells, shape', rfl⟩

/-- One of the frames reaches the duration in the window that it leaves. -/
def EndsWaiting (startShift : Int32) (duration : UInt32) (frames : List KcFrame) : Prop :=
  ∃ earlier frame, earlier ++ [frame] <+: frames ∧
    reaches duration (preTrigger startShift (earlier ++ [frame])) frame

/-- The check of every prefix. -/
theorem any_inits_iff (startShift : Int32) (duration : UInt32) (frames : List KcFrame) :
    (frames.inits.any fun taken =>
      taken.getLast?.any (reaches duration (preTrigger startShift taken))) ↔
      EndsWaiting startShift duration frames := by
  simp only [List.any_eq_true, List.mem_inits]
  constructor
  · rintro ⟨taken, initial, reached⟩
    rcases taken.eq_nil_or_concat' with rfl | ⟨earlier, frame, rfl⟩
    · simp at reached
    · exact ⟨earlier, frame, initial, by simpa using reached⟩
  · rintro ⟨earlier, frame, initial, reached⟩
    exact ⟨_, initial, by simpa using reached⟩

instance (startShift : Int32) (duration : UInt32) (frames : List KcFrame) :
    Decidable (EndsWaiting startShift duration frames) :=
  decidable_of_iff _ (any_inits_iff startShift duration frames)

/-- What ends the waiting early ends it for all that follow. -/
theorem EndsWaiting.mono {taken frames : List KcFrame}
    (ends : EndsWaiting startShift duration taken) (initial : taken <+: frames) :
    EndsWaiting startShift duration frames := by
  obtain ⟨earlier, frame, shorter, reached⟩ := ends
  exact ⟨earlier, frame, shorter.trans initial, reached⟩

/-- Until it is started a list waits with its window, unless its duration has
ended it. -/
theorem awaiting_of_run (negative : startShift < 0) {ops : List ListOp}
    (streams : ∀ op ∈ ops, op.Streams)
    (executed : run ListOp.apply (flistInit startShift duration) ops = some list) :
    (list.recording = 0 ∧ EndsWaiting startShift duration (appendedFrames ops)) ∨
      Awaiting startShift duration (preTrigger startShift (appendedFrames ops)) list := by
  induction ops using List.reverseRecOn generalizing list with
  | nil =>
      cases executed
      exact .inr (flistInit_awaiting negative)
  | append_singleton before op ih =>
      rw [run_append] at executed
      obtain ⟨prior, priorRun, applied⟩ := Option.bind_eq_some_iff.mp executed
      have applied : op.apply prior = some list := by simpa [run] using applied
      have former := ih (fun op member => streams op (by simp [member])) priorRun
      rcases ListOp.streams_cases (streams op (by simp)) applied with
        ⟨none, moves⟩ | ⟨frame, node, rfl, fresh, rfl⟩
      · have same : appendedFrames (before ++ [op]) = appendedFrames before := by
          simp [appendedFrames, none]
        rw [same]
        rcases former with ⟨ended, ends⟩ | awaiting
        · left
          obtain ⟨_, _, rfl⟩ := moves
          exact ⟨ended, ends⟩
        · exact .inr (awaiting.movesCursor moves)
      · have grown : appendedFrames (before ++ [.append frame node]) =
            appendedFrames before ++ [frame] := appendedFrames_append _ _
        rw [grown]
        rcases former with ⟨ended, ends⟩ | awaiting
        · left
          exact ⟨by simp [flistAppend, ended], ends.mono (List.prefix_append _ _)⟩
        · obtain ⟨-, recording, shift, limit, contents⟩ := awaiting.append negative fresh
          rw [← preTrigger_concat] at recording contents
          split at recording
          · rename_i reached
            exact .inl ⟨recording, _, frame, List.prefix_refl _, reached⟩
          · exact .inr ⟨recording, shift, limit, contents⟩

end Waiting

/-! ## After the start -/

/-- A list keeps its frames and adds others at the end. -/
def Grows (list list' : FrameList) : Prop :=
  ∃ kept added, Contents list kept ∧ Contents list' (kept ++ added)

/-- A list that grows keeps its frames in front. -/
theorem Grows.contents {list list' : FrameList} {kept : List KcFrame} (grows : Grows list list')
    (contents : Contents list kept) : ∃ added, Contents list' (kept ++ added) := by
  obtain ⟨kept', added, before, after⟩ := grows
  obtain rfl := before.unique contents
  exact ⟨added, after⟩

/-- Growing twice is growing. -/
theorem Grows.trans {first second third : FrameList} (left : Grows first second)
    (right : Grows second third) : Grows first third := by
  obtain ⟨kept, added, before, middle⟩ := left
  obtain ⟨added', after⟩ := right.contents middle
  exact ⟨kept, added ++ added', before, by rwa [← List.append_assoc]⟩

/-- A list that no longer waits for its start. -/
structure HasBegun (list : FrameList) : Prop where
  recording : list.recording ≠ -1
  chained : ∃ cells, Chained list cells

/-- A list that has begun removes no frame unless it is cleared. -/
theorem HasBegun.step {list list' : FrameList} {op : ListOp} (begun : HasBegun list)
    (kept : op ≠ .clear) (applied : op.apply list = some list') :
    HasBegun list' ∧ Grows list list' := by
  obtain ⟨recording, cells, shape⟩ := begun
  have still : ∀ {moved : FrameList}, Chained moved cells → moved.recording ≠ -1 →
      HasBegun moved ∧ Grows list moved := by
    intro moved shape' recording'
    exact ⟨⟨recording', cells, shape'⟩, framesOf cells, [], ⟨cells, shape, rfl⟩,
      ⟨cells, shape', by simp⟩⟩
  cases op with
  | append frame node =>
      simp only [ListOp.apply] at applied
      split at applied
      · rename_i fresh
        cases applied
        by_cases ended : list.recording = 0
        · have tossed : (flistAppend list frame (some node)).list = list := by
            simp [flistAppend, ended]
          rw [tossed]
          exact still shape recording
        · have spec := flistAppend_spec frame shape ended fresh
          have kept : discarded list cells frame = 0 := by simp [discarded, recording]
          have appended : appendedCells list cells frame node = cells ++ [(node, frame)] := by
            rw [appendedCells, kept, List.drop_zero]
          have recording' : (flistAppend list frame (some node)).list.recording ≠ -1 := by
            rw [spec.recording]
            split
            · decide
            · simp [modeAfter, recording]
          refine ⟨⟨recording', _, spec.shape.toChained⟩, framesOf cells, [frame],
            ⟨cells, shape, rfl⟩, _, spec.shape.toChained, ?_⟩
          simp [appended]
      · cases applied
  | next =>
      obtain ⟨⟨moved, frame⟩, taken, same⟩ := Option.map_eq_some_iff.mp applied
      cases same
      have moves : MovesCursor list moved := flistNext_moves taken
      have shape' := shape.movesCursor moves
      obtain ⟨_, _, rfl⟩ := moves
      exact still shape' recording
  | seek n =>
      cases applied
      have moves : MovesCursor list (flistSeek list n).1 := flistSeek_moves list n
      have shape' := shape.movesCursor moves
      obtain ⟨_, _, same⟩ := moves
      exact still shape' (by rw [same]; exact recording)
  | clear => exact absurd rfl kept
  | start =>
      cases applied
      exact still (shape.congr rfl rfl rfl rfl) (by decide : (1 : Int) ≠ -1)
  | setShift _ | setDuration _ =>
      cases applied
      exact still (shape.congr rfl rfl rfl rfl) recording

/-- Once begun, a recording only grows unless it is cleared. -/
theorem HasBegun.run {list last : FrameList} {ops : List ListOp} (begun : HasBegun list)
    (kept : ∀ op ∈ ops, op ≠ .clear)
    (executed : run ListOp.apply list ops = some last) :
    HasBegun last ∧ Grows list last := by
  induction ops generalizing list with
  | nil =>
      cases executed
      obtain ⟨-, cells, shape⟩ := id begun
      exact ⟨begun, framesOf cells, [], ⟨cells, shape, rfl⟩, cells, shape, by simp⟩
  | cons op rest ih =>
      obtain ⟨next, applied, later⟩ := Option.bind_eq_some_iff.mp executed
      obtain ⟨after, grows⟩ := begun.step (kept op List.mem_cons_self) applied
      obtain ⟨ended, grows'⟩ := ih after (fun op member => kept op (List.mem_cons_of_mem _ member)) later
      exact ⟨ended, grows.trans grows'⟩

/-- The list is the window behind the newest frame. -/
structure IsWindow (startShift : Int32) (frames : List KcFrame) (list : FrameList) : Prop where
  contents : Contents list (trailing startShift frames)
  len : list.len.toNat = (trailing startShift frames).length
  newest : (trailing startShift frames).getLast? = frames.getLast?

/-- After every operation a waiting list is exactly the window behind its newest
frame, and after `streamer_start` every operation only adds frames. -/
theorem window_exact {startShift : Int32} {duration : UInt32} {ops : List ListOp}
    {list : FrameList} (negative : startShift < 0) (streams : ∀ op ∈ ops, op.Streams)
    (ordered : (appendedFrames ops).Pairwise KcFrame.Before)
    (small : ∀ frame ∈ appendedFrames ops, frame.pts.toNat < 2 ^ 62)
    (executed : run ListOp.apply (flistInit startShift duration) ops = some list)
    (waiting : list.recording = -1) :
    IsWindow startShift (appendedFrames ops) list ∧
      ∀ (later : List ListOp) (op : ListOp) (middle last : FrameList),
        (∀ op ∈ later, op ≠ .clear) → op ≠ .clear →
          run ListOp.apply list (.start :: later) = some middle → op.apply middle = some last →
            Grows list middle ∧ Grows middle last := by
  rcases awaiting_of_run negative streams executed with ⟨ended, -⟩ | awaiting
  · exact absurd (waiting.symm.trans ended) (by decide)
  · obtain ⟨cells, shape, frames⟩ := awaiting.contents
    rw [preTrigger_eq_trailing negative ordered small] at frames
    have len : list.len.toNat = (trailing startShift (appendedFrames ops)).length := by
      rw [shape.len, ← frames, List.length_map]
    refine ⟨⟨⟨cells, shape, frames⟩, len, trailing_getLast? negative _⟩, ?_⟩
    intro later op middle last kept kept' started applied
    have begun : HasBegun { list with recording := 1 } :=
      ⟨(by decide : (1 : Int) ≠ -1), cells, shape.congr rfl rfl rfl rfl⟩
    obtain ⟨still, grows⟩ := begun.run kept started
    obtain ⟨-, grown⟩ := still.step kept' applied
    obtain ⟨added, contents⟩ := grows.contents ⟨cells, shape.congr rfl rfl rfl rfl, frames⟩
    exact ⟨⟨_, added, ⟨cells, shape, frames⟩, contents⟩, grown⟩

/-- A window of a millisecond: the first of three frames has left it. -/
theorem window_exact_three :
    ∃ list, run ListOp.apply (flistInit (-1000) 0)
        [.append (.blank 0 0) 0, .append (.blank 1 500) 1, .append (.blank 2 1200) 2] = some list ∧
      IsWindow (-1000) [.blank 0 0, .blank 1 500, .blank 2 1200] list := by
  obtain ⟨list, executed⟩ : ∃ list, run ListOp.apply (flistInit (-1000) 0)
      [.append (.blank 0 0) 0, .append (.blank 1 500) 1, .append (.blank 2 1200) 2] = some list :=
    ⟨_, rfl⟩
  have waiting : (run ListOp.apply (flistInit (-1000) 0)
      [.append (.blank 0 0) 0, .append (.blank 1 500) 1, .append (.blank 2 1200) 2]).map
        FrameList.recording = some (-1) := by decide
  rw [executed, Option.map_some, Option.some.injEq] at waiting
  have streams : ∀ op ∈ [ListOp.append (.blank 0 0) 0, .append (.blank 1 500) 1,
      .append (.blank 2 1200) 2], op.Streams := by simp [ListOp.Streams]
  have ordered : [KcFrame.blank 0 0, .blank 1 500, .blank 2 1200].Pairwise KcFrame.Before := by
    decide
  exact ⟨list, executed, (window_exact (by decide) streams ordered (by decide) executed waiting).1⟩

end KCamera
