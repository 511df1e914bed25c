import KCamera.FrameList.Window
import Mathlib.Data.Rat.Floor

/-!
# The duration limit

A recording list grows until a frame reaches its duration and tosses every
frame from then on. `flistTime` returns the elapsed time as `unsigned`, so the
frame that ends a recording is the first one that reaches the duration modulo
2^32.
-/

namespace KCamera

open Heap Machine

/-! ## First elements -/

/-- A list up to and including the first element that passes the test. -/
def throughFirst {α : Type} (due : α → Bool) : List α → List α
  | [] => []
  | item :: rest => if due item then [item] else item :: throughFirst due rest

/-- One more item is kept unless an earlier one passes the test. -/
theorem throughFirst_concat {α : Type} (due : α → Bool) (items : List α) (last : α) :
    throughFirst due (items ++ [last]) =
      if items.any due then throughFirst due items else throughFirst due items ++ [last] := by
  induction items with
  | nil => simp [throughFirst]
  | cons item rest ih =>
      by_cases now : due item
      · simp [throughFirst, now]
      · simp only [List.cons_append, throughFirst, now, List.any_cons, Bool.false_or, ih,
          Bool.false_eq_true, if_false]
        exact (apply_ite (item :: ·) _ _ _)

/-- A prefix contains an element that passes exactly when it is long enough. -/
theorem any_iff_findIdx_lt {α : Type} (due : α → Bool) {taken items : List α}
    (initial : taken <+: items) : taken.any due ↔ items.findIdx due < taken.length := by
  have inside : taken.any due ↔ taken.findIdx due < taken.length := by
    simp [List.findIdx_lt_length]
  rw [inside]
  constructor
  · intro short
    rw [initial.findIdx_eq_of_findIdx_lt_length short]
    exact short
  · intro short
    exact Nat.lt_of_le_of_lt initial.findIdx_le short

/-- Two tests first pass at the same element exactly when no prefix tells them
apart. -/
theorem any_prefix_iff {α : Type} (due due' : α → Bool) (items : List α) :
    (∀ taken, taken <+: items → taken.any due = taken.any due') ↔
      items.findIdx due = items.findIdx due' := by
  constructor
  · intro same
    have passes : ∀ n ≤ items.length, items.findIdx due < n ↔ items.findIdx due' < n := by
      intro n bound
      have initial := List.take_prefix n items
      have left := any_iff_findIdx_lt due initial
      have right := any_iff_findIdx_lt due' initial
      rw [List.length_take_of_le bound] at left right
      rw [← left, ← right, same _ initial]
    have bound : items.findIdx due ≤ items.length := List.findIdx_le_length
    have bound' : items.findIdx due' ≤ items.length := List.findIdx_le_length
    have left := passes _ bound
    have right := passes _ bound'
    omega
  · intro same taken initial
    rw [Bool.eq_iff_iff, any_iff_findIdx_lt due initial, any_iff_findIdx_lt due' initial, same]

/-- A list and its nonempty prefixes start alike. -/
theorem head_of_initial {α : Type} {taken items : List α} {first : α} (initial : taken <+: items)
    (front : items.head? = some first) : ∀ head ∈ taken.head?, head = first := by
  intro head member
  obtain ⟨rest, rfl⟩ := initial
  have whole := List.mem_head?_append_of_mem_head? (t := rest) member
  rw [Option.mem_def, front, Option.some.injEq] at whole
  exact whole.symm

/-! ## Times from the front -/

/-- A frame reaches the duration as `flistAppend` computes it. -/
def due (duration : UInt32) (first frame : KcFrame) : Bool := duration ≤ elapsed first frame

/-- A frame reaches the duration. -/
def outlasts (duration : UInt32) (first frame : KcFrame) : Bool :=
  (duration.toNat : Int) ≤ frame.pts.toNat - first.pts.toNat

/-- Time elapsed is counted modulo `2 ^ 32` microseconds. -/
theorem elapsed_toNat (first frame : KcFrame) :
    ((elapsed first frame).toNat : Int) = ((frame.pts.toNat : Int) - first.pts.toNat) % 2 ^ 32 := by
  have bound := first.pts.toNat_lt
  have bound' := frame.pts.toNat_lt
  simp only [elapsed, UInt64.toNat_toUInt32, UInt64.toNat_sub]
  omega

/-- The comparison is one of times modulo 2^32. -/
theorem due_iff (duration : UInt32) (first frame : KcFrame) :
    due duration first frame ↔
      (duration.toNat : Int) ≤ ((frame.pts.toNat : Int) - first.pts.toNat) % 2 ^ 32 := by
  have time := elapsed_toNat first frame
  simp only [due, UInt32.le_iff_toNat_le, decide_eq_true_eq]
  omega

/-- In order, a frame that is due has outlasted the duration. -/
theorem outlasts_of_due {duration : UInt32} {first frame : KcFrame} (later : first.Before frame)
    (reached : due duration first frame) : outlasts duration first frame := by
  rw [due_iff] at reached
  rw [KcFrame.Before, UInt64.le_iff_toNat_le] at later
  simp only [outlasts, decide_eq_true_eq]
  omega

/-- In an ordered recording the two tests first pass together exactly when the
frame that reaches the duration reaches it modulo 2^32. -/
theorem findIdx_due_iff {duration : UInt32} {first : KcFrame} {frames : List KcFrame}
    (later : ∀ frame ∈ frames, first.Before frame) :
    frames.findIdx (due duration first) = frames.findIdx (outlasts duration first) ↔
      ∀ frame ∈ frames.find? (outlasts duration first), due duration first frame := by
  have order : frames.findIdx (outlasts duration first) ≤ frames.findIdx (due duration first) :=
    List.findIdx_le_findIdx fun frame member => outlasts_of_due (later frame member)
  constructor
  · intro same frame found
    rw [Option.mem_def, List.find?_eq_getElem?_findIdx, ← same] at found
    exact List.findIdx_of_getElem?_eq_some found
  · intro reached
    by_cases inside : frames.findIdx (outlasts duration first) < frames.length
    · have found : frames[frames.findIdx (outlasts duration first)]? =
          some frames[frames.findIdx (outlasts duration first)] := List.getElem?_eq_getElem inside
      have now := reached _ (by rw [Option.mem_def, List.find?_eq_getElem?_findIdx, found])
      refine Nat.le_antisymm ?_ order
      by_contra beyond
      exact absurd now (by simpa using List.not_of_lt_findIdx (Nat.lt_of_not_le beyond))
    · have bound : frames.findIdx (due duration first) ≤ frames.length := List.findIdx_le_length
      omega

/-! ## Recording on -/

/-- A recording list keeps the frame and then tests its duration. -/
theorem append_recording {list : FrameList} {kept : List KcFrame} (contents : Contents list kept)
    (recording : list.recording = 1) {frame : KcFrame} {node : Addr}
    (fresh : Available list frame node) :
    let result := flistAppend list frame (some node)
    let limit := reaches list.duration (kept ++ [frame]) frame
    result.status = (if limit then -1 else 0) ∧
      result.list.recording = (if limit then 0 else 1) ∧
      result.list.duration = list.duration ∧ Contents result.list (kept ++ [frame]) := by
  obtain ⟨cells, shape, rfl⟩ := contents
  have active : list.recording ≠ 0 := by rw [recording]; decide
  have running : list.recording ≠ -1 := by rw [recording]; decide
  have spec := flistAppend_spec frame shape active fresh
  have kept : discarded list cells frame = 0 := by simp [discarded, running]
  have appended : appendedCells list cells frame node = cells ++ [(node, frame)] := by
    rw [appendedCells, kept, List.drop_zero]
  have mode : modeAfter list frame = 1 := by simp [modeAfter, recording]
  have status := spec.status
  have recording' := spec.recording
  rw [limitReached_eq_reaches, appended, framesOf, List.map_append] at status recording'
  rw [mode] at recording'
  exact ⟨status, recording', spec.duration, _, spec.shape.toChained, by simp [appended]⟩

/-- A list that has ended tosses the frame. -/
theorem append_ended {list : FrameList} (ended : list.recording = 0) (frame : KcFrame)
    (node : Option Addr) : flistAppend list frame node = ⟨list, [frame], 0⟩ := by
  simp [flistAppend, ended]

/-- The limit is reached when the new frame is due against the first. -/
theorem reaches_eq_due {duration : UInt32} (limited : duration ≠ 0) {first : KcFrame}
    {frames : List KcFrame} (front : frames.head? = some first) (frame : KcFrame) :
    reaches duration frames frame = due duration first frame := by
  simp [reaches, due, limited, front]

/-- A list that was recording with the frames `held` and has been given
`frames` since. -/
structure RecordedOn (duration : UInt32) (first : KcFrame) (held frames : List KcFrame)
    (list : FrameList) : Prop where
  recording : list.recording = if frames.any (due duration first) then 0 else 1
  contents : Contents list (held ++ throughFirst (due duration first) frames)
  duration : list.duration = duration

section Recording

variable {duration : UInt32} {first : KcFrame} {held frames : List KcFrame} {list : FrameList}

/-- Reading does not change what was recorded. -/
theorem RecordedOn.movesCursor {list' : FrameList}
    (recorded : RecordedOn duration first held frames list) (moves : MovesCursor list list') :
    RecordedOn duration first held frames list' := by
  obtain ⟨recording, ⟨cells, shape, same⟩, limit⟩ := recorded
  have shape' := shape.movesCursor moves
  obtain ⟨_, _, rfl⟩ := moves
  exact ⟨recording, ⟨cells, shape', same⟩, limit⟩

/-- Before the limit nothing has been tossed. -/
theorem throughFirst_eq_self {α : Type} {due : α → Bool} {items : List α}
    (none : ¬items.any due) : throughFirst due items = items := by
  induction items with
  | nil => rfl
  | cons item rest ih =>
      simp only [List.any_cons, Bool.or_eq_true, not_or] at none
      simp [throughFirst, none.1, ih none.2]

/-- A recording that has not ended keeps the next frame and tests it. -/
theorem RecordedOn.status (recorded : RecordedOn duration first held frames list)
    (limited : duration ≠ 0) {frame : KcFrame} {node : Addr}
    (front : (held ++ frames ++ [frame]).head? = some first) (fresh : Available list frame node)
    (lasting : ¬frames.any (due duration first)) :
    let result := flistAppend list frame (some node)
    result.status = (if due duration first frame then -1 else 0) ∧
      result.list.recording = (if due duration first frame then 0 else 1) ∧
      result.list.duration = duration ∧ Contents list (held ++ frames) ∧
      Contents result.list (held ++ frames ++ [frame]) := by
  obtain ⟨recording, contents, rfl⟩ := recorded
  rw [if_neg lasting] at recording
  rw [throughFirst_eq_self lasting] at contents
  obtain ⟨status, mode, limit, after⟩ := append_recording contents recording fresh
  rw [reaches_eq_due limited front] at status mode
  exact ⟨status, mode, limit, contents, after⟩

/-- One more frame is recorded, and ends the recording when it is due. -/
theorem RecordedOn.append (recorded : RecordedOn duration first held frames list)
    (limited : duration ≠ 0) {frame : KcFrame} {node : Addr}
    (front : (held ++ frames ++ [frame]).head? = some first) (fresh : Available list frame node) :
    RecordedOn duration first held (frames ++ [frame])
      (flistAppend list frame (some node)).list := by
  by_cases ended : frames.any (due duration first)
  · obtain ⟨recording, contents, limit⟩ := recorded
    rw [if_pos ended] at recording
    rw [append_ended recording]
    refine ⟨?_, ?_, limit⟩
    · rw [List.any_append, ended, Bool.true_or, recording]
      rfl
    · rw [throughFirst_concat, if_pos ended]
      exact contents
  · obtain ⟨-, recording, limit, -, contents⟩ := recorded.status limited front fresh ended
    refine ⟨?_, ?_, limit⟩
    · rw [recording]
      simp only [List.any_append, ended, Bool.false_or, List.any_cons, List.any_nil, Bool.or_false]
    · rw [throughFirst_concat, if_neg ended, throughFirst_eq_self ended, ← List.append_assoc]
      exact contents

/-- Appending and reading records on until the limit is reached. -/
theorem recordedOn_of_run (recording : list.recording = 1) (limited : list.duration ≠ 0)
    (contents : Contents list held) {ops : List ListOp} (streams : ∀ op ∈ ops, op.Streams)
    (front : ∀ head ∈ (held ++ appendedFrames ops).head?, head = first) {last : FrameList}
    (executed : run ListOp.apply list ops = some last) :
    RecordedOn list.duration first held (appendedFrames ops) last := by
  induction ops using List.reverseRecOn generalizing last with
  | nil =>
      cases executed
      exact ⟨recording, by simpa [appendedFrames, throughFirst] using contents, rfl⟩
  | append_singleton earlier op ih =>
      rw [run_append] at executed
      obtain ⟨prior, before, applied⟩ := Option.bind_eq_some_iff.mp executed
      have applied : op.apply prior = some last := by simpa [run] using applied
      rw [appendedFrames_append, ← List.append_assoc] at front
      have former := ih (fun op member => streams op (by simp [member]))
        (fun head member => front head (List.mem_head?_append_of_mem_head? member)) before
      rcases ListOp.streams_cases (streams op (by simp)) applied with
        ⟨none, moves⟩ | ⟨frame, node, rfl, fresh, rfl⟩
      · have same : appendedFrames (earlier ++ [op]) = appendedFrames earlier := by
          simp [appendedFrames, none]
        rw [same]
        exact former.movesCursor moves
      · have start : (held ++ appendedFrames earlier ++ [frame]).head? = some first := by
          obtain ⟨head, found⟩ : ∃ head, (held ++ appendedFrames earlier ++ [frame]).head? = some head :=
            Option.isSome_iff_exists.mp (by simp)
          rw [found, front head found]
        rw [appendedFrames_append]
        exact former.append limited start fresh

end Recording

/-- An appended frame of an executed run found a free node. -/
theorem available_of_run {list middle : FrameList} {before ops : List ListOp} {frame : KcFrame}
    {node : Addr} (allocated : (run ListOp.apply list ops).isSome)
    (initial : before ++ [.append frame node] <+: ops)
    (executed : run ListOp.apply list before = some middle) : Available middle frame node := by
  obtain ⟨last, taken⟩ := run_initially allocated initial
  rw [run_append, executed, Option.bind_some] at taken
  simp only [run, ListOp.apply] at taken
  split at taken
  · assumption
  · cases taken

/-! ## The right frame -/

/-- Neither the frames nor the length nor the cursor differ. -/
structure SameReading (list list' : FrameList) : Prop where
  frames : ∃ frames, Contents list frames ∧ Contents list' frames
  len : list'.len = list.len
  readNode : list'.readNode = list.readNode
  readIndex : list'.readIndex = list.readIndex

/-- What a duration asks of the append of `frame` after those of `before`. -/
structure LimitKept (duration : UInt32) (first : KcFrame) (before : List KcFrame)
    (frame : KcFrame) (list : FrameList) (result : Appended) : Prop where
  status : ¬before.any (outlasts duration first) →
    result.status = if outlasts duration first frame then -1 else 0
  recording : ¬before.any (outlasts duration first) →
    result.list.recording = if outlasts duration first frame then 0 else 1
  kept : ¬before.any (outlasts duration first) →
    ∃ frames, Contents list frames ∧ Contents result.list (frames ++ [frame])
  unchanged : before.any (outlasts duration first) → SameReading list result.list

/-- The duration is kept at every append of a run. -/
def LimitKeptThroughout (first : KcFrame) (list : FrameList) (ops : List ListOp) : Prop :=
  ∀ before frame node, before ++ [.append frame node] <+: ops →
    ∀ middle, run ListOp.apply list before = some middle →
      LimitKept list.duration first (appendedFrames before) frame middle
        (flistAppend middle frame (some node))

section Limit

variable {first : KcFrame} {held : List KcFrame} {list : FrameList} {ops : List ListOp}

/-- Any moment of a run from the front `first`. -/
theorem recordedOn_initially (recording : list.recording = 1) (limited : list.duration ≠ 0)
    (contents : Contents list held) (front : (held ++ appendedFrames ops).head? = some first)
    (streams : ∀ op ∈ ops, op.Streams) {taken : List ListOp} (initial : taken <+: ops)
    {middle : FrameList} (executed : run ListOp.apply list taken = some middle) :
    RecordedOn list.duration first held (appendedFrames taken) middle := by
  have shorter : held ++ appendedFrames taken <+: held ++ appendedFrames ops :=
    (List.prefix_append_right_inj held).mpr (initial.filterMap _)
  exact recordedOn_of_run recording limited contents
    (fun op member => streams op (initial.subset member)) (head_of_initial shorter front) executed

/-- The front is the front at every append. -/
theorem front_at_append (front : (held ++ appendedFrames ops).head? = some first)
    {before : List ListOp} {frame : KcFrame} {node : Addr}
    (initial : before ++ [.append frame node] <+: ops) :
    (held ++ appendedFrames before ++ [frame]).head? = some first := by
  have appended : appendedFrames before ++ [frame] <+: appendedFrames ops := by
    have shorter := initial.filterMap ListOp.frame?
    rwa [List.filterMap_append] at shorter
  have shorter : held ++ appendedFrames before ++ [frame] <+: held ++ appendedFrames ops := by
    rw [List.append_assoc]
    exact (List.prefix_append_right_inj held).mpr appended
  obtain ⟨head, found⟩ : ∃ head, (held ++ appendedFrames before ++ [frame]).head? = some head :=
    Option.isSome_iff_exists.mp (by simp)
  rw [found, head_of_initial shorter front head found]

/-- Appending a frame to frames that two tests do not tell apart. -/
theorem any_concat_iff {α : Type} {due due' : α → Bool} {items : List α} {last : α}
    (none : ¬items.any due) (none' : ¬items.any due') :
    (items ++ [last]).any due = (items ++ [last]).any due' ↔ due last = due' last := by
  simp only [Bool.not_eq_true] at none none'
  simp only [List.any_append, none, none', List.any_cons, List.any_nil, Bool.or_false,
    Bool.false_or]

/-- The two return values tell what they stand for. -/
theorem status_inj {left right : Prop} [Decidable left] [Decidable right] :
    (if left then (-1 : Int) else 0) = (if right then -1 else 0) ↔ (left ↔ right) := by
  by_cases reached : left <;> by_cases reached' : right <;> simp [reached, reached']

/-- The limit fires at the right frame exactly when the first frame that reaches
the duration reaches it modulo 2^32. -/
theorem limitKeptThroughout_iff (recording : list.recording = 1) (limited : list.duration ≠ 0)
    (contents : Contents list held) (front : (held ++ appendedFrames ops).head? = some first)
    (streams : ∀ op ∈ ops, op.Streams)
    (ordered : (held ++ appendedFrames ops).Pairwise KcFrame.Before)
    (allocated : (run ListOp.apply list ops).isSome) :
    LimitKeptThroughout first list ops ↔
      ∀ frame ∈ (appendedFrames ops).find? (outlasts list.duration first),
        due list.duration first frame := by
  have later : ∀ frame ∈ appendedFrames ops, first.Before frame := by
    intro frame member
    obtain ⟨rest, whole⟩ := List.head?_eq_some_iff.mp front
    have inside : frame ∈ first :: rest := whole ▸ List.mem_append_right _ member
    rw [whole] at ordered
    rcases List.mem_cons.mp inside with rfl | after
    · exact UInt64.le_refl _
    · exact (List.pairwise_cons.mp ordered).1 frame after
  rw [← findIdx_due_iff later, ← any_prefix_iff]
  constructor
  · intro kept taken initial
    obtain ⟨ops', initial', rfl⟩ := List.prefix_filterMap_iff.mp initial
    change (appendedFrames ops').any _ = (appendedFrames ops').any _
    clear initial
    induction ops' using List.reverseRecOn with
    | nil => rfl
    | append_singleton before op ih =>
        have initial : before <+: ops := (List.prefix_append _ _).trans initial'
        have former := ih initial
        cases op with
        | append frame node =>
            change (appendedFrames (before ++ [.append frame node])).any _ = _
            rw [appendedFrames_append]
            by_cases ended : (appendedFrames before).any (outlasts list.duration first)
            · rw [List.any_append, List.any_append, former, ended, Bool.true_or, Bool.true_or]
            · have lasting : ¬(appendedFrames before).any (due list.duration first) := by
                rwa [former]
              obtain ⟨middle, executed⟩ := run_initially allocated initial
              have recorded := recordedOn_initially recording limited contents front streams
                initial executed
              obtain ⟨status, -⟩ := recorded.status limited (front_at_append front initial')
                (available_of_run allocated initial' executed) lasting
              have asked := (kept before frame node initial' middle executed).status ended
              rw [status] at asked
              exact (any_concat_iff lasting ended).mpr (Bool.eq_iff_iff.mpr (status_inj.mp asked))
        | next | seek _ | clear | start | setShift _ | setDuration _ =>
            rw [appendedFrames_append]
            simpa [appendedFrames, ListOp.frame?] using former
  · intro same before frame node initial middle executed
    have shorter : before <+: ops := (List.prefix_append _ _).trans initial
    have recorded := recordedOn_initially recording limited contents front streams shorter executed
    have agree := same _ (shorter.filterMap ListOp.frame?)
    have agree' := same _ (initial.filterMap ListOp.frame?)
    rw [List.filterMap_append] at agree'
    change (appendedFrames before).any _ = (appendedFrames before).any _ at agree
    by_cases ended : (appendedFrames before).any (outlasts list.duration first)
    · have tossing : middle.recording = 0 := by rw [recorded.recording, agree, if_pos ended]
      rw [append_ended tossing]
      exact {
        status := fun lasting => absurd ended lasting
        recording := fun lasting => absurd ended lasting
        kept := fun lasting => absurd ended lasting
        unchanged := fun _ => ⟨⟨_, recorded.contents, recorded.contents⟩, rfl, rfl, rfl⟩ }
    · have lasting : ¬(appendedFrames before).any (due list.duration first) := by rwa [agree]
      have now : due list.duration first frame = outlasts list.duration first frame :=
        (any_concat_iff lasting ended).mp agree'
      obtain ⟨status, mode, -, contents, after⟩ := recorded.status limited
        (front_at_append front initial) (available_of_run allocated initial executed) lasting
      rw [now] at status mode
      exact {
        status := fun _ => status
        recording := fun _ => mode
        kept := fun _ => ⟨_, contents, after⟩
        unchanged := fun reached => absurd reached ended }

end Limit

/-- Three frames of a recording that lasts a millisecond. -/
def briefRun : List ListOp :=
  [.append (.blank 0 0) 0, .append (.blank 1 1500) 1, .append (.blank 2 1600) 2]

/-- The second frame ends a recording of a millisecond. -/
theorem limitKeptThroughout_iff_brief :
    LimitKeptThroughout (.blank 0 0) (flistInit 0 1000) briefRun := by
  have streams : ∀ op ∈ briefRun, op.Streams := by simp [briefRun, ListOp.Streams]
  have start : Contents (flistInit 0 1000) [] :=
    ⟨[], (flistInit_anchored 0 1000).toChained, rfl⟩
  have ordered : ([] ++ appendedFrames briefRun).Pairwise KcFrame.Before := by decide
  exact (limitKeptThroughout_iff rfl (by decide) start rfl streams ordered (by decide)).mpr
    (by decide)

/-- A frame that comes 2^32 microseconds after the front does not end a recording
of one microsecond. -/
theorem limit_passed_by_wrap :
    ¬∀ list held first ops, list.recording = 1 → list.duration ≠ 0 → Contents list held →
      (held ++ appendedFrames ops).head? = some first → (∀ op ∈ ops, op.Streams) →
        (held ++ appendedFrames ops).Pairwise KcFrame.Before →
          LimitKeptThroughout first list ops := by
  intro claim
  have streams : ∀ op ∈ [ListOp.append (.blank 0 0) 0, .append (.blank 1 (2 ^ 32)) 1],
      op.Streams := by simp [ListOp.Streams]
  have start : Contents (flistInit 0 1) [] := ⟨[], (flistInit_anchored 0 1).toChained, rfl⟩
  obtain ⟨middle, executed⟩ : ∃ middle,
      run ListOp.apply (flistInit 0 1) [.append (.blank 0 0) 0] = some middle := ⟨_, rfl⟩
  have kept := claim (flistInit 0 1) [] (.blank 0 0)
    [.append (.blank 0 0) 0, .append (.blank 1 (2 ^ 32)) 1] rfl (by decide) start rfl streams
    (by decide) [.append (.blank 0 0) 0] (.blank 1 (2 ^ 32)) 1 (List.prefix_refl _) middle executed
  have asked := kept.status (by decide)
  have status : (run ListOp.apply (flistInit 0 1) [.append (.blank 0 0) 0]).map
      (fun list => (flistAppend list (.blank 1 (2 ^ 32)) (some 1)).status) = some 0 := by decide
  rw [executed, Option.map_some, Option.some.injEq, asked] at status
  exact absurd status (by decide)

end KCamera
