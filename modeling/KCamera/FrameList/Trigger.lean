import KCamera.FrameList.Duration

/-!
# The trigger of a waiting recording

`flistAppend` tests the duration whether or not `streamer_start` has been
called. A recording that waits with a negative start shift is ended before its
trigger when its window is as long as its duration.
-/

namespace KCamera

open Heap Machine

/-- Each appended frame was appended by an operation. -/
theorem exists_append {ops : List ListOp} {earlier : List KcFrame} {frame : KcFrame}
    (initial : earlier ++ [frame] <+: appendedFrames ops) :
    ∃ before node, before ++ [.append frame node] <+: ops ∧ appendedFrames before = earlier := by
  induction ops generalizing earlier with
  | nil => simp [appendedFrames] at initial
  | cons op rest ih =>
      cases op with
      | append other node =>
          change earlier ++ [frame] <+: other :: appendedFrames rest at initial
          cases earlier with
          | nil =>
              obtain ⟨rfl, -⟩ := List.cons_prefix_cons.mp initial
              exact ⟨[], node, by simp, rfl⟩
          | cons head tail =>
              obtain ⟨rfl, shorter⟩ := List.cons_prefix_cons.mp initial
              obtain ⟨before, node', inside, rfl⟩ := ih shorter
              exact ⟨.append head node :: before, node', List.cons_prefix_cons.mpr ⟨rfl, inside⟩, rfl⟩
      | next | seek _ | clear | start | setShift _ | setDuration _ =>
          obtain ⟨before, node, inside, rfl⟩ := ih initial
          exact ⟨_ :: before, node, List.cons_prefix_cons.mpr ⟨rfl, inside⟩, rfl⟩

/-- What a trigger asks of a run that appends and reads with `ops` before
`streamer_start` and with `later` after it. -/
structure TriggerKept (startShift : Int32) (duration : UInt32) (ops later : List ListOp) :
    Prop where
  /-- Before the trigger no append ends the recording. -/
  waits : ∀ before frame node, before ++ [.append frame node] <+: ops →
    ∀ middle, run ListOp.apply (flistInit startShift duration) before = some middle →
      (flistAppend middle frame (some node)).status ≠ -1 ∧
        (flistAppend middle frame (some node)).list.recording = -1
  /-- After it the first frame that reaches the duration does. -/
  ends : ∀ list, run ListOp.apply (flistInit startShift duration) ops = some list →
    ∀ first rest, Contents list (first :: rest) → ∀ taken, taken <+: later →
      ∀ last, run ListOp.apply list (.start :: taken) = some last →
        last.recording = if (appendedFrames taken).any (outlasts duration first) then 0 else 1

/-- When a trigger is kept: no frame before it reaches the duration in the window
that it leaves, and the first frame after it that reaches the duration modulo
2^32 is the first one that reaches it. -/
structure Triggers (startShift : Int32) (duration : UInt32) (frames later : List KcFrame) :
    Prop where
  waits : ¬EndsWaiting startShift duration frames
  ends : ∀ first ∈ (preTrigger startShift frames).head?,
    later.findIdx (due duration first) = later.findIdx (outlasts duration first)

section Trigger

variable {startShift : Int32} {duration : UInt32} {ops later : List ListOp} {list : FrameList}

/-- For the frames of an ordered recording, the duration ends the wait exactly when
two of them are at most the shift apart and the duration or more apart. -/
theorem endsWaiting_iff (negative : startShift < 0) (limited : duration ≠ 0)
    {frames : List KcFrame} (ordered : frames.Pairwise KcFrame.Before)
    (small : ∀ frame ∈ frames, frame.pts.toNat < 2 ^ 62) :
    EndsWaiting startShift duration frames ↔
      ∃ earlier newest, earlier ++ [newest] <+: frames ∧
        ∃ old ∈ earlier, inWindow startShift newest old ∧ outlasts duration old newest := by
  have low := startShift.le_toInt
  have positive : 0 < duration.toNat := by
    rw [Nat.pos_iff_ne_zero]
    exact fun zero => limited (UInt32.toNat_inj.mp zero)
  have step : ∀ earlier newest, earlier ++ [newest] <+: frames →
      (reaches duration (preTrigger startShift (earlier ++ [newest])) newest ↔
        ∃ old ∈ earlier, inWindow startShift newest old ∧ outlasts duration old newest) := by
    intro earlier newest initial
    have sorted := ordered.sublist initial.sublist
    rw [preTrigger_eq_trailing negative sorted fun frame member => small frame (initial.subset member)]
    have last := trailing_getLast? negative (earlier ++ [newest])
    cases window : trailing startShift (earlier ++ [newest]) with
    | nil => simp [window] at last
    | cons first rest =>
        have sortedWindow : (first :: rest).Pairwise KcFrame.Before :=
          window ▸ sorted.filter _
        have member : first ∈ trailing startShift (earlier ++ [newest]) := by simp [window]
        rw [trailing_concat, List.mem_filter] at member
        obtain ⟨inside, near⟩ := member
        have time := due_iff duration first newest
        rw [reaches_eq_due limited (List.head?_cons)]
        simp only [inWindow, decide_eq_true_eq] at near
        constructor
        · intro reached
          have reached' := time.mp reached
          rcases List.mem_append.mp inside with before | same
          · have later := (List.pairwise_append.mp sorted).2.2 first before newest (by simp)
            rw [KcFrame.Before, UInt64.le_iff_toNat_le] at later
            exact ⟨first, before, by simpa [inWindow] using near, outlasts_of_due
              (by rwa [KcFrame.Before, UInt64.le_iff_toNat_le]) reached⟩
          · obtain rfl := List.mem_singleton.mp same
            omega
        · rintro ⟨old, oldInside, oldNear, oldReached⟩
          have kept : old ∈ first :: rest := by
            rw [← window, trailing_concat, List.mem_filter]
            exact ⟨List.mem_append_left _ oldInside, oldNear⟩
          have front : first.pts.toNat ≤ old.pts.toNat := by
            rcases List.mem_cons.mp kept with rfl | after
            · exact Nat.le_refl _
            · exact UInt64.le_iff_toNat_le.mp ((List.pairwise_cons.mp sortedWindow).1 old after)
          simp only [outlasts, decide_eq_true_eq] at oldReached
          exact time.mpr (by omega)
  constructor
  · rintro ⟨earlier, newest, initial, reached⟩
    exact ⟨earlier, newest, initial, (step earlier newest initial).mp reached⟩
  · rintro ⟨earlier, newest, initial, reached⟩
    exact ⟨earlier, newest, initial, (step earlier newest initial).mpr reached⟩

/-- The two answers of a recording tell what they stand for. -/
theorem mode_inj {left right : Prop} [Decidable left] [Decidable right] :
    (if left then (0 : Int) else 1) = (if right then 0 else 1) ↔ (left ↔ right) := by
  by_cases reached : left <;> by_cases reached' : right <;> simp [reached, reached']

/-- A started window ends on time exactly when the two tests agree. -/
theorem ends_iff (awaiting : Awaiting startShift duration (preTrigger startShift (appendedFrames ops)) list)
    (limited : duration ≠ 0) (streams : ∀ op ∈ later, op.Streams)
    (allocated : (run ListOp.apply list (.start :: later)).isSome) {first : KcFrame}
    (front : (preTrigger startShift (appendedFrames ops)).head? = some first) :
    (∀ taken, taken <+: later → ∀ last, run ListOp.apply list (.start :: taken) = some last →
      last.recording = if (appendedFrames taken).any (outlasts duration first) then 0 else 1) ↔
      (appendedFrames later).findIdx (due duration first) =
        (appendedFrames later).findIdx (outlasts duration first) := by
  obtain ⟨-, -, rfl, contents⟩ := awaiting
  have started : Contents { list with recording := 1 }
      (preTrigger startShift (appendedFrames ops)) := by
    obtain ⟨cells, shape, same⟩ := contents
    exact ⟨cells, shape.congr rfl rfl rfl rfl, same⟩
  have recorded : ∀ taken, taken <+: later →
      ∀ last, run ListOp.apply list (.start :: taken) = some last →
        last.recording = if (appendedFrames taken).any (due list.duration first) then 0 else 1 := by
    intro taken initial last executed
    have total : (preTrigger startShift (appendedFrames ops) ++ appendedFrames later).head? =
        some first := List.mem_head?_append_of_mem_head? front
    have executed : run ListOp.apply { list with recording := 1 } taken = some last := executed
    exact (recordedOn_initially (rfl : ({ list with recording := 1 } : FrameList).recording = 1)
      limited started total streams initial executed).recording
  rw [← any_prefix_iff]
  constructor
  · intro ends taken initial
    obtain ⟨ops', initial', rfl⟩ := List.prefix_filterMap_iff.mp initial
    obtain ⟨last, executed⟩ :=
      run_initially allocated (List.cons_prefix_cons.mpr ⟨rfl, initial'⟩)
    have asked := ends ops' initial' last executed
    rw [recorded ops' initial' last executed] at asked
    exact Bool.eq_iff_iff.mpr (mode_inj.mp asked)
  · intro same taken initial last executed
    have agree : (appendedFrames taken).any (due list.duration first) =
        (appendedFrames taken).any (outlasts list.duration first) :=
      same _ (initial.filterMap ListOp.frame?)
    rw [recorded taken initial last executed, agree]

/-- A trigger is kept exactly under the two conditions of `Triggers`. -/
theorem triggerKept_iff (negative : startShift < 0) (limited : duration ≠ 0)
    (streams : ∀ op ∈ ops ++ later, op.Streams)
    (allocated : (run ListOp.apply (flistInit startShift duration) (ops ++ .start :: later)).isSome) :
    TriggerKept startShift duration ops later ↔
      Triggers startShift duration (appendedFrames ops) (appendedFrames later) := by
  have streamsBefore : ∀ op ∈ ops, op.Streams :=
    fun op member => streams op (List.mem_append_left _ member)
  have streamsAfter : ∀ op ∈ later, op.Streams :=
    fun op member => streams op (List.mem_append_right _ member)
  have executable : (run ListOp.apply (flistInit startShift duration) ops).isSome :=
    Option.isSome_iff_exists.mpr (run_initially allocated (List.prefix_append _ _))
  obtain ⟨list, executed⟩ := Option.isSome_iff_exists.mp executable
  have started : (run ListOp.apply list (.start :: later)).isSome := by
    rwa [run_append, executed] at allocated
  constructor
  · intro kept
    have waits : ¬EndsWaiting startShift duration (appendedFrames ops) := by
      rintro ⟨earlier, frame, initial, reached⟩
      obtain ⟨before, node, initial', rfl⟩ := exists_append initial
      have shorter : before <+: ops := (List.prefix_append _ _).trans initial'
      obtain ⟨middle, prior⟩ := run_initially executable shorter
      obtain ⟨lasts, recording⟩ := kept.waits before frame node initial' middle prior
      rcases awaiting_of_run negative (fun op member => streamsBefore op (shorter.subset member))
        prior with ⟨ended, -⟩ | awaiting
      · rw [append_ended ended, ended] at recording
        exact absurd recording (by decide)
      · obtain ⟨status, -⟩ := awaiting.append negative (available_of_run executable initial' prior)
        rw [← preTrigger_concat, if_pos reached] at status
        exact lasts status
    refine ⟨waits, fun first front => ?_⟩
    rcases awaiting_of_run negative streamsBefore executed with ⟨-, ends⟩ | awaiting
    · exact absurd ends waits
    · obtain ⟨rest, window⟩ := List.head?_eq_some_iff.mp front
      have contents : Contents list (first :: rest) := window ▸ awaiting.contents
      exact (ends_iff awaiting limited streamsAfter started front).mp
        (kept.ends list executed first rest contents)
  · rintro ⟨waits, ends⟩
    constructor
    · intro before frame node initial middle prior
      have shorter : before <+: ops := (List.prefix_append _ _).trans initial
      have inside : appendedFrames before ++ [frame] <+: appendedFrames ops := by
        have grown := initial.filterMap ListOp.frame?
        rwa [List.filterMap_append] at grown
      rcases awaiting_of_run negative (fun op member => streamsBefore op (shorter.subset member))
        prior with ⟨-, ended⟩ | awaiting
      · exact absurd (ended.mono (shorter.filterMap _)) waits
      · have lasting : ¬reaches duration (keepWindow startShift
            (preTrigger startShift (appendedFrames before)) frame) frame := by
          rw [← preTrigger_concat]
          exact fun reached => waits ⟨_, frame, inside, reached⟩
        obtain ⟨status, recording, -⟩ :=
          awaiting.append negative (available_of_run executable initial prior)
        rw [if_neg lasting] at status recording
        exact ⟨by rw [status]; decide, recording⟩
    · intro list' executed' first rest contents
      rw [executed, Option.some.injEq] at executed'
      subst executed'
      rcases awaiting_of_run negative streamsBefore executed with ⟨-, ended⟩ | awaiting
      · exact absurd ended waits
      · have front : (preTrigger startShift (appendedFrames ops)).head? = some first := by
          rw [awaiting.contents.unique contents, List.head?_cons]
        exact (ends_iff awaiting limited streamsAfter started front).mpr (ends first front)

end Trigger

/-- A window that is shorter than the duration keeps its trigger. -/
theorem triggerKept_iff_short :
    TriggerKept (-1000) 5000 [.append (.blank 0 0) 0, .append (.blank 1 2000) 1]
      [.append (.blank 2 7000) 2] := by
  have streams : ∀ op ∈ [ListOp.append (.blank 0 0) 0, .append (.blank 1 2000) 1] ++
      [.append (.blank 2 7000) 2], op.Streams := by simp [ListOp.Streams]
  exact (triggerKept_iff (by decide) (by decide) streams (by decide)).mpr
    ⟨by decide, by decide⟩

/-- Two frames two milliseconds apart end a recording of one millisecond that
waits with a window of five. -/
theorem trigger_lost_in_window :
    ¬∀ startShift duration ops later, startShift < 0 → duration ≠ 0 →
      (∀ op ∈ ops ++ later, op.Streams) → TriggerKept startShift duration ops later := by
  intro claim
  have streams : ∀ op ∈ [ListOp.append (.blank 0 0) 0, .append (.blank 1 2000) 1] ++ [],
      op.Streams := by simp [ListOp.Streams]
  obtain ⟨middle, executed⟩ : ∃ middle,
      run ListOp.apply (flistInit (-5000) 1000) [.append (.blank 0 0) 0] = some middle := ⟨_, rfl⟩
  have kept := claim (-5000) 1000 [.append (.blank 0 0) 0, .append (.blank 1 2000) 1] []
    (by decide) (by decide) streams
  obtain ⟨lasts, -⟩ := kept.waits [.append (.blank 0 0) 0] (.blank 1 2000) 1 (List.prefix_refl _)
    middle executed
  have status : (run ListOp.apply (flistInit (-5000) 1000) [.append (.blank 0 0) 0]).map
      (fun list => (flistAppend list (.blank 1 2000) (some 1)).status) = some (-1) := by decide
  rw [executed, Option.map_some, Option.some.injEq] at status
  exact lasts status

end KCamera
