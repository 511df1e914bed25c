import KCamera.FrameList.Window

/-!
# Appending without memory

`flistAppend` returns -2 when `malloc` fails, after the positive start shift may
have freed the frame that it kept. The list is then empty with `m_front` still
at the freed node.
-/

namespace KCamera

open Heap

/-- The lists that the operations build, whatever allocations fail. -/
inductive Built : FrameList → Prop
  | init (startShift : Int32) (duration : UInt32) : Built (flistInit startShift duration)
  | append {list : FrameList} (frame : KcFrame) (node : Option Addr) (built : Built list)
      (fresh : ∀ addr, node = some addr → Available list frame addr) :
      Built (flistAppend list frame node).list
  | next {list moved : FrameList} {frame : Option KcFrame} (built : Built list)
      (taken : flistNext list = some (moved, frame)) : Built moved
  | seek {list : FrameList} (n : UInt32) (built : Built list) : Built (flistSeek list n).1
  | clear {list cleared : FrameList} {freed : List KcFrame} (built : Built list)
      (taken : flistClear list = some (cleared, freed)) : Built cleared
  /-- `streamer_start`, and `kcStopRecord` -/
  | record {list : FrameList} (recording : Bool) (built : Built list) :
      Built { list with recording := if recording then 1 else 0 }
  | setShift {list : FrameList} (startShift : Int32) (built : Built list) :
      Built { list with startShift }
  | setDuration {list : FrameList} (duration : UInt32) (built : Built list) :
      Built { list with duration }

/-- What a failed append has to leave of a list. -/
structure Intact (list after : FrameList) : Prop where
  frames : ∃ frames, Contents list frames ∧ Contents after frames
  len : after.len = list.len
  readNode : after.readNode = list.readNode
  readIndex : after.readIndex = list.readIndex
  /-- Every node that `m_front` leads to is live. -/
  live : ∃ cells, Segment after.nodes after.front cells none
  /-- Clearing frees each frame of the list once. -/
  clears : ∃ cells cleared, Chained after cells ∧
    flistClear after = some (cleared, framesOf cells)

/-- The append frees the frame that a positive start shift has kept. -/
def dropsKept (list : FrameList) (frame : KcFrame) : Prop :=
  list.startShift > 0 ∧ list.recording = -1 ∧ heldBack list frame ∧ list.len = 1

section

variable {list : FrameList} {cells : List Cell}

/-- A list that can be cleared starts with its own nodes. -/
theorem Chained.segment_of_clear (shape : Chained list cells) {cleared : FrameList}
    {freed : List KcFrame} (taken : flistClear list = some (cleared, freed)) :
    Segment list.nodes list.front cells none := by
  cases cells with
  | cons => exact shape.segment (by simp)
  | nil =>
      cases front : list.front with
      | none => exact .nil none
      | some node =>
          have dead : list.nodes node = none := by
            by_contra live
            simpa using shape.only node live
          have stuck : freeAll (2 ^ 29) list (some node) = none := by
            rw [show 2 ^ 29 = (2 ^ 29 - 1) + 1 from rfl, freeAll, dead]
          rw [flistClear, front, stuck] at taken
          simp at taken

/-- Lists that were built are chained. -/
theorem Built.chained (built : Built list) : ∃ cells, Chained list cells := by
  induction built with
  | init startShift duration => exact ⟨[], (flistInit_anchored startShift duration).toChained⟩
  | append frame node _ fresh ih =>
      obtain ⟨cells, shape⟩ := ih
      exact flistAppend_chained shape frame fresh
  | next _ taken ih =>
      obtain ⟨cells, shape⟩ := ih
      exact ⟨cells, shape.movesCursor (flistNext_moves taken)⟩
  | seek n _ ih =>
      obtain ⟨cells, shape⟩ := ih
      exact ⟨cells, shape.movesCursor (flistSeek_moves _ n)⟩
  | clear _ taken ih =>
      obtain ⟨cells, shape⟩ := ih
      obtain ⟨nodes, value, gone⟩ :=
        flistClear_eq (shape.segment_of_clear taken) shape.length_le
      rw [value, Option.some.injEq, Prod.mk.injEq] at taken
      obtain ⟨rfl, -⟩ := taken
      exact ⟨[], (shape.reset gone).toChained⟩
  | record _ _ ih | setShift _ _ ih | setDuration _ _ ih =>
      obtain ⟨cells, shape⟩ := ih
      exact ⟨cells, shape.congr rfl rfl rfl rfl⟩

/-- Without memory the positive start shift is all that `flistAppend` does. -/
theorem flistAppend_none (active : list.recording ≠ 0) (frame : KcFrame) :
    (flistAppend list frame none).status = -2 ∧
      (flistAppend list frame none).list = (preRoll (list.setStart frame) frame).1 := by
  simp [flistAppend, active]

/-- Unless the kept frame is dropped, the start shift changes `m_t0` and
`m_recording` only. -/
theorem preRoll_keeps {frame : KcFrame} (kept : ¬dropsKept list frame) :
    ∃ t0 recording, (preRoll (list.setStart frame) frame).1 = { list with t0, recording } := by
  unfold preRoll
  split
  · rename_i mode
    split
    · rename_i held
      have several : (list.setStart frame).len ≠ 1 := fun one => kept ⟨mode.1, mode.2, held, one⟩
      rw [if_neg several]
      exact ⟨_, _, rfl⟩
    · exact ⟨_, _, rfl⟩
  · exact ⟨_, _, rfl⟩

/-- The node that is dropped was the only one. -/
theorem preRoll_drops {frame : KcFrame} (shape : Chained list cells)
    (drops : dropsKept list frame) :
    cells.length = 1 ∧ Chained (preRoll (list.setStart frame) frame).1 [] := by
  obtain ⟨positive, waiting, held, one⟩ := drops
  have single : cells.length = 1 := by
    rw [← shape.len, one]
    rfl
  have seeded : Chained (list.setStart frame) cells := shape.congr rfl rfl rfl rfl
  have dropped := (preRoll_spec seeded frame).1
  have mode : (list.setStart frame).startShift > 0 ∧ (list.setStart frame).recording = -1 ∧
      beforeShift frame.pts (list.setStart frame).t0 (list.setStart frame).startShift ∧
        cells.length = 1 := ⟨positive, waiting, held, single⟩
  rw [if_pos mode] at dropped
  have none : cells.drop 1 = [] := List.drop_eq_nil_iff.mpr single.le
  rw [none] at dropped
  exact ⟨single, dropped⟩

/-- A chain whose `m_front` leads to its nodes can be cleared. -/
theorem intact_of_segment {t0 : Int32} {recording : Int} (shape : Chained list cells)
    (segment : Segment list.nodes list.front cells none) :
    Intact list { list with t0, recording } := by
  have shape' : Chained { list with t0, recording } cells := shape.congr rfl rfl rfl rfl
  obtain ⟨nodes, value, -⟩ := flistClear_eq
    (show Segment ({ list with t0, recording } : FrameList).nodes _ cells none from segment)
    shape.length_le
  exact {
    frames := ⟨framesOf cells, ⟨cells, shape, rfl⟩, cells, shape', rfl⟩
    len := rfl
    readNode := rfl
    readIndex := rfl
    live := ⟨cells, segment⟩
    clears := ⟨cells, _, shape', value⟩ }

/-- An append without memory leaves the list intact exactly when the start shift
drops no frame and `m_front` was not left behind by an earlier one. -/
theorem intact_iff (built : Built list) (active : list.recording ≠ 0) (frame : KcFrame) :
    ((flistAppend list frame none).status = -2 ∧
      Intact list (flistAppend list frame none).list) ↔
      ¬dropsKept list frame ∧ (list.front = none ∨ list.len ≠ 0) := by
  obtain ⟨cells, shape⟩ := built.chained
  obtain ⟨status, after⟩ := flistAppend_none active frame
  rw [after]
  constructor
  · rintro ⟨-, intact⟩
    have kept : ¬dropsKept list frame := by
      intro drops
      obtain ⟨single, empty⟩ := preRoll_drops shape drops
      obtain ⟨frames, before, left⟩ := intact.frames
      obtain rfl := before.unique ⟨cells, shape, rfl⟩
      have none : framesOf cells = [] := left.unique ⟨[], empty, rfl⟩
      rw [List.map_eq_nil_iff] at none
      rw [none] at single
      cases single
    refine ⟨kept, ?_⟩
    obtain ⟨t0, recording, same⟩ := preRoll_keeps kept
    by_contra dangling
    rw [not_or, not_not] at dangling
    obtain ⟨present, empty⟩ := dangling
    obtain ⟨visited, segment⟩ := intact.live
    rw [same] at segment
    have segment : Segment list.nodes list.front visited none := segment
    cases visited with
    | nil => exact present segment.nil_inv
    | cons cell rest =>
        obtain ⟨_, next, found, _⟩ := segment.cons_inv
        have member := shape.only cell.1 (by simp [found])
        rw [shape.len_eq_zero_iff.mp empty] at member
        cases member
  · rintro ⟨kept, front⟩
    refine ⟨status, ?_⟩
    obtain ⟨t0, recording, same⟩ := preRoll_keeps kept
    rw [same]
    refine intact_of_segment shape ?_
    cases cells with
    | cons => exact shape.segment (by simp)
    | nil =>
        rcases front with absent | occupied
        · rw [absent]
          exact .nil none
        · exact absurd (shape.len_eq_zero_iff.mpr rfl) occupied

end

/-- Recordings of given cells are built. -/
theorem recordingOf_built {cells : List Cell} (distinct : (cells.map Prod.fst).Nodup) :
    Built (recordingOf cells) := by
  induction cells using List.reverseRecOn with
  | nil => exact .init 0 0
  | append_singleton rest cell ih =>
      simp only [List.map_append, List.nodup_append, List.map_cons, List.map_nil,
        List.mem_singleton, List.mem_map] at distinct
      obtain ⟨before, _, apart⟩ := distinct
      rw [recordingOf, List.foldl_append]
      refine .append cell.2 (some cell.1) (ih before) fun addr placed => ?_
      cases placed
      exact (recordingOf_plain before).available
        (fun other member => apart _ ⟨other, member, rfl⟩ _ rfl) cell.2

/-- A recording of three frames survives an append without memory. -/
theorem intact_iff_recording : Intact (recordingOf threeCells)
    (flistAppend (recordingOf threeCells) (.small 3 110) none).list := by
  have distinct : (threeCells.map Prod.fst).Nodup := by decide
  have plain := recordingOf_plain distinct
  refine ((intact_iff (recordingOf_built distinct) (by simp [plain.recording]) _).mpr
    ⟨by simp [dropsKept, plain.recording], .inr fun empty => ?_⟩).2
  have len := plain.shape.len
  rw [empty] at len
  exact absurd len (by decide)

/-- Without memory for the next frame a positive start shift loses the one it
kept. -/
theorem kept_frame_lost :
    ¬∀ list, Built list → list.recording ≠ 0 → ∀ frame,
      (flistAppend list frame none).status = -2 ∧
        Intact list (flistAppend list frame none).list := by
  intro claim
  have built : Built (flistAppend (flistInit 1000 0) (.blank 0 0) (some 0)).list := by
    refine .append (.blank 0 0) (some 0) (.init 1000 0) fun addr placed => ?_
    cases placed
    decide
  obtain ⟨-, intact⟩ := claim _ built (by decide) (.blank 1 1)
  have before : (flistAppend (flistInit 1000 0) (.blank 0 0) (some 0)).list.len = 1 := by decide
  have after : (flistAppend (flistAppend (flistInit 1000 0) (.blank 0 0) (some 0)).list
      (.blank 1 1) none).list.len = 0 := by decide
  rw [intact.len, before] at after
  exact absurd after (by decide)

end KCamera
