import KCamera.FrameList.FailedAppend

/-!
# The first and the last frame

`flistTime` and a copy of the newest frame go through `m_front` and `m_back`
without a test. These lead to nodes that are there when the list has a frame;
they can lead to a node that is gone after an append without memory has dropped
the only frame.
-/

namespace KCamera

open Heap

variable {list : FrameList} {cells : List Cell}

/-- A list with a length has cells. -/
theorem Chained.nonempty_of_len (shape : Chained list cells) (holds : list.len ≠ 0) : cells ≠ [] :=
  fun empty => holds (shape.len_eq_zero_iff.mpr empty)

/-- The shape is a matter of four fields. -/
theorem Anchored.congr {list' : FrameList} (shape : Anchored list cells)
    (nodes : list'.nodes = list.nodes) (front : list'.front = list.front)
    (back : list'.back = list.back) (len : list'.len = list.len) : Anchored list' cells where
  toChained := shape.toChained.congr nodes front back len
  front_nil empty := front.trans (shape.front_nil empty)
  back_nil empty := back.trans (shape.back_nil empty)

/-- A list with a back has a length. -/
theorem Anchored.back_isSome (shape : Anchored list cells) (back : list.back.isSome) :
    list.len ≠ 0 := by
  intro zero
  rw [shape.back_nil (shape.len_eq_zero_iff.mp zero)] at back
  cases back

/-- An append that does not drop the kept frame for nothing keeps the ends, and
leaves no list empty that was not. -/
theorem flistAppend_anchored (shape : Anchored list cells) (frame : KcFrame) {node : Option Addr}
    (fresh : ∀ addr, node = some addr → Available list frame addr)
    (kept : node = none → ¬dropsKept list frame) :
    ∃ cells', Anchored (flistAppend list frame node).list cells' ∧ (cells ≠ [] → cells' ≠ []) := by
  by_cases active : list.recording = 0
  · rw [flistAppend, if_pos active]
    exact ⟨cells, shape, id⟩
  · cases node with
    | none =>
        obtain ⟨_, after⟩ := flistAppend_none active frame
        obtain ⟨t0, recording, same⟩ := preRoll_keeps (kept rfl)
        rw [after, same]
        exact ⟨cells, shape.congr rfl rfl rfl rfl, id⟩
    | some addr =>
        have spec := flistAppend_spec frame shape.toChained active (fresh addr rfl)
        exact ⟨_, spec.shape, fun _ => by simp [appendedCells]⟩

/-- `flistAppend` writes neither the start shift nor the duration. -/
theorem flistAppend_settings (shape : Chained list cells) (frame : KcFrame) {node : Option Addr}
    (fresh : ∀ addr, node = some addr → Available list frame addr) :
    (flistAppend list frame node).list.startShift = list.startShift ∧
      (flistAppend list frame node).list.duration = list.duration := by
  by_cases active : list.recording = 0
  · rw [flistAppend, if_pos active]
    exact ⟨rfl, rfl⟩
  · cases node with
    | none =>
        obtain ⟨_, after⟩ := flistAppend_none active frame
        have seeded : Chained (list.setStart frame) cells := shape.congr rfl rfl rfl rfl
        obtain ⟨_, _, keeps, _⟩ := preRoll_spec seeded frame
        rw [after]
        exact ⟨keeps.startShift, keeps.duration⟩
    | some addr =>
        have spec := flistAppend_spec frame shape active (fresh addr rfl)
        exact ⟨spec.startShift, spec.duration⟩

/-- Without a positive start shift no frame is dropped. -/
theorem not_dropsKept (shift : list.startShift = 0) (frame : KcFrame) : ¬dropsKept list frame := by
  rintro ⟨positive, _⟩
  rw [shift] at positive
  exact absurd positive (by decide)

end KCamera
