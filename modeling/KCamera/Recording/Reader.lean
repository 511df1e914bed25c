import KCamera.Engine.World
import KCamera.FrameList.Ends
import KCamera.FrameList.FailedAppend

/-!
# The reader of a recording

A recording as its reader sees it is a sequence of frames and a position. The
functions of `framelist.c` do to a list what happens to this reader.
-/

namespace KCamera

/-- The frames so far, the position, and whether more frames may come. -/
structure Reader where
  frames : List KcFrame
  position : Nat
  active : Bool
deriving DecidableEq

namespace Reader

/-- A recording begins. -/
def start : Reader := ⟨[], 0, true⟩

/-- What can happen to a reader: `frame` returns a copy of the frame at its position and
goes on, or nothing behind the last frame of a recording that has ended. -/
def take (reader : Reader) : Reading → Option Reader
  | .appended frame =>
      if reader.active then some { reader with frames := reader.frames ++ [frame] } else none
  | .ended => if reader.active then some { reader with active := false } else none
  | .returned index copy =>
      if index.toNat = reader.position ∧
          (reader.frames[reader.position]?).any fun frame => copy = kcCopyFrame frame copy.block then
        some { reader with position := reader.position + 1 }
      else none
  | .noFrame =>
      if reader.active = false ∧ reader.position = reader.frames.length then some reader else none
  | .seek n =>
      some { reader with
        position := if n.toNat < reader.frames.length then n.toNat else reader.position }

/-- A sequence of readings. -/
def run (reader : Reader) (readings : List Reading) : Option Reader := readings.foldlM take reader

/-- One more reading. -/
theorem run_concat (reader : Reader) (readings : List Reading) (reading : Reading) :
    reader.run (readings ++ [reading]) = (reader.run readings).bind fun last => last.take reading := by
  simp [run, List.foldlM_append]

/-- The list has the reader's frames, and its cursor is `ahead` of the reader. -/
def Describes (reader : Reader) (found : FrameList) (ahead : Nat) : Prop :=
  ∃ cells, Anchored found cells ∧ framesOf cells = reader.frames ∧ found.recording ≠ -1 ∧
    CursorAt found cells (reader.position + ahead)

section

variable {reader : Reader} {found moved : FrameList} {ahead : Nat}

/-- Nothing but the nodes and the cursor matters. -/
theorem Describes.congr (describes : reader.Describes found ahead) (nodes : moved.nodes = found.nodes)
    (front : moved.front = found.front) (back : moved.back = found.back)
    (len : moved.len = found.len) (readNode : moved.readNode = found.readNode)
    (readIndex : moved.readIndex = found.readIndex) (recording : moved.recording ≠ -1) :
    reader.Describes moved ahead := by
  obtain ⟨cells, shape, frames, _, cursor⟩ := describes
  exact ⟨cells, shape.congr nodes front back len, frames, recording,
    cursor.congr readNode readIndex⟩

/-- Before the first reading the list is new. -/
theorem describes_flistInit (duration : UInt32) : start.Describes (flistInit 0 duration) 0 :=
  ⟨[], flistInit_anchored 0 duration, rfl, by simp [flistInit, FrameList.reset],
    ⟨Nat.zero_le _, rfl, rfl⟩⟩

/-- The cursor is behind no frame that is not there. -/
theorem Describes.bound (describes : reader.Describes found ahead) :
    reader.position + ahead ≤ reader.frames.length := by
  obtain ⟨cells, _, frames, _, cursor⟩ := describes
  rw [← frames, List.length_map]
  exact cursor.bound

/-- The list's index counts what was read. -/
theorem Describes.readIndex (describes : reader.Describes found ahead) :
    found.readIndex.toNat = reader.position + ahead := by
  obtain ⟨cells, _, _, _, cursor⟩ := describes
  exact cursor.readIndex

/-- Whether the cursor is at the end. -/
theorem Describes.flistEnd (describes : reader.Describes found ahead) :
    KCamera.flistEnd found = some (decide (reader.position + ahead = reader.frames.length)) := by
  obtain ⟨cells, shape, frames, _, cursor⟩ := describes
  rw [flistEnd_iff shape cursor, ← frames, List.length_map]

/-- A list that does not wait appends at its end or not at all. -/
theorem Describes.append (describes : reader.Describes found ahead) {frame : KcFrame}
    {node : Option Addr} (available : ∀ addr, node = some addr → Available found frame addr) :
    let result := flistAppend found frame node
    if found.recording ≠ 0 ∧ result.status ≠ -2 then
      Describes { reader with frames := reader.frames ++ [frame] } result.list ahead
    else reader.Describes result.list ahead := by
  obtain ⟨cells, shape, frames, recording, cursor⟩ := describes
  intro result
  by_cases active : found.recording = 0
  · rw [if_neg (by simp [active])]
    have tossed : result.list = found := by simp [result, flistAppend, active]
    rw [tossed]
    exact ⟨cells, shape, frames, recording, cursor⟩
  · cases node with
    | none =>
        obtain ⟨status, after⟩ := flistAppend_none active frame
        have failed : result.status = -2 := status
        rw [if_neg (by simp [failed])]
        have kept : ¬dropsKept found frame := fun drops => recording drops.2.1
        obtain ⟨t0, mode, same⟩ := preRoll_keeps kept
        have seeded : Chained (found.setStart frame) cells := shape.toChained.congr rfl rfl rfl rfl
        have unchanged := (preRoll_spec seeded frame).2.2.2
        have value : result.list = { found with t0, recording := mode } := after.trans same
        have waits : ¬(found.setStart frame).recording = -1 := recording
        simp only [waits, false_and, and_false, if_false] at unchanged
        rw [same] at unchanged
        rw [value]
        exact ⟨cells, shape.congr rfl rfl rfl rfl, frames, fun waits => recording
          (unchanged.symm.trans waits), cursor.congr rfl rfl⟩
    | some addr =>
        have spec := flistAppend_spec frame shape.toChained active (available addr rfl)
        have appended : result.status ≠ -2 := by
          have status : result.status = _ := spec.status
          rw [status]
          split <;> decide
        rw [if_pos ⟨active, appended⟩]
        have kept : appendedCells found cells frame addr = cells ++ [(addr, frame)] := by
          simp [appendedCells, discarded, recording]
        refine ⟨cells ++ [(addr, frame)], kept ▸ spec.shape, by simp [frames], ?_, ?_⟩
        · have mode : result.list.recording = _ := spec.recording
          rw [mode]
          split
          · decide
          · rw [modeAfter, if_neg (by simp [recording])]
            exact recording
        · refine ⟨?_, ?_, ?_⟩
          · have bound := cursor.bound
            simp only [List.length_append, List.length_singleton]
            omega
          · rw [linkAt_append _ cursor.bound, ← cursor.readNode]
            exact spec.readNode
          · rw [show result.list.readIndex = found.readIndex from spec.readIndex, cursor.readIndex]

/-- `flistSeek` moves to a position inside the recording, and nowhere else. -/
theorem Describes.seek (describes : reader.Describes found 0) (n : UInt32) :
    Describes { reader with
      position := if n.toNat < reader.frames.length then n.toNat else reader.position }
      (flistSeek found n).1 0 := by
  obtain ⟨cells, shape, frames, recording, cursor⟩ := describes
  have length : reader.frames.length = cells.length := by rw [← frames, List.length_map]
  rw [length]
  by_cases inside : n.toNat < cells.length
  · obtain ⟨readNode, readIndex, same, stops⟩ := flistSeek_inside shape inside
    refine ⟨cells, ?_, frames, ?_, by simpa [inside] using stops⟩
    · rw [same]
      exact shape.congr rfl rfl rfl rfl
    · rw [same]
      exact recording
  · rw [flistSeek_outside shape.toChained (Nat.le_of_not_lt inside)]
    exact ⟨cells, shape, frames, recording, by simpa [inside] using cursor⟩

/-- `flistNext` yields the frame at the position and goes one ahead, or nothing at the end. -/
theorem Describes.next (describes : reader.Describes found 0) :
    (∃ frame, reader.frames[reader.position]? = some frame ∧ ∃ moved,
      flistNext found = some (moved, some frame) ∧ reader.Describes moved 1) ∨
      reader.position = reader.frames.length ∧ flistNext found = some (found, none) := by
  obtain ⟨cells, shape, frames, recording, cursor⟩ := describes
  have bound := cursor.bound
  have length : reader.frames.length = cells.length := by rw [← frames, List.length_map]
  by_cases last : reader.position = cells.length
  · refine .inr ⟨by rw [last, length], flistNext_end shape ?_⟩
    rw [← last]
    exact cursor
  · have inside : reader.position < cells.length := by omega
    have there : cells[reader.position]? = some cells[reader.position] :=
      List.getElem?_eq_getElem inside
    refine .inl ⟨cells[reader.position].2, ?_, _, flistNext_some shape cursor there, ?_⟩
    · rw [← frames, List.getElem?_map, there]
      rfl
    · exact ⟨cells, shape.congr rfl rfl rfl rfl, frames, recording,
        cursor.step shape.toChained there⟩

end

end Reader

end KCamera
