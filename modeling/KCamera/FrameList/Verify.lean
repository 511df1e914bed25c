import KCamera.FrameList.Cursor

/-!
# Verifying a list

`flistVerify` runs the read cursor over the list, reports the frames that are not 640 by
480, and seeks back to the index it started from. Nothing is kept but that index, so that
the list is left as it was rests on the index and the link being one position.
-/

namespace KCamera

/-- A line that `flistVerify` prints: the index and the dimensions of a frame. -/
structure Misfit where
  index : UInt32
  width : UInt16
  height : UInt16
deriving DecidableEq, Repr

/-- The frame has the size that `flistVerify` looks for. -/
def KcFrame.isVga (frame : KcFrame) : Bool := frame.width = 640 ∧ frame.height = 480

/-- What `flistVerify` prints of the frame that it has read last. -/
def verifyFrame (list : FrameList) (frame : KcFrame) : List Misfit :=
  if frame.isVga then [] else [⟨list.readIndex - 1, frame.width, frame.height⟩]

/-- The loop of `flistVerify`; `none` when the cursor dangles. -/
def verifyLoop : Nat → FrameList → Option (FrameList × List Misfit)
  | 0, _ => none
  | fuel + 1, list =>
      (flistNext list).bind fun
        | (list, none) => some (list, [])
        | (list, some frame) =>
            (verifyLoop fuel list).map fun (last, misfits) =>
              (last, verifyFrame list frame ++ misfits)

/-- `flistVerify`: the list after it and what it prints. -/
def flistVerify (list : FrameList) : Option (FrameList × List Misfit) :=
  (verifyLoop (list.len.toNat + 1) (flistSeek list 0).1).map fun (last, misfits) =>
    ((flistSeek last list.readIndex).1, misfits)

/-- The frames of the wrong size, by their positions. -/
def misfitsFrom (index : Nat) (frames : List KcFrame) : List Misfit :=
  (frames.zipIdx index).filterMap fun (frame, position) =>
    if frame.isVga then none else some ⟨UInt32.ofNat position, frame.width, frame.height⟩

/-- The misfits of a list are those of its first frame and of the rest. -/
theorem misfitsFrom_cons (index : Nat) (frame : KcFrame) (rest : List KcFrame) :
    misfitsFrom index (frame :: rest) =
      (if frame.isVga then [] else [⟨UInt32.ofNat index, frame.width, frame.height⟩]) ++
        misfitsFrom (index + 1) rest := by
  rw [misfitsFrom, List.zipIdx_cons, List.filterMap_cons]
  by_cases fits : frame.isVga
  · simp [fits, misfitsFrom]
  · simp [fits, misfitsFrom]

section

variable {list : FrameList} {cells : List Cell}

/-- Links and positions determine the cursor. -/
theorem CursorAt.unique {other : FrameList} {index : Nat} (cursor : CursorAt list cells index)
    (cursor' : CursorAt other cells index) :
    list.readNode = other.readNode ∧ list.readIndex = other.readIndex :=
  ⟨cursor.readNode.trans cursor'.readNode.symm,
    UInt32.toNat_inj.mp (cursor.readIndex.trans cursor'.readIndex.symm)⟩

/-- The loop goes on to the end and prints the frames of the wrong size behind the cursor. -/
theorem verifyLoop_spec (fuel : Nat) {index : Nat} (shape : Anchored list cells)
    (cursor : CursorAt list cells index) (enough : cells.length - index < fuel) :
    ∃ readNode readIndex,
      verifyLoop fuel list = some ({ list with readNode, readIndex },
        misfitsFrom index (framesOf (cells.drop index))) ∧
      CursorAt { list with readNode, readIndex } cells cells.length := by
  induction fuel generalizing list index with
  | zero => omega
  | succ fuel ih =>
      by_cases last : index = cells.length
      · subst last
        refine ⟨list.readNode, list.readIndex, ?_, cursor⟩
        simp [verifyLoop, flistNext_end shape cursor, misfitsFrom]
      · have bound := cursor.bound
        have inside : index < cells.length := by omega
        have found : cells[index]? = some cells[index] := List.getElem?_eq_getElem inside
        have moved := cursor.step shape.toChained found
        have shape' : Anchored { list with
            readNode := .next cells[index].1, readIndex := list.readIndex + 1 } cells :=
          ⟨shape.toChained.congr rfl rfl rfl rfl, shape.front_nil, shape.back_nil⟩
        obtain ⟨readNode, readIndex, turned, ended⟩ := ih shape' moved (by omega)
        refine ⟨readNode, readIndex, ?_, ended⟩
        have position : list.readIndex + 1 - 1 = UInt32.ofNat index := by
          rw [UInt32.add_sub_cancel, ← cursor.readIndex, UInt32.ofNat_toNat]
        have pending : framesOf (cells.drop index) =
            cells[index].2 :: framesOf (cells.drop (index + 1)) := by
          rw [List.drop_eq_getElem_cons inside, framesOf, List.map_cons]
        rw [pending, misfitsFrom_cons]
        simp only [verifyLoop, flistNext_some shape cursor found, Option.bind_some, turned,
          Option.map_some, verifyFrame, position]

/-- `flistVerify` leaves the list as it was, wherever the cursor stands, and prints exactly
the frames of the wrong size, in order. -/
theorem flistVerify_eq (list : FrameList) (cells : List Cell) (index : Nat)
    (shape : Anchored list cells) (cursor : CursorAt list cells index) :
    flistVerify list = some (list, misfitsFrom 0 (framesOf cells)) := by
  have enough : cells.length - 0 < list.len.toNat + 1 := by
    rw [shape.len]
    omega
  -- the loop starts at the first frame, or at the end of an empty list
  obtain ⟨first, start, sought, starts⟩ : ∃ readNode readIndex,
      (flistSeek list 0).1 = { list with readNode, readIndex } ∧
        CursorAt { list with readNode, readIndex } cells 0 := by
    cases cells with
    | nil =>
        have stays := flistSeek_outside (n := 0) shape.toChained (by simp)
        have bound : index = 0 := by simpa using cursor.bound
        subst bound
        exact ⟨list.readNode, list.readIndex, by rw [stays], cursor⟩
    | cons cell rest =>
        obtain ⟨readNode, readIndex, same, stops⟩ := flistSeek_inside (n := 0) shape (by simp)
        rw [same] at stops
        exact ⟨readNode, readIndex, by rw [same], stops⟩
  have shape' : Anchored { list with readNode := first, readIndex := start } cells :=
    ⟨shape.toChained.congr rfl rfl rfl rfl, shape.front_nil, shape.back_nil⟩
  obtain ⟨node, count, turned, ended⟩ := verifyLoop_spec _ shape' starts enough
  have shape'' : Anchored { list with readNode := node, readIndex := count } cells :=
    ⟨shape.toChained.congr rfl rfl rfl rfl, shape.front_nil, shape.back_nil⟩
  -- seeking back finds the position again, or fails at the end, where the cursor is
  have back : (flistSeek { list with readNode := node, readIndex := count }
      list.readIndex).1 = list := by
    by_cases inside : list.readIndex.toNat < cells.length
    · obtain ⟨readNode, readIndex, same, stops⟩ := flistSeek_inside shape'' inside
      rw [cursor.readIndex] at stops
      rw [same] at stops ⊢
      obtain ⟨sameNode, sameIndex⟩ := stops.unique cursor
      simp only at sameNode sameIndex
      rw [sameNode, sameIndex]
    · have atEnd : index = cells.length := by
        have bound := cursor.bound
        have position := cursor.readIndex
        omega
      subst atEnd
      rw [flistSeek_outside shape''.toChained (by rw [cursor.readIndex])]
      obtain ⟨sameNode, sameIndex⟩ := ended.unique cursor
      simp only at sameNode sameIndex
      rw [sameNode, sameIndex]
  rw [flistVerify, sought, turned]
  simp only [Option.map_some, List.drop_zero, back]

/-- None of three small frames is 640 by 480. -/
theorem flistVerify_eq_three : flistVerify (recordingOf threeCells) =
    some (recordingOf threeCells, misfitsFrom 0 (framesOf threeCells)) :=
  have plain := recordingOf_plain (show (threeCells.map Prod.fst).Nodup by decide)
  flistVerify_eq _ threeCells 0 plain.shape plain.cursor

end

end KCamera
