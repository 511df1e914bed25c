import KCamera.FrameList.Shape

/-!
# The read cursor

`CursorAt` locates the pair `m_readNode`, `m_readIndex` by the number of nodes
before the link. The reading operations move between positions; `flistAppend`
moves none of the two, so it keeps a position exactly when it removes no node
or the cursor is still at `&m_front`.
-/

namespace KCamera

open Heap

/-- The link that `index` nodes precede. -/
def linkAt (cells : List Cell) : Nat → Link
  | 0 => .front
  | index + 1 => (cells[index]?).elim .front fun cell => .next cell.1

/-- The cursor stands at the link that `index` nodes of the list precede. -/
structure CursorAt (list : FrameList) (cells : List Cell) (index : Nat) : Prop where
  bound : index ≤ cells.length
  readNode : list.readNode = linkAt cells index
  readIndex : list.readIndex.toNat = index

section Follow

variable {list : FrameList} {cells : List Cell}

/-- A link of the list points to the cell behind it. -/
theorem follow_linkAt (shape : Chained list cells) (nil : cells = [] → list.front = none)
    {index : Nat} (bound : index ≤ cells.length) :
    list.follow (linkAt cells index) = some (cells[index]?.map Prod.fst) := by
  cases index with
  | zero =>
      cases cells with
      | nil => simp [linkAt, FrameList.follow, nil]
      | cons cell rest => simp [linkAt, FrameList.follow, shape.front_node.1]
  | succ index =>
      have found : cells[index]? = some cells[index] := List.getElem?_eq_getElem bound
      have nonempty : cells ≠ [] := by rintro rfl; simp at bound
      simp [linkAt, FrameList.follow, found, (shape.segment nonempty).next_eq found]

/-- Following the cursor gives the node at its index, or none at the end. -/
theorem CursorAt.follow {index : Nat} (shape : Anchored list cells)
    (cursor : CursorAt list cells index) :
    list.follow list.readNode = some (cells[index]?.map Prod.fst) := by
  rw [cursor.readNode]
  exact follow_linkAt shape.toChained shape.front_nil cursor.bound

/-- The cursor's frame is the next one `flistNext` returns. -/
theorem flistNext_some {index : Nat} {cell : Cell} (shape : Anchored list cells)
    (cursor : CursorAt list cells index) (found : cells[index]? = some cell) :
    flistNext list = some ({ list with
      readNode := .next cell.1, readIndex := list.readIndex + 1 }, some cell.2) := by
  have nonempty : cells ≠ [] := by rintro rfl; simp at found
  simp [flistNext, cursor.follow shape, found,
    (shape.segment nonempty).next_eq found]

/-- At the end there is nothing to read. -/
theorem flistNext_end (shape : Anchored list cells)
    (cursor : CursorAt list cells cells.length) : flistNext list = some (list, none) := by
  simp [flistNext, cursor.follow shape]

/-- `flistEnd` tells whether the cursor is behind the last frame. -/
theorem flistEnd_iff {index : Nat} (shape : Anchored list cells)
    (cursor : CursorAt list cells index) :
    flistEnd list = some (decide (index = cells.length)) := by
  have bound := cursor.bound
  simp only [flistEnd, cursor.follow shape, Option.map_some, Option.isNone_map]
  by_cases last : index = cells.length
  · simp [last]
  · have inside : index < cells.length := by omega
    simp [last, List.getElem?_eq_getElem inside]

/-- Stepping past a cell moves the cursor by one. -/
theorem CursorAt.step {index : Nat} {cell : Cell} (shape : Chained list cells)
    (cursor : CursorAt list cells index) (found : cells[index]? = some cell) :
    CursorAt { list with readNode := .next cell.1, readIndex := list.readIndex + 1 } cells
      (index + 1) where
  bound := by
    obtain ⟨inside, _⟩ := List.getElem?_eq_some_iff.mp found
    omega
  readNode := by simp [linkAt, found]
  readIndex := by
    obtain ⟨inside, _⟩ := List.getElem?_eq_some_iff.mp found
    have limit := shape.length_le
    have position := cursor.readIndex
    simp only [UInt32.toNat_add, UInt32.toNat_one]
    omega

/-- The cursor is a matter of two fields. -/
theorem CursorAt.congr {list' : FrameList} {index : Nat} (cursor : CursorAt list cells index)
    (readNode : list'.readNode = list.readNode) (readIndex : list'.readIndex = list.readIndex) :
    CursorAt list' cells index :=
  ⟨cursor.bound, readNode.trans cursor.readNode, by rw [readIndex, cursor.readIndex]⟩

/-- A cursor still at `&m_front` survives any change of the nodes. -/
theorem CursorAt.front {list' : FrameList} {cells' : List Cell} (cursor : CursorAt list cells 0)
    (readNode : list'.readNode = list.readNode) (readIndex : list'.readIndex = list.readIndex) :
    CursorAt list' cells' 0 :=
  ⟨Nat.zero_le _, readNode.trans cursor.readNode, by rw [readIndex, cursor.readIndex]⟩

/-- Appended cells lie behind every position. -/
theorem linkAt_append {cells : List Cell} (added : List Cell) {index : Nat}
    (bound : index ≤ cells.length) : linkAt (cells ++ added) index = linkAt cells index := by
  cases index with
  | zero => rfl
  | succ index => simp [linkAt, List.getElem?_append_left bound]

/-- The seeking loop stops at the position it is asked for. -/
theorem seekFrom_spec (fuel : Nat) {list : FrameList} {cells : List Cell} {index : Nat}
    {n : UInt32} (shape : Anchored list cells) (cursor : CursorAt list cells index)
    (ahead : index ≤ n.toNat) (inside : n.toNat < cells.length)
    (enough : n.toNat - index ≤ fuel) :
    ∃ readNode readIndex, seekFrom fuel list n = { list with readNode, readIndex } ∧
      CursorAt (seekFrom fuel list n) cells n.toNat := by
  induction fuel generalizing list index with
  | zero =>
      have reached : index = n.toNat := by omega
      subst reached
      exact ⟨_, _, rfl, cursor⟩
  | succ fuel ih =>
      have here : index < cells.length := by omega
      have found : cells[index]? = some cells[index] := List.getElem?_eq_getElem here
      have position := cursor.readIndex
      by_cases reached : list.readIndex = n
      · have same : index = n.toNat := by rw [← position, reached]
        subst same
        have stopped : seekFrom (fuel + 1) list n = list := by
          simp [seekFrom, cursor.follow shape, found, reached]
        rw [stopped]
        exact ⟨_, _, rfl, cursor⟩
      · have different : index ≠ n.toNat := fun same =>
          reached (UInt32.toNat_inj.mp (position.trans same))
        have moved := cursor.step shape.toChained found
        have shape' : Anchored { list with
            readNode := .next cells[index].1, readIndex := list.readIndex + 1 } cells :=
          ⟨shape.toChained.congr rfl rfl rfl rfl, shape.front_nil, shape.back_nil⟩
        have turned : seekFrom (fuel + 1) list n = seekFrom fuel { list with
            readNode := .next cells[index].1, readIndex := list.readIndex + 1 } n := by
          simp [seekFrom, cursor.follow shape, found, reached]
        obtain ⟨readNode, readIndex, same, stops⟩ := ih shape' moved (by omega) (by omega)
        rw [turned]
        exact ⟨readNode, readIndex, same, stops⟩

/-- `flistSeek` inside the list stops exactly at `n`. -/
theorem flistSeek_inside {n : UInt32} (shape : Anchored list cells)
    (inside : n.toNat < cells.length) :
    ∃ readNode readIndex, flistSeek list n = ({ list with readNode, readIndex }, 0) ∧
      CursorAt (flistSeek list n).1 cells n.toNat := by
  have shorter : ¬list.len ≤ n := by
    rw [UInt32.le_iff_toNat_le, shape.len]
    omega
  have shape' : Anchored { list with readIndex := 0, readNode := .front } cells :=
    ⟨shape.toChained.congr rfl rfl rfl rfl, shape.front_nil, shape.back_nil⟩
  have start : CursorAt { list with readIndex := 0, readNode := .front } cells 0 :=
    ⟨Nat.zero_le _, rfl, rfl⟩
  obtain ⟨readNode, readIndex, same, stops⟩ :=
    seekFrom_spec list.len.toNat shape' start (Nat.zero_le _) inside (by rw [shape.len]; omega)
  simp only [flistSeek, shorter, if_false]
  exact ⟨readNode, readIndex, by rw [same], stops⟩

/-- `flistSeek` beyond the list changes nothing. -/
theorem flistSeek_outside {n : UInt32} (shape : Chained list cells)
    (outside : cells.length ≤ n.toNat) : flistSeek list n = (list, -1) := by
  have longer : list.len ≤ n := by
    rw [UInt32.le_iff_toNat_le, shape.len]
    exact outside
  simp [flistSeek, longer]

end Follow

/-! ## Clearing -/

/-- The clearing loop frees every node of the list once and no other. -/
theorem freeAll_spec (fuel : Nat) (list : FrameList) {start : Option Addr} {cells : List Cell}
    (segment : Segment list.nodes start cells none) (enough : cells.length ≤ fuel) :
    ∃ nodes, freeAll fuel list start = some ({ list with nodes }, framesOf cells) ∧
      ∀ node, nodes node ≠ none → list.nodes node ≠ none ∧ node ∉ cells.map Prod.fst := by
  induction cells generalizing list start fuel with
  | nil =>
      have ended := segment.nil_inv
      subst ended
      exact ⟨list.nodes, by cases fuel <;> rfl, fun _ live => ⟨live, by simp⟩⟩
  | cons cell rest ih =>
      cases fuel with
      | zero => simp at enough
      | succ fuel =>
          obtain ⟨rfl, next, found, _⟩ := segment.cons_inv
          obtain ⟨next', found', tail⟩ := segment.free_head
          rw [found] at found'
          cases found'
          obtain ⟨nodes, cleared, gone⟩ :=
            ih fuel (freeNode list cell.1) tail (by simpa using enough)
          have turned : freeAll (fuel + 1) list (some cell.1) =
              some ({ list with nodes }, framesOf (cell :: rest)) := by
            simp only [freeAll, found, cleared, Option.map_some]
            rfl
          refine ⟨nodes, turned, fun node live => ?_⟩
          obtain ⟨kept, outside⟩ := gone node live
          simp only [freeNode] at kept
          by_cases same : node = cell.1
          · subst same
            simp at kept
          · rw [Store.free_of_ne _ same] at kept
            exact ⟨kept, by simpa [same] using outside⟩

/-- `flistClear` of a complete chain from `m_front`. -/
theorem flistClear_eq {list : FrameList} {cells : List Cell}
    (segment : Segment list.nodes list.front cells none) (short : cells.length ≤ 2 ^ 29) :
    ∃ nodes, flistClear list =
        some (.reset nodes list.startShift list.duration, framesOf cells) ∧
      ∀ node, nodes node ≠ none → list.nodes node ≠ none ∧ node ∉ cells.map Prod.fst := by
  obtain ⟨nodes, cleared, gone⟩ := freeAll_spec (2 ^ 29) list segment short
  exact ⟨nodes, by simp only [flistClear, cleared, Option.map_some], gone⟩

/-- The nodes that a list clears are all of its nodes. -/
theorem Chained.reset {list : FrameList} {cells : List Cell} {nodes : Store Addr KcFrame}
    (shape : Chained list cells)
    (gone : ∀ node, nodes node ≠ none → list.nodes node ≠ none ∧ node ∉ cells.map Prod.fst) :
    Anchored (.reset nodes list.startShift list.duration) [] where
  len := rfl
  segment nonempty := absurd rfl nonempty
  back nonempty := absurd rfl nonempty
  only node live := by
    obtain ⟨was, outside⟩ := gone node live
    exact absurd (shape.only node was) outside
  front_nil _ := rfl
  back_nil _ := rfl

/-- `flistClear` frees every frame of the list once and leaves an empty list. -/
theorem flistClear_spec {list : FrameList} {cells : List Cell} (shape : Anchored list cells) :
    ∃ list', flistClear list = some (list', framesOf cells) ∧ Anchored list' [] ∧
      list'.readNode = .front ∧ list'.readIndex = 0 := by
  have segment : Segment list.nodes list.front cells none := by
    cases cells with
    | nil => rw [shape.front_nil rfl]; exact .nil none
    | cons => exact shape.segment (by simp)
  obtain ⟨nodes, value, gone⟩ := flistClear_eq segment shape.length_le
  exact ⟨_, value, shape.toChained.reset gone, rfl, rfl⟩

/-! ## Plain recordings -/

/-- A recording without start shift and duration, with the cursor at its front. -/
structure PlainRecording (list : FrameList) (cells : List Cell) : Prop where
  shape : Anchored list cells
  cursor : CursorAt list cells 0
  recording : list.recording = 1
  startShift : list.startShift = 0
  duration : list.duration = 0

/-- A list without a window and a limit, before its first frame. -/
theorem PlainRecording.start : PlainRecording (flistInit 0 0) [] where
  shape := flistInit_anchored 0 0
  cursor := ⟨Nat.zero_le _, rfl, rfl⟩
  recording := rfl
  startShift := rfl
  duration := rfl

/-- A node that is none of the cells can take the next frame. -/
theorem PlainRecording.available {list : FrameList} {cells : List Cell} {node : Addr}
    (plain : PlainRecording list cells) (own : ∀ cell ∈ cells, cell.1 ≠ node) (frame : KcFrame) :
    Available list frame node := by
  have unrolled : preRoll (list.setStart frame) frame = (list.setStart frame, []) := by
    simp [preRoll, FrameList.setStart, plain.startShift]
  unfold Available
  rw [unrolled]
  by_contra live
  obtain ⟨cell, member, same⟩ := List.mem_map.mp (plain.shape.only node live)
  exact own cell member same

/-- A frame at an address of its own goes to the end. -/
theorem PlainRecording.append {list : FrameList} {cells : List Cell} {node : Addr}
    (plain : PlainRecording list cells) (own : ∀ cell ∈ cells, cell.1 ≠ node) (frame : KcFrame) :
    PlainRecording (flistAppend list frame (some node)).list (cells ++ [(node, frame)]) ∧
      (flistAppend list frame (some node)).status = 0 := by
  have fresh := plain.available own frame
  obtain ⟨shape, cursor, recording, startShift, duration⟩ := plain
  have spec := flistAppend_spec frame shape.toChained (by simp [recording]) fresh
  have kept : appendedCells list cells frame node = cells ++ [(node, frame)] := by
    simp [appendedCells, discarded, recording]
  have unlimited : limitReached list.duration (appendedCells list cells frame node) frame = false := by
    simp [limitReached, duration]
  have mode : modeAfter list frame = 1 := by simp [modeAfter, recording]
  refine ⟨⟨kept ▸ spec.shape, cursor.front spec.readNode spec.readIndex, ?_, ?_, ?_⟩, ?_⟩
  · rw [spec.recording, unlimited, mode]
    rfl
  · rw [spec.startShift, startShift]
  · rw [spec.duration, duration]
  · rw [spec.status, unlimited]
    rfl

/-- The recording of some frames. -/
def recordingOf (cells : List Cell) : FrameList :=
  cells.foldl (fun list cell => (flistAppend list cell.2 (some cell.1)).list) (flistInit 0 0)

/-- Appending cell by cell builds exactly these cells. -/
theorem recordingOf_plain {cells : List Cell} (distinct : (cells.map Prod.fst).Nodup) :
    PlainRecording (recordingOf cells) cells := by
  induction cells using List.reverseRecOn with
  | nil => exact .start
  | append_singleton rest cell ih =>
      simp only [List.map_append, List.nodup_append, List.map_cons, List.map_nil,
        List.mem_singleton, List.mem_map] at distinct
      obtain ⟨before, _, apart⟩ := distinct
      rw [recordingOf, List.foldl_append]
      refine ((ih before).append (fun other member => ?_) cell.2).1
      exact apart _ ⟨other, member, rfl⟩ _ rfl

/-- Three frames. -/
def threeCells : List Cell := [(4, .small 0 5), (2, .small 1 40), (9, .small 2 75)]

end KCamera
