import KCamera.FrameList.Cursor
import KCamera.Machine.Run

/-!
# Runs of one frame list

The operations that the video thread and the Python methods apply to a list,
in any order and with every allocation succeeding. Both pre-roll modes remove
nodes at the front while the cursor stays where it is, so the list stays
consistent in exactly those runs where a removal finds the cursor at the front.
-/

namespace KCamera

open Heap Machine

/-- An operation on a frame list; `node` is what `malloc` returns. -/
inductive ListOp where
  | append (frame : KcFrame) (node : Addr)
  | next
  | seek (n : UInt32)
  | clear
  /-- `streamer_start` -/
  | start
  /-- the `start_shift` attribute -/
  | setShift (startShift : Int32)
  /-- the `duration` attribute -/
  | setDuration (duration : UInt32)

/-- The list after an operation. An append needs a free node address, and
`flistNext` or `flistClear` through a freed node has no defined successor. -/
def ListOp.apply (list : FrameList) : ListOp → Option FrameList
  | .append frame node =>
      if Available list frame node then some (flistAppend list frame (some node)).list else none
  | .next => (flistNext list).map Prod.fst
  | .seek n => some (flistSeek list n).1
  | .clear => (flistClear list).map Prod.fst
  | .start => some { list with recording := 1 }
  | .setShift startShift => some { list with startShift }
  | .setDuration duration => some { list with duration }

/-- The representation invariant: the links from `m_front` visit `m_len` live
nodes ending at `m_back`, and the cursor is one of the list's links, preceded
by `m_readIndex` nodes. -/
def RepInvariant (list : FrameList) : Prop :=
  ∃ cells, Segment list.nodes list.front cells none ∧ list.len.toNat = cells.length ∧
    list.back = cells.getLast?.map Prod.fst ∧
    ∃ index ≤ cells.length, list.readNode = linkAt cells index ∧ list.readIndex.toNat = index

/-- The append removes the front node: the positive start shift drops the frame
it kept, or the front frame has left the window of a negative one. -/
def removesFront (list : FrameList) (frame : KcFrame) : Prop :=
  list.recording = -1 ∧
    ((list.startShift > 0 ∧ heldBack list frame ∧ list.len = 1) ∨
      (list.startShift < 0 ∧ ∃ front ∈ list.front.bind list.nodes,
        front.data.pts.toInt64 < windowStart frame.pts list.startShift))

/-- Nodes are removed only while the cursor is at the front. -/
def CursorAtFront (list : FrameList) : ListOp → Prop
  | .append frame _ => removesFront list frame → list.readIndex = 0
  | _ => True

/-- The states in which a list's nodes and cursor are located. -/
def Located (list : FrameList) : Prop :=
  ∃ cells index, Anchored list cells ∧ CursorAt list cells index

/-- A located cursor satisfies the representation invariant. -/
theorem Located.repInvariant {list : FrameList} (located : Located list) :
    RepInvariant list := by
  obtain ⟨cells, index, shape, cursor⟩ := located
  refine ⟨cells, ?_, shape.len, ?_, index, cursor.bound, cursor.readNode, cursor.readIndex⟩
  · cases cells with
    | nil => rw [shape.front_nil rfl]; exact .nil none
    | cons => exact shape.segment (by simp)
  · cases cells with
    | nil => exact shape.back_nil rfl
    | cons => exact shape.back (by simp)

/-- A new list has its cursor at the start. -/
theorem flistInit_located (startShift : Int32) (duration : UInt32) :
    Located (flistInit startShift duration) :=
  ⟨[], 0, flistInit_anchored startShift duration, ⟨Nat.zero_le _, rfl, rfl⟩⟩

/-- An append that keeps the front node discards nothing. -/
theorem discarded_eq_zero {list : FrameList} {cells : List Cell} {frame : KcFrame}
    (shape : Chained list cells) (keeps : ¬removesFront list frame) :
    discarded list cells frame = 0 := by
  unfold discarded
  split
  · rename_i waiting
    split
    · rename_i positive
      have held : ¬(heldBack list frame ∧ cells.length = 1) := by
        rintro ⟨held, single⟩
        refine keeps ⟨waiting, .inl ⟨positive, held, UInt32.toNat_inj.mp ?_⟩⟩
        rw [shape.len, single]
        rfl
      rw [if_neg held]
    · split
      · rename_i negative
        cases cells with
        | nil => rfl
        | cons cell rest =>
            obtain ⟨front, next, found, _⟩ := shape.front_node
            have young : ¬cell.2.pts.toInt64 < windowStart frame.pts list.startShift := by
              intro old
              have member : (⟨cell.2, next⟩ : FrameNode) ∈ list.front.bind list.nodes := by
                simp [front, found]
              exact keeps ⟨waiting, .inr ⟨negative, _, member, old⟩⟩
            simp [young]
      · rfl
  · rfl

/-- An append keeps the list located if it finds the cursor at the front or
removes nothing. -/
theorem append_located {list : FrameList} {frame : KcFrame} {node : Addr}
    (located : Located list) (fresh : Available list frame node)
    (safe : removesFront list frame → list.readIndex = 0) :
    Located (flistAppend list frame (some node)).list := by
  obtain ⟨cells, index, shape, cursor⟩ := located
  by_cases active : list.recording = 0
  · have tossed : flistAppend list frame (some node) = ⟨list, [frame], 0⟩ := by
      simp [flistAppend, active]
    rw [tossed]
    exact ⟨cells, index, shape, cursor⟩
  · have spec := flistAppend_spec frame shape.toChained active fresh
    by_cases removes : removesFront list frame
    · have front : index = 0 := by
        rw [← cursor.readIndex, safe removes]
        rfl
      subst front
      exact ⟨_, 0, spec.shape, cursor.front spec.readNode spec.readIndex⟩
    · have none := discarded_eq_zero shape.toChained removes
      refine ⟨_, index, spec.shape, ?_⟩
      rw [appendedCells, none, List.drop_zero]
      exact {
        bound := by
          rw [List.length_append]
          exact Nat.le_add_right_of_le cursor.bound
        readNode := by rw [spec.readNode, cursor.readNode, linkAt_append _ cursor.bound]
        readIndex := by rw [spec.readIndex, cursor.readIndex] }

/-- Every admitted operation keeps the list located. -/
theorem ListOp.apply_located {list list' : FrameList} {op : ListOp} (located : Located list)
    (admitted : CursorAtFront list op) (applied : op.apply list = some list') :
    Located list' := by
  cases op with
  | append frame node =>
      simp only [apply] at applied
      split at applied
      · cases applied
        exact append_located located ‹_› admitted
      · cases applied
  | next =>
      obtain ⟨cells, index, shape, cursor⟩ := located
      simp only [apply] at applied
      by_cases last : index = cells.length
      · subst last
        rw [flistNext_end shape cursor] at applied
        cases applied
        exact ⟨cells, _, shape, cursor⟩
      · have bound := cursor.bound
        have found : cells[index]? = some cells[index] := List.getElem?_eq_getElem (by omega)
        rw [flistNext_some shape cursor found] at applied
        cases applied
        exact ⟨cells, index + 1, ⟨shape.toChained.congr rfl rfl rfl rfl, shape.front_nil,
          shape.back_nil⟩, cursor.step shape.toChained found⟩
  | seek n =>
      obtain ⟨cells, index, shape, cursor⟩ := located
      simp only [apply] at applied
      by_cases inside : n.toNat < cells.length
      · obtain ⟨readNode, readIndex, same, stops⟩ := flistSeek_inside shape inside
        rw [same] at applied stops
        cases applied
        exact ⟨cells, n.toNat, ⟨shape.toChained.congr rfl rfl rfl rfl, shape.front_nil,
          shape.back_nil⟩, stops⟩
      · rw [flistSeek_outside shape.toChained (by omega)] at applied
        cases applied
        exact ⟨cells, index, shape, cursor⟩
  | clear =>
      obtain ⟨cells, index, shape, cursor⟩ := located
      obtain ⟨cleared, value, empty, readNode, readIndex⟩ := flistClear_spec shape
      simp only [apply, value] at applied
      cases applied
      exact ⟨[], 0, empty, ⟨Nat.zero_le _, readNode, by rw [readIndex]; rfl⟩⟩
  | start | setShift _ | setDuration _ =>
      obtain ⟨cells, index, shape, cursor⟩ := located
      cases applied
      exact ⟨cells, index, ⟨shape.toChained.congr rfl rfl rfl rfl, shape.front_nil,
        shape.back_nil⟩, cursor.congr rfl rfl⟩

/-- A cursor behind a node keeps that node live. -/
theorem RepInvariant.cursor_live {list : FrameList} (invariant : RepInvariant list) {node : Addr}
    (cursor : list.readNode = .next node) : list.nodes node ≠ none := by
  obtain ⟨cells, segment, _, _, index, bound, readNode, _⟩ := invariant
  rw [cursor] at readNode
  cases index with
  | zero => cases readNode
  | succ index =>
      have found : cells[index]? = some cells[index] := List.getElem?_eq_getElem bound
      simp only [linkAt, found, Option.elim_some, Link.next.injEq] at readNode
      simp [readNode, segment.next_eq found]

/-- In every run whose removals find the cursor at the front, the
representation invariant holds after every operation. -/
theorem repInvariant_of_cursorAtFront (startShift : Int32) (duration : UInt32) (list : FrameList)
    (reached : Reach ListOp.apply CursorAtFront (· = flistInit startShift duration) list) :
    RepInvariant list := by
  refine (reached.invariant Located ?_ ?_).repInvariant
  · rintro _ rfl
    exact flistInit_located startShift duration
  · exact fun _ _ _ _ located admitted applied => ListOp.apply_located located admitted applied

/-- A reader that takes the frame of a positive start shift while the list is
still in pre-roll. -/
def readInPreRoll : List ListOp :=
  [.append (.blank 0 0) 0, .next, .append (.blank 1 1) 1]

/-- A window of a millisecond that its third frame moves past the first, and a reader. -/
def windowRun : List ListOp :=
  [.append (.small 0 0) 4, .append (.small 1 500) 2, .append (.small 2 1200) 9, .next]

/-- Frames come while the cursor is at the front. -/
def appendsAtFront (list : FrameList) : ListOp → Bool
  | .append _ _ => list.readIndex = 0
  | _ => true

/-- What the computable test of the run admits leaves the cursor at the front. -/
theorem cursorAtFront_of_appendsAtFront (list : FrameList) (op : ListOp)
    (passes : appendsAtFront list op) : CursorAtFront list op := by
  cases op with
  | append frame node => exact fun _ => of_decide_eq_true passes
  | _ => trivial

/-- The window frees the oldest of three frames while the cursor is at the front. -/
theorem repInvariant_of_cursorAtFront_preRoll :
    ∃ list : FrameList, RepInvariant list ∧ list.len = 2 ∧ list.nodes 4 = none ∧
      list.readIndex = 1 := by
  have start : Reach ListOp.apply CursorAtFront (· = flistInit (-1000) 0) _ := .start rfl
  have passed : (passingRun ListOp.apply appendsAtFront (flistInit (-1000) 0) windowRun).any
      fun list => list.len = 2 ∧ (list.nodes 4).isNone ∧ list.readIndex = 1 := by
    decide
  obtain ⟨list, reached, there⟩ := exists_passingRun start cursorAtFront_of_appendsAtFront passed
  obtain ⟨len, freed, moved⟩ := of_decide_eq_true there
  exact ⟨list, repInvariant_of_cursorAtFront (-1000) 0 list reached, len,
    Option.isNone_iff_eq_none.mp freed, moved⟩

/-- The next pre-roll frame frees the node whose link the cursor is. -/
theorem repInvariant_lost_in_preRoll :
    ¬∀ startShift duration list,
      Reach ListOp.apply unrestricted (· = flistInit startShift duration) list →
        RepInvariant list := by
  intro claim
  obtain ⟨last, executed⟩ : ∃ last, run ListOp.apply (flistInit 1000 0) readInPreRoll = some last :=
    ⟨_, rfl⟩
  have dangling : (run ListOp.apply (flistInit 1000 0) readInPreRoll).map
      (fun list => (list.readNode, (list.nodes 0).isNone)) = some (.next 0, true) := by
    decide
  simp only [executed, Option.map_some, Option.some.injEq, Prod.mk.injEq] at dangling
  have invariant := claim 1000 0 last (reach_run (.start rfl) executed)
  exact invariant.cursor_live dangling.1 (Option.isNone_iff_eq_none.mp dangling.2)

end KCamera
