import KCamera.FrameList.Basic
import KCamera.Heap.Links

/-!
# Nodes and links of a frame list

What the operations do to the nodes of a list whatever its shape: reading moves
the cursor only, and `flistAppend` removes nodes and adds a last one.
-/

namespace KCamera

open Heap

/-! ## Reading -/

/-- Seeking moves the cursor only. -/
theorem seekFrom_moves (fuel : Nat) (list : FrameList) (n : UInt32) :
    ∃ readNode readIndex, seekFrom fuel list n = { list with readNode, readIndex } := by
  induction fuel generalizing list with
  | zero => exact ⟨_, _, rfl⟩
  | succ fuel ih =>
      unfold seekFrom
      split
      · split
        · obtain ⟨readNode, readIndex, same⟩ := ih
            { list with readNode := .next _, readIndex := list.readIndex + 1 }
          exact ⟨readNode, readIndex, same⟩
        · exact ⟨_, _, rfl⟩
      · exact ⟨_, _, rfl⟩

/-- Seeking moves the cursor only. -/
theorem flistSeek_moves (list : FrameList) (n : UInt32) :
    ∃ readNode readIndex, (flistSeek list n).1 = { list with readNode, readIndex } := by
  unfold flistSeek
  split
  · exact ⟨_, _, rfl⟩
  · obtain ⟨readNode, readIndex, same⟩ := seekFrom_moves list.len.toNat
      { list with readIndex := 0, readNode := .front } n
    exact ⟨readNode, readIndex, same⟩

/-- Reading on moves the cursor only. -/
theorem flistNext_moves {list moved : FrameList} {frame : Option KcFrame}
    (taken : flistNext list = some (moved, frame)) :
    ∃ readNode readIndex, moved = { list with readNode, readIndex } := by
  unfold flistNext at taken
  split at taken
  · cases taken
  · cases taken
    exact ⟨_, _, rfl⟩
  · obtain ⟨found, _, same⟩ := Option.map_eq_some_iff.mp taken
    cases same
    exact ⟨_, _, rfl⟩

/-! ## Appending -/

/-- One frame is not later than another. -/
def KcFrame.Before (earlier later : KcFrame) : Prop := earlier.pts ≤ later.pts

section

variable {property : KcFrame → Prop} (list : FrameList) (frame : KcFrame)

/-- The pre-roll adds no node. -/
theorem preRoll_within : (preRoll list frame).1.nodes.Within list.nodes := by
  unfold preRoll
  split
  · split
    · split
      · unfold dropKept
        split
        · exact Store.free_within _ _
        · exact .refl _
      · exact .refl _
    · exact .refl _
  · exact .refl _

/-- Trimming adds no node. -/
theorem trim_within (fuel : Nat) (start : Int64) :
    (trim fuel list start).1.nodes.Within list.nodes := by
  induction fuel generalizing list with
  | zero => exact .refl _
  | succ fuel ih =>
      unfold trim
      split
      · exact .refl _
      · split
        · exact .refl _
        · split
          · split
            · exact .refl _
            · exact (ih _).trans (Store.free_within _ _)
          · exact .refl _

/-- The window adds no node. -/
theorem window_within : (window list frame).1.nodes.Within list.nodes := by
  unfold window
  split
  · exact trim_within _ _ _
  · exact .refl _

variable {list frame}

/-- Linking a node makes no other live. -/
theorem linkLast_live {node addr : Addr} (live : (linkLast list node frame).nodes addr ≠ none) :
    addr = node ∨ list.nodes addr ≠ none := by
  by_cases same : addr = node
  · exact .inl same
  · have written : list.nodes.write node ⟨frame, none⟩ addr = list.nodes addr :=
      Store.write_of_ne _ _ same
    unfold linkLast at live
    dsimp only at live
    split at live
    · exact .inr (written ▸ live)
    · cases back : list.back with
      | none => exact .inr (by simpa [back, written] using live)
      | some last => exact .inr (by simpa [back, Store.link_eq_none_iff, written] using live)

/-- A property of all frames is one of the new frame as well. -/
theorem linkLast_all (node : Addr) (all : list.nodes.All property) (fits : property frame) :
    (linkLast list node frame).nodes.All property := by
  have written : (list.nodes.write node ⟨frame, none⟩).All property := all.write fits
  unfold linkLast
  dsimp only
  split
  · exact written
  · cases list.back with
    | none => exact written
    | some back => exact written.link

/-- Frames stay in order when the new one is later than all. -/
theorem linkLast_linked (node : Addr) (linked : list.nodes.Linked KcFrame.Before)
    (last : list.nodes.All (·.Before frame)) :
    (linkLast list node frame).nodes.Linked KcFrame.Before := by
  have written : (list.nodes.write node ⟨frame, none⟩).Linked KcFrame.Before := linked.write last
  unfold linkLast
  dsimp only
  split
  · exact written
  · cases list.back with
    | none => exact written
    | some back =>
        exact written.link (Store.write_self _ _ _) (last.write (UInt64.le_refl _))

/-- `flistAppend` of a frame that is not earlier than the others keeps the order. -/
theorem flistAppend_ascends (node : Option Addr) (linked : list.nodes.Linked KcFrame.Before)
    (last : list.nodes.All (·.Before frame)) :
    (flistAppend list frame node).list.nodes.Linked KcFrame.Before ∧
      (flistAppend list frame node).list.nodes.All (·.Before frame) := by
  have rolled : (preRoll (list.setStart frame) frame).1.nodes.Within list.nodes :=
    preRoll_within _ _
  unfold flistAppend
  split
  · exact ⟨linked, last⟩
  · cases node with
    | none => exact ⟨linked.within rolled, last.within rolled⟩
    | some node =>
        have trimmed := window_within (linkLast (preRoll (list.setStart frame) frame).1 node frame)
          frame
        have ascends := (linkLast_linked node (linked.within rolled)
          (last.within rolled)).within trimmed
        have bounded := (linkLast_all node (last.within rolled) (UInt64.le_refl _)).within trimmed
        dsimp only
        split
        · exact ⟨ascends, bounded⟩
        · exact ⟨ascends, bounded⟩

end

end KCamera
