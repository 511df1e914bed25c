import KCamera.Heap.Segment
import KCamera.Frame.Block
import Mathlib.Data.Fintype.Card

/-!
# The frame list

`framelist.c`: a singly linked list of frames with a front and a back pointer,
a length, and a read cursor kept both as a link (`m_readNode`, a
`FrameNode **`) and as an index. `m_recording` is 1 while recording, 0 when
ended and -1 before a shifted recording has started.

The list's own live nodes travel with it, so `freeNode` removes a node from
`nodes` and a dangling link is one whose node is gone. The per-list mutex is
the system model's.
-/

namespace KCamera

open Heap

/-- Where `malloc` can place a block: the 8-byte aligned addresses of a 32-bit
address space. -/
abbrev Addr := Fin (2 ^ 29)

instance Addr.neZero : NeZero (2 ^ 29) := ⟨by decide⟩

/-- `FrameNode`: a frame and the next node. `m_frame` is never null, since
`flistAppend` reads through it before it builds the node. -/
abbrev FrameNode := Node Addr KcFrame

/-- A `FrameNode **`: the address of `m_front`, or of a node's `m_next`. -/
inductive Link where
  | front
  | next (node : Addr)
deriving DecidableEq, Repr

structure FrameList where
  recording : Int
  front : Option Addr
  back : Option Addr
  readNode : Link
  len : UInt32
  readIndex : UInt32
  t0 : Int32
  startShift : Int32
  duration : UInt32
  /-- The live nodes of this list. -/
  nodes : Store Addr KcFrame

/-- The fields `flistInit` sets, over an arbitrary set of live nodes. -/
def FrameList.reset (nodes : Store Addr KcFrame) (startShift : Int32) (duration : UInt32) :
    FrameList where
  recording := if startShift = 0 then 1 else -1
  front := none
  back := none
  readNode := .front
  len := 0
  readIndex := 0
  t0 := -1
  startShift
  duration
  nodes

def flistInit (startShift : Int32) (duration : UInt32) : FrameList :=
  .reset Store.empty startShift duration

/-- `freeNode`: the node goes, and its frame's block with it. -/
def freeNode (list : FrameList) (node : Addr) : FrameList :=
  { list with nodes := list.nodes.free node }

/-- The blocks behind a node pointer that `freeNode` passes to `free`. -/
def FrameList.frameAt (list : FrameList) (node : Addr) : List KcFrame :=
  ((list.nodes node).map Node.data).toList

/-- The clearing loop of `flistClear`, with the frames it frees: `none` when it
reaches a node that has been freed before. Each turn frees a live node, so the
number of addresses bounds the turns. -/
def freeAll : Nat → FrameList → Option Addr → Option (FrameList × List KcFrame)
  | _, list, none => some (list, [])
  | 0, _, some _ => none
  | fuel + 1, list, some node =>
      match list.nodes node with
      | none => none
      | some found =>
          (freeAll fuel (freeNode list node) found.next).map fun (cleared, freed) =>
            (cleared, found.data :: freed)

/-- `flistClear`, with the frames it frees. -/
def flistClear (list : FrameList) : Option (FrameList × List KcFrame) :=
  (freeAll (2 ^ 29) list list.front).map fun (cleared, freed) =>
    (.reset cleared.nodes list.startShift list.duration, freed)

/-- The 64-bit difference that `flistTime` returns as `unsigned`. -/
def elapsed (front back : KcFrame) : UInt32 := (back.pts - front.pts).toUInt32

/-- `flistTime`; `none` when the front or the back node is absent. -/
def flistTime (list : FrameList) : Option UInt32 := do
  let back ← list.back.bind list.nodes
  let front ← list.front.bind list.nodes
  return elapsed front.data back.data

/-- `m_t0` as `flistAppend` leaves it: set from the first frame seen, through
an `int`. -/
def FrameList.startTime (list : FrameList) (frame : KcFrame) : Int32 :=
  if list.t0 < 0 then frame.pts.toUInt32.toInt32 else list.t0

/-- `m_t0` is set once, by the first frame seen. -/
def FrameList.setStart (list : FrameList) (frame : KcFrame) : FrameList :=
  { list with t0 := list.startTime frame }

/-- `frame->m_pts-list->m_t0<list->m_startShift`, where the `int` operands are
converted to `uint64_t`. -/
def beforeShift (pts : UInt64) (t0 startShift : Int32) : Bool :=
  pts - t0.toInt64.toUInt64 < startShift.toInt64.toUInt64

/-- `t = frame->m_pts + list->m_startShift`, a `uint64_t` sum stored in an
`int64_t`. -/
def windowStart (pts : UInt64) (startShift : Int32) : Int64 :=
  (pts + startShift.toInt64.toUInt64).toInt64

/-- What `flistAppend` does: the list after it, the frames it frees, and its
return value. -/
structure Appended where
  list : FrameList
  freed : List KcFrame
  status : Int

/-- Free the one frame a positive start shift keeps for streaming. `m_front`
and `m_back` stay as they are until the new node is linked. -/
def dropKept (list : FrameList) : FrameList × List KcFrame :=
  match list.front with
  | some node => ({ freeNode list node with len := 0 }, list.frameAt node)
  | none => (list, [])

/-- The positive start shift: keep one frame for streaming until the shift has
expired, then record. -/
def preRoll (list : FrameList) (frame : KcFrame) : FrameList × List KcFrame :=
  if list.startShift > 0 ∧ list.recording = -1 then
    if beforeShift frame.pts list.t0 list.startShift then
      if list.len = 1 then dropKept list
      else (list, [])
    else ({ list with recording := 1 }, []) -- transition to recording
  else (list, [])

/-- Link a new last node. -/
def linkLast (list : FrameList) (node : Addr) (frame : KcFrame) : FrameList :=
  let nodes := list.nodes.write node ⟨frame, none⟩
  if list.len = 0 then
    { list with nodes, front := some node, back := some node, len := list.len + 1 }
  else
    { list with
      nodes := list.back.elim nodes fun back => nodes.link back (some node)
      back := some node
      len := list.len + 1 }

/-- The trimming loop of a negative start shift: free front nodes older than
`start` but never the last one. The list's length bounds the turns. -/
def trim : Nat → FrameList → Int64 → FrameList × List KcFrame
  | 0, list, _ => (list, [])
  | fuel + 1, list, start =>
      match list.front with
      | none => (list, [])
      | some front =>
          match list.nodes front with
          | none => (list, [])
          | some node =>
              if node.data.pts.toInt64 < start then
                match node.next with
                | none => (list, []) -- back reached
                | some next =>
                    let (trimmed, freed) :=
                      trim fuel { freeNode list front with front := some next, len := list.len - 1 } start
                    (trimmed, node.data :: freed)
              else (list, [])

/-- Keep only the window of a negative start shift. -/
def window (list : FrameList) (frame : KcFrame) : FrameList × List KcFrame :=
  if list.startShift < 0 ∧ list.recording = -1 then
    trim list.len.toNat list (windowStart frame.pts list.startShift)
  else (list, [])

/-- The duration test. Both sides are widened to `int64_t`, which keeps the
order of `unsigned`. -/
def durationReached (list : FrameList) : Bool :=
  list.duration ≠ 0 ∧ (flistTime list).any (list.duration ≤ ·)

/-- `flistAppend`; `node` is what `malloc` returns for the new node. -/
def flistAppend (list : FrameList) (frame : KcFrame) (node : Option Addr) : Appended :=
  if list.recording = 0 then ⟨list, [frame], 0⟩ -- toss frame
  else
    let (list, early) := preRoll (list.setStart frame) frame
    match node with
    | none => ⟨list, early, -2⟩
    | some node =>
        let (list, late) := window (linkLast list node frame) frame
        if durationReached list then ⟨{ list with recording := 0 }, early ++ late, -1⟩
        else ⟨list, early ++ late, 0⟩

/-- The pointer a link holds; `none` when the link lies in a freed node. -/
def FrameList.follow (list : FrameList) : Link → Option (Option Addr)
  | .front => some list.front
  | .next node => (list.nodes node).map Node.next

/-- The seeking loop of `flistSeek`. -/
def seekFrom : Nat → FrameList → UInt32 → FrameList
  | 0, list, _ => list
  | fuel + 1, list, n =>
      match list.follow list.readNode with
      | some (some node) =>
          if list.readIndex ≠ n then
            seekFrom fuel { list with readNode := .next node, readIndex := list.readIndex + 1 } n
          else list
      | _ => list

/-- `flistSeek`: the list after it and its return value. -/
def flistSeek (list : FrameList) (n : UInt32) : FrameList × Int :=
  if list.len ≤ n then (list, -1)
  else (seekFrom list.len.toNat { list with readIndex := 0, readNode := .front } n, 0)

/-- `flistNext`: the list after it and the frame at the cursor. `none` when
the cursor's link, or the node it holds, has been freed. -/
def flistNext (list : FrameList) : Option (FrameList × Option KcFrame) :=
  match list.follow list.readNode with
  | none => none
  | some none => some (list, none)
  | some (some node) =>
      (list.nodes node).map fun found =>
        ({ list with readNode := .next node, readIndex := list.readIndex + 1 }, some found.data)

/-- `flistEnd`; a cursor in a freed node has no defined answer. -/
def flistEnd (list : FrameList) : Option Bool :=
  (list.follow list.readNode).map Option.isNone

end KCamera
