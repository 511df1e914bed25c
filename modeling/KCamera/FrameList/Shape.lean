import KCamera.FrameList.Basic

/-!
# The shape of a frame list

`Chained` says which nodes a list consists of, in order. It holds after a
failed allocation too, where a list of length zero can keep a dangling
`m_front`. `Anchored` adds what holds as long as every allocation succeeds.
`AppendSpec` is the one description of `flistAppend` that later modules use.
-/

namespace KCamera

open Heap

/-- A list node with its frame. -/
abbrev Cell := Addr × KcFrame

/-- The list holds exactly the nodes `cells`. -/
structure Chained (list : FrameList) (cells : List Cell) : Prop where
  len : list.len.toNat = cells.length
  segment : cells ≠ [] → Segment list.nodes list.front cells none
  back : cells ≠ [] → list.back = cells.getLast?.map Prod.fst
  /-- No live node lies outside the list. -/
  only : ∀ node, list.nodes node ≠ none → node ∈ cells.map Prod.fst

/-- An empty list has null end pointers. -/
structure Anchored (list : FrameList) (cells : List Cell) : Prop extends Chained list cells where
  front_nil : cells = [] → list.front = none
  back_nil : cells = [] → list.back = none

/-- The fields that no node operation writes agree. -/
structure Keeps (list list' : FrameList) : Prop where
  readNode : list'.readNode = list.readNode
  readIndex : list'.readIndex = list.readIndex
  t0 : list'.t0 = list.t0
  startShift : list'.startShift = list.startShift
  duration : list'.duration = list.duration

/-- A list keeps its own settings. -/
theorem Keeps.refl (list : FrameList) : Keeps list list := ⟨rfl, rfl, rfl, rfl, rfl⟩

/-- What two changes keep, they keep together. -/
theorem Keeps.trans {first second third : FrameList} (left : Keeps first second)
    (right : Keeps second third) : Keeps first third where
  readNode := right.readNode.trans left.readNode
  readIndex := right.readIndex.trans left.readIndex
  t0 := right.t0.trans left.t0
  startShift := right.startShift.trans left.startShift
  duration := right.duration.trans left.duration

/-- The frames of a list of nodes. -/
abbrev framesOf (cells : List Cell) : List KcFrame := cells.map Prod.snd

section Chained

variable {list : FrameList} {cells : List Cell}

/-- No node occurs twice in a chain. -/
theorem Chained.nodup (shape : Chained list cells) : (cells.map Prod.fst).Nodup := by
  cases cells with
  | nil => simp
  | cons => exact (shape.segment (by simp)).nodup

/-- The address space bounds every list. -/
theorem Chained.length_le (shape : Chained list cells) : cells.length ≤ 2 ^ 29 := by
  have bound := shape.nodup.length_le_card
  simpa using bound

/-- While an address is free, the chain does not fill the address space. -/
theorem Chained.length_lt {node : Addr} (shape : Chained list cells)
    (fresh : list.nodes node = none) : cells.length < 2 ^ 29 := by
  have unvisited : node ∉ cells.map Prod.fst := by
    intro visited
    obtain ⟨⟨addr, data⟩, member, rfl⟩ := List.mem_map.mp visited
    obtain ⟨_, live⟩ := (shape.segment (List.ne_nil_of_mem member)).live member
    rw [fresh] at live
    cases live
  have bound := (List.nodup_cons.mpr ⟨unvisited, shape.nodup⟩).length_le_card
  simp only [List.length_cons, List.length_map, Fintype.card_fin] at bound
  omega

/-- The length is zero when there are no cells. -/
theorem Chained.len_eq_zero_iff (shape : Chained list cells) : list.len = 0 ↔ cells = [] := by
  rw [← UInt32.toNat_inj, shape.len]
  simp

/-- Fields outside the node structure do not matter. -/
theorem Chained.congr {list' : FrameList} (shape : Chained list cells)
    (nodes : list'.nodes = list.nodes) (front : list'.front = list.front)
    (back : list'.back = list.back) (len : list'.len = list.len) : Chained list' cells where
  len := by rw [len, shape.len]
  segment := by rw [nodes, front]; exact shape.segment
  back := by rw [back]; exact shape.back
  only := by rw [nodes]; exact shape.only

/-- A node structure determines its cells. -/
theorem Chained.unique {cells' : List Cell} (shape : Chained list cells)
    (other : Chained list cells') : cells = cells' := by
  have lengths : cells.length = cells'.length := by rw [← shape.len, other.len]
  cases cells with
  | nil => simpa using lengths.symm
  | cons head tail =>
      have nonempty : cells' ≠ [] := by rintro rfl; simp at lengths
      exact (shape.segment (by simp)).unique (other.segment nonempty)

/-- The first node of a nonempty list. -/
theorem Chained.front_node {cell : Cell} {rest : List Cell}
    (shape : Chained list (cell :: rest)) :
    list.front = some cell.1 ∧ ∃ next, list.nodes cell.1 = some ⟨cell.2, next⟩ ∧
      Segment list.nodes next rest none :=
  (shape.segment (by simp)).cons_inv

end Chained

/-- A new list is an empty chain. -/
theorem flistInit_anchored (startShift : Int32) (duration : UInt32) :
    Anchored (flistInit startShift duration) [] where
  len := rfl
  segment nonempty := absurd rfl nonempty
  back nonempty := absurd rfl nonempty
  only _ live := absurd rfl live
  front_nil _ := rfl
  back_nil _ := rfl

/-! ## Freeing at the front -/

/-- Freeing the first of several nodes and stepping `m_front` past it. -/
theorem Chained.drop_front {list : FrameList} {cell : Cell} {rest : List Cell}
    {next : Option Addr} (shape : Chained list (cell :: rest)) (nonempty : rest ≠ [])
    (found : list.nodes cell.1 = some ⟨cell.2, next⟩) :
    Chained { freeNode list cell.1 with front := next, len := list.len - 1 } rest where
  len := by
    have len := shape.len
    simp only [List.length_cons] at len
    have positive : (1 : UInt32) ≤ list.len := by
      rw [UInt32.le_iff_toNat_le, len]
      simp
    rw [UInt32.toNat_sub_of_le _ _ positive, len]
    rfl
  segment _ := by
    obtain ⟨next', found', rest⟩ := (shape.segment (by simp)).free_head
    rw [found] at found'
    cases found'
    exact rest
  back _ := by
    have last := shape.back (by simp)
    rw [List.getLast?_cons_of_ne_nil nonempty] at last
    exact last
  only node live := by
    simp only [freeNode] at live
    by_cases same : node = cell.1
    · subst same
      simp at live
    · rw [Store.free_of_ne _ same] at live
      simpa [same] using shape.only node live

/-- The frames that the trimming loop frees: those older than `start`, up to
the last node. -/
def expired (cells : List Cell) (start : Int64) : Nat :=
  (cells.dropLast.takeWhile fun cell => cell.2.pts.toInt64 < start).length

/-- The trimming loop drops exactly the expired nodes and nothing else moves. -/
theorem trim_spec (fuel : Nat) {list : FrameList} {cells : List Cell} (start : Int64)
    (shape : Chained list cells) (enough : cells.length ≤ fuel) :
    let kept := cells.drop (expired cells start)
    Chained (trim fuel list start).1 kept ∧
      (trim fuel list start).2 = framesOf (cells.take (expired cells start)) ∧
      Keeps list (trim fuel list start).1 ∧
      (trim fuel list start).1.recording = list.recording := by
  induction fuel generalizing list cells with
  | zero =>
      have empty : cells = [] := by simpa using enough
      subst empty
      exact ⟨shape, rfl, .refl _, rfl⟩
  | succ fuel ih =>
      cases cells with
      | nil =>
          have dead : ∀ node, list.nodes node = none := fun node => by
            by_contra live
            simpa using shape.only node live
          have stopped : trim (fuel + 1) list start = (list, []) := by
            unfold trim
            cases list.front with
            | none => rfl
            | some front => simp [dead front]
          rw [stopped]
          exact ⟨shape, rfl, .refl _, rfl⟩
      | cons cell rest =>
          obtain ⟨front, next, found, segment⟩ := shape.front_node
          cases rest with
          | nil =>
              have last : next = none := segment.nil_inv
              subst last
              have stopped : trim (fuel + 1) list start = (list, []) := by
                simp [trim, front, found]
              rw [stopped]
              exact ⟨shape, rfl, .refl _, rfl⟩
          | cons second rest =>
              obtain ⟨rfl, _⟩ := segment.cons_inv
              by_cases old : cell.2.pts.toInt64 < start
              · have shorter : expired (cell :: second :: rest) start =
                    expired (second :: rest) start + 1 := by
                  simp [expired, List.dropLast, old]
                have turned := ih (shape.drop_front (by simp) found) (by simpa using enough)
                obtain ⟨kept, freed, keeps, recording⟩ := turned
                simp only [trim, front, found, old, if_true, shorter, List.drop_succ_cons,
                  List.take_succ_cons, List.map_cons]
                have stepped : Keeps list { freeNode list cell.1 with
                    front := some second.1, len := list.len - 1 } := ⟨rfl, rfl, rfl, rfl, rfl⟩
                exact ⟨kept, by rw [freed], stepped.trans keeps, recording⟩
              · have none_old : expired (cell :: second :: rest) start = 0 := by
                  simp [expired, List.dropLast, old]
                have stopped : trim (fuel + 1) list start = (list, []) := by
                  simp [trim, front, found, old]
                rw [stopped, none_old]
                exact ⟨shape, rfl, .refl _, rfl⟩

/-! ## Appending -/

/-- The positive start shift still holds recording back when `frame` arrives. -/
def heldBack (list : FrameList) (frame : KcFrame) : Bool :=
  beforeShift frame.pts (list.startTime frame) list.startShift

/-- How many front nodes `flistAppend` removes for `frame`. -/
def discarded (list : FrameList) (cells : List Cell) (frame : KcFrame) : Nat :=
  if list.recording = -1 then
    if list.startShift > 0 then
      if heldBack list frame ∧ cells.length = 1 then 1 else 0
    else if list.startShift < 0 then
      (cells.takeWhile fun cell =>
        cell.2.pts.toInt64 < windowStart frame.pts list.startShift).length
    else 0
  else 0

/-- The recording mode before the duration test. -/
def modeAfter (list : FrameList) (frame : KcFrame) : Int :=
  if list.startShift > 0 ∧ list.recording = -1 ∧ ¬heldBack list frame then 1 else list.recording

/-- The duration limit, seen from a nonempty list ending in `frame`. -/
def limitReached (duration : UInt32) (cells : List Cell) (frame : KcFrame) : Bool :=
  duration ≠ 0 ∧ cells.head?.any fun first => duration ≤ elapsed first.2 frame

/-- The nodes after `frame` is appended at `node`. -/
def appendedCells (list : FrameList) (cells : List Cell) (frame : KcFrame) (node : Addr) :
    List Cell :=
  cells.drop (discarded list cells frame) ++ [(node, frame)]

/-- What `flistAppend` does to a recording list when the new node is allocated. -/
structure AppendSpec (list : FrameList) (cells : List Cell) (frame : KcFrame) (node : Addr)
    (result : Appended) : Prop where
  shape : Anchored result.list (appendedCells list cells frame node)
  freed : result.freed = framesOf (cells.take (discarded list cells frame))
  status : result.status =
    if limitReached list.duration (appendedCells list cells frame node) frame then -1 else 0
  recording : result.list.recording =
    if limitReached list.duration (appendedCells list cells frame node) frame then 0 else modeAfter list frame
  readNode : result.list.readNode = list.readNode
  readIndex : result.list.readIndex = list.readIndex
  t0 : result.list.t0 = list.startTime frame
  startShift : result.list.startShift = list.startShift
  duration : result.list.duration = list.duration

/-- Dropping the only node empties the list. -/
theorem dropKept_spec {list : FrameList} {cell : Cell} (shape : Chained list [cell]) :
    Chained (dropKept list).1 [] ∧ (dropKept list).2 = [cell.2] ∧
      Keeps list (dropKept list).1 ∧ (dropKept list).1.recording = list.recording := by
  obtain ⟨front, next, found, _⟩ := shape.front_node
  have value : dropKept list = ({ freeNode list cell.1 with len := 0 }, [cell.2]) := by
    simp [dropKept, front, FrameList.frameAt, found]
  rw [value]
  refine ⟨⟨rfl, fun nonempty => absurd rfl nonempty, fun nonempty => absurd rfl nonempty,
    fun node live => ?_⟩, rfl, ⟨rfl, rfl, rfl, rfl, rfl⟩, rfl⟩
  simp only [freeNode] at live
  by_cases same : node = cell.1
  · subst same
    simp at live
  · rw [Store.free_of_ne _ same] at live
    simpa [same] using shape.only node live

/-- What the positive start shift does before the node is linked. -/
theorem preRoll_spec {list : FrameList} {cells : List Cell} (shape : Chained list cells)
    (frame : KcFrame) :
    let held := beforeShift frame.pts list.t0 list.startShift
    let dropped :=
      if list.startShift > 0 ∧ list.recording = -1 ∧ held ∧ cells.length = 1 then 1 else 0
    Chained (preRoll list frame).1 (cells.drop dropped) ∧
      (preRoll list frame).2 = framesOf (cells.take dropped) ∧
      Keeps list (preRoll list frame).1 ∧
      (preRoll list frame).1.recording =
        if list.startShift > 0 ∧ list.recording = -1 ∧ ¬held then 1 else list.recording := by
  by_cases mode : list.startShift > 0 ∧ list.recording = -1
  · by_cases held : beforeShift frame.pts list.t0 list.startShift
    · by_cases single : cells.length = 1
      · obtain ⟨cell, rfl⟩ := List.length_eq_one_iff.mp single
        have len : list.len = 1 := UInt32.toNat_inj.mp (by rw [shape.len]; rfl)
        have value : preRoll list frame = dropKept list := by
          simp [preRoll, mode, held, len]
        obtain ⟨empty, freed, keeps, recording⟩ := dropKept_spec shape
        simp only [value, mode, held, List.length_singleton]
        exact ⟨empty, freed, keeps, by simp [recording, mode]⟩
      · have len : list.len ≠ 1 := fun one => single (by rw [← shape.len, one]; rfl)
        have value : preRoll list frame = (list, []) := by simp [preRoll, mode, held, len]
        simp only [value, mode, held, single]
        exact ⟨shape, rfl, .refl _, by simp⟩
    · have value : preRoll list frame = ({ list with recording := 1 }, []) := by
        simp [preRoll, mode, held]
      simp only [value, mode, held]
      exact ⟨shape.congr rfl rfl rfl rfl, rfl, ⟨rfl, rfl, rfl, rfl, rfl⟩, rfl⟩
  · have value : preRoll list frame = (list, []) := by simp [preRoll, mode]
    have off : ∀ p : Prop, ¬(list.startShift > 0 ∧ list.recording = -1 ∧ p) := by tauto
    simp only [value, off, if_false]
    exact ⟨shape, rfl, .refl _, trivial⟩

/-- Linking a fresh node appends its cell. -/
theorem linkLast_spec {list : FrameList} {cells : List Cell} {node : Addr} (frame : KcFrame)
    (shape : Chained list cells) (fresh : list.nodes node = none) :
    Anchored (linkLast list node frame) (cells ++ [(node, frame)]) ∧
      Keeps list (linkLast list node frame) ∧
      (linkLast list node frame).recording = list.recording := by
  have bound := shape.length_lt fresh
  have len : (list.len + 1).toNat = (cells ++ [(node, frame)]).length := by
    rw [UInt32.toNat_add, shape.len]
    simp
    omega
  rcases List.eq_nil_or_concat' cells with rfl | ⟨init, ⟨last, lastData⟩, rfl⟩
  · have zero : list.len = 0 := shape.len_eq_zero_iff.mpr rfl
    have dead : ∀ other, list.nodes other = none := fun other => by
      by_contra live
      simpa using shape.only other live
    have value : linkLast list node frame = { list with
        nodes := list.nodes.write node ⟨frame, none⟩
        front := some node, back := some node, len := list.len + 1 } := by
      simp [linkLast, zero]
    rw [value]
    refine ⟨⟨⟨len, fun _ => ?_, fun _ => rfl, fun other live => ?_⟩, by simp, by simp⟩,
      ⟨rfl, rfl, rfl, rfl, rfl⟩, rfl⟩
    · exact .cons (Store.write_self _ _ _) (.nil none)
    · by_contra absent
      have different : other ≠ node := by simpa using absent
      refine live ?_
      change list.nodes.write node ⟨frame, none⟩ other = none
      rw [Store.write_of_ne _ _ different, dead]
  · have nonzero : list.len ≠ 0 := fun zero => by simpa using shape.len_eq_zero_iff.mp zero
    have back : list.back = some last := by simpa using shape.back (by simp)
    have segment := (shape.segment (by simp)).link_last frame fresh
    have value : linkLast list node frame = { list with
        nodes := (list.nodes.write node ⟨frame, none⟩).link last (some node)
        back := some node, len := list.len + 1 } := by
      simp [linkLast, nonzero, back]
    rw [value]
    refine ⟨⟨⟨len, fun _ => by simpa using segment, fun _ => by simp, fun other live => ?_⟩,
      by simp, by simp⟩, ⟨rfl, rfl, rfl, rfl, rfl⟩, rfl⟩
    by_cases same : other = node
    · simp [same]
    · have old : list.nodes other ≠ none := by
        intro dead
        refine live ((Store.link_eq_none_iff _ _ _ _).mpr ?_)
        rw [Store.write_of_ne _ _ same, dead]
      rw [List.map_append]
      exact List.mem_append_left _ (shape.only other old)

/-- A list's time is taken between its first and last frames. -/
theorem flistTime_spec {list : FrameList} {first last : Cell} {cells : List Cell}
    (shape : Chained list cells) (head : cells.head? = some first)
    (tail : cells.getLast? = some last) : flistTime list = some (elapsed first.2 last.2) := by
  have nonempty : cells ≠ [] := by rintro rfl; simp at head
  have segment := shape.segment nonempty
  obtain ⟨_, front⟩ := segment.live (List.mem_of_mem_head? head)
  obtain ⟨_, back⟩ := segment.live (List.mem_of_mem_getLast? tail)
  have frontNode : list.front = some first.1 := by
    cases cells with
    | nil => simp at head
    | cons cell rest =>
        cases head
        exact shape.front_node.1
  have backNode : list.back = some last.1 := by simp [shape.back nonempty, tail]
  simp [flistTime, frontNode, backNode, front, back]

/-- The trimming loop stops at the new node, so it drops the expired old ones. -/
theorem expired_append (cells : List Cell) (cell : Cell) (start : Int64) :
    expired (cells ++ [cell]) start =
      (cells.takeWhile fun old => old.2.pts.toInt64 < start).length := by
  simp [expired]

/-- How many nodes the negative start shift trims. -/
def trimmed (list : FrameList) (cells : List Cell) (frame : KcFrame) : Nat :=
  if list.startShift < 0 ∧ list.recording = -1 then
    expired cells (windowStart frame.pts list.startShift)
  else 0

/-- The window drops cells from the front and leaves the settings. -/
theorem window_spec {list : FrameList} {cells : List Cell} (frame : KcFrame)
    (shape : Chained list cells) :
    Chained (window list frame).1 (cells.drop (trimmed list cells frame)) ∧
      (window list frame).2 = framesOf (cells.take (trimmed list cells frame)) ∧
      Keeps list (window list frame).1 ∧ (window list frame).1.recording = list.recording := by
  unfold window trimmed
  split
  · exact trim_spec list.len.toNat (windowStart frame.pts list.startShift) shape shape.len.ge
  · exact ⟨shape, rfl, .refl _, rfl⟩

/-- The two removals of one append, before and after linking the new cell,
take `discarded` nodes off the front of the old list. -/
theorem removals_eq (list : FrameList) (cells : List Cell) (frame : KcFrame) (cell : Cell)
    (early : Nat) (earlyEq : early = if list.startShift > 0 ∧ list.recording = -1 ∧
      heldBack list frame ∧ cells.length = 1 then 1 else 0)
    (late : Nat) (lateEq : late = if list.startShift < 0 ∧ modeAfter list frame = -1 then
      expired (cells.drop early ++ [cell]) (windowStart frame.pts list.startShift) else 0) :
    (cells.drop early ++ [cell]).drop late = cells.drop (discarded list cells frame) ++ [cell] ∧
      framesOf (cells.take early) ++ framesOf ((cells.drop early ++ [cell]).take late) =
        framesOf (cells.take (discarded list cells frame)) := by
  by_cases waiting : list.recording = -1
  · by_cases positive : list.startShift > 0
    · have noLate : late = 0 := by
        have notNegative : ¬list.startShift < 0 := by
          intro negative
          exact Int32.lt_irrefl (Int32.lt_trans negative positive)
        simp [lateEq, notNegative]
      have same : discarded list cells frame = early := by
        simp [discarded, earlyEq, waiting, positive]
      simp [noLate, same]
    · have noEarly : early = 0 := by simp [earlyEq, positive]
      by_cases negative : list.startShift < 0
      · have mode : modeAfter list frame = -1 := by simp [modeAfter, positive, waiting]
        have same : late = discarded list cells frame := by
          simp [lateEq, discarded, waiting, positive, negative, mode, noEarly, expired_append]
        have bound : late ≤ cells.length := by
          rw [same]
          simp only [discarded, waiting, positive, negative, if_true, if_false]
          exact (List.takeWhile_prefix _).length_le
        rw [← same, noEarly]
        simp [List.drop_append_of_le_length bound, List.take_append_of_le_length bound]
      · have none : discarded list cells frame = 0 := by
          simp [discarded, waiting, positive, negative]
        simp [none, noEarly, lateEq, negative]
  · have mode : modeAfter list frame ≠ -1 := by simp [modeAfter, waiting]
    have none : discarded list cells frame = 0 := by simp [discarded, waiting]
    simp [none, earlyEq, lateEq, waiting, mode]

/-- Any kept suffix with a new last cell is a nonempty list with that last cell. -/
theorem limitReached_eq {list : FrameList} {kept : List Cell} {node : Addr} {frame : KcFrame}
    (shape : Chained list (kept ++ [(node, frame)])) :
    durationReached list = limitReached list.duration (kept ++ [(node, frame)]) frame := by
  obtain ⟨first, head⟩ : ∃ first, (kept ++ [(node, frame)]).head? = some first := by
    cases kept <;> exact ⟨_, rfl⟩
  have time := flistTime_spec shape head List.getLast?_concat
  simp [durationReached, limitReached, time, head]

/-- `flistAppend` of a recording list as its four stages. -/
theorem flistAppend_eq {list : FrameList} (active : list.recording ≠ 0) (frame : KcFrame)
    (node : Addr) :
    let rolled := preRoll (list.setStart frame) frame
    let kept := window (linkLast rolled.1 node frame) frame
    flistAppend list frame (some node) =
      if durationReached kept.1 then ⟨{ kept.1 with recording := 0 }, rolled.2 ++ kept.2, -1⟩
      else ⟨kept.1, rolled.2 ++ kept.2, 0⟩ := by
  simp only [flistAppend, active, if_false]

/-- `malloc` can return `node` for `frame`: it is dead once the positive start
shift has freed its frame. -/
def Available (list : FrameList) (frame : KcFrame) (node : Addr) : Prop :=
  (preRoll (list.setStart frame) frame).1.nodes node = none

instance (list : FrameList) (frame : KcFrame) (node : Addr) :
    Decidable (Available list frame node) :=
  decidable_of_iff ((preRoll (list.setStart frame) frame).1.nodes node).isNone
    Option.isNone_iff_eq_none

/-- The list after linking and trimming, before the duration test. -/
theorem stages_spec {list : FrameList} {cells : List Cell} {node : Addr} (frame : KcFrame)
    (shape : Chained list cells) (fresh : Available list frame node) :
    let rolled := preRoll (list.setStart frame) frame
    let kept := window (linkLast rolled.1 node frame) frame
    Chained kept.1 (cells.drop (discarded list cells frame) ++ [(node, frame)]) ∧
      rolled.2 ++ kept.2 = framesOf (cells.take (discarded list cells frame)) ∧
      Keeps (list.setStart frame) kept.1 ∧ kept.1.recording = modeAfter list frame := by
  have seeded : Chained (list.setStart frame) cells := shape.congr rfl rfl rfl rfl
  obtain ⟨dropped, early, keeps₁, mode₁⟩ := preRoll_spec seeded frame
  obtain ⟨linked, keeps₂, mode₂⟩ := linkLast_spec frame dropped fresh
  obtain ⟨kept, late, keeps₃, mode₃⟩ := window_spec frame linked.toChained
  have trimEq := fun cells => show trimmed _ cells frame = if list.startShift < 0 ∧
      modeAfter list frame = -1 then expired cells (windowStart frame.pts list.startShift) else 0 by
    unfold trimmed
    rw [mode₂.trans mode₁, keeps₂.startShift.trans keeps₁.startShift]
    rfl
  rw [trimEq] at kept late
  obtain ⟨cellsEq, freedEq⟩ := removals_eq list cells frame (node, frame) _ rfl _ rfl
  refine ⟨?_, ?_, (keeps₁.trans keeps₂).trans keeps₃, mode₃.trans (mode₂.trans mode₁)⟩
  · rw [← cellsEq]
    exact kept
  · exact (congrArg₂ (· ++ ·) early late).trans freedEq

/-- `flistAppend` with an allocated node meets its specification. -/
theorem flistAppend_spec {list : FrameList} {cells : List Cell} {node : Addr} (frame : KcFrame)
    (shape : Chained list cells) (active : list.recording ≠ 0)
    (fresh : Available list frame node) :
    AppendSpec list cells frame node (flistAppend list frame (some node)) := by
  obtain ⟨kept, freed, keeps, mode⟩ := stages_spec frame shape fresh
  change Chained _ (appendedCells list cells frame node) at kept
  have reached := limitReached_eq kept
  rw [keeps.duration] at reached
  change _ = limitReached list.duration (appendedCells list cells frame node) frame at reached
  rw [flistAppend_eq active]
  simp only [reached]
  by_cases limit : limitReached list.duration (appendedCells list cells frame node) frame = true
  · rw [if_pos limit]
    exact {
      shape := ⟨kept.congr rfl rfl rfl rfl, by simp [appendedCells], by simp [appendedCells]⟩
      freed
      status := by simp [limit]
      recording := by simp [limit]
      readNode := keeps.readNode
      readIndex := keeps.readIndex
      t0 := keeps.t0
      startShift := keeps.startShift
      duration := keeps.duration }
  · rw [if_neg limit]
    exact {
      shape := ⟨kept, by simp [appendedCells], by simp [appendedCells]⟩
      freed
      status := by simp [limit]
      recording := by simp [limit, mode]
      readNode := keeps.readNode
      readIndex := keeps.readIndex
      t0 := keeps.t0
      startShift := keeps.startShift
      duration := keeps.duration }

/-- `flistAppend` keeps a chain, if `malloc` returns memory that is free. -/
theorem flistAppend_chained {list : FrameList} {cells : List Cell} (shape : Chained list cells)
    (frame : KcFrame) {node : Option Addr}
    (fresh : ∀ addr, node = some addr → Available list frame addr) :
    ∃ cells', Chained (flistAppend list frame node).list cells' := by
  by_cases active : list.recording = 0
  · rw [flistAppend, if_pos active]
    exact ⟨cells, shape⟩
  · cases node with
    | none =>
        rw [flistAppend, if_neg active]
        have seeded : Chained (list.setStart frame) cells := shape.congr rfl rfl rfl rfl
        exact ⟨_, (preRoll_spec seeded frame).1⟩
    | some addr => exact ⟨_, (flistAppend_spec frame shape active (fresh addr rfl)).shape.toChained⟩

end KCamera
