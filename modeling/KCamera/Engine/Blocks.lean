import KCamera.Engine.Loading
import KCamera.Engine.Text
import KCamera.Heap.Ledger

/-!
# Where frames are

A frame is in `m_frame`, in a node of a list, in an array, or with a thread that has
taken, copied or built it and not yet passed it on. The ledger says which block is
where; what each operation does to it is read off here.
-/

namespace KCamera

open Machine Heap

open Function (update)

/-- Where a frame can be. -/
inductive Place where
  /-- `m_frame` -/
  | slot
  | node (list : ListId) (addr : Addr)
  /-- the `DObj`s of arrays -/
  | arrays
  | carried (thread : Tid)
deriving DecidableEq

/-- The nodes of a list; none if there is no list. -/
def World.nodesOf (world : World) (list : ListId) : Store Addr KcFrame :=
  (world.lists list).elim Store.empty FrameList.nodes

/-- A frame is at a place. -/
@[simp] def Place.Has (world : World) (holder : Tid → Option KcFrame) (frame : KcFrame) : Place → Prop
  | slot => world.g.frame = some frame
  | node list addr => (world.nodesOf list addr).map Node.data = some frame
  | arrays => frame ∈ world.arrays
  | carried thread => holder thread = some frame

/-- Which block is where. -/
def ledger (world : World) (carried : Tid → Option KcFrame) : Ledger Place where
  holds place block := ∃ frame, place.Has world carried frame ∧ frame.block = block
  allocated := world.blocks
  freed := world.freed

/-- No block is in two places or in two arrays, and none that was freed is in use. -/
structure Tallied (world : World) (carried : Tid → Option KcFrame) : Prop where
  sound : (ledger world carried).Sound
  arrays : (world.arrays.map KcFrame.block).Nodup

/-- What a step does to the ledger. -/
structure Accounts (world next : World) (carried carried' : Tid → Option KcFrame) (lossless : Prop) :
    Prop where
  passes : (ledger world carried).Passes (ledger next carried') lossless
  arrays : (next.arrays.map KcFrame.block).Nodup

/-- The books are in order after the step. -/
theorem Accounts.accounted {world next : World} {carried carried' : Tid → Option KcFrame} {lossless : Prop}
    (accounts : Accounts world next carried carried' lossless) : Tallied next carried' :=
  ⟨accounts.passes.sound, accounts.arrays⟩

/-- Two steps of the ledger in a row. -/
theorem Accounts.trans {first second third : World} {carried carried' carried'' : Tid → Option KcFrame}
    {lossless : Prop} (left : Accounts first second carried carried' lossless)
    (right : Accounts second third carried' carried'' lossless) :
    Accounts first third carried carried'' lossless :=
  ⟨left.passes.trans right.passes, right.arrays⟩

/-- The promise to lose nothing may be made under a stronger condition. -/
theorem Accounts.imp {world next : World} {carried carried' : Tid → Option KcFrame}
    {lossless weaker : Prop} (accounts : Accounts world next carried carried' lossless)
    (implied : weaker → lossless) : Accounts world next carried carried' weaker :=
  ⟨⟨accounts.passes.sound, fun held => accounts.passes.complete (implied held)⟩, accounts.arrays⟩

section Kinds

variable {world next : World} {carried carried' : Tid → Option KcFrame} {lossless : Prop}

/-- A frame's place. -/
theorem Tallied.place (accounted : Tallied world carried) {first second : Place}
    {frame other : KcFrame} (here : first.Has world carried frame)
    (there : second.Has world carried other) (same : frame.block = other.block) : first = second :=
  accounted.sound.once _ _ _ ⟨frame, here, rfl⟩ ⟨other, there, same.symm⟩

/-- Places lose frames and some of these are freed. -/
theorem Accounts.shrink (accounted : Tallied world carried) (gone : List KcFrame)
    (blocks : next.blocks = world.blocks)
    (freed : next.freed = world.freed ++ gone.map KcFrame.block)
    (arrays : next.arrays.Sublist world.arrays)
    (within : ∀ (place : Place) frame, place.Has next carried' frame → place.Has world carried frame)
    (distinct : (gone.map KcFrame.block).Nodup)
    (used : ∀ frame ∈ gone, ∃ place : Place, place.Has world carried frame ∧
      ∀ other : KcFrame, place.Has next carried' other → other.block ≠ frame.block)
    (kept : lossless → ∀ (place : Place) frame, place.Has world carried frame →
      frame ∈ gone ∨ place.Has next carried' frame) :
    Accounts world next carried carried' lossless where
  arrays := accounted.arrays.sublist (arrays.map _)
  passes := by
    have inside : ∀ place block, (ledger next carried').holds place block →
        (ledger world carried).holds place block := by
      rintro place block ⟨frame, has, same⟩
      exact ⟨frame, within place frame has, same⟩
    refine .of_moves accounted.sound (.shrink accounted.sound blocks.ge inside)
      (.shrink accounted.sound freed distinct inside ?_) fun held => .same blocks.le ?_
    · intro block member
      obtain ⟨frame, dropped, rfl⟩ := List.mem_map.mp member
      obtain ⟨place, has, lost⟩ := used frame dropped
      refine ⟨place, ⟨frame, has, rfl⟩, ?_⟩
      rintro ⟨other, has', same⟩
      exact lost other has' same
    · rintro place block ⟨frame, has, rfl⟩
      rcases kept held place frame has with member | stays
      · exact .inl (List.mem_map_of_mem member)
      · exact .inr ⟨place, frame, stays, rfl⟩

/-- A frame goes to another place, and frames of other places are freed. -/
theorem Accounts.transfer (accounted : Tallied world carried) (gone : List KcFrame)
    (source target : Place)
    (blocks : next.blocks = world.blocks)
    (freed : next.freed = world.freed ++ gone.map KcFrame.block)
    (arrays : (next.arrays.map KcFrame.block).Nodup)
    (within : ∀ (place : Place) frame, place.Has next carried' frame →
      place = target ∧ source.Has world carried frame ∨
        place ≠ source ∧ place.Has world carried frame)
    (distinct : (gone.map KcFrame.block).Nodup)
    (used : ∀ frame ∈ gone, ∃ place : Place, place ≠ source ∧ place.Has world carried frame ∧
      ∀ other : KcFrame, place.Has next carried' other → other.block = frame.block →
        place = target ∧ source.Has world carried other)
    (kept : lossless → ∀ (place : Place) frame, place.Has world carried frame →
      frame ∈ gone ∨ ∃ new : Place, new.Has next carried' frame) :
    Accounts world next carried carried' lossless where
  arrays
  passes := by
    have inside : ∀ place block, (ledger next carried').holds place block →
        place = target ∧ (ledger world carried).holds source block ∨
          place ≠ source ∧ (ledger world carried).holds place block := by
      rintro place block ⟨frame, has, same⟩
      rcases within place frame has with ⟨rfl, was⟩ | ⟨other, was⟩
      · exact .inl ⟨rfl, frame, was, same⟩
      · exact .inr ⟨other, frame, was, same⟩
    refine .of_moves accounted.sound (.transfer accounted.sound blocks.ge source target inside)
      (.transfer accounted.sound freed distinct source target inside ?_)
      fun held => .same blocks.le ?_
    · intro block member
      obtain ⟨frame, dropped, rfl⟩ := List.mem_map.mp member
      obtain ⟨place, other, has, lost⟩ := used frame dropped
      refine ⟨place, other, ⟨frame, has, rfl⟩, ?_⟩
      rintro ⟨frame', has', same⟩
      obtain ⟨reached, was⟩ := lost frame' has' same
      exact ⟨reached, frame', was, same⟩
    · rintro place block ⟨frame, has, rfl⟩
      rcases kept held place frame has with member | ⟨new, stays⟩
      · exact .inl (List.mem_map_of_mem member)
      · exact .inr ⟨new, frame, stays, rfl⟩

/-- New blocks come to places. -/
theorem Accounts.make (accounted : Tallied world carried) (fresh : Place → KcFrame → Prop)
    (grows : world.blocks ≤ next.blocks) (freed : next.freed = world.freed)
    (arrays : next.arrays = world.arrays)
    (within : ∀ (place : Place) frame, place.Has next carried' frame →
      place.Has world carried frame ∨ fresh place frame)
    (new : ∀ (place : Place) (frame : KcFrame), fresh place frame →
      world.blocks ≤ frame.block ∧ frame.block < next.blocks)
    (apart : ∀ first second frame other, fresh first frame → fresh second other →
      frame.block = other.block → first = second)
    (kept : lossless → ∀ (place : Place) frame, place.Has world carried frame →
      ∃ new : Place, new.Has next carried' frame)
    (made : lossless → ∀ block, world.blocks ≤ block → block < next.blocks →
      ∃ (place : Place) (frame : KcFrame), place.Has next carried' frame ∧ frame.block = block) :
    Accounts world next carried carried' lossless where
  arrays := arrays ▸ accounted.arrays
  passes := by
    refine .of_moves accounted.sound
      (.make accounted.sound (fun place block => ∃ frame, fresh place frame ∧ frame.block = block)
        grows ?_ ?_ ?_) (.none freed) fun held => ⟨?_, made held⟩
    · rintro place block ⟨frame, has, same⟩
      rcases within place frame has with was | made
      · exact .inl ⟨frame, was, same⟩
      · exact .inr ⟨frame, made, same⟩
    · rintro place block ⟨frame, made, rfl⟩
      exact new place frame made
    · rintro first second block ⟨frame, made, rfl⟩ ⟨other, made', same⟩
      exact apart first second frame other made made' same.symm
    · rintro place block ⟨frame, has, rfl⟩
      obtain ⟨new, stays⟩ := kept held place frame has
      exact .inr ⟨new, frame, stays, rfl⟩

/-- Nothing happens to frames. -/
theorem Accounts.same (accounted : Tallied world carried) (slot : next.g.frame = world.g.frame)
    (nodes : next.nodesOf = world.nodesOf) (arrays : next.arrays = world.arrays)
    (blocks : next.blocks = world.blocks) (freed : next.freed = world.freed) :
    Accounts world next carried carried lossless := by
  have iff (place : Place) (frame : KcFrame) :
      place.Has next carried frame ↔ place.Has world carried frame := by
    cases place <;> simp [slot, nodes, arrays]
  refine .shrink accounted [] blocks (by simpa using freed) (arrays ▸ .refl _) ?_ .nil
    (by simp) fun _ place frame has => ?_
  · intro place frame has
    exact (iff place frame).mp has
  · exact .inr ((iff place frame).mpr has)

end Kinds

/-! ## The nodes of lists -/

/-- The nodes of a chain are its cells. -/
theorem Chained.mem_iff {list : FrameList} {cells : List Cell} (shape : Chained list cells)
    {addr : Addr} {frame : KcFrame} :
    (list.nodes addr).map Node.data = some frame ↔ (addr, frame) ∈ cells := by
  constructor
  · intro found
    obtain ⟨node, live, rfl⟩ := Option.map_eq_some_iff.mp found
    obtain ⟨⟨addr', data⟩, member, rfl⟩ := List.mem_map.mp (shape.only addr (by simp [live]))
    obtain ⟨next, same⟩ := (shape.segment (List.ne_nil_of_mem member)).live member
    rw [live] at same
    cases same
    exact member
  · intro member
    obtain ⟨next, live⟩ := (shape.segment (List.ne_nil_of_mem member)).live member
    simp [live]

/-- A node is not both dropped and kept. -/
theorem Chained.apart {list : FrameList} {cells : List Cell} (shape : Chained list cells)
    {count : Nat} {addr : Addr} {frame other : KcFrame} (dropped : (addr, frame) ∈ cells.take count)
    (kept : (addr, other) ∈ cells.drop count) : False := by
  have distinct := shape.nodup
  rw [← List.take_append_drop count cells, List.map_append, List.nodup_append] at distinct
  exact distinct.2.2 addr (List.mem_map_of_mem dropped) addr (List.mem_map_of_mem kept) rfl

section Lists

variable {world next : World} {carried : Tid → Option KcFrame} {list other : ListId} {found : FrameList}

/-- The nodes of a list that exists. -/
theorem World.nodesOf_eq (live : world.lists list = some found) :
    world.nodesOf list = found.nodes := by
  simp [World.nodesOf, live]

/-- A new state of one list is an update of the nodes. -/
theorem World.nodesOf_update (lists : next.lists = update world.lists list (some found)) :
    next.nodesOf = update world.nodesOf list found.nodes := by
  funext other
  by_cases same : other = list
  · subst same
    simp [World.nodesOf, lists]
  · simp [World.nodesOf, lists, same]

/-- Where the lists stay so do the nodes. -/
theorem World.nodesOf_congr (lists : next.lists = world.lists) : next.nodesOf = world.nodesOf := by
  funext other
  simp [World.nodesOf, lists]

/-- The frames of one list have different blocks. -/
theorem Tallied.cells_nodup (accounted : Tallied world carried)
    (live : world.lists list = some found) {cells : List Cell} (shape : Chained found cells) :
    ((framesOf cells).map KcFrame.block).Nodup := by
  have distinct := shape.nodup
  rw [List.map_map, List.nodup_iff_pairwise_ne, List.pairwise_map]
  rw [List.nodup_iff_pairwise_ne, List.pairwise_map] at distinct
  refine distinct.imp_of_mem fun {first second} member member' apart same => apart ?_
  have here : (Place.node list first.1).Has world carried first.2 := by
    rw [Place.Has, World.nodesOf_eq live]
    exact shape.mem_iff.mpr member
  have there : (Place.node list second.1).Has world carried second.2 := by
    rw [Place.Has, World.nodesOf_eq live]
    exact shape.mem_iff.mpr member'
  simpa using accounted.place here there same

end Lists

/-! ## Operations -/

/-- The operations after which nobody knows a block that was in use: `kcStart` on a
live frame, `flistAppend` without a node, and `streamer_load` where it gives up a frame. -/
def Op.forgets (choice : Choice) (world : World) : Op → Prop
  | .resetState => world.g.frame.isSome
  | .append list _ =>
      choice.node = none ∧ ∃ found, world.lists list = some found ∧ found.recording ≠ 0
  | .load list file => ∃ found, world.lists list = some found ∧
      (streamerLoad found file (world.loadTurn choice.loads)).lost ≠ []
  | _ => False

section Operations

variable {condition : System → Tid → Choice → Op → Prop} {state : System} {thread : Tid}
  {choice : Choice} {operation : Op} {world : World} {response : operation.Resp}
  {lossless : Prop}

/-- An operation that does not touch frames leaves the nodes of lists alone. -/
theorem Turn.nodesOf_kept (turn : Turn condition state thread choice operation world response)
    (quiet : Part.frames ∉ operation.touches) : world.nodesOf = state.world.nodesOf := by
  funext list
  unfold World.nodesOf
  have new := (numbered turn.reached).lists state.world.nextList (Nat.le_refl _)
  rcases Op.run_lists turn.executed list with
    same | ⟨before, after, step⟩ | ⟨rfl, _⟩ | ⟨_, rfl, _, after⟩ | ⟨_, rfl, after⟩
  · rw [same]
  · rw [before, after]
    cases step with
    | append | next | loaded => simp [Op.touches] at quiet
    | saved taken =>
        obtain ⟨readNode, readIndex, rfl⟩ := flistNext_moves taken
        rfl
    | sought n =>
        obtain ⟨readNode, readIndex, same⟩ := flistSeek_moves _ n
        rw [same]
        rfl
    | stopped | started | shifted | limited => rfl
  · simp [Op.touches] at quiet
  · rw [new, after]
    rfl
  · rw [new, after]
    rfl

/-- What threads carry after an operation. -/
theorem Turn.carried_kept (turn : Turn condition state thread choice operation world response)
    (unmoved : Mark.carried ∉ operation.marks) :
    (fun other => (update state.stage thread
      ((state.stage thread).after operation response) other).carried) =
        fun other => (state.stage other).carried := by
  funext other
  have shares : (state.stage other).Shares _ .carried := turn.shares_update unmoved other
  exact shares

end Operations

namespace World

variable {world next : World} {carried : Tid → Option KcFrame} {lossless : Prop}
  {thread : Tid} {choice : Choice}

/-- `kcStart` empties the slot; a live frame in it is lost. -/
theorem resetState_accounts (accounted : Tallied world carried) :
    Accounts world world.resetState carried carried (world.g.frame = none) := by
  refine .shrink accounted [] rfl (by simp [resetState]) (.refl _) ?_ .nil (by simp) ?_
  · intro place frame has
    cases place with
    | slot => simp [resetState] at has
    | _ => exact has
  · intro empty place frame has
    cases place with
    | slot => simp [empty] at has
    | _ => exact .inr has

/-- The live frame is freed. -/
theorem clearSlot_accounts (accounted : Tallied world carried)
    (slot : next.g.frame = none) (nodes : next.nodesOf = world.nodesOf)
    (arrays : next.arrays = world.arrays) (blocks : next.blocks = world.blocks)
    (freed : next.freed = world.freed ++ world.g.frame.toList.map KcFrame.block) :
    Accounts world next carried carried lossless := by
  refine .shrink accounted world.g.frame.toList blocks freed (arrays ▸ .refl _) ?_ ?_ ?_ ?_
  · intro place frame has
    cases place with
    | slot => simp [slot] at has
    | node list addr => simpa [nodes] using has
    | arrays => simpa [arrays] using has
    | carried other => exact has
  · cases world.g.frame <;> simp
  · intro frame member
    exact ⟨.slot, by simpa using member, by simp [slot]⟩
  · intro _ place frame has
    cases place with
    | slot => exact .inl (by simpa using has)
    | node list addr => exact .inr (by simpa [nodes] using has)
    | arrays => exact .inr (by simpa [arrays] using has)
    | carried other => exact .inr has

/-- A stop with a signal frees the live frame. -/
theorem dropFrame_accounts (accounted : Tallied world carried) :
    Accounts world world.dropFrame carried carried lossless := by
  refine clearSlot_accounts accounted rfl (nodesOf_congr (by simp [dropFrame])) ?_ ?_ ?_ <;>
    (unfold dropFrame detach; split <;> rfl)

/-- A reader carries away the live frame. -/
theorem takeFrame_accounts (accounted : Tallied world carried) (empty : carried thread = none) :
    Accounts world { world with g.frame := none } carried
      (update carried thread world.g.frame) lossless := by
  refine .transfer accounted [] .slot (.carried thread) rfl (by simp) accounted.arrays ?_
    .nil (by simp) ?_
  · intro place frame has
    cases place with
    | slot => cases has
    | node list addr => exact .inr ⟨by simp, has⟩
    | arrays => exact .inr ⟨by simp, has⟩
    | carried other =>
        by_cases same : other = thread
        · subst same
          exact .inl ⟨rfl, by simpa using has⟩
        · exact .inr ⟨by simp, by simpa [same] using has⟩
  · intro _ place frame has
    refine .inr ?_
    cases place with
    | slot => exact ⟨.carried thread, by simpa using has⟩
    | node list addr => exact ⟨.node list addr, has⟩
    | arrays => exact ⟨.arrays, has⟩
    | carried other =>
        by_cases same : other = thread
        · subst same
          simp [empty] at has
        · exact ⟨.carried other, by simpa [same] using has⟩

/-- A thread builds a frame, or copies one. -/
theorem build_accounts (accounted : Tallied world carried) (empty : carried thread = none)
    {frame : KcFrame} (block : frame.block = world.blocks) (slot : next.g.frame = world.g.frame)
    (nodes : next.nodesOf = world.nodesOf) (arrays : next.arrays = world.arrays)
    (blocks : next.blocks = world.blocks + 1) (freed : next.freed = world.freed) :
    Accounts world next carried (update carried thread (some frame)) lossless := by
  refine .make accounted (fun place new => place = .carried thread ∧ new = frame) (by omega) freed
    arrays ?_ ?_ ?_ ?_ ?_
  · intro place new has
    cases place with
    | slot => exact .inl (by simpa [slot] using has)
    | node list addr => exact .inl (by simpa [nodes] using has)
    | arrays => exact .inl (by simpa [arrays] using has)
    | carried other =>
        by_cases same : other = thread
        · subst same
          exact .inr ⟨rfl, by simpa using Eq.symm (by simpa using has)⟩
        · exact .inl (by simpa [same] using has)
  · rintro place new ⟨rfl, rfl⟩
    omega
  · rintro first second new other ⟨rfl, rfl⟩ ⟨rfl, rfl⟩ _
    rfl
  · intro _ place old has
    cases place with
    | slot => exact ⟨.slot, by simpa [slot] using has⟩
    | node list addr => exact ⟨.node list addr, by simpa [nodes] using has⟩
    | arrays => exact ⟨.arrays, by simpa [arrays] using has⟩
    | carried other =>
        by_cases same : other = thread
        · subst same
          simp [empty] at has
        · exact ⟨.carried other, by simpa [same] using has⟩
  · intro _ new beyond bound
    exact ⟨.carried thread, frame, by simp, by omega⟩

/-- A thread puts the frame that it carries into an array. -/
theorem makeArray_accounts (accounted : Tallied world carried) {frame : KcFrame}
    (has : carried thread = some frame) (slot : next.g.frame = world.g.frame)
    (nodes : next.nodesOf = world.nodesOf) (arrays : next.arrays = frame :: world.arrays)
    (blocks : next.blocks = world.blocks) (freed : next.freed = world.freed) :
    Accounts world next carried (update carried thread none) lossless := by
  have unshared : frame.block ∉ world.arrays.map KcFrame.block := by
    intro member
    obtain ⟨other, member, same⟩ := List.mem_map.mp member
    have one : Place.carried thread = Place.arrays := accounted.place has member same.symm
    cases one
  refine .transfer accounted [] (.carried thread) .arrays blocks (by simpa using freed) ?_
    ?_ .nil (by simp) ?_
  · rw [arrays]
    exact List.nodup_cons.mpr ⟨unshared, accounted.arrays⟩
  · intro place other here
    cases place with
    | slot => exact .inr ⟨by simp, by simpa [slot] using here⟩
    | node list addr => exact .inr ⟨by simp, by simpa [nodes] using here⟩
    | arrays =>
        rw [Place.Has, arrays, List.mem_cons] at here
        rcases here with rfl | old
        · exact .inl ⟨rfl, has⟩
        · exact .inr ⟨by simp, old⟩
    | carried holder =>
        by_cases same : holder = thread
        · subst same
          simp at here
        · exact .inr ⟨by simpa using same, by simpa [same] using here⟩
  · intro _ place other here
    refine .inr ?_
    cases place with
    | slot => exact ⟨.slot, by simpa [slot] using here⟩
    | node list addr => exact ⟨.node list addr, by simpa [nodes] using here⟩
    | arrays => exact ⟨.arrays, by simp [arrays, show other ∈ world.arrays from here]⟩
    | carried holder =>
        by_cases same : holder = thread
        · subst same
          rw [Place.Has, has, Option.some.injEq] at here
          exact ⟨.arrays, by simp [arrays, here]⟩
        · exact ⟨.carried holder, by simpa [same] using here⟩

/-- An array is deallocated. -/
theorem freeArray_accounts (accounted : Tallied world carried) {frame : KcFrame}
    (member : frame ∈ world.arrays) :
    Accounts world { world.free [frame] with arrays := world.arrays.erase frame } carried carried
      lossless := by
  have distinct : world.arrays.Nodup := .of_map _ accounted.arrays
  refine .shrink accounted [frame] rfl rfl List.erase_sublist ?_ (by simp) ?_ ?_
  · intro place other has
    cases place with
    | arrays => exact List.mem_of_mem_erase has
    | _ => exact has
  · rintro freed among
    obtain rfl := List.mem_singleton.mp among
    refine ⟨.arrays, member, fun other has same => ?_⟩
    have has : other ∈ world.arrays.erase freed := has
    obtain rfl := List.inj_on_of_nodup_map accounted.arrays (List.mem_of_mem_erase has) member same
    exact distinct.not_mem_erase has
  · intro _ place other has
    cases place with
    | arrays =>
        by_cases same : other = frame
        · exact .inl (by simp [same])
        · exact .inr ((List.mem_erase_of_ne same).mpr has)
    | _ => exact .inr has

/-- A list is cleared and freed. -/
theorem freeRecord_accounts (accounted : Tallied world carried) {list : ListId}
    {found : FrameList} {cells : List Cell} (live : world.lists list = some found)
    (shape : Chained found cells) (sound : (world.freeRecord list).fault = none) :
    Accounts world (world.freeRecord list) carried carried lossless := by
  cases cleared : flistClear found with
  | none => simp [freeRecord, live, cleared, fail] at sound
  | some result =>
      obtain ⟨nodes, value, _⟩ := flistClear_eq (shape.segment_of_clear cleared) shape.length_le
      rw [value, Option.some.injEq] at cleared
      subst cleared
      have after : world.freeRecord list =
          { world.free (framesOf cells) with
            lists := update world.lists list none
            freedLists := list :: world.freedLists } := by
        simp [freeRecord, live, value]
      have gone (addr : Addr) : (world.freeRecord list).nodesOf list addr = none := by
        simp [after, nodesOf, Store.empty]
      have kept {other : ListId} (different : other ≠ list) :
          (world.freeRecord list).nodesOf other = world.nodesOf other := by
        simp [after, nodesOf, different]
      refine .shrink accounted (framesOf cells) (by rw [after]; rfl) (by rw [after]; rfl)
        (by rw [after]; exact .refl _) ?_ (accounted.cells_nodup live shape) ?_ ?_
      · intro place frame has
        cases place with
        | node other addr =>
            by_cases same : other = list
            · subst same
              simp [gone] at has
            · simpa [kept same] using has
        | slot | arrays => simpa [after, free] using has
        | carried holder => exact has
      · intro frame member
        obtain ⟨⟨addr, data⟩, inside, rfl⟩ := List.mem_map.mp member
        refine ⟨.node list addr, ?_, by simp [gone]⟩
        rw [Place.Has, nodesOf_eq live]
        exact shape.mem_iff.mpr inside
      · intro _ place frame has
        cases place with
        | node other addr =>
            by_cases same : other = list
            · subst same
              rw [Place.Has, nodesOf_eq live, shape.mem_iff] at has
              exact .inl (List.mem_map.mpr ⟨_, has, rfl⟩)
            · exact .inr (by simpa [kept same] using has)
        | slot | arrays => exact .inr (by simpa [after, free] using has)
        | carried holder => exact .inr has

/-- A list that has ended tosses the frame. -/
theorem toss_accounts (accounted : Tallied world carried) {frame : KcFrame}
    (has : carried thread = some frame) (slot : next.g.frame = world.g.frame)
    (nodes : next.nodesOf = world.nodesOf) (arrays : next.arrays = world.arrays)
    (blocks : next.blocks = world.blocks) (freed : next.freed = world.freed ++ [frame.block]) :
    Accounts world next carried (update carried thread none) lossless := by
  refine .shrink accounted [frame] blocks freed (arrays ▸ .refl _) ?_ (by simp) ?_ ?_
  · intro place other here
    cases place with
    | slot => simpa [slot] using here
    | node list addr => simpa [nodes] using here
    | arrays => simpa [arrays] using here
    | carried holder =>
        by_cases same : holder = thread
        · subst same
          simp at here
        · simpa [same] using here
  · intro other member
    obtain rfl := List.mem_singleton.mp member
    exact ⟨.carried thread, has, by simp⟩
  · intro _ place other here
    cases place with
    | slot => exact .inr (by simpa [slot] using here)
    | node list addr => exact .inr (by simpa [nodes] using here)
    | arrays => exact .inr (by simpa [arrays] using here)
    | carried holder =>
        by_cases same : holder = thread
        · subst same
          rw [Place.Has, has, Option.some.injEq] at here
          exact .inl (by simp [here])
        · exact .inr (by simpa [same] using here)

/-- Nodes at the front of a list are freed, and the frame that was to be appended is lost. -/
theorem lose_accounts (accounted : Tallied world carried) {list : ListId}
    {found after : FrameList} {cells : List Cell} {count : Nat}
    (live : world.lists list = some found) (shape : Chained found cells)
    (kept : Chained after (cells.drop count)) (slot : next.g.frame = world.g.frame)
    (lists : next.lists = update world.lists list (some after))
    (arrays : next.arrays = world.arrays) (blocks : next.blocks = world.blocks)
    (freed : next.freed = world.freed ++ (framesOf (cells.take count)).map KcFrame.block) :
    Accounts world next carried (update carried thread none) False := by
  have nodes := nodesOf_update lists
  refine .shrink accounted (framesOf (cells.take count)) blocks freed (arrays ▸ .refl _) ?_ ?_
    ?_ False.elim
  · intro place frame here
    cases place with
    | slot => simpa [slot] using here
    | arrays => simpa [arrays] using here
    | node other addr =>
        by_cases same : other = list
        · subst same
          rw [Place.Has, nodes, Function.update_self, kept.mem_iff] at here
          rw [Place.Has, nodesOf_eq live, shape.mem_iff]
          exact List.mem_of_mem_drop here
        · simpa [nodes, same] using here
    | carried holder =>
        by_cases same : holder = thread
        · subst same
          simp at here
        · simpa [same] using here
  · exact (accounted.cells_nodup live shape).sublist (((List.take_sublist _ _).map _).map _)
  · intro frame member
    obtain ⟨⟨addr, data⟩, inside, rfl⟩ := List.mem_map.mp member
    refine ⟨.node list addr, ?_, fun other here => ?_⟩
    · rw [Place.Has, nodesOf_eq live, shape.mem_iff]
      exact List.mem_of_mem_take inside
    · rw [Place.Has, nodes, Function.update_self, kept.mem_iff] at here
      exact (shape.apart inside here).elim

/-- Nodes at the front of a list are freed, and the frame that a thread carries comes to the
end of it. -/
theorem link_accounts (accounted : Tallied world carried) {list : ListId}
    {found after : FrameList} {cells : List Cell} {count : Nat} {frame : KcFrame} {addr : Addr}
    (live : world.lists list = some found) (shape : Chained found cells)
    (kept : Chained after (cells.drop count ++ [(addr, frame)]))
    (has : carried thread = some frame) (slot : next.g.frame = world.g.frame)
    (lists : next.lists = update world.lists list (some after))
    (arrays : next.arrays = world.arrays) (blocks : next.blocks = world.blocks)
    (freed : next.freed = world.freed ++ (framesOf (cells.take count)).map KcFrame.block) :
    Accounts world next carried (update carried thread none) lossless := by
  have nodes := nodesOf_update lists
  refine .transfer accounted (framesOf (cells.take count)) (.carried thread)
    (.node list addr) blocks freed (arrays ▸ accounted.arrays) ?_ ?_ ?_ ?_
  · intro place other here
    cases place with
    | slot => exact .inr ⟨by simp, by simpa [slot] using here⟩
    | arrays => exact .inr ⟨by simp, by simpa [arrays] using here⟩
    | node home place =>
        by_cases same : home = list
        · subst same
          rw [Place.Has, nodes, Function.update_self, kept.mem_iff, List.mem_append] at here
          rcases here with old | new
          · refine .inr ⟨by simp, ?_⟩
            rw [Place.Has, nodesOf_eq live, shape.mem_iff]
            exact List.mem_of_mem_drop old
          · cases List.mem_singleton.mp new
            exact .inl ⟨rfl, has⟩
        · exact .inr ⟨by simp, by simpa [nodes, same] using here⟩
    | carried holder =>
        by_cases same : holder = thread
        · subst same
          simp at here
        · exact .inr ⟨by simpa using same, by simpa [same] using here⟩
  · exact (accounted.cells_nodup live shape).sublist (((List.take_sublist _ _).map _).map _)
  · intro dropped member
    obtain ⟨⟨place, data⟩, inside, rfl⟩ := List.mem_map.mp member
    refine ⟨.node list place, by simp, ?_, fun other here _ => ?_⟩
    · rw [Place.Has, nodesOf_eq live, shape.mem_iff]
      exact List.mem_of_mem_take inside
    · rw [Place.Has, nodes, Function.update_self, kept.mem_iff, List.mem_append] at here
      rcases here with old | new
      · exact (shape.apart inside old).elim
      · cases List.mem_singleton.mp new
        exact ⟨rfl, has⟩
  · intro _ place other here
    cases place with
    | slot => exact .inr ⟨.slot, by simpa [slot] using here⟩
    | arrays => exact .inr ⟨.arrays, by simpa [arrays] using here⟩
    | node home place =>
        by_cases same : home = list
        · subst same
          rw [Place.Has, nodesOf_eq live, shape.mem_iff, ← List.take_append_drop count cells,
            List.mem_append] at here
          rcases here with dropped | stays
          · exact .inl (List.mem_map.mpr ⟨_, dropped, rfl⟩)
          · refine .inr ⟨.node home place, ?_⟩
            rw [Place.Has, nodes, Function.update_self, kept.mem_iff]
            exact List.mem_append_left _ stays
        · exact .inr ⟨.node home place, by simpa [nodes, same] using here⟩
    | carried holder =>
        by_cases same : holder = thread
        · subst same
          rw [Place.Has, has, Option.some.injEq] at here
          refine .inr ⟨.node list addr, ?_⟩
          rw [Place.Has, nodes, Function.update_self, kept.mem_iff, here]
          exact List.mem_append_right _ (by simp)
        · exact .inr ⟨.carried holder, by simpa [same] using here⟩

/-- Every outcome of an append: kept, tossed, or lost for want of a node. -/
theorem append_accounts (accounted : Tallied world carried) {list : ListId} {frame : KcFrame}
    {node : Option Addr} {status : Int} (executed : world.append list frame node = some (next, status))
    (has : carried thread = some frame) (sound : next.fault = none)
    (chained : ∀ found, world.lists list = some found → ∃ cells, Chained found cells) :
    Accounts world next carried (update carried thread none)
      ¬(node = none ∧ ∃ found, world.lists list = some found ∧ found.recording ≠ 0) := by
  rcases append_cases executed with ⟨⟨fault, rfl⟩, _⟩ | ⟨found, _, live, available, _, value⟩
  · cases sound
  obtain ⟨cells, shape⟩ := chained found live
  let result := flistAppend found frame node
  have slot : next.g.frame = world.g.frame := by rw [value]; split <;> rfl
  have lists : next.lists = update world.lists list (some result.list) := by
    rw [value]
    split <;> rfl
  have arrays : next.arrays = world.arrays := by rw [value]; split <;> rfl
  have blocks : next.blocks = world.blocks := by rw [value]; split <;> rfl
  have freed : next.freed = world.freed ++ result.freed.map KcFrame.block := by
    rw [value]
    split <;> rfl
  by_cases active : found.recording = 0
  · have tossed : result = ⟨found, [frame], 0⟩ := by simp [result, flistAppend, active]
    rw [tossed] at lists freed
    refine toss_accounts accounted has slot ?_ arrays blocks freed
    rw [nodesOf_update lists, ← nodesOf_eq live, Function.update_eq_self]
  · cases node with
    | none =>
        have seeded : Chained (found.setStart frame) cells := shape.congr rfl rfl rfl rfl
        obtain ⟨kept, dropped, _⟩ := preRoll_spec seeded frame
        have failed : result = ⟨(preRoll (found.setStart frame) frame).1,
            (preRoll (found.setStart frame) frame).2, -2⟩ := by
          simp [result, flistAppend, active]
        rw [failed] at lists freed
        rw [dropped] at freed
        refine (lose_accounts accounted live shape kept slot lists arrays blocks freed).imp ?_
        exact fun retained => retained ⟨rfl, found, live, active⟩
    | some addr =>
        have spec := flistAppend_spec frame shape active (available addr rfl)
        exact link_accounts accounted live shape spec.shape.toChained has slot lists arrays blocks
          (freed.trans (by rw [← spec.freed]))

/-- `streamer_load` puts new frames into nodes of its list. -/
theorem load_accounts (accounted : Tallied world carried) {list : ListId}
    {file : Option (List UInt8)} {loads : Nat → Bool × Bool × Bool}
    (live : world.lists list = some (flistInit 0 0)) :
    Accounts world (world.load list file loads).1 carried carried
      ((streamerLoad (flistInit 0 0) file (world.loadTurn loads)).lost = []) := by
  obtain ⟨last, cells, numbers⟩ := streamerLoad_numbers world loads file
  let loaded := streamerLoad (flistInit 0 0) file (world.loadTurn loads)
  have value : (world.load list file loads).1 =
      { world.setList list loaded.list with
        blocks := world.blocks + loaded.list.len.toNat + loaded.lost.length } := by
    simp [load, live, loaded]
  have blocks : (world.load list file loads).1.blocks = world.blocks + last := by
    rw [value, ← numbers.counted, ← numbers.shape.len]
    exact Nat.add_assoc _ _ _
  have nodes : (world.load list file loads).1.nodesOf = update world.nodesOf list loaded.list.nodes :=
    nodesOf_update (by rw [value]; rfl)
  have unused (addr : Addr) : world.nodesOf list addr = none := by
    rw [nodesOf_eq live]
    rfl
  refine .make accounted (fun place frame => ∃ addr, place = .node list addr ∧ (addr, frame) ∈ cells)
    (by omega) (by rw [value]; rfl) (by rw [value]; rfl) ?_ ?_ ?_ ?_ ?_
  · intro place frame has
    cases place with
    | node other addr =>
        by_cases same : other = list
        · subst same
          rw [Place.Has, nodes, Function.update_self, numbers.shape.mem_iff] at has
          exact .inr ⟨addr, rfl, has⟩
        · exact .inl (by simpa [nodes, same] using has)
    | slot | arrays => exact .inl (by simpa [value, setList] using has)
    | carried holder => exact .inl has
  · rintro place frame ⟨addr, rfl, member⟩
    obtain ⟨block, bound⟩ := numbers.placed _ member
    simp only at block bound
    omega
  · rintro first second frame other ⟨addr, rfl, member⟩ ⟨addr', rfl, member'⟩ same
    have block := (numbers.placed _ member).1
    have block' := (numbers.placed _ member').1
    simp only at block block'
    rw [Fin.val_inj.mp (show addr.val = addr'.val by omega)]
  · intro _ place frame has
    cases place with
    | node other addr =>
        by_cases same : other = list
        · subst same
          simp [unused] at has
        · exact ⟨.node other addr, by simpa [nodes, same] using has⟩
    | slot => exact ⟨.slot, by simpa [value, setList] using has⟩
    | arrays => exact ⟨.arrays, by simpa [value, setList] using has⟩
    | carried holder => exact ⟨.carried holder, has⟩
  · intro none block beyond bound
    rcases numbers.covered (block - world.blocks) (by omega) with
      ⟨⟨addr, frame⟩, member, now⟩ | ⟨frame, member, _⟩
    · refine ⟨.node list addr, frame, ?_, ?_⟩
      · rw [Place.Has, nodes, Function.update_self, numbers.shape.mem_iff]
        exact member
      · have own := (numbers.placed _ member).1
        simp only at own now
        omega
    · rw [none] at member
      cases member

/-! ## kcFrameData -/

/-- A live frame that has expired is freed. -/
theorem expire_accounts (accounted : Tallied world carried) (sound : world.expire.fault = none) :
    Accounts world world.expire carried carried lossless := by
  have same : Accounts world world carried carried lossless := .same accounted rfl rfl rfl rfl rfl
  unfold expire at sound ⊢
  split
  · rename_i frame _ slot
    split
    · rename_i lost
      simp [fail, *] at sound
    · split
      · exact clearSlot_accounts accounted rfl rfl rfl rfl (by simp [free, slot])
      · exact same
  · exact same

/-- Getting ready for a capture frees at most the live frame. -/
theorem readied_accounts (accounted : Tallied world carried) (capture : Capture)
    (sound : (world.readied capture).fault = none) :
    Accounts world (world.readied capture) carried carried lossless := by
  let measured := ({ world with captured := capture.pts }.shiftPts capture.pts).measure
  obtain ⟨slot, arrays, blocks, freed⟩ : Agree _ measured .frames := measure_agree _ (by simp)
  have lists : Agree _ measured .lists := measure_agree _ (by simp)
  have unchanged : Accounts world measured carried carried lossless :=
    .same accounted slot (nodesOf_congr lists.1) arrays blocks freed
  exact unchanged.trans (expire_accounts unchanged.accounted sound)

/-- A new frame comes to `m_frame`, which was empty. -/
theorem store_accounts (accounted : Tallied world carried) (empty : world.g.frame = none)
    {frame : KcFrame} (block : frame.block = world.blocks) :
    Accounts world { world with blocks := world.blocks + 1, g.frame := some frame } carried carried
      lossless := by
  refine .make accounted (fun place new => place = .slot ∧ new = frame) (Nat.le_succ _) rfl rfl ?_ ?_
    ?_ ?_ ?_
  · intro place new has
    cases place with
    | slot => exact .inr ⟨rfl, (Option.some.inj has).symm⟩
    | _ => exact .inl has
  · rintro place new ⟨rfl, rfl⟩
    rw [block]
    exact ⟨Nat.le_refl _, Nat.lt_succ_self _⟩
  · rintro first second new other ⟨rfl, rfl⟩ ⟨rfl, rfl⟩ _
    rfl
  · intro _ place old has
    cases place with
    | slot => simp [empty] at has
    | node list addr => exact ⟨.node list addr, has⟩
    | arrays => exact ⟨.arrays, has⟩
    | carried holder => exact ⟨.carried holder, has⟩
  · intro _ new beyond bound
    refine ⟨.slot, frame, rfl, ?_⟩
    simp only at bound
    omega

/-- The frame that a video thread carries after `kcFrameData` has looked at a capture. -/
@[simp] def carriedBy (old : Option KcFrame) : Begun → Option KcFrame
  | .recording _ frame => some frame
  | _ => old

/-- The video thread carries the new frame, or it is the live one. -/
theorem beginFrame_accounts (accounted : Tallied world carried) (empty : carried thread = none)
    (capture : Capture) (now : UInt32) (allocates : Bool)
    (sound : (world.beginFrame capture now allocates).1.fault = none) :
    Accounts world (world.beginFrame capture now allocates).1 carried
      (update carried thread (carriedBy none (world.beginFrame capture now allocates).2))
      lossless := by
  have idle : update carried thread none = carried := by rw [← empty, Function.update_eq_self]
  have ready (sound : (world.readied capture).fault = none) :
      Accounts world (world.readied capture) carried carried lossless :=
    readied_accounts accounted capture sound
  rcases world.beginFrame_cases capture now allocates with
    ⟨_, value⟩ | ⟨_, value⟩ | ⟨_, value⟩ | ⟨list, _, value⟩ | ⟨_, slot, value⟩ <;>
    rw [value] at sound ⊢ <;> simp only [carriedBy] <;> try rw [idle]
  · exact .same accounted rfl rfl rfl rfl rfl
  · exact ready sound
  · exact ready sound
  · have taken := ready sound
    exact taken.trans (build_accounts taken.accounted empty rfl rfl rfl rfl rfl rfl)
  · have taken := ready sound
    exact taken.trans (store_accounts taken.accounted slot rfl)

/-! ## streamer.c -/

/-- A copy is a new block that the thread carries. -/
theorem copyFrame_accounts (accounted : Tallied world carried) (empty : carried thread = none)
    (frame : KcFrame) (allocates : Bool) (sound : (world.copyFrame frame allocates).1.fault = none) :
    Accounts world (world.copyFrame frame allocates).1 carried
      (update carried thread (some (world.copyFrame frame allocates).2)) lossless := by
  unfold copyFrame at sound ⊢
  split at sound
  · rw [if_pos (by assumption)]
    exact build_accounts accounted empty rfl rfl rfl rfl rfl rfl
  · cases sound

/-- A reader carries a copy of the frame that it reads. -/
theorem next_accounts (accounted : Tallied world carried) (empty : carried thread = none)
    (list : ListId) (allocates : Bool) (sound : (world.next list allocates).1.fault = none) :
    Accounts world (world.next list allocates).1 carried
      (update carried thread (world.next list allocates).2) lossless := by
  have idle : update carried thread none = carried := by rw [← empty, Function.update_eq_self]
  cases live : world.lists list with
  | none => simp [World.next, live, fail] at sound
  | some found =>
      cases taken : flistNext found with
      | none => simp [World.next, live, taken, fail] at sound
      | some result =>
          obtain ⟨moved, frame⟩ := result
          have nodes : (world.setList list moved).nodesOf = world.nodesOf := by
            obtain ⟨readNode, readIndex, same⟩ := flistNext_moves taken
            have updated : (world.setList list moved).nodesOf =
                update world.nodesOf list moved.nodes := nodesOf_update rfl
            rw [updated, same, ← nodesOf_eq live, Function.update_eq_self]
          have read : Accounts world (world.setList list moved) carried carried lossless :=
            .same accounted rfl nodes rfl rfl rfl
          cases frame with
          | none =>
              have value : world.next list allocates =
                  ((world.setList list moved).note list .noFrame, none) := by
                simp [World.next, live, taken]
              rw [value, idle]
              exact .same accounted rfl nodes rfl rfl rfl
          | some frame =>
              have value : world.next list allocates =
                  (((world.setList list moved).copyFrame frame allocates).1,
                    some ((world.setList list moved).copyFrame frame allocates).2) := by
                simp [World.next, live, taken]
              rw [value] at sound ⊢
              exact read.trans (copyFrame_accounts read.accounted empty frame allocates sound)

/-- A reader carries a copy of the last frame. -/
theorem copyBack_accounts (accounted : Tallied world carried) (empty : carried thread = none)
    (list : ListId) (allocates : Bool) (sound : (world.copyBack list allocates).1.fault = none) :
    Accounts world (world.copyBack list allocates).1 carried
      (update carried thread (some (world.copyBack list allocates).2)) lossless := by
  cases live : world.lists list with
  | none => simp [copyBack, live, fail] at sound
  | some found =>
      cases back : found.back with
      | none => simp [copyBack, live, back, fail] at sound
      | some addr =>
          cases occupied : found.nodes addr with
          | none => simp [copyBack, live, back, occupied, fail] at sound
          | some node =>
              have value : world.copyBack list allocates = world.copyFrame node.data allocates := by
                simp [copyBack, live, back, occupied]
              rw [value] at sound ⊢
              exact copyFrame_accounts accounted empty node.data allocates sound

/-- The carried frame goes to an array. -/
theorem makeArray_run (accounted : Tallied world carried) {streamer : StreamerId}
    {frame : KcFrame} {bytes : Bool} (has : carried thread = some frame)
    (sound : (world.makeArray streamer frame bytes).1.fault = none) :
    Accounts world (world.makeArray streamer frame bytes).1 carried (update carried thread none)
      lossless := by
  cases live : world.streamers streamer with
  | none => simp [makeArray, live, fail] at sound
  | some found =>
      cases bytes with
      | true => simp [makeArray, live, fail] at sound
      | false =>
          cases bound : found.record with
          | none =>
              have value : (world.makeArray streamer frame false).1 =
                  { world with arrays := frame :: world.arrays }.setStreamer streamer
                    { found with index := found.index + 1 } := by
                simp [makeArray, live, bound]
              rw [value]
              exact makeArray_accounts accounted has rfl rfl rfl rfl rfl
          | some list =>
              have value : (world.makeArray streamer frame false).1 =
                  { world with arrays := frame :: world.arrays }.note list
                    (.returned found.index frame) := by
                simp [makeArray, live, bound]
              rw [value]
              exact makeArray_accounts accounted has rfl rfl rfl rfl rfl

end World

/-! ## Runs -/

section Runs

variable {condition : System → Tid → Choice → Op → Prop} {state : System} {thread : Tid}
  {choice : Choice} {operation : Op} {world : World} {response : operation.Resp}

/-- The frames that the threads carry. -/
def carriedOf (stages : Tid → Stage) (thread : Tid) : Option KcFrame := (stages thread).carried

/-- Only the thread that moves carries another frame. -/
theorem carriedOf_update (stages : Tid → Stage) (thread : Tid) (stage : Stage) :
    carriedOf (update stages thread stage) = update (carriedOf stages) thread stage.carried := by
  funext other
  by_cases same : other = thread
  · subst same
    simp [carriedOf]
  · simp [carriedOf, same]

/-- The answer of an operation that always goes on. -/
theorem response_eq {Response : Type} {result : World × Response} {next : World}
    {response : Response} (executed : some result = some (next, response)) :
    response = result.2 := (congrArg Prod.snd (Option.some.inj executed)).symm

/-- What an operation does to the ledger. -/
theorem Turn.accounts (turn : Turn condition state thread choice operation world response)
    (sound : world.fault = none) (accounted : Tallied state.world (carriedOf state.stage)) :
    Accounts state.world world (carriedOf state.stage)
      (carriedOf (update state.stage thread ((state.stage thread).after operation response)))
      ¬operation.forgets choice state.world := by
  have allowed := turn.allowed
  have executed := turn.executed
  have chained := (shaped turn.reached).chained
  have unmoved (unmarked : Mark.carried ∉ operation.marks) :
      carriedOf (update state.stage thread ((state.stage thread).after operation response)) =
        carriedOf state.stage := turn.carried_kept unmarked
  by_cases touched : Part.frames ∈ operation.touches
  · cases operation with
    | resetState =>
        rw [unmoved (by simp [Op.marks]), result_eq executed]
        exact (World.resetState_accounts accounted).imp (by simp [Op.forgets])
    | dropFrame =>
        rw [unmoved (by simp [Op.marks]), result_eq executed]
        exact World.dropFrame_accounts accounted
    | freeArray frame =>
        rw [unmoved (by simp [Op.marks]), result_eq executed]
        exact World.freeArray_accounts accounted turn.freeArray_mem
    | freeRecord list =>
        rw [unmoved (by simp [Op.marks])]
        rw [result_eq executed] at sound ⊢
        cases live : state.world.lists list with
        | none => simp [World.freeRecord, live, World.fail] at sound
        | some found =>
            obtain ⟨cells, shape⟩ := chained list found live
            exact World.freeRecord_accounts accounted live shape sound
    | load list file =>
        rw [unmoved (by simp [Op.marks])]
        rw [result_eq executed] at sound ⊢
        cases live : state.world.lists list with
        | none => simp [World.load, live, World.fail] at sound
        | some found =>
            obtain rfl := unfilled turn.reached thread list found allowed.2.2.2 live
            refine (World.load_accounts accounted live).imp ?_
            simp [Op.forgets, live]
    | takeFrame =>
        obtain ⟨_, _, _, empty⟩ := allowed
        cases executed
        rw [carriedOf_update]
        exact World.takeFrame_accounts accounted empty
    | copyBack list =>
        have empty := allowed.2.2.2.2.1
        rw [result_eq executed] at sound ⊢
        rw [carriedOf_update, response_eq executed]
        exact World.copyBack_accounts accounted empty list choice.allocates sound
    | next list =>
        have empty := allowed.2.2.2.2.2.2.2
        rw [result_eq executed] at sound ⊢
        rw [carriedOf_update, response_eq executed]
        exact World.next_accounts accounted empty list choice.allocates sound
    | makeArray streamer frame bytes =>
        have has := allowed.2.2.2.1
        rw [result_eq executed] at sound ⊢
        rw [carriedOf_update]
        exact World.makeArray_run accounted has sound
    | append list frame =>
        have has := allowed.2.2.1
        rw [carriedOf_update]
        exact World.append_accounts accounted executed has sound (chained list)
    | beginFrame capture =>
        have empty : carriedOf state.stage thread = none := by
          rw [carriedOf, allowed.2.2]
        have carries : ((state.stage thread).after (.beginFrame capture) response).carried =
            World.carriedBy none response := by
          cases response <;> first | rfl | exact empty
        rw [result_eq executed] at sound ⊢
        rw [carriedOf_update, carries, response_eq executed]
        exact World.beginFrame_accounts accounted empty capture choice.now choice.allocates sound
    | _ => simp [Op.touches] at touched
  · have quiet : Mark.carried ∉ operation.marks := by
      cases operation <;> simp_all [Op.touches, Op.marks]
    obtain ⟨slot, arrays, blocks, freed⟩ : Agree state.world world .frames :=
      Op.run_agree executed touched
    rw [unmoved quiet]
    exact .same accounted slot (turn.nodesOf_kept touched) arrays blocks freed

end Runs

end KCamera
