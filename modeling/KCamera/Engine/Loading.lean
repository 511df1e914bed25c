import KCamera.Engine.Shapes
import KCamera.FrameList.FailedAppend

/-!
# Loading files

The list that `streamer_load` fills is as `flistInit` left it: only the thread that
made it knows it. So every record takes one block for its frame, and the block is in
the list afterwards or lost.
-/

namespace KCamera

open Machine Heap

open Function (update)

/-! ## The blocks of a file -/

/-- A list after `turn` records, and the frames that were lost: each turn's block is
in a node of its own or in a lost frame. -/
structure Numbers (base turn : Nat) (list : FrameList) (cells : List Cell)
    (lost : List KcFrame) : Prop where
  shape : Chained list cells
  recording : list.recording = 1
  startShift : list.startShift = 0
  duration : list.duration = 0
  placed : ∀ cell ∈ cells, cell.2.block = base + cell.1.val ∧ cell.1.val < turn
  covered : ∀ earlier < turn, (∃ cell ∈ cells, cell.1.val = earlier) ∨
    ∃ frame ∈ lost, frame.block = base + earlier
  counted : cells.length + lost.length = turn

section

variable {base turn : Nat} {list : FrameList} {cells : List Cell} {lost : List KcFrame}

/-- A frame that is not put into the list. -/
theorem Numbers.lose (numbers : Numbers base turn list cells lost) {frame : KcFrame}
    (block : frame.block = base + turn) : Numbers base (turn + 1) list cells (frame :: lost) where
  shape := numbers.shape
  recording := numbers.recording
  startShift := numbers.startShift
  duration := numbers.duration
  placed cell member := by
    obtain ⟨same, earlier⟩ := numbers.placed cell member
    exact ⟨same, by omega⟩
  covered earlier bound := by
    by_cases now : earlier = turn
    · exact .inr ⟨frame, List.mem_cons_self, by rw [block, now]⟩
    · rcases numbers.covered earlier (by omega) with placed | ⟨other, member, same⟩
      · exact .inl placed
      · exact .inr ⟨other, List.mem_cons_of_mem _ member, same⟩
  counted := by
    have counted := numbers.counted
    simp only [List.length_cons]
    omega

/-- A frame for which there is no node changes `m_t0` at most. -/
theorem Numbers.append_none (numbers : Numbers base turn list cells lost) {frame : KcFrame}
    (block : frame.block = base + turn) :
    (flistAppend list frame none).status = -2 ∧
      Numbers base (turn + 1) (flistAppend list frame none).list cells (frame :: lost) := by
  have active : list.recording ≠ 0 := by simp [numbers.recording]
  obtain ⟨status, after⟩ := flistAppend_none active frame
  refine ⟨status, ?_⟩
  have same : (preRoll (list.setStart frame) frame).1 = list.setStart frame := by
    simp [preRoll, FrameList.setStart, numbers.startShift]
  rw [after, same]
  have lose := numbers.lose block
  exact ⟨lose.shape.congr rfl rfl rfl rfl, lose.recording, lose.startShift, lose.duration,
    lose.placed, lose.covered, lose.counted⟩

/-- A frame whose node has the number of its turn. -/
theorem Numbers.append_some (numbers : Numbers base turn list cells lost) {frame : KcFrame}
    {node : Addr} (block : frame.block = base + turn) (now : node.val = turn) :
    (flistAppend list frame (some node)).status = 0 ∧
      Numbers base (turn + 1) (flistAppend list frame (some node)).list
        (cells ++ [(node, frame)]) lost := by
  have fresh : Available list frame node := by
    have unrolled : preRoll (list.setStart frame) frame = (list.setStart frame, []) := by
      simp [preRoll, FrameList.setStart, numbers.startShift]
    unfold Available
    rw [unrolled]
    by_contra live
    obtain ⟨cell, member, same⟩ := List.mem_map.mp (numbers.shape.only node live)
    have earlier := (numbers.placed cell member).2
    rw [same] at earlier
    omega
  have spec := flistAppend_spec frame numbers.shape (by simp [numbers.recording]) fresh
  have kept : appendedCells list cells frame node = cells ++ [(node, frame)] := by
    simp [appendedCells, discarded, numbers.recording]
  have unlimited : limitReached list.duration (appendedCells list cells frame node) frame = false := by
    simp [limitReached, numbers.duration]
  have mode : modeAfter list frame = 1 := by simp [modeAfter, numbers.recording]
  refine ⟨by rw [spec.status, unlimited]; rfl, ?_⟩
  constructor
  · exact kept ▸ spec.shape.toChained
  · rw [spec.recording, unlimited, mode]
    rfl
  · rw [spec.startShift, numbers.startShift]
  · rw [spec.duration, numbers.duration]
  · intro cell member
    rcases List.mem_append.mp member with old | new
    · obtain ⟨same, earlier⟩ := numbers.placed cell old
      exact ⟨same, by omega⟩
    · rw [List.mem_singleton.mp new]
      exact ⟨by rw [block, now], by simp [now]⟩
  · intro earlier bound
    by_cases last : earlier = turn
    · exact .inl ⟨(node, frame), by simp, by simp [now, last]⟩
    · rcases numbers.covered earlier (by omega) with ⟨cell, member, same⟩ | missing
      · exact .inl ⟨cell, List.mem_append_left _ member, same⟩
      · exact .inr missing
  · have counted := numbers.counted
    simp only [List.length_append, List.length_singleton]
    omega

/-- The order in which frames are lost does not matter. -/
theorem Numbers.perm {lost' : List KcFrame} (numbers : Numbers base turn list cells lost)
    (same : lost.Perm lost') : Numbers base turn list cells lost' where
  shape := numbers.shape
  recording := numbers.recording
  startShift := numbers.startShift
  duration := numbers.duration
  placed := numbers.placed
  covered earlier bound := by
    rcases numbers.covered earlier bound with placed | ⟨frame, member, block⟩
    · exact .inl placed
    · exact .inr ⟨frame, same.mem_iff.mp member, block⟩
  counted := by rw [← same.length_eq, numbers.counted]

/-- What a turn's allocations are called. -/
theorem World.loadTurn_block (world : World) (loads : Nat → Bool × Bool × Bool) {turn block : Nat}
    (found : (world.loadTurn loads turn).block = some block) : block = world.blocks + turn := by
  simp only [World.loadTurn] at found
  split at found
  · exact (Option.some.inj found).symm
  · cases found

/-- The nodes of a file's records are numbered. -/
theorem World.loadTurn_node (world : World) (loads : Nat → Bool × Bool × Bool) {turn : Nat}
    {node : Addr} (found : (world.loadTurn loads turn).node = some node) : node.val = turn := by
  simp only [World.loadTurn] at found
  split at found
  · rename_i room
    cases found
    simpa using Nat.mod_eq_of_lt room.2
  · cases found

/-- The loop of `streamer_load` with the allocations of a world. -/
theorem Numbers.load (world : World) (loads : Nat → Bool × Bool × Bool) (bytes : List UInt8)
    (numbers : Numbers world.blocks turn list cells lost) :
    let loaded := loadLoop (world.loadTurn loads) turn list bytes
    ∃ last cells', Numbers world.blocks last loaded.list cells' (loaded.lost ++ lost) := by
  dsimp only
  fun_induction loadLoop (world.loadTurn loads) turn list bytes generalizing cells lost with
  | case1 | case2 | case3 | case4 | case5 => exact ⟨_, _, numbers⟩
  | case6 turn list bytes _ _ _ _ block found size =>
      exact ⟨_, _, numbers.lose (world.loadTurn_block loads found)⟩
  | case7 turn list bytes _ _ _ _ block found size frame _ appended loaded =>
      rename_i failed ih
      have own : frame.block = world.blocks + turn := world.loadTurn_block loads found
      cases placed : (world.loadTurn loads turn).node with
      | none =>
          obtain ⟨_, lose⟩ := numbers.append_none own
          have stay : Numbers world.blocks (turn + 1) appended.list cells (frame :: lost) := by
            simpa only [appended, placed] using lose
          obtain ⟨last, cells', numbers'⟩ := ih stay
          exact ⟨last, cells', numbers'.perm List.perm_middle⟩
      | some node =>
          obtain ⟨status, _⟩ := numbers.append_some own (world.loadTurn_node loads placed)
          have ended : appended.status = 0 := by simpa only [appended, placed] using status
          rw [ended] at failed
          cases failed
  | case8 turn list bytes _ _ _ _ block found size frame _ appended loaded =>
      rename_i stored ih
      have own : frame.block = world.blocks + turn := world.loadTurn_block loads found
      cases placed : (world.loadTurn loads turn).node with
      | none =>
          obtain ⟨status, _⟩ := numbers.append_none own
          exact absurd (by simpa only [appended, placed] using status) stored
      | some node =>
          obtain ⟨_, add⟩ := numbers.append_some own (world.loadTurn_node loads placed)
          have added : Numbers world.blocks (turn + 1) appended.list (cells ++ [(node, frame)])
              lost := by
            simpa only [appended, placed] using add
          exact ih added

/-- What `streamer_load` does with the blocks that it allocates. -/
theorem streamerLoad_numbers (world : World) (loads : Nat → Bool × Bool × Bool)
    (file : Option (List UInt8)) :
    let loaded := streamerLoad (flistInit 0 0) file (world.loadTurn loads)
    ∃ last cells, Numbers world.blocks last loaded.list cells loaded.lost := by
  have start : Numbers world.blocks 0 (flistInit 0 0) [] [] := by
    constructor
    · exact (flistInit_anchored 0 0).toChained
    all_goals simp [flistInit, FrameList.reset]
  cases file with
  | none => exact ⟨0, [], start⟩
  | some bytes =>
      obtain ⟨last, cells, numbers⟩ := start.load world loads bytes
      exact ⟨last, cells, by simpa [streamerLoad] using numbers⟩

end

/-! ## Runs -/

variable {condition : System → Tid → Choice → Op → Prop} {state : System} {thread : Tid}
  {choice : Choice} {operation : Op} {world : World} {response : operation.Resp}

/-- The list that a thread loads into is as it was made until the thread loads. -/
theorem Turn.loading_same (turn : Turn condition state thread choice operation world response)
    {other : Tid} {list : ListId} (before : (state.stage other).loading = some list)
    (idle : other = thread → ∀ file, operation ≠ .load list file) {found moved : FrameList}
    (fresh : found = flistInit 0 0)
    (step : ListStep state.world choice operation list found moved) : moved = flistInit 0 0 := by
  have apart := (recorded turn.reached).loading other list before
  have own (gil : .gil ∈ state.held thread) : other = thread :=
    turn.sole gil (by simp [before])
  have allowed := turn.allowed
  subst fresh
  cases step with
  | append frame attached available | stopped attached =>
      exact absurd ((recorded turn.reached).attached list attached) apart.2
  | loaded file => exact absurd rfl (idle (own allowed.2.1) file)
  | next taken | saved taken =>
      cases taken
      rfl
  | sought n => simp [flistSeek, flistInit, FrameList.reset]
  | started | shifted startShift | limited duration =>
      obtain rfl := own allowed.2.1
      rw [allowed.2.2.2.2.1] at before
      cases before

/-- A list that is being loaded is empty. -/
def Unfilled (world : World) (stages : Tid → Stage) : Prop :=
  ∀ thread list found, (stages thread).loading = some list → world.lists list = some found →
    found = flistInit 0 0

/-- One operation fills no list but the one that is loaded. -/
theorem Unfilled.step (turn : Turn condition state thread choice operation world response)
    (unfilled : Unfilled state.world state.stage) :
    Unfilled world (update state.stage thread ((state.stage thread).after operation response)) := by
  intro other list found loads live
  rcases turn.loading_before loads with ⟨before, idle⟩ | ⟨loader, rfl⟩
  · rcases Op.run_lists turn.executed list with
      same | ⟨earlier, after, step⟩ | ⟨_, freed⟩ | ⟨_, rfl, _, _⟩ | ⟨_, _, after⟩
    · exact unfilled other list found before (same ▸ live)
    · rw [after, Option.some.injEq] at live
      rw [← live]
      exact turn.loading_same before idle (unfilled other list _ before earlier) step
    · simp [freed] at live
    · exact absurd ((recorded turn.reached).loading other _ before).1 (Nat.lt_irrefl _)
    · rw [after, Option.some.injEq] at live
      exact live.symm
  · have new := (numbered turn.reached).lists _ (Nat.le_refl _)
    rcases Op.run_lists turn.executed state.world.nextList with
      same | ⟨earlier, _, _⟩ | ⟨_, freed⟩ | ⟨starts, _, _, _⟩ | ⟨_, _, after⟩
    · simp [same, new] at live
    · simp [new] at earlier
    · simp [freed] at live
    · rw [loader] at starts
      cases starts
    · rw [after, Option.some.injEq] at live
      exact live.symm

/-- In every run, a list that a file is loaded into has no frames yet. -/
theorem unfilled (reached : Runs condition state) : Unfilled state.world state.stage := by
  refine Runs.invariant Unfilled ?_ (fun _ _ _ _ _ _ turn unfilled => unfilled.step turn) reached
  intro thread list found loads
  cases loads

end KCamera
