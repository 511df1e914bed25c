import KCamera.Engine.Recordings
import KCamera.FrameList.Links
import KCamera.FrameList.Shape

/-!
# The shape of every list

In all runs every list is a chain of nodes, whatever allocations fail. A list
that a file is loaded into has no node before.
-/

namespace KCamera

open Machine Heap

open Function (update)

/-! ## Appending and loading -/

/-- After `flistAppend` only the new node and nodes from before are live. -/
theorem flistAppend_live {list : FrameList} {frame : KcFrame} {node : Option Addr} {addr : Addr}
    (live : (flistAppend list frame node).list.nodes addr ≠ none) :
    node = some addr ∨ list.nodes addr ≠ none := by
  have rolled : (preRoll (list.setStart frame) frame).1.nodes.Within list.nodes :=
    preRoll_within _ _
  unfold flistAppend at live
  split at live
  · exact .inr live
  · cases node with
    | none => exact .inr (rolled.live live)
    | some new =>
        have kept : (window (linkLast (preRoll (list.setStart frame) frame).1 new frame)
            frame).1.nodes addr ≠ none := by
          dsimp only at live
          split at live <;> exact live
        rcases linkLast_live ((window_within _ _).live kept) with same | old
        · exact .inl (by rw [same])
        · exact .inr (rolled.live old)

/-- What `flistAppend` keeps, `streamer_load` keeps. -/
theorem loadLoop_keeps {turns : Nat → LoadTurn} {invariant : Nat → FrameList → Prop}
    (kept : ∀ turn list frame, invariant turn list →
      invariant (turn + 1) (flistAppend list frame (turns turn).node).list)
    (turn : Nat) (list : FrameList) (bytes : List UInt8) (start : invariant turn list) :
    ∃ last, invariant last (loadLoop turns turn list bytes).list := by
  fun_induction loadLoop turns turn list bytes with
  | case7 turn list bytes _ _ _ _ block _ size frame _ appended loaded _ ih =>
      exact ih (kept turn list frame start)
  | case8 turn list bytes _ _ _ _ block _ size frame _ appended loaded _ ih =>
      exact ih (kept turn list frame start)
  | _ => exact ⟨_, start⟩

/-- A list of which nodes are live that earlier turns of a load have made. -/
def LoadedUpTo (turn : Nat) (list : FrameList) : Prop :=
  (∃ cells, Chained list cells) ∧ ∀ addr, list.nodes addr ≠ none → addr.val < turn

/-- The address of a turn's node is that of no turn before. -/
theorem LoadedUpTo.available (world : World) (loads : Nat → Bool × Bool × Bool) {turn : Nat}
    {list : FrameList} (loaded : LoadedUpTo turn list) (frame : KcFrame) (addr : Addr)
    (placed : (world.loadTurn loads turn).node = some addr) :
    addr.val = turn ∧ Available list frame addr := by
  have now : addr.val = turn := by
    simp only [World.loadTurn] at placed
    split at placed
    · rename_i room
      cases placed
      simpa using Nat.mod_eq_of_lt room.2
    · cases placed
  refine ⟨now, ?_⟩
  by_contra taken
  have live : list.nodes addr ≠ none := (preRoll_within (list.setStart frame) frame).live taken
  have before := loaded.2 addr live
  omega

/-- One more record of a file uses the next address. -/
theorem LoadedUpTo.append (world : World) (loads : Nat → Bool × Bool × Bool) (turn : Nat)
    (list : FrameList) (frame : KcFrame) (loaded : LoadedUpTo turn list) :
    LoadedUpTo (turn + 1) (flistAppend list frame (world.loadTurn loads turn).node).list := by
  obtain ⟨⟨cells, shape⟩, used⟩ := loaded
  have available := LoadedUpTo.available world loads ⟨⟨cells, shape⟩, used⟩ frame
  refine ⟨flistAppend_chained shape frame fun addr placed => (available addr placed).2,
    fun addr live => ?_⟩
  rcases flistAppend_live live with placed | old
  · have now := (available addr placed).1
    omega
  · exact Nat.lt_succ_of_lt (used addr old)

/-- What is loaded into a list without nodes is a chain. -/
theorem streamerLoad_chained (world : World) (loads : Nat → Bool × Bool × Bool)
    (file : Option (List UInt8)) {list : FrameList} {cells : List Cell}
    (shape : Chained list cells) (unused : ∀ addr, list.nodes addr = none) :
    ∃ cells', Chained (streamerLoad list file (world.loadTurn loads)).list cells' := by
  cases file with
  | none => exact ⟨cells, shape⟩
  | some bytes =>
      obtain ⟨last, loaded, -⟩ := loadLoop_keeps (LoadedUpTo.append world loads) 0 list bytes
        ⟨⟨cells, shape⟩, fun addr live => absurd (unused addr) live⟩
      exact loaded

/-! ## Runs -/

/-- Every list is a chain, and one that is being loaded has no nodes yet. -/
structure Shaped (world : World) (stages : Tid → Stage) : Prop where
  chained : ∀ list found, world.lists list = some found → ∃ cells, Chained found cells
  unused : ∀ thread list found, (stages thread).loading = some list →
    world.lists list = some found → ∀ addr, found.nodes addr = none

variable {condition : System → Tid → Choice → Op → Prop} {state : System} {thread : Tid}
  {choice : Choice} {operation : Op} {world : World} {response : operation.Resp}

/-- What operations do to a chain they do to a chain. -/
theorem ListStep.chained {list : ListId} {found moved : FrameList} {cells : List Cell}
    (step : ListStep world choice operation list found moved) (shape : Chained found cells)
    (unused : (∃ file, operation = .load list file) → ∀ addr, found.nodes addr = none) :
    ∃ cells', Chained moved cells' := by
  cases step with
  | append frame attached available => exact flistAppend_chained shape frame available
  | loaded file => exact streamerLoad_chained _ _ _ shape (unused ⟨file, rfl⟩)
  | next taken | saved taken =>
      obtain ⟨readNode, readIndex, rfl⟩ := flistNext_moves taken
      exact ⟨cells, shape.congr rfl rfl rfl rfl⟩
  | sought n =>
      obtain ⟨readNode, readIndex, same⟩ := flistSeek_moves found n
      rw [same]
      exact ⟨cells, shape.congr rfl rfl rfl rfl⟩
  | stopped attached => exact ⟨cells, shape.congr rfl rfl rfl rfl⟩
  | started | shifted startShift | limited duration => exact ⟨cells, shape.congr rfl rfl rfl rfl⟩

/-- The list that a thread loads into is changed by no other thread, and by the
thread only when it loads. -/
theorem Turn.loading_kept (turn : Turn condition state thread choice operation world response)
    {other : Tid} {list : ListId}
    (before : (state.stage other).loading = some list)
    (idle : other = thread → ∀ file, operation ≠ .load list file) {found moved : FrameList}
    (step : ListStep state.world choice operation list found moved) :
    moved.nodes = found.nodes := by
  have apart := (recorded turn.reached).loading other list before
  have own (gil : .gil ∈ state.held thread) : other = thread :=
    turn.sole gil (by simp [before])
  cases step with
  | append frame attached available | stopped attached =>
      exact absurd ((recorded turn.reached).attached list attached) apart.2
  | loaded file => exact absurd rfl (idle (own turn.allowed.2.1) file)
  | next taken | saved taken =>
      obtain ⟨readNode, readIndex, rfl⟩ := flistNext_moves taken
      rfl
  | sought n =>
      obtain ⟨readNode, readIndex, same⟩ := flistSeek_moves found n
      rw [same]
  | started | shifted startShift | limited duration => rfl

/-- One operation leaves every list a chain. -/
theorem Shaped.step (turn : Turn condition state thread choice operation world response)
    (shaped : Shaped state.world state.stage) :
    Shaped world (update state.stage thread ((state.stage thread).after operation response)) where
  chained list found live := by
    rcases Op.run_lists turn.executed list with
      same | ⟨earlier, after, step⟩ | ⟨_, freed⟩ | ⟨_, _, _, after⟩ | ⟨_, _, after⟩
    · exact shaped.chained list found (same ▸ live)
    · rw [after, Option.some.injEq] at live
      subst live
      obtain ⟨cells, shape⟩ := shaped.chained list _ earlier
      refine step.chained shape ?_
      rintro ⟨file, rfl⟩
      exact shaped.unused thread list _ turn.allowed.2.2.2 earlier
    · simp [freed] at live
    · rw [after, Option.some.injEq] at live
      exact ⟨[], live ▸ (flistInit_anchored _ _).toChained⟩
    · rw [after, Option.some.injEq] at live
      exact ⟨[], live ▸ (flistInit_anchored _ _).toChained⟩
  unused other list found loads live addr := by
    rcases turn.loading_before loads with ⟨before, idle⟩ | ⟨-, rfl⟩
    · rcases Op.run_lists turn.executed list with
        same | ⟨earlier, after, step⟩ | ⟨_, freed⟩ | ⟨_, _, _, after⟩ | ⟨_, _, after⟩
      · exact shaped.unused other list found before (same ▸ live) addr
      · rw [after, Option.some.injEq] at live
        subst live
        rw [turn.loading_kept before idle step]
        exact shaped.unused other list _ before earlier addr
      · simp [freed] at live
      · rw [after, Option.some.injEq] at live
        rw [← live]
        rfl
      · rw [after, Option.some.injEq] at live
        rw [← live]
        rfl
    · have new := (numbered turn.reached).lists _ (Nat.le_refl _)
      rcases Op.run_lists turn.executed state.world.nextList with
        same | ⟨earlier, _, _⟩ | ⟨_, freed⟩ | ⟨_, _, _, after⟩ | ⟨_, _, after⟩
      · simp [same, new] at live
      · simp [new] at earlier
      · simp [freed] at live
      · rw [after, Option.some.injEq] at live
        rw [← live]
        rfl
      · rw [after, Option.some.injEq] at live
        rw [← live]
        rfl

/-- In every run, every list is a chain. -/
theorem shaped (reached : Runs condition state) : Shaped state.world state.stage := by
  refine Runs.invariant Shaped ?_ (fun _ _ _ _ _ _ turn shaped => shaped.step turn) reached
  constructor
  · intro list found live
    cases live
  · intro thread list found loads
    cases loads

/-- A list of length zero has no node. -/
theorem no_nodes (reached : Runs condition state) {list : ListId} {found : FrameList}
    (live : state.world.lists list = some found) (empty : found.len = 0) (addr : Addr) :
    found.nodes addr = none := by
  obtain ⟨cells, shape⟩ := (shaped reached).chained list found live
  by_contra occupied
  have member := shape.only addr occupied
  rw [shape.len_eq_zero_iff.mp empty] at member
  cases member

end KCamera
