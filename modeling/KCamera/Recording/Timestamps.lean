import KCamera.Engine.Shapes

/-!
# Timestamps

A frame's timestamp is its capture time less an offset that `kcStart` resets.
Inside a recording they go up as captures do, unless the camera is started anew
while the recording is attached and has a frame later than the start.
-/

namespace KCamera

open Machine Heap

open Function (update)

/-- From the front of every recording the timestamps do not go down. -/
def TimesAscend (state : System) : Prop :=
  ∀ list ∈ state.world.recordings, ∀ found, state.world.lists list = some found →
    ∀ cells stop, Segment found.nodes found.front cells stop →
      (cells.map fun cell => cell.2.pts).Pairwise (· ≤ ·)

/-- Captures come in the order of their times. -/
def CapturesAscend (state : System) (_ : Tid) (_ : Choice) : Op → Prop
  | .beginFrame capture => state.world.captured ≤ capture.pts
  | _ => True

/-- Captures come in the order of their times, and the clock is set back only when
the attached record has no frame, or none later than zero. -/
def ClockKept (state : System) (_ : Tid) (_ : Choice) : Op → Prop
  | .beginFrame capture => state.world.captured ≤ capture.pts
  | .resetState => ∀ list found, state.world.g.record = some list →
      state.world.lists list = some found → found.len = 0 ∨ found.nodes.All (·.pts = 0)
  | _ => True

/-- What an operation does to the nodes of a list that exists. -/
theorem ListStep.nodes {world : World} {choice : Choice} {operation : Op} {list : ListId}
    {found moved : FrameList} (step : ListStep world choice operation list found moved) :
    (∃ frame, operation = .append list frame ∧ world.g.record = some list ∧
        moved = (flistAppend found frame choice.node).list) ∨
      (∃ file, operation = .load list file) ∨ moved.nodes = found.nodes := by
  cases step with
  | append frame attached available => exact .inl ⟨frame, rfl, attached, rfl⟩
  | loaded file => exact .inr (.inl ⟨file, rfl⟩)
  | next taken | saved taken =>
      obtain ⟨readNode, readIndex, rfl⟩ := flistNext_moves taken
      exact .inr (.inr rfl)
  | sought n =>
      obtain ⟨readNode, readIndex, same⟩ := flistSeek_moves found n
      rw [same]
      exact .inr (.inr rfl)
  | stopped attached => exact .inr (.inr rfl)
  | started | shifted startShift | limited duration => exact .inr (.inr rfl)

/-! ## The clock -/

/-- `m_pts` is the time since the offset, as far as frames were taken. -/
structure Clock (world : World) : Prop where
  unset : world.g.ptsOffset < 0 → world.g.pts = 0
  set : ¬world.g.ptsOffset < 0 → world.g.ptsOffset.toUInt64 ≤ world.captured ∧
    world.g.pts ≤ world.captured - world.g.ptsOffset.toUInt64

/-- A step that leaves the clock leaves it right. -/
theorem Clock.agree {world next : World} (clock : Clock world) (agree : Agree world next .clock) :
    Clock next := by
  obtain ⟨pts, offset, captured⟩ := agree
  constructor
  · rw [offset, pts]
    exact clock.unset
  · rw [offset, pts, captured]
    exact clock.set

/-- Less of a time that has passed is left after an earlier one. -/
theorem sub_le_sub {offset earlier later : UInt64} (start : offset ≤ earlier)
    (order : earlier ≤ later) : earlier - offset ≤ later - offset := by
  rw [UInt64.le_iff_toNat_le] at start order ⊢
  have first := UInt64.toNat_sub_of_le earlier offset (UInt64.le_iff_toNat_le.mpr start)
  have second := UInt64.toNat_sub_of_le later offset
    (UInt64.le_iff_toNat_le.mpr (Nat.le_trans start order))
  omega

/-- The clock goes on with a capture, taken or not. -/
theorem Clock.passed {world : World} (clock : Clock world) {capture : Capture}
    (order : world.captured ≤ capture.pts) : Clock { world with captured := capture.pts } where
  unset := clock.unset
  set going := by
    obtain ⟨start, bound⟩ := clock.set going
    exact ⟨UInt64.le_trans start order, UInt64.le_trans bound (sub_le_sub start order)⟩

/-- A later capture moves `m_pts` on. -/
theorem Clock.shifted {world : World} (clock : Clock world) {capture : Capture}
    (order : world.captured ≤ capture.pts) :
    Clock ({ world with captured := capture.pts }.shiftPts capture.pts) ∧
      world.g.pts ≤ ({ world with captured := capture.pts }.shiftPts capture.pts).g.pts := by
  by_cases unset : world.g.ptsOffset < 0
  · have zero := clock.unset unset
    simp only [World.shiftPts, unset, if_true, UInt64.toUInt64_toInt64, UInt64.sub_self, zero]
    refine ⟨⟨fun _ => rfl, fun _ => ?_⟩, UInt64.le_refl _⟩
    simp
  · obtain ⟨start, bound⟩ := clock.set unset
    have later := UInt64.le_trans bound (sub_le_sub start order)
    simp only [World.shiftPts, unset, if_false]
    refine ⟨⟨fun less => absurd less unset, fun _ => ⟨?_, UInt64.le_refl _⟩⟩, later⟩
    exact UInt64.le_trans start order

/-- What `kcFrameData` does to the clock. -/
theorem Clock.begun {world : World} (clock : Clock world) {capture : Capture} {now : UInt32}
    {allocates : Bool} (order : world.captured ≤ capture.pts) :
    Clock (world.beginFrame capture now allocates).1 ∧
      world.g.pts ≤ (world.beginFrame capture now allocates).1.g.pts := by
  obtain ⟨shifted, later⟩ := clock.shifted order
  have readied : Agree ({ world with captured := capture.pts }.shiftPts capture.pts)
      (world.readied capture) .clock :=
    (World.measure_agree _ (by simp)).trans (World.expire_agree _ (by simp) (by simp))
  have going := shifted.agree readied
  rw [← readied.1] at later
  rcases world.beginFrame_cases capture now allocates with
    ⟨_, value⟩ | ⟨_, value⟩ | ⟨_, value⟩ | ⟨_, _, value⟩ | ⟨_, _, value⟩ <;> rw [value]
  · exact ⟨clock.passed order, UInt64.le_refl _⟩
  · exact ⟨going, later⟩
  · exact ⟨going, later⟩
  · exact ⟨⟨going.unset, going.set⟩, later⟩
  · exact ⟨⟨going.unset, going.set⟩, later⟩

/-- The frame that goes to a record is of now. -/
theorem World.beginFrame_recording {world : World} {capture : Capture} {now : UInt32}
    {allocates : Bool} {list : ListId} {frame : KcFrame}
    (begun : (world.beginFrame capture now allocates).2 = .recording list frame) :
    frame.pts = (world.beginFrame capture now allocates).1.g.pts := by
  rcases world.beginFrame_cases capture now allocates with
    ⟨_, value⟩ | ⟨_, value⟩ | ⟨_, value⟩ | ⟨_, _, value⟩ | ⟨_, _, value⟩
  · rw [value] at begun
    nomatch begun
  · rw [value] at begun
    nomatch begun
  · rw [value] at begun
    nomatch begun
  · rw [value] at begun ⊢
    have built := (Begun.recording.inj begun).2
    rw [← built]
    simp only [Capture.frame, KcFrame.build_pts]
  · rw [value] at begun
    nomatch begun

/-! ## Runs -/

/-- Only video threads append. -/
theorem appending_video {condition : System → Tid → Choice → Op → Prop} {state : System}
    (reached : Runs condition state) (thread : Tid)
    (appending : (state.stage thread).appending.isSome) : ¬thread.isPython := by
  refine Runs.each (fun _ thread stage => stage.appending.isSome → ¬thread.isPython) ?_ ?_ ?_
    reached thread appending
  · intro thread appending
    cases appending
  · intro state thread choice operation world response turn video appending
    by_cases moves : Mark.appending ∈ operation.marks
    · cases operation with
      | beginFrame capture => exact turn.allowed.1
      | append | endCall => cases appending
      | _ => simp [Op.marks] at moves
    · have kept : _ = _ := turn.shares moves
      exact video thread (kept ▸ appending)
  · intro state thread choice operation world response turn video other _
    exact video other

/-- The clock is ahead of the attached record, whose next frame is of now. -/
structure Clocked (world : World) (stages : Tid → Stage) : Prop where
  clock : Clock world
  carried : ∀ thread list frame, (stages thread).appending = some list →
    (stages thread).carried = some frame → frame.pts = world.g.pts
  ascends : ∀ list ∈ world.recordings, ∀ found, world.lists list = some found →
    found.nodes.Linked KcFrame.Before
  past : ∀ list found, world.g.record = some list → world.lists list = some found →
    found.nodes.All (·.pts ≤ world.g.pts)

section Turns

variable {state : System} {thread : Tid} {choice : Choice} {operation : Op} {world : World}
  {response : operation.Resp}

/-- An operation moves the clock on, or sets it back at a start. -/
theorem Clocked.clock_step (turn : Turn ClockKept state thread choice operation world response)
    (clocked : Clocked state.world state.stage) :
    Clock world ∧ (operation = .resetState ∨ state.world.g.pts ≤ world.g.pts) := by
  by_cases ticks : Part.clock ∈ operation.touches
  · cases operation with
    | resetState =>
        rw [result_eq turn.executed]
        refine ⟨⟨fun _ => rfl, fun set => ?_⟩, .inl rfl⟩
        exact absurd (show (-1 : Int64) < 0 by decide) set
    | beginFrame capture =>
        rw [result_eq turn.executed]
        obtain ⟨clock, later⟩ := clocked.clock.begun turn.admitted
        exact ⟨clock, .inr later⟩
    | _ => simp [Op.touches] at ticks
  · have agree := Op.run_agree turn.executed ticks
    exact ⟨clocked.clock.agree agree, .inr (by rw [agree.1]; exact UInt64.le_refl _)⟩

/-- While a thread has a frame to append the clock stands still. -/
theorem Clocked.carried_step (turn : Turn ClockKept state thread choice operation world response)
    (clocked : Clocked state.world state.stage) (other : Tid) (list : ListId) (frame : KcFrame)
    (appends : (update state.stage thread ((state.stage thread).after operation response)
      other).appending = some list)
    (carries : (update state.stage thread ((state.stage thread).after operation response)
      other).carried = some frame) : frame.pts = world.g.pts := by
  by_cases same : other = thread
  · subst same
    rw [Function.update_self] at appends carries
    by_cases enters : Mark.appending ∈ operation.marks
    · cases operation with
      | beginFrame capture =>
          have answer : (state.world.beginFrame capture choice.now choice.allocates).2 = response :=
            congrArg Prod.snd (Option.some.inj turn.executed)
          rw [result_eq turn.executed]
          obtain ⟨_, _, alone⟩ := turn.allowed
          rw [alone] at appends carries
          cases response with
          | recording taken built =>
              cases carries
              exact World.beginFrame_recording answer
          | _ => cases appends
      | append | endCall => cases appends
      | _ => simp [Op.marks] at enters
    · have kept : _ = _ := turn.shares enters
      rw [kept] at appends
      have video := appending_video turn.reached other (by simp [appends])
      by_cases moves : Mark.carried ∈ operation.marks
      · cases operation with
        | takeFrame | next | copyBack | makeArray => exact absurd turn.allowed.1 video
        | beginFrame | append => simp [Op.marks] at enters
        | _ => simp [Op.marks] at moves
      · have kept : _ = _ := turn.shares moves
        rw [kept] at carries
        rw [clocked.carried other list frame appends carries]
        by_cases ticks : Part.clock ∈ operation.touches
        · cases operation with
          | resetState => exact absurd turn.allowed.1 video
          | beginFrame => simp [Op.marks] at enters
          | _ => simp [Op.touches] at ticks
        · exact (Op.run_agree turn.executed ticks).1.symm
  · rw [Function.update_of_ne same] at appends carries
    rw [clocked.carried other list frame appends carries]
    -- The clock needs the mutex that the other thread has.
    have also : .frame ∈ state.held other := turn.promised .frame (.inl (by simp [appends]))
    by_cases ticks : Part.clock ∈ operation.touches
    · cases operation with
      | resetState => exact absurd (turn.exclusive also turn.allowed.2.2.2.1) same
      | beginFrame => exact absurd (turn.exclusive also turn.allowed.2.1) same
      | _ => simp [Op.touches] at ticks
    · exact (Op.run_agree turn.executed ticks).1.symm

/-- A recording keeps its order, and every recording that is attached is behind
the clock. -/
theorem Clocked.lists_step (turn : Turn ClockKept state thread choice operation world response)
    (clocked : Clocked state.world state.stage) (list : ListId) (found : FrameList)
    (live : world.lists list = some found) (member : list ∈ world.recordings) :
    found.nodes.Linked KcFrame.Before ∧
      (world.g.record = some list → found.nodes.All (·.pts ≤ world.g.pts)) := by
  have known := recorded turn.reached
  have later := (clocked.clock_step turn).2
  by_cases starts : operation = .allocRecord ∧ list = state.world.nextList
  · obtain ⟨rfl, rfl⟩ := starts
    have value := result_eq turn.executed
    unfold World.allocRecord at value
    split at value
    · rw [value, World.fail_lists, (numbered turn.reached).lists _ (Nat.le_refl _)] at live
      cases live
    · rw [value] at live
      simp only [World.setList, Function.update_self, Option.some.injEq] at live
      subst live
      exact ⟨Store.linked_empty, fun _ => Store.all_empty⟩
  · have old : list ∈ state.world.recordings := by
      rcases Op.run_recordings turn.executed with same | ⟨allocates, made, -, -⟩
      · exact same ▸ member
      · rw [made] at member
        rcases List.mem_cons.mp member with new | old
        · exact absurd ⟨allocates, new⟩ starts
        · exact old
    have before : world.g.record = some list → state.world.g.record = some list := by
      intro attached
      by_cases allocates : operation = .allocRecord
      · subst allocates
        rcases Op.run_recordings turn.executed with same | ⟨-, -, -, new⟩
        · have value := result_eq turn.executed
          unfold World.allocRecord at value
          split at value
          · rw [value] at attached
            exact attached
          · rw [value] at same
            simp at same
        · rw [new, Option.some.injEq] at attached
          exact absurd ⟨rfl, attached.symm⟩ starts
      · rcases Op.run_record turn.executed allocates with same | none
        · rw [← same, attached]
        · simp [none] at attached
    have past : ∀ found, state.world.lists list = some found → world.g.record = some list →
        found.nodes.All (·.pts ≤ world.g.pts) := by
      intro found live attached
      rcases later with rfl | later
      · rcases turn.admitted list found (before attached) live with empty | zero
        · intro addr node occupied
          simp [no_nodes turn.reached live empty addr] at occupied
        · exact zero.mono fun data none => none ▸ UInt64.zero_le
      · have past := clocked.past list found (before attached) live
        exact past.mono fun _ past => UInt64.le_trans past later
    rcases Op.run_lists turn.executed list with
      same | ⟨earlier, after, step⟩ | ⟨_, freed⟩ | ⟨allocates, new, _, _⟩ | ⟨_, rfl, _⟩
    · rw [same] at live
      exact ⟨clocked.ascends list old found live, past found live⟩
    · rw [after, Option.some.injEq] at live
      subst live
      have ascends := clocked.ascends list old _ earlier
      rcases step.nodes with ⟨frame, rfl, attached, moved⟩ | ⟨file, rfl⟩ | same
      · -- The new frame is of now, when all others were before.
        obtain ⟨_, appending, carried, _⟩ := turn.allowed
        have now := clocked.carried thread list frame appending carried
        have last := (clocked.past list _ attached earlier).mono fun data past =>
          show data.pts ≤ frame.pts from now.symm ▸ past
        obtain ⟨ordered, bounded⟩ := flistAppend_ascends choice.node ascends last
        have agree : Agree state.world world .clock := Op.run_agree turn.executed (by simp [Op.touches])
        rw [moved]
        refine ⟨ordered, fun _ => bounded.mono fun data past => ?_⟩
        rw [agree.1, ← now]
        exact past
      · exact absurd old (known.loading thread list turn.allowed.2.2.2).2
      · rw [same]
        exact ⟨ascends, past _ earlier⟩
    · simp [freed] at live
    · exact absurd ⟨allocates, new⟩ starts
    · exact absurd (known.made _ old) (Nat.lt_irrefl _)

/-- One operation keeps the clock ahead of the record. -/
theorem Clocked.step (turn : Turn ClockKept state thread choice operation world response)
    (clocked : Clocked state.world state.stage) :
    Clocked world (update state.stage thread ((state.stage thread).after operation response)) where
  clock := (clocked.clock_step turn).1
  carried := clocked.carried_step turn
  ascends list member found live := (clocked.lists_step turn list found live member).1
  past list found attached live := by
    have next := (recorded turn.reached).step turn
    exact (clocked.lists_step turn list found live (next.attached list attached)).2 attached

end Turns

/-- In runs that keep the clock, it is ahead of the record in every state. -/
theorem clocked (state : System) (reached : Runs ClockKept state) :
    Clocked state.world state.stage := by
  refine Runs.invariant Clocked ?_ (fun _ _ _ _ _ _ turn clocked => clocked.step turn) reached
  constructor
  · constructor
    · intro _
      rfl
    · intro _
      exact ⟨UInt64.le_refl _, UInt64.le_refl _⟩
  · intro thread list frame appends
    cases appends
  · intro list member
    cases member
  · intro list found attached
    cases attached

/-- In runs whose captures come in order, and that do not set the clock back under
later frames, no timestamps of a recording go down. -/
theorem timesAscend_of_clockKept (state : System) (reached : Runs ClockKept state) :
    TimesAscend state := by
  intro list member found live cells stop segment
  have chain := segment.isChain ((clocked state reached).ascends list member found live)
  have ascending := (List.isChain_map (R := (· ≤ ·)) KcFrame.pts).mpr chain
  rw [List.map_map] at ascending
  exact ascending.pairwise

/-- A Camera and a recording of two frames. -/
def twoRecorded : List (Event Tid Choice) :=
  calls (.newCamera someParams) 25 ++ calls (.record someParams) 20 ++
    turns (.video 0) 38 { pts := 1000, node := some 0 } ++
    turns (.video 0) 16 { pts := 2000, node := some 1 }

/-- A setter that starts the camera anew, and a frame after it. -/
def restarted : List (Event Tid Choice) :=
  calls (.setAttr { someParams with mode := "1280x960x10" }) 21 ++ turns (.video 0) 6 {} ++
    calls (.setAttr someParams) 16 ++ turns (.video 1) 34 { pts := 4000, node := some 2 }

/-- The order of captures as a test of one operation. -/
def capturesAscend (state : System) : Op → Bool
  | .beginFrame capture => state.world.captured ≤ capture.pts
  | _ => true

/-- The frame at an address of a list, and the next address. -/
def frameAt (state : System) (list : ListId) (addr : Addr) : Option (UInt64 × Option Addr) :=
  ((state.world.lists list).bind fun found => found.nodes addr).map fun node =>
    (node.data.pts, node.next)

/-- A run that records two frames, a millisecond apart. -/
theorem timesAscend_of_clockKept_two : ∃ state, Runs ClockKept state ∧ TimesAscend state ∧
    (0 ∈ state.world.recordings ∧ frameAt state 0 0 = some (0, some 1) ∧
      frameAt state 0 1 = some (1000, none)) := by
  have passed : (checkedRun [.python 0, .video 0]
      (fun state _ _ operation => capturesAscend state operation &&
        (operation ≠ .resetState || (state.world.g.record.bind state.world.lists).all (·.len = 0)))
      System.initial twoRecorded).any (fun state =>
        0 ∈ state.world.recordings ∧ frameAt state 0 0 = some (0, some 1) ∧
          frameAt state 0 1 = some (1000, none)) := by
    decide +kernel
  obtain ⟨state, reached, test⟩ := exists_checkedRun ClockKept (by
    intro state _ _ operation _ check
    rw [Bool.and_eq_true] at check
    cases operation with
    | beginFrame capture =>
        have order : state.world.captured ≤ capture.pts := of_decide_eq_true check.1
        exact order
    | resetState =>
        intro list found attached live
        exact .inl (by simpa [attached, live] using check.2)
    | _ => trivial) passed
  exact ⟨state, reached, timesAscend_of_clockKept state reached, of_decide_eq_true test⟩

/-- A setter that restarts the camera sets the clock back within a recording. -/
theorem timesAscend_lost_to_restart :
    ¬∀ state, Runs CapturesAscend state → TimesAscend state := by
  intro claim
  have passed : (checkedRun [.python 0, .video 0, .video 1]
      (fun state _ _ operation => capturesAscend state operation) System.initial
      (twoRecorded ++ restarted)).any (fun state =>
        0 ∈ state.world.recordings ∧ ((state.world.lists 0).bind FrameList.front) = some 0 ∧
          frameAt state 0 0 = some (0, some 1) ∧ frameAt state 0 1 = some (1000, some 2) ∧
          frameAt state 0 2 = some (0, none)) := by
    decide +kernel
  obtain ⟨state, reached, test⟩ := exists_checkedRun CapturesAscend (by
    intro state _ _ operation _ check
    cases operation with
    | beginFrame capture =>
        have order : state.world.captured ≤ capture.pts := of_decide_eq_true check
        exact order
    | _ => trivial) passed
  obtain ⟨member, front, first, second, third⟩ := of_decide_eq_true test
  cases live : state.world.lists 0 with
  | none => simp [live] at front
  | some found =>
      have at_ (addr : Addr) {pts : UInt64} {next : Option Addr}
          (here : frameAt state 0 addr = some (pts, next)) :
          ∃ data, found.nodes addr = some ⟨data, next⟩ ∧ data.pts = pts := by
        simp only [frameAt, live, Option.bind_some, Option.map_eq_some_iff, Prod.mk.injEq] at here
        obtain ⟨⟨data, _⟩, placed, rfl, rfl⟩ := here
        exact ⟨data, placed, rfl⟩
      obtain ⟨data₀, placed₀, pts₀⟩ := at_ 0 first
      obtain ⟨data₁, placed₁, pts₁⟩ := at_ 1 second
      obtain ⟨data₂, placed₂, pts₂⟩ := at_ 2 third
      have front : found.front = some 0 := by simpa [live] using front
      have segment : Segment found.nodes found.front [(0, data₀), (1, data₁), (2, data₂)] none := by
        rw [front]
        exact .cons placed₀ (.cons placed₁ (.cons placed₂ (.nil none)))
      have ascends := claim state reached 0 member found live _ _ segment
      simp [pts₁, pts₂] at ascends

end KCamera
