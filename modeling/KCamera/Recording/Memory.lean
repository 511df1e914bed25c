import KCamera.Engine.Blocks
import KCamera.Engine.Holdings

/-!
# Frame memory

In every run a block has one owner, and `free` gets none twice and none that is in
use. Where no step gives up the last pointer to a block, every block that was
allocated is in use or was freed.
-/

namespace KCamera

open Machine

variable {condition : System → Tid → Choice → Op → Prop} {state : System}

/-- No frame has two owners, and none that was freed has any. -/
theorem tallied (reached : Runs condition state) (sound : state.world.fault = none) :
    Tallied state.world (carriedOf state.stage) := by
  refine Runs.invariant
    (fun world stages => world.fault = none → Tallied world (carriedOf stages)) ?_ ?_ reached sound
  · intro _
    have empty (place : Place) (frame : KcFrame)
        (has : place.Has .initial (carriedOf fun _ => .idle) frame) : False := by
      cases place with
      | carried thread => cases has
      | _ => simp [World.initial, World.nodesOf, Heap.Store.empty] at has
    refine ⟨⟨?_, ?_, .nil, ?_⟩, .nil⟩
    · rintro first second block ⟨frame, has, _⟩
      exact (empty first frame has).elim
    · rintro place block ⟨frame, has, _⟩
      exact (empty place frame has).elim
    · intro block member
      cases member
  · intro state thread choice operation world response turn accounted sound
    exact (turn.accounts sound (accounted turn.running)).accounted

/-- Frame blocks and lists are accounted for. -/
structure FramesAccounted (state : System) : Prop where
  frames : Tallied state.world (carriedOf state.stage)
  /-- `free` gets no list twice. -/
  lists : state.world.freedLists.Nodup

/-- No frame has two owners, none that was freed has any, and no list is freed twice. -/
theorem framesAccounted (reached : Runs condition state) (sound : state.world.fault = none) :
    FramesAccounted state :=
  ⟨tallied reached sound, (freed reached).once⟩

/-- A recorded frame whose list has no memory for a node is lost, and freed by nobody. -/
theorem framesAccounted_lost : ∃ state, Runs anyOperation state ∧
    FramesAccounted state ∧ state.world.blocks = 1 ∧ state.world.freed = [] ∧
      state.world.freedLists = [0] := by
  have passed : (run System.step System.initial
      (calls (.newCamera someParams) 25 ++ calls (.record someParams) 20 ++
        turns (.video 0) 40 {} ++ calls (.delete 0) 9)).any
      (fun state => state.world.fault = none ∧ state.world.blocks = 1 ∧
        state.world.freed = [] ∧ state.world.freedLists = [0]) := by
    decide +kernel
  obtain ⟨state, reached, test⟩ := exists_run passed
  obtain ⟨sound, counted⟩ := of_decide_eq_true test
  exact ⟨state, reached, framesAccounted reached sound, counted⟩

/-- A step keeps hold of every block in use. -/
def Remembers (state : System) (_ : Tid) (choice : Choice) (operation : Op) : Prop :=
  ¬operation.forgets choice state.world

/-- Every block was freed and has no owner, or has one and was not freed. -/
def Conserved (state : System) : Prop :=
  ∀ block < state.world.blocks,
    (block ∈ state.world.freed ∧
      ∀ place, ¬(ledger state.world (carriedOf state.stage)).holds place block) ∨
    (block ∉ state.world.freed ∧
      ∃! place, (ledger state.world (carriedOf state.stage)).holds place block)

/-- In runs that keep hold of every block none is lost. -/
theorem conserved_of_remembers (state : System) (reached : Runs Remembers state)
    (sound : state.world.fault = none) : Conserved state := by
  have complete : (ledger state.world (carriedOf state.stage)).Complete := by
    refine Runs.invariant (fun world stages => world.fault = none →
      (ledger world (carriedOf stages)).Complete) ?_ ?_ reached sound
    · intro _ block bound
      exact absurd bound (Nat.not_lt_zero block)
    · intro state thread choice operation world response turn complete sound
      have before := tallied turn.reached turn.running
      exact (turn.accounts sound before).passes.complete turn.admitted (complete turn.running)
  have owned := (tallied reached sound).sound
  intro block bound
  by_cases freed : block ∈ state.world.freed
  · refine .inl ⟨freed, fun place held => ?_⟩
    exact (owned.live place block held).2 freed
  · rcases complete block bound with member | ⟨place, held⟩
    · exact absurd member freed
    · exact .inr ⟨freed, place, held, fun other also => owned.once other place block also held⟩

/-- A recorded frame is freed with its list, while its copy stays in an array and a live
frame waits. -/
theorem conserved_of_remembers_three : ∃ state, Runs Remembers state ∧ Conserved state ∧
    state.world.blocks = 3 ∧ state.world.freed = [0] := by
  have passed : (checkedRun [.python 0, .video 0] (fun state _ choice operation =>
      match operation with
      | .load _ _ => false
      | .append _ _ => choice.node.isSome
      | .resetState => state.world.g.frame.isNone
      | _ => true) System.initial
      (calls (.newCamera someParams) 25 ++ calls (.record someParams) 20 ++
        turns (.video 0) 36 { node := some 0 } ++ calls (.frame 0 false) 14 ++
        calls (.delete 0) 12 ++ turns (.video 0) 10 {})).any
      (fun state => state.world.fault = none ∧ state.world.blocks = 3 ∧
        state.world.freed = [0]) := by
    decide +kernel
  obtain ⟨state, reached, test⟩ := exists_checkedRun Remembers (by
    intro state thread choice operation moved check
    cases operation with
    | resetState => simpa [Remembers, Op.forgets] using check
    | append list frame =>
        rintro ⟨none, _⟩
        simp [none] at check
    | load list file => cases check
    | _ => exact id) passed
  obtain ⟨sound, counted⟩ := of_decide_eq_true test
  exact ⟨state, reached, conserved_of_remembers state reached sound, counted⟩

end KCamera
