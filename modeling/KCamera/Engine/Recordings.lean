import KCamera.Engine.Marks
import KCamera.Engine.Facts

/-!
# Which lists are recordings

The attached list is one that `kcStartRecord` allocated, and a file is loaded
into none of these.
-/

namespace KCamera

open Machine

open Function (update)

/-- The recordings, the attached list and the lists that are loaded are known by
their identities. -/
structure Recorded (world : World) (stages : Tid → Stage) : Prop where
  made : ∀ list ∈ world.recordings, list < world.nextList
  attached : ∀ list, world.g.record = some list → list ∈ world.recordings
  loading : ∀ thread list, (stages thread).loading = some list →
    list < world.nextList ∧ list ∉ world.recordings

variable {condition : System → Tid → Choice → Op → Prop} {state : System} {thread : Tid}
  {choice : Choice} {operation : Op} {world next : World} {response : operation.Resp}

/-- Only `kcStartRecord` makes a recording, of the next identity. -/
theorem Op.run_recordings (executed : operation.run thread choice world = some (next, response)) :
    next.recordings = world.recordings ∨
      operation = .allocRecord ∧ next.recordings = world.nextList :: world.recordings ∧
        next.nextList = world.nextList + 1 ∧ next.g.record = some world.nextList := by
  by_cases touched : Part.numbering ∈ operation.touches
  · cases operation with
    | allocRecord =>
        rw [result_eq executed]
        unfold World.allocRecord
        split
        · exact .inl rfl
        · exact .inr ⟨rfl, rfl, rfl, rfl⟩
    | newLoader => exact .inl (by rw [result_eq executed]; rfl)
    | _ => simp [Op.touches] at touched
  · exact .inl (run_agree executed touched).2

/-- A list that is being loaded after an operation was so before, or is new. -/
theorem Turn.loading_before (turn : Turn condition state thread choice operation world response)
    {other : Tid} {list : ListId}
    (loads : (update state.stage thread ((state.stage thread).after operation response)
      other).loading = some list) :
    ((state.stage other).loading = some list ∧
        (other = thread → ∀ file, operation ≠ .load list file)) ∨
      operation = .newLoader ∧ list = state.world.nextList := by
  by_cases moves : Mark.loading ∈ operation.marks
  · by_cases same : other = thread
    · subst same
      rw [Function.update_self] at loads
      cases operation with
      | newLoader =>
          have answer := turn.executed
          simp only [Op.run, World.newLoader, Option.some.injEq, Prod.mk.injEq] at answer
          obtain ⟨-, answer⟩ := answer
          subst answer
          exact .inr ⟨rfl, (Option.some.inj loads).symm⟩
      | load list file => cases loads
      | _ => simp [Op.marks] at moves
    · rw [Function.update_of_ne same] at loads
      exact .inl ⟨loads, fun own => absurd own same⟩
  · have same : _ = _ := turn.shares_update moves other
    refine .inl ⟨same ▸ loads, ?_⟩
    rintro - file rfl
    simp [Op.marks] at moves

/-- One operation keeps recordings and loaded lists apart. -/
theorem Recorded.step (turn : Turn condition state thread choice operation world response)
    (recorded : Recorded state.world state.stage) :
    Recorded world (update state.stage thread ((state.stage thread).after operation response)) := by
  have later : state.world.nextList ≤ world.nextList := by
    rcases Op.run_nextList turn.executed with same | ⟨next, _⟩ <;> omega
  rcases Op.run_recordings turn.executed with same | ⟨rfl, made, next, attached⟩
  · constructor
    · intro list member
      rw [same] at member
      exact Nat.lt_of_lt_of_le (recorded.made list member) later
    · intro list attached
      rw [same]
      by_cases starts : operation = .allocRecord
      · subst starts
        have value := result_eq turn.executed
        unfold World.allocRecord at value
        split at value
        · rw [value] at attached
          exact recorded.attached list attached
        · rw [value] at same
          simp at same
      · rcases Op.run_record turn.executed starts with kept | none
        · exact recorded.attached list (kept ▸ attached)
        · simp [none] at attached
    · intro other list loads
      rw [same]
      rcases turn.loading_before loads with ⟨loaded, -⟩ | ⟨rfl, rfl⟩
      · obtain ⟨made, apart⟩ := recorded.loading other list loaded
        exact ⟨Nat.lt_of_lt_of_le made later, apart⟩
      · refine ⟨?_, fun member => Nat.lt_irrefl _ (recorded.made _ member)⟩
        rw [result_eq turn.executed]
        exact Nat.lt_succ_self _
  · constructor
    · intro list member
      rw [made] at member
      rcases List.mem_cons.mp member with rfl | old
      · rw [next]
        exact Nat.lt_succ_self _
      · exact Nat.lt_of_lt_of_le (recorded.made list old) later
    · intro list attached'
      rw [attached, Option.some.injEq] at attached'
      rw [made, attached']
      exact List.mem_cons_self
    · intro other list loads
      rcases turn.loading_before loads with ⟨loaded, -⟩ | ⟨loader, -⟩
      · obtain ⟨old, apart⟩ := recorded.loading other list loaded
        refine ⟨Nat.lt_of_lt_of_le old later, fun member => ?_⟩
        rw [made] at member
        rcases List.mem_cons.mp member with rfl | member
        · exact Nat.lt_irrefl _ old
        · exact apart member
      · cases loader

/-- In every run, recordings and loaded lists are known by their identities. -/
theorem recorded (reached : Runs condition state) : Recorded state.world state.stage := by
  refine Runs.invariant Recorded ?_ (fun _ _ _ _ _ _ turn recorded => recorded.step turn) reached
  constructor
  · intro list member
    cases member
  · intro list attached
    cases attached
  · intro thread list loads
    cases loads

end KCamera
