import KCamera.Engine.Facts
import KCamera.Engine.Marks
import KCamera.Engine.Objects

/-!
# Which lists are held and which are freed

The list of a Streamer is settled when the Streamer is made. A list is there
from its allocation on until it is freed, and nobody frees the attached record.
-/

namespace KCamera

open Machine

open Function (update)

/-- The list of a Streamer and how it came about. -/
def Streamer.holding (found : Streamer) : Option ListId × Origin := (found.record, found.origin)

section

variable {thread : Tid} {choice : Choice} {operation : Op} {world next : World}
  {response : operation.Resp}

/-- A Streamer that keeps its record holds what it held. -/
theorem World.setStreamer_holding {streamer other : StreamerId} {found moved : Streamer}
    (live : world.streamers other = some found) (same : moved.holding = found.holding) :
    ((world.setStreamer other moved).streamers streamer).map Streamer.holding =
      (world.streamers streamer).map Streamer.holding := by
  by_cases equal : streamer = other
  · subst equal
    simp [World.setStreamer, live, same]
  · simp [World.setStreamer, equal]

/-- The same for a change of a Streamer that may be gone. -/
theorem World.onStreamer_holding {streamer other : StreamerId} {change : Streamer → Streamer}
    (same : ∀ found, (change found).holding = found.holding) :
    ((world.onStreamer other change).streamers streamer).map Streamer.holding =
      (world.streamers streamer).map Streamer.holding := by
  unfold World.onStreamer
  split
  · rfl
  · rename_i found live
    exact World.setStreamer_holding live (same found)

/-- A new Streamer gets the attached record, unless that was freed. -/
theorem World.newStreamer_cases (world : World) (origin : Origin) :
    ((world.newStreamer origin).1.streamers = world.streamers ∧
      ∃ list, world.g.record = some list ∧ world.lists list = none) ∨
      ∃ made, (world.newStreamer origin).1.streamers =
        update world.streamers world.nextStreamer (some made) ∧
        made.holding = (world.g.record, origin) := by
  unfold World.newStreamer
  dsimp only
  split
  · rename_i detached
    exact .inr ⟨⟨none, 0, 0, 0, origin⟩, rfl, by rw [detached]; rfl⟩
  · rename_i list attached
    split
    · rename_i freed
      exact .inl ⟨rfl, list, attached, freed⟩
    · rename_i found live
      exact .inr ⟨⟨some list, 0, found.startShift, found.duration, origin⟩, rfl,
        by rw [attached]; rfl⟩

/-- What an operation does to the list and the origin of a Streamer. -/
inductive HoldingEffect (world next : World) (operation : Op) (streamer : StreamerId) : Prop where
  | same (kept : (next.streamers streamer).map Streamer.holding =
      (world.streamers streamer).map Streamer.holding)
  | made {origin : Origin} (operation_eq : operation = .newStreamer origin)
      (fresh : streamer = world.nextStreamer)
      (after : (next.streamers streamer).map Streamer.holding = some (world.g.record, origin))
  | loader (operation_eq : operation = .newLoader) (fresh : streamer = world.nextStreamer)
      (after : (next.streamers streamer).map Streamer.holding = some (some world.nextList, .load))
  | freed (operation_eq : operation = .freeStreamer streamer)
      (after : next.streamers streamer = none)

/-- What an operation does to the list that a Streamer holds. -/
theorem Op.run_holding (executed : operation.run thread choice world = some (next, response))
    (streamer : StreamerId) : HoldingEffect world next operation streamer := by
  by_cases touched : Part.streamers ∈ operation.touches
  · cases operation with
    | newStreamer origin =>
        have value := result_eq executed
        rcases world.newStreamer_cases origin with ⟨same, _⟩ | ⟨made, streamers, holding⟩
        · exact .same (by rw [value, same])
        · by_cases fresh : streamer = world.nextStreamer
          · exact .made rfl fresh (by simp [value, streamers, fresh, holding])
          · exact .same (by simp [value, streamers, fresh])
    | newLoader =>
        have value := result_eq executed
        by_cases fresh : streamer = world.nextStreamer
        · refine .loader rfl fresh ?_
          simp [value, fresh, World.newLoader, World.setStreamer, World.setList, Streamer.holding]
        · exact .same (by simp [value, World.newLoader, World.setStreamer, World.setList, fresh])
    | freeStreamer other =>
        have value := result_eq executed
        by_cases same : streamer = other
        · exact .freed (by rw [same]) (by simp [value, same])
        · exact .same (by simp [value, same])
    | noteIndex other list =>
        have value := result_eq executed
        dsimp only at value
        split at value
        · exact .same (by rw [value]; rfl)
        · exact .same (by rw [value]; exact World.onStreamer_holding fun _ => rfl)
    | setStreamerShift other startShift | setStreamerDuration other duration =>
        exact .same (by rw [result_eq executed]; exact World.onStreamer_holding fun _ => rfl)
    | makeArray other frame bytes =>
        have value := result_eq executed
        simp only [World.makeArray] at value
        split at value
        · exact .same (by rw [value]; rfl)
        · rename_i found live
          split at value
          · exact .same (by rw [value]; rfl)
          · split at value
            · refine .same ?_
              rw [value]
              exact @World.setStreamer_holding { world with arrays := frame :: world.arrays } _ _ _ _
                live rfl
            · exact .same (by rw [value]; rfl)
    | _ => simp [Op.touches] at touched
  · exact .same (by rw [(Op.run_agree executed touched).1])

/-- `flistClear` and `free` do all of it, or nothing and fail. -/
theorem World.freeRecord_cases (world : World) (list : ListId) :
    (∃ fault, world.freeRecord list = world.fail fault) ∨
      (world.lists list).isSome ∧ (world.freeRecord list).lists = update world.lists list none ∧
        (world.freeRecord list).freedLists = list :: world.freedLists := by
  unfold World.freeRecord
  cases live : world.lists list with
  | none => exact .inl ⟨_, rfl⟩
  | some found =>
      cases cleared : flistClear found with
      | none => exact .inl ⟨.freedNode, by simp [cleared]⟩
      | some result => exact .inr (by simp [cleared])

/-- Only the end of a Streamer frees a list. -/
theorem Op.run_freedLists (executed : operation.run thread choice world = some (next, response)) :
    next.freedLists = world.freedLists ∨
      ∃ list, operation = .freeRecord list ∧ (world.lists list).isSome ∧
        next.lists = update world.lists list none ∧ next.freedLists = list :: world.freedLists := by
  by_cases touched : Part.lists ∈ operation.touches
  · cases operation with
    | freeRecord list =>
        rw [result_eq executed]
        rcases world.freeRecord_cases list with ⟨fault, same⟩ | freed
        · exact .inl (by rw [same]; rfl)
        · exact .inr ⟨list, rfl, freed⟩
    | append list frame =>
        rcases World.append_cases executed with ⟨⟨fault, rfl⟩, _⟩ | ⟨found, _, _, _, _, value⟩
        · exact .inl rfl
        · rw [value]
          split <;> exact .inl rfl
    | next list =>
        have value := result_eq executed
        simp only [World.next] at value
        split at value
        · exact .inl (by rw [value]; rfl)
        · split at value
          · exact .inl (by rw [value]; rfl)
          · exact .inl (by rw [value]; rfl)
          · rename_i found _ moved frame _
            have copied : Agree (world.setList list moved) next .lists :=
              value ▸ World.copyFrame_agree _ _ _ (by simp)
            exact .inl copied.2
    | allocRecord =>
        rw [result_eq executed]
        unfold World.allocRecord
        split <;> exact .inl rfl
    | stopRecord =>
        have value := result_eq executed
        simp only [World.stopRecord] at value
        split at value
        · exact .inl (by rw [value])
        · rename_i list attached
          split at value
          · exact .inl (by rw [value]; rfl)
          · rename_i found live
            have detached : Agree (world.setList list { found with recording := 0 }) next .lists :=
              value ▸ World.detach_agree _ (by simp) (by simp)
            exact .inl detached.2
    | newLoader => exact .inl (by rw [result_eq executed]; rfl)
    | load list file =>
        rw [result_eq executed]
        unfold World.load
        split <;> exact .inl rfl
    | saveNext list =>
        have value := result_eq executed
        simp only [World.saveNext] at value
        split at value
        · exact .inl (by rw [value]; rfl)
        · split at value <;> exact .inl (by rw [value]; rfl)
    | seek list n | start list | setListShift list startShift | setListDuration list duration =>
        rw [result_eq executed]
        unfold World.onList
        split <;> exact .inl rfl
    | _ => simp [Op.touches] at touched
  · exact .inl (Op.run_agree executed touched).2

/-- A list is there as long as it is not freed, and from its allocation on. -/
theorem Op.run_live (executed : operation.run thread choice world = some (next, response))
    (list : ListId) : (next.lists list).isSome = (world.lists list).isSome ∨
      (operation = .freeRecord list ∧ next.lists list = none) ∨
        (operation = .allocRecord ∨ operation = .newLoader) ∧ list = world.nextList := by
  rcases Op.run_lists executed list with
    same | ⟨before, after, _⟩ | ⟨frees, none⟩ | ⟨records, new, _, _⟩ | ⟨loads, new, _⟩
  · exact .inl (by rw [same])
  · exact .inl (by rw [before, after]; rfl)
  · exact .inr (.inl ⟨frees, none⟩)
  · exact .inr (.inr ⟨.inl records, new⟩)
  · exact .inr (.inr ⟨.inr loads, new⟩)

end

section

variable {condition : System → Tid → Choice → Op → Prop} {state : System} {thread : Tid}
  {choice : Choice} {operation : Op} {world : World} {response : operation.Resp}

/-- Streamers that were not made are not there. -/
theorem streamers_beyond (reached : Runs condition state) (streamer : StreamerId)
    (beyond : state.world.nextStreamer ≤ streamer) : state.world.streamers streamer = none := by
  refine Runs.invariant (fun world _ => ∀ streamer, world.nextStreamer ≤ streamer →
    world.streamers streamer = none) (fun _ _ => rfl) ?_ reached streamer beyond
  intro state thread choice operation world response turn absent streamer beyond
  have later : state.world.nextStreamer ≤ world.nextStreamer := by
    rcases Op.run_nextStreamer turn.executed with same | ⟨more, _⟩ <;> omega
  have before := absent streamer (Nat.le_trans later beyond)
  rcases Op.run_streamers turn.executed streamer with
    same | ⟨live, _, _⟩ | ⟨_, counted, _, _⟩ | ⟨_, gone⟩
  · rw [same, before]
  · simp [before] at live
  · rw [counted] at beyond
    exact absurd beyond (Nat.not_succ_le_self streamer)
  · exact gone

/-- The record that a thread was told of is still attached, or none is. -/
def KnowsRecord (world : World) (stage : Stage) : Prop :=
  ∀ list, stage.seen = some (some list) → list < world.nextList ∧
    (world.g.record = some list ∨ world.g.record = none)

/-- Only `kcStartRecord` could attach another record. -/
theorem KnowsRecord.kept (turn : Turn condition state thread choice operation world response)
    {stage : Stage} (knows : KnowsRecord state.world stage) (starts : operation ≠ .allocRecord) :
    KnowsRecord world stage := by
  intro list seen
  obtain ⟨old, told⟩ := knows list seen
  have later : state.world.nextList ≤ world.nextList := by
    rcases Op.run_nextList turn.executed with same | ⟨next, _⟩ <;> omega
  refine ⟨Nat.lt_of_lt_of_le old later, ?_⟩
  rcases Op.run_record turn.executed starts with same | detached
  · rwa [same]
  · exact .inr detached

/-- A thread's own step keeps what it knows of the record. -/
theorem KnowsRecord.own (turn : Turn condition state thread choice operation world response)
    (knows : KnowsRecord state.world (state.stage thread)) :
    KnowsRecord world ((state.stage thread).after operation response) := by
  by_cases moved : Mark.seen ∈ operation.marks
  · intro list seen
    cases operation with
    | getRecord =>
        have executed := turn.executed
        cases executed
        have attached : state.world.g.record = some list := by simpa using seen
        exact ⟨(numbered turn.reached).record list attached, .inl attached⟩
    | stopRecord => cases before : (state.stage thread).seen <;> simp [before] at seen
    | endCall request reply | allocRecord | newStreamer origin | setTimer =>
        simp [Stage.idle] at seen
    | _ => simp [Op.marks] at moved
  · have starts : operation ≠ .allocRecord := by
      rintro rfl
      simp [Op.marks] at moved
    have shares : (state.stage thread).Shares _ .seen := turn.shares moved
    intro list seen
    exact knows.kept turn starts list (shares ▸ seen)

/-- In every run, the record that a thread was told of is attached or none is. -/
theorem knowsRecord (reached : Runs condition state) (thread : Tid) :
    KnowsRecord state.world (state.stage thread) := by
  refine Runs.each (fun world _ stage => KnowsRecord world stage) ?_ ?_ ?_ reached thread
  · intro thread list seen
    simp [Stage.idle] at seen
  · intro state thread choice operation world response turn knows
    exact (knows thread).own turn
  · intro state thread choice operation world response turn knows other different
    by_cases starts : operation = .allocRecord
    · subst starts
      intro list seen
      exact absurd (turn.sole turn.allowed.2.1 (by simp [seen])) different
    · exact (knows other).kept turn starts

/-- A thread that was told of another record, or of none, knows what is not attached. -/
theorem seen_apart (reached : Runs condition state) (sound : state.world.fault = none)
    {list : ListId} {record : Option ListId} (seen : (state.stage thread).seen = some record)
    (other : record ≠ some list) : state.world.g.record ≠ some list := by
  intro attached
  cases record with
  | none => simp [knowsNone reached thread sound seen] at attached
  | some told =>
      obtain ⟨_, same | detached⟩ := knowsRecord reached thread told seen
      · exact other (same.symm.trans attached)
      · simp [detached] at attached

/-- Nobody frees the attached record. -/
theorem Turn.freeRecord_apart {list : ListId} {response : Op.Resp (.freeRecord list)}
    (turn : Turn condition state thread choice (.freeRecord list) world response) :
    state.world.g.record ≠ some list := by
  obtain ⟨_, _, _, _, _, _, record, seen, other⟩ := turn.allowed
  exact seen_apart turn.reached turn.running seen other

/-- Lists that were freed are gone, and no others. -/
structure Freed (world : World) : Prop where
  gone : ∀ list, list ∈ world.freedLists ↔ list < world.nextList ∧ world.lists list = none
  once : world.freedLists.Nodup

/-- The list of a new identity is there. -/
theorem Op.run_allocated {thread : Tid} {choice : Choice} {operation : Op} {world next : World}
    {response : operation.Resp} (executed : operation.run thread choice world = some (next, response))
    (more : world.nextList < next.nextList) :
    next.nextList = world.nextList + 1 ∧ (next.lists world.nextList).isSome := by
  rcases Op.run_nextList executed with same | ⟨counted, rfl | rfl⟩
  · omega
  · refine ⟨counted, ?_⟩
    have value := result_eq executed
    simp only [World.allocRecord] at value
    split at value
    · rw [value] at more
      exact absurd more (Nat.lt_irrefl _)
    · rw [value]
      simp [World.setList]
  · refine ⟨counted, ?_⟩
    rw [result_eq executed]
    simp [World.newLoader, World.setStreamer, World.setList]

/-- One operation frees a list that is there, or none. -/
theorem Freed.step (turn : Turn condition state thread choice operation world response)
    (freed : Freed state.world) : Freed world := by
  have numbered := numbered turn.reached
  rcases Op.run_freedLists turn.executed with same | ⟨list, rfl, live, lists, cons⟩
  · refine ⟨fun list => ?_, same ▸ freed.once⟩
    rw [same, freed.gone]
    have numbers : state.world.nextList ≤ world.nextList := by
      rcases Op.run_nextList turn.executed with kept | ⟨counted, _⟩ <;> omega
    constructor
    · rintro ⟨old, none⟩
      refine ⟨Nat.lt_of_lt_of_le old numbers, ?_⟩
      rcases Op.run_live turn.executed list with alike | ⟨_, gone⟩ | ⟨_, rfl⟩
      · simpa [none] using alike
      · exact gone
      · exact absurd old (Nat.lt_irrefl _)
    · rintro ⟨old, none⟩
      have older : list < state.world.nextList := by
        by_contra new
        have beyond := Nat.le_of_not_lt new
        obtain ⟨counted, allocated⟩ :=
          Op.run_allocated turn.executed (Nat.lt_of_le_of_lt beyond old)
        rw [counted] at old
        obtain rfl := Nat.le_antisymm (Nat.le_of_lt_succ old) beyond
        simp [none] at allocated
      refine ⟨older, ?_⟩
      rcases Op.run_live turn.executed list with alike | ⟨rfl, _⟩ | ⟨_, rfl⟩
      · simpa [none] using alike.symm
      · rcases state.world.freeRecord_cases list with ⟨fault, failed⟩ | ⟨_, _, cons⟩
        · rw [result_eq turn.executed, failed] at none
          exact none
        · rw [result_eq turn.executed, cons] at same
          simp at same
      · exact absurd older (Nat.lt_irrefl _)
  · have numbers : world.nextList = state.world.nextList := by
      rcases Op.run_nextList turn.executed with kept | ⟨_, records | loads⟩
      · exact kept
      · cases records
      · cases loads
    constructor
    · intro other
      rw [cons, lists, numbers, List.mem_cons, freed.gone]
      by_cases same : other = list
      · subst same
        have old : other < state.world.nextList := by
          by_contra new
          simp [numbered.lists other (Nat.le_of_not_lt new)] at live
        simp [old]
      · simp [same]
    · rw [cons]
      refine List.nodup_cons.mpr ⟨fun member => ?_, freed.once⟩
      simp [((freed.gone list).mp member).2] at live

/-- In every run, a list is freed once and then gone. -/
theorem freed (reached : Runs condition state) : Freed state.world := by
  refine Runs.invariant (fun world _ => Freed world) ?_
    (fun _ _ _ _ _ _ turn freed => freed.step turn) reached
  constructor <;> simp [World.initial]

end

end KCamera
