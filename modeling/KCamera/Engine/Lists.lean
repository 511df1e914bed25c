import KCamera.Engine.Effects

/-!
# What happens to a list

Every operation leaves a list alone, changes it in one of the ways of
`ListStep`, frees it, or makes it. Invariants of lists are proved from this.
-/

namespace KCamera

/-- What an operation can do to a list that exists. -/
inductive ListStep (world : World) (choice : Choice) :
    Op → ListId → FrameList → FrameList → Prop where
  | append {list : ListId} {found : FrameList} (frame : KcFrame)
      (attached : world.g.record = some list)
      (available : ∀ node, choice.node = some node → Available found frame node) :
      ListStep world choice (.append list frame) list found
        (flistAppend found frame choice.node).list
  | stopped {list : ListId} {found : FrameList} (attached : world.g.record = some list) :
      ListStep world choice .stopRecord list found { found with recording := 0 }
  | next {list : ListId} {found moved : FrameList} {frame : Option KcFrame}
      (taken : flistNext found = some (moved, frame)) :
      ListStep world choice (.next list) list found moved
  | saved {list : ListId} {found moved : FrameList} {frame : Option KcFrame}
      (taken : flistNext found = some (moved, frame)) :
      ListStep world choice (.saveNext list) list found moved
  | sought {list : ListId} {found : FrameList} (n : UInt32) :
      ListStep world choice (.seek list n) list found (flistSeek found n).1
  | started {list : ListId} {found : FrameList} :
      ListStep world choice (.start list) list found { found with recording := 1 }
  | shifted {list : ListId} {found : FrameList} (startShift : Int32) :
      ListStep world choice (.setListShift list startShift) list found { found with startShift }
  | limited {list : ListId} {found : FrameList} (duration : UInt32) :
      ListStep world choice (.setListDuration list duration) list found { found with duration }
  | loaded {list : ListId} {found : FrameList} (file : Option (List UInt8)) :
      ListStep world choice (.load list file) list found
        (streamerLoad found file (world.loadTurn choice.loads)).list

/-- What an operation does to the list of one identity. -/
inductive ListEffect (world next : World) (choice : Choice) (operation : Op) (list : ListId) :
    Prop where
  | same (kept : next.lists list = world.lists list)
  | changed {found moved : FrameList} (before : world.lists list = some found)
      (after : next.lists list = some moved) (step : ListStep world choice operation list found moved)
  | freed (operation_eq : operation = .freeRecord list) (after : next.lists list = none)
  | recorded {params : KcParams} (operation_eq : operation = .allocRecord)
      (list_eq : list = world.nextList) (found : world.kcParams = some params)
      (after : next.lists list = some (flistInit params.startShift params.recordDuration))
  | loader (operation_eq : operation = .newLoader) (list_eq : list = world.nextList)
      (after : next.lists list = some (flistInit 0 0))

section

variable {world next : World} {choice : Choice} {operation : Op} {list : ListId}

/-- A change of one list. -/
theorem ListEffect.of_setList {other : ListId} {found moved : FrameList}
    (live : world.lists other = some found) (lists : next.lists = (world.setList other moved).lists)
    (step : ListStep world choice operation other found moved) :
    ListEffect world next choice operation list := by
  by_cases same : list = other
  · subst same
    exact .changed live (by simp [lists, World.setList]) step
  · exact .same (by simp [lists, World.setList, same])

/-- A change of one list that exists, as an effect. -/
theorem ListEffect.of_onList {other : ListId} {change : FrameList → FrameList}
    (lists : next.lists = (world.onList other change).lists)
    (step : ∀ found, ListStep world choice operation other found (change found)) :
    ListEffect world next choice operation list := by
  unfold World.onList at lists
  split at lists
  · exact .same (by rw [lists]; rfl)
  · rename_i found live
    exact .of_setList live lists (step found)

/-- Logging a reading leaves the lists. -/
@[simp] theorem World.note_lists (world : World) (list : ListId) (reading : Reading) :
    (world.note list reading).lists = world.lists := rfl

/-- Freeing frames leaves the lists. -/
@[simp] theorem World.free_lists (world : World) (frames : List KcFrame) :
    (world.free frames).lists = world.lists := rfl

/-- A fault leaves the lists. -/
@[simp] theorem World.fail_lists (world : World) (fault : Fault) :
    (world.fail fault).lists = world.lists := rfl

/-- Dropping `m_record` leaves the lists. -/
@[simp] theorem World.detach_lists (world : World) : world.detach.lists = world.lists :=
  (world.detach_agree (by simp) (by simp) : Agree world world.detach .lists).1

end

/-- What an operation does to a list. -/
theorem Op.run_lists {thread : Tid} {choice : Choice} {operation : Op} {world next : World}
    {response : operation.Resp}
    (executed : operation.run thread choice world = some (next, response)) (list : ListId) :
    ListEffect world next choice operation list := by
  by_cases touched : Part.lists ∈ operation.touches
  · cases operation with
    | append other frame =>
        rcases World.append_cases executed with ⟨⟨fault, rfl⟩, _⟩ |
          ⟨found, attached, live, available, _, value⟩
        · exact .same rfl
        · refine .of_setList live ?_ (.append frame attached available)
          rw [value]
          split <;> rfl
    | next other =>
        have value := result_eq executed
        simp only [World.next] at value
        split at value
        · exact .same (by rw [value]; rfl)
        · rename_i found live
          split at value
          · exact .same (by rw [value]; rfl)
          · rename_i moved taken
            exact .of_setList live (by rw [value]; rfl) (.next taken)
          · rename_i moved frame taken
            refine .of_setList live ?_ (.next taken)
            have copied : Agree (world.setList other moved) next .lists :=
              value ▸ World.copyFrame_agree _ _ _ (by simp)
            exact copied.1
    | allocRecord =>
        have value := result_eq executed
        simp only [World.allocRecord] at value
        split at value
        · exact .same (by rw [value]; rfl)
        · rename_i params found
          by_cases same : list = world.nextList
          · exact .recorded rfl same found (by simp [value, same, World.setList])
          · exact .same (by simp [value, World.setList, same])
    | stopRecord =>
        have value := result_eq executed
        simp only [World.stopRecord] at value
        split at value
        · exact .same (by rw [value])
        · rename_i other attached
          split at value
          · exact .same (by rw [value]; rfl)
          · rename_i found live
            exact .of_setList live (by rw [value, World.detach_lists]) (.stopped attached)
    | newLoader =>
        have value := result_eq executed
        by_cases same : list = world.nextList
        · exact .loader rfl same (by simp [value, World.newLoader, World.setStreamer,
            World.setList, same])
        · exact .same (by simp [value, World.newLoader, World.setStreamer, World.setList, same])
    | load other file =>
        have value := result_eq executed
        simp only [World.load] at value
        split at value
        · exact .same (by rw [value]; rfl)
        · rename_i found live
          exact .of_setList live (by rw [value]) (.loaded file)
    | freeRecord other =>
        have value := result_eq executed
        simp only [World.freeRecord] at value
        split at value
        · exact .same (by rw [value]; rfl)
        · exact .same (by rw [value]; rfl)
        · by_cases same : list = other
          · exact .freed (by rw [same]) (by simp [value, same])
          · exact .same (by simp [value, same])
    | seek other n =>
        exact .of_onList (by rw [result_eq executed]; rfl) fun found => .sought n
    | start other =>
        exact .of_onList (congrArg World.lists (result_eq executed)) fun found => .started
    | setListShift other startShift =>
        exact .of_onList (congrArg World.lists (result_eq executed)) fun found => .shifted startShift
    | setListDuration other duration =>
        exact .of_onList (congrArg World.lists (result_eq executed)) fun found => .limited duration
    | saveNext other =>
        have value := result_eq executed
        simp only [World.saveNext] at value
        split at value
        · exact .same (by rw [value]; rfl)
        · rename_i found live
          split at value
          · exact .same (by rw [value]; rfl)
          · rename_i moved taken
            exact .of_setList live (by rw [value]) (.saved taken)
          · rename_i moved frame taken
            exact .of_setList live (by rw [value]) (.saved taken)
    | _ => simp [Op.touches] at touched
  · exact .same (congrFun (run_agree executed touched).1 list)

/-- Identities of lists are given out in order. -/
theorem Op.run_nextList {thread : Tid} {choice : Choice} {operation : Op} {world next : World}
    {response : operation.Resp}
    (executed : operation.run thread choice world = some (next, response)) :
    next.nextList = world.nextList ∨
      next.nextList = world.nextList + 1 ∧ (operation = .allocRecord ∨ operation = .newLoader) := by
  by_cases touched : Part.numbering ∈ operation.touches
  · cases operation with
    | allocRecord =>
        rw [result_eq executed]
        unfold World.allocRecord
        split
        · exact .inl rfl
        · exact .inr ⟨rfl, .inl rfl⟩
    | newLoader =>
        rw [result_eq executed]
        exact .inr ⟨rfl, .inr rfl⟩
    | _ => simp [Op.touches] at touched
  · exact .inl (run_agree executed touched).1

end KCamera
