import KCamera.Engine.Lists
import KCamera.FrameList.Links
import KCamera.FrameList.Shape

/-!
# Who reads and writes what

The live frame and the fields of the lists, and which of them each operation reads and
writes, as its source does. An operation changes nothing but what it writes.
-/

namespace KCamera

/-- What a list is made of. -/
inductive Field where
  /-- `m_recording` -/
  | recording
  /-- `m_front`, `m_back` and `m_len`, with the nodes and their frames -/
  | frames
  /-- `m_readNode` and `m_readIndex` -/
  | cursor
  /-- `m_t0` -/
  | t0
  /-- `m_startShift` -/
  | startShift
  /-- `m_duration` -/
  | duration
deriving DecidableEq, Repr

/-- Memory that several threads use. -/
inductive Location where
  /-- `m_frame` of the camera's state -/
  | slot
  | list (list : ListId) (field : Field)
deriving DecidableEq, Repr

/-- The fields of a list. -/
def fieldsOf (list : ListId) (fields : List Field) : List Location := fields.map (.list list)

/-- A whole list. -/
def wholeList (list : ListId) : List Location :=
  fieldsOf list [.recording, .frames, .cursor, .t0, .startShift, .duration]

/-- The fields of the attached record. -/
def World.recordFields (world : World) (fields : List Field) : List Location :=
  match world.g.record with
  | none => []
  | some list => fieldsOf list fields

/-- A list's field is among the asked fields of that list. -/
@[simp] theorem mem_fieldsOf {list asked : ListId} {field : Field} {fields : List Field} :
    .list list field ∈ fieldsOf asked fields ↔ asked = list ∧ field ∈ fields := by
  simp only [fieldsOf, List.mem_map, Location.list.injEq]
  constructor
  · rintro ⟨_, member, rfl, rfl⟩
    exact ⟨rfl, member⟩
  · rintro ⟨rfl, member⟩
    exact ⟨field, member, rfl, rfl⟩

/-- Every field of the list, and none of another. -/
@[simp] theorem mem_wholeList {list asked : ListId} {field : Field} :
    .list list field ∈ wholeList asked ↔ asked = list := by
  cases field <;> simp [wholeList]

/-- The fields of the attached record. -/
@[simp] theorem mem_recordFields {world : World} {list : ListId} {field : Field}
    {fields : List Field} :
    .list list field ∈ world.recordFields fields ↔
      world.g.record = some list ∧ field ∈ fields := by
  unfold World.recordFields
  split <;> simp [*]

/-- What an operation reads. -/
def Op.reads (world : World) : Op → List Location
  | .slotEmpty | .setTimer | .takeFrame | .dropFrame | .beginFrame _ => [.slot]
  | .append list _ => fieldsOf list [.recording, .frames, .t0, .startShift, .duration]
  | .nextRecordFrame list | .next list | .saveNext list | .seek list _ =>
      fieldsOf list [.frames, .cursor]
  | .lastRecordFrame => world.recordFields [.frames]
  | .copyBack list => fieldsOf list [.frames]
  | .noteIndex _ list => fieldsOf list [.cursor]
  | .inspect list => fieldsOf list [.recording, .frames, .cursor]
  | .time list => fieldsOf list [.recording, .frames, .cursor, .t0, .startShift]
  | .recordLimited => world.recordFields [.duration]
  | .durationProgress => world.recordFields [.frames, .duration]
  | .newStreamer _ => world.recordFields [.startShift, .duration]
  | .load list _ | .freeRecord list => wholeList list
  | _ => []

/-- What an operation writes. -/
def Op.writes (world : World) : Op → List Location
  | .resetState | .takeFrame | .dropFrame | .beginFrame _ => [.slot]
  | .append list _ => fieldsOf list [.recording, .frames, .t0]
  | .stopRecord => world.recordFields [.recording]
  | .start list => fieldsOf list [.recording]
  | .next list | .saveNext list | .seek list _ => fieldsOf list [.cursor]
  | .setListShift list _ => fieldsOf list [.startShift]
  | .setListDuration list _ => fieldsOf list [.duration]
  | .allocRecord | .newLoader => wholeList world.nextList
  | .load list _ | .freeRecord list => wholeList list
  | _ => []

/-- The lists agree on a field. -/
def Field.Same (list moved : FrameList) : Field → Prop
  | .recording => moved.recording = list.recording
  | .frames =>
      moved.front = list.front ∧ moved.back = list.back ∧ moved.len = list.len ∧
        moved.nodes = list.nodes
  | .cursor => moved.readNode = list.readNode ∧ moved.readIndex = list.readIndex
  | .t0 => moved.t0 = list.t0
  | .startShift => moved.startShift = list.startShift
  | .duration => moved.duration = list.duration

/-- A list agrees with itself on every field. -/
theorem Field.same_refl (list : FrameList) (field : Field) : field.Same list list := by
  cases field <;> simp [Field.Same]

/-- The worlds agree on a location. -/
inductive Location.Same (world next : World) : Location → Prop where
  | slot (frame : next.g.frame = world.g.frame) : Location.Same world next .slot
  | absent {list : ListId} {field : Field} (before : world.lists list = none)
      (after : next.lists list = none) : Location.Same world next (.list list field)
  | present {list : ListId} {field : Field} {found moved : FrameList}
      (before : world.lists list = some found) (after : next.lists list = some moved)
      (same : field.Same found moved) : Location.Same world next (.list list field)

/-! ## Appending -/

section

variable (list : FrameList) (frame : KcFrame)

/-- Trimming leaves the settings and the cursor. -/
theorem trim_keeps (fuel : Nat) (start : Int64) : Keeps list (trim fuel list start).1 := by
  induction fuel generalizing list with
  | zero => exact .refl list
  | succ fuel ih =>
      unfold trim
      split
      · exact .refl list
      · rename_i first _
        split
        · exact .refl list
        · split
          · split
            · exact .refl list
            · rename_i second _
              have rest := ih { freeNode list first with front := some second, len := list.len - 1 }
              exact ⟨rest.readNode, rest.readIndex, rest.t0, rest.startShift, rest.duration⟩
          · exact .refl list

/-- The window leaves the settings and the cursor. -/
theorem window_keeps : Keeps list (window list frame).1 := by
  unfold window
  split
  · exact trim_keeps list _ _
  · exact .refl list

/-- Linking a node leaves the settings and the cursor. -/
theorem linkLast_keeps (node : Addr) : Keeps list (linkLast list node frame) := by
  unfold linkLast
  split <;> exact ⟨rfl, rfl, rfl, rfl, rfl⟩

/-- The pre-roll leaves the settings and the cursor. -/
theorem preRoll_settings : Keeps list (preRoll list frame).1 := by
  unfold preRoll
  split
  · split
    · split
      · unfold dropKept
        split <;> exact ⟨rfl, rfl, rfl, rfl, rfl⟩
      · exact .refl list
    · exact ⟨rfl, rfl, rfl, rfl, rfl⟩
  · exact .refl list

/-- Appending moves neither the cursor nor the settings. -/
theorem flistAppend_keeps (node : Option Addr) :
    ∃ t0, Keeps { list with t0 } (flistAppend list frame node).list := by
  by_cases active : list.recording = 0
  · exact ⟨list.t0, by rw [flistAppend, if_pos active]; exact .refl _⟩
  · refine ⟨list.startTime frame, ?_⟩
    have rolled : Keeps (list.setStart frame) _ := preRoll_settings (list.setStart frame) frame
    cases node with
    | none =>
        rw [flistAppend, if_neg active]
        exact rolled
    | some node =>
        have kept := (rolled.trans (linkLast_keeps _ frame node)).trans (window_keeps _ frame)
        rw [flistAppend_eq active]
        dsimp only
        split
        · exact ⟨kept.readNode, kept.readIndex, kept.t0, kept.startShift, kept.duration⟩
        · exact kept

end

/-! ## What is not written -/

variable {world next : World} {choice : Choice} {operation : Op}

/-- A step of a list leaves the fields alone that the operation does not write. -/
theorem ListStep.same {list : ListId} {found moved : FrameList} {field : Field}
    (step : ListStep world choice operation list found moved)
    (untouched : .list list field ∉ operation.writes world) : field.Same found moved := by
  cases step with
  | append frame attached available =>
      obtain ⟨t0, kept⟩ := flistAppend_keeps found frame choice.node
      cases field with
      | cursor => exact ⟨kept.readNode, kept.readIndex⟩
      | startShift => exact kept.startShift
      | duration => exact kept.duration
      | recording | frames | t0 => simp [Op.writes] at untouched
  | stopped attached =>
      cases field <;> simp [Op.writes, attached, Field.Same] at untouched ⊢
  | next taken | saved taken =>
      obtain ⟨readNode, readIndex, same⟩ := flistNext_moves taken
      rw [same]
      cases field <;> simp [Op.writes, Field.Same] at untouched ⊢
  | sought n =>
      obtain ⟨readNode, readIndex, same⟩ := flistSeek_moves found n
      rw [same]
      cases field <;> simp [Op.writes, Field.Same] at untouched ⊢
  | started | shifted _ | limited _ =>
      cases field <;> simp [Op.writes, Field.Same] at untouched ⊢
  | loaded file => simp [Op.writes] at untouched

/-- An operation changes nothing but what it writes. -/
theorem Op.run_same {thread : Tid} {response : operation.Resp}
    (executed : operation.run thread choice world = some (next, response)) (location : Location)
    (untouched : location ∉ operation.writes world) : location.Same world next := by
  cases location with
  | slot =>
      refine .slot ?_
      by_cases touched : Part.slot ∈ operation.touches
      · cases operation with
        | resetState | dropFrame | takeFrame | beginFrame =>
            simp [Op.writes] at untouched
        | _ => simp [Op.touches] at touched
      · exact run_agree executed touched
  | list list field =>
      rcases run_lists executed list with same | ⟨before, after, step⟩ | ⟨rfl, _⟩ |
        ⟨rfl, rfl, _⟩ | ⟨rfl, rfl, _⟩
      · cases before : world.lists list with
        | none => exact .absent before (same.trans before)
        | some found => exact .present before (same.trans before) (field.same_refl found)
      · exact .present before after (step.same untouched)
      all_goals simp [Op.writes] at untouched

end KCamera
