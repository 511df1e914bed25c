import KCamera.Camera.References
import KCamera.Engine.Holdings

/-!
# Who frees a list

A `FrameList` is freed by the Streamer whose `m_record` it is. Between
`kcStartRecord` and `createStream` it is in the hands of the call of `record`.
`createStream("")` takes whatever `kcGetRecord` returns at that moment, so that
each list has one owner as long as `stream` and `load("")` find no record and no
record is detached before `record` has taken it.
-/

namespace KCamera

open Machine

open Function (update)

/-- Who is to free a list. -/
inductive Owner where
  | streamer (streamer : StreamerId)
  /-- The thread whose call of `record` has allocated the list. -/
  | call (thread : Tid)
deriving DecidableEq, Repr

/-- The list is a Streamer's `m_record`. -/
def World.Holds (world : World) (streamer : StreamerId) (list : ListId) : Prop :=
  ∃ found, world.streamers streamer = some found ∧ found.record = some list

def Owns (world : World) (stages : Tid → Stage) (list : ListId) : Owner → Prop
  | .streamer streamer => world.Holds streamer list
  | .call thread => ∃ reset, (stages thread).binding = some (list, reset)

/-- Lists and Streamers belong to each other one to one. -/
structure OwnedOnce (state : System) : Prop where
  /-- `record` returns a Streamer for the list that its `kcStartRecord` allocated. -/
  recorded : ∀ streamer found list, state.world.streamers streamer = some found →
    found.origin = .record list → found.record = some list
  /-- `stream` returns a Streamer with `m_record == NULL`. -/
  live : ∀ streamer found, state.world.streamers streamer = some found →
    found.origin = .stream → found.record = none
  distinct : ∀ first second list, state.world.Holds first list → state.world.Holds second list →
    first = second
  /-- A list that was not freed has one owner. -/
  owned : ∀ list < state.world.nextList, list ∉ state.world.freedLists →
    ∃! owner, Owns state.world state.stage list owner
  once : state.world.freedLists.Nodup
  /-- What is about to be freed was not freed before, and is not `m_record`. -/
  freed : ∀ thread list, state.world.fault = none →
    (state.code thread).current = some (.freeRecord list) →
    list ∉ state.world.freedLists ∧ state.world.g.record ≠ some list
  attached : ∀ list, state.world.g.record = some list → list ∉ state.world.freedLists

/-- `stream` and `load("")` make a Streamer only while there is no record, and no
record is detached while a call of `record` has a list for which it has yet to
make one. -/
def BindsApart (state : System) (_ : Tid) (_ : Choice) : Op → Prop
  | .newStreamer .stream | .newStreamer .load => state.world.g.record = none
  | .stopRecord | .dropFrame | .initParams _ =>
      ∀ thread, (state.stage thread).binding = none
  | _ => True

/-! ## The owners of all lists -/

/-- Who has which list, in all runs in which lists and Streamers are bound apart. -/
structure Owning (world : World) (stages : Tid → Stage) : Prop where
  /-- A Streamer has the list that it was seen with, and is there while it is used. -/
  self : world.fault = none → ∀ thread streamer record,
    (stages thread).self = some (streamer, record) → streamer < world.nextStreamer ∧
      ∀ found, world.streamers streamer = some found → found.record = record
  used : ∀ thread streamer list, (stages thread).self = some (streamer, some list) →
    (world.streamers streamer).isSome
  recorded : ∀ streamer found list, world.streamers streamer = some found →
    found.origin = .record list → found.record = some list
  live : ∀ streamer found, world.streamers streamer = some found →
    found.origin = .stream → found.record = none
  old : ∀ streamer list, world.Holds streamer list → list < world.nextList
  distinct : ∀ first second list, world.Holds first list → world.Holds second list →
    first = second
  /-- A call of `record` has a list that no Streamer has, and that is attached. -/
  unbound : ∀ thread list reset, (stages thread).binding = some (list, reset) →
    ∀ streamer, ¬world.Holds streamer list
  bound : world.fault = none → ∀ thread list reset,
    (stages thread).binding = some (list, reset) → world.g.record = some list
  attached : ∀ list, world.g.record = some list → (world.lists list).isSome
  /-- The list of a Streamer is there unless the Streamer is about to go, and then it is not. -/
  there : ∀ streamer list, world.Holds streamer list →
    (∀ thread, (stages thread).closing ≠ some streamer) → (world.lists list).isSome
  closed : world.fault = none → ∀ thread streamer, (stages thread).closing = some streamer →
    streamer < world.nextStreamer ∧
      ∀ list, world.Holds streamer list → world.lists list = none
  owned : ∀ list, (world.lists list).isSome → ∃ owner, Owns world stages list owner

section

variable {condition : System → Tid → Choice → Op → Prop} {state : System} {thread : Tid}
  {choice : Choice} {operation : Op} {world : World} {response : operation.Resp}

/-- A Streamer with a list had it before, or is new. -/
theorem Turn.holds_before (turn : Turn condition state thread choice operation world response)
    {streamer : StreamerId} {list : ListId} (holds : world.Holds streamer list) :
    state.world.Holds streamer list ∨
      ((∃ origin, operation = .newStreamer origin) ∧ streamer = state.world.nextStreamer ∧
        state.world.g.record = some list) ∨
      operation = .newLoader ∧ streamer = state.world.nextStreamer ∧
        list = state.world.nextList := by
  obtain ⟨found, live, record⟩ := holds
  rcases Op.run_holding turn.executed streamer with
    kept | ⟨rfl, fresh, after⟩ | ⟨rfl, fresh, after⟩ | ⟨_, gone⟩
  · rw [live] at kept
    obtain ⟨before, live', same⟩ := Option.map_eq_some_iff.mp kept.symm
    simp only [Streamer.holding, Prod.mk.injEq] at same
    exact .inl ⟨before, live', same.1.trans record⟩
  · simp only [live, Option.map_some, Streamer.holding, Option.some.injEq, Prod.mk.injEq] at after
    exact .inr (.inl ⟨⟨_, rfl⟩, fresh, after.1.symm.trans record⟩)
  · simp only [live, Option.map_some, Streamer.holding, Option.some.injEq, Prod.mk.injEq] at after
    refine .inr (.inr ⟨rfl, fresh, ?_⟩)
    exact (Option.some.inj (after.1.symm.trans record)).symm
  · simp [gone] at live

/-- A Streamer keeps its list until it goes. -/
theorem Turn.holds_kept (turn : Turn condition state thread choice operation world response)
    {streamer : StreamerId} {list : ListId} (holds : state.world.Holds streamer list)
    (stays : operation ≠ .freeStreamer streamer) : world.Holds streamer list := by
  obtain ⟨found, live, record⟩ := holds
  have old : streamer < state.world.nextStreamer := by
    by_contra new
    simp [streamers_beyond turn.reached streamer (Nat.le_of_not_lt new)] at live
  rcases Op.run_holding turn.executed streamer with
    kept | ⟨_, fresh, _⟩ | ⟨_, fresh, _⟩ | ⟨frees, _⟩
  · rw [live] at kept
    obtain ⟨after, live', same⟩ := Option.map_eq_some_iff.mp kept
    simp only [Streamer.holding, Prod.mk.injEq] at same
    exact ⟨after, live', same.1.trans record⟩
  · exact absurd (fresh ▸ old) (Nat.lt_irrefl _)
  · exact absurd (fresh ▸ old) (Nat.lt_irrefl _)
  · exact absurd frees stays

/-- What a call of `record` is about to bind stays so until a Streamer is made. -/
theorem Turn.binding_before (turn : Turn condition state thread choice operation world response)
    {other : Tid} {list : ListId} {reset : Bool}
    (binding : (update state.stage thread ((state.stage thread).after operation response)
      other).binding = some (list, reset)) :
    (∃ reset, (state.stage other).binding = some (list, reset)) ∨
      operation = .allocRecord ∧ other = thread ∧ list = state.world.nextList := by
  by_cases moves : Mark.binding ∈ operation.marks
  · by_cases same : other = thread
    · subst same
      rw [Function.update_self] at binding
      cases operation with
      | allocRecord =>
          have answer := turn.executed
          simp only [Op.run, World.allocRecord, Option.some.injEq] at answer
          simp only [Stage.after, Option.some.injEq, Prod.mk.injEq] at binding
          refine .inr ⟨rfl, rfl, ?_⟩
          rw [← binding.1]
          split at answer <;> cases answer <;> rfl
      | resetState =>
          simp only [Stage.after, Option.map_eq_some_iff, Prod.mk.injEq] at binding
          obtain ⟨⟨before, reset'⟩, bound, rfl, -⟩ := binding
          exact .inl ⟨reset', bound⟩
      | newStreamer origin => cases binding
      | _ => simp [Op.marks] at moves
    · rw [Function.update_of_ne same] at binding
      exact .inl ⟨reset, binding⟩
  · have shares : (state.stage other).Shares _ .binding := turn.shares_update moves other
    exact .inl ⟨reset, shares ▸ binding⟩

/-- A Streamer that is about to go stays so until it is gone. -/
theorem Turn.closing_kept (turn : Turn condition state thread choice operation world response)
    {other : Tid} {streamer : StreamerId} (closing : (state.stage other).closing = some streamer)
    (stays : operation ≠ .freeStreamer streamer) :
    (update state.stage thread ((state.stage thread).after operation response)
      other).closing = some streamer := by
  by_cases moves : Mark.closing ∈ operation.marks
  · by_cases same : other = thread
    · subst same
      have allowed := turn.allowed
      cases operation with
      | streamCallback _ =>
          obtain ⟨_, _, _, _, unclosed⟩ := allowed
          simp [unclosed] at closing
      | freeRecord _ =>
          obtain ⟨_, _, _, ⟨unclosed, _⟩, _⟩ := allowed
          simp [unclosed] at closing
      | freeStreamer freed =>
          obtain ⟨_, _, _, closes, _, _⟩ := allowed
          rw [closing, Option.some.injEq] at closes
          exact absurd (by rw [closes]) stays
      | _ => simp [Op.marks] at moves
    · rwa [Function.update_of_ne same]
  · have shares : (state.stage other).Shares _ .closing := turn.shares_update moves other
    exact Eq.trans shares closing

/-- The Streamer of a call was looked up before, or is now. -/
theorem Turn.self_before (turn : Turn condition state thread choice operation world response)
    {other : Tid} {streamer : StreamerId} {record : Option ListId}
    (self : (update state.stage thread ((state.stage thread).after operation response)
      other).self = some (streamer, record)) :
    ((state.stage other).self = some (streamer, record) ∧
        (other = thread → operation ≠ .freeStreamer streamer)) ∨
      other = thread ∧ world.streamers = state.world.streamers ∧
        ((∃ found, state.world.streamers streamer = some found ∧ found.record = record) ∨
          record = none ∧ world.fault ≠ none) := by
  by_cases moves : Mark.self ∈ operation.marks
  · by_cases same : other = thread
    · subst same
      rw [Function.update_self] at self
      cases operation with
      | recordOf asked =>
          have executed := turn.executed
          simp only [Op.run, Option.some.injEq] at executed
          simp only [Stage.after, Option.some.injEq, Prod.mk.injEq] at self
          obtain ⟨rfl, rfl⟩ := self
          cases there : state.world.streamers asked with
          | none =>
              rw [there] at executed
              cases executed
              exact .inr ⟨rfl, rfl, .inr ⟨rfl, by simp [World.fail]⟩⟩
          | some found =>
              rw [there] at executed
              cases executed
              exact .inr ⟨rfl, rfl, .inl ⟨found, rfl, rfl⟩⟩
      | endCall request reply => cases self
      | freeStreamer freed => cases self
      | _ => simp [Op.marks] at moves
    · rw [Function.update_of_ne same] at self
      exact .inl ⟨self, fun own => absurd own same⟩
  · have shares : (state.stage other).Shares _ .self := turn.shares_update moves other
    refine .inl ⟨shares ▸ self, ?_⟩
    rintro - rfl
    simp [Op.marks] at moves

/-! ## One operation -/

variable (owning : Owning state.world state.stage)

include owning

/-- The Streamer of a call was made, and its record is the one the call has seen. -/
theorem Owning.self_step (turn : Turn condition state thread choice operation world response)
    (sound : world.fault = none) (other : Tid) (streamer : StreamerId) (record : Option ListId)
    (self : (update state.stage thread ((state.stage thread).after operation response)
      other).self = some (streamer, record)) :
    streamer < world.nextStreamer ∧
      ∀ found, world.streamers streamer = some found → found.record = record := by
  rcases turn.self_before self with ⟨before, _⟩ | ⟨_, same, ⟨found, live, rfl⟩ | ⟨_, failed⟩⟩
  · exact self_kept turn (owning.self turn.running other streamer record before)
  · refine self_kept turn ⟨?_, ?_⟩
    · by_contra new
      simp [streamers_beyond turn.reached streamer (Nat.le_of_not_lt new)] at live
    · intro found' live'
      rw [live, Option.some.injEq] at live'
      rw [live']
  · exact absurd sound failed

/-- The Streamer of a call on a list is still there. -/
theorem Owning.used_step (turn : Turn condition state thread choice operation world response)
    (other : Tid) (streamer : StreamerId) (list : ListId)
    (self : (update state.stage thread ((state.stage thread).after operation response)
      other).self = some (streamer, some list)) : (world.streamers streamer).isSome := by
  rcases turn.self_before self with ⟨before, own⟩ | ⟨_, same, ⟨found, live, _⟩ | ⟨absent, _⟩⟩
  · refine turn.streamer_kept ?_ (owning.used other streamer list before)
    rintro rfl
    exact own (turn.sole turn.allowed.2.1 (by simp [before])) rfl
  · rw [same, live]
    rfl
  · cases absent

/-- The Streamer of a call has its list. -/
theorem Owning.holds (sound : state.world.fault = none) {other : Tid} {streamer : StreamerId}
    {list : ListId} (self : (state.stage other).self = some (streamer, some list)) :
    state.world.Holds streamer list := by
  obtain ⟨found, live⟩ := Option.isSome_iff_exists.mp (owning.used other streamer list self)
  exact ⟨found, live, (owning.self sound other streamer (some list) self).2 found live⟩

/-- A Streamer's list was made before. -/
theorem Owning.old_step (turn : Turn condition state thread choice operation world response)
    (streamer : StreamerId) (list : ListId) (holds : world.Holds streamer list) :
    list < world.nextList := by
  have numbers : state.world.nextList ≤ world.nextList := by
    rcases Op.run_nextList turn.executed with kept | ⟨counted, _⟩ <;> omega
  rcases turn.holds_before holds with before | ⟨_, _, attached⟩ | ⟨rfl, _, rfl⟩
  · exact Nat.lt_of_lt_of_le (owning.old streamer list before) numbers
  · exact Nat.lt_of_lt_of_le ((numbered turn.reached).record list attached) numbers
  · rw [result_eq turn.executed]
    exact Nat.lt_succ_self _

/-- The attached list is not freed. -/
theorem Owning.attached_step (turn : Turn condition state thread choice operation world response)
    (list : ListId) (attached : world.g.record = some list) : (world.lists list).isSome := by
  by_cases starts : operation = .allocRecord
  · subst starts
    have value := result_eq turn.executed
    simp only [World.allocRecord] at value
    split at value
    · rw [value] at attached ⊢
      exact owning.attached list attached
    · rw [value] at attached ⊢
      cases attached
      simp [World.setList]
  · rcases Op.run_record turn.executed starts with same | detached
    · rw [same] at attached
      have live := owning.attached list attached
      rcases Op.run_live turn.executed list with alike | ⟨rfl, _⟩ | ⟨_, rfl⟩
      · rw [alike, live]
      · exact absurd attached turn.freeRecord_apart
      · simp [(numbered turn.reached).lists _ (Nat.le_refl _)] at live
    · simp [detached] at attached

/-- A list that waits for its Streamer has none yet. -/
theorem Owning.unbound_step (turn : Turn condition state thread choice operation world response)
    (other : Tid) (list : ListId) (reset : Bool)
    (binding : (update state.stage thread ((state.stage thread).after operation response)
      other).binding = some (list, reset)) (streamer : StreamerId) :
    ¬world.Holds streamer list := by
  intro holds
  rcases turn.binding_before binding with ⟨before, bound⟩ | ⟨rfl, _, rfl⟩
  · rcases turn.holds_before holds with had | ⟨⟨origin, rfl⟩, _, _⟩ | ⟨rfl, _, rfl⟩
    · exact owning.unbound other list before bound streamer had
    · have same : other = thread := turn.sole turn.allowed.2.1 (by simp [bound])
      rw [same, Function.update_self] at binding
      cases binding
    · have attached := owning.bound turn.running other _ before bound
      exact Nat.lt_irrefl _ ((numbered turn.reached).record _ attached)
  · rcases turn.holds_before holds with had | ⟨⟨origin, made⟩, _, _⟩ | ⟨made, _, _⟩
    · exact Nat.lt_irrefl _ (owning.old streamer _ had)
    · cases made
    · cases made

/-- A Streamer's list is there until the Streamer is about to go. -/
theorem Owning.there_step (turn : Turn condition state thread choice operation world response)
    (streamer : StreamerId) (list : ListId) (holds : world.Holds streamer list)
    (stays : ∀ other, (update state.stage thread ((state.stage thread).after operation response)
      other).closing ≠ some streamer) : (world.lists list).isSome := by
  rcases turn.holds_before holds with before | ⟨⟨origin, rfl⟩, _, attached⟩ | ⟨rfl, _, rfl⟩
  · have frees : operation ≠ .freeStreamer streamer := by
      rintro rfl
      obtain ⟨found, live, _⟩ := holds
      rw [result_eq turn.executed] at live
      simp at live
    have live := owning.there streamer list before fun other closing =>
      stays other (turn.closing_kept closing frees)
    rcases Op.run_live turn.executed list with alike | ⟨rfl, _⟩ | ⟨_, rfl⟩
    · rw [alike, live]
    · -- Who frees the list is the Streamer that has it, and it is about to go.
      obtain ⟨_, _, _, ⟨_, self, about⟩, _⟩ := turn.allowed
      obtain rfl := owning.distinct self streamer list (owning.holds turn.running about) before
      refine absurd ?_ (stays thread)
      simp [about]
    · simp [(numbered turn.reached).lists _ (Nat.le_refl _)] at live
  · have lists : Agree state.world world .lists := Op.run_agree turn.executed (by simp [Op.touches])
    rw [lists.1]
    exact owning.attached list attached
  · rw [result_eq turn.executed]
    simp [World.newLoader, World.setStreamer, World.setList]

/-- Of a Streamer about to go, the list is freed already. -/
theorem Owning.closed_step (turn : Turn condition state thread choice operation world response)
    (sound : world.fault = none) (other : Tid) (streamer : StreamerId)
    (closing : (update state.stage thread ((state.stage thread).after operation response)
      other).closing = some streamer) :
    streamer < world.nextStreamer ∧
      ∀ list, world.Holds streamer list → world.lists list = none := by
  by_cases before : (state.stage other).closing = some streamer
  · obtain ⟨old, gone⟩ := owning.closed turn.running other streamer before
    refine ⟨Nat.lt_of_lt_of_le old turn.nextStreamer_le, fun list holds => ?_⟩
    rcases turn.holds_before holds with had | ⟨_, rfl, _⟩ | ⟨_, rfl, _⟩
    · have none := gone list had
      rcases Op.run_live turn.executed list with alike | ⟨_, after⟩ | ⟨_, rfl⟩
      · simpa [none] using alike
      · exact after
      · exact absurd (owning.old streamer _ had) (Nat.lt_irrefl _)
    · exact absurd old (Nat.lt_irrefl _)
    · exact absurd old (Nat.lt_irrefl _)
  · have allowed := turn.allowed
    by_cases moves : Mark.closing ∈ operation.marks
    · by_cases same : other = thread
      · subst same
        rw [Function.update_self] at closing
        cases operation with
        | streamCallback called =>
            obtain ⟨_, _, _, about, _⟩ := allowed
            cases closing
            obtain ⟨old, record⟩ := owning.self turn.running other streamer none about
            refine ⟨Nat.lt_of_lt_of_le old turn.nextStreamer_le, fun list holds => ?_⟩
            obtain ⟨found, live, has⟩ | ⟨⟨_, made⟩, _⟩ | ⟨made, _⟩ := turn.holds_before holds
            · simp [record found live] at has
            · cases made
            · cases made
        | freeRecord freed =>
            obtain ⟨_, _, _, ⟨_, self, about⟩, _⟩ := allowed
            simp only [Stage.after, about, Option.map_some, Option.some.injEq] at closing
            subst closing
            obtain ⟨old, record⟩ := owning.self turn.running other self _ about
            refine ⟨Nat.lt_of_lt_of_le old turn.nextStreamer_le, fun list holds => ?_⟩
            obtain ⟨found, live, has⟩ | ⟨⟨_, made⟩, _⟩ | ⟨made, _⟩ := turn.holds_before holds
            · rw [record found live, Option.some.injEq] at has
              subst has
              rcases state.world.freeRecord_cases freed with ⟨fault, failed⟩ | ⟨_, lists, _⟩
              · rw [result_eq turn.executed, failed] at sound
                cases sound
              · rw [result_eq turn.executed, lists, Function.update_self]
            · cases made
            · cases made
        | freeStreamer freed => cases closing
        | _ => simp [Op.marks] at moves
      · rw [Function.update_of_ne same] at closing
        exact absurd closing before
    · have shares : (state.stage other).Shares _ .closing := turn.shares_update moves other
      exact absurd (shares ▸ closing) before

/-! ## Lists and Streamers that are bound apart -/

/-- A list that waits for its Streamer is the attached one. -/
theorem Owning.bound_step (turn : Turn BindsApart state thread choice operation world response)
    (sound : world.fault = none) (other : Tid) (list : ListId) (reset : Bool)
    (binding : (update state.stage thread ((state.stage thread).after operation response)
      other).binding = some (list, reset)) : world.g.record = some list := by
  rcases turn.binding_before binding with ⟨before, bound⟩ | ⟨rfl, _, rfl⟩
  · have attached := owning.bound turn.running other list before bound
    by_cases touched : Part.attached ∈ operation.touches
    · have admitted := turn.admitted
      cases operation with
      | stopRecord | dropFrame | initParams _ => simp [admitted other] at bound
      | allocRecord =>
          obtain ⟨_, gil, _, _, _, unbound, _⟩ := turn.allowed
          have same : other = thread := turn.sole gil (by simp [bound])
          simp [same, unbound] at bound
      | _ => simp [Op.touches] at touched
    · exact Eq.trans (Op.run_agree turn.executed touched : Agree state.world world .attached) attached
  · have value := result_eq turn.executed
    simp only [World.allocRecord] at value
    split at value
    · rw [value] at sound
      cases sound
    · rw [value]

/-- The Streamer that `createStream("")` makes has the list of its call, if that
is one of `record`, and else none. -/
theorem Owning.made {origin : Origin} {response : Op.Resp (.newStreamer origin)}
    (turn : Turn BindsApart state thread choice (.newStreamer origin) world response) :
    (∃ list, origin = .record list ∧ state.world.g.record = some list ∧
        (state.stage thread).binding = some (list, true)) ∨
      (∀ list, origin ≠ .record list) ∧ state.world.g.record = none := by
  obtain ⟨_, _, _, _, binds⟩ := turn.allowed
  cases origin with
  | record list => exact .inl ⟨list, rfl, owning.bound turn.running thread list true binds, binds⟩
  | stream => exact .inr ⟨by simp, turn.admitted⟩
  | load => exact .inr ⟨by simp, turn.admitted⟩

/-- A Streamer made by `record` has the list of its call. -/
theorem Owning.recorded_step (turn : Turn BindsApart state thread choice operation world response)
    (streamer : StreamerId) (found : Streamer) (list : ListId)
    (live : world.streamers streamer = some found) (origin : found.origin = .record list) :
    found.record = some list := by
  rcases Op.run_holding turn.executed streamer with
    kept | ⟨rfl, _, after⟩ | ⟨rfl, _, after⟩ | ⟨_, gone⟩
  · rw [live] at kept
    obtain ⟨before, live', same⟩ := Option.map_eq_some_iff.mp kept.symm
    simp only [Streamer.holding, Prod.mk.injEq] at same
    rw [← same.1]
    exact owning.recorded streamer before list live' (same.2.trans origin)
  · simp only [live, Option.map_some, Streamer.holding, Option.some.injEq, Prod.mk.injEq] at after
    rcases owning.made turn with ⟨other, rfl, attached, _⟩ | ⟨apart, _⟩
    · obtain rfl : list = other := by simpa using origin.symm.trans after.2
      exact after.1.trans attached
    · exact absurd (after.2.symm.trans origin) (apart list)
  · simp only [live, Option.map_some, Streamer.holding, Option.some.injEq, Prod.mk.injEq] at after
    cases after.2.symm.trans origin
  · simp [gone] at live

/-- A Streamer made by `stream` has no list. -/
theorem Owning.live_step (turn : Turn BindsApart state thread choice operation world response)
    (streamer : StreamerId) (found : Streamer) (live : world.streamers streamer = some found)
    (origin : found.origin = .stream) : found.record = none := by
  rcases Op.run_holding turn.executed streamer with
    kept | ⟨rfl, _, after⟩ | ⟨rfl, _, after⟩ | ⟨_, gone⟩
  · rw [live] at kept
    obtain ⟨before, live', same⟩ := Option.map_eq_some_iff.mp kept.symm
    simp only [Streamer.holding, Prod.mk.injEq] at same
    rw [← same.1]
    exact owning.live streamer before live' (same.2.trans origin)
  · simp only [live, Option.map_some, Streamer.holding, Option.some.injEq, Prod.mk.injEq] at after
    rcases owning.made turn with ⟨other, rfl, _, _⟩ | ⟨_, detached⟩
    · cases after.2.symm.trans origin
    · exact after.1.trans detached
  · simp only [live, Option.map_some, Streamer.holding, Option.some.injEq, Prod.mk.injEq] at after
    cases after.2.symm.trans origin
  · simp [gone] at live

/-- A new Streamer's list was no Streamer's before. -/
theorem Owning.fresh (turn : Turn BindsApart state thread choice operation world response)
    {streamer : StreamerId} {list : ListId} (holds : world.Holds streamer list)
    (new : ¬state.world.Holds streamer list) :
    streamer = state.world.nextStreamer ∧ ∀ other, ¬state.world.Holds other list := by
  rcases turn.holds_before holds with before | ⟨⟨origin, rfl⟩, fresh, attached⟩ | ⟨_, fresh, rfl⟩
  · exact absurd before new
  · refine ⟨fresh, ?_⟩
    rcases owning.made turn with ⟨bound, _, attached', binding⟩ | ⟨_, detached⟩
    · obtain rfl : list = bound := by simpa using attached.symm.trans attached'
      exact owning.unbound thread list true binding
    · simp [detached] at attached
  · exact ⟨fresh, fun other had => Nat.lt_irrefl _ (owning.old other _ had)⟩

/-- No two Streamers have one list. -/
theorem Owning.distinct_step (turn : Turn BindsApart state thread choice operation world response)
    (first second : StreamerId) (list : ListId) (holds : world.Holds first list)
    (holds' : world.Holds second list) : first = second := by
  by_cases had : state.world.Holds first list
  · by_cases had' : state.world.Holds second list
    · exact owning.distinct first second list had had'
    · exact absurd had ((owning.fresh turn holds' had').2 first)
  · obtain ⟨rfl, none⟩ := owning.fresh turn holds had
    exact (owning.fresh turn holds' (none second)).1.symm

/-- A list that is not freed has an owner. -/
theorem Owning.owned_step (turn : Turn BindsApart state thread choice operation world response)
    (list : ListId) (live : (world.lists list).isSome) :
    ∃ owner, Owns world
      (update state.stage thread ((state.stage thread).after operation response)) list owner := by
  have allowed := turn.allowed
  rcases Op.run_live turn.executed list with alike | ⟨_, gone⟩ | ⟨rfl | rfl, rfl⟩
  · rw [live] at alike
    obtain ⟨owner, owns⟩ := owning.owned list alike.symm
    cases owner with
    | streamer streamer =>
        refine ⟨.streamer streamer, turn.holds_kept owns ?_⟩
        rintro rfl
        obtain ⟨_, _, _, closing, _, _⟩ := allowed
        have gone := (owning.closed turn.running thread streamer closing).2 list owns
        simp [gone] at alike
    | call other =>
        obtain ⟨reset, binding⟩ := owns
        by_cases moves : Mark.binding ∈ operation.marks
        · by_cases same : other = thread
          · subst same
            cases operation with
            | allocRecord =>
                obtain ⟨_, _, _, _, _, unbound, _⟩ := allowed
                simp [unbound] at binding
            | resetState => exact ⟨.call other, true, by simp [binding]⟩
            | newStreamer origin =>
                have attached := owning.bound turn.running other list reset binding
                rcases state.world.newStreamer_cases origin with
                  ⟨_, freed, attached', none⟩ | ⟨made, streamers, holding⟩
                · have there := owning.attached freed attached'
                  simp [none] at there
                · refine ⟨.streamer state.world.nextStreamer, made, ?_, ?_⟩
                  · rw [result_eq turn.executed, streamers, Function.update_self]
                  · exact (congrArg Prod.fst holding).trans attached
            | _ => simp [Op.marks] at moves
          · exact ⟨.call other, reset, by rwa [Function.update_of_ne same]⟩
        · have shares : (state.stage other).Shares _ .binding := turn.shares_update moves other
          exact ⟨.call other, reset, Eq.trans shares binding⟩
  · simp [gone] at live
  · refine ⟨.call thread, false, ?_⟩
    rw [Function.update_self]
    have answer := turn.executed
    simp only [Op.run, World.allocRecord, Option.some.injEq] at answer
    split at answer <;> cases answer <;> rfl
  · refine ⟨.streamer state.world.nextStreamer, ?_⟩
    rw [Owns, result_eq turn.executed]
    exact ⟨_, by simp [World.newLoader, World.setStreamer, World.setList]; rfl, rfl⟩

/-- One operation, for all of who has which list. -/
theorem Owning.step (turn : Turn BindsApart state thread choice operation world response) :
    Owning world (update state.stage thread ((state.stage thread).after operation response)) where
  self := owning.self_step turn
  used := owning.used_step turn
  recorded := owning.recorded_step turn
  live := owning.live_step turn
  old := owning.old_step turn
  distinct := owning.distinct_step turn
  unbound := owning.unbound_step turn
  bound := owning.bound_step turn
  attached := owning.attached_step turn
  there := owning.there_step turn
  closed := owning.closed_step turn
  owned := owning.owned_step turn

end

/-- At first there are neither lists nor Streamers. -/
theorem owning_initial : Owning .initial fun _ => .idle where
  self := by simp [Stage.idle]
  used := by simp [Stage.idle]
  recorded _ _ _ live := by cases live
  live _ _ live := by cases live
  old := by rintro _ _ ⟨_, live, _⟩; cases live
  distinct := by rintro _ _ _ ⟨_, live, _⟩; cases live
  unbound := by simp [Stage.idle]
  bound := by simp [Stage.idle]
  attached _ attached := by cases attached
  there := by rintro _ _ ⟨_, live, _⟩; cases live
  closed := by simp [Stage.idle]
  owned _ live := by cases live

/-- Who has which list, in every state of these runs. -/
theorem owning (state : System) (reached : Runs BindsApart state) :
    Owning state.world state.stage :=
  Runs.invariant Owning owning_initial (fun _ _ _ _ _ _ turn owning => owning.step turn) reached

/-- A list has at most one owner. -/
theorem Owning.unique {state : System} (owning : Owning state.world state.stage)
    (disciplined : Disciplined semantics discipline state) {list : ListId} {first second : Owner}
    (owns : Owns state.world state.stage list first)
    (owns' : Owns state.world state.stage list second) : first = second := by
  cases first with
  | streamer streamer =>
      cases second with
      | streamer streamer' => exact congrArg _ (owning.distinct streamer streamer' list owns owns')
      | call thread' =>
          obtain ⟨reset, binding⟩ := owns'
          exact absurd owns (owning.unbound thread' list reset binding streamer)
  | call thread =>
      obtain ⟨reset, binding⟩ := owns
      cases second with
      | streamer streamer' => exact absurd owns' (owning.unbound thread list reset binding streamer')
      | call thread' =>
          obtain ⟨reset', binding'⟩ := owns'
          have held := disciplined.promised thread .gil (by simp [discipline, binding])
          have held' := disciplined.promised thread' .gil (by simp [discipline, binding'])
          exact congrArg _ (disciplined.toLocked.exclusive held held')

/-- In runs in which lists and Streamers are bound apart they belong to each
other one to one. -/
theorem ownedOnce_of_bindsApart (state : System) (reached : Runs BindsApart state) : OwnedOnce state := by
  have owning := owning state reached
  have freed := freed reached
  have disciplined := reached.disciplined
  refine ⟨owning.recorded, owning.live, owning.distinct, ?_, freed.once, ?_, ?_⟩
  · intro list old kept
    have live : (state.world.lists list).isSome := by
      rw [Option.isSome_iff_ne_none]
      exact fun none => kept ((freed.gone list).mpr ⟨old, none⟩)
    obtain ⟨owner, owns⟩ := owning.owned list live
    exact ⟨owner, owns, fun other owns' => owning.unique disciplined owns' owns⟩
  · intro thread list sound frees
    obtain ⟨_, gil, _, ⟨unclosed, streamer, about⟩, _, _, record, seen, other⟩ :=
      (disciplined.follows thread).allowed semantics discipline thread frees
    refine ⟨fun member => ?_, seen_apart reached sound seen other⟩
    have live := owning.there streamer list (owning.holds sound about) fun closer closing => by
      have held := disciplined.promised closer .gil (by simp [discipline, closing])
      rw [disciplined.toLocked.exclusive held gil, unclosed] at closing
      cases closing
    simp [((freed.gone list).mp member).2] at live
  · intro list attached member
    have live := owning.attached list attached
    simp [((freed.gone list).mp member).2] at live

/-- `BindsApart` as far as some threads have moved. -/
def bindsApart (threads : List Tid) (state : System) (_ : Tid) (_ : Choice) : Op → Bool
  | .newStreamer .stream | .newStreamer .load => state.world.g.record = none
  | .stopRecord | .dropFrame | .initParams _ =>
      ∀ thread ∈ threads, (state.stage thread).binding = none
  | _ => true

/-- A recording whose Streamer ends, a file that cannot be opened, and a
recording that takes the place of another. -/
theorem ownedOnce_of_bindsApart_replaced : ∃ state, Runs BindsApart state ∧ OwnedOnce state ∧
    (state.world.freedLists = [1, 0] ∧ state.world.g.record = some 3) := by
  have passed : (checkedRun [.python 0] (bindsApart [.python 0]) System.initial
      (calls (.newCamera someParams) 25 ++ calls (.stream someParams) 9 ++
        calls (.record someParams) 20 ++ calls (.delete 1) 12 ++ calls (.load none) 11 ++
        calls (.record someParams) 20 ++ calls (.record someParams) 23)).any
      (fun state => state.world.freedLists = [1, 0] ∧ state.world.g.record = some 3) := by
    decide +kernel
  obtain ⟨state, reached, test⟩ := exists_checkedRun BindsApart (by
    intro state thread choice operation moved check
    have settled : (∀ thread ∈ [Tid.python 0], (state.stage thread).binding = none) →
        ∀ thread, (state.stage thread).binding = none := by
      intro inside other
      by_cases member : other ∈ [Tid.python 0]
      · exact inside other member
      · rw [moved other member]
        rfl
    cases operation with
    | newStreamer origin =>
        cases origin with
        | record list => trivial
        | stream | load =>
            have detached : state.world.g.record = none := of_decide_eq_true check
            exact detached
    | stopRecord | dropFrame | initParams _ => exact settled (of_decide_eq_true check)
    | _ => trivial) passed
  exact ⟨state, reached, ownedOnce_of_bindsApart state reached, of_decide_eq_true test⟩

/-- `stream` during a recording makes a second Streamer for the recording's list. -/
theorem ownedOnce_lost_to_stream : ¬∀ state, Runs anyOperation state → OwnedOnce state := by
  intro claim
  have passed : (run System.step System.initial
      (calls (.newCamera someParams) 25 ++ calls (.record someParams) 20 ++
        calls (.stream someParams) 9)).any (fun state =>
          (state.world.streamers 0).any (fun found => found.record = some 0) ∧
            (state.world.streamers 1).any (fun found => found.record = some 0)) := by
    decide +kernel
  obtain ⟨state, reached, test⟩ := exists_run passed
  obtain ⟨first, second⟩ := of_decide_eq_true test
  have holds : ∀ streamer, (state.world.streamers streamer).any (fun found =>
      found.record = some 0) → state.world.Holds streamer 0 := by
    intro streamer test
    obtain ⟨found, live, record⟩ := (Option.any_eq_true _ _).mp test
    exact ⟨found, live, of_decide_eq_true record⟩
  have same := (claim state reached).distinct 0 1 0 (holds 0 first) (holds 1 second)
  cases same

end KCamera
