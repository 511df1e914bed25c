import KCamera.Engine.Running
import KCamera.Engine.Shapes
import KCamera.Engine.Text
import KCamera.Recording.Ownership
import KCamera.Recording.Reader

/-!
# A recording is read in order

What happens to a recording and what `frame` and `seek` return is what happens to
its reader, in every run, if the recording starts without a shift and is not saved:
`save` moves the cursor that `frame` reads at.
-/

namespace KCamera

open Machine

open Function (update)

/-- One recording starts without a shift, and `save` is not called on it. -/
def ReadsApart (list : ListId) (state : System) (_ : Tid) (_ : Choice) : Op → Prop
  | .allocRecord => state.world.nextList = list →
      ∀ params, state.world.kcParams = some params → params.startShift = 0
  | .saveNext saved => saved ≠ list
  | _ => True

/-- A thread has read a frame of the recording and not returned it yet. -/
def Ahead (stages : Tid → Stage) (list : ListId) : Prop :=
  ∃ thread, (stages thread).noted = some list ∧ (stages thread).carried.isSome

/-- How far the cursor of a recording is ahead of its reader. -/
def Lags (stages : Tid → Stage) (list : ListId) (lag : Nat) : Prop :=
  lag = 1 ∧ Ahead stages list ∨ lag = 0 ∧ ¬Ahead stages list

/-- What has happened to a recording has happened to `reader`. -/
structure Tracks (world : World) (stages : Tid → Stage) (list : ListId) (reader : Reader) :
    Prop where
  log : Reader.start.run (world.readings list) = some reader
  active : reader.active = true ↔ world.g.record = some list
  described : ∀ found, world.lists list = some found →
    ∃ lag, Lags stages list lag ∧ reader.Describes found lag
  /-- The Streamer's index is the one of the frame that a call reads. -/
  index : ∀ thread streamer self, (stages thread).noted = some list →
    (stages thread).self = some (streamer, some list) → world.streamers streamer = some self →
    self.index.toNat = reader.position
  /-- A frame that was read and not returned is a copy of the one at the position. -/
  copied : ∀ thread copy, (stages thread).noted = some list →
    (stages thread).carried = some copy → ∃ frame, reader.frames[reader.position]? = some frame ∧
      copy = kcCopyFrame frame copy.block
  /-- Who has waited in vain has seen the recording end. -/
  waited : ∀ thread found, (stages thread).waited = some list → world.lists list = some found →
    flistEnd found = some true → reader.active = false

/-- Only lists that there are have been read. -/
structure Tracked (world : World) (stages : Tid → Stage) : Prop where
  fresh : ∀ list, world.nextList ≤ list → world.readings list = []
  noted : ∀ thread list, (stages thread).noted = some list → list < world.nextList
  waited : ∀ thread list, (stages thread).waited = some list →
    (stages thread).noted = some list ∧ (stages thread).carried = none

section

variable {condition : System → Tid → Choice → Op → Prop} {state : System} {thread : Tid}
  {choice : Choice} {operation : Op} {world next : World} {response : operation.Resp}
  {stages stages' : Tid → Stage} {list : ListId} {reader : Reader}

/-! ## The threads -/

/-- What a call has looked up of its Streamer is so. -/
theorem self_known (reached : Runs condition state) (sound : state.world.fault = none)
    {streamer : StreamerId} {record : Option ListId}
    (self : (state.stage thread).self = some (streamer, record)) :
    streamer < state.world.nextStreamer ∧
      ∀ found, state.world.streamers streamer = some found → found.record = record := by
  refine Runs.each (fun world _ stage => world.fault = none → ∀ streamer record,
    stage.self = some (streamer, record) → streamer < world.nextStreamer ∧
      ∀ found, world.streamers streamer = some found → found.record = record) ?_ ?_ ?_
    reached thread sound streamer record self
  · intro thread _ streamer record self
    cases self
  · intro state thread choice operation world response turn known sound streamer record self
    have updated : (update state.stage thread ((state.stage thread).after operation response)
        thread).self = some (streamer, record) := by rwa [Function.update_self]
    rcases turn.self_before updated with ⟨before, _⟩ | ⟨_, same, ⟨found, live, rfl⟩ | ⟨_, failed⟩⟩
    · exact self_kept turn (known thread turn.running streamer record before)
    · refine self_kept turn ⟨?_, ?_⟩
      · by_contra new
        simp [streamers_beyond turn.reached streamer (Nat.le_of_not_lt new)] at live
      · intro other there
        rw [live, Option.some.injEq] at there
        rw [there]
    · exact absurd sound failed
  · intro state thread choice operation world response turn known other _ _ streamer record self
    exact self_kept turn (known other turn.running streamer record self)

/-- While a thread that has the interpreter lock moves no other reads a recording. -/
theorem Turn.reader_self (turn : Turn condition state thread choice operation world response)
    (gil : .gil ∈ state.held thread) {other : Tid} (noted : (state.stage other).noted = some list) :
    other = thread :=
  turn.sole gil (by simp [noted])

/-- The moves of `frame` behind its start are the only ones of a thread that reads. -/
theorem Turn.reader_quiet (turn : Turn condition state thread choice operation world response)
    (other : ¬operation.inReading) : (state.stage thread).noted = none := by
  cases noted : (state.stage thread).noted with
  | none => rfl
  | some list => exact absurd (turn.inReading (by simp [noted])) other

/-- Threads that do not read the recording do not matter. -/
theorem Tracks.threads (tracks : Tracks world stages list reader)
    (before : ∀ other, (stages other).noted = some list → stages' other = stages other)
    (after : ∀ other, (stages' other).noted = some list ∨ (stages' other).waited = some list →
      stages' other = stages other) : Tracks world stages' list reader := by
  have ahead : Ahead stages' list ↔ Ahead stages list := by
    constructor
    · rintro ⟨other, noted, carried⟩
      have same := after other (.inl noted)
      exact ⟨other, same ▸ noted, same ▸ carried⟩
    · rintro ⟨other, noted, carried⟩
      have same := before other noted
      exact ⟨other, same ▸ noted, same ▸ carried⟩
  constructor
  · exact tracks.log
  · exact tracks.active
  · intro found live
    obtain ⟨lag, lags, describes⟩ := tracks.described found live
    exact ⟨lag, by rwa [Lags, ahead], describes⟩
  · intro other streamer self noted
    have same := after other (.inl noted)
    rw [same] at noted ⊢
    exact tracks.index other streamer self noted
  · intro other copy noted
    have same := after other (.inl noted)
    rw [same] at noted ⊢
    exact tracks.copied other copy noted
  · intro other found waited
    rw [after other (.inr waited)] at waited
    exact tracks.waited other found waited

/-! ## The list -/

/-- The list may change as long as its nodes and its cursor stay. -/
theorem Tracks.onWorld (tracks : Tracks world stages list reader)
    (readings : next.readings list = world.readings list)
    (record : next.g.record = some list ↔ world.g.record = some list)
    (lists : ∀ moved, next.lists list = some moved → ∃ found, world.lists list = some found ∧
      moved.nodes = found.nodes ∧ moved.front = found.front ∧ moved.back = found.back ∧
      moved.len = found.len ∧ moved.readNode = found.readNode ∧
      moved.readIndex = found.readIndex ∧ (found.recording ≠ -1 → moved.recording ≠ -1))
    (streamers : ∀ other, (stages other).noted = some list → next.streamers = world.streamers) :
    Tracks next stages list reader := by
  constructor
  · rw [readings]
    exact tracks.log
  · rw [record]
    exact tracks.active
  · intro moved live
    obtain ⟨found, before, nodes, front, back, len, readNode, readIndex, recording⟩ :=
      lists moved live
    obtain ⟨lag, lags, describes⟩ := tracks.described found before
    have waits := describes
    obtain ⟨_, _, _, waits, _⟩ := waits
    exact ⟨lag, lags, describes.congr nodes front back len readNode readIndex (recording waits)⟩
  · intro other streamer self noted has there
    rw [streamers other noted] at there
    exact tracks.index other streamer self noted has there
  · exact tracks.copied
  · intro other moved waited live ended
    obtain ⟨found, before, nodes, front, _, _, readNode, _, _⟩ := lists moved live
    refine tracks.waited other found waited before ?_
    have same : flistEnd moved = flistEnd found := by
      simp only [flistEnd, FrameList.follow, readNode, front, nodes]
    rw [← same, ended]

/-- Nothing happens to the list. -/
theorem Tracks.congr (tracks : Tracks world stages list reader)
    (readings : next.readings list = world.readings list)
    (record : next.g.record = some list ↔ world.g.record = some list)
    (lists : next.lists list = world.lists list)
    (streamers : ∀ other, (stages other).noted = some list → next.streamers = world.streamers) :
    Tracks next stages list reader :=
  tracks.onWorld readings record
    (fun moved live => ⟨moved, lists ▸ live, rfl, rfl, rfl, rfl, rfl, rfl, id⟩) streamers

/-- Only the attached list's log ends with the record. -/
theorem World.detach_readings (apart : world.g.record ≠ some list) :
    world.detach.readings list = world.readings list := by
  unfold World.detach
  split
  · rfl
  · rename_i other there
    have other : list ≠ other := by
      rintro rfl
      exact apart there
    simp [World.note, other]

/-- The record is detached. -/
theorem Tracks.detach (tracks : Tracks world stages list reader) :
    ∃ reader, Tracks world.detach stages list reader := by
  have lists : world.detach.lists = world.lists := world.detach_lists
  have streamers : world.detach.streamers = world.streamers :=
    (world.detach_agree (by simp) (by simp) : Agree world world.detach .streamers).1
  by_cases attached : world.g.record = some list
  · refine ⟨{ reader with active := false }, ?_⟩
    have active := tracks.active.mpr attached
    constructor
    · have more : world.detach.readings list = world.readings list ++ [.ended] := by
        simp [World.detach, World.note, attached]
      rw [more, Reader.run_concat, tracks.log]
      simp [Reader.take, active]
    · simp
    · rw [lists]
      exact tracks.described
    · rw [streamers]
      exact tracks.index
    · exact tracks.copied
    · intro _ _ _ _ _
      rfl
  · exact ⟨reader, tracks.congr (World.detach_readings attached) (by simp [attached]) (by rw [lists])
      fun _ _ => streamers⟩

/-- A frame is appended to a recording. -/
theorem Tracks.append (tracks : Tracks world stages list reader) {other : ListId} {frame : KcFrame}
    {node : Option Addr} {status : Int} (sound : next.fault = none)
    (executed : world.append other frame node = some (next, status)) :
    ∃ reader, Tracks next stages list reader := by
  have attached : Agree world next .attached :=
    world.append_agree (by simp) (by simp) (by simp) executed
  have streamers : Agree world next .streamers :=
    world.append_agree (by simp) (by simp) (by simp) executed
  rcases World.append_cases executed with ⟨⟨fault, rfl⟩, _⟩ |
    ⟨found, record, live, available, rfl, value⟩
  · cases sound
  by_cases same : list = other
  · subst same
    have active := tracks.active.mpr record
    have lists : next.lists list = some (flistAppend found frame node).list := by
      rw [value]
      split <;> simp [World.appended, World.note, World.free, World.setList]
    obtain ⟨lag, lags, describes⟩ := tracks.described found live
    have moved := describes.append available
    dsimp only at moved
    by_cases appended : found.recording ≠ 0 ∧ (flistAppend found frame node).status ≠ -2
    · rw [if_pos appended] at moved value
      refine ⟨{ reader with frames := reader.frames ++ [frame] }, ?_, ?_, ?_, ?_, ?_, ?_⟩
      · have more : next.readings list = world.readings list ++ [.appended frame] := by
          simp [value, World.note, World.appended, World.free, World.setList]
        rw [more, Reader.run_concat, tracks.log]
        simp [Reader.take, active]
      · rw [show next.g.record = world.g.record from attached]
        exact tracks.active
      · intro list' live'
        rw [lists, Option.some.injEq] at live'
        exact ⟨lag, lags, live' ▸ moved⟩
      · rw [streamers.1]
        exact tracks.index
      · intro thread copy noted carried
        obtain ⟨original, there, copies⟩ := tracks.copied thread copy noted carried
        have inside := (List.getElem?_eq_some_iff.mp there).1
        exact ⟨original, by rw [List.getElem?_append_left inside, there], copies⟩
      · intro thread list' _ live' ended
        rw [lists, Option.some.injEq] at live'
        have bound := describes.bound
        rw [← live', moved.flistEnd, Option.some.injEq, decide_eq_true_iff] at ended
        simp only [List.length_append, List.length_singleton] at ended
        omega
    · rw [if_neg appended] at moved value
      refine ⟨reader, ?_, ?_, ?_, ?_, tracks.copied, ?_⟩
      · rw [value]
        exact tracks.log
      · rw [show next.g.record = world.g.record from attached]
        exact tracks.active
      · intro list' live'
        rw [lists, Option.some.injEq] at live'
        exact ⟨lag, lags, live' ▸ moved⟩
      · rw [streamers.1]
        exact tracks.index
      · intro thread list' waited live' ended
        rw [lists, Option.some.injEq] at live'
        refine tracks.waited thread found waited live ?_
        rw [describes.flistEnd, ← moved.flistEnd, live', ended]
  · refine ⟨reader, tracks.congr ?_ (by rw [show next.g.record = world.g.record from attached]) ?_
      fun _ _ => streamers.1⟩
    · rw [value]
      split <;> simp [World.appended, World.note, World.free, World.setList, same]
    · rw [value]
      split <;> simp [World.appended, World.note, World.free, World.setList, same]

/-- A call of `seek` moves the reader. -/
theorem Tracks.seek {other : ListId} {n : UInt32} {response : Op.Resp (.seek other n)}
    (turn : Turn condition state thread choice (.seek other n) world response)
    (sound : world.fault = none) (tracked : Tracked state.world state.stage)
    (tracks : Tracks state.world state.stage list reader) :
    ∃ reader, Tracks world state.stage list reader := by
  have gil := turn.allowed.2.1
  have unread (thread : Tid) (noted : (state.stage thread).noted = some list) : False := by
    have own := turn.reader_self gil noted
    rw [own, turn.reader_quiet id] at noted
    cases noted
  have value := result_eq turn.executed
  dsimp only [World.onList] at value
  cases live : state.world.lists other with
  | none => simp [value, live, World.fail, World.note] at sound
  | some found =>
      simp only [live] at value
      by_cases same : list = other
      · subst same
        obtain ⟨lag, lags, describes⟩ := tracks.described found live
        have level : lag = 0 := by
          rcases lags with ⟨_, reading, noted, _⟩ | ⟨rfl, _⟩
          · exact (unread reading noted).elim
          · rfl
        subst level
        refine ⟨{ reader with
          position := if n.toNat < reader.frames.length then n.toNat else reader.position },
          ?_, ?_, ?_, fun thread _ _ noted => (unread thread noted).elim,
          fun thread _ noted => (unread thread noted).elim,
          fun thread _ waited => (unread thread (tracked.waited thread list waited).1).elim⟩
        · have more : world.readings list = state.world.readings list ++ [.seek n] := by
            simp [value, World.note, World.setList]
          rw [more, Reader.run_concat, tracks.log]
          rfl
        · rw [value]
          exact tracks.active
        · intro moved there
          have sought : moved = (flistSeek found n).1 := by
            simpa [value, World.note, World.setList, eq_comm] using there
          rw [sought]
          exact ⟨0, lags, describes.seek n⟩
      · refine ⟨reader, tracks.congr ?_ (by rw [value]; rfl) ?_ fun _ _ => by rw [value]; rfl⟩
        · simp [value, World.note, World.setList, same]
        · simp [value, World.note, World.setList, same]

/-- An operation that is no part of reading. -/
theorem Tracks.outside
    (turn : Turn (ReadsApart list) state thread choice operation world response)
    (sound : world.fault = none) (tracked : Tracked state.world state.stage)
    (member : list ∈ state.world.recordings) (tracks : Tracks state.world state.stage list reader)
    (reading : ¬operation.inReading) (note : ¬operation.isNote) :
    ∃ reader, Tracks world state.stage list reader := by
  have executed := turn.executed
  have streamers (other : Tid) (noted : (state.stage other).noted = some list) :
      world.streamers = state.world.streamers := by
    by_cases touched : Part.streamers ∈ operation.touches
    · have own := turn.reader_self (turn.objects_gil (.inr touched)) noted
      rw [own, turn.reader_quiet reading] at noted
      cases noted
    · exact (Op.run_agree executed touched).1
  by_cases logs : Part.readings ∈ operation.touches
  · cases operation with
    | append other frame => exact tracks.append sound executed
    | seek other n => exact tracks.seek turn sound tracked
    | initParams camera =>
        let initial := { state.world with params := some camera }
        let params := kcInitParams ((state.world.cameras camera).elim default Camera.params)
        have placed : Tracks (initial.setParams params) state.stage list reader := by
          have attached : Agree initial (initial.setParams params) .attached :=
            initial.setParams_agree _ (by simp)
          have readings : Agree initial (initial.setParams params) .readings :=
            initial.setParams_agree _ (by simp)
          have lists : Agree initial (initial.setParams params) .lists :=
            initial.setParams_agree _ (by simp)
          have streamers : Agree initial (initial.setParams params) .streamers :=
            initial.setParams_agree _ (by simp)
          exact tracks.congr (congrFun readings list) (by rw [show _ = _ from attached])
            (congrFun lists.1 list) fun _ _ => streamers.1
        obtain ⟨reader, detached⟩ := placed.detach
        rw [result_eq executed]
        exact ⟨reader, detached.congr rfl Iff.rfl rfl fun _ _ => rfl⟩
    | dropFrame =>
        have freed : Tracks (state.world.free state.world.g.frame.toList) state.stage list reader :=
          tracks.congr rfl Iff.rfl rfl fun _ _ => rfl
        obtain ⟨reader, detached⟩ := freed.detach
        rw [result_eq executed]
        exact ⟨reader, detached.congr rfl Iff.rfl rfl fun _ _ => rfl⟩
    | stopRecord =>
        have value := result_eq executed
        simp only [World.stopRecord] at value
        split at value
        · exact ⟨reader, value ▸ tracks⟩
        · rename_i other attached
          split at value
          · simp [value, World.fail] at sound
          · rename_i found live
            have stopped : Tracks (state.world.setList other { found with recording := 0 })
                state.stage list reader := by
              refine tracks.onWorld rfl Iff.rfl ?_ fun _ _ => rfl
              intro moved there
              by_cases same : list = other
              · subst same
                refine ⟨found, live, ?_⟩
                simp only [World.setList, Function.update_self, Option.some.injEq] at there
                subst there
                exact ⟨rfl, rfl, rfl, rfl, rfl, rfl, by simp⟩
              · refine ⟨moved, ?_, rfl, rfl, rfl, rfl, rfl, rfl, id⟩
                simpa [World.setList, same] using there
            rw [value]
            exact stopped.detach
    | next other | makeArray streamer frame bytes => exact absurd trivial reading
    | _ => simp [Op.touches] at logs
  · have readings : world.readings = state.world.readings := Op.run_agree executed logs
    have made := (recorded turn.reached).made list member
    have record : world.g.record = some list ↔ state.world.g.record = some list := by
      by_cases attaches : Part.attached ∈ operation.touches
      · cases operation with
        | allocRecord =>
            have none := knowsNone turn.reached thread turn.running turn.allowed.2.2.2.2.1
            have value := result_eq executed
            simp only [World.allocRecord] at value
            split at value
            · simp [value, World.fail] at sound
            · have apart : state.world.nextList ≠ list := Nat.ne_of_gt made
              simp [value, none, apart]
        | initParams _ | dropFrame | stopRecord => exact absurd (by simp [Op.touches]) logs
        | _ => simp [Op.touches] at attaches
      · rw [show world.g.record = state.world.g.record from Op.run_agree executed attaches]
    refine ⟨reader, tracks.onWorld (congrFun readings list) record ?_ streamers⟩
    intro moved live
    rcases Op.run_lists executed list with
      same | ⟨before, after, step⟩ | ⟨_, freed⟩ | ⟨_, rfl, _, _⟩ | ⟨_, rfl, _⟩
    · exact ⟨moved, same ▸ live, rfl, rfl, rfl, rfl, rfl, rfl, id⟩
    · rw [after, Option.some.injEq] at live
      subst live
      cases step with
      | append _ _ _ | stopped _ | next _ | sought _ => exact absurd (by simp [Op.touches]) logs
      | saved taken => exact absurd rfl turn.admitted
      | loaded file =>
          exact absurd member ((recorded turn.reached).loading thread list turn.allowed.2.2.2).2
      | started => exact ⟨_, before, rfl, rfl, rfl, rfl, rfl, rfl, by simp⟩
      | shifted _ | limited _ => exact ⟨_, before, rfl, rfl, rfl, rfl, rfl, rfl, id⟩
    · simp [freed] at live
    · exact absurd made (Nat.lt_irrefl _)
    · exact absurd made (Nat.lt_irrefl _)

/-! ## Reading -/

/-- Other threads than the one that moves are quiet. -/
theorem Tracks.unread (turn : Turn condition state thread choice operation world response)
    (gil : .gil ∈ state.held thread) (tracked : Tracked state.world state.stage)
    (tracks : Tracks state.world state.stage list reader)
    (before : (state.stage thread).noted ≠ some list)
    (after : ((state.stage thread).after operation response).noted ≠ some list)
    (waits : ((state.stage thread).after operation response).waited ≠ some list) :
    Tracks state.world (update state.stage thread ((state.stage thread).after operation response))
      list reader := by
  have nobody (other : Tid) (noted : (state.stage other).noted = some list) : False := by
    have own := turn.reader_self gil noted
    exact before (own ▸ noted)
  refine tracks.threads (fun other noted => (nobody other noted).elim) fun other reads => ?_
  by_cases own : other = thread
  · subst own
    rw [Function.update_self] at reads
    rcases reads with noted | waited
    · exact absurd noted after
    · exact absurd waited waits
  · rw [Function.update_of_ne own] at reads
    rcases reads with noted | waited
    · exact (nobody other noted).elim
    · exact (nobody other (tracked.waited other list waited).1).elim

/-- What is so of the reading thread is so of all that read the recording. -/
theorem Tracks.ofReader (log : Reader.start.run (next.readings list) = some reader)
    (active : reader.active = true ↔ next.g.record = some list) {lag : Nat}
    (lags : Lags stages list lag)
    (describes : ∀ found, next.lists list = some found → reader.Describes found lag)
    (only : ∀ other, (stages other).noted = some list ∨ (stages other).waited = some list →
      other = thread)
    (index : ∀ streamer self, (stages thread).noted = some list →
      (stages thread).self = some (streamer, some list) → next.streamers streamer = some self →
      self.index.toNat = reader.position)
    (copied : ∀ copy, (stages thread).noted = some list → (stages thread).carried = some copy →
      ∃ frame, reader.frames[reader.position]? = some frame ∧ copy = kcCopyFrame frame copy.block)
    (waited : ∀ found, (stages thread).waited = some list → next.lists list = some found →
      flistEnd found = some true → reader.active = false) :
    Tracks next stages list reader where
  log := log
  active := active
  described found live := ⟨lag, lags, describes found live⟩
  index other streamer self noted := by
    obtain rfl := only other (.inl noted)
    exact index streamer self noted
  copied other copy noted := by
    obtain rfl := only other (.inl noted)
    exact copied copy noted
  waited other found waits := by
    obtain rfl := only other (.inr waits)
    exact waited found waits

/-- Who reads the recording behind a move of a thread that has the interpreter lock. -/
theorem Turn.reader_only (turn : Turn condition state thread choice operation world response)
    (gil : .gil ∈ state.held thread) (tracked : Tracked state.world state.stage) (other : Tid)
    (reads : (update state.stage thread ((state.stage thread).after operation response)
      other).noted = some list ∨ (update state.stage thread
        ((state.stage thread).after operation response) other).waited = some list) :
    other = thread := by
  by_contra own
  rw [Function.update_of_ne own] at reads
  rcases reads with noted | waited
  · exact own (turn.reader_self gil noted)
  · exact own (turn.reader_self gil (tracked.waited other list waited).1)

/-- A thread that has the interpreter lock is ahead if any is. -/
theorem Turn.lags (turn : Turn condition state thread choice operation world response)
    (gil : .gil ∈ state.held thread) {stage : Stage} :
    Lags (update state.stage thread stage) list
      (if stage.noted = some list ∧ stage.carried.isSome then 1 else 0) := by
  have mine : Ahead (update state.stage thread stage) list ↔
      stage.noted = some list ∧ stage.carried.isSome := by
    constructor
    · rintro ⟨other, noted, carried⟩
      by_cases own : other = thread
      · subst own
        rw [Function.update_self] at noted carried
        exact ⟨noted, carried⟩
      · rw [Function.update_of_ne own] at noted
        exact absurd (turn.reader_self gil noted) own
    · rintro reads
      exact ⟨thread, by simpa using reads⟩
  by_cases reads : stage.noted = some list ∧ stage.carried.isSome
  · rw [if_pos reads]
    exact .inl ⟨rfl, mine.mpr reads⟩
  · rw [if_neg reads]
    exact .inr ⟨rfl, fun ahead => reads (mine.mp ahead)⟩

/-- The cursor is where the stage of the thread that has the interpreter lock says. -/
theorem Tracks.describes (turn : Turn condition state thread choice operation world response)
    (gil : .gil ∈ state.held thread) (tracks : Tracks state.world state.stage list reader)
    {found : FrameList} (live : state.world.lists list = some found) :
    reader.Describes found (if (state.stage thread).noted = some list ∧
      (state.stage thread).carried.isSome then 1 else 0) := by
  obtain ⟨lag, lags, describes⟩ := tracks.described found live
  have here : Lags (update state.stage thread (state.stage thread)) list _ := turn.lags gil
  rw [Function.update_eq_self] at here
  have same : lag = if (state.stage thread).noted = some list ∧
      (state.stage thread).carried.isSome then 1 else 0 := by
    rcases lags with ⟨rfl, ahead⟩ | ⟨rfl, level⟩ <;> rcases here with ⟨value, ahead'⟩ | ⟨value, level'⟩
    · rw [value]
    · exact absurd ahead level'
    · exact absurd ahead' level
    · rw [value]
  exact same ▸ describes

/-- `frame` notes where the cursor is. -/
theorem Tracks.noteIndex {streamer : StreamerId} {other : ListId}
    {response : Op.Resp (.noteIndex streamer other)}
    (turn : Turn condition state thread choice (.noteIndex streamer other) world response)
    (sound : world.fault = none) (tracked : Tracked state.world state.stage)
    (tracks : Tracks state.world state.stage list reader) :
    Tracks world (update state.stage thread
      ((state.stage thread).after (.noteIndex streamer other) response)) list reader := by
  obtain ⟨_, gil, _, _, self, unnoted, uncarried⟩ := turn.allowed
  have executed := turn.executed
  have logs : Agree state.world world .readings := Op.run_agree executed (by simp [Op.touches])
  have attached : Agree state.world world .attached := Op.run_agree executed (by simp [Op.touches])
  have readings : world.readings = state.world.readings := logs
  have record : world.g.record = state.world.g.record := attached
  have lists : Agree state.world world .lists := Op.run_agree executed (by simp [Op.touches])
  have unwaited (list : ListId) : (state.stage thread).waited ≠ some list := by
    intro waited
    simpa [unnoted] using (tracked.waited thread list waited).1
  by_cases same : other = list
  · subst same
    have value := result_eq executed
    cases live : state.world.lists other with
    | none => simp [value, live, World.fail] at sound
    | some found =>
        simp only [live, World.onStreamer] at value
        have level := tracks.describes turn gil live
        rw [if_neg (by simp [unnoted])] at level
        refine .ofReader (by rw [readings]; exact tracks.log) (by rw [record]; exact tracks.active)
          (turn.lags gil) ?_ (turn.reader_only gil tracked) ?_ ?_ ?_
        · intro moved there
          rw [lists.1, live, Option.some.injEq] at there
          simpa [uncarried, there] using level
        · intro streamer' noting _ has there
          simp only [Function.update_self, Stage.after, self, Option.some.injEq, Prod.mk.injEq,
            and_true] at has
          subst has
          cases before : state.world.streamers streamer with
          | none => simp [value, before, World.fail] at sound
          | some old =>
              simp only [value, before, World.setStreamer, Function.update_self,
                Option.some.injEq] at there
              rw [← there]
              exact level.readIndex
        · intro copy _ carried
          simp [uncarried] at carried
        · intro moved waited
          simp only [Function.update_self, Stage.after] at waited
          exact absurd waited (unwaited other)
  · have quiet := tracks.unread turn gil tracked (by simp [unnoted]) (by simpa using same)
      (unwaited list)
    refine quiet.congr (congrFun readings list) (by rw [record]) (congrFun lists.1 list) ?_
    intro reading noted
    have own := turn.reader_only gil tracked reading (.inl noted)
    rw [own, Function.update_self] at noted
    exact absurd (Option.some.inj noted) same

/-- `frame` waits for a frame of the recording. -/
theorem Tracks.nextRecordFrame {other : ListId} {response : Op.Resp (.nextRecordFrame other)}
    (turn : Turn condition state thread choice (.nextRecordFrame other) world response)
    (sound : world.fault = none) (tracked : Tracked state.world state.stage)
    (tracks : Tracks state.world state.stage list reader) :
    Tracks world (update state.stage thread
      ((state.stage thread).after (.nextRecordFrame other) response)) list reader := by
  obtain ⟨_, gil, _, _, frame, noted, uncarried, unswitched, unbound, settled⟩ := turn.allowed
  obtain ⟨found, live, ended, atEnd, same, again⟩ : ∃ found, state.world.lists other = some found ∧
      ∃ ended, flistEnd found = some ended ∧ world = state.world ∧
        response = (ended && state.world.g.run && state.world.g.record = some other) := by
    have executed := turn.executed
    simp only [Op.run, World.nextRecordFrame, Option.some.injEq] at executed
    split at executed
    · cases executed
      cases sound
    · rename_i found live
      split at executed
      · cases executed
        cases sound
      · rename_i ended atEnd
        cases executed
        exact ⟨found, live, ended, atEnd, rfl, rfl⟩
  subst same
  have goes : ((state.stage thread).after (.nextRecordFrame other) response).noted = some other ∧
      ((state.stage thread).after (.nextRecordFrame other) response).carried = none ∧
      ((state.stage thread).after (.nextRecordFrame other) response).self =
        (state.stage thread).self := by
    simp only [Stage.after]
    split <;> exact ⟨noted, uncarried, rfl⟩
  by_cases same : other = list
  · subst same
    have level := tracks.describes turn gil live
    rw [if_neg (by simp [uncarried])] at level
    refine .ofReader tracks.log tracks.active (turn.lags gil) ?_ (turn.reader_only gil tracked)
      ?_ ?_ ?_
    · intro moved there
      rw [live, Option.some.injEq] at there
      rw [if_neg (by rw [goes.2.1]; exact fun ahead => Bool.noConfusion ahead.2), ← there]
      exact level
    · rw [Function.update_self, goes.2.2]
      exact fun streamer self _ => tracks.index thread streamer self noted
    · rw [Function.update_self, goes.2.1]
      intro copy _ carried
      cases carried
    · intro moved waited there finished
      rw [live, Option.some.injEq] at there
      subst there
      rw [Function.update_self] at waited
      simp only [Stage.after] at waited
      split at waited
      · exact tracks.waited thread found waited live finished
      · rename_i goesOn
        by_contra inactive
        have attached := tracks.active.mp (by simpa using inactive)
        have running := run_of_attached turn.reached gil frame
          (by simp [Stage.suspends, unswitched, unbound, settled]) (by simp [attached])
        rw [finished, Option.some.injEq] at atEnd
        exact goesOn (by rw [again, ← atEnd, running, attached]; simp)
  · refine tracks.unread turn gil tracked (by simpa [noted] using same) (by rw [goes.1]; simpa using same)
      fun waited => ?_
    simp only [Stage.after] at waited
    split at waited
    · have also := (tracked.waited thread list waited).1
      rw [noted, Option.some.injEq] at also
      exact same also
    · exact same (Option.some.inj waited)

/-- A reading finds the end or copies a frame. -/
theorem World.next_cases (world : World) (list : ListId) (allocates : Bool)
    (sound : (world.next list allocates).1.fault = none) :
    ∃ found moved, world.lists list = some found ∧
      (flistNext found = some (moved, none) ∧
          world.next list allocates = ((world.setList list moved).note list .noFrame, none) ∨
        ∃ frame, flistNext found = some (moved, some frame) ∧
          world.next list allocates =
            ({ world.setList list moved with blocks := world.blocks + 1 },
              some (kcCopyFrame frame world.blocks))) := by
  cases live : world.lists list with
  | none => simp [World.next, live, World.fail] at sound
  | some found =>
      cases taken : flistNext found with
      | none => simp [World.next, live, taken, World.fail] at sound
      | some result =>
          obtain ⟨moved, frame⟩ := result
          refine ⟨found, moved, rfl, ?_⟩
          cases frame with
          | none => exact .inl ⟨taken, by simp [World.next, live, taken]⟩
          | some frame =>
              refine .inr ⟨frame, taken, ?_⟩
              cases allocates with
              | false => simp [World.next, live, taken, World.copyFrame, World.fail] at sound
              | true => simp [World.next, live, taken, World.copyFrame, World.setList]

/-- `frame` takes a frame of the recording, or finds none. -/
theorem Tracks.takeNext {other : ListId} {response : Op.Resp (.next other)}
    (turn : Turn condition state thread choice (.next other) world response)
    (sound : world.fault = none) (tracked : Tracked state.world state.stage)
    (tracks : Tracks state.world state.stage list reader) :
    ∃ reader, Tracks world (update state.stage thread
      ((state.stage thread).after (.next other) response)) list reader := by
  obtain ⟨_, gil, _, _, _, noted, waits, uncarried⟩ := turn.allowed
  have executed := turn.executed
  have attached : Agree state.world world .attached := Op.run_agree executed (by simp [Op.touches])
  have record : world.g.record = state.world.g.record := attached
  have streamers : Agree state.world world .streamers := Op.run_agree executed (by simp [Op.touches])
  simp only [Op.run, Option.some.injEq] at executed
  obtain ⟨found, moved, live, cases⟩ :=
    state.world.next_cases other choice.allocates (by rw [executed]; exact sound)
  rw [executed] at cases
  by_cases same : other = list
  · subst same
    have level := tracks.describes turn gil live
    rw [if_neg (by simp [uncarried])] at level
    rcases level.next with ⟨frame, there, result, taken, further⟩ | ⟨last, taken⟩
    · rcases cases with ⟨none, _⟩ | ⟨_, some, value⟩
      · simp [taken] at none
      · rw [taken, Option.some.injEq, Prod.mk.injEq, Option.some.injEq] at some
        obtain ⟨rfl, rfl⟩ := some
        rw [Prod.mk.injEq] at value
        obtain ⟨rfl, rfl⟩ := value
        refine ⟨reader, .ofReader tracks.log tracks.active (turn.lags gil) ?_
          (turn.reader_only gil tracked) ?_ ?_ ?_⟩
        · intro list' live'
          simp only [World.setList, Function.update_self, Option.some.injEq] at live'
          rw [← live', if_pos (by simp [noted])]
          exact further
        · rw [Function.update_self]
          exact fun streamer self _ => tracks.index thread streamer self noted
        · rw [Function.update_self]
          intro copy _ carried
          cases carried
          exact ⟨frame, there, rfl⟩
        · intro _ waited
          simp at waited
    · rcases cases with ⟨none, value⟩ | ⟨_, some, _⟩
      · rw [taken, Option.some.injEq, Prod.mk.injEq] at none
        obtain ⟨rfl, _⟩ := none
        rw [Prod.mk.injEq] at value
        obtain ⟨rfl, rfl⟩ := value
        have ended : reader.active = false := by
          refine tracks.waited thread found waits live ?_
          rw [level.flistEnd]
          simpa using last
        refine ⟨reader, .ofReader ?_ tracks.active (turn.lags gil) ?_
          (turn.reader_only gil tracked) ?_ ?_ ?_⟩
        · have more : ((state.world.setList other found).note other .noFrame).readings other =
              state.world.readings other ++ [.noFrame] := by
            simp [World.note, World.setList]
          rw [more, Reader.run_concat, tracks.log]
          simp [Reader.take, ended, last]
        · intro list' live'
          simp only [World.note, World.setList, Function.update_self, Option.some.injEq] at live'
          rw [← live', if_neg (by simp)]
          exact level
        · intro _ _ noted
          simp at noted
        · intro _ noted
          simp at noted
        · intro _ waited
          simp at waited
      · simp [taken] at some
  · have quiet := tracks.unread turn gil tracked (by simpa [noted] using same)
      (by cases response with | none => simp | some frame => simpa [noted] using same) (by simp)
    refine ⟨reader, quiet.congr ?_ (by rw [record]) ?_ fun _ _ => streamers.1⟩
    · rcases cases with ⟨_, value⟩ | ⟨frame, _, value⟩ <;> rw [Prod.mk.injEq] at value
      · rw [value.1]
        simp [World.note, World.setList, Ne.symm same]
      · rw [value.1]
        rfl
    · rcases cases with ⟨_, value⟩ | ⟨frame, _, value⟩ <;> rw [Prod.mk.injEq] at value <;>
        rw [value.1] <;> simp [World.note, World.setList, Ne.symm same]

/-- `frame` returns what it took. -/
theorem Tracks.makeArray {streamer : StreamerId} {frame : KcFrame} {bytes : Bool}
    {response : Op.Resp (.makeArray streamer frame bytes)}
    (turn : Turn condition state thread choice (.makeArray streamer frame bytes) world response)
    (sound : world.fault = none) (tracked : Tracked state.world state.stage)
    (tracks : Tracks state.world state.stage list reader) :
    ∃ reader, Tracks world (update state.stage thread
      ((state.stage thread).after (.makeArray streamer frame bytes) response)) list reader := by
  obtain ⟨_, gil, _, carried, record, self, noted⟩ := turn.allowed
  have known := (self_known turn.reached turn.running self).2
  have unwaited : (state.stage thread).waited ≠ some list := by
    intro waited
    simpa [carried] using (tracked.waited thread list waited).2
  have value := result_eq turn.executed
  cases there : state.world.streamers streamer with
  | none => simp [value, World.makeArray, there, World.fail] at sound
  | some found =>
      have holds := known found there
      cases bytes with
      | true => simp [value, World.makeArray, there, World.fail] at sound
      | false =>
          by_cases same : record = some list
          · subst same
            have value : world = ({ state.world with arrays := frame :: state.world.arrays }.note
                list (.returned found.index frame)) := by
              rw [value]
              simp [World.makeArray, there, holds]
            have index := tracks.index thread streamer found noted self there
            obtain ⟨original, original_eq, copies⟩ := tracks.copied thread frame noted carried
            refine ⟨{ reader with position := reader.position + 1 }, .ofReader ?_ ?_ (turn.lags gil)
              ?_ (turn.reader_only gil tracked) ?_ ?_ ?_⟩
            · have more : world.readings list =
                  state.world.readings list ++ [.returned found.index frame] := by
                simp [value, World.note]
              rw [more, Reader.run_concat, tracks.log, Option.bind_some, Reader.take, if_pos]
              refine ⟨index, ?_⟩
              rw [original_eq]
              simpa using copies
            · rw [value]
              exact tracks.active
            · intro moved live
              have live : state.world.lists list = some moved := by rwa [value] at live
              have further := tracks.describes turn gil live
              rw [if_pos (by simp [noted, carried])] at further
              rw [if_neg (by simp)]
              exact further
            · intro _ _ noted
              simp at noted
            · intro _ noted
              simp at noted
            · intro _ waited
              exact absurd (by simpa using waited) unwaited
          · have quiet := tracks.unread turn gil tracked (by rwa [noted]) (by simp) (by simpa)
            refine ⟨reader, quiet.congr ?_ ?_ ?_ fun other reads => ?_⟩
            · rw [value]
              cases record with
              | none => simp [World.makeArray, there, holds, World.setStreamer]
              | some other =>
                  have apart : list ≠ other := fun is => same (by rw [is])
                  simp [World.makeArray, there, holds, World.note, apart]
            · rw [value]
              cases record <;> simp [World.makeArray, there, holds, World.setStreamer, World.note]
            · rw [value]
              cases record <;> simp [World.makeArray, there, holds, World.setStreamer, World.note]
            · have own := turn.reader_only gil tracked other (.inl reads)
              rw [own, Function.update_self] at reads
              cases reads

/-- A call returns. -/
theorem Tracks.endCall {request : Request} {reply : Reply}
    {response : Op.Resp (.endCall request reply)}
    (turn : Turn condition state thread choice (.endCall request reply) world response)
    (tracked : Tracked state.world state.stage)
    (tracks : Tracks state.world state.stage list reader) :
    Tracks world (update state.stage thread
      ((state.stage thread).after (.endCall request reply) response)) list reader := by
  obtain ⟨_, gil, _, uncarried, _⟩ := turn.allowed
  have executed := turn.executed
  have logs : Agree state.world world .readings := Op.run_agree executed (by simp [Op.touches])
  have attached : Agree state.world world .attached := Op.run_agree executed (by simp [Op.touches])
  have lists : Agree state.world world .lists := Op.run_agree executed (by simp [Op.touches])
  have record : world.g.record = state.world.g.record := attached
  refine .ofReader ?_ ?_ (turn.lags gil) ?_ (turn.reader_only gil tracked) ?_ ?_ ?_
  · rw [show world.readings = state.world.readings from logs]
    exact tracks.log
  · rw [record]
    exact tracks.active
  · intro found live
    rw [lists.1] at live
    have level := tracks.describes turn gil live
    rw [if_neg (by simp [uncarried])] at level
    rw [if_neg (by simp [Stage.idle])]
    exact level
  · intro _ _ noted
    simp [Stage.idle] at noted
  · intro _ noted
    simp [Stage.idle] at noted
  · intro _ waited
    simp [Stage.idle] at waited

/-! ## Runs -/

/-- Nothing has happened to a list that is not made. -/
theorem Tracked.fresh_step (turn : Turn condition state thread choice operation world response)
    (sound : world.fault = none) (tracked : Tracked state.world state.stage)
    (beyond : world.nextList ≤ list) : world.readings list = [] := by
  have executed := turn.executed
  have later : state.world.nextList ≤ world.nextList := by
    rcases Op.run_nextList executed with same | ⟨more, _⟩ <;> omega
  have new := tracked.fresh list (Nat.le_trans later beyond)
  have made := numbered turn.reached
  have apart {other : ListId} (old : other < state.world.nextList) : list ≠ other := by
    rintro rfl
    exact absurd (Nat.le_trans later beyond) (Nat.not_le_of_lt old)
  have there {other : ListId} {found : FrameList} (live : state.world.lists other = some found) :
      list ≠ other := by
    rintro rfl
    simp [made.lists list (Nat.le_trans later beyond)] at live
  have unattached : state.world.g.record ≠ some list := by
    intro attached
    exact apart (made.record list attached) rfl
  by_cases logs : Part.readings ∈ operation.touches
  · cases operation with
    | append other frame =>
        rcases World.append_cases executed with ⟨⟨fault, rfl⟩, _⟩ | ⟨found, _, live, _, _, value⟩
        · exact new
        · have different := there live
          rw [value]
          split <;> simp [World.appended, World.note, World.free, World.setList, different, new]
    | initParams camera =>
        let initial := { state.world with params := some camera }
        let params := kcInitParams ((state.world.cameras camera).elim default Camera.params)
        have readings : Agree initial (initial.setParams params) .readings :=
          initial.setParams_agree _ (by simp)
        have attached : Agree initial (initial.setParams params) .attached :=
          initial.setParams_agree _ (by simp)
        have unattached : (initial.setParams params).g.record ≠ some list := by
          rw [show _ = _ from attached]
          exact unattached
        have value : world.readings = (initial.setParams params).detach.readings := by
          rw [result_eq executed]
          rfl
        rw [value, World.detach_readings unattached, show _ = _ from readings]
        exact new
    | dropFrame =>
        have value : world.readings =
            (state.world.free state.world.g.frame.toList).detach.readings := by
          rw [result_eq executed]
          rfl
        have unattached : (state.world.free state.world.g.frame.toList).g.record ≠ some list :=
          unattached
        rw [value]
        exact (World.detach_readings unattached).trans new
    | stopRecord =>
        have value := result_eq executed
        simp only [World.stopRecord] at value
        split at value
        · exact value ▸ new
        · split at value
          · exact value ▸ new
          · rename_i other _ _ found _
            have unattached : (state.world.setList other
                { found with recording := 0 }).g.record ≠ some list := unattached
            rw [value]
            exact (World.detach_readings unattached).trans new
    | next other =>
        simp only [Op.run, Option.some.injEq] at executed
        obtain ⟨found, moved, live, cases⟩ :=
          state.world.next_cases other choice.allocates (by rw [executed]; exact sound)
        have different := there live
        rw [executed] at cases
        rcases cases with ⟨_, value⟩ | ⟨frame, _, value⟩ <;> rw [Prod.mk.injEq] at value <;>
          rw [value.1] <;> simp [World.note, World.setList, different, new]
    | makeArray streamer frame bytes =>
        obtain ⟨_, gil, _, carried, record, self, noted⟩ := turn.allowed
        have value := result_eq executed
        cases there : state.world.streamers streamer with
        | none => simp [value, World.makeArray, there, World.fail, new]
        | some found =>
            have holds := (self_known turn.reached turn.running self).2 found there
            cases bytes with
            | true => simp [value, World.makeArray, there, World.fail, new]
            | false =>
                cases record with
                | none => simp [value, World.makeArray, there, holds, World.setStreamer, new]
                | some other =>
                    have different := apart (tracked.noted thread other noted)
                    simp [value, World.makeArray, there, holds, World.note, different, new]
    | seek other n =>
        have value := result_eq executed
        dsimp only [World.onList] at value
        cases live : state.world.lists other with
        | none => simp [value, live, World.fail, World.note] at sound
        | some found =>
            have different := there live
            simp [value, live, World.note, World.setList, different, new]
    | _ => simp [Op.touches] at logs
  · rw [show world.readings = state.world.readings from Op.run_agree executed logs]
    exact new

/-- A list that is read was made. -/
theorem Tracked.noted_step (turn : Turn condition state thread choice operation world response)
    (sound : world.fault = none) (tracked : Tracked state.world state.stage) (other : Tid)
    (noted : (update state.stage thread ((state.stage thread).after operation response)
      other).noted = some list) : list < world.nextList := by
  have later : state.world.nextList ≤ world.nextList := by
    rcases Op.run_nextList turn.executed with same | ⟨more, _⟩ <;> omega
  by_cases own : other = thread
  · subst own
    rw [Function.update_self] at noted
    by_cases note : operation.isNote
    · cases operation with
      | noteIndex streamer asked =>
          have same := Option.some.inj noted
          subst same
          have value := result_eq turn.executed
          by_contra beyond
          have absent := (numbered turn.reached).lists asked
            (Nat.le_trans later (Nat.le_of_not_lt beyond))
          simp [value, absent, World.fail] at sound
      | _ => exact absurd note id
    · exact Nat.lt_of_lt_of_le (tracked.noted other list (turn.noted_before note noted)) later
  · rw [Function.update_of_ne own] at noted
    exact Nat.lt_of_lt_of_le (tracked.noted other list noted) later

/-- The list that was waited for is the one to be read. -/
theorem Tracked.waited_step (turn : Turn condition state thread choice operation world response)
    (tracked : Tracked state.world state.stage) (other : Tid)
    (waited : (update state.stage thread ((state.stage thread).after operation response)
      other).waited = some list) :
    (update state.stage thread ((state.stage thread).after operation response)
        other).noted = some list ∧
      (update state.stage thread ((state.stage thread).after operation response)
        other).carried = none := by
  by_cases own : other = thread
  · subst own
    rw [Function.update_self] at waited ⊢
    by_cases moves : Mark.noted ∈ operation.marks
    · cases operation with
      | noteIndex streamer asked =>
          have before := (tracked.waited other list waited).1
          simp [turn.allowed.2.2.2.2.2.1] at before
      | nextRecordFrame asked =>
          obtain ⟨_, _, _, _, _, noted, uncarried, _⟩ := turn.allowed
          simp only [Stage.after] at waited ⊢
          split at waited
          · rename_i again
            rw [if_pos again]
            exact tracked.waited other list waited
          · rename_i again
            rw [if_neg again]
            exact ⟨by rw [noted, ← waited], uncarried⟩
      | next asked => simp at waited
      | makeArray streamer frame bytes =>
          have before := (tracked.waited other list waited).2
          simp [turn.allowed.2.2.2.1] at before
      | endCall request reply => simp [Stage.idle] at waited
      | _ => simp [Op.marks] at moves
    · have shares : (state.stage other).Shares _ .noted := turn.shares moves
      have before := tracked.waited other list (shares.2 ▸ waited)
      refine ⟨shares.1.trans before.1, ?_⟩
      by_cases carries : Mark.carried ∈ operation.marks
      · have quiet : ¬operation.inReading := by
          cases operation with
          | nextRecordFrame _ | next _ | makeArray _ _ _ | endCall _ _ =>
              exact absurd (by simp [Op.marks]) moves
          | _ => exact id
        rw [turn.reader_quiet quiet] at before
        cases before.1
      · have carried : (state.stage other).Shares _ .carried := turn.shares carries
        exact Eq.trans carried before.2
  · rw [Function.update_of_ne own] at waited ⊢
    exact tracked.waited other list waited

/-- A recording begins with its reader. -/
theorem tracks_start {response : Op.Resp .allocRecord}
    (turn : Turn (ReadsApart list) state thread choice .allocRecord world response)
    (tracked : Tracked state.world state.stage) {params : KcParams}
    (found : state.world.kcParams = some params) (new : state.world.nextList = list) :
    Tracks world (update state.stage thread ((state.stage thread).after .allocRecord response))
      state.world.nextList .start := by
  have unshifted := turn.admitted new params found
  have value := result_eq turn.executed
  simp only [World.allocRecord, found] at value
  have unread (other : Tid) : (update state.stage thread
      ((state.stage thread).after .allocRecord response) other).noted ≠
        some state.world.nextList ∧
      (update state.stage thread ((state.stage thread).after .allocRecord response)
        other).waited ≠ some state.world.nextList := by
    have same : (state.stage other).Shares _ .noted := turn.shares_update (by simp [Op.marks]) other
    rw [same.1, same.2]
    constructor
    · intro noted
      exact Nat.lt_irrefl _ (tracked.noted other _ noted)
    · intro waited
      exact Nat.lt_irrefl _ (tracked.noted other _ (tracked.waited other _ waited).1)
  constructor
  · rw [value]
    simp [World.setList, tracked.fresh _ (Nat.le_refl _), Reader.run]
  · simp [value, Reader.start]
  · intro list live
    have new : list = flistInit 0 params.recordDuration := by
      simpa [value, World.setList, unshifted, eq_comm] using live
    refine ⟨0, .inr ⟨rfl, ?_⟩, new ▸ Reader.describes_flistInit _⟩
    rintro ⟨other, noted, _⟩
    exact (unread other).1 noted
  · intro other _ _ noted
    exact absurd noted (unread other).1
  · intro other _ noted
    exact absurd noted (unread other).1
  · intro other _ waited
    exact absurd waited (unread other).2

/-- A recording that was there goes on. -/
theorem Tracks.step
    (turn : Turn (ReadsApart list) state thread choice operation world response)
    (sound : world.fault = none) (tracked : Tracked state.world state.stage)
    (member : list ∈ state.world.recordings) (tracks : Tracks state.world state.stage list reader) :
    ∃ reader, Tracks world (update state.stage thread
      ((state.stage thread).after operation response)) list reader := by
  by_cases reading : operation.inReading
  · cases operation with
    | nextRecordFrame other => exact ⟨reader, tracks.nextRecordFrame turn sound tracked⟩
    | next other => exact tracks.takeNext turn sound tracked
    | makeArray streamer frame bytes => exact tracks.makeArray turn sound tracked
    | endCall request reply => exact ⟨reader, tracks.endCall turn tracked⟩
    | _ => exact absurd reading id
  · by_cases note : operation.isNote
    · cases operation with
      | noteIndex streamer other => exact ⟨reader, tracks.noteIndex turn sound tracked⟩
      | _ => exact absurd note id
    · obtain ⟨reader, tracks⟩ := tracks.outside turn sound tracked member reading note
      have quiet := turn.reader_quiet reading
      refine ⟨reader, tracks.threads (fun other noted => ?_) fun other reads => ?_⟩
      · rw [Function.update_of_ne]
        rintro rfl
        rw [quiet] at noted
        cases noted
      · by_cases own : other = thread
        · subst own
          have noted := reads.elim id fun waited => (tracked.waited_step turn other waited).1
          rw [Function.update_self] at noted
          rw [turn.noted_before note noted] at quiet
          cases quiet
        · rw [Function.update_of_ne own]

/-- One operation, for all readers. -/
theorem Tracked.step (turn : Turn condition state thread choice operation world response)
    (sound : world.fault = none) (tracked : Tracked state.world state.stage) :
    Tracked world (update state.stage thread ((state.stage thread).after operation response)) where
  fresh _ beyond := tracked.fresh_step turn sound beyond
  noted other _ noted := tracked.noted_step turn sound other noted
  waited other _ waited := tracked.waited_step turn other waited

/-- The recording keeps its reader, and gets one when it begins. -/
theorem Tracked.reader_step
    (turn : Turn (ReadsApart list) state thread choice operation world response)
    (sound : world.fault = none) (tracked : Tracked state.world state.stage)
    (before : list ∈ state.world.recordings →
      ∃ reader, Tracks state.world state.stage list reader)
    (member : list ∈ world.recordings) :
    ∃ reader, Tracks world (update state.stage thread
      ((state.stage thread).after operation response)) list reader := by
  have goes_on (old : list ∈ state.world.recordings) : ∃ reader, Tracks world
      (update state.stage thread ((state.stage thread).after operation response)) list reader := by
    obtain ⟨reader, tracks⟩ := before old
    exact tracks.step turn sound tracked old
  rcases Op.run_recordings turn.executed with same | ⟨rfl, made, _, attached⟩
  · exact goes_on (same ▸ member)
  · rw [made] at member
    rcases List.mem_cons.mp member with rfl | old
    · cases found : state.world.kcParams with
      | none => simp [result_eq turn.executed, World.allocRecord, found, World.fail] at sound
      | some params => exact ⟨.start, tracks_start turn tracked found rfl⟩
    · exact goes_on old

end

/-- In every run what has happened to a recording is what can happen to a reader: frames are
returned in the order in which they were appended, each with its index and none left out, and
nothing is returned only at the end of a recording that has ended. -/
theorem readInOrder (list : ListId) (state : System) (reached : Runs (ReadsApart list) state)
    (sound : state.world.fault = none) (recording : list ∈ state.world.recordings) :
    ∃ reader, Reader.start.run (state.world.readings list) = some reader := by
  have tracked : Tracked state.world state.stage ∧ (list ∈ state.world.recordings →
      ∃ reader, Tracks state.world state.stage list reader) := by
    refine Runs.invariant (fun world stages => world.fault = none → Tracked world stages ∧
      (list ∈ world.recordings → ∃ reader, Tracks world stages list reader)) ?_ ?_ reached sound
    · intro _
      refine ⟨⟨fun _ _ => rfl, ?_, ?_⟩, fun member => ?_⟩
      · intro _ _ noted
        cases noted
      · intro _ _ waited
        cases waited
      · cases member
    · intro state thread choice operation world response turn held sound
      obtain ⟨tracked, before⟩ := held turn.running
      exact ⟨tracked.step turn sound, tracked.reader_step turn sound before⟩
  obtain ⟨reader, tracks⟩ := tracked.2 recording
  exact ⟨reader, tracks.log⟩

/-- Two frames are read, one of them is sought, and both are read again after the end. -/
theorem readInOrder_twoFrames : ∃ state, Runs (ReadsApart 0) state ∧
    (∃ reader, Reader.start.run (state.world.readings 0) = some reader) ∧
      (state.world.readings 0).length = 10 := by
  have passed : (checkedRun [.python 0, .video 0] (fun state _ _ operation =>
      match operation with
      | .allocRecord => state.world.kcParams.all fun params => params.startShift = 0
      | .saveNext _ => false
      | _ => true) System.initial
      (calls (.newCamera someParams) 25 ++ calls (.record someParams) 20 ++
        turns (.video 0) 36 { node := some 0 } ++
        turns (.video 0) 20 { node := some 1, now := 5, pts := 100 } ++
        calls (.frame 0 false) 14 ++ calls (.seek 0 1) 9 ++ calls (.frame 0 false) 14 ++
        calls (.seek 0 0) 9 ++ calls (.stop 0) 9 ++ calls (.frame 0 false) 14 ++
        calls (.frame 0 false) 14 ++ calls (.frame 0 false) 14)).any
      (fun state => state.world.fault = none ∧ 0 ∈ state.world.recordings ∧
        (state.world.readings 0).length = 10) := by
    decide +kernel
  obtain ⟨state, reached, test⟩ := exists_checkedRun (ReadsApart 0) (by
    intro state thread choice operation moved check
    cases operation with
    | allocRecord =>
        intro _ params found
        simpa [found] using check
    | saveNext list => cases check
    | _ => trivial) passed
  obtain ⟨sound, recording, count⟩ := of_decide_eq_true test
  exact ⟨state, reached, readInOrder 0 state reached sound recording, count⟩

end KCamera
