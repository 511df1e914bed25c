import KCamera.App.Pool

/-!
# Control updates

The way of a control's value from a setter to the camera: `_controls`,
`controls_`, and the request that `QueueRequest` has taken. Both lists are moved
as a whole, so an update is safe as long as the list it moves to is empty.
-/

namespace KCamera.App

open Machine

/-- What has happened to the controls. -/
structure Journal where
  /-- The values set, in order. -/
  assigned : ControlId → List ControlValue
  /-- The requests as they were queued, in order. -/
  queued : List Request
  /-- The requests as the camera finished them. -/
  completed : List Request

/-- The journal of a session that starts with these values in `_controls`. -/
def Journal.start (pending : Controls) : Journal where
  assigned id := (pending.get id).toList
  queued := []
  completed := []

def Journal.observe (journal : Journal) (session : Session) : Event → Journal
  | .set setter params =>
      { journal with assigned := fun id => journal.assigned id ++ (setter.written params id).toList }
  | .loop _ =>
      match session.loop with
      | .startCamera (request :: _) | .queueRequest request =>
          { journal with queued := journal.queued ++ [request] }
      | _ => journal
  | .complete index _ =>
      { journal with completed := journal.completed ++ session.queued[index]?.toList }
  | .callback => journal

/-- The request that `QueueRequest` is about to queue, controls included. -/
def Loop.ready : Loop → List Request
  | .queueRequest request => [request]
  | _ => []

/-- The values of a control in a sequence of requests. -/
def valuesIn (requests : List Request) (id : ControlId) : List ControlValue :=
  requests.filterMap fun request => request.controls.get id

/-- The values of a control that have not been lost, from the camera back to
the setters. -/
def travelling (session : Session) (journal : Journal) (id : ControlId) : List ControlValue :=
  valuesIn (journal.queued ++ session.loop.ready) id ++ (session.staged.get id).toList ++
    (session.pending.get id).toList

/-- No update is lost or reordered. -/
structure Conveyed (session : Session) (journal : Journal) : Prop where
  /-- The latest value of a control is on its way, or a request has taken it to
  the camera. -/
  latest : ∀ id value, (journal.assigned id).getLast? = some value →
    session.pending.get id = some value ∨ session.staged.get id = some value ∨
      (∃ request, session.loop = .queueRequest request ∧ request.controls.get id = some value) ∨
      ∃ request ∈ journal.queued, request.controls.get id = some value
  /-- Each queueing of a request has ended in a completion, or is still open. -/
  queued : journal.queued.Perm (session.queued ++ journal.completed)
  /-- Values arrive in the order in which they were set. -/
  ordered : ∀ id, (travelling session journal id).Sublist (journal.assigned id)
  /-- The value set last comes last among those that arrive or are on their way. -/
  last : ∀ id, (travelling session journal id).getLast? = (journal.assigned id).getLast?

/-- `controls_` is empty here. -/
def Loop.drained : Loop → Prop
  | .startCamera _ | .setControls | .queueRequest _ => True
  | _ => False

/-- What holds along the way. -/
structure Travels (session : Session) (journal : Journal) : Prop where
  drained : session.loop.drained → session.staged = default
  bare : ∀ requests, session.loop = .startCamera requests →
    ∀ request ∈ requests, request.controls = default
  queued : journal.queued.Perm (session.queued ++ journal.completed)
  ordered : ∀ id, (travelling session journal id).Sublist (journal.assigned id)
  latest : ∀ id, (travelling session journal id).getLast? = (journal.assigned id).getLast?

section

variable {Value : Type} {front history : List Value} {old : Option Value}

/-- A value at the end gives way to a later one. -/
theorem supersede_sublist (new : Option Value)
    (ordered : (front ++ old.toList).Sublist history) :
    (front ++ (new.or old).toList).Sublist (history ++ new.toList) := by
  cases new with
  | none => simpa using ordered
  | some value =>
      have kept : front.Sublist history := (List.sublist_append_left _ _).trans ordered
      simpa using kept.append_right [value]

/-- The last value of a history is the new one, or the last before. -/
theorem supersede_last (new : Option Value)
    (latest : (front ++ old.toList).getLast? = history.getLast?) :
    (front ++ (new.or old).toList).getLast? = (history ++ new.toList).getLast? := by
  cases new with
  | none => simpa using latest
  | some value => simp

end

/-- What travels is conveyed. -/
theorem Travels.conveyed {session : Session} {journal : Journal}
    (travels : Travels session journal) : Conveyed session journal where
  latest id value last := by
    rw [← travels.latest id] at last
    have member := List.mem_of_getLast? last
    simp only [travelling, valuesIn, List.mem_append, List.mem_filterMap,
      Option.mem_toList] at member
    rcases member with (⟨request, queued | ready, found⟩ | staged) | pending
    · exact .inr (.inr (.inr ⟨request, queued, found⟩))
    · refine .inr (.inr (.inl ⟨request, ?_, found⟩))
      revert ready
      cases session.loop <;> simp [Loop.ready]
      rintro rfl
      rfl
    · exact .inr (.inl staged)
    · exact .inl pending
  queued := travels.queued
  ordered := travels.ordered
  last := travels.latest

section

variable {video : Stream} {made : List Request} {session next : Session} {journal : Journal}

/-- Behind `StartCamera` the pending controls are all that was assigned. -/
theorem Travels.start (bare : ∀ request ∈ made, request.controls = default) (pending : Controls) :
    Travels (.started made pending) (.start pending) where
  drained _ := rfl
  bare := by
    rintro _ ⟨⟩
    exact bare
  queued := .refl _
  ordered id := by simp [travelling, valuesIn, Session.started, Loop.ready, Journal.start]
  latest id := by simp [travelling, valuesIn, Session.started, Loop.ready, Journal.start]

/-- A setter supersedes what `_controls` has of the controls it writes. -/
theorem Travels.set (travels : Travels session journal) (setter : Setter) (params : KcParams) :
    Travels { session with pending := (setter.apply params session.pending).2 }
      (journal.observe session (.set setter params)) := by
  refine ⟨travels.drained, travels.bare, travels.queued, fun id => ?_, fun id => ?_⟩
  · have ordered := supersede_sublist (setter.written params id) (travels.ordered id)
    rwa [← Setter.get_apply] at ordered
  · have latest := supersede_last (setter.written params id) (travels.latest id)
    rwa [← Setter.get_apply] at latest

/-- Nothing is lost where the values on their way stay the same. -/
theorem Travels.of_travelling {journal' : Journal} (travels : Travels session journal)
    (drained : next.loop.drained → next.staged = default)
    (bare : ∀ requests, next.loop = .startCamera requests →
      ∀ request ∈ requests, request.controls = default)
    (queued : journal'.queued.Perm (next.queued ++ journal'.completed))
    (assigned : journal'.assigned = journal.assigned)
    (same : ∀ id, travelling next journal' id = travelling session journal id) :
    Travels next journal' where
  drained := drained
  bare := bare
  queued := queued
  ordered id := by
    rw [same, assigned]
    exact travels.ordered id
  latest id := by
    rw [same, assigned]
    exact travels.latest id

/-- The camera finishes a request that was queued. -/
theorem Travels.complete {index : Nat} {cancelled : Bool} (travels : Travels session journal)
    (taken : session.complete index cancelled = some next) :
    Travels next (journal.observe session (.complete index cancelled)) := by
  unfold Session.complete at taken
  split at taken
  · rename_i request idle found
    cases taken
    refine travels.of_travelling travels.drained travels.bare ?_ rfl fun _ => rfl
    have out := perm_eraseIdx found
    have perm := travels.queued
    simp only [Journal.observe, found, Option.toList_some]
    rw [List.perm_iff_count] at perm out ⊢
    intro item
    have counted := perm item
    have moved := out item
    simp only [List.count_append, List.count_cons, List.count_nil] at counted moved ⊢
    omega
  · cases taken

/-- `requestComplete` does not touch the controls on their way. -/
theorem Travels.respond (travels : Travels session journal)
    (taken : session.respond = some next) : Travels next journal := by
  unfold Session.respond at taken
  split at taken
  · cases taken
  all_goals
    cases taken
    exact travels.of_travelling travels.drained travels.bare travels.queued rfl fun _ => rfl

/-- The event loop moves both lists only when the next one is empty. -/
theorem Travels.advance (balanced : Balanced made session) (travels : Travels session journal)
    (taken : session.advance video true = some next) :
    Travels next (journal.observe session (.loop true)) := by
  have level := balanced.level
  have drained := travels.drained
  have bare := travels.bare
  unfold Session.advance at taken
  split at taken
  · rename_i phase
    cases taken
    simp only [Journal.observe, phase]
    refine travels.of_travelling (fun _ => drained (by rw [phase]; trivial)) (by simp)
      travels.queued rfl fun id => ?_
    simp [travelling, phase, Loop.ready]
  · rename_i request rest phase
    rw [if_pos rfl] at taken
    cases taken
    have plain := bare _ phase
    simp only [Journal.observe, phase]
    refine travels.of_travelling (fun _ => drained (by rw [phase]; trivial)) ?_ ?_ rfl fun id => ?_
    · rintro _ ⟨⟩
      exact fun other member => plain other (List.mem_cons_of_mem _ member)
    · have perm := travels.queued
      rw [List.perm_iff_count] at perm ⊢
      intro item
      have counted := perm item
      simp only [List.count_append] at counted ⊢
      omega
    · have none : request.controls.get id = none := by
        rw [plain request (List.mem_cons_self ..), Controls.get_default]
      simp [travelling, phase, Loop.ready, valuesIn, none]
  · rename_i phase
    have empty := drained (by rw [phase]; trivial)
    split at taken
    all_goals
      cases taken
      simp only [Journal.observe, phase]
      refine travels.of_travelling (by simp [Loop.drained]) (by simp) travels.queued rfl
        fun id => ?_
      simp [travelling, phase, Loop.ready, empty]
  · rename_i phase
    simp only [Journal.observe, phase]
    split at taken
    · cases taken
    · split at taken
      all_goals
        cases taken
        refine travels.of_travelling (by simp [Loop.drained]) (by simp) travels.queued rfl
          fun id => ?_
        simp [travelling, phase, Loop.ready]
  · rename_i payload buffer phase
    cases taken
    simp only [Journal.observe, phase]
    refine travels.of_travelling (by simp [Loop.drained]) (by simp) travels.queued rfl fun id => ?_
    simp [travelling, phase, Loop.ready]
  · rename_i payload phase
    simp only [Journal.observe, phase]
    split at taken
    · rename_i none
      simp [phase, none, Loop.unserved] at level
      omega
    · cases taken
      refine travels.of_travelling (by simp [Loop.drained]) (by simp) travels.queued rfl
        fun id => ?_
      simp [travelling, phase, Loop.ready]
  · rename_i request payload phase
    simp only [Journal.observe, phase]
    split at taken
    all_goals
      cases taken
      refine travels.of_travelling (by simp [Loop.drained]) (by simp) travels.queued rfl
        fun id => ?_
      simp [travelling, phase, Loop.ready]
  · rename_i request phase
    cases taken
    simp only [Journal.observe, phase]
    refine travels.of_travelling (fun _ => rfl) (by simp) travels.queued rfl fun id => ?_
    cases found : session.staged.get id <;>
      simp [travelling, phase, Loop.ready, valuesIn, found]
  · rename_i request phase
    rw [if_pos rfl] at taken
    cases taken
    simp only [Journal.observe, phase]
    refine travels.of_travelling (fun _ => drained (by rw [phase]; trivial)) (by simp) ?_ rfl
      fun id => ?_
    · have perm := travels.queued
      rw [List.perm_iff_count] at perm ⊢
      intro item
      have counted := perm item
      simp only [List.count_append] at counted ⊢
      omega
    · simp [travelling, phase, Loop.ready, valuesIn]
  · cases taken

/-- Each step of a running session keeps track of the values. -/
theorem Travels.step (balanced : Balanced made session) (travels : Travels session journal)
    {event : Event} (running : Running session event)
    (taken : session.step video event = some next) :
    Travels next (journal.observe session event) := by
  cases event with
  | set setter params =>
      cases taken
      exact travels.set setter params
  | loop accepted =>
      cases running
      exact travels.advance balanced taken
  | complete index cancelled => exact travels.complete taken
  | callback => exact travels.respond taken

end

/-- A session with its journal. -/
abbrev Recorded := Session × Journal

/-- While the camera runs, every update reaches it in order or is on its way. -/
theorem conveyed_of_running {made : List Request} {video : Stream} {buffers : List FrameBuffer}
    {others : List (Stream × List FrameBuffer)} (pending : Controls)
    (result : makeRequests video 0 buffers others = some made) {recorded : Recorded}
    (reached : Reach (monitored (Session.step video) Journal.observe)
      (fun current => Running current.1)
      (· = (.started made pending, .start pending)) recorded) :
    Conveyed recorded.1 recorded.2 := by
  obtain ⟨-, proper, -⟩ := makeRequests_spec result
  have both := reached.invariant
    (fun current => Balanced made current.1 ∧ Travels current.1 current.2) ?_ ?_
  · exact both.2.conveyed
  · rintro _ rfl
    exact ⟨.started made pending, .start (fun request member => (proper request member).2.2) pending⟩
  · intro current event next _ held running taken
    obtain ⟨taken, same⟩ := monitored_eq_some.mp taken
    rw [same]
    exact ⟨held.1.step proper running taken, held.2.step held.1 running taken⟩

/-- An update that goes all the way to the camera, and the completion of its request. -/
def updateRun : List Event :=
  [.loop true, .loop true, .set .autoShutter { (default : KcParams) with autoShutter := true },
    .complete 0 false, .callback, .callback, .callback, .loop true, .loop true, .loop true,
    .loop true, .loop true, .loop true, .loop true, .complete 0 false, .callback]

/-- A session of one request. -/
def updateStart : Recorded := (.started [⟨0, [(0, 10)], default⟩] default, .start default)

/-- The session of `updateRun` and its journal. -/
def updateRecorded : Option Recorded :=
  run (monitored (Session.step 0) Journal.observe) updateStart updateRun

/-- The recorded run is one of a running session. -/
theorem updateRun_reaches {recorded : Recorded} (executed : updateRecorded = some recorded) :
    Reach (monitored (Session.step 0) Journal.observe) (fun current => Running current.1)
      (· = updateStart) recorded := by
  have each : ∀ event ∈ updateRun, ∀ current : Recorded, Running current.1 event := by
    simp [updateRun, Running]
  exact reach_run_of_allowed each (.start rfl) executed

/-- One value goes all the way to the camera and is conveyed. -/
theorem conveyed_of_running_update :
    ∃ recorded ∈ updateRecorded, Conveyed recorded.1 recorded.2 := by
  obtain ⟨recorded, executed⟩ : ∃ recorded, updateRecorded = some recorded := ⟨_, rfl⟩
  have result : makeRequests 0 0 [10] [] = some [⟨0, [(0, 10)], default⟩] := by decide
  exact ⟨recorded, executed, conveyed_of_running default result (updateRun_reaches executed)⟩

/-- A value is in one of the lists, or in a request that is queued now or is
being queued. -/
def Underway (session : Session) (id : ControlId) (value : ControlValue) : Prop :=
  session.pending.get id = some value ∨ session.staged.get id = some value ∨
    (∃ request, session.loop = .queueRequest request ∧ request.controls.get id = some value) ∨
    ∃ request ∈ session.queued, request.controls.get id = some value

/-- The request that has taken a value to the camera does not keep it. -/
theorem underway_until_completed :
    ¬∀ recorded : Recorded,
      Reach (monitored (Session.step 0) Journal.observe) (fun current => Running current.1)
        (· = updateStart) recorded →
      ∀ id value, (recorded.2.assigned id).getLast? = some value →
        Underway recorded.1 id value := by
  intro claim
  obtain ⟨recorded, executed⟩ : ∃ recorded, updateRecorded = some recorded := ⟨_, rfl⟩
  have last : updateRecorded.map (fun recorded =>
      ((recorded.2.assigned .exposureTime).getLast?, recorded.1.pending, recorded.1.staged,
        recorded.1.loop.ready, recorded.1.queued)) =
      some (some (.number 0), default, default, [], []) := by
    decide
  simp only [executed, Option.map_some, Option.some.injEq, Prod.mk.injEq] at last
  obtain ⟨latest, pending, staged, ready, queued⟩ := last
  rcases claim recorded (updateRun_reaches executed) _ _ latest with inside | inside | inside | inside
  · rw [pending] at inside
    cases inside
  · rw [staged] at inside
    cases inside
  · obtain ⟨request, phase, -⟩ := inside
    rw [phase] at ready
    cases ready
  · obtain ⟨request, member, -⟩ := inside
    rw [queued] at member
    cases member

end KCamera.App
