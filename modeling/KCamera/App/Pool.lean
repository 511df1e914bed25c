import KCamera.App.Loop
import KCamera.Machine.Pool

/-!
# The pool of requests and frame buffers

Requests and the buffers they carried part at completion and are put together
again in `QueueRequest`. `requestComplete` frees the request before it posts the
message, so every message finds a free request.
-/

namespace KCamera.App

open Machine

/-! ## Who holds what -/

/-- The requests in the hands of `requestComplete`. -/
def Callback.requests : Callback → List Request
  | .entered request | .detached request _ => [request]
  | .released _ => []

/-- The buffers in the hands of `requestComplete`. -/
def Callback.maps : Callback → List BufferMap
  | .entered request => [request.buffers]
  | .detached _ payload | .released payload => [payload]

/-- The requests in the hands of `StartCamera` and `QueueRequest`. -/
def Loop.requests : Loop → List Request
  | .startCamera requests => requests
  | .addBuffers request _ | .moveControls request | .queueRequest request => [request]
  | _ => []

/-- The buffers that the event loop holds. -/
def Loop.maps : Loop → List BufferMap
  | .startCamera requests => requests.map Request.buffers
  | .frameData payload _ | .takeRequest payload | .addBuffers _ payload => [payload]
  | .moveControls request | .queueRequest request => [request.buffers]
  | _ => []

/-- The message that the event loop holds and has taken no request for. -/
def Loop.unserved : Loop → Nat
  | .frameData _ _ | .takeRequest _ => 1
  | _ => 0

/-- A request is free whose message is not yet posted. -/
def Callback.ahead : Option Callback → Nat
  | some (.released _) => 1
  | _ => 0

def Session.calling (session : Session) : List Callback := session.callback.toList

/-- The places of the requests. -/
def Session.requestPlaces (session : Session) : List (List Nat) :=
  [session.queued.map Request.id, session.free.map Request.id,
    (session.calling.flatMap Callback.requests ++ session.loop.requests).map Request.id]

/-- The places of the frame buffers. -/
def Session.bufferPlaces (session : Session) : List (List FrameBuffer) :=
  [attached session.queued, (session.calling.flatMap Callback.maps).flatMap framesIn,
    session.messages.flatMap framesIn, session.loop.maps.flatMap framesIn]

/-- What the pool of a running camera keeps. -/
structure Pooled (made : List Request) (session : Session) : Prop where
  requests : Distributed (made.map Request.id) session.requestPlaces
  buffers : Distributed (attached made) session.bufferPlaces
  enough : session.messages.length + session.loop.unserved ≤ session.free.length
  /-- `QueueRequest` finds a free request. -/
  served : ∀ payload, session.loop = .takeRequest payload → session.free ≠ []
  /-- The memory that `kcFrameData` reads is not the camera's. -/
  readable : ∀ payload buffer, session.loop = .frameData payload buffer →
    buffer ∉ attached session.queued
  /-- No exception leaves the event loop. -/
  going : session.loop ≠ .threw

/-! ## The joint invariant -/

/-- The requests of the session, by their addresses. -/
def Session.ids (session : Session) : List Nat :=
  (session.queued ++ session.free ++
    (session.calling.flatMap Callback.requests ++ session.loop.requests)).map Request.id

/-- The buffer maps of the session. They move as a whole. -/
def Session.maps (session : Session) : List BufferMap :=
  session.queued.map Request.buffers ++ session.calling.flatMap Callback.maps ++
    session.messages ++ session.loop.maps

/-- Requests and buffer maps are permutations of those made, and the number of
free requests follows from where the two threads are. -/
structure Balanced (made : List Request) (session : Session) : Prop where
  ids : session.ids.Perm (made.map Request.id)
  maps : session.maps.Perm (made.map Request.buffers)
  free : ∀ request ∈ session.free, request.buffers = []
  detached : ∀ request payload, session.callback = some (.detached request payload) →
    request.buffers = []
  filling : ∀ request payload, session.loop = .addBuffers request payload → request.buffers = []
  level : session.free.length =
    session.messages.length + session.loop.unserved + Callback.ahead session.callback
  going : session.loop ≠ .threw
  reading : ∀ payload buffer, session.loop = .frameData payload buffer → buffer ∈ framesIn payload

/-- Requests as `makeRequests` makes them. -/
def Made (video : Stream) (made : List Request) : Prop :=
  ∀ request ∈ made, request.Proper ∧ video ∈ request.buffers.map Prod.fst ∧
    request.controls = default

section

variable {video : Stream} {made : List Request} {session next : Session}

/-- Behind `StartCamera` every request is queued. -/
theorem Balanced.started (made : List Request) (pending : Controls) :
    Balanced made (.started made pending) where
  ids := by simp [Session.ids, Session.started, Session.calling, Loop.requests]
  maps := by simp [Session.maps, Session.started, Session.calling, Loop.maps]
  free := by simp [Session.started]
  detached := by simp [Session.started]
  filling := by simp [Session.started]
  level := rfl
  going := by simp [Session.started]
  reading := by simp [Session.started]

/-- A posted message is the buffer map of a request that was made. -/
theorem Balanced.map_made (balanced : Balanced made session) {map : BufferMap}
    (held : map ∈ session.maps) : ∃ request ∈ made, request.buffers = map :=
  List.mem_map.mp (balanced.maps.mem_iff.mp held)

/-- No request is lost or doubled when each identity is counted in the four places. -/
theorem ids_perm_iff : session.ids.Perm (made.map Request.id) ↔ ∀ id,
    (session.queued.map Request.id).count id + (session.free.map Request.id).count id +
      ((session.calling.flatMap Callback.requests).map Request.id).count id +
      (session.loop.requests.map Request.id).count id = (made.map Request.id).count id := by
  rw [List.perm_iff_count]
  refine forall_congr' fun id => ?_
  simp only [Session.ids, List.map_append, List.count_append]
  omega

/-- The same for the buffer maps of requests. -/
theorem maps_perm_iff : session.maps.Perm (made.map Request.buffers) ↔ ∀ map,
    (session.queued.map Request.buffers).count map +
      (session.calling.flatMap Callback.maps).count map + session.messages.count map +
      session.loop.maps.count map = (made.map Request.buffers).count map := by
  rw [List.perm_iff_count]
  refine forall_congr' fun map => ?_
  simp only [Session.maps, List.count_append]

/-- The camera thread takes a request from those queued. -/
theorem Balanced.complete {index : Nat} (balanced : Balanced made session)
    (taken : session.complete index false = some next) : Balanced made next := by
  obtain ⟨ids, maps, free, detached, filling, level, going, reading⟩ := balanced
  unfold Session.complete at taken
  split at taken
  · rename_i request idle found
    cases taken
    have out := perm_eraseIdx found
    refine ⟨ids_perm_iff.mpr fun id => ?_, maps_perm_iff.mpr fun map => ?_, free, by simp, filling,
      ?_, going, reading⟩
    · have counted := ids_perm_iff.mp ids id
      have moved := (out.map Request.id).count_eq id
      simp [Session.calling, idle, Callback.requests, List.count_cons] at counted moved ⊢
      omega
    · have counted := maps_perm_iff.mp maps map
      have moved := (out.map Request.buffers).count_eq map
      simp [Session.calling, idle, Callback.maps, List.count_cons] at counted moved ⊢
      omega
    · rw [idle] at level
      exact level
  · cases taken

/-- `requestComplete` frees the request and then posts its buffers. -/
theorem Balanced.respond (balanced : Balanced made session)
    (taken : session.respond = some next) : Balanced made next := by
  obtain ⟨ids, maps, free, detached, filling, level, going, reading⟩ := balanced
  unfold Session.respond at taken
  split at taken
  · cases taken
  · rename_i request busy
    cases taken
    refine ⟨ids_perm_iff.mpr fun id => ?_, maps_perm_iff.mpr fun map => ?_, free, ?_, filling, ?_,
      going, reading⟩
    · have counted := ids_perm_iff.mp ids id
      simpa [Session.calling, busy, Callback.requests, Request.reuse] using counted
    · have counted := maps_perm_iff.mp maps map
      simpa [Session.calling, busy, Callback.maps] using counted
    · rintro _ _ ⟨⟩
      rfl
    · rw [busy] at level
      exact level
  · rename_i request payload busy
    cases taken
    refine ⟨ids_perm_iff.mpr fun id => ?_, maps_perm_iff.mpr fun map => ?_, ?_, by simp, filling,
      ?_, going, reading⟩
    · have counted := ids_perm_iff.mp ids id
      simp [Session.calling, busy, Callback.requests, List.count_cons] at counted ⊢
      omega
    · have counted := maps_perm_iff.mp maps map
      simpa [Session.calling, busy, Callback.maps] using counted
    · intro released member
      rcases List.mem_append.mp member with old | new
      · exact free released old
      · rw [List.mem_singleton.mp new]
        exact detached request payload busy
    · rw [busy] at level
      simp only [Callback.ahead, List.length_append, List.length_singleton] at level ⊢
      omega
  · rename_i payload busy
    cases taken
    refine ⟨ids_perm_iff.mpr fun id => ?_, maps_perm_iff.mpr fun map => ?_, free, by simp, filling,
      ?_, going, reading⟩
    · have counted := ids_perm_iff.mp ids id
      simpa [Session.calling, busy, Callback.requests] using counted
    · have counted := maps_perm_iff.mp maps map
      simp [Session.calling, busy, Callback.maps, List.count_cons] at counted ⊢
      omega
    · rw [busy] at level
      simp only [Callback.ahead, List.length_append, List.length_singleton] at level ⊢
      omega

/-- The event loop queues requests, waits for a message and serves it with a
free request. -/
theorem Balanced.advance (proper : Made video made) (balanced : Balanced made session)
    (taken : session.advance video true = some next) : Balanced made next := by
  have known := fun payload => @Balanced.map_made _ _ balanced payload
  obtain ⟨ids, maps, free, detached, filling, level, going, reading⟩ := balanced
  have counts := ids_perm_iff.mp ids
  have counts' := maps_perm_iff.mp maps
  unfold Session.advance at taken
  split at taken
  · rename_i phase
    cases taken
    rw [phase] at level counts counts'
    exact ⟨ids_perm_iff.mpr counts, maps_perm_iff.mpr counts', free, detached, by simp, level,
      by simp, by simp⟩
  · rename_i request rest phase
    rw [if_pos rfl] at taken
    cases taken
    rw [phase] at level counts counts'
    refine ⟨ids_perm_iff.mpr fun id => ?_, maps_perm_iff.mpr fun map => ?_, free, detached,
      by simp, level, by simp, by simp⟩
    · have counted := counts id
      simp [Loop.requests, Session.calling, List.count_cons] at counted ⊢
      omega
    · have counted := counts' map
      simp [Loop.maps, Session.calling, List.count_cons] at counted ⊢
      omega
  · rename_i phase
    rw [phase] at level counts counts'
    split at taken
    all_goals
      cases taken
      exact ⟨ids_perm_iff.mpr counts, maps_perm_iff.mpr counts', free, detached, by simp, level,
        by simp, by simp⟩
  · rename_i phase
    rw [phase] at level counts counts'
    split at taken
    · cases taken
    · rename_i payload rest posted
      rw [posted] at level counts'
      have served : (payload.lookup video).isSome := by
        obtain ⟨request, member, rfl⟩ := known payload (by simp [Session.maps, posted])
        obtain ⟨entry, inside, same⟩ := List.mem_map.mp (proper request member).2.1
        exact List.lookup_isSome_iff.mpr ⟨entry, inside, by simp [same]⟩
      split at taken
      · cases taken
        refine ⟨ids_perm_iff.mpr counts, maps_perm_iff.mpr fun map => ?_, free, detached, by simp,
          ?_, by simp, ?_⟩
        · have counted := counts' map
          simp [Loop.maps, Session.calling, List.count_cons] at counted ⊢
          omega
        · simp [Loop.unserved] at level ⊢
          omega
        · rename_i buffer found
          rintro _ _ ⟨⟩
          obtain ⟨_, _, rfl, _⟩ := List.lookup_eq_some_iff.mp found
          simp
      · rename_i missing
        rw [missing] at served
        cases served
  · rename_i payload buffer phase
    cases taken
    rw [phase] at level counts counts'
    exact ⟨ids_perm_iff.mpr counts, maps_perm_iff.mpr counts', free, detached, by simp, level,
      by simp, by simp⟩
  · rename_i payload phase
    rw [phase] at level counts counts'
    split at taken
    · rename_i none
      simp [none, Loop.unserved] at level
      omega
    · rename_i request rest first
      cases taken
      rw [first] at level counts free
      refine ⟨ids_perm_iff.mpr fun id => ?_, maps_perm_iff.mpr counts', ?_, detached, ?_, ?_,
        by simp, by simp⟩
      · have counted := counts id
        simp [Loop.requests, Session.calling, List.count_cons] at counted ⊢
        omega
      · exact fun request member => free request (List.mem_cons_of_mem _ member)
      · rintro _ _ ⟨⟩
        exact free request (List.mem_cons_self ..)
      · simp [Loop.unserved] at level ⊢
        omega
  · rename_i request payload phase
    rw [phase] at level counts counts'
    have empty := filling request payload phase
    have filled : request.addBuffers payload = some { request with buffers := payload } := by
      obtain ⟨original, member, same⟩ :=
        known payload (by simp [Session.maps, phase, Loop.maps])
      have streams := (proper original member).1
      rw [Request.Proper, same] at streams
      rw [Request.addBuffers_eq request payload (by rwa [empty, List.nil_append]), empty,
        List.nil_append]
    rw [filled] at taken
    cases taken
    exact ⟨ids_perm_iff.mpr counts, maps_perm_iff.mpr counts', free, detached, by simp, level,
      by simp, by simp⟩
  · rename_i request phase
    cases taken
    rw [phase] at level counts counts'
    exact ⟨ids_perm_iff.mpr counts, maps_perm_iff.mpr counts', free, detached, by simp, level,
      by simp, by simp⟩
  · rename_i request phase
    rw [if_pos rfl] at taken
    cases taken
    rw [phase] at level counts counts'
    refine ⟨ids_perm_iff.mpr fun id => ?_, maps_perm_iff.mpr fun map => ?_, free, detached,
      by simp, level, by simp, by simp⟩
    · have counted := counts id
      simp [Loop.requests, Session.calling, List.count_cons] at counted ⊢
      omega
    · have counted := counts' map
      simp [Loop.maps, Session.calling, List.count_cons] at counted ⊢
      omega
  · cases taken

/-- Every step of a running camera keeps the pool balanced. -/
theorem Balanced.step (proper : Made video made) (balanced : Balanced made session)
    {event : Event} (running : Running session event)
    (taken : session.step video event = some next) : Balanced made next := by
  cases event with
  | set setter params =>
      cases taken
      exact ⟨balanced.ids, balanced.maps, balanced.free, balanced.detached, balanced.filling,
        balanced.level, balanced.going, balanced.reading⟩
  | loop accepted =>
      cases running
      exact balanced.advance proper taken
  | complete index cancelled =>
      cases running
      exact balanced.complete taken
  | callback => exact balanced.respond taken

/-- A balanced pool is distributed over its places. -/
theorem Balanced.pooled (distinct : (made.map Request.id).Nodup) (unshared : (attached made).Nodup)
    (balanced : Balanced made session) : Pooled made session := by
  have level := balanced.level
  have frames : session.bufferPlaces.flatten.Perm (attached made) := by
    have moved := balanced.maps.flatMap_right framesIn
    simpa [Session.maps, Session.bufferPlaces, attached, List.flatMap_map] using moved
  have intact := distributed_of_perm unshared frames
  refine ⟨?_, intact, ?_, ?_, ?_, balanced.going⟩
  · refine distributed_of_perm distinct ?_
    simpa [Session.ids, Session.requestPlaces] using balanced.ids
  · omega
  · intro payload phase none
    simp [phase, none, Loop.unserved] at level
    omega
  · intro payload buffer phase camera
    have held : buffer ∈ session.loop.maps.flatMap framesIn := by
      rw [phase]
      simpa [Loop.maps] using balanced.reading payload buffer phase
    have apart : (3 : Nat) ≠ 0 := by decide
    exact intact.apart apart rfl rfl held camera

/-- While the camera runs, the requests that `makeRequests` made and the frame
buffers it attached to them stay in the pool. -/
theorem pooled_of_running {made : List Request} {video : Stream} {buffers : List FrameBuffer}
    {others : List (Stream × List FrameBuffer)} (pending : Controls)
    (result : makeRequests video 0 buffers others = some made)
    (unshared : (buffers ++ others.flatMap Prod.snd).Nodup) {session : Session}
    (reached : Reach (Session.step video) Running (· = .started made pending) session) :
    Pooled made session := by
  obtain ⟨ids, proper, left, perm, -⟩ := makeRequests_spec result
  have distinct : (made.map Request.id).Nodup := by
    rw [ids]
    exact List.nodup_range'
  have attachedOnce := (List.nodup_append.mp (perm.nodup_iff.mpr unshared)).1
  have balanced := reached.invariant (Balanced made)
    (by rintro _ rfl; exact .started made pending)
    (fun _ _ _ _ balanced running taken => balanced.step proper running taken)
  exact balanced.pooled distinct attachedOnce

/-- A session of two streams with two buffers each, in which the camera
finishes the second request first. -/
theorem pooled_of_running_two :
    Pooled [⟨0, [(0, 10), (1, 20)], default⟩, ⟨1, [(0, 11), (1, 21)], default⟩]
      ⟨[⟨0, [(0, 10), (1, 20)], default⟩], some (.entered ⟨1, [(0, 11), (1, 21)], default⟩), [], [],
        .startCamera [], default, default⟩ := by
  have result : makeRequests 0 0 [10, 11] [(1, [20, 21])] =
      some [⟨0, [(0, 10), (1, 20)], default⟩, ⟨1, [(0, 11), (1, 21)], default⟩] := by
    decide
  refine pooled_of_running default result (by decide) ?_
  have accepted : ∀ session, Running session (.loop true) := fun _ => rfl
  have finished : ∀ session, Running session (.complete 1 false) := fun _ => rfl
  exact .step (.step (.step (.start rfl) (accepted _) rfl) (accepted _) rfl) (finished _) rfl

end

end KCamera.App
