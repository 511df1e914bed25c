import KCamera.App.Requests
import KCamera.Machine.Run

/-!
# A camera session

One session of `event_loop`, from the queueing of the first requests in
`StartCamera` for as long as `run` is set. Three kinds of threads meet here: the
event loop, the camera thread that runs `requestComplete`, and any thread that
calls a setter of `run.cpp`. A step is what a thread does under one lock, or
between two of them.

A moved-from `ControlList` is empty. The sequence number, metadata and frame
rate of a completed request are left out, since nothing reads them.
-/

namespace KCamera.App

/-- Where `requestComplete` is. -/
inductive Callback where
  | entered (request : Request)
  /-- The buffers are copied and the request has been reset. -/
  | detached (request : Request) (payload : BufferMap)
  /-- The request is in `free_requests_`. -/
  | released (payload : BufferMap)

/-- Where the event loop is. -/
inductive Loop where
  /-- `StartCamera` has these requests still to queue. -/
  | startCamera (requests : List Request)
  | setControls
  | wait
  /-- `kcFrameData` reads the memory of `buffer`. -/
  | frameData (payload : BufferMap) (buffer : FrameBuffer)
  | takeRequest (payload : BufferMap)
  | addBuffers (request : Request) (payload : BufferMap)
  | moveControls (request : Request)
  | queueRequest (request : Request)
  /-- An exception has left `event_loop`. -/
  | threw

structure Session where
  /-- The requests that the camera works on. -/
  queued : List Request
  /-- The camera thread. -/
  callback : Option Callback
  /-- `free_requests_` -/
  free : List Request
  /-- `msg_queue_` -/
  messages : List BufferMap
  loop : Loop
  /-- `_controls` of `run.cpp`. -/
  pending : Controls
  /-- `controls_` of the app. -/
  staged : Controls

/-- `StartCamera` has started the camera and cleared `controls_`. -/
def Session.started (requests : List Request) (pending : Controls) : Session where
  queued := []
  callback := none
  free := []
  messages := []
  loop := .startCamera requests
  pending
  staged := default

inductive Event where
  /-- A setter runs while the Camera has these parameters. -/
  | set (setter : Setter) (params : KcParams)
  /-- The event loop goes on; `camera_->queueRequest` succeeds if it is called. -/
  | loop (accepted : Bool)
  /-- The camera has finished the request at `index`. -/
  | complete (index : Nat) (cancelled : Bool)
  /-- `requestComplete` goes on. -/
  | callback

/-- The next step of the event loop. -/
def Session.advance (video : Stream) (accepted : Bool) (session : Session) : Option Session :=
  match session.loop with
  | .startCamera [] => some { session with loop := .setControls }
  | .startCamera (request :: rest) =>
      if accepted then
        some { session with queued := session.queued ++ [request], loop := .startCamera rest }
      else some { session with loop := .threw }
  | .setControls =>
      if session.pending = default then some { session with loop := .wait }
      else some { session with staged := session.pending, pending := default, loop := .wait }
  | .wait =>
      match session.messages with
      | [] => none
      | payload :: rest =>
          match payload.lookup video with
          | some buffer => some { session with messages := rest, loop := .frameData payload buffer }
          | none => some { session with messages := rest, loop := .threw }
  | .frameData payload _ => some { session with loop := .takeRequest payload }
  | .takeRequest payload =>
      match session.free with
      | [] => some { session with loop := .setControls } -- could not make request
      | request :: rest => some { session with free := rest, loop := .addBuffers request payload }
  | .addBuffers request payload =>
      match request.addBuffers payload with
      | some request => some { session with loop := .moveControls request }
      | none => some { session with loop := .threw }
  | .moveControls request =>
      some { session with
        staged := default, loop := .queueRequest { request with controls := session.staged } }
  | .queueRequest request =>
      if accepted then
        some { session with queued := session.queued ++ [request], loop := .setControls }
      else some { session with loop := .setControls }
  | .threw => none

/-- The next step of `requestComplete`. -/
def Session.respond (session : Session) : Option Session :=
  match session.callback with
  | none => none
  | some (.entered request) =>
      some { session with callback := some (.detached request.reuse request.buffers) }
  | some (.detached request payload) =>
      some { session with free := session.free ++ [request], callback := some (.released payload) }
  | some (.released payload) =>
      some { session with messages := session.messages ++ [payload], callback := none }

/-- The camera thread enters `requestComplete`, which ignores a cancelled request. -/
def Session.complete (session : Session) (index : Nat) (cancelled : Bool) : Option Session :=
  match session.callback, session.queued[index]? with
  | none, some request =>
      some { session with
        queued := session.queued.eraseIdx index
        callback := if cancelled then none else some (.entered request) }
  | _, _ => none

/-- A step of the session; `none` when the thread cannot take one. -/
def Session.step (video : Stream) (session : Session) : Event → Option Session
  | .set setter params =>
      some { session with pending := (setter.apply params session.pending).2 }
  | .loop accepted => session.advance video accepted
  | .complete index cancelled => session.complete index cancelled
  | .callback => session.respond

/-- The camera runs: requests are accepted and none is cancelled. -/
def Running (_ : Session) : Event → Prop
  | .loop accepted => accepted = true
  | .complete _ cancelled => cancelled = false
  | _ => True

end KCamera.App
