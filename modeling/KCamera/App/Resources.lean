import KCamera.App.Requests
import KCamera.Machine.Unwind

/-!
# The resources of a session

What `LibcameraApp` takes from libcamera and from the kernel in one call of
`kcStartCameraLoop`, and how it gives it back: the states of a
`libcamera::Camera`, exported frame buffers, mapped memory and requests. The
answers of the pipeline and of the kernel come from outside, and the camera may
be unplugged between any two calls.

`options.denoise` is always "auto", so `configureDenoise` does not throw. The
controls, the pointers to single streams and everything that is printed are left
out.
-/

namespace KCamera.App

open Machine

/-- The states of a `libcamera::Camera`. -/
inductive CameraStage where
  | available
  | acquired
  | configured
  | stopping
  | running
deriving DecidableEq, Repr

/-- The order that `isAccessAllowed` compares by. -/
def CameraStage.rank : CameraStage → Nat
  | available => 0
  | acquired => 1
  | configured => 2
  | stopping => 3
  | running => 4

/-- What libcamera, its pipeline and the kernel answer. -/
structure Answers where
  /-- What `camera_manager_->start()` returns, negated. -/
  managerCode : Nat
  /-- The cameras by their ids. -/
  cameras : List String
  /-- `get` finds the camera. -/
  found : Bool
  /-- `PipelineHandler::lock` -/
  locks : Bool
  /-- The streams of `generateConfiguration`; there is at least one. -/
  configuration : Option (Stream × List Stream)
  /-- `validate` does not return `Invalid`. -/
  valid : Bool
  /-- `PipelineHandler::configure` succeeds. -/
  configures : Bool
  /-- The numbers of planes of the buffers that a stream exports. -/
  exports : Stream → Option (List Nat)
  /-- `mmap` succeeds at an address. -/
  maps : Nat → Bool
  /-- `PipelineHandler::start` succeeds. -/
  starts : Bool
  /-- How often the loop of `event_loop` calls the camera, and what it throws. -/
  loop : Nat × Option String
  /-- The camera is unplugged after so many calls. -/
  unplugged : Option Nat

/-- Uses of a resource out of order. -/
inductive Misuse where
  /-- A call through a null `camera_`. -/
  | nullCamera
  /-- The camera is not in a state that admits the call: `-EACCES`. -/
  | access
  /-- Requests are deleted while the camera may complete them. -/
  | runningRequests
  /-- `munmap` of memory that is not mapped, or with planes that do not match. -/
  | unmapped
  /-- Frame buffers are freed while requests refer to them. -/
  | requestedBuffers
  /-- The camera is given up while its buffers are allocated. -/
  | allocatedBuffers
deriving DecidableEq, Repr

structure Resources where
  /-- The camera's state. -/
  stage : CameraStage
  /-- The calls that the camera has had. -/
  calls : Nat
  /-- The addresses that are mapped. -/
  mappings : List Nat
  nextAddress : Nat
  nextBuffer : FrameBuffer
  misuses : List Misuse
  /-- `camera_manager_` -/
  manager : Bool
  /-- `camera_` -/
  camera : Bool
  /-- `camera_acquired_` -/
  acquired : Bool
  /-- `configuration_` -/
  configuration : List Stream
  /-- `allocator_`: the buffers of each stream, with their planes. -/
  allocator : Option (List (Stream × List (FrameBuffer × Nat)))
  /-- `mapped_buffers_`; a plane that `mmap` failed for has `MAP_FAILED`. -/
  mapped : List (FrameBuffer × List (Option Nat))
  /-- `frame_buffers_` -/
  frameBuffers : List (Stream × List FrameBuffer)
  /-- `requests_` -/
  requests : List Request
  /-- `camera_started_` -/
  started : Bool
  /-- `requestComplete` is connected. -/
  connected : Bool
deriving DecidableEq

/-- A new `LibcameraRaw`. -/
def Resources.fresh : Resources where
  stage := .available
  calls := 0
  mappings := []
  nextAddress := 0
  nextBuffer := 0
  misuses := []
  manager := false
  camera := false
  acquired := false
  configuration := []
  allocator := none
  mapped := []
  frameBuffers := []
  requests := []
  started := false
  connected := false

def Resources.misuse (resources : Resources) (misuse : Misuse) : Resources :=
  { resources with misuses := resources.misuses ++ [misuse] }

/-- `disconnected_` -/
def Resources.gone (answers : Answers) (resources : Resources) : Bool :=
  answers.unplugged.any (· ≤ resources.calls)

abbrev AppAct := Act String Resources

section

variable (answers : Answers)

/-! ## libcamera -/

/-- `isAccessAllowed` between two states, in a call through `camera_`. -/
def isAccessAllowed (low high : CameraStage) (allowDisconnected : Bool) : AppAct Bool :=
  fun resources =>
    let called := { resources with calls := resources.calls + 1 }
    if ¬resources.camera then .ok false (called.misuse .nullCamera)
    else if resources.gone answers ∧ ¬allowDisconnected then .ok false called -- -ENODEV
    else if low.rank ≤ resources.stage.rank ∧ resources.stage.rank ≤ high.rank then .ok true called
    else .ok false (called.misuse .access)

/-- A call that moves the camera to another state unless the pipeline refuses. -/
def cameraCall (low high : CameraStage) (accepts : Bool) (stage : CameraStage) : AppAct Bool := do
  let allowed ← isAccessAllowed answers low high false
  if allowed && accepts then
    change fun resources => { resources with stage }
    pure true
  else pure false

/-- `Camera::acquire` -/
def acquire : AppAct Bool := cameraCall answers .available .available answers.locks .acquired

/-- `Camera::release` -/
def release : AppAct Unit := do
  let allowed ← isAccessAllowed answers .available .configured true
  if allowed then change fun resources => { resources with stage := .available } else pure ()

/-- `Camera::generateConfiguration` -/
def generateConfiguration : AppAct (Option (Stream × List Stream)) := do
  let allowed ← isAccessAllowed answers .available .running false
  pure (if allowed then answers.configuration else none)

/-- `Camera::configure` -/
def configure : AppAct Bool :=
  cameraCall answers .acquired .configured answers.configures .configured

/-- `FrameBufferAllocator::allocate`: what it exports for a stream that has no
buffers yet. -/
def allocate (stream : Stream) (allocated : List (Stream × List (FrameBuffer × Nat))) :
    AppAct (Option (List Nat)) := do
  if stream ∈ allocated.map Prod.fst then pure none -- -EBUSY
  else
    let allowed ← isAccessAllowed answers .configured .configured false
    pure (if allowed then answers.exports stream else none)

/-- `Camera::start` -/
def cameraStart : AppAct Bool :=
  cameraCall answers .configured .configured answers.starts .running

/-- `Camera::stop` -/
def cameraStop : AppAct Bool := cameraCall answers .running .running true .configured

/-! ## libcamera_app.hpp -/

def OpenCamera : AppAct Unit := do
  change fun resources => { resources with manager := true }
  require (answers.managerCode = 0)
    ("camera manager failed to start, code " ++ toString answers.managerCode)
  require (!answers.cameras.isEmpty) "no cameras available"
  change fun resources => { resources with camera := answers.found }
  require answers.found ("failed to find camera " ++ answers.cameras.headD "")
  let ok ← acquire answers
  require ok ("failed to acquire camera " ++ answers.cameras.headD "")
  change fun resources => { resources with acquired := true }

/-- Map the planes of a buffer. -/
def Resources.mapPlanes (resources : Resources) (buffer : FrameBuffer) (planes : Nat) :
    Resources :=
  let addresses := (List.range' resources.nextAddress planes).map fun address =>
    if answers.maps address then some address else none
  { resources with
    mappings := resources.mappings ++ addresses.reduceOption
    nextAddress := resources.nextAddress + planes
    mapped :=
      if planes = 0 then resources.mapped else resources.mapped ++ [(buffer, addresses)] }

/-- Map the exported buffers of a stream. -/
def Resources.mapBuffers (resources : Resources) :
    List (FrameBuffer × Nat) → Resources
  | [] => resources
  | (buffer, planes) :: rest =>
      (resources.mapPlanes answers buffer planes).mapBuffers rest

/-- The new buffers of a stream, in `allocator_`, `mapped_buffers_` and
`frame_buffers_`. -/
def Resources.export (resources : Resources) (stream : Stream) (planes : List Nat) : Resources :=
  let buffers := (List.range' resources.nextBuffer planes.length).zip planes
  let resources := { resources with
    nextBuffer := resources.nextBuffer + planes.length
    allocator := resources.allocator.map (· ++ [(stream, buffers)])
    frameBuffers := resources.frameBuffers ++ [(stream, buffers.map Prod.fst)] }
  resources.mapBuffers answers buffers

/-- A turn of the loop of `setupCapture`. -/
def setupStream (stream : Stream) : AppAct Unit := do
  let resources ← get
  match ← allocate answers stream (resources.allocator.getD []) with
  | none => throw "failed to allocate capture buffers"
  | some planes => change fun resources => resources.export answers stream planes

def setupCapture : AppAct Unit := do
  require answers.valid "failed to valid stream configurations"
  let configured ← configure answers
  require configured "failed to configure streams"
  change fun resources => { resources with allocator := some [] }
  let resources ← get
  forEach (setupStream answers) resources.configuration

def ConfigureVideo : AppAct Unit := do
  match ← generateConfiguration answers with
  | none => throw "failed to generate video configuration"
  | some (first, others) =>
      change fun resources => { resources with configuration := first :: others }
      setupCapture answers

/-- A turn of the loop of `makeRequests`. -/
def createRequests (first : Stream) : Nat → List FrameBuffer → List (Stream × List FrameBuffer) →
    AppAct Unit
  | _, [], _ => pure ()
  | id, buffer :: buffers, others => do
      let created ← isAccessAllowed answers .configured .running false
      require created "failed to make request"
      match (createRequest id).addBuffer first buffer with
      | none => throw "failed to add buffer to request"
      | some request =>
          change fun resources => { resources with requests := resources.requests ++ [request] }
          match fillRequest request others with
          | none => throw "concurrent streams need matching numbers of buffers"
          | some (filled, left) =>
              change fun resources =>
                { resources with requests := resources.requests.dropLast ++ [filled] }
              createRequests first (id + 1) buffers left

/-- The loop of `makeRequests` over the streams of `frame_buffers_`. -/
def createAll : List (Stream × List FrameBuffer) → AppAct Unit
  | [] => pure ()
  | (first, buffers) :: others => createRequests answers first 0 buffers others

/-- `camera_->queueRequest` in `StartCamera`. -/
def queueFirst (request : Request) : AppAct Unit := do
  let allowed ← isAccessAllowed answers .running .running false
  let resources ← get
  require (allowed && !request.buffers.isEmpty &&
    request.buffers.all fun entry => entry.1 ∈ resources.configuration) "Failed to queue request"

def StartCamera : AppAct Unit := do
  let resources ← get
  createAll answers resources.frameBuffers
  let ok ← cameraStart answers
  require ok "failed to start camera"
  change fun resources => { resources with started := true }
  change fun resources => { resources with connected := true }
  let resources ← get
  forEach (queueFirst answers) resources.requests

/-- The rest of `StopCamera` when the camera does not run. -/
def Resources.clearRequests (resources : Resources) : Resources :=
  let resources := { resources with connected := resources.connected && !resources.camera }
  let resources :=
    if resources.stage = .running ∨ resources.connected then resources.misuse .runningRequests
    else resources
  { resources with requests := [] }

/-- The first test of `StopCamera`. -/
def stopStarted : AppAct Unit := do
  let resources ← get
  if resources.started then
    let ok ← cameraStop answers
    require ok "failed to stop camera"
    change fun resources => { resources with started := false }
  else pure ()

def StopCamera : AppAct Unit := do
  stopStarted answers
  change Resources.clearRequests

/-- `munmap`; it refuses `MAP_FAILED`. -/
def Resources.unmap (resources : Resources) : Option Nat → Resources
  | none => resources
  | some address =>
      if address ∈ resources.mappings then
        { resources with mappings := resources.mappings.erase address }
      else resources.misuse .unmapped

/-- The buffers that exist, with their planes. -/
def Resources.live (resources : Resources) : List (FrameBuffer × Nat) :=
  (resources.allocator.getD []).flatMap Prod.snd

/-- Unmap the planes of a buffer. -/
def Resources.unmapBuffer (resources : Resources) (entry : FrameBuffer × List (Option Nat)) :
    Resources :=
  if (entry.1, entry.2.length) ∈ resources.live then entry.2.foldl unmap resources
  else resources.misuse .unmapped

def Resources.teardown (resources : Resources) : Resources :=
  let resources := resources.mapped.foldl unmapBuffer resources
  let resources :=
    if resources.requests ≠ [] then resources.misuse .requestedBuffers else resources
  { resources with mapped := [], allocator := none, configuration := [], frameBuffers := [] }

def Teardown : AppAct Unit := change Resources.teardown

/-- The first test of `CloseCamera`. -/
def releaseAcquired : AppAct Unit := do
  let resources ← get
  if resources.acquired then release answers else pure ()

/-- The rest of `CloseCamera`. -/
def Resources.giveUp (resources : Resources) : Resources :=
  let resources :=
    if resources.allocator.isSome then resources.misuse .allocatedBuffers else resources
  { resources with acquired := false, camera := false, manager := false }

def CloseCamera : AppAct Unit := do
  releaseAcquired answers
  change Resources.giveUp

/-- `~LibcameraApp` -/
def destroyApp : AppAct Unit := do
  StopCamera answers
  Teardown
  CloseCamera answers

/-! ## run.cpp -/

/-- The loop of `event_loop`. -/
def loopTurns : AppAct Unit := do
  change fun resources => { resources with calls := resources.calls + answers.loop.1 }
  match answers.loop.2 with
  | some error => throw error
  | none => pure ()

def event_loop : AppAct Unit := do
  OpenCamera answers
  ConfigureVideo answers
  StartCamera answers
  loopTurns answers
  StopCamera answers

/-- How `kcStartCameraLoop` ends. -/
inductive LoopEnd where
  /-- It returns 0. -/
  | returned
  /-- It prints the error and returns -1. -/
  | caught (error : String)
  /-- An exception leaves the destructor: `std::terminate`. -/
  | terminated
deriving DecidableEq, Repr

/-- How `event_loop` ends, and what it leaves to the destructor. -/
def leaveLoop : Option String × Resources :=
  match event_loop answers .fresh with
  | .ok _ left => (none, left)
  | .error error left => (some error, left)

/-- `kcStartCameraLoop`. The destructor runs on both ways out of `event_loop`. -/
def kcStartCameraLoop : LoopEnd × Resources :=
  match destroyApp answers (leaveLoop answers).2 with
  | .ok _ after => ((leaveLoop answers).1.elim .returned .caught, after)
  | .error _ after => (.terminated, after)

end

end KCamera.App
