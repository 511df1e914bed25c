import KCamera.Engine.Params

/-!
# Requests

`libcamera_app.hpp` makes as many `Request` objects as the first stream has
frame buffers. A request is emptied by `reuse` when it completes, while the
buffers it carried travel on in a `CompletedRequest`.
-/

namespace KCamera

/-- A control that the setters of `run.cpp` write. -/
inductive ControlId where
  | exposureValue
  | brightness
  | contrast
  | colourGains
  | frameDurations
  | exposureTime
deriving DecidableEq, Repr

inductive ControlValue where
  | number (value : ℚ)
  | pair (first second : ℚ)
deriving DecidableEq

/-- The value of a control in a `ControlList`. -/
def Controls.get (controls : Controls) : ControlId → Option ControlValue
  | .exposureValue => controls.exposureValue.map .number
  | .brightness => controls.brightness.map .number
  | .contrast => controls.contrast.map .number
  | .colourGains => controls.colourGains.map fun gains => .pair gains.1 gains.2
  | .frameDurations => controls.frameDurations.map fun durations => .pair durations.1 durations.2
  | .exposureTime => controls.exposureTime.map fun time => .number time

/-- What a setter writes to a control. -/
def Setter.written (setter : Setter) (params : KcParams) (id : ControlId) : Option ControlValue :=
  (setter.apply params default).2.get id

/-- No control is set in an empty list. -/
@[simp] theorem Controls.get_default (id : ControlId) : (default : Controls).get id = none := by
  cases id <;> rfl

/-- A setter replaces the controls it writes and keeps the others. -/
theorem Setter.get_apply (setter : Setter) (params : KcParams) (controls : Controls)
    (id : ControlId) :
    (setter.apply params controls).2.get id =
      (setter.written params id).or (controls.get id) := by
  unfold Setter.written
  cases setter with
  | brightness =>
      simp only [apply, kcSetBrightness]
      split <;> cases id <;> rfl
  | awbGains => cases id <;> rfl
  | awb =>
      simp only [apply, kcSetAWB, kcSetAWBGains]
      split <;> cases id <;> rfl
  | framerate =>
      simp only [apply, kcSetFramerate]
      split <;> cases id <;> rfl
  | shutterSpeed => cases id <;> rfl
  | autoShutter =>
      simp only [apply, kcSetAutoShutter, kcSetShutterSpeed]
      split <;> cases id <;> rfl

namespace App

/-- A `libcamera::Stream *`. -/
abbrev Stream := Nat

/-- A `libcamera::FrameBuffer *`. -/
abbrev FrameBuffer := Nat

/-- `Request::BufferMap`. -/
abbrev BufferMap := List (Stream × FrameBuffer)

/-- A `libcamera::Request`; `id` stands for the object's address. -/
structure Request where
  id : Nat
  buffers : BufferMap
  controls : Controls
deriving DecidableEq, Inhabited

/-- `camera_->createRequest`: no buffers and no controls. -/
def createRequest (id : Nat) : Request where
  id
  buffers := []
  controls := default

/-- `Request::reuse` without flags. -/
def Request.reuse (request : Request) : Request :=
  { request with buffers := [], controls := default }

/-- `Request::addBuffer`; `none` when the stream has a buffer already. -/
def Request.addBuffer (request : Request) (stream : Stream) (buffer : FrameBuffer) :
    Option Request :=
  if stream ∈ request.buffers.map Prod.fst then none
  else some { request with buffers := request.buffers ++ [(stream, buffer)] }

/-- The loop of `QueueRequest` over the buffers of a completed request. -/
def Request.addBuffers (request : Request) : BufferMap → Option Request
  | [] => some request
  | (stream, buffer) :: rest => do (← request.addBuffer stream buffer).addBuffers rest

/-- One turn of `makeRequests` after the first stream: every other stream gives
a buffer too. -/
def fillRequest (request : Request) : List (Stream × List FrameBuffer) →
    Option (Request × List (Stream × List FrameBuffer))
  | [] => some (request, [])
  | (_, []) :: _ => none -- concurrent streams need matching numbers of buffers
  | (stream, buffer :: buffers) :: rest => do
      let (request, left) ← fillRequest (← request.addBuffer stream buffer) rest
      return (request, (stream, buffers) :: left)

/-- `makeRequests`: a request for each buffer of the first stream. `none` where
it throws. -/
def makeRequests (first : Stream) (id : Nat) : List FrameBuffer →
    List (Stream × List FrameBuffer) → Option (List Request)
  | [], _ => some []
  | buffer :: buffers, others => do
      let request ← (createRequest id).addBuffer first buffer
      let (request, left) ← fillRequest request others
      return request :: (← makeRequests first (id + 1) buffers left)

/-! ## Buffers of a request -/

/-- The frame buffers of a buffer map. -/
abbrev framesIn (map : BufferMap) : List FrameBuffer := map.map Prod.snd

/-- The frame buffers attached to requests. -/
def attached (requests : List Request) : List FrameBuffer :=
  requests.flatMap fun request => framesIn request.buffers

/-- No stream has two buffers. -/
def Request.Proper (request : Request) : Prop := (request.buffers.map Prod.fst).Nodup

/-- A buffer that is accepted comes last, and nothing else changes. -/
theorem Request.addBuffer_spec {request filled : Request} {stream : Stream} {buffer : FrameBuffer}
    (proper : request.Proper) (added : request.addBuffer stream buffer = some filled) :
    filled.Proper ∧ filled.id = request.id ∧ filled.controls = request.controls ∧
      filled.buffers = request.buffers ++ [(stream, buffer)] := by
  simp only [addBuffer] at added
  split at added
  · cases added
  · rename_i free
    cases added
    refine ⟨?_, rfl, rfl, rfl⟩
    rw [Proper, List.map_append, List.nodup_append]
    refine ⟨proper, by simp, ?_⟩
    intro old present new single same
    rw [List.mem_map] at single
    obtain ⟨entry, member, rfl⟩ := single
    rw [same, List.mem_singleton.mp member] at present
    exact free present

/-- Buffers for streams that have none are all added. -/
theorem Request.addBuffers_eq (request : Request) (map : BufferMap)
    (distinct : ((request.buffers ++ map).map Prod.fst).Nodup) :
    request.addBuffers map = some { request with buffers := request.buffers ++ map } := by
  induction map generalizing request with
  | nil => simp [addBuffers]
  | cons entry rest ih =>
      obtain ⟨stream, buffer⟩ := entry
      have free : stream ∉ request.buffers.map Prod.fst := by
        rw [List.map_append, List.map_cons, List.nodup_append] at distinct
        intro present
        exact distinct.2.2 stream present stream (by simp) rfl
      have added : request.addBuffer stream buffer =
          some { request with buffers := request.buffers ++ [(stream, buffer)] } := if_neg free
      rw [addBuffers, added]
      have appended : request.buffers ++ (stream, buffer) :: rest =
          request.buffers ++ [(stream, buffer)] ++ rest := by simp
      rw [appended] at distinct ⊢
      exact ih _ distinct

/-- What is left of the other streams, and what a request takes, are together
what there was. -/
theorem fillRequest_spec {request filled : Request}
    {others left : List (Stream × List FrameBuffer)} (proper : request.Proper)
    (made : fillRequest request others = some (filled, left)) :
    filled.Proper ∧ filled.id = request.id ∧ filled.controls = request.controls ∧
      request.buffers <+: filled.buffers ∧
      (framesIn filled.buffers ++ left.flatMap Prod.snd).Perm
        (framesIn request.buffers ++ others.flatMap Prod.snd) ∧
      left.map (fun entry => entry.2.length + 1) = others.map fun entry => entry.2.length := by
  induction others generalizing request filled left with
  | nil =>
      cases made
      exact ⟨proper, rfl, rfl, List.prefix_refl _, .refl _, rfl⟩
  | cons entry rest ih =>
      obtain ⟨stream, buffers⟩ := entry
      cases buffers with
      | nil => cases made
      | cons buffer buffers =>
          obtain ⟨added, attach, rest'⟩ := Option.bind_eq_some_iff.mp made
          obtain ⟨⟨last, remaining⟩, fill, shape⟩ := Option.bind_eq_some_iff.mp rest'
          cases shape
          obtain ⟨proper', same, keeps, frames⟩ := Request.addBuffer_spec proper attach
          obtain ⟨proper'', same', keeps', initial, perm, lengths⟩ := ih proper' fill
          rw [frames] at perm initial
          refine ⟨proper'', same'.trans same, keeps'.trans keeps, (List.prefix_append _ _).trans initial, ?_,
            by simp [lengths]⟩
          simp only [List.flatMap_cons, framesIn, List.map_append, List.map_cons,
            List.map_nil] at perm ⊢
          rw [List.perm_iff_count] at perm ⊢
          intro item
          have counted := perm item
          simp only [List.count_append, List.count_cons, List.count_nil] at counted ⊢
          omega

/-- The requests that `makeRequests` makes are distinct, have no controls and a
buffer of the first stream, and no buffer of a stream is attached twice. -/
theorem makeRequests_spec {first : Stream} {id : Nat} {buffers : List FrameBuffer}
    {others : List (Stream × List FrameBuffer)} {made : List Request}
    (result : makeRequests first id buffers others = some made) :
    made.map Request.id = List.range' id buffers.length ∧
      (∀ request ∈ made, request.Proper ∧ first ∈ request.buffers.map Prod.fst ∧
        request.controls = default) ∧
      ∃ left, (attached made ++ left).Perm (buffers ++ others.flatMap Prod.snd) ∧
        ((∀ entry ∈ others, entry.2.length = buffers.length) → left = []) := by
  induction buffers generalizing id others made with
  | nil =>
      cases result
      refine ⟨rfl, by simp, others.flatMap Prod.snd, by simp [attached], fun matching => ?_⟩
      rw [List.flatMap_eq_nil_iff]
      intro entry member
      exact List.length_eq_zero_iff.mp (matching entry member)
  | cons buffer buffers ih =>
      simp only [makeRequests, Option.bind_eq_bind, Option.bind_eq_some_iff] at result
      obtain ⟨started, attach, ⟨filled, remaining⟩, fill, later, make, shape⟩ := result
      cases shape
      obtain ⟨proper, same, keeps, frames⟩ :=
        Request.addBuffer_spec (by simp [Request.Proper, createRequest]) attach
      obtain ⟨proper', same', keeps', initial, perm, lengths⟩ := fillRequest_spec proper fill
      obtain ⟨ids, allProper, left, perm', matching⟩ := ih make
      refine ⟨?_, ?_, left, ?_, fun equal => matching ?_⟩
      · simp [ids, same', same, createRequest, List.range']
      · rintro request member
        rcases List.mem_cons.mp member with rfl | member
        · refine ⟨proper', (initial.map Prod.fst).subset ?_, keeps'.trans keeps⟩
          simp [frames]
        · exact allProper request member
      · rw [frames] at perm
        rw [List.perm_iff_count] at perm perm' ⊢
        intro item
        have counted := perm item
        have counted' := perm' item
        simp only [attached, framesIn, createRequest, List.flatMap_cons,
          List.map_cons, List.map_nil, List.nil_append, List.count_append, List.count_cons,
          List.count_nil] at counted counted' ⊢
        omega
      · intro entry member
        have known : entry.2.length + 1 ∈ others.map fun entry => entry.2.length := by
          rw [← lengths]
          exact List.mem_map.mpr ⟨entry, member, rfl⟩
        obtain ⟨original, inside, length⟩ := List.mem_map.mp known
        have total := equal original inside
        simp only [List.length_cons] at total
        omega

/-- When the streams have matching numbers of buffers, every buffer is attached. -/
theorem makeRequests_attaches_all {first : Stream} {id : Nat} {buffers : List FrameBuffer}
    {others : List (Stream × List FrameBuffer)} {made : List Request}
    (result : makeRequests first id buffers others = some made)
    (matching : ∀ entry ∈ others, entry.2.length = buffers.length) :
    (attached made).Perm (buffers ++ others.flatMap Prod.snd) := by
  obtain ⟨-, -, left, perm, none⟩ := makeRequests_spec result
  rwa [none matching, List.append_nil] at perm

end App

end KCamera
