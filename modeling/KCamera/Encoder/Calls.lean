import KCamera.Encoder.Params
import KCamera.Machine.Pool
import KCamera.Machine.Run

/-!
# Calls of an encoder

Any number of Python threads call `encode()` and assign to attributes of the one
`Encoder` object. The GIL passes between them only around `keEncodeOut`, while
the poll thread of `H264Encoder` runs all the time. A step is what a thread does
up to its next device operation, or to a point where others can get in.

A C++ exception ends the call that it leaves. A call that is inside an encoder
when it is deleted has no further step, and no step goes through a null
`g_encoder`.
-/

namespace KCamera.Kencoder

open Machine

/-- `NUM_OUTPUT_BUFFERS`, the inputs of the codec. -/
def numOutputBuffers : Nat := 6

/-- `NUM_CAPTURE_BUFFERS` -/
def numCaptureBuffers : Nat := 12

/-- `FRAME_IN_TABLE_SIZE` -/
def frameInTableSize : Nat := 32

/-- `OutputItem`; `packet` stands for the bytes in the buffer's memory. -/
structure OutputItem where
  index : Nat
  bytesUsed : Nat
  timestamp : UInt64
  packet : Nat
deriving DecidableEq

/-- What `GetOutput` leaves in the item when the encoder is aborted. -/
def OutputItem.null : OutputItem := ⟨0, 0, 0, 0⟩

/-- An `H264Encoder` and its device. -/
structure H264Encoder where
  device : DeviceSettings
  /-- `input_buffers_available_` -/
  available : List Nat
  /-- The input buffers queued to the device. -/
  inputs : List Nat
  /-- The capture buffers queued to the device. -/
  captures : List Nat
  /-- `output_queue_` -/
  output : List OutputItem
  /-- The poll thread has tried to dequeue an input buffer in this turn. -/
  polled : Bool
  /-- `abort_` -/
  abort : Bool

/-- What the driver answers: its own bitrate, and how many buffers of either kind
`VIDIOC_REQBUFS` grants. More than are asked for would not fit `input_buffers_` and
`buffers_`. -/
structure Driver where
  standard : UInt32
  inputs : Nat
  captures : Nat
  inputs_le : inputs ≤ numOutputBuffers
  captures_le : captures ≤ numCaptureBuffers

/-- A constructed encoder. -/
def H264Encoder.constructed (driver : Driver) (device : DeviceSettings) : H264Encoder where
  device
  available := List.range driver.inputs
  inputs := []
  captures := List.range driver.captures
  output := []
  polled := false
  abort := false

/-- How a call ends. -/
inductive Result where
  | bytes (packet : Nat)
  | notAnArray
  /-- `EncodeBuffer` has no input buffer. -/
  | noBuffer
  /-- `EncodeBuffer` cannot queue its input buffer. -/
  | queueFailed
  | indexTooLarge
  | nullPacket
  | staleFrame
  /-- `OutputDone` cannot queue the capture buffer. -/
  | requeueFailed
  | assigned
  | bitrateFailed
deriving DecidableEq, Repr

/-- Where a call is. -/
inductive Phase where
  /-- About to call `keEncodeIn`. -/
  | encodeIn
  /-- In `EncodeBuffer`, with an input buffer. -/
  | encodeBuffer (index : Nat) (timestamp : UInt64)
  /-- In `keEncodeOut`, without the GIL. -/
  | encodeOut
  /-- `keEncodeOut` has returned; waiting for the GIL. -/
  | output (item : OutputItem)
  /-- About to call `keEncodeOutDone`. -/
  | encodeOutDone (item : OutputItem)
  /-- In `keUpdateParams`, about to call `SetBitrate`. -/
  | setBitrate
  /-- In `keUpdateParams`, about to call `keExit`. -/
  | restart
  /-- In `~H264Encoder`. -/
  | destroy
  /-- In `keInit`, about to construct an `H264Encoder`. -/
  | construct
  | returned (result : Result)
  /-- Inside an encoder that has been deleted. -/
  | dangling
deriving DecidableEq

structure Process where
  /-- `g_encoder` of `run.cpp` -/
  encoder : Option H264Encoder
  /-- `m_count` -/
  count : UInt64
  settings : Settings
  /-- The call that holds the GIL. -/
  gil : Option Nat
  /-- The calls made so far. -/
  calls : List Phase

/-- The process after `encoder_init`. -/
def Process.initial (driver : Driver) (settings : Settings) (device : DeviceSettings) :
    Process where
  encoder := some (.constructed driver device)
  count := 0
  settings
  gil := none
  calls := []

inductive Event where
  /-- A thread calls `encode()`. -/
  | encode (array : Bool)
  /-- A thread assigns to an attribute. -/
  | assign (name : Attribute) (value : PyValue)
  /-- A call goes on; the device operation or construction in this step
  succeeds, if there is one. -/
  | go (call : Nat) (succeeds : Bool)
  /-- The poll thread dequeues an input buffer, or fails to. -/
  | pollInput (index : Option Nat)
  /-- The poll thread dequeues a capture buffer, or fails to. -/
  | pollOutput (item : Option OutputItem)

/-- A new call gets the GIL. -/
def Process.enter (process : Process) (phase : Phase) : Process :=
  { process with calls := process.calls ++ [phase], gil := some process.calls.length }

/-- A call that is over at once. -/
def Process.reply (process : Process) (result : Result) : Process :=
  { process with calls := process.calls ++ [.returned result] }

def Process.move (process : Process) (call : Nat) (phase : Phase) : Process :=
  { process with calls := process.calls.set call phase }

/-- A call returns and gives the GIL up. -/
def Process.finish (process : Process) (call : Nat) (result : Result) : Process :=
  { process with calls := process.calls.set call (.returned result), gil := none }

/-- A thread inside an encoder that is deleted. -/
def Phase.cut : Phase → Phase
  | .encodeOut => .dangling
  | phase => phase

/-- An assignment, up to the first test of `keUpdateParams` that holds. -/
def Process.assign (process : Process) (name : Attribute) (value : PyValue) : Process :=
  match process.settings.setAttr name value with
  | (settings, .refused) => { process with settings }.reply .assigned
  | (settings, .generic _) =>
      if settings.bitrateChanged then { process with settings }.enter .setBitrate
      else if settings.restart then { process with settings }.enter .restart
      else { process with settings := settings.follow }.reply .assigned

/-- The next step of a call. -/
def Process.go (driver : Driver) (process : Process) (call : Nat) (succeeds : Bool) :
    Option Process :=
  match process.calls[call]?, process.encoder with
  | some .encodeIn, some encoder =>
      match encoder.available with
      | [] => some (process.finish call .noBuffer)
      | index :: rest => some { process.move call (.encodeBuffer index process.count) with
          encoder := some { encoder with available := rest } }
  | some (.encodeBuffer index _), some encoder =>
      if succeeds then
        let process := { process with
          encoder := some { encoder with inputs := encoder.inputs ++ [index] } }
        if frameInTableSize ≤ index then some (process.finish call .indexTooLarge)
        else some { process.move call .encodeOut with gil := none }
      else some (process.finish call .queueFailed)
  | some .encodeOut, some encoder =>
      match encoder.output with
      | item :: rest => some { process.move call (.output item) with
          encoder := some { encoder with output := rest } }
      | [] => if encoder.abort then some (process.move call (.output .null)) else none
  | some (.output item), _ =>
      if process.gil.isSome then none
      else if item.bytesUsed = 0 then some (process.finish call .nullPacket)
      else if item.timestamp ≠ process.count then some (process.finish call .staleFrame)
      else some { process.move call (.encodeOutDone item) with
        count := process.count + 1, gil := some call }
  | some (.encodeOutDone item), some encoder =>
      if succeeds then
        some { process.finish call (.bytes item.packet) with
          encoder := some { encoder with captures := encoder.captures ++ [item.index] } }
      else some (process.finish call .requeueFailed)
  | some .setBitrate, some encoder =>
      if succeeds then
        let process := { process with encoder := some { encoder with
          device := { encoder.device with bitrate := process.settings.params.bitrate } } }
        if process.settings.restart then some (process.move call .restart)
        else some ({ process with settings := process.settings.follow }.finish call .assigned)
      else some (process.finish call .bitrateFailed)
  | some .restart, some encoder =>
      some { process.move call .destroy with encoder := some { encoder with abort := true } }
  | some .restart, none => some (process.move call .construct)
  | some .destroy, _ =>
      some { process with
        encoder := none, calls := (process.calls.map Phase.cut).set call .construct }
  | some .construct, _ =>
      let settings := process.settings.keInit
      let encoder :=
        if succeeds then some (.constructed driver (openDevice driver.standard settings.options))
        else none
      some ({ process with settings, encoder }.finish call .assigned)
  | _, _ => none

/-- The poll thread returns an input buffer. -/
def H264Encoder.pollInput (encoder : H264Encoder) : Option Nat → Option H264Encoder
  | none => if encoder.polled then none else some { encoder with polled := true }
  | some index =>
      if encoder.polled ∨ index ∉ encoder.inputs then none
      else some { encoder with
        inputs := encoder.inputs.erase index
        available := encoder.available ++ [index]
        polled := true }

/-- The poll thread passes a capture buffer on. -/
def H264Encoder.pollOutput (encoder : H264Encoder) : Option OutputItem → Option H264Encoder
  | none => if encoder.polled then some { encoder with polled := false } else none
  | some item =>
      if encoder.polled ∧ item.index ∈ encoder.captures then
        some { encoder with
          captures := encoder.captures.erase item.index
          output := encoder.output ++ [item]
          polled := false }
      else none

/-- A step of the process; `none` when the thread cannot take one. -/
def Process.step (driver : Driver) (process : Process) : Event → Option Process
  | .encode array =>
      if process.gil.isSome then none
      else if array then some (process.enter .encodeIn)
      else some (process.reply .notAnArray)
  | .assign name value =>
      if process.gil.isSome then none else some (process.assign name value)
  | .go call succeeds => process.go driver call succeeds
  | .pollInput index =>
      (process.encoder.bind (·.pollInput index)).map fun encoder =>
        { process with encoder := some encoder }
  | .pollOutput item =>
      (process.encoder.bind (·.pollOutput item)).map fun encoder =>
        { process with encoder := some encoder }

/-- The steps of `encode()` and of the poll thread. -/
def Encoding : Event → Prop
  | .assign _ _ => False
  | _ => True

end KCamera.Kencoder
