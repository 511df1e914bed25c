import KCamera.Encoder.Calls
import Mathlib.Tactic.Tauto

/-!
# The buffers of an encoder

Two pools of indices circulate: input buffers between the encoder, the device
and `EncodeBuffer`, capture buffers between the device, `output_queue_` and the
`encode()` calls. A call that fails with an index in its hands takes it along.
-/

namespace KCamera.Kencoder

open Machine

/-- The input buffer that a call holds. -/
def Phase.inputs : Phase → List Nat
  | .encodeBuffer index _ => [index]
  | _ => []

/-- The capture buffer that a call holds. -/
def Phase.captures : Phase → List Nat
  | .output item | .encodeOutDone item => [item.index]
  | _ => []

/-- Every index of either kind is in exactly one place. -/
structure Conserved (driver : Driver) (process : Process) (encoder : H264Encoder) : Prop where
  present : process.encoder = some encoder
  inputs : Distributed (List.range driver.inputs)
    [encoder.available, encoder.inputs, process.calls.flatMap Phase.inputs]
  captures : Distributed (List.range driver.captures)
    [encoder.captures, encoder.output.map OutputItem.index, process.calls.flatMap Phase.captures]

/-- A call that ends has passed its index on: its buffer could be queued, and
its packet is neither empty nor stale. -/
def PassesOn (process : Process) : Event → Prop
  | .go call succeeds =>
      match process.calls[call]? with
      | some (.encodeBuffer _ _) | some (.encodeOutDone _) => succeeds = true
      | some (.output item) => item.bytesUsed ≠ 0 ∧ item.timestamp = process.count
      | _ => True
  | event => Encoding event

/-- The counts behind `Conserved`. -/
structure Counted (driver : Driver) (process : Process) (encoder : H264Encoder) : Prop where
  present : process.encoder = some encoder
  running : encoder.abort = false
  inputs : ∀ index, encoder.available.count index + encoder.inputs.count index +
    (process.calls.flatMap Phase.inputs).count index = (List.range driver.inputs).count index
  captures : ∀ index, encoder.captures.count index +
    (encoder.output.map OutputItem.index).count index +
    (process.calls.flatMap Phase.captures).count index =
      (List.range driver.captures).count index
  /-- Nothing but `encode()` is called. -/
  encoding : ∀ phase ∈ process.calls, phase ≠ .setBitrate ∧ phase ≠ .restart ∧
    phase ≠ .destroy ∧ phase ≠ .construct

/-- Equal counts mean that every buffer is in one place. -/
theorem Counted.conserved {driver : Driver} {process : Process} {encoder : H264Encoder}
    (counted : Counted driver process encoder) : Conserved driver process encoder where
  present := counted.present
  inputs := by
    refine distributed_of_perm List.nodup_range (List.perm_iff_count.mpr fun index => ?_)
    have total := counted.inputs index
    simp only [List.flatten_cons, List.flatten_nil, List.count_append, List.count_nil]
    omega
  captures := by
    refine distributed_of_perm List.nodup_range (List.perm_iff_count.mpr fun index => ?_)
    have total := counted.captures index
    simp only [List.flatten_cons, List.flatten_nil, List.count_append, List.count_nil]
    omega

/-- A new encoder has its input buffers free and its capture buffers queued. -/
theorem Counted.initial (driver : Driver) (settings : Settings) (device : DeviceSettings) :
    Counted driver (.initial driver settings device) (.constructed driver device) where
  present := rfl
  running := rfl
  inputs index := by simp [Process.initial, H264Encoder.constructed]
  captures index := by simp [Process.initial, H264Encoder.constructed]
  encoding := by simp [Process.initial]

section

variable {driver : Driver} {process next : Process} {encoder : H264Encoder}

/-- A call's index count changes with its phase. -/
theorem count_set {call : Nat} {old : Phase} (held : Phase → List Nat) (new : Phase)
    (found : process.calls[call]? = some old) (index : Nat) :
    (held old).count index + ((process.calls.set call new).flatMap held).count index =
      (held new).count index + (process.calls.flatMap held).count index := by
  have moved := (flatMap_set_perm held new found).count_eq index
  simpa only [List.count_append] using moved

/-- A new call holds no index. -/
theorem Counted.call (counted : Counted driver process encoder) (phase : Phase)
    (bare : phase.inputs = [] ∧ phase.captures = [])
    (encoding : phase ≠ .setBitrate ∧ phase ≠ .restart ∧ phase ≠ .destroy ∧ phase ≠ .construct)
    (same : next.encoder = process.encoder) (calls : next.calls = process.calls ++ [phase]) :
    Counted driver next encoder where
  present := same.trans counted.present
  running := counted.running
  inputs index := by simpa [calls, bare] using counted.inputs index
  captures index := by simpa [calls, bare] using counted.captures index
  encoding other member := by
    rw [calls] at member
    rcases List.mem_append.mp member with old | new
    · exact counted.encoding other old
    · rw [List.mem_singleton.mp new]
      exact encoding

/-- A step of a call moves at most one index. -/
theorem Counted.move {encoder' : H264Encoder} {call : Nat} {old new : Phase}
    (counted : Counted driver process encoder) (found : process.calls[call]? = some old)
    (present : next.encoder = some encoder') (calls : next.calls = process.calls.set call new)
    (running : encoder'.abort = false)
    (encoding : new ≠ .setBitrate ∧ new ≠ .restart ∧ new ≠ .destroy ∧ new ≠ .construct)
    (inputs : ∀ index, encoder'.available.count index + encoder'.inputs.count index +
      new.inputs.count index =
        encoder.available.count index + encoder.inputs.count index + old.inputs.count index)
    (captures : ∀ index, encoder'.captures.count index +
      (encoder'.output.map OutputItem.index).count index + new.captures.count index =
        encoder.captures.count index + (encoder.output.map OutputItem.index).count index +
          old.captures.count index) :
    Counted driver next encoder' where
  present := present
  running := running
  inputs index := by
    have total := counted.inputs index
    have held := count_set Phase.inputs new found index
    have moved := inputs index
    rw [calls]
    omega
  captures index := by
    have total := counted.captures index
    have held := count_set Phase.captures new found index
    have moved := captures index
    rw [calls]
    omega
  encoding other member := by
    rw [calls] at member
    rcases List.mem_or_eq_of_mem_set member with old | rfl
    · exact counted.encoding other old
    · exact encoding

/-- A step of a call that passes its index on keeps both pools. -/
theorem Counted.go (counted : Counted driver process encoder) {call : Nat} {succeeds : Bool}
    (passes : PassesOn process (.go call succeeds))
    (taken : process.go driver call succeeds = some next) :
    ∃ encoder', Counted driver next encoder' := by
  have present := counted.present
  have running := counted.running
  unfold Process.go at taken
  unfold PassesOn at passes
  cases found : process.calls[call]? with
  | none => simp [found] at taken
  | some phase =>
      have encoding := counted.encoding phase (List.mem_of_getElem? found)
      cases phase with
      | encodeIn =>
          simp only [found, present] at taken
          split at taken
          · cases taken
            exact ⟨encoder, counted.move found present rfl running (by simp) (by simp [Phase.inputs])
              (by simp [Phase.captures])⟩
          · rename_i index rest first
            cases taken
            refine ⟨_, counted.move found rfl rfl running (by simp) (fun item => ?_)
              (by simp [Phase.captures])⟩
            simp only [first, Phase.inputs, List.count_cons, List.count_nil]
            omega
      | encodeBuffer index timestamp =>
          simp only [found, present] at taken passes
          cases passes
          simp only [if_true] at taken
          split at taken
          all_goals
            cases taken
            refine ⟨_, counted.move found rfl rfl running (by simp) (fun item => ?_)
              (by simp [Phase.captures])⟩
            simp only [Phase.inputs, List.count_append, List.count_nil]
            omega
      | encodeOut =>
          simp only [found, present] at taken
          split at taken
          · rename_i item rest first
            cases taken
            refine ⟨_, counted.move found rfl rfl running (by simp) (by simp [Phase.inputs])
              (fun index => ?_)⟩
            simp only [first, Phase.captures, List.map_cons, List.count_cons, List.count_nil]
            omega
          · simp [running] at taken
      | output item =>
          simp only [found, present] at taken passes
          split at taken
          · cases taken
          · rw [if_neg passes.1, if_neg (fun stale => stale passes.2)] at taken
            cases taken
            exact ⟨encoder, counted.move found present rfl running (by simp) (by simp [Phase.inputs])
              (by simp [Phase.captures])⟩
      | encodeOutDone item =>
          simp only [found, present] at taken passes
          cases passes
          simp only [if_true] at taken
          cases taken
          refine ⟨_, counted.move found rfl rfl running (by simp) (by simp [Phase.inputs])
            (fun index => ?_)⟩
          simp only [Phase.captures, List.count_append, List.count_nil]
          omega
      | setBitrate => exact absurd rfl encoding.1
      | restart => exact absurd rfl encoding.2.1
      | destroy => exact absurd rfl encoding.2.2.1
      | construct => exact absurd rfl encoding.2.2.2
      | returned result => simp [found] at taken
      | dangling => simp [found] at taken

/-- The poll thread keeps both pools. -/
theorem Counted.poll {encoder' : H264Encoder} (counted : Counted driver process encoder)
    (running : encoder'.abort = false)
    (inputs : ∀ index, encoder'.available.count index + encoder'.inputs.count index =
      encoder.available.count index + encoder.inputs.count index)
    (captures : ∀ index, encoder'.captures.count index +
      (encoder'.output.map OutputItem.index).count index =
        encoder.captures.count index + (encoder.output.map OutputItem.index).count index) :
    Counted driver { process with encoder := some encoder' } encoder' where
  present := rfl
  running := running
  inputs index := by rw [inputs]; exact counted.inputs index
  captures index := by rw [captures]; exact counted.captures index
  encoding := counted.encoding

/-- An item that moves elsewhere is counted as before. -/
theorem count_erase_add {items : List Nat} {item : Nat} (member : item ∈ items) (index : Nat) :
    (items.erase item).count index + [item].count index = items.count index := by
  have moved := (List.perm_cons_erase member).count_eq index
  rw [List.count_cons] at moved
  simp only [List.count_cons, List.count_nil]
  omega

/-- Each step that passes on a packet keeps the counts. -/
theorem Counted.step (counted : Counted driver process encoder) {event : Event}
    (passes : PassesOn process event) (taken : process.step driver event = some next) :
    ∃ encoder', Counted driver next encoder' := by
  cases event with
  | encode array =>
      simp only [Process.step] at taken
      split at taken
      · cases taken
      · split at taken
        · cases taken
          exact ⟨encoder, counted.call .encodeIn ⟨rfl, rfl⟩ (by simp) rfl rfl⟩
        · cases taken
          exact ⟨encoder, counted.call (.returned .notAnArray) ⟨rfl, rfl⟩ (by simp) rfl rfl⟩
  | assign name value => exact absurd passes (by simp [PassesOn, Encoding])
  | go call succeeds => exact counted.go passes taken
  | pollInput index =>
      simp only [Process.step, counted.present, Option.bind_some, Option.map_eq_some_iff] at taken
      obtain ⟨encoder', polled, rfl⟩ := taken
      cases index with
      | none =>
          simp only [H264Encoder.pollInput] at polled
          split at polled
          · cases polled
          · cases polled
            exact ⟨_, counted.poll counted.running (fun _ => rfl) fun _ => rfl⟩
      | some index =>
          simp only [H264Encoder.pollInput] at polled
          split at polled
          · cases polled
          · rename_i ready
            cases polled
            refine ⟨_, counted.poll counted.running (fun item => ?_) fun _ => rfl⟩
            have moved := count_erase_add (by tauto : index ∈ encoder.inputs) item
            simp only [List.count_append]
            omega
  | pollOutput item =>
      simp only [Process.step, counted.present, Option.bind_some, Option.map_eq_some_iff] at taken
      obtain ⟨encoder', polled, rfl⟩ := taken
      cases item with
      | none =>
          simp only [H264Encoder.pollOutput] at polled
          split at polled
          · cases polled
            exact ⟨_, counted.poll counted.running (fun _ => rfl) fun _ => rfl⟩
          · cases polled
      | some item =>
          simp only [H264Encoder.pollOutput] at polled
          split at polled
          · rename_i ready
            cases polled
            refine ⟨_, counted.poll counted.running (fun _ => rfl) fun index => ?_⟩
            have moved := count_erase_add ready.2 index
            simp only [List.map_append, List.count_append, List.map_singleton]
            omega
          · cases polled

end

/-- In every run whose calls pass their indices on, every index is in one place. -/
theorem conserved_of_passesOn (driver : Driver) (settings : Settings) (device : DeviceSettings)
    (process : Process)
    (reached : Reach (Process.step driver) PassesOn (· = .initial driver settings device) process) :
    ∃ encoder, Conserved driver process encoder := by
  have counted : ∃ encoder, Counted driver process encoder := by
    refine reached.invariant (fun process => ∃ encoder, Counted driver process encoder) ?_ ?_
    · rintro _ rfl
      exact ⟨_, .initial driver settings device⟩
    · rintro current event next _ ⟨encoder, counted⟩ passes taken
      exact counted.step passes taken
  obtain ⟨encoder, counted⟩ := counted
  exact ⟨encoder, counted.conserved⟩

/-- A packet without bytes. -/
def encodeNull : List Event :=
  [.encode true, .go 0 true, .go 0 true, .pollInput (some 0), .pollOutput (some ⟨0, 0, 0, 0⟩),
    .go 0 true, .go 0 true]

/-- A driver that grants what it is asked for. -/
def someDriver : Driver := ⟨10000000, 6, 12, by decide, by decide⟩

/-- The process of a new `Encoder`. -/
def newProcess : Process :=
  .initial someDriver Settings.fresh.keInit (openDevice 10000000 Settings.fresh.keInit.options)

/-- A call from `keEncodeIn` to its bytes. -/
def encodeOnce : List Event :=
  [.encode true, .go 0 true, .go 0 true, .pollInput (some 0), .pollOutput (some ⟨0, 5, 0, 0⟩),
    .go 0 true, .go 0 true, .go 0 true]

/-- The test of `PassesOn`. -/
def keepsIndex (process : Process) : Event → Bool
  | .go call succeeds =>
      match process.calls[call]? with
      | some (.encodeBuffer _ _) | some (.encodeOutDone _) => succeeds
      | some (.output item) => item.bytesUsed ≠ 0 ∧ item.timestamp = process.count
      | _ => true
  | .assign _ _ => false
  | _ => true

/-- What the computable test of the run admits passes on its packets. -/
theorem passesOn_of_keepsIndex (process : Process) (event : Event)
    (passes : keepsIndex process event) : PassesOn process event := by
  cases event with
  | go call succeeds =>
      simp only [keepsIndex, PassesOn] at passes ⊢
      split <;> simp_all
  | assign name value => cases passes
  | _ => trivial

/-- A call runs to its bytes, and its buffer is queued again. -/
theorem conserved_of_passesOn_taken :
    ∃ process encoder, process.calls = [.returned (.bytes 0)] ∧
      encoder.captures = [1, 2, 3, 4, 5, 6, 7, 8, 9, 10, 11, 0] ∧
      Conserved someDriver process encoder := by
  have start : Reach (Process.step someDriver) PassesOn (· = newProcess) newProcess := .start rfl
  have passed : (passingRun (Process.step someDriver) keepsIndex newProcess encodeOnce).any
      fun process => process.calls = [.returned (.bytes 0)] ∧
        process.encoder.map H264Encoder.captures =
          some [1, 2, 3, 4, 5, 6, 7, 8, 9, 10, 11, 0] := by
    decide
  obtain ⟨process, reached, there⟩ := exists_passingRun start passesOn_of_keepsIndex passed
  obtain ⟨calls, captures⟩ := of_decide_eq_true there
  obtain ⟨encoder, conserved⟩ := conserved_of_passesOn someDriver _ _ process reached
  rw [conserved.present, Option.map_some, Option.some.injEq] at captures
  exact ⟨process, encoder, calls, captures, conserved⟩

/-- A null packet takes its capture buffer along. -/
theorem capture_lost_with_null_packet :
    ¬∀ process, Reach (Process.step someDriver) (fun _ => Encoding) (· = newProcess) process →
      ∃ encoder, Conserved someDriver process encoder := by
  intro claim
  obtain ⟨process, executed⟩ : ∃ process,
      run (Process.step someDriver) newProcess encodeNull = some process := ⟨_, rfl⟩
  have each : ∀ event ∈ encodeNull, ∀ process : Process, Encoding event := by
    simp [encodeNull, Encoding]
  obtain ⟨encoder, conserved⟩ := claim process (reach_run_of_allowed each (.start rfl) executed)
  have left : (run (Process.step someDriver) newProcess encodeNull).map (fun process =>
      (process.encoder.map fun encoder => (encoder.captures, encoder.output),
        process.calls.flatMap Phase.captures)) =
      some (some ([1, 2, 3, 4, 5, 6, 7, 8, 9, 10, 11], []), []) := by
    decide
  simp only [executed, Option.map_some, conserved.present, Option.some.injEq, Prod.mk.injEq] at left
  obtain ⟨⟨captures, output⟩, held⟩ := left
  have zero : 0 ∈ List.range someDriver.captures := by decide
  have inside := conserved.captures.held zero
  rw [captures, output, held] at inside
  exact absurd inside (by decide)

end KCamera.Kencoder
