import KCamera.Encoder.Buffers

/-!
# Packets and their frames

`encode()` numbers its frame with `m_count`, waits for a packet without the GIL,
and takes the packet for its own if it carries that number still. The number
only grows with success, so the calls must come one at a time.
-/

namespace KCamera.Kencoder

open Machine

/-! ## The device -/

/-- The frames submitted, by call and time stamp, and how many packets the
device has given for them. -/
structure Record where
  submitted : List (Nat × UInt64)
  answered : Nat

def Record.start : Record := ⟨[], 0⟩

def Record.observe (record : Record) (process : Process) : Event → Record
  | .go call true =>
      match process.calls[call]? with
      | some (.encodeBuffer _ timestamp) =>
          { record with submitted := record.submitted ++ [(call, timestamp)] }
      | _ => record
  | .pollOutput (some _) => { record with answered := record.answered + 1 }
  | _ => record

/-- A process with its record. -/
abbrev Watched := Process × Record

/-- The device gives one packet for each frame, in order and with the frame's
time stamp. -/
def Faithful (watched : Watched) : Event → Prop
  | .pollOutput (some item) =>
      watched.2.submitted[watched.2.answered]? = some (item.packet, item.timestamp)
  | event => Encoding event

/-- The call has its own packet, or it failed for its argument or at a device
operation of its own. -/
def Result.Right (call : Nat) : Result → Prop
  | .bytes packet => packet = call
  | .noBuffer | .indexTooLarge | .nullPacket | .staleFrame => False
  | _ => True

/-- Calls return their own packets, frames have time stamps of their own, and a
call that waits has a packet, or the device has a buffer for one. -/
structure Answered (watched : Watched) : Prop where
  own : ∀ (call : Nat) (result : Result),
    watched.1.calls[call]? = some (.returned result) → result.Right call
  served : .encodeOut ∈ watched.1.calls →
    ∃ encoder, watched.1.encoder = some encoder ∧ (encoder.output ≠ [] ∨ encoder.captures ≠ [])
  distinct : (watched.2.submitted.map Prod.snd).Nodup

/-- The call has returned. -/
def Phase.Over (phase : Phase) : Prop := ∃ result, phase = .returned result

/-- The encoder has a buffer for a frame, and the device one for its packet. -/
def H264Encoder.Stocked (encoder : H264Encoder) : Prop :=
  encoder.available ≠ [] ∧ encoder.captures ≠ []

/-- The calls come one at a time and find buffers that no failure has taken, the
counter does not wrap, and packets have bytes. -/
def OneByOne (watched : Watched) : Event → Prop
  | .encode true => (∀ phase ∈ watched.1.calls, phase.Over) ∧
      (∀ encoder, watched.1.encoder = some encoder → encoder.Stocked) ∧
      watched.1.count.toNat + 1 < 2 ^ 64
  | .pollOutput (some item) => Faithful watched (.pollOutput (some item)) ∧ item.bytesUsed ≠ 0
  | event => Encoding event

/-! ## One call at a time -/

/-- Every packet has been taken, and every frame was counted. -/
structure Quiet (count : UInt64) (record : Record) (output : List OutputItem) : Prop where
  below : ∀ entry ∈ record.submitted, entry.2.toNat < count.toNat
  answered : record.answered = record.submitted.length
  empty : output = []

/-- The last frame is the call's. -/
structure Submitted (count : UInt64) (record : Record) (call : Nat) : Prop where
  last : ∃ before, record.submitted = before ++ [(call, count)] ∧
    ∀ entry ∈ before, entry.2.toNat < count.toNat
  small : count.toNat + 1 < 2 ^ 64

/-- The packet of the call's frame. -/
structure OutputItem.Own (item : OutputItem) (count : UInt64) (call : Nat) : Prop where
  packet : item.packet = call
  timestamp : item.timestamp = count
  bytes : item.bytesUsed ≠ 0

/-- What a phase says when the calls come one at a time. -/
def Phase.Fits (count : UInt64) (gil : Option Nat) (record : Record) (encoder : H264Encoder)
    (call : Nat) : Phase → Prop
  | .encodeIn => Quiet count record encoder.output ∧ gil = some call ∧
      count.toNat + 1 < 2 ^ 64 ∧ encoder.Stocked
  | .encodeBuffer index timestamp => Quiet count record encoder.output ∧ gil = some call ∧
      count.toNat + 1 < 2 ^ 64 ∧ timestamp = count ∧ index < frameInTableSize ∧
      encoder.captures ≠ []
  | .encodeOut => Submitted count record call ∧ gil = none ∧
      ((record.answered + 1 = record.submitted.length ∧ encoder.output = [] ∧
          encoder.captures ≠ []) ∨
        (record.answered = record.submitted.length ∧
          ∃ item : OutputItem, encoder.output = [item] ∧ item.Own count call))
  | .output item => Submitted count record call ∧ gil = none ∧
      record.answered = record.submitted.length ∧ encoder.output = [] ∧ item.Own count call
  | .encodeOutDone item => Quiet count record encoder.output ∧ gil = some call ∧
      item.packet = call
  | .returned result => result.Right call
  | _ => False

/-- What holds when the calls come one at a time. -/
structure Sequential (watched : Watched) (encoder : H264Encoder) : Prop where
  present : watched.1.encoder = some encoder
  running : encoder.abort = false
  fits : ∀ (call : Nat) (phase : Phase), watched.1.calls[call]? = some phase →
    phase.Fits watched.1.count watched.1.gil watched.2 encoder call
  single : ∀ (one two : Nat) (first second : Phase), watched.1.calls[one]? = some first →
    watched.1.calls[two]? = some second → ¬first.Over → ¬second.Over → one = two
  idle : (∀ phase ∈ watched.1.calls, phase.Over) →
    Quiet watched.1.count watched.2 encoder.output ∧ watched.1.gil = none
  distinct : (watched.2.submitted.map Prod.snd).Nodup
  small : ∀ index ∈ encoder.available ++ encoder.inputs, index < frameInTableSize

/-- Calls that come one at a time get their own packets. -/
theorem Sequential.answered {watched : Watched} {encoder : H264Encoder}
    (sequential : Sequential watched encoder) : Answered watched where
  own call _ found := sequential.fits call _ found
  served waits := by
    obtain ⟨call, found⟩ := List.getElem?_of_mem waits
    obtain ⟨-, -, ⟨-, -, left⟩ | ⟨-, item, given, -⟩⟩ := sequential.fits call _ found
    · exact ⟨encoder, sequential.present, .inr left⟩
    · refine ⟨encoder, sequential.present, .inl ?_⟩
      rw [given]
      exact List.cons_ne_nil _ _
  distinct := sequential.distinct

/-- A new encoder owes no packet. -/
theorem Sequential.initial (driver : Driver) (settings : Settings) (device : DeviceSettings) :
    Sequential (.initial driver settings device, .start) (.constructed driver device) where
  present := rfl
  running := rfl
  fits := by simp [Process.initial]
  single := by simp [Process.initial]
  idle _ := ⟨⟨by simp [Record.start], rfl, rfl⟩, rfl⟩
  distinct := by simp [Record.start]
  small := by
    simp only [H264Encoder.constructed, List.append_nil, List.mem_range]
    intro index bound
    exact Nat.lt_of_lt_of_le bound (driver.inputs_le.trans (by decide))

section

variable {driver : Driver} {process next : Process} {record record' : Record}
  {encoder encoder' : H264Encoder}

/-- Of the calls, only this one has not returned. -/
theorem Sequential.others_over (sequential : Sequential (process, record) encoder) {call : Nat}
    {old : Phase} (found : process.calls[call]? = some old) (active : ¬old.Over) {other : Nat}
    {phase : Phase} (different : other ≠ call) (inside : process.calls[other]? = some phase) :
    phase.Over := by
  by_contra going
  exact different (sequential.single other call phase old inside found going active)

/-- A step of the one call that has not returned. -/
theorem Sequential.move {call : Nat} {old new : Phase}
    (sequential : Sequential (process, record) encoder)
    (found : process.calls[call]? = some old) (active : ¬old.Over)
    (present : next.encoder = some encoder') (calls : next.calls = process.calls.set call new)
    (running : encoder'.abort = false)
    (fits : new.Fits next.count next.gil record' encoder' call)
    (idle : new.Over → Quiet next.count record' encoder'.output ∧ next.gil = none)
    (distinct : (record'.submitted.map Prod.snd).Nodup)
    (small : ∀ index ∈ encoder'.available ++ encoder'.inputs, index < frameInTableSize) :
    Sequential (next, record') encoder' := by
  have bound : call < process.calls.length := by
    obtain ⟨bound, -⟩ := List.getElem?_eq_some_iff.mp found
    exact bound
  have after : ∀ other phase, next.calls[other]? = some phase →
      (other = call ∧ phase = new) ∨ (other ≠ call ∧ process.calls[other]? = some phase) := by
    intro other phase inside
    rw [calls] at inside
    exact getElem?_of_set inside
  constructor
  case present => exact present
  case running => exact running
  case fits =>
    intro other phase inside
    rcases after other phase inside with ⟨rfl, rfl⟩ | ⟨different, before⟩
    · exact fits
    · obtain ⟨result, rfl⟩ := sequential.others_over found active different before
      exact sequential.fits other _ before
  case single =>
    intro one two first second inside inside' going going'
    rcases after one first inside with ⟨rfl, -⟩ | ⟨different, before⟩
    · rcases after two second inside' with ⟨rfl, -⟩ | ⟨different, before⟩
      · rfl
      · exact absurd (sequential.others_over found active different before) going'
    · exact absurd (sequential.others_over found active different before) going
  case idle =>
    intro ended
    refine idle (ended new ?_)
    rw [calls]
    exact List.mem_set bound new
  case distinct => exact distinct
  case small => exact small

/-- The next step of the one call that has not returned. -/
theorem Sequential.go {call : Nat} {succeeds : Bool}
    (sequential : Sequential (process, record) encoder)
    (taken : process.go driver call succeeds = some next) :
    ∃ encoder', Sequential (next, record.observe process (.go call succeeds)) encoder' := by
  have present : process.encoder = some encoder := sequential.present
  have running := sequential.running
  have small := sequential.small
  have distinct := sequential.distinct
  unfold Process.go at taken
  cases found : process.calls[call]? with
  | none => simp [found] at taken
  | some phase =>
      have fits := sequential.fits call phase found
      cases phase with
      | encodeIn =>
          obtain ⟨quiet, gil, countable, filled, room⟩ := fits
          have active : ¬Phase.encodeIn.Over := by simp [Phase.Over]
          have same : record.observe process (.go call succeeds) = record := by
            cases succeeds <;> simp [Record.observe, found]
          simp only [found, present] at taken
          rw [same]
          split at taken
          · rename_i none
            exact absurd none filled
          · rename_i index rest first
            cases taken
            rw [first] at small
            exact ⟨_, sequential.move found active rfl rfl running
              ⟨quiet, gil, countable, rfl, small index (by simp), room⟩ (by simp [Phase.Over])
              distinct fun other member => small other (List.mem_cons_of_mem _ member)⟩
      | encodeBuffer index timestamp =>
          obtain ⟨quiet, gil, countable, rfl, bound, room⟩ := fits
          have active : ¬(Phase.encodeBuffer index process.count).Over := by simp [Phase.Over]
          simp only [found, present] at taken
          cases succeeds with
          | false =>
              cases taken
              exact ⟨encoder, sequential.move found active present rfl running trivial
                (fun _ => ⟨quiet, rfl⟩) distinct small⟩
          | true =>
              simp only [if_true, if_neg (Nat.not_le.mpr bound)] at taken
              cases taken
              have same : record.observe process (.go call true) =
                  { record with submitted := record.submitted ++ [(call, process.count)] } := by
                simp [Record.observe, found]
              rw [same]
              refine ⟨_, sequential.move found active rfl rfl running
                ⟨⟨⟨record.submitted, rfl, quiet.below⟩, countable⟩, rfl,
                  .inl ⟨?_, quiet.empty, room⟩⟩
                (by simp [Phase.Over]) ?_ ?_⟩
              · have answered : record.answered = record.submitted.length := quiet.answered
                simp [answered]
              · rw [List.map_append, List.nodup_append]
                refine ⟨distinct, by simp, ?_⟩
                intro old member new single equal
                obtain ⟨entry, inside, rfl⟩ := List.mem_map.mp member
                have fresh := quiet.below entry inside
                rw [List.mem_singleton.mp single] at equal
                rw [equal] at fresh
                exact absurd fresh (Nat.lt_irrefl _)
              · intro other member
                simp only [List.mem_append, List.mem_singleton] at member
                rcases member with inside | inside | rfl
                · exact small other (by simp [inside])
                · exact small other (by simp [inside])
                · exact bound
      | encodeOut =>
          obtain ⟨submitted, gil, waiting⟩ := fits
          have active : ¬Phase.encodeOut.Over := by simp [Phase.Over]
          have same : record.observe process (.go call succeeds) = record := by
            cases succeeds <;> simp [Record.observe, found]
          simp only [found, present] at taken
          rw [same]
          split at taken
          · rename_i item rest first
            cases taken
            rw [first] at waiting
            rcases waiting with ⟨-, none, -⟩ | ⟨answered, own, single, fits⟩
            · cases none
            · cases single
              exact ⟨_, sequential.move found active rfl rfl running
                ⟨submitted, gil, answered, rfl, fits⟩ (by simp [Phase.Over]) distinct small⟩
          · simp [running] at taken
      | output item =>
          obtain ⟨⟨⟨before, submitted, below⟩, countable⟩, gil, answered, empty, own⟩ := fits
          have active : ¬(Phase.output item).Over := by simp [Phase.Over]
          have same : record.observe process (.go call succeeds) = record := by
            cases succeeds <;> simp [Record.observe, found]
          have fresh : ¬item.timestamp ≠ process.count := fun stale => stale own.timestamp
          simp only at gil submitted countable
          simp only [found, gil, Option.isSome_none, Bool.false_eq_true, if_false,
            if_neg own.bytes, if_neg fresh] at taken
          cases taken
          rw [same]
          have grown : (process.count + 1).toNat = process.count.toNat + 1 := by
            rw [UInt64.toNat_add]
            simp
            omega
          refine ⟨encoder, sequential.move found active present rfl running
            ⟨⟨?_, answered, empty⟩, rfl, own.packet⟩ (by simp [Phase.Over]) distinct small⟩
          intro entry member
          rw [submitted, List.mem_append, List.mem_singleton] at member
          change entry.2.toNat < (process.count + 1).toNat
          rw [grown]
          rcases member with old | rfl
          · exact Nat.lt_succ_of_lt (below entry old)
          · exact Nat.lt_succ_self _
      | encodeOutDone item =>
          obtain ⟨quiet, gil, packet⟩ := fits
          have active : ¬(Phase.encodeOutDone item).Over := by simp [Phase.Over]
          have same : record.observe process (.go call succeeds) = record := by
            cases succeeds <;> simp [Record.observe, found]
          simp only [found, present] at taken
          rw [same]
          split at taken
          · cases taken
            exact ⟨_, sequential.move found active rfl rfl running packet
              (fun _ => ⟨quiet, rfl⟩) distinct small⟩
          · cases taken
            exact ⟨encoder, sequential.move found active present rfl running trivial
              (fun _ => ⟨quiet, rfl⟩) distinct small⟩
      | setBitrate => exact fits.elim
      | restart => exact fits.elim
      | destroy => exact fits.elim
      | construct => exact fits.elim
      | returned result => simp [found] at taken
      | dangling => exact fits.elim

/-- A call with a bad argument is over at once. -/
theorem Sequential.reply (sequential : Sequential (process, record) encoder) :
    Sequential (process.reply .notAnArray, record) encoder := by
  have after : ∀ (other : Nat) (phase : Phase),
      (process.reply .notAnArray).calls[other]? = some phase →
        process.calls[other]? = some phase ∨ phase = .returned .notAnArray := by
    intro other phase inside
    rcases getElem?_of_concat inside with ⟨-, same⟩ | ⟨-, before⟩
    · exact .inr same
    · exact .inl before
  constructor
  case present => exact sequential.present
  case running => exact sequential.running
  case fits =>
    intro other phase inside
    rcases after other phase inside with before | rfl
    · exact sequential.fits other phase before
    · trivial
  case single =>
    intro one two first second inside inside' going going'
    rcases after one first inside with before | rfl
    · rcases after two second inside' with before' | rfl
      · exact sequential.single one two first second before before' going going'
      · exact absurd ⟨_, rfl⟩ going'
    · exact absurd ⟨_, rfl⟩ going
  case idle =>
    exact fun ended => sequential.idle fun phase member => ended phase (List.mem_append_left _ member)
  case distinct => exact sequential.distinct
  case small => exact sequential.small

/-- A call that begins when all others are over. -/
theorem Sequential.enter (sequential : Sequential (process, record) encoder)
    (ended : ∀ phase ∈ process.calls, phase.Over)
    (stocked : encoder.Stocked)
    (countable : process.count.toNat + 1 < 2 ^ 64) :
    Sequential (process.enter .encodeIn, record) encoder := by
  obtain ⟨quiet, -⟩ := sequential.idle ended
  have after : ∀ (other : Nat) (phase : Phase),
      (process.enter .encodeIn).calls[other]? = some phase →
        (phase.Over ∧ process.calls[other]? = some phase) ∨
          (other = process.calls.length ∧ phase = .encodeIn) := by
    intro other phase inside
    rcases getElem?_of_concat inside with beginning | ⟨-, before⟩
    · exact .inr beginning
    · exact .inl ⟨ended phase (List.mem_of_getElem? before), before⟩
  constructor
  case present => exact sequential.present
  case running => exact sequential.running
  case fits =>
    intro other phase inside
    rcases after other phase inside with ⟨⟨result, rfl⟩, before⟩ | ⟨rfl, rfl⟩
    · exact sequential.fits other _ before
    · exact ⟨quiet, rfl, countable, stocked⟩
  case single =>
    intro one two first second inside inside' going going'
    rcases after one first inside with ⟨done, -⟩ | ⟨rfl, -⟩
    · exact absurd done going
    · rcases after two second inside' with ⟨done, -⟩ | ⟨rfl, -⟩
      · exact absurd done going'
      · rfl
  case idle =>
    intro done
    obtain ⟨result, wrong⟩ := done .encodeIn (by simp [Process.enter])
    cases wrong
  case distinct => exact sequential.distinct
  case small => exact sequential.small

/-- A turn of the poll thread that gives no packet. -/
theorem Sequential.poll (sequential : Sequential (process, record) encoder)
    (running : encoder'.abort = false) (output : encoder'.output = encoder.output)
    (captures : encoder'.captures = encoder.captures)
    (available : encoder.available ≠ [] → encoder'.available ≠ [])
    (small : ∀ index ∈ encoder'.available ++ encoder'.inputs,
      index ∈ encoder.available ++ encoder.inputs) :
    Sequential ({ process with encoder := some encoder' }, record) encoder' where
  present := rfl
  running := running
  fits call phase inside := by
    have before := sequential.fits call phase inside
    cases phase with
    | encodeIn =>
        obtain ⟨quiet, gil, countable, filled, room⟩ := before
        rw [← output] at quiet
        rw [← captures] at room
        exact ⟨quiet, gil, countable, available filled, room⟩
    | encodeBuffer _ _ | encodeOut | output _ | encodeOutDone _ =>
        simp only [Phase.Fits, output, captures]
        exact before
    | setBitrate | restart | destroy | construct | returned _ | dangling => exact before
  single := sequential.single
  idle ended := by
    rw [output]
    exact sequential.idle ended
  distinct := sequential.distinct
  small index member := sequential.small index (small index member)

/-- The device's packet is the one that the only call is waiting for. -/
theorem Sequential.packet {item : OutputItem}
    (sequential : Sequential (process, record) encoder)
    (running : encoder'.abort = false) (output : encoder'.output = encoder.output ++ [item])
    (inputs : encoder'.inputs = encoder.inputs) (available : encoder'.available = encoder.available)
    (faithful : record.submitted[record.answered]? = some (item.packet, item.timestamp))
    (bytes : item.bytesUsed ≠ 0) :
    Sequential ({ process with encoder := some encoder' },
      { record with answered := record.answered + 1 }) encoder' := by
  have owed : record.answered < record.submitted.length := by
    obtain ⟨bound, -⟩ := List.getElem?_eq_some_iff.mp faithful
    exact bound
  have fits : ∀ call phase, process.calls[call]? = some phase → phase.Over ∨
      (phase = .encodeOut ∧ Submitted process.count record call ∧ process.gil = none ∧
        record.answered + 1 = record.submitted.length ∧ encoder.output = []) := by
    intro call phase inside
    have before := sequential.fits call phase inside
    cases phase with
    | encodeIn | encodeBuffer _ _ | encodeOutDone _ =>
        have answered : record.answered = record.submitted.length := before.1.answered
        omega
    | encodeOut =>
        obtain ⟨submitted, gil, ⟨answered, empty, -⟩ | ⟨answered, -⟩⟩ := before
        · exact .inr ⟨rfl, submitted, gil, answered, empty⟩
        · simp only at answered
          omega
    | output other =>
        have answered : record.answered = record.submitted.length := before.2.2.1
        omega
    | returned result => exact .inl ⟨result, rfl⟩
    | setBitrate | restart | destroy | construct | dangling => exact before.elim
  constructor
  case present => rfl
  case running => exact running
  case fits =>
    intro call phase inside
    rcases fits call phase inside with ⟨result, rfl⟩ | ⟨rfl, submitted, gil, answered, empty⟩
    · exact sequential.fits call _ inside
    · obtain ⟨⟨before, shape, below⟩, countable⟩ := submitted
      have last : (item.packet, item.timestamp) = (call, process.count) := by
        have position : record.answered = before.length := by
          rw [shape] at answered
          simpa using answered
        rw [shape, position, List.getElem?_concat_length] at faithful
        exact (Option.some.inj faithful).symm
      obtain ⟨packet, timestamp⟩ := Prod.mk.inj last
      refine ⟨⟨⟨before, shape, below⟩, countable⟩, gil, .inr ⟨answered, item, ?_, ?_⟩⟩
      · rw [output, empty, List.nil_append]
      · exact ⟨packet, timestamp, bytes⟩
  case single => exact sequential.single
  case idle =>
    intro ended
    have answered : record.answered = record.submitted.length := (sequential.idle ended).1.answered
    omega
  case distinct => exact sequential.distinct
  case small =>
    rw [inputs, available]
    exact sequential.small

/-- Each step keeps the packets and the calls in one order. -/
theorem Sequential.step (sequential : Sequential (process, record) encoder) {event : Event}
    (oneByOne : OneByOne (process, record) event)
    (taken : process.step driver event = some next) :
    ∃ encoder', Sequential (next, record.observe process event) encoder' := by
  have present : process.encoder = some encoder := sequential.present
  cases event with
  | encode array =>
      simp only [Process.step] at taken
      split at taken
      · cases taken
      · cases array with
        | true =>
            cases taken
            obtain ⟨ended, stocked, countable⟩ := oneByOne
            exact ⟨encoder, sequential.enter ended (stocked encoder present) countable⟩
        | false =>
            cases taken
            exact ⟨encoder, sequential.reply⟩
  | assign name value => exact oneByOne.elim
  | go call succeeds => exact sequential.go taken
  | pollInput index =>
      simp only [Process.step, present, Option.bind_some, Option.map_eq_some_iff] at taken
      obtain ⟨encoder', polled, rfl⟩ := taken
      cases index with
      | none =>
          simp only [H264Encoder.pollInput] at polled
          split at polled
          · cases polled
          · cases polled
            exact ⟨_, sequential.poll sequential.running rfl rfl id fun _ inside => inside⟩
      | some index =>
          simp only [H264Encoder.pollInput] at polled
          split at polled
          · cases polled
          · rename_i ready
            cases polled
            have member : index ∈ encoder.inputs := by tauto
            refine ⟨_, sequential.poll sequential.running rfl rfl (by simp) ?_⟩
            intro other inside
            simp only [List.mem_append, List.mem_singleton] at inside ⊢
            rcases inside with (old | rfl) | old
            · exact .inl old
            · exact .inr member
            · exact .inr (List.mem_of_mem_erase old)
  | pollOutput item =>
      simp only [Process.step, present, Option.bind_some, Option.map_eq_some_iff] at taken
      obtain ⟨encoder', polled, rfl⟩ := taken
      cases item with
      | none =>
          simp only [H264Encoder.pollOutput] at polled
          split at polled
          · cases polled
            exact ⟨_, sequential.poll sequential.running rfl rfl id fun _ inside => inside⟩
          · cases polled
      | some item =>
          obtain ⟨faithful, bytes⟩ := oneByOne
          simp only [H264Encoder.pollOutput] at polled
          split at polled
          · cases polled
            exact ⟨_, sequential.packet sequential.running rfl rfl rfl faithful bytes⟩
          · cases polled

end

/-- In every run whose calls come one at a time, each returns its own packet and
the time stamps are distinct. -/
theorem answered_of_oneByOne (driver : Driver) (settings : Settings) (device : DeviceSettings)
    (watched : Watched)
    (reached : Reach (monitored (Process.step driver) Record.observe) OneByOne
      (· = (.initial driver settings device, .start)) watched) :
    Answered watched := by
  have sequential : ∃ encoder, Sequential watched encoder := by
    refine reached.invariant (fun watched => ∃ encoder, Sequential watched encoder) ?_ ?_
    · rintro _ rfl
      exact ⟨_, .initial driver settings device⟩
    · rintro ⟨process, record⟩ event ⟨next, record'⟩ _ ⟨encoder, sequential⟩ oneByOne taken
      obtain ⟨taken, rfl⟩ := monitored_eq_some.mp taken
      exact sequential.step oneByOne taken
  obtain ⟨encoder, sequential⟩ := sequential
  exact sequential.answered

/-- Two calls, each to its bytes. -/
def encodeInTurn : List Event :=
  encodeOnce ++ [.encode true, .go 1 true, .go 1 true, .pollInput (some 1),
    .pollOutput (some ⟨1, 7, 1, 1⟩), .go 1 true, .go 1 true, .go 1 true]

/-- The call has returned. -/
def Phase.isOver : Phase → Bool
  | .returned _ => true
  | _ => false

/-- A call that the computable test finds over is over. -/
theorem Phase.over_of_isOver {phase : Phase} (ended : phase.isOver) : phase.Over := by
  cases phase with
  | returned result => exact ⟨result, rfl⟩
  | _ => cases ended

/-- The test of `OneByOne`. -/
def inTurn (watched : Watched) : Event → Bool
  | .encode array => !array || (watched.1.calls.all Phase.isOver &&
      (watched.1.encoder.all fun encoder => encoder.available ≠ [] ∧ encoder.captures ≠ []) &&
      watched.1.count.toNat + 1 < 2 ^ 64)
  | .pollOutput (some item) =>
      watched.2.submitted[watched.2.answered]? = some (item.packet, item.timestamp) ∧
        item.bytesUsed ≠ 0
  | .assign _ _ => false
  | _ => true

/-- What the computable test of the run admits comes one at a time. -/
theorem oneByOne_of_inTurn (watched : Watched) (event : Event) (passes : inTurn watched event) :
    OneByOne watched event := by
  cases event with
  | encode array =>
      cases array with
      | false => trivial
      | true =>
          simp only [inTurn, Bool.not_true, Bool.false_or, Bool.and_eq_true, List.all_eq_true,
            decide_eq_true_eq] at passes
          obtain ⟨⟨ended, stocked⟩, small⟩ := passes
          refine ⟨fun phase member => Phase.over_of_isOver (ended phase member), ?_, small⟩
          intro encoder present
          simpa [present, H264Encoder.Stocked] using stocked
  | pollOutput item =>
      cases item with
      | none => trivial
      | some item => simpa [inTurn, OneByOne, Faithful] using passes
  | assign name value => cases passes
  | _ => trivial

/-- Two calls, each run to its own bytes. -/
theorem answered_of_oneByOne_submitted : ∃ watched : Watched, Answered watched ∧
    watched.1.calls = [.returned (.bytes 0), .returned (.bytes 1)] ∧
    watched.2.submitted = [(0, 0), (1, 1)] := by
  have start : Reach (monitored (Process.step someDriver) Record.observe) OneByOne
      (· = (newProcess, .start)) (newProcess, .start) := .start rfl
  have passed : (passingRun (monitored (Process.step someDriver) Record.observe) inTurn
      (newProcess, .start) encodeInTurn).any fun watched =>
        watched.1.calls = [.returned (.bytes 0), .returned (.bytes 1)] ∧
          watched.2.submitted = [(0, 0), (1, 1)] := by
    decide
  obtain ⟨watched, reached, there⟩ := exists_passingRun start oneByOne_of_inTurn passed
  obtain ⟨calls, submitted⟩ := of_decide_eq_true there
  exact ⟨watched, answered_of_oneByOne someDriver _ _ watched reached, calls, submitted⟩

/-- Two calls that overlap. -/
def encodeTwice : List Event :=
  [.encode true, .go 0 true, .go 0 true, .encode true, .go 1 true, .go 1 true]

/-- Two frames with one time stamp. -/
theorem timestamp_used_twice :
    ¬∀ watched, Reach (monitored (Process.step someDriver) Record.observe) Faithful
      (· = (newProcess, .start)) watched → Answered watched := by
  intro claim
  obtain ⟨watched, executed⟩ : ∃ watched,
      run (monitored (Process.step someDriver) Record.observe) (newProcess, .start) encodeTwice =
        some watched := ⟨_, rfl⟩
  have each : ∀ event ∈ encodeTwice, ∀ watched : Watched, Faithful watched event := by
    simp [encodeTwice, Faithful, Encoding]
  have answered := claim watched (reach_run_of_allowed each (.start rfl) executed)
  have twice : (run (monitored (Process.step someDriver) Record.observe) (newProcess, .start)
      encodeTwice).map (fun watched => watched.2.submitted) = some [(0, 0), (1, 0)] := by
    decide
  rw [executed, Option.map_some, Option.some.injEq] at twice
  have distinct := answered.distinct
  rw [twice] at distinct
  exact absurd distinct (by decide)

end KCamera.Kencoder
