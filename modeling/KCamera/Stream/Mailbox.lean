import KCamera.Engine.Facts
import KCamera.Engine.Marks
import KCamera.Engine.Watch

/-!
# The live slot

`m_frame` is a mailbox for one frame: `kcFrameData` fills it and clears out what
has expired, and `kcNextStreamFrame` empties it. Without a recording it passes
frames on in order, and what is left in it is never old.
-/

namespace KCamera

open Machine

open Function (update)

/-- What is remembered of a run of the camera. -/
structure Delivery where
  /-- The camera runs, has had no recording, and its captures came in order. -/
  live : Bool := false
  captures : List Capture := []
  /-- The frames that `kcNextStreamFrame` has returned. -/
  taken : List KcFrame := []
  /-- `m_maxLatency`, as `kcFrameData` looked at it last. -/
  latency : UInt32 := 0

/-- A capture that is later than those before it. Timestamps are counted in an
`int64_t` from zero. -/
def Delivery.inOrder (delivery : Delivery) (capture : Capture) : Bool :=
  0 ≤ capture.pts.toInt64 ∧ ∀ earlier ∈ delivery.captures, earlier.pts < capture.pts

/-- A run of the camera starts with `kcStart` and ends with the next stop. -/
def Delivery.observe (delivery : Delivery) (state : System) (thread : Tid) (choice : Choice) :
    Op → Delivery
  | .resetState => { live := state.world.g.record.isNone }
  | .clearRun _ _ | .allocRecord => { delivery with live := false }
  | .beginFrame capture =>
      { delivery with
        live := delivery.live && delivery.inOrder capture
        captures := capture :: delivery.captures
        latency := (state.world.kcParams.map KcParams.maxLatency).getD 0 }
  | .takeFrame =>
      -- the answer is what `kcNextStreamFrame` returns
      let answer := (Op.run thread choice state.world .takeFrame).bind Prod.snd
      { delivery with taken := delivery.taken ++ answer.toList }
  | _ => delivery

/-- The frame was built from a capture, and its timestamp is the capture's
without the offset. -/
def Delivery.Captured (delivery : Delivery) (offset : UInt64) (frame : KcFrame) : Prop :=
  ∃ capture ∈ delivery.captures, frame = capture.frame frame.block frame.pts ∧
    frame.pts = capture.pts - offset

/-- There is a live frame, and it is at most `latency` older than `m_pts`. -/
def World.Fresh (world : World) (latency : UInt32) : Prop :=
  ∃ frame, world.g.frame = some frame ∧ frame.pts ≤ world.g.pts ∧
    world.g.pts.toNat ≤ frame.pts.toNat + latency.toNat

/-- `m_pts` is the time of the newest capture. -/
def Delivery.Newest (delivery : Delivery) (world : World) : Prop :=
  ∃ capture, delivery.captures.head? = some capture ∧
    world.g.pts = capture.pts - world.g.ptsOffset.toUInt64

/-- Live frames are passed on once and in order, and the end of a critical
section of `kcFrameData` leaves a fresh one. `endFrame` is reached by the calls
that neither stop the camera nor run out of memory. -/
structure Delivers (current : System × Delivery) : Prop where
  ordered : current.2.taken.Pairwise fun earlier later => earlier.pts < later.pts
  distinct : current.2.taken.Nodup
  captured : ∀ frame ∈ current.2.taken,
    current.2.Captured current.1.world.g.ptsOffset.toUInt64 frame
  fresh : ∀ thread, (current.1.code thread).current = some .endFrame →
    current.2.Newest current.1.world ∧ current.1.world.Fresh current.2.latency

/-! ## kcFrameData without a recording -/

namespace World

variable {world : World}

/-- Measuring the framerate leaves the latency. -/
theorem measure_latency (sound : world.measure.fault = none) :
    world.measure.kcParams.map KcParams.maxLatency = world.kcParams.map KcParams.maxLatency := by
  unfold measure at sound ⊢
  split
  · cases found : world.kcParams with
    | none => simp_all [fail]
    | some params => simp [setParams_kcParams _ found, measureFps]
  · rfl

/-- A live frame that has not expired stays. -/
theorem expire_cases (detached : world.g.record = none) (sound : world.expire.fault = none) :
    world.expire.g.frame = none ∨ ∃ frame params, world.g.frame = some frame ∧
      world.expire.g.frame = some frame ∧ world.kcParams = some params ∧
        world.g.pts - frame.pts ≤ params.maxLatency.toUInt64 := by
  unfold expire at sound ⊢
  rw [detached] at sound ⊢
  cases slot : world.g.frame with
  | none => exact .inl (by simpa using slot)
  | some frame =>
      cases found : world.kcParams with
      | none => simp [slot, found, fail] at sound
      | some params =>
          dsimp only
          split
          · exact .inl rfl
          · rename_i young
            exact .inr ⟨frame, params, rfl, slot, rfl, UInt64.not_lt.mp young⟩

/-- Expiring the live frame hides no fault. -/
theorem expire_sound (sound : world.expire.fault = none) : world.fault = none := by
  unfold expire at sound
  split at sound
  · split at sound
    · simp [fail] at sound
    · split at sound <;> exact sound
  · exact sound

/-- The offset of a run is set by its first capture. -/
def offsetFor (world : World) (capture : Capture) : Int64 :=
  if world.g.ptsOffset < 0 then capture.pts.toInt64 else world.g.ptsOffset

/-- What `kcFrameData` finds before it builds a frame. -/
theorem readied_cases (capture : Capture) (detached : world.g.record = none)
    (sound : (world.readied capture).fault = none) :
    (world.readied capture).g.ptsOffset = world.offsetFor capture ∧
      (world.readied capture).g.pts = capture.pts - (world.offsetFor capture).toUInt64 ∧
      ((world.readied capture).g.frame = none ∨ ∃ frame, world.g.frame = some frame ∧
        (world.readied capture).g.frame = some frame ∧ (world.readied capture).g.pts - frame.pts ≤
          ((world.kcParams.map KcParams.maxLatency).getD 0).toUInt64) := by
  let shifted := { world with captured := capture.pts }.shiftPts capture.pts
  have clock : Agree shifted.measure (world.readied capture) .clock :=
    expire_agree _ (by simp) (by simp)
  have measured : Agree shifted shifted.measure .clock := measure_agree _ (by simp)
  have slot : shifted.measure.g.frame = world.g.frame :=
    (measure_agree _ (by simp) : Agree shifted shifted.measure .slot)
  have record : shifted.measure.g.record = world.g.record :=
    (measure_agree _ (by simp) : Agree shifted shifted.measure .attached)
  have latency := measure_latency (expire_sound sound)
  have params : shifted.kcParams = world.kcParams := rfl
  obtain ⟨pts, offset, _⟩ := measured.trans clock
  refine ⟨offset, pts, ?_⟩
  rcases expire_cases (record.trans detached) sound with empty | ⟨frame, found, before, after, live, young⟩
  · exact .inl empty
  · refine .inr ⟨frame, slot.symm.trans before, after, ?_⟩
    rw [live, params, Option.map_some] at latency
    rw [← latency, Option.getD_some, clock.1]
    exact young

end World

/-! ## The slot of a run -/

/-- The frames of a run: those taken, and the one in the slot. -/
def Delivery.frames (delivery : Delivery) (world : World) : List KcFrame :=
  delivery.taken ++ world.g.frame.toList

/-- What holds while the camera runs without a recording. -/
structure Mailbox (world : World) (stages : Tid → Stage) (delivery : Delivery) : Prop where
  detached : world.g.record = none
  running : world.g.run = true
  /-- Nobody is stopping the camera. -/
  unstopped : ∀ thread join, (stages thread).switch ≠ .stopping join true
  /-- The clock shows the time of a capture, once there was one. -/
  clock : world.g.ptsOffset < 0 ∧ delivery.frames world = [] ∨
    0 ≤ world.g.ptsOffset ∧ ∃ capture ∈ delivery.captures,
      world.g.ptsOffset.toUInt64 ≤ capture.pts ∧
        world.g.pts = capture.pts - world.g.ptsOffset.toUInt64
  ordered : (delivery.frames world).Pairwise fun earlier later => earlier.pts < later.pts
  past : ∀ frame ∈ delivery.frames world, frame.pts ≤ world.g.pts
  captured : ∀ frame ∈ delivery.frames world,
    delivery.Captured world.g.ptsOffset.toUInt64 frame
  fresh : ∀ thread, (stages thread).finishing →
    delivery.Newest world ∧ world.Fresh delivery.latency

/-- Only video threads are in `kcFrameData`. -/
theorem finishing_video {condition : System → Tid → Choice → Op → Prop} {state : System}
    (reached : Runs condition state) (thread : Tid) (finishing : (state.stage thread).finishing) :
    ¬thread.isPython := by
  refine Runs.each (fun _ thread stage => stage.finishing → ¬thread.isPython) ?_ ?_ ?_ reached
    thread finishing
  · intro thread finishing
    cases finishing
  · intro state thread choice operation world response turn video finishing
    by_cases moved : Mark.finishing ∈ operation.marks
    · cases operation with
      | beginFrame capture => exact turn.allowed.1
      | endFrame | endCall request reply => cases finishing
      | _ => simp [Op.marks] at moved
    · have shares : (state.stage thread).Shares _ .finishing := turn.shares moved
      exact video thread (shares ▸ finishing)
  · intro state thread choice operation world response turn video other _
    exact video other

section

variable {condition : System → Tid → Choice → Op → Prop} {state : System} {thread : Tid}
  {choice : Choice} {operation : Op} {world : World} {response : operation.Resp}
  {delivery : Delivery}

/-- Who enters the critical section finds nobody in it. -/
theorem Turn.unfinished (turn : Turn condition state thread choice operation world response)
    (held : .frame ∈ state.held thread) {other : Tid} (different : other ≠ thread) :
    (state.stage other).finishing = false := by
  by_contra finishing
  have finishing : (state.stage other).finishing := by simpa using finishing
  exact different (turn.exclusive (turn.promised .frame (.inr (.inl finishing))) held)

/-- Only `kcStopInternal` brings a thread to where it drops the live frame. -/
theorem Turn.unstopped (turn : Turn condition state thread choice operation world response)
    (clears : ∀ join signal, operation ≠ .clearRun join signal)
    (unstopped : ∀ other join, (state.stage other).switch ≠ .stopping join true) (other : Tid)
    (join : Bool) : (update state.stage thread ((state.stage thread).after operation response)
      other).switch ≠ .stopping join true := by
  by_cases moved : Mark.switch ∈ operation.marks
  · by_cases same : other = thread
    · subst same
      rw [Function.update_self]
      cases operation with
      | clearRun join signal => exact absurd rfl (clears join signal)
      | dropFrame =>
          obtain ⟨join, stopping⟩ := turn.allowed
          exact absurd stopping (unstopped other join)
      | awaitStopped | createThread | join | setStopping | resetState | stopCameraLoop _ => simp
      | _ => simp [Op.marks] at moved
    · rw [Function.update_of_ne same]
      exact unstopped other join
  · have shares : (state.stage other).Shares _ .switch := turn.shares_update moved other
    rw [shares]
    exact unstopped other join

/-- The clock and the slot stay as they are. -/
theorem Mailbox.kept (turn : Turn condition state thread choice operation world response)
    (mailbox : Mailbox state.world state.stage delivery)
    (clears : ∀ join signal, operation ≠ .clearRun join signal) (starts : operation ≠ .allocRecord)
    (begins : ∀ capture, operation ≠ .beginFrame capture)
    (clock : .clock ∉ operation.touches) (slot : .slot ∉ operation.touches) :
    Mailbox world (update state.stage thread ((state.stage thread).after operation response))
      delivery := by
  obtain ⟨pts, offset, _⟩ : Agree state.world world .clock := Op.run_agree turn.executed clock
  have slot : world.g.frame = state.world.g.frame :=
    (Op.run_agree turn.executed slot : Agree state.world world .slot)
  have frames : delivery.frames world = delivery.frames state.world := by
    rw [Delivery.frames, slot, Delivery.frames]
  constructor
  · rcases Op.run_record turn.executed starts with same | none
    · rw [same, mailbox.detached]
    · exact none
  · rcases (Op.run_threads turn.executed).run with same | ⟨_, set⟩ | ⟨⟨join, signal, stops⟩, _⟩
    · rw [same, mailbox.running]
    · exact set
    · exact absurd stops (clears join signal)
  · exact turn.unstopped clears mailbox.unstopped
  · rw [pts, offset, frames]
    exact mailbox.clock
  · rw [frames]
    exact mailbox.ordered
  · rw [pts, frames]
    exact mailbox.past
  · rw [offset, frames]
    exact mailbox.captured
  · intro other finishing
    have before : (state.stage other).finishing := by
      by_cases moved : Mark.finishing ∈ operation.marks
      · by_cases same : other = thread
        · subst same
          rw [Function.update_self] at finishing
          cases operation with
          | beginFrame capture => exact absurd rfl (begins capture)
          | endFrame | endCall request reply => cases finishing
          | _ => simp [Op.marks] at moved
        · rwa [Function.update_of_ne same] at finishing
      · have shares : (state.stage other).Shares _ .finishing := turn.shares_update moved other
        exact shares ▸ finishing
    obtain ⟨⟨capture, newest, shown⟩, frame, found, fresh⟩ := mailbox.fresh other before
    exact ⟨⟨capture, newest, by rw [pts, offset, shown]⟩, frame, slot.trans found, by rwa [pts]⟩

/-- `kcStart` begins with an empty slot. -/
theorem Mailbox.started (turn : Turn condition state thread choice .resetState world ())
    (detached : state.world.g.record = none) :
    Mailbox world (update state.stage thread ((state.stage thread).after .resetState ()))
      { live := true } := by
  obtain ⟨python, _, _, held, _⟩ := turn.allowed
  have value := result_eq turn.executed
  have empty : ({ live := true } : Delivery).frames world = [] := by
    rw [value]
    rfl
  constructor
  · rw [value]
    exact detached
  · rw [value]
    rfl
  · intro other join
    by_cases same : other = thread
    · subst same
      simp
    · rw [Function.update_of_ne same, turn.unswitched rfl same]
      simp
  · refine .inl ⟨?_, empty⟩
    rw [value]
    exact (by decide : (-1 : Int64) < 0)
  · rw [empty]
    exact .nil
  · simp [empty]
  · simp [empty]
  · intro other finishing
    by_cases same : other = thread
    · subst same
      rw [Function.update_self] at finishing
      exact absurd python (finishing_video turn.reached other finishing)
    · rw [Function.update_of_ne same, turn.unfinished held same] at finishing
      cases finishing

/-- A reader moves the frame from the slot to its call. -/
theorem Mailbox.taken {response : Op.Resp .takeFrame}
    (turn : Turn condition state thread choice .takeFrame world response)
    (mailbox : Mailbox state.world state.stage delivery) :
    Mailbox world (update state.stage thread ((state.stage thread).after .takeFrame response))
      { delivery with taken := delivery.taken ++ state.world.g.frame.toList } := by
  obtain ⟨python, held, _⟩ := turn.allowed
  have value := result_eq turn.executed
  have frames : ({ delivery with
      taken := delivery.taken ++ state.world.g.frame.toList } : Delivery).frames world =
      delivery.frames state.world := by
    rw [value]
    simp [Delivery.frames]
  constructor
  · rw [value]
    exact mailbox.detached
  · rw [value]
    exact mailbox.running
  · exact turn.unstopped (by simp) mailbox.unstopped
  · rw [frames, value]
    exact mailbox.clock
  · rw [frames]
    exact mailbox.ordered
  · rw [frames, value]
    exact mailbox.past
  · rw [frames, value]
    exact mailbox.captured
  · intro other finishing
    by_cases same : other = thread
    · subst same
      rw [Function.update_self] at finishing
      exact absurd python (finishing_video turn.reached other finishing)
    · rw [Function.update_of_ne same, turn.unfinished held same] at finishing
      cases finishing

/-- The memory of a run after one more capture. -/
def Delivery.capture (delivery : Delivery) (capture : Capture) (latency : UInt32) : Delivery :=
  { delivery with captures := capture :: delivery.captures, latency }

/-- A capture that comes in order is later than every frame of the run. -/
theorem Mailbox.later {stages : Tid → Stage} {capture : Capture} (latency : UInt32)
    (mailbox : Mailbox world stages delivery) (order : delivery.inOrder capture) :
    (0 ≤ world.offsetFor capture ∧ (world.offsetFor capture).toUInt64 ≤ capture.pts) ∧
      ∀ frame ∈ delivery.frames world,
        frame.pts < capture.pts - (world.offsetFor capture).toUInt64 ∧
          (delivery.capture capture latency).Captured (world.offsetFor capture).toUInt64 frame := by
  simp only [Delivery.inOrder, decide_eq_true_eq] at order
  obtain ⟨natural, order⟩ := order
  rcases mailbox.clock with ⟨unset, none⟩ | ⟨set, earlier, member, before, pts⟩
  · have offset : world.offsetFor capture = capture.pts.toInt64 := by
      simp [World.offsetFor, unset]
    rw [offset, UInt64.toUInt64_toInt64]
    exact ⟨⟨natural, UInt64.le_refl _⟩, by simp [none]⟩
  · have offset : world.offsetFor capture = world.g.ptsOffset := by
      simp [World.offsetFor, Int64.not_lt.mpr set]
    have after := order earlier member
    rw [offset]
    refine ⟨⟨set, UInt64.le_of_lt (UInt64.lt_of_le_of_lt before after)⟩, fun frame found => ⟨?_, ?_⟩⟩
    · have bound := mailbox.past frame found
      rw [pts, UInt64.le_iff_toNat_le, UInt64.toNat_sub_of_le _ _ before] at bound
      rw [UInt64.le_iff_toNat_le] at before
      rw [UInt64.lt_iff_toNat_lt] at after
      rw [UInt64.lt_iff_toNat_lt, UInt64.toNat_sub_of_le _ _
        (UInt64.le_iff_toNat_le.mpr (by omega))]
      omega
    · obtain ⟨source, known, same, shifted⟩ := mailbox.captured frame found
      exact ⟨source, List.mem_cons_of_mem _ known, same, shifted⟩

/-- A capture moves the clock on, and the slot keeps its frame, loses it or gets
the frame of the capture. -/
theorem Mailbox.captures {capture : Capture} {response : Op.Resp (.beginFrame capture)}
    {latency : UInt32} {kept : List KcFrame}
    (turn : Turn condition state thread choice (.beginFrame capture) world response)
    (mailbox : Mailbox state.world state.stage delivery) (order : delivery.inOrder capture)
    (offset : world.g.ptsOffset = state.world.offsetFor capture)
    (pts : world.g.pts = capture.pts - (state.world.offsetFor capture).toUInt64)
    (older : kept.Sublist (delivery.frames state.world))
    (frames : (delivery.capture capture latency).frames world = kept ∨
      ∃ block, (delivery.capture capture latency).frames world =
        kept ++ [capture.frame block world.g.pts])
    (fresh : ((state.stage thread).after (.beginFrame capture) response).finishing →
      world.Fresh latency) :
    Mailbox world (update state.stage thread ((state.stage thread).after (.beginFrame capture)
      response)) (delivery.capture capture latency) := by
  obtain ⟨_, held, _⟩ := turn.allowed
  obtain ⟨⟨natural, before⟩, later⟩ := mailbox.later latency order
  have own (block : Nat) : (delivery.capture capture latency).Captured
      (state.world.offsetFor capture).toUInt64 (capture.frame block world.g.pts) :=
    ⟨capture, List.mem_cons_self, by simp [Capture.frame], by simp [Capture.frame, pts]⟩
  constructor
  · rcases Op.run_record turn.executed (by simp) with same | none
    · rw [same, mailbox.detached]
    · exact none
  · rcases (Op.run_threads turn.executed).run with same | ⟨_, set⟩ | ⟨⟨_, _, clears⟩, _⟩
    · rw [same, mailbox.running]
    · exact set
    · cases clears
  · exact turn.unstopped (by simp) mailbox.unstopped
  · rw [offset, pts]
    exact .inr ⟨natural, capture, List.mem_cons_self, before, rfl⟩
  · rcases frames with same | ⟨block, same⟩
    · rw [same]
      exact mailbox.ordered.sublist older
    · rw [same, List.pairwise_append]
      refine ⟨mailbox.ordered.sublist older, List.pairwise_singleton _ _, ?_⟩
      intro frame member new added
      rw [List.mem_singleton.mp added, pts]
      simpa [Capture.frame] using (later frame (older.subset member)).1
  · intro frame member
    rcases frames with same | ⟨block, same⟩
    · rw [same] at member
      rw [pts]
      exact UInt64.le_of_lt (later frame (older.subset member)).1
    · rw [same, List.mem_append, List.mem_singleton] at member
      rcases member with old | rfl
      · rw [pts]
        exact UInt64.le_of_lt (later frame (older.subset old)).1
      · simp [Capture.frame]
  · intro frame member
    rw [offset]
    rcases frames with same | ⟨block, same⟩
    · rw [same] at member
      exact (later frame (older.subset member)).2
    · rw [same, List.mem_append, List.mem_singleton] at member
      rcases member with old | rfl
      · exact (later frame (older.subset old)).2
      · exact own block
  · intro other finishing
    by_cases same : other = thread
    · subst same
      rw [Function.update_self] at finishing
      exact ⟨⟨capture, rfl, by rw [pts, offset]⟩, fresh finishing⟩
    · rw [Function.update_of_ne same, turn.unfinished held same] at finishing
      cases finishing

/-- A capture that stops an idle camera leaves the slot alone. -/
theorem Mailbox.idled {capture : Capture} {latency : UInt32}
    (turn : Turn condition state thread choice (.beginFrame capture) world .idle)
    (mailbox : Mailbox state.world state.stage delivery)
    (same : world = { state.world with captured := capture.pts }) :
    Mailbox world (update state.stage thread ((state.stage thread).after (.beginFrame capture) .idle))
      (delivery.capture capture latency) := by
  obtain ⟨_, held, alone⟩ := turn.allowed
  have frames : (delivery.capture capture latency).frames world =
      delivery.frames state.world := by
    rw [same]
    rfl
  constructor
  · rw [same]
    exact mailbox.detached
  · rw [same]
    exact mailbox.running
  · exact turn.unstopped (by simp) mailbox.unstopped
  · rw [frames, same]
    refine mailbox.clock.imp id ?_
    rintro ⟨set, earlier, member, rest⟩
    exact ⟨set, earlier, List.mem_cons_of_mem _ member, rest⟩
  · rw [frames]
    exact mailbox.ordered
  · rw [frames, same]
    exact mailbox.past
  · rw [frames, same]
    intro frame member
    obtain ⟨source, known, built⟩ := mailbox.captured frame member
    exact ⟨source, List.mem_cons_of_mem _ known, built⟩
  · intro other finishing
    by_cases same : other = thread
    · subst same
      rw [Function.update_self] at finishing
      simp [alone] at finishing
    · rw [Function.update_of_ne same, turn.unfinished held same] at finishing
      cases finishing

/-- The slot keeps its frame or loses it. -/
theorem slot_sublist {next : World} {property : KcFrame → Prop}
    (slot : next.g.frame = none ∨ ∃ frame, state.world.g.frame = some frame ∧
      next.g.frame = some frame ∧ property frame) :
    (delivery.taken ++ next.g.frame.toList).Sublist (delivery.frames state.world) := by
  rcases slot with empty | ⟨frame, before, after, _⟩
  · simp [empty, Delivery.frames]
  · simp [before, after, Delivery.frames]

/-- `kcFrameData` keeps the slot in order. -/
theorem Mailbox.begun {capture : Capture} {response : Op.Resp (.beginFrame capture)}
    (turn : Turn condition state thread choice (.beginFrame capture) world response)
    (mailbox : Mailbox state.world state.stage delivery) (order : delivery.inOrder capture)
    (sound : world.fault = none) :
    Mailbox world (update state.stage thread ((state.stage thread).after (.beginFrame capture)
      response)) (delivery.capture capture
        ((state.world.kcParams.map KcParams.maxLatency).getD 0)) := by
  obtain ⟨_, _, alone⟩ := turn.allowed
  have executed := turn.executed
  simp only [Op.run, Option.some.injEq] at executed
  have record : (state.world.readied capture).g.record = state.world.g.record :=
    (World.readied_agree capture (by simp) (by simp) (by simp) (by simp) :
      Agree state.world (state.world.readied capture) .attached)
  have running : (state.world.readied capture).g.run = true := by
    have same : (state.world.readied capture).g.run = state.world.g.run :=
      (World.readied_agree capture (by simp) (by simp) (by simp) (by simp) :
        Agree state.world (state.world.readied capture) .threads).1
    rw [same, mailbox.running]
  have readied := state.world.readied_cases capture mailbox.detached
  have empty : delivery.taken.Sublist (delivery.frames state.world) := List.sublist_append_left _ _
  rcases state.world.beginFrame_cases capture choice.now choice.allocates with
    ⟨idle, value⟩ | ⟨full, value⟩ | ⟨failed, value⟩ | ⟨list, attached, value⟩ | ⟨_, free, value⟩
  all_goals
    rw [value, Prod.mk.injEq] at executed
    obtain ⟨rfl, rfl⟩ := executed
  · exact mailbox.idled turn rfl
  · obtain ⟨offset, pts, slot⟩ := readied sound
    refine mailbox.captures turn order offset pts (slot_sublist slot) (.inl rfl) fun _ => ?_
    rcases slot with missing | ⟨frame, before, after, young⟩
    · simp [missing, running] at full
    · have older := ((mailbox.later 0 order).2 frame
        (by simp [Delivery.frames, before])).1
      rw [← pts] at older
      have older := UInt64.le_of_lt older
      refine ⟨frame, after, older, ?_⟩
      rw [UInt64.le_iff_toNat_le, UInt64.toNat_sub_of_le _ _ older, UInt32.toNat_toUInt64] at young
      omega
  · obtain ⟨offset, pts, slot⟩ := readied sound
    refine mailbox.captures turn order offset pts (slot_sublist slot) (.inl rfl) fun finishing => ?_
    simp [alone] at finishing
  · rw [record, mailbox.detached] at attached
    cases attached
  · obtain ⟨offset, pts, _⟩ := readied sound
    refine mailbox.captures turn order offset pts empty (.inr ⟨_, rfl⟩) fun _ => ?_
    exact ⟨_, rfl, by simp [Capture.frame], by simp [Capture.frame]⟩

/-- Every operation of a run keeps the slot in order. -/
theorem Mailbox.step (turn : Turn condition state thread choice operation world response)
    (mailbox : delivery.live → Mailbox state.world state.stage delivery)
    (sound : world.fault = none)
    (live : (delivery.observe state thread choice operation).live) :
    Mailbox world (update state.stage thread ((state.stage thread).after operation response))
      (delivery.observe state thread choice operation) := by
  cases operation with
  | resetState =>
      have detached : state.world.g.record = none := by simpa [Delivery.observe] using live
      have same : delivery.observe state thread choice .resetState = { live := true } := by
        simp [Delivery.observe, detached]
      rw [same]
      exact Mailbox.started turn detached
  | clearRun join signal | allocRecord => cases live
  | beginFrame capture =>
      have both : delivery.live = true ∧ delivery.inOrder capture = true := by
        simpa [Delivery.observe] using live
      have same : delivery.observe state thread choice (.beginFrame capture) =
          delivery.capture capture ((state.world.kcParams.map KcParams.maxLatency).getD 0) := by
        simp [Delivery.observe, Delivery.capture, both.1, both.2]
      rw [same]
      exact (mailbox both.1).begun turn both.2 sound
  | takeFrame => exact (mailbox live).taken turn
  | dropFrame =>
      obtain ⟨join, stopping⟩ := turn.allowed
      exact absurd stopping ((mailbox live).unstopped thread join)
  | _ =>
      exact (mailbox live).kept turn (by simp) (by simp) (by simp) (by simp [Op.touches])
        (by simp [Op.touches])

end

/-- A camera run without a recording whose captures come in order delivers each
frame at most once and in order, and leaves a fresh frame behind every capture. -/
theorem delivers (current : System × Delivery)
    (reached : Watched Delivery.observe (fun _ => anyOperation) {} current)
    (sound : current.1.world.fault = none) (live : current.2.live) : Delivers current := by
  have mailbox : Mailbox current.1.world current.1.stage current.2 := by
    refine Watched.invariant (fun world stages delivery => world.fault = none → delivery.live →
      Mailbox world stages delivery) ?_ ?_ reached sound live
    · intro _ live
      cases live
    · intro state delivery thread choice operation world response turn mailbox sound live
      exact Mailbox.step turn (mailbox turn.running) sound live
  have taken : current.2.taken.Sublist (current.2.frames current.1.world) :=
    List.sublist_append_left _ _
  have ordered := mailbox.ordered.sublist taken
  refine ⟨ordered, ?_, fun frame member => mailbox.captured frame (taken.subset member), ?_⟩
  · refine ordered.imp ?_
    rintro earlier later before rfl
    exact UInt64.lt_irrefl _ before
  · intro thread ends
    obtain ⟨_, _, _, finishing⟩ :=
      (reached.runs.disciplined.follows thread).allowed semantics discipline _ ends
    exact mailbox.fresh thread finishing

/-- A reader waits for a frame, the camera starts and captures two, and the reader
takes the first. -/
def twoCaptures : List (Event Tid Choice) :=
  calls (.newCamera someParams) 25 ++ calls (.stream someParams) 9 ++ calls (.frame 0 false) 17 ++
    turns (.video 0) 30 { pts := 1000 } ++ [.act (.video 0) {} (some (.python 0))] ++
    turns (.video 0) 2 {} ++ turns (.python 0) 4 {} ++ turns (.video 0) 11 { pts := 5000 }

/-- One of two captures was taken, and the other waits in the slot. -/
theorem delivers_twoCaptures : ∃ current,
    Watched Delivery.observe (fun _ => anyOperation) {} current ∧ Delivers current ∧
      ((current.1.code (.video 0)).current = some .endFrame ∧
        current.2.taken.map KcFrame.pts = [0] ∧
        current.1.world.g.frame.map KcFrame.pts = some 4000) := by
  have passed : (watchedRun [.python 0, .video 0] Delivery.observe (fun _ _ _ _ _ => true)
      (System.initial, {}) twoCaptures).any (fun current =>
        (current.1.world.fault = none ∧ current.2.live) ∧
        ((current.1.code (.video 0)).current = some .endFrame ∧
          current.2.taken.map KcFrame.pts = [0] ∧
          current.1.world.g.frame.map KcFrame.pts = some 4000)) := by
    decide +kernel
  obtain ⟨current, reached, test⟩ :=
    exists_watchedRun (fun _ => anyOperation) (fun _ _ _ _ _ _ _ => trivial) passed
  obtain ⟨⟨sound, live⟩, ends⟩ := of_decide_eq_true test
  exact ⟨current, reached, delivers current reached sound live, ends⟩

end KCamera
