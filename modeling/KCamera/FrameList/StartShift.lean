import KCamera.FrameList.Runs
import Mathlib.Data.List.TakeWhile

/-!
# The positive start shift

A positive shift is to pass over every frame until it has expired. `m_t0` is an
`int` copy of a 64-bit time stamp, and the frame kept for streaming is only
dropped while recording is held back.
-/

namespace KCamera

open Heap Machine

/-- `frame` comes less than the shift after `first`. -/
def early (startShift : Int32) (first frame : KcFrame) : Bool :=
  (frame.pts.toNat : Int) - first.pts.toNat < startShift.toInt

/-- The frames from the first one that is not early. -/
def sinceShift (startShift : Int32) : List KcFrame → List KcFrame
  | [] => []
  | first :: rest => (first :: rest).dropWhile (early startShift first)

/-- The duration has passed, counted from the first of `recorded`. -/
def DurationPassed (duration : UInt32) (recorded : List KcFrame) : Prop :=
  duration ≠ 0 ∧ ∃ first ∈ recorded.head?, ∃ frame ∈ recorded,
    duration.toNat ≤ frame.pts.toNat - first.pts.toNat

/-- The list holds exactly `frames`, in order. -/
def Contents (list : FrameList) (frames : List KcFrame) : Prop :=
  ∃ cells, Chained list cells ∧ framesOf cells = frames

/-- What a positive start shift asks of the list after `frames`. -/
structure ShiftKept (startShift : Int32) (duration : UInt32) (frames : List KcFrame)
    (list : FrameList) : Prop where
  before : sinceShift startShift frames = [] →
    list.recording = -1 ∧ Contents list frames.getLast?.toList
  ended : sinceShift startShift frames ≠ [] →
    DurationPassed duration (sinceShift startShift frames) → list.recording = 0
  after : sinceShift startShift frames ≠ [] →
    ¬DurationPassed duration (sinceShift startShift frames) →
      list.recording = 1 ∧ Contents list (sinceShift startShift frames)

/-- Frames appended to a fresh list, with what `malloc` returns for each. -/
def appendAll (startShift : Int32) (duration : UInt32) (frames : List (KcFrame × Addr)) :
    Option FrameList :=
  run ListOp.apply (flistInit startShift duration) (frames.map fun entry => .append entry.1 entry.2)

/-- The time stamps that their own `int` copy represents. -/
def Represented (frame : KcFrame) : Prop :=
  frame.pts.toNat < 2 ^ 31 ∨ 2 ^ 64 - 2 ^ 31 ≤ frame.pts.toNat

/-- Recording is held back from the first frame on and no frame comes after
the shift. -/
def HeldThroughout (startShift : Int32) (frames : List KcFrame) : Prop :=
  ∀ first ∈ frames.head?,
    Represented first ∧ ∀ frame ∈ frames, early startShift first frame

/-! ## Time stamps through an `int` -/

/-- An `int` operand as it is converted to `uint64_t`. -/
theorem widened_toNat (value : Int32) :
    (value.toInt64.toUInt64.toNat : Int) = value.toInt % 2 ^ 64 := by
  have bits : value.toInt64.toUInt64.toNat = value.toInt64.toBitVec.toNat := rfl
  have signed := BitVec.toInt_eq_toNat_bmod value.toInt64.toBitVec
  rw [Int64.toInt_toBitVec, Int32.toInt_toInt64] at signed
  have bound := value.toInt64.toBitVec.isLt
  rw [bits, signed, Int.bmod_def]
  split <;> omega

/-- The low half of a time stamp as an `int`. -/
theorem low_toInt (pts : UInt64) :
    pts.toUInt32.toInt32.toInt =
      if pts.toNat % 2 ^ 32 < 2 ^ 31 then ((pts.toNat % 2 ^ 32 : Nat) : Int)
      else ((pts.toNat % 2 ^ 32 : Nat) : Int) - 2 ^ 32 := by
  have bits := BitVec.toInt_eq_toNat_cond pts.toUInt32.toInt32.toBitVec
  have low : pts.toUInt32.toInt32.toBitVec.toNat = pts.toNat % 2 ^ 32 := by
    change pts.toUInt32.toNat = _
    simp
  rw [Int32.toInt_toBitVec, low] at bits
  rw [bits]
  split <;> split <;> omega

/-- The source compares as 64-bit unsigned numbers. -/
theorem beforeShift_iff (pts : UInt64) (t0 startShift : Int32) :
    beforeShift pts t0 startShift ↔
      ((pts.toNat : Int) - t0.toInt) % 2 ^ 64 < startShift.toInt % 2 ^ 64 := by
  have left := widened_toNat t0
  have right := widened_toNat startShift
  simp only [beforeShift, UInt64.lt_iff_toNat_lt, UInt64.toNat_sub, decide_eq_true_eq]
  omega

/-- The shift is counted from the first frame that was seen. -/
theorem startTime_toInt (list : FrameList) (frame : KcFrame) :
    (list.startTime frame).toInt =
      if list.t0.toInt < 0 then frame.pts.toUInt32.toInt32.toInt else list.t0.toInt := by
  have zero : (0 : Int32).toInt = 0 := rfl
  simp only [FrameList.startTime, Int32.lt_iff_toInt_lt, zero]
  split <;> rfl

/-- A first frame is held back exactly when its time stamp is represented. -/
theorem heldBack_first {list : FrameList} {frame : KcFrame} (unset : list.t0 < 0)
    (positive : 0 < list.startShift) : heldBack list frame ↔ Represented frame := by
  have start := startTime_toInt list frame
  have low := low_toInt frame.pts
  have bound := frame.pts.toNat_lt
  have small := list.startShift.toInt_lt
  have zero : (0 : Int32).toInt = 0 := rfl
  rw [Int32.lt_iff_toInt_lt, zero] at unset positive
  rw [heldBack, beforeShift_iff, Represented, start, if_pos unset, low]
  split <;> omega

/-- A start time below 2^31 measures later frames. -/
theorem heldBack_small {list : FrameList} {first frame : KcFrame}
    (small : first.pts.toNat < 2 ^ 31) (start : list.t0 = first.pts.toUInt32.toInt32)
    (later : first.pts ≤ frame.pts) (positive : 0 < list.startShift) :
    heldBack list frame ↔ early list.startShift first frame := by
  have value := startTime_toInt list frame
  have low := low_toInt first.pts
  have bound := frame.pts.toNat_lt
  have limit := list.startShift.toInt_lt
  have zero : (0 : Int32).toInt = 0 := rfl
  rw [Int32.lt_iff_toInt_lt, zero] at positive
  rw [UInt64.le_iff_toNat_le] at later
  rw [start, low] at value
  simp only [heldBack, beforeShift_iff, early, decide_eq_true_eq, value]
  split at value <;> omega

/-! ## Appending to a shifted list -/

/-- No time passes from a frame to itself. -/
theorem elapsed_self (frame : KcFrame) : elapsed frame frame = 0 := by
  simp [elapsed]

/-- A recording of one frame has not lasted yet. -/
theorem limitReached_single (duration : UInt32) (node : Addr) (frame : KcFrame) :
    limitReached duration [(node, frame)] frame = false := by
  simp [limitReached, elapsed_self]

section Append

variable {list : FrameList} {cells : List Cell} {frame : KcFrame} {node : Addr}

/-- A frame that is held back replaces the one that was kept. -/
theorem append_held (shape : Anchored list cells) (short : cells.length ≤ 1)
    (waiting : list.recording = -1) (positive : 0 < list.startShift)
    (held : heldBack list frame) (fresh : Available list frame node) :
    let after := (flistAppend list frame (some node)).list
    Anchored after [(node, frame)] ∧ after.recording = -1 ∧ after.t0 = list.startTime frame ∧
      after.startShift = list.startShift ∧ after.duration = list.duration := by
  have spec := flistAppend_spec frame shape.toChained (by rw [waiting]; decide) fresh
  have dropped : cells.drop (discarded list cells frame) = [] := by
    have cases : cells.length = 0 ∨ cells.length = 1 := by omega
    rcases cases with none | one
    · rw [List.length_eq_zero_iff.mp none, List.drop_nil]
    · rw [List.drop_eq_nil_iff]
      simp [discarded, waiting, positive, held, one]
  have appended : appendedCells list cells frame node = [(node, frame)] := by
    rw [appendedCells, dropped, List.nil_append]
  refine ⟨appended ▸ spec.shape, ?_, spec.t0, spec.startShift, spec.duration⟩
  rw [spec.recording, appended, limitReached_single]
  simp [modeAfter, waiting, held]

/-- The first frame that is not held back is linked behind what was kept. -/
theorem append_released (shape : Anchored list cells) (waiting : list.recording = -1)
    (positive : 0 < list.startShift) (released : ¬heldBack list frame)
    (fresh : Available list frame node) :
    let after := (flistAppend list frame (some node)).list
    Anchored after (cells ++ [(node, frame)]) ∧ after.recording =
      if limitReached list.duration (cells ++ [(node, frame)]) frame then 0 else 1 := by
  have spec := flistAppend_spec frame shape.toChained (by rw [waiting]; decide) fresh
  have kept : discarded list cells frame = 0 := by
    simp [discarded, waiting, positive, released]
  have appended : appendedCells list cells frame node = cells ++ [(node, frame)] := by
    rw [appendedCells, kept, List.drop_zero]
  refine ⟨appended ▸ spec.shape, ?_⟩
  rw [spec.recording, appended]
  simp [modeAfter, waiting, positive, released]

end Append

/-- A list has one sequence of frames. -/
theorem Contents.unique {list : FrameList} {frames frames' : List KcFrame}
    (left : Contents list frames) (right : Contents list frames') : frames = frames' := by
  obtain ⟨cells, shape, rfl⟩ := left
  obtain ⟨cells', shape', rfl⟩ := right
  rw [shape.unique shape']

/-- A list in pre-roll after frames from `first` to `last`. -/
structure PreRolling (startShift : Int32) (duration : UInt32) (first last : KcFrame)
    (list : FrameList) : Prop where
  recording : list.recording = -1
  startShift : list.startShift = startShift
  duration : list.duration = duration
  single : ∃ node, Anchored list [(node, last)]
  start : (first.pts.toNat < 2 ^ 31 ∧ list.t0 = first.pts.toUInt32.toInt32) ∨
    (2 ^ 64 - 2 ^ 31 ≤ first.pts.toNat ∧ list.t0 < 0)

/-- Timestamps just below `2 ^ 64` are negative in 32 bits. -/
theorem low_neg {pts : UInt64} (large : 2 ^ 64 - 2 ^ 31 ≤ pts.toNat) :
    pts.toUInt32.toInt32 < 0 := by
  have low := low_toInt pts
  have bound := pts.toNat_lt
  have zero : (0 : Int32).toInt = 0 := rfl
  rw [Int32.lt_iff_toInt_lt, zero, low]
  split <;> omega

/-- Timestamps below `2 ^ 31` are not. -/
theorem low_nonneg {pts : UInt64} (small : pts.toNat < 2 ^ 31) :
    ¬pts.toUInt32.toInt32 < 0 := by
  have low := low_toInt pts
  have zero : (0 : Int32).toInt = 0 := rfl
  rw [Int32.lt_iff_toInt_lt, zero, low]
  split <;> omega

section PreRolling

variable {startShift : Int32} {duration : UInt32} {first last frame : KcFrame} {node : Addr}
  {list : FrameList}

/-- The first frame of a represented time stamp starts the pre-roll. -/
theorem preRolling_first (positive : 0 < startShift) (represented : Represented frame)
    (fresh : Available (flistInit startShift duration) frame node) :
    PreRolling startShift duration frame frame
      (flistAppend (flistInit startShift duration) frame (some node)).list := by
  have unset : (flistInit startShift duration).t0 < 0 := by
    simp [flistInit, FrameList.reset]
  have waiting : (flistInit startShift duration).recording = -1 := by
    have nonzero : startShift ≠ 0 := by
      rintro rfl
      exact absurd positive (by decide)
    simp [flistInit, FrameList.reset, nonzero]
  have held := (heldBack_first unset positive).mpr represented
  obtain ⟨shape, recording, t0, shift, limit⟩ := append_held
    (flistInit_anchored startShift duration) (by simp) waiting positive held fresh
  refine ⟨recording, shift, limit, ⟨node, shape⟩, ?_⟩
  have start : (flistInit startShift duration).startTime frame = frame.pts.toUInt32.toInt32 :=
    if_pos unset
  rw [t0, start]
  rcases represented with small | large
  · exact .inl ⟨small, rfl⟩
  · exact .inr ⟨large, low_neg large⟩

/-- A represented start measures the shift until it expires; a wrapped one is
set anew by every frame. -/
theorem PreRolling.heldBack_iff (rolling : PreRolling startShift duration first last list)
    (positive : 0 < startShift) (later : first.pts ≤ frame.pts) :
    heldBack list frame ↔
      (first.pts.toNat < 2 ^ 31 → early startShift first frame) := by
  obtain ⟨-, rfl, -, -, start⟩ := rolling
  rcases start with ⟨small, start⟩ | ⟨large, unset⟩
  · rw [heldBack_small small start later positive]
    exact ⟨fun held _ => held, fun held => held small⟩
  · rw [heldBack_first unset positive]
    rw [UInt64.le_iff_toNat_le] at later
    have wrapped : Represented frame := .inr (by omega)
    have excluded : ¬first.pts.toNat < 2 ^ 31 := by omega
    exact ⟨fun _ small => absurd small excluded, fun _ => wrapped⟩

/-- A frame that is held back leaves the list in pre-roll. -/
theorem PreRolling.step (rolling : PreRolling startShift duration first last list)
    (positive : 0 < startShift) (later : first.pts ≤ frame.pts) (held : heldBack list frame)
    (fresh : Available list frame node) :
    PreRolling startShift duration first frame (flistAppend list frame (some node)).list := by
  obtain ⟨recording, rfl, rfl, ⟨kept, shape⟩, start⟩ := rolling
  obtain ⟨shape', recording', t0, shift, limit⟩ :=
    append_held shape (by simp) recording positive held fresh
  refine ⟨recording', shift, limit, ⟨node, shape'⟩, ?_⟩
  rw [t0]
  rcases start with ⟨small, start⟩ | ⟨large, unset⟩
  · left
    refine ⟨small, ?_⟩
    rw [FrameList.startTime, start, if_neg (low_nonneg small)]
  · right
    rw [UInt64.le_iff_toNat_le] at later
    refine ⟨large, ?_⟩
    rw [FrameList.startTime, if_pos unset]
    exact low_neg (by omega)

end PreRolling

/-! ## Runs of appends -/

/-- Appending one more frame is the last step. -/
theorem appendAll_concat (startShift : Int32) (duration : UInt32)
    (frames : List (KcFrame × Addr)) (entry : KcFrame × Addr) :
    appendAll startShift duration (frames ++ [entry]) =
      (appendAll startShift duration frames).bind fun list =>
        ListOp.apply list (.append entry.1 entry.2) := by
  simp [appendAll, run_append, run]

/-- With a positive shift the first frame comes early. -/
theorem early_first {startShift : Int32} (positive : 0 < startShift) (first : KcFrame) :
    early startShift first first := by
  have zero : (0 : Int32).toInt = 0 := rfl
  rw [Int32.lt_iff_toInt_lt, zero] at positive
  simpa [early] using positive

/-- What is held throughout was held from the start. -/
theorem HeldThroughout.of_prefix {startShift : Int32} {taken frames : List KcFrame}
    (held : HeldThroughout startShift frames) (initial : taken <+: frames) :
    HeldThroughout startShift taken := by
  obtain ⟨rest, rfl⟩ := initial
  intro first head
  have member : first ∈ (taken ++ rest).head? := by
    cases taken with
    | nil => simp at head
    | cons => simpa using head
  obtain ⟨represented, all⟩ := held first member
  exact ⟨represented, fun frame inside => all frame (List.mem_append_left _ inside)⟩

/-- No frame of a run held throughout is past the shift. -/
theorem HeldThroughout.sinceShift_eq {startShift : Int32} {frames : List KcFrame}
    (held : HeldThroughout startShift frames) : sinceShift startShift frames = [] := by
  cases frames with
  | nil => rfl
  | cons first rest => exact List.dropWhile_eq_nil_iff.mpr (held first rfl).2

/-- Of early frames and a late one only the late one comes after the shift. -/
theorem sinceShift_concat {startShift : Int32} {first frame : KcFrame} {taken : List KcFrame}
    (head : taken.head? = some first) (all : ∀ old ∈ taken, early startShift first old)
    (late : ¬early startShift first frame) :
    sinceShift startShift (taken ++ [frame]) = [frame] := by
  obtain ⟨others, rfl⟩ := List.head?_eq_some_iff.mp head
  change ((first :: others) ++ [frame]).dropWhile (early startShift first) = [frame]
  rw [List.dropWhile_append_of_pos all]
  simp [late]

section Runs

variable {startShift : Int32} {duration : UInt32} {frames : List (KcFrame × Addr)}
  {list : FrameList}

/-- The time stamps do not decrease. -/
def Ordered (frames : List (KcFrame × Addr)) : Prop :=
  frames.Pairwise fun earlier later => earlier.1.pts ≤ later.1.pts

/-- A run that can be executed can be executed up to any moment. -/
theorem executed_prefix {taken : List (KcFrame × Addr)}
    (executed : appendAll startShift duration frames = some list) (initial : taken <+: frames) :
    ∃ middle, appendAll startShift duration taken = some middle :=
  run_initially (Option.isSome_iff_exists.mpr ⟨list, executed⟩) (initial.map _)

/-- A run held throughout keeps the list in pre-roll. -/
theorem preRolling_of_held (positive : 0 < startShift) (ordered : Ordered frames)
    (held : HeldThroughout startShift (frames.map Prod.fst))
    (executed : appendAll startShift duration frames = some list) {first last : KcFrame × Addr}
    (head : frames.head? = some first) (tail : frames.getLast? = some last) :
    PreRolling startShift duration first.1 last.1 list := by
  induction frames using List.reverseRecOn generalizing list last with
  | nil => simp at head
  | append_singleton taken final ih =>
      rw [List.getLast?_concat, Option.some.injEq] at tail
      subst tail
      rw [appendAll_concat] at executed
      obtain ⟨prior, before, applied⟩ := Option.bind_eq_some_iff.mp executed
      simp only [ListOp.apply] at applied
      split at applied
      · rename_i fresh
        cases applied
        rcases List.eq_nil_or_concat' taken with rfl | ⟨_, previous, shape⟩
        · cases before
          cases head
          obtain ⟨represented, -⟩ := held first.1 rfl
          exact preRolling_first positive represented fresh
        · have head' : taken.head? = some first := by
            rw [shape] at head ⊢
            simpa using head
          have tail' : taken.getLast? = some previous := by rw [shape, List.getLast?_concat]
          have rolling := ih (List.pairwise_append.mp ordered).1
            (held.of_prefix (by simp)) before head' tail'
          have later : first.1.pts ≤ final.1.pts :=
            (List.pairwise_append.mp ordered).2.2 first (List.mem_of_mem_head? head') final (by simp)
          obtain ⟨-, all⟩ := held first.1 (by simp [head'])
          have heldBack := (rolling.heldBack_iff positive later).mpr fun _ => all _ (by simp)
          exact rolling.step positive later heldBack fresh
      · cases applied

/-- Pre-roll is what a start shift asks for before it expires. -/
theorem shiftKept_of_held (positive : 0 < startShift) (ordered : Ordered frames)
    (held : HeldThroughout startShift (frames.map Prod.fst))
    (executed : appendAll startShift duration frames = some list) :
    ShiftKept startShift duration (frames.map Prod.fst) list := by
  have none := held.sinceShift_eq
  refine ⟨fun _ => ?_, fun some => absurd none some, fun some => absurd none some⟩
  rcases frames.eq_nil_or_concat' with rfl | ⟨init, last, shape⟩
  · cases executed
    have nonzero : startShift ≠ 0 := by
      rintro rfl
      exact absurd positive (by decide)
    exact ⟨if_neg nonzero, [], (flistInit_anchored startShift duration).toChained, rfl⟩
  · have tail : frames.getLast? = some last := by rw [shape, List.getLast?_concat]
    obtain ⟨first, head⟩ : ∃ first, frames.head? = some first := by
      rw [shape]
      cases init <;> exact ⟨_, rfl⟩
    have rolling := preRolling_of_held positive ordered held executed head tail
    obtain ⟨node, single⟩ := rolling.single
    exact ⟨rolling.recording, _, single.toChained, by simp [tail]⟩

/-- What a positive start shift keeps, at every moment of a run. -/
def ShiftKeptThroughout (startShift : Int32) (duration : UInt32)
    (frames : List (KcFrame × Addr)) : Prop :=
  ∀ taken, taken <+: frames → ∀ list, appendAll startShift duration taken = some list →
    ShiftKept startShift duration (taken.map Prod.fst) list

/-- What is asked of the first frame alone makes its time stamp represented. -/
theorem represented_of_shiftKept (positive : 0 < startShift) {entry : KcFrame × Addr}
    (executed : appendAll startShift duration [entry] = some list)
    (kept : ShiftKept startShift duration [entry.1] list) : Represented entry.1 := by
  by_contra unrepresented
  have nonzero : startShift ≠ 0 := by
    rintro rfl
    exact absurd positive (by decide)
  have released : ¬heldBack (flistInit startShift duration) entry.1 :=
    fun held => unrepresented ((heldBack_first (by simp [flistInit, FrameList.reset]) positive).mp held)
  have none : sinceShift startShift [entry.1] = [] := by
    simp [sinceShift, early_first positive]
  obtain ⟨waiting, -⟩ := kept.before none
  simp only [appendAll, List.map_cons, List.map_nil, run, ListOp.apply] at executed
  split at executed
  · rename_i fresh
    cases executed
    obtain ⟨-, recording⟩ := append_released (flistInit_anchored startShift duration)
      (if_neg nonzero) positive released fresh
    rw [List.nil_append, limitReached_single] at recording
    simp [recording] at waiting
  · cases executed

/-- The first frame after the shift never leaves the list as asked. -/
theorem not_shiftKept_at_expiry (positive : 0 < startShift) {first last : KcFrame}
    (rolling : PreRolling startShift duration first last list) {frame : KcFrame} {node : Addr}
    {taken : List KcFrame} (since : sinceShift startShift (taken ++ [frame]) = [frame])
    (fresh : Available list frame node) :
    ¬ShiftKept startShift duration (taken ++ [frame])
      (flistAppend list frame (some node)).list := by
  intro kept
  have unlimited : ¬DurationPassed duration [frame] := by
    rintro ⟨nonzero, first, head, other, member, reached⟩
    cases head
    obtain rfl := List.mem_singleton.mp member
    rw [Nat.sub_self, Nat.le_zero] at reached
    exact nonzero (UInt32.toNat_inj.mp reached)
  obtain ⟨recording, content⟩ := kept.after (by simp [since]) (by rwa [since])
  rw [since] at content
  obtain ⟨waiting, shift, limit, ⟨old, single⟩, -⟩ := rolling
  have shiftPositive : 0 < list.startShift := by rwa [shift]
  by_cases held : heldBack list frame
  · obtain ⟨-, still, -⟩ := append_held single (by simp) waiting shiftPositive held fresh
    rw [still] at recording
    exact absurd recording (by decide)
  · obtain ⟨shape, -⟩ := append_released single waiting shiftPositive held fresh
    have two := content.unique ⟨_, shape.toChained, rfl⟩
    simp at two

/-- A run whose frames are not all early has a first one that is not. -/
theorem exists_late {first : KcFrame × Addr} (head : frames.head? = some first)
    (positive : 0 < startShift)
    (late : ¬∀ frame ∈ frames.map Prod.fst, early startShift first.1 frame) :
    ∃ taken entry, taken ++ [entry] <+: frames ∧ taken.head? = some first ∧
      (∀ frame ∈ taken.map Prod.fst, early startShift first.1 frame) ∧
      sinceShift startShift ((taken ++ [entry]).map Prod.fst) = [entry.1] := by
  let before := fun entry : KcFrame × Addr => early startShift first.1 entry.1
  have nonempty : frames.dropWhile before ≠ [] := by
    intro none
    refine late fun frame member => ?_
    obtain ⟨entry, inside, rfl⟩ := List.mem_map.mp member
    exact List.dropWhile_eq_nil_iff.mp none entry inside
  obtain ⟨entry, rest, split⟩ := List.exists_cons_of_ne_nil nonempty
  have expired : ¬before entry := by
    have stopped := List.head_dropWhile_not before nonempty
    simpa [split] using stopped
  have all : ∀ frame ∈ (frames.takeWhile before).map Prod.fst, early startShift first.1 frame := by
    intro frame member
    obtain ⟨entry, inside, rfl⟩ := List.mem_map.mp member
    exact List.mem_takeWhile_imp (p := before) inside
  have head' : (frames.takeWhile before).head? = some first := by
    cases frames with
    | nil => simp at head
    | cons cell rest =>
        cases head
        simp [before, early_first positive]
  refine ⟨frames.takeWhile before, entry, ⟨rest, ?_⟩, head', all, ?_⟩
  · rw [List.append_assoc, List.singleton_append, ← split, List.takeWhile_append_dropWhile]
  · rw [List.map_append]
    exact sinceShift_concat (by simp [head']) all expired

/-- The list does what a positive start shift asks for exactly when the run
never gets past the shift and starts at a represented time. -/
theorem shiftKeptThroughout_iff (positive : 0 < startShift) (ordered : Ordered frames)
    (allocated : (appendAll startShift duration frames).isSome) :
    ShiftKeptThroughout startShift duration frames ↔
      HeldThroughout startShift (frames.map Prod.fst) := by
  constructor
  · intro kept frame member
    obtain ⟨first, head, rfl⟩ : ∃ first, frames.head? = some first ∧ first.1 = frame := by
      simpa using member
    obtain ⟨list, executed⟩ := Option.isSome_iff_exists.mp allocated
    have single : [first] <+: frames := by
      obtain ⟨rest, rfl⟩ := List.head?_eq_some_iff.mp head
      exact ⟨rest, rfl⟩
    obtain ⟨start, started⟩ := executed_prefix executed single
    have represented := represented_of_shiftKept positive started (kept _ single _ started)
    refine ⟨represented, ?_⟩
    by_contra late
    obtain ⟨taken, entry, initial, head', all, since⟩ := exists_late head positive late
    obtain ⟨after, executed'⟩ := executed_prefix executed initial
    have asked := kept _ initial _ executed'
    rw [appendAll_concat] at executed'
    obtain ⟨before, prior, applied⟩ := Option.bind_eq_some_iff.mp executed'
    simp only [ListOp.apply] at applied
    split at applied
    · rename_i fresh
      cases applied
      have nonempty := List.ne_nil_of_mem (List.mem_of_mem_head? head')
      obtain ⟨last, tail⟩ := Option.isSome_iff_exists.mp (List.getLast?_isSome.mpr nonempty)
      have orderly : Ordered taken := (List.pairwise_append.mp
        (List.Pairwise.sublist initial.sublist ordered)).1
      have held : HeldThroughout startShift (taken.map Prod.fst) := by
        intro frame member
        obtain rfl : first.1 = frame := by simpa [head'] using member
        exact ⟨represented, all⟩
      have rolling := preRolling_of_held positive orderly held prior head' tail
      rw [List.map_append] at since asked
      exact not_shiftKept_at_expiry positive rolling since fresh asked
    · cases applied
  · intro held taken initial list executed
    obtain ⟨rest, rfl⟩ := initial
    exact shiftKept_of_held positive (List.pairwise_append.mp ordered).1
      (held.of_prefix (by simp)) executed

end Runs

/-- A shift of a millisecond that no frame gets past. -/
theorem shiftKeptThroughout_iff_early :
    ShiftKeptThroughout 1000 0 [(.blank 0 0, 0), (.blank 1 500, 0)] ↔
      HeldThroughout 1000 [.blank 0 0, .blank 1 500] := by
  have ordered : Ordered [(.blank 0 0, 0), (.blank 1 500, 0)] := by
    simp only [Ordered, List.pairwise_pair]
    decide
  exact shiftKeptThroughout_iff (by decide) ordered (by decide)

/-- A frame from before the shift stays at the front of the recording. -/
theorem shift_keeps_preRoll_frame :
    ¬∀ startShift duration frames, 0 < startShift → Ordered frames →
      ShiftKeptThroughout startShift duration frames := by
  intro claim
  have ordered : Ordered [(.blank 0 0, 0), (.blank 1 2000, 1)] := by
    simp only [Ordered, List.pairwise_pair]
    decide
  obtain ⟨list, executed⟩ : ∃ list,
      appendAll 1000 0 [(.blank 0 0, 0), (.blank 1 2000, 1)] = some list := ⟨_, rfl⟩
  have kept := claim 1000 0 _ (by decide) ordered _ (List.prefix_refl _) list executed
  have since : sinceShift 1000 [.blank 0 0, .blank 1 2000] = [.blank 1 2000] := by decide
  have unlimited : ¬DurationPassed 0 (sinceShift 1000 [.blank 0 0, .blank 1 2000]) :=
    fun passed => passed.1 rfl
  obtain ⟨-, cells, shape, content⟩ := kept.after (by simp [since]) unlimited
  have len : (appendAll 1000 0 [(.blank 0 0, 0), (.blank 1 2000, 1)]).map FrameList.len = some 2 := by
    decide
  rw [executed, Option.map_some, Option.some.injEq] at len
  have two : cells.length = 2 := by
    rw [← shape.len, len]
    rfl
  have one : cells.length = 1 := by
    have same := congrArg List.length content
    change (framesOf cells).length =
      (sinceShift 1000 [KcFrame.blank 0 0, .blank 1 2000]).length at same
    rw [since, List.length_map] at same
    exact same
  omega

end KCamera
