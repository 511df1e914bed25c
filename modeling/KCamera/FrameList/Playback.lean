import KCamera.FrameList.Cursor
import KCamera.FrameList.Links
import KCamera.FrameList.Progress
import Mathlib.Data.Rat.Floor

/-!
# Playback of a recording

`Streamer.frame` reads a finished or loaded recording from its first frame on.
`streamer_time` takes the time of the node at the cursor and has none to take
once the cursor has passed the last one.
-/

namespace KCamera

open Heap

/-- The recording after `seek(0)` and `n` calls of `frame()`. -/
def playAt (list : FrameList) : Nat → Option FrameList
  | 0 => some (flistSeek list 0).1
  | n + 1 => (playAt list n).bind fun played => (flistNext played).map Prod.fst

/-- `Streamer.time()` after `n` frames have been read. -/
def timeAt (list : FrameList) (n : Nat) : Option ℚ :=
  (playAt list n).bind fun played => played.time false

/-- `Streamer.progress()` after `n` frames have been read. -/
def progressAt (list : FrameList) (n : Nat) : Option UInt32 :=
  (playAt list n).map FrameList.playProgress

/-- What playback asks of a recording of `frames`. -/
structure PlaysThrough (list : FrameList) (frames : List KcFrame) : Prop where
  defined : ∀ n, (timeAt list n).isSome ∧ (progressAt list n).isSome
  time_ascends : ∀ n, ∀ time ∈ timeAt list n, ∀ time' ∈ timeAt list (n + 1), time ≤ time'
  progress_ascends : ∀ n, ∀ progress ∈ progressAt list n, ∀ progress' ∈ progressAt list (n + 1),
    progress ≤ progress'
  progress_le : ∀ n, ∀ progress ∈ progressAt list n, progress ≤ 100
  complete : ∀ n, progressAt list n = some 100 ↔ frames ≠ [] ∧ frames.length ≤ n
  time_le : ∀ first ∈ frames.head?, ∀ last ∈ frames.getLast?, ∀ n, ∀ time ∈ timeAt list n,
    time ≤ seconds (last.pts.toNat - first.pts.toNat)
  total : ∀ first ∈ frames.head?, ∀ last ∈ frames.getLast?, ∀ n, frames.length ≤ n →
    timeAt list n = some (seconds (last.pts.toNat - first.pts.toNat))

/-! ## Positions -/

/-- A recording that differs from another in its cursor only, which is behind
`index` nodes. -/
structure PlayedTo (list : FrameList) (cells : List Cell) (index : Nat) (played : FrameList) :
    Prop where
  shape : Chained played cells
  cursor : CursorAt played cells index

section Positions

variable {list : FrameList} {cells : List Cell}

/-- A chain with cells is anchored at both ends. -/
theorem Chained.anchored (shape : Chained list cells) (nonempty : cells ≠ []) :
    Anchored list cells :=
  ⟨shape, fun empty => absurd empty nonempty, fun empty => absurd empty nonempty⟩

/-- Reading on stops behind the last frame. -/
theorem playAt_position (shape : Chained list cells) (nonempty : cells ≠ []) (n : Nat) :
    ∃ played, playAt list n = some played ∧ PlayedTo list cells (min n cells.length) played := by
  induction n with
  | zero =>
      have inside : (0 : UInt32).toNat < cells.length := List.length_pos_iff.mpr nonempty
      obtain ⟨readNode, readIndex, same, stops⟩ :=
        flistSeek_inside (shape.anchored nonempty) inside
      refine ⟨_, rfl, ⟨?_, by simpa using stops⟩⟩
      rw [same]
      exact shape.congr rfl rfl rfl rfl
  | succ n ih =>
      obtain ⟨played, before, shape', cursor⟩ := ih
      by_cases ended : cells.length ≤ n
      · rw [Nat.min_eq_right ended] at cursor
        have stays := flistNext_end (shape'.anchored nonempty) cursor
        refine ⟨played, by simp [playAt, before, stays], shape', ?_⟩
        rwa [Nat.min_eq_right (by omega)]
      · rw [Nat.min_eq_left (by omega)] at cursor
        have found : cells[n]? = some cells[n] := List.getElem?_eq_getElem (by omega)
        have moves := flistNext_some (shape'.anchored nonempty) cursor found
        have next : playAt list (n + 1) = some { played with
            readNode := .next cells[n].1, readIndex := played.readIndex + 1 } := by
          simp [playAt, before, moves]
        refine ⟨_, next, shape'.congr rfl rfl rfl rfl, ?_⟩
        rw [Nat.min_eq_left (by omega)]
        exact cursor.step shape' found

/-- The time at a position: that of the frame at the cursor, and 0 behind the
last one. -/
theorem time_of_position {first : Cell} {rest : List Cell} {index : Nat}
    (shape : Chained list (first :: rest)) (cursor : CursorAt list (first :: rest) index) :
    list.time false = some (((first :: rest)[index]?).elim 0 fun cell =>
      seconds (cell.2.pts - first.2.pts).toNat) := by
  obtain ⟨front, _, node, _⟩ := shape.front_node
  have back : ∃ last, list.back = some last := by
    rw [shape.back (by simp), List.getLast?_eq_some_getLast (by simp)]
    exact ⟨_, rfl⟩
  obtain ⟨last, back⟩ := back
  have follow := cursor.follow (shape.anchored (by simp))
  cases found : (first :: rest)[index]? with
  | none =>
      simp only [FrameList.time, front, back, node, follow, found]
      rfl
  | some cell =>
      have here := (shape.segment (by simp)).next_eq found
      simp only [FrameList.time, front, back, node, follow, found]
      simp [here]

/-- The progress at a position, where `100 * m_readIndex` is an `unsigned`. -/
theorem progress_of_position {index : Nat} (shape : Chained list cells) (nonempty : cells ≠ [])
    (cursor : CursorAt list cells index) :
    list.playProgress.toNat = 100 * index % 2 ^ 32 / cells.length := by
  have some : list.len ≠ 0 := fun zero => nonempty (shape.len_eq_zero_iff.mp zero)
  simp [FrameList.playProgress, some, shape.len, cursor.readIndex]

/-- `time()` at a frame is its time since the first, and 0 behind the last. -/
theorem timeAt_eq {first : Cell} {rest : List Cell} (shape : Chained list (first :: rest))
    (n : Nat) : timeAt list n = some (((first :: rest)[n]?).elim 0 fun cell =>
      seconds (cell.2.pts - first.2.pts).toNat) := by
  obtain ⟨played, reads, shape', cursor⟩ := playAt_position shape (by simp) n
  have same : (first :: rest)[min n (first :: rest).length]? = (first :: rest)[n]? := by
    by_cases inside : n ≤ (first :: rest).length
    · rw [Nat.min_eq_left inside]
    · rw [Nat.min_eq_right (by omega), List.getElem?_eq_none (Nat.le_refl _),
        List.getElem?_eq_none (by omega)]
  rw [timeAt, reads, Option.bind_some, time_of_position shape' cursor, same]

/-- `progress()` is the cursor's share of the length, in percent. -/
theorem progressAt_eq (shape : Chained list cells) (nonempty : cells ≠ []) (n : Nat) :
    ∃ progress, progressAt list n = some progress ∧
      progress.toNat = 100 * min n cells.length % 2 ^ 32 / cells.length := by
  obtain ⟨played, reads, shape', cursor⟩ := playAt_position shape nonempty n
  exact ⟨_, by rw [progressAt, reads, Option.map_some], progress_of_position shape' nonempty cursor⟩

/-! ## Through the recording -/

/-- No time is no seconds. -/
theorem seconds_zero : seconds 0 = 0 := by simp [seconds]

/-- Only no time is no seconds. -/
theorem seconds_eq_zero {microseconds : Int} (zero : seconds microseconds = 0) :
    microseconds = 0 := by
  simpa [seconds] using zero

/-- The frames of an ordered recording that ends at the time it starts with are
all of that time. -/
theorem pts_eq_of_ends {first : Cell} {rest : List Cell}
    (ordered : (framesOf (first :: rest)).Pairwise KcFrame.Before)
    {last : KcFrame} (tail : (framesOf (first :: rest)).getLast? = some last)
    (same : first.2.pts = last.pts) : ∀ cell ∈ first :: rest, cell.2.pts = first.2.pts := by
  intro cell member
  have inside : cell.2 ∈ framesOf (first :: rest) := List.mem_map_of_mem member
  have low : first.2.pts ≤ cell.2.pts := by
    rcases List.mem_cons.mp member with rfl | after
    · exact UInt64.le_refl _
    · exact (List.pairwise_cons.mp ordered).1 _ (List.mem_map_of_mem after)
  have high : cell.2.pts ≤ last.pts := by
    obtain ⟨earlier, split⟩ := List.getLast?_eq_some_iff.mp tail
    rw [split] at inside ordered
    rcases List.mem_append.mp inside with before | final
    · exact (List.pairwise_append.mp ordered).2.2 _ before last (by simp)
    · rw [List.mem_singleton.mp final]
      exact UInt64.le_refl _
  rw [same] at low ⊢
  exact UInt64.le_antisymm high low

/-- The recording was never given a frame: both the cursor and `m_front` are as
`flistInit` leaves them. -/
def NeverFilled (list : FrameList) : Prop := list.readNode = .front ∧ list.front = none

/-- Playing an empty list leaves it as it is. -/
theorem playAt_empty (shape : Chained list []) (empty : NeverFilled list) (n : Nat) :
    playAt list n = some list := by
  obtain ⟨readNode, front⟩ := empty
  induction n with
  | zero => rw [playAt, flistSeek_outside shape (Nat.zero_le _)]
  | succ n ih => simp [playAt, ih, flistNext, FrameList.follow, readNode, front]

/-- An empty list plays through at once. -/
theorem playsThrough_empty (shape : Chained list []) (empty : NeverFilled list) :
    PlaysThrough list [] := by
  have reads := playAt_empty shape empty
  have time : ∀ n, timeAt list n = some (seconds (-list.startShift).toInt) := by
    intro n
    simp [timeAt, reads, FrameList.time, empty.2]
  have progress : ∀ n, progressAt list n = some 0 := by
    intro n
    have none : list.len = 0 := shape.len_eq_zero_iff.mpr rfl
    simp [progressAt, reads, FrameList.playProgress, none]
  constructor
  · intro n
    simp [time, progress]
  · intro n now found later found'
    rw [time, Option.mem_some_iff] at found found'
    rw [← found, ← found']
  · intro n now found later found'
    rw [progress, Option.mem_some_iff] at found found'
    rw [← found, ← found']
    exact UInt32.le_refl _
  · intro n now found
    rw [progress, Option.mem_some_iff] at found
    rw [← found]
    decide
  · intro n
    simp [progress]
  · intro first head
    simp at head
  · intro first head
    simp at head

/-- A recording whose frames all have the time of the first one plays through as
long as the progress does not wrap. -/
theorem playsThrough_of_still {first : Cell} {rest : List Cell}
    (shape : Chained list (first :: rest))
    (still : ∀ cell ∈ first :: rest, cell.2.pts = first.2.pts)
    (short : 100 * (first :: rest).length < 2 ^ 32) :
    PlaysThrough list (framesOf (first :: rest)) := by
  have positive : 0 < (first :: rest).length := by simp
  have time : ∀ n, timeAt list n = some 0 := by
    intro n
    rw [timeAt_eq shape]
    cases found : (first :: rest)[n]? with
    | none => rfl
    | some cell => simp [still cell (List.mem_of_getElem? found), seconds_zero]
  have progress : ∀ n, ∃ progress, progressAt list n = some progress ∧
      progress.toNat = 100 * min n (first :: rest).length / (first :: rest).length := by
    intro n
    obtain ⟨progress, reads, value⟩ := progressAt_eq shape (by simp) n
    rw [Nat.mod_eq_of_lt (by omega)] at value
    exact ⟨progress, reads, value⟩
  have total : ∀ head ∈ (framesOf (first :: rest)).head?,
      ∀ last ∈ (framesOf (first :: rest)).getLast?,
        seconds (last.pts.toNat - head.pts.toNat) = 0 := by
    intro head found last found'
    obtain ⟨cell, member, rfl⟩ := List.mem_map.mp (List.mem_of_mem_getLast? found')
    obtain rfl : first.2 = head := by simpa using found
    rw [still cell member, sub_self, seconds_zero]
  constructor
  · intro n
    obtain ⟨_, reads, _⟩ := progress n
    simp [time, reads]
  · intro n now found later found'
    rw [time, Option.mem_some_iff] at found found'
    rw [← found, ← found']
  · intro n now found later found'
    obtain ⟨_, reads, value⟩ := progress n
    obtain ⟨_, reads', value'⟩ := progress (n + 1)
    rw [reads, Option.mem_some_iff] at found
    rw [reads', Option.mem_some_iff] at found'
    subst found found'
    rw [UInt32.le_iff_toNat_le, value, value']
    exact Nat.div_le_div_right (Nat.mul_le_mul_left _ (by omega))
  · intro n now found
    obtain ⟨_, reads, value⟩ := progress n
    rw [reads, Option.mem_some_iff] at found
    subst found
    rw [UInt32.le_iff_toNat_le, value]
    exact Nat.div_le_of_le_mul (by rw [Nat.mul_comm]; exact Nat.mul_le_mul_right _ (by omega))
  · intro n
    obtain ⟨now, reads, value⟩ := progress n
    rw [reads, Option.some.injEq, ← UInt32.toNat_inj, value, List.length_map]
    change 100 * min n (first :: rest).length / (first :: rest).length = 100 ↔ _
    have ceiling : 100 * min n (first :: rest).length / (first :: rest).length ≤ 100 :=
      Nat.div_le_of_le_mul (by rw [Nat.mul_comm]; exact Nat.mul_le_mul_right _ (by omega))
    have reached : 100 ≤ 100 * min n (first :: rest).length / (first :: rest).length ↔
        100 * (first :: rest).length ≤ 100 * min n (first :: rest).length :=
      Nat.le_div_iff_mul_le positive
    constructor
    · intro hundred
      exact ⟨by simp, by have least := reached.mp hundred.ge; omega⟩
    · rintro ⟨-, passed⟩
      exact Nat.le_antisymm ceiling (reached.mpr (by omega))
  · intro head found last found' n now reads
    rw [time, Option.mem_some_iff] at reads
    rw [total head found last found', ← reads]
  · intro head found last found' n _
    rw [total head found last found', time]

/-- A recording plays through exactly when it was never given a frame, or when
all its frames have one time and 100 times their number fits 32 bits. -/
theorem playsThrough_iff (shape : Chained list cells)
    (ordered : (framesOf cells).Pairwise KcFrame.Before) :
    PlaysThrough list (framesOf cells) ↔
      (cells = [] ∧ NeverFilled list) ∨
        (∃ first ∈ (framesOf cells).head?, ∃ last ∈ (framesOf cells).getLast?,
          first.pts = last.pts ∧ 100 * cells.length < 2 ^ 32) := by
  cases cells with
  | nil =>
      constructor
      · intro plays
        left
        refine ⟨rfl, ?_⟩
        have reads := (plays.defined 1).1
        have dead : ∀ node, list.nodes node = none := fun node => by
          by_contra live
          simpa using shape.only node live
        by_contra filled
        cases cursor : list.readNode with
        | front =>
            cases front : list.front with
            | none => exact filled ⟨cursor, front⟩
            | some node =>
                simp [timeAt, playAt, flistSeek_outside shape (Nat.zero_le _), flistNext,
                  FrameList.follow, cursor, front, dead] at reads
        | next node =>
            simp [timeAt, playAt, flistSeek_outside shape (Nat.zero_le _), flistNext,
              FrameList.follow, cursor, dead] at reads
      · rintro (⟨-, empty⟩ | ⟨first, head, -⟩)
        · exact playsThrough_empty shape empty
        · simp at head
  | cons first rest =>
      obtain ⟨last, tail⟩ : ∃ last, (framesOf (first :: rest)).getLast? = some last :=
        Option.isSome_iff_exists.mp (List.getLast?_isSome.mpr (by simp))
      constructor
      · intro plays
        refine .inr ⟨first.2, rfl, last, tail, ?_, ?_⟩
        · have final := plays.total first.2 rfl last tail (first :: rest).length (by simp)
          rw [timeAt_eq shape, List.getElem?_eq_none (Nat.le_refl _), Option.elim_none,
            Option.some.injEq] at final
          have zero := seconds_eq_zero final.symm
          exact UInt64.toNat_inj.mp (by omega)
        · have final := (plays.complete (first :: rest).length).mpr ⟨by simp, by simp⟩
          obtain ⟨progress, reads, value⟩ := progressAt_eq shape (by simp) (first :: rest).length
          rw [reads, Option.some.injEq] at final
          subst final
          have hundred : (100 : UInt32).toNat = 100 := rfl
          rw [hundred, Nat.min_self] at value
          have reached := (Nat.le_div_iff_mul_le (by simp)).mp value.le
          have wrapped : 100 * (first :: rest).length % 2 ^ 32 < 2 ^ 32 :=
            Nat.mod_lt _ (by decide)
          omega
      · rintro (⟨empty, -⟩ | ⟨head, found, last', tail', same, short⟩)
        · cases empty
        · obtain rfl : first.2 = head := by simpa using found
          exact playsThrough_of_still shape (pts_eq_of_ends ordered tail' same) short

end Positions

/-- A recording of one frame. -/
def oneFrame : FrameList := (flistAppend (flistInit 0 0) (.blank 0 0) (some 0)).list

/-- The list of a single frame is chained. -/
theorem oneFrame_chained : Chained oneFrame [(0, .blank 0 0)] :=
  (flistAppend_spec (.blank 0 0) (flistInit_anchored 0 0).toChained (by decide)
    (by decide)).shape.toChained

/-- Three frames of one time. -/
def stillCells : List Cell := [(4, .small 0 7), (2, .small 1 7), (9, .small 2 7)]

/-- Three frames of one time play through. -/
theorem playsThrough_iff_still : PlaysThrough (recordingOf stillCells) (framesOf stillCells) := by
  have plain := recordingOf_plain (show (stillCells.map Prod.fst).Nodup by decide)
  have ordered : (framesOf stillCells).Pairwise KcFrame.Before := by
    simp [stillCells, framesOf, KcFrame.Before, KcFrame.small]
  refine (playsThrough_iff plain.shape.toChained ordered).mpr ?_
  exact .inr ⟨.small 0 7, rfl, .small 2 7, rfl, by simp [KcFrame.small], by decide⟩

/-- The time of a recording of a second falls back to 0 behind its last frame. -/
theorem playback_time_lost_at_end :
    ¬∀ list cells, Chained list cells → (framesOf cells).Pairwise KcFrame.Before →
      PlaysThrough list (framesOf cells) := by
  intro claim
  have spec := flistAppend_spec (.blank 1 1000000) oneFrame_chained (by decide)
    (by decide : Available oneFrame (.blank 1 1000000) 1)
  have appended : appendedCells oneFrame [(0, .blank 0 0)] (.blank 1 1000000) 1 =
      [(0, .blank 0 0), (1, .blank 1 1000000)] := by decide
  have shape := spec.shape.toChained
  rw [appended] at shape
  have ordered : (framesOf [((0 : Addr), KcFrame.blank 0 0), (1, .blank 1 1000000)]).Pairwise
      KcFrame.Before := by
    simp only [framesOf, List.map_cons, List.map_nil, List.pairwise_pair, KcFrame.Before]
    decide
  have plays := claim _ _ shape ordered
  have total := plays.total (.blank 0 0) rfl (.blank 1 1000000) rfl 2 (by decide)
  have final := timeAt_eq shape 2
  rw [final] at total
  simp only [Option.some.injEq] at total
  exact absurd (seconds_eq_zero total.symm) (by decide)

end KCamera
