import KCamera.Camera.Tuning
import KCamera.FrameList.Progress
import KCamera.FrameList.Shape
import Mathlib.Data.Rat.Floor

/-!
# Recording progress

`kcRecordProgress` compares the memory that is left and the time that has passed
with their limits, in `unsigned`, and returns the greater progress.
-/

namespace KCamera

open Heap Machine

/-! ## In exact integers -/

/-- How far the memory has gone down to the reserve, clamped to 0..100. -/
def exactMemoryProgress (memory reserve : Nat) : Nat :=
  (max 0 (min 100 (100 - ((memory : Int) - reserve) * 100 / reserve))).toNat

/-- How much of the duration has passed. -/
def exactDurationProgress (duration time : Nat) : Nat := min (time * 100 / duration) 100

/-- The greater of the two. -/
def exactProgress (memory reserve duration time : Nat) : Nat :=
  max (exactMemoryProgress memory reserve) (exactDurationProgress duration time)

/-- Below the reserve the memory is used up. -/
theorem exactMemoryProgress_of_lt {memory reserve : Nat} (below : memory < reserve) :
    exactMemoryProgress memory reserve = 100 := by
  have negative : ((memory : Int) - reserve) * 100 / reserve < 0 :=
    Int.ediv_neg_of_neg_of_pos (by omega) (by omega)
  unfold exactMemoryProgress
  omega

/-- Above the reserve the progress falls with the memory. -/
theorem exactMemoryProgress_of_le {memory reserve : Nat} (enough : reserve ≤ memory) :
    exactMemoryProgress memory reserve = 100 - (memory - reserve) * 100 / reserve := by
  obtain ⟨above, rfl⟩ := Nat.exists_eq_add_of_le enough
  have rest : ((reserve + above : Nat) : Int) - reserve = above := by omega
  have cast : (above : Int) * 100 / reserve = ((above * 100 / reserve : Nat) : Int) := by
    norm_cast
  rw [exactMemoryProgress, rest, cast, Nat.add_sub_cancel_left]
  generalize above * 100 / reserve = quotient
  omega

/-- More time is more progress. -/
theorem exactDurationProgress_mono (duration : Nat) {time time' : Nat} (later : time ≤ time') :
    exactDurationProgress duration time ≤ exactDurationProgress duration time' := by
  have order : time * 100 / duration ≤ time' * 100 / duration :=
    Nat.div_le_div_right (Nat.mul_le_mul_right _ later)
  unfold exactDurationProgress
  omega

/-- More time is more progress, with the memory as it is. -/
theorem exactProgress_mono (memory reserve duration : Nat) {time time' : Nat}
    (later : time ≤ time') :
    exactProgress memory reserve duration time ≤ exactProgress memory reserve duration time' :=
  max_le_max_left _ (exactDurationProgress_mono duration later)

/-- Below both limits the progress is below 100. -/
theorem exactProgress_lt {memory reserve duration time : Nat} (small : memory ≤ 100)
    (above : reserve < memory) (positive : 0 < reserve) (early : duration = 0 ∨ time < duration) :
    exactProgress memory reserve duration time < 100 := by
  have room : 1 ≤ (memory - reserve) * 100 / reserve := by
    rw [Nat.one_le_div_iff positive]
    omega
  have passed : exactDurationProgress duration time < 100 := by
    unfold exactDurationProgress
    rcases early with rfl | early
    · simp
    · have below : time * 100 / duration < 100 :=
        (Nat.div_lt_iff_lt_mul (by omega)).mpr (by rw [Nat.mul_comm]; omega)
      omega
  rw [exactProgress, exactMemoryProgress_of_le above.le]
  omega

/-! ## In unsigned -/

/-- `(memfree()-reserve)*100/reserve`, which wraps. -/
def spent (memory reserve : Nat) : Nat :=
  (((memory : Int) - reserve) * 100 % 2 ^ 32).toNat / reserve

/-- The source computes the memory's share in 32 bits. -/
theorem spent_eq (memory reserve : UInt32) :
    ((memory - reserve) * 100 / reserve).toNat = spent memory.toNat reserve.toNat := by
  have bound := memory.toNat_lt
  have bound' := reserve.toNat_lt
  have dividend : ((memory - reserve) * 100).toNat =
      (((memory.toNat : Int) - reserve.toNat) * 100 % 2 ^ 32).toNat := by
    rw [UInt32.toNat_mul, UInt32.toNat_sub]
    have hundred : (100 : UInt32).toNat = 100 := rfl
    rw [hundred]
    omega
  rw [UInt32.toNat_div, dividend, spent]

/-- `p0` after its clamps, of which only the upper one can apply. -/
theorem memoryProgress_toNat (memory reserve : UInt32) :
    (memoryProgress memory reserve).toNat =
      if spent memory.toNat reserve.toNat ≤ 100 then 100 - spent memory.toNat reserve.toNat
      else 100 := by
  have value := spent_eq memory reserve
  have bound := ((memory - reserve) * 100 / reserve).toNat_lt
  have hundred : (100 : UInt32).toNat = 100 := rfl
  have difference := UInt32.toNat_sub 100 ((memory - reserve) * 100 / reserve)
  rw [hundred, value] at difference
  rw [value] at bound
  rw [memoryProgress, UInt32.toNat_min, difference, hundred]
  split <;> omega

/-- `p1` after its clamp, where both `flistTime` and the product wrap. -/
theorem durationProgress_toNat (duration : UInt32) (first last : KcFrame) :
    (min (elapsed first last * 100 / duration) 100).toNat =
      min ((last.pts - first.pts).toNat * 100 % 2 ^ 32 / duration.toNat) 100 := by
  have hundred : (100 : UInt32).toNat = 100 := rfl
  rw [UInt32.toNat_min, UInt32.toNat_div, UInt32.toNat_mul, hundred, elapsed,
    UInt64.toNat_toUInt32, Nat.mod_mul_mod]

/-- What `kcRecordProgress` returns. -/
def wrappedProgress (memory reserve duration time : Nat) : Nat :=
  max (if spent memory reserve ≤ 100 then 100 - spent memory reserve else 100)
    (min (time * 100 % 2 ^ 32 / duration) 100)

/-! ## Where the two agree -/

/-- The wrapped product divided by the duration. -/
theorem wrapped_quotient {duration : Nat} (time : Nat) (positive : 0 < duration)
    (word : duration < 2 ^ 32) :
    time * 100 % 2 ^ 32 / duration ≤ time * 100 / duration ∧
      (2 ^ 32 ≤ time * 100 → time * 100 % 2 ^ 32 / duration < time * 100 / duration) ∧
      (100 ≤ time * 100 % 2 ^ 32 / duration ↔ duration * 100 ≤ time * 100 % 2 ^ 32) ∧
      (100 ≤ time * 100 / duration ↔ duration ≤ time) := by
  refine ⟨Nat.div_le_div_right (Nat.mod_le _ _), fun wraps => ?_, ?_, ?_⟩
  · have gap : time * 100 % 2 ^ 32 + duration ≤ time * 100 := by omega
    calc time * 100 % 2 ^ 32 / duration
        < time * 100 % 2 ^ 32 / duration + 1 := Nat.lt_succ_self _
      _ = (time * 100 % 2 ^ 32 + duration) / duration := (Nat.add_div_right _ positive).symm
      _ ≤ time * 100 / duration := Nat.div_le_div_right gap
  · rw [Nat.le_div_iff_mul_le positive, Nat.mul_comm 100]
  · rw [Nat.le_div_iff_mul_le positive]
    omega

/-- The progress of the duration wraps unless this holds. -/
theorem wrapped_duration_iff {duration time floor : Nat} (word : duration < 2 ^ 32) :
    max floor (min (time * 100 % 2 ^ 32 / duration) 100) =
        max floor (exactDurationProgress duration time) ↔
      duration = 0 ∨ time * 100 < 2 ^ 32 ∨ duration * 100 ≤ time * 100 % 2 ^ 32 ∨
        exactDurationProgress duration time ≤ floor := by
  unfold exactDurationProgress
  rcases Nat.eq_zero_or_pos duration with rfl | positive
  · simp
  · by_cases fits : time * 100 < 2 ^ 32
    · rw [Nat.mod_eq_of_lt fits]
      exact iff_of_true rfl (.inr (.inl fits))
    · obtain ⟨le, wraps, full, -⟩ := wrapped_quotient time positive word
      have less := wraps (by omega)
      rw [← full]
      omega

/-- When `kcRecordProgress` is the exact progress. -/
def ProgressFits (memory reserve duration time : Nat) : Prop :=
  if reserve ≤ memory then
    if (memory - reserve) * 100 < 101 * reserve then
      duration = 0 ∨ time * 100 < 2 ^ 32 ∨ duration * 100 ≤ time * 100 % 2 ^ 32 ∨
        exactDurationProgress duration time ≤ exactMemoryProgress memory reserve
    else 0 < duration ∧ duration ≤ time
  else
    ((memory : Int) - reserve) * 100 % 2 ^ 32 < reserve ∨
      101 * (reserve : Int) ≤ ((memory : Int) - reserve) * 100 % 2 ^ 32 ∨
        (0 < duration ∧ duration * 100 ≤ time * 100 % 2 ^ 32)

/-- A bound on the share is one on the wrapped product. -/
theorem spent_le_iff {reserve : Nat} (memory : Nat) (positive : 0 < reserve) (bound : Nat) :
    spent memory reserve ≤ bound ↔
      (((memory : Int) - reserve) * 100 % 2 ^ 32).toNat < (bound + 1) * reserve := by
  rw [spent, ← Nat.lt_succ_iff, Nat.div_lt_iff_lt_mul positive]

/-- The computed progress is exact exactly when it fits. -/
theorem wrappedProgress_eq_iff {memory reserve duration time : Nat} (percent : memory ≤ 100)
    (positive : 0 < reserve) (word : duration < 2 ^ 32) :
    wrappedProgress memory reserve duration time = exactProgress memory reserve duration time ↔
      ProgressFits memory reserve duration time := by
  have limit := spent_le_iff memory positive 100
  have zero := spent_le_iff memory positive 0
  unfold wrappedProgress exactProgress ProgressFits
  by_cases enough : reserve ≤ memory
  · rw [if_pos enough]
    have dividend : (((memory : Int) - reserve) * 100 % 2 ^ 32).toNat = (memory - reserve) * 100 := by
      omega
    have exact_spent : spent memory reserve = (memory - reserve) * 100 / reserve := by
      rw [spent, dividend]
    rw [dividend] at limit
    by_cases small : (memory - reserve) * 100 < 101 * reserve
    · have below : spent memory reserve ≤ 100 := limit.mpr small
      have same : exactMemoryProgress memory reserve = 100 - spent memory reserve := by
        rw [exactMemoryProgress_of_le enough, exact_spent]
      rw [if_pos small, if_pos below, ← same]
      exact wrapped_duration_iff word
    · have above : ¬spent memory reserve ≤ 100 := fun below => small (limit.mp below)
      have none : exactMemoryProgress memory reserve = 0 := by
        rw [exactMemoryProgress_of_le enough, ← exact_spent]
        omega
      rw [if_neg small, if_neg above, none]
      unfold exactDurationProgress
      rcases Nat.eq_zero_or_pos duration with rfl | long
      · simp
      · obtain ⟨-, -, -, passed⟩ := wrapped_quotient time long word
        rw [and_iff_right long, ← passed]
        omega
  · have full : exactMemoryProgress memory reserve = 100 :=
      exactMemoryProgress_of_lt (Nat.lt_of_not_le enough)
    rw [if_neg enough, full]
    -- The memory progress is 100 unless the wrapped quotient is from 1 to 100.
    have memoryFull : (if spent memory reserve ≤ 100 then 100 - spent memory reserve else 100) = 100 ↔
        ((memory : Int) - reserve) * 100 % 2 ^ 32 < reserve ∨
          101 * (reserve : Int) ≤ ((memory : Int) - reserve) * 100 % 2 ^ 32 := by
      by_cases below : spent memory reserve ≤ 100
      · rw [if_pos below]
        omega
      · rw [if_neg below]
        omega
    have capped : (if spent memory reserve ≤ 100 then 100 - spent memory reserve else 100) ≤ 100 := by
      split <;> omega
    rw [← or_assoc, ← memoryFull]
    generalize (if spent memory reserve ≤ 100 then 100 - spent memory reserve else 100) = p0 at capped
    unfold exactDurationProgress
    rcases Nat.eq_zero_or_pos duration with rfl | long
    · rw [Nat.div_zero, Nat.div_zero]
      omega
    · obtain ⟨-, -, reached, -⟩ := wrapped_quotient time long word
      rw [and_iff_right long, ← reached]
      omega

/-! ## kcRecordProgress -/

/-- The camera runs and `list` is the attached recording, with frames from `first`
to `last`. -/
structure RecordsNow (world : World) (list : ListId) (found : FrameList) (first last : KcFrame) :
    Prop where
  sound : world.fault = none
  running : world.g.run
  attached : world.g.record = some list
  live : world.lists list = some found
  ends : ∃ cells, Chained found cells ∧ (framesOf cells).head? = some first ∧
    (framesOf cells).getLast? = some last

section

variable {world : World} {list : ListId} {found : FrameList} {first last : KcFrame}
  {thread : Tid} {choice : Choice} {held : List Mutex}

/-- The record's time is from its first to its last frame. -/
theorem RecordsNow.time (records : RecordsNow world list found first last) :
    flistTime found = some (elapsed first last) := by
  obtain ⟨cells, shape, head, tail⟩ := records.ends
  obtain ⟨front, head', rfl⟩ := Option.map_eq_some_iff.mp (List.head?_map ▸ head)
  obtain ⟨back, tail', rfl⟩ := Option.map_eq_some_iff.mp (List.getLast?_map ▸ tail)
  exact flistTime_spec shape head' tail'

/-- The duration's share, with its product in 32 bits. -/
theorem RecordsNow.durationProgress (records : RecordsNow world list found first last) :
    ∃ progress, found.durationProgress = some progress ∧ progress.toNat =
      min ((last.pts - first.pts).toNat * 100 % 2 ^ 32 / found.duration.toNat) 100 := by
  by_cases limited : found.duration = 0
  · exact ⟨0, by simp [FrameList.durationProgress, limited], by simp [limited]⟩
  · refine ⟨_, ?_, durationProgress_toNat found.duration first last⟩
    simp [FrameList.durationProgress, limited, records.time]

/-- Undisturbed, `kcRecordProgress` returns the wrapped progress. -/
theorem kcRecordProgress_alone (records : RecordsNow world list found first last)
    (nonzero : world.g.currParams.memReserve ≠ 0) (free : Mutex.record list ∉ held) :
    ∃ progress, Code.kcRecordProgress.alone thread choice world held =
        some (world, held, progress) ∧
      progress.toNat = wrappedProgress choice.memfree.toNat world.g.currParams.memReserve.toNat
        found.duration.toNat (last.pts - first.pts).toNat := by
  obtain ⟨p1, reads, value⟩ := records.durationProgress
  refine ⟨max (memoryProgress choice.memfree world.g.currParams.memReserve) p1, ?_, ?_⟩
  · by_cases limited : found.duration = 0
    · have none : p1 = 0 := by simpa [FrameList.durationProgress, limited] using reads.symm
      simp [Code.kcRecordProgress, Code.perform, Code.acquire, Code.release,
        Prog.acquire, Op.exec, Op.run, records.sound, records.running, records.attached,
        records.live, nonzero, free, limited, none]
    · simp [Code.kcRecordProgress, Code.perform, Code.acquire, Code.release,
        Prog.acquire, Op.exec, Op.run, records.sound, records.running, records.attached,
        records.live, nonzero, free, limited, reads]
  · rw [UInt32.toNat_max, value, memoryProgress_toNat, wrappedProgress]

/-- What the progress of a recording has to be. -/
structure ProgressKept (memory reserve duration time progress : Nat) : Prop where
  value : progress = exactProgress memory reserve duration time
  /-- It stays below 100 as long as neither limit is reached. -/
  below : reserve < memory → duration = 0 ∨ time < duration → progress < 100
  /-- It was no greater before. -/
  ascends : ∀ time' ≤ time, exactProgress memory reserve duration time' ≤ progress

/-- The exact progress is what the progress of a recording has to be. -/
theorem progressKept_of_exact {memory reserve duration time : Nat} (percent : memory ≤ 100)
    (positive : 0 < reserve) :
    ProgressKept memory reserve duration time (exactProgress memory reserve duration time) :=
  ⟨rfl, fun above early => exactProgress_lt percent above positive early,
    fun _ earlier => exactProgress_mono memory reserve duration earlier⟩

/-- `kcRecordProgress` returns the exact progress exactly when it fits. -/
theorem progressKept_iff (records : RecordsNow world list found first last)
    (free : Mutex.record list ∉ held) (percent : choice.memfree.toNat ≤ 100)
    (nonzero : world.g.currParams.memReserve ≠ 0) :
    (∃ progress, Code.kcRecordProgress.alone thread choice world held =
        some (world, held, progress) ∧
      ProgressKept choice.memfree.toNat world.g.currParams.memReserve.toNat found.duration.toNat
        (last.pts - first.pts).toNat progress.toNat) ↔
      ProgressFits choice.memfree.toNat world.g.currParams.memReserve.toNat
        found.duration.toNat (last.pts - first.pts).toNat := by
  have positive : 0 < world.g.currParams.memReserve.toNat := by
    rw [Nat.pos_iff_ne_zero]
    exact fun zero => nonzero (UInt32.toNat_inj.mp zero)
  obtain ⟨progress, executed, value⟩ : ∃ progress,
      Code.kcRecordProgress.alone thread choice world held = some (world, held, progress) ∧ _ :=
    kcRecordProgress_alone records nonzero free
  rw [← wrappedProgress_eq_iff percent positive found.duration.toNat_lt]
  constructor
  · rintro ⟨progress', executed', kept⟩
    rw [executed, Option.some.injEq, Prod.mk.injEq, Prod.mk.injEq] at executed'
    obtain ⟨-, -, rfl⟩ := executed'
    rw [← value, kept.value]
  · intro same
    refine ⟨progress, executed, ?_⟩
    rw [value, same]
    exact progressKept_of_exact percent positive

end

/-- A world that records into one list, with a memory reserve of a tenth. -/
def recordingWorld (list : FrameList) : World :=
  { World.initial with
    g := { World.initial.g with
      run := true, record := some 0, currParams := { World.initial.g.currParams with memReserve := 10 } }
    lists := fun _ => some list }

/-- A recording of one frame. -/
def briefRecording : FrameList := (flistAppend (flistInit 0 1000) (.blank 0 0) (some 0)).list

/-- The example's recording has one frame. -/
theorem briefRecording_now :
    RecordsNow (recordingWorld briefRecording) 0 briefRecording (.blank 0 0) (.blank 0 0) where
  sound := rfl
  running := rfl
  attached := rfl
  live := rfl
  ends := by
    have spec := flistAppend_spec (.blank 0 0) (flistInit_anchored 0 1000).toChained (by decide)
      (by decide : Available (flistInit 0 1000) (.blank 0 0) 0)
    exact ⟨_, spec.shape.toChained, by decide, by decide⟩

/-- With a seventh of the memory left the progress is exact. -/
theorem progressKept_iff_brief : ∃ progress,
    Code.kcRecordProgress.alone (.python 0) { memfree := 15 } (recordingWorld briefRecording) [] =
        some (recordingWorld briefRecording, [], progress) ∧
      ProgressKept 15 10 1000 0 progress.toNat :=
  (progressKept_iff briefRecording_now (by decide) (by decide) (by decide)).mpr (by
    unfold ProgressFits
    decide)

/-- With all the memory left the progress of a recording is 100. -/
theorem progress_wraps_with_memory :
    ¬∀ world list found first last thread choice held, RecordsNow world list found first last →
      Mutex.record list ∉ held → choice.memfree.toNat ≤ 100 →
        world.g.currParams.memReserve ≠ 0 →
          ∃ progress, Code.kcRecordProgress.alone thread choice world held =
              some (world, held, progress) ∧
            ProgressKept choice.memfree.toNat world.g.currParams.memReserve.toNat
              found.duration.toNat (last.pts - first.pts).toNat progress.toNat := by
  intro claim
  obtain ⟨progress, executed, kept⟩ := claim (recordingWorld briefRecording) 0 briefRecording
    (.blank 0 0) (.blank 0 0) (.python 0) { memfree := 100 } [] briefRecording_now (by decide)
    (by decide) (by decide)
  obtain ⟨progress', executed', value⟩ : ∃ progress,
      Code.kcRecordProgress.alone (.python 0) { memfree := 100 } (recordingWorld briefRecording) [] =
        some (recordingWorld briefRecording, [], progress) ∧ _ :=
    kcRecordProgress_alone briefRecording_now (by decide) (by decide)
  rw [executed, Option.some.injEq, Prod.mk.injEq, Prod.mk.injEq] at executed'
  obtain ⟨-, -, rfl⟩ := executed'
  have below := kept.below (by decide) (.inr (by decide))
  rw [value] at below
  exact absurd below (by decide)

end KCamera
