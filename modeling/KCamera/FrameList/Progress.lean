import KCamera.FrameList.Basic
import Mathlib.Data.Rat.Defs

/-!
# Times and progress

What `streamer_time`, `streamer_progress` and `kcRecordProgress` compute from a
list. Seconds are taken exactly.
-/

namespace KCamera

/-- Microseconds as the seconds that Python sees. -/
def seconds (microseconds : Int) : ℚ := microseconds / 1000000

/-- `streamer_time` of a list; `recording` when it is the attached one. `none`
when it reads a node that is gone. -/
def FrameList.time (list : FrameList) (recording : Bool) : Option ℚ :=
  match list.front, list.back with
  | some front, some back => do
      let front ← list.nodes front
      if recording then
        if list.startShift > 0 ∧ list.recording = -1 then
          return seconds (front.data.pts.toInt64 - list.t0.toInt64 - list.startShift.toInt64).toInt
        else
          let back ← list.nodes back
          return seconds (back.data.pts - front.data.pts).toNat
      else
        match ← list.follow list.readNode with
        | none => return 0
        | some node =>
            let node ← list.nodes node
            return seconds (node.data.pts - front.data.pts).toNat
  | _, _ => some (seconds (-list.startShift).toInt)

/-- The play progress of `streamer_progress`, in `unsigned`. -/
def FrameList.playProgress (list : FrameList) : UInt32 :=
  if list.len ≠ 0 then 100 * list.readIndex / list.len else 0

/-- The part of `kcRecordProgress` based on free memory, in `unsigned`, where
nothing is below zero. -/
def memoryProgress (memfree reserve : UInt32) : UInt32 :=
  min (100 - (memfree - reserve) * 100 / reserve) 100

/-- The part of `kcRecordProgress` based on the duration; `none` when the list
has no frames. -/
def FrameList.durationProgress (list : FrameList) : Option UInt32 :=
  if list.duration ≠ 0 then
    (flistTime list).map fun time => min (time * 100 / list.duration) 100
  else some 0

end KCamera
