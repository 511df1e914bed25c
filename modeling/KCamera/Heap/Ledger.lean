import Mathlib.Data.List.Nodup

/-!
# Ledgers of blocks

Blocks are numbered as they are allocated. A ledger says which place has which
block and which blocks were freed. In a sound ledger no block is in two places and
none is freed twice or still in use when it is freed; a complete ledger has lost
none. The module names no program: the places are a parameter.
-/

namespace KCamera.Heap

/-- Where the allocated blocks are. -/
structure Ledger (Place : Type) where
  holds : Place → Nat → Prop
  /-- How many blocks were allocated. -/
  allocated : Nat
  /-- What was freed, in order. -/
  freed : List Nat

namespace Ledger

variable {Place : Type} {before after : Ledger Place} {gone : List Nat}

/-- Every block in use is in one place and not freed, and none is freed twice. -/
structure Sound (ledger : Ledger Place) : Prop where
  once : ∀ first second block, ledger.holds first block → ledger.holds second block → first = second
  live : ∀ place block, ledger.holds place block →
    block < ledger.allocated ∧ block ∉ ledger.freed
  distinct : ledger.freed.Nodup
  known : ∀ block ∈ ledger.freed, block < ledger.allocated

/-- Every allocated block is in use or was freed. -/
def Complete (ledger : Ledger Place) : Prop :=
  ∀ block < ledger.allocated, block ∈ ledger.freed ∨ ∃ place, ledger.holds place block

/-- `gone` is freed: blocks that were in use, each once, and that nobody has afterwards. -/
structure Frees (before after : Ledger Place) (gone : List Nat) : Prop where
  freed : after.freed = before.freed ++ gone
  distinct : gone.Nodup
  used : ∀ block ∈ gone, ∃ place, before.holds place block
  dropped : ∀ place block, after.holds place block → block ∉ gone

/-- Blocks stay, move to another place, or are new; none comes to be in two places. -/
structure Moves (before after : Ledger Place) : Prop where
  grows : before.allocated ≤ after.allocated
  origin : ∀ place block, after.holds place block →
    (∃ old, before.holds old block) ∨ before.allocated ≤ block ∧ block < after.allocated
  apart : ∀ first second block, after.holds first block → after.holds second block →
    first = second

/-- Nothing that was in use is forgotten, and everything new is in use. -/
structure Retains (before after : Ledger Place) (gone : List Nat) : Prop where
  kept : ∀ place block, before.holds place block →
    block ∈ gone ∨ ∃ new, after.holds new block
  made : ∀ block, before.allocated ≤ block → block < after.allocated →
    ∃ place, after.holds place block

/-- One ledger follows another: it is sound, and complete as well if nothing was lost. -/
structure Passes (before after : Ledger Place) (lossless : Prop) : Prop where
  sound : after.Sound
  complete : lossless → before.Complete → after.Complete

/-- A ledger stays sound when blocks move and some of those in use are freed. -/
theorem Sound.step (sound : before.Sound) (moves : before.Moves after)
    (frees : before.Frees after gone) : after.Sound where
  once := moves.apart
  live place block held := by
    have dropped := frees.dropped place block held
    rcases moves.origin place block held with ⟨old, was⟩ | ⟨fresh, bound⟩
    · obtain ⟨bound, unfreed⟩ := sound.live old block was
      refine ⟨Nat.lt_of_lt_of_le bound moves.grows, ?_⟩
      simp [frees.freed, unfreed, dropped]
    · refine ⟨bound, fun member => ?_⟩
      rw [frees.freed, List.mem_append] at member
      rcases member with old | now
      · exact Nat.not_lt.mpr fresh (sound.known block old)
      · exact dropped now
  distinct := by
    rw [frees.freed, List.nodup_append]
    refine ⟨sound.distinct, frees.distinct, ?_⟩
    rintro block old other now rfl
    obtain ⟨place, held⟩ := frees.used block now
    exact (sound.live place block held).2 old
  known block member := by
    rw [frees.freed, List.mem_append] at member
    rcases member with old | now
    · exact Nat.lt_of_lt_of_le (sound.known block old) moves.grows
    · obtain ⟨place, held⟩ := frees.used block now
      exact Nat.lt_of_lt_of_le (sound.live place block held).1 moves.grows

/-- A ledger stays complete when nothing is forgotten. -/
theorem Complete.step (complete : before.Complete) (frees : before.Frees after gone)
    (retains : before.Retains after gone) : after.Complete := by
  intro block bound
  by_cases old : block < before.allocated
  · rw [frees.freed]
    rcases complete block old with freed | ⟨place, held⟩
    · exact .inl (List.mem_append_left _ freed)
    · rcases retains.kept place block held with now | kept
      · exact .inl (List.mem_append_right _ now)
      · exact .inr kept
  · exact .inr (retains.made block (Nat.not_lt.mp old) bound)

namespace Passes

variable {middle : Ledger Place} {lossless : Prop}

/-- Blocks that move, and some that are freed, take one ledger to the next. -/
theorem of_moves (sound : before.Sound) (moves : before.Moves after)
    (frees : before.Frees after gone) (retains : lossless → before.Retains after gone) :
    before.Passes after lossless where
  sound := sound.step moves frees
  complete kept complete := complete.step frees (retains kept)

/-- Two steps of the ledger in a row. -/
theorem trans (first : before.Passes middle lossless) (second : middle.Passes after lossless) :
    before.Passes after lossless where
  sound := second.sound
  complete kept complete := second.complete kept (first.complete kept complete)

end Passes

/-! ## Kinds of steps -/

/-- Nothing is freed. -/
theorem Frees.none (same : after.freed = before.freed) : before.Frees after [] where
  freed := by rw [same, List.append_nil]
  distinct := List.nodup_nil
  used _ member := by cases member
  dropped _ _ _ member := by cases member

/-- Places lose blocks and get none. -/
theorem Moves.shrink (sound : before.Sound) (grows : before.allocated ≤ after.allocated)
    (within : ∀ place block, after.holds place block → before.holds place block) :
    before.Moves after where
  grows
  origin place block held := .inl ⟨place, within place block held⟩
  apart first second block held held' :=
    sound.once first second block (within _ _ held) (within _ _ held')

/-- What is freed had a place and has lost it. -/
theorem Frees.shrink (sound : before.Sound) (freed : after.freed = before.freed ++ gone)
    (distinct : gone.Nodup)
    (within : ∀ place block, after.holds place block → before.holds place block)
    (used : ∀ block ∈ gone, ∃ place, before.holds place block ∧ ¬after.holds place block) :
    before.Frees after gone where
  freed
  distinct
  used block member := by
    obtain ⟨place, held, _⟩ := used block member
    exact ⟨place, held⟩
  dropped place block held member := by
    obtain ⟨old, was, lost⟩ := used block member
    have same := sound.once old place block was (within place block held)
    exact lost (same ▸ held)

/-- What one place had is in another. -/
theorem Moves.transfer (sound : before.Sound) (grows : before.allocated ≤ after.allocated)
    (source target : Place)
    (within : ∀ place block, after.holds place block →
      place = target ∧ before.holds source block ∨
        place ≠ source ∧ before.holds place block) :
    before.Moves after where
  grows
  origin place block held := by
    rcases within place block held with ⟨_, was⟩ | ⟨_, was⟩
    · exact .inl ⟨source, was⟩
    · exact .inl ⟨place, was⟩
  apart first second block held held' := by
    rcases within first block held with ⟨rfl, was⟩ | ⟨other, was⟩ <;>
      rcases within second block held' with ⟨rfl, was'⟩ | ⟨other', was'⟩
    · rfl
    · exact absurd (sound.once _ _ block was' was) other'
    · exact absurd (sound.once _ _ block was was') other
    · exact sound.once _ _ block was was'

/-- While one place passes its block on, others may free theirs. -/
theorem Frees.transfer (sound : before.Sound) (freed : after.freed = before.freed ++ gone)
    (distinct : gone.Nodup) (source target : Place)
    (within : ∀ place block, after.holds place block →
      place = target ∧ before.holds source block ∨
        place ≠ source ∧ before.holds place block)
    (used : ∀ block ∈ gone, ∃ place, place ≠ source ∧ before.holds place block ∧
      (after.holds place block → place = target ∧ before.holds source block)) :
    before.Frees after gone where
  freed
  distinct
  used block member := by
    obtain ⟨place, _, held, _⟩ := used block member
    exact ⟨place, held⟩
  dropped place block held member := by
    obtain ⟨old, other, was, lost⟩ := used block member
    rcases within place block held with ⟨_, passed⟩ | ⟨_, stayed⟩
    · exact other (sound.once old source block was passed)
    · have same := sound.once place old block stayed was
      obtain ⟨_, passed⟩ := lost (same ▸ held)
      exact other (sound.once old source block was passed)

/-- New blocks come into places, each into one. -/
theorem Moves.make (sound : before.Sound) (fresh : Place → Nat → Prop)
    (grows : before.allocated ≤ after.allocated)
    (within : ∀ place block, after.holds place block →
      before.holds place block ∨ fresh place block)
    (new : ∀ place block, fresh place block →
      before.allocated ≤ block ∧ block < after.allocated)
    (apart : ∀ first second block, fresh first block → fresh second block → first = second) :
    before.Moves after where
  grows
  origin place block held := by
    rcases within place block held with was | made
    · exact .inl ⟨place, was⟩
    · exact .inr (new place block made)
  apart first second block held held' := by
    have old {place : Place} (was : before.holds place block) : block < before.allocated :=
      (sound.live place block was).1
    rcases within first block held with was | made <;>
      rcases within second block held' with was' | made'
    · exact sound.once _ _ block was was'
    · exact absurd (old was) (Nat.not_lt.mpr (new _ _ made').1)
    · exact absurd (old was') (Nat.not_lt.mpr (new _ _ made).1)
    · exact apart _ _ block made made'

/-- Everybody keeps what he has, and nothing is new. -/
theorem Retains.same (allocated : after.allocated ≤ before.allocated)
    (kept : ∀ place block, before.holds place block →
      block ∈ gone ∨ ∃ new, after.holds new block) : before.Retains after gone where
  kept
  made _ fresh bound := absurd (Nat.lt_of_lt_of_le bound allocated) (Nat.not_lt.mpr fresh)

end Ledger

end KCamera.Heap
