import Mathlib.Data.List.Nodup
import Mathlib.Data.List.Perm.Basic

/-!
# Pools

A fixed population of items that move between places. A pool is intact when
every item is in exactly one place; permutations of the population carry that
along the steps of a machine.
-/

namespace KCamera.Machine

variable {Item : Type}

/-- Every item of the population is in exactly one place, once, and the places
hold nothing else. -/
structure Distributed (population : List Item) (places : List (List Item)) : Prop where
  exactly_one : ∀ item ∈ population, ∃! place : Fin places.length, item ∈ places[place]
  once : ∀ place ∈ places, place.Nodup
  only : ∀ place ∈ places, ∀ item ∈ place, item ∈ population

/-- Places that hold a permutation of distinct items between them. -/
theorem distributed_of_perm {population : List Item} {places : List (List Item)}
    (distinct : population.Nodup) (same : places.flatten.Perm population) :
    Distributed population places := by
  obtain ⟨once, apart⟩ := List.nodup_flatten.mp (same.nodup_iff.mpr distinct)
  refine ⟨fun item member => ?_, once, fun place inside item member => ?_⟩
  · obtain ⟨place, inside, held⟩ := List.mem_flatten.mp (same.mem_iff.mpr member)
    obtain ⟨index, bound, rfl⟩ := List.mem_iff_getElem.mp inside
    refine ⟨⟨index, bound⟩, held, ?_⟩
    rintro ⟨other, limit⟩ held'
    by_contra different
    have unequal : other ≠ index := fun equal => different (Fin.ext equal)
    rcases Nat.lt_or_gt_of_ne unequal with before | after
    · exact List.pairwise_iff_getElem.mp apart other index limit bound before held' held
    · exact List.pairwise_iff_getElem.mp apart index other bound limit after held held'
  · exact same.mem_iff.mp (List.mem_flatten.mpr ⟨place, inside, member⟩)

/-- Every item is in some place. -/
theorem Distributed.held {population : List Item} {places : List (List Item)}
    (intact : Distributed population places) {item : Item} (member : item ∈ population) :
    item ∈ places.flatten := by
  obtain ⟨place, inside, -⟩ := intact.exactly_one item member
  exact List.mem_flatten.mpr ⟨_, List.getElem_mem place.isLt, inside⟩

/-- An item of an intact pool is in no second place. -/
theorem Distributed.apart {population : List Item} {places : List (List Item)}
    (intact : Distributed population places) {item : Item} {first second : Nat}
    (different : first ≠ second) {one other : List Item} (here : places[first]? = some one)
    (there : places[second]? = some other) (held : item ∈ one) : item ∉ other := by
  intro again
  obtain ⟨bound, rfl⟩ := List.getElem?_eq_some_iff.mp here
  obtain ⟨limit, rfl⟩ := List.getElem?_eq_some_iff.mp there
  have member := intact.only _ (List.getElem_mem bound) item held
  have same : (⟨first, bound⟩ : Fin places.length) = ⟨second, limit⟩ :=
    (intact.exactly_one item member).unique held again
  exact different (Fin.mk.inj same)

/-- Taking an item out of a list by its position. -/
theorem perm_eraseIdx {items : List Item} {index : Nat} {item : Item}
    (found : items[index]? = some item) : items.Perm (item :: items.eraseIdx index) := by
  obtain ⟨bound, rfl⟩ := List.getElem?_eq_some_iff.mp found
  exact (List.getElem_cons_eraseIdx_perm bound).symm

/-- Replacing a holder of items by another. -/
theorem flatMap_set_perm {Holder : Type} (held : Holder → List Item) {holders : List Holder}
    {index : Nat} {old : Holder} (new : Holder) (found : holders[index]? = some old) :
    (held old ++ (holders.set index new).flatMap held).Perm (held new ++ holders.flatMap held) := by
  induction holders generalizing index with
  | nil => simp at found
  | cons holder rest ih =>
      cases index with
      | zero =>
          cases found
          simp only [List.set_cons_zero, List.flatMap_cons]
          exact List.perm_append_comm_assoc ..
      | succ index =>
          simp only [List.set_cons_succ, List.flatMap_cons]
          have moved := (ih (by simpa using found)).append_left (held holder)
          exact (List.perm_append_comm_assoc ..).trans
            (moved.trans (List.perm_append_comm_assoc ..))

/-- An entry of a list after one of its entries was replaced. -/
theorem getElem?_of_set {items : List Item} {index other : Nat} {new item : Item}
    (found : (items.set index new)[other]? = some item) :
    (other = index ∧ item = new) ∨ (other ≠ index ∧ items[other]? = some item) := by
  rw [List.getElem?_set] at found
  split at found
  · rename_i same
    split at found
    · exact .inl ⟨same.symm, (Option.some.inj found).symm⟩
    · cases found
  · rename_i different
    exact .inr ⟨fun same => different same.symm, found⟩

/-- An entry of a list after one was added at its end. -/
theorem getElem?_of_concat {items : List Item} {other : Nat} {new item : Item}
    (found : (items ++ [new])[other]? = some item) :
    (other = items.length ∧ item = new) ∨ (other < items.length ∧ items[other]? = some item) := by
  rw [List.getElem?_append] at found
  split at found
  · rename_i bound
    exact .inr ⟨bound, found⟩
  · obtain ⟨bound, same⟩ := List.getElem?_eq_some_iff.mp found
    rw [List.length_singleton] at bound
    exact .inl ⟨by omega, List.mem_singleton.mp (same ▸ List.getElem_mem bound)⟩

end KCamera.Machine
