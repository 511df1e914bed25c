import KCamera.Heap.Segment
import Mathlib.Data.List.Chain

/-!
# What links lead to

A relation between the payloads of linked nodes survives every change of a store
that removes nodes or adds a last one, also where links are left dangling: it
speaks of the nodes that are live at both ends of a link.
-/

namespace KCamera.Heap

variable {Addr Payload : Type}

namespace Store

/-- Every payload has a property. -/
def All (property : Payload → Prop) (store : Store Addr Payload) : Prop :=
  ∀ addr node, store addr = some node → property node.data

/-- Every link leads from a payload to a related one. -/
def Linked (related : Payload → Payload → Prop) (store : Store Addr Payload) : Prop :=
  ∀ addr node next target, store addr = some node → node.next = some next →
    store next = some target → related node.data target.data

/-- A store has no node that the other has not. -/
def Within (part store : Store Addr Payload) : Prop :=
  ∀ addr node, part addr = some node → store addr = some node

variable {property : Payload → Prop} {related : Payload → Payload → Prop}
  {part store : Store Addr Payload}

/-- A store is part of itself. -/
theorem Within.refl (store : Store Addr Payload) : Within store store := fun _ _ => id

/-- A part of a part is a part. -/
theorem Within.trans {whole : Store Addr Payload} (first : Within part store)
    (second : Within store whole) : Within part whole :=
  fun addr node found => second addr node (first addr node found)

/-- What is live in a part is live in the whole. -/
theorem Within.live {addr : Addr} (within : Within part store) (live : part addr ≠ none) :
    store addr ≠ none := by
  obtain ⟨node, found⟩ := Option.ne_none_iff_exists'.mp live
  simp [within addr node found]

/-- What holds of all nodes holds of all in a part. -/
theorem All.within (all : store.All property) (within : Within part store) : part.All property :=
  fun addr node found => all addr node (within addr node found)

/-- What holds across links holds across those of a part. -/
theorem Linked.within (linked : store.Linked related) (within : Within part store) :
    part.Linked related := by
  intro addr node next target found link reached
  exact linked addr node next target (within _ _ found) link (within _ _ reached)

/-- What holds of all nodes may be weakened. -/
theorem All.mono {weaker : Payload → Prop} (all : store.All property)
    (implies : ∀ data, property data → weaker data) : store.All weaker :=
  fun addr node found => implies _ (all addr node found)

/-- An empty store has no node to hold for. -/
theorem all_empty : (empty : Store Addr Payload).All property := by
  intro addr node found
  cases found

/-- An empty store has no link to hold across. -/
theorem linked_empty : (empty : Store Addr Payload).Linked related := by
  intro addr node next target found
  cases found

variable [DecidableEq Addr]

/-- Freeing leaves a part. -/
theorem free_within (store : Store Addr Payload) (addr : Addr) : Within (store.free addr) store := by
  intro other node found
  by_cases same : other = addr
  · subst same
    simp at found
  · rwa [free_of_ne store same] at found

/-- A store with one more node has its nodes and that one. -/
theorem write_inv {addr other : Addr} {written node : Node Addr Payload}
    (found : store.write addr written other = some node) :
    other = addr ∧ node = written ∨ other ≠ addr ∧ store other = some node := by
  by_cases same : other = addr
  · subst same
    rw [write_self, Option.some.injEq] at found
    exact .inl ⟨rfl, found.symm⟩
  · rw [write_of_ne store written same] at found
    exact .inr ⟨same, found⟩

/-- Redirecting a link changes no payload and no other link. -/
theorem link_inv {addr other : Addr} {target : Option Addr} {node : Node Addr Payload}
    (found : store.link addr target other = some node) :
    ∃ before, store other = some before ∧ node.data = before.data ∧
      (node.next = before.next ∨ other = addr ∧ node.next = target) := by
  cases live : store addr with
  | none => exact ⟨node, by simpa [link, live] using found, rfl, .inl rfl⟩
  | some before =>
      simp only [link, live] at found
      rcases write_inv found with ⟨rfl, rfl⟩ | ⟨_, kept⟩
      · exact ⟨before, live, rfl, .inr ⟨rfl, rfl⟩⟩
      · exact ⟨node, kept, rfl, .inl rfl⟩

/-- A written node must have the property as well. -/
theorem All.write {addr : Addr} {node : Node Addr Payload} (all : store.All property)
    (fits : property node.data) : (store.write addr node).All property := by
  intro other found live
  rcases write_inv live with ⟨-, rfl⟩ | ⟨-, kept⟩
  · exact fits
  · exact all other found kept

/-- Links are not part of the payload. -/
theorem All.link {addr : Addr} {target : Option Addr} (all : store.All property) :
    (store.link addr target).All property := by
  intro other node found
  obtain ⟨before, live, data, -⟩ := link_inv found
  rw [data]
  exact all other before live

/-- A node without a link may come after all others. -/
theorem Linked.write {addr : Addr} {data : Payload} (linked : store.Linked related)
    (last : store.All (related · data)) : (store.write addr ⟨data, none⟩).Linked related := by
  intro other node next target found link reached
  rcases write_inv found with ⟨-, rfl⟩ | ⟨-, kept⟩
  · cases link
  · rcases write_inv reached with ⟨-, rfl⟩ | ⟨-, kept'⟩
    · exact last other node kept
    · exact linked other node next target kept link kept'

/-- Any node may be linked to one that may come after all. -/
theorem Linked.link {addr : Addr} {target : Addr} {node : Node Addr Payload}
    (linked : store.Linked related) (live : store target = some node)
    (last : store.All (related · node.data)) : (store.link addr (some target)).Linked related := by
  intro other source next reached found leads found'
  obtain ⟨before, live', data, turned⟩ := link_inv found
  obtain ⟨after, live'', data', -⟩ := link_inv found'
  rw [data, data']
  rcases turned with same | ⟨-, new⟩
  · exact linked other before next after live' (same ▸ leads) live''
  · rw [leads, Option.some.injEq] at new
    subst new
    rw [live, Option.some.injEq] at live''
    subst live''
    exact last other before live'

end Store

/-- Along a segment the payloads are related one by one. -/
theorem Segment.isChain {store : Store Addr Payload} {related : Payload → Payload → Prop}
    {start stop : Option Addr} {cells : List (Addr × Payload)}
    (linked : store.Linked related) (segment : Segment store start cells stop) :
    (cells.map Prod.snd).IsChain related := by
  induction segment with
  | nil => exact .nil
  | cons found rest ih =>
      rename_i addr data next cells stop
      cases cells with
      | nil => exact .singleton _
      | cons cell cells =>
          obtain ⟨other, payload⟩ := cell
          obtain ⟨rfl, next', found', -⟩ := rest.cons_inv
          exact .cons_cons (linked addr _ other _ found rfl found') ih

end KCamera.Heap
