import Mathlib.Data.List.Nodup
import Mathlib.Logic.Function.Basic

/-!
# Singly linked segments in a store

A `Store` maps addresses to live nodes; a freed address maps to `none`, so a
dangling pointer is one whose address has no node. `Segment` follows `next`
fields from a start pointer to an end pointer and lists every node it visits.
The module names no program: a list implementation supplies its address type
and payload.
-/

namespace KCamera.Heap

/-- A list node: a payload and a nullable link to its successor. -/
structure Node (Addr Payload : Type) where
  data : Payload
  next : Option Addr

/-- The live nodes. -/
abbrev Store (Addr Payload : Type) := Addr → Option (Node Addr Payload)

namespace Store

variable {Addr Payload : Type} [DecidableEq Addr]

/-- The store without any live node. -/
def empty : Store Addr Payload := fun _ => none

/-- Store `node` at `addr`. -/
def write (store : Store Addr Payload) (addr : Addr) (node : Node Addr Payload) :
    Store Addr Payload :=
  Function.update store addr (some node)

/-- Release the node at `addr`. -/
def free (store : Store Addr Payload) (addr : Addr) : Store Addr Payload :=
  Function.update store addr none

/-- Redirect the link of the node at `addr`, if that node is live. -/
def link (store : Store Addr Payload) (addr : Addr) (next : Option Addr) :
    Store Addr Payload :=
  match store addr with
  | some node => store.write addr { node with next := next }
  | none => store

/-- What was written is there. -/
@[simp] theorem write_self (store : Store Addr Payload) (addr : Addr)
    (node : Node Addr Payload) : store.write addr node addr = some node := by
  simp [write]

/-- What was freed is gone. -/
@[simp] theorem free_self (store : Store Addr Payload) (addr : Addr) :
    store.free addr addr = none := by
  simp [free]

/-- Writing leaves other addresses. -/
theorem write_of_ne (store : Store Addr Payload) {addr other : Addr}
    (node : Node Addr Payload) (different : other ≠ addr) :
    store.write addr node other = store other := by
  simp [write, different]

/-- Freeing leaves other addresses. -/
theorem free_of_ne (store : Store Addr Payload) {addr other : Addr}
    (different : other ≠ addr) : store.free addr other = store other := by
  simp [free, different]

/-- Linking leaves other addresses. -/
theorem link_of_ne (store : Store Addr Payload) {addr other : Addr} (next : Option Addr)
    (different : other ≠ addr) : store.link addr next other = store other := by
  cases found : store addr with
  | none => simp [link, found]
  | some node => simpa [link, found] using write_of_ne store _ different

/-- Linking keeps exactly the addresses that were live. -/
theorem link_eq_none_iff (store : Store Addr Payload) (addr other : Addr)
    (next : Option Addr) : store.link addr next other = none ↔ store other = none := by
  by_cases same : other = addr
  · subst same
    unfold link
    cases found : store other <;> simp [found]
  · rw [link_of_ne store next same]

end Store

/-- Following links from `start` visits the nodes `cells` (address and payload)
in order and stops at the pointer `stop`. -/
inductive Segment {Addr Payload : Type} (store : Store Addr Payload) :
    Option Addr → List (Addr × Payload) → Option Addr → Prop where
  | nil (pointer : Option Addr) : Segment store pointer [] pointer
  | cons {addr : Addr} {data : Payload} {next : Option Addr}
      {cells : List (Addr × Payload)} {stop : Option Addr}
      (found : store addr = some ⟨data, next⟩)
      (rest : Segment store next cells stop) :
      Segment store (some addr) ((addr, data) :: cells) stop

namespace Segment

variable {Addr Payload : Type} {store store' : Store Addr Payload}
  {start middle stop : Option Addr} {cells front back : List (Addr × Payload)}

/-- A segment without cells starts where it stops. -/
theorem nil_inv (segment : Segment store start [] stop) : start = stop := by
  cases segment
  rfl

/-- A segment with a first cell starts there and goes on at its link. -/
theorem cons_inv {addr : Addr} {data : Payload}
    (segment : Segment store start ((addr, data) :: cells) stop) :
    start = some addr ∧ ∃ next, store addr = some ⟨data, next⟩ ∧
      Segment store next cells stop := by
  cases segment with
  | cons found rest => exact ⟨rfl, _, found, rest⟩

/-- Two segments that meet are one. -/
theorem append (first : Segment store start front middle)
    (second : Segment store middle back stop) :
    Segment store start (front ++ back) stop := by
  induction first with
  | nil => simpa using second
  | cons found _ ih => exact .cons found (ih second)

/-- A segment can be cut anywhere. -/
theorem split (segment : Segment store start (front ++ back) stop) :
    ∃ middle, Segment store start front middle ∧ Segment store middle back stop := by
  induction front generalizing start with
  | nil => exact ⟨start, .nil start, segment⟩
  | cons head tail ih =>
      obtain ⟨addr, data⟩ := head
      obtain ⟨rfl, next, found, rest⟩ := segment.cons_inv
      obtain ⟨middle, left, right⟩ := ih rest
      exact ⟨middle, .cons found left, right⟩

/-- Every visited address holds a live node with the listed payload. -/
theorem live (segment : Segment store start cells stop) {addr : Addr} {data : Payload}
    (member : (addr, data) ∈ cells) : ∃ next, store addr = some ⟨data, next⟩ := by
  induction segment with
  | nil => simp at member
  | cons found _ ih =>
      rcases List.mem_cons.mp member with same | member
      · cases same
        exact ⟨_, found⟩
      · exact ih member

/-- A complete list starts at its first cell. -/
theorem start_eq (segment : Segment store start cells none) :
    start = cells[0]?.map Prod.fst := by
  cases segment <;> rfl

/-- In a complete list each node links to the cell after it. -/
theorem next_eq (segment : Segment store start cells none) {index : Nat} {cell : Addr × Payload}
    (found : cells[index]? = some cell) :
    store cell.1 = some ⟨cell.2, cells[index + 1]?.map Prod.fst⟩ := by
  induction cells generalizing start index with
  | nil => simp at found
  | cons head tail ih =>
      obtain ⟨addr, data⟩ := head
      obtain ⟨_, next, node, rest⟩ := segment.cons_inv
      cases index with
      | zero =>
          cases found
          rw [node, rest.start_eq]
          rfl
      | succ index => exact ih rest (by simpa using found)

/-- A segment depends only on the nodes it visits. -/
theorem congr (segment : Segment store start cells stop)
    (same : ∀ cell ∈ cells, store' cell.1 = store cell.1) :
    Segment store' start cells stop := by
  induction segment with
  | nil => exact .nil _
  | cons found _ ih =>
      have head := same _ List.mem_cons_self
      exact .cons (head.trans found) (ih fun cell member => same cell (List.mem_cons_of_mem _ member))

/-- Links are functional, so a complete list is determined by its start. -/
theorem unique {cells' : List (Addr × Payload)} (segment : Segment store start cells none)
    (other : Segment store start cells' none) : cells = cells' := by
  induction cells generalizing start cells' with
  | nil =>
      cases segment.nil_inv
      cases other
      rfl
  | cons head tail ih =>
      obtain ⟨addr, data⟩ := head
      obtain ⟨rfl, next, found, rest⟩ := segment.cons_inv
      cases other with
      | cons found' rest' =>
          rw [found] at found'
          cases found'
          rw [ih rest rest']

/-- A complete list visits no address twice: two visits of one address would
start two complete lists of different lengths at it. -/
theorem nodup (segment : Segment store start cells none) : (cells.map Prod.fst).Nodup := by
  induction cells generalizing start with
  | nil => simp
  | cons head tail ih =>
      obtain ⟨addr, data⟩ := head
      obtain ⟨rfl, next, found, rest⟩ := segment.cons_inv
      simp only [List.map_cons, List.nodup_cons]
      refine ⟨fun repeated => ?_, ih rest⟩
      obtain ⟨⟨addr', data'⟩, member, rfl⟩ := List.mem_map.mp repeated
      obtain ⟨before, after, rfl⟩ := List.append_of_mem member
      obtain ⟨middle, _, again⟩ := rest.split
      have whole : Segment store (some addr') ((addr', data) :: _) none := .cons found rest
      obtain ⟨rfl, _⟩ := again.cons_inv
      have lengths := congrArg List.length (again.unique whole)
      simp only [List.length_cons, List.length_append] at lengths
      omega

variable [DecidableEq Addr]

/-- Releasing an unvisited address keeps the segment. -/
theorem free_fresh {addr : Addr} (segment : Segment store start cells stop)
    (fresh : addr ∉ cells.map Prod.fst) : Segment (store.free addr) start cells stop :=
  segment.congr fun _ member => store.free_of_ne fun same =>
    fresh (same ▸ List.mem_map_of_mem member)

/-- Releasing the head of a complete list leaves its tail complete. -/
theorem free_head {addr : Addr} {data : Payload}
    (segment : Segment store start ((addr, data) :: cells) none) :
    ∃ next, store addr = some ⟨data, next⟩ ∧ Segment (store.free addr) next cells none := by
  have distinct := segment.nodup
  simp only [List.map_cons, List.nodup_cons] at distinct
  obtain ⟨_, next, found, rest⟩ := segment.cons_inv
  exact ⟨next, found, rest.free_fresh distinct.1⟩

/-- Redirecting the last node of a complete list to a fresh last node appends
that node. -/
theorem link_last {last addr : Addr} {lastData : Payload} (data : Payload)
    (segment : Segment store start (cells ++ [(last, lastData)]) none)
    (fresh : store addr = none) :
    Segment ((store.write addr ⟨data, none⟩).link last (some addr)) start
      (cells ++ [(last, lastData), (addr, data)]) none := by
  have distinct := segment.nodup
  obtain ⟨middle, left, right⟩ := segment.split
  obtain ⟨rfl, next, found, _⟩ := right.cons_inv
  have different : last ≠ addr := fun same => by rw [same, fresh] at found; cases found
  have unvisited : addr ∉ cells.map Prod.fst := fun visited => by
    obtain ⟨⟨addr', data'⟩, member, rfl⟩ := List.mem_map.mp visited
    obtain ⟨_, live⟩ := left.live member
    rw [fresh] at live
    cases live
  have lastUnvisited : last ∉ cells.map Prod.fst := by
    simp only [List.map_append, List.nodup_append] at distinct
    exact fun visited => distinct.2.2 last visited last (by simp) rfl
  have lastNode : (store.write addr ⟨data, none⟩) last = some ⟨lastData, next⟩ := by
    rw [store.write_of_ne _ different, found]
  have linked : ((store.write addr ⟨data, none⟩).link last (some addr)) last =
      some ⟨lastData, some addr⟩ := by
    simp [Store.link, lastNode]
  have added : ((store.write addr ⟨data, none⟩).link last (some addr)) addr =
      some ⟨data, none⟩ := by
    rw [Store.link_of_ne _ _ different.symm, Store.write_self]
  refine (left.congr fun cell member => ?_).append (.cons linked (.cons added (.nil none)))
  have visited : cell.1 ∈ cells.map Prod.fst := List.mem_map_of_mem member
  have notLast : cell.1 ≠ last := fun same => lastUnvisited (by rwa [same] at visited)
  have notAdded : cell.1 ≠ addr := fun same => unvisited (by rwa [same] at visited)
  rw [Store.link_of_ne _ _ notLast, store.write_of_ne _ notAdded]

end Segment

end KCamera.Heap
