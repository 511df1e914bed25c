import KCamera.Machine.Text

/-!
# Which mutexes an operation has around it

A locking says which mutexes each operation needs its thread to hold. What an operation
needs may depend on what earlier operations of the thread were answered, which the
thread knows and its stage shows. `Guarded` checks a program against a locking, function
by function: what follows a function may count on what the thread knows behind it, and
on no mutex. What is guarded at the start stays guarded in every run.
-/

namespace KCamera.Machine

variable {World Stage Tid Choice Op : Type} {Resp : Op → Type} {Mutex Label Known : Type}

/-- The mutexes that operations need. At `start`, and behind every jump, a thread knows
nothing. -/
structure Locking (Known Op : Type) (Resp : Op → Type) (Mutex : Type) where
  start : Known
  learns : Known → (operation : Op) → Resp operation → Known
  needs : Known → List Mutex → Op → Prop
  more : ∀ {known held more operation}, held ⊆ more → needs known held operation →
    needs known more operation

/-- Who knows nothing may perform the operation without a mutex, and learns nothing from it. -/
def Locking.Free (locking : Locking Known Op Resp Mutex) (operation : Op) : Prop :=
  (∀ held, locking.needs locking.start held operation) ∧
    ∀ response, locking.learns locking.start operation response = locking.start

/-- Who has more has more still behind giving one mutex back. -/
theorem filter_subset_filter [DecidableEq Mutex] (mutex : Mutex) {held held' : List Mutex}
    (sub : held ⊆ held') : held.filter (· ≠ mutex) ⊆ held'.filter (· ≠ mutex) := by
  intro other member
  obtain ⟨old, different⟩ := List.mem_filter.mp member
  exact List.mem_filter.mpr ⟨sub old, different⟩

namespace Prog

variable [DecidableEq Mutex] (locking : Locking Known Op Resp Mutex) {α β : Type}

/-- A thread that knows `known` and has `held` has, at every operation of the program, the
mutexes that the operation needs, and knows in the end what `post` says. -/
@[simp] def Guarded (post : Known → Prop) :
    Known → List Mutex → Prog Op Resp Mutex Label α → Prop
  | known, held, op operation rest =>
      locking.needs known held operation ∧
        ∀ response, Guarded post (locking.learns known operation response) held (rest response)
  | known, held, lock mutex rest => Guarded post known (mutex :: held) rest
  | known, held, unlock mutex rest => Guarded post known (held.filter (· ≠ mutex)) rest
  | known, held, signal rest => Guarded post known held rest
  | known, held, await test _ _ rest =>
      locking.needs known held test ∧ (∀ response, locking.learns known test response = known) ∧
        Guarded post known held rest
  | known, held, asleep test _ mutex rest =>
      locking.needs known (mutex :: held) test ∧
        (∀ response, locking.learns known test response = known) ∧
        Guarded post known (mutex :: held) rest
  | known, _, done _ => post known
  | known, _, jump _ => known = locking.start

variable {locking} {post post' : Known → Prop}

/-- Holding more does no harm. -/
theorem Guarded.weaken {prog : Prog Op Resp Mutex Label α} {known : Known}
    {held held' : List Mutex} (guarded : prog.Guarded locking post known held)
    (sub : held ⊆ held') : prog.Guarded locking post known held' := by
  induction prog generalizing known held held' with
  | done _ | jump _ => exact guarded
  | op operation rest ih =>
      exact ⟨locking.more sub guarded.1, fun response => ih response (guarded.2 response) sub⟩
  | lock mutex rest ih => exact ih guarded (List.cons_subset_cons mutex sub)
  | unlock mutex rest ih => exact ih guarded (filter_subset_filter mutex sub)
  | signal rest ih => exact ih guarded sub
  | await test again mutex rest ih =>
      exact ⟨locking.more sub guarded.1, guarded.2.1, ih guarded.2.2 sub⟩
  | asleep test again mutex rest ih =>
      have sub' := List.cons_subset_cons mutex sub
      exact ⟨locking.more sub' guarded.1, guarded.2.1, ih guarded.2.2 sub'⟩

/-- What is known in the end may be forgotten. -/
theorem Guarded.forget {prog : Prog Op Resp Mutex Label α} {known : Known} {held : List Mutex}
    (guarded : prog.Guarded locking post known held) :
    prog.Guarded locking (fun _ => True) known held := by
  induction prog generalizing known held with
  | done _ => trivial
  | jump _ => exact guarded
  | op operation rest ih => exact ⟨guarded.1, fun response => ih response (guarded.2 response)⟩
  | lock mutex rest ih | unlock mutex rest ih | signal rest ih => exact ih guarded
  | await test again mutex rest ih | asleep test again mutex rest ih =>
      exact ⟨guarded.1, guarded.2.1, ih guarded.2.2⟩

/-- What follows a function takes its own mutexes. -/
theorem Guarded.bind {prog : Prog Op Resp Mutex Label α}
    {next : α → Prog Op Resp Mutex Label β} {known : Known} {held : List Mutex}
    (guarded : prog.Guarded locking post known held)
    (rest : ∀ value known, post known → (next value).Guarded locking post' known []) :
    (prog >>= next).Guarded locking post' known held := by
  induction prog generalizing known held with
  | done value => exact (rest value known guarded).weaken (List.nil_subset _)
  | jump label => exact guarded
  | op operation tail ih => exact ⟨guarded.1, fun response => ih response (guarded.2 response)⟩
  | lock mutex tail ih => exact ih guarded
  | unlock mutex tail ih => exact ih guarded
  | signal tail ih => exact ih guarded
  | await test again mutex tail ih => exact ⟨guarded.1, guarded.2.1, ih guarded.2.2⟩
  | asleep test again mutex tail ih => exact ⟨guarded.1, guarded.2.1, ih guarded.2.2⟩

/-- A program of free operations is guarded where nothing is known, and nothing is known
behind it. -/
theorem Every.guarded {prog : Prog Op Resp Mutex Label α} (every : prog.Every locking.Free)
    (held : List Mutex) : prog.Guarded locking (· = locking.start) locking.start held := by
  induction prog generalizing held with
  | done _ | jump _ => rfl
  | op operation tail ih =>
      refine ⟨every.1.1 held, fun response => ?_⟩
      rw [every.1.2 response]
      exact ih response (every.2 response) held
  | lock mutex tail ih | unlock mutex tail ih | signal tail ih => exact ih every _
  | await test again mutex tail ih | asleep test again mutex tail ih =>
      exact ⟨every.1.1 _, every.1.2, ih every.2 _⟩

/-- A branch keeps to the locking when each side does under its condition. -/
@[simp] theorem guarded_ite {condition : Prop} [Decidable condition] {known : Known}
    {held : List Mutex} {first second : Prog Op Resp Mutex Label α} :
    (if condition then first else second).Guarded locking post known held ↔
      (condition → first.Guarded locking post known held) ∧
        (¬condition → second.Guarded locking post known held) := by
  split <;> simp [*]

/-- The operation that comes next has what it needs. -/
theorem Guarded.current {prog : Prog Op Resp Mutex Label α} {known : Known} {held : List Mutex}
    {operation : Op} (guarded : prog.Guarded locking post known held)
    (current : prog.current = some operation) : locking.needs known held operation := by
  cases prog with
  | op _ _ | await _ _ _ _ =>
      cases current
      exact guarded.1
  | _ => cases current

end Prog

section Steps

variable [DecidableEq Tid] [DecidableEq Mutex]
  {semantics : Semantics World Stage Tid Choice Op Resp Mutex Label}
  {locking : Locking Known Op Resp Mutex} {view : Stage → Known}
  {state next : State World Stage Tid Op Resp Mutex Label} {event : Event Tid Choice}

open Function (update)

/-- The threads know what their stages show, and their programs are guarded. -/
def GuardedAll (locking : Locking Known Op Resp Mutex) (view : Stage → Known)
    (state : State World Stage Tid Op Resp Mutex Label) : Prop :=
  ∀ thread, (state.code thread).Guarded locking (fun _ => True) (view (state.stage thread))
    (state.held thread)

/-- Only one thread's code, stage and mutexes change. -/
theorem GuardedAll.moved (guarded : GuardedAll locking view state) (thread : Tid)
    (others : ∀ other, other ≠ thread → next.code other = state.code other ∧
      next.stage other = state.stage other ∧ next.held other = state.held other)
    (own : (next.code thread).Guarded locking (fun _ => True) (view (next.stage thread))
      (next.held thread)) :
    GuardedAll locking view next := by
  intro other
  by_cases same : other = thread
  · exact same ▸ own
  · obtain ⟨code, stage, held⟩ := others other same
    rw [code, stage, held]
    exact guarded other

/-- Giving a mutex back keeps the others. -/
theorem filter_subset_erase (held : List Mutex) (mutex : Mutex) :
    held.filter (· ≠ mutex) ⊆ held.erase mutex := by
  intro other member
  obtain ⟨old, different⟩ := List.mem_filter.mp member
  exact (List.mem_erase_of_ne (by simpa using different)).mpr old

/-- Every step keeps the programs guarded. -/
theorem GuardedAll.step
    (shows : ∀ stage operation response, view (semantics.after stage operation response) =
      locking.learns (view stage) operation response)
    (bodies : ∀ label, (semantics.body label).Guarded locking (fun _ => True) locking.start [])
    (guarded : GuardedAll locking view state) (taken : step semantics state event = some next) :
    GuardedAll locking view next := by
  cases event with
  | wake thread =>
      simp only [Machine.step, Option.ite_none_right_eq_some, Option.some.injEq] at taken
      obtain ⟨_, rfl⟩ := taken
      exact guarded
  | act thread choice woken =>
      have own := guarded thread
      cases code : state.code thread with
      | done _ => simp [Machine.step, code] at taken
      | op operation rest =>
          simp only [Machine.step, code, Option.map_eq_some_iff] at taken
          obtain ⟨⟨world, response⟩, _, rfl⟩ := taken
          rw [code] at own
          refine guarded.moved thread (fun other different => ?_) ?_
          · simp [goOn, performed, different]
          · simpa [goOn, performed, shows] using own.2 response
      | lock mutex rest =>
          simp only [Machine.step, code, Option.ite_none_right_eq_some, Option.some.injEq] at taken
          obtain ⟨_, rfl⟩ := taken
          rw [code] at own
          refine guarded.moved thread (fun other different => ?_) ?_
          · simp [goOn, take, different]
          · simpa [goOn, take] using own
      | unlock mutex rest =>
          simp only [Machine.step, code, Option.some.injEq] at taken
          subst taken
          rw [code] at own
          refine guarded.moved thread (fun other different => ?_) ?_
          · simp [goOn, give, different]
          · have given : rest.Guarded locking (fun _ => True) (view (state.stage thread))
                ((state.held thread).filter (· ≠ mutex)) := own
            simpa [goOn, give] using given.weaken (filter_subset_erase (state.held thread) mutex)
      | signal rest =>
          rw [code] at own
          have moved : ∀ sleeping, GuardedAll locking view
              (goOn { state with sleeping } thread rest) := by
            intro sleeping
            refine guarded.moved thread (fun other different => ?_) ?_
            · simp [goOn, different]
            · simpa [goOn] using own
          cases woken <;>
            simp only [Machine.step, code, Option.ite_none_right_eq_some, Option.some.injEq]
              at taken <;>
            obtain ⟨_, rfl⟩ := taken <;> exact moved _
      | await test again mutex rest =>
          simp only [Machine.step, code, Option.map_eq_some_iff] at taken
          obtain ⟨⟨world, response⟩, _, rfl⟩ := taken
          rw [code] at own
          obtain ⟨needs, still, tail⟩ := own
          -- the mutex is given back in sleep, and counted as held when it is awake again
          have back : state.held thread ⊆ mutex :: (state.held thread).erase mutex := by
            intro other member
            by_cases same : other = mutex
            · exact same ▸ List.mem_cons_self
            · exact List.mem_cons_of_mem _ ((List.mem_erase_of_ne same).mpr member)
          refine guarded.moved thread (fun other different => ?_) ?_
          · dsimp only
            split <;> simp [goOn, give, performed, different]
          · dsimp only
            split
            · simp only [goOn, give, performed, Function.update_self, shows, still]
              exact ⟨locking.more back needs, still, tail.weaken back⟩
            · simpa [goOn, performed, shows, still] using tail
      | asleep test again mutex rest =>
          simp only [Machine.step, code, Option.ite_none_right_eq_some, Option.some.injEq] at taken
          obtain ⟨_, rfl⟩ := taken
          rw [code] at own
          refine guarded.moved thread (fun other different => ?_) ?_
          · simp [goOn, take, different]
          · simpa [goOn, take] using own
      | jump label =>
          simp only [Machine.step, code, Option.some.injEq] at taken
          subst taken
          refine guarded.moved thread (fun other different => ?_) ?_
          · simp [goOn, different]
          · rw [code] at own
            have body := (bodies label).weaken (List.nil_subset (state.held thread))
            simpa [goOn, show view (state.stage thread) = locking.start from own] using body

end Steps

end KCamera.Machine
