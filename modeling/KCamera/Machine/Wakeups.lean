import KCamera.Machine.Discipline

/-!
# Wakeups

A thread that sleeps in a wait loop is to be woken when its test turns false.
`Prompt` checks that a program signals before it gives the mutex back after every
operation that owes a signal. One signal wakes one sleeper, so if at most one is
asleep wherever a signal is owed, nobody sleeps whose test is false once the mutex
is free.
-/

namespace KCamera.Machine

variable {World Stage Tid Choice Op : Type} {Resp : Op → Type} {Mutex Label : Type}

namespace Prog

variable {α β : Type} [DecidableEq Mutex]

/-- The program signals next, but for mutexes that it gives back before. -/
def signals (mutex : Mutex) : Prog Op Resp Mutex Label α → Bool
  | signal _ => true
  | unlock other rest => other ≠ mutex && rest.signals mutex
  | _ => false

/-- After an operation that owes a signal the program signals before it gives
`mutex` back; it waits with `mutex` and for `tests` only. -/
def Prompt (mutex : Mutex) (owes : (operation : Op) → Resp operation → Bool)
    (tests : (test : Op) → (Resp test → Bool) → Prop) : Prog Op Resp Mutex Label α → Prop
  | op operation rest =>
      ∀ response, (owes operation response → (rest response).signals mutex) ∧
        (rest response).Prompt mutex owes tests
  | lock _ rest | unlock _ rest | signal rest => rest.Prompt mutex owes tests
  | await test again other rest | asleep test again other rest =>
      other = mutex ∧ tests test again ∧ (∀ response, owes test response = false) ∧
        rest.Prompt mutex owes tests
  | done _ | jump _ => True

/-- A signal that comes before the mutex is given back is not lost by what follows. -/
theorem signals_bind {mutex : Mutex} {prog : Prog Op Resp Mutex Label α}
    (signals : prog.signals mutex) (next : α → Prog Op Resp Mutex Label β) :
    (prog >>= next).signals mutex := by
  induction prog with
  | signal rest _ => rfl
  | unlock other rest ih =>
      simp only [Prog.signals, Bool.and_eq_true] at signals
      simpa only [unlock_bind, Prog.signals, Bool.and_eq_true] using ⟨signals.1, ih signals.2⟩
  | _ => cases signals

/-- A prompt program goes on as prompt ones. -/
theorem Prompt.bind {mutex : Mutex} {owes : (operation : Op) → Resp operation → Bool}
    {tests : (test : Op) → (Resp test → Bool) → Prop} {prog : Prog Op Resp Mutex Label α}
    {next : α → Prog Op Resp Mutex Label β} (prompt : prog.Prompt mutex owes tests)
    (rest : ∀ value, (next value).Prompt mutex owes tests) :
    (prog >>= next).Prompt mutex owes tests := by
  induction prog with
  | done value => exact rest value
  | jump label => trivial
  | op operation tail ih =>
      intro response
      exact ⟨fun owed => signals_bind ((prompt response).1 owed) next, ih response (prompt response).2⟩
  | lock other tail ih => exact ih prompt
  | unlock other tail ih => exact ih prompt
  | signal tail ih => exact ih prompt
  | await test again other tail ih =>
      obtain ⟨same, tested, free, tail⟩ := prompt
      exact ⟨same, tested, free, ih tail⟩
  | asleep test again other tail ih =>
      obtain ⟨same, tested, free, tail⟩ := prompt
      exact ⟨same, tested, free, ih tail⟩

end Prog

section Runs

variable [DecidableEq Tid] [DecidableEq Mutex]
  {semantics : Semantics World Stage Tid Choice Op Resp Mutex Label}
  {discipline : Discipline Stage Tid Op Mutex Label} {mutex : Mutex}
  {owes : (operation : Op) → Resp operation → Bool}
  {tests : (test : Op) → (Resp test → Bool) → Prop}
  (waits : World → Op → Prop)

/-- Every sleeper is asleep with a test that still holds. -/
def Calm (state : State World Stage Tid Op Resp Mutex Label) : Prop :=
  ∀ thread ∈ state.sleeping, ∃ test again other rest,
    state.code thread = .asleep test again other rest ∧ waits state.world test

/-- The one sleeper is about to be woken by the thread that has the mutex. -/
def Pending (mutex : Mutex) (state : State World Stage Tid Op Resp Mutex Label) : Prop :=
  state.sleeping.length ≤ 1 ∧ ∃ holder, mutex ∈ state.held holder ∧
    (state.code holder).signals mutex

/-- What an operation has to do about sleepers: keep their tests, or owe a signal
while at most one is asleep. -/
def Attends (mutex : Mutex) (owes : (operation : Op) → Resp operation → Bool)
    (state : State World Stage Tid Op Resp Mutex Label) (thread : Tid) (operation : Op)
    (world : World) (response : Resp operation) : Prop :=
  (∀ sleeper ∈ state.sleeping, sleeper ≠ thread → ∀ test again other rest,
      state.code sleeper = .asleep test again other rest →
      waits state.world test → waits world test) ∨
    owes operation response ∧ mutex ∈ state.held thread ∧ state.sleeping.length ≤ 1

variable {waits} {state next : State World Stage Tid Op Resp Mutex Label}
  {event : Event Tid Choice}

omit [DecidableEq Tid] in
/-- Once the mutex is free every sleeper waits for what it sleeps for. -/
theorem calm_of_free (attended : Calm waits state ∨ Pending mutex state) (locked : Locked state)
    (free : state.owner mutex = none) : Calm waits state := by
  rcases attended with calm | ⟨_, holder, held, _⟩
  · exact calm
  · rw [(locked.owner mutex holder).mpr held] at free
    cases free

/-- Programs stay prompt. -/
theorem prompt_step
    (bodies : ∀ label, (semantics.body label).Prompt mutex owes tests)
    (prompt : ∀ thread, (state.code thread).Prompt mutex owes tests)
    (taken : step semantics state event = some next) (thread : Tid) :
    (next.code thread).Prompt mutex owes tests := by
  have goes_on {middle : State World Stage Tid Op Resp Mutex Label} (code : middle.code = state.code)
      (mover : Tid) {rest : Prog Op Resp Mutex Label Unit} (tail : rest.Prompt mutex owes tests) :
      ((goOn middle mover rest).code thread).Prompt mutex owes tests := by
    by_cases same : thread = mover
    · simpa [goOn, same] using tail
    · simpa [goOn, same, code] using prompt thread
  cases event with
  | wake other =>
      simp only [step, Option.ite_none_right_eq_some, Option.some.injEq] at taken
      obtain ⟨_, rfl⟩ := taken
      exact prompt thread
  | act mover choice woken =>
      have own := prompt mover
      cases code : state.code mover with
      | done _ => simp [step, code] at taken
      | op operation rest =>
          simp only [step, code, Option.map_eq_some_iff] at taken
          obtain ⟨⟨world, response⟩, _, rfl⟩ := taken
          rw [code] at own
          exact goes_on rfl mover (own response).2
      | lock other rest =>
          simp only [step, code, Option.ite_none_right_eq_some, Option.some.injEq] at taken
          obtain ⟨_, rfl⟩ := taken
          rw [code] at own
          exact goes_on rfl mover own
      | unlock other rest =>
          simp only [step, code, Option.some.injEq] at taken
          subst taken
          rw [code] at own
          exact goes_on rfl mover own
      | signal rest =>
          rw [code] at own
          cases woken <;>
            simp only [step, code, Option.ite_none_right_eq_some, Option.some.injEq] at taken <;>
            obtain ⟨_, rfl⟩ := taken <;> exact goes_on rfl mover own
      | await test again other rest =>
          simp only [step, code, Option.map_eq_some_iff] at taken
          obtain ⟨⟨world, response⟩, _, rfl⟩ := taken
          rw [code] at own
          dsimp only
          split
          · exact goes_on rfl mover own
          · exact goes_on rfl mover own.2.2.2
      | asleep test again other rest =>
          simp only [step, code, Option.ite_none_right_eq_some, Option.some.injEq] at taken
          obtain ⟨_, rfl⟩ := taken
          rw [code] at own
          exact goes_on rfl mover own
      | jump label =>
          simp only [step, code, Option.some.injEq] at taken
          subst taken
          exact goes_on rfl mover (bodies label)

omit [DecidableEq Tid] [DecidableEq Mutex] in
/-- A thread whose code is that of a thread awake is awake. -/
theorem Calm.awake (thread : Tid) (calm : Calm waits state)
    (awake : ∀ test again other rest, state.code thread ≠ .asleep test again other rest) :
    thread ∉ state.sleeping := by
  intro member
  obtain ⟨test, again, other, rest, asleep, _⟩ := calm thread member
  exact awake test again other rest asleep

omit [DecidableEq Tid] [DecidableEq Mutex] in
/-- Who moves is awake, and the others' tests hold as before. -/
theorem Calm.kept (mover : Tid) (calm : Calm waits state) (awake : mover ∉ state.sleeping)
    (code : ∀ thread, thread ≠ mover → next.code thread = state.code thread)
    (sleeping : next.sleeping ⊆ state.sleeping)
    (world : ∀ sleeper ∈ state.sleeping, sleeper ≠ mover → ∀ test again other rest,
      state.code sleeper = .asleep test again other rest →
      waits state.world test → waits next.world test) :
    Calm waits next := by
  intro thread member
  obtain ⟨test, again, other, rest, asleep, waiting⟩ := calm thread (sleeping member)
  have different : thread ≠ mover := by
    rintro rfl
    exact awake (sleeping member)
  exact ⟨test, again, other, rest, (code thread different).trans asleep,
    world thread (sleeping member) different test again other rest asleep waiting⟩

omit [DecidableEq Tid] in
/-- Nobody but the holder can keep the sleeper from being woken. -/
theorem Pending.kept {holder : Tid} (few : state.sleeping.length ≤ 1)
    (held : mutex ∈ state.held holder) (signals : (state.code holder).signals mutex)
    (code : next.code holder = state.code holder) (mutexes : next.held holder = state.held holder)
    (sleeping : next.sleeping.length ≤ state.sleeping.length) : Pending mutex next :=
  ⟨Nat.le_trans sleeping few, holder, mutexes ▸ held, code ▸ signals⟩

/-- A step from a state where every sleeper waits for what it sleeps for. -/
theorem Calm.step (calm : Calm waits state)
    (prompt : ∀ thread, (state.code thread).Prompt mutex owes tests)
    (sleeps : ∀ thread test (again : Resp test → Bool) choice world response, tests test again →
      semantics.exec thread test choice state.world = some (world, response) → again response →
      waits world test)
    (attends : ∀ thread choice woken operation world response, event = .act thread choice woken →
      (state.code thread).current = some operation →
      semantics.exec thread operation choice state.world = some (world, response) →
      Attends waits mutex owes state thread operation world response)
    (taken : step semantics state event = some next) :
    Calm waits next ∨ Pending mutex next := by
  cases event with
  | wake thread =>
      simp only [Machine.step, Option.ite_none_right_eq_some, Option.some.injEq] at taken
      obtain ⟨_, rfl⟩ := taken
      exact .inl fun other member => calm other (List.mem_of_mem_erase member)
  | act mover choice woken =>
      have own := prompt mover
      cases code : state.code mover with
      | done _ => simp [Machine.step, code] at taken
      | op operation rest =>
          simp only [Machine.step, code, Option.map_eq_some_iff] at taken
          obtain ⟨⟨world, response⟩, performs, rfl⟩ := taken
          rw [code] at own
          rcases attends mover choice woken operation world response rfl (by rw [code]; rfl)
            performs with kept | ⟨owed, held, few⟩
          · refine .inl (calm.kept mover (calm.awake mover (by simp [code])) ?_ (List.Subset.refl _) kept)
            intro thread different
            simp [goOn, performed, different]
          · refine .inr ⟨few, mover, held, ?_⟩
            simpa [goOn, performed] using (own response).1 owed
      | lock other rest =>
          simp only [Machine.step, code, Option.ite_none_right_eq_some, Option.some.injEq] at taken
          obtain ⟨_, rfl⟩ := taken
          refine .inl (calm.kept mover (calm.awake mover (by simp [code])) ?_ (List.Subset.refl _)
            fun _ _ _ _ _ _ _ _ waiting => waiting)
          intro thread different
          simp [goOn, take, different]
      | unlock other rest =>
          simp only [Machine.step, code, Option.some.injEq] at taken
          subst taken
          refine .inl (calm.kept mover (calm.awake mover (by simp [code])) ?_ (List.Subset.refl _)
            fun _ _ _ _ _ _ _ _ waiting => waiting)
          intro thread different
          simp [goOn, give, different]
      | signal rest =>
          have moved : ∀ sleeping, sleeping ⊆ state.sleeping →
              Calm waits (goOn { state with sleeping } mover rest) := by
            intro sleeping fewer
            refine calm.kept mover (calm.awake mover (by simp [code])) ?_ fewer fun _ _ _ _ _ _ _ _ waiting => waiting
            intro thread different
            simp [goOn, different]
          cases woken <;>
            simp only [Machine.step, code, Option.ite_none_right_eq_some, Option.some.injEq]
              at taken <;>
            obtain ⟨_, rfl⟩ := taken
          · exact .inl (moved _ (List.Subset.refl _))
          · exact .inl (moved _ List.erase_subset)
      | await test again other rest =>
          simp only [Machine.step, code, Option.map_eq_some_iff] at taken
          obtain ⟨⟨world, response⟩, performs, rfl⟩ := taken
          rw [code] at own
          obtain ⟨_, tested, free, _⟩ := own
          have kept : ∀ sleeper ∈ state.sleeping, sleeper ≠ mover → ∀ test again other rest,
              state.code sleeper = .asleep test again other rest →
              waits state.world test → waits world test := by
            rcases attends mover choice woken test world response rfl (by rw [code]; rfl)
              performs with kept | ⟨owed, _⟩
            · exact kept
            · simp [free response] at owed
          have others : Calm waits (goOn (performed semantics state mover test world response) mover
              rest) := by
            refine calm.kept mover (calm.awake mover (by simp [code])) ?_ (List.Subset.refl _) kept
            intro thread different
            simp [goOn, performed, different]
          by_cases again' : again response
          · simp only [again', if_true]
            refine .inl fun thread member => ?_
            rcases List.mem_cons.mp member with rfl | member
            · exact ⟨test, again, other, rest, by simp [goOn],
                sleeps thread test again choice world response tested performs again'⟩
            · have awake := calm.awake mover (by simp [code])
              have different : thread ≠ mover := fun same => awake (same ▸ member)
              obtain ⟨test', again'', other', rest', asleep, waiting⟩ := others thread member
              refine ⟨test', again'', other', rest', ?_, waiting⟩
              simpa [goOn, give, performed, different] using asleep
          · simp only [again']
            exact .inl others
      | asleep test again other rest =>
          simp only [Machine.step, code, Option.ite_none_right_eq_some, Option.some.injEq] at taken
          obtain ⟨⟨woken, _⟩, rfl⟩ := taken
          refine .inl (calm.kept mover woken ?_ (List.Subset.refl _)
            fun _ _ _ _ _ _ _ _ waiting => waiting)
          intro thread different
          simp [goOn, take, different]
      | jump label =>
          simp only [Machine.step, code, Option.some.injEq] at taken
          subst taken
          refine .inl (calm.kept mover (calm.awake mover (by simp [code])) ?_ (List.Subset.refl _)
            fun _ _ _ _ _ _ _ _ waiting => waiting)
          intro thread different
          simp [goOn, different]

/-- A step while the one sleeper is about to be woken. -/
theorem Pending.step (pending : Pending mutex state)
    (disciplined : Disciplined semantics discipline state)
    (prompt : ∀ thread, (state.code thread).Prompt mutex owes tests)
    (taken : step semantics state event = some next) :
    Calm waits next ∨ Pending mutex next := by
  obtain ⟨few, holder, held, signals⟩ := pending
  cases event with
  | wake thread =>
      simp only [Machine.step, Option.ite_none_right_eq_some, Option.some.injEq] at taken
      obtain ⟨_, rfl⟩ := taken
      exact .inr (.kept few held signals rfl rfl List.length_erase_le)
  | act mover choice woken =>
      by_cases same : holder = mover
      · subst same
        cases code : state.code holder with
        | signal rest =>
            refine .inl fun thread member => ?_
            cases woken with
            | none =>
                simp only [Machine.step, code, Option.ite_none_right_eq_some,
                  Option.some.injEq] at taken
                obtain ⟨empty, rfl⟩ := taken
                simp [goOn, List.isEmpty_iff.mp empty] at member
            | some sleeper =>
                simp only [Machine.step, code, Option.ite_none_right_eq_some,
                  Option.some.injEq] at taken
                obtain ⟨sleeping, rfl⟩ := taken
                have none : (state.sleeping.erase sleeper).length = 0 := by
                  rw [List.length_erase_of_mem sleeping]
                  omega
                simp [goOn, List.length_eq_zero_iff.mp none] at member
        | unlock other rest =>
            simp only [Machine.step, code, Option.some.injEq] at taken
            subst taken
            rw [code] at signals
            simp only [Prog.signals, Bool.and_eq_true, decide_eq_true_eq] at signals
            refine .inr ⟨few, holder, ?_, by simpa [goOn] using signals.2⟩
            simpa [goOn, give] using (List.mem_erase_of_ne signals.1.symm).mpr held
        | _ =>
            rw [code] at signals
            cases signals
      · cases code : state.code mover with
        | done _ => simp [Machine.step, code] at taken
        | op operation rest =>
            simp only [Machine.step, code, Option.map_eq_some_iff] at taken
            obtain ⟨⟨world, response⟩, _, rfl⟩ := taken
            exact .inr (.kept few held signals (by simp [goOn, performed, same]) rfl le_rfl)
        | lock other rest =>
            simp only [Machine.step, code, Option.ite_none_right_eq_some,
              Option.some.injEq] at taken
            obtain ⟨_, rfl⟩ := taken
            exact .inr (.kept few held signals (by simp [goOn, take, same])
              (by simp [goOn, take, same]) le_rfl)
        | unlock other rest =>
            simp only [Machine.step, code, Option.some.injEq] at taken
            subst taken
            exact .inr (.kept few held signals (by simp [goOn, give, same])
              (by simp [goOn, give, same]) le_rfl)
        | signal rest =>
            cases woken <;>
              simp only [Machine.step, code, Option.ite_none_right_eq_some, Option.some.injEq]
                at taken <;>
              obtain ⟨_, rfl⟩ := taken
            · exact .inr (.kept few held signals (by simp [goOn, same]) rfl le_rfl)
            · exact .inr (.kept few held signals (by simp [goOn, same]) rfl List.length_erase_le)
        | await test again other rest =>
            -- Whoever tests whether to sleep has the mutex, and so does the holder.
            have follows := disciplined.follows mover
            have own := prompt mover
            rw [code] at follows own
            obtain ⟨_, _, ⟨outer, mine, _⟩, _⟩ := follows
            have also : mutex ∈ state.held mover := by simp [mine, own.1]
            exact absurd (disciplined.toLocked.exclusive held also) same
        | asleep test again other rest =>
            simp only [Machine.step, code, Option.ite_none_right_eq_some,
              Option.some.injEq] at taken
            obtain ⟨_, rfl⟩ := taken
            exact .inr (.kept few held signals (by simp [goOn, take, same])
              (by simp [goOn, take, same]) le_rfl)
        | jump label =>
            simp only [Machine.step, code, Option.some.injEq] at taken
            subst taken
            exact .inr (.kept few held signals (by simp [goOn, same]) rfl le_rfl)

/-- No wakeup is lost in runs whose operations attend to the sleepers. -/
theorem Reach.calm {condition : State World Stage Tid Op Resp Mutex Label →
    Event Tid Choice → Prop} {initial : State World Stage Tid Op Resp Mutex Label → Prop}
    (disciplined : ∀ state, Reach (Machine.step semantics) condition initial state →
      Disciplined semantics discipline state)
    (bodies : ∀ label, (semantics.body label).Prompt mutex owes tests)
    (base : ∀ state, initial state → state.sleeping = [] ∧
      ∀ thread, (state.code thread).Prompt mutex owes tests)
    (sleeps : ∀ thread test (again : Resp test → Bool) choice world next response, tests test again →
      semantics.exec thread test choice world = some (next, response) → again response →
      waits next test)
    (attends : ∀ state thread choice woken operation world response,
      Reach (Machine.step semantics) condition initial state → Calm waits state →
      (state.code thread).current = some operation →
      condition state (.act thread choice woken) →
      semantics.exec thread operation choice state.world = some (world, response) →
      Attends waits mutex owes state thread operation world response)
    (reached : Reach (Machine.step semantics) condition initial state)
    (free : state.owner mutex = none) : Calm waits state := by
  have both : (∀ thread, (state.code thread).Prompt mutex owes tests) ∧
      (Calm waits state ∨ Pending mutex state) := by
    refine reached.invariant (fun state => (∀ thread, (state.code thread).Prompt mutex owes tests) ∧
      (Calm waits state ∨ Pending mutex state)) ?_ ?_
    · intro state valid
      obtain ⟨awake, prompt⟩ := base state valid
      refine ⟨prompt, .inl ?_⟩
      intro thread member
      simp [awake] at member
    · rintro state event next prior ⟨prompt, attended⟩ admitted taken
      refine ⟨prompt_step bodies prompt taken, ?_⟩
      rcases attended with calm | pending
      · refine calm.step prompt (fun thread test again choice world response =>
          sleeps thread test again choice state.world world response) ?_ taken
        rintro thread choice woken operation world response rfl current executed
        exact attends state thread choice woken operation world response prior calm current admitted
          executed
      · exact pending.step (disciplined state prior) prompt taken
  exact calm_of_free both.2 (disciplined state reached).toLocked free

end Runs

end KCamera.Machine
