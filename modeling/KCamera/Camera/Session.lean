import KCamera.Engine.Effects
import KCamera.Engine.Runs

/-!
# One camera session at a time

A video thread has a camera session from the construction of its `LibcameraRaw`
to the end of its destruction. `kcStart` creates such threads, and whether the
one before is gone is told by `m_run` and `m_stopping` only.
-/

namespace KCamera

open Machine

open Function (update)

/-- The thread's `LibcameraRaw` exists. -/
def Phase.session : Phase → Bool
  | constructed | published | stopped | cleared => true
  | _ => false

/-- The thread has, and will have, no session. -/
def Phase.over : Phase → Bool
  | destroyed | exited => true
  | _ => false

/-- `kcStopped` was called while the session goes on. -/
def Phase.leaving : Phase → Bool
  | stopped | cleared => true
  | _ => false

/-- The operations of `event_loop` that go through `app`. -/
def Op.usesApp : Op → Bool
  | .setOptions | .useApp | .takeCapture => true
  | _ => false

/-- No two threads have a session, and `app` is the thread's own object where
it is used. -/
structure OneSession (state : System) : Prop where
  unique : ∀ first second, (state.stage (.video first)).phase.session →
    (state.stage (.video second)).phase.session → first = second
  own : ∀ index operation, (state.code (.video index)).current = some operation →
    operation.usesApp → state.world.app = some index

/-- `kcStart` resets the state only while `m_run` is zero or every video thread
is over, and creates a thread only when none is between `kcStopped` and the end
of its session. -/
def StartsAlone (state : System) (_ : Tid) (_ : Choice) (operation : Op) : Prop :=
  (operation = .resetState → state.world.g.run →
    ∀ index < state.world.spawned, (state.stage (.video index)).phase.over) ∧
  (operation = .createThread → ∀ index, ¬(state.stage (.video index)).phase.leaving)

/-! ## Starting and stopping one session -/

/-- What the flags say about the sessions. Of the threads that are `live`, those
that are `leaving` have called `kcStopped`. -/
structure Sole (live leaving : Nat → Prop) (run stopping : Bool) (last : Option Nat)
    (switch : Tid → Switch) : Prop where
  unique : ∀ first second, live first → live second → first = second
  last : ∀ index, live index → last = some index
  noticed : ∀ index, live index → run ∨ stopping ∨ leaving index ∨
    ∃ thread join detach, switch thread = .stopping join detach
  ready : ∀ thread, switch thread = .ready → ∀ index, live index → run ∨ leaving index
  starting : ∀ thread, switch thread = .starting → run ∧ ∀ index, live index → leaving index

namespace Sole

variable {live leaving live' leaving' : Nat → Prop} {run stopping stopping' : Bool}
  {last : Option Nat} {switch : Tid → Switch} {thread : Tid}

/-- Sessions come to their end. -/
theorem mono (sole : Sole live leaving run stopping last switch)
    (fewer : ∀ index, live' index → live index)
    (left : ∀ index, live' index → leaving index → leaving' index)
    (told : stopping → stopping' ∨ ∀ index, live' index → leaving' index) :
    Sole live' leaving' run stopping' last switch where
  unique first second here there := sole.unique first second (fewer _ here) (fewer _ there)
  last index here := sole.last index (fewer _ here)
  noticed index here := by
    rcases sole.noticed index (fewer _ here) with running | stops | leaves | switches
    · exact .inl running
    · rcases told stops with stops | leave
      · exact .inr (.inl stops)
      · exact .inr (.inr (.inl (leave _ here)))
    · exact .inr (.inr (.inl (left _ here leaves)))
    · exact .inr (.inr (.inr switches))
  ready thread switches index here :=
    (sole.ready thread switches index (fewer _ here)).imp_right (left _ here)
  starting thread switches :=
    (sole.starting thread switches).imp_right fun leave index here =>
      left _ here (leave _ (fewer _ here))

/-- Nothing is left once the last thread is over. -/
theorem of_none (none : ∀ index, ¬live index) (started : ∀ thread, switch thread = .starting → run) :
    Sole live leaving run stopping last switch where
  unique first _ here := absurd here (none first)
  last index here := absurd here (none index)
  noticed index here := absurd here (none index)
  ready _ _ index here := absurd here (none index)
  starting thread switches := ⟨started thread switches, fun index here => absurd here (none index)⟩

variable (alone : ∀ other ≠ thread, switch other = .none)

include alone

/-- One thread moves its switch while no other has one. -/
theorem switched {run' : Bool} {value : Switch} (sole : Sole live leaving run stopping last switch)
    (noticed : ∀ index, live index → run' ∨ stopping' ∨ leaving index ∨
      ∃ join detach, value = .stopping join detach)
    (ready : value = .ready → ∀ index, live index → run' ∨ leaving index)
    (starting : value = .starting → run' ∧ ∀ index, live index → leaving index) :
    Sole live leaving run' stopping' last (update switch thread value) where
  unique := sole.unique
  last := sole.last
  noticed index here := by
    rcases noticed index here with running | stops | leaves | ⟨join, detach, same⟩
    · exact .inl running
    · exact .inr (.inl stops)
    · exact .inr (.inr (.inl leaves))
    · exact .inr (.inr (.inr ⟨thread, join, detach, by simpa using same⟩))
  ready other switches := by
    by_cases same : other = thread
    · subst same
      exact ready (by simpa using switches)
    · simp [same, alone other same] at switches
  starting other switches := by
    by_cases same : other = thread
    · subst same
      exact starting (by simpa using switches)
    · simp [same, alone other same] at switches

/-- A live thread is noticed by the flags unless this thread is stopping it. -/
theorem flagged (sole : Sole live leaving run stopping last switch)
    (quiet : ∀ join detach, switch thread ≠ .stopping join detach) {index : Nat}
    (here : live index) : run ∨ stopping ∨ leaving index := by
  rcases sole.noticed index here with running | stops | leaves | ⟨other, join, detach, same⟩
  · exact .inl running
  · exact .inr (.inl stops)
  · exact .inr (.inr leaves)
  · by_cases mine : other = thread
    · exact absurd (mine ▸ same) (quiet join detach)
    · rw [alone other mine] at same
      cases same

end Sole

/-! ## The invariant of all runs -/

/-- The phase of a video thread. -/
def phaseOf (stages : Tid → Stage) (index : Nat) : Phase := (stages (.video index)).phase

/-- A video thread was created and is not over. -/
def Live (world : World) (stages : Tid → Stage) (index : Nat) : Prop :=
  index < world.spawned ∧ (phaseOf stages index).over = false

structure Alone (world : World) (stages : Tid → Stage) : Prop where
  sole : Sole (Live world stages) (fun index => (phaseOf stages index).leaving) world.g.run
    world.g.stopping world.g.thread (Stage.switch ∘ stages)
  unborn : ∀ index, world.spawned ≤ index → phaseOf stages index = .unborn
  exited : ∀ index, world.exited index → phaseOf stages index = .exited
  app : ∀ index, phaseOf stages index = .published → world.app = some index

/-- At first there is no session. -/
theorem alone_initial : Alone .initial fun _ => .idle where
  sole := .of_none (fun _ live => absurd live.1 (by simp [World.initial])) nofun
  unborn _ _ := rfl
  exited _ exited := by cases exited
  app _ published := by cases published

section Moves

variable {world next : World} {stages : Tid → Stage} {thread : Tid} {stage : Stage}

/-- A step that keeps a thread's phase keeps all of them. -/
theorem phaseOf_update (kept : ∀ index, thread = .video index → stage.phase = phaseOf stages index)
    (index : Nat) : phaseOf (update stages thread stage) index = phaseOf stages index := by
  by_cases same : thread = .video index
  · subst same
    simpa [phaseOf] using kept index rfl
  · simp [phaseOf, Ne.symm same]

/-- A step that keeps a thread's switch keeps all of them. -/
theorem switch_update (kept : stage.switch = (stages thread).switch) :
    Stage.switch ∘ update stages thread stage = Stage.switch ∘ stages := by
  rw [Function.comp_update, kept]
  exact Function.update_eq_self thread (Stage.switch ∘ stages)

/-- An operation that changes neither a phase nor a switch nor what threads see. -/
theorem Alone.kept (alone : Alone world stages) (agree : Agree world next .threads)
    (phase : ∀ index, thread = .video index → stage.phase = phaseOf stages index)
    (switch : stage.switch = (stages thread).switch) : Alone next (update stages thread stage) := by
  obtain ⟨run, stopping, last, _, app, spawned, exited⟩ := agree
  have phases : phaseOf (update stages thread stage) = phaseOf stages :=
    funext (phaseOf_update phase)
  have live : Live next (update stages thread stage) = Live world stages := by
    unfold Live
    rw [phases, spawned]
  refine ⟨?_, ?_, ?_, ?_⟩
  · rw [live, phases, run, stopping, last, switch_update switch]
    exact alone.sole
  · rw [phases, spawned]
    exact alone.unborn
  · rw [phases, exited]
    exact alone.exited
  · rw [phases, app]
    exact alone.app

/-- A switch moves while the phases stay. -/
theorem Alone.switched (alone : Alone world stages)
    (phase : ∀ index, thread = .video index → stage.phase = phaseOf stages index)
    (spawned : next.spawned = world.spawned) (exited : next.exited = world.exited)
    (app : next.app = world.app)
    (sole : Sole (Live world stages) (fun index => (phaseOf stages index).leaving) next.g.run
      next.g.stopping next.g.thread (update (Stage.switch ∘ stages) thread stage.switch)) :
    Alone next (update stages thread stage) := by
  have phases : phaseOf (update stages thread stage) = phaseOf stages :=
    funext (phaseOf_update phase)
  have live : Live next (update stages thread stage) = Live world stages := by
    unfold Live
    rw [phases, spawned]
  refine ⟨?_, ?_, ?_, ?_⟩
  · rwa [live, phases, Function.comp_update]
  · rw [phases, spawned]
    exact alone.unborn
  · rw [phases, exited]
    exact alone.exited
  · rw [phases, app]
    exact alone.app

/-- A video thread moves to its next phase. -/
theorem Alone.moved {index : Nat} (alone : Alone world stages)
    (switch : stage.switch = (stages (.video index)).switch)
    (ahead : (phaseOf stages index).over → stage.phase.over)
    (left : (phaseOf stages index).leaving → stage.phase.over = false → stage.phase.leaving)
    (created : index < world.spawned) (spawned : next.spawned = world.spawned)
    (run : next.g.run = world.g.run) (last : next.g.thread = world.g.thread)
    (told : world.g.stopping → next.g.stopping ∨ (phaseOf stages index).over = false ∧
      stage.phase.leaving)
    (exited : next.exited = world.exited ∧ phaseOf stages index ≠ .exited ∨
      next.exited = update world.exited index true ∧ stage.phase = .exited)
    (app : ∀ other, phaseOf (update stages (.video index) stage) other = .published →
      next.app = some other) :
    Alone next (update stages (.video index) stage) := by
  have own : phaseOf (update stages (.video index) stage) index = stage.phase := by simp [phaseOf]
  have others : ∀ other ≠ index,
      phaseOf (update stages (.video index) stage) other = phaseOf stages other := by
    intro other different
    simp [phaseOf, different]
  have fewer : ∀ other, Live next (update stages (.video index) stage) other →
      Live world stages other := by
    rintro other ⟨created, going⟩
    refine ⟨spawned ▸ created, ?_⟩
    by_cases same : other = index
    · subst same
      rw [own] at going
      by_contra done
      simp [ahead (by simpa using done)] at going
    · rwa [others other same] at going
  refine ⟨?_, ?_, ?_, app⟩
  · rw [run, last, switch_update switch]
    refine alone.sole.mono fewer ?_ ?_
    · intro other live leaves
      by_cases same : other = index
      · subst same
        have going := live.2
        rw [own] at going ⊢
        exact left leaves going
      · rwa [others other same]
    · intro stops
      refine (told stops).imp_right fun going other live => ?_
      have same : other = index := alone.sole.unique _ _ (fewer _ live) ⟨created, going.1⟩
      rw [same, own]
      exact going.2
  · intro other beyond
    have different : other ≠ index := by omega
    rw [others other different]
    exact alone.unborn other (spawned ▸ beyond)
  · intro other gone
    by_cases same : other = index
    · subst same
      rcases exited with ⟨exited, going⟩ | ⟨_, exit⟩
      · exact absurd (alone.exited _ (exited ▸ gone)) going
      · rw [own, exit]
    · rw [others other same]
      rcases exited with ⟨exited, _⟩ | ⟨exited, _⟩
      · exact alone.exited _ (exited ▸ gone)
      · rw [exited] at gone
        exact alone.exited _ (by simpa [same] using gone)

/-- A thread that is not published leaves `app` to the others. -/
theorem Alone.app_kept {index : Nat} (alone : Alone world stages)
    (unpublished : stage.phase ≠ .published) (app : next.app = world.app) (other : Nat)
    (published : phaseOf (update stages (.video index) stage) other = .published) :
    next.app = some other := by
  by_cases same : other = index
  · subst same
    exact absurd (by simpa [phaseOf] using published) unpublished
  · rw [app]
    exact alone.app other (by simpa [phaseOf, same] using published)

/-- A thread with a phase was created. -/
theorem Alone.created (alone : Alone world stages) (index : Nat)
    (born : phaseOf stages index ≠ .unborn) : index < world.spawned := by
  by_contra beyond
  exact born (alone.unborn index (by omega))

/-- A thread with a session is live. -/
theorem Alone.live {index : Nat} (alone : Alone world stages)
    (session : (phaseOf stages index).session) : Live world stages index := by
  refine ⟨alone.created index fun unborn => ?_, ?_⟩
  · rw [unborn] at session
    cases session
  · cases phase : phaseOf stages index <;> simp_all [Phase.session, Phase.over]

/-- While a thread has a session no other is published. -/
theorem Alone.unpublished {index other : Nat} (alone : Alone world stages)
    (session : (phaseOf stages index).session) (different : other ≠ index) :
    phaseOf stages other ≠ .published := by
  intro published
  have session' : (phaseOf stages other).session := by simp [published, Phase.session]
  exact different (alone.sole.unique other index (alone.live session') (alone.live session))

/-- A thread is created when no other is live. -/
theorem Alone.spawned (alone : Alone world stages)
    (phase : ∀ index, thread = .video index → stage.phase = phaseOf stages index)
    (none : ∀ index, ¬Live world stages index) (running : world.g.run)
    (unstarted : ∀ other, update (Stage.switch ∘ stages) thread stage.switch other ≠ .starting) :
    Alone { world with g.thread := some world.spawned, spawned := world.spawned + 1 }
      (update stages thread stage) := by
  have phases : phaseOf (update stages thread stage) = phaseOf stages :=
    funext (phaseOf_update phase)
  have only : ∀ index, Live { world with
      g.thread := some world.spawned, spawned := world.spawned + 1 }
      (update stages thread stage) index → index = world.spawned := by
    rintro index ⟨created, going⟩
    rw [phases] at going
    by_contra different
    have before : index < world.spawned := by
      have created : index < world.spawned + 1 := created
      omega
    exact none index ⟨before, going⟩
  refine ⟨⟨?_, ?_, ?_, ?_, ?_⟩, ?_, ?_, ?_⟩
  · intro first second here there
    rw [only first here, only second there]
  · intro index here
    rw [only index here]
  · intro index here
    exact .inl running
  · intro other switches index here
    exact .inl running
  · intro other switches
    rw [Function.comp_update] at switches
    exact absurd switches (unstarted other)
  · intro index beyond
    rw [phases]
    exact alone.unborn index (Nat.le_of_succ_le beyond)
  · rw [phases]
    exact alone.exited
  · rw [phases]
    exact alone.app

end Moves

section Turns

variable {condition : System → Tid → Choice → Op → Prop} {state : System} {thread : Tid}
  {choice : Choice} {operation : Op} {world : World} {response : operation.Resp}

/-- While a thread holds `m_paramsMutex` no other starts or stops the camera. -/
theorem Turn.switch_alone (turn : Turn condition state thread choice operation world response)
    (held : .params ∈ state.held thread) {other : Tid} (different : other ≠ thread) :
    (Stage.switch ∘ state.stage) other = .none := by
  by_contra switches
  exact different (turn.exclusive (turn.promised .params switches) held)

/-- Every operation keeps the invariant. -/
theorem Alone.step (turn : Turn StartsAlone state thread choice operation world response)
    (alone : Alone state.world state.stage) :
    Alone world (update state.stage thread ((state.stage thread).after operation response)) := by
  have allowed := turn.allowed
  have executed := turn.executed
  have promised : (state.stage thread).switch ≠ .none → .params ∈ state.held thread :=
    fun switches => turn.promised .params switches
  cases operation with
  | awaitStopped =>
      obtain ⟨_, _, _, params, unswitched⟩ := allowed
      simp only [Op.run] at executed
      split at executed
      · cases executed
      · rename_i going
        cases executed
        have flagged : ∀ {index}, Live state.world state.stage index → _ :=
          alone.sole.flagged (fun _ => turn.switch_alone params) (by simp [unswitched])
        refine alone.switched (fun index same => by subst same; rfl) rfl rfl rfl ?_
        refine alone.sole.switched (fun _ => turn.switch_alone params) ?_ ?_ (by simp)
        · intro index live
          exact (flagged live).imp_right fun rest => rest.imp_right .inl
        · intro _ index live
          exact (flagged live).imp_right fun rest => rest.resolve_left going
  | resetState =>
      obtain ⟨python, _, _, _, ready⟩ := allowed
      have params := promised (by simp [ready])
      have leave : ∀ index, Live state.world state.stage index →
          (phaseOf state.stage index).leaving := by
        intro index live
        rcases alone.sole.ready thread ready index live with running | leaves
        · have done : (phaseOf state.stage index).over := turn.admitted.1 rfl running index live.1
          rw [live.2] at done
          cases done
        · exact leaves
      cases executed
      refine alone.switched (fun index same => by subst same; rfl) rfl rfl rfl ?_
      exact alone.sole.switched (fun _ => turn.switch_alone params) (fun index live => .inl rfl)
        (by simp) fun _ => ⟨rfl, leave⟩
  | createThread =>
      obtain ⟨python, _, _, starting, _⟩ := allowed
      have params := promised (by simp [starting])
      obtain ⟨running, leave⟩ := alone.sole.starting thread starting
      have none : ∀ index, ¬Live state.world state.stage index := fun index live =>
        turn.admitted.2 rfl index (leave index live)
      have phase : ∀ index, thread = .video index →
          ((state.stage thread).after .createThread response).phase = phaseOf state.stage index := by
        rintro index rfl
        rfl
      have sole : Sole (Live state.world state.stage)
          (fun index => (phaseOf state.stage index).leaving) state.world.g.run
          state.world.g.stopping state.world.g.thread
          (update (Stage.switch ∘ state.stage) thread .none) :=
        alone.sole.switched (fun _ => turn.switch_alone params) (fun _ _ => .inl running) (by simp)
          (by simp)
      rw [result_eq executed]
      unfold World.createThread
      split
      · refine alone.spawned phase none running fun other starts => ?_
        by_cases same : other = thread
        · subst same
          simp at starts
        · rw [Function.update_of_ne same, turn.switch_alone params same] at starts
          cases starts
      · exact alone.switched phase rfl rfl rfl sole
  | stopCameraLoop join =>
      obtain ⟨params, unswitched, _, _⟩ := allowed
      have flagged : ∀ {index}, Live state.world state.stage index → _ :=
        alone.sole.flagged (fun _ => turn.switch_alone params) (by simp [unswitched])
      cases executed
      refine alone.switched (fun index same => by subst same; rfl) rfl rfl rfl ?_
      exact alone.sole.switched (fun _ => turn.switch_alone params)
        (fun index live => (flagged live).imp_right fun rest => rest.imp_right .inl) (by simp) (by simp)
  | clearRun join signal =>
      obtain ⟨_, halting, _, _⟩ := allowed
      have params := promised (by simp [halting])
      cases executed
      refine alone.switched (fun index same => by subst same; rfl) rfl rfl rfl ?_
      exact alone.sole.switched (fun _ => turn.switch_alone params)
        (fun index live => .inr (.inr (.inr ⟨join, signal, rfl⟩))) (by simp) (by simp)
  | dropFrame =>
      obtain ⟨join, stopping⟩ := allowed
      have params := promised (by simp [stopping])
      have agree : Agree state.world world .threads := Op.run_agree executed (by simp [Op.touches])
      obtain ⟨run, stops, last, _, app, spawned, exited⟩ := agree
      have value : (state.stage thread).after .dropFrame response =
          { state.stage thread with switch := .stopping join false } := by
        simp [stopping]
      rw [value]
      refine alone.switched (fun index same => by subst same; rfl) spawned exited app ?_
      rw [last]
      exact alone.sole.switched (fun _ => turn.switch_alone params)
        (fun index live => .inr (.inr (.inr ⟨join, false, rfl⟩))) (by simp) (by simp)
  | join =>
      obtain ⟨_, stopping, _⟩ := allowed
      have params := promised (by simp [stopping])
      simp only [Op.run] at executed
      split at executed
      · rename_i done
        have none : ∀ index, ¬Live state.world state.stage index := by
          intro index live
          have exited : state.world.exited index := by
            simpa [alone.sole.last index live] using done
          have done := live.2
          rw [alone.exited index exited] at done
          cases done
        cases executed
        refine alone.switched (fun index same => by subst same; rfl) rfl rfl rfl (.of_none none ?_)
        intro other starts
        by_cases same : other = thread
        · subst same
          simp at starts
        · rw [Function.update_of_ne same, turn.switch_alone params same] at starts
          cases starts
      · cases executed
  | setStopping =>
      obtain ⟨_, stopping⟩ := allowed
      have params := promised (by simp [stopping])
      cases executed
      refine alone.switched (fun index same => by subst same; rfl) rfl rfl rfl ?_
      exact alone.sole.switched (fun _ => turn.switch_alone params)
        (fun index live => .inr (.inl rfl)) (by simp) (by simp)
  | begin =>
      obtain ⟨video, unborn⟩ := allowed
      cases thread with
      | python index => exact absurd rfl video
      | video index =>
          simp only [Op.run] at executed
          split at executed
          · rename_i created
            cases executed
            exact alone.moved rfl (by simp [phaseOf, unborn, Phase.over])
              (by simp [phaseOf, unborn, Phase.leaving]) created rfl rfl rfl .inl
              (.inl ⟨rfl, by simp [phaseOf, unborn]⟩) (alone.app_kept (by simp) rfl)
          · cases executed
  | construct =>
      obtain ⟨video, begun, _⟩ := allowed
      cases thread with
      | python index => exact absurd rfl video
      | video index =>
          have born : phaseOf state.stage index = .begun := begun
          have created := alone.created index (by simp [born])
          cases executed
          cases threw : choice.throws with
          | true =>
              refine alone.kept (.refl _ _) ?_ (by simp)
              rintro _ same
              cases same
              simp [phaseOf]
          | false =>
              exact alone.moved (by simp) (by simp [born, Phase.over])
                (by simp [born, Phase.leaving]) created rfl rfl rfl .inl
                (.inl ⟨rfl, by simp [born]⟩) (alone.app_kept (by simp) rfl)
  | publishApp =>
      obtain ⟨video, constructed⟩ := allowed
      cases thread with
      | python index => exact absurd rfl video
      | video index =>
          have born : phaseOf state.stage index = .constructed := constructed
          have created := alone.created index (by simp [born])
          cases executed
          refine alone.moved rfl (by simp [born, Phase.over]) (by simp [born, Phase.leaving]) created
            rfl rfl rfl .inl (.inl ⟨rfl, by simp [born]⟩) ?_
          intro other published
          by_cases same : other = index
          · exact same ▸ rfl
          · have published : phaseOf state.stage other = .published := by
              simpa [phaseOf, same] using published
            exact absurd published (alone.unpublished (by simp [born, Phase.session]) same)
  | stopped =>
      obtain ⟨video, published, _⟩ := allowed
      cases thread with
      | python index => exact absurd rfl video
      | video index =>
          have born : phaseOf state.stage index = .published := published
          have created := alone.created index (by simp [born])
          cases executed
          exact alone.moved rfl (by simp [born, Phase.over]) (by simp [born, Phase.leaving]) created
            rfl rfl rfl (fun _ => .inr ⟨by simp [born, Phase.over], rfl⟩)
            (.inl ⟨rfl, by simp [born]⟩) (alone.app_kept (by simp) rfl)
  | clearApp =>
      obtain ⟨video, stopped⟩ := allowed
      cases thread with
      | python index => exact absurd rfl video
      | video index =>
          have born : phaseOf state.stage index = .stopped := stopped
          have created := alone.created index (by simp [born])
          cases executed
          refine alone.moved rfl (by simp [born, Phase.over]) (fun _ _ => rfl) created rfl rfl rfl
            .inl (.inl ⟨rfl, by simp [born]⟩) ?_
          intro other published
          by_cases same : other = index
          · subst same
            simp [phaseOf] at published
          · have published : phaseOf state.stage other = .published := by
              simpa [phaseOf, same] using published
            exact absurd published (alone.unpublished (by simp [born, Phase.session]) same)
  | destruct =>
      obtain ⟨video, phase⟩ := allowed
      cases thread with
      | python index => exact absurd rfl video
      | video index =>
          have going : phaseOf state.stage index ≠ .unborn ∧ phaseOf state.stage index ≠ .exited := by
            rcases phase with published | cleared <;> simp [phaseOf, *]
          have created := alone.created index going.1
          cases executed
          exact alone.moved rfl (fun _ => rfl) (by simp [Phase.over]) created rfl rfl rfl .inl
            (.inl ⟨rfl, going.2⟩) (alone.app_kept (by simp) rfl)
  | exit =>
      obtain ⟨video, phase⟩ := allowed
      cases thread with
      | python index => exact absurd rfl video
      | video index =>
          have going : phaseOf state.stage index ≠ .unborn := by
            rcases phase with begun | destroyed <;> simp [phaseOf, *]
          have created := alone.created index going
          cases executed
          exact alone.moved rfl (fun _ => rfl) (by simp [Phase.over]) created rfl rfl rfl .inl
            (.inr ⟨rfl, rfl⟩) (alone.app_kept (by simp) rfl)
  | setRun =>
      cases executed
      refine alone.switched (fun index same => by subst same; rfl) rfl rfl rfl ?_
      have same : Stage.switch ∘ update state.stage thread ((state.stage thread).after .setRun ()) =
          Stage.switch ∘ state.stage := switch_update rfl
      rw [Function.comp_update] at same
      rw [same]
      exact alone.sole
  | endCall request reply =>
      obtain ⟨python, _, _, _, unswitched, _⟩ := allowed
      refine alone.kept (Op.run_agree executed (by simp [Op.touches])) ?_ unswitched.symm
      rintro index rfl
      cases python
  | readStopping | hasRecord | lastRecordFrame | nextRecordFrame list =>
      refine alone.kept (Op.run_agree executed (by simp [Op.touches])) ?_ ?_
      · rintro index rfl
        simp only [Stage.after]
        split <;> rfl
      · simp only [Stage.after]
        split <;> rfl
  | beginFrame capture =>
      refine alone.kept (Op.run_agree executed (by simp [Op.touches])) ?_ ?_
      · rintro index rfl
        cases response <;> rfl
      · cases response <;> rfl
  | _ =>
      refine alone.kept (Op.run_agree executed (by simp [Op.touches])) ?_ rfl
      rintro index rfl
      rfl

end Turns

/-- In runs that start alone, the sessions follow each other. -/
theorem alone_always {state : System} (reached : Runs StartsAlone state) :
    Alone state.world state.stage :=
  Runs.invariant Alone alone_initial (fun _ _ _ _ _ _ turn alone => alone.step turn) reached

/-- In runs that start the camera only when it has stopped there is one session. -/
theorem oneSession_of_startsAlone (state : System) (reached : Runs StartsAlone state) :
    OneSession state where
  unique first second here there := by
    have alone := alone_always reached
    exact alone.sole.unique _ _ (alone.live here) (alone.live there)
  own index operation current uses := by
    have alone := alone_always reached
    have allowed := (reached.disciplined.follows (.video index)).allowed semantics discipline _ current
    cases operation with
    | setOptions | useApp | takeCapture => exact alone.app index allowed.2.1
    | _ => cases uses

/-- Two Cameras in succession, each with a recording. -/
def twoCameras : List (Event Tid Choice) :=
  calls (.newCamera someParams) 24 ++ calls (.record someParams) 20 ++ turns (.video 0) 21 {} ++
    calls .deleteCamera 11 ++ turns (.video 0) 7 {} ++ turns (.python 0) 6 {} ++
    calls (.newCamera someParams) 24 ++ calls (.record someParams) 20 ++ turns (.video 1) 5 {}

/-- A second Camera's session, after the first has ended. -/
theorem oneSession_of_startsAlone_twoCameras : ∃ state, Runs StartsAlone state ∧ OneSession state ∧
    ((state.stage (.video 0)).phase = .exited ∧ (state.stage (.video 1)).phase = .published) := by
  have passed : (checkedRun [.python 0, .video 0, .video 1]
      (fun state _ _ operation =>
        (operation = .resetState → state.world.g.run →
          ∀ index < state.world.spawned, (state.stage (.video index)).phase.over) ∧
        (operation = .createThread → ∀ index < (2 : Nat), ¬(state.stage (.video index)).phase.leaving))
      System.initial twoCameras).any
      (fun state => (state.stage (.video 0)).phase = .exited ∧
        (state.stage (.video 1)).phase = .published) := by
    decide +kernel
  obtain ⟨state, reached, phases⟩ := exists_checkedRun StartsAlone (by
    intro state _ _ operation moved check
    obtain ⟨resets, creates⟩ := of_decide_eq_true check
    refine ⟨resets, fun starts index => ?_⟩
    by_cases moves : index < 2
    · exact creates starts index moves
    · have idle := moved (.video index) (by simp; omega)
      simp [idle, Stage.idle, Phase.leaving]) passed
  exact ⟨state, reached, oneSession_of_startsAlone state reached, of_decide_eq_true phases⟩

/-- `record()` while the camera runs starts a second session beside the first. -/
theorem oneSession_lost_to_record : ¬∀ state, Runs anyOperation state → OneSession state := by
  intro claim
  have passed : (run System.step System.initial
      (calls (.newCamera someParams) 24 ++ calls (.record someParams) 20 ++ turns (.video 0) 4 {} ++
        calls (.record someParams) 21 ++ turns (.video 1) 4 {})).any
      (fun state => (state.stage (.video 0)).phase.session ∧
        (state.stage (.video 1)).phase.session) := by
    decide +kernel
  obtain ⟨state, reached, test⟩ := exists_run passed
  obtain ⟨first, second⟩ := of_decide_eq_true test
  exact absurd ((claim state reached).unique 0 1 first second) (by decide)

end KCamera
