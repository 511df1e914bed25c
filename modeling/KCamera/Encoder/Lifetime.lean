import KCamera.Encoder.Buffers

/-!
# The life of the encoder

A change of the resolution deletes the encoder and makes another. `encode()`
waits inside the encoder without the GIL, so it may find it deleted; and nobody
looks at whether the new encoder could be made.
-/

namespace KCamera.Kencoder

open Machine

/-! ## Alive whenever used -/

/-- There is an encoder, and it is not being destroyed. -/
def Process.Live (process : Process) : Prop :=
  ∃ encoder, process.encoder = some encoder ∧ encoder.abort = false

/-- In `keEncodeIn`, `keEncodeOut`, `keEncodeOutDone` or `SetBitrate`, or about
to call one. -/
def Phase.Uses : Phase → Prop
  | .encodeIn | .encodeBuffer _ _ | .encodeOut | .encodeOutDone _ | .setBitrate => True
  | _ => False

/-- From `keEncodeIn` to `keEncodeOutDone`. -/
def Phase.Between : Phase → Prop
  | .encodeBuffer _ _ | .encodeOut | .output _ | .encodeOutDone _ | .dangling => True
  | _ => False

/-- The encoder is alive whenever it is used, and none is destroyed while a call
is between `keEncodeIn` and `keEncodeOutDone`. -/
structure Alive (process : Process) : Prop where
  used : ∀ phase ∈ process.calls, phase.Uses → process.Live
  spared : .destroy ∈ process.calls → ∀ phase ∈ process.calls, ¬phase.Between
  inside : .dangling ∉ process.calls

/-- Whether the last encoder could not be made. -/
def observeLost (lost : Bool) (process : Process) : Event → Bool
  | .go call succeeds =>
      match process.calls[call]? with
      | some .construct => !succeeds
      | _ => lost
  | _ => lost

/-- No call is between `keEncodeIn` and `keEncodeOutDone`. -/
def Process.Calm (process : Process) : Prop := ∀ phase ∈ process.calls, ¬phase.Between

/-- The encoder is used only when it could be made, and made anew only when no
call is in it. -/
def Steady : Process × Bool → Event → Prop
  | (_, lost), .encode true => lost = false
  | (process, lost), .assign name value =>
      match process.settings.setAttr name value with
      | (_, .refused) => True
      | (settings, .generic _) =>
          if settings.bitrateChanged then lost = false else settings.restart → process.Calm
  | (process, _), .go call true =>
      process.calls[call]? = some .setBitrate → process.settings.restart → process.Calm
  | _, _ => True

/-! ## The invariant -/

/-- The call has the GIL. -/
def Phase.Locked : Phase → Prop
  | .encodeIn | .encodeBuffer _ _ | .encodeOutDone _ | .setBitrate | .restart | .destroy
  | .construct => True
  | _ => False

/-- The call has a use of the encoder before it. -/
def Phase.Engaged : Phase → Prop
  | .encodeIn | .encodeBuffer _ _ | .encodeOut | .output _ | .encodeOutDone _ | .setBitrate => True
  | _ => False

/-- The call makes the encoder anew. -/
def Phase.Rebuilding : Phase → Prop
  | .restart | .destroy | .construct => True
  | _ => False

/-- What the GIL and the steadiness of the calls keep. -/
structure Sound (process : Process) (lost : Bool) : Prop where
  locked : ∀ (call : Nat) (phase : Phase),
    process.calls[call]? = some phase → phase.Locked → process.gil = some call
  live : ∀ phase ∈ process.calls, phase.Engaged → process.Live
  apart : ∀ phase ∈ process.calls, phase.Rebuilding → ∀ other ∈ process.calls, ¬other.Engaged
  made : lost = false → process.Live ∨ ∃ phase ∈ process.calls, phase.Rebuilding
  inside : .dangling ∉ process.calls

/-- A call that uses the encoder is engaged with it. -/
theorem Phase.Uses.engaged {phase : Phase} (uses : phase.Uses) : phase.Engaged := by
  cases phase <;> first | exact uses | trivial

/-- A call between two uses is engaged, unless the encoder is gone. -/
theorem Phase.Between.engaged {phase : Phase} (between : phase.Between)
    (inside : phase ≠ .dangling) : phase.Engaged := by
  cases phase with
  | dangling => exact absurd rfl inside
  | encodeBuffer _ _ | encodeOut | output _ | encodeOutDone _ => trivial
  | encodeIn | setBitrate | restart | destroy | construct | returned _ => exact between.elim

/-- A call that re-creates the encoder holds the GIL. -/
theorem Phase.Rebuilding.locked {phase : Phase} (rebuilding : phase.Rebuilding) :
    phase.Locked := by
  cases phase <;> first | exact rebuilding | trivial

/-- In a sound process every encoder that is used is alive. -/
theorem Sound.alive {process : Process} {lost : Bool} (sound : Sound process lost) :
    Alive process where
  used phase member uses := sound.live phase member uses.engaged
  spared destroying phase member between := by
    refine sound.apart _ destroying trivial phase member (between.engaged ?_)
    rintro rfl
    exact sound.inside member
  inside := sound.inside

/-- A new process has its encoder and no calls. -/
theorem Sound.initial (driver : Driver) (settings : Settings) (device : DeviceSettings) :
    Sound (.initial driver settings device) false where
  locked := by simp [Process.initial]
  live := by simp [Process.initial]
  apart := by simp [Process.initial]
  made _ := .inl ⟨_, rfl, rfl⟩
  inside := by simp [Process.initial]

section

variable {driver : Driver} {process next : Process} {lost lost' : Bool} {call : Nat}
  {old new : Phase}

/-- Without the GIL taken no call has it. -/
theorem Sound.unlocked (sound : Sound process lost) (free : process.gil = none)
    (phase : Phase) (member : phase ∈ process.calls) : ¬phase.Locked := by
  intro locked
  obtain ⟨other, found⟩ := List.getElem?_of_mem member
  rw [sound.locked other phase found locked] at free
  cases free

/-- Only one call has the GIL. -/
theorem Sound.others_unlocked (sound : Sound process lost)
    (found : process.calls[call]? = some old) (locked : old.Locked) {other : Nat} {phase : Phase}
    (different : other ≠ call) (inside : process.calls[other]? = some phase) : ¬phase.Locked := by
  intro locked'
  have first := sound.locked call old found locked
  rw [sound.locked other phase inside locked', Option.some.injEq] at first
  exact different first

/-- A step of one call. -/
theorem Sound.move (sound : Sound process lost) (found : process.calls[call]? = some old)
    (calls : next.calls = process.calls.set call new) (mine : new.Locked → next.gil = some call)
    (gil : next.gil = process.gil ∨ ∀ other phase, other ≠ call →
      process.calls[other]? = some phase → ¬phase.Locked)
    (live : next.Live ∨ (¬new.Engaged ∧ ∀ other phase, other ≠ call →
      process.calls[other]? = some phase → ¬phase.Engaged))
    (apart : new.Rebuilding → ∀ other phase, other ≠ call →
      process.calls[other]? = some phase → ¬phase.Engaged)
    (apart' : new.Engaged → ∀ other phase, other ≠ call →
      process.calls[other]? = some phase → ¬phase.Rebuilding)
    (made : lost' = false → next.Live ∨ new.Rebuilding) (whole : new ≠ .dangling) :
    Sound next lost' := by
  obtain ⟨bound, -⟩ := List.getElem?_eq_some_iff.mp found
  have after : ∀ (other : Nat) (phase : Phase), next.calls[other]? = some phase →
      (other = call ∧ phase = new) ∨ (other ≠ call ∧ process.calls[other]? = some phase) := by
    intro other phase inside
    rw [calls] at inside
    exact getElem?_of_set inside
  have distinct : new.Rebuilding → ¬new.Engaged := by
    cases new <;> simp [Phase.Rebuilding, Phase.Engaged]
  constructor
  case locked =>
    intro other phase inside locked
    rcases after other phase inside with ⟨rfl, rfl⟩ | ⟨different, before⟩
    · exact mine locked
    · rcases gil with same | unlocked
      · rw [same]
        exact sound.locked other phase before locked
      · exact absurd locked (unlocked other phase different before)
  case live =>
    intro phase member engaged
    rcases live with live | ⟨idle, others⟩
    · exact live
    · obtain ⟨other, inside⟩ := List.getElem?_of_mem member
      rcases after other phase inside with ⟨-, rfl⟩ | ⟨different, before⟩
      · exact absurd engaged idle
      · exact absurd engaged (others other phase different before)
  case apart =>
    intro phase member rebuilding other member' engaged
    obtain ⟨index, inside⟩ := List.getElem?_of_mem member
    obtain ⟨index', inside'⟩ := List.getElem?_of_mem member'
    rcases after index phase inside with ⟨-, rfl⟩ | ⟨different, before⟩
    · rcases after index' other inside' with ⟨-, rfl⟩ | ⟨different', before'⟩
      · exact distinct rebuilding engaged
      · exact apart rebuilding index' other different' before' engaged
    · rcases after index' other inside' with ⟨-, rfl⟩ | ⟨different', before'⟩
      · exact apart' engaged index phase different before rebuilding
      · exact sound.apart phase (List.mem_of_getElem? before) rebuilding other
          (List.mem_of_getElem? before') engaged
  case made =>
    intro kept
    rcases made kept with live | rebuilding
    · exact .inl live
    · exact .inr ⟨new, calls ▸ List.mem_set bound new, rebuilding⟩
  case inside =>
    intro member
    obtain ⟨other, inside⟩ := List.getElem?_of_mem member
    rcases after other _ inside with ⟨-, same⟩ | ⟨-, before⟩
    · exact whole same.symm
    · exact sound.inside (List.mem_of_getElem? before)

/-- A step of a call that uses the encoder, and leaves it alive. -/
theorem Sound.proceed (sound : Sound process lost) (found : process.calls[call]? = some old)
    (engaged : old.Engaged) (calls : next.calls = process.calls.set call new)
    (mine : new.Locked → next.gil = some call)
    (gil : next.gil = process.gil ∨ old.Locked ∨ process.gil = none) (live : next.Live)
    (ordinary : ¬new.Rebuilding ∧ new ≠ .dangling) : Sound next lost := by
  refine sound.move found calls mine ?_ (.inl live) (fun wrong => absurd wrong ordinary.1) ?_
    (fun _ => .inl live) ordinary.2
  · rcases gil with same | locked | free
    · exact .inl same
    · exact .inr fun other phase different inside => sound.others_unlocked found locked different inside
    · exact .inr fun other phase _ inside => sound.unlocked free phase (List.mem_of_getElem? inside)
  · intro _ other phase _ inside rebuilding
    exact sound.apart phase (List.mem_of_getElem? inside) rebuilding old (List.mem_of_getElem? found)
      engaged

/-- A step of a call that makes the encoder anew. -/
theorem Sound.rebuild (sound : Sound process lost) (found : process.calls[call]? = some old)
    (rebuilding : old.Rebuilding) (calls : next.calls = process.calls.set call new)
    (gil : next.gil = process.gil) (further : new.Rebuilding) : Sound next lost' := by
  have others : ∀ other phase, other ≠ call → process.calls[other]? = some phase →
      ¬phase.Engaged := by
    intro other phase _ inside
    exact sound.apart old (List.mem_of_getElem? found) rebuilding phase (List.mem_of_getElem? inside)
  have idle : ¬new.Engaged := by
    cases new <;> simp_all [Phase.Rebuilding, Phase.Engaged]
  refine sound.move found calls ?_ (.inl gil) (.inr ⟨idle, others⟩) (fun _ => others)
    (fun wrong => absurd wrong idle) (fun _ => .inr further) ?_
  · intro _
    rw [gil]
    exact sound.locked call old found rebuilding.locked
  · rintro rfl
    exact further

/-- A call that begins. -/
theorem Sound.begin (sound : Sound process lost) (free : process.gil = none)
    (calls : next.calls = process.calls ++ [new]) (encoder : next.encoder = process.encoder)
    (mine : new.Locked → next.gil = some process.calls.length)
    (kept : new.Engaged → lost = false) (calm : new.Rebuilding → process.Calm)
    (whole : new ≠ .dangling) : Sound next lost := by
  have after : ∀ phase ∈ next.calls, phase ∈ process.calls ∨ phase = new := by
    intro phase member
    rw [calls, List.mem_append, List.mem_singleton] at member
    exact member
  have same : process.Live → next.Live := by
    rintro ⟨living, present, running⟩
    exact ⟨living, encoder.trans present, running⟩
  have unlocked := sound.unlocked free
  have living : lost = false → next.Live := by
    intro kept
    rcases sound.made kept with live | ⟨phase, member, rebuilding⟩
    · exact same live
    · exact absurd rebuilding.locked (unlocked phase member)
  constructor
  case locked =>
    intro other phase inside locked
    rw [calls] at inside
    rcases getElem?_of_concat inside with ⟨rfl, rfl⟩ | ⟨-, before⟩
    · exact mine locked
    · exact absurd locked (unlocked phase (List.mem_of_getElem? before))
  case live =>
    intro phase member engaged
    rcases after phase member with before | rfl
    · exact same (sound.live phase before engaged)
    · exact living (kept engaged)
  case apart =>
    intro phase member rebuilding other member' engaged
    rcases after phase member with before | rfl
    · exact unlocked phase before rebuilding.locked
    · rcases after other member' with before | rfl
      · refine calm rebuilding other before ?_
        have free := unlocked other before
        cases other <;> simp_all [Phase.Locked, Phase.Engaged, Phase.Between]
      · cases other <;> simp_all [Phase.Rebuilding, Phase.Engaged]
  case made => exact fun kept => .inl (living kept)
  case inside =>
    intro member
    rcases after _ member with before | same
    · exact sound.inside before
    · exact whole same.symm

/-- A turn of the poll thread. -/
theorem Sound.poll {encoder encoder' : H264Encoder} (sound : Sound process lost)
    (present : process.encoder = some encoder) (abort : encoder'.abort = encoder.abort) :
    Sound { process with encoder := some encoder' } lost := by
  have same : process.Live → Process.Live { process with encoder := some encoder' } := by
    rintro ⟨living, here, running⟩
    cases present.symm.trans here
    exact ⟨encoder', rfl, abort.trans running⟩
  constructor
  case locked => exact sound.locked
  case live => exact fun phase member engaged => same (sound.live phase member engaged)
  case apart => exact sound.apart
  case made => exact fun kept => (sound.made kept).imp_left same
  case inside => exact sound.inside

/-- The next step of a call. -/
theorem Sound.go {succeeds : Bool} (sound : Sound process lost)
    (steady : Steady (process, lost) (.go call succeeds))
    (taken : process.go driver call succeeds = some next) :
    Sound next (observeLost lost process (.go call succeeds)) := by
  unfold Process.go at taken
  cases found : process.calls[call]? with
  | none => simp [found] at taken
  | some phase =>
      have member := List.mem_of_getElem? found
      cases phase with
      | encodeIn =>
          obtain ⟨encoder, present, running⟩ := sound.live _ member trivial
          have gil := sound.locked call _ found trivial
          simp only [found, present] at taken
          simp only [observeLost, found]
          split at taken
          · cases taken
            exact sound.proceed found trivial rfl False.elim (.inr (.inl trivial))
              ⟨encoder, present, running⟩ ⟨id, by simp⟩
          · cases taken
            exact sound.proceed found trivial rfl (fun _ => gil) (.inl rfl)
              ⟨_, rfl, running⟩ ⟨id, by simp⟩
      | encodeBuffer index timestamp =>
          obtain ⟨encoder, present, running⟩ := sound.live _ member trivial
          simp only [found, present] at taken
          simp only [observeLost, found]
          split at taken
          · split at taken
            · cases taken
              exact sound.proceed found trivial rfl False.elim (.inr (.inl trivial))
                ⟨_, rfl, running⟩ ⟨id, by simp⟩
            · cases taken
              exact sound.proceed found trivial rfl False.elim (.inr (.inl trivial))
                ⟨_, rfl, running⟩ ⟨id, by simp⟩
          · cases taken
            exact sound.proceed found trivial rfl False.elim (.inr (.inl trivial))
              ⟨encoder, present, running⟩ ⟨id, by simp⟩
      | encodeOut =>
          obtain ⟨encoder, present, running⟩ := sound.live _ member trivial
          simp only [found, present] at taken
          simp only [observeLost, found]
          split at taken
          · cases taken
            exact sound.proceed found trivial rfl False.elim (.inl rfl) ⟨_, rfl, running⟩
              ⟨id, by simp⟩
          · simp [running] at taken
      | output item =>
          obtain ⟨encoder, present, running⟩ := sound.live _ member trivial
          simp only [found] at taken
          simp only [observeLost, found]
          split at taken
          · cases taken
          · rename_i holder
            have free : process.gil = none := by simpa using holder
            split at taken
            · cases taken
              exact sound.proceed found trivial rfl False.elim (.inr (.inr free))
                ⟨encoder, present, running⟩ ⟨id, by simp⟩
            · split at taken
              · cases taken
                exact sound.proceed found trivial rfl False.elim (.inr (.inr free))
                  ⟨encoder, present, running⟩ ⟨id, by simp⟩
              · cases taken
                exact sound.proceed found trivial rfl (fun _ => rfl) (.inr (.inr free))
                  ⟨encoder, present, running⟩ ⟨id, by simp⟩
      | encodeOutDone item =>
          obtain ⟨encoder, present, running⟩ := sound.live _ member trivial
          simp only [found, present] at taken
          simp only [observeLost, found]
          split at taken
          · cases taken
            exact sound.proceed found trivial rfl False.elim (.inr (.inl trivial))
              ⟨_, rfl, running⟩ ⟨id, by simp⟩
          · cases taken
            exact sound.proceed found trivial rfl False.elim (.inr (.inl trivial))
              ⟨encoder, present, running⟩ ⟨id, by simp⟩
      | setBitrate =>
          obtain ⟨encoder, present, running⟩ := sound.live _ member trivial
          have gil := sound.locked call _ found trivial
          simp only [found, present] at taken
          simp only [observeLost, found]
          cases succeeds with
          | true =>
              split at taken
              · split at taken
                · rename_i restart
                  cases taken
                  have calm := steady found restart
                  have others : ∀ other phase, other ≠ call → process.calls[other]? = some phase →
                      ¬phase.Engaged := by
                    intro other phase different inside engaged
                    have unlocked := sound.others_unlocked found trivial different inside
                    have outside := calm phase (List.mem_of_getElem? inside)
                    cases phase <;> simp_all [Phase.Locked, Phase.Engaged, Phase.Between]
                  exact sound.move found rfl (fun _ => gil) (.inl rfl) (.inl ⟨_, rfl, running⟩)
                    (fun _ => others) False.elim (fun _ => .inr trivial) (by simp)
                · cases taken
                  exact sound.proceed found trivial rfl False.elim (.inr (.inl trivial))
                    ⟨_, rfl, running⟩ ⟨id, by simp⟩
              · rename_i wrong
                exact absurd rfl wrong
          | false =>
              simp only [Bool.false_eq_true, if_false] at taken
              cases taken
              exact sound.proceed found trivial rfl False.elim (.inr (.inl trivial))
                ⟨encoder, present, running⟩ ⟨id, by simp⟩
      | restart =>
          simp only [observeLost, found]
          cases present : process.encoder with
          | none =>
              simp only [found, present] at taken
              cases taken
              exact sound.rebuild found trivial rfl rfl trivial
          | some encoder =>
              simp only [found, present] at taken
              cases taken
              exact sound.rebuild found trivial rfl rfl trivial
      | destroy =>
          simp only [observeLost, found]
          simp only [found] at taken
          cases taken
          have uncut : process.calls.map Phase.cut = process.calls := by
            refine (List.map_congr_left fun phase inside => ?_).trans (List.map_id _)
            have idle := sound.apart _ member trivial phase inside
            cases phase with
            | encodeOut => exact absurd trivial idle
            | _ => rfl
          have calls : (process.calls.map Phase.cut).set call .construct =
              process.calls.set call .construct := by
            rw [uncut]
          exact sound.rebuild found trivial calls rfl trivial
      | construct =>
          have others : ∀ other phase, other ≠ call → process.calls[other]? = some phase →
              ¬phase.Engaged := by
            intro other phase _ inside
            exact sound.apart _ member trivial phase (List.mem_of_getElem? inside)
          simp only [found] at taken
          simp only [observeLost, found]
          cases taken
          refine sound.move found rfl False.elim (.inr fun other phase different inside => ?_)
            (.inr ⟨id, others⟩) False.elim False.elim ?_ (by simp)
          · exact sound.others_unlocked found trivial different inside
          · intro kept
            have made : succeeds = true := by simpa using kept
            rw [made]
            exact .inl ⟨_, rfl, rfl⟩
      | returned result => simp [found] at taken
      | dangling => simp [found] at taken

/-- A step of the process. -/
theorem Sound.step {event : Event} (sound : Sound process lost)
    (steady : Steady (process, lost) event)
    (taken : process.step driver event = some next) :
    Sound next (observeLost lost process event) := by
  cases event with
  | encode array =>
      simp only [Process.step] at taken
      split at taken
      · cases taken
      · rename_i holder
        have free : process.gil = none := by simpa using holder
        cases array with
        | true =>
            cases taken
            exact sound.begin free rfl rfl (fun _ => rfl) (fun _ => steady) False.elim (by simp)
        | false =>
            cases taken
            exact sound.begin free rfl rfl False.elim False.elim False.elim (by simp)
  | assign name value =>
      simp only [Process.step, Process.assign] at taken
      simp only [Steady] at steady
      split at taken
      · cases taken
      · rename_i holder
        have free : process.gil = none := by simpa using holder
        split at taken
        · cases taken
          exact sound.begin free rfl rfl False.elim False.elim False.elim (by simp)
        · rename_i settings accepted stored
          rw [stored] at steady
          simp only at steady
          split at taken
          · rename_i changed
            rw [if_pos changed] at steady
            cases taken
            exact sound.begin free rfl rfl (fun _ => rfl) (fun _ => steady) False.elim (by simp)
          · rename_i unchanged
            rw [if_neg unchanged] at steady
            split at taken
            · rename_i restart
              cases taken
              exact sound.begin free rfl rfl (fun _ => rfl) False.elim (fun _ => steady restart)
                (by simp)
            · cases taken
              exact sound.begin free rfl rfl False.elim False.elim False.elim (by simp)
  | go call succeeds => exact sound.go steady taken
  | pollInput index =>
      simp only [Process.step, Option.map_eq_some_iff, Option.bind_eq_some_iff] at taken
      obtain ⟨encoder', ⟨encoder, present, polled⟩, rfl⟩ := taken
      refine sound.poll present ?_
      cases index with
      | none | some _ =>
          simp only [H264Encoder.pollInput] at polled
          split at polled
          · cases polled
          · cases polled
            rfl
  | pollOutput item =>
      simp only [Process.step, Option.map_eq_some_iff, Option.bind_eq_some_iff] at taken
      obtain ⟨encoder', ⟨encoder, present, polled⟩, rfl⟩ := taken
      refine sound.poll present ?_
      cases item with
      | none | some _ =>
          simp only [H264Encoder.pollOutput] at polled
          split at polled
          · cases polled
            rfl
          · cases polled

end

/-- In every run whose calls are steady, the encoder is alive whenever it is
used. -/
theorem alive_of_steady (driver : Driver) (settings : Settings) (device : DeviceSettings)
    (watched : Process × Bool)
    (reached : Reach (monitored (Process.step driver) observeLost) Steady
      (· = (.initial driver settings device, false)) watched) :
    Alive watched.1 := by
  have sound : Sound watched.1 watched.2 := by
    refine reached.invariant (fun watched => Sound watched.1 watched.2) ?_ ?_
    · rintro _ rfl
      exact .initial driver settings device
    · rintro ⟨process, lost⟩ event ⟨next, lost'⟩ _ sound steady taken
      obtain ⟨taken, rfl⟩ := monitored_eq_some.mp taken
      exact sound.step steady taken
  exact sound.alive

/-- A call, an assignment that makes the encoder anew, and a call of the new one. -/
def changeBetween : List Event :=
  encodeOnce ++ [.assign .resolution (.pair 1280 720), .go 1 true, .go 1 true, .go 1 true,
    .encode true, .go 2 true, .go 2 true, .pollInput (some 0), .pollOutput (some ⟨0, 9, 1, 2⟩),
    .go 2 true, .go 2 true, .go 2 true]

/-- The encoder could be made, nobody changes the bitrate, and what is assigned is assigned
while every call has returned. -/
def staysSteady (watched : Process × Bool) : Event → Bool
  | .encode _ => !watched.2
  | .assign _ _ => !watched.2 && watched.1.calls.all fun phase =>
      match phase with
      | .returned _ => true
      | _ => false
  | .go call _ => watched.1.calls[call]? ≠ some .setBitrate
  | _ => true

/-- What the computable test of the run admits is steady. -/
theorem steady_of_staysSteady (watched : Process × Bool) (event : Event)
    (passes : staysSteady watched event) : Steady watched event := by
  obtain ⟨process, lost⟩ := watched
  cases event with
  | encode array =>
      cases array with
      | true => simpa [staysSteady, Steady] using passes
      | false => trivial
  | assign name value =>
      simp only [staysSteady, Bool.and_eq_true, Bool.not_eq_true', List.all_eq_true] at passes
      have calm : process.Calm := by
        intro phase member between
        have ended := passes.2 phase member
        cases phase <;> first | exact between.elim | cases ended
      simp only [Steady]
      split
      · trivial
      · split
        · exact passes.1
        · exact fun _ => calm
  | go call succeeds =>
      cases succeeds with
      | true => exact fun found => absurd found (of_decide_eq_true passes)
      | false => trivial
  | _ => trivial

/-- A call, a change of the resolution, and a call of the new encoder. -/
theorem alive_of_steady_changed : ∃ process : Process, Alive process ∧
    process.calls = [.returned (.bytes 0), .returned .assigned, .returned (.bytes 2)] ∧
    process.encoder.map (fun encoder => encoder.device.width) = some 1280 := by
  have start : Reach (monitored (Process.step someDriver) observeLost) Steady
      (· = (newProcess, false)) (newProcess, false) := .start rfl
  have passed : (passingRun (monitored (Process.step someDriver) observeLost) staysSteady
      (newProcess, false) changeBetween).any fun watched =>
        watched.1.calls = [.returned (.bytes 0), .returned .assigned, .returned (.bytes 2)] ∧
          watched.1.encoder.map (fun encoder => encoder.device.width) = some 1280 := by
    decide
  obtain ⟨watched, reached, there⟩ := exists_passingRun start steady_of_staysSteady passed
  obtain ⟨calls, width⟩ := of_decide_eq_true there
  exact ⟨watched.1, alive_of_steady someDriver _ _ watched reached, calls, width⟩

/-- An assignment while a call waits for its packet. -/
def changeWhileEncoding : List Event :=
  [.encode true, .go 0 true, .go 0 true, .assign .resolution (.pair 1280 720), .go 1 true]

/-- The encoder is destroyed under a call that waits in it. -/
theorem destroyed_while_encoding :
    ¬∀ process, Reach (Process.step someDriver) unrestricted (· = newProcess) process →
      Alive process := by
  intro claim
  obtain ⟨process, executed⟩ : ∃ process,
      run (Process.step someDriver) newProcess changeWhileEncoding = some process := ⟨_, rfl⟩
  have alive := claim process
    (reach_run_of_allowed (fun _ _ _ => trivial) (.start rfl) executed)
  have calls : (run (Process.step someDriver) newProcess changeWhileEncoding).map Process.calls =
      some [.encodeOut, .destroy] := by
    decide
  rw [executed, Option.map_some, Option.some.injEq] at calls
  exact alive.spared (by simp [calls]) .encodeOut (by simp [calls]) trivial

end KCamera.Kencoder
