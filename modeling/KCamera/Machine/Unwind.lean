/-!
# Computations that throw

A computation on a state ends by a return or by an exception, which leaves the
state as it was thrown in. `Ends` says what holds at either end; what runs behind
a computation on both ways out relies on no more than the two have in common.
-/

namespace KCamera.Machine

variable {State Error α β : Type}

/-- A computation on a state that may throw. -/
abbrev Act (Error State : Type) := EStateM Error State

/-- From a state with `pre` the computation returns with `post`, or throws with
`thrown`. -/
def Ends (pre : State → Prop) (act : Act Error State α) (post : α → State → Prop)
    (thrown : State → Prop) : Prop :=
  ∀ state, pre state →
    match act state with
    | .ok value after => post value after
    | .error _ after => thrown after

/-- Change the state. -/
def change (step : State → State) : Act Error State Unit := fun state => .ok () (step state)

/-- Throw unless a test has succeeded. -/
def require (succeeded : Bool) (error : Error) : Act Error State Unit :=
  if succeeded then pure () else throw error

/-- Perform a computation for each element. -/
def forEach (act : β → Act Error State Unit) : List β → Act Error State Unit
  | [] => pure ()
  | element :: rest => do
      act element
      forEach act rest

namespace Ends

variable {pre pre' : State → Prop} {act : Act Error State α} {post post' : α → State → Prop}
  {thrown thrown' : State → Prop}

/-- Returning leaves the state. -/
theorem pure {value : α} (holds : ∀ state, pre state → post value state) :
    Ends pre (Pure.pure value : Act Error State α) post thrown := holds

/-- The rest begins where the first part returns. -/
theorem bind {next : α → Act Error State β} {post : β → State → Prop}
    {between : α → State → Prop} (first : Ends pre act between thrown)
    (rest : ∀ value, Ends (between value) (next value) post thrown) :
    Ends pre (act >>= next) post thrown := by
  intro state valid
  have start := first state valid
  change match EStateM.bind act next state with
    | .ok value after => post value after
    | .error _ after => thrown after
  unfold EStateM.bind
  cases ended : act state with
  | ok value after =>
      rw [ended] at start
      exact rest value after start
  | error error after =>
      rw [ended] at start
      exact start

/-- A change of the state ends as the changed state does. -/
theorem change {step : State → State} {post : Unit → State → Prop}
    (holds : ∀ state, pre state → post () (step state)) :
    Ends pre (change step : Act Error State Unit) post thrown := holds

/-- Reading returns the state. -/
theorem get : Ends pre (get : Act Error State State) (fun value state => value = state ∧ pre state)
    thrown := fun _ valid => ⟨rfl, valid⟩

/-- A condition that is known beforehand. -/
theorem assume {fact : Prop} (ends : fact → Ends pre act post thrown) :
    Ends (fun state => fact ∧ pre state) act post thrown :=
  fun state valid => ends valid.1 state valid.2

/-- An exception leaves the state as it was thrown in. -/
theorem throw {error : Error} (threw : ∀ state, pre state → thrown state) :
    Ends pre (throw error : Act Error State α) post thrown := threw

/-- What is never reached. -/
theorem never : Ends (fun _ => False) act post thrown := fun _ reached => reached.elim

/-- From a known state to a known state. -/
theorem changed {step : State → State} (state : State) :
    Ends (· = state) (Machine.change step : Act Error State Unit) (fun _ => (· = step state))
      thrown := change fun _ same => congrArg step same

/-- Weaker before, stronger behind. -/
theorem weaken (ends : Ends pre act post thrown) (before : ∀ state, pre' state → pre state)
    (returned : ∀ value state, post value state → post' value state)
    (threw : ∀ state, thrown state → thrown' state) : Ends pre' act post' thrown' := by
  intro state valid
  have start := ends state (before state valid)
  cases ended : act state with
  | ok value after =>
      rw [ended] at start
      exact returned value after start
  | error error after =>
      rw [ended] at start
      exact threw after start

/-- A test goes on or throws, in the state it finds. -/
theorem require {succeeded : Bool} {error : Error} {post : Unit → State → Prop}
    (returned : ∀ state, pre state → succeeded = true → post () state)
    (threw : ∀ state, pre state → succeeded = false → thrown state) :
    Ends pre (require succeeded error) post thrown := by
  intro state valid
  cases succeeded with
  | true => exact returned state valid rfl
  | false => exact threw state valid rfl

/-- What each turn keeps, all turns keep. -/
theorem forEach {turn : β → Act Error State Unit} {kept : State → Prop}
    (each : ∀ element, Ends kept (turn element) (fun _ => kept) thrown) (elements : List β) :
    Ends kept (forEach turn elements) (fun _ => kept) thrown := by
  induction elements with
  | nil => exact pure fun _ valid => valid
  | cons element rest ih => exact bind (each element) fun _ => ih

end Ends

end KCamera.Machine
