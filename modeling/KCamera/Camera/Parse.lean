import KCamera.Camera.Changes
import KCamera.Machine.Fields

/-!
# parseArgs

Where the parse of keyword arguments comes to an end, and what it has stored by
then: the plain parameters first, then the resolution and its object, then the
mode and its object.
-/

namespace KCamera.Module

open Machine PyValue

/-! ## Where the parse ends -/

/-- Where `parseArgs` comes to an end. -/
inductive Ending where
  | tooMany
  | keyword
  | resolution (value : PyValue)
  | mode
  | overflow
  | accepted

/-- The text of a mode. -/
def modeEnding : Option PyValue → Ending
  | none => .accepted
  | some value =>
      match value.asText with
      | none => .mode
      | some text => if text.utf8ByteSize < CameraState.modeSize then .accepted else .overflow

namespace Arguments

variable (arguments : Arguments)

/-- Every keyword is known and every plain value can be converted. -/
def Converts : Prop :=
  (∀ parameter ∈ Parameter.kwlist, arguments.input parameter ≠ some none) ∧ arguments.unknown = 0

instance : Decidable arguments.Converts :=
  decidable_of_iff (((Parameter.fields.storeAll arguments.input Parameter.kwlist default).2 = true) ∧
    arguments.unknown = 0) (and_congr_left fun _ => Fields.storeAll_snd_iff)

/-- Where the parse of these arguments ends. -/
def ending : Ending :=
  if Parameter.kwlist.length + 2 < arguments.given then .tooMany
  else if arguments.Converts then
    match arguments.resolution with
    | none => modeEnding arguments.mode
    | some value =>
        if (value.parsePair 0 0).2 then modeEnding arguments.mode else .resolution value
  else .keyword

end Arguments

/-- A parse ends early for one of three reasons, or with the mode and everything
converted. -/
theorem Arguments.ending_cases (arguments : Arguments) :
    arguments.ending = .tooMany ∨ arguments.ending = .keyword ∨
      (∃ value, arguments.ending = .resolution value) ∨
      (arguments.ending = modeEnding arguments.mode ∧ arguments.Converts ∧
        ∀ value, arguments.resolution = some value → (value.parsePair 0 0).2 = true) := by
  unfold Arguments.ending
  split
  · exact .inl rfl
  · split
    · rename_i converts
      split
      · rename_i absent
        exact .inr (.inr (.inr ⟨rfl, converts, by simp [absent]⟩))
      · rename_i value given
        split
        · rename_i parsed
          refine .inr (.inr (.inr ⟨rfl, converts, ?_⟩))
          intro value' given'
          rw [given] at given'
          cases given'
          exact parsed
        · exact .inr (.inr (.inl ⟨value, rfl⟩))
    · exact .inr (.inl rfl)

/-! ## What it stores -/

/-- The parameters after the first parse. -/
def Arguments.firstParams (arguments : Arguments) (params : KcParams) : KcParams :=
  (Parameter.fields.storeAll arguments.input Parameter.kwlist params).1

section

variable {state : CameraState} {arguments : Arguments}

/-- The first parse writes attributes only. -/
theorem firstParams_rest (arguments : Arguments) (params : KcParams) :
    rest (arguments.firstParams params) = rest params :=
  Fields.storeAll_invariant (fun after => rest after = rest params) rfl
    fun parameter value after _ same => (rest_put parameter value after).trans same

/-- The parameters with another width and height. -/
def withSize (size : UInt32 × UInt32) (params : KcParams) : KcParams :=
  { params with width := size.1, height := size.2 }

/-- The state after the first parse. -/
def CameraState.first (state : CameraState) (arguments : Arguments) : CameraState :=
  { state with params := arguments.firstParams state.params }

/-- The state after the first parse and this size. -/
def CameraState.sized (state : CameraState) (arguments : Arguments) (size : UInt32 × UInt32) :
    CameraState :=
  { state with params := withSize size (arguments.firstParams state.params) }

/-- The state after a `resolution` argument, or without one. -/
def CameraState.resolved (state : CameraState) (arguments : Arguments) : CameraState :=
  match arguments.resolution with
  | none => { state.first arguments with
      resObject := some (.pair state.params.width state.params.height) }
  | some value => { state.sized arguments
        (value.parsePair state.params.width state.params.height).1 with resObject := some value }

/-- What `parseArgs` leaves, by where it ends. -/
def parseSpec (state : CameraState) (arguments : Arguments) : CameraState × Outcome :=
  match arguments.ending with
  | .tooMany => (state, .raised)
  | .keyword => (state.first arguments, .raised)
  | .resolution value => (state.sized arguments
      (value.parsePair state.params.width state.params.height).1, .raised)
  | _ => (state.resolved arguments).parseMode arguments.mode

/-- A `resolution` argument stores its object, and the size as far as it converts. -/
theorem parseResolution_some (state : CameraState) (arguments : Arguments) (value : PyValue) :
    (state.first arguments).parseResolution (some value) =
      (let sized :=
        state.sized arguments (value.parsePair state.params.width state.params.height).1
      if (value.parsePair 0 0).2 then ({ sized with resObject := some value }, true)
      else (sized, false)) := by
  have others := firstParams_rest arguments state.params
  have width : (state.first arguments).params.width = state.params.width :=
    congrArg Rest.width others
  have height : (state.first arguments).params.height = state.params.height :=
    congrArg Rest.height others
  simp only [CameraState.parseResolution, width, height]
  rw [parsePair_snd value 0 0 state.params.width state.params.height]
  rfl

/-- Without a `resolution` argument the object is made from the size that stays. -/
theorem parseResolution_none (state : CameraState) (arguments : Arguments) :
    (state.first arguments).parseResolution none =
      ({ state.first arguments with
        resObject := some (.pair state.params.width state.params.height) }, true) := by
  have others := firstParams_rest arguments state.params
  have width : (state.first arguments).params.width = state.params.width :=
    congrArg Rest.width others
  have height : (state.first arguments).params.height = state.params.height :=
    congrArg Rest.height others
  simp only [CameraState.parseResolution, CameraState.updateResObject, width, height]

/-- A mode is accepted, refused or too long. -/
theorem modeEnding_cases (mode : Option PyValue) :
    modeEnding mode = .accepted ∨ modeEnding mode = .mode ∨ modeEnding mode = .overflow := by
  cases mode with
  | none => exact .inl rfl
  | some value =>
      unfold modeEnding
      dsimp only
      split
      · exact .inr (.inl rfl)
      · split
        · exact .inl rfl
        · exact .inr (.inr rfl)

/-- The mode is the last argument that is parsed. -/
theorem parseSpec_mode {mode : Option PyValue} (ending : arguments.ending = modeEnding mode) :
    parseSpec state arguments = (state.resolved arguments).parseMode arguments.mode := by
  unfold parseSpec
  rw [ending]
  rcases modeEnding_cases mode with accepted | raised | long
  · rw [accepted]
  · rw [raised]
  · rw [long]

/-- `parseArgs` leaves what the specification says, by where it ends. -/
theorem parseArgs_eq (state : CameraState) (arguments : Arguments) :
    state.parseArgs arguments = parseSpec state arguments := by
  have converts : ((Parameter.fields.storeAll arguments.input Parameter.kwlist state.params).2 = true ∧
      arguments.unknown = 0) ↔ arguments.Converts :=
    and_congr_left fun _ => Fields.storeAll_snd_iff
  have ending : arguments.ending = arguments.ending := rfl
  conv at ending => rhs; unfold Arguments.ending
  by_cases many : Parameter.kwlist.length + 2 < arguments.given
  · rw [if_pos many] at ending
    simp only [CameraState.parseArgs, Arguments.parseKeywords, many, if_true, Bool.false_eq_true,
      if_false, parseSpec, ending]
  · rw [if_neg many] at ending
    have parse : state.parseArgs arguments =
        if arguments.Converts then
          let resolved := (state.first arguments).parseResolution arguments.resolution
          if resolved.2 then resolved.1.parseMode arguments.mode else (resolved.1, .raised)
        else (state.first arguments, .raised) := by
      simp only [CameraState.parseArgs, Arguments.parseKeywords, many, if_false, converts,
        decide_eq_true_eq]
      rfl
    rw [parse]
    by_cases good : arguments.Converts
    · rw [if_pos good] at ending ⊢
      cases given : arguments.resolution with
      | none =>
          rw [given] at ending
          rw [parseResolution_none, parseSpec_mode ending, CameraState.resolved, given]
          rfl
      | some value =>
          rw [given] at ending
          rw [parseResolution_some]
          cases parsed : (value.parsePair 0 0).2 with
          | true =>
              simp only [parsed, if_true] at ending ⊢
              rw [parseSpec_mode ending, CameraState.resolved, given]
          | false =>
              simp only [parsed, Bool.false_eq_true, if_false] at ending ⊢
              rw [parseSpec, ending]
    · rw [if_neg good] at ending ⊢
      rw [parseSpec, ending]

/-- The state after a `mode` argument that is accepted, or without one. -/
def CameraState.moded (state : CameraState) : Option PyValue → CameraState
  | none => { state with modeObject := some (.ofString state.params.mode) }
  | some value =>
      { state with
        params := { state.params with mode := value.asText.getD state.params.mode }
        modeObject := some value }

/-- A mode that is refused leaves the state. -/
theorem parseMode_raised {mode : Option PyValue} (ending : modeEnding mode = .mode)
    (state : CameraState) : state.parseMode mode = (state, .raised) := by
  cases mode with
  | none => cases ending
  | some value =>
      simp only [modeEnding, CameraState.parseMode] at ending ⊢
      cases found : value.asText with
      | none => rfl
      | some text =>
          simp only [found] at ending
          split at ending <;> cases ending

/-- A mode that overruns the buffer: the state says no more. -/
theorem parseMode_overflow {mode : Option PyValue} (ending : modeEnding mode = .overflow)
    (state : CameraState) : state.parseMode mode = (state, .undefined) := by
  cases mode with
  | none => cases ending
  | some value =>
      simp only [modeEnding, CameraState.parseMode] at ending ⊢
      cases found : value.asText with
      | none => simp [found] at ending
      | some text =>
          simp only [found] at ending
          split at ending
          · cases ending
          · rename_i long
            simp only [long, if_false]

/-- A mode that is accepted is stored, with its object. -/
theorem parseMode_accepted {mode : Option PyValue} (ending : modeEnding mode = .accepted)
    (state : CameraState) : state.parseMode mode = (state.moded mode, .returned) := by
  cases mode with
  | none => rfl
  | some value =>
      simp only [modeEnding, CameraState.parseMode, CameraState.moded] at ending ⊢
      cases found : value.asText with
      | none => simp [found] at ending
      | some text =>
          simp only [found] at ending
          split at ending
          · rename_i short
            simp only [short, if_true, Option.getD_some]
          · cases ending

/-! ## The parameters that are left -/

/-- The parameters that a start leaves of accepted arguments. -/
theorem limits_moded (arguments : Arguments) (limits : Limits state.params) :
    Limits ((state.resolved arguments).moded arguments.mode).params := by
  have others := firstParams_rest arguments state.params
  have least : (arguments.firstParams state.params).minFps = 4 :=
    (congrArg Rest.minFps others).trans limits.least
  have most : (arguments.firstParams state.params).maxFps = 90 :=
    (congrArg Rest.maxFps others).trans limits.most
  have resolved : Limits (state.resolved arguments).params := by
    unfold CameraState.resolved
    split <;> exact ⟨least, most⟩
  obtain ⟨least, most⟩ := resolved
  cases arguments.mode with
  | none => exact ⟨least, most⟩
  | some value => exact ⟨least, most⟩

/-- Beside the parameters and their objects a parse changes nothing. -/
theorem parseArgs_frame (state : CameraState) (arguments : Arguments) :
    ∃ params resObject modeObject, (state.parseArgs arguments).1 =
      { state with params := params, resObject := resObject, modeObject := modeObject } := by
  have mode : ∀ (state : CameraState), ∃ params modeObject, (state.parseMode arguments.mode).1 =
      { state with params := params, modeObject := modeObject } := by
    intro state
    cases arguments.mode with
    | none => exact ⟨_, _, rfl⟩
    | some value =>
        simp only [CameraState.parseMode]
        split
        · exact ⟨_, _, rfl⟩
        · split
          · exact ⟨_, _, rfl⟩
          · exact ⟨_, _, rfl⟩
  have resolved : ∃ params resObject, state.resolved arguments =
      { state with params := params, resObject := resObject } := by
    unfold CameraState.resolved
    split <;> exact ⟨_, _, rfl⟩
  rw [parseArgs_eq]
  unfold parseSpec
  split
  · exact ⟨_, _, _, rfl⟩
  · exact ⟨_, _, _, rfl⟩
  · exact ⟨_, _, _, rfl⟩
  · obtain ⟨params, resObject, same⟩ := resolved
    obtain ⟨params', modeObject, same'⟩ := mode (state.resolved arguments)
    rw [same', same]
    exact ⟨params', resObject, modeObject, rfl⟩

/-- A parse leaves the limits. -/
theorem parseArgs_limits (limits : Limits state.params) (arguments : Arguments) :
    Limits (state.parseArgs arguments).1.params := by
  have others := firstParams_rest arguments state.params
  have first : Limits (state.first arguments).params :=
    ⟨(congrArg Rest.minFps others).trans limits.least,
      (congrArg Rest.maxFps others).trans limits.most⟩
  rw [parseArgs_eq]
  unfold parseSpec
  rcases arguments.ending_cases with many | keyword | ⟨value, bad⟩ | ⟨late, -, -⟩
  · simp only [many]
    exact limits
  · simp only [keyword]
    exact first
  · simp only [bad]
    exact ⟨first.least, first.most⟩
  · have moded := limits_moded arguments limits
    have resolved : Limits (state.resolved arguments).params := by
      unfold CameraState.resolved
      split <;> exact ⟨first.least, first.most⟩
    rcases modeEnding_cases arguments.mode with accepted | raised | long
    · simp only [late, accepted, parseMode_accepted accepted]
      exact moded
    · simp only [late, raised, parseMode_raised raised]
      exact resolved
    · simp only [late, long, parseMode_overflow long]
      exact resolved

/-- `record` with accepted arguments: the parse, then a start with a recording. -/
theorem camera_record_returned (returned : (state.parseArgs arguments).2 = .returned) :
    (state.camera_record arguments).1 =
      ({ (state.parseArgs arguments).1 with recording := true } : CameraState).kcStart := by
  unfold CameraState.camera_record
  split
  · rename_i accepted found
    rw [found]
  · rename_i raised
    exact (raised (state.parseArgs arguments).1 (Prod.ext rfl returned)).elim

end

end KCamera.Module
