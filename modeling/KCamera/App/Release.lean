import KCamera.App.Resources
import Mathlib.Data.List.ReduceOption

/-!
# Giving everything back

However a session of the camera ends, the destructor of the app finds its
resources in order and gives each of them back once. Only a camera that was
unplugged while it ran cannot be stopped; the exception then leaves the
destructor.
-/

namespace KCamera.App

open Machine

/-- Nothing is held; calls were made, and addresses and buffers may have been used up. -/
def Released (resources : Resources) : Prop :=
  ∃ calls nextAddress nextBuffer,
    resources = { Resources.fresh with calls, nextAddress, nextBuffer }

/-- The app has a camera in a certain state, and its flags agree with it. Every
mapping belongs to a buffer that exists. -/
structure Held (stage : CameraStage) (resources : Resources) : Prop where
  used : resources.misuses = []
  mappings : resources.mappings = resources.mapped.flatMap fun entry => entry.2.reduceOption
  planes : ∀ entry ∈ resources.mapped, (entry.1, entry.2.length) ∈ resources.live
  camera : resources.camera = true
  standing : resources.stage = stage
  acquired : resources.acquired = decide (stage ≠ .available)
  started : resources.started = decide (stage = .running)

/-- There is no camera yet. -/
def Unopened (resources : Resources) : Prop :=
  ∃ manager, resources = { Resources.fresh with manager }

/-- What the destructor may find. -/
def InOrder (resources : Resources) : Prop :=
  Unopened resources ∨ ∃ stage, stage ≠ .stopping ∧ Held stage resources

section

variable {answers : Answers} {resources : Resources} {stage : CameraStage}

/-! ## Calls of the camera -/

/-- A call that the camera's state admits fails when it is unplugged, and changes
nothing. -/
theorem isAccessAllowed_eq {low high : CameraStage} {allowDisconnected : Bool}
    (camera : resources.camera = true) (above : low.rank ≤ resources.stage.rank)
    (below : resources.stage.rank ≤ high.rank) :
    isAccessAllowed answers low high allowDisconnected resources =
      .ok (!resources.gone answers || allowDisconnected)
        { resources with calls := resources.calls + 1 } := by
  unfold isAccessAllowed
  cases gone : resources.gone answers <;> cases allowDisconnected <;> simp [camera, above, below]

/-- What the app holds does not depend on how many calls were made. -/
theorem Held.called (held : Held stage resources) (calls : Nat) :
    Held stage { resources with calls } :=
  ⟨held.used, held.mappings, held.planes, held.camera, held.standing, held.acquired, held.started⟩

/-- A camera that is gone does not come back. -/
theorem Resources.gone_called (gone : resources.gone answers = true) :
    { resources with calls := resources.calls + 1 }.gone answers = true := by
  simp only [Resources.gone, Option.any_eq_true, decide_eq_true_eq] at gone ⊢
  obtain ⟨call, unplugged, before⟩ := gone
  exact ⟨call, unplugged, Nat.le_succ_of_le before⟩

/-- What no counting of calls changes, a call that is admitted keeps. It fails only
without a camera. -/
theorem tells_isAccessAllowed {low high : CameraStage} {allowDisconnected : Bool}
    {keeps thrown : Resources → Prop}
    (called : ∀ resources calls, keeps resources → keeps { resources with calls })
    (admitted : ∀ resources, keeps resources → resources.camera = true ∧
      low.rank ≤ resources.stage.rank ∧ resources.stage.rank ≤ high.rank) :
    Ends keeps (isAccessAllowed answers low high allowDisconnected)
      (fun allowed resources => keeps resources ∧
        (allowed = false → allowDisconnected = false ∧ resources.gone answers = true))
      thrown := by
  intro resources kept
  obtain ⟨camera, above, below⟩ := admitted resources kept
  rw [isAccessAllowed_eq camera above below]
  refine ⟨called resources _ kept, fun refused => ?_⟩
  simp only [Bool.or_eq_false_iff, Bool.not_eq_false'] at refused
  exact ⟨refused.2, Resources.gone_called refused.1⟩

/-- A check of the camera's state that `keeps` admits does not throw. -/
theorem keeps_isAccessAllowed {low high : CameraStage} {allowDisconnected : Bool}
    {keeps thrown : Resources → Prop}
    (called : ∀ resources calls, keeps resources → keeps { resources with calls })
    (admitted : ∀ resources, keeps resources → resources.camera = true ∧
      low.rank ≤ resources.stage.rank ∧ resources.stage.rank ≤ high.rank) :
    Ends keeps (isAccessAllowed answers low high allowDisconnected) (fun _ => keeps) thrown :=
  (tells_isAccessAllowed called admitted).weaken (fun _ => id) (fun _ _ told => told.1)
    fun _ => id

/-- A call that moves the camera on. -/
theorem keeps_cameraCall {low high next : CameraStage} {accepts : Bool}
    {keeps moved thrown : Resources → Prop}
    (called : ∀ resources calls, keeps resources → keeps { resources with calls })
    (admitted : ∀ resources, keeps resources → resources.camera = true ∧
      low.rank ≤ resources.stage.rank ∧ resources.stage.rank ≤ high.rank)
    (moves : ∀ resources, keeps resources → moved { resources with stage := next }) :
    Ends keeps (cameraCall answers low high accepts next)
      (fun ok resources => if ok then moved resources else keeps resources) thrown := by
  refine .bind (keeps_isAccessAllowed called admitted) fun allowed => ?_
  cases allowed && accepts with
  | false => exact .pure fun _ kept => kept
  | true => exact .bind (.change moves) fun _ => .pure fun _ kept => kept

/-- A camera in a stage admits the calls whose range has the stage in it. -/
theorem Held.admitted {low high : CameraStage} (held : Held stage resources)
    (above : low.rank ≤ stage.rank) (below : stage.rank ≤ high.rank) :
    resources.camera = true ∧ low.rank ≤ resources.stage.rank ∧
      resources.stage.rank ≤ high.rank := by
  rw [held.standing]
  exact ⟨held.camera, above, below⟩

/-! ## Opening -/

/-- The app has a camera and has not made anything else yet. -/
structure Bare (stage : CameraStage) (acquired started : Bool) (resources : Resources) : Prop where
  used : resources.misuses = []
  mappings : resources.mappings = []
  mapped : resources.mapped = []
  camera : resources.camera = true
  standing : resources.stage = stage
  acquired : resources.acquired = acquired
  started : resources.started = started

/-- What the app has made does not depend on how many calls were made. -/
theorem Bare.called {acquired started : Bool} (bare : Bare stage acquired started resources)
    (calls : Nat) : Bare stage acquired started { resources with calls } :=
  ⟨bare.used, bare.mappings, bare.mapped, bare.camera, bare.standing, bare.acquired, bare.started⟩

/-- A camera with nothing else made is held as its flags say. -/
theorem Bare.held {acquired started : Bool} (bare : Bare stage acquired started resources)
    (flags : acquired = decide (stage ≠ .available) ∧ started = decide (stage = .running)) :
    Held stage resources where
  used := bare.used
  mappings := by rw [bare.mappings, bare.mapped]; rfl
  planes := by simp [bare.mapped]
  camera := bare.camera
  standing := bare.standing
  acquired := bare.acquired.trans flags.1
  started := bare.started.trans flags.2

/-- The destructor may find whatever is held in a settled stage. -/
theorem Held.inOrder (held : Held stage resources) (settled : stage ≠ .stopping) :
    InOrder resources := .inr ⟨stage, settled, held⟩

/-- A test of something that failed only where `bare` still holds. -/
theorem Bare.required {acquired started : Bool} {next : CameraStage} {ok : Bool} {error : String}
    (flags : acquired = decide (stage ≠ .available) ∧ started = decide (stage = .running))
    (settled : stage ≠ .stopping) :
    Ends (fun resources => if ok then Bare next acquired started resources
        else Bare stage acquired started resources)
      (require ok error) (fun _ => Bare next acquired started) InOrder := by
  refine .require (fun resources bare accepted => ?_) fun resources bare refused => ?_
  · rwa [if_pos accepted] at bare
  · rw [refused] at bare
    exact (bare.held flags).inOrder settled

/-- The same range of calls is admitted before anything is made. -/
theorem Bare.admitted {acquired started : Bool} {low high : CameraStage}
    (bare : Bare stage acquired started resources) (above : low.rank ≤ stage.rank)
    (below : stage.rank ≤ high.rank) :
    resources.camera = true ∧ low.rank ≤ resources.stage.rank ∧
      resources.stage.rank ≤ high.rank := by
  rw [bare.standing]
  exact ⟨bare.camera, above, below⟩

/-- A call that only moves the camera on. -/
theorem Bare.moves {acquired started accepts : Bool} {low high next : CameraStage}
    {thrown : Resources → Prop} (above : low.rank ≤ stage.rank) (below : stage.rank ≤ high.rank) :
    Ends (Bare stage acquired started) (cameraCall answers low high accepts next)
      (fun ok resources => if ok then Bare next acquired started resources
        else Bare stage acquired started resources) thrown := by
  refine keeps_cameraCall (fun _ calls bare => bare.called calls) ?_ ?_
  · exact fun _ bare => bare.admitted above below
  · intro resources bare
    exact ⟨bare.used, bare.mappings, bare.mapped, bare.camera, rfl, bare.acquired, bare.started⟩

/-- `OpenCamera` ends with an acquired camera, or throws with the app in order. -/
theorem openCamera_ends :
    Ends (· = Resources.fresh) (OpenCamera answers) (fun _ => Bare .acquired true false)
      InOrder := by
  have unopened : ∀ resources, resources = { Resources.fresh with manager := true } →
      InOrder resources := by
    rintro _ rfl
    exact .inl ⟨true, rfl⟩
  have tested : ∀ {ok : Bool} {error : String},
      Ends (· = { Resources.fresh with manager := true }) (require ok error)
        (fun _ => (· = { Resources.fresh with manager := true })) InOrder :=
    .require (fun _ same _ => same) fun resources same _ => unopened resources same
  have find : Ends (· = { Resources.fresh with manager := true, camera := answers.found })
      (require answers.found ("failed to find camera " ++ answers.cameras.headD ""))
      (fun _ => Bare .available false false) InOrder := by
    refine .require ?_ ?_
    · rintro _ rfl found
      exact ⟨rfl, rfl, rfl, found, rfl, rfl, rfl⟩
    · rintro _ rfl lost
      refine unopened _ ?_
      rw [lost]
      rfl
  refine .bind (.changed _) fun _ => ?_
  refine .bind tested fun _ => .bind tested fun _ => ?_
  refine .bind (.changed _) fun _ => .bind find fun _ => ?_
  refine .bind (Bare.moves le_rfl le_rfl) fun ok => ?_
  refine .bind (Bare.required ⟨rfl, rfl⟩ (by decide)) fun _ => ?_
  exact .change fun _ bare =>
    ⟨bare.used, bare.mappings, bare.mapped, bare.camera, bare.standing, rfl, bare.started⟩

/-! ## Configuring -/

/-- Mapping the planes of a buffer that exists. -/
theorem Held.mapPlanes {buffer : FrameBuffer} {planes : Nat} (held : Held stage resources)
    (present : (buffer, planes) ∈ resources.live) :
    Held stage (resources.mapPlanes answers buffer planes) where
  used := held.used
  mappings := by
    by_cases none : planes = 0
    · simp [Resources.mapPlanes, none, held.mappings, List.reduceOption]
    · simp [Resources.mapPlanes, none, held.mappings]
  planes := by
    intro entry member
    by_cases none : planes = 0
    · simp only [Resources.mapPlanes, none, if_true] at member
      exact held.planes entry member
    · simp only [Resources.mapPlanes, none, if_false, List.mem_append, List.mem_singleton] at member
      rcases member with old | rfl
      · exact held.planes entry old
      · simpa [Resources.live, Resources.mapPlanes] using present
  camera := held.camera
  standing := held.standing
  acquired := held.acquired
  started := held.started

/-- Mapping the planes of existing buffers keeps what is held. -/
theorem Held.mapBuffers {buffers : List (FrameBuffer × Nat)} (held : Held stage resources)
    (present : buffers ⊆ resources.live) : Held stage (resources.mapBuffers answers buffers) := by
  induction buffers generalizing resources with
  | nil => exact held
  | cons entry rest ih =>
      obtain ⟨buffer, planes⟩ := entry
      refine ih (held.mapPlanes (present List.mem_cons_self)) ?_
      intro other member
      exact present (List.mem_cons_of_mem _ member)

/-- Mapping leaves the allocator alone. -/
theorem Resources.mapBuffers_allocator (resources : Resources)
    (buffers : List (FrameBuffer × Nat)) :
    (resources.mapBuffers answers buffers).allocator = resources.allocator := by
  induction buffers generalizing resources with
  | nil => rfl
  | cons entry rest ih => exact ih _

/-- The camera is configured and there is an allocator. -/
def Allocating (resources : Resources) : Prop :=
  Held .configured resources ∧ resources.allocator.isSome

/-- Exporting a stream's buffers keeps the camera and the allocator. -/
theorem Allocating.export {stream : Stream} {planes : List Nat}
    (allocating : Allocating resources) :
    Allocating (resources.export answers stream planes) := by
  obtain ⟨held, some⟩ := allocating
  obtain ⟨allocated, found⟩ := Option.isSome_iff_exists.mp some
  constructor
  · refine Held.mapBuffers ⟨held.used, held.mappings, ?_, held.camera, held.standing,
      held.acquired, held.started⟩ ?_
    · intro entry member
      have old := held.planes entry member
      simp only [Resources.live, found, Option.getD_some] at old
      simp only [Resources.live, found, Option.map_some, Option.getD_some, List.flatMap_append,
        List.mem_append]
      exact .inl old
    · intro entry member
      simp only [Resources.live, found, Option.map_some, Option.getD_some, List.flatMap_append,
        List.mem_append, List.flatMap_singleton]
      exact .inr member
  · rw [Resources.export, Resources.mapBuffers_allocator]
    simp [found]

/-- The destructor may find a camera with an allocator. -/
theorem Allocating.inOrder (allocating : Allocating resources) : InOrder resources :=
  allocating.1.inOrder (by decide)

/-- The allocator's buffers for one stream, or an exception with the app in order. -/
theorem allocate_ends (stream : Stream) (allocated : List (Stream × List (FrameBuffer × Nat))) :
    Ends Allocating (allocate answers stream allocated) (fun _ => Allocating) InOrder := by
  unfold allocate
  split
  · exact .pure fun _ allocating => allocating
  · refine .bind (keeps_isAccessAllowed ?_ ?_) fun allowed => .pure fun _ allocating => allocating
    · exact fun _ calls allocating => ⟨allocating.1.called calls, allocating.2⟩
    · exact fun _ allocating => allocating.1.admitted le_rfl le_rfl

/-- One turn of the loop over the streams. -/
theorem setupStream_ends (stream : Stream) :
    Ends Allocating (setupStream answers stream) (fun _ => Allocating) InOrder := by
  refine .bind .get fun value => ?_
  refine .bind ((allocate_ends stream _).weaken (fun _ valid => valid.2) (fun _ _ => id)
    (fun _ => id)) fun planes => ?_
  cases planes with
  | none => exact .throw fun _ allocating => allocating.inOrder
  | some planes => exact .change fun _ allocating => allocating.export

/-- Making the allocator is the step from a bare camera. -/
theorem Bare.allocating (bare : Bare .configured true false resources) :
    Allocating { resources with allocator := some [] } :=
  ⟨Bare.held ⟨bare.used, bare.mappings, bare.mapped, bare.camera, bare.standing, bare.acquired,
    bare.started⟩ ⟨rfl, rfl⟩, rfl⟩

/-- `setupCapture` ends with the buffers allocated and mapped. -/
theorem setupCapture_ends :
    Ends (Bare .acquired true false) (setupCapture answers) (fun _ => Held .configured)
      InOrder := by
  have valid : Ends (Bare .acquired true false)
      (require answers.valid "failed to valid stream configurations")
      (fun _ => Bare .acquired true false) InOrder :=
    .require (fun _ bare _ => bare) fun _ bare _ => (bare.held ⟨rfl, rfl⟩).inOrder (by decide)
  have allocator : Ends (Bare .configured true false)
      (change fun resources => { resources with allocator := some [] } : AppAct Unit)
      (fun _ => Allocating) InOrder := .change fun _ bare => bare.allocating
  refine .bind valid fun _ => .bind (Bare.moves le_rfl (by decide)) fun configured => ?_
  refine .bind (Bare.required ⟨rfl, rfl⟩ (by decide)) fun _ => ?_
  refine .bind allocator fun _ => .bind .get fun value => ?_
  exact (Ends.forEach setupStream_ends _).weaken (fun _ valid => valid.2)
    (fun _ _ allocating => allocating.1) (fun _ => id)

/-- `ConfigureVideo` ends with a configured camera. -/
theorem configureVideo_ends :
    Ends (Bare .acquired true false) (ConfigureVideo answers) (fun _ => Held .configured)
      InOrder := by
  have generate : Ends (Bare .acquired true false) (generateConfiguration answers)
      (fun _ => Bare .acquired true false) InOrder := by
    refine .bind (keeps_isAccessAllowed (fun _ calls bare => bare.called calls) ?_) fun allowed =>
      .pure fun _ bare => bare
    exact fun _ bare => bare.admitted (by decide) (by decide)
  refine .bind generate fun streams => ?_
  cases streams with
  | none => exact .throw fun _ bare => (bare.held ⟨rfl, rfl⟩).inOrder (by decide)
  | some streams =>
      refine .bind (.change fun _ bare => ?_) fun _ => setupCapture_ends
      exact ⟨bare.used, bare.mappings, bare.mapped, bare.camera, bare.standing, bare.acquired,
        bare.started⟩

/-! ## Starting -/

/-- Changing the requests keeps the rest. -/
theorem Held.withRequests (held : Held stage resources) (requests : List Request) :
    Held stage { resources with requests } :=
  ⟨held.used, held.mappings, held.planes, held.camera, held.standing, held.acquired, held.started⟩

/-- The requests are made while the camera stays configured. -/
theorem createRequests_ends (first : Stream) (id : Nat) (buffers : List FrameBuffer)
    (others : List (Stream × List FrameBuffer)) :
    Ends (Held .configured) (createRequests answers first id buffers others)
      (fun _ => Held .configured) InOrder := by
  have ordered : ∀ resources, Held .configured resources → InOrder resources :=
    fun _ held => held.inOrder (by decide)
  have tested : ∀ {ok : Bool} {error : String}, Ends (Held .configured) (require ok error)
      (fun _ => Held .configured) InOrder :=
    .require (fun _ held _ => held) fun _ held _ => ordered _ held
  have storing : ∀ store : List Request → List Request, Ends (Held .configured)
      (change fun resources => { resources with requests := store resources.requests } :
        AppAct Unit)
      (fun _ => Held .configured) InOrder :=
    fun store => .change fun _ held => held.withRequests _
  induction buffers generalizing id others with
  | nil => exact .pure fun _ held => held
  | cons buffer buffers ih =>
      refine .bind (keeps_isAccessAllowed (fun _ calls held => held.called calls) ?_)
        fun created => ?_
      · exact fun _ held => held.admitted le_rfl (by decide)
      refine .bind tested fun _ => ?_
      cases (createRequest id).addBuffer first buffer with
      | none => exact .throw ordered
      | some request =>
          refine .bind (storing (· ++ [request])) fun _ => ?_
          cases fillRequest request others with
          | none => exact .throw ordered
          | some made =>
              exact .bind (storing fun requests => requests.dropLast ++ [made.1]) fun _ => ih _ _

/-- `camera_->start`, up to the flag. -/
theorem cameraStart_ends {thrown : Resources → Prop} :
    Ends (Held .configured) (cameraStart answers)
      (fun ok resources => if ok then Held .running { resources with started := true }
        else Held .configured resources) thrown := by
  refine keeps_cameraCall (fun _ calls held => held.called calls) ?_ ?_
  · exact fun _ held => held.admitted le_rfl le_rfl
  · intro resources held
    exact ⟨held.used, held.mappings, held.planes, held.camera, rfl, held.acquired, rfl⟩

/-- Queueing the first requests keeps the camera running. -/
theorem queueFirst_ends (request : Request) :
    Ends (Held .running) (queueFirst answers request) (fun _ => Held .running) InOrder := by
  refine .bind (keeps_isAccessAllowed (fun _ calls held => held.called calls) ?_) fun allowed => ?_
  · exact fun _ held => held.admitted le_rfl le_rfl
  · refine .bind .get fun value => ?_
    exact .require (fun _ valid _ => valid.2) fun _ valid _ => valid.2.inOrder (by decide)

/-- `StartCamera` ends with a running camera, or throws with the app in order. -/
theorem startCamera_ends :
    Ends (Held .configured) (StartCamera answers) (fun _ => Held .running) InOrder := by
  have making : ∀ buffers, Ends (Held .configured) (createAll answers buffers)
      (fun _ => Held .configured) InOrder := by
    intro buffers
    cases buffers with
    | nil => exact .pure fun _ held => held
    | cons entry others => exact createRequests_ends _ _ _ _
  have started : ∀ ok, Ends
      (fun resources => if ok = true then Held .running { resources with started := true }
        else Held .configured resources)
      (require ok "failed to start camera")
      (fun _ resources => Held .running { resources with started := true }) InOrder := by
    intro ok
    refine .require (fun resources held accepted => ?_) fun resources held refused => ?_
    · rwa [if_pos accepted] at held
    · rw [refused] at held
      exact Held.inOrder held (by decide)
  have flagged : Ends (fun resources => Held .running { resources with started := true })
      (change fun resources => { resources with started := true } : AppAct Unit)
      (fun _ => Held .running) InOrder := .change fun _ held => held
  have connected : Ends (Held .running)
      (change fun resources => { resources with connected := true } : AppAct Unit)
      (fun _ => Held .running) InOrder := .change fun _ held =>
    ⟨held.used, held.mappings, held.planes, held.camera, held.standing, held.acquired, held.started⟩
  refine .bind .get fun value => ?_
  refine .bind ((making _).weaken (fun _ valid => valid.2) (fun _ _ => id) fun _ => id) fun _ => ?_
  refine .bind cameraStart_ends fun ok => .bind (started ok) fun _ => ?_
  refine .bind flagged fun _ => .bind connected fun _ => .bind .get fun value => ?_
  exact (Ends.forEach queueFirst_ends _).weaken (fun _ valid => valid.2) (fun _ _ => id) fun _ => id

/-! ## Stopping -/

/-- The camera does not run, and no request is left. -/
def Idle (resources : Resources) : Prop :=
  InOrder resources ∧ resources.started = false ∧ resources.requests = [] ∧
    resources.connected = false

/-- A camera that does not run can lose its requests. -/
theorem InOrder.clearRequests (ordered : InOrder resources) (stopped : resources.started = false) :
    Idle resources.clearRequests := by
  rcases ordered with ⟨manager, rfl⟩ | ⟨stage, settled, held⟩
  · exact ⟨.inl ⟨manager, rfl⟩, rfl, rfl, rfl⟩
  · have apart : resources.stage ≠ .running := by
      intro running
      have flag := held.started
      rw [held.standing] at running
      simp [running, stopped] at flag
    have clear : resources.clearRequests =
        { resources with connected := false, requests := [] } := by
      simp [Resources.clearRequests, held.camera, apart]
    rw [clear]
    refine ⟨Held.inOrder ?_ settled, stopped, rfl, rfl⟩
    exact ⟨held.used, held.mappings, held.planes, held.camera, held.standing, held.acquired,
      held.started⟩

/-- The camera runs, and it is gone. -/
def Stuck (answers : Answers) (resources : Resources) : Prop :=
  Held .running resources ∧ resources.gone answers = true

/-- The camera is started only while it runs. -/
theorem InOrder.running (ordered : InOrder resources) (started : resources.started = true) :
    Held .running resources := by
  rcases ordered with ⟨manager, rfl⟩ | ⟨stage, -, held⟩
  · cases started
  · have flag := held.started
    rw [started] at flag
    obtain rfl : stage = .running := by simpa using flag.symm
    exact held

/-- `camera_->stop`, up to the flag. -/
theorem cameraStop_ends {thrown : Resources → Prop} :
    Ends (Held .running) (cameraStop answers)
      (fun ok resources => if ok then Held .configured { resources with started := false }
        else Stuck answers resources) thrown := by
  refine .bind (tells_isAccessAllowed (fun _ calls held => held.called calls) ?_) fun allowed => ?_
  · exact fun _ held => held.admitted le_rfl le_rfl
  · cases allowed with
    | false => exact .pure fun _ told => ⟨told.1, (told.2 rfl).2⟩
    | true =>
        have moved : Ends (fun resources => Held .running resources ∧
              (true = false → false = false ∧ resources.gone answers = true))
            (change fun resources => { resources with stage := .configured } : AppAct Unit)
            (fun _ resources => Held .configured { resources with started := false }) thrown := by
          refine .change fun _ told => ?_
          exact ⟨told.1.used, told.1.mappings, told.1.planes, told.1.camera, rfl,
            told.1.acquired, rfl⟩
        exact .bind moved fun _ => .pure fun _ held => held

/-- Stopping a started camera clears the flag, unless the camera is running and
gone. -/
theorem stopStarted_ends :
    Ends InOrder (stopStarted answers)
      (fun _ resources => InOrder resources ∧ resources.started = false) (Stuck answers) := by
  have tested : ∀ ok, Ends
      (fun resources => if ok = true then Held .configured { resources with started := false }
        else Stuck answers resources)
      (require ok "failed to stop camera")
      (fun _ resources => Held .configured { resources with started := false })
      (Stuck answers) := by
    intro ok
    refine .require (fun resources held accepted => ?_) fun resources stuck refused => ?_
    · rwa [if_pos accepted] at held
    · rwa [refused] at stuck
  refine .bind .get fun value => ?_
  split
  · rename_i started
    refine .bind (cameraStop_ends.weaken (fun _ valid => ?_) (fun _ _ => id) fun _ => id)
      fun ok => .bind (tested ok) fun _ => .change fun _ held => ?_
    · exact valid.2.running (valid.1 ▸ started)
    · exact ⟨Held.inOrder held (by decide), rfl⟩
  · rename_i stopped
    refine .pure fun _ valid => ⟨valid.2, ?_⟩
    rw [← valid.1]
    exact Bool.eq_false_iff.mpr stopped

/-- `StopCamera` ends with no request left, unless the camera is running and gone. -/
theorem stopCamera_ends :
    Ends InOrder (StopCamera answers) (fun _ => Idle) (Stuck answers) :=
  .bind stopStarted_ends fun _ => .change fun _ valid => valid.1.clearRequests valid.2

/-! ## Closing -/

/-- Unmapping the planes of a buffer whose mappings come first. -/
theorem foldl_unmap (addresses : List (Option Nat)) (rest : List Nat)
    (mapped : resources.mappings = addresses.reduceOption ++ rest) :
    addresses.foldl Resources.unmap resources = { resources with mappings := rest } := by
  induction addresses generalizing resources with
  | nil =>
      rw [List.reduceOption_nil, List.nil_append] at mapped
      rw [← mapped]
      rfl
  | cons address addresses ih =>
      cases address with
      | none => exact ih mapped
      | some address =>
          rw [List.reduceOption_cons_of_some, List.cons_append] at mapped
          have unmapped : resources.unmap (some address) =
              { resources with mappings := addresses.reduceOption ++ rest } := by
            simp [Resources.unmap, mapped]
          rw [List.foldl_cons, unmapped, ih rfl]

/-- Unmapping the buffers takes away all mappings. -/
theorem foldl_unmapBuffer (mapped : List (FrameBuffer × List (Option Nat)))
    (mappings : resources.mappings = mapped.flatMap fun entry => entry.2.reduceOption)
    (planes : ∀ entry ∈ mapped, (entry.1, entry.2.length) ∈ resources.live) :
    mapped.foldl Resources.unmapBuffer resources = { resources with mappings := [] } := by
  induction mapped generalizing resources with
  | nil =>
      rw [List.flatMap_nil] at mappings
      rw [← mappings]
      rfl
  | cons entry rest ih =>
      have unmapped : resources.unmapBuffer entry = { resources with
          mappings := rest.flatMap fun entry => entry.2.reduceOption } := by
        rw [Resources.unmapBuffer, if_pos (planes entry List.mem_cons_self)]
        exact foldl_unmap _ _ (by rw [mappings, List.flatMap_cons])
      rw [List.foldl_cons, unmapped, ih rfl fun other member => ?_]
      exact planes other (List.mem_cons_of_mem _ member)

/-- The resources without the camera. -/
def Resources.closed (resources : Resources) : Resources :=
  { resources with stage := .available, acquired := false, camera := false, manager := false }

/-- What is left behind `Teardown`: the camera. -/
structure TornDown (resources : Resources) : Prop where
  emptied : Released resources.closed
  camera : resources.acquired = true → resources.camera = true ∧ resources.stage.rank ≤ 2
  free : resources.acquired = false → resources.stage = .available

/-- `Teardown` of an idle app leaves the camera only. -/
theorem Idle.teardown (idle : Idle resources) : TornDown resources.teardown := by
  obtain ⟨ordered, stopped, requests, connected⟩ := idle
  rcases ordered with ⟨manager, rfl⟩ | ⟨stage, settled, held⟩
  · exact ⟨⟨0, 0, 0, rfl⟩, by simp [Resources.teardown, Resources.fresh], fun _ => rfl⟩
  · have torn : resources.teardown = { resources with
        mappings := [], mapped := [], allocator := none, configuration := [],
        frameBuffers := [] } := by
      simp [Resources.teardown, foldl_unmapBuffer _ held.mappings held.planes, requests]
    rw [torn]
    refine ⟨?_, ?_, ?_⟩
    · refine ⟨resources.calls, resources.nextAddress, resources.nextBuffer, ?_⟩
      simp [Resources.closed, Resources.fresh, held.used, requests, stopped, connected]
    · intro _
      refine ⟨held.camera, ?_⟩
      have flag := held.started
      rw [stopped] at flag
      change resources.stage.rank ≤ 2
      rw [held.standing]
      cases stage with
      | available | acquired | configured => decide
      | stopping => exact absurd rfl settled
      | running => cases flag
    · intro free
      have flag := held.acquired
      rw [free] at flag
      exact held.standing.trans (by simpa using flag.symm)

/-- `CloseCamera` releases the camera, and cannot throw behind `Teardown`. -/
theorem closeCamera_ends {thrown : Resources → Prop} :
    Ends TornDown (CloseCamera answers) (fun _ => Released) thrown := by
  -- the camera is available, and only the app still has it
  have gaveUp : ∀ resources : Resources, Released resources.closed →
      resources.stage = .available → Released resources.giveUp := by
    intro resources emptied available
    obtain ⟨_, _, _, same⟩ := emptied
    have none : resources.allocator = none := congrArg Resources.allocator same
    have closed : resources.giveUp = resources.closed := by
      simp [Resources.giveUp, Resources.closed, none, available]
    exact ⟨_, _, _, closed.trans same⟩
  have released : Ends TornDown (releaseAcquired answers)
      (fun _ resources => Released resources.closed ∧ resources.stage = .available) thrown := by
    refine .bind .get fun value => ?_
    split
    · rename_i acquired
      have admitted : Ends (fun resources => TornDown resources ∧ resources.acquired = true)
          (isAccessAllowed answers .available .configured true)
          (fun allowed resources => (TornDown resources ∧ resources.acquired = true) ∧
            (allowed = false → true = false ∧ resources.gone answers = true)) thrown := by
        refine tells_isAccessAllowed (fun _ calls valid => ?_) fun resources valid => ?_
        · refine ⟨⟨?_, valid.1.camera, valid.1.free⟩, valid.2⟩
          obtain ⟨_, nextAddress, nextBuffer, same⟩ := valid.1.emptied
          exact ⟨calls, nextAddress, nextBuffer,
            congrArg (fun closed : Resources => { closed with calls }) same⟩
        · obtain ⟨camera, below⟩ := valid.1.camera valid.2
          exact ⟨camera, Nat.zero_le _, below⟩
      refine .bind (admitted.weaken (fun _ valid => ?_) (fun _ _ => id) fun _ => id)
        fun allowed => ?_
      · exact ⟨valid.2, valid.1 ▸ acquired⟩
      · cases allowed with
        | true => exact .change fun _ told => ⟨told.1.1.emptied, rfl⟩
        | false => exact .pure fun _ told => absurd (told.2 rfl).1 (by decide)
    · rename_i free
      refine .pure fun _ valid => ⟨valid.2.emptied, valid.2.free ?_⟩
      rw [← valid.1]
      exact Bool.eq_false_iff.mpr free
  exact .bind released fun _ => .change fun _ valid => gaveUp _ valid.1 valid.2

/-- The destructor of the app. -/
theorem destroyApp_ends (answers : Answers) :
    Ends InOrder (destroyApp answers) (fun _ => Released) (Stuck answers) := by
  have teardown : Ends Idle Teardown (fun _ => TornDown) (Stuck answers) :=
    .change fun _ idle => idle.teardown
  exact .bind stopCamera_ends fun _ => .bind teardown fun _ => closeCamera_ends

/-! ## A session -/

/-- A running camera that is gone is still in order for the destructor. -/
theorem Stuck.inOrder (stuck : Stuck answers resources) : InOrder resources :=
  stuck.1.inOrder (by decide)

/-- However `event_loop` ends, the destructor finds the app in order. -/
theorem eventLoop_ends (answers : Answers) :
    Ends (· = Resources.fresh) (event_loop answers) (fun _ => InOrder) InOrder := by
  have turns : Ends (Held .running) (loopTurns answers) (fun _ => InOrder) InOrder := by
    have counted : Ends (Held .running)
        (change fun resources =>
          { resources with calls := resources.calls + answers.loop.1 } : AppAct Unit)
        (fun _ => Held .running) InOrder := .change fun _ held => held.called _
    refine .bind counted fun _ => ?_
    cases answers.loop.2 with
    | none => exact .pure fun _ held => held.inOrder (by decide)
    | some error => exact .throw fun _ held => Held.inOrder held (by decide)
  have stop : Ends InOrder (StopCamera answers) (fun _ => InOrder) InOrder :=
    stopCamera_ends.weaken (fun _ => id) (fun _ _ idle => idle.1) fun _ stuck => stuck.inOrder
  exact .bind openCamera_ends fun _ => .bind configureVideo_ends fun _ =>
    .bind startCamera_ends fun _ => .bind turns fun _ => stop

/-- A running camera that is gone cannot be stopped. -/
theorem stuck_destroyApp :
    Ends (Stuck answers) (destroyApp answers) (fun _ _ => False) (Stuck answers) := by
  have refused : Ends (Stuck answers) (cameraStop answers)
      (fun ok resources => ok = false ∧ Stuck answers resources) (Stuck answers) := by
    have told : Ends (Stuck answers) (isAccessAllowed answers .running .running false)
        (fun allowed resources => allowed = false ∧ Stuck answers resources)
        (Stuck answers) := by
      intro resources stuck
      have rank : resources.stage.rank = CameraStage.running.rank := by rw [stuck.1.standing]
      rw [isAccessAllowed_eq stuck.1.camera rank.ge rank.le, stuck.2]
      exact ⟨rfl, stuck.1.called _, Resources.gone_called stuck.2⟩
    refine .bind told fun allowed => .assume fun none => ?_
    rw [none]
    exact .pure fun _ stuck => ⟨rfl, stuck⟩
  have stopping : Ends (Stuck answers) (stopStarted answers) (fun _ _ => False)
      (Stuck answers) := by
    refine .bind .get fun value => ?_
    split
    · refine .bind (refused.weaken (fun _ valid => valid.2) (fun _ _ => id) fun _ => id)
        fun ok => .assume fun none => ?_
      rw [none]
      exact .bind (.throw fun _ => id) fun _ => .never
    · rename_i stopped
      exact .pure fun _ valid => stopped (valid.1 ▸ valid.2.1.started)
  exact .bind (.bind stopping fun _ => .never) fun _ => .never

/-- The destructor throws for no other reason. -/
theorem lost_destroyApp (answers : Answers) (lost : Prop) :
    Ends (fun resources => InOrder resources ∧
        (resources.stage = .running → resources.gone answers = true → lost))
      (destroyApp answers) (fun _ _ => True) (fun _ => lost) := by
  have silent : ∀ low high allowDisconnected, Ends (fun _ => True)
      (isAccessAllowed answers low high allowDisconnected) (fun _ _ => True) (fun _ => lost) := by
    intro low high allowDisconnected resources _
    unfold isAccessAllowed
    split_ifs <;> trivial
  have closing : Ends (fun _ => True) (CloseCamera answers) (fun _ _ => True) (fun _ => lost) := by
    have releasing : Ends (fun _ => True) (release answers) (fun _ _ => True) (fun _ => lost) := by
      refine .bind (silent _ _ _) fun allowed => ?_
      cases allowed with
      | true => exact .change fun _ _ => trivial
      | false => exact .pure fun _ _ => trivial
    have released : Ends (fun _ => True) (releaseAcquired answers) (fun _ _ => True)
        (fun _ => lost) := by
      refine .bind .get fun value => ?_
      split
      · exact releasing.weaken (fun _ _ => trivial) (fun _ _ => id) fun _ => id
      · exact .pure fun _ _ => trivial
    exact .bind released fun _ => .change fun _ _ => trivial
  have stop : Ends (fun resources => Held .running resources ∧
        (resources.stage = .running → resources.gone answers = true → lost))
      (cameraStop answers) (fun ok _ => ok = false → lost) (fun _ => lost) := by
    have asked : Ends (fun resources => Held .running resources ∧
          (resources.stage = .running → resources.gone answers = true → lost))
        (isAccessAllowed answers .running .running false) (fun allowed _ => allowed = false → lost)
        (fun _ => lost) := by
      intro resources valid
      have rank : resources.stage.rank = CameraStage.running.rank := by rw [valid.1.standing]
      rw [isAccessAllowed_eq valid.1.camera rank.ge rank.le]
      intro refused
      exact valid.2 valid.1.standing (by simpa using refused)
    have moved : Ends (fun _ => True)
        (change fun resources => { resources with stage := .configured } : AppAct Unit)
        (fun _ _ => True) (fun _ => lost) := .change fun _ _ => trivial
    refine .bind asked fun allowed => ?_
    cases allowed with
    | false => exact .pure fun _ why _ => why rfl
    | true =>
        refine .bind (moved.weaken (fun _ _ => trivial) (fun _ _ => id) fun _ => id) fun _ => ?_
        exact .pure fun _ _ other => by cases other
  have stopping : Ends (fun resources => InOrder resources ∧
        (resources.stage = .running → resources.gone answers = true → lost))
      (stopStarted answers) (fun _ _ => True) (fun _ => lost) := by
    have tested : ∀ ok, Ends (fun _ => ok = false → lost)
        (require ok "failed to stop camera" : AppAct Unit) (fun _ _ => True) (fun _ => lost) :=
      fun ok => .require (fun _ _ _ => trivial) fun _ why refused => why refused
    refine .bind .get fun value => ?_
    split
    · rename_i started
      refine .bind (stop.weaken (fun _ valid => ⟨valid.2.1.running (valid.1 ▸ started), valid.2.2⟩)
        (fun _ _ => id) fun _ => id) fun ok => ?_
      exact .bind (tested ok) fun _ => .change fun _ _ => trivial
    · exact .pure fun _ _ => trivial
  have cleared : Ends (fun _ => True) (change Resources.clearRequests : AppAct Unit)
      (fun _ _ => True) (fun _ => lost) := .change fun _ _ => trivial
  have torn : Ends (fun _ => True) Teardown (fun _ _ => True) (fun _ => lost) :=
    .change fun _ _ => trivial
  exact .bind (.bind stopping fun _ => cleared) fun _ => .bind torn fun _ => closing

/-- That holds of the state in which `event_loop` is left. -/
theorem leaveLoop_inOrder (answers : Answers) : InOrder (leaveLoop answers).2 := by
  have ends := eventLoop_ends answers Resources.fresh rfl
  unfold leaveLoop
  cases left : event_loop answers Resources.fresh with
  | ok _ _ | error _ _ =>
      rw [left] at ends
      exact ends

/-- Whatever libcamera and the kernel answer, no resource is used out of order, and
`kcStartCameraLoop` ends with all of them given back, unless the camera was unplugged
while it ran: then, and only then, the process terminates. -/
theorem released_unless_unplugged (answers : Answers) :
    (kcStartCameraLoop answers).2.misuses = [] ∧
      ((kcStartCameraLoop answers).1 = .terminated ↔
        (leaveLoop answers).2.stage = .running ∧ (leaveLoop answers).2.gone answers = true) ∧
      ((kcStartCameraLoop answers).1 ≠ .terminated → Released (kcStartCameraLoop answers).2) := by
  have ordered := leaveLoop_inOrder answers
  have ends := destroyApp_ends answers _ ordered
  have stuck : (leaveLoop answers).2.stage = .running →
      (leaveLoop answers).2.gone answers = true → Stuck answers (leaveLoop answers).2 := by
    intro running gone
    rcases ordered with ⟨manager, same⟩ | ⟨stage, -, held⟩
    · rw [same] at running
      cases running
    · obtain rfl := held.standing.symm.trans running
      exact ⟨held, gone⟩
  cases closed : destroyApp answers (leaveLoop answers).2 with
  | ok _ after =>
      have result : kcStartCameraLoop answers =
          ((leaveLoop answers).1.elim .returned .caught, after) := by
        rw [kcStartCameraLoop, closed]
      rw [closed] at ends
      obtain ⟨_, _, _, same⟩ := ends
      have unstuck : ¬Stuck answers (leaveLoop answers).2 := by
        intro stays
        have never := stuck_destroyApp _ stays
        rwa [closed] at never
      rw [result]
      refine ⟨by rw [same]; rfl, ⟨fun ended => ?_, fun lost => ?_⟩, fun _ => ⟨_, _, _, same⟩⟩
      · cases thrown : (leaveLoop answers).1 <;> simp [thrown] at ended
      · exact absurd (stuck lost.1 lost.2) unstuck
  | error _ after =>
      have result : kcStartCameraLoop answers = (.terminated, after) := by
        rw [kcStartCameraLoop, closed]
      rw [closed] at ends
      rw [result]
      have why := lost_destroyApp answers
        ((leaveLoop answers).2.stage = .running ∧ (leaveLoop answers).2.gone answers = true) _
        ⟨ordered, fun running gone => ⟨running, gone⟩⟩
      rw [closed] at why
      exact ⟨ends.1.used, ⟨fun _ => why, fun _ => rfl⟩, fun other => absurd rfl other⟩

end

end KCamera.App
