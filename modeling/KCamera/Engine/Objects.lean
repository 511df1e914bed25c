import KCamera.Engine.Effects

/-!
# What happens to Cameras and Streamers

Every operation leaves a Streamer alone, changes it without giving it another
list, makes it or frees it. Few operations change which Camera there is, where
`g_params` points, and which Streamer the Camera keeps.
-/

namespace KCamera

namespace World

/-- `g_camera->m_streamerObject`. -/
def streamObject (world : World) : Option StreamerId :=
  (world.camera.bind world.cameras).bind Camera.streamerObject

end World

variable {thread : Tid} {choice : Choice} {operation : Op} {world next : World}
  {response : operation.Resp}

/-! ## Streamers -/

/-- What an operation does to the Streamer of one identity. -/
inductive StreamerEffect (world next : World) (operation : Op) (streamer : StreamerId) : Prop where
  | same (kept : next.streamers streamer = world.streamers streamer)
  | changed {found moved : Streamer} (before : world.streamers streamer = some found)
      (after : next.streamers streamer = some moved) (record : moved.record = found.record)
  | made (fresh : streamer = world.nextStreamer) (counted : next.nextStreamer = streamer + 1)
      (operation_eq : (∃ origin, operation = .newStreamer origin) ∨ operation = .newLoader)
      (after : (next.streamers streamer).isSome)
  | freed (operation_eq : operation = .freeStreamer streamer)
      (after : next.streamers streamer = none)

/-- A change of one Streamer that keeps its list. -/
theorem StreamerEffect.of_setStreamer {streamer other : StreamerId} {found moved : Streamer}
    (live : world.streamers other = some found)
    (streamers : next.streamers = (world.setStreamer other moved).streamers)
    (record : moved.record = found.record) : StreamerEffect world next operation streamer := by
  by_cases same : streamer = other
  · subst same
    exact .changed live (by simp [streamers, World.setStreamer]) record
  · exact .same (by simp [streamers, World.setStreamer, same])

/-- A change of one Streamer that keeps its record, as an effect. -/
theorem StreamerEffect.of_onStreamer {streamer other : StreamerId} {change : Streamer → Streamer}
    (streamers : next.streamers = (world.onStreamer other change).streamers)
    (record : ∀ found, (change found).record = found.record) :
    StreamerEffect world next operation streamer := by
  unfold World.onStreamer at streamers
  split at streamers
  · exact .same (by rw [streamers]; rfl)
  · rename_i found live
    exact .of_setStreamer live streamers (record found)

/-- What an operation does to a Streamer. -/
theorem Op.run_streamers
    (executed : operation.run thread choice world = some (next, response))
    (streamer : StreamerId) : StreamerEffect world next operation streamer := by
  by_cases touched : Part.streamers ∈ operation.touches
  · cases operation with
    | newStreamer origin =>
        have value := result_eq executed
        simp only [World.newStreamer] at value
        split at value
        · by_cases same : streamer = world.nextStreamer
          · exact .made same (by rw [value, same]; rfl) (.inl ⟨origin, rfl⟩)
              (by rw [value, same]; simp [World.setStreamer])
          · exact .same (by simp [value, World.setStreamer, same])
        · split at value
          · exact .same (by rw [value]; rfl)
          · by_cases same : streamer = world.nextStreamer
            · exact .made same (by rw [value, same]; rfl) (.inl ⟨origin, rfl⟩)
                (by rw [value, same]; simp [World.setStreamer])
            · exact .same (by simp [value, World.setStreamer, same])
    | newLoader =>
        have value := result_eq executed
        by_cases same : streamer = world.nextStreamer
        · exact .made same (by rw [value, same]; rfl) (.inr rfl)
            (by rw [value, same]; simp [World.newLoader, World.setStreamer])
        · exact .same (by simp [value, World.newLoader, World.setStreamer, World.setList, same])
    | freeStreamer other =>
        have value := result_eq executed
        by_cases same : streamer = other
        · exact .freed (by rw [same]) (by simp [value, same])
        · exact .same (by simp [value, same])
    | noteIndex other list =>
        have value := result_eq executed
        dsimp only at value
        split at value
        · exact .same (by rw [value]; rfl)
        · exact .of_onStreamer (congrArg World.streamers value) fun _ => rfl
    | setStreamerShift other startShift | setStreamerDuration other duration =>
        exact .of_onStreamer (congrArg World.streamers (result_eq executed)) fun _ => rfl
    | makeArray other frame bytes =>
        have value := result_eq executed
        simp only [World.makeArray] at value
        split at value
        · exact .same (by rw [value]; rfl)
        · rename_i found live
          split at value
          · exact .same (by rw [value]; rfl)
          · split at value
            · have counted : next.streamers =
                  (world.setStreamer other { found with index := found.index + 1 }).streamers := by
                rw [value]
                rfl
              exact .of_setStreamer live counted rfl
            · exact .same (by rw [value]; rfl)
    | _ => simp [Op.touches] at touched
  · exact .same (congrFun (Op.run_agree executed touched).1 streamer)

/-- Identities of Streamers are given out in order. -/
theorem Op.run_nextStreamer
    (executed : operation.run thread choice world = some (next, response)) :
    next.nextStreamer = world.nextStreamer ∨
      next.nextStreamer = world.nextStreamer + 1 ∧
        ((∃ origin, operation = .newStreamer origin) ∨ operation = .newLoader) := by
  by_cases touched : Part.streamers ∈ operation.touches
  · cases operation with
    | newStreamer origin =>
        have value := result_eq executed
        simp only [World.newStreamer] at value
        split at value
        · exact .inr ⟨by rw [value]; rfl, .inl ⟨origin, rfl⟩⟩
        · split at value <;> exact .inr ⟨by rw [value]; rfl, .inl ⟨origin, rfl⟩⟩
    | newLoader => exact .inr ⟨by rw [result_eq executed]; rfl, .inr rfl⟩
    | freeStreamer other => exact .inl (by rw [result_eq executed])
    | noteIndex other list =>
        have value := result_eq executed
        dsimp only at value
        split at value
        · exact .inl (by rw [value]; rfl)
        · unfold World.onStreamer at value
          split at value <;> exact .inl (by rw [value]; rfl)
    | setStreamerShift other startShift | setStreamerDuration other duration =>
        have value := result_eq executed
        simp only [World.onStreamer] at value
        split at value <;> exact .inl (by rw [value]; rfl)
    | makeArray other frame bytes =>
        have value := result_eq executed
        simp only [World.makeArray] at value
        split at value
        · exact .inl (by rw [value]; rfl)
        · split at value
          · exact .inl (by rw [value]; rfl)
          · split at value <;> exact .inl (by rw [value]; rfl)
    | _ => simp [Op.touches] at touched
  · exact .inl (Op.run_agree executed touched).2

/-- Without undefined behaviour a new Streamer is there. -/
theorem Op.run_newStreamer {origin : Origin} {streamer : StreamerId}
    (executed : Op.run thread choice world (.newStreamer origin) = some (next, streamer))
    (sound : next.fault = none) : (next.streamers streamer).isSome := by
  simp only [Op.run, World.newStreamer] at executed
  split at executed
  · cases executed
    simp [World.setStreamer]
  · split at executed
    · cases executed
      simp [World.fail] at sound
    · cases executed
      simp [World.setStreamer]

/-! ## Cameras -/

/-- What an operation does to `g_camera`, `g_params` and the Streamer that the
Camera keeps. -/
inductive CameraEffect (world next : World) (operation : Op) : Prop where
  | same (agree : Agree world next .cameras)
  | created (operation_eq : operation = .newCamera) (none : world.camera = none)
      (after : next.camera = some world.nextCamera) (params : next.params = world.params)
      (cameras : next.cameras =
        Function.update world.cameras world.nextCamera (some ⟨default, Option.none⟩))
  | freed {camera : CameraId} (operation_eq : operation = .freeCamera)
      (before : world.camera = some camera) (after : next.camera = none)
      (params : next.params = world.params)
      (cameras : next.cameras = Function.update world.cameras camera none)
  | pointed {camera : CameraId} (operation_eq : operation = .initParams camera)
      (after : next.camera = world.camera) (params : next.params = some camera)
      (cameras : ∀ other, (next.cameras other).map Camera.streamerObject =
        (world.cameras other).map Camera.streamerObject)
  | kept {streamer : StreamerId} (operation_eq : operation = .keepStreamObject streamer)
      (after : next.camera = world.camera) (params : next.params = world.params)
      (alive : ∀ other, (next.cameras other).isSome = (world.cameras other).isSome)
      (object : ∀ other, next.streamObject = some other → other = streamer)
  | called {streamer : StreamerId} (operation_eq : operation = .streamCallback streamer)
      (after : next.camera = world.camera) (params : next.params = world.params)
      (alive : ∀ other, (next.cameras other).isSome = (world.cameras other).isSome)
      (object : ∀ other, next.streamObject = some other →
        other ≠ streamer ∧ world.streamObject = some other)

/-- Changing the Camera object keeps `g_camera` and `g_params`, and frees nothing. -/
theorem World.onCamera_alive (world : World) (change : Camera → Camera) :
    (world.onCamera change).camera = world.camera ∧
      (world.onCamera change).params = world.params ∧
      ∀ other, ((world.onCamera change).cameras other).isSome = (world.cameras other).isSome := by
  unfold onCamera
  split
  · exact ⟨rfl, rfl, fun _ => rfl⟩
  · rename_i camera _
    refine ⟨rfl, rfl, fun other => ?_⟩
    by_cases same : other = camera
    · simp [same]
    · simp [same]

/-- The Streamer that a changed Camera keeps. -/
theorem World.onCamera_streamObject {world : World} {change : Camera → Camera}
    {streamer : StreamerId}
    (object : (world.onCamera change).streamObject = some streamer) :
    ∃ camera found, world.camera = some camera ∧ world.cameras camera = some found ∧
      (change found).streamerObject = some streamer := by
  unfold streamObject onCamera at object
  split at object
  · rename_i absent
    simp [absent] at object
  · rename_i camera present
    cases found : world.cameras camera with
    | none => simp [present, found] at object
    | some before => exact ⟨camera, before, present, found, by simpa [present, found] using object⟩

/-- The Camera keeps the Streamer that `camera_stream` made. -/
theorem Op.run_keepStreamObject {streamer other : StreamerId}
    {response : Op.Resp (.keepStreamObject streamer)}
    (executed : Op.run thread choice world (.keepStreamObject streamer) = some (next, response))
    (object : next.streamObject = some other) : other = streamer := by
  rw [result_eq executed] at object
  obtain ⟨_, _, _, _, same⟩ := World.onCamera_streamObject object
  exact (Option.some.inj same).symm

/-- The Camera gives up the Streamer that calls back, and keeps any other. -/
theorem Op.run_streamCallback {streamer other : StreamerId}
    {response : Op.Resp (.streamCallback streamer)}
    (executed : Op.run thread choice world (.streamCallback streamer) = some (next, response))
    (object : next.streamObject = some other) :
    other ≠ streamer ∧ world.streamObject = some other := by
  rw [result_eq executed] at object
  obtain ⟨camera, found, present, live, same⟩ := World.onCamera_streamObject object
  split at same
  · cases same
  · rename_i different
    refine ⟨?_, by simp [World.streamObject, present, live, same]⟩
    rintro rfl
    exact different same

/-- What an operation does to the Camera. -/
theorem Op.run_cameras
    (executed : operation.run thread choice world = some (next, response)) :
    CameraEffect world next operation := by
  by_cases touched : Part.cameras ∈ operation.touches
  · cases operation with
    | newCamera =>
        have value := result_eq executed
        simp only [World.newCamera] at value
        split at value
        · exact .same (by rw [value]; exact .refl _ _)
        · rename_i absent
          exact .created rfl absent (by rw [value]) (by rw [value]) (by rw [value])
    | freeCamera =>
        have value := result_eq executed
        simp only [World.freeCamera] at value
        split at value
        · exact .same (by rw [value]; exact .refl _ _)
        · rename_i camera present
          exact .freed rfl present (by rw [value]) (by rw [value]) (by rw [value])
    | initParams camera =>
        have value := result_eq executed
        have pointed : Agree { world with params := some camera } next .cameras := by
          rw [value]
          exact world.initParams_pointed camera (by simp) (by simp) (by simp)
        exact .pointed rfl pointed.1 pointed.2.1 pointed.2.2
    | keepStreamObject streamer =>
        have value := result_eq executed
        obtain ⟨camera, params, alive⟩ := world.onCamera_alive
          fun camera => { camera with streamerObject := some streamer }
        exact .kept rfl (by rw [value, camera]) (by rw [value, params])
          (fun other => by rw [value, alive]) fun other object => run_keepStreamObject executed object
    | streamCallback streamer =>
        have value := result_eq executed
        obtain ⟨camera, params, alive⟩ := world.onCamera_alive fun camera =>
          if camera.streamerObject = some streamer then { camera with streamerObject := none }
          else camera
        exact .called rfl (by rw [value, camera]) (by rw [value, params])
          (fun other => by rw [value, alive]) fun other object => run_streamCallback executed object
    | _ => simp [Op.touches] at touched
  · exact .same (Op.run_agree executed touched)

end KCamera
