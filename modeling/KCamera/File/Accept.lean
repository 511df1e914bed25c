import KCamera.File.RoundTrip

/-!
# What the loader accepts

`streamer_load` succeeds on complete records followed by fewer than four
bytes, and takes every record's frame as it is: it neither compares the size
of a record with the dimensions in the frame's header nor notices stray bytes
at the end of the file.
-/

namespace KCamera

/-- `kcCopyFrame`, `save` and the numpy array read inside the frame's block. -/
structure KcFrame.InBounds (frame : KcFrame) : Prop where
  copied : (kcSizeofFrame frame).toNat ≤ frame.mem.length
  exported : dataOffset + frame.width.toNat * frame.height.toNat * 3 ≤ frame.mem.length

/-- Only the block's bytes matter. -/
theorem KcFrame.inBounds_mem (frame : KcFrame) :
    (KcFrame.mk 0 frame.mem).InBounds ↔ frame.InBounds :=
  ⟨fun ⟨copied, exported⟩ => ⟨copied, exported⟩, fun ⟨copied, exported⟩ => ⟨copied, exported⟩⟩

/-- A concatenation of complete records whose sizes cover the header and what
the header asks for. -/
def WellFormed (bytes : List UInt8) : Prop :=
  ∃ blobs, Records bytes blobs [] ∧ ∀ blob ∈ blobs,
    dataOffset ≤ blob.length ∧ (kcSizeofFrame ⟨0, blob⟩).toNat ≤ blob.length

/-- Loading succeeds on exactly the well-formed files, and yields one frame for
each record, in file order, that every reader stays inside of. -/
def Accepts (bytes : List UInt8) (turns : Nat → LoadTurn) : Prop :=
  let loaded := streamerLoad (flistInit 0 0) (some bytes) turns
  (loaded.error = none ↔ WellFormed bytes) ∧
    (loaded.error = none → ∃ cells blobs, Anchored loaded.list cells ∧ Records bytes blobs [] ∧
      (framesOf cells).map KcFrame.mem = blobs ∧ ∀ frame ∈ framesOf cells, frame.InBounds)

/-- The file is complete records and at most three more bytes, but it has such
bytes or a block too small for its own header. -/
def Overlooked (bytes : List UInt8) : Prop :=
  ∃ blobs rest, Records bytes blobs rest ∧ rest.length < 4 ∧
    (rest ≠ [] ∨ ∃ blob ∈ blobs, ¬(KcFrame.mk 0 blob).InBounds)

/-- Two records at the front of the same bytes hold the same block. -/
theorem record_append_inj {blob blob' rest rest' : List UInt8} (sized : blob.length < 2 ^ 32)
    (sized' : blob'.length < 2 ^ 32) (same : record blob ++ rest = record blob' ++ rest') :
    blob = blob' ∧ rest = rest' := by
  simp only [record, List.append_assoc] at same
  obtain ⟨_, behindMagic⟩ := List.append_inj same (by simp)
  obtain ⟨sizes, behindSize⟩ := List.append_inj behindMagic (by simp)
  have values := congrArg leNat sizes
  rw [leNat_leBytes, leNat_leBytes] at values
  exact List.append_inj behindSize (by omega)

/-- A file divides into records in one way only, with less than a magic word behind them. -/
theorem Records.unique {bytes rest rest' : List UInt8} {blobs blobs' : List (List UInt8)}
    (file : Records bytes blobs rest) (file' : Records bytes blobs' rest')
    (short : rest.length < 4) (short' : rest'.length < 4) : blobs = blobs' ∧ rest = rest' := by
  induction blobs generalizing bytes blobs' with
  | nil =>
      have same := file.split.symm.trans file'.split
      cases blobs' with
      | nil => exact ⟨rfl, same⟩
      | cons blob' blobs' =>
          have lengths := congrArg List.length same
          simp only [List.flatMap_nil, List.nil_append, List.flatMap_cons, List.length_append,
            record_length] at lengths
          omega
  | cons blob blobs ih =>
      have same := file.split.symm.trans file'.split
      cases blobs' with
      | nil =>
          have lengths := congrArg List.length same
          simp only [List.flatMap_nil, List.nil_append, List.flatMap_cons, List.length_append,
            record_length] at lengths
          omega
      | cons blob' blobs' =>
          simp only [List.flatMap_cons, List.append_assoc] at same
          obtain ⟨rfl, behind⟩ := record_append_inj (file.sized _ List.mem_cons_self)
            (file'.sized _ List.mem_cons_self) same
          have sized : ∀ other ∈ blobs, other.length < 2 ^ 32 := fun other member =>
            file.sized other (List.mem_cons_of_mem _ member)
          have sized' : ∀ other ∈ blobs', other.length < 2 ^ 32 := fun other member =>
            file'.sized other (List.mem_cons_of_mem _ member)
          obtain ⟨rfl, rfl⟩ := ih ⟨rfl, sized⟩ ⟨behind, sized'⟩
          exact ⟨rfl, rfl⟩

/-- What one turn reads off the front of a file is a record. -/
theorem Records.cons {bytes rest : List UInt8} {blobs : List (List UInt8)}
    (word : (bytes.take 4).length = 4) (isMagic : leNat (bytes.take 4) = magic)
    (sized : ((bytes.drop 4).take 4).length = 4)
    (complete : (((bytes.drop 4).drop 4).take (leNat ((bytes.drop 4).take 4))).length =
      leNat ((bytes.drop 4).take 4))
    (file : Records (((bytes.drop 4).drop 4).drop (leNat ((bytes.drop 4).take 4))) blobs rest) :
    Records bytes (((bytes.drop 4).drop 4).take (leNat ((bytes.drop 4).take 4)) :: blobs) rest where
  split := by
    have magicBytes : leBytes 4 magic = bytes.take 4 := by
      have encoded := leBytes_leNat (bytes.take 4)
      rwa [word, isMagic] at encoded
    have sizeBytes : leBytes 4 (leNat ((bytes.drop 4).take 4)) = (bytes.drop 4).take 4 := by
      have encoded := leBytes_leNat ((bytes.drop 4).take 4)
      rwa [sized] at encoded
    rw [List.flatMap_cons, List.append_assoc, ← file.split, record, complete, magicBytes,
      sizeBytes, List.append_assoc, List.append_assoc, List.take_append_drop,
      List.take_append_drop, List.take_append_drop]
  sized := by
    intro blob member
    rcases List.mem_cons.mp member with rfl | old
    · have bound := leNat_lt ((bytes.drop 4).take 4)
      rw [sized] at bound
      rw [complete]
      exact bound
    · exact file.sized blob old

/-- A successful load read complete records up to the last three bytes. -/
theorem loadLoop_inv {turns : Nat → LoadTurn} {turn : Nat} {list : FrameList}
    {bytes : List UInt8} (accepted : (loadLoop turns turn list bytes).error = none) :
    ∃ blobs rest, Records bytes blobs rest ∧ rest.length < 4 := by
  fun_induction loadLoop turns turn list bytes with
  | case2 turn list bytes _ _ short =>
      exact ⟨[], bytes, ⟨rfl, by simp⟩, by simpa using short⟩
  | case1 | case3 | case4 | case5 | case6 => cases accepted
  | case7 turn list bytes _ head _ sized block _ _ _ complete _ _ _ ih
  | case8 turn list bytes _ head _ sized block _ _ _ complete _ _ _ ih =>
      obtain ⟨blobs, rest, file, short⟩ := ih accepted
      push Not at head
      exact ⟨_, rest, file.cons head.1 head.2 (not_not.mp sized) (not_not.mp complete), short⟩

/-- The loader does what it should on exactly the files in which it has nothing
to overlook. -/
theorem accepts_iff (bytes : List UInt8) (turns : Nat → LoadTurn)
    (ready : ∀ blobs rest, Records bytes blobs rest → Succeeds turns blobs.length) :
    Accepts bytes turns ↔ ¬Overlooked bytes := by
  constructor
  · rintro ⟨_, sound⟩ ⟨blobs, rest, file, short, bad⟩
    obtain ⟨list, cells, loaded, shape, _, mems⟩ :=
      streamerLoad_records file short (ready blobs rest file)
    rw [loaded] at sound
    obtain ⟨cells', blobs', shape', file', mems', inside⟩ := sound rfl
    have sameCells := shape.toChained.unique shape'.toChained
    subst sameCells
    have sameBlobs : blobs = blobs' := by rw [← mems, mems']
    subst sameBlobs
    rcases bad with stray | ⟨blob, member, outside⟩
    · have whole := file.split.symm.trans file'.split
      exact stray (List.append_cancel_left whole)
    · rw [← mems] at member
      obtain ⟨frame, found, rfl⟩ := List.mem_map.mp member
      exact outside ((KcFrame.inBounds_mem frame).mpr (inside frame found))
  · intro sound
    have inspected : ∀ blobs rest, Records bytes blobs rest → rest.length < 4 →
        rest = [] ∧ ∀ blob ∈ blobs, (KcFrame.mk 0 blob).InBounds := by
      intro blobs rest file short
      refine ⟨?_, fun blob member => ?_⟩
      · by_contra stray
        exact sound ⟨blobs, rest, file, short, .inl stray⟩
      · by_contra outside
        exact sound ⟨blobs, rest, file, short, .inr ⟨blob, member, outside⟩⟩
    refine ⟨⟨fun accepted => ?_, fun ⟨blobs, file, _⟩ => ?_⟩, fun accepted => ?_⟩
    · obtain ⟨blobs, rest, file, short⟩ := loadLoop_inv accepted
      obtain ⟨rfl, inside⟩ := inspected blobs rest file short
      refine ⟨blobs, file, fun blob member => ⟨?_, (inside blob member).copied⟩⟩
      exact (Nat.le_add_right _ _).trans (inside blob member).exported
    · obtain ⟨list, cells, loaded, _⟩ :=
        streamerLoad_records file (by simp) (ready blobs [] file)
      simp [loaded]
    · obtain ⟨blobs, rest, file, short⟩ := loadLoop_inv accepted
      obtain ⟨rfl, inside⟩ := inspected blobs rest file short
      obtain ⟨list, cells, loaded, shape, _, mems⟩ :=
        streamerLoad_records file short (ready blobs [] file)
      rw [loaded]
      refine ⟨cells, blobs, shape, file, mems, fun frame member => ?_⟩
      exact (KcFrame.inBounds_mem frame).mp (inside frame.mem (mems ▸ List.mem_map_of_mem member))

/-- A file of three frames. -/
def threeFile : List UInt8 := (framesOf threeCells).flatMap saveFrame

/-- The allocator grants everything that the three records need. -/
theorem threeFile_ready {blobs : List (List UInt8)} {rest : List UInt8}
    (file : Records threeFile blobs rest) : Succeeds steadyTurns blobs.length := by
  have bound := file.length_le
  have length : threeFile.length = 210 := by
    simp only [threeFile, threeCells, framesOf, List.map_cons, List.map_nil, List.flatMap_cons,
      List.flatMap_nil, saveFrame_eq_record, List.length_append, record_length,
      KcFrame.read_length, List.length_nil]
    decide
  exact steadyTurns_succeeds (by omega)

/-- A file of three frames passes, and holds nothing else. -/
theorem accepts_iff_threeFile : Accepts threeFile steadyTurns := by
  refine (accepts_iff threeFile steadyTurns fun _ _ file => threeFile_ready file).mpr ?_
  rintro ⟨blobs, rest, file, short, bad⟩
  obtain ⟨rfl, rfl⟩ := file.unique (records_save _) short (by simp)
  rcases bad with stray | ⟨blob, member, outside⟩
  · exact stray rfl
  · obtain ⟨frame, found, rfl⟩ := List.mem_map.mp member
    refine outside ⟨?_, ?_⟩ <;>
      simp only [threeCells, framesOf, List.map_cons, List.map_nil, List.mem_cons,
        List.not_mem_nil, or_false] at found <;>
      rcases found with rfl | rfl | rfl <;> decide +kernel

/-- One stray byte loads as an empty recording. -/
theorem accepts_stray_byte :
    ¬∀ bytes turns, (∀ blobs rest, Records bytes blobs rest → Succeeds turns blobs.length) →
      Accepts bytes turns := by
  intro claim
  have ready : ∀ blobs rest, Records [0] blobs rest → Succeeds steadyTurns blobs.length := by
    intro blobs rest file
    have bound := file.length_le
    refine steadyTurns_succeeds ?_
    simp only [List.length_singleton] at bound
    omega
  obtain ⟨accepted, _⟩ := claim [0] steadyTurns ready
  have stray : Records [0] [] [0] := ⟨rfl, by simp⟩
  obtain ⟨list, cells, loaded, _⟩ := streamerLoad_records stray (by simp) (ready _ _ stray)
  rw [loaded] at accepted
  obtain ⟨blobs, file, _⟩ := accepted.mp rfl
  have bound := file.length_le
  simp only [List.length_singleton] at bound
  have empty : blobs = [] := List.length_eq_zero_iff.mp (by omega)
  subst empty
  cases file.split

end KCamera
