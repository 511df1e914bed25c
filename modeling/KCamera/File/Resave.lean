import KCamera.File.Accept

/-!
# Saving a loaded file

What `save` writes of a loaded list is not always the file that was loaded. `save` asks
each frame's header for the size to write, `streamer_load` takes the size that the file
gives, and neither looks at bytes behind the last record. A canonical file is one where
the two sizes agree and nothing follows.
-/

namespace KCamera

/-- Complete records, each as large as its own header asks for, and nothing behind them. -/
def Canonical (bytes : List UInt8) : Prop :=
  ∃ blobs, Records bytes blobs [] ∧ ∀ blob ∈ blobs, blob.length = (kcSizeofFrame ⟨0, blob⟩).toNat

/-- The file loads, and saving what was loaded writes the file again. -/
def Resaves (bytes : List UInt8) (turns : Nat → LoadTurn) : Prop :=
  let loaded := streamerLoad (flistInit 0 0) (some bytes) turns
  loaded.error = none ∧ ∃ saved, save loaded.list true (fun _ => none) = some saved ∧
    saved.result = .ok (UInt32.ofNat bytes.length) ∧ saved.bytes = bytes

/-- The block that `save` writes for a block of a file. -/
def resavedBlob (blob : List UInt8) : List UInt8 :=
  (KcFrame.mk 0 blob).read (kcSizeofFrame ⟨0, blob⟩).toNat

/-- What is written again is as long as the header says. -/
theorem resavedBlob_length (blob : List UInt8) :
    (resavedBlob blob).length = (kcSizeofFrame ⟨0, blob⟩).toNat := by
  simp [resavedBlob]

/-- A block of the right size is written as it is. -/
theorem resavedBlob_eq {blob : List UInt8} (sized : blob.length = (kcSizeofFrame ⟨0, blob⟩).toNat) :
    resavedBlob blob = blob := by
  rw [resavedBlob, KcFrame.read_eq_take sized.ge, ← sized]
  exact List.take_length

/-- The records that `save` writes for frames. -/
theorem flatMap_saveFrame (frames : List KcFrame) :
    frames.flatMap saveFrame = ((frames.map KcFrame.mem).map resavedBlob).flatMap record := by
  induction frames with
  | nil => rfl
  | cons frame frames ih =>
      simp only [List.flatMap_cons, List.map_cons, ih, saveFrame_eq_record]
      rfl

/-- What `save` writes of the list that a file of records loads into. -/
theorem save_loaded {bytes rest : List UInt8} {blobs : List (List UInt8)}
    {turns : Nat → LoadTurn} (file : Records bytes blobs rest) (short : rest.length < 4)
    (ready : Succeeds turns blobs.length) :
    ∃ loaded saved, streamerLoad (flistInit 0 0) (some bytes) turns = ⟨loaded, none, []⟩ ∧
      save loaded true (fun _ => none) = some saved ∧
      Records saved.bytes (blobs.map resavedBlob) [] ∧
      saved.result = .ok (UInt32.ofNat saved.bytes.length) := by
  obtain ⟨loaded, cells, turned, shape, cursor, mems⟩ := streamerLoad_records file short ready
  have front : cells = [] → loaded.readNode = .front := by
    rintro rfl
    exact cursor.readNode
  obtain ⟨saved, written, out, result⟩ := save_spec shape front
  refine ⟨loaded, saved, turned, written, ⟨?_, ?_⟩, result⟩
  · rw [out, List.append_nil, ← mems, flatMap_saveFrame]
  · intro blob member
    obtain ⟨source, _, rfl⟩ := List.mem_map.mp member
    rw [resavedBlob_length]
    exact UInt32.toNat_lt _

/-- A load and a save give a file back exactly when it is canonical. -/
theorem resaves_iff (bytes : List UInt8) (turns : Nat → LoadTurn)
    (ready : ∀ blobs rest, Records bytes blobs rest → Succeeds turns blobs.length) :
    Resaves bytes turns ↔ Canonical bytes := by
  constructor
  · rintro ⟨accepted, saved, written, _, same⟩
    obtain ⟨blobs, rest, file, short⟩ := loadLoop_inv accepted
    obtain ⟨loaded, saved', turned, written', file', _⟩ :=
      save_loaded file short (ready blobs rest file)
    rw [turned, written', Option.some.injEq] at written
    rw [written, same] at file'
    obtain ⟨blobsKept, nothing⟩ := file.unique file' short (by simp)
    subst nothing
    refine ⟨blobs, file, fun blob member => ?_⟩
    have kept : resavedBlob blob = blob :=
      List.map_inj_left.mp (blobsKept.symm.trans (List.map_id blobs).symm) blob member
    rw [← resavedBlob_length, kept]
  · rintro ⟨blobs, file, sized⟩
    obtain ⟨loaded, saved, turned, written, file', result⟩ :=
      save_loaded file (by simp) (ready blobs [] file)
    have kept : blobs.map resavedBlob = blobs := by
      conv_rhs => rw [← List.map_id blobs]
      exact List.map_congr_left fun blob member => resavedBlob_eq (sized blob member)
    have same : saved.bytes = bytes := by
      rw [file'.split, kept, ← file.split]
    rw [Resaves, turned]
    exact ⟨rfl, saved, written, by rw [result, same], same⟩

/-- What a list of whole frames is saved as is canonical. -/
theorem canonical_of_whole {frames : List KcFrame} (whole : ∀ frame ∈ frames, frame.Whole) :
    Canonical (frames.flatMap saveFrame) := by
  refine ⟨(frames.map KcFrame.mem).map resavedBlob, ⟨?_, ?_⟩, ?_⟩
  · rw [List.append_nil, flatMap_saveFrame]
  · intro blob member
    obtain ⟨source, _, rfl⟩ := List.mem_map.mp member
    rw [resavedBlob_length]
    exact UInt32.toNat_lt _
  · intro blob member
    obtain ⟨source, found, rfl⟩ := List.mem_map.mp member
    obtain ⟨frame, inside, rfl⟩ := List.mem_map.mp found
    have header : SameFrame frame ⟨0, resavedBlob frame.mem⟩ :=
      sameFrame_read (whole frame inside) rfl
    rw [resavedBlob_length]
    simp only [kcSizeofFrame, header.width, header.height]
    rfl

/-- A file of three frames is given back. -/
theorem resaves_iff_threeFile : Resaves threeFile steadyTurns :=
  (resaves_iff threeFile steadyTurns fun _ _ file => threeFile_ready file).mpr
    (canonical_of_whole threeCells_whole)

end KCamera
