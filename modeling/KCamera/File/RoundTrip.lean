import KCamera.File.Format

/-!
# Saving and loading

A file is read record by record. `Loading` is what a turn of `streamer_load`
keeps about the list it fills, and `loadLoop_records` runs the loop over a
sequence of complete records. Saving a list writes such a sequence, whatever
its cursor was.
-/

namespace KCamera

open Heap

/-- A complete record holding `blob`. -/
def record (blob : List UInt8) : List UInt8 :=
  leBytes 4 magic ++ leBytes 4 blob.length ++ blob

/-- A record is eight bytes longer than its frame. -/
theorem record_length (blob : List UInt8) : (record blob).length = 8 + blob.length := by
  simp [record, ← Nat.add_assoc]

/-- Saving writes the frame's header and pixels as one record. -/
theorem saveFrame_eq_record (frame : KcFrame) :
    saveFrame frame = record (frame.read (kcSizeofFrame frame).toNat) := by
  simp [saveFrame, record]

/-- The file holds `blobs` in complete records, followed by `rest`. -/
structure Records (bytes : List UInt8) (blobs : List (List UInt8)) (rest : List UInt8) :
    Prop where
  split : bytes = blobs.flatMap record ++ rest
  sized : ∀ blob ∈ blobs, blob.length < 2 ^ 32

/-- Every record takes at least eight bytes. -/
theorem Records.length_le {bytes rest : List UInt8} {blobs : List (List UInt8)}
    (file : Records bytes blobs rest) : 8 * blobs.length ≤ bytes.length := by
  have counted : ∀ blobs : List (List UInt8),
      8 * blobs.length ≤ (blobs.flatMap record).length := by
    intro blobs
    induction blobs with
    | nil => simp
    | cons blob blobs ih =>
        simp only [List.flatMap_cons, List.length_append, List.length_cons, record_length]
        omega
  rw [file.split, List.length_append]
  exact Nat.le_add_right_of_le (counted blobs)

/-- Loading `count` frames never meets the memory reserve, and every `malloc`
succeeds at a node address of its own. -/
structure Succeeds (turns : Nat → LoadTurn) (count : Nat) : Prop where
  reserve : ∀ turn ≤ count, (turns turn).memReserveExceeded = false
  block : ∀ turn < count, (turns turn).block ≠ none
  node : ∀ turn < count, (turns turn).node ≠ none
  distinct : ∀ first < count, ∀ second < count,
    (turns first).node = (turns second).node → first = second

/-- The list after `turn` records. -/
structure Loading (turns : Nat → LoadTurn) (turn : Nat) (list : FrameList) (cells : List Cell) :
    Prop extends PlainRecording list cells where
  placed : ∀ cell ∈ cells, ∃ earlier < turn, (turns earlier).node = some cell.1

/-- `flistInit(record, 0, 0)` before the first record. -/
theorem Loading.start (turns : Nat → LoadTurn) : Loading turns 0 (flistInit 0 0) [] where
  toPlainRecording := .start
  placed := by simp

/-- One loaded frame goes to the end of the list. -/
theorem Loading.append {turns : Nat → LoadTurn} {count turn : Nat} {list : FrameList}
    {cells : List Cell} {node : Addr} (loading : Loading turns turn list cells)
    (ready : Succeeds turns count) (inside : turn < count)
    (placed : (turns turn).node = some node) (frame : KcFrame) :
    let appended := flistAppend list frame (some node)
    Loading turns (turn + 1) appended.list (cells ++ [(node, frame)]) ∧ appended.status = 0 := by
  obtain ⟨plain, earlier⟩ := loading
  have own : ∀ cell ∈ cells, cell.1 ≠ node := by
    rintro cell member rfl
    obtain ⟨before, older, there⟩ := earlier cell member
    have equal := ready.distinct before (by omega) turn inside (by rw [there, placed])
    omega
  obtain ⟨appended, status⟩ := plain.append own frame
  refine ⟨⟨appended, fun cell member => ?_⟩, status⟩
  rcases List.mem_append.mp member with old | new
  · obtain ⟨before, older, there⟩ := earlier cell old
    exact ⟨before, by omega, there⟩
  · rw [List.mem_singleton.mp new]
    exact ⟨turn, by omega, placed⟩

section Loop

variable {turns : Nat → LoadTurn} {turn : Nat} {list : FrameList}

/-- One turn over a complete record. -/
theorem loadLoop_record {blob : List UInt8} {block : Nat} {node : Addr}
    (reserve : (turns turn).memReserveExceeded = false) (found : (turns turn).block = some block)
    (placed : (turns turn).node = some node) (sized : blob.length < 2 ^ 32)
    (status : (flistAppend list ⟨block, blob⟩ (some node)).status = 0) (rest : List UInt8) :
    loadLoop turns turn list (record blob ++ rest) =
      loadLoop turns (turn + 1) (flistAppend list ⟨block, blob⟩ (some node)).list rest := by
  have word : (record blob ++ rest).take 4 = leBytes 4 magic := by
    simp [record, List.append_assoc]
  have tail : (record blob ++ rest).drop 4 = leBytes 4 blob.length ++ (blob ++ rest) := by
    simp [record, List.append_assoc]
  have size : leNat (leBytes 4 blob.length) = blob.length := by
    rw [leNat_leBytes]
    omega
  have magicRead : leNat (leBytes 4 magic) = magic := by rw [leNat_leBytes]; rfl
  rw [loadLoop]
  simp only [reserve, word, tail, magicRead, leBytes_length, found, placed, size,
    List.take_left', List.drop_left', status]
  simp

/-- The turn that finds fewer than four bytes ends the loop. -/
theorem loadLoop_end {bytes : List UInt8} (reserve : (turns turn).memReserveExceeded = false)
    (short : bytes.length < 4) : loadLoop turns turn list bytes = ⟨list, none, []⟩ := by
  have shorter : (bytes.take 4).length < 4 := by
    rw [List.length_take]
    omega
  rw [loadLoop, if_neg (by simp [reserve]), if_pos (.inl shorter.ne), if_pos shorter]

/-- The loop over complete records fills the list with one frame for each. -/
theorem loadLoop_records {count : Nat} {cells : List Cell} {blobs : List (List UInt8)}
    {rest : List UInt8} (loading : Loading turns turn list cells) (ready : Succeeds turns count)
    (counted : turn + blobs.length = count) (sized : ∀ blob ∈ blobs, blob.length < 2 ^ 32)
    (short : rest.length < 4) :
    ∃ list' cells', loadLoop turns turn list (blobs.flatMap record ++ rest) = ⟨list', none, []⟩ ∧
      Loading turns count list' cells' ∧
      (framesOf cells').map KcFrame.mem = (framesOf cells).map KcFrame.mem ++ blobs := by
  induction blobs generalizing turn list cells with
  | nil =>
      have ended : turn = count := counted
      subst ended
      exact ⟨list, cells, loadLoop_end (ready.reserve _ le_rfl) (by simpa using short), loading,
        by simp⟩
  | cons blob blobs ih =>
      simp only [List.length_cons] at counted
      have inside : turn < count := by omega
      obtain ⟨block, found⟩ := Option.ne_none_iff_exists'.mp (ready.block turn inside)
      obtain ⟨node, placed⟩ := Option.ne_none_iff_exists'.mp (ready.node turn inside)
      obtain ⟨loading', status⟩ := loading.append ready inside placed ⟨block, blob⟩
      obtain ⟨list', cells', ended, loaded, frames⟩ :=
        ih loading' (by omega) fun other member => sized other (List.mem_cons_of_mem _ member)
      refine ⟨list', cells', ?_, loaded, by simp [frames]⟩
      rw [List.flatMap_cons, List.append_assoc, loadLoop_record (ready.reserve _ inside.le) found
        placed (sized blob List.mem_cons_self) status, ended]

/-- `streamer_load` of a file of complete records. -/
theorem streamerLoad_records {bytes rest : List UInt8} {blobs : List (List UInt8)}
    (file : Records bytes blobs rest) (short : rest.length < 4)
    (ready : Succeeds turns blobs.length) :
    ∃ list' cells', streamerLoad (flistInit 0 0) (some bytes) turns = ⟨list', none, []⟩ ∧
      Anchored list' cells' ∧ CursorAt list' cells' 0 ∧
      (framesOf cells').map KcFrame.mem = blobs := by
  obtain ⟨list', cells', ended, loaded, frames⟩ :=
    loadLoop_records (Loading.start turns) ready (Nat.zero_add _) file.sized short
  refine ⟨list', cells', ?_, loaded.shape, loaded.cursor, by simpa using frames⟩
  rw [streamerLoad, file.split, ended]

end Loop

/-! ## The round trip -/

/-- The buffer size does not wrap and the block is that large. -/
structure KcFrame.Whole (frame : KcFrame) : Prop where
  fits : frame.width.toNat * frame.height.toNat * 3 + sizeofKcFrame + 32 < 2 ^ 32
  enough : frame.width.toNat * frame.height.toNat * 3 + sizeofKcFrame + 32 ≤ frame.mem.length

/-- The frames agree field by field and in their pixels. -/
structure SameFrame (frame frame' : KcFrame) : Prop where
  width : frame'.width = frame.width
  height : frame'.height = frame.height
  pts : frame'.pts = frame.pts
  type : frame'.type = frame.type
  payload : frame'.payload = frame.payload
  pixels : frame.payload.length = frame.width.toNat * frame.height.toNat * 3

/-- Without wrapping, the size is the one the dimensions give. -/
theorem kcSizeofFrame_toNat {frame : KcFrame}
    (fits : frame.width.toNat * frame.height.toNat * 3 + sizeofKcFrame + 32 < 2 ^ 32) :
    (kcSizeofFrame frame).toNat =
      frame.width.toNat * frame.height.toNat * 3 + sizeofKcFrame + 32 := by
  simp only [sizeofKcFrame] at fits
  simp only [kcSizeofFrame, kcSizeofFrameBuffer, sizeofKcFrame, UInt32.toNat_add,
    UInt32.toNat_mul, UInt16.toNat_toUInt32, UInt32.toNat_ofNat, UInt32.toNat_ofNat']
  omega

/-- Reading the first `size` bytes keeps every field and pixel inside them. -/
theorem sameFrame_take {frame frame' : KcFrame} {size : Nat}
    (copied : frame'.mem = frame.mem.take size)
    (inside : dataOffset + frame.width.toNat * frame.height.toNat * 3 ≤ size)
    (enough : size ≤ frame.mem.length) : SameFrame frame frame' := by
  have header : ∀ offset width, offset + width ≤ dataOffset →
      frame'.field offset width = frame.field offset width := by
    intro offset width within
    have reach : offset + width ≤ size := by omega
    rw [KcFrame.field, KcFrame.field, copied, List.drop_take, List.take_take,
      Nat.min_eq_left (by omega)]
  have width : frame'.width = frame.width := by
    rw [KcFrame.width, KcFrame.width, header 0 2 (by decide)]
  have height : frame'.height = frame.height := by
    rw [KcFrame.height, KcFrame.height, header 2 2 (by decide)]
  refine ⟨width, height, ?_, ?_, ?_, ?_⟩
  · rw [KcFrame.pts, KcFrame.pts, header 8 8 (by decide)]
  · rw [KcFrame.type, KcFrame.type, header 16 4 (by decide)]
  · rw [KcFrame.payload, KcFrame.payload, width, height, copied, List.drop_take, List.take_take,
      Nat.min_eq_left (by omega)]
  · rw [KcFrame.payload, List.length_take, List.length_drop, Nat.min_eq_left (by omega)]

/-- The loop of `save` writes the records of the frames behind the cursor. -/
theorem saveLoop_spec (fuel turn : Nat) {index : Nat} {list : FrameList} {cells : List Cell}
    (bytes : List UInt8) (len : UInt32) (shape : Anchored list cells)
    (cursor : CursorAt list cells index) (enough : cells.length - index < fuel) :
    ∃ saved, saveLoop (fun _ => none) fuel turn list bytes len = some saved ∧
      saved.bytes = bytes ++ (framesOf (cells.drop index)).flatMap saveFrame ∧
      saved.result = .ok (len + UInt32.ofNat ((framesOf (cells.drop index)).flatMap saveFrame).length) ∧
      Anchored saved.list cells ∧ CursorAt saved.list cells cells.length := by
  induction fuel generalizing turn list index bytes len with
  | zero => omega
  | succ fuel ih =>
      by_cases last : index = cells.length
      · subst last
        exact ⟨⟨list, bytes, .ok len⟩, by simp [saveLoop, flistNext_end shape cursor], by simp,
          by simp, shape, cursor⟩
      · have bound := cursor.bound
        have inside : index < cells.length := by omega
        have found : cells[index]? = some cells[index] := List.getElem?_eq_getElem inside
        have moved := cursor.step shape.toChained found
        have shape' : Anchored { list with
            readNode := .next cells[index].1, readIndex := list.readIndex + 1 } cells :=
          ⟨shape.toChained.congr rfl rfl rfl rfl, shape.front_nil, shape.back_nil⟩
        obtain ⟨saved, turned, written, result, kept⟩ :=
          ih _ (bytes ++ saveFrame cells[index].2)
            (len + UInt32.ofNat (saveFrame cells[index].2).length) shape' moved (by omega)
        have pending : (framesOf (cells.drop index)).flatMap saveFrame =
            saveFrame cells[index].2 ++ (framesOf (cells.drop (index + 1))).flatMap saveFrame := by
          rw [List.drop_eq_getElem_cons inside, framesOf, List.map_cons, List.flatMap_cons]
        refine ⟨saved, ?_, by rw [written, pending, List.append_assoc], ?_, kept⟩
        · simp only [saveLoop, flistNext_some shape cursor found, Option.bind_some]
          exact turned
        · rw [result, pending, List.length_append, UInt32.ofNat_add, UInt32.add_assoc]

/-- `save` writes the records of all frames, wherever the cursor was. An empty
list has no link but `&m_front`. -/
theorem save_spec {list : FrameList} {cells : List Cell} (shape : Anchored list cells)
    (cursor : cells = [] → list.readNode = .front) :
    ∃ saved, save list true (fun _ => none) = some saved ∧
      saved.bytes = (framesOf cells).flatMap saveFrame ∧
      saved.result = .ok (UInt32.ofNat saved.bytes.length) := by
  cases cells with
  | nil =>
      have stays := flistSeek_outside (n := 0) shape.toChained (by simp)
      have ended : flistNext list = some (list, none) := by
        simp [flistNext, cursor rfl, FrameList.follow, shape.front_nil rfl]
      exact ⟨⟨list, [], .ok 0⟩, by simp [save, saveLoop, stays, ended], rfl, rfl⟩
  | cons cell rest =>
      obtain ⟨readNode, readIndex, same, start⟩ := flistSeek_inside (n := 0) shape (by simp)
      rw [same] at start
      have shape' : Anchored { list with readNode, readIndex } (cell :: rest) :=
        ⟨shape.toChained.congr rfl rfl rfl rfl, shape.front_nil, shape.back_nil⟩
      obtain ⟨saved, written, bytes, result, _⟩ := saveLoop_spec
        (list.len.toNat + 1) 0 [] 0 shape' start (by rw [shape.len]; omega)
      rw [UInt32.toNat_zero, List.drop_zero, List.nil_append] at bytes
      refine ⟨saved, by simpa [save, same] using written, bytes, ?_⟩
      rw [result, UInt32.toNat_zero, List.drop_zero, bytes, UInt32.zero_add]

/-- A saved block reads back with the same fields and pixels. -/
theorem sameFrame_read {frame frame' : KcFrame} (whole : frame.Whole)
    (copied : frame'.mem = frame.read (kcSizeofFrame frame).toNat) : SameFrame frame frame' := by
  have size := kcSizeofFrame_toNat whole.fits
  rw [KcFrame.read_eq_take (by rw [size]; exact whole.enough)] at copied
  refine sameFrame_take copied ?_ (by rw [size]; exact whole.enough)
  rw [size, dataOffset]
  omega

/-- The blocks that `save` writes for frames. -/
def savedBlobs (frames : List KcFrame) : List (List UInt8) :=
  frames.map fun frame => frame.read (kcSizeofFrame frame).toNat

/-- What was saved is a sequence of records. -/
theorem records_save (frames : List KcFrame) :
    Records (frames.flatMap saveFrame) (savedBlobs frames) [] where
  split := by
    rw [List.append_nil, funext saveFrame_eq_record]
    exact (List.flatMap_map _ _ _).symm
  sized := by
    intro blob member
    obtain ⟨frame, _, rfl⟩ := List.mem_map.mp member
    rw [KcFrame.read_length]
    exact (kcSizeofFrame frame).toNat_lt

/-- Loading what `save` wrote yields the saved frames in order, with the cursor
on the first one; what is written depends on the frames alone. -/
theorem streamerLoad_save (list : FrameList) (cells : List Cell) (turns : Nat → LoadTurn)
    (shape : Anchored list cells) (cursor : cells = [] → list.readNode = .front)
    (whole : ∀ frame ∈ framesOf cells, frame.Whole) (ready : Succeeds turns cells.length) :
    ∃ saved loaded cells', save list true (fun _ => none) = some saved ∧
      saved.bytes = (framesOf cells).flatMap saveFrame ∧
      streamerLoad (flistInit 0 0) (some saved.bytes) turns = ⟨loaded, none, []⟩ ∧
      Anchored loaded cells' ∧ CursorAt loaded cells' 0 ∧
      List.Forall₂ SameFrame (framesOf cells) (framesOf cells') := by
  obtain ⟨saved, written, bytes, _⟩ := save_spec shape cursor
  have file : Records saved.bytes (savedBlobs (framesOf cells)) [] := by
    rw [bytes]
    exact records_save _
  obtain ⟨loaded, cells', result, shape', cursor', mems⟩ :=
    streamerLoad_records file (by simp) (by simpa [savedBlobs] using ready)
  refine ⟨saved, loaded, cells', written, bytes, result, shape', cursor', ?_⟩
  have copied : List.Forall₂ (fun frame frame' : KcFrame =>
      frame'.mem = frame.read (kcSizeofFrame frame).toNat) (framesOf cells) (framesOf cells') := by
    have equal : List.Forall₂ (· = ·) (savedBlobs (framesOf cells))
        ((framesOf cells').map KcFrame.mem) := by
      rw [mems]
      exact List.forall₂_same.mpr fun _ _ => rfl
    rw [savedBlobs, List.forall₂_map_left_iff, List.forall₂_map_right_iff] at equal
    exact equal.imp fun _ _ same => same.symm
  obtain ⟨lengths, each⟩ := List.forall₂_iff_get.mp copied
  exact List.forall₂_iff_get.mpr ⟨lengths, fun i left right =>
    sameFrame_read (whole _ (List.get_mem _ _)) (each i left right)⟩

/-- An allocator that never fails and never repeats an address. -/
def steadyTurns (turn : Nat) : LoadTurn := ⟨false, some turn, some (Fin.ofNat (2 ^ 29) turn)⟩

/-- The allocator of the examples grants a node for each address. -/
theorem steadyTurns_succeeds {count : Nat} (bound : count ≤ 2 ^ 29) :
    Succeeds steadyTurns count where
  reserve _ _ := rfl
  block _ _ := Option.some_ne_none _
  node _ _ := Option.some_ne_none _
  distinct first before second inside same := by
    have values := congrArg Fin.val (Option.some.inj same)
    simp only [Fin.val_ofNat] at values
    omega

/-- The three frames have all their pixels. -/
theorem threeCells_whole : ∀ frame ∈ framesOf threeCells, frame.Whole := by
  intro frame member
  simp only [threeCells, framesOf, List.map_cons, List.map_nil, List.mem_cons, List.not_mem_nil,
    or_false] at member
  rcases member with rfl | rfl | rfl <;> exact ⟨by decide, by decide⟩

/-- A list of three frames goes through a file. -/
theorem streamerLoad_save_three :
    ∃ saved loaded cells', save (recordingOf threeCells) true (fun _ => none) = some saved ∧
      saved.bytes = (framesOf threeCells).flatMap saveFrame ∧
      streamerLoad (flistInit 0 0) (some saved.bytes) steadyTurns = ⟨loaded, none, []⟩ ∧
      Anchored loaded cells' ∧ CursorAt loaded cells' 0 ∧
      List.Forall₂ SameFrame (framesOf threeCells) (framesOf cells') :=
  streamerLoad_save _ _ _ (recordingOf_plain (by decide)).shape (by decide) threeCells_whole
    (steadyTurns_succeeds (by decide))

end KCamera
