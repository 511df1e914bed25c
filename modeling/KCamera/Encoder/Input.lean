import KCamera.Encoder.Params
import KCamera.Frame.Block
import Mathlib.Data.Rat.Floor

/-!
# The input of the encoder

`encoder_encode` takes the size of a frame from three entries of the array's
shape, and `EncodeBuffer` copies as many bytes as the input buffer has. The
device reads rows that the constructor of `H264Encoder` has aligned to 32
bytes.
-/

namespace KCamera.Kencoder

/-! ## The copy -/

/-- The `v4l2_format` of the device's input, as far as it decides on the memory
of the frames. -/
structure OutputFormat where
  width : UInt32
  height : UInt32
  bytesperline : UInt32
  sizeimage : UInt32

/-- The input format that the constructor of `H264Encoder` sets. -/
def outputFormat (width height : UInt32) : OutputFormat :=
  let bytesperline := (width + 31) &&& ~~~31
  { width, height, bytesperline, sizeimage := bytesperline * height * 3 / 2 }

/-- `input_buffers_[i]`: the bytes that are mapped, and `size`. -/
structure InputBuffer where
  mapped : Nat
  size : Nat

/-- Map an input buffer of the length that `VIDIOC_QUERYBUF` returns. -/
def mapInput (length : Nat) : InputBuffer := ⟨length, length⟩

/-- `width*height*dims[3]` of `encoder_encode`; `none` when an entry of the shape
does not exist. -/
def encodeSize (dims : List UInt32) : Option UInt32 := do
  let width ← dims[1]?
  let height ← dims[0]?
  let depth ← dims[3]?
  return width * height * depth

/-- The bytes of a `uint8` array. -/
def byteCount (dims : List UInt32) : Nat := (dims.map UInt32.toNat).prod

/-- What `memcpy` leaves in the input buffer, from the array's bytes and the ones
behind them. -/
def copyInput (buffer : InputBuffer) (array beyond : List UInt8) : List UInt8 :=
  (array ++ beyond).take buffer.size

/-! ## The layout -/

/-- The planes of a YUV420 frame. -/
inductive Plane where
  | luma
  | firstChroma
  | secondChroma
deriving DecidableEq, Repr

/-- A chroma plane has half the rows and columns. -/
def Plane.part (plane : Plane) (extent : Nat) : Nat :=
  match plane with
  | .luma => extent
  | .firstChroma | .secondChroma => extent / 2

/-- Where a plane starts when the luma rows are `stride` bytes apart. -/
def Plane.start (plane : Plane) (stride height : Nat) : Nat :=
  match plane with
  | .luma => 0
  | .firstChroma => stride * height
  | .secondChroma => stride * height + stride / 2 * (height / 2)

/-- Where a sample of a plane is. -/
def Plane.offset (plane : Plane) (stride height row column : Nat) : Nat :=
  plane.start stride height + row * plane.part stride + column

/-- So many bytes hold a contiguous YUV420 frame. Its chroma planes ask for an even
size. -/
structure HoldsYuv420 (width height bytes : Nat) : Prop where
  width_even : 2 ∣ width
  height_even : 2 ∣ height
  bytes : bytes = width * height + 2 * (width / 2 * (height / 2))

/-- The device finds every sample of the frame where it reads it. -/
def ReadsFrame (format : OutputFormat) (buffer array : List UInt8) : Prop :=
  ∀ (plane : Plane), ∀ row < plane.part format.height.toNat,
    ∀ column < plane.part format.width.toNat,
      buffer[plane.offset format.bytesperline.toNat format.height.toNat row column]? =
        array[plane.offset format.width.toNat format.height.toNat row column]?

/-- An array of the shape `dims` is copied as it should be to an encoder of the
given size. The lengths of the buffers are the driver's. -/
structure InputKept (driver : OutputFormat → Nat) (width height : UInt32) (dims : List UInt32) :
    Prop where
  indices : 1 < dims.length ∧ 0 < dims.length ∧ 3 < dims.length
  size : (encodeSize dims).map UInt32.toNat = some (byteCount dims)
  source : (mapInput (driver (outputFormat width height))).size ≤ byteCount dims
  target : (mapInput (driver (outputFormat width height))).size ≤
    (mapInput (driver (outputFormat width height))).mapped
  layout : HoldsYuv420 width.toNat height.toNat (byteCount dims) →
    ∀ array beyond, array.length = byteCount dims →
      ReadsFrame (outputFormat width height)
        (copyInput (mapInput (driver (outputFormat width height))) array beyond) array

/-- When an array is copied as it should be. -/
structure InputFits (driver : OutputFormat → Nat) (width height : UInt32) (dims : List UInt32) :
    Prop where
  rank : 3 < dims.length
  /-- The three entries that are read make up the whole size. -/
  product : (dims[0]?.elim 0 UInt32.toNat * dims[1]?.elim 0 UInt32.toNat *
    dims[3]?.elim 0 UInt32.toNat) % 2 ^ 32 = byteCount dims
  source : driver (outputFormat width height) ≤ byteCount dims
  /-- The rows of a frame need no alignment, and the buffer holds all of it. -/
  aligned : HoldsYuv420 width.toNat height.toNat (byteCount dims) →
    width = 0 ∨ height = 0 ∨
      (32 ∣ width.toNat ∧ byteCount dims ≤ driver (outputFormat width height))

/-! ## When the two agree -/

/-- The size that `encode` passes on is a product in 32 bits. -/
theorem encodeSize_eq {dims : List UInt32} (rank : 3 < dims.length) :
    (encodeSize dims).map UInt32.toNat = some
      ((dims[0]?.elim 0 UInt32.toNat * dims[1]?.elim 0 UInt32.toNat *
        dims[3]?.elim 0 UInt32.toNat) % 2 ^ 32) := by
  have first : dims[0]? = some dims[0] := List.getElem?_eq_getElem (by omega)
  have second : dims[1]? = some dims[1] := List.getElem?_eq_getElem (by omega)
  have fourth : dims[3]? = some dims[3] := List.getElem?_eq_getElem rank
  simp only [encodeSize, first, second, fourth, Option.bind_eq_bind, Option.bind_some,
    Option.pure_def, Option.map_some, Option.elim_some, UInt32.toNat_mul, Nat.mod_mul_mod]
  rw [Nat.mul_comm dims[1].toNat]

/-- Clearing the low five bits. -/
theorem and_compl_31 {value : Nat} (word : value < 2 ^ 32) :
    value &&& 4294967264 = value / 2 ^ 5 * 2 ^ 5 := by
  have mask : 4294967264 = (2 ^ 27 - 1) * 2 ^ 5 := by decide
  rw [mask]
  apply Nat.eq_of_testBit_eq
  intro bit
  rw [Nat.testBit_and, Nat.testBit_mul_two_pow, Nat.testBit_mul_two_pow,
    Nat.testBit_two_pow_sub_one, Nat.testBit_div_two_pow]
  by_cases high : 5 ≤ bit
  · have same : 5 + (bit - 5) = bit := by omega
    by_cases top : bit < 32
    · have inside : bit - 5 < 27 := by omega
      simp [high, inside]
    · have beyond : value < 2 ^ bit :=
        Nat.lt_of_lt_of_le word (Nat.pow_le_pow_right (by decide) (by omega))
      simp [high, Nat.testBit_lt_two_pow beyond]
  · simp [high]

/-- The driver's lines are multiples of 32 bytes. -/
theorem bytesperline_toNat (width height : UInt32) :
    (outputFormat width height).bytesperline.toNat =
      (width.toNat + 31) % 2 ^ 32 / 2 ^ 5 * 2 ^ 5 := by
  have mask : (~~~31 : UInt32).toNat = 4294967264 := by decide
  have sum : (width + 31).toNat = (width.toNat + 31) % 2 ^ 32 := by
    rw [UInt32.toNat_add]
    rfl
  change ((width + 31) &&& ~~~31).toNat = _
  rw [UInt32.toNat_and, mask, sum, and_compl_31 (Nat.mod_lt _ (by decide))]

/-- The aligned row length is the width exactly for multiples of 32. -/
theorem bytesperline_eq_iff (width height : UInt32) :
    (outputFormat width height).bytesperline.toNat = width.toNat ↔ 32 ∣ width.toNat := by
  have bound := width.toNat_lt
  rw [bytesperline_toNat]
  omega

/-- An array that fills the buffer is what the buffer holds. -/
theorem copyInput_eq {length : Nat} {array : List UInt8} (beyond : List UInt8)
    (whole : array.length = length) : copyInput (mapInput length) array beyond = array := by
  rw [copyInput, mapInput, ← whole, List.take_left]

/-- Of an array that is long enough the buffer holds the first bytes. -/
theorem copyInput_of_lt {length index : Nat} {array : List UInt8} (beyond : List UInt8)
    (inside : index < length) (short : length ≤ array.length) :
    (copyInput (mapInput length) array beyond)[index]? = array[index]? := by
  rw [copyInput, mapInput, List.getElem?_take_of_lt inside,
    List.getElem?_append_left (by omega)]

/-- Nothing is copied beyond the mapped buffer. -/
theorem copyInput_of_le {length index : Nat} (array beyond : List UInt8) (outside : length ≤ index) :
    (copyInput (mapInput length) array beyond)[index]? = none := by
  refine List.getElem?_eq_none ?_
  rw [copyInput, List.length_take]
  exact Nat.le_trans (Nat.min_le_left _ _) outside

section Layout

variable {width height : UInt32} {bytes length : Nat}

/-- A frame of at least one sample has two rows and two columns. -/
theorem HoldsYuv420.two_le (holds : HoldsYuv420 width.toNat height.toNat bytes)
    (wide : width ≠ 0) (high : height ≠ 0) : 2 ≤ width.toNat ∧ 2 ≤ height.toNat := by
  have wide : width.toNat ≠ 0 := fun zero => wide (UInt32.toNat_inj.mp zero)
  have high : height.toNat ≠ 0 := fun zero => high (UInt32.toNat_inj.mp zero)
  have width_even := holds.width_even
  have height_even := holds.height_even
  omega

/-- The second row is found only if rows are not aligned to more than the width. -/
theorem unaligned_of_reads (holds : HoldsYuv420 width.toNat height.toNat bytes)
    (two : 2 ≤ width.toNat ∧ 2 ≤ height.toNat) (short : length ≤ bytes)
    (reads : ∀ array beyond, array.length = bytes →
      ReadsFrame (outputFormat width height) (copyInput (mapInput length) array beyond) array) :
    (outputFormat width height).bytesperline.toNat = width.toNat := by
  obtain ⟨wide, high⟩ := two
  have inside : width.toNat < bytes := by
    rw [holds.bytes]
    have rows : width.toNat * 2 ≤ width.toNat * height.toNat := Nat.mul_le_mul_left _ high
    omega
  have second := reads (brightAt bytes width.toNat) [] (brightAt_length _ _) .luma 1
    (by simp only [Plane.part, outputFormat]; omega) 0
    (by simp only [Plane.part, outputFormat]; omega)
  simp only [Plane.offset, Plane.start, Plane.part, Nat.zero_add, Nat.one_mul, Nat.add_zero]
    at second
  have placed : (outputFormat width height).width = width := rfl
  rw [placed, brightAt_self inside] at second
  by_contra aligned
  by_cases held : (outputFormat width height).bytesperline.toNat < length
  · rw [copyInput_of_lt _ held (by rwa [brightAt_length]),
      brightAt_of_ne (Ne.symm aligned) (by omega)] at second
    cases second
  · rw [copyInput_of_le _ _ (by omega)] at second
    cases second

/-- The last sample is found only if the buffer holds the whole frame. -/
theorem whole_of_reads (holds : HoldsYuv420 width.toNat height.toNat bytes)
    (two : 2 ≤ width.toNat ∧ 2 ≤ height.toNat)
    (unaligned : (outputFormat width height).bytesperline.toNat = width.toNat)
    (reads : ∀ array beyond, array.length = bytes →
      ReadsFrame (outputFormat width height) (copyInput (mapInput length) array beyond) array) :
    bytes ≤ length := by
  obtain ⟨wide, high⟩ := two
  have last := reads (brightAt bytes 0) [] (brightAt_length _ _) .secondChroma
    (height.toNat / 2 - 1) (by simp only [Plane.part, outputFormat]; omega)
    (width.toNat / 2 - 1) (by simp only [Plane.part, outputFormat]; omega)
  obtain ⟨row, rows⟩ : ∃ row, height.toNat / 2 = row + 1 := Nat.exists_eq_add_of_le' (by omega)
  have positive : 0 < width.toNat / 2 := by omega
  have placed : Plane.secondChroma.offset width.toNat height.toNat (height.toNat / 2 - 1)
      (width.toNat / 2 - 1) + 1 = bytes := by
    rw [holds.bytes, rows, Plane.offset, Plane.start, Plane.part, rows, Nat.add_sub_cancel,
      Nat.mul_succ, Nat.mul_comm row]
    omega
  have format : (outputFormat width height).width = width ∧
    (outputFormat width height).height = height := ⟨rfl, rfl⟩
  rw [unaligned, format.1, format.2] at last
  by_contra short
  rw [copyInput_of_le _ _ (by omega)] at last
  have present := List.getElem?_eq_none_iff.mp last.symm
  rw [brightAt_length] at present
  omega

/-- A frame without alignment that fills the buffer is read as it is. -/
theorem reads_of_unaligned (fits : width = 0 ∨ height = 0 ∨ 32 ∣ width.toNat ∧ bytes = length)
    {array : List UInt8} (beyond : List UInt8) (whole : array.length = bytes) :
    ReadsFrame (outputFormat width height) (copyInput (mapInput length) array beyond) array := by
  intro plane row rows column columns
  have format : (outputFormat width height).width = width ∧
    (outputFormat width height).height = height := ⟨rfl, rfl⟩
  rw [format.1] at columns ⊢
  rw [format.2] at rows ⊢
  rcases fits with rfl | rfl | ⟨multiple, rfl⟩
  · cases plane <;> simp [Plane.part] at columns
  · cases plane <;> simp [Plane.part] at rows
  · rw [(bytesperline_eq_iff width height).mpr multiple, copyInput_eq beyond whole]

end Layout

/-- An array is copied as it should be exactly when it fits. -/
theorem inputKept_iff (driver : OutputFormat → Nat) (width height : UInt32) (dims : List UInt32) :
    InputKept driver width height dims ↔ InputFits driver width height dims := by
  constructor
  · intro kept
    have size := kept.size
    rw [encodeSize_eq kept.indices.2.2, Option.some.injEq] at size
    refine ⟨kept.indices.2.2, size, kept.source, fun holds => ?_⟩
    by_cases wide : width = 0
    · exact .inl wide
    · by_cases high : height = 0
      · exact .inr (.inl high)
      · have two := holds.two_le wide high
        have reads := kept.layout holds
        have unaligned := unaligned_of_reads holds two kept.source reads
        exact .inr (.inr ⟨(bytesperline_eq_iff width height).mp unaligned,
          whole_of_reads holds two unaligned reads⟩)
  · intro fits
    have rank := fits.rank
    refine ⟨⟨by omega, by omega, rank⟩, ?_, fits.source, Nat.le_refl _, ?_⟩
    · rw [encodeSize_eq rank, fits.product]
    · intro holds array beyond whole
      refine reads_of_unaligned ?_ beyond whole
      rcases fits.aligned holds with wide | high | ⟨multiple, held⟩
      · exact .inl wide
      · exact .inr (.inl high)
      · exact .inr (.inr ⟨multiple, Nat.le_antisymm held fits.source⟩)

/-- A frame of four dimensions, for a driver that allocates what it is asked for. -/
example : InputFits (fun format => format.sizeimage.toNat) 640 480 [720, 640, 1, 1] :=
  ⟨by decide, by decide, by decide, fun _ => .inr (.inr ⟨by decide, by decide⟩)⟩

/-- The shape of `test.py`'s frame, for an encoder of its size. -/
theorem rank_two_without_fourth_entry :
    ¬∀ driver width height dims, InputKept driver width height dims := by
  intro claim
  have kept := claim (fun format => format.sizeimage.toNat) 640 480 [720, 640]
  exact absurd kept.indices.2.2 (by decide)

end KCamera.Kencoder
