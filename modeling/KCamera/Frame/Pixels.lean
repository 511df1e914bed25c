import KCamera.Engine.Operations
import Mathlib.Data.Rat.Floor

/-!
# Captured pixels

The event loop hands the size that was asked for and the plane of the stream's
configuration to `kcFrameData`, which copies the plane as a whole. The array
that `Streamer.frame` returns reads rows of `3 * m_width` bytes.
-/

namespace KCamera

/-- What the pipeline returns for a stream of 24-bit pixels: the size it has
adjusted, and the bytes from one row to the next. -/
structure StreamConfiguration where
  width : UInt32
  height : UInt32
  stride : UInt32
  row_le : 3 * width.toNat ≤ stride.toNat
  /-- `planes()[0].length` is an `unsigned int`. -/
  length_lt : stride.toNat * height.toNat < 2 ^ 32

/-- The length of the plane. -/
def StreamConfiguration.length (config : StreamConfiguration) : Nat :=
  config.stride.toNat * config.height.toNat

/-- `event_loop`'s call of `kcFrameData`: `app->options.width` and
`app->options.height` go through `uint16_t` parameters. -/
def eventLoopCapture (options : UInt32 × UInt32) (pts : UInt64) (plane : List UInt8) : Capture where
  width := options.1.toUInt16
  height := options.2.toUInt16
  pts
  data := plane

/-- The size of the block that `kcFrameData` allocates. -/
def Capture.allocated (capture : Capture) : Nat :=
  (kcSizeofFrameBuffer capture.width.toUInt32 capture.height.toUInt32 .bgr).toNat

/-- An element of the `height × width × 3` array that is based on `m_data`. -/
def KcFrame.element (frame : KcFrame) (y x c : Nat) : Option UInt8 :=
  frame.mem[dataOffset + ((y * frame.width.toNat + x) * 3 + c)]?

/-- The frame of a capture shows the plane. -/
structure ShowsPlane (config : StreamConfiguration) (capture : Capture) (frame : KcFrame) : Prop where
  width : frame.width.toNat = config.width.toNat
  height : frame.height.toNat = config.height.toNat
  inside : dataOffset + capture.data.length ≤ capture.allocated
  element : ∀ y < config.height.toNat, ∀ x < config.width.toNat, ∀ c < 3,
    frame.element y x c = capture.data[y * config.stride.toNat + 3 * x + c]?

/-- Every plane of the configuration is stored completely, in place and in bounds. -/
def PixelsKept (options : UInt32 × UInt32) (config : StreamConfiguration) : Prop :=
  ∀ block pts plane, plane.length = config.length →
    ShowsPlane config (eventLoopCapture options pts plane)
      ((eventLoopCapture options pts plane).frame block pts)

/-! ## The block -/

section Block

variable (block : Nat) (width height : UInt16) (type : FrameType) (pts : UInt64)
  (data rest : List UInt8)

/-- The width is read back from the header. -/
@[simp] theorem KcFrame.build_width : (build block width height type pts data rest).width = width := by
  have taken : ((build block width height type pts data rest).mem.drop 0).take 2 =
      leBytes 2 width.toNat := by
    simp [build]
  have bound := width.toNat_lt
  apply UInt16.toNat_inj.mp
  rw [KcFrame.width, field, taken, leNat_leBytes]
  simp

/-- The height is read back from the header. -/
@[simp] theorem KcFrame.build_height :
    (build block width height type pts data rest).height = height := by
  have taken : ((build block width height type pts data rest).mem.drop 2).take 2 =
      leBytes 2 height.toNat := by
    simp [build]
  have bound := height.toNat_lt
  apply UInt16.toNat_inj.mp
  rw [KcFrame.height, field, taken, leNat_leBytes]
  simp

/-- The data starts at `m_data`. -/
theorem KcFrame.build_data {index : Nat} (inside : index < data.length) :
    (build block width height type pts data rest).mem[dataOffset + index]? = data[index]? := by
  have header : (leBytes 2 width.toNat ++ leBytes 2 height.toNat ++ leBytes 4 0 ++
      leBytes 8 pts.toNat ++ leBytes 4 type.code).length = dataOffset := by
    simp [dataOffset]
  rw [build, List.getElem?_append_right (by omega), header, Nat.add_sub_cancel_left,
    List.getElem?_append_left inside]

end Block

section Stored

variable {options : UInt32 × UInt32} {config : StreamConfiguration}

/-- The area of two `uint16_t` does not wrap, three times the area does. -/
theorem Capture.allocated_eq (capture : Capture) :
    capture.allocated = (3 * (capture.width.toNat * capture.height.toNat) + 56) % 2 ^ 32 := by
  have width := capture.width.toNat_lt
  have height := capture.height.toNat_lt
  have area : capture.width.toNat * capture.height.toNat < 2 ^ 16 * 2 ^ 16 :=
    Nat.mul_lt_mul'' width height
  simp only [allocated, kcSizeofFrameBuffer, sizeofKcFrame, UInt32.toNat_add, UInt32.toNat_mul,
    UInt16.toNat_toUInt32]
  have three : (3 : UInt32).toNat = 3 := rfl
  have header : (UInt32.ofNat 24).toNat = 24 := rfl
  have more : (32 : UInt32).toNat = 32 := rfl
  rw [three, header, more]
  omega

/-- When every plane is kept. -/
structure PixelsFit (options : UInt32 × UInt32) (config : StreamConfiguration) : Prop where
  /-- The pipeline has left the size as it was asked for, and it fits 16 bits. -/
  width : options.1.toNat % 2 ^ 16 = config.width.toNat
  height : options.2.toNat % 2 ^ 16 = config.height.toNat
  /-- The size of the block does not wrap. -/
  word : 3 * (config.width.toNat * config.height.toNat) + 56 < 2 ^ 32
  /-- The rows' padding fits behind the header's. -/
  padding : config.length ≤ 3 * (config.width.toNat * config.height.toNat) + 36
  /-- There is no padding between two rows. -/
  packed : config.stride.toNat = 3 * config.width.toNat ∨ config.height.toNat ≤ 1 ∨
    config.width.toNat = 0

/-- A buffer has room for three bytes of each pixel. -/
theorem StreamConfiguration.pixels_le (config : StreamConfiguration) :
    3 * (config.width.toNat * config.height.toNat) ≤ config.length := by
  rw [length, ← Nat.mul_assoc]
  exact Nat.mul_le_mul_right _ config.row_le

/-- The copy is in bounds exactly when the size does not wrap and the padding is
short. -/
theorem inside_iff {width height length : Nat} (pixels : 3 * (width * height) ≤ length) :
    dataOffset + length ≤ (3 * (width * height) + 56) % 2 ^ 32 ↔
      3 * (width * height) + 56 < 2 ^ 32 ∧ length ≤ 3 * (width * height) + 36 := by
  rw [dataOffset]
  omega

/-- The frame's width is the options' width in 16 bits. -/
theorem eventLoopFrame_width (pts : UInt64) (plane : List UInt8) (block : Nat) :
    ((eventLoopCapture options pts plane).frame block pts).width.toNat =
      options.1.toNat % 2 ^ 16 := by
  rw [Capture.frame, KcFrame.build_width]
  exact UInt32.toNat_toUInt16 _

/-- The frame's height is the options' height in 16 bits. -/
theorem eventLoopFrame_height (pts : UInt64) (plane : List UInt8) (block : Nat) :
    ((eventLoopCapture options pts plane).frame block pts).height.toNat =
      options.2.toNat % 2 ^ 16 := by
  rw [Capture.frame, KcFrame.build_height]
  exact UInt32.toNat_toUInt16 _

/-- An element of the array is a byte of the plane. -/
theorem eventLoopFrame_element (pts : UInt64) (plane : List UInt8) (block : Nat) {y x c : Nat}
    (inside : (y * (options.1.toNat % 2 ^ 16) + x) * 3 + c < plane.length) :
    ((eventLoopCapture options pts plane).frame block pts).element y x c =
      plane[(y * (options.1.toNat % 2 ^ 16) + x) * 3 + c]? := by
  rw [KcFrame.element, eventLoopFrame_width]
  exact KcFrame.build_data _ _ _ _ _ _ _ inside

/-- Captured pixels are kept exactly when the configuration fits. -/
theorem pixelsKept_iff (options : UInt32 × UInt32) (config : StreamConfiguration) :
    PixelsKept options config ↔ PixelsFit options config := by
  have pixels := config.pixels_le
  constructor
  · intro kept
    have dark := kept 0 0 (List.replicate config.length 0) List.length_replicate
    have width := dark.width
    have height := dark.height
    have inside := dark.inside
    rw [eventLoopFrame_width] at width
    rw [eventLoopFrame_height] at height
    have allocated := (eventLoopCapture options 0 (List.replicate config.length 0)).allocated_eq
    have width' : (eventLoopCapture options 0 (List.replicate config.length 0)).width.toNat =
        config.width.toNat := by rw [← width]; exact UInt32.toNat_toUInt16 _
    have height' : (eventLoopCapture options 0 (List.replicate config.length 0)).height.toNat =
        config.height.toNat := by rw [← height]; exact UInt32.toNat_toUInt16 _
    rw [allocated, width', height'] at inside
    have length : (eventLoopCapture options 0 (List.replicate config.length 0)).data.length =
        config.length := List.length_replicate
    rw [length] at inside
    obtain ⟨word, padding⟩ := (inside_iff pixels).mp inside
    refine ⟨width, height, word, padding, ?_⟩
    by_contra unpacked
    rw [not_or, not_or] at unpacked
    obtain ⟨gap, rows, columns⟩ := unpacked
    -- The first byte of the second row.
    have row := config.row_le
    have second : config.stride.toNat < config.length := by
      rw [StreamConfiguration.length]
      exact lt_mul_of_one_lt_right (by omega) (by omega)
    have bright := kept 0 0 (brightAt config.length config.stride.toNat) (brightAt_length _ _)
    have element := bright.element 1 (by omega) 0 (by omega) 0 (by omega)
    have early : (1 * (options.1.toNat % 2 ^ 16) + 0) * 3 + 0 <
        (brightAt config.length config.stride.toNat).length := by
      rw [brightAt_length]
      omega
    have place : 1 * config.stride.toNat + 3 * 0 + 0 = config.stride.toNat := by omega
    rw [eventLoopFrame_element _ _ _ early, place] at element
    change _ = (brightAt config.length config.stride.toNat)[config.stride.toNat]? at element
    rw [brightAt_self second, brightAt_of_ne (by omega) (by omega)] at element
    cases element
  · intro fit block pts plane length
    have inside := (inside_iff pixels).mpr ⟨fit.word, fit.padding⟩
    have width' : (eventLoopCapture options pts plane).width.toNat = config.width.toNat := by
      rw [← fit.width]
      exact UInt32.toNat_toUInt16 _
    have height' : (eventLoopCapture options pts plane).height.toNat = config.height.toNat := by
      rw [← fit.height]
      exact UInt32.toNat_toUInt16 _
    constructor
    · rw [eventLoopFrame_width, fit.width]
    · rw [eventLoopFrame_height, fit.height]
    · rw [Capture.allocated_eq, width', height']
      change dataOffset + plane.length ≤ _
      rw [length]
      exact inside
    · intro y row x column c channel
      have position : y * config.width.toNat + x < config.width.toNat * config.height.toNat := by
        calc y * config.width.toNat + x
            < y * config.width.toNat + config.width.toNat := by omega
          _ = (y + 1) * config.width.toNat := by ring
          _ ≤ config.height.toNat * config.width.toNat := Nat.mul_le_mul_right _ row
          _ = config.width.toNat * config.height.toNat := Nat.mul_comm _ _
      have short : (y * (options.1.toNat % 2 ^ 16) + x) * 3 + c < plane.length := by
        rw [fit.width]
        omega
      rw [eventLoopFrame_element _ _ _ short, fit.width]
      change plane[_]? = plane[_]?
      congr 1
      rcases fit.packed with packed | single | none
      · rw [packed]
        ring
      · obtain rfl : y = 0 := by omega
        omega
      · omega

end Stored

/-- A resolution whose rows need no padding. -/
example : PixelsFit (640, 480) ⟨640, 480, 1920, by decide, by decide⟩ :=
  ⟨rfl, rfl, by decide, by decide, .inl rfl⟩

/-- The pipeline aligns the rows of a 100 pixels wide stream to 32 bytes. -/
def alignedConfiguration : StreamConfiguration where
  width := 100
  height := 100
  stride := 320
  row_le := by decide
  length_lt := by decide

/-- Aligned rows do not fit in the block. -/
theorem aligned_rows_overflow : ¬∀ options config, PixelsKept options config := by
  intro claim
  have kept := claim (100, 100) alignedConfiguration 0 0
    (List.replicate alignedConfiguration.length 0) List.length_replicate
  have inside := kept.inside
  have length : (eventLoopCapture (100, 100) 0
      (List.replicate alignedConfiguration.length 0)).data.length = alignedConfiguration.length :=
    List.length_replicate
  rw [length, Capture.allocated_eq] at inside
  exact absurd inside (by decide)

end KCamera
