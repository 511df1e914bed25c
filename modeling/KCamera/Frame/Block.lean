import Mathlib.Data.List.Basic
import Mathlib.Algebra.Order.Ring.Nat
import Mathlib.Tactic.Ring

/-!
# Frames as memory blocks

`kcframe.h` lays a `KcFrame` out as a header followed by pixel data, and every
frame is one `malloc` block that starts with that header. The extension is
built for 32-bit ARM (`setup.py` passes `-mfpu=neon-fp-armv8`), where integers
are little-endian, `uint64_t` is 8-byte aligned, `sizeof(KcFrame)` is 24 and
`m_data` starts at byte 20.
-/

namespace KCamera

/-- The value of a little-endian byte sequence. -/
def leNat : List UInt8 → Nat
  | [] => 0
  | byte :: rest => byte.toNat + 256 * leNat rest

/-- The low `width` bytes of `value`, least significant first. -/
def leBytes : Nat → Nat → List UInt8
  | 0, _ => []
  | width + 1, value => UInt8.ofNat value :: leBytes width (value / 256)

/-- A number takes its width in bytes. -/
@[simp] theorem leBytes_length (width value : Nat) : (leBytes width value).length = width := by
  induction width generalizing value with
  | zero => rfl
  | succ width ih => simp [leBytes, ih]

/-- What is read back is the number modulo the width. -/
theorem leNat_leBytes (width value : Nat) :
    leNat (leBytes width value) = value % 256 ^ width := by
  induction width generalizing value with
  | zero => simp [leBytes, leNat, Nat.mod_one]
  | succ width ih =>
      have byte : (UInt8.ofNat value).toNat = value % 256 := by simp
      rw [leBytes, leNat, ih, byte, pow_succ', Nat.mod_mul]

/-- Bytes read as a number are bounded by their width. -/
theorem leNat_lt (bytes : List UInt8) : leNat bytes < 256 ^ bytes.length := by
  induction bytes with
  | nil => simp [leNat]
  | cons byte rest ih =>
      have bound := byte.toNat_lt
      rw [leNat, List.length_cons, pow_succ']
      omega

/-- Encoding a byte sequence's own value gives the sequence back. -/
theorem leBytes_leNat (bytes : List UInt8) : leBytes bytes.length (leNat bytes) = bytes := by
  induction bytes with
  | nil => rfl
  | cons byte rest ih =>
      have bound := byte.toNat_lt
      have low : (byte.toNat + 256 * leNat rest) % 256 = byte.toNat := by omega
      have high : (byte.toNat + 256 * leNat rest) / 256 = leNat rest := by omega
      have head : UInt8.ofNat (byte.toNat + 256 * leNat rest) = byte := by
        apply UInt8.toNat_inj.mp
        simp only [UInt8.toNat_ofNat', Nat.reducePow]
        exact low
      rw [List.length_cons, leNat, leBytes, high, ih, head]

/-- Dark bytes with a bright one at `index`. -/
def brightAt (length index : Nat) : List UInt8 := (List.replicate length 0).set index 1

/-- A plane with one bright byte has its length. -/
@[simp] theorem brightAt_length (length index : Nat) : (brightAt length index).length = length := by
  simp [brightAt]

/-- The bright byte is 1. -/
theorem brightAt_self {length index : Nat} (inside : index < length) :
    (brightAt length index)[index]? = some 1 := by
  simp [brightAt, inside]

/-- All others are 0. -/
theorem brightAt_of_ne {length index other : Nat} (different : index ≠ other)
    (inside : other < length) : (brightAt length index)[other]? = some 0 := by
  rw [brightAt, List.getElem?_set_ne different]
  simp [inside]

/-- The kinds of pixel data. -/
inductive FrameType where
  | bgr
deriving DecidableEq, Repr

/-- The enumerator's value. -/
def FrameType.code : FrameType → Nat
  | .bgr => 0

/-- A `KcFrame *`: the allocation it points to and that block's bytes. The
bytes of a frame never change once it is handed on, so the pointer carries
them; `block` tells apart two frames with equal contents. -/
structure KcFrame where
  block : Nat
  mem : List UInt8
deriving DecidableEq, Repr, Inhabited

/-- `sizeof(KcFrame)`. -/
def sizeofKcFrame : Nat := 24

/-- Byte offset of `m_data`. -/
def dataOffset : Nat := 20

namespace KcFrame

/-- The unsigned field of `size` bytes at `offset`. Bytes past the end of the
block have no defined value; zero stands for them. -/
def field (frame : KcFrame) (offset size : Nat) : Nat :=
  leNat ((frame.mem.drop offset).take size)

def width (frame : KcFrame) : UInt16 := UInt16.ofNat (frame.field 0 2)
def height (frame : KcFrame) : UInt16 := UInt16.ofNat (frame.field 2 2)
def pts (frame : KcFrame) : UInt64 := UInt64.ofNat (frame.field 8 8)
def type (frame : KcFrame) : UInt32 := UInt32.ofNat (frame.field 16 4)

/-- The `width*height*3` pixel bytes that consumers read from `m_data`. -/
def payload (frame : KcFrame) : List UInt8 :=
  (frame.mem.drop dataOffset).take (frame.width.toNat * frame.height.toNat * 3)

end KcFrame

/-- Bytes allocated for a frame of the given dimensions, in `unsigned`. -/
def kcSizeofFrameBuffer (width height : UInt32) (_type : FrameType) : UInt32 :=
  let area := width * height
  area * 3 + UInt32.ofNat sizeofKcFrame + 32 -- BGR

/-- The block size that a frame's own header asks for. -/
def kcSizeofFrame (frame : KcFrame) : UInt32 :=
  kcSizeofFrameBuffer frame.width.toUInt32 frame.height.toUInt32 .bgr

/-- The first `size` bytes behind a pointer, as `memcpy` and `fwrite` read them. -/
def KcFrame.read (frame : KcFrame) (size : Nat) : List UInt8 :=
  frame.mem.take size ++ List.replicate (size - frame.mem.length) 0

/-- A fresh block holding a copy of `frame`. -/
def kcCopyFrame (frame : KcFrame) (block : Nat) : KcFrame :=
  { block, mem := frame.read (kcSizeofFrame frame).toNat }

/-- The block `kcFrameData` fills: the header, `data` copied to `m_data`, and
`malloc`'s own bytes (`rest`) in the padding and behind the data. -/
def KcFrame.build (block : Nat) (width height : UInt16) (type : FrameType) (pts : UInt64)
    (data rest : List UInt8) : KcFrame :=
  { block
    mem := leBytes 2 width.toNat ++ leBytes 2 height.toNat ++ leBytes 4 0 ++
      leBytes 8 pts.toNat ++ leBytes 4 type.code ++ (data ++ rest) }

namespace KcFrame

/-- A frame without pixels. -/
def blank (block : Nat) (pts : UInt64) : KcFrame :=
  build block 0 0 .bgr pts [] (List.replicate 36 0)

/-- A frame of two pixels. -/
def small (block : Nat) (pts : UInt64) : KcFrame :=
  build block 2 1 .bgr pts [10, 20, 30, 40, 50, 60] (List.replicate 36 0)

/-- A built frame is in its block. -/
@[simp] theorem build_block (block : Nat) (width height : UInt16) (type : FrameType)
    (pts : UInt64) (data rest : List UInt8) :
    (build block width height type pts data rest).block = block := rfl

/-- A built frame has its timestamp. -/
@[simp] theorem build_pts (block : Nat) (width height : UInt16) (type : FrameType)
    (pts : UInt64) (data rest : List UInt8) :
    (build block width height type pts data rest).pts = pts := by
  have taken : ((build block width height type pts data rest).mem.drop 8).take 8 =
      leBytes 8 pts.toNat := by
    simp [build, List.drop_append, List.drop_eq_nil_of_le]
  have bound := pts.toNat_lt
  apply UInt64.toNat_inj.mp
  rw [KcFrame.pts, field, taken, leNat_leBytes]
  simp

/-- Reading a frame's memory gives as many bytes as asked for. -/
@[simp] theorem read_length (frame : KcFrame) (size : Nat) :
    (frame.read size).length = size := by
  simp only [read, List.length_append, List.length_take, List.length_replicate]
  omega

/-- Within the block these are the block's first bytes. -/
theorem read_eq_take {frame : KcFrame} {size : Nat} (enough : size ≤ frame.mem.length) :
    frame.read size = frame.mem.take size := by
  simp [read, Nat.sub_eq_zero_of_le enough]

end KcFrame

end KCamera
