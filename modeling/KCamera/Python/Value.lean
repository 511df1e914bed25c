import Mathlib.Data.List.TakeWhile
import Mathlib.Data.Rat.Floor

/-!
# Python values

What CPython's argument parser and its structure members make of a value, in the
versions 3.10 and 3.11, the last with `distutils`, on a 32-bit little-endian
machine: `long` and `unsigned long` have 32 bits. `none` is a conversion that
raises. Floats are taken exactly.
-/

namespace KCamera

/-- A code point of a string; lone surrogates are among them. -/
abbrev CodePoint := Fin 0x110000

/-- A character is a code point. -/
theorem toNat_lt_codePoint (c : Char) : c.toNat < 0x110000 := by
  rcases c.valid with low | ⟨_, high⟩
  · exact Nat.lt_trans low (by decide)
  · exact high

/-- What the conversions make of an object of some other type. -/
structure PyObject where
  truth : Option Bool
  /-- `__index__` -/
  index : Option Int
  /-- `PyFloat_AsDouble`, by `__float__` or `__index__` -/
  float : Option ℚ

inductive PyValue where
  | int (value : Int)
  | bool (value : Bool)
  | float (value : ℚ)
  | str (text : List CodePoint)
  | tuple (items : List PyValue)
  | object (object : PyObject)

namespace PyValue

/-- The integer that an `int` is; `bool` is a subclass. -/
def integer : PyValue → Option Int
  | .int value => some value
  | .bool value => some (if value then 1 else 0)
  | _ => none

/-- `PyNumber_Index`. -/
def index : PyValue → Option Int
  | .object other => other.index
  | value => value.integer

/-- The format `I`: no overflow checking. -/
def asUnsigned (value : PyValue) : Option UInt32 := value.index.map fun i => UInt32.ofInt i

/-- `PyLong_AsUnsignedLong`, which takes nothing but an `int`. -/
def asUnsignedLong (value : PyValue) : Option UInt32 :=
  value.integer.bind fun i => if 0 ≤ i ∧ i < 2 ^ 32 then some (UInt32.ofInt i) else none

/-- `PyLong_AsLong`, as the `unsigned long` that it is stored in. -/
def asLong (value : PyValue) : Option UInt32 :=
  value.index.bind fun i => if -2 ^ 31 ≤ i ∧ i < 2 ^ 31 then some (UInt32.ofInt i) else none

/-- Assignment to a `T_UINT` member, which accepts a negative `long` too. -/
def asUnsignedMember (value : PyValue) : Option UInt32 := value.asUnsignedLong.or value.asLong

/-- From here on an integer rounds to no `double`. -/
def doubleBound : Int := 2 ^ 1024 - 2 ^ 970

/-- The format `f` and `T_FLOAT` members: `PyFloat_AsDouble`. -/
def asFloat : PyValue → Option ℚ
  | .float value => some value
  | .object other => other.float
  | value => value.integer.bind fun i =>
      if -doubleBound < i ∧ i < doubleBound then some (i : ℚ) else none

/-- Assignment to a `T_BOOL` member. -/
def asBoolMember : PyValue → Option Bool
  | .bool value => some value
  | _ => none

/-- The format `p`. -/
def truth : PyValue → Option Bool
  | .int value => some (value ≠ 0)
  | .bool value => some value
  | .float value => some (value ≠ 0)
  | .str text => some !text.isEmpty
  | .tuple items => some !items.isEmpty
  | .object other => other.truth

/-- The string of a text. -/
def ofString (text : String) : PyValue :=
  .str (text.toList.map fun c => ⟨c.toNat, toNat_lt_codePoint c⟩)

/-- The format `s`: no null characters and no surrogates. -/
def asText : PyValue → Option String
  | .str text =>
      if ∀ point ∈ text, point ≠ 0 ∧ point.val.isValidChar then
        some (String.ofList (text.map fun point => Char.ofNat point.val))
      else none
  | _ => none

/-- How many bytes each character of a string has: as many as the greatest needs. -/
def characterSize (text : List CodePoint) : Nat :=
  if ∀ point ∈ text, point < 0x100 then 1 else if ∀ point ∈ text, point < 0x10000 then 2 else 4

/-- The data of a string, read as a C string as if each character had one byte. -/
def rawText (text : List CodePoint) : List UInt8 :=
  (text.flatMap fun point =>
    (List.range (characterSize text)).map fun i => UInt8.ofNat (point.val / 256 ^ i)).takeWhile (· ≠ 0)

/-- The bytes of an ASCII text. -/
def asciiBytes (text : String) : List UInt8 := text.toList.map fun c => UInt8.ofNat c.toNat

/-- The first of some texts that `strcmp` finds equal to `PyUnicode_1BYTE_DATA` of a string. -/
def matchRaw (texts : List String) (text : List CodePoint) : Option String :=
  texts.find? fun other => asciiBytes other = rawText text

/-- `PyArg_ParseTuple` with the format `II`: what it leaves in the two
variables, and whether it succeeds. -/
def parsePair (value : PyValue) (first second : UInt32) : (UInt32 × UInt32) × Bool :=
  match value with
  | .tuple [one, two] =>
      match one.asUnsigned, two.asUnsigned with
      | none, _ => ((first, second), false)
      | some width, none => ((width, second), false)
      | some width, some height => ((width, height), true)
  | _ => ((first, second), false)

/-- `Py_BuildValue` with the format `(II)`. -/
def pair (first second : UInt32) : PyValue := .tuple [.int first.toNat, .int second.toNat]

/-- The value is a tuple of these two integers. -/
def Reports (value : PyValue) (first second : UInt32) : Prop :=
  ∃ one two, value = .tuple [one, two] ∧ one.index = some (first.toNat : Int) ∧
    two.index = some (second.toNat : Int)

end PyValue

/-- An integer that fits is stored as it is. -/
theorem ofInt_toNat (value : UInt32) : UInt32.ofInt value.toNat = value := by
  have bound := value.toNat_lt
  apply UInt32.toNat_inj.mp
  change (UInt32.ofNat ((value.toNat : Int) % 2 ^ 32).toNat).toNat = value.toNat
  rw [UInt32.toNat_ofNat']
  omega

namespace PyValue

/-- A pair that reports two numbers parses to them. -/
theorem Reports.parsePair {value : PyValue} {width height : UInt32}
    (reports : value.Reports width height) (first second : UInt32) :
    value.parsePair first second = ((width, height), true) := by
  obtain ⟨one, two, rfl, left, right⟩ := reports
  simp [PyValue.parsePair, asUnsigned, left, right, ofInt_toNat]

/-- A pair that is refused leaves the second variable. -/
theorem parsePair_height {value : PyValue} {first second : UInt32}
    (refused : (value.parsePair first second).2 = false) :
    (value.parsePair first second).1.2 = second := by
  unfold PyValue.parsePair at refused ⊢
  split
  · rename_i one two
    cases left : one.asUnsigned with
    | none => rfl
    | some width =>
        cases right : two.asUnsigned with
        | none => rfl
        | some height => simp [left, right] at refused
  · rfl

/-- What converts as an unsigned long is stored as it is. -/
theorem asUnsignedMember_of_long {value : PyValue} {val : UInt32}
    (found : value.asUnsignedLong = some val) : value.asUnsignedMember = some val := by
  rw [asUnsignedMember, found, Option.some_or]

/-- Integers in the unsigned range convert. -/
theorem asUnsignedLong_int {i : Int} (least : 0 ≤ i) (most : i < 2 ^ 32) :
    (PyValue.int i).asUnsignedLong = some (UInt32.ofInt i) := by
  change (if 0 ≤ i ∧ i < 2 ^ 32 then some (UInt32.ofInt i) else none) = _
  rw [if_pos ⟨least, most⟩]

/-- What an unsigned field shows can be assigned to it. -/
theorem asUnsignedMember_toNat (field : UInt32) :
    (PyValue.int field.toNat).asUnsignedMember = some field := by
  have bound := field.toNat_lt
  have long := asUnsignedLong_int (i := field.toNat) (by omega) (by omega)
  rw [asUnsignedMember_of_long long, ofInt_toNat]

/-- Whether a pair can be parsed does not depend on what it is stored over. -/
theorem parsePair_snd (value : PyValue) (first second first' second' : UInt32) :
    (value.parsePair first second).2 = (value.parsePair first' second').2 := by
  unfold PyValue.parsePair
  split
  · rename_i one two
    cases one.asUnsigned with
    | none => rfl
    | some width => cases two.asUnsigned <;> rfl
  · rfl

end PyValue

end KCamera
