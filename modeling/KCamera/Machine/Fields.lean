import Mathlib.Data.List.Nodup

/-!
# Named fields

A record whose fields are read and written by name. Values that come in for some
of the fields are stored one after the other until one of them is bad, and what
was stored before stays.
-/

namespace KCamera.Machine

/-- Fields that do not overlap. -/
structure Fields (Record Name : Type) (Value : Name → Type) where
  get : (name : Name) → Record → Value name
  put : (name : Name) → Value name → Record → Record
  get_put : ∀ (name : Name) (value : Value name) (record : Record),
    get name (put name value record) = value
  get_put_of_ne : ∀ {name other : Name} (value : Value name) (record : Record),
    name ≠ other → get other (put name value record) = get other record
  put_get : ∀ (name : Name) (record : Record), put name (get name record) record = record

namespace Fields

variable {Record Name : Type} {Value : Name → Type} (fields : Fields Record Name Value)

/-- What comes in for a field: nothing, a bad value or a good one. -/
abbrev Input (Value : Name → Type) := (name : Name) → Option (Option (Value name))

/-- Store what comes in, up to the first bad value. -/
def storeAll (input : Input Value) : List Name → Record → Record × Bool
  | [], record => (record, true)
  | name :: rest, record =>
      match input name with
      | none => storeAll input rest record
      | some none => (record, false)
      | some (some value) => storeAll input rest (fields.put name value record)

variable {fields} {input : Input Value} {names : List Name} {record : Record}

/-- Everything is stored exactly when no value is bad. -/
theorem storeAll_snd_iff : (fields.storeAll input names record).2 = true ↔
    ∀ name ∈ names, input name ≠ some none := by
  induction names generalizing record with
  | nil => simp [storeAll]
  | cons name rest ih =>
      unfold storeAll
      split
      · rename_i absent
        simp [ih, absent]
      · rename_i bad
        simp [bad]
      · rename_i value given
        simp [ih, given]

/-- A property that each good value keeps is kept by all. -/
theorem storeAll_invariant (property : Record → Prop) (holds : property record)
    (kept : ∀ name value record, input name = some (some value) → property record →
      property (fields.put name value record)) :
    property (fields.storeAll input names record).1 := by
  induction names generalizing record with
  | nil => exact holds
  | cons name rest ih =>
      unfold storeAll
      split
      · exact ih holds
      · exact holds
      · rename_i value given
        exact ih (kept name value record given holds)

end Fields

end KCamera.Machine
