import CeramicAnchor.Encoding.Text
import Mathlib.Logic.Function.Basic

namespace CeramicAnchor.Storage

/-- An attribute is a text or a number. -/
inductive Attribute where
  | text (value : String)
  | number (value : Int)
  deriving DecidableEq, Repr

/-- An item has the two parts of its primary key and other attributes by name. -/
structure Item where
  PK : String
  SK : String
  attributes : List (String × Attribute)
  deriving DecidableEq, Repr

def Item.get (item : Item) (name : String) : Option Attribute :=
  if name = "PK" then some (.text item.PK)
  else if name = "SK" then some (.text item.SK)
  else item.attributes.lookup name

/-- A new value of an attribute hides its old value. -/
def Item.set (item : Item) (entries : List (String × Attribute)) : Item :=
  { item with attributes := entries ++ item.attributes }

@[simp] theorem Item.get_PK (item : Item) : item.get "PK" = some (.text item.PK) := rfl

theorem Item.get_set (item : Item) (entries : List (String × Attribute)) {name : String}
    (notPK : name ≠ "PK") (notSK : name ≠ "SK") :
    (item.set entries).get name = (entries.lookup name).or (item.get name) := by
  simp [get, set, notPK, notSK, List.lookup_append]

/-- A condition restricts the item that a write finds. -/
inductive Condition where
  | attributeExists (name : String)
  | attributeNotExists (name : String)
  | contains (name operand : String)
  | and (first second : Condition)
  | not (condition : Condition)
  deriving DecidableEq, Repr

namespace Condition

def holds : Condition → Option Item → Bool
  | attributeExists name, item => (item.bind fun found => found.get name).isSome
  | attributeNotExists name, item => (item.bind fun found => found.get name).isNone
  | contains name operand, item => match item.bind fun found => found.get name with
    | some (.text value) => decide (Includes value operand)
    | _ => false
  | and first second, item => first.holds item && second.holds item
  | not condition, item => !condition.holds item

@[simp] theorem holds_and (first second : Condition) (item : Option Item) :
    (first.and second).holds item = true ↔ first.holds item = true ∧ second.holds item = true := by
  simp [holds]

@[simp] theorem holds_not (condition : Condition) (item : Option Item) :
    condition.not.holds item = true ↔ ¬ condition.holds item = true := by
  simp [holds]

theorem holds_contains {name operand : String} {item : Option Item} :
    (contains name operand).holds item = true ↔
      ∃ found value, item = some found ∧ found.get name = some (.text value) ∧ Includes value operand := by
  cases item with
  | none => simp [holds]
  | some found =>
      cases present : found.get name with
      | none => simp [holds, present]
      | some value => cases value <;> simp [holds, present]

/-- Every item has the attributes of its key. -/
@[simp] theorem holds_exists_PK (item : Option Item) :
    (attributeExists "PK").holds item = true ↔ item.isSome := by
  cases item <;> simp [holds]

@[simp] theorem holds_notExists_PK (item : Option Item) :
    (attributeNotExists "PK").holds item = true ↔ item = none := by
  cases item <;> simp [holds]

end Condition

/-- A table of items gives at most one item for each key. -/
abbrev Documents := String × String → Option Item

namespace Documents

/-- The write goes through when there is no condition or when the found item meets it. -/
def Admits (items : Documents) (key : String × String) : Option Condition → Prop
  | none => True
  | some condition => condition.holds (items key) = true

instance (items : Documents) (key : String × String) (condition : Option Condition) :
    Decidable (items.Admits key condition) := by
  cases condition <;> unfold Admits <;> infer_instance

/-- The item replaces an item with the same key. -/
def put (items : Documents) (item : Item) : Documents :=
  Function.update items (item.PK, item.SK) (some item)

/-- An update of a missing item starts from an item without attributes. -/
def updated (items : Documents) (PK SK : String) (entries : List (String × Attribute)) : Item :=
  ((items (PK, SK)).getD ⟨PK, SK, []⟩).set entries

def update (items : Documents) (PK SK : String) (entries : List (String × Attribute)) : Documents :=
  Function.update items (PK, SK) (some (items.updated PK SK entries))

/-- No write of an item removes another one. -/
theorem put_isSome {items : Documents} {item : Item} {key : String × String} (present : (items key).isSome) :
    (items.put item key).isSome := by
  by_cases same : key = (item.PK, item.SK)
  · rw [put, same, Function.update_self]
    rfl
  · rwa [put, Function.update_of_ne same]

theorem update_isSome {items : Documents} {PK SK : String} {entries : List (String × Attribute)}
    {key : String × String} (present : (items key).isSome) : (items.update PK SK entries key).isSome := by
  by_cases same : key = (PK, SK)
  · rw [update, same, Function.update_self]
    rfl
  · rwa [update, Function.update_of_ne same]

/-- A put at a free key leaves each present item as it is. -/
theorem put_of_free {items : Documents} {item found : Item} {key : String × String}
    (free : items (item.PK, item.SK) = none) (present : items key = some found) :
    items.put item key = some found := by
  have other : key ≠ (item.PK, item.SK) := by
    intro same
    rw [same, free] at present
    cases present
  rw [put, Function.update_of_ne other, present]

end Documents

end CeramicAnchor.Storage
