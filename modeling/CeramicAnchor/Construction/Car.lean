import Mathlib.Algebra.Group.Nat.Defs
import Mathlib.Data.List.Basic

/-
This file gives content-addressed records and CAR files.
-/

namespace CeramicAnchor

mutual

/-- The CID of a record stands for the hash of its content, so that equal CIDs have equal content. -/
inductive Cid where
  | foreign (text : String)
  | record (content : Ipld)
  deriving DecidableEq

inductive Ipld where
  | null
  | bool (value : Bool)
  | int (value : Int)
  | float (bits : BitVec 64)
  | text (value : String)
  | bytes (value : List UInt8)
  | link (cid : Cid)
  | list (items : Items)
  | map (fields : Fields)
  deriving DecidableEq

inductive Items where
  | nil
  | cons (head : Ipld) (tail : Items)
  deriving DecidableEq

inductive Fields where
  | nil
  | cons (name : String) (value : Ipld) (rest : Fields)
  deriving DecidableEq

end

def Items.ofList : List Ipld → Items
  | [] => .nil
  | head :: tail => .cons head (ofList tail)

def Items.get : Items → Nat → Option Ipld
  | .nil, _ => none
  | .cons head _, 0 => some head
  | .cons _ tail, index + 1 => tail.get index

def Fields.ofList : List (String × Ipld) → Fields
  | [] => .nil
  | (name, value) :: rest => .cons name value (ofList rest)

def Fields.get : Fields → String → Option Ipld
  | .nil, _ => none
  | .cons name value rest, wanted => if name = wanted then some value else rest.get wanted

/-- A property of a record that has none is undefined. -/
def Ipld.property (record : Ipld) (name : String) : Option Ipld :=
  match record with
  | .map fields => fields.get name
  | _ => none

/-- The UTF-16 units of a character, with the replacement character for half of a pair. -/
def utf16Units (character : Char) : List String :=
  if character.toNat < 0x10000 then [character.toString] else ["\uFFFD", "\uFFFD"]

/-- A list, a text and a byte array have elements, and the numbers are also names of a map. -/
def Ipld.index (record : Ipld) (index : Nat) : Option Ipld :=
  match record with
  | .list items => items.get index
  | .map fields => fields.get (toString index)
  | .text value => (value.toList.flatMap utf16Units)[index]?.map .text
  | .bytes value => value[index]?.map fun byte => .int byte.toNat
  | _ => none

/-- JavaScript takes these values as false in a condition. -/
def Ipld.falsy : Ipld → Bool
  | .null => true
  | .bool value => !value
  | .int value => value = 0
  | .float bits => bits.toNat % 2 ^ 63 = 0 || 0x7FF0000000000000 < bits.toNat % 2 ^ 63
  | .text value => value = ""
  | _ => false

/-- A CAR file is read through its roots and its lookup, which takes any value for a CID and finds nothing
for an absent block. -/
class CarFile (C : Type) where
  roots : C → List Cid
  getValue : C → Option Ipld → Option Ipld

abbrev CarFile.get {C : Type} [CarFile C] (car : C) (cid : Cid) : Option Ipld :=
  CarFile.getValue car (some (.link cid))

/-- Two CIDs are equal when they agree in version, codec and multihash, and so is a map that is alike in these
fields. -/
def Cid.equals (alike : Cid → Fields → Bool) (cid : Cid) : Option Ipld → Bool
  | some (.link other) => cid = other
  | some (.map fields) => alike cid fields
  | _ => false

/-- This CAR file holds its blocks under their content addresses. -/
structure Car where
  roots : List Cid
  blocks : List Ipld
  deriving DecidableEq

namespace Car

def empty : Car := ⟨[], []⟩

/-- An absent block is undefined. -/
def get (car : Car) (cid : Cid) : Option Ipld := car.blocks.find? fun block => Cid.record block = cid

/-- Only a link finds a block. -/
def getValue (car : Car) : Option Ipld → Option Ipld
  | some (.link cid) => car.get cid
  | _ => none

instance : CarFile Car where
  roots := roots
  getValue := getValue

def putBlock (car : Car) (block : Ipld) : Car :=
  if block ∈ car.blocks then car else { car with blocks := car.blocks ++ [block] }

/-- The record is stored under its content address. -/
def put (car : Car) (record : Ipld) : Cid × Car := (.record record, car.putBlock record)

theorem get_eq_some {car : Car} {cid : Cid} {block : Ipld} :
    car.get cid = some block ↔ block ∈ car.blocks ∧ cid = .record block := by
  constructor
  · intro found
    refine ⟨List.mem_of_find?_eq_some found, ?_⟩
    have same : Cid.record block = cid := by simpa using List.find?_some found
    exact same.symm
  · rintro ⟨member, rfl⟩
    cases found : car.get (.record block) with
    | none =>
        have absent := List.find?_eq_none.mp found block member
        simp at absent
    | some other =>
        have same : Cid.record other = Cid.record block := by simpa using List.find?_some found
        rw [Cid.record.inj same]

theorem mem_putBlock {car : Car} {block other : Ipld} :
    other ∈ (car.putBlock block).blocks ↔ other ∈ car.blocks ∨ other = block := by
  unfold putBlock
  split
  · rename_i present
    constructor
    · exact Or.inl
    · rintro (member | rfl)
      · exact member
      · exact present
  · simp

theorem roots_putBlock (car : Car) (block : Ipld) : (car.putBlock block).roots = car.roots := by
  unfold putBlock
  split <;> rfl

end Car

end CeramicAnchor
