import CeramicAnchor.Encoding.Integer

/-
This file translates the codec of the path lines, which anchor commits carry.
-/

namespace CeramicAnchor
open Numerics

inductive PathDirection where
  | L
  | R
  deriving DecidableEq, Repr

def PathDirection.number : PathDirection → Nat
  | .L => 0
  | .R => 1

/-- A direction is one of two numbers. -/
def PathDirection.toNumber (direction : PathDirection) : WholeNumber where
  value := direction.number
  isDouble := IsDouble.ofInt (by cases direction <;> decide)

/-- A value of an unknown type counts as other when it is neither a number nor an array. -/
inductive UnknownValue where
  | number (value : Number)
  | array (elements : List UnknownValue)
  | other

/-- The directions are stored as their numbers. -/
def UnknownValue.ofLine (line : List PathDirection) : UnknownValue :=
  .array (line.map fun direction => .number (.finite ⟨direction.toNumber.value, direction.toNumber.isDouble⟩))

namespace PathLineCodec

def isDirection : UnknownValue → Bool
  | .number (.finite element) =>
      if element.value = PathDirection.L.number then true
      else if element.value = PathDirection.R.number then true
      else false
  | _ => false

def is : UnknownValue → Bool
  | .array elements => elements.all isDirection
  | _ => false

def encode (line : List PathDirection) : JsString :=
  [.scalar '/'].intercalate (line.map fun direction => direction.toNumber.toText.map .scalar)

/-- The same text as records carry it. -/
def text (line : List PathDirection) : String :=
  String.ofList (['/'].intercalate (line.map fun direction => (toString direction.number).toList))

def invalidPathLine : String := "Invalid path line"

/-- An element is the text of the number that it parses to. -/
def decodeElement (element : JsString) : Except String PathDirection :=
  let number := parseInt element
  if number.toText.map JsChar.scalar ≠ element then .error invalidPathLine
  else if number.equals PathDirection.R.number then .ok .R
  else if number.equals PathDirection.L.number then .ok .L
  else .error invalidPathLine

def decodeElements (result : List PathDirection) : List JsString → Except String (List PathDirection)
  | [] => .ok result
  | element :: elements => do
      let direction ← decodeElement element
      decodeElements (result ++ [direction]) elements

def decode (input : JsString) : Except String (List PathDirection) :=
  decodeElements [] (input.splitOn (.scalar '/'))

end PathLineCodec

end CeramicAnchor
