import CeramicAnchor.Encoding.Json
import CeramicAnchor.Numerics.Double

/-
This file gives the whole number that a text begins with, and the text that is printed for it.
-/

namespace CeramicAnchor

open Numerics

section Reading

/-- A literal may be too large for a finite number, and a text may begin with none. -/
inductive ParsedInt where
  | nan
  | infinite (negative : Bool)
  | whole (number : WholeNumber)

def ParsedInt.ofInt (value : ℤ) : ParsedInt :=
  if small : |nearest (value : ℚ)| < 2 ^ 1024 then
    .whole ⟨⌊nearest (value : ℚ)⌋, by rw [nearest_whole]; exact nearest_isDouble small⟩
  else .infinite (decide (value < 0))

def JsChar.isBlank : JsChar → Bool
  | .scalar char => Numerics.isBlank char
  | .surrogate _ => false

def leadingDigits : JsString → List Char
  | .scalar char :: rest => if char.isDigit then char :: leadingDigits rest else []
  | _ => []

def splitSign : JsString → Bool × JsString
  | .scalar '-' :: rest => (true, rest)
  | .scalar '+' :: rest => (false, rest)
  | text => (false, text)

/-- White space and one sign may stand before the digits, and anything may follow them. -/
def parseInt (text : JsString) : ParsedInt :=
  let (negative, unsigned) := splitSign (text.dropWhile JsChar.isBlank)
  match leadingDigits unsigned with
  | [] => .nan
  | head :: tail =>
      let magnitude : ℤ := Nat.ofDigitChars 10 (head :: tail) 0
      .ofInt (if negative then -magnitude else magnitude)

end Reading

section Printing

def ParsedInt.toText : ParsedInt → List Char
  | .nan => "NaN".toList
  | .infinite negative => if negative then "-Infinity".toList else "Infinity".toList
  | .whole number => number.toText

/-- Only a whole number equals a whole number. -/
def ParsedInt.equals (number : ParsedInt) (value : ℤ) : Bool :=
  match number with
  | .whole number => number.value = value
  | _ => false

end Printing

section Digits

theorem ParsedInt.ofInt_double {value : ℤ} (isDouble : IsDouble (value : ℚ)) :
    ParsedInt.ofInt value = .whole ⟨value, isDouble⟩ := by
  have kept := nearest_double isDouble
  have small : |nearest (value : ℚ)| < 2 ^ 1024 := by
    rw [kept]
    exact isDouble.choose_spec.choose_spec.2.2.2
  rw [ParsedInt.ofInt, dif_pos small]
  simp only [kept, Int.floor_intCast]

theorem leadingDigits_digits {text : List Char} (digits : ∀ char ∈ text, char.isDigit = true) :
    leadingDigits (text.map .scalar) = text := by
  induction text with
  | nil => rfl
  | cons head tail ih =>
      rw [List.map_cons, leadingDigits, if_pos (digits head List.mem_cons_self),
        ih fun char member => digits char (List.mem_cons_of_mem _ member)]

theorem splitSign_digit {head : Char} (digit : head.isDigit = true) (rest : JsString) :
    splitSign (.scalar head :: rest) = (false, .scalar head :: rest) := by
  unfold splitSign
  split
  · next same =>
      obtain ⟨⟨rfl⟩, _⟩ := List.cons.inj same
      exact absurd digit (by decide)
  · next same =>
      obtain ⟨⟨rfl⟩, _⟩ := List.cons.inj same
      exact absurd digit (by decide)
  · rfl

/-- A text of digits is read as a whole. -/
theorem parseInt_digits {text : List Char} (nonempty : text ≠ [])
    (digits : ∀ char ∈ text, char.isDigit = true) :
    parseInt (text.map .scalar) = .ofInt (Nat.ofDigitChars 10 text 0) := by
  obtain ⟨head, tail, rfl⟩ := List.exists_cons_of_ne_nil nonempty
  have digit : head.isDigit = true := digits head List.mem_cons_self
  have printed : JsChar.isBlank (.scalar head) = false := isPrinted_space (.inl digit)
  have unblank : ((head :: tail).map JsChar.scalar).dropWhile JsChar.isBlank =
      .scalar head :: tail.map .scalar := by
    rw [List.map_cons, List.dropWhile_cons_of_neg (by rw [printed]; decide)]
  have read : leadingDigits (.scalar head :: tail.map .scalar) = head :: tail := leadingDigits_digits digits
  simp only [parseInt, unblank, splitSign_digit digit, read, Bool.false_eq_true, if_false]

theorem parseInt_digit {value : ℕ} (small : value < 10) :
    parseInt [.scalar (Nat.digitChar value)] = .ofInt value := by
  have text : [Nat.digitChar value] = Nat.toDigits 10 value := (Nat.toDigits_of_lt_base small).symm
  have read := @parseInt_digits [Nat.digitChar value] (List.cons_ne_nil _ _)
    (by rw [text]; exact toDigits_isDigit value)
  rw [text, Nat.ofDigitChars_ten_toDigits] at read
  rw [← read, ← text]
  rfl

end Digits

end CeramicAnchor
