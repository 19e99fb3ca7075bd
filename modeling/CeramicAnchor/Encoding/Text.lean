import Mathlib.Data.List.Infix

/-
This file gives the base 16 text of a byte array and the parts of a text around a separator.
-/

namespace CeramicAnchor

def base16Byte (byte : UInt8) : List Char :=
    [Nat.digitChar (byte.toNat / 16), Nat.digitChar (byte.toNat % 16)]

def base16 (bytes : List UInt8) : String := String.ofList (bytes.flatMap base16Byte)

theorem digitChar_injective : ∀ first < 16, ∀ second < 16,
    Nat.digitChar first = Nat.digitChar second → first = second := by
  decide

theorem base16Byte_injective {first second : UInt8} (same : base16Byte first = base16Byte second) :
    first = second := by
  simp only [base16Byte, List.cons.injEq, and_true] at same
  have small := first.toNat_lt
  have small' := second.toNat_lt
  have high := digitChar_injective _ (by omega) _ (by omega) same.1
  have low := digitChar_injective _ (by omega) _ (by omega) same.2
  apply UInt8.toNat_inj.mp
  omega

/-- Different byte arrays have different texts. -/
theorem base16_injective : Function.Injective base16 := by
  intro first second same
  have same : first.flatMap base16Byte = second.flatMap base16Byte := String.ofList_injective same
  induction first generalizing second with
  | nil => cases second with
    | nil => rfl
    | cons head tail => simp [base16Byte] at same
  | cons head tail ih => cases second with
    | nil => simp [base16Byte] at same
    | cons other rest =>
        rw [List.flatMap_cons, List.flatMap_cons] at same
        obtain ⟨heads, tails⟩ := List.append_inj same rfl
        rw [base16Byte_injective heads, ih (congrArg String.ofList tails) tails]

/-- A text includes each of its substrings. -/
def Includes (text part : String) : Prop := part.toList <:+: text.toList

instance (text part : String) : Decidable (Includes text part) :=
  inferInstanceAs (Decidable (part.toList <:+: text.toList))

/-- This is the text before the first separator. -/
def beforeSeparator (separator : List Char) : List Char → List Char
  | [] => []
  | char :: rest =>
      if separator.isPrefixOf (char :: rest) then [] else char :: beforeSeparator separator rest

/-- This is the text after the first separator. -/
def afterSeparator (separator : List Char) : List Char → Option (List Char)
  | [] => none
  | char :: rest =>
      if separator.isPrefixOf (char :: rest) then some ((char :: rest).drop separator.length)
      else afterSeparator separator rest

/-- This is the first part of a split text. -/
def firstPart (text separator : String) : String :=
  String.ofList (beforeSeparator separator.toList text.toList)

/-- This is the second part of a split text. -/
def secondPart (text separator : String) : Option String :=
  (afterSeparator separator.toList text.toList).map fun rest =>
    String.ofList (beforeSeparator separator.toList rest)

theorem beforeSeparator_single {mark : Char} {front rest : List Char} (free : mark ∉ front)
    (stops : rest.head? ≠ none → rest.head? = some mark) :
    beforeSeparator [mark] (front ++ rest) = front := by
  induction front with
  | nil =>
      cases rest with
      | nil => rfl
      | cons char rest =>
          obtain rfl := Option.some.inj (stops (by simp))
          simp [beforeSeparator]
  | cons char front ih =>
      rw [List.mem_cons, not_or] at free
      simp [beforeSeparator, free.1, ih free.2]

theorem afterSeparator_single {mark : Char} {front rest : List Char} (free : mark ∉ front) :
    afterSeparator [mark] (front ++ mark :: rest) = some rest := by
  induction front with
  | nil => simp [afterSeparator]
  | cons char front ih =>
      rw [List.mem_cons, not_or] at free
      simp [afterSeparator, free.1, ih free.2]

/-- A text splits at its only separator. -/
theorem split_once {front rest : String} {mark : Char} (free : mark ∉ front.toList)
    (free' : mark ∉ rest.toList) :
    firstPart (front ++ String.singleton mark ++ rest) (String.singleton mark) = front ∧
      secondPart (front ++ String.singleton mark ++ rest) (String.singleton mark) = some rest := by
  have separator : (String.singleton mark).toList = [mark] := by simp
  have chars : (front ++ String.singleton mark ++ rest).toList = front.toList ++ mark :: rest.toList := by
    simp
  have last := @beforeSeparator_single mark rest.toList [] free' (by simp)
  rw [List.append_nil] at last
  rw [firstPart, secondPart, separator, chars, beforeSeparator_single free (by simp),
    afterSeparator_single free, Option.map_some, last, String.ofList_toList, String.ofList_toList]
  exact ⟨rfl, rfl⟩

end CeramicAnchor
