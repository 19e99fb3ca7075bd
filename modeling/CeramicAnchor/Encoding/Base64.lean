import CeramicAnchor.Encoding.Text

/-
This file gives the base 64 text of a byte array and reads it back.
-/

namespace CeramicAnchor.Base64

def alphabet : List Char := "ABCDEFGHIJKLMNOPQRSTUVWXYZabcdefghijklmnopqrstuvwxyz0123456789+/".toList

def letter (value : Nat) : Char := alphabet.getD value '='

def letterValue (char : Char) : Nat := alphabet.idxOf char

/-- Three bytes make four letters, and the last group is padded. -/
def print : List UInt8 → List Char
  | first :: second :: third :: rest =>
      letter (first.toNat / 4) :: letter (first.toNat % 4 * 16 + second.toNat / 16) ::
        letter (second.toNat % 16 * 4 + third.toNat / 64) :: letter (third.toNat % 64) :: print rest
  | [first, second] =>
      [letter (first.toNat / 4), letter (first.toNat % 4 * 16 + second.toNat / 16),
        letter (second.toNat % 16 * 4), '=']
  | [first] => [letter (first.toNat / 4), letter (first.toNat % 4 * 16), '=', '=']
  | [] => []

/-- The bytes of four letters, as many as the padding leaves. -/
def group (first second : Nat) : List Nat → List UInt8
  | [] => [UInt8.ofNat (first * 4 + second / 16)]
  | [third] => [UInt8.ofNat (first * 4 + second / 16), UInt8.ofNat (second % 16 * 16 + third / 4)]
  | third :: fourth :: _ =>
      [UInt8.ofNat (first * 4 + second / 16), UInt8.ofNat (second % 16 * 16 + third / 4),
        UInt8.ofNat (third % 4 * 64 + fourth)]

def read : List Char → List UInt8
  | first :: second :: third :: fourth :: rest =>
      group (letterValue first) (letterValue second)
        (([third, fourth].takeWhile (· ≠ '=')).map letterValue) ++ read rest
  | _ => []

theorem letterValue_letter : ∀ value < 64, letterValue (letter value) = value ∧ letter value ≠ '=' ∧
    letter value ≠ ' ' := by
  decide

theorem ofNat_toNat {value : Nat} {byte : UInt8} (same : value = byte.toNat) : UInt8.ofNat value = byte := by
  rw [same, UInt8.ofNat_toNat]

theorem read_print (bytes : List UInt8) : read (print bytes) = bytes := by
  induction bytes using print.induct with
  | case1 first second third rest ih =>
      have one := first.toNat_lt
      have two := second.toNat_lt
      have three := third.toNat_lt
      have a := letterValue_letter (first.toNat / 4) (by omega)
      have b := letterValue_letter (first.toNat % 4 * 16 + second.toNat / 16) (by omega)
      have c := letterValue_letter (second.toNat % 16 * 4 + third.toNat / 64) (by omega)
      have d := letterValue_letter (third.toNat % 64) (by omega)
      simp [print, read, ih, group, a, b, c, d, -UInt8.ofNat_add, -UInt8.ofNat_mul]
      exact ⟨ofNat_toNat (by omega), ofNat_toNat (by omega), ofNat_toNat (by omega)⟩
  | case2 first second =>
      have one := first.toNat_lt
      have two := second.toNat_lt
      have a := letterValue_letter (first.toNat / 4) (by omega)
      have b := letterValue_letter (first.toNat % 4 * 16 + second.toNat / 16) (by omega)
      have c := letterValue_letter (second.toNat % 16 * 4) (by omega)
      simp [print, read, group, a, b, c, -UInt8.ofNat_add, -UInt8.ofNat_mul]
      exact ⟨ofNat_toNat (by omega), ofNat_toNat (by omega)⟩
  | case3 first =>
      have one := first.toNat_lt
      have a := letterValue_letter (first.toNat / 4) (by omega)
      have b := letterValue_letter (first.toNat % 4 * 16) (by omega)
      simp [print, read, group, a, b, -UInt8.ofNat_add, -UInt8.ofNat_mul]
      exact ofNat_toNat (by omega)
  | case4 => rfl

theorem letter_unspaced (value : Nat) : letter value ≠ ' ' := by
  by_cases small : value < 64
  · exact (letterValue_letter value small).2.2
  · have past : letter value = '=' := by
      rw [letter, List.getD_eq_getElem?_getD, List.getElem?_eq_none (Nat.le_of_not_lt small)]
      rfl
    rw [past]
    decide

theorem print_unspaced (bytes : List UInt8) : ' ' ∉ print bytes := by
  induction bytes using print.induct with
  | case1 first second third rest ih => simp [print, ih, (letter_unspaced _).symm]
  | case2 first second => simp [print, (letter_unspaced _).symm]
  | case3 first => simp [print, (letter_unspaced _).symm]
  | case4 => simp [print]

end CeramicAnchor.Base64
