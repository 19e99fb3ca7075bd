import Mathlib.Algebra.Order.Field.Power
import Mathlib.Data.Int.Log
import Mathlib.Data.List.TakeWhile
import Mathlib.Data.Rat.Floor
import Mathlib.Tactic.FieldSimp
import Mathlib.Tactic.Linarith
import Mathlib.Tactic.Positivity

/-
This file gives the numbers of double precision, the shortest text of a whole number, and its way back.
-/

namespace CeramicAnchor.Numerics

section Rounding

/-- The rational is a finite number of double precision. -/
def IsDouble (value : ℚ) : Prop :=
  ∃ mantissa exponent : ℤ, |mantissa| ≤ 2 ^ 53 ∧ -1074 ≤ exponent ∧
    value = mantissa * 2 ^ exponent ∧ |value| < 2 ^ 1024

structure Double where
  value : ℚ
  isDouble : IsDouble value

/-- This is the nearest whole number, and the even one of two. -/
def roundEven (value : ℚ) : ℤ :=
  if value - ⌊value⌋ < 1 / 2 then ⌊value⌋
  else if 1 / 2 < value - ⌊value⌋ then ⌊value⌋ + 1
  else if ⌊value⌋ % 2 = 0 then ⌊value⌋ else ⌊value⌋ + 1

/-- The exponent leaves 53 bits for the mantissa, and fewer for the smallest numbers. -/
def exponentOf (value : ℚ) : ℤ := max (Int.log 2 |value| - 52) (-1074)

def nearest (value : ℚ) : ℚ := roundEven (value / 2 ^ exponentOf value) * 2 ^ exponentOf value

theorem roundEven_intCast (value : ℤ) : roundEven value = value := by
  have half : ((value : ℚ) - value) < 1 / 2 := by norm_num
  rw [roundEven, Int.floor_intCast, if_pos half]

theorem roundEven_le {value : ℚ} {bound : ℤ} (small : |value| < bound) : |roundEven value| ≤ bound := by
  obtain ⟨below, above⟩ := abs_lt.mp small
  have low : -bound ≤ ⌊value⌋ := by
    apply Int.le_floor.mpr
    push_cast
    exact below.le
  have high : ⌊value⌋ < bound := Int.floor_lt.mpr above
  rw [abs_le, roundEven]
  split_ifs <;> omega

theorem scaled_lt (value : ℚ) : |value / 2 ^ exponentOf value| < ((2 ^ 53 : ℤ) : ℚ) := by
  have positive : (0 : ℚ) < 2 ^ exponentOf value := by positivity
  have grows : Int.log 2 |value| + 1 ≤ 53 + exponentOf value := by
    unfold exponentOf
    omega
  rw [abs_div, abs_of_pos positive, div_lt_iff₀ positive]
  calc |value| < ((2 : ℕ) : ℚ) ^ (Int.log 2 |value| + 1) := Int.lt_zpow_succ_log_self (by decide) _
    _ ≤ 2 ^ (53 + exponentOf value) := by
        push_cast
        exact zpow_le_zpow_right₀ (by norm_num) grows
    _ = ((2 ^ 53 : ℤ) : ℚ) * 2 ^ exponentOf value := by
        rw [zpow_add₀ (by norm_num)]
        norm_num

theorem nearest_isDouble {value : ℚ} (small : |nearest value| < 2 ^ 1024) : IsDouble (nearest value) :=
  ⟨_, exponentOf value, roundEven_le (scaled_lt value), le_max_right _ _, rfl, small⟩

theorem nearest_of_multiple {value : ℚ} {mantissa exponent : ℤ} (same : value = mantissa * 2 ^ exponent)
    (fine : exponentOf value ≤ exponent) : nearest value = value := by
  obtain ⟨shift, rfl⟩ := Int.le.dest fine
  have whole : value / 2 ^ exponentOf value = ((mantissa * 2 ^ shift : ℤ) : ℚ) := by
    have split : (2 : ℚ) ^ (exponentOf value + shift) = 2 ^ exponentOf value * 2 ^ shift := by
      rw [zpow_add₀ (by norm_num), zpow_natCast]
    rw [div_eq_iff (by positivity)]
    push_cast
    calc value = mantissa * 2 ^ (exponentOf value + (shift : ℤ)) := same
      _ = mantissa * 2 ^ shift * 2 ^ exponentOf value := by rw [split]; ring
  rw [nearest, whole, roundEven_intCast, ← whole, div_mul_cancel₀ _ (by positivity)]

/-- A finite number of double precision is not rounded. -/
theorem nearest_double {value : ℚ} (isDouble : IsDouble value) : nearest value = value := by
  obtain ⟨mantissa, exponent, bound, least, same, _⟩ := isDouble
  by_cases zero : mantissa = 0
  · have vanishes : value = 0 := by rw [same, zero]; simp
    have whole := roundEven_intCast 0
    rw [Int.cast_zero] at whole
    rw [vanishes, nearest, zero_div, whole, Int.cast_zero, zero_mul]
  · have size : |value| = |(mantissa : ℚ)| * 2 ^ exponent := by
      rw [same, abs_mul, abs_of_pos (show (0 : ℚ) < 2 ^ exponent by positivity)]
    have positive : 0 < |value| := by
      rw [size]
      have nonzero : (mantissa : ℚ) ≠ 0 := by exact_mod_cast zero
      positivity
    rcases lt_or_eq_of_le bound with less | full
    · refine nearest_of_multiple same (max_le ?_ least)
      have below : |value| < ((2 : ℕ) : ℚ) ^ (53 + exponent) := by
        rw [size]
        push_cast
        rw [zpow_add₀ (by norm_num)]
        refine mul_lt_mul_of_pos_right ?_ (by positivity)
        exact_mod_cast less
      have log := (Int.lt_zpow_iff_log_lt (by decide) positive).mp below
      omega
    · -- A full mantissa is half as large at the next exponent.
      have half : ∃ sign : ℤ, mantissa = sign * 2 ^ 52 * 2 := by
        rcases (abs_eq (by norm_num)).mp full with rfl | rfl
        · exact ⟨1, by norm_num⟩
        · exact ⟨-1, by norm_num⟩
      obtain ⟨sign, rfl⟩ := half
      have next : value = ((sign * 2 ^ 52 : ℤ) : ℚ) * 2 ^ (exponent + 1) := by
        rw [same, zpow_add₀ (by norm_num)]
        push_cast
        ring
      refine nearest_of_multiple next (max_le ?_ (by omega))
      have below : |value| < ((2 : ℕ) : ℚ) ^ (54 + exponent) := by
        rw [size]
        push_cast
        rw [zpow_add₀ (by norm_num)]
        refine mul_lt_mul_of_pos_right ?_ (by positivity)
        have full : |((sign * 2 ^ 52 * 2 : ℤ) : ℚ)| = 2 ^ 53 := by exact_mod_cast full
        push_cast at full
        rw [full]
        norm_num
      have log := (Int.lt_zpow_iff_log_lt (by decide) positive).mp below
      omega

theorem IsDouble.neg {value : ℚ} (isDouble : IsDouble value) : IsDouble (-value) := by
  obtain ⟨mantissa, exponent, bound, least, same, small⟩ := isDouble
  refine ⟨-mantissa, exponent, by rwa [abs_neg], least, ?_, by rwa [abs_neg]⟩
  rw [same]
  push_cast
  ring

theorem IsDouble.ofInt {value : ℤ} (small : |value| ≤ 2 ^ 53) : IsDouble (value : ℚ) := by
  refine ⟨value, 0, small, by decide, by simp, ?_⟩
  have bound : |(value : ℚ)| ≤ 2 ^ 53 := by exact_mod_cast small
  exact bound.trans_lt (pow_lt_pow_right₀ (by norm_num) (by norm_num))

/-- A whole number stays whole when it is rounded. -/
theorem nearest_whole (value : ℤ) : ((⌊nearest (value : ℚ)⌋ : ℤ) : ℚ) = nearest value := by
  by_cases small : |value| ≤ 2 ^ 53
  · rw [nearest_double (IsDouble.ofInt small), Int.floor_intCast]
  · have scaled : 0 ≤ exponentOf (value : ℚ) := by
      refine le_max_of_le_left ?_
      have large : ((2 : ℕ) : ℚ) ^ (52 : ℤ) ≤ |(value : ℚ)| := by
        have bound : (2 ^ 52 : ℤ) ≤ |value| := by omega
        push_cast
        exact_mod_cast bound
      have positive : (0 : ℚ) < ((2 : ℕ) : ℚ) ^ (52 : ℤ) := by positivity
      have log := (Int.zpow_le_iff_le_log (by decide) (positive.trans_le large)).mp large
      omega
    obtain ⟨shift, same⟩ := Int.eq_ofNat_of_zero_le scaled
    have whole : nearest (value : ℚ) = ((roundEven ((value : ℚ) / 2 ^ shift) * 2 ^ shift : ℤ) : ℚ) := by
      rw [nearest, same, zpow_natCast]
      push_cast
      rfl
    rw [whole, Int.floor_intCast]

end Rounding

/-- A number of the language; its two zeros are one number here. -/
inductive Number where
  | nan
  | infinite (negative : Bool)
  | finite (value : Double)

namespace Number

def ofRat (value : ℚ) : Number :=
  if small : |nearest value| < 2 ^ 1024 then .finite ⟨nearest value, nearest_isDouble small⟩
  else .infinite (decide (value < 0))

def neg : Number → Number
  | .nan => .nan
  | .infinite negative => .infinite !negative
  | .finite value => .finite ⟨-value.value, value.isDouble.neg⟩

/-- The comparison with a number that is none is false. -/
def lt (number : Number) (bound : ℤ) : Bool :=
  match number with
  | .nan => false
  | .infinite negative => negative
  | .finite value => decide (value.value < bound)

theorem ofRat_nearest {value other : ℚ} (isDouble : IsDouble value) (rounds : nearest other = value) :
    ofRat other = .finite ⟨value, isDouble⟩ := by
  have small : |nearest other| < 2 ^ 1024 := by
    rw [rounds]
    exact isDouble.choose_spec.choose_spec.2.2.2
  rw [ofRat, dif_pos small]
  simp only [rounds]

end Number

section Printing

/-- A whole number of double precision. -/
structure WholeNumber where
  value : ℤ
  isDouble : IsDouble value

/-- These are the two multiples around a number, and the nearer one comes first. -/
def multiples (scale value : ℕ) : List ℕ :=
  let low := value / scale * scale
  if 2 * (value % scale) < scale ∨
      (2 * (value % scale) = scale ∧ value / scale % 2 = 0) then [low, low + scale]
  else [low + scale, low]

def decimals (value : ℕ) : ℕ := (Nat.toDigits 10 value).length

/-- Of the numbers that round to the given one, this has the fewest digits before its final zeros. -/
def shortest (value : ℕ) : ℕ :=
  let candidates : List ℕ :=
    (List.range (decimals value)).reverse.flatMap fun zeros => multiples (10 ^ zeros) value
  (candidates.find? fun candidate : ℕ => nearest (candidate : ℚ) = (value : ℚ)).getD value

def withoutZeros (digits : List Char) : List Char := (digits.reverse.dropWhile (· = '0')).reverse

/-- The first digit stands before the point. -/
def pointed : List Char → List Char
  | [] => []
  | [digit] => [digit]
  | digit :: rest => digit :: '.' :: rest

def exponential (digits : List Char) : List Char :=
  pointed (withoutZeros digits) ++ 'e' :: '+' :: Nat.toDigits 10 (digits.length - 1)

def printDecimal (value : ℕ) : List Char :=
  if decimals value ≤ 21 then Nat.toDigits 10 value else exponential (Nat.toDigits 10 value)

def WholeNumber.toText (number : WholeNumber) : List Char :=
  if number.value < 0 then '-' :: printDecimal (shortest number.value.natAbs)
  else printDecimal (shortest number.value.natAbs)

end Printing

section Parsing

/-- White space and line ends of the language. -/
def isBlank (char : Char) : Bool :=
  char.toNat ∈
  [0x9, 0xA, 0xB, 0xC, 0xD, 0x20, 0xA0, 0x1680, 0x2028, 0x2029, 0x202F, 0x205F, 0x3000, 0xFEFF] ||
    (0x2000 ≤ char.toNat && char.toNat ≤ 0x200A)

def trim (text : List Char) : List Char := ((text.dropWhile isBlank).reverse.dropWhile isBlank).reverse

def digits (text : List Char) : Option ℕ :=
  if text ≠ [] ∧ text.all Char.isDigit then some (Nat.ofDigitChars 10 text 0) else none

def signedDigits : List Char → Option ℤ
  | '-' :: text => (digits text).map fun value => -(value : ℤ)
  | '+' :: text => (digits text).map fun value => (value : ℤ)
  | text => (digits text).map fun value => (value : ℤ)

def exponentPart : List Char → Option ℤ
  | [] => some 0
  | mark :: text => if mark = 'e' ∨ mark = 'E' then signedDigits text else none

def afterPoint : List Char → List Char × List Char
  | '.' :: text => (text.takeWhile Char.isDigit, text.dropWhile Char.isDigit)
  | text => ([], text)

def decimalLiteral (text : List Char) : Option ℚ :=
  let whole := text.takeWhile Char.isDigit
  let (fraction, rest) := afterPoint (text.dropWhile Char.isDigit)
  if whole = [] ∧ fraction = [] then none
  else (exponentPart rest).map fun exponent : ℤ =>
    (Nat.ofDigitChars 10 (whole ++ fraction) 0 : ℚ) * 10 ^ (exponent - fraction.length)

def radixOf (mark : Char) : Option ℕ :=
  if mark = 'b' ∨ mark = 'B' then some 2
  else if mark = 'o' ∨ mark = 'O' then some 8
  else if mark = 'x' ∨ mark = 'X' then some 16
  else none

def digitValue (char : Char) : ℕ :=
  if char.isDigit then char.toNat - '0'.toNat
  else if 'a' ≤ char ∧ char ≤ 'f' then char.toNat - 'a'.toNat + 10
  else if 'A' ≤ char ∧ char ≤ 'F' then char.toNat - 'A'.toNat + 10
  else 16

def radixDigits (radix : ℕ) (text : List Char) : Option ℚ :=
  if text ≠ [] ∧ text.all (fun char => digitValue char < radix) then
    some ((text.foldl (fun value char => radix * value + digitValue char) 0 : ℕ) : ℚ)
  else none

/-- A literal may have another radix, and then it has no sign. -/
def radixLiteral : List Char → Option ℚ
  | '0' :: mark :: text => (radixOf mark).bind fun radix => radixDigits radix text
  | _ => none

def unsigned (text : List Char) : Number :=
  if text = "Infinity".toList then .infinite false
  else match decimalLiteral text with
    | none => .nan
    | some value => .ofRat value

def signed : List Char → Number
  | [] => .ofRat 0
  | '-' :: text => (unsigned text).neg
  | '+' :: text => unsigned text
  | text => unsigned text

/-- This is the number of a text. -/
def Number.ofText (text : List Char) : Number :=
  match radixLiteral (trim text) with
  | some value => .ofRat value
  | none => signed (trim text)

end Parsing

section RoundTrip

/-- The printed texts consist of these characters. -/
def isPrinted (char : Char) : Prop := char.isDigit = true ∨ char ∈ ['e', '+', '.', '-']

theorem shortest_rounds {value : ℕ} (isDouble : IsDouble value) : nearest (shortest value : ℚ) = value := by
  unfold shortest
  dsimp only
  cases found : List.find? (fun candidate : ℕ => decide (nearest (candidate : ℚ) = (value : ℚ)))
      ((List.range (decimals value)).reverse.flatMap fun zeros => multiples (10 ^ zeros) value) with
  | none => exact nearest_double isDouble
  | some candidate =>
      have rounds := List.find?_some found
      exact of_decide_eq_true rounds

/-- A number of one digit has no shorter text. -/
theorem shortest_digit {value : ℕ} (small : value < 10) : shortest value = value := by
  have isDouble : IsDouble ((value : ℤ) : ℚ) := IsDouble.ofInt (by rw [abs_of_nonneg (by omega)]; omega)
  have rounds : nearest (value : ℚ) = value := by exact_mod_cast nearest_double isDouble
  have one : decimals value = 1 := by rw [decimals, Nat.toDigits_of_lt_base small, List.length_singleton]
  simp [shortest, one, multiples, Nat.mod_one, rounds]

theorem toText_digit {number : WholeNumber} {value : ℕ} (same : number.value = value) (small : value < 10) :
    number.toText = [Nat.digitChar value] := by
  have one : decimals value = 1 := by rw [decimals, Nat.toDigits_of_lt_base small, List.length_singleton]
  rw [WholeNumber.toText, same, if_neg (by omega), Int.natAbs_natCast, shortest_digit small, printDecimal,
    if_pos (by omega), Nat.toDigits_of_lt_base small]

theorem takeWhile_digits (rest : List Char) {text : List Char} (all : ∀ char ∈ text, char.isDigit = true)
    (stops : ∀ char ∈ rest.head?, char.isDigit = false) :
    (text ++ rest).takeWhile Char.isDigit = text ∧ (text ++ rest).dropWhile Char.isDigit = rest := by
  have none_ : rest.takeWhile Char.isDigit = [] ∧ rest.dropWhile Char.isDigit = rest := by
    cases rest with
    | nil => exact ⟨rfl, rfl⟩
    | cons char tail => simp [stops char rfl]
  rw [List.takeWhile_append_of_pos all, List.dropWhile_append_of_pos all, none_.1, none_.2]
  exact ⟨List.append_nil text, rfl⟩

theorem toDigits_isDigit (value : ℕ) : ∀ char ∈ Nat.toDigits 10 value, char.isDigit = true :=
  fun _ member => Nat.isDigit_of_mem_toDigits (by decide) (by decide) member

theorem decimalLiteral_toDigits (value : ℕ) : decimalLiteral (Nat.toDigits 10 value) = some (value : ℚ) := by
  have cut := takeWhile_digits [] (toDigits_isDigit value) (by simp)
  rw [List.append_nil] at cut
  simp [decimalLiteral, cut.1, cut.2, afterPoint, exponentPart, Nat.toDigits_ne_nil]

theorem signedDigits_plus (value : ℕ) : signedDigits ('+' :: Nat.toDigits 10 value) = some (value : ℤ) := by
  have all : (Nat.toDigits 10 value).all Char.isDigit = true := List.all_eq_true.mpr (toDigits_isDigit value)
  simp [signedDigits, digits, all, Nat.toDigits_ne_nil]

/-- The final zeros are a power of ten. -/
theorem withoutZeros_append (digits : List Char) :
    ∃ zeros, digits = withoutZeros digits ++ List.replicate zeros '0' := by
  have zeros : digits.reverse.takeWhile (· = '0') =
      List.replicate (digits.reverse.takeWhile (· = '0')).length '0' := by
    apply List.eq_replicate_of_mem
    intro char member
    have zero := List.mem_takeWhile_imp member
    exact of_decide_eq_true zero
  refine ⟨(digits.reverse.takeWhile (· = '0')).length, ?_⟩
  have split := congrArg List.reverse (List.takeWhile_append_dropWhile (p := (· = '0')) (l := digits.reverse))
  rw [List.reverse_reverse, List.reverse_append, zeros, List.reverse_replicate] at split
  exact split.symm

theorem decimalLiteral_pointed {head : Char} {tail : List Char} (digit : head.isDigit = true)
    (rest : ∀ char ∈ tail, char.isDigit = true) (exponent : ℕ) :
    decimalLiteral (pointed (head :: tail) ++ 'e' :: '+' :: Nat.toDigits 10 exponent) =
      some ((Nat.ofDigitChars 10 (head :: tail) 0 : ℚ) * 10 ^ ((exponent : ℤ) - tail.length)) := by
  have mark : exponentPart ('e' :: '+' :: Nat.toDigits 10 exponent) = some (exponent : ℤ) := by
    rw [exponentPart, if_pos (.inl rfl), signedDigits_plus]
  have lone : ∀ char ∈ [head], char.isDigit = true := by simpa using digit
  cases tail with
  | nil =>
      have cut := takeWhile_digits ('e' :: '+' :: Nat.toDigits 10 exponent) lone (by simp)
      simp only [List.cons_append, List.nil_append] at cut
      simp only [pointed, decimalLiteral, List.cons_append, List.nil_append, cut.1, cut.2, afterPoint]
      simp [mark]
  | cons next tail =>
      have cut := takeWhile_digits ('.' :: (next :: tail) ++ 'e' :: '+' :: Nat.toDigits 10 exponent) lone
        (by simp)
      have cut' := takeWhile_digits ('e' :: '+' :: Nat.toDigits 10 exponent) rest (by simp)
      simp only [List.cons_append, List.nil_append] at cut cut'
      simp only [pointed, decimalLiteral, List.cons_append, cut.1, cut.2, afterPoint, cut'.1, cut'.2, mark]
      simp

theorem withoutZeros_toDigits {value : ℕ} (positive : 0 < value) :
    ∃ head tail, withoutZeros (Nat.toDigits 10 value) = head :: tail ∧
      ∀ char ∈ head :: tail, char.isDigit = true := by
  obtain ⟨zeros, split⟩ := withoutZeros_append (Nat.toDigits 10 value)
  cases leading : withoutZeros (Nat.toDigits 10 value) with
  | nil =>
      have whole := @Nat.ofDigitChars_ten_toDigits value
      rw [split, leading, Nat.ofDigitChars_append, Nat.ofDigitChars_replicate_zero] at whole
      simp at whole
      omega
  | cons head tail =>
      refine ⟨head, tail, rfl, fun char member => toDigits_isDigit value char ?_⟩
      rw [split, leading]
      exact List.mem_append_left _ member

theorem decimalLiteral_exponential {value : ℕ} (positive : 0 < value) :
    decimalLiteral (exponential (Nat.toDigits 10 value)) = some (value : ℚ) := by
  obtain ⟨zeros, split⟩ := withoutZeros_append (Nat.toDigits 10 value)
  obtain ⟨head, tail, leading, all⟩ := withoutZeros_toDigits positive
  have whole := @Nat.ofDigitChars_ten_toDigits value
  rw [split, leading, Nat.ofDigitChars_append, Nat.ofDigitChars_replicate_zero] at whole
  have length : (Nat.toDigits 10 value).length - 1 = tail.length + zeros := by
    rw [split, leading, List.length_append, List.length_replicate, List.length_cons]
    omega
  rw [exponential, leading, decimalLiteral_pointed (all head List.mem_cons_self)
    (fun char member => all char (List.mem_cons_of_mem _ member)), length]
  push_cast
  rw [add_sub_cancel_left, zpow_natCast, ← whole]
  push_cast
  rw [mul_comm]

theorem positive_of_long {value : ℕ} (long : ¬ decimals value ≤ 21) : 0 < value := by
  refine Nat.pos_of_ne_zero ?_
  rintro rfl
  exact long (by decide)

theorem decimalLiteral_printDecimal (value : ℕ) : decimalLiteral (printDecimal value) = some (value : ℚ) := by
  unfold printDecimal
  split
  · exact decimalLiteral_toDigits value
  · next long => exact decimalLiteral_exponential (positive_of_long long)

theorem pointed_mem {digits : List Char} {char : Char} (member : char ∈ pointed digits) :
    char = '.' ∨ char ∈ digits := by
  match digits with
  | [digit] => exact .inr member
  | digit :: next :: rest =>
      simp only [pointed, List.mem_cons] at member ⊢
      tauto

theorem printDecimal_isPrinted (value : ℕ) : ∀ char ∈ printDecimal value, isPrinted char := by
  intro char member
  unfold printDecimal at member
  split at member
  · exact .inl (toDigits_isDigit value char member)
  · rw [exponential, List.mem_append, List.mem_cons, List.mem_cons] at member
    rcases member with leading | rfl | rfl | exponent
    · rcases pointed_mem leading with rfl | digit
      · exact .inr (by decide)
      · obtain ⟨zeros, split⟩ := withoutZeros_append (Nat.toDigits 10 value)
        refine .inl (toDigits_isDigit value char ?_)
        rw [split]
        exact List.mem_append_left _ digit
    · exact .inr (by decide)
    · exact .inr (by decide)
    · exact .inl (toDigits_isDigit _ char exponent)

theorem toText_isPrinted (number : WholeNumber) : ∀ char ∈ number.toText, isPrinted char := by
  intro char member
  unfold WholeNumber.toText at member
  split at member
  · rcases List.mem_cons.mp member with rfl | member
    · exact .inr (by decide)
    · exact printDecimal_isPrinted _ char member
  · exact printDecimal_isPrinted _ char member

theorem isPrinted_space {char : Char} (printed : isPrinted char) : isBlank char = false := by
  rcases printed with digit | mark
  · have bounds : 48 ≤ char.toNat ∧ char.toNat ≤ 57 := by
      simp only [Char.isDigit, Bool.and_eq_true, decide_eq_true_eq] at digit
      exact ⟨UInt32.le_iff_toNat_le.mp digit.1, UInt32.le_iff_toNat_le.mp digit.2⟩
    simp only [isBlank, Bool.or_eq_false_iff, decide_eq_false_iff_not, List.mem_cons, List.not_mem_nil,
      or_false, Bool.and_eq_false_iff]
    omega
  · simp only [List.mem_cons, List.not_mem_nil, or_false] at mark
    rcases mark with rfl | rfl | rfl | rfl <;> decide

theorem trim_printed {text : List Char} (printed : ∀ char ∈ text, isPrinted char) : trim text = text := by
  have kept : ∀ part : List Char, (∀ char ∈ part, isPrinted char) → part.dropWhile isBlank = part := by
    intro part printed
    cases part with
    | nil => rfl
    | cons head rest =>
        exact List.dropWhile_cons_of_neg (by rw [isPrinted_space (printed head List.mem_cons_self)]; decide)
  rw [trim, kept text printed, kept text.reverse fun char member => printed char (List.mem_reverse.mp member),
    List.reverse_reverse]

theorem radixLiteral_printed {text : List Char} (printed : ∀ char ∈ text, isPrinted char) :
    radixLiteral text = none := by
  unfold radixLiteral
  split
  · next mark rest =>
      have other : radixOf mark = none := by
        rcases printed mark (by simp) with digit | mark
        · have named : mark ∉ ['b', 'B', 'o', 'O', 'x', 'X'] := by
            intro member
            simp only [List.mem_cons, List.not_mem_nil, or_false] at member
            rcases member with rfl | rfl | rfl | rfl | rfl | rfl <;> exact absurd digit (by decide)
          simp only [List.mem_cons, List.not_mem_nil, or_false, not_or] at named
          simp [radixOf, named]
        · simp only [List.mem_cons, List.not_mem_nil, or_false] at mark
          rcases mark with rfl | rfl | rfl | rfl <;> decide
      rw [other]
      rfl
  · rfl

theorem unsigned_printDecimal (value : ℕ) : unsigned (printDecimal value) = .ofRat value := by
  have other : printDecimal value ≠ "Infinity".toList := by
    intro same
    have printed := printDecimal_isPrinted value 'I' (by rw [same]; decide)
    revert printed
    simp [isPrinted]
  rw [unsigned, if_neg other, decimalLiteral_printDecimal]

theorem printDecimal_head (value : ℕ) :
    ∃ head tail, printDecimal value = head :: tail ∧ head.isDigit = true := by
  unfold printDecimal
  split
  · obtain ⟨head, tail, text⟩ := List.exists_cons_of_ne_nil (@Nat.toDigits_ne_nil value 10)
    refine ⟨head, tail, text, toDigits_isDigit value head ?_⟩
    rw [text]
    exact List.mem_cons_self
  · next long =>
      obtain ⟨head, tail, leading, all⟩ := withoutZeros_toDigits (positive_of_long long)
      rw [exponential, leading]
      cases tail with
      | nil => exact ⟨head, _, rfl, all head List.mem_cons_self⟩
      | cons next rest => exact ⟨head, _, rfl, all head List.mem_cons_self⟩

theorem signed_printDecimal (value : ℕ) : signed (printDecimal value) = .ofRat value := by
  obtain ⟨head, tail, text, digit⟩ := printDecimal_head value
  have same := unsigned_printDecimal value
  rw [text] at same ⊢
  unfold signed
  split
  · next empty => cases empty
  · next text =>
      obtain ⟨rfl, _⟩ := List.cons.inj text
      exact absurd digit (by decide)
  · next text =>
      obtain ⟨rfl, _⟩ := List.cons.inj text
      exact absurd digit (by decide)
  · exact same

/-- A whole number is read back from its text. -/
theorem ofText_toText (number : WholeNumber) :
    Number.ofText number.toText = .finite ⟨number.value, number.isDouble⟩ := by
  have printed := toText_isPrinted number
  rw [Number.ofText, trim_printed printed, radixLiteral_printed printed]
  dsimp only
  unfold WholeNumber.toText
  split
  · next negative =>
      have size : (number.value.natAbs : ℚ) = -number.value := by
        rw [Nat.cast_natAbs, abs_of_neg negative, Int.cast_neg]
      have natural : IsDouble (number.value.natAbs : ℚ) := size ▸ number.isDouble.neg
      rw [signed, unsigned_printDecimal, Number.ofRat_nearest natural (shortest_rounds natural), Number.neg]
      simp only [size, neg_neg]
  · next natural =>
      have size : (number.value.natAbs : ℚ) = number.value := by
        rw [Nat.cast_natAbs, abs_of_nonneg (not_lt.mp natural)]
      have natural : IsDouble (number.value.natAbs : ℚ) := size ▸ number.isDouble
      rw [signed_printDecimal, Number.ofRat_nearest natural (shortest_rounds natural)]
      simp only [size]

end RoundTrip

end CeramicAnchor.Numerics
