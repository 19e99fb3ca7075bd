import CeramicAnchor.Encoding.Json

/-
This file reads JSON texts, and it gives back what `JSON.stringify` has printed.
-/

namespace CeramicAnchor

section Reader

def isJsonBlank (char : Char) : Bool := char ∈ [' ', '\t', '\n', '\r']

def skipBlanks (text : List Char) : List Char := text.dropWhile isJsonBlank

def hexValue (char : Char) : Option Nat :=
    (List.range 16).find? fun digit => Nat.digitChar digit = char.toLower

/-- Four hexadecimal digits are the code of one unit. -/
def hexCode (first second third fourth : Char) : Option Nat := do
  let first ← hexValue first
  let second ← hexValue second
  let third ← hexValue third
  let fourth ← hexValue fourth
  pure (4096 * first + 256 * second + 16 * third + fourth)

def codeChar (code : Nat) : JsChar :=
  if 0xD800 ≤ code ∧ code < 0xE000 then .surrogate ⟨(code - 0xD800) % 2048, Nat.mod_lt _ (Nat.succ_pos _)⟩
  else .scalar (Char.ofNat code)

/-- A slash may be escaped as well. -/
def unescape (letter : Char) : Option Char :=
  if letter = '/' then some '/' else (shortEscapes.find? fun entry => entry.2 = letter).map Prod.fst

/-- This reads the text after the opening quotation mark. -/
def readUnits : List Char → Option (JsString × List Char)
  | [] => none
  | char :: rest =>
      if char = '"' then some ([], rest)
      else if char = '\\' then
        match rest with
        | 'u' :: first :: second :: third :: fourth :: rest => do
            let code ← hexCode first second third fourth
            let (units, rest) ← readUnits rest
            pure (codeChar code :: units, rest)
        | letter :: rest => do
            let char ← unescape letter
            let (units, rest) ← readUnits rest
            pure (.scalar char :: units, rest)
        | [] => none
      else if char.toNat < 32 then none
      else do
        let (units, rest) ← readUnits rest
        pure (.scalar char :: units, rest)

/-- A high surrogate and the low one after it are one character. -/
def joinSurrogates : JsString → JsString
  | .surrogate high :: .surrogate low :: rest =>
      if high.val < 1024 ∧ 1024 ≤ low.val then
        .scalar (Char.ofNat (0x10000 + 1024 * high.val + (low.val - 1024))) :: joinSurrogates rest
      else .surrogate high :: joinSurrogates (.surrogate low :: rest)
  | char :: rest => char :: joinSurrogates rest
  | [] => []

def readText (text : List Char) : Option (JsString × List Char) :=
  (readUnits text).map fun found => (joinSurrogates found.1, found.2)

def isLiteralChar (char : Char) : Bool := isNumberChar char || char = 'E'

/-- This skips one digit or more. -/
def skipDigits (text : List Char) : Option (List Char) :=
  if (text.takeWhile Char.isDigit).isEmpty then none else some (text.dropWhile Char.isDigit)

def skipInteger : List Char → Option (List Char)
  | '0' :: rest => some rest
  | text => skipDigits text

def skipFraction : List Char → Option (List Char)
  | '.' :: rest => skipDigits rest
  | text => some text

def skipExponent : List Char → Option (List Char)
  | 'e' :: '+' :: rest => skipDigits rest
  | 'e' :: '-' :: rest => skipDigits rest
  | 'e' :: rest => skipDigits rest
  | 'E' :: '+' :: rest => skipDigits rest
  | 'E' :: '-' :: rest => skipDigits rest
  | 'E' :: rest => skipDigits rest
  | text => some text

/-- A number has no leading zero, and digits on both sides of its point. -/
def isLiteral (text : List Char) : Bool :=
  let unsigned := if text.head? = some '-' then text.tail else text
  (do
    let rest ← skipInteger unsigned
    let rest ← skipFraction rest
    skipExponent rest) = some []

/-- The value of a literal is the number that the language reads there. -/
def readNumber (number : List Char → JsNumber) (text : List Char) : Option (Json × List Char) :=
  let literal := text.takeWhile isLiteralChar
  if isLiteral literal then some (.number (number literal), text.dropWhile isLiteralChar) else none

def JsonFields.without (name : JsString) : JsonFields → JsonFields
  | .nil => .nil
  | .cons other value rest => if other = name then rest else .cons other value (rest.without name)

/-- A repeated name keeps its first place and gets its last value. -/
def JsonFields.add (name : JsString) (value : Json) (rest : JsonFields) : JsonFields :=
  match rest.get name with
  | some later => .cons name later (rest.without name)
  | none => .cons name value rest

/-- A scalar value is a word, a text or a number. -/
def readScalar (number : List Char → JsNumber) : List Char → Option (Json × List Char)
  | 'n' :: 'u' :: 'l' :: 'l' :: rest => some (.null, rest)
  | 't' :: 'r' :: 'u' :: 'e' :: rest => some (.bool true, rest)
  | 'f' :: 'a' :: 'l' :: 's' :: 'e' :: rest => some (.bool false, rest)
  | '"' :: rest => (readText rest).map fun found => (.text found.1, found.2)
  | text => readNumber number text

mutual

def readValue (number : List Char → JsNumber) : Nat → List Char → Option (Json × List Char)
  | 0, _ => none
  | fuel + 1, text =>
      match skipBlanks text with
      | '[' :: rest =>
          if (skipBlanks rest).head? = some ']' then some (.array .nil, (skipBlanks rest).tail)
          else (readItems number fuel rest).map fun found => (.array found.1, found.2)
      | '\x7b' :: rest =>
          if (skipBlanks rest).head? = some '\x7d' then some (.object .nil, (skipBlanks rest).tail)
          else (readFields number fuel rest).map fun found => (.object found.1, found.2)
      | text => readScalar number text

/-- This reads one item or more, and the closing bracket. -/
def readItems (number : List Char → JsNumber) : Nat → List Char → Option (JsonItems × List Char)
  | 0, _ => none
  | fuel + 1, text => do
      let (head, rest) ← readValue number fuel text
      match skipBlanks rest with
      | ']' :: rest => pure (.cons head .nil, rest)
      | ',' :: rest => do
          let (tail, rest) ← readItems number fuel rest
          pure (.cons head tail, rest)
      | _ => none

/-- This reads one field or more, and the closing brace. -/
def readFields (number : List Char → JsNumber) : Nat → List Char → Option (JsonFields × List Char)
  | 0, _ => none
  | fuel + 1, text => do
      match skipBlanks text with
      | '"' :: rest => do
          let (name, rest) ← readText rest
          match skipBlanks rest with
          | ':' :: rest => do
              let (value, rest) ← readValue number fuel rest
              match skipBlanks rest with
              | '\x7d' :: rest => pure (.cons name value .nil, rest)
              | ',' :: rest => do
                  let (others, rest) ← readFields number fuel rest
                  pure (others.add name value, rest)
              | _ => none
          | _ => none
      | _ => none

end

/-- A text is one value with nothing but blanks around it. -/
def Json.parse (number : List Char → JsNumber) (text : List Char) : Option Json := do
  let (value, rest) ← readValue number text.length text
  if skipBlanks rest = [] then pure value else none

end Reader

section RoundTrip

theorem hexValue_digitChar : ∀ digit < 16, hexValue (Nat.digitChar digit) = some digit := by decide

theorem hexCode_hexDigits {code : Nat} (small : code < 65536) :
    hexCode (Nat.digitChar (code / 4096 % 16)) (Nat.digitChar (code / 256 % 16))
      (Nat.digitChar (code / 16 % 16)) (Nat.digitChar (code % 16)) = some code := by
  simp only [hexCode, hexValue_digitChar _ (Nat.mod_lt _ (by decide : 0 < 16)), Option.bind_eq_bind,
    Option.bind_some]
  change some _ = some code
  congr 1
  omega

theorem readUnits_code {code : Nat} (small : code < 65536) (rest : List Char) :
    readUnits (unicodeEscape code ++ rest) =
      (readUnits rest).map fun found => (codeChar code :: found.1, found.2) := by
  rw [unicodeEscape, hexDigits]
  simp only [List.cons_append, List.nil_append]
  rw [readUnits, if_neg (by decide), if_pos rfl]
  simp only [hexCode_hexDigits small, Option.bind_eq_bind, Option.bind_some]
  cases readUnits rest <;> rfl

/-- The reader undoes the escape of one character. -/
theorem readUnits_escape (char : JsChar) (rest : List Char) :
    readUnits (escape char ++ rest) = (readUnits rest).map fun found => (char :: found.1, found.2) := by
  cases char with
  | surrogate unit =>
      have code : codeChar (0xD800 + unit.val) = .surrogate unit := by
        have same : (0xD800 + unit.val - 0xD800) % 2048 = unit.val := by
          rw [Nat.add_sub_cancel_left, Nat.mod_eq_of_lt unit.isLt]
        rw [codeChar, if_pos ⟨by omega, by omega⟩]
        exact congrArg JsChar.surrogate (Fin.ext same)
      rw [escape, readUnits_code (by omega), code]
  | scalar char =>
      rw [escape]
      split
      · next letter escaped =>
          have table : ∀ entry ∈ shortEscapes, unescape entry.2 = some entry.1 := by decide
          have back : unescape letter = some char := table _ (shortEscape_mem escaped)
          simp only [List.cons_append, List.nil_append]
          rw [readUnits, if_neg (by decide), if_pos rfl, back]
          · cases readUnits rest <;> rfl
          · exact fun _ _ _ _ _ isCode => absurd isCode (shortEscape_ne escaped)
      · next unescaped =>
          split
          · next small =>
              have code : codeChar char.toNat = .scalar char := by
                rw [codeChar, if_neg (by omega), Char.ofNat_toNat]
              rw [readUnits_code (by omega), code]
          · next large =>
              have notQuote : char ≠ '"' := by
                rintro rfl
                exact absurd unescaped (by decide)
              have notBackslash : char ≠ '\\' := by
                rintro rfl
                exact absurd unescaped (by decide)
              simp only [List.cons_append, List.nil_append]
              rw [readUnits.eq_def]
              simp only [if_neg notQuote, if_neg notBackslash, if_neg large]
              cases readUnits rest <;> rfl

theorem readUnits_quoteRest (text : JsString) (rest : List Char) :
    readUnits (quoteRest text ++ rest) = some (text, rest) := by
  induction text with
  | nil =>
      rw [quoteRest, List.cons_append, readUnits.eq_def]
      simp
  | cons char tail ih => rw [quoteRest, List.append_assoc, readUnits_escape, ih, Option.map_some]

/-- No two surrogates of the text make a pair. -/
def JsString.Unpaired (text : JsString) : Prop := joinSurrogates text = text

theorem unpaired_ofString (text : String) : (JsString.ofString text).Unpaired := by
  unfold JsString.Unpaired JsString.ofString
  induction text.toList with
  | nil => rfl
  | cons char rest ih => rw [List.map_cons, joinSurrogates, ih]; simp

theorem readText_quoteRest {text : JsString} (unpaired : text.Unpaired) (rest : List Char) :
    readText (quoteRest text ++ rest) = some (text, rest) := by
  rw [readText, readUnits_quoteRest, Option.map_some, unpaired]

variable (number : List Char → JsNumber)

/-- The reader reads this number where its text is printed. -/
def NumberText.Readable (text : NumberText) : Prop :=
  isLiteral text.chars = true ∧ number text.chars = .finite text

mutual

/-- The value has no pair of surrogates, no repeated name, and only numbers that read as they print. -/
def Json.Readable : Json → Prop
  | .number value => ∀ text, value.printed = some text → text.Readable number
  | .text value => value.Unpaired
  | .array items => items.Readable
  | .object fields => fields.Readable
  | _ => True

def JsonItems.Readable : JsonItems → Prop
  | .nil => True
  | .cons head tail => head.Readable ∧ tail.Readable

def JsonFields.Readable : JsonFields → Prop
  | .nil => True
  | .cons name value rest => name.Unpaired ∧ rest.get name = none ∧ value.Readable ∧ rest.Readable

end

/-- A number ends before these characters, also where its exponent has a capital letter. -/
def Ends (rest : List Char) : Prop := ∀ char ∈ rest.head?, isLiteralChar char = false

variable {number}

theorem ends_nil : Ends [] := by simp [Ends]

theorem ends_items (items : JsonItems) (rest : List Char) : Ends (items.stringifyRest ++ rest) := by
  intro char head
  cases items <;> cases head <;> decide

theorem ends_fields (fields : JsonFields) (rest : List Char) : Ends (fields.stringifyRest ++ rest) := by
  intro char head
  cases fields <;> cases head <;> decide

theorem isJsonBlank_cases {char : Char} (blank : isJsonBlank char = true) :
    char = ' ' ∨ char = '\t' ∨ char = '\n' ∨ char = '\r' := by
  simpa [isJsonBlank] using blank

/-- A printed value begins with no blank. -/
theorem skipBlanks_value (value : Json) (rest : List Char) :
    skipBlanks (value.stringify ++ rest) = value.stringify ++ rest := by
  have kind := stringify_kind value rest
  cases text : value.stringify ++ rest with
  | nil => rfl
  | cons char tail =>
      rw [text, List.head?_cons, Option.map_some] at kind
      have visible : isJsonBlank char = false := by
        by_contra blank
        have other : JsonKind.ofChar char = .other := by
          rcases isJsonBlank_cases (Bool.of_not_eq_false blank) with rfl | rfl | rfl | rfl <;> rfl
        rw [other] at kind
        exact kind_ne_other value (Option.some.inj kind).symm
      simp [skipBlanks, visible]

theorem readNumber_chars {text : NumberText} (readable : text.Readable number) {rest : List Char}
    (ends : Ends rest) : readNumber number (text.chars ++ rest) = some (.number (.finite text), rest) := by
  have inside : ∀ char ∈ text.chars, isLiteralChar char = true := by
    intro char member
    simp [isLiteralChar, text.digits char member]
  have taken : (text.chars ++ rest).takeWhile isLiteralChar = text.chars := by
    rw [List.takeWhile_append_of_pos inside]
    cases rest with
    | nil => simp
    | cons char tail => simp [ends char rfl]
  have left : (text.chars ++ rest).dropWhile isLiteralChar = rest := by
    rw [List.dropWhile_append_of_pos inside]
    cases rest with
    | nil => rfl
    | cons char tail => simp [ends char rfl]
  rw [readNumber, taken, left, if_pos readable.1, readable.2]

/-- A text that begins like a number is read as one. -/
theorem readScalar_number {char : Char} (digit : isNumberChar char = true) (rest : List Char) :
    readScalar number (char :: rest) = readNumber number (char :: rest) := by
  unfold readScalar
  split
  all_goals first
    | rfl
    | next same =>
        obtain ⟨rfl, rfl⟩ := List.cons.inj same
        cases digit

theorem readScalar_text {text : JsString} (unpaired : text.Unpaired) (rest : List Char) :
    readScalar number (quote text ++ rest) = some (.text text, rest) := by
  rw [quote, List.cons_append, readScalar]
  rw [readText_quoteRest unpaired, Option.map_some]

/-- What is no array and no object is read as a scalar value. -/
theorem readValue_scalar {fuel : Nat} {char : Char} {rest : List Char} (visible : isJsonBlank char = false)
    (noArray : char ≠ '[') (noObject : char ≠ '\x7b') :
    readValue number (fuel + 1) (char :: rest) = readScalar number (char :: rest) := by
  have skipped : skipBlanks (char :: rest) = char :: rest := by simp [skipBlanks, visible]
  rw [readValue, skipped]
  split
  · next same => exact absurd (List.head_eq_of_cons_eq same) noArray
  · next same => exact absurd (List.head_eq_of_cons_eq same) noObject
  · rfl

theorem readNull {fuel : Nat} (rest : List Char) :
    readValue number (fuel + 1) (['n', 'u', 'l', 'l'] ++ rest) = some (.null, rest) := rfl

theorem readValue_number {text : NumberText} (readable : text.Readable number) {rest : List Char}
    (ends : Ends rest) {fuel : Nat} :
    readValue number (fuel + 1) (text.chars ++ rest) = some (.number (.finite text), rest) := by
  have read := readNumber_chars readable ends
  cases chars : text.chars with
  | nil => exact absurd chars text.nonempty
  | cons char tail =>
      have digit : isNumberChar char = true := text.digits char (by simp [chars])
      have visible : isJsonBlank char = false := by
        by_contra blank
        rcases isJsonBlank_cases (Bool.of_not_eq_false blank) with rfl | rfl | rfl | rfl <;> cases digit
      rw [chars, List.cons_append] at read
      rw [List.cons_append, readValue_scalar visible, readScalar_number digit, read]
      · rintro rfl
        cases digit
      · rintro rfl
        cases digit

/-- No printed value begins with a closing bracket. -/
theorem value_head (value : Json) (rest : List Char) :
    (skipBlanks (value.stringify ++ rest)).head? ≠ some ']' := by
  rw [skipBlanks_value]
  intro closes
  have kind := stringify_kind value rest
  rw [closes, Option.map_some] at kind
  have other : JsonKind.ofChar ']' = .other := by decide
  exact kind_ne_other value ((Option.some.inj kind).symm.trans other)

theorem skipBlanks_visible {char : Char} (visible : isJsonBlank char = false) (rest : List Char) :
    skipBlanks (char :: rest) = char :: rest := by
  simp [skipBlanks, visible]

theorem value_pos (value : Json) : 0 < value.stringify.length := by
  have kind := stringify_kind value []
  rw [List.append_nil] at kind
  cases text : value.stringify with
  | nil =>
      rw [text] at kind
      cases kind
  | cons char rest => exact Nat.succ_pos _

theorem items_pos (items : JsonItems) : 0 < items.stringifyRest.length := by
  cases items <;> simp [JsonItems.stringifyRest]

theorem fields_pos (fields : JsonFields) : 0 < fields.stringifyRest.length := by
  cases fields <;> simp [JsonFields.stringifyRest]

mutual

/-- The reader gives back a printed value and what follows it. -/
theorem readValue_stringify (value : Json) (readable : value.Readable number) {rest : List Char}
    (ends : Ends rest) (fuel : Nat) (enough : value.stringify.length ≤ fuel + 1) :
    readValue number (fuel + 1) (value.stringify ++ rest) = some (value.printed, rest) := by
  cases value with
  | null => rfl
  | bool value => cases value <;> rfl
  | number value =>
      cases printed : value.printed with
      | none => simp only [Json.stringify, Json.printed, printed, Option.map_none, Option.getD_none, readNull]
      | some text =>
          have read := @readValue_number number text (readable text printed) rest ends fuel
          simpa only [Json.stringify, Json.printed, printed, Option.map_some, Option.getD_some] using read
  | text text =>
      have scalar := @readScalar_text number text readable rest
      rw [quote, List.cons_append] at scalar
      rw [Json.stringify, quote, List.cons_append, readValue_scalar (by decide) (by decide) (by decide),
          scalar]
      rfl
  | array items =>
      rw [Json.stringify, List.length_cons] at enough
      cases items with
      | nil => rfl
      | cons head tail =>
          rw [JsonItems.stringify, List.length_append] at enough
          have closing := items_pos tail
          obtain ⟨less, rfl⟩ : ∃ less, fuel = less + 1 := ⟨fuel - 1, by omega⟩
          have read := readItems_stringify head tail readable.1 readable.2 rest less (by omega)
          have opens := value_head head (tail.stringifyRest ++ rest)
          rw [Json.stringify, JsonItems.stringify, List.cons_append, readValue,
              skipBlanks_visible (by decide)]
          simp only [List.append_assoc] at read ⊢
          rw [if_neg opens, read]
          rfl
  | object fields =>
      rw [Json.stringify, List.length_cons] at enough
      cases fields with
      | nil => rfl
      | cons name value others =>
          rw [JsonFields.stringify, List.length_append, List.length_cons, List.length_append] at enough
          have closing := fields_pos others
          obtain ⟨less, rfl⟩ : ∃ less, fuel = less + 1 := ⟨fuel - 1, by omega⟩
          have read := readFields_stringify name value others readable rest less (by omega)
          rw [Json.stringify, JsonFields.stringify, List.cons_append, readValue,
              skipBlanks_visible (by decide)]
          simp only [List.append_assoc, List.cons_append] at read ⊢
          rw [if_neg (by simp [quote, skipBlanks_visible, isJsonBlank]), read]
          rfl
termination_by fuel

/-- The reader gives back the printed items of an array. -/
theorem readItems_stringify (head : Json) (tail : JsonItems) (readable : head.Readable number)
    (others : tail.Readable number) (rest : List Char) (fuel : Nat)
    (enough : head.stringify.length + tail.stringifyRest.length ≤ fuel + 1) :
    readItems number (fuel + 1) (head.stringify ++ tail.stringifyRest ++ rest) =
      some (.cons head.printed tail.printed, rest) := by
  have closing := items_pos tail
  have opening := value_pos head
  obtain ⟨less, rfl⟩ : ∃ less, fuel = less + 1 := ⟨fuel - 1, by omega⟩
  have value := readValue_stringify head readable (ends_items tail rest) less (by omega)
  rw [List.append_assoc, readItems, value]
  cases tail with
  | nil => rfl
  | cons next rest' =>
      rw [JsonItems.stringifyRest, List.length_cons, List.length_append] at enough
      have read := readItems_stringify next rest' others.1 others.2 rest less (by omega)
      rw [JsonItems.stringifyRest]
      simp only [Option.bind_eq_bind, Option.bind_some, List.cons_append,
        skipBlanks_visible (show isJsonBlank ',' = false by decide), read]
      rfl
termination_by fuel

/-- The reader gives back the printed fields of an object. -/
theorem readFields_stringify (name : JsString) (value : Json) (others : JsonFields)
    (readable : (JsonFields.cons name value others).Readable number) (rest : List Char) (fuel : Nat)
    (enough : (quote name).length + (value.stringify.length + others.stringifyRest.length + 1) ≤ fuel + 1) :
    readFields number (fuel + 1) (quote name ++ ':' :: (value.stringify ++ others.stringifyRest) ++ rest) =
      some (.cons name value.printed others.printed, rest) := by
  obtain ⟨unpaired, unrepeated, readableValue, readableOthers⟩ := readable
  have closing := fields_pos others
  have opening := value_pos value
  have quoted : 0 < (quote name).length := Nat.succ_pos _
  obtain ⟨less, rfl⟩ : ∃ less, fuel = less + 1 := ⟨fuel - 1, by omega⟩
  have read := readValue_stringify value readableValue (ends_fields others rest) less (by omega)
  have added : others.printed.add name value.printed = .cons name value.printed others.printed := by
    rw [JsonFields.add, printed_get, unrepeated, Option.map_none]
  rw [readFields, quote]
  simp only [List.cons_append, List.append_assoc, skipBlanks_visible (show isJsonBlank '"' = false by decide),
    skipBlanks_visible (show isJsonBlank ':' = false by decide), readText_quoteRest unpaired,
    Option.bind_eq_bind, Option.bind_some, read]
  cases others with
  | nil => rfl
  | cons next value' rest' =>
      rw [JsonFields.stringifyRest, List.length_cons, List.length_append, List.length_cons,
        List.length_append] at enough
      have fields := readFields_stringify next value' rest' readableOthers rest less (by omega)
      simp only [List.append_assoc, List.cons_append] at fields
      simp only [JsonFields.stringifyRest, List.cons_append, List.append_assoc,
        skipBlanks_visible (show isJsonBlank ',' = false by decide), fields, Option.bind_some]
      exact congrArg (fun found => some (found, rest)) added
termination_by fuel

end

/-- What was printed of a value is read from its text. -/
theorem parse_stringify {value : Json} (readable : value.Readable number) :
    Json.parse number value.stringify = some value.printed := by
  obtain ⟨less, enough⟩ : ∃ less, value.stringify.length = less + 1 :=
    ⟨value.stringify.length - 1, by have := value_pos value; omega⟩
  have read := readValue_stringify value readable ends_nil less (by omega)
  rw [List.append_nil] at read
  rw [Json.parse, enough, read]
  rfl

end RoundTrip

end CeramicAnchor
