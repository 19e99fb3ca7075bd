import CeramicAnchor.Encoding.Text
import Mathlib.Data.Fin.Basic

/-
This file gives JSON values, the text that `JSON.stringify` prints, and what that text determines.
-/

namespace CeramicAnchor

/-- A character of a text is a scalar value or a surrogate that belongs to no pair. -/
inductive JsChar where
  | scalar (char : Char)
  | surrogate (unit : Fin 2048)
  deriving DecidableEq, Repr

abbrev JsString := List JsChar

def JsString.ofString (text : String) : JsString := text.toList.map .scalar

theorem JsString.ofString_injective : Function.Injective JsString.ofString := by
  intro first second same
  have chars := List.map_injective_iff.mpr (fun _ _ same => JsChar.scalar.inj same) same
  exact String.toList_injective chars

def isNumberChar (char : Char) : Bool := char.isDigit || char ∈ ['-', '+', '.', 'e']

/-- A finite number is given by the text that the language prints for it. -/
structure NumberText where
  chars : List Char
  nonempty : chars ≠ []
  digits : ∀ char ∈ chars, isNumberChar char = true
  deriving DecidableEq, Repr

def NumberText.zero : NumberText := ⟨['0'], by decide, by simp [isNumberChar]⟩

def NumberText.ofNat (value : Nat) : NumberText where
  chars := Nat.toDigits 10 value
  nonempty := Nat.toDigits_ne_nil
  digits char member := by simp [isNumberChar, Nat.isDigit_of_mem_toDigits (by decide) (by decide) member]

/-- Two numbers print in a way of their own: the negative zero, and a literal that is too large. -/
inductive JsNumber where
  | finite (text : NumberText)
  | negativeZero
  | infinite (negative : Bool)
  deriving DecidableEq, Repr

mutual

inductive Json where
  | null
  | bool (value : Bool)
  | number (value : JsNumber)
  | text (value : JsString)
  | array (items : JsonItems)
  | object (fields : JsonFields)
  deriving DecidableEq

inductive JsonItems where
  | nil
  | cons (head : Json) (tail : JsonItems)
  deriving DecidableEq

/-- The fields of an object come in the order of its keys. -/
inductive JsonFields where
  | nil
  | cons (name : JsString) (value : Json) (rest : JsonFields)
  deriving DecidableEq

end

def JsonFields.get : JsonFields → JsString → Option Json
  | .nil, _ => none
  | .cons name value rest, wanted => if name = wanted then some value else rest.get wanted

def JsonFields.ofList : List (String × Json) → JsonFields
  | [] => .nil
  | (name, value) :: rest => .cons (JsString.ofString name) value (ofList rest)

/-- A property of a value that has none is undefined. -/
def Json.property (value : Json) (name : String) : Option Json :=
  match value with
  | .object fields => fields.get (JsString.ofString name)
  | _ => none

section Quote

/-- These characters have an escape of two characters. -/
def shortEscapes : List (Char × Char) :=
  [('"', '"'), ('\\', '\\'), ('\x08', 'b'), ('\x0c', 'f'), ('\n', 'n'), ('\r', 'r'), ('\t', 't')]

def shortEscape (char : Char) : Option Char := shortEscapes.lookup char

def hexDigits (code : Nat) : List Char :=
  [Nat.digitChar (code / 4096 % 16), Nat.digitChar (code / 256 % 16), Nat.digitChar (code / 16 % 16),
    Nat.digitChar (code % 16)]

def unicodeEscape (code : Nat) : List Char := '\\' :: 'u' :: hexDigits code

def escape : JsChar → List Char
  | .scalar char => match shortEscape char with
    | some letter => ['\\', letter]
    | none => if char.toNat < 32 then unicodeEscape char.toNat else [char]
  | .surrogate unit => unicodeEscape (0xD800 + unit.val)

/-- This is the text after the opening quotation mark. -/
def quoteRest : JsString → List Char
  | [] => ['"']
  | char :: rest => escape char ++ quoteRest rest

def quote (text : JsString) : List Char := '"' :: quoteRest text

theorem hexDigits_injective {first second : Nat} (small : first < 65536) (small' : second < 65536)
    (same : hexDigits first = hexDigits second) : first = second := by
  simp only [hexDigits, List.cons.injEq, and_true] at same
  obtain ⟨d3, d2, d1, d0⟩ := same
  have d3 := digitChar_injective _ (by omega) _ (by omega) d3
  have d2 := digitChar_injective _ (by omega) _ (by omega) d2
  have d1 := digitChar_injective _ (by omega) _ (by omega) d1
  have d0 := digitChar_injective _ (by omega) _ (by omega) d0
  omega

theorem shortEscape_mem {char letter : Char} (escaped : shortEscape char = some letter) :
    (char, letter) ∈ shortEscapes := by
  obtain ⟨front, back, split, _⟩ := List.lookup_eq_some_iff.mp escaped
  rw [split]
  exact List.mem_append_right _ List.mem_cons_self

theorem shortEscape_injective {first second letter : Char} (one : shortEscape first = some letter)
    (other : shortEscape second = some letter) : first = second := by
  have table : ∀ entry ∈ shortEscapes, ∀ other ∈ shortEscapes, entry.2 = other.2 → entry.1 = other.1 := by
    decide
  exact table _ (shortEscape_mem one) _ (shortEscape_mem other) rfl

theorem shortEscape_ne {char letter : Char} (escaped : shortEscape char = some letter) : letter ≠ 'u' := by
  have table : ∀ entry ∈ shortEscapes, entry.2 ≠ 'u' := by decide
  exact table _ (shortEscape_mem escaped)

/-- This is the character that an escaped code stands for. -/
def charOfCode (code : Nat) : JsChar :=
  if code < 0xD800 then .scalar (Char.ofNat code) else .surrogate (Fin.ofNat 2048 (code - 0xD800))

/-- A character prints as itself, with a letter after a backslash, or with its code. -/
inductive Escaped : JsChar → List Char → Prop where
  | plain {char : Char} (notQuote : char ≠ '"') (notBackslash : char ≠ '\\') : Escaped (.scalar char) [char]
  | letter {char letter : Char} (escaped : shortEscape char = some letter) :
      Escaped (.scalar char) ['\\', letter]
  | code {char : JsChar} {code : Nat} (small : code < 65536) (stands : charOfCode code = char) :
      Escaped char (unicodeEscape code)

theorem escape_escaped (char : JsChar) : Escaped char (escape char) := by
  cases char with
  | surrogate unit =>
      refine .code (by omega) ?_
      simp [charOfCode]
  | scalar char =>
      rw [escape]
      split
      · next letter escaped => exact .letter escaped
      · next unescaped =>
          split
          · next small =>
              refine .code (by omega) ?_
              rw [charOfCode, if_pos (by omega), Char.ofNat_toNat]
          · refine .plain ?_ ?_
            · rintro rfl
              exact absurd unescaped (by decide)
            · rintro rfl
              exact absurd unescaped (by decide)

/-- No escape begins another one. -/
theorem escaped_append {first second : JsChar} {text other rest rest' : List Char} (one : Escaped first text)
    (another : Escaped second other) (same : text ++ rest = other ++ rest') :
    first = second ∧ rest = rest' := by
  cases one with
  | plain _ notBackslash => cases another with
    | plain _ _ => simpa using same
    | letter _ => exact absurd (List.head_eq_of_cons_eq same) notBackslash
    | code _ _ => exact absurd (List.head_eq_of_cons_eq same) notBackslash
  | letter escaped => cases another with
    | plain _ notBackslash => exact absurd (List.head_eq_of_cons_eq same).symm notBackslash
    | letter other =>
        obtain ⟨letters, tails⟩ : _ = _ ∧ rest = rest' := by simpa using same
        subst letters
        exact ⟨congrArg JsChar.scalar (shortEscape_injective escaped other), tails⟩
    | code _ _ =>
        have letters := List.head_eq_of_cons_eq (List.tail_eq_of_cons_eq same)
        exact absurd letters (shortEscape_ne escaped)
  | code small stands => cases another with
    | plain _ notBackslash => exact absurd (List.head_eq_of_cons_eq same).symm notBackslash
    | letter other =>
        have letters := List.head_eq_of_cons_eq (List.tail_eq_of_cons_eq same)
        exact absurd letters.symm (shortEscape_ne other)
    | code small' stands' =>
        obtain ⟨codes, tails⟩ := List.append_inj same rfl
        have digits := hexDigits_injective small small' (List.cons.inj (List.cons.inj codes).2).2
        rw [← stands, ← stands', digits]
        exact ⟨rfl, tails⟩

theorem escaped_head {char : JsChar} {text rest : List Char} (escaped : Escaped char text) :
    (text ++ rest).head? ≠ some '"' := by
  cases escaped with
  | plain notQuote _ => simpa using notQuote
  | letter _ => simp
  | code _ _ => simp [unicodeEscape]

/-- The closing quotation mark ends the text. -/
theorem quoteRest_append {first second : JsString} {rest rest' : List Char}
    (same : quoteRest first ++ rest = quoteRest second ++ rest') : first = second ∧ rest = rest' := by
  induction first generalizing second with
  | nil => cases second with
    | nil => simpa [quoteRest] using same
    | cons char tail =>
        rw [quoteRest, quoteRest, List.append_assoc] at same
        exact absurd (congrArg List.head? same).symm (escaped_head (escape_escaped char))
  | cons char tail ih => cases second with
    | nil =>
        rw [quoteRest, quoteRest, List.append_assoc] at same
        exact absurd (congrArg List.head? same) (escaped_head (escape_escaped char))
    | cons other tail' =>
        rw [quoteRest, quoteRest, List.append_assoc, List.append_assoc] at same
        obtain ⟨rfl, tails⟩ := escaped_append (escape_escaped char) (escape_escaped other) same
        obtain ⟨rfl, rests⟩ := ih tails
        exact ⟨rfl, rests⟩

end Quote

section Stringify

/-- The number prints as one that is printed in its own way, or as no number. -/
def JsNumber.printed : JsNumber → Option NumberText
  | .finite text => some text
  | .negativeZero => some .zero
  | .infinite _ => none

mutual

def Json.stringify : Json → List Char
  | .null => ['n', 'u', 'l', 'l']
  | .bool true => ['t', 'r', 'u', 'e']
  | .bool false => ['f', 'a', 'l', 's', 'e']
  | .number value => (value.printed.map NumberText.chars).getD ['n', 'u', 'l', 'l']
  | .text value => quote value
  | .array items => '[' :: items.stringify
  | .object fields => '{' :: fields.stringify

/-- This is the text after the opening bracket. -/
def JsonItems.stringify : JsonItems → List Char
  | .nil => [']']
  | .cons head tail => head.stringify ++ tail.stringifyRest

def JsonItems.stringifyRest : JsonItems → List Char
  | .nil => [']']
  | .cons head tail => ',' :: (head.stringify ++ tail.stringifyRest)

/-- This is the text after the opening brace. -/
def JsonFields.stringify : JsonFields → List Char
  | .nil => ['}']
  | .cons name value rest => quote name ++ ':' :: (value.stringify ++ rest.stringifyRest)

def JsonFields.stringifyRest : JsonFields → List Char
  | .nil => ['}']
  | .cons name value rest => ',' :: (quote name ++ ':' :: (value.stringify ++ rest.stringifyRest))

end

mutual

/-- The printed value has no number that prints as something else. -/
def Json.printed : Json → Json
  | .number value => (value.printed.map fun text => .number (.finite text)).getD .null
  | .array items => .array items.printed
  | .object fields => .object fields.printed
  | value => value

def JsonItems.printed : JsonItems → JsonItems
  | .nil => .nil
  | .cons head tail => .cons head.printed tail.printed

def JsonFields.printed : JsonFields → JsonFields
  | .nil => .nil
  | .cons name value rest => .cons name value.printed rest.printed

end

/-- The first character of a text tells what kind of value it is. -/
inductive JsonKind where
  | null
  | bool (value : Bool)
  | number
  | text
  | array
  | object
  | other
  deriving DecidableEq

def JsonKind.ofChar (char : Char) : JsonKind :=
  if isNumberChar char then .number
  else if char = 'n' then .null
  else if char = 't' then .bool true
  else if char = 'f' then .bool false
  else if char = '"' then .text
  else if char = '[' then .array
  else if char = '\x7b' then .object
  else .other

def Json.kind : Json → JsonKind
  | .null => .null
  | .bool value => .bool value
  | .number value => if value.printed.isSome then .number else .null
  | .text _ => .text
  | .array _ => .array
  | .object _ => .object

theorem stringify_kind (value : Json) (rest : List Char) :
    (value.stringify ++ rest).head?.map JsonKind.ofChar = some value.kind := by
  cases value with
  | null => rfl
  | bool value => cases value <;> rfl
  | number value =>
      cases printed : value.printed with
      | none => simp [Json.stringify, Json.kind, printed]; decide
      | some text =>
          obtain ⟨chars, nonempty, digits⟩ := text
          cases chars with
          | nil => exact absurd rfl nonempty
          | cons char tail =>
              have digit := digits char List.mem_cons_self
              simp [Json.stringify, Json.kind, printed, JsonKind.ofChar, digit]
  | text value => rfl
  | array items => rfl
  | object fields => rfl

theorem kind_eq {first second : Json} {rest rest' : List Char}
    (same : first.stringify ++ rest = second.stringify ++ rest') : first.kind = second.kind := by
  have one := stringify_kind first rest
  rw [same, stringify_kind second rest'] at one
  exact (Option.some.inj one).symm

/-- No value begins with a closing bracket. -/
theorem kind_ne_other (value : Json) : value.kind ≠ .other := by
  cases value with
  | number value =>
      rw [Json.kind]
      split <;> decide
  | _ => exact JsonKind.noConfusion

/-- A number is over where the rest begins. -/
def Stops (rest : List Char) : Prop := ∀ char ∈ rest.head?, isNumberChar char = false

theorem numberText_append {first second : NumberText} {rest rest' : List Char} (stops : Stops rest)
    (stops' : Stops rest') (same : first.chars ++ rest = second.chars ++ rest') :
    first = second ∧ rest = rest' := by
  have taken : ∀ (text : NumberText) {rest : List Char}, Stops rest →
      (text.chars ++ rest).takeWhile isNumberChar = text.chars := by
    intro text rest stops
    rw [List.takeWhile_append_of_pos text.digits]
    cases rest with
    | nil => simp
    | cons char tail => simp [stops char rfl]
  have chars : first.chars = second.chars := by
    rw [← taken first stops, same, taken second stops']
  refine ⟨?_, List.append_cancel_left (chars ▸ same)⟩
  cases first
  cases second
  cases chars
  rfl

theorem Json.null_of_kind {value : Json} (kind : value.kind = .null) :
    value.printed = .null ∧ value.stringify = ['n', 'u', 'l', 'l'] := by
  cases value with
  | null => exact ⟨rfl, rfl⟩
  | number value =>
      cases printed : value.printed with
      | none => simp [Json.printed, Json.stringify, printed]
      | some text => simp [Json.kind, printed] at kind
  | _ => cases kind

theorem Json.number_of_kind {value : Json} (kind : value.kind = .number) :
    ∃ text, value.printed = .number (.finite text) ∧ value.stringify = text.chars := by
  cases value with
  | number value =>
      cases printed : value.printed with
      | none => simp [Json.kind, printed] at kind
      | some text => exact ⟨text, by simp [Json.printed, printed], by simp [Json.stringify, printed]⟩
  | _ => cases kind

theorem Json.bool_of_kind {value : Json} {bit : Bool} (kind : value.kind = .bool bit) :
    value = .bool bit := by
  cases value with
  | bool other => rw [JsonKind.bool.inj kind]
  | number value =>
      rw [Json.kind] at kind
      split at kind <;> cases kind
  | _ => cases kind

theorem Json.text_of_kind {value : Json} (kind : value.kind = .text) : ∃ text, value = .text text := by
  cases value with
  | text text => exact ⟨text, rfl⟩
  | number value =>
      rw [Json.kind] at kind
      split at kind <;> cases kind
  | _ => cases kind

theorem Json.array_of_kind {value : Json} (kind : value.kind = .array) : ∃ items, value = .array items := by
  cases value with
  | array items => exact ⟨items, rfl⟩
  | number value =>
      rw [Json.kind] at kind
      split at kind <;> cases kind
  | _ => cases kind

theorem Json.object_of_kind {value : Json} (kind : value.kind = .object) :
    ∃ fields, value = .object fields := by
  cases value with
  | object fields => exact ⟨fields, rfl⟩
  | number value =>
      rw [Json.kind] at kind
      split at kind <;> cases kind
  | _ => cases kind

theorem stops_items (items : JsonItems) (rest : List Char) : Stops (items.stringifyRest ++ rest) := by
  intro char head
  cases items <;> cases head <;> decide

theorem stops_fields (fields : JsonFields) (rest : List Char) : Stops (fields.stringifyRest ++ rest) := by
  intro char head
  cases fields <;> cases head <;> decide

/-- The name of a field ends before the colon. -/
theorem field_append {name other : JsString} {rest rest' : List Char}
    (same : quote name ++ ':' :: rest = quote other ++ ':' :: rest') : name = other ∧ rest = rest' := by
  obtain ⟨names, rests⟩ := quoteRest_append (List.tail_eq_of_cons_eq same)
  exact ⟨names, List.tail_eq_of_cons_eq rests⟩

mutual

/-- The printed text of a value determines what is printed of it, and where it ends. -/
theorem Json.stringify_append (first second : Json) {rest rest' : List Char} (stops : Stops rest)
    (stops' : Stops rest') (same : first.stringify ++ rest = second.stringify ++ rest') :
    first.printed = second.printed ∧ rest = rest' := by
  have kinds := kind_eq same
  cases first with
  | null =>
      obtain ⟨printed, text⟩ := Json.null_of_kind kinds.symm
      rw [text] at same
      exact ⟨printed.symm, List.append_cancel_left same⟩
  | bool value =>
      obtain rfl := Json.bool_of_kind kinds.symm
      exact ⟨rfl, List.append_cancel_left same⟩
  | number value =>
      cases printed : value.printed with
      | none =>
          have kind : (Json.number value).kind = .null := by simp [Json.kind, printed]
          obtain ⟨one, text⟩ := Json.null_of_kind kind
          obtain ⟨other, text'⟩ := Json.null_of_kind (kinds.symm.trans kind)
          rw [text, text'] at same
          exact ⟨one.trans other.symm, List.append_cancel_left same⟩
      | some text =>
          have kind : (Json.number value).kind = .number := by simp [Json.kind, printed]
          obtain ⟨digits, one, text⟩ := Json.number_of_kind kind
          obtain ⟨digits', other, text'⟩ := Json.number_of_kind (kinds.symm.trans kind)
          rw [text, text'] at same
          obtain ⟨rfl, rests⟩ := numberText_append stops stops' same
          exact ⟨one.trans other.symm, rests⟩
  | text value =>
      obtain ⟨other, rfl⟩ := Json.text_of_kind kinds.symm
      obtain ⟨rfl, rests⟩ := quoteRest_append (List.tail_eq_of_cons_eq same)
      exact ⟨rfl, rests⟩
  | array items =>
      obtain ⟨other, rfl⟩ := Json.array_of_kind kinds.symm
      obtain ⟨printed, rests⟩ := items.stringify_append other (List.tail_eq_of_cons_eq same)
      exact ⟨congrArg Json.array printed, rests⟩
  | object fields =>
      obtain ⟨other, rfl⟩ := Json.object_of_kind kinds.symm
      obtain ⟨printed, rests⟩ := fields.stringify_append other (List.tail_eq_of_cons_eq same)
      exact ⟨congrArg Json.object printed, rests⟩

theorem JsonItems.stringify_append (first second : JsonItems) {rest rest' : List Char}
    (same : first.stringify ++ rest = second.stringify ++ rest') :
    first.printed = second.printed ∧ rest = rest' := by
  cases first with
  | nil => cases second with
    | nil => exact ⟨rfl, List.append_cancel_left same⟩
    | cons head tail =>
        rw [JsonItems.stringify, JsonItems.stringify, List.append_assoc] at same
        have kind := stringify_kind head (tail.stringifyRest ++ rest')
        rw [← same] at kind
        exact absurd (Option.some.inj kind).symm (kind_ne_other head)
  | cons head tail => cases second with
    | nil =>
        rw [JsonItems.stringify, JsonItems.stringify, List.append_assoc] at same
        have kind := stringify_kind head (tail.stringifyRest ++ rest)
        rw [same] at kind
        exact absurd (Option.some.inj kind).symm (kind_ne_other head)
    | cons other tail' =>
        rw [JsonItems.stringify, JsonItems.stringify, List.append_assoc, List.append_assoc] at same
        obtain ⟨heads, rests⟩ := head.stringify_append other (stops_items _ _) (stops_items _ _) same
        obtain ⟨tails, rests⟩ := tail.stringifyRest_append tail' rests
        exact ⟨congrArg₂ JsonItems.cons heads tails, rests⟩

theorem JsonItems.stringifyRest_append (first second : JsonItems) {rest rest' : List Char}
    (same : first.stringifyRest ++ rest = second.stringifyRest ++ rest') :
    first.printed = second.printed ∧ rest = rest' := by
  cases first with
  | nil => cases second with
    | nil => exact ⟨rfl, List.append_cancel_left same⟩
    | cons head tail => exact absurd (List.head_eq_of_cons_eq same) (by decide)
  | cons head tail => cases second with
    | nil => exact absurd (List.head_eq_of_cons_eq same) (by decide)
    | cons other tail' =>
        have same := List.tail_eq_of_cons_eq same
        rw [List.append_eq, List.append_eq, List.append_assoc, List.append_assoc] at same
        obtain ⟨heads, rests⟩ := head.stringify_append other (stops_items _ _) (stops_items _ _) same
        obtain ⟨tails, rests⟩ := tail.stringifyRest_append tail' rests
        exact ⟨congrArg₂ JsonItems.cons heads tails, rests⟩

theorem JsonFields.stringify_append (first second : JsonFields) {rest rest' : List Char}
    (same : first.stringify ++ rest = second.stringify ++ rest') :
    first.printed = second.printed ∧ rest = rest' := by
  cases first with
  | nil => cases second with
    | nil => exact ⟨rfl, List.append_cancel_left same⟩
    | cons name value tail => exact absurd (List.head_eq_of_cons_eq same) (by decide)
  | cons name value tail => cases second with
    | nil => exact absurd (List.head_eq_of_cons_eq same) (by decide)
    | cons other value' tail' =>
        rw [JsonFields.stringify, JsonFields.stringify, List.append_assoc, List.append_assoc,
          List.cons_append, List.cons_append, List.append_assoc, List.append_assoc] at same
        obtain ⟨rfl, entries⟩ := field_append same
        obtain ⟨values, rests⟩ := value.stringify_append value' (stops_fields _ _) (stops_fields _ _) entries
        obtain ⟨tails, rests⟩ := tail.stringifyRest_append tail' rests
        exact ⟨by rw [JsonFields.printed, JsonFields.printed, values, tails], rests⟩

theorem JsonFields.stringifyRest_append (first second : JsonFields) {rest rest' : List Char}
    (same : first.stringifyRest ++ rest = second.stringifyRest ++ rest') :
    first.printed = second.printed ∧ rest = rest' := by
  cases first with
  | nil => cases second with
    | nil => exact ⟨rfl, List.append_cancel_left same⟩
    | cons name value tail => exact absurd (List.head_eq_of_cons_eq same) (by decide)
  | cons name value tail => cases second with
    | nil => exact absurd (List.head_eq_of_cons_eq same) (by decide)
    | cons other value' tail' =>
        have same := List.tail_eq_of_cons_eq same
        rw [List.append_eq, List.append_eq, List.append_assoc, List.append_assoc, List.cons_append,
          List.cons_append, List.append_assoc, List.append_assoc] at same
        obtain ⟨rfl, entries⟩ := field_append same
        obtain ⟨values, rests⟩ := value.stringify_append value' (stops_fields _ _) (stops_fields _ _) entries
        obtain ⟨tails, rests⟩ := tail.stringifyRest_append tail' rests
        exact ⟨by rw [JsonFields.printed, JsonFields.printed, values, tails], rests⟩

end

theorem printed_get (fields : JsonFields) (name : JsString) :
    fields.printed.get name = (fields.get name).map Json.printed := by
  cases fields with
  | nil => rfl
  | cons other value rest =>
      rw [JsonFields.printed, JsonFields.get, JsonFields.get]
      split
      · rfl
      · exact printed_get rest name

theorem printed_property (value : Json) (name : String) :
    value.printed.property name = (value.property name).map Json.printed := by
  cases value with
  | object fields => exact printed_get fields _
  | number value => cases printed : value.printed <;> simp [Json.printed, Json.property, printed]
  | _ => rfl

/-- Two values with one text print the same. -/
theorem stringify_printed {first second : Json} (same : first.stringify = second.stringify) :
    first.printed = second.printed := by
  have stops : Stops [] := by simp [Stops]
  exact (first.stringify_append second stops stops (by rw [same])).1

example : String.ofList (Json.object (JsonFields.ofList
    [("a", .array (.cons (.number .negativeZero) (.cons (.bool true) .nil))),
      ("b", .text [.surrogate 1])])).stringify = "\x7b\"a\":[0,true],\"b\":\"\\ud801\"\x7d" := by decide

end Stringify

end CeramicAnchor
