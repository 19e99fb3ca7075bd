import CeramicAnchor.Construction.PathLineCodec

/-
This file proves which texts the codec of the path lines accepts, and that it reads back what it prints.
-/

namespace CeramicAnchor
open Numerics

/-- The digit of a direction. -/
def PathDirection.digit : PathDirection → Char
  | .L => '0'
  | .R => '1'

/-- The direction digits of a path line are joined by single slashes. -/
inductive IsPathLine : JsString → Prop where
  | last {digit : Char} (direction : digit = '0' ∨ digit = '1') : IsPathLine [.scalar digit]
  | step {digit : Char} {rest : JsString} (direction : digit = '0' ∨ digit = '1') (line : IsPathLine rest) :
      IsPathLine (.scalar digit :: .scalar '/' :: rest)

namespace PathLineCodec

section Elements

theorem digit_eq (direction : PathDirection) : direction.digit = Nat.digitChar direction.number := by
  cases direction <;> rfl

theorem number_small (direction : PathDirection) : direction.number < 10 := by
  cases direction <;> decide

theorem toText_direction (direction : PathDirection) : direction.toNumber.toText = [direction.digit] := by
  rw [digit_eq]
  exact toText_digit rfl (number_small direction)

theorem parseInt_direction (direction : PathDirection) :
    parseInt [.scalar direction.digit] = .whole direction.toNumber := by
  rw [digit_eq, parseInt_digit (number_small direction)]
  exact ParsedInt.ofInt_double direction.toNumber.isDouble

/-- Only the number of a direction equals it. -/
theorem toText_equals {number : ParsedInt} {direction : PathDirection}
    (equals : number.equals direction.number = true) : number.toText = [direction.digit] := by
  cases number with
  | nan => cases equals
  | infinite negative => cases equals
  | whole number =>
      rw [digit_eq]
      exact toText_digit (of_decide_eq_true equals) (number_small direction)

/-- An element is decoded exactly when it is the digit of its direction. -/
theorem decodeElement_iff {element : JsString} {direction : PathDirection} :
    decodeElement element = .ok direction ↔ element = [.scalar direction.digit] := by
  constructor
  · intro decoded
    have equals : (parseInt element).toText.map JsChar.scalar = element ∧
        (parseInt element).equals direction.number = true := by
      unfold decodeElement at decoded
      dsimp only at decoded
      split at decoded
      · cases decoded
      · next same =>
          have same := not_not.mp same
          split at decoded
          · next right =>
              obtain rfl := Except.ok.inj decoded
              exact ⟨same, right⟩
          · split at decoded
            · next left =>
                obtain rfl := Except.ok.inj decoded
                exact ⟨same, left⟩
            · cases decoded
    rw [← equals.1, toText_equals equals.2]
    rfl
  · rintro rfl
    have printed : (ParsedInt.whole direction.toNumber).toText.map JsChar.scalar =
        [.scalar direction.digit] := by
      rw [ParsedInt.toText, toText_direction]
      rfl
    rw [decodeElement, parseInt_direction, if_neg (not_not.mpr printed)]
    cases direction <;> rfl

end Elements

section Lines

variable {input : JsString} {line : List PathDirection}

/-- The loop extends its result by the direction of each element. -/
theorem decodeElements_iff {result : List PathDirection} {elements : List JsString} :
    decodeElements result elements = .ok line ↔ ∃ rest : List PathDirection,
      line = result ++ rest ∧ elements = rest.map fun direction => [JsChar.scalar direction.digit] := by
  induction elements generalizing result with
  | nil =>
      constructor
      · intro decoded
        exact ⟨[], by rw [List.append_nil]; exact (Except.ok.inj decoded).symm, rfl⟩
      · rintro ⟨rest, rfl, none_⟩
        obtain rfl := List.map_eq_nil_iff.mp none_.symm
        rw [List.append_nil]
        rfl
  | cons element elements ih =>
      constructor
      · intro decoded
        cases first : decodeElement element with
        | error message =>
            rw [decodeElements, first] at decoded
            cases decoded
        | ok direction =>
            rw [decodeElements, first] at decoded
            obtain ⟨rest, same, later⟩ := ih.mp decoded
            refine ⟨direction :: rest, by rw [same, List.append_assoc]; rfl, ?_⟩
            rw [List.map_cons, ← later, decodeElement_iff.mp first]
      · rintro ⟨rest, rfl, same⟩
        cases rest with
        | nil => cases same
        | cons direction rest =>
            obtain ⟨first, later⟩ := List.cons.inj same
            rw [decodeElements, decodeElement_iff.mpr first]
            exact ih.mpr ⟨rest, by rw [List.append_assoc]; rfl, later⟩

theorem encode_eq (line : List PathDirection) :
    encode line = [.scalar '/'].intercalate (line.map fun direction => [JsChar.scalar direction.digit]) := by
  simp only [encode, toText_direction, List.map_cons, List.map_nil]

/-- The codec decodes the texts that it prints for lines with a direction. -/
theorem decode_iff : decode input = .ok line ↔ line ≠ [] ∧ encode line = input := by
  rw [decode, decodeElements_iff, encode_eq]
  constructor
  · rintro ⟨rest, rfl, split⟩
    rw [← split]
    refine ⟨?_, List.intercalate_splitOn _⟩
    rintro rfl
    exact List.splitOn_ne_nil _ _ split
  · rintro ⟨nonempty, rfl⟩
    refine ⟨line, rfl, List.splitOn_intercalate _ ?_ (by simpa using nonempty)⟩
    intro element member
    obtain ⟨direction, _, rfl⟩ := List.mem_map.mp member
    cases direction <;> decide

theorem direction_of_digit {digit : Char} (direction : digit = '0' ∨ digit = '1') :
    ∃ direction : PathDirection, direction.digit = digit := by
  rcases direction with rfl | rfl
  · exact ⟨.L, rfl⟩
  · exact ⟨.R, rfl⟩

theorem digit_direction (direction : PathDirection) : direction.digit = '0' ∨ direction.digit = '1' := by
  cases direction
  · exact .inl rfl
  · exact .inr rfl

theorem encode_cons (direction next : PathDirection) (rest : List PathDirection) :
    encode (direction :: next :: rest) =
      .scalar direction.digit :: .scalar '/' :: encode (next :: rest) := by
  rw [encode_eq, encode_eq]
  rfl

theorem encode_singleton (direction : PathDirection) : encode [direction] = [.scalar direction.digit] := by
  rw [encode_eq]
  rfl

theorem isPathLine_encode (direction : PathDirection) (rest : List PathDirection) :
    IsPathLine (encode (direction :: rest)) := by
  induction rest generalizing direction with
  | nil =>
      rw [encode_singleton]
      exact .last (digit_direction direction)
  | cons next rest ih =>
      rw [encode_cons]
      exact .step (digit_direction direction) (ih next)

/-- A text of the grammar is printed for some line. -/
theorem encoded_of_isPathLine (grammatical : IsPathLine input) : ∃ line, line ≠ [] ∧ encode line = input := by
  induction grammatical with
  | last isDigit =>
      obtain ⟨direction, rfl⟩ := direction_of_digit isDigit
      exact ⟨[direction], List.cons_ne_nil _ _, encode_singleton direction⟩
  | step isDigit _ ih =>
      obtain ⟨direction, rfl⟩ := direction_of_digit isDigit
      obtain ⟨line, nonempty, rfl⟩ := ih
      obtain ⟨next, rest, rfl⟩ := List.exists_cons_of_ne_nil nonempty
      exact ⟨direction :: next :: rest, List.cons_ne_nil _ _, encode_cons direction next rest⟩

/-- The text of a record is the printed line. -/
theorem ofString_text (line : List PathDirection) : JsString.ofString (text line) = encode line := by
  have digits : ∀ direction : PathDirection, (toString direction.number).toList = [direction.digit] := by
    intro direction
    cases direction <;> rfl
  simp only [encode_eq, text, digits, JsString.ofString, String.toList_ofList]
  cases line with
  | nil => rfl
  | cons direction rest =>
      induction rest generalizing direction with
      | nil => rfl
      | cons next rest ih =>
          have later := ih next
          simp only [List.map_cons, List.intercalate_cons_cons, List.map_append] at later ⊢
          rw [later]
          rfl

/-- A line with at least one direction is read back from a record. -/
theorem decode_text (nonempty : line ≠ []) : decode (JsString.ofString (text line)) = .ok line :=
  decode_iff.mpr ⟨nonempty, (ofString_text line).symm⟩

/-- The directions of a line are values that the codec knows. -/
theorem is_ofLine (line : List PathDirection) : is (.ofLine line) = true := by
  have each : ∀ direction : PathDirection, isDirection
      (.number (.finite ⟨direction.toNumber.value, direction.toNumber.isDouble⟩)) = true := by
    intro direction
    cases direction <;> simp [isDirection, PathDirection.toNumber]
  simp only [is, UnknownValue.ofLine, List.all_map, List.all_eq_true]
  exact fun direction _ => each direction

/-- The codec accepts the grammar of the path lines and nothing else, and it reads back what it prints. -/
theorem path_line_codec :
    (∀ input, ((∃ line, decode input = .ok line) ↔ IsPathLine input) ∧
      ∀ line, decode input = .ok line → encode line = input ∧ is (.ofLine line) = true) ∧
    ∀ line, line ≠ [] → decode (encode line) = .ok line := by
  refine ⟨fun input => ⟨?_, fun line decoded => ?_⟩, fun line nonempty => decode_iff.mpr ⟨nonempty, rfl⟩⟩
  · constructor
    · rintro ⟨line, decoded⟩
      obtain ⟨nonempty, rfl⟩ := decode_iff.mp decoded
      obtain ⟨direction, rest, rfl⟩ := List.exists_cons_of_ne_nil nonempty
      exact isPathLine_encode direction rest
    · intro grammatical
      obtain ⟨line, encoded⟩ := encoded_of_isPathLine grammatical
      exact ⟨line, decode_iff.mpr encoded⟩
  · exact ⟨(decode_iff.mp decoded).2, is_ofLine line⟩

/-- A path of three directions is accepted and read back. -/
theorem path_line_codec_three :
    (∃ line, decode (JsString.ofString "0/1/1") = .ok line ∧ encode line = JsString.ofString "0/1/1" ∧
      is (.ofLine line) = true) ∧
    decode (encode [.L, .R, .R]) = .ok [.L, .R, .R] := by
  have grammatical : IsPathLine (JsString.ofString "0/1/1") :=
    .step (.inl rfl) (.step (.inr rfl) (.last (.inr rfl)))
  obtain ⟨accepts, reads⟩ := path_line_codec.1 (JsString.ofString "0/1/1")
  obtain ⟨line, decoded⟩ := accepts.mpr grammatical
  exact ⟨⟨line, decoded, reads line decoded⟩, path_line_codec.2 [.L, .R, .R] (by decide)⟩

end Lines

end PathLineCodec

end CeramicAnchor
