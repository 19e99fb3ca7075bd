import CeramicAnchor.Construction.SqsQueueService

/-
This file proves that the texts of the queue messages read back to the messages.
-/

namespace CeramicAnchor

section Texts

variable {number : List Char → JsNumber}

@[simp] theorem toWellFormed_ofString (text : String) : (JsString.ofString text).toWellFormed = text := by
  have scalars : JsChar.toWellFormed ∘ JsChar.scalar = id := rfl
  rw [JsString.toWellFormed, JsString.ofString, List.map_map, scalars, List.map_id, String.ofList_toList]

@[simp] theorem decodeStrings_encodeStrings (texts : List JsString) :
    (encodeStrings texts).decodeStrings = some texts := by
  induction texts with
  | nil => rfl
  | cons head tail ih => simp [encodeStrings, JsonItems.decodeStrings, decodeString, ih]

theorem encodeStrings_readable {texts : List JsString} (unpaired : ∀ text ∈ texts, text.Unpaired) :
    (encodeStrings texts).Readable number := by
  induction texts with
  | nil => trivial
  | cons head tail ih =>
      rw [List.forall_mem_cons] at unpaired
      exact ⟨unpaired.1, ih unpaired.2⟩

@[simp] theorem printed_encodeStrings (texts : List JsString) :
    (encodeStrings texts).printed = encodeStrings texts := by
  induction texts with
  | nil => rfl
  | cons head tail ih => rw [encodeStrings, JsonItems.printed, ih]; rfl

@[simp] theorem property_ofList (fields : List (String × Json)) (name : String) :
    (Json.object (.ofList fields)).property name = fields.lookup name := by
  change (JsonFields.ofList fields).get (JsString.ofString name) = _
  induction fields with
  | nil => rfl
  | cons field rest ih =>
      obtain ⟨other, value⟩ := field
      rw [JsonFields.ofList, JsonFields.get, ih, List.lookup_cons]
      by_cases same : name = other
      · simp [same]
      · have different : JsString.ofString other ≠ JsString.ofString name := fun equal =>
          same (JsString.ofString_injective equal).symm
        rw [if_neg different, beq_false_of_ne same]

/-- Fields are readable when their names differ and their values are readable. -/
theorem ofList_readable {fields : List (String × Json)} (distinct : (fields.map Prod.fst).Nodup)
    (readable : ∀ field ∈ fields, field.2.Readable number) : (JsonFields.ofList fields).Readable number := by
  induction fields with
  | nil => trivial
  | cons field rest ih =>
      obtain ⟨name, value⟩ := field
      rw [List.map_cons, List.nodup_cons] at distinct
      refine ⟨unpaired_ofString name, ?_, readable (name, value) List.mem_cons_self,
        ih distinct.2 fun other member => readable other (List.mem_cons_of_mem _ member)⟩
      have absent : rest.lookup name = none := by
        rw [List.lookup_eq_none_iff]
        intro other member
        exact bne_iff_ne.mpr fun same => distinct.1 (List.mem_map.mpr ⟨other, member, same.symm⟩)
      exact (property_ofList rest name).trans absent

theorem printed_ofList (fields : List (String × Json)) : (JsonFields.ofList fields).printed =
    .ofList (fields.map fun field => (field.1, field.2.printed)) := by
  induction fields with
  | nil => rfl
  | cons field rest ih => rw [JsonFields.ofList, JsonFields.printed, ih]; rfl

end Texts

section Messages

variable {config : QueueConfig}

/-- The texts of the batch are strings of the language, in which two surrogates that make a pair are one
character. -/
structure AnchorBatchQMessageOf.Unpaired (message : AnchorBatchQMessageOf JsString) : Prop where
  bid : message.bid.Unpaired
  rids : ∀ rid ∈ message.rids, rid.Unpaired

/-- The texts of the request are strings of the language. -/
structure RequestQMessageOf.Unpaired (message : RequestQMessageOf JsString) : Prop where
  rid : message.rid.Unpaired
  cid : message.cid.Unpaired
  sid : message.sid.Unpaired
  org : ∀ org ∈ message.org, org.Unpaired

/-- The ISO text of the date reads back to the date. -/
def QueueConfig.ReadsDate (config : QueueConfig) (date : Int) : Prop :=
  config.parseDate (.ofString (config.isoString date)) = some date

/-- The text of a batch reads back to the batch. -/
theorem parseBatch_stringify {message : AnchorBatchQMessageOf JsString} (unpaired : message.Unpaired) :
    config.parseBatch message.encode.stringify = some message := by
  have readable : message.encode.Readable config.number := by
    refine ofList_readable (by simp) fun field member => ?_
    simp only [List.mem_cons, List.not_mem_nil, or_false] at member
    rcases member with rfl | rfl
    · exact unpaired.bid
    · exact encodeStrings_readable unpaired.rids
  have printed : message.encode.printed = message.encode := by
    simp [AnchorBatchQMessageOf.encode, Json.printed, printed_ofList]
  rw [QueueConfig.parseBatch, parse_stringify readable, printed]
  simp [AnchorBatchQMessageOf.encode, AnchorBatchQMessageOf.decode, List.lookup_cons, decodeString,
    decodeStrings]

theorem decodeBatch_stringify (message : AnchorBatchQMessage) :
    config.decodeBatch (message.map JsString.ofString).encode.stringify = some message := by
  have unpaired : (message.map JsString.ofString).Unpaired := by
    refine ⟨unpaired_ofString _, fun rid member => ?_⟩
    obtain ⟨text, _, rfl⟩ := List.mem_map.mp member
    exact unpaired_ofString text
  rw [QueueConfig.decodeBatch, parseBatch_stringify unpaired]
  simp [AnchorBatchQMessageOf.map, Function.comp_def]

theorem lookup_map_text (fields : List (String × JsString)) (name : String) :
    (fields.map fun field => (field.1, Json.text field.2)).lookup name =
      (fields.lookup name).map Json.text := by
  induction fields with
  | nil => rfl
  | cons field rest ih =>
      rw [List.map_cons, List.lookup_cons, List.lookup_cons, ih]
      cases name == field.1 <;> rfl

/-- A field that was encoded as a text is read. -/
theorem property_bind {A : Type} {json : Json} {name : String} {text : JsString}
    (field : json.property name = some (.text text)) (continue_ : JsString → Option A) :
    (json.property name >>= fun value => decodeString value >>= continue_) = continue_ text := by
  rw [field]
  rfl

/-- Each field of a request is a text. -/
theorem RequestQMessageOf.encode_fields (isoString : Int → String) {message : RequestQMessageOf JsString}
    (unpaired : message.Unpaired) :
    ∃ fields : List (String × JsString), (fields.map Prod.fst).Nodup ∧
      (∀ field ∈ fields, field.2.Unpaired) ∧
      message.encode isoString = .object (.ofList (fields.map fun field => (field.1, .text field.2))) ∧
      fields.lookup "rid" = some message.rid ∧ fields.lookup "cid" = some message.cid ∧
      fields.lookup "sid" = some message.sid ∧ fields.lookup "ts" = some (.ofString (isoString message.ts)) ∧
      fields.lookup "org" = message.org ∧ fields.lookup "crt" = some (.ofString (isoString message.crt)) := by
  obtain ⟨rid, cid, sid, ts, org, crt⟩ := message
  obtain ⟨ridText, cidText, sidText, orgText⟩ := unpaired
  cases org with
  | none =>
      refine ⟨[("rid", rid), ("cid", cid), ("sid", sid), ("ts", .ofString (isoString ts)),
        ("crt", .ofString (isoString crt))], by simp, ?_, rfl, ?_⟩
      · simp only [List.forall_mem_cons, unpaired_ofString, ridText, cidText, sidText]
        simp
      · simp [List.lookup_cons]
  | some org =>
      refine ⟨[("rid", rid), ("cid", cid), ("sid", sid), ("ts", .ofString (isoString ts)), ("org", org),
        ("crt", .ofString (isoString crt))], by simp, ?_, rfl, ?_⟩
      · simp only [List.forall_mem_cons, unpaired_ofString, ridText, cidText, sidText, orgText org rfl]
        simp
      · simp [List.lookup_cons]

/-- The text of a request reads back to the request, and without an origin it does not read at all. -/
theorem parseRequest_stringify {message : RequestQMessageOf JsString} (unpaired : message.Unpaired)
    (ts : config.ReadsDate message.ts) (crt : config.ReadsDate message.crt) :
    config.parseRequest (message.encode config.isoString).stringify = message.org.map fun _ => message := by
  obtain ⟨fields, distinct, texts, encoded, fields_⟩ :=
    RequestQMessageOf.encode_fields config.isoString unpaired
  have names : (fields.map fun field => (field.1, Json.text field.2)).map Prod.fst = fields.map Prod.fst := by
    rw [List.map_map]
    rfl
  have readable : (message.encode config.isoString).Readable config.number := by
    rw [encoded]
    refine ofList_readable (by rw [names]; exact distinct) fun field member => ?_
    obtain ⟨entry, inside, rfl⟩ := List.mem_map.mp member
    exact texts entry inside
  have printed : (message.encode config.isoString).printed = message.encode config.isoString := by
    rw [encoded, Json.printed, printed_ofList, List.map_map]
    rfl
  have property : ∀ name, (message.encode config.isoString).property name =
      (fields.lookup name).map Json.text := by
    intro name
    rw [encoded, property_ofList, lookup_map_text]
  obtain ⟨rid, cid, sid, time, org, created⟩ := fields_
  have field : ∀ {name : String} {text : JsString}, fields.lookup name = some text →
      (message.encode config.isoString).property name = some (.text text) := by
    intro name text found
    rw [property, found, Option.map_some]
  unfold QueueConfig.ReadsDate at ts crt
  rw [QueueConfig.parseRequest, parse_stringify readable, printed, Option.bind_eq_bind, Option.bind_some,
    RequestQMessageOf.decode, property_bind (field rid), property_bind (field cid), property_bind (field sid),
    property_bind (field time), ts, Option.bind_eq_bind, Option.bind_some]
  cases origin : message.org with
  | none =>
      rw [property, org, origin]
      rfl
  | some text =>
      rw [origin] at org
      rw [property_bind (field org), property_bind (field created), crt, Option.bind_some,
          Option.map_some, ← origin]
      rfl

/-- Each text that a queue service sends reads back to its message, except that of a request without an
origin. -/
theorem messages_read (config : QueueConfig) :
    (∀ batch : AnchorBatchQMessageOf JsString, batch.Unpaired →
      config.parseBatch batch.encode.stringify = some batch) ∧
    ∀ message : RequestQMessageOf JsString, message.Unpaired → config.ReadsDate message.ts →
      config.ReadsDate message.crt →
      config.parseRequest (message.encode config.isoString).stringify = message.org.map fun _ => message :=
  ⟨fun _ => parseBatch_stringify, fun _ => parseRequest_stringify⟩

/-- A queue whose messages have no numbers and one date. -/
def loneQueue : QueueConfig where
  sqsQueueUrl := "https://queue/"
  maxTimeToHoldMessageSec := none
  retention := 345600000
  number _ := .finite .zero
  isoString _ := "1970-01-01T00:00:00.000Z"
  parseDate text := if text = .ofString "1970-01-01T00:00:00.000Z" then some 0 else none
  printed err := "Error: " ++ err.message

/-- The identifier of the batch has a lone surrogate, and one of the requests has an origin. -/
theorem messages_read_lone :
    loneQueue.parseBatch
      (AnchorBatchQMessageOf.encode ⟨[.scalar 'b', .surrogate 0], [.ofString "1"]⟩).stringify =
      some ⟨[.scalar 'b', .surrogate 0], [.ofString "1"]⟩ ∧
    ∀ org ∈ [some (.ofString "did:key:z6Mk"), none], loneQueue.parseRequest
      (RequestQMessageOf.encode loneQueue.isoString
        ⟨.ofString "1", .ofString "bafkqaaa", .ofString "kfuxy3vd4lq8", 0, org, 0⟩).stringify =
      org.map fun _ => ⟨.ofString "1", .ofString "bafkqaaa", .ofString "kfuxy3vd4lq8", 0, org, 0⟩ := by
  obtain ⟨batches, requests⟩ := messages_read loneQueue
  have date : loneQueue.ReadsDate 0 := rfl
  constructor
  · refine batches _ ⟨rfl, fun rid member => ?_⟩
    rw [List.mem_singleton.mp member]
    exact unpaired_ofString "1"
  · intro org member
    refine requests _ ⟨unpaired_ofString _, unpaired_ofString _, unpaired_ofString _, ?_⟩ date date
    rintro text ⟨⟩
    obtain rfl := Option.some.inj ((List.mem_cons.mp member).resolve_right (by simp))
    exact unpaired_ofString _

end Messages

end CeramicAnchor
