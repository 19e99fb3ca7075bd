import CeramicAnchor.Construction.AuthMiddleware
import Mathlib.Logic.Equiv.List
import Mathlib.Tactic.DeriveEncodable

/-
This file says when the digest of a body is checked, and that a signed digest binds the anchored parameters.
-/

namespace CeramicAnchor

variable {C : Type} [CarFile C] {externals : AuthExternals C} {opts : AuthOpts} {request : AuthRequest}

section Digest

/-- The content type mentions CAR files, alone or beside something else. -/
def AuthRequest.CarContent (request : AuthRequest) : Prop :=
  ∃ contentType, request.contentType = some contentType ∧ Includes contentType CAR_TYPE

/-- The body is no CAR body, or it is a CAR file with a root. -/
def AuthRequest.Digestible (externals : AuthExternals C) (request : AuthRequest) : Prop :=
  ¬ request.CarContent ∨ ∃ car root, externals.fromBytes request.body = some car ∧
    (CarFile.roots car)[0]? = some root

/-- The digest is the text of the first root, or the hash of the printed body. -/
theorem bodyDigest_cases {digest : String} (computed : request.bodyDigest externals = some digest) :
    (request.CarContent ∧ ∃ car root, externals.fromBytes request.body = some car ∧
      (CarFile.roots car)[0]? = some root ∧ digest = externals.cidText root) ∨
    (¬ request.CarContent ∧ digest = bodyHash externals request.body) := by
  unfold AuthRequest.bodyDigest buildBodyDigest at computed
  split at computed
  · cases computed
  · split at computed
    · next absent =>
        obtain rfl := Option.some.inj computed
        refine .inr ⟨?_, rfl⟩
        rintro ⟨contentType, present, _⟩
        rw [absent] at present
        cases present
    · next contentType present =>
        split at computed
        · next included =>
            refine .inl ⟨⟨contentType, present, included⟩, ?_⟩
            unfold carDigest at computed
            split at computed
            · cases computed
            · next car parsed =>
                split at computed
                · cases computed
                · next root first => exact ⟨car, root, parsed, first, (Option.some.inj computed).symm⟩
        · next excluded =>
            have hashed : digest = bodyHash externals request.body := by
              split at computed <;> exact (Option.some.inj computed).symm
            refine .inr ⟨?_, hashed⟩
            rintro ⟨other, same, included⟩
            obtain rfl := Option.some.inj (present.symm.trans same)
            exact excluded included

theorem bodyDigest_isSome (hasBody : request.hasBody = true) :
    (request.bodyDigest externals).isSome ↔ request.Digestible externals := by
  have truthy : request.body.falsy = false := by
    simp only [AuthRequest.hasBody, Bool.and_eq_true, Bool.not_eq_true'] at hasBody
    exact hasBody.1
  constructor
  · intro present
    obtain ⟨digest, computed⟩ := Option.isSome_iff_exists.mp present
    rcases bodyDigest_cases computed with ⟨_, car, root, parsed, first, _⟩ | ⟨excluded, _⟩
    · exact .inr ⟨car, root, parsed, first⟩
    · exact .inl excluded
  · intro digestible
    unfold AuthRequest.bodyDigest buildBodyDigest
    simp only [truthy, Bool.false_eq_true, if_false]
    split
    · rfl
    · next contentType present =>
        split
        · next included =>
            rcases digestible with excluded | ⟨car, root, parsed, first⟩
            · exact absurd ⟨contentType, present, included⟩ excluded
            · simp [carDigest, parsed, first]
        · split <;> rfl

end Digest

section Lambda

/-- The request carries a verified token with the digest of its body and an allowed DID. -/
def BearsToken (externals : AuthExternals C) (opts : AuthOpts) (request : AuthRequest) : Prop :=
  ∃ jws result did, bearerMatch (request.authorization.getD "") = some jws ∧ jws ≠ "" ∧
    externals.verifyJWS jws = .ok result ∧ result.did = some did ∧ did ≠ "" ∧
    falsyProperty result.nonce = false ∧ falsyProperty result.digest = false ∧
    result.digest = (request.bodyDigest externals).map (fun digest => Json.text (JsString.ofString digest)) ∧
    isAllowedDID did opts = true

theorem bears_token {jws : String} {result : VerifyJWSResult}
    (token : bearerMatch (request.authorization.getD "") = some jws) (nonempty : jws ≠ "")
    (verified : externals.verifyJWS jws = .ok result) (named : ¬ result.did.getD "" = "")
    (fields : falsyProperty result.nonce = false ∧ falsyProperty result.digest = false)
    (same : result.digest =
      (request.bodyDigest externals).map fun digest => Json.text (JsString.ofString digest))
    (allowed : isAllowedDID (result.did.getD "") opts = true) :
    ∃ did digest,
    (Except.ok (result.did.getD "", result.digest) : Except AuthResponse (String × Option Json)) =
        .ok (did, some (.text (JsString.ofString digest))) ∧
      request.bodyDigest externals = some digest ∧ BearsToken externals opts request := by
  cases whose : result.did with
  | none =>
      rw [whose] at named
      exact absurd rfl named
  | some did =>
      cases computed : request.bodyDigest externals with
      | none =>
          rw [same, computed] at fields
          exact absurd fields.2 (by decide)
      | some digest =>
          rw [whose] at named allowed
          refine ⟨did, digest, by rw [same, computed]; rfl, rfl, ?_⟩
          exact ⟨jws, result, did, token, nonempty, verified, whose, named, fields.1, fields.2, same, allowed⟩

/-- The check ends with a refusal, or with the digest of the body. -/
theorem checkAuthorization_cases (externals : AuthExternals C) (opts : AuthOpts) (request : AuthRequest) :
    (∃ response, checkAuthorization externals opts request = .error response ∧ response ≠ .next) ∨
    ∃ did digest, checkAuthorization externals opts request =
    .ok (did, some (.text (JsString.ofString digest))) ∧
      request.bodyDigest externals = some digest ∧ BearsToken externals opts request := by
  unfold checkAuthorization
  split
  · exact .inl ⟨_, rfl, by decide⟩
  · next jws token =>
      split
      · exact .inl ⟨_, rfl, by decide⟩
      · next nonempty =>
          split
          · exact .inl ⟨_, rfl, by decide⟩
          · next result verified =>
              dsimp only
              split
              · exact .inl ⟨_, rfl, by decide⟩
              · next named =>
                  split
                  · exact .inl ⟨_, rfl, by decide⟩
                  · next fields =>
                      split
                      · exact .inl ⟨_, rfl, by decide⟩
                      · next same =>
                          split
                          · exact .inl ⟨_, rfl, by decide⟩
                          · next allowed =>
                              refine .inr
                                (bears_token token nonempty verified named ?_ ?_ (not_not.mp allowed))
                              · simpa using fields
                              · exact not_not.mp same

theorem checkAuthorization_ok (bears : BearsToken externals opts request) :
    ∃ signed, checkAuthorization externals opts request = .ok signed := by
  obtain ⟨jws, result, did, token, nonempty, verified, whose, named, nonce, digest, same, allowed⟩ := bears
  refine ⟨(did, result.digest), ?_⟩
  simp [checkAuthorization, token, nonempty, verified, whose, named, nonce, digest, ← same, allowed]

/-- The header and the digest of the body are the same text. -/
def DigestMatches (externals : AuthExternals C) (request : AuthRequest) : Prop :=
  ∃ digest, request.digest = some digest ∧ request.bodyDigest externals = some digest

/-- The request goes on only with a matching digest, and never when the body has none. -/
def DigestEnforced (externals : AuthExternals C) (opts : AuthOpts) (request : AuthRequest) : Prop :=
  (auth externals opts request = .next → DigestMatches externals request) ∧
    (request.bodyDigest externals = none → auth externals opts request ≠ .next)

theorem digestEnforced_iff : DigestEnforced externals opts request ↔
    (auth externals opts request = .next → DigestMatches externals request) := by
  refine ⟨And.left, fun enforced => ⟨enforced, fun absent admitted => ?_⟩⟩
  obtain ⟨digest, _, computed⟩ := enforced admitted
  rw [absent] at computed
  cases computed

theorem auth_lambda {did : String} (header : request.did = some did) (named : did ≠ "")
    (hasBody : request.hasBody = true) :
    auth externals opts request = .next ↔ request.digest = request.bodyDigest externals := by
  have lambda : request.usesLambda = true := by simp [AuthRequest.usesLambda, header, named, hasBody]
  unfold auth
  rw [if_pos lambda]
  split
  · next same => exact iff_of_true rfl same
  · next different => exact iff_of_false (by decide) different

/-- Without a DID in its header, a request needs a token as soon as there is an allow list. -/
theorem auth_listed (listed : opts.allowedDIDs ≠ []) (unnamed : request.did.getD "" = "")
    (hasBody : request.hasBody = true) :
    auth externals opts request = .next ↔ BearsToken externals opts request := by
  have lambda : request.usesLambda = false := by simp [AuthRequest.usesLambda, unnamed]
  have allowlist : request.usesAllowlist opts = true := by
    simp [AuthRequest.usesAllowlist, lambda, listed, hasBody]
  rw [auth, lambda, if_neg Bool.false_ne_true, if_pos allowlist]
  rcases checkAuthorization_cases externals opts request with
    ⟨response, refused, notNext⟩ | ⟨did, digest, passed, _, bears⟩
  · rw [refused]
    refine iff_of_false notNext fun bears => ?_
    obtain ⟨signed, passed⟩ := checkAuthorization_ok bears
    rw [refused] at passed
    cases passed
  · rw [passed]
    exact iff_of_true rfl bears

theorem auth_unnamed (header : request.did = some "") (hasBody : request.hasBody = true) :
    auth externals opts request = .next ↔ opts.allowedDIDs = [] ∨ BearsToken externals opts request := by
  by_cases open_ : opts.allowedDIDs = []
  · simp [auth, AuthRequest.usesLambda, AuthRequest.usesAllowlist, header, open_]
  · rw [auth_listed open_ (by rw [header]; rfl) hasBody]
    simp [open_]

/-- With a DID in its header, a request is checked exactly when it has a digest header or its body has a
digest. -/
theorem digest_enforced_iff (externals : AuthExternals C) (opts : AuthOpts) (request : AuthRequest)
    {did : String} (header : request.did = some did) (hasBody : request.hasBody = true) :
    DigestEnforced externals opts request ↔
      (did ≠ "" ∧ (request.digest.isSome ∨ request.Digestible externals)) ∨
      (did = "" ∧ (DigestMatches externals request ∨
        (opts.allowedDIDs ≠ [] ∧ ¬ BearsToken externals opts request))) := by
  rw [digestEnforced_iff, ← bodyDigest_isSome hasBody]
  by_cases named : did = ""
  · subst named
    rw [auth_unnamed header hasBody]
    simp only [ne_eq, not_true_eq_false, false_and, true_and, false_or]
    tauto
  · rw [auth_lambda header named hasBody]
    simp only [ne_eq, named, not_false_eq_true, true_and, false_and, or_false]
    constructor
    · intro enforced
      by_contra none_
      simp only [not_or, Option.not_isSome_iff_eq_none] at none_
      obtain ⟨digest, present, _⟩ := enforced (none_.1.trans none_.2.symm)
      rw [none_.1] at present
      cases present
    · rintro (present | computed) same
      · obtain ⟨digest, present⟩ := Option.isSome_iff_exists.mp present
        exact ⟨digest, present, same.symm.trans present⟩
      · obtain ⟨digest, computed⟩ := Option.isSome_iff_exists.mp computed
        exact ⟨digest, same.trans computed, computed⟩

def plainExternals : AuthExternals Car where
  verifyJWS _ := .error "Invalid JWS"
  fromBytes _ := none
  sha256 bytes := bytes
  cidText _ := "bafy"

/-- The body is JSON, and the content type mentions CAR files in a parameter. -/
def mixedRequest (digest : Option String) : AuthRequest where
  did := some "did:key:z6Mk"
  digest := digest
  contentType := some "application/json; x=\"application/vnd.ipld.car\""
  authorization := none
  body := .json (.object (.ofList [("streamId", .text (JsString.ofString "k2t6"))]))

theorem digest_skipped :
    ¬ ∀ (externals : AuthExternals Car) (opts : AuthOpts) (request : AuthRequest) (did : String),
    request.did = some did → request.hasBody = true → DigestEnforced externals opts request := by
  intro claim
  have enforced := claim plainExternals ⟨["did:key:other"], false⟩ (mixedRequest none) _ rfl (by decide)
  obtain ⟨digest, present, _⟩ := enforced.1 (by decide)
  cases present

theorem digest_enforced_mixed : DigestEnforced plainExternals ⟨[], false⟩ (mixedRequest (some "0x12")) :=
  (digest_enforced_iff plainExternals ⟨[], false⟩ (mixedRequest (some "0x12")) rfl (by decide)).mpr
    (.inl ⟨by decide, .inl rfl⟩)

end Lambda

section Signed

variable {codecs : ParamsCodecs}

/-- The middleware admits the request through its header, whose token has this digest. -/
def AdmittedWith (externals : AuthExternals C) (opts : AuthOpts) (request : AuthRequest)
    (digest : Option Json) : Prop :=
  request.usesAllowlist opts = true ∧ ∃ did, checkAuthorization externals opts request = .ok (did, digest)

theorem AdmittedWith.next {digest : Option Json} (admitted : AdmittedWith externals opts request digest) :
    auth externals opts request = .next := by
  obtain ⟨allowlist, did, passed⟩ := admitted
  have lambda : request.usesLambda = false := by
    simp only [AuthRequest.usesAllowlist, Bool.and_eq_true, Bool.not_eq_true'] at allowlist
    exact allowlist.1.1
  rw [auth, lambda, if_neg Bool.false_ne_true, if_pos allowlist, passed]

theorem AdmittedWith.computed {digest : Option Json} (admitted : AdmittedWith externals opts request digest) :
    ∃ text, request.bodyDigest externals = some text ∧ digest = some (.text (JsString.ofString text)) := by
  obtain ⟨_, did, passed⟩ := admitted
  rcases checkAuthorization_cases externals opts request with
    ⟨response, refused, _⟩ | ⟨_, text, passed', computed, _⟩
  · rw [refused] at passed
    cases passed
  · rw [passed] at passed'
    obtain ⟨_, rfl⟩ := Prod.mk.inj (Except.ok.inj passed')
    exact ⟨text, computed, rfl⟩

/-- What the parser takes from a JSON value depends on what is printed of it. -/
theorem stringProperty_printed {A : Type} (codec : JsString → Option A) (value : Option Json) :
    stringProperty codec (value.map Json.printed) = stringProperty codec value := by
  cases value with
  | none => rfl
  | some value => cases value with
    | number value => cases printed : value.printed <;> simp [stringProperty, Json.printed, printed]
    | _ => rfl

/-- The three parameters that are anchored. -/
def AnchorRequestParams.SameAnchor (first second : AnchorRequestParams) : Prop :=
  first.streamId = second.streamId ∧ first.cid = second.cid ∧ first.timestamp = second.timestamp

/-- A date prints as the same date. -/
def PrintsDates (codecs : ParamsCodecs) : Prop :=
  ∀ value time, codecs.date value = some time → codecs.date (value.map Json.printed) = some time

theorem decode_printed (dates : PrintsDates codecs) {first second : Json}
    (same : first.printed = second.printed)
    {params params' : AnchorRequestParams} (decoded : RequestAnchorParamsV3.decode codecs first = some params)
    (decoded' : RequestAnchorParamsV3.decode codecs second = some params') : params.SameAnchor params' := by
  simp only [RequestAnchorParamsV3.decode, Option.bind_eq_bind, Option.bind_eq_some_iff, Option.pure_def,
    Option.some.injEq] at decoded decoded'
  obtain ⟨streamId, stream, cid, tip, timestamp, date, _, _, _, _, rfl⟩ := decoded
  obtain ⟨streamId', stream', cid', tip', timestamp', date', _, _, _, _, rfl⟩ := decoded'
  have property :
      ∀ name, (first.property name).map Json.printed = (second.property name).map Json.printed := by
    intro name
    rw [← printed_property, ← printed_property, same]
  rw [← stringProperty_printed, property, stringProperty_printed, stream'] at stream
  rw [← stringProperty_printed, property, stringProperty_printed, tip'] at tip
  have printedDate := dates _ _ date
  rw [property, dates _ _ date'] at printedDate
  exact ⟨(Option.some.inj stream).symm, (Option.some.inj tip).symm, (Option.some.inj printedDate).symm⟩

/-- The record of a root is the record that its CID stands for. -/
def Addressed (C : Type) [CarFile C] : Prop :=
  ∀ (car : C) cid record, CarFile.get car cid = some record → cid = .record record

/-- Only a buffer is read as a CAR file. -/
def ReadsBytes (externals : AuthExternals C) : Prop :=
  ∀ body car, externals.fromBytes body = some car → ∃ bytes, body = .bytes bytes

/-- No CID prints as a text with the first characters of a hash. -/
def DistinctTexts (externals : AuthExternals C) : Prop :=
  ∀ cid rest, externals.cidText cid ≠ "0x" ++ rest

omit [CarFile C] in
theorem bodyHash_printed (hash : Function.Injective externals.sha256) {first second : Json}
    (same : bodyHash externals (.json first) = bodyHash externals (.json second)) :
    first.printed = second.printed := by
  have texts := String.append_right_inj "0x" |>.mp same
  have bytes := hash (base16_injective texts)
  have printed := String.toByteArray_inj.mp (ByteArray.ext (Array.toList_inj.mp bytes))
  exact stringify_printed (String.ofList_injective printed)

/-- A parsed CAR request is a CAR file, and its parameters are those of its first record. -/
theorem parse_car (readsBytes : ReadsBytes externals) {params : AnchorRequestParams} {car : C}
    (parsed : externals.fromBytes request.body = some car)
    (decoded : request.parse codecs externals = some params) :
    ∃ root record, (CarFile.roots car)[0]? = some root ∧ CarFile.get car root = some record ∧
      RequestAnchorParamsV2Root.decode codecs record = some params := by
  obtain ⟨bytes, isBytes⟩ := readsBytes _ _ parsed
  unfold AuthRequest.parse at decoded
  split at decoded
  · rw [isBytes] at decoded
    cases decoded
  · simpa [decodeCarFile, parsed, Option.bind_eq_some_iff] using decoded

/-- A parsed request without CAR content is a JSON value. -/
theorem parse_legacy {params : AnchorRequestParams} (excluded : ¬ request.CarContent)
    (decoded : request.parse codecs externals = some params) :
    ∃ value, request.body = .json value ∧ RequestAnchorParamsV3.decode codecs value = some params := by
  have other : request.contentType ≠ some CAR_TYPE := fun same => excluded ⟨_, same, List.infix_rfl⟩
  rw [AuthRequest.parse, if_pos other] at decoded
  cases body : request.body with
  | json value =>
      rw [body] at decoded
      exact ⟨value, rfl, decoded⟩
  | bytes value =>
      rw [body] at decoded
      cases decoded
  | undefined =>
      rw [body] at decoded
      cases decoded

theorem cars_bind (addressed : Addressed C) (readsBytes : ReadsBytes externals) {first second : AuthRequest}
    (texts : Function.Injective externals.cidText) {car car' : C} {root root' : Cid}
    (read : externals.fromBytes first.body = some car) (read' : externals.fromBytes second.body = some car')
    (leads : (CarFile.roots car)[0]? = some root) (leads' : (CarFile.roots car')[0]? = some root')
    (same : externals.cidText root = externals.cidText root') {params params' : AnchorRequestParams}
    (parsed : first.parse codecs externals = some params)
    (parsed' : second.parse codecs externals = some params') :
    params.SameAnchor params' := by
  obtain ⟨_, record, found, lookup, decoded⟩ := parse_car readsBytes read parsed
  obtain ⟨_, record', found', lookup', decoded'⟩ := parse_car readsBytes read' parsed'
  obtain rfl := Option.some.inj (leads.symm.trans found)
  obtain rfl := Option.some.inj (leads'.symm.trans found')
  have content := (addressed _ _ _ lookup).symm.trans ((texts same).trans (addressed _ _ _ lookup'))
  obtain rfl := Cid.record.inj content
  obtain rfl := Option.some.inj (decoded.symm.trans decoded')
  exact ⟨rfl, rfl, rfl⟩

/-- Two requests that are admitted with one signed digest anchor the same tip of the same stream at the
same time. -/
theorem signed_digest_binds (hash : Function.Injective externals.sha256) (addressed : Addressed C)
    (readsBytes : ReadsBytes externals) (texts : Function.Injective externals.cidText)
    (distinct : DistinctTexts externals) (dates : PrintsDates codecs)
    {opts' : AuthOpts} {first second : AuthRequest}
    {digest : Option Json} (admitted : AdmittedWith externals opts first digest)
    (admitted' : AdmittedWith externals opts' second digest) {params params' : AnchorRequestParams}
    (parsed : first.parse codecs externals = some params)
    (parsed' : second.parse codecs externals = some params') :
    params.SameAnchor params' := by
  obtain ⟨text, computed, rfl⟩ := admitted.computed
  obtain ⟨text', computed', signed⟩ := admitted'.computed
  obtain rfl := JsString.ofString_injective (Json.text.inj (Option.some.inj signed))
  rcases bodyDigest_cases computed with ⟨_, car, root, read, leads, rootText⟩ | ⟨excluded, hashed⟩
  · rcases bodyDigest_cases computed' with ⟨_, car', root', read', leads', rootText'⟩ | ⟨_, hashed'⟩
    · exact cars_bind addressed readsBytes texts read read' leads leads' (rootText.symm.trans rootText')
        parsed parsed'
    · exact absurd (rootText.symm.trans hashed') (distinct _ _)
  · rcases bodyDigest_cases computed' with ⟨_, car', root', read', leads', rootText'⟩ | ⟨excluded', hashed'⟩
    · exact absurd (rootText'.symm.trans hashed) (distinct _ _)
    · obtain ⟨value, body, decoded⟩ := parse_legacy excluded parsed
      obtain ⟨value', body', decoded'⟩ := parse_legacy excluded' parsed'
      rw [body] at hashed
      rw [body'] at hashed'
      exact decode_printed dates (bodyHash_printed hash (hashed.symm.trans hashed')) decoded decoded'

instance byteEncodable : Encodable UInt8 :=
    Encodable.ofLeftInverse UInt8.toNat UInt8.ofNat fun _ => UInt8.ofNat_toNat

instance bitsEncodable (width : Nat) : Encodable (BitVec width) :=
    Encodable.ofLeftInverse BitVec.toNat (BitVec.ofNat width) fun bits =>
      (BitVec.ofNat_toNat width bits).trans (BitVec.setWidth_eq bits)

instance charEncodable : Encodable Char := Encodable.ofLeftInverse Char.toNat Char.ofNat Char.ofNat_toNat

instance stringEncodable : Encodable String :=
    Encodable.ofLeftInverse String.toList String.ofList fun _ => String.ofList_toList

deriving instance Encodable for Cid, Ipld, Items, Fields

/-- The parameters of an anchor request, with a number that nothing reads. -/
def sampleParams (number : JsNumber) : Json :=
  .object (.ofList [("streamId", .text (JsString.ofString "k2t6")), ("cid", .text (JsString.ofString "bafy")),
    ("timestamp", .text (JsString.ofString "1970-01-01T00:00:00.001Z")), ("other", .number number)])

def sampleRequest (contentType : String) (number : JsNumber) : AuthRequest where
  did := none
  digest := none
  contentType := some contentType
  authorization := some "Bearer token"
  body := .json (sampleParams number)

def sampleDigest : String :=
  "0x" ++ base16 (String.ofList (sampleParams .negativeZero).stringify).toUTF8.data.toList

def sampleExternals : AuthExternals Car where
  verifyJWS _ := .ok ⟨some "did:key:z6Mk", some (.text (JsString.ofString "nonce")),
    some (.text (JsString.ofString sampleDigest))⟩
  fromBytes _ := none
  sha256 bytes := bytes
  cidText cid := "b" ++ String.ofList (List.replicate (Encodable.encode cid) 'a')

def sampleCodecs : ParamsCodecs where
  streamIdAsString text := if text = JsString.ofString "k2t6" then some (.foreign "k2t6") else none
  cidAsString text := if text = JsString.ofString "bafy" then some (.foreign "bafy") else none
  date
    | some (.text text) => if text = JsString.ofString "1970-01-01T00:00:00.001Z" then some 1 else none
    | _ => none
  optionalString
    | none => some none
    | some (.text text) => some (some text)
    | _ => none
  streamIdAsBytes _ := none
  recordDate _ := none

theorem sample_admitted (contentType : String) (number : JsNumber) (plain : ¬ Includes contentType CAR_TYPE)
    (same : (sampleParams number).stringify = (sampleParams .negativeZero).stringify) :
    AdmittedWith sampleExternals ⟨["did:key:z6Mk"], false⟩ (sampleRequest contentType number)
      (some (.text (JsString.ofString sampleDigest))) := by
  have text : bodyHash sampleExternals (sampleRequest contentType number).body = sampleDigest := by
    rw [sampleDigest, ← same]
    rfl
  have content : (sampleRequest contentType number).contentType = some contentType := rfl
  have truthy : (sampleRequest contentType number).body.falsy = false := rfl
  have hashed : (sampleRequest contentType number).bodyDigest sampleExternals = some sampleDigest := by
    simp [AuthRequest.bodyDigest, buildBodyDigest, truthy, content, plain, text]
  have token : bearerMatch ((sampleRequest contentType number).authorization.getD "") = some "token" := by
    have token : bearerMatch "Bearer token" = some "token" := by decide
    exact token
  refine ⟨rfl, "did:key:z6Mk", ?_⟩
  have nonempty : sampleDigest ≠ "" := by simp [sampleDigest]
  rw [checkAuthorization, token, hashed]
  simp [sampleExternals, falsyProperty, Json.falsy, nonempty, isAllowedDID, JsString.ofString]

theorem car_addressed : Addressed Car := by
  intro car cid record found
  have same := List.find?_some found
  exact (of_decide_eq_true same).symm

theorem sample_texts : Function.Injective sampleExternals.cidText := by
  intro first second same
  have letters := String.ofList_injective ((String.append_right_inj "b").mp same)
  have lengths := congrArg List.length letters
  rw [List.length_replicate, List.length_replicate] at lengths
  exact Encodable.encode_injective lengths

theorem sample_distinct : DistinctTexts sampleExternals := by
  intro cid rest same
  have chars := congrArg String.toList same
  simp [sampleExternals] at chars

theorem sample_dates : PrintsDates sampleCodecs := by
  intro value time decoded
  match value with
  | some (.text text) => exact decoded

/-- The sign of a zero and the content type differ, and one digest is signed for both requests. -/
theorem sample_digest_binds :
    (sampleRequest "application/json" .negativeZero).parse sampleCodecs sampleExternals =
        some ⟨.foreign "k2t6", .foreign "bafy", 1, none, none⟩ ∧
      AnchorRequestParams.SameAnchor ⟨.foreign "k2t6", .foreign "bafy", 1, none, none⟩
        ⟨.foreign "k2t6", .foreign "bafy", 1, none, none⟩ := by
  have first := sample_admitted "application/json" .negativeZero (by decide) rfl
  have second := sample_admitted "application/json; charset=utf-8" (.finite .zero) (by decide) rfl
  refine ⟨rfl, signed_digest_binds (fun _ _ same => same) car_addressed ?_ sample_texts
    sample_distinct sample_dates first second rfl rfl⟩
  intro body car read
  cases read

end Signed

end CeramicAnchor
