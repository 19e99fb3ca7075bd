import CeramicAnchor.Proof.BodyDigest

/-
This file says which requests the middleware admits through their authorization header, in each of its modes.
-/

namespace CeramicAnchor

variable {C : Type} [CarFile C] {externals : AuthExternals C} {request : AuthRequest}

/-- The token of the request verifies to a DID, and it has a nonce and the digest of the body. -/
structure SignedBy (externals : AuthExternals C) (request : AuthRequest) (did : String) : Prop where
  nonempty : did ≠ ""
  signed : ∃ jws result digest, bearerMatch (request.authorization.getD "") = some jws ∧ jws ≠ "" ∧
    externals.verifyJWS jws = .ok result ∧ result.did = some did ∧
    falsyProperty result.nonce = false ∧ falsyProperty result.digest = false ∧
    request.bodyDigest externals = some digest ∧ result.digest = some (.text (JsString.ofString digest))

/-- The DID to which the token of the request verifies, if it does. -/
def AuthRequest.verifiedDID (externals : AuthExternals C) (request : AuthRequest) : Option String :=
  (bearerMatch (request.authorization.getD "")).bind fun jws =>
    match externals.verifyJWS jws with
    | .error _ => none
    | .ok result => result.did

theorem SignedBy.verified {did : String} (signed : SignedBy externals request did) :
    request.verifiedDID externals = some did := by
  obtain ⟨jws, result, digest, token, _, verified, whose, _⟩ := signed.signed
  rw [AuthRequest.verifiedDID, token, Option.bind_some, verified]
  exact whose

theorem bearsToken_iff {opts : AuthOpts} :
    BearsToken externals opts request ↔
      ∃ did, SignedBy externals request did ∧ isAllowedDID did opts = true := by
  constructor
  · rintro ⟨jws, result, did, token, nonempty, verified, whose, named, nonce, present, same, allowed⟩
    refine ⟨did, ⟨named, jws, result, ?_⟩, allowed⟩
    cases computed : request.bodyDigest externals with
    | none =>
        rw [same, computed] at present
        exact absurd present (by decide)
    | some digest =>
        refine ⟨digest, token, nonempty, verified, whose, nonce, present, rfl, ?_⟩
        rw [same, computed]
        rfl
  · rintro ⟨did,
        ⟨named, jws, result, digest, token, nonempty, verified, whose, nonce, present, computed, same⟩,
      allowed⟩
    refine ⟨jws, result, did, token, nonempty, verified, whose, named, nonce, present, ?_, allowed⟩
    rw [same, computed]
    rfl

/-- The strict mode asks for a listed signer, and the relaxed mode does as if the signer were listed. -/
theorem authorization_admits (externals : AuthExternals C) (allowedDIDs : List String) (request : AuthRequest)
    (listed : allowedDIDs ≠ []) (unnamed : request.did.getD "" = "") (hasBody : request.hasBody = true) :
    (auth externals ⟨allowedDIDs, false⟩ request = .next ↔
        ∃ did ∈ allowedDIDs, SignedBy externals request did) ∧
      (auth externals ⟨allowedDIDs, true⟩ request = .next ↔
        auth externals ⟨(request.verifiedDID externals).toList ++ allowedDIDs, false⟩ request = .next) := by
  have extended : (request.verifiedDID externals).toList ++ allowedDIDs ≠ [] := by simp [listed]
  constructor
  · rw [auth_listed listed unnamed hasBody, bearsToken_iff]
    simp only [isAllowedDID, Bool.false_or, decide_eq_true_eq, and_comm]
  · rw [auth_listed listed unnamed hasBody, auth_listed extended unnamed hasBody, bearsToken_iff,
        bearsToken_iff]
    constructor
    · rintro ⟨did, signed, _⟩
      refine ⟨did, signed, ?_⟩
      rw [signed.verified]
      simp [isAllowedDID]
    · rintro ⟨did, signed, _⟩
      exact ⟨did, signed, rfl⟩

theorem authorization_admits_sample :
    (auth sampleExternals ⟨["did:key:z6Mk"], false⟩ (sampleRequest "application/json" .negativeZero) = .next ↔
        ∃ did ∈ ["did:key:z6Mk"],
          SignedBy sampleExternals (sampleRequest "application/json" .negativeZero) did) ∧
      (auth sampleExternals ⟨["did:key:z6Mk"], true⟩ (sampleRequest "application/json" .negativeZero) =
        .next ↔ auth sampleExternals
            ⟨((sampleRequest "application/json" .negativeZero).verifiedDID sampleExternals).toList ++
              ["did:key:z6Mk"], false⟩ (sampleRequest "application/json" .negativeZero) = .next) :=
  authorization_admits sampleExternals ["did:key:z6Mk"] (sampleRequest "application/json" .negativeZero)
    (by decide) rfl rfl

end CeramicAnchor
