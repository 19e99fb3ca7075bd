import CeramicAnchor.Construction.AdminCredentials
import Mathlib.Logic.Equiv.Basic

/-
This file proves that the credentials of the administrator are read back, and that they admit nobody else.
-/

namespace CeramicAnchor.DynamoDB
open Concurrency Numerics

variable {codecs : CredentialCodecs}

/-- The hash separates different byte arrays. -/
def HashesApart (codecs : CredentialCodecs) : Prop := Function.Injective codecs.sha256

/-- A base 64 text is read back. -/
def ReadsBase64 (codecs : CredentialCodecs) : Prop := ∀ text, codecs.fromBase64 (toBase64 text) = text

section Separators

theorem base16_digit {bytes : List UInt8} {char : Char} (member : char ∈ (base16 bytes).toList) :
    ∃ value < 16, char = Nat.digitChar value := by
  rw [base16, String.toList_ofList, List.mem_flatMap] at member
  obtain ⟨byte, _, member⟩ := member
  have small := byte.toNat_lt
  rcases List.mem_cons.mp member with rfl | member
  · exact ⟨byte.toNat / 16, by omega, rfl⟩
  · obtain rfl := List.mem_singleton.mp member
    exact ⟨byte.toNat % 16, by omega, rfl⟩

theorem sha256HashString_free {mark : Char} (reserved : mark ∈ ['#', ':']) (text : String) :
    mark ∉ (codecs.sha256HashString text).toList := by
  intro member
  rw [CredentialCodecs.sha256HashString, String.toList_append, List.mem_append] at member
  have digits : ∀ value < 16, Nat.digitChar value ∉ ['#', ':'] := by decide
  rcases member with leading | hashed
  · have leading : mark ∈ ['0', 'x'] := leading
    simp only [List.mem_cons, List.not_mem_nil, or_false] at reserved leading
    rcases reserved with rfl | rfl <;> exact absurd leading (by decide)
  · obtain ⟨value, small, rfl⟩ := base16_digit hashed
    exact digits value small reserved

theorem toText_free {mark : Char} (reserved : mark ∈ ['#', ':']) (number : WholeNumber) :
    mark ∉ (String.ofList number.toText).toList := by
  rw [String.toList_ofList]
  intro member
  simp only [List.mem_cons, List.not_mem_nil, or_false] at reserved
  rcases toText_isPrinted number mark member with digit | other
  · rcases reserved with rfl | rfl <;> exact absurd digit (by decide)
  · rcases reserved with rfl | rfl <;> exact absurd other (by decide)

theorem toBase64_unspaced (text : String) : ' ' ∉ (toBase64 text).toList := by
  rw [toBase64, String.toList_ofList]
  exact Base64.print_unspaced _

theorem sha256HashString_injective (apart : HashesApart codecs) :
    Function.Injective codecs.sha256HashString := by
  intro first second same
  have bytes := apart (base16_injective ((String.append_right_inj "0x").mp same))
  exact String.toByteArray_inj.mp (ByteArray.ext (Array.toList_inj.mp bytes))

end Separators

section RoundTrip

variable (formats : RouteFormats) (config : RouteConfig) (inFourHours : WholeNumber)
    (username password : String)
variable {expiration : WholeNumber}

/-- No field contains a separator, so that each is decoded as it was encoded. -/
theorem decode_encoded (reads : ReadsBase64 codecs) (nonzero : expiration.value ≠ 0) :
    codecs.decodeAdminCredentials
    (codecs.encodeAdminCredentials inFourHours username password (some expiration)) =
      .ok ⟨codecs.sha256HashString username, some (codecs.sha256HashString password),
        .finite ⟨expiration.value, expiration.isDouble⟩⟩ := by
  have given : (some expiration).filter (fun given : WholeNumber => given.value ≠ 0) = some expiration := by
    simp [nonzero]
  have fields := @split_once (codecs.sha256HashString username) (String.ofList expiration.toText) '#'
    (sha256HashString_free (by decide) username) (toText_free (by decide) expiration)
  have front : ':' ∉ (codecs.sha256HashString username ++ String.singleton '#' ++
      String.ofList expiration.toText).toList := by
    rw [String.toList_append, String.toList_append, List.mem_append, List.mem_append]
    rintro ((member | member) | member)
    · exact sha256HashString_free (by decide) username member
    · exact absurd member (by decide)
    · exact toText_free (by decide) expiration member
  have halves := split_once front (@sha256HashString_free codecs _ (by decide) password)
  have hash : String.singleton '#' = "#" := rfl
  have colon : String.singleton ':' = ":" := rfl
  rw [hash] at fields halves
  rw [colon] at halves
  rw [CredentialCodecs.encodeAdminCredentials, CredentialCodecs.decodeAdminCredentials, given,
      Option.getD_some]
  rw [reads, halves.1, halves.2, fields.1, fields.2, Option.elim_some, String.toList_ofList, ofText_toText]

/-- The credentials stand alone after the name of the scheme. -/
theorem basic_credentials (text : String) :
    authBasicRegex (BASIC ++ toBase64 text) = true ∧
      secondPart (BASIC ++ toBase64 text) " " = some (toBase64 text) := by
  constructor
  · refine decide_eq_true (List.IsPrefix.isInfix ⟨(toBase64 text).toList, ?_⟩)
    rw [String.toList_append]
  · exact (@split_once "Basic" (toBase64 text) ' ' (by decide) (toBase64_unspaced text)).2

/-- With both variables set, the check compares the hashes and the expiration. -/
theorem checkCredentials_at (apart : HashesApart codecs) (reads : ReadsBase64 codecs)
    (nonzero : expiration.value ≠ 0) (time : Int) (adminUsername adminPassword : String) :
    atTime time (RegisterRequest.checkCredentials (formats.withCredentials codecs) adminUsername adminPassword
      (BASIC ++ codecs.encodeAdminCredentials inFourHours username password (some expiration))) =
      some (decide (adminUsername = username ∧ adminPassword = password ∧ time ≤ expiration.value)) := by
  have decoded := decode_encoded inFourHours username password reads nonzero
  have part :
      secondPart (BASIC ++ codecs.encodeAdminCredentials inFourHours username password (some expiration))
      " " = some (codecs.encodeAdminCredentials inFourHours username password (some expiration)) :=
    (basic_credentials _).2
  have injective := sha256HashString_injective apart
  have expired : Number.lt (.finite ⟨expiration.value, expiration.isDouble⟩) time =
      decide (expiration.value < time) := by
    simp [Number.lt]
  rw [RegisterRequest.checkCredentials, part, Option.getD_some]
  simp only [RouteFormats.withCredentials, decoded, Except.map]
  -- The code awaits the time alone and then compares.
  change atTime time (if Number.lt (.finite ⟨expiration.value, expiration.isDouble⟩) time then pure false
    else pure (codecs.sha256HashString adminUsername = codecs.sha256HashString username &&
      some (codecs.sha256HashString adminPassword) = some (codecs.sha256HashString password))) = _
  simp only [expired, Option.some.injEq, injective.eq_iff]
  by_cases late : expiration.value < time
  · rw [if_pos (decide_eq_true late)]
    have refused : ¬ (adminUsername = username ∧ adminPassword = password ∧ time ≤ expiration.value) := by
      rintro ⟨_, _, early⟩
      omega
    rw [decide_eq_false refused]
    rfl
  · rw [if_neg (by simpa using late)]
    have early : time ≤ expiration.value := not_lt.mp late
    simp only [early, and_true, Bool.decide_and]
    rfl

/-- The credentials are read back, and they admit the administrator alone until they expire. -/
theorem credentials_round_trip (apart : HashesApart codecs) (reads : ReadsBase64 codecs)
    (nonzero : expiration.value ≠ 0) (time : Int) :
    codecs.decodeAdminCredentials
        (codecs.encodeAdminCredentials inFourHours username password (some expiration)) =
      .ok ⟨codecs.sha256HashString username, some (codecs.sha256HashString password),
        .finite ⟨expiration.value, expiration.isDouble⟩⟩ ∧
    (atTime time (RegisterRequest.checkUserIsAdmin (formats.withCredentials codecs) config
        (BASIC ++ codecs.encodeAdminCredentials inFourHours username password (some expiration))) =
        some true ↔
      config.ADMIN_USERNAME = some username ∧ username ≠ "" ∧ config.ADMIN_PASSWORD = some password ∧
        password ≠ "" ∧ time ≤ expiration.value) := by
  refine ⟨decode_encoded inFourHours username password reads nonzero, ?_⟩
  have basic : authBasicRegex (BASIC ++ codecs.encodeAdminCredentials inFourHours username password
      (some expiration)) = true := (basic_credentials _).1
  unfold RegisterRequest.checkUserIsAdmin
  split
  · next adminUsername adminPassword named worded =>
      obtain ⟨name, nameSet⟩ := Option.filter_eq_some_iff.mp named
      obtain ⟨word, wordSet⟩ := Option.filter_eq_some_iff.mp worded
      rw [if_neg (not_not.mpr basic), checkCredentials_at _ _ _ _ apart reads nonzero, name, word]
      simp only [Option.some.injEq, decide_eq_true_eq] at nameSet wordSet ⊢
      constructor
      · rintro ⟨rfl, rfl, early⟩
        exact ⟨rfl, nameSet, rfl, wordSet, early⟩
      · rintro ⟨same, _, same', _, early⟩
        exact ⟨same, same', early⟩
  · next missing =>
      refine iff_of_false (by rintro ⟨⟩) ?_
      rintro ⟨name, nameSet, word, wordSet, _⟩
      exact missing username password (by simp [name, nameSet]) (by simp [word, wordSet])

end RoundTrip

section Sample

def adminDigest : List UInt8 :=
  [0x8c, 0x69, 0x76, 0xe5, 0xb5, 0x41, 0x04, 0x15, 0xbd, 0xe9, 0x08, 0xbd, 0x4d, 0xee, 0x15, 0xdf,
    0xb1, 0x67, 0xa9, 0xc8, 0x73, 0xfc, 0x4b, 0xb8, 0xa8, 0x1f, 0x6f, 0x2a, 0xb4, 0x48, 0xa9, 0x18]

/-- The hash of the word `admin` is its SHA-256 digest. -/
def sampleCredentialCodecs : CredentialCodecs where
  sha256 := Equiv.swap "admin".toUTF8.data.toList adminDigest
  fromBase64 text := (String.fromUTF8? ⟨(Base64.read text.toList).toArray⟩).getD ""

theorem sample_apart : HashesApart sampleCredentialCodecs := Equiv.injective _

theorem sample_reads : ReadsBase64 sampleCredentialCodecs := by
  intro text
  simp only [sampleCredentialCodecs, toBase64, String.toList_ofList, Base64.read_print, Array.toArray_toList]
  exact congrArg (fun read : Option String => read.getD "") (dif_pos text.isValidUTF8)

def adminConfig : RouteConfig := ⟨some "admin", some "admin", none, "plan"⟩

def adminFormats : RouteFormats := ⟨fun _ => true, fun _ => .error "", fun text => text, fun _ => false⟩

theorem seconds_isDouble : IsDouble 1700000000 := by
  have small : |(1700000000 : ℤ)| ≤ 2 ^ 53 := by norm_num
  exact_mod_cast IsDouble.ofInt small

def sampleExpiration : WholeNumber := ⟨1700000000, by exact_mod_cast seconds_isDouble⟩

theorem credentials_round_trip_admin :
    sampleCredentialCodecs.decodeAdminCredentials
        (sampleCredentialCodecs.encodeAdminCredentials sampleExpiration "admin" "admin"
          (some sampleExpiration)) =
      .ok ⟨sampleCredentialCodecs.sha256HashString "admin",
        some (sampleCredentialCodecs.sha256HashString "admin"),
        .finite ⟨sampleExpiration.value, sampleExpiration.isDouble⟩⟩ ∧
    (atTime 1600000000 (RegisterRequest.checkUserIsAdmin (adminFormats.withCredentials sampleCredentialCodecs)
        adminConfig (BASIC ++ sampleCredentialCodecs.encodeAdminCredentials sampleExpiration "admin" "admin"
          (some sampleExpiration))) = some true ↔
      adminConfig.ADMIN_USERNAME = some "admin" ∧ "admin" ≠ "" ∧ adminConfig.ADMIN_PASSWORD = some "admin" ∧
        "admin" ≠ "" ∧ 1600000000 ≤ sampleExpiration.value) :=
  credentials_round_trip adminFormats adminConfig sampleExpiration "admin" "admin"
    sample_apart sample_reads (by decide) 1600000000

end Sample

end CeramicAnchor.DynamoDB
