import Mathlib.Data.Set.Insert
import Mathlib.Logic.Function.Basic
import Mathlib.Logic.Relation

/-
This file gives the notary, which takes entries, publishes tokens, and certifies each entry once.
-/

namespace CeramicAnchor.Storage

variable {Name Key Entry Token Certificate : Type}

/-- What the notary has taken, published and certified so far. -/
structure Notary (Name Entry Token Certificate : Type) where
  entries : Name → Option Entry
  tokens : Set Token
  certificates : Name → Option Certificate

def Notary.empty : Notary Name Entry Token Certificate := ⟨fun _ => none, ∅, fun _ => none⟩

/-- A policy gives the key of an entry, and the certificates that a token supports for it. -/
structure Policy (Key Entry Token Certificate : Type) where
  key : Entry → Key
  supports : Token → Entry → Certificate → Prop

namespace Notary

/-- Nothing that was added is changed or withdrawn. -/
structure Grows (first second : Notary Name Entry Token Certificate) : Prop where
  entries : ∀ name entry, first.entries name = some entry → second.entries name = some entry
  tokens : first.tokens ⊆ second.tokens
  certificates : ∀ name certificate, first.certificates name = some certificate →
    second.certificates name = some certificate

/-- Each key names one entry, and each certificate is supported by a published token. -/
structure Sound (policy : Policy Key Entry Token Certificate) (notary : Notary Name Entry Token Certificate) :
    Prop where
  keyed : ∀ one other first second, notary.entries one = some first → notary.entries other = some second →
    policy.key first = policy.key second → one = other
  supported : ∀ name certificate, notary.certificates name = some certificate →
    ∃ entry token, notary.entries name = some entry ∧ token ∈ notary.tokens ∧
      policy.supports token entry certificate

variable {policy : Policy Key Entry Token Certificate}
  {first second third : Notary Name Entry Token Certificate}

theorem Grows.refl (notary : Notary Name Entry Token Certificate) : notary.Grows notary :=
  ⟨fun _ _ held => held, subset_rfl, fun _ _ held => held⟩

theorem Grows.trans (head : first.Grows second) (tail : second.Grows third) : first.Grows third :=
  ⟨fun name entry held => tail.entries name entry (head.entries name entry held),
    head.tokens.trans tail.tokens,
    fun name certificate held => tail.certificates name certificate (head.certificates name certificate held)⟩

theorem Sound.empty : (Notary.empty : Notary Name Entry Token Certificate).Sound policy :=
  ⟨by rintro one other first second ⟨⟩, by rintro name certificate ⟨⟩⟩

variable [DecidableEq Name]

/-- Each step adds something new, and nothing is changed or withdrawn. -/
inductive Step (policy : Policy Key Entry Token Certificate) (notary : Notary Name Entry Token Certificate) :
    Notary Name Entry Token Certificate → Prop where
  | enter {name : Name} {entry : Entry} (unnamed : notary.entries name = none)
      (unkeyed : ∀ other old, notary.entries other = some old → policy.key old ≠ policy.key entry) :
      Step policy notary { notary with entries := Function.update notary.entries name (some entry) }
  | publish {token : Token} (fresh : token ∉ notary.tokens) :
      Step policy notary { notary with tokens := insert token notary.tokens }
  | certify {name : Name} {entry : Entry} {token : Token} {certificate : Certificate}
      (entered : notary.entries name = some entry) (uncertified : notary.certificates name = none)
      (published : token ∈ notary.tokens) (supported : policy.supports token entry certificate) :
      Step policy notary
        { notary with certificates := Function.update notary.certificates name (some certificate) }

def Reaches (policy : Policy Key Entry Token Certificate) :
    Notary Name Entry Token Certificate → Notary Name Entry Token Certificate → Prop :=
  Relation.ReflTransGen (Step policy)

theorem Step.grows (step : Step policy first second) : first.Grows second := by
  cases step with
  | @enter name entry unnamed _ =>
      refine ⟨fun other old held => ?_, subset_rfl, fun _ _ held => held⟩
      have different : other ≠ name := by
        rintro rfl
        rw [unnamed] at held
        cases held
      exact (Function.update_of_ne different _ _).trans held
  | publish fresh => exact ⟨fun _ _ held => held, Set.subset_insert _ _, fun _ _ held => held⟩
  | @certify name entry token certificate _ uncertified _ _ =>
      refine ⟨fun _ _ held => held, subset_rfl, fun other old held => ?_⟩
      have different : other ≠ name := by
        rintro rfl
        rw [uncertified] at held
        cases held
      exact (Function.update_of_ne different _ _).trans held

theorem Reaches.grows (run : Reaches policy first second) : first.Grows second := by
  induction run with
  | refl => exact .refl first
  | tail _ step ih => exact ih.trans step.grows

theorem Sound.step (sound : first.Sound policy) (step : Step policy first second) : second.Sound policy := by
  have grows := step.grows
  constructor
  · cases step with
    | @enter name entry _ unkeyed =>
        intro one other old new held held' same
        by_cases isOne : one = name
        · by_cases isOther : other = name
          · exact isOne.trans isOther.symm
          · simp only [isOne, Function.update_self, Function.update_of_ne isOther] at held held'
            rw [← Option.some.inj held] at same
            exact absurd same.symm (unkeyed other new held')
        · by_cases isOther : other = name
          · simp only [isOther, Function.update_self, Function.update_of_ne isOne] at held held'
            rw [← Option.some.inj held'] at same
            exact absurd same (unkeyed one old held)
          · simp only [Function.update_of_ne isOne, Function.update_of_ne isOther] at held held'
            exact sound.keyed one other old new held held' same
    | publish => exact sound.keyed
    | certify => exact sound.keyed
  · have kept : ∀ name certificate, first.certificates name = some certificate →
        ∃ entry token, second.entries name = some entry ∧ token ∈ second.tokens ∧
          policy.supports token entry certificate := by
      intro name certificate held
      obtain ⟨entry, token, entered, published, supports⟩ := sound.supported name certificate held
      exact ⟨entry, token, grows.entries name entry entered, grows.tokens published, supports⟩
    cases step with
    | enter => exact kept
    | publish => exact kept
    | @certify name entry token certificate entered _ published supports =>
        intro other old held
        by_cases same : other = name
        · simp only [same, Function.update_self] at held
          rw [same, ← Option.some.inj held]
          exact ⟨entry, token, entered, published, supports⟩
        · simp only [Function.update_of_ne same] at held
          exact kept other old held

/-- Every notary that is reached from the empty one is sound. -/
theorem Reaches.sound (run : Reaches policy .empty second) : second.Sound policy := by
  induction run with
  | refl => exact .empty
  | tail _ step ih => exact ih.step step

end Notary

end CeramicAnchor.Storage
