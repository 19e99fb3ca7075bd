import CeramicAnchor.Construction.ApiGateway
import Mathlib.Data.List.Nodup

/-
This file says when the search for an API key ends and disables the key that it is asked for.
-/

namespace CeramicAnchor.DynamoDB.ApiGateway
open Concurrency

variable {matches_ : String → String → Bool} {gateway : Gateway} {name value : String}

/-- The first page, which every round of the search asks for. -/
def firstPage (matches_ : String → String → Bool) (gateway : Gateway) (name : String) :
    List (String × ApiKey) :=
  (gateway.matching matches_ name).take limit

/-- The key has a matching name and the value. -/
def Wanted (matches_ : String → String → Bool) (name value : String) (entry : String × ApiKey) : Prop :=
  matches_ name entry.2.name = true ∧ entry.2.value = value

/-- The call ends, and if there is a wanted key then exactly that key is disabled. -/
def FindsKey (matches_ : String → String → Bool) (gateway : Gateway) (name value : String) : Prop :=
  ∃ fuel result after, (disableApiKey fuel name value).alone (answer matches_) gateway =
  some (result, after) ∧
    ((∃ entry ∈ gateway.keys, Wanted matches_ name value entry) →
      ∃ entry ∈ gateway.keys, Wanted matches_ name value entry ∧
        after.keys = gateway.keys.map (updateAt entry.1 fun key => { key with enabled := false }))

theorem find_listed (entries : List (String × ApiKey)) :
    (entries.map (listed true)).find? (fun item => item.value = some value) =
      (entries.find? fun entry => entry.2.value = value).map (listed true) := by
  rw [List.find?_map]
  simp only [Function.comp_def, listed, if_true, Option.some.injEq]

theorem short_page : ((firstPage matches_ gateway name).map (listed true)).length < limit ↔
    (gateway.matching matches_ name).length < limit := by
  rw [List.length_map, firstPage, List.length_take]
  omega

/-- A round ends with a hit or on a short page, and otherwise it leads to the same round. -/
theorem search_step (fuel : Nat) {A : Type} (rest : Option ListedKey → GatewayCode A) :
    (search name value (fuel + 1) >>= rest).alone (answer matches_) gateway =
      match (firstPage matches_ gateway name).find? fun entry => entry.2.value = value with
      | some entry => (rest (some (listed true entry))).alone (answer matches_) gateway
      | none =>
          if (gateway.matching matches_ name).length < limit then (rest none).alone (answer matches_) gateway
          else (search name value fuel >>= rest).alone (answer matches_) gateway := by
  have hit := @find_listed value (firstPage matches_ gateway name)
  rw [search]
  change Prog.alone _ (Prog.bind (Prog.bind
    (.done (some ((firstPage matches_ gateway name).map (listed true)))) _) rest) gateway = _
  dsimp only [Prog.bind]
  rw [hit]
  cases (firstPage matches_ gateway name).find? fun entry => entry.2.value = value with
  | some entry => rfl
  | none =>
      simp only [Option.map_none, short_page]
      split <;> rfl

/-- An entry is looked up under its identifier, since no other has it. -/
theorem lookup_entry {keys : List (String × ApiKey)} (distinct : (keys.map Prod.fst).Nodup)
    {entry : String × ApiKey} (member : entry ∈ keys) : keys.lookup entry.1 = some entry.2 := by
  induction keys with
  | nil => cases member
  | cons head tail ih =>
      rw [List.map_cons, List.nodup_cons] at distinct
      rcases List.mem_cons.mp member with rfl | member
      · exact List.lookup_cons_self
      · have other : (entry.1 == head.1) = false := by
          refine beq_false_of_ne fun same => distinct.1 ?_
          rw [← same]
          exact List.mem_map_of_mem member
        rw [List.lookup_cons, other]
        exact ih distinct.2 member

theorem disable_found {entry : String × ApiKey} (stored : entry ∈ gateway.keys)
    (found : ((firstPage matches_ gateway name).find? fun entry => entry.2.value = value) = some entry) :
    ∃ result after, (disableApiKey 1 name value).alone (answer matches_) gateway = some (result, after) ∧
      after.keys = gateway.keys.map (updateAt entry.1 fun key => { key with enabled := false }) := by
  have named : entry.1 ≠ "" := fun empty => gateway.named (empty ▸ List.mem_map_of_mem stored)
  have kept :
      (some (listed true entry)).bind (fun item => item.id.filter fun id => id ≠ "") = some entry.1 := by
    simp [listed, named]
  rw [disableApiKey, search_step, found]
  dsimp only
  rw [kept]
  simp only [disable, Prog.call, Prog.ask_bind, Prog.alone, answer, lookup_entry gateway.distinct stored]
  exact ⟨_, _, rfl, rfl⟩

theorem disable_missing
    (absent : ((firstPage matches_ gateway name).find? fun entry => entry.2.value = value) = none)
    (short : (gateway.matching matches_ name).length < limit) :
    (disableApiKey 1 name value).alone (answer matches_) gateway = some (.ok none, gateway) := by
  rw [disableApiKey, search_step, absent]
  dsimp only
  rw [if_pos short]
  rfl

/-- A full page without the key is asked for again and again. -/
theorem disable_diverges
    (absent : ((firstPage matches_ gateway name).find? fun entry => entry.2.value = value) = none)
    (full : ¬ (gateway.matching matches_ name).length < limit) (fuel : Nat) :
    (disableApiKey fuel name value).alone (answer matches_) gateway = none := by
  induction fuel with
  | zero => rfl
  | succ fuel ih =>
      rw [disableApiKey, search_step, absent]
      dsimp only
      rw [if_neg full]
      exact ih

/-- The search finds the key when fewer keys match than a page holds, or when the first page has it. -/
theorem key_found_iff (matches_ : String → String → Bool) (gateway : Gateway) (name value : String) :
    FindsKey matches_ gateway name value ↔
      (gateway.matching matches_ name).length < limit ∨
        ∃ entry ∈ (gateway.matching matches_ name).take limit, entry.2.value = value := by
  cases found : (firstPage matches_ gateway name).find? fun entry => entry.2.value = value with
  | some entry =>
      have member := List.mem_of_find?_eq_some found
      have hit := List.find?_some found
      have same : entry.2.value = value := of_decide_eq_true hit
      refine iff_of_true ?_ (.inr ⟨entry, member, same⟩)
      obtain ⟨stored, matching⟩ := List.mem_filter.mp (List.mem_of_mem_take member)
      obtain ⟨result, after, ends, keys⟩ := disable_found stored found
      exact ⟨1, result, after, ends, fun _ => ⟨entry, stored, ⟨matching, same⟩, keys⟩⟩
  | none =>
      have absent : ∀ entry ∈ firstPage matches_ gateway name, entry.2.value ≠ value := by
        simpa using List.find?_eq_none.mp found
      by_cases short : (gateway.matching matches_ name).length < limit
      · refine iff_of_true ⟨1, _, _, disable_missing found short, ?_⟩ (.inl short)
        rintro ⟨entry, stored, matching, same⟩
        refine absurd same (absent entry ?_)
        rw [firstPage, List.take_of_length_le short.le]
        exact List.mem_filter.mpr ⟨stored, matching⟩
      · refine iff_of_false ?_ ?_
        · rintro ⟨fuel, result, after, ends, _⟩
          rw [disable_diverges found short] at ends
          cases ends
        · rintro (few | ⟨entry, member, same⟩)
          · exact short few
          · exact absent entry member same

/-- The numbered text is longer for a larger number. -/
def numbered (text : String) (index : Nat) : String := text ++ String.ofList (List.replicate index 'a')

theorem numbered_injective (text : String) : Function.Injective (numbered text) := by
  intro first second same
  have letters := String.ofList_injective ((String.append_right_inj text).mp same)
  have lengths := congrArg List.length letters
  rwa [List.length_replicate, List.length_replicate] at lengths

def aliceKey (index : Nat) : String × ApiKey :=
  (numbered "id" index, ⟨"alice@example.com", true, numbered "did:key:z6Mk" index⟩)

/-- One email has more keys than a page holds. -/
def crowdedGateway : Gateway where
  keys := (List.range 101).map aliceKey
  distinct := by
    rw [List.map_map]
    exact List.nodup_range.map (numbered_injective "id")
  named := by
    rw [List.map_map]
    intro member
    obtain ⟨index, _, empty⟩ := List.mem_map.mp member
    have chars := congrArg String.toList empty
    simp [aliceKey, numbered] at chars

theorem key_never_found : ¬ ∀ (matches_ : String → String → Bool) (gateway : Gateway) (name value : String),
    FindsKey matches_ gateway name value := by
  intro claim
  obtain ⟨fuel, result, after, ends, _⟩ := claim (fun query name => query = name) crowdedGateway
    "alice@example.com" (numbered "did:key:z6Mk" 100)
  have all : crowdedGateway.matching (fun query name => query = name) "alice@example.com" =
      (List.range 101).map aliceKey := by
    refine List.filter_eq_self.mpr fun entry member => ?_
    obtain ⟨index, _, rfl⟩ := List.mem_map.mp member
    rfl
  have full :
      ¬ (crowdedGateway.matching (fun query name => query = name) "alice@example.com").length < limit := by
    rw [all, List.length_map, List.length_range]
    decide
  have absent : ((firstPage (fun query name => query = name) crowdedGateway "alice@example.com").find?
      fun entry => entry.2.value = numbered "did:key:z6Mk" 100) = none := by
    rw [List.find?_eq_none, firstPage, all, ← List.map_take, List.take_range]
    intro entry member hit
    obtain ⟨index, small, rfl⟩ := List.mem_map.mp member
    have same := numbered_injective _ (of_decide_eq_true hit)
    rw [same] at small
    exact absurd (List.mem_range.mp small) (by decide)
  rw [disable_diverges absent full] at ends
  cases ends

end CeramicAnchor.DynamoDB.ApiGateway
