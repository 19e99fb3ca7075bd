import CeramicAnchor.Construction.DidRoute

/-
This file translates the search of the gateway for the API key that it disables.
-/

namespace CeramicAnchor.DynamoDB.ApiGateway
open Concurrency

structure PatchOperation where
  op : String
  path : String
  value : String
  deriving DecidableEq, Repr

/-- The gateway lists a key with its identifier, and with its value where it is asked for values. -/
structure ListedKey where
  id : Option String
  name : String
  enabled : Bool
  value : Option String
  deriving DecidableEq, Repr

inductive GatewayOp where
  | getApiKeys (limit : Nat) (nameQuery : String) (includeValues : Bool)
  | updateApiKey (apiKey : String) (patchOperations : List PatchOperation)

/-- A page may come without items. -/
abbrev GatewayOp.Reply : GatewayOp → Type
  | .getApiKeys _ _ _ => Option (List ListedKey)
  | .updateApiKey _ _ => ListedKey

abbrev GatewayCode (A : Type) := Prog GatewayOp GatewayOp.Reply String A

def limit : Nat := 100

/-- Every round asks for the first page, for no position is passed on. -/
def search (name value : String) : Nat → GatewayCode (Option ListedKey)
  | 0 => .halted
  | fuel + 1 => do
      let out : Option (List ListedKey) ← Prog.call (GatewayOp.getApiKeys limit name true)
      match out with
      | none => pure none
      | some items =>
          match items.find? fun item => item.value = some value with
          | some found => pure (some found)
          | none => if items.length < limit then pure none else search name value fuel

def disable (apiKey : String) : GatewayCode ListedKey :=
  Prog.call (GatewayOp.updateApiKey apiKey [⟨"replace", "/enabled", "false"⟩])

/-- A key that is not found, or that has no identifier, is left alone. -/
def disableApiKey (fuel : Nat) (name value : String) : GatewayCode (Option ListedKey) := do
  let found ← search name value fuel
  match found.bind fun item => item.id.filter fun id => id ≠ "" with
  | none => pure none
  | some id => do
      let updated ← disable id
      pure (some updated)

section Service

/-- The keys of the gateway stand in the order of its pages, each under an identifier of its own. -/
structure Gateway where
  keys : List (String × ApiKey)
  distinct : (keys.map Prod.fst).Nodup
  named : "" ∉ keys.map Prod.fst

def PatchOperation.apply (patch : PatchOperation) (key : ApiKey) : ApiKey :=
  if patch.op = "replace" ∧
      patch.path = "/enabled" then { key with enabled := decide (patch.value = "true") } else key

def patched (patches : List PatchOperation) (key : ApiKey) : ApiKey :=
  patches.foldl (fun key patch => patch.apply key) key

/-- Only the key with the identifier changes. -/
def updateAt (id : String) (change : ApiKey → ApiKey) (entry : String × ApiKey) : String × ApiKey :=
  (entry.1, if entry.1 = id then change entry.2 else entry.2)

theorem updateAt_ids (id : String) (change : ApiKey → ApiKey) (keys : List (String × ApiKey)) :
    (keys.map (updateAt id change)).map Prod.fst = keys.map Prod.fst := by
  rw [List.map_map]
  rfl

def Gateway.update (gateway : Gateway) (id : String) (change : ApiKey → ApiKey) : Gateway where
  keys := gateway.keys.map (updateAt id change)
  distinct := by rw [updateAt_ids]; exact gateway.distinct
  named := by rw [updateAt_ids]; exact gateway.named

def listed (includeValues : Bool) (entry : String × ApiKey) : ListedKey where
  id := some entry.1
  name := entry.2.name
  enabled := entry.2.enabled
  value := if includeValues then some entry.2.value else none

/-- Which names a query matches is up to the gateway. -/
def Gateway.matching (gateway : Gateway) (matches_ : String → String → Bool) (nameQuery : String) :
    List (String × ApiKey) :=
  gateway.keys.filter fun entry => matches_ nameQuery entry.2.name

/-- Without a position, the gateway returns the first page. -/
def answer (matches_ : String → String → Bool) :
    (op : GatewayOp) → Gateway → Except String op.Reply × Gateway
  | .getApiKeys limit nameQuery includeValues, gateway =>
      (.ok (some (((gateway.matching matches_ nameQuery).take limit).map (listed includeValues))), gateway)
  | .updateApiKey id patches, gateway =>
      match gateway.keys.lookup id with
      | none => (.error "Invalid API Key identifier specified", gateway)
      | some key => (.ok (listed false (id, patched patches key)), gateway.update id (patched patches))

end Service

end CeramicAnchor.DynamoDB.ApiGateway
