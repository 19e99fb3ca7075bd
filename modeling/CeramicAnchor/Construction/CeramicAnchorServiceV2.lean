import CeramicAnchor.Storage.EventLog
import Mathlib.Logic.Function.Basic

/-
This file translates the contract that keeps the list of the anchor services.
-/

namespace CeramicAnchor
open Storage Storage.ContractCode

abbrev Address := BitVec 160

abbrev Bytes32 := BitVec 256

/-- The ownership library is external, and its events carry the previous and the new owner. -/
structure Ownable (Owner : Type) where
  owner : Owner → Address
  checkOwner : Owner → Address → Except String Unit
  transferOwnership : Owner → Address → Address → Except String (Owner × List (Address × Address))
  renounceOwnership : Owner → Address → Except String (Owner × List (Address × Address))

inductive CasEvent where
  | DidAddCas (service : Address)
  | DidRemoveCas (service : Address)
  | DidAnchor (service : Address) (root : Bytes32)
  | OwnershipTransferred (previousOwner newOwner : Address)
  deriving DecidableEq

structure CeramicAnchorServiceV2 (Owner : Type) where
  ownable : Owner
  allowList : Address → Bool

namespace CeramicAnchorServiceV2

variable {Owner : Type} (library : Ownable Owner) (sender : Address)

abbrev Body (Owner A : Type) := ContractCode (CeramicAnchorServiceV2 Owner) CasEvent A

def onlyOwner (body : Body Owner Unit) : Body Owner Unit := do
  let contract ← read
  external (library.checkOwner contract.ownable sender)
  body

def onlyAllowed (body : Body Owner Unit) : Body Owner Unit := do
  let contract ← read
  require (contract.allowList sender || sender == library.owner
    contract.ownable) "Allow List: caller is not allowed"
  body

def addCas (service : Address) : Body Owner Unit :=
  onlyOwner library sender do
    let contract ← read
    write { contract with allowList := Function.update contract.allowList service true }
    emit (.DidAddCas service)

/-- The owner removes any service, and an allowed service removes itself. -/
def removeCas (service : Address) : Body Owner Unit := do
  let contract ← read
  require (library.owner contract.ownable == sender || (contract.allowList sender && sender == service))
    "Caller is not allowed or the owner"
  write { contract with allowList := Function.update contract.allowList service false }
  emit (.DidRemoveCas service)

def isServiceAllowed (service : Address) : Body Owner Bool := do
  let contract ← read
  pure (contract.allowList service)

def anchorDagCbor (root : Bytes32) : Body Owner Unit :=
  onlyAllowed library sender do
    emit (.DidAnchor sender root)

/-- The library changes the owner and emits its events. -/
def changeOwner (change : Owner → Except String (Owner × List (Address × Address))) : Body Owner Unit := do
  let contract ← read
  let (ownable, transfers) ← external (change contract.ownable)
  write { contract with ownable := ownable }
  transfers.forM fun transfer => emit (.OwnershipTransferred transfer.1 transfer.2)

/-- These are the functions that a transaction can call. -/
inductive Call where
  | addCas (service : Address)
  | removeCas (service : Address)
  | isServiceAllowed (service : Address)
  | anchorDagCbor (root : Bytes32)
  | transferOwnership (newOwner : Address)
  | renounceOwnership

structure Transaction where
  sender : Address
  call : Call

def Transaction.code (transaction : Transaction) : Body Owner Unit :=
  match transaction.call with
  | .addCas service => addCas library transaction.sender service
  | .removeCas service => removeCas library transaction.sender service
  | .isServiceAllowed service => discard (isServiceAllowed service)
  | .anchorDagCbor root => anchorDagCbor library transaction.sender root
  | .transferOwnership newOwner => changeOwner fun owner =>
      library.transferOwnership owner transaction.sender newOwner
  | .renounceOwnership => changeOwner fun owner => library.renounceOwnership owner transaction.sender

/-- The constructor of the library sets the owner, and no service is allowed. -/
def deploy (owner : Owner) (transfers : List (Address × Address)) :
    Ledger (CeramicAnchorServiceV2 Owner) CasEvent :=
  ⟨⟨owner, fun _ => false⟩, transfers.map fun transfer => .OwnershipTransferred transfer.1 transfer.2⟩

end CeramicAnchorServiceV2

end CeramicAnchor
