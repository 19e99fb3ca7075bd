import CeramicAnchor.Concurrency.RelyGuarantee
import CeramicAnchor.Construction.Models
import CeramicAnchor.Encoding.Text

/-
This file translates the Ethereum service, which prices, submits and confirms the transaction of a batch.
-/

namespace CeramicAnchor
open Concurrency

namespace EthereumBlockchainService

/-- These are the codes that the service tells apart. -/
inductive ErrorCode where
  | INSUFFICIENT_FUNDS
  | TIMEOUT
  | NONCE_EXPIRED
  deriving DecidableEq, Repr

/-- Any other code is left out, like the code of an error that has none. -/
structure EthereumError where
  code : Option ErrorCode
  message : String
  deriving DecidableEq, Repr

def EthereumError.thrown (message : String) : EthereumError := ⟨none, message⟩

/-- A big number is an integer, and a provider may leave out each estimate. -/
structure FeeData where
  maxFeePerGas : Option Int
  maxPriorityFeePerGas : Option Int
  gasPrice : Option Int
  deriving DecidableEq, Repr

structure TransactionRequest where
  toAddress : String
  data : String
  nonce : Nat
  fromAddress : String
  maxPriorityFeePerGas : Option Int
  maxFeePerGas : Option Int
  gasPrice : Option Int
  gasLimit : Option Int
  deriving DecidableEq, Repr

structure TransactionResponse where
  hash : String
  chainId : Nat
  deriving DecidableEq, Repr

structure TransactionReceipt where
  byzantium : Bool
  status : Option Int
  transactionHash : String
  blockNumber : Nat
  blockHash : String
  deriving DecidableEq, Repr

/-- These are the operations that the wallet, its provider and the contract answer. -/
inductive EthereumOp where
  | getTransactionCount (address : String)
  | anchorDagCbor (hexEncoded : String)
  | getBalance (address : String)
  | getFeeData
  | estimateGas (txData : TransactionRequest)
  | sendTransaction (txData : TransactionRequest)
  | waitForTransaction (hash : String) (confirmations timeout : Nat)
  | getBlock (blockHash : String)
  | delay (milliseconds : Nat)
  deriving DecidableEq, Repr

/-- A block is given by its timestamp, and the provider may not find it. -/
abbrev EthereumOp.Reply : EthereumOp → Type
  | .getTransactionCount _ => Nat
  | .anchorDagCbor _ => String
  | .getBalance _ => Int
  | .getFeeData => FeeData
  | .estimateGas _ => Int
  | .sendTransaction _ => TransactionResponse
  | .waitForTransaction _ _ _ => TransactionReceipt
  | .getBlock _ => Option Nat
  | .delay _ => Unit

abbrev EthereumCode (A : Type) := Prog EthereumOp EthereumOp.Reply EthereumError A

/-- The texts of a CID and the encoding of the contract call are external. -/
structure EthereumFormats where
  toBase16 : Cid → String
  toBytes : Cid → List UInt8
  encodeAnchorDagCbor : String → String

end EthereumBlockchainService

open EthereumBlockchainService

/-- An absent chain id means that the service has not connected. -/
structure EthereumBlockchainService where
  chainId : Option Nat
  transactionTimeoutSecs : Nat
  overrideGasConfig : Bool
  gasLimit : Int
  useSmartContractAnchors : Bool
  contractAddress : String
  walletAddress : String

namespace EthereumBlockchainService

def TX_FAILURE : Int := 0

def NUM_BLOCKS_TO_WAIT : Nat := 4

def MAX_RETRIES : Nat := 3

/-- The text of a big number has an even number of digits. -/
def toHexString (value : Int) : String :=
  let digits := String.ofList (Nat.toDigits 16 value.natAbs)
  let padded := if digits.length % 2 = 0 then digits else "0" ++ digits
  (if value < 0 then "-0x" else "0x") ++ padded

def caipChainId (chainId : Nat) : String := s!"eip155:{chainId}"

/-- The loop hands the variables of the operation from one attempt to the next. -/
def attemptFrom {S A : Type} (operation : Nat → S → EthereumCode (S × Option A)) :
    (remaining attempt : Nat) → S → EthereumCode A
  | 0, _, _ => throw (.thrown "Failed to send transaction")
  | remaining + 1, attempt, locals => do
      let (changed, result) ← operation attempt locals
      match result with
      | some value => pure value
      | none => do
          Prog.call (EthereumOp.delay 5000)
          attemptFrom operation remaining (attempt + 1) changed

def attempt {S A : Type} (max : Nat) (operation : Nat → S → EthereumCode (S × Option A)) (locals : S) :
    EthereumCode A :=
  attemptFrom operation max 0 locals

def handleInsufficientFundsError (txData : TransactionRequest) (walletBalance : Int) :
    Except EthereumError Unit :=
  match txData.gasLimit with
  | none => .error (.thrown "Cannot read properties of undefined (reading 'mul')")
  | some gasLimit => match txData.maxFeePerGas with
    | none => .error (.thrown "invalid BigNumber value")
    | some maxFeePerGas =>
        let txCost := gasLimit * maxFeePerGas
        if walletBalance < txCost then
          let cost := toHexString txCost
          let balance := toHexString walletBalance
          .error (.thrown
            s!"Transaction cost is greater than our current balance. [txCost: {cost}, balance: {balance}]")
        else .ok ()

/-- The division of big numbers rounds toward zero. -/
def increaseGasPricePerAttempt (estimate : Int) (attempt : Nat) (previousGas : Option Int) : Int :=
  let increase := estimate.tdiv 10 * attempt
  let increaseEstimate := estimate + increase
  match previousGas with
  | none => increaseEstimate
  | some previous =>
      if attempt = 0 then increaseEstimate
      else
        let increaseTransaction := previous + previous.tdiv 10
        if increaseTransaction < increaseEstimate then increaseEstimate else increaseTransaction

/-- A transaction has the two fees of EIP-1559 where both are estimated, and a gas price otherwise. -/
def setFees (txData : TransactionRequest) (feeData : FeeData) (attempt : Nat) :
    Except EthereumError TransactionRequest :=
  match feeData.maxPriorityFeePerGas, feeData.maxFeePerGas with
  | some maxPriorityFeePerGas, some maxFeePerGas =>
      let prevPriorityFee := txData.maxPriorityFeePerGas.getD maxPriorityFeePerGas
      let nextPriorityFee := increaseGasPricePerAttempt maxPriorityFeePerGas attempt (some prevPriorityFee)
      let baseFee := maxFeePerGas - maxPriorityFeePerGas
      .ok { txData with
        maxPriorityFeePerGas := some nextPriorityFee
        maxFeePerGas := some (baseFee + nextPriorityFee) }
  | _, _ => match feeData.gasPrice with
    | none => .error (.thrown "Unavailable gas price for pre-EIP-1559 transaction")
    | some feeDataGasPrice =>
        let prevGasPrice := txData.gasPrice.getD feeDataGasPrice
        .ok { txData with
          gasPrice := some (increaseGasPricePerAttempt feeDataGasPrice attempt (some prevGasPrice)) }

variable (service : EthereumBlockchainService) (formats : EthereumFormats)

/-- The request is changed in place, so the fees stay when the gas estimate is rejected. -/
def setGasPrice (txData : TransactionRequest) (attempt : Nat) :
    EthereumCode (TransactionRequest × Except EthereumError Unit) :=
  if service.overrideGasConfig then
    pure ({ txData with gasLimit := some service.gasLimit }, .ok ())
  else do
    let estimated : Except EthereumError FeeData ← (Prog.call EthereumOp.getFeeData).attempt
    match estimated with
    | .error err => pure (txData, .error err)
    | .ok feeData => match setFees txData feeData attempt with
      | .error err => pure (txData, .error err)
      | .ok priced => do
          let gas : Except EthereumError Int ← (Prog.call (EthereumOp.estimateGas priced)).attempt
          match gas with
          | .error err => pure (priced, .error err)
          | .ok gasLimit => pure ({ priced with gasLimit := some gasLimit }, .ok ())

/-- Without a contract the whole CID is the data, and the contract takes the digest of the CID. -/
def buildTransactionRequest (rootCid : Cid) : EthereumCode TransactionRequest := do
  let baseNonce : Nat ← Prog.call (EthereumOp.getTransactionCount service.walletAddress)
  if ¬ service.useSmartContractAnchors then
    let rootStrHex := formats.toBase16 rootCid
    let hexEncoded := "0x" ++ (if rootStrHex.length % 2 = 0 then rootStrHex else "0" ++ rootStrHex)
    pure ⟨service.walletAddress, hexEncoded, baseNonce, service.walletAddress, none, none, none, none⟩
  else do
    let hexEncoded := "0x" ++ base16 ((formats.toBytes rootCid).drop 4)
    let data : String ← Prog.call (EthereumOp.anchorDagCbor hexEncoded)
    pure ⟨service.contractAddress, data, baseNonce, service.walletAddress, none, none, none, none⟩

/-- The chain id zero counts as absent. -/
def loadedChainId : Except EthereumError Nat :=
  match service.chainId with
  | none => .error (.thrown "No chainId available")
  | some chainId => if chainId = 0 then .error (.thrown "No chainId available") else .ok chainId

def assertSameChainId (actual expected : Nat) : Except EthereumError Unit :=
  if actual ≠ expected then
    let expectedId := caipChainId expected
    let actualId := caipChainId actual
    .error (.thrown s!"Chain ID of connected blockchain changed from {expectedId} to {actualId}")
  else .ok ()

def ofExcept {A : Type} : Except EthereumError A → EthereumCode A
  | .ok value => pure value
  | .error error => throw error

def trySendTransaction (txData : TransactionRequest) : EthereumCode TransactionResponse := do
  let txResponse : TransactionResponse ← Prog.call (EthereumOp.sendTransaction txData)
  let chainId ← ofExcept service.loadedChainId
  ofExcept (assertSameChainId txResponse.chainId chainId)
  pure txResponse

/-- A receipt from before the Byzantium fork has no status. -/
def TransactionReceipt.failed (receipt : TransactionReceipt) : Bool :=
  receipt.byzantium && receipt.status == some TX_FAILURE

def confirmTransactionSuccess (txResponse : TransactionResponse) : EthereumCode Transaction := do
  let txReceipt :
      TransactionReceipt ← Prog.call (EthereumOp.waitForTransaction txResponse.hash NUM_BLOCKS_TO_WAIT
    (service.transactionTimeoutSecs * 1000))
  let block : Option Nat ← Prog.call (EthereumOp.getBlock txReceipt.blockHash)
  if txReceipt.failed then throw (.thrown "Transaction completed with a failure status")
  else do
    let chainId ← ofExcept service.loadedChainId
    match block with
    | none => throw (.thrown "Cannot read properties of null (reading 'timestamp')")
    | some timestamp =>
        pure ⟨caipChainId chainId, txReceipt.transactionHash, txReceipt.blockNumber, timestamp⟩

/-- The responses come from the last one to the first one. -/
def checkResponses : List TransactionResponse → EthereumCode Transaction
  | [] => throw (.thrown "Failed to confirm any previous transaction attempts")
  | txResponse :: earlier => do
      let confirmed ← (confirmTransactionSuccess service txResponse).attempt
      match confirmed with
      | .ok transaction => pure transaction
      | .error _ => checkResponses earlier

def checkForPreviousTransactionSuccess (txResponses : List TransactionResponse) : EthereumCode Transaction :=
  checkResponses service txResponses.reverse

/-- These variables live as long as all attempts. -/
structure Sending where
  txData : TransactionRequest
  txResponses : List TransactionResponse

/-- The handler decides by the code of the error whether another attempt follows. -/
def handleError (walletBalance : Int) (attemptNum : Nat) (sending : Sending) (err : EthereumError) :
    EthereumCode (Sending × Option Transaction) :=
  match err.code with
  | some .INSUFFICIENT_FUNDS => do
      ofExcept (handleInsufficientFundsError sending.txData walletBalance)
      pure (sending, none)
  | some .TIMEOUT => pure (sending, none)
  | some .NONCE_EXPIRED =>
      if attemptNum = 0 ∨ sending.txResponses.length = 0 then throw err
      else do
        let transaction ← checkForPreviousTransactionSuccess service sending.txResponses
        pure (sending, some transaction)
  | none => pure (sending, none)

def sendAttempt (walletBalance : Int) (attemptNum : Nat) (sending : Sending) :
    EthereumCode (Sending × Option Transaction) := do
  let (txData, priced) ← setGasPrice service sending.txData attemptNum
  match priced with
  | .error err => handleError service walletBalance attemptNum { sending with txData := txData } err
  | .ok _ => do
      let sent ← (trySendTransaction service txData).attempt
      match sent with
      | .error err => handleError service walletBalance attemptNum { sending with txData := txData } err
      | .ok txResponse => do
          let recorded : Sending := ⟨txData, sending.txResponses ++ [txResponse]⟩
          let confirmed ← (confirmTransactionSuccess service txResponse).attempt
          match confirmed with
          | .error err => handleError service walletBalance attemptNum recorded err
          | .ok transaction => pure (recorded, some transaction)

def withWalletBalance {A : Type} (operation : Int → EthereumCode A) : EthereumCode A := do
  let startingWalletBalance : Int ← Prog.call (EthereumOp.getBalance service.walletAddress)
  let result ← operation startingWalletBalance
  let _endingWalletBalance : Int ← Prog.call (EthereumOp.getBalance service.walletAddress)
  pure result

def sendTransaction (rootCid : Cid) : EthereumCode Transaction := do
  let txData ← buildTransactionRequest service formats rootCid
  withWalletBalance service fun walletBalance =>
    attempt MAX_RETRIES (sendAttempt service walletBalance) ⟨txData, []⟩

/-- A receipt is that of its transaction, the contract encodes its argument, and anything else may be
answered. -/
def Answers : (op : EthereumOp) → Except EthereumError op.Reply → Prop
  | .waitForTransaction hash _ _, .ok receipt => (receipt : TransactionReceipt).transactionHash = hash
  | .anchorDagCbor hexEncoded, .ok data => (data : String) = formats.encodeAnchorDagCbor hexEncoded
  | .delay _, .error _ => False
  | _, _ => True

/-- The service shares no state with the node, which decides on every answer. -/
def node : Setting EthereumOp EthereumOp.Reply EthereumError Unit where
  perform op _ reply _ := Answers formats op reply
  rely _ _ := True
  rely_refl _ := trivial
  rely_trans _ _ := trivial

abbrev EthereumEvent := Event EthereumOp EthereumOp.Reply EthereumError Unit

end EthereumBlockchainService

end CeramicAnchor
