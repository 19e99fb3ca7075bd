import CeramicAnchor.Construction.EthereumBlockchainService
import CeramicAnchor.Proof.Confinement
import Mathlib.Data.List.Induction

/-
This file proves that the transaction of a batch carries the root of its tree, whatever the node answers.
-/

namespace CeramicAnchor.EthereumBlockchainService
open Concurrency Storage

section Trace

variable (service : EthereumBlockchainService) (formats : EthereumFormats)

/-- Without a contract the whole CID is the data, and the contract takes the digest of the CID. -/
def calldata (rootCid : Cid) : String :=
  if service.useSmartContractAnchors then
    formats.encodeAnchorDagCbor ("0x" ++ base16 ((formats.toBytes rootCid).drop 4))
  else
    let rootStrHex := formats.toBase16 rootCid
    "0x" ++ (if rootStrHex.length % 2 = 0 then rootStrHex else "0" ++ rootStrHex)

def recipient : String :=
    if service.useSmartContractAnchors then service.contractAddress else service.walletAddress

/-- The transactions that were handed to the wallet, also those that it rejected. -/
def submissions (trace : List EthereumEvent) : List TransactionRequest :=
  trace.filterMap fun event => match event with
    | ⟨.sendTransaction txData, _, _, _⟩ => some txData
    | _ => none

/-- The responses that the call keeps are those from the connected chain. -/
def recorded (trace : List EthereumEvent) : List TransactionResponse :=
  trace.filterMap fun event => match event with
    | ⟨.sendTransaction _, _, .ok txResponse, _⟩ =>
        if service.loadedChainId = .ok txResponse.chainId then some txResponse else none
    | _ => none

/-- The call waits after every attempt that has not ended it. -/
def attemptsMade (trace : List EthereumEvent) : Nat :=
  (trace.filterMap fun event => match event with
    | ⟨.delay _, _, _, _⟩ => some ()
    | _ => none).length

def waiting (hash : String) : EthereumOp :=
  .waitForTransaction hash NUM_BLOCKS_TO_WAIT (service.transactionTimeoutSecs * 1000)

def received (hash : String) (receipt : TransactionReceipt) : EthereumEvent :=
  ⟨waiting service hash, (), .ok receipt, ()⟩

def blockRead (receipt : TransactionReceipt) (timestamp : Nat) : EthereumEvent :=
  ⟨.getBlock receipt.blockHash, (), .ok (some timestamp), ()⟩

/-- The receipt and its block give this transaction, unless the receipt reports a failure. -/
def Confirmed (receipt : TransactionReceipt) (timestamp : Nat) (tx : Transaction) : Prop :=
  receipt.failed = false ∧ ∃ chainId, service.loadedChainId = .ok chainId ∧
    tx = ⟨caipChainId chainId, receipt.transactionHash, receipt.blockNumber, timestamp⟩

/-- The receipt of the response arrives and then the block of the receipt. -/
def Confirms (txResponse : TransactionResponse) (tx : Transaction) (trace : List EthereumEvent) : Prop :=
  ∃ front receipt timestamp back,
    trace = front ++ received service txResponse.hash receipt :: blockRead receipt timestamp :: back ∧
    Confirmed service receipt timestamp tx

def Unconfirmed (trace : List EthereumEvent) : Prop := ∀ txResponse tx, ¬ Confirms service txResponse tx trace

def Asked (txResponse : TransactionResponse) (trace : List EthereumEvent) : Prop :=
  ∃ event ∈ trace, event.op = waiting service txResponse.hash

def Expired (event : EthereumEvent) : Prop :=
  ∃ error, event.reply = .error error ∧ error.code = some .NONCE_EXPIRED

def Calm (trace : List EthereumEvent) : Prop := ∀ event ∈ trace, ¬ Expired event

/-- An error with the code of an expired nonce comes from the latest event. -/
def Heard (err : EthereumError) (trace : List EthereumEvent) : Prop :=
  (err.code ≠ some .NONCE_EXPIRED ∧ Calm trace) ∨
    (err.code = some .NONCE_EXPIRED ∧ ∃ front event, trace = front ++ [event] ∧ Expired event ∧ Calm front)

/-- A transaction is submitted with the nonce of the first event, and never after an expired nonce. -/
def Submits (rootCid : Cid) (op : EthereumOp) (before : Unit × List EthereumEvent)
    (_ : Except EthereumError op.Reply) (_ : Unit × List EthereumEvent) : Prop :=
  ∀ txData, op = .sendTransaction txData → (submissions before.2).length < MAX_RETRIES ∧ Calm before.2 ∧
    txData.toAddress = recipient service ∧ txData.data = calldata service formats rootCid ∧
    before.2.head? = some ⟨.getTransactionCount service.walletAddress, (), .ok txData.nonce, ()⟩

/-- The variables of the call agree with what has happened. -/
structure Running (rootCid : Cid) (submitted attempt : Nat) (sending : Sending) (trace : List EthereumEvent) :
    Prop where
  started : trace.head? =
    some ⟨.getTransactionCount service.walletAddress, (), .ok sending.txData.nonce, ()⟩
  toAddress : sending.txData.toAddress = recipient service
  data : sending.txData.data = calldata service formats rootCid
  responses : recorded service trace = sending.txResponses
  submitted : (submissions trace).length ≤ submitted
  attempts : attemptsMade trace = attempt

/-- The transaction is confirmed by a response of this call, and by an earlier one after an expired nonce. -/
def Sent (tx : Transaction) (trace : List EthereumEvent) : Prop :=
  (∃ txResponse ∈ recorded service trace, Confirms service txResponse tx trace) ∧
    ∀ front event back, trace = front ++ event :: back → Expired event → Calm front →
      ∃ txResponse ∈ recorded service front, Confirms service txResponse tx back

/-- Nothing is confirmed, and after an expired nonce every response has been asked for. -/
def Lost (trace : List EthereumEvent) : Prop :=
  Unconfirmed service trace ∧ ∀ front event back, trace = front ++ event :: back → Expired event →
  Calm front →
    1 ≤ attemptsMade front → recorded service front ≠ [] →
      ∀ txResponse ∈ recorded service front, Asked service txResponse back

def ClosingFails (trace : List EthereumEvent) : Prop :=
  ∃ front error, trace = front ++ [⟨.getBalance service.walletAddress, (), .error error, ()⟩]

end Trace

section Steps

variable {service : EthereumBlockchainService} {formats : EthereumFormats} {rootCid : Cid}
  {trace : List EthereumEvent}

theorem submissions_append (trace later : List EthereumEvent) :
    submissions (trace ++ later) = submissions trace ++ submissions later := List.filterMap_append

theorem recorded_append (service : EthereumBlockchainService) (trace later : List EthereumEvent) :
    recorded service (trace ++ later) = recorded service trace ++ recorded service later :=
    List.filterMap_append

theorem attemptsMade_append (trace later : List EthereumEvent) :
    attemptsMade (trace ++ later) = attemptsMade trace + attemptsMade later := by
  rw [attemptsMade, List.filterMap_append, List.length_append]
  rfl

/-- These operations neither submit a transaction nor end an attempt. -/
def EthereumOp.Neutral : EthereumOp → Prop
  | .sendTransaction _ => False
  | .delay _ => False
  | _ => True

theorem EthereumOp.Neutral.counts {op : EthereumOp} (neutral : op.Neutral)
    (reply : Except EthereumError op.Reply) :
    submissions [⟨op, (), reply, ()⟩] = [] ∧ recorded service [⟨op, (), reply, ()⟩] = [] ∧
      attemptsMade [⟨op, (), reply, ()⟩] = 0 := by
  cases op <;> first | exact ⟨rfl, rfl, rfl⟩ | cases neutral

theorem EthereumOp.Neutral.submits {op : EthereumOp} (neutral : op.Neutral)
    {before : Unit × List EthereumEvent}
    {reply : Except EthereumError op.Reply} {after : Unit × List EthereumEvent} :
    Submits service formats rootCid op before reply after := by
  rintro txData rfl
  cases neutral

theorem Running.concat {submitted attempt : Nat} {sending : Sending}
    (running : Running service formats rootCid submitted attempt sending trace) {op : EthereumOp}
    (neutral : op.Neutral) (reply : Except EthereumError op.Reply) :
    Running service formats rootCid submitted attempt sending (trace ++ [⟨op, (), reply, ()⟩]) := by
  have ⟨noSubmission, noResponse, noAttempt⟩ := @EthereumOp.Neutral.counts service op neutral reply
  refine ⟨?_, running.toAddress, running.data, ?_, ?_, ?_⟩
  · rw [List.head?_append, running.started]
    rfl
  · rw [recorded_append, noResponse, List.append_nil]
    exact running.responses
  · rw [submissions_append, noSubmission, List.append_nil]
    exact running.submitted
  · rw [attemptsMade_append, noAttempt]
    exact running.attempts

/-- Only a block that follows its receipt confirms a transaction. -/
theorem Unconfirmed.concat (unconfirmed : Unconfirmed service trace) {event : EthereumEvent}
    (unread : ∀ front hash receipt timestamp tx, trace = front ++ [received service hash receipt] →
      event = blockRead receipt timestamp → ¬ Confirmed service receipt timestamp tx) :
    Unconfirmed service (trace ++ [event]) := by
  rintro txResponse tx ⟨front, receipt, timestamp, back, same, confirmed⟩
  rcases List.eq_nil_or_concat back with rfl | ⟨back, last, rfl⟩
  · have same : trace ++ [event] = (front ++ [received service txResponse.hash receipt]) ++
        [blockRead receipt timestamp] := by simpa using same
    obtain ⟨same, last⟩ := List.append_inj' same rfl
    exact unread front _ receipt timestamp tx same (by simpa using last) confirmed
  · have same : trace ++ [event] = (front ++ received service txResponse.hash receipt ::
        blockRead receipt timestamp :: back) ++ [last] := by simpa using same
    exact unconfirmed txResponse tx
      ⟨front, receipt, timestamp, back, (List.append_inj' same rfl).1, confirmed⟩

theorem Unconfirmed.other (unconfirmed : Unconfirmed service trace) {op : EthereumOp}
    (other : ∀ blockHash, op ≠ .getBlock blockHash) (reply : Except EthereumError op.Reply) :
    Unconfirmed service (trace ++ [⟨op, (), reply, ()⟩]) := by
  apply unconfirmed.concat
  rintro front hash receipt timestamp tx _ same
  exact absurd (congrArg Event.op same) (other receipt.blockHash)

theorem Calm.concat (calm : Calm trace) {event : EthereumEvent} (fine : ¬ Expired event) :
    Calm (trace ++ [event]) := by
  intro other member
  rcases List.mem_append.mp member with old | new
  · exact calm other old
  · obtain rfl := List.mem_singleton.mp new
    exact fine

theorem not_expired {op : EthereumOp} (value : op.Reply) : ¬ Expired ⟨op, (), .ok value, ()⟩ := by
  rintro ⟨error, same, _⟩
  cases same

theorem Calm.answered (calm : Calm trace) {op : EthereumOp} (value : op.Reply) :
    Calm (trace ++ [⟨op, (), .ok value, ()⟩]) := calm.concat (not_expired value)

theorem Calm.heard (calm : Calm trace) (op : EthereumOp) (error : EthereumError) :
    Heard error (trace ++ [⟨op, (), .error error, ()⟩]) := by
  by_cases expired : error.code = some .NONCE_EXPIRED
  · exact Or.inr ⟨expired, trace, _, rfl, ⟨error, rfl, expired⟩, calm⟩
  · refine Or.inl ⟨expired, calm.concat ?_⟩
    rintro ⟨other, same, code⟩
    obtain rfl := Except.error.inj same
    exact expired code

end Steps

section Confirmation

variable {service : EthereumBlockchainService} {formats : EthereumFormats} {rootCid : Cid}
  {trace : List EthereumEvent}

/-- A confirmation asks for the receipt, and it fails without confirming anything. -/
structure Denied (service : EthereumBlockchainService) (txResponse : TransactionResponse)
    (trace reached : List EthereumEvent) (err : EthereumError) : Prop where
  asked : ∃ mid, reached = trace ++ mid ∧ (∀ event ∈ mid, event.op.Neutral) ∧ Asked service txResponse mid
  unconfirmed : Unconfirmed service reached
  heard : Calm trace → Heard err reached

/-- A confirmation ends with the receipt and its block. -/
def Granted (service : EthereumBlockchainService) (txResponse : TransactionResponse)
    (trace reached : List EthereumEvent) (tx : Transaction) : Prop :=
  ∃ receipt timestamp,
  reached = trace ++ [received service txResponse.hash receipt, blockRead receipt timestamp] ∧
    Confirmed service receipt timestamp tx

/-- A neutral call only appends its event. -/
theorem sat_neutral (op : EthereumOp) (neutral : op.Neutral)
    {post : op.Reply → Unit × List EthereumEvent → Prop}
    {raise : EthereumError → Unit × List EthereumEvent → Prop}
    (resolves : ∀ value, post value ((), trace ++ [⟨op, (), .ok value, ()⟩]))
    (rejects : ∀ error, raise error ((), trace ++ [⟨op, (), .error error, ()⟩])) :
    Sat (node formats).recorded (Submits service formats rootCid) post raise (Prog.call op) ((), trace) :=
  sat_recorded_call op (fun _ _ value _ _ => ⟨neutral.submits, resolves value⟩)
    fun _ _ error _ _ => ⟨neutral.submits, rejects error⟩

theorem sat_neutral_attempt (op : EthereumOp) (neutral : op.Neutral)
    {post : Except EthereumError op.Reply → Unit × List EthereumEvent → Prop}
    {raise : EthereumError → Unit × List EthereumEvent → Prop}
    (answers : ∀ reply, post reply ((), trace ++ [⟨op, (), reply, ()⟩])) :
    Sat (node formats).recorded (Submits service formats rootCid) post raise (Prog.call op).attempt
    ((), trace) :=
  sat_recorded_attempt op fun _ _ reply _ _ => ⟨neutral.submits, answers reply⟩

theorem loadedChainId_code {error : EthereumError} (absent : service.loadedChainId = .error error) :
    error.code = none := by
  unfold loadedChainId at absent
  split at absent
  · obtain rfl := Except.error.inj absent
    rfl
  · split at absent
    · obtain rfl := Except.error.inj absent
      rfl
    · cases absent

theorem Calm.silent (calm : Calm trace) {error : EthereumError} (silent : error.code = none) :
    Heard error trace :=
  Or.inl ⟨by simp [silent], calm⟩

theorem answer_inj {op : EthereumOp} {value other : op.Reply}
    (same : (⟨op, (), .ok value, ()⟩ : EthereumEvent) = ⟨op, (), .ok other, ()⟩) : value = other := by
  injection same with _ _ replies
  exact Except.ok.inj replies

theorem received_receipt {hash other : String} {receipt found : TransactionReceipt}
    (same : received service hash receipt = received service other found) : receipt = found := by
  have ops : waiting service hash = waiting service other := congrArg Event.op same
  obtain rfl : hash = other := by injection ops
  exact answer_inj same

theorem confirmTransactionSuccess_sat (txResponse : TransactionResponse)
    (unconfirmed : Unconfirmed service trace) :
    Sat (node formats).recorded (Submits service formats rootCid)
      (fun tx reached => Granted service txResponse trace reached.2 tx)
      (fun err reached => Denied service txResponse trace reached.2 err)
      (confirmTransactionSuccess service txResponse) ((), trace) := by
  have neutral : (waiting service txResponse.hash).Neutral := trivial
  refine sat_bind (fun receipt reached => reached = ((), trace ++ [received service txResponse.hash receipt]))
    (sat_neutral _ neutral (fun _ => rfl) fun error => ⟨⟨_, rfl, ?_, _, List.mem_singleton.mpr rfl, rfl⟩,
      unconfirmed.other (fun _ => EthereumOp.noConfusion) _, fun calm => calm.heard _ error⟩) ?_
  · intro event member
    obtain rfl := List.mem_singleton.mp member
    exact neutral
  rintro receipt _ rfl
  have waited : Unconfirmed service (trace ++ [received service txResponse.hash receipt]) :=
    unconfirmed.other (fun _ => EthereumOp.noConfusion) _
  have asked : ∀ reply, ∃ mid, trace ++ [received service txResponse.hash receipt] ++
      [⟨.getBlock receipt.blockHash, (), reply, ()⟩] = trace ++ mid ∧ (∀ event ∈ mid, event.op.Neutral) ∧
        Asked service txResponse mid := by
    intro reply
    refine ⟨[received service txResponse.hash receipt, ⟨.getBlock receipt.blockHash, (), reply, ()⟩],
      List.append_assoc _ _ _, fun event member => ?_, _, List.mem_cons_self, rfl⟩
    simp only [List.mem_cons, List.not_mem_nil, or_false] at member
    rcases member with rfl | rfl
    · exact neutral
    · trivial
  refine sat_bind (fun block reached => reached = ((), trace ++ [received service txResponse.hash receipt] ++
      [⟨.getBlock receipt.blockHash, (), .ok block, ()⟩]))
    (sat_neutral (.getBlock receipt.blockHash) trivial (fun _ => rfl) fun error =>
      ⟨asked _, waited.concat fun _ _ _ _ _ _ same => ?_, fun calm => (calm.answered _).heard _ error⟩) ?_
  · injection same with _ _ differs
    cases differs
  rintro block _ rfl
  -- A block that is read confirms the transaction only if the receipt did not fail and the chain is known.
  have denied : ∀ error : EthereumError, error.code = none →
      (∀ timestamp tx, block = some timestamp → ¬ Confirmed service receipt timestamp tx) →
      Denied service txResponse trace (trace ++ [received service txResponse.hash receipt] ++
        [⟨.getBlock receipt.blockHash, (), .ok block, ()⟩]) error := by
    intro error silent unread
    refine ⟨asked _, waited.concat ?_, fun calm => ((calm.answered _).answered _).silent silent⟩
    intro front hash other timestamp tx same read confirmed
    obtain ⟨_, last⟩ := List.append_inj' same rfl
    obtain rfl := received_receipt (List.cons.inj last).1
    exact unread timestamp tx (answer_inj read) confirmed
  split
  · rename_i failed
    refine denied _ rfl fun timestamp tx _ confirmed => ?_
    rw [confirmed.1] at failed
    cases failed
  · rename_i succeeded
    cases connected : service.loadedChainId with
    | error error =>
        refine denied _ (loadedChainId_code connected) fun timestamp tx _ confirmed => ?_
        obtain ⟨_, chainId, known, _⟩ := confirmed
        rw [connected] at known
        cases known
    | ok chainId =>
        cases block with
        | none => exact denied _ rfl fun timestamp tx absent => by cases absent
        | some timestamp =>
            refine ⟨receipt, timestamp, List.append_assoc _ _ _,
              by simpa using succeeded, chainId, connected, rfl⟩

theorem Asked.mono {txResponse : TransactionResponse} {larger : List EthereumEvent}
    (asked : Asked service txResponse trace) (grows : ∀ event ∈ trace, event ∈ larger) :
    Asked service txResponse larger := by
  obtain ⟨event, member, same⟩ := asked
  exact ⟨event, grows event member, same⟩

/-- The check ends at the first response that is confirmed, or it has asked for all of them. -/
theorem checkResponses_sat (txResponses : List TransactionResponse)
    (unconfirmed : Unconfirmed service trace) :
    Sat (node formats).recorded (Submits service formats rootCid)
      (fun tx reached => ∃ txResponse ∈ txResponses, ∃ mid, (∀ event ∈ mid, event.op.Neutral) ∧
        Granted service txResponse (trace ++ mid) reached.2 tx)
      (fun _ reached => Unconfirmed service reached.2 ∧ ∃ mid, reached.2 = trace ++ mid ∧
        (∀ event ∈ mid, event.op.Neutral) ∧ ∀ txResponse ∈ txResponses, Asked service txResponse mid)
      (checkResponses service txResponses) ((), trace) := by
  induction txResponses generalizing trace with
  | nil => exact ⟨unconfirmed, [], (List.append_nil _).symm, by simp, by simp⟩
  | cons txResponse earlier ih =>
      refine sat_bind _ (sat_attempt (confirmTransactionSuccess_sat txResponse unconfirmed)) ?_
      rintro outcome ⟨⟨⟩, reached⟩ confirmed
      cases outcome with
      | ok tx => exact ⟨txResponse, List.mem_cons_self, [], by simp, by simpa using confirmed⟩
      | error err =>
          obtain ⟨⟨mid, rfl, neutral, asked⟩, unconfirmed, _⟩ := confirmed
          have both : ∀ later : List EthereumEvent, (∀ event ∈ later, event.op.Neutral) →
              ∀ event ∈ mid ++ later, event.op.Neutral := by
            intro later neutral' event member
            exact (List.mem_append.mp member).elim (neutral event) (neutral' event)
          apply sat_mono (ih unconfirmed)
          · exact fun _ _ _ _ meets => meets
          · rintro tx reached ⟨other, member, later, neutral', granted⟩
            rw [List.append_assoc] at granted
            exact ⟨other, List.mem_cons_of_mem _ member, mid ++ later, both later neutral', granted⟩
          · rintro err reached ⟨unconfirmed, later, same, neutral', asked'⟩
            rw [List.append_assoc] at same
            refine ⟨unconfirmed, mid ++ later, same, both later neutral', fun other member => ?_⟩
            rcases List.mem_cons.mp member with rfl | member
            · exact asked.mono fun event inside => List.mem_append_left _ inside
            · exact (asked' other member).mono fun event inside => List.mem_append_right _ inside

end Confirmation

section Attempts

variable {service : EthereumBlockchainService} {formats : EthereumFormats} {rootCid : Cid}
  {trace : List EthereumEvent}

/-- The first expired nonce of a trace stands at one place. -/
theorem first_expired {front back front' back' : List EthereumEvent} {event event' : EthereumEvent}
    (same : front ++ event :: back = front' ++ event' :: back') (calm : Calm front) (expired : Expired event)
    (calm' : Calm front') (expired' : Expired event') : front = front' ∧ event = event' ∧ back = back' := by
  induction front generalizing front' with
  | nil =>
      cases front' with
      | nil =>
          obtain ⟨rfl, rfl⟩ := List.cons.inj same
          exact ⟨rfl, rfl, rfl⟩
      | cons head tail =>
          obtain ⟨rfl, _⟩ := List.cons.inj same
          exact absurd expired (calm' _ List.mem_cons_self)
  | cons head tail ih =>
      cases front' with
      | nil =>
          obtain ⟨rfl, _⟩ := List.cons.inj same
          exact absurd expired' (calm _ List.mem_cons_self)
      | cons head' tail' =>
          obtain ⟨rfl, rest⟩ := List.cons.inj same
          obtain ⟨rfl, rfl, rfl⟩ := ih rest (fun event inside => calm event (List.mem_cons_of_mem _ inside))
            fun event inside => calm' event (List.mem_cons_of_mem _ inside)
          exact ⟨rfl, rfl, rfl⟩

theorem Expired.unrecorded {event : EthereumEvent} (expired : Expired event) :
    recorded service [event] = [] := by
  obtain ⟨op, _, reply, _⟩ := event
  obtain ⟨error, same, _⟩ := expired
  obtain rfl : reply = .error error := same
  cases op <;> rfl

theorem Unconfirmed.lost (unconfirmed : Unconfirmed service trace) (calm : Calm trace) :
    Lost service trace := by
  refine ⟨unconfirmed, fun front event back same expired => ?_⟩
  exact absurd expired (calm event (by simp [same]))

/-- The service may still submit a transaction. -/
structure Ready (service : EthereumBlockchainService) (formats : EthereumFormats) (rootCid : Cid)
    (submitted attempt : Nat) (sending : Sending) (trace : List EthereumEvent) : Prop where
  running : Running service formats rootCid submitted attempt sending trace
  unconfirmed : Unconfirmed service trace
  calm : Calm trace

/-- The handler gets an error before the next submission. -/
structure Faulty (service : EthereumBlockchainService) (formats : EthereumFormats) (rootCid : Cid)
    (submitted attempt : Nat) (sending : Sending) (trace : List EthereumEvent) (err : EthereumError) :
    Prop where
  running : Running service formats rootCid submitted attempt sending trace
  unconfirmed : Unconfirmed service trace
  heard : Heard err trace

/-- Either the call goes on with another attempt, or it has its transaction. -/
def Settled (service : EthereumBlockchainService) (formats : EthereumFormats) (rootCid : Cid)
    (submitted attempt : Nat) (outcome : Sending × Option Transaction) (trace : List EthereumEvent) : Prop :=
  match outcome.2 with
  | none => Ready service formats rootCid submitted attempt outcome.1 trace
  | some tx => Sent service tx trace

/-- The check after an expired nonce decides by the responses from before it. -/
theorem checkForPreviousTransactionSuccess_sat {front : List EthereumEvent} {event : EthereumEvent}
    (unconfirmed : Unconfirmed service (front ++ [event])) (expired : Expired event) (calm : Calm front) :
    Sat (node formats).recorded (Submits service formats rootCid)
    (fun tx reached => Sent service tx reached.2)
      (fun _ reached => Lost service reached.2)
      (checkForPreviousTransactionSuccess service (recorded service front)) ((), front ++ [event]) := by
  apply sat_mono (checkResponses_sat _ unconfirmed)
  · exact fun _ _ _ _ meets => meets
  · rintro tx ⟨⟨⟩, reached⟩ ⟨txResponse, member, mid, neutral, receipt, timestamp, same, confirmed⟩
    obtain rfl : reached = front ++ [event] ++ mid ++ [received service txResponse.hash receipt,
      blockRead receipt timestamp] := same
    have member : txResponse ∈ recorded service front := List.mem_reverse.mp member
    refine ⟨⟨txResponse, ?_, _, receipt, timestamp, [], rfl, confirmed⟩,
      fun front' event' back' same expired' calm' => ?_⟩
    · simp only [recorded_append]
      simp [member]
    · have same :
          front ++ event :: (mid ++ [received service txResponse.hash receipt, blockRead receipt timestamp]) =
          front' ++ event' :: back' := by simpa using same
      obtain ⟨rfl, rfl, rfl⟩ := first_expired same calm expired calm' expired'
      exact ⟨txResponse, member, mid, receipt, timestamp, [], rfl, confirmed⟩
  · rintro err ⟨⟨⟩, reached⟩ ⟨unconfirmed, mid, same, neutral, asked⟩
    obtain rfl : reached = front ++ [event] ++ mid := same
    refine ⟨unconfirmed, fun front' event' back' same expired' calm' _ _ txResponse member => ?_⟩
    have same : front ++ event :: mid = front' ++ event' :: back' := by simpa using same
    obtain ⟨rfl, rfl, rfl⟩ := first_expired same calm expired calm' expired'
    exact asked txResponse (List.mem_reverse.mpr member)

theorem ofExcept_sat {A : Type} {value : Except EthereumError A} {post : A → Unit × List EthereumEvent → Prop}
    {raise : EthereumError → Unit × List EthereumEvent → Prop}
    (resolves : ∀ result, value = .ok result → post result ((), trace))
    (rejects : ∀ error, value = .error error → raise error ((), trace)) :
    Sat (node formats).recorded (Submits service formats rootCid) post raise (ofExcept value)
    ((), trace) := by
  cases value with
  | ok result => exact resolves result rfl
  | error error => exact rejects error rfl

/-- Only an expired nonce ends the attempts, and it does so without another submission. -/
theorem handleError_settled {walletBalance : Int} {submitted attempt : Nat} {sending : Sending}
    {err : EthereumError} (faulty : Faulty service formats rootCid submitted attempt sending trace err) :
    Sat (node formats).recorded (Submits service formats rootCid)
      (fun outcome reached => Settled service formats rootCid submitted attempt outcome reached.2)
      (fun _ reached => Lost service reached.2) (handleError service walletBalance attempt sending err)
      ((), trace) := by
  obtain ⟨running, unconfirmed, heard⟩ := faulty
  unfold handleError
  rcases heard with ⟨other, calm⟩ | ⟨code, front, event, rfl, expired, calm⟩
  · split
    · exact sat_bind (fun _ reached => reached = ((), trace)) (ofExcept_sat (fun _ _ => rfl)
        fun _ _ => unconfirmed.lost calm) (by rintro _ _ rfl; exact ⟨running, unconfirmed, calm⟩)
    · exact ⟨running, unconfirmed, calm⟩
    · rename_i same
      exact absurd same other
    · exact ⟨running, unconfirmed, calm⟩
  · simp only [code]
    have kept : recorded service front = sending.txResponses := by
      rw [← running.responses, recorded_append, expired.unrecorded, List.append_nil]
    split
    · rename_i early
      refine ⟨unconfirmed, fun front' event' back' same expired' calm' attempted some_ => ?_⟩
      obtain ⟨rfl, rfl, rfl⟩ := first_expired same calm expired calm' expired'
      rcases early with first | none
      · have made := running.attempts
        rw [attemptsMade_append] at made
        omega
      · rw [kept] at some_
        exact absurd (List.eq_nil_of_length_eq_zero none) some_
    · rw [← kept]
      exact sat_bind _ (checkForPreviousTransactionSuccess_sat unconfirmed expired calm)
        fun tx reached sent => sent

/-- The fees and the gas limit of a transaction do not matter here. -/
theorem Running.repriced {submitted attempt : Nat} {sending : Sending}
    (running : Running service formats rootCid submitted attempt sending trace) {txData : TransactionRequest}
    (same : txData.nonce = sending.txData.nonce ∧ txData.toAddress = sending.txData.toAddress ∧
      txData.data = sending.txData.data) :
    Running service formats rootCid submitted attempt { sending with txData := txData } trace := by
  obtain ⟨nonce, toAddress, data⟩ := same
  exact ⟨by rw [nonce]; exact running.started, toAddress.trans running.toAddress, data.trans running.data,
    running.responses, running.submitted, running.attempts⟩

theorem Ready.faulty {submitted attempt : Nat} {sending : Sending}
    (ready : Ready service formats rootCid submitted attempt sending trace) (op : EthereumOp)
    (neutral : op.Neutral)
    (other : ∀ blockHash, op ≠ .getBlock blockHash) (error : EthereumError) :
    Faulty service formats rootCid submitted attempt sending (trace ++ [⟨op, (), .error error, ()⟩]) error :=
  ⟨ready.running.concat neutral _, ready.unconfirmed.other other _, ready.calm.heard op error⟩

theorem Ready.answered {submitted attempt : Nat} {sending : Sending}
    (ready : Ready service formats rootCid submitted attempt sending trace) (op : EthereumOp)
    (neutral : op.Neutral)
    (other : ∀ blockHash, op ≠ .getBlock blockHash) (value : op.Reply) :
    Ready service formats rootCid submitted attempt sending (trace ++ [⟨op, (), .ok value, ()⟩]) :=
  ⟨ready.running.concat neutral _, ready.unconfirmed.other other _, ready.calm.answered value⟩

theorem Ready.repriced {submitted attempt : Nat} {sending : Sending}
    (ready : Ready service formats rootCid submitted attempt sending trace) {txData : TransactionRequest}
    (same : txData.nonce = sending.txData.nonce ∧ txData.toAddress = sending.txData.toAddress ∧
      txData.data = sending.txData.data) :
    Ready service formats rootCid submitted attempt { sending with txData := txData } trace :=
  ⟨ready.running.repriced same, ready.unconfirmed, ready.calm⟩

theorem setFees_same {txData priced : TransactionRequest} {feeData : FeeData} {attempt : Nat}
    (chosen : setFees txData feeData attempt = .ok priced) :
    priced.nonce = txData.nonce ∧ priced.toAddress = txData.toAddress ∧ priced.data = txData.data := by
  unfold setFees at chosen
  split at chosen
  · obtain rfl := Except.ok.inj chosen
    exact ⟨rfl, rfl, rfl⟩
  · split at chosen
    · cases chosen
    · obtain rfl := Except.ok.inj chosen
      exact ⟨rfl, rfl, rfl⟩

theorem setFees_code {txData : TransactionRequest} {feeData : FeeData} {attempt : Nat} {error : EthereumError}
    (failed : setFees txData feeData attempt = .error error) : error.code = none := by
  unfold setFees at failed
  split at failed
  · cases failed
  · split at failed
    · obtain rfl := Except.error.inj failed
      rfl
    · cases failed

/-- Pricing submits nothing. -/
theorem setGasPrice_ready {submitted attempt : Nat} {sending : Sending}
    (ready : Ready service formats rootCid submitted attempt sending trace) :
    Sat (node formats).recorded (Submits service formats rootCid)
      (fun outcome reached => match outcome.2 with
        | .ok _ => Ready service formats rootCid submitted attempt { sending with txData :=
            outcome.1 } reached.2
        | .error err =>
            Faulty service formats rootCid submitted attempt { sending with txData :=
              outcome.1 } reached.2 err)
      (fun _ reached => Lost service reached.2) (setGasPrice service sending.txData attempt) ((), trace) := by
  unfold setGasPrice
  split
  · exact ready.repriced ⟨rfl, rfl, rfl⟩
  refine sat_bind (fun outcome reached => reached = ((), trace ++ [⟨.getFeeData, (), outcome, ()⟩]))
    (sat_neutral_attempt .getFeeData trivial fun _ => rfl) ?_
  rintro outcome _ rfl
  cases outcome with
  | error err => exact ready.faulty .getFeeData trivial (fun _ => EthereumOp.noConfusion) err
  | ok feeData =>
      have arrived := ready.answered .getFeeData trivial (fun _ => EthereumOp.noConfusion) feeData
      cases chosen : setFees sending.txData feeData attempt with
      | error err =>
          simp only [chosen]
          exact ⟨arrived.running, arrived.unconfirmed, arrived.calm.silent (setFees_code chosen)⟩
      | ok priced =>
          simp only [chosen]
          have priced' := arrived.repriced (setFees_same chosen)
          refine sat_bind (fun gas reached => reached = ((), trace ++ [⟨.getFeeData, (), .ok feeData, ()⟩] ++
            [⟨.estimateGas priced, (), gas, ()⟩]))
            (sat_neutral_attempt (.estimateGas priced) trivial fun _ => rfl) ?_
          rintro gas _ rfl
          cases gas with
          | error err =>
              exact priced'.faulty (.estimateGas priced) trivial (fun _ => EthereumOp.noConfusion) err
          | ok gasLimit =>
              have estimated :=
                priced'.answered (.estimateGas priced) trivial (fun _ => EthereumOp.noConfusion)
                gasLimit
              exact estimated.repriced ⟨rfl, rfl, rfl⟩

theorem Running.mono {submitted more attempt : Nat} {sending : Sending}
    (running : Running service formats rootCid submitted attempt sending trace) (le : submitted ≤ more) :
    Running service formats rootCid more attempt sending trace :=
  { running with submitted := running.submitted.trans le }

/-- One submission keeps its response, if it comes from the connected chain. -/
theorem Running.submit {submitted attempt : Nat} {sending : Sending}
    (running : Running service formats rootCid submitted attempt sending trace) (txData : TransactionRequest)
    (reply : Except EthereumError TransactionResponse) :
    Running service formats rootCid (submitted + 1) attempt
      ⟨sending.txData, sending.txResponses ++ recorded service [⟨.sendTransaction txData, (), reply, ()⟩]⟩
      (trace ++ [⟨.sendTransaction txData, (), reply, ()⟩]) := by
  refine ⟨?_, running.toAddress, running.data, ?_, ?_, ?_⟩
  · rw [List.head?_append, running.started]
    rfl
  · rw [recorded_append, running.responses]
  · rw [submissions_append, List.length_append]
    have one : submissions [⟨.sendTransaction txData, (), reply, ()⟩] = [txData] := rfl
    have before := running.submitted
    rw [one, List.length_singleton]
    omega
  · rw [attemptsMade_append, running.attempts]
    rfl

theorem trySendTransaction_ready {submitted attempt : Nat} {sending : Sending}
    (ready : Ready service formats rootCid submitted attempt sending trace) (room : submitted < MAX_RETRIES) :
    Sat (node formats).recorded (Submits service formats rootCid)
      (fun txResponse reached => Ready service formats rootCid (submitted + 1) attempt
        ⟨sending.txData, sending.txResponses ++ [txResponse]⟩ reached.2)
      (fun err reached => Faulty service formats rootCid (submitted + 1) attempt sending reached.2 err)
      (trySendTransaction service sending.txData) ((), trace) := by
  have submits :
      ∀ reply after, Submits service formats rootCid (.sendTransaction sending.txData) ((), trace) reply
      after := by
    rintro reply after txData same
    obtain rfl : sending.txData = txData := by injection same
    exact ⟨lt_of_le_of_lt ready.running.submitted room, ready.calm, ready.running.toAddress,
      ready.running.data, ready.running.started⟩
  have unconfirmed := fun reply => ready.unconfirmed.other (fun _ => EthereumOp.noConfusion)
    (show Except EthereumError (EthereumOp.Reply (.sendTransaction sending.txData)) from reply)
  have dropped : ∀ reply : Except EthereumError TransactionResponse,
      recorded service [⟨.sendTransaction sending.txData, (), reply, ()⟩] = [] →
        Running service formats rootCid (submitted + 1) attempt sending
          (trace ++ [⟨.sendTransaction sending.txData, (), reply, ()⟩]) := by
    intro reply none
    have running := ready.running.submit sending.txData reply
    rwa [none, List.append_nil] at running
  refine sat_bind (fun txResponse reached => reached =
    ((), trace ++ [⟨.sendTransaction sending.txData, (), .ok txResponse, ()⟩])) ?_ ?_
  · apply sat_recorded_call (EthereumOp.sendTransaction sending.txData)
    · intro before _ txResponse after _
      exact ⟨submits _ _, rfl⟩
    · intro before _ error after _
      exact ⟨submits _ _, dropped _ rfl, unconfirmed _, ready.calm.heard _ error⟩
  rintro txResponse _ rfl
  have calm := @Calm.answered _ ready.calm (.sendTransaction sending.txData) txResponse
  cases connected : service.loadedChainId with
  | error error =>
      have none : recorded service [⟨.sendTransaction sending.txData, (), .ok txResponse, ()⟩] = [] := by
        simp [recorded, connected]
      exact ⟨dropped _ none, unconfirmed _, calm.silent (loadedChainId_code connected)⟩
  | ok chainId =>
      change Sat _ _ _ _
          (ofExcept (assertSameChainId txResponse.chainId chainId) >>= fun _ => pure txResponse) _
      by_cases same : txResponse.chainId = chainId
      · have one :
            recorded service [⟨.sendTransaction sending.txData, (), .ok txResponse, ()⟩] = [txResponse] := by
          simp [recorded, connected, same]
        have running := ready.running.submit sending.txData (.ok txResponse)
        rw [one] at running
        rw [show assertSameChainId txResponse.chainId chainId = .ok () by simp [assertSameChainId, same]]
        exact ⟨running, unconfirmed _, calm⟩
      · have none : recorded service [⟨.sendTransaction sending.txData, (), .ok txResponse, ()⟩] = [] := by
          simp [recorded, connected, Ne.symm same]
        rw [assertSameChainId, if_pos same]
        exact ⟨dropped _ none, unconfirmed _, calm.silent rfl⟩

theorem Faulty.mono {submitted more attempt : Nat} {sending : Sending} {err : EthereumError}
    (faulty : Faulty service formats rootCid submitted attempt sending trace err) (le : submitted ≤ more) :
    Faulty service formats rootCid more attempt sending trace err :=
  ⟨faulty.running.mono le, faulty.unconfirmed, faulty.heard⟩

theorem Running.appended {submitted attempt : Nat} {sending : Sending}
    (running : Running service formats rootCid submitted attempt sending trace) {mid : List EthereumEvent}
    (neutral : ∀ event ∈ mid, event.op.Neutral) :
    Running service formats rootCid submitted attempt sending (trace ++ mid) := by
  induction mid generalizing trace with
  | nil => simpa using running
  | cons event rest ih =>
      obtain ⟨op, _, reply, _⟩ := event
      have first := running.concat (neutral _ List.mem_cons_self) reply
      have more := ih first fun event member => neutral event (List.mem_cons_of_mem _ member)
      rwa [List.append_assoc] at more

theorem Unconfirmed.lost_unattempted (unconfirmed : Unconfirmed service trace)
    (unattempted : attemptsMade trace = 0) : Lost service trace := by
  refine ⟨unconfirmed, fun front event back same _ _ attempted => ?_⟩
  rw [same, attemptsMade_append] at unattempted
  omega

theorem Confirms.append {txResponse : TransactionResponse} {tx : Transaction}
    (confirms : Confirms service txResponse tx trace) (later : List EthereumEvent) :
    Confirms service txResponse tx (trace ++ later) := by
  obtain ⟨front, receipt, timestamp, back, rfl, confirmed⟩ := confirms
  exact ⟨front, receipt, timestamp, back ++ later, by simp, confirmed⟩

/-- One attempt submits at most one transaction. -/
theorem sendAttempt_settled {walletBalance : Int} {submitted attempt : Nat} {sending : Sending}
    (ready : Ready service formats rootCid submitted attempt sending trace) (room : submitted < MAX_RETRIES) :
    Sat (node formats).recorded (Submits service formats rootCid)
      (fun outcome reached => Settled service formats rootCid (submitted + 1) attempt outcome reached.2)
      (fun _ reached => Lost service reached.2) (sendAttempt service walletBalance attempt sending)
      ((), trace) := by
  refine sat_bind _ (setGasPrice_ready ready) ?_
  rintro ⟨txData, priced⟩ ⟨⟨⟩, trace⟩ reached
  cases priced with
  | error err => exact handleError_settled (reached.mono (Nat.le_succ _))
  | ok _ =>
      refine sat_bind _ (sat_attempt (trySendTransaction_ready reached room)) ?_
      rintro sent ⟨⟨⟩, trace⟩ reached
      cases sent with
      | error err => exact handleError_settled reached
      | ok txResponse =>
          obtain ⟨running, unconfirmed, calm⟩ := reached
          refine sat_bind _ (sat_attempt (confirmTransactionSuccess_sat txResponse unconfirmed)) ?_
          rintro confirmed ⟨⟨⟩, reached⟩ outcome
          cases confirmed with
          | error err =>
              obtain ⟨⟨mid, rfl, neutral, _⟩, unconfirmed, heard⟩ := outcome
              exact handleError_settled ⟨running.appended neutral, unconfirmed, heard calm⟩
          | ok tx =>
              obtain ⟨receipt, timestamp, rfl, confirmed⟩ := outcome
              refine ⟨⟨txResponse, ?_, trace, receipt, timestamp, [], rfl, confirmed⟩, ?_⟩
              · rw [recorded_append, running.responses]
                simp
              · intro front event back same expired
                have calm : Calm (trace ++ [received service txResponse.hash receipt] ++
                  [blockRead receipt timestamp]) := (calm.answered _).answered _
                rw [List.append_assoc] at calm
                have same : trace ++ [received service txResponse.hash receipt, blockRead receipt timestamp] =
                  front ++ event :: back := same
                exact absurd expired (calm event (by rw [List.singleton_append, same]; simp))

/-- There are no more submissions than attempts. -/
theorem attemptFrom_sent {walletBalance : Int} {remaining attempt : Nat} {sending : Sending}
    (ready : Ready service formats rootCid attempt attempt sending trace)
    (total : remaining + attempt = MAX_RETRIES) :
    Sat (node formats).recorded (Submits service formats rootCid)
    (fun tx reached => Sent service tx reached.2)
      (fun _ reached => Lost service reached.2)
      (attemptFrom (sendAttempt service walletBalance) remaining attempt sending) ((), trace) := by
  induction remaining generalizing attempt sending trace with
  | zero => exact ready.unconfirmed.lost ready.calm
  | succ remaining ih =>
      refine sat_bind _ (sendAttempt_settled ready (by omega)) ?_
      rintro ⟨changed, result⟩ ⟨⟨⟩, trace⟩ settled
      cases result with
      | some tx => exact settled
      | none =>
          obtain ⟨running, unconfirmed, calm⟩ := settled
          refine sat_bind (fun _ reached => reached = ((), trace ++ [⟨.delay 5000, (), .ok (), ()⟩])) ?_ ?_
          · apply sat_recorded_call (EthereumOp.delay 5000)
            · intro before _ value after _
              exact ⟨fun _ other => EthereumOp.noConfusion other, rfl⟩
            · intro before _ error after impossible
              exact impossible.elim
          rintro _ _ rfl
          refine ih ⟨⟨?_, running.toAddress, running.data, ?_, ?_, ?_⟩,
            @Unconfirmed.other _ _ unconfirmed (.delay 5000) (fun _ => EthereumOp.noConfusion) (.ok ()),
            @Calm.answered _ calm (.delay 5000) ()⟩ (by omega)
          · rw [List.head?_append, running.started]
            rfl
          · rw [recorded_append, running.responses]
            exact List.append_nil _
          · rw [submissions_append]
            exact (congrArg List.length (List.append_nil _)).trans_le running.submitted
          · rw [attemptsMade_append, running.attempts]
            rfl

theorem buildTransactionRequest_ready :
    Sat (node formats).recorded (Submits service formats rootCid)
      (fun txData reached => Ready service formats rootCid 0 0 ⟨txData, []⟩ reached.2)
      (fun _ reached => Lost service reached.2) (buildTransactionRequest service formats rootCid)
      ((), []) := by
  have unconfirmed : Unconfirmed service [] := by
    rintro txResponse tx ⟨front, receipt, timestamp, back, same, _⟩
    simp at same
  refine sat_bind (fun baseNonce reached => reached =
    ((), [⟨.getTransactionCount service.walletAddress, (), .ok baseNonce, ()⟩]))
    (sat_neutral (.getTransactionCount service.walletAddress) trivial (fun _ => rfl) fun error =>
      (unconfirmed.other (fun _ => EthereumOp.noConfusion) _).lost_unattempted rfl) ?_
  rintro baseNonce _ rfl
  let counted : EthereumEvent := ⟨.getTransactionCount service.walletAddress, (), .ok baseNonce, ()⟩
  have started :
      ∀ txData : TransactionRequest, txData.nonce = baseNonce → txData.toAddress = recipient service →
      txData.data = calldata service formats rootCid →
      Ready service formats rootCid 0 0 ⟨txData, []⟩ [counted] := by
    intro txData nonce toAddress data
    refine ⟨⟨?_, toAddress, data, rfl, le_refl _, rfl⟩, ?_, ?_⟩
    · show some counted = some ⟨.getTransactionCount service.walletAddress, (), .ok txData.nonce, ()⟩
      rw [nonce]
    · exact @Unconfirmed.other _ [] unconfirmed (.getTransactionCount _)
        (fun _ => EthereumOp.noConfusion) (.ok _)
    · exact @Calm.answered [] (by simp [Calm]) (.getTransactionCount _) _
  split
  · rename_i plain
    refine started _ rfl (by simp [recipient, plain]) ?_
    simp only [calldata, Bool.not_eq_true] at plain ⊢
    rw [plain]
    rfl
  · rename_i contract
    refine sat_bind (fun data reached => data = calldata service formats rootCid ∧ ∃ reply, reached =
      ((), [counted,
        ⟨.anchorDagCbor ("0x" ++ base16 ((formats.toBytes rootCid).drop 4)), (), .ok reply, ()⟩])) ?_ ?_
    · apply sat_recorded_call (EthereumOp.anchorDagCbor _)
      · intro before _ data after encoded
        refine ⟨fun _ other => EthereumOp.noConfusion other, ?_, data, rfl⟩
        have contract : service.useSmartContractAnchors = true := by simpa using contract
        simp only [calldata, contract, if_true]
        exact encoded
      · intro before _ error after _
        refine ⟨fun _ other => EthereumOp.noConfusion other, ?_⟩
        have unread := @Unconfirmed.other _ [] unconfirmed (.getTransactionCount service.walletAddress)
          (fun _ => EthereumOp.noConfusion) (.ok baseNonce)
        exact (unread.other (fun _ => EthereumOp.noConfusion) _).lost_unattempted rfl
    · rintro data _ ⟨rfl, reply, rfl⟩
      have contract : service.useSmartContractAnchors = true := by simpa using contract
      have ready := started ⟨service.contractAddress, calldata service formats rootCid, baseNonce,
        service.walletAddress, none, none, none, none⟩ rfl (by simp [recipient, contract]) rfl
      exact ready.answered (.anchorDagCbor _) trivial (fun _ => EthereumOp.noConfusion) reply

theorem Sent.answered {tx : Transaction} (sent : Sent service tx trace) {op : EthereumOp} (value : op.Reply) :
    Sent service tx (trace ++ [⟨op, (), .ok value, ()⟩]) := by
  obtain ⟨⟨txResponse, member, confirms⟩, checked⟩ := sent
  refine ⟨⟨txResponse, ?_, confirms.append _⟩, fun front event back same expired calm => ?_⟩
  · rw [recorded_append]
    exact List.mem_append_left _ member
  · rcases List.eq_nil_or_concat back with rfl | ⟨back, last, rfl⟩
    · obtain ⟨_, final⟩ := List.append_inj' same rfl
      obtain rfl := (List.cons.inj final).1
      exact absurd expired (not_expired value)
    · have same : trace ++ [⟨op, (), .ok value, ()⟩] = (front ++ event :: back) ++ [last] :=
        by simpa using same
      obtain ⟨earlier, member, confirms⟩ :=
        checked front event back (List.append_inj' same rfl).1 expired calm
      exact ⟨earlier, member, by simpa using confirms.append [last]⟩

/-- The call resolves with a confirmed transaction, or it has found none, or only the closing query fails. -/
theorem sendTransaction_sent :
    Sat (node formats).recorded (Submits service formats rootCid)
    (fun tx reached => Sent service tx reached.2)
      (fun _ reached => Lost service reached.2 ∨ ClosingFails service reached.2)
      (sendTransaction service formats rootCid) ((), []) := by
  refine sat_bind _
    (sat_mono buildTransactionRequest_ready (fun _ _ _ _ meets => meets) (fun _ _ ready => ready)
    fun _ _ lost => Or.inl lost) ?_
  rintro txData ⟨⟨⟩, trace⟩ ready
  refine sat_bind (fun _ reached => Ready service formats rootCid 0 0 ⟨txData, []⟩ reached.2)
    (sat_neutral (.getBalance service.walletAddress) trivial
      (fun balance => ready.answered (.getBalance _) trivial (fun _ => EthereumOp.noConfusion) balance)
      fun error => Or.inr ⟨trace, error, rfl⟩) ?_
  rintro walletBalance ⟨⟨⟩, trace⟩ ready
  refine sat_bind _ (sat_mono (attemptFrom_sent ready rfl) (fun _ _ _ _ meets => meets) (fun _ _ sent => sent)
    fun _ _ lost => Or.inl lost) ?_
  rintro tx ⟨⟨⟩, trace⟩ sent
  exact sat_bind (fun _ reached => Sent service tx reached.2)
    (sat_neutral (.getBalance service.walletAddress) trivial (fun balance => sent.answered balance)
      fun error => Or.inr ⟨trace, error, rfl⟩) fun _ _ sent => sent

end Attempts

section Runs

variable {service : EthereumBlockchainService} {formats : EthereumFormats} {rootCid : Cid}
  {trace : List EthereumEvent} {residue : EthereumCode Transaction}

/-- The transaction was submitted by this call with the root in its data, and its receipt reports no
failure. -/
structure CarriesRoot (service : EthereumBlockchainService) (formats : EthereumFormats) (rootCid : Cid)
    (trace : List EthereumEvent) (tx : Transaction) : Prop where
  submitted : ∃ txData txResponse chainId, ⟨.sendTransaction txData, (), .ok txResponse, ()⟩ ∈ trace ∧
    txData.data = calldata service formats rootCid ∧ txResponse.hash = tx.txHash ∧
    txResponse.chainId = chainId ∧ service.chainId = some chainId ∧ tx.chain = caipChainId chainId
  mined : ∃ receipt, received service tx.txHash receipt ∈ trace ∧ receipt.transactionHash = tx.txHash ∧
    receipt.failed = false

/-- Each submission of a run meets what the call guarantees. -/
theorem path_submits
    (path : Path (node formats) (sendTransaction service formats rootCid) () trace residue ())
    {front back : List EthereumEvent} {event : EthereumEvent} (split : trace = front ++ event :: back) :
    Submits service formats rootCid event.op ((), front) event.reply ((), front ++ [event]) :=
  (sat_recorded_path path [] sendTransaction_sent).1 front event back split

theorem mem_submissions {txData : TransactionRequest} (member : txData ∈ submissions trace) :
    ∃ front back event, trace = front ++ event :: back ∧ event.op = .sendTransaction txData := by
  obtain ⟨⟨op, _, reply, _⟩, inside, chosen⟩ := List.mem_filterMap.mp member
  obtain ⟨front, back, split⟩ := List.append_of_mem inside
  refine ⟨front, back, _, split, ?_⟩
  cases op <;> simp at chosen
  rw [chosen]

theorem submissions_bounded
    (path : Path (node formats) (sendTransaction service formats rootCid) () trace residue ()) :
    (submissions trace).length ≤ MAX_RETRIES := by
  have bounded : ∀ front back, trace = front ++ back → (submissions front).length ≤ MAX_RETRIES := by
    intro front
    induction front using List.reverseRecOn with
    | nil => exact fun _ _ => Nat.zero_le _
    | append_singleton front event ih =>
        intro back split
        have split : trace = front ++ event :: back := by simpa using split
        have before := ih (event :: back) split
        obtain ⟨op, _, reply, _⟩ := event
        rw [submissions_append, List.length_append]
        by_cases submission : ∃ txData, op = .sendTransaction txData
        · obtain ⟨txData, rfl⟩ := submission
          have room := (path_submits path split txData rfl).1
          exact room
        · have none : submissions [⟨op, (), reply, ()⟩] = [] := by
            cases op <;> first | rfl | exact absurd ⟨_, rfl⟩ submission
          rw [none]
          exact before
  exact bounded trace [] (by simp)

/-- Each submission has the nonce that the node has told first. -/
theorem submissions_started
    (path : Path (node formats) (sendTransaction service formats rootCid) () trace residue ())
    {txData : TransactionRequest} (member : txData ∈ submissions trace) :
    txData.toAddress = recipient service ∧ txData.data = calldata service formats rootCid ∧
      trace.head? = some ⟨.getTransactionCount service.walletAddress, (), .ok txData.nonce, ()⟩ := by
  obtain ⟨front, back, event, split, same⟩ := mem_submissions member
  obtain ⟨_, _, toAddress, data, started⟩ := path_submits path split txData same
  refine ⟨toAddress, data, ?_⟩
  have started : front.head? = _ := started
  rw [split, List.head?_append, started]
  rfl

theorem submissions_alike
    (path : Path (node formats) (sendTransaction service formats rootCid) () trace residue ()) :
    ∃ nonce, ∀ txData ∈ submissions trace, txData.nonce = nonce ∧ txData.toAddress = recipient service ∧
      txData.data = calldata service formats rootCid := by
  cases all : submissions trace with
  | nil => exact ⟨0, by simp⟩
  | cons first rest =>
      refine ⟨first.nonce, fun txData member => ?_⟩
      rw [← all] at member
      obtain ⟨toAddress, data, started⟩ := submissions_started path member
      obtain ⟨_, _, started'⟩ := submissions_started path (show first ∈ submissions trace by simp [all])
      rw [started] at started'
      exact ⟨answer_inj (Option.some.inj started'), toAddress, data⟩

/-- A resolved call has submitted its transaction. -/
theorem resolved_carriesRoot {tx : Transaction}
    (path : Path (node formats) (sendTransaction service formats rootCid) () trace (.done tx) ()) :
    CarriesRoot service formats rootCid trace tx := by
  have sent : Sent service tx trace := (sat_recorded_path path [] sendTransaction_sent).2
  obtain ⟨⟨txResponse, member, front, receipt, timestamp, back, split, succeeded, chainId, connected,
      rfl⟩, _⟩ := sent
  have receives : received service txResponse.hash receipt ∈ trace := by simp [split]
  have sameHash : receipt.transactionHash = txResponse.hash := path.performed _ receives
  obtain ⟨⟨op, _, reply, _⟩, inside, chosen⟩ := List.mem_filterMap.mp member
  have submitted : ∃ txData, (⟨op, (), reply, ()⟩ : EthereumEvent) =
      ⟨.sendTransaction txData, (), .ok txResponse, ()⟩ ∧ txResponse.chainId = chainId := by
    cases op <;> cases reply <;> simp at chosen
    obtain ⟨known, rfl⟩ := chosen
    rw [connected] at known
    exact ⟨_, rfl, (Except.ok.inj known).symm⟩
  obtain ⟨txData, same, sameChain⟩ := submitted
  rw [same] at inside
  obtain ⟨_, alike⟩ := submissions_alike path
  have data := (alike txData (List.mem_filterMap.mpr ⟨_, inside, rfl⟩)).2.2
  have loaded : service.chainId = some chainId := by
    unfold loadedChainId at connected
    split at connected
    · cases connected
    · rename_i known
      split at connected
      · cases connected
      · rw [known, Except.ok.inj connected]
  exact ⟨⟨txData, txResponse, chainId, inside, data, sameHash.symm, sameChain, loaded, rfl⟩,
    receipt, by rw [sameHash]; exact receives, rfl, succeeded⟩

/-- The CID of a transaction tells its nonce, and the node has counted the transactions of the ledger. -/
structure Counted (service : EthereumBlockchainService) (anchorFormats : Formats) (nonceOf : Cid → Nat)
    (ledger : List (Nat × Cid)) (trace : List EthereumEvent) : Prop where
  nonces : ∀ txData txResponse, ⟨.sendTransaction txData, (), .ok txResponse, ()⟩ ∈ trace →
    nonceOf (anchorFormats.ethereumTransactionCid (txResponse.hash.drop 2).toString) = txData.nonce
  counted : ∀ count, ⟨.getTransactionCount service.walletAddress, (), .ok count, ()⟩ ∈ trace →
    ∀ entry ∈ ledger, nonceOf entry.2 < count

/-- A resolved call has sent its transaction under a new hash, and so it resolves as the world asks for it. -/
theorem resolved_mints {tx : Transaction} {anchorFormats : Formats} {nonceOf : Cid → Nat} {world : World}
    (path : Path (node formats) (sendTransaction service formats rootCid) () trace (.done tx) ())
    (counts : Counted service anchorFormats nonceOf world.ledger trace) (thread : Nat) :
    (WorldOp.sendTransaction rootCid).Resolves anchorFormats thread world tx { world with
      ledger := world.ledger ++
        [(thread, anchorFormats.ethereumTransactionCid (tx.txHash.drop 2).toString)] } := by
  refine ⟨_, rfl, fun entry member same => ?_, rfl⟩
  obtain ⟨txData, txResponse, _, inside, _, sameHash, _⟩ := (resolved_carriesRoot path).submitted
  obtain ⟨_, _, started⟩ := submissions_started path (List.mem_filterMap.mpr ⟨_, inside, rfl⟩)
  have later := counts.counted txData.nonce (List.mem_of_mem_head? started) entry member
  have nonce := counts.nonces txData txResponse inside
  rw [same, ← sameHash, nonce] at later
  exact absurd later (Nat.lt_irrefl _)

/-- An expired nonce on a retry ends the submissions, and the responses from before it decide the outcome. -/
structure DecidedBefore (service : EthereumBlockchainService) (front back : List EthereumEvent)
    (residue : EthereumCode Transaction) : Prop where
  confirms : (∃ tx, residue = .done tx) ↔
    ∃ txResponse ∈ recorded service front, ∃ tx, Confirms service txResponse tx back
  asks : (¬ ∃ tx, residue = .done tx) → ∀ txResponse ∈ recorded service front, Asked service txResponse back

theorem expired_decided
    (path : Path (node formats) (sendTransaction service formats rootCid) () trace residue ())
    {front back : List EthereumEvent} {event : EthereumEvent} (split : trace = front ++ event :: back)
    (expired : Expired event) (calm : Calm front) (retried : 1 ≤ attemptsMade front)
    (responded : recorded service front ≠ []) :
    submissions back = [] ∧
      ((∃ tx, residue = .done tx) ∨ (∃ error, residue = .fail error) → ¬ ClosingFails service trace →
        DecidedBefore service front back residue) := by
  constructor
  · cases later : submissions back with
    | nil => rfl
    | cons txData rest =>
        obtain ⟨middle, last, submission, split', same⟩ :=
          mem_submissions (show txData ∈ submissions back by simp [later])
        have whole : trace = (front ++ event :: middle) ++ submission :: last := by simp [split, split']
        have quiet : Calm (front ++ event :: middle) := (path_submits path whole txData same).2.1
        exact absurd expired (quiet event (by simp))
  · have ending := (sat_recorded_path path [] sendTransaction_sent).2
    rintro (⟨tx, rfl⟩ | ⟨error, rfl⟩) closes
    · have sent : Sent service tx trace := ending
      obtain ⟨txResponse, member, confirms⟩ := sent.2 front event back split expired calm
      exact ⟨⟨fun _ => ⟨txResponse, member, tx, confirms⟩, fun _ => ⟨tx, rfl⟩⟩, fun none =>
        absurd ⟨tx, rfl⟩ none⟩
    · have failed : Lost service trace ∨ ClosingFails service trace := ending
      obtain ⟨unconfirmed, asks⟩ := failed.resolve_right closes
      refine ⟨⟨?_, ?_⟩, fun _ => asks front event back split expired calm retried responded⟩
      · rintro ⟨tx, same⟩
        cases same
      · rintro ⟨txResponse, _, tx, first, receipt, timestamp, last, same, confirmed⟩
        refine absurd ⟨front ++ event :: first, receipt, timestamp, last, ?_, confirmed⟩
          (unconfirmed txResponse tx)
        simp [split, same]

end Runs

section AnchorProof

variable {State : Type} {setting : Setting WorldOp WorldOp.Reply Failure State}
    {anchorService : AnchorService}
  {anchorFormats : Formats} {history : List (Event WorldOp WorldOp.Reply Failure State)}

/-- The proof names the root and the transaction that was sent for it. -/
def ProofOf (anchorService : AnchorService) (anchorFormats : Formats) (root : Cid) (tx : Transaction)
    (proofCid : Cid) : Prop :=
  proofCid = .record (anchorProof root tx.chain
    (anchorFormats.ethereumTransactionCid (tx.txHash.drop 2).toString) anchorService.useSmartContractAnchors)

def Founded (anchorService : AnchorService) (anchorFormats : Formats) (proofCid : Cid)
    (history : List (Event WorldOp WorldOp.Reply Failure State)) : Prop :=
  ∃ root before tx after, ⟨.sendTransaction root, before, .ok tx, after⟩ ∈ history ∧
    ProofOf anchorService anchorFormats root tx proofCid

/-- The Merkle CAR is stored under a proof of a transaction that was sent before. -/
def StoresFounded (anchorService : AnchorService) (anchorFormats : Formats) (op : WorldOp)
    (before : State × List (Event WorldOp WorldOp.Reply Failure State)) (_ : Except Failure op.Reply)
    (_ : State × List (Event WorldOp WorldOp.Reply Failure State)) : Prop :=
  ∀ proofCid car, op = .storeCarFile proofCid car → Founded anchorService anchorFormats proofCid before.2

def Storeless (op : WorldOp) : Prop := ∀ proofCid car, op ≠ .storeCarFile proofCid car

theorem Storeless.founded {op : WorldOp} (storeless : Storeless op)
    {before after : State × List (Event WorldOp WorldOp.Reply Failure State)}
    {reply : Except Failure op.Reply} :
    StoresFounded anchorService anchorFormats op before reply after :=
  fun proofCid car same => absurd same (storeless proofCid car)

theorem quiet_storeless {op : WorldOp} (quiet : op.Quiet) : Storeless op := by
  rintro proofCid car rfl
  cases quiet

theorem storeless_sat {A : Type} {program : Code A} (confined : program.Confined Storeless)
    {state : State × List (Event WorldOp WorldOp.Reply Failure State)} :
    Sat setting.recorded (StoresFounded anchorService anchorFormats) (fun _ _ => True) (fun _ _ => True)
    program state :=
  sat_confined confined fun _ storeless _ _ _ _ => storeless.founded

/-- Quiet steps keep the transaction in the history. -/
theorem quiet_sat {A : Type} {program : Code A} (confined : program.Confined WorldOp.Quiet) {proofCid : Cid}
    {state : State × List (Event WorldOp WorldOp.Reply Failure State)}
    (founded : Founded anchorService anchorFormats proofCid state.2) :
    Sat setting.recorded (StoresFounded anchorService anchorFormats)
      (fun _ reached => Founded anchorService anchorFormats proofCid reached.2) (fun _ _ => True)
      program state := by
  apply sat_mono (sat_keeps (fun reached => Founded anchorService anchorFormats proofCid reached.2)
    confined ?_ ?_ founded)
  · exact fun _ _ _ _ meets => meets
  · exact fun _ _ founded => founded
  · exact fun _ _ _ => trivial
  · rintro first second ⟨_, same⟩ founded
    rwa [same]
  · rintro op quiet before reply after ⟨_, added⟩ ⟨root, first, tx, last, member, proof⟩
    refine ⟨(quiet_storeless quiet).founded, root, first, tx, last, ?_, proof⟩
    rw [added]
    exact List.mem_append_left _ member

/-- The root of the tree goes into the transaction and into the proof. -/
theorem anchorCandidates_founded (fuel : Nat) (candidates : List Candidate) (start : State) :
    Sat setting.recorded (StoresFounded anchorService anchorFormats) (fun _ _ => True) (fun _ _ => True)
      (AnchorService.anchorCandidates anchorService anchorFormats fuel candidates) (start, []) := by
  have building : (AnchorService.buildMerkleTree candidates).Confined Storeless :=
    Prog.confined_handle
    (Prog.confined_call (WorldOp.buildMerkleTree candidates) fun _ _ => WorldOp.noConfusion)
      fun _ => trivial
  refine sat_bind (fun _ _ => True) (storeless_sat building) ?_
  rintro merkleTree ⟨state, history⟩ _
  refine sat_bind
    (fun tx reached => ∀ proofCid, ProofOf anchorService anchorFormats merkleTree.root tx proofCid →
    Founded anchorService anchorFormats proofCid reached.2) ?_ ?_
  · apply sat_recorded_call (WorldOp.sendTransaction merkleTree.root)
    · intro before _ tx after _
      refine ⟨fun _ _ => WorldOp.noConfusion, fun proofCid proof => ?_⟩
      exact ⟨merkleTree.root, before, tx, after, by simp, proof⟩
    · intro before _ error after _
      exact ⟨fun _ _ => WorldOp.noConfusion, trivial⟩
  rintro tx state founded
  have founded := founded _ rfl
  refine sat_bind _ (quiet_sat (AnchorService.createAnchorCommits_quiet anchorService _ _ _ _) founded) ?_
  rintro ⟨anchors, car⟩ state founded
  refine sat_bind _ (quiet_sat (AnchorService.importCAR_quiet anchorService car) founded) ?_
  rintro _ state founded
  refine sat_bind (fun _ _ => True) ?_ fun _ _ _ => ?_
  · apply sat_call (WorldOp.storeCarFile _ car)
    · rintro before ⟨_, same⟩ value after _
      refine ⟨fun proofCid stored sameOp => ?_, trivial⟩
      injection sameOp with sameCid _
      rw [same, ← sameCid]
      exact founded
    · rintro before ⟨_, same⟩ error after _
      refine ⟨fun proofCid stored sameOp => ?_, trivial⟩
      injection sameOp with sameCid _
      rw [same, ← sameCid]
      exact founded
  · have witnesses :=
      Prog.confined_mono (AnchorService.storeWitnessCARs_quiet car anchors) fun op => quiet_storeless
    refine storeless_sat (Prog.confined_bind witnesses fun _ => ?_)
    refine Prog.confined_bind (AnchorService.persistAnchorResult_confined ?_ (fun _ => ?_) ?_ fuel)
      fun _ => trivial
    all_goals exact fun _ _ => WorldOp.noConfusion

end AnchorProof

/-- A call submits few and equal transactions, its result carries the root, and so does every anchor proof. -/
theorem transaction_carries_root (service : EthereumBlockchainService) (formats : EthereumFormats) :
    (∀ rootCid trace residue,
      Path (node formats) (sendTransaction service formats rootCid) () trace residue () →
      (submissions trace).length ≤ MAX_RETRIES ∧
      (∃ nonce, ∀ txData ∈ submissions trace, txData.nonce = nonce ∧ txData.toAddress = recipient service ∧
        txData.data = calldata service formats rootCid) ∧
      (∀ tx, residue = .done tx → CarriesRoot service formats rootCid trace tx) ∧
      ∀ front event back, trace = front ++ event :: back → Expired event → Calm front →
      1 ≤ attemptsMade front →
        recorded service front ≠ [] → submissions back = [] ∧
          ((∃ tx, residue = .done tx) ∨ (∃ error, residue = .fail error) → ¬ ClosingFails service trace →
            DecidedBefore service front back residue)) ∧
    ∀ {State : Type} (setting : Setting WorldOp WorldOp.Reply Failure State) (anchorService : AnchorService)
      (anchorFormats : Formats) (fuel : Nat) (candidates : List Candidate) (start last : State)
      (trace : List (Event WorldOp WorldOp.Reply Failure State)) (residue : Code AnchorSummary),
      Path setting (AnchorService.anchorCandidates anchorService anchorFormats fuel candidates)
      start trace residue
        last →
      (∀ root before tx after, ⟨.sendTransaction root, before, .ok tx, after⟩ ∈ trace →
        ∃ sent, Path (node formats) (sendTransaction service formats root) () sent (.done tx) ()) →
      ∀ event ∈ trace, ∀ proofCid car, event.op = .storeCarFile proofCid car →
        ∃ root tx sent, ProofOf anchorService anchorFormats root tx proofCid ∧
          CarriesRoot service formats root sent tx := by
  constructor
  · intro rootCid trace residue path
    refine ⟨submissions_bounded path, submissions_alike path, ?_, ?_⟩
    · rintro tx rfl
      exact resolved_carriesRoot path
    · intro front event back split expired calm retried responded
      exact expired_decided path split expired calm retried responded
  · intro State setting anchorService anchorFormats fuel candidates start last trace residue path
      genuine event member proofCid car stores
    obtain ⟨front, back, split⟩ := List.append_of_mem member
    have stored :=
      (sat_recorded_path path [] (anchorCandidates_founded fuel candidates start)).1 front event back split
    obtain ⟨root, before, tx, after, inside, proof⟩ := stored proofCid car stores
    have inside : ⟨.sendTransaction root, before, .ok tx, after⟩ ∈ front := inside
    obtain ⟨sent, resolves⟩ := genuine root before tx after (by simp [split, inside])
    exact ⟨root, tx, sent, proof, resolved_carriesRoot resolves⟩

section LateTransaction

/-- This service sends plain transactions with a fixed gas limit. -/
def lateService : EthereumBlockchainService := ⟨some 1, 60, true, 21000, false, "contract", "wallet"⟩

def lateFormats : EthereumFormats := ⟨fun _ => "f0171", fun _ => [], fun hexEncoded => hexEncoded⟩

def lateRoot : Cid := .foreign "root"

def lateRequest : TransactionRequest := ⟨"wallet", "0x0f0171", 7, "wallet", none, none, none, some 21000⟩

def lateReceipt : TransactionReceipt := ⟨true, some 1, "0xaa", 12, "0xbb"⟩

def lateTransaction : Transaction := ⟨caipChainId 1, "0xaa", 12, 1700000000⟩

/-- The first attempt has its response and times out. -/
def lateFront : List EthereumEvent :=
  [⟨.getTransactionCount "wallet", (), .ok (7 : Nat), ()⟩,
    ⟨.getBalance "wallet", (), .ok (0 : Int), ()⟩,
    ⟨.sendTransaction lateRequest, (), .ok (⟨"0xaa", 1⟩ : TransactionResponse), ()⟩,
    ⟨.waitForTransaction "0xaa" 4 60000, (), .error ⟨some .TIMEOUT, "timeout exceeded"⟩, ()⟩,
    ⟨.delay 5000, (), .ok (), ()⟩]

/-- The nonce of the second attempt has expired, because the first transaction was mined. -/
def lateExpiry : EthereumEvent :=
  ⟨.sendTransaction lateRequest, (), .error ⟨some .NONCE_EXPIRED, "nonce has already been used"⟩, ()⟩

def lateBack : List EthereumEvent :=
  [⟨.waitForTransaction "0xaa" 4 60000, (), .ok lateReceipt, ()⟩,
    ⟨.getBlock "0xbb", (), .ok (some (1700000000 : Nat)), ()⟩,
    ⟨.getBalance "wallet", (), .ok (0 : Int), ()⟩]

theorem late_path : Path (node lateFormats) (sendTransaction lateService lateFormats lateRoot) ()
    (lateFront ++ lateExpiry :: lateBack) (.done lateTransaction) () := by
  apply Path.reply (node lateFormats) (EthereumOp.getTransactionCount "wallet") (.ok (7 : Nat)) trivial
  apply Path.reply (node lateFormats) (EthereumOp.getBalance "wallet") (.ok (0 : Int)) trivial
  apply Path.reply (node lateFormats) (EthereumOp.sendTransaction lateRequest)
    (.ok (⟨"0xaa", 1⟩ : TransactionResponse)) trivial
  apply Path.reply (node lateFormats) (EthereumOp.waitForTransaction "0xaa" 4 60000)
    (.error ⟨some .TIMEOUT, "timeout exceeded"⟩) trivial
  apply Path.reply (node lateFormats) (EthereumOp.delay 5000) (.ok ()) trivial
  apply Path.reply (node lateFormats) (EthereumOp.sendTransaction lateRequest)
    (.error ⟨some .NONCE_EXPIRED, "nonce has already been used"⟩) trivial
  apply Path.reply (node lateFormats) (EthereumOp.waitForTransaction "0xaa" 4 60000) (.ok lateReceipt) rfl
  apply Path.reply (node lateFormats) (EthereumOp.getBlock "0xbb") (.ok (some (1700000000 : Nat))) trivial
  apply Path.reply (node lateFormats) (EthereumOp.getBalance "wallet") (.ok (0 : Int)) trivial
  exact Path.stop _ _

/-- This batch has no candidates, and every operation may get any answer. -/
def freely : Setting WorldOp WorldOp.Reply Failure Unit where
  perform _ _ _ _ := True
  rely _ _ := True
  rely_refl _ := trivial
  rely_trans _ _ := trivial

def plainWorker : AnchorService := ⟨3, 1, false, false, false, false, ⟨43200000, 300000⟩⟩

def plainFormats : Formats := ⟨fun _ => none, fun _ => none, .foreign⟩

def plainTree : MerkleCAR := ⟨lateRoot, [], fun _ => [], .empty⟩

def plainProof : Cid × Car :=
    AnchorService.createIPFSProof plainWorker plainFormats .empty lateTransaction lateRoot

def plainTrace : List (Event WorldOp WorldOp.Reply Failure Unit) :=
  [⟨.buildMerkleTree [], (), .ok plainTree, ()⟩, ⟨.sendTransaction lateRoot, (), .ok lateTransaction, ()⟩,
    ⟨.storeCarFile plainProof.1 plainProof.2, (), .ok (), ()⟩]

theorem plain_path : ∃ residue,
    Path freely (AnchorService.anchorCandidates plainWorker plainFormats 1 []) () plainTrace residue () := by
  apply Exists.intro
  apply Path.reply freely (WorldOp.buildMerkleTree []) (.ok plainTree) trivial
  apply Path.reply freely (WorldOp.sendTransaction lateRoot) (.ok lateTransaction) trivial
  apply Path.reply freely (WorldOp.storeCarFile plainProof.1 plainProof.2) (.ok ()) trivial
  exact Path.stop _ _

/-- The first transaction is confirmed after the nonce of the second one, and a batch stores a proof of it. -/
theorem transaction_carries_root_late :
    Path (node lateFormats) (sendTransaction lateService lateFormats lateRoot) ()
      (lateFront ++ lateExpiry :: lateBack) (.done lateTransaction) () ∧
    CarriesRoot lateService lateFormats lateRoot (lateFront ++ lateExpiry :: lateBack) lateTransaction ∧
    DecidedBefore lateService lateFront lateBack (.done lateTransaction) ∧
    ∃ residue, Path freely (AnchorService.anchorCandidates plainWorker plainFormats 1 []) ()
      plainTrace residue
        () ∧
      ∃ root tx sent, ProofOf plainWorker plainFormats root tx plainProof.1 ∧
        CarriesRoot lateService lateFormats root sent tx := by
  obtain ⟨runs, batches⟩ := transaction_carries_root lateService lateFormats
  obtain ⟨_, _, resolved, expires⟩ := runs lateRoot _ _ late_path
  refine ⟨late_path, resolved _ rfl, ?_, ?_⟩
  · have calm : Calm lateFront := by
      intro event member
      simp only [lateFront, List.mem_cons, List.not_mem_nil, or_false] at member
      rcases member with rfl | rfl | rfl | rfl | rfl
      · exact not_expired _
      · exact not_expired _
      · exact not_expired _
      · rintro ⟨error, same, code⟩
        cases same
        cases code
      · exact not_expired _
    refine (expires lateFront lateExpiry lateBack rfl ⟨_, rfl, rfl⟩ calm (by decide) ?_).2
      (Or.inl ⟨_, rfl⟩) ?_
    · decide
    · rintro ⟨front, error, same⟩
      have last := congrArg List.getLast? same
      rw [List.getLast?_concat] at last
      have differ := congrArg (fun event : EthereumEvent => event.reply.isOk) (Option.some.inj last)
      cases differ
  · obtain ⟨residue, path⟩ := plain_path
    refine ⟨residue, path, ?_⟩
    refine batches freely plainWorker plainFormats 1 [] () () plainTrace residue path ?_ _
      (List.mem_cons_of_mem _ (List.mem_cons_of_mem _ List.mem_cons_self)) _ _ rfl
    intro root before tx after member
    simp only [plainTrace, List.mem_cons, List.not_mem_nil, or_false] at member
    rcases member with same | same | same
    · cases same
    · cases same
      exact ⟨_, late_path⟩
    · cases same

end LateTransaction

end CeramicAnchor.EthereumBlockchainService
