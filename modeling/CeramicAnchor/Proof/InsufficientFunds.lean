import CeramicAnchor.Concurrency.Run
import CeramicAnchor.Proof.ConfirmedTransaction

/-
This file says when a rejection for lack of funds is decided by the cost of the transaction.
-/

namespace CeramicAnchor.EthereumBlockchainService
open Concurrency

section Trace

/-- The latest operation failed for lack of funds. -/
def LacksFunds (trace : List EthereumEvent) : Prop :=
  ∃ front event error, trace = front ++ [event] ∧ event.op.Submitting ∧ event.reply = .error error ∧
    error.code = some .INSUFFICIENT_FUNDS

/-- These transactions were shown to the node for an estimate or for submission. -/
def shown (trace : List EthereumEvent) : List TransactionRequest :=
  trace.filterMap fun event => match event with
    | ⟨.estimateGas txData, _, _, _⟩ => some txData
    | ⟨.sendTransaction txData, _, _, _⟩ => some txData
    | _ => none

def gasEstimates (trace : List EthereumEvent) : List Int :=
  trace.filterMap fun event => match event with
    | ⟨.estimateGas _, _, .ok gasLimit, _⟩ => some gasLimit
    | _ => none

/-- The balance is read before the first attempt. -/
def startingBalance (trace : List EthereumEvent) : Option Int :=
  trace.findSome? fun event => match event with
    | ⟨.getBalance _, _, .ok balance, _⟩ => some balance
    | _ => none

/-- A legacy transaction has a gas price only. -/
def TransactionRequest.feePerGas (txData : TransactionRequest) : Option Int :=
    txData.maxFeePerGas.or txData.gasPrice

/-- This error names both amounts. -/
def costError (txCost walletBalance : Int) : EthereumError :=
  let cost := toHexString txCost
  let balance := toHexString walletBalance
  .thrown s!"Transaction cost is greater than our current balance. [txCost: {cost}, balance: {balance}]"

variable (service : EthereumBlockchainService)

/-- After a delay the call goes on with the next of its attempts. -/
def retry (walletBalance : Int) (left attempt : Nat) (sending : Sending) : EthereumCode Transaction := do
  Prog.call (EthereumOp.delay 5000)
  attemptFrom (sendAttempt service walletBalance) left attempt sending

/-- The balance is read again behind the attempts. -/
def reported (attempts : EthereumCode Transaction) : EthereumCode Transaction := do
  let result ← attempts
  let _endingWalletBalance : Int ← Prog.call (EthereumOp.getBalance service.walletAddress)
  pure result

/-- The fees that are set on the transaction decide whether the call is aborted or tries again. -/
def DecidedByCost (trace : List EthereumEvent) (residue : EthereumCode Transaction) : Prop :=
  ∃ txData gasLimit fee balance, (shown trace).getLast? = some txData ∧ txData.gasLimit = some gasLimit ∧
    txData.feePerGas = some fee ∧ startingBalance trace = some balance ∧
    (balance < gasLimit * fee → residue = .fail (costError (gasLimit * fee) balance)) ∧
    (gasLimit * fee ≤ balance → ∃ left attempt sending, left + attempt = MAX_RETRIES ∧
      residue = reported service (retry service balance left attempt sending))

/-- Both EIP-1559 fees and the gas have been estimated. -/
def Estimated (trace : List EthereumEvent) : Prop :=
  (∃ feeData ∈ estimates trace, feeData.IsEip1559) ∧ gasEstimates trace ≠ []

/-- The transaction has a maximal fee and a gas limit once they have been estimated. -/
structure Prices (trace : List EthereumEvent) (txData : TransactionRequest) : Prop where
  fees : txData.maxFeePerGas.isSome ↔ ∃ feeData ∈ estimates trace, feeData.IsEip1559
  gas : service.overrideGasConfig = false → (txData.gasLimit.isSome ↔ gasEstimates trace ≠ [])
  overridden : service.overrideGasConfig = true → txData.maxFeePerGas = none

/-- The transaction is the latest one that was shown, if one was shown. -/
structure Tracks (trace : List EthereumEvent) (txData : TransactionRequest) : Prop where
  prices : Prices service trace txData
  latest : (shown trace).getLast? = some txData ∨ shown trace = [] ∧ txData.gasLimit = none

end Trace

section Tracking

variable {service : EthereumBlockchainService} {trace : List EthereumEvent} {txData : TransactionRequest}

theorem shown_append (trace later : List EthereumEvent) :
    shown (trace ++ later) = shown trace ++ shown later :=
  List.filterMap_append

theorem gasEstimates_append (trace later : List EthereumEvent) :
    gasEstimates (trace ++ later) = gasEstimates trace ++ gasEstimates later := List.filterMap_append

/-- A trace lacks funds by its last event alone. -/
theorem lacksFunds_concat {op : EthereumOp} {reply : Except EthereumError op.Reply} :
    LacksFunds (trace ++ [⟨op, (), reply, ()⟩]) ↔
      op.Submitting ∧ ∃ error, reply = .error error ∧ error.code = some .INSUFFICIENT_FUNDS := by
  constructor
  · rintro ⟨front, event, error, same, submits, rejected, code⟩
    obtain ⟨_, last⟩ := List.append_inj' same rfl
    obtain rfl := (List.cons.inj last).1
    exact ⟨submits, error, rejected, code⟩
  · rintro ⟨submits, error, rejected, code⟩
    exact ⟨trace, _, error, rfl, submits, rejected, code⟩

theorem not_lacksFunds_ok {op : EthereumOp} (value : op.Reply) :
    ¬ LacksFunds (trace ++ [⟨op, (), .ok value, ()⟩]) := by
  rw [lacksFunds_concat]
  rintro ⟨_, error, same, _⟩
  cases same

theorem not_lacksFunds_other {op : EthereumOp} (other : ¬ op.Submitting)
    (reply : Except EthereumError op.Reply) : ¬ LacksFunds (trace ++ [⟨op, (), reply, ()⟩]) := by
  rw [lacksFunds_concat]
  exact fun lacks => other lacks.1

/-- An event that estimates nothing keeps the prices. -/
theorem Prices.concat (prices : Prices service trace txData) {event : EthereumEvent}
    (noFees : estimates [event] = []) (noGas : gasEstimates [event] = []) :
    Prices service (trace ++ [event]) txData := by
  refine ⟨?_, ?_, prices.overridden⟩
  · rw [estimates_append, noFees, List.append_nil]
    exact prices.fees
  · rw [gasEstimates_append, noGas, List.append_nil]
    exact prices.gas

/-- An operation that submits nothing leaves the transaction as it was shown. -/
theorem Tracks.concat (tracks : Tracks service trace txData) {op : EthereumOp} (other : ¬ op.Submitting)
    (reply : Except EthereumError op.Reply) : Tracks service (trace ++ [⟨op, (), reply, ()⟩]) txData := by
  have quiet : estimates [⟨op, (), reply, ()⟩] = [] ∧ gasEstimates [⟨op, (), reply, ()⟩] = [] ∧
      shown [⟨op, (), reply, ()⟩] = [] := by
    cases op <;> first | exact ⟨rfl, rfl, rfl⟩ | exact absurd trivial other
  refine ⟨tracks.prices.concat quiet.1 quiet.2.1, ?_⟩
  rw [shown_append, quiet.2.2, List.append_nil]
  exact tracks.latest

/-- A submitted transaction is the latest one that was shown. -/
theorem Prices.submitted (prices : Prices service trace txData)
    (reply : Except EthereumError TransactionResponse) :
    Tracks service (trace ++ [⟨.sendTransaction txData, (), reply, ()⟩]) txData := by
  refine ⟨prices.concat rfl rfl, .inl ?_⟩
  rw [shown_append]
  exact List.getLast?_concat

end Tracking

section Attempt

variable {service : EthereumBlockchainService} {formats : EthereumFormats} {walletBalance : Int}
  {trace : List EthereumEvent}

/-- A rejection is handed on with its code. -/
structure Handed (service : EthereumBlockchainService) (txData : TransactionRequest) (err : EthereumError)
    (trace : List EthereumEvent) : Prop where
  tracks : Tracks service trace txData
  code : LacksFunds trace → err.code = some .INSUFFICIENT_FUNDS

/-- An attempt without a result leaves the transaction as it was shown, and its funds may suffice. -/
structure Spared (service : EthereumBlockchainService) (walletBalance : Int)
    (outcome : Sending × Option Transaction) (trace : List EthereumEvent) : Prop where
  tracks : outcome.2 = none → Tracks service trace outcome.1.txData
  decided : LacksFunds trace → outcome.2 = none ∧
    handleInsufficientFundsError outcome.1.txData walletBalance = .ok ()

/-- An attempt that is aborted for lack of funds is aborted by its handler. -/
def Refused (service : EthereumBlockchainService) (walletBalance : Int) (err : EthereumError)
    (trace : List EthereumEvent) : Prop :=
  LacksFunds trace → ∃ txData, Tracks service trace txData ∧
    handleInsufficientFundsError txData walletBalance = .error err

theorem Prices.priced {txData priced : TransactionRequest} {feeData : FeeData} {attempt : Nat}
    (prices : Prices service trace txData) (estimating : service.overrideGasConfig = false)
    (chosen : setFees txData feeData attempt = .ok priced) :
    Prices service (trace ++ [⟨.getFeeData, (), .ok feeData, ()⟩]) priced ∧
    priced.gasLimit = txData.gasLimit := by
  have arrived : estimates (trace ++ [⟨.getFeeData, (), .ok feeData, ()⟩]) = estimates trace ++ [feeData] :=
    (arrived_estimate trace feeData).1
  have noGas : gasEstimates (trace ++ [⟨.getFeeData, (), .ok feeData, ()⟩]) = gasEstimates trace := by
    rw [gasEstimates_append]
    exact List.append_nil _
  have either : (∃ other ∈ estimates trace ++ [feeData], other.IsEip1559) ↔
      txData.maxFeePerGas.isSome ∨ feeData.IsEip1559 := by
    rw [prices.fees]
    simp only [List.mem_append, List.mem_singleton, or_and_right, exists_or, exists_eq_left]
  unfold setFees at chosen
  split at chosen
  · rename_i priority most priorityThere mostThere
    obtain rfl := Except.ok.inj chosen
    refine ⟨⟨?_, ?_, fun overridden => ?_⟩, rfl⟩
    · rw [arrived, either]
      exact iff_of_true rfl (.inr ⟨priority, most, priorityThere, mostThere⟩)
    · rw [noGas]
      exact prices.gas
    · rw [estimating] at overridden
      cases overridden
  · rename_i missing
    split at chosen
    · cases chosen
    · obtain rfl := Except.ok.inj chosen
      refine ⟨⟨?_, ?_, prices.overridden⟩, rfl⟩
      · rw [arrived, either]
        refine (or_iff_left ?_).symm
        rintro ⟨priority, most, priorityThere, mostThere⟩
        exact missing priority most priorityThere mostThere
      · rw [noGas]
        exact prices.gas

/-- An estimate that prices nothing keeps the transaction. -/
theorem Tracks.unpriced {txData : TransactionRequest} {feeData : FeeData} {attempt : Nat}
    {error : EthereumError}
    (tracks : Tracks service trace txData) (failed : setFees txData feeData attempt = .error error) :
    Tracks service (trace ++ [⟨.getFeeData, (), .ok feeData, ()⟩]) txData := by
  have legacy : ¬ feeData.IsEip1559 := by
    rintro ⟨priority, most, priorityThere, mostThere⟩
    simp [setFees, priorityThere, mostThere] at failed
  have arrived : estimates (trace ++ [⟨.getFeeData, (), .ok feeData, ()⟩]) = estimates trace ++ [feeData] :=
    (arrived_estimate trace feeData).1
  refine ⟨⟨?_, ?_, tracks.prices.overridden⟩, ?_⟩
  · rw [arrived, tracks.prices.fees]
    simp only [List.mem_append, List.mem_singleton, or_and_right, exists_or, exists_eq_left, legacy, or_false]
  · rw [gasEstimates_append]
    simpa [gasEstimates] using tracks.prices.gas
  · rw [shown_append]
    simpa [shown] using tracks.latest

/-- A rejection in a history that did not lack funds before is handed on. -/
theorem Tracks.handed {txData : TransactionRequest} {op : EthereumOp} {error : EthereumError}
    (tracks : Tracks service (trace ++ [⟨op, (), .error error, ()⟩]) txData) :
    Handed service txData error (trace ++ [⟨op, (), .error error, ()⟩]) := by
  refine ⟨tracks, fun lacks => ?_⟩
  obtain ⟨_, other, same, code⟩ := lacksFunds_concat.mp lacks
  obtain rfl := Except.error.inj same
  exact code

theorem Tracks.rejectedFees {txData : TransactionRequest} (tracks : Tracks service trace txData)
    (error : EthereumError) : Tracks service (trace ++ [⟨.getFeeData, (), .error error, ()⟩]) txData := by
  refine ⟨tracks.prices.concat rfl rfl, ?_⟩
  rw [shown_append]
  simpa [shown] using tracks.latest

/-- The gas estimate shows the transaction, and its answer is set on it. -/
theorem Prices.estimated {priced : TransactionRequest} (prices : Prices service trace priced)
    (estimating : service.overrideGasConfig = false) (gasLimit : Int) :
    Prices service (trace ++ [⟨.estimateGas priced, (), .ok gasLimit, ()⟩])
    { priced with gasLimit := some gasLimit } := by
  refine ⟨?_, fun _ => iff_of_true rfl ?_, fun overridden => ?_⟩
  · rw [estimates_append]
    simpa [estimates] using prices.fees
  · simp [gasEstimates]
  · rw [estimating] at overridden
    cases overridden

theorem Prices.unestimated {priced : TransactionRequest} (prices : Prices service trace priced)
    (error : EthereumError) :
    Tracks service (trace ++ [⟨.estimateGas priced, (), .error error, ()⟩]) priced := by
  refine ⟨prices.concat rfl rfl, .inl ?_⟩
  rw [shown_append]
  exact List.getLast?_concat

/-- Pricing sets the estimates on the transaction, or it hands its rejection on. -/
theorem setGasPrice_prices {txData : TransactionRequest} (tracks : Tracks service trace txData)
    (attempt : Nat) {raise : EthereumError → Unit × List EthereumEvent → Prop} :
    Sat (node formats).recorded (fun _ _ _ _ => True)
      (fun outcome reached => match outcome.2 with
        | .ok _ => Prices service reached.2 outcome.1
        | .error err => Handed service outcome.1 err reached.2)
      raise (setGasPrice service txData attempt) ((), trace) := by
  unfold setGasPrice
  split
  · rename_i overridden
    refine ⟨tracks.prices.fees, fun estimating => ?_, tracks.prices.overridden⟩
    rw [estimating] at overridden
    cases overridden
  · rename_i estimating
    have estimating : service.overrideGasConfig = false := by simpa using estimating
    refine sat_bind (fun outcome reached => reached = ((), trace ++ [⟨.getFeeData, (), outcome, ()⟩]))
      (sat_recorded_attempt EthereumOp.getFeeData fun _ _ _ _ _ => ⟨trivial, rfl⟩) ?_
    rintro outcome _ rfl
    cases outcome with
    | error err => exact (tracks.rejectedFees err).handed
    | ok feeData =>
        cases chosen : setFees txData feeData attempt with
        | error err =>
            simp only [chosen]
            exact ⟨tracks.unpriced chosen, fun lacks => absurd lacks (not_lacksFunds_ok _)⟩
        | ok priced =>
            simp only [chosen]
            have prices := (tracks.prices.priced estimating chosen).1
            refine sat_bind
              (fun gas reached => reached = ((), trace ++ [⟨.getFeeData, (), .ok feeData, ()⟩] ++
                [⟨.estimateGas priced, (), gas, ()⟩]))
              (sat_recorded_attempt (EthereumOp.estimateGas priced) fun _ _ _ _ _ => ⟨trivial, rfl⟩) ?_
            rintro gas _ rfl
            cases gas with
            | error err => exact (prices.unestimated err).handed
            | ok gasLimit => exact prices.estimated estimating gasLimit

theorem EthereumOp.Confirming.free (op : EthereumOp) (confirming : op.Confirming) : ¬ op.Submitting := by
  cases op <;> first | exact id | cases confirming

/-- A confirmation leaves the transaction alone and lacks no funds. -/
theorem sat_confirming {A : Type} {program : EthereumCode A}
    (confined : program.Confined EthereumOp.Confirming)
    {txData : TransactionRequest} (tracks : Tracks service trace txData) (funded : ¬ LacksFunds trace) :
    Sat (node formats).recorded (fun _ _ _ _ => True)
      (fun _ reached => Tracks service reached.2 txData ∧ ¬ LacksFunds reached.2)
      (fun _ reached => Tracks service reached.2 txData ∧ ¬ LacksFunds reached.2) program ((), trace) := by
  apply sat_keeps (fun (reached : Unit × List EthereumEvent) => Tracks service reached.2 txData ∧
    ¬ LacksFunds reached.2) confined
  · rintro first second ⟨_, same⟩ held
    rwa [same]
  · rintro op confirming before reply after ⟨_, added⟩ ⟨tracks, _⟩
    rw [added]
    exact ⟨trivial, tracks.concat (EthereumOp.Confirming.free op confirming) reply,
      not_lacksFunds_other (EthereumOp.Confirming.free op confirming) reply⟩
  · exact ⟨tracks, funded⟩

theorem Spared.sent {sending : Sending} {transaction : Transaction} (funded : ¬ LacksFunds trace) :
    Spared service walletBalance (sending, some transaction) trace :=
  ⟨(by rintro ⟨⟩), fun lacks => absurd lacks funded⟩

/-- The handler asks the cost only when funds were lacking. -/
theorem handleError_spares {attemptNum : Nat} {sending : Sending} {err : EthereumError}
    (handed : Handed service sending.txData err trace) :
    Sat (node formats).recorded (fun _ _ _ _ => True)
      (fun outcome reached => Spared service walletBalance outcome reached.2)
      (fun err reached => Refused service walletBalance err reached.2)
      (handleError service walletBalance attemptNum sending err) ((), trace) := by
  have calm : err.code ≠ some .INSUFFICIENT_FUNDS → ¬ LacksFunds trace :=
    fun other lacks => other (handed.code lacks)
  unfold handleError
  split
  · cases decided : handleInsufficientFundsError sending.txData walletBalance with
    | error refusal => exact fun _ => ⟨_, handed.tracks, decided⟩
    | ok _ => exact ⟨fun _ => handed.tracks, fun _ => ⟨rfl, decided⟩⟩
  · rename_i code
    have funded := calm (by rw [code]; decide)
    exact ⟨fun _ => handed.tracks, fun lacks => absurd lacks funded⟩
  · rename_i code
    have funded := calm (by rw [code]; decide)
    split
    · exact fun lacks => absurd lacks funded
    · refine sat_bind _ (sat_mono (sat_confirming (checkResponses_confirming _) handed.tracks funded)
        (fun _ _ _ _ _ => trivial) (fun _ _ held => held) fun _ _ held lacks => absurd lacks held.2) ?_
      rintro transaction reached ⟨_, funded⟩
      exact .sent funded
  · rename_i code
    have funded := calm (by rw [code]; decide)
    exact ⟨fun _ => handed.tracks, fun lacks => absurd lacks funded⟩

/-- A submission shows the priced transaction. -/
theorem trySendTransaction_tracks {txData : TransactionRequest} (prices : Prices service trace txData) :
    Sat (node formats).recorded (fun _ _ _ _ => True)
      (fun _ reached => Tracks service reached.2 txData ∧ ¬ LacksFunds reached.2)
      (fun err reached => Handed service txData err reached.2) (trySendTransaction service txData)
      ((), trace) := by
  refine sat_bind (fun txResponse reached =>
    reached = ((), trace ++ [⟨.sendTransaction txData, (), .ok txResponse, ()⟩])) ?_ ?_
  · exact sat_recorded_call (EthereumOp.sendTransaction txData) (fun _ _ _ _ _ => ⟨trivial, rfl⟩)
      fun _ _ error _ _ => ⟨trivial, (prices.submitted (.error error)).handed⟩
  · rintro txResponse _ rfl
    have funded : ¬ LacksFunds (trace ++ [⟨.sendTransaction txData, (), .ok txResponse, ()⟩]) :=
      not_lacksFunds_ok _
    have tracks := prices.submitted (.ok txResponse)
    have thrown : ∀ error, Handed service txData error
        (trace ++ [⟨.sendTransaction txData, (), .ok txResponse, ()⟩]) :=
      fun error => ⟨tracks, fun lacks => absurd lacks funded⟩
    cases service.loadedChainId with
    | error error => exact thrown error
    | ok chainId =>
        change Sat _ _ _ _
            (ofExcept (assertSameChainId txResponse.chainId chainId) >>= fun _ => pure txResponse) _
        cases assertSameChainId txResponse.chainId chainId with
        | error error => exact thrown error
        | ok _ => exact ⟨tracks, funded⟩

/-- One attempt is spared or refused by the cost of its own transaction. -/
theorem sendAttempt_spares {attemptNum : Nat} {sending : Sending}
    (tracks : Tracks service trace sending.txData) :
    Sat (node formats).recorded (fun _ _ _ _ => True)
      (fun outcome reached => Spared service walletBalance outcome reached.2)
      (fun err reached => Refused service walletBalance err reached.2)
      (sendAttempt service walletBalance attemptNum sending) ((), trace) := by
  unfold sendAttempt
  refine sat_bind _ (setGasPrice_prices tracks attemptNum) ?_
  rintro ⟨txData, priced⟩ ⟨⟨⟩, reached⟩ held
  cases priced with
  | error err => exact handleError_spares held
  | ok _ =>
      refine sat_bind _ (sat_attempt (trySendTransaction_tracks held)) ?_
      rintro sent ⟨⟨⟩, reached⟩ held
      cases sent with
      | error err => exact handleError_spares held
      | ok txResponse =>
          refine sat_bind _
            (sat_attempt (sat_confirming (confirmTransactionSuccess_confirming txResponse) held.1 held.2)) ?_
          rintro confirmed ⟨⟨⟩, reached⟩ held
          cases confirmed with
          | error err => exact handleError_spares ⟨held.1, fun lacks => absurd lacks held.2⟩
          | ok transaction => exact .sent held.2

/-- A rejected pricing step ends the pricing with its error. -/
theorem setGasPrice_hands (txData : TransactionRequest) (attempt : Nat) :
    (setGasPrice service txData attempt).Leads fun _ reply rest => ∀ error, reply = .error error →
      ∃ changed, rest = .done (changed, .error error) := by
  unfold setGasPrice
  split
  · trivial
  · refine fun estimated => ⟨fun error rejected => ?_, ?_⟩
    · subst rejected
      exact ⟨txData, rfl⟩
    · cases estimated with
      | error error => trivial
      | ok feeData =>
          dsimp only [Prog.bind, pure, Prog.handle]
          cases setFees txData feeData attempt with
          | error error => trivial
          | ok priced =>
              refine fun gas => ⟨fun error rejected => ?_, ?_⟩
              · subst rejected
                exact ⟨priced, rfl⟩
              · cases gas <;> trivial

theorem ofExcept_rethrows {A : Type} (value : Except EthereumError A) : (ofExcept value).Rethrows := by
  cases value <;> trivial

theorem trySendTransaction_rethrows (txData : TransactionRequest) :
    (trySendTransaction service txData).Rethrows := by
  refine Prog.rethrows_bind (Prog.rethrows_call _) fun txResponse => ?_
  refine Prog.rethrows_bind (ofExcept_rethrows _) fun chainId => ?_
  exact Prog.rethrows_bind (ofExcept_rethrows _) fun _ => trivial

/-- The handler ends an attempt that lacks funds at once. -/
theorem handleError_ended {attemptNum : Nat} {sending : Sending} {err : EthereumError}
    (code : err.code = some .INSUFFICIENT_FUNDS) :
    (handleError service walletBalance attemptNum sending err).Ended := by
  unfold handleError
  rw [code]
  dsimp only
  cases handleInsufficientFundsError sending.txData walletBalance <;> trivial

/-- An attempt that lacks funds ends with the answer of its handler. -/
theorem sendAttempt_ends (attemptNum : Nat) (sending : Sending) :
    (sendAttempt service walletBalance attemptNum sending).Leads fun op reply rest => op.Submitting →
      ∀ error, reply = .error error → error.code = some .INSUFFICIENT_FUNDS → rest.Ended := by
  have confirming : ∀ {A : Type} {program : EthereumCode A}, program.Confined EthereumOp.Confirming →
      ∀ next : A → EthereumCode (Sending × Option Transaction), program.Leads fun op reply rest =>
      op.Submitting →
        ∀ error, reply = .error error → error.code = some .INSUFFICIENT_FUNDS → (rest >>= next).Ended := by
    intro A program confined next
    exact Prog.leads_confined confined fun op reply rest inside submits =>
      absurd submits (EthereumOp.Confirming.free op inside)
  have handled : ∀ sending err, (handleError service walletBalance attemptNum sending err).Leads
      fun op reply rest => op.Submitting → ∀ error, reply = .error error →
        error.code = some .INSUFFICIENT_FUNDS → rest.Ended := by
    intro sending err
    exact Prog.leads_confined (handleError_confirming _ _ _ _) fun op reply rest inside submits =>
      absurd submits (EthereumOp.Confirming.free op inside)
  unfold sendAttempt
  refine Prog.leads_bind
    (Prog.leads_mono (setGasPrice_hands _ _) fun op reply rest hands _ error rejected code => ?_) ?_
  · obtain ⟨changed, rfl⟩ := hands error rejected
    exact handleError_ended code
  · rintro ⟨txData, priced⟩
    cases priced with
    | error err => exact handled _ err
    | ok _ =>
        refine Prog.leads_bind (Prog.leads_handle (Prog.leads_bind (Prog.leads_mono
          (trySendTransaction_rethrows txData) fun op reply rest rethrown _ error rejected code => ?_)
          fun _ => trivial) fun _ => trivial) ?_
        · rw [rethrown error rejected]
          exact handleError_ended code
        · intro sent
          cases sent with
          | error err => exact handled _ err
          | ok txResponse =>
              refine Prog.leads_bind (confirming
                (Prog.confined_attempt (confirmTransactionSuccess_confirming txResponse)) _) ?_
              intro confirmed
              cases confirmed with
              | error err => exact handled _ err
              | ok transaction => trivial

end Attempt

section Attempts

variable {service : EthereumBlockchainService} {formats : EthereumFormats} {walletBalance : Int}
  {history trace : List EthereumEvent}

theorem LacksFunds.after (lacks : LacksFunds trace) (history : List EthereumEvent) :
    LacksFunds (history ++ trace) := by
  obtain ⟨front, event, error, rfl, submits, rejected, code⟩ := lacks
  exact ⟨history ++ front, event, error, (List.append_assoc _ _ _).symm, submits, rejected, code⟩

/-- Funds that are lacking behind an event that submits nothing are lacking in the rest. -/
theorem LacksFunds.behind {front back : List EthereumEvent} {op : EthereumOp}
    {reply : Except EthereumError op.Reply}
    (lacks : LacksFunds (front ++ ⟨op, (), reply, ()⟩ :: back)) (other : ¬ op.Submitting) :
    LacksFunds back := by
  rcases List.eq_nil_or_concat back with rfl | ⟨rest, last, rfl⟩
  · exact absurd lacks (not_lacksFunds_other other reply)
  · obtain ⟨early, event, error, same, submits, rejected, code⟩ := lacks
    have same : (front ++ ⟨op, (), reply, ()⟩ :: rest) ++ [last] = early ++ [event] := by simpa using same
    obtain ⟨_, ends⟩ := List.append_inj' same rfl
    obtain rfl := (List.cons.inj ends).1
    exact ⟨rest, last, error, List.concat_eq_append, submits, rejected, code⟩

/-- The handler of this transaction aborts the call or lets it try again. -/
def HandledBy (service : EthereumBlockchainService) (walletBalance : Int) (txData : TransactionRequest)
    (residue : EthereumCode Transaction) : Prop :=
  match handleInsufficientFundsError txData walletBalance with
  | .error err => residue = .fail err
  | .ok _ => ∃ left attempt sending, left + attempt = MAX_RETRIES ∧
      residue = retry service walletBalance left attempt sending

theorem HandledBy.not_done {txData : TransactionRequest} {transaction : Transaction} :
    ¬ HandledBy service walletBalance txData (.done transaction) := by
  unfold HandledBy
  split
  · intro same
    cases same
  · rintro ⟨left, attempt, sending, _, same⟩
    cases same

/-- A path of one attempt that lacks funds has ended as its handler says. -/
theorem sendAttempt_lacks {attemptNum : Nat} {sending : Sending}
    {rest : EthereumCode (Sending × Option Transaction)}
    (tracks : Tracks service history sending.txData)
    (path : Path (node formats) (sendAttempt service walletBalance attemptNum sending) () trace rest ())
    (lacks : LacksFunds trace) :
    ∃ txData, Tracks service (history ++ trace) txData ∧
      match handleInsufficientFundsError txData walletBalance with
      | .error err => rest = .fail err
      | .ok _ => ∃ changed, rest = .done (changed, none) := by
  have ended : rest.Ended := by
    obtain ⟨front, event, error, rfl, submits, rejected, code⟩ := lacks
    exact path_leads path (sendAttempt_ends attemptNum sending) submits error rejected code
  have held :=
    (sat_recorded_path path history (@sendAttempt_spares service formats walletBalance history attemptNum
    sending tracks)).2
  have lacks := lacks.after history
  cases rest with
  | done outcome =>
      obtain ⟨changed, result⟩ := outcome
      obtain ⟨rfl, decided⟩ := held.decided lacks
      refine ⟨changed.txData, held.tracks rfl, ?_⟩
      rw [decided]
      exact ⟨changed, rfl⟩
  | fail err =>
      obtain ⟨txData, tracks, decided⟩ := held lacks
      refine ⟨txData, tracks, ?_⟩
      rw [decided]
  | halted => exact ended.elim
  | ask op next => exact ended.elim

/-- In each attempt, lacking funds is decided by the handler. -/
theorem attemptFrom_lacks {remaining attemptNum : Nat} {sending : Sending}
    {residue : EthereumCode Transaction}
    (bound : remaining + attemptNum = MAX_RETRIES) (tracks : Tracks service history sending.txData)
    (path : Path (node formats)
      (attemptFrom (sendAttempt service walletBalance) remaining attemptNum sending) ()
      trace residue ()) (lacks : LacksFunds trace) :
    ∃ txData, Tracks service (history ++ trace) txData ∧ HandledBy service walletBalance txData residue := by
  induction remaining generalizing attemptNum sending history trace with
  | zero =>
      cases path with
      | stop =>
          obtain ⟨front, event, _, same, _⟩ := lacks
          simp at same
  | succ remaining ih =>
      rcases path.bind_cases with ⟨rest, attempted, rfl⟩ | ⟨⟨changed, result⟩, front, back, ⟨⟩, rfl,
          attempted, path⟩
      · obtain ⟨txData, tracks, decided⟩ := sendAttempt_lacks tracks attempted lacks
        refine ⟨txData, tracks, ?_⟩
        unfold HandledBy
        cases outcome : handleInsufficientFundsError txData walletBalance with
        | error err =>
            rw [outcome] at decided
            rw [decided]
            rfl
        | ok _ =>
            rw [outcome] at decided
            obtain ⟨changed, rfl⟩ := decided
            exact ⟨remaining, attemptNum + 1, changed, by omega, rfl⟩
      · have held : Spared service walletBalance (changed, result) (history ++ front) :=
          (sat_recorded_path attempted history (sendAttempt_spares tracks)).2
        cases result with
        | some transaction =>
            cases path with
            | stop =>
                rw [List.append_nil] at lacks
                have absent := (held.decided (lacks.after history)).1
                cases absent
        | none =>
            rcases path.call_cases with ⟨rfl, rfl⟩ | ⟨⟨⟩, ⟨⟩, ⟨⟩, back, rfl, later⟩ | ⟨⟨⟩, error, rfl, rfl⟩
            · rw [List.append_nil] at lacks ⊢
              refine ⟨changed.txData, held.tracks rfl, ?_⟩
              rw [HandledBy, (held.decided (lacks.after history)).2]
              exact ⟨remaining, attemptNum + 1, changed, by omega, rfl⟩
            · have tracks :=
                (held.tracks rfl).concat (show ¬ (EthereumOp.delay 5000).Submitting from id) (.ok ())
              have bound : remaining + (attemptNum + 1) = MAX_RETRIES := by omega
              have decided := ih bound tracks later (lacks.behind id)
              simpa using decided
            · exact absurd lacks (not_lacksFunds_other id _)

end Attempts

section Call

variable {service : EthereumBlockchainService} {formats : EthereumFormats} {rootCid : Cid}
  {trace : List EthereumEvent} {residue : EthereumCode Transaction}

theorem EthereumOp.Preparing.free (op : EthereumOp) (preparing : op.Preparing) : ¬ op.Submitting := by
  cases op <;> first | exact id | cases preparing

/-- A new transaction has neither fees nor a gas limit. -/
theorem buildTransactionRequest_unpriced : (buildTransactionRequest service formats rootCid).Returns
    fun txData => txData.maxFeePerGas = none ∧ txData.gasLimit = none := by
  refine Prog.returns_bind (Prog.returns_trivial _) fun baseNonce _ => ?_
  split
  · exact ⟨rfl, rfl⟩
  · exact Prog.returns_bind (Prog.returns_trivial _) fun data _ => ⟨rfl, rfl⟩

theorem prepared (preparing : ∀ event ∈ trace, event.op.Preparing) :
    estimates trace = [] ∧ gasEstimates trace = [] ∧ shown trace = [] ∧ startingBalance trace = none := by
  refine ⟨?_, ?_, ?_, ?_⟩
  · refine List.filterMap_eq_nil_iff.mpr fun ⟨op, _, reply, _⟩ member => ?_
    cases op <;> first | rfl | exact (preparing _ member).elim
  · refine List.filterMap_eq_nil_iff.mpr fun ⟨op, _, reply, _⟩ member => ?_
    cases op <;> first | rfl | exact (preparing _ member).elim
  · refine List.filterMap_eq_nil_iff.mpr fun ⟨op, _, reply, _⟩ member => ?_
    cases op <;> first | rfl | exact (preparing _ member).elim
  · refine List.findSome?_eq_none_iff.mpr fun ⟨op, _, reply, _⟩ member => ?_
    cases op <;> first | rfl | exact (preparing _ member).elim

/-- A call that lacks funds is handled with the latest transaction and the starting balance. -/
theorem sendTransaction_lacks
    (path : Path (node formats) (sendTransaction service formats rootCid) () trace residue ())
    (lacks : LacksFunds trace) :
    ∃ txData balance attempts, Tracks service trace txData ∧ startingBalance trace = some balance ∧
      HandledBy service balance txData attempts ∧ residue = reported service attempts := by
  have preparing := @buildTransactionRequest_preparing service formats rootCid
  rcases path.bind_cases with ⟨rest, early, _⟩ | ⟨txData, front, back, ⟨⟩, rfl, built, path⟩
  · obtain ⟨front, event, _, rfl, submits, _⟩ := lacks
    exact absurd submits (EthereumOp.Preparing.free _ (early.confined preparing event (by simp)))
  have ready := built.confined preparing
  obtain ⟨noFees, noGas, unshown, unread⟩ := prepared ready
  obtain ⟨unpriced, unlimited⟩ : txData.maxFeePerGas = none ∧ txData.gasLimit = none :=
    (sat_path built (sat_returns (sat_trivial _ ()) buildTransactionRequest_unpriced)).2.2
  have tracks : Tracks service front txData :=
    ⟨⟨by simp [unpriced, noFees], fun _ => by simp [unlimited, noGas], fun _ => unpriced⟩,
      .inr ⟨unshown, unlimited⟩⟩
  rcases path.call_cases with ⟨rfl, _⟩ | ⟨⟨⟩, balance, ⟨⟩, back, rfl, later⟩ | ⟨⟨⟩, error, rfl, _⟩
  · rw [List.append_nil] at lacks
    obtain ⟨front, event, _, rfl, submits, _⟩ := lacks
    exact absurd submits (EthereumOp.Preparing.free _ (ready event (by simp)))
  · have read :
        ∀ rest, startingBalance (front ++ ⟨.getBalance service.walletAddress, (), .ok balance, ()⟩ :: rest) =
        some balance := by
      intro rest
      rw [startingBalance, List.findSome?_append, show List.findSome? _ front = none from unread]
      rfl
    have tracks :=
      tracks.concat (show ¬ (EthereumOp.getBalance service.walletAddress).Submitting from id) (.ok balance)
    have lacks := lacks.behind id
    rcases later.bind_cases with ⟨rest, attempts, rfl⟩ | ⟨transaction, middle, last, ⟨⟩, rfl, attempts, path⟩
    · obtain ⟨shownTx, tracks, handled⟩ := attemptFrom_lacks rfl tracks attempts lacks
      rw [List.append_assoc] at tracks
      exact ⟨shownTx, balance, rest, tracks, read _, handled, rfl⟩
    · -- Behind a result, only the closing balance is read.
      rcases path.call_cases with ⟨rfl, _⟩ | ⟨⟨⟩, closing, ⟨⟩, rest, rfl, returned⟩ | ⟨⟨⟩, error, rfl, _⟩
      · rw [List.append_nil] at lacks
        obtain ⟨shownTx, _, handled⟩ := attemptFrom_lacks rfl tracks attempts lacks
        exact absurd handled HandledBy.not_done
      · cases returned with
        | stop => exact absurd lacks (not_lacksFunds_other id _)
      · exact absurd lacks (not_lacksFunds_other id _)
  · exact absurd lacks (not_lacksFunds_other id _)

/-- The estimates have arrived exactly when their values are set on the transaction. -/
theorem Tracks.estimated_iff {txData : TransactionRequest} (tracks : Tracks service trace txData) :
    Estimated trace ↔ txData.maxFeePerGas.isSome ∧ txData.gasLimit.isSome := by
  unfold Estimated
  rw [← tracks.prices.fees]
  cases estimating : service.overrideGasConfig with
  | false => rw [tracks.prices.gas estimating]
  | true => simp [tracks.prices.overridden estimating]

theorem costError_ne_invalid (txCost walletBalance : Int) :
    costError txCost walletBalance ≠ .thrown "invalid BigNumber value" := by
  intro same
  have texts := congrArg (fun error : EthereumError => error.message.toList.head?) same
  simp only [costError, EthereumError.thrown, String.toList_append, List.head?_append,
      List.append_assoc] at texts
  cases texts

theorem reported_fail (error : EthereumError) : reported service (.fail error) = .fail error := rfl

/-- With both values set, the cost decides. -/
theorem HandledBy.decided {txData : TransactionRequest} {gasLimit fee balance : Int}
    {attempts : EthereumCode Transaction}
    (handled : HandledBy service balance txData attempts) (limit : txData.gasLimit = some gasLimit)
    (most : txData.maxFeePerGas = some fee) :
    (balance < gasLimit * fee → attempts = .fail (costError (gasLimit * fee) balance)) ∧
      (gasLimit * fee ≤ balance → ∃ left attempt sending, left + attempt = MAX_RETRIES ∧
        attempts = retry service balance left attempt sending) := by
  have cost : handleInsufficientFundsError txData balance =
      if balance < gasLimit * fee then .error (costError (gasLimit * fee) balance) else .ok () := by
    simp only [handleInsufficientFundsError, limit, most]
    rfl
  unfold HandledBy at handled
  rw [cost] at handled
  constructor
  · intro more
    rwa [if_pos more] at handled
  · intro enough
    rwa [if_neg (not_lt.mpr enough)] at handled

/-- A call that fails on an unset fee is not decided by its cost. -/
theorem not_decided_invalid : ¬ DecidedByCost service trace (.fail (.thrown "invalid BigNumber value")) := by
  rintro ⟨txData, gasLimit, fee, balance, _, _, _, _, aborts, retries⟩
  rcases lt_or_ge balance (gasLimit * fee) with more | enough
  · exact costError_ne_invalid _ _ (by simpa using (aborts more).symm)
  · obtain ⟨left, attempt, sending, _, same⟩ := retries enough
    cases same

/-- Lacking funds is decided by the cost exactly when both EIP-1559 fees and the gas have been estimated. -/
theorem insufficient_funds_iff
    (path : Path (node formats) (sendTransaction service formats rootCid) () trace residue ())
    (lacks : LacksFunds trace) :
    DecidedByCost service trace residue ↔ Estimated trace := by
  obtain ⟨txData, balance, attempts, tracks, read, handled, rfl⟩ := sendTransaction_lacks path lacks
  rw [tracks.estimated_iff]
  constructor
  · intro decided
    have ⟨other, gasLimit, _, _, latest, limit, _⟩ := decided
    have same : other = txData := by
      rcases tracks.latest with shownLast | ⟨unshown, _⟩
      · exact Option.some.inj (latest.symm.trans shownLast)
      · simp [unshown] at latest
    subst same
    refine ⟨?_, by simp [limit]⟩
    by_contra unset
    have absent : other.maxFeePerGas = none := by simpa using unset
    have invalid : attempts = .fail (.thrown "invalid BigNumber value") := by
      simpa [HandledBy, handleInsufficientFundsError, limit, absent] using handled
    rw [invalid, reported_fail] at decided
    exact not_decided_invalid decided
  · rintro ⟨feeSet, limitSet⟩
    obtain ⟨fee, most⟩ := Option.isSome_iff_exists.mp feeSet
    obtain ⟨gasLimit, limit⟩ := Option.isSome_iff_exists.mp limitSet
    obtain ⟨aborts, retries⟩ := handled.decided limit most
    have latest : (shown trace).getLast? = some txData := by
      refine tracks.latest.resolve_right fun unshown => ?_
      rw [unshown.2] at limit
      cases limit
    refine ⟨txData, gasLimit, fee, balance, latest, limit, by simp [TransactionRequest.feePerGas, most], read,
      fun more => ?_, fun enough => ?_⟩
    · rw [aborts more, reported_fail]
    · obtain ⟨left, attempt, sending, bound, rfl⟩ := retries enough
      exact ⟨left, attempt, sending, bound, rfl⟩

/-- The node answers these estimates, and the wallet has no balance when it submits. -/
def emptyWalletTrace (feeData : FeeData) (priced : TransactionRequest) : List EthereumEvent :=
  [⟨.getTransactionCount "wallet", (), .ok (7 : Nat), ()⟩,
    ⟨.getBalance "wallet", (), .ok (0 : Int), ()⟩,
    ⟨.getFeeData, (), .ok feeData, ()⟩,
    ⟨.estimateGas priced, (), .ok (21000 : Int), ()⟩,
    ⟨.sendTransaction { priced with gasLimit := some 21000 }, (),
      .error ⟨some .INSUFFICIENT_FUNDS, "insufficient funds"⟩, ()⟩]

theorem emptyWallet_lacks (feeData : FeeData) (priced : TransactionRequest) :
    LacksFunds (emptyWalletTrace feeData priced) :=
  ⟨[_, _, _, _], _, _, rfl, trivial, rfl, rfl⟩

/-- The transaction costs 42000000, and there is nothing to pay it with. -/
theorem insufficient_funds_eip1559 : ∃ residue,
    Path (node mainFormats) (sendTransaction mainService mainFormats mainRoot) ()
      (emptyWalletTrace ⟨some 2000, some 1000, none⟩ (mainRequest (some 1000) (some 2000) none)) residue () ∧
    DecidedByCost mainService
      (emptyWalletTrace ⟨some 2000, some 1000, none⟩ (mainRequest (some 1000) (some 2000) none)) residue := by
  have path : ∃ residue, Path (node mainFormats) (sendTransaction mainService mainFormats mainRoot) ()
      (emptyWalletTrace ⟨some 2000, some 1000, none⟩ (mainRequest (some 1000) (some 2000) none)) residue
      () := by
    apply Exists.intro
    apply Path.reply (node mainFormats) (EthereumOp.getTransactionCount "wallet") (.ok (7 : Nat)) trivial
    apply Path.reply (node mainFormats) (EthereumOp.getBalance "wallet") (.ok (0 : Int)) trivial
    apply Path.reply (node mainFormats) EthereumOp.getFeeData
      (.ok (⟨some 2000, some 1000, none⟩ : FeeData)) trivial
    apply Path.reply (node mainFormats) (EthereumOp.estimateGas (mainRequest (some 1000) (some 2000) none))
      (.ok (21000 : Int)) trivial
    apply Path.reply (node mainFormats)
      (EthereumOp.sendTransaction (mainRequest (some 1000) (some 2000) (some 21000)))
      (.error ⟨some .INSUFFICIENT_FUNDS, "insufficient funds"⟩) trivial
    exact Path.stop _ _
  obtain ⟨residue, path⟩ := path
  refine ⟨residue, path, (insufficient_funds_iff path (emptyWallet_lacks _ _)).mpr ⟨?_, ?_⟩⟩
  · exact ⟨_, .head _, 1000, 2000, rfl, rfl⟩
  · exact List.cons_ne_nil _ _

def legacyRequest : TransactionRequest := ⟨"wallet", "0x0f0171", 7, "wallet", none, none, some 1000, none⟩

/-- A legacy transaction has the gas price 1000, and the call fails on the fee that it does not have. -/
theorem insufficient_funds_undecided :
    Path (node mainFormats) (sendTransaction mainService mainFormats mainRoot) ()
      (emptyWalletTrace ⟨none, none, some 1000⟩ legacyRequest)
      (.fail (.thrown "invalid BigNumber value")) () ∧
    LacksFunds (emptyWalletTrace ⟨none, none, some 1000⟩ legacyRequest) ∧
    ¬ DecidedByCost mainService (emptyWalletTrace ⟨none, none, some 1000⟩ legacyRequest)
      (.fail (.thrown "invalid BigNumber value")) := by
  refine ⟨?_, emptyWallet_lacks _ _, not_decided_invalid⟩
  apply Path.reply (node mainFormats) (EthereumOp.getTransactionCount "wallet") (.ok (7 : Nat)) trivial
  apply Path.reply (node mainFormats) (EthereumOp.getBalance "wallet") (.ok (0 : Int)) trivial
  apply Path.reply (node mainFormats) EthereumOp.getFeeData (.ok (⟨none, none, some 1000⟩ : FeeData)) trivial
  apply Path.reply (node mainFormats) (EthereumOp.estimateGas legacyRequest) (.ok (21000 : Int)) trivial
  apply Path.reply (node mainFormats)
    (EthereumOp.sendTransaction { legacyRequest with gasLimit := some 21000 })
    (.error ⟨some .INSUFFICIENT_FUNDS, "insufficient funds"⟩) trivial
  exact Path.stop _ _

end Call

end CeramicAnchor.EthereumBlockchainService
