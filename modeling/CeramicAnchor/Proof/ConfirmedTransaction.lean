import CeramicAnchor.Proof.GasPrice
import CeramicAnchor.Proof.SentTransaction

/-
This file proves when a call that has confirmed its transaction resolves with it.
-/

namespace CeramicAnchor.EthereumBlockchainService
open Concurrency

variable {service : EthereumBlockchainService} {formats : EthereumFormats} {rootCid : Cid}
  {trace : List EthereumEvent}

section Balances

/-- These are the answers to the queries of the wallet balance. -/
def balances (trace : List EthereumEvent) : List (Except EthereumError Int) :=
  trace.filterMap fun event => match event with
    | ⟨.getBalance _, _, reply, _⟩ => some reply
    | _ => none

theorem balances_append (trace later : List EthereumEvent) :
    balances (trace ++ later) = balances trace ++ balances later := List.filterMap_append

def EthereumOp.Balanceless : EthereumOp → Prop
  | .getBalance _ => False
  | _ => True

theorem EthereumOp.Confirming.balanceless (op : EthereumOp) (confirming : op.Confirming) :
    op.Balanceless := by
  cases op <;> trivial

/-- A program that asks for no balance leaves the answers as they are. -/
theorem balanceless_sat {A : Type} {program : EthereumCode A}
    (confined : program.Confined EthereumOp.Balanceless) :
    Sat (node formats).recorded (fun _ _ _ _ => True) (fun _ reached => balances reached.2 = balances trace)
      (fun _ reached => balances reached.2 = balances trace) program ((), trace) := by
  apply sat_keeps (fun (reached : Unit × List EthereumEvent) => balances reached.2 = balances trace) confined
  · rintro first second ⟨_, same⟩ kept
    rwa [same]
  · rintro op other before reply after ⟨_, added⟩ kept
    have none_ : balances [⟨op, before.1, reply, after.1⟩] = [] := by
      cases op <;> first | rfl | cases other
    refine ⟨trivial, ?_⟩
    rw [added, balances_append, none_, List.append_nil]
    exact kept
  · rfl

end Balances

section Operations

/-- These operations prepare the request. -/
def EthereumOp.Preparing : EthereumOp → Prop
  | .getTransactionCount _ => True
  | .anchorDagCbor _ => True
  | _ => False

theorem EthereumOp.Preparing.balanceless (op : EthereumOp) (preparing : op.Preparing) : op.Balanceless := by
  cases op <;> trivial

theorem EthereumOp.Preparing.blockless (op : EthereumOp) (preparing : op.Preparing) :
    ∀ blockHash, op ≠ .getBlock blockHash := by
  rintro blockHash rfl
  exact preparing

theorem buildTransactionRequest_preparing (rootCid : Cid) :
    (buildTransactionRequest service formats rootCid).Confined EthereumOp.Preparing := by
  refine Prog.confined_bind (Prog.confined_call _ trivial) fun baseNonce => ?_
  split
  · trivial
  · exact Prog.confined_bind (Prog.confined_call _ trivial) fun data => trivial

/-- These operations price and submit a transaction. -/
def EthereumOp.Submitting : EthereumOp → Prop
  | .getFeeData => True
  | .estimateGas _ => True
  | .sendTransaction _ => True
  | _ => False

theorem EthereumOp.Submitting.balanceless (op : EthereumOp) (submitting : op.Submitting) :
    op.Balanceless := by
  cases op <;> trivial

theorem setGasPrice_submitting (txData : TransactionRequest) (attemptNum : Nat) :
    (setGasPrice service txData attemptNum).Confined EthereumOp.Submitting := by
  unfold setGasPrice
  split
  · trivial
  · refine Prog.confined_bind (Prog.confined_attempt (Prog.confined_call EthereumOp.getFeeData trivial))
      fun estimated => ?_
    split
    · trivial
    · split
      · trivial
      · refine Prog.confined_bind
          (Prog.confined_attempt (Prog.confined_call (EthereumOp.estimateGas _) trivial)) fun gas => ?_
        split <;> trivial

theorem trySendTransaction_submitting (txData : TransactionRequest) :
    (trySendTransaction service txData).Confined EthereumOp.Submitting := by
  refine Prog.confined_bind (Prog.confined_call _ trivial) fun txResponse => ?_
  refine Prog.confined_bind (ofExcept_confined _) fun chainId => ?_
  exact Prog.confined_bind (ofExcept_confined _) fun _ => trivial

theorem sendAttempt_balanceless (walletBalance : Int) (attemptNum : Nat) (sending : Sending) :
    (sendAttempt service walletBalance attemptNum sending).Confined EthereumOp.Balanceless := by
  have handles : ∀ sending err, (handleError service walletBalance attemptNum sending err).Confined
      EthereumOp.Balanceless := fun sending err =>
    Prog.confined_mono (handleError_confirming _ _ _ _) EthereumOp.Confirming.balanceless
  refine Prog.confined_bind
    (Prog.confined_mono (setGasPrice_submitting _ _) EthereumOp.Submitting.balanceless) ?_
  rintro ⟨txData, priced⟩
  cases priced with
  | error err => exact handles _ err
  | ok _ =>
      refine Prog.confined_bind
        (Prog.confined_attempt (Prog.confined_mono (trySendTransaction_submitting txData)
        EthereumOp.Submitting.balanceless)) fun sent => ?_
      cases sent with
      | error err => exact handles _ err
      | ok txResponse =>
          refine Prog.confined_bind (Prog.confined_attempt (Prog.confined_mono
            (confirmTransactionSuccess_confirming txResponse) EthereumOp.Confirming.balanceless))
            fun confirmed => ?_
          cases confirmed with
          | error err => exact handles _ err
          | ok transaction => trivial

theorem attemptFrom_balanceless (walletBalance : Int) (remaining attemptNum : Nat) (sending : Sending) :
    (attemptFrom (sendAttempt service walletBalance) remaining attemptNum sending).Confined
      EthereumOp.Balanceless := by
  induction remaining generalizing attemptNum sending with
  | zero => trivial
  | succ remaining ih =>
      refine Prog.confined_bind (sendAttempt_balanceless _ _ _) ?_
      rintro ⟨changed, result⟩
      cases result with
      | some transaction => trivial
      | none => exact Prog.confined_bind (Prog.confined_call (EthereumOp.delay 5000) trivial) fun _ => ih _ _

end Operations

section Confirmation

/-- The trace ends with its only confirmation. -/
def Secured (service : EthereumBlockchainService) (tx : Transaction) (trace : List EthereumEvent) : Prop :=
  ∃ front txResponse, Unconfirmed service front ∧ Granted service txResponse front trace tx

/-- A program that reads no block confirms nothing. -/
theorem unconfirmed_sat {A : Type} {program : EthereumCode A}
    (confined : program.Confined fun op => ∀ blockHash, op ≠ .getBlock blockHash)
    (unconfirmed : Unconfirmed service trace) :
    Sat (node formats).recorded (fun _ _ _ _ => True) (fun _ reached => Unconfirmed service reached.2)
      (fun _ reached => Unconfirmed service reached.2) program ((), trace) := by
  apply sat_keeps (fun (reached : Unit × List EthereumEvent) => Unconfirmed service reached.2) confined
  · rintro first second ⟨_, same⟩ kept
    rwa [same]
  · rintro op other before reply after ⟨_, added⟩ kept
    refine ⟨trivial, ?_⟩
    rw [added]
    exact kept.other other reply
  · exact unconfirmed

theorem EthereumOp.Submitting.blockless (op : EthereumOp) (submitting : op.Submitting) :
    ∀ blockHash, op ≠ .getBlock blockHash := by
  rintro blockHash rfl
  exact submitting

theorem confirm_secured (txResponse : TransactionResponse) (unconfirmed : Unconfirmed service trace) :
    Sat (node formats).recorded (fun _ _ _ _ => True) (fun tx reached => Secured service tx reached.2)
      (fun _ reached => Unconfirmed service reached.2) (confirmTransactionSuccess service txResponse)
      ((), trace) := by
  have spec : Sat (node formats).recorded (Submits service formats (.foreign "")) _ _ _ _ :=
    confirmTransactionSuccess_sat txResponse unconfirmed
  exact sat_mono spec (fun _ _ _ _ _ => trivial)
    (fun tx _ granted => ⟨trace, txResponse, unconfirmed, granted⟩)
    fun _ _ denied => denied.unconfirmed

theorem checkResponses_secured (txResponses : List TransactionResponse)
    (unconfirmed : Unconfirmed service trace) :
    Sat (node formats).recorded (fun _ _ _ _ => True) (fun tx reached => Secured service tx reached.2)
      (fun _ reached => Unconfirmed service reached.2) (checkResponses service txResponses) ((), trace) := by
  induction txResponses generalizing trace with
  | nil => exact unconfirmed
  | cons txResponse earlier ih =>
      refine sat_bind _ (sat_attempt (confirm_secured txResponse unconfirmed)) ?_
      rintro outcome ⟨⟨⟩, reached⟩ judged
      cases outcome with
      | ok tx => exact judged
      | error err => exact ih judged

/-- Either the call has its only confirmation, or it has none. -/
def Attempted (service : EthereumBlockchainService) (outcome : Sending × Option Transaction)
    (trace : List EthereumEvent) : Prop :=
  match outcome.2 with
  | none => Unconfirmed service trace
  | some tx => Secured service tx trace

theorem handleError_attempted {walletBalance : Int} {attemptNum : Nat} {sending : Sending}
    {err : EthereumError} (unconfirmed : Unconfirmed service trace) :
    Sat (node formats).recorded (fun _ _ _ _ => True)
    (fun outcome reached => Attempted service outcome reached.2)
      (fun _ reached => Unconfirmed service reached.2)
      (handleError service walletBalance attemptNum sending err) ((), trace) := by
  unfold handleError
  split
  · cases handleInsufficientFundsError sending.txData walletBalance with
    | ok _ => exact unconfirmed
    | error error => exact unconfirmed
  · exact unconfirmed
  · split
    · exact unconfirmed
    · exact sat_bind _ (checkResponses_secured _ unconfirmed) fun tx _ secured => secured
  · exact unconfirmed

/-- One attempt confirms at most once, at its end. -/
theorem sendAttempt_attempted {walletBalance : Int} {attemptNum : Nat} {sending : Sending}
    (unconfirmed : Unconfirmed service trace) :
    Sat (node formats).recorded (fun _ _ _ _ => True)
    (fun outcome reached => Attempted service outcome reached.2)
      (fun _ reached => Unconfirmed service reached.2)
      (sendAttempt service walletBalance attemptNum sending) ((), trace) := by
  refine sat_bind _ (unconfirmed_sat (Prog.confined_mono (setGasPrice_submitting _ _)
    EthereumOp.Submitting.blockless) unconfirmed) ?_
  rintro ⟨txData, priced⟩ ⟨⟨⟩, trace⟩ unconfirmed
  cases priced with
  | error err => exact handleError_attempted unconfirmed
  | ok _ =>
      refine sat_bind _
        (sat_attempt (unconfirmed_sat (Prog.confined_mono (trySendTransaction_submitting txData)
        EthereumOp.Submitting.blockless) unconfirmed)) ?_
      rintro sent ⟨⟨⟩, trace⟩ settled
      cases sent with
      | error err => exact handleError_attempted settled
      | ok txResponse =>
          refine sat_bind _ (sat_attempt (confirm_secured txResponse settled)) ?_
          rintro confirmed ⟨⟨⟩, trace⟩ judged
          cases confirmed with
          | error err => exact handleError_attempted judged
          | ok tx => exact judged

theorem attemptFrom_secured {walletBalance : Int} {remaining attemptNum : Nat} {sending : Sending}
    (unconfirmed : Unconfirmed service trace) :
    Sat (node formats).recorded (fun _ _ _ _ => True) (fun tx reached => Secured service tx reached.2)
      (fun _ reached => Unconfirmed service reached.2)
      (attemptFrom (sendAttempt service walletBalance) remaining attemptNum sending) ((), trace) := by
  induction remaining generalizing attemptNum sending trace with
  | zero => exact unconfirmed
  | succ remaining ih =>
      refine sat_bind _ (sendAttempt_attempted unconfirmed) ?_
      rintro ⟨changed, result⟩ ⟨⟨⟩, trace⟩ attempted
      cases result with
      | some tx => exact attempted
      | none =>
          refine sat_bind _ (unconfirmed_sat (Prog.confined_call (EthereumOp.delay 5000)
            fun _ => EthereumOp.noConfusion) attempted) ?_
          rintro _ ⟨⟨⟩, trace⟩ unconfirmed
          exact ih unconfirmed

end Confirmation

section Report

/-- The balance is asked for a second time after the confirmation, and this query is rejected. -/
def ClosingQueryFails (trace : List EthereumEvent) : Prop :=
  ∃ opening error, balances trace = [.ok opening, .error error]

/-- The call has confirmed its transaction once, or never. -/
structure Reported (service : EthereumBlockchainService) (tx : Transaction)
    (trace : List EthereumEvent) : Prop where
  confirms : ∃ txResponse, Confirms service txResponse tx trace
  only : ∀ txResponse other, Confirms service txResponse other trace → other = tx

/-- The only confirmation at the end of a trace is the only one. -/
theorem Secured.reported {tx : Transaction} (secured : Secured service tx trace) :
    Reported service tx trace := by
  obtain ⟨front, txResponse, unconfirmed, receipt, timestamp, rfl, succeeded, chainId, connected,
      rfl⟩ := secured
  refine ⟨⟨txResponse, front, receipt, timestamp, [], rfl, succeeded, chainId, connected, rfl⟩, ?_⟩
  rintro other otherTx ⟨before, otherReceipt, otherTimestamp, back, same, confirmed⟩
  have waited : Unconfirmed service (front ++ [received service txResponse.hash receipt]) :=
    unconfirmed.other (fun _ => EthereumOp.noConfusion) _
  rcases List.eq_nil_or_concat back with rfl | ⟨back, last, rfl⟩
  · obtain ⟨_, events⟩ := List.append_inj' same rfl
    obtain ⟨receives, reads⟩ := List.cons.inj events
    obtain rfl := received_receipt receives
    obtain ⟨_, otherChain, known, rfl⟩ := confirmed
    have sameTime : some timestamp = some otherTimestamp := answer_inj (List.cons.inj reads).1
    rw [Except.ok.inj (connected.symm.trans known), Option.some.inj sameTime]
  · have shorter : (front ++ [received service txResponse.hash receipt]) ++ [blockRead receipt timestamp] =
        (before ++ received service other.hash otherReceipt :: blockRead otherReceipt otherTimestamp ::
          back) ++ [last] := by simpa using same
    exact absurd ⟨before, otherReceipt, otherTimestamp, back, (List.append_inj' shorter rfl).1, confirmed⟩
      (waited other otherTx)

theorem confirms_balance {txResponse : TransactionResponse} {tx : Transaction} {address : String}
    {reply : Except EthereumError Int} :
    Confirms service txResponse tx (trace ++ [⟨.getBalance address, (), reply, ()⟩]) ↔
      Confirms service txResponse tx trace := by
  constructor
  · rintro ⟨front, receipt, timestamp, back, same, confirmed⟩
    rcases List.eq_nil_or_concat back with rfl | ⟨back, last, rfl⟩
    · have shorter : trace ++ [⟨.getBalance address, (), reply, ()⟩] =
          (front ++ [received service txResponse.hash receipt]) ++ [blockRead receipt timestamp] :=
          by simpa using same
      have final := List.head_eq_of_cons_eq (List.append_inj' shorter rfl).2
      cases congrArg Event.op final
    · have shorter : trace ++ [⟨.getBalance address, (), reply, ()⟩] =
          (front ++ received service txResponse.hash receipt :: blockRead receipt timestamp :: back) ++
          [last] := by
        simpa using same
      exact ⟨front, receipt, timestamp, back, (List.append_inj' shorter rfl).1, confirmed⟩
  · exact fun confirms => confirms.append _

/-- A balance query after the confirmation leaves it the only one. -/
theorem Reported.balance {tx : Transaction} (reported : Reported service tx trace) (address : String)
    (reply : Except EthereumError Int) :
    Reported service tx (trace ++ [⟨.getBalance address, (), reply, ()⟩]) := by
  obtain ⟨⟨txResponse, confirms⟩, only⟩ := reported
  exact ⟨⟨txResponse, confirms_balance.mpr confirms⟩, fun other otherTx found => only other otherTx
    (confirms_balance.mp found)⟩

/-- How a call ends: with its only confirmation, without any, or with a rejected closing query. -/
inductive Ends (service : EthereumBlockchainService) (trace : List EthereumEvent) :
    EthereumCode Transaction → Prop where
  | resolves {tx : Transaction} (reported : Reported service tx trace)
      (answered : ¬ ClosingQueryFails trace) : Ends service trace (.done tx)
  | fails {error : EthereumError} (unconfirmed : Unconfirmed service trace)
      (answered : ¬ ClosingQueryFails trace) : Ends service trace (.fail error)
  | hides {tx : Transaction} {error : EthereumError} (reported : Reported service tx trace)
      (rejected : ClosingQueryFails trace) : Ends service trace (.fail error)

theorem sendTransaction_ends : Sat (node formats).recorded (fun _ _ _ _ => True)
    (fun tx reached => Ends service reached.2 (.done tx))
    (fun error reached => Ends service reached.2 (.fail error))
    (sendTransaction service formats rootCid) ((), []) := by
  have nothing : Unconfirmed service [] := by
    rintro txResponse tx ⟨front, receipt, timestamp, back, same, _⟩
    simp at same
  have few : ∀ {trace : List EthereumEvent}, (balances trace).length ≤ 1 → ¬ ClosingQueryFails trace := by
    rintro trace short ⟨opening, error, same⟩
    rw [same] at short
    exact Nat.not_succ_le_self 1 short
  have prepares := @buildTransactionRequest_preparing service formats rootCid
  refine sat_bind (fun _ reached => Unconfirmed service reached.2 ∧ balances reached.2 = [])
    (sat_mono (sat_and (unconfirmed_sat (Prog.confined_mono prepares EthereumOp.Preparing.blockless) nothing)
      (balanceless_sat (Prog.confined_mono prepares EthereumOp.Preparing.balanceless)))
      (fun _ _ _ _ _ => trivial) (fun _ _ held => held) ?_) ?_
  · rintro error reached ⟨unconfirmed, none_⟩
    exact .fails unconfirmed (few (by rw [none_]; exact Nat.zero_le 1))
  rintro txData ⟨⟨⟩, trace⟩ ⟨unconfirmed, none_⟩
  have asked :
      ∀ reply, balances (trace ++ [⟨.getBalance service.walletAddress, (), reply, ()⟩]) = [reply] := by
    intro reply
    rw [balances_append, none_]
    rfl
  refine sat_bind (fun balance reached => Unconfirmed service reached.2 ∧ balances reached.2 = [.ok balance])
    (sat_recorded_call (EthereumOp.getBalance service.walletAddress) ?_ ?_) ?_
  · exact fun _ _ balance _ _ =>
      ⟨trivial, unconfirmed.other (fun _ => EthereumOp.noConfusion) _, asked (.ok balance)⟩
  · exact fun _ _ error _ _ => ⟨trivial, .fails (unconfirmed.other (fun _ => EthereumOp.noConfusion) _)
      (few (Nat.le_of_eq (congrArg List.length (asked (.error error)))))⟩
  rintro walletBalance ⟨⟨⟩, trace⟩ ⟨unconfirmed, opened⟩
  refine sat_bind (fun tx reached => Secured service tx reached.2 ∧ balances reached.2 = [.ok walletBalance])
    (sat_mono (sat_and (attemptFrom_secured unconfirmed) (balanceless_sat (attemptFrom_balanceless _ _ _ _)))
      (fun _ _ _ _ _ => trivial) (fun _ _ held => ⟨held.1, held.2.trans opened⟩) ?_) ?_
  · rintro error reached ⟨unconfirmed, same⟩
    exact .fails unconfirmed (few (by rw [same, opened]; exact Nat.le_refl 1))
  rintro tx ⟨⟨⟩, trace⟩ ⟨secured, opened⟩
  have closed : ∀ reply, balances (trace ++ [⟨.getBalance service.walletAddress, (), reply, ()⟩]) =
      [.ok walletBalance, reply] := by
    intro reply
    rw [balances_append, opened]
    rfl
  refine sat_bind (fun _ reached => Ends service reached.2 (.done tx))
    (sat_recorded_call (EthereumOp.getBalance service.walletAddress) ?_ ?_) fun _ _ ends => ends
  · rintro before _ balance after _
    refine ⟨trivial, .resolves (secured.reported.balance _ _) ?_⟩
    rintro ⟨opening, error, same⟩
    rw [closed] at same
    cases same
  · exact fun _ _ error _ _ =>
      ⟨trivial, .hides (secured.reported.balance _ _) ⟨walletBalance, error, closed _⟩⟩

/-- A call that ends resolves with its confirmed transaction exactly when the closing query of the
balance is not rejected. -/
theorem sendTransaction_reports_iff {residue : EthereumCode Transaction}
    (path : Path (node formats) (sendTransaction service formats rootCid) () trace residue ())
    (ended : (∃ tx, residue = .done tx) ∨ ∃ error, residue = .fail error) :
    (∀ txResponse tx, Confirms service txResponse tx trace → residue = .done tx) ↔
    ¬ ClosingQueryFails trace := by
  have ending := (sat_recorded_path path [] sendTransaction_ends).2
  have ends : Ends service trace residue := by
    rcases ended with ⟨tx, rfl⟩ | ⟨error, rfl⟩
    · exact ending
    · exact ending
  cases ends with
  | resolves reported answered =>
      refine iff_of_true (fun txResponse tx confirms => ?_) answered
      rw [reported.only txResponse tx confirms]
  | fails unconfirmed answered =>
      exact iff_of_true (fun txResponse tx confirms => absurd confirms (unconfirmed txResponse tx)) answered
  | hides reported rejected =>
      refine iff_of_false (fun reports => ?_) (not_not.mpr rejected)
      obtain ⟨txResponse, confirms⟩ := reported.confirms
      cases reports txResponse _ confirms

/-- The transaction is confirmed, and the balance cannot be read afterwards. -/
def hiddenTrace : List EthereumEvent :=
  [⟨.getTransactionCount "wallet", (), .ok (7 : Nat), ()⟩,
    ⟨.getBalance "wallet", (), .ok (0 : Int), ()⟩,
    ⟨.sendTransaction lateRequest, (), .ok (⟨"0xaa", 1⟩ : TransactionResponse), ()⟩,
    ⟨.waitForTransaction "0xaa" 4 60000, (), .ok lateReceipt, ()⟩,
    ⟨.getBlock "0xbb", (), .ok (some (1700000000 : Nat)), ()⟩,
    ⟨.getBalance "wallet", (), .error (.thrown "could not detect network"), ()⟩]

theorem hidden_path :
    Path (node lateFormats) (sendTransaction lateService lateFormats lateRoot) () hiddenTrace
    (.fail (.thrown "could not detect network")) () := by
  apply Path.reply (node lateFormats) (EthereumOp.getTransactionCount "wallet") (.ok (7 : Nat)) trivial
  apply Path.reply (node lateFormats) (EthereumOp.getBalance "wallet") (.ok (0 : Int)) trivial
  apply Path.reply (node lateFormats) (EthereumOp.sendTransaction lateRequest)
    (.ok (⟨"0xaa", 1⟩ : TransactionResponse)) trivial
  apply Path.reply (node lateFormats) (EthereumOp.waitForTransaction "0xaa" 4 60000) (.ok lateReceipt) rfl
  apply Path.reply (node lateFormats) (EthereumOp.getBlock "0xbb") (.ok (some (1700000000 : Nat))) trivial
  apply Path.reply (node lateFormats) (EthereumOp.getBalance "wallet")
    (.error (.thrown "could not detect network")) trivial
  exact Path.stop _ _

theorem hidden_confirms : Confirms lateService ⟨"0xaa", 1⟩ lateTransaction hiddenTrace :=
  ⟨hiddenTrace.take 3, lateReceipt, 1700000000, hiddenTrace.drop 5, rfl, rfl, 1, rfl, rfl⟩

theorem sendTransaction_hides :
    ¬ ∀ (service : EthereumBlockchainService) (formats : EthereumFormats) (rootCid : Cid)
    (trace : List EthereumEvent) (residue : EthereumCode Transaction),
      Path (node formats) (sendTransaction service formats rootCid) () trace residue () →
      (∃ tx, residue = .done tx) ∨ (∃ error, residue = .fail error) →
      ∀ txResponse tx, Confirms service txResponse tx trace → residue = .done tx := by
  intro reports
  cases reports _ _ _ _ _ hidden_path (.inr ⟨_, rfl⟩) _ _ hidden_confirms

/-- A late confirmation is reported when the balance can be read. -/
theorem sendTransaction_reports_late :
    Confirms lateService ⟨"0xaa", 1⟩ lateTransaction (lateFront ++ lateExpiry :: lateBack) ∧ ∀ txResponse tx,
      Confirms lateService txResponse tx (lateFront ++ lateExpiry :: lateBack) → tx = lateTransaction := by
  have confirmed : Confirms lateService ⟨"0xaa", 1⟩ lateTransaction (lateFront ++ lateExpiry :: lateBack) :=
    ⟨lateFront ++ [lateExpiry], lateReceipt, 1700000000, lateBack.drop 2, rfl, rfl, 1, rfl, rfl⟩
  refine ⟨confirmed, fun txResponse tx confirms => ?_⟩
  have answered : ¬ ClosingQueryFails (lateFront ++ lateExpiry :: lateBack) := by
    rintro ⟨opening, error, same⟩
    cases same
  have reports := (sendTransaction_reports_iff late_path (.inl ⟨_, rfl⟩)).mpr answered
  cases reports txResponse tx confirms
  rfl

end Report

end CeramicAnchor.EthereumBlockchainService
