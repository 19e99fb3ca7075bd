import CeramicAnchor.Construction.EthereumBlockchainService
import CeramicAnchor.Numerics.RunningMaximum
import Mathlib.Algebra.Order.Ring.Int

/-
This file proves by how much each attempt raises the fees of the attempt before it.
-/

namespace CeramicAnchor.EthereumBlockchainService
open Concurrency Numerics

section Raise

/-- A replacement pays at least a tenth more. -/
def raise (fee : Int) : Int := fee + fee.tdiv 10

theorem raise_le {first second : Int} (smaller : first ≤ second) : raise first ≤ raise second :=
  add_le_add smaller (Int.tdiv_le_tdiv (by decide) smaller)

theorem floor_le_tdiv (fee : Int) : fee / 10 ≤ fee.tdiv 10 := by
  rw [Int.tdiv_eq_ediv]
  split <;> simp

/-- The attempt raises its estimate by a tenth for every attempt before it. -/
def offer (estimates : List Int) (attempt : Nat) : Int :=
  let estimate := estimates.getD attempt 0
  estimate + estimate.tdiv 10 * attempt

/-- The highest offer so far, where an earlier offer has been raised for each attempt since it was made. -/
def leadingOffer (estimates : List Int) (attempt : Nat) : Int :=
  latestMaximum raise (offer estimates) attempt

theorem increaseGasPricePerAttempt_zero (estimate : Int) (previousGas : Option Int) :
    increaseGasPricePerAttempt estimate 0 previousGas = estimate := by
  cases previousGas <;> simp [increaseGasPricePerAttempt]

theorem increaseGasPricePerAttempt_succ (estimate previous : Int) (attempt : Nat) :
    increaseGasPricePerAttempt estimate (attempt + 1) (some previous) =
      max (estimate + estimate.tdiv 10 * (attempt + 1 : Nat)) (raise previous) := by
  unfold increaseGasPricePerAttempt raise
  simp only [Nat.add_eq_zero_iff, one_ne_zero, and_false, if_false]
  split
  · rename_i more
    exact (max_eq_left (le_of_lt more)).symm
  · rename_i less
    exact (max_eq_right (le_of_not_gt less)).symm

theorem leadingOffer_zero (estimates : List Int) : leadingOffer estimates 0 = estimates.getD 0 0 := by
  rw [leadingOffer, latestMaximum_zero, offer]
  simp

theorem leadingOffer_succ (estimates : List Int) (attempt : Nat) :
    leadingOffer estimates (attempt + 1) =
      increaseGasPricePerAttempt (estimates.getD (attempt + 1) 0) (attempt + 1)
        (some (leadingOffer estimates attempt)) := by
  rw [increaseGasPricePerAttempt_succ, leadingOffer, latestMaximum_succ fun _ _ => raise_le]
  rfl

/-- Later estimates do not change an offer. -/
theorem leadingOffer_append {estimates : List Int} {attempt : Nat} (inside : attempt < estimates.length)
    (later : List Int) : leadingOffer (estimates ++ later) attempt = leadingOffer estimates attempt := by
  apply latestMaximum_congr
  intro earlier before
  have inside : earlier < estimates.length := by omega
  simp only [offer, List.getD_eq_getElem?_getD, List.getElem?_append_left inside]

theorem raise_le_leadingOffer (estimates : List Int) (attempt : Nat) :
    leadingOffer estimates attempt + leadingOffer estimates attempt / 10 ≤
    leadingOffer estimates (attempt + 1) := by
  have raised : raise (leadingOffer estimates attempt) ≤ leadingOffer estimates (attempt + 1) := by
    rw [leadingOffer, leadingOffer, latestMaximum_succ fun _ _ => raise_le]
    exact le_max_right _ _
  have floor := floor_le_tdiv (leadingOffer estimates attempt)
  unfold raise at raised
  omega

end Raise

section Fees

def FeeData.IsEip1559 (feeData : FeeData) : Prop :=
  ∃ priority most, feeData.maxPriorityFeePerGas = some priority ∧ feeData.maxFeePerGas = some most

def FeeData.IsLegacy (feeData : FeeData) : Prop :=
  (feeData.maxPriorityFeePerGas = none ∨ feeData.maxFeePerGas = none) ∧ ∃ price, feeData.gasPrice = some price

def AllEip1559 (fees : List FeeData) : Prop := ∀ feeData ∈ fees, feeData.IsEip1559

def AllLegacy (fees : List FeeData) : Prop := ∀ feeData ∈ fees, feeData.IsLegacy

def tips (fees : List FeeData) : List Int := fees.map fun feeData => feeData.maxPriorityFeePerGas.getD 0

def gasPrices (fees : List FeeData) : List Int := fees.map fun feeData => feeData.gasPrice.getD 0

/-- The base fee is the part of the estimated maximum that is no tip. -/
def baseFees (fees : List FeeData) : List Int :=
  fees.map fun feeData => feeData.maxFeePerGas.getD 0 - feeData.maxPriorityFeePerGas.getD 0

/-- The fees of this attempt in terms of the estimates up to it. -/
structure Bid (fees : List FeeData) (attempt : Nat) (txData : TransactionRequest) : Prop where
  eip1559 : AllEip1559 fees → txData.maxPriorityFeePerGas = some (leadingOffer (tips fees) attempt) ∧
    txData.maxFeePerGas = some ((baseFees fees).getD attempt 0 + leadingOffer (tips fees) attempt) ∧
    txData.gasPrice = none
  legacy : AllLegacy fees → txData.gasPrice = some (leadingOffer (gasPrices fees) attempt) ∧
    txData.maxPriorityFeePerGas = none ∧ txData.maxFeePerGas = none

/-- The fees come from the latest of these estimates, and without one there are none. -/
def PricedBy (fees : List FeeData) (txData : TransactionRequest) : Prop :=
  match fees.length with
  | 0 => txData.maxPriorityFeePerGas = none ∧ txData.maxFeePerGas = none ∧ txData.gasPrice = none
  | attempt + 1 => Bid fees attempt txData

theorem AllEip1559.head {fees later : List FeeData} (all : AllEip1559 (fees ++ later)) : AllEip1559 fees :=
  fun feeData member => all feeData (List.mem_append_left _ member)

theorem AllLegacy.head {fees later : List FeeData} (all : AllLegacy (fees ++ later)) : AllLegacy fees :=
  fun feeData member => all feeData (List.mem_append_left _ member)

/-- Both markets price a fee by the highest offer so far. -/
theorem increase_leadingOffer {estimates : List Int} {estimate : Int} {previous : Option Int}
    (first : estimates.length = 0 → previous = none)
    (later : ∀ attempt, estimates.length = attempt + 1 → previous = some (leadingOffer estimates attempt)) :
    increaseGasPricePerAttempt estimate estimates.length (some (previous.getD estimate)) =
      leadingOffer (estimates ++ [estimate]) estimates.length := by
  cases count : estimates.length with
  | zero =>
      obtain rfl := List.eq_nil_of_length_eq_zero count
      rw [increaseGasPricePerAttempt_zero, leadingOffer_zero]
      rfl
  | succ attempt =>
      have last : (estimates ++ [estimate]).getD (attempt + 1) 0 = estimate := by
        simp [List.getD_eq_getElem?_getD, ← count]
      rw [leadingOffer_succ, last, leadingOffer_append (by omega), later attempt count]
      rfl

theorem PricedBy.eip1559 {fees : List FeeData} {txData : TransactionRequest} (priced : PricedBy fees txData)
    (all : AllEip1559 fees) :
    txData.gasPrice = none ∧ (fees.length = 0 → txData.maxPriorityFeePerGas = none) ∧
      ∀ attempt, fees.length = attempt + 1 →
        txData.maxPriorityFeePerGas = some (leadingOffer (tips fees) attempt) := by
  unfold PricedBy at priced
  split at priced
  · rename_i empty
    exact ⟨priced.2.2, fun _ => priced.1, fun attempt more => by omega⟩
  · rename_i attempt count
    have bid := priced.eip1559 all
    refine ⟨bid.2.2, fun empty => by omega, fun other same => ?_⟩
    obtain rfl : attempt = other := by omega
    exact bid.1

theorem PricedBy.legacy {fees : List FeeData} {txData : TransactionRequest} (priced : PricedBy fees txData)
    (all : AllLegacy fees) : txData.maxPriorityFeePerGas = none ∧ txData.maxFeePerGas = none ∧
      (fees.length = 0 → txData.gasPrice = none) ∧
      ∀ attempt, fees.length = attempt + 1 →
      txData.gasPrice = some (leadingOffer (gasPrices fees) attempt) := by
  unfold PricedBy at priced
  split at priced
  · rename_i empty
    exact ⟨priced.1, priced.2.1, fun _ => priced.2.2, fun attempt more => by omega⟩
  · rename_i attempt count
    have bid := priced.legacy all
    refine ⟨bid.2.1, bid.2.2, fun empty => by omega, fun other same => ?_⟩
    obtain rfl : attempt = other := by omega
    exact bid.1

theorem FeeData.IsEip1559.not_legacy {feeData : FeeData} (eip1559 : feeData.IsEip1559) :
    ¬ feeData.IsLegacy := by
  rintro ⟨missing, _⟩
  obtain ⟨priority, most, priorityThere, mostThere⟩ := eip1559
  simp [priorityThere, mostThere] at missing

theorem setFees_bid {fees : List FeeData} {feeData : FeeData} {txData : TransactionRequest}
    (uniform : AllEip1559 (fees ++ [feeData]) ∨ AllLegacy (fees ++ [feeData]))
    (before : PricedBy fees txData) :
    ∃ priced, setFees txData feeData fees.length = .ok priced ∧
      Bid (fees ++ [feeData]) fees.length priced := by
  rcases uniform with all | all
  · have new : feeData.IsEip1559 := all feeData (by simp)
    obtain ⟨unpriced, first, later⟩ := before.eip1559 all.head
    obtain ⟨priority, most, priorityThere, mostThere⟩ := new
    have tip : increaseGasPricePerAttempt priority fees.length
        (some (txData.maxPriorityFeePerGas.getD priority)) =
          leadingOffer (tips (fees ++ [feeData])) fees.length := by
      have count : (tips fees).length = fees.length := List.length_map _
      have raised := @increase_leadingOffer (tips fees) priority txData.maxPriorityFeePerGas
        (by rwa [count]) (by rwa [count])
      rw [count] at raised
      rw [raised, tips, tips, List.map_append]
      simp [priorityThere]
    let next :=
      increaseGasPricePerAttempt priority fees.length (some (txData.maxPriorityFeePerGas.getD priority))
    have chosen : setFees txData feeData fees.length = .ok { txData with
        maxPriorityFeePerGas := some next
        maxFeePerGas := some (most - priority + next) } := by
      simp only [setFees, priorityThere, mostThere, next]
    refine ⟨_, chosen, fun _ => ⟨congrArg some tip, ?_, unpriced⟩, fun legacy => ?_⟩
    · simp [next, baseFees, tip, List.getD_eq_getElem?_getD, priorityThere, mostThere]
    · exact absurd (legacy feeData (by simp))
        (FeeData.IsEip1559.not_legacy ⟨priority, most, priorityThere, mostThere⟩)
  · have new : feeData.IsLegacy := all feeData (by simp)
    obtain ⟨noTip, noMaximum, first, later⟩ := before.legacy all.head
    have ⟨missing, price, priceThere⟩ := new
    have raised : increaseGasPricePerAttempt price fees.length (some (txData.gasPrice.getD price)) =
        leadingOffer (gasPrices (fees ++ [feeData])) fees.length := by
      have count : (gasPrices fees).length = fees.length := List.length_map _
      have raised := @increase_leadingOffer (gasPrices fees) price txData.gasPrice
        (by rwa [count]) (by rwa [count])
      rw [count] at raised
      rw [raised, gasPrices, gasPrices, List.map_append]
      simp [priceThere]
    have chosen : setFees txData feeData fees.length = .ok { txData with
        gasPrice :=
        some (increaseGasPricePerAttempt price fees.length (some (txData.gasPrice.getD price))) } := by
      unfold setFees
      rcases missing with missing | missing
      · simp [missing, priceThere]
      · cases there : feeData.maxPriorityFeePerGas <;> simp [missing, priceThere]
    refine ⟨_, chosen, fun eip1559 => ?_, fun _ => ⟨congrArg some raised, noTip, noMaximum⟩⟩
    exact absurd new (eip1559 feeData (by simp)).not_legacy

end Fees

section Trace

/-- The estimates that have arrived. -/
def estimates (trace : List EthereumEvent) : List FeeData :=
  trace.filterMap fun event => match event with
    | ⟨.getFeeData, _, .ok feeData, _⟩ => some feeData
    | _ => none

/-- Each attempt that has priced its transaction asks how much gas it needs. -/
def bids (trace : List EthereumEvent) : List TransactionRequest :=
  trace.filterMap fun event => match event with
    | ⟨.estimateGas txData, _, _, _⟩ => some txData
    | _ => none

/-- Every estimate has arrived, and all of them are for one kind of transaction. -/
def Uniform (trace : List EthereumEvent) : Prop :=
  (∀ error, ⟨.getFeeData, (), .error error, ()⟩ ∉ trace) ∧
    (AllEip1559 (estimates trace) ∨ AllLegacy (estimates trace))

theorem estimates_append (trace later : List EthereumEvent) :
    estimates (trace ++ later) = estimates trace ++ estimates later := List.filterMap_append

theorem bids_append (trace later : List EthereumEvent) : bids (trace ++ later) = bids trace ++ bids later :=
  List.filterMap_append

theorem Uniform.head {trace later : List EthereumEvent} (uniform : Uniform (trace ++ later)) :
    Uniform trace := by
  refine ⟨fun error member => uniform.1 error (List.mem_append_left _ member), ?_⟩
  have kind := uniform.2
  rw [estimates_append] at kind
  exact kind.imp AllEip1559.head AllLegacy.head

/-- The fees on the transaction belong to the estimates of all attempts before this one. -/
def Standing (attempt : Nat) (txData : TransactionRequest) (trace : List EthereumEvent) : Prop :=
  Uniform trace → (estimates trace).length = attempt ∧ (bids trace).length = attempt ∧
    PricedBy (estimates trace) txData

/-- The gas estimate is asked for a transaction whose fees belong to the current attempt. -/
def Bids (op : EthereumOp) (before : Unit × List EthereumEvent) (_ : Except EthereumError op.Reply)
    (_ : Unit × List EthereumEvent) : Prop :=
  ∀ txData, op = .estimateGas txData → Uniform before.2 →
    (estimates before.2).length = (bids before.2).length + 1 ∧
      Bid (estimates before.2) (bids before.2).length txData

/-- These operations have nothing to do with fees. -/
def EthereumOp.Feeless : EthereumOp → Prop
  | .getFeeData => False
  | .estimateGas _ => False
  | _ => True

theorem Standing.feeless {attempt : Nat} {txData : TransactionRequest} {trace : List EthereumEvent}
    (standing : Standing attempt txData trace) {op : EthereumOp} (feeless : op.Feeless)
    (reply : Except EthereumError op.Reply) : Standing attempt txData (trace ++ [⟨op, (), reply, ()⟩]) := by
  have noEstimate : estimates [⟨op, (), reply, ()⟩] = [] := by cases op <;> first | rfl | cases feeless
  have noBid : bids [⟨op, (), reply, ()⟩] = [] := by cases op <;> first | rfl | cases feeless
  intro uniform
  rw [estimates_append, bids_append, noEstimate, noBid, List.append_nil, List.append_nil]
  exact standing uniform.head

theorem EthereumOp.Feeless.bids {op : EthereumOp} (feeless : op.Feeless) {before : Unit × List EthereumEvent}
    {reply : Except EthereumError op.Reply} {after : Unit × List EthereumEvent} :
    Bids op before reply after := by
  rintro txData rfl
  cases feeless

variable {service : EthereumBlockchainService} {formats : EthereumFormats}

theorem ofExcept_confined {A : Type} {inside : EthereumOp → Prop} (value : Except EthereumError A) :
    (ofExcept value).Confined inside := by
  cases value <;> trivial

theorem trySendTransaction_feeless (txData : TransactionRequest) :
    (trySendTransaction service txData).Confined EthereumOp.Feeless := by
  refine Prog.confined_bind (Prog.confined_call _ trivial) fun txResponse => ?_
  refine Prog.confined_bind (ofExcept_confined _) fun chainId => ?_
  exact Prog.confined_bind (ofExcept_confined _) fun _ => trivial

/-- These operations ask for a receipt and for its block. -/
def EthereumOp.Confirming : EthereumOp → Prop
  | .waitForTransaction _ _ _ => True
  | .getBlock _ => True
  | _ => False

theorem EthereumOp.Confirming.feeless (op : EthereumOp) (confirming : op.Confirming) : op.Feeless := by
  cases op <;> trivial

theorem confirmTransactionSuccess_confirming (txResponse : TransactionResponse) :
    (confirmTransactionSuccess service txResponse).Confined EthereumOp.Confirming := by
  refine Prog.confined_bind (Prog.confined_call _ trivial) fun txReceipt => ?_
  refine Prog.confined_bind (Prog.confined_call _ trivial) fun block => ?_
  split
  · trivial
  · refine Prog.confined_bind (ofExcept_confined _) fun chainId => ?_
    split <;> trivial

theorem checkResponses_confirming (txResponses : List TransactionResponse) :
    (checkResponses service txResponses).Confined EthereumOp.Confirming := by
  induction txResponses with
  | nil => trivial
  | cons txResponse earlier ih =>
      refine Prog.confined_bind (Prog.confined_attempt (confirmTransactionSuccess_confirming txResponse))
        fun outcome => ?_
      cases outcome with
      | ok transaction => trivial
      | error error => exact ih

theorem handleError_confirming (walletBalance : Int) (attemptNum : Nat) (sending : Sending)
    (err : EthereumError) :
    (handleError service walletBalance attemptNum sending err).Confined EthereumOp.Confirming := by
  unfold handleError
  split
  · exact Prog.confined_bind (ofExcept_confined _) fun _ => trivial
  · trivial
  · split
    · trivial
    · exact Prog.confined_bind (checkResponses_confirming _) fun _ => trivial
  · trivial

/-- The handler leaves the request alone. -/
theorem handleError_returns (walletBalance : Int) (attemptNum : Nat) (sending : Sending)
    (err : EthereumError) :
    (handleError service walletBalance attemptNum sending err).Returns fun outcome =>
    outcome.1 = sending := by
  unfold handleError
  split
  · exact Prog.returns_bind (Prog.returns_trivial _) fun _ _ => rfl
  · exact rfl
  · split
    · trivial
    · exact Prog.returns_bind (Prog.returns_trivial _) fun _ _ => rfl
  · exact rfl

/-- A program without fees keeps the fees of the current attempt. -/
theorem sat_feeless {A : Type} {program : EthereumCode A} (confined : program.Confined EthereumOp.Feeless)
    {attempt : Nat} {txData : TransactionRequest} {trace : List EthereumEvent}
    (standing : Standing attempt txData trace) :
    Sat (node formats).recorded Bids (fun _ reached => Standing attempt txData reached.2)
      (fun _ reached => Standing attempt txData reached.2) program ((), trace) := by
  apply sat_keeps (fun (reached : Unit × List EthereumEvent) => Standing attempt txData reached.2) confined
  · rintro first second ⟨_, same⟩ standing
    rwa [same]
  · rintro op feeless before reply after ⟨_, added⟩ standing
    refine ⟨feeless.bids, ?_⟩
    rw [added]
    exact standing.feeless feeless reply
  · exact standing

/-- A call without fees keeps them also when it is rejected. -/
theorem call_sat {op : EthereumOp} (feeless : op.Feeless) {attempt : Nat} {txData : TransactionRequest}
    {trace : List EthereumEvent} (standing : Standing attempt txData trace) :
    Sat (node formats).recorded Bids (fun _ reached => Standing attempt txData reached.2) (fun _ _ => True)
      (Prog.call op) ((), trace) :=
  sat_mono (sat_feeless (Prog.confined_call op feeless) standing) (fun _ _ _ _ meets => meets)
    (fun _ _ standing => standing) fun _ _ _ => trivial

theorem Uniform.answered {trace : List EthereumEvent} {error : EthereumError}
    (uniform : Uniform (trace ++ [⟨.getFeeData, (), .error error, ()⟩])) : False :=
  uniform.1 error (by simp)

theorem arrived_estimate (trace : List EthereumEvent) (feeData : FeeData) :
    estimates (trace ++ [⟨.getFeeData, (), .ok feeData, ()⟩]) = estimates trace ++ [feeData] ∧
      bids (trace ++ [⟨.getFeeData, (), .ok feeData, ()⟩]) = bids trace := by
  constructor
  · rw [estimates_append]
    rfl
  · rw [bids_append]
    exact List.append_nil _

/-- The next estimate prices the transaction. -/
theorem Standing.next {attempt : Nat} {txData : TransactionRequest} {trace : List EthereumEvent}
    {feeData : FeeData} (standing : Standing attempt txData trace)
    (uniform : Uniform (trace ++ [⟨.getFeeData, (), .ok feeData, ()⟩])) :
    ∃ priced, setFees txData feeData attempt = .ok priced ∧ (estimates trace).length = attempt ∧
      (bids trace).length = attempt ∧ Bid (estimates trace ++ [feeData]) attempt priced := by
  obtain ⟨count, bidCount, before⟩ := standing uniform.head
  have kind := uniform.2
  rw [(arrived_estimate trace feeData).1] at kind
  obtain ⟨priced, chosen, bid⟩ := setFees_bid kind before
  rw [count] at chosen bid
  exact ⟨priced, chosen, count, bidCount, bid⟩

/-- The transaction that an estimate has priced bids for it, whatever the node answers next. -/
theorem Standing.bid {attempt : Nat} {txData priced : TransactionRequest} {trace later : List EthereumEvent}
    {feeData : FeeData} (standing : Standing attempt txData trace)
    (chosen : setFees txData feeData attempt = .ok priced)
    (uniform : Uniform (trace ++ [⟨.getFeeData, (), .ok feeData, ()⟩] ++ later)) :
    (estimates trace).length = attempt ∧ (bids trace).length = attempt ∧
      Bid (estimates trace ++ [feeData]) attempt priced := by
  obtain ⟨other, chosen', count, bidCount, bid⟩ := standing.next uniform.head
  rw [chosen] at chosen'
  obtain rfl := Except.ok.inj chosen'
  exact ⟨count, bidCount, bid⟩

/-- A gas estimate asks for the priced transaction, and it keeps what the transaction bids. -/
theorem Standing.asked {attempt : Nat} {txData priced changed : TransactionRequest}
    {trace : List EthereumEvent} {feeData : FeeData} (standing : Standing attempt txData trace)
    (chosen : setFees txData feeData attempt = .ok priced)
    (same : ∀ attempt, Bid (estimates trace ++ [feeData]) attempt priced →
      Bid (estimates trace ++ [feeData]) attempt changed) (outcome : Except EthereumError Int) :
    Standing (attempt + 1) changed (trace ++ [⟨.getFeeData, (), .ok feeData, ()⟩] ++
      [⟨.estimateGas priced, (), outcome, ()⟩]) := by
  intro uniform
  obtain ⟨count, bidCount, bid⟩ := standing.bid chosen uniform
  obtain ⟨arrived, unasked⟩ := arrived_estimate trace feeData
  have none : estimates [⟨.estimateGas priced, (), outcome, ()⟩] = [] := rfl
  have one : bids [⟨.estimateGas priced, (), outcome, ()⟩] = [priced] := rfl
  rw [estimates_append, bids_append, arrived, unasked, none, one, List.append_nil]
  refine ⟨by simp [count], by simp [bidCount], ?_⟩
  unfold PricedBy
  rw [List.length_append, count]
  exact same attempt bid

/-- One attempt prices its transaction by the estimates so far. -/
theorem setGasPrice_sat (estimating : service.overrideGasConfig = false) {attempt : Nat}
    {txData : TransactionRequest} {trace : List EthereumEvent} (standing : Standing attempt txData trace) :
    Sat (node formats).recorded Bids (fun outcome reached => Standing (attempt + 1) outcome.1 reached.2)
      (fun _ _ => True) (setGasPrice service txData attempt) ((), trace) := by
  unfold setGasPrice
  rw [if_neg (by simp [estimating])]
  refine sat_bind (fun outcome reached => reached = ((), trace ++ [⟨.getFeeData, (), outcome, ()⟩])) ?_ ?_
  · apply sat_recorded_attempt EthereumOp.getFeeData
    intro before _ reply after _
    exact ⟨fun txData different => EthereumOp.noConfusion different, rfl⟩
  · rintro outcome _ rfl
    cases outcome with
    | error error =>
        intro uniform
        exact uniform.answered.elim
    | ok feeData =>
        cases chosen : setFees txData feeData attempt with
        | error error =>
            simp only [chosen]
            intro uniform
            obtain ⟨priced, chosen', _⟩ := standing.next uniform
            rw [chosen] at chosen'
            cases chosen'
        | ok priced =>
            simp only [chosen]
            refine sat_bind
              (fun outcome reached => reached = ((), trace ++ [⟨.getFeeData, (), .ok feeData, ()⟩] ++
              [⟨.estimateGas priced, (), outcome, ()⟩])) ?_ ?_
            · apply sat_recorded_attempt (EthereumOp.estimateGas priced)
              intro before _ reply after _
              refine ⟨fun other same uniform => ?_, rfl⟩
              obtain rfl : priced = other := by injection same
              rw [← List.append_nil (trace ++ _)] at uniform
              obtain ⟨count, bidCount, bid⟩ := standing.bid chosen uniform
              obtain ⟨arrived, unasked⟩ := arrived_estimate trace feeData
              change (estimates (trace ++ [_])).length = _ ∧ Bid (estimates (trace ++ [_])) _ _
              rw [arrived, unasked, bidCount]
              exact ⟨by simp [count], bid⟩
            · rintro outcome _ rfl
              cases outcome with
              | error error => exact standing.asked chosen (fun _ bid => bid) _
              | ok gasLimit =>
                  have kept : ∀ attempt, Bid (estimates trace ++ [feeData]) attempt priced →
                      Bid (estimates trace ++ [feeData]) attempt { priced with gasLimit := some gasLimit } :=
                    fun _ bid => ⟨bid.eip1559, bid.legacy⟩
                  exact standing.asked chosen kept _

theorem handleError_sat {walletBalance : Int} {attemptNum attempt : Nat} {sending : Sending}
    {err : EthereumError}
    {trace : List EthereumEvent} (standing : Standing attempt sending.txData trace) :
    Sat (node formats).recorded Bids (fun outcome reached => Standing attempt outcome.1.txData reached.2)
      (fun _ _ => True) (handleError service walletBalance attemptNum sending err) ((), trace) := by
  have feeless := Prog.confined_mono (@handleError_confirming service walletBalance attemptNum sending err)
    EthereumOp.Confirming.feeless
  apply sat_mono (sat_returns (sat_feeless feeless standing) (handleError_returns _ _ _ _))
  · exact fun _ _ _ _ meets => meets
  · rintro outcome reached ⟨standing, same⟩
    rwa [same]
  · exact fun _ _ _ => trivial

theorem attempt_sat {A : Type} {program : EthereumCode A} (confined : program.Confined EthereumOp.Feeless)
    {attempt : Nat} {txData : TransactionRequest} {trace : List EthereumEvent}
    (standing : Standing attempt txData trace) :
    Sat (node formats).recorded Bids (fun _ reached => Standing attempt txData reached.2) (fun _ _ => True)
      program.attempt ((), trace) :=
  sat_mono (sat_feeless (Prog.confined_attempt confined) standing) (fun _ _ _ _ meets => meets)
    (fun _ _ standing => standing) fun _ _ _ => trivial

/-- After an attempt the fees are those of the attempt, however it ended. -/
theorem sendAttempt_sat (estimating : service.overrideGasConfig = false) {walletBalance : Int} {attempt : Nat}
    {sending : Sending} {trace : List EthereumEvent} (standing : Standing attempt sending.txData trace) :
    Sat (node formats).recorded Bids
    (fun outcome reached => Standing (attempt + 1) outcome.1.txData reached.2)
      (fun _ _ => True) (sendAttempt service walletBalance attempt sending) ((), trace) := by
  refine sat_bind _ (setGasPrice_sat estimating standing) ?_
  rintro ⟨txData, priced⟩ ⟨⟨⟩, trace⟩ standing
  cases priced with
  | error err => exact handleError_sat standing
  | ok _ =>
      refine sat_bind _ (attempt_sat (trySendTransaction_feeless txData) standing) ?_
      rintro sent ⟨⟨⟩, trace⟩ standing
      cases sent with
      | error err => exact handleError_sat standing
      | ok txResponse =>
          have feeless := Prog.confined_mono (@confirmTransactionSuccess_confirming service txResponse)
            EthereumOp.Confirming.feeless
          refine sat_bind _ (attempt_sat feeless standing) ?_
          rintro confirmed ⟨⟨⟩, trace⟩ standing
          cases confirmed with
          | error err => exact handleError_sat standing
          | ok transaction => exact standing

theorem attemptFrom_sat (estimating : service.overrideGasConfig = false) {walletBalance : Int}
    {remaining attempt : Nat} {sending : Sending} {trace : List EthereumEvent}
    (standing : Standing attempt sending.txData trace) :
    Sat (node formats).recorded Bids (fun _ _ => True) (fun _ _ => True)
      (attemptFrom (sendAttempt service walletBalance) remaining attempt sending) ((), trace) := by
  induction remaining generalizing attempt sending trace with
  | zero => trivial
  | succ remaining ih =>
      refine sat_bind _ (sendAttempt_sat estimating standing) ?_
      rintro ⟨changed, result⟩ ⟨⟨⟩, trace⟩ standing
      cases result with
      | some transaction => trivial
      | none =>
          refine sat_bind _ (@call_sat _ (EthereumOp.delay 5000) trivial _ _ _ standing) ?_
          rintro _ ⟨⟨⟩, trace⟩ standing
          exact ih standing

theorem buildTransactionRequest_feeless (rootCid : Cid) :
    (buildTransactionRequest service formats rootCid).Confined EthereumOp.Feeless ∧
      (buildTransactionRequest service formats rootCid).Returns fun txData =>
      txData.maxPriorityFeePerGas = none ∧
        txData.maxFeePerGas = none ∧ txData.gasPrice = none := by
  unfold buildTransactionRequest
  constructor
  · refine Prog.confined_bind (Prog.confined_call _ trivial) fun baseNonce => ?_
    split
    · trivial
    · exact Prog.confined_bind (Prog.confined_call _ trivial) fun data => trivial
  · refine Prog.returns_bind (Prog.returns_trivial _) fun baseNonce _ => ?_
    split
    · exact ⟨rfl, rfl, rfl⟩
    · exact Prog.returns_bind (Prog.returns_trivial _) fun data _ => ⟨rfl, rfl, rfl⟩

/-- Every transaction of the call is priced by the estimates so far. -/
theorem sendTransaction_bids (estimating : service.overrideGasConfig = false) (rootCid : Cid) :
    Sat (node formats).recorded Bids (fun _ _ => True) (fun _ _ => True)
    (sendTransaction service formats rootCid)
      ((), []) := by
  let blank : TransactionRequest := ⟨"", "", 0, "", none, none, none, none⟩
  have initially : Standing 0 blank [] := fun _ => ⟨rfl, rfl, rfl, rfl, rfl⟩
  have ⟨feeless, unpriced⟩ := @buildTransactionRequest_feeless service formats rootCid
  refine sat_bind (fun txData reached => Standing 0 txData reached.2)
    (sat_mono (sat_returns (sat_feeless feeless initially) unpriced) (fun _ _ _ _ meets => meets) ?_
      fun _ _ _ => trivial) ?_
  · rintro txData reached ⟨standing, blankFees⟩ uniform
    obtain ⟨count, bidCount, _⟩ := standing uniform
    refine ⟨count, bidCount, ?_⟩
    unfold PricedBy
    rw [count]
    exact blankFees
  · rintro txData ⟨⟨⟩, trace⟩ standing
    refine sat_bind _ (@call_sat _ (EthereumOp.getBalance service.walletAddress) trivial _ _ _ standing) ?_
    rintro walletBalance ⟨⟨⟩, trace⟩ standing
    refine sat_bind (fun _ _ => True) (@attemptFrom_sat _ _ estimating _ _ _ ⟨txData, []⟩ _ standing) ?_
    rintro transaction ⟨⟨⟩, trace⟩ _
    have closing : (Prog.call (EthereumOp.getBalance service.walletAddress) >>= fun _ => pure transaction :
        EthereumCode Transaction).Confined EthereumOp.Feeless :=
      Prog.confined_bind (Prog.confined_call _ trivial) fun _ => trivial
    exact sat_confined closing fun op feeless _ _ _ _ => feeless.bids

/-- An element of a filtered list stands after as many elements as its index says. -/
theorem filterMap_split {A B : Type} {choose : A → Option B} {list : List A} {index : Nat} {chosen : B}
    (found : (list.filterMap choose)[index]? = some chosen) :
    ∃ front element back, list = front ++ element :: back ∧ choose element = some chosen ∧
      (front.filterMap choose).length = index := by
  induction list generalizing index with
  | nil => simp at found
  | cons head tail ih =>
      cases kept : choose head with
      | none =>
          rw [List.filterMap_cons_none kept] at found
          obtain ⟨front, element, back, rfl, same, count⟩ := ih found
          exact ⟨head :: front, element, back, rfl, same, by rwa [List.filterMap_cons_none kept]⟩
      | some first =>
          rw [List.filterMap_cons_some kept] at found
          cases index with
          | zero => exact ⟨[], head, tail, rfl, kept.trans found, rfl⟩
          | succ index =>
              obtain ⟨front, element, back, rfl, same, count⟩ := ih found
              refine ⟨head :: front, element, back, rfl, same, ?_⟩
              rw [List.filterMap_cons_some kept, List.length_cons, count]

/-- The bid of each attempt is priced by the estimates of the whole run. -/
theorem bids_priced {rootCid : Cid} {trace : List EthereumEvent} {residue : EthereumCode Transaction}
    (estimating : service.overrideGasConfig = false)
    (path : Path (node formats) (sendTransaction service formats rootCid) () trace residue ())
    (uniform : Uniform trace) {attempt : Nat} {txData : TransactionRequest}
    (found : (bids trace)[attempt]? = some txData) :
    attempt < (estimates trace).length ∧ Bid (estimates trace) attempt txData := by
  obtain ⟨front, ⟨op, _, reply, _⟩, back, rfl, same, count⟩ := filterMap_split found
  have made := (sat_recorded_path path [] (sendTransaction_bids estimating rootCid)).1 front _ back rfl
  obtain rfl : op = .estimateGas txData := by
    cases op <;> simp at same
    rw [same]
  obtain ⟨more, bid⟩ := made txData rfl uniform.head
  change (estimates front).length = (bids front).length + 1 at more
  change Bid (estimates front) (bids front).length txData at bid
  have count : (bids front).length = attempt := count
  rw [count] at more bid
  have inside : attempt < (estimates front).length := by omega
  rw [estimates_append]
  refine ⟨by rw [List.length_append]; omega, fun all => ?_, fun all => ?_⟩
  · rw [tips, baseFees, List.map_append, List.map_append, leadingOffer_append (by simpa using inside),
      List.getD_eq_getElem?_getD, List.getElem?_append_left (by simpa using inside),
      ← List.getD_eq_getElem?_getD]
    exact bid.eip1559 all.head
  · rw [gasPrices, List.map_append, leadingOffer_append (by simpa using inside)]
    exact bid.legacy all.head

end Trace

section Outbidding

variable {service : EthereumBlockchainService} {formats : EthereumFormats}

/-- A fee that was set before is at least a tenth higher now. -/
def Raised (previous next : Option Int) : Prop :=
  ∀ fee, previous = some fee → ∃ higher, next = some higher ∧ fee + fee / 10 ≤ higher

/-- A node accepts the next transaction in the place of the previous one. -/
structure Outbids (previous next : TransactionRequest) : Prop where
  maxPriorityFeePerGas : Raised previous.maxPriorityFeePerGas next.maxPriorityFeePerGas
  maxFeePerGas : Raised previous.maxFeePerGas next.maxFeePerGas
  gasPrice : Raised previous.gasPrice next.gasPrice

/-- Each attempt outbids the attempt before it. -/
def EveryRetryOutbids (trace : List EthereumEvent) : Prop :=
  ∀ attempt previous next, (bids trace)[attempt]? = some previous → (bids trace)[attempt + 1]? = some next →
    Outbids previous next

/-- The base fee falls by no more than the tip rises beyond a tenth of the previous maximum. -/
def TipCoversFall (fees : List FeeData) (attempt : Nat) : Prop :=
  let base := (baseFees fees).getD attempt 0
  let tip := leadingOffer (tips fees) attempt
  base - (baseFees fees).getD (attempt + 1) 0 ≤ leadingOffer (tips fees) (attempt + 1) - tip -
  (base + tip) / 10

/-- A retry raises the tip or the gas price by a tenth, and its maximum is the new base fee with the
raised tip. -/
theorem retry_fees {rootCid : Cid} {trace : List EthereumEvent} {residue : EthereumCode Transaction}
    (estimating : service.overrideGasConfig = false)
    (path : Path (node formats) (sendTransaction service formats rootCid) () trace residue ())
    (uniform : Uniform trace) (attempt : Nat) {previous next : TransactionRequest}
    (found : (bids trace)[attempt]? = some previous) (found' : (bids trace)[attempt + 1]? = some next) :
    Raised previous.maxPriorityFeePerGas next.maxPriorityFeePerGas ∧ Raised previous.gasPrice next.gasPrice ∧
      (AllEip1559 (estimates trace) → ∃ tip, next.maxPriorityFeePerGas = some tip ∧
        next.maxFeePerGas = some ((baseFees (estimates trace)).getD (attempt + 1) 0 + tip) ∧
        (Raised previous.maxFeePerGas next.maxFeePerGas ↔ TipCoversFall (estimates trace) attempt)) := by
  have bid := (bids_priced estimating path uniform found).2
  have bid' := (bids_priced estimating path uniform found').2
  rcases uniform.2 with eip1559 | legacy
  · obtain ⟨tip, most, noPrice⟩ := bid.eip1559 eip1559
    obtain ⟨tip', most', _⟩ := bid'.eip1559 eip1559
    refine ⟨?_, ?_, fun _ => ⟨_, tip', most', ?_⟩⟩
    · rintro fee same
      obtain rfl := Option.some.inj (tip.symm.trans same)
      exact ⟨_, tip', raise_le_leadingOffer _ _⟩
    · rintro fee same
      rw [noPrice] at same
      cases same
    · unfold TipCoversFall
      constructor
      · intro raised
        obtain ⟨higher, same, enough⟩ := raised _ most
        obtain rfl := Option.some.inj (most'.symm.trans same)
        omega
      · rintro covers fee same
        obtain rfl := Option.some.inj (most.symm.trans same)
        exact ⟨_, most', by omega⟩
  · obtain ⟨price, noTip, _⟩ := bid.legacy legacy
    obtain ⟨price', _, _⟩ := bid'.legacy legacy
    refine ⟨?_, ?_, fun eip1559 => ?_⟩
    · rintro fee same
      rw [noTip] at same
      cases same
    · rintro fee same
      obtain rfl := Option.some.inj (price.symm.trans same)
      exact ⟨_, price', raise_le_leadingOffer _ _⟩
    · have first := List.getElem_mem (bids_priced estimating path uniform found).1
      exact absurd (legacy _ first) (eip1559 _ first).not_legacy

section Retry

/-- This service sends plain transactions on the main chain. -/
def mainService : EthereumBlockchainService := ⟨some 1, 60, false, 0, false, "contract", "wallet"⟩

def mainFormats : EthereumFormats := ⟨fun _ => "f0171", fun _ => [], fun hexEncoded => hexEncoded⟩

def mainRoot : Cid := .foreign "root"

def mainRequest (priority most : Option Int) (gasLimit : Option Int) : TransactionRequest :=
  ⟨"wallet", "0x0f0171", 7, "wallet", priority, most, none, gasLimit⟩

/-- The transaction times out, and the second estimate of its maximum is this one. -/
def retryTrace (most : Int) : List EthereumEvent :=
  [⟨.getTransactionCount "wallet", (), .ok (7 : Nat), ()⟩,
    ⟨.getBalance "wallet", (), .ok (0 : Int), ()⟩,
    ⟨.getFeeData, (), .ok (⟨some 2000, some 1000, none⟩ : FeeData), ()⟩,
    ⟨.estimateGas (mainRequest (some 1000) (some 2000) none), (), .ok (21000 : Int), ()⟩,
    ⟨.sendTransaction (mainRequest (some 1000) (some 2000) (some 21000)), (),
      .ok (⟨"0xaa", 1⟩ : TransactionResponse), ()⟩,
    ⟨.waitForTransaction "0xaa" 4 60000, (), .error ⟨some .TIMEOUT, "timeout exceeded"⟩, ()⟩,
    ⟨.delay 5000, (), .ok (), ()⟩,
    ⟨.getFeeData, (), .ok (⟨some most, some 1000, none⟩ : FeeData), ()⟩,
    ⟨.estimateGas (mainRequest (some 1100) (some (most - 1000 + 1100)) (some 21000)), (),
      .ok (21000 : Int), ()⟩]

theorem retry_path (most : Int) : ∃ residue,
    Path (node mainFormats) (sendTransaction mainService mainFormats mainRoot) () (retryTrace most)
    residue () := by
  apply Exists.intro
  apply Path.reply (node mainFormats) (EthereumOp.getTransactionCount "wallet") (.ok (7 : Nat)) trivial
  apply Path.reply (node mainFormats) (EthereumOp.getBalance "wallet") (.ok (0 : Int)) trivial
  apply Path.reply (node mainFormats) EthereumOp.getFeeData
    (.ok (⟨some 2000, some 1000, none⟩ : FeeData)) trivial
  apply Path.reply (node mainFormats) (EthereumOp.estimateGas (mainRequest (some 1000) (some 2000) none))
    (.ok (21000 : Int)) trivial
  apply Path.reply (node mainFormats)
    (EthereumOp.sendTransaction (mainRequest (some 1000) (some 2000) (some 21000)))
    (.ok (⟨"0xaa", 1⟩ : TransactionResponse)) trivial
  apply Path.reply (node mainFormats) (EthereumOp.waitForTransaction "0xaa" 4 60000)
    (.error ⟨some .TIMEOUT, "timeout exceeded"⟩) trivial
  apply Path.reply (node mainFormats) (EthereumOp.delay 5000) (.ok ()) trivial
  apply Path.reply (node mainFormats) EthereumOp.getFeeData
    (.ok (⟨some most, some 1000, none⟩ : FeeData)) trivial
  apply Path.reply (node mainFormats)
    (EthereumOp.estimateGas (mainRequest (some 1100) (some (most - 1000 + 1100)) (some 21000)))
    (.ok (21000 : Int)) trivial
  exact Path.stop _ _

theorem retry_uniform (most : Int) : Uniform (retryTrace most) := by
  constructor
  · intro error
    simp [retryTrace]
  · refine Or.inl fun feeData member => ?_
    have listed :
        estimates (retryTrace most) = [⟨some 2000, some 1000, none⟩, ⟨some most, some 1000, none⟩] := rfl
    simp only [listed, List.mem_cons, List.not_mem_nil, or_false] at member
    rcases member with rfl | rfl
    · exact ⟨1000, 2000, rfl, rfl⟩
    · exact ⟨1000, most, rfl, rfl⟩

/-- After the same estimate again the tip is 1100, and the maximum is the base fee of 1000 with that tip. -/
theorem retry_fees_steady : ∃ residue,
    Path (node mainFormats) (sendTransaction mainService mainFormats mainRoot) () (retryTrace 2000)
    residue () ∧
    ∃ previous next, bids (retryTrace 2000) = [previous, next] ∧
      Raised previous.maxPriorityFeePerGas next.maxPriorityFeePerGas ∧
      ∃ tip, next.maxPriorityFeePerGas = some tip ∧ tip = 1100 ∧ previous.maxFeePerGas = some 2000 ∧
        next.maxFeePerGas = some ((baseFees (estimates (retryTrace 2000))).getD 1 0 + tip) := by
  obtain ⟨residue, path⟩ := retry_path 2000
  obtain ⟨tipRaised, _, priced⟩ := retry_fees rfl path (retry_uniform 2000) 0 rfl rfl
  obtain ⟨tip, same, most, _⟩ := priced ((retry_uniform 2000).2.resolve_right fun legacy => by
    exact absurd (legacy ⟨some 2000, some 1000, none⟩ (by decide))
      (FeeData.IsEip1559.not_legacy ⟨1000, 2000, rfl, rfl⟩))
  exact ⟨residue, path, _, _, rfl, tipRaised, tip, same, (Option.some.inj same).symm, rfl, most⟩

/-- After the same estimate again the maximum is 2100, which is less than a tenth more than 2000. -/
theorem retry_underpriced : ∃ trace residue,
    Path (node mainFormats) (sendTransaction mainService mainFormats mainRoot) () trace residue () ∧
      Uniform trace ∧ mainService.overrideGasConfig = false ∧ ¬ EveryRetryOutbids trace := by
  obtain ⟨residue, path⟩ := retry_path 2000
  refine ⟨_, residue, path, retry_uniform 2000, rfl, fun outbids => ?_⟩
  obtain ⟨higher, same, raised⟩ := (outbids 0 _ _ rfl rfl).maxFeePerGas 2000 rfl
  obtain rfl := Option.some.inj same
  omega

end Retry

end Outbidding

end CeramicAnchor.EthereumBlockchainService
