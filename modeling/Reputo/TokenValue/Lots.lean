import Mathlib.Algebra.Order.Ring.Rat
import Reputo.Library.SharedFifo
import Reputo.TokenValue.Types

/-!
# Replaying transfers on wallet lots

The pipeline of `token_value_over_time`: a queue of lots for every tracked
wallet, drained from the front by outgoing transfers and extended by incoming
ones.  The replay of a whole state is shown to act on each wallet as one
first-in first-out account, fed with that wallet's own share of the transfers.
-/

namespace Reputo.TokenValue

open Reputo.Library
open Reputo.Library.Fifo (Action Portion)

/-! ## Pipeline -/

/-- Append a lot unless it is empty. -/
def pushLot (queue : List WalletLot) (lot : WalletLot) : List WalletLot :=
  if lot.amountRemaining ≤ 0 then queue else queue ++ [lot]

/-- The `while` loop of `consumeLotsFifo`, with what is left to consume. -/
def consumeLots : List WalletLot → Rat → List WalletLot × Rat
  | [], remaining => ([], remaining)
  | head :: rest, remaining =>
      if remaining > 0 then
        let consumed := min head.amountRemaining remaining
        let head' := { head with amountRemaining := head.amountRemaining - consumed }
        if head'.amountRemaining ≤ 0 then
          consumeLots rest (remaining - consumed)
        else
          -- A head that stays has covered everything that remained, so the loop ends.
          (head' :: rest, remaining - consumed)
      else
        (head :: rest, remaining)

/-- Drain a queue from the front; returns the queue and the unconsumed rest. -/
def consumeLotsFifo (queue : List WalletLot) (amountToConsume : Rat) :
    List WalletLot × Rat :=
  if amountToConsume ≤ 0 then (queue, 0) else consumeLots queue amountToConsume

/-- An address counts when it is neither null nor the empty string. -/
def truthy (address : Option String) : Option String :=
  address.filter (· ≠ "")

/-- Drain the sender's lots when the sender is tracked. -/
def consumeSender (state : WalletLotsState) (transfer : OrderedTransferEvent)
    (targetWalletSet : List String) : WalletLotsState :=
  match truthy transfer.fromAddress with
  | some sender =>
      if sender ∈ targetWalletSet then
        match state.get? sender with
        | some senderLots =>
            state.set sender (consumeLotsFifo senderLots transfer.amount).1
        | none => state
      else state
  | none => state

/-- The lot an incoming transfer creates. -/
def receivedLot (transfer : OrderedTransferEvent) : WalletLot where
  resourceId := transfer.resourceId
  amountRemaining := transfer.amount
  receivedAt := transfer.blockTimestamp
  sourceTransferId :=
    transfer.resourceId ++ ":" ++ transfer.transactionHash ++ ":" ++ toString transfer.logIndex

/-- Push a lot for the receiver when the receiver is tracked. -/
def pushReceiver (state : WalletLotsState) (transfer : OrderedTransferEvent)
    (targetWalletSet : List String) : WalletLotsState :=
  match truthy transfer.toAddress with
  | some receiver =>
      if receiver ∈ targetWalletSet then
        match state.get? receiver with
        | some receiverLots => state.set receiver (pushLot receiverLots (receivedLot transfer))
        | none => state
      else state
  | none => state

/-- A transfer between two equal, present addresses. -/
def isSelfTransfer (transfer : OrderedTransferEvent) : Bool :=
  match truthy transfer.fromAddress, truthy transfer.toAddress with
  | some sender, some receiver => sender = receiver
  | _, _ => false

/-- Apply one transfer to the lots and count what was skipped. -/
def applyTransfer (targetWalletSet : List String) (state : WalletLotsState × ReplayStats)
    (transfer : OrderedTransferEvent) : WalletLotsState × ReplayStats :=
  let (lots, before) := state
  let stats := { before with processed := before.processed + 1 }
  if transfer.amount = 0 then
    (lots, { stats with skippedZeroAmount := stats.skippedZeroAmount + 1 })
  else if isSelfTransfer transfer then
    (lots, { stats with skippedSelfTransfers := stats.skippedSelfTransfers + 1 })
  else if transfer.isStaking then
    (lots, { stats with skippedStaking := stats.skippedStaking + 1 })
  else
    (pushReceiver (consumeSender lots transfer targetWalletSet) transfer targetWalletSet, stats)

/-- Apply the transfers in order. -/
def replayTransfers (state : WalletLotsState) (transfers : List OrderedTransferEvent)
    (targetWalletSet : List String) : WalletLotsState × ReplayStats :=
  transfers.foldl (applyTransfer targetWalletSet) (state, {})

/-- One empty queue for every wallet. -/
def initializeWalletLots (wallets : List String) : WalletLotsState :=
  OrderedMap.ofPairs (wallets.map fun wallet => (wallet, []))

/-! ## One wallet as an account -/

/-- Lots as portions of an account. -/
def lotPortion : Portion WalletLot Rat where
  amount lot := lot.amountRemaining
  withAmount lot value := { lot with amountRemaining := value }
  amount_withAmount _ _ := rfl

/-- A lot keeps its resource while it is drained. -/
def lotLabelling : Fifo.Labelling lotPortion ResourceId where
  label lot := lot.resourceId
  label_withAmount _ _ := rfl

/-- Transfers that reach the lots at all. -/
def applies (transfer : OrderedTransferEvent) : Bool :=
  0 < transfer.amount && !isSelfTransfer transfer && !transfer.isStaking

/-- What one transfer does to the account of one tracked wallet. -/
def walletAction (wallet : String) (transfer : OrderedTransferEvent) :
    Option (Action WalletLot Rat) :=
  if applies transfer then
    if truthy transfer.fromAddress = some wallet then some (.spend transfer.amount)
    else if truthy transfer.toAddress = some wallet then some (.receive (receivedLot transfer))
    else none
  else none

/-- A wallet's share of a list of transfers. -/
def walletActions (wallet : String) (transfers : List OrderedTransferEvent) :
    List (Action WalletLot Rat) :=
  transfers.filterMap (walletAction wallet)

theorem consumeLots_fst {queue : List WalletLot} (positive : lotPortion.Positive queue)
    (remaining : Rat) : (consumeLots queue remaining).1 = lotPortion.consume queue remaining := by
  induction queue generalizing remaining with
  | nil => rfl
  | cons head rest ih =>
      simp only [consumeLots, Portion.consume]
      by_cases pending : remaining > 0
      · rw [if_pos pending, if_neg (not_le.mpr pending)]
        by_cases drained : head.amountRemaining ≤ remaining
        · simp only [min_eq_left drained, sub_self, le_refl, ↓reduceIte, lotPortion, drained]
          exact ih positive.tail _
        · have short : remaining < head.amountRemaining := not_le.mp drained
          simp [min_eq_right short.le, not_le.mpr short, lotPortion]
      · rw [if_neg pending, if_pos (not_lt.mp pending)]

/-- Consuming lots is draining the account. -/
theorem consumeLotsFifo_fst {queue : List WalletLot} (positive : lotPortion.Positive queue)
    (amount : Rat) : (consumeLotsFifo queue amount).1 = lotPortion.consume queue amount := by
  unfold consumeLotsFifo
  split
  · rename_i nothing
    cases queue with
    | nil => rfl
    | cons head rest => simp [Portion.consume, nothing]
  · exact consumeLots_fst positive amount

theorem truthy_ne_of_not_selfTransfer {transfer : OrderedTransferEvent}
    (other : isSelfTransfer transfer = false) {wallet : String}
    (sender : truthy transfer.fromAddress = some wallet) :
    truthy transfer.toAddress ≠ some wallet := by
  intro receiver
  simp [isSelfTransfer, sender, receiver] at other

theorem get?_consumeSender (state : WalletLotsState) (transfer : OrderedTransferEvent)
    (targets : List String) (wallet : String) :
    (consumeSender state transfer targets).get? wallet =
      if truthy transfer.fromAddress = some wallet ∧ wallet ∈ targets then
        (state.get? wallet).map fun lots => (consumeLotsFifo lots transfer.amount).1
      else state.get? wallet := by
  unfold consumeSender
  cases sender : truthy transfer.fromAddress with
  | none => simp
  | some address =>
      by_cases tracked : address ∈ targets
      · cases held : state.get? address with
        | none =>
            by_cases same : address = wallet
            · subst same
              simp [tracked, held]
            · simp [tracked, held, same]
        | some lots =>
            by_cases same : address = wallet
            · subst same
              simp [tracked, held]
            · simp [tracked, held, same, OrderedMap.get?_set_of_ne _ _ (Ne.symm same)]
      · by_cases same : address = wallet
        · subst same
          simp [tracked]
        · simp [tracked, same]

theorem get?_pushReceiver (state : WalletLotsState) (transfer : OrderedTransferEvent)
    (targets : List String) (wallet : String) :
    (pushReceiver state transfer targets).get? wallet =
      if truthy transfer.toAddress = some wallet ∧ wallet ∈ targets then
        (state.get? wallet).map fun lots => pushLot lots (receivedLot transfer)
      else state.get? wallet := by
  unfold pushReceiver
  cases receiver : truthy transfer.toAddress with
  | none => simp
  | some address =>
      by_cases tracked : address ∈ targets
      · cases held : state.get? address with
        | none =>
            by_cases same : address = wallet
            · subst same
              simp [tracked, held]
            · simp [tracked, held, same]
        | some lots =>
            by_cases same : address = wallet
            · subst same
              simp [tracked, held]
            · simp [tracked, held, same, OrderedMap.get?_set_of_ne _ _ (Ne.symm same)]
      · by_cases same : address = wallet
        · subst same
          simp [tracked]
        · simp [tracked, same]

/-- One transfer acts on every tracked wallet as that wallet's own action. -/
theorem get?_applyTransfer {targets : List String} {state : WalletLotsState}
    (stats : ReplayStats) (transfer : OrderedTransferEvent) {wallet : String}
    (tracked : wallet ∈ targets) {lots : List WalletLot} (held : state.get? wallet = some lots)
    (positive : lotPortion.Positive lots) :
    ((applyTransfer targets (state, stats) transfer).1).get? wallet =
      some (lotPortion.run lots (walletAction wallet transfer).toList) := by
  by_cases zero : transfer.amount = 0
  · simp [applyTransfer, walletAction, applies, zero, held]
  by_cases self : isSelfTransfer transfer
  · simp [applyTransfer, walletAction, applies, zero, self, held]
  by_cases staking : transfer.isStaking
  · simp [applyTransfer, walletAction, applies, zero, self, staking, held]
  have different : isSelfTransfer transfer = false := by simpa using self
  have pushed : (applyTransfer targets (state, stats) transfer).1 =
      pushReceiver (consumeSender state transfer targets) transfer targets := by
    simp [applyTransfer, zero, self, staking]
  rw [pushed, get?_pushReceiver, get?_consumeSender]
  by_cases sender : truthy transfer.fromAddress = some wallet
  · have receiver := truthy_ne_of_not_selfTransfer different sender
    by_cases amountPositive : 0 < transfer.amount
    · simp [sender, receiver, tracked, held, walletAction, applies, amountPositive, different,
        staking, Portion.act, consumeLotsFifo_fst positive]
    · simp [sender, receiver, tracked, held, walletAction, applies, amountPositive,
        consumeLotsFifo, not_lt.mp amountPositive]
  · by_cases receiver : truthy transfer.toAddress = some wallet
    · by_cases amountPositive : 0 < transfer.amount
      · simp [sender, receiver, tracked, held, walletAction, applies, amountPositive, different,
          staking, Portion.act, pushLot, receivedLot, not_le.mpr amountPositive]
      · simp [sender, receiver, tracked, held, walletAction, applies, amountPositive, pushLot,
          receivedLot, not_lt.mp amountPositive]
    · simp [sender, receiver, held, walletAction]

theorem moves_walletAction (wallet : String) (transfer : OrderedTransferEvent) :
    lotPortion.Moves (walletAction wallet transfer).toList := by
  intro action member
  rw [Option.mem_toList] at member
  unfold walletAction at member
  split at member
  · rename_i applied
    have amountPositive : 0 < transfer.amount := by
      simp only [applies, Bool.and_eq_true, decide_eq_true_eq] at applied
      exact applied.1.1
    split at member
    · cases member
      exact amountPositive
    · split at member
      · cases member
        exact amountPositive
      · cases member
  · cases member

theorem moves_walletActions (wallet : String) (transfers : List OrderedTransferEvent) :
    lotPortion.Moves (walletActions wallet transfers) := by
  intro action member
  obtain ⟨transfer, _, acted⟩ := List.mem_filterMap.mp member
  exact moves_walletAction wallet transfer action (Option.mem_toList.mpr acted)

theorem walletActions_cons (wallet : String) (transfer : OrderedTransferEvent)
    (rest : List OrderedTransferEvent) :
    walletActions wallet (transfer :: rest) =
      (walletAction wallet transfer).toList ++ walletActions wallet rest := by
  unfold walletActions
  cases acted : walletAction wallet transfer <;> simp [acted]

theorem walletActions_append (wallet : String) (first second : List OrderedTransferEvent) :
    walletActions wallet (first ++ second) =
      walletActions wallet first ++ walletActions wallet second := by
  simp [walletActions]

/-- The replay of a whole state is, for every tracked wallet, the run of that
wallet's own account. -/
theorem get?_foldl_applyTransfer {targets : List String} {wallet : String}
    (tracked : wallet ∈ targets) (transfers : List OrderedTransferEvent)
    (state : WalletLotsState) (stats : ReplayStats) {lots : List WalletLot}
    (held : state.get? wallet = some lots) (positive : lotPortion.Positive lots) :
    (transfers.foldl (applyTransfer targets) (state, stats)).1.get? wallet =
      some (lotPortion.run lots (walletActions wallet transfers)) := by
  induction transfers generalizing state stats lots with
  | nil => simpa [walletActions] using held
  | cons transfer rest ih =>
      have step := get?_applyTransfer stats transfer tracked held positive
      rw [List.foldl_cons, walletActions_cons, Portion.run_append]
      exact ih _ _ step (positive.run lotPortion (moves_walletAction wallet transfer))

theorem get?_replayTransfers {targets : List String} {wallet : String}
    (tracked : wallet ∈ targets) (transfers : List OrderedTransferEvent)
    {state : WalletLotsState} {lots : List WalletLot}
    (held : state.get? wallet = some lots) (positive : lotPortion.Positive lots) :
    (replayTransfers state transfers targets).1.get? wallet =
      some (lotPortion.run lots (walletActions wallet transfers)) :=
  get?_foldl_applyTransfer tracked transfers state {} held positive

/-- Wallets without a queue never get one. -/
theorem get?_applyTransfer_of_none {targets : List String}
    (state : WalletLotsState × ReplayStats) (transfer : OrderedTransferEvent) {wallet : String}
    (absent : state.1.get? wallet = none) :
    (applyTransfer targets state transfer).1.get? wallet = none := by
  unfold applyTransfer
  dsimp only
  split
  · exact absent
  · split
    · exact absent
    · split
      · exact absent
      · rw [get?_pushReceiver, get?_consumeSender]
        simp [absent]

theorem get?_replayTransfers_of_none {targets : List String}
    (transfers : List OrderedTransferEvent) {state : WalletLotsState} {wallet : String}
    (absent : state.get? wallet = none) :
    (replayTransfers state transfers targets).1.get? wallet = none := by
  have general : ∀ before : WalletLotsState × ReplayStats, before.1.get? wallet = none →
      (transfers.foldl (applyTransfer targets) before).1.get? wallet = none := by
    induction transfers with
    | nil => intro before missing; exact missing
    | cons transfer rest ih =>
        intro before missing
        exact ih _ (get?_applyTransfer_of_none before transfer missing)
  exact general (state, {}) absent

/-- A transfer adds to the counters without looking at them. -/
theorem applyTransfer_eq (targets : List String) (lots : WalletLotsState) (stats : ReplayStats)
    (transfer : OrderedTransferEvent) :
    applyTransfer targets (lots, stats) transfer =
      ((applyTransfer targets (lots, {}) transfer).1,
        stats.add (applyTransfer targets (lots, {}) transfer).2) := by
  simp only [applyTransfer, ReplayStats.add]
  split
  · simp
  · split
    · simp
    · split <;> simp

theorem foldl_applyTransfer_eq (targets : List String) (transfers : List OrderedTransferEvent)
    (lots : WalletLotsState) (stats : ReplayStats) :
    transfers.foldl (applyTransfer targets) (lots, stats) =
      ((replayTransfers lots transfers targets).1,
        stats.add (replayTransfers lots transfers targets).2) := by
  induction transfers generalizing lots stats with
  | nil => rfl
  | cons transfer rest ih =>
      have first := applyTransfer_eq targets lots stats transfer
      simp only [replayTransfers, List.foldl_cons] at ih ⊢
      rw [first, ih, ih _ (applyTransfer targets (lots, {}) transfer).2, ReplayStats.add_assoc]

/-- Replaying two batches one after another is replaying their concatenation. -/
theorem replayTransfers_append (lots : WalletLotsState)
    (first second : List OrderedTransferEvent) (targets : List String) :
    replayTransfers lots (first ++ second) targets =
      ((replayTransfers (replayTransfers lots first targets).1 second targets).1,
        (replayTransfers lots first targets).2.add
          (replayTransfers (replayTransfers lots first targets).1 second targets).2) := by
  have split : replayTransfers lots (first ++ second) targets =
      second.foldl (applyTransfer targets) (replayTransfers lots first targets) := by
    simp only [replayTransfers, List.foldl_append]
  rw [split]
  exact foldl_applyTransfer_eq targets second _ _

theorem get?_initializeWalletLots (wallets : List String) (wallet : String) :
    (initializeWalletLots wallets).get? wallet = if wallet ∈ wallets then some [] else none :=
  OrderedMap.get?_ofPairs_const wallets [] wallet

end Reputo.TokenValue
