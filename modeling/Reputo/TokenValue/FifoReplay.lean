import Reputo.TokenValue.Lots

/-!
# What a replay leaves in the queues

The queue of a tracked wallet holds the newest units that the wallet received, as many as its
saturating balance.  Both are read off the wallet's own transfers, without the queue.
-/

namespace Reputo.TokenValue

open Reputo.Library
open Reputo.Library.Fifo (Action Portion)

/-- The balance of a wallet after one more transfer. -/
def settleTransfer (wallet : String) (balance : Rat) (transfer : OrderedTransferEvent) : Rat :=
  if applies transfer then
    if truthy transfer.fromAddress = some wallet then max 0 (balance - transfer.amount)
    else if truthy transfer.toAddress = some wallet then balance + transfer.amount
    else balance
  else balance

def saturatingBalance (wallet : String) (transfers : List OrderedTransferEvent) : Rat :=
  transfers.foldl (settleTransfer wallet) 0

/-- What a wallet received, in order. -/
def receipts (wallet : String) (transfers : List OrderedTransferEvent) : List WalletLot :=
  (transfers.filter fun transfer =>
    applies transfer && truthy transfer.toAddress = some wallet).map receivedLot

/-- The queue of a wallet meets its specification. -/
structure IsFifoQueue (wallet : String) (transfers : List OrderedTransferEvent)
    (lots : List WalletLot) : Prop where
  positive : ∀ lot ∈ lots, 0 < lot.amountRemaining
  balanced : (lots.map (·.amountRemaining)).sum = saturatingBalance wallet transfers
  newest : lots = [] ∨ ∃ drained head rest left,
    receipts wallet transfers = drained ++ head :: rest ∧
      lots = { head with amountRemaining := left } :: rest ∧ 0 < left ∧ left ≤ head.amountRemaining

/-- The queues of the tracked wallets, and no others. -/
structure IsFifoState (targetWalletSet : List String) (transfers : List OrderedTransferEvent)
    (state : WalletLotsState) : Prop where
  tracked : ∀ wallet ∈ targetWalletSet, ∃ lots, state.get? wallet = some lots ∧
    IsFifoQueue wallet transfers lots
  untracked : ∀ wallet ∉ targetWalletSet, state.get? wallet = none

/-- Batches that are replayed one after another on the same state. -/
def replayBatches (targetWalletSet : List String) (state : WalletLotsState)
    (batches : List (List OrderedTransferEvent)) : WalletLotsState :=
  batches.foldl (fun state batch => (replayTransfers state batch targetWalletSet).1) state

/-! ## A wallet's own transfers -/

section Wallet

variable (wallet : String)

theorem settle_walletAction (balance : Rat) (transfer : OrderedTransferEvent) :
    lotPortion.balance balance (walletAction wallet transfer).toList =
      settleTransfer wallet balance transfer := by
  unfold walletAction settleTransfer
  split
  · split
    · rfl
    · split <;> rfl
  · rfl

theorem balance_walletActions (balance : Rat) (transfers : List OrderedTransferEvent) :
    lotPortion.balance balance (walletActions wallet transfers) =
      transfers.foldl (settleTransfer wallet) balance := by
  induction transfers generalizing balance with
  | nil => rfl
  | cons transfer rest ih =>
      rw [walletActions_cons, Portion.balance_append, settle_walletAction, ih, List.foldl_cons]

theorem applies_not_selfTransfer {transfer : OrderedTransferEvent}
    (applied : applies transfer = true) : isSelfTransfer transfer = false := by
  simp only [applies, Bool.and_eq_true, Bool.not_eq_true'] at applied
  exact applied.1.2

theorem received_walletActions (transfers : List OrderedTransferEvent) :
    Portion.received (walletActions wallet transfers) = receipts wallet transfers := by
  induction transfers with
  | nil => rfl
  | cons transfer rest ih =>
      rw [walletActions_cons]
      unfold receipts at ih ⊢
      unfold walletAction
      by_cases applied : applies transfer = true
      · by_cases sender : truthy transfer.fromAddress = some wallet
        · have other := truthy_ne_of_not_selfTransfer (applies_not_selfTransfer applied) sender
          simp [applied, sender, other, Portion.received, ih]
        · by_cases receiver : truthy transfer.toAddress = some wallet
          · simp [applied, sender, receiver, Portion.received, ih]
          · simp [applied, sender, receiver, ih]
      · simp [applied, ih]

/-- The account of a wallet meets the specification of its queue. -/
theorem isFifoQueue_run (transfers : List OrderedTransferEvent) :
    IsFifoQueue wallet transfers (lotPortion.run [] (walletActions wallet transfers)) := by
  have moves := moves_walletActions wallet transfers
  have positive : lotPortion.Positive [] := fun _ none_ => absurd none_ List.not_mem_nil
  have newest := Portion.Newest.run (fun _ => rfl) (fun _ _ _ => rfl) (.inl rfl) positive moves
  rw [List.nil_append, received_walletActions] at newest
  exact {
    positive := positive.run lotPortion moves
    balanced := by
      have total := lotPortion.total_run positive moves
      rw [Portion.total_nil, balance_walletActions] at total
      exact total
    newest := newest }

end Wallet

/-! ## Replays -/

/-- A replay leaves every tracked wallet its newest units, and batches do not matter. -/
theorem replayTransfers_meetsFifo (targetWalletSet : List String) :
    (∀ transfers, IsFifoState targetWalletSet transfers
      (replayTransfers (initializeWalletLots targetWalletSet) transfers targetWalletSet).1) ∧
      ∀ (state : WalletLotsState) (batches : List (List OrderedTransferEvent)),
        replayBatches targetWalletSet state batches =
          (replayTransfers state batches.flatten targetWalletSet).1 := by
  refine ⟨fun transfers => ⟨fun wallet tracked => ?_, fun wallet untracked => ?_⟩,
    fun state batches => ?_⟩
  · have empty := get?_initializeWalletLots targetWalletSet wallet
    rw [if_pos tracked] at empty
    exact ⟨_, get?_replayTransfers tracked transfers empty
      (fun _ none_ => absurd none_ List.not_mem_nil), isFifoQueue_run wallet transfers⟩
  · refine get?_replayTransfers_of_none transfers ?_
    rw [get?_initializeWalletLots, if_neg untracked]
  · induction batches generalizing state with
    | nil => rfl
    | cons batch rest ih =>
        rw [List.flatten_cons, replayTransfers_append]
        exact ih _

end Reputo.TokenValue
