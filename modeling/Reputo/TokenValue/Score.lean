import Mathlib.Data.List.Perm.Basic
import Mathlib.Data.List.Sort
import Mathlib.Algebra.BigOperators.Group.List.Basic
import Reputo.TokenValue.Lots

/-!
# Scoring wallet lots

A lot's value grows linearly with its age up to the maturation threshold.  The
score of a wallet depends on its lots only as a collection, so the order in
which they entered the queue does not matter.
-/

namespace Reputo.TokenValue

open Reputo.Library

def MS_PER_DAY : Rat := 24 * 60 * 60 * 1000

/-- Age of a lot in days; lots without a timestamp or from the future have none. -/
def computeLotAgeDays (receivedAt : Option Int) (snapshotCreatedAt : Int) : Rat :=
  match receivedAt with
  | none => 0
  | some receivedTs =>
      let ageMs := snapshotCreatedAt - receivedTs
      if ageMs ≤ 0 then 0 else ageMs / MS_PER_DAY

/-- Linear maturation, capped at one. -/
def computeLinearWeight (ageDays maturationThresholdDays : Rat) : Rat :=
  if maturationThresholdDays ≤ 0 then 1
  else if ageDays ≤ 0 then 0
  else min 1 (ageDays / maturationThresholdDays)

/-- The parameters of one scoring pass. -/
structure ScoreInput where
  selectedResourceIds : List ResourceId
  snapshotCreatedAt : Int
  maturationThresholdDays : Rat

/-- Weight of one lot. -/
def lotWeight (input : ScoreInput) (lot : WalletLot) : Rat :=
  computeLinearWeight (computeLotAgeDays lot.receivedAt input.snapshotCreatedAt)
    input.maturationThresholdDays

/-- Lots the scoring loop does not skip. -/
def isScored (input : ScoreInput) (lot : WalletLot) : Bool :=
  lot.resourceId ∈ input.selectedResourceIds && !(lot.amountRemaining ≤ 0)

/-- The reported detail of a scored lot. -/
def lotDetail (input : ScoreInput) (lot : WalletLot) : LotScoreDetail where
  resource_id := lot.resourceId
  source_transfer_id := lot.sourceTransferId
  amount_remaining := roundScore lot.amountRemaining
  age_days := roundScore (computeLotAgeDays lot.receivedAt input.snapshotCreatedAt)
  weight := roundScore (lotWeight input lot)
  lot_value := roundScore (lot.amountRemaining * lotWeight input lot)

/-- Score one wallet's lots in queue order. -/
def scoreLots (input : ScoreInput) (wallet : String) (lots : List WalletLot) :
    WalletScoreDetail :=
  let scored := lots.filter (isScored input)
  let total := scored.foldl (fun total lot => total + lot.amountRemaining * lotWeight input lot) 0
  { wallet_address := wallet
    token_value := roundScore total
    lots := scored.map (lotDetail input) }

/-- Score every wallet; the rows are sorted by the address order of the
runtime's `localeCompare`. -/
def scoreWalletLots (localeCompare : String → String → Ordering) (lotsState : WalletLotsState)
    (input : ScoreInput) : List WalletScoreDetail :=
  (lotsState.entries.map fun entry => scoreLots input entry.1 entry.2).mergeSort
    fun a b => localeCompare a.wallet_address b.wallet_address ≠ .gt

/-- The score a pass reports for one wallet. -/
def reportedScore (rows : List WalletScoreDetail) (wallet : String) : Option Rat :=
  (rows.find? fun row => row.wallet_address = wallet).map (·.token_value)

theorem foldl_add_eq_sum (value : WalletLot → Rat) (lots : List WalletLot) (start : Rat) :
    lots.foldl (fun total lot => total + value lot) start = start + (lots.map value).sum := by
  induction lots generalizing start with
  | nil => simp
  | cons lot rest ih => simp [ih, add_assoc]

/-- A wallet's score does not depend on the order of its lots. -/
theorem token_value_of_perm (input : ScoreInput) (wallet : String) {left right : List WalletLot}
    (same : left.Perm right) :
    (scoreLots input wallet left).token_value = (scoreLots input wallet right).token_value := by
  simp only [scoreLots, foldl_add_eq_sum]
  congr 2
  exact ((same.filter _).map _).sum_eq

/-- In a list with distinct keys, the first match is the only one. -/
theorem find?_key_eq {rows : List WalletScoreDetail}
    (nodup : (rows.map (·.wallet_address)).Nodup) {row : WalletScoreDetail} (member : row ∈ rows) :
    rows.find? (fun other => other.wallet_address = row.wallet_address) = some row := by
  induction rows with
  | nil => simp at member
  | cons head rest ih =>
      simp only [List.map_cons, List.nodup_cons] at nodup
      rcases List.mem_cons.mp member with rfl | tailMember
      · simp
      · have different : head.wallet_address ≠ row.wallet_address := fun equal =>
          nodup.1 (equal ▸ List.mem_map_of_mem tailMember)
        rw [List.find?_cons_of_neg (by simpa using different)]
        exact ih nodup.2 tailMember

/-- The reported score of a wallet is the score of its own lots. -/
theorem reportedScore_scoreWalletLots (localeCompare : String → String → Ordering)
    (lotsState : WalletLotsState) (input : ScoreInput) (wallet : String) :
    reportedScore (scoreWalletLots localeCompare lotsState input) wallet =
      (lotsState.get? wallet).map fun lots => (scoreLots input wallet lots).token_value := by
  have sorted := List.mergeSort_perm
    (lotsState.entries.map fun entry => scoreLots input entry.1 entry.2)
    (fun a b => localeCompare a.wallet_address b.wallet_address ≠ .gt)
  have addresses : (lotsState.entries.map fun entry =>
      scoreLots input entry.1 entry.2).map (·.wallet_address) =
        lotsState.entries.map Prod.fst := by
    rw [List.map_map]
    rfl
  have nodup : ((scoreWalletLots localeCompare lotsState input).map (·.wallet_address)).Nodup := by
    apply (sorted.map _).nodup_iff.mpr
    rw [addresses]
    exact lotsState.keys_nodup
  cases held : lotsState.get? wallet with
  | some lots =>
      have entryMember : (wallet, lots) ∈ lotsState.entries := by
        have key := (lotsState.mem_keys_iff_get? wallet).mpr ⟨lots, held⟩
        obtain ⟨entry, member, equal⟩ := List.mem_map.mp key
        have stored := lotsState.get?_of_mem_entries member
        rw [equal, held] at stored
        obtain rfl : entry = (wallet, lots) :=
          Prod.ext equal (Option.some.inj stored).symm
        exact member
      have rowMember : scoreLots input wallet lots ∈
          scoreWalletLots localeCompare lotsState input :=
        sorted.mem_iff.mpr (List.mem_map_of_mem (f := fun entry =>
          scoreLots input entry.1 entry.2) entryMember)
      have found := find?_key_eq nodup rowMember
      simp only [reportedScore, Option.map_some]
      rw [show (fun row : WalletScoreDetail => decide (row.wallet_address = wallet)) =
        fun row => decide (row.wallet_address = (scoreLots input wallet lots).wallet_address)
        from rfl, found]
      rfl
  | none =>
      simp only [reportedScore, Option.map_none, Option.map_eq_none_iff, List.find?_eq_none]
      intro row member equal
      have address : row.wallet_address ∈ lotsState.entries.map Prod.fst := by
        rw [← addresses]
        exact List.mem_map_of_mem (sorted.mem_iff.mp member)
      simp only [decide_eq_true_eq] at equal
      obtain ⟨value, stored⟩ := (lotsState.mem_keys_iff_get? wallet).mp (equal ▸ address)
      rw [held] at stored
      exact Option.some_ne_none value stored.symm

end Reputo.TokenValue
