import Mathlib.Data.Rat.Defs
import Mathlib.Data.Rat.Floor
import Reputo.Library.OrderedMap

/-!
# Data of the `token_value_over_time` algorithm

Amounts are exact rationals and instants are milliseconds since the epoch.
Chains are the raw strings of the definition and of the preset: the source
casts them to the supported chains without a check.
-/

namespace Reputo.TokenValue

open Reputo.Library

/-- Unique resource identifier: `${chain}:${identifier}`. -/
abbrev ResourceId := String

/-- A selected resource of the preset. -/
structure SelectedResourceInput where
  chain : String
  resourceKey : String
  deriving DecidableEq, Repr

/-- One entry of the resource catalog. -/
structure ResourceCatalogEntry where
  chain : String
  key : String
  kind : String
  identifier : String
  tokenIdentifier : String
  tokenKey : String
  tokenDecimals : Option Nat := none
  parentResourceKey : Option String := none
  deriving DecidableEq, Repr

/-- A selected resource resolved through the catalog. -/
structure ResolvedResource where
  chain : String
  resourceKey : String
  kind : String
  identifier : String
  tokenIdentifier : String
  tokenDecimals : Option Nat := none
  resourceId : ResourceId
  deriving DecidableEq, Repr

/-- A normalized transfer, ready for the replay. -/
structure OrderedTransferEvent where
  resourceId : ResourceId
  blockOrdinal : String
  transactionHash : String
  logIndex : Nat
  fromAddress : Option String
  toAddress : Option String
  amount : Rat
  blockTimestamp : Option Int
  isStaking : Bool
  deriving DecidableEq, Repr

/-- A group of tokens received together and not yet spent. -/
structure WalletLot where
  resourceId : ResourceId
  amountRemaining : Rat
  receivedAt : Option Int
  sourceTransferId : String
  deriving DecidableEq, Repr

/-- The lots of every tracked wallet. -/
abbrev WalletLotsState := OrderedMap String (List WalletLot)

/-- Counters of one replay. -/
structure ReplayStats where
  processed : Nat := 0
  skippedZeroAmount : Nat := 0
  skippedSelfTransfers : Nat := 0
  skippedStaking : Nat := 0
  deriving DecidableEq, Repr

/-- The counters of two replays together. -/
def ReplayStats.add (left right : ReplayStats) : ReplayStats where
  processed := left.processed + right.processed
  skippedZeroAmount := left.skippedZeroAmount + right.skippedZeroAmount
  skippedSelfTransfers := left.skippedSelfTransfers + right.skippedSelfTransfers
  skippedStaking := left.skippedStaking + right.skippedStaking

theorem ReplayStats.add_assoc (first second third : ReplayStats) :
    (first.add second).add third = first.add (second.add third) := by
  simp [ReplayStats.add, Nat.add_assoc]

@[simp] theorem ReplayStats.add_empty (stats : ReplayStats) : stats.add {} = stats := rfl

/-- Scored lot of one wallet. -/
structure LotScoreDetail where
  resource_id : ResourceId
  source_transfer_id : String
  amount_remaining : Rat
  age_days : Rat
  weight : Rat
  lot_value : Rat
  deriving DecidableEq, Repr

/-- Score of one wallet. -/
structure WalletScoreDetail where
  wallet_address : String
  token_value : Rat
  lots : List LotScoreDetail
  deriving DecidableEq, Repr

def SCORE_PRECISION : Nat := 6

/-- Round half up to six decimals, as `Math.round` does. -/
def roundScore (score : Rat) : Rat :=
  (⌊score * 10 ^ SCORE_PRECISION + 1 / 2⌋ : Int) / 10 ^ SCORE_PRECISION

end Reputo.TokenValue
