import Reputo.Library.Distinct
import Reputo.Library.JsText
import Reputo.OnchainData.Cardano
import Reputo.OnchainData.Evm
import Reputo.TokenValue.Types

/-!
# Normalizing stored transactions to transfer events

A Cardano transaction becomes one event for every tracked address whose net
flow is not zero; an EVM transfer becomes one event.
-/

namespace Reputo.TokenValue

open Reputo.Library Reputo.OnchainData

/-! ## Cardano -/

def BLOCK_HEIGHT_PAD_LENGTH : Nat := 12

def padBlockHeight (blockHeight : Nat) : String :=
  JsText.padStart BLOCK_HEIGHT_PAD_LENGTH '0' (toString blockHeight)

/-- Add the quantities of one asset at one address to its flow, with a sign. -/
def addAmounts (assetUnit : String) (unitDivisor sign : Rat) (address : String)
    (amounts : List CardanoAmount) (addressFlows : OrderedMap String Rat) :
    OrderedMap String Rat :=
  amounts.foldl (fun flows amount =>
    if amount.unit = assetUnit then
      flows.upsert address fun flow => flow.getD 0 + sign * (amount.quantity / unitDivisor)
    else flows) addressFlows

/-- Add every tracked entry to the flows, with a sign. -/
def addEntries (trackedAddresses : List String) (assetUnit : String) (unitDivisor sign : Rat)
    (entries : List (String × List CardanoAmount)) (addressFlows : OrderedMap String Rat) :
    OrderedMap String Rat :=
  entries.foldl (fun flows entry =>
    if entry.1 ∈ trackedAddresses then
      addAmounts assetUnit unitDivisor sign entry.1 entry.2 flows
    else flows) addressFlows

/-- Net flow of one asset at every tracked address of a transaction: inputs
count against an address, outputs for it. -/
def addressFlows (trackedAddresses : List String) (assetUnit : String) (assetDecimals : Nat)
    (tx : CardanoRawTransactionUtxoData) : OrderedMap String Rat :=
  let unitDivisor : Rat := 10 ^ assetDecimals
  let spent := addEntries trackedAddresses assetUnit unitDivisor (-1)
    (tx.inputs.map fun input => (input.address, input.amounts)) .empty
  addEntries trackedAddresses assetUnit unitDivisor 1
    (tx.outputs.map fun output => (output.address, output.amounts)) spent

/-- Events of the flows of one transaction; flows of zero take no log index. -/
def flowEvents (resourceId : ResourceId) (tx : CardanoRawTransactionUtxoData) :
    Nat → List (String × Rat) → List OrderedTransferEvent
  | _, [] => []
  | logIndex, (address, netFlow) :: rest =>
      if netFlow = 0 then flowEvents resourceId tx logIndex rest
      else
        { resourceId
          blockOrdinal := padBlockHeight tx.block_height
          transactionHash := tx.tx_hash.text
          logIndex
          fromAddress := if netFlow > 0 then none else some address
          toAddress := if netFlow > 0 then some address else none
          amount := |netFlow|
          blockTimestamp := some (tx.block_time * 1000)
          isStaking := false } :: flowEvents resourceId tx (logIndex + 1) rest

/-- Events of one Cardano transaction. -/
def normalizeCardanoTransaction (resourceId : ResourceId) (assetUnit : String)
    (trackedAddresses : List String) (assetDecimals : Nat)
    (tx : CardanoRawTransactionUtxoData) : List OrderedTransferEvent :=
  flowEvents resourceId tx 0 (addressFlows trackedAddresses assetUnit assetDecimals tx).entries

def normalizeCardanoTransactions (txs : List CardanoRawTransactionUtxoData)
    (resourceId : ResourceId) (assetUnit : String) (trackedAddresses : List String)
    (assetDecimals : Nat) : List OrderedTransferEvent :=
  txs.flatMap (normalizeCardanoTransaction resourceId assetUnit trackedAddresses assetDecimals)

theorem flowEvents_eq_nil_iff {resourceId : ResourceId} {tx : CardanoRawTransactionUtxoData}
    {logIndex : Nat} {flows : List (String × Rat)} :
    flowEvents resourceId tx logIndex flows = [] ↔ ∀ flow ∈ flows, flow.2 = 0 := by
  induction flows generalizing logIndex with
  | nil => simp [flowEvents]
  | cons flow rest ih =>
      simp only [flowEvents, List.mem_cons, forall_eq_or_imp]
      split
      · rename_i zero
        simp [ih, zero]
      · rename_i moved
        simp [moved]

/-- A transaction brings no event exactly when every tracked net flow is zero. -/
theorem normalizeCardanoTransaction_eq_nil_iff {resourceId : ResourceId} {assetUnit : String}
    {trackedAddresses : List String} {assetDecimals : Nat} {tx : CardanoRawTransactionUtxoData} :
    normalizeCardanoTransaction resourceId assetUnit trackedAddresses assetDecimals tx = [] ↔
      ∀ flow ∈ (addressFlows trackedAddresses assetUnit assetDecimals tx).entries, flow.2 = 0 :=
  flowEvents_eq_nil_iff

theorem resourceId_of_mem_flowEvents {resourceId : ResourceId}
    {tx : CardanoRawTransactionUtxoData} {logIndex : Nat} {flows : List (String × Rat)}
    {event : OrderedTransferEvent} (member : event ∈ flowEvents resourceId tx logIndex flows) :
    event.resourceId = resourceId := by
  induction flows generalizing logIndex with
  | nil => simp [flowEvents] at member
  | cons flow rest ih =>
      simp only [flowEvents] at member
      split at member
      · exact ih member
      · rcases List.mem_cons.mp member with same | tailMember
        · rw [same]
        · exact ih tailMember

/-! ## EVM -/

def normalizeHexBlock (block : String) : Except String String :=
  match JsText.bigInt block with
  | some value => .ok ("0x" ++ JsText.toString16 value)
  | none => .error ("Cannot convert " ++ block ++ " to a BigInt")

/-- `address || null`. -/
def orNull (address : Option String) : Option String :=
  address.filter (· ≠ "")

/-- Event of one EVM transfer. -/
def normalizeEvmTransfer (toLowerCase : String → String) (resourceId : ResourceId)
    (stakingAddresses : List String) (row : EvmAssetTransferRow) :
    Except String OrderedTransferEvent := do
  let fromAddress := orNull (some row.from_address)
  let toAddress := orNull row.to_address
  let isStaking :=
    fromAddress.any (fun address => toLowerCase address ∈ stakingAddresses) ||
      toAddress.any (fun address => toLowerCase address ∈ stakingAddresses)
  let blockOrdinal ← normalizeHexBlock row.block_num
  return {
    resourceId
    blockOrdinal
    transactionHash := row.hash
    logIndex := 0
    fromAddress
    toAddress
    amount := row.value.getD 0
    blockTimestamp := row.metadata.bind (·.blockTimestamp)
    isStaking }

/-- Events of a page of EVM transfers, skipping repeated unique ids. -/
def normalizeEvmTransfers (toLowerCase : String → String) (rows : List EvmAssetTransferRow)
    (resourceId : ResourceId) (stakingAddresses : List String) :
    Except String (List OrderedTransferEvent) :=
  (distinctBy (·.unique_id) rows).mapM
    (normalizeEvmTransfer toLowerCase resourceId stakingAddresses)

theorem resourceId_of_normalizeEvmTransfer {toLowerCase : String → String}
    {resourceId : ResourceId} {stakingAddresses : List String} {row : EvmAssetTransferRow}
    {event : OrderedTransferEvent}
    (normalized : normalizeEvmTransfer toLowerCase resourceId stakingAddresses row = .ok event) :
    event.resourceId = resourceId := by
  rcases Result.bind_eq_ok.mp normalized with ⟨block, _, built⟩
  cases built
  rfl

end Reputo.TokenValue
