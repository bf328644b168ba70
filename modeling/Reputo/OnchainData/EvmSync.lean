import Mathlib.Logic.Function.Basic
import Reputo.Library.System
import Reputo.OnchainData.Evm

/-!
# The incremental EVM sync

One run of `syncEvmAssetTransferWithAdapter` as a sequence of the steps between
which it waits: reading the sync state, learning the finalized block, receiving a
page, and flushing the pending pages in one database transaction.  Runs share the
database and their steps interleave; between its steps a run may fail.
-/

namespace Reputo.OnchainData

open Reputo.Library

/-! ## Block numbers -/

/-- `/^0x[0-9a-f]+$/i`. -/
def HEX_BLOCK_PATTERN : List Char → Bool
  | '0' :: 'x' :: digits | '0' :: 'X' :: digits => (JsText.digitsValue 16 digits).isSome
  | _ => false

def normalizeHexBlock (block : String) : Except String String :=
  let normalizedValue := (JsText.trimList block.toList).map Char.toLower
  let normalizedInput :=
    if ['0', 'x'].isPrefixOf normalizedValue then normalizedValue else '0' :: 'x' :: normalizedValue
  if HEX_BLOCK_PATTERN normalizedInput then
    let hexDigits := (normalizedInput.drop 2).dropWhile (· == '0')
    .ok ("0x" ++ String.ofList (if hexDigits.isEmpty then ['0'] else hexDigits))
  else .error ("Invalid hex block value: " ++ block)

/-- `BigInt(normalizeHexBlock(block))`. -/
def hexBlockValue (block : String) : Except String Int :=
  (normalizeHexBlock block).bind fun normalized =>
    match JsText.bigInt normalized with
    | some value => .ok value
    | none => .error ("Cannot convert " ++ normalized ++ " to a BigInt")

def compareHexBlocks (left right : String) : Except String Int := do
  let leftValue ← hexBlockValue left
  let rightValue ← hexBlockValue right
  if leftValue = rightValue then return 0
  return if leftValue < rightValue then -1 else 1

/-- The text denotes a block number. -/
def IsBlock (block : String) : Prop := ∃ number : Nat, hexBlockValue block = .ok number

/-- The block number that a text denotes. -/
def blockNumber (block : String) : Nat := ((hexBlockValue block).toOption.getD 0).toNat

theorem hexBlockValue_eq {block : String} (valid : IsBlock block) :
    hexBlockValue block = .ok (blockNumber block : Int) := by
  rcases valid with ⟨number, value⟩
  rw [blockNumber, value]
  rfl

/-- Block texts compare as the numbers they denote. -/
theorem compareHexBlocks_eq {left right : String} (leftValid : IsBlock left)
    (rightValid : IsBlock right) :
    compareHexBlocks left right =
      .ok (if blockNumber left = blockNumber right then 0
        else if blockNumber left < blockNumber right then -1 else 1) := by
  rw [compareHexBlocks, hexBlockValue_eq leftValid, hexBlockValue_eq rightValid]
  simp only [bind, Except.bind, Int.natCast_inj, Int.ofNat_lt]
  split <;> rfl

example : compareHexBlocks " 0x00A" "0xb" = .ok (-1) := by decide +kernel

/-! ## Pages -/

structure EvmAssetTransferPage where
  items : List RawEvmAssetTransfer
  lastBlock : String
  deriving DecidableEq

/-- The page of one provider answer. -/
def fetchTransferPage (toBlock : String) (transfers : List RawEvmAssetTransfer) :
    EvmAssetTransferPage where
  items := transfers
  lastBlock :=
    match transfers.getLast? with
    | some last => last.blockNum
    | none => toBlock

/-! ## Database -/

structure EvmAssetTransferSyncStateRow where
  chain : String
  asset_identifier : String
  last_synced_block : String
  updated_at : Int
  deriving DecidableEq, Repr

/-- The tables that the EVM sync reads and writes. -/
structure EvmSyncDatabase where
  transfers : EvmAssetTransferTable
  syncStates : Table EvmAssetTransferSyncStateRow fun row => (row.chain, row.asset_identifier)

structure InsertEvmAssetTransfersResult where
  attemptedCount : Nat
  insertedCount : Nat
  ignoredCount : Nat
  deriving DecidableEq, Repr

def insertEvmAssetTransfers (table : EvmAssetTransferTable) (rows : List EvmAssetTransferRow) :
    EvmAssetTransferTable × InsertEvmAssetTransfersResult :=
  let insertedCount := table.insertedCount rows
  (table.insertAllOrIgnore rows, ⟨rows.length, insertedCount, rows.length - insertedCount⟩)

def findEvmAssetTransferSyncState (db : EvmSyncDatabase) (target : EvmTransferTarget) :
    Option EvmAssetTransferSyncStateRow :=
  db.syncStates.find? (target.chain, target.assetIdentifier)

/-! ## The steps of a run -/

def EVM_PROVIDER_PAGE_SIZE : Nat := 1000

def EVM_SYNC_PAGES_PER_BATCH : Nat := 5

def EVM_SYNC_BATCH_SIZE : Nat := EVM_PROVIDER_PAGE_SIZE * EVM_SYNC_PAGES_PER_BATCH

structure SyncEvmAssetTransferResult where
  chain : String
  assetIdentifier : String
  fromBlock : String
  toBlock : String
  pageCount : Nat
  attemptedCount : Nat
  insertedCount : Nat
  ignoredCount : Nat
  deriving DecidableEq, Repr

/-- The variables of a run while it receives pages. -/
structure EvmSyncLoop where
  target : EvmTransferTarget
  fromBlock : String
  toBlock : String
  pageCount : Nat := 0
  attemptedCount : Nat := 0
  insertedCount : Nat := 0
  ignoredCount : Nat := 0
  pendingPages : List EvmAssetTransferPage := []
  deriving DecidableEq

def EvmSyncLoop.result (loop : EvmSyncLoop) : SyncEvmAssetTransferResult where
  chain := loop.target.chain
  assetIdentifier := loop.target.assetIdentifier
  fromBlock := loop.fromBlock
  toBlock := loop.toBlock
  pageCount := loop.pageCount
  attemptedCount := loop.attemptedCount
  insertedCount := loop.insertedCount
  ignoredCount := loop.ignoredCount

/-- Where a run waits.  `upcoming` are the provider's answers that it has not
received yet, up to the first without a page key. -/
inductive EvmSyncRun where
  | started (target : EvmTransferTarget) (fromBlock : String)
  | paging (loop : EvmSyncLoop) (upcoming : List (List RawEvmAssetTransfer))
  | flushing (loop : EvmSyncLoop) (upcoming : List (List RawEvmAssetTransfer))
  | finished (result : SyncEvmAssetTransferResult)
  | failed
  deriving DecidableEq

/-- The run has read the sync state. -/
def startRun (db : EvmSyncDatabase) (target : EvmTransferTarget) : EvmSyncRun :=
  let syncState := findEvmAssetTransferSyncState db target
  .started target ((syncState.map (·.last_synced_block)).getD "0x0")

/-- The run has learnt the finalized block. -/
def receiveFinalizedBlock (target : EvmTransferTarget) (fromBlock toBlock : String)
    (upcoming : List (List RawEvmAssetTransfer)) : EvmSyncRun :=
  match compareHexBlocks fromBlock toBlock with
  | .error _ => .failed
  | .ok comparison =>
      let loop : EvmSyncLoop := { target, fromBlock, toBlock }
      if 0 < comparison then .finished loop.result else .paging loop upcoming

/-- A run has nothing to fetch exactly when its window is empty. -/
theorem receiveFinalizedBlock_eq {fromBlock toBlock : String} (fromValid : IsBlock fromBlock)
    (toValid : IsBlock toBlock) (target : EvmTransferTarget)
    (upcoming : List (List RawEvmAssetTransfer)) :
    receiveFinalizedBlock target fromBlock toBlock upcoming =
      if blockNumber toBlock < blockNumber fromBlock then
        .finished ({ target, fromBlock, toBlock } : EvmSyncLoop).result
      else .paging { target, fromBlock, toBlock } upcoming := by
  simp only [receiveFinalizedBlock, compareHexBlocks_eq fromValid toValid]
  rcases lt_trichotomy (blockNumber fromBlock) (blockNumber toBlock) with below | same | above
  · simp [below, below.ne, below.not_gt]
  · simp [same]
  · simp [above, above.ne', above.not_gt]

/-- The run has received the next page, or learnt that there is none. -/
def receivePage (loop : EvmSyncLoop) : List (List RawEvmAssetTransfer) → EvmSyncRun
  | [] => if 0 < loop.pendingPages.length then .flushing loop [] else .finished loop.result
  | transfers :: upcoming =>
      let received := { loop with
        pageCount := loop.pageCount + 1
        pendingPages := loop.pendingPages ++ [fetchTransferPage loop.toBlock transfers] }
      if received.pendingPages.length * EVM_PROVIDER_PAGE_SIZE ≥ EVM_SYNC_BATCH_SIZE then
        .flushing received upcoming
      else .paging received upcoming

/-- The rows of the pending pages. -/
def pendingRows (loop : EvmSyncLoop) : List EvmAssetTransferRow :=
  loop.pendingPages.flatMap fun page => page.items.map (toEvmAssetTransferRow loop.target)

/-- The run's database transaction has committed. -/
def flushPendingPages (db : EvmSyncDatabase) (loop : EvmSyncLoop) (updatedAt : Int) :
    EvmSyncDatabase × EvmSyncLoop :=
  match loop.pendingPages.getLast? with
  | none => (db, loop)
  | some lastPendingPage =>
      let (transfers, batchResult) := insertEvmAssetTransfers db.transfers (pendingRows loop)
      ({ transfers
         syncStates := db.syncStates.upsert {
          chain := loop.target.chain
          asset_identifier := loop.target.assetIdentifier
          last_synced_block := lastPendingPage.lastBlock
          updated_at := updatedAt } },
        { loop with
          attemptedCount := loop.attemptedCount + batchResult.attemptedCount
          insertedCount := loop.insertedCount + batchResult.insertedCount
          ignoredCount := loop.ignoredCount + batchResult.ignoredCount
          pendingPages := [] })

/-! ## The chain -/

/-- The finalized transfers of one asset in block order. -/
structure EvmChain where
  transfers : List RawEvmAssetTransfer
  /-- The last finalized block. -/
  finalized : Nat
  blocks : ∀ transfer ∈ transfers,
    IsBlock transfer.blockNum ∧ blockNumber transfer.blockNum ≤ finalized
  ascending : transfers.Pairwise fun earlier later =>
    blockNumber earlier.blockNum ≤ blockNumber later.blockNum
  distinct : (transfers.map (·.uniqueId)).Nodup

/-- More blocks were finalized. -/
def EvmChain.Extends (later earlier : EvmChain) : Prop :=
  earlier.finalized ≤ later.finalized ∧ ∃ added, later.transfers = earlier.transfers ++ added ∧
    ∀ transfer ∈ added, earlier.finalized < blockNumber transfer.blockNum

/-- The transfers from one block to another, both included. -/
def EvmChain.window (chain : EvmChain) (fromBlock toBlock : String) : List RawEvmAssetTransfer :=
  chain.transfers.filter fun transfer =>
    blockNumber fromBlock ≤ blockNumber transfer.blockNum &&
      blockNumber transfer.blockNum ≤ blockNumber toBlock

/-! ## Interleaved runs -/

structure EvmSyncState where
  db : EvmSyncDatabase
  chains : EvmTransferTarget → EvmChain
  runs : List EvmSyncRun

inductive EvmSyncAction where
  | grow (target : EvmTransferTarget) (chain : EvmChain)
  | start (target : EvmTransferTarget)
  | finalizedBlock (run : Nat) (toBlock : String) (upcoming : List (List RawEvmAssetTransfer))
  | page (run : Nat)
  | flush (run : Nat) (updatedAt : Int)
  | fail (run : Nat)

/-- What an action does; `none` where the run waits for something else. -/
def EvmSyncState.perform (state : EvmSyncState) : EvmSyncAction → Option EvmSyncState
  | .grow target chain => some { state with chains := Function.update state.chains target chain }
  | .start target => some { state with runs := state.runs ++ [startRun state.db target] }
  | .finalizedBlock run toBlock upcoming =>
      match state.runs[run]? with
      | some (.started target fromBlock) => some { state with
          runs := state.runs.set run (receiveFinalizedBlock target fromBlock toBlock upcoming) }
      | _ => none
  | .page run =>
      match state.runs[run]? with
      | some (.paging loop upcoming) =>
          some { state with runs := state.runs.set run (receivePage loop upcoming) }
      | _ => none
  | .flush run updatedAt =>
      match state.runs[run]? with
      | some (.flushing loop upcoming) =>
          let (db, flushed) := flushPendingPages state.db loop updatedAt
          some { state with db, runs := state.runs.set run (.paging flushed upcoming) }
      | _ => none
  | .fail run =>
      match state.runs[run]? with
      | some (.started ..) | some (.paging ..) | some (.flushing ..) =>
          some { state with runs := state.runs.set run .failed }
      | _ => none

/-- What the chain and the provider promise: the chain only grows, a finalized
block is final, and the pages of a window hold its transfers in order. -/
def EvmSyncAction.Admissible (state : EvmSyncState) : EvmSyncAction → Prop
  | .grow target chain => chain.Extends (state.chains target)
  | .finalizedBlock run toBlock upcoming => ∀ target fromBlock,
      state.runs[run]? = some (.started target fromBlock) →
        IsBlock toBlock ∧ blockNumber toBlock ≤ (state.chains target).finalized ∧
        upcoming.flatten = (state.chains target).window fromBlock toBlock
  | _ => True

/-- Any number of runs over a database that is empty at first. -/
def evmSync : System EvmSyncState EvmSyncAction :=
  .ofPerform (fun state => state.db = ⟨.empty, .empty⟩ ∧ state.runs = [])
    (fun state action => action.Admissible state) EvmSyncState.perform

end Reputo.OnchainData
