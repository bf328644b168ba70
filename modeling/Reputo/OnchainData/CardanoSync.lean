import Reputo.OnchainData.Cardano

/-!
# The incremental Cardano sync

One run of `syncCardanoAssetTransferWithAdapter`: it reads the sync state, asks
the provider for pages in ascending order from the stored page on, skips what is
stored already, and commits each page's transactions with their inputs and
outputs and the new sync state in one database transaction.  What the provider
and the database answer is given to the run from outside, page by page; a run
that gets no further answer has been interrupted.
-/

namespace Reputo.OnchainData

open Reputo.Library

def CARDANO_CHAIN : String := "cardano"

structure CardanoTransferTarget where
  chain : String
  assetIdentifier : String
  deriving DecidableEq, Repr

structure CardanoAssetTransactionSyncStateRow where
  chain : String
  asset_identifier : String
  last_tx_hash : TxHash
  last_tx_index : Nat
  last_block_height : Nat
  last_block_time : Nat
  last_synced_page : Nat
  last_asset_transaction_raw_json : RawCardanoAssetTransaction
  updated_at : Int
  deriving DecidableEq

/-- The tables that the Cardano sync reads and writes. -/
structure CardanoSyncDatabase where
  tables : CardanoTables
  syncStates :
    Table CardanoAssetTransactionSyncStateRow fun row => (row.chain, row.asset_identifier)

/-! ## Rows -/

def toCardanoAssetTransactionRow (target : CardanoTransferTarget)
    (assetTransaction : RawCardanoAssetTransaction) : CardanoAssetTransactionRow where
  chain := target.chain
  asset_identifier := target.assetIdentifier
  tx_hash := assetTransaction.tx_hash
  tx_index := assetTransaction.tx_index
  block_height := assetTransaction.block_height
  block_time := assetTransaction.block_time
  raw_json := assetTransaction

/-- The rows of one transaction in the UTXO tables. -/
structure CardanoTransactionUtxoWriteSet where
  transaction : CardanoTransactionUtxoRow
  inputs : List CardanoTransactionUtxoInputRow
  inputAmounts : List CardanoTransactionUtxoInputAmountRow
  outputs : List CardanoTransactionUtxoOutputRow
  outputAmounts : List CardanoTransactionUtxoOutputAmountRow

/-- The write set of an answer for the transaction `txHash`. -/
def utxoWriteSet (chain : String) (txHash : TxHash) (transactionUtxo : RawCardanoTransactionUtxo) :
    CardanoTransactionUtxoWriteSet where
  transaction := ⟨chain, txHash, transactionUtxo⟩
  inputs := transactionUtxo.inputs.zipIdx.map fun (transactionInput, inputIndex) =>
    { chain
      tx_hash := txHash
      input_index := inputIndex
      address := transactionInput.address
      source_tx_hash := transactionInput.tx_hash
      source_output_index := transactionInput.output_index
      data_hash := transactionInput.data_hash
      inline_datum := transactionInput.inline_datum
      reference_script_hash := transactionInput.reference_script_hash
      collateral := transactionInput.collateral
      reference := transactionInput.reference }
  inputAmounts := transactionUtxo.inputs.zipIdx.flatMap fun (transactionInput, inputIndex) =>
    transactionInput.amount.zipIdx.map fun (amount, amountIndex) =>
      ⟨chain, txHash, inputIndex, amountIndex, amount.unit, amount.quantity⟩
  outputs := transactionUtxo.outputs.map fun transactionOutput =>
    { chain
      tx_hash := txHash
      output_index := transactionOutput.output_index
      address := transactionOutput.address
      data_hash := transactionOutput.data_hash
      inline_datum := transactionOutput.inline_datum
      collateral := transactionOutput.collateral
      reference_script_hash := transactionOutput.reference_script_hash
      consumed_by_tx_hash := transactionOutput.consumed_by_tx }
  outputAmounts := transactionUtxo.outputs.flatMap fun transactionOutput =>
    transactionOutput.amount.zipIdx.map fun (amount, amountIndex) =>
      ⟨chain, txHash, transactionOutput.output_index, amountIndex, amount.unit, amount.quantity⟩

/-! ## Failures and results -/

/-- Why a run ended without a result. -/
inductive CardanoSyncFailure where
  | providerFailed
  | boundaryNotFound (message : String)
  | hashMismatch (message : String)
  | transactionFailed
  | interrupted
  deriving DecidableEq, Repr

def toCardanoTransactionUtxoWriteSet (chain : String) (txHash : TxHash)
    (transactionUtxo : RawCardanoTransactionUtxo) :
    Except CardanoSyncFailure CardanoTransactionUtxoWriteSet :=
  if txHash ≠ transactionUtxo.hash then
    .error (.hashMismatch ("Cardano transaction UTXO hash mismatch: expected \"" ++ txHash.text ++
      "\", received \"" ++ transactionUtxo.hash.text ++ "\""))
  else .ok (utxoWriteSet chain txHash transactionUtxo)

/-- Counts of one insertion. -/
structure InsertResult where
  attemptedCount : Nat := 0
  insertedCount : Nat := 0
  ignoredCount : Nat := 0
  deriving DecidableEq, Repr

/-- Counts of inserting `rows`, of which `inserted` were new. -/
def insertResult (attempted inserted : Nat) : InsertResult where
  attemptedCount := attempted
  insertedCount := inserted
  ignoredCount := attempted - inserted

def InsertResult.add (left right : InsertResult) : InsertResult where
  attemptedCount := left.attemptedCount + right.attemptedCount
  insertedCount := left.insertedCount + right.insertedCount
  ignoredCount := left.ignoredCount + right.ignoredCount

structure SyncCardanoAssetTransferResult where
  chain : String
  assetIdentifier : String
  order : String
  fromTxHash : Option TxHash
  toTxHash : Option TxHash
  pageCount : Nat
  assetTransactions : InsertResult
  utxos : InsertResult
  deriving DecidableEq

/-! ## The database transaction -/

def insertCardanoAssetTransactions (tables : CardanoTables)
    (rows : List CardanoAssetTransactionRow) : CardanoTables × InsertResult :=
  ({ tables with assetTransactions := tables.assetTransactions.insertAllOrIgnore rows },
    insertResult rows.length (tables.assetTransactions.insertedCount rows))

def insertCardanoTransactionUtxos (tables : CardanoTables)
    (writeSets : List CardanoTransactionUtxoWriteSet) : CardanoTables × InsertResult :=
  ({ tables with
      utxos := tables.utxos.insertAllOrIgnore (writeSets.map (·.transaction))
      inputs := tables.inputs.insertAllOrIgnore (writeSets.flatMap (·.inputs))
      inputAmounts := tables.inputAmounts.insertAllOrIgnore (writeSets.flatMap (·.inputAmounts))
      outputs := tables.outputs.insertAllOrIgnore (writeSets.flatMap (·.outputs))
      outputAmounts := tables.outputAmounts.insertAllOrIgnore (writeSets.flatMap (·.outputAmounts)) },
    insertResult writeSets.length (tables.utxos.insertedCount (writeSets.map (·.transaction))))

/-- The sync state that names `lastAssetTransaction`. -/
def syncStateRow (target : CardanoTransferTarget)
    (lastAssetTransaction : RawCardanoAssetTransaction) (lastSyncedPage : Nat) (updatedAt : Int) :
    CardanoAssetTransactionSyncStateRow where
  chain := target.chain
  asset_identifier := target.assetIdentifier
  last_tx_hash := lastAssetTransaction.tx_hash
  last_tx_index := lastAssetTransaction.tx_index
  last_block_height := lastAssetTransaction.block_height
  last_block_time := lastAssetTransaction.block_time
  last_synced_page := lastSyncedPage
  last_asset_transaction_raw_json := lastAssetTransaction
  updated_at := updatedAt

def findCardanoAssetTransactionSyncState (db : CardanoSyncDatabase)
    (target : CardanoTransferTarget) : Option CardanoAssetTransactionSyncStateRow :=
  db.syncStates.find? (target.chain, target.assetIdentifier)

/-- Commit one page: its transactions, their write sets and the sync state. -/
def commitPage (db : CardanoSyncDatabase) (target : CardanoTransferTarget)
    (pageItems : List RawCardanoAssetTransaction)
    (writeSets : List CardanoTransactionUtxoWriteSet)
    (lastPageTransaction : RawCardanoAssetTransaction) (currentPage : Nat) (updatedAt : Int) :
    CardanoSyncDatabase × InsertResult × InsertResult :=
  let rows := pageItems.map (toCardanoAssetTransactionRow target)
  let (withTransactions, assetTransactionResult) := insertCardanoAssetTransactions db.tables rows
  let (tables, transactionUtxoResult) := insertCardanoTransactionUtxos withTransactions writeSets
  ({ tables
     syncStates := db.syncStates.upsert
       (syncStateRow target lastPageTransaction currentPage updatedAt) },
    assetTransactionResult, transactionUtxoResult)

/-! ## The run -/

/-- What the outside answers while one page is handled. -/
structure PageAttempt where
  /-- What the provider lists when the page is fetched, unless the fetch fails. -/
  listed : Option (List RawCardanoAssetTransaction)
  /-- Inputs and outputs of a transaction, unless the fetch fails. -/
  fetchTransactionUtxo : TxHash → Option RawCardanoTransactionUtxo
  /-- Whether the database transaction commits. -/
  commits : Bool
  now : Int

/-- The variables of the run. -/
structure CardanoSyncLoop where
  db : CardanoSyncDatabase
  /-- The page that the provider's generator fetches next. -/
  page : Nat
  currentPage : Nat
  syncBoundaryFound : Bool
  lastSyncedTransaction : Option RawCardanoAssetTransaction := none
  pageCount : Nat := 0
  assetTransactions : InsertResult := {}
  utxos : InsertResult := {}

/-- Page `page` of what the provider lists, in ascending order. -/
def assetTransactionsPage (pageSize : Nat) (listed : List RawCardanoAssetTransaction)
    (page : Nat) : List RawCardanoAssetTransaction :=
  (listed.drop ((page - 1) * pageSize)).take pageSize

def boundaryMessage (syncState : CardanoAssetTransactionSyncStateRow) (page : Nat)
    (target : CardanoTransferTarget) : String :=
  "Cardano sync boundary transaction " ++ syncState.last_tx_hash.text ++
    " was not found on page " ++ toString page ++ " for asset " ++ target.assetIdentifier

/-- The items of a page that come after the stored boundary. -/
def skipStored (target : CardanoTransferTarget)
    (syncState : Option CardanoAssetTransactionSyncStateRow) (loop : CardanoSyncLoop)
    (items : List RawCardanoAssetTransaction) :
    Except CardanoSyncFailure (List RawCardanoAssetTransaction) :=
  match syncState with
  | none => .ok items
  | some state =>
      if loop.syncBoundaryFound then .ok items
      else
        match items.findIdx? fun item => item.tx_hash = state.last_tx_hash with
        | some syncBoundaryIndex => .ok (items.drop (syncBoundaryIndex + 1))
        | none => .error (.boundaryNotFound (boundaryMessage state loop.currentPage target))

/-- Inputs and outputs of all items, as rows. -/
def fetchWriteSets (target : CardanoTransferTarget) (attempt : PageAttempt)
    (pageItems : List RawCardanoAssetTransaction) :
    Except CardanoSyncFailure (List CardanoTransactionUtxoWriteSet) := do
  let transactionUtxos ← pageItems.mapM fun item =>
    match attempt.fetchTransactionUtxo item.tx_hash with
    | some transactionUtxo => .ok (item.tx_hash, transactionUtxo)
    | none => .error .providerFailed
  transactionUtxos.mapM fun (txHash, transactionUtxo) =>
    toCardanoTransactionUtxoWriteSet target.chain txHash transactionUtxo

/-- The body of the loop for the items of one page. -/
def handlePage (target : CardanoTransferTarget)
    (syncState : Option CardanoAssetTransactionSyncStateRow) (attempt : PageAttempt)
    (items : List RawCardanoAssetTransaction) (loop : CardanoSyncLoop) :
    Except CardanoSyncFailure CardanoSyncLoop := do
  let pageItems ← skipStored target syncState loop items
  let counted := { loop with
    pageCount := loop.pageCount + 1
    currentPage := loop.currentPage + 1
    syncBoundaryFound := true }
  match pageItems.getLast? with
  | none => return counted
  | some lastPageTransaction =>
      let writeSets ← fetchWriteSets target attempt pageItems
      if attempt.commits then
        let (db, assetTransactionResult, transactionUtxoResult) := commitPage loop.db target
          pageItems writeSets lastPageTransaction loop.currentPage attempt.now
        return { counted with
          db
          lastSyncedTransaction := some lastPageTransaction
          assetTransactions := loop.assetTransactions.add assetTransactionResult
          utxos := loop.utxos.add transactionUtxoResult }
      else .error .transactionFailed

/-- What the run does after the last page. -/
def finishSync (target : CardanoTransferTarget)
    (syncState : Option CardanoAssetTransactionSyncStateRow) (fromPage : Nat)
    (loop : CardanoSyncLoop) : Except CardanoSyncFailure SyncCardanoAssetTransferResult :=
  match syncState, loop.syncBoundaryFound with
  | some state, false => .error (.boundaryNotFound (boundaryMessage state fromPage target))
  | _, _ =>
      let fromTxHash := syncState.map (·.last_tx_hash)
      .ok {
        chain := target.chain
        assetIdentifier := target.assetIdentifier
        order := "asc"
        fromTxHash
        toTxHash := (loop.lastSyncedTransaction.map (·.tx_hash)).or fromTxHash
        pageCount := loop.pageCount
        assetTransactions := loop.assetTransactions
        utxos := loop.utxos }

/-- The loop over the provider's pages; the database as the run leaves it, with
the run's outcome. -/
def syncPages (pageSize : Nat) (target : CardanoTransferTarget)
    (syncState : Option CardanoAssetTransactionSyncStateRow) (fromPage : Nat) :
    List PageAttempt → CardanoSyncLoop →
      CardanoSyncDatabase × Except CardanoSyncFailure SyncCardanoAssetTransferResult
  | [], loop => (loop.db, .error .interrupted)
  | attempt :: rest, loop =>
      match attempt.listed with
      | none => (loop.db, .error .providerFailed)
      | some listed =>
          let items := assetTransactionsPage pageSize listed loop.page
          if items.length = 0 then (loop.db, finishSync target syncState fromPage loop)
          else
            match handlePage target syncState attempt items loop with
            | .error failure => (loop.db, .error failure)
            | .ok handled =>
                if items.length < pageSize then
                  (handled.db, finishSync target syncState fromPage handled)
                else
                  syncPages pageSize target syncState fromPage rest
                    { handled with page := loop.page + 1 }

/-- One run, from reading the sync state to its end. -/
def syncCardanoAssetTransferWithAdapter (pageSize : Nat) (assetIdentifier : String)
    (db : CardanoSyncDatabase) (attempts : List PageAttempt) :
    CardanoSyncDatabase × Except CardanoSyncFailure SyncCardanoAssetTransferResult :=
  let target : CardanoTransferTarget := ⟨CARDANO_CHAIN, assetIdentifier⟩
  let syncState := findCardanoAssetTransactionSyncState db target
  let fromPage := (syncState.map (·.last_synced_page)).getD 1
  syncPages pageSize target syncState fromPage attempts
    { db
      page := fromPage
      currentPage := fromPage
      syncBoundaryFound := syncState.isNone }

def BLOCKFROST_PAGE_SIZE : Nat := 100

end Reputo.OnchainData
