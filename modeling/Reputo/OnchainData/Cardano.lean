import Mathlib.Data.List.Dedup
import Reputo.Library.OrderedMap
import Reputo.Library.Query
import Reputo.Library.Result
import Reputo.Library.Table

/-!
# Cardano tables and the transfer read repository

The rows that the Cardano sync stores and the query that reads them back: one
page of transactions that touch the given addresses, joined with the amounts of
their inputs and outputs.  Quantities are `numeric` columns; their decimal texts
are kept as the numbers they denote.  Chains and assets are plain texts, and the
text order of the database is a parameter.
-/

namespace Reputo.OnchainData

open Reputo.Library

/-! ## Provider data -/

/-- A transaction hash: hexadecimal text, so it holds no colon. -/
structure TxHash where
  text : String
  plain : ':' ∉ text.toList
  deriving DecidableEq

/-- One transaction of an asset as the provider lists it. -/
structure RawCardanoAssetTransaction where
  tx_hash : TxHash
  tx_index : Nat
  block_height : Nat
  block_time : Nat
  deriving DecidableEq

/-- An amount of one unit. -/
structure CardanoAmount where
  unit : String
  quantity : Nat
  deriving DecidableEq, Repr

structure RawCardanoUtxoInput where
  address : String
  amount : List CardanoAmount
  tx_hash : String
  output_index : Nat
  data_hash : Option String := none
  inline_datum : Option String := none
  reference_script_hash : Option String := none
  collateral : Bool := false
  reference : Option Bool := none
  deriving DecidableEq

structure RawCardanoUtxoOutput where
  address : String
  amount : List CardanoAmount
  output_index : Nat
  data_hash : Option String := none
  inline_datum : Option String := none
  collateral : Bool := false
  reference_script_hash : Option String := none
  consumed_by_tx : Option String := none
  deriving DecidableEq

/-- Inputs and outputs of one transaction.  The index of an output identifies it
inside its transaction. -/
structure RawCardanoTransactionUtxo where
  hash : TxHash
  inputs : List RawCardanoUtxoInput
  outputs : List RawCardanoUtxoOutput
  outputs_distinct : (outputs.map (·.output_index)).Nodup
  deriving DecidableEq

/-! ## Tables -/

structure CardanoAssetTransactionRow where
  chain : String
  asset_identifier : String
  tx_hash : TxHash
  tx_index : Nat
  block_height : Nat
  block_time : Nat
  raw_json : RawCardanoAssetTransaction
  deriving DecidableEq

structure CardanoTransactionUtxoRow where
  chain : String
  tx_hash : TxHash
  raw_json : RawCardanoTransactionUtxo
  deriving DecidableEq

structure CardanoTransactionUtxoInputRow where
  chain : String
  tx_hash : TxHash
  input_index : Nat
  address : String
  source_tx_hash : String
  source_output_index : Nat
  data_hash : Option String
  inline_datum : Option String
  reference_script_hash : Option String
  collateral : Bool
  reference : Option Bool
  deriving DecidableEq

structure CardanoTransactionUtxoInputAmountRow where
  chain : String
  tx_hash : TxHash
  input_index : Nat
  amount_index : Nat
  unit : String
  quantity : Nat
  deriving DecidableEq

structure CardanoTransactionUtxoOutputRow where
  chain : String
  tx_hash : TxHash
  output_index : Nat
  address : String
  data_hash : Option String
  inline_datum : Option String
  collateral : Bool
  reference_script_hash : Option String
  consumed_by_tx_hash : Option String
  deriving DecidableEq

structure CardanoTransactionUtxoOutputAmountRow where
  chain : String
  tx_hash : TxHash
  output_index : Nat
  amount_index : Nat
  unit : String
  quantity : Nat
  deriving DecidableEq

/-- The Cardano tables with their primary keys. -/
structure CardanoTables where
  assetTransactions :
    Table CardanoAssetTransactionRow fun row => (row.chain, row.asset_identifier, row.tx_hash)
  utxos : Table CardanoTransactionUtxoRow fun row => (row.chain, row.tx_hash)
  inputs : Table CardanoTransactionUtxoInputRow fun row => (row.chain, row.tx_hash, row.input_index)
  inputAmounts : Table CardanoTransactionUtxoInputAmountRow fun row =>
    (row.chain, row.tx_hash, row.input_index, row.amount_index)
  outputs :
    Table CardanoTransactionUtxoOutputRow fun row => (row.chain, row.tx_hash, row.output_index)
  outputAmounts : Table CardanoTransactionUtxoOutputAmountRow fun row =>
    (row.chain, row.tx_hash, row.output_index, row.amount_index)

/-! ## The transactions query -/

structure FindTransactionsInput where
  assetIdentifier : String
  addresses : List String
  page : Nat
  limit : Nat
  fromTimestampUnix : Option Int
  toTimestampUnix : Option Int

/-- What the transactions query selects. -/
structure CardanoTxRow where
  tx_hash : TxHash
  block_height : Nat
  block_time : Nat
  deriving DecidableEq

/-- A transaction has an input or an output at one of the addresses. -/
def touchesAddresses (tables : CardanoTables) (chain : String) (txHash : TxHash)
    (addresses : List String) : Bool :=
  (tables.inputs.rows.any fun row =>
    row.chain = chain && row.tx_hash = txHash && row.address ∈ addresses) ||
  (tables.outputs.rows.any fun row =>
    row.chain = chain && row.tx_hash = txHash && row.address ∈ addresses)

/-- The `WHERE` clause of the transactions query. -/
def selectsTransaction (tables : CardanoTables) (input : FindTransactionsInput)
    (row : CardanoAssetTransactionRow) : Bool :=
  row.chain = "cardano" && row.asset_identifier = input.assetIdentifier &&
    input.fromTimestampUnix.all (fun bound => bound ≤ (row.block_time : Int)) &&
    input.toTimestampUnix.all (fun bound => (row.block_time : Int) ≤ bound) &&
    touchesAddresses tables row.chain row.tx_hash input.addresses

/-- `ORDER BY cat.block_height ASC, cat.tx_hash ASC`. -/
def txOrder (collation : Collation) : RowOrder CardanoTxRow :=
  (RowOrder.byKey (·.block_height)).thenBy (collation.comap (·.tx_hash.text))

/-- The transactions query without its limit and offset. -/
def orderedTransactions (collation : Collation) (tables : CardanoTables)
    (input : FindTransactionsInput) : List CardanoTxRow :=
  let selected := tables.assetTransactions.rows.filter (selectsTransaction tables input)
  let distinct := (selected.map fun row =>
    (⟨row.tx_hash, row.block_height, row.block_time⟩ : CardanoTxRow)).dedup
  (txOrder collation).orderBy distinct

/-! ## Joined amounts -/

/-- An amount row joined with the input or output it belongs to. -/
structure JoinedAmount where
  tx_hash : TxHash
  index : Nat
  amount_index : Nat
  address : String
  unit : String
  quantity : Nat
  deriving DecidableEq

/-- `ORDER BY tx_hash, index, amount_index`. -/
def amountOrder (collation : Collation) : RowOrder JoinedAmount :=
  (collation.comap (·.tx_hash.text)).thenBy
    ((RowOrder.byKey (·.index)).thenBy (RowOrder.byKey (·.amount_index)))

/-- Inputs joined with their amounts. -/
def joinedInputs (tables : CardanoTables) (chain : String) : List JoinedAmount :=
  tables.inputs.rows.flatMap fun row =>
    (tables.inputAmounts.rows.filter fun amount =>
      amount.chain = row.chain && amount.tx_hash = row.tx_hash &&
        amount.input_index = row.input_index && row.chain = chain).map fun amount =>
      ⟨row.tx_hash, row.input_index, amount.amount_index, row.address, amount.unit,
        amount.quantity⟩

/-- Outputs joined with their amounts. -/
def joinedOutputs (tables : CardanoTables) (chain : String) : List JoinedAmount :=
  tables.outputs.rows.flatMap fun row =>
    (tables.outputAmounts.rows.filter fun amount =>
      amount.chain = row.chain && amount.tx_hash = row.tx_hash &&
        amount.output_index = row.output_index && row.chain = chain).map fun amount =>
      ⟨row.tx_hash, row.output_index, amount.amount_index, row.address, amount.unit,
        amount.quantity⟩

/-- The joined amounts of the given transactions, in order. -/
def amountsOf (collation : Collation) (joined : List JoinedAmount) (txHashes : List TxHash) :
    List JoinedAmount :=
  (amountOrder collation).orderBy (joined.filter fun row => row.tx_hash ∈ txHashes)

/-- The amounts of one input or output. -/
structure AmountGroup where
  address : String
  index : Nat
  amounts : List CardanoAmount
  deriving DecidableEq

/-- `${r.tx_hash}:${r.index}`. -/
def groupKey (row : JoinedAmount) : String :=
  row.tx_hash.text ++ ":" ++ toString row.index

/-- `key.split(':')[0]`. -/
def txHashOfKey (key : String) : String :=
  String.ofList (key.toList.takeWhile (· ≠ ':'))

/-- Add an amount to its group; the first one starts the group. -/
def addToGroup (row : JoinedAmount) : Option AmountGroup → AmountGroup
  | none => ⟨row.address, row.index, [⟨row.unit, row.quantity⟩]⟩
  | some group => { group with amounts := group.amounts ++ [⟨row.unit, row.quantity⟩] }

/-- Joined amounts collected under their input or output. -/
def groupAmounts (rows : List JoinedAmount) : OrderedMap String AmountGroup :=
  OrderedMap.groupInto groupKey addToGroup .empty rows

/-! ## Assembled transactions -/

structure CardanoUtxoInput where
  address : String
  amounts : List CardanoAmount
  deriving DecidableEq

structure CardanoUtxoOutput where
  address : String
  output_index : Nat
  amounts : List CardanoAmount
  deriving DecidableEq

structure CardanoRawTransactionUtxoData where
  tx_hash : TxHash
  block_height : Nat
  block_time : Nat
  inputs : List CardanoUtxoInput
  outputs : List CardanoUtxoOutput
  deriving DecidableEq

def AmountGroup.toInput (group : AmountGroup) : CardanoUtxoInput :=
  ⟨group.address, group.amounts⟩

def AmountGroup.toOutput (group : AmountGroup) : CardanoUtxoOutput :=
  ⟨group.address, group.index, group.amounts⟩

abbrev TxMap := OrderedMap String CardanoRawTransactionUtxoData

/-- Every transaction of the page, without inputs and outputs yet. -/
def emptyTransactions (txRows : List CardanoTxRow) : TxMap :=
  OrderedMap.ofPairs (txRows.map fun row =>
    (row.tx_hash.text, ⟨row.tx_hash, row.block_height, row.block_time, [], []⟩))

/-- Hand every group to its transaction through `push`. -/
def pushGroups (push : CardanoRawTransactionUtxoData → AmountGroup → CardanoRawTransactionUtxoData)
    (groups : OrderedMap String AmountGroup) (txMap : TxMap) : TxMap :=
  groups.entries.foldl (fun txMap entry =>
    match txMap.get? (txHashOfKey entry.1) with
    | some tx => txMap.set (txHashOfKey entry.1) (push tx entry.2)
    | none => txMap) txMap

def pushInput (tx : CardanoRawTransactionUtxoData) (group : AmountGroup) :
    CardanoRawTransactionUtxoData :=
  { tx with inputs := tx.inputs ++ [group.toInput] }

def pushOutput (tx : CardanoRawTransactionUtxoData) (group : AmountGroup) :
    CardanoRawTransactionUtxoData :=
  { tx with outputs := tx.outputs ++ [group.toOutput] }

/-- The selected transactions with their joined inputs and outputs. -/
def assembleTransactions (collation : Collation) (tables : CardanoTables)
    (txRows : List CardanoTxRow) : Except String (List CardanoRawTransactionUtxoData) :=
  let txHashes := txRows.map (·.tx_hash)
  let inputGroups := groupAmounts (amountsOf collation (joinedInputs tables "cardano") txHashes)
  let outputGroups := groupAmounts
    (amountsOf collation (joinedOutputs tables "cardano") txHashes)
  let txMap := pushGroups pushOutput outputGroups
    (pushGroups pushInput inputGroups (emptyTransactions txRows))
  txRows.mapM fun row =>
    match txMap.get? row.tx_hash.text with
    | some transaction => .ok transaction
    | none => .error ("Missing transfer transaction for hash " ++ row.tx_hash.text)

/-- One page of the transactions that touch the addresses. -/
def findTransactionsByAddresses (collation : Collation) (tables : CardanoTables)
    (input : FindTransactionsInput) : Except String (List CardanoRawTransactionUtxoData) :=
  if input.addresses.length = 0 then .ok []
  else
    let txRows := limitOffset input.limit ((input.page - 1) * input.limit)
      (orderedTransactions collation tables input)
    if txRows.length = 0 then .ok [] else assembleTransactions collation tables txRows

/-! ## A transaction does not depend on its page -/

theorem TxHash.text_injective {left right : TxHash} (same : left.text = right.text) :
    left = right := by
  cases left
  cases right
  cases same
  rfl

theorem txHashOfKey_groupKey (row : JoinedAmount) :
    txHashOfKey (groupKey row) = row.tx_hash.text := by
  have plain : ∀ character ∈ row.tx_hash.text.toList, decide (character ≠ ':') = true := by
    intro character member
    simp only [decide_eq_true_eq]
    intro colon
    exact row.tx_hash.plain (colon ▸ member)
  have colon : (":" : String).toList = [':'] := rfl
  simp only [txHashOfKey, groupKey, String.toList_append, colon, List.append_assoc]
  rw [List.takeWhile_append_of_pos plain]
  simp

/-- The groups of one transaction are those of its own joined amounts. -/
theorem groupAmounts_of_txHash (collation : Collation) (joined : List JoinedAmount)
    {txHashes : List TxHash} {txHash : TxHash} (member : txHash ∈ txHashes) :
    (groupAmounts (amountsOf collation joined txHashes)).entries.filter
        (fun entry => txHashOfKey entry.1 = txHash.text) =
      (groupAmounts (amountsOf collation joined [txHash])).entries := by
  have own : (amountsOf collation joined txHashes).filter
      (fun row => txHashOfKey (groupKey row) = txHash.text) =
      amountsOf collation joined [txHash] := by
    rw [amountsOf, RowOrder.filter_orderBy, List.filter_filter, amountsOf]
    congr 1
    apply List.filter_congr
    intro row _
    by_cases same : row.tx_hash = txHash
    · simp [txHashOfKey_groupKey, same, member]
    · have different : row.tx_hash.text ≠ txHash.text := fun equal =>
        same (TxHash.text_injective equal)
      simp [txHashOfKey_groupKey, same, different]
  have restricted := OrderedMap.restrict_groupInto
    (fun key => decide (txHashOfKey key = txHash.text)) groupKey addToGroup .empty
    (amountsOf collation joined txHashes)
  rw [own] at restricted
  exact congrArg OrderedMap.entries restricted

theorem get?_pushGroups
    (push : CardanoRawTransactionUtxoData → AmountGroup → CardanoRawTransactionUtxoData)
    (groups : OrderedMap String AmountGroup) (txMap : TxMap) (text : String) :
    (pushGroups push groups txMap).get? text =
      (txMap.get? text).map fun tx =>
        ((groups.entries.filter fun entry => txHashOfKey entry.1 = text).map Prod.snd).foldl
          push tx := by
  rw [pushGroups]
  generalize groups.entries = entries
  induction entries generalizing txMap with
  | nil => simp
  | cons entry rest ih =>
      rw [List.foldl_cons, ih, List.filter_cons]
      cases held : txMap.get? (txHashOfKey entry.1) with
      | none =>
          by_cases same : txHashOfKey entry.1 = text
          · subst same
            simp [held]
          · simp [same]
      | some tx =>
          by_cases same : txHashOfKey entry.1 = text
          · subst same
            simp [held]
          · simp [same, OrderedMap.get?_set_of_ne _ _ (Ne.symm same)]

theorem foldl_pushInput (groups : List AmountGroup) (tx : CardanoRawTransactionUtxoData) :
    groups.foldl pushInput tx =
      { tx with inputs := tx.inputs ++ groups.map AmountGroup.toInput } := by
  induction groups generalizing tx with
  | nil => simp
  | cons group rest ih => simp [ih, pushInput]

theorem foldl_pushOutput (groups : List AmountGroup) (tx : CardanoRawTransactionUtxoData) :
    groups.foldl pushOutput tx =
      { tx with outputs := tx.outputs ++ groups.map AmountGroup.toOutput } := by
  induction groups generalizing tx with
  | nil => simp
  | cons group rest ih => simp [ih, pushOutput]

/-- A selected transaction with its own inputs and outputs. -/
def assembledTransaction (collation : Collation) (tables : CardanoTables) (row : CardanoTxRow) :
    CardanoRawTransactionUtxoData where
  tx_hash := row.tx_hash
  block_height := row.block_height
  block_time := row.block_time
  inputs := (groupAmounts (amountsOf collation (joinedInputs tables "cardano")
    [row.tx_hash])).entries.map fun entry => entry.2.toInput
  outputs := (groupAmounts (amountsOf collation (joinedOutputs tables "cardano")
    [row.tx_hash])).entries.map fun entry => entry.2.toOutput

theorem get?_emptyTransactions {txRows : List CardanoTxRow}
    (distinct : (txRows.map (·.tx_hash)).Nodup) {row : CardanoTxRow} (member : row ∈ txRows) :
    (emptyTransactions txRows).get? row.tx_hash.text =
      some ⟨row.tx_hash, row.block_height, row.block_time, [], []⟩ := by
  apply OrderedMap.get?_ofPairs_of_nodup
  · rw [List.map_map]
    have texts := distinct.map fun (_ _ : TxHash) same => TxHash.text_injective same
    rwa [List.map_map] at texts
  · exact List.mem_map_of_mem member

/-- Transactions come back whole, whatever page they share. -/
theorem assembleTransactions_eq (collation : Collation) (tables : CardanoTables)
    {txRows : List CardanoTxRow} (distinct : (txRows.map (·.tx_hash)).Nodup) :
    assembleTransactions collation tables txRows =
      .ok (txRows.map (assembledTransaction collation tables)) := by
  have found : ∀ row ∈ txRows,
      (pushGroups pushOutput
        (groupAmounts (amountsOf collation (joinedOutputs tables "cardano")
          (txRows.map (·.tx_hash))))
        (pushGroups pushInput
          (groupAmounts (amountsOf collation (joinedInputs tables "cardano")
            (txRows.map (·.tx_hash))))
          (emptyTransactions txRows))).get? row.tx_hash.text =
        some (assembledTransaction collation tables row) := by
    intro row member
    have listed : row.tx_hash ∈ txRows.map (·.tx_hash) := List.mem_map_of_mem member
    rw [get?_pushGroups, get?_pushGroups, get?_emptyTransactions distinct member,
      groupAmounts_of_txHash collation _ listed, groupAmounts_of_txHash collation _ listed]
    simp [foldl_pushInput, foldl_pushOutput, assembledTransaction, Function.comp_def]
  apply Result.mapM_eq_ok_map
  intro row member
  simp only [found row member]

/-- The selected rows are distinct already, since their hashes are part of the
primary key. -/
theorem selected_txHashes_nodup (tables : CardanoTables) (input : FindTransactionsInput) :
    ((tables.assetTransactions.rows.filter (selectsTransaction tables input)).map
      (·.tx_hash)).Nodup := by
  have keys := tables.assetTransactions.keys_nodup.sublist
    ((List.filter_sublist (p := selectsTransaction tables input)).map _)
  rw [List.Nodup, List.pairwise_map] at keys ⊢
  refine keys.imp_of_mem ?_
  intro left right leftMember rightMember different same
  have leftSelected := (List.mem_filter.mp leftMember).2
  have rightSelected := (List.mem_filter.mp rightMember).2
  simp only [selectsTransaction, Bool.and_eq_true, decide_eq_true_eq] at leftSelected rightSelected
  apply different
  rw [leftSelected.1.1.1.1, leftSelected.1.1.1.2, rightSelected.1.1.1.1, rightSelected.1.1.1.2,
    same]

theorem orderedTransactions_nodup (collation : Collation) (tables : CardanoTables)
    (input : FindTransactionsInput) :
    ((orderedTransactions collation tables input).map (·.tx_hash)).Nodup := by
  have hashes := selected_txHashes_nodup tables input
  apply (((txOrder collation).perm_orderBy _).map _).nodup_iff.mpr
  have rows : (((tables.assetTransactions.rows.filter (selectsTransaction tables input)).map
      fun row => (⟨row.tx_hash, row.block_height, row.block_time⟩ : CardanoTxRow)).map
        (·.tx_hash)).Nodup := by
    rw [List.map_map]
    exact hashes
  rw [List.Nodup.dedup (List.Nodup.of_map _ rows)]
  exact rows

/-- A page of the read repository is a slice of the complete ordered result,
each transaction assembled by itself. -/
theorem findTransactionsByAddresses_eq (collation : Collation) (tables : CardanoTables)
    (input : FindTransactionsInput) (addressed : input.addresses ≠ []) :
    findTransactionsByAddresses collation tables input =
      .ok ((limitOffset input.limit ((input.page - 1) * input.limit)
        (orderedTransactions collation tables input)).map
          (assembledTransaction collation tables)) := by
  have nonempty : ¬ input.addresses.length = 0 := by simpa using addressed
  simp only [findTransactionsByAddresses, nonempty, ↓reduceIte]
  split
  · rename_i none
    rw [List.length_eq_zero_iff.mp none]
    rfl
  · apply assembleTransactions_eq
    have whole := orderedTransactions_nodup collation tables input
    exact whole.sublist (((List.take_sublist _ _).trans (List.drop_sublist _ _)).map _)

end Reputo.OnchainData
