import Reputo.OnchainData.Cardano
import Reputo.OnchainData.Evm

/-!
# Query order and chain order

Both read repositories order by the block and break ties inside one block by a
text: the transaction hash on Cardano, the unique id on EVM chains.  The chain
orders the transfers of one block by their position.  Each result is in chain
order exactly when the texts happen to agree with the positions.
-/

namespace Reputo.OnchainData

open Reputo.Library

/-! ## Cardano -/

/-- Chain order of stored transactions: by block, then by index in the block. -/
def CardanoAssetTransactionRow.Precedes (left right : CardanoAssetTransactionRow) : Prop :=
  left.block_height < right.block_height ∨
    (left.block_height = right.block_height ∧ left.tx_index < right.tx_index)

instance (left right : CardanoAssetTransactionRow) : Decidable (left.Precedes right) :=
  inferInstanceAs (Decidable (_ ∨ _))

def selectedTransactions (tables : CardanoTables) (input : FindTransactionsInput) :
    List CardanoAssetTransactionRow :=
  tables.assetTransactions.rows.filter (selectsTransaction tables input)

/-- The stored rows of two hashes are in chain order in the other direction. -/
def HashPrecedes (tables : CardanoTables) (input : FindTransactionsInput)
    (left right : TxHash) : Prop :=
  ∃ first ∈ selectedTransactions tables input, ∃ second ∈ selectedTransactions tables input,
    first.tx_hash = left ∧ second.tx_hash = right ∧ first.Precedes second

instance (tables : CardanoTables) (input : FindTransactionsInput) (left right : TxHash) :
    Decidable (HashPrecedes tables input left right) :=
  inferInstanceAs (Decidable (∃ first ∈ _, _))

/-- No transaction of the list comes before one that happened earlier. -/
def CardanoInChainOrder (tables : CardanoTables) (input : FindTransactionsInput)
    (txs : List CardanoRawTransactionUtxoData) : Prop :=
  txs.Pairwise fun earlier later => ¬ HashPrecedes tables input later.tx_hash earlier.tx_hash

instance (tables : CardanoTables) (input : FindTransactionsInput)
    (txs : List CardanoRawTransactionUtxoData) :
    Decidable (CardanoInChainOrder tables input txs) :=
  inferInstanceAs (Decidable (List.Pairwise _ _))

/-- Inside one block, the texts of the hashes are ordered as the indices are. -/
def HashesAgree (collation : Collation) (tables : CardanoTables)
    (input : FindTransactionsInput) : Prop :=
  ∀ first ∈ selectedTransactions tables input, ∀ second ∈ selectedTransactions tables input,
    first.block_height = second.block_height → first.tx_index < second.tx_index →
      collation.le first.tx_hash.text second.tx_hash.text = true

theorem eq_of_txHash_eq {tables : CardanoTables} {input : FindTransactionsInput}
    {left right : CardanoAssetTransactionRow}
    (leftMember : left ∈ selectedTransactions tables input)
    (rightMember : right ∈ selectedTransactions tables input)
    (same : left.tx_hash = right.tx_hash) : left = right :=
  List.inj_on_of_nodup_map (selected_txHashes_nodup tables input) leftMember rightMember same

theorem not_hashPrecedes_self (tables : CardanoTables) (input : FindTransactionsInput)
    (txHash : TxHash) : ¬ HashPrecedes tables input txHash txHash := by
  intro ⟨first, firstMember, second, secondMember, firstHash, secondHash, before⟩
  have same := eq_of_txHash_eq firstMember secondMember (firstHash.trans secondHash.symm)
  subst same
  rcases before with lower | ⟨_, smaller⟩
  · exact lt_irrefl _ lower
  · exact lt_irrefl _ smaller

theorem mem_orderedTransactions {collation : Collation} {tables : CardanoTables}
    {input : FindTransactionsInput} {row : CardanoTxRow} :
    row ∈ orderedTransactions collation tables input ↔
      ∃ stored ∈ selectedTransactions tables input,
        (⟨stored.tx_hash, stored.block_height, stored.block_time⟩ : CardanoTxRow) = row := by
  simp only [orderedTransactions, RowOrder.mem_orderBy, List.mem_dedup, List.mem_map,
    selectedTransactions]

theorem txOrder_antisymm {collation : Collation} {left right : CardanoTxRow}
    (forward : (txOrder collation).le left right = true)
    (backward : (txOrder collation).le right left = true) : left.tx_hash = right.tx_hash := by
  have first := (RowOrder.thenBy_le_iff _ _ _ _).mp forward
  have second := (RowOrder.thenBy_le_iff _ _ _ _).mp backward
  exact TxHash.text_injective (collation.antisymm (first.2 second.1) (second.2 first.1))

/-- The ordered result respects the chain exactly when the hashes agree. -/
theorem orderedTransactions_inChainOrder_iff (collation : Collation) (tables : CardanoTables)
    (input : FindTransactionsInput) :
    ((orderedTransactions collation tables input).Pairwise fun earlier later =>
        ¬ HashPrecedes tables input later.tx_hash earlier.tx_hash) ↔
      HashesAgree collation tables input := by
  have distinct := orderedTransactions_nodup collation tables input
  have member : ∀ {row : CardanoTxRow},
      row ∈ (((tables.assetTransactions.rows.filter (selectsTransaction tables input)).map
        fun row => (⟨row.tx_hash, row.block_height, row.block_time⟩ : CardanoTxRow)).dedup) →
      row ∈ orderedTransactions collation tables input :=
    fun listed => (RowOrder.mem_orderBy (txOrder collation)).mpr listed
  rw [orderedTransactions, RowOrder.pairwise_orderBy_iff (txOrder collation)
    (fun left right => HashPrecedes tables input left.tx_hash right.tx_hash)
    (fun row _ => not_hashPrecedes_self tables input row.tx_hash)
    (fun left leftMember right rightMember forward backward =>
      List.inj_on_of_nodup_map distinct (member leftMember) (member rightMember)
        (txOrder_antisymm forward backward))]
  constructor
  · intro agrees first firstMember second secondMember sameBlock earlier
    have listed : ∀ {row}, row ∈ selectedTransactions tables input →
        (⟨row.tx_hash, row.block_height, row.block_time⟩ : CardanoTxRow) ∈
          (((tables.assetTransactions.rows.filter (selectsTransaction tables input)).map
            fun row => (⟨row.tx_hash, row.block_height, row.block_time⟩ : CardanoTxRow)).dedup) :=
      fun selected => List.mem_dedup.mpr (List.mem_map.mpr ⟨_, selected, rfl⟩)
    have ordered := agrees _ (listed firstMember) _ (listed secondMember)
      ⟨first, firstMember, second, secondMember, rfl, rfl, Or.inr ⟨sameBlock, earlier⟩⟩
    rcases (RowOrder.byKey_thenBy_le_iff _ _ _ _).mp ordered with lower | ⟨_, text⟩
    · exact absurd sameBlock (ne_of_lt lower)
    · exact text
  · intro agrees left leftMember right rightMember before
    rcases List.mem_map.mp (List.mem_dedup.mp leftMember) with ⟨leftRow, leftSelected, leftEq⟩
    rcases List.mem_map.mp (List.mem_dedup.mp rightMember) with ⟨rightRow, rightSelected, rightEq⟩
    rcases before with ⟨first, firstMember, second, secondMember, firstHash, secondHash, before⟩
    have firstSame := eq_of_txHash_eq firstMember leftSelected (firstHash.trans (by rw [← leftEq]))
    have secondSame :=
      eq_of_txHash_eq secondMember rightSelected (secondHash.trans (by rw [← rightEq]))
    subst firstSame secondSame
    rw [← leftEq, ← rightEq, txOrder, RowOrder.byKey_thenBy_le_iff]
    rcases before with lower | ⟨sameBlock, earlier⟩
    · exact Or.inl lower
    · exact Or.inr ⟨sameBlock, agrees first firstMember second secondMember sameBlock earlier⟩

/-- Every page of the Cardano repository is in chain order exactly when, inside
one block, the hashes are ordered as the indices are. -/
theorem findTransactions_inChainOrder_iff (collation : Collation) (tables : CardanoTables)
    (input : FindTransactionsInput) :
    (∀ (page limit : Nat) (txs : List CardanoRawTransactionUtxoData),
        findTransactionsByAddresses collation tables { input with page, limit } = .ok txs →
          CardanoInChainOrder tables input txs) ↔
      HashesAgree collation tables input := by
  rw [← orderedTransactions_inChainOrder_iff]
  by_cases addressed : input.addresses = []
  · -- Without addresses nothing is selected and nothing is returned.
    have none : orderedTransactions collation tables input = [] := by
      apply List.eq_nil_iff_forall_not_mem.mpr
      intro row member
      rcases mem_orderedTransactions.mp member with ⟨stored, selected, _⟩
      have touches := (List.mem_filter.mp selected).2
      simp [selectsTransaction, touchesAddresses, addressed] at touches
    constructor
    · intro _
      simp [none]
    · intro _ page limit txs found
      simp only [findTransactionsByAddresses, addressed, List.length_nil, ↓reduceIte,
        Except.ok.injEq] at found
      subst found
      exact List.Pairwise.nil
  · have pages : ∀ page limit : Nat,
        findTransactionsByAddresses collation tables { input with page, limit } = .ok
          ((limitOffset limit ((page - 1) * limit)
            (orderedTransactions collation tables input)).map
              (assembledTransaction collation tables)) :=
      fun page limit => findTransactionsByAddresses_eq collation tables
        { input with page, limit } addressed
    constructor
    · intro every
      have whole := every 1 (orderedTransactions collation tables input).length _ (pages _ _)
      rw [CardanoInChainOrder, List.pairwise_map] at whole
      simp only [limitOffset, Nat.sub_self, Nat.zero_mul, List.drop_zero, List.take_length] at whole
      exact whole
    · intro inOrder page limit txs found
      rw [pages, Except.ok.injEq] at found
      subst found
      rw [CardanoInChainOrder, List.pairwise_map]
      exact inOrder.sublist ((List.take_sublist _ _).trans (List.drop_sublist _ _))

/-! ## EVM -/

/-- Block number of a stored transfer, as the rest of the code reads it. -/
def blockOf (row : EvmAssetTransferRow) : Int := (JsText.bigInt row.block_num).getD 0

/-- Position of a transfer in its block, which the table does not store. -/
structure BlockPosition where
  transactionIndex : Nat
  logIndex : Nat
  deriving DecidableEq, Repr

def BlockPosition.Before (left right : BlockPosition) : Prop :=
  left.transactionIndex < right.transactionIndex ∨
    (left.transactionIndex = right.transactionIndex ∧ left.logIndex < right.logIndex)

/-- Chain order of transfers: by block, then by position in the block. -/
def EvmPrecedes (position : EvmAssetTransferRow → BlockPosition)
    (left right : EvmAssetTransferRow) : Prop :=
  blockOf left < blockOf right ∨
    (blockOf left = blockOf right ∧ (position left).Before (position right))

/-- No transfer of the list comes before one that happened earlier. -/
def EvmInChainOrder (position : EvmAssetTransferRow → BlockPosition)
    (rows : List EvmAssetTransferRow) : Prop :=
  rows.Pairwise fun earlier later => ¬ EvmPrecedes position later earlier

instance (left right : BlockPosition) : Decidable (left.Before right) :=
  inferInstanceAs (Decidable (_ ∨ _))

instance (position : EvmAssetTransferRow → BlockPosition) (left right : EvmAssetTransferRow) :
    Decidable (EvmPrecedes position left right) :=
  inferInstanceAs (Decidable (_ ∨ _))

instance (position : EvmAssetTransferRow → BlockPosition) (rows : List EvmAssetTransferRow) :
    Decidable (EvmInChainOrder position rows) :=
  inferInstanceAs (Decidable (List.Pairwise _ _))

/-- The order of the query: by decoded block, then by the text of the unique id. -/
def QueriedBefore (collation : Collation) (left right : EvmAssetTransferRow) : Prop :=
  ∀ leftBlock rightBlock, decodeBlockNum left.block_num = some leftBlock →
    decodeBlockNum right.block_num = some rightBlock →
      leftBlock < rightBlock ∨
        (leftBlock = rightBlock ∧ collation.le left.unique_id right.unique_id = true)

/-- Transfers that the query can order at all are ordered as on chain. -/
def UniqueIdsAgree (collation : Collation) (position : EvmAssetTransferRow → BlockPosition)
    (table : EvmAssetTransferTable) (input : FindTransfersInput) : Prop :=
  (∀ row ∈ table.rows.filter (selectsTransfer input), (decodeBlockNum row.block_num).isSome) →
  ∀ first ∈ table.rows.filter (selectsTransfer input),
    ∀ second ∈ table.rows.filter (selectsTransfer input),
      EvmPrecedes position first second → QueriedBefore collation first second

theorem not_evmPrecedes_self (position : EvmAssetTransferRow → BlockPosition)
    (row : EvmAssetTransferRow) : ¬ EvmPrecedes position row row := by
  intro before
  rcases before with lower | ⟨_, earlier | ⟨_, smaller⟩⟩
  · exact lt_irrefl _ lower
  · exact lt_irrefl _ earlier
  · exact lt_irrefl _ smaller

/-- A row with its decoded block number. -/
def decoded (row : EvmAssetTransferRow) : Int × EvmAssetTransferRow :=
  ((decodeBlockNum row.block_num).getD 0, row)

theorem orderedTransfers_eq {collation : Collation} {table : EvmAssetTransferTable}
    {input : FindTransfersInput}
    (decodes : ∀ row ∈ table.rows.filter (selectsTransfer input),
      (decodeBlockNum row.block_num).isSome) :
    orderedTransfers collation table input = .ok (((transferOrder collation).orderBy
      ((table.rows.filter (selectsTransfer input)).map decoded)).map Prod.snd) := by
  have keyed : (table.rows.filter (selectsTransfer input)).mapM keyedByBlock =
      .ok ((table.rows.filter (selectsTransfer input)).map decoded) := by
    apply Result.mapM_eq_ok_map
    intro row member
    rcases Option.isSome_iff_exists.mp (decodes row member) with ⟨block, found⟩
    simp [keyedByBlock, decoded, found]
  rw [orderedTransfers, keyed]
  rfl

theorem decodes_of_orderedTransfers {collation : Collation} {table : EvmAssetTransferTable}
    {input : FindTransfersInput} {rows : List EvmAssetTransferRow}
    (ordered : orderedTransfers collation table input = .ok rows) :
    ∀ row ∈ table.rows.filter (selectsTransfer input), (decodeBlockNum row.block_num).isSome := by
  intro row member
  rcases Result.map_eq_ok.mp ordered with ⟨keyed, decoding, _⟩
  rw [← mapM_keyedByBlock decoding] at member
  rcases List.mem_map.mp member with ⟨pair, pairMember, same⟩
  rcases Result.exists_of_mem_mapM decoding pairMember with ⟨source, _, found⟩
  have key := keyedByBlock_eq_ok found
  rw [← same, key.2, key.1]
  rfl

/-- The complete result respects the chain exactly when the unique ids agree. -/
theorem orderBy_decoded_inChainOrder_iff (collation : Collation)
    (position : EvmAssetTransferRow → BlockPosition) (table : EvmAssetTransferTable)
    (input : FindTransfersInput)
    (decodes : ∀ row ∈ table.rows.filter (selectsTransfer input),
      (decodeBlockNum row.block_num).isSome) :
    EvmInChainOrder position (((transferOrder collation).orderBy
        ((table.rows.filter (selectsTransfer input)).map decoded)).map Prod.snd) ↔
      UniqueIdsAgree collation position table input := by
  have distinct := selected_unique_ids_nodup table input
  rw [EvmInChainOrder, List.pairwise_map,
    RowOrder.pairwise_orderBy_iff (transferOrder collation)
      (fun left right => EvmPrecedes position left.2 right.2)
      (fun row _ => not_evmPrecedes_self position row.2)]
  · simp only [UniqueIdsAgree, List.forall_mem_map]
    constructor
    · intro agrees _ first firstMember second secondMember before firstBlock secondBlock
        firstDecoded secondDecoded
      have ordered := agrees first firstMember second secondMember before
      rw [transferOrder, RowOrder.byKey_thenBy_le_iff] at ordered
      simpa [decoded, firstDecoded, secondDecoded, RowOrder.comap] using ordered
    · intro agrees first firstMember second secondMember before
      rcases Option.isSome_iff_exists.mp (decodes first firstMember) with ⟨firstBlock, firstFound⟩
      rcases Option.isSome_iff_exists.mp (decodes second secondMember) with
        ⟨secondBlock, secondFound⟩
      have ordered := agrees decodes first firstMember second secondMember before firstBlock
        secondBlock firstFound secondFound
      rw [transferOrder, RowOrder.byKey_thenBy_le_iff]
      simpa [decoded, firstFound, secondFound, RowOrder.comap] using ordered
  · intro left leftMember right rightMember forward backward
    rcases List.mem_map.mp leftMember with ⟨leftRow, leftSelected, leftEq⟩
    rcases List.mem_map.mp rightMember with ⟨rightRow, rightSelected, rightEq⟩
    have first := (RowOrder.thenBy_le_iff _ _ _ _).mp forward
    have second := (RowOrder.thenBy_le_iff _ _ _ _).mp backward
    have ids := collation.antisymm (first.2 second.1) (second.2 first.1)
    subst leftEq rightEq
    exact congrArg decoded (List.inj_on_of_nodup_map distinct leftSelected rightSelected ids)

/-- Every page of the EVM repository is in chain order exactly when the decoded
blocks and the unique ids are ordered as the transfers are on chain. -/
theorem findTransfers_inChainOrder_iff (collation : Collation)
    (position : EvmAssetTransferRow → BlockPosition) (table : EvmAssetTransferTable)
    (input : FindTransfersInput) :
    (∀ (page limit : Nat) (rows : List EvmAssetTransferRow),
        findTransfersByAddresses collation table { input with page, limit } = .ok rows →
          EvmInChainOrder position rows) ↔
      UniqueIdsAgree collation position table input := by
  by_cases addressed : input.addresses = []
  · -- Without addresses nothing is selected and nothing is returned.
    constructor
    · intro _ _ first firstMember
      have selected := (List.mem_filter.mp firstMember).2
      cases receiver : first.to_address <;>
        simp [selectsTransfer, addressed, receiver] at selected
    · intro _ page limit rows found
      simp only [findTransfersByAddresses, addressed, List.length_nil, ↓reduceIte,
        Except.ok.injEq] at found
      subst found
      exact List.Pairwise.nil
  · have nonempty : ¬ input.addresses.length = 0 := by simpa using addressed
    have sliced : ∀ page limit : Nat,
        findTransfersByAddresses collation table { input with page, limit } =
          (orderedTransfers collation table input).map
            (limitOffset limit ((page - 1) * limit)) := by
      intro page limit
      rw [findTransfersByAddresses, if_neg nonempty]
      rfl
    constructor
    · intro every decodes
      have whole := every 1 ((table.rows.filter (selectsTransfer input)).length)
      rw [sliced, orderedTransfers_eq decodes] at whole
      have ordered := whole _ rfl
      rw [limitOffset, Nat.sub_self, Nat.zero_mul, List.drop_zero, List.take_of_length_le]
        at ordered
      · exact (orderBy_decoded_inChainOrder_iff collation position table input decodes).mp
          ordered decodes
      · rw [List.length_map, ((transferOrder collation).perm_orderBy _).length_eq,
          List.length_map]
    · intro agrees page limit rows found
      rw [sliced] at found
      rcases Result.map_eq_ok.mp found with ⟨all, ordered, slice⟩
      have decodes := decodes_of_orderedTransfers ordered
      rw [orderedTransfers_eq decodes, Except.ok.injEq] at ordered
      have whole := (orderBy_decoded_inChainOrder_iff collation position table input decodes).mpr
        agrees
      rw [ordered] at whole
      rw [← slice]
      exact whole.sublist ((List.take_sublist _ _).trans (List.drop_sublist _ _))

/-- A block number as the provider writes it: hexadecimal digits after `0x`. -/
def HexBlockText (text : String) (block : Nat) : Prop :=
  ∃ digits, text.toList = '0' :: 'x' :: digits ∧ JsText.digitsValue 16 digits = some block

/-- For hexadecimal texts of blocks below 2⁶³ only the ties inside one block
matter: there the unique ids have to be ordered as the positions. -/
theorem uniqueIdsAgree_iff_of_hexBlockText (collation : Collation)
    (position : EvmAssetTransferRow → BlockPosition) (table : EvmAssetTransferTable)
    (input : FindTransfersInput)
    (texts : ∀ row ∈ table.rows.filter (selectsTransfer input),
      ∃ block, HexBlockText row.block_num block ∧ block < 2 ^ 63) :
    UniqueIdsAgree collation position table input ↔
      ∀ first ∈ table.rows.filter (selectsTransfer input),
        ∀ second ∈ table.rows.filter (selectsTransfer input),
          blockOf first = blockOf second → (position first).Before (position second) →
            collation.le first.unique_id second.unique_id = true := by
  have numbers : ∀ row ∈ table.rows.filter (selectsTransfer input),
      decodeBlockNum row.block_num = some (blockOf row) := by
    intro row member
    rcases texts row member with ⟨block, ⟨digits, text, value⟩, small⟩
    have read : JsText.digitsFrom 16 0 digits = some block := by
      simp only [JsText.digitsValue] at value
      split at value
      · cases value
      · exact value
    rw [decodeBlockNum_eq text read small, blockOf, JsText.bigInt_hex text value]
    rfl
  constructor
  · intro agrees first firstMember second secondMember sameBlock before
    have decodes : ∀ row ∈ table.rows.filter (selectsTransfer input),
        (decodeBlockNum row.block_num).isSome := by
      intro row member
      rw [numbers row member]
      rfl
    rcases agrees decodes first firstMember second secondMember (Or.inr ⟨sameBlock, before⟩) _ _
      (numbers first firstMember) (numbers second secondMember) with lower | ⟨_, text⟩
    · exact absurd sameBlock (ne_of_lt lower)
    · exact text
  · intro agrees _ first firstMember second secondMember before firstBlock secondBlock firstFound
      secondFound
    rw [numbers first firstMember, Option.some.injEq] at firstFound
    rw [numbers second secondMember, Option.some.injEq] at secondFound
    rw [← firstFound, ← secondFound]
    rcases before with lower | ⟨sameBlock, earlier⟩
    · exact Or.inl lower
    · exact Or.inr ⟨sameBlock, agrees first firstMember second secondMember sameBlock earlier⟩

/-! ## Both repositories -/

/-- Each repository yields chain order, on every page, exactly when the texts
that break its ties are ordered as the transfers are on chain. -/
theorem chain_order_iff (collation : Collation) :
    (∀ (tables : CardanoTables) (input : FindTransactionsInput),
      (∀ (page limit : Nat) (txs : List CardanoRawTransactionUtxoData),
          findTransactionsByAddresses collation tables { input with page, limit } = .ok txs →
            CardanoInChainOrder tables input txs) ↔
        HashesAgree collation tables input) ∧
    (∀ (position : EvmAssetTransferRow → BlockPosition) (table : EvmAssetTransferTable)
      (input : FindTransfersInput),
      (∀ (page limit : Nat) (rows : List EvmAssetTransferRow),
          findTransfersByAddresses collation table { input with page, limit } = .ok rows →
            EvmInChainOrder position rows) ↔
        UniqueIdsAgree collation position table input) :=
  ⟨findTransactions_inChainOrder_iff collation, findTransfers_inChainOrder_iff collation⟩

/-- A transaction of `asset1` at an index of block 7. -/
def rowOfBlockSeven (txHash : TxHash) (index : Nat) : CardanoAssetTransactionRow :=
  ⟨"cardano", "asset1", txHash, index, 7, 7, ⟨txHash, index, 7, 7⟩⟩

/-- Two transactions of one block whose hashes are in the other order: `addr1`
receives in the first and spends in the second. -/
def receiveThenSpend : CardanoTables where
  assetTransactions :=
    ⟨[rowOfBlockSeven ⟨"b0", by decide⟩ 0, rowOfBlockSeven ⟨"a0", by decide⟩ 1], by decide⟩
  utxos := .empty
  inputs := ⟨[⟨"cardano", ⟨"a0", by decide⟩, 0, "addr1", "b0", 0, none, none, none, false, none⟩],
    by decide⟩
  inputAmounts := ⟨[⟨"cardano", ⟨"a0", by decide⟩, 0, 0, "asset1", 5⟩], by decide⟩
  outputs := ⟨[⟨"cardano", ⟨"b0", by decide⟩, 0, "addr1", none, none, false, none, none⟩],
    by decide⟩
  outputAmounts := ⟨[⟨"cardano", ⟨"b0", by decide⟩, 0, 0, "asset1", 5⟩], by decide⟩

/-- A transfer of three units of `0xt` in block 7. -/
def transferOfBlockSeven (uniqueId sender receiver : String) : RawEvmAssetTransfer where
  blockNum := "0x7"
  uniqueId := uniqueId
  hash := "0xaa"
  from_ := sender
  to_ := some receiver
  value := some 3

/-- Logs 9 and 16 of one transaction, the first into `0xw` and the second out. -/
def logsNineAndSixteen : EvmAssetTransferTable :=
  ⟨[toEvmAssetTransferRow ⟨"ethereum", "0xt"⟩ (transferOfBlockSeven "0xaa:log:0x9" "0xs" "0xw"),
    toEvmAssetTransferRow ⟨"ethereum", "0xt"⟩ (transferOfBlockSeven "0xaa:log:0x10" "0xw" "0xs")],
    by decide⟩

/-- The log index that the two unique ids spell. -/
def sampleLogPosition (row : EvmAssetTransferRow) : BlockPosition :=
  ⟨0, if row.unique_id = "0xaa:log:0x9" then 9 else 16⟩

/-- Both repositories put the spending transfer before the receiving one. -/
theorem spend_listed_before_receive :
    (¬ ∀ (collation : Collation) (tables : CardanoTables) (input : FindTransactionsInput)
      (txs : List CardanoRawTransactionUtxoData),
        findTransactionsByAddresses collation tables input = .ok txs →
          CardanoInChainOrder tables input txs) ∧
    (¬ ∀ (collation : Collation) (position : EvmAssetTransferRow → BlockPosition)
      (table : EvmAssetTransferTable) (input : FindTransfersInput)
      (rows : List EvmAssetTransferRow),
        findTransfersByAddresses collation table input = .ok rows →
          EvmInChainOrder position rows) := by
  constructor
  · intro every
    have inOrder := every .codepoint receiveThenSpend ⟨"asset1", ["addr1"], 1, 500, none, none⟩
      [⟨⟨"a0", by decide⟩, 7, 7, [⟨"addr1", [⟨"asset1", 5⟩]⟩], []⟩,
        ⟨⟨"b0", by decide⟩, 7, 7, [], [⟨"addr1", 0, [⟨"asset1", 5⟩]⟩]⟩] (by decide +kernel)
    revert inOrder
    decide +kernel
  · intro every
    have inOrder := every .codepoint sampleLogPosition logsNineAndSixteen
      ⟨"ethereum", "0xt", ["0xw"], 1, 500, none, none⟩ logsNineAndSixteen.rows.reverse
      (by decide +kernel)
    revert inOrder
    decide +kernel

end Reputo.OnchainData
