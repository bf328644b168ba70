import Reputo.TokenValue.Compute

/-!
# What the page loop replays

The page loop stops at the first full page whose rows bring no event.  For EVM
transfers there is no such page, since every row brings one.  A Cardano
transaction whose tracked net flows are all zero brings none, so a page of them
hides everything after it.
-/

namespace Reputo.TokenValue

open Reputo.Library Reputo.OnchainData

variable (toLowerCase : String → String)

/-- The normalization of the complete ordered query result of a resource. -/
def completeEvents (resource : ResolvedResource) (ctx : LoadContext) :
    Except String (List OrderedTransferEvent) :=
  if resource.chain = "ethereum" then
    if ctx.walletAddresses.length = 0 then .ok []
    else do
      let rows ← orderedTransfers ctx.repos.collation ctx.repos.evm
        (findTransfersInput resource ctx 1)
      normalizeEvmTransfers toLowerCase rows resource.resourceId ctx.stakingAddresses
  else if resource.chain = "cardano" then
    if ctx.walletAddresses.length = 0 then .ok []
    else do
      let txs ← assembleTransactions ctx.repos.collation ctx.repos.cardano
        (orderedTransactions ctx.repos.collation ctx.repos.cardano
          (findTransactionsInput resource ctx 1))
      return normalizeCardanoTransactions txs resource.resourceId resource.tokenIdentifier
        ctx.walletAddresses (resource.tokenDecimals.getD 0)
  else .error ("Unsupported chain: " ++ resource.chain)

/-- The net flow of the resource's token is zero at every tracked address. -/
def Unmoved (resource : ResolvedResource) (ctx : LoadContext) (row : CardanoTxRow) : Prop :=
  ∀ flow ∈ (addressFlows ctx.walletAddresses resource.tokenIdentifier
    (resource.tokenDecimals.getD 0)
    (assembledTransaction ctx.repos.collation ctx.repos.cardano row)).entries, flow.2 = 0

/-- After a full page of Cardano transactions that move nothing, no later
transaction moves anything. -/
def UnmovedPagesEnd (resource : ResolvedResource) (ctx : LoadContext) : Prop :=
  resource.chain = "cardano" → ctx.walletAddresses ≠ [] → ∀ page : Nat,
    let txRows := orderedTransactions ctx.repos.collation ctx.repos.cardano
      (findTransactionsInput resource ctx 1)
    (limitOffset ctx.limit (page * ctx.limit) txRows).length = ctx.limit →
    (∀ row ∈ limitOffset ctx.limit (page * ctx.limit) txRows, Unmoved resource ctx row) →
    ∀ row ∈ txRows.drop ((page + 1) * ctx.limit), Unmoved resource ctx row

/-- Number of stored rows, a bound on the pages that can be read. -/
def OnchainRepos.storedRows (repos : OnchainRepos) : Nat :=
  repos.cardano.assetTransactions.rows.length + repos.evm.rows.length

/-! ## Cardano pages -/

/-- Events of one row of the transactions query. -/
def txEvents (resource : ResolvedResource) (ctx : LoadContext) (row : CardanoTxRow) :
    List OrderedTransferEvent :=
  normalizeCardanoTransaction resource.resourceId resource.tokenIdentifier ctx.walletAddresses
    (resource.tokenDecimals.getD 0)
    (assembledTransaction ctx.repos.collation ctx.repos.cardano row)

theorem txEvents_eq_nil_iff {resource : ResolvedResource} {ctx : LoadContext}
    {row : CardanoTxRow} : txEvents resource ctx row = [] ↔ Unmoved resource ctx row :=
  normalizeCardanoTransaction_eq_nil_iff

theorem loadCardanoTransferPage_eq {resource : ResolvedResource} {ctx : LoadContext}
    (tracked : ctx.walletAddresses ≠ []) (pageNumber : Nat) :
    loadCardanoTransferPage resource ctx pageNumber =
      loadPage (fun row => .ok (txEvents resource ctx row)) ctx.limit
        (orderedTransactions ctx.repos.collation ctx.repos.cardano
          (findTransactionsInput resource ctx 1)) pageNumber := by
  have nonempty : ¬ ctx.walletAddresses.length = 0 := by simpa using tracked
  have page := findTransactionsByAddresses_eq ctx.repos.collation ctx.repos.cardano
    (findTransactionsInput resource ctx pageNumber) tracked
  simp only [loadCardanoTransferPage, nonempty, ↓reduceIte, page, loadPage, render_ok]
  simp only [bind, Except.bind, pure, Except.pure, List.length_map, Except.ok.injEq,
    normalizeCardanoTransactions, List.flatMap_map]
  rfl

theorem keepsComing_iff_unmoved (resource : ResolvedResource) (ctx : LoadContext)
    (txRows : List CardanoTxRow) :
    KeepsComing (fun row => .ok (txEvents resource ctx row)) ctx.limit txRows ↔
      ∀ page : Nat, (limitOffset ctx.limit (page * ctx.limit) txRows).length = ctx.limit →
        (∀ row ∈ limitOffset ctx.limit (page * ctx.limit) txRows, Unmoved resource ctx row) →
        ∀ row ∈ txRows.drop ((page + 1) * ctx.limit), Unmoved resource ctx row := by
  simp only [KeepsComing, render_ok, Except.ok.injEq, List.flatMap_eq_nil_iff,
    txEvents_eq_nil_iff, forall_eq']

theorem length_orderedTransactions_le (collation : Collation) (tables : CardanoTables)
    (input : FindTransactionsInput) :
    (orderedTransactions collation tables input).length ≤ tables.assetTransactions.rows.length := by
  calc (orderedTransactions collation tables input).length
      = _ := ((txOrder collation).perm_orderBy _).length_eq
    _ ≤ _ := (List.dedup_sublist _).length_le
    _ = _ := List.length_map _
    _ ≤ _ := List.length_filter_le _ _

theorem completeEvents_cardano {resource : ResolvedResource} {ctx : LoadContext}
    (cardano : resource.chain = "cardano") (tracked : ctx.walletAddresses ≠ []) :
    completeEvents toLowerCase resource ctx =
      render (fun row => .ok (txEvents resource ctx row))
        (orderedTransactions ctx.repos.collation ctx.repos.cardano
          (findTransactionsInput resource ctx 1)) := by
  have nonempty : ¬ ctx.walletAddresses.length = 0 := by simpa using tracked
  have assembled := assembleTransactions_eq ctx.repos.collation ctx.repos.cardano
    (orderedTransactions_nodup ctx.repos.collation ctx.repos.cardano
      (findTransactionsInput resource ctx 1))
  simp only [completeEvents, cardano, String.reduceEq, ↓reduceIte, nonempty, assembled, render_ok]
  simp only [bind, Except.bind, pure, Except.pure, Except.ok.injEq, normalizeCardanoTransactions,
    List.flatMap_map]
  rfl

theorem replayedEvents_cardano_iff {resource : ResolvedResource} {ctx : LoadContext}
    (cardano : resource.chain = "cardano") (tracked : ctx.walletAddresses ≠ [])
    (positive : 0 < ctx.limit) {fuel : Nat} (enough : ctx.repos.storedRows < fuel) :
    replayedEvents toLowerCase resource ctx fuel =
        (completeEvents toLowerCase resource ctx).mapError .failed ↔
      UnmovedPagesEnd resource ctx := by
  have pages : loadTransferPage toLowerCase resource ctx =
      loadPage (fun row => .ok (txEvents resource ctx row)) ctx.limit
        (orderedTransactions ctx.repos.collation ctx.repos.cardano
          (findTransactionsInput resource ctx 1)) := by
    funext pageNumber
    rw [← loadCardanoTransferPage_eq tracked]
    simp [loadTransferPage, cardano]
  have rows := length_orderedTransactions_le ctx.repos.collation ctx.repos.cardano
    (findTransactionsInput resource ctx 1)
  have bounded : (orderedTransactions ctx.repos.collation ctx.repos.cardano
      (findTransactionsInput resource ctx 1)).length < fuel := by
    simp only [OnchainRepos.storedRows] at enough
    omega
  have followed := follow_complete_iff (fun row => .ok (txEvents resource ctx row)) positive
    (orderedTransactions ctx.repos.collation ctx.repos.cardano
      (findTransactionsInput resource ctx 1)) bounded []
  rw [keepsComing_iff_unmoved] at followed
  rw [replayedEvents, pages, completeEvents_cardano toLowerCase cardano tracked]
  simp only [UnmovedPagesEnd, cardano, tracked, ne_eq, not_false_eq_true, forall_const]
  rw [← followed, render_ok]
  simp [Except.map]

/-! ## EVM pages -/

/-- Event of one row of the transfers query. -/
def transferEvents (resource : ResolvedResource) (ctx : LoadContext) (row : EvmAssetTransferRow) :
    Except String (List OrderedTransferEvent) :=
  (normalizeEvmTransfer toLowerCase resource.resourceId ctx.stakingAddresses row).map
    fun event => [event]

/-- Rows with different unique ids are normalized one by one. -/
theorem normalizeEvmTransfers_eq_render (resource : ResolvedResource) (ctx : LoadContext)
    {rows : List EvmAssetTransferRow} (distinct : (rows.map (·.unique_id)).Nodup) :
    normalizeEvmTransfers toLowerCase rows resource.resourceId ctx.stakingAddresses =
      render (transferEvents toLowerCase resource ctx) rows := by
  rw [normalizeEvmTransfers, distinctBy_eq_self distinct]
  exact (render_singleton _ rows).symm

theorem loadEvmTransferPage_eq {resource : ResolvedResource} {ctx : LoadContext}
    (tracked : ctx.walletAddresses ≠ []) {rows : List EvmAssetTransferRow}
    (ordered : orderedTransfers ctx.repos.collation ctx.repos.evm
      (findTransfersInput resource ctx 1) = .ok rows) (pageNumber : Nat) :
    loadEvmTransferPage toLowerCase resource ctx pageNumber =
      loadPage (transferEvents toLowerCase resource ctx) ctx.limit rows pageNumber := by
  have nonempty : ¬ ctx.walletAddresses.length = 0 := by simpa using tracked
  have found : findTransfersByAddresses ctx.repos.collation ctx.repos.evm
      (findTransfersInput resource ctx pageNumber) =
        .ok (limitOffset ctx.limit ((pageNumber - 1) * ctx.limit) rows) := by
    have addressed : ¬ (findTransfersInput resource ctx pageNumber).addresses.length = 0 :=
      nonempty
    have same : orderedTransfers ctx.repos.collation ctx.repos.evm
        (findTransfersInput resource ctx pageNumber) = .ok rows := ordered
    rw [findTransfersByAddresses, if_neg addressed, same]
    rfl
  have distinct := (orderedTransfers_unique_ids_nodup ordered).sublist
    (((List.take_sublist ctx.limit _).trans
      (List.drop_sublist ((pageNumber - 1) * ctx.limit) rows)).map (·.unique_id))
  have rendered := normalizeEvmTransfers_eq_render toLowerCase resource ctx distinct
  simp only [loadEvmTransferPage, nonempty, ↓reduceIte, found]
  simp only [bind, Except.bind, loadPage]
  rw [limitOffset, rendered]

/-- Every page of EVM transfers that has rows brings events, so none is lost. -/
theorem replayedEvents_evm {resource : ResolvedResource} {ctx : LoadContext}
    (evm : resource.chain = "ethereum") (tracked : ctx.walletAddresses ≠ [])
    (positive : 0 < ctx.limit) {fuel : Nat} (enough : ctx.repos.storedRows < fuel) :
    replayedEvents toLowerCase resource ctx fuel =
        (completeEvents toLowerCase resource ctx).mapError .failed := by
  have nonempty : ¬ ctx.walletAddresses.length = 0 := by simpa using tracked
  simp only [completeEvents, evm, ↓reduceIte, nonempty]
  cases ordered : orderedTransfers ctx.repos.collation ctx.repos.evm
    (findTransfersInput resource ctx 1) with
  | error message =>
      -- The query fails on the first page as it does without a limit.
      obtain ⟨fuel, rfl⟩ : ∃ count, fuel = count + 1 := ⟨fuel - 1, by omega⟩
      have failing : loadTransferPage toLowerCase resource ctx 1 = .error message := by
        have addressed : ¬ (findTransfersInput resource ctx 1).addresses.length = 0 := nonempty
        simp only [loadTransferPage, evm, ↓reduceIte, loadEvmTransferPage, nonempty]
        rw [findTransfersByAddresses, if_neg addressed, ordered]
        rfl
      rw [replayedEvents, follow, failing]
      rfl
  | ok rows =>
      have pages : loadTransferPage toLowerCase resource ctx =
          loadPage (transferEvents toLowerCase resource ctx) ctx.limit rows := by
        funext pageNumber
        rw [← loadEvmTransferPage_eq toLowerCase tracked ordered]
        simp [loadTransferPage, evm]
      have bounded : rows.length < fuel := by
        have selected := (perm_orderedTransfers ordered).length_eq
        have stored := List.length_filter_le (selectsTransfer (findTransfersInput resource ctx 1))
          ctx.repos.evm.rows
        simp only [OnchainRepos.storedRows] at enough
        omega
      have followed := (follow_complete_iff (transferEvents toLowerCase resource ctx) positive rows
        bounded []).mpr (keepsComing_singleton _ positive rows)
      rw [replayedEvents, pages, followed]
      have normalized := normalizeEvmTransfers_eq_render toLowerCase resource ctx
        (orderedTransfers_unique_ids_nodup ordered)
      simp only [bind, Except.bind, normalized]
      cases render (transferEvents toLowerCase resource ctx) rows <;> rfl

/-! ## Both chains -/

/-- Without wallets, or on an unknown chain, there is one page at most. -/
theorem replayedEvents_first {resource : ResolvedResource} {ctx : LoadContext}
    (single : ctx.walletAddresses = [] ∨
      (resource.chain ≠ "ethereum" ∧ resource.chain ≠ "cardano")) {fuel : Nat}
    (enough : 0 < fuel) :
    replayedEvents toLowerCase resource ctx fuel =
        (completeEvents toLowerCase resource ctx).mapError .failed := by
  obtain ⟨fuel, rfl⟩ : ∃ count, fuel = count + 1 := ⟨fuel - 1, by omega⟩
  simp only [replayedEvents, follow, loadTransferPage, loadEvmTransferPage,
    loadCardanoTransferPage, completeEvents]
  rcases single with none | ⟨notEvm, notCardano⟩
  · by_cases evm : resource.chain = "ethereum"
    · simp [none, evm, Except.mapError]
    · by_cases cardano : resource.chain = "cardano"
      · simp [none, cardano, Except.mapError]
      · simp [evm, cardano, Except.mapError]
  · simp only [notEvm, notCardano, ↓reduceIte]
    rfl

/-- A stored transaction of `asset1`, first in its block. -/
def sampleTransaction (txHash : TxHash) (height : Nat) : CardanoAssetTransactionRow :=
  ⟨"cardano", "asset1", txHash, 0, height, height, ⟨txHash, 0, height, height⟩⟩

/-- The first input of a transaction, at `address`. -/
def sampleInput (txHash : TxHash) (address : String) : CardanoTransactionUtxoInputRow :=
  ⟨"cardano", txHash, 0, address, "a0", 0, none, none, none, false, none⟩

/-- The first output of a transaction, at `address`. -/
def sampleOutput (txHash : TxHash) (address : String) : CardanoTransactionUtxoOutputRow :=
  ⟨"cardano", txHash, 0, address, none, none, false, none, none⟩

/-- Two transactions of `asset1`: the first returns five units to the wallet
that spends them, the second brings the wallet seven. -/
def returnedThenReceived : CardanoTables where
  assetTransactions :=
    ⟨[sampleTransaction ⟨"a1", by decide⟩ 1, sampleTransaction ⟨"a2", by decide⟩ 2], by decide⟩
  utxos := .empty
  inputs := ⟨[sampleInput ⟨"a1", by decide⟩ "addr1"], by decide⟩
  inputAmounts := ⟨[⟨"cardano", ⟨"a1", by decide⟩, 0, 0, "asset1", 5⟩], by decide⟩
  outputs := ⟨[sampleOutput ⟨"a1", by decide⟩ "addr1", sampleOutput ⟨"a2", by decide⟩ "addr1"],
    by decide⟩
  outputAmounts := ⟨[⟨"cardano", ⟨"a1", by decide⟩, 0, 0, "asset1", 5⟩,
    ⟨"cardano", ⟨"a2", by decide⟩, 0, 0, "asset1", 7⟩], by decide⟩

/-- The token of the two transactions. -/
def sampleResource : ResolvedResource where
  chain := "cardano"
  resourceKey := "fet_token"
  kind := "token"
  identifier := "asset1"
  tokenIdentifier := "asset1"
  resourceId := "cardano:asset1"

/-- Pages of `limit` transactions for the wallet `addr1`. -/
def sampleContext (limit : Nat) : LoadContext where
  repos := ⟨returnedThenReceived, .empty, .codepoint⟩
  walletAddresses := ["addr1"]
  limit := limit
  stakingAddresses := []
  fromTimestampUnix := none
  toTimestampUnix := none

end Reputo.TokenValue
