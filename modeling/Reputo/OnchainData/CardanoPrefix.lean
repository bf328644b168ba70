import Reputo.Library.System
import Reputo.OnchainData.CardanoWriteSets

/-!
# The Cardano sync stores a prefix

The provider lists the transactions of an asset in an order that only grows.
Whatever fails, and wherever a run is cut off, the stored transactions are a
prefix of that list with their inputs and outputs, and the sync state names the
last stored transaction and its page.  The next run therefore finds the boundary
where it looks for it.
-/

namespace Reputo.OnchainData

open Reputo.Library

/-! ## The provider -/

/-- The transactions of an asset in chain order, each listed once. -/
structure AssetHistory where
  transactions : List RawCardanoAssetTransaction
  distinct : (transactions.map (·.tx_hash)).Nodup

/-- A later state of the provider: nothing is removed or reordered. -/
def AssetHistory.Extends (later earlier : AssetHistory) : Prop :=
  earlier.transactions <+: later.transactions

/-- The provider answers the attempts while it grows from `first` to `last`. -/
inductive Serves (answers : RawCardanoTransactionUtxo → Prop) :
    AssetHistory → List PageAttempt → AssetHistory → Prop
  | done (history : AssetHistory) : Serves answers history [] history
  | failed {first last : AssetHistory} {attempt : PageAttempt} {rest : List PageAttempt}
      (fails : attempt.listed = none) (others : Serves answers first rest last) :
      Serves answers first (attempt :: rest) last
  | listed {first middle last : AssetHistory} {attempt : PageAttempt} {rest : List PageAttempt}
      (grown : middle.Extends first) (lists : attempt.listed = some middle.transactions)
      (utxos : ∀ txHash transactionUtxo,
        attempt.fetchTransactionUtxo txHash = some transactionUtxo → answers transactionUtxo)
      (others : Serves answers middle rest last) :
      Serves answers first (attempt :: rest) last

theorem Serves.extends {answers : RawCardanoTransactionUtxo → Prop}
    {first last : AssetHistory} {attempts : List PageAttempt}
    (serves : Serves answers first attempts last) : last.Extends first := by
  induction serves with
  | done history => exact List.prefix_refl _
  | failed _ _ ih => exact ih
  | listed grown _ _ _ ih => exact grown.trans ih

/-! ## The invariant -/

/-- The stored transactions of one asset. -/
def storedTransactions (db : CardanoSyncDatabase) (target : CardanoTransferTarget) :
    List CardanoAssetTransactionRow :=
  db.tables.assetTransactions.rows.filter fun row =>
    row.chain = target.chain && row.asset_identifier = target.assetIdentifier

/-- The first `count` transactions are stored and the sync state says so. -/
structure Synced (pageSize : Nat) (target : CardanoTransferTarget)
    (answers : RawCardanoTransactionUtxo → Prop) (transactions : List RawCardanoAssetTransaction)
    (db : CardanoSyncDatabase) (count : Nat) : Prop where
  bound : count ≤ transactions.length
  rows : storedTransactions db target =
    (transactions.take count).map (toCardanoAssetTransactionRow target)
  whole : UtxosWhole answers db.tables
  known : ∀ transaction ∈ transactions.take count,
    KnowsTx db.tables (target.chain, transaction.tx_hash)
  absent : findCardanoAssetTransactionSyncState db target = none → count = 0
  present : ∀ state, findCardanoAssetTransactionSyncState db target = some state →
    0 < count ∧ ∃ last, transactions[count - 1]? = some last ∧
      state = syncStateRow target last ((count - 1) / pageSize + 1) state.updated_at

section Invariant

variable {pageSize : Nat} {target : CardanoTransferTarget}
variable {answers : RawCardanoTransactionUtxo → Prop}
variable {earlier later : List RawCardanoAssetTransaction} {db : CardanoSyncDatabase} {count : Nat}

theorem take_of_grown (grown : earlier <+: later) (bound : count ≤ earlier.length) :
    later.take count = earlier.take count := by
  rcases grown with ⟨added, whole⟩
  rw [← whole, List.take_append_of_le_length bound]

theorem getElem?_of_grown (grown : earlier <+: later) {index : Nat}
    {item : RawCardanoAssetTransaction} (found : earlier[index]? = some item) :
    later[index]? = some item := by
  rcases grown with ⟨added, whole⟩
  have inside : index < earlier.length := (List.getElem?_eq_some_iff.mp found).1
  rw [← whole, List.getElem?_append_left inside, found]

/-- The invariant survives the growth of the provider's list. -/
theorem Synced.grow (synced : Synced pageSize target answers earlier db count)
    (grown : earlier <+: later) : Synced pageSize target answers later db count where
  bound := synced.bound.trans grown.length_le
  rows := by rw [take_of_grown grown synced.bound, synced.rows]
  whole := synced.whole
  known := by
    rw [take_of_grown grown synced.bound]
    exact synced.known
  absent := synced.absent
  present := by
    intro state found
    rcases synced.present state found with ⟨positive, last, listed, named⟩
    exact ⟨positive, last, getElem?_of_grown grown listed, named⟩

end Invariant

/-! ## Committing a page -/

/-- The write sets of a page are those of one answer for each of its items. -/
theorem fetchWriteSets_eq_ok {target : CardanoTransferTarget} {attempt : PageAttempt}
    {pageItems : List RawCardanoAssetTransaction}
    {writeSets : List CardanoTransactionUtxoWriteSet}
    (fetched : fetchWriteSets target attempt pageItems = .ok writeSets) :
    ∃ transactionUtxos : List RawCardanoTransactionUtxo,
      transactionUtxos.map (·.hash) = pageItems.map (·.tx_hash) ∧
      (∀ transactionUtxo ∈ transactionUtxos,
        ∃ txHash, attempt.fetchTransactionUtxo txHash = some transactionUtxo) ∧
      writeSets = transactionUtxos.map (answerWriteSet target.chain) := by
  rcases Result.bind_eq_ok.mp fetched with ⟨answered, fetching, converting⟩
  rw [Result.mapM_eq_ok_iff] at fetching converting
  clear fetched
  induction fetching generalizing writeSets with
  | nil =>
      rw [List.forall₂_nil_left_iff.mp converting]
      exact ⟨[], rfl, by simp, rfl⟩
  | @cons item pair items pairs answer _ ih =>
      rcases List.forall₂_cons_left_iff.mp converting with ⟨first, others, converted, rest, built⟩
      rcases ih rest with ⟨transactionUtxos, hashes, sources, sets⟩
      split at answer
      · rename_i transactionUtxo found
        cases answer
        simp only [toCardanoTransactionUtxoWriteSet, ite_not] at converted
        split at converted
        · rename_i same
          cases converted
          refine ⟨transactionUtxo :: transactionUtxos, ?_, ?_, ?_⟩
          · simp [same, hashes]
          · intro source member
            rcases List.mem_cons.mp member with equal | tailMember
            · exact ⟨item.tx_hash, equal ▸ found⟩
            · exact sources source tailMember
          · rw [built, sets, List.map_cons, answerWriteSet, same]
        · cases converted
      · cases answer

theorem fetchWriteSets_error {target : CardanoTransferTarget} {attempt : PageAttempt}
    {pageItems : List RawCardanoAssetTransaction} {failure : CardanoSyncFailure}
    (failed : fetchWriteSets target attempt pageItems = .error failure) (message : String) :
    failure ≠ .boundaryNotFound message := by
  intro boundary
  subst boundary
  rcases Result.bind_eq_error.mp failed with fetching | ⟨answered, _, converting⟩
  · rcases Result.exists_of_mapM_eq_error fetching with ⟨item, _, answer⟩
    split at answer <;> cases answer
  · rcases Result.exists_of_mapM_eq_error converting with ⟨pair, _, answer⟩
    simp only [toCardanoTransactionUtxoWriteSet] at answer
    split at answer <;> cases answer

/-- Committing the items up to `stop` moves the prefix there. -/
theorem Synced.commit {pageSize : Nat} {target : CardanoTransferTarget}
    {answers : RawCardanoTransactionUtxo → Prop} {history : AssetHistory}
    {db : CardanoSyncDatabase} {count stop currentPage : Nat}
    (synced : Synced pageSize target answers history.transactions db count)
    (bound : stop ≤ history.transactions.length) (forward : count < stop)
    {last : RawCardanoAssetTransaction} (listed : history.transactions[stop - 1]? = some last)
    (page : currentPage = (stop - 1) / pageSize + 1)
    {transactionUtxos : List RawCardanoTransactionUtxo}
    (hashes : transactionUtxos.map (·.hash) =
      ((history.transactions.take stop).drop count).map (·.tx_hash))
    (answered : ∀ transactionUtxo ∈ transactionUtxos, answers transactionUtxo) (now : Int) :
    Synced pageSize target answers history.transactions
      (commitPage db target ((history.transactions.take stop).drop count)
        (transactionUtxos.map (answerWriteSet target.chain)) last currentPage now).1 stop := by
  have split : history.transactions.take stop = history.transactions.take count ++
      (history.transactions.take stop).drop count := by
    have taken : (history.transactions.take stop).take count = history.transactions.take count := by
      rw [List.take_take, min_eq_left forward.le]
    rw [← taken, List.take_append_drop]
  have distinct : ((history.transactions.take stop).map (·.tx_hash)).Nodup :=
    history.distinct.sublist ((List.take_sublist _ _).map _)
  have itemsDistinct : (((history.transactions.take stop).drop count).map (·.tx_hash)).Nodup :=
    distinct.sublist ((List.drop_sublist _ _).map _)
  generalize items_eq : (history.transactions.take stop).drop count = items at *
  have inserted : (db.tables.assetTransactions.insertAllOrIgnore
      (items.map (toCardanoAssetTransactionRow target))).rows =
      db.tables.assetTransactions.rows ++ items.map (toCardanoAssetTransactionRow target) := by
    apply Table.insertAllOrIgnore_rows_of_fresh
    rw [List.map_append, List.nodup_append]
    refine ⟨db.tables.assetTransactions.keys_nodup, ?_, ?_⟩
    · apply List.Nodup.of_map fun key : String × String × TxHash => key.2.2
      rw [List.map_map, List.map_map]
      exact itemsDistinct
    · -- A stored row of the target is one of the first `count` transactions.
      intro oldKey oldMember newKey newMember same
      rcases List.mem_map.mp oldMember with ⟨stored, storedMember, storedKey⟩
      rw [List.map_map] at newMember
      rcases List.mem_map.mp newMember with ⟨item, itemMember, itemKey⟩
      have keys : (stored.chain, stored.asset_identifier, stored.tx_hash) =
          (target.chain, target.assetIdentifier, item.tx_hash) :=
        storedKey.trans (same.trans itemKey.symm)
      simp only [Prod.mk.injEq] at keys
      have own : stored ∈ storedTransactions db target :=
        List.mem_filter.mpr ⟨storedMember, by simp [keys.1, keys.2.1]⟩
      rw [synced.rows] at own
      rcases List.mem_map.mp own with ⟨transaction, transactionMember, built⟩
      rw [split, List.map_append, List.nodup_append] at distinct
      refine distinct.2.2 transaction.tx_hash (List.mem_map_of_mem transactionMember) item.tx_hash
        (List.mem_map_of_mem itemMember) ?_
      rw [← keys.2.2, ← built]
      rfl
  have utxosDistinct : (transactionUtxos.map (·.hash)).Nodup := hashes ▸ itemsDistinct
  refine ⟨bound, ?_, ?_, ?_, ?_, ?_⟩
  · have new : (items.map (toCardanoAssetTransactionRow target)).filter (fun row =>
        row.chain = target.chain && row.asset_identifier = target.assetIdentifier) =
        items.map (toCardanoAssetTransactionRow target) := by
      apply List.filter_eq_self.mpr
      intro row member
      rcases List.mem_map.mp member with ⟨item, _, built⟩
      simp [← built, toCardanoAssetTransactionRow]
    rw [split, List.map_append, ← synced.rows, storedTransactions, storedTransactions, ← new,
      ← List.filter_append]
    exact congrArg _ inserted
  · exact (synced.whole.withAssetTransactions _).insert target.chain utxosDistinct answered
  · intro transaction member
    rw [split] at member
    rcases List.mem_append.mp member with old | new
    · exact (synced.known transaction old).insert target.chain transactionUtxos
    · have hash : transaction.tx_hash ∈ transactionUtxos.map (·.hash) := by
        rw [hashes]
        exact List.mem_map_of_mem new
      rcases List.mem_map.mp hash with ⟨utxo, utxoMember, same⟩
      rw [← same]
      exact knowsTx_insertAnswers target.chain utxoMember
  · intro none
    have found := Table.find?_upsert_self db.syncStates (syncStateRow target last currentPage now)
    exact absurd (found.symm.trans none) (by simp)
  · intro state found
    have written := Table.find?_upsert_self db.syncStates
      (syncStateRow target last currentPage now)
    have same : syncStateRow target last currentPage now = state :=
      Option.some.inj (written.symm.trans found)
    subst same
    exact ⟨by omega, last, listed, by rw [page]; rfl⟩

/-! ## One page -/

/-- What holds when the loop is about to fetch a page: everything before the page
is stored, or the page is the one on which the stored boundary lies. -/
structure LoopInvariant (pageSize : Nat) (target : CardanoTransferTarget)
    (answers : RawCardanoTransactionUtxo → Prop)
    (syncState : Option CardanoAssetTransactionSyncStateRow) (history : AssetHistory)
    (loop : CardanoSyncLoop) (count : Nat) : Prop where
  synced : Synced pageSize target answers history.transactions loop.db count
  started : 1 ≤ loop.page
  pages : loop.currentPage = loop.page
  found : loop.syncBoundaryFound = true → count = (loop.page - 1) * pageSize
  pending : loop.syncBoundaryFound = false → ∃ state last, syncState = some state ∧
    state.last_tx_hash = last.tx_hash ∧ history.transactions[count - 1]? = some last ∧
    (loop.page - 1) * pageSize < count ∧ count ≤ (loop.page - 1) * pageSize + pageSize

section Page

variable {pageSize : Nat} {target : CardanoTransferTarget}
variable {answers : RawCardanoTransactionUtxo → Prop}
variable {syncState : Option CardanoAssetTransactionSyncStateRow}
variable {history middle : AssetHistory} {loop : CardanoSyncLoop} {count : Nat}

/-- A transaction is found where it is listed. -/
theorem findIdx?_txHash {items : List RawCardanoAssetTransaction}
    (distinct : (items.map (·.tx_hash)).Nodup) {index : Nat} {item : RawCardanoAssetTransaction}
    (listed : items[index]? = some item) :
    (items.findIdx? fun other => other.tx_hash = item.tx_hash) = some index := by
  rcases List.getElem?_eq_some_iff.mp listed with ⟨inside, here⟩
  rw [List.findIdx?_eq_some_iff_getElem]
  refine ⟨inside, by simp [here], ?_⟩
  intro earlier before
  have different := (List.pairwise_iff_getElem.mp (List.pairwise_map.mp distinct)) earlier index
    (before.trans inside) inside before
  rw [here] at different
  simpa using different

/-- The items that are not stored yet are those behind the stored prefix. -/
theorem skipStored_eq
    (invariant : LoopInvariant pageSize target answers syncState history loop count)
    (grown : middle.Extends history) :
    skipStored target syncState loop
        (assetTransactionsPage pageSize middle.transactions loop.page) =
      .ok ((middle.transactions.take ((loop.page - 1) * pageSize + pageSize)).drop count) := by
  cases boundary : loop.syncBoundaryFound with
  | true =>
      have all : skipStored target syncState loop
          (assetTransactionsPage pageSize middle.transactions loop.page) =
          .ok (assetTransactionsPage pageSize middle.transactions loop.page) := by
        cases syncState <;> simp [skipStored, boundary]
      rw [all, assetTransactionsPage, List.take_drop, invariant.found boundary]
  | false =>
      rcases invariant.pending boundary with ⟨state, last, resumed, hash, listed, after, within⟩
      have here : (assetTransactionsPage pageSize middle.transactions
          loop.page)[count - 1 - (loop.page - 1) * pageSize]? = some last := by
        have index : (loop.page - 1) * pageSize + (count - 1 - (loop.page - 1) * pageSize) =
            count - 1 := by omega
        rw [assetTransactionsPage, List.getElem?_take_of_lt (by omega), List.getElem?_drop, index]
        exact getElem?_of_grown grown listed
      have distinct : ((assetTransactionsPage pageSize middle.transactions loop.page).map
          (·.tx_hash)).Nodup :=
        middle.distinct.sublist (((List.take_sublist _ _).trans (List.drop_sublist _ _)).map _)
      have index := findIdx?_txHash distinct here
      rw [← hash] at index
      have offset : (loop.page - 1) * pageSize +
          (count - 1 - (loop.page - 1) * pageSize + 1) = count := by omega
      simp only [skipStored, resumed, boundary, Bool.false_eq_true, ↓reduceIte, index,
        Except.ok.injEq]
      rw [assetTransactionsPage, List.take_drop, List.drop_drop, offset]

/-- The transactions that a page's end has reached. -/
def reached (pageSize page : Nat) (transactions : List RawCardanoAssetTransaction) : Nat :=
  min ((page - 1) * pageSize + pageSize) transactions.length

theorem take_reached (pageSize page : Nat) (transactions : List RawCardanoAssetTransaction) :
    transactions.take ((page - 1) * pageSize + pageSize) =
      transactions.take (reached pageSize page transactions) := by
  rw [reached, ← List.take_take, List.take_length]

/-- The stored prefix never reaches behind the page that is fetched next. -/
theorem LoopInvariant.count_le
    (invariant : LoopInvariant pageSize target answers syncState history loop count)
    (grown : middle.Extends history) : count ≤ reached pageSize loop.page middle.transactions := by
  apply le_min
  · cases boundary : loop.syncBoundaryFound with
    | true => exact (invariant.found boundary).le.trans (Nat.le_add_right _ _)
    | false =>
        rcases invariant.pending boundary with ⟨_, _, _, _, _, _, within⟩
        exact within
  · exact invariant.synced.bound.trans grown.length_le

/-- Every page before the one that is fetched next is stored. -/
theorem LoopInvariant.page_start_le
    (invariant : LoopInvariant pageSize target answers syncState history loop count) :
    (loop.page - 1) * pageSize ≤ count := by
  cases boundary : loop.syncBoundaryFound with
  | true => exact (invariant.found boundary).ge
  | false =>
      rcases invariant.pending boundary with ⟨_, _, _, _, _, after, _⟩
      exact after.le

theorem page_of_bounds {pageSize page index : Nat} (lower : page * pageSize ≤ index)
    (upper : index < page * pageSize + pageSize) : index / pageSize = page := by
  apply Nat.div_eq_of_lt_le lower
  rw [Nat.succ_mul]
  exact upper

/-- Handling a page stores it up to its end. -/
theorem handlePage_ok {attempt : PageAttempt} {handled : CardanoSyncLoop}
    (invariant : LoopInvariant pageSize target answers syncState history loop count)
    (grown : middle.Extends history)
    (utxos : ∀ txHash transactionUtxo,
      attempt.fetchTransactionUtxo txHash = some transactionUtxo → answers transactionUtxo)
    (succeeded : handlePage target syncState attempt
      (assetTransactionsPage pageSize middle.transactions loop.page) loop = .ok handled) :
    Synced pageSize target answers middle.transactions handled.db
        (reached pageSize loop.page middle.transactions) ∧
      handled.currentPage = loop.page + 1 ∧ handled.syncBoundaryFound = true := by
  have synced := invariant.synced.grow grown
  have forward := invariant.count_le grown
  have bound : reached pageSize loop.page middle.transactions ≤ middle.transactions.length :=
    min_le_right _ _
  rcases Result.bind_eq_ok.mp succeeded with ⟨pageItems, skipped, continued⟩
  rw [skipStored_eq invariant grown, take_reached, Except.ok.injEq] at skipped
  subst skipped
  have size : ((middle.transactions.take (reached pageSize loop.page middle.transactions)).drop
      count).length = reached pageSize loop.page middle.transactions - count := by
    rw [List.length_drop, List.length_take, min_eq_left bound]
  split at continued
  · rename_i nothing
    cases continued
    rw [List.getLast?_eq_none_iff.mp nothing, List.length_nil] at size
    have same : reached pageSize loop.page middle.transactions = count := by omega
    rw [same]
    exact ⟨synced, congrArg (· + 1) invariant.pages, rfl⟩
  · rename_i last lastItem
    rcases Result.bind_eq_ok.mp continued with ⟨writeSets, fetched, committing⟩
    split at committing
    · cases committing
      rcases fetchWriteSets_eq_ok fetched with ⟨transactionUtxos, hashes, sources, built⟩
      have some : 0 < reached pageSize loop.page middle.transactions - count := by
        rw [← size]
        exact List.length_pos_of_ne_nil (by
          intro nothing
          rw [nothing] at lastItem
          cases lastItem)
      have listed : middle.transactions[reached pageSize loop.page middle.transactions - 1]? =
          Option.some last := by
        rw [List.getLast?_eq_getElem?, size, List.getElem?_drop,
          List.getElem?_take_of_lt (by omega)] at lastItem
        rw [← lastItem]
        congr 1
        omega
      have before := invariant.page_start_le
      have within : reached pageSize loop.page middle.transactions ≤
          (loop.page - 1) * pageSize + pageSize := min_le_left _ _
      have lower : (loop.page - 1) * pageSize ≤
          reached pageSize loop.page middle.transactions - 1 := by omega
      have upper : reached pageSize loop.page middle.transactions - 1 <
          (loop.page - 1) * pageSize + pageSize := by omega
      have page : loop.currentPage =
          (reached pageSize loop.page middle.transactions - 1) / pageSize + 1 := by
        rw [page_of_bounds lower upper, invariant.pages,
          Nat.sub_add_cancel invariant.started]
      rw [built]
      exact ⟨synced.commit bound (by omega) listed page hashes
        (fun transactionUtxo member =>
          let ⟨txHash, found⟩ := sources transactionUtxo member
          utxos txHash transactionUtxo found) attempt.now,
        congrArg (· + 1) invariant.pages, rfl⟩
    · cases committing

/-- A page that fails names the provider or the database, never the boundary. -/
theorem handlePage_error {attempt : PageAttempt} {failure : CardanoSyncFailure}
    (invariant : LoopInvariant pageSize target answers syncState history loop count)
    (grown : middle.Extends history)
    (failed : handlePage target syncState attempt
      (assetTransactionsPage pageSize middle.transactions loop.page) loop = .error failure)
    (message : String) : failure ≠ .boundaryNotFound message := by
  intro boundary
  subst boundary
  rcases Result.bind_eq_error.mp failed with skipping | ⟨pageItems, _, continued⟩
  · rw [skipStored_eq invariant grown] at skipping
    cases skipping
  · split at continued
    · cases continued
    · rcases Result.bind_eq_error.mp continued with fetching | ⟨writeSets, _, committing⟩
      · exact fetchWriteSets_error fetching message rfl
      · split at committing <;> cases committing

end Page

/-! ## A whole run -/

section Run

variable {pageSize : Nat} {target : CardanoTransferTarget}
variable {answers : RawCardanoTransactionUtxo → Prop}
variable {syncState : Option CardanoAssetTransactionSyncStateRow}

theorem length_assetTransactionsPage (pageSize : Nat)
    (transactions : List RawCardanoAssetTransaction) (page : Nat) : (assetTransactionsPage pageSize transactions page).length =
      min pageSize (transactions.length - (page - 1) * pageSize) := by
  rw [assetTransactionsPage, List.length_take, List.length_drop]

/-- A run that has met the boundary ends well. -/
theorem finishSync_ok (target : CardanoTransferTarget)
    (syncState : Option CardanoAssetTransactionSyncStateRow) (fromPage : Nat) {loop : CardanoSyncLoop}
    (found : loop.syncBoundaryFound = true) :
    ∃ result, finishSync target syncState fromPage loop = .ok result := by
  cases syncState <;> simp [finishSync, found]

/-- The loop keeps the invariant whatever the outside answers, and when it ends
well it has stored all that was listed at its start. -/
theorem syncPages_synced (fromPage : Nat) (positive : 0 < pageSize) {first last : AssetHistory}
    {attempts : List PageAttempt} (serves : Serves answers first attempts last)
    {loop : CardanoSyncLoop} {count : Nat}
    (invariant : LoopInvariant pageSize target answers syncState first loop count) :
    ∃ stored, Synced pageSize target answers last.transactions
        (syncPages pageSize target syncState fromPage attempts loop).1 stored ∧
      (∀ result, (syncPages pageSize target syncState fromPage attempts loop).2 = .ok result →
        first.transactions.length ≤ stored) ∧
      ∀ message, (syncPages pageSize target syncState fromPage attempts loop).2 ≠
        .error (.boundaryNotFound message) := by
  induction serves generalizing loop count with
  | done history =>
      refine ⟨count, invariant.synced, ?_, ?_⟩
      · intro result finished
        cases finished
      · intro message failed
        cases failed
  | @failed first last attempt rest fails others ih =>
      have stops : syncPages pageSize target syncState fromPage (attempt :: rest) loop =
          (loop.db, .error .providerFailed) := by
        simp only [syncPages, fails]
      rw [stops]
      refine ⟨count, invariant.synced.grow others.extends, ?_, ?_⟩
      · intro result finished
        cases finished
      · intro message failed
        cases failed
  | @listed first middle last attempt rest grown lists utxos others ih =>
      have size := length_assetTransactionsPage pageSize middle.transactions loop.page
      have forward := invariant.count_le grown
      have start := invariant.page_start_le
      have all : first.transactions.length ≤ middle.transactions.length := grown.length_le
      simp only [syncPages, lists]
      split
      · -- Nothing is listed behind the stored prefix.
        rename_i empty
        rw [size] at empty
        have found : loop.syncBoundaryFound = true := by
          cases boundary : loop.syncBoundaryFound with
          | true => rfl
          | false =>
              rcases invariant.pending boundary with ⟨_, _, _, _, _, after, _⟩
              have inside : count ≤ middle.transactions.length :=
                forward.trans (min_le_right _ _)
              omega
        rcases finishSync_ok target syncState fromPage found
          with ⟨result, finished⟩
        refine ⟨count, (invariant.synced.grow grown).grow others.extends, ?_, ?_⟩
        · intro _ _
          omega
        · intro message failed
          rw [finished] at failed
          cases failed
      · rename_i nonempty
        cases handling : handlePage target syncState attempt
            (assetTransactionsPage pageSize middle.transactions loop.page) loop with
        | error failure =>
            refine ⟨count, (invariant.synced.grow grown).grow others.extends, ?_, ?_⟩
            · intro result finished
              cases finished
            · intro message failed
              simp only [Except.error.injEq] at failed
              exact handlePage_error invariant grown handling message failed
        | ok handled =>
            rcases handlePage_ok invariant grown utxos handling with ⟨synced, pages, found⟩
            simp only
            split
            · rename_i short
              rcases finishSync_ok target syncState fromPage found
                with ⟨result, finished⟩
              refine ⟨_, synced.grow others.extends, ?_, ?_⟩
              · intro _ _
                rw [reached]
                omega
              · intro message failed
                rw [finished] at failed
                cases failed
            · rename_i full
              have next : LoopInvariant pageSize target answers syncState middle
                  { handled with page := loop.page + 1 }
                  (reached pageSize loop.page middle.transactions) := by
                refine ⟨synced, by simp, pages, ?_, ?_⟩
                · intro _
                  rw [size] at full
                  have page : loop.page * pageSize = (loop.page - 1) * pageSize + pageSize := by
                    rw [← Nat.succ_mul, Nat.succ_eq_add_one, Nat.sub_add_cancel invariant.started]
                  change reached pageSize loop.page middle.transactions =
                    (loop.page + 1 - 1) * pageSize
                  rw [Nat.add_sub_cancel, page]
                  apply min_eq_left
                  omega
                · intro missing
                  exact absurd (found.symm.trans missing) (by simp)
              rcases ih next with ⟨stored, kept, complete, sound⟩
              exact ⟨stored, kept, fun result finished => all.trans (complete result finished),
                sound⟩

end Run

end Reputo.OnchainData
