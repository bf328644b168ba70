import Reputo.OnchainData.CardanoPrefix

/-!
# Runs of the Cardano sync, one after another

The sync of an asset is started again and again, for any asset and after any
failure, while the provider's lists grow.  A run of one asset leaves the rows of
the others alone, so that the invariant of a run becomes an invariant of the
database.
-/

namespace Reputo.OnchainData

open Reputo.Library

/-! ## Other assets -/

/-- A later state of the database in which the rows of `target` are unchanged. -/
structure Untouched (target : CardanoTransferTarget) (earlier later : CardanoSyncDatabase) :
    Prop where
  rows : storedTransactions later target = storedTransactions earlier target
  syncState : findCardanoAssetTransactionSyncState later target =
    findCardanoAssetTransactionSyncState earlier target
  known : ∀ key, KnowsTx earlier.tables key → KnowsTx later.tables key

section Other

variable {pageSize : Nat} {target other : CardanoTransferTarget}
variable {syncState : Option CardanoAssetTransactionSyncStateRow}
variable {earlier middle later db : CardanoSyncDatabase}

theorem Untouched.refl (target : CardanoTransferTarget) (db : CardanoSyncDatabase) :
    Untouched target db db := ⟨rfl, rfl, fun _ known => known⟩

theorem Untouched.trans (first : Untouched target earlier middle)
    (second : Untouched target middle later) : Untouched target earlier later :=
  ⟨second.rows.trans first.rows, second.syncState.trans first.syncState,
    fun key known => second.known key (first.known key known)⟩

theorem target_key_ne (different : other ≠ target) :
    (other.chain, other.assetIdentifier) ≠ (target.chain, target.assetIdentifier) := by
  intro same
  cases other
  cases target
  exact different (by simpa using same)

theorem commitPage_untouched (different : other ≠ target)
    (pageItems : List RawCardanoAssetTransaction)
    (writeSets : List CardanoTransactionUtxoWriteSet) (last : RawCardanoAssetTransaction)
    (currentPage : Nat) (now : Int) :
    Untouched other db (commitPage db target pageItems writeSets last currentPage now).1 where
  rows := by
    apply Table.filter_insertAllOrIgnore_of_dropped
    intro row member
    rcases List.mem_map.mp member with ⟨item, _, built⟩
    have key := target_key_ne different
    rw [ne_comm, Ne, Prod.mk.injEq] at key
    rw [← built, ← Bool.decide_and]
    exact decide_eq_false key
  syncState := by
    apply Table.find?_upsert_of_ne
    exact target_key_ne different
  known := by
    intro key ⟨row, member, same⟩
    exact ⟨row, Table.subset_insertAllOrIgnore _ _ member, same⟩

theorem handlePage_untouched (different : other ≠ target) {attempt : PageAttempt}
    {items : List RawCardanoAssetTransaction} {loop handled : CardanoSyncLoop}
    (succeeded : handlePage target syncState attempt items loop = .ok handled) :
    Untouched other loop.db handled.db := by
  rcases Result.bind_eq_ok.mp succeeded with ⟨pageItems, _, continued⟩
  split at continued
  · cases continued
    exact Untouched.refl other loop.db
  · rcases Result.bind_eq_ok.mp continued with ⟨writeSets, _, committing⟩
    split at committing
    · cases committing
      exact commitPage_untouched different ..
    · cases committing

theorem syncPages_untouched (different : other ≠ target) (fromPage : Nat)
    (attempts : List PageAttempt) (loop : CardanoSyncLoop) :
    Untouched other loop.db
      (syncPages pageSize target syncState fromPage attempts loop).1 := by
  induction attempts generalizing loop with
  | nil => exact Untouched.refl other loop.db
  | cons attempt rest ih =>
      simp only [syncPages]
      split
      · exact Untouched.refl other loop.db
      · rename_i listed _
        split
        · exact Untouched.refl other loop.db
        · split
          · exact Untouched.refl other loop.db
          · rename_i handled handling
            have first := handlePage_untouched different handling
            split
            · exact first
            · exact first.trans (ih { handled with page := loop.page + 1 })

end Other

/-! ## One run -/

section Run

variable {pageSize : Nat} {answers : RawCardanoTransactionUtxo → Prop}
variable {db : CardanoSyncDatabase} {count : Nat}

theorem Synced.untouched {target : CardanoTransferTarget}
    {transactions : List RawCardanoAssetTransaction} {later : CardanoSyncDatabase}
    (synced : Synced pageSize target answers transactions db count)
    (untouched : Untouched target db later) (whole : UtxosWhole answers later.tables) :
    Synced pageSize target answers transactions later count where
  bound := synced.bound
  rows := untouched.rows.trans synced.rows
  whole := whole
  known transaction member := untouched.known _ (synced.known transaction member)
  absent missing := synced.absent (untouched.syncState.symm.trans missing)
  present state found := synced.present state (untouched.syncState.symm.trans found)

/-- The state of the loop before the first page is fetched. -/
def startLoop (db : CardanoSyncDatabase)
    (syncState : Option CardanoAssetTransactionSyncStateRow) : CardanoSyncLoop where
  db
  page := (syncState.map (·.last_synced_page)).getD 1
  currentPage := (syncState.map (·.last_synced_page)).getD 1
  syncBoundaryFound := syncState.isNone

/-- A run starts on the page of the last stored transaction. -/
theorem Synced.start (positive : 0 < pageSize) {target : CardanoTransferTarget}
    {history : AssetHistory}
    (synced : Synced pageSize target answers history.transactions db count) :
    LoopInvariant pageSize target answers (findCardanoAssetTransactionSyncState db target) history
      (startLoop db (findCardanoAssetTransactionSyncState db target)) count := by
  cases stored : findCardanoAssetTransactionSyncState db target with
  | none =>
      refine ⟨synced, le_refl 1, rfl, ?_, ?_⟩
      · intro _
        rw [synced.absent stored]
        simp [startLoop]
      · intro impossible
        cases impossible
  | some state =>
      rcases synced.present state stored with ⟨some, last, listed, named⟩
      have page : state.last_synced_page = (count - 1) / pageSize + 1 := by rw [named]; rfl
      have hash : state.last_tx_hash = last.tx_hash := by rw [named]; rfl
      refine ⟨synced, ?_, rfl, ?_, ?_⟩
      · change 1 ≤ state.last_synced_page
        rw [page]
        exact Nat.le_add_left _ _
      · intro impossible
        cases impossible
      · intro _
        refine ⟨state, last, rfl, hash, listed, ?_, ?_⟩
        · change (state.last_synced_page - 1) * pageSize < count
          rw [page, Nat.add_sub_cancel]
          have below := Nat.div_mul_le_self (count - 1) pageSize
          omega
        · change count ≤ (state.last_synced_page - 1) * pageSize + pageSize
          rw [page, Nat.add_sub_cancel, ← Nat.succ_mul]
          have above := Nat.lt_mul_div_succ (count - 1) positive
          rw [Nat.mul_comm] at above
          exact Nat.le_of_pred_lt above

/-- A run keeps the invariant of its own asset. -/
theorem syncCardano_synced (positive : 0 < pageSize) {assetIdentifier : String}
    {first last : AssetHistory} {attempts : List PageAttempt}
    (serves : Serves answers first attempts last)
    (synced : Synced pageSize ⟨CARDANO_CHAIN, assetIdentifier⟩ answers first.transactions db
      count) :
    ∃ stored, Synced pageSize ⟨CARDANO_CHAIN, assetIdentifier⟩ answers last.transactions
        (syncCardanoAssetTransferWithAdapter pageSize assetIdentifier db attempts).1 stored ∧
      (∀ result, (syncCardanoAssetTransferWithAdapter pageSize assetIdentifier db attempts).2 =
        .ok result → first.transactions.length ≤ stored) ∧
      ∀ message, (syncCardanoAssetTransferWithAdapter pageSize assetIdentifier db attempts).2 ≠
        .error (.boundaryNotFound message) :=
  syncPages_synced _ positive serves (synced.start positive)

end Run

/-! ## Any number of runs -/

structure CardanoSyncSystemState where
  db : CardanoSyncDatabase
  /-- What the provider lists for each asset. -/
  history : String → AssetHistory

/-- One run: its asset, what the provider lists when it starts, and the answers
that it gets. -/
structure CardanoSyncRun where
  assetIdentifier : String
  started : AssetHistory
  attempts : List PageAttempt

/-- What a run leaves behind, and how it ends. -/
def CardanoSyncRun.outcome (run : CardanoSyncRun) (pageSize : Nat) (db : CardanoSyncDatabase) :
    CardanoSyncDatabase × Except CardanoSyncFailure SyncCardanoAssetTransferResult :=
  syncCardanoAssetTransferWithAdapter pageSize run.assetIdentifier db run.attempts

/-- Runs over a database that at first knows nothing of any asset, next to a
provider whose lists grow. -/
def cardanoSync (pageSize : Nat) (answers : RawCardanoTransactionUtxo → Prop) :
    System CardanoSyncSystemState CardanoSyncRun where
  initial state := UtxosWhole answers state.db.tables ∧
    ∀ assetIdentifier, storedTransactions state.db ⟨CARDANO_CHAIN, assetIdentifier⟩ = [] ∧
      findCardanoAssetTransactionSyncState state.db ⟨CARDANO_CHAIN, assetIdentifier⟩ = none
  step state run after :=
    run.started.Extends (state.history run.assetIdentifier) ∧
    Serves answers run.started run.attempts (after.history run.assetIdentifier) ∧
    (∀ other, other ≠ run.assetIdentifier →
      (after.history other).Extends (state.history other)) ∧
    after.db = (run.outcome pageSize state.db).1

/-- The stored transactions are the first ones of the provider's list, each with
the rows of an answer for it, and the sync state names the last one and its page. -/
structure StoredPrefix (pageSize : Nat) (answers : RawCardanoTransactionUtxo → Prop)
    (target : CardanoTransferTarget) (listed : List RawCardanoAssetTransaction)
    (db : CardanoSyncDatabase) (stored : List RawCardanoAssetTransaction) : Prop where
  isPrefix : stored <+: listed
  rows : storedTransactions db target = stored.map (toCardanoAssetTransactionRow target)
  writeSets : ∀ transaction ∈ stored, ∃ transactionUtxo, answers transactionUtxo ∧
    transactionUtxo.hash = transaction.tx_hash ∧
    HasWriteSet db.tables (utxoWriteSet target.chain transaction.tx_hash transactionUtxo)
  absent : findCardanoAssetTransactionSyncState db target = none → stored = []
  present : ∀ state, findCardanoAssetTransactionSyncState db target = some state →
    ∃ last, stored.getLast? = some last ∧
      state = syncStateRow target last state.last_synced_page state.updated_at ∧
      1 ≤ state.last_synced_page ∧
      last ∈ assetTransactionsPage pageSize listed state.last_synced_page

section Runs

variable {pageSize : Nat} {answers : RawCardanoTransactionUtxo → Prop}

theorem Synced.storedPrefix (positive : 0 < pageSize) {target : CardanoTransferTarget}
    {listed : List RawCardanoAssetTransaction} {db : CardanoSyncDatabase} {count : Nat}
    (synced : Synced pageSize target answers listed db count) :
    StoredPrefix pageSize answers target listed db (listed.take count) where
  isPrefix := List.take_prefix _ _
  rows := synced.rows
  writeSets := by
    intro transaction member
    rcases synced.known transaction member with ⟨row, stored, key⟩
    simp only [Prod.mk.injEq] at key
    have answered := synced.whole.answered row stored
    have whole := synced.whole.whole row stored
    rw [key.1, key.2] at whole
    exact ⟨row.raw_json, answered.2, answered.1.trans key.2, whole⟩
  absent := by
    intro missing
    rw [synced.absent missing, List.take_zero]
  present := by
    intro state found
    rcases synced.present state found with ⟨some, last, here, named⟩
    have page : state.last_synced_page = (count - 1) / pageSize + 1 := by rw [named]; rfl
    refine ⟨last, ?_, ?_, ?_, ?_⟩
    · rw [List.getLast?_eq_getElem?, List.length_take, min_eq_left synced.bound,
        List.getElem?_take_of_lt (by omega), here]
    · rw [page]
      exact named
    · rw [page]
      exact Nat.le_add_left _ _
    · apply List.mem_of_getElem? (i := (count - 1) % pageSize)
      rw [assetTransactionsPage, page, Nat.add_sub_cancel,
        List.getElem?_take_of_lt (Nat.mod_lt _ positive), List.getElem?_drop, Nat.div_add_mod']
      exact here

/-- The invariant holds for every asset. -/
def EveryAssetSynced (pageSize : Nat) (answers : RawCardanoTransactionUtxo → Prop)
    (state : CardanoSyncSystemState) : Prop :=
  ∀ assetIdentifier, ∃ count, Synced pageSize ⟨CARDANO_CHAIN, assetIdentifier⟩ answers
    (state.history assetIdentifier).transactions state.db count

/-- One run keeps the invariant of every asset. -/
theorem cardanoSync_kept (positive : 0 < pageSize) {state after : CardanoSyncSystemState}
    {run : CardanoSyncRun} (stepped : (cardanoSync pageSize answers).step state run after)
    (synced : EveryAssetSynced pageSize answers state) :
    EveryAssetSynced pageSize answers after := by
  rcases stepped with ⟨grown, serves, others, db⟩
  rcases synced run.assetIdentifier with ⟨count, own⟩
  rcases syncCardano_synced positive serves (own.grow grown) with ⟨stored, kept, _, _⟩
  change Synced _ _ _ _ (run.outcome pageSize state.db).1 stored at kept
  rw [← db] at kept
  intro assetIdentifier
  cases Decidable.em (assetIdentifier = run.assetIdentifier) with
  | inl same =>
      subst same
      exact ⟨stored, kept⟩
  | inr different =>
      rcases synced assetIdentifier with ⟨count, other⟩
      have untouched : Untouched ⟨CARDANO_CHAIN, assetIdentifier⟩ state.db after.db := by
        rw [db]
        exact syncPages_untouched (by simpa using different) _ _ (startLoop state.db _)
      exact ⟨count, (other.grow (others _ different)).untouched untouched kept.whole⟩

theorem cardanoSync_synced (positive : 0 < pageSize) {state : CardanoSyncSystemState}
    (reachable : (cardanoSync pageSize answers).Reachable (fun _ _ => True) state) :
    EveryAssetSynced pageSize answers state := by
  apply reachable.invariant
  · intro first ⟨whole, nothing⟩ assetIdentifier
    rcases nothing assetIdentifier with ⟨rows, missing⟩
    refine ⟨0, Nat.zero_le _, rows, whole, ?_, fun _ => rfl, ?_⟩
    · intro transaction member
      cases member
    · intro row found
      rw [missing] at found
      cases found
  · intro before run after synced _ stepped
    exact cardanoSync_kept positive stepped synced

/-- In every reachable state the sync has stored a prefix of each list, and no
run from there loses its boundary or ends well with less than what was listed
when it started. -/
theorem cardanoSync_storesFirst (positive : 0 < pageSize) {state : CardanoSyncSystemState}
    (reachable : (cardanoSync pageSize answers).Reachable (fun _ _ => True) state) :
    (∀ assetIdentifier, ∃ stored, StoredPrefix pageSize answers ⟨CARDANO_CHAIN, assetIdentifier⟩
      (state.history assetIdentifier).transactions state.db stored) ∧
    ∀ run after, (cardanoSync pageSize answers).step state run after →
      (∀ message, (run.outcome pageSize state.db).2 ≠ .error (.boundaryNotFound message)) ∧
      ∀ result, (run.outcome pageSize state.db).2 = .ok result →
        run.started.transactions.map
            (toCardanoAssetTransactionRow ⟨CARDANO_CHAIN, run.assetIdentifier⟩) <+:
          storedTransactions after.db ⟨CARDANO_CHAIN, run.assetIdentifier⟩ := by
  have synced := cardanoSync_synced positive reachable
  constructor
  · intro assetIdentifier
    rcases synced assetIdentifier with ⟨count, own⟩
    exact ⟨_, own.storedPrefix positive⟩
  · intro run after ⟨grown, serves, _, db⟩
    rcases synced run.assetIdentifier with ⟨count, own⟩
    rcases syncCardano_synced positive serves (own.grow grown) with ⟨stored, kept, complete, sound⟩
    refine ⟨sound, ?_⟩
    intro result finished
    rw [db]
    change _ <+: storedTransactions (syncCardanoAssetTransferWithAdapter pageSize
      run.assetIdentifier state.db run.attempts).1 _
    rw [kept.rows]
    apply List.IsPrefix.map
    rw [List.prefix_take_iff]
    exact ⟨serves.extends, complete result finished⟩

/-! Two pages of one asset, interrupted after the first. -/

def sampleListed (txHash : TxHash) (height : Nat) : RawCardanoAssetTransaction where
  tx_hash := txHash
  tx_index := 0
  block_height := height
  block_time := height

def sampleHistory : AssetHistory where
  transactions := [sampleListed ⟨"b1", by decide⟩ 1, sampleListed ⟨"b2", by decide⟩ 2]
  distinct := by decide

def sampleRun : CardanoSyncRun where
  assetIdentifier := "token"
  started := sampleHistory
  attempts := [{
    listed := some sampleHistory.transactions
    fetchTransactionUtxo := fun txHash => some ⟨txHash, [], [], List.nodup_nil⟩
    commits := true
    now := 0 }]

/-- Nothing stored, nothing listed. -/
def sampleStart : CardanoSyncSystemState where
  db := {
    tables := {
      assetTransactions := .empty
      utxos := .empty
      inputs := .empty
      inputAmounts := .empty
      outputs := .empty
      outputAmounts := .empty }
    syncStates := .empty }
  history := fun _ => ⟨[], List.nodup_nil⟩

/-- The state after `sampleRun`. -/
def sampleNext : CardanoSyncSystemState where
  db := (sampleRun.outcome 1 sampleStart.db).1
  history := fun _ => sampleHistory

theorem sampleNext_reachable :
    (cardanoSync 1 fun _ => True).Reachable (fun _ _ => True) sampleNext := by
  have nothing : (cardanoSync 1 fun _ => True).initial sampleStart := by
    refine ⟨⟨?_, ?_, ?_, ?_, ?_, ?_⟩, ?_⟩
    case refine_7 =>
      intro assetIdentifier
      exact ⟨rfl, rfl⟩
    all_goals
      intro row member
      cases member
  have stepped : (cardanoSync 1 fun _ => True).step sampleStart sampleRun sampleNext := by
    refine ⟨List.nil_prefix, ?_, ?_, rfl⟩
    · exact .listed (List.prefix_refl _) rfl (fun _ _ _ => trivial) (.done sampleHistory)
    · intro other _
      exact List.nil_prefix
  exact .next (.start nothing) trivial stepped

theorem cardanoSync_storesFirst_sample : 0 < 1 ∧
    (∃ stored, StoredPrefix 1 (fun _ => True) ⟨CARDANO_CHAIN, "token"⟩
      sampleHistory.transactions sampleNext.db stored) ∧
    (storedTransactions sampleNext.db ⟨CARDANO_CHAIN, "token"⟩).length = 1 :=
  ⟨Nat.one_pos, (cardanoSync_storesFirst Nat.one_pos sampleNext_reachable).1 "token",
    by decide +kernel⟩

end Runs

end Reputo.OnchainData
