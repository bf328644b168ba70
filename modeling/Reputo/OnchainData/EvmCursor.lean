import Reputo.OnchainData.EvmSync

/-!
# The resume point of the EVM sync

The sync state names the block from which the next run reads on, so everything
below it must be stored.  A run that flushes its pending pages names the block of
their last transfer, and of an empty last page the end of its window.  The latter
is right only if what the run has still to receive is stored already: whether
nothing is skipped turns on exactly that.
-/

namespace Reputo.OnchainData

open Reputo.Library

/-! ## What is stored -/

def StoredTransfer (db : EvmSyncDatabase) (target : EvmTransferTarget)
    (transfer : RawEvmAssetTransfer) : Prop :=
  toEvmAssetTransferRow target transfer ∈ db.transfers

/-- Exactly one row has the identifier of the transfer, and it is its row. -/
def StoredOnce (db : EvmSyncDatabase) (target : EvmTransferTarget)
    (transfer : RawEvmAssetTransfer) : Prop :=
  db.transfers.rows.filter (fun row => row.chain = target.chain &&
    row.asset_identifier = target.assetIdentifier && row.unique_id = transfer.uniqueId) =
    [toEvmAssetTransferRow target transfer]

instance (db : EvmSyncDatabase) (target : EvmTransferTarget) (transfer : RawEvmAssetTransfer) :
    Decidable (StoredOnce db target transfer) :=
  inferInstanceAs (Decidable (_ = _))

/-- The primary key allows for one row only. -/
theorem storedOnce_iff {db : EvmSyncDatabase} {target : EvmTransferTarget}
    {transfer : RawEvmAssetTransfer} :
    StoredOnce db target transfer ↔ StoredTransfer db target transfer := by
  constructor
  · intro once
    have member : toEvmAssetTransferRow target transfer ∈ db.transfers.rows.filter (fun row =>
        row.chain = target.chain && row.asset_identifier = target.assetIdentifier &&
          row.unique_id = transfer.uniqueId) := by
      rw [once]
      exact List.mem_singleton_self _
    exact List.mem_of_mem_filter member
  · intro stored
    have same : db.transfers.rows.filter (fun row => row.chain = target.chain &&
        row.asset_identifier = target.assetIdentifier && row.unique_id = transfer.uniqueId) =
        db.transfers.rows.filter (· = toEvmAssetTransferRow target transfer) := by
      apply List.filter_congr
      intro row member
      rw [Bool.eq_iff_iff]
      simp only [Bool.and_eq_true, decide_eq_true_eq]
      constructor
      · intro ⟨⟨chain, asset⟩, identifier⟩
        apply Table.eq_of_key_eq member stored
        rw [chain, asset, identifier]
        rfl
      · intro equal
        rw [equal]
        exact ⟨⟨rfl, rfl⟩, rfl⟩
    have distinct : db.transfers.rows.Nodup := db.transfers.keys_nodup.of_map _
    rw [StoredOnce, same, List.filter_eq, List.count_eq_one_of_mem distinct stored]
    rfl

/-- Every transfer below the block is stored. -/
def StoredBelow (db : EvmSyncDatabase) (chain : EvmChain) (target : EvmTransferTarget)
    (block : Nat) : Prop :=
  ∀ transfer ∈ chain.transfers, blockNumber transfer.blockNum < block →
    StoredTransfer db target transfer

/-- A run may read on from the block. -/
structure ResumePoint (db : EvmSyncDatabase) (chain : EvmChain) (target : EvmTransferTarget)
    (block : String) : Prop where
  valid : IsBlock block
  final : blockNumber block ≤ chain.finalized
  below : StoredBelow db chain target (blockNumber block)

/-- The window of a run consists of what it has flushed, what is pending, and
what the provider has still to send. -/
structure LoopSound (db : EvmSyncDatabase) (chain : EvmChain) (loop : EvmSyncLoop)
    (upcoming : List (List RawEvmAssetTransfer)) : Prop where
  resumed : ResumePoint db chain loop.target loop.fromBlock
  valid : IsBlock loop.toBlock
  final : blockNumber loop.toBlock ≤ chain.finalized
  pages : ∀ page ∈ loop.pendingPages, page = fetchTransferPage loop.toBlock page.items
  window : ∃ flushed, (∀ transfer ∈ flushed, StoredTransfer db loop.target transfer) ∧
    chain.window loop.fromBlock loop.toBlock =
      flushed ++ loop.pendingPages.flatMap (·.items) ++ upcoming.flatten

/-- Everything up to the end of the window is stored. -/
structure ResultSound (db : EvmSyncDatabase) (chain : EvmChain)
    (result : SyncEvmAssetTransferResult) : Prop where
  final : blockNumber result.toBlock ≤ chain.finalized
  complete : ∀ transfer ∈ chain.transfers,
    blockNumber transfer.blockNum ≤ blockNumber result.toBlock →
      StoredTransfer db ⟨result.chain, result.assetIdentifier⟩ transfer

def RunSound (db : EvmSyncDatabase) (chains : EvmTransferTarget → EvmChain) : EvmSyncRun → Prop
  | .started target fromBlock => ResumePoint db (chains target) target fromBlock
  | .paging loop upcoming | .flushing loop upcoming =>
      LoopSound db (chains loop.target) loop upcoming
  | .finished result => ResultSound db (chains ⟨result.chain, result.assetIdentifier⟩) result
  | .failed => True

/-- Every row is the row of a transfer on its chain. -/
def RowsSound (db : EvmSyncDatabase) (chains : EvmTransferTarget → EvmChain) : Prop :=
  ∀ row ∈ db.transfers, ∃ transfer ∈ (chains ⟨row.chain, row.asset_identifier⟩).transfers,
    row = toEvmAssetTransferRow ⟨row.chain, row.asset_identifier⟩ transfer

/-- The invariant of the database and all runs. -/
structure EvmSyncSound (state : EvmSyncState) : Prop where
  rows : RowsSound state.db state.chains
  synced : ∀ target syncState, findEvmAssetTransferSyncState state.db target = some syncState →
    ResumePoint state.db (state.chains target) target syncState.last_synced_block
  runs : ∀ run ∈ state.runs, RunSound state.db state.chains run

/-! ## Growth -/

section Growth

variable {db later : EvmSyncDatabase} {chain grown : EvmChain} {target : EvmTransferTarget}

theorem EvmChain.Extends.refl (chain : EvmChain) : chain.Extends chain :=
  ⟨le_rfl, [], (List.append_nil _).symm, fun _ member => absurd member List.not_mem_nil⟩

/-- A transfer up to the last finalized block was there before. -/
theorem EvmChain.Extends.mem (extends_ : grown.Extends chain) {transfer : RawEvmAssetTransfer}
    (member : transfer ∈ grown.transfers)
    (old : blockNumber transfer.blockNum ≤ chain.finalized) : transfer ∈ chain.transfers := by
  rcases extends_.2 with ⟨added, transfers, new⟩
  rw [transfers] at member
  rcases List.mem_append.mp member with kept | fresh
  · exact kept
  · exact absurd (new transfer fresh) (Nat.not_lt.mpr old)

theorem EvmChain.Extends.subset (extends_ : grown.Extends chain) :
    ∀ transfer ∈ chain.transfers, transfer ∈ grown.transfers := by
  rcases extends_.2 with ⟨added, transfers, _⟩
  rw [transfers]
  exact fun transfer member => List.mem_append_left _ member

/-- The window up to a finalized block does not change. -/
theorem EvmChain.Extends.window (extends_ : grown.Extends chain) (fromBlock : String)
    {toBlock : String} (final : blockNumber toBlock ≤ chain.finalized) :
    grown.window fromBlock toBlock = chain.window fromBlock toBlock := by
  rcases extends_.2 with ⟨added, transfers, new⟩
  have none : added.filter (fun transfer =>
      decide (blockNumber fromBlock ≤ blockNumber transfer.blockNum) &&
        decide (blockNumber transfer.blockNum ≤ blockNumber toBlock)) = [] := by
    apply List.filter_eq_nil_iff.mpr
    intro transfer member
    have late := new transfer member
    simp only [Bool.and_eq_true, decide_eq_true_eq, not_and]
    intro _
    omega
  rw [EvmChain.window, transfers, List.filter_append, none, List.append_nil, EvmChain.window]

variable (rows : ∀ row ∈ db.transfers, row ∈ later.transfers) (extends_ : grown.Extends chain)

include rows extends_

theorem StoredBelow.grow {block : Nat} (below : StoredBelow db chain target block)
    (final : block ≤ chain.finalized) : StoredBelow later grown target block := by
  intro transfer member earlier
  exact rows _ (below transfer (extends_.mem member (earlier.le.trans final)) earlier)

theorem ResumePoint.grow {block : String} (point : ResumePoint db chain target block) :
    ResumePoint later grown target block where
  valid := point.valid
  final := point.final.trans extends_.1
  below := point.below.grow rows extends_ point.final

theorem LoopSound.grow {loop : EvmSyncLoop} {upcoming : List (List RawEvmAssetTransfer)}
    (sound : LoopSound db chain loop upcoming) : LoopSound later grown loop upcoming where
  resumed := sound.resumed.grow rows extends_
  valid := sound.valid
  final := sound.final.trans extends_.1
  pages := sound.pages
  window := by
    rcases sound.window with ⟨flushed, stored, window⟩
    rw [extends_.window _ sound.final]
    exact ⟨flushed, fun transfer member => rows _ (stored transfer member), window⟩

theorem ResultSound.grow {result : SyncEvmAssetTransferResult}
    (sound : ResultSound db chain result) : ResultSound later grown result where
  final := sound.final.trans extends_.1
  complete := by
    intro transfer member within
    exact rows _ (sound.complete transfer (extends_.mem member (within.trans sound.final)) within)

end Growth

theorem RunSound.grow {db later : EvmSyncDatabase} {chains grown : EvmTransferTarget → EvmChain}
    (rows : ∀ row ∈ db.transfers, row ∈ later.transfers)
    (extends_ : ∀ target, (grown target).Extends (chains target)) {run : EvmSyncRun}
    (sound : RunSound db chains run) : RunSound later grown run := by
  cases run with
  | started target fromBlock => exact ResumePoint.grow rows (extends_ _) sound
  | paging loop upcoming => exact LoopSound.grow rows (extends_ _) sound
  | flushing loop upcoming => exact LoopSound.grow rows (extends_ _) sound
  | finished result => exact ResultSound.grow rows (extends_ _) sound
  | failed => trivial

/-! ## Steps without a write -/

section Steps

variable {db : EvmSyncDatabase} {chain : EvmChain} {chains : EvmTransferTarget → EvmChain}
variable {target : EvmTransferTarget} {loop : EvmSyncLoop}
variable {upcoming : List (List RawEvmAssetTransfer)}

theorem mem_window {fromBlock toBlock : String} {transfer : RawEvmAssetTransfer} :
    transfer ∈ chain.window fromBlock toBlock ↔ transfer ∈ chain.transfers ∧
      blockNumber fromBlock ≤ blockNumber transfer.blockNum ∧
      blockNumber transfer.blockNum ≤ blockNumber toBlock := by
  rw [EvmChain.window, List.mem_filter, Bool.and_eq_true, decide_eq_true_eq, decide_eq_true_eq]

theorem startRun_sound {state : EvmSyncState} (sound : EvmSyncSound state)
    (target : EvmTransferTarget) : RunSound state.db state.chains (startRun state.db target) := by
  cases found : findEvmAssetTransferSyncState state.db target with
  | some syncState =>
      simp only [startRun, found, Option.map_some, Option.getD_some]
      exact sound.synced target syncState found
  | none =>
      have zero : blockNumber "0x0" = 0 := by decide +kernel
      simp only [startRun, found, Option.map_none, Option.getD_none]
      refine ⟨⟨0, by decide +kernel⟩, ?_, ?_⟩
      · rw [zero]
        exact Nat.zero_le _
      · intro transfer _ below
        rw [zero] at below
        exact absurd below (Nat.not_lt_zero _)

/-- Below the window everything is stored. -/
theorem LoopSound.stored_or_window (sound : LoopSound db chain loop upcoming)
    {transfer : RawEvmAssetTransfer} (member : transfer ∈ chain.transfers)
    (within : blockNumber transfer.blockNum ≤ blockNumber loop.toBlock) :
    StoredTransfer db loop.target transfer ∨
      transfer ∈ chain.window loop.fromBlock loop.toBlock := by
  cases Nat.lt_or_ge (blockNumber transfer.blockNum) (blockNumber loop.fromBlock) with
  | inl below => exact Or.inl (sound.resumed.below transfer member below)
  | inr above => exact Or.inr (mem_window.mpr ⟨member, above, within⟩)

theorem receiveFinalizedBlock_sound {fromBlock toBlock : String}
    (point : ResumePoint db (chains target) target fromBlock) (valid : IsBlock toBlock)
    (final : blockNumber toBlock ≤ (chains target).finalized)
    (pages : upcoming.flatten = (chains target).window fromBlock toBlock) :
    RunSound db chains (receiveFinalizedBlock target fromBlock toBlock upcoming) := by
  rw [receiveFinalizedBlock_eq point.valid valid]
  split
  · rename_i passed
    refine ⟨final, ?_⟩
    intro transfer member within
    exact point.below transfer member (within.trans_lt passed)
  · refine ⟨point, valid, final, ?_, [], ?_, ?_⟩
    · intro page member
      cases member
    · intro transfer member
      cases member
    · rw [pages]
      rfl

theorem receivePage_sound (sound : LoopSound db (chains loop.target) loop upcoming) :
    RunSound db chains (receivePage loop upcoming) := by
  cases upcoming with
  | nil =>
      rw [receivePage]
      split
      · exact sound
      · rename_i nothing
        have empty : loop.pendingPages = [] := List.length_eq_zero_iff.mp (by omega)
        refine ⟨sound.final, ?_⟩
        intro transfer member within
        rcases sound.window with ⟨flushed, stored, window⟩
        rcases sound.stored_or_window member within with before | inside
        · exact before
        · rw [window, empty] at inside
          exact stored transfer (by simpa using inside)
  | cons transfers upcoming =>
      have received : LoopSound db (chains loop.target) { loop with
          pageCount := loop.pageCount + 1
          pendingPages := loop.pendingPages ++ [fetchTransferPage loop.toBlock transfers] }
          upcoming := by
        refine ⟨sound.resumed, sound.valid, sound.final, ?_, ?_⟩
        · intro page member
          rcases List.mem_append.mp member with old | new
          · exact sound.pages page old
          · rw [List.mem_singleton.mp new]
            rfl
        · rcases sound.window with ⟨flushed, stored, window⟩
          refine ⟨flushed, stored, window.trans ?_⟩
          simp [fetchTransferPage]
      rw [receivePage]
      split
      · exact received
      · exact received

end Steps

/-! ## Flushing -/

section Flush

variable {db : EvmSyncDatabase} {chains : EvmTransferTarget → EvmChain} {loop : EvmSyncLoop}
variable {upcoming : List (List RawEvmAssetTransfer)}

theorem flush_transfers (db : EvmSyncDatabase) (loop : EvmSyncLoop) (updatedAt : Int) :
    (flushPendingPages db loop updatedAt).1.transfers =
      db.transfers.insertAllOrIgnore (pendingRows loop) := by
  cases last : loop.pendingPages.getLast? with
  | none =>
      simp only [flushPendingPages, pendingRows, List.getLast?_eq_none_iff.mp last]
      rfl
  | some page => simp only [flushPendingPages, last, insertEvmAssetTransfers]

theorem mem_pendingRows {row : EvmAssetTransferRow} :
    row ∈ pendingRows loop ↔ ∃ transfer ∈ loop.pendingPages.flatMap (·.items),
      toEvmAssetTransferRow loop.target transfer = row := by
  rw [pendingRows, ← List.map_flatMap, List.mem_map]

/-- What is pending lies on the chain. -/
theorem LoopSound.mem_chain {chain : EvmChain} (sound : LoopSound db chain loop upcoming)
    {transfer : RawEvmAssetTransfer} (member : transfer ∈ loop.pendingPages.flatMap (·.items)) :
    transfer ∈ chain.transfers := by
  rcases sound.window with ⟨flushed, _, window⟩
  have inside : transfer ∈ chain.window loop.fromBlock loop.toBlock := by
    rw [window]
    exact List.mem_append_left _ (List.mem_append_right _ member)
  exact (mem_window.mp inside).1

theorem RowsSound.flush (rows : RowsSound db chains)
    (sound : LoopSound db (chains loop.target) loop upcoming) (updatedAt : Int) :
    RowsSound (flushPendingPages db loop updatedAt).1 chains := by
  intro row member
  rw [flush_transfers] at member
  rcases Table.mem_of_mem_insertAllOrIgnore member with old | new
  · exact rows row old
  · rcases mem_pendingRows.mp new with ⟨transfer, pending, built⟩
    rw [← built]
    exact ⟨transfer, sound.mem_chain pending, rfl⟩

/-- Transfers of one chain with the same identifier are the same. -/
theorem EvmChain.eq_of_uniqueId {chain : EvmChain} {left right : RawEvmAssetTransfer}
    (leftMember : left ∈ chain.transfers) (rightMember : right ∈ chain.transfers)
    (same : left.uniqueId = right.uniqueId) : left = right :=
  List.inj_on_of_nodup_map chain.distinct leftMember rightMember same

/-- What was pending is stored after the flush. -/
theorem storedTransfer_flush (rows : RowsSound db chains)
    (sound : LoopSound db (chains loop.target) loop upcoming) (updatedAt : Int)
    {transfer : RawEvmAssetTransfer} (member : transfer ∈ loop.pendingPages.flatMap (·.items)) :
    StoredTransfer (flushPendingPages db loop updatedAt).1 loop.target transfer := by
  have key := Table.key_mem_insertAllOrIgnore db.transfers
    (mem_pendingRows.mpr ⟨transfer, member, rfl⟩)
  rcases List.mem_map.mp key with ⟨row, stored, same⟩
  rw [← flush_transfers db loop updatedAt] at stored
  rcases rows.flush sound updatedAt row stored with ⟨source, sourceMember, built⟩
  simp only [Prod.mk.injEq] at same
  have target : (⟨row.chain, row.asset_identifier⟩ : EvmTransferTarget) = loop.target := by
    rw [same.1, same.2.1]
    rfl
  rw [target] at sourceMember built
  have equal : source = transfer := by
    apply EvmChain.eq_of_uniqueId sourceMember (sound.mem_chain member)
    have identifier := same.2.2
    rw [built] at identifier
    exact identifier
  rw [StoredTransfer, ← equal, ← built]
  exact stored

/-- The flush may name the end of the window only if the rest is stored. -/
def LastPageSafe (db : EvmSyncDatabase) (loop : EvmSyncLoop)
    (upcoming : List (List RawEvmAssetTransfer)) : Prop :=
  (loop.pendingPages.getLast?.map (·.items)) = some [] →
    ∀ transfer ∈ upcoming.flatten, blockNumber transfer.blockNum < blockNumber loop.toBlock →
      StoredTransfer db loop.target transfer

theorem flush_subset (db : EvmSyncDatabase) (loop : EvmSyncLoop) (updatedAt : Int) :
    ∀ row ∈ db.transfers, row ∈ (flushPendingPages db loop updatedAt).1.transfers := by
  rw [flush_transfers]
  exact fun row member => Table.subset_insertAllOrIgnore _ _ member

/-- The block that a safe flush names is one to resume from. -/
theorem resumePoint_flush (rows : RowsSound db chains)
    (sound : LoopSound db (chains loop.target) loop upcoming) (updatedAt : Int)
    {page : EvmAssetTransferPage} (last : loop.pendingPages.getLast? = some page)
    (safe : LastPageSafe db loop upcoming) :
    ResumePoint (flushPendingPages db loop updatedAt).1 (chains loop.target) loop.target
      page.lastBlock := by
  have built := sound.pages page (List.mem_of_getLast? last)
  rcases sound.window with ⟨flushed, stored, window⟩
  -- Only what the provider has still to send can be missing.
  have missing : ∀ transfer ∈ (chains loop.target).transfers,
      blockNumber transfer.blockNum ≤ blockNumber loop.toBlock →
      StoredTransfer (flushPendingPages db loop updatedAt).1 loop.target transfer ∨
        transfer ∈ upcoming.flatten := by
    intro transfer member within
    rcases sound.stored_or_window member within with before | inside
    · exact Or.inl (flush_subset db loop updatedAt _ before)
    · rw [window] at inside
      rcases List.mem_append.mp inside with received | later
      · rcases List.mem_append.mp received with old | pending
        · exact Or.inl (flush_subset db loop updatedAt _ (stored transfer old))
        · exact Or.inl (storedTransfer_flush rows sound updatedAt pending)
      · exact Or.inr later
  cases item : page.items.getLast? with
  | none =>
      have empty : page.items = [] := List.getLast?_eq_none_iff.mp item
      have block : page.lastBlock = loop.toBlock := by rw [built, empty]; rfl
      rw [block]
      refine ⟨sound.valid, sound.final, ?_⟩
      intro transfer member below
      rcases missing transfer member below.le with done | later
      · exact done
      · have safely := safe (by rw [last, Option.map_some, empty]) transfer later below
        exact flush_subset db loop updatedAt _ safely
  | some lastTransfer =>
      have block : page.lastBlock = lastTransfer.blockNum := by
        rw [built]
        simp [fetchTransferPage, item]
      have pending : lastTransfer ∈ loop.pendingPages.flatMap (·.items) :=
        List.mem_flatMap.mpr ⟨page, List.mem_of_getLast? last, List.mem_of_getLast? item⟩
      have onChain := sound.mem_chain pending
      have inWindow : lastTransfer ∈ (chains loop.target).window loop.fromBlock loop.toBlock := by
        rw [window]
        exact List.mem_append_left _ (List.mem_append_right _ pending)
      rw [block]
      refine ⟨((chains loop.target).blocks _ onChain).1,
        ((chains loop.target).blocks _ onChain).2, ?_⟩
      intro transfer member below
      rcases missing transfer member (below.le.trans (mem_window.mp inWindow).2.2)
        with done | later
      · exact done
      · -- What comes later does not lie below the last transfer received.
        have ascending := (chains loop.target).ascending.filter (fun transfer =>
          decide (blockNumber loop.fromBlock ≤ blockNumber transfer.blockNum) &&
            decide (blockNumber transfer.blockNum ≤ blockNumber loop.toBlock))
        rw [← EvmChain.window, window, List.pairwise_append] at ascending
        exact absurd below (Nat.not_lt.mpr
          (ascending.2.2 lastTransfer (List.mem_append_right _ pending) transfer later))

/-- After a flush the run goes on with nothing pending. -/
theorem loopSound_flush (rows : RowsSound db chains)
    (sound : LoopSound db (chains loop.target) loop upcoming) (updatedAt : Int) :
    RunSound (flushPendingPages db loop updatedAt).1 chains
      (.paging (flushPendingPages db loop updatedAt).2 upcoming) := by
  have grown := sound.grow (flush_subset db loop updatedAt) (EvmChain.Extends.refl _)
  cases last : loop.pendingPages.getLast? with
  | none =>
      have same : (flushPendingPages db loop updatedAt).2 = loop := by
        simp only [flushPendingPages, last]
      rw [same]
      exact grown
  | some page =>
      rcases sound.window with ⟨flushed, stored, window⟩
      have emptied : ∃ attemptedCount insertedCount ignoredCount,
          (flushPendingPages db loop updatedAt).2 = { loop with
            attemptedCount, insertedCount, ignoredCount, pendingPages := [] } := by
        simp only [flushPendingPages, last]
        exact ⟨_, _, _, rfl⟩
      rcases emptied with ⟨attemptedCount, insertedCount, ignoredCount, emptied⟩
      rw [emptied]
      refine ⟨grown.resumed, grown.valid, grown.final, ?_,
        flushed ++ loop.pendingPages.flatMap (·.items), ?_, ?_⟩
      · intro page member
        cases member
      · intro transfer member
        rcases List.mem_append.mp member with old | pending
        · exact flush_subset db loop updatedAt _ (stored transfer old)
        · exact storedTransfer_flush rows sound updatedAt pending
      · rw [window]
        simp

/-- A flush writes the sync state of its target only. -/
theorem find_flush (db : EvmSyncDatabase) (updatedAt : Int) {page : EvmAssetTransferPage}
    (last : loop.pendingPages.getLast? = some page) (target : EvmTransferTarget) :
    findEvmAssetTransferSyncState (flushPendingPages db loop updatedAt).1 target =
      if target = loop.target then
        some ⟨target.chain, target.assetIdentifier, page.lastBlock, updatedAt⟩
      else findEvmAssetTransferSyncState db target := by
  simp only [flushPendingPages, last, findEvmAssetTransferSyncState]
  split
  · rename_i same
    subst same
    exact Table.find?_upsert_self db.syncStates _
  · rename_i different
    apply Table.find?_upsert_of_ne
    intro same
    rw [Prod.mk.injEq] at same
    cases target
    exact different (EvmTransferTarget.mk.injEq .. ▸ same)

end Flush

/-! ## Any number of runs -/

/-- A flush that ends with an empty page has nothing left to receive below the
end of the window that is not stored already. -/
def safelyFlushed (state : EvmSyncState) : EvmSyncAction → Prop
  | .flush run _ => ∀ loop upcoming, state.runs[run]? = some (.flushing loop upcoming) →
      LastPageSafe state.db loop upcoming
  | _ => True

/-- Below each resume point, and up to the end of each finished window, every
transfer is stored exactly once. -/
structure NothingSkipped (state : EvmSyncState) : Prop where
  synced : ∀ target syncState, findEvmAssetTransferSyncState state.db target = some syncState →
    ∀ transfer ∈ (state.chains target).transfers,
      blockNumber transfer.blockNum < blockNumber syncState.last_synced_block →
        StoredOnce state.db target transfer
  finished : ∀ result, .finished result ∈ state.runs →
    ∀ transfer ∈ (state.chains ⟨result.chain, result.assetIdentifier⟩).transfers,
      blockNumber transfer.blockNum ≤ blockNumber result.toBlock →
        StoredOnce state.db ⟨result.chain, result.assetIdentifier⟩ transfer

theorem EvmSyncSound.nothingSkipped {state : EvmSyncState} (sound : EvmSyncSound state) :
    NothingSkipped state where
  synced target syncState found transfer member below :=
    storedOnce_iff.mpr ((sound.synced target syncState found).below transfer member below)
  finished _ member transfer onChain within :=
    storedOnce_iff.mpr ((sound.runs _ member).complete transfer onChain within)

section Runs

variable {state after : EvmSyncState}

/-- A run that takes a step without a write keeps the invariant. -/
theorem EvmSyncSound.setRun (sound : EvmSyncSound state) (index : Nat) {run : EvmSyncRun}
    (runSound : RunSound state.db state.chains run) :
    EvmSyncSound { state with runs := state.runs.set index run } where
  rows := sound.rows
  synced := sound.synced
  runs := by
    intro other member
    rcases List.mem_or_eq_of_mem_set member with kept | new
    · exact sound.runs other kept
    · exact new ▸ runSound

theorem EvmSyncSound.growChain (sound : EvmSyncSound state) {target : EvmTransferTarget}
    {chain : EvmChain} (extends_ : chain.Extends (state.chains target)) :
    EvmSyncSound { state with chains := Function.update state.chains target chain } := by
  have grown : ∀ other, (Function.update state.chains target chain other).Extends
      (state.chains other) := by
    intro other
    cases Decidable.em (other = target) with
    | inl same =>
        subst same
        rw [Function.update_self]
        exact extends_
    | inr different =>
        rw [Function.update_of_ne different]
        exact EvmChain.Extends.refl _
  refine ⟨?_, ?_, ?_⟩
  · intro row member
    rcases sound.rows row member with ⟨transfer, onChain, built⟩
    exact ⟨transfer, (grown _).subset transfer onChain, built⟩
  · intro other syncState found
    exact (sound.synced other syncState found).grow (fun _ member => member) (grown other)
  · intro run member
    exact (sound.runs run member).grow (fun _ stored => stored) grown

theorem EvmSyncSound.flush (sound : EvmSyncSound state) (index : Nat) {loop : EvmSyncLoop}
    {upcoming : List (List RawEvmAssetTransfer)}
    (waiting : state.runs[index]? = some (.flushing loop upcoming)) (updatedAt : Int)
    (safe : LastPageSafe state.db loop upcoming) :
    EvmSyncSound { state with
      db := (flushPendingPages state.db loop updatedAt).1
      runs := state.runs.set index
        (.paging (flushPendingPages state.db loop updatedAt).2 upcoming) } := by
  have loopSound : LoopSound state.db (state.chains loop.target) loop upcoming :=
    sound.runs _ (List.mem_of_getElem? waiting)
  refine ⟨sound.rows.flush loopSound updatedAt, ?_, ?_⟩
  · intro target syncState found
    cases last : loop.pendingPages.getLast? with
    | none =>
        simp only [flushPendingPages, last] at found ⊢
        exact sound.synced target syncState found
    | some page =>
        change findEvmAssetTransferSyncState (flushPendingPages state.db loop updatedAt).1 target =
          some syncState at found
        rw [find_flush state.db updatedAt last target] at found
        split at found
        · rename_i same
          cases found
          subst same
          exact resumePoint_flush sound.rows loopSound updatedAt last safe
        · exact (sound.synced target syncState found).grow
            (flush_subset state.db loop updatedAt) (EvmChain.Extends.refl _)
  · intro run member
    rcases List.mem_or_eq_of_mem_set member with kept | new
    · exact (sound.runs run kept).grow (flush_subset state.db loop updatedAt)
        fun _ => EvmChain.Extends.refl _
    · exact new ▸ loopSound_flush sound.rows loopSound updatedAt

/-- Every step keeps the invariant, a flush if it is safe. -/
theorem evmSync_kept {action : EvmSyncAction} (sound : EvmSyncSound state)
    (safe : safelyFlushed state action) (stepped : evmSync.step state action after) :
    EvmSyncSound after := by
  rcases stepped with ⟨admissible, performed⟩
  cases action with
  | grow target chain =>
      cases performed
      exact sound.growChain admissible
  | start target =>
      cases performed
      refine ⟨sound.rows, sound.synced, ?_⟩
      intro run member
      rcases List.mem_append.mp member with old | new
      · exact sound.runs run old
      · rw [List.mem_singleton.mp new]
        exact startRun_sound sound target
  | finalizedBlock index toBlock upcoming =>
      simp only [EvmSyncState.perform] at performed
      split at performed
      · rename_i target fromBlock waiting
        cases performed
        rcases admissible target fromBlock waiting with ⟨valid, final, pages⟩
        have point : ResumePoint state.db (state.chains target) target fromBlock :=
          sound.runs _ (List.mem_of_getElem? waiting)
        exact sound.setRun index (receiveFinalizedBlock_sound point valid final pages)
      · cases performed
  | page index =>
      simp only [EvmSyncState.perform] at performed
      split at performed
      · rename_i loop upcoming waiting
        cases performed
        exact sound.setRun index
          (receivePage_sound (sound.runs _ (List.mem_of_getElem? waiting)))
      · cases performed
  | flush index updatedAt =>
      simp only [EvmSyncState.perform] at performed
      split at performed
      · rename_i loop upcoming waiting
        cases performed
        exact sound.flush index waiting updatedAt (safe loop upcoming waiting)
      · cases performed
  | fail index =>
      simp only [EvmSyncState.perform] at performed
      split at performed
      iterate 3
        · cases performed
          exact sound.setRun index trivial
      · cases performed

theorem evmSync_sound (reachable : evmSync.Reachable safelyFlushed state) :
    EvmSyncSound state := by
  apply reachable.invariant
  · intro first ⟨db, runs⟩
    refine ⟨?_, ?_, ?_⟩
    · intro row member
      rw [db] at member
      cases member
    · intro target syncState found
      rw [db] at found
      cases found
    · intro run member
      rw [runs] at member
      cases member
  · intro before action next sound safe stepped
    exact evmSync_kept sound safe stepped

/-- What is not stored and not pending is not stored after the flush either. -/
theorem not_storedTransfer_flush {db : EvmSyncDatabase} {chain : EvmChain} {loop : EvmSyncLoop}
    {upcoming : List (List RawEvmAssetTransfer)} (sound : LoopSound db chain loop upcoming)
    (updatedAt : Int) {transfer : RawEvmAssetTransfer} (later : transfer ∈ upcoming.flatten)
    (missing : ¬ StoredTransfer db loop.target transfer) :
    ¬ StoredTransfer (flushPendingPages db loop updatedAt).1 loop.target transfer := by
  intro stored
  rw [StoredTransfer, flush_transfers] at stored
  rcases Table.mem_of_mem_insertAllOrIgnore stored with old | new
  · exact missing old
  · rcases mem_pendingRows.mp new with ⟨source, pending, built⟩
    rcases sound.window with ⟨flushed, _, window⟩
    have distinct : ((chain.window loop.fromBlock loop.toBlock).map (·.uniqueId)).Nodup :=
      chain.distinct.sublist (List.filter_sublist.map _)
    rw [window, List.map_append, List.nodup_append] at distinct
    exact distinct.2.2 source.uniqueId
      (List.mem_map_of_mem (List.mem_append_right _ pending)) transfer.uniqueId
      (List.mem_map_of_mem later) (congrArg EvmAssetTransferRow.unique_id built)

/-- A flush that is not safe skips a transfer. -/
theorem safelyFlushed_of_nothingSkipped {action : EvmSyncAction} (sound : EvmSyncSound state)
    (stepped : evmSync.step state action after) (nothing : NothingSkipped after) :
    safelyFlushed state action := by
  cases action with
  | flush index updatedAt =>
      intro loop upcoming waiting empty transfer later below
      have loopSound : LoopSound state.db (state.chains loop.target) loop upcoming :=
        sound.runs _ (List.mem_of_getElem? waiting)
      have performed := stepped.2
      simp only [EvmSyncState.perform, waiting] at performed
      cases performed
      cases last : loop.pendingPages.getLast? with
      | none =>
          rw [last] at empty
          cases empty
      | some page =>
          rw [last, Option.map_some, Option.some.injEq] at empty
          have block : page.lastBlock = loop.toBlock := by
            rw [loopSound.pages page (List.mem_of_getLast? last), empty]
            rfl
          have onChain : transfer ∈ (state.chains loop.target).transfers := by
            rcases loopSound.window with ⟨flushed, _, window⟩
            have inside : transfer ∈
                (state.chains loop.target).window loop.fromBlock loop.toBlock := by
              rw [window]
              exact List.mem_append_right _ later
            exact (mem_window.mp inside).1
          have found := find_flush state.db updatedAt last loop.target
          rw [if_pos rfl] at found
          have once := nothing.synced loop.target _ found transfer onChain (by rw [block]; exact below)
          by_contra missing
          exact not_storedTransfer_flush loopSound updatedAt later missing
            (storedOnce_iff.mp once)
  | _ => trivial

/-- Runs that flush safely skip nothing, and a step from there skips a transfer
exactly when it flushes unsafely. -/
theorem evmSync_nothingSkipped_iff (reachable : evmSync.Reachable safelyFlushed state) :
    NothingSkipped state ∧ ∀ action after, evmSync.step state action after →
      (NothingSkipped after ↔ safelyFlushed state action) := by
  have sound := evmSync_sound reachable
  refine ⟨sound.nothingSkipped, ?_⟩
  intro action after stepped
  constructor
  · exact safelyFlushed_of_nothingSkipped sound stepped
  · intro safe
    exact (evmSync_kept sound safe stepped).nothingSkipped

end Runs

/-! The fifth page of a run is empty and the sixth holds a transfer. -/

def sampleTarget : EvmTransferTarget := ⟨"ethereum", "0xt"⟩

def sampleTransferAt (blockNum : String) : RawEvmAssetTransfer where
  blockNum
  uniqueId := blockNum ++ ":log:0"
  hash := blockNum
  from_ := "0xs"
  to_ := some "0xw"
  value := some 1

def sampleChain : EvmChain where
  transfers := ["0x1", "0x2", "0x3", "0x4", "0x5"].map sampleTransferAt
  finalized := 6
  blocks := by
    intro transfer member
    rcases List.mem_map.mp member with ⟨block, listed, built⟩
    rw [← built]
    change IsBlock block ∧ blockNumber block ≤ 6
    simp only [List.mem_cons, List.not_mem_nil, or_false] at listed
    rcases listed with same | same | same | same | same <;> rw [same]
    · exact ⟨⟨1, by decide +kernel⟩, by decide +kernel⟩
    · exact ⟨⟨2, by decide +kernel⟩, by decide +kernel⟩
    · exact ⟨⟨3, by decide +kernel⟩, by decide +kernel⟩
    · exact ⟨⟨4, by decide +kernel⟩, by decide +kernel⟩
    · exact ⟨⟨5, by decide +kernel⟩, by decide +kernel⟩
  ascending := by decide +kernel
  distinct := by decide +kernel

def sampleEvmStart : EvmSyncState where
  db := ⟨.empty, .empty⟩
  chains := fun _ => sampleChain
  runs := []

/-- A run has received five pages, of which the last is empty. -/
def sampleReceived : EvmSyncState :=
  System.performAll EvmSyncState.perform sampleEvmStart [.start sampleTarget,
    .finalizedBlock 0 "0x6" [[sampleTransferAt "0x1"], [sampleTransferAt "0x2"],
      [sampleTransferAt "0x3"], [sampleTransferAt "0x4"], [], [sampleTransferAt "0x5"]],
    .page 0, .page 0, .page 0, .page 0, .page 0]

/-- It flushes them and fails; the next run finishes. -/
def sampleEnd : EvmSyncState :=
  System.performAll EvmSyncState.perform sampleReceived [.flush 0 0, .fail 0,
    .start sampleTarget, .finalizedBlock 1 "0x6" [[]], .page 1, .page 1, .flush 1 1, .page 1]

theorem sampleReceived_reachable : evmSync.Reachable safelyFlushed sampleReceived := by
  have start : evmSync.Reachable safelyFlushed sampleEvmStart := .start ⟨rfl, rfl⟩
  have free : True ∧ True := ⟨trivial, trivial⟩
  refine System.reachable_performAll start
    ⟨free, ⟨trivial, ?_⟩, free, free, free, free, free, trivial⟩
  intro target fromBlock waiting
  have known : EvmSyncRun.started sampleTarget "0x0" = .started target fromBlock :=
    Option.some.inj (Eq.trans (by decide +kernel) waiting)
  cases known
  exact ⟨⟨6, by decide +kernel⟩, by decide +kernel, by decide +kernel⟩

theorem evmSync_nothingSkipped_iff_sample : NothingSkipped sampleReceived :=
  (evmSync_nothingSkipped_iff sampleReceived_reachable).1

/-- A finished run leaves a transfer below its last block out. -/
theorem empty_page_skips_transfer :
    evmSync.Reachable (fun _ _ => True) sampleEnd ∧ ¬ NothingSkipped sampleEnd := by
  constructor
  · have received : evmSync.Reachable (fun _ _ => True) sampleReceived :=
      sampleReceived_reachable.mono fun _ _ _ => trivial
    have free : True ∧ True := ⟨trivial, trivial⟩
    refine System.reachable_performAll received
      ⟨free, free, free, ⟨trivial, ?_⟩, free, free, free, free, trivial⟩
    intro target fromBlock waiting
    have known : EvmSyncRun.started sampleTarget "0x6" = .started target fromBlock :=
      Option.some.inj (Eq.trans (by decide +kernel) waiting)
    cases known
    exact ⟨⟨6, by decide +kernel⟩, by decide +kernel, by decide +kernel⟩
  · intro nothing
    have once := nothing.finished ⟨"ethereum", "0xt", "0x6", "0x6", 1, 0, 0, 0⟩
      (by decide +kernel) (sampleTransferAt "0x5") (by decide +kernel) (by decide +kernel)
    exact absurd once (by decide +kernel)

end Reputo.OnchainData
