import Reputo.Library.Result
import Reputo.OnchainData.CardanoSync
import Reputo.OnchainData.ConcurrentResults

/-!
# Inputs and outputs of one page

The Cardano sync fetches the inputs and outputs of a page's transactions with
bounded concurrency.  Whatever the order of the provider's answers, a write set
is made of the answer to the request for its own transaction, and the page comes
to what fetching one transaction after the other does.
-/

namespace Reputo.OnchainData

open Reputo.Library

def CARDANO_UTXO_FETCH_CONCURRENCY : WithTop ℚ := 5

/-- The call for one transaction of a page, with the provider's reply to its request. -/
def fetchAssetTransactionUtxo (assetTransaction : RawCardanoAssetTransaction) (_ : Nat)
    (reply : Option RawCardanoTransactionUtxo) :
    Except CardanoSyncFailure (TxHash × RawCardanoTransactionUtxo) :=
  match reply with
  | some transactionUtxo => .ok (assetTransaction.tx_hash, transactionUtxo)
  | none => .error .providerFailed

/-- The requests for the items of a page. -/
def fetchTransactionUtxos (pageItems : List RawCardanoAssetTransaction) :
    ConcurrentMap RawCardanoAssetTransaction (Option RawCardanoTransactionUtxo)
      (TxHash × RawCardanoTransactionUtxo) CardanoSyncFailure :=
  mapWithConcurrency pageItems CARDANO_UTXO_FETCH_CONCURRENCY

/-- The write sets of a page; `map` keeps the holes of an array. -/
def transactionUtxoWriteSets (target : CardanoTransferTarget)
    (transactionUtxos : List (Option (TxHash × RawCardanoTransactionUtxo))) :
    Except CardanoSyncFailure (List (Option CardanoTransactionUtxoWriteSet)) :=
  transactionUtxos.mapM fun entry =>
    match entry with
    | none => .ok none
    | some item => (toCardanoTransactionUtxoWriteSet target.chain item.1 item.2).map some

/-! ## One page -/

/-- Entry by entry, a write set is that of an answer to the request for its transaction. -/
def BelongTogether (target : CardanoTransferTarget)
    (pageItems : List RawCardanoAssetTransaction)
    (replies : List (Nat × Option RawCardanoTransactionUtxo))
    (writeSets : List (Option CardanoTransactionUtxoWriteSet)) : Prop :=
  List.Forall₂ (fun call writeSet => ∃ transactionUtxo, (call.2, some transactionUtxo) ∈ replies ∧
    transactionUtxo.hash = call.1.tx_hash ∧
    writeSet = some (utxoWriteSet target.chain call.1.tx_hash transactionUtxo))
    pageItems.zipIdx writeSets

theorem belongTogether_of_paired {target : CardanoTransferTarget}
    {pageItems : List RawCardanoAssetTransaction}
    {replies : List (Nat × Option RawCardanoTransactionUtxo)}
    {transactionUtxos : List (Option (TxHash × RawCardanoTransactionUtxo))}
    {writeSets : List (Option CardanoTransactionUtxoWriteSet)}
    (paired : Paired pageItems fetchAssetTransactionUtxo replies transactionUtxos)
    (converted : transactionUtxoWriteSets target transactionUtxos = .ok writeSets) :
    BelongTogether target pageItems replies writeSets := by
  rw [transactionUtxoWriteSets, Result.mapM_eq_ok_iff] at converted
  rw [Paired] at paired
  rw [BelongTogether]
  generalize pageItems.zipIdx = calls at paired ⊢
  induction paired generalizing writeSets with
  | nil =>
      rw [List.forall₂_nil_left_iff.mp converted]
      exact .nil
  | @cons call entry calls entries own _ ih =>
      rcases List.forall₂_cons_left_iff.mp converted with ⟨writeSet, others, head, tail, rfl⟩
      refine .cons ?_ (ih tail)
      rcases own with ⟨reply, item, replied, answered, rfl⟩
      cases reply with
      | none => cases answered
      | some transactionUtxo =>
          cases answered
          rcases Result.map_eq_ok.mp head with ⟨made, checked, rfl⟩
          rw [toCardanoTransactionUtxoWriteSet] at checked
          split at checked
          case isTrue => cases checked
          case isFalse same =>
              cases checked
              exact ⟨transactionUtxo, replied, (not_not.mp same).symm, rfl⟩

/-! ## The page as one request after the other -/

/-- The provider's replies are those of an attempt. -/
def RepliesFrom (attempt : PageAttempt) (pageItems : List RawCardanoAssetTransaction)
    (replies : List (Nat × Option RawCardanoTransactionUtxo)) : Prop :=
  ∀ index reply item, (index, reply) ∈ replies → pageItems[index]? = some item →
    reply = attempt.fetchTransactionUtxo item.tx_hash

/-- The call for an item with the attempt's reply. -/
def attemptUtxo (attempt : PageAttempt) (item : RawCardanoAssetTransaction) :
    Except CardanoSyncFailure (TxHash × RawCardanoTransactionUtxo) :=
  fetchAssetTransactionUtxo item 0 (attempt.fetchTransactionUtxo item.tx_hash)

theorem fetchWriteSets_eq (target : CardanoTransferTarget) (attempt : PageAttempt)
    (pageItems : List RawCardanoAssetTransaction) :
    fetchWriteSets target attempt pageItems =
      pageItems.mapM (attemptUtxo attempt) >>= List.mapM fun item =>
        toCardanoTransactionUtxoWriteSet target.chain item.1 item.2 :=
  rfl

theorem transactionUtxoWriteSets_map_some (target : CardanoTransferTarget)
    (transactionUtxos : List (TxHash × RawCardanoTransactionUtxo)) :
    transactionUtxoWriteSets target (transactionUtxos.map some) =
      (transactionUtxos.mapM fun item =>
        toCardanoTransactionUtxoWriteSet target.chain item.1 item.2).map (List.map some) := by
  rw [transactionUtxoWriteSets, List.mapM_map]
  exact Result.mapM_map_results some transactionUtxos

/-- Results that pair with the items are those of the attempt, in the order of the items. -/
theorem mapM_of_paired {attempt : PageAttempt} {pageItems : List RawCardanoAssetTransaction}
    {replies : List (Nat × Option RawCardanoTransactionUtxo)}
    {results : List (Option (TxHash × RawCardanoTransactionUtxo))}
    (replied : RepliesFrom attempt pageItems replies)
    (paired : Paired pageItems fetchAssetTransactionUtxo replies results) :
    ∃ transactionUtxos, pageItems.mapM (attemptUtxo attempt) = .ok transactionUtxos ∧
      results = transactionUtxos.map some := by
  have own : ∀ call ∈ pageItems.zipIdx, pageItems[call.2]? = some call.1 :=
    fun call member => List.mem_zipIdx_iff_getElem?.mp member
  rw [Paired] at paired
  rw [← List.zipIdx_map_fst 0 pageItems]
  generalize pageItems.zipIdx = calls at paired own ⊢
  induction paired with
  | nil => exact ⟨[], rfl, rfl⟩
  | @cons call entry calls entries first _ ih =>
      rcases ih fun other member => own other (List.mem_cons_of_mem _ member) with
        ⟨others, fetched, rfl⟩
      rcases first with ⟨reply, item, member, answered, rfl⟩
      have located := own call List.mem_cons_self
      rw [replied call.2 reply call.1 member located] at answered
      have head : attemptUtxo attempt call.1 = .ok item := answered
      refine ⟨item :: others, ?_, rfl⟩
      rw [List.map_cons, List.mapM_cons, head, fetched]
      rfl

/-- A call only fails when its request does. -/
theorem eq_providerFailed {item : RawCardanoAssetTransaction} {index : Nat}
    {reply : Option RawCardanoTransactionUtxo} {failure : CardanoSyncFailure}
    (failed : fetchAssetTransactionUtxo item index reply = .error failure) :
    reply = none ∧ failure = .providerFailed := by
  cases reply with
  | none =>
      cases failed
      exact ⟨rfl, rfl⟩
  | some transactionUtxo => cases failed

/-- In every run, a map with at least one worker calls `mapItem` for no index twice, has no more
calls in flight than allowed, and pairs results with items; a page pairs hashes with the inputs
and outputs of their transactions. -/
theorem mapWithConcurrency_pairs :
    (∀ {α ρ β ε : Type} (items : List α) (mapItem : α → Nat → ρ → Except ε β)
      (concurrency : WithTop ℚ) (events : List (WorkerEvent ρ)) (state : ConcurrentMap α ρ β ε),
      1 ≤ concurrency →
      (mapWithConcurrency items concurrency).run items mapItem events = some state →
      MapsConcurrently items mapItem concurrency events state) ∧
    ∀ (target : CardanoTransferTarget) (pageItems : List RawCardanoAssetTransaction)
      (events : List (WorkerEvent (Option RawCardanoTransactionUtxo)))
      (state : ConcurrentMap RawCardanoAssetTransaction (Option RawCardanoTransactionUtxo)
        (TxHash × RawCardanoTransactionUtxo) CardanoSyncFailure)
      (transactionUtxos : List (Option (TxHash × RawCardanoTransactionUtxo)))
      (writeSets : List (Option CardanoTransactionUtxoWriteSet)),
      (fetchTransactionUtxos pageItems).run pageItems fetchAssetTransactionUtxo events =
        some state →
      state.promise = some (.ok transactionUtxos) →
      transactionUtxoWriteSets target transactionUtxos = .ok writeSets →
      BelongTogether target pageItems state.replies writeSets := by
  constructor
  · intro α ρ β ε items mapItem concurrency events state atLeastOne run
    exact mapsConcurrently_of_run atLeastOne run
  · intro target pageItems events state transactionUtxos writeSets run resolved converted
    have paired := (mapsConcurrently_of_run (by decide) run).paired transactionUtxos resolved
    exact belongTogether_of_paired paired converted

/-- Answers as they come, with the value of an item added to them. -/
def addItem (item : Nat) (_ : Nat) (reply : Except String Nat) : Except String Nat :=
  reply.map (item + ·)

/-- Three items, two at a time; the second answer comes before the first. -/
def outOfOrder : List (WorkerEvent (Except String Nat)) :=
  [.settles 1 (.ok 2), .resumes 1, .settles 1 (.ok 3), .settles 0 (.ok 1), .resumes 1, .resumes 0]

theorem plain_b1 : ':' ∉ "b1".toList := by
  decide

theorem plain_b2 : ':' ∉ "b2".toList := by
  decide

/-- A page of two transactions. -/
def twoTransactions : List RawCardanoAssetTransaction :=
  [⟨⟨"b1", plain_b1⟩, 0, 1, 1⟩, ⟨⟨"b2", plain_b2⟩, 0, 2, 2⟩]

/-- The answer for a transaction without inputs and outputs. -/
def emptyUtxo (txHash : TxHash) : RawCardanoTransactionUtxo :=
  ⟨txHash, [], [], List.nodup_nil⟩

/-- The provider answers for the second transaction first. -/
def secondFirst : List (WorkerEvent (Option RawCardanoTransactionUtxo)) :=
  [.settles 1 (some (emptyUtxo ⟨"b2", plain_b2⟩)), .resumes 1,
    .settles 0 (some (emptyUtxo ⟨"b1", plain_b1⟩)), .resumes 0]

theorem outOfOrder_pairs :
    (∃ state, (mapWithConcurrency [10, 20, 30] (2 : WithTop ℚ)).run [10, 20, 30] addItem
        outOfOrder = some state ∧
      state.promise = some (.ok [some 11, some 22, some 33]) ∧
      MapsConcurrently [10, 20, 30] addItem (2 : WithTop ℚ) outOfOrder state) ∧
    ∃ state, (fetchTransactionUtxos twoTransactions).run twoTransactions
        fetchAssetTransactionUtxo secondFirst = some state ∧
      BelongTogether ⟨CARDANO_CHAIN, "token"⟩ twoTransactions state.replies
        (twoTransactions.map fun item =>
          some (utxoWriteSet CARDANO_CHAIN item.tx_hash (emptyUtxo item.tx_hash))) := by
  constructor
  · refine ⟨_, rfl, by decide, ?_⟩
    exact mapWithConcurrency_pairs.1 [10, 20, 30] addItem 2 outOfOrder _ (by decide) rfl
  · refine ⟨_, rfl, ?_⟩
    exact mapWithConcurrency_pairs.2 ⟨CARDANO_CHAIN, "token"⟩ twoTransactions secondFirst _ _ _
      rfl rfl rfl

/-- A provider that knows every transaction. -/
def emptyAttempt : PageAttempt where
  listed := some twoTransactions
  fetchTransactionUtxo := fun txHash => some (emptyUtxo txHash)
  commits := true
  now := 0

/-- One worker for two items, whose first call was rejected. -/
def afterRejection : ConcurrentMap Nat (Except String Nat) Nat String where
  nextIndex := 1
  results := [none, none]
  workers := [.rejected 0 "unavailable"]
  calls := [(10, 0)]
  replies := [(0, .error "unavailable")]
  promise := some (.error "unavailable")

/-- The call for the second item is never made. -/
theorem second_never_called :
    ¬ ∀ (items : List Nat) (concurrency : WithTop ℚ)
      (events : List (WorkerEvent (Except String Nat)))
      (state : ConcurrentMap Nat (Except String Nat) Nat String),
      1 ≤ concurrency →
      (mapWithConcurrency items concurrency).run items addItem events = some state →
      state.Ended → ∀ index < items.length, (state.calls.map Prod.snd).count index = 1 := by
  intro everyIndex
  have run : (mapWithConcurrency [10, 20] (1 : WithTop ℚ)).run [10, 20] addItem
      [.settles 0 (.error "unavailable"), .resumes 0] = some afterRejection := by
    decide +kernel
  have once := everyIndex [10, 20] 1 _ afterRejection (by decide) run (by decide) 1 (by decide)
  exact absurd once (by decide)

end Reputo.OnchainData
