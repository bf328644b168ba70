import Mathlib.Data.List.Nodup
import Reputo.OnchainData.CardanoSync

/-!
# Whole write sets in the UTXO tables

The UTXO tables are filled by inserting write sets and ignoring rows whose key
is taken.  They always hold, for every transaction they know, all rows of one
answer of the provider.
-/

namespace Reputo.OnchainData

open Reputo.Library

universe u v w

/-! ## Inserting children of new parents -/

/-- Children of a parent that the table does not know yet are all inserted, when
the parents of a batch differ and children of one parent have different keys. -/
theorem mem_insertAllOrIgnore_children {ρ : Type u} {κ : Type v} {α : Type w} {π : Type u}
    [DecidableEq κ] {key : ρ → κ} (table : Table ρ key) (parentOfKey : κ → π) (parent : α → π)
    (children : α → List ρ)
    (parents : ∀ item, ∀ row ∈ children item, parentOfKey (key row) = parent item)
    (keys_nodup : ∀ item, ((children item).map key).Nodup)
    {items : List α} (distinct : ∀ left ∈ items, ∀ right ∈ items,
      parent left = parent right → left = right)
    {item : α} (member : item ∈ items)
    (fresh : ∀ row ∈ table, parentOfKey (key row) ≠ parent item)
    {row : ρ} (child : row ∈ children item) :
    row ∈ table.insertAllOrIgnore (items.flatMap children) := by
  apply Table.mem_insertAllOrIgnore_of_fresh (List.mem_flatMap.mpr ⟨item, member, child⟩)
  · intro taken
    rcases List.mem_map.mp taken with ⟨stored, storedMember, same⟩
    apply fresh stored storedMember
    rw [same]
    exact parents item row child
  · intro other otherMember same
    rcases List.mem_flatMap.mp otherMember with ⟨source, sourceMember, otherChild⟩
    have sameItem : source = item := by
      apply distinct source sourceMember item member
      rw [← parents source other otherChild, same, parents item row child]
    subst sameItem
    exact List.inj_on_of_nodup_map (keys_nodup source) otherChild child same

/-! ## Rows of one write set -/

/-- Chain and hash of the transaction a row belongs to. -/
abbrev TxKey := String × TxHash

section WriteSet

variable (chain : String) (txHash : TxHash) (transactionUtxo : RawCardanoTransactionUtxo)

theorem amountKeys_nodup {ε : Type u} (entries : List ε) (index : ε → Nat)
    (amounts : ε → List CardanoAmount) (distinct : (entries.map index).Nodup) :
    (entries.flatMap fun entry => (amounts entry).zipIdx.map fun amount =>
      ((chain, txHash, index entry, amount.2) : String × TxHash × Nat × Nat)).Nodup := by
  rw [List.nodup_flatMap]
  constructor
  · intro entry _
    apply List.Nodup.of_map fun key : String × TxHash × Nat × Nat => key.2.2.2
    rw [List.map_map]
    exact (List.zipIdx_map_snd 0 (amounts entry)).symm ▸ List.nodup_range'
  · rw [List.Nodup, List.pairwise_map] at distinct
    refine distinct.imp ?_
    intro left right different key leftMember rightMember
    rcases List.mem_map.mp leftMember with ⟨_, _, leftKey⟩
    rcases List.mem_map.mp rightMember with ⟨_, _, rightKey⟩
    rw [← rightKey] at leftKey
    simp only [Prod.mk.injEq, true_and] at leftKey
    exact different leftKey.1

theorem inputs_keys_nodup :
    ((utxoWriteSet chain txHash transactionUtxo).inputs.map fun row =>
      (row.chain, row.tx_hash, row.input_index)).Nodup := by
  apply List.Nodup.of_map fun key : String × TxHash × Nat => key.2.2
  simp only [utxoWriteSet, List.map_map]
  exact (List.zipIdx_map_snd 0 transactionUtxo.inputs).symm ▸ List.nodup_range'

theorem inputAmounts_keys_nodup :
    ((utxoWriteSet chain txHash transactionUtxo).inputAmounts.map fun row =>
      (row.chain, row.tx_hash, row.input_index, row.amount_index)).Nodup := by
  have distinct : (transactionUtxo.inputs.zipIdx.map Prod.snd).Nodup :=
    (List.zipIdx_map_snd 0 transactionUtxo.inputs).symm ▸ List.nodup_range'
  have keys := amountKeys_nodup chain txHash transactionUtxo.inputs.zipIdx Prod.snd
    (fun entry => entry.1.amount) distinct
  simpa [utxoWriteSet, List.map_flatMap, Function.comp_def] using keys

theorem outputs_keys_nodup :
    ((utxoWriteSet chain txHash transactionUtxo).outputs.map fun row =>
      (row.chain, row.tx_hash, row.output_index)).Nodup := by
  apply List.Nodup.of_map fun key : String × TxHash × Nat => key.2.2
  simp only [utxoWriteSet, List.map_map]
  exact transactionUtxo.outputs_distinct

theorem outputAmounts_keys_nodup :
    ((utxoWriteSet chain txHash transactionUtxo).outputAmounts.map fun row =>
      (row.chain, row.tx_hash, row.output_index, row.amount_index)).Nodup := by
  have keys := amountKeys_nodup chain txHash transactionUtxo.outputs (·.output_index)
    (fun entry => entry.amount) transactionUtxo.outputs_distinct
  simpa [utxoWriteSet, List.map_flatMap, Function.comp_def] using keys

end WriteSet

/-! ## The tables as a union of write sets -/

/-- All rows of a write set are in the tables. -/
structure HasWriteSet (tables : CardanoTables) (writeSet : CardanoTransactionUtxoWriteSet) :
    Prop where
  transaction : writeSet.transaction ∈ tables.utxos
  inputs : ∀ row ∈ writeSet.inputs, row ∈ tables.inputs
  inputAmounts : ∀ row ∈ writeSet.inputAmounts, row ∈ tables.inputAmounts
  outputs : ∀ row ∈ writeSet.outputs, row ∈ tables.outputs
  outputAmounts : ∀ row ∈ writeSet.outputAmounts, row ∈ tables.outputAmounts

/-- The tables know a transaction. -/
def KnowsTx (tables : CardanoTables) (key : TxKey) : Prop :=
  ∃ row ∈ tables.utxos, (row.chain, row.tx_hash) = key

/-- Every known transaction has all rows of an answer for it, and every other
row belongs to a known transaction, as the foreign keys demand. -/
structure UtxosWhole (answers : RawCardanoTransactionUtxo → Prop) (tables : CardanoTables) :
    Prop where
  whole : ∀ row ∈ tables.utxos,
    HasWriteSet tables (utxoWriteSet row.chain row.tx_hash row.raw_json)
  answered : ∀ row ∈ tables.utxos, row.raw_json.hash = row.tx_hash ∧ answers row.raw_json
  inputs : ∀ row ∈ tables.inputs, KnowsTx tables (row.chain, row.tx_hash)
  inputAmounts : ∀ row ∈ tables.inputAmounts, KnowsTx tables (row.chain, row.tx_hash)
  outputs : ∀ row ∈ tables.outputs, KnowsTx tables (row.chain, row.tx_hash)
  outputAmounts : ∀ row ∈ tables.outputAmounts, KnowsTx tables (row.chain, row.tx_hash)

/-- The asset transactions are another table. -/
theorem UtxosWhole.withAssetTransactions {answers : RawCardanoTransactionUtxo → Prop}
    {tables : CardanoTables} (whole : UtxosWhole answers tables)
    (assetTransactions : Table CardanoAssetTransactionRow
      fun row => (row.chain, row.asset_identifier, row.tx_hash)) :
    UtxosWhole answers { tables with assetTransactions } where
  whole row member :=
    let stored := whole.whole row member
    ⟨stored.transaction, stored.inputs, stored.inputAmounts, stored.outputs, stored.outputAmounts⟩
  answered := whole.answered
  inputs := whole.inputs
  inputAmounts := whole.inputAmounts
  outputs := whole.outputs
  outputAmounts := whole.outputAmounts

/-- The write set of an answer. -/
def answerWriteSet (chain : String) (transactionUtxo : RawCardanoTransactionUtxo) :
    CardanoTransactionUtxoWriteSet :=
  utxoWriteSet chain transactionUtxo.hash transactionUtxo

section Parents

variable {chain : String} {transactionUtxo : RawCardanoTransactionUtxo}

theorem inputs_parent : ∀ row ∈ (answerWriteSet chain transactionUtxo).inputs,
    ((row.chain, row.tx_hash) : TxKey) = (chain, transactionUtxo.hash) := by
  intro row member
  rcases List.mem_map.mp member with ⟨_, _, built⟩
  rw [← built]

theorem inputAmounts_parent : ∀ row ∈ (answerWriteSet chain transactionUtxo).inputAmounts,
    ((row.chain, row.tx_hash) : TxKey) = (chain, transactionUtxo.hash) := by
  intro row member
  rcases List.mem_flatMap.mp member with ⟨_, _, amountMember⟩
  rcases List.mem_map.mp amountMember with ⟨_, _, built⟩
  rw [← built]

theorem outputs_parent : ∀ row ∈ (answerWriteSet chain transactionUtxo).outputs,
    ((row.chain, row.tx_hash) : TxKey) = (chain, transactionUtxo.hash) := by
  intro row member
  rcases List.mem_map.mp member with ⟨_, _, built⟩
  rw [← built]

theorem outputAmounts_parent : ∀ row ∈ (answerWriteSet chain transactionUtxo).outputAmounts,
    ((row.chain, row.tx_hash) : TxKey) = (chain, transactionUtxo.hash) := by
  intro row member
  rcases List.mem_flatMap.mp member with ⟨_, _, amountMember⟩
  rcases List.mem_map.mp amountMember with ⟨_, _, built⟩
  rw [← built]

end Parents

/-- The tables after the write sets of several answers were inserted. -/
def insertAnswers (tables : CardanoTables) (chain : String)
    (transactionUtxos : List RawCardanoTransactionUtxo) : CardanoTables :=
  (insertCardanoTransactionUtxos tables (transactionUtxos.map (answerWriteSet chain))).1

section Insert

variable {answers : RawCardanoTransactionUtxo → Prop} {tables : CardanoTables}
variable (chain : String) (transactionUtxos : List RawCardanoTransactionUtxo)

/-- Tables that only grow keep the write sets they have. -/
theorem HasWriteSet.insert {writeSet : CardanoTransactionUtxoWriteSet}
    (stored : HasWriteSet tables writeSet) :
    HasWriteSet (insertAnswers tables chain transactionUtxos) writeSet where
  transaction := Table.subset_insertAllOrIgnore _ _ stored.transaction
  inputs row member := Table.subset_insertAllOrIgnore _ _ (stored.inputs row member)
  inputAmounts row member := Table.subset_insertAllOrIgnore _ _ (stored.inputAmounts row member)
  outputs row member := Table.subset_insertAllOrIgnore _ _ (stored.outputs row member)
  outputAmounts row member := Table.subset_insertAllOrIgnore _ _ (stored.outputAmounts row member)

theorem KnowsTx.insert {key : TxKey} (known : KnowsTx tables key) :
    KnowsTx (insertAnswers tables chain transactionUtxos) key := by
  rcases known with ⟨row, member, same⟩
  exact ⟨row, Table.subset_insertAllOrIgnore _ _ member, same⟩

variable {transactionUtxos}

/-- Every answered transaction is known afterwards. -/
theorem knowsTx_insertAnswers {transactionUtxo : RawCardanoTransactionUtxo}
    (member : transactionUtxo ∈ transactionUtxos) :
    KnowsTx (insertAnswers tables chain transactionUtxos) (chain, transactionUtxo.hash) := by
  have listed : (⟨chain, transactionUtxo.hash, transactionUtxo⟩ : CardanoTransactionUtxoRow) ∈
      (transactionUtxos.map (answerWriteSet chain)).map (·.transaction) := by
    rw [List.map_map]
    exact List.mem_map.mpr ⟨transactionUtxo, member, rfl⟩
  have key := Table.key_mem_insertAllOrIgnore tables.utxos listed
  rcases List.mem_map.mp key with ⟨row, stored, same⟩
  exact ⟨row, stored, same⟩

/-- A transaction that the tables did not know gets all rows of its answer. -/
theorem hasWriteSet_of_unknown (whole : UtxosWhole answers tables)
    (distinct : (transactionUtxos.map (·.hash)).Nodup)
    {transactionUtxo : RawCardanoTransactionUtxo} (member : transactionUtxo ∈ transactionUtxos)
    (unknown : ¬ KnowsTx tables (chain, transactionUtxo.hash)) :
    HasWriteSet (insertAnswers tables chain transactionUtxos)
      (answerWriteSet chain transactionUtxo) := by
  have hashes : ∀ left ∈ transactionUtxos, ∀ right ∈ transactionUtxos,
      ((chain, left.hash) : TxKey) = (chain, right.hash) → left = right := by
    intro left leftMember right rightMember same
    exact List.inj_on_of_nodup_map distinct leftMember rightMember (Prod.mk.inj same).2
  refine ⟨?_, ?_, ?_, ?_, ?_⟩
  · have listed : (answerWriteSet chain transactionUtxo).transaction ∈
        (transactionUtxos.map (answerWriteSet chain)).map (·.transaction) := by
      rw [List.map_map]
      exact List.mem_map.mpr ⟨transactionUtxo, member, rfl⟩
    apply Table.mem_insertAllOrIgnore_of_fresh listed
    · intro taken
      rcases List.mem_map.mp taken with ⟨row, stored, same⟩
      exact unknown ⟨row, stored, same⟩
    · intro other otherMember same
      rw [List.map_map] at otherMember
      rcases List.mem_map.mp otherMember with ⟨source, sourceMember, built⟩
      subst built
      rw [hashes source sourceMember transactionUtxo member same]
      rfl
  · intro row child
    simp only [insertAnswers, insertCardanoTransactionUtxos, List.flatMap_map]
    exact mem_insertAllOrIgnore_children tables.inputs (fun key : String × TxHash × Nat => (key.1, key.2.1))
      (fun utxo => (chain, utxo.hash)) (fun utxo => (answerWriteSet chain utxo).inputs)
      (fun _ => inputs_parent) (fun utxo => inputs_keys_nodup chain utxo.hash utxo) hashes member
      (fun stored storedMember same => unknown (same ▸ whole.inputs stored storedMember)) child
  · intro row child
    simp only [insertAnswers, insertCardanoTransactionUtxos, List.flatMap_map]
    exact mem_insertAllOrIgnore_children tables.inputAmounts (fun key : String × TxHash × Nat × Nat => (key.1, key.2.1))
      (fun utxo => (chain, utxo.hash)) (fun utxo => (answerWriteSet chain utxo).inputAmounts)
      (fun _ => inputAmounts_parent) (fun utxo => inputAmounts_keys_nodup chain utxo.hash utxo) hashes member
      (fun stored storedMember same => unknown (same ▸ whole.inputAmounts stored storedMember)) child
  · intro row child
    simp only [insertAnswers, insertCardanoTransactionUtxos, List.flatMap_map]
    exact mem_insertAllOrIgnore_children tables.outputs (fun key : String × TxHash × Nat => (key.1, key.2.1))
      (fun utxo => (chain, utxo.hash)) (fun utxo => (answerWriteSet chain utxo).outputs)
      (fun _ => outputs_parent) (fun utxo => outputs_keys_nodup chain utxo.hash utxo) hashes member
      (fun stored storedMember same => unknown (same ▸ whole.outputs stored storedMember)) child
  · intro row child
    simp only [insertAnswers, insertCardanoTransactionUtxos, List.flatMap_map]
    exact mem_insertAllOrIgnore_children tables.outputAmounts (fun key : String × TxHash × Nat × Nat => (key.1, key.2.1))
      (fun utxo => (chain, utxo.hash)) (fun utxo => (answerWriteSet chain utxo).outputAmounts)
      (fun _ => outputAmounts_parent) (fun utxo => outputAmounts_keys_nodup chain utxo.hash utxo) hashes member
      (fun stored storedMember same => unknown (same ▸ whole.outputAmounts stored storedMember)) child

/-- Inserting answers for different transactions keeps the write sets whole. -/
theorem UtxosWhole.insert (whole : UtxosWhole answers tables)
    (distinct : (transactionUtxos.map (·.hash)).Nodup)
    (answered : ∀ transactionUtxo ∈ transactionUtxos, answers transactionUtxo) :
    UtxosWhole answers (insertAnswers tables chain transactionUtxos) := by
  -- A row of the result was there, or is an answer for a transaction not known before.
  have origin : ∀ row ∈ (insertAnswers tables chain transactionUtxos).utxos,
      row ∈ tables.utxos ∨ ∃ utxo ∈ transactionUtxos,
        row = ⟨chain, utxo.hash, utxo⟩ ∧ ¬ KnowsTx tables (chain, utxo.hash) := by
    intro row member
    rcases Table.mem_of_mem_insertAllOrIgnore member with old | new
    · exact Or.inl old
    · rw [List.map_map] at new
      rcases List.mem_map.mp new with ⟨utxo, utxoMember, built⟩
      by_cases known : KnowsTx tables (chain, utxo.hash)
      · rcases known with ⟨stored, storedMember, same⟩
        have kept : stored ∈ (insertAnswers tables chain transactionUtxos).utxos :=
          Table.subset_insertAllOrIgnore _ _ storedMember
        have equal : stored = row := Table.eq_of_key_eq kept member (by rw [same, ← built]; rfl)
        exact Or.inl (equal ▸ storedMember)
      · exact Or.inr ⟨utxo, utxoMember, built.symm, known⟩
  refine ⟨?_, ?_, ?_, ?_, ?_, ?_⟩
  · intro row member
    rcases origin row member with old | ⟨utxo, utxoMember, built, unknown⟩
    · exact (whole.whole row old).insert chain transactionUtxos
    · rw [built]
      exact hasWriteSet_of_unknown chain whole distinct utxoMember unknown
  · intro row member
    rcases origin row member with old | ⟨utxo, utxoMember, built, _⟩
    · exact whole.answered row old
    · rw [built]
      exact ⟨rfl, answered utxo utxoMember⟩
  · intro row member
    rcases Table.mem_of_mem_insertAllOrIgnore member with old | new
    · exact (whole.inputs row old).insert chain transactionUtxos
    · rw [List.flatMap_map] at new
      rcases List.mem_flatMap.mp new with ⟨utxo, utxoMember, child⟩
      rw [inputs_parent row child]
      exact knowsTx_insertAnswers chain utxoMember
  · intro row member
    rcases Table.mem_of_mem_insertAllOrIgnore member with old | new
    · exact (whole.inputAmounts row old).insert chain transactionUtxos
    · rw [List.flatMap_map] at new
      rcases List.mem_flatMap.mp new with ⟨utxo, utxoMember, child⟩
      rw [inputAmounts_parent row child]
      exact knowsTx_insertAnswers chain utxoMember
  · intro row member
    rcases Table.mem_of_mem_insertAllOrIgnore member with old | new
    · exact (whole.outputs row old).insert chain transactionUtxos
    · rw [List.flatMap_map] at new
      rcases List.mem_flatMap.mp new with ⟨utxo, utxoMember, child⟩
      rw [outputs_parent row child]
      exact knowsTx_insertAnswers chain utxoMember
  · intro row member
    rcases Table.mem_of_mem_insertAllOrIgnore member with old | new
    · exact (whole.outputAmounts row old).insert chain transactionUtxos
    · rw [List.flatMap_map] at new
      rcases List.mem_flatMap.mp new with ⟨utxo, utxoMember, child⟩
      rw [outputAmounts_parent row child]
      exact knowsTx_insertAnswers chain utxoMember

end Insert

end Reputo.OnchainData
