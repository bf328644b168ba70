import Mathlib.Algebra.Order.Ring.Rat
import Reputo.Library.JsText
import Reputo.Library.Query
import Reputo.Library.Result
import Reputo.Library.Table

/-!
# EVM tables and the transfer read repository

The rows that the EVM sync stores and the query that reads one page of the
transfers from or to the given addresses.  The block number is hexadecimal text,
which the query decodes to order by.  Timestamps are instants in milliseconds in
place of their ISO texts.
-/

namespace Reputo.OnchainData

open Reputo.Library

/-! ## Provider data and tables -/

structure EvmTransferTarget where
  chain : String
  assetIdentifier : String
  deriving DecidableEq, Repr

structure RawEvmAssetTransferContract where
  value : Option String := none
  address : Option String := none
  decimal : Option String := none
  deriving DecidableEq, Repr

structure RawEvmAssetTransferMetadata where
  blockTimestamp : Option Int := none
  deriving DecidableEq, Repr

/-- One transfer as the provider lists it. -/
structure RawEvmAssetTransfer where
  blockNum : String
  uniqueId : String
  hash : String
  from_ : String
  to_ : Option String
  value : Option Rat
  asset : Option String := none
  category : String := "erc20"
  rawContract : RawEvmAssetTransferContract := {}
  metadata : Option RawEvmAssetTransferMetadata := none
  deriving DecidableEq, Repr

structure EvmAssetTransferRow where
  chain : String
  asset_identifier : String
  block_num : String
  unique_id : String
  hash : String
  from_address : String
  to_address : Option String
  value : Option Rat
  asset : Option String
  category : String
  raw_contract : RawEvmAssetTransferContract
  metadata : Option RawEvmAssetTransferMetadata
  raw_json : RawEvmAssetTransfer
  deriving DecidableEq, Repr

/-- The transfers table with its primary key. -/
abbrev EvmAssetTransferTable :=
  Table EvmAssetTransferRow fun row => (row.chain, row.asset_identifier, row.unique_id)

def toEvmAssetTransferRow (target : EvmTransferTarget) (transfer : RawEvmAssetTransfer) :
    EvmAssetTransferRow where
  chain := target.chain
  asset_identifier := target.assetIdentifier
  block_num := transfer.blockNum
  unique_id := transfer.uniqueId
  hash := transfer.hash
  from_address := transfer.from_
  to_address := transfer.to_
  value := transfer.value
  asset := transfer.asset
  category := transfer.category
  raw_contract := transfer.rawContract
  metadata := transfer.metadata
  raw_json := transfer

/-! ## The transfers query -/

structure FindTransfersInput where
  chain : String
  assetIdentifier : String
  addresses : List String
  page : Nat
  limit : Nat
  fromTimestampUnix : Option Int
  toTimestampUnix : Option Int

/-- `ltrim(lower(block_num), '0x')`: drops every leading `0` and `x`. -/
def trimmedBlockDigits (block_num : String) : List Char :=
  (block_num.toList.map Char.toLower).dropWhile fun character =>
    character == '0' || character == 'x'

/-- `lpad(digits, 16, '0')`: a longer text loses its end. -/
def padBlockDigits (digits : List Char) : List Char :=
  if 16 ≤ digits.length then digits.take 16
  else List.replicate (16 - digits.length) '0' ++ digits

/-- The decoded block number, a signed 64-bit value; `none` where the cast
raises an error. -/
def decodeBlockNum (block_num : String) : Option Int :=
  (JsText.digitsValue 16 (padBlockDigits (trimmedBlockDigits block_num))).map fun (value : Nat) =>
    if value < 2 ^ 63 then (value : Int) else (value : Int) - 2 ^ 64

/-- A bound of the time filter; a row without a timestamp never passes one. -/
def passesTimeBound (row : EvmAssetTransferRow) (bound : Option Int)
    (within : Int → Int → Bool) : Bool :=
  bound.all fun unix =>
    (row.metadata.bind (·.blockTimestamp)).any fun timestamp => within (unix * 1000) timestamp

/-- The `WHERE` clause of the transfers query. -/
def selectsTransfer (input : FindTransfersInput) (row : EvmAssetTransferRow) : Bool :=
  row.chain = input.chain && row.asset_identifier = input.assetIdentifier &&
    (row.from_address ∈ input.addresses || row.to_address.any (· ∈ input.addresses)) &&
    passesTimeBound row input.fromTimestampUnix (fun bound timestamp => bound ≤ timestamp) &&
    passesTimeBound row input.toTimestampUnix (fun bound timestamp => timestamp ≤ bound)

/-- `ORDER BY BLOCK_NUM_NUMERIC ASC, unique_id ASC`. -/
def transferOrder (collation : Collation) : RowOrder (Int × EvmAssetTransferRow) :=
  (RowOrder.byKey Prod.fst).thenBy (collation.comap fun keyed => keyed.2.unique_id)

/-- A row with the key it is ordered by. -/
def keyedByBlock (row : EvmAssetTransferRow) : Except String (Int × EvmAssetTransferRow) :=
  match decodeBlockNum row.block_num with
  | some block => .ok (block, row)
  | none => .error "invalid hexadecimal digit"

/-- The transfers query without its limit and offset. -/
def orderedTransfers (collation : Collation) (table : EvmAssetTransferTable)
    (input : FindTransfersInput) : Except String (List EvmAssetTransferRow) :=
  ((table.rows.filter (selectsTransfer input)).mapM keyedByBlock).map fun keyed =>
    ((transferOrder collation).orderBy keyed).map Prod.snd

/-- One page of the transfers from or to the addresses. -/
def findTransfersByAddresses (collation : Collation) (table : EvmAssetTransferTable)
    (input : FindTransfersInput) : Except String (List EvmAssetTransferRow) :=
  if input.addresses.length = 0 then .ok []
  else (orderedTransfers collation table input).map
    (limitOffset input.limit ((input.page - 1) * input.limit))

/-! ## Decoding block numbers -/

theorem trimmedBlockDigits_eq {block_num : String} {digits : List Char} {block : Nat}
    (text : block_num.toList = '0' :: 'x' :: digits)
    (read : JsText.digitsFrom 16 0 digits = some block) :
    trimmedBlockDigits block_num = (digits.map Char.toLower).dropWhile (· == '0') := by
  have lowered : JsText.digitsFrom 16 0 (digits.map Char.toLower) = some block := by
    rw [JsText.digitsFrom_toLower, read]
  have zeros : ∀ (value : Nat) (characters : List Char),
      (JsText.digitsFrom 16 value characters).isSome →
      characters.dropWhile (fun character => character == '0' || character == 'x') =
        characters.dropWhile (· == '0') := by
    intro value characters
    induction characters generalizing value with
    | nil => intro _; rfl
    | cons character rest ih =>
        intro readable
        have notX : (character == 'x') = false := by
          cases isX : character == 'x' with
          | false => rfl
          | true =>
              rw [beq_iff_eq.mp isX] at readable
              exact absurd readable (by simp [JsText.digitsFrom, JsText.digitValue])
        rw [List.dropWhile_cons, List.dropWhile_cons, notX, Bool.or_false]
        split
        · simp only [JsText.digitsFrom] at readable
          split at readable
          · exact ih _ readable
          · cases readable
        · rfl
  simp only [trimmedBlockDigits, text, List.map_cons]
  exact zeros 0 _ (by rw [lowered]; rfl)

/-- Hexadecimal texts of numbers below 2⁶³ are decoded to those numbers. -/
theorem decodeBlockNum_eq {block_num : String} {digits : List Char} {block : Nat}
    (text : block_num.toList = '0' :: 'x' :: digits)
    (read : JsText.digitsFrom 16 0 digits = some block) (small : block < 2 ^ 63) :
    decodeBlockNum block_num = some (block : Int) := by
  have trimmed := trimmedBlockDigits_eq text read
  have value : JsText.digitsFrom 16 0 (trimmedBlockDigits block_num) = some block := by
    rw [trimmed, JsText.digitsFrom_dropZeros, JsText.digitsFrom_toLower, read]
  have short : (trimmedBlockDigits block_num).length ≤ 16 := by
    cases digitsLeft : trimmedBlockDigits block_num with
    | nil => simp
    | cons character rest =>
        have nonzero : character ≠ '0' := by
          have head := List.head?_dropWhile_not (· == '0') (digits.map Char.toLower)
          rw [← trimmed, digitsLeft] at head
          simpa using head
        rw [digitsLeft] at value
        have bound := JsText.pow_le_of_digitsFrom nonzero value
        have strict : 16 ^ rest.length < 16 ^ 16 := by omega
        have fewer := (Nat.pow_lt_pow_iff_right (by decide)).mp strict
        exact fewer
  have padded : JsText.digitsFrom 16 0 (padBlockDigits (trimmedBlockDigits block_num)) =
      some block := by
    rw [padBlockDigits]
    split
    · rw [List.take_of_length_le short, value]
    · rw [JsText.digitsFrom_zeros, value]
  have nonempty : (padBlockDigits (trimmedBlockDigits block_num)).isEmpty = false := by
    rw [padBlockDigits]
    split
    · rename_i long
      cases left : trimmedBlockDigits block_num with
      | nil => simp [left] at long
      | cons character rest => simp
    · rename_i long
      obtain ⟨count, positive⟩ : ∃ count, 16 - (trimmedBlockDigits block_num).length = count + 1 :=
        ⟨15 - (trimmedBlockDigits block_num).length, by omega⟩
      rw [positive, List.replicate_succ]
      rfl
  simp only [decodeBlockNum, JsText.digitsValue, nonempty, Bool.false_eq_true, ↓reduceIte, padded,
    Option.map_some, small]

/-! ## The rows of the complete result -/

theorem keyedByBlock_eq_ok {row : EvmAssetTransferRow} {keyed : Int × EvmAssetTransferRow}
    (decoded : keyedByBlock row = .ok keyed) :
    decodeBlockNum row.block_num = some keyed.1 ∧ keyed.2 = row := by
  simp only [keyedByBlock] at decoded
  split at decoded
  · rename_i block found
    cases decoded
    exact ⟨found, rfl⟩
  · cases decoded

theorem mapM_keyedByBlock {rows : List EvmAssetTransferRow}
    {keyed : List (Int × EvmAssetTransferRow)} (decoded : rows.mapM keyedByBlock = .ok keyed) :
    keyed.map Prod.snd = rows := by
  induction rows generalizing keyed with
  | nil =>
      cases decoded
      rfl
  | cons row rest ih =>
      rw [List.mapM_cons] at decoded
      rcases Result.bind_eq_ok.mp decoded with ⟨first, head, decoded⟩
      rcases Result.bind_eq_ok.mp decoded with ⟨others, tail, combined⟩
      cases combined
      rw [List.map_cons, ih tail, (keyedByBlock_eq_ok head).2]

/-- The complete result is a reordering of the selected rows. -/
theorem perm_orderedTransfers {collation : Collation} {table : EvmAssetTransferTable}
    {input : FindTransfersInput} {rows : List EvmAssetTransferRow}
    (ordered : orderedTransfers collation table input = .ok rows) :
    rows.Perm (table.rows.filter (selectsTransfer input)) := by
  rcases Result.map_eq_ok.mp ordered with ⟨keyed, decoded, sorted⟩
  rw [← sorted, ← mapM_keyedByBlock decoded]
  exact ((transferOrder collation).perm_orderBy keyed).map Prod.snd

/-- The unique ids of the selected rows differ, since they are part of the
primary key. -/
theorem selected_unique_ids_nodup (table : EvmAssetTransferTable) (input : FindTransfersInput) :
    ((table.rows.filter (selectsTransfer input)).map (·.unique_id)).Nodup := by
  have keys := table.keys_nodup.sublist
    ((List.filter_sublist (p := selectsTransfer input)).map _)
  rw [List.Nodup, List.pairwise_map] at keys ⊢
  refine keys.imp_of_mem ?_
  intro left right leftMember rightMember different same
  have leftSelected := (List.mem_filter.mp leftMember).2
  have rightSelected := (List.mem_filter.mp rightMember).2
  simp only [selectsTransfer, Bool.and_eq_true, decide_eq_true_eq] at leftSelected rightSelected
  apply different
  rw [leftSelected.1.1.1.1, leftSelected.1.1.1.2, rightSelected.1.1.1.1, rightSelected.1.1.1.2,
    same]

theorem orderedTransfers_unique_ids_nodup {collation : Collation} {table : EvmAssetTransferTable}
    {input : FindTransfersInput} {rows : List EvmAssetTransferRow}
    (ordered : orderedTransfers collation table input = .ok rows) :
    (rows.map (·.unique_id)).Nodup :=
  ((perm_orderedTransfers ordered).map _).nodup_iff.mpr (selected_unique_ids_nodup table input)

end Reputo.OnchainData
