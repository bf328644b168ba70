import Mathlib.Tactic.FieldSimp
import Mathlib.Tactic.LinearCombination
import Reputo.OnchainData.CardanoWriteSets
import Reputo.TokenValue.Normalize

/-!
# What a Cardano transaction moves

A transaction spends some of its inputs and creates some of its outputs; the others are only
shown to it.  The normalizer counts all of them, so that its events are the effect of the
transaction exactly if what is only shown cancels out at every tracked address.
-/

namespace Reputo.TokenValue

open Reputo.Library Reputo.OnchainData

/-! ## The ledger -/

/-- An input is spent.  Reference inputs never are, collateral only if the scripts fail. -/
def isSpent (valid : Bool) (input : RawCardanoUtxoInput) : Bool :=
  input.reference ≠ some true && if valid then !input.collateral else input.collateral

/-- An output is created.  The return of collateral only is if the scripts fail. -/
def isCreated (valid : Bool) (output : RawCardanoUtxoOutput) : Bool :=
  if valid then !output.collateral else output.collateral

/-- The quantity of an asset among amounts. -/
def quantityOf (assetUnit : String) (amounts : List CardanoAmount) : Nat :=
  (amounts.map fun amount => if amount.unit = assetUnit then amount.quantity else 0).sum

/-- The quantity of an asset at an address. -/
def quantityAt (assetUnit address : String) (entries : List (String × List CardanoAmount)) : Nat :=
  (entries.map fun entry => if entry.1 = address then quantityOf assetUnit entry.2 else 0).sum

def inputsAt (assetUnit address : String) (inputs : List RawCardanoUtxoInput) : Nat :=
  quantityAt assetUnit address (inputs.map fun input => (input.address, input.amount))

def outputsAt (assetUnit address : String) (outputs : List RawCardanoUtxoOutput) : Nat :=
  quantityAt assetUnit address (outputs.map fun output => (output.address, output.amount))

/-- What a transaction adds to an address, in units of the token. -/
def ledgerEffect (valid : Bool) (utxo : RawCardanoTransactionUtxo) (assetUnit : String)
    (assetDecimals : Nat) (address : String) : Rat :=
  ((outputsAt assetUnit address (utxo.outputs.filter (isCreated valid)) : Rat) -
    inputsAt assetUnit address (utxo.inputs.filter (isSpent valid))) / 10 ^ assetDecimals

/-- What a transaction is only shown at an address cancels out. -/
def Cancels (valid : Bool) (utxo : RawCardanoTransactionUtxo) (assetUnit address : String) : Prop :=
  outputsAt assetUnit address (utxo.outputs.filter fun output => !isCreated valid output) =
    inputsAt assetUnit address (utxo.inputs.filter fun input => !isSpent valid input)

/-! ## Events -/

def touches (address : String) (event : OrderedTransferEvent) : Bool :=
  event.fromAddress = some address || event.toAddress = some address

/-- The events tell the effect on every tracked address, each in one event, and nothing else. -/
structure TellsEffect (trackedAddresses : List String) (effect : String → Rat)
    (events : List OrderedTransferEvent) : Prop where
  silent : ∀ address ∈ trackedAddresses, effect address = 0 → events.filter (touches address) = []
  received : ∀ address ∈ trackedAddresses, 0 < effect address →
    ∃ event, events.filter (touches address) = [event] ∧ event.fromAddress = none ∧
      event.toAddress = some address ∧ event.amount = effect address
  sent : ∀ address ∈ trackedAddresses, effect address < 0 →
    ∃ event, events.filter (touches address) = [event] ∧ event.fromAddress = some address ∧
      event.toAddress = none ∧ event.amount = -effect address
  foreign : ∀ event ∈ events, ∀ address, touches address event → address ∈ trackedAddresses

/-- A transaction whose rows are in the tables, as the write set has them. -/
structure StoredTransaction where
  tables : CardanoTables
  utxo : RawCardanoTransactionUtxo
  inputs : (tables.inputs.rows.filter fun row =>
    row.chain = "cardano" && row.tx_hash = utxo.hash).Perm (answerWriteSet "cardano" utxo).inputs
  inputAmounts : (tables.inputAmounts.rows.filter fun row =>
    row.chain = "cardano" && row.tx_hash = utxo.hash).Perm
      (answerWriteSet "cardano" utxo).inputAmounts
  outputs : (tables.outputs.rows.filter fun row =>
    row.chain = "cardano" && row.tx_hash = utxo.hash).Perm (answerWriteSet "cardano" utxo).outputs
  outputAmounts : (tables.outputAmounts.rows.filter fun row =>
    row.chain = "cardano" && row.tx_hash = utxo.hash).Perm
      (answerWriteSet "cardano" utxo).outputAmounts

/-- The transaction as the worker reads it. -/
def StoredTransaction.read (stored : StoredTransaction) (collation : Collation)
    (blockHeight blockTime : Nat) : CardanoRawTransactionUtxoData :=
  assembledTransaction collation stored.tables ⟨stored.utxo.hash, blockHeight, blockTime⟩

/-! ## Effects that events tell -/

/-- Events tell one effect. -/
theorem TellsEffect.unique {trackedAddresses : List String} {effect other : String → Rat}
    {events : List OrderedTransferEvent} (tells : TellsEffect trackedAddresses effect events)
    (tellsOther : TellsEffect trackedAddresses other events) :
    ∀ address ∈ trackedAddresses, effect address = other address := by
  intro address tracked
  rcases lt_trichotomy (effect address) 0 with negative | zero | positive
  · rcases tells.sent address tracked negative with ⟨event, only, sender, _, amount⟩
    rcases lt_trichotomy (other address) 0 with negative' | zero' | positive'
    · rcases tellsOther.sent address tracked negative' with ⟨event', only', _, _, amount'⟩
      rw [only] at only'
      cases only'
      exact neg_inj.mp (amount.symm.trans amount')
    · rw [tellsOther.silent address tracked zero'] at only
      cases only
    · rcases tellsOther.received address tracked positive' with ⟨event', only', sender', _, _⟩
      rw [only] at only'
      cases only'
      rw [sender] at sender'
      cases sender'
  · rcases lt_trichotomy (other address) 0 with negative' | zero' | positive'
    · rcases tellsOther.sent address tracked negative' with ⟨event', only', _⟩
      rw [tells.silent address tracked zero] at only'
      cases only'
    · rw [zero, zero']
    · rcases tellsOther.received address tracked positive' with ⟨event', only', _⟩
      rw [tells.silent address tracked zero] at only'
      cases only'
  · rcases tells.received address tracked positive with ⟨event, only, sender, _, amount⟩
    rcases lt_trichotomy (other address) 0 with negative' | zero' | positive'
    · rcases tellsOther.sent address tracked negative' with ⟨event', only', sender', _, _⟩
      rw [only] at only'
      cases only'
      rw [sender] at sender'
      cases sender'
    · rw [tellsOther.silent address tracked zero'] at only
      cases only
    · rcases tellsOther.received address tracked positive' with ⟨event', only', _, _, amount'⟩
      rw [only] at only'
      cases only'
      exact amount.symm.trans amount'

theorem TellsEffect.congr {trackedAddresses : List String} {effect other : String → Rat}
    {events : List OrderedTransferEvent} (tells : TellsEffect trackedAddresses effect events)
    (same : ∀ address ∈ trackedAddresses, effect address = other address) :
    TellsEffect trackedAddresses other events where
  silent address tracked zero :=
    tells.silent address tracked ((same address tracked).trans zero)
  received address tracked positive := by
    rw [← same address tracked] at positive ⊢
    exact tells.received address tracked positive
  sent address tracked negative := by
    rw [← same address tracked] at negative ⊢
    exact tells.sent address tracked negative
  foreign := tells.foreign

/-! ## Flows -/

section Flows

variable (trackedAddresses : List String) (assetUnit : String) (unitDivisor sign : Rat)

def flowOf (flows : OrderedMap String Rat) (address : String) : Rat := (flows.get? address).getD 0

theorem flowOf_addAmounts (address query : String) (amounts : List CardanoAmount)
    (flows : OrderedMap String Rat) :
    flowOf (addAmounts assetUnit unitDivisor sign address amounts flows) query =
      flowOf flows query + if address = query then
        sign * (quantityOf assetUnit amounts / unitDivisor) else 0 := by
  induction amounts generalizing flows with
  | nil => simp [addAmounts, quantityOf]
  | cons amount rest ih =>
      unfold addAmounts at ih ⊢
      rw [List.foldl_cons, ih]
      by_cases unit : amount.unit = assetUnit
      · by_cases same : address = query
        · subst same
          simp only [unit, if_true, flowOf, OrderedMap.upsert, OrderedMap.get?_set_self,
            Option.getD_some, quantityOf, List.map_cons, List.sum_cons, Nat.cast_add, add_div]
          ring
        · simp only [unit, if_true, if_neg same, flowOf, OrderedMap.upsert,
            OrderedMap.get?_set_of_ne _ _ (Ne.symm same)]
      · simp [unit, quantityOf]

theorem flowOf_addEntries {query : String} (tracked : query ∈ trackedAddresses)
    (entries : List (String × List CardanoAmount)) (flows : OrderedMap String Rat) :
    flowOf (addEntries trackedAddresses assetUnit unitDivisor sign entries flows) query =
      flowOf flows query + sign * (quantityAt assetUnit query entries / unitDivisor) := by
  induction entries generalizing flows with
  | nil => simp [addEntries, quantityAt]
  | cons entry rest ih =>
      unfold addEntries at ih ⊢
      rw [List.foldl_cons, ih]
      simp only [quantityAt, List.map_cons, List.sum_cons, Nat.cast_add, add_div]
      by_cases same : entry.1 = query
      · rw [if_pos (same ▸ tracked), flowOf_addAmounts, if_pos same, if_pos same]
        ring
      · rw [if_neg same]
        split
        · rw [flowOf_addAmounts, if_neg same]
          simp
        · simp

theorem keys_addAmounts {address : String} (tracked : address ∈ trackedAddresses)
    (amounts : List CardanoAmount) {flows : OrderedMap String Rat}
    (known : ∀ key ∈ flows.keys, key ∈ trackedAddresses) :
    ∀ key ∈ (addAmounts assetUnit unitDivisor sign address amounts flows).keys,
      key ∈ trackedAddresses := by
  induction amounts generalizing flows with
  | nil => exact known
  | cons amount rest ih =>
      unfold addAmounts at ih ⊢
      rw [List.foldl_cons]
      apply ih
      split
      · intro key member
        rcases OrderedMap.mem_keys_setEntries.mp member with same | old
        · exact same ▸ tracked
        · exact known key old
      · exact known

theorem keys_addEntries (entries : List (String × List CardanoAmount))
    {flows : OrderedMap String Rat} (known : ∀ key ∈ flows.keys, key ∈ trackedAddresses) :
    ∀ key ∈ (addEntries trackedAddresses assetUnit unitDivisor sign entries flows).keys,
      key ∈ trackedAddresses := by
  induction entries generalizing flows with
  | nil => exact known
  | cons entry rest ih =>
      unfold addEntries at ih ⊢
      rw [List.foldl_cons]
      apply ih
      split
      · rename_i tracked
        exact keys_addAmounts trackedAddresses assetUnit unitDivisor sign tracked entry.2 known
      · exact known

end Flows

/-! ## Events of flows -/

section Events

variable (resourceId : ResourceId) (tx : CardanoRawTransactionUtxoData)

/-- The event of one flow. -/
def flowEvent (logIndex : Nat) (address : String) (netFlow : Rat) : OrderedTransferEvent where
  resourceId := resourceId
  blockOrdinal := padBlockHeight tx.block_height
  transactionHash := tx.tx_hash.text
  logIndex := logIndex
  fromAddress := if netFlow > 0 then none else some address
  toAddress := if netFlow > 0 then some address else none
  amount := |netFlow|
  blockTimestamp := some (tx.block_time * 1000)
  isStaking := false

theorem flowEvents_cons (logIndex : Nat) (address : String) (netFlow : Rat)
    (rest : List (String × Rat)) :
    flowEvents resourceId tx logIndex ((address, netFlow) :: rest) =
      if netFlow = 0 then flowEvents resourceId tx logIndex rest
      else flowEvent resourceId tx logIndex address netFlow ::
        flowEvents resourceId tx (logIndex + 1) rest := rfl

theorem touches_flowEvent (logIndex : Nat) (address query : String) (netFlow : Rat) :
    touches query (flowEvent resourceId tx logIndex address netFlow) = decide (address = query) := by
  unfold touches flowEvent
  by_cases positive : netFlow > 0
  · simp [positive]
  · simp [positive]

variable {resourceId tx}

/-- Only an address with a flow has an event. -/
theorem mem_keys_of_touches {flows : List (String × Rat)} {logIndex : Nat}
    {event : OrderedTransferEvent} (member : event ∈ flowEvents resourceId tx logIndex flows)
    {address : String} (touched : touches address event) : address ∈ flows.map Prod.fst := by
  induction flows generalizing logIndex with
  | nil => cases member
  | cons flow rest ih =>
      rcases flow with ⟨other, netFlow⟩
      rw [flowEvents_cons] at member
      split at member
      · exact List.mem_cons_of_mem _ (ih member)
      · rcases List.mem_cons.mp member with same | later
        · rw [same, touches_flowEvent] at touched
          exact (of_decide_eq_true touched) ▸ List.mem_cons_self
        · exact List.mem_cons_of_mem _ (ih later)

theorem filter_touches_absent {flows : List (String × Rat)} {logIndex : Nat} {address : String}
    (absent : address ∉ flows.map Prod.fst) :
    (flowEvents resourceId tx logIndex flows).filter (touches address) = [] :=
  List.filter_eq_nil_iff.mpr fun _ member touched => absent (mem_keys_of_touches member touched)

/-- A flow has one event, unless it is zero. -/
theorem filter_touches {flows : List (String × Rat)} {logIndex : Nat} {address : String}
    {netFlow : Rat} (nodup : (flows.map Prod.fst).Nodup) (member : (address, netFlow) ∈ flows) :
    if netFlow = 0 then (flowEvents resourceId tx logIndex flows).filter (touches address) = []
    else ∃ index, (flowEvents resourceId tx logIndex flows).filter (touches address) =
      [flowEvent resourceId tx index address netFlow] := by
  induction flows generalizing logIndex with
  | nil => cases member
  | cons flow rest ih =>
      rcases flow with ⟨other, otherFlow⟩
      rw [List.map_cons, List.nodup_cons] at nodup
      rw [flowEvents_cons]
      rcases List.mem_cons.mp member with same | later
      · cases same
        by_cases zero : netFlow = 0
        · rw [if_pos zero, if_pos zero]
          exact filter_touches_absent nodup.1
        · rw [if_neg zero, if_neg zero, List.filter_cons_of_pos
            (by rw [touches_flowEvent, decide_eq_true rfl]), filter_touches_absent nodup.1]
          exact ⟨logIndex, rfl⟩
      · have listed : address ∈ rest.map Prod.fst := List.mem_map_of_mem later
        have different : other ≠ address := fun same => nodup.1 (same ▸ listed)
        by_cases zero : otherFlow = 0
        · rw [if_pos zero]
          exact ih nodup.2 later
        · rw [if_neg zero, List.filter_cons_of_neg
            (by rw [touches_flowEvent, decide_eq_false different]; exact Bool.false_ne_true)]
          exact ih nodup.2 later

/-- The events tell the flows. -/
theorem tellsEffect_flowEvents {trackedAddresses : List String} {flows : OrderedMap String Rat}
    (known : ∀ key ∈ flows.keys, key ∈ trackedAddresses) :
    TellsEffect trackedAddresses (flowOf flows) (flowEvents resourceId tx 0 flows.entries) := by
  have held : ∀ address, flowOf flows address ≠ 0 → (address, flowOf flows address) ∈ flows.entries := by
    intro address moved
    cases found : flows.get? address with
    | none => rw [flowOf, found] at moved; exact absurd rfl moved
    | some netFlow =>
        rw [flowOf, found]
        exact flows.get?_eq_some_iff_mem.mp found
  refine ⟨fun address _ zero => ?_, fun address _ positive => ?_, fun address _ negative => ?_,
    fun event member address touched => known address (mem_keys_of_touches member touched)⟩
  · cases found : flows.get? address with
    | none =>
        refine filter_touches_absent fun listed => ?_
        rcases (flows.mem_keys_iff_get? address).mp listed with ⟨value, present⟩
        rw [found] at present
        cases present
    | some netFlow =>
        rw [flowOf, found, Option.getD_some] at zero
        have only := @filter_touches resourceId tx _ 0 _ _ flows.keys_nodup
          (flows.get?_eq_some_iff_mem.mp found)
        rwa [if_pos zero] at only
  · have only := @filter_touches resourceId tx _ 0 _ _ flows.keys_nodup (held address positive.ne')
    rw [if_neg positive.ne'] at only
    rcases only with ⟨index, only⟩
    exact ⟨_, only, if_pos positive, if_pos positive, abs_of_pos positive⟩
  · have only := @filter_touches resourceId tx _ 0 _ _ flows.keys_nodup (held address negative.ne)
    rw [if_neg negative.ne] at only
    rcases only with ⟨index, only⟩
    exact ⟨_, only, if_neg negative.not_gt, if_neg negative.not_gt, abs_of_neg negative⟩

end Events

/-- What the normalizer finds at an address. -/
theorem flowOf_addressFlows {trackedAddresses : List String} (assetUnit : String)
    (assetDecimals : Nat) (tx : CardanoRawTransactionUtxoData) {address : String}
    (tracked : address ∈ trackedAddresses) :
    flowOf (addressFlows trackedAddresses assetUnit assetDecimals tx) address =
      ((quantityAt assetUnit address (tx.outputs.map fun output =>
          (output.address, output.amounts)) : Rat) -
        quantityAt assetUnit address (tx.inputs.map fun input => (input.address, input.amounts))) /
          10 ^ assetDecimals := by
  rw [addressFlows, flowOf_addEntries _ _ _ _ tracked, flowOf_addEntries _ _ _ _ tracked]
  simp only [flowOf, OrderedMap.get?_empty, Option.getD_none]
  ring

theorem keys_addressFlows (trackedAddresses : List String) (assetUnit : String)
    (assetDecimals : Nat) (tx : CardanoRawTransactionUtxoData) :
    ∀ key ∈ (addressFlows trackedAddresses assetUnit assetDecimals tx).keys,
      key ∈ trackedAddresses := by
  apply keys_addEntries
  apply keys_addEntries
  exact fun _ none_ => absurd none_ List.not_mem_nil

/-! ## What is read back -/

section Groups

variable (assetUnit address : String)

/-- What a joined amount adds to an address. -/
def joinedQuantity (row : JoinedAmount) : Nat :=
  if row.address = address then if row.unit = assetUnit then row.quantity else 0 else 0

def groupQuantity (group : AmountGroup) : Nat :=
  if group.address = address then quantityOf assetUnit group.amounts else 0

theorem groupQuantity_addToGroup (row : JoinedAmount) (group : Option AmountGroup)
    (same : ∀ stored ∈ group, stored.address = row.address) :
    groupQuantity assetUnit address (addToGroup row group) =
      (group.map (groupQuantity assetUnit address)).getD 0 +
        joinedQuantity assetUnit address row := by
  cases group with
  | none => simp [addToGroup, groupQuantity, joinedQuantity, quantityOf]
  | some stored =>
      have own := same stored rfl
      simp only [addToGroup, groupQuantity, joinedQuantity, quantityOf, Option.map_some,
        Option.getD_some, own, List.map_append, List.map_cons, List.map_nil, List.sum_append,
        List.sum_cons, List.sum_nil, Nat.add_zero]
      split <;> simp

theorem groupAmounts_concat (rows : List JoinedAmount) (row : JoinedAmount) :
    groupAmounts (rows ++ [row]) = (groupAmounts rows).upsert (groupKey row) (addToGroup row) := by
  simp only [groupAmounts, OrderedMap.groupInto, List.foldl_append, List.foldl_cons,
    List.foldl_nil]

/-- A group has the address of its rows. -/
theorem address_of_group {rows : List JoinedAmount} {key : String} {group : AmountGroup}
    (found : (groupAmounts rows).get? key = some group) :
    ∃ row ∈ rows, groupKey row = key ∧ row.address = group.address := by
  induction rows using List.reverseRecOn generalizing group with
  | nil => cases found
  | append_singleton rows row ih =>
      rw [groupAmounts_concat, OrderedMap.upsert] at found
      by_cases same : groupKey row = key
      · rw [← same, OrderedMap.get?_set_self] at found
        cases before : (groupAmounts rows).get? (groupKey row) with
        | none =>
            rw [before] at found
            cases found
            exact ⟨row, List.mem_append_right _ List.mem_cons_self, same, rfl⟩
        | some stored =>
            rw [same] at before
            rcases ih before with ⟨other, member, otherKey, otherAddress⟩
            rw [same, before] at found
            cases found
            exact ⟨other, List.mem_append_left _ member, otherKey, otherAddress⟩
      · rw [OrderedMap.get?_set_of_ne _ _ (Ne.symm same)] at found
        rcases ih found with ⟨other, member, otherKey, otherAddress⟩
        exact ⟨other, List.mem_append_left _ member, otherKey, otherAddress⟩

/-- Grouping keeps what is at an address, if rows of one key share their address. -/
theorem sum_groupAmounts {rows : List JoinedAmount}
    (shared : ∀ left ∈ rows, ∀ right ∈ rows, groupKey left = groupKey right →
      left.address = right.address) :
    ((groupAmounts rows).entries.map fun entry => groupQuantity assetUnit address entry.2).sum =
      (rows.map (joinedQuantity assetUnit address)).sum := by
  induction rows using List.reverseRecOn with
  | nil => rfl
  | append_singleton rows row ih =>
      have before := ih fun left leftMember right rightMember =>
        shared left (List.mem_append_left _ leftMember) right (List.mem_append_left _ rightMember)
      have own : ∀ stored ∈ (groupAmounts rows).get? (groupKey row),
          stored.address = row.address := by
        intro stored found
        rcases address_of_group found with ⟨other, member, otherKey, otherAddress⟩
        rw [← otherAddress]
        exact shared other (List.mem_append_left _ member) row
          (List.mem_append_right _ List.mem_cons_self) otherKey
      have replaced := OrderedMap.sum_setEntries (groupQuantity assetUnit address) (groupKey row)
        (addToGroup row ((groupAmounts rows).get? (groupKey row))) (groupAmounts rows).entries
      rw [groupQuantity_addToGroup _ _ row _ own, before] at replaced
      rw [groupAmounts_concat, List.map_append, List.sum_append]
      simp only [OrderedMap.upsert, OrderedMap.set, List.map_cons, List.map_nil, List.sum_cons,
        List.sum_nil, Nat.add_zero]
      simp only [OrderedMap.get?] at replaced ⊢
      omega

end Groups

section Joined

variable {ρ σ ε : Type}

/-- Children that are found by their index are those of their entry. -/
theorem filter_flatMap_index {entries : List ε} (index : ε → Nat) (children : ε → List σ)
    (childIndex : σ → Nat) (indexed : ∀ entry, ∀ child ∈ children entry,
      childIndex child = index entry) (distinct : (entries.map index).Nodup) {entry : ε}
    (member : entry ∈ entries) :
    (entries.flatMap children).filter (fun child => childIndex child = index entry) =
      children entry := by
  induction entries with
  | nil => cases member
  | cons head rest ih =>
      rw [List.map_cons, List.nodup_cons] at distinct
      rw [List.flatMap_cons, List.filter_append]
      rcases List.mem_cons.mp member with same | later
      · rw [← same] at distinct ⊢
        have none_ : (rest.flatMap children).filter
            (fun child => childIndex child = index entry) = [] := by
          refine List.filter_eq_nil_iff.mpr fun child childMember own => ?_
          rcases List.mem_flatMap.mp childMember with ⟨other, otherMember, inside⟩
          rw [indexed other child inside] at own
          exact distinct.1 ((of_decide_eq_true own) ▸ List.mem_map_of_mem otherMember)
        rw [none_, List.append_nil, List.filter_eq_self]
        exact fun child inside => decide_eq_true (indexed entry child inside)
      · have none_ : (children head).filter (fun child => childIndex child = index entry) = [] := by
          refine List.filter_eq_nil_iff.mpr fun child inside own => ?_
          rw [indexed head child inside] at own
          exact distinct.1 ((of_decide_eq_true own) ▸ List.mem_map_of_mem later)
        rw [none_, List.nil_append, ih distinct.2 later]

/-- A join of parents and children that belong to one transaction. -/
theorem sum_join {parents : List ρ} {children : List σ} {own : ρ → Bool} {ownChild : σ → Bool}
    (entries : List ε) (toParent : ε → ρ) (toChildren : ε → List σ)
    (parentPerm : (parents.filter own).Perm (entries.map toParent))
    (childPerm : (children.filter ownChild).Perm (entries.flatMap toChildren))
    (index : ρ → Nat) (childIndex : σ → Nat)
    (indexed : ∀ entry, ∀ child ∈ toChildren entry, childIndex child = index (toParent entry))
    (distinct : (entries.map fun entry => index (toParent entry)).Nodup)
    (weight : ρ → σ → Nat) :
    ((parents.filter own).map fun parent =>
        ((children.filter fun child => ownChild child && childIndex child = index parent).map
          (weight parent)).sum).sum =
      (entries.map fun entry => ((toChildren entry).map (weight (toParent entry))).sum).sum := by
  rw [(parentPerm.map _).sum_eq, List.map_map]
  congr 1
  apply List.map_congr_left
  intro entry member
  rw [Function.comp_apply, List.filter_congr fun child _ => Bool.and_comm _ _, ← List.filter_filter,
    ((childPerm.filter _).map _).sum_eq,
    filter_flatMap_index (fun entry => index (toParent entry)) toChildren childIndex indexed
      distinct member]

/-- What is kept of a join are the rows of the parents that are kept. -/
theorem sum_filter_flatMap {τ : Type} (joined : ρ → List τ) {keep : τ → Bool} {weight : τ → Nat}
    (own : ρ → Bool) (total : ρ → Nat)
    (kept : ∀ row, own row = true → (((joined row).filter keep).map weight).sum = total row)
    (dropped : ∀ row, own row = false → (joined row).filter keep = []) (rows : List ρ) :
    (((rows.flatMap joined).filter keep).map weight).sum = ((rows.filter own).map total).sum := by
  induction rows with
  | nil => rfl
  | cons row rest ih =>
      rw [List.flatMap_cons, List.filter_append, List.map_append, List.sum_append, ih]
      rcases Bool.eq_false_or_eq_true (own row) with mine | other
      · rw [List.filter_cons_of_pos mine, List.map_cons, List.sum_cons, kept row mine]
      · rw [List.filter_cons_of_neg (by rw [other]; exact Bool.false_ne_true), dropped row other]
        exact Nat.zero_add _

end Joined

theorem groupKey_inj {left right : JoinedAmount} (same : groupKey left = groupKey right) :
    left.tx_hash = right.tx_hash ∧ left.index = right.index := by
  have hash : left.tx_hash = right.tx_hash := by
    apply TxHash.text_injective
    rw [← txHashOfKey_groupKey, ← txHashOfKey_groupKey, same]
  refine ⟨hash, ?_⟩
  simp only [groupKey, hash] at same
  have digits : toString left.index = toString right.index := by
    have characters := congrArg String.toList same
    simp only [String.toList_append, List.append_cancel_left_eq] at characters
    exact String.toList_inj.mp characters
  exact JsText.toString_injective digits

section Stored

variable (stored : StoredTransaction) (assetUnit address : String)

theorem sum_zipIdx {α : Type} (items : List α) (weight : α → Nat) :
    (items.zipIdx.map fun entry => weight entry.1).sum = (items.map weight).sum := by
  conv_rhs => rw [← List.zipIdx_map_fst 0 items, List.map_map]
  rfl

theorem sum_amounts (amounts : List CardanoAmount) (own : String) :
    (amounts.map fun amount => if own = address then
        if amount.unit = assetUnit then amount.quantity else 0 else 0).sum =
      if own = address then quantityOf assetUnit amounts else 0 := by
  split
  · rfl
  · simp

theorem sum_joinedInputs :
    (((joinedInputs stored.tables "cardano").filter fun row =>
      row.tx_hash ∈ [stored.utxo.hash]).map (joinedQuantity assetUnit address)).sum =
      inputsAt assetUnit address stored.utxo.inputs := by
  have joined := sum_join stored.utxo.inputs.zipIdx _ _ stored.inputs
    stored.inputAmounts (fun row => row.input_index) (fun row => row.input_index)
    (by
      intro entry child member
      rcases List.mem_map.mp member with ⟨amount, _, same⟩
      rw [← same])
    ((List.zipIdx_map_snd 0 stored.utxo.inputs).symm ▸ List.nodup_range')
    (fun row amount => if row.address = address then
      if amount.unit = assetUnit then amount.quantity else 0 else 0)
  rw [joinedInputs, sum_filter_flatMap _ (fun row => row.chain = "cardano" &&
    row.tx_hash = stored.utxo.hash) _ ?kept ?dropped, joined]
  case kept =>
    intro row own
    rcases Bool.and_eq_true_iff.mp own with ⟨chain, hash⟩
    have sameChain := of_decide_eq_true chain
    have sameHash := of_decide_eq_true hash
    rw [List.filter_eq_self.mpr, List.map_map]
    · simp only [sameChain, sameHash, decide_true, Bool.and_true]
      rfl
    · intro amount member
      rcases List.mem_map.mp member with ⟨source, _, same⟩
      rw [← same]
      exact decide_eq_true (List.mem_singleton.mpr sameHash)
  case dropped =>
    intro row other
    refine List.filter_eq_nil_iff.mpr fun amount member own => ?_
    rcases List.mem_map.mp member with ⟨source, sourceMember, same⟩
    have conditions := (List.mem_filter.mp sourceMember).2
    have sameChain := of_decide_eq_true (Bool.and_eq_true_iff.mp conditions).2
    rw [← same] at own
    have sameHash : row.tx_hash = stored.utxo.hash :=
      List.mem_singleton.mp (of_decide_eq_true own)
    rw [decide_eq_true sameChain, decide_eq_true sameHash] at other
    cases other
  · have entry : ∀ entry : RawCardanoUtxoInput × Nat, ((entry.1.amount.zipIdx.map
        fun amount => if entry.1.address = address then
          if amount.1.unit = assetUnit then amount.1.quantity else 0 else 0)).sum =
        if entry.1.address = address then quantityOf assetUnit entry.1.amount else 0 := by
      intro entry
      rw [← sum_amounts]
      exact sum_zipIdx entry.1.amount fun amount => if entry.1.address = address then
        if amount.unit = assetUnit then amount.quantity else 0 else 0
    rw [inputsAt, quantityAt, List.map_map, ← sum_zipIdx stored.utxo.inputs]
    congr 1
    apply List.map_congr_left
    intro pair _
    simp only [List.map_map]
    exact entry pair

theorem sum_joinedOutputs :
    (((joinedOutputs stored.tables "cardano").filter fun row =>
      row.tx_hash ∈ [stored.utxo.hash]).map (joinedQuantity assetUnit address)).sum =
      outputsAt assetUnit address stored.utxo.outputs := by
  have joined := sum_join stored.utxo.outputs _ _ stored.outputs
    stored.outputAmounts (fun row => row.output_index) (fun row => row.output_index)
    (by
      intro entry child member
      rcases List.mem_map.mp member with ⟨amount, _, same⟩
      rw [← same])
    stored.utxo.outputs_distinct
    (fun row amount => if row.address = address then
      if amount.unit = assetUnit then amount.quantity else 0 else 0)
  rw [joinedOutputs, sum_filter_flatMap _ (fun row => row.chain = "cardano" &&
    row.tx_hash = stored.utxo.hash) _ ?kept ?dropped, joined]
  case kept =>
    intro row own
    rcases Bool.and_eq_true_iff.mp own with ⟨chain, hash⟩
    have sameChain := of_decide_eq_true chain
    have sameHash := of_decide_eq_true hash
    rw [List.filter_eq_self.mpr, List.map_map]
    · simp only [sameChain, sameHash, decide_true, Bool.and_true]
      rfl
    · intro amount member
      rcases List.mem_map.mp member with ⟨source, _, same⟩
      rw [← same]
      exact decide_eq_true (List.mem_singleton.mpr sameHash)
  case dropped =>
    intro row other
    refine List.filter_eq_nil_iff.mpr fun amount member own => ?_
    rcases List.mem_map.mp member with ⟨source, sourceMember, same⟩
    have conditions := (List.mem_filter.mp sourceMember).2
    have sameChain := of_decide_eq_true (Bool.and_eq_true_iff.mp conditions).2
    rw [← same] at own
    have sameHash : row.tx_hash = stored.utxo.hash :=
      List.mem_singleton.mp (of_decide_eq_true own)
    rw [decide_eq_true sameChain, decide_eq_true sameHash] at other
    cases other
  · rw [outputsAt, quantityAt, List.map_map]
    congr 1
    apply List.map_congr_left
    intro output _
    simp only [List.map_map, Function.comp_apply]
    rw [← sum_amounts]
    exact sum_zipIdx output.amount fun amount => if output.address = address then
      if amount.unit = assetUnit then amount.quantity else 0 else 0

/-- Rows of one input share its address. -/
theorem shared_joinedInputs (tables : CardanoTables) {left right : JoinedAmount}
    (leftMember : left ∈ joinedInputs tables "cardano")
    (rightMember : right ∈ joinedInputs tables "cardano")
    (same : groupKey left = groupKey right) : left.address = right.address := by
  rcases List.mem_flatMap.mp leftMember with ⟨leftRow, leftStored, inside⟩
  rcases List.mem_map.mp inside with ⟨leftAmount, leftJoined, leftSame⟩
  rcases List.mem_flatMap.mp rightMember with ⟨rightRow, rightStored, inside⟩
  rcases List.mem_map.mp inside with ⟨rightAmount, rightJoined, rightSame⟩
  have leftChain := (Bool.and_eq_true_iff.mp (List.mem_filter.mp leftJoined).2).2
  have rightChain := (Bool.and_eq_true_iff.mp (List.mem_filter.mp rightJoined).2).2
  rcases groupKey_inj same with ⟨hash, index⟩
  rw [← leftSame, ← rightSame] at hash index ⊢
  have rows : leftRow = rightRow := Table.eq_of_key_eq leftStored rightStored (by
    rw [of_decide_eq_true leftChain, of_decide_eq_true rightChain]
    exact congrArg _ (Prod.ext hash index))
  rw [rows]

theorem shared_joinedOutputs (tables : CardanoTables) {left right : JoinedAmount}
    (leftMember : left ∈ joinedOutputs tables "cardano")
    (rightMember : right ∈ joinedOutputs tables "cardano")
    (same : groupKey left = groupKey right) : left.address = right.address := by
  rcases List.mem_flatMap.mp leftMember with ⟨leftRow, leftStored, inside⟩
  rcases List.mem_map.mp inside with ⟨leftAmount, leftJoined, leftSame⟩
  rcases List.mem_flatMap.mp rightMember with ⟨rightRow, rightStored, inside⟩
  rcases List.mem_map.mp inside with ⟨rightAmount, rightJoined, rightSame⟩
  have leftChain := (Bool.and_eq_true_iff.mp (List.mem_filter.mp leftJoined).2).2
  have rightChain := (Bool.and_eq_true_iff.mp (List.mem_filter.mp rightJoined).2).2
  rcases groupKey_inj same with ⟨hash, index⟩
  rw [← leftSame, ← rightSame] at hash index ⊢
  have rows : leftRow = rightRow := Table.eq_of_key_eq leftStored rightStored (by
    rw [of_decide_eq_true leftChain, of_decide_eq_true rightChain]
    exact congrArg _ (Prod.ext hash index))
  rw [rows]

/-- Joined amounts of one transaction that are ordered and grouped keep what is at an address. -/
theorem quantityAt_groups (collation : Collation) {joined : List JoinedAmount}
    (shared : ∀ left ∈ joined, ∀ right ∈ joined, groupKey left = groupKey right →
      left.address = right.address) (txHashes : List TxHash) :
    quantityAt assetUnit address ((groupAmounts (amountsOf collation joined txHashes)).entries.map
        fun entry => (entry.2.address, entry.2.amounts)) =
      ((joined.filter fun row => row.tx_hash ∈ txHashes).map
        (joinedQuantity assetUnit address)).sum := by
  have among : ∀ row ∈ amountsOf collation joined txHashes, row ∈ joined := fun row member =>
    (List.mem_filter.mp ((amountOrder collation).mem_orderBy.mp member)).1
  rw [quantityAt, List.map_map]
  rw [show (fun entry : String × List CardanoAmount =>
      if entry.1 = address then quantityOf assetUnit entry.2 else 0) ∘
        (fun entry : String × AmountGroup => (entry.2.address, entry.2.amounts)) =
      fun entry => groupQuantity assetUnit address entry.2 from rfl,
    sum_groupAmounts _ _ fun left leftMember right rightMember =>
      shared left (among left leftMember) right (among right rightMember)]
  exact (((amountOrder collation).perm_orderBy _).map _).sum_eq

/-- The worker reads back what was stored at an address. -/
theorem quantityAt_read (collation : Collation) (blockHeight blockTime : Nat) :
    quantityAt assetUnit address ((stored.read collation blockHeight blockTime).inputs.map
        fun input => (input.address, input.amounts)) =
      inputsAt assetUnit address stored.utxo.inputs ∧
    quantityAt assetUnit address ((stored.read collation blockHeight blockTime).outputs.map
        fun output => (output.address, output.amounts)) =
      outputsAt assetUnit address stored.utxo.outputs := by
  rw [← sum_joinedInputs stored, ← sum_joinedOutputs stored,
    ← quantityAt_groups assetUnit address collation (fun _ left _ right =>
      shared_joinedInputs stored.tables left right),
    ← quantityAt_groups assetUnit address collation (fun _ left _ right =>
      shared_joinedOutputs stored.tables left right)]
  simp only [StoredTransaction.read, assembledTransaction, List.map_map]
  exact ⟨rfl, rfl⟩

end Stored

/-! ## What the events tell -/

/-- Entries that are counted, and those that are not. -/
theorem quantityAt_filter {ε : Type} (assetUnit address : String) (entry : ε → String × List CardanoAmount)
    (keep : ε → Bool) (entries : List ε) :
    quantityAt assetUnit address (entries.map entry) =
      quantityAt assetUnit address ((entries.filter keep).map entry) +
        quantityAt assetUnit address ((entries.filter fun item => !keep item).map entry) := by
  induction entries with
  | nil => rfl
  | cons head rest ih =>
      simp only [quantityAt, List.map_cons, List.sum_cons] at ih ⊢
      rcases Bool.eq_false_or_eq_true (keep head) with kept | dropped
      · simp only [List.filter_cons, kept, if_true, Bool.not_true, Bool.false_eq_true, if_false,
          List.map_cons, List.sum_cons]
        omega
      · simp only [List.filter_cons, dropped, if_true, Bool.not_false, Bool.false_eq_true, if_false,
          List.map_cons, List.sum_cons]
        omega

/-- The flow at an address is the effect there exactly if what is only shown cancels out. -/
theorem flow_eq_effect_iff (valid : Bool) (utxo : RawCardanoTransactionUtxo)
    (assetUnit address : String) (assetDecimals : Nat) :
    ((outputsAt assetUnit address utxo.outputs : Rat) -
        inputsAt assetUnit address utxo.inputs) / 10 ^ assetDecimals =
      ledgerEffect valid utxo assetUnit assetDecimals address ↔
      Cancels valid utxo assetUnit address := by
  have outputs := quantityAt_filter assetUnit address
    (fun output : RawCardanoUtxoOutput => (output.address, output.amount)) (isCreated valid)
    utxo.outputs
  have inputs := quantityAt_filter assetUnit address
    (fun input : RawCardanoUtxoInput => (input.address, input.amount)) (isSpent valid) utxo.inputs
  have nonzero : (10 : Rat) ^ assetDecimals ≠ 0 := pow_ne_zero _ (by norm_num)
  simp only [ledgerEffect, div_left_inj' nonzero, Cancels, outputsAt, inputsAt]
  rw [outputs, inputs]
  push_cast
  constructor
  · intro same
    have difference : (quantityAt assetUnit address ((utxo.outputs.filter fun output =>
        !isCreated valid output).map fun output => (output.address, output.amount)) : Rat) =
        quantityAt assetUnit address ((utxo.inputs.filter fun input =>
          !isSpent valid input).map fun input => (input.address, input.amount)) := by
      linear_combination same
    exact_mod_cast difference
  · intro same
    rw [same]
    ring

section Read

variable (stored : StoredTransaction) (collation : Collation) (blockHeight blockTime : Nat)
  (resourceId : ResourceId) (assetUnit : String) (trackedAddresses : List String)
  (assetDecimals : Nat)

/-- The events of a stored transaction tell its flows. -/
theorem tellsEffect_read :
    TellsEffect trackedAddresses
      (flowOf (addressFlows trackedAddresses assetUnit assetDecimals
        (stored.read collation blockHeight blockTime)))
      (normalizeCardanoTransactions [stored.read collation blockHeight blockTime] resourceId
        assetUnit trackedAddresses assetDecimals) := by
  have events : normalizeCardanoTransactions [stored.read collation blockHeight blockTime]
      resourceId assetUnit trackedAddresses assetDecimals = flowEvents resourceId _ 0
        (addressFlows trackedAddresses assetUnit assetDecimals
          (stored.read collation blockHeight blockTime)).entries := List.append_nil _
  rw [events]
  exact tellsEffect_flowEvents (keys_addressFlows trackedAddresses assetUnit assetDecimals _)

theorem flowOf_read_iff (valid : Bool) {address : String} (tracked : address ∈ trackedAddresses) :
    flowOf (addressFlows trackedAddresses assetUnit assetDecimals
        (stored.read collation blockHeight blockTime)) address =
      ledgerEffect valid stored.utxo assetUnit assetDecimals address ↔
      Cancels valid stored.utxo assetUnit address := by
  rcases quantityAt_read stored assetUnit address collation blockHeight blockTime with
    ⟨inputs, outputs⟩
  rw [flowOf_addressFlows assetUnit assetDecimals _ tracked, inputs, outputs]
  exact flow_eq_effect_iff valid stored.utxo assetUnit address assetDecimals

end Read

theorem filter_insertAllOrIgnore {ρ κ : Type} [DecidableEq κ] {key : ρ → κ} (table : Table ρ key)
    {rows : List ρ} {own : ρ → Bool} (distinct : (rows.map key).Nodup)
    (mine : ∀ row ∈ rows, own row = true) (others : ∀ row ∈ table, own row = false)
    (keyed : ∀ row other, key row = key other → own row = own other) :
    (table.insertAllOrIgnore rows).rows.filter own = rows := by
  have fresh : ((table.rows ++ rows).map key).Nodup := by
    rw [List.map_append, List.nodup_append]
    refine ⟨table.keys_nodup, distinct, ?_⟩
    intro old oldMember new newMember same
    rcases List.mem_map.mp oldMember with ⟨row, stored, rowKey⟩
    rcases List.mem_map.mp newMember with ⟨other, inserted, otherKey⟩
    have equal := keyed row other (rowKey.trans (same.trans otherKey.symm))
    rw [others row stored, mine other inserted] at equal
    cases equal
  rw [Table.insertAllOrIgnore_rows_of_fresh fresh, List.filter_append,
    List.filter_eq_nil_iff.mpr fun row stored => by rw [others row stored]; exact Bool.false_ne_true,
    List.filter_eq_self.mpr mine, List.nil_append]

/-- A transaction that the tables did not know, when its answer was inserted. -/
def StoredTransaction.insert {answers : RawCardanoTransactionUtxo → Prop} {tables : CardanoTables}
    (whole : UtxosWhole answers tables) (utxo : RawCardanoTransactionUtxo)
    (unknown : ¬KnowsTx tables ("cardano", utxo.hash)) : StoredTransaction :=
  have own : ∀ {chain : String} {hash : TxHash}, ((chain, hash) : TxKey) = ("cardano", utxo.hash) →
      (decide (chain = "cardano") && decide (hash = utxo.hash)) = true := by
    intro chain hash same
    rw [decide_eq_true (Prod.mk.inj same).1, decide_eq_true (Prod.mk.inj same).2]
    rfl
  have other : ∀ {chain : String} {hash : TxHash}, KnowsTx tables (chain, hash) →
      (decide (chain = "cardano") && decide (hash = utxo.hash)) = false := by
    intro chain hash known
    refine Bool.eq_false_iff.mpr fun mine => unknown ?_
    rcases Bool.and_eq_true_iff.mp mine with ⟨chainSame, hashSame⟩
    rw [← of_decide_eq_true chainSame, ← of_decide_eq_true hashSame]
    exact known
  { tables := insertAnswers tables "cardano" [utxo]
    utxo := utxo
    inputs := by
      have kept := filter_insertAllOrIgnore tables.inputs
        (inputs_keys_nodup "cardano" utxo.hash utxo) (fun row member => own (inputs_parent row member))
        (fun row member => other (whole.inputs row member))
        (fun row stored same => by rw [(Prod.mk.inj same).1, (Prod.mk.inj (Prod.mk.inj same).2).1])
      simp only [insertAnswers, insertCardanoTransactionUtxos, List.map_cons, List.map_nil,
        List.flatMap_cons, List.flatMap_nil, List.append_nil]
      exact List.Perm.of_eq kept
    inputAmounts := by
      have kept := filter_insertAllOrIgnore tables.inputAmounts
        (inputAmounts_keys_nodup "cardano" utxo.hash utxo)
        (fun row member => own (inputAmounts_parent row member))
        (fun row member => other (whole.inputAmounts row member))
        (fun row stored same => by rw [(Prod.mk.inj same).1, (Prod.mk.inj (Prod.mk.inj same).2).1])
      simp only [insertAnswers, insertCardanoTransactionUtxos, List.map_cons, List.map_nil,
        List.flatMap_cons, List.flatMap_nil, List.append_nil]
      exact List.Perm.of_eq kept
    outputs := by
      have kept := filter_insertAllOrIgnore tables.outputs
        (outputs_keys_nodup "cardano" utxo.hash utxo)
        (fun row member => own (outputs_parent row member))
        (fun row member => other (whole.outputs row member))
        (fun row stored same => by rw [(Prod.mk.inj same).1, (Prod.mk.inj (Prod.mk.inj same).2).1])
      simp only [insertAnswers, insertCardanoTransactionUtxos, List.map_cons, List.map_nil,
        List.flatMap_cons, List.flatMap_nil, List.append_nil]
      exact List.Perm.of_eq kept
    outputAmounts := by
      have kept := filter_insertAllOrIgnore tables.outputAmounts
        (outputAmounts_keys_nodup "cardano" utxo.hash utxo)
        (fun row member => own (outputAmounts_parent row member))
        (fun row member => other (whole.outputAmounts row member))
        (fun row stored same => by rw [(Prod.mk.inj same).1, (Prod.mk.inj (Prod.mk.inj same).2).1])
      simp only [insertAnswers, insertCardanoTransactionUtxos, List.map_cons, List.map_nil,
        List.flatMap_cons, List.flatMap_nil, List.append_nil]
      exact List.Perm.of_eq kept }

private def noTables : CardanoTables := ⟨.empty, .empty, .empty, .empty, .empty, .empty⟩

private theorem noTables_whole : UtxosWhole (fun _ => True) noTables where
  whole _ none_ := absurd none_ List.not_mem_nil
  answered _ none_ := absurd none_ List.not_mem_nil
  inputs _ none_ := absurd none_ List.not_mem_nil
  inputAmounts _ none_ := absurd none_ List.not_mem_nil
  outputs _ none_ := absurd none_ List.not_mem_nil
  outputAmounts _ none_ := absurd none_ List.not_mem_nil

/-- A transaction that only reads what lies at an address. -/
private def readingUtxo : RawCardanoTransactionUtxo where
  hash := ⟨"ab", by decide⟩
  inputs := [⟨"addr1", [⟨"fet", 5⟩], "cd", 0, none, none, none, false, some true⟩]
  outputs := []
  outputs_distinct := List.nodup_nil

private def readingStored : StoredTransaction :=
  .insert noTables_whole readingUtxo fun known => by
    rcases known with ⟨_, none_, _⟩
    exact absurd none_ List.not_mem_nil

end Reputo.TokenValue
