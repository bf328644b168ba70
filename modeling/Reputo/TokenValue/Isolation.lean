import Reputo.TokenValue.Score

/-!
# Several resources on one lots state

The resources of a snapshot are replayed one after another on the same queues.
A queue does not look at the resource of its front lot, so the replay of one
resource may drain lots of another.  This module says exactly when it does
not, for one processing order and for all of them.
-/

namespace Reputo.TokenValue

open Reputo.Library
open Reputo.Library.Fifo (Action Portion)

/-- The transfers of one resource in replay order. -/
structure ResourceHistory where
  resourceId : ResourceId
  transfers : List OrderedTransferEvent
  own : ∀ transfer ∈ transfers, transfer.resourceId = resourceId

/-- Replay the resources one after another on one lots state. -/
def replayResources (wallets : List String) (histories : List ResourceHistory) :
    WalletLotsState :=
  histories.foldl (fun lots history => (replayTransfers lots history.transfers wallets).1)
    (initializeWalletLots wallets)

/-- Lots of one resource, in queue order. -/
def lotsOf (resourceId : ResourceId) (lots : List WalletLot) : List WalletLot :=
  lots.filter fun lot => lot.resourceId = resourceId

/-- Every wallet holds, of every resource, exactly the lots that replaying only
that resource would leave. -/
def Isolated (wallets : List String) (histories : List ResourceHistory) : Prop :=
  ∀ (resourceId : ResourceId) (wallet : String),
    ((replayResources wallets histories).get? wallet).map (lotsOf resourceId) =
      (replayResources wallets
        (histories.filter fun history => history.resourceId = resourceId)).get? wallet

/-- What a wallet holds of a resource after all its transfers: the balance that
never falls below zero. -/
def finalBalance (wallet : String) (history : ResourceHistory) : Rat :=
  lotPortion.balance 0 (walletActions wallet history.transfers)

/-- The wallet sends some of the resource in a transfer the replay applies. -/
def Sends (wallet : String) (history : ResourceHistory) : Prop :=
  ∃ transfer ∈ history.transfers,
    applies transfer = true ∧ truthy transfer.fromAddress = some wallet

/-- No tracked wallet that is left with some of `earlier` sends any of `later`. -/
def Untouched (wallets : List String) (earlier later : ResourceHistory) : Prop :=
  ∀ wallet ∈ wallets, 0 < finalBalance wallet earlier → ¬ Sends wallet later

/-- Two orders report the same score for every wallet. -/
def SameScores (wallets : List String) (left right : List ResourceHistory) : Prop :=
  ∀ (localeCompare : String → String → Ordering) (input : ScoreInput) (wallet : String),
    reportedScore (scoreWalletLots localeCompare (replayResources wallets left) input) wallet =
      reportedScore (scoreWalletLots localeCompare (replayResources wallets right) input) wallet

/-! ## Histories as groups of account events -/

/-- One wallet's share of a history, labelled with its resource. -/
def walletGroup (wallet : String) (history : ResourceHistory) :
    Fifo.Group WalletLot Rat ResourceId :=
  (history.resourceId, walletActions wallet history.transfers)

theorem lotPortion_positive_nil : lotPortion.Positive [] := by
  intro item member
  simp at member

/-- A tracked wallet sees the shared replay as its own groups on one queue. -/
theorem get?_replayResources {wallets : List String} {wallet : String}
    (tracked : wallet ∈ wallets) (histories : List ResourceHistory) :
    (replayResources wallets histories).get? wallet =
      some (lotPortion.shared (histories.map (walletGroup wallet))) := by
  have general : ∀ (state : WalletLotsState) (lots : List WalletLot),
      state.get? wallet = some lots → lotPortion.Positive lots →
      (histories.foldl (fun lots history => (replayTransfers lots history.transfers wallets).1)
          state).get? wallet =
        some (lotPortion.run lots ((histories.map (walletGroup wallet)).flatMap Prod.snd)) := by
    induction histories with
    | nil => intro state lots held _; simpa using held
    | cons history rest ih =>
        intro state lots held positive
        rw [List.foldl_cons, List.map_cons, List.flatMap_cons, Portion.run_append]
        exact ih _ _ (get?_replayTransfers tracked history.transfers held positive)
          (positive.run lotPortion (moves_walletActions wallet history.transfers))
  apply general _ _ _ lotPortion_positive_nil
  rw [get?_initializeWalletLots, if_pos tracked]

/-- A wallet that is not tracked never has lots. -/
theorem get?_replayResources_of_not_mem {wallets : List String} {wallet : String}
    (untracked : wallet ∉ wallets) (histories : List ResourceHistory) :
    (replayResources wallets histories).get? wallet = none := by
  have general : ∀ state : WalletLotsState, state.get? wallet = none →
      (histories.foldl (fun lots history => (replayTransfers lots history.transfers wallets).1)
        state).get? wallet = none := by
    induction histories with
    | nil => intro state absent; exact absent
    | cons history rest ih =>
        intro state absent
        exact ih _ (get?_replayTransfers_of_none history.transfers absent)
  apply general
  rw [get?_initializeWalletLots, if_neg untracked]

theorem walletGroups_labels (wallet : String) (histories : List ResourceHistory) :
    (histories.map (walletGroup wallet)).map Prod.fst = histories.map (·.resourceId) := by
  simp [walletGroup, Function.comp_def]

theorem receive_mem_walletActions {wallet : String} {transfers : List OrderedTransferEvent}
    {lot : WalletLot} (received : .receive lot ∈ walletActions wallet transfers) :
    ∃ transfer ∈ transfers, lot = receivedLot transfer := by
  obtain ⟨transfer, member, acted⟩ := List.mem_filterMap.mp received
  refine ⟨transfer, member, ?_⟩
  unfold walletAction at acted
  split at acted
  · split at acted
    · cases acted
    · split at acted
      · cases acted
        rfl
      · cases acted
  · cases acted

/-- Histories of distinct resources are well-labelled groups for every wallet. -/
theorem wellLabelled_walletGroups {histories : List ResourceHistory}
    (distinct : (histories.map (·.resourceId)).Nodup) (wallet : String) :
    lotLabelling.WellLabelled (histories.map (walletGroup wallet)) where
  labels_nodup := by
    rw [walletGroups_labels]
    exact distinct
  moves group member := by
    obtain ⟨history, _, rfl⟩ := List.mem_map.mp member
    exact moves_walletActions wallet history.transfers
  own group member lot received := by
    obtain ⟨history, _, rfl⟩ := List.mem_map.mp member
    obtain ⟨transfer, transferMember, rfl⟩ := receive_mem_walletActions received
    exact history.own transfer transferMember

theorem spends_walletActions_iff (wallet : String) (history : ResourceHistory) :
    Portion.Spends (walletActions wallet history.transfers) ↔ Sends wallet history := by
  constructor
  · rintro ⟨amount, spent⟩
    obtain ⟨transfer, member, acted⟩ := List.mem_filterMap.mp spent
    unfold walletAction at acted
    split at acted
    · rename_i applied
      split at acted
      · rename_i sender
        exact ⟨transfer, member, applied, sender⟩
      · split at acted <;> cases acted
    · cases acted
  · rintro ⟨transfer, member, applied, sender⟩
    exact ⟨transfer.amount, List.mem_filterMap.mpr
      ⟨transfer, member, by simp [walletAction, applied, sender]⟩⟩

/-- A list with distinct keys has at most one entry of each key. -/
theorem filter_resourceId_eq {histories : List ResourceHistory}
    (distinct : (histories.map (·.resourceId)).Nodup) {history : ResourceHistory}
    (member : history ∈ histories) :
    (histories.filter fun other => other.resourceId = history.resourceId) = [history] := by
  induction histories with
  | nil => simp at member
  | cons head rest ih =>
      simp only [List.map_cons, List.nodup_cons] at distinct
      have others : ∀ other ∈ rest, other.resourceId ≠ head.resourceId := fun other otherMember
        equal => distinct.1 (equal ▸ List.mem_map_of_mem otherMember)
      rcases List.mem_cons.mp member with rfl | tailMember
      · rw [List.filter_cons_of_pos (by simp), List.filter_eq_nil_iff.mpr]
        intro other otherMember
        simpa using others other otherMember
      · rw [List.filter_cons_of_neg (by simpa using (others history tailMember).symm)]
        exact ih distinct.2 tailMember

/-- Isolation of the whole state is isolation of every tracked wallet's
account. -/
theorem isolated_iff_walletGroups (wallets : List String) {histories : List ResourceHistory}
    (distinct : (histories.map (·.resourceId)).Nodup) :
    Isolated wallets histories ↔
      ∀ wallet ∈ wallets, lotLabelling.Isolated (histories.map (walletGroup wallet)) := by
  constructor
  · intro isolated wallet tracked group member
    obtain ⟨history, historyMember, rfl⟩ := List.mem_map.mp member
    have own := isolated history.resourceId wallet
    rw [get?_replayResources tracked, get?_replayResources tracked,
      filter_resourceId_eq distinct historyMember, Option.map_some, Option.some.injEq] at own
    exact own.trans (by simp [Portion.shared, walletGroup])
  · intro isolated resourceId wallet
    by_cases tracked : wallet ∈ wallets
    · rw [get?_replayResources tracked, get?_replayResources tracked, Option.map_some,
        Option.some.injEq]
      by_cases listed : resourceId ∈ histories.map (·.resourceId)
      · obtain ⟨history, historyMember, rfl⟩ := List.mem_map.mp listed
        have own := isolated wallet tracked _ (List.mem_map_of_mem historyMember)
        rw [filter_resourceId_eq distinct historyMember]
        exact own.trans (by simp [Portion.shared, walletGroup])
      · have none : (histories.filter fun history => history.resourceId = resourceId) = [] := by
          apply List.filter_eq_nil_iff.mpr
          intro history historyMember
          have different : history.resourceId ≠ resourceId := fun equal =>
            listed (equal ▸ List.mem_map_of_mem historyMember)
          simpa using different
        rw [none, lotsOf, List.filter_eq_nil_iff.mpr]
        · rfl
        · intro lot lotMember
          have label := (wellLabelled_walletGroups distinct wallet).label_mem_shared lotMember
          rw [walletGroups_labels] at label
          have different : lot.resourceId ≠ resourceId := by
            rintro rfl
            exact listed label
          simpa using different
    · simp [get?_replayResources_of_not_mem tracked]

/-- For one processing order, the resources are isolated exactly when no
tracked wallet sends a later resource while holding an earlier one. -/
theorem isolated_iff_pairwise (wallets : List String) {histories : List ResourceHistory}
    (distinct : (histories.map (·.resourceId)).Nodup) :
    Isolated wallets histories ↔ histories.Pairwise (Untouched wallets) := by
  have account : ∀ wallet, lotLabelling.Isolated (histories.map (walletGroup wallet)) ↔
      histories.Pairwise fun earlier later =>
        0 < finalBalance wallet earlier → ¬ Sends wallet later := by
    intro wallet
    rw [Fifo.Labelling.isolated_iff (wellLabelled_walletGroups distinct wallet),
      List.pairwise_map]
    simp only [Fifo.Labelling.Undisturbed, walletGroup, spends_walletActions_iff, finalBalance]
  rw [isolated_iff_walletGroups wallets distinct]
  simp only [account, List.pairwise_iff_forall_sublist, Untouched]
  constructor
  · intro every earlier later sub wallet tracked
    exact every wallet tracked sub
  · intro every wallet tracked earlier later sub
    exact every sub wallet tracked

/-! ## Every processing order -/

/-- Reordering histories of distinct resources keeps each resource's own part. -/
theorem filter_resourceId_of_perm {left right : List ResourceHistory} (same : left.Perm right)
    (distinct : (left.map (·.resourceId)).Nodup) (resourceId : ResourceId) :
    (left.filter fun history => history.resourceId = resourceId) =
      right.filter fun history => history.resourceId = resourceId := by
  have rightDistinct : (right.map (·.resourceId)).Nodup := (same.map _).nodup_iff.mp distinct
  by_cases listed : ∃ history ∈ left, history.resourceId = resourceId
  · obtain ⟨history, member, rfl⟩ := listed
    rw [filter_resourceId_eq distinct member,
      filter_resourceId_eq rightDistinct (same.mem_iff.mp member)]
  · have leftNil : (left.filter fun history => history.resourceId = resourceId) = [] :=
      List.filter_eq_nil_iff.mpr fun history member => by
        simpa using fun equal => listed ⟨history, member, equal⟩
    have filtered := same.filter fun history => decide (history.resourceId = resourceId)
    rw [leftNil] at filtered ⊢
    exact filtered.nil_eq

/-- Two isolated orders leave the same lots, up to their order. -/
theorem perm_of_isolated {wallets : List String} {left right : List ResourceHistory}
    (same : left.Perm right) (distinct : (left.map (·.resourceId)).Nodup)
    (leftIsolated : Isolated wallets left) (rightIsolated : Isolated wallets right)
    {wallet : String} (tracked : wallet ∈ wallets) :
    (lotPortion.shared (left.map (walletGroup wallet))).Perm
      (lotPortion.shared (right.map (walletGroup wallet))) := by
  apply List.perm_iff_count.mpr
  intro lot
  have leftLots := leftIsolated lot.resourceId wallet
  have rightLots := rightIsolated lot.resourceId wallet
  rw [filter_resourceId_of_perm same distinct, ← rightLots, get?_replayResources tracked,
    get?_replayResources tracked, Option.map_some, Option.map_some, Option.some.injEq] at leftLots
  have counted := congrArg (List.count lot) leftLots
  rwa [lotsOf, lotsOf, List.count_filter (by simp), List.count_filter (by simp)] at counted

theorem sameScores_of_isolated {wallets : List String} {left right : List ResourceHistory}
    (same : left.Perm right) (distinct : (left.map (·.resourceId)).Nodup)
    (leftIsolated : Isolated wallets left) (rightIsolated : Isolated wallets right) :
    SameScores wallets left right := by
  intro localeCompare input wallet
  rw [reportedScore_scoreWalletLots, reportedScore_scoreWalletLots]
  by_cases tracked : wallet ∈ wallets
  · rw [get?_replayResources tracked, get?_replayResources tracked, Option.map_some,
      Option.map_some]
    congr 1
    exact token_value_of_perm input wallet
      (perm_of_isolated same distinct leftIsolated rightIsolated tracked)
  · rw [get?_replayResources_of_not_mem tracked, get?_replayResources_of_not_mem tracked]

/-- A relation holds along every order exactly when it holds between any two
different entries. -/
theorem forall_perm_pairwise_iff (wallets : List String) {histories : List ResourceHistory}
    (distinct : (histories.map (·.resourceId)).Nodup) :
    (∀ order : List ResourceHistory, order.Perm histories → order.Pairwise (Untouched wallets)) ↔
      ∀ earlier ∈ histories, ∀ later ∈ histories,
        earlier.resourceId ≠ later.resourceId → Untouched wallets earlier later := by
  constructor
  · intro every earlier earlierMember later laterMember different
    obtain ⟨before, after, split⟩ := List.append_of_mem earlierMember
    have order : (earlier :: (before ++ after)).Perm histories := by
      rw [split]
      exact List.perm_middle.symm
    have laterRest : later ∈ before ++ after := by
      have inOrder := order.mem_iff.mpr laterMember
      rcases List.mem_cons.mp inOrder with rfl | rest
      · exact absurd rfl different
      · exact rest
    exact (List.pairwise_cons.mp (every _ order)).1 later laterRest
  · intro every order same
    have orderDistinct : (order.map (·.resourceId)).Nodup := (same.map _).nodup_iff.mpr distinct
    rw [List.Nodup, List.pairwise_map] at orderDistinct
    refine orderDistinct.imp_of_mem ?_
    intro earlier later earlierMember laterMember different
    exact every earlier (same.mem_iff.mp earlierMember) later (same.mem_iff.mp laterMember)
      different

/-- A transfer of `amount` into or out of the wallet `0xw`. -/
def sampleTransfer (resourceId hash : String) (sender receiver : Option String) (amount : Rat) :
    OrderedTransferEvent where
  resourceId := resourceId
  blockOrdinal := "0x1"
  transactionHash := hash
  logIndex := 0
  fromAddress := sender
  toAddress := receiver
  amount := amount
  blockTimestamp := some 0
  isStaking := false

/-- `0xw` receives ten units of the first token. -/
def receivedFirst : ResourceHistory where
  resourceId := "ethereum:0xa"
  transfers := [sampleTransfer "ethereum:0xa" "0x1" (some "0xs") (some "0xw") 10]
  own := by simp [sampleTransfer]

/-- `0xw` receives and sends four units of the second token. -/
def spentSecond : ResourceHistory where
  resourceId := "ethereum:0xb"
  transfers :=
    [sampleTransfer "ethereum:0xb" "0x2" (some "0xs") (some "0xw") 4,
      sampleTransfer "ethereum:0xb" "0x3" (some "0xw") (some "0xs") 4]
  own := by simp [sampleTransfer]

end Reputo.TokenValue
