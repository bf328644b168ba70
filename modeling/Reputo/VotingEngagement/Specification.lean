import Reputo.VotingEngagement.Scores

/-!
# What voting engagement means

The score of a decentralized identifier is that of the answers in the rows of its collections,
and those are the collections that a row links to one of its wallets.  No order of rows matters.
-/

namespace Reputo.VotingEngagement

open Reputo.Library Reputo.TokenValue

variable (toLowerCase : String → String)

/-! ## Rows that count -/

/-- The row has all columns. -/
def VoteRecord.Complete (vote : VoteRecord) : Prop :=
  vote.collection_id.isSome ∧ vote.question_id.isSome ∧ vote.answer.isSome

instance (vote : VoteRecord) : Decidable vote.Complete :=
  inferInstanceAs (Decidable (_ ∧ _ ∧ _))

def VoteRecord.voterId (vote : VoteRecord) : String := JsText.trim (vote.collection_id.getD "")

def VoteRecord.questionId (vote : VoteRecord) : String := JsText.trim (vote.question_id.getD "")

def VoteRecord.rawVote (vote : VoteRecord) : String :=
  toLowerCase (JsText.trim (vote.answer.getD ""))

/-- A cell that is needed is empty. -/
def VoteRecord.Empty (vote : VoteRecord) : Prop :=
  vote.voterId = "" ∨ vote.questionId = "" ∨ vote.rawVote toLowerCase = ""

instance (vote : VoteRecord) : Decidable (vote.Empty toLowerCase) :=
  inferInstanceAs (Decidable (_ ∨ _ ∨ _))

/-- The answer of a row, if it counts. -/
def VoteRecord.read (vote : VoteRecord) : Option ValidVote :=
  if vote.Empty toLowerCase then none else validVote (vote.rawVote toLowerCase)

/-- The rows that count, as collections and answers. -/
def readVotes (votes : List VoteRecord) : List (String × ValidVote) :=
  votes.filterMap fun vote => (vote.read toLowerCase).map (vote.voterId, ·)

/-- A row is rejected: a cell is empty, or the answer of a collection that is asked for is none. -/
def VoteRecord.Rejected (allowed : String → Bool) (vote : VoteRecord) : Prop :=
  vote.Empty toLowerCase ∨
    allowed vote.voterId = true ∧ validVote (vote.rawVote toLowerCase) = none

instance (allowed : String → Bool) (vote : VoteRecord) :
    Decidable (vote.Rejected toLowerCase allowed) :=
  inferInstanceAs (Decidable (_ ∨ _ ∧ _))

variable {toLowerCase}

/-- The collections that are asked for. -/
def isAllowed (allowedVoterIds : Option (List String)) (voterId : String) : Bool :=
  !allowedVoterIds.any fun allowed => voterId ∉ allowed

theorem trimmed_of_isSome {cell : Option String} (given : cell.isSome) :
    trimmed cell = .ok (JsText.trim (cell.getD "")) := by
  cases cell with
  | none => cases given
  | some text => rfl

section Rows

variable {vote : VoteRecord} {allowed : String → Bool}

/-- The row by itself, if it counts. -/
def counted (toLowerCase : String → String) (allowed : String → Bool) (votes : List VoteRecord) :
    List (String × ValidVote) :=
  (readVotes toLowerCase votes).filter fun row => allowed row.1

theorem counted_cons (rest : List VoteRecord) :
    counted toLowerCase allowed (vote :: rest) =
      counted toLowerCase allowed [vote] ++ counted toLowerCase allowed rest := by
  rw [counted, readVotes, ← List.singleton_append, List.filterMap_append, List.filter_append]
  rfl

theorem counted_of_empty (empty : vote.Empty toLowerCase) :
    counted toLowerCase allowed [vote] = [] := by
  rw [counted, readVotes, List.filterMap_cons, VoteRecord.read, if_pos empty]
  rfl

theorem counted_of_not_empty (full : ¬vote.Empty toLowerCase) :
    counted toLowerCase allowed [vote] =
      ((validVote (vote.rawVote toLowerCase)).filter fun _ => allowed vote.voterId).toList.map
        (vote.voterId, ·) := by
  rw [counted, readVotes, List.filterMap_cons, VoteRecord.read, if_neg full]
  cases validVote (vote.rawVote toLowerCase) with
  | none => rfl
  | some answer => cases allow : allowed vote.voterId <;> simp [allow, Option.filter]

end Rows

/-- What the grouping of a row does. -/
theorem groupVote_of_complete {vote : VoteRecord} (complete : vote.Complete)
    (allowedVoterIds : Option (List String)) (grouping : Grouping) :
    groupVote toLowerCase allowedVoterIds grouping vote = .ok {
      votesByVoter := OrderedMap.groupInto Prod.fst OrderedMap.appendRow grouping.votesByVoter
        (counted toLowerCase (isAllowed allowedVoterIds) [vote])
      validVotesCount := grouping.validVotesCount +
        (counted toLowerCase (isAllowed allowedVoterIds) [vote]).length
      invalidVotesCount := grouping.invalidVotesCount +
        if vote.Rejected toLowerCase (isAllowed allowedVoterIds) then 1 else 0 } := by
  rw [groupVote, trimmed_of_isSome complete.1, trimmed_of_isSome complete.2.1,
    trimmed_of_isSome complete.2.2]
  refine congrArg Except.ok ?_
  rw [groupCells]
  by_cases empty : vote.Empty toLowerCase
  · have rejected : vote.Rejected toLowerCase (isAllowed allowedVoterIds) := Or.inl empty
    rw [counted_of_empty empty, if_pos rejected]
    exact if_pos empty
  · rw [counted_of_not_empty empty]
    refine (if_neg empty).trans ?_
    cases allow : isAllowed allowedVoterIds vote.voterId with
    | false =>
        have skipped : (allowedVoterIds.any fun allowed => vote.voterId ∉ allowed) = true := by
          simpa [isAllowed] using allow
        have kept : ¬vote.Rejected toLowerCase (isAllowed allowedVoterIds) := by
          simp [VoteRecord.Rejected, empty, allow]
        have none : (validVote (vote.rawVote toLowerCase)).filter (fun _ => false) = none := by
          cases validVote (vote.rawVote toLowerCase) <;> rfl
        refine (if_pos skipped).trans ?_
        rw [if_neg kept, none]
        rfl
    | true =>
        have asked : ¬(allowedVoterIds.any fun allowed => vote.voterId ∉ allowed) = true := by
          simpa [isAllowed] using allow
        refine (if_neg asked).trans ?_
        cases answer : validVote (vote.rawVote toLowerCase) with
        | none =>
            have rejected : vote.Rejected toLowerCase (isAllowed allowedVoterIds) :=
              Or.inr ⟨allow, answer⟩
            rw [VoteRecord.rawVote] at answer
            rw [if_pos rejected, answer]
            rfl
        | some value =>
            have kept : ¬vote.Rejected toLowerCase (isAllowed allowedVoterIds) := by
              simp [VoteRecord.Rejected, empty, answer]
            rw [VoteRecord.rawVote] at answer
            rw [if_neg kept, answer]
            rfl

theorem complete_of_groupVote {vote : VoteRecord} {allowedVoterIds : Option (List String)}
    {grouping later : Grouping}
    (grouped : groupVote toLowerCase allowedVoterIds grouping vote = .ok later) :
    vote.Complete := by
  have given : ∀ {cell : Option String} {text : String}, trimmed cell = .ok text → cell.isSome := by
    intro cell text succeeded
    cases cell with
    | none => cases succeeded
    | some text => rfl
  rcases Result.bind_eq_ok.mp grouped with ⟨_, collection, afterCollection⟩
  rcases Result.bind_eq_ok.mp afterCollection with ⟨_, question, afterQuestion⟩
  rcases Result.bind_eq_ok.mp afterQuestion with ⟨_, answer, _⟩
  exact ⟨given collection, given question, given answer⟩

/-! ## All rows -/

theorem foldlM_groupVote {votes : List VoteRecord} (complete : ∀ vote ∈ votes, vote.Complete)
    (allowedVoterIds : Option (List String)) (grouping : Grouping) :
    votes.foldlM (groupVote toLowerCase allowedVoterIds) grouping = .ok {
      votesByVoter := OrderedMap.groupInto Prod.fst OrderedMap.appendRow grouping.votesByVoter
        (counted toLowerCase (isAllowed allowedVoterIds) votes)
      validVotesCount := grouping.validVotesCount +
        (counted toLowerCase (isAllowed allowedVoterIds) votes).length
      invalidVotesCount := grouping.invalidVotesCount +
        votes.countP fun vote => vote.Rejected toLowerCase (isAllowed allowedVoterIds) } := by
  induction votes generalizing grouping with
  | nil => rfl
  | cons vote rest ih =>
      have later := ih fun other member => complete other (List.mem_cons_of_mem _ member)
      rw [List.foldlM_cons, groupVote_of_complete (complete vote List.mem_cons_self)]
      refine (later _).trans ?_
      rw [counted_cons rest, List.length_append, List.countP_cons]
      rw [Nat.add_comm (List.countP _ rest)]
      simp only [OrderedMap.groupInto, List.foldl_append, decide_eq_true_eq, Nat.add_assoc]

theorem complete_of_foldlM {votes : List VoteRecord} {allowedVoterIds : Option (List String)}
    {grouping later : Grouping}
    (grouped : votes.foldlM (groupVote toLowerCase allowedVoterIds) grouping = .ok later) :
    ∀ vote ∈ votes, vote.Complete := by
  induction votes generalizing grouping with
  | nil => exact fun _ member => absurd member List.not_mem_nil
  | cons vote rest ih =>
      rw [List.foldlM_cons] at grouped
      rcases Result.bind_eq_ok.mp grouped with ⟨middle, first, remaining⟩
      intro other member
      rcases List.mem_cons.mp member with rfl | tail
      · exact complete_of_groupVote first
      · exact ih remaining other tail

/-- How many rows were of which kind. -/
def groupingStats (toLowerCase : String → String) (votes : List VoteRecord)
    (allowedVoterIds : Option (List String)) (groups : OrderedMap String (List ValidVote)) :
    VoteGroupingStats where
  totalVotes := votes.length
  validVotes := (counted toLowerCase (isAllowed allowedVoterIds) votes).length
  invalidVotes := votes.countP fun vote => vote.Rejected toLowerCase (isAllowed allowedVoterIds)
  targetedVoterIds := (allowedVoterIds.map List.length).getD groups.keys.length

/-- The answers of every collection that is asked for, if no row lacks a column. -/
theorem groupVotesByVoter_eq_ok {votes : List VoteRecord} {allowedVoterIds : Option (List String)}
    {grouped : OrderedMap String (List ValidVote) × VoteGroupingStats} :
    groupVotesByVoter toLowerCase votes allowedVoterIds = .ok grouped ↔
      (∀ vote ∈ votes, vote.Complete) ∧
        grouped.1 = OrderedMap.groupInto Prod.fst OrderedMap.appendRow .empty
          (counted toLowerCase (isAllowed allowedVoterIds) votes) ∧
        grouped.2 = groupingStats toLowerCase votes allowedVoterIds grouped.1 := by
  constructor
  · intro succeeded
    rcases Result.bind_eq_ok.mp succeeded with ⟨grouping, folded, built⟩
    have complete := complete_of_foldlM folded
    rw [foldlM_groupVote complete] at folded
    cases folded
    cases built
    refine ⟨complete, rfl, ?_⟩
    simp only [Nat.zero_add, groupingStats]
  · rintro ⟨complete, groups, stats⟩
    rw [groupVotesByVoter, foldlM_groupVote complete]
    refine congrArg Except.ok (Prod.ext groups.symm ?_)
    rw [stats, groups]
    simp only [Nat.zero_add, groupingStats]

/-! ## Collections -/

theorem mem_indexCollection {index : OrderedMap String (List String)} {row : WalletCollectionRow}
    {wallet collectionId : String} :
    collectionId ∈ ((indexCollection toLowerCase index row).get? wallet).getD [] ↔
      collectionId ∈ (index.get? wallet).getD [] ∨
        row.read toLowerCase = some (wallet, collectionId) := by
  rw [indexCollection]
  cases read : row.read toLowerCase with
  | none => simp
  | some pair =>
      rcases pair with ⟨own, added⟩
      simp only
      rw [OrderedMap.get?_upsert]
      by_cases same : wallet = own
      · subst same
        rw [if_pos rfl, Option.getD_some]
        split
        · rename_i listed
          constructor
          · exact Or.inl
          · rintro (member | equal)
            · exact member
            · cases equal
              exact listed
        · rw [List.mem_append, List.mem_singleton]
          simp [eq_comm]
      · rw [if_neg same]
        simp [Ne.symm same]

theorem mem_loadWalletCollectionIndex {rows : List WalletCollectionRow}
    {wallet collectionId : String} :
    collectionId ∈ ((loadWalletCollectionIndex toLowerCase rows).get? wallet).getD [] ↔
      ∃ row ∈ rows, row.read toLowerCase = some (wallet, collectionId) := by
  have general : ∀ index : OrderedMap String (List String),
      collectionId ∈ ((rows.foldl (indexCollection toLowerCase) index).get? wallet).getD [] ↔
        collectionId ∈ (index.get? wallet).getD [] ∨
          ∃ row ∈ rows, row.read toLowerCase = some (wallet, collectionId) := by
    induction rows with
    | nil => simp
    | cons row rest ih =>
        intro index
        rw [List.foldl_cons, ih, mem_indexCollection, or_assoc, List.exists_mem_cons_iff]
  refine (general .empty).trans ?_
  simp [OrderedMap.empty, OrderedMap.get?]

theorem nodup_resolveCollectionIds {index : OrderedMap String (List String)} {entry : DidEntry} :
    (resolveCollectionIds toLowerCase index entry).Nodup := by
  have nodup := keys_distinctBy_nodup id (entry.userWallets.flatMap fun wallet =>
    (index.get? (toLowerCase wallet.address)).getD [])
  rw [List.map_id] at nodup
  exact nodup

/-- A row links a collection to a wallet of the decentralized identifier. -/
def Linked (toLowerCase : String → String) (walletCollections : List WalletCollectionRow)
    (entry : DidEntry) (collectionId : String) : Prop :=
  ∃ wallet ∈ entry.userWallets, ∃ row ∈ walletCollections,
    row.read toLowerCase = some (toLowerCase wallet.address, collectionId)

theorem mem_resolveCollectionIds {walletCollections : List WalletCollectionRow} {entry : DidEntry}
    {collectionId : String} :
    collectionId ∈ resolveCollectionIds toLowerCase
        (loadWalletCollectionIndex toLowerCase walletCollections) entry ↔
      Linked toLowerCase walletCollections entry collectionId := by
  rw [resolveCollectionIds, mem_distinctBy_id, List.mem_flatMap]
  simp only [mem_loadWalletCollectionIndex]
  rfl

instance (walletCollections : List WalletCollectionRow) (entry : DidEntry) (collectionId : String) :
    Decidable (Linked toLowerCase walletCollections entry collectionId) :=
  inferInstanceAs (Decidable (∃ wallet ∈ _, ∃ row ∈ _, _))

/-! ## Results -/

section Results

variable (toLowerCase)

/-- The answers of a decentralized identifier: those of the rows that count, in the collections
that are linked to one of its wallets. -/
def answersOf (walletCollections : List WalletCollectionRow) (votes : List VoteRecord)
    (entry : DidEntry) : List ValidVote :=
  ((readVotes toLowerCase votes).filter fun row =>
    Linked toLowerCase walletCollections entry row.1).map Prod.snd

variable {κ : Type} [Field κ] [LinearOrder κ] [IsStrictOrderedRing κ] [FloorRing κ]
  (log2 : κ → κ) (localeCompare : RowOrder String)

/-- One score for every decentralized identifier, in the order of these. -/
def specifiedResults (didInputMap : DidInputMap) (walletCollections : List WalletCollectionRow)
    (votes : List VoteRecord) : List (VotingEngagementResult κ) :=
  (localeCompare.orderBy didInputMap.keys).map fun did => {
    did
    voting_engagement := scoreOf log2
      (((didInputMap.get? did).map (answersOf toLowerCase walletCollections votes)).getD []) }

variable {toLowerCase log2 localeCompare}

theorem scoreOf_perm {votes others : List ValidVote} (perm : votes.Perm others) :
    scoreOf log2 votes = scoreOf log2 others := by
  rw [scoreOf, scoreOf, perm.length_eq, calculateVotingEngagement_perm log2 perm]

variable {didInputMap : DidInputMap} {walletCollections : List WalletCollectionRow}
  {votes : List VoteRecord}

theorem get?_resolveCollectionIdsByDid {index : OrderedMap String (List String)} {did : String}
    {entry : DidEntry} (found : didInputMap.get? did = some entry) :
    (resolveCollectionIdsByDid toLowerCase didInputMap index).get? did =
      some (resolveCollectionIds toLowerCase index entry) := by
  apply OrderedMap.get?_ofPairs_of_nodup
  · rw [List.map_map]
    exact didInputMap.keys_nodup
  · exact List.mem_map.mpr ⟨(did, entry), (didInputMap.get?_eq_some_iff_mem).mp found, rfl⟩

/-- The collections that are asked for. -/
def targetedVoterIds (toLowerCase : String → String) (didInputMap : DidInputMap)
    (walletCollections : List WalletCollectionRow) : List String :=
  distinctBy id ((resolveCollectionIdsByDid toLowerCase didInputMap
    (loadWalletCollectionIndex toLowerCase walletCollections)).entries.flatMap Prod.snd)

/-- What the rows of all collections that are asked for are grouped into. -/
def votesByVoter (toLowerCase : String → String) (didInputMap : DidInputMap)
    (walletCollections : List WalletCollectionRow) (votes : List VoteRecord) :
    OrderedMap String (List ValidVote) :=
  OrderedMap.groupInto Prod.fst OrderedMap.appendRow .empty (counted toLowerCase
    (isAllowed (some (targetedVoterIds toLowerCase didInputMap walletCollections))) votes)

/-- The answers that are scored are those of the decentralized identifier, in some order. -/
theorem perm_voterVotesOf {did : String} {entry : DidEntry}
    (found : didInputMap.get? did = some entry) :
    (voterVotesOf (resolveCollectionIdsByDid toLowerCase didInputMap
      (loadWalletCollectionIndex toLowerCase walletCollections))
      (votesByVoter toLowerCase didInputMap walletCollections votes) did).Perm
        (answersOf toLowerCase walletCollections votes entry) := by
  have resolved : (resolveCollectionIdsByDid toLowerCase didInputMap
      (loadWalletCollectionIndex toLowerCase walletCollections)).get? did = _ :=
    get?_resolveCollectionIdsByDid found
  rw [voterVotesOf, resolved, Option.getD_some]
  have groups : ∀ collectionId ∈ resolveCollectionIds toLowerCase
      (loadWalletCollectionIndex toLowerCase walletCollections) entry,
      ((votesByVoter toLowerCase didInputMap walletCollections votes).get? collectionId).getD [] =
        ((readVotes toLowerCase votes).filter fun row => row.1 = collectionId).map Prod.snd := by
    intro collectionId own
    have asked : collectionId ∈ targetedVoterIds toLowerCase didInputMap walletCollections :=
      mem_distinctBy_id.mpr (List.mem_flatMap.mpr
        ⟨_, (OrderedMap.get?_eq_some_iff_mem _).mp resolved, own⟩)
    rw [votesByVoter, OrderedMap.getD_groupInto_appendRow, counted, List.filter_filter]
    congr 1
    apply List.filter_congr
    intro row _
    by_cases same : row.1 = collectionId
    · simp [same, isAllowed, asked]
    · simp [same]
  rw [List.flatMap_congr groups, ← List.map_flatMap]
  refine List.Perm.map _ ((perm_flatMap_filter Prod.fst _ nodup_resolveCollectionIds).trans ?_)
  refine List.Perm.of_eq (List.filter_congr fun row _ => ?_)
  exact decide_eq_decide.mpr mem_resolveCollectionIds

/-- The computation fails exactly if a row lacks a column. -/
theorem scoreDids_eq_ok {snapshotId : String} {outputs : Outputs κ} :
    scoreDids toLowerCase log2 localeCompare snapshotId didInputMap walletCollections votes =
        .ok outputs ↔
      (∀ vote ∈ votes, vote.Complete) ∧
        outputs = outputsOf log2 localeCompare snapshotId didInputMap
        (resolveCollectionIdsByDid toLowerCase didInputMap
          (loadWalletCollectionIndex toLowerCase walletCollections))
        (votesByVoter toLowerCase didInputMap walletCollections votes,
          groupingStats toLowerCase votes
            (some (targetedVoterIds toLowerCase didInputMap walletCollections))
            (votesByVoter toLowerCase didInputMap walletCollections votes)) := by
  rw [scoreDids, Result.map_eq_ok]
  constructor
  · rintro ⟨⟨groups, stats⟩, succeeded, rfl⟩
    rcases groupVotesByVoter_eq_ok.mp succeeded with ⟨complete, sameGroups, sameStats⟩
    dsimp only at sameGroups sameStats
    rw [sameStats, sameGroups]
    exact ⟨complete, rfl⟩
  · rintro ⟨complete, rfl⟩
    exact ⟨_, groupVotesByVoter_eq_ok.mpr ⟨complete, rfl, rfl⟩, rfl⟩

theorem results_outputsOf {snapshotId : String} {stats : VoteGroupingStats} :
    (outputsOf log2 localeCompare snapshotId didInputMap
      (resolveCollectionIdsByDid toLowerCase didInputMap
        (loadWalletCollectionIndex toLowerCase walletCollections))
      (votesByVoter toLowerCase didInputMap walletCollections votes, stats)).results =
        specifiedResults toLowerCase log2 localeCompare didInputMap walletCollections votes := by
  refine (localeCompare.orderBy_comap_map (fun _ => rfl) didInputMap.keys).trans ?_
  apply List.map_congr_left
  intro did member
  have listed := (localeCompare.mem_orderBy).mp member
  rcases List.mem_map.mp listed with ⟨⟨_, entry⟩, own, rfl⟩
  have found := (OrderedMap.get?_eq_some_iff_mem didInputMap).mpr own
  rw [found, Option.map_some, Option.getD_some]
  exact congrArg _ (scoreOf_perm (perm_voterVotesOf found))

theorem results_of_complete (complete : ∀ vote ∈ votes, vote.Complete) (snapshotId : String) :
    ((scoreDids toLowerCase log2 localeCompare snapshotId didInputMap walletCollections
      votes).map (·.results)).toOption =
        some (specifiedResults toLowerCase log2 localeCompare didInputMap walletCollections
          votes) := by
  rw [scoreDids_eq_ok.mpr ⟨complete, rfl⟩]
  exact congrArg some results_outputsOf

theorem results_of_incomplete (incomplete : ¬∀ vote ∈ votes, vote.Complete)
    (snapshotId : String) :
    ((scoreDids toLowerCase log2 localeCompare snapshotId didInputMap walletCollections
      votes).map (·.results)).toOption = none := by
  cases scored : scoreDids toLowerCase log2 localeCompare snapshotId didInputMap
    walletCollections votes with
  | error failure => rfl
  | ok outputs => exact absurd (scoreDids_eq_ok.mp scored).1 incomplete

/-- The results are the specified ones, unless a row lacks a column. -/
theorem results_scoreDids (snapshotId : String) :
    ((scoreDids toLowerCase log2 localeCompare snapshotId didInputMap walletCollections
      votes).map (·.results)).toOption =
        if ∀ vote ∈ votes, vote.Complete then
          some (specifiedResults toLowerCase log2 localeCompare didInputMap walletCollections votes)
        else none := by
  by_cases complete : ∀ vote ∈ votes, vote.Complete
  · rw [if_pos complete, results_of_complete complete]
  · rw [if_neg complete, results_of_incomplete complete]

/-! ### One decentralized identifier with two answers -/

private def sampleDids : DidInputMap :=
  .ofPairs [("did:one", { userWallets := [{ address := "0xab", chain := "ethereum" }] })]

private def sampleCollections : List WalletCollectionRow :=
  [{ collection_id := some "c1", address := some " 0xAB " }]

private def firstVote : VoteRecord where
  collection_id := some "c1"
  question_id := some "q1"
  answer := some "Skip"

private def secondVote : VoteRecord where
  collection_id := some "c1"
  question_id := some "q2"
  answer := some "5"

theorem results_scoreDids_sample :
    ((scoreDids String.toLower id (.byKey id) "snapshot" sampleDids sampleCollections
        [firstVote, secondVote]).map (Outputs.results : Outputs ℚ → _)).toOption =
      some (specifiedResults String.toLower id (.byKey id) sampleDids sampleCollections
        [firstVote, secondVote]) := by
  have complete : ∀ vote ∈ [firstVote, secondVote], vote.Complete := by decide
  exact (results_scoreDids "snapshot").trans (if_pos complete)

/-! ## Details -/

/-- A row is passed over: its collection is that of no decentralized identifier. -/
def VoteRecord.Skipped (toLowerCase : String → String) (allowed : String → Bool)
    (vote : VoteRecord) : Prop :=
  ¬vote.Empty toLowerCase ∧ allowed vote.voterId = false

instance (allowed : String → Bool) (vote : VoteRecord) :
    Decidable (vote.Skipped toLowerCase allowed) :=
  inferInstanceAs (Decidable (_ ∧ _))

/-- A row counts, is rejected or is passed over. -/
theorem counted_single (allowed : String → Bool) (vote : VoteRecord) :
    (counted toLowerCase allowed [vote]).length +
      (if vote.Rejected toLowerCase allowed then 1 else 0) +
      (if vote.Skipped toLowerCase allowed then 1 else 0) = 1 := by
  by_cases empty : vote.Empty toLowerCase
  · have rejected : vote.Rejected toLowerCase allowed := Or.inl empty
    have asked : ¬vote.Skipped toLowerCase allowed := fun skipped => skipped.1 empty
    rw [counted_of_empty empty, if_pos rejected, if_neg asked]
    rfl
  · rw [counted_of_not_empty empty]
    cases allow : allowed vote.voterId with
    | false =>
        have kept : ¬vote.Rejected toLowerCase allowed := by
          simp [VoteRecord.Rejected, empty, allow]
        have skipped : vote.Skipped toLowerCase allowed := ⟨empty, allow⟩
        rw [if_neg kept, if_pos skipped]
        cases validVote (vote.rawVote toLowerCase) <;> rfl
    | true =>
        have asked : ¬vote.Skipped toLowerCase allowed := by
          simp [VoteRecord.Skipped, allow]
        cases answer : validVote (vote.rawVote toLowerCase) with
        | none =>
            have rejected : vote.Rejected toLowerCase allowed := Or.inr ⟨allow, answer⟩
            rw [if_neg asked, if_pos rejected]
            rfl
        | some value =>
            have kept : ¬vote.Rejected toLowerCase allowed := by
              simp [VoteRecord.Rejected, empty, answer]
            rw [if_neg asked, if_neg kept]
            rfl

theorem length_eq_counted (allowed : String → Bool) (votes : List VoteRecord) :
    votes.length = (counted toLowerCase allowed votes).length +
      (votes.countP fun vote => vote.Rejected toLowerCase allowed) +
      votes.countP fun vote => vote.Skipped toLowerCase allowed := by
  induction votes with
  | nil => rfl
  | cons vote rest ih =>
      have one : (counted toLowerCase allowed [vote]).length +
          (if vote.Rejected toLowerCase allowed then 1 else 0) +
          (if vote.Skipped toLowerCase allowed then 1 else 0) = 1 := counted_single allowed vote
      rw [counted_cons, List.length_cons, List.length_append, List.countP_cons, List.countP_cons]
      simp only [decide_eq_true_eq]
      omega

/-- The details agree with the results and with the rows. -/
structure Details (toLowerCase : String → String) (log2 : κ → κ) (didInputMap : DidInputMap)
    (walletCollections : List WalletCollectionRow) (votes : List VoteRecord)
    (outputs : Outputs κ) : Prop where
  dids : outputs.benchmark.dids.map (fun record => (record.did, record.voting_engagement)) =
    outputs.results.map fun result => (result.did, result.voting_engagement)
  described : ∀ record ∈ outputs.benchmark.dids, ∃ entry,
    didInputMap.get? record.did = some entry ∧ ∃ answers,
      answers.Perm (answersOf toLowerCase walletCollections votes entry) ∧
        Describes log2 answers record
  partition : (outputs.benchmark.metadata.matched_ids ++
    outputs.benchmark.metadata.unmatched_ids).Perm didInputMap.keys
  matched : ∀ did ∈ outputs.benchmark.metadata.matched_ids, ∃ entry,
    didInputMap.get? did = some entry ∧ answersOf toLowerCase walletCollections votes entry ≠ []
  unmatched : ∀ did ∈ outputs.benchmark.metadata.unmatched_ids, ∃ entry,
    didInputMap.get? did = some entry ∧ answersOf toLowerCase walletCollections votes entry = []
  withVotes : outputs.benchmark.metadata.dids_with_votes =
    outputs.benchmark.metadata.matched_ids.length
  rows : outputs.benchmark.metadata.total_votes_in_file =
    outputs.benchmark.metadata.valid_votes + outputs.benchmark.metadata.invalid_votes +
      votes.countP fun vote => vote.Skipped toLowerCase (isAllowed
        (some (targetedVoterIds toLowerCase didInputMap walletCollections)))

theorem exists_entry {did : String} (member : did ∈ localeCompare.orderBy didInputMap.keys) :
    ∃ entry, didInputMap.get? did = some entry := by
  rcases List.mem_map.mp (localeCompare.mem_orderBy.mp member) with ⟨⟨_, entry⟩, own, rfl⟩
  exact ⟨entry, (OrderedMap.get?_eq_some_iff_mem didInputMap).mpr own⟩

/-- The scored answers of a decentralized identifier. -/
def scoredAnswers (toLowerCase : String → String) (didInputMap : DidInputMap)
    (walletCollections : List WalletCollectionRow) (votes : List VoteRecord) (did : String) :
    List ValidVote :=
  voterVotesOf (resolveCollectionIdsByDid toLowerCase didInputMap
    (loadWalletCollectionIndex toLowerCase walletCollections))
    (votesByVoter toLowerCase didInputMap walletCollections votes) did

/-- Who has answers, and who has none. -/
theorem perm_matched_unmatched (answers : String → List ValidVote) (dids : List String) :
    (dids.filter (fun did => 0 < (answers did).length) ++
      dids.filter fun did => did ∉ dids.filter fun other => 0 < (answers other).length).Perm
        dids := by
  have others : (dids.filter fun did => did ∉ dids.filter fun other => 0 < (answers other).length) =
      dids.filter fun did => !decide (0 < (answers did).length) := by
    apply List.filter_congr
    intro did member
    simp [member, List.length_pos_iff]
  rw [others]
  exact List.filter_append_perm _ dids

/-- The record of a decentralized identifier. -/
def recordOf (toLowerCase : String → String) (log2 : κ → κ) (didInputMap : DidInputMap)
    (walletCollections : List WalletCollectionRow) (votes : List VoteRecord) (did : String) :
    DidBenchmarkRecord κ :=
  let answers := scoredAnswers toLowerCase didInputMap walletCollections votes did
  buildVoterBenchmarkRecord log2 did answers (scoreOf log2 answers)
    (((resolveCollectionIdsByDid toLowerCase didInputMap
      (loadWalletCollectionIndex toLowerCase walletCollections)).get? did).getD [])

theorem benchmark_outputsOf {snapshotId : String} {stats : VoteGroupingStats} :
    (outputsOf log2 localeCompare snapshotId didInputMap
      (resolveCollectionIdsByDid toLowerCase didInputMap
        (loadWalletCollectionIndex toLowerCase walletCollections))
      (votesByVoter toLowerCase didInputMap walletCollections votes, stats)).benchmark =
    let dids := localeCompare.orderBy didInputMap.keys
    let matchedDids := dids.filter fun did =>
      0 < (scoredAnswers toLowerCase didInputMap walletCollections votes did).length
    { dids := dids.map (recordOf toLowerCase log2 didInputMap walletCollections votes)
      metadata := {
        snapshot_id := snapshotId
        provided_ids := dids
        matched_ids := localeCompare.orderBy matchedDids
        unmatched_ids := dids.filter (· ∉ matchedDids)
        total_votes_in_file := stats.totalVotes
        valid_votes := stats.validVotes
        invalid_votes := stats.invalidVotes
        targeted_voter_ids := stats.targetedVoterIds
        dids_with_votes := (localeCompare.orderBy matchedDids).length } } := by
  have sorted : (localeCompare.comap DidBenchmarkRecord.did).orderBy
      ((localeCompare.orderBy didInputMap.keys).map
        (recordOf toLowerCase log2 didInputMap walletCollections votes)) = _ :=
    localeCompare.orderBy_comap_map (fun _ => rfl) didInputMap.keys
  have provided : ((localeCompare.orderBy didInputMap.keys).map
      (recordOf toLowerCase log2 didInputMap walletCollections votes)).map
        DidBenchmarkRecord.did = localeCompare.orderBy didInputMap.keys := by
    rw [List.map_map]
    exact List.map_id _
  change formatBenchmarkOutput localeCompare ((localeCompare.orderBy didInputMap.keys).map
    (recordOf toLowerCase log2 didInputMap walletCollections votes)) snapshotId stats _ = _
  rw [formatBenchmarkOutput]
  dsimp only
  rw [sorted, provided]
  rfl

theorem answersOf_perm {otherCollections : List WalletCollectionRow} {otherVotes : List VoteRecord}
    (sameCollections : walletCollections.Perm otherCollections) (sameVotes : votes.Perm otherVotes)
    (entry : DidEntry) :
    (answersOf toLowerCase walletCollections votes entry).Perm
      (answersOf toLowerCase otherCollections otherVotes entry) := by
  have linked : ∀ row : String × ValidVote, Linked toLowerCase walletCollections entry row.1 ↔
      Linked toLowerCase otherCollections entry row.1 := by
    intro row
    simp only [Linked, sameCollections.mem_iff]
  refine ((sameVotes.filterMap _).filter _).map Prod.snd |>.trans (List.Perm.of_eq ?_)
  rw [answersOf]
  congr 1
  exact List.filter_congr fun row _ => decide_eq_decide.mpr (linked row)

/-- Neither the order of the votes nor that of the wallets' collections matters. -/
theorem results_of_perm {otherCollections : List WalletCollectionRow}
    {otherVotes : List VoteRecord} (sameCollections : walletCollections.Perm otherCollections)
    (sameVotes : votes.Perm otherVotes) (snapshotId : String) :
    ((scoreDids toLowerCase log2 localeCompare snapshotId didInputMap walletCollections
        votes).map (·.results)).toOption =
      ((scoreDids toLowerCase log2 localeCompare snapshotId didInputMap otherCollections
        otherVotes).map (·.results)).toOption := by
  have complete : (∀ vote ∈ votes, vote.Complete) ↔ ∀ vote ∈ otherVotes, vote.Complete := by
    simp only [sameVotes.mem_iff]
  have specified : specifiedResults toLowerCase log2 localeCompare didInputMap walletCollections
      votes = specifiedResults toLowerCase log2 localeCompare didInputMap otherCollections
        otherVotes := by
    apply List.map_congr_left
    intro did _
    cases didInputMap.get? did with
    | none => rfl
    | some entry =>
        exact congrArg _ (scoreOf_perm (answersOf_perm sameCollections sameVotes entry))
  by_cases whole : ∀ vote ∈ votes, vote.Complete
  · rw [results_of_complete whole, results_of_complete (complete.mp whole), specified]
  · rw [results_of_incomplete whole, results_of_incomplete (mt complete.mpr whole)]

theorem results_of_perm_swapped :
    ((scoreDids String.toLower id (.byKey id) "snapshot" sampleDids sampleCollections
        [firstVote, secondVote]).map (Outputs.results : Outputs ℚ → _)).toOption =
      ((scoreDids String.toLower id (.byKey id) "snapshot" sampleDids sampleCollections
        [secondVote, firstVote]).map (·.results)).toOption :=
  results_of_perm (.refl _) (.swap _ _ _) "snapshot"

end Results

end Reputo.VotingEngagement
