import Mathlib.Algebra.Order.Floor.Ring
import Reputo.Library.Json
import Reputo.Library.JsText
import Reputo.Library.OrderedMap
import Reputo.Library.Query
import Reputo.Library.Result
import Reputo.Orchestrator.Presets
import Reputo.TokenValue.Resources

/-!
# Voting engagement

How varied the answers are that a decentralized identifier gave in the votes of its wallets'
collections.  The answers are grouped by collection, and the score is the entropy of the eleven
possible answers, as a share of the greatest possible one.  `toLowerCase` stands for the method of
JavaScript strings, and `log2` for the function of its `Math`.
-/

namespace Reputo.VotingEngagement

open Reputo.Library Reputo.Orchestrator Reputo.TokenValue

/-! ## Answers -/

inductive ValidVote
  | skip | one | two | three | four | five | six | seven | eight | nine | ten
  deriving DecidableEq, Repr

namespace ValidVote

def text : ValidVote → String
  | skip => "skip"
  | one => "1"
  | two => "2"
  | three => "3"
  | four => "4"
  | five => "5"
  | six => "6"
  | seven => "7"
  | eight => "8"
  | nine => "9"
  | ten => "10"

end ValidVote

open ValidVote in
def VALID_VOTES : List ValidVote :=
  [skip, one, two, three, four, five, six, seven, eight, nine, ten]

/-- `VALID_VOTES.includes(text)`, as the answer that it is. -/
def validVote (text : String) : Option ValidVote := VALID_VOTES.find? fun vote => vote.text = text

/-! ## Votes by collection -/

/-- A row of the votes; a column that the row lacks is `undefined`. -/
structure VoteRecord where
  collection_id : Option String
  question_id : Option String
  answer : Option String
  deriving DecidableEq, Repr

structure VoteGroupingStats where
  totalVotes : Nat
  validVotes : Nat
  invalidVotes : Nat
  targetedVoterIds : Nat
  deriving DecidableEq, Repr

/-- The loop variables of the grouping. -/
structure Grouping where
  votesByVoter : OrderedMap String (List ValidVote) := .empty
  validVotesCount : Nat := 0
  invalidVotesCount : Nat := 0

def trimmed (cell : Option String) : Except String String :=
  Result.ofOption "Cannot read properties of undefined (reading \x27trim\x27)"
    (cell.map JsText.trim)

section Grouping

variable (toLowerCase : String → String)

def groupCells (allowedVoterIds : Option (List String)) (grouping : Grouping)
    (voterId questionId rawVote : String) : Grouping :=
  if voterId = "" ∨ questionId = "" ∨ rawVote = "" then
    { grouping with invalidVotesCount := grouping.invalidVotesCount + 1 }
  else if allowedVoterIds.any fun allowed => voterId ∉ allowed then grouping
  else
    match validVote rawVote with
    | none => { grouping with invalidVotesCount := grouping.invalidVotesCount + 1 }
    | some voteValue => {
        grouping with
        votesByVoter :=
          grouping.votesByVoter.upsert voterId fun votes => votes.getD [] ++ [voteValue]
        validVotesCount := grouping.validVotesCount + 1 }

def groupVote (allowedVoterIds : Option (List String)) (grouping : Grouping) (vote : VoteRecord) :
    Except String Grouping := do
  let voterId ← trimmed vote.collection_id
  let questionId ← trimmed vote.question_id
  let rawVote := toLowerCase (← trimmed vote.answer)
  return groupCells allowedVoterIds grouping voterId questionId rawVote

def groupVotesByVoter (votes : List VoteRecord) (allowedVoterIds : Option (List String)) :
    Except String (OrderedMap String (List ValidVote) × VoteGroupingStats) := do
  let grouping ← votes.foldlM (groupVote toLowerCase allowedVoterIds) {}
  return (grouping.votesByVoter, {
    totalVotes := votes.length
    validVotes := grouping.validVotesCount
    invalidVotes := grouping.invalidVotesCount
    targetedVoterIds := (allowedVoterIds.map List.length).getD grouping.votesByVoter.keys.length })

/-! ## Collections of a decentralized identifier -/

structure WalletCollectionRow where
  collection_id : Option String
  address : Option String
  deriving DecidableEq, Repr

/-- The collection and the wallet of a row, where both are given. -/
def WalletCollectionRow.read (row : WalletCollectionRow) : Option (String × String) :=
  match (row.collection_id.map JsText.trim).filter (· ≠ ""),
    (row.address.map fun address => toLowerCase (JsText.trim address)).filter (· ≠ "") with
  | some collectionId, some wallet => some (wallet, collectionId)
  | _, _ => none

def indexCollection (index : OrderedMap String (List String)) (row : WalletCollectionRow) :
    OrderedMap String (List String) :=
  match row.read toLowerCase with
  | none => index
  | some (wallet, collectionId) => index.upsert wallet fun collections =>
      if collectionId ∈ collections.getD [] then collections.getD []
      else collections.getD [] ++ [collectionId]

def loadWalletCollectionIndex (rows : List WalletCollectionRow) : OrderedMap String (List String) :=
  rows.foldl (indexCollection toLowerCase) .empty

def resolveCollectionIds (walletCollectionIndex : OrderedMap String (List String))
    (entry : DidEntry) : List String :=
  distinctBy id (entry.userWallets.flatMap fun wallet =>
    (walletCollectionIndex.get? (toLowerCase wallet.address)).getD [])

def resolveCollectionIdsByDid (didInputMap : DidInputMap)
    (walletCollectionIndex : OrderedMap String (List String)) : OrderedMap String (List String) :=
  .ofPairs (didInputMap.entries.map fun entry =>
    (entry.1, resolveCollectionIds toLowerCase walletCollectionIndex entry.2))

end Grouping

/-! ## Scores -/

section Scores

variable {κ : Type} [Field κ] [LinearOrder κ]

/-- `Math.round(score * 10 ** 6) / 10 ** 6`. -/
def roundScore [IsStrictOrderedRing κ] [FloorRing κ] (score : κ) : κ :=
  ⌊score * 10 ^ 6 + 1 / 2⌋ / 10 ^ 6

variable (log2 : κ → κ)

def countVote (voteCounts : List Nat) (voteValue : ValidVote) : List Nat :=
  voteCounts.modify (VALID_VOTES.idxOf voteValue) (· + 1)

/-- `entropy -= prob * Math.log2(prob)`, for a probability that is not zero. -/
def addEntropy (entropy prob : κ) : κ :=
  if 0 < prob then entropy - prob * log2 prob else entropy

def calculateVotingEngagement (voterVotes : List ValidVote) : κ :=
  let totalVotes := voterVotes.length
  if totalVotes = 0 then 0
  else
    let voteCounts := voterVotes.foldl countVote (List.replicate 11 0)
    let probabilities := voteCounts.map fun (count : Nat) => (count : κ) / totalVotes
    probabilities.foldl (addEntropy log2) 0 / log2 11

/-! ## The details of the scores -/

structure DidBenchmarkRecord (κ : Type) where
  did : String
  collection_ids : List String
  total_votes : Nat
  vote_distribution : List (ValidVote × Nat)
  entropy : κ
  voting_engagement : κ

open ValidVote in
/-- The answers as the keys of an object: those that are numbers come first. -/
def distributionKeys : List ValidVote :=
  [one, two, three, four, five, six, seven, eight, nine, ten, skip]

def countDistribution (distribution : List (ValidVote × Nat)) (vote : ValidVote) :
    List (ValidVote × Nat) :=
  distribution.map fun (key, count) => if key = vote then (key, count + 1) else (key, count)

def addCount (totalVotes : Nat) (entropy : κ) (count : Nat) : κ :=
  if 0 < count then entropy - (count : κ) / totalVotes * log2 ((count : κ) / totalVotes)
  else entropy

def buildVoterBenchmarkRecord [IsStrictOrderedRing κ] [FloorRing κ] (did : String)
    (voterVotes : List ValidVote) (votingEngagement : κ) (collectionIds : List String) :
    DidBenchmarkRecord κ :=
  let totalVotes := voterVotes.length
  let voteDistribution :=
    voterVotes.foldl countDistribution (distributionKeys.map fun vote => (vote, 0))
  let entropy := if 0 < totalVotes then
    (voteDistribution.map Prod.snd).foldl (addCount log2 totalVotes) 0 else 0
  { did
    collection_ids := collectionIds
    total_votes := totalVotes
    vote_distribution := voteDistribution
    entropy := roundScore entropy
    voting_engagement := votingEngagement }

structure VotingEngagementBenchmarkMetadata where
  snapshot_id : String
  provided_ids : List String
  matched_ids : List String
  unmatched_ids : List String
  total_votes_in_file : Nat
  valid_votes : Nat
  invalid_votes : Nat
  targeted_voter_ids : Nat
  dids_with_votes : Nat

structure VotingEngagementBenchmark (κ : Type) where
  dids : List (DidBenchmarkRecord κ)
  metadata : VotingEngagementBenchmarkMetadata

def formatBenchmarkOutput (localeCompare : RowOrder String) (records : List (DidBenchmarkRecord κ))
    (snapshotId : String) (stats : VoteGroupingStats) (matchedDids : List String) :
    VotingEngagementBenchmark κ :=
  let sortedRecords := (localeCompare.comap DidBenchmarkRecord.did).orderBy records
  let providedIds := sortedRecords.map (·.did)
  let matchedIds := localeCompare.orderBy matchedDids
  { dids := sortedRecords
    metadata := {
      snapshot_id := snapshotId
      provided_ids := providedIds
      matched_ids := matchedIds
      unmatched_ids := providedIds.filter (· ∉ matchedDids)
      total_votes_in_file := stats.totalVotes
      valid_votes := stats.validVotes
      invalid_votes := stats.invalidVotes
      targeted_voter_ids := stats.targetedVoterIds
      dids_with_votes := matchedIds.length } }

end Scores

/-! ## The computation -/

section Compute

variable {ν : Type}

def requiredText (inputs : List (PresetInput ν)) (key : String) : Except String String :=
  Result.ofOption s!"Missing required \"{key}\" input" ((findValue inputs key).bind Json.asString)

structure InputKeys where
  didsKey : String
  votesKey : String
  walletCollectionsKey : String

def extractInputKeys (inputs : List (PresetInput ν)) : Except String InputKeys := do
  let votesKey ← requiredText inputs "votes"
  let walletCollectionsKey ← requiredText inputs "wallet_collections"
  let didsKey ← requiredText inputs "dids"
  return { didsKey, votesKey, walletCollectionsKey }

/-- The files of a snapshot as they are read. -/
structure Files where
  loadDidInputMap : String → Except String DidInputMap
  loadWalletCollections : String → Except String (List WalletCollectionRow)
  loadVotes : String → Except String (List VoteRecord)

structure VotingEngagementResult (κ : Type) where
  did : String
  voting_engagement : κ

structure Outputs (κ : Type) where
  results : List (VotingEngagementResult κ)
  benchmark : VotingEngagementBenchmark κ

variable {κ : Type} [Field κ] [LinearOrder κ] [IsStrictOrderedRing κ] [FloorRing κ]
  (toLowerCase : String → String) (log2 : κ → κ) (localeCompare : RowOrder String)

def scoreOf (voterVotes : List ValidVote) : κ :=
  if 0 < voterVotes.length then roundScore (calculateVotingEngagement log2 voterVotes) else 0

/-- The answers of the collections of a decentralized identifier. -/
def voterVotesOf (collectionIdsByDid : OrderedMap String (List String))
    (votesByVoter : OrderedMap String (List ValidVote)) (did : String) : List ValidVote :=
  ((collectionIdsByDid.get? did).getD []).flatMap fun collectionId =>
    (votesByVoter.get? collectionId).getD []

/-- What is written for the answers by collection. -/
def outputsOf (snapshotId : String) (didInputMap : DidInputMap)
    (collectionIdsByDid : OrderedMap String (List String))
    (grouped : OrderedMap String (List ValidVote) × VoteGroupingStats) : Outputs κ :=
  let dids := localeCompare.orderBy didInputMap.keys
  let voterVotes := voterVotesOf collectionIdsByDid grouped.1
  let results := dids.map fun did => { did, voting_engagement := scoreOf log2 (voterVotes did) }
  let records := dids.map fun did => buildVoterBenchmarkRecord log2 did (voterVotes did)
    (scoreOf log2 (voterVotes did)) ((collectionIdsByDid.get? did).getD [])
  let matchedDids := dids.filter fun did => 0 < (voterVotes did).length
  { results := (localeCompare.comap VotingEngagementResult.did).orderBy results
    benchmark := formatBenchmarkOutput localeCompare records snapshotId grouped.2 matchedDids }

/-- What is written for the loaded files. -/
def scoreDids (snapshotId : String) (didInputMap : DidInputMap)
    (walletCollections : List WalletCollectionRow) (votes : List VoteRecord) :
    Except String (Outputs κ) :=
  let walletCollectionIndex := loadWalletCollectionIndex toLowerCase walletCollections
  let collectionIdsByDid := resolveCollectionIdsByDid toLowerCase didInputMap walletCollectionIndex
  let targetedVoterIds := distinctBy id (collectionIdsByDid.entries.flatMap Prod.snd)
  (groupVotesByVoter toLowerCase votes (some targetedVoterIds)).map
    (outputsOf log2 localeCompare snapshotId didInputMap collectionIdsByDid)

def computeVotingEngagement (files : Files) (snapshotId : String) (inputs : List (PresetInput ν)) :
    Except String (Outputs κ) := do
  let keys ← extractInputKeys inputs
  let didInputMap ← files.loadDidInputMap keys.didsKey
  let walletCollections ← files.loadWalletCollections keys.walletCollectionsKey
  let votes ← files.loadVotes keys.votesKey
  scoreDids toLowerCase log2 localeCompare snapshotId didInputMap walletCollections votes

end Compute

end Reputo.VotingEngagement
