import Reputo.CustomScore.AllOrPending
import Reputo.Library.OrderedMap

/-!
# Posting scores

The two paths on which the rows of a score file are posted in batches: the raw scores of the
children of a combined snapshot, and the scores of a standalone snapshot.  Both count what became
of the users, the one from its own rows, the other from what the responses say.
-/

namespace Reputo.ScorePosting

open Reputo.Library
open Reputo.CustomScore (RawScoreRow ObservedMinMaxObserver NormalizationObservation chunk
  EXPECTED_DROP_MESSAGE)

/-! ## Files -/

/-- A row of a file, by its columns. -/
abbrev CsvRow := OrderedMap String String

/-- What is read: the objects of the store, the rows of a text, which may be no table, and the
finite numbers that texts are. -/
structure ScoreFiles where
  getObject : (key : String) → Option String
  parse : (text : String) → Option (List CsvRow)
  toNumber : (text : String) → Option ℚ

section Rows

variable (files : ScoreFiles) (scoreColumnKey : String)

def readDid (row : CsvRow) : Option String :=
  ((row.get? "did").map JsText.trim).filter (· ≠ "")

/-- An empty cell is no score. -/
def readScore (row : CsvRow) : Option ℚ :=
  ((row.get? scoreColumnKey).filter (· ≠ "")).bind files.toNumber

end Rows

/-! ## Requests and responses -/

/-- Users posted with one request. -/
def POST_CHUNK_SIZE : Nat := 500

structure PlainScoreEntry where
  score : ℚ
  type : String
  timestamp : String
  deriving DecidableEq, Repr

abbrev PostScoresRequest := OrderedMap String PlainScoreEntry

/-- A response of the right shape: two counts, and a message for each of some users. -/
structure PostScoresResponse where
  statusOk : Nat
  statusFailed : Nat
  results : OrderedMap String String
  requestId : Option String

/-! ## Raw scores of children -/

inductive RawScoreError where
  | missingObject (csvKey : String)
  | unreadable (csvKey : String)
  | missingDid (childKey : String)
  | duplicateDid (childKey did : String)
  | nonFiniteScore (childKey did : String)
  | noAcceptedScores (childKey : String)
  deriving DecidableEq, Repr

structure ResolvedChild where
  algorithmKey : String
  scoreType : String
  csvKey : String
  scoreColumnKey : String
  deriving DecidableEq, Repr

/-- What became of the rows of one child. -/
structure CustomRawScoresChildResult where
  scoreType : String
  csvKey : String
  observation : NormalizationObservation ℚ
  posted : Nat
  ok : Nat
  dropped : Nat
  rejected : Nat
  lastRequestId : Option String
  deriving DecidableEq, Repr

/-- The rows of a child, after those that were seen. -/
def parseNativeScoreRows (files : ScoreFiles) (child : ResolvedChild) :
    (seen : List String) → List CsvRow → Except RawScoreError (List (RawScoreRow ℚ))
  | _, [] => .ok []
  | seen, row :: rest =>
      match readDid row with
      | none => .error (.missingDid child.algorithmKey)
      | some did =>
          if did ∈ seen then .error (.duplicateDid child.algorithmKey did)
          else match readScore files child.scoreColumnKey row with
            | none => .error (.nonFiniteScore child.algorithmKey did)
            | some score =>
                (parseNativeScoreRows files child (did :: seen) rest).map (⟨did, score⟩ :: ·)

/-- The counts of a child so far. -/
structure ChildTally where
  observer : ObservedMinMaxObserver ℚ := {}
  ok : Nat := 0
  dropped : Nat := 0
  rejected : Nat := 0
  lastRequestId : Option String := none

/-- Every row counts, by the message for its user. -/
def countRow (response : PostScoresResponse) (tally : ChildTally) (row : RawScoreRow ℚ) :
    ChildTally :=
  let message := response.results.get? row.did
  if message = some "OK" then
    { tally with observer := tally.observer.accept row.score, ok := tally.ok + 1 }
  else if message = some EXPECTED_DROP_MESSAGE then { tally with dropped := tally.dropped + 1 }
  else { tally with rejected := tally.rejected + 1 }

def countBatch (tally : ChildTally) (batch : List (RawScoreRow ℚ))
    (response : PostScoresResponse) : ChildTally :=
  batch.foldl (countRow response)
    { tally with lastRequestId := response.requestId <|> tally.lastRequestId }

/-- What was posted for a child, and what is reported. -/
structure ChildRun where
  child : ResolvedChild
  requests : List PostScoresRequest
  outcome : Except RawScoreError CustomRawScoresChildResult

section Children

variable (files : ScoreFiles) (timestamp : String)

def toRequest (scoreType : String) (batch : List (RawScoreRow ℚ)) : PostScoresRequest :=
  .ofPairs (batch.map fun row => (row.did, ⟨row.score, scoreType, timestamp⟩))

/-- The responses are given by the position of the batch. -/
def postRows (responses : Nat → PostScoresResponse) (child : ResolvedChild)
    (rows : List (RawScoreRow ℚ)) : ChildRun :=
  let batches := chunk rows POST_CHUNK_SIZE
  let tally := batches.zipIdx.foldl
    (fun tally batch => countBatch tally batch.1 (responses batch.2)) {}
  { child
    requests := batches.map (toRequest timestamp child.scoreType)
    outcome := match tally.observer.finish with
      | none => .error (.noAcceptedScores child.algorithmKey)
      | some observation => .ok
          { scoreType := child.scoreType
            csvKey := child.csvKey
            observation
            posted := rows.length
            ok := tally.ok
            dropped := tally.dropped
            rejected := tally.rejected
            lastRequestId := tally.lastRequestId } }

def submitChild (responses : Nat → PostScoresResponse) (child : ResolvedChild) : ChildRun :=
  match files.getObject child.csvKey with
  | none => ⟨child, [], .error (.missingObject child.csvKey)⟩
  | some text => match files.parse text with
      | none => ⟨child, [], .error (.unreadable child.csvKey)⟩
      | some records => match parseNativeScoreRows files child [] records with
          | .error error => ⟨child, [], .error error⟩
          | .ok rows => postRows timestamp responses child rows

/-- The children in turn until one fails; responses are given by the positions of the child and of
the batch. -/
def submitCustomRawScores (responses : Nat → Nat → PostScoresResponse) :
    (position : Nat) → List ResolvedChild →
      List ChildRun × Except RawScoreError (List CustomRawScoresChildResult)
  | _, [] => ([], .ok [])
  | position, child :: rest =>
      let run := submitChild files timestamp (responses position) child
      match run.outcome with
      | .error error => ([run], .error error)
      | .ok result =>
          let (runs, outcome) := submitCustomRawScores responses (position + 1) rest
          (run :: runs, outcome.map (result :: ·))

end Children

/-! ## Scores of a standalone snapshot -/

/-- `did:(plc|sub):` and 24 letters or digits. -/
def isValidDid (value : String) : Bool :=
  let characters := value.toList
  (characters.take 8 = "did:plc:".toList || characters.take 8 = "did:sub:".toList) &&
    (characters.drop 8).length = 24 && (characters.drop 8).all (·.isAlphanum)

structure ScoreSource where
  scoreType : String
  csvKey : String
  scoreColumnKey : String
  deriving DecidableEq, Repr

structure PostSnapshotScoresResult where
  attempted : Bool
  posted : Nat
  ok : Nat
  failed : Nat
  dropped : Nat
  skipped : Nat
  deriving DecidableEq, Repr

def EMPTY_RESULT : PostSnapshotScoresResult := ⟨false, 0, 0, 0, 0, 0⟩

inductive DeepIdPostScoresFailureCategory where
  | output_unreadable
  | unknown
  deriving DecidableEq, Repr

/-- The scores of the rows with a valid identifier, and how many rows have none. -/
def collectRow (files : ScoreFiles) (timestamp : String) (source : ScoreSource)
    (collected : PostScoresRequest × Nat) (row : CsvRow) : PostScoresRequest × Nat :=
  match ((row.get? "did").map JsText.trim).filter isValidDid,
      readScore files source.scoreColumnKey row with
  | some did, some score => (collected.1.set did ⟨score, source.scoreType, timestamp⟩, collected.2)
  | some _, none => (collected.1, collected.2 + 1)
  | none, _ => (collected.1, collected.2 + 1)

/-- The status counts what is OK, the messages count the rest. -/
def countResponse (totals : PostSnapshotScoresResult) (response : PostScoresResponse) :
    PostSnapshotScoresResult :=
  let messages := response.results.entries.map (·.2)
  { totals with
    ok := totals.ok + response.statusOk
    dropped := totals.dropped + messages.countP fun message =>
      message ≠ "OK" ∧ message = EXPECTED_DROP_MESSAGE
    failed := totals.failed + messages.countP fun message =>
      message ≠ "OK" ∧ message ≠ EXPECTED_DROP_MESSAGE }

/-- What was posted with which responses, and what is reported. -/
structure SnapshotRun where
  posts : List (PostScoresRequest × PostScoresResponse)
  outcome : Except DeepIdPostScoresFailureCategory PostSnapshotScoresResult

section Standalone

variable (files : ScoreFiles) (timestamp : String)

/-- One source; without scores nothing is posted. -/
def postSource (responses : Nat → PostScoresResponse) (source : ScoreSource)
    (totals : PostSnapshotScoresResult) (records : List CsvRow) :
    List (PostScoresRequest × PostScoresResponse) × PostSnapshotScoresResult :=
  let (scores, skipped) := records.foldl (collectRow files timestamp source) (.empty, 0)
  let totals := { totals with skipped := totals.skipped + skipped }
  if scores.entries = [] then ([], totals)
  else
    let posts : List (PostScoresRequest × PostScoresResponse) :=
      (chunk scores.entries POST_CHUNK_SIZE).zipIdx.map fun batch =>
        (.ofPairs batch.1, responses batch.2)
    let totals := posts.foldl (fun totals post => countResponse totals post.2) totals
    (posts, { totals with posted := totals.posted + scores.entries.length })

/-- The sources in turn. -/
def postSources (responses : Nat → Nat → PostScoresResponse) :
    (position : Nat) → List ScoreSource → PostSnapshotScoresResult → SnapshotRun
  | _, [], totals => ⟨[], .ok totals⟩
  | position, source :: rest, totals =>
      match files.getObject source.csvKey with
      | none => ⟨[], .error .output_unreadable⟩
      | some text => match files.parse text with
          | none => ⟨[], .error .unknown⟩
          | some records =>
              let (posts, totals) := postSource files timestamp (responses position) source totals
                records
              let run := postSources responses (position + 1) rest totals
              ⟨posts ++ run.posts, run.outcome⟩

def postScores (responses : Nat → Nat → PostScoresResponse) (sources : List ScoreSource) :
    SnapshotRun :=
  if sources = [] then ⟨[], .ok EMPTY_RESULT⟩
  else postSources files timestamp responses 0 sources { EMPTY_RESULT with attempted := true }

end Standalone

end Reputo.ScorePosting
