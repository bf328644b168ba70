import Reputo.CustomScore.EncryptedCohort
import Reputo.CustomScore.EvaluationPlan

/-!
# Submitting the encrypted scores

A pass reads the users page by page.  A page is classified as a whole before its complete
users are evaluated and posted in chunks, so that a pending user ends the pass before any user
of its page is posted.  An expired cursor starts a new pass.

What DeepID and the evaluator answer is given for each pass by the position of the question.
-/

namespace Reputo.CustomScore

open Reputo.Library Reputo.Orchestrator

variable {ν : Type}

/-! ## Requests and answers -/

structure SealMetadata where
  id : String
  deriving DecidableEq, Repr

structure EncryptedCustomScoreUser where
  did : String
  keyId : String
  ciphertexts : List (String × String)
  deriving DecidableEq, Repr

structure EncryptedCustomScoreResult where
  did : String
  keyId : String
  ciphertext : String
  deriving DecidableEq, Repr

structure EncryptedScoreEntry where
  ciphertext : String
  keyId : String
  type : String
  timestamp : String
  deriving DecidableEq, Repr

abbrev PostScoresRequest := List (String × EncryptedScoreEntry)

/-- The message for each user, if any. -/
structure PostScoresResponse where
  results : String → Option String
  requestId : Option String

/-- The answers of one pass: the pages, the metadata and its registration for a user of a page,
the ciphertext of an evaluated user, and the response to a batch of a page. -/
structure PassAnswers (ν : Type) where
  users : UserPages ν
  getSealMetadata : (page : Nat) → (did : String) → Except RequestError SealMetadata
  registerSealMetadata : (page : Nat) → (did : String) → Except EncryptedCustomScoreError Unit
  evaluateUser : EncryptedCustomScoreUser → Except EncryptedCustomScoreError String
  postScores : (page batch : Nat) → Except RequestError PostScoresResponse

/-! ## One pass -/

inductive SubmissionFailure where
  | children (message : String)
  | unsupportedKind (algorithmKey : String)
  | duplicateObservation (childKey : String)
  | missingObservation (childKey : String)
  | violation (violation : EncryptedCohortViolation)
  | evaluation (error : EncryptedCustomScoreError)
  | request (error : RequestError) (lastRequestId : Option String)
  | rejectedEntry (did : String) (message lastRequestId : Option String)
  | cursorExpired (cursorRestarts : Nat) (lastRequestId : Option String)
  deriving DecidableEq, Repr

/-- Why a pass ends early. -/
inductive PassStop where
  | pendingEncryption
  | cursorExpired
  | failed (failure : SubmissionFailure)
  deriving DecidableEq, Repr

structure ProcessingPassState where
  complete : Nat := 0
  incomplete : Nat := 0
  scannedUsers : Nat := 0
  pages : Nat := 0
  submitted : Nat := 0
  batches : Nat := 0
  deriving DecidableEq, Repr

/-- The counts and the posts of the running pass, and what outlives it. -/
structure SubmissionState where
  pass : ProcessingPassState := {}
  posts : List (PostScoresRequest × Except RequestError PostScoresResponse) := []
  metadataByUrl : List (String × SealMetadata) := []
  registeredKeys : List String := []
  lastRequestId : Option String := none

/-- Items in chunks of at most `size`. -/
def chunkWithin {α : Type} (size : Nat) : Nat → List α → List (List α)
  | 0, _ => []
  | _ + 1, [] => []
  | room + 1, items => items.take size :: chunkWithin size room (items.drop size)

def chunk {α : Type} (items : List α) (size : Nat) : List (List α) :=
  chunkWithin size items.length items

def ENCRYPTED_POST_CHUNK_SIZE : Nat := 25

def CUSTOM_SCORE_EVALUATION_BATCH_LIMIT : Nat := 1000

section Pass

variable (answers : PassAnswers ν) (selectedChildren : List SelectedEncryptedChild)
  (timestamp : String)

/-- The key id of the metadata, which is read and registered once for each address. -/
def resolveUserKeyId (page : Nat) (did metadataUrl : String) (state : SubmissionState) :
    Except SubmissionFailure String × SubmissionState :=
  match state.metadataByUrl.lookup metadataUrl with
  | some cached => (.ok cached.id, state)
  | none => match answers.getSealMetadata page did with
      | .error error => (.error (.request error state.lastRequestId), state)
      | .ok metadata =>
          let known := metadata.id ∈ state.registeredKeys
          match if known then .ok () else answers.registerSealMetadata page did with
          | .error error => (.error (.evaluation error), state)
          | .ok () =>
              (.ok metadata.id,
                { state with
                  metadataByUrl := (metadataUrl, metadata) :: state.metadataByUrl
                  registeredKeys :=
                    if known then state.registeredKeys
                    else metadata.id :: state.registeredKeys })

/-- The complete users of a page. -/
def classifyUsers (page : Nat) :
    List (String × Option (Json ν)) → SubmissionState →
      Except PassStop (List EncryptedCustomScoreUser) × SubmissionState
  | [], state => (.ok [], state)
  | (did, scoresEncr) :: rest, state =>
      let state :=
        { state with pass.scannedUsers := state.pass.scannedUsers + 1 }
      match classifyEncryptedUser did scoresEncr selectedChildren with
      | .error violation => (.error (.failed (.violation violation)), state)
      | .ok .incomplete => classifyUsers page rest
          { state with pass.incomplete := state.pass.incomplete + 1 }
      | .ok .potentiallyComplete => (.error .pendingEncryption, state)
      | .ok (.complete metadataUrl ciphertexts) =>
          let state := { state with pass.complete := state.pass.complete + 1 }
          match resolveUserKeyId answers page did metadataUrl state with
          | (.error failure, state) => (.error (.failed failure), state)
          | (.ok keyId, state) => match classifyUsers page rest state with
              | (.error stop, state) => (.error stop, state)
              | (.ok pageUsers, state) => (.ok (⟨did, keyId, ciphertexts⟩ :: pageUsers), state)

def evaluateUser (user : EncryptedCustomScoreUser) :
    Except EncryptedCustomScoreError EncryptedCustomScoreResult :=
  (answers.evaluateUser user).map fun ciphertext => ⟨user.did, user.keyId, ciphertext⟩

def evaluateBatch (users : List EncryptedCustomScoreUser) :
    Except EncryptedCustomScoreError (List EncryptedCustomScoreResult) :=
  if users.length > CUSTOM_SCORE_EVALUATION_BATCH_LIMIT then
    .error ⟨s!"Evaluation batch of {users.length} users exceeds the limit of 1000",
      .batchLimitExceeded, [("batchSize", toString users.length), ("limit", "1000")]⟩
  else users.mapM (evaluateUser answers)

def toRequest (batch : List EncryptedCustomScoreResult) : PostScoresRequest :=
  batch.map fun result =>
    (result.did, ⟨result.ciphertext, result.keyId, "custom_score_encr", timestamp⟩)

/-- Every entry of every batch must be answered with OK. -/
def postBatches (page : Nat) :
    List (List EncryptedCustomScoreResult) → (batch : Nat) → SubmissionState →
      Except PassStop Unit × SubmissionState
  | [], _, state => (.ok (), state)
  | results :: rest, batch, state =>
      let answer := answers.postScores page batch
      let state := { state with posts := state.posts ++ [(toRequest timestamp results, answer)] }
      match answer with
      | .error error => (.error (.failed (.request error state.lastRequestId)), state)
      | .ok response =>
          let state := { state with lastRequestId := response.requestId.or state.lastRequestId }
          match results.find? fun result => response.results result.did ≠ some "OK" with
          | some result =>
              (.error (.failed (.rejectedEntry result.did (response.results result.did)
                state.lastRequestId)), state)
          | none => postBatches page rest (batch + 1)
              { state with
                pass.submitted := state.pass.submitted + results.length
                pass.batches := state.pass.batches + 1 }

def submitPage (page : Nat) (pageUsers : List EncryptedCustomScoreUser)
    (state : SubmissionState) : Except PassStop Unit × SubmissionState :=
  match evaluateBatch answers pageUsers with
  | .error error => (.error (.failed (.evaluation error)), state)
  | .ok results =>
      postBatches answers timestamp page (chunk results ENCRYPTED_POST_CHUNK_SIZE) 0 state

def processPage (page : Nat) (users : UsersPage ν) (state : SubmissionState) :
    Except PassStop Unit × SubmissionState :=
  let state :=
    { state with
      pass.pages := state.pass.pages + 1
      lastRequestId := users.requestId.or state.lastRequestId }
  match classifyUsers answers selectedChildren page users.users state with
  | (.error stop, state) => (.error stop, state)
  | (.ok pageUsers, state) =>
      if pageUsers.length > 0 then submitPage answers timestamp page pageUsers state
      else (.ok (), state)

def processPages : (page : Nat) → List (UsersPage ν) → SubmissionState →
    Except PassStop Unit × SubmissionState
  | _, [], state => match answers.users.failure with
      | none => (.ok (), state)
      | some error =>
          if error = .http 400 ∧ state.pass.pages > 0 then (.error .cursorExpired, state)
          else (.error (.failed (.request error state.lastRequestId)), state)
  | page, users :: rest, state =>
      match processPage answers selectedChildren timestamp page users state with
      | (.error stop, state) => (.error stop, state)
      | (.ok (), state) => processPages (page + 1) rest state

def runProcessingPass (state : SubmissionState) : Except PassStop Unit × SubmissionState :=
  processPages answers selectedChildren timestamp 0 answers.users.pages
    { state with
      pass := {}
      posts := [] }

end Pass

/-! ## The activity -/

/-- The passes of one invocation, with the state that the last one leaves. -/
def submissionPasses (passes : Nat → PassAnswers ν)
    (selectedChildren : List SelectedEncryptedChild) (timestamp : String) :
    (restartsLeft : Nat) → SubmissionState →
      Except SubmissionFailure SubmitCustomEncryptedScoresResult × SubmissionState
  | restartsLeft, state =>
      let cursorRestarts := CURSOR_RESTART_LIMIT - restartsLeft
      match runProcessingPass (passes cursorRestarts) selectedChildren timestamp state with
      | (.ok (), state) =>
          (.ok (.submitted
            { complete := state.pass.complete
              incomplete := state.pass.incomplete
              scannedUsers := state.pass.scannedUsers
              pages := state.pass.pages
              cursorRestarts
              submitted := state.pass.submitted
              batches := state.pass.batches
              registeredKeys := state.registeredKeys.length
              lastRequestId := state.lastRequestId }), state)
      | (.error .pendingEncryption, state) =>
          (.ok (.pendingEncryption
            { complete := state.pass.complete
              incomplete := state.pass.incomplete
              scannedUsers := state.pass.scannedUsers
              pages := state.pass.pages
              cursorRestarts
              lastRequestId := state.lastRequestId }), state)
      | (.error .cursorExpired, state) => match restartsLeft with
          | 0 => (.error (.cursorExpired (cursorRestarts + 1) state.lastRequestId), state)
          | restartsLeft + 1 =>
              submissionPasses passes selectedChildren timestamp restartsLeft state
      | (.error (.failed failure), state) => (.error failure, state)

/-- The observations by child; each child has one. -/
def resolveObservations (selectedChildren : List SelectedEncryptedChild) :
    (observations : List (String × NormalizationObservation ν)) →
      (byScoreType : List (String × NormalizationObservation ν)) →
      Except SubmissionFailure (List (String × NormalizationObservation ν))
  | [], byScoreType =>
      match selectedChildren.find? fun child => (byScoreType.lookup child.key).isNone with
      | some child => .error (.missingObservation child.key)
      | none => .ok byScoreType
  | (scoreType, observation) :: rest, byScoreType =>
      if (byScoreType.lookup scoreType).isSome then .error (.duplicateObservation scoreType)
      else resolveObservations selectedChildren rest ((scoreType, observation) :: byScoreType)

structure SubmitCustomEncryptedScoresInput (ν : Type) where
  snapshotId : String
  algorithmPresetFrozen : AlgorithmPresetFrozen ν
  observations : List (String × NormalizationObservation ν)
  timestamp : String

section Activity

variable [JsNumber ν] [Sub ν] [Mul ν] [Div ν] [NatCast ν] [DecidableEq ν]

/-- The selected children, once the evaluator for them can be created. -/
def prepareSubmission (definition : AlgorithmDefinition) (method : String)
    (input : SubmitCustomEncryptedScoresInput ν) :
    Except SubmissionFailure (List SelectedEncryptedChild) := do
  if definition.kind ≠ "combined" then throw (.unsupportedKind definition.key)
  let children ← (parseCustomScoreChildren input.algorithmPresetFrozen.inputs).mapError
    SubmissionFailure.children
  let selectedChildren ← (resolveSelectedEncryptedChildren children).mapError
    SubmissionFailure.violation
  let observationsByChild ← resolveObservations selectedChildren input.observations []
  let planned := children.filterMap fun child =>
    (observationsByChild.lookup child.algorithm_key).map fun observation =>
      (⟨child.algorithm_key, child.weight, observation⟩ : EncryptedCustomScoreChild ν)
  let _ ← (buildEncryptedEvaluationPlan method planned).mapError SubmissionFailure.evaluation
  return selectedChildren

def submitCustomEncryptedScores (definition : AlgorithmDefinition) (method : String)
    (input : SubmitCustomEncryptedScoresInput ν) (passes : Nat → PassAnswers ν) :
    Except SubmissionFailure SubmitCustomEncryptedScoresResult × SubmissionState :=
  match prepareSubmission definition method input with
  | .error failure => (.error failure, {})
  | .ok selectedChildren =>
      submissionPasses passes selectedChildren input.timestamp CURSOR_RESTART_LIMIT {}

end Activity

end Reputo.CustomScore
