import Reputo.CustomScore.Types
import Reputo.Library.Json
import Reputo.Library.Result
import Reputo.Orchestrator.Presets

/-!
# The encrypted cohort

Users come in pages.  A user's encrypted scores are validated and classified against the
selected children; the readiness poll counts the classes over all pages.  A read that fails
with status 400 after the first page means that the cursor has expired.
-/

namespace Reputo.CustomScore

open Reputo.Library Reputo.Orchestrator

variable {ν : Type}

/-! ## Encrypted scores of a user -/

def ENCRYPTED_SCORE_SCOPES : List String :=
  ["voting_engagement_encr", "contribution_score_encr", "proposal_engagement_encr",
    "token_value_over_time_encr", "github_engagement_encr", "discord_engagement_encr",
    "mattermost_engagement_encr"]

inductive EncryptedScoreField where
  | encrypted (ciphertext : String)
  | pendingEncryption (ciphertext : Option String)
  deriving DecidableEq, Repr

/-- Fields that are absent or `null` are left out. -/
structure DeepIdEncryptedScores where
  sealMetadata : Option String
  fields : List (String × EncryptedScoreField)
  deriving DecidableEq, Repr

/-- The field at a path, or the path of what is wrong with it. -/
def encryptedScoreFieldSchema (path : String) (value : Json ν) :
    Except String EncryptedScoreField :=
  match value.asRecord, (value.field "status").bind Json.asString with
  | none, _ => .error path
  | some _, some "encrypted" => match value.field "ciphertext" with
      | some (.str ciphertext) =>
          if ciphertext ≠ "" then .ok (.encrypted ciphertext) else .error (path ++ ".ciphertext")
      | _ => .error (path ++ ".ciphertext")
  | some _, some "pending_encryption" => match value.field "ciphertext" with
      | some (.str ciphertext) => .ok (.pendingEncryption (some ciphertext))
      | some .null => .ok (.pendingEncryption none)
      | _ => .error (path ++ ".ciphertext")
  | some _, _ => .error (path ++ ".status")

/-- The fields of the scopes in order, with the paths of those that are malformed. -/
def encryptedScoreFields (value : Json ν) :
    List String → List String × List (String × EncryptedScoreField)
  | [] => ([], [])
  | scope :: rest =>
      let (issues, fields) := encryptedScoreFields value rest
      match value.field scope with
      | none | some .null => (issues, fields)
      | some field => match encryptedScoreFieldSchema scope field with
          | .error issue => (issue :: issues, fields)
          | .ok field => (issues, (scope, field) :: fields)

/-- `none` where the value is absent; the paths of the issues where it is malformed. -/
def parseEncryptedScores : Option (Json ν) → Except (List String) (Option DeepIdEncryptedScores)
  | none => .ok none
  | some value =>
      if value.asRecord.isNone then .error ["(root)"]
      else
        let (issues, fields) := encryptedScoreFields value ENCRYPTED_SCORE_SCOPES
        match value.field "seal-metadata" with
        | some (.str url) =>
            if issues.isEmpty then .ok (some ⟨some url, fields⟩) else .error issues
        | some .null => if issues.isEmpty then .ok (some ⟨none, fields⟩) else .error issues
        | _ => .error ("seal-metadata" :: issues)

/-! ## Classification -/

structure SelectedEncryptedChild where
  key : String
  scope : String
  deriving DecidableEq, Repr

/-- A preset or a user that breaks the contract of the encrypted reads. -/
inductive EncryptedCohortViolation where
  | unknownScope (childKey : String)
  | malformedScores (did : String) (issues : List String)
  | noSealMetadata (did : String)
  deriving DecidableEq, Repr

inductive EncryptedUserClassification where
  | incomplete
  | potentiallyComplete
  | complete (metadataUrl : String) (ciphertexts : List (String × String))
  deriving DecidableEq, Repr

def resolveSelectedEncryptedChildren (children : List (SubAlgorithmEntry ν)) :
    Except EncryptedCohortViolation (List SelectedEncryptedChild) :=
  children.mapM fun child =>
    let scope := child.algorithm_key ++ "_encr"
    if scope ∈ ENCRYPTED_SCORE_SCOPES then .ok ⟨child.algorithm_key, scope⟩
    else .error (.unknownScope child.algorithm_key)

/-- How many selected fields are pending, with the ciphertexts of the others; `none` where a
field is missing. -/
def classifyFields (scoresEncr : DeepIdEncryptedScores) :
    List SelectedEncryptedChild → Option (Nat × List (String × String))
  | [] => some (0, [])
  | child :: rest => match scoresEncr.fields.lookup child.scope with
      | none => none
      | some (.pendingEncryption _) => (classifyFields scoresEncr rest).map
          fun (pending, ciphertexts) => (pending + 1, ciphertexts)
      | some (.encrypted ciphertext) => (classifyFields scoresEncr rest).map
          fun (pending, ciphertexts) => (pending, (child.key, ciphertext) :: ciphertexts)

def classifyEncryptedUser (did : String) (scoresEncrValue : Option (Json ν))
    (selectedChildren : List SelectedEncryptedChild) :
    Except EncryptedCohortViolation EncryptedUserClassification :=
  match parseEncryptedScores scoresEncrValue with
  | .error issues => .error (.malformedScores did issues)
  | .ok none => .ok .incomplete
  | .ok (some scoresEncr) => match classifyFields scoresEncr selectedChildren with
      | none => .ok .incomplete
      | some (pending, ciphertexts) =>
          if pending > 0 then .ok .potentiallyComplete
          else match scoresEncr.sealMetadata with
            | none => .error (.noSealMetadata did)
            | some metadataUrl => .ok (.complete metadataUrl ciphertexts)

/-! ## Pages -/

/-- A page of users; the users have different names. -/
structure UsersPage (ν : Type) where
  users : List (String × Option (Json ν))
  requestId : Option String

inductive RequestError where
  | http (statusCode : Nat)
  | contract (issues : List String)
  | other (message : String)
  deriving DecidableEq, Repr

/-- What `iterateUsers` yields, and the failure that ends it, if any. -/
structure UserPages (ν : Type) where
  pages : List (UsersPage ν)
  failure : Option RequestError

/-- Why an activity over the users fails. -/
inductive CohortFailure where
  | children (message : String)
  | violation (violation : EncryptedCohortViolation)
  | request (error : RequestError) (lastRequestId : Option String)
  | cursorExpired (cursorRestarts : Nat) (lastRequestId : Option String)
  deriving DecidableEq, Repr

def CURSOR_RESTART_LIMIT : Nat := 3

/-! ## Readiness -/

structure ReadinessPass where
  counts : EncryptionReadinessCounts
  scannedUsers : Nat
  pages : Nat
  deriving DecidableEq, Repr

/-- Why a scan ends early. -/
inductive ScanStop where
  | cursorExpired
  | violation (violation : EncryptedCohortViolation)
  | request (error : RequestError)
  deriving DecidableEq, Repr

def EncryptionReadinessCounts.increment (counts : EncryptionReadinessCounts) :
    EncryptedUserClassification → EncryptionReadinessCounts
  | .incomplete => { counts with incomplete := counts.incomplete + 1 }
  | .potentiallyComplete => { counts with potentiallyComplete := counts.potentiallyComplete + 1 }
  | .complete .. => { counts with complete := counts.complete + 1 }

def scanPage (selectedChildren : List SelectedEncryptedChild) :
    List (String × Option (Json ν)) → ReadinessPass → Except ScanStop ReadinessPass
  | [], pass => .ok pass
  | (did, scoresEncr) :: rest, pass =>
      match classifyEncryptedUser did scoresEncr selectedChildren with
      | .error violation => .error (.violation violation)
      | .ok classification => scanPage selectedChildren rest
          { pass with
            counts := pass.counts.increment classification
            scannedUsers := pass.scannedUsers + 1 }

def scanPages (selectedChildren : List SelectedEncryptedChild) :
    List (UsersPage ν) → Option RequestError → ReadinessPass → Option String →
      Except ScanStop ReadinessPass × Option String
  | [], none, pass, lastRequestId => (.ok pass, lastRequestId)
  | [], some error, pass, lastRequestId =>
      if error = .http 400 ∧ pass.pages > 0 then (.error .cursorExpired, lastRequestId)
      else (.error (.request error), lastRequestId)
  | page :: rest, failure, pass, lastRequestId =>
      let lastRequestId := page.requestId.or lastRequestId
      match scanPage selectedChildren page.users { pass with pages := pass.pages + 1 } with
      | .error stop => (.error stop, lastRequestId)
      | .ok pass => scanPages selectedChildren rest failure pass lastRequestId

def scanUsers (selectedChildren : List SelectedEncryptedChild) (users : UserPages ν)
    (lastRequestId : Option String) : Except ScanStop ReadinessPass × Option String :=
  scanPages selectedChildren users.pages users.failure ⟨⟨0, 0, 0⟩, 0, 0⟩ lastRequestId

/-- The passes of one poll; `cursorRestarts` of them have expired. -/
def readinessPasses (selectedChildren : List SelectedEncryptedChild) (passes : Nat → UserPages ν) :
    (restartsLeft : Nat) → (lastRequestId : Option String) →
      Except CohortFailure CheckEncryptionReadinessResult
  | restartsLeft, lastRequestId =>
      let cursorRestarts := CURSOR_RESTART_LIMIT - restartsLeft
      match scanUsers selectedChildren (passes cursorRestarts) lastRequestId with
      | (.ok pass, lastRequestId) => .ok
          { ready := pass.counts.potentiallyComplete = 0
            counts := pass.counts
            scannedUsers := pass.scannedUsers
            pages := pass.pages
            cursorRestarts
            lastRequestId }
      | (.error .cursorExpired, lastRequestId) => match restartsLeft with
          | 0 => .error (.cursorExpired (cursorRestarts + 1) lastRequestId)
          | restartsLeft + 1 => readinessPasses selectedChildren passes restartsLeft lastRequestId
      | (.error (.violation violation), _) => .error (.violation violation)
      | (.error (.request error), lastRequestId) => .error (.request error lastRequestId)

def checkEncryptionReadiness [JsNumber ν] (inputs : List (PresetInput ν))
    (passes : Nat → UserPages ν) : Except CohortFailure CheckEncryptionReadinessResult :=
  match parseCustomScoreChildren inputs with
  | .error message => .error (.children message)
  | .ok children => match resolveSelectedEncryptedChildren children with
      | .error violation => .error (.violation violation)
      | .ok selectedChildren => readinessPasses selectedChildren passes CURSOR_RESTART_LIMIT none

end Reputo.CustomScore
