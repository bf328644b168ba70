import Reputo.Library.JsText
import Reputo.Library.Json
import Reputo.Library.Result

/-!
# The evaluation plan of an encrypted score

The accepted raw scores of a child give its observed bounds.  Three phases turn the bounds and
the weights of the children into one coefficient and one shift for each child, which the
evaluator applies to encrypted scores; here it applies them to the scores themselves.
-/

namespace Reputo.CustomScore

open Reputo.Library

/-! ## Observations -/

structure NormalizationObservation (ν : Type) where
  method : String
  min : ν
  max : ν
  deriving DecidableEq, Repr

structure RawScoreRow (ν : Type) where
  did : String
  score : ν
  deriving DecidableEq, Repr

/-- The bounds of the scores accepted so far. -/
structure ObservedMinMaxObserver (ν : Type) where
  min : Option ν := none
  max : Option ν := none

/-- What became of the rows of one child. -/
structure CustomRawScoresChildResult (ν : Type) where
  observation : NormalizationObservation ν
  posted : Nat
  ok : Nat
  dropped : Nat
  rejected : Nat
  deriving DecidableEq, Repr

section Observations

variable {ν : Type} [JsNumber ν]

namespace ObservedMinMaxObserver

def accept (observer : ObservedMinMaxObserver ν) (score : ν) : ObservedMinMaxObserver ν where
  min := match observer.min with
    | none => some score
    | some min => if JsNumber.lt score min then some score else some min
  max := match observer.max with
    | none => some score
    | some max => if JsNumber.lt max score then some score else some max

def finish (observer : ObservedMinMaxObserver ν) : Option (NormalizationObservation ν) :=
  match observer.min, observer.max with
  | some min, some max => some ⟨"observed_min_max", min, max⟩
  | _, _ => none

end ObservedMinMaxObserver

/-- DeepID's rejection of a user without consent. -/
def EXPECTED_DROP_MESSAGE : String := "User not found"

/-- Post the rows of a child; `message` is what DeepID answers for a user. -/
def submitChildRows (childKey : String) (rows : List (RawScoreRow ν))
    (message : String → Option String) : Except String (CustomRawScoresChildResult ν) :=
  let accepted := rows.filter fun row => message row.did = some "OK"
  let dropped := rows.filter fun row => message row.did = some EXPECTED_DROP_MESSAGE
  let rejected := rows.filter fun row =>
    message row.did ≠ some "OK" ∧ message row.did ≠ some EXPECTED_DROP_MESSAGE
  let observer := accepted.foldl (fun observer row => observer.accept row.score)
    ({} : ObservedMinMaxObserver ν)
  match observer.finish with
  | none => .error (s!"Child algorithm \"{childKey}\" has no accepted raw scores: " ++
      "observed_min_max needs at least one OK entry")
  | some observation => .ok
      { observation
        posted := rows.length
        ok := accepted.length
        dropped := dropped.length
        rejected := rejected.length }

end Observations

/-! ## Plans -/

inductive EvaluationCode where
  | invalidChildren
  | unsupportedNormalizationMethod
  | invalidNormalizationInput
  | capacityExceeded
  | invalidWeight
  | allZeroWeights
  | evaluationFailed
  | batchLimitExceeded
  deriving DecidableEq, Repr

structure EncryptedCustomScoreError where
  message : String
  evaluationCode : EvaluationCode
  context : List (String × String) := []
  deriving DecidableEq, Repr

structure EncryptedCustomScoreChild (ν : Type) where
  key : String
  weight : ν
  observation : NormalizationObservation ν
  deriving DecidableEq, Repr

/-- `factor * (x - shift)`, or constantly zero. -/
inductive ChildNormalization (ν : Type) where
  | affine (factor shift : ν)
  | constantZero
  deriving DecidableEq, Repr

inductive ChildWeighting (ν : Type) where
  | affine (factor shift : ν)
  | zero
  deriving DecidableEq, Repr

inductive ChildContribution (ν : Type) where
  | affine (coefficient shift : ν)
  | zero
  deriving DecidableEq, Repr

structure PlannedChild (ν : Type) where
  key : String
  weight : ν
  observation : NormalizationObservation ν
  contribution : ChildContribution ν
  deriving DecidableEq, Repr

structure ZeroFallback (ν : Type) where
  childKey : String
  knownValue : ν
  deriving DecidableEq, Repr

structure EncryptedEvaluationPlan (ν : Type) where
  method : String
  totalWeight : ν
  children : List (PlannedChild ν)
  zeroFallback : Option (ZeroFallback ν)
  deriving DecidableEq, Repr

/-- The distinct children of one evaluator have keys that are not blank. -/
def validateChildrenFrom {ν : Type} (seen : List String) :
    List (EncryptedCustomScoreChild ν) → Except EncryptedCustomScoreError Unit
  | [] => .ok ()
  | child :: rest =>
      if JsText.trim child.key = "" then
        .error ⟨"A selected child has an empty key", .invalidChildren, []⟩
      else if child.key ∈ seen then
        .error ⟨s!"Duplicate selected child \"{child.key}\"", .invalidChildren,
          [("childKey", child.key)]⟩
      else validateChildrenFrom (child.key :: seen) rest

def validateChildren {ν : Type} (children : List (EncryptedCustomScoreChild ν)) :
    Except EncryptedCustomScoreError Unit :=
  if children.length = 0 then
    .error ⟨"At least one selected child is required", .invalidChildren, []⟩
  else validateChildrenFrom [] children

def CUSTOM_SCORE_TARGET_RANGE.min {ν : Type} [NatCast ν] : ν := ((0 : Nat) : ν)

def CUSTOM_SCORE_TARGET_RANGE.max {ν : Type} [NatCast ν] : ν := ((100 : Nat) : ν)

/-- The weight of all children, those with equal bounds included. -/
def totalChildWeight {ν : Type} [JsNumber ν] (children : List (EncryptedCustomScoreChild ν)) : ν :=
  children.foldl (fun sum child => JsNumber.add sum child.weight) JsNumber.zero

/-- The first child with equal bounds. -/
def selectZeroFallback {ν : Type} [DecidableEq ν] (children : List (EncryptedCustomScoreChild ν))
    (normalizations : List (ChildNormalization ν)) : Option (ZeroFallback ν) :=
  ((children.zip normalizations).find? fun (_, normalization) =>
    normalization = .constantZero).map fun (child, _) => ⟨child.key, child.observation.min⟩

section Plans

variable {ν : Type} [JsNumber ν] [Sub ν] [Mul ν] [Div ν] [NatCast ν] [DecidableEq ν]

/-- The observed bounds become the ends of the target range. -/
def observedMinMaxStrategy (child : EncryptedCustomScoreChild ν) :
    Except EncryptedCustomScoreError (ChildNormalization ν) :=
  let { method, min, max } := child.observation
  if method ≠ "observed_min_max" then
    .error ⟨s!"Child \"{child.key}\" carries a \"{method}\" observation for the " ++
      "observed_min_max strategy", .invalidNormalizationInput,
      [("childKey", child.key), ("observationMethod", method)]⟩
  else if !JsNumber.isFinite min || !JsNumber.isFinite max then
    .error ⟨s!"Child \"{child.key}\" has non-finite observed bounds", .invalidNormalizationInput,
      [("childKey", child.key)]⟩
  else if JsNumber.lt max min then
    .error ⟨s!"Child \"{child.key}\" has observed minimum greater than its maximum",
      .invalidNormalizationInput, [("childKey", child.key)]⟩
  else if min = max then .ok .constantZero
  else
    let factor :=
      ((CUSTOM_SCORE_TARGET_RANGE.max : ν) - CUSTOM_SCORE_TARGET_RANGE.min) / (max - min)
    if !JsNumber.isFinite factor then
      .error ⟨s!"Child \"{child.key}\" has an observed span too small to normalize at double " ++
        "precision", .capacityExceeded, [("childKey", child.key)]⟩
    else .ok (.affine factor min)

def resolveNormalizationStrategy (method : String) :
    Except EncryptedCustomScoreError
      (EncryptedCustomScoreChild ν → Except EncryptedCustomScoreError (ChildNormalization ν)) :=
  if method = "observed_min_max" then .ok observedMinMaxStrategy
  else .error ⟨s!"Unsupported normalization method \"{method}\" for encrypted evaluation",
    .unsupportedNormalizationMethod, [("method", method)]⟩

def buildNormalizationPlan (method : String) (children : List (EncryptedCustomScoreChild ν)) :
    Except EncryptedCustomScoreError (List (ChildNormalization ν)) := do
  validateChildren children
  let strategy ← resolveNormalizationStrategy method
  children.mapM strategy

def applyChildWeight (child : EncryptedCustomScoreChild ν)
    (normalization : ChildNormalization ν) : Except EncryptedCustomScoreError (ChildWeighting ν) :=
  if !JsNumber.isFinite child.weight || !JsNumber.lt JsNumber.zero child.weight then
    .error ⟨s!"Child \"{child.key}\" has an invalid weight: weights must be finite and greater " ++
      "than zero", .invalidWeight, [("childKey", child.key)]⟩
  else match normalization with
    | .constantZero => .ok .zero
    | .affine factor shift => .ok (.affine (factor * child.weight) shift)

def applyChildWeights (children : List (EncryptedCustomScoreChild ν))
    (normalizations : List (ChildNormalization ν)) :
    Except EncryptedCustomScoreError (List (ChildWeighting ν)) :=
  (children.zip normalizations).mapM fun (child, normalization) =>
    applyChildWeight child normalization

def aggregateWeighting (totalWeight : ν) (child : EncryptedCustomScoreChild ν)
    (weighting : ChildWeighting ν) : Except EncryptedCustomScoreError (ChildContribution ν) :=
  match weighting with
  | .zero => .ok .zero
  | .affine factor shift =>
      let coefficient := factor / totalWeight
      if !JsNumber.isFinite coefficient || coefficient = JsNumber.zero then
        .error ⟨s!"Child \"{child.key}\" has a contribution coefficient outside double precision",
          .capacityExceeded, [("childKey", child.key)]⟩
      else .ok (.affine coefficient shift)

def buildAggregationPlan (children : List (EncryptedCustomScoreChild ν))
    (weightings : List (ChildWeighting ν)) :
    Except EncryptedCustomScoreError (ν × List (ChildContribution ν)) := do
  let totalWeight := totalChildWeight children
  if !JsNumber.isFinite totalWeight then
    throw ⟨"The total configured child weight must be finite", .invalidWeight, []⟩
  if !JsNumber.lt JsNumber.zero totalWeight then
    throw ⟨"At least one configured child weight must be greater than zero", .allZeroWeights, []⟩
  let contributions ← (children.zip weightings).mapM fun (child, weighting) =>
    aggregateWeighting totalWeight child weighting
  return (totalWeight, contributions)

def buildEncryptedEvaluationPlan (method : String)
    (children : List (EncryptedCustomScoreChild ν)) :
    Except EncryptedCustomScoreError (EncryptedEvaluationPlan ν) := do
  let normalizations ← buildNormalizationPlan method children
  let weightings ← applyChildWeights children normalizations
  let (totalWeight, contributions) ← buildAggregationPlan children weightings
  let zeroFallback := selectZeroFallback children normalizations
  if contributions.all (· = .zero) && zeroFallback.isNone then
    throw ⟨"Every contribution is zero but no equal-bounds child exists to derive an encrypted " ++
      "zero from", .evaluationFailed, []⟩
  return {
    method
    totalWeight
    children := (children.zip contributions).map fun (child, contribution) =>
      ⟨child.key, child.weight, child.observation, contribution⟩
    zeroFallback }

/-! ## Evaluation -/

/-- The children that contribute, with their coefficient and shift. -/
def EncryptedEvaluationPlan.activeChildren (plan : EncryptedEvaluationPlan ν) :
    List (String × ν × ν) :=
  plan.children.filterMap fun child => match child.contribution with
    | .affine coefficient shift => some (child.key, coefficient, shift)
    | .zero => none

/-- Add the contribution of one child; a shift of zero is not subtracted. -/
def addContribution (scores : String → ν) (accumulator : Option ν) :
    String × ν × ν → Option ν
  | (key, coefficient, shift) =>
      let shifted := if shift ≠ JsNumber.zero then scores key - shift else scores key
      let contribution := shifted * coefficient
      match accumulator with
      | none => some contribution
      | some sum => some (JsNumber.add sum contribution)

def evaluateAffineChildren (did : String) (activeChildren : List (String × ν × ν))
    (scores : String → ν) : Except EncryptedCustomScoreError ν :=
  Result.ofOption ⟨s!"No contribution was accumulated for user \"{did}\"", .evaluationFailed,
    [("did", did)]⟩ (activeChildren.foldl (addContribution scores) none)

/-- The score of the fallback child without its known value. -/
def deriveEncryptedZero (did : String) (fallback : Option (ZeroFallback ν)) (scores : String → ν) :
    Except EncryptedCustomScoreError ν :=
  match fallback with
  | none =>
      .error ⟨"No equal-bounds child ciphertext is available to derive an encrypted zero for " ++
        s!"user \"{did}\"", .evaluationFailed, [("did", did)]⟩
  | some fallback =>
      if fallback.knownValue ≠ JsNumber.zero then
        .ok (scores fallback.childKey - fallback.knownValue)
      else .ok (scores fallback.childKey)

def EncryptedEvaluationPlan.evaluateUser (plan : EncryptedEvaluationPlan ν) (did : String)
    (scores : String → ν) : Except EncryptedCustomScoreError ν :=
  if plan.activeChildren.length > 0 then
    evaluateAffineChildren did plan.activeChildren scores
  else deriveEncryptedZero did plan.zeroFallback scores

end Plans

end Reputo.CustomScore
