import Reputo.CustomScore.SealRuntime

/-!
# The encrypted evaluator

An evaluator keeps a context for each registered key in a scope of its own, and evaluates each user
in another scope.
-/

namespace Reputo.CustomScore.Seal

open Reputo.Library SealHandleScope

variable {ν : Type}

structure SealMetadata (ν : Type) where
  id : String
  securityLevel : Nat
  polyModulusDegree : Nat
  coeffModulusBitSizes : List Nat
  scale : ν
  encryptionParameters : String

/-- A context of a key, by its handles. -/
structure SealKeyContext (ν : Type) where
  keyId : String
  scale : ν
  context : Handle
  evaluator : Handle
  encoder : Handle
  slotCount : Nat
  magnitudeLimit : ν

/-- The handles of a context that evaluations use. -/
def SealKeyContext.handles (key : SealKeyContext ν) : List Handle :=
  [key.context, key.evaluator, key.encoder]

section Numbers

variable [JsNumber ν] [Sub ν] [Div ν] [NatCast ν] [DecidableEq ν]

def abs (value : ν) : ν := if JsNumber.lt value JsNumber.zero then JsNumber.zero - value else value

def max (left right : ν) : ν := if JsNumber.lt left right then right else left

def relativeDifference (a b : ν) : ν :=
  let magnitude := max (abs a) (abs b)
  if magnitude = JsNumber.zero then JsNumber.zero else abs (a - b) / magnitude

def SCALE_RELATIVE_TOLERANCE : ν := ((1 : Nat) : ν) / ((2 ^ 20 : Nat) : ν)

def CAPACITY_MARGIN_BITS : ν := ((5 : Nat) : ν)

end Numbers

def CUSTOM_SCORE_EVALUATION_BATCH_LIMIT : Nat := 1000

/-! ## Contexts of keys -/

def resolveSecurityLevel (metadata : SealMetadata ν) : Scoped ν SecLevelType :=
  if metadata.securityLevel = 128 then pure .tc128
  else if metadata.securityLevel = 192 then pure .tc192
  else if metadata.securityLevel = 256 then pure .tc256
  else Scoped.fail (s!"SEAL metadata \"{metadata.id}\" is incompatible: unsupported security " ++
    s!"level {metadata.securityLevel}") .INCOMPATIBLE_METADATA
    [("keyId", .text metadata.id), ("securityLevel", .count metadata.securityLevel)]

/-- The bits of a prime, which is deleted outside of the scope. -/
def takeBits (prime : Handle) : Scoped ν Nat := do
  let bits ← Scoped.call (.bitCount prime)
  Scoped.perform (.delete prime)
  return bits

/-- Read the bits of the prime at an index, if there is one. -/
def readPrime (modulus : Handle) (actualBitSizes : List Nat) (index : Nat) :
    Scoped ν (List Nat) := do
  match ← Scoped.orThrow (← Scoped.perform (.get modulus index)) with
  | none => return actualBitSizes
  | some prime => return actualBitSizes ++ [← takeBits prime]

/-- The size, which does not change, is asked for again before each index. -/
def readBitSizes (modulus : Handle) : Scoped ν (List Nat) := do
  let size ← Scoped.call (.size modulus)
  (List.range size).foldlM (fun actualBitSizes index => do
    let actualBitSizes ← readPrime modulus actualBitSizes index
    let _ ← Scoped.call (.size modulus)
    return actualBitSizes) []

section Evaluator

variable [JsNumber ν] [Sub ν] [Div ν] [NatCast ν] [DecidableEq ν]
variable (log2 exp2 : ν → ν) (plan : EncryptedEvaluationPlan ν)

def checkCapacity (metadata : SealMetadata ν) (magnitudeLimit : ν) :
    List (PlannedChild ν) → Scoped ν Unit
  | [] => pure ()
  | child :: rest =>
      let bound := max (abs child.observation.min) (abs child.observation.max)
      if JsNumber.lt magnitudeLimit bound then
        Scoped.fail (s!"Child \"{child.key}\" observed bounds exceed what key \"{metadata.id}\" " ++
          "can represent at its scale") .CAPACITY_EXCEEDED
          [("keyId", .text metadata.id), ("childKey", .text child.key),
            ("magnitudeLimit", .number magnitudeLimit)]
      else checkCapacity metadata magnitudeLimit rest

/-- Rejected metadata. -/
def incompatible {α : Type} (metadata : SealMetadata ν) (reason : String)
    (context : List (String × ContextValue ν) := []) : Scoped ν α :=
  Scoped.fail s!"SEAL metadata \"{metadata.id}\" is incompatible: {reason}" .INCOMPATIBLE_METADATA
    (("keyId", .text metadata.id) :: context)

def loadParameters (metadata : SealMetadata ν) : Scoped ν Handle := do
  let parms ← trackNew .EncryptionParameters
  Scoped.orFail (Scoped.call (.loadParms parms metadata.encryptionParameters))
    (fun description => s!"SEAL metadata \"{metadata.id}\" is incompatible: encryption " ++
      s!"parameters cannot be deserialized ({description})") .INCOMPATIBLE_METADATA
    [("keyId", .text metadata.id)]
  if (← Scoped.call (.scheme parms)) ≠ .ckks then
    incompatible metadata "encryption parameters are not CKKS"
  if (← Scoped.call (.polyModulusDegree parms)) ≠ metadata.polyModulusDegree then
    let actual ← Scoped.call (.polyModulusDegree parms)
    incompatible metadata "declared polyModulusDegree does not match the encryption parameters"
      [("declared", .count metadata.polyModulusDegree), ("actual", .count actual)]
  return parms

def checkModulus (metadata : SealMetadata ν) (parms : Handle) : Scoped ν Unit := do
  let modulus ← trackNew (.coeffModulus parms)
  let actualBitSizes ← readBitSizes modulus
  release modulus
  if metadata.coeffModulusBitSizes ≠ actualBitSizes then
    incompatible metadata "declared coeffModulusBitSizes do not match the encryption parameters"
      [("declared", .counts metadata.coeffModulusBitSizes), ("actual", .counts actualBitSizes)]

def createContext (metadata : SealMetadata ν) (securityLevel : SecLevelType) (parms : Handle) :
    Scoped ν Handle := do
  let context ← Scoped.orFail (Scoped.create (.SEALContext parms securityLevel))
    (fun description => s!"SEAL metadata \"{metadata.id}\" is incompatible: an evaluation " ++
      s!"context cannot be built ({description})") .INCOMPATIBLE_METADATA
    [("keyId", .text metadata.id)]
  track context

/-- A context, and the bits of its first data. -/
def buildContext (metadata : SealMetadata ν) (securityLevel : SecLevelType) (parms : Handle) :
    Scoped ν (Handle × ν) := do
  let context ← createContext metadata securityLevel parms
  if !(← Scoped.call (.parametersSet context)) then
    incompatible metadata "the parameters do not satisfy the declared security level"
  let firstContextData ← trackNew (.firstContextData context)
  let totalDataBits ← Scoped.call (.totalCoeffModulusBitCount firstContextData)
  let rescaleLevels ← Scoped.call (.chainIndex firstContextData)
  release firstContextData
  if rescaleLevels < 1 then
    incompatible metadata
      "no modulus level is left for rescaling after a ciphertext-plaintext multiplication"
  return (context, totalDataBits)

def buildSealKeyContext (metadata : SealMetadata ν) : Scoped ν (SealKeyContext ν) := do
  if !JsNumber.isFinite metadata.scale || !JsNumber.lt ((1 : Nat) : ν) metadata.scale then
    incompatible metadata "scale must be a finite number greater than 1"
      [("scale", .number metadata.scale)]
  let securityLevel ← resolveSecurityLevel metadata
  let parms ← loadParameters metadata
  checkModulus metadata parms
  let (context, totalDataBits) ← buildContext metadata securityLevel parms
  let scaleBits := log2 metadata.scale
  if !JsNumber.lt scaleBits totalDataBits then
    incompatible metadata "scale exceeds the total coefficient modulus"
      [("scaleBits", .number scaleBits), ("totalDataBits", .number totalDataBits)]
  let magnitudeBits := totalDataBits - ((1 : Nat) : ν) - scaleBits - CAPACITY_MARGIN_BITS
  let magnitudeLimit :=
    if JsNumber.lt JsNumber.zero magnitudeBits then exp2 magnitudeBits else JsNumber.zero
  checkCapacity metadata magnitudeLimit plan.children
  let evaluator ← trackNew (.Evaluator context)
  let encoder ← trackNew (.CKKSEncoder context)
  let slotCount ← Scoped.call (.slotCount encoder)
  return ⟨metadata.id, metadata.scale, context, evaluator, encoder, slotCount, magnitudeLimit⟩

/-! ## Users -/

/-- The error of a user's child. -/
def childError {α : Type} (user : EncryptedCustomScoreUser) (key : SealKeyContext ν)
    (childKey message : String) (evaluationCode : EncryptedCustomScoreErrorCode) : Scoped ν α :=
  Scoped.fail message evaluationCode
    [("did", .text user.did), ("childKey", .text childKey), ("keyId", .text key.keyId)]

def alignmentError {α : Type} (user : EncryptedCustomScoreUser) (key : SealKeyContext ν)
    (message : String) : Scoped ν α :=
  Scoped.fail message .IMPOSSIBLE_ALIGNMENT
    [("did", .text user.did), ("keyId", .text key.keyId)]

def validateCiphertextSet (user : EncryptedCustomScoreUser) :
    Except (EncryptedCustomScoreError ν) Unit :=
  let configured := plan.children.map (·.key)
  match user.ciphertexts.find? fun entry => entry.1 ∉ configured with
  | some (childKey, _) => .error
      ⟨s!"User \"{user.did}\" carries a ciphertext for unselected child \"{childKey}\"",
        .INCOMPLETE_CIPHERTEXT_SET, [("did", .text user.did), ("childKey", .text childKey)]⟩
  | none =>
      match plan.children.find? fun child =>
        JsText.truthyText (user.ciphertexts.lookup child.key) = none with
      | some child => .error
          ⟨s!"User \"{user.did}\" is missing the selected ciphertext for child \"{child.key}\"",
            .INCOMPLETE_CIPHERTEXT_SET, [("did", .text user.did), ("childKey", .text child.key)]⟩
      | none => .ok ()

def deserializeCiphertext (key : SealKeyContext ν) (user : EncryptedCustomScoreUser)
    (ciphertexts : OrderedMap String Handle) (childKey : String) :
    Scoped ν (OrderedMap String Handle) := do
  let ciphertext ← trackNew .Ciphertext
  let serialized := (user.ciphertexts.lookup childKey).getD ""
  Scoped.orFail (Scoped.call (.loadCiphertext ciphertext key.context serialized))
    (fun description => s!"Ciphertext of child \"{childKey}\" for user \"{user.did}\" cannot be " ++
      s!"used under key \"{key.keyId}\": {description}") .INCOMPATIBLE_CIPHERTEXT
    [("did", .text user.did), ("childKey", .text childKey), ("keyId", .text key.keyId)]
  let scale ← Scoped.call (.scale ciphertext)
  if JsNumber.lt SCALE_RELATIVE_TOLERANCE (relativeDifference scale key.scale) then
    childError user key childKey (s!"Ciphertext of child \"{childKey}\" for user \"{user.did}\" " ++
      "is not at the metadata scale") .INCOMPATIBLE_CIPHERTEXT
  return ciphertexts.set childKey ciphertext

def deserializeCiphertexts (key : SealKeyContext ν) (user : EncryptedCustomScoreUser) :
    Scoped ν (OrderedMap String Handle) :=
  (plan.children.map (·.key)).foldlM (deserializeCiphertext key user) .empty

/-- The ciphertext of a child; all children of the plan have one. -/
def ciphertextOf (ciphertexts : OrderedMap String Handle) (childKey : String) : Scoped ν Handle :=
  match ciphertexts.get? childKey with
  | some ciphertext => pure ciphertext
  | none => throw (.runtime "Cannot read properties of undefined")

/-- A scalar in every slot. -/
def encodeScalar (key : SealKeyContext ν) (value scale : ν) : Scoped ν Handle := do
  let plain ← trackNew .Plaintext
  Scoped.call (.encode key.encoder (List.replicate key.slotCount value) scale plain)
  return plain

/-- The deepest level so far with its parms id, and the level of another ciphertext. -/
def alignStep (key : SealKeyContext ν) (deepest : Option (Nat × Handle)) (ciphertext : Handle) :
    Scoped ν (Option (Nat × Handle)) := do
  let parmsId ← trackNew (.parmsId ciphertext)
  let contextData ← trackNew (.getContextData key.context parmsId)
  let chainIndex ← Scoped.call (.chainIndex contextData)
  release contextData
  match deepest with
  | none => return some (chainIndex, parmsId)
  | some (minChainIndex, target) =>
      if chainIndex < minChainIndex then
        release target
        return some (chainIndex, parmsId)
      else
        release parmsId
        return some (minChainIndex, target)

def alignToCommonLevel (key : SealKeyContext ν) (user : EncryptedCustomScoreUser)
    (ciphertexts : List Handle) : Scoped ν Handle := do
  let impossible : Scoped ν Handle := alignmentError user key
    (s!"Ciphertexts for user \"{user.did}\" leave no modulus level for rescaling after " ++
      "multiplication")
  match ← ciphertexts.foldlM (alignStep key) none with
  | none => impossible
  | some (minChainIndex, target) =>
      if minChainIndex < 1 then impossible
      else
        ciphertexts.forM fun ciphertext =>
          Scoped.call (.cipherModSwitchToInplace key.evaluator ciphertext target)
        return target

/-- Subtract the shift of a child, if it is not zero. -/
def subtractShift (key : SealKeyContext ν) (workingParmsId ciphertext : Handle) (shift : ν) :
    Scoped ν Unit := do
  if shift ≠ JsNumber.zero then
    let scale ← Scoped.call (.scale ciphertext)
    let shiftPlain ← encodeScalar key shift scale
    if !(← Scoped.call (.isZero shiftPlain)) then
      Scoped.call (.plainModSwitchToInplace key.evaluator shiftPlain workingParmsId)
      Scoped.call (.subPlainInplace key.evaluator ciphertext shiftPlain)
    release shiftPlain

def multiplyCoefficient (key : SealKeyContext ν) (user : EncryptedCustomScoreUser)
    (workingParmsId ciphertext : Handle) (childKey : String) (coefficient : ν) :
    Scoped ν Unit := do
  let coefficientPlain ← encodeScalar key coefficient key.scale
  if ← Scoped.call (.isZero coefficientPlain) then
    childError user key childKey (s!"Contribution coefficient of child \"{childKey}\" " ++
      s!"underflows the CKKS scale of key \"{key.keyId}\"") .CAPACITY_EXCEEDED
  Scoped.call (.plainModSwitchToInplace key.evaluator coefficientPlain workingParmsId)
  Scoped.call (.multiplyPlainInplace key.evaluator ciphertext coefficientPlain)
  release coefficientPlain
  Scoped.call (.rescaleToNextInplace key.evaluator ciphertext)

/-- Add the contribution of a child to the accumulator, which the first child is itself. -/
def accumulate (key : SealKeyContext ν) (user : EncryptedCustomScoreUser) (ciphertext : Handle) :
    Option (Handle × ν) → Scoped ν (Handle × ν)
  | none => do return (ciphertext, ← Scoped.call (.scale ciphertext))
  | some (accumulator, canonicalScale) => do
      let scale ← Scoped.call (.scale ciphertext)
      if JsNumber.lt SCALE_RELATIVE_TOLERANCE (relativeDifference scale canonicalScale) then
        alignmentError user key
          s!"Rescaled contributions for user \"{user.did}\" have unalignable scales"
      Scoped.call (.setScale ciphertext canonicalScale)
      Scoped.call (.addInplace key.evaluator accumulator ciphertext)
      return (accumulator, canonicalScale)

def contribute (key : SealKeyContext ν) (user : EncryptedCustomScoreUser)
    (ciphertexts : OrderedMap String Handle) (workingParmsId : Handle)
    (accumulated : Option (Handle × ν)) (child : String × ν × ν) :
    Scoped ν (Option (Handle × ν)) := do
  let (childKey, coefficient, shift) := child
  let ciphertext ← ciphertextOf ciphertexts childKey
  subtractShift key workingParmsId ciphertext shift
  multiplyCoefficient key user workingParmsId ciphertext childKey coefficient
  return some (← accumulate key user ciphertext accumulated)

def evaluateAffineChildren (key : SealKeyContext ν) (user : EncryptedCustomScoreUser)
    (activeChildren : List (String × ν × ν)) (ciphertexts : OrderedMap String Handle) :
    Scoped ν Handle := do
  let activeCiphertexts ← activeChildren.foldlM (fun active child => do
    return active ++ [← ciphertextOf ciphertexts child.1]) []
  let workingParmsId ← alignToCommonLevel key user activeCiphertexts
  match ← activeChildren.foldlM (contribute key user ciphertexts workingParmsId) none with
  | none =>
      Scoped.fail s!"No contribution was accumulated for user \"{user.did}\"" .EVALUATION_FAILED
        [("did", .text user.did)]
  | some (accumulator, _) => return accumulator

def deriveEncryptedZero (key : SealKeyContext ν) (user : EncryptedCustomScoreUser)
    (fallback : Option (ZeroFallback ν)) (ciphertexts : OrderedMap String Handle) :
    Scoped ν Handle := do
  match fallback.bind fun fallback =>
    (ciphertexts.get? fallback.childKey).map (fallback.knownValue, ·) with
  | none =>
      Scoped.fail ("No equal-bounds child ciphertext is available to derive an encrypted zero " ++
        s!"for user \"{user.did}\"") .EVALUATION_FAILED [("did", .text user.did)]
  | some (knownValue, ciphertext) =>
      let scale ← Scoped.call (.scale ciphertext)
      let knownPlain ← encodeScalar key knownValue scale
      if !(← Scoped.call (.isZero knownPlain)) then
        let parmsId ← trackNew (.parmsId ciphertext)
        Scoped.call (.plainModSwitchToInplace key.evaluator knownPlain parmsId)
        release parmsId
        Scoped.call (.subPlainInplace key.evaluator ciphertext knownPlain)
      release knownPlain
      return ciphertext

def evaluateCiphertexts (key : SealKeyContext ν) (user : EncryptedCustomScoreUser)
    (ciphertexts : OrderedMap String Handle) : Scoped ν Handle :=
  if plan.activeChildren.length > 0 then
    evaluateAffineChildren key user plan.activeChildren ciphertexts
  else deriveEncryptedZero key user plan.zeroFallback ciphertexts

/-- The evaluation of a user, in the scope of the user. -/
def evaluateInScope (key : SealKeyContext ν) (user : EncryptedCustomScoreUser) :
    Scoped ν EncryptedCustomScoreResult := do
  let ciphertexts ← deserializeCiphertexts plan key user
  let result ← evaluateCiphertexts plan key user ciphertexts
  if ← Scoped.call (.isTransparent result) then
    Scoped.fail s!"Evaluation for user \"{user.did}\" produced a transparent ciphertext"
      .EVALUATION_FAILED [("did", .text user.did)]
  return ⟨user.did, user.keyId, ← Scoped.call (.saveToBase64 result)⟩

/-! ## The evaluator -/

structure RegisteredKey (ν : Type) where
  key : SealKeyContext ν
  scope : List Handle

/-- An evaluator, with the handles of the scope of each registered key. -/
structure EvaluatorState (ν : Type) where
  ledger : SealHandleLedger := {}
  registeredKeys : OrderedMap String (RegisteredKey ν) := .empty
  disposed : Bool := false

/-- The handles that the scopes of registered keys hold. -/
def EvaluatorState.handles (state : EvaluatorState ν) : List Handle :=
  state.registeredKeys.entries.flatMap fun entry => entry.2.scope

/-- `stats().liveHandles`. -/
def EvaluatorState.liveHandles (state : EvaluatorState ν) : Int :=
  state.ledger.created - state.ledger.released

abbrev Evaluator (ν : Type) := Stateful ν (EvaluatorState ν)

/-- Run in a scope with handles: what comes of it, and the handles of the scope then. -/
def inScope {α : Type} (handles : List Handle) (program : Scoped ν α) :
    Evaluator ν (Except (Thrown ν) α × List Handle) := do
  let state ← get
  let (result, scope) ← ExceptT.lift (StateT.lift (program.run.run ⟨handles, state.ledger⟩))
  set { state with ledger := scope.ledger }
  return (result, scope.handles)

def disposeScope (handles : List Handle) : Evaluator ν Unit := do
  let _ ← inScope handles dispose

def ensureUsable : Evaluator ν Unit := do
  if (← get).disposed then
    throw (.evaluation ⟨"The encrypted evaluator was already disposed", .EVALUATOR_DISPOSED, []⟩)

def registerSealMetadata (metadata : SealMetadata ν) : Evaluator ν Unit := do
  ensureUsable
  if ((← get).registeredKeys.get? metadata.id).isNone then
    let (result, handles) ← inScope [] (buildSealKeyContext log2 exp2 plan metadata)
    match result with
    | .ok key => modify fun state =>
        { state with registeredKeys := state.registeredKeys.set metadata.id ⟨key, handles⟩ }
    | .error error =>
        disposeScope handles
        throw error

def evaluateUser (user : EncryptedCustomScoreUser) : Evaluator ν EncryptedCustomScoreResult := do
  ensureUsable
  match (← get).registeredKeys.get? user.keyId with
  | none => throw (.evaluation
      ⟨s!"User \"{user.did}\" references metadata key \"{user.keyId}\", which is not registered",
        .UNREGISTERED_KEY, [("did", .text user.did), ("keyId", .text user.keyId)]⟩)
  | some registered =>
      match validateCiphertextSet plan user with
      | .error error => throw (.evaluation error)
      | .ok () =>
          let (result, handles) ← inScope [] (evaluateInScope plan registered.key user)
          disposeScope handles
          match result with
          | .ok result => return result
          | .error (.evaluation error) => throw (.evaluation error)
          | .error (.runtime description) => throw (.evaluation
              ⟨s!"Encrypted evaluation failed for user \"{user.did}\": {description}",
                .EVALUATION_FAILED, [("did", .text user.did), ("keyId", .text user.keyId)]⟩)

def evaluateBatch (users : List EncryptedCustomScoreUser) :
    Evaluator ν (List EncryptedCustomScoreResult) := do
  ensureUsable
  if users.length > CUSTOM_SCORE_EVALUATION_BATCH_LIMIT then
    throw (.evaluation ⟨s!"Evaluation batch of {users.length} users exceeds the limit of " ++
      s!"{CUSTOM_SCORE_EVALUATION_BATCH_LIMIT}", .BATCH_LIMIT_EXCEEDED,
      [("batchSize", .count users.length), ("limit", .count CUSTOM_SCORE_EVALUATION_BATCH_LIMIT)]⟩)
  users.foldlM (fun results user => do return results ++ [← evaluateUser plan user]) []

def disposeEvaluator : Evaluator ν Unit := do
  let state ← get
  if !state.disposed then
    modify fun state => { state with disposed := true }
    state.registeredKeys.entries.forM fun entry => disposeScope entry.2.scope
    modify fun state => { state with registeredKeys := .empty }

/-! ## Sessions -/

inductive EvaluatorCall (ν : Type) where
  | registerSealMetadata (metadata : SealMetadata ν)
  | evaluateUser (user : EncryptedCustomScoreUser)
  | evaluateBatch (users : List EncryptedCustomScoreUser)
  | dispose

/-- A call, with the results that it returns. -/
def perform : EvaluatorCall ν → Evaluator ν (List EncryptedCustomScoreResult)
  | .registerSealMetadata metadata => do
      registerSealMetadata log2 exp2 plan metadata
      return []
  | .evaluateUser user => do return [← evaluateUser plan user]
  | .evaluateBatch users => evaluateBatch plan users
  | .dispose => do
      disposeEvaluator
      return []

/-- An evaluator and the world of its runtime. -/
structure Session (ν : Type) where
  state : EvaluatorState ν := {}
  world : SealWorld := {}

variable (runtime : SealRuntime ν)

/-- What a call returns or throws, and the session after it. -/
def Session.call (session : Session ν) (call : EvaluatorCall ν) :
    Except (Thrown ν) (List EncryptedCustomScoreResult) × Session ν :=
  let ((outcome, state), world) :=
    ((perform log2 exp2 plan call).run.run session.state).run runtime.handler session.world
  (outcome, ⟨state, world⟩)

/-- The session after calls on a new evaluator. -/
def Session.after (calls : List (EvaluatorCall ν)) : Session ν :=
  calls.foldl (fun session call => (session.call log2 exp2 plan runtime call).2) {}

end Evaluator

end Reputo.CustomScore.Seal
