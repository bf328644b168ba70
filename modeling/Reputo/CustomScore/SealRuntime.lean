import Reputo.CustomScore.EncryptedSubmission
import Reputo.Library.HandleLog
import Reputo.Library.OrderedMap
import Reputo.Library.Program

/-!
# Operations on handles of SEAL

An operation of the runtime may throw at any point.  A scope tracks the handles that are created
in it, and releases each of them early or at its end; all scopes of an evaluator count in one
ledger.
-/

namespace Reputo.CustomScore.Seal

open Reputo.Library

variable {ν : Type}

/-! ## Operations -/

inductive SecLevelType where
  | tc128
  | tc192
  | tc256
  deriving DecidableEq, Repr

inductive SchemeType where
  | none
  | bfv
  | bgv
  | ckks
  deriving DecidableEq, Repr

/-- What creates a handle. -/
inductive SealMaker where
  | EncryptionParameters
  | coeffModulus (parms : Handle)
  | SEALContext (parms : Handle) (securityLevel : SecLevelType)
  | firstContextData (context : Handle)
  | Evaluator (context : Handle)
  | CKKSEncoder (context : Handle)
  | Ciphertext
  | Plaintext
  | parmsId (ciphertext : Handle)
  | getContextData (context id : Handle)

/-- The handles that a new one is made of. -/
def SealMaker.handles : SealMaker → List Handle
  | EncryptionParameters | Ciphertext | Plaintext => []
  | coeffModulus parms | SEALContext parms _ => [parms]
  | firstContextData context | Evaluator context | CKKSEncoder context => [context]
  | parmsId ciphertext => [ciphertext]
  | getContextData context id => [context, id]

/-- Methods of handles, with what they return. -/
inductive SealCall (ν : Type) : Type → Type where
  | loadParms (parms : Handle) (text : String) : SealCall ν Unit
  | scheme (parms : Handle) : SealCall ν SchemeType
  | polyModulusDegree (parms : Handle) : SealCall ν Nat
  | size (modulus : Handle) : SealCall ν Nat
  | bitCount (prime : Handle) : SealCall ν Nat
  | parametersSet (context : Handle) : SealCall ν Bool
  | totalCoeffModulusBitCount (contextData : Handle) : SealCall ν ν
  | chainIndex (contextData : Handle) : SealCall ν Nat
  | slotCount (encoder : Handle) : SealCall ν Nat
  | loadCiphertext (ciphertext context : Handle) (text : String) : SealCall ν Unit
  | scale (ciphertext : Handle) : SealCall ν ν
  | setScale (ciphertext : Handle) (scale : ν) : SealCall ν Unit
  | encode (encoder : Handle) (values : List ν) (scale : ν) (plain : Handle) : SealCall ν Unit
  | isZero (plain : Handle) : SealCall ν Bool
  | cipherModSwitchToInplace (evaluator ciphertext parmsId : Handle) : SealCall ν Unit
  | plainModSwitchToInplace (evaluator plain parmsId : Handle) : SealCall ν Unit
  | subPlainInplace (evaluator ciphertext plain : Handle) : SealCall ν Unit
  | multiplyPlainInplace (evaluator ciphertext plain : Handle) : SealCall ν Unit
  | rescaleToNextInplace (evaluator ciphertext : Handle) : SealCall ν Unit
  | addInplace (evaluator ciphertext other : Handle) : SealCall ν Unit
  | isTransparent (ciphertext : Handle) : SealCall ν Bool
  | saveToBase64 (ciphertext : Handle) : SealCall ν String

/-- The handles that a method reads or writes. -/
def SealCall.handles {α : Type} : SealCall ν α → List Handle
  | loadParms parms _ | scheme parms | polyModulusDegree parms => [parms]
  | size modulus => [modulus]
  | bitCount prime => [prime]
  | parametersSet context => [context]
  | totalCoeffModulusBitCount contextData | chainIndex contextData => [contextData]
  | slotCount encoder => [encoder]
  | loadCiphertext ciphertext context _ => [ciphertext, context]
  | scale ciphertext | setScale ciphertext _ => [ciphertext]
  | encode encoder _ _ plain => [encoder, plain]
  | isZero plain => [plain]
  | cipherModSwitchToInplace evaluator ciphertext parmsId => [evaluator, ciphertext, parmsId]
  | plainModSwitchToInplace evaluator plain parmsId => [evaluator, plain, parmsId]
  | subPlainInplace evaluator ciphertext plain | multiplyPlainInplace evaluator ciphertext plain =>
      [evaluator, ciphertext, plain]
  | rescaleToNextInplace evaluator ciphertext => [evaluator, ciphertext]
  | addInplace evaluator ciphertext other => [evaluator, ciphertext, other]
  | isTransparent ciphertext | saveToBase64 ciphertext => [ciphertext]

/-- An operation throws with a description, or replies.  That a handle is tracked is noted
only. -/
inductive SealOp (ν : Type) : Type → Type 1 where
  | create (maker : SealMaker) : SealOp ν (Except String Handle)
  | get (modulus : Handle) (index : Nat) : SealOp ν (Except String (Option Handle))
  | call {α : Type} (method : SealCall ν α) : SealOp ν (Except String α)
  | delete (handle : Handle) : SealOp ν Unit
  | isDeleted (handle : Handle) : SealOp ν Bool
  | track (handle : Handle) : SealOp ν Unit

/-- How the runtime behaves: which of its operations throw, where a modulus has a prime, and what
the methods return. -/
structure SealRuntime (ν : Type) where
  throws : (operation : Nat) → Option String
  present : (operation : Nat) → Bool
  returns : (operation : Nat) → ∀ {α : Type}, SealCall ν α → α

/-- The number of operations so far, and what they did to handles. -/
structure SealWorld where
  operations : Nat := 0
  log : List HandleEvent := []

def SealWorld.after (world : SealWorld) (events : List HandleEvent) : SealWorld where
  operations := world.operations + 1
  log := events ++ world.log

/-- Carry out an operation; a new handle is the number of the operation that created it. -/
def SealRuntime.handler (runtime : SealRuntime ν) : Handler (SealOp ν) SealWorld
  | _, .create maker, world =>
      let used := maker.handles.map .used
      match runtime.throws world.operations with
      | some error => (.error error, world.after used)
      | none => (.ok world.operations, world.after (.created world.operations :: used))
  | _, .get modulus _, world =>
      match runtime.throws world.operations with
      | some error => (.error error, world.after [.used modulus])
      | none =>
          if runtime.present world.operations then
            (.ok (some world.operations), world.after [.created world.operations, .used modulus])
          else (.ok none, world.after [.used modulus])
  | _, .call method, world =>
      let used := method.handles.map .used
      match runtime.throws world.operations with
      | some error => (.error error, world.after used)
      | none => (.ok (runtime.returns world.operations method), world.after used)
  | _, .delete handle, world => ((), world.after [.deleted handle])
  | _, .isDeleted handle, world => (decide (.deleted handle ∈ world.log), world.after [])
  | _, .track handle, world => ((), world.after [.tracked handle])

/-! ## Errors -/

inductive EncryptedCustomScoreErrorCode where
  | INCOMPATIBLE_METADATA
  | CAPACITY_EXCEEDED
  | EVALUATOR_DISPOSED
  | UNREGISTERED_KEY
  | INCOMPLETE_CIPHERTEXT_SET
  | INCOMPATIBLE_CIPHERTEXT
  | IMPOSSIBLE_ALIGNMENT
  | EVALUATION_FAILED
  | BATCH_LIMIT_EXCEEDED
  deriving DecidableEq, Repr

/-- A value in the context of an error. -/
inductive ContextValue (ν : Type) where
  | text (value : String)
  | count (value : Nat)
  | counts (values : List Nat)
  | number (value : ν)
  deriving DecidableEq, Repr

structure EncryptedCustomScoreError (ν : Type) where
  message : String
  evaluationCode : EncryptedCustomScoreErrorCode
  context : List (String × ContextValue ν) := []
  deriving DecidableEq, Repr

/-- A value that is thrown: an error of the evaluator, or one of the runtime by its description. -/
inductive Thrown (ν : Type) where
  | evaluation (error : EncryptedCustomScoreError ν)
  | runtime (description : String)
  deriving DecidableEq, Repr

/-- `describeSealError`. -/
def describeSealError : Thrown ν → String
  | .evaluation error => error.message
  | .runtime description => description

/-! ## Scopes -/

structure SealHandleLedger where
  created : Nat := 0
  released : Nat := 0
  deriving DecidableEq, Repr

/-- A scope, with the ledger of all scopes. -/
structure SealHandleScope where
  handles : List Handle := []
  ledger : SealHandleLedger
  deriving DecidableEq, Repr

/-- Programs with a state of their own, which they keep when they throw. -/
abbrev Stateful (ν σ : Type) := ExceptT (Thrown ν) (StateT σ (Program (SealOp ν)))

/-- Programs that run in a scope. -/
abbrev Scoped (ν : Type) := Stateful ν SealHandleScope

namespace Scoped

def perform {α : Type} (operation : SealOp ν α) : Scoped ν α :=
  ExceptT.lift (StateT.lift (Program.perform operation))

/-- A reply, or what the operation throws. -/
def orThrow {α : Type} : Except String α → Scoped ν α
  | .ok reply => pure reply
  | .error description => throw (.runtime description)

def call {α : Type} (method : SealCall ν α) : Scoped ν α := do
  orThrow (← perform (.call method))

def create (maker : SealMaker) : Scoped ν Handle := do
  orThrow (← perform (.create maker))

def fail {α : Type} (message : String) (evaluationCode : EncryptedCustomScoreErrorCode)
    (context : List (String × ContextValue ν) := []) : Scoped ν α :=
  throw (.evaluation ⟨message, evaluationCode, context⟩)

/-- What is thrown becomes another error, whose message has its description. -/
def orFail {α : Type} (program : Scoped ν α) (message : String → String)
    (evaluationCode : EncryptedCustomScoreErrorCode) (context : List (String × ContextValue ν)) :
    Scoped ν α :=
  tryCatch program fun error => fail (message (describeSealError error)) evaluationCode context

end Scoped

namespace SealHandleScope

def track (handle : Handle) : Scoped ν Handle := do
  Scoped.perform (.track handle)
  modify fun scope =>
    { handles := scope.handles ++ [handle]
      ledger := { scope.ledger with created := scope.ledger.created + 1 } }
  return handle

/-- `scope.track` of a new handle. -/
def trackNew (maker : SealMaker) : Scoped ν Handle := do
  track (← Scoped.create maker)

def deleteOnce (handle : Handle) : Scoped ν Unit := do
  if !(← Scoped.perform (.isDeleted handle)) then Scoped.perform (.delete handle)

def countReleased : Scoped ν Unit := modify fun scope =>
  { scope with ledger := { scope.ledger with released := scope.ledger.released + 1 } }

/-- Release one tracked handle early. -/
def release (handle : Handle) : Scoped ν Unit := do
  let scope ← get
  if handle ∈ scope.handles then
    modify fun scope => { scope with handles := scope.handles.erase handle }
    deleteOnce handle
    countReleased

/-- Release the handles one after another. -/
def disposeHandles : List Handle → Scoped ν Unit
  | [] => pure ()
  | handle :: rest => do
      deleteOnce handle
      countReleased
      disposeHandles rest

/-- Release all handles of the scope in the reverse order of their creation. -/
def dispose : Scoped ν Unit := do
  let scope ← get
  disposeHandles scope.handles.reverse
  modify fun scope => { scope with handles := [] }

end SealHandleScope

end Reputo.CustomScore.Seal
