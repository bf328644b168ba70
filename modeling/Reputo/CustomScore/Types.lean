/-!
# Results of the encrypted stages

What the readiness poll and the processing pass of a combined snapshot report to the
workflow: counts and request ids, never ciphertexts.
-/

namespace Reputo.CustomScore

structure EncryptionReadinessCounts where
  complete : Nat
  potentiallyComplete : Nat
  incomplete : Nat
  deriving DecidableEq, Repr

structure CheckEncryptionReadinessResult where
  ready : Bool
  counts : EncryptionReadinessCounts
  scannedUsers : Nat
  pages : Nat
  cursorRestarts : Nat
  lastRequestId : Option String
  deriving DecidableEq, Repr

structure EncryptedScoresSubmittedResult where
  complete : Nat
  incomplete : Nat
  scannedUsers : Nat
  pages : Nat
  cursorRestarts : Nat
  submitted : Nat
  batches : Nat
  registeredKeys : Nat
  lastRequestId : Option String
  deriving DecidableEq, Repr

structure EncryptedScoresPendingResult where
  complete : Nat
  incomplete : Nat
  scannedUsers : Nat
  pages : Nat
  cursorRestarts : Nat
  lastRequestId : Option String
  deriving DecidableEq, Repr

inductive SubmitCustomEncryptedScoresResult where
  | submitted (result : EncryptedScoresSubmittedResult)
  | pendingEncryption (result : EncryptedScoresPendingResult)
  deriving DecidableEq, Repr

end Reputo.CustomScore
