import Reputo.Library.Program

/-!
# The row of one community connection

Installs and platform checks load the row, change the entity in memory and save it.  A save
writes every column that differs from the stored row, so that the row is the entity after
it.  Times are in milliseconds.
-/

namespace Reputo.Connections

open Reputo.Library

inductive CommunityPlatform where
  | discord
  | github
  | mattermost
  deriving DecidableEq, Repr

inductive CommunityConnectionStatus where
  | pending
  | active
  | degraded
  | broken
  | disconnected
  deriving DecidableEq, Repr

/-! ## Entities -/

structure CommunityConnectionMetadata where
  avatarUrl : Option String
  memberCount : Option Nat
  resourceCount : Option Nat
  readableResourceCount : Option Nat
  deriving DecidableEq, Repr

structure LastCheck where
  atMs : Int
  category : Option String
  deriving DecidableEq, Repr

/-- The `settings` of a row; settings that are malformed read as empty. -/
structure StoredSettings where
  metadata : Option CommunityConnectionMetadata := none
  resourcesDigest : Option String := none
  lastCheck : Option LastCheck := none
  deriving DecidableEq, Repr

structure CommunityConnectionEntity where
  platform : CommunityPlatform
  externalId : String
  name : String
  settings : StoredSettings
  credentialsCiphertext : Option String
  status : CommunityConnectionStatus
  deriving DecidableEq, Repr

structure UpsertCommunityConnectionInput where
  platform : CommunityPlatform
  externalId : String
  name : String
  status : CommunityConnectionStatus
  credentialsCiphertext : Option String
  deriving DecidableEq, Repr

/-- What a check established; its time is taken before the probe. -/
structure RecordCheckInput where
  status : CommunityConnectionStatus
  checkedAtMs : Int
  failureCategory : Option String
  metadata : Option CommunityConnectionMetadata
  resourcesDigest : Option String
  deriving DecidableEq, Repr

/-- A fresh install replaces everything but the settings. -/
def applyInstall (entity : Option CommunityConnectionEntity)
    (input : UpsertCommunityConnectionInput) : CommunityConnectionEntity where
  platform := input.platform
  externalId := input.externalId
  name := input.name
  settings := (entity.map (·.settings)).getD {}
  credentialsCiphertext := input.credentialsCiphertext
  status := input.status

/-- The last check that an outcome leaves. -/
def RecordCheckInput.lastCheck (input : RecordCheckInput) : LastCheck :=
  ⟨input.checkedAtMs, input.failureCategory⟩

/-- What a check changes of the loaded entity. -/
def applyCheck (entity : CommunityConnectionEntity) (input : RecordCheckInput) :
    CommunityConnectionEntity :=
  { entity with
    status := input.status
    settings :=
      { metadata := input.metadata.or entity.settings.metadata
        resourcesDigest := input.resourcesDigest.or entity.settings.resourcesDigest
        lastCheck := some input.lastCheck } }

/-! ## Database steps -/

/-- Why a row is saved. -/
inductive ConnectionWrite where
  | install (input : UpsertCommunityConnectionInput)
  | check (input : RecordCheckInput)
  deriving DecidableEq, Repr

/-- The row and the writes so far, the last one first. -/
structure ConnectionStore where
  row : Option CommunityConnectionEntity
  writes : List ConnectionWrite
  deriving DecidableEq, Repr

/-- A save comes with its reason, which only the statement reads. -/
inductive ConnectionOp : Type → Type where
  | findOne : ConnectionOp (Option CommunityConnectionEntity)
  | save (write : ConnectionWrite) (entity : CommunityConnectionEntity) : ConnectionOp Unit
  | insert (write : ConnectionWrite) (entity : CommunityConnectionEntity) : ConnectionOp Bool

namespace ConnectionStore

def saved (store : ConnectionStore) (write : ConnectionWrite)
    (entity : CommunityConnectionEntity) : ConnectionStore :=
  ⟨some entity, write :: store.writes⟩

/-- An insert fails on the unique index where the row exists. -/
def handler : Handler ConnectionOp ConnectionStore
  | _, .findOne, store => (store.row, store)
  | _, .save write entity, store => ((), store.saved write entity)
  | _, .insert write entity, store =>
      if store.row.isSome then (false, store) else (true, store.saved write entity)

end ConnectionStore

abbrev ConnectionProgram (ρ : Type) := Program ConnectionOp ρ

/-- `none` where there is no such row. -/
def recordCheck (input : RecordCheckInput) : ConnectionProgram (Option CommunityConnectionEntity) :=
  do
    match ← .perform .findOne with
    | none => return none
    | some entity =>
        let entity := applyCheck entity input
        .perform (.save (.check input) entity)
        return some entity

/-- `none` where the install fails because the row that won the index is gone again. -/
def upsertFromInstall (input : UpsertCommunityConnectionInput) :
    ConnectionProgram (Option CommunityConnectionEntity) := do
  match ← .perform .findOne with
  | some existing =>
      let entity := applyInstall (some existing) input
      .perform (.save (.install input) entity)
      return some entity
  | none =>
      let entity := applyInstall none input
      if ← .perform (.insert (.install input) entity) then return some entity
      else match ← .perform .findOne with
        | none => return none
        | some winner =>
            let entity := applyInstall (some winner) input
            .perform (.save (.install input) entity)
            return some entity

/-- A call of the repository. -/
inductive ConnectionCall where
  | recordCheck (input : RecordCheckInput)
  | upsertFromInstall (input : UpsertCommunityConnectionInput)
  deriving DecidableEq, Repr

def ConnectionCall.program : ConnectionCall →
    ConnectionProgram (Option CommunityConnectionEntity)
  | recordCheck input => Connections.recordCheck input
  | upsertFromInstall input => Connections.upsertFromInstall input

end Reputo.Connections
