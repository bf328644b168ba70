import Reputo.Connections.Repository

/-!
# What a stored connection says

Installs and checks interleave on one row.  The row tells the truth about both exactly if
no save writes back what another one has replaced, and no check is recorded after a newer
one.
-/

namespace Reputo.Connections

open Reputo.Library

/-! ## The truth about a row -/

/-- The last install. -/
def lastInstall (writes : List ConnectionWrite) : Option UpsertCommunityConnectionInput :=
  writes.findSome? fun write => match write with
    | .install input => some input
    | .check _ => none

/-- No recorded check is newer. -/
def Newest (writes : List ConnectionWrite) (checkedAtMs : Int) : Prop :=
  ∀ write ∈ writes, match write with
    | .check input => input.checkedAtMs ≤ checkedAtMs
    | .install _ => True

/-- The credential, name and external id are those of the last install. -/
def CommunityConnectionEntity.OfInstall (row : CommunityConnectionEntity)
    (input : UpsertCommunityConnectionInput) : Prop :=
  row.credentialsCiphertext = input.credentialsCiphertext ∧ row.name = input.name ∧
    row.externalId = input.externalId

/-- A last check is that of a newest recorded check, and there is none only if none was
recorded. -/
def CheckedLast (writes : List ConnectionWrite) : Option LastCheck → Prop
  | none => ∀ input, .check input ∉ writes
  | some last => ∃ input, .check input ∈ writes ∧ last = input.lastCheck ∧
      Newest writes input.checkedAtMs

/-- The last check and the status are those of a newest check, unless the status is that of
an install after it. -/
def CommunityConnectionEntity.OfCheck (row : CommunityConnectionEntity)
    (writes : List ConnectionWrite) : Prop :=
  match row.settings.lastCheck with
  | none => ∀ input, .check input ∉ writes
  | some last => ∃ after input before, writes = after ++ .check input :: before ∧
      last = input.lastCheck ∧ Newest writes input.checkedAtMs ∧
      (row.status = input.status ∨ ∃ install, .install install ∈ after ∧
        row.status = install.status)

/-- A stored row says what the last install and a newest check established. -/
def ConnectionStore.Truthful (store : ConnectionStore) : Prop :=
  ∀ row ∈ store.row, (∃ input, lastInstall store.writes = some input ∧ row.OfInstall input) ∧
    row.OfCheck store.writes

/-- What a save may write: a check keeps the stored credential, name and external id, and is
not older than a recorded one; an install keeps the last check of a newest one. -/
def SavesTruth : ∀ {α : Type}, ConnectionOp α → ConnectionStore → Prop
  | _, .findOne, _ | _, .insert .., _ => True
  | _, .save (.check input) entity, store =>
      (∃ row ∈ store.row, entity.credentialsCiphertext = row.credentialsCiphertext ∧
        entity.name = row.name ∧ entity.externalId = row.externalId) ∧
      Newest store.writes input.checkedAtMs
  | _, .save (.install _) entity, store => CheckedLast store.writes entity.settings.lastCheck

/-! ## What is saved -/

/-- The entity of a write. -/
def WritesOwn : ∀ {α : Type}, ConnectionOp α → Prop
  | _, .findOne => True
  | _, .save (.check input) entity =>
      entity.status = input.status ∧ entity.settings.lastCheck = some input.lastCheck
  | _, .save (.install input) entity => entity.OfInstall input ∧ entity.status = input.status
  | _, .insert (.install input) entity =>
      entity.OfInstall input ∧ entity.status = input.status ∧ entity.settings.lastCheck = none
  | _, .insert (.check _) _ => False

theorem ConnectionCall.program_uses (call : ConnectionCall) :
    call.program.Uses @WritesOwn := by
  cases call with
  | recordCheck input =>
      refine ⟨trivial, fun found => ?_⟩
      cases found with
      | none => trivial
      | some entity => exact ⟨⟨rfl, rfl⟩, fun _ => trivial⟩
  | upsertFromInstall input =>
      refine ⟨trivial, fun found => ?_⟩
      cases found with
      | some existing => exact ⟨⟨⟨rfl, rfl, rfl⟩, rfl⟩, fun _ => trivial⟩
      | none =>
          refine ⟨⟨⟨rfl, rfl, rfl⟩, rfl, rfl⟩, fun inserted => ?_⟩
          cases inserted with
          | true => trivial
          | false =>
              refine ⟨trivial, fun winner => ?_⟩
              cases winner with
              | none => trivial
              | some winner => exact ⟨⟨⟨rfl, rfl, rfl⟩, rfl⟩, fun _ => trivial⟩

/-- A row that does not exist was never written. -/
def ConnectionStore.Sound (store : ConnectionStore) : Prop :=
  store.row = none → store.writes = []

theorem sound_handler {α : Type} (operation : ConnectionOp α) {store : ConnectionStore}
    (sound : store.Sound) : (ConnectionStore.handler operation store).2.Sound := by
  cases operation with
  | findOne => exact sound
  | save write entity => exact fun absent => absurd absent (Option.some_ne_none entity)
  | insert write entity =>
      rw [ConnectionStore.handler]
      split
      · exact sound
      · exact fun absent => absurd absent (Option.some_ne_none entity)

section Saves

variable {store : ConnectionStore} {entity : CommunityConnectionEntity}

theorem lastInstall_check (input : RecordCheckInput) (writes : List ConnectionWrite) :
    lastInstall (.check input :: writes) = lastInstall writes :=
  rfl

theorem lastInstall_install (input : UpsertCommunityConnectionInput)
    (writes : List ConnectionWrite) : lastInstall (.install input :: writes) = some input :=
  rfl

theorem newest_check {input : RecordCheckInput} {writes : List ConnectionWrite}
    (newest : Newest writes input.checkedAtMs) :
    Newest (.check input :: writes) input.checkedAtMs := by
  intro write member
  rcases List.mem_cons.mp member with own | earlier
  · cases own
    exact Int.le_refl _
  · exact newest write earlier

theorem newest_install {input : UpsertCommunityConnectionInput} {writes : List ConnectionWrite}
    {checkedAtMs : Int} (newest : Newest writes checkedAtMs) :
    Newest (.install input :: writes) checkedAtMs := by
  intro write member
  rcases List.mem_cons.mp member with own | earlier
  · cases own
    trivial
  · exact newest write earlier

theorem Newest.tail {write : ConnectionWrite} {writes : List ConnectionWrite} {checkedAtMs : Int}
    (newest : Newest (write :: writes) checkedAtMs) : Newest writes checkedAtMs :=
  fun earlier member => newest earlier (List.mem_cons_of_mem _ member)

/-- A check leaves the truth exactly if it keeps what the install wrote and is not older. -/
theorem truthful_check_iff (sound : store.Sound) (truthful : store.Truthful)
    {input : RecordCheckInput} (status : entity.status = input.status)
    (last : entity.settings.lastCheck = some input.lastCheck) :
    (store.saved (.check input) entity).Truthful ↔
      SavesTruth (.save (.check input) entity) store := by
  constructor
  · intro after
    rcases after entity rfl with ⟨⟨install, installed, credential, name, externalId⟩, checked⟩
    rw [ConnectionStore.saved, lastInstall_check] at installed
    constructor
    · cases row : store.row with
      | none =>
          rw [sound row] at installed
          exact absurd installed (Option.some_ne_none install).symm
      | some row' =>
          rcases truthful row' row with ⟨⟨other, same, ownCredential, ownName, ownId⟩, _⟩
          cases installed.symm.trans same
          exact ⟨row', rfl, credential.trans ownCredential.symm, name.trans ownName.symm,
            externalId.trans ownId.symm⟩
    · rw [CommunityConnectionEntity.OfCheck, last] at checked
      rcases checked with ⟨_, other, _, _, same, newest, _⟩
      have time : input.checkedAtMs = other.checkedAtMs := congrArg LastCheck.atMs same
      rw [time]
      exact newest.tail
  · intro ⟨⟨row, stored, credential, name, externalId⟩, newest⟩ saved same
    cases same
    rcases truthful row stored with ⟨⟨install, installed, ownCredential, ownName, ownId⟩, _⟩
    constructor
    · exact ⟨install, installed, credential.trans ownCredential, name.trans ownName,
        externalId.trans ownId⟩
    · rw [CommunityConnectionEntity.OfCheck, last]
      exact ⟨[], input, store.writes, rfl, rfl, newest_check newest, Or.inl status⟩

/-- An install leaves the truth exactly if it keeps the last check of a newest one. -/
theorem truthful_install_iff {input : UpsertCommunityConnectionInput}
    (own : entity.OfInstall input) (status : entity.status = input.status) :
    (store.saved (.install input) entity).Truthful ↔
      CheckedLast store.writes entity.settings.lastCheck := by
  constructor
  · intro after
    rcases after entity rfl with ⟨_, checked⟩
    rw [CommunityConnectionEntity.OfCheck] at checked
    cases last : entity.settings.lastCheck with
    | none =>
        rw [last] at checked
        exact fun check member => checked check (List.mem_cons_of_mem _ member)
    | some lastCheck =>
        rw [last] at checked
        rcases checked with ⟨after, check, before, split, same, newest, _⟩
        refine ⟨check, ?_, same, newest.tail⟩
        cases after with
        | nil => cases split
        | cons _ after =>
            rw [(List.cons.inj split).2]
            exact List.mem_append_right _ List.mem_cons_self
  · intro checked saved same
    cases same
    refine ⟨⟨input, rfl, own⟩, ?_⟩
    rw [CommunityConnectionEntity.OfCheck]
    cases last : entity.settings.lastCheck with
    | none =>
        rw [last] at checked
        intro check member
        rcases List.mem_cons.mp member with other | earlier
        · cases other
        · exact checked check earlier
    | some lastCheck =>
        rw [last] at checked
        rcases checked with ⟨check, member, same, newest⟩
        rcases List.append_of_mem member with ⟨after, before, split⟩
        refine ⟨.install input :: after, check, before, ?_, same, newest_install newest,
          Or.inr ⟨input, List.mem_cons_self, status⟩⟩
        exact congrArg (List.cons _) split

end Saves

/-- An operation keeps the truth exactly if what it saves is true. -/
theorem truthful_handler_iff {α : Type} (operation : ConnectionOp α) {store : ConnectionStore}
    (own : WritesOwn operation) (sound : store.Sound) (truthful : store.Truthful) :
    (ConnectionStore.handler operation store).2.Truthful ↔ SavesTruth operation store := by
  cases operation with
  | findOne => exact iff_of_true truthful trivial
  | save write entity =>
      cases write with
      | check input => exact truthful_check_iff sound truthful own.1 own.2
      | install input => exact truthful_install_iff own.1 own.2
  | insert write entity =>
      refine iff_of_true ?_ trivial
      rw [ConnectionStore.handler]
      split
      · exact truthful
      · rename_i absent
        cases write with
        | check input => exact own.elim
        | install input =>
            have none : store.row = none := Option.not_isSome_iff_eq_none.mp absent
            have first : CheckedLast store.writes entity.settings.lastCheck := by
              rw [own.2.2, sound none]
              exact fun _ member => absurd member List.not_mem_nil
            exact (truthful_install_iff own.1 own.2.1).mpr first

/-! ## Interleaved installs and checks -/

/-- A step of the installs and checks that run on one row. -/
def performConnection :
    Pool ConnectionStore ConnectionOp (Option CommunityConnectionEntity) →
    PoolAction ConnectionCall Empty →
    Option (Pool ConnectionStore ConnectionOp (Option CommunityConnectionEntity)) :=
  Pool.perform ConnectionStore.handler ConnectionCall.program fun event _ => event.elim

private def credentialInstall (credential : String) : UpsertCommunityConnectionInput :=
  ⟨.github, "acme", "Acme", .pending, some credential⟩

end Reputo.Connections
