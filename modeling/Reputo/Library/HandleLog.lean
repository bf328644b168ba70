import Mathlib.Data.List.Basic
import Mathlib.Data.List.Count
import Mathlib.Data.List.Nodup

/-!
# Logs of handles

What happens to handles of a foreign runtime, newest first.  A log is proper where handles are
created once, and used, tracked and deleted only while they are live.
-/

namespace Reputo.Library

abbrev Handle := Nat

inductive HandleEvent where
  | created (handle : Handle)
  | tracked (handle : Handle)
  | used (handle : Handle)
  | deleted (handle : Handle)
  deriving DecidableEq, Repr

namespace HandleLog

/-- A handle that was created and not deleted. -/
structure Live (log : List HandleEvent) (handle : Handle) : Prop where
  created : .created handle ∈ log
  notDeleted : .deleted handle ∉ log

/-- An event that may follow a log. -/
def Allowed (log : List HandleEvent) : HandleEvent → Prop
  | .created handle => .created handle ∉ log
  | .tracked handle => Live log handle ∧ .tracked handle ∉ log
  | .used handle => Live log handle
  | .deleted handle => Live log handle

def Proper : List HandleEvent → Prop
  | [] => True
  | event :: log => Allowed log event ∧ Proper log

variable {log later earlier : List HandleEvent} {handle other : Handle}

theorem Proper.of_append (proper : Proper (later ++ earlier)) : Proper earlier := by
  induction later with
  | nil => exact proper
  | cons event rest ih => exact ih proper.2

/-- What is deleted has been created. -/
theorem Proper.created_of_deleted (proper : Proper log) (deleted : .deleted handle ∈ log) :
    .created handle ∈ log := by
  induction log with
  | nil => cases deleted
  | cons event rest ih =>
      rcases List.mem_cons.mp deleted with same | before
      · rw [← same] at proper
        exact List.mem_cons_of_mem _ proper.1.created
      · exact List.mem_cons_of_mem _ (ih proper.2 before)

theorem Proper.created_of_tracked (proper : Proper log) (tracked : .tracked handle ∈ log) :
    .created handle ∈ log := by
  induction log with
  | nil => cases tracked
  | cons event rest ih =>
      rcases List.mem_cons.mp tracked with same | before
      · rw [← same] at proper
        exact List.mem_cons_of_mem _ proper.1.1.created
      · exact List.mem_cons_of_mem _ (ih proper.2 before)

/-- No handle is deleted twice. -/
theorem Proper.deleted_once (proper : Proper log) (handle : Handle) :
    log.count (.deleted handle) ≤ 1 := by
  induction log with
  | nil => exact Nat.zero_le 1
  | cons event rest ih =>
      rw [List.count_cons]
      by_cases same : event = .deleted handle
      · rw [same] at proper
        rw [List.count_eq_zero_of_not_mem proper.1.notDeleted, same]
        simp
      · simpa [same] using ih proper.2

/-- No handle is used after it was deleted. -/
theorem Proper.not_used_after (proper : Proper (later ++ .deleted handle :: earlier)) :
    .used handle ∉ later := by
  induction later with
  | nil => exact List.not_mem_nil
  | cons event rest ih =>
      intro used
      rcases List.mem_cons.mp used with same | before
      · rw [← same] at proper
        exact proper.1.notDeleted (List.mem_append_right _ List.mem_cons_self)
      · exact ih proper.2 before

/-! ## Handles that are held -/

/-- The handles that are tracked and not deleted. -/
structure Holds (log : List HandleEvent) (held : List Handle) : Prop where
  nodup : held.Nodup
  exactly : ∀ handle, handle ∈ held ↔ .tracked handle ∈ log ∧ .deleted handle ∉ log

variable {held : List Handle}

theorem holds_nil : Holds [] [] where
  nodup := List.nodup_nil
  exactly handle := by simp

theorem Holds.perm {others : List Handle} (holds : Holds log held) (perm : held.Perm others) :
    Holds log others where
  nodup := perm.nodup_iff.mp holds.nodup
  exactly handle := perm.mem_iff.symm.trans (holds.exactly handle)

/-- What is held is live. -/
theorem Holds.live (holds : Holds log held) (proper : Proper log) (member : handle ∈ held) :
    Live log handle := by
  rcases (holds.exactly handle).mp member with ⟨tracked, notDeleted⟩
  exact ⟨proper.created_of_tracked tracked, notDeleted⟩

/-- An event that neither tracks nor deletes. -/
def IsPlain (event : HandleEvent) : Prop :=
  ∀ handle, event ≠ .tracked handle ∧ event ≠ .deleted handle

theorem Holds.plain {event : HandleEvent} (holds : Holds log held) (plain : IsPlain event) :
    Holds (event :: log) held where
  nodup := holds.nodup
  exactly handle := by
    rw [holds.exactly, List.mem_cons, List.mem_cons]
    have apart := plain handle
    simp [apart.1.symm, apart.2.symm]

theorem Holds.tracked (holds : Holds log held) (proper : Proper (.tracked handle :: log)) :
    Holds (.tracked handle :: log) (handle :: held) where
  nodup := by
    rw [List.nodup_cons, holds.exactly]
    exact ⟨fun listed => proper.1.2 listed.1, holds.nodup⟩
  exactly other := by
    rw [List.mem_cons, holds.exactly, List.mem_cons, List.mem_cons]
    by_cases same : other = handle
    · have notDeleted := proper.1.1.notDeleted
      simp [same, notDeleted]
    · simp [same]

theorem Holds.deleted (holds : Holds log held) : Holds (.deleted handle :: log)
    (held.erase handle) where
  nodup := holds.nodup.erase handle
  exactly other := by
    rw [holds.nodup.mem_erase_iff, holds.exactly, List.mem_cons, List.mem_cons]
    by_cases same : other = handle
    · simp [same]
    · simp [same]

end HandleLog

end Reputo.Library
