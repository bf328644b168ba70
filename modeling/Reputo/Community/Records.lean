import Mathlib.Data.List.MinMax
import Mathlib.Data.Prod.Lex
import Mathlib.Order.Nat
import Mathlib.Order.WithBot
import Reputo.Library.Distinct
import Reputo.Library.Query

/-!
# Canonical activity records

The rows that every platform maps onto, and the table that is exported: one row for each
group of staged rows with the same actor, counterparty, type, resource, object and time.
-/

namespace Reputo.Community

open Reputo.Library

/-- Times are in milliseconds. -/
structure CommunityActivityRecord where
  type : String
  actor : String
  counterparty : Option String
  resource : String
  objectId : String
  occurredAt : Int
  count : Nat
  actorIsBot : Bool
  deleted : Bool
  deriving DecidableEq, Repr

/-- The window from `start` until before `finish`. -/
structure CommunityFetchWindow where
  start : Int
  finish : Int
  deriving DecidableEq, Repr

def isWithinWindow (time : Int) (window : CommunityFetchWindow) : Bool :=
  window.start ≤ time && time < window.finish

inductive CommunityCoverageStatus where
  | complete
  | partialRead
  | failed
  deriving DecidableEq, Repr

structure CommunityResourceCoverage where
  resource : String
  status : CommunityCoverageStatus
  reason : Option String
  deriving DecidableEq, Repr

structure CommunityRecordBatch where
  records : List CommunityActivityRecord
  cursor : String
  deriving DecidableEq, Repr

/-- The rows of several batches. -/
def keptRows (batches : List CommunityRecordBatch) : List CommunityActivityRecord :=
  batches.flatMap (·.records)

theorem keptRows_append (batches : List CommunityRecordBatch) (batch : CommunityRecordBatch) :
    keptRows (batches ++ [batch]) = keptRows batches ++ batch.records := by
  rw [keptRows, keptRows, List.flatMap_append, List.flatMap_singleton]

/-! ## Errors of a platform -/

/-- Why a request fails; `other` is an error that is not of the platform interface. -/
inductive CommunityApiError where
  | http (statusCode : Nat)
  | auth
  | permission
  | rateLimit
  | network
  | contract
  | outboundPolicy
  | other
  deriving DecidableEq, Repr

def toErrorCategory : CommunityApiError → String
  | .http statusCode => if statusCode = 404 then "not_found" else "upstream_error"
  | .auth => "auth_failed"
  | .permission => "permission_denied"
  | .rateLimit => "rate_limited"
  | .network => "network_error"
  | .contract => "contract_violation"
  | .outboundPolicy => "outbound_policy"
  | .other => "upstream_error"

/-! ## The exported table -/

/-- The columns by which staged rows are grouped. -/
structure ActivityGroup where
  actor : String
  counterparty : Option String
  type : String
  resource : String
  objectId : String
  occurredAt : Int
  deriving DecidableEq, Repr

def CommunityActivityRecord.group (record : CommunityActivityRecord) : ActivityGroup :=
  ⟨record.actor, record.counterparty, record.type, record.resource, record.objectId,
    record.occurredAt⟩

/-- `NULLS FIRST`. -/
def nullsFirst (value : Option String) : WithBot String := value

/-- `ORDER BY occurred_at, type, actor, object_id, counterparty NULLS FIRST, resource`. -/
def exportOrder : RowOrder ActivityGroup :=
  .byKey fun group => toLex (group.occurredAt, toLex (group.type, toLex (group.actor,
    toLex (group.objectId, toLex (nullsFirst group.counterparty, group.resource)))))

/-- The row of a group: `max(count)`, `bool_or(bot)` and `bool_or(deleted)`. -/
def groupRow (staged : List CommunityActivityRecord) (group : ActivityGroup) :
    CommunityActivityRecord :=
  let rows := staged.filter (·.group = group)
  { type := group.type
    actor := group.actor
    counterparty := group.counterparty
    resource := group.resource
    objectId := group.objectId
    occurredAt := group.occurredAt
    count := (rows.map (·.count)).foldr max 0
    actorIsBot := rows.any (·.actorIsBot)
    deleted := rows.any (·.deleted) }

/-- The activities that are exported from the rows that were staged. -/
def exportActivities (window : CommunityFetchWindow) (staged : List CommunityActivityRecord) :
    List CommunityActivityRecord :=
  let rows := staged.filter fun record => isWithinWindow record.occurredAt window
  (exportOrder.orderBy (distinctBy id (rows.map (·.group)))).map (groupRow rows)

/-! ## What the export depends on -/

theorem exportOrder_antisymm (left right : ActivityGroup)
    (forward : exportOrder.le left right = true) (back : exportOrder.le right left = true) :
    left = right := by
  rw [exportOrder, RowOrder.byKey, decide_eq_true_iff] at forward back
  have same := le_antisymm forward back
  rcases left with ⟨actor, counterparty, type, resource, objectId, occurredAt⟩
  rcases right with ⟨actor', counterparty', type', resource', objectId', occurredAt'⟩
  cases same
  rfl

section Export

variable {staged others : List CommunityActivityRecord}

theorem mem_filter_congr (same : ∀ record, record ∈ staged ↔ record ∈ others)
    (keep : CommunityActivityRecord → Bool) (record : CommunityActivityRecord) :
    record ∈ staged.filter keep ↔ record ∈ others.filter keep := by
  rw [List.mem_filter, List.mem_filter, same]

theorem any_congr (same : ∀ record, record ∈ staged ↔ record ∈ others)
    (holds : CommunityActivityRecord → Bool) : staged.any holds = others.any holds := by
  rw [Bool.eq_iff_iff, List.any_eq_true, List.any_eq_true]
  simp only [same]

/-- More rows have no smaller largest count. -/
theorem maxCount_mono (more : ∀ record ∈ staged, record ∈ others) :
    (staged.map (·.count)).foldr max 0 ≤ (others.map (·.count)).foldr max 0 := by
  have bounded : ∀ count ∈ staged.map (·.count), count ≤ (others.map (·.count)).foldr max 0 := by
    intro count member
    rcases List.mem_map.mp member with ⟨record, stored, counted⟩
    exact List.le_max_of_le (List.mem_map_of_mem (more record stored)) counted.ge
  exact List.max_le_of_forall_le _ _ bounded

theorem groupRow_congr (same : ∀ record, record ∈ staged ↔ record ∈ others) :
    groupRow staged = groupRow others := by
  funext group
  have rows := mem_filter_congr same fun record => record.group = group
  have counts := le_antisymm (maxCount_mono fun record => (rows record).mp)
    (maxCount_mono fun record => (rows record).mpr)
  simp only [groupRow, counts, any_congr rows]

theorem nodup_groups (groups : List ActivityGroup) : (distinctBy id groups).Nodup := by
  have nodup := keys_distinctBy_nodup id groups
  rw [List.map_id] at nodup
  exact nodup

theorem mem_groups {rows : List CommunityActivityRecord} {group : ActivityGroup} :
    group ∈ distinctBy id (rows.map (·.group)) ↔ ∃ record ∈ rows, record.group = group := by
  have kept : group ∈ (distinctBy id (rows.map (·.group))).map id ↔
      group ∈ (rows.map (·.group)).map id := mem_keys_distinctBy
  rw [List.map_id, List.map_id] at kept
  rw [kept, List.mem_map]

/-- The export depends only on which rows were staged, not on how often or in which order. -/
theorem exportActivities_congr (window : CommunityFetchWindow)
    (same : ∀ record, record ∈ staged ↔ record ∈ others) :
    exportActivities window staged = exportActivities window others := by
  have rows := mem_filter_congr same fun record => isWithinWindow record.occurredAt window
  rw [exportActivities, exportActivities, groupRow_congr rows]
  congr 1
  apply exportOrder.orderBy_of_perm fun left _ right _ => exportOrder_antisymm left right
  rw [List.perm_ext_iff_of_nodup (nodup_groups _) (nodup_groups _)]
  intro group
  rw [mem_groups, mem_groups]
  simp only [rows]

end Export

end Reputo.Community
