import Mathlib.Algebra.BigOperators.Finprod
import Reputo.CommunityEngagement.Units

/-!
# What a community score is

One row for each consented user, whose points follow from the units of the days.  Scores depend
on the activities through these units only.
-/

namespace Reputo.CommunityEngagement

open Reputo.Library Reputo.Community Reputo.Orchestrator

/-! ## The specification -/

/-- What an activity comes to, by the units of the days. -/
noncomputable def specDetails (config : CommunityEngagementConfig)
    (weights : OrderedMap String ActivityWeight) (units : String → Int → Nat) (type : String) :
    ActivityDetails :=
  match weights.get? type with
  | none => ⟨0, 0, 0⟩
  | some weight =>
      let credited := creditedUnits config.activeDay units type weight.dailyCap
      ⟨totalUnits config.activeDay units type, credited, roundPoints (credited * weight.points)⟩

/-- The row of a user: the points of each activity, and their rounded sum. -/
noncomputable def specRecord (config : CommunityEngagementConfig)
    (weights : OrderedMap String ActivityWeight) (units : String → Int → Nat) (did : String) :
    CsvRecord :=
  let points := config.activityTypes.map fun type =>
    (type, (specDetails config weights units type).points)
  ⟨did, points, roundPoints (points.map (·.2)).sum⟩

/-- A number that is kept when points are rounded. -/
def IsMillionths (value : ℚ) : Prop := ∃ count : Int, value = count / POINTS_PRECISION

/-- Rows of the same actor, type and day that amount to the same. -/
structure SplitOf (row : CommunityActivityRecord) (parts : List CommunityActivityRecord) :
    Prop where
  same : ∀ part ∈ parts, part.actor = row.actor ∧ part.type = row.type ∧
    dayOf part = dayOf row ∧ part.actorIsBot = row.actorIsBot
  counted : ∀ part ∈ parts, 0 < part.count
  total : (parts.map (·.count)).sum = row.count

/-- Scores are those of the specification, and change with the activities as it says. -/
structure MeetsSpecification (input : BuildCommunityCohortInput) (pages : List UsersPage)
    (config : CommunityEngagementConfig) (inputs : List (PresetInput ℚ))
    (weights : OrderedMap String ActivityWeight) (cohort : List CommunityCohortRow)
    (activities : List CommunityActivityRecord) (output : CommunityEngagementOutput) : Prop where
  once : (output.csvRecords.map (·.did)).Nodup
  consented : ∀ did, did ∈ output.csvRecords.map (·.did) ↔
    did ∈ (consentedUsers input pages).map (·.1)
  records : ∀ record ∈ output.csvRecords, ∃ member ∈ cohort,
    record = specRecord config weights (unitsOf activities member.accountId) member.did ∧
      ∀ type ∈ config.activityTypes, ∀ weight, weights.get? type = some weight →
        IsMillionths weight.points →
          (type, creditedUnits config.activeDay (unitsOf activities member.accountId) type
            weight.dailyCap * weight.points) ∈ record.points
  adding : ∀ before row after, activities = before ++ after → row.actorIsBot = false →
    0 < row.count → ∃ more,
      computeCommunityEngagement config inputs (before ++ row :: after) cohort = .ok more ∧
        List.Forall₂ (fun old new => old.did = new.did ∧ old.score ≤ new.score)
          output.csvRecords more.csvRecords
  permuting : ∀ rows, rows.Perm activities →
    computeCommunityEngagement config inputs rows cohort = .ok output
  splitting : ∀ before row after parts, activities = before ++ row :: after → SplitOf row parts →
    computeCommunityEngagement config inputs (before ++ parts ++ after) cohort = .ok output
  counts : output.cohort.active + output.cohort.inactive =
    (distinctBy id ((consentedUsers input pages).map (·.1))).length

/-! ## Rounding -/

theorem POINTS_PRECISION_pos : 0 < POINTS_PRECISION := by norm_num [POINTS_PRECISION]

theorem roundPoints_zero : roundPoints 0 = 0 := by
  rw [roundPoints, zero_mul, zero_add, Int.floor_eq_zero_iff.mpr (by norm_num)]
  norm_num

theorem roundPoints_mono {lower upper : ℚ} (ordered : lower ≤ upper) :
    roundPoints lower ≤ roundPoints upper := by
  refine div_le_div_of_nonneg_right ?_ POINTS_PRECISION_pos.le
  have scaled := mul_le_mul_of_nonneg_right ordered POINTS_PRECISION_pos.le
  exact_mod_cast Int.floor_le_floor (add_le_add_left scaled _)

theorem IsMillionths.natCast_mul {value : ℚ} (millionths : IsMillionths value) (factor : Nat) :
    IsMillionths (factor * value) := by
  rcases millionths with ⟨count, rfl⟩
  exact ⟨factor * count, by push_cast; ring⟩

theorem roundPoints_millionths {value : ℚ} (millionths : IsMillionths value) :
    roundPoints value = value := by
  rcases millionths with ⟨count, rfl⟩
  have floor : ⌊(count : ℚ) + 1 / 2⌋ = count := by
    rw [Int.floor_intCast_add, Int.floor_eq_zero_iff.mpr (by norm_num), add_zero]
  rw [roundPoints, div_mul_cancel₀ _ POINTS_PRECISION_pos.ne', floor]

/-! ## Units -/

section Units

theorem unitsOf_append (left right : List CommunityActivityRecord) (account : Option String)
    (type : String) (day : Int) :
    unitsOf (left ++ right) account type day =
      unitsOf left account type day + unitsOf right account type day := by
  rw [unitsOf, accountRows, List.filter_append, List.map_append, totalOf_append]
  rfl

theorem unitsOf_cons (row : CommunityActivityRecord) (rows : List CommunityActivityRecord)
    (account : Option String) (type : String) (day : Int) :
    unitsOf (row :: rows) account type day =
      (if row.actorIsBot = false ∧ account = some row.actor ∧ row.type = type ∧ dayOf row = day
        then row.count else 0) + unitsOf rows account type day := by
  rw [unitsOf, accountRows, List.filter_cons]
  by_cases own : row.actorIsBot = false ∧ account = some row.actor
  · rw [if_pos (by simp [own.1, own.2]), List.map_cons, totalOf_cons]
    simp only [Prod.mk.injEq, own.1, own.2, true_and]
    rfl
  · have other : ¬(!row.actorIsBot && decide (account = some row.actor)) = true := by
      simpa using own
    rw [if_neg other, if_neg fun all => own ⟨all.1, all.2.1⟩, Nat.zero_add]
    rfl

theorem unitsOf_perm {rows others : List CommunityActivityRecord} (perm : rows.Perm others) :
    unitsOf rows = unitsOf others := by
  funext account type day
  exact totalOf_perm ((perm.filter _).map _) (type, day)

/-- Parts amount to what was split. -/
theorem unitsOf_splitOf {row : CommunityActivityRecord} {parts : List CommunityActivityRecord}
    (split : SplitOf row parts) (account : Option String) (type : String) (day : Int) :
    unitsOf parts account type day = unitsOf [row] account type day := by
  have parted : unitsOf parts account type day =
      if row.actorIsBot = false ∧ account = some row.actor ∧ row.type = type ∧ dayOf row = day
        then (parts.map (·.count)).sum else 0 := by
    have same := split.same
    clear split
    induction parts with
    | nil => simp [unitsOf, accountRows]
    | cons part rest ih =>
        rcases same part (List.mem_cons_self ..) with ⟨actor, partType, partDay, bot⟩
        rw [unitsOf_cons, actor, partType, partDay, bot,
          ih fun other member => same other (List.mem_cons_of_mem _ member)]
        split <;> simp
  rw [parted, split.total, unitsOf_cons]
  rfl

/-- A row more never means fewer units. -/
theorem unitsOf_le_insert (before : List CommunityActivityRecord) (row : CommunityActivityRecord)
    (after : List CommunityActivityRecord) (account : Option String) (type : String) (day : Int) :
    unitsOf (before ++ after) account type day ≤
      unitsOf (before ++ row :: after) account type day := by
  rw [unitsOf_append, unitsOf_append, unitsOf_cons]
  exact Nat.add_le_add_left (Nat.le_add_left _ _) _

theorem activeDays_finite (activities : List CommunityActivityRecord) (account : Option String)
    (sourceTypes : List String) : (activeDays (unitsOf activities account) sourceTypes).Finite := by
  refine ((activities.map dayOf).finite_toSet).subset ?_
  rintro day ⟨type, _, positive⟩
  have keyed := mem_keys_of_totalOf_ne_zero positive.ne'
  rw [accountRows, List.map_map] at keyed
  rcases List.mem_map.mp keyed with ⟨record, kept, same⟩
  exact List.mem_map.mpr ⟨record, (List.mem_filter.mp kept).1, (Prod.mk.inj same).2⟩

theorem support_unitsOf_finite (activities : List CommunityActivityRecord)
    (account : Option String) (type : String) {weight : Nat → Nat} (zero : weight 0 = 0) :
    (Function.support fun day => weight (unitsOf activities account type day)).Finite :=
  support_totalOf_finite (accountRows activities account)
    (fun _ _ same => (Prod.mk.inj same).2) zero

/-- More units earn more. -/
theorem creditedUnits_mono {activeDay : Option ActiveDayConfig}
    {fewer more : List CommunityActivityRecord} {account : Option String}
    (units : ∀ type day, unitsOf fewer account type day ≤ unitsOf more account type day)
    (type : String) (dailyCap : Nat) :
    creditedUnits activeDay (unitsOf fewer account) type dailyCap ≤
      creditedUnits activeDay (unitsOf more account) type dailyCap := by
  rw [creditedUnits, creditedUnits]
  cases derivedBy activeDay type with
  | some activeDay =>
      refine min_le_min_right dailyCap (Set.ncard_le_ncard ?_ (activeDays_finite more account _))
      rintro day ⟨source, listed, positive⟩
      exact ⟨source, listed, lt_of_lt_of_le positive (units source day)⟩
  | none =>
      have fewerFinite := @support_unitsOf_finite fewer account type (min · dailyCap)
        (Nat.zero_min _)
      have moreFinite := @support_unitsOf_finite more account type (min · dailyCap)
        (Nat.zero_min _)
      exact finsum_le_finsum' fewerFinite moreFinite fun day =>
        min_le_min_right dailyCap (units type day)

end Units

/-! ## Outputs -/

section Output

variable {config : CommunityEngagementConfig} {weights : OrderedMap String ActivityWeight}
  {activities : List CommunityActivityRecord} {cohort : List CommunityCohortRow}
  {member : CommunityCohortRow}

/-- The activities of a user who occurs once are scored as specified. -/
theorem activityDetails_eq (counted : ∀ record ∈ activities, 0 < record.count)
    (nodup : (cohort.map (·.did)).Nodup) (listed : member ∈ cohort) (type : String) :
    activityDetails weights (aggregateCommunityActivity activities cohort weights
        config.activeDay) member.did type =
      specDetails config weights (unitsOf activities member.accountId) type := by
  rw [activityDetails, specDetails]
  cases weighed : weights.get? type with
  | none =>
      rw [get?_aggregate_unweighed weighed]
      rfl
  | some weight =>
      have found := @getD_aggregate activities cohort member weights config.activeDay counted nodup
        listed type weight weighed
      cases got : (aggregateCommunityActivity activities cohort weights config.activeDay).get?
        (member.did, type) with
      | none =>
          rw [got, Option.getD_none] at found
          rcases ActivityUnitTotals.mk.inj found with ⟨units, capped⟩
          simp only [← units, ← capped, Option.map_none, Option.getD_none]
          rw [Nat.cast_zero, zero_mul, roundPoints_zero]
      | some unit =>
          rw [got, Option.getD_some] at found
          rw [found]
          rfl

/-- What is emitted for a user, by the units of his account. -/
noncomputable def specUser (config : CommunityEngagementConfig)
    (weights : OrderedMap String ActivityWeight) (units : Option String → String → Int → Nat)
    (member : CommunityCohortRow) : CommunityEngagementUserDetails :=
  let activities := config.activityTypes.map fun type =>
    (type, specDetails config weights (units member.accountId) type)
  { did := member.did
    status := member.status
    username := member.username
    accountId := member.accountId
    score := roundPoints ((activities.map (·.2.points)).sum)
    activities }

theorem memberDetails_eq (counted : ∀ record ∈ activities, 0 < record.count)
    (nodup : (cohort.map (·.did)).Nodup) (listed : member ∈ cohort) :
    memberDetails config weights (aggregateCommunityActivity activities cohort weights
        config.activeDay) member =
      specUser config weights (unitsOf activities) member := by
  have details : (config.activityTypes.map fun type => (type, activityDetails weights
      (aggregateCommunityActivity activities cohort weights config.activeDay) member.did type)) =
        config.activityTypes.map fun type =>
          (type, specDetails config weights (unitsOf activities member.accountId) type) :=
    List.map_congr_left fun type _ =>
      congrArg (Prod.mk type) (activityDetails_eq counted nodup listed type)
  rw [memberDetails, specUser, details]

theorem csvRecord_specUser (units : Option String → String → Int → Nat) :
    csvRecord (specUser config weights units member) =
      specRecord config weights (units member.accountId) member.did := by
  rw [csvRecord, specUser, specRecord]
  simp only [List.map_map]
  rfl

/-- Two tables of the same units have the same output. -/
theorem engagementOutput_congr {others : List CommunityActivityRecord}
    (counted : ∀ record ∈ activities, 0 < record.count)
    (othersCounted : ∀ record ∈ others, 0 < record.count) (nodup : (cohort.map (·.did)).Nodup)
    (same : unitsOf activities = unitsOf others) :
    engagementOutput config weights (aggregateCommunityActivity activities cohort weights
        config.activeDay) (cohortOrder.orderBy cohort) =
      engagementOutput config weights (aggregateCommunityActivity others cohort weights
        config.activeDay) (cohortOrder.orderBy cohort) := by
  have users : (cohortOrder.orderBy cohort).map (memberDetails config weights
      (aggregateCommunityActivity activities cohort weights config.activeDay)) =
        (cohortOrder.orderBy cohort).map (memberDetails config weights
          (aggregateCommunityActivity others cohort weights config.activeDay)) := by
    refine List.map_congr_left fun member among => ?_
    have listed := (RowOrder.mem_orderBy _).mp among
    rw [memberDetails_eq counted nodup listed, memberDetails_eq othersCounted nodup listed, same]
  rw [engagementOutput, engagementOutput, users]

/-- The rows of a cohort without repetition are those of the specification. -/
theorem csvRecords_engagementOutput (counted : ∀ record ∈ activities, 0 < record.count)
    (nodup : (cohort.map (·.did)).Nodup) :
    (engagementOutput config weights (aggregateCommunityActivity activities cohort weights
        config.activeDay) (cohortOrder.orderBy cohort)).csvRecords =
      (cohortOrder.orderBy cohort).map fun member =>
        specRecord config weights (unitsOf activities member.accountId) member.did := by
  simp only [engagementOutput, List.map_map]
  refine List.map_congr_left fun member among => ?_
  rw [Function.comp_apply, memberDetails_eq counted nodup ((RowOrder.mem_orderBy _).mp among),
    csvRecord_specUser]

theorem computeCommunityEngagement_ok {inputs : List (PresetInput ℚ)}
    (accepted : extractActivityWeights inputs config.activityTypes = .ok weights)
    (activities : List CommunityActivityRecord) (cohort : List CommunityCohortRow) :
    computeCommunityEngagement config inputs activities cohort =
      .ok (engagementOutput config weights (aggregateCommunityActivity activities cohort weights
        config.activeDay) (cohortOrder.orderBy cohort)) := by
  rw [computeCommunityEngagement, accepted]
  rfl

theorem dids_engagementOutput (totals : OrderedMap (String × String) ActivityUnitTotals)
    (cohort : List CommunityCohortRow) :
    (engagementOutput config weights totals cohort).csvRecords.map (·.did) =
      cohort.map (·.did) := by
  simp only [engagementOutput, List.map_map]
  rfl

theorem counts_engagementOutput (totals : OrderedMap (String × String) ActivityUnitTotals)
    (cohort : List CommunityCohortRow) :
    (engagementOutput config weights totals cohort).cohort.active +
        (engagementOutput config weights totals cohort).cohort.inactive = cohort.length := by
  have active : (cohort.map (memberDetails config weights totals)).countP isActive ≤
      cohort.length := by
    refine (List.countP_le_length ..).trans ?_
    rw [List.length_map]
  exact Nat.add_sub_cancel' active

end Output

/-! ## Weights are positive -/

section Weights

theorem pos_of_readPoints {activity : String} {points : Option (Json ℚ)} {value : ℚ}
    (read : readPoints activity points = .ok value) : 0 < value := by
  rw [readPoints] at read
  split at read
  · cases read
  · split at read
    · cases read
    · rename_i positive
      cases read
      exact not_le.mp positive

/-- Weights with points above zero. -/
def Positive (weights : OrderedMap String ActivityWeight) : Prop :=
  ∀ type weight, weights.get? type = some weight → 0 < weight.points

theorem positive_extractRow {activityTypes : List String}
    {byType after : OrderedMap String ActivityWeight} {row : Json ℚ} (positive : Positive byType)
    (extracted : extractRow activityTypes byType row = .ok after) : Positive after := by
  rw [extractRow] at extracted
  split at extracted
  · cases extracted
  · split at extracted
    · cases extracted
    · rename_i activity _
      split at extracted
      · cases extracted
      · split at extracted
        · cases extracted
        · cases read : readPoints activity (row.field "points") with
          | error error =>
              rw [read] at extracted
              cases extracted
          | ok points =>
              cases capped : readDailyCap activity (row.field "daily_cap") with
              | error error =>
                  rw [read, capped] at extracted
                  cases extracted
              | ok dailyCap =>
                  rw [read, capped] at extracted
                  cases extracted
                  intro type weight found
                  rw [OrderedMap.get?_set] at found
                  split at found
                  · cases found
                    exact pos_of_readPoints read
                  · exact positive type weight found

theorem positive_foldlM {activityTypes : List String} {rows : List (Json ℚ)}
    {byType after : OrderedMap String ActivityWeight} (positive : Positive byType)
    (extracted : rows.foldlM (extractRow activityTypes) byType = .ok after) : Positive after := by
  induction rows generalizing byType with
  | nil =>
      cases extracted
      exact positive
  | cons row rest ih =>
      rw [List.foldlM_cons] at extracted
      cases step : extractRow activityTypes byType row with
      | error error =>
          rw [step] at extracted
          cases extracted
      | ok next =>
          rw [step] at extracted
          exact ih (positive_extractRow positive step) extracted

theorem positive_of_extractActivityWeights {inputs : List (PresetInput ℚ)}
    {activityTypes : List String} {weights : OrderedMap String ActivityWeight}
    (accepted : extractActivityWeights inputs activityTypes = .ok weights) : Positive weights := by
  rw [extractActivityWeights] at accepted
  split at accepted
  · cases accepted
  · cases accepted
  · rename_i first rest _
    cases extracted : (first :: rest).foldlM (extractRow activityTypes) .empty with
    | error error =>
        rw [extracted] at accepted
        cases accepted
    | ok byType =>
        rw [extracted] at accepted
        cases accepted
        have positive : Positive byType :=
          positive_foldlM (fun _ _ found => by cases found) extracted
        intro type weight found
        rcases List.mem_filterMap.mp (OrderedMap.mem_of_get?_ofPairs found) with ⟨own, _, same⟩
        rcases Option.map_eq_some_iff.mp same with ⟨held, got, equal⟩
        cases equal
        exact positive _ _ got

/-- More units never mean a lower score. -/
theorem specRecord_mono {config : CommunityEngagementConfig}
    {weights : OrderedMap String ActivityWeight} (positive : Positive weights)
    {fewer more : List CommunityActivityRecord} {account : Option String}
    (units : ∀ type day, unitsOf fewer account type day ≤ unitsOf more account type day)
    (did : String) :
    (specRecord config weights (unitsOf fewer account) did).score ≤
      (specRecord config weights (unitsOf more account) did).score := by
  refine roundPoints_mono ?_
  rw [List.map_map, List.map_map]
  refine List.sum_le_sum fun type _ => ?_
  change (specDetails config weights _ type).points ≤ (specDetails config weights _ type).points
  rw [specDetails, specDetails]
  cases weighed : weights.get? type with
  | none => exact le_refl 0
  | some weight =>
      refine roundPoints_mono (mul_le_mul_of_nonneg_right ?_ (positive type weight weighed).le)
      exact_mod_cast creditedUnits_mono units type weight.dailyCap

end Weights

/-- Points are not rounded where the weight is a number of millionths. -/
theorem mem_specRecord {config : CommunityEngagementConfig}
    {weights : OrderedMap String ActivityWeight} {type : String}
    (listed : type ∈ config.activityTypes) {weight : ActivityWeight}
    (weighed : weights.get? type = some weight) (millionths : IsMillionths weight.points)
    (units : String → Int → Nat) (did : String) :
    (type, creditedUnits config.activeDay units type weight.dailyCap * weight.points) ∈
      (specRecord config weights units did).points := by
  refine List.mem_map.mpr ⟨type, listed, congrArg (Prod.mk type) ?_⟩
  rw [specDetails, weighed]
  exact roundPoints_millionths (millionths.natCast_mul _)

/-! ## The cohort -/

section Cohort

variable {input : BuildCommunityCohortInput} {pages : List UsersPage}
  {cohort : List CommunityCohortRow}

theorem dids_mapM {entries : List (String × DeepIdUser)} {parsed : List (String × Option String)}
    (read : entries.mapM parseSocialIdentity = .ok parsed) :
    parsed.map (·.1) = entries.map (·.1) := by
  induction entries generalizing parsed with
  | nil =>
      cases read
      rfl
  | cons entry rest ih =>
      rw [List.mapM_cons] at read
      cases first : parseSocialIdentity entry with
      | error error =>
          rw [first] at read
          cases read
      | ok head =>
          cases others : rest.mapM parseSocialIdentity with
          | error error =>
              rw [first, others] at read
              cases read
          | ok tail =>
              rw [first, others] at read
              cases read
              rw [List.map_cons, List.map_cons, ih others]
              refine congrArg (· :: _) ?_
              rw [parseSocialIdentity] at first
              split at first
              · cases first
              · cases first
                rfl

/-- The cohort has the users who consented, as often as the pages have them. -/
theorem dids_buildCommunityCohort (built : buildCommunityCohort input pages = .ok cohort) :
    (cohort.map (·.did)).Perm ((consentedUsers input pages).map (·.1)) := by
  rw [buildCommunityCohort] at built
  cases read : (consentedUsers input pages).mapM parseSocialIdentity with
  | error error =>
      rw [read] at built
      cases built
  | ok consented =>
      rw [read] at built
      cases built
      rw [List.map_map, ← dids_mapM read]
      exact (RowOrder.perm_orderBy _ consented).map (·.1)

end Cohort

/-! ## The result -/

/-- Scores are those of the specification exactly if no user consented on two pages. -/
theorem computeCommunityEngagement_meets_iff {input : BuildCommunityCohortInput}
    {pages : List UsersPage} {cohort : List CommunityCohortRow}
    (built : buildCommunityCohort input pages = .ok cohort) {config : CommunityEngagementConfig}
    {inputs : List (PresetInput ℚ)} {weights : OrderedMap String ActivityWeight}
    (accepted : extractActivityWeights inputs config.activityTypes = .ok weights)
    (activities : ActivityTable) :
    ∃ output, computeCommunityEngagement config inputs activities.rows
        (cohortOrder.orderBy cohort) = .ok output ∧
      (MeetsSpecification input pages config inputs weights (cohortOrder.orderBy cohort)
          activities.rows output ↔
        ((consentedUsers input pages).map (·.1)).Nodup) := by
  refine ⟨_, computeCommunityEngagement_ok accepted _ _, ?_⟩
  have perm : (cohortOrder.orderBy (cohortOrder.orderBy cohort)).Perm cohort :=
    (RowOrder.perm_orderBy _ _).trans (RowOrder.perm_orderBy _ _)
  have dids := (perm.map (·.did)).trans (dids_buildCommunityCohort built)
  constructor
  · intro meets
    have once := meets.once
    rw [dids_engagementOutput] at once
    exact dids.nodup_iff.mp once
  · intro nodup
    have frozenNodup : ((cohortOrder.orderBy cohort).map (·.did)).Nodup :=
      ((RowOrder.perm_orderBy _ cohort).map (·.did)).nodup_iff.mpr
        ((dids_buildCommunityCohort built).nodup_iff.mpr nodup)
    have records := @csvRecords_engagementOutput config weights _ _ activities.counted frozenNodup
    constructor
    case once =>
      rw [dids_engagementOutput]
      exact dids.nodup_iff.mpr nodup
    case consented =>
      intro did
      rw [dids_engagementOutput]
      exact dids.mem_iff
    case records =>
      intro record listed
      rw [records] at listed
      rcases List.mem_map.mp listed with ⟨member, among, same⟩
      refine ⟨member, (RowOrder.mem_orderBy _).mp among, same.symm, ?_⟩
      rw [← same]
      exact fun type scored weight weighed millionths =>
        mem_specRecord scored weighed millionths _ member.did
    case adding =>
      intro before row after whole _ positive
      refine ⟨_, computeCommunityEngagement_ok accepted _ _, ?_⟩
      have counted : ∀ record ∈ before ++ row :: after, 0 < record.count := by
        intro record member
        rcases List.mem_append.mp member with early | late
        · exact activities.counted record (whole ▸ List.mem_append_left _ early)
        · rcases List.mem_cons.mp late with same | later
          · exact same ▸ positive
          · exact activities.counted record (whole ▸ List.mem_append_right _ later)
      rw [records, csvRecords_engagementOutput counted frozenNodup, List.forall₂_map_left_iff,
        List.forall₂_map_right_iff]
      refine List.forall₂_same.mpr fun member _ => ⟨rfl, ?_⟩
      rw [whole]
      exact specRecord_mono (positive_of_extractActivityWeights accepted)
        (fun type day => unitsOf_le_insert before row after member.accountId type day) member.did
    case permuting =>
      intro rows shuffled
      rw [computeCommunityEngagement_ok accepted]
      exact congrArg Except.ok (engagementOutput_congr
        (fun record member => activities.counted record (shuffled.mem_iff.mp member))
        activities.counted frozenNodup (unitsOf_perm shuffled))
    case splitting =>
      intro before row after parts whole split
      rw [computeCommunityEngagement_ok accepted]
      have counted : ∀ record ∈ before ++ parts ++ after, 0 < record.count := by
        intro record member
        rcases List.mem_append.mp member with early | late
        · rcases List.mem_append.mp early with early | part
          · exact activities.counted record (whole ▸ List.mem_append_left _ early)
          · exact split.counted record part
        · exact activities.counted record
            (whole ▸ List.mem_append_right _ (List.mem_cons_of_mem _ late))
      refine congrArg Except.ok (engagementOutput_congr counted activities.counted frozenNodup ?_)
      funext account type day
      rw [whole, unitsOf_append, unitsOf_append, unitsOf_splitOf split,
        ← List.singleton_append (l := after), unitsOf_append, unitsOf_append]
      exact Nat.add_assoc _ _ _
    case counts =>
      rw [counts_engagementOutput, perm.length_eq, distinctBy_eq_self (by rwa [List.map_id]),
        ← (dids_buildCommunityCohort built).length_eq, List.length_map]

private def discordUser : DeepIdUser := ⟨some ["api", "discord"], some (some "ann")⟩

private def discordCohort : BuildCommunityCohortInput where
  platform := "discord"
  adapter := .searchMemberId fun _ => some "1"
  localeCompare := .byKey id

private def userPage : UsersPage := .ofPairs [("did:plc:a", discordUser)]

private def annRow : CommunityCohortRow := ⟨"did:plc:a", some "ann", some "1", .matched⟩

private def messageInputs : List (PresetInput ℚ) :=
  [⟨"activities", some (.arr [.obj [("activity", .str "message"), ("points", .num 2),
    ("daily_cap", .num 3)]])⟩]

private theorem messageInputs_accepted :
    extractActivityWeights messageInputs computeDiscordEngagement.activityTypes =
      .ok (.ofPairs [("message", ⟨2, 3⟩)]) := by
  rfl

theorem computeCommunityEngagement_meets_sample :
    ∃ output, computeCommunityEngagement computeDiscordEngagement messageInputs []
        (cohortOrder.orderBy [annRow]) = .ok output ∧
      (MeetsSpecification discordCohort [userPage] computeDiscordEngagement messageInputs
          (.ofPairs [("message", ⟨2, 3⟩)]) (cohortOrder.orderBy [annRow]) [] output ↔
        ((consentedUsers discordCohort [userPage]).map (·.1)).Nodup) :=
  computeCommunityEngagement_meets_iff rfl messageInputs_accepted ⟨[], by simp⟩

/-- A user on two pages has two rows. -/
theorem repeatedUser_scoredTwice :
    ¬∀ (input : BuildCommunityCohortInput) (pages : List UsersPage)
        (cohort : List CommunityCohortRow) (config : CommunityEngagementConfig)
        (inputs : List (PresetInput ℚ)) (weights : OrderedMap String ActivityWeight)
        (activities : ActivityTable) (output : CommunityEngagementOutput),
      buildCommunityCohort input pages = .ok cohort →
        extractActivityWeights inputs config.activityTypes = .ok weights →
          computeCommunityEngagement config inputs activities.rows
            (cohortOrder.orderBy cohort) = .ok output →
              MeetsSpecification input pages config inputs weights (cohortOrder.orderBy cohort)
                activities.rows output := by
  intro meets
  have once := (meets discordCohort [userPage, userPage] [annRow, annRow]
    computeDiscordEngagement messageInputs _ ⟨[], by simp⟩ _ rfl messageInputs_accepted
    (computeCommunityEngagement_ok messageInputs_accepted _ _)).once
  rw [dids_engagementOutput] at once
  exact absurd once (by decide +kernel)

end Reputo.CommunityEngagement
