import Mathlib.Data.Set.Card
import Reputo.CommunityEngagement.Pipeline

/-!
# Units of a user

What the aggregation finds for a user who occurs once in the cohort: for each activity the sum of
the capped units of the days, and for the derived activity the number of days.
-/

namespace Reputo.CommunityEngagement

open Reputo.Library Reputo.Community

/-- Frozen activities; each counts something. -/
structure ActivityTable where
  rows : List CommunityActivityRecord
  counted : ∀ row ∈ rows, 0 < row.count

/-- The activities of an account, as amounts of a type on a day. -/
def accountRows (activities : List CommunityActivityRecord) (account : Option String) :
    List ((String × Int) × Nat) :=
  (activities.filter fun record => !record.actorIsBot && account = some record.actor).map
    fun record => ((record.type, dayOf record), record.count)

/-- The units of an account of a type on a day. -/
def unitsOf (activities : List CommunityActivityRecord) (account : Option String) (type : String)
    (day : Int) : Nat :=
  totalOf (accountRows activities account) (type, day)

/-- Days with some unit of the types. -/
def activeDays (units : String → Int → Nat) (sourceTypes : List String) : Set Int :=
  {day | ∃ type ∈ sourceTypes, 0 < units type day}

section Join

variable {activities : List CommunityActivityRecord} {cohort : List CommunityCohortRow}
  {member : CommunityCohortRow}

/-- An activity is credited to a member who occurs once if the account is his. -/
theorem totalOf_joined (nodup : (cohort.map (·.did)).Nodup) (listed : member ∈ cohort)
    (record : CommunityActivityRecord) (type : String) (day : Int) :
    totalOf (joined cohort record) ⟨member.did, type, day⟩ =
      if member.accountId = some record.actor ∧ record.type = type ∧ dayOf record = day then
        record.count else 0 := by
  have one : (cohort.filter fun other => other.did = member.did) = [member] :=
    filter_key_of_mem nodup listed
  have own : cohort.filter (fun other => decide (((⟨other.did, record.type, dayOf record⟩ : DayKey),
      record.count).1 = ⟨member.did, type, day⟩) && decide (other.accountId = some record.actor)) =
        if member.accountId = some record.actor ∧ record.type = type ∧ dayOf record = day then
          [member] else [] := by
    have split : ∀ other ∈ cohort,
        (decide (((⟨other.did, record.type, dayOf record⟩ : DayKey), record.count).1 =
          ⟨member.did, type, day⟩) && decide (other.accountId = some record.actor)) =
        (decide (member.accountId = some record.actor ∧ record.type = type ∧ dayOf record = day) &&
          decide (other.did = member.did)) := by
      intro other among
      by_cases same : other.did = member.did
      · have equal : other = member := List.inj_on_of_nodup_map nodup among listed same
        rw [equal]
        simp only [DayKey.mk.injEq, true_and, Bool.decide_and, decide_true, Bool.and_true]
        exact Bool.and_comm _ _
      · simp [same, DayKey.mk.injEq]
    rw [List.filter_congr split, ← List.filter_filter, one]
    split <;> simp_all
  rw [totalOf, joined, List.filter_map, List.filter_filter, List.map_map]
  refine (congrArg (fun members : List CommunityCohortRow => (members.map fun _ =>
    record.count).sum) own).trans ?_
  split <;> simp

/-- What a member who occurs once is joined with are the units of his account. -/
theorem totalOf_joinedUnits (nodup : (cohort.map (·.did)).Nodup) (listed : member ∈ cohort)
    (type : String) (day : Int) :
    totalOf (joinedUnits activities cohort) ⟨member.did, type, day⟩ =
      unitsOf activities member.accountId type day := by
  induction activities with
  | nil => rfl
  | cons record rest ih =>
      rw [joinedUnits, unitsOf, accountRows] at ih ⊢
      cases bot : record.actorIsBot with
      | true => simpa [bot] using ih
      | false =>
          rw [List.filter_cons_of_pos (by simp [bot]), List.flatMap_cons, totalOf_append, ih,
            totalOf_joined nodup listed]
          by_cases own : member.accountId = some record.actor
          · rw [List.filter_cons_of_pos (by simp [bot, own]), List.map_cons, totalOf_cons]
            simp [own]
          · rw [List.filter_cons_of_neg (by simp [own])]
            simp [own]

/-- The keys that activities are joined under. -/
theorem mem_keys_joinedUnits_iff (counted : ∀ record ∈ activities, 0 < record.count)
    (nodup : (cohort.map (·.did)).Nodup) (listed : member ∈ cohort) (type : String) (day : Int) :
    (⟨member.did, type, day⟩ : DayKey) ∈ (joinedUnits activities cohort).map (·.1) ↔
      0 < unitsOf activities member.accountId type day := by
  rw [← totalOf_joinedUnits nodup listed, totalOf_pos]
  intro row among
  rcases List.mem_flatMap.mp among with ⟨record, kept, row_⟩
  rcases List.mem_map.mp row_ with ⟨_, _, same⟩
  rw [← same]
  exact counted record (List.mem_filter.mp kept).1

end Join

/-! ## Totals of a user -/

section Totals

variable {activities : List CommunityActivityRecord} {cohort : List CommunityCohortRow}
  {member : CommunityCohortRow}

/-- The groups of a user and a type. -/
def ofUser (units : List (DayKey × Nat)) (did type : String) : List (DayKey × Nat) :=
  units.filter fun group => group.1.did = did && group.1.type = type

theorem sum_ofUser (nodup : (cohort.map (·.did)).Nodup) (listed : member ∈ cohort)
    (type : String) {weight : Nat → Nat} (zero : weight 0 = 0) :
    ((ofUser (dayUnits activities cohort) member.did type).map fun group => weight group.2).sum =
      ∑ᶠ day, weight (unitsOf activities member.accountId type day) := by
  have injective : Function.Injective fun day => (⟨member.did, type, day⟩ : DayKey) :=
    fun left right same => (DayKey.mk.inj same).2.2
  have kept : ∀ key : DayKey, (key.did = member.did && key.type = type) = true ↔
      ∃ day, (⟨member.did, type, day⟩ : DayKey) = key := by
    rintro ⟨did, other, day⟩
    rw [Bool.and_eq_true, decide_eq_true_iff, decide_eq_true_iff]
    constructor
    · rintro ⟨rfl, rfl⟩
      exact ⟨day, rfl⟩
    · rintro ⟨_, same⟩
      cases same
      exact ⟨rfl, rfl⟩
  have sums := sum_groupTotals (joinedUnits activities cohort) injective kept zero
  rw [ofUser, dayUnits, sums]
  exact finsum_congr fun day => congrArg weight (totalOf_joinedUnits nodup listed type day)

variable {units : List (DayKey × Nat)} {caps : List (String × Nat)} {did type : String}

/-- The groups of a user and a type, with the one cap of the type. -/
theorem filter_joinCaps (capKeys : (caps.map (·.1)).Nodup) {cap : Nat} (capped : (type, cap) ∈ caps) :
    (joinCaps units caps).filter (fun row => (row.1.1.did, row.1.1.type) = (did, type)) =
      (ofUser units did type).map fun group => (group, cap) := by
  induction units with
  | nil => rfl
  | cons group rest ih =>
      rw [joinCaps, List.flatMap_cons, List.filter_append]
      rw [joinCaps] at ih
      rw [ih, ofUser, ofUser, List.filter_cons, List.filter_map]
      by_cases own : group.1.did = did ∧ group.1.type = type
      · rcases own with ⟨sameDid, sameType⟩
        have one : caps.filter (fun other => other.1 = type) = [(type, cap)] :=
          filter_key_of_mem capKeys capped
        rw [sameType, one, if_pos (by simp [sameDid])]
        simp [sameDid, sameType]
      · have different : ¬(group.1.did, group.1.type) = (did, type) := fun same =>
          own (Prod.mk.inj same)
        have none_ : (caps.filter fun other => other.1 = group.1.type).filter
            ((fun row : (DayKey × Nat) × Nat => decide ((row.1.1.did, row.1.1.type) = (did, type))) ∘
              fun other => (group, other.2)) = [] :=
          List.filter_eq_nil_iff.mpr fun _ _ same => different (of_decide_eq_true same)
        rw [none_, if_neg (by simpa using own)]
        rfl

/-- What a user and a type are found with, if the type has a cap. -/
theorem mem_regularTotals (capKeys : (caps.map (·.1)).Nodup) {cap : Nat}
    (capped : (type, cap) ∈ caps) {found : ActivityUnitTotals} :
    ((did, type), found) ∈ regularTotals units caps ↔
      ofUser units did type ≠ [] ∧
        found = ⟨((ofUser units did type).map (·.2)).sum,
          ((ofUser units did type).map fun group => min group.2 cap).sum⟩ := by
  have rows := @filter_joinCaps units caps did type capKeys cap capped
  rw [regularTotals, List.mem_map]
  constructor
  · rintro ⟨key, listed, same⟩
    cases (Prod.mk.inj same).1
    rcases List.mem_map.mp (mem_distinctBy_id.mp listed) with ⟨row, among, keyed⟩
    constructor
    · intro none_
      rw [none_, List.map_nil] at rows
      exact List.filter_eq_nil_iff.mp rows row among (decide_eq_true keyed)
    · rw [← (Prod.mk.inj same).2, rows, List.map_map, List.map_map]
      rfl
  · rintro ⟨some_, rfl⟩
    rcases List.exists_mem_of_ne_nil _ some_ with ⟨group, own⟩
    have among : (group, cap) ∈ (joinCaps units caps).filter fun row =>
        (row.1.1.did, row.1.1.type) = (did, type) := by
      rw [rows]
      exact List.mem_map_of_mem own
    rcases List.mem_filter.mp among with ⟨among, keyed⟩
    refine ⟨(did, type), mem_distinctBy_id.mpr (List.mem_map.mpr
      ⟨(group, cap), among, of_decide_eq_true keyed⟩), ?_⟩
    simp only [rows, List.map_map]
    rfl

/-- Types without a cap are not among the totals. -/
theorem type_of_mem_regularTotals {row : (String × String) × ActivityUnitTotals}
    (listed : row ∈ regularTotals units caps) : row.1.2 ∈ caps.map (·.1) := by
  rcases List.mem_map.mp listed with ⟨key, keyed, rfl⟩
  rcases List.mem_map.mp (mem_distinctBy_id.mp keyed) with ⟨joined, among, rfl⟩
  rcases List.mem_flatMap.mp among with ⟨group, _, capped⟩
  rcases List.mem_map.mp capped with ⟨cap, kept, rfl⟩
  rcases List.mem_filter.mp kept with ⟨member, same⟩
  exact List.mem_map.mpr ⟨cap, member, of_decide_eq_true same⟩

theorem keys_regularTotals_nodup (units : List (DayKey × Nat)) (caps : List (String × Nat)) :
    ((regularTotals units caps).map (·.1)).Nodup := by
  rw [regularTotals, List.map_map]
  exact keys_distinctBy_nodup id _

/-- What a user is found with for the derived activity. -/
theorem mem_activeDayTotals {activeDay : ActiveDayConfig} {dailyCap : Nat}
    {row : (String × String) × ActivityUnitTotals} :
    row ∈ activeDayTotals units activeDay dailyCap ↔
      ∃ did ∈ (daysOf units activeDay.sourceTypes).map (·.1), row = ((did, activeDay.type),
        ⟨((daysOf units activeDay.sourceTypes).filter fun row => row.1 = did).length,
          min ((daysOf units activeDay.sourceTypes).filter fun row => row.1 = did).length
            dailyCap⟩) := by
  rw [activeDayTotals, List.mem_map]
  exact exists_congr fun did => and_congr mem_distinctBy_id eq_comm

theorem keys_activeDayTotals_nodup (units : List (DayKey × Nat)) (activeDay : ActiveDayConfig)
    (dailyCap : Nat) : ((activeDayTotals units activeDay dailyCap).map (·.1)).Nodup := by
  have nodup := keys_distinctBy_nodup id ((daysOf units activeDay.sourceTypes).map (·.1))
  rw [List.map_id] at nodup
  rw [activeDayTotals, List.map_map]
  exact nodup.map fun left right same => (Prod.mk.inj same).1

end Totals

/-! ## Days of a user -/

section Days

variable {activities : List CommunityActivityRecord} {cohort : List CommunityCohortRow}
  {member : CommunityCohortRow}

theorem mem_daysOf (counted : ∀ record ∈ activities, 0 < record.count)
    (nodup : (cohort.map (·.did)).Nodup) (listed : member ∈ cohort) (sourceTypes : List String)
    (day : Int) :
    (member.did, day) ∈ daysOf (dayUnits activities cohort) sourceTypes ↔
      day ∈ activeDays (unitsOf activities member.accountId) sourceTypes := by
  rw [daysOf, mem_distinctBy_id, List.mem_map, activeDays, Set.mem_ofPred_eq]
  constructor
  · rintro ⟨⟨key, total⟩, kept, same⟩
    rcases List.mem_filter.mp kept with ⟨grouped, source⟩
    rcases mem_groupTotals.mp grouped with ⟨keyed, _⟩
    rcases key with ⟨did, type, other⟩
    cases same
    exact ⟨type, of_decide_eq_true source,
      (mem_keys_joinedUnits_iff counted nodup listed type _).mp keyed⟩
  · rintro ⟨type, source, positive⟩
    have keyed := (mem_keys_joinedUnits_iff counted nodup listed type day).mpr positive
    exact ⟨(⟨member.did, type, day⟩, totalOf (joinedUnits activities cohort)
      ⟨member.did, type, day⟩), List.mem_filter.mpr ⟨mem_groupTotals.mpr ⟨keyed, rfl⟩,
        decide_eq_true source⟩, rfl⟩

/-- The days that are counted for a user who occurs once. -/
theorem length_daysOf (counted : ∀ record ∈ activities, 0 < record.count)
    (nodup : (cohort.map (·.did)).Nodup) (listed : member ∈ cohort) (sourceTypes : List String) :
    ((daysOf (dayUnits activities cohort) sourceTypes).filter fun row =>
        row.1 = member.did).length =
      (activeDays (unitsOf activities member.accountId) sourceTypes).ncard := by
  have rowsNodup : (daysOf (dayUnits activities cohort) sourceTypes).Nodup := by
    rw [daysOf, ← List.map_id (distinctBy id _)]
    exact keys_distinctBy_nodup id _
  have own := List.Nodup.filter (fun row : String × Int => decide (row.1 = member.did)) rowsNodup
  have daysNodup : (((daysOf (dayUnits activities cohort) sourceTypes).filter fun row =>
      row.1 = member.did).map (·.2)).Nodup := by
    refine List.Nodup.map_on ?_ own
    intro left leftMember right rightMember same
    have leftDid := of_decide_eq_true (List.mem_filter.mp leftMember).2
    have rightDid := of_decide_eq_true (List.mem_filter.mp rightMember).2
    exact Prod.ext (leftDid.trans rightDid.symm) same
  have days : activeDays (unitsOf activities member.accountId) sourceTypes =
      ((((daysOf (dayUnits activities cohort) sourceTypes).filter fun row =>
        row.1 = member.did).map (·.2)).toFinset : Set Int) := by
    ext day
    rw [← mem_daysOf counted nodup listed, Finset.mem_coe, List.mem_toFinset, List.mem_map]
    constructor
    · exact fun found => ⟨_, List.mem_filter.mpr ⟨found, decide_eq_true rfl⟩, rfl⟩
    · rintro ⟨row, kept, rfl⟩
      rcases List.mem_filter.mp kept with ⟨found, same⟩
      rw [← of_decide_eq_true same]
      exact found
  rw [days, Set.ncard_coe_finset, List.toFinset_card_of_nodup daysNodup, List.length_map]

end Days

/-! ## What is found for a user -/

/-- The activity is the derived one. -/
def derivedBy (activeDay : Option ActiveDayConfig) (type : String) : Option ActiveDayConfig :=
  activeDay.filter (·.type = type)

/-- All units of an activity: the sum over the days, or the number of active days. -/
noncomputable def totalUnits (activeDay : Option ActiveDayConfig) (units : String → Int → Nat)
    (type : String) : Nat :=
  match derivedBy activeDay type with
  | some activeDay => (activeDays units activeDay.sourceTypes).ncard
  | none => ∑ᶠ day, units type day

/-- The units that earn points: a cap holds for each day, or for the number of active days. -/
noncomputable def creditedUnits (activeDay : Option ActiveDayConfig)
    (units : String → Int → Nat) (type : String) (dailyCap : Nat) : Nat :=
  match derivedBy activeDay type with
  | some activeDay => min (activeDays units activeDay.sourceTypes).ncard dailyCap
  | none => ∑ᶠ day, min (units type day) dailyCap

section Aggregate

variable {activities : List CommunityActivityRecord} {cohort : List CommunityCohortRow}
  {member : CommunityCohortRow} {weights : OrderedMap String ActivityWeight}
  {activeDay : Option ActiveDayConfig}

theorem regularCaps_nodup (weights : OrderedMap String ActivityWeight)
    (activeDay : Option ActiveDayConfig) :
    ((regularCaps weights activeDay).map (·.1)).Nodup := by
  rw [regularCaps, List.map_map]
  exact (List.Nodup.filter _ weights.keys_nodup).map fun _ _ same => same

theorem derivedBy_eq_none_iff {type : String} :
    derivedBy activeDay type = none ↔ some type ≠ activeDay.map (·.type) := by
  cases activeDay with
  | none => simp [derivedBy]
  | some activeDay => simp [derivedBy, Option.filter_some, eq_comm]

theorem derivedBy_eq_some {type : String} {derived : ActiveDayConfig}
    (found : derivedBy activeDay type = some derived) :
    activeDay = some derived ∧ derived.type = type := by
  rcases Option.filter_eq_some_iff.mp found with ⟨same, named⟩
  exact ⟨same, of_decide_eq_true named⟩

theorem mem_regularCaps {type : String} {weight : ActivityWeight}
    (weighed : weights.get? type = some weight) (regular : derivedBy activeDay type = none) :
    (type, weight.dailyCap) ∈ regularCaps weights activeDay := by
  refine List.mem_map.mpr ⟨type, List.mem_filter.mpr ⟨?_, ?_⟩, by rw [weighed]; rfl⟩
  · exact (OrderedMap.mem_keys_iff_get? weights type).mpr ⟨weight, weighed⟩
  · exact decide_eq_true (derivedBy_eq_none_iff.mp regular)

theorem weight_of_mem_regularCaps {type : String}
    (capped : type ∈ (regularCaps weights activeDay).map (·.1)) :
    (∃ weight, weights.get? type = some weight) ∧ derivedBy activeDay type = none := by
  rw [regularCaps, List.map_map] at capped
  rcases List.mem_map.mp capped with ⟨other, kept, rfl⟩
  rcases List.mem_filter.mp kept with ⟨weighed, regular⟩
  exact ⟨(OrderedMap.mem_keys_iff_get? weights other).mp weighed,
    derivedBy_eq_none_iff.mpr (of_decide_eq_true regular)⟩

/-- Totals of the derived activity are of its type, which has a weight. -/
theorem mem_derivedTotals {units : List (DayKey × Nat)}
    {row : (String × String) × ActivityUnitTotals} :
    row ∈ derivedTotals units weights activeDay ↔
      ∃ derived weight, activeDay = some derived ∧ weights.get? derived.type = some weight ∧
        row ∈ activeDayTotals units derived weight.dailyCap := by
  cases activeDay with
  | none => simp [derivedTotals]
  | some derived =>
      cases weighed : weights.get? derived.type with
      | none => simp [derivedTotals, weighed]
      | some weight => simp [derivedTotals, weighed]

theorem type_of_mem_derivedTotals {units : List (DayKey × Nat)}
    {row : (String × String) × ActivityUnitTotals}
    (listed : row ∈ derivedTotals units weights activeDay) :
    ∃ derived weight, derivedBy activeDay row.1.2 = some derived ∧ derived.type = row.1.2 ∧
      weights.get? row.1.2 = some weight ∧
        row ∈ activeDayTotals units derived weight.dailyCap := by
  rcases mem_derivedTotals.mp listed with ⟨derived, weight, rfl, weighed, found⟩
  rcases mem_activeDayTotals.mp found with ⟨did, _, same⟩
  have named : derived.type = row.1.2 := by rw [same]
  rw [← named]
  exact ⟨derived, weight, by simp [derivedBy, Option.filter_some], rfl, weighed, found⟩

theorem keys_totals_nodup (units : List (DayKey × Nat)) :
    ((regularTotals units (regularCaps weights activeDay) ++
      derivedTotals units weights activeDay).map (·.1)).Nodup := by
  rw [List.map_append]
  refine (keys_regularTotals_nodup _ _).append ?_ ?_
  · cases activeDay with
    | none => exact List.nodup_nil
    | some derived =>
        cases weighed : weights.get? derived.type with
        | none => simp [derivedTotals, weighed]
        | some weight =>
            simp only [derivedTotals, weighed]
            exact keys_activeDayTotals_nodup _ _ _
  · intro key regular derived
    rcases List.mem_map.mp regular with ⟨row, among, rfl⟩
    rcases List.mem_map.mp derived with ⟨other, derived, same⟩
    rcases type_of_mem_derivedTotals derived with ⟨_, _, named, _⟩
    have none_ := (weight_of_mem_regularCaps (type_of_mem_regularTotals among)).2
    rw [← same, named] at none_
    cases none_

theorem get?_aggregate_iff {key : String × String} {found : ActivityUnitTotals} :
    (aggregateCommunityActivity activities cohort weights activeDay).get? key = some found ↔
      (key, found) ∈ regularTotals (dayUnits activities cohort)
          (regularCaps weights activeDay) ∨
        (key, found) ∈ derivedTotals (dayUnits activities cohort) weights activeDay := by
  have nodup := ((RowOrder.perm_orderBy (RowOrder.byKey fun row : (String × String) ×
    ActivityUnitTotals => toLex row.1) _).map (·.1)).nodup_iff.mpr
      (@keys_totals_nodup weights activeDay (dayUnits activities cohort))
  rw [aggregateCommunityActivity, ← List.mem_append]
  constructor
  · exact fun got => (RowOrder.mem_orderBy _).mp (OrderedMap.mem_of_get?_ofPairs got)
  · exact fun listed => OrderedMap.get?_ofPairs_of_nodup nodup ((RowOrder.mem_orderBy _).mpr listed)

/-- Nothing is found for an activity without a weight. -/
theorem get?_aggregate_unweighed {did type : String} (unweighed : weights.get? type = none) :
    (aggregateCommunityActivity activities cohort weights activeDay).get? (did, type) = none := by
  refine Option.eq_none_iff_forall_ne_some.mpr fun found got => ?_
  rcases get?_aggregate_iff.mp got with regular | derived
  · rcases (weight_of_mem_regularCaps (type_of_mem_regularTotals regular)).1 with ⟨_, weighed⟩
    rw [unweighed] at weighed
    cases weighed
  · rcases type_of_mem_derivedTotals derived with ⟨_, _, _, _, weighed, _⟩
    rw [unweighed] at weighed
    cases weighed

/-- An activity that is not derived is found by its groups. -/
theorem get?_aggregate_regular {did type : String} {weight : ActivityWeight}
    (weighed : weights.get? type = some weight) (regular : derivedBy activeDay type = none) :
    ((aggregateCommunityActivity activities cohort weights activeDay).get? (did, type)).getD
        ⟨0, 0⟩ =
      ⟨((ofUser (dayUnits activities cohort) did type).map (·.2)).sum,
        ((ofUser (dayUnits activities cohort) did type).map fun group =>
          min group.2 weight.dailyCap).sum⟩ := by
  have capped := mem_regularCaps weighed regular
  cases got : (aggregateCommunityActivity activities cohort weights activeDay).get? (did, type) with
  | some found =>
      rcases get?_aggregate_iff.mp got with listed | derived
      · exact ((mem_regularTotals (regularCaps_nodup weights activeDay) capped).mp listed).2
      · rcases type_of_mem_derivedTotals derived with ⟨_, _, named, _⟩
        rw [regular] at named
        cases named
  | none =>
      have empty : ofUser (dayUnits activities cohort) did type = [] := by
        by_contra some_
        have listed := (mem_regularTotals (regularCaps_nodup weights activeDay) capped).mpr
          ⟨some_, rfl⟩
        rw [get?_aggregate_iff.mpr (.inl listed)] at got
        cases got
      rw [empty]
      rfl

/-- The derived activity is found by its days. -/
theorem get?_aggregate_derived {did type : String} {weight : ActivityWeight}
    {derived : ActiveDayConfig} (weighed : weights.get? type = some weight)
    (named : derivedBy activeDay type = some derived) :
    ((aggregateCommunityActivity activities cohort weights activeDay).get? (did, type)).getD
        ⟨0, 0⟩ =
      ⟨((daysOf (dayUnits activities cohort) derived.sourceTypes).filter fun row =>
          row.1 = did).length,
        min ((daysOf (dayUnits activities cohort) derived.sourceTypes).filter fun row =>
          row.1 = did).length weight.dailyCap⟩ := by
  rcases derivedBy_eq_some named with ⟨active, rfl⟩
  cases got : (aggregateCommunityActivity activities cohort weights activeDay).get?
    (did, derived.type) with
  | some found =>
      rcases get?_aggregate_iff.mp got with listed | listed
      · have none_ := (weight_of_mem_regularCaps (type_of_mem_regularTotals listed)).2
        rw [named] at none_
        cases none_
      · rcases mem_derivedTotals.mp listed with ⟨other, own, same, ownWeighed, among⟩
        cases active.symm.trans same
        cases weighed.symm.trans ownWeighed
        rcases mem_activeDayTotals.mp among with ⟨_, _, equal⟩
        rcases Prod.mk.inj equal with ⟨key, rfl⟩
        rw [(Prod.mk.inj key).1]
        rfl
  | none =>
      have empty : (daysOf (dayUnits activities cohort) derived.sourceTypes).filter
          (fun row => row.1 = did) = [] := by
        refine List.filter_eq_nil_iff.mpr fun row among same => ?_
        have found : did ∈ (daysOf (dayUnits activities cohort) derived.sourceTypes).map (·.1) :=
          List.mem_map.mpr ⟨row, among, of_decide_eq_true same⟩
        have listed := @mem_activeDayTotals (dayUnits activities cohort) derived weight.dailyCap _
          |>.mpr ⟨did, found, rfl⟩
        rw [get?_aggregate_iff.mpr (.inr (mem_derivedTotals.mpr
          ⟨derived, weight, active, weighed, listed⟩))] at got
        cases got
      rw [empty, List.length_nil, Nat.zero_min]
      rfl

/-- What is found for a user who occurs once. -/
theorem getD_aggregate (counted : ∀ record ∈ activities, 0 < record.count)
    (nodup : (cohort.map (·.did)).Nodup) (listed : member ∈ cohort) {type : String}
    {weight : ActivityWeight} (weighed : weights.get? type = some weight) :
    ((aggregateCommunityActivity activities cohort weights activeDay).get?
        (member.did, type)).getD ⟨0, 0⟩ =
      ⟨totalUnits activeDay (unitsOf activities member.accountId) type,
        creditedUnits activeDay (unitsOf activities member.accountId) type weight.dailyCap⟩ := by
  rw [totalUnits, creditedUnits]
  cases derived : derivedBy activeDay type with
  | none =>
      have all := @sum_ofUser activities cohort member nodup listed type id rfl
      have capped := @sum_ofUser activities cohort member nodup listed type
        (min · weight.dailyCap) (Nat.zero_min _)
      rw [get?_aggregate_regular weighed derived, capped]
      exact congrArg (ActivityUnitTotals.mk · _) all
  | some activeDay =>
      rw [get?_aggregate_derived weighed derived, length_daysOf counted nodup listed]

end Aggregate

end Reputo.CommunityEngagement
