import Mathlib.Data.Rat.Floor
import Reputo.Community.Freeze
import Reputo.Library.Grouping
import Reputo.Library.OrderedMap
import Reputo.Orchestrator.Presets

/-!
# Engagement in a community

The cohort of consented users, the frozen activities summed by user, activity and day, and the
weights that turn capped sums into scores.
-/

namespace Reputo.CommunityEngagement

open Reputo.Library Reputo.Community Reputo.Orchestrator

/-! ## Configuration -/

structure ActivityWeight where
  points : ℚ
  dailyCap : Nat
  deriving DecidableEq, Repr

/-- An activity that is derived once for each day with some activity of the source types. -/
structure ActiveDayConfig where
  type : String
  sourceTypes : List String
  deriving DecidableEq, Repr

/-- Scoreable activities are listed once, in the order weights are applied in. -/
structure CommunityEngagementConfig where
  platform : String
  algorithmKey : String
  activityTypes : List String
  activeDay : Option ActiveDayConfig
  activityTypes_nodup : activityTypes.Nodup

def computeDiscordEngagement : CommunityEngagementConfig where
  platform := "discord"
  algorithmKey := "discord_engagement"
  activityTypes :=
    ["message", "reply", "reaction_received", "reply_received", "mention_received", "active_day"]
  activeDay := some ⟨"active_day", ["message", "reply"]⟩
  activityTypes_nodup := by decide

def computeGithubEngagement : CommunityEngagementConfig where
  platform := "github"
  algorithmKey := "github_engagement"
  activityTypes :=
    ["pull_request_opened", "pull_request_merged", "pull_request_review", "issue_opened", "comment"]
  activeDay := none
  activityTypes_nodup := by decide

def computeMattermostEngagement : CommunityEngagementConfig where
  platform := "mattermost"
  algorithmKey := "mattermost_engagement"
  activityTypes := ["message", "reply", "reaction_received", "reply_received", "active_day"]
  activeDay := some ⟨"active_day", ["message", "reply"]⟩
  activityTypes_nodup := by decide

/-! ## Weights -/

inductive ActivityWeightsError where
  | missing
  | notAnObject
  | unknownActivity (activity : Option (Json ℚ))
  | repeated (activity : String)
  | points (activity : String) (points : Option (Json ℚ))
  | dailyCap (activity : String) (dailyCap : Option (Json ℚ))

/-- `typeof value === 'object'`, but not `null`. -/
def isObject : Json ℚ → Bool
  | .obj _ => true
  | .arr _ => true
  | .null => false
  | .bool _ => false
  | .num _ => false
  | .str _ => false

/-- Points above zero. -/
def readPoints (activity : String) (points : Option (Json ℚ)) : Except ActivityWeightsError ℚ :=
  match points.bind (·.asNumber) with
  | none => .error (.points activity points)
  | some value => if value ≤ 0 then .error (.points activity points) else .ok value

/-- A whole number from one. -/
def readDailyCap (activity : String) (dailyCap : Option (Json ℚ)) :
    Except ActivityWeightsError Nat :=
  match dailyCap.bind (·.asNumber) with
  | none => .error (.dailyCap activity dailyCap)
  | some value =>
      if value.den ≠ 1 ∨ value < 1 then .error (.dailyCap activity dailyCap)
      else .ok value.num.toNat

/-- One row of the weights, next to those before it. -/
def extractRow (activityTypes : List String) (byType : OrderedMap String ActivityWeight)
    (row : Json ℚ) : Except ActivityWeightsError (OrderedMap String ActivityWeight) :=
  if !isObject row then .error .notAnObject
  else
    match (row.field "activity").bind (·.asString) with
    | none => .error (.unknownActivity (row.field "activity"))
    | some activity =>
        if activity ∉ activityTypes then .error (.unknownActivity (row.field "activity"))
        else if (byType.get? activity).isSome then .error (.repeated activity)
        else do
          let points ← readPoints activity (row.field "points")
          let dailyCap ← readDailyCap activity (row.field "daily_cap")
          return byType.set activity ⟨points, dailyCap⟩

/-- The weights of a preset, in the order of the activities. -/
def extractActivityWeights (inputs : List (PresetInput ℚ)) (activityTypes : List String) :
    Except ActivityWeightsError (OrderedMap String ActivityWeight) :=
  match (findValue inputs "activities").bind (·.asArray) with
  | none => .error .missing
  | some [] => .error .missing
  | some (first :: rest) => do
      let byType ← (first :: rest).foldlM (extractRow activityTypes) .empty
      return .ofPairs (activityTypes.filterMap fun type =>
        (byType.get? type).map fun weight => (type, weight))

/-! ## The cohort -/

/-- What a user consented to, and the name that is linked on the platform; `none` is a linked
identity of the wrong shape. -/
structure DeepIdUser where
  scopes : Option (List String)
  identity : Option (Option String)
  deriving DecidableEq, Repr

/-- Users by their identifiers. -/
abbrev UsersPage := OrderedMap String DeepIdUser

def hasScope (user : DeepIdUser) (scope : String) : Bool :=
  user.scopes.any fun scopes => scope ∈ scopes

/-- How a platform looks up names: all at once, or one at a time. -/
inductive MemberLookup where
  | searchMemberIds (lookup : List String → OrderedMap String (Option String))
  | searchMemberId (lookup : String → Option String)

structure BuildCommunityCohortInput where
  platform : String
  adapter : MemberLookup
  localeCompare : RowOrder String

/-- `invalid social identity in DeepID user`. -/
inductive CohortError where
  | invalidSocialIdentity
  deriving DecidableEq, Repr

section Cohort

variable (input : BuildCommunityCohortInput)

/-- The users of the pages in turn who consented to the platform. -/
def consentedUsers (pages : List UsersPage) : List (String × DeepIdUser) :=
  (pages.flatMap (·.entries)).filter fun entry => hasScope entry.2 input.platform

def parseSocialIdentity (entry : String × DeepIdUser) :
    Except CohortError (String × Option String) :=
  match entry.2.identity with
  | none => .error .invalidSocialIdentity
  | some username => .ok (entry.1, username)

def resolveAccountIds (consented : List (String × Option String)) :
    OrderedMap String (Option String) :=
  let usernames := distinctBy id (consented.filterMap (·.2))
  match input.adapter with
  | .searchMemberIds lookup => lookup usernames
  | .searchMemberId lookup => .ofPairs (usernames.map fun username => (username, lookup username))

def cohortRow (accountIdByUsername : OrderedMap String (Option String))
    (entry : String × Option String) : CommunityCohortRow :=
  let accountId := entry.2.bind fun username => (accountIdByUsername.get? username).join
  ⟨entry.1, entry.2, accountId, if accountId = none then .unmatched else .matched⟩

def buildCommunityCohort (pages : List UsersPage) :
    Except CohortError (List CommunityCohortRow) := do
  let consented ← (consentedUsers input pages).mapM parseSocialIdentity
  let sorted := (input.localeCompare.comap Prod.fst).orderBy consented
  return sorted.map (cohortRow (resolveAccountIds input sorted))

end Cohort

/-! ## Aggregation -/

def DAY_MS : Int := 86400000

/-- `CAST(occurred_at AS DATE)`. -/
def dayOf (record : CommunityActivityRecord) : Int := record.occurredAt / DAY_MS

structure DayKey where
  did : String
  type : String
  day : Int
  deriving DecidableEq, Repr

/-- An activity, joined with the cohort by the account. -/
def joined (cohort : List CommunityCohortRow) (record : CommunityActivityRecord) :
    List (DayKey × Nat) :=
  (cohort.filter fun member => member.accountId = some record.actor).map fun member =>
    (⟨member.did, record.type, dayOf record⟩, record.count)

/-- The activities that are not of bots, joined with the cohort. -/
def joinedUnits (activities : List CommunityActivityRecord) (cohort : List CommunityCohortRow) :
    List (DayKey × Nat) :=
  (activities.filter fun record => !record.actorIsBot).flatMap (joined cohort)

/-- `day_units`. -/
def dayUnits (activities : List CommunityActivityRecord) (cohort : List CommunityCohortRow) :
    List (DayKey × Nat) :=
  groupTotals (joinedUnits activities cohort)

structure ActivityUnitTotals where
  units : Nat
  cappedUnits : Nat
  deriving DecidableEq, Repr

/-- Units with the caps of their types. -/
def joinCaps (units : List (DayKey × Nat)) (caps : List (String × Nat)) :
    List ((DayKey × Nat) × Nat) :=
  units.flatMap fun group =>
    (caps.filter fun cap => cap.1 = group.1.type).map fun cap => (group, cap.2)

/-- Units with a cap for each day, grouped by user and type. -/
def regularTotals (units : List (DayKey × Nat)) (caps : List (String × Nat)) :
    List ((String × String) × ActivityUnitTotals) :=
  let capped := joinCaps units caps
  (distinctBy id (capped.map fun row => (row.1.1.did, row.1.1.type))).map fun key =>
    let rows := capped.filter fun row => (row.1.1.did, row.1.1.type) = key
    (key, ⟨(rows.map (·.1.2)).sum, (rows.map fun row => min row.1.2 row.2).sum⟩)

/-- The days of users with some activity of the source types. -/
def daysOf (units : List (DayKey × Nat)) (sourceTypes : List String) : List (String × Int) :=
  distinctBy id ((units.filter fun group => group.1.type ∈ sourceTypes).map
    fun group => (group.1.did, group.1.day))

/-- Such days grouped by user, with a cap on their number. -/
def activeDayTotals (units : List (DayKey × Nat)) (activeDay : ActiveDayConfig) (dailyCap : Nat) :
    List ((String × String) × ActivityUnitTotals) :=
  let days := daysOf units activeDay.sourceTypes
  (distinctBy id (days.map (·.1))).map fun did =>
    let count := (days.filter fun row => row.1 = did).length
    ((did, activeDay.type), ⟨count, min count dailyCap⟩)

/-- The caps of the activities that are not derived. -/
def regularCaps (weights : OrderedMap String ActivityWeight) (activeDay : Option ActiveDayConfig) :
    List (String × Nat) :=
  (weights.keys.filter fun type => some type ≠ activeDay.map (·.type)).map fun type =>
    (type, ((weights.get? type).map (·.dailyCap)).getD 0)

/-- The totals of the derived activity, if it has a weight. -/
def derivedTotals (units : List (DayKey × Nat)) (weights : OrderedMap String ActivityWeight)
    (activeDay : Option ActiveDayConfig) : List ((String × String) × ActivityUnitTotals) :=
  match activeDay with
  | none => []
  | some activeDay =>
      match weights.get? activeDay.type with
      | none => []
      | some weight => activeDayTotals units activeDay weight.dailyCap

/-- Integer unit totals of a user and an activity, with the caps applied. -/
def aggregateCommunityActivity (activities : List CommunityActivityRecord)
    (cohort : List CommunityCohortRow) (weights : OrderedMap String ActivityWeight)
    (activeDay : Option ActiveDayConfig) : OrderedMap (String × String) ActivityUnitTotals :=
  let units := dayUnits activities cohort
  .ofPairs ((RowOrder.byKey fun row : (String × String) × ActivityUnitTotals =>
    toLex row.1).orderBy (regularTotals units (regularCaps weights activeDay) ++
      derivedTotals units weights activeDay))

/-! ## Scores -/

def POINTS_PRECISION : ℚ := 10 ^ 6

/-- `Math.round(value * POINTS_PRECISION) / POINTS_PRECISION`. -/
def roundPoints (value : ℚ) : ℚ := ⌊value * POINTS_PRECISION + 1 / 2⌋ / POINTS_PRECISION

/-- A row of the file: the points of each activity, and the score under the algorithm's key. -/
structure CsvRecord where
  did : String
  points : List (String × ℚ)
  score : ℚ
  deriving DecidableEq, Repr

structure ActivityDetails where
  units : Nat
  cappedUnits : Nat
  points : ℚ
  deriving DecidableEq, Repr

structure CommunityEngagementUserDetails where
  did : String
  status : CohortStatus
  username : Option String
  accountId : Option String
  score : ℚ
  activities : List (String × ActivityDetails)
  deriving DecidableEq, Repr

structure CohortCounts where
  consented : Nat
  matched : Nat
  unmatched : Nat
  active : Nat
  inactive : Nat
  deriving DecidableEq, Repr

structure CommunityEngagementOutput where
  csvRecords : List CsvRecord
  users : List CommunityEngagementUserDetails
  cohort : CohortCounts
  activities : List (String × ActivityWeight)
  deriving DecidableEq, Repr

section Compute

variable (config : CommunityEngagementConfig) (weights : OrderedMap String ActivityWeight)
  (totals : OrderedMap (String × String) ActivityUnitTotals)

/-- What an activity of a user comes to. -/
def activityDetails (did type : String) : ActivityDetails :=
  let unit := totals.get? (did, type)
  let points := match weights.get? type, unit with
    | some weight, some unit => roundPoints (unit.cappedUnits * weight.points)
    | some _, none => 0
    | none, _ => 0
  ⟨(unit.map (·.units)).getD 0, (unit.map (·.cappedUnits)).getD 0, points⟩

def memberDetails (member : CommunityCohortRow) : CommunityEngagementUserDetails :=
  let activities := config.activityTypes.map fun type =>
    (type, activityDetails weights totals member.did type)
  { did := member.did
    status := member.status
    username := member.username
    accountId := member.accountId
    score := roundPoints ((activities.map (·.2.points)).sum)
    activities }

def csvRecord (user : CommunityEngagementUserDetails) : CsvRecord :=
  ⟨user.did, user.activities.map fun activity => (activity.1, activity.2.points), user.score⟩

/-- Members with any units. -/
def isActive (user : CommunityEngagementUserDetails) : Bool :=
  0 < (user.activities.map (·.2.units)).sum

/-- The files of the scores of a cohort. -/
def engagementOutput (cohort : List CommunityCohortRow) : CommunityEngagementOutput :=
  let users := cohort.map (memberDetails config weights totals)
  let active := users.countP isActive
  { csvRecords := users.map csvRecord
    users
    cohort :=
      { consented := cohort.length
        matched := cohort.countP (·.status = .matched)
        unmatched := cohort.countP (·.status ≠ .matched)
        active
        inactive := cohort.length - active }
    activities := weights.entries }

end Compute

/-- The scores from a frozen dataset and the weights of a preset. -/
def computeCommunityEngagement (config : CommunityEngagementConfig)
    (inputs : List (PresetInput ℚ)) (activities : List CommunityActivityRecord)
    (cohortTable : List CommunityCohortRow) :
    Except ActivityWeightsError CommunityEngagementOutput := do
  let weights ← extractActivityWeights inputs config.activityTypes
  let totals := aggregateCommunityActivity activities cohortTable weights config.activeDay
  return engagementOutput config weights totals (cohortOrder.orderBy cohortTable)

end Reputo.CommunityEngagement
