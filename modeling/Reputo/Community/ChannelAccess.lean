import Reputo.Library.Bits
import Reputo.Library.JsText
import Reputo.Library.OrderedMap

/-!
# Access to a channel

What a bot may do in a channel follows from the roles it holds and from the overwrites of the
channel.  The code applies masks layer by layer; the rule asks, for one permission, which layer
mentions it first.
-/

namespace Reputo.Community

open Reputo.Library

/-! ## What the platform answers -/

/-- A value that should be a text, if it is one. -/
abbrev RawText := Option String

structure DiscordRawRole where
  id : RawText
  permissions : RawText
  deriving DecidableEq, Repr

/-- The roles of a member, if they are a list. -/
structure DiscordRawGuildMember where
  roles : Option (List RawText)
  deriving DecidableEq, Repr

structure DiscordRawPermissionOverwrite where
  id : RawText
  type : Option Int
  allow : RawText
  deny : RawText
  deriving DecidableEq, Repr

/-- The overwrites of a channel: none, something else than a list, or a list. -/
inductive RawOverwrites where
  | absent
  | malformed
  | entries (raw : List DiscordRawPermissionOverwrite)
  deriving DecidableEq, Repr

namespace DiscordPermission

def administrator : Nat := 1 <<< 3
def viewChannel : Nat := 1 <<< 10
def readMessageHistory : Nat := 1 <<< 16

end DiscordPermission

namespace DiscordOverwriteType

def role : Int := 0
def member : Int := 1

end DiscordOverwriteType

/-- Digits only. -/
def permissionBits (value : RawText) (field : String) : Except String Nat :=
  match value.bind fun text => JsText.digitsValue 10 text.toList with
  | none => .error s!"Discord returned a malformed {field} permission value."
  | some bits => .ok bits

/-! ## The context -/

/-- The roles of the bot, and the permissions of every role of the guild; the role of everyone has
the id of the guild. -/
structure DiscordPermissionContext where
  guildId : String
  botUserId : String
  botRoleIds : List String
  permissionsByRoleId : OrderedMap String Nat
  botUserId_ne : botUserId ≠ ""
  everyone_known : (permissionsByRoleId.get? guildId).isSome
  roles_known : ∀ roleId ∈ botRoleIds, (permissionsByRoleId.get? roleId).isSome

def addRole (permissionsByRoleId : OrderedMap String Nat) (role : DiscordRawRole) :
    Except String (OrderedMap String Nat) :=
  match role.id.filter (· ≠ "") with
  | none => .error "Discord returned a guild role without an id."
  | some id => (permissionBits role.permissions "role").map (permissionsByRoleId.set id)

def toDiscordPermissionContext (guildId botUserId : String) (member : DiscordRawGuildMember)
    (roles : Option (List DiscordRawRole)) : Except String DiscordPermissionContext :=
  if named : botUserId = "" then
    .error "Discord returned no bot user id for the permission check."
  else match member.roles.bind fun roleIds => roleIds.mapM id with
    | none => .error "Discord returned malformed bot role ids for the permission check."
    | some botRoleIds => match roles with
        | none => .error "Discord returned a malformed guild role listing."
        | some roles => match roles.foldlM addRole .empty with
            | .error error => .error error
            | .ok permissionsByRoleId =>
                if everyone : (permissionsByRoleId.get? guildId).isSome then
                  if known : ∀ roleId ∈ botRoleIds,
                      (permissionsByRoleId.get? roleId).isSome then
                    .ok ⟨guildId, botUserId, botRoleIds, permissionsByRoleId, named, everyone,
                      known⟩
                  else .error "Discord omitted one of the bot roles from the permission check."
                else .error "Discord returned no @everyone role for the permission check."

/-! ## The verdict -/

structure DiscordOverwrite where
  id : String
  type : Int
  allow : Nat
  deny : Nat
  deriving DecidableEq, Repr

def parseOverwrite (overwrite : DiscordRawPermissionOverwrite) : Except String DiscordOverwrite :=
  match overwrite.id, overwrite.type with
  | some id, some type => do
      let allow ← permissionBits overwrite.allow "allow"
      let deny ← permissionBits overwrite.deny "deny"
      return ⟨id, type, allow, deny⟩
  | some _, none => .error "Discord returned a malformed channel permission overwrite."
  | none, _ => .error "Discord returned a malformed channel permission overwrite."

def parseOverwrites : RawOverwrites → Except String (List DiscordOverwrite)
  | .absent => .ok []
  | .malformed => .error "Discord returned malformed channel permission overwrites."
  | .entries raw => raw.mapM parseOverwrite

/-- The bot's access to one channel, with what it lacks. -/
inductive DiscordChannelAccess where
  | readable
  | missingViewChannel
  | missingReadHistory
  deriving DecidableEq, Repr

/-- `(permissions & ~deny) | allow`. -/
def applyMasks (permissions allow deny : Nat) : Nat := permissions.ldiff deny ||| allow

def applyOverwrite (permissions : Nat) : Option DiscordOverwrite → Nat
  | none => permissions
  | some overwrite => applyMasks permissions overwrite.allow overwrite.deny

section Resolve

variable (context : DiscordPermissionContext)

/-- What the roles of the bot allow without overwrites. -/
def basePermissions : Nat :=
  context.botRoleIds.foldl
    (fun permissions roleId => permissions ||| (context.permissionsByRoleId.get? roleId).getD 0)
    ((context.permissionsByRoleId.get? context.guildId).getD 0)

def isEveryone (overwrite : DiscordOverwrite) : Bool :=
  overwrite.type = DiscordOverwriteType.role && overwrite.id = context.guildId

def isHeldRole (overwrite : DiscordOverwrite) : Bool :=
  overwrite.type = DiscordOverwriteType.role && overwrite.id ∈ context.botRoleIds

def isBotMember (overwrite : DiscordOverwrite) : Bool :=
  overwrite.type = DiscordOverwriteType.member && overwrite.id = context.botUserId

/-- The permissions under the overwrites of a channel. -/
def overwrittenPermissions (overwrites : List DiscordOverwrite) : Nat :=
  let permissions := applyOverwrite (basePermissions context)
    (overwrites.find? (isEveryone context))
  let roles := overwrites.filter (isHeldRole context)
  let roleAllow := roles.foldl (fun roleAllow overwrite => roleAllow ||| overwrite.allow) 0
  let roleDeny := roles.foldl (fun roleDeny overwrite => roleDeny ||| overwrite.deny) 0
  applyOverwrite (applyMasks permissions roleAllow roleDeny)
    (overwrites.find? (isBotMember context))

def resolveDiscordChannelAccess (permission_overwrites : RawOverwrites) :
    Except String DiscordChannelAccess :=
  if basePermissions context &&& DiscordPermission.administrator ≠ 0 then .ok .readable
  else do
    let overwrites ← parseOverwrites permission_overwrites
    let permissions := overwrittenPermissions context overwrites
    if permissions &&& DiscordPermission.viewChannel = 0 then return .missingViewChannel
    else if permissions &&& DiscordPermission.readMessageHistory = 0 then
      return .missingReadHistory
    else return .readable

end Resolve

/-! ## The rule -/

/-- What the first of some layers says that mentions something: each has what it mentions and
whether it grants it. -/
def FirstMention (otherwise : Prop) : List (Prop × Bool) → Prop
  | [] => otherwise
  | (mentions, grants) :: rest =>
      (mentions ∧ grants = true) ∨ (¬mentions ∧ FirstMention otherwise rest)

section Rule

variable (context : DiscordPermissionContext)

/-- Some role of the bot has the permission; everyone has the role of everyone. -/
def InBase (bit : Nat) : Prop :=
  ∃ roleId ∈ context.guildId :: context.botRoleIds,
    ∃ permissions, context.permissionsByRoleId.get? roleId = some permissions ∧
      permissions.testBit bit = true

/-- Some overwrite of a kind allows, or denies. -/
def Mentions (overwrites : List DiscordOverwrite) (ofKind : DiscordOverwrite → Bool)
    (mask : DiscordOverwrite → Nat) (bit : Nat) : Prop :=
  ∃ overwrite ∈ overwrites, ofKind overwrite = true ∧ (mask overwrite).testBit bit = true

/-- The bot itself first, then its roles, then everyone; allows before denies. -/
def layers (overwrites : List DiscordOverwrite) (bit : Nat) : List (Prop × Bool) :=
  [(Mentions overwrites (isBotMember context) (·.allow) bit, true),
    (Mentions overwrites (isBotMember context) (·.deny) bit, false),
    (Mentions overwrites (isHeldRole context) (·.allow) bit, true),
    (Mentions overwrites (isHeldRole context) (·.deny) bit, false),
    (Mentions overwrites (isEveryone context) (·.allow) bit, true),
    (Mentions overwrites (isEveryone context) (·.deny) bit, false)]

def Granted (overwrites : List DiscordOverwrite) (bit : Nat) : Prop :=
  FirstMention (InBase context bit) (layers context overwrites bit)

/-- Overwrites of the bot, of a role it holds, or of everyone. -/
def isRelevant (overwrite : DiscordOverwrite) : Bool :=
  isBotMember context overwrite || isHeldRole context overwrite || isEveryone context overwrite

end Rule

/-- The same guild and bot with the same roles and permissions, in any order. -/
structure SameContext (one other : DiscordPermissionContext) : Prop where
  guildId : one.guildId = other.guildId
  botUserId : one.botUserId = other.botUserId
  botRoleIds : one.botRoleIds.Perm other.botRoleIds
  permissions : ∀ roleId,
    one.permissionsByRoleId.get? roleId = other.permissionsByRoleId.get? roleId

/-- Bits of the permissions that are asked for. -/
def ADMINISTRATOR_BIT : Nat := 3
def VIEW_CHANNEL_BIT : Nat := 10
def READ_HISTORY_BIT : Nat := 16

/-- The verdict is what the rule says, in whatever order roles and overwrites come and whatever
other overwrites there are. -/
structure FollowsRule (context : DiscordPermissionContext) (raw : RawOverwrites)
    (overwrites : List DiscordOverwrite) : Prop where
  readable : resolveDiscordChannelAccess context raw = .ok .readable ↔
    InBase context ADMINISTRATOR_BIT ∨
      (Granted context overwrites VIEW_CHANNEL_BIT ∧ Granted context overwrites READ_HISTORY_BIT)
  missingView : resolveDiscordChannelAccess context raw = .ok .missingViewChannel ↔
    ¬InBase context ADMINISTRATOR_BIT ∧ ¬Granted context overwrites VIEW_CHANNEL_BIT
  missingHistory : resolveDiscordChannelAccess context raw = .ok .missingReadHistory ↔
    ¬InBase context ADMINISTRATOR_BIT ∧ Granted context overwrites VIEW_CHANNEL_BIT ∧
      ¬Granted context overwrites READ_HISTORY_BIT
  unchanged : ∀ other raw' others, SameContext other context →
    parseOverwrites raw' = .ok others →
      (others.filter (isRelevant context)).Perm (overwrites.filter (isRelevant context)) →
        resolveDiscordChannelAccess other raw' = resolveDiscordChannelAccess context raw

/-! ## What the layers leave -/

theorem testBit_applyMasks (permissions allow deny bit : Nat) :
    (applyMasks permissions allow deny).testBit bit = true ↔
      allow.testBit bit = true ∨ (deny.testBit bit = false ∧ permissions.testBit bit = true) := by
  rw [applyMasks, Nat.testBit_or, Nat.testBit_ldiff]
  cases permissions.testBit bit <;> cases allow.testBit bit <;> cases deny.testBit bit <;> simp

/-- A layer that allows before it denies. -/
theorem firstMention_layer (allows denies otherwise : Prop) :
    FirstMention otherwise [(allows, true), (denies, false)] ↔
      allows ∨ (¬denies ∧ otherwise) := by
  simp only [FirstMention, and_true, Bool.false_eq_true, and_false, false_or]
  constructor
  · rintro (allowed | ⟨_, rest⟩)
    · exact .inl allowed
    · exact .inr rest
  · intro granted
    by_cases allowed : allows
    · exact .inl allowed
    · exact .inr ⟨allowed, granted.resolve_left allowed⟩

theorem firstMention_append (otherwise : Prop) (first rest : List (Prop × Bool)) :
    FirstMention otherwise (first ++ rest) ↔ FirstMention (FirstMention otherwise rest) first := by
  induction first with
  | nil => rfl
  | cons layer first ih =>
      rcases layer with ⟨mentions, grants⟩
      rw [List.cons_append, FirstMention, FirstMention, ih]

theorem firstMention_congr {one other : Prop} (same : one ↔ other)
    (mentioned : List (Prop × Bool)) :
    FirstMention one mentioned ↔ FirstMention other mentioned := by
  induction mentioned with
  | nil => exact same
  | cons layer mentioned ih =>
      rcases layer with ⟨mentions, grants⟩
      rw [FirstMention, FirstMention, ih]

section Layers

variable (context : DiscordPermissionContext)

theorem testBit_basePermissions (bit : Nat) :
    (basePermissions context).testBit bit = true ↔ InBase context bit := by
  have held : ∀ roleId : String,
      ((context.permissionsByRoleId.get? roleId).getD 0).testBit bit = true ↔
        ∃ permissions, context.permissionsByRoleId.get? roleId = some permissions ∧
          permissions.testBit bit = true := by
    intro roleId
    cases known : context.permissionsByRoleId.get? roleId with
    | none => simp
    | some permissions => simp
  rw [basePermissions, Bits.testBit_foldl_or, held]
  simp only [held, InBase, List.mem_cons, exists_eq_or_imp]

/-- One overwrite at most of a kind. -/
def Single (overwrites : List DiscordOverwrite) (ofKind : DiscordOverwrite → Bool) : Prop :=
  ∀ one ∈ overwrites, ∀ other ∈ overwrites, ofKind one = true → ofKind other = true → one = other

/-- The layer of a single overwrite. -/
theorem testBit_applyOverwrite {overwrites : List DiscordOverwrite}
    {ofKind : DiscordOverwrite → Bool} (single : Single overwrites ofKind)
    (permissions bit : Nat) :
    (applyOverwrite permissions (overwrites.find? ofKind)).testBit bit = true ↔
      FirstMention (permissions.testBit bit = true)
        [(Mentions overwrites ofKind (·.allow) bit, true),
          (Mentions overwrites ofKind (·.deny) bit, false)] := by
  rw [firstMention_layer]
  cases found : overwrites.find? ofKind with
  | none =>
      have noMention : ∀ mask, ¬Mentions overwrites ofKind mask bit := by
        rintro mask ⟨overwrite, listed, kind, _⟩
        exact (List.find?_eq_none.mp found overwrite listed) kind
      simp only [applyOverwrite, noMention, false_or, not_false_eq_true, true_and]
  | some overwrite =>
      have listed := List.mem_of_find?_eq_some found
      have kind : ofKind overwrite = true := List.find?_some found
      have mention : ∀ mask : DiscordOverwrite → Nat,
          Mentions overwrites ofKind mask bit ↔ (mask overwrite).testBit bit = true := by
        intro mask
        constructor
        · rintro ⟨other, otherListed, otherKind, set⟩
          rw [single overwrite listed other otherListed kind otherKind]
          exact set
        · exact fun set => ⟨overwrite, listed, kind, set⟩
      rw [mention, mention, applyOverwrite, testBit_applyMasks, Bool.not_eq_true]

/-- The layer of the roles. -/
theorem testBit_roleMasks (overwrites : List DiscordOverwrite) (ofKind : DiscordOverwrite → Bool)
    (permissions bit : Nat) :
    (applyMasks permissions
        ((overwrites.filter ofKind).foldl (fun union overwrite => union ||| overwrite.allow) 0)
        ((overwrites.filter ofKind).foldl (fun union overwrite => union ||| overwrite.deny) 0)
      ).testBit bit = true ↔
      FirstMention (permissions.testBit bit = true)
        [(Mentions overwrites ofKind (·.allow) bit, true),
          (Mentions overwrites ofKind (·.deny) bit, false)] := by
  have mention : ∀ mask : DiscordOverwrite → Nat,
      ((overwrites.filter ofKind).foldl (fun union overwrite => union ||| mask overwrite) 0).testBit
          bit = true ↔ Mentions overwrites ofKind mask bit := by
    intro mask
    rw [Bits.testBit_foldl_or, Nat.zero_testBit]
    simp only [Bool.false_eq_true, false_or, List.mem_filter, and_assoc, Mentions]
  rw [firstMention_layer, testBit_applyMasks, mention (·.allow), ← mention (·.deny),
    Bool.not_eq_true]

/-- Every kind that is looked for is relevant. -/
theorem isRelevant_of_kind {overwrite : DiscordOverwrite}
    (kind : isBotMember context overwrite = true ∨ isHeldRole context overwrite = true ∨
      isEveryone context overwrite = true) : isRelevant context overwrite = true := by
  simp only [isRelevant, Bool.or_eq_true, or_assoc]
  exact kind

/-- Relevant overwrites with distinct keys have one overwrite of everyone, and one of the bot. -/
theorem single_of_unique {overwrites : List DiscordOverwrite}
    (unique : ((overwrites.filter (isRelevant context)).map fun o => (o.type, o.id)).Nodup) :
    Single overwrites (isEveryone context) ∧ Single overwrites (isBotMember context) := by
  have equal : ∀ one ∈ overwrites, ∀ other ∈ overwrites, isRelevant context one = true →
      isRelevant context other = true → (one.type, one.id) = (other.type, other.id) →
        one = other := by
    intro one oneListed other otherListed oneRelevant otherRelevant same
    exact List.inj_on_of_nodup_map unique (List.mem_filter.mpr ⟨oneListed, oneRelevant⟩)
      (List.mem_filter.mpr ⟨otherListed, otherRelevant⟩) same
  constructor
  · intro one oneListed other otherListed oneKind otherKind
    refine equal one oneListed other otherListed
      (isRelevant_of_kind context (.inr (.inr oneKind)))
      (isRelevant_of_kind context (.inr (.inr otherKind))) ?_
    simp only [isEveryone, Bool.and_eq_true, decide_eq_true_eq] at oneKind otherKind
    rw [oneKind.1, oneKind.2, otherKind.1, otherKind.2]
  · intro one oneListed other otherListed oneKind otherKind
    refine equal one oneListed other otherListed
      (isRelevant_of_kind context (.inl oneKind)) (isRelevant_of_kind context (.inl otherKind)) ?_
    simp only [isBotMember, Bool.and_eq_true, decide_eq_true_eq] at oneKind otherKind
    rw [oneKind.1, oneKind.2, otherKind.1, otherKind.2]

/-- A bit that is left over all layers is a bit that the rule grants. -/
theorem testBit_overwrittenPermissions {overwrites : List DiscordOverwrite}
    (unique : ((overwrites.filter (isRelevant context)).map fun o => (o.type, o.id)).Nodup)
    (bit : Nat) :
    (overwrittenPermissions context overwrites).testBit bit = true ↔
      Granted context overwrites bit := by
  rcases single_of_unique context unique with ⟨everyone, botMember⟩
  have layered : layers context overwrites bit =
      [(Mentions overwrites (isBotMember context) (·.allow) bit, true),
        (Mentions overwrites (isBotMember context) (·.deny) bit, false)] ++
      ([(Mentions overwrites (isHeldRole context) (·.allow) bit, true),
        (Mentions overwrites (isHeldRole context) (·.deny) bit, false)] ++
      [(Mentions overwrites (isEveryone context) (·.allow) bit, true),
        (Mentions overwrites (isEveryone context) (·.deny) bit, false)]) := rfl
  rw [Granted, layered, firstMention_append, overwrittenPermissions,
    testBit_applyOverwrite botMember]
  apply firstMention_congr
  rw [firstMention_append, testBit_roleMasks]
  apply firstMention_congr
  rw [testBit_applyOverwrite everyone]
  exact firstMention_congr (testBit_basePermissions context bit) _

/-- The verdict from the three bits that are asked for. -/
def verdictOf (administrator viewChannel readHistory : Bool) : DiscordChannelAccess :=
  if administrator then .readable
  else if viewChannel = false then .missingViewChannel
  else if readHistory = false then .missingReadHistory
  else .readable

theorem resolveDiscordChannelAccess_eq {raw : RawOverwrites} {overwrites : List DiscordOverwrite}
    (parsed : parseOverwrites raw = .ok overwrites) :
    resolveDiscordChannelAccess context raw = .ok (verdictOf
      ((basePermissions context).testBit ADMINISTRATOR_BIT)
      ((overwrittenPermissions context overwrites).testBit VIEW_CHANNEL_BIT)
      ((overwrittenPermissions context overwrites).testBit READ_HISTORY_BIT)) := by
  have tested : ∀ permissions,
      ((permissions &&& DiscordPermission.administrator = 0) =
        (permissions.testBit ADMINISTRATOR_BIT = false)) ∧
      ((permissions &&& DiscordPermission.viewChannel = 0) =
        (permissions.testBit VIEW_CHANNEL_BIT = false)) ∧
      ((permissions &&& DiscordPermission.readMessageHistory = 0) =
        (permissions.testBit READ_HISTORY_BIT = false)) := fun permissions =>
    ⟨propext (Bits.and_one_shiftLeft_eq_zero permissions 3),
      propext (Bits.and_one_shiftLeft_eq_zero permissions 10),
      propext (Bits.and_one_shiftLeft_eq_zero permissions 16)⟩
  have bound : ∀ verdict : List DiscordOverwrite → Except String DiscordChannelAccess,
      (Except.ok overwrites >>= verdict) = verdict overwrites := fun _ => rfl
  simp only [resolveDiscordChannelAccess, verdictOf, ne_eq, tested, parsed, bound]
  cases (basePermissions context).testBit ADMINISTRATOR_BIT with
  | true => simp
  | false =>
      cases (overwrittenPermissions context overwrites).testBit VIEW_CHANNEL_BIT with
      | false => simp [pure, Except.pure]
      | true =>
          cases (overwrittenPermissions context overwrites).testBit READ_HISTORY_BIT with
          | false => simp [pure, Except.pure]
          | true => simp [pure, Except.pure]

end Layers

/-! ## What may change -/

section Same

variable {one other : DiscordPermissionContext}

theorem isRelevant_same (same : SameContext one other) : isRelevant one = isRelevant other := by
  funext overwrite
  simp only [isRelevant, isBotMember, isHeldRole, isEveryone, same.guildId, same.botUserId,
    same.botRoleIds.mem_iff]

theorem inBase_same (same : SameContext one other) (bit : Nat) :
    InBase one bit ↔ InBase other bit := by
  simp only [InBase, List.mem_cons, same.guildId, same.botRoleIds.mem_iff, same.permissions]

/-- Only the relevant overwrites mention something. -/
theorem mentions_filter (context : DiscordPermissionContext) (overwrites : List DiscordOverwrite)
    {ofKind : DiscordOverwrite → Bool}
    (relevant : ∀ overwrite, ofKind overwrite = true → isRelevant context overwrite = true)
    (mask : DiscordOverwrite → Nat) (bit : Nat) :
    Mentions (overwrites.filter (isRelevant context)) ofKind mask bit ↔
      Mentions overwrites ofKind mask bit := by
  constructor
  · rintro ⟨overwrite, listed, mentions⟩
    exact ⟨overwrite, (List.mem_filter.mp listed).1, mentions⟩
  · rintro ⟨overwrite, listed, kind, set⟩
    exact ⟨overwrite, List.mem_filter.mpr ⟨listed, relevant overwrite kind⟩, kind, set⟩

/-- The rule reads the relevant overwrites, in any order. -/
theorem granted_same (same : SameContext one other) {overwrites others : List DiscordOverwrite}
    (relevant : (overwrites.filter (isRelevant other)).Perm (others.filter (isRelevant other)))
    (bit : Nat) : Granted one overwrites bit ↔ Granted other others bit := by
  have kinds : isBotMember one = isBotMember other ∧ isHeldRole one = isHeldRole other ∧
      isEveryone one = isEveryone other := by
    refine ⟨?_, ?_, ?_⟩ <;> funext overwrite
    · simp only [isBotMember, same.botUserId]
    · simp only [isHeldRole, same.botRoleIds.mem_iff]
    · simp only [isEveryone, same.guildId]
  have mention : ∀ (ofKind : DiscordOverwrite → Bool) (mask : DiscordOverwrite → Nat),
      (∀ overwrite, ofKind overwrite = true → isRelevant other overwrite = true) →
        Mentions overwrites ofKind mask bit = Mentions others ofKind mask bit := by
    intro ofKind mask known
    apply propext
    rw [← mentions_filter other overwrites known, ← mentions_filter other others known]
    simp only [Mentions, relevant.mem_iff]
  have ofBot := fun mask => mention (isBotMember other) mask fun _ kind =>
    isRelevant_of_kind other (.inl kind)
  have ofRole := fun mask => mention (isHeldRole other) mask fun _ kind =>
    isRelevant_of_kind other (.inr (.inl kind))
  have ofEveryone := fun mask => mention (isEveryone other) mask fun _ kind =>
    isRelevant_of_kind other (.inr (.inr kind))
  rw [Granted, Granted, layers, layers, kinds.1, kinds.2.1, kinds.2.2, ofBot, ofBot, ofRole,
    ofRole, ofEveryone, ofEveryone]
  exact firstMention_congr (inBase_same same bit) _

end Same

/-- A verdict follows the rule wherever keys of overwrites are distinct. -/
theorem followsRule_of_parsed (context : DiscordPermissionContext) {raw : RawOverwrites}
    {overwrites : List DiscordOverwrite} (parsed : parseOverwrites raw = .ok overwrites)
    (unique : (overwrites.map fun o => (o.type, o.id)).Nodup) :
    FollowsRule context raw overwrites := by
  have uniqueRelevant :
      ((overwrites.filter (isRelevant context)).map fun o => (o.type, o.id)).Nodup :=
    unique.sublist (List.filter_sublist.map _)
  have administrator := testBit_basePermissions context ADMINISTRATOR_BIT
  have view := testBit_overwrittenPermissions context uniqueRelevant VIEW_CHANNEL_BIT
  have history := testBit_overwrittenPermissions context uniqueRelevant READ_HISTORY_BIT
  have verdict := resolveDiscordChannelAccess_eq context parsed
  refine ⟨?_, ?_, ?_, ?_⟩
  · rw [verdict, ← administrator, ← view, ← history]
    generalize (basePermissions context).testBit ADMINISTRATOR_BIT = held
    generalize (overwrittenPermissions context overwrites).testBit VIEW_CHANNEL_BIT = viewed
    generalize (overwrittenPermissions context overwrites).testBit READ_HISTORY_BIT = read
    cases held <;> cases viewed <;> cases read <;> decide
  · rw [verdict, ← administrator, ← view]
    generalize (basePermissions context).testBit ADMINISTRATOR_BIT = held
    generalize (overwrittenPermissions context overwrites).testBit VIEW_CHANNEL_BIT = viewed
    generalize (overwrittenPermissions context overwrites).testBit READ_HISTORY_BIT = read
    cases held <;> cases viewed <;> cases read <;> decide
  · rw [verdict, ← administrator, ← view, ← history]
    generalize (basePermissions context).testBit ADMINISTRATOR_BIT = held
    generalize (overwrittenPermissions context overwrites).testBit VIEW_CHANNEL_BIT = viewed
    generalize (overwrittenPermissions context overwrites).testBit READ_HISTORY_BIT = read
    cases held <;> cases viewed <;> cases read <;> decide
  · intro other raw' others same parsed' relevant
    have uniqueOthers : ((others.filter (isRelevant other)).map fun o => (o.type, o.id)).Nodup := by
      rw [isRelevant_same same]
      exact (relevant.map _).nodup_iff.mpr uniqueRelevant
    have administrator' : (basePermissions other).testBit ADMINISTRATOR_BIT =
        (basePermissions context).testBit ADMINISTRATOR_BIT := by
      rw [Bool.eq_iff_iff, administrator, testBit_basePermissions]
      exact inBase_same same ADMINISTRATOR_BIT
    have granted : ∀ bit, (overwrittenPermissions other others).testBit bit =
        (overwrittenPermissions context overwrites).testBit bit := by
      intro bit
      rw [Bool.eq_iff_iff, testBit_overwrittenPermissions context uniqueRelevant,
        testBit_overwrittenPermissions other uniqueOthers]
      exact granted_same same relevant bit
    rw [verdict, resolveDiscordChannelAccess_eq other parsed', administrator', granted, granted]

/-! ## Contexts that are accepted -/

/-- A context is accepted from the answers that hold what it holds. -/
theorem toDiscordPermissionContext_ok_iff {guildId botUserId : String}
    {member : DiscordRawGuildMember} {roles : Option (List DiscordRawRole)}
    {context : DiscordPermissionContext} :
    toDiscordPermissionContext guildId botUserId member roles = .ok context ↔
      context.guildId = guildId ∧ context.botUserId = botUserId ∧
        (member.roles.bind fun roleIds => roleIds.mapM id) = some context.botRoleIds ∧
        ∃ listed, roles = some listed ∧
          listed.foldlM addRole .empty = .ok context.permissionsByRoleId := by
  constructor
  · intro accepted
    simp only [toDiscordPermissionContext] at accepted
    split at accepted
    · cases accepted
    · split at accepted
      · cases accepted
      · rename_i botRoleIds held
        split at accepted
        · cases accepted
        · rename_i listed
          split at accepted
          · cases accepted
          · rename_i permissionsByRoleId read
            split at accepted
            · split at accepted
              · cases accepted
                exact ⟨rfl, rfl, held, listed, rfl, read⟩
              · cases accepted
            · cases accepted
  · rintro ⟨rfl, rfl, held, listed, rfl, read⟩
    simp only [toDiscordPermissionContext]
    rw [dif_neg context.botUserId_ne]
    simp only [held, read, context.everyone_known, dif_pos]
    rw [dif_pos context.roles_known]

/-- A role with its id and permissions. -/
def ReadsAs (role : DiscordRawRole) (entry : String × Nat) : Prop :=
  role.id = some entry.1 ∧ entry.1 ≠ "" ∧ permissionBits role.permissions "role" = .ok entry.2

theorem addRole_ok_iff {stored next : OrderedMap String Nat} {role : DiscordRawRole} :
    addRole stored role = .ok next ↔
      ∃ entry, ReadsAs role entry ∧ next = stored.set entry.1 entry.2 := by
  rcases role with ⟨id, permissions⟩
  simp only [addRole, ReadsAs]
  cases id with
  | none => simp
  | some id =>
      by_cases named : id = ""
      · simp [named, Option.filter_some]
      · have kept : (some id).filter (· ≠ "") = some id := by
          simp [named, Option.filter_some]
        simp only [kept]
        cases read : permissionBits permissions "role" with
        | error error => simp [Except.map]
        | ok bits =>
            simp only [Except.map, Except.ok.injEq, Option.some.injEq]
            constructor
            · rintro rfl
              exact ⟨(id, bits), ⟨rfl, named, rfl⟩, rfl⟩
            · rintro ⟨⟨_, _⟩, ⟨rfl, _, rfl⟩, rfl⟩
              rfl

theorem foldlM_addRole_ok_iff {listed : List DiscordRawRole}
    {start stored : OrderedMap String Nat} :
    listed.foldlM addRole start = .ok stored ↔
      ∃ entries, List.Forall₂ ReadsAs listed entries ∧
        stored = entries.foldl (fun stored entry => stored.set entry.1 entry.2) start := by
  induction listed generalizing start with
  | nil =>
      simp only [List.foldlM_nil, List.forall₂_nil_left_iff, exists_eq_left, List.foldl_nil]
      exact ⟨fun same => (Except.ok.inj same).symm, fun same => by rw [same]; rfl⟩
  | cons role listed ih =>
      rw [List.foldlM_cons]
      constructor
      · intro read
        cases added : addRole start role with
        | error error =>
            rw [added] at read
            cases read
        | ok next =>
            rw [added] at read
            rcases addRole_ok_iff.mp added with ⟨entry, reads, rfl⟩
            rcases ih.mp read with ⟨entries, allRead, rfl⟩
            exact ⟨entry :: entries, .cons reads allRead, rfl⟩
      · rintro ⟨entries, allRead, rfl⟩
        cases allRead with
        | @cons _ entry _ entries reads allRead =>
            rw [addRole_ok_iff.mpr ⟨entry, reads, rfl⟩]
            exact ih.mpr ⟨entries, allRead, rfl⟩

theorem mapM_id_eq_some_iff {raw : List RawText} {texts : List String} :
    raw.mapM id = some texts ↔ List.Forall₂ (fun value text => value = some text) raw texts := by
  induction raw generalizing texts with
  | nil =>
      rw [List.forall₂_nil_left_iff]
      exact ⟨fun same => (Option.some.inj same).symm, fun same => by rw [same]; rfl⟩
  | cons value raw ih =>
      rw [List.mapM_cons]
      constructor
      · intro read
        cases value with
        | none => cases read
        | some text =>
            cases rest : raw.mapM id with
            | none =>
                rw [rest] at read
                cases read
            | some others =>
                rw [rest] at read
                cases read
                exact .cons rfl (ih.mp rest)
      · intro allRead
        cases allRead with
        | cons read allRead =>
            rw [read, ih.mpr allRead]
            rfl

/-- The same held roles, and the same roles of the guild, in another order. -/
structure Reordered (member other : DiscordRawGuildMember)
    (roles others : Option (List DiscordRawRole)) : Prop where
  held : ∃ raw reordered, member.roles = some raw ∧ other.roles = some reordered ∧
    reordered.Perm raw
  listed : ∃ raw reordered, roles = some raw ∧ others = some reordered ∧ reordered.Perm raw ∧
    (raw.map (·.id)).Nodup

/-- Roles with distinct ids have distinct ids when they are read. -/
theorem nodup_of_readsAs {listed : List DiscordRawRole} {entries : List (String × Nat)}
    (allRead : List.Forall₂ ReadsAs listed entries) (distinct : (listed.map (·.id)).Nodup) :
    (entries.map Prod.fst).Nodup := by
  have ids : listed.map (·.id) = (entries.map Prod.fst).map some := by
    clear distinct
    induction allRead with
    | nil => rfl
    | cons reads _ ih => rw [List.map_cons, List.map_cons, List.map_cons, reads.1, ih]
  rw [ids] at distinct
  exact distinct.of_map some

/-- Another order of the roles gives the same context. -/
theorem toDiscordPermissionContext_reordered {guildId botUserId : String}
    {member member' : DiscordRawGuildMember} {roles roles' : Option (List DiscordRawRole)}
    {context : DiscordPermissionContext}
    (accepted : toDiscordPermissionContext guildId botUserId member roles = .ok context)
    (reordered : Reordered member member' roles roles') :
    ∃ other, toDiscordPermissionContext guildId botUserId member' roles' = .ok other ∧
      SameContext other context := by
  rcases toDiscordPermissionContext_ok_iff.mp accepted with
    ⟨sameGuild, sameBot, held, listed, hasRoles, read⟩
  rcases reordered with ⟨⟨raw, rawHeld, hasRaw, hasHeld, permHeld⟩,
    ⟨_, rawListed, rfl, rfl, permListed, distinct⟩⟩
  cases hasRoles
  rw [hasRaw] at held
  rcases List.perm_comp_forall₂ permHeld (mapM_id_eq_some_iff.mp held) with
    ⟨botRoleIds, heldAll, permIds⟩
  rcases foldlM_addRole_ok_iff.mp read with ⟨entries, allRead, stored⟩
  rcases List.perm_comp_forall₂ permListed allRead with ⟨entries', allRead', permEntries⟩
  have nodup := nodup_of_readsAs allRead distinct
  have nodup' : (entries'.map Prod.fst).Nodup := (permEntries.map _).nodup_iff.mpr nodup
  have same : ∀ roleId, (OrderedMap.ofPairs entries').get? roleId =
      context.permissionsByRoleId.get? roleId := by
    intro roleId
    apply Option.ext
    intro permissions
    rw [stored, ← OrderedMap.ofPairs, OrderedMap.get?_eq_some_iff_mem,
      OrderedMap.get?_eq_some_iff_mem, OrderedMap.entries_ofPairs_of_nodup nodup,
      OrderedMap.entries_ofPairs_of_nodup nodup', permEntries.mem_iff]
  refine ⟨⟨guildId, botUserId, botRoleIds, .ofPairs entries', ?_, ?_, ?_⟩, ?_,
    ⟨sameGuild.symm, sameBot.symm, permIds, same⟩⟩
  · rw [← sameBot]
    exact context.botUserId_ne
  · rw [same, ← sameGuild]
    exact context.everyone_known
  · intro roleId heldRole
    rw [same]
    exact context.roles_known roleId (permIds.mem_iff.mp heldRole)
  · apply toDiscordPermissionContext_ok_iff.mpr
    refine ⟨rfl, rfl, ?_, rawListed, rfl, foldlM_addRole_ok_iff.mpr ⟨entries', allRead', rfl⟩⟩
    rw [hasHeld]
    exact mapM_id_eq_some_iff.mpr heldAll

/-- The verdict on a channel is the rule of the platform, whatever the order of the roles and of the
overwrites and whatever overwrites do not concern the bot. -/
theorem resolveDiscordChannelAccess_followsRule {guildId botUserId : String}
    {member : DiscordRawGuildMember} {roles : Option (List DiscordRawRole)}
    {context : DiscordPermissionContext}
    (accepted : toDiscordPermissionContext guildId botUserId member roles = .ok context)
    {raw : RawOverwrites} {overwrites : List DiscordOverwrite}
    (parsed : parseOverwrites raw = .ok overwrites)
    (unique : (overwrites.map fun o => (o.type, o.id)).Nodup) :
    FollowsRule context raw overwrites ∧
      ∀ member' roles', Reordered member member' roles roles' →
        ∃ other, toDiscordPermissionContext guildId botUserId member' roles' = .ok other ∧
          SameContext other context :=
  ⟨followsRule_of_parsed context parsed unique, fun _ _ reordered =>
    toDiscordPermissionContext_reordered accepted reordered⟩

private def sampleMember : DiscordRawGuildMember := ⟨some [some "reader"]⟩

private def sampleGuildRoles : Option (List DiscordRawRole) :=
  some [⟨some "guild", some "65536"⟩, ⟨some "reader", some "0"⟩]

private def samplePermissionContext : DiscordPermissionContext where
  guildId := "guild"
  botUserId := "bot"
  botRoleIds := ["reader"]
  permissionsByRoleId := .ofPairs [("guild", 65536), ("reader", 0)]
  botUserId_ne := by decide
  everyone_known := by decide
  roles_known := by decide

/-- Everyone is denied the channel, and the role of the bot is both allowed and denied it. -/
private def sampleOverwrites : RawOverwrites :=
  .entries [⟨some "reader", some 0, some "1024", some "1024"⟩,
    ⟨some "guild", some 0, some "0", some "1024"⟩]

theorem resolveDiscordChannelAccess_sample :
    resolveDiscordChannelAccess samplePermissionContext sampleOverwrites = .ok .readable ∧
      FollowsRule samplePermissionContext sampleOverwrites
        [⟨"reader", 0, 1024, 1024⟩, ⟨"guild", 0, 0, 1024⟩] :=
  ⟨by decide +kernel,
    (@resolveDiscordChannelAccess_followsRule "guild" "bot" sampleMember sampleGuildRoles _
      (toDiscordPermissionContext_ok_iff.mpr ⟨rfl, rfl, rfl, _, rfl, rfl⟩) _ _
      (by decide +kernel) (by decide)).1⟩

end Reputo.Community
