import Mathlib.Data.List.Induction
import Reputo.Library.Json

/-!
# Replayed guilds

A session of the gateway begins with the guilds that it will replay, and a guild that comes back
after an outage is replayed as well.  What is replayed is absorbed; every other guild that becomes
available is a fresh install, which is signalled.
-/

namespace Reputo.Community

open Reputo.Library

namespace GuildReplays

/-! ## What a dispatch means -/

inductive CommunitySignalKind where
  | community
  | resources
  | revoked
  deriving DecidableEq, Repr

inductive DiscordDispatchMeaning where
  | ignored
  | available (guildId : String)
  | outage (guildId : String)
  | changed (guildId : String) (kind : CommunitySignalKind)
  deriving DecidableEq, Repr

def DISPATCH_KIND : List (String × CommunitySignalKind) :=
  [("GUILD_UPDATE", .community), ("CHANNEL_CREATE", .resources), ("CHANNEL_UPDATE", .resources),
    ("CHANNEL_DELETE", .resources), ("GUILD_ROLE_CREATE", .resources),
    ("GUILD_ROLE_UPDATE", .resources), ("GUILD_ROLE_DELETE", .resources)]

def GUILD_SCOPED_EVENTS : List String := ["GUILD_UPDATE"]

/-- A field of a payload, which may be missing. -/
def payloadField (payload : Option (Json ℚ)) (name : String) : Option (Json ℚ) :=
  payload.bind (·.field name)

/-- A text that is not empty. -/
def readDiscordId (value : Option (Json ℚ)) : Option String :=
  (value.bind Json.asString).filter (· ≠ "")

def isTrue : Json ℚ → Bool
  | .bool value => value
  | .null | .num _ | .str _ | .arr _ | .obj _ => false

def readDiscordDispatch (event : String) (payload : Option (Json ℚ)) : DiscordDispatchMeaning :=
  if event = "GUILD_CREATE" then
    match readDiscordId (payloadField payload "id") with
    | none => .ignored
    | some guildId => .available guildId
  else if event = "GUILD_DELETE" then
    match readDiscordId (payloadField payload "id") with
    | none => .ignored
    | some guildId =>
        if (payloadField payload "unavailable").any isTrue then .outage guildId
        else .changed guildId .revoked
  else match DISPATCH_KIND.lookup event with
    | none => .ignored
    | some kind =>
        let guildId := if event ∈ GUILD_SCOPED_EVENTS then
            readDiscordId (payloadField payload "id")
          else readDiscordId (payloadField payload "guild_id")
        match guildId with
        | none => .ignored
        | some guildId => .changed guildId kind

/-! ## The gateway -/

namespace GatewayOpcode

def dispatch : ℚ := 0
def invalidSession : ℚ := 9

end GatewayOpcode

/-- Closes that invalidate the session. -/
def SESSION_LOST_CLOSE_CODES : List Nat := [4007, 4009]

/-- A signal of the platform, with the event that produced it. -/
structure CommunitySignal where
  externalId : String
  kind : CommunitySignalKind
  event : String
  deriving DecidableEq, Repr

/-- What the gateway remembers of its session, and the guilds that are still replayed. -/
structure Gateway where
  sessionId : Option String
  resumeUrl : Option String
  sequence : Option ℚ
  hydrating : List String
  deriving DecidableEq, Repr

def createDiscordGateway : Gateway where
  sessionId := none
  resumeUrl := none
  sequence := none
  hydrating := []

/-- The guilds that a session begins with. -/
def readyGuilds (data : Option (Json ℚ)) : List String :=
  (((payloadField data "guilds").bind Json.asArray).getD []).filterMap fun guild =>
    (guild.field "id").bind Json.asString

/-- The event of a frame, if it has one. -/
def eventOf (frame : Json ℚ) : String := ((frame.field "t").bind Json.asString).getD ""

namespace Gateway

def dropSession (_ : Gateway) : Gateway := createDiscordGateway

def onDisconnect (gateway : Gateway) (code : Nat) : Gateway :=
  if code ∈ SESSION_LOST_CLOSE_CODES then gateway.dropSession else gateway

/-- What a dispatch leaves, and the signals that it emits. -/
def handleDispatch (gateway : Gateway) (frame : Json ℚ) : Gateway × List CommunitySignal :=
  let event := eventOf frame
  let data := frame.field "d"
  if event = "READY" then
    ({ gateway with
      sessionId := (payloadField data "session_id").bind Json.asString
      resumeUrl := (payloadField data "resume_gateway_url").bind Json.asString
      hydrating := readyGuilds data }, [])
  else if event = "RESUMED" then (gateway, [])
  else match readDiscordDispatch event data with
    | .available guildId =>
        if guildId ∈ gateway.hydrating then
          ({ gateway with hydrating := gateway.hydrating.filter (· ≠ guildId) }, [])
        else (gateway, [⟨guildId, .community, event⟩])
    | .outage guildId => ({ gateway with hydrating := guildId :: gateway.hydrating }, [])
    | .changed guildId kind => (gateway, [⟨guildId, kind, event⟩])
    | .ignored => (gateway, [])

def onMessage (gateway : Gateway) (frame : Json ℚ) : Gateway × List CommunitySignal :=
  let gateway := { gateway with
    sequence := ((frame.field "s").bind Json.asNumber).or gateway.sequence }
  let op := (frame.field "op").bind Json.asNumber
  if op = some GatewayOpcode.invalidSession then
    (if (frame.field "d").any isTrue then gateway else gateway.dropSession, [])
  else if op = some GatewayOpcode.dispatch then gateway.handleDispatch frame
  else (gateway, [])

end Gateway

inductive GatewayEvent where
  | message (frame : Json ℚ)
  | disconnect (code : Nat)
  | stop

def Gateway.perform (gateway : Gateway) : GatewayEvent → Gateway × List CommunitySignal
  | .message frame => gateway.onMessage frame
  | .disconnect code => (gateway.onDisconnect code, [])
  | .stop => (gateway.dropSession, [])

/-- The gateway after some events. -/
def gatewayAfter (events : List GatewayEvent) : Gateway :=
  events.foldl (fun gateway event => (gateway.perform event).1) createDiscordGateway

/-- The signals that an event emits after others. -/
def signalsOf (before : List GatewayEvent) (event : GatewayEvent) : List CommunitySignal :=
  ((gatewayAfter before).perform event).2

/-! ## What is replayed -/

namespace GatewayEvent

/-- The name and the payload of a dispatch. -/
def dispatch : GatewayEvent → Option (String × Option (Json ℚ))
  | .message frame =>
      if (frame.field "op").bind Json.asNumber = some GatewayOpcode.dispatch then
        some (eventOf frame, frame.field "d")
      else none
  | .disconnect _ | .stop => none

def isReady (event : GatewayEvent) : Bool := event.dispatch.any fun dispatch =>
  dispatch.1 = "READY"

/-- A dispatch of the name, for the guild. -/
def isFor (guildId name : String) (event : GatewayEvent) : Bool :=
  event.dispatch.any fun dispatch =>
    dispatch.1 = name && readDiscordId (payloadField dispatch.2 "id") = some guildId

def creates (guildId : String) (event : GatewayEvent) : Bool := event.isFor guildId "GUILD_CREATE"

def isUnavailable (event : GatewayEvent) : Bool := event.dispatch.any fun dispatch =>
  (payloadField dispatch.2 "unavailable").any isTrue

/-- The bot was removed from the guild. -/
def removes (guildId : String) (event : GatewayEvent) : Bool :=
  event.isFor guildId "GUILD_DELETE" && !event.isUnavailable

/-- A READY that lists the guild, or an outage of it. -/
def announces (guildId : String) (event : GatewayEvent) : Bool :=
  (event.isReady && event.dispatch.any fun dispatch => decide (guildId ∈ readyGuilds dispatch.2)) ||
    (event.isFor guildId "GUILD_DELETE" && event.isUnavailable)

/-- The session ends, or another one begins. -/
def endsSession : GatewayEvent → Bool
  | .message frame => (message frame).isReady ||
      ((frame.field "op").bind Json.asNumber = some GatewayOpcode.invalidSession &&
        !(frame.field "d").any isTrue)
  | .disconnect code => code ∈ SESSION_LOST_CLOSE_CODES
  | .stop => true

end GatewayEvent

/-- What happened since the latest announcement of a guild, if there was one. -/
def sinceAnnounced (guildId : String) (events : List GatewayEvent) : Option (List GatewayEvent) :=
  events.foldl (fun since event => if event.announces guildId then some []
    else since.map (· ++ [event])) none

/-- A guild was announced, and was neither created nor removed since. -/
def awaitsReplay (guildId : String) (events : List GatewayEvent) : Bool :=
  (sinceAnnounced guildId events).any fun since =>
    since.all fun event => !event.creates guildId && !event.removes guildId

/-- A created guild is signalled, once, exactly if no replay of it was awaited. -/
def AbsorbsReplaysOnly (events : List GatewayEvent) : Prop :=
  ∀ before event after guildId, events = before ++ event :: after →
    event.creates guildId = true →
      signalsOf before event =
        if awaitsReplay guildId before then [] else [⟨guildId, .community, "GUILD_CREATE"⟩]

/-- When a guild is created that was announced and not created since, it was removed since exactly
if the session ended since. -/
def RemovedWithSession (events : List GatewayEvent) : Prop :=
  ∀ before event after guildId, events = before ++ event :: after →
    event.creates guildId = true →
      ∀ since ∈ sinceAnnounced guildId before, since.any (·.creates guildId) = false →
        since.any (·.removes guildId) = since.any (·.endsSession)

/-! ## Guilds that are hydrating -/

section Steps

variable {guildId : String} {frame : Json ℚ} {gateway : Gateway}

theorem readDiscordDispatch_other {event : String} {payload : Option (Json ℚ)}
    (create : event ≠ "GUILD_CREATE") (delete : event ≠ "GUILD_DELETE") :
    readDiscordDispatch event payload = .ignored ∨
      ∃ other kind, readDiscordDispatch event payload = .changed other kind := by
  rw [readDiscordDispatch, if_neg create, if_neg delete]
  cases DISPATCH_KIND.lookup event with
  | none => exact .inl rfl
  | some kind =>
      dsimp only
      generalize (if event ∈ GUILD_SCOPED_EVENTS then readDiscordId (payloadField payload "id")
        else readDiscordId (payloadField payload "guild_id")) = other
      cases other with
      | none => exact .inl rfl
      | some other => exact .inr ⟨other, kind, rfl⟩

theorem dispatch_message (dispatched : (frame.field "op").bind Json.asNumber =
      some GatewayOpcode.dispatch) :
    (GatewayEvent.message frame).dispatch = some (eventOf frame, frame.field "d") := by
  rw [GatewayEvent.dispatch, if_pos dispatched]

/-- A dispatch adds the guilds that it announces, and takes out those that it creates. -/
theorem mem_hydrating_handleDispatch (dispatched : (frame.field "op").bind Json.asNumber =
      some GatewayOpcode.dispatch) :
    guildId ∈ (gateway.handleDispatch frame).1.hydrating ↔
      (GatewayEvent.message frame).announces guildId = true ∨
        (guildId ∈ gateway.hydrating ∧ (GatewayEvent.message frame).creates guildId = false ∧
          (GatewayEvent.message frame).isReady = false) := by
  have known := dispatch_message dispatched
  simp only [GatewayEvent.announces, GatewayEvent.creates, GatewayEvent.isReady,
    GatewayEvent.isFor, GatewayEvent.isUnavailable, known, Option.any_some]
  by_cases ready : eventOf frame = "READY"
  · simp [Gateway.handleDispatch, ready]
  by_cases create : eventOf frame = "GUILD_CREATE"
  · cases read : readDiscordId (payloadField (frame.field "d") "id") with
    | none => simp [Gateway.handleDispatch, readDiscordDispatch, create, read]
    | some other =>
        have swap : (other = guildId) = (guildId = other) := propext eq_comm
        by_cases hydrating : other ∈ gateway.hydrating
        · simp [Gateway.handleDispatch, readDiscordDispatch, create, read, hydrating, swap]
        · have apart : guildId ∈ gateway.hydrating → guildId ≠ other :=
            fun member same => hydrating (same ▸ member)
          simpa [Gateway.handleDispatch, readDiscordDispatch, create, read, hydrating, swap]
            using apart
  by_cases delete : eventOf frame = "GUILD_DELETE"
  · cases read : readDiscordId (payloadField (frame.field "d") "id") with
    | none => simp [Gateway.handleDispatch, readDiscordDispatch, delete, read]
    | some other =>
        have swap : (other = guildId) = (guildId = other) := propext eq_comm
        cases unavailable : (payloadField (frame.field "d") "unavailable").any isTrue with
        | false => simp [Gateway.handleDispatch, readDiscordDispatch, delete, read, unavailable]
        | true =>
            simp [Gateway.handleDispatch, readDiscordDispatch, delete, read, unavailable, swap]
  · simp only [ready, create, delete]
    by_cases resumed : eventOf frame = "RESUMED"
    · simp [Gateway.handleDispatch, resumed]
    · rcases @readDiscordDispatch_other _ (frame.field "d") create delete with
        ignored | ⟨other, kind, changed⟩
      · simp [Gateway.handleDispatch, ready, resumed, ignored]
      · simp [Gateway.handleDispatch, ready, resumed, changed]

/-- An event adds the guilds that it announces; it takes out those that it creates, and all of
them where it ends the session. -/
theorem mem_hydrating_perform (event : GatewayEvent) :
    guildId ∈ (gateway.perform event).1.hydrating ↔ event.announces guildId = true ∨
      (guildId ∈ gateway.hydrating ∧ event.creates guildId = false ∧
        event.endsSession = false) := by
  cases event with
  | stop => simp [Gateway.perform, Gateway.dropSession, createDiscordGateway,
      GatewayEvent.announces, GatewayEvent.isReady, GatewayEvent.isFor, GatewayEvent.dispatch,
      GatewayEvent.endsSession]
  | disconnect code =>
      by_cases lost : code ∈ SESSION_LOST_CLOSE_CODES <;>
        simp [Gateway.perform, Gateway.onDisconnect, Gateway.dropSession, createDiscordGateway,
          GatewayEvent.announces, GatewayEvent.creates, GatewayEvent.isReady, GatewayEvent.isFor,
          GatewayEvent.dispatch, GatewayEvent.endsSession, lost]
  | message frame =>
      by_cases dispatched : (frame.field "op").bind Json.asNumber = some GatewayOpcode.dispatch
      · have valid : some GatewayOpcode.dispatch ≠ some GatewayOpcode.invalidSession := by decide
        rw [Gateway.perform, Gateway.onMessage, if_neg (dispatched ▸ valid), if_pos dispatched]
        rw [mem_hydrating_handleDispatch dispatched, GatewayEvent.endsSession, dispatched]
        simp [valid]
      · have silent : (GatewayEvent.message frame).dispatch = none := by
          rw [GatewayEvent.dispatch, if_neg dispatched]
        simp only [GatewayEvent.announces, GatewayEvent.creates, GatewayEvent.isReady,
          GatewayEvent.isFor, GatewayEvent.endsSession, silent, Option.any_none]
        by_cases invalid : (frame.field "op").bind Json.asNumber =
            some GatewayOpcode.invalidSession
        · cases resumable : (frame.field "d").any isTrue <;>
            simp [Gateway.perform, Gateway.onMessage, Gateway.dropSession, createDiscordGateway,
              invalid, resumable]
        · simp [Gateway.perform, Gateway.onMessage, dispatched, invalid]

/-- A created guild is signalled unless it is hydrating. -/
theorem perform_signals {event : GatewayEvent} (creates : event.creates guildId = true) :
    (gateway.perform event).2 = if guildId ∈ gateway.hydrating then []
      else [⟨guildId, .community, "GUILD_CREATE"⟩] := by
  cases event with
  | stop => cases creates
  | disconnect code => cases creates
  | message frame =>
      by_cases dispatched : (frame.field "op").bind Json.asNumber = some GatewayOpcode.dispatch
      · rw [GatewayEvent.creates, GatewayEvent.isFor, dispatch_message dispatched,
          Option.any_some, Bool.and_eq_true, decide_eq_true_iff, decide_eq_true_iff] at creates
        have create : eventOf frame = "GUILD_CREATE" := creates.1
        have read : readDiscordId (payloadField (frame.field "d") "id") = some guildId := creates.2
        have valid : some GatewayOpcode.dispatch ≠ some GatewayOpcode.invalidSession := by decide
        rw [Gateway.perform, Gateway.onMessage, if_neg (dispatched ▸ valid), if_pos dispatched]
        by_cases hydrating : guildId ∈ gateway.hydrating <;>
          simp [Gateway.handleDispatch, readDiscordDispatch, create, read, hydrating]
      · rw [GatewayEvent.creates, GatewayEvent.isFor, GatewayEvent.dispatch,
          if_neg dispatched] at creates
        cases creates

end Steps

/-! ## Runs -/

section Runs

variable (guildId : String) (before : List GatewayEvent) (event : GatewayEvent)

theorem gatewayAfter_concat : gatewayAfter (before ++ [event]) =
    ((gatewayAfter before).perform event).1 := by
  rw [gatewayAfter, List.foldl_append]
  rfl

theorem sinceAnnounced_concat : sinceAnnounced guildId (before ++ [event]) =
    if event.announces guildId then some []
    else (sinceAnnounced guildId before).map (· ++ [event]) := by
  rw [sinceAnnounced, List.foldl_append]
  rfl

/-- A guild is hydrating that was announced, and neither created nor forgotten since. -/
theorem mem_hydrating_iff : guildId ∈ (gatewayAfter before).hydrating ↔
    ∃ since ∈ sinceAnnounced guildId before,
      since.any (·.creates guildId) = false ∧ since.any (·.endsSession) = false := by
  induction before using List.reverseRecOn with
  | nil =>
      constructor
      · exact fun absent => absurd absent List.not_mem_nil
      · rintro ⟨since, absent, _⟩
        cases absent
  | append_singleton before event ih =>
      rw [gatewayAfter_concat, mem_hydrating_perform, ih, sinceAnnounced_concat]
      cases announced : event.announces guildId with
      | true => simp
      | false =>
          cases sinceAnnounced guildId before with
          | none => simp
          | some since =>
              simp only [Bool.false_eq_true, false_or, if_false, Option.map_some, Option.mem_def,
                Option.some.injEq, exists_eq_left', List.any_append, List.any_cons, List.any_nil,
                Bool.or_false, Bool.or_eq_false_iff]
              exact and_and_and_comm

variable {guildId before event}

/-- A created guild is treated rightly exactly if it is hydrating where its replay is awaited. -/
theorem signalsOf_eq_iff (creates : event.creates guildId = true) :
    (signalsOf before event =
      if awaitsReplay guildId before then [] else [⟨guildId, .community, "GUILD_CREATE"⟩]) ↔
    (guildId ∈ (gatewayAfter before).hydrating ↔ awaitsReplay guildId before = true) := by
  rw [signalsOf, perform_signals creates]
  cases awaitsReplay guildId before <;>
    by_cases hydrating : guildId ∈ (gatewayAfter before).hydrating <;> simp [hydrating]

/-- A removal tells apart what is awaited from what is hydrating, unless the session ended. -/
theorem hydrating_iff_awaits : (guildId ∈ (gatewayAfter before).hydrating ↔
      awaitsReplay guildId before = true) ↔
    ∀ since ∈ sinceAnnounced guildId before, since.any (·.creates guildId) = false →
      since.any (·.removes guildId) = since.any (·.endsSession) := by
  rw [mem_hydrating_iff, awaitsReplay]
  cases sinceAnnounced guildId before with
  | none => simp
  | some since =>
      have kept : since.all (fun event => !event.creates guildId && !event.removes guildId) =
          (!since.any (·.creates guildId) && !since.any (·.removes guildId)) := by
        induction since with
        | nil => rfl
        | cons first rest ih =>
            rw [List.all_cons, List.any_cons, List.any_cons, ih]
            cases first.creates guildId <;> cases first.removes guildId <;> simp
      simp only [Option.mem_def, Option.some.injEq, exists_eq_left', forall_eq', Option.any_some,
        kept]
      cases since.any (·.creates guildId) <;> cases since.any (·.removes guildId) <;>
        cases since.any (·.endsSession) <;> simp

end Runs

/-- Created guilds are treated rightly in exactly those runs in which a guild that is awaited is
removed with its session only. -/
theorem absorbsReplaysOnly_iff (events : List GatewayEvent) :
    AbsorbsReplaysOnly events ↔ RemovedWithSession events := by
  constructor
  · intro rightly before event after guildId split creates
    exact hydrating_iff_awaits.mp ((signalsOf_eq_iff creates).mp
      (rightly before event after guildId split creates))
  · intro condition before event after guildId split creates
    exact (signalsOf_eq_iff creates).mpr (hydrating_iff_awaits.mpr
      (condition before event after guildId split creates))

/-- A dispatch frame. -/
def dispatchFrame (name : String) (data : List (String × Json ℚ)) : GatewayEvent :=
  .message (.obj [("op", .num 0), ("t", .str name), ("d", .obj data)])

/-- A guild of the session is removed before it was replayed. -/
def removal : List GatewayEvent :=
  [dispatchFrame "READY" [("guilds", .arr [.obj [("id", .str "7")]])],
    dispatchFrame "GUILD_DELETE" [("id", .str "7")]]

/-- The bot is installed again. -/
def reinstall : GatewayEvent := dispatchFrame "GUILD_CREATE" [("id", .str "7")]

/-- The new install is not signalled. -/
theorem reinstall_absorbed : ¬AbsorbsReplaysOnly (removal ++ [reinstall]) := by
  intro rightly
  have signalled := rightly removal reinstall [] "7" rfl (by decide +kernel)
  revert signalled
  decide +kernel

end GuildReplays

end Reputo.Community
