import Mathlib.Data.Rat.Floor
import Reputo.Library.System

/-!
# The heartbeat of the gateway

The gateway keeps its socket alive with heartbeats: a first one after a part of the interval, and
one after every interval.  Both kinds read one flag, and the handle of the socket is the same for
every socket that is dialled.  Time passes between the events of a run, and no timer comes late.
-/

namespace Reputo.Community

open Reputo.Library

namespace DiscordGateway

/-! ## Timers -/

/-- Longest delay of a timer, in milliseconds. -/
def TIMEOUT_MAX : Nat := 2147483647

/-- What a timer waits: whole milliseconds, and one where the delay is out of range. -/
def timerDelay (delay : ℚ) : Nat :=
  if 1 ≤ delay ∧ delay ≤ TIMEOUT_MAX then ⌊delay⌋.toNat else 1

inductive TimerKind where
  /-- The first, jittered beat. -/
  | firstBeat
  | invalidSession
  deriving DecidableEq, Repr

/-- A timer that fires once, with the number of the socket that it was set for. -/
structure Timer where
  kind : TimerKind
  due : ℚ
  socket : Nat
  deriving DecidableEq, Repr

/-- The timer of the beats, with when it fires next. -/
structure Interval where
  period : Nat
  due : ℚ
  socket : Nat
  deriving DecidableEq, Repr

/-! ## Frames -/

inductive GatewayOp where
  /-- With its interval, if that is a number. -/
  | hello (heartbeat_interval : Option ℚ)
  | heartbeatAck
  | heartbeat
  | reconnect
  | invalidSession (resumable : Bool)
  | ready (session_id : Option String)
  | other
  deriving DecidableEq, Repr

structure GatewayPayload where
  s : Option Int
  op : GatewayOp
  deriving DecidableEq, Repr

inductive Outgoing where
  | heartbeat (d : Option Int)
  | identify
  | resume (session_id : String) (seq : Int)
  deriving DecidableEq, Repr

/-- What is seen of a gateway from outside; a send or a request may come from a timer, which was
set for a certain socket. -/
inductive Entry where
  | hello (time : ℚ) (socket : Nat) (interval : ℚ)
  | acknowledged (time : ℚ) (socket : Nat)
  | sent (time : ℚ) (socket : Nat) (timer : Option Nat) (payload : Outgoing)
  | asked (time : ℚ) (socket : Option Nat) (timer : Option Nat) (reason : String)
  | lost (time : ℚ) (socket : Nat)
  deriving DecidableEq, Repr

def NO_HEARTBEAT_ACK : String := "no heartbeat ack"

/-- Closes that invalidate the session. -/
def SESSION_LOST_CLOSE_CODES : List Nat := [4007, 4009]

/-- Bounds of the wait after an invalid session. -/
def INVALID_SESSION_DELAY_MIN : ℚ := 1000
def INVALID_SESSION_DELAY_MAX : ℚ := 5000

/-! ## The handler -/

/-- Sockets are numbered as they are dialled; the log has its newest entry first. -/
structure Gateway where
  now : ℚ
  socket : Option Nat
  dialed : Nat
  sessionId : Option String
  sequence : Option Int
  heartbeatTimer : Option Interval
  awaitingAck : Bool
  timers : List Timer
  log : List Entry
  deriving DecidableEq, Repr

def createDiscordGateway : Gateway where
  now := 0
  socket := none
  dialed := 0
  sessionId := none
  sequence := none
  heartbeatTimer := none
  awaitingAck := false
  timers := []
  log := []

namespace Gateway

def note (gateway : Gateway) (entry : Entry) : Gateway :=
  { gateway with log := entry :: gateway.log }

def clearHeartbeat (gateway : Gateway) : Gateway :=
  { gateway with heartbeatTimer := none, awaitingAck := false }

def dropSession (gateway : Gateway) : Gateway :=
  { gateway with sessionId := none, sequence := none }

def onDisconnect (gateway : Gateway) (code : Nat) : Gateway :=
  let gateway := gateway.clearHeartbeat
  if code ∈ SESSION_LOST_CLOSE_CODES then gateway.dropSession else gateway

/-! ## The handle of the socket -/

def teardown (gateway : Gateway) (code : Nat) : Gateway :=
  match gateway.socket with
  | none => gateway
  | some _ => { gateway with socket := none }.onDisconnect code

/-- The socket is lost without a request of the handler. -/
def lose (gateway : Gateway) (code : Nat) : Gateway :=
  match gateway.socket with
  | none => gateway
  | some socket => (gateway.note (.lost gateway.now socket)).teardown code

def reconnect (gateway : Gateway) (timer : Option Nat) (reason : String) : Gateway :=
  (gateway.note (.asked gateway.now gateway.socket timer reason)).teardown 0

def send (gateway : Gateway) (timer : Option Nat) (payload : Outgoing) (throws : Bool) : Gateway :=
  match gateway.socket with
  | none => gateway
  | some socket =>
      if throws then gateway.lose 0
      else gateway.note (.sent gateway.now socket timer payload)

/-! ## Heartbeats -/

def beat (gateway : Gateway) (timer : Nat) (throws : Bool) : Gateway :=
  if gateway.awaitingAck then gateway.reconnect (some timer) NO_HEARTBEAT_ACK
  else { gateway with awaitingAck := true }.send (some timer) (.heartbeat gateway.sequence) throws

/-- `Math.round(Math.random() * intervalMs)`, as a timer waits it. -/
def firstBeatDelay (intervalMs random : ℚ) : Nat := timerDelay ⌊random * intervalMs + 1 / 2⌋

def startHeartbeat (gateway : Gateway) (socket : Nat) (intervalMs random : ℚ) : Gateway :=
  let gateway := gateway.clearHeartbeat
  { gateway with
    timers := gateway.timers ++
      [⟨.firstBeat, gateway.now + firstBeatDelay intervalMs random, socket⟩]
    heartbeatTimer := some ⟨timerDelay intervalMs, gateway.now + timerDelay intervalMs, socket⟩ }

def resumeOrIdentify (gateway : Gateway) (throws : Bool) : Gateway :=
  match gateway.sessionId, gateway.sequence with
  | some sessionId, some sequence => gateway.send none (.resume sessionId sequence) throws
  | some _, none => gateway.send none .identify throws
  | none, _ => gateway.send none .identify throws

def onMessage (gateway : Gateway) (socket : Nat) (frame : GatewayPayload) (random : ℚ)
    (throws : Bool) : Gateway :=
  let gateway := { gateway with sequence := frame.s.or gateway.sequence }
  match frame.op with
  | .hello none => gateway.reconnect none "hello without a heartbeat interval"
  | .hello (some interval) =>
      if interval ≤ 0 then gateway.reconnect none "hello without a heartbeat interval"
      else
        (((gateway.note (.hello gateway.now socket interval)).startHeartbeat socket interval
          random).resumeOrIdentify throws)
  | .heartbeatAck =>
      { gateway with awaitingAck := false }.note (.acknowledged gateway.now socket)
  | .heartbeat =>
      { gateway with awaitingAck := false }.send none (.heartbeat gateway.sequence) throws
  | .reconnect => gateway.reconnect none "gateway asked for a reconnect"
  | .invalidSession resumable =>
      let gateway := if resumable then gateway else gateway.dropSession
      let delay := INVALID_SESSION_DELAY_MIN +
        random * (INVALID_SESSION_DELAY_MAX - INVALID_SESSION_DELAY_MIN)
      { gateway with
        timers := gateway.timers ++ [⟨.invalidSession, gateway.now + timerDelay delay, socket⟩] }
  | .ready session_id => { gateway with sessionId := session_id }
  | .other => gateway

def stop (gateway : Gateway) : Gateway :=
  (gateway.clearHeartbeat.dropSession).lose 1000

/-! ## Runs -/

/-- The body of a timer that fires. -/
def fire (gateway : Gateway) (timer : Timer) (throws : Bool) : Gateway :=
  match timer.kind with
  | .firstBeat =>
      if gateway.heartbeatTimer = none then gateway else gateway.beat timer.socket throws
  | .invalidSession => gateway.reconnect (some timer.socket) "invalid session"

/-- Time does not pass by a timer. -/
def Awaits (gateway : Gateway) (time : ℚ) : Prop :=
  gateway.now ≤ time ∧ (∀ timer ∈ gateway.timers, time ≤ timer.due) ∧
    ∀ interval ∈ gateway.heartbeatTimer, time ≤ interval.due

instance (gateway : Gateway) (time : ℚ) : Decidable (gateway.Awaits time) :=
  inferInstanceAs (Decidable (_ ∧ _ ∧ ∀ interval ∈ gateway.heartbeatTimer, time ≤ interval.due))

end Gateway

inductive GatewayEvent where
  | passes (time : ℚ)
  /-- Another socket was dialled. -/
  | dials
  /-- A frame of the socket, with the random number and the luck of a send that follows. -/
  | frame (payload : GatewayPayload) (random : ℚ) (throws : Bool)
  | closes (code : Nat)
  | stops
  | interval (throws : Bool)
  | timer (timer : Timer) (throws : Bool)
  deriving DecidableEq, Repr

/-- The next state of a gateway; events that cannot happen have none. -/
def Gateway.perform (gateway : Gateway) : GatewayEvent → Option Gateway
  | .passes time => if gateway.Awaits time then some { gateway with now := time } else none
  | .dials =>
      match gateway.socket with
      | none => some { gateway with socket := some gateway.dialed, dialed := gateway.dialed + 1 }
      | some _ => none
  | .frame payload random throws =>
      match gateway.socket with
      | none => none
      | some socket =>
          if 0 ≤ random ∧ random < 1 then some (gateway.onMessage socket payload random throws)
          else none
  | .closes code =>
      match gateway.socket with
      | none => none
      | some _ => some (gateway.lose code)
  | .stops => some gateway.stop
  | .interval throws =>
      match gateway.heartbeatTimer with
      | none => none
      | some interval =>
          if interval.due ≤ gateway.now then
            some ({ gateway with
              heartbeatTimer := some { interval with due := interval.due + interval.period }
              }.beat interval.socket throws)
          else none
  | .timer timer throws =>
      if timer ∈ gateway.timers ∧ timer.due ≤ gateway.now then
        some ({ gateway with timers := gateway.timers.erase timer }.fire timer throws)
      else none

/-- The gateway after some events. -/
def gatewayAfter (events : List GatewayEvent) : Gateway :=
  System.performAll Gateway.perform createDiscordGateway events

/-! ## Healthy and dead connections -/

/-- Times of the heartbeats of a socket that were not acknowledged since. -/
def unacknowledged (socket : Nat) : List Entry → List ℚ
  | [] => []
  | .sent time other _ (.heartbeat _) :: log =>
      if other = socket then time :: unacknowledged socket log else unacknowledged socket log
  | .sent _ _ _ .identify :: log => unacknowledged socket log
  | .sent _ _ _ (.resume _ _) :: log => unacknowledged socket log
  | .acknowledged _ other :: log =>
      if other = socket then [] else unacknowledged socket log
  | .hello _ _ _ :: log => unacknowledged socket log
  | .asked _ _ _ _ :: log => unacknowledged socket log
  | .lost _ _ :: log => unacknowledged socket log

/-- No heartbeat of a socket waits for its acknowledgement longer than the latency. -/
def Gateway.Prompt (latency : ℚ) (socket : Nat) (gateway : Gateway) : Prop :=
  gateway.socket = some socket →
    ∀ time ∈ unacknowledged socket gateway.log, gateway.now ≤ time + latency

instance (latency : ℚ) (socket : Nat) (gateway : Gateway) :
    Decidable (gateway.Prompt latency socket) :=
  inferInstanceAs (Decidable (_ → ∀ time ∈ unacknowledged socket gateway.log, _))

/-- The server acknowledges every heartbeat of a socket within the latency. -/
def Acknowledges (latency : ℚ) (socket : Nat) (events : List GatewayEvent) : Prop :=
  System.Throughout Gateway.perform (Gateway.Prompt latency socket) createDiscordGateway events

/-- A hello of a socket meets a condition. -/
def OnHello (socket : Nat) (condition : Gateway → ℚ → ℚ → Prop) (gateway : Gateway) :
    GatewayEvent → Prop
  | .frame ⟨_, .hello (some interval)⟩ random _ =>
      gateway.socket = some socket → 0 < interval → condition gateway interval random
  | .frame ⟨_, .hello none⟩ _ _ => True
  | .frame ⟨_, .heartbeatAck⟩ _ _ => True
  | .frame ⟨_, .heartbeat⟩ _ _ => True
  | .frame ⟨_, .reconnect⟩ _ _ => True
  | .frame ⟨_, .invalidSession _⟩ _ _ => True
  | .frame ⟨_, .ready _⟩ _ _ => True
  | .frame ⟨_, .other⟩ _ _ => True
  | .passes _ => True
  | .dials => True
  | .closes _ => True
  | .stops => True
  | .interval _ => True
  | .timer _ _ => True

instance {socket : Nat} {condition : Gateway → ℚ → ℚ → Prop}
    [∀ gateway interval random, Decidable (condition gateway interval random)]
    (gateway : Gateway) : DecidablePred (OnHello socket condition gateway)
  | .frame ⟨_, .hello (some interval)⟩ random _ =>
      inferInstanceAs (Decidable (gateway.socket = some socket → 0 < interval →
        condition gateway interval random))
  | .frame ⟨_, .hello none⟩ _ _ => isTrue trivial
  | .frame ⟨_, .heartbeatAck⟩ _ _ => isTrue trivial
  | .frame ⟨_, .heartbeat⟩ _ _ => isTrue trivial
  | .frame ⟨_, .reconnect⟩ _ _ => isTrue trivial
  | .frame ⟨_, .invalidSession _⟩ _ _ => isTrue trivial
  | .frame ⟨_, .ready _⟩ _ _ => isTrue trivial
  | .frame ⟨_, .other⟩ _ _ => isTrue trivial
  | .passes _ => isTrue trivial
  | .dials => isTrue trivial
  | .closes _ => isTrue trivial
  | .stops => isTrue trivial
  | .interval _ => isTrue trivial
  | .timer _ _ => isTrue trivial

/-- No reconnect of a socket was asked for because an acknowledgement was missing. -/
def NoAlarm (socket : Nat) (log : List Entry) : Prop :=
  ∀ entry ∈ log, ∀ time timer, entry ≠ .asked time (some socket) timer NO_HEARTBEAT_ACK

/-- A reconnect of a socket was asked for in time, or it ended otherwise before. -/
def Entry.Notices (socket : Nat) (deadline : ℚ) : Entry → Prop
  | .asked time other _ _ => other = some socket ∧ time ≤ deadline
  | .lost time other => other = socket ∧ time ≤ deadline
  | .hello _ _ _ => False
  | .acknowledged _ _ => False
  | .sent _ _ _ _ => False

/-- Two intervals after a hello that no acknowledgement followed, the socket is given up. -/
def NoticesDead (socket : Nat) (gateway : Gateway) : Prop :=
  ∀ newer time interval older, gateway.log = newer ++ .hello time socket interval :: older →
    (∀ acknowledged, .acknowledged acknowledged socket ∉ newer) →
      time + 2 * interval < gateway.now →
        ∃ entry ∈ newer, entry.Notices socket (time + 2 * interval)

/-- What a timer does, it does to the socket that it was set for. -/
def Entry.OwnTimer : Entry → Prop
  | .sent _ socket timer _ => ∀ origin ∈ timer, origin = socket
  | .asked _ socket timer _ => ∀ origin ∈ timer, ∀ current ∈ socket, origin = current
  | .hello _ _ _ => True
  | .acknowledged _ _ => True
  | .lost _ _ => True

/-- In a run whose events meet the conditions, a healthy connection is kept, a dead one is noticed
and timers keep to their socket. -/
structure HeartbeatWorks (healthy : ℚ → Nat → Gateway → GatewayEvent → Prop)
    (noticed : Nat → Gateway → GatewayEvent → Prop) (apart : Gateway → GatewayEvent → Prop)
    (latency : ℚ) (socket : Nat) (events : List GatewayEvent) : Prop where
  noAlarm : Acknowledges latency socket events →
    System.AllAlong Gateway.perform (healthy latency socket) createDiscordGateway events →
      NoAlarm socket (gatewayAfter events).log
  noticesDead : System.AllAlong Gateway.perform (noticed socket) createDiscordGateway events →
    NoticesDead socket (gatewayAfter events)
  ownTimer : System.AllAlong Gateway.perform apart createDiscordGateway events →
    ∀ entry ∈ (gatewayAfter events).log, entry.OwnTimer

/-! ## Conditions -/

/-- The interval of a hello is longer than the latency. -/
def LongerThan (latency : ℚ) (socket : Nat) : Gateway → GatewayEvent → Prop :=
  OnHello socket fun _ interval _ => latency < interval

/-- How far the first beat is from the nearest of the beats that come each period. -/
def beatGap (first period : Nat) : Nat :=
  if first < period then period - first else min (first % period) (period - first % period)

/-- A first beat is not yet over. -/
def Gateway.FirstBeatPending (gateway : Gateway) : Prop :=
  ∃ timer ∈ gateway.timers, timer.kind = .firstBeat

/-- An acknowledgement arrives between two beats, and no first beat of an earlier hello comes. -/
def Spaced (latency : ℚ) (socket : Nat) : Gateway → GatewayEvent → Prop :=
  OnHello socket fun gateway interval random =>
    latency < beatGap (Gateway.firstBeatDelay interval random) (timerDelay interval) ∧
      ¬gateway.FirstBeatPending

def asksForHeartbeat : GatewayEvent → Bool
  | .frame ⟨_, .heartbeat⟩ _ _ => true
  | .frame ⟨_, .hello _⟩ _ _ => false
  | .frame ⟨_, .heartbeatAck⟩ _ _ => false
  | .frame ⟨_, .reconnect⟩ _ _ => false
  | .frame ⟨_, .invalidSession _⟩ _ _ => false
  | .frame ⟨_, .ready _⟩ _ _ => false
  | .frame ⟨_, .other⟩ _ _ => false
  | .passes _ => false
  | .dials => false
  | .closes _ => false
  | .stops => false
  | .interval _ => false
  | .timer _ _ => false

/-- A hello of at least half a millisecond comes once, and the server asks for no heartbeat while
it owes an acknowledgement. -/
def Undisturbed (socket : Nat) (gateway : Gateway) (event : GatewayEvent) : Prop :=
  OnHello socket (fun gateway interval _ => gateway.heartbeatTimer = none ∧ 1 / 2 ≤ interval)
      gateway event ∧
    (asksForHeartbeat event = true → gateway.socket = some socket → gateway.awaitingAck = false)

/-- Timers of earlier sockets are over: first beats at a hello, and waits after an invalid session
when a socket is dialled. -/
def TimersOver (gateway : Gateway) (event : GatewayEvent) : Prop :=
  (∀ socket ∈ gateway.socket, OnHello socket (fun gateway _ _ => ∀ timer ∈ gateway.timers,
      timer.kind = .firstBeat → timer.socket = socket) gateway event) ∧
    (event = .dials → ∀ timer ∈ gateway.timers, timer.kind ≠ .invalidSession)

section Decidable

variable (latency : ℚ) (socket : Nat) (gateway : Gateway) (event : GatewayEvent)

instance : Decidable (LongerThan latency socket gateway event) :=
  inferInstanceAs (Decidable (OnHello socket (fun _ interval _ => latency < interval) gateway
    event))

instance : Decidable gateway.FirstBeatPending :=
  inferInstanceAs (Decidable (∃ timer ∈ gateway.timers, timer.kind = .firstBeat))

instance : Decidable (Spaced latency socket gateway event) :=
  inferInstanceAs (Decidable (OnHello socket (fun gateway interval random =>
    latency < beatGap (Gateway.firstBeatDelay interval random) (timerDelay interval) ∧
      ¬gateway.FirstBeatPending) gateway event))

instance : Decidable (Undisturbed socket gateway event) :=
  inferInstanceAs (Decidable (OnHello socket (fun gateway interval _ =>
    gateway.heartbeatTimer = none ∧ 1 / 2 ≤ interval) gateway event ∧ _))

instance : Decidable (TimersOver gateway event) :=
  inferInstanceAs (Decidable ((∀ socket ∈ gateway.socket, OnHello socket (fun gateway _ _ =>
    ∀ timer ∈ gateway.timers, timer.kind = .firstBeat → timer.socket = socket) gateway event) ∧ _))

end Decidable

end DiscordGateway

end Reputo.Community
