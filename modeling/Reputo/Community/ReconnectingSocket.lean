import Mathlib.Data.List.Basic
import Reputo.Library.System

/-!
# One socket kept open

A feed dials a socket, passes its frames to a protocol handler, and dials again when the
socket is lost.  Where to dial is asked for each attempt, and the answer may take long; all
else happens at once, so that a run of a feed is a sequence of events.
-/

namespace Reputo.Community

open Reputo.Library

namespace ReconnectingSocket

def NORMAL_CLOSURE : Nat := 1000

inductive CommunityRealtimeState where
  | stopped
  | connecting
  | live
  | retrying
  | fatal
  deriving DecidableEq, Repr

inductive ReadyState where
  | connecting
  | open
  | closing
  | closed
  deriving DecidableEq, Repr

/-- A socket that was dialled: the generation that its handlers remember, and whether it still
has handlers. -/
structure WebSocket where
  mine : Nat
  attached : Bool
  readyState : ReadyState
  deriving DecidableEq, Repr

/-- What a feed tells the protocol handler and the listeners, and what it dials. -/
inductive Delivery where
  | state (next : CommunityRealtimeState)
  | dialed (socket : Nat)
  | opened (socket : Nat)
  | frame (socket : Nat) (payload : String)
  | disconnected (code : Nat) (reason : String)
  deriving DecidableEq, Repr

/-- Without `isFatalClose` no close is fatal. -/
structure ReconnectingSocketOptions where
  isFatalClose : Nat → String → Bool
  idleTimeoutMs : Nat

/-- Timers are pending or not; `connecting` counts the attempts that wait for their target. -/
structure Feed where
  socket : Option Nat
  state : CommunityRealtimeState
  attempt : Nat
  reconnectTimer : Bool
  idleTimer : Bool
  stopped : Bool
  generation : Nat
  connecting : Nat
  sockets : List WebSocket
  listeners : Nat
  delivered : List Delivery
  deriving DecidableEq, Repr

inductive FeedEvent where
  | start
  | stop
  | subscribed
  | unsubscribed
  /-- A target was resolved, and the socket could be made or not. -/
  | resolved (made : Bool)
  | rejected
  | socketOpens (socket : Nat)
  /-- A frame, with its text if it has one. -/
  | message (socket : Nat) (data : Option String)
  | closes (socket : Nat) (code : Nat) (reason : String)
  | idleTimer
  | reconnectTimer
  | send (throws : Bool)
  | markLive
  | reconnect (reason : String)
  deriving DecidableEq, Repr

def createReconnectingSocket : Feed where
  socket := none
  state := .stopped
  attempt := 0
  reconnectTimer := false
  idleTimer := false
  stopped := true
  generation := 0
  connecting := 0
  sockets := []
  listeners := 0
  delivered := []

/-- Closes that Discord will keep refusing. -/
def FATAL_CLOSE_CODES : List Nat := [4004, 4010, 4011, 4012, 4013, 4014]

def createDiscordGateway : ReconnectingSocketOptions where
  isFatalClose code _ := decide (code ∈ FATAL_CLOSE_CODES)
  idleTimeoutMs := 120000

namespace Feed

def deliver (feed : Feed) (delivery : Delivery) : Feed :=
  { feed with delivered := feed.delivered ++ [delivery] }

def emitState (feed : Feed) (next : CommunityRealtimeState) : Feed :=
  if feed.listeners = 0 then feed else feed.deliver (.state next)

def setState (feed : Feed) (next : CommunityRealtimeState) : Feed :=
  if feed.state = next then feed else { feed with state := next }.emitState next

def clearIdleWatchdog (feed : Feed) : Feed :=
  { feed with idleTimer := false }

def armIdleWatchdog (options : ReconnectingSocketOptions) (feed : Feed) : Feed :=
  if options.idleTimeoutMs = 0 then feed else { feed with idleTimer := true }

/-- The handlers are taken off a socket, and it is closed. -/
def release (feed : Feed) (socket : Nat) : Feed :=
  { feed with sockets := feed.sockets.modify socket fun current =>
      { current with attached := false, readyState := .closing } }

def teardown (feed : Feed) (code : Nat) (reason : String) : Feed :=
  let feed := { feed with generation := feed.generation + 1 }.clearIdleWatchdog
  match feed.socket with
  | none => feed
  | some current =>
      ({ feed with socket := none }.deliver (.disconnected code reason)).release current

def scheduleReconnect (feed : Feed) : Feed :=
  if feed.stopped ∨ feed.reconnectTimer then feed
  else { ({ feed with attempt := feed.attempt + 1 }.setState .retrying) with
    reconnectTimer := true }

def dropAndRetry (feed : Feed) (reason : String) (code : Nat) : Feed :=
  if feed.stopped then feed else (feed.teardown code reason).scheduleReconnect

/-! ## The handle of the protocol handler -/

def send (feed : Feed) (throws : Bool) : Feed :=
  match feed.socket.bind (feed.sockets[·]?) with
  | none => feed
  | some current =>
      if current.readyState ≠ .open then feed
      else if throws then feed.dropAndRetry "send failed" 0 else feed

def markLive (feed : Feed) : Feed :=
  { feed with attempt := 0 }.setState .live

def reconnect (feed : Feed) (reason : String) : Feed :=
  feed.dropAndRetry reason 0

/-! ## Attempts -/

/-- An attempt up to where it waits for its target. -/
def connect (feed : Feed) : Feed :=
  if feed.stopped then feed
  else
    let feed := feed.setState .connecting
    { feed with connecting := feed.connecting + 1 }

/-- An attempt after it waited in vain. -/
def connectRejected (feed : Feed) : Feed :=
  { feed with connecting := feed.connecting - 1 }.scheduleReconnect

/-- An attempt with its target: the generation is read only here. -/
def connectResolved (feed : Feed) (made : Bool) : Feed :=
  let feed := { feed with connecting := feed.connecting - 1 }
  if feed.stopped then feed
  else if made then
    let current : WebSocket := ⟨feed.generation, true, .connecting⟩
    { feed with
      sockets := feed.sockets ++ [current]
      socket := some feed.sockets.length }.deliver (.dialed feed.sockets.length)
  else feed.scheduleReconnect

/-! ## Handlers of a socket -/

/-- The handlers of a socket run and do not return at once. -/
def Hears (feed : Feed) (current : WebSocket) : Prop :=
  current.attached = true ∧ current.mine = feed.generation

instance (feed : Feed) (current : WebSocket) : Decidable (feed.Hears current) :=
  inferInstanceAs (Decidable (_ ∧ _))

def withReadyState (feed : Feed) (socket : Nat) (readyState : ReadyState) : Feed :=
  { feed with sockets := feed.sockets.modify socket fun current => { current with readyState } }

def onopen (options : ReconnectingSocketOptions) (feed : Feed) (socket : Nat) : Feed :=
  (feed.armIdleWatchdog options).deliver (.opened socket)

def onmessage (options : ReconnectingSocketOptions) (feed : Feed) (socket : Nat)
    (data : Option String) : Feed :=
  let feed := feed.armIdleWatchdog options
  match data with
  | none => feed
  | some payload => feed.deliver (.frame socket payload)

def onclose (options : ReconnectingSocketOptions) (feed : Feed) (code : Nat) (reason : String) :
    Feed :=
  if options.isFatalClose code reason then (feed.teardown code reason).setState .fatal
  else feed.dropAndRetry s!"closed with {code}" code

/-! ## Control -/

def start (feed : Feed) : Feed :=
  if feed.stopped then { feed with stopped := false, attempt := 0 }.connect else feed

def stop (feed : Feed) : Feed :=
  { ((({ feed with stopped := true, reconnectTimer := false }).teardown NORMAL_CLOSURE
    "stopped").setState .stopped) with listeners := 0 }

/-- The next state of a feed; events that cannot happen have none. -/
def perform (options : ReconnectingSocketOptions) (feed : Feed) : FeedEvent → Option Feed
  | .start => some feed.start
  | .stop => some feed.stop
  | .subscribed => some { feed with listeners := feed.listeners + 1 }
  | .unsubscribed => some { feed with listeners := feed.listeners - 1 }
  | .resolved made => if feed.connecting = 0 then none else some (feed.connectResolved made)
  | .rejected => if feed.connecting = 0 then none else some feed.connectRejected
  | .socketOpens socket =>
      match feed.sockets[socket]? with
      | none => none
      | some current =>
          let feed := feed.withReadyState socket .open
          some (if feed.Hears current then feed.onopen options socket else feed)
  | .message socket data =>
      match feed.sockets[socket]? with
      | none => none
      | some current => some (if feed.Hears current then feed.onmessage options socket data else feed)
  | .closes socket code reason =>
      match feed.sockets[socket]? with
      | none => none
      | some current =>
          let feed := feed.withReadyState socket .closed
          some (if feed.Hears current then feed.onclose options code reason else feed)
  | .idleTimer =>
      if feed.idleTimer then some ({ feed with idleTimer := false }.dropAndRetry "idle timeout" 0)
      else none
  | .reconnectTimer =>
      if feed.reconnectTimer then some { feed with reconnectTimer := false }.connect else none
  | .send throws => some (feed.send throws)
  | .markLive => some feed.markLive
  | .reconnect reason => some (feed.reconnect reason)

end Feed

/-! ## One live feed -/

/-- The feed after some events. -/
def feedAfter (options : ReconnectingSocketOptions) (events : List FeedEvent) : Feed :=
  System.performAll (Feed.perform options) createReconnectingSocket events

/-- No two sockets have their frames delivered. -/
def Feed.AtMostOneFeeds (feed : Feed) : Prop :=
  ∀ (socket other : Nat) (first second : WebSocket), feed.sockets[socket]? = some first →
    feed.sockets[other]? = some second → feed.Hears first → feed.Hears second → socket = other

/-- A started feed without a socket waits for a timer, or for one attempt. -/
def Feed.Attempting (feed : Feed) : Prop :=
  feed.stopped = false → feed.state ≠ .fatal → feed.socket = none →
    feed.reconnectTimer = true ∨ feed.connecting = 1

/-- What a feed delivers until later is of a certain kind. -/
def Feed.OnlySays (kind : Delivery → Prop) (feed later : Feed) : Prop :=
  ∃ said, later.delivered = feed.delivered ++ said ∧ ∀ delivery ∈ said, kind delivery

/-- Neither a frame nor a change of the state, other than to stopped. -/
def Delivery.Quiet : Delivery → Prop
  | .state next => next = .stopped
  | .frame _ _ => False
  | .dialed _ => True
  | .opened _ => True
  | .disconnected _ _ => True

def Delivery.NotDialed : Delivery → Prop
  | .dialed _ => False
  | .state _ => True
  | .frame _ _ => True
  | .opened _ => True
  | .disconnected _ _ => True

/-- After a stop a feed is quiet until it is started. -/
def SilentWhenStopped (options : ReconnectingSocketOptions) (events : List FeedEvent) : Prop :=
  ∀ before between after, events = before ++ .stop :: between ++ after → .start ∉ between →
    (feedAfter options (before ++ [.stop])).OnlySays Delivery.Quiet
      (feedAfter options (before ++ .stop :: between))

/-- After a fatal close nothing is dialled until the feed is stopped and started. -/
def StaysDown (options : ReconnectingSocketOptions) (events : List FeedEvent) : Prop :=
  ∀ before between after, events = before ++ between ++ after →
    (feedAfter options before).state = .fatal → ¬[.stop, .start].Sublist between →
    (feedAfter options before).OnlySays Delivery.NotDialed
      (feedAfter options (before ++ between))

/-- The four properties of a run of a feed. -/
structure OneLiveFeed (options : ReconnectingSocketOptions) (events : List FeedEvent) : Prop where
  atMostOneFeeds : System.Throughout (Feed.perform options) Feed.AtMostOneFeeds
    createReconnectingSocket events
  attempting : System.Throughout (Feed.perform options) Feed.Attempting
    createReconnectingSocket events
  silent : SilentWhenStopped options events
  down : StaysDown options events

/-- An attempt starts while none is under way and no socket is up; after a fatal close there is
neither a pending reconnect nor a request for one; and a feed is not marked live after a fatal
close, or before listeners while it is stopped. -/
def Feed.InTurn (feed : Feed) : FeedEvent → Prop
  | .start => feed.stopped = true → feed.connecting = 0
  | .reconnectTimer => feed.connecting = 0 ∧ feed.socket = none ∧ feed.state ≠ .fatal
  | .reconnect _ => feed.stopped = true ∨ feed.state ≠ .fatal ∨ feed.reconnectTimer = true
  | .markLive =>
      if feed.stopped then feed.listeners = 0 ∨ feed.state = .live else feed.state ≠ .fatal
  | .stop => True
  | .subscribed => True
  | .unsubscribed => True
  | .resolved _ => True
  | .rejected => True
  | .socketOpens _ => True
  | .message _ _ => True
  | .closes _ _ _ => True
  | .idleTimer => True
  | .send _ => True

instance (feed : Feed) : DecidablePred feed.InTurn
  | .start => inferInstanceAs (Decidable (feed.stopped = true → feed.connecting = 0))
  | .reconnectTimer => inferInstanceAs (Decidable (feed.connecting = 0 ∧ _))
  | .reconnect _ => inferInstanceAs (Decidable (feed.stopped = true ∨ _))
  | .markLive => inferInstanceAs (Decidable (if feed.stopped then _ else _))
  | .stop => isTrue trivial
  | .subscribed => isTrue trivial
  | .unsubscribed => isTrue trivial
  | .resolved _ => isTrue trivial
  | .rejected => isTrue trivial
  | .socketOpens _ => isTrue trivial
  | .message _ _ => isTrue trivial
  | .closes _ _ _ => isTrue trivial
  | .idleTimer => isTrue trivial
  | .send _ => isTrue trivial

end ReconnectingSocket

end Reputo.Community
