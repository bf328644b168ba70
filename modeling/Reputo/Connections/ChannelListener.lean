import Reputo.Library.JsText
import Reputo.Library.System

/-!
# A listener on one channel

A listener keeps a connection of its own on which it waits for notifications, and makes a new
one when the connection is lost.  What it waits for is a list of tasks, each of which goes on
when its answer arrives; the answers, the events of connections and the timers come in any
order.
-/

namespace Reputo.Connections

open Reputo.Library

namespace PostgresChannelListener

def INITIAL_RECONNECT_DELAY_MS : Nat := 500
def MAX_RECONNECT_DELAY_MS : Nat := 30000

/-- Whether the handlers are on a client, whether it was asked to end, and whether it was
answered that it listens. -/
structure Client where
  attached : Bool
  ended : Bool
  listening : Bool
  deriving DecidableEq, Repr

/-- What is done after the current client was disconnected: a check also ends then. -/
inductive AfterDisconnect where
  | scheduleReconnect
  | check
  | destroy
  deriving DecidableEq, Repr

/-- A call that waits for an answer. -/
inductive Task where
  | connect (client : Nat)
  | listen (client : Nat)
  | check (client : Nat)
  | disconnect (after : AfterDisconnect)
  deriving DecidableEq, Repr

/-- The timer of the next attempt is kept with its delay, that of the checks with the client it
checks; `clients` are all clients that were ever made. -/
structure Listener where
  channel : String
  client : Option Nat
  reconnectTimer : Option Nat
  healthTimer : Option Nat
  checking : Bool
  reconnectDelay : Nat
  destroyed : Bool
  completed : Bool
  clients : List Client
  tasks : List Task
  delivered : List String
  deriving DecidableEq, Repr

inductive ListenerEvent where
  | onModuleDestroy
  | notification (client : Nat) (channel : String) (payload : Option String)
  | error (client : Nat)
  | ends (client : Nat)
  /-- The answer to a task: what was asked for was done, or failed. -/
  | settles (task : Task) (done : Bool)
  | reconnectTimer
  | healthTimer
  deriving DecidableEq, Repr

namespace Listener

def await (listener : Listener) (task : Task) : Listener :=
  { listener with tasks := listener.tasks ++ [task] }

def connect (listener : Listener) : Listener :=
  if listener.destroyed then listener
  else
    let made : Client := ⟨true, false, false⟩
    { listener with
      client := some listener.clients.length
      clients := listener.clients ++ [made] }.await (.connect listener.clients.length)

/-- The handlers are taken off the client, if there is one, and it is asked to end. -/
def release (clients : List Client) : Option Nat → List Client
  | none => clients
  | some client => clients.modify client fun current =>
      { current with attached := false, ended := true }

/-- The current client is given up.  A task stands for the wait until it has ended, and also for
the turn that passes where there is none. -/
def disconnect (listener : Listener) (after : AfterDisconnect) : Listener :=
  { listener with
    healthTimer := none
    client := none
    clients := release listener.clients listener.client }.await (.disconnect after)

def scheduleReconnect (listener : Listener) : Listener :=
  if listener.destroyed ∨ listener.reconnectTimer.isSome then listener
  else { listener with
    reconnectTimer := some listener.reconnectDelay
    reconnectDelay := min (listener.reconnectDelay * 2) MAX_RECONNECT_DELAY_MS }

def recover (listener : Listener) : Listener :=
  if listener.destroyed then listener else listener.disconnect .scheduleReconnect

def handleEnd (listener : Listener) : Listener :=
  if listener.destroyed then listener else listener.recover

def onModuleDestroy (listener : Listener) : Listener :=
  { listener with destroyed := true, reconnectTimer := none, completed := true }.disconnect .destroy

/-- A completed subject passes nothing on. -/
def next (listener : Listener) (payload : String) : Listener :=
  if listener.completed then listener
  else { listener with delivered := listener.delivered ++ [payload] }

def handleNotification (listener : Listener) (channel : String) (payload : Option String) :
    Listener :=
  if channel ≠ listener.channel then listener
  else
    match JsText.truthyText (payload.map JsText.trim) with
    | none => listener
    | some payload => listener.next payload

def checkConnection (listener : Listener) (client : Nat) : Listener :=
  if listener.destroyed ∨ listener.client ≠ some client ∨ listener.checking then listener
  else { listener with checking := true }.await (.check client)

/-- `LISTEN` was answered: the client is checked from now on. -/
def listens (listener : Listener) (client : Nat) : Listener :=
  { listener with
    reconnectDelay := INITIAL_RECONNECT_DELAY_MS
    healthTimer := some client
    clients := listener.clients.modify client fun current => { current with listening := true } }

/-- A task goes on with its answer. -/
def proceed (listener : Listener) (done : Bool) : Task → Listener
  | .connect client =>
      if done then listener.await (.listen client) else listener.disconnect .scheduleReconnect
  | .listen client =>
      if done then listener.listens client else listener.disconnect .scheduleReconnect
  | .check _ =>
      if done ∨ listener.destroyed then { listener with checking := false }
      else listener.disconnect .check
  | .disconnect .scheduleReconnect => listener.scheduleReconnect
  | .disconnect .check => { listener.scheduleReconnect with checking := false }
  | .disconnect .destroy => listener

/-- An event of a client reaches its handlers, if it has them. -/
def heard (listener : Listener) (client : Nat) (handler : Listener → Listener) :
    Option Listener :=
  match listener.clients[client]? with
  | none => none
  | some current => some (if current.attached then handler listener else listener)

/-- The next state of a listener; events that cannot happen have none. -/
def perform (listener : Listener) : ListenerEvent → Option Listener
  | .onModuleDestroy => some listener.onModuleDestroy
  | .notification client channel payload =>
      listener.heard client (·.handleNotification channel payload)
  | .error client => listener.heard client recover
  | .ends client => listener.heard client handleEnd
  | .settles task done =>
      if task ∈ listener.tasks then
        some ({ listener with tasks := listener.tasks.erase task }.proceed done task)
      else none
  | .reconnectTimer =>
      listener.reconnectTimer.map fun _ => { listener with reconnectTimer := none }.connect
  | .healthTimer => listener.healthTimer.map listener.checkConnection

/-- A listener after `onModuleInit`. -/
def onModuleInit (channel : String) : Listener :=
  ({ channel, client := none, reconnectTimer := none, healthTimer := none, checking := false
     reconnectDelay := INITIAL_RECONNECT_DELAY_MS, destroyed := false, completed := false
     clients := [], tasks := [], delivered := [] } : Listener).connect

/-! ## Clients that are open -/

/-- A client that was not asked to end. -/
def IsOpen (clients : List Client) (client : Nat) : Prop :=
  ∃ current ∈ clients[client]?, current.ended = false

instance (clients : List Client) (client : Nat) : Decidable (IsOpen clients client) :=
  inferInstanceAs (Decidable (∃ current ∈ clients[client]?, current.ended = false))

theorem isOpen_release {clients : List Client} {released : Option Nat} {client : Nat} :
    IsOpen (release clients released) client ↔ IsOpen clients client ∧ released ≠ some client := by
  cases released with
  | none => simp [release]
  | some other =>
      simp only [IsOpen, release, List.getElem?_modify, Option.mem_def,
        ne_eq, Option.some.injEq]
      by_cases same : other = client
      · simp [same]
      · simp [same]

theorem isOpen_append {clients : List Client} {made : Client} (fresh : made.ended = false)
    {client : Nat} :
    IsOpen (clients ++ [made]) client ↔ IsOpen clients client ∨ client = clients.length := by
  rcases Nat.lt_trichotomy client clients.length with earlier | same | later
  · simp [IsOpen, List.getElem?_append_left earlier, Nat.ne_of_lt earlier]
  · simp [IsOpen, same, fresh]
  · simp [IsOpen, List.getElem?_append_right (Nat.le_of_lt later), Nat.ne_of_gt later,
      List.getElem?_eq_none (Nat.le_of_lt later), List.getElem?_eq_none
        (show [made].length ≤ client - clients.length by simp only [List.length_singleton]; omega)]

theorem isOpen_modify {clients : List Client} {client other : Nat} {change : Client → Client}
    (kept : ∀ current, (change current).ended = current.ended) :
    IsOpen (clients.modify other change) client ↔ IsOpen clients client := by
  simp only [IsOpen, List.getElem?_modify, Option.mem_def]
  by_cases same : other = client
  · simp [same, kept]
  · simp [same]

theorem isOpen_listens {listener : Listener} {client other : Nat} :
    IsOpen (listener.listens client).clients other ↔ IsOpen listener.clients other :=
  isOpen_modify fun _ => rfl

theorem length_release (clients : List Client) (released : Option Nat) :
    (release clients released).length = clients.length := by
  cases released with
  | none => rfl
  | some client => exact List.length_modify _ _ _

theorem heard_eq_some {listener after : Listener} {client : Nat} {handler : Listener → Listener} :
    listener.heard client handler = some after ↔ ∃ current,
      listener.clients[client]? = some current ∧
        after = if current.attached then handler listener else listener := by
  rw [heard]
  cases listener.clients[client]? with
  | none => simp
  | some current =>
      constructor
      · intro performed
        exact ⟨current, rfl, (Option.some.inj performed).symm⟩
      · rintro ⟨_, same, rfl⟩
        cases same
        rfl

end Listener

end PostgresChannelListener

end Reputo.Connections
