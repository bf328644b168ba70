import Reputo.Connections.ChannelListener

/-!
# Runs of a channel listener

However events, answers and timers interleave, a listener that was destroyed is silent, and its
open clients are its current one as long as the timer of an attempt never comes due while there
is a current client.  A listener that is not destroyed then listens, or will try again.
-/

namespace Reputo.Connections.PostgresChannelListener

open Reputo.Library

namespace Listener

variable {listener : Listener}

/-! ## What holds in every run -/

/-- What every event keeps. -/
structure Sound (listener : Listener) : Prop where
  current : ∀ client, listener.client = some client → IsOpen listener.clients client
  attached : ∀ current ∈ listener.clients, current.attached = !current.ended
  destroyed : listener.destroyed = true → listener.client = none ∧
    listener.reconnectTimer = none ∧ listener.completed = true
  delay : INITIAL_RECONNECT_DELAY_MS ≤ listener.reconnectDelay ∧
    listener.reconnectDelay ≤ MAX_RECONNECT_DELAY_MS
  timer : ∀ delay ∈ listener.reconnectTimer,
    INITIAL_RECONNECT_DELAY_MS ≤ delay ∧ delay ≤ MAX_RECONNECT_DELAY_MS

theorem initial_delay : INITIAL_RECONNECT_DELAY_MS ≤ INITIAL_RECONNECT_DELAY_MS ∧
    INITIAL_RECONNECT_DELAY_MS ≤ MAX_RECONNECT_DELAY_MS := by
  decide

namespace Sound

theorem await (sound : listener.Sound) (task : Task) : (listener.await task).Sound :=
  ⟨sound.current, sound.attached, sound.destroyed, sound.delay, sound.timer⟩

theorem settle (sound : listener.Sound) (task : Task) :
    Sound { listener with tasks := listener.tasks.erase task } :=
  ⟨sound.current, sound.attached, sound.destroyed, sound.delay, sound.timer⟩

theorem checked (sound : listener.Sound) (checking : Bool) :
    Sound { listener with checking := checking } :=
  ⟨sound.current, sound.attached, sound.destroyed, sound.delay, sound.timer⟩

theorem rung (sound : listener.Sound) : Sound { listener with reconnectTimer := none } := by
  refine ⟨sound.current, sound.attached, ?_, sound.delay, fun _ none => nomatch none⟩
  intro destroyed
  exact ⟨(sound.destroyed destroyed).1, rfl, (sound.destroyed destroyed).2.2⟩

theorem connect (sound : listener.Sound) : listener.connect.Sound := by
  rw [Listener.connect]
  split
  · exact sound
  · rename_i alive
    apply Sound.await
    refine ⟨?_, ?_, fun destroyed => absurd destroyed alive, sound.delay, sound.timer⟩
    · intro client same
      cases same
      exact (isOpen_append rfl).mpr (Or.inr rfl)
    · intro current member
      rcases List.mem_append.mp member with earlier | made
      · exact sound.attached current earlier
      · rw [List.mem_singleton.mp made]
        rfl

theorem disconnect (sound : listener.Sound) (after : AfterDisconnect) :
    (listener.disconnect after).Sound := by
  apply Sound.await
  refine ⟨fun _ none => (nomatch none), ?_, ?_, sound.delay, sound.timer⟩
  · intro current member
    cases same : listener.client with
    | none =>
        rw [same] at member
        exact sound.attached current member
    | some client =>
        rw [same] at member
        rcases List.mem_iff_getElem?.mp member with ⟨index, found⟩
        rw [release, List.getElem?_modify] at found
        rcases Option.map_eq_some_iff.mp found with ⟨before, held, changed⟩
        split at changed
        · rw [← changed]
          rfl
        · rw [← changed]
          exact sound.attached before (List.mem_of_getElem? held)
  · intro destroyed
    exact ⟨rfl, (sound.destroyed destroyed).2.1, (sound.destroyed destroyed).2.2⟩

theorem scheduleReconnect (sound : listener.Sound) : listener.scheduleReconnect.Sound := by
  rw [Listener.scheduleReconnect]
  split
  · exact sound
  · rename_i waits
    have alive := (not_or.mp waits).1
    refine ⟨sound.current, sound.attached, fun destroyed => absurd destroyed alive, ?_, ?_⟩
    · have := sound.delay
      simp only [INITIAL_RECONNECT_DELAY_MS, MAX_RECONNECT_DELAY_MS] at this ⊢
      omega
    · intro delay set
      cases set
      exact sound.delay

theorem recover (sound : listener.Sound) : listener.recover.Sound := by
  rw [Listener.recover]
  split
  · exact sound
  · exact sound.disconnect _

theorem handleEnd (sound : listener.Sound) : listener.handleEnd.Sound := by
  rw [Listener.handleEnd]
  split
  · exact sound
  · exact sound.recover

theorem handleNotification (sound : listener.Sound) (channel : String) (payload : Option String) :
    (listener.handleNotification channel payload).Sound := by
  rw [Listener.handleNotification]
  split
  · exact sound
  · split
    · exact sound
    · rw [next]
      split
      · exact sound
      · exact ⟨sound.current, sound.attached, sound.destroyed, sound.delay, sound.timer⟩

theorem checkConnection (sound : listener.Sound) (client : Nat) :
    (listener.checkConnection client).Sound := by
  rw [Listener.checkConnection]
  split
  · exact sound
  · exact (sound.checked true).await _

theorem onModuleDestroy (sound : listener.Sound) : listener.onModuleDestroy.Sound := by
  rw [Listener.onModuleDestroy, Listener.disconnect]
  have parts := (sound.disconnect .destroy)
  apply Sound.await
  exact ⟨fun _ none => (nomatch none), parts.attached, fun _ => ⟨rfl, rfl, rfl⟩, sound.delay,
    fun _ none => nomatch none⟩

theorem listens (sound : listener.Sound) (client : Nat) : (listener.listens client).Sound := by
  refine ⟨?_, ?_, sound.destroyed, initial_delay, sound.timer⟩
  · intro current same
    exact isOpen_listens.mpr (sound.current current same)
  · intro current member
    rcases List.mem_iff_getElem?.mp member with ⟨index, found⟩
    rw [Listener.listens, List.getElem?_modify] at found
    rcases Option.map_eq_some_iff.mp found with ⟨before, held, changed⟩
    have attached := sound.attached before (List.mem_of_getElem? held)
    split at changed
    · rw [← changed]
      exact attached
    · rw [← changed]
      exact attached

theorem proceed (sound : listener.Sound) (done : Bool) (task : Task) :
    (listener.proceed done task).Sound := by
  cases task with
  | connect client =>
      rw [Listener.proceed]
      split
      · exact sound.await _
      · exact sound.disconnect _
  | listen client =>
      rw [Listener.proceed]
      split
      · exact sound.listens client
      · exact sound.disconnect _
  | check client =>
      rw [Listener.proceed]
      split
      · exact sound.checked false
      · exact sound.disconnect _
  | disconnect after =>
      cases after with
      | scheduleReconnect => exact sound.scheduleReconnect
      | check => exact sound.scheduleReconnect.checked false
      | destroy => exact sound

theorem heard (sound : listener.Sound) {handler : Listener → Listener}
    (handles : (handler listener).Sound) {client : Nat} {after : Listener}
    (performed : listener.heard client handler = some after) : after.Sound := by
  rcases heard_eq_some.mp performed with ⟨_, _, rfl⟩
  split
  · exact handles
  · exact sound

/-- Every event keeps what is sound. -/
theorem perform (sound : listener.Sound) {event : ListenerEvent} {after : Listener}
    (performed : listener.perform event = some after) : after.Sound := by
  cases event with
  | onModuleDestroy =>
      cases performed
      exact sound.onModuleDestroy
  | notification client channel payload =>
      have heard : listener.heard client (·.handleNotification channel payload) = some after :=
        performed
      exact sound.heard (sound.handleNotification channel payload) heard
  | error client =>
      have heard : listener.heard client Listener.recover = some after := performed
      exact sound.heard sound.recover heard
  | ends client =>
      have heard : listener.heard client Listener.handleEnd = some after := performed
      exact sound.heard sound.handleEnd heard
  | settles task done =>
      rcases Option.ite_none_right_eq_some.mp performed with ⟨_, proceeded⟩
      cases proceeded
      exact (sound.settle task).proceed done task
  | reconnectTimer =>
      rcases Option.map_eq_some_iff.mp performed with ⟨_, _, rfl⟩
      exact sound.rung.connect
  | healthTimer =>
      rcases Option.map_eq_some_iff.mp performed with ⟨client, _, rfl⟩
      exact sound.checkConnection client

theorem performOr (sound : listener.Sound) (event : ListenerEvent) :
    (System.performOr Listener.perform listener event).Sound := by
  rw [System.performOr]
  cases performed : listener.perform event with
  | none => exact sound
  | some after => exact sound.perform performed

end Sound

theorem sound_onModuleInit (channel : String) : (onModuleInit channel).Sound := by
  apply Sound.connect
  exact ⟨fun _ none => (nomatch none), fun _ member => absurd member List.not_mem_nil,
    fun alive => (nomatch alive), initial_delay, fun _ none => nomatch none⟩

/-! ## After a shutdown -/

/-- A listener that is down has passed nothing on and made no client since, has no current one
and waits for no attempt. -/
structure SilentSince (listener later : Listener) : Prop where
  delivered : later.delivered = listener.delivered
  clients : later.clients.length = listener.clients.length
  client : later.client = none
  reconnectTimer : later.reconnectTimer = none
  destroyed : later.destroyed = true
  completed : later.completed = true

namespace SilentSince

variable {later : Listener}

theorem disconnect (silent : listener.SilentSince later) (after : AfterDisconnect) :
    listener.SilentSince (later.disconnect after) :=
  ⟨silent.delivered, (length_release _ _).trans silent.clients, rfl, silent.reconnectTimer,
    silent.destroyed, silent.completed⟩

theorem await (silent : listener.SilentSince later) (task : Task) :
    listener.SilentSince (later.await task) :=
  ⟨silent.delivered, silent.clients, silent.client, silent.reconnectTimer, silent.destroyed,
    silent.completed⟩

theorem scheduleReconnect (silent : listener.SilentSince later) :
    listener.SilentSince later.scheduleReconnect := by
  rw [Listener.scheduleReconnect, if_pos (Or.inl silent.destroyed)]
  exact silent

theorem proceed (silent : listener.SilentSince later) (done : Bool) (task : Task) :
    listener.SilentSince (later.proceed done task) := by
  cases task with
  | connect client =>
      rw [Listener.proceed]
      split
      · exact silent.await _
      · exact silent.disconnect _
  | listen client =>
      rw [Listener.proceed]
      split
      · exact ⟨silent.delivered, (List.length_modify _ _ _).trans silent.clients, silent.client,
          silent.reconnectTimer, silent.destroyed, silent.completed⟩
      · exact silent.disconnect _
  | check client =>
      rw [Listener.proceed, if_pos (Or.inr silent.destroyed)]
      exact ⟨silent.delivered, silent.clients, silent.client, silent.reconnectTimer,
        silent.destroyed, silent.completed⟩
  | disconnect after =>
      cases after with
      | scheduleReconnect => exact silent.scheduleReconnect
      | check =>
          have scheduled := silent.scheduleReconnect
          exact ⟨scheduled.delivered, scheduled.clients, scheduled.client,
            scheduled.reconnectTimer, scheduled.destroyed, scheduled.completed⟩
      | destroy => exact silent

theorem heard (silent : listener.SilentSince later) {handler : Listener → Listener}
    (handles : listener.SilentSince (handler later)) {client : Nat} {after : Listener}
    (performed : later.heard client handler = some after) : listener.SilentSince after := by
  rcases heard_eq_some.mp performed with ⟨_, _, rfl⟩
  split
  · exact handles
  · exact silent

theorem handleNotification (silent : listener.SilentSince later) (channel : String)
    (payload : Option String) :
    listener.SilentSince (later.handleNotification channel payload) := by
  rw [Listener.handleNotification]
  split
  · exact silent
  · split
    · exact silent
    · rw [next, if_pos silent.completed]
      exact silent

theorem perform (silent : listener.SilentSince later) {event : ListenerEvent} {after : Listener}
    (performed : later.perform event = some after) : listener.SilentSince after := by
  cases event with
  | onModuleDestroy =>
      cases performed
      have down : listener.SilentSince { later with
          destroyed := true, reconnectTimer := none, completed := true } :=
        ⟨silent.delivered, silent.clients, silent.client, rfl, rfl, rfl⟩
      exact down.disconnect .destroy
  | notification client channel payload =>
      have heard : later.heard client (·.handleNotification channel payload) = some after :=
        performed
      exact silent.heard (silent.handleNotification channel payload) heard
  | error client =>
      have heard : later.heard client Listener.recover = some after := performed
      apply silent.heard _ heard
      rw [Listener.recover, if_pos silent.destroyed]
      exact silent
  | ends client =>
      have heard : later.heard client Listener.handleEnd = some after := performed
      apply silent.heard _ heard
      rw [Listener.handleEnd, if_pos silent.destroyed]
      exact silent
  | settles task done =>
      rcases Option.ite_none_right_eq_some.mp performed with ⟨_, proceeded⟩
      cases proceeded
      have settled : listener.SilentSince { later with tasks := later.tasks.erase task } :=
        ⟨silent.delivered, silent.clients, silent.client, silent.reconnectTimer,
          silent.destroyed, silent.completed⟩
      exact settled.proceed done task
  | reconnectTimer =>
      rcases Option.map_eq_some_iff.mp performed with ⟨_, pending, _⟩
      rw [silent.reconnectTimer] at pending
      cases pending
  | healthTimer =>
      rcases Option.map_eq_some_iff.mp performed with ⟨client, _, rfl⟩
      rw [Listener.checkConnection, if_pos (Or.inl silent.destroyed)]
      exact silent

end SilentSince

theorem silentSince_onModuleDestroy (listener : Listener) :
    listener.onModuleDestroy.SilentSince listener.onModuleDestroy :=
  ⟨rfl, rfl, rfl, rfl, rfl, rfl⟩

theorem SilentSince.performOr {later : Listener} (silent : listener.SilentSince later)
    (event : ListenerEvent) :
    listener.SilentSince (System.performOr Listener.perform later event) := by
  rw [System.performOr]
  cases performed : later.perform event with
  | none => exact silent
  | some after => exact silent.perform performed

/-- Whatever happens after a shutdown, nothing is passed on, no connection is made and none is
going to be. -/
theorem silent_after_destroy (channel : String) (before after : List ListenerEvent) :
    (System.performAll Listener.perform (onModuleInit channel)
      (before ++ [.onModuleDestroy])).SilentSince
      (System.performAll Listener.perform (onModuleInit channel)
        (before ++ [.onModuleDestroy] ++ after)) := by
  rw [System.performAll_append _ _ (before ++ _), System.performAll_append]
  have always : System.AllAlong Listener.perform (fun _ _ => True) (System.performAll
      Listener.perform (System.performAll Listener.perform (onModuleInit channel) before)
        [.onModuleDestroy]) after :=
    .of_always fun _ _ => trivial
  exact always.invariant (fun _ event silent _ => silent.performOr event)
    (silentSince_onModuleDestroy _)

/-! ## One open client -/

/-- The current client is the only one that was not asked to end, and so the only one whose
notifications are passed on. -/
def OnlyCurrentOpen (listener : Listener) : Prop :=
  ∀ client, IsOpen listener.clients client → listener.client = some client

/-- The timer of an attempt comes due only while there is no current client: no recovery has
scheduled it after another one had brought up a client. -/
def InTurn (listener : Listener) : ListenerEvent → Prop
  | .reconnectTimer => listener.reconnectTimer ≠ none → listener.client = none
  | _ => True

instance (listener : Listener) : (event : ListenerEvent) → Decidable (listener.InTurn event)
  | .reconnectTimer => inferInstanceAs (Decidable (_ → _))
  | .onModuleDestroy | .notification _ _ _ | .error _ | .ends _ | .settles _ _ | .healthTimer =>
      isTrue trivial

theorem OnlyCurrentOpen.disconnect (only : listener.OnlyCurrentOpen) (after : AfterDisconnect) :
    (listener.disconnect after).OnlyCurrentOpen := by
  intro client isOpen
  rcases isOpen_release.mp isOpen with ⟨earlier, other⟩
  exact absurd (only client earlier) other

theorem OnlyCurrentOpen.scheduleReconnect (only : listener.OnlyCurrentOpen) :
    listener.scheduleReconnect.OnlyCurrentOpen := by
  rw [Listener.scheduleReconnect]
  split
  · exact only
  · exact only

theorem OnlyCurrentOpen.recover (only : listener.OnlyCurrentOpen) :
    listener.recover.OnlyCurrentOpen := by
  rw [Listener.recover]
  split
  · exact only
  · exact only.disconnect _

theorem OnlyCurrentOpen.proceed (only : listener.OnlyCurrentOpen) (done : Bool) (task : Task) :
    (listener.proceed done task).OnlyCurrentOpen := by
  cases task with
  | connect client =>
      rw [Listener.proceed]
      split
      · exact only
      · exact only.disconnect _
  | listen client =>
      rw [Listener.proceed]
      split
      · intro other isOpen
        exact only other (isOpen_listens.mp isOpen)
      · exact only.disconnect _
  | check client =>
      rw [Listener.proceed]
      split
      · exact only
      · exact only.disconnect _
  | disconnect after =>
      cases after with
      | scheduleReconnect => exact only.scheduleReconnect
      | check => exact only.scheduleReconnect
      | destroy => exact only

/-- A new client is the only open one exactly if there was no current one. -/
theorem onlyCurrentOpen_connect_iff (sound : listener.Sound) (only : listener.OnlyCurrentOpen)
    (alive : listener.destroyed = false) :
    listener.connect.OnlyCurrentOpen ↔ listener.client = none := by
  have made : ∀ client, IsOpen listener.connect.clients client ↔
      IsOpen listener.clients client ∨ client = listener.clients.length := by
    intro client
    rw [connect, if_neg (Bool.eq_false_iff.mp alive)]
    exact isOpen_append rfl
  have current : listener.connect.client = some listener.clients.length := by
    rw [connect, if_neg (Bool.eq_false_iff.mp alive)]
    rfl
  constructor
  · intro after
    cases same : listener.client with
    | none => rfl
    | some client =>
        have isOpen := sound.current client same
        have later := after client ((made client).mpr (Or.inl isOpen))
        rw [current, Option.some.injEq] at later
        rcases isOpen with ⟨held, found, _⟩
        rw [← later, List.getElem?_eq_none (Nat.le_refl _)] at found
        cases found
  · intro none client isOpen
    rcases (made client).mp isOpen with earlier | same
    · have := only client earlier
      rw [none] at this
      cases this
    · rw [current, same]

theorem OnlyCurrentOpen.heard (only : listener.OnlyCurrentOpen) {handler : Listener → Listener}
    (handles : (handler listener).OnlyCurrentOpen) {client : Nat} {after : Listener}
    (performed : listener.heard client handler = some after) : after.OnlyCurrentOpen := by
  rcases heard_eq_some.mp performed with ⟨_, _, rfl⟩
  split
  · exact handles
  · exact only

theorem OnlyCurrentOpen.handleNotification (only : listener.OnlyCurrentOpen) (channel : String)
    (payload : Option String) : (listener.handleNotification channel payload).OnlyCurrentOpen := by
  rw [Listener.handleNotification]
  split
  · exact only
  · split
    · exact only
    · rw [next]
      split
      · exact only
      · exact only

/-- An event leaves the current client the only open one exactly if it is in turn. -/
theorem onlyCurrentOpen_performOr_iff (sound : listener.Sound) (only : listener.OnlyCurrentOpen)
    (event : ListenerEvent) :
    (System.performOr perform listener event).OnlyCurrentOpen ↔ listener.InTurn event := by
  have iff_of_kept : ∀ {after : Option Listener}, (∀ later ∈ after, later.OnlyCurrentOpen) →
      ((after.getD listener).OnlyCurrentOpen ↔ True) := by
    intro after kept
    apply iff_true_intro
    cases after with
    | none => exact only
    | some later => exact kept later rfl
  cases event with
  | onModuleDestroy =>
      apply iff_of_kept
      intro later performed
      cases performed
      have down : OnlyCurrentOpen { listener with
          destroyed := true, reconnectTimer := none, completed := true } := only
      exact down.disconnect .destroy
  | notification client channel payload =>
      apply iff_of_kept
      intro later performed
      have heard : listener.heard client (·.handleNotification channel payload) = some later :=
        performed
      exact only.heard (only.handleNotification channel payload) heard
  | error client => exact iff_of_kept fun later performed => only.heard only.recover performed
  | ends client =>
      apply iff_of_kept
      intro later performed
      have heard : listener.heard client handleEnd = some later := performed
      apply only.heard _ heard
      rw [handleEnd]
      split
      · exact only
      · exact only.recover
  | settles task done =>
      apply iff_of_kept
      intro later performed
      rcases Option.ite_none_right_eq_some.mp performed with ⟨_, proceeded⟩
      cases proceeded
      have settled : OnlyCurrentOpen { listener with tasks := listener.tasks.erase task } := only
      exact settled.proceed done task
  | healthTimer =>
      apply iff_of_kept
      intro later performed
      rcases Option.map_eq_some_iff.mp performed with ⟨client, _, rfl⟩
      rw [checkConnection]
      split
      · exact only
      · exact only
  | reconnectTimer =>
      cases pending : listener.reconnectTimer with
      | none =>
          rw [System.performOr, perform, pending]
          exact ⟨fun _ waits => absurd pending waits, fun _ => only⟩
      | some delay =>
          have alive : listener.destroyed = false := by
            cases destroyed : listener.destroyed with
            | false => rfl
            | true =>
                rw [(sound.destroyed destroyed).2.1] at pending
                cases pending
          have exactly := onlyCurrentOpen_connect_iff sound.rung only alive
          rw [System.performOr, perform, pending]
          refine exactly.trans ⟨fun none _ => none, fun inTurn => inTurn ?_⟩
          rw [pending]
          exact Option.some_ne_none _

theorem onlyCurrentOpen_onModuleInit (channel : String) :
    (onModuleInit channel).OnlyCurrentOpen := by
  intro client isOpen
  rcases isOpen with ⟨current, found, _⟩
  cases client with
  | zero => rfl
  | succ client => cases found

/-- The current client is the only open one throughout a run exactly if the timer of an attempt
never comes due while there is a current client. -/
theorem onlyCurrentOpen_iff (channel : String) (events : List ListenerEvent) :
    System.Throughout perform OnlyCurrentOpen (onModuleInit channel) events ↔
      System.AllAlong perform InTurn (onModuleInit channel) events :=
  System.throughout_iff (fun _ event sound => sound.performOr event)
    (fun _ event sound only => onlyCurrentOpen_performOr_iff sound only event)
    (sound_onModuleInit channel) (onlyCurrentOpen_onModuleInit channel)

/-! ## A listener that is up -/

/-- The current client has its handlers, listens and is checked. -/
def Listens (listener : Listener) : Prop :=
  ∃ client, listener.client = some client ∧ listener.healthTimer = some client ∧
    ∃ current ∈ listener.clients[client]?, current.attached = true ∧ current.listening = true

/-- A call is under way that brings up the client. -/
def Brings (tasks : List Task) (client : Nat) : Prop :=
  .connect client ∈ tasks ∨ .listen client ∈ tasks

/-- A call is under way after which the next attempt is scheduled. -/
def Schedules (tasks : List Task) : Prop :=
  .disconnect .scheduleReconnect ∈ tasks ∨ .disconnect .check ∈ tasks

/-- The current client is brought up, or an attempt is scheduled or about to be. -/
def Recovers (listener : Listener) : Prop :=
  (∃ client, listener.client = some client ∧ Brings listener.tasks client) ∨
    listener.reconnectTimer ≠ none ∨ Schedules listener.tasks

/-- What is asked of a client that was asked to end is not done. -/
def Answerable (listener : Listener) : ListenerEvent → Prop
  | .settles (.connect client) done | .settles (.listen client) done =>
      done = true → IsOpen listener.clients client
  | _ => True

instance (listener : Listener) : (event : ListenerEvent) → Decidable (listener.Answerable event)
  | .settles (.connect _) _ | .settles (.listen _) _ => inferInstanceAs (Decidable (_ → _))
  | .settles (.check _) _ | .settles (.disconnect _) _ | .onModuleDestroy | .notification _ _ _
  | .error _ | .ends _ | .reconnectTimer | .healthTimer => isTrue trivial

/-- What holds as long as the current client is the only open one. -/
structure Awake (listener : Listener) : Prop where
  only : listener.OnlyCurrentOpen
  health : ∀ client ∈ listener.healthTimer, listener.client = some client
  current : ∀ client, listener.client = some client → Brings listener.tasks client ∨
    listener.healthTimer = some client ∧
      ∃ current ∈ listener.clients[client]?, current.listening = true
  absent : listener.destroyed = false → listener.client = none →
    listener.reconnectTimer ≠ none ∨ Schedules listener.tasks

theorem Brings.append {tasks : List Task} {client : Nat} (brings : Brings tasks client)
    (more : List Task) : Brings (tasks ++ more) client :=
  brings.imp (List.mem_append_left _) (List.mem_append_left _)

theorem Schedules.append {tasks : List Task} (schedules : Schedules tasks) (more : List Task) :
    Schedules (tasks ++ more) :=
  schedules.imp (List.mem_append_left _) (List.mem_append_left _)

theorem Brings.erase {tasks : List Task} {client : Nat} (brings : Brings tasks client)
    {task : Task} (other : task ≠ .connect client ∧ task ≠ .listen client) :
    Brings (tasks.erase task) client :=
  brings.imp (List.mem_erase_of_ne other.1.symm).mpr (List.mem_erase_of_ne other.2.symm).mpr

theorem Schedules.erase {tasks : List Task} (schedules : Schedules tasks) {task : Task}
    (other : task ≠ .disconnect .scheduleReconnect ∧ task ≠ .disconnect .check) :
    Schedules (tasks.erase task) :=
  schedules.imp (List.mem_erase_of_ne other.1.symm).mpr (List.mem_erase_of_ne other.2.symm).mpr

theorem awake_disconnect (only : listener.OnlyCurrentOpen) {after : AfterDisconnect}
    (again : listener.destroyed = true ∨ after = .scheduleReconnect ∨ after = .check) :
    (listener.disconnect after).Awake := by
  refine ⟨only.disconnect after, fun _ none => (nomatch none), fun _ none => (nomatch none), ?_⟩
  intro alive _
  have last : .disconnect after ∈ (listener.disconnect after).tasks :=
    List.mem_append_right _ (List.mem_singleton_self _)
  rcases again with destroyed | rfl | rfl
  · exact absurd (alive.symm.trans destroyed) Bool.false_ne_true
  · exact Or.inr (Or.inl last)
  · exact Or.inr (Or.inr last)

namespace Awake

/-- Other tasks do as well, if they bring up what was brought up and schedule what was
scheduled. -/
theorem of_tasks (awake : listener.Awake) {tasks : List Task}
    (brings : ∀ client, Brings listener.tasks client → Brings tasks client)
    (schedules : Schedules listener.tasks → Schedules tasks) :
    Awake { listener with tasks } :=
  ⟨awake.only, awake.health,
    fun client same => (awake.current client same).imp_left (brings client),
    fun alive none => (awake.absent alive none).imp_right schedules⟩

theorem await (awake : listener.Awake) (task : Task) : (listener.await task).Awake :=
  awake.of_tasks (fun _ brings => brings.append _) fun schedules => schedules.append _

theorem checked (awake : listener.Awake) (checking : Bool) :
    Awake { listener with checking := checking } :=
  ⟨awake.only, awake.health, awake.current, awake.absent⟩

theorem recover (awake : listener.Awake) : listener.recover.Awake := by
  rw [Listener.recover]
  split
  · exact awake
  · exact awake_disconnect awake.only (Or.inr (Or.inl rfl))

/-- Where an attempt is scheduled, the tasks need not do so. -/
theorem schedule (awake : listener.Awake) {tasks : List Task}
    (brings : ∀ client, Brings listener.tasks client → Brings tasks client) :
    ({ listener with tasks } : Listener).scheduleReconnect.Awake := by
  rw [Listener.scheduleReconnect]
  split
  · rename_i waits
    refine ⟨awake.only, awake.health,
      fun client same => (awake.current client same).imp_left (brings client), ?_⟩
    intro alive _
    rcases waits with destroyed | pending
    · exact absurd (alive.symm.trans destroyed) Bool.false_ne_true
    · exact Or.inl (Option.isSome_iff_ne_none.mp pending)
  · exact ⟨awake.only, awake.health,
      fun client same => (awake.current client same).imp_left (brings client),
      fun _ _ => Or.inl (Option.some_ne_none _)⟩

/-- The current client was answered that it listens. -/
theorem listens (awake : listener.Awake) {client : Nat} (isOpen : IsOpen listener.clients client)
    (tasks : List Task) : (({ listener with tasks } : Listener).listens client).Awake := by
  have same := awake.only client isOpen
  refine ⟨fun other opened => awake.only other (isOpen_listens.mp opened), ?_, ?_, ?_⟩
  · intro other checked
    cases checked
    exact same
  · intro other current
    cases same.symm.trans current
    rcases isOpen with ⟨held, found, _⟩
    refine Or.inr ⟨rfl, { held with listening := true }, ?_, rfl⟩
    rw [Listener.listens, Option.mem_def, List.getElem?_modify, Option.mem_def.mp found,
      Option.map_eq_map, Option.map_some, if_pos rfl]
  · intro _ none
    cases same.symm.trans none

/-- A task goes on with its answer. -/
theorem proceed (awake : listener.Awake) {done : Bool} {task : Task}
    (answerable : listener.Answerable (.settles task done)) :
    (({ listener with tasks := listener.tasks.erase task } : Listener).proceed done
      task).Awake := by
  have only : OnlyCurrentOpen { listener with tasks := listener.tasks.erase task } := awake.only
  cases task with
  | connect client =>
      rw [Listener.proceed]
      split
      · apply awake.of_tasks
        · rintro other (connecting | listening)
          · by_cases own : client = other
            · rw [own]
              exact Or.inr (List.mem_append_right _ (List.mem_singleton_self _))
            · refine Or.inl (List.mem_append_left _ ((List.mem_erase_of_ne ?_).mpr connecting))
              rintro ⟨⟩
              exact own rfl
          · exact Or.inr (List.mem_append_left _
              ((List.mem_erase_of_ne Task.noConfusion).mpr listening))
        · exact fun schedules =>
            (schedules.erase ⟨Task.noConfusion, Task.noConfusion⟩).append _
      · exact awake_disconnect only (Or.inr (Or.inl rfl))
  | listen client =>
      rw [Listener.proceed]
      split
      · rename_i did
        exact awake.listens (answerable did) _
      · exact awake_disconnect only (Or.inr (Or.inl rfl))
  | check client =>
      rw [Listener.proceed]
      split
      · have settled : Awake { listener with tasks := listener.tasks.erase (.check client) } :=
          awake.of_tasks (fun _ brings => brings.erase ⟨Task.noConfusion, Task.noConfusion⟩)
            fun schedules => schedules.erase ⟨Task.noConfusion, Task.noConfusion⟩
        exact settled.checked false
      · exact awake_disconnect only (Or.inr (Or.inr rfl))
  | disconnect after =>
      have brings : ∀ client, Brings listener.tasks client →
          Brings (listener.tasks.erase (.disconnect after)) client :=
        fun _ brings => brings.erase ⟨Task.noConfusion, Task.noConfusion⟩
      cases after with
      | scheduleReconnect => exact awake.schedule brings
      | check => exact (awake.schedule brings).checked false
      | destroy =>
          exact awake.of_tasks brings fun schedules =>
            schedules.erase ⟨by decide, by decide⟩

theorem heard (awake : listener.Awake) {handler : Listener → Listener}
    (handles : (handler listener).Awake) {client : Nat} {after : Listener}
    (performed : listener.heard client handler = some after) : after.Awake := by
  rcases heard_eq_some.mp performed with ⟨_, _, rfl⟩
  split
  · exact handles
  · exact awake

theorem handleNotification (awake : listener.Awake) (channel : String) (payload : Option String) :
    (listener.handleNotification channel payload).Awake := by
  rw [Listener.handleNotification]
  split
  · exact awake
  · split
    · exact awake
    · rw [next]
      split
      · exact awake
      · exact ⟨awake.only, awake.health, awake.current, awake.absent⟩

/-- An attempt while there is no current client. -/
theorem connect (awake : listener.Awake) (sound : listener.Sound) (none : listener.client = none)
    (alive : listener.destroyed = false) :
    ({ listener with reconnectTimer := Option.none } : Listener).connect.Awake := by
  have only := (onlyCurrentOpen_connect_iff sound.rung awake.only alive).mpr none
  rw [Listener.connect, if_neg (Bool.eq_false_iff.mp alive)] at only ⊢
  refine ⟨only, ?_, ?_, fun _ absent => nomatch absent⟩
  · intro client checked
    exact nomatch none.symm.trans (awake.health client checked)
  · intro client same
    cases same
    exact Or.inl (Or.inl (List.mem_append_right _ (List.mem_singleton_self _)))

/-- An event in turn, whose answer is possible. -/
theorem perform (awake : listener.Awake) (sound : listener.Sound) {event : ListenerEvent}
    (inTurn : listener.InTurn event) (answerable : listener.Answerable event) {after : Listener}
    (performed : listener.perform event = some after) : after.Awake := by
  cases event with
  | onModuleDestroy =>
      cases performed
      have down : OnlyCurrentOpen { listener with
          destroyed := true, reconnectTimer := none, completed := true } := awake.only
      exact awake_disconnect down (Or.inl rfl)
  | notification client channel payload =>
      have heard : listener.heard client (·.handleNotification channel payload) = some after :=
        performed
      exact awake.heard (awake.handleNotification channel payload) heard
  | error client =>
      have heard : listener.heard client Listener.recover = some after := performed
      exact awake.heard awake.recover heard
  | ends client =>
      have heard : listener.heard client Listener.handleEnd = some after := performed
      apply awake.heard _ heard
      rw [Listener.handleEnd]
      split
      · exact awake
      · exact awake.recover
  | settles task done =>
      rcases Option.ite_none_right_eq_some.mp performed with ⟨_, proceeded⟩
      cases proceeded
      exact awake.proceed answerable
  | reconnectTimer =>
      rcases Option.map_eq_some_iff.mp performed with ⟨delay, pending, rfl⟩
      have waits : listener.reconnectTimer ≠ none := Option.ne_none_iff_exists'.mpr ⟨delay, pending⟩
      have alive : listener.destroyed = false := by
        cases destroyed : listener.destroyed with
        | false => rfl
        | true => exact absurd (sound.destroyed destroyed).2.1 waits
      exact awake.connect sound (inTurn waits) alive
  | healthTimer =>
      rcases Option.map_eq_some_iff.mp performed with ⟨client, _, rfl⟩
      rw [checkConnection]
      split
      · exact awake
      · exact (awake.checked true).await _

end Awake

theorem awake_onModuleInit (channel : String) : (onModuleInit channel).Awake := by
  refine ⟨onlyCurrentOpen_onModuleInit channel, fun _ none => (nomatch none), ?_,
    fun _ none => nomatch none⟩
  intro client same
  cases same
  exact Or.inl (Or.inl (List.mem_singleton_self _))

theorem Awake.is_up (awake : listener.Awake) (sound : listener.Sound)
    (alive : listener.destroyed = false) : listener.Listens ∨ listener.Recovers := by
  cases same : listener.client with
  | none => exact Or.inr (Or.inr (awake.absent alive same))
  | some client =>
      rcases awake.current client same with brings | ⟨checked, held, found, listening⟩
      · exact Or.inr (Or.inl ⟨client, same, brings⟩)
      · rcases sound.current client same with ⟨own, isHeld, isOpen⟩
        cases (Option.mem_def.mp found).symm.trans isHeld
        have attached := sound.attached held (List.mem_of_getElem? found)
        rw [isOpen] at attached
        exact Or.inl ⟨client, same, checked, held, found, attached, listening⟩

end Listener

/-- Runs in which clients that were asked to end do nothing more. -/
def listenerSystem (channel : String) : System Listener ListenerEvent :=
  .ofPerform (fun listener => listener = .onModuleInit channel) Listener.Answerable Listener.perform

/-- As long as the timer of an attempt comes due in turn, a listener that is up listens on its
one open client, which is checked, or is about to; one that was destroyed has closed all its
clients and checks none. -/
theorem listens_or_recovers {channel : String} {listener : Listener}
    (reachable : (listenerSystem channel).Reachable Listener.InTurn listener) :
    listener.OnlyCurrentOpen ∧
      (listener.destroyed = false → listener.Listens ∨ listener.Recovers) ∧
      (listener.destroyed = true →
        (∀ client, ¬Listener.IsOpen listener.clients client) ∧ listener.healthTimer = none) := by
  have invariant : listener.Sound ∧ listener.Awake := by
    apply reachable.invariant
    · rintro _ rfl
      exact ⟨Listener.sound_onModuleInit channel, Listener.awake_onModuleInit channel⟩
    · rintro before event after ⟨sound, awake⟩ inTurn ⟨answerable, performed⟩
      exact ⟨sound.perform performed, awake.perform sound inTurn answerable performed⟩
  rcases invariant with ⟨sound, awake⟩
  refine ⟨awake.only, awake.is_up sound, ?_⟩
  intro destroyed
  have absent := (sound.destroyed destroyed).1
  constructor
  · intro client isOpen
    exact nomatch absent.symm.trans (awake.only client isOpen)
  · cases checked : listener.healthTimer with
    | none => rfl
    | some client => exact nomatch absent.symm.trans (awake.health client checked)

/-! ## A connection that is lost -/

/-- The first connection is lost, and a second one is made. -/
private def lost : List ListenerEvent :=
  [.settles (.connect 0) true, .settles (.listen 0) true, .ends 0,
    .settles (.disconnect .scheduleReconnect) true, .reconnectTimer, .settles (.connect 1) true,
    .settles (.listen 1) true]

theorem listens_or_recovers_lost :
    (System.performAll Listener.perform (.onModuleInit "changes") lost).Listens ∨
      (System.performAll Listener.perform (.onModuleInit "changes") lost).Recovers := by
  have along : System.AllAlong Listener.perform (fun before event =>
      before.InTurn event ∧ before.Answerable event) (.onModuleInit "changes") lost := by
    decide +kernel
  exact (listens_or_recovers (System.reachable_performAll (.start rfl) along)).2.1
    (by decide +kernel)

/-- The first client is slow to end: its check has failed and the connection is lost, so that two
recoveries are under way, and the second schedules an attempt after the first has made one. -/
private def slowEnd : List ListenerEvent :=
  [.settles (.connect 0) true, .settles (.listen 0) true, .healthTimer, .error 0,
    .settles (.check 0) false, .settles (.disconnect .check) true, .reconnectTimer,
    .settles (.disconnect .scheduleReconnect) true, .reconnectTimer]

/-- A recovery that outlasts the next attempt leaves a client open that is never closed, and
whose notifications are passed on beside those of the current one. -/
theorem slow_end_opens_two :
    ¬System.Throughout Listener.perform Listener.OnlyCurrentOpen (.onModuleInit "changes")
      slowEnd := by
  intro throughout
  have last := throughout slowEnd [] (List.append_nil _).symm 1 (by decide +kernel)
  exact absurd last (by decide +kernel)

end Reputo.Connections.PostgresChannelListener
