import Reputo.Community.ReconnectingSocket

/-!
# One live feed

While attempts start in turn, a feed has one socket, one pending reconnect or one attempt at a
time, and none of them after a fatal close.
-/

namespace Reputo.Community

open Reputo.Library

namespace ReconnectingSocket

variable {options : ReconnectingSocketOptions} {feed : Feed}

/-- What holds of a feed whose attempts start in turn. -/
structure Feed.Sound (feed : Feed) : Prop where
  bounded : ∀ current ∈ feed.sockets, current.mine ≤ feed.generation
  heard : ∀ (socket : Nat) (current : WebSocket), feed.sockets[socket]? = some current →
    feed.Hears current → feed.socket = some socket
  single : feed.connecting ≤ 1
  resting : feed.stopped = true → feed.socket = none ∧ feed.reconnectTimer = false
  connected : feed.socket ≠ none → feed.connecting = 0 ∧ feed.state ≠ .fatal
  refused : feed.state = .fatal → feed.stopped = false ∧ feed.connecting = 0
  watched : feed.idleTimer = true → feed.socket ≠ none
  working : feed.Attempting

/-- Events that are about a socket that is up. -/
def FeedEvent.OfSocket : FeedEvent → Prop
  | .socketOpens _ => True
  | .message _ _ => True
  | .closes _ _ _ => True
  | .idleTimer => True
  | .send _ => True
  | .start => False
  | .stop => False
  | .subscribed => False
  | .unsubscribed => False
  | .resolved _ => False
  | .rejected => False
  | .reconnectTimer => False
  | .markLive => False
  | .reconnect _ => False

namespace Feed

/-! ## Small steps -/

section Fields

variable (feed) (delivery : Delivery) (next : CommunityRealtimeState) (code : Nat)
  (reason : String)

/-- A change of the state changes nothing else. -/
theorem setState_eq : ∃ delivered, feed.setState next =
    { feed with state := next, delivered := feed.delivered ++ delivered } ∧
      ∀ delivery ∈ delivered, delivery = .state next := by
  unfold setState
  by_cases same : feed.state = next
  · refine ⟨[], ?_, fun _ none_ => absurd none_ List.not_mem_nil⟩
    rw [if_pos same, List.append_nil, ← same]
  · rw [if_neg same, emitState]
    by_cases deaf : feed.listeners = 0
    · refine ⟨[], ?_, fun _ none_ => absurd none_ List.not_mem_nil⟩
      rw [if_pos deaf, List.append_nil]
    · refine ⟨[.state next], ?_, fun _ said => List.mem_singleton.mp said⟩
      rw [if_neg deaf]
      rfl

/-- A teardown ends the socket and changes nothing but what was delivered. -/
theorem teardown_eq : ∃ sockets delivered, feed.teardown code reason =
    { feed with
      socket := none, generation := feed.generation + 1, idleTimer := false, sockets,
      delivered := feed.delivered ++ delivered } ∧
      (∀ current ∈ sockets, ∃ before ∈ feed.sockets, current.mine = before.mine) ∧
      ∀ delivery ∈ delivered, delivery = .disconnected code reason := by
  cases socket : feed.socket with
  | none =>
      refine ⟨feed.sockets, [], ?_, fun current member => ⟨current, member, rfl⟩,
        fun _ none_ => absurd none_ List.not_mem_nil⟩
      simp only [teardown, clearIdleWatchdog, socket, List.append_nil]
  | some current =>
      refine ⟨(feed.release current).sockets, [.disconnected code reason], ?_, ?_,
        fun _ said => List.mem_singleton.mp said⟩
      · simp only [teardown, clearIdleWatchdog, socket, release, deliver]
      · intro closed member
        rcases List.mem_iff_getElem?.mp member with ⟨position, found⟩
        rw [release, List.getElem?_modify] at found
        rcases Option.map_eq_some_iff.mp found with ⟨before, was, same⟩
        refine ⟨before, List.mem_of_getElem? was, ?_⟩
        rw [← same]
        split
        · rfl
        · rfl

/-- A reconnect is scheduled at most once, and only while the feed is running. -/
theorem scheduleReconnect_eq (running : feed.stopped = false) :
    ∃ attempt state delivered, feed.scheduleReconnect =
      { feed with
        reconnectTimer := true, attempt, state, delivered := feed.delivered ++ delivered } ∧
      (state = feed.state ∧ feed.reconnectTimer = true ∨ state = .retrying) ∧
      ∀ delivery ∈ delivered, delivery = .state .retrying := by
  rw [scheduleReconnect]
  by_cases pending : feed.reconnectTimer = true
  · refine ⟨feed.attempt, feed.state, [], ?_, .inl ⟨rfl, pending⟩,
      fun _ none_ => absurd none_ List.not_mem_nil⟩
    rw [if_pos (.inr pending), List.append_nil, ← pending]
  · rcases setState_eq { feed with attempt := feed.attempt + 1 } .retrying with
      ⟨delivered, same, said⟩
    refine ⟨feed.attempt + 1, .retrying, delivered, ?_, .inr rfl, said⟩
    rw [if_neg (by rw [running]; exact fun either => either.elim Bool.noConfusion pending), same]

/-- What becomes of a running feed whose socket is dropped. -/
theorem dropAndRetry_eq (running : feed.stopped = false) :
    ∃ sockets attempt state delivered, feed.dropAndRetry reason code =
      { feed with
        socket := none, generation := feed.generation + 1, idleTimer := false,
        reconnectTimer := true, sockets, attempt, state,
        delivered := feed.delivered ++ delivered } ∧
      (∀ current ∈ sockets, ∃ before ∈ feed.sockets, current.mine = before.mine) ∧
      (state = feed.state ∧ feed.reconnectTimer = true ∨ state = .retrying) ∧
      ∀ delivery ∈ delivered, delivery.NotDialed := by
  rcases teardown_eq feed code reason with ⟨sockets, first, torn, mine, disconnected⟩
  rcases scheduleReconnect_eq (feed.teardown code reason) (by rw [torn]; exact running) with
    ⟨attempt, state, second, scheduled, which, retrying⟩
  refine ⟨sockets, attempt, state, first ++ second, ?_, mine, ?_, ?_⟩
  · rw [dropAndRetry, if_neg (by rw [running]; decide), scheduled, torn, List.append_assoc]
  · rw [torn] at which
    exact which
  · intro delivery member
    rcases List.mem_append.mp member with early | late
    · rw [disconnected delivery early]
      exact trivial
    · rw [retrying delivery late]
      exact trivial

/-- An attempt of a running feed waits for its target. -/
theorem connect_eq (running : feed.stopped = false) :
    ∃ delivered, feed.connect =
      { feed with
        state := .connecting, connecting := feed.connecting + 1,
        delivered := feed.delivered ++ delivered } ∧
      ∀ delivery ∈ delivered, delivery = .state .connecting := by
  rcases setState_eq feed .connecting with ⟨delivered, same, said⟩
  refine ⟨delivered, ?_, said⟩
  rw [connect, if_neg (by rw [running]; decide), same]

end Fields

/-! ## Soundness is kept -/

theorem sound_created : createReconnectingSocket.Sound where
  bounded := fun _ none_ => absurd none_ List.not_mem_nil
  heard := fun _ _ found => absurd found (by simp [createReconnectingSocket])
  single := Nat.zero_le 1
  resting := fun _ => ⟨rfl, rfl⟩
  connected := fun up => absurd rfl up
  refused := fun fatal => absurd fatal (by decide)
  watched := fun armed => absurd armed (by decide)
  working := fun running => absurd running (by decide)

/-- After a teardown no socket is heard. -/
theorem not_hears_of_older {generation : Nat} {sockets others : List WebSocket}
    (bounded : ∀ current ∈ sockets, current.mine ≤ generation)
    (mine : ∀ current ∈ others, ∃ before ∈ sockets, current.mine = before.mine) :
    ∀ current ∈ others, current.mine < generation + 1 := by
  intro current member
  rcases mine current member with ⟨before, was, same⟩
  rw [same]
  exact Nat.lt_succ_of_le (bounded before was)

theorem Sound.dropAndRetry (sound : feed.Sound) (reason : String) (code : Nat) :
    (feed.dropAndRetry reason code).Sound := by
  cases running : feed.stopped with
  | true =>
      rw [Feed.dropAndRetry, if_pos running]
      exact sound
  | false =>
      rcases dropAndRetry_eq feed code reason running with
        ⟨sockets, attempt, state, delivered, same, mine, which, _⟩
      have older := not_hears_of_older sound.bounded mine
      rw [same]
      exact {
        bounded := fun current member => Nat.le_of_lt (older current member)
        heard := fun socket current found hears =>
          absurd hears.2 (Nat.ne_of_lt (older current (List.mem_of_getElem? found)))
        single := sound.single
        resting := fun stopped => absurd (running.symm.trans stopped) (by decide)
        connected := fun up => absurd rfl up
        refused := fun fatal => by
          rcases which with ⟨was, _⟩ | retrying
          · exact sound.refused (was.symm.trans fatal)
          · exact absurd (retrying.symm.trans fatal) (by decide)
        watched := fun armed => Bool.noConfusion armed
        working := fun _ _ _ => .inl rfl }

/-- What was delivered does not matter. -/
theorem Sound.deliver (sound : feed.Sound) (delivery : Delivery) :
    (feed.deliver delivery).Sound :=
  ⟨sound.bounded, sound.heard, sound.single, sound.resting, sound.connected, sound.refused,
    sound.watched, sound.working⟩

/-- Nor does who listens. -/
theorem Sound.withListeners (sound : feed.Sound) (listeners : Nat) :
    { feed with listeners }.Sound :=
  ⟨sound.bounded, sound.heard, sound.single, sound.resting, sound.connected, sound.refused,
    sound.watched, sound.working⟩

theorem Sound.withReadyState (sound : feed.Sound) (socket : Nat) (readyState : ReadyState) :
    (feed.withReadyState socket readyState).Sound where
  bounded := by
    intro current member
    rcases List.mem_iff_getElem?.mp member with ⟨position, found⟩
    rw [Feed.withReadyState, List.getElem?_modify] at found
    rcases Option.map_eq_some_iff.mp found with ⟨before, was, same⟩
    have old := sound.bounded before (List.mem_of_getElem? was)
    rw [← same]
    split
    · exact old
    · exact old
  heard := by
    intro position current found hears
    rw [Feed.withReadyState, List.getElem?_modify] at found
    rcases Option.map_eq_some_iff.mp found with ⟨before, was, same⟩
    refine sound.heard position before was ?_
    rw [← same] at hears
    split at hears
    · exact hears
    · exact hears
  single := sound.single
  resting := sound.resting
  connected := sound.connected
  refused := sound.refused
  watched := sound.watched
  working := sound.working

theorem Sound.armIdleWatchdog (sound : feed.Sound) (up : feed.socket ≠ none) :
    (feed.armIdleWatchdog options).Sound := by
  rw [Feed.armIdleWatchdog]
  split
  · exact sound
  · exact ⟨sound.bounded, sound.heard, sound.single, sound.resting, sound.connected,
      sound.refused, fun _ => up, sound.working⟩

/-- The socket that is heard is the socket of the feed. -/
theorem Sound.up (sound : feed.Sound) {socket : Nat} {current : WebSocket}
    (found : feed.sockets[socket]? = some current) (hears : feed.Hears current) :
    feed.socket ≠ none := by
  rw [sound.heard socket current found hears]
  exact Option.some_ne_none socket

theorem Sound.send (sound : feed.Sound) (throws : Bool) : (feed.send throws).Sound := by
  rw [Feed.send]
  split
  · exact sound
  · split
    · exact sound
    · split
      · exact sound.dropAndRetry _ _
      · exact sound

theorem Sound.markLive (sound : feed.Sound) (inTurn : feed.InTurn .markLive) :
    feed.markLive.Sound := by
  rcases setState_eq { feed with attempt := 0 } .live with ⟨delivered, same, _⟩
  rw [Feed.markLive, same]
  exact {
    bounded := sound.bounded
    heard := sound.heard
    single := sound.single
    resting := sound.resting
    connected := fun up => ⟨(sound.connected up).1, show CommunityRealtimeState.live ≠ .fatal by decide⟩
    refused := fun fatal => absurd fatal (show CommunityRealtimeState.live ≠ .fatal by decide)
    watched := sound.watched
    working := fun running _ down => by
      rw [InTurn, if_neg (by rw [show feed.stopped = false from running]; decide)] at inTurn
      exact sound.working running inTurn down }

/-- An attempt that starts in turn is the only one. -/
theorem Sound.connect (sound : feed.Sound) (free : feed.connecting = 0)
    (down : feed.socket = none) {stopped : Bool} (running : stopped = false) (attempt : Nat)
    (reconnectTimer : Bool) :
    ({ feed with stopped, attempt, reconnectTimer }.connect).Sound := by
  rcases connect_eq { feed with stopped, attempt, reconnectTimer } running with
    ⟨delivered, same, _⟩
  rw [same]
  exact {
    bounded := sound.bounded
    heard := sound.heard
    single := Nat.le_of_eq (congrArg (· + 1) free)
    resting := fun resting => absurd (running.symm.trans resting) (by decide)
    connected := fun up => absurd down up
    refused := fun fatal => absurd fatal (show CommunityRealtimeState.connecting ≠ .fatal by decide)
    watched := sound.watched
    working := fun _ _ _ => .inr (congrArg (· + 1) free) }

theorem Sound.start (sound : feed.Sound) (inTurn : feed.InTurn .start) : feed.start.Sound := by
  rw [Feed.start]
  split
  · rename_i stopped
    exact sound.connect (inTurn stopped) (sound.resting stopped).1 rfl 0 feed.reconnectTimer
  · exact sound

/-- A feed whose only attempt is over. -/
theorem Sound.waited (sound : feed.Sound) (waiting : feed.connecting ≠ 0) :
    feed.connecting - 1 = 0 ∧ feed.socket = none ∧ feed.state ≠ .fatal := by
  have single := sound.single
  refine ⟨by omega, ?_, fun fatal => waiting (sound.refused fatal).2⟩
  cases up : feed.socket with
  | none => rfl
  | some socket =>
      exact absurd (sound.connected (by rw [up]; exact Option.some_ne_none socket)).1 waiting

/-- After an attempt in vain another one is scheduled. -/
theorem Sound.connectRejected (sound : feed.Sound) (waiting : feed.connecting ≠ 0) :
    feed.connectRejected.Sound := by
  rcases sound.waited waiting with ⟨none_, down, spared⟩
  rw [Feed.connectRejected]
  rcases Bool.eq_false_or_eq_true feed.stopped with running | running
  · rw [scheduleReconnect, if_pos (.inl running)]
    exact {
      bounded := sound.bounded
      heard := sound.heard
      single := Nat.le_trans (Nat.le_of_eq none_) (Nat.zero_le 1)
      resting := sound.resting
      connected := fun up => absurd down up
      refused := fun fatal => absurd fatal spared
      watched := sound.watched
      working := fun started => absurd (running.symm.trans started) (by decide) }
  · rcases scheduleReconnect_eq { feed with connecting := feed.connecting - 1 } running with
      ⟨attempt, state, delivered, same, _, _⟩
    rw [same]
    exact {
      bounded := sound.bounded
      heard := sound.heard
      single := Nat.le_trans (Nat.le_of_eq none_) (Nat.zero_le 1)
      resting := fun stopped => absurd (running.symm.trans stopped) (by decide)
      connected := fun up => absurd down up
      refused := fun _ => ⟨running, none_⟩
      watched := sound.watched
      working := fun _ _ _ => .inl rfl }

theorem Sound.connectResolved (sound : feed.Sound) (waiting : feed.connecting ≠ 0)
    (made : Bool) : (feed.connectResolved made).Sound := by
  rcases sound.waited waiting with ⟨none_, down, spared⟩
  have rejected := sound.connectRejected waiting
  rw [Feed.connectRejected] at rejected
  rw [Feed.connectResolved]
  rcases Bool.eq_false_or_eq_true feed.stopped with running | running
  · rw [scheduleReconnect, if_pos (.inl running)] at rejected
    rw [if_pos running]
    exact rejected
  · cases made with
    | false =>
        rw [if_neg (by rw [running]; decide), if_neg (by decide)]
        exact rejected
    | true =>
        rw [if_neg (by rw [running]; decide), if_pos rfl]
        refine Sound.deliver ?_ _
        exact {
          bounded := fun current member => by
            rcases List.mem_append.mp member with old | new
            · exact sound.bounded current old
            · exact Nat.le_of_eq (congrArg WebSocket.mine (List.mem_singleton.mp new))
          heard := fun socket current found hears => by
            rw [List.getElem?_append] at found
            split at found
            · exact absurd down (sound.up found hears)
            · rw [List.getElem?_singleton] at found
              split at found
              · rename_i beyond first
                exact congrArg some (by omega)
              · cases found
          single := Nat.le_trans (Nat.le_of_eq none_) (Nat.zero_le 1)
          resting := fun stopped => absurd (running.symm.trans stopped) (by decide)
          connected := fun _ => ⟨none_, spared⟩
          refused := fun _ => ⟨running, none_⟩
          watched := fun _ => Option.some_ne_none _
          working := fun _ _ empty => absurd empty (Option.some_ne_none _) }

theorem Sound.stop (sound : feed.Sound) : feed.stop.Sound := by
  rcases teardown_eq { feed with stopped := true, reconnectTimer := false } NORMAL_CLOSURE
    "stopped" with ⟨sockets, first, torn, mine, _⟩
  rcases setState_eq ({ feed with stopped := true, reconnectTimer := false }.teardown
    NORMAL_CLOSURE "stopped") .stopped with ⟨second, same, _⟩
  have older := not_hears_of_older sound.bounded mine
  rw [Feed.stop, same, torn]
  exact {
    bounded := fun current member => Nat.le_of_lt (older current member)
    heard := fun socket current found hears =>
      absurd hears.2 (Nat.ne_of_lt (older current (List.mem_of_getElem? found)))
    single := sound.single
    resting := fun _ => ⟨rfl, rfl⟩
    connected := fun up => absurd rfl up
    refused := fun fatal => absurd fatal (show CommunityRealtimeState.stopped ≠ .fatal by decide)
    watched := fun armed => Bool.noConfusion armed
    working := fun running => Bool.noConfusion running }

/-- After a fatal close there is no attempt. -/
theorem Sound.onclose (sound : feed.Sound) (up : feed.socket ≠ none) (code : Nat)
    (reason : String) : (feed.onclose options code reason).Sound := by
  rw [Feed.onclose]
  split
  · rcases teardown_eq feed code reason with ⟨sockets, first, torn, mine, _⟩
    rcases setState_eq (feed.teardown code reason) .fatal with ⟨second, same, _⟩
    have older := not_hears_of_older sound.bounded mine
    rw [same, torn]
    exact {
      bounded := fun current member => Nat.le_of_lt (older current member)
      heard := fun socket current found hears =>
        absurd hears.2 (Nat.ne_of_lt (older current (List.mem_of_getElem? found)))
      single := sound.single
      resting := fun stopped => absurd (sound.resting stopped).1 up
      connected := fun none_ => absurd rfl none_
      refused := fun _ => ⟨Bool.eq_false_iff.mpr fun stopped =>
        up (sound.resting stopped).1, (sound.connected up).1⟩
      watched := fun armed => Bool.noConfusion armed
      working := fun _ spared => absurd rfl spared }
  · exact sound.dropAndRetry _ _

/-- Events in turn keep a feed sound. -/
theorem Sound.perform (sound : feed.Sound) {event : FeedEvent} (inTurn : feed.InTurn event) :
    (System.performOr (Feed.perform options) feed event).Sound := by
  cases event with
  | start => exact sound.start inTurn
  | stop => exact sound.stop
  | subscribed => exact sound.withListeners _
  | unsubscribed => exact sound.withListeners _
  | resolved made =>
      rw [System.performOr, Feed.perform]
      split
      · exact sound
      · rename_i waiting
        exact sound.connectResolved waiting made
  | rejected =>
      rw [System.performOr, Feed.perform]
      split
      · exact sound
      · rename_i waiting
        exact sound.connectRejected waiting
  | socketOpens socket =>
      rw [System.performOr, Feed.perform]
      split
      · exact sound
      · rename_i current found
        have ready := sound.withReadyState socket .open
        rw [Option.getD_some]
        split
        · rename_i hears
          exact (ready.armIdleWatchdog (sound.up found hears)).deliver _
        · exact ready
  | message socket data =>
      rw [System.performOr, Feed.perform]
      split
      · exact sound
      · rename_i current found
        rw [Option.getD_some]
        split
        · rename_i hears
          have armed : (feed.armIdleWatchdog options).Sound :=
            sound.armIdleWatchdog (sound.up found hears)
          cases data with
          | none => exact armed
          | some payload => exact armed.deliver _
        · exact sound
  | closes socket code reason =>
      rw [System.performOr, Feed.perform]
      split
      · exact sound
      · rename_i current found
        have ready := sound.withReadyState socket .closed
        rw [Option.getD_some]
        split
        · rename_i hears
          exact ready.onclose (sound.up found hears) code reason
        · exact ready
  | idleTimer =>
      rw [System.performOr, Feed.perform]
      split
      · have disarmed : { feed with idleTimer := false }.Sound :=
          ⟨sound.bounded, sound.heard, sound.single, sound.resting, sound.connected,
            sound.refused, fun armed => Bool.noConfusion armed, sound.working⟩
        exact disarmed.dropAndRetry _ _
      · exact sound
  | reconnectTimer =>
      rw [System.performOr, Feed.perform]
      split
      · rename_i pending
        rcases Bool.eq_false_or_eq_true feed.stopped with stopped | running
        · exact absurd ((sound.resting stopped).2.symm.trans pending) (by decide)
        · exact sound.connect inTurn.1 inTurn.2.1 running feed.attempt false
      · exact sound
  | send throws => exact sound.send throws
  | markLive => exact sound.markLive inTurn
  | reconnect reason => exact sound.dropAndRetry reason 0

theorem Sound.atMostOneFeeds (sound : feed.Sound) : feed.AtMostOneFeeds := by
  intro socket other first second found otherFound hears otherHears
  exact Option.some.inj ((sound.heard socket first found hears).symm.trans
    (sound.heard other second otherFound otherHears))

/-! ## What is delivered -/

theorem OnlySays.refl (kind : Delivery → Prop) (feed : Feed) : feed.OnlySays kind feed :=
  ⟨[], (List.append_nil _).symm, fun _ none_ => absurd none_ List.not_mem_nil⟩

theorem OnlySays.trans {kind : Delivery → Prop} {later last : Feed}
    (before : feed.OnlySays kind later) (after : later.OnlySays kind last) :
    feed.OnlySays kind last := by
  rcases before with ⟨first, deliveredFirst, kindFirst⟩
  rcases after with ⟨second, deliveredSecond, kindSecond⟩
  refine ⟨first ++ second, by rw [deliveredSecond, deliveredFirst, List.append_assoc], ?_⟩
  intro delivery member
  rcases List.mem_append.mp member with early | late
  · exact kindFirst delivery early
  · exact kindSecond delivery late

theorem OnlySays.mono {kind other : Delivery → Prop} {later : Feed}
    (said : feed.OnlySays kind later) (weaker : ∀ delivery, kind delivery → other delivery) :
    feed.OnlySays other later := by
  rcases said with ⟨deliveries, delivered, kinds⟩
  exact ⟨deliveries, delivered, fun delivery member => weaker delivery (kinds delivery member)⟩

/-- Nothing is delivered. -/
theorem OnlySays.of_eq {kind : Delivery → Prop} {later : Feed}
    (same : later.delivered = feed.delivered) : feed.OnlySays kind later :=
  ⟨[], by rw [same, List.append_nil], fun _ none_ => absurd none_ List.not_mem_nil⟩

/-- Without a socket, events of sockets change nothing but what is known of the sockets. -/
theorem Sound.deaf (sound : feed.Sound) (down : feed.socket = none) {event : FeedEvent}
    (ofSocket : event.OfSocket) :
    ∃ sockets, System.performOr (Feed.perform options) feed event = { feed with sockets } := by
  have unheard : ∀ {socket : Nat} {current : WebSocket},
      feed.sockets[socket]? = some current → ¬feed.Hears current :=
    fun found hears => sound.up found hears down
  cases event with
  | socketOpens socket =>
      rw [System.performOr, Feed.perform]
      split
      · exact ⟨feed.sockets, rfl⟩
      · rename_i current found
        have quiet : ¬(feed.withReadyState socket .open).Hears current := unheard found
        rw [Option.getD_some, if_neg quiet]
        exact ⟨_, rfl⟩
  | message socket data =>
      rw [System.performOr, Feed.perform]
      split
      · exact ⟨feed.sockets, rfl⟩
      · rename_i current found
        rw [Option.getD_some, if_neg (unheard found)]
        exact ⟨feed.sockets, rfl⟩
  | closes socket code reason =>
      rw [System.performOr, Feed.perform]
      split
      · exact ⟨feed.sockets, rfl⟩
      · rename_i current found
        have quiet : ¬(feed.withReadyState socket .closed).Hears current := unheard found
        rw [Option.getD_some, if_neg quiet]
        exact ⟨_, rfl⟩
  | idleTimer =>
      rw [System.performOr, Feed.perform, if_neg fun armed => sound.watched armed down]
      exact ⟨feed.sockets, rfl⟩
  | send throws =>
      have unsent : feed.send throws = feed := by
        rw [Feed.send, down]
        rfl
      exact ⟨feed.sockets, unsent⟩
  | start => exact ofSocket.elim
  | stop => exact ofSocket.elim
  | subscribed => exact ofSocket.elim
  | unsubscribed => exact ofSocket.elim
  | resolved made => exact ofSocket.elim
  | rejected => exact ofSocket.elim
  | reconnectTimer => exact ofSocket.elim
  | markLive => exact ofSocket.elim
  | reconnect reason => exact ofSocket.elim

/-- A stopped feed stays stopped until it is started, and says so at most. -/
theorem Sound.stopped_step (sound : feed.Sound) (stopped : feed.stopped = true)
    {event : FeedEvent} (inTurn : feed.InTurn event) (unstarted : event ≠ .start) :
    (System.performOr (Feed.perform options) feed event).stopped = true ∧
      feed.OnlySays (· = .state .stopped)
        (System.performOr (Feed.perform options) feed event) := by
  rcases sound.resting stopped with ⟨down, unscheduled⟩
  have ofSocket : event.OfSocket →
      (System.performOr (Feed.perform options) feed event).stopped = true ∧
        feed.OnlySays (· = .state .stopped)
          (System.performOr (Feed.perform options) feed event) := by
    intro about
    rcases @Sound.deaf options _ sound down _ about with ⟨sockets, same⟩
    rw [same]
    exact ⟨stopped, .of_eq rfl⟩
  cases event with
  | start => exact absurd rfl unstarted
  | stop =>
      rcases setState_eq ({ feed with stopped := true, reconnectTimer := false }.teardown
        NORMAL_CLOSURE "stopped") .stopped with ⟨delivered, same, said⟩
      have torn : { feed with stopped := true, reconnectTimer := false }.teardown
          NORMAL_CLOSURE "stopped" = { feed with
            stopped := true, reconnectTimer := false, generation := feed.generation + 1,
            idleTimer := false } := by
        simp only [teardown, clearIdleWatchdog, down]
      rw [System.performOr, Feed.perform, Option.getD_some, Feed.stop, same, torn]
      exact ⟨rfl, delivered, rfl, said⟩
  | subscribed => exact ⟨stopped, .of_eq rfl⟩
  | unsubscribed => exact ⟨stopped, .of_eq rfl⟩
  | resolved made =>
      rw [System.performOr, Feed.perform]
      split
      · exact ⟨stopped, .refl _ _⟩
      · rw [Option.getD_some, Feed.connectResolved, if_pos stopped]
        exact ⟨stopped, .of_eq rfl⟩
  | rejected =>
      rw [System.performOr, Feed.perform]
      split
      · exact ⟨stopped, .refl _ _⟩
      · rw [Option.getD_some, Feed.connectRejected, scheduleReconnect, if_pos (.inl stopped)]
        exact ⟨stopped, .of_eq rfl⟩
  | reconnectTimer =>
      rw [System.performOr, Feed.perform, if_neg (by rw [unscheduled]; decide)]
      exact ⟨stopped, .refl _ _⟩
  | markLive =>
      rw [InTurn, if_pos stopped] at inTurn
      rw [System.performOr, Feed.perform, Option.getD_some, Feed.markLive, setState]
      rcases inTurn with alone | live
      · split
        · exact ⟨stopped, .of_eq rfl⟩
        · rw [emitState, if_pos alone]
          exact ⟨stopped, .of_eq rfl⟩
      · rw [if_pos live]
        exact ⟨stopped, .of_eq rfl⟩
  | reconnect reason =>
      rw [System.performOr, Feed.perform, Option.getD_some, Feed.reconnect, Feed.dropAndRetry,
        if_pos stopped]
      exact ⟨stopped, .refl _ _⟩
  | socketOpens socket => exact ofSocket trivial
  | message socket data => exact ofSocket trivial
  | closes socket code reason => exact ofSocket trivial
  | idleTimer => exact ofSocket trivial
  | send throws => exact ofSocket trivial

/-- After a fatal close a feed stays down until it is stopped. -/
theorem Sound.refused_step (sound : feed.Sound) (fatal : feed.state = .fatal) {event : FeedEvent} (inTurn : feed.InTurn event)
    (unstopped : event ≠ .stop) :
    (System.performOr (Feed.perform options) feed event).state = .fatal ∧
      feed.OnlySays Delivery.NotDialed
        (System.performOr (Feed.perform options) feed event) := by
  rcases sound.refused fatal with ⟨running, idle⟩
  have down : feed.socket = none := by
    cases up : feed.socket with
    | none => rfl
    | some socket =>
        exact absurd fatal (sound.connected (by rw [up]; exact Option.some_ne_none socket)).2
  have ofSocket : event.OfSocket →
      (System.performOr (Feed.perform options) feed event).state = .fatal ∧
        feed.OnlySays Delivery.NotDialed
          (System.performOr (Feed.perform options) feed event) := by
    intro about
    rcases @Sound.deaf options _ sound down _ about with ⟨sockets, same⟩
    rw [same]
    exact ⟨fatal, .of_eq rfl⟩
  cases event with
  | start =>
      rw [System.performOr, Feed.perform, Option.getD_some, Feed.start,
        if_neg (by rw [running]; decide)]
      exact ⟨fatal, .refl _ _⟩
  | stop => exact absurd rfl unstopped
  | subscribed => exact ⟨fatal, .of_eq rfl⟩
  | unsubscribed => exact ⟨fatal, .of_eq rfl⟩
  | resolved made =>
      rw [System.performOr, Feed.perform, if_pos idle]
      exact ⟨fatal, .refl _ _⟩
  | rejected =>
      rw [System.performOr, Feed.perform, if_pos idle]
      exact ⟨fatal, .refl _ _⟩
  | reconnectTimer => exact absurd fatal inTurn.2.2
  | markLive =>
      rw [InTurn, if_neg (by rw [running]; decide)] at inTurn
      exact absurd fatal inTurn
  | reconnect reason =>
      rcases inTurn with stopped | spared | pending
      · exact absurd (running.symm.trans stopped) (by decide)
      · exact absurd fatal spared
      · have kept : feed.reconnect reason =
            { feed with generation := feed.generation + 1, idleTimer := false } := by
          rw [Feed.reconnect, Feed.dropAndRetry, if_neg (by rw [running]; decide)]
          simp only [teardown, clearIdleWatchdog, down, scheduleReconnect, pending, or_true,
            if_true]
        rw [System.performOr, Feed.perform, Option.getD_some, kept]
        exact ⟨fatal, .of_eq rfl⟩
  | socketOpens socket => exact ofSocket trivial
  | message socket data => exact ofSocket trivial
  | closes socket code reason => exact ofSocket trivial
  | idleTimer => exact ofSocket trivial
  | send throws => exact ofSocket trivial

end Feed

/-! ## Runs -/

section Runs

variable {events : List FeedEvent}

/-- The events of a run all come in turn. -/
abbrev AllInTurn (options : ReconnectingSocketOptions) (feed : Feed) (events : List FeedEvent) :
    Prop :=
  System.AllAlong (Feed.perform options) Feed.InTurn feed events

theorem AllInTurn.append {before after : List FeedEvent}
    (inTurn : AllInTurn options feed (before ++ after)) :
    AllInTurn options feed before ∧
      AllInTurn options (System.performAll (Feed.perform options) feed before) after := by
  induction before generalizing feed with
  | nil => exact ⟨trivial, inTurn⟩
  | cons event before ih =>
      rcases ih inTurn.2 with ⟨first, second⟩
      exact ⟨⟨inTurn.1, first⟩, second⟩

theorem Feed.Sound.run (sound : feed.Sound) (inTurn : AllInTurn options feed events) :
    (System.performAll (Feed.perform options) feed events).Sound := by
  induction events generalizing feed with
  | nil => exact sound
  | cons event events ih => exact ih (sound.perform inTurn.1) inTurn.2

/-- A stopped feed stays stopped, and silent, until it is started. -/
theorem Feed.Sound.stopped_run (sound : feed.Sound) (stopped : feed.stopped = true)
    (inTurn : AllInTurn options feed events) (unstarted : .start ∉ events) :
    feed.OnlySays (· = .state .stopped)
      (System.performAll (Feed.perform options) feed events) := by
  induction events generalizing feed with
  | nil => exact .refl _ _
  | cons event events ih =>
      rcases @Sound.stopped_step options _ sound stopped _ inTurn.1
        (fun same => unstarted (same ▸ List.mem_cons_self)) with ⟨still, said⟩
      exact said.trans (ih (sound.perform inTurn.1) still inTurn.2
        fun later => unstarted (List.mem_cons_of_mem _ later))

theorem Feed.stop_says (feed : Feed) : feed.OnlySays Delivery.NotDialed feed.stop := by
  rcases teardown_eq { feed with stopped := true, reconnectTimer := false } NORMAL_CLOSURE
    "stopped" with ⟨sockets, first, torn, _, disconnected⟩
  rcases setState_eq ({ feed with stopped := true, reconnectTimer := false }.teardown
    NORMAL_CLOSURE "stopped") .stopped with ⟨second, same, said⟩
  refine ⟨first ++ second, ?_, ?_⟩
  · rw [Feed.stop, same, torn, List.append_assoc]
  · intro delivery member
    rcases List.mem_append.mp member with early | late
    · rw [disconnected delivery early]
      exact trivial
    · rw [said delivery late]
      exact trivial

theorem Feed.stop_stopped (feed : Feed) : feed.stop.stopped = true := by
  rcases teardown_eq { feed with stopped := true, reconnectTimer := false } NORMAL_CLOSURE
    "stopped" with ⟨sockets, first, torn, _, _⟩
  rcases setState_eq ({ feed with stopped := true, reconnectTimer := false }.teardown
    NORMAL_CLOSURE "stopped") .stopped with ⟨second, same, _⟩
  rw [Feed.stop, same, torn]

/-- A feed that was refused dials nothing until it is stopped and started. -/
theorem Feed.Sound.refused_run (sound : feed.Sound) (fatal : feed.state = .fatal)
    (inTurn : AllInTurn options feed events) (unrestarted : ¬[.stop, .start].Sublist events) :
    feed.OnlySays Delivery.NotDialed
      (System.performAll (Feed.perform options) feed events) := by
  induction events generalizing feed with
  | nil => exact .refl _ _
  | cons event events ih =>
      by_cases stops : event = .stop
      · cases stops
        have unstarted : .start ∉ events := fun later =>
          unrestarted (List.Sublist.cons_cons _ (List.singleton_sublist.mpr later))
        have silent := sound.stop.stopped_run feed.stop_stopped inTurn.2 unstarted
        refine feed.stop_says.trans (silent.mono ?_)
        intro delivery same
        rw [same]
        exact trivial
      · rcases @Sound.refused_step options _ sound fatal _ inTurn.1 stops with ⟨still, said⟩
        exact said.trans (ih (sound.perform inTurn.1) still inTurn.2
          fun later => unrestarted (later.cons _))

/-- A feed whose events come in turn is one live feed: the attempts do not overlap, and it
stays silent when it was stopped and down when it was refused. -/
theorem reconnectingSocket_oneLiveFeed (options : ReconnectingSocketOptions)
    (events : List FeedEvent) (inTurn : AllInTurn options createReconnectingSocket events) :
    OneLiveFeed options events where
  atMostOneFeeds := by
    intro before after split
    rw [split] at inTurn
    exact (Feed.sound_created.run inTurn.append.1).atMostOneFeeds
  attempting := by
    intro before after split
    rw [split] at inTurn
    exact (Feed.sound_created.run inTurn.append.1).working
  silent := by
    intro before between after split unstarted
    rw [split, List.append_assoc] at inTurn
    rcases inTurn.append with ⟨first, _, second⟩
    have sound := (Feed.sound_created.run first).stop
    have silent := sound.stopped_run (Feed.stop_stopped _) (AllInTurn.append second).1 unstarted
    rw [feedAfter, feedAfter, System.performAll_append, System.performAll_append]
    refine silent.mono ?_
    intro delivery same
    rw [same]
    rfl
  down := by
    intro before between after split fatal unrestarted
    rw [split] at inTurn
    rcases inTurn.append.1.append with ⟨first, second⟩
    rw [feedAfter, feedAfter, System.performAll_append]
    exact (Feed.sound_created.run first).refused_run fatal second unrestarted

/-! A session of a bot: a socket, a close, a reconnect, and a stop. -/

def sessionOfBot : List FeedEvent :=
  [.subscribed, .start, .resolved true, .socketOpens 0, .message 0 (some "hello"), .markLive,
    .closes 0 1006 "", .reconnectTimer, .resolved true, .socketOpens 1, .reconnect "no heartbeat ack",
    .stop, .reconnect "invalid session"]

theorem reconnectingSocket_session : OneLiveFeed createDiscordGateway sessionOfBot :=
  reconnectingSocket_oneLiveFeed createDiscordGateway sessionOfBot (by decide +kernel)

/-! The timer of an invalid session asks for a reconnect while the next attempt waits. -/

def invalidSession : List FeedEvent :=
  [.start, .resolved true, .socketOpens 0, .message 0 (some "invalid session"), .closes 0 1006 "",
    .reconnectTimer, .reconnect "invalid session", .reconnectTimer, .resolved true, .resolved true]

/-- Two attempts are under way, and then two sockets are heard. -/
theorem reconnectingSocket_overlaps : ¬OneLiveFeed createDiscordGateway invalidSession := by
  intro one
  have feeds := one.atMostOneFeeds invalidSession [] (List.append_nil _).symm 1 2
    ⟨2, true, .connecting⟩ ⟨2, true, .connecting⟩ (by decide +kernel) (by decide +kernel)
    (by decide +kernel) (by decide +kernel)
  cases feeds

end Runs

end ReconnectingSocket

end Reputo.Community
