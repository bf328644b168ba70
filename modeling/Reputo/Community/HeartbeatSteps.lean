import Reputo.Community.GatewayHeartbeat

/-!
# Steps of the heartbeat

What an event can do to the heartbeat of the gateway, said once for the proofs about its runs.
-/

namespace Reputo.Community

open Reputo.Library

namespace DiscordGateway

namespace Gateway

/-- What the heartbeat reads is the same; the session and its sequence may differ. -/
structure Alike (one other : Gateway) : Prop where
  now : one.now = other.now
  socket : one.socket = other.socket
  heartbeatTimer : one.heartbeatTimer = other.heartbeatTimer
  awaitingAck : one.awaitingAck = other.awaitingAck
  timers : one.timers = other.timers
  log : one.log = other.log

/-- The socket and its heartbeat are gone. -/
def ended (gateway : Gateway) (entry : Entry) : Gateway :=
  { gateway with
    socket := none
    heartbeatTimer := none
    awaitingAck := false
    log := entry :: gateway.log }

/-- Timers are not late, and a heartbeat is that of the socket. -/
structure Sound (gateway : Gateway) : Prop where
  timers : ∀ timer ∈ gateway.timers, gateway.now ≤ timer.due
  interval : ∀ interval ∈ gateway.heartbeatTimer, gateway.now ≤ interval.due
  current : ∀ interval ∈ gateway.heartbeatTimer, gateway.socket = some interval.socket
  idle : gateway.heartbeatTimer = none → gateway.awaitingAck = false

/-- Without a socket there is no heartbeat. -/
theorem Sound.idle_of_down {gateway : Gateway} (sound : gateway.Sound)
    (down : gateway.socket = none) : gateway.heartbeatTimer = none := by
  cases running : gateway.heartbeatTimer with
  | none => rfl
  | some interval =>
      exact absurd ((sound.current interval running).symm.trans down) (Option.some_ne_none _)

theorem Alike.refl (gateway : Gateway) : Alike gateway gateway :=
  ⟨rfl, rfl, rfl, rfl, rfl, rfl⟩

theorem Alike.trans {one other third : Gateway} (first : Alike one other)
    (second : Alike other third) : Alike one third :=
  ⟨first.now.trans second.now, first.socket.trans second.socket,
    first.heartbeatTimer.trans second.heartbeatTimer,
    first.awaitingAck.trans second.awaitingAck, first.timers.trans second.timers,
    first.log.trans second.log⟩

theorem Alike.ended {one other : Gateway} (same : Alike one other) (entry : Entry) :
    Alike (one.ended entry) (other.ended entry) :=
  ⟨same.now, rfl, rfl, rfl, same.timers, congrArg (entry :: ·) same.log⟩

theorem Alike.note {one other : Gateway} (same : Alike one other) (entry : Entry) :
    Alike (one.note entry) (other.note entry) :=
  ⟨same.now, same.socket, same.heartbeatTimer, same.awaitingAck, same.timers,
    congrArg (entry :: ·) same.log⟩

/-! ## Operations -/

section Operations

variable (gateway : Gateway) (code : Nat) (timer : Option Nat) (reason : String)

theorem onDisconnect_alike : Alike gateway.clearHeartbeat (gateway.onDisconnect code) := by
  unfold onDisconnect
  by_cases lost : code ∈ SESSION_LOST_CLOSE_CODES
  · rw [if_pos lost]
    exact ⟨rfl, rfl, rfl, rfl, rfl, rfl⟩
  · rw [if_neg lost]
    exact ⟨rfl, rfl, rfl, rfl, rfl, rfl⟩

variable {gateway} {base : Gateway} {socket : Nat}

theorem lose_alike (same : Alike base gateway) (up : base.socket = some socket) :
    Alike (base.ended (.lost base.now socket)) (gateway.lose code) := by
  have torn := onDisconnect_alike
    { gateway.note (.lost gateway.now socket) with socket := none } code
  have there : gateway.socket = some socket := same.socket ▸ up
  rw [lose, there, same.now]
  simp only [teardown, note, there]
  exact (same.ended _).trans ⟨torn.now, torn.socket, torn.heartbeatTimer, torn.awaitingAck,
    torn.timers, torn.log⟩

theorem reconnect_alike (same : Alike base gateway) (up : base.socket = some socket) :
    Alike (base.ended (.asked base.now (some socket) timer reason))
      (gateway.reconnect timer reason) := by
  have torn := onDisconnect_alike
    { gateway.note (.asked gateway.now (some socket) timer reason) with socket := none } 0
  have there : gateway.socket = some socket := same.socket ▸ up
  rw [reconnect, there, same.now]
  simp only [teardown, note, there]
  exact (same.ended _).trans ⟨torn.now, torn.socket, torn.heartbeatTimer, torn.awaitingAck,
    torn.timers, torn.log⟩

theorem reconnect_down (down : gateway.socket = none) :
    gateway.reconnect timer reason = gateway.note (.asked gateway.now none timer reason) := by
  rw [reconnect, down]
  simp only [teardown, note, down]

/-- What a send over a socket leaves: a frame that was sent, or a socket that was lost. -/
inductive Sends (gateway : Gateway) (socket : Nat) (timer : Option Nat) (payload : Outgoing) :
    Gateway → Prop
  | said : Sends gateway socket timer payload
      (gateway.note (.sent gateway.now socket timer payload))
  | lost : Sends gateway socket timer payload (gateway.ended (.lost gateway.now socket))

theorem send_sends (same : Alike base gateway) (up : base.socket = some socket)
    (payload : Outgoing) (throws : Bool) :
    ∃ after, Alike after (gateway.send timer payload throws) ∧
      Sends base socket timer payload after := by
  have there : gateway.socket = some socket := same.socket ▸ up
  cases throws with
  | false =>
      refine ⟨_, ?_, .said⟩
      rw [send, there, same.now]
      exact same.note _
  | true =>
      refine ⟨_, ?_, .lost⟩
      rw [send, there]
      exact lose_alike 0 same up

end Operations

/-- A hello was noted, and its heartbeat started. -/
def helloed (gateway : Gateway) (socket : Nat) (interval random : ℚ) : Gateway :=
  (gateway.note (.hello gateway.now socket interval)).startHeartbeat socket interval random

/-- The next beat comes one period later. -/
def rescheduled (gateway : Gateway) (interval : Interval) : Gateway :=
  { gateway with
    heartbeatTimer := some { interval with due := interval.due + interval.period }
    awaitingAck := true }

def without (gateway : Gateway) (timer : Timer) : Gateway :=
  { gateway with timers := gateway.timers.erase timer }

/-- What an event leaves of the heartbeat. -/
inductive Effect (gateway : Gateway) : GatewayEvent → Gateway → Prop
  | quiet (event : GatewayEvent) : Effect gateway event gateway
  | passes {time : ℚ} (awaited : gateway.Awaits time) :
      Effect gateway (.passes time) { gateway with now := time }
  | dials (down : gateway.socket = none) :
      Effect gateway .dials { gateway with socket := some gateway.dialed }
  | hello {socket : Nat} {s : Option Int} {interval random : ℚ} {throws : Bool}
      {payload : Outgoing} {after : Gateway} (up : gateway.socket = some socket)
      (drawn : random < 1) (positive : 0 < interval) (plain : ∀ d, payload ≠ .heartbeat d)
      (sends : Sends (gateway.helloed socket interval random) socket none payload after) :
      Effect gateway (.frame ⟨s, .hello (some interval)⟩ random throws) after
  | acknowledged {event : GatewayEvent} {socket : Nat} (up : gateway.socket = some socket) :
      Effect gateway event
        ({ gateway with awaitingAck := false }.note (.acknowledged gateway.now socket))
  | requested {socket : Nat} {s d : Option Int} {random : ℚ} {throws : Bool} {after : Gateway}
      (up : gateway.socket = some socket)
      (sends : Sends { gateway with awaitingAck := false } socket none (.heartbeat d) after) :
      Effect gateway (.frame ⟨s, .heartbeat⟩ random throws) after
  | refused {event : GatewayEvent} {socket : Nat} {reason : String}
      (up : gateway.socket = some socket) (other : reason ≠ NO_HEARTBEAT_ACK) :
      Effect gateway event (gateway.ended (.asked gateway.now (some socket) none reason))
  | lost {event : GatewayEvent} {socket : Nat} (up : gateway.socket = some socket) :
      Effect gateway event (gateway.ended (.lost gateway.now socket))
  | waits {event : GatewayEvent} {socket : Nat} (delay : Nat) (up : gateway.socket = some socket) :
      Effect gateway event { gateway with
        timers := gateway.timers ++ [⟨.invalidSession, gateway.now + delay, socket⟩] }
  | intervalAlarm {event : GatewayEvent} {interval : Interval}
      (running : gateway.heartbeatTimer = some interval) (due : interval.due ≤ gateway.now)
      (awaiting : gateway.awaitingAck = true) :
      Effect gateway event (gateway.ended
        (.asked gateway.now (some interval.socket) (some interval.socket) NO_HEARTBEAT_ACK))
  | intervalBeat {event : GatewayEvent} {interval : Interval} {d : Option Int} {after : Gateway}
      (running : gateway.heartbeatTimer = some interval) (due : interval.due ≤ gateway.now)
      (answered : gateway.awaitingAck = false)
      (sends : Sends (gateway.rescheduled interval) interval.socket (some interval.socket)
        (.heartbeat d) after) : Effect gateway event after
  | firstIdle {event : GatewayEvent} {timer : Timer} (kind : timer.kind = .firstBeat)
      (idle : gateway.heartbeatTimer = none) : Effect gateway event (gateway.without timer)
  | firstAlarm {event : GatewayEvent} {timer : Timer} {interval : Interval}
      (pending : timer ∈ gateway.timers) (kind : timer.kind = .firstBeat)
      (due : timer.due ≤ gateway.now) (running : gateway.heartbeatTimer = some interval)
      (awaiting : gateway.awaitingAck = true) :
      Effect gateway event ((gateway.without timer).ended
        (.asked gateway.now (some interval.socket) (some timer.socket) NO_HEARTBEAT_ACK))
  | firstBeat {event : GatewayEvent} {timer : Timer} {interval : Interval} {d : Option Int}
      {after : Gateway} (pending : timer ∈ gateway.timers) (kind : timer.kind = .firstBeat)
      (due : timer.due ≤ gateway.now) (running : gateway.heartbeatTimer = some interval)
      (answered : gateway.awaitingAck = false)
      (sends : Sends { gateway.without timer with awaitingAck := true } interval.socket
        (some timer.socket) (.heartbeat d) after) : Effect gateway event after
  | sessionEnds {event : GatewayEvent} {timer : Timer} {socket : Nat}
      (pending : timer ∈ gateway.timers) (kind : timer.kind = .invalidSession)
      (up : gateway.socket = some socket) :
      Effect gateway event ((gateway.without timer).ended
        (.asked gateway.now (some socket) (some timer.socket) "invalid session"))
  | sessionIdle {event : GatewayEvent} {timer : Timer} (kind : timer.kind = .invalidSession)
      (down : gateway.socket = none) :
      Effect gateway event
        ((gateway.without timer).note (.asked gateway.now none (some timer.socket)
          "invalid session"))

section Inversion

variable {gateway : Gateway} {socket : Nat}

/-- What follows a beat, of either kind of timer. -/
theorem beat_cases {base : Gateway} (same : Alike base gateway)
    (up : base.socket = some socket) (timer : Nat) (throws : Bool) :
    (base.awaitingAck = true ∧ Alike (base.ended
        (.asked base.now (some socket) (some timer) NO_HEARTBEAT_ACK))
        (gateway.beat timer throws)) ∨
      (base.awaitingAck = false ∧ ∃ d after, Alike after (gateway.beat timer throws) ∧
        Sends { base with awaitingAck := true } socket (some timer) (.heartbeat d) after) := by
  rw [beat]
  cases awaiting : gateway.awaitingAck with
  | true =>
      refine .inl ⟨same.awaitingAck.trans awaiting, ?_⟩
      exact reconnect_alike _ _ same up
  | false =>
      refine .inr ⟨same.awaitingAck.trans awaiting, gateway.sequence, ?_⟩
      have asked : Alike { base with awaitingAck := true } { gateway with awaitingAck := true } :=
        ⟨same.now, same.socket, same.heartbeatTimer, rfl, same.timers, same.log⟩
      exact send_sends (some timer) asked up _ throws

theorem resumeOrIdentify_sends {base : Gateway} (same : Alike base gateway)
    (up : base.socket = some socket) (throws : Bool) :
    ∃ payload after, (∀ d, payload ≠ .heartbeat d) ∧
      Alike after (gateway.resumeOrIdentify throws) ∧ Sends base socket none payload after := by
  have plain : ∃ payload, (∀ d, payload ≠ .heartbeat d) ∧
      gateway.resumeOrIdentify throws = gateway.send none payload throws := by
    rw [resumeOrIdentify]
    cases gateway.sessionId with
    | none => exact ⟨.identify, fun _ => Outgoing.noConfusion, rfl⟩
    | some sessionId =>
        cases gateway.sequence with
        | none => exact ⟨.identify, fun _ => Outgoing.noConfusion, rfl⟩
        | some sequence =>
            exact ⟨.resume sessionId sequence, fun _ => Outgoing.noConfusion, rfl⟩
  rcases plain with ⟨payload, plain, equal⟩
  rcases send_sends none same up payload throws with ⟨after, alike, sends⟩
  exact ⟨payload, after, plain, equal ▸ alike, sends⟩

/-- What a frame leaves. -/
theorem onMessage_effect (up : gateway.socket = some socket) (frame : GatewayPayload)
    {random : ℚ} (drawn : random < 1) (throws : Bool) :
    ∃ after, Alike after (gateway.onMessage socket frame random throws) ∧
      gateway.Effect (.frame frame random throws) after := by
  rcases frame with ⟨s, op⟩
  have same : Alike gateway { gateway with sequence := s.or gateway.sequence } :=
    ⟨rfl, rfl, rfl, rfl, rfl, rfl⟩
  cases op with
  | hello interval =>
      cases interval with
      | none =>
          exact ⟨_, reconnect_alike none "hello without a heartbeat interval" same up,
            .refused up (by decide)⟩
      | some interval =>
          simp only [onMessage]
          by_cases none_ : interval ≤ 0
          · rw [if_pos none_]
            exact ⟨_, reconnect_alike none "hello without a heartbeat interval" same up,
              .refused up (by decide)⟩
          · rw [if_neg none_]
            have started : Alike (gateway.helloed socket interval random)
                (({ gateway with sequence := s.or gateway.sequence }.note
                  (.hello gateway.now socket interval)).startHeartbeat socket interval random) :=
              ⟨rfl, rfl, rfl, rfl, rfl, rfl⟩
            rcases resumeOrIdentify_sends started up throws with
              ⟨payload, after, plain, alike, sends⟩
            exact ⟨after, alike, .hello up drawn (not_le.mp none_) plain sends⟩
  | heartbeatAck =>
      refine ⟨_, ?_, .acknowledged up⟩
      exact ⟨rfl, rfl, rfl, rfl, rfl, rfl⟩
  | heartbeat =>
      have answered : Alike { gateway with awaitingAck := false }
          { gateway with sequence := s.or gateway.sequence, awaitingAck := false } :=
        ⟨rfl, rfl, rfl, rfl, rfl, rfl⟩
      rcases send_sends none answered up (.heartbeat (s.or gateway.sequence)) throws with
        ⟨after, alike, sends⟩
      exact ⟨after, alike, .requested up sends⟩
  | reconnect =>
      exact ⟨_, reconnect_alike none "gateway asked for a reconnect" same up,
        .refused up (by decide)⟩
  | invalidSession resumable =>
      refine ⟨_, ?_, .waits (timerDelay (INVALID_SESSION_DELAY_MIN +
        random * (INVALID_SESSION_DELAY_MAX - INVALID_SESSION_DELAY_MIN))) up⟩
      cases resumable with
      | true => exact ⟨rfl, rfl, rfl, rfl, rfl, rfl⟩
      | false => exact ⟨rfl, rfl, rfl, rfl, rfl, rfl⟩
  | ready session_id =>
      refine ⟨_, ?_, .quiet _⟩
      exact ⟨rfl, rfl, rfl, rfl, rfl, rfl⟩
  | other => exact ⟨_, same, .quiet _⟩

/-- What a timer leaves that fires once. -/
theorem fire_effect {event : GatewayEvent} (sound : gateway.Sound) {timer : Timer}
    (pending : timer ∈ gateway.timers) (due : timer.due ≤ gateway.now) (throws : Bool) :
    ∃ after, Alike after ((gateway.without timer).fire timer throws) ∧
      gateway.Effect event after := by
  rw [fire]
  cases kind : timer.kind with
  | firstBeat =>
      cases running : gateway.heartbeatTimer with
      | none =>
          refine ⟨_, ?_, .firstIdle kind running⟩
          simp only [without, running, if_true]
          exact .refl _
      | some interval =>
          have up := sound.current interval running
          have running' : (gateway.without timer).heartbeatTimer ≠ none := by
            rw [without, running]
            exact Option.some_ne_none _
          simp only [running', if_false]
          rcases beat_cases (.refl (gateway.without timer)) up timer.socket throws with
            ⟨awaiting, alike⟩ | ⟨answered, d, after, alike, sends⟩
          · exact ⟨_, alike, .firstAlarm pending kind due running awaiting⟩
          · exact ⟨after, alike, .firstBeat pending kind due running answered sends⟩
  | invalidSession =>
      cases up : gateway.socket with
      | none =>
          refine ⟨_, ?_, .sessionIdle kind up⟩
          rw [@reconnect_down (gateway.without timer) _ _ up]
          exact .refl _
      | some socket =>
          exact ⟨_, reconnect_alike (some timer.socket) "invalid session"
            (.refl (gateway.without timer)) up, .sessionEnds pending kind up⟩

/-- What a beat of the interval leaves. -/
theorem interval_effect {event : GatewayEvent} (sound : gateway.Sound) {interval : Interval}
    (running : gateway.heartbeatTimer = some interval) (due : interval.due ≤ gateway.now)
    (throws : Bool) :
    ∃ after, Alike after ({ gateway with
        heartbeatTimer := some { interval with due := interval.due + interval.period }
        }.beat interval.socket throws) ∧ gateway.Effect event after := by
  have up := sound.current interval running
  rcases beat_cases (.refl { gateway with
      heartbeatTimer := some { interval with due := interval.due + interval.period } }) up
      interval.socket throws with ⟨awaiting, alike⟩ | ⟨answered, d, after, alike, sends⟩
  · exact ⟨_, alike, .intervalAlarm running due awaiting⟩
  · exact ⟨after, alike, .intervalBeat running due answered sends⟩

/-- Every event has one of the effects. -/
theorem performOr_effect (sound : gateway.Sound) (event : GatewayEvent) :
    ∃ after, Alike after (System.performOr perform gateway event) ∧
      gateway.Effect event after := by
  cases event with
  | passes time =>
      by_cases awaited : gateway.Awaits time
      · refine ⟨_, ?_, .passes awaited⟩
        simp only [System.performOr, perform, if_pos awaited, Option.getD_some]
        exact .refl _
      · refine ⟨_, ?_, .quiet _⟩
        simp only [System.performOr, perform, if_neg awaited, Option.getD_none]
        exact .refl _
  | dials =>
      cases up : gateway.socket with
      | none =>
          refine ⟨_, ?_, .dials up⟩
          simp only [System.performOr, perform, up, Option.getD_some]
          exact ⟨rfl, rfl, rfl, rfl, rfl, rfl⟩
      | some socket =>
          refine ⟨_, ?_, .quiet _⟩
          simp only [System.performOr, perform, up, Option.getD_none]
          exact .refl _
  | frame payload random throws =>
      cases up : gateway.socket with
      | none =>
          refine ⟨_, ?_, .quiet _⟩
          simp only [System.performOr, perform, up, Option.getD_none]
          exact .refl _
      | some socket =>
          by_cases drawn : 0 ≤ random ∧ random < 1
          · simp only [System.performOr, perform, up, if_pos drawn, Option.getD_some]
            exact onMessage_effect up payload drawn.2 throws
          · refine ⟨_, ?_, .quiet _⟩
            simp only [System.performOr, perform, up, if_neg drawn, Option.getD_none]
            exact .refl _
  | closes code =>
      cases up : gateway.socket with
      | none =>
          refine ⟨_, ?_, .quiet _⟩
          simp only [System.performOr, perform, up, Option.getD_none]
          exact .refl _
      | some socket =>
          refine ⟨_, ?_, .lost up⟩
          simp only [System.performOr, perform, up, Option.getD_some]
          exact lose_alike code (.refl gateway) up
  | stops =>
      simp only [System.performOr, perform, Option.getD_some, stop]
      cases up : gateway.socket with
      | none =>
          have resting := sound.idle_of_down up
          refine ⟨_, ?_, .quiet _⟩
          simp only [lose, dropSession, clearHeartbeat, up]
          exact ⟨rfl, up, resting, sound.idle resting, rfl, rfl⟩
      | some socket =>
          have base : Alike gateway.clearHeartbeat gateway.clearHeartbeat.dropSession :=
            ⟨rfl, rfl, rfl, rfl, rfl, rfl⟩
          exact ⟨_, lose_alike 1000 base up, .lost up⟩
  | interval throws =>
      cases running : gateway.heartbeatTimer with
      | none =>
          refine ⟨_, ?_, .quiet _⟩
          simp only [System.performOr, perform, running, Option.getD_none]
          exact .refl _
      | some interval =>
          by_cases due : interval.due ≤ gateway.now
          · simp only [System.performOr, perform, running, if_pos due, Option.getD_some]
            exact interval_effect sound running due throws
          · refine ⟨_, ?_, .quiet _⟩
            simp only [System.performOr, perform, running, if_neg due, Option.getD_none]
            exact .refl _
  | timer timer throws =>
      by_cases fires : timer ∈ gateway.timers ∧ timer.due ≤ gateway.now
      · simp only [System.performOr, perform, if_pos fires, Option.getD_some]
        exact fire_effect sound fires.1 fires.2 throws
      · refine ⟨_, ?_, .quiet _⟩
        simp only [System.performOr, perform, if_neg fires, Option.getD_none]
        exact .refl _

end Inversion

end Gateway

end DiscordGateway

end Reputo.Community
