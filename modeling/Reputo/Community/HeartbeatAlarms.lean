import Reputo.Community.HeartbeatRuns

/-!
# False alarms of the heartbeat

Where the first beat is close to the end of its interval, a server that takes as long as that to
acknowledge it is taken for dead.
-/

namespace Reputo.Community

open Reputo.Library

namespace DiscordGateway

open Gateway

/-- The first socket says hello, its first beat comes, and the interval ends. -/
def closeBeats (interval random : ℚ) : List GatewayEvent :=
  [.dials, .frame ⟨none, .hello (some interval)⟩ random false,
    .passes (firstBeatDelay interval random),
    .timer ⟨.firstBeat, firstBeatDelay interval random, 0⟩ false,
    .passes (timerDelay interval), .interval false]

/-- A gateway whose first socket said hello, with what it did since. -/
def afterHello (interval now : ℚ) (awaitingAck : Bool) (timers : List Timer)
    (newer : List Entry) : Gateway where
  now
  socket := some 0
  dialed := 1
  sessionId := none
  sequence := none
  heartbeatTimer := some ⟨timerDelay interval, timerDelay interval, 0⟩
  awaitingAck
  timers
  log := newer ++ [.sent 0 0 none .identify, .hello 0 0 interval]

section CloseBeats

variable {interval random latency : ℚ}

theorem performOr_hello (positive : 0 < interval) (drawn : 0 ≤ random ∧ random < 1) :
    System.performOr Gateway.perform { createDiscordGateway with socket := some 0, dialed := 1 }
      (.frame ⟨none, .hello (some interval)⟩ random false) =
    afterHello interval 0 false [⟨.firstBeat, firstBeatDelay interval random, 0⟩] [] := by
  simp only [System.performOr, perform, if_pos drawn, Option.getD_some, onMessage,
    if_neg (not_le.mpr positive)]
  simp [startHeartbeat, clearHeartbeat, note, resumeOrIdentify, send, createDiscordGateway,
    afterHello]

theorem performOr_passes {now time : ℚ} {awaitingAck : Bool} {timers : List Timer}
    {newer : List Entry}
    (awaited : (afterHello interval now awaitingAck timers newer).Awaits time) :
    System.performOr Gateway.perform (afterHello interval now awaitingAck timers newer)
      (.passes time) = afterHello interval time awaitingAck timers newer := by
  simp only [System.performOr, perform, if_pos awaited, Option.getD_some]
  rfl

theorem performOr_firstBeat (time : ℚ) :
    System.performOr Gateway.perform (afterHello interval time false [⟨.firstBeat, time, 0⟩] [])
      (.timer ⟨.firstBeat, time, 0⟩ false) =
    afterHello interval time true [] [.sent time 0 (some 0) (.heartbeat none)] := by
  simp [System.performOr, perform, afterHello, fire, beat, send, note]

theorem performOr_interval (newer : List Entry) :
    System.performOr Gateway.perform (afterHello interval (timerDelay interval) true [] newer)
      (.interval false) =
    (afterHello interval (timerDelay interval) true [] newer).ended
      (.asked (timerDelay interval) (some 0) (some 0) NO_HEARTBEAT_ACK) := by
  simp [System.performOr, perform, afterHello, beat, reconnect, teardown, onDisconnect, note,
    clearHeartbeat, ended, SESSION_LOST_CLOSE_CODES]

/-- A latency that reaches from the first beat to the end of the interval raises an alarm, though
the server is prompt. -/
theorem closeBeats_alarm (positive : 0 < interval) (drawn : 0 ≤ random ∧ random < 1)
    (early : firstBeatDelay interval random < timerDelay interval)
    (close : (beatGap (firstBeatDelay interval random) (timerDelay interval) : ℚ) ≤ latency) :
    Acknowledges latency 0 (closeBeats interval random) ∧
      .asked (timerDelay interval) (some 0) (some 0) NO_HEARTBEAT_ACK ∈
        (gatewayAfter (closeBeats interval random)).log := by
  have before : (firstBeatDelay interval random : ℚ) ≤ timerDelay interval := by
    exact_mod_cast early.le
  have reached : (timerDelay interval : ℚ) ≤ firstBeatDelay interval random + latency := by
    rw [beatGap, if_pos early, Nat.cast_sub early.le] at close
    linarith
  have dialed : System.performOr Gateway.perform createDiscordGateway .dials =
      { createDiscordGateway with socket := some 0, dialed := 1 } := rfl
  have first := @performOr_passes interval 0 (firstBeatDelay interval random) false
    [⟨.firstBeat, firstBeatDelay interval random, 0⟩] [] <| by
      refine ⟨Nat.cast_nonneg _, fun timer pending => ?_, ?_⟩
      · rw [List.mem_singleton.mp pending]
      · rintro _ ⟨⟩
        exact before
  have second := @performOr_passes interval (firstBeatDelay interval random)
    (timerDelay interval) true []
    [.sent (firstBeatDelay interval random) 0 (some 0) (.heartbeat none)] <| by
      refine ⟨before, fun _ pending => absurd pending List.not_mem_nil, ?_⟩
      rintro _ ⟨⟩
      exact le_rfl
  constructor
  · rw [Acknowledges, System.throughout_iff_allAlong, closeBeats]
    simp only [System.AllAlong, System.performAll, List.foldl_cons, List.foldl_nil, dialed,
      performOr_hello positive drawn, first, performOr_firstBeat, second, performOr_interval]
    have silent : ∀ time, time ∈ ([] : List ℚ) → ∀ now, now ≤ time + latency :=
      fun _ member => absurd member List.not_mem_nil
    refine ⟨⟨fun up => absurd up.symm (Option.some_ne_none _),
      fun _ time member => silent time member _, fun _ time member => silent time member _,
      fun _ time member => silent time member _, ?_, ?_, trivial⟩,
      fun up => absurd up.symm (Option.some_ne_none _)⟩
    · intro _ time member
      rw [List.mem_singleton.mp member]
      change (firstBeatDelay interval random : ℚ) ≤ firstBeatDelay interval random + latency
      linarith
    · intro _ time member
      rw [List.mem_singleton.mp member]
      exact reached
  · rw [gatewayAfter, closeBeats]
    simp only [System.performAll, List.foldl_cons, List.foldl_nil, dialed,
      performOr_hello positive drawn, first, performOr_firstBeat, second, performOr_interval]
    exact List.mem_cons_self

end CloseBeats

/-- The first socket is lost before its first beat, which then comes during the second. -/
def staleBeat : List GatewayEvent :=
  [.dials, .frame ⟨none, .hello (some 41250)⟩ (9 / 10) false, .passes 10000, .closes 1006,
    .passes 12000, .dials, .frame ⟨none, .hello (some 41250)⟩ (1 / 2) false, .passes 32625,
    .timer ⟨.firstBeat, 32625, 1⟩ false, .passes 32700, .frame ⟨none, .heartbeatAck⟩ 0 false,
    .passes 37125, .timer ⟨.firstBeat, 37125, 0⟩ false]

/-- The server acknowledges nothing, but asks for heartbeats itself. -/
def askedBeats : List GatewayEvent :=
  [.dials, .frame ⟨none, .hello (some 41250)⟩ (1 / 2) false, .passes 20625,
    .timer ⟨.firstBeat, 20625, 0⟩ false, .passes 30000, .frame ⟨none, .heartbeat⟩ 0 false,
    .passes 41250, .interval false, .passes 50000, .frame ⟨none, .heartbeat⟩ 0 false,
    .passes 82500, .interval false, .passes 82501]

def Entry.isSent : Entry → Bool
  | .sent _ _ _ _ => true
  | .hello _ _ _ => false
  | .acknowledged _ _ => false
  | .asked _ _ _ _ => false
  | .lost _ _ => false

/-- A prompt server is taken for dead, a timer of one socket sends over another, and a server that
acknowledges nothing is not given up in time. -/
theorem heartbeat_fails :
    (Acknowledges 600 0 (closeBeats 41250 (99 / 100)) ∧
      System.AllAlong Gateway.perform (LongerThan 600 0) createDiscordGateway
        (closeBeats 41250 (99 / 100)) ∧
      ¬NoAlarm 0 (gatewayAfter (closeBeats 41250 (99 / 100))).log) ∧
    (∃ entry ∈ (gatewayAfter staleBeat).log, ¬entry.OwnTimer) ∧
    ¬NoticesDead 0 (gatewayAfter askedBeats) ∧
    ¬∀ latency socket events,
      HeartbeatWorks LongerThan (fun _ _ _ => True) (fun _ _ => True) latency socket events := by
  have alarm := @closeBeats_alarm 41250 (99 / 100) 600 (by decide) (by decide +kernel)
    (by decide +kernel) (by decide +kernel)
  have longer : System.AllAlong Gateway.perform (LongerThan 600 0) createDiscordGateway
      (closeBeats 41250 (99 / 100)) := by decide +kernel
  have false_ : ¬NoAlarm 0 (gatewayAfter (closeBeats 41250 (99 / 100))).log :=
    fun quiet => quiet _ alarm.2 _ _ rfl
  refine ⟨⟨alarm.1, longer, false_⟩, ?_, ?_, ?_⟩
  · refine ⟨.sent 37125 1 (some 0) (.heartbeat none), by decide +kernel, fun own => ?_⟩
    exact absurd (own 0 rfl) (by decide)
  · intro notices
    have split : (gatewayAfter askedBeats).log =
        (gatewayAfter askedBeats).log.dropLast ++ .hello 0 0 41250 :: [] := by decide +kernel
    have onlySent : ∀ entry ∈ (gatewayAfter askedBeats).log.dropLast, entry.isSent = true := by
      decide +kernel
    have silent : ∀ acknowledged,
        .acknowledged acknowledged 0 ∉ (gatewayAfter askedBeats).log.dropLast :=
      fun _ member => absurd (onlySent _ member) nofun
    rcases notices _ _ _ _ split silent (by decide +kernel) with ⟨entry, member, noticed⟩
    have sent := onlySent entry member
    cases entry with
    | sent _ _ _ _ => exact noticed
    | hello _ _ _ => cases sent
    | acknowledged _ _ => cases sent
    | asked _ _ _ _ => cases sent
    | lost _ _ => cases sent
  · exact fun works => false_ ((works 600 0 _).noAlarm alarm.1 longer)

end DiscordGateway

end Reputo.Community
