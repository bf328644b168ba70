import Mathlib.Data.List.Count
import Mathlib.Tactic.Linarith
import Reputo.Community.HeartbeatSteps

/-!
# Runs of the heartbeat

Three invariants of a run: timers keep to their socket, an acknowledgement comes before the next
beat, and a heartbeat without acknowledgements ends in time.
-/

namespace Reputo.Community

open Reputo.Library

namespace DiscordGateway

namespace Gateway

variable {gateway : Gateway}

theorem Sends.kept {holds : Gateway → Prop} {socket : Nat} {timer : Option Nat}
    {payload : Outgoing} {after : Gateway} (sends : Sends gateway socket timer payload after)
    (said : holds (gateway.note (.sent gateway.now socket timer payload)))
    (lost : holds (gateway.ended (.lost gateway.now socket))) : holds after := by
  cases sends with
  | said => exact said
  | lost => exact lost

/-! ## Timers are in time -/

theorem Sound.alike {one other : Gateway} (same : Alike one other) (sound : one.Sound) :
    other.Sound := by
  rcases sound with ⟨timers, interval, current, idle⟩
  rw [same.now, same.timers] at timers
  rw [same.now, same.heartbeatTimer] at interval
  rw [same.heartbeatTimer, same.socket] at current
  rw [same.heartbeatTimer, same.awaitingAck] at idle
  exact ⟨timers, interval, current, idle⟩

theorem Sound.ended (sound : gateway.Sound) (entry : Entry) : (gateway.ended entry).Sound :=
  ⟨sound.timers, nofun, nofun, fun _ => rfl⟩

theorem Sound.note (sound : gateway.Sound) (entry : Entry) : (gateway.note entry).Sound :=
  ⟨sound.timers, sound.interval, sound.current, sound.idle⟩

theorem Sound.without (sound : gateway.Sound) (timer : Timer) : (gateway.without timer).Sound :=
  ⟨fun other pending => sound.timers other (List.mem_of_mem_erase pending), sound.interval,
    sound.current, sound.idle⟩

theorem Sound.helloed (sound : gateway.Sound) {socket : Nat} (up : gateway.socket = some socket)
    (interval random : ℚ) : (gateway.helloed socket interval random).Sound := by
  refine ⟨?_, ?_, ?_, nofun⟩
  · intro timer pending
    rcases List.mem_append.mp pending with before | added
    · exact sound.timers timer before
    · rw [List.mem_singleton.mp added]
      exact le_add_of_nonneg_right (Nat.cast_nonneg _)
  · rintro _ ⟨⟩
    exact le_add_of_nonneg_right (Nat.cast_nonneg _)
  · rintro _ ⟨⟩
    exact up

theorem Sound.rescheduled (sound : gateway.Sound) {interval : Interval}
    (running : gateway.heartbeatTimer = some interval) :
    (gateway.rescheduled interval).Sound := by
  refine ⟨sound.timers, ?_, ?_, nofun⟩
  · rintro _ ⟨⟩
    exact (sound.interval interval running).trans (le_add_of_nonneg_right (Nat.cast_nonneg _))
  · rintro _ ⟨⟩
    exact sound.current interval running

theorem Sound.effect (sound : gateway.Sound) {event : GatewayEvent} {after : Gateway}
    (effect : gateway.Effect event after) : after.Sound := by
  cases effect with
  | quiet => exact sound
  | passes awaited =>
      exact ⟨fun timer => awaited.2.1 timer, fun interval => awaited.2.2 interval, sound.current,
        sound.idle⟩
  | dials down =>
      exact ⟨sound.timers, sound.interval, fun interval running =>
        absurd (down.symm.trans (sound.current interval running)) nofun, sound.idle⟩
  | hello up _ _ _ sends =>
      have started := sound.helloed up
      exact sends.kept ((started _ _).note _) ((started _ _).ended _)
  | acknowledged up =>
      exact ⟨sound.timers, sound.interval, sound.current, fun _ => rfl⟩
  | requested up sends =>
      have answered : Sound { gateway with awaitingAck := false } :=
        ⟨sound.timers, sound.interval, sound.current, fun _ => rfl⟩
      exact sends.kept (answered.note _) (answered.ended _)
  | refused up _ => exact sound.ended _
  | lost up => exact sound.ended _
  | waits delay up =>
      refine ⟨?_, sound.interval, sound.current, sound.idle⟩
      intro timer pending
      rcases List.mem_append.mp pending with before | added
      · exact sound.timers timer before
      · rw [List.mem_singleton.mp added]
        exact le_add_of_nonneg_right (Nat.cast_nonneg _)
  | intervalAlarm _ _ _ => exact sound.ended _
  | intervalBeat running _ _ sends =>
      have next := sound.rescheduled running
      exact sends.kept (next.note _) (next.ended _)
  | firstIdle _ _ => exact sound.without _
  | firstAlarm _ _ _ _ _ => exact (sound.without _).ended _
  | @firstBeat _ timer _ _ _ _ _ _ running _ sends =>
      have next : Sound { gateway.without timer with awaitingAck := true } :=
        ⟨(sound.without timer).timers, sound.interval, sound.current, fun idle =>
          absurd (running.symm.trans idle) nofun⟩
      exact sends.kept (next.note _) (next.ended _)
  | sessionEnds _ _ _ => exact (sound.without _).ended _
  | sessionIdle _ _ => exact (sound.without _).note _

theorem sound_create : createDiscordGateway.Sound :=
  ⟨nofun, nofun, nofun, fun _ => rfl⟩

/-- What is kept by every effect holds, with soundness, at the end of a run. -/
theorem holds_after {holds : Gateway → Prop} {condition : Gateway → GatewayEvent → Prop}
    (alike : ∀ one other, Alike one other → holds one → holds other)
    (kept : ∀ (gateway : Gateway) event after, gateway.Sound → holds gateway →
      condition gateway event → gateway.Effect event after → holds after)
    {events : List GatewayEvent}
    (along : System.AllAlong perform condition createDiscordGateway events)
    (first : holds createDiscordGateway) :
    (gatewayAfter events).Sound ∧ holds (gatewayAfter events) := by
  have step : ∀ gateway event, gateway.Sound ∧ holds gateway → condition gateway event →
      (System.performOr perform gateway event).Sound ∧
        holds (System.performOr perform gateway event) := by
    intro gateway event ⟨sound, holding⟩ met
    rcases performOr_effect sound event with ⟨after, same, effect⟩
    exact ⟨(sound.effect effect).alike same,
      alike after _ same (kept gateway event after sound holding met effect)⟩
  exact along.invariant step ⟨sound_create, first⟩

/-! ## Timers keep to their socket -/

/-- First beats are those of the heartbeat, and waits after an invalid session those of the
socket. -/
structure Apart (gateway : Gateway) : Prop where
  beats : ∀ interval ∈ gateway.heartbeatTimer, ∀ timer ∈ gateway.timers,
    timer.kind = .firstBeat → timer.socket = interval.socket
  waits : ∀ socket, gateway.socket = some socket → ∀ timer ∈ gateway.timers,
    timer.kind = .invalidSession → timer.socket = socket
  own : ∀ entry ∈ gateway.log, entry.OwnTimer

theorem Apart.alike {one other : Gateway} (same : Alike one other) (apart : one.Apart) :
    other.Apart := by
  rcases apart with ⟨beats, waits, own⟩
  rw [same.heartbeatTimer, same.timers] at beats
  rw [same.socket, same.timers] at waits
  rw [same.log] at own
  exact ⟨beats, waits, own⟩

theorem Apart.ended (apart : gateway.Apart) {entry : Entry} (own : entry.OwnTimer) :
    (gateway.ended entry).Apart :=
  ⟨nofun, nofun, List.forall_mem_cons.mpr ⟨own, apart.own⟩⟩

theorem Apart.note (apart : gateway.Apart) {entry : Entry} (own : entry.OwnTimer) :
    (gateway.note entry).Apart :=
  ⟨apart.beats, apart.waits, List.forall_mem_cons.mpr ⟨own, apart.own⟩⟩

theorem Apart.without (apart : gateway.Apart) (timer : Timer) : (gateway.without timer).Apart :=
  ⟨fun interval running other pending =>
      apart.beats interval running other (List.mem_of_mem_erase pending),
    fun socket up other pending => apart.waits socket up other (List.mem_of_mem_erase pending),
    apart.own⟩

/-- The flag says nothing about timers. -/
theorem Apart.awaiting (apart : gateway.Apart) (awaitingAck : Bool) :
    Apart { gateway with awaitingAck } :=
  ⟨apart.beats, apart.waits, apart.own⟩

theorem Apart.helloed (apart : gateway.Apart) {socket : Nat} (interval random : ℚ)
    (earlier : ∀ timer ∈ gateway.timers, timer.kind = .firstBeat → timer.socket = socket) :
    (gateway.helloed socket interval random).Apart := by
  refine ⟨?_, ?_, List.forall_mem_cons.mpr ⟨trivial, apart.own⟩⟩
  · rintro _ ⟨⟩ timer pending kind
    rcases List.mem_append.mp pending with before | added
    · exact earlier timer before kind
    · rw [List.mem_singleton.mp added]
  · intro current up timer pending kind
    rcases List.mem_append.mp pending with before | added
    · exact apart.waits current up timer before kind
    · rw [List.mem_singleton.mp added] at kind
      exact absurd kind nofun

theorem ownTimer_refl (time : ℚ) (socket : Nat) (payload : Outgoing) :
    (Entry.sent time socket (some socket) payload).OwnTimer := by
  rintro _ ⟨⟩
  rfl

theorem ownTimer_asked (time : ℚ) (socket : Nat) (reason : String) :
    (Entry.asked time (some socket) (some socket) reason).OwnTimer := by
  rintro _ ⟨⟩ _ ⟨⟩
  rfl

theorem Apart.effect (apart : gateway.Apart) {event : GatewayEvent} {after : Gateway}
    (met : TimersOver gateway event) (effect : gateway.Effect event after) :
    after.Apart := by
  cases effect with
  | quiet => exact apart
  | passes _ => exact ⟨apart.beats, apart.waits, apart.own⟩
  | dials down =>
      refine ⟨apart.beats, ?_, apart.own⟩
      exact fun socket _ timer pending kind => absurd kind (met.2 rfl timer pending)
  | @hello _ _ interval random _ _ _ up _ positive _ sends =>
      have started := apart.helloed interval random (met.1 _ up up positive)
      exact sends.kept (started.note nofun) (started.ended trivial)
  | acknowledged up => exact (apart.awaiting false).note trivial
  | requested up sends =>
      exact sends.kept ((apart.awaiting false).note nofun) ((apart.awaiting false).ended trivial)
  | refused up _ => exact apart.ended nofun
  | lost up => exact apart.ended trivial
  | waits delay up =>
      refine ⟨?_, ?_, apart.own⟩
      · intro interval running timer pending kind
        rcases List.mem_append.mp pending with before | added
        · exact apart.beats interval running timer before kind
        · rw [List.mem_singleton.mp added] at kind
          exact absurd kind nofun
      · intro socket there timer pending kind
        rcases List.mem_append.mp pending with before | added
        · exact apart.waits socket there timer before kind
        · rw [List.mem_singleton.mp added]
          exact Option.some.inj (up.symm.trans there)
  | intervalAlarm running _ _ => exact apart.ended (ownTimer_asked _ _ _)
  | @intervalBeat _ interval _ _ running _ _ sends =>
      have next : (gateway.rescheduled interval).Apart := by
        refine ⟨?_, apart.waits, apart.own⟩
        rintro _ ⟨⟩
        exact apart.beats interval running
      exact sends.kept (next.note (ownTimer_refl _ _ _)) (next.ended trivial)
  | firstIdle _ _ => exact apart.without _
  | firstAlarm pending kind _ running _ =>
      refine (apart.without _).ended ?_
      rw [apart.beats _ running _ pending kind]
      exact ownTimer_asked _ _ _
  | @firstBeat _ timer _ _ _ pending kind _ running _ sends =>
      rw [apart.beats _ running _ pending kind] at sends
      have next := (apart.without timer).awaiting true
      exact sends.kept (next.note (ownTimer_refl _ _ _)) (next.ended trivial)
  | sessionEnds pending kind up =>
      refine (apart.without _).ended ?_
      rw [apart.waits _ up _ pending kind]
      exact ownTimer_asked _ _ _
  | sessionIdle _ _ => exact (apart.without _).note nofun

/-! ## Acknowledgements come before the next beat -/

/-- The first beat keeps its distance from the beats of every period. -/
theorem beatGap_le (first n : Nat) {period : Nat} (positive : 0 < period) :
    (beatGap first period : ℚ) ≤ |(first : ℚ) - (period + n * period)| := by
  have apart : beatGap first period + (n + 1) * period ≤ first ∨
      beatGap first period + first ≤ (n + 1) * period := by
    rw [beatGap]
    by_cases early : first < period
    · rw [if_pos early]
      have later : period ≤ (n + 1) * period := Nat.le_mul_of_pos_left period (Nat.succ_pos n)
      omega
    · rw [if_neg early]
      have divided := Nat.div_add_mod first period
      rw [Nat.mul_comm] at divided
      by_cases before : n + 1 ≤ first / period
      · have product := Nat.mul_le_mul_right period before
        omega
      · have product := Nat.mul_le_mul_right period (Nat.succ_le_of_lt (not_le.mp before))
        rw [Nat.succ_mul] at product
        have rest := Nat.mod_lt first positive
        omega
  rcases apart with before | later
  · have cast : (beatGap first period : ℚ) + (n + 1) * period ≤ first := by exact_mod_cast before
    exact le_abs.mpr (.inl (by linarith))
  · have cast : (beatGap first period : ℚ) + first ≤ (n + 1) * period := by exact_mod_cast later
    exact le_abs.mpr (.inr (by linarith))

theorem beatGap_le_period (first period : Nat) : beatGap first period ≤ period := by
  rw [beatGap]
  split
  · exact Nat.sub_le _ _
  · exact (min_le_right _ _).trans (Nat.sub_le _ _)

theorem timerDelay_pos (delay : ℚ) : 0 < timerDelay delay := by
  rw [timerDelay]
  split
  · rename_i range
    have one : (1 : Int) ≤ ⌊delay⌋ := Int.le_floor.mpr (by exact_mod_cast range.1)
    omega
  · exact Nat.one_pos

/-- A send acknowledges nothing. -/
theorem mem_unacknowledged_sent {socket : Nat} {log : List Entry} {time : ℚ}
    (unanswered : time ∈ unacknowledged socket log) (sentAt : ℚ) (other : Nat)
    (timer : Option Nat) (payload : Outgoing) :
    time ∈ unacknowledged socket (.sent sentAt other timer payload :: log) := by
  cases payload with
  | heartbeat d =>
      rw [unacknowledged]
      split
      · exact List.mem_cons_of_mem _ unanswered
      · exact unanswered
  | identify => exact unanswered
  | resume _ _ => exact unanswered

/-- Beats of a heartbeat are further apart than the latency, and an acknowledgement that is owed
comes before the next. -/
structure BeatsApart (latency : ℚ) (socket : Nat) (gateway : Gateway) (interval : Interval) :
    Prop where
  period : latency < interval.period
  single : gateway.timers.countP (fun timer => timer.kind = .firstBeat) ≤ 1
  apart : ∀ timer ∈ gateway.timers, timer.kind = .firstBeat → ∀ n : Nat,
    latency < |timer.due - (interval.due + n * interval.period)|
  answered : gateway.awaitingAck = true → ∃ time ∈ unacknowledged socket gateway.log,
    time + latency < interval.due ∧
      ∀ timer ∈ gateway.timers, timer.kind = .firstBeat → time + latency < timer.due

/-- The heartbeat of one socket, while its server is prompt. -/
structure Steady (latency : ℚ) (socket : Nat) (gateway : Gateway) : Prop where
  beats : ∀ interval ∈ gateway.heartbeatTimer, interval.socket = socket →
    BeatsApart latency socket gateway interval
  noAlarm : NoAlarm socket gateway.log

section Steady

variable {latency : ℚ} {socket : Nat}

theorem Steady.alike {one other : Gateway} (same : Alike one other)
    (steady : one.Steady latency socket) : other.Steady latency socket := by
  rcases steady with ⟨beats, noAlarm⟩
  rw [same.heartbeatTimer] at beats
  rw [same.log] at noAlarm
  refine ⟨fun interval running own => ?_, noAlarm⟩
  rcases beats interval running own with ⟨period, single, apart, answered⟩
  rw [same.timers] at single apart answered
  rw [same.awaitingAck, same.log] at answered
  exact ⟨period, single, apart, answered⟩

theorem noAlarm_cons {entry : Entry} {log : List Entry} (quiet : NoAlarm socket log)
    (other : ∀ time timer, entry ≠ .asked time (some socket) timer NO_HEARTBEAT_ACK) :
    NoAlarm socket (entry :: log) :=
  List.forall_mem_cons.mpr ⟨other, quiet⟩

theorem noAlarm_sent {log : List Entry} (quiet : NoAlarm socket log) (time : ℚ) (there : Nat)
    (timer : Option Nat) (payload : Outgoing) :
    NoAlarm socket (.sent time there timer payload :: log) :=
  noAlarm_cons quiet fun _ _ => Entry.noConfusion

theorem noAlarm_lost {log : List Entry} (quiet : NoAlarm socket log) (time : ℚ) (there : Nat) :
    NoAlarm socket (.lost time there :: log) :=
  noAlarm_cons quiet fun _ _ => Entry.noConfusion

/-- Without a heartbeat nothing is said of its beats. -/
theorem steady_of_idle (idle : gateway.heartbeatTimer = none)
    (quiet : NoAlarm socket gateway.log) : gateway.Steady latency socket :=
  ⟨fun _ running => absurd (running.symm.trans idle) (Option.some_ne_none _), quiet⟩

theorem Steady.lost (steady : gateway.Steady latency socket) (time : ℚ) (there : Nat) :
    (gateway.ended (.lost time there)).Steady latency socket :=
  steady_of_idle rfl (noAlarm_lost steady.noAlarm time there)

/-- While no acknowledgement is owed, only the distances of the beats matter. -/
theorem Steady.answered_note (steady : gateway.Steady latency socket)
    (answered : gateway.awaitingAck = false) {entry : Entry}
    (quiet : NoAlarm socket (entry :: gateway.log)) :
    (gateway.note entry).Steady latency socket := by
  refine ⟨fun interval running own => ?_, quiet⟩
  have beats := steady.beats interval running own
  exact ⟨beats.period, beats.single, beats.apart, fun awaiting =>
    Bool.noConfusion (answered.symm.trans awaiting)⟩

/-- A send, while no acknowledgement is owed. -/
theorem Steady.sends (steady : gateway.Steady latency socket)
    (answered : gateway.awaitingAck = false) {there : Nat} {timer : Option Nat}
    {payload : Outgoing} {after : Gateway} (sends : Sends gateway there timer payload after) :
    after.Steady latency socket :=
  sends.kept (steady.answered_note answered (noAlarm_sent steady.noAlarm _ _ _ _))
    (steady.lost _ _)

theorem Steady.answers (steady : gateway.Steady latency socket) :
    Steady latency socket { gateway with awaitingAck := false } :=
  ⟨fun interval running own => ⟨(steady.beats interval running own).period,
    (steady.beats interval running own).single, (steady.beats interval running own).apart,
    nofun⟩, steady.noAlarm⟩

/-- A hello starts a heartbeat whose beats are apart. -/
theorem Steady.helloed (steady : gateway.Steady latency socket) {there : Nat}
    {interval random : ℚ}
    (spaced : there = socket →
      latency < beatGap (firstBeatDelay interval random) (timerDelay interval) ∧
        ¬gateway.FirstBeatPending) :
    (gateway.helloed there interval random).Steady latency socket := by
  refine ⟨?_, noAlarm_cons steady.noAlarm nofun⟩
  rintro _ ⟨⟩ own
  rcases spaced own with ⟨gap, fresh⟩
  have none_ : ∀ timer ∈ gateway.timers, timer.kind ≠ .firstBeat :=
    fun timer pending kind => fresh ⟨timer, pending, kind⟩
  refine ⟨?_, ?_, ?_, nofun⟩
  · exact gap.trans_le (Nat.cast_le.mpr (beatGap_le_period _ _))
  · have before : gateway.timers.countP (fun timer => timer.kind = .firstBeat) = 0 :=
      List.countP_eq_zero.mpr fun timer pending => by simpa using none_ timer pending
    simp [Gateway.helloed, startHeartbeat, clearHeartbeat, note, List.countP_append, before]
  · intro timer pending kind n
    rcases List.mem_append.mp pending with before | added
    · exact absurd kind (none_ timer before)
    · rw [List.mem_singleton.mp added]
      refine gap.trans_le ((beatGap_le _ n (timerDelay_pos interval)).trans_eq ?_)
      congr 1
      simp only [note, clearHeartbeat]
      ring

/-- An alarm does not come: the acknowledgement that it misses was due before. -/
theorem not_overdue (sound : gateway.Sound) (prompt : gateway.Prompt latency socket)
    {interval : Interval} (running : gateway.heartbeatTimer = some interval)
    (own : interval.socket = socket) {time : ℚ}
    (unanswered : time ∈ unacknowledged socket gateway.log) : gateway.now ≤ time + latency := by
  have up := sound.current interval running
  rw [own] at up
  exact prompt up time unanswered

theorem Steady.effect (sound : gateway.Sound) (steady : gateway.Steady latency socket)
    {event : GatewayEvent} {after : Gateway}
    (met : gateway.Prompt latency socket ∧ Spaced latency socket gateway event)
    (effect : gateway.Effect event after) : after.Steady latency socket := by
  cases effect with
  | quiet => exact steady
  | passes _ =>
      exact ⟨fun interval running own => ⟨(steady.beats interval running own).period,
        (steady.beats interval running own).single, (steady.beats interval running own).apart,
        (steady.beats interval running own).answered⟩, steady.noAlarm⟩
  | dials down =>
      exact steady_of_idle (sound.idle_of_down down) steady.noAlarm
  | @hello there _ interval random _ _ _ up _ positive _ sends =>
      have started : (gateway.helloed there interval random).Steady latency socket := by
        refine steady.helloed fun own => ?_
        rw [own] at up
        exact met.2 up positive
      exact started.sends rfl sends
  | acknowledged up =>
      exact steady.answers.answered_note rfl
        (noAlarm_cons steady.noAlarm fun _ _ => Entry.noConfusion)
  | requested up sends => exact steady.answers.sends rfl sends
  | refused up other =>
      refine steady_of_idle rfl (noAlarm_cons steady.noAlarm fun time timer same => other ?_)
      injection same
  | lost up => exact steady.lost _ _
  | @waits _ there delay up =>
      refine ⟨fun interval running own => ?_, steady.noAlarm⟩
      have beats := steady.beats interval running own
      have first : ∀ timer ∈ gateway.timers ++
          [⟨.invalidSession, gateway.now + delay, there⟩], timer.kind = .firstBeat →
            timer ∈ gateway.timers := by
        intro timer pending kind
        rcases List.mem_append.mp pending with before | added
        · exact before
        · rw [List.mem_singleton.mp added] at kind
          exact TimerKind.noConfusion kind
      refine ⟨beats.period, ?_, ?_, ?_⟩
      · rw [List.countP_append]
        exact beats.single
      · exact fun timer pending kind => beats.apart timer (first timer pending kind) kind
      · intro awaiting
        rcases beats.answered awaiting with ⟨time, unanswered, before, others⟩
        exact ⟨time, unanswered, before, fun timer pending kind =>
          others timer (first timer pending kind) kind⟩
  | @intervalAlarm _ interval running due awaiting =>
      refine steady_of_idle rfl (noAlarm_cons steady.noAlarm fun time timer same => ?_)
      have own : interval.socket = socket := by
        injection same with _ there
        exact Option.some.inj there
      rcases (steady.beats interval running own).answered awaiting with
        ⟨time, unanswered, before, _⟩
      have waited := not_overdue sound met.1 running own unanswered
      linarith
  | @intervalBeat _ interval _ _ running due answered sends =>
      refine sends.kept ⟨?_, noAlarm_sent steady.noAlarm _ _ _ _⟩
        (steady_of_idle rfl (noAlarm_lost steady.noAlarm _ _))
      rintro _ ⟨⟩ own
      have beats := steady.beats interval running own
      have onTime := sound.interval interval running
      refine ⟨beats.period, beats.single, ?_, ?_⟩
      · intro timer pending kind n
        have distance := beats.apart timer pending kind (n + 1)
        have shifted : interval.due + (n + 1 : Nat) * (interval.period : ℚ) =
            interval.due + interval.period + n * interval.period := by
          push_cast
          ring
        rw [shifted] at distance
        exact distance
      · intro _
        refine ⟨gateway.now, ?_, ?_, ?_⟩
        · simp only [Gateway.note, unacknowledged, if_pos own]
          exact List.mem_cons_self
        · have period := beats.period
          change gateway.now + latency < interval.due + interval.period
          linarith
        · intro timer pending kind
          have distance := beats.apart timer pending kind 0
          have later : gateway.now ≤ timer.due := sound.timers timer pending
          rw [Nat.cast_zero, zero_mul, add_zero, abs_of_nonneg (by linarith)] at distance
          linarith
  | firstIdle _ idle =>
      exact steady_of_idle idle steady.noAlarm
  | @firstAlarm _ timer interval pending kind due running awaiting =>
      refine steady_of_idle rfl (noAlarm_cons steady.noAlarm fun time origin same => ?_)
      have own : interval.socket = socket := by
        injection same with _ there
        exact Option.some.inj there
      rcases (steady.beats interval running own).answered awaiting with
        ⟨time, unanswered, _, before⟩
      have waited := not_overdue sound met.1 running own unanswered
      have overdue := before timer pending kind
      linarith
  | @firstBeat _ timer interval _ _ pending kind due running answered sends =>
      refine sends.kept ⟨?_, noAlarm_sent steady.noAlarm _ _ _ _⟩
        (steady_of_idle rfl (noAlarm_lost steady.noAlarm _ _))
      intro other running' own
      cases Option.some.inj (running.symm.trans running')
      have beats := steady.beats interval running own
      have none_ : (gateway.timers.erase timer).countP
          (fun timer => timer.kind = .firstBeat) = 0 := by
        rw [List.countP_erase, if_pos ⟨pending, by simpa using kind⟩]
        exact Nat.sub_eq_zero_of_le beats.single
      have noFirst : ∀ other ∈ gateway.timers.erase timer, other.kind ≠ .firstBeat := by
        intro other remains
        simpa using List.countP_eq_zero.mp none_ other remains
      refine ⟨beats.period, none_.trans_le (Nat.zero_le 1), ?_, ?_⟩
      · exact fun other remains kind => absurd kind (noFirst other remains)
      · intro _
        refine ⟨gateway.now, ?_, ?_, fun other remains kind => absurd kind (noFirst other remains)⟩
        · simp only [Gateway.note, unacknowledged, if_pos own]
          exact List.mem_cons_self
        · have distance := beats.apart timer pending kind 0
          have onTime : gateway.now ≤ timer.due := sound.timers timer pending
          have later : gateway.now ≤ interval.due := sound.interval interval running
          rw [Nat.cast_zero, zero_mul, add_zero, abs_of_nonpos (by linarith)] at distance
          linarith
  | sessionEnds _ _ _ =>
      refine steady_of_idle rfl (noAlarm_cons steady.noAlarm fun time timer same => ?_)
      injection same with _ _ _ reason
      exact absurd reason (by decide)
  | sessionIdle _ down =>
      refine steady_of_idle (sound.idle_of_down down)
        (noAlarm_cons steady.noAlarm fun _ _ same => ?_)
      injection same with _ there
      cases there

end Steady

/-! ## A missing acknowledgement is noticed in time -/

/-- A first beat comes by some time. -/
def FirstBy (gateway : Gateway) (deadline : ℚ) : Prop :=
  ∃ timer ∈ gateway.timers, timer.kind = .firstBeat ∧ timer.due ≤ deadline

/-- A socket without acknowledgements has its second beat by some time. -/
structure PendingBy (socket : Nat) (deadline : ℚ) (gateway : Gateway) : Prop where
  up : gateway.socket = some socket
  beats : ∃ interval, gateway.heartbeatTimer = some interval ∧
    (gateway.awaitingAck = false → interval.due ≤ deadline ∧
      (interval.due + interval.period ≤ deadline ∨ gateway.FirstBy deadline)) ∧
    (gateway.awaitingAck = true → interval.due ≤ deadline ∨ gateway.FirstBy deadline)

/-- A hello that no acknowledgement followed was noticed, or its socket has its second beat in
time. -/
def Watched (socket : Nat) (gateway : Gateway) : Prop :=
  ∀ newer time interval older, gateway.log = newer ++ .hello time socket interval :: older →
    (∀ acknowledged, .acknowledged acknowledged socket ∉ newer) →
      (∃ entry ∈ newer, entry.Notices socket (time + 2 * interval)) ∨
        gateway.PendingBy socket (time + 2 * interval)

section Watched

variable {socket there : Nat} {deadline : ℚ}

/-- Time has not passed the second beat. -/
theorem PendingBy.now_le (sound : gateway.Sound) (pending : gateway.PendingBy socket deadline) :
    gateway.now ≤ deadline := by
  rcases pending with ⟨_, interval, running, waiting, asked⟩
  have onTime := sound.interval interval running
  cases awaiting : gateway.awaitingAck with
  | false => exact onTime.trans (waiting awaiting).1
  | true =>
      rcases asked awaiting with due | ⟨timer, first, _, due⟩
      · exact onTime.trans due
      · exact (sound.timers timer first).trans due

theorem PendingBy.alike {one other : Gateway} (same : Alike one other)
    (pending : one.PendingBy socket deadline) : other.PendingBy socket deadline := by
  rcases pending with ⟨up, interval, running, waiting, asked⟩
  rw [FirstBy, same.timers] at waiting asked
  exact ⟨same.socket ▸ up, interval, same.heartbeatTimer ▸ running, same.awaitingAck ▸ waiting,
    same.awaitingAck ▸ asked⟩

theorem PendingBy.note (pending : gateway.PendingBy socket deadline) (entry : Entry) :
    (gateway.note entry).PendingBy socket deadline :=
  ⟨pending.up, pending.beats⟩

theorem PendingBy.own (pending : gateway.PendingBy socket deadline)
    (up : gateway.socket = some there) : there = socket :=
  Option.some.inj (up.symm.trans pending.up)

/-- Nothing was logged. -/
theorem Watched.same {after : Gateway} (watched : gateway.Watched socket)
    (log : after.log = gateway.log)
    (kept : ∀ deadline, gateway.PendingBy socket deadline → after.PendingBy socket deadline) :
    after.Watched socket := by
  intro newer time interval older split silent
  rw [log] at split
  exact (watched newer time interval older split silent).imp_right (kept _)

/-- Something was logged that is no hello of the socket. -/
theorem Watched.logged {after : Gateway} (watched : gateway.Watched socket) {entry : Entry}
    (log : after.log = entry :: gateway.log)
    (noHello : ∀ time interval, entry ≠ .hello time socket interval)
    (kept : ∀ deadline, (∀ time, entry ≠ .acknowledged time socket) →
      gateway.PendingBy socket deadline →
        entry.Notices socket deadline ∨ after.PendingBy socket deadline) :
    after.Watched socket := by
  intro newer time interval older split silent
  rw [log] at split
  rcases List.cons_eq_append_iff.mp split with ⟨_, same⟩ | ⟨rest, same, split'⟩
  · exact absurd (List.cons.inj same).1.symm (noHello time interval)
  · rw [same] at silent ⊢
    have before : ∀ acknowledged, .acknowledged acknowledged socket ∉ rest :=
      fun acknowledged member => silent acknowledged (List.mem_cons_of_mem _ member)
    rcases watched rest time interval older split' before with ⟨noticed, member, notices⟩ | pending
    · exact .inl ⟨noticed, List.mem_cons_of_mem _ member, notices⟩
    · have other : ∀ acknowledged, entry ≠ .acknowledged acknowledged socket :=
        fun acknowledged same => silent acknowledged (same ▸ List.mem_cons_self)
      exact (kept _ other pending).imp_left fun notices => ⟨entry, List.mem_cons_self, notices⟩

theorem Watched.alike {one other : Gateway} (same : Alike one other)
    (watched : one.Watched socket) : other.Watched socket :=
  watched.same same.log.symm fun _ => PendingBy.alike same

/-- The socket ends, in time for all that is pending. -/
theorem Watched.ended (sound : gateway.Sound) (watched : gateway.Watched socket)
    (up : gateway.socket = some there) {entry : Entry}
    (notices : ∀ deadline, gateway.now ≤ deadline → entry.Notices there deadline) :
    (gateway.ended entry).Watched socket := by
  refine watched.logged rfl ?_ ?_
  · intro time interval same
    have noticed := notices gateway.now le_rfl
    rw [same] at noticed
    exact noticed
  · intro deadline _ pending
    refine .inl ?_
    rw [← pending.own up]
    exact notices deadline (pending.now_le sound)

theorem Watched.lost (sound : gateway.Sound) (watched : gateway.Watched socket)
    (up : gateway.socket = some there) :
    (gateway.ended (.lost gateway.now there)).Watched socket :=
  watched.ended sound up fun _ inTime => ⟨rfl, inTime⟩

theorem Watched.asked (sound : gateway.Sound) (watched : gateway.Watched socket)
    (up : gateway.socket = some there) (timer : Option Nat) (reason : String) :
    (gateway.ended (.asked gateway.now (some there) timer reason)).Watched socket :=
  watched.ended sound up fun _ inTime => ⟨rfl, inTime⟩

theorem Watched.sends (sound : gateway.Sound) (watched : gateway.Watched socket)
    (up : gateway.socket = some there) {timer : Option Nat} {payload : Outgoing}
    {after : Gateway} (sends : Sends gateway there timer payload after) :
    after.Watched socket := by
  refine sends.kept (watched.logged rfl nofun ?_) (watched.lost sound up)
  exact fun _ _ pending => .inr (pending.note _)

/-- An interval of at least half a millisecond has two beats within twice its length. -/
theorem secondBeat_le {interval random : ℚ} (half : 1 / 2 ≤ interval) (drawn : random < 1) :
    (timerDelay interval : ℚ) ≤ 2 * interval ∧
      ((timerDelay interval : ℚ) + timerDelay interval ≤ 2 * interval ∨
        (firstBeatDelay interval random : ℚ) ≤ 2 * interval) := by
  by_cases long : 1 ≤ interval
  · have within : (timerDelay interval : ℚ) ≤ interval := by
      rw [timerDelay]
      split
      · have positive : 0 ≤ ⌊interval⌋ := Int.floor_nonneg.mpr (by linarith)
        have cast : ((⌊interval⌋.toNat : Nat) : ℚ) = (⌊interval⌋ : ℚ) := by
          exact_mod_cast congrArg (Int.cast : Int → ℚ) (Int.toNat_of_nonneg positive)
        rw [cast]
        exact Int.floor_le interval
      · exact_mod_cast long
    exact ⟨by linarith, .inl (by linarith)⟩
  · have one : timerDelay interval = 1 := by
      rw [timerDelay, if_neg (fun range => long range.1)]
    have first : firstBeatDelay interval random = 1 := by
      have small : ⌊random * interval + 1 / 2⌋ ≤ 1 := by
        have below : random * interval + 1 / 2 < 2 := by nlinarith
        have floored := Int.floor_lt.mpr (show random * interval + 1 / 2 < ((2 : Int) : ℚ) by
          exact_mod_cast below)
        omega
      rw [firstBeatDelay, timerDelay]
      split
      · rename_i range
        have one_ : (1 : Int) ≤ ⌊random * interval + 1 / 2⌋ := by exact_mod_cast range.1
        rw [Int.floor_intCast]
        omega
      · rfl
    rw [one, first]
    push_cast
    exact ⟨by linarith, .inr (by linarith)⟩

/-- A hello of the socket comes while no heartbeat is running. -/
theorem Watched.helloed (watched : gateway.Watched socket) {interval random : ℚ}
    (up : gateway.socket = some there) (drawn : random < 1)
    (alone : there = socket → gateway.heartbeatTimer = none ∧ 1 / 2 ≤ interval) :
    (gateway.helloed there interval random).Watched socket := by
  by_cases own : there = socket
  · rcases alone own with ⟨idle, half⟩
    rw [own] at up ⊢
    intro newer time length older split silent
    rcases List.cons_eq_append_iff.mp split with ⟨newest, same⟩ | ⟨rest, same, split'⟩
    · right
      cases (List.cons.inj same).1
      refine ⟨up, _, rfl, fun _ => ?_, Bool.noConfusion⟩
      rcases secondBeat_le half drawn with ⟨due, second⟩
      refine ⟨by simp only [Gateway.note, clearHeartbeat]; linarith, second.imp ?_ ?_⟩
      · intro within
        simp only [Gateway.note, clearHeartbeat]
        linarith
      · intro within
        refine ⟨_, List.mem_append_right _ (List.mem_singleton.mpr rfl), rfl, ?_⟩
        simp only [Gateway.note, clearHeartbeat]
        linarith
    · rw [same] at silent ⊢
      have before : ∀ acknowledged, .acknowledged acknowledged socket ∉ rest :=
        fun acknowledged member => silent acknowledged (List.mem_cons_of_mem _ member)
      rcases watched rest time length older split' before with ⟨noticed, member, notices⟩ | pending
      · exact .inl ⟨noticed, List.mem_cons_of_mem _ member, notices⟩
      · rcases pending.beats with ⟨_, running, _⟩
        exact absurd (running.symm.trans idle) (Option.some_ne_none _)
  · refine watched.logged rfl ?_ ?_
    · intro time length same
      injection same with _ here
      exact own here
    · exact fun _ _ pending => absurd (pending.own up) own

theorem Watched.effect (sound : gateway.Sound) (watched : gateway.Watched socket)
    {event : GatewayEvent} {after : Gateway} (met : Undisturbed socket gateway event)
    (effect : gateway.Effect event after) : after.Watched socket := by
  cases effect with
  | quiet => exact watched
  | passes _ => exact watched.same rfl fun _ pending => ⟨pending.up, pending.beats⟩
  | dials down =>
      exact watched.same rfl fun _ pending => absurd (down.symm.trans pending.up) nofun
  | @hello there _ interval random _ _ _ up drawn positive _ sends =>
      have started : (gateway.helloed there interval random).Watched socket := by
        refine watched.helloed up drawn fun own => ?_
        rw [own] at up
        exact met.1 up positive
      exact started.sends (sound.helloed up interval random) up sends
  | acknowledged up =>
      refine watched.logged rfl nofun fun _ other pending => ?_
      rw [pending.own up] at other
      exact absurd rfl (other _)
  | requested up sends =>
      have same : Watched socket { gateway with awaitingAck := false } := by
        refine watched.same rfl fun deadline pending => ⟨pending.up, ?_⟩
        have answered := met.2 rfl pending.up
        rcases pending.beats with ⟨interval, running, waiting, _⟩
        exact ⟨interval, running, fun _ => waiting answered, nofun⟩
      have sound' : Sound { gateway with awaitingAck := false } :=
        ⟨sound.timers, sound.interval, sound.current, fun _ => rfl⟩
      exact same.sends sound' up sends
  | refused up _ => exact watched.asked sound up _ _
  | lost up => exact watched.lost sound up
  | @waits _ there delay up =>
      refine watched.same rfl fun deadline pending => ⟨pending.up, ?_⟩
      have more : gateway.FirstBy deadline → FirstBy { gateway with
          timers := gateway.timers ++ [⟨.invalidSession, gateway.now + delay, there⟩] } deadline :=
        fun ⟨timer, first, due⟩ => ⟨timer, List.mem_append_left _ first, due⟩
      rcases pending.beats with ⟨interval, running, waiting, asked⟩
      exact ⟨interval, running, fun answered =>
        ⟨(waiting answered).1, (waiting answered).2.imp_right more⟩,
        fun awaiting => (asked awaiting).imp_right more⟩
  | intervalAlarm running _ _ =>
      exact watched.asked sound (sound.current _ running) _ _
  | @intervalBeat _ interval _ _ running _ answered sends =>
      have next : (gateway.rescheduled interval).Watched socket := by
        refine watched.same rfl fun deadline pending => ⟨pending.up, _, rfl, nofun, fun _ => ?_⟩
        rcases pending.beats with ⟨other, running', waiting, _⟩
        cases Option.some.inj (running.symm.trans running')
        exact (waiting answered).2
      exact next.sends (sound.rescheduled running) (sound.current _ running) sends
  | firstIdle _ idle =>
      refine watched.same rfl fun _ pending => ?_
      rcases pending.beats with ⟨_, running, _⟩
      exact absurd (idle.symm.trans running) nofun
  | @firstAlarm _ timer interval _ _ _ running _ =>
      refine watched.logged rfl nofun fun deadline _ pending => .inl ⟨?_, pending.now_le sound⟩
      exact (sound.current interval running).symm.trans pending.up
  | @firstBeat _ timer _ _ _ _ _ _ running answered sends =>
      have next : Watched socket { gateway.without timer with awaitingAck := true } := by
        refine watched.same rfl fun deadline pending => ⟨pending.up, ?_⟩
        rcases pending.beats with ⟨interval, running', waiting, _⟩
        exact ⟨interval, running', nofun, fun _ => .inl (waiting answered).1⟩
      have sound' : Sound { gateway.without timer with awaitingAck := true } :=
        ⟨(sound.without timer).timers, sound.interval, sound.current, fun idle =>
          absurd (running.symm.trans idle) nofun⟩
      exact next.sends sound' (sound.current _ running) sends
  | sessionEnds _ _ up =>
      refine watched.logged rfl nofun fun deadline _ pending => .inl ⟨?_, pending.now_le sound⟩
      exact up.symm.trans pending.up
  | sessionIdle _ down =>
      exact watched.logged rfl nofun fun _ _ pending =>
        absurd (down.symm.trans pending.up) nofun

end Watched

end Gateway

/-! ## Where the heartbeat works -/

open Gateway

theorem noAlarm_of_spaced {latency : ℚ} {socket : Nat} {events : List GatewayEvent}
    (acknowledges : Acknowledges latency socket events)
    (spaced : System.AllAlong Gateway.perform (Spaced latency socket) createDiscordGateway events) :
    NoAlarm socket (gatewayAfter events).log := by
  have along := (System.throughout_iff_allAlong.mp acknowledges).1.and spaced
  have steady := holds_after (fun _ _ => Steady.alike)
    (fun _ _ _ sound steady met effect => steady.effect sound met effect) along ⟨nofun, nofun⟩
  exact steady.2.noAlarm

theorem noticesDead_of_undisturbed {socket : Nat} {events : List GatewayEvent}
    (undisturbed : System.AllAlong Gateway.perform (Undisturbed socket) createDiscordGateway
      events) : NoticesDead socket (gatewayAfter events) := by
  have first : createDiscordGateway.Watched socket := by
    intro newer time interval older split
    exact absurd split (by simp [createDiscordGateway])
  rcases holds_after (fun _ _ => Watched.alike)
    (fun _ _ _ sound watched met effect => watched.effect sound met effect) undisturbed first with
    ⟨sound, watched⟩
  intro newer time interval older split silent late
  rcases watched newer time interval older split silent with noticed | pending
  · exact noticed
  · exact absurd (pending.now_le sound) (not_le.mpr late)

theorem ownTimer_of_timersOver {events : List GatewayEvent}
    (apart : System.AllAlong Gateway.perform TimersOver createDiscordGateway events) :
    ∀ entry ∈ (gatewayAfter events).log, entry.OwnTimer :=
  (holds_after (fun _ _ => Apart.alike)
    (fun _ _ _ _ holds met effect => Apart.effect holds met effect) apart
    ⟨nofun, nofun, nofun⟩).2.own

/-- The heartbeat keeps healthy connections where the first beat is further than the latency from
all beats of the period and no first beat is left over; it notices dead ones where it is not
disturbed; and timers keep to their socket where those of earlier sockets are over. -/
theorem heartbeat_works (latency : ℚ) (socket : Nat) (events : List GatewayEvent) :
    HeartbeatWorks Spaced Undisturbed TimersOver latency socket events where
  noAlarm := noAlarm_of_spaced
  noticesDead := noticesDead_of_undisturbed
  ownTimer := ownTimer_of_timersOver

/-- Two beats that are acknowledged, a lost socket, and a heartbeat of the next one. -/
private def calmBeats : List GatewayEvent :=
  [.dials, .frame ⟨none, .hello (some 41250)⟩ (1 / 2) false, .passes 20625,
    .timer ⟨.firstBeat, 20625, 0⟩ false, .passes 21000, .frame ⟨none, .heartbeatAck⟩ 0 false,
    .passes 41250, .interval false, .passes 41500, .frame ⟨none, .heartbeatAck⟩ 0 false,
    .closes 1006, .passes 43000, .dials, .frame ⟨none, .hello (some 41250)⟩ (1 / 4) false,
    .passes 53313, .timer ⟨.firstBeat, 53313, 1⟩ false]

theorem heartbeat_works_calmBeats :
    NoAlarm 0 (gatewayAfter calmBeats).log ∧ NoticesDead 1 (gatewayAfter calmBeats) ∧
      ∀ entry ∈ (gatewayAfter calmBeats).log, entry.OwnTimer :=
  ⟨(heartbeat_works 600 0 calmBeats).noAlarm
      (System.throughout_iff_allAlong.mpr ⟨by decide +kernel, by decide +kernel⟩)
      (by decide +kernel),
    (heartbeat_works 600 1 calmBeats).noticesDead (by decide +kernel),
    (heartbeat_works 600 1 calmBeats).ownTimer (by decide +kernel)⟩

end DiscordGateway

end Reputo.Community
