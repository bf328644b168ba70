import Mathlib.Data.List.Basic
import Reputo.Library.System

/-!
# Event streams of one entity

Every committed change of an entity sends one notification.  A handler reads the row again
and broadcasts what it has read; the removal of a connection is broadcast at once.  Reads
see the state at their own time, and end in any order.
-/

namespace Reputo.Connections

open Reputo.Library

variable {Row : Type}

/-- The entity of a stream; no notification is sent when a snapshot is deleted. -/
inductive EventSource where
  | communityConnection
  | snapshot
  deriving DecidableEq, Repr

/-- What is broadcast: the row that was read, or that it was removed. -/
inductive EntityEvent (Row : Type) where
  | updated (row : Row)
  | removed
  deriving DecidableEq, Repr

/-- A handler before its read, after it, or at its end, with the position of the change
that it saw last. -/
inductive HandlerStage (Row : Type) where
  | reading
  | read (change : Nat) (row : Option Row)
  | ended (change : Nat)
  deriving DecidableEq, Repr

/-- The committed states of the entity, `none` after its deletion; how many notifications
were delivered; the handlers; and the events, each with the position of the change whose
state it shows. -/
structure StreamState (Row : Type) where
  committed : List (Option Row)
  delivered : Nat
  handlers : List (HandlerStage Row)
  events : List (Nat × EntityEvent Row)
  deriving DecidableEq, Repr

namespace StreamState

def initial : StreamState Row := ⟨[], 0, [], []⟩

/-- The row of the entity now. -/
def row (state : StreamState Row) : Option Row := state.committed.getLast?.join

/-- A notification is handled until its read, or until the removal is broadcast. -/
def handleNotification (source : EventSource) (state : StreamState Row)
    (change : Option Row) : StreamState Row :=
  match source, change with
  | .communityConnection, none =>
      { state with
        delivered := state.delivered + 1
        handlers := state.handlers ++ [.ended state.delivered]
        events := state.events ++ [(state.delivered, .removed)] }
  | _, _ =>
      { state with
        delivered := state.delivered + 1
        handlers := state.handlers ++ [.reading] }

/-- The event of a row, if there is one. -/
def rowEvent (change : Nat) : Option Row → List (Nat × EntityEvent Row)
  | some row => [(change, .updated row)]
  | none => []

end StreamState

inductive StreamAction (Row : Type) where
  | save (row : Row)
  | delete
  | deliver
  | read (position : Nat)
  | finish (position : Nat)
  deriving DecidableEq, Repr

/-- Nothing is committed after a deletion. -/
def StreamState.perform (source : EventSource) (state : StreamState Row) :
    StreamAction Row → Option (StreamState Row)
  | .save row => match state.committed.getLast? with
      | some none => none
      | _ => some { state with committed := state.committed ++ [some row] }
  | .delete =>
      if source = .communityConnection ∧ state.row.isSome then
        some { state with committed := state.committed ++ [none] }
      else none
  | .deliver => state.committed[state.delivered]?.map (state.handleNotification source)
  | .read position => match state.handlers[position]? with
      | some .reading => some
          { state with
            handlers := state.handlers.set position
              (.read (state.committed.length - 1) state.row) }
      | _ => none
  | .finish position => match state.handlers[position]? with
      | some (.read change row) => some
          { state with
            handlers := state.handlers.set position (.ended change)
            events := state.events ++ rowEvent change row }
      | _ => none

/-! ## The end of a stream -/

/-- The event that describes a committed state. -/
def describe : Option Row → EntityEvent Row
  | some row => .updated row
  | none => .removed

/-- All notifications were delivered, and all handlers have ended. -/
def StreamState.Quiet (state : StreamState Row) : Prop :=
  state.delivered = state.committed.length ∧
    ∀ handler ∈ state.handlers, ∃ change, handler = .ended change

/-- No event shows an older state than one before it, nothing follows a removal, and at rest
the last event describes the final state. -/
structure StreamState.EndsOnTruth (state : StreamState Row) : Prop where
  ordered : state.events.Pairwise fun earlier later => earlier.1 ≤ later.1
  removedLast : state.events.Pairwise fun earlier later =>
    earlier.2 = .removed → later.2 = .removed
  final : state.Quiet → ∀ last ∈ state.committed.getLast?,
    ∃ change, state.events.getLast? = some (change, describe last)

/-- A handler broadcasts a row only if no event of a later state was broadcast before. -/
def StreamState.InOrder (state : StreamState Row) : StreamAction Row → Prop
  | .finish position => match state.handlers[position]? with
      | some (.read change (some _)) => ∀ event ∈ state.events, event.1 ≤ change
      | _ => True
  | _ => True

/-! ## What handlers and events say -/

/-- What a stage says of the committed states and the events. -/
def HandlerStage.Faithful (state : StreamState Row) (position : Nat) : HandlerStage Row → Prop
  | reading => True
  | read change row => position ≤ change ∧ state.committed[change]? = some row
  | ended change => position ≤ change ∧ change < state.committed.length ∧
      ∀ row, state.committed[change]? = some (some row) → (change, .updated row) ∈ state.events

/-- What holds throughout. -/
structure StreamState.Sound (source : EventSource) (state : StreamState Row) : Prop where
  deletedLast : ∀ change, state.committed[change]? = some none →
    source = .communityConnection ∧ change + 1 = state.committed.length
  delivered : state.handlers.length = state.delivered ∧ state.delivered ≤ state.committed.length
  faithful : ∀ position (handler : HandlerStage Row), state.handlers[position]? = some handler →
    handler.Faithful state position
  shown : ∀ event ∈ state.events, ∃ committed, state.committed[event.1]? = some committed ∧
    event.2 = describe committed
  removed : ∀ change < state.delivered, state.committed[change]? = some none →
    (change, .removed) ∈ state.events

section Streams

variable {source : EventSource} {state : StreamState Row}

/-- An event of the last change is last among events in order. -/
theorem getLast?_of_ordered (sound : state.Sound source)
    (ordered : state.events.Pairwise fun earlier later => earlier.1 ≤ later.1)
    {change : Nat} {event : EntityEvent Row} (member : (change, event) ∈ state.events)
    (newest : change + 1 = state.committed.length) :
    ∃ other, state.events.getLast? = some (change, other) := by
  rcases List.eq_nil_or_concat state.events with none | ⟨others, last, split⟩
  · rw [none] at member
    exact absurd member List.not_mem_nil
  · rw [List.concat_eq_append] at split
    have lastMember : last ∈ state.events := by
      rw [split]
      exact List.mem_append_right _ (List.mem_singleton_self last)
    rcases sound.shown last lastMember with ⟨_, shown, _⟩
    have bounded := (List.getElem?_eq_some_iff.mp shown).1
    have later : change ≤ last.1 := by
      rw [split] at member ordered
      rcases List.mem_append.mp member with earlier | same
      · exact (List.pairwise_append.mp ordered).2.2 _ earlier last (List.mem_singleton_self last)
      · exact Nat.le_of_eq (congrArg Prod.fst (List.mem_singleton.mp same))
    have same : change = last.1 := by omega
    refine ⟨last.2, ?_⟩
    rw [split, List.getLast?_concat, same]

/-- Events that are in order end on the truth. -/
theorem endsOnTruth_of_ordered (sound : state.Sound source)
    (ordered : state.events.Pairwise fun earlier later => earlier.1 ≤ later.1) :
    state.EndsOnTruth := by
  constructor
  · exact ordered
  · apply ordered.imp_of_mem
    intro earlier later earlierMember laterMember inOrder removed
    rcases sound.shown earlier earlierMember with ⟨before, committed, described⟩
    rcases sound.shown later laterMember with ⟨after, committedLater, describedLater⟩
    have deleted : before = none := by
      cases before with
      | none => rfl
      | some row => exact absurd (removed.symm.trans described) (by simp [describe])
    rw [deleted] at committed
    have newest := (sound.deletedLast earlier.1 committed).2
    have bounded := (List.getElem?_eq_some_iff.mp committedLater).1
    have same : earlier.1 = later.1 := by omega
    rw [← same, committed] at committedLater
    rw [describedLater, ← Option.some.inj committedLater]
    rfl
  · intro ⟨delivered, ended⟩ last committed
    rcases List.getLast?_eq_some_iff.mp committed with ⟨others, split⟩
    have length : others.length + 1 = state.committed.length := by
      rw [split, List.length_append]
      rfl
    have atLast : state.committed[others.length]? = some last := by
      rw [split, List.getElem?_concat_length]
    have broadcast : ∃ event, (others.length, event) ∈ state.events := by
      cases last with
      | none => exact ⟨_, sound.removed others.length (by omega) atLast⟩
      | some row =>
          have inside : others.length < state.handlers.length := by
            rw [sound.delivered.1]
            omega
          have handled : state.handlers[others.length]? = some state.handlers[others.length] :=
            List.getElem?_eq_getElem inside
          rcases ended _ (List.getElem_mem inside) with ⟨change, stage⟩
          rw [stage] at handled
          rcases sound.faithful _ _ handled with ⟨lower, upper, event⟩
          have same : change = others.length := by omega
          rw [same] at event
          exact ⟨_, event row atLast⟩
    rcases broadcast with ⟨event, member⟩
    rcases getLast?_of_ordered sound ordered member length with ⟨other, final⟩
    have lastMember := List.mem_of_getLast? final
    rcases sound.shown _ lastMember with ⟨state', shown, described⟩
    refine ⟨others.length, ?_⟩
    rw [final]
    have same : state' = last := Option.some.inj (shown.symm.trans atLast)
    rw [← same, ← described]

theorem getElem?_of_append_eq {before after : List (Option Row)} (extends' : before <+: after)
    {change : Nat} (inside : change < before.length) : after[change]? = before[change]? := by
  rcases extends' with ⟨extra, same⟩
  rw [← same, List.getElem?_append_left inside]

/-- What was faithful stays so when changes are committed and events are broadcast. -/
theorem HandlerStage.Faithful.mono {later : StreamState Row} {position : Nat}
    {handler : HandlerStage Row} (faithful : handler.Faithful state position)
    (committed : state.committed <+: later.committed)
    (events : ∀ event ∈ state.events, event ∈ later.events) :
    handler.Faithful later position := by
  cases handler with
  | reading => trivial
  | read change row =>
      refine ⟨faithful.1, ?_⟩
      rw [getElem?_of_append_eq committed (List.getElem?_eq_some_iff.mp faithful.2).1]
      exact faithful.2
  | ended change =>
      refine ⟨faithful.1, Nat.lt_of_lt_of_le faithful.2.1 committed.length_le, ?_⟩
      intro row shown
      rw [getElem?_of_append_eq committed faithful.2.1] at shown
      exact events _ (faithful.2.2 row shown)

/-- A change is committed. -/
theorem sound_commit (sound : state.Sound source) (row : Option Row)
    (present : ∀ change : Nat, state.committed[change]? ≠ some none)
    (deletable : row = none → source = .communityConnection) :
    StreamState.Sound source { state with committed := state.committed ++ [row] } := by
  have grows : state.committed <+: state.committed ++ [row] := List.prefix_append _ _
  constructor
  · intro change deleted
    rw [List.getElem?_append] at deleted
    split at deleted
    · exact absurd deleted (present change)
    · rename_i beyond
      rcases List.getElem?_eq_some_iff.mp deleted with ⟨inside, same⟩
      rw [List.length_singleton] at inside
      have last : change = state.committed.length := by omega
      refine ⟨deletable ?_, by rw [last, List.length_append]; rfl⟩
      simpa [last] using same
  · refine ⟨sound.delivered.1, Nat.le_trans sound.delivered.2 ?_⟩
    exact grows.length_le
  · intro position handler handled
    exact (sound.faithful position handler handled).mono grows fun _ member => member
  · intro event member
    rcases sound.shown event member with ⟨shown, committed, described⟩
    refine ⟨shown, ?_, described⟩
    rw [getElem?_of_append_eq grows (List.getElem?_eq_some_iff.mp committed).1]
    exact committed
  · intro change before deleted
    have inside := Nat.lt_of_lt_of_le before sound.delivered.2
    rw [getElem?_of_append_eq grows inside] at deleted
    exact absurd deleted (present change)

/-- A handler of a list in which one stage was replaced. -/
theorem getElem?_set_cases {handlers : List (HandlerStage Row)} {position other : Nat}
    {stage handler : HandlerStage Row} (handled : (handlers.set position stage)[other]? = some handler) :
    (other = position ∧ handler = stage) ∨ handlers[other]? = some handler := by
  rw [List.getElem?_set] at handled
  split at handled
  · rename_i same
    split at handled
    · exact Or.inl ⟨same.symm, (Option.some.inj handled).symm⟩
    · cases handled
  · exact Or.inr handled

/-- A handler has read the row. -/
theorem sound_read (sound : state.Sound source) {position : Nat}
    (handled : state.handlers[position]? = some .reading) :
    StreamState.Sound source { state with
      handlers := state.handlers.set position
        (.read (state.committed.length - 1) state.row) } := by
  have inside := (List.getElem?_eq_some_iff.mp handled).1
  have committed : position < state.committed.length := by
    have delivered := sound.delivered
    omega
  constructor
  · exact sound.deletedLast
  · rw [List.length_set]
    exact sound.delivered
  · intro other handler stage
    rcases getElem?_set_cases stage with ⟨same, replaced⟩ | earlier
    · rw [replaced]
      have last : state.committed.length - 1 < state.committed.length := by omega
      refine ⟨by omega, ?_⟩
      rw [StreamState.row, List.getLast?_eq_getElem?, List.getElem?_eq_getElem last]
      rfl
    · exact (sound.faithful other handler earlier).mono (List.prefix_refl _) fun _ member => member
  · exact sound.shown
  · exact sound.removed

/-- A handler has broadcast what it has read. -/
theorem sound_finish (sound : state.Sound source) {position change : Nat} {row : Option Row}
    (handled : state.handlers[position]? = some (.read change row)) :
    StreamState.Sound source { state with
      handlers := state.handlers.set position (.ended change)
      events := state.events ++ StreamState.rowEvent change row } := by
  rcases sound.faithful position _ handled with ⟨lower, committed⟩
  have kept : ∀ event ∈ state.events, event ∈ state.events ++ StreamState.rowEvent change row :=
    fun _ member => List.mem_append_left _ member
  constructor
  · exact sound.deletedLast
  · rw [List.length_set]
    exact sound.delivered
  · intro other handler stage
    rcases getElem?_set_cases stage with ⟨same, replaced⟩ | earlier
    · rw [replaced, same]
      refine ⟨lower, (List.getElem?_eq_some_iff.mp committed).1, ?_⟩
      intro shown found
      rw [show row = some shown from Option.some.inj (committed.symm.trans found)]
      exact List.mem_append_right _ (List.mem_singleton_self _)
    · exact (sound.faithful other handler earlier).mono (List.prefix_refl _) kept
  · intro event member
    rcases List.mem_append.mp member with earlier | own
    · exact sound.shown event earlier
    · cases row with
      | none => exact absurd own List.not_mem_nil
      | some row =>
          rw [List.mem_singleton.mp own]
          exact ⟨some row, committed, rfl⟩
  · exact fun change before deleted => kept _ (sound.removed change before deleted)

/-- A handler of a list to which one was added. -/
theorem getElem?_concat_cases {handlers : List (HandlerStage Row)} {other : Nat}
    {stage handler : HandlerStage Row} (handled : (handlers ++ [stage])[other]? = some handler) :
    (other = handlers.length ∧ handler = stage) ∨ handlers[other]? = some handler := by
  rw [List.getElem?_append] at handled
  split at handled
  · exact Or.inr handled
  · rename_i beyond
    rcases List.getElem?_eq_some_iff.mp handled with ⟨inside, same⟩
    rw [List.length_singleton] at inside
    have last : other = handlers.length := by omega
    exact Or.inl ⟨last, by simpa [last] using same.symm⟩

/-- A removal is broadcast at once. -/
theorem sound_removal (sound : state.Sound source)
    (notified : state.committed[state.delivered]? = some none) :
    StreamState.Sound source { state with
      delivered := state.delivered + 1
      handlers := state.handlers ++ [.ended state.delivered]
      events := state.events ++ [(state.delivered, .removed)] } := by
  have inside := (List.getElem?_eq_some_iff.mp notified).1
  have kept : ∀ event ∈ state.events, event ∈ state.events ++ [(state.delivered, .removed)] :=
    fun _ member => List.mem_append_left _ member
  constructor
  · exact sound.deletedLast
  · rw [List.length_append, sound.delivered.1]
    exact ⟨rfl, inside⟩
  · intro other handler handled
    rcases getElem?_concat_cases handled with ⟨same, replaced⟩ | earlier
    · rw [replaced, same, sound.delivered.1]
      refine ⟨Nat.le_refl _, inside, ?_⟩
      intro row shown
      cases notified.symm.trans shown
    · exact (sound.faithful other handler earlier).mono (List.prefix_refl _) kept
  · intro event member
    rcases List.mem_append.mp member with earlier | own
    · exact sound.shown event earlier
    · rw [List.mem_singleton.mp own]
      exact ⟨none, notified, rfl⟩
  · intro change before deleted
    rcases Nat.lt_succ_iff_lt_or_eq.mp before with earlier | same
    · exact kept _ (sound.removed change earlier deleted)
    · rw [same]
      exact List.mem_append_right _ (List.mem_singleton_self _)

/-- A handler is begun. -/
theorem sound_reading (sound : state.Sound source) {change : Option Row}
    (notified : state.committed[state.delivered]? = some change) (present : change ≠ none) :
    StreamState.Sound source { state with
      delivered := state.delivered + 1
      handlers := state.handlers ++ [.reading] } := by
  have inside := (List.getElem?_eq_some_iff.mp notified).1
  constructor
  · exact sound.deletedLast
  · rw [List.length_append, sound.delivered.1]
    exact ⟨rfl, inside⟩
  · intro other handler handled
    rcases getElem?_concat_cases handled with ⟨_, replaced⟩ | earlier
    · rw [replaced]
      trivial
    · exact (sound.faithful other handler earlier).mono (List.prefix_refl _) fun _ member => member
  · exact sound.shown
  · intro other before deleted
    rcases Nat.lt_succ_iff_lt_or_eq.mp before with earlier | same
    · exact sound.removed other earlier deleted
    · rw [same, notified] at deleted
      exact absurd (Option.some.inj deleted) present

theorem sound_deliver (sound : state.Sound source) {change : Option Row}
    (notified : state.committed[state.delivered]? = some change) :
    (state.handleNotification source change).Sound source := by
  cases change with
  | some row => cases source <;> exact sound_reading sound notified (Option.some_ne_none row)
  | none =>
      rcases sound.deletedLast _ notified with ⟨connection, _⟩
      rw [connection] at sound ⊢
      exact sound_removal sound notified

/-- Nothing was deleted if the last change is no deletion. -/
theorem present_of_getLast? (sound : state.Sound source)
    (last : state.committed.getLast? ≠ some none) (change : Nat) :
    state.committed[change]? ≠ some none := by
  intro deleted
  have newest := (sound.deletedLast change deleted).2
  apply last
  rw [List.getLast?_eq_getElem?, ← newest]
  exact deleted

/-- Every action keeps what holds throughout. -/
theorem sound_performStream (sound : state.Sound source) (action : StreamAction Row) :
    (System.performOr (StreamState.perform source) state action).Sound source := by
  cases action with
  | save row =>
      rw [System.performOr, StreamState.perform]
      split
      · exact sound
      · rename_i last
        apply sound_commit sound _ (present_of_getLast? sound last)
        exact fun deleted => absurd deleted (Option.some_ne_none _)
  | delete =>
      rw [System.performOr, StreamState.perform]
      split
      · rename_i present
        apply sound_commit sound none (present_of_getLast? sound ?_) fun _ => present.1
        intro deleted
        rw [StreamState.row, deleted] at present
        cases present.2
      · exact sound
  | deliver =>
      rw [System.performOr, StreamState.perform]
      cases notified : state.committed[state.delivered]? with
      | none => exact sound
      | some change => exact sound_deliver sound notified
  | read position =>
      rw [System.performOr, StreamState.perform]
      split
      · rename_i handled
        exact sound_read sound handled
      · exact sound
  | finish position =>
      rw [System.performOr, StreamState.perform]
      split
      · rename_i handled
        exact sound_finish sound handled
      · exact sound

/-- Only a broadcast matters. -/
theorem endsOnTruth_congr {later : StreamState Row} (sound : later.Sound source)
    (ends : state.EndsOnTruth) (same : later.events = state.events) : later.EndsOnTruth :=
  endsOnTruth_of_ordered sound (same ▸ ends.ordered)

/-- An action keeps that events end on the truth exactly if its event is in order. -/
theorem endsOnTruth_iff_inOrder (sound : state.Sound source) (ends : state.EndsOnTruth)
    (action : StreamAction Row) :
    (System.performOr (StreamState.perform source) state action).EndsOnTruth ↔
      state.InOrder action := by
  have after := sound_performStream sound action
  cases action with
  | save row | delete | read position =>
      refine iff_of_true (endsOnTruth_congr after ends ?_) trivial
      rw [System.performOr, StreamState.perform]
      split <;> rfl
  | deliver =>
      refine iff_of_true (endsOnTruth_of_ordered after ?_) trivial
      rw [System.performOr, StreamState.perform]
      cases notified : state.committed[state.delivered]? with
      | none => exact ends.ordered
      | some change =>
          cases change with
          | some row => cases source <;> exact ends.ordered
          | none =>
              rcases sound.deletedLast _ notified with ⟨connection, newest⟩
              rw [connection]
              refine List.pairwise_append.mpr ⟨ends.ordered, List.pairwise_singleton _ _, ?_⟩
              intro event member removal own
              rcases sound.shown event member with ⟨_, shown, _⟩
              have bounded := (List.getElem?_eq_some_iff.mp shown).1
              rw [List.mem_singleton.mp own]
              exact Nat.le_of_lt_succ (Nat.lt_of_lt_of_eq bounded newest.symm)
  | finish position =>
      rw [System.performOr, StreamState.perform] at after ⊢
      rw [StreamState.InOrder]
      cases handled : state.handlers[position]? with
      | none => exact iff_of_true ends trivial
      | some handler =>
          cases handler with
          | reading => exact iff_of_true ends trivial
          | ended change => exact iff_of_true ends trivial
          | read change row =>
              rw [handled] at after
              cases row with
              | none =>
                  exact iff_of_true (endsOnTruth_congr after ends (List.append_nil _)) trivial
              | some row =>
                  constructor
                  · intro ending event member
                    exact (List.pairwise_append.mp ending.ordered).2.2 event member _
                      (List.mem_singleton_self _)
                  · intro inOrder
                    apply endsOnTruth_of_ordered after
                    refine List.pairwise_append.mpr ⟨ends.ordered, List.pairwise_singleton _ _, ?_⟩
                    intro event member broadcast own
                    rw [List.mem_singleton.mp own]
                    exact inOrder event member

theorem sound_initialStream (source : EventSource) :
    (StreamState.initial : StreamState Row).Sound source := by
  constructor
  · intro change deleted
    cases deleted
  · exact ⟨rfl, Nat.le_refl 0⟩
  · intro position handler handled
    cases handled
  · exact fun event absent => absurd absent List.not_mem_nil
  · exact fun change before => absurd before (Nat.not_lt_zero change)

end Streams

/-- In a run every state ends on the truth exactly if every row is broadcast in order. -/
theorem streams_endOnTruth_iff (source : EventSource) (actions : List (StreamAction Row)) :
    System.Throughout (StreamState.perform source) StreamState.EndsOnTruth .initial actions ↔
      System.AllAlong (StreamState.perform source) StreamState.InOrder .initial actions := by
  have first : (StreamState.initial : StreamState Row).EndsOnTruth :=
    endsOnTruth_of_ordered (sound_initialStream source) List.Pairwise.nil
  have kept : ∀ (state : StreamState Row) (action : StreamAction Row), state.Sound source →
      (System.performOr (StreamState.perform source) state action).Sound source :=
    fun _ action sound => sound_performStream sound action
  exact System.throughout_iff kept
    (fun _ action sound ends => endsOnTruth_iff_inOrder sound ends action)
    (sound_initialStream source) first

/-- The read of the first change ends after that of the second one. -/
private def overtakenRead : List (StreamAction Nat) :=
  [.save 1, .deliver, .read 0, .save 2, .deliver, .read 1, .finish 1, .finish 0]

/-- The last event then shows the older row, and a row may follow its removal. -/
theorem overtaken_read_ends_stale :
    (¬∀ actions, System.Throughout (StreamState.perform .snapshot) StreamState.EndsOnTruth
        (.initial : StreamState Nat) actions) ∧
      ¬∀ actions, System.Throughout (StreamState.perform .communityConnection)
        StreamState.EndsOnTruth (.initial : StreamState Nat) actions := by
  constructor
  · intro ends
    have final := (ends overtakenRead overtakenRead [] rfl).ordered
    exact absurd final (by decide)
  · intro ends
    have final := (ends [.save 1, .deliver, .read 0, .delete, .deliver, .finish 0]
      [.save 1, .deliver, .read 0, .delete, .deliver, .finish 0] [] rfl).ordered
    exact absurd final (by decide)

end Reputo.Connections
