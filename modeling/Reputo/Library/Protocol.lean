import Reputo.Library.Program

/-!
# Protocols

A program among others counts on certain replies and guarantees which operations it asks
for.  A value that only the proof sees records what it has done.  Where the replies of the
store are as the programs count on, every one of them keeps its guarantee.
-/

namespace Reputo.Library

universe u v w y

/-- What a program guarantees and counts on, given the value recorded for it so far. -/
structure Protocol (Op : Type → Type v) (γ : Type w) where
  guarantees : ∀ {α : Type}, γ → Op α → Prop
  counts : ∀ {α : Type}, γ → Op α → α → Prop
  record : ∀ {α : Type}, γ → Op α → α → γ

namespace Program

variable {Op Inner : Type → Type v} {γ : Type w} {ρ τ : Type}

/-- A program keeps its guarantees while the replies are as it counts on, and ends as
asked. -/
def Obeys (protocol : Protocol Op γ) (ends : γ → ρ → Prop) : Program Op ρ → γ → Prop
  | done result, recorded => ends recorded result
  | call operation next, recorded => protocol.guarantees recorded operation ∧
      ∀ reply, protocol.counts recorded operation reply →
        (next reply).Obeys protocol ends (protocol.record recorded operation reply)

variable {protocol : Protocol Op γ} {ends : γ → ρ → Prop} {recorded : γ}

theorem obeys_pure {result : ρ} (ended : ends recorded result) :
    (pure result : Program Op ρ).Obeys protocol ends recorded :=
  ended

theorem obeys_pure_bind {result : τ} {after : τ → Program Op ρ}
    (next : (after result).Obeys protocol ends recorded) :
    (pure result >>= after).Obeys protocol ends recorded :=
  next

theorem obeys_perform_bind {operation : Op τ} {after : τ → Program Op ρ}
    (guaranteed : protocol.guarantees recorded operation)
    (next : ∀ reply, protocol.counts recorded operation reply →
      (after reply).Obeys protocol ends (protocol.record recorded operation reply)) :
    (perform operation >>= after).Obeys protocol ends recorded :=
  ⟨guaranteed, next⟩

theorem obeys_perform {operation : Op ρ} (guaranteed : protocol.guarantees recorded operation)
    (ended : ∀ reply, protocol.counts recorded operation reply →
      ends (protocol.record recorded operation reply) reply) :
    (perform operation).Obeys protocol ends recorded :=
  ⟨guaranteed, ended⟩

theorem obeys_bind {between : γ → τ → Prop} {first : Program Op τ} {after : τ → Program Op ρ}
    (obeys : first.Obeys protocol between recorded)
    (next : ∀ recorded result, between recorded result →
      (after result).Obeys protocol ends recorded) :
    (first >>= after).Obeys protocol ends recorded := by
  induction first generalizing recorded with
  | done result => exact next recorded result obeys
  | call operation rest ih =>
      exact ⟨obeys.1, fun reply counted => ih reply (obeys.2 reply counted)⟩

theorem Obeys.weaken {others : γ → ρ → Prop} {program : Program Op ρ}
    (obeys : program.Obeys protocol ends recorded)
    (weaker : ∀ recorded result, ends recorded result → others recorded result) :
    program.Obeys protocol others recorded := by
  induction program generalizing recorded with
  | done result => exact weaker recorded result obeys
  | call operation next ih =>
      exact ⟨obeys.1, fun reply counted => ih reply (obeys.2 reply counted)⟩

/-- Operations that are always guaranteed and of which nothing is recorded. -/
theorem obeys_of_uses {allowed : ∀ {α : Type}, Op α → Prop}
    (guaranteed : ∀ {α : Type} (operation : Op α), allowed operation →
      protocol.guarantees recorded operation)
    (unrecorded : ∀ {α : Type} (operation : Op α) reply, allowed operation →
      protocol.record recorded operation reply = recorded)
    {program : Program Op ρ} (uses : program.Uses @allowed) :
    program.Obeys protocol (fun after _ => after = recorded) recorded := by
  induction program with
  | done result => rfl
  | call operation next ih =>
      refine ⟨guaranteed operation uses.1, ?_⟩
      intro reply _
      rw [unrecorded operation reply uses.1]
      exact ih reply (uses.2 reply)

end Program

/-! ## Programs inside others -/

section Inside

variable {Op Inner : Type → Type v} {γ : Type w} {ρ : Type}

/-- A program whose operations are operations of another store. -/
def Program.lift (embed : ∀ {α : Type}, Inner α → Op α) : Program Inner ρ → Program Op ρ
  | .done result => .done result
  | .call operation next => .call (embed operation) fun reply => (next reply).lift embed

/-- The protocol of the operations inside. -/
def Protocol.inside (protocol : Protocol Op γ) (embed : ∀ {α : Type}, Inner α → Op α) :
    Protocol Inner γ where
  guarantees recorded operation := protocol.guarantees recorded (embed operation)
  counts recorded operation := protocol.counts recorded (embed operation)
  record recorded operation := protocol.record recorded (embed operation)

theorem Program.obeys_lift {protocol : Protocol Op γ} {ends : γ → ρ → Prop}
    {embed : ∀ {α : Type}, Inner α → Op α} {program : Program Inner ρ} {recorded : γ}
    (obeys : program.Obeys (protocol.inside @embed) ends recorded) :
    (program.lift @embed).Obeys protocol ends recorded := by
  induction program generalizing recorded with
  | done result => exact obeys
  | call operation next ih =>
      exact ⟨obeys.1, fun reply counted => ih reply (obeys.2 reply counted)⟩

end Inside

/-! ## Programs that take turns -/

/-- Programs that obey a protocol: where an operation that is guaranteed and meets the
condition is replied to as counted on, all of them go on obeying it, and what links the
store to the recorded values holds throughout. -/
theorem Pool.protocol_invariant {σ : Type u} {Op : Type → Type v} {γ : Type w} {ρ κ : Type}
    {ε : Type y} {handler : Handler Op σ} {program : κ → Program Op ρ} {environment : ε → σ → σ}
    {initial : σ → Prop} {condition : ∀ {α : Type}, Op α → σ → Prop}
    (protocol : Protocol Op γ) (ends : γ → ρ → Prop) (begins : γ) (linked : σ → List γ → Prop)
    (initially : ∀ store, initial store → linked store [])
    (obeys : ∀ request, (program request).Obeys protocol ends begins)
    (started : ∀ store records, linked store records → linked store (records ++ [begins]))
    (kept : ∀ {α : Type} (operation : Op α) store records position recorded,
      linked store records → records[position]? = some recorded →
      protocol.guarantees recorded operation → condition operation store →
      protocol.counts recorded operation (handler operation store).1 ∧
        linked (handler operation store).2
          (records.set position (protocol.record recorded operation (handler operation store).1)))
    (keptOutside : ∀ event store records, linked store records →
      linked (environment event store) records)
    {pool : Pool σ Op ρ}
    (reachable : (system handler program environment initial).Reachable
      (fun before action => before.Meets @condition action) pool) :
    ∃ stages : List (Program Op ρ × γ), pool.running = stages.map Prod.fst ∧
      (∀ stage ∈ stages, stage.1.Obeys protocol ends stage.2) ∧
      linked pool.store (stages.map Prod.snd) := by
  refine stage_invariant (fun stage : Program Op ρ × γ => stage.1)
    (fun store stages => (∀ stage ∈ stages, stage.1.Obeys protocol ends stage.2) ∧
      linked store (stages.map Prod.snd)) ?_ ?_ ?_ ?_ reachable
  · exact fun store first => ⟨fun _ absent => absurd absent List.not_mem_nil, initially store first⟩
  · intro store stages request ⟨obeyed, sound⟩
    refine ⟨(program request, begins), rfl, ?_, ?_⟩
    · intro stage member
      rcases List.mem_append.mp member with earlier | last
      · exact obeyed stage earlier
      · rw [List.mem_singleton.mp last]
        exact obeys request
    · rw [List.map_append]
      exact started store _ sound
  · intro α operation next store stages position stage ⟨obeyed, sound⟩ located denoted met
    have own := obeyed stage (List.mem_of_getElem? located)
    rw [denoted] at own
    have recorded : (stages.map Prod.snd)[position]? = some stage.2 := by
      rw [List.getElem?_map, located]
      rfl
    rcases kept operation store _ position stage.2 sound recorded own.1 met with ⟨counted, after⟩
    refine ⟨(next (handler operation store).1,
      protocol.record stage.2 operation (handler operation store).1), rfl, ?_, ?_⟩
    · intro other member
      rcases List.mem_or_eq_of_mem_set member with earlier | last
      · exact obeyed other earlier
      · rw [last]
        exact own.2 _ counted
    · rw [List.map_set]
      exact after
  · intro event store stages ⟨obeyed, sound⟩
    exact ⟨obeyed, keptOutside event store _ sound⟩

end Reputo.Library
