import Reputo.Library.Generator
import Reputo.Library.Protocol

/-!
# Crawls that are interrupted and resumed

A generator reads a platform that goes on changing.  It may be abandoned anywhere and begun
again from the cursor of a value that it yielded, the values up to that one being kept.  What
an attempt has read since is recorded for the conditions and the proofs only.
-/

namespace Reputo.Library

universe u v w y

/-- The platform, what was yielded and kept, what is left of the attempt, and what is
recorded of it. -/
structure CrawlRun (σ : Type u) (Op : Type → Type v) (β ρ : Type) (γ : Type w) where
  platform : σ
  yielded : List β
  running : Generator Op β ρ
  progress : γ

/-- The attempt goes on, another one begins after some of the values, or the platform
changes. -/
inductive CrawlAction (ε : Type y) where
  | proceed
  | resume (kept : Nat)
  | change (event : ε)
  deriving DecidableEq, Repr

namespace CrawlRun

variable {σ : Type u} {Op : Type → Type v} {β ρ κ : Type} {γ : Type w} {ε : Type y}

/-- The result of an attempt that ended. -/
def result (run : CrawlRun σ Op β ρ γ) : Option ρ :=
  match run.running with
  | .done result => some result
  | .call _ _ => none

theorem running_of_result {run : CrawlRun σ Op β ρ γ} {result : ρ}
    (ended : run.result = some result) : run.running = .done result := by
  rcases run with ⟨platform, yielded, running, progress⟩
  cases running with
  | done other =>
      cases ended
      rfl
  | call operation next => cases ended

/-- The cursor from which an attempt continues after some values. -/
def cursorAfter (cursor : β → κ) (kept : List β) : Option κ := kept.getLast?.map cursor

section Perform

variable (attempt : Option κ → Generator Op β ρ) (cursor : β → κ)
  (answer : ∀ {α : Type}, Op α → σ → α) (change : ε → σ → Option σ) (begins : Option κ → γ)
  (record : ∀ {α : Type}, γ → Yielding Op β α → α → γ)

/-- An attempt after the values that are kept. -/
def continueAfter (platform : σ) (kept : List β) : CrawlRun σ Op β ρ γ where
  platform
  yielded := kept
  running := attempt (cursorAfter cursor kept)
  progress := begins (cursorAfter cursor kept)

def perform (run : CrawlRun σ Op β ρ γ) : CrawlAction ε → Option (CrawlRun σ Op β ρ γ)
  | .proceed => match run.running with
      | .done _ => none
      | .call (.request operation) next => some
          { run with
            running := next (answer operation run.platform)
            progress := record run.progress (.request operation) (answer operation run.platform) }
      | .call (.yield value) next => some
          { run with
            yielded := run.yielded ++ [value]
            running := next ()
            progress := record run.progress (.yield value) () }
  | .resume kept => some (continueAfter attempt cursor begins run.platform (run.yielded.take kept))
  | .change event => (change event run.platform).map fun platform => { run with platform }

/-- The runs of a crawl on a platform. -/
def system (platform : σ) : System (CrawlRun σ Op β ρ γ) (CrawlAction ε) :=
  .ofPerform (· = continueAfter attempt cursor begins platform []) (fun _ _ => True)
    (perform attempt cursor answer change begins record)

end Perform

/-- The request that is answered next meets a condition on the platform. -/
def RequestMeets (condition : ∀ {α : Type}, Op α → σ → Prop) (run : CrawlRun σ Op β ρ γ) : Prop :=
  match run.running with
  | .call (.request operation) _ => condition operation run.platform
  | _ => True

instance {condition : ∀ {α : Type}, Op α → σ → Prop}
    [decide : ∀ {α : Type} (operation : Op α) platform, Decidable (condition operation platform)]
    (run : CrawlRun σ Op β ρ γ) : Decidable (run.RequestMeets @condition) :=
  match run with
  | ⟨platform, _, .call (.request operation) _, _⟩ => decide operation platform
  | ⟨_, _, .call (.yield _) _, _⟩ | ⟨_, _, .done _, _⟩ => isTrue trivial

theorem RequestMeets.of_request {condition : ∀ {α : Type}, Op α → σ → Prop}
    {run : CrawlRun σ Op β ρ γ} (meets : run.RequestMeets @condition) {α : Type}
    {operation : Op α} {next : α → Generator Op β ρ}
    (asked : run.running = .call (.request operation) next) :
    condition operation run.platform := by
  rw [RequestMeets, asked] at meets
  exact meets

variable {attempt : Option κ → Generator Op β ρ} {cursor : β → κ}
  {answer : ∀ {α : Type}, Op α → σ → α} {change : ε → σ → Option σ} {begins : Option κ → γ}

/-- An attempt that obeys a protocol goes on obeying it where its requests are answered as
it counts on, and what links the platform, the yielded values and the record of the attempt
holds throughout. -/
theorem protocol_invariant (protocol : Protocol (Yielding Op β) γ) (ends : γ → ρ → Prop)
    (linked : σ → List β → γ → Prop) {permitted : CrawlRun σ Op β ρ γ → CrawlAction ε → Prop}
    {platform : σ} (initially : linked platform [] (begins none))
    (obeys : (attempt none).Obeys protocol ends (begins none))
    (requested : ∀ {α : Type} (operation : Op α) (next : α → Generator Op β ρ)
      (run : CrawlRun σ Op β ρ γ), run.running = .call (.request operation) next →
      permitted run .proceed → linked run.platform run.yielded run.progress →
      protocol.guarantees run.progress (.request operation) →
      protocol.counts run.progress (.request operation) (answer operation run.platform) ∧
        linked run.platform run.yielded
          (protocol.record run.progress (.request operation) (answer operation run.platform)))
    (yields : ∀ value platform yielded progress, linked platform yielded progress →
      protocol.guarantees progress (.yield value) →
      protocol.counts progress (.yield value) () ∧
        linked platform (yielded ++ [value]) (protocol.record progress (.yield value) ()))
    (resumed : ∀ run kept, linked run.platform run.yielded run.progress →
      permitted run (.resume kept) →
      linked run.platform (run.yielded.take kept)
          (begins (cursorAfter cursor (run.yielded.take kept))) ∧
        (attempt (cursorAfter cursor (run.yielded.take kept))).Obeys protocol ends
          (begins (cursorAfter cursor (run.yielded.take kept))))
    (changed : ∀ run event after, linked run.platform run.yielded run.progress →
      permitted run (.change event) → change event run.platform = some after →
      linked after run.yielded run.progress)
    {run : CrawlRun σ Op β ρ γ}
    (reachable : (system attempt cursor answer change begins protocol.record platform).Reachable
      permitted run) :
    linked run.platform run.yielded run.progress ∧
      run.running.Obeys protocol ends run.progress := by
  have first : ∀ before : CrawlRun σ Op β ρ γ,
      before = continueAfter attempt cursor begins platform [] →
      linked before.platform before.yielded before.progress ∧
        before.running.Obeys protocol ends before.progress := by
    intro before begun
    cases begun
    exact ⟨initially, obeys⟩
  apply reachable.invariant first
  · intro run action after ⟨sound, obeyed⟩ allowed stepped
    cases action with
    | resume kept =>
        cases stepped.2
        exact resumed run kept sound allowed
    | change event =>
        rcases Option.map_eq_some_iff.mp stepped.2 with ⟨changedTo, happened, same⟩
        cases same
        exact ⟨changed run event changedTo sound allowed happened, obeyed⟩
    | proceed =>
        rcases run with ⟨platform, yielded, running, progress⟩
        cases running with
        | done result => cases stepped.2
        | call operation next =>
            cases operation with
            | request operation =>
                cases stepped.2
                rcases requested operation next ⟨platform, yielded, _, progress⟩ rfl allowed sound
                  obeyed.1 with ⟨counted, linked⟩
                exact ⟨linked, obeyed.2 _ counted⟩
            | yield value =>
                cases stepped.2
                rcases yields value platform yielded progress sound obeyed.1 with ⟨counted, linked⟩
                exact ⟨linked, obeyed.2 _ counted⟩

end CrawlRun

end Reputo.Library
