import Mathlib.Data.Set.Basic
import Reputo.Library.Crawl

/-!
# Reading all that is owed

A generator over a source that does not change reads what is owed: each value has a part of it,
and what is still owed after a value is left for whoever resumes from its cursor.  Readings are
composed by rules, and a crawl whose attempts all read what is left from their cursors has read
everything when one of them ends, wherever it was interrupted before.
-/

namespace Reputo.Library

universe u v w

section Reading

variable {Op : Type → Type v} {β ρ τ κ : Type} {R : Type u}

/-- What a value has, its cursor, and what is left from a cursor, or from the beginning. -/
structure Ledger (β κ : Type) (R : Type u) where
  rows : β → Set R
  cursor : β → κ
  left : Option κ → Set R

/-- Values have what is owed, up to what is owed after them; in between, what is owed is left
from the cursors. -/
def Pays (ledger : Ledger β κ R) : List β → Set R → Set R → Prop
  | [], owed, after => owed ⊆ after
  | value :: rest, owed, after => ∃ next, owed ⊆ ledger.rows value ∪ next ∧
      next ⊆ ledger.left (some (ledger.cursor value)) ∧ Pays ledger rest next after

variable {ledger : Ledger β κ R} {values more : List β} {owed between after extra : Set R}

theorem Pays.weaken (pays : Pays ledger values owed between) (fewer : after ⊆ owed)
    {later : Set R} (wider : between ⊆ later) : Pays ledger values after later := by
  induction values generalizing owed after with
  | nil => exact (fewer.trans pays).trans wider
  | cons value rest ih =>
      rcases pays with ⟨next, has, left, others⟩
      exact ⟨next, fewer.trans has, left, ih others subset_rfl⟩

theorem Pays.append (first : Pays ledger values owed between)
    (second : Pays ledger more between after) : Pays ledger (values ++ more) owed after := by
  induction values generalizing owed with
  | nil => exact second.weaken first subset_rfl
  | cons value rest ih =>
      rcases first with ⟨next, has, left, others⟩
      exact ⟨next, has, left, ih others⟩

/-- What else is owed stays owed, where it is left from all the cursors. -/
theorem Pays.frame (pays : Pays ledger values owed after)
    (left : ∀ value ∈ values, extra ⊆ ledger.left (some (ledger.cursor value))) :
    Pays ledger values (owed ∪ extra) (after ∪ extra) := by
  induction values generalizing owed with
  | nil => exact Set.union_subset_union_left extra pays
  | cons value rest ih =>
      rcases pays with ⟨next, has, leftNext, others⟩
      refine ⟨next ∪ extra, ?_, ?_, ih others fun other later =>
        left other (List.mem_cons_of_mem _ later)⟩
      · rw [← Set.union_assoc]
        exact Set.union_subset_union_left extra has
      · exact Set.union_subset leftNext (left value List.mem_cons_self)

/-- A generator pays what is owed with fine values, and ends in a certain way. -/
structure Reads (answer : ∀ {α : Type}, Op α → α) (ledger : Ledger β κ R) (fine : β → Prop)
    (owed after : Set R) (ends : ρ → Prop) (generator : Generator Op β ρ) : Prop where
  pays : Pays ledger (generator.stream @answer).1 owed after
  fine : ∀ value ∈ (generator.stream @answer).1, fine value
  ends : ends (generator.stream @answer).2

variable {answer : ∀ {α : Type}, Op α → α} {fine : β → Prop} {ends : ρ → Prop}

theorem Reads.pure {result : ρ} (paid : owed ⊆ after) (ended : ends result) :
    Reads @answer ledger fine owed after ends (pure result) :=
  ⟨paid, fun _ absent => absurd absent List.not_mem_nil, ended⟩

theorem Reads.bind {middle : τ → Prop} {first : Generator Op β τ} {next : τ → Generator Op β ρ}
    (reads : Reads @answer ledger fine owed between middle first)
    (then_ : ∀ result, middle result →
      Reads @answer ledger fine between after ends (next result)) :
    Reads @answer ledger fine owed after ends (first >>= next) := by
  have rest := then_ _ reads.ends
  have stream := Generator.stream_bind @answer first next
  refine ⟨?_, ?_, ?_⟩
  · rw [stream]
    exact reads.pays.append rest.pays
  · rw [stream]
    intro value member
    rcases List.mem_append.mp member with early | late
    · exact reads.fine value early
    · exact rest.fine value late
  · rw [stream]
    exact rest.ends

theorem Reads.request_bind {operation : Op τ} {next : τ → Generator Op β ρ}
    (reads : Reads @answer ledger fine owed after ends (next (answer operation))) :
    Reads @answer ledger fine owed after ends (Generator.request operation >>= next) :=
  ⟨reads.pays, reads.fine, reads.ends⟩

theorem Reads.yield_bind {value : β} {next : Unit → Generator Op β ρ}
    (has : owed ⊆ ledger.rows value ∪ between)
    (left : between ⊆ ledger.left (some (ledger.cursor value))) (good : fine value)
    (reads : Reads @answer ledger fine between after ends (next ())) :
    Reads @answer ledger fine owed after ends (Generator.yield value >>= next) :=
  ⟨⟨between, has, left, reads.pays⟩, List.forall_mem_cons.mpr ⟨good, reads.fine⟩, reads.ends⟩

theorem Reads.weaken {generator : Generator Op β ρ}
    (reads : Reads @answer ledger fine owed between ends generator) {fewer later : Set R}
    (less : fewer ⊆ owed) (wider : between ⊆ later) :
    Reads @answer ledger fine fewer later ends generator :=
  ⟨reads.pays.weaken less wider, reads.fine, reads.ends⟩

/-- What else is owed stays owed, where it is left from the cursors of all fine values. -/
theorem Reads.frame {generator : Generator Op β ρ}
    (reads : Reads @answer ledger fine owed after ends generator)
    (left : ∀ value, fine value → extra ⊆ ledger.left (some (ledger.cursor value))) :
    Reads @answer ledger fine (owed ∪ extra) (after ∪ extra) ends generator :=
  ⟨reads.pays.frame fun value member => left value (reads.fine value member), reads.fine,
    reads.ends⟩

/-- Values that are fine in a stricter way. -/
theorem Reads.fine_mono {generator : Generator Op β ρ} {stricter : β → Prop}
    (reads : Reads @answer ledger stricter owed after ends generator)
    (finer : ∀ value, stricter value → fine value) :
    Reads @answer ledger fine owed after ends generator :=
  ⟨reads.pays, fun value member => finer value (reads.fine value member), reads.ends⟩

end Reading

/-! ## Crawls of a source that does not change -/

section Crawls

variable {Op : Type → Type v} {β ρ κ σ : Type} {R : Type u}

/-- The rows of all values. -/
def allRows (rows : β → Set R) (values : List β) : Set R :=
  {row | ∃ value ∈ values, row ∈ rows value}

theorem allRows_mono {rows : β → Set R} {first second : List β}
    (more : ∀ value ∈ first, value ∈ second) : allRows rows first ⊆ allRows rows second := by
  rintro row ⟨value, member, has⟩
  exact ⟨value, more value member, has⟩

variable {ledger : Ledger β κ R} {attempt : Option κ → Generator Op β ρ}
  {answer : ∀ {α : Type}, Op α → σ → α} {fine : β → Prop} {ends : ρ → Prop} {platform : σ}

/-- Everything was read, or is still owed by the attempt; and from the cursor of each value,
what the values before do not have is left. -/
structure Settling (ledger : Ledger β κ R) (answer : ∀ {α : Type}, Op α → σ → α)
    (fine : β → Prop) (ends : ρ → Prop) (platform : σ) (run : CrawlRun σ Op β ρ Unit) :
    Prop where
  unchanged : run.platform = platform
  owed : ∃ owed, ledger.left none ⊆ allRows ledger.rows run.yielded ∪ owed ∧
    Reads (fun operation => answer operation platform) ledger fine owed ∅ ends run.running
  resumable : ∀ kept, ledger.left none ⊆ allRows ledger.rows (run.yielded.take kept) ∪
    ledger.left (CrawlRun.cursorAfter ledger.cursor (run.yielded.take kept))
  fine : ∀ value ∈ run.yielded, fine value

/-- Attempts that read what is left, from the beginning and from the cursors of fine values. -/
def ReadsLeft (ledger : Ledger β κ R) (answer : ∀ {α : Type}, Op α → σ → α) (fine : β → Prop)
    (ends : ρ → Prop) (platform : σ) (attempt : Option κ → Generator Op β ρ) : Prop :=
  ∀ cursor, (∀ text ∈ cursor, ∃ value, fine value ∧ ledger.cursor value = text) →
    Reads (fun operation => answer operation platform) ledger fine (ledger.left cursor) ∅ ends
      (attempt cursor)

theorem Settling.begin (reads : ReadsLeft ledger answer fine ends platform attempt) :
    Settling ledger answer fine ends platform
      (CrawlRun.continueAfter attempt ledger.cursor (fun _ => ()) platform []) where
  unchanged := rfl
  owed := ⟨ledger.left none, Set.subset_union_right, reads none fun _ absent => by cases absent⟩
  resumable kept := by
    rw [CrawlRun.continueAfter, List.take_nil]
    exact Set.subset_union_right
  fine _ absent := absurd absent List.not_mem_nil

theorem Settling.resume {run : CrawlRun σ Op β ρ Unit}
    (settling : Settling ledger answer fine ends platform run)
    (reads : ReadsLeft ledger answer fine ends platform attempt) (kept : Nat) :
    Settling ledger answer fine ends platform
      (CrawlRun.continueAfter attempt ledger.cursor (fun _ => ()) run.platform
        (run.yielded.take kept)) where
  unchanged := settling.unchanged
  owed := by
    refine ⟨_, settling.resumable kept, reads _ ?_⟩
    intro text last
    rcases Option.map_eq_some_iff.mp last with ⟨value, final, same⟩
    exact ⟨value, settling.fine value (List.mem_of_mem_take (List.mem_of_getLast? final)), same⟩
  resumable fewer := by
    rw [CrawlRun.continueAfter, List.take_take]
    exact settling.resumable _
  fine value member := settling.fine value (List.mem_of_mem_take member)

theorem Settling.yield {running : Unit → Generator Op β ρ} {yielded : List β} {value : β}
    (settling : Settling ledger answer fine ends platform
      ⟨platform, yielded, .call (.yield value) running, ()⟩) :
    Settling ledger answer fine ends platform
      ⟨platform, yielded ++ [value], running (), ()⟩ := by
  rcases settling.owed with ⟨owed, read, reads⟩
  rcases reads.pays with ⟨next, has, left, others⟩
  have covered : ledger.left none ⊆ allRows ledger.rows (yielded ++ [value]) ∪ next := by
    intro row all
    rcases read all with earlier | later
    · exact .inl (allRows_mono (fun _ => List.mem_append_left _) earlier)
    · rcases has later with here | still
      · exact .inl ⟨value, List.mem_append_right _ List.mem_cons_self, here⟩
      · exact .inr still
  refine ⟨rfl, ⟨next, covered, others, fun other member =>
    reads.fine other (List.mem_cons_of_mem _ member), reads.ends⟩, ?_, ?_⟩
  · intro kept
    by_cases within : kept ≤ yielded.length
    · rw [List.take_append_of_le_length within]
      exact settling.resumable kept
    · have all : (yielded ++ [value]).take kept = yielded ++ [value] := by
        rw [List.take_of_length_le]
        rw [List.length_append, List.length_singleton]
        omega
      rw [all, CrawlRun.cursorAfter, List.getLast?_concat]
      exact covered.trans (Set.union_subset_union_right _ left)
  · intro other member
    rcases List.mem_append.mp member with earlier | last
    · exact settling.fine other earlier
    · rw [List.mem_singleton.mp last]
      exact reads.fine value List.mem_cons_self

variable {ε : Type w} {change : ε → σ → Option σ}
  {permitted : CrawlRun σ Op β ρ Unit → CrawlAction ε → Prop}

/-- A crawl of a source that does not change settles what it owes throughout. -/
theorem settling_of_reachable (reads : ReadsLeft ledger answer fine ends platform attempt)
    (still : ∀ event, change event platform = none) {run : CrawlRun σ Op β ρ Unit}
    (reachable : (CrawlRun.system attempt ledger.cursor answer change (fun _ => ())
      (fun _ _ _ => ()) platform).Reachable permitted run) :
    Settling ledger answer fine ends platform run := by
  have first : ∀ before : CrawlRun σ Op β ρ Unit,
      before = CrawlRun.continueAfter attempt ledger.cursor (fun _ => ()) platform [] →
        Settling ledger answer fine ends platform before := by
    intro before begun
    rw [begun]
    exact .begin reads
  apply reachable.invariant first
  intro run action after settling _ stepped
  rcases run with ⟨there, yielded, running, _⟩
  have same : there = platform := settling.unchanged
  cases same
  cases action with
  | resume kept =>
      cases stepped.2
      exact settling.resume reads kept
  | change event =>
      rcases Option.map_eq_some_iff.mp stepped.2 with ⟨_, happened, _⟩
      exact absurd ((still event).symm.trans happened) (by simp)
  | proceed =>
      cases running with
      | done result => cases stepped.2
      | call operation next =>
          cases operation with
          | request operation =>
              cases stepped.2
              rcases settling.owed with ⟨owed, read, reads⟩
              exact ⟨rfl, ⟨owed, read, reads.pays, reads.fine, reads.ends⟩, settling.resumable,
                settling.fine⟩
          | yield value =>
              cases stepped.2
              exact settling.yield

/-- An attempt that ended has left nothing. -/
theorem Settling.read {run : CrawlRun σ Op β ρ Unit}
    (settling : Settling ledger answer fine ends platform run) {result : ρ}
    (ended : run.result = some result) :
    ends result ∧ ledger.left none ⊆ allRows ledger.rows run.yielded ∧
      ∀ value ∈ run.yielded, fine value := by
  rcases settling.owed with ⟨owed, read, reads⟩
  rw [CrawlRun.running_of_result ended] at reads
  have nothing : owed ⊆ ∅ := reads.pays
  refine ⟨reads.ends, fun row all => ?_, settling.fine⟩
  rcases read all with here | later
  · exact here
  · exact absurd (nothing later) (Set.notMem_empty row)

/-- An attempt that is not interrupted ends as its generator does, after finitely many steps. -/
theorem proceeds_to_end {γ : Type} (cursor : β → κ) (begins : Option κ → γ)
    (record : ∀ {α : Type}, γ → Yielding Op β α → α → γ) (run : CrawlRun σ Op β ρ γ) :
    ∃ steps, (System.performAll (CrawlRun.perform attempt cursor answer change begins record) run
        (List.replicate steps .proceed)).result =
      some (run.running.stream fun operation => answer operation run.platform).2 := by
  rcases run with ⟨platform, yielded, running, progress⟩
  induction running generalizing yielded progress with
  | done result => exact ⟨0, rfl⟩
  | call operation next ih =>
      cases operation with
      | request operation =>
          rcases ih (answer operation platform) yielded _ with ⟨steps, ended⟩
          exact ⟨steps + 1, ended⟩
      | yield value =>
          rcases ih () (yielded ++ [value]) _ with ⟨steps, ended⟩
          exact ⟨steps + 1, ended⟩

end Crawls

end Reputo.Library
