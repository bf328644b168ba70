import Reputo.Library.Program

/-!
# Generators

A program that yields values on its way to a result, and what it yields when its requests
are answered.
-/

namespace Reputo.Library

universe v

/-- What a generator asks for: an operation, or that a value is taken. -/
inductive Yielding (Op : Type → Type v) (β : Type) : Type → Type (max 1 v) where
  | request {α : Type} (operation : Op α) : Yielding Op β α
  | yield (value : β) : Yielding Op β Unit

abbrev Generator (Op : Type → Type v) (β ρ : Type) := Program (Yielding Op β) ρ

namespace Generator

variable {Op : Type → Type v} {β ρ τ : Type}

def request {α : Type} (operation : Op α) : Generator Op β α := .perform (.request operation)

def yield (value : β) : Generator Op β Unit := .perform (.yield value)

/-- The values that are yielded and the result, where each operation has one answer. -/
def stream (answer : ∀ {α : Type}, Op α → α) : Generator Op β ρ → List β × ρ
  | .done result => ([], result)
  | .call (.request operation) next => stream answer (next (answer operation))
  | .call (.yield value) next =>
      (value :: (stream answer (next ())).1, (stream answer (next ())).2)

variable (answer : ∀ {α : Type}, Op α → α)

@[simp] theorem stream_pure (result : ρ) :
    stream answer (pure result : Generator Op β ρ) = ([], result) :=
  rfl

@[simp] theorem stream_request {α : Type} (operation : Op α) :
    stream answer (request operation : Generator Op β α) = ([], answer operation) :=
  rfl

@[simp] theorem stream_yield (value : β) :
    stream answer (yield value : Generator Op β Unit) = ([value], ()) :=
  rfl

theorem stream_bind (first : Generator Op β ρ) (after : ρ → Generator Op β τ) :
    stream answer (first >>= after) =
      ((stream answer first).1 ++ (stream answer (after (stream answer first).2)).1,
        (stream answer (after (stream answer first).2)).2) := by
  induction first with
  | done result => rfl
  | call operation next ih =>
      cases operation with
      | request operation => exact ih (answer operation)
      | yield value =>
          have rest := ih ()
          exact Prod.ext (congrArg (value :: ·) (Prod.ext_iff.mp rest).1) (Prod.ext_iff.mp rest).2

end Generator

end Reputo.Library
