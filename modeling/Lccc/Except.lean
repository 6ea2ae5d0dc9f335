import Mathlib.Logic.Basic
import Mathlib.Algebra.Group.Nat.Basic

/-!
# Lccc.Except

**The error monad of the models.** Every fallible function of the sources (a `panic!`, a failed
assertion, an `unwrap` of `None`, a `todo!()`) is modelled in `Except`; these are the facts about
its `bind` and `forM` that the proofs peel runs with.
-/

namespace Lccc

/-- Outcomes are compared by value, so that a check's result can be decided on a concrete run. -/
instance instDecidableEqExcept {ε α : Type} [DecidableEq ε] [DecidableEq α] :
    DecidableEq (Except ε α)
  | .ok a, .ok b => decidable_of_iff (a = b) (by simp)
  | .error a, .error b => decidable_of_iff (a = b) (by simp)
  | .ok _, .error _ => isFalse (by simp)
  | .error _, .ok _ => isFalse (by simp)

@[simp] theorem ok_bind {α β ε : Type} (a : α) (f : α → Except ε β) : (Except.ok a >>= f) = f a :=
  rfl

@[simp] theorem error_bind {α β ε : Type} (e : ε) (f : α → Except ε β) :
    (Except.error e >>= f) = .error e :=
  rfl

/-- The bind of `Except` succeeds exactly when both stages do. -/
theorem bind_eq_ok {α β ε : Type} {x : Except ε α} {f : α → Except ε β} {b : β} :
    x >>= f = .ok b ↔ ∃ a, x = .ok a ∧ f a = .ok b := by
  cases x <;> simp [bind, Except.bind]

/-- A mapped computation succeeds exactly when the computation does. -/
theorem map_eq_ok {α β ε : Type} {f : α → β} {x : Except ε α} {b : β} :
    x.map f = .ok b ↔ ∃ a, x = .ok a ∧ f a = b := by
  cases x <;> simp [Except.map]

/-- A check that returns at all returns `()`. -/
@[simp] theorem exists_eq_ok_unit {ε : Type} {x : Except ε Unit} :
    (∃ u, x = .ok u) ↔ x = .ok () :=
  ⟨fun ⟨⟨⟩, h⟩ => h, fun h => ⟨(), h⟩⟩

theorem forM_eq_ok {α ε : Type} {xs : List α} {f : α → Except ε PUnit} {u : PUnit} :
    xs.forM f = .ok u ↔ ∀ x ∈ xs, f x = .ok ⟨⟩ := by
  induction xs with
  | nil => simp [List.forM, pure, Except.pure]
  | cons x xs ih =>
    rcases h : f x with e | ⟨⟩ <;> simp [List.forM, h, ih, bind, Except.bind]

end Lccc
