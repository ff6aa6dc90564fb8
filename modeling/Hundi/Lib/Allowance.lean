/-
  An allowance: a ceiling, what has been spent of it, and at most one hold on what is left.

  A hold is taken only when there is none and when it fits; settling turns the hold into spending.
  Whatever the order of these moves, what is spent and held together stays within the ceiling
  (`Step.within`).
-/
import Mathlib.Algebra.Order.Group.Defs

structure Allowance (α : Type) where
  ceiling : α
  spent : α
  held : α

namespace Allowance

variable {α : Type} [AddCommGroup α] [LinearOrder α] [IsOrderedAddMonoid α]

/-- What is spent and held fits under the ceiling. -/
def Within (a : Allowance α) : Prop := a.spent + a.held ≤ a.ceiling

/-- The moves of an allowance. -/
inductive Step (a : Allowance α) : Allowance α → Prop where
  | stay : Step a a
  | hold (amount : α) (hfree : a.held = 0) (hfit : a.spent + amount ≤ a.ceiling) :
      Step a { a with held := amount }
  | settle : Step a { a with spent := a.spent + a.held, held := 0 }

omit [IsOrderedAddMonoid α] in
/-- An allowance nothing was taken from. -/
theorem within_zero {c : α} (hc : 0 ≤ c) : Within ⟨c, 0, 0⟩ := by
  unfold Within
  rw [add_zero]
  exact hc

omit [IsOrderedAddMonoid α] in
/-- **No move takes an allowance over its ceiling.** -/
theorem Step.within {a b : Allowance α} (h : Step a b) (ha : a.Within) : b.Within := by
  cases h with
  | stay => exact ha
  | hold amount hfree hfit => exact hfit
  | settle =>
    unfold Within at ha ⊢
    rw [add_zero]
    exact ha

/-- **No move takes spending back**, as long as what is held is not negative. -/
theorem Step.spent_mono {a b : Allowance α} (h : Step a b) (hheld : 0 ≤ a.held) : a.spent ≤ b.spent := by
  cases h with
  | stay => exact le_refl _
  | hold amount hfree hfit => exact le_refl _
  | settle => exact le_add_of_nonneg_right hheld

end Allowance
