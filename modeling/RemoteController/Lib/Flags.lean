import Mathlib.Data.List.Basic

/-!
# Flag tables

A table gives each of some conditions a mask; `flagsOf` ORs the masks of those that
hold, in the order of the table.

* `flagsOf_and_eq_zero`: a mask that overlaps no mask of the table is clear.
* `flagsOf_and_ne_zero`: in a table whose masks do not overlap, the mask of a
  condition is set exactly when the condition holds.
-/

namespace Lib

universe u v

/-- Words with the laws of OR and AND that flags need. -/
class FlagWord (β : Type v) extends OrOp β, AndOp β, OfNat β 0 where
  zero_and : ∀ f : β, 0 &&& f = 0
  or_and : ∀ a b f : β, (a ||| b) &&& f = (a &&& f) ||| (b &&& f)
  or_eq_zero : ∀ a b : β, a ||| b = 0 ↔ a = 0 ∧ b = 0

instance : FlagWord UInt16 where
  zero_and _ := UInt16.zero_and
  or_and _ _ _ := by simp [← UInt16.toBitVec_inj, BitVec.and_or_distrib_right]
  or_eq_zero _ _ := UInt16.or_eq_zero_iff

instance : FlagWord UInt32 where
  zero_and _ := UInt32.zero_and
  or_and _ _ _ := by simp [← UInt32.toBitVec_inj, BitVec.and_or_distrib_right]
  or_eq_zero _ _ := UInt32.or_eq_zero_iff

variable {α : Type u} {β : Type v} [FlagWord β]

/-- The OR of the masks whose condition holds. -/
def flagsOf (table : List (α × β)) (holds : α → Bool) : β :=
  table.foldl (fun flags e => if holds e.1 then flags ||| e.2 else flags) 0

/-- No two conditions of the table share a bit, and no mask is empty. -/
def Separate (table : List (α × β)) : Prop :=
  ∀ e ∈ table, e.2 &&& e.2 ≠ 0 ∧ ∀ e' ∈ table, e'.2 &&& e.2 ≠ 0 → e'.1 = e.1

instance [DecidableEq α] [DecidableEq β] (table : List (α × β)) : Decidable (Separate table) :=
  inferInstanceAs (Decidable (∀ e ∈ table, _))

theorem foldl_and_eq_zero (holds : α → Bool) (f : β) : ∀ (table : List (α × β)) (start : β),
    table.foldl (fun flags e => if holds e.1 then flags ||| e.2 else flags) start &&& f = 0 ↔
      start &&& f = 0 ∧ ∀ e ∈ table, holds e.1 = true → e.2 &&& f = 0 := by
  intro table
  induction table with
  | nil => intro start; simp
  | cons e table ih =>
    intro start
    rw [List.foldl_cons, ih, List.forall_mem_cons]
    by_cases h : holds e.1 = true
    · rw [if_pos h, FlagWord.or_and, FlagWord.or_eq_zero, and_assoc]
      exact and_congr_right fun _ => and_congr_left fun _ => ⟨fun he _ => he, fun he => he h⟩
    · rw [if_neg h]
      exact and_congr_right fun _ => ⟨fun he => ⟨fun h' => absurd h' h, he⟩, And.right⟩

/-- **Which masks are clear.** -/
theorem flagsOf_and_eq_zero {table : List (α × β)} {holds : α → Bool} {f : β} :
    flagsOf table holds &&& f = 0 ↔ ∀ e ∈ table, holds e.1 = true → e.2 &&& f = 0 := by
  rw [flagsOf, foldl_and_eq_zero]
  exact and_iff_right (FlagWord.zero_and f)

/-- **A mask of a separate table is set exactly when its condition holds.** -/
theorem flagsOf_and_ne_zero {table : List (α × β)} (hs : Separate table) {a : α} {f : β}
    (h : (a, f) ∈ table) (holds : α → Bool) :
    flagsOf table holds &&& f ≠ 0 ↔ holds a = true := by
  obtain ⟨hf, hunique⟩ := hs (a, f) h
  rw [ne_eq, flagsOf_and_eq_zero]
  constructor
  · intro hn
    by_contra ha
    refine hn fun e he hholds => ?_
    by_contra hoverlap
    rw [hunique e he hoverlap] at hholds
    exact ha hholds
  · intro ha hz
    exact hf (hz (a, f) h ha)

end Lib
