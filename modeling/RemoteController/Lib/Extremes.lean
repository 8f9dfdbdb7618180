import Mathlib.Order.Bounds.Defs
import Mathlib.Data.Set.Defs
import Mathlib.Data.List.Basic

/-!
# Running extremes

The least and the greatest of the values seen so far, kept by comparing each new value
with what is kept, as `std::min` and `std::max` do.  Either the first value is taken as
it is, or the comparison starts at a bottom that no value is below.

* `isLeast_snoc`, `isGreatest_snoc`: one more value.
* `isGreatest_of_bottom`: what a start at the bottom comes to.
-/

namespace Lib

universe u

variable {α : Type u}

/-- The values of a list. -/
def valuesOf (values : List α) : Set α := {v | v ∈ values}

variable [LE α] [Std.IsLinearOrder α]

theorem isLeast_one (v : α) : IsLeast (valuesOf [v]) v := by
  refine ⟨List.mem_cons_self, ?_⟩
  intro w hw
  rw [List.mem_singleton.mp hw]
  exact Std.le_refl v

theorem isGreatest_one (v : α) : IsGreatest (valuesOf [v]) v := by
  refine ⟨List.mem_cons_self, ?_⟩
  intro w hw
  rw [List.mem_singleton.mp hw]
  exact Std.le_refl v

/-- A bottom among the values does not matter, unless it is the only one. -/
theorem isGreatest_of_bottom {bottom hi : α} {values : List α} (hb : ∀ v, bottom ≤ v)
    (h : IsGreatest (valuesOf (bottom :: values)) hi) (hne : values ≠ []) :
    IsGreatest (valuesOf values) hi := by
  refine ⟨?_, fun w hw => h.2 (List.mem_cons_of_mem _ hw)⟩
  rcases List.mem_cons.mp h.1 with rfl | hmem
  · obtain ⟨v, hv⟩ := List.exists_mem_of_ne_nil values hne
    have he : hi = v := Std.le_antisymm (hb v) (h.2 (List.mem_cons_of_mem _ hv))
    rwa [he]
  · exact hmem

/-! ### One more value -/

variable [LT α] [DecidableLT α] [Std.LawfulOrderLT α]

/-- `std::min`. -/
def smaller (a b : α) : α := if b < a then b else a

/-- `std::max`. -/
def larger (a b : α) : α := if a < b then b else a

theorem smaller_cases (a b : α) : smaller a b = b ∧ b ≤ a ∨ smaller a b = a ∧ a ≤ b := by
  unfold smaller
  split
  · rename_i h
    exact Or.inl ⟨rfl, Std.le_of_lt h⟩
  · rename_i h
    exact Or.inr ⟨rfl, Std.not_lt.mp h⟩

theorem larger_cases (a b : α) : larger a b = b ∧ a ≤ b ∨ larger a b = a ∧ b ≤ a := by
  unfold larger
  split
  · rename_i h
    exact Or.inl ⟨rfl, Std.le_of_lt h⟩
  · rename_i h
    exact Or.inr ⟨rfl, Std.not_lt.mp h⟩

theorem isLeast_snoc {values : List α} {lo : α} (h : IsLeast (valuesOf values) lo) (v : α) :
    IsLeast (valuesOf (values ++ [v])) (smaller lo v) := by
  rcases smaller_cases lo v with ⟨he, hle⟩ | ⟨he, hle⟩
  · rw [he]
    refine ⟨List.mem_append_right _ List.mem_cons_self, ?_⟩
    intro w hw
    rcases List.mem_append.mp hw with hw | hw
    · exact Std.le_trans hle (h.2 hw)
    · rw [List.mem_singleton.mp hw]
      exact Std.le_refl v
  · rw [he]
    refine ⟨List.mem_append_left _ h.1, ?_⟩
    intro w hw
    rcases List.mem_append.mp hw with hw | hw
    · exact h.2 hw
    · rw [List.mem_singleton.mp hw]
      exact hle

theorem isGreatest_snoc {values : List α} {hi : α} (h : IsGreatest (valuesOf values) hi) (v : α) :
    IsGreatest (valuesOf (values ++ [v])) (larger hi v) := by
  rcases larger_cases hi v with ⟨he, hle⟩ | ⟨he, hle⟩
  · rw [he]
    refine ⟨List.mem_append_right _ List.mem_cons_self, ?_⟩
    intro w hw
    rcases List.mem_append.mp hw with hw | hw
    · exact Std.le_trans (h.2 hw) hle
    · rw [List.mem_singleton.mp hw]
      exact Std.le_refl v
  · rw [he]
    refine ⟨List.mem_append_left _ h.1, ?_⟩
    intro w hw
    rcases List.mem_append.mp hw with hw | hw
    · exact h.2 hw
    · rw [List.mem_singleton.mp hw]
      exact hle

end Lib
