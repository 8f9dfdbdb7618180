import RemoteController.Lib.Transition
import Mathlib.Data.List.Sort

/-!
# Runs of a part

A system that is put together from others moves one of them, several at once, or none.
Whoever knows a part can look at the runs of the whole through a projection.

* `Run.project`: a run of the whole is a run of the part.
* `sublist_of_increasing`: what arrives in the order of numbers is a sublist of what was
  sent in that order.
-/

namespace Lib

universe u v w x

namespace System

variable {σ : Type u} {α : Type v} {τ : Type w} {β : Type x}

/-- **A run of the whole is a run of the part**, if each step moves the part as the part
moves, or leaves it alone. -/
theorem Run.project {M : System σ α} {N : System τ β} (part : σ → τ)
    (h0 : part M.init = N.init)
    (hs : ∀ s a t, M.next s a = some t →
      part t = part s ∨ ∃ b, N.next (part s) b = some (part t)) :
    ∀ {l : List α} {s : σ}, M.Run l s → ∃ k, N.Run k (part s) := by
  intro l s h
  induction h with
  | refl => exact ⟨[], h0 ▸ .refl⟩
  | snoc _ hn ih =>
    obtain ⟨k, hk⟩ := ih
    rcases hs _ _ _ hn with he | ⟨b, hb⟩
    · exact ⟨k, he ▸ hk⟩
    · exact ⟨k ++ [b], hk.snoc hb⟩

end System

/-- **Numbers that increase on both sides make a sublist of a subset.** -/
theorem sublist_of_increasing {α : Type u} (number : α → Nat) {l₁ l₂ : List α}
    (hsub : ∀ a ∈ l₁, a ∈ l₂) (h₁ : l₁.Pairwise fun a b => number a < number b)
    (h₂ : l₂.Pairwise fun a b => number a < number b) : l₁.Sublist l₂ := by
  have hasymm : Std.Antisymm fun a b => number a < number b :=
    ⟨fun _ _ hab hba => (Nat.lt_asymm hab hba).elim⟩
  have hirrefl : Std.Irrefl fun a b => number a < number b := ⟨fun _ => Nat.lt_irrefl _⟩
  exact List.sublist_of_subperm_of_pairwise (List.subperm_of_subset h₁.nodup hsub) h₁ h₂

end Lib
