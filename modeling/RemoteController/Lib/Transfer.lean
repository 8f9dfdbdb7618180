import Mathlib.Algebra.Order.BigOperators.Group.Finset

/-!
# Loops of partial calls

A loop moves `length` elements by calls that may each move less than they are
asked for: it asks for what is left, goes on behind what was moved, and gives up
at the first call that moves nothing.

* `Transfer length`: where the loop is.  A call is made only while something is
  left, which is part of its type.
* `Transfer.answer`: what a result makes of the loop.
* `moveAll`: the whole loop, on any results.  It returns, after at most as many
  calls as there are elements (`moveAll_calls`), asks each time for something
  (`moveAll_asked`), and returns false exactly when a call moves nothing before all
  is moved (`moveAll_ok`).
-/

namespace Lib

universe u

/-- Where a loop that moves `length` elements is: in a call, `moved` of them being
behind it, or at its end. -/
inductive Transfer (length : Int) where
  | calling (moved : Int) (left : moved < length)
  | returned (ok : Bool)
  deriving DecidableEq, Repr

namespace Transfer

variable {length : Int}

/-- The test of the loop. -/
def test (length moved : Int) : Transfer length :=
  if left : moved < length then .calling moved left else .returned true

/-- The call returns `result`. -/
def answer (result : Int) : Transfer length → Transfer length
  | .calling moved _ => if result ≤ 0 then .returned false else test length (moved + result)
  | .returned ok => .returned ok

/-- What is left to move. -/
def left : Transfer length → Nat
  | .calling moved _ => (length - moved).toNat
  | .returned _ => 0

theorem test_left (length moved : Int) : (test length moved).left = (length - moved).toNat := by
  rw [test]
  split
  · rfl
  · show 0 = (length - moved).toNat
    omega

theorem answer_left {moved result : Int} (h : moved < length) :
    (answer result (.calling moved h)).left < (calling moved h).left := by
  rw [answer]
  split
  · show 0 < (length - moved).toNat
    omega
  · rw [test_left]
    show (length - (moved + result)).toNat < (length - moved).toNat
    omega

end Transfer

open Transfer

/-- What a loop returns, the lengths its calls asked for, and what the calls made of
the state. -/
structure Moved (σ : Type u) where
  ok : Bool
  asked : List Int
  state : σ

/-- The same with one more call, in front. -/
def Moved.behind {σ : Type u} (n : Int) (m : Moved σ) : Moved σ := { m with asked := n :: m.asked }

variable {σ : Type u} {length : Int} (move : Int → Int → σ → σ)

/-- **The loop.**  Its calls return `results`, and one that returns `result` with
`moved` elements behind it makes `move moved result s` of the state `s`. -/
def moveAll (results : Nat → Int) : Transfer length → σ → Moved σ
  | .returned ok, s => ⟨ok, [], s⟩
  | .calling moved left, s =>
    (moveAll (fun i => results (i + 1)) (answer (results 0) (.calling moved left))
      (if results 0 ≤ 0 then s else move moved (results 0) s)).behind (length - moved)
termination_by t => t.left
decreasing_by exact answer_left left

/-- **Every call asks for something.** -/
theorem moveAll_asked (results : Nat → Int) (t : Transfer length) (s : σ) :
    ∀ n ∈ (moveAll move results t s).asked, 0 < n := by
  fun_induction moveAll move results t s with
  | case1 => simp
  | case2 results moved left s ih =>
    intro n hn
    rcases List.mem_cons.mp hn with rfl | hn
    · omega
    · exact ih n hn

/-- **The loop ends**: there are no more calls than elements. -/
theorem moveAll_calls (results : Nat → Int) (t : Transfer length) (s : σ) :
    (moveAll move results t s).asked.length ≤ t.left := by
  fun_induction moveAll move results t s with
  | case1 => exact Nat.le_refl 0
  | case2 results moved left s ih =>
    exact Nat.succ_le_of_lt (Nat.lt_of_le_of_lt ih (answer_left left))

/-- A call that moves nothing, where something is left. -/
def FailsFrom (results : Nat → Int) (moved length : Int) : Prop :=
  ∃ n, results n ≤ 0 ∧ (∀ i < n, 0 < results i) ∧
    moved + ∑ i ∈ Finset.range n, results i < length

theorem failsFrom_cons {results : Nat → Int} {moved : Int} (left : moved < length) :
    FailsFrom results moved length ↔
      results 0 ≤ 0 ∨ 0 < results 0 ∧
        FailsFrom (fun i => results (i + 1)) (moved + results 0) length := by
  constructor
  · rintro ⟨n, hn, hpos, hsum⟩
    cases n with
    | zero => exact Or.inl hn
    | succ n =>
      rw [Finset.sum_range_succ', add_comm (∑ i ∈ Finset.range n, _), ← add_assoc] at hsum
      exact Or.inr ⟨hpos 0 (Nat.succ_pos n), n, hn, fun i hi => hpos (i + 1) (by omega), hsum⟩
  · rintro (h0 | ⟨h0, n, hn, hpos, hsum⟩)
    · exact ⟨0, h0, by simp, by simpa using left⟩
    · refine ⟨n + 1, hn, ?_, ?_⟩
      · intro i hi
        cases i with
        | zero => exact h0
        | succ i => exact hpos i (by omega)
      · rwa [Finset.sum_range_succ', add_comm (∑ i ∈ Finset.range n, _), ← add_assoc]

/-- **What the loop returns.** -/
theorem moveAll_ok (results : Nat → Int) (moved : Int) (s : σ) :
    (moveAll move results (test length moved) s).ok = false ↔ FailsFrom results moved length := by
  generalize ht : test length moved = t
  fun_induction moveAll move results t s generalizing moved with
  | case1 results s ok =>
    rw [test] at ht
    split at ht
    · cases ht
    · rename_i hnot
      obtain rfl := Transfer.returned.inj ht
      refine iff_of_false Bool.noConfusion ?_
      rintro ⟨n, _, hpos, hsum⟩
      have hnonneg : 0 ≤ ∑ i ∈ Finset.range n, results i :=
        Finset.sum_nonneg fun i hi => Int.le_of_lt (hpos i (Finset.mem_range.mp hi))
      omega
  | case2 results moved' left s ih =>
    obtain rfl : moved = moved' := by
      rw [test] at ht
      split at ht
      · exact (Transfer.calling.inj ht)
      · cases ht
    rw [failsFrom_cons left]
    by_cases h0 : results 0 ≤ 0
    · refine iff_of_true ?_ (Or.inl h0)
      rw [answer, if_pos h0, moveAll]
      rfl
    · have hgoes : test length (moved + results 0) =
          answer (results 0) (.calling moved left) := by rw [answer, if_neg h0]
      rw [or_iff_right h0, and_iff_right (Int.not_le.mp h0)]
      exact ih _ hgoes

/-- The loop from its beginning. -/
theorem moveAll_spec (results : Nat → Int) (length : Int) (s : σ) :
    let m := moveAll move results (test length 0) s
    (∀ n ∈ m.asked, 0 < n) ∧ m.asked.length ≤ length.toNat ∧
      (m.ok = false ↔ FailsFrom results 0 length) := by
  refine ⟨moveAll_asked move results _ s, ?_, moveAll_ok move results 0 s⟩
  have hcalls := moveAll_calls move results (test length 0) s
  rwa [test_left, Int.sub_zero] at hcalls

end Lib
