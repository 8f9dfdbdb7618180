import Mathlib.Data.List.Destutter

/-!
# Coalescing a stream by a key

A producer may replace the newest element of a queue by a later one with the same
key, so the consumer sees fewer elements than were produced.  `Coalesces key l m`
says how little is lost: `m` is `l` without some elements, and each element that
is gone stood directly before one with the same key.

* `Coalesces.sublist` and `Coalesces.runEnds_sublist`: `m` is a subsequence of
  `l` and has the last element of every maximal run of equal keys.
* `Coalesces.destutter_eq`: the keys of `l` and of `m`, adjacent repetitions
  removed, are the same list.
* `Coalesces.getLast?_eq`: the two end in the same element.
* `Coalesces.push` and `Coalesces.overwrite`: the two moves of such a producer.
-/

namespace Lib

universe u v

variable {α : Type u} {κ : Type v}

/-- `m` is `l` without some elements, each of which stood directly before one
with the same key. -/
inductive Coalesces (key : α → κ) : List α → List α → Prop
  | nil : Coalesces key [] []
  | keep {l m : List α} (a : α) : Coalesces key l m → Coalesces key (a :: l) (a :: m)
  | drop {l m : List α} {a b : α} : key a = key b → Coalesces key (b :: l) m →
      Coalesces key (a :: b :: l) m

/-- The last elements of the maximal runs of equal keys. -/
def runEnds [DecidableEq κ] (key : α → κ) : List α → List α
  | [] => []
  | [a] => [a]
  | a :: b :: l => if key a = key b then runEnds key (b :: l) else a :: runEnds key (b :: l)

theorem runEnds_cons_sublist [DecidableEq κ] (key : α → κ) (a : α) (l : List α) :
    (runEnds key (a :: l)).Sublist (a :: runEnds key l) := by
  cases l with
  | nil => exact List.Sublist.refl _
  | cons b l =>
    rw [runEnds]
    split
    · exact List.sublist_cons_self _ _
    · exact List.Sublist.refl _

namespace Coalesces

variable {key : α → κ} {l m : List α}

/-! ### What is kept -/

theorem sublist (h : Coalesces key l m) : m.Sublist l := by
  induction h with
  | nil => exact List.Sublist.slnil
  | keep a _ ih => exact ih.cons_cons a
  | drop _ _ ih => exact ih.cons _

theorem runEnds_sublist [DecidableEq κ] (h : Coalesces key l m) :
    (runEnds key l).Sublist m := by
  induction h with
  | nil => exact List.Sublist.slnil
  | keep a _ ih => exact (runEnds_cons_sublist key a _).trans (ih.cons_cons a)
  | drop hk _ ih => rw [runEnds, if_pos hk]; exact ih

theorem eq_nil_iff (h : Coalesces key l m) : m = [] ↔ l = [] := by
  induction h with
  | nil => exact Iff.rfl
  | keep a _ _ => simp
  | drop _ _ ih => simp [ih]

theorem getLast?_eq (h : Coalesces key l m) : m.getLast? = l.getLast? := by
  induction h with
  | nil => rfl
  | @keep l m a h ih =>
    by_cases hl : l = []
    · rw [h.eq_nil_iff.mpr hl, hl]
    · have hm : m ≠ [] := fun e => hl (h.eq_nil_iff.mp e)
      obtain ⟨b, l, rfl⟩ := List.exists_cons_of_ne_nil hl
      obtain ⟨c, m, rfl⟩ := List.exists_cons_of_ne_nil hm
      rw [List.getLast?_cons_cons, List.getLast?_cons_cons, ih]
  | drop _ _ ih => rw [List.getLast?_cons_cons, ih]

/-! ### The history of keys -/

/-- Behind any key the two histories agree. -/
theorem destutter'_eq [DecidableEq κ] (h : Coalesces key l m) :
    ∀ k, (m.map key).destutter' (· ≠ ·) k = (l.map key).destutter' (· ≠ ·) k := by
  induction h with
  | nil => intro k; rfl
  | keep a _ ih =>
    intro k
    rw [List.map_cons, List.map_cons, List.destutter'_cons, List.destutter'_cons, ih, ih]
  | @drop l m a b hk _ ih =>
    intro k
    rw [ih, List.map_cons, List.map_cons, List.map_cons, hk]
    -- the second of two equal keys is dropped, whether the first one is kept or not
    by_cases hb : k = key b
    · simp [hb]
    · simp [hb]

/-- **No change of the key is lost, and none is invented.** -/
theorem destutter_eq [DecidableEq κ] (h : Coalesces key l m) :
    (m.map key).destutter (· ≠ ·) = (l.map key).destutter (· ≠ ·) := by
  induction h with
  | nil => rfl
  | keep a h _ =>
    rw [List.map_cons, List.map_cons, List.destutter_cons', List.destutter_cons', h.destutter'_eq]
  | drop hk _ ih =>
    rw [ih, List.map_cons, List.map_cons, List.map_cons, hk, List.destutter_cons',
      List.destutter_cons', List.destutter'_cons_neg _ (by simp)]

/-! ### The moves of the producer -/

/-- A new element is queued behind the others. -/
theorem push (h : Coalesces key l m) (a : α) : Coalesces key (l ++ [a]) (m ++ [a]) := by
  induction h with
  | nil => exact .keep a .nil
  | keep b _ ih => exact .keep b ih
  | drop hk _ ih => exact .drop hk ih

/-- A new element takes the place of the newest one, which has the same key. -/
theorem overwrite {a b : α} (h : Coalesces key l (m ++ [b])) (hk : key b = key a) :
    Coalesces key (l ++ [a]) (m ++ [a]) := by
  generalize hm : m ++ [b] = m' at h
  induction h generalizing m with
  | nil => simp at hm
  | @keep l m' c h ih =>
    cases m with
    | nil =>
      obtain ⟨rfl, rfl⟩ := List.cons.inj hm
      rw [h.eq_nil_iff.mp rfl]
      exact .drop hk (.keep a .nil)
    | cons d m =>
      obtain ⟨rfl, hm'⟩ := List.cons.inj hm
      exact .keep d (ih hm')
  | drop hk' _ ih => exact .drop hk' (ih hm)

end Coalesces

end Lib
