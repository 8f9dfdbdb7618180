import Mathlib.Data.List.MinMax

/-!
# Keeping only what is newer

A receiver of numbered items that takes an item only if its key is above every
key it took before.  What it takes of a list are the records of the list: its
left-to-right maxima.

* `records key b l`: the items taken, starting from the high-water mark `b`.
* `highWater key b l`: the mark afterwards.
* `records_concat`, `highWater_concat`: one more item, which is the step of any
  receiver that keeps the mark in a variable.
* `records_pairwise`: the keys taken are strictly increasing.
* `records_getLast?`: the last item taken is the one with the highest key.
-/

namespace Lib

universe u v

variable {α : Type u} {κ : Type v} [LinearOrder κ]

def records (key : α → κ) : κ → List α → List α
  | _, [] => []
  | b, a :: l => if b < key a then a :: records key (key a) l else records key b l

def highWater (key : α → κ) : κ → List α → κ
  | b, [] => b
  | b, a :: l => highWater key (if b < key a then key a else b) l

variable {key : α → κ}

theorem highWater_concat : ∀ (l : List α) (b : κ) (a : α),
    highWater key b (l ++ [a]) =
      if highWater key b l < key a then key a else highWater key b l := by
  intro l
  induction l with
  | nil => intro b a; rfl
  | cons c l ih => intro b a; exact ih _ a

theorem records_concat : ∀ (l : List α) (b : κ) (a : α),
    records key b (l ++ [a]) =
      records key b l ++ if highWater key b l < key a then [a] else [] := by
  intro l
  induction l with
  | nil =>
    intro b a
    rw [List.nil_append, records, records, highWater, records, List.nil_append]
    split <;> rfl
  | cons c l ih =>
    intro b a
    rw [List.cons_append, records, records, highWater]
    by_cases h : b < key c
    · rw [if_pos h, if_pos h, if_pos h, ih, List.cons_append]
    · rw [if_neg h, if_neg h, if_neg h, ih]

theorem le_highWater : ∀ (l : List α) (b : κ), b ≤ highWater key b l := by
  intro l
  induction l with
  | nil => intro b; exact le_refl b
  | cons a l ih =>
    intro b
    refine le_trans ?_ (ih _)
    split
    · rename_i h; exact le_of_lt h
    · exact le_refl b

theorem le_highWater_of_mem : ∀ (l : List α) (b : κ), ∀ a ∈ l, key a ≤ highWater key b l := by
  intro l
  induction l with
  | nil => intro b a ha; cases ha
  | cons c l ih =>
    intro b a ha
    rcases List.mem_cons.mp ha with rfl | ha
    · refine le_trans ?_ (le_highWater l _)
      split
      · exact le_refl _
      · rename_i h; exact not_lt.mp h
    · exact ih _ a ha

/-- Only items of the list are taken. -/
theorem records_sublist : ∀ (l : List α) (b : κ), (records key b l).Sublist l := by
  intro l
  induction l with
  | nil => intro b; exact .slnil
  | cons a l ih =>
    intro b
    rw [records]
    split
    · exact (ih _).cons_cons a
    · exact (ih b).cons a

theorem lt_of_mem_records : ∀ (l : List α) (b : κ), ∀ a ∈ records key b l, b < key a := by
  intro l
  induction l with
  | nil => intro b a ha; cases ha
  | cons c l ih =>
    intro b a ha
    rw [records] at ha
    split at ha
    · rename_i h
      rcases List.mem_cons.mp ha with rfl | ha
      · exact h
      · exact lt_trans h (ih _ a ha)
    · exact ih b a ha

/-- **The keys taken are strictly increasing.** -/
theorem records_pairwise : ∀ (l : List α) (b : κ),
    (records key b l).Pairwise fun x y => key x < key y := by
  intro l
  induction l with
  | nil => intro b; exact .nil
  | cons a l ih =>
    intro b
    rw [records]
    split
    · exact .cons (lt_of_mem_records l (key a)) (ih _)
    · exact ih b

/-- The mark is the key of the item with the highest key, if all keys are above
the start. -/
theorem argmax_key {l : List α} {b : κ} (h : ∀ a ∈ l, b < key a) :
    (l.argmax key = none ∧ l = []) ∨
      ∃ m, l.argmax key = some m ∧ highWater key b l = key m := by
  induction l using List.reverseRecOn with
  | nil => exact Or.inl ⟨rfl, rfl⟩
  | append_singleton l a ih =>
    right
    have ha : b < key a := h a (by simp)
    rw [List.argmax_concat, highWater_concat]
    rcases ih fun c hc => h c (by simp [hc]) with ⟨hn, hl⟩ | ⟨m, hm, hw⟩
    · rw [hn, hl]
      exact ⟨a, rfl, if_pos ha⟩
    · rw [hm, hw]
      by_cases hlt : key m < key a
      · exact ⟨a, if_pos hlt, if_pos hlt⟩
      · exact ⟨m, if_neg hlt, if_neg hlt⟩

/-- **The last item taken is the one with the highest key.** -/
theorem records_getLast? {l : List α} {b : κ} (h : ∀ a ∈ l, b < key a) :
    (records key b l).getLast? = l.argmax key := by
  induction l using List.reverseRecOn with
  | nil => rfl
  | append_singleton l a ih =>
    have hl : ∀ c ∈ l, b < key c := fun c hc => h c (by simp [hc])
    rw [records_concat, List.argmax_concat]
    rcases argmax_key hl with ⟨hn, rfl⟩ | ⟨m, hm, hw⟩
    · rw [hn]
      simp [records, highWater, h a (by simp)]
    · rw [hm, hw]
      by_cases hlt : key m < key a
      · simp [hlt]
      · simp only [if_neg hlt, List.append_nil]
        rw [ih hl, hm]

end Lib
