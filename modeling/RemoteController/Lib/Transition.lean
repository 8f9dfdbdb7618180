import Mathlib.Data.List.Induction

/-!
# Labelled runs

A `System` is a start state and a partial step function: every choice that is
not the program's own (which thread moves, what a call to the outside returns,
how far the clock advances) is in the label, so one label has at most one
successor and a run can be evaluated.

* `Run l s`: the labels `l`, taken in order from the start, lead to `s`.
* `RunWith ok l s`: the same, and every step met `ok` in the state it left.
* `Run.invariant`, `RunWith.invariant`: what holds at the start and is kept by
  each step holds after every run.  The invariant may speak of the labels taken
  so far, which is how a statement about everything sent or delivered is made.
* `Path s l t`: the labels `l` lead from `s` to `t`; `Run.append` and
  `Run.split` cut a run at a state in its middle.
* `Always P l`: `P` holds in every state that the run `l` passes;
  `always_iff_runWith` is for a `P` that fails after one kind of step only.
* `exec` and `execWith` evaluate a list of labels; `run_of_exec` and
  `runWith_of_exec` turn the result into a run.
-/

namespace Lib

universe u v

/-- A start state and a step function that may refuse a label. -/
structure System (σ : Type u) (α : Type v) where
  init : σ
  next : σ → α → Option σ

namespace System

variable {σ : Type u} {α : Type v} {M : System σ α}

/-- The labels `l` lead from `s` to `t`. -/
inductive Path (M : System σ α) (s : σ) : List α → σ → Prop
  | refl : Path M s [] s
  | snoc {l : List α} {t u : σ} {a : α} :
      Path M s l t → M.next t a = some u → Path M s (l ++ [a]) u

/-- The labels `l` lead from the start to `s`. -/
abbrev Run (M : System σ α) (l : List α) (s : σ) : Prop := M.Path M.init l s

/-- A run each of whose steps met `ok` in the state it left. -/
inductive RunWith (M : System σ α) (ok : σ → α → Prop) : List α → σ → Prop
  | start : RunWith M ok [] M.init
  | snoc {l : List α} {s t : σ} {a : α} :
      RunWith M ok l s → ok s a → M.next s a = some t → RunWith M ok (l ++ [a]) t

/-! ### Invariants -/

/-- **The rule for runs.** -/
theorem Run.invariant {P : List α → σ → Prop} (h0 : P [] M.init)
    (hs : ∀ l s a t, M.Run l s → P l s → M.next s a = some t → P (l ++ [a]) t) :
    ∀ {l : List α} {s : σ}, M.Run l s → P l s := by
  intro l s h
  induction h with
  | refl => exact h0
  | snoc h hn ih => exact hs _ _ _ _ h ih hn

theorem RunWith.run {ok : σ → α → Prop} {l : List α} {s : σ} (h : M.RunWith ok l s) :
    M.Run l s := by
  induction h with
  | start => exact .refl
  | snoc _ _ hn ih => exact .snoc ih hn

/-- **The rule for runs whose steps meet a condition.** -/
theorem RunWith.invariant {ok : σ → α → Prop} {P : List α → σ → Prop} (h0 : P [] M.init)
    (hs : ∀ l s a t, M.RunWith ok l s → P l s → ok s a → M.next s a = some t →
      P (l ++ [a]) t) :
    ∀ {l : List α} {s : σ}, M.RunWith ok l s → P l s := by
  intro l s h
  induction h with
  | start => exact h0
  | snoc h hok hn ih => exact hs _ _ _ _ h ih hok hn

/-! ### Cutting a run -/

theorem path_nil_iff {s t : σ} : M.Path s [] t ↔ t = s := by
  constructor
  · intro h
    generalize he : ([] : List α) = l at h
    cases h with
    | refl => rfl
    | snoc _ _ => simp at he
  · rintro rfl
    exact .refl

theorem path_snoc_iff {s u : σ} {l : List α} {a : α} :
    M.Path s (l ++ [a]) u ↔ ∃ t, M.Path s l t ∧ M.next t a = some u := by
  constructor
  · intro h
    generalize he : l ++ [a] = l' at h
    cases h with
    | refl => simp at he
    | snoc h hn =>
      obtain ⟨rfl, h1⟩ := List.append_inj' he rfl
      obtain rfl : a = _ := by simpa using h1
      exact ⟨_, h, hn⟩
  · rintro ⟨t, h, hn⟩
    exact .snoc h hn

theorem Path.append {s t u : σ} {l₁ l₂ : List α} (h₁ : M.Path s l₁ t) (h₂ : M.Path t l₂ u) :
    M.Path s (l₁ ++ l₂) u := by
  induction h₂ with
  | refl => simpa using h₁
  | snoc _ hn ih => rw [← List.append_assoc]; exact .snoc ih hn

theorem Path.split {s u : σ} {l₁ : List α} : ∀ {l₂ : List α}, M.Path s (l₁ ++ l₂) u →
    ∃ t, M.Path s l₁ t ∧ M.Path t l₂ u := by
  intro l₂
  induction l₂ using List.reverseRecOn generalizing u with
  | nil => intro h; exact ⟨u, by simpa using h, .refl⟩
  | append_singleton l a ih =>
    intro h
    rw [← List.append_assoc, path_snoc_iff] at h
    obtain ⟨t, ht, hn⟩ := h
    obtain ⟨m, h1, h2⟩ := ih ht
    exact ⟨m, h1, .snoc h2 hn⟩

theorem path_cons_iff {s u : σ} {l : List α} {a : α} :
    M.Path s (a :: l) u ↔ ∃ t, M.next s a = some t ∧ M.Path t l u := by
  constructor
  · intro h
    obtain ⟨t, h1, h2⟩ := Path.split (show M.Path s ([a] ++ l) u from h)
    obtain ⟨s', h0, hn⟩ := path_snoc_iff.mp (show M.Path s ([] ++ [a]) t from h1)
    obtain rfl := path_nil_iff.mp h0
    exact ⟨t, hn, h2⟩
  · rintro ⟨t, hn, h⟩
    exact (Path.snoc (l := []) .refl hn).append h

/-- A list of labels leads to one state at most. -/
theorem Path.unique {s t : σ} {l : List α} (h : M.Path s l t) :
    ∀ {t' : σ}, M.Path s l t' → t = t' := by
  induction h with
  | refl => intro t' h'; exact (path_nil_iff.mp h').symm
  | snoc h hn ih =>
    intro t' h'
    obtain ⟨m, hm, hn'⟩ := path_snoc_iff.mp h'
    obtain rfl := ih hm
    exact Option.some.inj (hn.symm.trans hn')

/-! ### Along a run -/

/-- `P` holds in every state that the labels `l` pass, from the start on. -/
def Always (M : System σ α) (P : σ → Prop) (l : List α) : Prop :=
  ∀ l₁ l₂ s, l = l₁ ++ l₂ → M.Run l₁ s → P s

theorem Always.of_snoc {P : σ → Prop} {l : List α} {a : α} (h : M.Always P (l ++ [a])) :
    M.Always P l :=
  fun l₁ l₂ s e hs => h l₁ (l₂ ++ [a]) s (by rw [e, List.append_assoc]) hs

theorem Always.snoc {P : σ → Prop} {l : List α} {a : α} {s : σ} (h : M.Always P l)
    (hr : M.Run (l ++ [a]) s) (hs : P s) : M.Always P (l ++ [a]) := by
  intro l₁ l₂ u e hu
  rcases List.eq_nil_or_concat l₂ with rfl | ⟨l₂', b, rfl⟩
  · rw [List.append_nil] at e
    subst e
    obtain rfl := Path.unique hr hu
    exact hs
  · rw [List.concat_eq_append, ← List.append_assoc] at e
    exact h l₁ l₂' u (List.append_inj' e rfl).1 hu

/-- **What goes wrong goes wrong in one step.**  `I` is kept by the steps that meet
`ok` and gives `P`; a step that does not meet `ok` leads to a state without `P`. -/
theorem always_iff_runWith {ok : σ → α → Prop} {I P : σ → Prop} (h0 : I M.init)
    (hkeep : ∀ s a t, I s → ok s a → M.next s a = some t → I t) (hP : ∀ s, I s → P s)
    (hbad : ∀ s a t, I s → M.next s a = some t → P t → ok s a) {l : List α} {s : σ}
    (h : M.Run l s) : M.Always P l ↔ M.RunWith ok l s := by
  have hI : ∀ {l s}, M.RunWith ok l s → I s := by
    intro l s hr
    exact hr.invariant (P := fun _ s => I s) h0 fun _ s a t _ hi hok hn => hkeep s a t hi hok hn
  induction h with
  | refl =>
    refine iff_of_true ?_ .start
    intro l₁ l₂ s e hs
    obtain ⟨rfl, rfl⟩ := List.append_eq_nil_iff.mp e.symm
    obtain rfl := path_nil_iff.mp hs
    exact hP _ h0
  | @snoc l s t a hr hn ih =>
    constructor
    · intro hall
      have hprev := ih.mp hall.of_snoc
      exact hprev.snoc (hbad s a t (hI hprev) hn (hall _ [] t (by simp) (hr.snoc hn))) hn
    · intro hw l₁ l₂ u e hu
      have hprev : M.RunWith ok l s ∧ I t := by
        generalize hl : l ++ [a] = k at hw
        cases hw with
        | start => simp at hl
        | snoc hw' hok hn' =>
          obtain ⟨rfl, h1⟩ := List.append_inj' hl rfl
          obtain rfl : a = _ := by simpa using h1
          obtain rfl := Path.unique hr hw'.run
          exact ⟨hw', hkeep _ _ _ (hI hw') hok hn'⟩
      rcases List.eq_nil_or_concat l₂ with rfl | ⟨l₂', b, rfl⟩
      · obtain rfl : l ++ [a] = l₁ := by simpa using e
        obtain rfl := Path.unique (hr.snoc hn) hu
        exact hP _ hprev.2
      · rw [List.concat_eq_append, ← List.append_assoc] at e
        obtain ⟨rfl, _⟩ := List.append_inj' e rfl
        exact ih.mpr hprev.1 l₁ l₂' u rfl hu

/-! ### Evaluating a run -/

/-- Take the labels in order, from `s`. -/
def exec (M : System σ α) (s : σ) : List α → Option σ
  | [] => some s
  | a :: l => (M.next s a).bind fun t => M.exec t l

theorem path_of_exec : ∀ {l : List α} {s t : σ}, M.exec s l = some t → M.Path s l t := by
  intro l
  induction l with
  | nil => intro s t h; obtain rfl := Option.some.inj h; exact .refl
  | cons a l ih =>
    intro s t h
    rw [exec, Option.bind_eq_some_iff] at h
    obtain ⟨m, hm, hl⟩ := h
    exact path_cons_iff.mpr ⟨m, hm, ih hl⟩

theorem run_of_exec {l : List α} {s : σ} (h : M.exec M.init l = some s) : M.Run l s :=
  path_of_exec h

/-- Take the labels in order, as long as each step meets `ok`. -/
def execWith (M : System σ α) (ok : σ → α → Prop) [∀ s a, Decidable (ok s a)] (s : σ) :
    List α → Option σ
  | [] => some s
  | a :: l => if ok s a then (M.next s a).bind fun t => M.execWith ok t l else none

theorem RunWith.append_exec {ok : σ → α → Prop} [∀ s a, Decidable (ok s a)] :
    ∀ {l₂ l₁ : List α} {s t : σ}, M.RunWith ok l₁ s → M.execWith ok s l₂ = some t →
      M.RunWith ok (l₁ ++ l₂) t := by
  intro l₂
  induction l₂ with
  | nil => intro l₁ s t h he; obtain rfl := Option.some.inj he; simpa using h
  | cons a l ih =>
    intro l₁ s t h he
    rw [execWith] at he
    split at he
    · rename_i hok
      rw [Option.bind_eq_some_iff] at he
      obtain ⟨m, hm, hl⟩ := he
      simpa using ih (h.snoc hok hm) hl
    · cases he

theorem runWith_of_exec {ok : σ → α → Prop} [∀ s a, Decidable (ok s a)] {l : List α} {s : σ}
    (h : M.execWith ok M.init l = some s) : M.RunWith ok l s :=
  by simpa using RunWith.append_exec .start h

end System

end Lib
