import Mathlib.Data.List.Induction

/-!
# Handles in a log of calls

A log of calls to some library, and of each call which handle it names and what it
does to it: it acquires the handle, uses it, releases it, or needs it not to be held
(a chunk of memory is not to be freed while a lock in it is held).

* `Ledger.Balanced held log`: no handle is acquired twice, each is released once or
  is one of `held`, and it is used and released only while it is held.
* `Ledger.walk`: the same as a walk through the phases of a handle, which is how a
  log is checked; `Walked` says where the walk ends and `Walked.balanced` that it is enough.
* `Walked.append`: a log grows by the calls of one operation, which name one handle;
  what the operation finds and where it ends are `Finds` and `Ends`.
-/

namespace Lib

universe u v

/-- What a call does to a handle. -/
inductive Effect where
  | acquire
  | use
  | release
  /-- The call is made only while the handle is not held. -/
  | close
  deriving DecidableEq, Repr

/-- The handle that a call names, and what it does to it, if anything. -/
structure Ledger (ε : Type u) (η : Type v) where
  names : ε → Option η
  does : ε → Option Effect

/-- Where a handle is. -/
inductive Hold where
  | fresh
  | held
  | released
  deriving DecidableEq, Repr

/-- A handle is held once in its life. -/
def Hold.after : Hold → Option Effect → Option Hold
  | p, none => some p
  | .fresh, some .acquire => some .held
  | .held, some .use => some .held
  | .held, some .release => some .released
  | .fresh, some .close => some .fresh
  | .released, some .close => some .released
  | _, _ => none

/-- What the counts are in a phase. -/
def Hold.Counts : Hold → Nat → Nat → Prop
  | .fresh, a, r => a = 0 ∧ r = 0
  | .held, a, r => a = 1 ∧ r = 0
  | .released, a, r => a = 1 ∧ r = 1

theorem Hold.Counts.after {p q : Hold} {f : Option Effect} {a r : Nat} (hc : p.Counts a r)
    (hq : p.after f = some q) :
    q.Counts (a + if f = some .acquire then 1 else 0) (r + if f = some .release then 1 else 0) := by
  cases f with
  | none => obtain rfl := Option.some.inj hq; simpa using hc
  | some f =>
    -- five pairs of a phase and an effect go on, the others are a misuse
    cases p <;> cases f <;> simp only [Hold.after, reduceCtorEq, Option.some.injEq] at hq
    all_goals
      subst hq
      simp only [Hold.Counts] at hc ⊢
      simp [hc]

namespace Ledger

variable {ε : Type u} {η : Type v} [DecidableEq η] (L : Ledger ε η)

def effect (e : ε) (h : η) : Option Effect := if L.names e = some h then L.does e else none

/-- How often the log acquires the handle. -/
def acquires (h : η) (log : List ε) : Nat := log.countP fun e => L.effect e h = some .acquire

def releases (h : η) (log : List ε) : Nat := log.countP fun e => L.effect e h = some .release

/-- **A balanced log.** -/
structure Balanced (held : η → Prop) (log : List ε) : Prop where
  once : ∀ h, L.acquires h log ≤ 1
  /-- What is held was acquired and not released, anything else is released as often as acquired. -/
  kept : ∀ h, held h → L.acquires h log = 1 ∧ L.releases h log = 0
  returned : ∀ h, ¬ held h → L.acquires h log = L.releases h log
  /-- A handle is used or released only while it is held. -/
  used : ∀ before e after h, log = before ++ e :: after →
    L.effect e h = some .use ∨ L.effect e h = some .release →
      L.acquires h before = 1 ∧ L.releases h before = 0
  closed : ∀ before e after h, log = before ++ e :: after → L.effect e h = some .close →
    L.acquires h before = L.releases h before

/-! ### The walk -/

/-- The phase of the handle after the log, from the phase `p`; none after a misuse. -/
def walk (h : η) : Hold → List ε → Option Hold
  | p, [] => some p
  | p, e :: log => (p.after (L.effect e h)).bind fun q => walk h q log

variable {L}

theorem walk_append {h : η} : ∀ {l₁ l₂ : List ε} {p : Hold},
    L.walk h p (l₁ ++ l₂) = (L.walk h p l₁).bind fun q => L.walk h q l₂ := by
  intro l₁
  induction l₁ with
  | nil => intro l₂ p; rfl
  | cons e l ih =>
    intro l₂ p
    rw [List.cons_append, walk, walk]
    cases p.after (L.effect e h) with
    | none => rfl
    | some q => exact ih

theorem effect_other {e : ε} {h : η} (hn : L.names e ≠ some h) : L.effect e h = none := if_neg hn

/-- A call that names the handle or none: it does what it does. -/
theorem walk_of_names {e : ε} {h : η} {p q : Hold} {log : List ε}
    (hn : L.names e = some h ∨ L.names e = none)
    (hq : p.after ((L.names e).bind fun _ => L.does e) = some q) :
    L.walk h p (e :: log) = L.walk h q log := by
  have he : L.effect e h = (L.names e).bind fun _ => L.does e := by
    rcases hn with hn | hn <;> simp [effect, hn]
  rw [walk, he, hq]
  rfl

/-- Calls that do not name a handle leave it where it is. -/
theorem walk_other {h : η} {p : Hold} : ∀ {log : List ε},
    (∀ e ∈ log, L.names e ≠ some h) → L.walk h p log = some p := by
  intro log
  induction log with
  | nil => intro _; rfl
  | cons e log ih =>
    intro ht
    rw [walk, effect_other (ht e List.mem_cons_self), Hold.after]
    exact ih fun e' he' => ht e' (List.mem_cons_of_mem _ he')

/-- Calls that only use a held handle leave it held. -/
theorem walk_uses {h : η} : ∀ {log : List ε},
    (∀ e ∈ log, L.effect e h = some .use ∨ L.effect e h = none) →
    L.walk h .held log = some .held := by
  intro log
  induction log with
  | nil => intro _; rfl
  | cons e log ih =>
    intro hu
    have he := hu e List.mem_cons_self
    rw [walk]
    rcases he with he | he <;> rw [he] <;>
      exact ih fun e' he' => hu e' (List.mem_cons_of_mem _ he')

theorem acquires_snoc {h : η} {log : List ε} {e : ε} : L.acquires h (log ++ [e]) =
    L.acquires h log + if L.effect e h = some .acquire then 1 else 0 := by
  simp [acquires, List.countP_append, List.countP_singleton]

theorem releases_snoc {h : η} {log : List ε} {e : ε} : L.releases h (log ++ [e]) =
    L.releases h log + if L.effect e h = some .release then 1 else 0 := by
  simp [releases, List.countP_append, List.countP_singleton]

theorem walk_counts {h : η} : ∀ {log : List ε} {q : Hold}, L.walk h .fresh log = some q →
    q.Counts (L.acquires h log) (L.releases h log) := by
  intro log
  induction log using List.reverseRecOn with
  | nil => intro q hq; obtain rfl := Option.some.inj hq; exact ⟨rfl, rfl⟩
  | append_singleton log e ih =>
    intro q hq
    rw [walk_append, Option.bind_eq_some_iff] at hq
    obtain ⟨p, hp, hq⟩ := hq
    have hc : p.after (L.effect e h) = some q := by simpa [walk] using hq
    rw [acquires_snoc, releases_snoc]
    exact (ih hp).after hc

/-- The walk through a log, handle by handle: none is misused, and exactly those of
`held` are held at its end. -/
def Walked (L : Ledger ε η) (held : η → Prop) (log : List ε) : Prop :=
  ∀ h, ∃ p, L.walk h .fresh log = some p ∧ (p = .held ↔ held h)

/-- Where the walk stands at a call in the middle. -/
theorem Walked.at_call {held : η → Prop} {log before after : List ε} {e : ε} {h : η} {f : Effect}
    (hw : L.Walked held log) (hl : log = before ++ e :: after) (he : L.effect e h = some f) :
    ∃ p q, L.walk h .fresh before = some p ∧ p.after (some f) = some q := by
  obtain ⟨r, hr, _⟩ := hw h
  rw [hl, walk_append, Option.bind_eq_some_iff] at hr
  obtain ⟨p, hp, hr⟩ := hr
  rw [walk, he] at hr
  obtain ⟨q, hq, _⟩ := Option.bind_eq_some_iff.mp hr
  exact ⟨p, q, hp, hq⟩

/-- **A log that can be walked is balanced.** -/
theorem Walked.balanced {held : η → Prop} {log : List ε} (hw : L.Walked held log) :
    L.Balanced held log where
  once := by
    intro h
    obtain ⟨p, hp, _⟩ := hw h
    have hc := walk_counts hp
    cases p <;> simp only [Hold.Counts] at hc <;> omega
  kept := by
    intro h hh
    obtain ⟨p, hp, hheld⟩ := hw h
    obtain rfl := hheld.mpr hh
    exact walk_counts hp
  returned := by
    intro h hh
    obtain ⟨p, hp, hheld⟩ := hw h
    have hc := walk_counts hp
    cases p with
    | held => exact absurd (hheld.mp rfl) hh
    | fresh | released => simp only [Hold.Counts] at hc; omega
  used := by
    intro before e after h hl he
    rcases he with he | he
    all_goals
      obtain ⟨p, q, hp, hq⟩ := hw.at_call hl he
      have hc := walk_counts hp
      cases p with
      | held => exact hc
      | fresh | released => exact absurd hq (by simp [Hold.after])
  closed := by
    intro before e after h hl he
    obtain ⟨p, q, hp, hq⟩ := hw.at_call hl he
    have hc := walk_counts hp
    cases p with
    | held => exact absurd hq (by simp [Hold.after])
    | fresh | released => simp only [Hold.Counts] at hc; omega

theorem walked_nil {held : η → Prop} (hn : ∀ h, ¬ held h) : L.Walked held [] := by
  intro h
  exact ⟨.fresh, rfl, by simp [hn h]⟩

/-- A handle that is held has been named. -/
theorem Walked.named {held : η → Prop} {log : List ε} {h : η} (hw : L.Walked held log)
    (hh : held h) : ∃ e ∈ log, L.names e = some h := by
  by_contra hn
  push Not at hn
  obtain ⟨p, hp, hheld⟩ := hw h
  rw [walk_other hn] at hp
  obtain rfl := Option.some.inj hp
  exact absurd (hheld.mpr hh) (by decide)

/-! ### One operation -/

/-- What an operation finds of a handle: its name is new, or it is held. -/
def Finds (L : Ledger ε η) (held : η → Prop) (log : List ε) (h : η) (p : Hold) : Prop :=
  p = .fresh ∧ (∀ e ∈ log, L.names e ≠ some h) ∨ p = .held ∧ held h

/-- The calls take the handle from the phase `p` to being held or not, as told. -/
def Ends (L : Ledger ε η) (h : η) (p : Hold) (calls : List ε) (held : Prop) : Prop :=
  ∃ q, L.walk h p calls = some q ∧ (q = .held ↔ held)

theorem Walked.walk {held : η → Prop} {log : List ε} {h : η} {p : Hold} (hw : L.Walked held log)
    (hp : L.Finds held log h p) : L.walk h .fresh log = some p := by
  rcases hp with ⟨rfl, hn⟩ | ⟨rfl, hn⟩
  · exact walk_other hn
  · obtain ⟨p, hp, hh⟩ := hw h
    rwa [hh.mpr hn] at hp

/-- **The log grows by the calls of one operation**, which name the handle `c` only. -/
theorem Walked.append {held held' : η → Prop} {log calls : List ε} {c : η} {p : Hold}
    (hw : L.Walked held log) (hp : L.Finds held log c p)
    (honly : ∀ e ∈ calls, ∀ h, L.names e = some h → h = c)
    (hrest : ∀ h, h ≠ c → (held' h ↔ held h)) (hends : L.Ends c p calls (held' c)) :
    L.Walked held' (log ++ calls) := by
  intro h
  obtain ⟨q, hq, hh⟩ := hw h
  rw [walk_append, hq]
  by_cases hc : h = c
  · subst hc
    obtain rfl := Option.some.inj ((hw.walk hp).symm.trans hq)
    exact hends
  · refine ⟨q, walk_other fun e he hn => hc (honly e he h hn), ?_⟩
    rw [hh, hrest h hc]

end Ledger

end Lib
