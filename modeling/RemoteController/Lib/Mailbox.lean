import Mathlib.Data.List.Basic

/-!
# A mailbox of one slot

Writers leave a value in a slot and then advance a generation; one reader loads
the generation, and if it is not the one it has dealt with, loads the slot, uses
the value and records the generation it loaded.  Each of these is one atomic step,
and the value and the generation are two variables, so the reader may find a new
value under an old generation, or the same value twice.

Generations are unbounded: a counter that wraps around behaves the same for as long
as the reader does not sleep through all its values.

* `Mailbox.Synced`: the reader has used the value in the slot, or is behind on the
  generation, counting the writers between their two steps.
* `Synced.store`, `Synced.advance`, `Synced.load`, `Synced.read`, `Synced.use`,
  `Synced.record`: each step keeps it.
* `Synced.used_last`: once the generations agree and no writer is between its two
  steps, the last value used is the last one stored.
-/

namespace Lib

universe u

/-- Where the reader is.  The generation is the one it loaded. -/
inductive Reader (α : Type u) where
  | idle
  | loaded (generation : Nat)
  | read (generation : Nat) (value : α)
  | used (generation : Nat)
  deriving DecidableEq, Repr

/-- `writing` counts the writers between their two steps, and `recorded` is the
generation the reader has dealt with.  `stored` and `uses` are what was stored and
used up to now. -/
structure Mailbox (α : Type u) where
  slot : α
  generation : Nat := 0
  writing : Nat := 0
  recorded : Nat := 0
  reader : Reader α := .idle
  stored : List α := []
  uses : List α := []
  deriving DecidableEq, Repr

namespace Mailbox

variable {α : Type u}

/-! ### The steps -/

def store (m : Mailbox α) (v : α) : Mailbox α :=
  { m with slot := v, writing := m.writing + 1, stored := m.stored ++ [v] }

def advance (m : Mailbox α) : Option (Mailbox α) :=
  if m.writing = 0 then none
  else some { m with generation := m.generation + 1, writing := m.writing - 1 }

def load (m : Mailbox α) : Option (Mailbox α) :=
  match m.reader with
  | .idle => some (if m.generation ≠ m.recorded then { m with reader := .loaded m.generation } else m)
  | _ => none

def read (m : Mailbox α) : Option (Mailbox α) :=
  match m.reader with
  | .loaded g => some { m with reader := .read g m.slot }
  | _ => none

/-- The value is used: it is returned, with the generation the reader has loaded. -/
def use (m : Mailbox α) : Option (Nat × α × Mailbox α) :=
  match m.reader with
  | .read g v => some (g, v, { m with reader := .used g, uses := m.uses ++ [v] })
  | _ => none

def record (m : Mailbox α) : Option (Mailbox α) :=
  match m.reader with
  | .used g => some { m with reader := .idle, recorded := g }
  | _ => none

/-! ### The invariant -/

/-- The reader, should it record the generation `g`, still has to come back. -/
def Behind (m : Mailbox α) (g : Nat) : Prop := g < m.generation + m.writing

/-- What is known of the reader in each of its phases. -/
def Phase (m : Mailbox α) : Reader α → Prop
  | .idle => m.uses.getLast? = m.stored.getLast? ∨ m.Behind m.recorded
  | .loaded g => m.recorded < g ∧ g ≤ m.generation
  | .read g v => m.recorded < g ∧ g ≤ m.generation ∧ (m.stored.getLast? = some v ∨ m.Behind g)
  | .used g => m.recorded < g ∧ g ≤ m.generation ∧
      (m.uses.getLast? = m.stored.getLast? ∨ m.Behind g)

structure Synced (m : Mailbox α) : Prop where
  /-- The slot holds the last value stored, and there is one per generation. -/
  slot : ∀ v ∈ m.stored.getLast?, m.slot = v
  count : m.stored.length = m.generation + m.writing
  recorded : m.recorded ≤ m.generation
  phase : m.Phase m.reader
  /-- Only stored values are used. -/
  genuine : (∀ v ∈ m.uses, v ∈ m.stored) ∧ ∀ g v, m.reader = .read g v → v ∈ m.stored

theorem synced_new (v : α) : Synced ({ slot := v } : Mailbox α) where
  slot := nofun
  count := rfl
  recorded := Nat.le_refl 0
  phase := Or.inl rfl
  genuine := ⟨nofun, nofun⟩

variable {m n : Mailbox α}

theorem Synced.store (h : Synced m) (v : α) : Synced (m.store v) := by
  have hrec := h.recorded
  have hp := h.phase
  refine ⟨?_, ?_, hrec, ?_, ?_, ?_⟩
  · intro w hw
    obtain rfl : v = w := by simpa [Mailbox.store] using hw
    rfl
  · have hc := h.count
    simp only [Mailbox.store, List.length_append, List.length_singleton]
    omega
  · -- whatever the reader has loaded, the new value is under a later generation
    show (m.store v).Phase m.reader
    cases hr : m.reader with
    | idle =>
      right
      show m.recorded < m.generation + (m.writing + 1)
      omega
    | loaded g => rw [hr] at hp; exact hp
    | read g w =>
      rw [hr] at hp
      refine ⟨hp.1, hp.2.1, Or.inr ?_⟩
      have hg : g ≤ m.generation := hp.2.1
      show g < m.generation + (m.writing + 1)
      omega
    | used g =>
      rw [hr] at hp
      refine ⟨hp.1, hp.2.1, Or.inr ?_⟩
      have hg : g ≤ m.generation := hp.2.1
      show g < m.generation + (m.writing + 1)
      omega
  · intro w hw
    exact List.mem_append_left _ (h.genuine.1 w hw)
  · intro g w hw
    exact List.mem_append_left _ (h.genuine.2 g w hw)

theorem Synced.advance (h : Synced m) (ha : m.advance = some n) : Synced n := by
  rw [Mailbox.advance] at ha
  split at ha
  · cases ha
  · rename_i hw
    obtain rfl := Option.some.inj ha
    have hrec := h.recorded
    have hp := h.phase
    -- the writer's step moves one from `writing` to `generation`
    have hsum : ∀ g, m.Behind g → g < m.generation + 1 + (m.writing - 1) := by
      intro g hg
      have : g < m.generation + m.writing := hg
      omega
    refine ⟨h.slot, ?_, by show m.recorded ≤ m.generation + 1; omega, ?_, h.genuine⟩
    · have hc := h.count
      show m.stored.length = m.generation + 1 + (m.writing - 1)
      omega
    · show Phase { m with generation := m.generation + 1, writing := m.writing - 1 } m.reader
      cases hr : m.reader with
      | idle => rw [hr] at hp; exact hp.imp id (hsum _)
      | loaded g => rw [hr] at hp; exact ⟨hp.1, Nat.le_succ_of_le hp.2⟩
      | read g v =>
        rw [hr] at hp
        exact ⟨hp.1, Nat.le_succ_of_le hp.2.1, hp.2.2.imp id (hsum g)⟩
      | used g =>
        rw [hr] at hp
        exact ⟨hp.1, Nat.le_succ_of_le hp.2.1, hp.2.2.imp id (hsum g)⟩

theorem Synced.load (h : Synced m) (hl : m.load = some n) : Synced n := by
  cases hr : m.reader with
  | idle =>
    simp only [Mailbox.load, hr, Option.some.injEq] at hl
    subst hl
    by_cases hg : m.generation = m.recorded
    · rw [if_neg (not_not.mpr hg)]
      exact h
    · rw [if_pos hg]
      exact { h with
        phase := ⟨Nat.lt_of_le_of_ne h.recorded (Ne.symm hg), Nat.le_refl _⟩
        genuine := ⟨h.genuine.1, nofun⟩ }
  | loaded | read | used => simp only [Mailbox.load, hr, reduceCtorEq] at hl

theorem Synced.read (h : Synced m) (hl : m.read = some n) : Synced n := by
  cases hr : m.reader with
  | loaded g =>
    simp only [Mailbox.read, hr, Option.some.injEq] at hl
    subst hl
    have hp := h.phase
    rw [hr] at hp
    -- a generation was loaded, so something is stored
    have hg : m.recorded < g ∧ g ≤ m.generation := hp
    obtain ⟨v, hv⟩ : ∃ v, m.stored.getLast? = some v := by
      apply Option.ne_none_iff_exists'.mp
      rw [ne_eq, List.getLast?_eq_none_iff]
      intro he
      have hc := h.count
      rw [he, List.length_nil] at hc
      omega
    have hslot : m.slot = v := h.slot v hv
    refine ⟨h.slot, h.count, h.recorded, ⟨hg.1, hg.2, Or.inl ?_⟩, h.genuine.1, ?_⟩
    · rw [hslot]; exact hv
    · intro g' w hw
      obtain ⟨_, rfl⟩ := Reader.read.inj hw
      rw [hslot]
      exact List.mem_of_getLast? hv
  | idle | read | used => simp only [Mailbox.read, hr, reduceCtorEq] at hl

theorem Synced.use {g : Nat} {v : α} (h : Synced m) (hu : m.use = some (g, v, n)) : Synced n := by
  cases hr : m.reader with
  | read g w =>
    simp only [Mailbox.use, hr, Option.some.injEq, Prod.mk.injEq] at hu
    obtain ⟨rfl, rfl, rfl⟩ := hu
    have hp := h.phase
    rw [hr] at hp
    refine ⟨h.slot, h.count, h.recorded, ⟨hp.1, hp.2.1, hp.2.2.imp (fun he => ?_) id⟩, ?_, nofun⟩
    · show (m.uses ++ [w]).getLast? = m.stored.getLast?
      rw [List.getLast?_concat, he]
    · intro x hx
      rcases List.mem_append.mp hx with hx | hx
      · exact h.genuine.1 x hx
      · obtain rfl := List.mem_singleton.mp hx
        exact h.genuine.2 g x hr
  | idle | loaded | used => simp only [Mailbox.use, hr, reduceCtorEq] at hu

theorem Synced.record (h : Synced m) (hl : m.record = some n) : Synced n := by
  cases hr : m.reader with
  | used g =>
    simp only [Mailbox.record, hr, Option.some.injEq] at hl
    subst hl
    have hp := h.phase
    rw [hr] at hp
    exact ⟨h.slot, h.count, hp.2.1, hp.2.2, h.genuine.1, nofun⟩
  | idle | loaded | read => simp only [Mailbox.record, hr, reduceCtorEq] at hl

/-- **The last value used is the last one stored**, once the reader has recorded the
current generation and no writer is between its two steps. -/
theorem Synced.used_last (h : Synced m) (hw : m.writing = 0) (hg : m.recorded = m.generation) :
    m.uses.getLast? = m.stored.getLast? := by
  have hp := h.phase
  cases hr : m.reader with
  | idle =>
    rw [hr] at hp
    refine hp.resolve_right ?_
    intro hb
    have : m.recorded < m.generation + m.writing := hb
    omega
  | loaded g =>
    rw [hr] at hp
    have : m.recorded < g ∧ g ≤ m.generation := hp
    omega
  | read g v =>
    rw [hr] at hp
    have : m.recorded < g := hp.1
    have : g ≤ m.generation := hp.2.1
    omega
  | used g =>
    rw [hr] at hp
    have : m.recorded < g := hp.1
    have : g ≤ m.generation := hp.2.1
    omega

end Mailbox

end Lib
