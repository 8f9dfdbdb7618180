import Mathlib.Order.WellFounded
import Mathlib.Data.Fintype.Card
import RemoteController.Lib.Locks

/-!
# Who waits, waits for somebody who can go on

`Lib/Locks.lean` shows that threads whose programs pass the test of an order never wait for
each other in a cycle.  With finitely many threads every chain of waits then ends, and this
file shows that the thread at its end has a step.  A thread in a condition wait always has
one: it may wake up at any time, by itself if nobody notifies it.

* `Prog.map`: a program in the names of a larger system.
* `Prog.nests`: the test that each condition wait stands in the scope of its own mutex.
* `Owned`: a thread owns the mutexes whose scopes it is in.
* `goesOn`: a thread that waits for nobody has a step.
* `progress`: a thread that waits does so, over others, for one that has.
-/

namespace Lib

namespace Prog

/-- The program with other names for its mutexes and threads. -/
def map {μ τ ν ρ : Type} (f : μ → ν) (g : τ → ρ) : Prog μ τ → Prog ν ρ
  | .skip => .skip
  | .seq p q => .seq (p.map f g) (q.map f g)
  | .choice p q => .choice (p.map f g) (q.map f g)
  | .loop p => .loop (p.map f g)
  | .guarded m p => .guarded (f m) (p.map f g)
  | .wait m => .wait (f m)
  | .join t => .join (g t)
  | .spawn t => .spawn (g t)

variable {μ τ : Type} [DecidableEq μ]

/-- Each wait stands in the scope of its mutex, and in no scope inside that; `scope` is the
innermost one around the program. -/
def nests : Option μ → Prog μ τ → Bool
  | _, .skip | _, .join _ | _, .spawn _ => true
  | scope, .seq p q | scope, .choice p q => nests scope p && nests scope q
  | scope, .loop p => nests scope p
  | _, .guarded m p => nests (some m) p
  | scope, .wait m => scope == some m

end Prog

namespace Locks

variable {μ τ : Type}

/-! ### The scopes a thread is in -/

/-- The ranks fall outwards, so no mutex is taken twice. -/
theorem Body.nodup {o : Order μ τ} {base : Nat} {frames : List (Frame μ τ)}
    (h : Body o base frames) : (held frames).Nodup := by
  induction h with
  | nil => exact List.nodup_nil
  | run _ _ ih => exact ih
  | @unlock m frames hbody hlt ih =>
    refine List.nodup_cons.mpr ⟨fun hm => ?_, ih⟩
    exact Nat.lt_irrefl _ (Nat.lt_of_lt_of_le hlt (hbody.ranks.2.1 m hm))

variable [DecidableEq μ]

/-- The programs left stand where their waits do. -/
inductive Tidy : List (Frame μ τ) → Prop
  | nil : Tidy []
  | run {p : Prog μ τ} {frames : List (Frame μ τ)} : Tidy frames →
      p.nests (held frames).head? = true → Tidy (.run p :: frames)
  | unlock {m : μ} {frames : List (Frame μ τ)} : Tidy frames → Tidy (.unlock m :: frames)
  | asleep {m : μ} {frames : List (Frame μ τ)} : Tidy frames → Tidy (.asleep m :: frames)
  | relock {m : μ} {frames : List (Frame μ τ)} : Tidy frames → Tidy (.relock m :: frames)

/-- **A thread owns what its scopes say.** -/
structure Owned (s : State μ τ) : Prop where
  tidy : ∀ t frames, s.stack t = some frames → Tidy frames
  owner : ∀ t frames, s.stack t = some frames → ∀ m ∈ holds frames, s.owner m = some t

variable [DecidableEq τ] {s : State μ τ} {t : τ} {frames : List (Frame μ τ)}

/-- The thread `t` moves on, to `frames'`. -/
theorem Owned.set (h : Owned s) {frames' : List (Frame μ τ)} (htidy : Tidy frames')
    {owner : μ → Option τ} (hmine : ∀ m ∈ holds frames', owner m = some t)
    (hothers : ∀ m u, u ≠ t → s.owner m = some u → owner m = some u) :
    Owned { owner := owner, stack := Function.update s.stack t (some frames') } := by
  have hstack : ∀ u fs, Function.update s.stack t (some frames') u = some fs →
      u = t ∧ fs = frames' ∨ u ≠ t ∧ s.stack u = some fs := by
    intro u fs hu
    by_cases hut : u = t
    · subst hut
      exact .inl ⟨rfl, by simpa using hu.symm⟩
    · exact .inr ⟨hut, (Function.update_of_ne hut _ _).symm.trans hu⟩
  constructor
  · intro u fs hu
    rcases hstack u fs hu with ⟨rfl, rfl⟩ | ⟨_, hu'⟩
    · exact htidy
    · exact h.tidy u fs hu'
  · intro u fs hu m hm
    rcases hstack u fs hu with ⟨rfl, rfl⟩ | ⟨hut, hu'⟩
    · exact hmine m hm
    · exact hothers m u hut (h.owner u fs hu' m hm)

/-- A step that touches no mutex. -/
theorem Owned.move (h : Owned s) {frames' : List (Frame μ τ)} (hs : s.stack t = some frames)
    (htidy : Tidy frames') (hholds : ∀ m ∈ holds frames', m ∈ holds frames) :
    Owned (s.set t frames') :=
  h.set htidy (fun m hm => h.owner t frames hs m (hholds m hm)) fun _ _ _ => id

/-- A step that takes a mutex. -/
theorem Owned.acquire (h : Owned s) {m : μ} {frames' : List (Frame μ τ)}
    (hs : s.stack t = some frames) (hfree : s.owner m = none) (htidy : Tidy frames')
    (hholds : ∀ m' ∈ holds frames', m' = m ∨ m' ∈ holds frames) :
    Owned ((s.set t frames').own m (some t)) := by
  refine h.set htidy (fun m' hm' => ?_) fun m' u _ hu => ?_
  · by_cases he : m' = m
    · subst he
      exact Function.update_self _ _ _
    · exact (Function.update_of_ne he _ _).trans
        (h.owner t frames hs m' ((hholds m' hm').resolve_left he))
  · have he : m' ≠ m := fun he => by rw [he, hfree] at hu; cases hu
    exact (Function.update_of_ne he _ _).trans hu

/-- A step that releases a mutex. -/
theorem Owned.release (h : Owned s) {m : μ} {frames' : List (Frame μ τ)}
    (hs : s.stack t = some frames) (hown : s.owner m = some t) (htidy : Tidy frames')
    (hholds : ∀ m' ∈ holds frames', m' ≠ m ∧ m' ∈ holds frames) :
    Owned ((s.set t frames').own m none) := by
  refine h.set htidy (fun m' hm' => ?_) fun m' u hut hu => ?_
  · obtain ⟨hne, hmem⟩ := hholds m' hm'
    exact (Function.update_of_ne hne _ _).trans (h.owner t frames hs m' hmem)
  · have he : m' ≠ m := by
      rintro rfl
      exact hut (Option.some.inj (hu.symm.trans hown))
    exact (Function.update_of_ne he _ _).trans hu

/-- A thread is created. -/
theorem Owned.create (h : Owned s) {main : τ → Prog μ τ}
    (hmain : ∀ t, (main t).nests none = true) (u : τ) : Owned (s.create main u) := by
  cases hu : s.stack u with
  | some fs =>
    have he : s.create main u = s := by rw [State.create, hu]
    rw [he]
    exact h
  | none =>
    have he : s.create main u = s.set u [.run (main u)] := by rw [State.create, hu]
    rw [he]
    refine h.set (.run .nil (hmain u)) (fun m hm => ?_) fun _ _ _ => id
    cases hm

variable {o : Order μ τ} {main : τ → Prog μ τ} {first : τ}

/-- A thread that is in a program. -/
theorem Owned.prog (hmain : ∀ t, (main t).nests none = true) (h : Owned s) {s' : State μ τ}
    {left : Bool} {p : Prog μ τ} (hs : s.stack t = some (.run p :: frames))
    (hbody : Body o (o.ending t) frames) (hn : step main s (t, left) = some s') : Owned s' := by
  obtain ⟨hrest, hp⟩ : Tidy frames ∧ p.nests (held frames).head? = true := by
    cases h.tidy t _ hs with
    | run hrest hp => exact ⟨hrest, hp⟩
  have hkeep : ∀ m ∈ holds frames, m ∈ holds (.run p :: frames) := by
    rw [hbody.holds_eq]
    exact fun _ => id
  cases p with
  | skip =>
    simp only [step, hs, Option.some.injEq] at hn
    subst hn
    exact h.move hs hrest hkeep
  | seq p q =>
    simp only [step, hs, Option.some.injEq] at hn
    subst hn
    simp only [Prog.nests, Bool.and_eq_true] at hp
    exact h.move hs (.run (.run hrest hp.2) hp.1) fun _ => id
  | choice p q =>
    simp only [step, hs, Option.some.injEq] at hn
    subst hn
    simp only [Prog.nests, Bool.and_eq_true] at hp
    refine h.move hs (.run hrest ?_) fun _ => id
    cases left
    · exact hp.2
    · exact hp.1
  | loop p =>
    simp only [step, hs, Option.some.injEq] at hn
    subst hn
    cases left
    · rw [if_neg Bool.false_ne_true]
      exact h.move hs hrest hkeep
    · rw [if_pos rfl]
      exact h.move hs (.run (.run hrest hp) hp) fun _ => id
  | guarded m p =>
    simp only [step, hs, Option.ite_none_right_eq_some, Option.some.injEq] at hn
    obtain ⟨hfree, rfl⟩ := hn
    exact h.acquire hs hfree (.run (.unlock hrest) hp) fun m' hm' => List.mem_cons.mp hm'
  | wait m =>
    simp only [step, hs, Option.ite_none_right_eq_some, Option.some.injEq] at hn
    obtain ⟨hown, rfl⟩ := hn
    simp only [Prog.nests, beq_iff_eq] at hp
    refine h.release hs hown (.asleep hrest) fun m' hm' => ?_
    replace hm' : m' ∈ (held frames).tail := hm'
    refine ⟨?_, List.mem_of_mem_tail hm'⟩
    rintro rfl
    obtain ⟨rest, hrest⟩ := List.head?_eq_some_iff.mp hp
    have hnodup := hbody.nodup
    rw [hrest] at hnodup hm'
    exact (List.nodup_cons.mp hnodup).1 hm'
  | join u =>
    simp only [step, hs, Option.ite_none_left_eq_some, Option.some.injEq] at hn
    obtain ⟨_, rfl⟩ := hn
    exact h.move hs hrest hkeep
  | spawn u =>
    simp only [step, hs, Option.some.injEq] at hn
    subst hn
    exact (h.move hs hrest hkeep).create hmain u

/-- A thread that leaves a scope. -/
theorem Owned.unlock (h : Owned s) {m : μ} (hs : s.stack t = some (.unlock m :: frames))
    (hb : Body o (o.ending t) (.unlock m :: frames)) : Owned ((s.set t frames).own m none) := by
  have hnodup := hb.nodup
  have hown := h.owner t _ hs m List.mem_cons_self
  cases hb with
  | unlock hbody _ =>
    cases h.tidy t _ hs with
    | unlock hrest =>
      refine h.release hs hown hrest fun m' hm' => ?_
      rw [hbody.holds_eq] at hm'
      refine ⟨?_, List.mem_cons_of_mem m hm'⟩
      rintro rfl
      exact (List.nodup_cons.mp hnodup).1 hm'

theorem owned_step (hmain : ∀ t, (main t).nests none = true) {s' : State μ τ} {a : τ × Bool}
    (hinv : Inv o s) (h : Owned s) (hn : step main s a = some s') : Owned s' := by
  obtain ⟨t, left⟩ := a
  cases hs : s.stack t with
  | none => simp only [step, hs, reduceCtorEq] at hn
  | some all =>
    cases all with
    | nil => simp only [step, hs, reduceCtorEq] at hn
    | cons frame frames =>
      have hgood := hinv.good t _ hs
      cases frame with
      | run p =>
        cases hgood with
        | body hb => cases hb with | run hbody _ => exact h.prog hmain hs hbody hn
      | unlock m =>
        simp only [step, hs, Option.some.injEq] at hn
        subst hn
        cases hgood with
        | body hb => exact h.unlock hs hb
      | asleep m =>
        simp only [step, hs, Option.some.injEq] at hn
        subst hn
        cases h.tidy t _ hs with
        | asleep hrest => exact h.move hs (.relock hrest) fun _ => id
      | relock m =>
        simp only [step, hs, Option.ite_none_right_eq_some, Option.some.injEq] at hn
        obtain ⟨hfree, rfl⟩ := hn
        cases hgood with
        | body hb => cases hb
        | relock hbody hm =>
          cases h.tidy t _ hs with
          | relock hrest =>
            refine h.acquire hs hfree hrest fun m' hm' => ?_
            rw [hbody.holds_eq] at hm'
            by_cases he : m' = m
            · exact .inl he
            · exact .inr (mem_tail_of_head hm hm' he)

theorem owned_run (hordered : ∀ t, o.ordered (o.ending t) (main t) = true)
    (hmain : ∀ t, (main t).nests none = true) {l : List (τ × Bool)}
    (h : (system main first).Run l s) : Owned s := by
  induction h with
  | refl =>
    have hstack : ∀ t fs, (system main first).init.stack t = some fs → fs = [.run (main t)] := by
      intro t fs ht
      by_cases he : t = first
      · subst he
        simpa [system] using ht.symm
      · simp [system, Function.update_of_ne he] at ht
    constructor
    · intro t fs ht
      rw [hstack t fs ht]
      exact .run .nil (hmain t)
    · intro t fs ht m hm
      rw [hstack t fs ht] at hm
      cases hm
  | snoc hr hn ih => exact owned_step hmain (inv_run hordered hr) ih hn

/-! ### Progress -/

/-- The thread can take its next operation; one in a condition wait may wake up at any time. -/
def GoesOn (main : τ → Prog μ τ) (s : State μ τ) (t : τ) : Prop :=
  ∀ left, ∃ s', step main s (t, left) = some s'

/-- **A thread that has something to do and waits for nobody can do it.** -/
theorem goesOn (h : Owned s) {frame : Frame μ τ} (hs : s.stack t = some (frame :: frames))
    (hfree : ∀ u, ¬ Waits s t u) : GoesOn main s t := by
  intro left
  cases frame with
  | run p =>
    cases p with
    | skip | seq p q | choice p q | loop p | spawn u => simp [step, hs]
    | guarded m p =>
      have hm : s.owner m = none :=
        Option.eq_none_iff_forall_ne_some.mpr fun u hu => hfree u (.lock hs hu)
      simp [step, hs, hm]
    | wait m =>
      have htidy := h.tidy t _ hs
      have hm : s.owner m = some t := by
        cases htidy with
        | run _ hp =>
          simp only [Prog.nests, beq_iff_eq] at hp
          exact h.owner t _ hs m (List.mem_of_mem_head? hp)
      simp [step, hs, hm]
    | join u =>
      have hu : ¬ s.running u = true := fun hu => hfree u (.join hs hu)
      simp [step, hs, hu]
  | unlock m | asleep m => simp [step, hs]
  | relock m =>
    have hm : s.owner m = none :=
      Option.eq_none_iff_forall_ne_some.mpr fun u hu => hfree u (.relock hs hu)
    simp [step, hs, hm]

omit [DecidableEq μ] [DecidableEq τ] in
/-- Whom others wait for, has something left to do. -/
theorem exists_frame_of_waits (h : Inv o s) {u : τ} (hw : Waits s t u) :
    ∃ frame frames, s.stack u = some (frame :: frames) := by
  have howner : ∀ m, s.owner m = some u → ∃ frame frames, s.stack u = some (frame :: frames) := by
    intro m hm
    obtain ⟨fs, hfs, hmem⟩ := h.owner m u hm
    cases fs with
    | nil => cases hmem
    | cons frame frames => exact ⟨frame, frames, hfs⟩
  cases hw with
  | lock _ hm | relock _ hm => exact howner _ hm
  | join _ hu =>
    unfold State.running at hu
    split at hu
    · rename_i frame frames hfs
      exact ⟨frame, frames, hfs⟩
    · cases hu

/-- **Progress.**  Programs that pass both tests: a thread that waits does so, over others,
for one that can go on. -/
theorem progress [Finite τ] (hordered : ∀ t, o.ordered (o.ending t) (main t) = true)
    (hmain : ∀ t, (main t).nests none = true) {l : List (τ × Bool)}
    (h : (system main first).Run l s) {u : τ} (hw : Waits s t u) :
    ∃ v, Relation.TransGen (Waits s) t v ∧ GoesOn main s v := by
  have hinv := inv_run hordered h
  have htrans : IsTrans τ (flip (Relation.TransGen (Waits s))) := ⟨fun _ _ _ h1 h2 => h2.trans h1⟩
  have hirrefl : Std.Irrefl (flip (Relation.TransGen (Waits s))) := ⟨no_cycle hordered h⟩
  have hwf := Finite.wellFounded_of_trans_of_irrefl (flip (Relation.TransGen (Waits s)))
  -- the end of a chain of waits
  obtain ⟨v, hv, hlast⟩ := hwf.has_min {v | Relation.TransGen (Waits s) t v} ⟨u, .single hw⟩
  obtain ⟨x, _, hx⟩ := Relation.TransGen.tail'_iff.mp hv
  obtain ⟨frame, frames, hs⟩ := exists_frame_of_waits hinv hx
  refine ⟨v, hv, goesOn (owned_run hordered hmain h) hs fun y hy => ?_⟩
  exact hlast y (hv.tail hy) (.single hy)

end Locks

end Lib
