import Mathlib.Logic.Relation
import Mathlib.Logic.Function.Basic
import RemoteController.Lib.Transition

/-!
# Locks, joins and who waits for whom

Threads that take mutexes, create threads and wait for their end, as programs of
which only these operations are left: what a thread computes decides which way it
goes, and here it may go either way (`choice`, `loop`).  Two threads may
join one thread here, and both wait for its end; a language may leave that undefined.

* `Prog`: the programs.  `guarded` is a scope with a lock guard, `wait` a wait on a
  condition variable inside the scope of its mutex.
* `State`, `step`, `system`: any number of threads, one operation at a time.
* `Waits s t u`: in the state `s`, the thread `t` can go on only when `u` has released
  a mutex or has ended.
* `Order`, `Order.ordered`: a rank for each mutex and for the end of each thread, and
  the test that a program waits only for ranks above all that it holds itself.
* `no_cycle`: programs that pass the test never wait for each other in a cycle.
-/

namespace Lib

/-- `μ` are the mutexes and `τ` the threads. -/
inductive Prog (μ τ : Type) where
  | skip
  | seq (p q : Prog μ τ)
  | choice (p q : Prog μ τ)
  | loop (p : Prog μ τ)
  | guarded (m : μ) (p : Prog μ τ)
  | wait (m : μ)
  | join (t : τ)
  | spawn (t : τ)
  deriving DecidableEq, Repr

namespace Prog

variable {μ τ : Type}

/-- One after the other. -/
def block (l : List (Prog μ τ)) : Prog μ τ := l.foldr seq skip

/-- The program runs, or it does not. -/
def maybe (p : Prog μ τ) : Prog μ τ := choice p skip

/-- A section that touches data only. -/
def locked (m : μ) : Prog μ τ := guarded m skip

end Prog

namespace Locks

variable {μ τ : Type}

/-- What a thread has left to do, innermost first.  A thread in a condition wait is
`asleep` until it is notified, and then has to `relock`. -/
inductive Frame (μ τ : Type) where
  | run (p : Prog μ τ)
  | unlock (m : μ)
  | asleep (m : μ)
  | relock (m : μ)
  deriving DecidableEq, Repr

/-- A thread without a stack has not been created; one with an empty stack has
ended. -/
structure State (μ τ : Type) where
  owner : μ → Option τ
  stack : τ → Option (List (Frame μ τ))

namespace State

variable [DecidableEq μ] [DecidableEq τ]

def set (s : State μ τ) (t : τ) (frames : List (Frame μ τ)) : State μ τ :=
  { s with stack := Function.update s.stack t (some frames) }

def own (s : State μ τ) (m : μ) (owner : Option τ) : State μ τ :=
  { s with owner := Function.update s.owner m owner }

def running (s : State μ τ) (t : τ) : Bool :=
  match s.stack t with
  | some (_ :: _) => true
  | _ => false

/-- A thread is created once. -/
def create (s : State μ τ) (main : τ → Prog μ τ) (t : τ) : State μ τ :=
  match s.stack t with
  | none => s.set t [.run (main t)]
  | some _ => s

end State

section Step

variable [DecidableEq μ] [DecidableEq τ] (main : τ → Prog μ τ)

/-- The next operation of the thread `t`.  `left` is the way it goes where it has one
to choose; a thread that waits has no step. -/
def step (s : State μ τ) : τ × Bool → Option (State μ τ)
  | (t, left) =>
    match s.stack t with
    | none => none
    | some [] => none
    | some (frame :: frames) =>
      match frame with
      | .run .skip => some (s.set t frames)
      | .run (.seq p q) => some (s.set t (.run p :: .run q :: frames))
      | .run (.choice p q) => some (s.set t (.run (if left then p else q) :: frames))
      | .run (.loop p) =>
        some (s.set t (if left then .run p :: .run (.loop p) :: frames else frames))
      | .run (.guarded m p) =>
        if s.owner m = none then some ((s.set t (.run p :: .unlock m :: frames)).own m (some t))
        else none
      | .run (.wait m) =>
        if s.owner m = some t then some ((s.set t (.asleep m :: frames)).own m none) else none
      | .run (.join u) => if s.running u then none else some (s.set t frames)
      | .run (.spawn u) => some ((s.set t frames).create main u)
      | .unlock m => some ((s.set t frames).own m none)
      | .asleep m => some (s.set t (.relock m :: frames))
      | .relock m =>
        if s.owner m = none then some ((s.set t frames).own m (some t)) else none

/-- The threads `main`, of which `first` exists from the start. -/
def system (first : τ) : System (State μ τ) (τ × Bool) where
  init :=
    { owner := fun _ => none
      stack := Function.update (fun _ => none) first (some [.run (main first)]) }
  next := step main

end Step

/-- **Who waits for whom**: for a mutex the other holds, also to have it back after a
condition wait, or for the other's end. -/
inductive Waits (s : State μ τ) (t u : τ) : Prop
  | lock {m : μ} {p : Prog μ τ} {frames : List (Frame μ τ)} :
      s.stack t = some (.run (.guarded m p) :: frames) → s.owner m = some u → Waits s t u
  | relock {m : μ} {frames : List (Frame μ τ)} :
      s.stack t = some (.relock m :: frames) → s.owner m = some u → Waits s t u
  | join {frames : List (Frame μ τ)} :
      s.stack t = some (.run (.join u) :: frames) → s.running u = true → Waits s t u

/-! ### The order -/

/-- A rank for each mutex and for the end of each thread. -/
structure Order (μ τ : Type) where
  mutex : μ → Nat
  ending : τ → Nat

/-- The program, run by a thread that owes others nothing above `level`, waits only
for what is above all it owes. -/
def Order.ordered (o : Order μ τ) : Nat → Prog μ τ → Bool
  | _, .skip => true
  | level, .seq p q => o.ordered level p && o.ordered level q
  | level, .choice p q => o.ordered level p && o.ordered level q
  | level, .loop p => o.ordered level p
  | level, .guarded m p => decide (level < o.mutex m) && o.ordered (o.mutex m) p
  | level, .wait m => level == o.mutex m
  | level, .join t => decide (level < o.ending t)
  | _, .spawn _ => true

/-- The mutexes whose scope the thread is in, innermost first. -/
def held : List (Frame μ τ) → List μ
  | [] => []
  | .unlock m :: frames => m :: held frames
  | .run _ :: frames | .asleep _ :: frames | .relock _ :: frames => held frames

/-- The mutexes the thread owns: all of these, but for the one it waits on. -/
def holds : List (Frame μ τ) → List μ
  | .asleep _ :: frames | .relock _ :: frames => (held frames).tail
  | frames => held frames

/-- The rank of the innermost of them. -/
def Order.level (o : Order μ τ) (base : Nat) (frames : List (Frame μ τ)) : Nat :=
  match held frames with
  | [] => base
  | m :: _ => o.mutex m

/-- The frames of a thread that is not in a condition wait: the ranks of its scopes
rise, and each program left passes the test where it stands. -/
inductive Body (o : Order μ τ) (base : Nat) : List (Frame μ τ) → Prop
  | nil : Body o base []
  | run {p : Prog μ τ} {frames : List (Frame μ τ)} : Body o base frames →
      o.ordered (o.level base frames) p = true → Body o base (.run p :: frames)
  | unlock {m : μ} {frames : List (Frame μ τ)} : Body o base frames →
      o.level base frames < o.mutex m → Body o base (.unlock m :: frames)

/-- The frames of any thread. -/
inductive Good (o : Order μ τ) (base : Nat) : List (Frame μ τ) → Prop
  | body {frames : List (Frame μ τ)} : Body o base frames → Good o base frames
  | asleep {m : μ} {frames : List (Frame μ τ)} : Body o base frames →
      (held frames).head? = some m → Good o base (.asleep m :: frames)
  | relock {m : μ} {frames : List (Frame μ τ)} : Body o base frames →
      (held frames).head? = some m → Good o base (.relock m :: frames)

variable {o : Order μ τ} {base : Nat} {frames : List (Frame μ τ)}

theorem Body.holds_eq (h : Body o base frames) : holds frames = held frames := by
  cases h <;> rfl

/-- The ranks fall from the innermost scope outwards, and the base is below all. -/
theorem Body.ranks (h : Body o base frames) :
    base ≤ o.level base frames ∧ (∀ m ∈ held frames, o.mutex m ≤ o.level base frames) ∧
      ∀ m, (held frames).head? = some m → o.level base frames = o.mutex m ∧ base < o.mutex m ∧
        ∀ m' ∈ (held frames).tail, o.mutex m' < o.mutex m := by
  induction h with
  | nil =>
    exact ⟨Nat.le_refl _, fun m hm => (by cases hm), fun m hm => by cases hm⟩
  | run _ _ ih => exact ih
  | @unlock m fs _ hlt ih =>
    obtain ⟨hbase, hle, _⟩ := ih
    refine ⟨?_, fun m' hm' => ?_, fun m' hm' => ?_⟩
    · exact Nat.le_of_lt (Nat.lt_of_le_of_lt hbase hlt)
    · rcases List.mem_cons.mp hm' with rfl | hm'
      · exact Nat.le_refl _
      · exact Nat.le_of_lt (Nat.lt_of_le_of_lt (hle m' hm') hlt)
    · obtain rfl : m = m' := Option.some.inj hm'
      exact ⟨rfl, Nat.lt_of_le_of_lt hbase hlt, fun m' hm' => Nat.lt_of_le_of_lt (hle m' hm') hlt⟩

/-- A scope of the highest rank is the innermost. -/
theorem Body.head_of_level (h : Body o base frames) {m : μ} (hm : m ∈ held frames)
    (hrank : o.level base frames = o.mutex m) : (held frames).head? = some m := by
  cases hh : held frames with
  | nil => rw [hh] at hm; cases hm
  | cons m' rest =>
    obtain ⟨hlevel, _, htail⟩ := h.ranks.2.2 m' (by rw [hh]; rfl)
    rw [hh] at hm
    rcases List.mem_cons.mp hm with rfl | hm
    · rfl
    · have := htail m (by rw [hh]; exact hm)
      omega

theorem mem_tail_of_head {l : List μ} {m m' : μ} (hhead : l.head? = some m) (hm : m' ∈ l)
    (hne : m' ≠ m) : m' ∈ l.tail := by
  cases l with
  | nil => cases hhead
  | cons first rest =>
    obtain rfl : first = m := Option.some.inj hhead
    exact (List.mem_cons.mp hm).resolve_left hne

/-! ### What a thread waits for -/

variable {s : State μ τ} {t u : τ}

/-- The rank of what the thread waits for, where it stands before a mutex or a
join. -/
def Order.awaits (o : Order μ τ) : List (Frame μ τ) → Option Nat
  | .run (.guarded m _) :: _ => some (o.mutex m)
  | .relock m :: _ => some (o.mutex m)
  | .run (.join t) :: _ => some (o.ending t)
  | _ => none

/-- **A thread waits for something above all that it owes others.** -/
theorem Good.awaits (h : Good o base frames) {k : Nat} (hk : o.awaits frames = some k) :
    base < k ∧ ∀ m ∈ holds frames, o.mutex m < k := by
  cases h with
  | body h =>
    rw [h.holds_eq]
    obtain ⟨hbase, hle, _⟩ := h.ranks
    have habove : o.level base frames < k := by
      cases h with
      | nil => cases hk
      | unlock _ _ => cases hk
      | @run p fs _ hp =>
        cases p <;> simp only [Order.awaits, reduceCtorEq, Option.some.injEq] at hk <;>
          subst hk <;> simp only [Order.ordered, Bool.and_eq_true, decide_eq_true_eq] at hp
        · exact hp.1
        · exact hp
    exact ⟨Nat.lt_of_le_of_lt hbase habove, fun m hm => Nat.lt_of_le_of_lt (hle m hm) habove⟩
  | asleep _ _ => cases hk
  | @relock m fs h hm =>
    obtain rfl := Option.some.inj hk
    obtain ⟨_, hlt, htail⟩ := h.ranks.2.2 m hm
    exact ⟨hlt, htail⟩

/-- Every thread is good, and owns no more than its scopes say. -/
structure Inv (o : Order μ τ) (s : State μ τ) : Prop where
  good : ∀ t frames, s.stack t = some frames → Good o (o.ending t) frames
  owner : ∀ m t, s.owner m = some t → ∃ frames, s.stack t = some frames ∧ m ∈ holds frames

/-- What a waiting thread waits for, and that it is waited for itself only below
that. -/
theorem Waits.lt (h : Inv o s) (hw : Waits s t u) {fs : List (Frame μ τ)} {k : Nat}
    (hu : s.stack u = some fs) (hk : o.awaits fs = some k) :
    ∃ fs' k', s.stack t = some fs' ∧ o.awaits fs' = some k' ∧ k' < k := by
  obtain ⟨hbase, hholds⟩ := (h.good u fs hu).awaits hk
  have howned : ∀ {m}, s.owner m = some u → o.mutex m < k := by
    intro m hm
    obtain ⟨fs', hfs', hmem⟩ := h.owner m u hm
    obtain rfl := Option.some.inj (hu.symm.trans hfs')
    exact hholds m hmem
  cases hw with
  | lock ht hm => exact ⟨_, _, ht, rfl, howned hm⟩
  | relock ht hm => exact ⟨_, _, ht, rfl, howned hm⟩
  | join ht _ => exact ⟨_, _, ht, rfl, hbase⟩

/-- A thread that waits stands before a mutex or a join. -/
theorem Waits.awaits (o : Order μ τ) (hw : Waits s t u) :
    ∃ fs k, s.stack t = some fs ∧ o.awaits fs = some k := by
  cases hw with
  | lock ht _ => exact ⟨_, _, ht, rfl⟩
  | relock ht _ => exact ⟨_, _, ht, rfl⟩
  | join ht _ => exact ⟨_, _, ht, rfl⟩

theorem lt_of_transGen (h : Inv o s) (hw : Relation.TransGen (Waits s) t u) :
    ∀ {fs : List (Frame μ τ)} {k : Nat}, s.stack u = some fs → o.awaits fs = some k →
      ∃ fs' k', s.stack t = some fs' ∧ o.awaits fs' = some k' ∧ k' < k := by
  induction hw with
  | single hw => exact fun hu hk => hw.lt h hu hk
  | tail _ hw ih =>
    intro fs k hu hk
    obtain ⟨fs', k', hs', hk', hlt⟩ := hw.lt h hu hk
    obtain ⟨fs'', k'', hs'', hk'', hlt'⟩ := ih hs' hk'
    exact ⟨fs'', k'', hs'', hk'', Nat.lt_trans hlt' hlt⟩

/-! ### Runs -/

section Runs

variable [DecidableEq τ] {main : τ → Prog μ τ} {first : τ}

/-- The thread `t` moves on, from `frames` to `frames'`. -/
theorem Inv.set (h : Inv o s) {frames' : List (Frame μ τ)} (hs : s.stack t = some frames)
    (hgood : Good o (o.ending t) frames') {owner : μ → Option τ}
    (howner : ∀ m u, owner m = some u → s.owner m = some u ∧ (u = t → m ∈ holds frames →
      m ∈ holds frames') ∨ u = t ∧ m ∈ holds frames') :
    Inv o { owner := owner, stack := Function.update s.stack t (some frames') } where
  good := by
    intro u fs hu
    by_cases hut : u = t
    · subst hut
      obtain rfl : frames' = fs := by simpa using hu
      exact hgood
    · exact h.good u fs ((Function.update_of_ne hut _ _).symm.trans hu)
  owner := by
    intro m u hu
    rcases howner m u hu with ⟨ho, hkeep⟩ | ⟨rfl, hm⟩
    · obtain ⟨fs, hfs, hm⟩ := h.owner m u ho
      by_cases hut : u = t
      · subst hut
        obtain rfl := Option.some.inj (hs.symm.trans hfs)
        exact ⟨frames', Function.update_self _ _ _, hkeep rfl hm⟩
      · exact ⟨fs, (Function.update_of_ne hut _ _).trans hfs, hm⟩
    · exact ⟨frames', Function.update_self _ _ _, hm⟩

/-- A step that touches no mutex. -/
theorem Inv.move (h : Inv o s) {frames' : List (Frame μ τ)} (hs : s.stack t = some frames)
    (hgood : Good o (o.ending t) frames') (hholds : ∀ m ∈ holds frames, m ∈ holds frames') :
    Inv o (s.set t frames') :=
  h.set hs hgood fun m _ hu => Or.inl ⟨hu, fun _ => hholds m⟩

/-- A thread is created. -/
theorem Inv.create (h : Inv o s) (hmain : ∀ t, o.ordered (o.ending t) (main t) = true) (u : τ) :
    Inv o (s.create main u) := by
  cases hu : s.stack u with
  | some fs =>
    have he : s.create main u = s := by rw [State.create, hu]
    rw [he]
    exact h
  | none =>
    have he : s.create main u = s.set u [.run (main u)] := by rw [State.create, hu]
    rw [he]
    constructor
    · intro v fs hv
      by_cases hvu : v = u
      · subst hvu
        obtain rfl : [Frame.run (main v)] = fs := by simpa [State.set] using hv
        exact .body (.run .nil (hmain v))
      · exact h.good v fs ((Function.update_of_ne hvu _ _).symm.trans hv)
    · intro m v hv
      obtain ⟨fs, hfs, hm⟩ := h.owner m v hv
      have hvu : v ≠ u := fun e => by rw [e, hu] at hfs; cases hfs
      exact ⟨fs, (Function.update_of_ne hvu _ _).trans hfs, hm⟩

variable [DecidableEq μ]

/-- A step that takes a mutex. -/
theorem Inv.acquire (h : Inv o s) {m : μ} {frames' : List (Frame μ τ)}
    (hs : s.stack t = some frames) (hgood : Good o (o.ending t) frames')
    (hholds : ∀ m' ∈ holds frames, m' ∈ holds frames') (hm : m ∈ holds frames') :
    Inv o ((s.set t frames').own m (some t)) := by
  refine h.set hs hgood fun m' u hu => ?_
  by_cases he : m' = m
  · subst he
    obtain rfl : t = u := by simpa [State.set] using hu
    exact Or.inr ⟨rfl, hm⟩
  · rw [Function.update_of_ne he] at hu
    exact Or.inl ⟨hu, fun _ => hholds m'⟩

/-- A step that releases a mutex. -/
theorem Inv.release (h : Inv o s) {m : μ} {frames' : List (Frame μ τ)}
    (hs : s.stack t = some frames) (hgood : Good o (o.ending t) frames')
    (hholds : ∀ m' ∈ holds frames, m' ≠ m → m' ∈ holds frames') :
    Inv o ((s.set t frames').own m none) := by
  refine h.set hs hgood fun m' u hu => ?_
  by_cases he : m' = m
  · subst he
    simp at hu
  · rw [Function.update_of_ne he] at hu
    exact Or.inl ⟨hu, fun _ hm' => hholds m' hm' he⟩

/-- A thread that is in a program. -/
theorem Inv.prog (hmain : ∀ t, o.ordered (o.ending t) (main t) = true) (h : Inv o s)
    {s' : State μ τ} {left : Bool} {p : Prog μ τ} (hs : s.stack t = some (.run p :: frames))
    (hbody : Body o (o.ending t) frames)
    (hp : o.ordered (o.level (o.ending t) frames) p = true)
    (hn : step main s (t, left) = some s') : Inv o s' := by
  have hkeep : ∀ m ∈ holds (.run p :: frames), m ∈ holds frames := by
    rw [hbody.holds_eq]
    exact fun _ => id
  cases p with
  | skip =>
    simp only [step, hs, Option.some.injEq] at hn
    subst hn
    exact h.move hs (.body hbody) hkeep
  | seq p q =>
    simp only [step, hs, Option.some.injEq] at hn
    subst hn
    simp only [Order.ordered, Bool.and_eq_true] at hp
    exact h.move hs (.body (.run (.run hbody hp.2) hp.1)) fun _ => id
  | choice p q =>
    simp only [step, hs, Option.some.injEq] at hn
    subst hn
    simp only [Order.ordered, Bool.and_eq_true] at hp
    refine h.move hs (.body (.run hbody ?_)) fun _ => id
    cases left
    · exact hp.2
    · exact hp.1
  | loop p =>
    simp only [step, hs, Option.some.injEq] at hn
    subst hn
    cases left
    · rw [if_neg Bool.false_ne_true]
      exact h.move hs (.body hbody) hkeep
    · rw [if_pos rfl]
      exact h.move hs (.body (.run (.run hbody hp) hp)) fun _ => id
  | guarded m p =>
    simp only [step, hs, Option.ite_none_right_eq_some, Option.some.injEq] at hn
    obtain ⟨_, rfl⟩ := hn
    simp only [Order.ordered, Bool.and_eq_true, decide_eq_true_eq] at hp
    exact h.acquire hs (.body (.run (.unlock hbody hp.1) hp.2))
      (fun m' hm' => List.mem_cons_of_mem m hm') List.mem_cons_self
  | wait m =>
    simp only [step, hs, Option.ite_none_right_eq_some, Option.some.injEq] at hn
    obtain ⟨hown, rfl⟩ := hn
    simp only [Order.ordered, beq_iff_eq] at hp
    obtain ⟨fs, hfs, hm⟩ := h.owner m t hown
    obtain rfl := Option.some.inj (hs.symm.trans hfs)
    have hhead := hbody.head_of_level hm hp
    exact h.release hs (.asleep hbody hhead) fun m' => mem_tail_of_head hhead
  | join u =>
    simp only [step, hs, Option.ite_none_left_eq_some, Option.some.injEq] at hn
    obtain ⟨_, rfl⟩ := hn
    exact h.move hs (.body hbody) hkeep
  | spawn u =>
    simp only [step, hs, Option.some.injEq] at hn
    subst hn
    exact (h.move hs (.body hbody) hkeep).create hmain u

theorem inv_step (hmain : ∀ t, o.ordered (o.ending t) (main t) = true) {s' : State μ τ}
    {a : τ × Bool} (h : Inv o s) (hn : step main s a = some s') : Inv o s' := by
  obtain ⟨t, left⟩ := a
  cases hs : s.stack t with
  | none => simp only [step, hs, reduceCtorEq] at hn
  | some all =>
    cases all with
    | nil => simp only [step, hs, reduceCtorEq] at hn
    | cons frame frames =>
      have hgood := h.good t _ hs
      cases frame with
      | run p =>
        cases hgood with
        | body hb => cases hb with | run hbody hp => exact h.prog hmain hs hbody hp hn
      | unlock m =>
        simp only [step, hs, Option.some.injEq] at hn
        subst hn
        cases hgood with
        | body hb =>
          cases hb with
          | unlock hbody _ =>
            refine h.release hs (.body hbody) fun m' hm' hne => ?_
            rw [hbody.holds_eq]
            exact (List.mem_cons.mp hm').resolve_left hne
      | asleep m =>
        simp only [step, hs, Option.some.injEq] at hn
        subst hn
        cases hgood with
        | body hb => cases hb
        | asleep hbody hm => exact h.move hs (.relock hbody hm) fun _ => id
      | relock m =>
        simp only [step, hs, Option.ite_none_right_eq_some, Option.some.injEq] at hn
        obtain ⟨_, rfl⟩ := hn
        cases hgood with
        | body hb => cases hb
        | relock hbody hm =>
          refine h.acquire hs (.body hbody) (fun m' hm' => ?_) ?_
          · rw [hbody.holds_eq]
            exact List.mem_of_mem_tail hm'
          · rw [hbody.holds_eq]
            exact List.mem_of_mem_head? hm

theorem inv_run (hmain : ∀ t, o.ordered (o.ending t) (main t) = true) {l : List (τ × Bool)}
    (h : (system main first).Run l s) : Inv o s := by
  induction h with
  | refl =>
    constructor
    · intro t fs ht
      by_cases he : t = first
      · subst he
        obtain rfl : [Frame.run (main t)] = fs := by simpa [system] using ht
        exact .body (.run .nil (hmain t))
      · simp [system, Function.update_of_ne he] at ht
    · intro m t hm
      cases hm
  | snoc _ hn ih => exact inv_step hmain ih hn

/-- **Threads whose programs pass the test never wait for each other in a cycle.** -/
theorem no_cycle (hmain : ∀ t, o.ordered (o.ending t) (main t) = true) {l : List (τ × Bool)}
    (h : (system main first).Run l s) (t : τ) : ¬ Relation.TransGen (Waits s) t t := by
  intro hcycle
  have hinv := inv_run hmain h
  obtain ⟨u, hfirst, _⟩ := Relation.TransGen.head'_iff.mp hcycle
  obtain ⟨fs, k, hfs, hk⟩ := hfirst.awaits o
  obtain ⟨fs', k', hfs', hk', hlt⟩ := lt_of_transGen hinv hcycle hfs hk
  obtain rfl := Option.some.inj (hfs.symm.trans hfs')
  rw [hk] at hk'
  obtain rfl := Option.some.inj hk'
  exact Nat.lt_irrefl _ hlt

end Runs

end Locks

end Lib
