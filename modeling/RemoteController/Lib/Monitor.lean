import RemoteController.Lib.Transition

/-!
# A watchdog thread on a condition variable

A `Monitor` is some data under one mutex and a thread that watches it: while the
data is `live`, the thread sleeps until the data is `armed`, then sleeps until
`arrival + timeout` and, when the wait reports a timeout, may `fire`.  Other
threads run locked sections; a section that `feeds` the watchdog stamps a new
arrival and notifies.

One step is one locked section, or one event of the wait itself.  A timed wait
ends in two steps, as it does under a real scheduler: the wait reports its
timeout (`expire`, once the deadline has passed), and only later does the thread
have the mutex again (`check`); any other section may come in between.  A thread
that was notified may report its timeout too, when the deadline has passed by the
time it gets to run.  The deadline a timed-out thread compares with is the one it
computed before it slept.

* `FiresOnlyStale l`: each firing in the run `l` comes no earlier than `timeout`
  after the latest arrival.
* `NeverOvertaken l`: no section feeds the watchdog during a timed wait that reports
  its timeout, unless the thread has the mutex back another `timeout` later.
* `firesOnlyStale_iff`: for every run the two are the same.
-/

namespace Lib

universe u v w

/-- When a locked section calls `notify_all`: not at all, before it releases the
mutex, or after. -/
inductive Notify where
  | none
  | inside
  | after
  deriving DecidableEq, Repr

/-- The watched data, the sections of the other threads, and what they owe the
watchdog. -/
structure Monitor (σ : Type u) (α : Type v) (β : Type w) where
  live : σ → Bool
  armed : σ → Bool
  arrival : σ → Nat
  timeout : Nat
  /-- The locked section `a`, entered when the clock shows `t`. -/
  locked : α → Nat → σ → σ
  /-- Sections that only the watchdog thread runs, before its loop. -/
  own : α → Bool
  notify : α → σ → Notify
  feeds : α → σ → Bool
  fire : β → σ → σ
  arrival_of_feeds : ∀ {a t s}, feeds a s = true → arrival (locked a t s) = t
  armed_of_feeds : ∀ {a t s}, feeds a s = true → armed (locked a t s) = true
  notify_of_feeds : ∀ {a s}, feeds a s = true → notify a s = .inside
  arrival_of_idle : ∀ {a t s}, feeds a s = false → arrival (locked a t s) = arrival s
  armed_of_idle : ∀ {a t s}, feeds a s = false → live (locked a t s) = true →
    armed (locked a t s) = armed s
  live_of_locked : ∀ {a t s}, live (locked a t s) = true → live s = true

namespace Monitor

/-- Where the watchdog thread is.  `outside`: it has not reached its loop.  The
sleeping states are left without the mutex held. -/
inductive Thread where
  | outside
  | waiting
  | woken
  | timed (deadline : Nat)
  | timedWoken (deadline : Nat)
  | timedOut (deadline : Nat)
  | finished
  deriving DecidableEq, Repr

/-- What `notify_all` does to the thread. -/
def Thread.wake : Thread → Thread
  | .waiting => .woken
  | .timed d => .timedWoken d
  | t => t

@[simp] theorem Thread.wake_timedOut (d : Nat) : (Thread.timedOut d).wake = .timedOut d := rfl

/-- The deadline of the timed wait that the thread is in.  The wait lasts until the thread
has the mutex back. -/
def Thread.deadline : Thread → Option Nat
  | .timed d | .timedWoken d | .timedOut d => some d
  | .outside | .waiting | .woken | .finished => none

@[simp] theorem Thread.deadline_wake (t : Thread) : t.wake.deadline = t.deadline := by
  cases t <;> rfl

theorem Thread.wake_ne_timed (t : Thread) (d : Nat) : t.wake ≠ .timed d := by
  cases t <;> simp [wake]

theorem Thread.eq_of_wake_timedOut {t : Thread} {d : Nat} (h : t.wake = .timedOut d) :
    t = .timedOut d := by
  cases t <;> simp_all [wake]

structure State (σ : Type u) where
  core : σ
  now : Nat
  thread : Thread
  /-- Threads that have left their section and still have to notify. -/
  unnotified : Nat
  deriving Repr

inductive Label (α : Type v) (β : Type w) where
  | tick (d : Nat)
  | locked (a : α)
  | notifyAll
  | enter
  | abandon (a : α)
  | spurious
  | expire
  | resume
  | check (b : β)
  deriving DecidableEq, Repr

/-- The thread has the mutex back in this step. -/
def Label.endsWait : Label α β → Bool
  | .resume | .check _ => true
  | _ => false

variable {σ : Type u} {α : Type v} {β : Type w}

/-- The head of the loop, with the mutex held, up to the next sleep. -/
def loopHead (m : Monitor σ α β) (s : σ) : Thread :=
  if m.live s then
    if m.armed s then .timed (m.arrival s + m.timeout) else .waiting
  else .finished

/-- The test after a wait that timed out at deadline `d`. -/
def fires (m : Monitor σ α β) (s : State σ) (d : Nat) : Bool :=
  m.live s.core && m.armed s.core && decide (d ≤ s.now)

/-- The state after the locked section `a`, run by another thread. -/
def afterLocked (m : Monitor σ α β) (s : State σ) (a : α) : State σ :=
  { s with
    core := m.locked a s.now s.core
    thread := if m.notify a s.core = .inside then s.thread.wake else s.thread
    unnotified := if m.notify a s.core = .after then s.unnotified + 1 else s.unnotified }

/-- The state after the timed-out thread has the mutex back. -/
def afterCheck (m : Monitor σ α β) (s : State σ) (d : Nat) (b : β) : State σ :=
  let core := if m.fires s d then m.fire b s.core else s.core
  { s with core := core, thread := m.loopHead core }

def next (m : Monitor σ α β) (s : State σ) : Label α β → Option (State σ)
  | .tick d => some { s with now := s.now + d }
  | .locked a => if m.own a then none else some (m.afterLocked s a)
  | .notifyAll =>
    if s.unnotified = 0 then none
    else some { s with thread := s.thread.wake, unnotified := s.unnotified - 1 }
  | .enter =>
    match s.thread with
    | .outside => some { s with thread := m.loopHead s.core }
    | _ => none
  | .abandon a =>
    match s.thread with
    | .outside =>
      if m.own a then some { s with core := m.locked a s.now s.core, thread := .finished }
      else none
    | _ => none
  | .spurious =>
    match s.thread with
    | .waiting => some { s with thread := .woken }
    | .timed d => some { s with thread := .timedWoken d }
    | _ => none
  | .expire =>
    match s.thread with
    | .timed d | .timedWoken d =>
      if d ≤ s.now then some { s with thread := .timedOut d } else none
    | _ => none
  | .resume =>
    match s.thread with
    | .woken => some { s with thread := m.loopHead s.core }
    | .timedWoken _ => some { s with thread := m.loopHead s.core }
    | _ => none
  | .check b =>
    match s.thread with
    | .timedOut d => some (m.afterCheck s d b)
    | _ => none

/-- The watchdog and its data, from the moment the thread exists. -/
def system (m : Monitor σ α β) (core : σ) (now : Nat) : System (State σ) (Label α β) where
  init := ⟨core, now, .outside, 0⟩
  next := m.next

/-! ### What one step can do

Every invariant below is read off these two lemmas and never off `next`. -/

/-- A wait reports its timeout, be the thread notified or not. -/
theorem expire_some {m : Monitor σ α β} {s t : State σ} (h : m.next s .expire = some t) :
    ∃ d, (s.thread = .timed d ∨ s.thread = .timedWoken d) ∧ d ≤ s.now ∧
      t = { s with thread := .timedOut d } := by
  cases hs : s.thread with
  | timed d | timedWoken d =>
    simp only [next, hs, Option.ite_none_right_eq_some, Option.some.injEq] at h
    exact ⟨d, by simp, h.1, h.2.symm⟩
  | outside | waiting | woken | timedOut | finished => simp only [next, hs, reduceCtorEq] at h

/-- **What a step does to the data.** -/
theorem core_step {m : Monitor σ α β} {s t : State σ} {a : Label α β} (h : m.next s a = some t) :
    t.core = s.core ∨ (∃ c, (a = .locked c ∨ a = .abandon c) ∧ t.core = m.locked c s.now s.core) ∨
      ∃ b d, a = .check b ∧ s.thread = .timedOut d ∧ m.fires s d = true ∧
        t.core = m.fire b s.core := by
  cases a with
  | tick d => left; obtain rfl := Option.some.inj h; rfl
  | locked c =>
    right; left
    simp only [next] at h
    split at h
    · cases h
    · obtain rfl := Option.some.inj h
      exact ⟨c, Or.inl rfl, rfl⟩
  | notifyAll =>
    left
    simp only [next] at h
    split at h
    · cases h
    · obtain rfl := Option.some.inj h; rfl
  | enter | spurious | resume =>
    left
    cases hs : s.thread <;> simp only [next, hs, reduceCtorEq, Option.some.injEq] at h <;>
      (subst h; rfl)
  | abandon c =>
    right; left
    cases hs : s.thread <;> simp only [next, hs, reduceCtorEq] at h
    split at h
    · obtain rfl := Option.some.inj h
      exact ⟨c, Or.inr rfl, rfl⟩
    · cases h
  | expire =>
    obtain ⟨d, _, _, rfl⟩ := expire_some h
    exact .inl rfl
  | check b =>
    cases hs : s.thread <;> simp only [next, hs, reduceCtorEq, Option.some.injEq] at h
    rename_i d
    subst h
    by_cases hf : m.fires s d = true
    · exact Or.inr (Or.inr ⟨b, d, rfl, rfl, hf, by simp [afterCheck, hf]⟩)
    · exact Or.inl (by simp [afterCheck, hf])

theorem now_step {m : Monitor σ α β} {s t : State σ} {a : Label α β} (h : m.next s a = some t) :
    s.now ≤ t.now := by
  cases a with
  | tick d =>
    obtain rfl := Option.some.inj h
    exact Nat.le_add_right _ _
  | locked c | notifyAll =>
    simp only [next] at h
    split at h
    · cases h
    · obtain rfl := Option.some.inj h
      exact Nat.le_refl _
  | enter | spurious | resume | check =>
    cases hs : s.thread <;> simp only [next, hs, reduceCtorEq, Option.some.injEq] at h <;>
      (subst h; exact Nat.le_refl _)
  | abandon =>
    cases hs : s.thread <;> simp only [next, hs, reduceCtorEq] at h
    split at h <;> cases h
    exact Nat.le_refl _
  | expire =>
    obtain ⟨d, _, _, rfl⟩ := expire_some h
    exact Nat.le_refl _

theorem loopHead_deadline {m : Monitor σ α β} {s : σ} {d : Nat}
    (h : (m.loopHead s).deadline = some d) : d = m.arrival s + m.timeout := by
  unfold loopHead at h
  split at h
  · split at h
    · exact (Option.some.inj h).symm
    · cases h
  · cases h

theorem loopHead_ne_timedOut (m : Monitor σ α β) (s : σ) (d : Nat) :
    m.loopHead s ≠ .timedOut d := by
  unfold loopHead
  split
  · split <;> exact Thread.noConfusion
  · exact Thread.noConfusion

/-- **How the thread comes to be asleep until a deadline.** -/
theorem timed_step {m : Monitor σ α β} {s t : State σ} {a : Label α β} {d : Nat}
    (h : m.next s a = some t) (ht : t.thread = .timed d) :
    d = m.arrival t.core + m.timeout ∨ s.thread = .timed d ∧ (t.core = s.core ∨
      ∃ c, a = .locked c ∧ m.notify c s.core ≠ .inside ∧ t.core = m.locked c s.now s.core) := by
  cases a with
  | tick e =>
    obtain rfl := Option.some.inj h
    exact .inr ⟨ht, .inl rfl⟩
  | locked c =>
    simp only [next] at h
    split at h
    · cases h
    · obtain rfl := Option.some.inj h
      by_cases hn : m.notify c s.core = .inside
      · rw [afterLocked, if_pos hn] at ht
        exact absurd ht (Thread.wake_ne_timed _ _)
      · simp only [afterLocked, if_neg hn] at ht
        exact .inr ⟨ht, .inr ⟨c, rfl, hn, rfl⟩⟩
  | notifyAll =>
    simp only [next] at h
    split at h
    · cases h
    · obtain rfl := Option.some.inj h
      exact absurd ht (Thread.wake_ne_timed _ _)
  | enter | resume | check =>
    cases hs : s.thread <;> simp only [next, hs, reduceCtorEq, Option.some.injEq] at h <;>
      (subst h; exact .inl (loopHead_deadline (congrArg Thread.deadline ht)))
  | spurious =>
    cases hs : s.thread <;> simp only [next, hs, reduceCtorEq, Option.some.injEq] at h <;>
      (subst h; cases ht)
  | abandon =>
    cases hs : s.thread <;> simp only [next, hs, reduceCtorEq] at h
    split at h <;> cases h
    cases ht
  | expire =>
    obtain ⟨e, _, _, rfl⟩ := expire_some h
    cases ht

/-- **How the thread comes to have timed out.** -/
theorem timedOut_step {m : Monitor σ α β} {s t : State σ} {a : Label α β} {d : Nat}
    (h : m.next s a = some t) (ht : t.thread = .timedOut d) :
    d ≤ t.now ∨ s.thread = .timedOut d := by
  cases a with
  | tick e =>
    obtain rfl := Option.some.inj h
    exact .inr ht
  | locked c =>
    simp only [next] at h
    split at h
    · cases h
    · obtain rfl := Option.some.inj h
      refine .inr ?_
      by_cases hn : m.notify c s.core = .inside
      · rw [afterLocked, if_pos hn] at ht
        exact Thread.eq_of_wake_timedOut ht
      · simpa only [afterLocked, if_neg hn] using ht
  | notifyAll =>
    simp only [next] at h
    split at h
    · cases h
    · obtain rfl := Option.some.inj h
      exact .inr (Thread.eq_of_wake_timedOut ht)
  | enter | resume | check =>
    cases hs : s.thread <;> simp only [next, hs, reduceCtorEq, Option.some.injEq] at h <;>
      (subst h; exact absurd ht (loopHead_ne_timedOut _ _ _))
  | spurious =>
    cases hs : s.thread <;> simp only [next, hs, reduceCtorEq, Option.some.injEq] at h <;>
      (subst h; cases ht)
  | abandon =>
    cases hs : s.thread <;> simp only [next, hs, reduceCtorEq] at h
    split at h <;> cases h
    cases ht
  | expire =>
    obtain ⟨e, _, he, rfl⟩ := expire_some h
    obtain rfl := Thread.timedOut.inj ht
    exact .inl he

/-- **How the thread comes to be in a timed wait**: it begins one, or goes on in its own. -/
theorem deadline_step {m : Monitor σ α β} {s t : State σ} {a : Label α β} {d : Nat}
    (h : m.next s a = some t) (ht : t.thread.deadline = some d) :
    d = m.arrival t.core + m.timeout ∨ s.thread.deadline = some d ∧ a.endsWait = false ∧
      (t.core = s.core ∨ ∃ c, a = .locked c ∧ t.core = m.locked c s.now s.core) := by
  cases a with
  | tick e =>
    obtain rfl := Option.some.inj h
    exact .inr ⟨ht, rfl, .inl rfl⟩
  | locked c =>
    simp only [next] at h
    split at h
    · cases h
    · obtain rfl := Option.some.inj h
      refine .inr ⟨?_, rfl, .inr ⟨c, rfl, rfl⟩⟩
      simp only [afterLocked] at ht
      split at ht
      · rwa [Thread.deadline_wake] at ht
      · exact ht
  | notifyAll =>
    simp only [next] at h
    split at h
    · cases h
    · obtain rfl := Option.some.inj h
      exact .inr ⟨by simpa using ht, rfl, .inl rfl⟩
  | enter | resume | check =>
    cases hs : s.thread <;> simp only [next, hs, reduceCtorEq, Option.some.injEq] at h <;>
      (subst h; exact .inl (loopHead_deadline ht))
  | spurious =>
    cases hs : s.thread with
    | waiting =>
      simp only [next, hs, Option.some.injEq] at h
      subst h
      cases ht
    | timed e =>
      simp only [next, hs, Option.some.injEq] at h
      subst h
      exact .inr ⟨ht, rfl, .inl rfl⟩
    | outside | woken | timedWoken | timedOut | finished => simp only [next, hs, reduceCtorEq] at h
  | abandon =>
    cases hs : s.thread <;> simp only [next, hs, reduceCtorEq] at h
    split at h <;> cases h
    cases ht
  | expire =>
    obtain ⟨e, hs, _, rfl⟩ := expire_some h
    refine .inr ⟨?_, rfl, .inl rfl⟩
    rcases hs with hs | hs <;> (rw [hs]; exact ht)

/-! ### Firing on time -/

variable {m : Monitor σ α β} {core : σ} {now : Nat}

/-- Each firing in the run `l` comes no earlier than `timeout` after the latest
arrival. -/
def FiresOnlyStale (m : Monitor σ α β) (core : σ) (now : Nat) (l : List (Label α β)) : Prop :=
  ∀ l₁ b l₂ s d, l = l₁ ++ .check b :: l₂ → (m.system core now).Run l₁ s →
    s.thread = .timedOut d → m.fires s d = true → m.arrival s.core + m.timeout ≤ s.now

/-- One firing on fresh input is enough. -/
theorem not_firesOnlyStale (l₁ : List (Label α β)) {l₂ : List (Label α β)} {b : β} {s : State σ}
    {d : Nat} (h : (m.system core now).Run l₁ s) (ht : s.thread = .timedOut d)
    (hf : m.fires s d = true)
    (hfresh : s.now < m.arrival s.core + m.timeout) :
    ¬ m.FiresOnlyStale core now (l₁ ++ .check b :: l₂) :=
  fun hstale => Nat.not_lt_of_le (hstale l₁ b l₂ s d rfl h ht hf) hfresh

/-- The section `c`, run in the state `s₁` while the thread was in a timed wait, fed the
watchdog; the thread has the mutex back in `s₂`, less than `timeout` later, and
finds the data live. -/
structure Overtaken (m : Monitor σ α β) (s₁ : State σ) (c : α) (s₂ : State σ) : Prop where
  waiting : s₁.thread.deadline.isSome = true
  fed : m.feeds c s₁.core = true
  live : m.live s₂.core = true
  soon : s₂.now < s₁.now + m.timeout

/-- No section overtakes the watchdog thread in the run `l`: in a wait that reports its
timeout, and so ends in `check`. -/
def NeverOvertaken (m : Monitor σ α β) (core : σ) (now : Nat) (l : List (Label α β)) : Prop :=
  ∀ l₁ c l₂ b l₃ s₁ s₂, l = l₁ ++ .locked c :: (l₂ ++ .check b :: l₃) →
    (∀ a ∈ l₂, a.endsWait = false) → (m.system core now).Run l₁ s₁ →
    (m.system core now).Run (l₁ ++ .locked c :: l₂) s₂ → ¬ m.Overtaken s₁ c s₂

/-- A sleeping thread's deadline is the current one. -/
theorem deadline_of_timed {l : List (Label α β)} {s : State σ}
    (h : (m.system core now).Run l s) :
    ∀ d, s.thread = .timed d → d = m.arrival s.core + m.timeout := by
  induction h with
  | refl => intro d hd; cases hd
  | @snoc l s t a _ hn ih =>
    intro d hd
    rcases timed_step hn hd with h1 | ⟨hs, hc⟩
    · exact h1
    · rcases hc with hc | ⟨c, rfl, hnot, hc⟩
      · rw [hc]; exact ih d hs
      · -- a section that feeds the watchdog would have woken the thread
        have hf : m.feeds c s.core = false := by
          by_contra hf
          exact hnot (m.notify_of_feeds (by simpa using hf))
        rw [hc, m.arrival_of_idle hf]
        exact ih d hs

/-- A thread that has timed out did so after its deadline. -/
theorem deadline_le_of_timedOut {l : List (Label α β)} {s : State σ}
    (h : (m.system core now).Run l s) : ∀ d, s.thread = .timedOut d → d ≤ s.now := by
  induction h with
  | refl => intro d hd; cases hd
  | @snoc l s t a _ hn ih =>
    intro d hd
    rcases timedOut_step hn hd with hle | hs
    · exact hle
    · exact Nat.le_trans (ih d hs) (now_step hn)

/-- The deadline of a wait is the current one, unless a section fed the watchdog since the
wait began. -/
theorem deadline_of_run {l : List (Label α β)} {s : State σ} (h : (m.system core now).Run l s) :
    ∀ d, s.thread.deadline = some d → d = m.arrival s.core + m.timeout ∨
      ∃ l₁ c l₂ s₁, l = l₁ ++ .locked c :: l₂ ∧ (∀ a ∈ l₂, a.endsWait = false) ∧
        (m.system core now).Run l₁ s₁ ∧ s₁.thread.deadline.isSome = true ∧
        m.feeds c s₁.core = true ∧ m.arrival s.core = s₁.now := by
  induction h with
  | refl => intro d hd; cases hd
  | @snoc l s t a hr hn ih =>
    intro d hd
    rcases deadline_step hn hd with hfresh | ⟨hs, hends, hc⟩
    · exact .inl hfresh
    · by_cases hfeed : ∃ c, a = .locked c ∧ m.feeds c s.core = true ∧
          t.core = m.locked c s.now s.core
      · obtain ⟨c, rfl, hf, hcore⟩ := hfeed
        refine .inr ⟨l, c, [], s, rfl, by simp, hr, by rw [hs]; rfl, hf, ?_⟩
        rw [hcore, m.arrival_of_feeds hf]
      · have harr : m.arrival t.core = m.arrival s.core := by
          rcases hc with hc | ⟨c, rfl, hc⟩
          · rw [hc]
          · rw [hc, m.arrival_of_idle]
            by_contra hf
            exact hfeed ⟨c, rfl, by simpa using hf, hc⟩
        rw [harr]
        refine (ih d hs).imp_right ?_
        rintro ⟨l₁, c, l₂, s₁, rfl, hno, hr₁, hwait, hf, ha⟩
        refine ⟨l₁, c, l₂ ++ [a], s₁, by simp, ?_, hr₁, hwait, hf, ha⟩
        intro a' ha'
        rcases List.mem_append.mp ha' with h1 | h1
        · exact hno a' h1
        · rw [List.mem_singleton.mp h1]
          exact hends

/-- From a section that fed the watchdog until the thread has the mutex back, the arrival
does not go back, and live data stay armed. -/
theorem overtaken_path {s₁ : State σ} {c : α} (hf : m.feeds c s₁.core = true)
    {l₂ : List (Label α β)} {s₂ : State σ}
    (h : (m.system core now).Path (m.afterLocked s₁ c) l₂ s₂) :
    (∀ a ∈ l₂, a.endsWait = false) → s₁.now ≤ s₂.now ∧ s₁.now ≤ m.arrival s₂.core ∧
      (m.live s₂.core = true → m.armed s₂.core = true) := by
  induction h with
  | refl =>
    intro _
    refine ⟨Nat.le_refl _, ?_, fun _ => m.armed_of_feeds hf⟩
    simp [afterLocked, m.arrival_of_feeds hf]
  | @snoc l s t a hp hn ih =>
    intro hno
    obtain ⟨hnow, harr, harm⟩ := ih (fun a' ha' => hno a' (List.mem_append_left _ ha'))
    have hends : a.endsWait = false := hno a (by simp)
    refine ⟨Nat.le_trans hnow (now_step hn), ?_⟩
    rcases core_step hn with hc | ⟨e, _, hc⟩ | ⟨b, _, rfl, _⟩
    · rw [hc]; exact ⟨harr, harm⟩
    · rw [hc]
      by_cases hfe : m.feeds e s.core = true
      · rw [m.arrival_of_feeds hfe]
        exact ⟨hnow, fun _ => m.armed_of_feeds hfe⟩
      · have hfe' : m.feeds e s.core = false := by simpa using hfe
        rw [m.arrival_of_idle hfe']
        exact ⟨harr, fun hl => by rw [m.armed_of_idle hfe' hl]; exact harm (m.live_of_locked hl)⟩
    · cases hends

/-- **A watchdog fires only on stale input exactly when no section overtakes
it.** -/
theorem firesOnlyStale_iff {l : List (Label α β)} {s : State σ}
    (h : (m.system core now).Run l s) :
    m.FiresOnlyStale core now l ↔ m.NeverOvertaken core now l := by
  constructor
  · rintro hstale l₁ c l₂ b l₃ s₁ s₂ rfl hno hr₁ hr₂ ⟨_, hf, hlive, hsoon⟩
    obtain ⟨s₁', hp₁, hp₂⟩ := System.Path.split hr₂
    obtain rfl := System.Path.unique hr₁ hp₁
    obtain ⟨t, hn, hp⟩ := System.path_cons_iff.mp hp₂
    have ht' : t = m.afterLocked s₁ c := by
      simp only [system, next] at hn
      split at hn
      · cases hn
      · exact (Option.some.inj hn).symm
    subst ht'
    obtain ⟨_, harr, harm⟩ := overtaken_path hf hp hno
    -- the step that comes next has the thread timed out
    have hwhole : (m.system core now).Run ((l₁ ++ .locked c :: l₂) ++ .check b :: l₃) s := by
      simpa using h
    obtain ⟨s₂', hp₃, hp₄⟩ := System.Path.split hwhole
    obtain rfl := System.Path.unique hr₂ hp₃
    obtain ⟨u, hcheck, _⟩ := System.path_cons_iff.mp hp₄
    obtain ⟨d, hth⟩ : ∃ d, s₂.thread = .timedOut d := by
      cases hs : s₂.thread <;> simp only [system, next, hs, reduceCtorEq] at hcheck
      exact ⟨_, rfl⟩
    have hd := deadline_le_of_timedOut hr₂ d hth
    have hfire : m.fires s₂ d = true := by simp [fires, hlive, harm hlive, hd]
    have := hstale (l₁ ++ .locked c :: l₂) b l₃ s₂ d (by simp) hr₂ hth hfire
    omega
  · rintro hnever l₁ b l₂ s₂ d rfl hr₂ hth hfire
    simp only [fires, Bool.and_eq_true, decide_eq_true_eq] at hfire
    rcases deadline_of_run hr₂ d (by rw [hth]; rfl) with
      hd | ⟨k₁, c, k₂, s₁, rfl, hno, hr₁, hwait, hf, ha⟩
    · omega
    · rw [ha]
      by_contra hlt
      exact hnever k₁ c k₂ b l₂ s₁ s₂ (by simp) hno hr₁ hr₂
        ⟨hwait, hf, hfire.1.1, by omega⟩

end Monitor

end Lib
