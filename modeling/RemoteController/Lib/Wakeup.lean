import RemoteController.Lib.Monitor

/-!
# No wake-up is lost

A thread asleep on a condition variable hears only of a change that is notified.
`Announces` is what the sections of a monitor have to do for their watchdog: a
section that ends its life notifies, and none but a feeding one arms it.  Then,
in every state a run reaches with the mutex free, an armed watchdog is not in the
untimed wait, a sleeping one wakes in time, and one that sleeps although it
should end is about to be notified (`wakesUp_of_run`).
-/

namespace Lib

namespace Monitor

universe u v w

variable {σ : Type u} {α : Type v} {β : Type w}

/-- The thread sleeps and no notification has reached it. -/
def Thread.blocked : Thread → Bool
  | .waiting => true
  | .timed _ => true
  | _ => false

theorem Thread.blocked_wake (t : Thread) : t.wake.blocked = false := by
  cases t <;> rfl

theorem Thread.wake_ne_waiting (t : Thread) : t.wake ≠ .waiting := by
  cases t <;> simp [wake]

/-- What the sections owe a watchdog that sleeps. -/
structure Announces (m : Monitor σ α β) : Prop where
  ended : ∀ a t s, m.own a = false → m.live s = true → m.live (m.locked a t s) = false →
    m.notify a s ≠ .none
  arms : ∀ a t s, m.feeds a s = false → m.armed (m.locked a t s) = true → m.armed s = true

/-- What holds whenever the mutex is free.  `left` says that the data are no
longer to be watched. -/
structure WakesUp (m : Monitor σ α β) (left : σ → Prop) (s : State σ) : Prop where
  untimed : m.armed s.core = true → s.thread ≠ .waiting
  timed : m.armed s.core = true → ∀ d, s.thread = .timed d → d ≤ m.arrival s.core + m.timeout
  ended : left s.core → s.thread.blocked = true → 0 < s.unnotified

variable {m : Monitor σ α β} {core : σ} {now : Nat}

theorem loopHead_waiting {s : σ} (h : m.loopHead s = .waiting) : m.armed s = false := by
  unfold loopHead at h
  split at h
  · split at h
    · cases h
    · rename_i ha
      simpa using ha
  · cases h

theorem live_of_loopHead {s : σ} (h : (m.loopHead s).blocked = true) : m.live s = true := by
  unfold loopHead at h
  split at h
  · assumption
  · cases h

/-- **How the thread comes to be in the untimed wait.** -/
theorem waiting_step {s t : State σ} {a : Label α β} (h : m.next s a = some t)
    (ht : t.thread = .waiting) :
    m.armed t.core = false ∨ s.thread = .waiting ∧ (t.core = s.core ∨
      ∃ c, m.notify c s.core ≠ .inside ∧ t.core = m.locked c s.now s.core) := by
  cases a with
  | tick d => obtain rfl := Option.some.inj h; exact Or.inr ⟨ht, Or.inl rfl⟩
  | locked c =>
    simp only [next] at h
    split at h
    · cases h
    · obtain rfl := Option.some.inj h
      by_cases hn : m.notify c s.core = .inside
      · rw [afterLocked, if_pos hn] at ht
        exact absurd ht (Thread.wake_ne_waiting _)
      · simp only [afterLocked, if_neg hn] at ht
        exact Or.inr ⟨ht, Or.inr ⟨c, hn, rfl⟩⟩
  | notifyAll =>
    simp only [next] at h
    split at h
    · cases h
    · obtain rfl := Option.some.inj h
      exact absurd ht (Thread.wake_ne_waiting _)
  | enter | resume =>
    cases hs : s.thread <;> simp only [next, hs, reduceCtorEq, Option.some.injEq] at h <;>
      (subst h; exact Or.inl (loopHead_waiting ht))
  | abandon c =>
    cases hs : s.thread <;> simp only [next, hs, reduceCtorEq] at h
    split at h
    · obtain rfl := Option.some.inj h; cases ht
    · cases h
  | spurious =>
    cases hs : s.thread <;> simp only [next, hs, reduceCtorEq, Option.some.injEq] at h <;>
      (subst h; cases ht)
  | expire =>
    obtain ⟨d, _, _, rfl⟩ := expire_some h
    cases ht
  | check b =>
    cases hs : s.thread <;> simp only [next, hs, reduceCtorEq, Option.some.injEq] at h
    subst h
    exact Or.inl (loopHead_waiting ht)

/-- **How the thread comes to sleep.**  A section that runs meanwhile either does
not notify, or owes its notification. -/
theorem blocked_step {s t : State σ} {a : Label α β} (h : m.next s a = some t)
    (ht : t.thread.blocked = true) :
    m.live t.core = true ∨ s.thread.blocked = true ∧
      (t.core = s.core ∧ t.unnotified = s.unnotified ∨
        ∃ c, m.own c = false ∧ t.core = m.locked c s.now s.core ∧
          (m.notify c s.core = .none ∧ t.unnotified = s.unnotified ∨
            t.unnotified = s.unnotified + 1)) := by
  cases a with
  | tick d => obtain rfl := Option.some.inj h; exact Or.inr ⟨ht, Or.inl ⟨rfl, rfl⟩⟩
  | locked c =>
    simp only [next] at h
    split at h
    · cases h
    · rename_i hown
      obtain rfl := Option.some.inj h
      cases hn : m.notify c s.core with
      | inside =>
        simp [afterLocked, hn, Thread.blocked_wake] at ht
      | none =>
        simp only [afterLocked, hn, reduceCtorEq, if_false] at ht
        exact Or.inr
          ⟨ht, Or.inr ⟨c, by simpa using hown, rfl, Or.inl ⟨hn, by simp [afterLocked, hn]⟩⟩⟩
      | after =>
        simp only [afterLocked, hn, reduceCtorEq, if_false] at ht
        exact Or.inr ⟨ht, Or.inr ⟨c, by simpa using hown, rfl, Or.inr (by simp [afterLocked, hn])⟩⟩
  | notifyAll =>
    simp only [next] at h
    split at h
    · cases h
    · obtain rfl := Option.some.inj h
      simp [Thread.blocked_wake] at ht
  | enter | resume =>
    cases hs : s.thread <;> simp only [next, hs, reduceCtorEq, Option.some.injEq] at h <;>
      (subst h; exact Or.inl (live_of_loopHead ht))
  | abandon c =>
    cases hs : s.thread <;> simp only [next, hs, reduceCtorEq] at h
    split at h
    · obtain rfl := Option.some.inj h; cases ht
    · cases h
  | spurious =>
    cases hs : s.thread <;> simp only [next, hs, reduceCtorEq, Option.some.injEq] at h <;>
      (subst h; cases ht)
  | expire =>
    obtain ⟨d, _, _, rfl⟩ := expire_some h
    cases ht
  | check b =>
    cases hs : s.thread <;> simp only [next, hs, reduceCtorEq, Option.some.injEq] at h
    subst h
    exact Or.inl (live_of_loopHead ht)

/-- A thread in the untimed wait has nothing to time. -/
theorem unarmed_of_waiting (hm : m.Announces) {l : List (Label α β)} {s : State σ}
    (h : (m.system core now).Run l s) : s.thread = .waiting → m.armed s.core = false := by
  induction h with
  | refl => intro ht; cases ht
  | @snoc l s t a _ hn ih =>
    intro ht
    rcases waiting_step hn ht with h1 | ⟨hs, hc | ⟨c, hnot, hc⟩⟩
    · exact h1
    · rw [hc]; exact ih hs
    · -- a section that feeds the watchdog would have woken the thread
      have hf : m.feeds c s.core = false := by
        by_contra hf
        exact hnot (m.notify_of_feeds (by simpa using hf))
      by_contra ha
      have harmed := hm.arms c s.now s.core hf (by rw [← hc]; simpa using ha)
      rw [ih hs] at harmed
      cases harmed

/-- A thread that sleeps on data it should no longer watch is about to be
notified. -/
theorem unnotified_of_blocked (hm : m.Announces) {l : List (Label α β)} {s : State σ}
    (h : (m.system core now).Run l s) :
    s.thread.blocked = true → m.live s.core = false → 0 < s.unnotified := by
  induction h with
  | refl => intro ht; cases ht
  | @snoc l s t a _ hn ih =>
    intro ht hdead
    rcases blocked_step hn ht with hl | ⟨hs, ⟨hc, hu⟩ | ⟨c, hown, hc, hu⟩⟩
    · rw [hl] at hdead; cases hdead
    · rw [hu]
      exact ih hs (by rw [← hc]; exact hdead)
    · rcases hu with ⟨hnone, hu⟩ | hu
      · -- a section that does not notify found the data dead already
        have hdead' : m.live s.core = false := by
          by_contra hl
          exact hm.ended c s.now s.core hown (by simpa using hl) (by rw [← hc]; exact hdead) hnone
        rw [hu]
        exact ih hs hdead'
      · omega

/-- **No wake-up is lost.** -/
theorem wakesUp_of_run (hm : m.Announces) {left : σ → Prop} {l : List (Label α β)} {s : State σ}
    (h : (m.system core now).Run l s) (hleft : left s.core → m.live s.core = false) :
    m.WakesUp left s where
  untimed := by
    intro ha ht
    rw [unarmed_of_waiting hm h ht] at ha
    cases ha
  timed := fun _ d hd => Nat.le_of_eq (deadline_of_timed h d hd)
  ended := fun hl hb => unnotified_of_blocked hm h hb (hleft hl)

end Monitor

end Lib
