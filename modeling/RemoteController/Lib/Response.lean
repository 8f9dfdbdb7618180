import RemoteController.Lib.Wakeup

/-!
# A watchdog that is let run fires

Safety says that a watchdog does not fire too early and does not sleep through a
notification.  This is the other half: once the latest arrival is `timeout` old, the
thread has at most three steps of its own in front of the firing, and one more for each
spurious wake-up, and its next step can be taken at once.

* `Silent`: what the sections have to do for it.  A section that neither feeds the
  watchdog nor ends its life does not notify, and one of the thread's own ends it.
* `Due`: the data are live and armed, the deadline has passed, and the thread is on its way.
* `Due.enabled`: its next step can be taken.
* `Due.step`: a step of the thread brings it nearer, no other one takes it further away.
* `responds`: after that many steps of its own it has fired.
-/

namespace Lib

namespace Monitor

universe u v w

variable {σ : Type u} {α : Type v} {β : Type w}

/-- A step of the watchdog thread. -/
def Label.owns : Label α β → Bool
  | .enter | .resume | .expire | .check _ => true
  | _ => false

def Label.isSpurious : Label α β → Bool
  | .spurious => true
  | _ => false

/-- How many steps of its own a thread is from firing. -/
def Thread.rank : Thread → Nat
  | .outside | .woken | .timedWoken _ => 3
  | .timed _ => 2
  | .timedOut _ => 1
  | .waiting | .finished => 0

/-- What the sections owe a watchdog that is to fire in time. -/
structure Silent (m : Monitor σ α β) : Prop where
  quiet : ∀ a t s, m.feeds a s = false → m.live (m.locked a t s) = true → m.notify a s = .none
  ends : ∀ a t s, m.own a = true → m.live (m.locked a t s) = false

variable {m : Monitor σ α β} {core : σ} {now : Nat}

/-- A thread that has left its loop left it for good reason. -/
theorem dead_of_finished (hq : m.Silent) {l : List (Label α β)} {s : State σ}
    (h : (m.system core now).Run l s) : s.thread = .finished → m.live s.core = false := by
  have hhead : ∀ c, m.loopHead c = .finished → m.live c = false := by
    intro c hc
    unfold loopHead at hc
    split at hc
    · split at hc <;> cases hc
    · rename_i hl
      simpa using hl
  have hwake : ∀ th : Thread, th.wake = .finished → th = .finished := by
    intro th ht
    cases th <;> simp_all [Thread.wake]
  induction h with
  | refl => intro ht; cases ht
  | @snoc l s t a _ hn ih =>
    intro ht
    cases a with
    | tick d => obtain rfl := Option.some.inj hn; exact ih ht
    | locked c =>
      simp only [system, next] at hn
      split at hn
      · cases hn
      · obtain rfl := Option.some.inj hn
        have hs : s.thread = .finished := by
          simp only [afterLocked] at ht
          split at ht
          · exact hwake _ ht
          · exact ht
        -- a dead core does not come back to life
        by_contra hl
        have := m.live_of_locked (by simpa [afterLocked] using hl)
        rw [ih hs] at this
        cases this
    | notifyAll =>
      simp only [system, next] at hn
      split at hn
      · cases hn
      · obtain rfl := Option.some.inj hn
        exact ih (hwake _ ht)
    | enter | resume =>
      cases hs : s.thread <;>
          simp only [system, next, hs, reduceCtorEq, Option.some.injEq] at hn <;>
        (subst hn; exact hhead _ ht)
    | abandon c =>
      cases hs : s.thread <;> simp only [system, next, hs, reduceCtorEq] at hn
      split at hn
      · rename_i hown
        obtain rfl := Option.some.inj hn
        exact hq.ends c s.now s.core hown
      · cases hn
    | spurious =>
      cases hs : s.thread <;>
          simp only [system, next, hs, reduceCtorEq, Option.some.injEq] at hn <;>
        (subst hn; cases ht)
    | expire =>
      obtain ⟨d, _, _, rfl⟩ := expire_some (m := m) hn
      cases ht
    | check b =>
      cases hs : s.thread <;> simp only [system, next, hs, reduceCtorEq, Option.some.injEq] at hn
      subst hn
      exact hhead _ ht

/-- A live step comes from a live state. -/
theorem live_of_next {s t : State σ} {a : Label α β} (hn : m.next s a = some t)
    (hl : m.live t.core = true) : m.live s.core = true := by
  rcases core_step hn with hc | ⟨c, _, hc⟩ | ⟨b, d, _, _, hf, _⟩
  · rwa [← hc]
  · rw [hc] at hl
    exact m.live_of_locked hl
  · simp only [fires, Bool.and_eq_true] at hf
    exact hf.1.1

/-- Only a section that ends the life of the watchdog notifies after it. -/
theorem unnotified_of_live (hq : m.Silent) {l : List (Label α β)} {s : State σ}
    (h : (m.system core now).Run l s) : m.live s.core = true → s.unnotified = 0 := by
  induction h with
  | refl => intro _; rfl
  | @snoc l s t a _ hn ih =>
    intro hl
    have h0 := ih (live_of_next hn hl)
    cases a with
    | tick d => obtain rfl := Option.some.inj hn; exact h0
    | locked c =>
      simp only [system, next] at hn
      split at hn
      · cases hn
      · obtain rfl := Option.some.inj hn
        have hnot : m.notify c s.core ≠ .after := by
          cases hf : m.feeds c s.core with
          | true => rw [m.notify_of_feeds hf]; simp
          | false => rw [hq.quiet c s.now s.core hf hl]; simp
        simp only [afterLocked, if_neg hnot]
        exact h0
    | notifyAll => simp [system, next, h0] at hn
    | enter | resume | spurious =>
      cases hs : s.thread <;>
          simp only [system, next, hs, reduceCtorEq, Option.some.injEq] at hn <;>
        (subst hn; exact h0)
    | abandon c =>
      cases hs : s.thread <;> simp only [system, next, hs, reduceCtorEq] at hn
      split at hn
      · obtain rfl := Option.some.inj hn
        exact h0
      · cases hn
    | expire =>
      obtain ⟨d, _, _, rfl⟩ := expire_some (m := m) hn
      exact h0
    | check b =>
      cases hs : s.thread <;> simp only [system, next, hs, reduceCtorEq, Option.some.injEq] at hn
      subst hn
      exact h0

/-! ### On the way to the firing -/

/-- The watchdog has to fire, and is on its way. -/
structure Due (m : Monitor σ α β) (s : State σ) : Prop where
  live : m.live s.core = true
  armed : m.armed s.core = true
  stale : m.arrival s.core + m.timeout ≤ s.now
  deadline : ∀ d, s.thread = .timed d ∨ s.thread = .timedOut d → d ≤ s.now
  awake : s.thread ≠ .waiting
  inLoop : s.thread ≠ .finished
  notified : s.unnotified = 0

/-- **Whenever the latest arrival is `timeout` old, the watchdog is on its way.** -/
theorem due_of_run (ha : m.Announces) (hq : m.Silent) {l : List (Label α β)} {s : State σ}
    (h : (m.system core now).Run l s) (hl : m.live s.core = true) (harmed : m.armed s.core = true)
    (hstale : m.arrival s.core + m.timeout ≤ s.now) : Due m s where
  live := hl
  armed := harmed
  stale := hstale
  deadline := by
    rintro d (hd | hd)
    · rw [deadline_of_timed h d hd]
      exact hstale
    · exact deadline_le_of_timedOut h d hd
  awake := by
    intro ht
    rw [unarmed_of_waiting ha h ht] at harmed
    cases harmed
  inLoop := by
    intro ht
    rw [dead_of_finished hq h ht] at hl
    cases hl
  notified := unnotified_of_live hq h hl

theorem loopHead_of_due {s : State σ} (h : Due m s) :
    m.loopHead s.core = .timed (m.arrival s.core + m.timeout) := by
  simp [loopHead, h.live, h.armed]

theorem Due.rank_pos {s : State σ} (h : Due m s) : 0 < s.thread.rank := by
  cases hs : s.thread with
  | waiting => exact absurd hs h.awake
  | finished => exact absurd hs h.inLoop
  | _ => simp [Thread.rank]

/-- **Nothing holds the thread up**, whatever the firing is answered. -/
theorem Due.enabled {s : State σ} (h : Due m s) (b : β) :
    ∃ a, Label.owns a = true ∧ (m.next s a).isSome = true ∧ ∀ b', a = .check b' → b' = b := by
  cases hs : s.thread with
  | outside => exact ⟨.enter, rfl, by simp [next, hs], by simp⟩
  | waiting => exact absurd hs h.awake
  | woken | timedWoken d => exact ⟨.resume, rfl, by simp [next, hs], by simp⟩
  | timed d => exact ⟨.expire, rfl, by simp [next, hs, h.deadline d (.inl hs)], by simp⟩
  | timedOut d => exact ⟨.check b, rfl, by simp [next, hs], by simp⟩
  | finished => exact absurd hs h.inLoop

/-- A section that does not feed the watchdog leaves the thread alone. -/
theorem Due.locked (hq : m.Silent) {s : State σ} {c : α} (h : Due m s)
    (hfc : m.feeds c s.core = false) (hl : m.live (m.locked c s.now s.core) = true) :
    Due m (m.afterLocked s c) ∧ (m.afterLocked s c).thread = s.thread := by
  have hnone := hq.quiet c s.now s.core hfc hl
  have hthread : (m.afterLocked s c).thread = s.thread := by simp [afterLocked, hnone]
  have harr : m.arrival (m.afterLocked s c).core = m.arrival s.core := m.arrival_of_idle hfc
  refine ⟨⟨hl, ?_, ?_, ?_, ?_, ?_, ?_⟩, hthread⟩
  · exact (m.armed_of_idle hfc hl).trans h.armed
  · rw [harr]
    exact h.stale
  · rw [hthread]
    exact h.deadline
  · rw [hthread]
    exact h.awake
  · rw [hthread]
    exact h.inLoop
  · simp [afterLocked, hnone, h.notified]

/-- The thread is at the head of its loop, and begins a wait whose deadline is past. -/
theorem Due.loopHead {s : State σ} (h : Due m s) :
    Due m { s with thread := m.loopHead s.core } := by
  have hhead := loopHead_of_due h
  refine ⟨h.live, h.armed, h.stale, ?_, ?_, ?_, h.notified⟩
  · rintro d (hd | hd)
    · rw [hhead] at hd
      obtain rfl := Thread.timed.inj hd
      exact h.stale
    · rw [hhead] at hd
      cases hd
  · rw [hhead]
    simp
  · rw [hhead]
    simp

/-- **One step**: the watchdog fires, or it stays on its way and comes nearer by a step of
its own. -/
theorem Due.step (hq : m.Silent) {s t : State σ} {a : Label α β} (h : Due m s)
    (hn : m.next s a = some t) (hl : m.live t.core = true)
    (hf : ∀ c, a = .locked c → m.feeds c s.core = false) :
    (∃ b d, a = .check b ∧ s.thread = .timedOut d ∧ m.fires s d = true ∧
        t.core = m.fire b s.core) ∨
      Due m t ∧ a.owns.toNat + t.thread.rank ≤ s.thread.rank + a.isSpurious.toNat := by
  cases a with
  | tick e =>
    obtain rfl := Option.some.inj hn
    refine .inr ⟨⟨h.live, h.armed, Nat.le_trans h.stale (Nat.le_add_right _ _), fun d hd =>
      Nat.le_trans (h.deadline d hd) (Nat.le_add_right _ _), h.awake, h.inLoop, h.notified⟩, ?_⟩
    simp [Label.owns, Label.isSpurious]
  | locked c =>
    have hfc := hf c rfl
    simp only [next] at hn
    split at hn
    · cases hn
    · obtain rfl := Option.some.inj hn
      obtain ⟨hdue, hthread⟩ := h.locked hq hfc hl
      refine .inr ⟨hdue, ?_⟩
      simp [hthread, Label.owns, Label.isSpurious]
  | notifyAll => simp [next, h.notified] at hn
  | abandon c =>
    cases hs : s.thread <;> simp only [next, hs, reduceCtorEq] at hn
    split at hn
    · rename_i hown
      obtain rfl := Option.some.inj hn
      rw [show m.live _ = false from hq.ends c s.now s.core hown] at hl
      cases hl
    · cases hn
  | enter | resume =>
    right
    cases hs : s.thread <;> simp only [next, hs, reduceCtorEq, Option.some.injEq] at hn
    all_goals
      subst hn
      refine ⟨h.loopHead, ?_⟩
      rw [loopHead_of_due h]
      simp [Thread.rank, Label.owns, Label.isSpurious]
  | spurious =>
    right
    cases hs : s.thread with
    | waiting => exact absurd hs h.awake
    | timed d =>
      simp only [next, hs, Option.some.injEq] at hn
      subst hn
      refine ⟨⟨h.live, h.armed, h.stale, ?_, by simp, by simp, h.notified⟩, ?_⟩
      · rintro d' (hd | hd) <;> cases hd
      · simp [Thread.rank, Label.owns, Label.isSpurious]
    | _ => simp [next, hs] at hn
  | expire =>
    right
    obtain ⟨d, hs, hd, rfl⟩ := expire_some hn
    refine ⟨⟨h.live, h.armed, h.stale, ?_, by simp, by simp, h.notified⟩, ?_⟩
    · rintro d' (hd' | hd')
      · cases hd'
      · obtain rfl := Thread.timedOut.inj hd'
        exact hd
    · rcases hs with hs | hs <;> simp [hs, Thread.rank, Label.owns, Label.isSpurious]
  | check b =>
    left
    cases hs : s.thread <;> simp only [next, hs, reduceCtorEq, Option.some.injEq] at hn
    rename_i d
    have hfire : m.fires s d = true := by
      simp [fires, h.live, h.armed, h.deadline d (.inr hs)]
    subst hn
    exact ⟨b, d, rfl, rfl, hfire, by simp [afterCheck, hfire]⟩

/-! ### A run -/

/-- No section of the labels `l`, taken from `s`, feeds the watchdog. -/
def Unfed (m : Monitor σ α β) (core : σ) (now : Nat) (s : State σ) (l : List (Label α β)) : Prop :=
  ∀ l₁ c l₂ u, l = l₁ ++ .locked c :: l₂ → (m.system core now).Path s l₁ u →
    m.feeds c u.core = false

theorem Unfed.of_snoc {s : State σ} {l : List (Label α β)} {a : Label α β}
    (h : m.Unfed core now s (l ++ [a])) : m.Unfed core now s l :=
  fun l₁ c l₂ u e hp => h l₁ c (l₂ ++ [a]) u (by rw [e, List.append_assoc, List.cons_append]) hp

/-- **A run from a state in which the watchdog is due.**  Here `R` is what the firing
leaves behind, and what the sections that do not feed the watchdog keep. -/
theorem Due.path (hq : m.Silent) {R : σ → Prop} (hfire : ∀ b s, R (m.fire b s))
    (hidle : ∀ c t s, m.feeds c s = false → m.live (m.locked c t s) = true → R s →
      R (m.locked c t s))
    {s t : State σ} {l : List (Label α β)} (h : Due m s) (hp : (m.system core now).Path s l t)
    (hl : m.live t.core = true) (hf : m.Unfed core now s l) :
    R t.core ∨ Due m t ∧
      l.countP Label.owns + t.thread.rank ≤ s.thread.rank + l.countP Label.isSpurious := by
  induction hp with
  | refl => exact .inr ⟨h, by simp⟩
  | @snoc l t u a hp hn ih =>
    have hfa : ∀ c, a = .locked c → m.feeds c t.core = false := by
      rintro c rfl
      exact hf l c [] t rfl hp
    rcases ih (live_of_next hn hl) hf.of_snoc with hr | ⟨hd, hle⟩
    · left
      rcases core_step hn with hc | ⟨c, rfl | rfl, hc⟩ | ⟨b, d, _, _, _, hc⟩
      · rwa [hc]
      · rw [hc] at hl ⊢
        exact hidle c t.now t.core (hfa c rfl) hl hr
      · -- the thread gives up its loop, and the data are not live any more
        cases hs : t.thread <;> simp only [system, next, hs, reduceCtorEq] at hn
        split at hn
        · rename_i hown
          rw [hc, hq.ends c t.now t.core hown] at hl
          cases hl
        · cases hn
      · rw [hc]
        exact hfire b t.core
    · rcases hd.step hq hn hl hfa with ⟨b, d, _, _, _, hc⟩ | ⟨hd', hle'⟩
      · left
        rw [hc]
        exact hfire b t.core
      · right
        refine ⟨hd', ?_⟩
        rw [List.countP_append, List.countP_append, List.countP_singleton, List.countP_singleton]
        cases ho : a.owns <;> cases hsp : a.isSpurious <;>
          simp only [ho, hsp, Bool.toNat_true, Bool.toNat_false] at hle' <;> simp <;> omega

/-- **What a watchdog answers with**, in every state of every run in which the data are
live and armed and the latest arrival is `timeout` old: its thread can take a step of its
own, and on every way on that does not feed it and leaves the data live, three such steps,
and one more for each spurious wake-up, are enough to reach `R`. -/
def Responds (m : Monitor σ α β) (core : σ) (now : Nat) (R : σ → Prop) : Prop :=
  ∀ l s, (m.system core now).Run l s → m.live s.core = true → m.armed s.core = true →
    m.arrival s.core + m.timeout ≤ s.now →
    (∀ b, ∃ a, Label.owns a = true ∧ (m.next s a).isSome = true ∧ ∀ b', a = .check b' → b' = b) ∧
      ∀ l' t, (m.system core now).Path s l' t → m.live t.core = true →
        m.Unfed core now s l' → 3 + l'.countP Label.isSpurious ≤ l'.countP Label.owns → R t.core

/-- **A watchdog that is let run fires.** -/
theorem responds (ha : m.Announces) (hq : m.Silent) {R : σ → Prop}
    (hfire : ∀ b s, R (m.fire b s))
    (hidle : ∀ c t s, m.feeds c s = false → m.live (m.locked c t s) = true → R s →
      R (m.locked c t s)) : m.Responds core now R := by
  intro l s h hl harmed hstale
  have hd := due_of_run ha hq h hl harmed hstale
  refine ⟨hd.enabled, fun l' t hp hl' hf howns => ?_⟩
  rcases hd.path hq hfire hidle hp hl' hf with hr | ⟨hd', hle⟩
  · exact hr
  · have hpos := hd'.rank_pos
    have hrank : s.thread.rank ≤ 3 := by cases s.thread <;> simp [Thread.rank]
    omega

end Monitor

end Lib
