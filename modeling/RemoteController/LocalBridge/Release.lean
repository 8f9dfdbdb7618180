import RemoteController.LocalBridge.State

/-!
# The local bridge releases on every exit

`OnState` tests the state, submits outside `mutex_` and tests again, so a pressed
button can reach the driver after `Stop()` or a fault has changed the state.  What
makes up for it is the order of `Close`, neutral report and `Destroy` on each way
out.

* `Resting`: no callback and no `Start()` or `Stop()` is in progress.
* `Inv`: what holds in between, thread by thread.
* `releases_on_exit`: what a resting bridge shows, and that a bridge that has left
  `kRunning` submits nothing but neutral reports from then on.
-/

namespace RemoteController

open Lib Protocol

/-- `Close()` of `Stop()` has returned. -/
def BridgeStop.joined : BridgeStop → Bool
  | .idle | .closing => false
  | _ => true

namespace BridgeSide

/-- The driver takes every neutral report, and `Stop()` is called once `Start()` has
returned. -/
def StoppedAfterStart (s : BridgeSide) : BridgeLabel → Prop
  | .startReleases neutralOk | .stopReleases neutralOk | .pollReleases neutralOk =>
    neutralOk = true
  | .stop => s.start.hasReturned = true
  | _ => True

instance (s : BridgeSide) : ∀ a : BridgeLabel, Decidable (StoppedAfterStart s a)
  | .startReleases neutralOk | .stopReleases neutralOk | .pollReleases neutralOk =>
    inferInstanceAs (Decidable (neutralOk = true))
  | .stop => inferInstanceAs (Decidable (s.start.hasReturned = true))
  | .startChecks | .create _ | .startFailed | .startRunning | .openDevice _ | .openFailed
  | .startDestroys | .stopCloses | .stopDestroys | .onState _ | .submitState _
  | .onStateRefused | .onStateAccepted _ | .onDisconnected | .onRumble _ => .isTrue trivial

/-- No callback and no `Start()` or `Stop()` is in progress. -/
structure Resting (s : BridgeSide) : Prop where
  start : s.start.hasReturned = true
  stop : s.stop = .idle ∨ s.stop = .returned
  poll : s.poll = .idle

/-- The driver shows the neutral report, or the target is gone. -/
def Neutral (s : BridgeSide) : Prop :=
  s.virtual.lastReport = .neutral ∨ s.virtual.created = false

/-! ### The invariant -/

/-- What a running bridge owes: its snapshot is what the driver took last, but for
the callback under way. -/
def Shows (s : BridgeSide) : Prop :=
  match s.poll with
  | .accepted report => s.virtual.lastReport = report
  | .releasing => False
  | _ => s.core.currentState = s.virtual.lastReport

/-- What a bridge owes that has left `kRunning` or was never there: who neutralizes
the driver, if it is not neutral. -/
def Releases (s : BridgeSide) : Prop :=
  match s.stop with
  | .idle => s.poll = .releasing ∨ s.poll = .idle ∧ (s.start = .releasing ∨ s.Neutral)
  | .closing | .releasing => True
  | .destroying | .returned => s.Neutral

/-- How far `Start()` is. -/
def Begun (s : BridgeSide) : Prop :=
  match s.start with
  | .checking | .creating | .createFailed => s.core.state = .created
  | .created =>
    s.core.state = .created ∧ s.virtual.created = true ∧ s.virtual.lastReport = .neutral
  | .opening | .openFailed => s.core.state = .running
  | .releasing | .destroying => s.core.state ≠ .running
  | .returned _ => True

structure Inv (s : BridgeSide) : Prop where
  closed : s.isOpen = false → s.poll = .idle
  opened : s.isOpen = true → s.start.hasReturned = true
  fresh : s.stop = .idle → s.core.state ≠ .stopped
  stopped : s.stop ≠ .idle → s.core.state = .stopped ∧ s.start.hasReturned = true
  joined : s.stop.joined = true → s.isOpen = false
  begun : s.Begun
  current : s.core.state ≠ .running → s.core.currentState = .neutral
  created : s.core.state = .running → s.virtual.created = true
  shows : s.core.state = .running → s.Shows
  releases : s.core.state ≠ .running → s.Releases

/-- Before `Start()` returns, nobody else has started, if the device is opened and
`Stop()` is called behind it. -/
theorem alone_of_starting {s : BridgeSide} (h : s.start.hasReturned = false)
    (opened : s.isOpen = true → s.start.hasReturned = true)
    (stopped : s.stop ≠ .idle → s.start.hasReturned = true)
    (closed : s.isOpen = false → s.poll = .idle) :
    s.isOpen = false ∧ s.poll = .idle ∧ s.stop = .idle := by
  have ho : s.isOpen = false := by
    by_contra ho
    rw [opened (by simpa using ho)] at h
    cases h
  refine ⟨ho, closed ho, ?_⟩
  by_contra hs
  rw [stopped hs] at h
  cases h

theorem Inv.alone {s : BridgeSide} (hi : Inv s) (h : s.start.hasReturned = false) :
    s.isOpen = false ∧ s.poll = .idle ∧ s.stop = .idle :=
  alone_of_starting h hi.opened (fun hs => (hi.stopped hs).2) hi.closed

/-- While the poll thread is in its callback, `Start()` has returned and `Stop()` is
not past its `Close()`. -/
theorem Inv.polling {s : BridgeSide} (hi : Inv s) (h : s.poll ≠ .idle) :
    s.isOpen = true ∧ s.start.hasReturned = true ∧ s.stop.joined = false := by
  have ho : s.isOpen = true := by
    by_contra ho
    exact h (hi.closed (by simpa using ho))
  refine ⟨ho, hi.opened ho, ?_⟩
  by_contra hj
  rw [hi.joined (by simpa using hj)] at ho
  cases ho

theorem inv_init : Inv {} where
  closed := fun _ => rfl
  opened := fun h => by cases h
  fresh := fun _ h => by cases h
  stopped := fun h => absurd rfl h
  joined := fun h => by cases h
  begun := rfl
  current := fun _ => rfl
  created := fun h => by cases h
  shows := fun h => by cases h
  releases := fun _ => Or.inr ⟨rfl, Or.inr (Or.inl rfl)⟩

/-- A neutral report the driver takes. -/
theorem neutral_release (s : BridgeSide) : (s.release true).Neutral := by
  by_cases hc : s.virtual.created = true
  · exact Or.inl (VirtualController.submitNeutralState_lastReport hc)
  · right
    simpa [release] using hc

/-! ### The steps of `Start()` -/

/-- Nobody but `Start()` has started. -/
theorem inv_alone {t : BridgeSide} (ho : t.isOpen = false) (hp : t.poll = .idle)
    (hs : t.stop = .idle) (hfresh : t.core.state ≠ .stopped) (hbegun : t.Begun)
    (hrunning : t.core.state = .running →
      t.virtual.created = true ∧ t.core.currentState = t.virtual.lastReport)
    (hleft : t.core.state ≠ .running →
      t.core.currentState = .neutral ∧ (t.start = .releasing ∨ t.Neutral)) : Inv t where
  closed := fun _ => hp
  opened := fun h => by rw [ho] at h; cases h
  fresh := fun _ => hfresh
  stopped := fun h => absurd hs h
  joined := fun _ => ho
  begun := hbegun
  current := fun h => (hleft h).1
  created := fun h => (hrunning h).1
  shows := fun h => by rw [Shows, hp]; exact (hrunning h).2
  releases := fun h => by rw [Releases, hs]; exact Or.inr ⟨hp, (hleft h).2⟩

/-- What `Start()` finds. -/
theorem Inv.starting {s : BridgeSide} (hi : Inv s) (h : s.start.hasReturned = false) :
    (s.core.state = .running →
      s.virtual.created = true ∧ s.core.currentState = s.virtual.lastReport) ∧
    (s.core.state ≠ .running →
      s.core.currentState = .neutral ∧ (s.start = .releasing ∨ s.Neutral)) := by
  obtain ⟨_, hp, hs⟩ := hi.alone h
  refine ⟨fun hr => ⟨hi.created hr, ?_⟩, fun hr => ⟨hi.current hr, ?_⟩⟩
  · have := hi.shows hr
    rwa [Shows, hp] at this
  · have := hi.releases hr
    rw [Releases, hs] at this
    rcases this with hpoll | ⟨_, hn⟩
    · rw [hp] at hpoll; cases hpoll
    · exact hn

/-- `Start()` moves only before it returns. -/
theorem starting_of_step {s t : BridgeSide} {a : BridgeLabel} (ha : a.thread = .start)
    (h : s.step a = some t) : s.start.hasReturned = false := by
  cases a with
  | startChecks | create | startFailed | startRunning | openDevice | openFailed | startReleases
    | startDestroys =>
    simp only [step, Option.ite_none_right_eq_some] at h
    rw [h.1]
    rfl
  | stop | stopCloses | stopReleases | stopDestroys | onState | submitState | onStateRefused
    | onStateAccepted | onDisconnected | pollReleases | onRumble => cases ha

theorem inv_start {s t : BridgeSide} {a : BridgeLabel} (hi : Inv s) (hok : StoppedAfterStart s a)
    (ha : a.thread = .start) (h : s.step a = some t) : Inv t := by
  have hret := starting_of_step ha h
  obtain ⟨ho, hp, hs⟩ := hi.alone hret
  obtain ⟨hrunning, hleft⟩ := hi.starting hret
  have hfresh := hi.fresh hs
  have hbegun := hi.begun
  cases a with
  | startChecks =>
    simp only [step, Option.ite_none_right_eq_some, Option.some.injEq] at h
    obtain ⟨hst, rfl⟩ := h
    rw [Begun, hst] at hbegun
    refine inv_alone ho hp hs hfresh ?_ hrunning fun hr => ⟨(hleft hr).1, Or.inr ?_⟩
    · simp [Begun, LocalControllerBridge.mayStart, hbegun]
    · exact (hleft hr).2.resolve_left (by rw [hst]; decide)
  | create ok =>
    simp only [step, Option.ite_none_right_eq_some, Option.some.injEq] at h
    obtain ⟨hst, rfl⟩ := h
    rw [Begun, hst] at hbegun
    have hr : s.core.state ≠ .running := by rw [hbegun]; decide
    have hneutral := (hleft hr).2.resolve_left (by rw [hst]; decide)
    rcases VirtualController.create_cases s.virtual ok with ⟨h2, h1⟩ | ⟨h2, h1⟩ <;> rw [h1, h2]
    · exact inv_alone ho hp hs hfresh ⟨hbegun, rfl, rfl⟩ (fun e => absurd e hr)
        fun _ => ⟨(hleft hr).1, Or.inr (Or.inl rfl)⟩
    · exact inv_alone ho hp hs hfresh hbegun (fun e => absurd e hr)
        fun _ => ⟨(hleft hr).1, Or.inr hneutral⟩
  | startFailed =>
    simp only [step, Option.ite_none_right_eq_some, Option.some.injEq] at h
    obtain ⟨hst, rfl⟩ := h
    rw [Begun, hst] at hbegun
    have hr : s.core.state ≠ .running := by rw [hbegun]; decide
    have hneutral := (hleft hr).2.resolve_left (by rw [hst]; decide)
    exact inv_alone ho hp hs (fun e => by cases e) trivial (fun e => by cases e)
      fun _ => ⟨(hleft hr).1, Or.inr hneutral⟩
  | startRunning =>
    simp only [step, Option.ite_none_right_eq_some, Option.some.injEq] at h
    obtain ⟨hst, rfl⟩ := h
    rw [Begun, hst] at hbegun
    have hr : s.core.state ≠ .running := by rw [hbegun.1]; decide
    refine inv_alone ho hp hs (fun e => by cases e) rfl (fun _ => ⟨hbegun.2.1, ?_⟩)
      fun e => absurd rfl e
    exact (hleft hr).1.trans hbegun.2.2.symm
  | openDevice ok =>
    simp only [step, Option.ite_none_right_eq_some] at h
    obtain ⟨hst, h⟩ := h
    rw [Begun, hst] at hbegun
    split at h <;> obtain rfl := Option.some.inj h
    · -- the poll thread starts
      exact ⟨fun _ => hp, fun _ => rfl, fun _ => hfresh, fun e => absurd hs e,
        fun e => (by rw [hs] at e; cases e), trivial, fun e => absurd hbegun e, hi.created,
        hi.shows, fun e => absurd hbegun e⟩
    · exact inv_alone ho hp hs hfresh hbegun hrunning fun e => absurd hbegun e
  | openFailed =>
    simp only [step, Option.ite_none_right_eq_some, Option.some.injEq] at h
    obtain ⟨hst, rfl⟩ := h
    exact inv_alone ho hp hs (fun e => by cases e) (fun e => by cases e) (fun e => by cases e)
      fun _ => ⟨rfl, Or.inl rfl⟩
  | startReleases ok =>
    simp only [step, Option.ite_none_right_eq_some, Option.some.injEq] at h
    obtain ⟨hst, rfl⟩ := h
    rw [Begun, hst] at hbegun
    obtain rfl : ok = true := hok
    exact inv_alone ho hp hs hfresh hbegun (fun e => absurd e hbegun)
      fun _ => ⟨(hleft hbegun).1, Or.inr (neutral_release s)⟩
  | startDestroys =>
    simp only [step, Option.ite_none_right_eq_some, Option.some.injEq] at h
    obtain ⟨hst, rfl⟩ := h
    rw [Begun, hst] at hbegun
    exact inv_alone ho hp hs hfresh trivial (fun e => absurd e hbegun)
      fun _ => ⟨(hleft hbegun).1, Or.inr (Or.inr rfl)⟩
  | stop | stopCloses | stopReleases | stopDestroys | onState | submitState | onStateRefused
    | onStateAccepted | onDisconnected | pollReleases | onRumble => cases ha

/-! ### The steps of the poll thread -/

theorem begun_of_returned {s : BridgeSide} (h : s.start.hasReturned = true) : s.Begun := by
  cases hs : s.start with
  | returned r => rw [Begun, hs]; trivial
  | checking | creating | createFailed | created | opening | openFailed | releasing
    | destroying =>
    rw [hs] at h
    cases h

/-- While the device is open, `Stop()` is not past its `Close()`. -/
theorem Inv.stop_of_open {s : BridgeSide} (hi : Inv s) (h : s.isOpen = true) :
    s.stop = .idle ∨ s.stop = .closing := by
  cases hs : s.stop with
  | idle => exact Or.inl rfl
  | closing => exact Or.inr rfl
  | releasing | destroying | returned =>
    rw [hi.joined (by rw [hs]; rfl)] at h
    cases h

/-- The poll thread moves. -/
theorem inv_polling {s t : BridgeSide} (hi : Inv s) (hopen : s.isOpen = true)
    (ho : t.isOpen = s.isOpen) (hstart : t.start = s.start) (hstop : t.stop = s.stop)
    (hc : t.virtual.created = s.virtual.created)
    (hstopped : t.core.state = .stopped ↔ s.core.state = .stopped)
    (hrunning : t.core.state = .running → s.core.state = .running ∧ t.Shows)
    (hleft : t.core.state ≠ .running → t.core.currentState = .neutral ∧
      (s.stop = .idle → t.poll = .releasing ∨ t.poll = .idle ∧ t.Neutral)) : Inv t where
  closed := fun e => by rw [ho, hopen] at e; cases e
  opened := fun _ => by rw [hstart]; exact hi.opened hopen
  fresh := fun e h => hi.fresh (hstop ▸ e) (hstopped.mp h)
  stopped := fun e => by
    rw [hstop] at e
    rw [hstopped, hstart]
    exact hi.stopped e
  joined := fun e => by rw [ho]; exact hi.joined (hstop ▸ e)
  begun := begun_of_returned (by rw [hstart]; exact hi.opened hopen)
  current := fun e => (hleft e).1
  created := fun e => by rw [hc]; exact hi.created (hrunning e).1
  shows := fun e => (hrunning e).2
  releases := fun e => by
    rcases hi.stop_of_open hopen with hs | hs
    · rw [Releases, hstop, hs]
      exact ((hleft e).2 hs).imp_right fun h => ⟨h.1, Or.inr h.2⟩
    · rw [Releases, hstop, hs]
      trivial

/-- A bridge in the middle of a callback, with no `Stop()` to end it, is running. -/
theorem Inv.running_of_poll {s : BridgeSide} (hi : Inv s) (hs : s.stop = .idle)
    (h1 : s.poll ≠ .idle) (h2 : s.poll ≠ .releasing) : s.core.state = .running := by
  by_contra hr
  have := hi.releases hr
  rw [Releases, hs] at this
  rcases this with h | h
  · exact h2 h
  · exact h1 h.1

/-- A callback that finds the bridge running and ends that. -/
theorem Inv.leaves {s : BridgeSide} {core : LocalControllerBridge} (hi : Inv s)
    (hopen : s.isOpen = true) (hr : s.core.state = .running) (h1 : core.state ≠ .running)
    (h2 : core.state ≠ .stopped) (hc : core.currentState = .neutral) :
    Inv { s with core := core, poll := .releasing } :=
  inv_polling hi hopen rfl rfl rfl rfl (iff_of_false h2 (by simp [hr])) (fun e => absurd e h1)
    fun _ => ⟨hc, fun _ => Or.inl rfl⟩

/-- The first test of `OnState`. -/
theorem Inv.onState {s : BridgeSide} (state : GamepadStateV1) (hi : Inv s)
    (hopen : s.isOpen = true) (hp : s.poll = .idle) :
    Inv { s with poll := if s.core.onState then .submitting state else .idle } := by
  by_cases hr : s.core.state = .running
  · have hshows := hi.shows hr
    rw [Shows, hp] at hshows
    refine inv_polling hi hopen rfl rfl rfl rfl Iff.rfl (fun _ => ⟨hr, ?_⟩) fun e => absurd hr e
    simp only [LocalControllerBridge.onState, hr, beq_self_eq_true, if_true, Shows]
    exact hshows
  · have hidle : (if s.core.onState then BridgePoll.submitting state else .idle) = s.poll := by
      rw [hp, LocalControllerBridge.onState, beq_eq_false_iff_ne.mpr hr]
      rfl
    rw [hidle]
    exact hi

/-- The report goes to the driver outside `mutex_`. -/
theorem Inv.submitState {s : BridgeSide} {report : GamepadStateV1} (ok : Bool) (hi : Inv s)
    (hp : s.poll = .submitting report) :
    Inv { s with
      virtual := (s.virtual.submitState report ok).1
      submitted := s.submitted ++ [report]
      poll := if (s.virtual.submitState report ok).2 then .accepted report else .refused } := by
  obtain ⟨hopen, _, _⟩ := hi.polling (by rw [hp]; exact fun e => by cases e)
  refine inv_polling hi hopen rfl rfl rfl (VirtualController.submitState_created _ _ _) Iff.rfl
    (fun hr => ⟨hr, ?_⟩) fun hr => ⟨hi.current hr, fun hs => ?_⟩
  · have hshows := hi.shows hr
    rw [Shows, hp] at hshows
    rcases VirtualController.submitState_cases s.virtual report ok with ⟨h2, h1⟩ | ⟨h2, h1⟩ <;>
      rw [h1, h2]
    · exact rfl
    · exact hshows
  · exact absurd (hi.running_of_poll hs (by rw [hp]; exact fun e => by cases e)
      (by rw [hp]; exact fun e => by cases e)) hr

/-- The second test of `OnState`, of a report the driver refused. -/
theorem Inv.onStateRefused {s : BridgeSide} (hi : Inv s) (hp : s.poll = .refused) :
    Inv { s with core := s.core.onStateRefused, poll := .releasing } := by
  obtain ⟨hopen, _, _⟩ := hi.polling (by rw [hp]; decide)
  rw [LocalControllerBridge.onStateRefused]
  split
  · rename_i hr
    exact hi.leaves hopen hr (fun e => by cases e) (fun e => by cases e) rfl
  · rename_i hr
    exact inv_polling hi hopen rfl rfl rfl rfl Iff.rfl (fun e => absurd e hr)
      fun e => ⟨hi.current e, fun _ => Or.inl rfl⟩

/-- The second test of `OnState`, of a report the driver took. -/
theorem Inv.onStateAccepted {s : BridgeSide} {report : GamepadStateV1} (timestampUs : UInt64)
    (hi : Inv s) (hp : s.poll = .accepted report) :
    Inv { s with core := s.core.onStateAccepted report timestampUs, poll := .idle } := by
  obtain ⟨hopen, _, _⟩ := hi.polling (by rw [hp]; exact fun e => by cases e)
  rw [LocalControllerBridge.onStateAccepted]
  split
  · rename_i hr
    have hshows := hi.shows hr
    rw [Shows, hp] at hshows
    exact inv_polling hi hopen rfl rfl rfl rfl Iff.rfl (fun _ => ⟨hr, hshows.symm⟩)
      fun e => absurd hr e
  · rename_i hr
    refine inv_polling hi hopen rfl rfl rfl rfl Iff.rfl (fun e => absurd e hr)
      fun e => ⟨hi.current e, fun hs => ?_⟩
    exact absurd (hi.running_of_poll hs (by rw [hp]; exact fun e => by cases e)
      (by rw [hp]; exact fun e => by cases e)) hr

theorem Inv.onDisconnected {s : BridgeSide} (hi : Inv s) (hopen : s.isOpen = true)
    (hp : s.poll = .idle) :
    Inv { s with
      core := s.core.onDisconnected.1
      poll := if s.core.onDisconnected.2 then .releasing else .idle } := by
  rw [LocalControllerBridge.onDisconnected]
  split
  · have hsame : { s with core := s.core, poll := .idle } = s := by rw [← hp]
    exact hsame ▸ hi
  · rename_i hr
    exact hi.leaves hopen (not_not.mp hr) (fun e => by cases e) (fun e => by cases e) rfl

/-- The callback's own neutral report, which the driver takes. -/
theorem Inv.pollReleases {s : BridgeSide} (hi : Inv s) (hp : s.poll = .releasing) :
    Inv { s.release true with poll := .idle } := by
  obtain ⟨hopen, _, _⟩ := hi.polling (by rw [hp]; decide)
  have hr : s.core.state ≠ .running := fun e => by
    have := hi.shows e
    rw [Shows, hp] at this
    exact this
  exact inv_polling hi hopen rfl rfl rfl (VirtualController.submitNeutralState_created _ _)
    Iff.rfl (fun e => absurd e hr) fun e => ⟨hi.current e, fun _ => Or.inr ⟨rfl, neutral_release s⟩⟩

theorem inv_poll {s t : BridgeSide} {a : BridgeLabel} (hi : Inv s) (hok : StoppedAfterStart s a)
    (ha : a.thread = .poll) (h : s.step a = some t) : Inv t := by
  cases a with
  | onState state =>
    simp only [step, Option.ite_none_right_eq_some, Option.some.injEq] at h
    obtain ⟨⟨hopen, hp⟩, rfl⟩ := h
    exact hi.onState state hopen hp
  | submitState ok =>
    simp only [step] at h
    split at h
    · rename_i report hp
      obtain rfl := Option.some.inj h
      exact hi.submitState ok hp
    · cases h
  | onStateRefused =>
    simp only [step, Option.ite_none_right_eq_some, Option.some.injEq] at h
    obtain ⟨hp, rfl⟩ := h
    exact hi.onStateRefused hp
  | onStateAccepted timestampUs =>
    simp only [step] at h
    split at h
    · rename_i report hp
      obtain rfl := Option.some.inj h
      exact hi.onStateAccepted timestampUs hp
    · cases h
  | onDisconnected =>
    simp only [step, Option.ite_none_right_eq_some, Option.some.injEq] at h
    obtain ⟨⟨hopen, hp⟩, rfl⟩ := h
    exact hi.onDisconnected hopen hp
  | pollReleases ok =>
    simp only [step, Option.ite_none_right_eq_some, Option.some.injEq] at h
    obtain ⟨hp, rfl⟩ := h
    obtain rfl : ok = true := hok
    exact hi.pollReleases hp
  | startChecks | create | startFailed | startRunning | openDevice | openFailed | startReleases
    | startDestroys | stop | stopCloses | stopReleases | stopDestroys | onRumble => cases ha

/-! ### The steps of `Stop()` -/

theorem inv_stop {s t : BridgeSide} {a : BridgeLabel} (hi : Inv s) (hok : StoppedAfterStart s a)
    (ha : a.thread = .stop) (h : s.step a = some t) : Inv t := by
  cases a with
  | stop =>
    simp only [step, Option.ite_none_right_eq_some] at h
    obtain ⟨hs, h⟩ := h
    have hlocked : s.core.stopLocked =
        some { s.core with state := .stopped, currentState := {} } := by
      rw [LocalControllerBridge.stopLocked, if_neg (hi.fresh hs)]
    rw [hlocked] at h
    obtain rfl := Option.some.inj h
    exact ⟨hi.closed, hi.opened, fun e => (by cases e), fun _ => ⟨rfl, hok⟩, fun e => (by cases e),
      begun_of_returned hok, fun _ => rfl, fun e => (by cases e), fun e => (by cases e),
      fun _ => trivial⟩
  | stopCloses =>
    simp only [step, Option.ite_none_right_eq_some, Option.some.injEq] at h
    obtain ⟨⟨hs, hp⟩, rfl⟩ := h
    have hst := hi.stopped (by rw [hs]; decide)
    have hr : s.core.state ≠ .running := by rw [hst.1]; decide
    exact ⟨fun _ => hp, fun e => (by cases e), fun e => (by cases e), fun _ => hst, fun _ => rfl,
      begun_of_returned hst.2, hi.current, fun e => absurd e hr, fun e => absurd e hr,
      fun _ => trivial⟩
  | stopReleases ok =>
    simp only [step, Option.ite_none_right_eq_some, Option.some.injEq] at h
    obtain ⟨hs, rfl⟩ := h
    obtain rfl : ok = true := hok
    have hst := hi.stopped (by rw [hs]; decide)
    have hr : s.core.state ≠ .running := by rw [hst.1]; decide
    exact ⟨hi.closed, hi.opened, fun e => (by cases e), fun _ => hst,
      fun _ => hi.joined (by rw [hs]; rfl), begun_of_returned hst.2, hi.current,
      fun e => absurd e hr, fun e => absurd e hr, fun _ => neutral_release s⟩
  | stopDestroys =>
    simp only [step, Option.ite_none_right_eq_some, Option.some.injEq] at h
    obtain ⟨hs, rfl⟩ := h
    have hst := hi.stopped (by rw [hs]; decide)
    have hr : s.core.state ≠ .running := by rw [hst.1]; decide
    exact ⟨hi.closed, hi.opened, fun e => (by cases e), fun _ => hst,
      fun _ => hi.joined (by rw [hs]; rfl), begun_of_returned hst.2, hi.current,
      fun e => absurd e hr, fun e => absurd e hr, fun _ => Or.inr rfl⟩
  | startChecks | create | startFailed | startRunning | openDevice | openFailed | startReleases
    | startDestroys | onState | submitState | onStateRefused | onStateAccepted | onDisconnected
    | pollReleases | onRumble => cases ha

/-! ### Runs -/

theorem inv_onRumble {s : BridgeSide} (hi : Inv s) (command : RumbleCommand) :
    Inv { s with core := (s.core.onRumble command).1 } where
  closed := hi.closed
  opened := hi.opened
  fresh := by simpa using hi.fresh
  stopped := by simpa using hi.stopped
  joined := hi.joined
  begun := by simpa [Begun] using hi.begun
  current := by simpa using hi.current
  created := by simpa using hi.created
  shows := by simpa [Shows] using hi.shows
  releases := by simpa [Releases, Neutral] using hi.releases

theorem inv_step {s t : BridgeSide} {a : BridgeLabel} (hi : Inv s) (hok : StoppedAfterStart s a)
    (h : s.step a = some t) : Inv t := by
  cases ha : a.thread with
  | start => exact inv_start hi hok ha h
  | stop => exact inv_stop hi hok ha h
  | poll => exact inv_poll hi hok ha h
  | notification =>
    cases a with
    | onRumble command => exact Option.some.inj h ▸ inv_onRumble hi command
    | startChecks | create | startFailed | startRunning | openDevice | openFailed | startReleases
      | startDestroys | stop | stopCloses | stopReleases | stopDestroys | onState | submitState
      | onStateRefused | onStateAccepted | onDisconnected | pollReleases => cases ha

theorem inv_run {l : List BridgeLabel} {s : BridgeSide}
    (h : system.RunWith StoppedAfterStart l s) : Inv s :=
  h.invariant (P := fun _ s => Inv s) inv_init fun _ _ _ _ _ hi hok hn => inv_step hi hok hn

/-! ### After the exit -/

/-- The bridge has left `kRunning`, and no callback is under way. -/
structure Quiet (s : BridgeSide) : Prop where
  start : s.start.hasReturned = true
  state : s.core.state ≠ .running
  poll : s.poll = .idle

/-- The reports that the step submits are neutral. -/
def SubmitsNeutral (s t : BridgeSide) : Prop :=
  ∃ reports, t.submitted = s.submitted ++ reports ∧ ∀ report ∈ reports, report = .neutral

theorem submitsNeutral_same {s t : BridgeSide} (h : t.submitted = s.submitted) :
    SubmitsNeutral s t := ⟨[], by rw [h, List.append_nil], fun _ hr => by cases hr⟩

theorem submitsNeutral_one {s t : BridgeSide} (h : t.submitted = s.submitted ++ [.neutral]) :
    SubmitsNeutral s t := ⟨_, h, fun _ hr => List.mem_singleton.mp hr⟩

/-- **A quiet bridge stays quiet**, and submits nothing but neutral reports. -/
theorem Quiet.step {s t : BridgeSide} {a : BridgeLabel} (hq : Quiet s) (h : s.step a = some t) :
    Quiet t ∧ SubmitsNeutral s t := by
  have hret := hq.start
  cases a with
  | startChecks | create | startFailed | startRunning | openDevice | openFailed | startReleases
    | startDestroys =>
    rw [starting_of_step rfl h] at hret
    cases hret
  | stop =>
    simp only [BridgeSide.step, Option.ite_none_right_eq_some] at h
    obtain ⟨_, h⟩ := h
    split at h
    · obtain rfl := Option.some.inj h
      exact ⟨⟨hq.start, hq.state, hq.poll⟩, submitsNeutral_same rfl⟩
    · rename_i core hc
      obtain rfl := Option.some.inj h
      rw [LocalControllerBridge.stopLocked] at hc
      split at hc
      · cases hc
      · obtain rfl := Option.some.inj hc
        exact ⟨⟨hq.start, fun e => (by cases e), hq.poll⟩, submitsNeutral_same rfl⟩
  | stopCloses | stopDestroys =>
    simp only [BridgeSide.step, Option.ite_none_right_eq_some, Option.some.injEq] at h
    obtain ⟨_, rfl⟩ := h
    exact ⟨⟨hq.start, hq.state, hq.poll⟩, submitsNeutral_same rfl⟩
  | stopReleases =>
    simp only [BridgeSide.step, Option.ite_none_right_eq_some, Option.some.injEq] at h
    obtain ⟨_, rfl⟩ := h
    exact ⟨⟨hq.start, hq.state, hq.poll⟩, submitsNeutral_one rfl⟩
  | onState state =>
    simp only [BridgeSide.step, Option.ite_none_right_eq_some, Option.some.injEq] at h
    obtain ⟨_, rfl⟩ := h
    refine ⟨⟨hq.start, hq.state, ?_⟩, submitsNeutral_same rfl⟩
    simp only [LocalControllerBridge.onState, beq_eq_false_iff_ne.mpr hq.state,
      Bool.false_eq_true, if_false]
  | onDisconnected =>
    simp only [BridgeSide.step, Option.ite_none_right_eq_some, Option.some.injEq] at h
    obtain ⟨_, rfl⟩ := h
    have he : s.core.onDisconnected = (s.core, false) := by
      rw [LocalControllerBridge.onDisconnected, if_pos hq.state]
    rw [he]
    exact ⟨⟨hq.start, hq.state, rfl⟩, submitsNeutral_same rfl⟩
  | submitState | onStateRefused | onStateAccepted | pollReleases =>
    simp [BridgeSide.step, hq.poll] at h
  | onRumble command =>
    obtain rfl := Option.some.inj h
    exact ⟨⟨hq.start, by simpa using hq.state, hq.poll⟩, submitsNeutral_same rfl⟩

theorem Quiet.path {s t : BridgeSide} {l : List BridgeLabel} (hq : Quiet s)
    (h : system.Path s l t) : Quiet t ∧ SubmitsNeutral s t := by
  induction h with
  | refl => exact ⟨hq, submitsNeutral_same rfl⟩
  | snoc _ hn ih =>
    obtain ⟨hq', reports, he, hall⟩ := ih
    obtain ⟨hq'', more, he', hmore⟩ := Quiet.step hq' hn
    refine ⟨hq'', reports ++ more, by rw [he', he, List.append_assoc], fun report hr => ?_⟩
    rcases List.mem_append.mp hr with hr | hr
    · exact hall report hr
    · exact hmore report hr

/-- What a resting bridge shows. -/
structure ReleasedOnExit (s : BridgeSide) : Prop where
  running : s.core.state = .running → s.core.currentState = s.virtual.lastReport
  current : s.core.state ≠ .running → s.core.currentState = .neutral
  driver : s.core.state ≠ .running → s.Neutral
  later : s.core.state ≠ .running → ∀ l t, system.Path s l t → SubmitsNeutral s t

/-- **The bridge releases on every exit**: by `Stop()`, by a disconnected device, by a
driver that refuses a report, or by a `Start()` that fails. -/
theorem releases_on_exit {l : List BridgeLabel} {s : BridgeSide}
    (h : system.RunWith StoppedAfterStart l s) (hr : Resting s) : ReleasedOnExit s where
  running := fun hrun => by
    have := (inv_run h).shows hrun
    rwa [Shows, hr.poll] at this
  current := (inv_run h).current
  driver := fun hleft => by
    have hreleases := (inv_run h).releases hleft
    rcases hr.stop with hs | hs
    · rw [Releases, hs] at hreleases
      rcases hreleases with hp | ⟨_, hst | hn⟩
      · rw [hr.poll] at hp; cases hp
      · have := hr.start
        rw [hst] at this
        cases this
      · exact hn
    · rw [Releases, hs] at hreleases
      exact hreleases
  later := fun hleft _ _ hp => (Quiet.path ⟨hr.start, hleft, hr.poll⟩ hp).2

/-- A second press is past its test when `Stop()` takes `mutex_`. -/
def pressedWhileStopping : List BridgeLabel :=
  [.startChecks, .create true, .startRunning, .openDevice true,
    .onState { buttonFlags := 0x1000 }, .submitState true, .onStateAccepted 10,
    .onState { buttonFlags := 0x2000 }, .stop, .submitState true, .onStateAccepted 20,
    .stopCloses, .stopReleases true, .stopDestroys]

theorem releases_on_exit_stopped : ∃ s,
    system.RunWith StoppedAfterStart pressedWhileStopping s ∧ s.core.state = .stopped ∧
      s.submitted = [{ buttonFlags := 0x1000 }, { buttonFlags := 0x2000 }, .neutral] ∧
      ReleasedOnExit s :=
  have h : system.RunWith StoppedAfterStart pressedWhileStopping _ := System.runWith_of_exec rfl
  ⟨_, h, rfl, rfl, releases_on_exit h ⟨rfl, Or.inr rfl, rfl⟩⟩

end BridgeSide

end RemoteController
