import RemoteController.LanServer.State

/-!
# Safe release

A button the server holds down on the PC must not outlive the input that pressed
it.  `SafeRelease` says so for one state of `LanControllerServer`: the driver
shows what the server thinks it shows, a pressed control is watched, and the
number of forced releases is bounded by the number of accepted frames.

`locked_cases` lists what any locked section can do to the fields that matter:
nothing, apply a frame, leave `kRunning` with a release, or stop a session that
had already left it.  `Inv` is what all four keep, and `inv_run` carries it
through every interleaving of the sections with the watchdog loop.
-/

namespace RemoteController

open Lib Protocol

namespace LanControllerServer

/-! ### What one section can do -/

/-- The fields the release depends on are as before.  The target may have been
destroyed. -/
structure SameOutput (s t : LanControllerServer) : Prop where
  state : t.state = s.state
  currentState : t.currentState = s.currentState
  latestSequence : t.latestSequence = s.latestSequence
  receivedStateCount : t.receivedStateCount = s.receivedStateCount
  neutralizationCount : t.neutralizationCount = s.neutralizationCount
  lastInputArrival : t.lastInputArrival = s.lastInputArrival
  watchdogArmed : t.watchdogArmed = s.watchdogArmed
  stopRequested : t.stopRequested = s.stopRequested
  lastReport : t.virtual.lastReport = s.virtual.lastReport
  created : t.virtual.created = true → s.virtual.created = true

theorem SameOutput.refl (s : LanControllerServer) : SameOutput s s :=
  ⟨rfl, rfl, rfl, rfl, rfl, rfl, rfl, rfl, rfl, id⟩

/-- Whether the driver takes the section's neutral report, should it send one. -/
def Section.neutralOk : Section → Bool
  | .onState _ _ neutralOk => neutralOk
  | .onTransportDisconnected neutralOk => neutralOk
  | .stop neutralOk => neutralOk
  | .transportStartFailed neutralOk => neutralOk
  | .onRumble _ => true
  | .destroy => true

/-- **What a locked section can do.** -/
theorem locked_cases (a : Section) (now : Nat) (s : LanControllerServer) :
    (feeds a s = false ∧ SameOutput s (locked a now s)) ∨
    (∃ frame submitOk neutralOk, a = .onState frame submitOk neutralOk ∧ feeds a s = true ∧
      s.refuses frame = false ∧ s.virtual.created = true ∧
      locked a now s =
        { s with
          virtual := { s.virtual with lastReport := frame.state }
          currentState := frame.state
          latestSequence := frame.sequence
          receivedStateCount := s.receivedStateCount + 1
          lastInputTimestampUs := frame.timestampUs
          lastInputArrival := now
          watchdogArmed := true }) ∨
    (feeds a s = false ∧ s.state = .running ∧ ∃ state stop, state ≠ .running ∧
      locked a now s =
        { s with state := state, stopRequested := stop }.neutralizeLocked a.neutralOk) ∨
    (feeds a s = false ∧ s.state ≠ .running ∧
      locked a now s = { s with state := .stopped, stopRequested := true }) := by
  cases a with
  | onState frame submitOk neutralOk =>
    rcases onState_cases s frame submitOk neutralOk now with ⟨hf, he⟩ | ⟨hf, hr, hc, he⟩ | ⟨hf, hr, he⟩
    · exact Or.inl ⟨hf, by rw [locked, he]; exact .refl s⟩
    · exact Or.inr (Or.inl ⟨frame, submitOk, neutralOk, rfl, hf, hr, hc, he⟩)
    · exact Or.inr (Or.inr (Or.inl ⟨hf, (running_of_not_refuses hr).1, .faulted,
        s.stopRequested, by decide, he⟩))
  | onRumble command =>
    refine Or.inl ⟨rfl, ?_⟩
    by_cases h : s.state = .running
    · simp only [locked, onRumble, h, ne_eq, not_true_eq_false, if_false]
      exact ⟨h.symm ▸ rfl, rfl, rfl, rfl, rfl, rfl, rfl, rfl, rfl, id⟩
    · simp only [locked, onRumble, ne_eq, h, not_false_eq_true, if_true]
      exact .refl s
  | onTransportDisconnected neutralOk =>
    by_cases h : s.state = .running
    · refine Or.inr (Or.inr (Or.inl ⟨rfl, h, .disconnected, s.stopRequested, by decide, ?_⟩))
      simp [locked, onTransportDisconnected, h, Section.neutralOk]
    · refine Or.inl ⟨rfl, ?_⟩
      simp only [locked, onTransportDisconnected, ne_eq, h, not_false_eq_true, if_true]
      exact .refl s
  | stop neutralOk =>
    by_cases hs : s.state = .stopped
    · refine Or.inl ⟨rfl, ?_⟩
      simp only [locked, stopLocked, hs, if_true]
      exact .refl s
    · by_cases hr : s.state = .running
      · refine Or.inr (Or.inr (Or.inl ⟨rfl, hr, .stopped, true, by decide, ?_⟩))
        simp [locked, stopLocked, hr, Section.neutralOk, neutralizeLocked]
      · exact Or.inr (Or.inr (Or.inr ⟨rfl, hr, by simp [locked, stopLocked, hs, hr]⟩))
  | transportStartFailed neutralOk =>
    by_cases h : s.live = true
    · refine Or.inr (Or.inr (Or.inl ⟨rfl, (live_iff.mp h).2, .faulted, s.stopRequested,
        by decide, ?_⟩))
      rw [live] at h
      simp [locked, transportStartFailed, h, Section.neutralOk]
    · refine Or.inl ⟨rfl, ?_⟩
      rw [live] at h
      simp only [locked, transportStartFailed, h, if_false, Bool.false_eq_true]
      exact .refl s
  | destroy =>
    refine Or.inl ⟨rfl, ?_⟩
    by_cases h : s.stopRequested = true
    · simp only [locked, h, if_true]
      exact ⟨rfl, rfl, rfl, rfl, rfl, rfl, rfl, h.symm ▸ rfl, rfl, fun hc => by cases hc⟩
    · simp only [locked, h, if_false, Bool.false_eq_true]
      exact .refl s

/-! ### The watchdog loop around the sections -/

/-- The loop of `StartWorker`.  Only the start-failure branch runs on the worker
itself. -/
def monitor (inputTimeout : Nat) : Monitor LanControllerServer Section Bool where
  live := live
  armed := watchdogArmed
  arrival := lastInputArrival
  timeout := inputTimeout
  locked := locked
  own
    | .transportStartFailed _ => true
    | _ => false
  notify := notify
  feeds := feeds
  fire neutralOk s := s.watchdogRelease neutralOk
  arrival_of_feeds := by
    intro a t s h
    rcases locked_cases a t s with ⟨hf, _⟩ | ⟨_, _, _, _, _, _, _, he⟩ | ⟨hf, _⟩ | ⟨hf, _⟩
    · simp [hf] at h
    · rw [he]
    · simp [hf] at h
    · simp [hf] at h
  armed_of_feeds := by
    intro a t s h
    rcases locked_cases a t s with ⟨hf, _⟩ | ⟨_, _, _, _, _, _, _, he⟩ | ⟨hf, _⟩ | ⟨hf, _⟩
    · simp [hf] at h
    · rw [he]
    · simp [hf] at h
    · simp [hf] at h
  notify_of_feeds := by
    intro a s h
    cases a with
    | onState frame submitOk neutralOk =>
      simp only [feeds, applies, Bool.and_eq_true, Bool.not_eq_true'] at h
      simp [notify, h.1]
    | onRumble | onTransportDisconnected | stop | transportStartFailed | destroy =>
      simp [feeds] at h
  arrival_of_idle := by
    intro a t s h
    rcases locked_cases a t s with ⟨_, hs⟩ | ⟨_, _, _, _, hf, _⟩ | ⟨_, _, _, _, _, he⟩ | ⟨_, _, he⟩
    · exact hs.lastInputArrival
    · simp [hf] at h
    · rw [he]; rfl
    · rw [he]
  armed_of_idle := by
    intro a t s h hl
    rcases locked_cases a t s with ⟨_, hs⟩ | ⟨_, _, _, _, hf, _⟩ | ⟨_, _, x, _, hx, he⟩ | ⟨_, _, he⟩
    · exact hs.watchdogArmed
    · simp [hf] at h
    · rw [he] at hl
      exact absurd (live_iff.mp hl).2 hx
    · rw [he] at hl
      exact nomatch (live_iff.mp hl).2
  live_of_locked := by
    intro a t s hl
    rcases locked_cases a t s with ⟨_, hs⟩ | ⟨f, _, _, _, _, hr, _⟩ | ⟨_, _, x, _, hx, he⟩ | ⟨_, _, he⟩
    · rw [live, hs.state, hs.stopRequested] at hl
      exact hl
    · exact live_iff.mpr (running_of_not_refuses hr).symm
    · rw [he] at hl
      exact absurd (live_iff.mp hl).2 hx
    · rw [he] at hl
      exact nomatch (live_iff.mp hl).2

/-- The server when `Start()` has returned `kOk`. -/
def started : LanControllerServer := (start {} true).1

theorem start_ok : (start {} true).2 = .ok := rfl

/-- The server and its threads, from the moment `Start()` returned `kOk` and the
clock showed `now`. -/
def system (inputTimeout now : Nat) :
    System (Monitor.State LanControllerServer) (Monitor.Label Section Bool) :=
  (monitor inputTimeout).system started now

/-! ### The invariant -/

/-- What holds of the server whenever `mutex_` is free. -/
structure SafeRelease (s : LanControllerServer) : Prop where
  report : s.virtual.lastReport = s.currentState
  held : s.currentState ≠ .neutral → s.state = .running ∧ s.watchdogArmed = true
  armed : s.watchdogArmed = true → s.state = .running
  count : s.neutralizationCount ≤ s.receivedStateCount + 1

/-- The driver takes every neutral report the step sends. -/
def NeutralAccepted : Monitor.State LanControllerServer → Monitor.Label Section Bool → Prop
  | _, .locked a => a.neutralOk = true
  | _, .abandon a => a.neutralOk = true
  | _, .check neutralOk => neutralOk = true
  | _, _ => True

instance (s : Monitor.State LanControllerServer) :
    ∀ a : Monitor.Label Section Bool, Decidable (NeutralAccepted s a)
  | .locked a => inferInstanceAs (Decidable (a.neutralOk = true))
  | .abandon a => inferInstanceAs (Decidable (a.neutralOk = true))
  | .check neutralOk => inferInstanceAs (Decidable (neutralOk = true))
  | .tick _ | .notifyAll | .enter | .spurious | .expire | .resume => .isTrue trivial

/-- The inductive form of `SafeRelease`: while running, an unarmed watchdog has
spent one accepted frame per release. -/
structure Inv (s : LanControllerServer) : Prop where
  report : s.virtual.created = true → s.virtual.lastReport = s.currentState
  unarmed : s.watchdogArmed = false → s.currentState = .neutral
  armed : s.watchdogArmed = true → s.state = .running
  spent : s.state = .running →
    s.neutralizationCount + (if s.watchdogArmed then 1 else 0) ≤ s.receivedStateCount
  count : s.neutralizationCount ≤ s.receivedStateCount + 1

theorem Inv.safeRelease {s : LanControllerServer} (h : Inv s) (hc : s.virtual.created = true) :
    SafeRelease s where
  report := h.report hc
  held := by
    intro hn
    have ha : s.watchdogArmed = true := by
      by_contra ha
      exact hn (h.unarmed (by simpa using ha))
    exact ⟨h.armed ha, ha⟩
  armed := h.armed
  count := h.count

theorem inv_started : Inv started := by
  refine ⟨?_, ?_, ?_, ?_, ?_⟩ <;> decide

theorem SameOutput.inv {s t : LanControllerServer} (h : SameOutput s t) (hi : Inv s) : Inv t where
  report := fun hc => by rw [h.lastReport, h.currentState]; exact hi.report (h.created hc)
  unarmed := fun ha => by rw [h.currentState]; exact hi.unarmed (h.watchdogArmed ▸ ha)
  armed := fun ha => by rw [h.state]; exact hi.armed (h.watchdogArmed ▸ ha)
  spent := fun hr => by
    rw [h.neutralizationCount, h.watchdogArmed, h.receivedStateCount]
    exact hi.spent (h.state ▸ hr)
  count := by rw [h.neutralizationCount, h.receivedStateCount]; exact hi.count

/-- A release on the way out of `kRunning` keeps the invariant, if the driver
takes the neutral report. -/
theorem inv_leave {s : LanControllerServer} (hi : Inv s) (hr : s.state = .running)
    {state : SessionState} (hs : state ≠ .running) (stop : Bool) :
    Inv ({ s with state := state, stopRequested := stop }.neutralizeLocked true) where
  report := fun hc =>
    VirtualController.submitNeutralState_lastReport (by simpa [neutralizeLocked] using hc)
  unarmed := fun _ => rfl
  armed := fun ha => by cases ha
  spent := fun h => absurd h hs
  count := by
    have := hi.spent hr
    simp only [neutralizeLocked]
    omega

theorem inv_locked {s : LanControllerServer} (hi : Inv s) (a : Section) (ha : a.neutralOk = true)
    (now : Nat) : Inv (locked a now s) := by
  rcases locked_cases a now s with ⟨_, hs⟩ | ⟨_, _, _, _, _, hr, hc, he⟩ |
    ⟨_, hr, state, stop, hs, he⟩ | ⟨_, hr, he⟩
  · exact hs.inv hi
  · have hrun := (running_of_not_refuses hr).1
    have hspent := hi.spent hrun
    have hcount := hi.count
    rw [he]
    refine ⟨fun _ => rfl, nofun, fun _ => hrun, fun _ => ?_, ?_⟩
    · simp only [if_true]
      split at hspent <;> omega
    · simp only
      omega
  · rw [he, ha]
    exact inv_leave hi hr hs stop
  · rw [he]
    exact ⟨hi.report, hi.unarmed, fun h => absurd (hi.armed h) hr, nofun, hi.count⟩

theorem inv_watchdogRelease {s : LanControllerServer} (hi : Inv s) (hr : s.state = .running)
    (ha : s.watchdogArmed = true) : Inv (s.watchdogRelease true) where
  report := fun hc =>
    VirtualController.submitNeutralState_lastReport
      (by simpa [watchdogRelease, neutralizeLocked] using hc)
  unarmed := fun _ => rfl
  armed := fun h => by cases h
  spent := fun _ => by
    have := hi.spent hr
    simp only [ha, if_true] at this
    simpa [watchdogRelease, neutralizeLocked] using this
  count := by
    have := hi.spent hr
    simp only [watchdogRelease, neutralizeLocked]
    omega

theorem inv_run {inputTimeout now : Nat} {l : List (Monitor.Label Section Bool)}
    {s : Monitor.State LanControllerServer}
    (h : (system inputTimeout now).RunWith NeutralAccepted l s) : Inv s.core := by
  refine System.RunWith.invariant (P := fun _ s => Inv s.core) inv_started ?_ h
  intro l s a t _ hi hok hn
  rcases Monitor.core_step hn with hc | ⟨c, hc, he⟩ | ⟨b, d, rfl, _, hf, he⟩
  · rw [hc]; exact hi
  · rw [he]
    have hc' : c.neutralOk = true := by
      rcases hc with rfl | rfl <;> exact hok
    exact inv_locked hi c hc' s.now
  · obtain rfl : b = true := hok
    simp only [Monitor.fires, Bool.and_eq_true] at hf
    rw [he]
    exact inv_watchdogRelease hi (live_iff.mp hf.1.1).2 hf.1.2

/-- **Safe release.**  After `Start()` returned `kOk`, in every state that an
interleaving of the server's threads reaches before the target is destroyed, the
driver shows the current state, a pressed control belongs to a running and armed
session, and the releases are at most one per accepted frame and one more. -/
theorem safeRelease_of_run {inputTimeout now : Nat} {l : List (Monitor.Label Section Bool)}
    {s : Monitor.State LanControllerServer}
    (h : (system inputTimeout now).RunWith NeutralAccepted l s)
    (hc : s.core.virtual.created = true) : SafeRelease s.core :=
  (inv_run h).safeRelease hc

/-- No frame numbered 0 is handed over: the transport drops it. -/
def Numbered (_ : Monitor.State LanControllerServer) : Monitor.Label Section Bool → Prop
  | .locked (.onState frame _ _) | .abandon (.onState frame _ _) => frame.sequence ≠ 0
  | _ => True

/-- **The accepted frames are counted by their sequence numbers**, so the count fits its
64 bits. -/
theorem receivedStateCount_le {inputTimeout now : Nat} {l : List (Monitor.Label Section Bool)}
    {s : Monitor.State LanControllerServer} (h : (system inputTimeout now).RunWith Numbered l s) :
    s.core.receivedStateCount ≤ s.core.latestSequence.toNat := by
  induction h with
  | start => exact Nat.zero_le _
  | @snoc l s t a _ hok hn ih =>
    rcases Monitor.core_step hn with hc | ⟨c, ha, he⟩ | ⟨b, d, _, _, _, he⟩
    · rw [hc]; exact ih
    · replace he : t.core = locked c s.now s.core := he
      rcases locked_cases c s.now s.core with ⟨_, hs⟩ | ⟨frame, _, _, rfl, _, hr, _, hl⟩ |
        ⟨_, _, _, _, _, hl⟩ | ⟨_, _, hl⟩
      · rw [he, hs.receivedStateCount, hs.latestSequence]; exact ih
      · have hnumber : frame.sequence.toNat ≠ 0 := by
          intro h0
          have hzero : frame.sequence ≠ 0 := by rcases ha with rfl | rfl <;> exact hok
          exact hzero (UInt64.toNat_inj.mp h0)
        rw [he, hl]
        simp only [refuses, Bool.or_eq_false_iff, Bool.and_eq_false_iff, bne_eq_false_iff_eq,
          decide_eq_false_iff_not, UInt64.le_iff_toNat_le] at hr
        simp only
        omega
      · rw [he, hl]; exact ih
      · rw [he, hl]; exact ih
    · rw [he]; exact ih

/-- A button is pressed, 100 ms pass, the watchdog releases it, it is pressed
again, and the driver then refuses a frame. -/
def pressedTwice : List (Monitor.Label Section Bool) :=
  [.enter, .locked (.onState ⟨{ buttonFlags := 0x1000 }, 1, 10⟩ true true), .resume, .tick 100,
    .expire, .check true, .locked (.onState ⟨{ buttonFlags := 0x1000 }, 2, 20⟩ true true),
    .locked (.onState ⟨{ buttonFlags := 0x2000 }, 3, 30⟩ false true)]

theorem safeRelease_pressedTwice : ∃ s, (system 100 0).RunWith NeutralAccepted pressedTwice s ∧
    s.core.neutralizationCount = 2 ∧ SafeRelease s.core :=
  have h : (system 100 0).RunWith NeutralAccepted pressedTwice _ := System.runWith_of_exec rfl
  ⟨_, h, rfl, safeRelease_of_run h rfl⟩

end LanControllerServer

end RemoteController
