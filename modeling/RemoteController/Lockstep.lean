import RemoteController.LanServer.Release
import RemoteController.Session.State

/-!
# The loopback session and the LAN server in lockstep

The loopback diagnostic runs `Session`; a PC in production runs
`LanControllerServer`.  The two state machines were written twice, with other
flags (`watchdog_exit_` here, `stop_requested_` there) and with other final states
(a faulted `Session` stays `kFaulted` after `Stop()`, a faulted server becomes
`kStopped`).

`SessionEvent` is what happens to either, one event at a time, with the answers
of the driver and the readings of the clock.  `handle` on both sides applies one
event, `InStep` relates the two states between events, and `agree_foldl` is what
a caller of `Snapshot()` can rely on after any trace.
-/

namespace RemoteController

open Lib Protocol

/-- One serialized event.  In `watchdogExpiry`, `deadline` is the one the loop
computed before it slept and `now` the clock when it has the mutex back. -/
inductive SessionEvent where
  | frame (frame : StateFrame) (submitOk neutralOk : Bool) (now : Nat)
  | watchdogExpiry (deadline now : Nat) (neutralOk : Bool)
  | transportDisconnect (neutralOk : Bool)
  | stop (neutralOk : Bool)
  deriving DecidableEq, Repr

/-- The branch of a watchdog loop after a wait that timed out at `deadline`. -/
def watchdogBranch {σ : Type*} {α : Type*} (m : Monitor σ α Bool) (deadline now : Nat)
    (neutralOk : Bool) (s : σ) : σ :=
  (m.afterCheck ⟨s, now, .timedOut deadline, 0⟩ deadline neutralOk).core

/-! ### The two sides -/

/-- `Session::Stop()`, with nothing else running. -/
def Session.stop (s : Session) (neutralOk : Bool) : Session :=
  if s.state = .created ∨ s.state = .stopped then s.stopLocked neutralOk
  else
    let stopped := s.stopLocked neutralOk
    { stopped with virtual := stopped.virtual.destroy }

def Session.handle (inputTimeout : Nat) (s : Session) : SessionEvent → Session
  | .frame frame submitOk neutralOk now => s.onStateFrame frame submitOk neutralOk now
  | .watchdogExpiry deadline now neutralOk =>
    watchdogBranch (monitor inputTimeout) deadline now neutralOk s
  | .transportDisconnect neutralOk => s.onDisconnected neutralOk
  | .stop neutralOk => s.stop neutralOk

/-- `LanControllerServer::Stop()`, with nothing else running. -/
def LanControllerServer.stop (s : LanControllerServer) (neutralOk : Bool) : LanControllerServer :=
  if s.state = .stopped then s
  else
    let stopped := s.stopLocked neutralOk
    { stopped with virtual := stopped.virtual.destroy }

def LanControllerServer.handle (inputTimeout : Nat) (s : LanControllerServer) :
    SessionEvent → LanControllerServer
  | .frame frame submitOk neutralOk now => s.onState frame submitOk neutralOk now
  | .watchdogExpiry deadline now neutralOk =>
    watchdogBranch (monitor inputTimeout) deadline now neutralOk s
  | .transportDisconnect neutralOk => s.onTransportDisconnected neutralOk
  | .stop neutralOk => s.stop neutralOk

/-! ### The relation -/

/-- What a snapshot of the session and one of the server have in common. -/
structure Agree (s : Session) (t : LanControllerServer) : Prop where
  running : s.state = .running ↔ t.state = .running
  output : s.outputState = t.currentState
  latest : s.latestSequence = t.latestSequence
  accepted : s.acceptedStateCount = t.receivedStateCount
  neutralizations : s.neutralizationCount = t.neutralizationCount
  armed : s.watchdogArmed = t.watchdogArmed

/-- Between two events: the snapshots agree, the two virtual controllers are in
the same state, and each exit flag tells whether its session has left
`kRunning`. -/
structure InStep (s : Session) (t : LanControllerServer) : Prop extends Agree s t where
  virtual : s.virtual = t.virtual
  started : s.state ≠ .created
  exit : s.watchdogExit = false ↔ s.state = .running
  stop : t.stopRequested = true → t.state = .stopped
  stopped : t.state = .stopped → t.stopRequested = true ∧ t.virtual.created = false
  both : s.state = .stopped → t.state = .stopped

theorem inStep_started : InStep Session.started LanControllerServer.started := by
  refine ⟨⟨?_, ?_, ?_, ?_, ?_, ?_⟩, ?_, ?_, ?_, ?_, ?_, ?_⟩ <;> decide

variable {s : Session} {t : LanControllerServer}

/-- Both watchdogs are live while the sessions run. -/
theorem InStep.live (h : InStep s t) : (!s.watchdogExit) = t.live := by
  by_cases hs : s.state = .running
  · have ht := h.running.mp hs
    have hstop : t.stopRequested = false := by
      by_contra hc
      have := h.stop (by simpa using hc)
      simp [ht] at this
    simp [h.exit.mpr hs, LanControllerServer.live, ht, hstop]
  · have ht : t.state ≠ .running := fun hc => hs (h.running.mpr hc)
    have hexit : s.watchdogExit = true := by
      by_contra hc
      exact hs (h.exit.mp (by simpa using hc))
    simp [hexit, LanControllerServer.live, ht]

theorem InStep.left (h : InStep s t) (hr : s.state ≠ .running) (hs : s.state ≠ .stopped) :
    s.state = .disconnected ∨ s.state = .faulted := by
  have hc := h.started
  cases hst : s.state <;> simp_all

/-- Both turn away the same frames. -/
theorem InStep.refuses (h : InStep s t) (frame : StateFrame) :
    s.refuses frame = t.refuses frame := by
  have hlive := h.live
  by_cases hs : s.state = .running
  · have ht := h.running.mp hs
    have hstop : t.stopRequested = false := by
      simpa [h.exit.mpr hs, LanControllerServer.live, ht] using hlive
    rw [Session.refuses, LanControllerServer.refuses, hs, ht, hstop, h.accepted, h.latest]
    simp
  · have ht : t.state ≠ .running := fun hc => hs (h.running.mpr hc)
    rw [Session.refuses, LanControllerServer.refuses, bne_iff_ne.mpr hs, bne_iff_ne.mpr ht]
    simp

/-- Both apply the same frames. -/
theorem InStep.applies (h : InStep s t) (frame : StateFrame) (submitOk : Bool) :
    s.applies frame submitOk = t.applies frame submitOk := by
  rw [Session.applies, LanControllerServer.applies, h.refuses, h.virtual]

/-- Leaving `kRunning` with a release keeps the two in step. -/
theorem InStep.leave (h : InStep s t) {x : SessionState} (hx : x = .disconnected ∨ x = .faulted)
    (ht : t.state = .running) (neutralOk : Bool) :
    InStep { { s with state := x }.neutralizeLocked neutralOk with watchdogExit := true }
      ({ t with state := x }.neutralizeLocked neutralOk) where
  running := Iff.rfl
  output := rfl
  latest := h.latest
  accepted := h.accepted
  neutralizations := congrArg (· + 1) h.neutralizations
  armed := rfl
  virtual := congrArg (·.submitNeutralState neutralOk) h.virtual
  started := by rcases hx with rfl | rfl <;> exact fun e => (by cases e)
  exit := by rcases hx with rfl | rfl <;> exact ⟨fun e => (by cases e), fun e => (by cases e)⟩
  stop := fun e => by
    have := h.stop e
    simp [ht] at this
  stopped := fun e => by rcases hx with rfl | rfl <;> cases e
  both := id

theorem InStep.frame (h : InStep s t) (frame : StateFrame) (submitOk neutralOk : Bool)
    (now : Nat) :
    InStep (s.onStateFrame frame submitOk neutralOk now)
      (t.onState frame submitOk neutralOk now) := by
  have hr := h.refuses frame
  have ha := h.applies frame submitOk
  rcases Session.onStateFrame_cases s frame submitOk neutralOk now with
    ⟨hf, he⟩ | ⟨hf, hr', _, he⟩ | ⟨hf, hr', he⟩
  · -- refused: the third outcome would not have been
    rcases LanControllerServer.onState_cases t frame submitOk neutralOk now with
      ⟨_, he'⟩ | ⟨hf', _⟩ | ⟨_, hr'', he'⟩
    · rw [he, he']; exact h
    · rw [← ha, hf] at hf'; cases hf'
    · have hchange := congrArg Session.state he
      rw [Session.onStateFrame, hr, hr''] at hchange
      rw [Session.applies, hr, hr''] at hf
      simp only [Bool.not_false, Bool.true_and] at hf
      have hrun := (h.running.mpr (LanControllerServer.running_of_not_refuses hr'').1)
      simp [hf, Session.neutralizeLocked, hrun] at hchange
  · rcases LanControllerServer.onState_cases t frame submitOk neutralOk now with
      ⟨hf', _⟩ | ⟨_, _, _, he'⟩ | ⟨hf', _⟩
    · rw [← ha, hf] at hf'; cases hf'
    · rw [he, he']
      exact ⟨⟨h.running, rfl, rfl, congrArg (· + 1) h.accepted, h.neutralizations, rfl⟩,
        by rw [h.virtual], h.started, h.exit, h.stop, h.stopped, h.both⟩
    · rw [← ha, hf] at hf'; cases hf'
  · have hr'' : t.refuses frame = false := by rw [← hr]; exact hr'
    have hrun := (LanControllerServer.running_of_not_refuses hr'').1
    rcases LanControllerServer.onState_cases t frame submitOk neutralOk now with
      ⟨hf', he'⟩ | ⟨hf', _⟩ | ⟨_, _, he'⟩
    · have := LanControllerServer.faulted_of_not_applies hr'' hf' neutralOk now
      rw [he', hrun] at this
      cases this
    · rw [← ha, hf] at hf'; cases hf'
    · rw [he, he']
      exact h.leave (Or.inr rfl) hrun neutralOk

/-- The two loops take the branch on the same expiries. -/
theorem InStep.watchdogExpiry (h : InStep s t) (inputTimeout deadline now : Nat)
    (neutralOk : Bool) :
    InStep (watchdogBranch (Session.monitor inputTimeout) deadline now neutralOk s)
      (watchdogBranch (LanControllerServer.monitor inputTimeout) deadline now neutralOk t) := by
  have hfires : (Session.monitor inputTimeout).fires ⟨s, now, .timedOut deadline, 0⟩ deadline =
      (LanControllerServer.monitor inputTimeout).fires ⟨t, now, .timedOut deadline, 0⟩
        deadline := by
    simp only [Monitor.fires, Session.monitor, LanControllerServer.monitor, h.live, h.armed]
  simp only [watchdogBranch, Monitor.afterCheck, hfires]
  split
  · exact ⟨⟨h.running, rfl, h.latest, h.accepted, congrArg (· + 1) h.neutralizations, rfl⟩,
      congrArg (·.submitNeutralState neutralOk) h.virtual, h.started, h.exit, h.stop,
      fun e => ⟨(h.stopped e).1, by
        simpa [LanControllerServer.monitor, LanControllerServer.watchdogRelease,
          LanControllerServer.neutralizeLocked] using (h.stopped e).2⟩, h.both⟩
  · exact h

theorem InStep.transportDisconnect (h : InStep s t) (neutralOk : Bool) :
    InStep (s.onDisconnected neutralOk) (t.onTransportDisconnected neutralOk) := by
  by_cases ht : t.state = .running
  · have hs := h.running.mpr ht
    simp only [Session.onDisconnected, hs, LanControllerServer.onTransportDisconnected, ht, ne_eq,
      not_true_eq_false, if_false]
    exact h.leave (Or.inl rfl) ht neutralOk
  · have hs : s.state ≠ .running := fun e => ht (h.running.mp e)
    simp only [Session.onDisconnected, ne_eq, hs, LanControllerServer.onTransportDisconnected, ht,
      not_false_eq_true, if_true]
    exact h

/-- `Session::Stop()` after the session has left `kRunning` by itself. -/
theorem Session.stop_of_left {s : Session} (hs : s.state = .disconnected ∨ s.state = .faulted)
    (neutralOk : Bool) :
    s.stop neutralOk = { s with watchdogExit := true, virtual := s.virtual.destroy } := by
  rcases hs with hs | hs <;>
    simp only [Session.stop, Session.stopLocked, hs, reduceCtorEq, or_self, if_false]

theorem InStep.stop_both (h : InStep s t) (neutralOk : Bool) :
    InStep (s.stop neutralOk) (t.stop neutralOk) := by
  have hcreated : ∀ v : VirtualController, v.created = false → v.destroy = v := by
    rintro ⟨c, r⟩ rfl
    rfl
  by_cases ht : t.state = .stopped
  · -- the server was stopped before; the session may have to be told once more
    have hv : s.virtual.destroy = t.virtual := by
      rw [h.virtual, hcreated _ (h.stopped ht).2]
    have hnot : s.state ≠ .running := fun e => by
      have := h.running.mp e
      rw [ht] at this
      cases this
    rw [LanControllerServer.stop, if_pos ht]
    by_cases hs : s.state = .stopped
    · have he : s.stop neutralOk = s := by simp [Session.stop, Session.stopLocked, hs]
      rw [he]
      exact h
    · rw [Session.stop_of_left (h.left hnot hs)]
      exact ⟨⟨h.running, h.output, h.latest, h.accepted, h.neutralizations, h.armed⟩, hv,
        h.started, ⟨fun e => (by cases e), fun e => absurd e hnot⟩, h.stop, h.stopped, h.both⟩
  · by_cases hr : t.state = .running
    · have hs := h.running.mpr hr
      simp only [Session.stop, Session.stopLocked, LanControllerServer.stop,
        LanControllerServer.stopLocked, hs, hr, reduceCtorEq, or_self, if_false, if_true]
      exact ⟨⟨⟨fun e => (by cases e), fun e => (by cases e)⟩, rfl, h.latest, h.accepted,
          congrArg (· + 1) h.neutralizations, rfl⟩,
        congrArg (fun v => (v.submitNeutralState neutralOk).destroy) h.virtual,
        fun e => (by cases e), ⟨fun e => (by cases e), fun e => (by cases e)⟩, fun _ => rfl,
        fun _ => ⟨rfl, rfl⟩, fun _ => rfl⟩
    · have hnot : s.state ≠ .running := fun e => hr (h.running.mp e)
      have hv : s.virtual.destroy = t.virtual.destroy := by rw [h.virtual]
      have hstopped : s.state ≠ .stopped := fun e => ht (h.both e)
      simp only [LanControllerServer.stop, LanControllerServer.stopLocked, ht, hr, if_false]
      rw [Session.stop_of_left (h.left hnot hstopped)]
      exact ⟨⟨⟨fun e => absurd e hnot, fun e => (by cases e)⟩, h.output, h.latest, h.accepted,
          h.neutralizations, h.armed⟩, hv, h.started,
        ⟨fun e => (by cases e), fun e => absurd e hnot⟩, fun _ => rfl, fun _ => ⟨rfl, rfl⟩,
        fun e => absurd e hstopped⟩

/-! ### Traces -/

/-- One event keeps the two in step. -/
theorem InStep.handle (h : InStep s t) (inputTimeout : Nat) (e : SessionEvent) :
    InStep (s.handle inputTimeout e) (t.handle inputTimeout e) := by
  cases e with
  | frame frame submitOk neutralOk now => exact h.frame frame submitOk neutralOk now
  | watchdogExpiry deadline now neutralOk =>
    exact h.watchdogExpiry inputTimeout deadline now neutralOk
  | transportDisconnect neutralOk => exact h.transportDisconnect neutralOk
  | stop neutralOk => exact h.stop_both neutralOk

theorem InStep.foldl (h : InStep s t) (inputTimeout : Nat) (trace : List SessionEvent) :
    InStep (trace.foldl (Session.handle inputTimeout) s)
      (trace.foldl (LanControllerServer.handle inputTimeout) t) := by
  induction trace generalizing s t with
  | nil => exact h
  | cons e trace ih => exact ih (h.handle inputTimeout e)

/-- **The loopback diagnostic exercises the production state machine.**  After
any trace the session and the server, both started with success, agree on what
their snapshots share. -/
theorem agree_foldl (inputTimeout : Nat) (trace : List SessionEvent) :
    Agree (trace.foldl (Session.handle inputTimeout) Session.started)
      (trace.foldl (LanControllerServer.handle inputTimeout) LanControllerServer.started) :=
  (inStep_started.foldl inputTimeout trace).toAgree

end RemoteController
