import RemoteController.LanServer.State
import RemoteController.Handle

/-!
# Starting and stopping a server

`Start()` and `Stop()` of `LanControllerServer` as two callers of one handle may
interleave them.  `Start()` tests `kCreated` in one section and writes `kRunning` in
another, with `Create` of the virtual controller in between, and creates the worker
after that; `Stop()` calls the transport, joins the worker if there is one, and calls
`Destroy` last.  One step is one locked section, one call of a backend, or what the
worker and the callbacks do with `mutex_` held.

The clock is left out: the watchdog may release whenever it is armed.

* `ServerHandle.step`: what the threads can do.
* `ServerHandle.moves_step`: a step is a move of the handle, if `Start()` does not write
  over `kStopped`.
-/

namespace RemoteController

open Lib Protocol

namespace LanControllerServer

/-- The first section of `Start()`: whether it goes on. -/
def mayStart (s : LanControllerServer) : Bool := s.state == .created

/-- The section of `Start()` after `Create` failed. -/
def startFailed (s : LanControllerServer) : LanControllerServer := { s with state := .faulted }

/-- The section of `Start()` after `Create` succeeded. -/
def startRunning (s : LanControllerServer) : LanControllerServer :=
  { s with state := .running, stopRequested := false }

/-- With nobody in between, the sections are `start`. -/
theorem start_eq (s : LanControllerServer) (createOk : Bool) :
    s.start createOk =
      if !s.mayStart then (s, .invalidState)
      else
        let (virtual, ok) := s.virtual.create createOk
        if ok then ({ s with virtual := virtual }.startRunning, .ok)
        else ({ s with virtual := virtual }.startFailed, .backendFailure) := by
  by_cases h : s.state = .created
  · simp [start, mayStart, h, startRunning, startFailed]
  · simp [start, mayStart, h]

end LanControllerServer

/-- Where `Start()` is. -/
inductive ServerStart where
  | checking
  | creating
  | createFailed
  | created
  | settingKey
  | creatingWorker
  | returned (result : Result)
  deriving DecidableEq, Repr

/-- Where `Stop()` is. -/
inductive ServerStop where
  | idle
  | stoppingTransport
  | joining
  | destroying
  | returned
  deriving DecidableEq, Repr

/-- Where `StartWorker` is. -/
inductive ServerWorker where
  | notCreated
  | starting
  | startFailed
  | watching
  | ended
  deriving DecidableEq, Repr

structure ServerHandle where
  core : LanControllerServer := {}
  start : ServerStart := .checking
  stop : ServerStop := .idle
  worker : ServerWorker := .notCreated
  transportStopped : Bool := false
  deriving DecidableEq, Repr

inductive HandleLabel where
  | startChecks
  | create (ok : Bool)
  | startFailed
  | startRunning
  | setExpectedPairingKey
  | createWorker
  | startServer (ok : Bool)
  | transportStartFailed (neutralOk : Bool)
  | watchdog (neutralOk : Bool)
  | workerEnds
  | onState (frame : StateFrame) (submitOk neutralOk : Bool) (now : Nat)
  | onRumble (command : RumbleCommand)
  | onTransportDisconnected (neutralOk : Bool)
  | stop (neutralOk : Bool)
  | stopsTransport
  | stopJoins
  | stopDestroys
  deriving DecidableEq, Repr

namespace ServerHandle

def step (s : ServerHandle) : HandleLabel → Option ServerHandle
  -- `Start()`
  | .startChecks =>
    if s.start = .checking then
      some { s with start := if s.core.mayStart then .creating else .returned .invalidState }
    else none
  | .create ok =>
    if s.start = .creating then
      some { s with
        core := { s.core with virtual := (s.core.virtual.create ok).1 }
        start := if (s.core.virtual.create ok).2 then .created else .createFailed }
    else none
  | .startFailed =>
    if s.start = .createFailed then
      some { s with core := s.core.startFailed, start := .returned .backendFailure }
    else none
  | .startRunning =>
    if s.start = .created then some { s with core := s.core.startRunning, start := .settingKey }
    else none
  | .setExpectedPairingKey =>
    if s.start = .settingKey then some { s with start := .creatingWorker } else none
  | .createWorker =>
    if s.start = .creatingWorker then
      some { s with start := .returned .ok, worker := .starting }
    else none
  -- `StartWorker`
  | .startServer ok =>
    if s.worker = .starting then
      some { s with worker := if ok && !s.transportStopped then .watching else .startFailed }
    else none
  | .transportStartFailed neutralOk =>
    if s.worker = .startFailed then
      some { s with core := s.core.transportStartFailed neutralOk, worker := .ended }
    else none
  | .watchdog neutralOk =>
    if s.worker = .watching ∧ s.core.live = true ∧ s.core.watchdogArmed = true then
      some { s with core := s.core.watchdogRelease neutralOk }
    else none
  | .workerEnds =>
    if s.worker = .watching ∧ s.core.live = false then some { s with worker := .ended } else none
  -- the callbacks of the transport and of the driver
  | .onState frame submitOk neutralOk now =>
    if s.worker = .notCreated then none
    else some { s with core := s.core.onState frame submitOk neutralOk now }
  | .onTransportDisconnected neutralOk =>
    if s.worker = .notCreated then none
    else some { s with core := s.core.onTransportDisconnected neutralOk }
  | .onRumble command => some { s with core := s.core.onRumble command }
  -- `Stop()`
  | .stop neutralOk =>
    if s.stop = .idle then
      some { s with
        core := s.core.stopLocked neutralOk
        stop := if s.core.state = .stopped then .returned else .stoppingTransport }
    else none
  | .stopsTransport =>
    if s.stop = .stoppingTransport then
      some { s with stop := .joining, transportStopped := true }
    else none
  | .stopJoins =>
    if s.stop = .joining ∧ (s.worker = .notCreated ∨ s.worker = .ended) then
      some { s with stop := .destroying }
    else none
  | .stopDestroys =>
    if s.stop = .destroying then
      some { s with core := { s.core with virtual := s.core.virtual.destroy }, stop := .returned }
    else none

/-- The server when `Start()` and `Stop()` have been called. -/
def system : System ServerHandle HandleLabel where
  init := {}
  next := step

end ServerHandle

/-! ### `Stop()` against `Start()` -/

namespace LanControllerServer

/-- What the callbacks, the watchdog and the worker do: nothing to a session that is not
running.  They leave it for `out` only, and release it then. -/
def Drifts (out : SessionState) (s t : LanControllerServer) : Prop :=
  t = s ∨ s.state = .running ∧ t.virtual.created = s.virtual.created ∧
    t.stopRequested = s.stopRequested ∧
      (t.state = .running ∨ t.state = out ∧ t.currentState = {})

theorem drifts_onState (s : LanControllerServer) (frame : StateFrame) (submitOk neutralOk : Bool)
    (now : Nat) : s.Drifts .faulted (s.onState frame submitOk neutralOk now) := by
  rcases onState_cases s frame submitOk neutralOk now with ⟨_, he⟩ | ⟨_, hr, _, he⟩ | ⟨_, hr, he⟩
  · exact .inl he
  · rw [he]
    exact .inr ⟨(running_of_not_refuses hr).1, rfl, rfl, .inl (running_of_not_refuses hr).1⟩
  · rw [he]
    exact .inr ⟨(running_of_not_refuses hr).1, by simp [neutralizeLocked], rfl, .inr ⟨rfl, rfl⟩⟩

theorem drifts_onRumble (s : LanControllerServer) (command : RumbleCommand) :
    s.Drifts .faulted (s.onRumble command) := by
  rw [onRumble]
  split
  · exact .inl rfl
  · rename_i hs
    exact .inr ⟨not_not.mp hs, rfl, rfl, .inl (not_not.mp hs)⟩

theorem drifts_onTransportDisconnected (s : LanControllerServer) (neutralOk : Bool) :
    s.Drifts .disconnected (s.onTransportDisconnected neutralOk) := by
  rw [onTransportDisconnected]
  split
  · exact .inl rfl
  · rename_i hs
    exact .inr ⟨not_not.mp hs, by simp [neutralizeLocked], rfl, .inr ⟨rfl, rfl⟩⟩

theorem drifts_transportStartFailed (s : LanControllerServer) (neutralOk : Bool) :
    s.Drifts .faulted (s.transportStartFailed neutralOk) := by
  rw [transportStartFailed]
  split
  · rename_i hs
    simp only [Bool.and_eq_true, beq_iff_eq] at hs
    exact .inr ⟨hs.2, by simp [neutralizeLocked], rfl, .inr ⟨rfl, rfl⟩⟩
  · exact .inl rfl

theorem drifts_watchdogRelease {s : LanControllerServer} (hs : s.state = .running)
    (neutralOk : Bool) : s.Drifts .faulted (s.watchdogRelease neutralOk) :=
  .inr ⟨hs, by simp [watchdogRelease, neutralizeLocked], rfl, .inl hs⟩

variable {out : SessionState} {s t : LanControllerServer}

theorem Drifts.eq_of_not_running (h : s.Drifts out t) (hs : s.state ≠ .running) : t = s := by
  rcases h with h | ⟨h, _⟩
  · exact h
  · exact absurd h hs

theorem Drifts.created (h : s.Drifts out t) : t.virtual.created = s.virtual.created := by
  rcases h with rfl | ⟨_, h, _⟩
  · rfl
  · exact h

theorem Drifts.state_eq (h : s.Drifts out t) : t.state = s.state ∨ t.state = out := by
  rcases h with rfl | ⟨hs, _, _, h | ⟨h, _⟩⟩
  · exact .inl rfl
  · exact .inl (h.trans hs.symm)
  · exact .inr h

theorem Drifts.stopRequested (h : s.Drifts out t) : t.stopRequested = s.stopRequested := by
  rcases h with rfl | ⟨_, _, h, _⟩
  · rfl
  · exact h

theorem Drifts.released (h : s.Drifts out t) (hs : s.state ≠ .running → s.currentState = {}) :
    t.state ≠ .running → t.currentState = {} := by
  intro hn
  rcases h with rfl | ⟨_, _, _, h | ⟨_, h⟩⟩
  · exact hs hn
  · exact absurd h hn
  · exact h

end LanControllerServer

def ServerStart.view : ServerStart → StartView
  | .checking | .creating | .createFailed => .early
  | .created => .created
  | .settingKey | .creatingWorker => .late
  | .returned _ => .returned

def ServerStop.view : ServerStop → StopView
  | .idle => .idle
  | .stoppingTransport | .joining | .destroying => .inside
  | .returned => .returned

namespace ServerHandle

open LanControllerServer

def view (s : ServerHandle) : View where
  state := s.core.state
  created := s.core.virtual.created
  start := s.start.view
  stop := s.stop.view

/-- No section of `Start()` finds `kStopped` when it writes the next state. -/
def StartMissesStop (s : ServerHandle) : HandleLabel → Prop
  | .startFailed | .startRunning => s.core.state ≠ .stopped
  | _ => True

instance (s : ServerHandle) : ∀ a : HandleLabel, Decidable (StartMissesStop s a)
  | .startFailed | .startRunning => inferInstanceAs (Decidable (s.core.state ≠ .stopped))
  | .startChecks | .create _ | .setExpectedPairingKey | .createWorker | .startServer _
  | .transportStartFailed _ | .watchdog _ | .workerEnds | .onState _ _ _ _ | .onRumble _
  | .onTransportDisconnected _ | .stop _ | .stopsTransport | .stopJoins | .stopDestroys =>
    .isTrue trivial

variable {s t : ServerHandle} {a : HandleLabel}

/-- A callback or the worker moves the session, and does not stop it. -/
theorem moves_of_drifts {out : SessionState} (h : s.core.Drifts out t.core) (hout : out ≠ .stopped)
    (hstart : t.start = s.start) (hstop : t.stop = s.stop) : s.view.Moves t.view := by
  refine .callback (congrArg ServerStart.view hstart) (congrArg ServerStop.view hstop) h.created
    (fun hs => congrArg LanControllerServer.state (h.eq_of_not_running hs)) fun ht => ?_
  rcases h.state_eq with he | he
  · exact he.symm.trans ht
  · exact absurd (he.symm.trans ht) hout

/-- The step is one of the worker or of a callback. -/
def ofOthers : HandleLabel → Bool
  | .startServer _ | .transportStartFailed _ | .watchdog _ | .workerEnds | .onState _ _ _ _
  | .onRumble _ | .onTransportDisconnected _ => true
  | _ => false

theorem moves_of_others (ha : ofOthers a = true) (h : s.step a = some t) :
    s.view.Moves t.view := by
  cases a with
  | startServer | workerEnds =>
    simp only [step, Option.ite_none_right_eq_some, Option.some.injEq] at h
    obtain ⟨_, rfl⟩ := h
    exact moves_of_drifts (show s.core.Drifts .faulted s.core from .inl rfl) (by decide) rfl rfl
  | transportStartFailed neutralOk =>
    simp only [step, Option.ite_none_right_eq_some, Option.some.injEq] at h
    obtain ⟨_, rfl⟩ := h
    exact moves_of_drifts (s.core.drifts_transportStartFailed neutralOk) (by decide) rfl rfl
  | watchdog neutralOk =>
    simp only [step, Option.ite_none_right_eq_some, Option.some.injEq] at h
    obtain ⟨⟨_, hlive, _⟩, rfl⟩ := h
    exact moves_of_drifts (drifts_watchdogRelease (live_iff.mp hlive).2 neutralOk) (by decide) rfl
      rfl
  | onState frame submitOk neutralOk now =>
    simp only [step, Option.ite_none_left_eq_some, Option.some.injEq] at h
    obtain ⟨_, rfl⟩ := h
    exact moves_of_drifts (s.core.drifts_onState frame submitOk neutralOk now) (by decide) rfl rfl
  | onTransportDisconnected neutralOk =>
    simp only [step, Option.ite_none_left_eq_some, Option.some.injEq] at h
    obtain ⟨_, rfl⟩ := h
    exact moves_of_drifts (s.core.drifts_onTransportDisconnected neutralOk) (by decide) rfl rfl
  | onRumble command =>
    obtain rfl := Option.some.inj h
    exact moves_of_drifts (s.core.drifts_onRumble command) (by decide) rfl rfl
  | _ => cases ha

/-- **What a step does to the handle.** -/
theorem moves_step (hok : StartMissesStop s a) (h : s.step a = some t) : s.view.Moves t.view := by
  cases a with
  | startChecks =>
    simp only [step, Option.ite_none_right_eq_some, Option.some.injEq] at h
    obtain ⟨hs, rfl⟩ := h
    refine .checks (congrArg ServerStart.view hs) ?_ rfl rfl rfl
    cases hm : s.core.mayStart
    · exact Or.inr rfl
    · exact Or.inl rfl
  | create ok =>
    simp only [step, Option.ite_none_right_eq_some, Option.some.injEq] at h
    obtain ⟨hs, rfl⟩ := h
    rcases VirtualController.create_cases s.core.virtual ok with ⟨h2, h1⟩ | ⟨h2, h1⟩ <;>
      rw [h1, h2]
    · exact .creates (congrArg ServerStart.view hs) rfl rfl rfl
    · exact .checks (congrArg ServerStart.view hs) (Or.inl rfl) rfl rfl rfl
  | startFailed =>
    simp only [step, Option.ite_none_right_eq_some, Option.some.injEq] at h
    obtain ⟨hs, rfl⟩ := h
    exact .writes hok (by rw [view, hs]; exact fun e => by cases e) (Or.inr rfl) rfl
      (fun e => by cases e) fun e => by cases e
  | startRunning =>
    simp only [step, Option.ite_none_right_eq_some, Option.some.injEq] at h
    obtain ⟨hs, rfl⟩ := h
    exact .writes hok (by rw [view, hs]; exact fun e => by cases e) (Or.inl rfl) rfl
      (fun e => by cases e) fun _ => congrArg ServerStart.view hs
  | setExpectedPairingKey =>
    simp only [step, Option.ite_none_right_eq_some, Option.some.injEq] at h
    obtain ⟨hs, rfl⟩ := h
    exact .goesOn (congrArg ServerStart.view hs) (Or.inl rfl) rfl rfl id
  | createWorker =>
    simp only [step, Option.ite_none_right_eq_some, Option.some.injEq] at h
    obtain ⟨hs, rfl⟩ := h
    exact .goesOn (congrArg ServerStart.view hs) (Or.inr rfl) rfl rfl id
  | startServer | transportStartFailed | watchdog | workerEnds | onState | onTransportDisconnected
    | onRumble => exact moves_of_others rfl h
  | stop neutralOk =>
    simp only [step, Option.ite_none_right_eq_some, Option.some.injEq] at h
    obtain ⟨hs, rfl⟩ := h
    by_cases hst : s.core.state = .stopped
    · refine .stops (congrArg ServerStop.view hs) ?_ rfl ?_ (fun e => absurd hst e)
      · simp [view, hst, ServerStop.view]
      · simp [view, stopLocked, hst]
    · refine .stops (congrArg ServerStop.view hs) ?_ rfl ?_ fun _ => ?_
      · simp [view, hst, ServerStop.view]
      · simp [view, stopLocked, hst]
      · simp [view, hst, ServerStop.view]
  | stopsTransport =>
    simp only [step, Option.ite_none_right_eq_some, Option.some.injEq] at h
    obtain ⟨hs, rfl⟩ := h
    exact .callback rfl (by rw [view, view, hs]; rfl) rfl (fun _ => rfl) id
  | stopJoins =>
    simp only [step, Option.ite_none_right_eq_some, Option.some.injEq] at h
    obtain ⟨⟨hs, _⟩, rfl⟩ := h
    exact .callback rfl (by rw [view, view, hs]; rfl) rfl (fun _ => rfl) id
  | stopDestroys =>
    simp only [step, Option.ite_none_right_eq_some, Option.some.injEq] at h
    obtain ⟨hs, rfl⟩ := h
    exact .destroys (congrArg ServerStop.view hs) rfl rfl rfl rfl

/-- `Start()` writes no state once it has returned. -/
theorem missesStop_of_returned (hs : s.start.view = .returned) (h : s.step a = some t) :
    StartMissesStop s a := by
  cases a with
  | startFailed | startRunning =>
    simp only [step, Option.ite_none_right_eq_some] at h
    rw [h.1] at hs
    cases hs
  | startChecks | create | setExpectedPairingKey | createWorker | startServer
    | transportStartFailed | watchdog | workerEnds | onState | onRumble | onTransportDisconnected
    | stop | stopsTransport | stopJoins | stopDestroys => exact trivial

end ServerHandle

end RemoteController
