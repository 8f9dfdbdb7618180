import RemoteController.Backends
import RemoteController.Lib.Monitor

/-!
# `LanControllerServer`

The fields of `lan_controller_session.h` and the locked sections of
`lan_controller_session.cpp`, each a function from the state in which the
section takes `mutex_` to the state in which it releases it.  What a section
asks of the driver comes in as an argument: `submitOk` and `neutralOk` say
whether the driver accepts the report of `SubmitState` and of
`SubmitNeutralState`.  Times are readings of the steady clock.

The three counters are unbounded here, and the code's are these modulo 2^64.  No
section reads `neutralization_count_`, which is at most one above
`received_state_count_`, or `rumble_count_`, one for each command.  `OnState` tests
`received_state_count_` against 0, and that one never wraps: accepted sequence
numbers are strictly increasing, and the transport drops a frame numbered 0, so the
count is at most the latest number (`receivedStateCount_le`).

`monitor` puts the sections around the watchdog loop of `StartWorker`, as an
instance of `Lib.Monitor`; `system` is the server after `Start()` returned
`kOk`, with every thread that still can run.
-/

namespace RemoteController

open Lib Protocol

structure LanControllerServer where
  state : SessionState := .created
  currentState : GamepadStateV1 := {}
  latestSequence : UInt64 := 0
  receivedStateCount : Nat := 0
  neutralizationCount : Nat := 0
  lastInputTimestampUs : UInt64 := 0
  rumbleCount : Nat := 0
  lowFrequencyMotor : UInt16 := 0
  highFrequencyMotor : UInt16 := 0
  lastInputArrival : Nat := 0
  watchdogArmed : Bool := false
  stopRequested : Bool := false
  virtual : VirtualController := {}
  deriving DecidableEq, Repr

namespace LanControllerServer

/-! ### The locked sections -/

def neutralizeLocked (s : LanControllerServer) (neutralOk : Bool) : LanControllerServer :=
  { s with
    virtual := s.virtual.submitNeutralState neutralOk
    currentState := {}
    neutralizationCount := s.neutralizationCount + 1
    watchdogArmed := false }

/-- `Start()`, up to the creation of the worker thread. -/
def start (s : LanControllerServer) (createOk : Bool) : LanControllerServer × Result :=
  if s.state ≠ .created then (s, .invalidState)
  else
    let (virtual, ok) := s.virtual.create createOk
    if ok then ({ s with virtual := virtual, state := .running, stopRequested := false }, .ok)
    else ({ s with virtual := virtual, state := .faulted }, .backendFailure)

/-- The branch of `StartWorker` for a transport that did not start. -/
def transportStartFailed (s : LanControllerServer) (neutralOk : Bool) : LanControllerServer :=
  if !s.stopRequested && s.state == .running then
    { s with state := .faulted }.neutralizeLocked neutralOk
  else s

/-- What the watchdog branch of `StartWorker` does, once its test passed. -/
def watchdogRelease (s : LanControllerServer) (neutralOk : Bool) : LanControllerServer :=
  { s.neutralizeLocked neutralOk with watchdogArmed := false }

/-- The locked section of `Stop()`. -/
def stopLocked (s : LanControllerServer) (neutralOk : Bool) : LanControllerServer :=
  if s.state = .stopped then s
  else
    let released := if s.state = .running then s.neutralizeLocked neutralOk else s
    { released with state := .stopped, stopRequested := true }

/-- `OnState` turns the frame away before it reaches the driver. -/
def refuses (s : LanControllerServer) (frame : StateFrame) : Bool :=
  s.state != .running || s.stopRequested ||
    (s.receivedStateCount != 0 && decide (frame.sequence ≤ s.latestSequence))

def onState (s : LanControllerServer) (frame : StateFrame) (submitOk neutralOk : Bool)
    (now : Nat) : LanControllerServer :=
  if s.refuses frame then s
  else
    let (virtual, ok) := s.virtual.submitState frame.state submitOk
    if ok then
      { s with
        virtual := virtual
        currentState := frame.state
        latestSequence := frame.sequence
        receivedStateCount := s.receivedStateCount + 1
        lastInputTimestampUs := frame.timestampUs
        lastInputArrival := now
        watchdogArmed := true }
    else { s with virtual := virtual, state := .faulted }.neutralizeLocked neutralOk

/-- `OnState` applies the frame. -/
def applies (s : LanControllerServer) (frame : StateFrame) (submitOk : Bool) : Bool :=
  !s.refuses frame && (s.virtual.submitState frame.state submitOk).2

/-- The locked section of `OnRumble`. -/
def onRumble (s : LanControllerServer) (command : RumbleCommand) : LanControllerServer :=
  if s.state ≠ .running then s
  else
    { s with
      lowFrequencyMotor := command.lowFrequencyMotor
      highFrequencyMotor := command.highFrequencyMotor
      rumbleCount := s.rumbleCount + 1 }

/-- The locked section of `OnTransportDisconnected`. -/
def onTransportDisconnected (s : LanControllerServer) (neutralOk : Bool) : LanControllerServer :=
  if s.state ≠ .running then s
  else { s with state := .disconnected }.neutralizeLocked neutralOk

/-! ### What `OnState` does -/

/-- **The three outcomes of `OnState`**: refused, applied, or faulted by the
driver. -/
theorem onState_cases (s : LanControllerServer) (frame : StateFrame) (submitOk neutralOk : Bool)
    (now : Nat) :
    (s.applies frame submitOk = false ∧ s.onState frame submitOk neutralOk now = s) ∨
    (s.applies frame submitOk = true ∧ s.refuses frame = false ∧ s.virtual.created = true ∧
      s.onState frame submitOk neutralOk now =
        { s with
          virtual := { s.virtual with lastReport := frame.state }
          currentState := frame.state
          latestSequence := frame.sequence
          receivedStateCount := s.receivedStateCount + 1
          lastInputTimestampUs := frame.timestampUs
          lastInputArrival := now
          watchdogArmed := true }) ∨
    (s.applies frame submitOk = false ∧ s.refuses frame = false ∧
      s.onState frame submitOk neutralOk now =
        { s with state := .faulted }.neutralizeLocked neutralOk) := by
  by_cases hr : s.refuses frame = true
  · left
    simp [applies, onState, hr]
  · right
    have hr' : s.refuses frame = false := by simpa using hr
    by_cases hv : (s.virtual.created && submitOk) = true
    · left
      have hc : s.virtual.created = true := by
        simp only [Bool.and_eq_true] at hv; exact hv.1
      refine ⟨?_, hr', hc, ?_⟩
      · simp [applies, hr', VirtualController.submitState, hv]
      · simp [onState, hr', VirtualController.submitState, hv]
    · right
      refine ⟨?_, hr', ?_⟩
      · simp [applies, hr', VirtualController.submitState, hv]
      · simp [onState, hr', VirtualController.submitState, hv]

/-- A frame that is neither refused nor applied faults the session. -/
theorem faulted_of_not_applies {s : LanControllerServer} {frame : StateFrame} {submitOk : Bool}
    (hr : s.refuses frame = false) (ha : s.applies frame submitOk = false) (neutralOk : Bool)
    (now : Nat) : (s.onState frame submitOk neutralOk now).state = .faulted := by
  simp only [applies, hr, Bool.not_false, Bool.true_and] at ha
  simp only [onState, hr, ha, Bool.false_eq_true, if_false]
  rfl

theorem running_of_not_refuses {s : LanControllerServer} {frame : StateFrame}
    (h : s.refuses frame = false) : s.state = .running ∧ s.stopRequested = false := by
  simp only [refuses, Bool.or_eq_false_iff, bne_eq_false_iff_eq] at h
  exact ⟨h.1.1, h.1.2⟩

/-! ### The threads -/

/-- The locked sections by the thread that runs them, with what the driver
answers.  `destroy` is `virtual_backend_->Destroy()`, which `Stop()` calls
last. -/
inductive Section where
  | onState (frame : StateFrame) (submitOk neutralOk : Bool)
  | onRumble (command : RumbleCommand)
  | onTransportDisconnected (neutralOk : Bool)
  | stop (neutralOk : Bool)
  | transportStartFailed (neutralOk : Bool)
  | destroy
  deriving DecidableEq, Repr

def locked : Section → Nat → LanControllerServer → LanControllerServer
  | .onState frame submitOk neutralOk, now, s => s.onState frame submitOk neutralOk now
  | .onRumble command, _, s => s.onRumble command
  | .onTransportDisconnected neutralOk, _, s => s.onTransportDisconnected neutralOk
  | .stop neutralOk, _, s => s.stopLocked neutralOk
  | .transportStartFailed neutralOk, _, s => s.transportStartFailed neutralOk
  | .destroy, _, s => if s.stopRequested then { s with virtual := s.virtual.destroy } else s

/-- Whether and when a section calls `condition_.notify_all()`. -/
def notify : Section → LanControllerServer → Notify
  | .onState frame _ _, s => if s.refuses frame then .none else .inside
  | .onRumble _, _ => .none
  | .onTransportDisconnected _, s => if s.state ≠ .running then .none else .after
  | .stop _, s => if s.state = .stopped then .none else .after
  | .transportStartFailed _, _ => .inside
  | .destroy, _ => .none

def feeds : Section → LanControllerServer → Bool
  | .onState frame submitOk _, s => s.applies frame submitOk
  | _, _ => false

/-- The condition of the worker's loop. -/
def live (s : LanControllerServer) : Bool := !s.stopRequested && s.state == .running

theorem live_iff {s : LanControllerServer} :
    s.live = true ↔ s.stopRequested = false ∧ s.state = .running := by
  simp [live]

end LanControllerServer

end RemoteController
