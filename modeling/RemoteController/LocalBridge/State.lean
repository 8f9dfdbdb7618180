import RemoteController.Backends
import RemoteController.Lib.Transition

/-!
# `LocalControllerBridge`

The snapshot of `local_controller_bridge.h` and the locked sections of
`local_controller_bridge.cpp`, and `BridgeSide`: the bridge over its device and its
virtual controller, with the callers of `Start()` and `Stop()`, the poll thread of
the device and the notification thread of the driver.

`Start()`, `Stop()` and the callbacks hold `mutex_` for a section at a time and call
the backends outside it, so one step is one locked section or one call of a backend.
`Close()` of the device waits until the poll thread is out of its callback and never
calls back again.

* `BridgeSide.step`: what the threads can do.
* `system`: from the moment `Start()` is called.
-/

namespace RemoteController

open Lib Protocol

structure LocalControllerBridge where
  state : SessionState := .created
  sampleCount : UInt64 := 0
  timestampUs : UInt64 := 0
  currentState : GamepadStateV1 := {}
  rumbleCount : UInt64 := 0
  lowFrequencyMotor : UInt16 := 0
  highFrequencyMotor : UInt16 := 0
  deriving DecidableEq, Repr

namespace LocalControllerBridge

/-- The first section of `Start()`: whether it goes on. -/
def mayStart (b : LocalControllerBridge) : Bool := b.state == .created

/-- The section of `Start()` after `Create` failed. -/
def startFailed (b : LocalControllerBridge) : LocalControllerBridge := { b with state := .faulted }

/-- The section of `Start()` after `Create` succeeded. -/
def startRunning (b : LocalControllerBridge) : LocalControllerBridge := { b with state := .running }

/-- The section of `Start()` after `Open` failed. -/
def openFailed (b : LocalControllerBridge) : LocalControllerBridge :=
  { b with state := .faulted, currentState := {} }

/-- The section of `Stop()`; nothing when the bridge is stopped already. -/
def stopLocked (b : LocalControllerBridge) : Option LocalControllerBridge :=
  if b.state = .stopped then none else some { b with state := .stopped, currentState := {} }

/-- The first section of `OnState`: whether the report goes to the driver. -/
def onState (b : LocalControllerBridge) : Bool := b.state == .running

/-- The section of `OnState` after the driver refused the report. -/
def onStateRefused (b : LocalControllerBridge) : LocalControllerBridge :=
  if b.state = .running then { b with state := .faulted, currentState := {} } else b

/-- The section of `OnState` after the driver took the report. -/
def onStateAccepted (b : LocalControllerBridge) (state : GamepadStateV1) (timestampUs : UInt64) :
    LocalControllerBridge :=
  if b.state = .running then
    { b with
      currentState := state, timestampUs := timestampUs, sampleCount := b.sampleCount + 1 }
  else b

/-- The section of `OnDisconnected`, and whether the neutral report follows. -/
def onDisconnected (b : LocalControllerBridge) : LocalControllerBridge × Bool :=
  if b.state ≠ .running then (b, false)
  else ({ b with state := .disconnected, currentState := {} }, true)

/-- The section of `OnRumble`, and whether `SetRumble` is called next. -/
def onRumble (b : LocalControllerBridge) (command : RumbleCommand) :
    LocalControllerBridge × Bool :=
  if b.state ≠ .running then (b, false)
  else
    ({ b with
        lowFrequencyMotor := command.lowFrequencyMotor
        highFrequencyMotor := command.highFrequencyMotor
        rumbleCount := b.rumbleCount + 1 }, true)

@[simp] theorem onRumble_state (b : LocalControllerBridge) (command : RumbleCommand) :
    (b.onRumble command).1.state = b.state := by
  rw [onRumble]
  split <;> rfl

@[simp] theorem onRumble_currentState (b : LocalControllerBridge) (command : RumbleCommand) :
    (b.onRumble command).1.currentState = b.currentState := by
  rw [onRumble]
  split <;> rfl

end LocalControllerBridge

/-! ### The threads -/

/-- Where `Start()` is. -/
inductive BridgeStart where
  | checking
  | creating
  | createFailed
  | created
  | opening
  | openFailed
  | releasing
  | destroying
  | returned (result : Result)
  deriving DecidableEq, Repr

def BridgeStart.hasReturned : BridgeStart → Bool
  | .returned _ => true
  | _ => false

/-- Where `Stop()` is. -/
inductive BridgeStop where
  | idle
  | closing
  | releasing
  | destroying
  | returned
  deriving DecidableEq, Repr

/-- Where the poll thread is in its callback: past the test of `OnState`, behind
`SubmitState`, or before the neutral report that ends a callback. -/
inductive BridgePoll where
  | idle
  | submitting (report : GamepadStateV1)
  | refused
  | accepted (report : GamepadStateV1)
  | releasing
  deriving DecidableEq, Repr

/-- `isOpen`: the device is open, and its poll thread runs.  `submitted` are the
reports `SubmitState` was called with. -/
structure BridgeSide where
  core : LocalControllerBridge := {}
  virtual : VirtualController := {}
  start : BridgeStart := .checking
  stop : BridgeStop := .idle
  poll : BridgePoll := .idle
  isOpen : Bool := false
  submitted : List GamepadStateV1 := []
  deriving DecidableEq, Repr

inductive BridgeLabel where
  | startChecks
  | create (ok : Bool)
  | startFailed
  | startRunning
  | openDevice (ok : Bool)
  | openFailed
  | startReleases (neutralOk : Bool)
  | startDestroys
  | stop
  | stopCloses
  | stopReleases (neutralOk : Bool)
  | stopDestroys
  | onState (state : GamepadStateV1)
  | submitState (ok : Bool)
  | onStateRefused
  | onStateAccepted (timestampUs : UInt64)
  | onDisconnected
  | pollReleases (neutralOk : Bool)
  | onRumble (command : RumbleCommand)
  deriving DecidableEq, Repr

/-- The threads: the callers of `Start()` and of `Stop()`, the device's and the
driver's. -/
inductive BridgeThread where
  | start
  | stop
  | poll
  | notification
  deriving DecidableEq, Repr

/-- Whose step it is. -/
def BridgeLabel.thread : BridgeLabel → BridgeThread
  | .startChecks | .create _ | .startFailed | .startRunning | .openDevice _ | .openFailed
  | .startReleases _ | .startDestroys => .start
  | .stop | .stopCloses | .stopReleases _ | .stopDestroys => .stop
  | .onState _ | .submitState _ | .onStateRefused | .onStateAccepted _ | .onDisconnected
  | .pollReleases _ => .poll
  | .onRumble _ => .notification

namespace BridgeSide

/-- `SubmitNeutralState`, called by any of the three. -/
def release (s : BridgeSide) (neutralOk : Bool) : BridgeSide :=
  { s with
    virtual := s.virtual.submitNeutralState neutralOk, submitted := s.submitted ++ [.neutral] }

def step (s : BridgeSide) : BridgeLabel → Option BridgeSide
  -- `Start()`
  | .startChecks =>
    if s.start = .checking then
      some { s with start := if s.core.mayStart then .creating else .returned .invalidState }
    else none
  | .create ok =>
    if s.start = .creating then
      some { s with
        virtual := (s.virtual.create ok).1
        start := if (s.virtual.create ok).2 then .created else .createFailed }
    else none
  | .startFailed =>
    if s.start = .createFailed then
      some { s with core := s.core.startFailed, start := .returned .backendFailure }
    else none
  | .startRunning =>
    if s.start = .created then some { s with core := s.core.startRunning, start := .opening }
    else none
  | .openDevice ok =>
    if s.start = .opening then
      if ok then some { s with start := .returned .ok, isOpen := true }
      else some { s with start := .openFailed }
    else none
  | .openFailed =>
    if s.start = .openFailed then some { s with core := s.core.openFailed, start := .releasing }
    else none
  | .startReleases neutralOk =>
    if s.start = .releasing then some { s.release neutralOk with start := .destroying } else none
  | .startDestroys =>
    if s.start = .destroying then
      some { s with virtual := s.virtual.destroy, start := .returned .backendFailure }
    else none
  -- `Stop()`
  | .stop =>
    if s.stop = .idle then
      match s.core.stopLocked with
      | none => some { s with stop := .returned }
      | some core => some { s with core := core, stop := .closing }
    else none
  | .stopCloses =>
    if s.stop = .closing ∧ s.poll = .idle then some { s with isOpen := false, stop := .releasing }
    else none
  | .stopReleases neutralOk =>
    if s.stop = .releasing then some { s.release neutralOk with stop := .destroying } else none
  | .stopDestroys =>
    if s.stop = .destroying then
      some { s with virtual := s.virtual.destroy, stop := .returned }
    else none
  -- the poll thread
  | .onState state =>
    if s.isOpen = true ∧ s.poll = .idle then
      some { s with poll := if s.core.onState then .submitting state else .idle }
    else none
  | .submitState ok =>
    match s.poll with
    | .submitting report =>
      some { s with
        virtual := (s.virtual.submitState report ok).1
        submitted := s.submitted ++ [report]
        poll := if (s.virtual.submitState report ok).2 then .accepted report else .refused }
    | _ => none
  | .onStateRefused =>
    if s.poll = .refused then some { s with core := s.core.onStateRefused, poll := .releasing }
    else none
  | .onStateAccepted timestampUs =>
    match s.poll with
    | .accepted report =>
      some { s with core := s.core.onStateAccepted report timestampUs, poll := .idle }
    | _ => none
  | .onDisconnected =>
    if s.isOpen = true ∧ s.poll = .idle then
      some { s with
        core := s.core.onDisconnected.1
        poll := if s.core.onDisconnected.2 then .releasing else .idle }
    else none
  | .pollReleases neutralOk =>
    if s.poll = .releasing then some { s.release neutralOk with poll := .idle } else none
  -- the notification thread
  | .onRumble command => some { s with core := (s.core.onRumble command).1 }

/-- The bridge when `Start()` has been called. -/
def system : System BridgeSide BridgeLabel where
  init := {}
  next := step

end BridgeSide

end RemoteController
