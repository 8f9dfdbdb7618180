import RemoteController.Backends

/-!
# `LanControllerClient`

The fields of `lan_controller_session.h` and the locked sections of
`lan_controller_session.cpp`, each a function from the state in which the section
takes `mutex_` to the state in which it releases it.  A section that decides what
its caller does next returns that too.
-/

namespace RemoteController

open Protocol

structure LanControllerClient where
  state : SessionState := .created
  currentState : GamepadStateV1 := {}
  latestSequence : UInt64 := 0
  lastInputTimestampUs : UInt64 := 0
  rumbleCount : UInt64 := 0
  lowFrequencyMotor : UInt16 := 0
  highFrequencyMotor : UInt16 := 0
  stopRequested : Bool := false
  deriving DecidableEq, Repr

namespace LanControllerClient

def nextSequenceLocked (c : LanControllerClient) : LanControllerClient × UInt64 :=
  ({ c with latestSequence := c.latestSequence + 1 }, c.latestSequence + 1)

/-- `Start()`, up to the creation of the worker thread. -/
def start (c : LanControllerClient) : LanControllerClient × Result :=
  if c.state ≠ .created then (c, .invalidState)
  else ({ c with state := .running, stopRequested := false }, .ok)

/-- The branches of `StartWorker` for a transport that did not start and for a
device that did not open. -/
def startFailed (c : LanControllerClient) : LanControllerClient :=
  if !c.stopRequested && c.state == .running then { c with state := .faulted } else c

/-- What `StartWorker` tests before it opens the device. -/
def mayOpen (c : LanControllerClient) : Bool := !(c.stopRequested || c.state != .running)

/-- What `StartWorker` waits for once the device is open. -/
def mustClose (c : LanControllerClient) : Bool := c.stopRequested || c.state != .running

/-- The first locked section of `OnInputState`: the number of the frame, unless
the session is over. -/
def onInputState (c : LanControllerClient) : Option (LanControllerClient × UInt64) :=
  if c.state ≠ .running ∨ c.stopRequested = true then none else some c.nextSequenceLocked

/-- The second locked section of `OnInputState`, after `SendState` returned true. -/
def onStateSent (c : LanControllerClient) (frame : StateFrame) : LanControllerClient :=
  if c.state = .running then
    { c with currentState := frame.state, lastInputTimestampUs := frame.timestampUs }
  else c

/-- The common body of the two disconnect callbacks. -/
def disconnect (c : LanControllerClient) : LanControllerClient :=
  if c.state ≠ .running then c else { c with state := .disconnected, currentState := {} }

def onInputDisconnected (c : LanControllerClient) : LanControllerClient := c.disconnect

def onTransportDisconnected (c : LanControllerClient) : LanControllerClient := c.disconnect

/-- The locked section of `OnRumble`, and whether `SetRumble` is called next. -/
def onRumble (c : LanControllerClient) (command : RumbleCommand) : LanControllerClient × Bool :=
  if c.state ≠ .running then (c, false)
  else
    ({ c with
        lowFrequencyMotor := command.lowFrequencyMotor
        highFrequencyMotor := command.highFrequencyMotor
        rumbleCount := c.rumbleCount + 1 }, true)

/-- The first locked section of `Stop()`, and `send_neutral`; nothing when the
session is stopped already. -/
def stopLocked (c : LanControllerClient) : Option (LanControllerClient × Bool) :=
  if c.state = .stopped then none
  else
    some ({ c with state := .stopped, stopRequested := true, currentState := {} },
      c.state == .running)

/-- The second locked section of `Stop()`: the frame of the final neutral state. -/
def neutralLocked (c : LanControllerClient) (timestampUs : UInt64) :
    LanControllerClient × StateFrame :=
  let (d, sequence) := c.nextSequenceLocked
  ({ d with lastInputTimestampUs := timestampUs },
    { state := {}, sequence := sequence, timestampUs := timestampUs })

/-! ### What the sections leave alone -/

/-- The section does not bring the session back to `kRunning`. -/
def Fades (c d : LanControllerClient) : Prop :=
  d.state = .running → c.state = .running ∧ d.stopRequested = c.stopRequested

theorem fades_refl (c : LanControllerClient) : Fades c c := fun h => ⟨h, rfl⟩

/-- A section that takes no number and does not bring the session back. -/
structure KeepsNumber (c d : LanControllerClient) : Prop where
  latestSequence : d.latestSequence = c.latestSequence
  stopped : c.state = .stopped → d.state = .stopped
  fades : Fades c d

theorem keepsNumber_refl (c : LanControllerClient) : KeepsNumber c c := ⟨rfl, id, fades_refl c⟩

theorem startFailed_keeps (c : LanControllerClient) : KeepsNumber c c.startFailed := by
  rw [startFailed]
  split
  · rename_i h
    refine ⟨rfl, fun hs => ?_, fun hr => by cases hr⟩
    rw [hs] at h
    simp at h
  · exact keepsNumber_refl c

theorem onStateSent_keeps (c : LanControllerClient) (frame : StateFrame) :
    KeepsNumber c (c.onStateSent frame) := by
  rw [onStateSent]
  split <;> exact ⟨rfl, id, fun hr => ⟨hr, rfl⟩⟩

theorem disconnect_keeps (c : LanControllerClient) : KeepsNumber c c.disconnect := by
  rw [disconnect]
  split
  · exact keepsNumber_refl c
  · rename_i h
    refine ⟨rfl, fun hs => ?_, fun hr => by cases hr⟩
    rw [hs] at h
    exact absurd (by decide) h

theorem onRumble_keeps (c : LanControllerClient) (command : RumbleCommand) :
    KeepsNumber c (c.onRumble command).1 := by
  rw [onRumble]
  split <;> exact ⟨rfl, id, fun hr => ⟨hr, rfl⟩⟩

/-- A start that failed leaves no running session behind. -/
theorem startFailed_state {c : LanControllerClient}
    (h : c.stopRequested = true → c.state ≠ .running) : c.startFailed.state ≠ .running := by
  rw [startFailed]
  split
  · intro hr
    cases hr
  · rename_i hno
    intro hr
    by_cases hs : c.stopRequested = true
    · exact h hs hr
    · exact hno (by simp [hs, hr])

/-- A device that has disconnected, or a transport, leaves none either. -/
theorem disconnect_state (c : LanControllerClient) : c.disconnect.state ≠ .running := by
  rw [disconnect]
  split
  · assumption
  · intro hr
    cases hr

theorem running_of_onInputState {c d : LanControllerClient} {sequence : UInt64}
    (h : c.onInputState = some (d, sequence)) :
    c.state = .running ∧ c.stopRequested = false ∧ sequence = c.latestSequence + 1 ∧
      d = { c with latestSequence := c.latestSequence + 1 } := by
  rw [onInputState] at h
  split at h
  · cases h
  · rename_i hr
    rw [not_or] at hr
    simp only [nextSequenceLocked, Option.some.injEq, Prod.mk.injEq] at h
    exact ⟨not_not.mp hr.1, by simpa using hr.2, h.2.symm, h.1.symm⟩

/-- The first section of `Stop()` is the first one only, and it ends the session. -/
theorem stopped_of_stopLocked {c d : LanControllerClient} {neutral : Bool}
    (h : c.stopLocked = some (d, neutral)) :
    c.state ≠ .stopped ∧ d.state = .stopped ∧ d.latestSequence = c.latestSequence ∧
      neutral = (c.state == .running) := by
  rw [stopLocked] at h
  split at h
  · cases h
  · rename_i hs
    simp only [Option.some.injEq, Prod.mk.injEq] at h
    obtain ⟨rfl, rfl⟩ := h
    exact ⟨hs, rfl, rfl, rfl⟩

end LanControllerClient

end RemoteController
