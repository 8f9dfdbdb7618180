import RemoteController.Backends
import RemoteController.Lib.Monitor

/-!
# `Session`

The loopback session of `session.h` and the locked sections of `session.cpp`,
written like those of `LanControllerServer`: a function from the state in which
the section takes `mutex_` to the state in which it releases it, with the
answers of the virtual controller as arguments.

The two counters are unbounded here, and the code's are these modulo 2^64.  No section
reads `neutralization_count_`, which is at most one above `accepted_state_count_`.
`OnStateFrame` tests that one against 0; accepted sequence numbers are strictly
increasing from 0 on, so it wraps only with the last number there is, and after that
`SubmitState` lets no frame through.

`locked_cases` says what a section can do to the fields of the watchdog, and
`monitor` puts the sections around `WatchdogLoop`.
-/

namespace RemoteController

open Lib Protocol

structure Session where
  state : SessionState := .created
  outputState : GamepadStateV1 := {}
  highestSubmittedSequence : UInt64 := 0
  latestSequence : UInt64 := 0
  acceptedStateCount : Nat := 0
  neutralizationCount : Nat := 0
  lastInputTimestampUs : UInt64 := 0
  lastInputArrival : Nat := 0
  hasSubmittedSequence : Bool := false
  watchdogArmed : Bool := false
  watchdogExit : Bool := false
  virtual : VirtualController := {}
  deriving DecidableEq, Repr

namespace Session

/-! ### The locked sections -/

def neutralizeLocked (s : Session) (neutralOk : Bool) : Session :=
  { s with
    virtual := s.virtual.submitNeutralState neutralOk
    outputState := {}
    neutralizationCount := s.neutralizationCount + 1
    watchdogArmed := false }

/-- `Start()`, with the answers of `Create` and of the transport's
`StartServer`. -/
def start (s : Session) (createOk transportOk : Bool) : Session × Result :=
  if s.state ≠ .created then (s, .invalidState)
  else
    let (virtual, ok) := s.virtual.create createOk
    if !ok then ({ s with virtual := virtual, state := .faulted }, .backendFailure)
    else if !transportOk then
      ({ s with
          virtual := (virtual.submitNeutralState true).destroy
          state := .faulted
          watchdogExit := false }, .backendFailure)
    else ({ s with virtual := virtual, state := .running, watchdogExit := false }, .ok)

/-- The first critical section of `SubmitState`: `.ok` lets the call go on to
the transport. -/
def submitStateLocked (s : Session) (sequence : UInt64) : Session × Result :=
  if s.state ≠ .running then (s, .invalidState)
  else if s.hasSubmittedSequence && decide (sequence ≤ s.highestSubmittedSequence) then
    (s, .staleSequence)
  else ({ s with hasSubmittedSequence := true, highestSubmittedSequence := sequence }, .ok)

/-- The locked section of `Stop()`. -/
def stopLocked (s : Session) (neutralOk : Bool) : Session :=
  match s.state with
  | .created => { s with state := .stopped }
  | .stopped => s
  | .running =>
    { { s with state := .stopped }.neutralizeLocked neutralOk with watchdogExit := true }
  | .disconnected | .faulted => { s with watchdogExit := true }

/-- `OnStateFrame` turns the frame away before it reaches the virtual
controller. -/
def refuses (s : Session) (frame : StateFrame) : Bool :=
  s.state != .running ||
    (s.acceptedStateCount != 0 && decide (frame.sequence ≤ s.latestSequence))

def onStateFrame (s : Session) (frame : StateFrame) (submitOk neutralOk : Bool) (now : Nat) :
    Session :=
  if s.refuses frame then s
  else
    let (virtual, ok) := s.virtual.submitState frame.state submitOk
    if ok then
      { s with
        virtual := virtual
        outputState := frame.state
        latestSequence := frame.sequence
        acceptedStateCount := s.acceptedStateCount + 1
        lastInputTimestampUs := frame.timestampUs
        lastInputArrival := now
        watchdogArmed := true }
    else
      { { s with virtual := virtual, state := .faulted }.neutralizeLocked neutralOk with
        watchdogExit := true }

/-- `OnStateFrame` applies the frame. -/
def applies (s : Session) (frame : StateFrame) (submitOk : Bool) : Bool :=
  !s.refuses frame && (s.virtual.submitState frame.state submitOk).2

/-- The locked section of `OnDisconnected`. -/
def onDisconnected (s : Session) (neutralOk : Bool) : Session :=
  if s.state ≠ .running then s
  else
    { { s with state := .disconnected }.neutralizeLocked neutralOk with watchdogExit := true }

/-- What the branch of `WatchdogLoop` does, once its test passed. -/
def watchdogRelease (s : Session) (neutralOk : Bool) : Session :=
  { s.neutralizeLocked neutralOk with watchdogArmed := false }

/-- **The three outcomes of `OnStateFrame`.** -/
theorem onStateFrame_cases (s : Session) (frame : StateFrame) (submitOk neutralOk : Bool)
    (now : Nat) :
    (s.applies frame submitOk = false ∧ s.onStateFrame frame submitOk neutralOk now = s) ∨
    (s.applies frame submitOk = true ∧ s.refuses frame = false ∧ s.virtual.created = true ∧
      s.onStateFrame frame submitOk neutralOk now =
        { s with
          virtual := { s.virtual with lastReport := frame.state }
          outputState := frame.state
          latestSequence := frame.sequence
          acceptedStateCount := s.acceptedStateCount + 1
          lastInputTimestampUs := frame.timestampUs
          lastInputArrival := now
          watchdogArmed := true }) ∨
    (s.applies frame submitOk = false ∧ s.refuses frame = false ∧
      s.onStateFrame frame submitOk neutralOk now =
        { { s with state := .faulted }.neutralizeLocked neutralOk with watchdogExit := true }) := by
  by_cases hr : s.refuses frame = true
  · left
    simp [applies, onStateFrame, hr]
  · right
    have hr' : s.refuses frame = false := by simpa using hr
    by_cases hv : (s.virtual.created && submitOk) = true
    · left
      have hc : s.virtual.created = true := by
        simp only [Bool.and_eq_true] at hv; exact hv.1
      refine ⟨?_, hr', hc, ?_⟩
      · simp [applies, hr', VirtualController.submitState, hv]
      · simp [onStateFrame, hr', VirtualController.submitState, hv]
    · right
      refine ⟨?_, hr', ?_⟩
      · simp [applies, hr', VirtualController.submitState, hv]
      · simp [onStateFrame, hr', VirtualController.submitState, hv]

/-! ### The threads -/

inductive Section where
  | submitState (sequence : UInt64)
  | onStateFrame (frame : StateFrame) (submitOk neutralOk : Bool)
  | onDisconnected (neutralOk : Bool)
  | stop (neutralOk : Bool)
  deriving DecidableEq, Repr

def locked : Section → Nat → Session → Session
  | .submitState sequence, _, s => (s.submitStateLocked sequence).1
  | .onStateFrame frame submitOk neutralOk, now, s => s.onStateFrame frame submitOk neutralOk now
  | .onDisconnected neutralOk, _, s => s.onDisconnected neutralOk
  | .stop neutralOk, _, s => s.stopLocked neutralOk

/-- Whether and when a section calls `watchdog_condition_.notify_all()`. -/
def notify : Section → Session → Notify
  | .submitState _, _ => .none
  | .onStateFrame frame _ _, s => if s.refuses frame then .none else .inside
  | .onDisconnected _, s => if s.state ≠ .running then .none else .after
  | .stop _, s => if s.state = .created ∨ s.state = .stopped then .none else .after

def feeds : Section → Session → Bool
  | .onStateFrame frame submitOk _, s => s.applies frame submitOk
  | _, _ => false

/-- **What a locked section can do to the watchdog's fields**: stamp a new
arrival, tell the loop to exit, or leave them alone. -/
theorem locked_cases (a : Section) (now : Nat) (s : Session) :
    (feeds a s = true ∧ notify a s = .inside ∧ (locked a now s).lastInputArrival = now ∧
      (locked a now s).watchdogArmed = true ∧ (locked a now s).watchdogExit = s.watchdogExit) ∨
    (feeds a s = false ∧ (locked a now s).lastInputArrival = s.lastInputArrival ∧
      ((locked a now s).watchdogExit = true ∨
        (locked a now s).watchdogExit = s.watchdogExit ∧
          (locked a now s).watchdogArmed = s.watchdogArmed)) := by
  cases a with
  | submitState sequence =>
    refine Or.inr ⟨rfl, ?_⟩
    simp only [locked, submitStateLocked]
    split
    · exact ⟨rfl, Or.inr ⟨rfl, rfl⟩⟩
    · split
      · exact ⟨rfl, Or.inr ⟨rfl, rfl⟩⟩
      · exact ⟨rfl, Or.inr ⟨rfl, rfl⟩⟩
  | onStateFrame frame submitOk neutralOk =>
    rcases onStateFrame_cases s frame submitOk neutralOk now with ⟨hf, he⟩ | ⟨hf, hr, _, he⟩ | ⟨hf, _, he⟩
    · right
      rw [locked, he]
      exact ⟨hf, rfl, Or.inr ⟨rfl, rfl⟩⟩
    · left
      rw [locked, he]
      exact ⟨hf, by simp [notify, hr], rfl, rfl, rfl⟩
    · right
      rw [locked, he]
      exact ⟨hf, rfl, Or.inl rfl⟩
  | onDisconnected neutralOk =>
    refine Or.inr ⟨rfl, ?_⟩
    simp only [locked, onDisconnected]
    split
    · exact ⟨rfl, Or.inr ⟨rfl, rfl⟩⟩
    · exact ⟨rfl, Or.inl rfl⟩
  | stop neutralOk =>
    refine Or.inr ⟨rfl, ?_⟩
    simp only [locked, stopLocked]
    split
    · exact ⟨rfl, Or.inr ⟨rfl, rfl⟩⟩
    · exact ⟨rfl, Or.inr ⟨rfl, rfl⟩⟩
    · exact ⟨rfl, Or.inl rfl⟩
    · exact ⟨rfl, Or.inl rfl⟩
    · exact ⟨rfl, Or.inl rfl⟩

/-- The loop of `WatchdogLoop`. -/
def monitor (inputTimeout : Nat) : Monitor Session Section Bool where
  live s := !s.watchdogExit
  armed := watchdogArmed
  arrival := lastInputArrival
  timeout := inputTimeout
  locked := locked
  own _ := false
  notify := notify
  feeds := feeds
  fire neutralOk s := s.watchdogRelease neutralOk
  arrival_of_feeds := by
    intro a t s h
    rcases locked_cases a t s with ⟨_, _, ha, _⟩ | ⟨hf, _⟩
    · exact ha
    · simp [hf] at h
  armed_of_feeds := by
    intro a t s h
    rcases locked_cases a t s with ⟨_, _, _, ha, _⟩ | ⟨hf, _⟩
    · exact ha
    · simp [hf] at h
  notify_of_feeds := by
    intro a s h
    rcases locked_cases a 0 s with ⟨_, hn, _⟩ | ⟨hf, _⟩
    · exact hn
    · simp [hf] at h
  arrival_of_idle := by
    intro a t s h
    rcases locked_cases a t s with ⟨hf, _⟩ | ⟨_, ha, _⟩
    · simp [hf] at h
    · exact ha
  armed_of_idle := by
    intro a t s h hl
    rcases locked_cases a t s with ⟨hf, _⟩ | ⟨_, _, he | ⟨_, ha⟩⟩
    · simp [hf] at h
    · simp [he] at hl
    · exact ha
  live_of_locked := by
    intro a t s hl
    rcases locked_cases a t s with ⟨_, _, _, _, he⟩ | ⟨_, _, he | ⟨he, _⟩⟩
    · simpa [he] using hl
    · simp [he] at hl
    · simpa [he] using hl

/-- The session when `Start()` has returned `kOk`. -/
def started : Session := (start {} true true).1

theorem start_ok : (start {} true true).2 = .ok := rfl

/-- The session and its threads, from the moment `Start()` returned `kOk` and the
clock showed `now`. -/
def system (inputTimeout now : Nat) :
    System (Monitor.State Session) (Monitor.Label Section Bool) :=
  (monitor inputTimeout).system started now

end Session

end RemoteController
