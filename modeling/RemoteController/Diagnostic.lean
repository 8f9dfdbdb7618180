import RemoteController.Loopback
import RemoteController.Session.State

/-!
# The loopback diagnostic

`runLoopbackDiagnostic` of `native_core_service.dart`: submit one frame to a
loopback session, poll until a snapshot shows its sequence, compare the output
state of that snapshot with what was submitted, and poll until the watchdog has
released it.  The session, its watchdog thread and its transport run beside the
polls; the two clocks that the caller reads (`DateTime.now()` and the stopwatch)
are in the labels.

The first comparison reads the output state of whichever snapshot shows the
sequence first.  `latest_sequence_` survives `NeutralizeLocked` and
`output_state_` does not, so a poll that comes after the watchdog compares the
submitted state with the neutral one (`latePoll_fails`).

* `inv_run`: where the submitted frame can be, and what the session shows then.
* `diagnostic_passes_iff`: a run throws nothing but the timeout exactly when the
  first poll to find the sequence comes before the watchdog.
-/

namespace RemoteController

open Lib Protocol

/-- `SessionSnapshot`, as `NativeSessionSnapshot` holds it. -/
structure SessionSnapshot where
  state : SessionState
  latestSequence : UInt64
  acceptedStateCount : Nat
  neutralizationCount : Nat
  lastInputTimestampUs : UInt64
  outputState : GamepadStateV1
  deriving DecidableEq, Repr

def Session.snapshot (s : Session) : SessionSnapshot where
  state := s.state
  latestSequence := s.latestSequence
  acceptedStateCount := s.acceptedStateCount
  neutralizationCount := s.neutralizationCount
  lastInputTimestampUs := s.lastInputTimestampUs
  outputState := s.outputState

structure LoopbackDiagnosticData where
  acceptedStateCount : Nat
  neutralizationCount : Nat
  elapsedMilliseconds : Nat
  deriving DecidableEq, Repr

namespace LoopbackDiagnostic

/-! ### The call -/

/-- The `GamepadState` that is submitted. -/
def submittedState : GamepadStateV1 where
  buttonFlags := kA
  leftTrigger := 65535
  rightTrigger := 32768
  leftStickX := -32768
  leftStickY := 32767
  rightStickX := -1234
  rightStickY := 4321

def submittedFrame (timestampUs : UInt64) : StateFrame :=
  { state := submittedState, sequence := 1, timestampUs := timestampUs }

/-- The first comparison. -/
def changed (outputState : GamepadStateV1) : Bool :=
  outputState.buttonFlags != kA || outputState.leftTrigger != 65535 ||
    outputState.rightTrigger != 32768 || outputState.leftStickX != -32768 ||
    outputState.leftStickY != 32767 || outputState.rightStickX != -1234 ||
    outputState.rightStickY != 4321

/-- The second comparison. -/
def notNeutral (outputState : GamepadStateV1) : Bool :=
  outputState.buttonFlags != 0 || outputState.leftTrigger != 0 || outputState.rightTrigger != 0

/-- What the call may throw: a `StateError` with one of three messages, or the
`NativeCoreException` of an operation. -/
inductive Error where
  | valuesChanged
  | notNeutral
  | timedOut
  | nativeCore (operation : String) (result : Result)
  deriving DecidableEq, Repr

/-- The messages of the `StateError`s. -/
def Error.message : Error → Option String
  | .valuesChanged => some "Loopback changed raw controller values."
  | .notNeutral => some "Watchdog did not restore a neutral state."
  | .timedOut => some "Native loopback diagnostic timed out."
  | .nativeCore _ _ => none

/-- Where the call is, from the moment `session.start()` returned.  `submitting`
is between the two sections of `submitState`, and `compared` between the two
waits. -/
inductive Phase where
  | started
  | submitting (timestampUs : UInt64)
  | submitted
  | waitApplied (deadline : Nat)
  | compared
  | waitNeutral (deadline : Nat)
  | returned (data : LoopbackDiagnosticData)
  | thrown (error : Error)
  deriving DecidableEq, Repr

/-- The two seconds of `_waitForSnapshot`, in microseconds. -/
def kWaitLimit : Nat := 2000000

/-- The test of the first wait and, when it is met, what follows it. -/
def pollApplied (snapshot : SessionSnapshot) (phase : Phase) : Phase :=
  if snapshot.latestSequence = 1 then
    if changed snapshot.outputState then .thrown .valuesChanged else .compared
  else phase

/-- The same for the second wait. -/
def pollNeutral (snapshot : SessionSnapshot) (elapsedMilliseconds : Nat) (phase : Phase) : Phase :=
  if 1 ≤ snapshot.neutralizationCount then
    if notNeutral snapshot.outputState then .thrown .notNeutral
    else .returned
      { acceptedStateCount := snapshot.acceptedStateCount
        neutralizationCount := snapshot.neutralizationCount
        elapsedMilliseconds := elapsedMilliseconds }
  else phase

/-! ### The threads -/

structure State where
  session : Monitor.State Session
  transport : LoopbackTransportBackend := .started
  phase : Phase := .started
  deriving Repr

inductive Label where
  /-- The check of `submitState`, with the stopwatch's reading. -/
  | submitState (timestampUs : UInt64)
  /-- The rest of `submitState`. -/
  | sendState
  | workerTake
  | onStateFrame (frame : StateFrame)
  /-- The clock moves, or the watchdog thread does. -/
  | watchdog (a : Monitor.Label Session.Section Bool)
  /-- The head of `_waitForSnapshot`, when `DateTime.now()` is `wall`. -/
  | beginWait (wall : Nat)
  /-- One round of its loop. -/
  | poll (wall elapsedMilliseconds : Nat)
  deriving DecidableEq, Repr

/-- A step that is not a locked section of another thread. -/
def watchdogStep : Monitor.Label Session.Section Bool → Bool
  | .locked _ => false
  | _ => true

def next (inputTimeout : Nat) (s : State) : Label → Option State
  | .submitState timestampUs =>
    match s.phase with
    | .started =>
      let result := (s.session.core.submitStateLocked 1).2
      ((Session.monitor inputTimeout).next s.session (.locked (.submitState 1))).map
        fun session =>
          { s with
            session := session
            phase := if result = .ok then .submitting timestampUs
              else .thrown (.nativeCore "rc_session_submit_state" result) }
    | _ => none
  | .sendState =>
    match s.phase with
    | .submitting timestampUs =>
      let (transport, ok) := s.transport.sendState (submittedFrame timestampUs)
      if ok then some { s with transport := transport, phase := .submitted }
      else
        ((Session.monitor inputTimeout).next s.session (.locked (.onDisconnected true))).map
          fun session =>
            { session := session
              transport := transport
              phase := .thrown (.nativeCore "rc_session_submit_state" .backendFailure) }
    | _ => none
  | .workerTake =>
    (s.transport.next .workerTake).map fun transport => { s with transport := transport }
  | .onStateFrame frame =>
    (s.transport.next (.callback frame)).bind fun transport =>
      ((Session.monitor inputTimeout).next s.session (.locked (.onStateFrame frame true true))).map
        fun session => { s with session := session, transport := transport }
  | .watchdog a =>
    if watchdogStep a then
      ((Session.monitor inputTimeout).next s.session a).map fun session =>
        { s with session := session }
    else none
  | .beginWait wall =>
    match s.phase with
    | .submitted => some { s with phase := .waitApplied (wall + kWaitLimit) }
    | .compared => some { s with phase := .waitNeutral (wall + kWaitLimit) }
    | _ => none
  | .poll wall elapsedMilliseconds =>
    match s.phase with
    | .waitApplied deadline =>
      if wall < deadline then
        some { s with phase := pollApplied s.session.core.snapshot s.phase }
      else some { s with phase := .thrown .timedOut }
    | .waitNeutral deadline =>
      if wall < deadline then
        some { s with
          phase := pollNeutral s.session.core.snapshot elapsedMilliseconds s.phase }
      else some { s with phase := .thrown .timedOut }
    | _ => none

/-- From the moment `session.start()` returned, when the session's clock showed
`now`. -/
def system (inputTimeout now : Nat) : System State Label where
  init := { session := (Session.system inputTimeout now).init }
  next := next inputTimeout

/-! ### The statement -/

/-- The call has thrown nothing, or that a wait was too long. -/
def Passes (s : State) : Prop := ∀ error, s.phase = .thrown error → error = .timedOut

/-- A poll that finds the sequence comes before the watchdog has released it. -/
def PolledInTime (s : State) : Label → Prop
  | .poll wall _ => ∀ deadline, s.phase = .waitApplied deadline → wall < deadline →
      s.session.core.latestSequence = 1 → s.session.core.neutralizationCount = 0
  | _ => True

def Phase.ended : Phase → Bool
  | .returned _ | .thrown _ => true
  | _ => false

/-- The steps of the call itself. -/
def Label.ofCaller : Label → Bool
  | .submitState _ | .sendState | .beginWait _ | .poll _ _ => true
  | _ => false

/-! ### What the session shows -/

theorem changed_iff (outputState : GamepadStateV1) :
    changed outputState = false ↔ outputState = submittedState := by
  cases outputState
  simp [changed, submittedState, and_assoc]

/-- The session has applied nothing yet. -/
structure Fresh (s : Session) : Prop where
  latestSequence : s.latestSequence = 0
  acceptedStateCount : s.acceptedStateCount = 0
  neutralizationCount : s.neutralizationCount = 0
  watchdogArmed : s.watchdogArmed = false

/-- The session has applied the frame, and its watchdog has not released it, or
has. -/
structure Applied (s : Session) : Prop where
  latestSequence : s.latestSequence = 1
  acceptedStateCount : s.acceptedStateCount = 1
  shown : s.neutralizationCount = 0 ∧ s.watchdogArmed = true ∧ s.outputState = submittedState ∨
    s.neutralizationCount = 1 ∧ s.watchdogArmed = false ∧ s.outputState = {}

/-- What never changes while the session is not closed. -/
structure Steady (s : Session) : Prop where
  running : s.state = .running
  created : s.virtual.created = true

/-- The call has not handed its frame over yet. -/
def Phase.Early (s : Session) : Phase → Prop
  | .started => s.hasSubmittedSequence = false
  | .submitting _ => True
  | _ => False

/-- Where the call can be while the session has not applied the frame. -/
def Phase.Awaiting : Phase → Prop
  | .submitted | .waitApplied _ => True
  | .thrown error => error = .timedOut
  | _ => False

/-- Where it can be afterwards. -/
def Phase.Late : Phase → Prop
  | .started | .submitting _ => False
  | .thrown error => error = .timedOut ∨ error = .valuesChanged
  | .returned data => data.acceptedStateCount = 1 ∧ data.neutralizationCount = 1
  | _ => True

/-- Where the submitted frame is: with the call, in the transport, or in the
session. -/
inductive Place (s : State) : Prop
  | call (hphase : s.phase.Early s.session.core) (hqueue : s.transport = .started)
      (hfresh : Fresh s.session.core)
  | pending (timestampUs : UInt64) (hphase : s.phase.Awaiting)
      (hqueue : s.transport =
        { LoopbackTransportBackend.started with pendingStates := [submittedFrame timestampUs] })
      (hfresh : Fresh s.session.core)
  | held (timestampUs : UInt64) (hphase : s.phase.Awaiting)
      (hqueue : s.transport =
        { LoopbackTransportBackend.started with worker := .holding (submittedFrame timestampUs) })
      (hfresh : Fresh s.session.core)
  | applied (hphase : s.phase.Late) (hqueue : s.transport = .started)
      (happlied : Applied s.session.core)

structure Inv (s : State) : Prop where
  steady : Steady s.session.core
  place : Place s

theorem inv_init (inputTimeout now : Nat) : Inv (system inputTimeout now).init where
  steady := ⟨rfl, rfl⟩
  place := .call rfl rfl ⟨rfl, rfl, rfl, rfl⟩

/-! ### What a step can do -/

/-- The clock and the watchdog thread leave the session alone, or release it. -/
theorem core_watchdog {inputTimeout : Nat} {s t : Monitor.State Session}
    {a : Monitor.Label Session.Section Bool} (ha : watchdogStep a = true)
    (hn : (Session.monitor inputTimeout).next s a = some t) :
    t.core = s.core ∨
      s.core.watchdogArmed = true ∧ ∃ neutralOk, t.core = s.core.watchdogRelease neutralOk := by
  rcases Monitor.core_step hn with hc | ⟨c, rfl | rfl, _⟩ | ⟨neutralOk, d, rfl, _, hf, hc⟩
  · exact Or.inl hc
  · cases ha
  · -- no section is the watchdog thread's own
    cases hs : s.thread <;> simp [Monitor.next, hs, Session.monitor] at hn
  · right
    simp only [Monitor.fires, Bool.and_eq_true] at hf
    exact ⟨hf.1.2, neutralOk, hc⟩

theorem Steady.watchdogRelease {s : Session} (h : Steady s) (neutralOk : Bool) :
    Steady (s.watchdogRelease neutralOk) where
  running := h.running
  created := by
    rw [Session.watchdogRelease, Session.neutralizeLocked, VirtualController.submitNeutralState]
    simpa using h.created

theorem Inv.watchdog {inputTimeout : Nat} {s t : State}
    {a : Monitor.Label Session.Section Bool} (h : Inv s)
    (hn : next inputTimeout s (.watchdog a) = some t) : Inv t := by
  simp only [next] at hn
  split at hn
  · rename_i ha
    rw [Option.map_eq_some_iff] at hn
    obtain ⟨session, hsession, rfl⟩ := hn
    obtain ⟨hsteady, hplace⟩ := h
    rcases core_watchdog ha hsession with hc | ⟨harmed, neutralOk, hc⟩
    · refine ⟨by rw [hc]; exact hsteady, ?_⟩
      cases hplace with
      | call hphase hqueue hfresh =>
        exact .call (by rw [hc]; exact hphase) hqueue (by rw [hc]; exact hfresh)
      | pending ts hphase hqueue hfresh =>
        exact .pending ts hphase hqueue (by rw [hc]; exact hfresh)
      | held ts hphase hqueue hfresh => exact .held ts hphase hqueue (by rw [hc]; exact hfresh)
      | applied hphase hqueue happlied => exact .applied hphase hqueue (by rw [hc]; exact happlied)
    · refine ⟨by rw [hc]; exact hsteady.watchdogRelease neutralOk, ?_⟩
      -- only an applied frame arms the watchdog
      cases hplace with
      | call _ _ hfresh | pending _ _ _ hfresh | held _ _ _ hfresh =>
        rw [hfresh.watchdogArmed] at harmed
        cases harmed
      | applied hphase hqueue happlied =>
        rcases happlied.shown with ⟨hcount, _, _⟩ | ⟨_, hoff, _⟩
        · refine .applied hphase hqueue ?_
          rw [hc]
          exact ⟨happlied.latestSequence, happlied.acceptedStateCount,
            Or.inr ⟨congrArg (· + 1) hcount, rfl, rfl⟩⟩
        · rw [hoff] at harmed
          cases harmed
  · cases hn

theorem Inv.submitState {inputTimeout : Nat} {s t : State} {timestampUs : UInt64} (h : Inv s)
    (hn : next inputTimeout s (.submitState timestampUs) = some t) : Inv t := by
  obtain ⟨hsteady, hplace⟩ := h
  cases hp : s.phase with
  | started =>
    simp only [next, hp] at hn
    cases hplace with
    | call hphase hqueue hfresh =>
      have hnew : s.session.core.hasSubmittedSequence = false := by rwa [hp] at hphase
      have hsub : s.session.core.submitStateLocked 1 =
          ({ s.session.core with hasSubmittedSequence := true, highestSubmittedSequence := 1 },
            .ok) := by
        simp [Session.submitStateLocked, hsteady.running, hnew]
      rw [hsub, Option.map_eq_some_iff] at hn
      obtain ⟨session, hsession, rfl⟩ := hn
      have hcore : session.core =
          { s.session.core with hasSubmittedSequence := true, highestSubmittedSequence := 1 } := by
        obtain rfl := Option.some.inj hsession
        exact congrArg Prod.fst hsub
      refine ⟨by rw [hcore]; exact ⟨hsteady.running, hsteady.created⟩, .call trivial hqueue ?_⟩
      rw [hcore]
      exact ⟨hfresh.1, hfresh.2, hfresh.3, hfresh.4⟩
    | pending _ hphase | held _ hphase | applied hphase =>
      rw [hp] at hphase
      exact hphase.elim
  | submitting | submitted | waitApplied | compared | waitNeutral | returned | thrown =>
    simp only [next, hp, reduceCtorEq] at hn

theorem Inv.sendState {inputTimeout : Nat} {s t : State} (h : Inv s)
    (hn : next inputTimeout s .sendState = some t) : Inv t := by
  obtain ⟨hsteady, hplace⟩ := h
  cases hp : s.phase with
  | submitting timestampUs =>
    simp only [next, hp] at hn
    cases hplace with
    | call hphase hqueue hfresh =>
      have hsend : s.transport.sendState (submittedFrame timestampUs) =
          ({ LoopbackTransportBackend.started with
              pendingStates := [submittedFrame timestampUs] }, true) := by
        rw [hqueue]; rfl
      rw [hsend] at hn
      obtain rfl := Option.some.inj hn
      exact ⟨hsteady, .pending timestampUs trivial rfl hfresh⟩
    | pending _ hphase | held _ hphase | applied hphase =>
      rw [hp] at hphase
      exact hphase.elim
  | started | submitted | waitApplied | compared | waitNeutral | returned | thrown =>
    simp only [next, hp, reduceCtorEq] at hn

theorem Inv.workerTake {inputTimeout : Nat} {s t : State} (h : Inv s)
    (hn : next inputTimeout s .workerTake = some t) : Inv t := by
  obtain ⟨hsteady, hplace⟩ := h
  simp only [next, Option.map_eq_some_iff] at hn
  obtain ⟨transport, htake, rfl⟩ := hn
  cases hplace with
  | call _ hqueue | held _ _ hqueue | applied _ hqueue =>
    rw [hqueue] at htake
    cases htake
  | pending ts hphase hqueue hfresh =>
    rw [hqueue] at htake
    obtain rfl := Option.some.inj htake
    exact ⟨hsteady, .held ts hphase rfl hfresh⟩

/-- Only the submitted frame is delivered, and it is applied. -/
theorem Inv.onStateFrame {inputTimeout : Nat} {s t : State} {frame : StateFrame} (h : Inv s)
    (hn : next inputTimeout s (.onStateFrame frame) = some t) :
    frame.state = submittedState ∧ Inv t := by
  obtain ⟨hsteady, hplace⟩ := h
  simp only [next, Option.bind_eq_some_iff, Option.map_eq_some_iff] at hn
  obtain ⟨transport, hcall, session, hsession, rfl⟩ := hn
  cases hplace with
  | call _ hqueue | pending _ _ hqueue | applied _ hqueue =>
    rw [hqueue] at hcall
    cases hcall
  | held ts hphase hqueue hfresh =>
    rw [hqueue, LoopbackTransportBackend.next] at hcall
    split at hcall
    · rename_i hw
      obtain rfl : submittedFrame ts = frame := LoopbackWorker.holding.inj hw
      obtain rfl := Option.some.inj hcall
      have hcore : session.core =
          s.session.core.onStateFrame (submittedFrame ts) true true s.session.now := by
        obtain rfl := Option.some.inj hsession
        rfl
      have hrefuses : s.session.core.refuses (submittedFrame ts) = false := by
        simp [Session.refuses, hsteady.running, hfresh.acceptedStateCount]
      have hsubmit : (s.session.core.virtual.submitState submittedState true).2 = true := by
        simp [VirtualController.submitState, hsteady.created]
      have happlies : s.session.core.applies (submittedFrame ts) true = true := by
        rw [Session.applies, hrefuses]
        exact hsubmit
      refine ⟨rfl, ?_⟩
      rcases s.session.core.onStateFrame_cases (submittedFrame ts) true true s.session.now with
        ⟨hno, _⟩ | ⟨_, _, _, he⟩ | ⟨hno, _, _⟩
      · rw [happlies] at hno
        cases hno
      · rw [he] at hcore
        refine ⟨by rw [hcore]; exact ⟨hsteady.running, hsteady.created⟩, .applied ?_ rfl ?_⟩
        · show s.phase.Late
          cases hp : s.phase with
          | submitted | waitApplied => trivial
          | thrown =>
            rw [hp] at hphase
            exact Or.inl hphase
          | started | submitting | compared | waitNeutral | returned =>
            rw [hp] at hphase
            exact hphase.elim
        · rw [hcore]
          exact ⟨rfl, congrArg (· + 1) hfresh.acceptedStateCount,
            Or.inl ⟨hfresh.neutralizationCount, rfl, rfl⟩⟩
      · rw [happlies] at hno
        cases hno
    · cases hcall

theorem Inv.beginWait {inputTimeout : Nat} {s t : State} {wall : Nat} (h : Inv s)
    (hn : next inputTimeout s (.beginWait wall) = some t) : Inv t := by
  obtain ⟨hsteady, hplace⟩ := h
  cases hp : s.phase with
  | submitted =>
    simp only [next, hp] at hn
    obtain rfl := Option.some.inj hn
    refine ⟨hsteady, ?_⟩
    cases hplace with
    | call hphase =>
      rw [hp] at hphase
      exact hphase.elim
    | pending ts _ hqueue hfresh => exact .pending ts trivial hqueue hfresh
    | held ts _ hqueue hfresh => exact .held ts trivial hqueue hfresh
    | applied _ hqueue happlied => exact .applied trivial hqueue happlied
  | compared =>
    simp only [next, hp] at hn
    obtain rfl := Option.some.inj hn
    refine ⟨hsteady, ?_⟩
    cases hplace with
    | call hphase | pending _ hphase | held _ hphase =>
      rw [hp] at hphase
      exact hphase.elim
    | applied _ hqueue happlied => exact .applied trivial hqueue happlied
  | started | submitting | waitApplied | waitNeutral | returned | thrown =>
    simp only [next, hp, reduceCtorEq] at hn

/-- A wait that goes on past its deadline. -/
theorem Inv.timeout {s : State} (h : Inv s) {deadline : Nat}
    (hp : s.phase = .waitApplied deadline ∨ s.phase = .waitNeutral deadline) :
    Inv { s with phase := .thrown .timedOut } := by
  obtain ⟨hsteady, hplace⟩ := h
  refine ⟨hsteady, ?_⟩
  cases hplace with
  | call hphase =>
    rcases hp with hp | hp <;> (rw [hp] at hphase; exact hphase.elim)
  | pending ts _ hqueue hfresh => exact .pending ts rfl hqueue hfresh
  | held ts _ hqueue hfresh => exact .held ts rfl hqueue hfresh
  | applied _ hqueue happlied => exact .applied (Or.inl rfl) hqueue happlied

/-- **What the first wait makes of a snapshot**: nothing, before the frame is
applied; it goes on, as long as the watchdog has not released it; and it throws
afterwards. -/
theorem pollApplied_cases {s : State} (h : Inv s) {deadline : Nat}
    (hp : s.phase = .waitApplied deadline) :
    (s.session.core.latestSequence ≠ 1 ∧
      pollApplied s.session.core.snapshot s.phase = s.phase) ∨
    (s.session.core.latestSequence = 1 ∧ s.session.core.neutralizationCount = 0 ∧
      Place { s with phase := .compared } ∧
      pollApplied s.session.core.snapshot s.phase = .compared) ∨
    (s.session.core.latestSequence = 1 ∧ s.session.core.neutralizationCount ≠ 0 ∧
      Place { s with phase := .thrown .valuesChanged } ∧
      pollApplied s.session.core.snapshot s.phase = .thrown .valuesChanged) := by
  cases h.place with
  | call hphase =>
    rw [hp] at hphase
    exact hphase.elim
  | pending _ _ _ hfresh | held _ _ _ hfresh =>
    have hne : s.session.core.latestSequence ≠ 1 := by
      rw [hfresh.latestSequence]
      decide
    exact Or.inl ⟨hne, if_neg hne⟩
  | applied _ hqueue happlied =>
    have hseq : s.session.core.snapshot.latestSequence = 1 := happlied.latestSequence
    right
    rcases happlied.shown with ⟨hcount, _, hout⟩ | ⟨hcount, _, hout⟩
    · have hsame : changed s.session.core.snapshot.outputState = false := (changed_iff _).mpr hout
      refine Or.inl ⟨hseq, hcount, .applied trivial hqueue happlied, ?_⟩
      rw [pollApplied, if_pos hseq, hsame]
      rfl
    · have hother : changed s.session.core.snapshot.outputState = true := by
        rw [show s.session.core.snapshot.outputState = {} from hout]
        decide
      refine Or.inr ⟨hseq, by omega, .applied (Or.inr rfl) hqueue happlied, ?_⟩
      rw [pollApplied, if_pos hseq, hother]
      rfl

/-- **What the second wait makes of a snapshot**: nothing, or it returns. -/
theorem pollNeutral_cases {s : State} (h : Inv s) {deadline : Nat}
    (hp : s.phase = .waitNeutral deadline) (elapsedMilliseconds : Nat) :
    pollNeutral s.session.core.snapshot elapsedMilliseconds s.phase = s.phase ∨
    ∃ data, Place { s with phase := .returned data } ∧
      pollNeutral s.session.core.snapshot elapsedMilliseconds s.phase = .returned data := by
  cases h.place with
  | call hphase | pending _ hphase | held _ hphase =>
    rw [hp] at hphase
    exact hphase.elim
  | applied _ hqueue happlied =>
    rcases happlied.shown with ⟨hcount, _, _⟩ | ⟨hcount, _, hout⟩
    · left
      have hnone : ¬ 1 ≤ s.session.core.snapshot.neutralizationCount := by
        rw [show s.session.core.snapshot.neutralizationCount = 0 from hcount]
        decide
      exact if_neg hnone
    · right
      have hone : s.session.core.snapshot.neutralizationCount = 1 := hcount
      have hneutral : notNeutral s.session.core.snapshot.outputState = false := by
        rw [show s.session.core.snapshot.outputState = {} from hout]
        decide
      refine ⟨⟨s.session.core.acceptedStateCount, s.session.core.neutralizationCount,
        elapsedMilliseconds⟩, .applied ⟨happlied.acceptedStateCount, hone⟩ hqueue happlied, ?_⟩
      rw [pollNeutral, if_pos (Nat.le_of_eq hone.symm), hneutral]
      rfl

theorem Inv.poll {inputTimeout : Nat} {s t : State} {wall elapsedMilliseconds : Nat} (h : Inv s)
    (hn : next inputTimeout s (.poll wall elapsedMilliseconds) = some t) : Inv t := by
  cases hp : s.phase with
  | waitApplied deadline =>
    simp only [next, hp] at hn
    rw [← hp] at hn
    split at hn
    · obtain rfl := Option.some.inj hn
      rcases pollApplied_cases h hp with ⟨_, he⟩ | ⟨_, _, hplace, he⟩ | ⟨_, _, hplace, he⟩
      · rw [he]; exact h
      · rw [he]; exact ⟨h.steady, hplace⟩
      · rw [he]; exact ⟨h.steady, hplace⟩
    · obtain rfl := Option.some.inj hn
      exact h.timeout (Or.inl hp)
  | waitNeutral deadline =>
    simp only [next, hp] at hn
    rw [← hp] at hn
    split at hn
    · obtain rfl := Option.some.inj hn
      rcases pollNeutral_cases h hp elapsedMilliseconds with he | ⟨data, hplace, he⟩
      · rw [he]; exact h
      · rw [he]; exact ⟨h.steady, hplace⟩
    · obtain rfl := Option.some.inj hn
      exact h.timeout (Or.inr hp)
  | started | submitting | submitted | compared | returned | thrown =>
    simp only [next, hp, reduceCtorEq] at hn

theorem Inv.step {inputTimeout : Nat} {s t : State} {a : Label} (h : Inv s)
    (hn : next inputTimeout s a = some t) : Inv t := by
  cases a with
  | submitState => exact h.submitState hn
  | sendState => exact h.sendState hn
  | workerTake => exact h.workerTake hn
  | onStateFrame => exact (h.onStateFrame hn).2
  | watchdog => exact h.watchdog hn
  | beginWait => exact h.beginWait hn
  | poll => exact h.poll hn

/-! ### Runs -/

variable {inputTimeout now : Nat}

theorem inv_run {l : List Label} {s : State} (h : (system inputTimeout now).Run l s) : Inv s := by
  refine System.Run.invariant (P := fun _ s => Inv s) (inv_init inputTimeout now) ?_ h
  intro l s a t _ ih hn
  exact ih.step hn

/-- No session applies anything but the submitted state. -/
theorem applies_run {l : List Label} {s : State} (h : (system inputTimeout now).Run l s) :
    ∀ frame, .onStateFrame frame ∈ l → frame.state = submittedState := by
  induction h with
  | refl => intro frame hf; cases hf
  | snoc hr hn ih =>
    intro frame hf
    rcases List.mem_append.mp hf with hf | hf
    · exact ih frame hf
    · obtain rfl := List.mem_singleton.mp hf
      exact ((inv_run hr).onStateFrame hn).1

/-- The call always has a next step until it has ended. -/
theorem caller_can_step (inputTimeout : Nat) (s : State) (hs : s.phase.ended = false) :
    ∃ a, a.ofCaller = true ∧ (next inputTimeout s a).isSome = true := by
  cases hp : s.phase with
  | started =>
    refine ⟨.submitState 0, rfl, ?_⟩
    simp [next, hp, Monitor.next, Session.monitor]
  | submitting timestampUs =>
    refine ⟨.sendState, rfl, ?_⟩
    simp only [next, hp]
    split
    · rfl
    · simp [Monitor.next, Session.monitor]
  | submitted | compared =>
    exact ⟨.beginWait 0, rfl, by simp [next, hp]⟩
  | waitApplied | waitNeutral =>
    refine ⟨.poll 0 0, rfl, ?_⟩
    simp only [next, hp]
    split <;> rfl
  | returned | thrown =>
    rw [hp] at hs
    cases hs

theorem passes_iff {s : State} (h : Inv s) : Passes s ↔ s.phase ≠ .thrown .valuesChanged := by
  constructor
  · intro hs he
    cases hs _ he
  · intro hne error he
    cases h.place with
    | call hphase =>
      rw [he] at hphase
      exact hphase.elim
    | pending _ hphase | held _ hphase =>
      rw [he] at hphase
      exact hphase
    | applied hphase =>
      rw [he] at hphase
      rcases (hphase : error = .timedOut ∨ error = .valuesChanged) with rfl | rfl
      · rfl
      · exact absurd he hne

/-- Only a poll compares. -/
theorem valuesChanged_of_next {s t : State} {a : Label}
    (ha : ∀ wall elapsed, a ≠ .poll wall elapsed)
    (hs : s.phase ≠ .thrown .valuesChanged) (hn : next inputTimeout s a = some t) :
    t.phase ≠ .thrown .valuesChanged := by
  cases a with
  | poll wall elapsed => exact absurd rfl (ha wall elapsed)
  | submitState timestampUs =>
    cases hp : s.phase <;> simp only [next, hp, reduceCtorEq] at hn
    rw [Option.map_eq_some_iff] at hn
    obtain ⟨session, _, rfl⟩ := hn
    show (if _ then _ else _) ≠ _
    split
    · exact Phase.noConfusion
    · intro he
      cases he
  | sendState =>
    cases hp : s.phase <;> simp only [next, hp, reduceCtorEq] at hn
    split at hn
    · obtain rfl := Option.some.inj hn
      exact Phase.noConfusion
    · rw [Option.map_eq_some_iff] at hn
      obtain ⟨session, _, rfl⟩ := hn
      intro he
      cases he
  | workerTake =>
    simp only [next, Option.map_eq_some_iff] at hn
    obtain ⟨transport, _, rfl⟩ := hn
    exact hs
  | onStateFrame frame =>
    simp only [next, Option.bind_eq_some_iff, Option.map_eq_some_iff] at hn
    obtain ⟨transport, _, session, _, rfl⟩ := hn
    exact hs
  | watchdog a =>
    simp only [next] at hn
    split at hn
    · rw [Option.map_eq_some_iff] at hn
      obtain ⟨session, _, rfl⟩ := hn
      exact hs
    · cases hn
  | beginWait wall =>
    cases hp : s.phase <;> simp only [next, hp, reduceCtorEq, Option.some.injEq] at hn <;>
      (subst hn; exact Phase.noConfusion)

/-- **Only a poll that is too late throws**, and it always does. -/
theorem valuesChanged_step {s t : State} {a : Label} (h : Inv s)
    (hs : s.phase ≠ .thrown .valuesChanged) (hn : next inputTimeout s a = some t) :
    t.phase = .thrown .valuesChanged ↔ ¬ PolledInTime s a := by
  cases a with
  | poll wall elapsedMilliseconds =>
    cases hp : s.phase with
    | waitApplied deadline =>
      have hin : PolledInTime s (.poll wall elapsedMilliseconds) ↔
          (wall < deadline → s.session.core.latestSequence = 1 →
            s.session.core.neutralizationCount = 0) := by
        constructor
        · intro hok
          exact hok deadline hp
        · intro hok d hd
          obtain rfl : deadline = d := Phase.waitApplied.inj (hp.symm.trans hd)
          exact hok
      simp only [next, hp] at hn
      rw [← hp] at hn
      split at hn
      · rename_i hw
        obtain rfl := Option.some.inj hn
        rw [hin]
        rcases pollApplied_cases h hp with ⟨hseq, he⟩ | ⟨_, hcount, _, he⟩ | ⟨hseq, hcount, _, he⟩
        · rw [he]
          exact iff_of_false hs (not_not.mpr fun _ hc => absurd hc hseq)
        · rw [he]
          exact iff_of_false Phase.noConfusion (not_not.mpr fun _ _ => hcount)
        · rw [he]
          exact iff_of_true rfl fun hok => hcount (hok hw hseq)
      · rename_i hw
        obtain rfl := Option.some.inj hn
        rw [hin]
        refine iff_of_false ?_ (not_not.mpr fun hc => absurd hc hw)
        intro he
        cases he
    | waitNeutral deadline =>
      refine iff_of_false ?_ (not_not.mpr fun d hd => ?_)
      · intro ht
        simp only [next, hp] at hn
        rw [← hp] at hn
        split at hn
        · obtain rfl := Option.some.inj hn
          rcases pollNeutral_cases h hp elapsedMilliseconds with he | ⟨data, _, he⟩
          · rw [he] at ht
            exact hs ht
          · rw [he] at ht
            cases ht
        · obtain rfl := Option.some.inj hn
          cases ht
      · rw [hp] at hd
        cases hd
    | started | submitting | submitted | compared | returned | thrown =>
      simp only [next, hp, reduceCtorEq] at hn
  | submitState | sendState | workerTake | onStateFrame | watchdog | beginWait =>
    exact iff_of_false (valuesChanged_of_next (by simp) hs hn) (not_not.mpr trivial)

/-- **When the diagnostic passes**: in every schedule of the polls, the worker and
the watchdog, it throws nothing but the timeout exactly when the first poll to
find the sequence comes before the watchdog has released the frame.  Then it
returns, with one accepted state and one neutralization, unless a wait was too
long; until it has ended it can go on; and late or not, the session applies the
submitted state only. -/
theorem diagnostic_passes_iff {l : List Label} {s : State}
    (h : (system inputTimeout now).Run l s) :
    ((system inputTimeout now).Always Passes l ↔
      (system inputTimeout now).RunWith PolledInTime l s) ∧
    ((system inputTimeout now).Always Passes l → s.phase.ended = true →
      s.phase ≠ .thrown .timedOut →
      ∃ data, s.phase = .returned data ∧
        data.acceptedStateCount = 1 ∧ data.neutralizationCount = 1) ∧
    (s.phase.ended = false → ∃ a, a.ofCaller = true ∧ (next inputTimeout s a).isSome = true) ∧
    (∀ frame, .onStateFrame frame ∈ l → frame.state = submittedState) := by
  refine ⟨?_, ?_, caller_can_step inputTimeout s, applies_run h⟩
  · refine System.always_iff_runWith (I := fun s => Inv s ∧ Passes s) ?_ ?_ (fun s hi => hi.2) ?_ h
    · refine ⟨inv_init inputTimeout now, (passes_iff (inv_init inputTimeout now)).mpr ?_⟩
      exact Phase.noConfusion
    · rintro s a t ⟨hi, hs⟩ hok hn
      have hne := (passes_iff hi).mp hs
      refine ⟨hi.step hn, (passes_iff (hi.step hn)).mpr ?_⟩
      intro he
      exact (valuesChanged_step hi hne hn).mp he hok
    · rintro s a t ⟨hi, hs⟩ hn ht
      by_contra hno
      have hne := (passes_iff hi).mp hs
      exact (passes_iff (hi.step hn)).mp ht ((valuesChanged_step hi hne hn).mpr hno)
  · intro hall hend hlimit
    cases hp : s.phase with
    | returned data =>
      refine ⟨data, rfl, ?_⟩
      cases (inv_run h).place with
      | call hphase | pending _ hphase | held _ hphase =>
        rw [hp] at hphase
        exact hphase.elim
      | applied hphase =>
        rw [hp] at hphase
        exact hphase
    | thrown error =>
      obtain rfl := hall l [] s (List.append_nil l).symm h error hp
      exact absurd hp hlimit
    | started | submitting | submitted | waitApplied | compared | waitNeutral =>
      rw [hp] at hend
      cases hend

/-! ### Two schedules -/

instance (s : State) : (a : Label) → Decidable (PolledInTime s a)
  | .poll wall _ =>
    match hp : s.phase with
    | .waitApplied deadline =>
      decidable_of_iff (wall < deadline → s.session.core.latestSequence = 1 →
          s.session.core.neutralizationCount = 0)
        ⟨fun h _ hd => Phase.waitApplied.inj (hp.symm.trans hd) ▸ h, fun h => h deadline hp⟩
    | .started | .submitting _ | .submitted | .compared | .waitNeutral _ | .returned _ |
      .thrown _ => isTrue fun _ hd => Phase.noConfusion (hp.symm.trans hd)
  | .submitState _ | .sendState | .workerTake | .onStateFrame _ | .watchdog _ | .beginWait _ =>
    isTrue trivial

/-- The frame is submitted, delivered and applied while the clock shows 0. -/
def applied : List Label :=
  [.submitState 7, .sendState, .workerTake, .onStateFrame (submittedFrame 7), .beginWait 0,
    .watchdog .enter]

/-- The watchdog releases it 50 ms later. -/
def released : List Label := [.watchdog (.tick 50), .watchdog .expire, .watchdog (.check true)]

/-- A poll at once, and one after the watchdog. -/
def promptPoll : List Label :=
  applied ++ [.poll 1000 1, .beginWait 1000] ++ released ++ [.poll 60000 60]

/-- The first poll comes 60 ms after the frame. -/
def latePoll : List Label := applied ++ released ++ [.watchdog (.tick 10), .poll 60000 60]

theorem diagnostic_passes_promptPoll :
    (system 50 0).Always Passes promptPoll ∧
      ∃ s, (system 50 0).Run promptPoll s ∧ s.phase = .returned ⟨1, 1, 60⟩ := by
  have h : (system 50 0).Run promptPoll _ := System.run_of_exec rfl
  exact ⟨(diagnostic_passes_iff h).1.mpr (System.runWith_of_exec rfl), _, h, rfl⟩

/-- **A correct session fails its diagnostic** when the first poll comes after the
watchdog: no wait was too long, and what the session applied is what was
submitted. -/
theorem latePoll_fails :
    (∃ s, (system 50 0).Run latePoll s ∧ s.phase = .thrown .valuesChanged ∧
      s.session.core.acceptedStateCount = 1 ∧ .onStateFrame (submittedFrame 7) ∈ latePoll) ∧
    ¬ ∀ l s, (system 50 0).Run l s → Passes s := by
  have h : (system 50 0).Run latePoll _ := System.run_of_exec rfl
  refine ⟨⟨_, h, rfl, rfl, by decide⟩, ?_⟩
  intro hall
  cases hall latePoll _ h _ rfl

end LoopbackDiagnostic

end RemoteController
