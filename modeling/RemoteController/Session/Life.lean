import RemoteController.Handle
import RemoteController.Loopback
import RemoteController.Session.State

/-!
# The life of a loopback session

`Session` of `session.cpp` over `LoopbackTransportBackend`, from its constructor to its
destructor.  One owner calls `Start`, `SimulateDisconnect` and `Stop` one after the other;
any number of threads call `SubmitState`, and the worker of the transport and the watchdog
run beside them.  One step is one locked section, one notification, one start or join of a
thread, or one step of the watchdog's wait.

* `SessionHandle.next`: the steps.
* `Aside`: what the other threads can do to the owner's session.
* `Inv.next`: what holds where the owner is.
* `session_ends`: what `SimulateDisconnect` and `Stop` leave behind.
-/

namespace RemoteController

open Lib Protocol

namespace Session

/-- The first section of `Start()`: `.ok` lets it go on to the transport. -/
def startLocked (s : Session) (createOk : Bool) : Session × Result :=
  if s.state ≠ .created then (s, .invalidState)
  else
    let (virtual, ok) := s.virtual.create createOk
    if ok then ({ s with virtual := virtual, state := .running, watchdogExit := false }, .ok)
    else ({ s with virtual := virtual, state := .faulted }, .backendFailure)

/-- The section of `Start()` after `StartServer` failed. -/
def startFault (s : Session) (neutralOk : Bool) : Session :=
  { s with state := .faulted, virtual := (s.virtual.submitNeutralState neutralOk).destroy }

/-- With nobody in between, the sections are `start`. -/
theorem start_sections (s : Session) (createOk transportOk : Bool) :
    s.start createOk transportOk =
      if (s.startLocked createOk).2 = .ok ∧ transportOk = false then
        ((s.startLocked createOk).1.startFault true, .backendFailure)
      else s.startLocked createOk := by
  by_cases hs : s.state = .created
  · rcases s.virtual.create_cases createOk with ⟨hok, _⟩ | ⟨hok, _⟩
    · cases transportOk <;> simp [start, startLocked, startFault, hs, hok]
    · simp [start, startLocked, hs, hok]
  · simp [start, startLocked, hs]

end Session

/-- Who has `Shutdown` run. -/
inductive ShutdownCall where
  | simulateDisconnect
  | stop
  deriving DecidableEq, Repr

/-- Where the owner is: `idle` between two calls, else in front of the step that is named.
`callback`: `Shutdown` has taken the disconnect callback. -/
inductive SessionOwner where
  | idle
  | startServer
  | startFault
  | createWatchdog
  | notifyStop
  | shutdown (call : ShutdownCall)
  | joinWorker (call : ShutdownCall) (callback : Bool)
  | clearCallbacks (call : ShutdownCall) (callback : Bool)
  | disconnectCallback (call : ShutdownCall)
  | notifyDisconnected (call : ShutdownCall)
  | joinWatchdog (call : ShutdownCall)
  | destroy
  deriving DecidableEq, Repr

/-- The owner has left a section and not notified the watchdog yet. -/
def SessionOwner.notifies : SessionOwner → Bool
  | .notifyStop | .notifyDisconnected _ => true
  | _ => false

/-- No call of `Start()` is under way. -/
def SessionOwner.startReturned : SessionOwner → Bool
  | .startServer | .startFault | .createWatchdog => false
  | _ => true

/-- `Stop()` is on its way to `Destroy`. -/
def SessionOwner.stopping : SessionOwner → Bool
  | .notifyStop | .shutdown .stop | .joinWorker .stop _ | .clearCallbacks .stop _
  | .disconnectCallback .stop | .notifyDisconnected .stop | .joinWatchdog .stop | .destroy => true
  | _ => false

/-- `watchdog`: `watchdog_thread_` is joinable.  `inFlight`: the calls of `SubmitState`
between the check and `SendState`; `refused`: those that were refused there and have not
reached `OnDisconnected`. -/
structure SessionHandle where
  core : Monitor.State Session
  transport : LoopbackTransportBackend := {}
  callbacks : Bool := false
  watchdog : Bool := false
  owner : SessionOwner := .idle
  inFlight : List StateFrame := []
  refused : Nat := 0
  /-- `SimulateDisconnect()` has returned `kOk`. -/
  disconnected : Bool := false
  /-- `Stop()` has returned. -/
  stopped : Bool := false

namespace SessionHandle

abbrev session (s : SessionHandle) : Session := s.core.core

inductive Label where
  | start (createOk : Bool)
  | startServer
  | startFault (neutralOk : Bool)
  | createWatchdog
  | simulateDisconnect
  | stop (neutralOk : Bool)
  | ownerNotifies
  | shutdown
  | joinWorker
  | clearCallbacks
  | disconnectCallback (neutralOk : Bool)
  | joinWatchdog
  | destroy
  | submitState (frame : StateFrame) (result : Result)
  | sendState (frame : StateFrame) (ok : Bool)
  | onDisconnected (neutralOk : Bool)
  | notifyAll
  | workerTake
  | onStateFrame (frame : StateFrame) (submitOk neutralOk : Bool)
  | watchdog (a : Monitor.Label Session.Section Bool)
  | tick (d : Nat)
  deriving DecidableEq, Repr

/-- The steps that the watchdog thread makes itself. -/
def ownWatchdog : Monitor.Label Session.Section Bool → Bool
  | .enter | .spurious | .expire | .resume | .check _ => true
  | .tick _ | .locked _ | .notifyAll | .abandon _ => false

/-- A locked section of the session. -/
def locked (inputTimeout : Nat) (s : SessionHandle) (a : Session.Section) : SessionHandle :=
  { s with core := (Session.monitor inputTimeout).afterLocked s.core a }

def setSession (s : SessionHandle) (session : Session) : SessionHandle :=
  { s with core := { s.core with core := session } }

def goto (s : SessionHandle) (owner : SessionOwner) : SessionHandle := { s with owner := owner }

def notified (s : SessionHandle) : SessionHandle :=
  { s with core := { s.core with
    thread := s.core.thread.wake, unnotified := s.core.unnotified - 1 } }

/-- The steps of the owner. -/
def ownerNext (inputTimeout : Nat) (s : SessionHandle) : Label → Option SessionHandle
  -- `Start()`
  | .start createOk =>
    if s.owner = .idle then
      let (session, result) := s.session.startLocked createOk
      some ((s.setSession session).goto (if result = .ok then .startServer else .idle))
    else none
  | .startServer =>
    if s.owner = .startServer then
      let (transport, ok) := s.transport.start true
      if ok then some { s with transport := transport, callbacks := true, owner := .createWatchdog }
      else some (s.goto .startFault)
    else none
  | .startFault neutralOk =>
    if s.owner = .startFault then
      some ((s.setSession (s.session.startFault neutralOk)).goto .idle)
    else none
  | .createWatchdog =>
    if s.owner = .createWatchdog then
      some { s with watchdog := true, core := { s.core with thread := .outside }, owner := .idle }
    else none
  -- `SimulateDisconnect()`
  | .simulateDisconnect =>
    if s.owner = .idle then
      if s.session.state = .running then some (s.goto (.shutdown .simulateDisconnect)) else some s
    else none
  -- `Stop()`
  | .stop neutralOk =>
    if s.owner = .idle then
      if s.session.state = .created ∨ s.session.state = .stopped then
        some { s.locked inputTimeout (.stop neutralOk) with stopped := true }
      else some ((s.locked inputTimeout (.stop neutralOk)).goto .notifyStop)
    else none
  -- `Shutdown`
  | .shutdown =>
    match s.owner with
    | .shutdown call =>
      if !s.transport.accepting && s.transport.worker == .none then
        some (s.goto (.joinWatchdog call))
      else
        some { s with
          transport := s.transport.shutdown
          owner := .joinWorker call (call == .simulateDisconnect && s.callbacks) }
    | _ => none
  | .joinWorker =>
    match s.owner with
    | .joinWorker call callback =>
      if s.transport.worker = .finished ∨ s.transport.worker = .none then
        some { s with
          transport := { s.transport with worker := .none }
          owner := .clearCallbacks call callback }
      else none
    | _ => none
  | .clearCallbacks =>
    match s.owner with
    | .clearCallbacks call callback =>
      some { s with
        callbacks := false
        transport := { s.transport with stopRequested := false }
        owner := if callback then .disconnectCallback call else .joinWatchdog call }
    | _ => none
  | .disconnectCallback neutralOk =>
    match s.owner with
    | .disconnectCallback call =>
      some ((s.locked inputTimeout (.onDisconnected neutralOk)).goto
        (if s.session.state = .running then .notifyDisconnected call else .joinWatchdog call))
    | _ => none
  | .ownerNotifies =>
    match s.owner with
    | .notifyStop => some (s.notified.goto (.shutdown .stop))
    | .notifyDisconnected call => some (s.notified.goto (.joinWatchdog call))
    | _ => none
  -- `JoinWatchdog()`, and the end of the call
  | .joinWatchdog =>
    match s.owner with
    | .joinWatchdog call =>
      if s.watchdog = false ∨ s.core.thread = .finished then
        match call with
        | .simulateDisconnect =>
          some { s with watchdog := false, owner := .idle, disconnected := true }
        | .stop => some { s with watchdog := false, owner := .destroy }
      else none
    | _ => none
  | .destroy =>
    if s.owner = .destroy then
      some { s with
        core := { s.core with core := { s.session with virtual := s.session.virtual.destroy } }
        owner := .idle
        stopped := true }
    else none
  | _ => none

/-- The steps of the other threads, and of the clock.  The worker's copy of the callback is
never empty: see `Inv.called`. -/
def otherNext (inputTimeout : Nat) (s : SessionHandle) : Label → Option SessionHandle
  | .submitState frame result =>
    if (s.session.submitStateLocked frame.sequence).2 = result then
      some { s.locked inputTimeout (.submitState frame.sequence) with
        inFlight := if result = .ok then frame :: s.inFlight else s.inFlight }
    else none
  | .sendState frame ok =>
    if frame ∈ s.inFlight ∧ (s.transport.sendState frame).2 = ok then
      some { s with
        transport := (s.transport.sendState frame).1
        inFlight := s.inFlight.erase frame
        refused := if ok then s.refused else s.refused + 1 }
    else none
  | .onDisconnected neutralOk =>
    if s.refused = 0 then none
    else
      some { s.locked inputTimeout (.onDisconnected neutralOk) with refused := s.refused - 1 }
  | .notifyAll =>
    if s.owner.notifies.toNat < s.core.unnotified then some s.notified else none
  | .workerTake =>
    (s.transport.next .workerTake).map fun transport => { s with transport := transport }
  | .onStateFrame frame submitOk neutralOk =>
    (s.transport.next (.callback frame)).map fun transport =>
      { s.locked inputTimeout (.onStateFrame frame submitOk neutralOk) with transport := transport }
  | .watchdog a =>
    if s.watchdog = true ∧ ownWatchdog a = true then
      ((Session.monitor inputTimeout).next s.core a).map fun core => { s with core := core }
    else none
  | .tick d => some { s with core := { s.core with now := s.core.now + d } }
  | _ => none

def next (inputTimeout : Nat) (s : SessionHandle) (a : Label) : Option SessionHandle :=
  (s.ownerNext inputTimeout a).or (s.otherNext inputTimeout a)

/-- The session when it has been constructed. -/
def system (inputTimeout now : Nat) : System SessionHandle Label where
  init := { core := ⟨{}, now, .outside, 0⟩ }
  next := next inputTimeout

end SessionHandle

/-! ### What the sections do to a session -/

namespace Session

/-- The session has been left by a callback: the watchdog is told to exit, and the output is
released. -/
structure Left (s : Session) : Prop where
  state : s.state = .disconnected ∨ s.state = .faulted
  watchdogExit : s.watchdogExit = true
  outputState : s.outputState = {}

/-- What the callbacks, the watchdog and `SubmitState` do: nothing to a session that is not
running. -/
def Drifts (s t : Session) : Prop := t = s ∨ s.state = .running ∧ (t.state = .running ∨ t.Left)

theorem drifts_submitStateLocked (s : Session) (sequence : UInt64) :
    s.Drifts (s.submitStateLocked sequence).1 := by
  rw [submitStateLocked]
  split
  · exact .inl rfl
  · rename_i hs
    replace hs := not_not.mp hs
    split
    · exact .inl rfl
    · exact .inr ⟨hs, .inl hs⟩

theorem drifts_onStateFrame (s : Session) (frame : StateFrame) (submitOk neutralOk : Bool)
    (now : Nat) : s.Drifts (s.onStateFrame frame submitOk neutralOk now) := by
  have hrunning : s.refuses frame = false → s.state = .running := by
    intro hr
    rw [refuses, Bool.or_eq_false_iff] at hr
    simpa using hr.1
  rcases s.onStateFrame_cases frame submitOk neutralOk now with ⟨_, he⟩ | ⟨_, hr, _, he⟩ |
    ⟨_, hr, he⟩
  · exact .inl he
  · rw [he]
    exact .inr ⟨hrunning hr, .inl (hrunning hr)⟩
  · rw [he]
    exact .inr ⟨hrunning hr, .inr ⟨.inr rfl, rfl, rfl⟩⟩

theorem drifts_onDisconnected (s : Session) (neutralOk : Bool) :
    s.Drifts (s.onDisconnected neutralOk) := by
  rw [onDisconnected]
  split
  · exact .inl rfl
  · rename_i hs
    exact .inr ⟨not_not.mp hs, .inr ⟨.inl rfl, rfl, rfl⟩⟩

theorem drifts_watchdogRelease {s : Session} (hs : s.state = .running) (neutralOk : Bool) :
    s.Drifts (s.watchdogRelease neutralOk) := .inr ⟨hs, .inl hs⟩

/-- The session has been started, and its watchdog is told to exit once it is not running. -/
structure Begun (s : Session) : Prop where
  created : s.state ≠ .created
  exits : s.state ≠ .running → s.watchdogExit = true

variable {s t : Session}

theorem Begun.terminal (h : s.Begun) (hs : s.state ≠ .running) : s.state.terminal = true := by
  have hcreated := h.created
  cases he : s.state with
  | created => exact absurd he hcreated
  | running => exact absurd he hs
  | stopped | disconnected | faulted => rfl

theorem Drifts.eq_of_not_running (h : s.Drifts t) (hs : s.state ≠ .running) : t = s := by
  rcases h with h | ⟨h, _⟩
  · exact h
  · exact absurd h hs

theorem Drifts.begun (h : s.Drifts t) (hs : s.Begun) : t.Begun := by
  rcases h with rfl | ⟨_, h | h⟩
  · exact hs
  · exact ⟨by rw [h]; decide, fun hn => absurd h hn⟩
  · refine ⟨fun hc => ?_, fun _ => h.watchdogExit⟩
    rcases h.state with he | he <;> simp [he] at hc

theorem Drifts.stopped (h : s.Drifts t) (hs : s.state ≠ .stopped) : t.state ≠ .stopped := by
  rcases h with rfl | ⟨_, h | h⟩
  · exact hs
  · rw [h]; decide
  · rcases h.state with he | he <;> rw [he] <;> decide

theorem Drifts.released (h : s.Drifts t) (hs : s.state ≠ .running → s.outputState = {}) :
    t.state ≠ .running → t.outputState = {} := by
  intro hn
  rcases h with rfl | ⟨_, h | h⟩
  · exact hs hn
  · exact absurd h hn
  · exact h.outputState

theorem Left.begun (h : s.Left) : s.Begun := by
  refine ⟨fun hc => ?_, fun _ => h.watchdogExit⟩
  rcases h.state with he | he <;> simp [he] at hc

/-- The section of `Stop()`, when it does not return at once. -/
theorem stopLocked_begun (hs : ¬ (s.state = .created ∨ s.state = .stopped)) (neutralOk : Bool) :
    (s.stopLocked neutralOk).Begun ∧ (s.stopLocked neutralOk).state.terminal = true ∧
      ((s.state ≠ .running → s.outputState = {}) → (s.stopLocked neutralOk).outputState = {}) := by
  rw [stopLocked]
  split
  · exact absurd (.inl ‹_›) hs
  · exact absurd (.inr ‹_›) hs
  · exact ⟨⟨by simp [neutralizeLocked], fun _ => rfl⟩, rfl, fun _ => rfl⟩
  · rename_i he
    exact ⟨⟨by simp [he], fun _ => rfl⟩, by simp [he, SessionState.terminal],
      fun h => h (by simp [he])⟩
  · rename_i he
    exact ⟨⟨by simp [he], fun _ => rfl⟩, by simp [he, SessionState.terminal],
      fun h => h (by simp [he])⟩

theorem not_running_of_terminal (h : s.state.terminal = true) : s.state ≠ .running := by
  intro hr
  rw [hr] at h
  cases h

end Session

namespace SessionHandle

variable {inputTimeout : Nat} {s t : SessionHandle} {a : Label}

/-! ### The other threads -/

/-- **What the other threads can do.** -/
structure Aside (s t : SessionHandle) : Prop where
  owner : t.owner = s.owner
  watchdog : t.watchdog = s.watchdog
  callbacks : t.callbacks = s.callbacks
  disconnected : t.disconnected = s.disconnected
  stopped : t.stopped = s.stopped
  worker : t.transport.worker = .none ↔ s.transport.worker = .none
  accepting : t.transport.accepting = s.transport.accepting
  /-- They put nothing into a closed queue. -/
  pending : s.transport.accepting = false → s.transport.pendingStates = [] →
    t.transport.pendingStates = []
  /-- They leave a transport alone that is not open and has no worker. -/
  transport : s.transport.worker = .none → s.transport.accepting = false →
    t.transport = s.transport
  session : s.session.Drifts t.session

/-- A step that leaves the transport alone. -/
theorem Aside.of_session (ho : t.owner = s.owner) (hw : t.watchdog = s.watchdog)
    (hc : t.callbacks = s.callbacks) (hd : t.disconnected = s.disconnected)
    (hs : t.stopped = s.stopped) (ht : t.transport = s.transport)
    (h : s.session.Drifts t.session) : Aside s t :=
  ⟨ho, hw, hc, hd, hs, by rw [ht], by rw [ht], fun _ hp => by rw [ht]; exact hp, fun _ _ => ht, h⟩

/-- A step of the watchdog: it fires over a running session, or leaves the session alone. -/
theorem drifts_of_watchdog {core : Monitor.State Session}
    {b : Monitor.Label Session.Section Bool} (hown : ownWatchdog b = true)
    (hexits : s.session.state ≠ .running → s.session.watchdogExit = true)
    (hn : (Session.monitor inputTimeout).next s.core b = some core) :
    s.session.Drifts core.core := by
  rcases Monitor.core_step hn with he | ⟨c, rfl | rfl, _⟩ | ⟨neutralOk, d, _, _, hf, he⟩
  · exact .inl he
  · cases hown
  · cases hown
  · have hlive : s.session.watchdogExit = false := by
      simp only [Monitor.fires, Session.monitor, Bool.and_eq_true, Bool.not_eq_true'] at hf
      exact hf.1.1
    have hrunning : s.session.state = .running := by
      by_contra hn
      rw [hexits hn] at hlive
      cases hlive
    rw [he]
    exact Session.drifts_watchdogRelease hrunning neutralOk

theorem aside_sendState {frame : StateFrame} {ok : Bool}
    (h : s.otherNext inputTimeout (.sendState frame ok) = some t) : Aside s t := by
  simp only [otherNext, Option.ite_none_right_eq_some, Option.some.injEq] at h
  obtain ⟨_, rfl⟩ := h
  rcases s.transport.sendState_cases frame with ⟨_, he⟩ | ⟨_, _, ha, _, _, he⟩ | ⟨_, _, _, he⟩ |
    ⟨ha, _, _, he⟩
  · exact .of_session rfl rfl rfl rfl rfl (congrArg Prod.fst he) (.inl rfl)
  · simp only [he]
    exact ⟨rfl, rfl, rfl, rfl, rfl, Iff.rfl, rfl, fun hf => absurd (ha.symm.trans hf) (by decide),
      fun _ hf => absurd (ha.symm.trans hf) (by decide), .inl rfl⟩
  · exact .of_session rfl rfl rfl rfl rfl (congrArg Prod.fst he) (.inl rfl)
  · simp only [he]
    exact ⟨rfl, rfl, rfl, rfl, rfl, Iff.rfl, rfl, fun hf => absurd (ha.symm.trans hf) (by decide),
      fun _ hf => absurd (ha.symm.trans hf) (by decide), .inl rfl⟩

theorem aside_workerTake (h : s.otherNext inputTimeout .workerTake = some t) : Aside s t := by
  simp only [otherNext, Option.map_eq_some_iff] at h
  obtain ⟨transport, hn, rfl⟩ := h
  simp only [LoopbackTransportBackend.next, Option.ite_none_right_eq_some] at hn
  obtain ⟨hw, hn⟩ := hn
  have hworker : ¬ s.transport.worker = .none := by rw [hw]; decide
  rw [LoopbackTransportBackend.workerTake] at hn
  split at hn
  · obtain rfl := Option.some.inj hn
    exact ⟨rfl, rfl, rfl, rfl, rfl, iff_of_false (by simp) hworker, rfl, fun _ hp => hp,
      fun hf => absurd hf hworker, .inl rfl⟩
  · split at hn
    · cases hn
    · rename_i frame rest hp
      obtain rfl := Option.some.inj hn
      exact ⟨rfl, rfl, rfl, rfl, rfl, iff_of_false (by simp) hworker, rfl,
        fun _ hnil => absurd (hp.symm.trans hnil) (by simp), fun hf => absurd hf hworker, .inl rfl⟩

theorem aside_onStateFrame {frame : StateFrame} {submitOk neutralOk : Bool}
    (h : s.otherNext inputTimeout (.onStateFrame frame submitOk neutralOk) = some t) :
    Aside s t := by
  simp only [otherNext, Option.map_eq_some_iff] at h
  obtain ⟨transport, hn, rfl⟩ := h
  simp only [LoopbackTransportBackend.next, Option.ite_none_right_eq_some,
    Option.some.injEq] at hn
  obtain ⟨hw, rfl⟩ := hn
  have hworker : ¬ s.transport.worker = .none := by rw [hw]; simp
  exact ⟨rfl, rfl, rfl, rfl, rfl, iff_of_false (by simp) hworker, rfl, fun _ hp => hp,
    fun hf => absurd hf hworker,
    Session.drifts_onStateFrame s.session frame submitOk neutralOk s.core.now⟩

theorem aside_next (hexits : s.watchdog = true → s.session.state ≠ .running →
      s.session.watchdogExit = true)
    (h : s.otherNext inputTimeout a = some t) : Aside s t := by
  cases a with
  | submitState frame result =>
    simp only [otherNext, Option.ite_none_right_eq_some, Option.some.injEq] at h
    obtain ⟨_, rfl⟩ := h
    exact .of_session rfl rfl rfl rfl rfl rfl
      (Session.drifts_submitStateLocked s.session frame.sequence)
  | sendState frame ok => exact aside_sendState h
  | onDisconnected neutralOk =>
    simp only [otherNext, Option.ite_none_left_eq_some, Option.some.injEq] at h
    obtain ⟨_, rfl⟩ := h
    exact .of_session rfl rfl rfl rfl rfl rfl (Session.drifts_onDisconnected s.session neutralOk)
  | notifyAll =>
    simp only [otherNext, Option.ite_none_right_eq_some, Option.some.injEq] at h
    obtain ⟨_, rfl⟩ := h
    exact .of_session rfl rfl rfl rfl rfl rfl (.inl rfl)
  | workerTake => exact aside_workerTake h
  | onStateFrame frame submitOk neutralOk => exact aside_onStateFrame h
  | watchdog b =>
    simp only [otherNext, Option.ite_none_right_eq_some, Option.map_eq_some_iff] at h
    obtain ⟨⟨hw, hown⟩, core, hn, rfl⟩ := h
    exact .of_session rfl rfl rfl rfl rfl rfl (drifts_of_watchdog hown (hexits hw) hn)
  | tick d =>
    obtain rfl := Option.some.inj h
    exact .of_session rfl rfl rfl rfl rfl rfl (.inl rfl)
  | start | startServer | startFault | createWatchdog | simulateDisconnect | stop
  | ownerNotifies | shutdown | joinWorker | clearCallbacks | disconnectCallback | joinWatchdog
  | destroy => cases h

/-! ### Where the owner is -/

/-- There is no thread, and nothing to call back. -/
structure Threadless (s : SessionHandle) : Prop where
  worker : s.transport.worker = .none
  accepting : s.transport.accepting = false
  callbacks : s.callbacks = false
  watchdog : s.watchdog = false

/-- The worker has been created. -/
structure Works (s : SessionHandle) : Prop where
  worker : s.transport.worker ≠ .none
  callbacks : s.callbacks = true

/-- What `Shutdown` finds: a `Stop()` has left the session, and `SimulateDisconnect()` is to
call the disconnect callback. -/
def Called (s : SessionHandle) (call : ShutdownCall) (callback : Bool) : Prop :=
  match call with
  | .stop => s.session.state.terminal = true
  | .simulateDisconnect => callback = true

/-- What holds where the owner is. -/
def Shape (s : SessionHandle) : Prop :=
  match s.owner with
  | .idle =>
    s.Threadless ∧ s.session.state ≠ .running ∨
      s.Works ∧ s.session.Begun ∧ s.session.state ≠ .stopped
  | .startServer => s.Threadless ∧ s.session.Begun ∧ s.session.state ≠ .stopped
  | .startFault => False
  | .createWatchdog => s.Works ∧ s.session.Begun ∧ s.session.state ≠ .stopped
  | .notifyStop | .shutdown .stop =>
    (s.Threadless ∨ s.Works) ∧ s.session.Begun ∧ s.session.state.terminal = true
  | .shutdown .simulateDisconnect => s.Works ∧ s.session.Begun
  | .joinWorker call callback =>
    s.Works ∧ s.transport.accepting = false ∧ s.session.Begun ∧ s.Called call callback
  | .clearCallbacks call callback =>
    s.transport.worker = .none ∧ s.transport.accepting = false ∧ s.session.Begun ∧
      s.Called call callback
  | .disconnectCallback _ =>
    s.transport.worker = .none ∧ s.transport.accepting = false ∧ s.callbacks = false ∧
      s.session.Begun
  | .notifyDisconnected _ | .joinWatchdog _ =>
    s.transport.worker = .none ∧ s.transport.accepting = false ∧ s.callbacks = false ∧
      s.session.Begun ∧ s.session.state.terminal = true
  | .destroy => s.Threadless ∧ s.session.Begun ∧ s.session.state.terminal = true

structure Inv (s : SessionHandle) : Prop where
  shape : s.Shape
  released : s.session.state ≠ .running → s.session.outputState = {}
  pending : s.transport.accepting = false → s.transport.pendingStates = []

/-- The worker finds the callbacks set. -/
theorem Inv.called (h : Inv s) (hw : s.transport.worker ≠ .none) : s.callbacks = true := by
  have hs := h.shape
  rw [Shape] at hs
  split at hs
  · rcases hs with ⟨hs, _⟩ | ⟨hs, _⟩
    · exact absurd hs.worker hw
    · exact hs.callbacks
  · exact absurd hs.1.worker hw
  · exact hs.elim
  · exact hs.1.callbacks
  · rcases hs.1 with hs | hs
    · exact absurd hs.worker hw
    · exact hs.callbacks
  · rcases hs.1 with hs | hs
    · exact absurd hs.worker hw
    · exact hs.callbacks
  · exact hs.1.callbacks
  · exact hs.1.callbacks
  · exact absurd hs.1 hw
  · exact absurd hs.1 hw
  · exact absurd hs.1 hw
  · exact absurd hs.1 hw
  · exact absurd hs.1.worker hw

/-- While there is a watchdog, it is told to exit once the session is not running. -/
theorem Inv.exits (h : Inv s) (hw : s.watchdog = true) :
    s.session.state ≠ .running → s.session.watchdogExit = true := by
  have hno : ¬ s.Threadless := fun ht => absurd (ht.watchdog.symm.trans hw) (by decide)
  have hs := h.shape
  rw [Shape] at hs
  split at hs
  · rcases hs with ⟨hs, _⟩ | ⟨_, hs, _⟩
    · exact absurd hs hno
    · exact hs.exits
  · exact absurd hs.1 hno
  · exact hs.elim
  · exact hs.2.1.exits
  · exact hs.2.1.exits
  · exact hs.2.1.exits
  · exact hs.2.exits
  · exact hs.2.2.1.exits
  · exact hs.2.2.1.exits
  · exact hs.2.2.2.exits
  · exact hs.2.2.2.1.exits
  · exact hs.2.2.2.1.exits
  · exact absurd hs.1 hno

theorem Aside.threadless (h : Aside s t) (hs : s.Threadless) : t.Threadless :=
  ⟨h.worker.mpr hs.worker, h.accepting.trans hs.accepting, h.callbacks.trans hs.callbacks,
    h.watchdog.trans hs.watchdog⟩

theorem Aside.works (h : Aside s t) (hs : s.Works) : t.Works :=
  ⟨mt h.worker.mp hs.worker, h.callbacks.trans hs.callbacks⟩

theorem Aside.terminal (h : Aside s t) (hs : s.session.state.terminal = true) :
    t.session.state.terminal = true := by
  rw [h.session.eq_of_not_running (Session.not_running_of_terminal hs)]
  exact hs

theorem Aside.called (h : Aside s t) {call : ShutdownCall} {callback : Bool}
    (hs : s.Called call callback) : t.Called call callback := by
  cases call with
  | stop => exact h.terminal hs
  | simulateDisconnect => exact hs

theorem Aside.shape (h : Aside s t) (hs : s.Shape) : t.Shape := by
  rw [Shape] at hs ⊢
  rw [h.owner]
  split at hs
  · rcases hs with ⟨hs, hn⟩ | ⟨hs, hb, hn⟩
    · exact .inl ⟨h.threadless hs, by rw [h.session.eq_of_not_running hn]; exact hn⟩
    · exact .inr ⟨h.works hs, h.session.begun hb, h.session.stopped hn⟩
  · exact ⟨h.threadless hs.1, h.session.begun hs.2.1, h.session.stopped hs.2.2⟩
  · exact hs.elim
  · exact ⟨h.works hs.1, h.session.begun hs.2.1, h.session.stopped hs.2.2⟩
  · exact ⟨hs.1.imp h.threadless h.works, h.session.begun hs.2.1, h.terminal hs.2.2⟩
  · exact ⟨hs.1.imp h.threadless h.works, h.session.begun hs.2.1, h.terminal hs.2.2⟩
  · exact ⟨h.works hs.1, h.session.begun hs.2⟩
  · exact ⟨h.works hs.1, h.accepting.trans hs.2.1, h.session.begun hs.2.2.1, h.called hs.2.2.2⟩
  · exact ⟨h.worker.mpr hs.1, h.accepting.trans hs.2.1, h.session.begun hs.2.2.1,
      h.called hs.2.2.2⟩
  · exact ⟨h.worker.mpr hs.1, h.accepting.trans hs.2.1, h.callbacks.trans hs.2.2.1,
      h.session.begun hs.2.2.2⟩
  · exact ⟨h.worker.mpr hs.1, h.accepting.trans hs.2.1, h.callbacks.trans hs.2.2.1,
      h.session.begun hs.2.2.2.1, h.terminal hs.2.2.2.2⟩
  · exact ⟨h.worker.mpr hs.1, h.accepting.trans hs.2.1, h.callbacks.trans hs.2.2.1,
      h.session.begun hs.2.2.2.1, h.terminal hs.2.2.2.2⟩
  · exact ⟨h.threadless hs.1, h.session.begun hs.2.1, h.terminal hs.2.2⟩

theorem Inv.aside (h : Inv s) (ha : Aside s t) : Inv t where
  shape := ha.shape h.shape
  released := ha.session.released h.released
  pending hf := ha.pending (ha.accepting.symm.trans hf) (h.pending (ha.accepting.symm.trans hf))

/-! ### The owner -/

/-- **What a step of the owner can be.** -/
inductive OwnerStep (inputTimeout : Nat) (s : SessionHandle) : Label → SessionHandle → Prop
  | start {createOk} (ho : s.owner = .idle) :
      OwnerStep inputTimeout s (.start createOk)
        ((s.setSession (s.session.startLocked createOk).1).goto
          (if (s.session.startLocked createOk).2 = .ok then .startServer else .idle))
  | startServer (ho : s.owner = .startServer) (hok : (s.transport.start true).2 = true) :
      OwnerStep inputTimeout s .startServer { s with
        transport := (s.transport.start true).1, callbacks := true, owner := .createWatchdog }
  | startRefused (ho : s.owner = .startServer) (hok : ¬ (s.transport.start true).2 = true) :
      OwnerStep inputTimeout s .startServer (s.goto .startFault)
  | startFault {neutralOk} (ho : s.owner = .startFault) :
      OwnerStep inputTimeout s (.startFault neutralOk)
        ((s.setSession (s.session.startFault neutralOk)).goto .idle)
  | createWatchdog (ho : s.owner = .createWatchdog) :
      OwnerStep inputTimeout s .createWatchdog
        { s with watchdog := true, core := { s.core with thread := .outside }, owner := .idle }
  | simulateDisconnect (ho : s.owner = .idle) (hs : s.session.state = .running) :
      OwnerStep inputTimeout s .simulateDisconnect (s.goto (.shutdown .simulateDisconnect))
  | simulateRefused (ho : s.owner = .idle) (hs : s.session.state ≠ .running) :
      OwnerStep inputTimeout s .simulateDisconnect s
  | stop {neutralOk} (ho : s.owner = .idle)
      (hs : ¬ (s.session.state = .created ∨ s.session.state = .stopped)) :
      OwnerStep inputTimeout s (.stop neutralOk)
        ((s.locked inputTimeout (.stop neutralOk)).goto .notifyStop)
  | stopReturns {neutralOk} (ho : s.owner = .idle)
      (hs : s.session.state = .created ∨ s.session.state = .stopped) :
      OwnerStep inputTimeout s (.stop neutralOk)
        { s.locked inputTimeout (.stop neutralOk) with stopped := true }
  | notifyStop (ho : s.owner = .notifyStop) :
      OwnerStep inputTimeout s .ownerNotifies (s.notified.goto (.shutdown .stop))
  | notifyDisconnected {call} (ho : s.owner = .notifyDisconnected call) :
      OwnerStep inputTimeout s .ownerNotifies (s.notified.goto (.joinWatchdog call))
  | shutdown {call} (ho : s.owner = .shutdown call)
      (hg : ¬ (!s.transport.accepting && s.transport.worker == .none) = true) :
      OwnerStep inputTimeout s .shutdown { s with
        transport := s.transport.shutdown
        owner := .joinWorker call (call == .simulateDisconnect && s.callbacks) }
  | shutdownReturns {call} (ho : s.owner = .shutdown call)
      (hg : (!s.transport.accepting && s.transport.worker == .none) = true) :
      OwnerStep inputTimeout s .shutdown (s.goto (.joinWatchdog call))
  | joinWorker {call callback} (ho : s.owner = .joinWorker call callback) :
      OwnerStep inputTimeout s .joinWorker { s with
        transport := { s.transport with worker := .none }
        owner := .clearCallbacks call callback }
  | clearCallbacks {call callback} (ho : s.owner = .clearCallbacks call callback) :
      OwnerStep inputTimeout s .clearCallbacks { s with
        callbacks := false
        transport := { s.transport with stopRequested := false }
        owner := if callback then .disconnectCallback call else .joinWatchdog call }
  | disconnectCallback {neutralOk call} (ho : s.owner = .disconnectCallback call) :
      OwnerStep inputTimeout s (.disconnectCallback neutralOk)
        ((s.locked inputTimeout (.onDisconnected neutralOk)).goto
          (if s.session.state = .running then .notifyDisconnected call else .joinWatchdog call))
  | joinDisconnect (ho : s.owner = .joinWatchdog .simulateDisconnect) :
      OwnerStep inputTimeout s .joinWatchdog
        { s with watchdog := false, owner := .idle, disconnected := true }
  | joinStop (ho : s.owner = .joinWatchdog .stop) :
      OwnerStep inputTimeout s .joinWatchdog { s with watchdog := false, owner := .destroy }
  | destroy (ho : s.owner = .destroy) :
      OwnerStep inputTimeout s .destroy { s with
        core := { s.core with core := { s.session with virtual := s.session.virtual.destroy } }
        owner := .idle
        stopped := true }

theorem ownerStep_of_next (hn : s.ownerNext inputTimeout a = some t) :
    OwnerStep inputTimeout s a t := by
  cases a with
  | start createOk =>
    simp only [ownerNext, Option.ite_none_right_eq_some, Option.some.injEq] at hn
    obtain ⟨ho, rfl⟩ := hn
    exact .start ho
  | startServer =>
    simp only [ownerNext, Option.ite_none_right_eq_some] at hn
    obtain ⟨ho, hn⟩ := hn
    split at hn
    · obtain rfl := Option.some.inj hn
      exact .startServer ho ‹_›
    · obtain rfl := Option.some.inj hn
      exact .startRefused ho ‹_›
  | startFault neutralOk =>
    simp only [ownerNext, Option.ite_none_right_eq_some, Option.some.injEq] at hn
    obtain ⟨ho, rfl⟩ := hn
    exact .startFault ho
  | createWatchdog =>
    simp only [ownerNext, Option.ite_none_right_eq_some, Option.some.injEq] at hn
    obtain ⟨ho, rfl⟩ := hn
    exact .createWatchdog ho
  | simulateDisconnect =>
    simp only [ownerNext, Option.ite_none_right_eq_some] at hn
    obtain ⟨ho, hn⟩ := hn
    split at hn
    · obtain rfl := Option.some.inj hn
      exact .simulateDisconnect ho ‹_›
    · obtain rfl := Option.some.inj hn
      exact .simulateRefused ho ‹_›
  | stop neutralOk =>
    simp only [ownerNext, Option.ite_none_right_eq_some] at hn
    obtain ⟨ho, hn⟩ := hn
    split at hn
    · obtain rfl := Option.some.inj hn
      exact .stopReturns ho ‹_›
    · obtain rfl := Option.some.inj hn
      exact .stop ho ‹_›
  | ownerNotifies =>
    simp only [ownerNext] at hn
    split at hn
    · obtain rfl := Option.some.inj hn
      exact .notifyStop ‹_›
    · obtain rfl := Option.some.inj hn
      exact .notifyDisconnected ‹_›
    · cases hn
  | shutdown =>
    simp only [ownerNext] at hn
    split at hn
    · split at hn
      · obtain rfl := Option.some.inj hn
        exact .shutdownReturns ‹_› ‹_›
      · obtain rfl := Option.some.inj hn
        exact .shutdown ‹_› ‹_›
    · cases hn
  | joinWorker =>
    simp only [ownerNext] at hn
    split at hn
    · simp only [Option.ite_none_right_eq_some, Option.some.injEq] at hn
      obtain ⟨_, rfl⟩ := hn
      exact .joinWorker ‹_›
    · cases hn
  | clearCallbacks =>
    simp only [ownerNext] at hn
    split at hn
    · obtain rfl := Option.some.inj hn
      exact .clearCallbacks ‹_›
    · cases hn
  | disconnectCallback neutralOk =>
    simp only [ownerNext] at hn
    split at hn
    · obtain rfl := Option.some.inj hn
      exact .disconnectCallback ‹_›
    · cases hn
  | joinWatchdog =>
    simp only [ownerNext] at hn
    split at hn
    · rename_i call ho
      simp only [Option.ite_none_right_eq_some] at hn
      obtain ⟨_, hn⟩ := hn
      cases call with
      | simulateDisconnect =>
        obtain rfl := Option.some.inj hn
        exact .joinDisconnect ho
      | stop =>
        obtain rfl := Option.some.inj hn
        exact .joinStop ho
    · cases hn
  | destroy =>
    simp only [ownerNext, Option.ite_none_right_eq_some, Option.some.injEq] at hn
    obtain ⟨ho, rfl⟩ := hn
    exact .destroy ho
  | submitState | sendState | onDisconnected | notifyAll | workerTake | onStateFrame | watchdog
  | tick => cases hn

/-- The first section of `Start()`: the session is begun, or nothing has happened to it that
matters. -/
theorem startLocked_cases (s : Session) (createOk : Bool) :
    (s.state = .created ∧ (s.startLocked createOk).2 = .ok ∧
      (s.startLocked createOk).1.state = .running) ∨
    (s.startLocked createOk).2 ≠ .ok ∧ (s.startLocked createOk).1.outputState = s.outputState ∧
      (s.state = .created ∧ (s.startLocked createOk).1.state = .faulted ∨
        (s.startLocked createOk).1 = s) := by
  rw [Session.startLocked]
  split
  · exact .inr ⟨fun he => (by cases he), rfl, .inr rfl⟩
  · rename_i hs
    replace hs := not_not.mp hs
    rcases s.virtual.create_cases createOk with ⟨hok, _⟩ | ⟨hok, _⟩
    · exact .inl ⟨hs, by simp [hok], by simp [hok]⟩
    · exact .inr ⟨by simp [hok], by simp [hok], .inl ⟨hs, by simp [hok]⟩⟩

/-- At rest the session is running only over its threads, and created only without them. -/
theorem Inv.threadless_of_created (h : Inv s) (ho : s.owner = .idle)
    (hs : s.session.state = .created) : s.Threadless := by
  have hshape := h.shape
  simp only [Shape, ho] at hshape
  rcases hshape with ⟨ht, _⟩ | ⟨_, hb, _⟩
  · exact ht
  · exact absurd hs hb.created

theorem Inv.threadless_of_stopped (h : Inv s) (ho : s.owner = .idle)
    (hs : s.session.state = .stopped) : s.Threadless := by
  have hshape := h.shape
  simp only [Shape, ho] at hshape
  rcases hshape with ⟨ht, _⟩ | ⟨_, _, hn⟩
  · exact ht
  · exact absurd hs hn

theorem Inv.start (h : Inv s) (ho : s.owner = .idle) (createOk : Bool) :
    Inv ((s.setSession (s.session.startLocked createOk).1).goto
      (if (s.session.startLocked createOk).2 = .ok then .startServer else .idle)) := by
  rcases startLocked_cases s.session createOk with ⟨hs, hok, hrunning⟩ |
    ⟨hfail, hout, ⟨hs, hfault⟩ | hsame⟩
  · have ht := h.threadless_of_created ho hs
    rw [if_pos hok]
    refine ⟨⟨⟨ht.worker, ht.accepting, ht.callbacks, ht.watchdog⟩, ⟨?_, ?_⟩, ?_⟩, ?_, h.pending⟩
    · exact fun he => by cases hrunning.symm.trans he
    · exact fun hn => absurd hrunning hn
    · exact fun he => by cases hrunning.symm.trans he
    · exact fun hn => absurd hrunning hn
  · have ht := h.threadless_of_created ho hs
    rw [if_neg hfail]
    refine ⟨.inl ⟨⟨ht.worker, ht.accepting, ht.callbacks, ht.watchdog⟩, ?_⟩, fun _ => ?_, h.pending⟩
    · exact fun he => by cases hfault.symm.trans he
    · exact hout.trans (h.released (by simp [hs]))
  · have hself : (s.setSession s.session).goto .idle = s := by rw [← ho]; rfl
    rw [if_neg hfail, hsame, hself]
    exact h

/-- `StartServer` is not refused: the transport has never been started. -/
theorem Inv.startServer (h : Inv s) (ho : s.owner = .startServer) :
    (s.transport.start true).2 = true ∧
      Inv { s with
        transport := (s.transport.start true).1, callbacks := true, owner := .createWatchdog } := by
  have hshape := h.shape
  simp only [Shape, ho] at hshape
  obtain ⟨ht, hb, hn⟩ := hshape
  have hstart : s.transport.start true =
      ({ s.transport with
        pendingStates := [], stopRequested := false, accepting := true, worker := .waiting },
        true) := by
    simp [LoopbackTransportBackend.start, ht.accepting, ht.worker]
  rw [hstart]
  refine ⟨rfl, ⟨⟨?_, rfl⟩, hb, hn⟩, h.released, fun hf => by cases hf⟩
  exact fun hw => by cases hw

theorem Inv.stop (h : Inv s) (ho : s.owner = .idle)
    (hs : ¬ (s.session.state = .created ∨ s.session.state = .stopped)) (neutralOk : Bool) :
    Inv ((s.locked inputTimeout (.stop neutralOk)).goto .notifyStop) := by
  obtain ⟨hb, hterminal, hout⟩ := Session.stopLocked_begun hs neutralOk
  have hshape := h.shape
  simp only [Shape, ho] at hshape
  refine ⟨⟨?_, hb, hterminal⟩, fun _ => hout h.released, h.pending⟩
  rcases hshape with ⟨ht, _⟩ | ⟨hw, _⟩
  · exact .inl ⟨ht.worker, ht.accepting, ht.callbacks, ht.watchdog⟩
  · exact .inr ⟨hw.worker, hw.callbacks⟩

/-- A `Stop()` that returns at once. -/
theorem Inv.stopped (h : Inv s) (ho : s.owner = .idle)
    (hs : s.session.state = .created ∨ s.session.state = .stopped) (neutralOk : Bool) :
    s.Threadless ∧ (s.session.stopLocked neutralOk).state = .stopped ∧
      (s.session.stopLocked neutralOk).outputState = {} ∧
      (s.session.state = .stopped → s.session.stopLocked neutralOk = s.session) := by
  have hout := h.released
  rcases hs with hs | hs
  · refine ⟨h.threadless_of_created ho hs, ?_, ?_, fun he => ?_⟩
    · simp [Session.stopLocked, hs]
    · simp [Session.stopLocked, hs, hout (by simp [hs])]
    · rw [hs] at he
      cases he
  · refine ⟨h.threadless_of_stopped ho hs, ?_, ?_, fun _ => ?_⟩
    · simp [Session.stopLocked, hs]
    · simp [Session.stopLocked, hs, hout (by simp [hs])]
    · simp [Session.stopLocked, hs]

/-- `Shutdown` with a worker. -/
theorem Inv.shutdown (h : Inv s) {call : ShutdownCall} (ho : s.owner = .shutdown call)
    (hg : ¬ (!s.transport.accepting && s.transport.worker == .none) = true) :
    Inv { s with
      transport := s.transport.shutdown
      owner := .joinWorker call (call == .simulateDisconnect && s.callbacks) } := by
  have hdown : s.transport.shutdown =
      { s.transport with accepting := false, stopRequested := true, pendingStates := [] } := by
    rw [LoopbackTransportBackend.shutdown, if_neg hg]
  have hnot : ¬ s.Threadless := fun ht => hg (by simp [ht.accepting, ht.worker])
  have hshape := h.shape
  rw [hdown]
  cases call with
  | stop =>
    simp only [Shape, ho] at hshape
    obtain ⟨hw, hb, hterminal⟩ := hshape
    have hw := hw.resolve_left hnot
    exact ⟨⟨⟨hw.worker, hw.callbacks⟩, rfl, hb, hterminal⟩, h.released, fun _ => rfl⟩
  | simulateDisconnect =>
    simp only [Shape, ho] at hshape
    obtain ⟨hw, hb⟩ := hshape
    exact ⟨⟨⟨hw.worker, hw.callbacks⟩, rfl, hb, by simp [Called, hw.callbacks]⟩, h.released,
      fun _ => rfl⟩

/-- `Shutdown` without one returns at once, which happens to a `Stop()` only. -/
theorem Inv.shutdown_none (h : Inv s) {call : ShutdownCall} (ho : s.owner = .shutdown call)
    (hg : (!s.transport.accepting && s.transport.worker == .none) = true) :
    Inv (s.goto (.joinWatchdog call)) := by
  have hnone : s.transport.worker = .none := by simpa using (Bool.and_eq_true_iff.mp hg).2
  have hshape := h.shape
  cases call with
  | stop =>
    simp only [Shape, ho] at hshape
    obtain ⟨ht | hw, hb, hterminal⟩ := hshape
    · exact ⟨⟨ht.worker, ht.accepting, ht.callbacks, hb, hterminal⟩, h.released, h.pending⟩
    · exact absurd hnone hw.worker
  | simulateDisconnect =>
    simp only [Shape, ho] at hshape
    exact absurd hnone hshape.1.worker

theorem Inv.clearCallbacks (h : Inv s) {call : ShutdownCall} {callback : Bool}
    (ho : s.owner = .clearCallbacks call callback) :
    Inv { s with
      callbacks := false
      transport := { s.transport with stopRequested := false }
      owner := if callback then .disconnectCallback call else .joinWatchdog call } := by
  have hshape := h.shape
  simp only [Shape, ho] at hshape
  obtain ⟨hw, ha, hb, hcalled⟩ := hshape
  refine ⟨?_, h.released, h.pending⟩
  cases callback with
  | true => exact ⟨hw, ha, rfl, hb⟩
  | false =>
    cases call with
    | stop => exact ⟨hw, ha, rfl, hb, hcalled⟩
    | simulateDisconnect => cases hcalled

theorem Inv.disconnectCallback (h : Inv s) {call : ShutdownCall}
    (ho : s.owner = .disconnectCallback call) (neutralOk : Bool) :
    Inv ((s.locked inputTimeout (.onDisconnected neutralOk)).goto
      (if s.session.state = .running then .notifyDisconnected call else .joinWatchdog call)) := by
  have hshape := h.shape
  simp only [Shape, ho] at hshape
  obtain ⟨hw, ha, hc, hb⟩ := hshape
  have hdrifts := Session.drifts_onDisconnected s.session neutralOk
  split
  · rename_i hs
    have hstate : (s.session.onDisconnected neutralOk).state = .disconnected := by
      simp [Session.onDisconnected, Session.neutralizeLocked, hs]
    refine ⟨⟨hw, ha, hc, hdrifts.begun hb, ?_⟩, hdrifts.released h.released, h.pending⟩
    show (s.session.onDisconnected neutralOk).state.terminal = true
    rw [hstate]
    rfl
  · rename_i hs
    refine ⟨⟨hw, ha, hc, hdrifts.begun hb, ?_⟩, hdrifts.released h.released, h.pending⟩
    show (s.session.onDisconnected neutralOk).state.terminal = true
    rw [hdrifts.eq_of_not_running hs]
    exact hb.terminal hs

theorem Inv.joinWatchdog (h : Inv s) {call : ShutdownCall} (ho : s.owner = .joinWatchdog call) :
    ({ s with watchdog := false } : SessionHandle).Threadless ∧ s.session.Begun ∧
      s.session.state.terminal = true := by
  have hshape := h.shape
  simp only [Shape, ho] at hshape
  obtain ⟨hw, ha, hc, hb, hterminal⟩ := hshape
  exact ⟨⟨hw, ha, hc, rfl⟩, hb, hterminal⟩

theorem Inv.ownerNext (h : Inv s) (hn : OwnerStep inputTimeout s a t) : Inv t := by
  have hshape := h.shape
  cases hn with
  | start ho => exact h.start ho _
  | startServer ho => exact (h.startServer ho).2
  | startRefused ho hok => exact absurd (h.startServer ho).1 hok
  | startFault ho => simp only [Shape, ho] at hshape
  | createWatchdog ho =>
    simp only [Shape, ho] at hshape
    obtain ⟨hw, hb, hne⟩ := hshape
    exact ⟨.inr ⟨⟨hw.worker, hw.callbacks⟩, hb, hne⟩, h.released, h.pending⟩
  | simulateDisconnect ho hs =>
    simp only [Shape, ho] at hshape
    rcases hshape with ⟨_, hne⟩ | ⟨hw, hb, _⟩
    · exact absurd hs hne
    · exact ⟨⟨⟨hw.worker, hw.callbacks⟩, hb⟩, h.released, h.pending⟩
  | simulateRefused => exact h
  | stop ho hs => exact h.stop ho hs _
  | @stopReturns neutralOk ho hs =>
    obtain ⟨ht, hstate, hout, _⟩ := h.stopped ho hs neutralOk
    refine ⟨?_, fun _ => hout, h.pending⟩
    simp only [Shape, SessionHandle.locked, ho]
    refine .inl ⟨⟨ht.worker, ht.accepting, ht.callbacks, ht.watchdog⟩, ?_⟩
    show (s.session.stopLocked neutralOk).state ≠ .running
    rw [hstate]
    decide
  | notifyStop ho =>
    simp only [Shape, ho] at hshape
    obtain ⟨hw, hb, hterminal⟩ := hshape
    refine ⟨⟨hw.imp (fun ht => ?_) fun hw => ?_, hb, hterminal⟩, h.released, h.pending⟩
    · exact ⟨ht.worker, ht.accepting, ht.callbacks, ht.watchdog⟩
    · exact ⟨hw.worker, hw.callbacks⟩
  | notifyDisconnected ho =>
    simp only [Shape, ho] at hshape
    exact ⟨hshape, h.released, h.pending⟩
  | shutdown ho hg => exact h.shutdown ho hg
  | shutdownReturns ho hg => exact h.shutdown_none ho hg
  | joinWorker ho =>
    simp only [Shape, ho] at hshape
    obtain ⟨_, ha, hb, hcalled⟩ := hshape
    exact ⟨⟨rfl, ha, hb, hcalled⟩, h.released, h.pending⟩
  | clearCallbacks ho => exact h.clearCallbacks ho
  | disconnectCallback ho => exact h.disconnectCallback ho _
  | joinDisconnect ho =>
    obtain ⟨ht, _, hterminal⟩ := h.joinWatchdog ho
    exact ⟨.inl ⟨⟨ht.worker, ht.accepting, ht.callbacks, rfl⟩,
      Session.not_running_of_terminal hterminal⟩, h.released, h.pending⟩
  | joinStop ho =>
    obtain ⟨ht, hb, hterminal⟩ := h.joinWatchdog ho
    exact ⟨⟨⟨ht.worker, ht.accepting, ht.callbacks, rfl⟩, hb, hterminal⟩, h.released, h.pending⟩
  | destroy ho =>
    simp only [Shape, ho] at hshape
    obtain ⟨ht, _, hterminal⟩ := hshape
    exact ⟨.inl ⟨⟨ht.worker, ht.accepting, ht.callbacks, ht.watchdog⟩,
      Session.not_running_of_terminal hterminal⟩, h.released, h.pending⟩

theorem next_cases (h : s.next inputTimeout a = some t) :
    OwnerStep inputTimeout s a t ∨ s.otherNext inputTimeout a = some t := by
  rw [next, Option.or_eq_some_iff] at h
  exact h.imp ownerStep_of_next And.right

theorem Inv.next (h : Inv s) (hn : s.next inputTimeout a = some t) : Inv t := by
  rcases next_cases hn with hn | hn
  · exact h.ownerNext hn
  · exact h.aside (aside_next h.exits hn)

theorem inv_init (inputTimeout now : Nat) : Inv (system inputTimeout now).init where
  shape := .inl ⟨⟨rfl, rfl, rfl, rfl⟩, fun he => by cases he⟩
  released _ := rfl
  pending _ := rfl

/-! ### What the calls leave behind -/

/-- **What `SimulateDisconnect()` and `Stop()` leave**: no thread that would have to be joined,
nothing to call back and nothing queued, in a session that takes no input any more and shows
none. -/
structure Ended (s : SessionHandle) : Prop where
  worker : s.transport.worker = .none
  watchdog : s.watchdog = false
  accepting : s.transport.accepting = false
  callbacks : s.callbacks = false
  pendingStates : s.transport.pendingStates = []
  state : s.session.state.terminal = true
  outputState : s.session.outputState = {}
  started : s.owner.startReturned = true

/-- What `Stop()` leaves: besides, the target is destroyed, and another `Stop()` has nothing to
do. -/
structure Over (s : SessionHandle) : Prop extends Ended s where
  destroyed : s.session.virtual.created = false
  exits : s.session.state ≠ .stopped → s.session.watchdogExit = true

theorem Ended.threadless (h : Ended s) : s.Threadless :=
  ⟨h.worker, h.accepting, h.callbacks, h.watchdog⟩

theorem Ended.of_threadless (hi : Inv s) (ht : s.Threadless)
    (hs : s.session.state.terminal = true) (ho : s.owner.startReturned = true) : Ended s :=
  ⟨ht.worker, ht.watchdog, ht.accepting, ht.callbacks, hi.pending ht.accepting, hs,
    hi.released (Session.not_running_of_terminal hs), ho⟩

/-- A session that has ended is left alone, but for a `Stop()` that tells the watchdog to exit
and destroys the target. -/
inductive Leaves (s t : Session) : Prop
  | same (h : t = s)
  | exits (hs : s.state ≠ .stopped) (h : t = { s with watchdogExit := true })
  | destroys (h : t = { s with virtual := s.virtual.destroy })

theorem Leaves.state {c d : Session} (h : Leaves c d) : d.state = c.state := by
  rcases h with rfl | ⟨_, rfl⟩ | rfl <;> rfl

theorem stopLocked_leaves {c : Session} (hs : c.state.terminal = true) (neutralOk : Bool) :
    Leaves c (c.stopLocked neutralOk) := by
  rw [Session.stopLocked]
  split
  · rename_i he
    rw [he] at hs
    cases hs
  · exact .same rfl
  · rename_i he
    rw [he] at hs
    cases hs
  · rename_i he
    exact .exits (by simp [he]) rfl
  · rename_i he
    exact .exits (by simp [he]) rfl

theorem startLocked_ended {c : Session} (hs : c.state.terminal = true) (createOk : Bool) :
    c.startLocked createOk = (c, .invalidState) := by
  rw [Session.startLocked, if_pos]
  intro he
  rw [he] at hs
  cases hs

/-- A step of the owner after the end. -/
theorem Ended.ownerNext (h : Ended s) (hn : OwnerStep inputTimeout s a t) :
    Leaves s.session t.session ∧ t.Threadless ∧ t.owner.startReturned = true := by
  have ht := h.threadless
  have hne := Session.not_running_of_terminal h.state
  have hstarted := h.started
  cases hn with
  | start ho =>
    rw [startLocked_ended h.state]
    exact ⟨.same rfl, ⟨ht.worker, ht.accepting, ht.callbacks, ht.watchdog⟩, rfl⟩
  | startServer ho | startRefused ho | startFault ho | createWatchdog ho =>
    rw [ho] at hstarted
    cases hstarted
  | simulateDisconnect ho hs => exact absurd hs hne
  | simulateRefused => exact ⟨.same rfl, ht, hstarted⟩
  | stop ho hs =>
    exact ⟨stopLocked_leaves h.state _, ⟨ht.worker, ht.accepting, ht.callbacks, ht.watchdog⟩, rfl⟩
  | stopReturns ho hs =>
    exact ⟨stopLocked_leaves h.state _, ⟨ht.worker, ht.accepting, ht.callbacks, ht.watchdog⟩,
      hstarted⟩
  | notifyStop ho | notifyDisconnected ho | shutdownReturns ho hg =>
    exact ⟨.same rfl, ⟨ht.worker, ht.accepting, ht.callbacks, ht.watchdog⟩, rfl⟩
  | shutdown ho hg => exact absurd (by simp [ht.accepting, ht.worker]) hg
  | joinWorker ho => exact ⟨.same rfl, ⟨rfl, ht.accepting, ht.callbacks, ht.watchdog⟩, rfl⟩
  | @clearCallbacks call callback ho =>
    refine ⟨.same rfl, ⟨ht.worker, ht.accepting, rfl, ht.watchdog⟩, ?_⟩
    cases callback <;> rfl
  | @disconnectCallback neutralOk call ho =>
    rw [if_neg hne]
    refine ⟨.same ?_, ⟨ht.worker, ht.accepting, ht.callbacks, ht.watchdog⟩, rfl⟩
    exact (Session.drifts_onDisconnected s.session neutralOk).eq_of_not_running hne
  | joinDisconnect ho | joinStop ho =>
    exact ⟨.same rfl, ⟨ht.worker, ht.accepting, ht.callbacks, rfl⟩, rfl⟩
  | destroy ho =>
    exact ⟨.destroys rfl, ⟨ht.worker, ht.accepting, ht.callbacks, ht.watchdog⟩, rfl⟩

/-- **A step after the end.** -/
theorem Ended.next (h : Ended s) (hi : Inv s) (hn : s.next inputTimeout a = some t) :
    Leaves s.session t.session ∧ Ended t := by
  have hstep : Leaves s.session t.session ∧ t.Threadless ∧ t.owner.startReturned = true := by
    rcases next_cases hn with hn | hn
    · exact h.ownerNext hn
    · have ha := aside_next hi.exits hn
      have hsame := ha.session.eq_of_not_running (Session.not_running_of_terminal h.state)
      exact ⟨.same hsame, ha.threadless h.threadless, by rw [ha.owner]; exact h.started⟩
  obtain ⟨hleaves, ht, ho⟩ := hstep
  exact ⟨hleaves, .of_threadless (hi.next hn) ht (by rw [hleaves.state]; exact h.state) ho⟩

/-- After a `Stop()` nothing changes any more. -/
theorem Over.next (h : Over s) (hi : Inv s) (hn : s.next inputTimeout a = some t) :
    t.session = s.session ∧ Over t := by
  obtain ⟨hleaves, hended⟩ := h.toEnded.next hi hn
  have hsame : t.session = s.session := by
    rcases hleaves with he | ⟨hs, he⟩ | he
    · exact he
    · rw [he, ← h.exits hs]
    · have hv : s.session.virtual.destroy = s.session.virtual := by
        rw [VirtualController.destroy, ← h.destroyed]
      rw [he, hv]
  exact ⟨hsame, hended, by rw [hsame]; exact h.destroyed, by rw [hsame]; exact h.exits⟩

/-! ### When the calls return -/

/-- A session that has not been started, or that a `Stop()` has stopped, has no target. -/
def Untargeted (s : SessionHandle) : Prop :=
  s.session.state = .created ∨ s.session.state = .stopped → s.owner.stopping = false →
    s.session.virtual.created = false

theorem Untargeted.congr (h : Untargeted s) (hs : t.session = s.session)
    (ho : t.owner.stopping = s.owner.stopping) : Untargeted t := by
  rw [Untargeted, hs, ho]
  exact h

theorem Untargeted.ownerNext (h : Untargeted s) (hn : OwnerStep inputTimeout s a t) :
    Untargeted t := by
  cases hn with
  | @start createOk ho =>
    rcases startLocked_cases s.session createOk with ⟨_, _, hrunning⟩ | ⟨hfail, _, hrest⟩
    · intro hs _
      rcases hs with hs | hs <;> cases hrunning.symm.trans hs
    · rw [if_neg hfail]
      rcases hrest with ⟨_, hfault⟩ | hsame
      · intro hs _
        rcases hs with hs | hs <;> cases hfault.symm.trans hs
      · exact h.congr hsame (by rw [ho]; rfl)
  | startServer ho | startRefused ho | createWatchdog ho | simulateDisconnect ho
  | notifyStop ho | joinDisconnect ho | joinStop ho => exact h.congr rfl (by rw [ho]; rfl)
  | startFault ho =>
    intro hs _
    rcases hs with hs | hs <;> cases hs
  | simulateRefused => exact h
  | stop => exact fun _ hn => by cases hn
  | @stopReturns neutralOk ho hs =>
    intro _ hn
    have hv : (s.session.stopLocked neutralOk).virtual = s.session.virtual := by
      rcases hs with hs | hs <;> simp [Session.stopLocked, hs]
    exact (congrArg VirtualController.created hv).trans (h hs hn)
  | @notifyDisconnected call ho | @shutdownReturns call ho | @shutdown call ho
  | @joinWorker call _ ho => exact h.congr rfl (by rw [ho]; cases call <;> rfl)
  | @clearCallbacks call callback ho =>
    exact h.congr rfl (by rw [ho]; cases call <;> cases callback <;> rfl)
  | @disconnectCallback neutralOk call ho =>
    intro hs hn
    by_cases hr : s.session.state = .running
    · have hstate : (s.session.onDisconnected neutralOk).state = .disconnected := by
        simp [Session.onDisconnected, Session.neutralizeLocked, hr]
      rcases hs with hs | hs <;> cases hstate.symm.trans hs
    · have hsame : s.session.onDisconnected neutralOk = s.session :=
        (Session.drifts_onDisconnected _ neutralOk).eq_of_not_running hr
      refine h.congr (t := (s.locked inputTimeout (.onDisconnected neutralOk)).goto _) hsame ?_
        hs hn
      rw [if_neg hr, ho]
      cases call <;> rfl
  | destroy => exact fun _ _ => rfl

theorem Untargeted.next (h : Untargeted s) (hi : Inv s) (hn : s.next inputTimeout a = some t) :
    Untargeted t := by
  rcases next_cases hn with hn | hn
  · exact h.ownerNext hn
  · have ha := aside_next hi.exits hn
    rcases ha.session with hsame | ⟨_, hs | hs⟩
    · exact h.congr hsame (by rw [ha.owner])
    · intro he _
      rcases he with he | he <;> cases hs.symm.trans he
    · intro he _
      rcases hs.state with hs | hs <;> rcases he with he | he <;> cases hs.symm.trans he

/-- `SimulateDisconnect()` returns `kOk` from a session that has ended. -/
theorem disconnected_next (hi : Inv s) (hn : s.next inputTimeout a = some t)
    (ht : t.disconnected = true) : s.disconnected = true ∨ Ended t := by
  have hi' := hi.next hn
  rcases next_cases hn with hn | hn
  · cases hn with
    | joinDisconnect ho =>
      obtain ⟨hless, _, hterminal⟩ := hi.joinWatchdog ho
      exact .inr (.of_threadless hi' ⟨hless.worker, hless.accepting, hless.callbacks, rfl⟩
        hterminal rfl)
    | _ => exact .inl ht
  · exact .inl ((aside_next hi.exits hn).disconnected.symm.trans ht)

/-- `Stop()` returns from a session that is over. -/
theorem stopped_next (hi : Inv s) (hv : Untargeted s) (hn : s.next inputTimeout a = some t)
    (ht : t.stopped = true) : s.stopped = true ∨ Over t := by
  have hi' := hi.next hn
  have hv' := hv.next hi hn
  rcases next_cases hn with hn | hn
  · cases hn with
    | @stopReturns neutralOk ho hs =>
      obtain ⟨hless, hstate, _⟩ := hi.stopped ho hs neutralOk
      have hended : Ended { s.locked inputTimeout (.stop neutralOk) with stopped := true } := by
        refine .of_threadless hi' ⟨hless.worker, hless.accepting, hless.callbacks,
          hless.watchdog⟩ ?_ ?_
        · show (s.session.stopLocked neutralOk).state.terminal = true
          rw [hstate]
          rfl
        · show s.owner.startReturned = true
          rw [ho]
          rfl
      refine .inr ⟨hended, hv' (.inr hstate) ?_, fun hne => absurd hstate hne⟩
      show s.owner.stopping = false
      rw [ho]
      rfl
    | destroy ho =>
      have hshape := hi.shape
      simp only [Shape, ho] at hshape
      obtain ⟨hless, hb, hterminal⟩ := hshape
      refine .inr ⟨.of_threadless hi' ⟨hless.worker, hless.accepting, hless.callbacks,
        hless.watchdog⟩ hterminal rfl, rfl, fun _ => ?_⟩
      exact hb.exits (Session.not_running_of_terminal hterminal)
    | _ => exact .inl ht
  · exact .inl ((aside_next hi.exits hn).stopped.symm.trans ht)

/-! ### Runs -/

/-- What holds in every reachable state. -/
structure Lives (s : SessionHandle) : Prop where
  inv : Inv s
  untargeted : Untargeted s
  disconnected : s.disconnected = true → Ended s
  stopped : s.stopped = true → Over s

theorem Lives.next (h : Lives s) (hn : s.next inputTimeout a = some t) : Lives t where
  inv := h.inv.next hn
  untargeted := h.untargeted.next h.inv hn
  disconnected ht := by
    rcases disconnected_next h.inv hn ht with hs | hended
    · exact ((h.disconnected hs).next h.inv hn).2
    · exact hended
  stopped ht := by
    rcases stopped_next h.inv h.untargeted hn ht with hs | hover
    · exact ((h.stopped hs).next h.inv hn).2
    · exact hover

theorem lives_of_run {now : Nat} {l : List Label} (h : (system inputTimeout now).Run l s) :
    Lives s := by
  refine h.invariant (P := fun _ s => Lives s) ⟨inv_init inputTimeout now, fun _ _ => rfl, ?_, ?_⟩
    fun _ _ _ _ _ hi hn => hi.next hn
  · exact fun hd => by cases hd
  · exact fun hd => by cases hd

/-- From a state that has ended on. -/
theorem Ended.path {now : Nat} {k : List Label} (h : Ended s) (hi : Inv s)
    (hp : (system inputTimeout now).Path s k t) : Inv t ∧ Ended t := by
  induction hp with
  | refl => exact ⟨hi, h⟩
  | snoc _ hn ih => exact ⟨ih.1.next hn, (ih.2.next ih.1 hn).2⟩

theorem Over.path {now : Nat} {k : List Label} (h : Over s) (hi : Inv s)
    (hp : (system inputTimeout now).Path s k t) : Inv t ∧ t.session = s.session ∧ Over t := by
  induction hp with
  | refl => exact ⟨hi, rfl, h⟩
  | snoc _ hn ih =>
    obtain ⟨hsame, hover⟩ := ih.2.2.next ih.1 hn
    exact ⟨ih.1.next hn, hsame.trans ih.2.1, hover⟩

end SessionHandle

/-- **How a session ends**, in every order of the owner's calls, of the calls of `SubmitState`
and of the steps of the worker and the watchdog: after a `SimulateDisconnect()` that returned
`kOk`, and after a `Stop()`, there is no thread left and no callback to come, the output is
released and stays so; after a `Stop()` the target is destroyed and the session never changes
again.  While the worker exists, the callbacks are set. -/
theorem session_ends {inputTimeout now : Nat} {l : List SessionHandle.Label} {s : SessionHandle}
    (h : (SessionHandle.system inputTimeout now).Run l s) :
    (s.disconnected = true ∨ s.stopped = true →
      ∀ k t, (SessionHandle.system inputTimeout now).Path s k t → t.Ended) ∧
    (s.stopped = true → ∀ k t, (SessionHandle.system inputTimeout now).Path s k t →
      t.session = s.session ∧ t.session.virtual.created = false) ∧
    (s.session.state ≠ .running → s.session.outputState = {}) ∧
    (s.transport.worker ≠ .none → s.callbacks = true) := by
  have hlives := SessionHandle.lives_of_run h
  refine ⟨fun hret k t hp => ?_, fun hstop k t hp => ?_, hlives.inv.released, hlives.inv.called⟩
  · have hended : s.Ended := by
      rcases hret with hd | hs
      · exact hlives.disconnected hd
      · exact (hlives.stopped hs).toEnded
    exact (hended.path hlives.inv hp).2
  · obtain ⟨_, hsame, hover⟩ := (hlives.stopped hstop).path hlives.inv hp
    exact ⟨hsame, hover.destroyed⟩

/-- A frame is applied, another is in flight when `Stop()` comes, and the watchdog wakes up
to exit. -/
def SessionHandle.stopInFlight : List SessionHandle.Label :=
  [.start true, .startServer, .createWatchdog, .submitState { sequence := 1 } .ok,
    .sendState { sequence := 1 } true, .workerTake, .onStateFrame { sequence := 1 } true true,
    .watchdog .enter, .submitState { sequence := 2 } .ok, .stop true, .ownerNotifies, .shutdown,
    .workerTake, .joinWorker, .clearCallbacks, .watchdog .resume, .joinWatchdog, .destroy]

theorem session_ends_inFlight :
    ∃ s, (SessionHandle.system 100 0).Run SessionHandle.stopInFlight s ∧ s.stopped = true ∧
      s.session.acceptedStateCount = 1 ∧ s.inFlight = [{ sequence := 2 }] ∧
      ∀ k t, (SessionHandle.system 100 0).Path s k t → t.session = s.session ∧ t.Ended := by
  have hrun : (SessionHandle.system 100 0).Run SessionHandle.stopInFlight _ :=
    System.run_of_exec rfl
  obtain ⟨hended, hsame, _⟩ := session_ends hrun
  exact ⟨_, hrun, rfl, rfl, rfl, fun k t hp => ⟨(hsame rfl k t hp).1, hended (.inr rfl) k t hp⟩⟩

end RemoteController
