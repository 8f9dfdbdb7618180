import RemoteController.LanClient.State
import RemoteController.Lib.Transition
import RemoteController.Udp.SendState

/-!
# The threads of a client

`LanControllerClient` over its transport and its device, from the moment
`Start()` returned `kOk`: the worker of `StartWorker`, the poll thread of the
device, the control thread of the transport, and the caller of `Stop()`.

One step is one locked section, one access to the transport, or one call of the
device.  `input_lifecycle_mutex_` is held by the worker in its phase `checked`,
and by the closing steps, which are one step each: `Close()` of the device waits
until the poll thread is out of its callback and never calls back again.

Both the worker, once the device has failed to open, and `Stop()` call the
transport's `Stop()`, which tests `control_thread_` and joins it under no lock.
Reading and assigning it is taken as atomic.  To join a thread that another thread
is joining, or has joined since the test, is undefined; on Windows it ends the
process, and `crashed` stands for it.

* `ClientSide.step`: what the threads can do.
* `ClientSide.Moves`: the same, as the cases the invariants are proved by.
* `moves_of_step`: every step is one of them.
-/

namespace RemoteController

open Lib Protocol

/-- `control_thread_`: not joinable, in its loop, or past it and not joined. -/
inductive ControlThread where
  | none
  | running
  | ended
  deriving DecidableEq, Repr

/-- The end of the transport's `Stop()`: before its test of `control_thread_`, past
it, or in `join()`. -/
inductive Join where
  | testing
  | found
  | joining
  deriving DecidableEq, Repr

/-- Where `StartWorker` is. -/
inductive Worker where
  | connecting
  | socketed
  | published
  | handshaken
  | admitted
  | started
  | startFailed
  | checked
  | opened
  | openFailed
  | stopping
  | closingSockets
  | joiningControl (join : Join)
  | closing
  | ended
  deriving DecidableEq, Repr

/-- In `StartClient`, or just out of it. -/
def Worker.starting : Worker → Bool
  | .connecting | .socketed | .published | .handshaken | .admitted | .startFailed => true
  | _ => false

/-- The worker has failed to open the device, or has seen the session over. -/
def Worker.leaving : Worker → Bool
  | .stopping | .closingSockets | .joiningControl _ | .closing | .ended => true
  | _ => false

/-- The session id is set. -/
def Worker.hasSession : Worker → Bool
  | .handshaken | .admitted | .started | .checked | .opened | .openFailed => true
  | _ => false

/-- The control thread has been created, unless the worker ended before that. -/
def Worker.hasControl : Worker → Bool
  | .started | .checked | .opened | .openFailed => true
  | worker => worker.leaving

def Worker.join : Worker → Option Join
  | .joiningControl join => some join
  | _ => none

/-- Where a call of `SendState` is: before it, past its test, or after it. -/
inductive Call where
  | idle
  | numbered (frame : StateFrame)
  | admitted (frame : StateFrame)
  | returned (frame : StateFrame) (ok : Bool)
  deriving DecidableEq, Repr

/-- The frame that has its number and is not passed to `SendState` yet. -/
def Call.unpassed : Call → List StateFrame
  | .numbered frame => [frame]
  | _ => []

/-- Where `Stop()` is.  `neutral` is `send_neutral`. -/
inductive ClientStop where
  | idle
  | closing (neutral : Bool)
  | closed (neutral : Bool)
  | numbering
  | sending (call : Call)
  | stopping
  | closingSockets
  | joiningControl (join : Join)
  | joining
  | finished
  deriving DecidableEq, Repr

/-- `CloseInput()` of `Stop()` has returned. -/
def ClientStop.joined : ClientStop → Bool
  | .idle | .closing _ => false
  | _ => true

/-- The call of `SendState` is behind `Stop()`, or there is none. -/
def ClientStop.spent : ClientStop → Bool
  | .sending (.admitted _) | .sending (.returned _ _) => true
  | .stopping | .closingSockets | .joiningControl _ | .joining | .finished => true
  | _ => false

def ClientStop.call : ClientStop → Call
  | .sending call => call
  | _ => .idle

def ClientStop.join : ClientStop → Option Join
  | .joiningControl join => some join
  | _ => none

theorem ClientStop.joined_of_spent {stop : ClientStop} (h : stop.spent = true) :
    stop.joined = true := by
  cases stop with
  | idle | closing => cases h
  | closed | numbering | sending | stopping | closingSockets | joiningControl | joining
    | finished => rfl

/-- The two callers of `SendState`. -/
inductive Caller where
  | poll
  | stop
  deriving DecidableEq, Repr

/-- The two callers of the transport's `Stop()`. -/
inductive Stopper where
  | worker
  | stop
  deriving DecidableEq, Repr

def Stopper.other : Stopper → Stopper
  | .worker => .stop
  | .stop => .worker

/-- `isOpen`: the device is open, and its poll thread runs.  `passed` are the
frames `SendState` was called with, `sent` the datagrams that went out. -/
structure ClientSide where
  core : LanControllerClient
  transport : ClientOutput := {}
  control : ControlThread := .none
  worker : Worker := .connecting
  isOpen : Bool := false
  poll : Call := .idle
  stop : ClientStop := .idle
  crashed : Bool := false
  passed : List StateFrame := []
  sent : List (List UInt8) := []
  deriving Repr

inductive ClientLabel where
  | inputSocket
  | publish
  | setSessionId
  | startClientTests
  | startClientReturns
  | startClientFails
  | startFailed
  | takeLifecycle
  | openDevice (ok : Bool)
  | openFailed
  | workerStops
  | workerClosesSockets
  | workerWakes
  | workerCloses
  | onInputState (state : GamepadStateV1) (timestampUs : UInt64)
  | sendState (caller : Caller)
  | sendto (caller : Caller) (answer : SendResult)
  | pollReturns
  | onInputDisconnected
  | onRumble (command : RumbleCommand)
  | signalDisconnected (error : UInt32) (message : String)
  | onTransportDisconnected
  | controlEnds
  | testsControl (stopper : Stopper)
  | joinsControl (stopper : Stopper)
  | joinedControl (stopper : Stopper)
  | stop
  | stopCloses
  | stopChecks
  | stopNumbers (timestampUs : UInt64)
  | stopReturns
  | stopStops
  | stopClosesSockets
  | stopJoins
  deriving DecidableEq, Repr

namespace ClientSide

def call (s : ClientSide) : Caller → Call
  | .poll => s.poll
  | .stop => s.stop.call

def setCall (s : ClientSide) : Caller → Call → ClientSide
  | .poll, c => { s with poll := c }
  | .stop, c => { s with stop := .sending c }

/-- Where a caller of the transport's `Stop()` is with `control_thread_`. -/
def join (s : ClientSide) : Stopper → Option Join
  | .worker => s.worker.join
  | .stop => s.stop.join

def setJoin (s : ClientSide) : Stopper → Join → ClientSide
  | .worker, j => { s with worker := .joiningControl j }
  | .stop, j => { s with stop := .joiningControl j }

/-- The transport's `Stop()` returns. -/
def endJoin (s : ClientSide) : Stopper → ClientSide
  | .worker => { s with worker := .ended }
  | .stop => { s with stop := .joining }

/-- The steps of a process that goes on.  `negotiated` is the session id of the
HELLO. -/
def act (negotiated : UInt32) (s : ClientSide) : ClientLabel → Option ClientSide
  -- `StartClientSockets` and `StartClient`
  | .inputSocket =>
    if s.worker = .connecting then
      some { s with worker := .socketed, transport := { s.transport with inputOpen := true } }
    else none
  | .publish =>
    if s.worker = .socketed then
      some { s with worker := .published, transport := { s.transport with connected := true } }
    else none
  | .setSessionId =>
    if s.worker = .published then
      some { s with
        worker := .handshaken, transport := { s.transport with sessionId := negotiated } }
    else none
  | .startClientTests =>
    if s.worker = .handshaken then
      if s.transport.stopRequested then
        some { s with worker := .startFailed, transport := s.transport.closeSockets }
      else some { s with worker := .admitted }
    else none
  | .startClientReturns =>
    if s.worker = .admitted then some { s with worker := .started, control := .running } else none
  | .startClientFails =>
    if s.worker = .connecting ∨ s.worker = .socketed then
      some { s with
        worker := .startFailed, transport := { s.transport with inputOpen := false } }
    else none
  -- the rest of `StartWorker`
  | .startFailed =>
    if s.worker = .startFailed then some { s with worker := .ended, core := s.core.startFailed }
    else none
  | .takeLifecycle =>
    if s.worker = .started then
      some { s with worker := if s.core.mayOpen then .checked else .ended }
    else none
  | .openDevice ok =>
    if s.worker = .checked then
      if ok then some { s with worker := .opened, isOpen := true }
      else some { s with worker := .openFailed }
    else none
  | .openFailed =>
    if s.worker = .openFailed then some { s with worker := .stopping, core := s.core.startFailed }
    else none
  | .workerStops =>
    if s.worker = .stopping then
      some { s with
        worker := .closingSockets, transport := { s.transport with stopRequested := true } }
    else none
  | .workerClosesSockets =>
    if s.worker = .closingSockets then
      some { s with worker := .joiningControl .testing, transport := s.transport.closeSockets }
    else none
  | .workerWakes =>
    if s.worker = .opened ∧ s.core.mustClose = true then some { s with worker := .closing }
    else none
  | .workerCloses =>
    if s.worker = .closing ∧ s.poll = .idle then
      some { s with worker := .ended, isOpen := false }
    else none
  -- the poll thread, and `SendState` for both of its callers
  | .onInputState state timestampUs =>
    if s.isOpen = true ∧ s.poll = .idle then
      match s.core.onInputState with
      | none => some s
      | some (core, sequence) =>
        some { s with core := core, poll := .numbered ⟨state, sequence, timestampUs⟩ }
    else none
  | .sendState caller =>
    match s.call caller with
    | .numbered frame =>
      let next := if s.transport.connected then .admitted frame else .returned frame false
      some { s.setCall caller next with passed := s.passed ++ [frame] }
    | _ => none
  | .sendto caller answer =>
    match s.call caller with
    | .admitted frame =>
      let (transport, ok, bytes) := s.transport.transmit frame answer
      some { s.setCall caller (.returned frame ok) with
        transport := transport, sent := s.sent ++ bytes }
    | _ => none
  | .pollReturns =>
    match s.poll with
    | .returned frame ok =>
      some { s with
        poll := .idle
        core := if ok then s.core.onStateSent frame else s.core.onTransportDisconnected }
    | _ => none
  | .onInputDisconnected =>
    if s.isOpen = true ∧ s.poll = .idle then some { s with core := s.core.onInputDisconnected }
    else none
  -- the control thread; its loop ends with the connection, or in a `break`
  | .onRumble command => some { s with core := (s.core.onRumble command).1 }
  | .signalDisconnected error message =>
    some { s with transport := s.transport.signalDisconnected error message }
  | .onTransportDisconnected =>
    if s.transport.disconnectedSignaled then
      some { s with core := s.core.onTransportDisconnected }
    else none
  | .controlEnds => if s.control = .running then some { s with control := .ended } else none
  -- `joinable()` and `join()`, for both callers of the transport's `Stop()`
  | .testsControl stopper =>
    if s.join stopper = some .testing then
      some (if s.control = .none then s.endJoin stopper else s.setJoin stopper .found)
    else none
  | .joinsControl stopper =>
    if s.join stopper = some .found then
      if s.control = .none ∨ s.join stopper.other = some .joining then
        some { s with crashed := true }
      else some (s.setJoin stopper .joining)
    else none
  | .joinedControl stopper =>
    if s.join stopper = some .joining ∧ s.control = .ended then
      some { s.endJoin stopper with control := .none }
    else none
  -- `Stop()`
  | .stop =>
    match s.core.stopLocked with
    | none => some s
    | some (core, neutral) => some { s with core := core, stop := .closing neutral }
  | .stopCloses =>
    match s.stop with
    | .closing neutral =>
      if s.poll = .idle ∧ s.worker ≠ .checked then
        some { s with isOpen := false, stop := .closed neutral }
      else none
    | _ => none
  | .stopChecks =>
    match s.stop with
    | .closed neutral =>
      some { s with stop := if neutral && s.transport.connected then .numbering else .stopping }
    | _ => none
  | .stopNumbers timestampUs =>
    if s.stop = .numbering then
      let (core, frame) := s.core.neutralLocked timestampUs
      some { s with core := core, stop := .sending (.numbered frame) }
    else none
  | .stopReturns =>
    match s.stop with
    | .sending (.returned _ _) => some { s with stop := .stopping }
    | _ => none
  | .stopStops =>
    if s.stop = .stopping then
      some { s with
        stop := .closingSockets, transport := { s.transport with stopRequested := true } }
    else none
  | .stopClosesSockets =>
    if s.stop = .closingSockets then
      some { s with stop := .joiningControl .testing, transport := s.transport.closeSockets }
    else none
  | .stopJoins =>
    if s.stop = .joining ∧ s.worker = .ended then some { s with stop := .finished } else none

def step (negotiated : UInt32) (s : ClientSide) (a : ClientLabel) : Option ClientSide :=
  if s.crashed then none else s.act negotiated a

/-- The client when `Start()` has returned `kOk`. -/
def started : ClientSide := { core := (LanControllerClient.start {}).1 }

def system (negotiated : UInt32) : System ClientSide ClientLabel where
  init := started
  next := step negotiated

/-! ### What one step can do -/

/-- **What a step can do**, with what it finds. -/
inductive Moves (negotiated : UInt32) (s : ClientSide) : ClientLabel → ClientSide → Prop
  -- the worker
  | connects {a : ClientLabel} {worker : Worker} {transport : ClientOutput} :
      s.worker.starting = true → worker.starting = true →
      (worker.hasSession = true → transport.sessionId = negotiated ∨
        s.worker.hasSession = true ∧ transport.sessionId = s.transport.sessionId) →
      Moves negotiated s a { s with worker := worker, transport := transport }
  | creates : s.worker = .admitted →
      Moves negotiated s .startClientReturns { s with worker := .started, control := .running }
  | fails {a : ClientLabel} {worker : Worker} : s.worker ≠ .ended →
      worker = .ended ∨ worker = .stopping →
      Moves negotiated s a { s with worker := worker, core := s.core.startFailed }
  | mayOpen : s.worker = .started → s.core.mayOpen = true →
      Moves negotiated s .takeLifecycle { s with worker := .checked }
  | mayNot : s.worker = .started → s.core.mayOpen = false →
      Moves negotiated s .takeLifecycle { s with worker := .ended }
  | opens : s.worker = .checked →
      Moves negotiated s (.openDevice true) { s with worker := .opened, isOpen := true }
  | opensNot : s.worker = .checked →
      Moves negotiated s (.openDevice false) { s with worker := .openFailed }
  | stops : s.worker = .stopping →
      Moves negotiated s .workerStops { s with
        worker := .closingSockets, transport := { s.transport with stopRequested := true } }
  | closesSockets : s.worker = .closingSockets →
      Moves negotiated s .workerClosesSockets { s with
        worker := .joiningControl .testing, transport := s.transport.closeSockets }
  | wakes : s.worker = .opened → s.core.mustClose = true →
      Moves negotiated s .workerWakes { s with worker := .closing }
  | closes : s.worker = .closing → s.poll = .idle →
      Moves negotiated s .workerCloses { s with worker := .ended, isOpen := false }
  -- the poll thread, and `SendState`
  | ignores {state : GamepadStateV1} {timestampUs : UInt64} :
      Moves negotiated s (.onInputState state timestampUs) s
  | reports {state : GamepadStateV1} {timestampUs : UInt64} {core : LanControllerClient}
      {sequence : UInt64} : s.isOpen = true → s.poll = .idle →
      s.core.onInputState = some (core, sequence) →
      Moves negotiated s (.onInputState state timestampUs)
        { s with core := core, poll := .numbered ⟨state, sequence, timestampUs⟩ }
  | passes {caller : Caller} {frame : StateFrame} : s.call caller = .numbered frame →
      Moves negotiated s (.sendState caller)
        { s.setCall caller
            (if s.transport.connected then .admitted frame else .returned frame false) with
          passed := s.passed ++ [frame] }
  | sends {caller : Caller} {frame : StateFrame} {answer : SendResult} :
      s.call caller = .admitted frame →
      Moves negotiated s (.sendto caller answer)
        { s.setCall caller (.returned frame (s.transport.transmit frame answer).2.1) with
          transport := (s.transport.transmit frame answer).1
          sent := s.sent ++ (s.transport.transmit frame answer).2.2 }
  | returns {frame : StateFrame} {ok : Bool} {core : LanControllerClient} :
      s.poll = .returned frame ok → s.core.KeepsNumber core →
      Moves negotiated s .pollReturns { s with poll := .idle, core := core }
  -- a section of a callback, and the control thread
  | locked {a : ClientLabel} {core : LanControllerClient} : s.core.KeepsNumber core →
      Moves negotiated s a { s with core := core }
  | signals {error : UInt32} {message : String} :
      Moves negotiated s (.signalDisconnected error message)
        { s with transport := s.transport.signalDisconnected error message }
  | controlEnds : s.control = .running →
      Moves negotiated s .controlEnds { s with control := .ended }
  -- the join of `control_thread_`
  | skips {stopper : Stopper} : s.join stopper = some .testing → s.control = .none →
      Moves negotiated s (.testsControl stopper) (s.endJoin stopper)
  | finds {stopper : Stopper} : s.join stopper = some .testing → s.control ≠ .none →
      Moves negotiated s (.testsControl stopper) (s.setJoin stopper .found)
  | crashes {stopper : Stopper} : s.join stopper = some .found →
      s.control = .none ∨ s.join stopper.other = some .joining →
      Moves negotiated s (.joinsControl stopper) { s with crashed := true }
  | joins {stopper : Stopper} : s.join stopper = some .found →
      ¬ (s.control = .none ∨ s.join stopper.other = some .joining) →
      Moves negotiated s (.joinsControl stopper) (s.setJoin stopper .joining)
  | joined {stopper : Stopper} : s.join stopper = some .joining → s.control = .ended →
      Moves negotiated s (.joinedControl stopper) { s.endJoin stopper with control := .none }
  -- `Stop()`
  | stopAgain : Moves negotiated s .stop s
  | stopBegins {core : LanControllerClient} {neutral : Bool} :
      s.core.stopLocked = some (core, neutral) →
      Moves negotiated s .stop { s with core := core, stop := .closing neutral }
  | stopCloses {neutral : Bool} : s.stop = .closing neutral → s.poll = .idle →
      s.worker ≠ .checked →
      Moves negotiated s .stopCloses { s with isOpen := false, stop := .closed neutral }
  | stopChecks {neutral : Bool} : s.stop = .closed neutral →
      Moves negotiated s .stopChecks { s with
        stop := if neutral && s.transport.connected then .numbering else .stopping }
  | stopNumbers {timestampUs : UInt64} : s.stop = .numbering →
      Moves negotiated s (.stopNumbers timestampUs) { s with
        core := (s.core.neutralLocked timestampUs).1
        stop := .sending (.numbered (s.core.neutralLocked timestampUs).2) }
  | stopReturns {frame : StateFrame} {ok : Bool} : s.stop = .sending (.returned frame ok) →
      Moves negotiated s .stopReturns { s with stop := .stopping }
  | stopStops : s.stop = .stopping →
      Moves negotiated s .stopStops { s with
        stop := .closingSockets, transport := { s.transport with stopRequested := true } }
  | stopClosesSockets : s.stop = .closingSockets →
      Moves negotiated s .stopClosesSockets { s with
        stop := .joiningControl .testing, transport := s.transport.closeSockets }
  | stopJoins : s.stop = .joining → s.worker = .ended →
      Moves negotiated s .stopJoins { s with stop := .finished }

end ClientSide

/-- A step of the worker, outside its join. -/
def ClientLabel.ofWorker : ClientLabel → Bool
  | .inputSocket | .publish | .setSessionId | .startClientTests | .startClientReturns
  | .startClientFails | .startFailed | .takeLifecycle | .openDevice _ | .openFailed | .workerStops
  | .workerClosesSockets | .workerWakes | .workerCloses => true
  | _ => false

/-- A step of `Stop()`, outside its join and its call of `SendState`. -/
def ClientLabel.ofStop : ClientLabel → Bool
  | .stop | .stopCloses | .stopChecks | .stopNumbers _ | .stopReturns | .stopStops
  | .stopClosesSockets | .stopJoins => true
  | _ => false

namespace ClientSide

variable {negotiated : UInt32} {s t : ClientSide} {a : ClientLabel}

theorem act_of_step (h : s.step negotiated a = some t) : s.act negotiated a = some t := by
  rw [step] at h
  split at h
  · cases h
  · exact h

theorem moves_of_worker (ha : a.ofWorker = true) (h : s.act negotiated a = some t) :
    Moves negotiated s a t := by
  cases a with
  | inputSocket | publish =>
    simp only [act, Option.ite_none_right_eq_some, Option.some.injEq] at h
    obtain ⟨hw, rfl⟩ := h
    exact .connects (by rw [hw]; rfl) rfl nofun
  | setSessionId =>
    simp only [act, Option.ite_none_right_eq_some, Option.some.injEq] at h
    obtain ⟨hw, rfl⟩ := h
    exact .connects (by rw [hw]; rfl) rfl fun _ => .inl rfl
  | startClientTests =>
    simp only [act, Option.ite_none_right_eq_some] at h
    obtain ⟨hw, h⟩ := h
    have hstart : s.worker.starting = true := by rw [hw]; rfl
    split at h <;> obtain rfl := Option.some.inj h
    · exact .connects hstart rfl nofun
    · exact .connects hstart rfl fun _ => .inr ⟨by rw [hw]; rfl, rfl⟩
  | startClientReturns =>
    simp only [act, Option.ite_none_right_eq_some, Option.some.injEq] at h
    obtain ⟨hw, rfl⟩ := h
    exact .creates hw
  | startClientFails =>
    simp only [act, Option.ite_none_right_eq_some, Option.some.injEq] at h
    obtain ⟨hw, rfl⟩ := h
    refine .connects ?_ rfl nofun
    rcases hw with hw | hw <;> (rw [hw]; rfl)
  | startFailed | openFailed =>
    simp only [act, Option.ite_none_right_eq_some, Option.some.injEq] at h
    obtain ⟨hw, rfl⟩ := h
    exact .fails (by rw [hw]; nofun) (by simp)
  | takeLifecycle =>
    simp only [act, Option.ite_none_right_eq_some, Option.some.injEq] at h
    obtain ⟨hw, rfl⟩ := h
    split
    · rename_i hm
      exact .mayOpen hw hm
    · rename_i hm
      exact .mayNot hw (by simpa using hm)
  | openDevice ok =>
    simp only [act, Option.ite_none_right_eq_some] at h
    obtain ⟨hw, h⟩ := h
    cases ok
    · obtain rfl := Option.some.inj h
      exact .opensNot hw
    · obtain rfl := Option.some.inj h
      exact .opens hw
  | workerStops =>
    simp only [act, Option.ite_none_right_eq_some, Option.some.injEq] at h
    obtain ⟨hw, rfl⟩ := h
    exact .stops hw
  | workerClosesSockets =>
    simp only [act, Option.ite_none_right_eq_some, Option.some.injEq] at h
    obtain ⟨hw, rfl⟩ := h
    exact .closesSockets hw
  | workerWakes =>
    simp only [act, Option.ite_none_right_eq_some, Option.some.injEq] at h
    obtain ⟨⟨hw, hm⟩, rfl⟩ := h
    exact .wakes hw hm
  | workerCloses =>
    simp only [act, Option.ite_none_right_eq_some, Option.some.injEq] at h
    obtain ⟨⟨hw, hp⟩, rfl⟩ := h
    exact .closes hw hp
  | _ => cases ha

theorem moves_of_stop (ha : a.ofStop = true) (h : s.act negotiated a = some t) :
    Moves negotiated s a t := by
  cases a with
  | stop =>
    simp only [act] at h
    split at h <;> obtain rfl := Option.some.inj h
    · exact .stopAgain
    · exact .stopBegins ‹_›
  | stopCloses =>
    cases hs : s.stop <;> simp only [act, hs, reduceCtorEq] at h
    simp only [Option.ite_none_right_eq_some, Option.some.injEq] at h
    obtain ⟨⟨hp, hw⟩, rfl⟩ := h
    exact .stopCloses hs hp hw
  | stopChecks =>
    cases hs : s.stop <;> simp only [act, hs, reduceCtorEq, Option.some.injEq] at h
    subst h
    exact .stopChecks hs
  | stopNumbers timestampUs =>
    simp only [act, Option.ite_none_right_eq_some, Option.some.injEq] at h
    obtain ⟨hs, rfl⟩ := h
    exact .stopNumbers hs
  | stopReturns =>
    simp only [act] at h
    split at h
    · obtain rfl := Option.some.inj h
      exact .stopReturns ‹_›
    · cases h
  | stopStops =>
    simp only [act, Option.ite_none_right_eq_some, Option.some.injEq] at h
    obtain ⟨hs, rfl⟩ := h
    exact .stopStops hs
  | stopClosesSockets =>
    simp only [act, Option.ite_none_right_eq_some, Option.some.injEq] at h
    obtain ⟨hs, rfl⟩ := h
    exact .stopClosesSockets hs
  | stopJoins =>
    simp only [act, Option.ite_none_right_eq_some, Option.some.injEq] at h
    obtain ⟨⟨hs, hw⟩, rfl⟩ := h
    exact .stopJoins hs hw
  | _ => cases ha

/-- **A step is one of the moves.** -/
theorem moves_of_step (h : s.step negotiated a = some t) : Moves negotiated s a t := by
  replace h := act_of_step h
  by_cases hw : a.ofWorker = true
  · exact moves_of_worker hw h
  by_cases hs : a.ofStop = true
  · exact moves_of_stop hs h
  cases a with
  | onInputState state timestampUs =>
    simp only [act, Option.ite_none_right_eq_some] at h
    obtain ⟨⟨hopen, hp⟩, h⟩ := h
    split at h <;> obtain rfl := Option.some.inj h
    · exact .ignores
    · exact .reports hopen hp ‹_›
  | sendState caller =>
    simp only [act] at h
    split at h
    · obtain rfl := Option.some.inj h
      exact .passes ‹_›
    · cases h
  | sendto caller answer =>
    simp only [act] at h
    split at h
    · obtain rfl := Option.some.inj h
      exact .sends ‹_›
    · cases h
  | pollReturns =>
    simp only [act] at h
    split at h
    · rename_i frame ok hp
      obtain rfl := Option.some.inj h
      cases ok
      · exact .returns hp s.core.disconnect_keeps
      · exact .returns hp (s.core.onStateSent_keeps frame)
    · cases h
  | onInputDisconnected | onTransportDisconnected =>
    simp only [act, Option.ite_none_right_eq_some, Option.some.injEq] at h
    obtain ⟨_, rfl⟩ := h
    exact .locked s.core.disconnect_keeps
  | onRumble command =>
    obtain rfl := Option.some.inj h
    exact .locked (s.core.onRumble_keeps command)
  | signalDisconnected error message =>
    obtain rfl := Option.some.inj h
    exact .signals
  | controlEnds =>
    simp only [act, Option.ite_none_right_eq_some, Option.some.injEq] at h
    obtain ⟨hc, rfl⟩ := h
    exact .controlEnds hc
  | testsControl stopper =>
    simp only [act, Option.ite_none_right_eq_some, Option.some.injEq] at h
    obtain ⟨hj, rfl⟩ := h
    split
    · exact .skips hj ‹_›
    · exact .finds hj ‹_›
  | joinsControl stopper =>
    simp only [act, Option.ite_none_right_eq_some] at h
    obtain ⟨hj, h⟩ := h
    split at h <;> obtain rfl := Option.some.inj h
    · exact .crashes hj ‹_›
    · exact .joins hj ‹_›
  | joinedControl stopper =>
    simp only [act, Option.ite_none_right_eq_some, Option.some.injEq] at h
    obtain ⟨⟨hj, hc⟩, rfl⟩ := h
    exact .joined hj hc
  | inputSocket | publish | setSessionId | startClientTests | startClientReturns
    | startClientFails | startFailed | takeLifecycle | openDevice | openFailed | workerStops
    | workerClosesSockets | workerWakes | workerCloses => exact absurd rfl hw
  | stop | stopCloses | stopChecks | stopNumbers | stopReturns | stopStops | stopClosesSockets
    | stopJoins => exact absurd rfl hs

end ClientSide

end RemoteController
