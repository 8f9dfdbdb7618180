import RemoteController.LanServer.Release
import RemoteController.LanServer.Starting
import RemoteController.Udp.Handshake
import RemoteController.Udp.Input

/-!
# The threads of a LAN server

`LanControllerServer` over the server side of `UdpLanTransportBackend`, from the constructor
on.  One owner calls `Start()` and `Stop()` one after the other; the worker runs
`StartWorker`, with `StartServer` in it, which creates the thread of the control loop and
that of the input loop.  One step is one locked section, one access to an atomic that the
threads share, or one start or join of a thread.

The sockets are left out here, but for what a loop learns from them: what `recvfrom`
answers, and why the control loop gives up.

The worker assigns `control_thread_` and `input_thread_` in `StartServer` while `Stop()`
may be reading them, with no lock.  Reading and assigning such a member is taken as one
atomic step each.

* `Reason`: why a loop gives the connection up, and what is shown then.
* `ServerLife.next`: the steps.
-/

namespace RemoteController

open Lib Protocol

/-! ### Giving a connection up -/

/-- Why `ServerControlLoop` and `ServerInputLoop` call `SignalDisconnected`.  `code` is what
`WSAGetLastError` says. -/
inductive Reason where
  | rumbleUnsent (code : UInt32)
  | heartbeatTimedOut
  | controlClosed (code : UInt32)
  | clientStopped
  | invalidFrame
  | inputFailed (code : UInt32)
  deriving DecidableEq, Repr

namespace Reason

def error : Reason → UInt32
  | rumbleUnsent code | controlClosed code | inputFailed code => code
  | heartbeatTimedOut => WSAETIMEDOUT
  | clientStopped => 0
  | invalidFrame => WSAEPROTONOSUPPORT

def message : Reason → String
  | rumbleUnsent _ => "The rumble control message could not be sent."
  | heartbeatTimedOut => "The client heartbeat timed out."
  | controlClosed _ => "The TCP control channel was closed."
  | clientStopped => "The client stopped the trusted-LAN session."
  | invalidFrame => "An invalid plaintext control frame was received."
  | inputFailed _ => "The UDP input receiver failed."

/-- A reason of the control loop. -/
def isControl : Reason → Bool
  | inputFailed _ => false
  | _ => true

end Reason

namespace ServerInput

/-- The section of `SignalDisconnected`. -/
def disconnect (s : ServerInput) (why : Reason) : ServerInput :=
  { s with connected := false, lastError := why.error, error := why.message }

/-- `SetError`. -/
def setError (s : ServerInput) (error : UInt32) (message : String) : ServerInput :=
  { s with connected := false, lastError := error, error := message }

/-- With nobody in between, the exchange, the section and the test are
`signalDisconnected`. -/
theorem signalDisconnected_sections (s : ServerInput) (why : Reason) :
    s.signalDisconnected why.error why.message =
      if s.disconnectedSignaled then (s, [])
      else ({ s with disconnectedSignaled := true }.disconnect why,
        if s.stopRequested then [] else [.disconnected]) := rfl

end ServerInput

/-! ### The state -/

/-- The two threads that `StartServer` creates. -/
inductive ServerLoop where
  | control
  | input
  deriving DecidableEq, Repr

namespace ServerLife

/-- Where the owner is: `idle` between two calls, else in front of the step that is named. -/
inductive Owner where
  | idle
  | create
  | startFailed
  | startRunning
  | createWorker
  | notify
  | stopTransport
  | sendStop
  | closeSockets
  | joinLoop (c : ServerLoop)
  | joinWorker
  | destroy
  deriving DecidableEq, Repr

/-- Where the worker is: in `StartServer` up to `create`, and `watch` when it has returned. -/
inductive Worker where
  | none
  | start
  | setCallbacks
  | sockets
  | connect
  | testStop
  | close
  | create (c : ServerLoop)
  | fail
  | watch
  deriving DecidableEq, Repr

/-- Where a loop is: at the `while`, past its test, in the state callback, or in
`SignalDisconnected`, which begins with `exchange`. -/
inductive Loop where
  | none
  | top
  | round
  | state (frame : StateFrame)
  | exchange (why : Reason)
  | disconnect (why : Reason)
  | testStop
  | callback
  | notify
  | left
  deriving DecidableEq, Repr

end ServerLife

/-- `signaled`: the loop that won the exchange, and its reason.  `told`: how often the
session was told. -/
structure ServerLife where
  core : Monitor.State LanControllerServer
  transport : ServerInput
  owner : ServerLife.Owner := .idle
  worker : ServerLife.Worker := .none
  loop : ServerLoop → ServerLife.Loop := fun _ => .none
  signaled : Option (ServerLoop × Reason) := none
  told : Nat := 0
  /-- `Stop()` has returned. -/
  stopped : Bool := false

namespace ServerLife

open LanControllerServer (Section monitor)

abbrev session (s : ServerLife) : LanControllerServer := s.core.core

inductive OwnerLabel where
  | startChecks
  | create (ok : Bool)
  | startFailed
  | startRunning
  | createWorker
  | stop (neutralOk : Bool)
  | notify
  | stopTransport
  | sendStop
  | closeSockets
  | joinLoop (c : ServerLoop)
  | joinWorker
  | destroy
  deriving DecidableEq, Repr

inductive WorkerLabel where
  | startServer
  | setCallbacks
  | setError (error : UInt32) (message : String)
  | sockets (ok : Bool)
  | connect (peer sessionId : UInt32)
  | testStop
  | close
  | createThread
  | transportStartFailed (neutralOk : Bool)
  | watchdog (a : Monitor.Label Section Bool)
  deriving DecidableEq, Repr

inductive LoopLabel where
  | test
  | exchange
  | disconnect
  | testStop
  | callback (neutralOk : Bool)
  | notify
  deriving DecidableEq, Repr

inductive Label where
  | owner (a : OwnerLabel)
  | worker (a : WorkerLabel)
  | loop (c : ServerLoop) (a : LoopLabel)
  | controlRound (why : Option Reason)
  | inputRound (r : RecvResult)
  | onState (submitOk neutralOk : Bool)
  | onRumble (command : RumbleCommand)
  | tick (d : Nat)
  deriving DecidableEq, Repr

/-- A locked section of the session. -/
def locked (inputTimeout : Nat) (s : ServerLife) (a : Section) : ServerLife :=
  { s with core := (monitor inputTimeout).afterLocked s.core a }

def setSession (s : ServerLife) (session : LanControllerServer) : ServerLife :=
  { s with core := { s.core with core := session } }

def setLoop (s : ServerLife) (c : ServerLoop) (loop : Loop) : ServerLife :=
  { s with loop := fun d => if d = c then loop else s.loop d }

def notified (s : ServerLife) : ServerLife :=
  { s with core := { s.core with
    thread := s.core.thread.wake, unnotified := s.core.unnotified - 1 } }

/-- The steps that the worker makes itself. -/
def ownWatchdog : Monitor.Label Section Bool → Bool
  | .enter | .spurious | .expire | .resume | .check _ => true
  | .tick _ | .locked _ | .notifyAll | .abandon _ => false

/-! ### The steps -/

def ownerNext (inputTimeout : Nat) (s : ServerLife) : OwnerLabel → Option ServerLife
  -- `Start()`
  | .startChecks =>
    if s.owner = .idle then
      some { s with owner := if s.session.mayStart then .create else .idle }
    else none
  | .create ok =>
    if s.owner = .create then
      let (virtual, created) := s.session.virtual.create ok
      some { s.setSession { s.session with virtual := virtual } with
        owner := if created then .startRunning else .startFailed }
    else none
  | .startFailed =>
    if s.owner = .startFailed then
      some { s.setSession s.session.startFailed with owner := .idle }
    else none
  | .startRunning =>
    if s.owner = .startRunning then
      some { s.setSession s.session.startRunning with owner := .createWorker }
    else none
  | .createWorker =>
    if s.owner = .createWorker then some { s with worker := .start, owner := .idle } else none
  -- `Stop()`
  | .stop neutralOk =>
    if s.owner = .idle then
      if s.session.state = .stopped then some { s with stopped := true }
      else some { s.locked inputTimeout (.stop neutralOk) with owner := .notify }
    else none
  | .notify => if s.owner = .notify then some { s.notified with owner := .stopTransport } else none
  -- `UdpLanTransportBackend::Stop()`
  | .stopTransport =>
    if s.owner = .stopTransport then
      some { s with
        transport := { s.transport with stopRequested := true }
        owner := if s.transport.stopRequested then .closeSockets else .sendStop }
    else none
  | .sendStop => if s.owner = .sendStop then some { s with owner := .closeSockets } else none
  | .closeSockets =>
    if s.owner = .closeSockets then
      some { s with
        transport := { s.transport with connected := false }, owner := .joinLoop .control }
    else none
  | .joinLoop c =>
    if s.owner = .joinLoop c ∧ (s.loop c = .none ∨ s.loop c = .left) then
      some { s with owner := match c with | .control => .joinLoop .input | .input => .joinWorker }
    else none
  | .joinWorker =>
    if s.owner = .joinWorker ∧
        (s.worker = .none ∨ s.worker = .watch ∧ s.core.thread = .finished) then
      some { s with worker := .none, owner := .destroy }
    else none
  | .destroy =>
    if s.owner = .destroy then
      some { s.setSession { s.session with virtual := s.session.virtual.destroy } with
        owner := .idle, stopped := true }
    else none

/-- `StartWorker`.  `sockets` is the end of `StartServerSockets` up to its last test of
`stop_requested_`, `connect` the section behind it. -/
def workerNext (inputTimeout : Nat) (s : ServerLife) : WorkerLabel → Option ServerLife
  | .startServer =>
    if s.worker = .start then
      some { s with worker := if s.transport.stopRequested then .fail else .setCallbacks }
    else none
  | .setCallbacks =>
    if s.worker = .setCallbacks then
      some { s with transport := { s.transport with stateCallback := true }, worker := .sockets }
    else none
  | .setError error message =>
    if s.worker = .sockets then some { s with transport := s.transport.setError error message }
    else none
  | .sockets ok =>
    if s.worker = .sockets then
      some { s with worker := if ok && !s.transport.stopRequested then .connect else .fail }
    else none
  | .connect peer sessionId =>
    if s.worker = .connect then
      some { s with
        transport := { s.transport with
          expectedPeer := peer
          sessionId := sessionId
          connected := true
          lastError := 0
          error := "" }
        worker := .testStop }
    else none
  | .testStop =>
    if s.worker = .testStop then
      some { s with worker := if s.transport.stopRequested then .close else .create .control }
    else none
  -- `Stop()` of the transport, called by the worker: there is no thread yet
  | .close =>
    if s.worker = .close then
      some { s with transport := { s.transport with connected := false }, worker := .fail }
    else none
  | .createThread =>
    match s.worker with
    | .create .control => some { s.setLoop .control .top with worker := .create .input }
    | .create .input => some { s.setLoop .input .top with worker := .watch }
    | _ => none
  | .transportStartFailed neutralOk =>
    if s.worker = .fail then
      ((monitor inputTimeout).next s.core (.abandon (.transportStartFailed neutralOk))).map
        fun core => { s with core := core, worker := .watch }
    else none
  | .watchdog a =>
    if s.worker = .watch ∧ ownWatchdog a = true then
      ((monitor inputTimeout).next s.core a).map fun core => { s with core := core }
    else none

/-- What the two loops have in common: the test of the `while`, and
`SignalDisconnected`. -/
def loopNext (inputTimeout : Nat) (s : ServerLife) (c : ServerLoop) :
    LoopLabel → Option ServerLife
  | .test =>
    if s.loop c = .top then
      some (s.setLoop c
        (if !s.transport.stopRequested && s.transport.connected then .round else .left))
    else none
  | .exchange =>
    match s.loop c with
    | .exchange why =>
      if s.transport.disconnectedSignaled then some (s.setLoop c .left)
      else
        some { s.setLoop c (.disconnect why) with
          transport := { s.transport with disconnectedSignaled := true }
          signaled := some (c, why) }
    | _ => none
  | .disconnect =>
    match s.loop c with
    | .disconnect why =>
      some { s.setLoop c .testStop with transport := s.transport.disconnect why }
    | _ => none
  | .testStop =>
    if s.loop c = .testStop then
      some (s.setLoop c (if s.transport.stopRequested then .left else .callback))
    else none
  | .callback neutralOk =>
    if s.loop c = .callback then
      some { (s.locked inputTimeout (.onTransportDisconnected neutralOk)).setLoop c
          (if s.session.state = .running then .notify else .left) with
        told := s.told + 1 }
    else none
  | .notify => if s.loop c = .notify then some (s.notified.setLoop c .left) else none

/-- One round of `ServerInputLoop`, on what `recvfrom` answered. -/
def inputRound (s : ServerLife) (r : RecvResult) : ServerLife :=
  match r with
  | .error code =>
    if code == WSAETIMEDOUT || code == WSAEWOULDBLOCK then s.setLoop .input .top
    else if s.transport.stopRequested then s.setLoop .input .left
    else s.setLoop .input (.exchange (.inputFailed code))
  | .received _ _ =>
    { s with transport := (s.transport.iteration r).1 }.setLoop .input
      (match (s.transport.iteration r).2.head? with
      | some (.state frame) => .state frame
      | _ => .top)

def next (inputTimeout : Nat) (s : ServerLife) : Label → Option ServerLife
  | .owner a => s.ownerNext inputTimeout a
  | .worker a => s.workerNext inputTimeout a
  | .loop c a => s.loopNext inputTimeout c a
  | .controlRound why =>
    if s.loop .control = .round ∧ why.all Reason.isControl then
      some (s.setLoop .control (match why with | some why => .exchange why | none => .top))
    else none
  | .inputRound r => if s.loop .input = .round then some (s.inputRound r) else none
  | .onState submitOk neutralOk =>
    match s.loop .input with
    | .state frame =>
      some ((s.locked inputTimeout (.onState frame submitOk neutralOk)).setLoop .input .top)
    | _ => none
  | .onRumble command =>
    if s.session.virtual.created then some (s.locked inputTimeout (.onRumble command)) else none
  | .tick d => some { s with core := { s.core with now := s.core.now + d } }

/-- The server when it has been constructed. -/
def system (inputTimeout now : Nat) : System ServerLife Label where
  init :=
    { core := ⟨{}, now, .outside, 0⟩
      transport :=
        { expectedPeer := 0, sessionId := 0, stateCallback := false, connected := false } }
  next := next inputTimeout

end ServerLife

end RemoteController
