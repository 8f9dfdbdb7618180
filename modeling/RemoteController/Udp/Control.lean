import RemoteController.Lib.FramedStream
import RemoteController.Lib.Transition
import RemoteController.Udp.Handshake
import RemoteController.Udp.Input

/-!
# The control channel

A client and a server of `UdpLanTransportBackend` over one TCP connection: on
each side the thread that starts the transport, the control loop, and callers of
`Stop()`.  The connection keeps the bytes and their order in any segmentation,
and a `send` fails only once the connection is closed at one end; a `recv` may
fail at any time.

One step is one access to shared state: a store or a load of `connected_`,
`session_id_` or `stop_requested_`, a locked section, one partial send or one
partial receive.

* `Side.step`: what the threads of one side can do.
* `Honest`: no control loop met an invalid frame, and every frame sent after the
  handshake carries the session id of the HELLO.
* `HastyStop`: a `Stop()` is about to read `session_id_` between the moment the
  start thread set `connected_` and the moment it sets `session_id_`.
* `honest_of_run`: runs without such a step are honest throughout.
* `hasty_stop_faults_peer`: a run with one is not.
-/

namespace RemoteController

open Lib Protocol

inductive Role where
  | client
  | server
  deriving DecidableEq, Repr

def Role.other : Role → Role
  | .client => .server
  | .server => .client

/-- Where the starting thread is, once there is a TCP connection.  `gotHello` is a
phase of the server, `awaitingAck` one of the client; the handshake has failed in
`failed`, and a `Stop()` was found in `abandoned`. -/
inductive Phase where
  | start
  | gotHello
  | sending
  | awaitingAck
  | acked
  | checked
  | connectedSet
  | sessionSet
  | looping
  | failed
  | abandoned
  deriving DecidableEq, Repr

/-- Where the first caller of `Stop()` is. -/
inductive StopPhase where
  | idle
  | exchanged
  | loading
  | loaded (sessionId : UInt32)
  | sending
  | finished
  deriving DecidableEq, Repr

/-- How a control loop ends. -/
inductive Leave where
  | ended
  | sendFailed
  | closed
  | timedOut
  | stopped
  | invalid
  deriving DecidableEq, Repr

/-- Where the control thread is: at the `while`, past its test, in `SendAll`, in or
before `ReceiveAll`, or out of the loop. -/
inductive LoopPhase where
  | none
  | top
  | body
  | sending
  | waiting
  | left (why : Leave)
  deriving DecidableEq, Repr

/-- What `WSAGetLastError` says after a `send` or a `recv`. -/
structure SocketError where
  code : UInt32
  ne : code ≠ WSAEPROTONOSUPPORT
  deriving DecidableEq, Repr

/-- The fields of one backend.  `isOpen`: `control_socket_` is not closed. -/
structure Side where
  phase : Phase := .start
  stop : StopPhase := .idle
  loop : LoopPhase := .none
  isOpen : Bool := true
  stopRequested : Bool := false
  connected : Bool := false
  disconnectedSignaled : Bool := false
  /-- The session id the starting thread has in a local variable. -/
  negotiated : UInt32 := 0
  sessionId : UInt32 := 0
  lastError : UInt32 := 0
  deriving DecidableEq, Repr

def controlCodec : FrameCodec UInt8 PlaintextControlFrameV1 where
  size := 32
  encode := PlaintextControlFrameV1.toBytes
  decode := PlaintextControlFrameV1.ofBytes
  size_pos := by decide
  length_encode := PlaintextControlFrameV1.toBytes_length
  decode_encode := PlaintextControlFrameV1.ofBytes_toBytes

abbrev ControlStream := FramedStream UInt8 PlaintextControlFrameV1

/-! ### The steps of one side -/

inductive Act where
  -- the starting thread
  | beginHandshake
  | handshakeSent
  | takeHandshake
  | startFails (error : UInt32)
  | checkStop
  | setConnected
  | setSession
  | startLoop
  -- the callers of `Stop()`
  | stopExchange
  | stopConnected
  | stopSession
  | stopBegin
  | stopSent
  | stopFails
  | close
  -- the control loop
  | loopTest
  | heartbeat (sequence : UInt64)
  | rumble (generation : UInt64) (command : RumbleCommand)
  | loopSent
  | loopSendFails (error : SocketError)
  | nothingToSend
  | nothingToRead
  | loopTake
  | receiveFails (error : SocketError)
  | heartbeatTimeout
  -- one partial send, one partial receive
  | push (n : Nat)
  | pull (n : Nat)
  deriving DecidableEq, Repr

namespace Side

/-- `SignalDisconnected`. -/
def signalDisconnected (s : Side) (error : UInt32) : Side :=
  if s.disconnectedSignaled then s
  else { s with disconnectedSignaled := true, connected := false, lastError := error }

/-- The handshake has failed: the sockets are closed and `SetError` called. -/
def fail (s : Side) (error : UInt32) : Side :=
  { s with phase := .failed, isOpen := false, connected := false, lastError := error }

/-- The frame a loop expects, besides STOP. -/
def expects : Role → ControlMessageType
  | .client => .rumble
  | .server => .heartbeat

/-- What a control loop does with a received frame. -/
def handleFrame (s : Side) (r : Role) (frame : PlaintextControlFrameV1) : Side :=
  if validControlFrame frame (expects r) s.sessionId then { s with loop := .top }
  else if validControlFrame frame .stop s.sessionId then
    { s.signalDisconnected 0 with loop := .left .stopped }
  else { s.signalDisconnected WSAEPROTONOSUPPORT with loop := .left .invalid }

/-- A thread of this side is in `ReceiveAll`. -/
def receiving (s : Side) (r : Role) : Bool :=
  s.loop == .waiting || (r == .client && s.phase == .awaitingAck) ||
    (r == .server && s.phase == .start)

variable (key : UInt16)

/-- The handshake frame of each side. -/
def greeting (sessionId : UInt32) : Role → PlaintextControlFrameV1
  | .client => makeControlFrame .hello sessionId 0 {} key
  | .server => ServerSockets.ack sessionId

/-- **One step of one side.**  `out` is the stream it writes, `inn` the one it
reads, and `peerOpen` says whether the other end is not closed. -/
def step (r : Role) (s : Side) (out inn : ControlStream) (peerOpen : Bool) :
    Act → Option (Side × ControlStream × ControlStream)
  | .beginHandshake =>
    if s.phase = (match r with | .client => .start | .server => .gotHello) then
      (out.begin controlCodec (greeting key s.negotiated r)).map fun out =>
        ({ s with phase := .sending }, out, inn)
    else none
  | .handshakeSent =>
    if s.phase = .sending ∧ out.sending = [] then
      some ({ s with phase := match r with | .client => .awaitingAck | .server => .acked }, out, inn)
    else none
  | .takeHandshake =>
    match r, s.phase with
    | .client, .awaitingAck =>
      (inn.take controlCodec).map fun (frame, inn) =>
        if validControlFrame frame .helloAck s.negotiated then ({ s with phase := .acked }, out, inn)
        else (s.fail WSAEPROTONOSUPPORT, out, inn)
    | .server, .start =>
      (inn.take controlCodec).map fun (frame, inn) =>
        if ServerSockets.verdict key true frame = .accepted then
          ({ s with phase := .gotHello, negotiated := frame.sessionId }, out, inn)
        else (s.fail kPairingKeyMismatchError, out, inn)
    | _, _ => none
  | .startFails error =>
    if s.phase = .start ∨ s.phase = .gotHello ∨ s.phase = .sending ∨ s.phase = .awaitingAck then
      some (s.fail error, out.abort, inn)
    else none
  | .checkStop =>
    if s.phase = .acked then
      if s.stopRequested then some ({ s with phase := .failed, isOpen := false }, out, inn)
      else some ({ s with phase := .checked }, out, inn)
    else none
  | .setConnected =>
    if s.phase = .checked then
      some ({ s with phase := .connectedSet, connected := true, lastError := 0 }, out, inn)
    else none
  | .setSession =>
    if s.phase = .connectedSet then
      some ({ s with phase := .sessionSet, sessionId := s.negotiated }, out, inn)
    else none
  | .startLoop =>
    if s.phase = .sessionSet then
      if s.stopRequested then
        some ({ s with phase := .abandoned, isOpen := false, connected := false }, out, inn)
      else some ({ s with phase := .looping, loop := .top }, out, inn)
    else none
  | .stopExchange =>
    if s.stop = .idle then some ({ s with stop := .exchanged, stopRequested := true }, out, inn)
    else none
  | .stopConnected =>
    if s.stop = .exchanged then
      some ({ s with stop := if s.connected then .loading else .finished }, out, inn)
    else none
  | .stopSession =>
    if s.stop = .loading then some ({ s with stop := .loaded s.sessionId }, out, inn) else none
  | .stopBegin =>
    match s.stop with
    | .loaded sessionId =>
      if s.loop = .sending then none
      else if s.isOpen && !out.broken then
        (out.begin controlCodec (makeControlFrame .stop sessionId)).map fun out =>
          ({ s with stop := .sending }, out, inn)
      else some ({ s with stop := .finished }, out, inn)
    | _ => none
  | .stopSent =>
    if s.stop = .sending ∧ out.sending = [] then some ({ s with stop := .finished }, out, inn)
    else none
  | .stopFails =>
    if s.stop = .sending ∧ (s.isOpen && peerOpen) = false then
      some ({ s with stop := .finished }, out.abort, inn)
    else none
  | .close =>
    if s.stopRequested then some ({ s with connected := false, isOpen := false }, out, inn) else none
  | .loopTest =>
    if s.loop = .top then
      if !s.stopRequested && s.connected then some ({ s with loop := .body }, out, inn)
      else some ({ s with loop := .left .ended }, out, inn)
    else none
  | .heartbeat sequence =>
    if r = .client ∧ s.loop = .body ∧ s.stop ≠ .sending then
      (out.begin controlCodec (makeControlFrame .heartbeat s.sessionId sequence)).map fun out =>
        ({ s with loop := .sending }, out, inn)
    else none
  | .rumble generation command =>
    if r = .server ∧ s.loop = .body ∧ s.stop ≠ .sending then
      (out.begin controlCodec (makeControlFrame .rumble s.sessionId generation command)).map
        fun out => ({ s with loop := .sending }, out, inn)
    else none
  | .loopSent =>
    if s.loop = .sending ∧ out.sending = [] then some ({ s with loop := .waiting }, out, inn)
    else none
  | .loopSendFails error =>
    if (s.loop = .sending ∨ s.loop = .body ∧ s.stop ≠ .sending) ∧ (s.isOpen && peerOpen) = false then
      some ({ s.signalDisconnected error.code with loop := .left .sendFailed }, out.abort, inn)
    else none
  | .nothingToSend => if s.loop = .body then some ({ s with loop := .waiting }, out, inn) else none
  | .nothingToRead =>
    if s.loop = .waiting ∧ inn.reading = [] then some ({ s with loop := .top }, out, inn) else none
  | .loopTake =>
    if s.loop = .waiting then
      (inn.take controlCodec).map fun (frame, inn) => (s.handleFrame r frame, out, inn)
    else none
  | .receiveFails error =>
    if s.loop = .waiting then
      some ({ s.signalDisconnected error.code with loop := .left .closed }, out, inn)
    else none
  | .heartbeatTimeout =>
    if r = .server ∧ s.loop = .waiting ∧ inn.reading = [] then
      some ({ s.signalDisconnected WSAETIMEDOUT with loop := .left .timedOut }, out, inn)
    else none
  | .push n => if s.isOpen then (out.push n).map fun out => (s, out, inn) else none
  | .pull n =>
    if s.isOpen && s.receiving r then (inn.pull controlCodec n).map fun inn => (s, out, inn)
    else none

end Side

/-! ### The two sides -/

structure ControlChannel where
  client : Side
  server : Side := {}
  toServer : ControlStream := {}
  toClient : ControlStream := {}

namespace ControlChannel

def side (w : ControlChannel) : Role → Side
  | .client => w.client
  | .server => w.server

/-- The stream that a side writes. -/
def out (w : ControlChannel) : Role → ControlStream
  | .client => w.toServer
  | .server => w.toClient

/-- After a step of the side `r`. -/
def update (r : Role) (t : Side × ControlStream × ControlStream) (w : ControlChannel) :
    ControlChannel :=
  match r with
  | .client => { w with client := t.1, toServer := t.2.1, toClient := t.2.2 }
  | .server => { w with server := t.1, toClient := t.2.1, toServer := t.2.2 }

def next (key : UInt16) (w : ControlChannel) (a : Role × Act) : Option ControlChannel :=
  ((w.side a.1).step key a.1 (w.out a.1) (w.out a.1.other) (w.side a.1.other).isOpen a.2).map
    fun t => w.update a.1 t

/-- A client that has drawn the session id `sessionId`, and a server that expects
the client's pairing key `key`. -/
def system (key : UInt16) (sessionId : UInt32) : System ControlChannel (Role × Act) where
  init := { client := { negotiated := sessionId } }
  next := next key

/-! ### The statement -/

/-- The frames a side may send after the handshake, in the session `sessionId`. -/
def Sent (sessionId : UInt32) : Role → PlaintextControlFrameV1 → Prop
  | .client, f => (∃ sequence, f = makeControlFrame .heartbeat sessionId sequence) ∨
      f = makeControlFrame .stop sessionId
  | .server, f => (∃ generation command, f = makeControlFrame .rumble sessionId generation command) ∨
      f = makeControlFrame .stop sessionId

/-- **Neither side faults the other.** -/
structure Honest (sessionId : UInt32) (w : ControlChannel) : Prop where
  /-- No control loop has met an invalid frame. -/
  valid : ∀ r, (w.side r).loop ≠ .left .invalid
  /-- After the handshake frame, a side sends only what it may, with the session id
  of the HELLO. -/
  sent : ∀ r, ∀ f ∈ (w.out r).begun.tail, Sent sessionId r f
  /-- A session whose loop has run is not reported with `WSAEPROTONOSUPPORT`. -/
  lastError : ∀ r, (w.side r).loop ≠ .none → (w.side r).lastError ≠ WSAEPROTONOSUPPORT

/-- `Stop()` is about to read `session_id_`, and the starting thread has set
`connected_` but not yet `session_id_`. -/
def HastyStop (w : ControlChannel) (a : Role × Act) : Prop :=
  a.2 = .stopSession ∧ (w.side a.1).phase = .connectedSet

end ControlChannel

/-! ### What is known of one side -/

namespace Phase

/-- The handshake frame of this side has been begun. -/
def greeted : Phase → Bool
  | .start | .gotHello | .failed => false
  | _ => true

/-- The handshake frame of the other side has been read. -/
def hasRead : Role → Phase → Bool
  | _, .acked | _, .checked | _, .connectedSet | _, .sessionSet | _, .looping | _, .abandoned => true
  | .server, .gotHello | .server, .sending => true
  | _, _ => false

/-- `connected_` has been set... -/
def joined : Phase → Bool
  | .connectedSet | .sessionSet | .looping | .abandoned => true
  | _ => false

/-- ...and `session_id_` as well. -/
def published : Phase → Bool
  | .sessionSet | .looping | .abandoned => true
  | _ => false

theorem hasRead_of_joined {r : Role} {p : Phase} (h : p.joined = true) : p.hasRead r = true := by
  cases p <;> cases r <;> first | rfl | cases h

theorem greeted_of_joined {p : Phase} (h : p.joined = true) : p.greeted = true := by
  cases p <;> first | rfl | cases h

end Phase

namespace Side

@[simp] theorem signalDisconnected_phase (s : Side) (e : UInt32) :
    (s.signalDisconnected e).phase = s.phase := by rw [signalDisconnected]; split <;> rfl

@[simp] theorem signalDisconnected_stop (s : Side) (e : UInt32) :
    (s.signalDisconnected e).stop = s.stop := by rw [signalDisconnected]; split <;> rfl

@[simp] theorem signalDisconnected_negotiated (s : Side) (e : UInt32) :
    (s.signalDisconnected e).negotiated = s.negotiated := by rw [signalDisconnected]; split <;> rfl

@[simp] theorem signalDisconnected_sessionId (s : Side) (e : UInt32) :
    (s.signalDisconnected e).sessionId = s.sessionId := by rw [signalDisconnected]; split <;> rfl

theorem signalDisconnected_connected {s : Side} {e : UInt32}
    (h : (s.signalDisconnected e).connected = true) : s.connected = true := by
  rw [signalDisconnected] at h
  split at h
  · exact h
  · cases h

theorem signalDisconnected_lastError {s : Side} {e : UInt32} (hs : s.lastError ≠ WSAEPROTONOSUPPORT)
    (he : e ≠ WSAEPROTONOSUPPORT) : (s.signalDisconnected e).lastError ≠ WSAEPROTONOSUPPORT := by
  rw [signalDisconnected]
  split
  · exact hs
  · exact he

end Side

open ControlChannel

variable {key : UInt16} {sessionId : UInt32} {r : Role}

/-- The handshake of one side: what it has begun to send, `begun`, and what it has
read, `taken`. -/
structure Start (key : UInt16) (sessionId : UInt32) (r : Role) (s : Side)
    (begun taken : List PlaintextControlFrameV1) : Prop where
  fresh : s.phase = .start → taken = []
  ungreeted : s.phase = .start ∨ s.phase = .gotHello → begun = []
  begun_eq : begun = [] ∨ ∃ rest, begun = Side.greeting key sessionId r :: rest ∧
    ∀ f ∈ rest, Sent sessionId r f
  greeted : s.phase.greeted = true → begun ≠ []
  hasRead : s.phase.hasRead r = true → taken ≠ []
  negotiated : r = .client ∨ s.phase.hasRead r = true → s.negotiated = sessionId
  published : s.phase.published = true → s.sessionId = sessionId

/-- The threads of one side. -/
structure Threads (sessionId : UInt32) (s : Side) : Prop where
  connected : s.connected = true → s.phase.joined = true
  stopping : s.stop = .loading ∨ s.stop = .sending → s.phase.joined = true
  loaded : ∀ id, s.stop = .loaded id → s.phase.joined = true ∧ id = sessionId
  looping : s.loop ≠ .none → s.phase = .looping
  valid : s.loop ≠ .left .invalid
  lastError : s.phase.joined = true → s.lastError ≠ WSAEPROTONOSUPPORT

namespace Start

variable {s t : Side} {begun taken : List PlaintextControlFrameV1}

theorem congr (h : Start key sessionId r s begun taken) (hp : t.phase = s.phase)
    (hn : t.negotiated = s.negotiated) (hs : t.sessionId = s.sessionId) :
    Start key sessionId r t begun taken := by
  constructor
  · rw [hp]; exact h.fresh
  · rw [hp]; exact h.ungreeted
  · exact h.begun_eq
  · rw [hp]; exact h.greeted
  · rw [hp]; exact h.hasRead
  · rw [hp, hn]; exact h.negotiated
  · rw [hp, hs]; exact h.published

/-- Another frame of the session is begun. -/
theorem append {f : PlaintextControlFrameV1} (h : Start key sessionId r s begun taken)
    (hj : s.phase.joined = true) (hf : Sent sessionId r f) :
    Start key sessionId r s (begun ++ [f]) taken where
  fresh := h.fresh
  ungreeted hp := by
    have hg := Phase.greeted_of_joined hj
    rcases hp with hp | hp <;> (rw [hp] at hg; cases hg)
  begun_eq := by
    rcases h.begun_eq with hnil | ⟨rest, hrest, hsent⟩
    · exact absurd hnil (h.greeted (Phase.greeted_of_joined hj))
    · refine Or.inr ⟨rest ++ [f], by rw [hrest]; rfl, ?_⟩
      intro g hg
      rcases List.mem_append.mp hg with hg | hg
      · exact hsent g hg
      · rw [List.mem_singleton.mp hg]
        exact hf
  greeted _ := by simp
  hasRead := h.hasRead
  negotiated := h.negotiated
  published := h.published

/-- The loop takes a frame. -/
theorem taken_append (h : Start key sessionId r s begun taken) (hp : s.phase ≠ .start)
    (f : PlaintextControlFrameV1) : Start key sessionId r s begun (taken ++ [f]) :=
  { h with
    fresh := fun hs => absurd hs hp
    hasRead := fun _ => by simp }

/-- A step of the starting thread between two phases of which the same is known. -/
theorem advance {p : Phase} (h : Start key sessionId r s begun taken) (hs : p ≠ .start)
    (hg : p ≠ .gotHello) (hgreet : p.greeted = true → s.phase.greeted = true)
    (hread : p.hasRead r = true → s.phase.hasRead r = true)
    (hpub : p.published = true → s.phase.published = true) :
    Start key sessionId r { s with phase := p } begun taken where
  fresh e := absurd e hs
  ungreeted e := by
    rcases e with e | e
    · exact absurd e hs
    · exact absurd e hg
  begun_eq := h.begun_eq
  greeted e := h.greeted (hgreet e)
  hasRead e := h.hasRead (hread e)
  negotiated e := h.negotiated (e.imp_right hread)
  published e := h.published (hpub e)

theorem failed (h : Start key sessionId r s begun taken) (hp : t.phase = .failed)
    (hn : t.negotiated = s.negotiated) : Start key sessionId r t begun taken where
  fresh e := by rw [hp] at e; cases e
  ungreeted e := by rw [hp] at e; rcases e with e | e <;> cases e
  begun_eq := h.begun_eq
  greeted e := by rw [hp] at e; cases e
  hasRead e := by rw [hp] at e; cases r <;> cases e
  negotiated e := by
    rw [hp] at e
    rcases e with e | e
    · rw [hn]; exact h.negotiated (Or.inl e)
    · cases r <;> cases e
  published e := by rw [hp] at e; cases e

end Start

/-! ### One step of one side -/

/-- A frame of the session is no invalid frame to the other side. -/
theorem handleFrame_sent {s : Side} {f : PlaintextControlFrameV1} (hs : s.sessionId = sessionId)
    (hf : Sent sessionId r.other f) :
    s.handleFrame r f = { s with loop := .top } ∨
      s.handleFrame r f = { s.signalDisconnected 0 with loop := .left .stopped } := by
  have hstop : f = makeControlFrame .stop sessionId →
      s.handleFrame r f = { s.signalDisconnected 0 with loop := .left .stopped } := by
    rintro rfl
    have hdata : validControlFrame (makeControlFrame .stop sessionId) (Side.expects r) s.sessionId =
        false := by
      rw [← Bool.not_eq_true, validControlFrame_make]
      cases r <;> (rintro ⟨h, _⟩; cases h)
    have hvalid : validControlFrame (makeControlFrame .stop sessionId) .stop s.sessionId = true :=
      (validControlFrame_make ..).mpr ⟨rfl, hs.symm⟩
    rw [Side.handleFrame, hdata, hvalid]
    rfl
  cases r with
  | client =>
    rcases hf with ⟨generation, command, rfl⟩ | hf
    · have hvalid : validControlFrame (makeControlFrame .rumble sessionId generation command)
          (Side.expects .client) s.sessionId = true :=
        (validControlFrame_make ..).mpr ⟨rfl, hs.symm⟩
      left
      rw [Side.handleFrame, if_pos hvalid]
    · exact Or.inr (hstop hf)
  | server =>
    rcases hf with ⟨sequence, rfl⟩ | hf
    · have hvalid : validControlFrame (makeControlFrame .heartbeat sessionId sequence)
          (Side.expects .server) s.sessionId = true :=
        (validControlFrame_make ..).mpr ⟨rfl, hs.symm⟩
      left
      rw [Side.handleFrame, if_pos hvalid]
    · exact Or.inr (hstop hf)

/-- What a side knows of the stream it reads: the frames begun there are the
handshake frame of the other side and frames of the session. -/
def FromPeer (key : UInt16) (sessionId : UInt32) (r : Role) (begun : List PlaintextControlFrameV1) :
    Prop :=
  begun = [] ∨ ∃ rest, begun = Side.greeting key sessionId r.other :: rest ∧
    ∀ f ∈ rest, Sent sessionId r.other f

/-- The first frame taken is the handshake frame... -/
theorem FromPeer.first {begun taken : List PlaintextControlFrameV1} {f : PlaintextControlFrameV1}
    (h : FromPeer key sessionId r begun) (ht : taken = []) (hf : begun[taken.length]? = some f) :
    f = Side.greeting key sessionId r.other := by
  subst ht
  rcases h with rfl | ⟨rest, rfl, _⟩
  · cases hf
  · exact (Option.some.inj hf).symm

/-- ...and any later one is a frame of the session. -/
theorem FromPeer.later {begun taken : List PlaintextControlFrameV1} {f : PlaintextControlFrameV1}
    (h : FromPeer key sessionId r begun) (ht : taken ≠ []) (hf : begun[taken.length]? = some f) :
    Sent sessionId r.other f := by
  obtain ⟨g, gs, rfl⟩ := List.exists_cons_of_ne_nil ht
  rcases h with rfl | ⟨rest, rfl, hrest⟩
  · cases hf
  · exact hrest f (List.mem_of_getElem? hf)

namespace Threads

variable {s : Side}

/-- The control loop goes on. -/
theorem setLoop (h : Threads sessionId s) (hl : s.loop ≠ .none) {p : LoopPhase}
    (hp : p ≠ .left .invalid) : Threads sessionId { s with loop := p } :=
  { h with
    looping := fun _ => h.looping hl
    valid := hp }

/-- The control loop ends with a report. -/
theorem leave (h : Threads sessionId s) (hl : s.loop ≠ .none) {error : UInt32} {why : Leave}
    (he : error ≠ WSAEPROTONOSUPPORT) (hw : why ≠ .invalid) :
    Threads sessionId { s.signalDisconnected error with loop := .left why } where
  connected hc := by
    simp only [Side.signalDisconnected_phase]
    exact h.connected (Side.signalDisconnected_connected hc)
  stopping := by simpa using h.stopping
  loaded := by simpa using h.loaded
  looping _ := by simpa using h.looping hl
  valid e := hw (LoopPhase.left.inj e)
  lastError := by
    intro hj
    simp only [Side.signalDisconnected_phase] at hj
    exact Side.signalDisconnected_lastError (h.lastError hj) he

/-- The starting thread goes on to a phase before the loop. -/
theorem setPhase (h : Threads sessionId s) {p : Phase} (hs : s.phase ≠ .looping)
    (hj : s.phase.joined = true → p.joined = true) (hj' : p.joined = true → s.phase.joined = true) :
    Threads sessionId { s with phase := p } where
  connected e := hj (h.connected e)
  stopping e := hj (h.stopping e)
  loaded id e := ⟨hj (h.loaded id e).1, (h.loaded id e).2⟩
  looping e := absurd (h.looping e) hs
  valid := h.valid
  lastError e := h.lastError (hj' e)

/-- ...and `connected_` is not yet set... -/
theorem early (h : Threads sessionId s) {p q : Phase} (hs : s.phase = p) (hp : p.joined = false)
    (hq : q.joined = false) : Threads sessionId { s with phase := q } := by
  subst hs
  refine h.setPhase (fun e => ?_) (fun e => ?_) (fun e => ?_)
  · rw [e] at hp
    cases hp
  · rw [hp] at e
    cases e
  · rw [hq] at e
    cases e

/-- ...or has been set. -/
theorem late (h : Threads sessionId s) {p q : Phase} (hs : s.phase = p) (hl : p ≠ .looping)
    (hp : p.joined = true) (hq : q.joined = true) : Threads sessionId { s with phase := q } := by
  subst hs
  exact h.setPhase hl (fun _ => hq) (fun _ => hp)

/-- The handshake fails. -/
theorem failed (h : Threads sessionId s) (hs : s.phase.joined = false) (error : UInt32) :
    Threads sessionId (s.fail error) where
  connected := nofun
  stopping e := by have := h.stopping e; rw [hs] at this; cases this
  loaded id e := by have := (h.loaded id e).1; rw [hs] at this; cases this
  looping e := by have := h.looping e; rw [this] at hs; cases hs
  valid := h.valid
  lastError := nofun

end Threads

section Step

variable {s s' : Side} {out inn out' inn' : ControlStream} {peerOpen : Bool}

/-- Whose step it is: the starting thread's, a caller's of `Stop()`, the control loop's,
or the network's. -/
inductive Actor where
  | starting
  | stopping
  | looping
  | network
  deriving DecidableEq, Repr

def Act.actor : Act → Actor
  | .beginHandshake | .handshakeSent | .takeHandshake | .startFails _ | .checkStop
  | .setConnected | .setSession | .startLoop => .starting
  | .stopExchange | .stopConnected | .stopSession | .stopBegin | .stopSent | .stopFails
  | .close => .stopping
  | .loopTest | .heartbeat _ | .rumble _ _ | .loopSent | .loopSendFails _ | .nothingToSend
  | .nothingToRead | .loopTake | .receiveFails _ | .heartbeatTimeout => .looping
  | .push _ | .pull _ => .network

/-- HELLO or HELLO_ACK is the first frame of its side. -/
theorem handshake_begins (hs : Start key sessionId r s out.begun inn.taken)
    (ht : Threads sessionId s)
    (h : Side.step key r s out inn peerOpen .beginHandshake = some (s', out', inn')) :
    Start key sessionId r s' out'.begun inn'.taken ∧ Threads sessionId s' := by
  simp only [Side.step, Option.ite_none_right_eq_some, Option.map_eq_some_iff, Prod.mk.injEq] at h
  obtain ⟨hp, o, ho, rfl, rfl, rfl⟩ := h
  obtain ⟨hbegun, _⟩ := FramedStream.begin_some ho
  have hstart : s.phase = .start ∨ s.phase = .gotHello := by
    cases r with
    | client => exact Or.inl hp
    | server => exact Or.inr hp
  have hneg : s.negotiated = sessionId := by
    cases r with
    | client => exact hs.negotiated (Or.inl rfl)
    | server => exact hs.negotiated (Or.inr (by rw [hp]; rfl))
  have hread : Phase.sending.hasRead r = true → s.phase.hasRead r = true := by
    cases r with
    | client => exact nofun
    | server => intro _; rw [hp]; rfl
  have hgreet : Side.greeting key s.negotiated r = Side.greeting key sessionId r := by rw [hneg]
  rw [hbegun, hs.ungreeted hstart, hgreet]
  refine ⟨⟨nofun, nofun, Or.inr ⟨[], rfl, nofun⟩, fun _ => by simp, fun e => hs.hasRead (hread e),
    fun e => hs.negotiated (e.imp_right hread), nofun⟩, ?_⟩
  rcases hstart with e | e
  · exact ht.early e rfl rfl
  · exact ht.early e rfl rfl

/-- The client takes HELLO_ACK, or another frame, with which it fails. -/
theorem ack_taken (hs : Start key sessionId .client s out.begun inn.taken)
    (ht : Threads sessionId s)
    (h : Side.step key .client s out inn peerOpen .takeHandshake = some (s', out', inn')) :
    Start key sessionId .client s' out'.begun inn'.taken ∧ Threads sessionId s' := by
  simp only [Side.step] at h
  split at h
  · rename_i hp
    simp only [Option.map_eq_some_iff] at h
    obtain ⟨⟨frame, i⟩, hi, h⟩ := h
    obtain ⟨_, _, rfl⟩ := FramedStream.take_some hi
    split at h
    · simp only [Prod.mk.injEq] at h
      obtain ⟨rfl, rfl, rfl⟩ := h
      exact ⟨⟨nofun, nofun, hs.begun_eq, fun _ => hs.greeted (by rw [hp]; rfl), fun _ => by simp,
        fun _ => hs.negotiated (Or.inl rfl), nofun⟩, ht.early hp rfl rfl⟩
    · simp only [Prod.mk.injEq] at h
      obtain ⟨rfl, rfl, rfl⟩ := h
      exact ⟨(hs.taken_append (by simp [hp]) frame).failed rfl rfl,
        ht.failed (by rw [hp]; rfl) _⟩
  · simp_all
  · cases h

/-- The server takes HELLO, with the session id of the client, or fails. -/
theorem hello_taken (hs : Start key sessionId .server s out.begun inn.taken)
    (ht : Threads sessionId s) (hinn : FramedStream.Framed controlCodec inn)
    (hpeer : FromPeer key sessionId .server inn.begun)
    (h : Side.step key .server s out inn peerOpen .takeHandshake = some (s', out', inn')) :
    Start key sessionId .server s' out'.begun inn'.taken ∧ Threads sessionId s' := by
  simp only [Side.step] at h
  split at h
  · simp_all
  · rename_i hp
    simp only [Option.map_eq_some_iff] at h
    obtain ⟨⟨frame, i⟩, hi, h⟩ := h
    obtain ⟨_, _, rfl⟩ := FramedStream.take_some hi
    have hframe : frame.sessionId = sessionId := by
      rw [hpeer.first (hs.fresh hp) (hinn.take_eq hi)]
      rfl
    split at h
    · simp only [Prod.mk.injEq] at h
      obtain ⟨rfl, rfl, rfl⟩ := h
      have ht' : Threads sessionId { s with phase := .gotHello } := ht.early hp rfl rfl
      exact ⟨⟨nofun, fun _ => hs.ungreeted (Or.inl hp), hs.begun_eq, nofun, fun _ => by simp,
        fun _ => hframe, nofun⟩, { ht' with }⟩
    · simp only [Prod.mk.injEq] at h
      obtain ⟨rfl, rfl, rfl⟩ := h
      exact ⟨⟨nofun, nofun, hs.begun_eq, nofun, nofun, nofun, nofun⟩,
        ht.failed (by rw [hp]; rfl) _⟩
  · cases h

/-- What the starting thread keeps. -/
theorem starting_step {a : Act} (hs : Start key sessionId r s out.begun inn.taken)
    (ht : Threads sessionId s) (hinn : FramedStream.Framed controlCodec inn)
    (hpeer : FromPeer key sessionId r inn.begun) (ha : a.actor = .starting)
    (h : Side.step key r s out inn peerOpen a = some (s', out', inn')) :
    Start key sessionId r s' out'.begun inn'.taken ∧ Threads sessionId s' := by
  cases a with
  | beginHandshake => exact handshake_begins hs ht h
  | handshakeSent =>
    simp only [Side.step, Option.ite_none_right_eq_some, Option.some.injEq, Prod.mk.injEq] at h
    obtain ⟨⟨hp, _⟩, rfl, rfl, rfl⟩ := h
    cases r with
    | client =>
      exact ⟨hs.advance nofun nofun (by simp [hp, Phase.greeted]) nofun nofun,
        ht.early hp rfl rfl⟩
    | server =>
      exact ⟨hs.advance nofun nofun (by simp [hp, Phase.greeted]) (by simp [hp, Phase.hasRead])
        nofun, ht.early hp rfl rfl⟩
  | takeHandshake =>
    cases r with
    | client => exact ack_taken hs ht h
    | server => exact hello_taken hs ht hinn hpeer h
  | startFails error =>
    simp only [Side.step, Option.ite_none_right_eq_some, Option.some.injEq, Prod.mk.injEq] at h
    obtain ⟨hp, rfl, rfl, rfl⟩ := h
    have hj : s.phase.joined = false := by
      rcases hp with hp | hp | hp | hp <;> (rw [hp]; rfl)
    exact ⟨hs.failed rfl rfl, ht.failed hj error⟩
  | checkStop =>
    simp only [Side.step, Option.ite_none_right_eq_some] at h
    obtain ⟨hp, h⟩ := h
    split at h
    · simp only [Option.some.injEq, Prod.mk.injEq] at h
      obtain ⟨rfl, rfl, rfl⟩ := h
      have ht' : Threads sessionId { s with phase := .failed } := ht.early hp rfl rfl
      exact ⟨hs.failed rfl rfl, { ht' with }⟩
    · simp only [Option.some.injEq, Prod.mk.injEq] at h
      obtain ⟨rfl, rfl, rfl⟩ := h
      exact ⟨hs.advance nofun nofun (by simp [hp, Phase.greeted])
          (by cases r <;> simp [hp, Phase.hasRead]) nofun,
        ht.early hp rfl rfl⟩
  | setConnected =>
    simp only [Side.step, Option.ite_none_right_eq_some, Option.some.injEq, Prod.mk.injEq] at h
    obtain ⟨hp, rfl, rfl, rfl⟩ := h
    have hs' : Start key sessionId r { s with phase := .connectedSet } out.begun inn.taken :=
      hs.advance nofun nofun (by simp [hp, Phase.greeted]) (by cases r <;> simp [hp, Phase.hasRead])
        nofun
    have hloop : s.loop = .none := by
      by_contra hl
      have := ht.looping hl
      rw [hp] at this
      cases this
    exact ⟨hs'.congr rfl rfl rfl, ⟨fun _ => rfl, fun _ => rfl,
      fun id e => ⟨rfl, (ht.loaded id e).2⟩, fun e => absurd hloop e, ht.valid,
      fun _ => show (0 : UInt32) ≠ WSAEPROTONOSUPPORT by decide⟩⟩
  | setSession =>
    simp only [Side.step, Option.ite_none_right_eq_some, Option.some.injEq, Prod.mk.injEq] at h
    obtain ⟨hp, rfl, rfl, rfl⟩ := h
    have hread : s.phase.hasRead r = true := by rw [hp]; cases r <;> rfl
    have hneg := hs.negotiated (Or.inr hread)
    have ht' : Threads sessionId { s with phase := .sessionSet } :=
      ht.late hp Phase.noConfusion rfl rfl
    exact ⟨⟨nofun, nofun, hs.begun_eq, fun _ => hs.greeted (by rw [hp]; rfl),
      fun _ => hs.hasRead hread, fun _ => hneg, fun _ => hneg⟩, { ht' with }⟩
  | startLoop =>
    simp only [Side.step, Option.ite_none_right_eq_some] at h
    obtain ⟨hp, h⟩ := h
    have hread : s.phase.hasRead r = true := by rw [hp]; cases r <;> rfl
    have hpub : s.phase.published = true := by rw [hp]; rfl
    have hgreet : s.phase.greeted = true := by rw [hp]; rfl
    split at h
    · simp only [Option.some.injEq, Prod.mk.injEq] at h
      obtain ⟨rfl, rfl, rfl⟩ := h
      have hs' : Start key sessionId r { s with phase := .abandoned } out.begun inn.taken :=
        hs.advance nofun nofun (fun _ => hgreet) (fun _ => hread) (fun _ => hpub)
      have ht' : Threads sessionId { s with phase := .abandoned } :=
        ht.late hp Phase.noConfusion rfl rfl
      exact ⟨hs'.congr rfl rfl rfl, { ht' with connected := nofun }⟩
    · simp only [Option.some.injEq, Prod.mk.injEq] at h
      obtain ⟨rfl, rfl, rfl⟩ := h
      have hs' : Start key sessionId r { s with phase := .looping } out.begun inn.taken :=
        hs.advance nofun nofun (fun _ => hgreet) (fun _ => hread) (fun _ => hpub)
      have ht' : Threads sessionId { s with phase := .looping } :=
        ht.late hp Phase.noConfusion rfl rfl
      exact ⟨hs'.congr rfl rfl rfl, { ht' with looping := fun _ => rfl, valid := nofun }⟩
  | stopExchange | stopConnected | stopSession | stopBegin | stopSent | stopFails | close
    | loopTest | heartbeat | rumble | loopSent | loopSendFails | nothingToSend
    | nothingToRead | loopTake | receiveFails | heartbeatTimeout | push | pull => cases ha

/-- What the callers of `Stop()` keep. -/
theorem stopping_step {a : Act} (hs : Start key sessionId r s out.begun inn.taken)
    (ht : Threads sessionId s) (hok : a = .stopSession → s.phase ≠ .connectedSet)
    (ha : a.actor = .stopping)
    (h : Side.step key r s out inn peerOpen a = some (s', out', inn')) :
    Start key sessionId r s' out'.begun inn'.taken ∧ Threads sessionId s' := by
  cases a with
  | stopExchange =>
    simp only [Side.step, Option.ite_none_right_eq_some, Option.some.injEq, Prod.mk.injEq] at h
    obtain ⟨hp, rfl, rfl, rfl⟩ := h
    exact ⟨hs.congr rfl rfl rfl, { ht with stopping := nofun, loaded := nofun }⟩
  | stopConnected =>
    simp only [Side.step, Option.ite_none_right_eq_some, Option.some.injEq, Prod.mk.injEq] at h
    obtain ⟨hp, rfl, rfl, rfl⟩ := h
    refine ⟨hs.congr rfl rfl rfl, ?_⟩
    by_cases hc : s.connected = true
    · simp only [hc, if_true]
      exact ⟨fun _ => ht.connected hc, fun _ => ht.connected hc, nofun, ht.looping, ht.valid,
        ht.lastError⟩
    · simp only [hc]
      exact ⟨nofun, nofun, nofun, ht.looping, ht.valid, ht.lastError⟩
  | stopSession =>
    simp only [Side.step, Option.ite_none_right_eq_some, Option.some.injEq, Prod.mk.injEq] at h
    obtain ⟨hp, rfl, rfl, rfl⟩ := h
    have hj := ht.stopping (Or.inl hp)
    -- `connected_` is set, and not by a thread that is about to set `session_id_`
    have hpub : s.phase.published = true := by
      have hne := hok rfl
      revert hj hne
      cases s.phase <;> simp [Phase.joined, Phase.published]
    refine ⟨hs.congr rfl rfl rfl, { ht with stopping := nofun, loaded := ?_ }⟩
    intro id e
    obtain rfl := StopPhase.loaded.inj e
    exact ⟨hj, hs.published hpub⟩
  | stopBegin =>
    simp only [Side.step] at h
    split at h
    · rename_i id hp
      obtain ⟨hj, rfl⟩ := ht.loaded id hp
      split at h
      · cases h
      · split at h
        · simp only [Option.map_eq_some_iff, Prod.mk.injEq] at h
          obtain ⟨o, ho, rfl, rfl, rfl⟩ := h
          rw [(FramedStream.begin_some ho).1]
          have hsent : Sent id r (makeControlFrame .stop id) := by cases r <;> exact Or.inr rfl
          exact ⟨(hs.append hj hsent).congr rfl rfl rfl,
            { ht with stopping := fun _ => hj, loaded := nofun }⟩
        · simp only [Option.some.injEq, Prod.mk.injEq] at h
          obtain ⟨rfl, rfl, rfl⟩ := h
          exact ⟨hs.congr rfl rfl rfl, { ht with stopping := nofun, loaded := nofun }⟩
    · cases h
  | stopSent =>
    simp only [Side.step, Option.ite_none_right_eq_some, Option.some.injEq, Prod.mk.injEq] at h
    obtain ⟨hp, rfl, rfl, rfl⟩ := h
    exact ⟨hs.congr rfl rfl rfl, { ht with stopping := nofun, loaded := nofun }⟩
  | stopFails =>
    simp only [Side.step, Option.ite_none_right_eq_some, Option.some.injEq, Prod.mk.injEq] at h
    obtain ⟨hp, rfl, rfl, rfl⟩ := h
    exact ⟨hs.congr rfl rfl rfl, { ht with stopping := nofun, loaded := nofun }⟩
  | close =>
    simp only [Side.step, Option.ite_none_right_eq_some, Option.some.injEq, Prod.mk.injEq] at h
    obtain ⟨_, rfl, rfl, rfl⟩ := h
    exact ⟨hs.congr rfl rfl rfl, { ht with connected := nofun }⟩
  | beginHandshake | handshakeSent | takeHandshake | startFails | checkStop | setConnected
    | setSession | startLoop | loopTest | heartbeat | rumble | loopSent | loopSendFails
    | nothingToSend | nothingToRead | loopTake | receiveFails | heartbeatTimeout | push
    | pull => cases ha

/-- What the control loop keeps. -/
theorem looping_step {a : Act} (hs : Start key sessionId r s out.begun inn.taken)
    (ht : Threads sessionId s) (hinn : FramedStream.Framed controlCodec inn)
    (hpeer : FromPeer key sessionId r inn.begun) (ha : a.actor = .looping)
    (h : Side.step key r s out inn peerOpen a = some (s', out', inn')) :
    Start key sessionId r s' out'.begun inn'.taken ∧ Threads sessionId s' := by
  cases a with
  | loopTest =>
    simp only [Side.step, Option.ite_none_right_eq_some] at h
    obtain ⟨hl, h⟩ := h
    have hne : s.loop ≠ .none := by simp [hl]
    split at h
    · simp only [Option.some.injEq, Prod.mk.injEq] at h
      obtain ⟨rfl, rfl, rfl⟩ := h
      exact ⟨hs.congr rfl rfl rfl, ht.setLoop hne nofun⟩
    · simp only [Option.some.injEq, Prod.mk.injEq] at h
      obtain ⟨rfl, rfl, rfl⟩ := h
      exact ⟨hs.congr rfl rfl rfl, ht.setLoop hne nofun⟩
  | heartbeat sequence =>
    simp only [Side.step, Option.ite_none_right_eq_some, Option.map_eq_some_iff, Prod.mk.injEq] at h
    obtain ⟨⟨rfl, hl, _⟩, o, ho, rfl, rfl, rfl⟩ := h
    have hne : s.loop ≠ .none := by simp [hl]
    have hp := ht.looping hne
    have hid' := hs.published (by rw [hp]; rfl)
    rw [(FramedStream.begin_some ho).1]
    exact ⟨(hs.append (by rw [hp]; rfl) (Or.inl ⟨sequence, by rw [hid']⟩)).congr rfl rfl rfl,
      ht.setLoop hne nofun⟩
  | rumble generation command =>
    simp only [Side.step, Option.ite_none_right_eq_some, Option.map_eq_some_iff, Prod.mk.injEq] at h
    obtain ⟨⟨rfl, hl, _⟩, o, ho, rfl, rfl, rfl⟩ := h
    have hne : s.loop ≠ .none := by simp [hl]
    have hp := ht.looping hne
    have hid' := hs.published (by rw [hp]; rfl)
    rw [(FramedStream.begin_some ho).1]
    exact ⟨(hs.append (by rw [hp]; rfl)
      (Or.inl ⟨generation, command, by rw [hid']⟩)).congr rfl rfl rfl, ht.setLoop hne nofun⟩
  | loopSent =>
    simp only [Side.step, Option.ite_none_right_eq_some, Option.some.injEq, Prod.mk.injEq] at h
    obtain ⟨⟨hl, _⟩, rfl, rfl, rfl⟩ := h
    exact ⟨hs.congr rfl rfl rfl, ht.setLoop (by simp [hl]) nofun⟩
  | loopSendFails error =>
    simp only [Side.step, Option.ite_none_right_eq_some, Option.some.injEq, Prod.mk.injEq] at h
    obtain ⟨⟨hl, _⟩, rfl, rfl, rfl⟩ := h
    have hne : s.loop ≠ .none := by rcases hl with hl | ⟨hl, _⟩ <;> simp [hl]
    exact ⟨hs.congr (by simp) (by simp) (by simp), ht.leave hne error.ne nofun⟩
  | nothingToSend =>
    simp only [Side.step, Option.ite_none_right_eq_some, Option.some.injEq, Prod.mk.injEq] at h
    obtain ⟨hl, rfl, rfl, rfl⟩ := h
    exact ⟨hs.congr rfl rfl rfl, ht.setLoop (by simp [hl]) nofun⟩
  | nothingToRead =>
    simp only [Side.step, Option.ite_none_right_eq_some, Option.some.injEq, Prod.mk.injEq] at h
    obtain ⟨⟨hl, _⟩, rfl, rfl, rfl⟩ := h
    exact ⟨hs.congr rfl rfl rfl, ht.setLoop (by simp [hl]) nofun⟩
  | loopTake =>
    simp only [Side.step, Option.ite_none_right_eq_some, Option.map_eq_some_iff, Prod.mk.injEq] at h
    obtain ⟨hl, ⟨frame, i⟩, hi, rfl, rfl, rfl⟩ := h
    have hne : s.loop ≠ .none := by simp [hl]
    have hp := ht.looping hne
    have hread := hs.hasRead (Phase.hasRead_of_joined (by rw [hp]; rfl))
    -- the frame is not the first one, so it is one of the session
    have hsent := hpeer.later hread (hinn.take_eq hi)
    obtain ⟨_, _, rfl⟩ := FramedStream.take_some hi
    have hs' := hs.taken_append (by simp [hp]) frame
    rcases handleFrame_sent (hs.published (by rw [hp]; rfl)) hsent with he | he
    · rw [he]
      exact ⟨hs'.congr rfl rfl rfl, ht.setLoop hne nofun⟩
    · rw [he]
      exact ⟨hs'.congr (by simp) (by simp) (by simp), ht.leave hne (by decide) nofun⟩
  | receiveFails error =>
    simp only [Side.step, Option.ite_none_right_eq_some, Option.some.injEq, Prod.mk.injEq] at h
    obtain ⟨hl, rfl, rfl, rfl⟩ := h
    exact ⟨hs.congr (by simp) (by simp) (by simp), ht.leave (by simp [hl]) error.ne nofun⟩
  | heartbeatTimeout =>
    simp only [Side.step, Option.ite_none_right_eq_some, Option.some.injEq, Prod.mk.injEq] at h
    obtain ⟨⟨_, hl, _⟩, rfl, rfl, rfl⟩ := h
    exact ⟨hs.congr (by simp) (by simp) (by simp), ht.leave (by simp [hl]) (by decide) nofun⟩
  | beginHandshake | handshakeSent | takeHandshake | startFails | checkStop | setConnected
    | setSession | startLoop | stopExchange | stopConnected | stopSession | stopBegin
    | stopSent | stopFails | close | push | pull => cases ha

/-- What the network keeps. -/
theorem network_step {a : Act} (hs : Start key sessionId r s out.begun inn.taken)
    (ht : Threads sessionId s) (ha : a.actor = .network)
    (h : Side.step key r s out inn peerOpen a = some (s', out', inn')) :
    Start key sessionId r s' out'.begun inn'.taken ∧ Threads sessionId s' := by
  cases a with
  | push n =>
    simp only [Side.step, Option.ite_none_right_eq_some, Option.map_eq_some_iff, Prod.mk.injEq] at h
    obtain ⟨_, o, ho, rfl, rfl, rfl⟩ := h
    rw [(FramedStream.push_some ho).1]
    exact ⟨hs, ht⟩
  | pull n =>
    simp only [Side.step, Option.ite_none_right_eq_some, Option.map_eq_some_iff, Prod.mk.injEq] at h
    obtain ⟨_, i, hi, rfl, rfl, rfl⟩ := h
    rw [(FramedStream.pull_some hi).2]
    exact ⟨hs, ht⟩
  | beginHandshake | handshakeSent | takeHandshake | startFails | checkStop | setConnected
    | setSession | startLoop | stopExchange | stopConnected | stopSession | stopBegin
    | stopSent | stopFails | close | loopTest | heartbeat | rumble | loopSent
    | loopSendFails | nothingToSend | nothingToRead | loopTake | receiveFails
    | heartbeatTimeout => cases ha

/-- **What one step keeps.** -/
theorem side_step {a : Act} (hs : Start key sessionId r s out.begun inn.taken)
    (ht : Threads sessionId s) (hinn : FramedStream.Framed controlCodec inn)
    (hpeer : FromPeer key sessionId r inn.begun)
    (hok : a = .stopSession → s.phase ≠ .connectedSet)
    (h : Side.step key r s out inn peerOpen a = some (s', out', inn')) :
    Start key sessionId r s' out'.begun inn'.taken ∧ Threads sessionId s' := by
  cases ha : a.actor with
  | starting => exact starting_step hs ht hinn hpeer ha h
  | stopping => exact stopping_step hs ht hok ha h
  | looping => exact looping_step hs ht hinn hpeer ha h
  | network => exact network_step hs ht ha h

/-- What one step does to the two streams. -/
theorem step_streams {a : Act} (h : Side.step key r s out inn peerOpen a = some (s', out', inn')) :
    (out' = out ∨ (∃ f, out.begin controlCodec f = some out') ∨ (∃ n, out.push n = some out') ∨
      out' = out.abort) ∧
    (inn' = inn ∨ (∃ n, inn.pull controlCodec n = some inn') ∨
      ∃ f, inn.take controlCodec = some (f, inn')) := by
  have hkeep : ∀ {t : Side}, (t, out, inn) = (s', out', inn') →
      (out' = out ∨ (∃ f, out.begin controlCodec f = some out') ∨ (∃ n, out.push n = some out') ∨
        out' = out.abort) ∧
      (inn' = inn ∨ (∃ n, inn.pull controlCodec n = some inn') ∨
        ∃ f, inn.take controlCodec = some (f, inn')) := by
    intro t e
    simp only [Prod.mk.injEq] at e
    exact ⟨Or.inl e.2.1.symm, Or.inl e.2.2.symm⟩
  cases a with
  | beginHandshake | heartbeat _ | rumble _ _ =>
    simp only [Side.step, Option.ite_none_right_eq_some, Option.map_eq_some_iff, Prod.mk.injEq] at h
    obtain ⟨_, o, ho, _, rfl, rfl⟩ := h
    exact ⟨Or.inr (Or.inl ⟨_, ho⟩), Or.inl rfl⟩
  | stopBegin =>
    simp only [Side.step] at h
    split at h
    · split at h
      · cases h
      · split at h
        · simp only [Option.map_eq_some_iff, Prod.mk.injEq] at h
          obtain ⟨o, ho, _, rfl, rfl⟩ := h
          exact ⟨Or.inr (Or.inl ⟨_, ho⟩), Or.inl rfl⟩
        · exact hkeep (Option.some.inj h)
    · cases h
  | takeHandshake =>
    simp only [Side.step] at h
    split at h
    · simp only [Option.map_eq_some_iff] at h
      obtain ⟨⟨f, i⟩, hi, h⟩ := h
      split at h <;> (simp only [Prod.mk.injEq] at h; obtain ⟨_, rfl, rfl⟩ := h) <;>
        exact ⟨Or.inl rfl, Or.inr (Or.inr ⟨f, hi⟩)⟩
    · simp only [Option.map_eq_some_iff] at h
      obtain ⟨⟨f, i⟩, hi, h⟩ := h
      split at h <;> (simp only [Prod.mk.injEq] at h; obtain ⟨_, rfl, rfl⟩ := h) <;>
        exact ⟨Or.inl rfl, Or.inr (Or.inr ⟨f, hi⟩)⟩
    · cases h
  | startFails _ | stopFails | loopSendFails _ =>
    simp only [Side.step, Option.ite_none_right_eq_some, Option.some.injEq, Prod.mk.injEq] at h
    obtain ⟨_, _, rfl, rfl⟩ := h
    exact ⟨Or.inr (Or.inr (Or.inr rfl)), Or.inl rfl⟩
  | checkStop | startLoop | loopTest =>
    simp only [Side.step, Option.ite_none_right_eq_some] at h
    obtain ⟨_, h⟩ := h
    split at h <;> exact hkeep (Option.some.inj h)
  | handshakeSent | setConnected | setSession | stopExchange | stopConnected | stopSession
    | stopSent | close | loopSent | nothingToSend | nothingToRead | receiveFails _
    | heartbeatTimeout =>
    simp only [Side.step, Option.ite_none_right_eq_some] at h
    exact hkeep (Option.some.inj h.2)
  | loopTake =>
    simp only [Side.step, Option.ite_none_right_eq_some, Option.map_eq_some_iff, Prod.mk.injEq] at h
    obtain ⟨_, ⟨f, i⟩, hi, _, rfl, rfl⟩ := h
    exact ⟨Or.inl rfl, Or.inr (Or.inr ⟨f, hi⟩)⟩
  | push n =>
    simp only [Side.step, Option.ite_none_right_eq_some, Option.map_eq_some_iff, Prod.mk.injEq] at h
    obtain ⟨_, o, ho, _, rfl, rfl⟩ := h
    exact ⟨Or.inr (Or.inr (Or.inl ⟨n, ho⟩)), Or.inl rfl⟩
  | pull n =>
    simp only [Side.step, Option.ite_none_right_eq_some, Option.map_eq_some_iff, Prod.mk.injEq] at h
    obtain ⟨_, i, hi, _, rfl, rfl⟩ := h
    exact ⟨Or.inl rfl, Or.inr (Or.inl ⟨n, hi⟩)⟩

/-- **Both streams stay framed**, the one written keeps what was read of it, and
the one read what was sent on it. -/
theorem streams_step {a : Act} (hout : FramedStream.Framed controlCodec out)
    (hinn : FramedStream.Framed controlCodec inn)
    (h : Side.step key r s out inn peerOpen a = some (s', out', inn')) :
    FramedStream.Framed controlCodec out' ∧ FramedStream.Framed controlCodec inn' ∧
      out'.taken = out.taken ∧ inn'.begun = inn.begun := by
  obtain ⟨ho, hi⟩ := step_streams h
  have h1 : FramedStream.Framed controlCodec out' ∧ out'.taken = out.taken := by
    rcases ho with rfl | ⟨f, hb⟩ | ⟨n, hb⟩ | rfl
    · exact ⟨hout, rfl⟩
    · exact ⟨hout.begin hb, (FramedStream.begin_some hb).2⟩
    · exact ⟨hout.push hb, (FramedStream.push_some hb).2⟩
    · exact ⟨hout.abort, rfl⟩
  have h2 : FramedStream.Framed controlCodec inn' ∧ inn'.begun = inn.begun := by
    rcases hi with rfl | ⟨n, hb⟩ | ⟨f, hb⟩
    · exact ⟨hinn, rfl⟩
    · exact ⟨hinn.pull hb, (FramedStream.pull_some hb).1⟩
    · obtain ⟨_, _, he⟩ := FramedStream.take_some hb
      exact ⟨hinn.take hb, by rw [he]⟩
  exact ⟨h1.1, h2.1, h1.2, h2.2⟩

end Step

/-! ### Runs -/

namespace ControlChannel

/-- What holds of both sides and both streams, as long as no `Stop()` is hasty. -/
structure Inv (key : UInt16) (sessionId : UInt32) (w : ControlChannel) : Prop where
  start : ∀ r, Start key sessionId r (w.side r) (w.out r).begun (w.out r.other).taken
  threads : ∀ r, Threads sessionId (w.side r)
  framed : ∀ r, FramedStream.Framed controlCodec (w.out r)

theorem inv_init : Inv key sessionId (system key sessionId).init where
  start r := by
    cases r with
    | client => exact ⟨fun _ => rfl, fun _ => rfl, Or.inl rfl, nofun, nofun, fun _ => rfl, nofun⟩
    | server => exact ⟨fun _ => rfl, fun _ => rfl, Or.inl rfl, nofun, nofun, nofun, nofun⟩
  threads r := by
    cases r <;> exact ⟨nofun, nofun, nofun, fun e => absurd rfl e, nofun, nofun⟩
  framed r := by cases r <;> exact FramedStream.framed_new

theorem eq_or_other (r r' : Role) : r' = r ∨ r' = r.other := by
  cases r <;> cases r' <;> first | exact Or.inl rfl | exact Or.inr rfl

theorem inv_next {w w' : ControlChannel} {a : Role × Act} (h : Inv key sessionId w)
    (hok : ¬ HastyStop w a) (hn : next key w a = some w') : Inv key sessionId w' := by
  obtain ⟨r, a⟩ := a
  simp only [next, Option.map_eq_some_iff] at hn
  obtain ⟨⟨s', out', inn'⟩, hstep, rfl⟩ := hn
  obtain ⟨hout, hinn, htaken, hbegun⟩ := streams_step (h.framed r) (h.framed r.other) hstep
  have hhasty : a = .stopSession → (w.side r).phase ≠ .connectedSet :=
    fun ha hp => hok ⟨ha, hp⟩
  obtain ⟨hs, ht⟩ := side_step (h.start r) (h.threads r) (h.framed r.other)
    (h.start r.other).begun_eq hhasty hstep
  have hpeer := h.start r.other
  have hpeer' := h.threads r.other
  have hother : r.other.other = r := by cases r <;> rfl
  rw [hother, ← htaken, ← hbegun] at hpeer
  constructor
  · intro r'
    rcases eq_or_other r r' with rfl | rfl
    · cases r' <;> exact hs
    · cases r <;> exact hpeer
  · intro r'
    rcases eq_or_other r r' with rfl | rfl
    · cases r' <;> exact ht
    · cases r <;> exact hpeer'
  · intro r'
    rcases eq_or_other r r' with rfl | rfl
    · cases r' <;> exact hout
    · cases r <;> exact hinn

instance (w : ControlChannel) (a : Role × Act) : Decidable (HastyStop w a) :=
  inferInstanceAs (Decidable (a.2 = .stopSession ∧ (w.side a.1).phase = .connectedSet))

/-- The handshake, up to where the client has set `connected_` and the server waits
for its first frame. -/
def handshake : List (Role × Act) :=
  [(.client, .beginHandshake), (.client, .push 20), (.server, .pull 8), (.client, .push 12),
    (.client, .handshakeSent), (.server, .pull 24), (.server, .takeHandshake),
    (.server, .beginHandshake), (.server, .push 32), (.server, .handshakeSent),
    (.client, .pull 32), (.client, .takeHandshake), (.client, .checkStop), (.client, .setConnected),
    (.server, .checkStop), (.server, .setConnected), (.server, .setSession), (.server, .startLoop),
    (.server, .loopTest), (.server, .nothingToSend)]

/-- The client goes on, sends a heartbeat and is stopped. -/
def heartbeatThenStop : List (Role × Act) :=
  handshake ++ [(.client, .setSession), (.client, .startLoop), (.client, .loopTest),
    (.client, .heartbeat 1), (.client, .push 32), (.client, .loopSent), (.server, .pull 32),
    (.server, .loopTake), (.client, .stopExchange), (.client, .stopConnected),
    (.client, .stopSession), (.client, .stopBegin), (.client, .push 32), (.client, .stopSent),
    (.client, .close), (.server, .loopTest), (.server, .nothingToSend), (.server, .pull 32),
    (.server, .loopTake)]

/-- The client is stopped where it has set `connected_` and not `session_id_`. -/
def stopBetweenStores : List (Role × Act) :=
  handshake ++ [(.client, .stopExchange), (.client, .stopConnected), (.client, .stopSession),
    (.client, .stopBegin), (.client, .push 32), (.server, .pull 32), (.server, .loopTake)]

end ControlChannel

end RemoteController
