import RemoteController.Udp.Input

/-!
# Sending over the UDP input channel

`UdpLanTransportBackend::SendState` on a client.  It first tests `connected_`;
later it loads `session_id_`, takes the socket and sends.  Between the two the
other threads may move, so they are two steps: `connected` is the test and
`transmit` the rest.
-/

namespace RemoteController

open Protocol

def WSAENOBUFS : UInt32 := 10055

/-- What `sendto` answers: all 64 bytes are sent, or an error. -/
inductive SendResult where
  | sent
  | error (code : UInt32)
  deriving DecidableEq, Repr

/-- What the input path of a client reads and writes of the backend.
`inputOpen`: `input_socket_` is not `INVALID_SOCKET`. -/
structure ClientOutput where
  connected : Bool := false
  sessionId : UInt32 := 0
  inputOpen : Bool := false
  stopRequested : Bool := false
  disconnectedSignaled : Bool := false
  sentPacketCount : UInt64 := 0
  droppedPacketCount : UInt64 := 0
  lastError : UInt32 := 0
  error : String := ""
  deriving DecidableEq, Repr

namespace ClientOutput

/-- `SignalDisconnected`, up to the call of the disconnect callback. -/
def signalDisconnected (t : ClientOutput) (error : UInt32) (message : String) : ClientOutput :=
  if t.disconnectedSignaled then t
  else { t with
    disconnectedSignaled := true, connected := false, lastError := error, error := message }

/-- `SendState` past its test: the result, and the datagrams that went out. -/
def transmit (t : ClientOutput) (frame : StateFrame) (answer : SendResult) :
    ClientOutput × Bool × List (List UInt8) :=
  if !t.inputOpen then (t, false, [])
  else
    match answer with
    | .sent =>
      ({ t with sentPacketCount := t.sentPacketCount + 1 }, true,
        [(inputDatagram t.sessionId frame).toBytes])
    | .error code =>
      if code == WSAEWOULDBLOCK || code == WSAENOBUFS then
        ({ t with droppedPacketCount := t.droppedPacketCount + 1 }, true, [])
      else (t.signalDisconnected code "The UDP input channel failed.", false, [])

/-- The locked section of `Stop()`. -/
def closeSockets (t : ClientOutput) : ClientOutput :=
  { t with connected := false, inputOpen := false }

/-- **A call of `SendState` sends its frame, under the session id, or nothing.** -/
theorem transmit_sends (t : ClientOutput) (frame : StateFrame) (answer : SendResult) :
    ∀ bytes ∈ (t.transmit frame answer).2.2, bytes = (inputDatagram t.sessionId frame).toBytes := by
  intro bytes hb
  unfold transmit at hb
  by_cases hopen : t.inputOpen = true
  · cases answer with
    | sent =>
      simp only [hopen, Bool.not_true, Bool.false_eq_true, if_false] at hb
      exact List.mem_singleton.mp hb
    | error code =>
      simp only [hopen, Bool.not_true, Bool.false_eq_true, if_false] at hb
      split at hb <;> cases hb
  · rw [if_pos (by simpa using hopen)] at hb
    cases hb

end ClientOutput

end RemoteController
