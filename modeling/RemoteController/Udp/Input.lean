import RemoteController.Backends

/-!
# The UDP input channel

`UdpLanTransportBackend::SendState` builds a 64-byte datagram, and
`ServerInputLoop` reads datagrams, tests them and hands the frames of the good
ones to the state callback.

* `ServerInput.iteration`: one round of the loop, on what `recvfrom` answered.
* `iteration_cases`: a round hands a frame over, counts a drop, does nothing, or
  leaves the loop.
* `inert_iff`: the datagrams that fail the test leave no trace exactly when no
  datagram of the sequence is longer than the receive buffer.
* `accepts_inputDatagram`: the datagram that `SendState` builds passes the test,
  and its frame is the one that was sent.
-/

namespace RemoteController

open Lib Protocol

/-! ### The datagrams -/

/-- The datagram `SendState` builds. -/
def inputDatagram (sessionId : UInt32) (frame : StateFrame) : InputDatagramV1 where
  header :=
    { magic := kInputMagic
      version := kProtocolVersion
      messageType := MessageType.fullState.code
      flags := kInputFlagTrustedLanPlaintext
      packetLength := kInputDatagramSize
      headerLength := kInputHeaderSize
      sessionId := sessionId
      sequence := frame.sequence
      timestampUs := frame.timestampUs }
  encryptedState := frame.state.toBytes
  authenticationTag := List.replicate 16 0

structure Datagram where
  /-- The sender's IPv4 address. -/
  source : UInt32
  bytes : List UInt8
  deriving DecidableEq, Repr

/-- What `recvfrom` into the 64-byte packet answers. -/
inductive RecvResult where
  | received (source : UInt32) (bytes : List UInt8)
  | error (code : UInt32)
  deriving DecidableEq, Repr

def WSAEWOULDBLOCK : UInt32 := 10035
def WSAEMSGSIZE : UInt32 := 10040
def WSAETIMEDOUT : UInt32 := 10060

/-- A datagram that does not fit the buffer is an error to `recvfrom`. -/
def recvfrom (d : Datagram) : RecvResult :=
  if d.bytes.length ≤ 64 then .received d.source d.bytes else .error WSAEMSGSIZE

/-- `packet`, zeroed before `recvfrom` wrote the bytes into it. -/
def receivedPacket (bytes : List UInt8) : InputDatagramV1 :=
  .ofBytes (bytes ++ List.replicate (64 - bytes.length) 0)

/-- `valid_header`: the test of the loop, apart from the sequence. -/
def validHeader (expectedPeer sessionId source : UInt32) (bytes : List UInt8) : Bool :=
  let packet := receivedPacket bytes
  bytes.length == 64 &&
  source == expectedPeer &&
  packet.header.magic == kInputMagic &&
  packet.header.version == kProtocolVersion &&
  packet.header.messageType == MessageType.fullState.code &&
  packet.header.flags == kInputFlagTrustedLanPlaintext &&
  packet.header.packetLength == kInputDatagramSize &&
  packet.header.headerLength == kInputHeaderSize &&
  packet.header.sessionId == sessionId &&
  packet.authenticationTag.all (· == 0)

/-- The frame the callback is given for a good packet. -/
def frameOf (bytes : List UInt8) : StateFrame :=
  let packet := receivedPacket bytes
  { state := .ofBytes packet.encryptedState
    sequence := packet.header.sequence
    timestampUs := packet.header.timestampUs }

theorem receivedPacket_of_length {bytes : List UInt8} (h : bytes.length = 64) :
    receivedPacket bytes = .ofBytes bytes := by
  rw [receivedPacket, h, Nat.sub_self, List.replicate_zero, List.append_nil]

theorem receivedPacket_inputDatagram (sessionId : UInt32) (frame : StateFrame) :
    (inputDatagram sessionId frame).toBytes.length = 64 ∧
      receivedPacket (inputDatagram sessionId frame).toBytes = inputDatagram sessionId frame := by
  have hlen : (inputDatagram sessionId frame).toBytes.length = 64 := by
    simp [InputDatagramV1.toBytes, inputDatagram]
  refine ⟨hlen, ?_⟩
  rw [receivedPacket_of_length hlen]
  exact InputDatagramV1.ofBytes_toBytes _ (by simp [inputDatagram]) (by simp [inputDatagram])

/-- **What `SendState` sends is accepted, and read as it was sent.** -/
theorem accepts_inputDatagram (peer sessionId : UInt32) (frame : StateFrame) :
    validHeader peer sessionId peer (inputDatagram sessionId frame).toBytes = true ∧
      frameOf (inputDatagram sessionId frame).toBytes = frame := by
  obtain ⟨hlen, hpacket⟩ := receivedPacket_inputDatagram sessionId frame
  constructor
  · simp only [validHeader, hlen, hpacket]
    simp [inputDatagram]
  · rw [frameOf, hpacket]
    simp [inputDatagram, GamepadStateV1.ofBytes_toBytes]

/-! ### The loop -/

/-- What `ServerInputLoop` reads and writes of the backend.  `left`: the loop has
ended by `break`. -/
structure ServerInput where
  expectedPeer : UInt32
  sessionId : UInt32
  stateCallback : Bool := true
  stopRequested : Bool := false
  connected : Bool := true
  disconnectedSignaled : Bool := false
  highestReceivedSequence : UInt64 := 0
  receivedPacketCount : UInt64 := 0
  droppedPacketCount : UInt64 := 0
  lastError : UInt32 := 0
  error : String := ""
  left : Bool := false
  deriving DecidableEq, Repr

/-- What the loop gives to the session above. -/
inductive InputEvent where
  | state (frame : StateFrame)
  | disconnected
  deriving DecidableEq, Repr

namespace ServerInput

/-- `SignalDisconnected`, where the disconnect callback is set. -/
def signalDisconnected (s : ServerInput) (error : UInt32) (message : String) :
    ServerInput × List InputEvent :=
  if s.disconnectedSignaled then (s, [])
  else
    ({ s with
        disconnectedSignaled := true, connected := false, lastError := error, error := message },
      if s.stopRequested then [] else [.disconnected])

/-- The condition of the `while`. -/
def looping (s : ServerInput) : Bool := !s.left && !s.stopRequested && s.connected

/-- One round of the loop. -/
def iteration (s : ServerInput) : RecvResult → ServerInput × List InputEvent
  | .error code =>
    if code == WSAETIMEDOUT || code == WSAEWOULDBLOCK then (s, [])
    else if s.stopRequested then ({ s with left := true }, [])
    else
      let (t, events) := s.signalDisconnected code "The UDP input receiver failed."
      ({ t with left := true }, events)
  | .received source bytes =>
    if !validHeader s.expectedPeer s.sessionId source bytes ||
        decide ((frameOf bytes).sequence ≤ s.highestReceivedSequence) then
      ({ s with droppedPacketCount := s.droppedPacketCount + 1 }, [])
    else
      let t := { s with highestReceivedSequence := (frameOf bytes).sequence }
      if t.stateCallback then
        ({ t with receivedPacketCount := t.receivedPacketCount + 1 }, [.state (frameOf bytes)])
      else (t, [])

/-- The loop, for as long as `recvfrom` answers. -/
def serverInputLoop (s : ServerInput) : List RecvResult → ServerInput × List InputEvent
  | [] => (s, [])
  | r :: rest =>
    if s.looping then
      let (t, events) := s.iteration r
      let (u, later) := t.serverInputLoop rest
      (u, events ++ later)
    else (s, [])

/-- The datagram passes the test, apart from its sequence. -/
def valid (s : ServerInput) (d : Datagram) : Bool :=
  validHeader s.expectedPeer s.sessionId d.source d.bytes

/-- **The datagrams that fail the test are inert**: without them the loop hands
over the same frames and signals, and ends in the same state up to
`dropped_packet_count_`; and it keeps running. -/
def Inert (s : ServerInput) (ds : List Datagram) : Prop :=
  let run := s.serverInputLoop (ds.map recvfrom)
  let clean := s.serverInputLoop ((ds.filter s.valid).map recvfrom)
  run.2 = clean.2 ∧
    { run.1 with droppedPacketCount := 0 } = { clean.1 with droppedPacketCount := 0 } ∧
    run.1.looping = true

/-! ### One round -/

/-- **The outcomes of a round on a datagram.** -/
theorem iteration_cases (s : ServerInput) (d : Datagram) :
    (d.bytes.length ≤ 64 ∧ (s.valid d = false ∨ (frameOf d.bytes).sequence ≤ s.highestReceivedSequence) ∧
      s.iteration (recvfrom d) = ({ s with droppedPacketCount := s.droppedPacketCount + 1 }, [])) ∨
    (s.valid d = true ∧ s.highestReceivedSequence < (frameOf d.bytes).sequence ∧
      s.iteration (recvfrom d) =
        if s.stateCallback then
          ({ s with
              highestReceivedSequence := (frameOf d.bytes).sequence
              receivedPacketCount := s.receivedPacketCount + 1 }, [.state (frameOf d.bytes)])
        else ({ s with highestReceivedSequence := (frameOf d.bytes).sequence }, [])) ∨
    (64 < d.bytes.length ∧ (s.iteration (recvfrom d)).1.left = true) := by
  by_cases hlen : d.bytes.length ≤ 64
  · rw [recvfrom, if_pos hlen, iteration]
    by_cases hv : s.valid d = true
    · by_cases hs : (frameOf d.bytes).sequence ≤ s.highestReceivedSequence
      · exact Or.inl ⟨hlen, Or.inr hs, by simp [hs]⟩
      · have hv' : validHeader s.expectedPeer s.sessionId d.source d.bytes = true := hv
        exact Or.inr (Or.inl ⟨hv, UInt64.not_le.mp hs, by simp [hv', hs]⟩)
    · have hv' : validHeader s.expectedPeer s.sessionId d.source d.bytes = false := by
        simpa [valid] using hv
      exact Or.inl ⟨hlen, Or.inl hv', by simp [hv']⟩
  · right; right
    refine ⟨by omega, ?_⟩
    rw [recvfrom, if_neg hlen, iteration]
    have hcode : (WSAEMSGSIZE == WSAETIMEDOUT || WSAEMSGSIZE == WSAEWOULDBLOCK) = false := by decide
    rw [hcode]
    by_cases hstop : s.stopRequested = true
    · simp [hstop]
    · simp [hstop]

/-- A round on which `recvfrom` failed hands no frame over. -/
theorem iteration_error (s : ServerInput) (code : UInt32) :
    (s.iteration (.error code)).1.highestReceivedSequence = s.highestReceivedSequence ∧
      (s.iteration (.error code)).1.stateCallback = s.stateCallback ∧
      ∀ e ∈ (s.iteration (.error code)).2, e = .disconnected := by
  simp only [iteration, signalDisconnected]
  split
  · exact ⟨rfl, rfl, nofun⟩
  · split
    · exact ⟨rfl, rfl, nofun⟩
    · split
      · exact ⟨rfl, rfl, nofun⟩
      · exact ⟨rfl, rfl, fun e he => List.mem_singleton.mp he⟩

theorem length_of_valid {s : ServerInput} {d : Datagram} (h : s.valid d = true) :
    d.bytes.length = 64 := by
  simp only [valid, validHeader, Bool.and_eq_true, beq_iff_eq] at h
  exact h.1.1.1.1.1.1.1.1.1

/-! ### Runs of the loop -/

/-- The state of the backend up to `dropped_packet_count_`. -/
def undropped (s : ServerInput) : ServerInput := { s with droppedPacketCount := 0 }

@[simp] theorem undropped_looping (s : ServerInput) : s.undropped.looping = s.looping := rfl

/-- A round does not look at `dropped_packet_count_`. -/
theorem iteration_undropped {s t : ServerInput} (h : s.undropped = t.undropped) (r : RecvResult) :
    (s.iteration r).2 = (t.iteration r).2 ∧
      (s.iteration r).1.undropped = (t.iteration r).1.undropped := by
  have ht : t = { s with droppedPacketCount := t.droppedPacketCount } :=
    congrArg (fun u : ServerInput => { u with droppedPacketCount := t.droppedPacketCount }) h.symm
  rw [ht]
  cases r with
  | error code =>
    simp only [iteration, signalDisconnected]
    split
    · exact ⟨rfl, rfl⟩
    · split
      · exact ⟨rfl, rfl⟩
      · split <;> exact ⟨rfl, rfl⟩
  | received source bytes =>
    simp only [iteration]
    split
    · exact ⟨rfl, rfl⟩
    · split <;> exact ⟨rfl, rfl⟩

theorem iteration_valid (s : ServerInput) (d : Datagram) (hd : d.bytes.length ≤ 64) :
    (s.iteration (recvfrom d)).1.valid = s.valid ∧
      (s.iteration (recvfrom d)).1.looping = s.looping := by
  rcases s.iteration_cases d with ⟨_, _, he⟩ | ⟨_, _, he⟩ | ⟨hl, _⟩
  · rw [he]; exact ⟨rfl, rfl⟩
  · rw [he]; split <;> exact ⟨rfl, rfl⟩
  · omega

theorem serverInputLoop_cons {s : ServerInput} (h : s.looping = true) (r : RecvResult)
    (rest : List RecvResult) :
    s.serverInputLoop (r :: rest) = (((s.iteration r).1.serverInputLoop rest).1,
      (s.iteration r).2 ++ ((s.iteration r).1.serverInputLoop rest).2) := by
  rw [serverInputLoop, if_pos h]

theorem serverInputLoop_stopped {s : ServerInput} (h : s.looping = false) :
    ∀ rs, s.serverInputLoop rs = (s, []) := by
  intro rs
  cases rs with
  | nil => rfl
  | cons r rest => rw [serverInputLoop, h]; rfl

/-- While every datagram fits the buffer, those that fail the test can be taken
out. -/
theorem serverInputLoop_filter : ∀ (ds : List Datagram) (s t : ServerInput),
    s.undropped = t.undropped → s.looping = true → (∀ d ∈ ds, d.bytes.length ≤ 64) →
    (s.serverInputLoop (ds.map recvfrom)).2 = (t.serverInputLoop ((ds.filter s.valid).map recvfrom)).2 ∧
      (s.serverInputLoop (ds.map recvfrom)).1.undropped =
        (t.serverInputLoop ((ds.filter s.valid).map recvfrom)).1.undropped ∧
      (s.serverInputLoop (ds.map recvfrom)).1.looping = true := by
  intro ds
  induction ds with
  | nil => intro s t h hl _; exact ⟨rfl, h, hl⟩
  | cons d ds ih =>
    intro s t h hl hlen
    have hd : d.bytes.length ≤ 64 := hlen d List.mem_cons_self
    have hds : ∀ e ∈ ds, e.bytes.length ≤ 64 := fun e he => hlen e (List.mem_cons_of_mem _ he)
    obtain ⟨hvalid, hloop⟩ := s.iteration_valid d hd
    rw [List.map_cons, serverInputLoop_cons hl]
    by_cases hv : s.valid d = true
    · have ht : t.looping = true := by rw [← undropped_looping, ← h, undropped_looping, hl]
      obtain ⟨hev, hund⟩ := iteration_undropped h (recvfrom d)
      obtain ⟨h1, h2, h3⟩ := ih _ _ hund (hloop.trans hl) hds
      rw [hvalid] at h1 h2
      rw [List.filter_cons_of_pos hv, List.map_cons, serverInputLoop_cons ht]
      exact ⟨by rw [hev, h1], h2, h3⟩
    · -- a datagram that fails the test is counted and nothing else
      have hdrop : s.iteration (recvfrom d) =
          ({ s with droppedPacketCount := s.droppedPacketCount + 1 }, []) := by
        rcases s.iteration_cases d with ⟨_, _, he⟩ | ⟨hv', _⟩ | ⟨hl', _⟩
        · exact he
        · exact absurd hv' hv
        · omega
      have hund : (s.iteration (recvfrom d)).1.undropped = t.undropped := by rw [hdrop]; exact h
      obtain ⟨h1, h2, h3⟩ := ih _ t hund (hloop.trans hl) hds
      rw [hvalid] at h1 h2
      rw [List.filter_cons_of_neg hv]
      exact ⟨by rw [← h1, hdrop]; rfl, h2, h3⟩

/-- A datagram that does not fit ends the loop. -/
theorem serverInputLoop_oversized : ∀ (ds : List Datagram) (s : ServerInput) {d : Datagram},
    d ∈ ds → 64 < d.bytes.length → (s.serverInputLoop (ds.map recvfrom)).1.looping = false := by
  intro ds
  induction ds with
  | nil => intro s d hd; cases hd
  | cons e ds ih =>
    intro s d hd hlong
    rw [List.map_cons]
    by_cases hl : s.looping = true
    · rw [serverInputLoop_cons hl]
      rcases List.mem_cons.mp hd with rfl | hd
      · rcases s.iteration_cases d with ⟨hd', _⟩ | ⟨hv, _⟩ | ⟨_, hleft⟩
        · omega
        · have := length_of_valid hv
          omega
        · have hstop : (s.iteration (recvfrom d)).1.looping = false := by
            rw [looping, hleft]; rfl
          rw [serverInputLoop_stopped hstop]
          exact hstop
      · exact ih _ hd hlong
    · have hstop : s.looping = false := by simpa using hl
      rw [serverInputLoop_stopped hstop]
      exact hstop

/-- **Invalid datagrams are inert exactly when none of the sequence exceeds the
receive buffer.** -/
theorem inert_iff {s : ServerInput} (h : s.looping = true) (ds : List Datagram) :
    s.Inert ds ↔ ∀ d ∈ ds, d.bytes.length ≤ 64 := by
  constructor
  · rintro ⟨_, _, hloop⟩ d hd
    by_contra hlong
    rw [serverInputLoop_oversized ds s hd (by omega)] at hloop
    cases hloop
  · intro hlen
    exact serverInputLoop_filter ds s s rfl h hlen

/-- A connected server, in session 7 with the peer 10.0.0.2. -/
def listening : ServerInput := { expectedPeer := 0x0200000A, sessionId := 7 }

/-- Three bytes from a host that is not the peer. -/
def runt : Datagram := { source := 0x0900000A, bytes := [1, 2, 3] }

theorem inert_iff_listening : listening.Inert [runt, runt] ∧ listening.valid runt = false :=
  ⟨(inert_iff rfl [runt, runt]).mpr (by decide), rfl⟩

/-- 65 bytes from a host that is not the peer. -/
def stray : Datagram := { source := 0x0900000A, bytes := List.replicate 65 0 }

/-- **One stray datagram ends the session.** -/
theorem stray_disconnects :
    ¬ listening.Inert [stray] ∧
      (listening.serverInputLoop ([stray].map recvfrom)).2 = [.disconnected] ∧
      (listening.serverInputLoop (([stray].filter listening.valid).map recvfrom)).2 = [] := by
  refine ⟨?_, rfl, rfl⟩
  rintro ⟨_, _, hloop⟩
  exact absurd hloop (by decide)

end ServerInput

end RemoteController
