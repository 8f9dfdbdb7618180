import RemoteController.Lib.Segments
import RemoteController.Udp.Frame

/-!
# The handshake

`StartServerSockets` takes one TCP connection after another until a HELLO with
the right pairing key arrives; `StartClientSockets` sends a HELLO and reads the
answer.  A connection is the stream of bytes its peer sends, in any pieces; the
peer may be anyone.  There is no `Stop` here and no failing `accept` or `send`.

* `serve`: one round of the accept loop; `serve_unpaired` and `serve_paired` say
  what it does, from the bytes of the connection alone.
* `startServerSockets_append`: connections without a right HELLO are answered and
  passed over.
* `Handshaken`: which connection the server accepts, what every connection is
  answered, and what an unmodified client makes of it.
* `handshaken`: it holds for every sequence of connections.
-/

namespace RemoteController

open Lib Protocol

/-! ### The server -/

structure Connection where
  /-- The peer's IPv4 address. -/
  peer : UInt32
  incoming : Segments UInt8

/-- What the accept loop reads and writes.  `expectedPairingKey` is the local
copy, and `hello` the buffer that every connection is read into. -/
structure ServerSockets where
  expectedPairingKey : UInt16
  hello : List UInt8 := List.replicate 32 0
  peerInputAddress : UInt32 := 0
  listening : Bool := true
  connected : Bool := false
  sessionId : UInt32 := 0
  controlMessageCount : UInt64 := 0
  lastError : UInt32 := 0
  error : String := ""
  deriving DecidableEq, Repr

namespace ServerSockets

def setError (s : ServerSockets) (error : UInt32) (message : String) : ServerSockets :=
  { s with connected := false, lastError := error, error := message }

/-- What the server makes of the buffer. -/
inductive Verdict where
  | malformed
  | wrongKey
  | accepted
  deriving DecidableEq, Repr

/-- The tests of the loop, on whether 32 bytes came and on the frame in the
buffer. -/
def verdict (expectedPairingKey : UInt16) (received : Bool) (hello : PlaintextControlFrameV1) :
    Verdict :=
  if !(received && hello.sessionId != 0 && validControlFrame hello .hello hello.sessionId) then
    .malformed
  else if hello.pairingKey != expectedPairingKey then .wrongKey
  else .accepted

/-- The answer to a HELLO with another pairing key. -/
def rejection (sessionId : UInt32) : PlaintextControlFrameV1 :=
  makeControlFrame .error sessionId kControlErrorPairingKeyMismatch

/-- The answer to the HELLO that is accepted. -/
def ack (sessionId : UInt32) : PlaintextControlFrameV1 := makeControlFrame .helloAck sessionId

/-- One round of the accept loop: the frames sent to the connection, and whether
the loop ends. -/
def serve (s : ServerSockets) (c : Connection) :
    ServerSockets × List PlaintextControlFrameV1 × Bool :=
  let (bytes, received, _) := c.incoming.readExactly 32
  let s := { s with hello := bytes ++ s.hello.drop bytes.length }
  let hello := PlaintextControlFrameV1.ofBytes s.hello
  match verdict s.expectedPairingKey received hello with
  | .malformed => (s, [], false)
  | .wrongKey =>
    (s.setError kPairingKeyMismatchError "A client presented a wrong pairing key and was rejected.",
      [rejection hello.sessionId], false)
  | .accepted =>
    ({ s with
        peerInputAddress := c.peer, connected := true, error := "", lastError := 0
        listening := false, sessionId := hello.sessionId
        controlMessageCount := s.controlMessageCount + 1 }, [ack hello.sessionId], true)

/-- The accept loop, for as long as connections come: the state, what each
connection it took was sent, and whether `StartServerSockets` has returned
true. -/
def startServerSockets (s : ServerSockets) :
    List Connection → ServerSockets × List (List PlaintextControlFrameV1) × Bool
  | [] => (s, [], false)
  | c :: rest =>
    let (t, reply, accepted) := s.serve c
    if accepted then (t, [reply], true)
    else
      let (u, replies, result) := t.startServerSockets rest
      (u, reply :: replies, result)

end ServerSockets

/-! ### The client -/

/-- What `StartClientSockets` writes. -/
structure ClientSockets where
  connected : Bool := false
  sessionId : UInt32 := 0
  controlMessageCount : UInt64 := 0
  lastError : UInt32 := 0
  error : String := ""
  deriving DecidableEq, Repr

/-- A call of `StartClient`: its pairing key, the value `RandomSessionId` draws,
and what `WSAGetLastError` says if the handshake fails. -/
structure ClientStart where
  pairingKey : UInt16
  random : UInt32
  wsaError : UInt32
  deriving DecidableEq, Repr

namespace ClientStart

def sessionId (k : ClientStart) : UInt32 := randomSessionId k.random

def hello (k : ClientStart) : PlaintextControlFrameV1 :=
  makeControlFrame .hello k.sessionId 0 {} k.pairingKey

/-- `SetError` after a handshake that failed. -/
def failed (k : ClientStart) : ClientSockets where
  lastError := if k.wsaError == 0 then WSAEPROTONOSUPPORT else k.wsaError
  error := "The trusted-LAN control handshake failed."

/-- What `StartClientSockets` makes of the answer to its HELLO: the state and the
result. -/
def handleResponse (k : ClientStart) (received : Bool) (response : PlaintextControlFrameV1) :
    ClientSockets × Bool :=
  if !received then (k.failed, false)
  else if pairingMismatchResponse response k.sessionId then
    ({ lastError := kPairingKeyMismatchError
       error := "The pairing key did not match the server." }, false)
  else if !validControlFrame response .helloAck k.sessionId then (k.failed, false)
  else ({ connected := true, sessionId := k.sessionId, controlMessageCount := 1 }, true)

/-- The handshake of `StartClientSockets`, once the HELLO is sent, from what
arrives on the connection. -/
def startClientSockets (k : ClientStart) (arriving : Segments UInt8) : ClientSockets × Bool :=
  let (bytes, received, _) := arriving.readExactly 32
  k.handleResponse received (.ofBytes bytes)

end ClientStart

/-! ### What the bytes say -/

/-- The frame in the first 32 bytes. -/
def firstFrame (bytes : List UInt8) : PlaintextControlFrameV1 := .ofBytes (bytes.take 32)

/-- The first 32 bytes are a HELLO: correct magic, version, length and type, no
flags, and a session id. -/
structure WellFormedHello (bytes : List UInt8) : Prop where
  length : 32 ≤ bytes.length
  magic : (firstFrame bytes).magic = kControlMagic
  version : (firstFrame bytes).version = kProtocolVersion
  flags : (firstFrame bytes).flags = 0
  frameLength : (firstFrame bytes).frameLength = kControlFrameSize
  messageType : (firstFrame bytes).messageType = ControlMessageType.hello.code
  sessionId : (firstFrame bytes).sessionId ≠ 0

theorem wellFormedHello_iff (bytes : List UInt8) : WellFormedHello bytes ↔
    (decide (32 ≤ bytes.length) && (firstFrame bytes).sessionId != 0 &&
      validControlFrame (firstFrame bytes) .hello (firstFrame bytes).sessionId) = true := by
  simp only [validControlFrame, Bool.and_eq_true, decide_eq_true_eq, bne_iff_ne, beq_iff_eq]
  constructor
  · rintro ⟨hl, hm, hv, hf, hfl, ht, hs⟩
    exact ⟨⟨hl, hs⟩, ⟨⟨⟨⟨⟨hm, hv⟩, hf⟩, hfl⟩, ht⟩, trivial⟩⟩
  · rintro ⟨⟨hl, hs⟩, ⟨⟨⟨⟨⟨hm, hv⟩, hf⟩, hfl⟩, ht⟩, _⟩⟩
    exact ⟨hl, hm, hv, hf, hfl, ht, hs⟩

instance (bytes : List UInt8) : Decidable (WellFormedHello bytes) :=
  decidable_of_iff' _ (wellFormedHello_iff bytes)

/-- The first 32 bytes are a HELLO with the pairing key `key`. -/
def Paired (key : UInt16) (bytes : List UInt8) : Prop :=
  WellFormedHello bytes ∧ (firstFrame bytes).pairingKey = key

instance (key : UInt16) (bytes : List UInt8) : Decidable (Paired key bytes) :=
  inferInstanceAs (Decidable (_ ∧ _))

/-- What the server sends to a connection it does not accept: a rejection if the
bytes are a HELLO, else nothing. -/
def turnedAway (bytes : List UInt8) : List PlaintextControlFrameV1 :=
  if WellFormedHello bytes then [ServerSockets.rejection (firstFrame bytes).sessionId] else []

/-! ### One connection -/

namespace ServerSockets

/-- **The verdict is read off the bytes of the connection.** -/
theorem serve_eq (s : ServerSockets) (c : Connection) :
    ∃ buffer, s.serve c =
      match verdict s.expectedPairingKey (decide (32 ≤ c.incoming.stream.length))
          (firstFrame c.incoming.stream) with
      | .malformed => ({ s with hello := buffer }, [], false)
      | .wrongKey =>
        ({ s with hello := buffer }.setError kPairingKeyMismatchError
            "A client presented a wrong pairing key and was rejected.",
          [rejection (firstFrame c.incoming.stream).sessionId], false)
      | .accepted =>
        ({ s with
            hello := buffer, peerInputAddress := c.peer, connected := true, error := ""
            lastError := 0, listening := false, sessionId := (firstFrame c.incoming.stream).sessionId
            controlMessageCount := s.controlMessageCount + 1 },
          [ack (firstFrame c.incoming.stream).sessionId], true) := by
  refine ⟨c.incoming.stream.take 32 ++ s.hello.drop (c.incoming.stream.take 32).length, ?_⟩
  rw [serve]
  simp only [Segments.readExactly_bytes, Segments.readExactly_ok]
  by_cases hlen : 32 ≤ c.incoming.stream.length
  · have htake : (c.incoming.stream.take 32).length = 32 := by rw [List.length_take]; omega
    have hhello : PlaintextControlFrameV1.ofBytes (c.incoming.stream.take 32 ++
        s.hello.drop (c.incoming.stream.take 32).length) = firstFrame c.incoming.stream := by
      rw [← PlaintextControlFrameV1.ofBytes_take, List.take_left' htake, firstFrame]
    rw [hhello]
  · -- too few bytes: the frame in the buffer is not looked at
    have hshort : ∀ key frame, verdict key (decide (32 ≤ c.incoming.stream.length)) frame =
        .malformed := by
      intro key frame
      simp [verdict, hlen]
    rw [hshort, hshort]

theorem serve_unpaired (s : ServerSockets) {c : Connection}
    (h : ¬ Paired s.expectedPairingKey c.incoming.stream) :
    ∃ t, s.serve c = (t, turnedAway c.incoming.stream, false) ∧
      t.expectedPairingKey = s.expectedPairingKey := by
  obtain ⟨buffer, he⟩ := s.serve_eq c
  rw [he]
  by_cases hw : WellFormedHello c.incoming.stream
  · have hk : (firstFrame c.incoming.stream).pairingKey ≠ s.expectedPairingKey :=
      fun hk => h ⟨hw, hk⟩
    have hv : verdict s.expectedPairingKey (decide (32 ≤ c.incoming.stream.length))
        (firstFrame c.incoming.stream) = .wrongKey := by
      rw [verdict, (wellFormedHello_iff _).mp hw]
      simp [hk]
    rw [hv, turnedAway, if_pos hw]
    exact ⟨_, rfl, rfl⟩
  · have hv : verdict s.expectedPairingKey (decide (32 ≤ c.incoming.stream.length))
        (firstFrame c.incoming.stream) = .malformed := by
      rw [wellFormedHello_iff, Bool.not_eq_true] at hw
      rw [verdict, hw]
      rfl
    rw [hv, turnedAway, if_neg hw]
    exact ⟨_, rfl, rfl⟩

theorem serve_paired (s : ServerSockets) {c : Connection}
    (h : Paired s.expectedPairingKey c.incoming.stream) :
    ∃ t, s.serve c = (t, [ack (firstFrame c.incoming.stream).sessionId], true) ∧
      t.sessionId = (firstFrame c.incoming.stream).sessionId ∧ t.connected = true ∧
      t.lastError = 0 ∧ t.peerInputAddress = c.peer := by
  obtain ⟨buffer, he⟩ := s.serve_eq c
  have hv : verdict s.expectedPairingKey (decide (32 ≤ c.incoming.stream.length))
      (firstFrame c.incoming.stream) = .accepted := by
    rw [verdict, (wellFormedHello_iff _).mp h.1]
    simp [h.2]
  rw [he, hv]
  exact ⟨_, rfl, rfl, rfl, rfl, rfl⟩

/-! ### The loop -/

/-- **Connections without a right HELLO are answered and passed over.** -/
theorem startServerSockets_append : ∀ (before rest : List Connection) (s : ServerSockets),
    (∀ c ∈ before, ¬ Paired s.expectedPairingKey c.incoming.stream) →
    ∃ t : ServerSockets, t.expectedPairingKey = s.expectedPairingKey ∧
      s.startServerSockets (before ++ rest) =
        ((t.startServerSockets rest).1,
          before.map (fun c => turnedAway c.incoming.stream) ++ (t.startServerSockets rest).2.1,
          (t.startServerSockets rest).2.2) := by
  intro before rest
  induction before with
  | nil => intro s _; exact ⟨s, rfl, rfl⟩
  | cons c before ih =>
    intro s h
    obtain ⟨t, ht, hkey⟩ := s.serve_unpaired (h c List.mem_cons_self)
    obtain ⟨u, hkey', hu⟩ := ih t fun b hb => by
      rw [hkey]; exact h b (List.mem_cons_of_mem _ hb)
    refine ⟨u, hkey'.trans hkey, ?_⟩
    rw [List.cons_append, startServerSockets, ht]
    simp only [Bool.false_eq_true, if_false, hu]
    rfl

end ServerSockets

/-! ### The statement -/

/-- What the server sends on the connection `i`. -/
def bytesTo (s : ServerSockets) (cs : List Connection) (i : Nat) : List UInt8 :=
  ((s.startServerSockets cs).2.1[i]?.getD []).flatMap PlaintextControlFrameV1.toBytes

/-- An unmodified client on the connection `i`: the server has from it a beginning
of its HELLO, and it has from the server a beginning of what is sent to it. -/
structure ClientAt (s : ServerSockets) (cs : List Connection) (i : Nat) (k : ClientStart)
    (arriving : Segments UInt8) : Prop where
  sent : ∃ c, cs[i]? = some c ∧ c.incoming.stream <+: k.hello.toBytes
  arrives : arriving.stream <+: bytesTo s cs i

/-- The server took the connection `i` and rejected its HELLO for the pairing
key. -/
def RejectedAt (s : ServerSockets) (cs : List Connection) (i : Nat) : Prop :=
  i < (s.startServerSockets cs).2.1.length ∧ ∃ c, cs[i]? = some c ∧
    WellFormedHello c.incoming.stream ∧
      (firstFrame c.incoming.stream).pairingKey ≠ s.expectedPairingKey

/-- **The handshake is decided by the bytes, and both sides agree on it.** -/
structure Handshaken (s : ServerSockets) (cs : List Connection) : Prop where
  /-- The first connection with a right HELLO is accepted, after the ones before
  it were answered... -/
  accepts : ∀ before c after, cs = before ++ c :: after →
    (∀ b ∈ before, ¬ Paired s.expectedPairingKey b.incoming.stream) →
    Paired s.expectedPairingKey c.incoming.stream →
    (s.startServerSockets cs).2.2 = true ∧
      (s.startServerSockets cs).1.sessionId = (firstFrame c.incoming.stream).sessionId ∧
      (s.startServerSockets cs).1.connected = true ∧ (s.startServerSockets cs).1.lastError = 0 ∧
      (s.startServerSockets cs).2.1 = before.map (fun b => turnedAway b.incoming.stream) ++
        [[ServerSockets.ack (firstFrame c.incoming.stream).sessionId]]
  /-- ...and without one the server goes on listening. -/
  waits : (∀ c ∈ cs, ¬ Paired s.expectedPairingKey c.incoming.stream) →
    (s.startServerSockets cs).2.2 = false ∧
      (s.startServerSockets cs).2.1 = cs.map fun c => turnedAway c.incoming.stream
  one_client : ∀ {i j k k' a a'}, ClientAt s cs i k a → ClientAt s cs j k' a' →
    (k.startClientSockets a).2 = true → (k'.startClientSockets a').2 = true → i = j
  same_session : ∀ {i k a}, ClientAt s cs i k a → (k.startClientSockets a).2 = true →
    (s.startServerSockets cs).2.2 = true ∧
      (k.startClientSockets a).1.sessionId = (s.startServerSockets cs).1.sessionId
  /-- A client that reports a wrong pairing key was rejected for it; Winsock has no
  such error code... -/
  rejected : ∀ {i k a}, ClientAt s cs i k a → k.wsaError ≠ kPairingKeyMismatchError →
    (k.startClientSockets a).1.lastError = kPairingKeyMismatchError → RejectedAt s cs i
  /-- ...and a client that was, and to which the answer comes, reports it. -/
  reported : ∀ {i k a}, ClientAt s cs i k a → a.stream = bytesTo s cs i → RejectedAt s cs i →
    (k.startClientSockets a).1.lastError = kPairingKeyMismatchError

/-! ### The proof -/

theorem ServerSockets.startServerSockets_cons_paired (s : ServerSockets) {c : Connection}
    (h : Paired s.expectedPairingKey c.incoming.stream) (rest : List Connection) :
    (s.startServerSockets (c :: rest)).2 =
        ([[ServerSockets.ack (firstFrame c.incoming.stream).sessionId]], true) ∧
      (s.startServerSockets (c :: rest)).1.sessionId = (firstFrame c.incoming.stream).sessionId ∧
      (s.startServerSockets (c :: rest)).1.connected = true ∧
      (s.startServerSockets (c :: rest)).1.lastError = 0 := by
  obtain ⟨t, ht, hs, hc, he, _⟩ := s.serve_paired h
  rw [startServerSockets, ht]
  exact ⟨rfl, hs, hc, he⟩

/-- **What the connection `i` is sent.** -/
theorem reply_cases : ∀ (cs : List Connection) (s : ServerSockets) {i : Nat} {c : Connection},
    cs[i]? = some c →
    (Paired s.expectedPairingKey c.incoming.stream ∧
      (s.startServerSockets cs).2.1[i]? =
        some [ServerSockets.ack (firstFrame c.incoming.stream).sessionId] ∧
      (s.startServerSockets cs).2.1.length = i + 1 ∧ (s.startServerSockets cs).2.2 = true ∧
      (s.startServerSockets cs).1.sessionId = (firstFrame c.incoming.stream).sessionId) ∨
    (¬ Paired s.expectedPairingKey c.incoming.stream ∧
      (s.startServerSockets cs).2.1[i]? = some (turnedAway c.incoming.stream)) ∨
    (s.startServerSockets cs).2.1[i]? = none := by
  intro cs
  induction cs with
  | nil => intro s i c hc; simp at hc
  | cons d cs ih =>
    intro s i c hc
    by_cases hd : Paired s.expectedPairingKey d.incoming.stream
    · obtain ⟨h2, hs, _, _⟩ := s.startServerSockets_cons_paired hd cs
      cases i with
      | zero =>
        obtain rfl : d = c := by simpa using hc
        exact Or.inl ⟨hd, by rw [h2]; rfl, by rw [h2]; rfl, by rw [h2], hs⟩
      | succ i => exact Or.inr (Or.inr (by rw [h2]; rfl))
    · obtain ⟨t, hkey, ht⟩ := s.startServerSockets_append [d] cs (by simpa using hd)
      rw [List.singleton_append] at ht
      rw [ht, ← hkey]
      cases i with
      | zero =>
        obtain rfl : d = c := by simpa using hc
        exact Or.inr (Or.inl ⟨hkey ▸ hd, rfl⟩)
      | succ i =>
        have := ih t (i := i) (by simpa using hc)
        simpa only [List.map_cons, List.map_nil, List.singleton_append, List.getElem?_cons_succ,
          List.length_cons, Nat.add_right_cancel_iff] using this

/-- A client's HELLO, once whole, is a HELLO with its session id. -/
theorem firstFrame_prefix {k : ClientStart} {bytes : List UInt8} (h : bytes <+: k.hello.toBytes)
    (hlen : 32 ≤ bytes.length) : firstFrame bytes = k.hello := by
  have hbytes : bytes = k.hello.toBytes :=
    h.eq_of_length_le (by rw [PlaintextControlFrameV1.toBytes_length]; exact hlen)
  rw [hbytes, firstFrame, PlaintextControlFrameV1.ofBytes_take,
    PlaintextControlFrameV1.ofBytes_toBytes]

/-! ### The client -/

namespace ClientStart

/-- A client that has no whole frame fails, with an error of Winsock. -/
theorem startClientSockets_short (k : ClientStart) {a : Segments UInt8} (h : a.stream.length < 32) :
    k.startClientSockets a = (k.failed, false) := by
  have hok : decide (32 ≤ a.stream.length) = false := by
    rw [decide_eq_false_iff_not]
    omega
  show k.handleResponse (a.readExactly 32).2.1 _ = _
  rw [Segments.readExactly_ok, hok]
  rfl

theorem startClientSockets_frame (k : ClientStart) {a : Segments UInt8}
    {frame : PlaintextControlFrameV1} (h : a.stream = frame.toBytes) :
    k.startClientSockets a = k.handleResponse true frame := by
  have hlen : a.stream.length = 32 := by rw [h, PlaintextControlFrameV1.toBytes_length]
  show k.handleResponse (a.readExactly 32).2.1 (.ofBytes (a.readExactly 32).1) = _
  rw [Segments.readExactly_ok, Segments.readExactly_bytes, PlaintextControlFrameV1.ofBytes_take, h,
    PlaintextControlFrameV1.ofBytes_toBytes, PlaintextControlFrameV1.toBytes_length]
  rfl

theorem failed_lastError {k : ClientStart} (h : k.wsaError ≠ kPairingKeyMismatchError) :
    k.failed.lastError ≠ kPairingKeyMismatchError := by
  rw [failed]
  split
  · decide
  · exact h

theorem handleResponse_rejection (k : ClientStart) :
    (k.handleResponse true (ServerSockets.rejection k.sessionId)).2 = false ∧
      (k.handleResponse true (ServerSockets.rejection k.sessionId)).1.lastError =
        kPairingKeyMismatchError := by
  have hmis : pairingMismatchResponse (ServerSockets.rejection k.sessionId) k.sessionId = true :=
    (pairingMismatchResponse_make ..).mpr ⟨rfl, rfl, rfl⟩
  rw [handleResponse, hmis]
  exact ⟨rfl, rfl⟩

theorem handleResponse_ack (k : ClientStart) :
    (k.handleResponse true (ServerSockets.ack k.sessionId)).1.lastError = 0 ∧
      (k.handleResponse true (ServerSockets.ack k.sessionId)).1.sessionId = k.sessionId := by
  have hmis : pairingMismatchResponse (ServerSockets.ack k.sessionId) k.sessionId = false := by
    rw [← Bool.not_eq_true, ServerSockets.ack, pairingMismatchResponse_make]
    rintro ⟨h, _⟩
    cases h
  have hvalid : validControlFrame (ServerSockets.ack k.sessionId) .helloAck k.sessionId = true :=
    (validControlFrame_make ..).mpr ⟨rfl, rfl⟩
  rw [handleResponse, hmis, hvalid]
  exact ⟨rfl, rfl⟩

end ClientStart

/-- **What an unmodified client can find in its answer.** -/
theorem ClientAt.outcome {s : ServerSockets} {cs : List Connection} {i : Nat} {k : ClientStart}
    {a : Segments UInt8} (h : ClientAt s cs i k a) :
    (k.startClientSockets a = (k.failed, false) ∧
      (a.stream = bytesTo s cs i → ¬ RejectedAt s cs i)) ∨
    (RejectedAt s cs i ∧
      k.startClientSockets a = k.handleResponse true (ServerSockets.rejection k.sessionId)) ∨
    (k.startClientSockets a = k.handleResponse true (ServerSockets.ack k.sessionId) ∧
      ¬ RejectedAt s cs i ∧ (s.startServerSockets cs).2.1.length = i + 1 ∧
      (s.startServerSockets cs).2.2 = true ∧
      (s.startServerSockets cs).1.sessionId = k.sessionId) := by
  obtain ⟨⟨c, hc, hsent⟩, harrives⟩ := h
  have hframe : WellFormedHello c.incoming.stream → firstFrame c.incoming.stream = k.hello :=
    fun hw => firstFrame_prefix hsent hw.length
  -- a beginning of one frame is the whole frame, or too short
  have hone : ∀ frame : PlaintextControlFrameV1, bytesTo s cs i = frame.toBytes →
      a.stream.length < 32 ∧ a.stream ≠ bytesTo s cs i ∨ a.stream = frame.toBytes := by
    intro frame hf
    rw [hf] at harrives ⊢
    by_cases hlen : a.stream.length < 32
    · refine Or.inl ⟨hlen, fun he => ?_⟩
      rw [he, PlaintextControlFrameV1.toBytes_length] at hlen
      omega
    · exact Or.inr (harrives.eq_of_length_le
        (by rw [PlaintextControlFrameV1.toBytes_length]; omega))
  rcases reply_cases cs s hc with ⟨hpaired, hreply, hlen, hok, hsid⟩ | ⟨hpaired, hreply⟩ | hreply
  · have hhello := hframe hpaired.1
    have hnot : ¬ RejectedAt s cs i := by
      rintro ⟨_, c', hc', _, hkey⟩
      obtain rfl := Option.some.inj (hc.symm.trans hc')
      exact hkey hpaired.2
    have hbytes : bytesTo s cs i = (ServerSockets.ack k.sessionId).toBytes := by
      rw [bytesTo, hreply, hhello]
      exact List.append_nil _
    rcases hone _ hbytes with ⟨hs, _⟩ | ha
    · exact Or.inl ⟨k.startClientSockets_short hs, fun _ => hnot⟩
    · refine Or.inr (Or.inr ⟨k.startClientSockets_frame ha, hnot, hlen, hok, ?_⟩)
      rw [hsid, hhello]
      rfl
  · by_cases hw : WellFormedHello c.incoming.stream
    · have hhello := hframe hw
      have hrej : RejectedAt s cs i :=
        ⟨(List.getElem?_eq_some_iff.mp hreply).1, c, hc, hw, fun hkey => hpaired ⟨hw, hkey⟩⟩
      have hbytes : bytesTo s cs i = (ServerSockets.rejection k.sessionId).toBytes := by
        rw [bytesTo, hreply, turnedAway, if_pos hw, hhello]
        exact List.append_nil _
      rcases hone _ hbytes with ⟨hs, hne⟩ | ha
      · exact Or.inl ⟨k.startClientSockets_short hs, fun he => absurd he hne⟩
      · exact Or.inr (Or.inl ⟨hrej, k.startClientSockets_frame ha⟩)
    · have hbytes : bytesTo s cs i = [] := by
        rw [bytesTo, hreply, turnedAway, if_neg hw]
        rfl
      rw [hbytes, List.prefix_nil] at harrives
      refine Or.inl ⟨k.startClientSockets_short (by rw [harrives]; decide), fun _ => ?_⟩
      rintro ⟨_, c', hc', hw', _⟩
      obtain rfl := Option.some.inj (hc.symm.trans hc')
      exact hw hw'
  · have hbytes : bytesTo s cs i = [] := by
      rw [bytesTo, hreply]
      rfl
    rw [hbytes, List.prefix_nil] at harrives
    refine Or.inl ⟨k.startClientSockets_short (by rw [harrives]; decide), fun _ => ?_⟩
    rintro ⟨hlt, _⟩
    rw [List.getElem?_eq_none_iff] at hreply
    omega

/-- An accepted client is the one whose connection came last. -/
theorem ClientAt.accepted {s : ServerSockets} {cs : List Connection} {i : Nat} {k : ClientStart}
    {a : Segments UInt8} (h : ClientAt s cs i k a) (hk : (k.startClientSockets a).2 = true) :
    (s.startServerSockets cs).2.1.length = i + 1 ∧ (s.startServerSockets cs).2.2 = true ∧
      (k.startClientSockets a).1.sessionId = (s.startServerSockets cs).1.sessionId := by
  rcases h.outcome with ⟨he, _⟩ | ⟨_, he⟩ | ⟨he, _, hlen, hok, hsid⟩
  · rw [he] at hk
    cases hk
  · rw [he, k.handleResponse_rejection.1] at hk
    cases hk
  · rw [he, hsid]
    exact ⟨hlen, hok, k.handleResponse_ack.2⟩

/-- **Every sequence of connections is handled so.** -/
theorem handshaken (s : ServerSockets) (cs : List Connection) : Handshaken s cs where
  accepts := by
    rintro before c after rfl hbefore hc
    obtain ⟨t, hkey, ht⟩ := s.startServerSockets_append before (c :: after) hbefore
    rw [← hkey] at hc
    obtain ⟨h2, hs, hconn, herr⟩ := t.startServerSockets_cons_paired hc after
    rw [ht, h2]
    exact ⟨rfl, hs, hconn, herr, rfl⟩
  waits := by
    intro h
    obtain ⟨t, _, ht⟩ := s.startServerSockets_append cs [] h
    rw [List.append_nil] at ht
    rw [ht]
    exact ⟨rfl, List.append_nil _⟩
  one_client := by
    intro i j k k' a a' hi hj hk hk'
    have hlen := (hi.accepted hk).1
    have hlen' := (hj.accepted hk').1
    omega
  same_session := fun h hk => (h.accepted hk).2
  rejected := by
    intro i k a h hw herr
    rcases h.outcome with ⟨he, _⟩ | ⟨hrej, _⟩ | ⟨he, _⟩
    · rw [he] at herr
      exact absurd herr (ClientStart.failed_lastError hw)
    · exact hrej
    · rw [he, k.handleResponse_ack.1] at herr
      cases herr
  reported := by
    intro i k a h harr hrej
    rcases h.outcome with ⟨_, hno⟩ | ⟨_, he⟩ | ⟨_, hno, _⟩
    · exact absurd hrej (hno harr)
    · rw [he]
      exact k.handleResponse_rejection.2
    · exact absurd hrej hno

end RemoteController
