import RemoteController.LanClient.Sending
import RemoteController.LanServer.Receiving

/-!
# Input from end to end

One `LanControllerClient` and one `LanControllerServer` of one session, over a
network that may lose, duplicate, delay and reorder the client's datagrams and
may deliver any other datagram that fails the server's test, those of another
session id among them (`otherSession_fails`).

* `InputPath.system`: the two sides and the network.
* `InOrder`: what the session promises about the frames it applies.
* `inOrder_of_run`: every run with fewer than 2^64 sends keeps it.
-/

namespace RemoteController

open Lib Protocol

structure InputPath where
  client : ClientSide
  server : ServerSide

namespace InputPath

inductive Label where
  | client (a : ClientLabel)
  | server (a : ServerLabel)
  deriving DecidableEq, Repr

/-- What the network may hand to `recvfrom`.  Nothing it carries is used up. -/
def Delivers (s : InputPath) : ServerLabel → Prop
  | .receive d => d.bytes ∈ s.client.sent ∨ s.server.input.valid d = false
  | _ => True

instance (s : InputPath) : ∀ a, Decidable (s.Delivers a)
  | .receive d =>
    inferInstanceAs (Decidable (d.bytes ∈ s.client.sent ∨ s.server.input.valid d = false))
  | .enterLoop | .receiveError _ | .callback _ _ | .thread _ | .signalDisconnected _ _
  | .stopTransport | .closeSockets => .isTrue trivial

def next (inputTimeout : Nat) (negotiated : UInt32) (s : InputPath) : Label → Option InputPath
  | .client a => (s.client.step negotiated a).map fun client => { s with client := client }
  | .server a =>
    if s.Delivers a then
      (s.server.step inputTimeout a).map fun server => { s with server := server }
    else none

/-- A session: both sides have the id that the client negotiated. -/
def system (inputTimeout : Nat) (clientAddress sessionId : UInt32) (now : Nat) :
    System InputPath Label where
  init := ⟨.started, .started clientAddress sessionId now⟩
  next := next inputTimeout sessionId

/-- **A datagram of another session fails the test.** -/
theorem otherSession_fails (s : ServerInput) (d : Datagram)
    (h : (receivedPacket d.bytes).header.sessionId ≠ s.sessionId) : s.valid d = false := by
  simp [ServerInput.valid, validHeader, h]

/-- What the server gave to the virtual controller. -/
structure InOrder (s : InputPath) : Prop where
  /-- Each frame is one that the client passed to `SendState`, unchanged. -/
  genuine : ∀ f ∈ s.server.applied, f ∈ s.client.passed
  /-- No frame comes after a newer one, or twice. -/
  increasing : s.server.applied.Pairwise fun f g => f.sequence < g.sequence
  /-- While the session runs the last one is the newest that the input thread is
  done with, and it is done with all it received unless it is in `OnState`. -/
  newest : s.server.server.core.state = .running →
    s.server.applied.getLast? = s.server.settled.argmax ServerSide.number
  settled : (∀ f, s.server.callback ≠ some (.state f)) → s.server.settled = s.server.received

variable {inputTimeout : Nat} {clientAddress sessionId : UInt32} {now : Nat}

/-! ### The two sides of a run -/

/-- A run of the session is a run of each side, and the server has received only
what the client passed to `SendState`. -/
structure Sides (inputTimeout : Nat) (clientAddress sessionId : UInt32) (now : Nat)
    (s : InputPath) : Prop where
  client : ∃ l, (ClientSide.system sessionId).Run l s.client
  server : ∃ l, (ServerSide.system inputTimeout clientAddress sessionId now).Run l s.server
  received : ∀ f ∈ s.server.received, f ∈ s.client.passed

/-- A valid datagram that the client sent carries a frame it passed to
`SendState`. -/
theorem frameOf_mem_passed {passed : List StateFrame} {bytes : List UInt8}
    (h : ClientSide.Carries passed bytes) : frameOf bytes ∈ passed := by
  obtain ⟨sid, f, hf, rfl⟩ := h
  rw [(accepts_inputDatagram 0 sid f).2]
  exact hf

theorem sides_of_run {l : List Label} {s : InputPath}
    (h : (system inputTimeout clientAddress sessionId now).Run l s) :
    Sides inputTimeout clientAddress sessionId now s := by
  refine System.Run.invariant (P := fun _ s => Sides inputTimeout clientAddress sessionId now s)
    ⟨⟨[], .refl⟩, ⟨[], .refl⟩, fun f hf => by cases hf⟩ ?_ h
  rintro l s a t - ⟨⟨lc, hc⟩, ⟨ls, hs⟩, hr⟩ hn
  cases a with
  | client a =>
    obtain ⟨client, hstep, rfl⟩ := Option.map_eq_some_iff.mp hn
    exact ⟨⟨_, .snoc hc hstep⟩, ⟨ls, hs⟩,
      fun f hf => (ClientSide.passed_step hstep).subset (hr f hf)⟩
  | server a =>
    simp only [system, next, Option.ite_none_right_eq_some, Option.map_eq_some_iff] at hn
    obtain ⟨hd, server, hstep, rfl⟩ := hn
    refine ⟨⟨lc, hc⟩, ⟨_, .snoc hs hstep⟩, ?_⟩
    intro f hf
    rcases ServerSide.received_step hstep with he | ⟨d, rfl, hv, he⟩
    · exact hr f (he ▸ hf)
    · rw [show server.received = _ from he] at hf
      rcases List.mem_append.mp hf with hf | hf
      · exact hr f hf
      · obtain rfl := List.mem_singleton.mp hf
        rcases hd with hsent | hinvalid
        · exact frameOf_mem_passed (ClientSide.sent_of_passed hc d.bytes hsent)
        · rw [hv] at hinvalid
          cases hinvalid

/-! ### The order of the frames -/

/-- With fewer than 2^64 sends no number is 0. -/
theorem number_pos {l : List ClientLabel} {c : ClientSide}
    (h : (ClientSide.system sessionId).Run l c) (hlt : c.passed.length < 2 ^ 64) :
    ∀ f ∈ c.passed, 0 < ServerSide.number f := by
  intro f hf
  have hmem : f.sequence ∈ c.passed.map (·.sequence) := List.mem_map_of_mem hf
  rw [ClientSide.passed_sequence h] at hmem
  obtain ⟨n, hn, he⟩ := List.mem_map.mp hmem
  rw [List.mem_range'_1] at hn
  have hsize : n < UInt64.size := by
    show n < 2 ^ 64
    omega
  rw [ServerSide.number, ← he, UInt64.toNat_ofNat_of_lt' hsize]
  omega

/-- **End-to-end input ordering.**  In every run with fewer than 2^64 sends, whatever
the network does: the server applies only frames that the client passed to
`SendState`, with strictly increasing sequence numbers, and while it is `kRunning`
the last one is the newest of those received. -/
theorem inOrder_of_run {l : List Label} {s : InputPath}
    (h : (system inputTimeout clientAddress sessionId now).Run l s)
    (hlt : s.client.passed.length < 2 ^ 64) : InOrder s := by
  obtain ⟨⟨lc, hc⟩, ⟨ls, hs⟩, hr⟩ := sides_of_run h
  obtain ⟨hbegun, hall⟩ := ServerSide.applied_records hs
  have hsub : ∀ f ∈ s.server.settled, f ∈ s.server.received := s.server.settled_subset
  have hpos : ∀ f ∈ s.server.settled, 0 < ServerSide.number f :=
    fun f hf => number_pos hc hlt f (hr f (hsub f hf))
  refine ⟨?_, ?_, ?_, ?_⟩
  · intro f hf
    have hrec := (records_sublist s.server.settled 0).subset (hbegun.subset hf)
    exact hr f (hsub f hrec)
  · have hp : s.server.applied.Pairwise fun f g => ServerSide.number f < ServerSide.number g :=
      (records_pairwise s.server.settled 0).sublist hbegun.sublist
    exact hp.imp fun hfg => UInt64.lt_iff_toNat_lt.mpr hfg
  · intro hrun
    rw [hall hrun]
    exact records_getLast? hpos
  · exact s.server.settled_eq

/-- The two frames of a button that is pressed and released, and the final neutral
one. -/
def pressed : StateFrame := ⟨{ buttonFlags := 0x1000 }, 1, 10⟩
def released : StateFrame := ⟨{}, 2, 20⟩
def final : StateFrame := ⟨{}, 3, 30⟩

/-- The datagram of a frame, as it comes from 10.0.0.2 in session 7. -/
def packet (frame : StateFrame) : Datagram := ⟨0x0200000A, (inputDatagram 7 frame).toBytes⟩

/-- The release overtakes the press, which arrives late and is then dropped; `Stop()`
sends the neutral frame, and it is received twice. -/
def overtaking : List Label :=
  [.client .inputSocket, .client .publish, .client .setSessionId, .client .startClientTests,
    .client .startClientReturns, .client .takeLifecycle, .client (.openDevice true),
    .client (.onInputState pressed.state 10), .client (.sendState .poll),
    .client (.sendto .poll .sent), .client .pollReturns,
    .client (.onInputState released.state 20), .client (.sendState .poll),
    .client (.sendto .poll .sent), .client .pollReturns,
    .server .enterLoop, .server (.receive (packet released)), .server (.callback true true),
    .server .enterLoop, .server (.receive (packet pressed)),
    .client .stop, .client .stopCloses, .client .stopChecks, .client (.stopNumbers 30),
    .client (.sendState .stop), .client (.sendto .stop .sent),
    .server .enterLoop, .server (.receive (packet final)), .server (.callback true true),
    .server .enterLoop, .server (.receive (packet final))]

theorem inOrder_of_run_overtaking : ∃ s, (system 100 0x0200000A 7 0).Run overtaking s ∧
    s.client.passed = [pressed, released, final] ∧ s.server.received = [released, pressed, final, final] ∧
    s.server.applied = [released, final] ∧ InOrder s :=
  have h : (system 100 0x0200000A 7 0).Run overtaking _ := System.run_of_exec rfl
  ⟨_, h, rfl, rfl, rfl, inOrder_of_run h (by decide)⟩

end InputPath

end RemoteController
