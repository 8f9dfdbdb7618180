import RemoteController.Udp.Input

/-!
# The input codec

`SendState` writes a datagram and `ServerInputLoop` reads one, each with its own
list of the nine header fields, the state and the tag.  `codec_bijective` says the
two lists agree: what the one builds the other accepts and reads back, and what the
other accepts is byte for byte what the one builds.
-/

namespace RemoteController

open Lib Protocol

/-- The nine fields of the header and the tag are all that the test leaves open. -/
theorem eq_inputDatagram_of_valid {s : ServerInput} {d : Datagram} (h : s.valid d = true) :
    receivedPacket d.bytes = inputDatagram s.sessionId (frameOf d.bytes) := by
  have hlen : d.bytes.length = 64 := ServerInput.length_of_valid h
  have hstate : ((d.bytes.drop 32).take 16).length = 16 := by
    rw [List.length_take, List.length_drop, hlen]
    rfl
  have htag : ((d.bytes.drop 48).take 16).length = 16 := by
    rw [List.length_take, List.length_drop, hlen]
    rfl
  have hpacket : receivedPacket d.bytes = .ofBytes d.bytes := receivedPacket_of_length hlen
  simp only [ServerInput.valid, validHeader, Bool.and_eq_true, beq_iff_eq, List.all_eq_true] at h
  obtain ⟨⟨⟨⟨⟨⟨⟨⟨⟨_, _⟩, hmagic⟩, hversion⟩, htype⟩, hflags⟩, hpacketLength⟩, hheaderLength⟩,
    hsession⟩, hzero⟩ := h
  have hencrypted : (frameOf d.bytes).state.toBytes = (receivedPacket d.bytes).encryptedState := by
    rw [frameOf, hpacket]
    exact GamepadStateV1.toBytes_ofBytes hstate
  have hheader : (receivedPacket d.bytes).header =
      (inputDatagram s.sessionId (frameOf d.bytes)).header := by
    rw [inputDatagram, ← hmagic, ← hversion, ← htype, ← hflags, ← hpacketLength, ← hheaderLength,
      ← hsession]
    rfl
  have htags : (receivedPacket d.bytes).authenticationTag = List.replicate 16 0 := by
    rw [List.eq_replicate_iff]
    refine ⟨?_, hzero⟩
    rw [hpacket]
    exact htag
  calc receivedPacket d.bytes
      = ⟨(receivedPacket d.bytes).header, (receivedPacket d.bytes).encryptedState,
          (receivedPacket d.bytes).authenticationTag⟩ := rfl
    _ = inputDatagram s.sessionId (frameOf d.bytes) := by
        rw [hheader, htags, ← hencrypted]
        rfl

/-- **The input codec is a bijection on the accepted packets.**  The datagram of a
frame whose sequence is above the highest one received passes the test and is handed
over as that frame; and a datagram that passes the test is the one `SendState` builds
for the session id and the frame it carries. -/
theorem codec_bijective (s : ServerInput) :
    (∀ frame : StateFrame, s.highestReceivedSequence < frame.sequence →
      let d : Datagram := ⟨s.expectedPeer, (inputDatagram s.sessionId frame).toBytes⟩
      d.bytes.length = 64 ∧ s.valid d = true ∧ frameOf d.bytes = frame ∧
        (s.iteration (recvfrom d)).2 = if s.stateCallback then [.state frame] else []) ∧
    (∀ d : Datagram, s.valid d = true →
      d.bytes = (inputDatagram s.sessionId (frameOf d.bytes)).toBytes) := by
  constructor
  · intro frame hnew d
    obtain ⟨hvalid, hframe⟩ := accepts_inputDatagram s.expectedPeer s.sessionId frame
    refine ⟨(receivedPacket_inputDatagram s.sessionId frame).1, hvalid, hframe, ?_⟩
    rcases s.iteration_cases d with ⟨_, hdrop, _⟩ | ⟨_, _, he⟩ | ⟨hlong, _⟩
    · rcases hdrop with hinvalid | hold
      · rw [show s.valid d = true from hvalid] at hinvalid
        cases hinvalid
      · rw [show frameOf d.bytes = frame from hframe] at hold
        exact absurd hold (UInt64.not_le.mpr hnew)
    · rw [he, show frameOf d.bytes = frame from hframe]
      split <;> rfl
    · have hlen : d.bytes.length = 64 := (receivedPacket_inputDatagram s.sessionId frame).1
      omega
  · intro d hvalid
    have hlen : d.bytes.length = 64 := ServerInput.length_of_valid hvalid
    rw [← eq_inputDatagram_of_valid hvalid, receivedPacket_of_length hlen,
      InputDatagramV1.toBytes_ofBytes hlen]

/-- A full-scale frame of the first sequence, at a server that has received nothing. -/
theorem codec_bijective_first :
    let s : ServerInput := { expectedPeer := 0x0200000A, sessionId := 7 }
    let frame : StateFrame := ⟨{ buttonFlags := 0xFFFFFFFF, leftStickX := -32768 }, 1, 10⟩
    let d : Datagram := ⟨s.expectedPeer, (inputDatagram s.sessionId frame).toBytes⟩
    (s.iteration (recvfrom d)).2 = [.state frame] ∧
      d.bytes = (inputDatagram s.sessionId (frameOf d.bytes)).toBytes := by
  intro s frame d
  have h := codec_bijective s
  have hsent := h.1 frame (by decide)
  exact ⟨hsent.2.2.2, h.2 d hsent.2.1⟩

end RemoteController
