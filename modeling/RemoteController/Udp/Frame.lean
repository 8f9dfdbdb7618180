import RemoteController.Backends

/-!
# Control frames

What `udp_lan_transport_backend.cpp` makes of `PlaintextControlFrameV1`: the one
way a frame is built, and the two tests a received frame is put to.

* `validControlFrame_make`, `pairingMismatchResponse_make`: a built frame passes
  the test for its own type and session id and no other, and is read as a
  rejection only if it is one.
-/

namespace RemoteController

open Lib Protocol

def WSAEPROTONOSUPPORT : UInt32 := 10043

def makeControlFrame (type : ControlMessageType) (sessionId : UInt32) (sequence : UInt64 := 0)
    (rumble : RumbleCommand := {}) (pairingKey : UInt16 := 0) : PlaintextControlFrameV1 where
  magic := kControlMagic
  version := kProtocolVersion
  messageType := type.code
  flags := 0
  frameLength := kControlFrameSize
  pairingKey := pairingKey
  sessionId := sessionId
  sequence := sequence
  lowFrequencyMotor := rumble.lowFrequencyMotor
  highFrequencyMotor := rumble.highFrequencyMotor
  capabilities := 0

def validControlFrame (frame : PlaintextControlFrameV1) (expected : ControlMessageType)
    (sessionId : UInt32) : Bool :=
  frame.magic == kControlMagic && frame.version == kProtocolVersion && frame.flags == 0 &&
  frame.frameLength == kControlFrameSize && frame.messageType == expected.code &&
  frame.sessionId == sessionId

/-- The frame is the server's answer to a HELLO with another pairing key. -/
def pairingMismatchResponse (frame : PlaintextControlFrameV1) (sessionId : UInt32) : Bool :=
  frame.magic == kControlMagic && frame.version == kProtocolVersion &&
  frame.frameLength == kControlFrameSize &&
  frame.messageType == ControlMessageType.error.code && frame.sessionId == sessionId &&
  frame.sequence == kControlErrorPairingKeyMismatch

/-- `RandomSessionId`, from the value drawn. -/
def randomSessionId (value : UInt32) : UInt32 := if value == 0 then 1 else value

theorem randomSessionId_ne_zero (value : UInt32) : randomSessionId value ≠ 0 := by
  rw [randomSessionId]
  split
  · decide
  · rename_i h
    simpa using h

/-- **A frame is valid for its own type and session only.** -/
theorem validControlFrame_make (type expected : ControlMessageType) (sid sessionId : UInt32)
    (sequence : UInt64) (rumble : RumbleCommand) (key : UInt16) :
    validControlFrame (makeControlFrame type sid sequence rumble key) expected sessionId = true ↔
      type = expected ∧ sid = sessionId := by
  have hcode : type.code = expected.code ↔ type = expected :=
    ⟨ControlMessageType.code_injective, congrArg _⟩
  simp [validControlFrame, makeControlFrame, hcode]

theorem pairingMismatchResponse_make (type : ControlMessageType) (sid sessionId : UInt32)
    (sequence : UInt64) (rumble : RumbleCommand) (key : UInt16) :
    pairingMismatchResponse (makeControlFrame type sid sequence rumble key) sessionId = true ↔
      type = .error ∧ sid = sessionId ∧ sequence = kControlErrorPairingKeyMismatch := by
  have hcode : type.code = ControlMessageType.error.code ↔ type = .error :=
    ⟨ControlMessageType.code_injective, congrArg _⟩
  simp [pairingMismatchResponse, makeControlFrame, hcode, and_assoc]

end RemoteController
