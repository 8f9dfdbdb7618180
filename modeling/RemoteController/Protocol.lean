import RemoteController.Lib.Packed

/-!
# The wire formats

`controller_protocol.h`: the constants, the message types and the packed
little-endian records that travel between the two machines, with the
`std::memcpy` between a record and its bytes written as `toBytes` and
`ofBytes`.

* `GamepadStateV1`: one complete controller state, 16 bytes.
* `InputDatagramV1`: the UDP datagram, a 32-byte header, the state and a
  16-byte tag.
* `PlaintextControlFrameV1`: the 32-byte TCP frame.

Each record is read back from its own bytes (`ofBytes_toBytes`).
-/

namespace RemoteController

open Lib

namespace Protocol

/-! ### Constants -/

def kInputMagic : UInt32 := 0x31494352
def kProtocolVersion : UInt8 := 1
def kInputDatagramSize : UInt16 := 64
def kInputHeaderSize : UInt16 := 32
def kInputFlagTrustedLanPlaintext : UInt16 := 0x0001
def kControlMagic : UInt32 := 0x31434352
def kControlFrameSize : UInt16 := 32

/-- The reason a `kError` frame carries in its `sequence` field. -/
def kControlErrorPairingKeyMismatch : UInt64 := 1

/-- What `last_error` holds after a wrong pairing key. -/
def kPairingKeyMismatchError : UInt32 := 0x52430001

inductive MessageType where
  | fullState
  | rumble
  | heartbeat
  deriving DecidableEq, Repr

def MessageType.code : MessageType → UInt8
  | .fullState => 1
  | .rumble => 2
  | .heartbeat => 3

inductive ControlMessageType where
  | hello
  | helloAck
  | heartbeat
  | rumble
  | stop
  | error
  deriving DecidableEq, Repr

def ControlMessageType.code : ControlMessageType → UInt8
  | .hello => 1
  | .helloAck => 2
  | .heartbeat => 3
  | .rumble => 4
  | .stop => 5
  | .error => 6

theorem ControlMessageType.code_injective {a b : ControlMessageType} (h : a.code = b.code) :
    a = b := by
  cases a <;> cases b <;> first | rfl | exact absurd h (by decide)

/-! ### The controller state -/

/-- `ButtonFlag`. -/
def kDpadUp : UInt32 := 0x0001
def kDpadDown : UInt32 := 0x0002
def kDpadLeft : UInt32 := 0x0004
def kDpadRight : UInt32 := 0x0008
def kStart : UInt32 := 0x0010
def kBack : UInt32 := 0x0020
def kLeftStick : UInt32 := 0x0040
def kRightStick : UInt32 := 0x0080
def kLeftShoulder : UInt32 := 0x0100
def kRightShoulder : UInt32 := 0x0200
def kGuide : UInt32 := 0x0400
def kA : UInt32 := 0x1000
def kB : UInt32 := 0x2000
def kX : UInt32 := 0x4000
def kY : UInt32 := 0x8000
def kPaddle1 : UInt32 := 0x010000
def kPaddle2 : UInt32 := 0x020000
def kPaddle3 : UInt32 := 0x040000
def kPaddle4 : UInt32 := 0x080000
def kTouchpadButton : UInt32 := 0x100000
def kMiscButton : UInt32 := 0x200000

structure GamepadStateV1 where
  buttonFlags : UInt32 := 0
  leftTrigger : UInt16 := 0
  rightTrigger : UInt16 := 0
  leftStickX : Int16 := 0
  leftStickY : Int16 := 0
  rightStickX : Int16 := 0
  rightStickY : Int16 := 0
  deriving DecidableEq, Repr

/-- `{}`: every control released. -/
def GamepadStateV1.neutral : GamepadStateV1 := {}

def gamepadWidths : List Nat := [4, 2, 2, 2, 2, 2, 2]

def GamepadStateV1.fields (g : GamepadStateV1) : List Nat :=
  [g.buttonFlags.toNat, g.leftTrigger.toNat, g.rightTrigger.toNat,
    g.leftStickX.toUInt16.toNat, g.leftStickY.toUInt16.toNat,
    g.rightStickX.toUInt16.toNat, g.rightStickY.toUInt16.toNat]

def GamepadStateV1.toBytes (g : GamepadStateV1) : List UInt8 := pack gamepadWidths g.fields

def GamepadStateV1.ofBytes (bytes : List UInt8) : GamepadStateV1 :=
  match unpack gamepadWidths bytes with
  | [b, lt, rt, lx, ly, rx, ry] =>
    { buttonFlags := .ofNat b, leftTrigger := .ofNat lt, rightTrigger := .ofNat rt
      leftStickX := (UInt16.ofNat lx).toInt16, leftStickY := (UInt16.ofNat ly).toInt16
      rightStickX := (UInt16.ofNat rx).toInt16, rightStickY := (UInt16.ofNat ry).toInt16 }
  | _ => {}

@[simp] theorem GamepadStateV1.toBytes_length (g : GamepadStateV1) : g.toBytes.length = 16 := by
  simp [GamepadStateV1.toBytes, gamepadWidths]

theorem GamepadStateV1.ofBytes_toBytes (g : GamepadStateV1) : ofBytes g.toBytes = g := by
  have h : unpack gamepadWidths g.toBytes = g.fields := by
    refine unpack_pack ?_
    simp only [gamepadWidths, fields, List.forall₂_cons, List.forall₂_nil_left_iff, and_true]
    exact ⟨g.buttonFlags.toNat_lt, g.leftTrigger.toNat_lt, g.rightTrigger.toNat_lt,
      UInt16.toNat_lt _, UInt16.toNat_lt _, UInt16.toNat_lt _, UInt16.toNat_lt _⟩
  rw [ofBytes, h]
  simp [fields]

theorem GamepadStateV1.fields_ofBytes (bytes : List UInt8) :
    (ofBytes bytes).fields = unpack gamepadWidths bytes := by
  have h := unpack_lt gamepadWidths bytes
  rw [ofBytes]
  generalize unpack gamepadWidths bytes = vs at h
  rcases h with _ | ⟨hb, _ | ⟨hlt, _ | ⟨hrt, _ | ⟨hlx, _ | ⟨hly, _ | ⟨hrx, _ | ⟨hry, ⟨⟩⟩⟩⟩⟩⟩⟩⟩
  simp only [fields, UInt16.toUInt16_toInt16, UInt32.toNat_ofNat_of_lt' hb,
    UInt16.toNat_ofNat_of_lt' hlt, UInt16.toNat_ofNat_of_lt' hrt, UInt16.toNat_ofNat_of_lt' hlx,
    UInt16.toNat_ofNat_of_lt' hly, UInt16.toNat_ofNat_of_lt' hrx, UInt16.toNat_ofNat_of_lt' hry]

theorem GamepadStateV1.toBytes_ofBytes {bytes : List UInt8} (h : bytes.length = 16) :
    (ofBytes bytes).toBytes = bytes := by
  rw [toBytes, fields_ofBytes]
  exact pack_unpack gamepadWidths bytes h

/-! ### The input datagram -/

structure InputPacketHeaderV1 where
  magic : UInt32
  version : UInt8
  messageType : UInt8
  flags : UInt16
  packetLength : UInt16
  headerLength : UInt16
  sessionId : UInt32
  sequence : UInt64
  timestampUs : UInt64
  deriving DecidableEq, Repr

def headerWidths : List Nat := [4, 1, 1, 2, 2, 2, 4, 8, 8]

def InputPacketHeaderV1.fields (h : InputPacketHeaderV1) : List Nat :=
  [h.magic.toNat, h.version.toNat, h.messageType.toNat, h.flags.toNat, h.packetLength.toNat,
    h.headerLength.toNat, h.sessionId.toNat, h.sequence.toNat, h.timestampUs.toNat]

def InputPacketHeaderV1.toBytes (h : InputPacketHeaderV1) : List UInt8 :=
  pack headerWidths h.fields

def InputPacketHeaderV1.ofBytes (bytes : List UInt8) : InputPacketHeaderV1 :=
  match unpack headerWidths bytes with
  | [m, v, t, f, pl, hl, sid, sq, ts] =>
    { magic := .ofNat m, version := .ofNat v, messageType := .ofNat t, flags := .ofNat f
      packetLength := .ofNat pl, headerLength := .ofNat hl, sessionId := .ofNat sid
      sequence := .ofNat sq, timestampUs := .ofNat ts }
  | _ => ⟨0, 0, 0, 0, 0, 0, 0, 0, 0⟩

@[simp] theorem InputPacketHeaderV1.toBytes_length (h : InputPacketHeaderV1) :
    h.toBytes.length = 32 := by
  simp [InputPacketHeaderV1.toBytes, headerWidths]

theorem InputPacketHeaderV1.ofBytes_toBytes (h : InputPacketHeaderV1) : ofBytes h.toBytes = h := by
  have hu : unpack headerWidths h.toBytes = h.fields := by
    refine unpack_pack ?_
    simp only [headerWidths, fields, List.forall₂_cons, List.forall₂_nil_left_iff, and_true]
    exact ⟨h.magic.toNat_lt, h.version.toNat_lt, h.messageType.toNat_lt, h.flags.toNat_lt,
      h.packetLength.toNat_lt, h.headerLength.toNat_lt, h.sessionId.toNat_lt, h.sequence.toNat_lt,
      h.timestampUs.toNat_lt⟩
  rw [ofBytes, hu]
  simp [fields]

theorem InputPacketHeaderV1.fields_ofBytes (bytes : List UInt8) :
    (ofBytes bytes).fields = unpack headerWidths bytes := by
  have h := unpack_lt headerWidths bytes
  rw [ofBytes]
  generalize unpack headerWidths bytes = vs at h
  rcases h with _ | ⟨hm, _ | ⟨hv, _ | ⟨ht, _ | ⟨hf, _ | ⟨hp, _ | ⟨hl, _ | ⟨hsid, _ | ⟨hsq, _ |
    ⟨hts, ⟨⟩⟩⟩⟩⟩⟩⟩⟩⟩⟩
  simp only [fields, UInt32.toNat_ofNat_of_lt' hm, UInt8.toNat_ofNat_of_lt' hv,
    UInt8.toNat_ofNat_of_lt' ht, UInt16.toNat_ofNat_of_lt' hf, UInt16.toNat_ofNat_of_lt' hp,
    UInt16.toNat_ofNat_of_lt' hl, UInt32.toNat_ofNat_of_lt' hsid,
    UInt64.toNat_ofNat_of_lt' hsq, UInt64.toNat_ofNat_of_lt' hts]

theorem InputPacketHeaderV1.toBytes_ofBytes {bytes : List UInt8} (h : bytes.length = 32) :
    (ofBytes bytes).toBytes = bytes := by
  rw [toBytes, fields_ofBytes]
  exact pack_unpack headerWidths bytes h

structure InputDatagramV1 where
  header : InputPacketHeaderV1
  encryptedState : List UInt8
  authenticationTag : List UInt8
  deriving DecidableEq, Repr

def InputDatagramV1.toBytes (d : InputDatagramV1) : List UInt8 :=
  d.header.toBytes ++ d.encryptedState ++ d.authenticationTag

def InputDatagramV1.ofBytes (bytes : List UInt8) : InputDatagramV1 :=
  { header := .ofBytes (bytes.take 32)
    encryptedState := (bytes.drop 32).take 16
    authenticationTag := (bytes.drop 48).take 16 }

theorem InputDatagramV1.ofBytes_toBytes (d : InputDatagramV1) (he : d.encryptedState.length = 16)
    (ht : d.authenticationTag.length = 16) : ofBytes d.toBytes = d := by
  have h1 : d.toBytes.take 32 = d.header.toBytes := by
    rw [toBytes, List.append_assoc]
    exact List.take_left' (by simp)
  have h2 : d.toBytes.drop 32 = d.encryptedState ++ d.authenticationTag := by
    rw [toBytes, List.append_assoc]
    exact List.drop_left' (by simp)
  have h3 : d.toBytes.drop 48 = d.authenticationTag :=
    List.drop_left' (by simp [he])
  rw [ofBytes, h1, h2, h3, InputPacketHeaderV1.ofBytes_toBytes, List.take_left' he,
    List.take_of_length_le (by omega)]

theorem InputDatagramV1.toBytes_ofBytes {bytes : List UInt8} (h : bytes.length = 64) :
    (ofBytes bytes).toBytes = bytes := by
  have hheader : (bytes.take 32).length = 32 := by rw [List.length_take]; omega
  have htag : (bytes.drop 48).take 16 = bytes.drop 48 :=
    List.take_of_length_le (by rw [List.length_drop]; omega)
  have hdrop : bytes.drop 48 = (bytes.drop 32).drop 16 := by rw [List.drop_drop]
  rw [toBytes, ofBytes, InputPacketHeaderV1.toBytes_ofBytes hheader, htag, hdrop,
    List.append_assoc, List.take_append_drop, List.take_append_drop]

/-! ### The control frame -/

structure PlaintextControlFrameV1 where
  magic : UInt32 := 0
  version : UInt8 := 0
  messageType : UInt8 := 0
  flags : UInt16 := 0
  frameLength : UInt16 := 0
  pairingKey : UInt16 := 0
  sessionId : UInt32 := 0
  sequence : UInt64 := 0
  lowFrequencyMotor : UInt16 := 0
  highFrequencyMotor : UInt16 := 0
  capabilities : UInt32 := 0
  deriving DecidableEq, Repr

def controlWidths : List Nat := [4, 1, 1, 2, 2, 2, 4, 8, 2, 2, 4]

def PlaintextControlFrameV1.fields (f : PlaintextControlFrameV1) : List Nat :=
  [f.magic.toNat, f.version.toNat, f.messageType.toNat, f.flags.toNat, f.frameLength.toNat,
    f.pairingKey.toNat, f.sessionId.toNat, f.sequence.toNat, f.lowFrequencyMotor.toNat,
    f.highFrequencyMotor.toNat, f.capabilities.toNat]

def PlaintextControlFrameV1.toBytes (f : PlaintextControlFrameV1) : List UInt8 :=
  pack controlWidths f.fields

def PlaintextControlFrameV1.ofBytes (bytes : List UInt8) : PlaintextControlFrameV1 :=
  match unpack controlWidths bytes with
  | [m, v, t, f, l, k, sid, sq, lo, hi, c] =>
    { magic := .ofNat m, version := .ofNat v, messageType := .ofNat t, flags := .ofNat f
      frameLength := .ofNat l, pairingKey := .ofNat k, sessionId := .ofNat sid
      sequence := .ofNat sq, lowFrequencyMotor := .ofNat lo, highFrequencyMotor := .ofNat hi
      capabilities := .ofNat c }
  | _ => {}

@[simp] theorem PlaintextControlFrameV1.toBytes_length (f : PlaintextControlFrameV1) :
    f.toBytes.length = 32 := by
  simp [PlaintextControlFrameV1.toBytes, controlWidths]

theorem PlaintextControlFrameV1.ofBytes_toBytes (f : PlaintextControlFrameV1) :
    ofBytes f.toBytes = f := by
  have hu : unpack controlWidths f.toBytes = f.fields := by
    refine unpack_pack ?_
    simp only [controlWidths, fields, List.forall₂_cons, List.forall₂_nil_left_iff, and_true]
    exact ⟨f.magic.toNat_lt, f.version.toNat_lt, f.messageType.toNat_lt, f.flags.toNat_lt,
      f.frameLength.toNat_lt, f.pairingKey.toNat_lt, f.sessionId.toNat_lt, f.sequence.toNat_lt,
      f.lowFrequencyMotor.toNat_lt, f.highFrequencyMotor.toNat_lt, f.capabilities.toNat_lt⟩
  rw [ofBytes, hu]
  simp [fields]

theorem PlaintextControlFrameV1.ofBytes_take (bytes : List UInt8) :
    ofBytes (bytes.take 32) = ofBytes bytes := by
  rw [ofBytes, ofBytes, show 32 = controlWidths.sum from rfl, unpack_take]

end Protocol

end RemoteController
