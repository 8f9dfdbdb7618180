import RemoteController.Protocol

/-!
# What the sessions are built from

The small types of `session.h` and `transport_backend.h`, and the virtual
controller behind `virtual_controller_backend.h`.

Of a virtual controller the sessions see only whether a report was accepted, so
`VirtualController` keeps whether the target exists and the last report the
driver accepted; whether the driver takes a report is the caller's argument.
-/

namespace RemoteController

open Protocol

/-- `session.h`: what the public calls return. -/
inductive Result where
  | ok
  | invalidArgument
  | invalidState
  | staleSequence
  | backendFailure
  | pairingKeyMismatch
  deriving DecidableEq, Repr

/-- `session.h`: the state machine of every session. -/
inductive SessionState where
  | created
  | running
  | stopped
  | disconnected
  | faulted
  deriving DecidableEq, Repr

structure RumbleCommand where
  lowFrequencyMotor : UInt16 := 0
  highFrequencyMotor : UInt16 := 0
  deriving DecidableEq, Repr

namespace RumbleCommand

/-- What `SetRumble` and `SendRumble` store in `pending_rumble_`. -/
def packed (c : RumbleCommand) : UInt32 :=
  (c.highFrequencyMotor.toUInt32 <<< 16) ||| c.lowFrequencyMotor.toUInt32

/-- How the two loops read `pending_rumble_`. -/
def ofPacked (packed : UInt32) : RumbleCommand where
  lowFrequencyMotor := (packed &&& 0xFFFF).toUInt16
  highFrequencyMotor := (packed >>> 16).toUInt16

theorem packed_toNat (c : RumbleCommand) :
    c.packed.toNat = c.highFrequencyMotor.toNat * 2 ^ 16 + c.lowFrequencyMotor.toNat := by
  have hl := c.lowFrequencyMotor.toNat_lt
  have hh := c.highFrequencyMotor.toNat_lt
  have hs : (c.highFrequencyMotor.toUInt32 <<< 16).toNat = c.highFrequencyMotor.toNat <<< 16 := by
    rw [UInt32.toNat_shiftLeft, UInt16.toNat_toUInt32]
    refine Nat.mod_eq_of_lt ?_
    rw [Nat.shiftLeft_eq]
    simp
    omega
  rw [packed, UInt32.toNat_or, hs, UInt16.toNat_toUInt32, ← Nat.shiftLeft_add_eq_or_of_lt hl,
    Nat.shiftLeft_eq]

theorem ofPacked_packed (c : RumbleCommand) : ofPacked c.packed = c := by
  have hl := c.lowFrequencyMotor.toNat_lt
  have hh := c.highFrequencyMotor.toNat_lt
  have hn := c.packed_toNat
  have hlow : (ofPacked c.packed).lowFrequencyMotor = c.lowFrequencyMotor := by
    apply UInt16.toNat_inj.mp
    simp only [ofPacked, UInt32.toNat_toUInt16, UInt32.toNat_and, hn]
    rw [show UInt32.toNat 0xFFFF = 2 ^ 16 - 1 from rfl, Nat.and_two_pow_sub_one_eq_mod]
    omega
  have hhigh : (ofPacked c.packed).highFrequencyMotor = c.highFrequencyMotor := by
    apply UInt16.toNat_inj.mp
    simp only [ofPacked, UInt32.toNat_toUInt16, UInt32.toNat_shiftRight, hn]
    rw [Nat.shiftRight_eq_div_pow]
    simp
    omega
  cases c
  simp only [ofPacked, RumbleCommand.mk.injEq] at hlow hhigh ⊢
  exact ⟨hlow, hhigh⟩

end RumbleCommand

structure StateFrame where
  state : GamepadStateV1 := {}
  sequence : UInt64 := 0
  timestampUs : UInt64 := 0
  deriving DecidableEq, Repr

structure VirtualController where
  created : Bool := false
  lastReport : GamepadStateV1 := .neutral
  deriving DecidableEq, Repr

namespace VirtualController

/-- A fresh target reports neutral. -/
def create (v : VirtualController) (createOk : Bool) : VirtualController × Bool :=
  if v.created || !createOk then (v, false)
  else ({ created := true, lastReport := .neutral }, true)

/-- `SubmitState`: refused without a target, else as the driver answers. -/
def submitState (v : VirtualController) (report : GamepadStateV1) (updateOk : Bool) :
    VirtualController × Bool :=
  if v.created && updateOk then ({ v with lastReport := report }, true) else (v, false)

/-- `SubmitNeutralState` discards the result. -/
def submitNeutralState (v : VirtualController) (updateOk : Bool) : VirtualController :=
  (v.submitState .neutral updateOk).1

def destroy (v : VirtualController) : VirtualController := { v with created := false }

theorem create_cases (v : VirtualController) (createOk : Bool) :
    (v.create createOk).2 = true ∧ (v.create createOk).1 = { created := true } ∨
      (v.create createOk).2 = false ∧ (v.create createOk).1 = v := by
  rw [create]
  split
  · exact Or.inr ⟨rfl, rfl⟩
  · exact Or.inl ⟨rfl, rfl⟩

theorem submitState_cases (v : VirtualController) (report : GamepadStateV1) (updateOk : Bool) :
    (v.submitState report updateOk).2 = true ∧
        (v.submitState report updateOk).1 = { v with lastReport := report } ∨
      (v.submitState report updateOk).2 = false ∧ (v.submitState report updateOk).1 = v := by
  rw [submitState]
  split
  · exact Or.inl ⟨rfl, rfl⟩
  · exact Or.inr ⟨rfl, rfl⟩

@[simp] theorem submitState_created (v : VirtualController) (r : GamepadStateV1) (b : Bool) :
    (v.submitState r b).1.created = v.created := by
  rw [submitState]; split <;> rfl

@[simp] theorem submitNeutralState_created (v : VirtualController) (b : Bool) :
    (v.submitNeutralState b).created = v.created := submitState_created v .neutral b

theorem submitNeutralState_lastReport {v : VirtualController} (h : v.created = true) :
    (v.submitNeutralState true).lastReport = .neutral := by
  simp [submitNeutralState, submitState, h]

end VirtualController

end RemoteController
