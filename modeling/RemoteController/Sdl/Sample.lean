import RemoteController.Lib.Flags
import RemoteController.Lib.Rounding
import RemoteController.Protocol

/-!
# Reading a gamepad

`ReadState` of `sdl_input_backend.cpp`: one sample of the SDL gamepad, its buttons
and its six axes, as a controller state of the protocol.

* `readButtons_and_ne_zero`: a flag of `kButtonMap` is set exactly when its button
  is pressed.
* `normalizeTrigger_toNat`, `normalizeTrigger_round`: the trigger is scaled from
  32767 to 65535 and rounded to the nearest integer, without overflow.
* `invertYAxis_toInt`: the axis is negated, and -32768 saturates.
-/

namespace RemoteController

open Lib Protocol

/-- The enumerators of `SDL_GamepadButton` that `kButtonMap` names. -/
inductive GamepadButton where
  | south
  | east
  | west
  | north
  | back
  | guide
  | start
  | leftStick
  | rightStick
  | leftShoulder
  | rightShoulder
  | dpadUp
  | dpadDown
  | dpadLeft
  | dpadRight
  | misc1
  | rightPaddle1
  | leftPaddle1
  | rightPaddle2
  | leftPaddle2
  | touchpad
  deriving DecidableEq, Repr

/-- What `get_gamepad_button` and `get_gamepad_axis` answer. -/
structure GamepadSample where
  pressed : GamepadButton → Bool
  leftTrigger : Int16 := 0
  rightTrigger : Int16 := 0
  leftX : Int16 := 0
  leftY : Int16 := 0
  rightX : Int16 := 0
  rightY : Int16 := 0

def kButtonMap : List (GamepadButton × UInt32) :=
  [(.south, kA),
    (.east, kB),
    (.west, kX),
    (.north, kY),
    (.back, kBack),
    (.guide, kGuide),
    (.start, kStart),
    (.leftStick, kLeftStick),
    (.rightStick, kRightStick),
    (.leftShoulder, kLeftShoulder),
    (.rightShoulder, kRightShoulder),
    (.dpadUp, kDpadUp),
    (.dpadDown, kDpadDown),
    (.dpadLeft, kDpadLeft),
    (.dpadRight, kDpadRight),
    (.misc1, kMiscButton),
    (.rightPaddle1, kPaddle1),
    (.leftPaddle1, kPaddle2),
    (.rightPaddle2, kPaddle3),
    (.leftPaddle2, kPaddle4),
    (.touchpad, kTouchpadButton)]

def readButtons (sample : GamepadSample) : UInt32 := flagsOf kButtonMap sample.pressed

def normalizeTrigger (value : Int16) : UInt16 :=
  if value ≤ 0 then 0 else ((value.toInt32.toUInt32 * 65535 + 16383) / 32767).toUInt16

def invertYAxis (value : Int16) : Int16 := if value = Int16.minValue then Int16.maxValue else -value

def readState (sample : GamepadSample) : GamepadStateV1 where
  buttonFlags := readButtons sample
  leftTrigger := normalizeTrigger sample.leftTrigger
  rightTrigger := normalizeTrigger sample.rightTrigger
  leftStickX := sample.leftX
  leftStickY := invertYAxis sample.leftY
  rightStickX := sample.rightX
  rightStickY := invertYAxis sample.rightY

/-! ### Buttons -/

theorem kButtonMap_separate : Separate kButtonMap := by
  decide

theorem readButtons_and_ne_zero {button : GamepadButton} {flag : UInt32}
    (h : (button, flag) ∈ kButtonMap) (sample : GamepadSample) :
    readButtons sample &&& flag ≠ 0 ↔ sample.pressed button = true :=
  flagsOf_and_ne_zero kButtonMap_separate h sample.pressed

/-! ### Axes -/

/-- The sum that `NormalizeTrigger` divides fits 32 bits. -/
theorem normalizeTrigger_fits (value : Int16) : value.toInt.toNat * 65535 + 16383 < 2 ^ 32 := by
  have h := value.toInt_lt
  omega

theorem normalizeTrigger_toNat (value : Int16) :
    (normalizeTrigger value).toNat = (value.toInt.toNat * 65535 + 16383) / 32767 := by
  have hlt := value.toInt_lt
  have hfits := normalizeTrigger_fits value
  rw [normalizeTrigger]
  split
  · rename_i h
    have hneg : value.toInt ≤ 0 := Int16.le_iff_toInt_le.mp h
    rw [Int.toNat_of_nonpos hneg]
    rfl
  · rename_i h
    have hpos : 0 ≤ value.toInt32 := by
      rw [Int16.le_iff_toInt_le] at h
      rw [Int32.le_iff_toInt_le, Int16.toInt_toInt32]
      exact (not_le.mp h).le
    have hword : value.toInt32.toUInt32.toNat = value.toInt.toNat := by
      rw [Int32.toNat_toUInt32_of_le hpos, Int32.toNatClampNeg, Int16.toInt_toInt32]
    have hsum : (value.toInt32.toUInt32 * 65535 + 16383).toNat =
        value.toInt.toNat * 65535 + 16383 := by
      simp only [UInt32.toNat_add, UInt32.toNat_mul, hword, UInt32.toNat_ofNat]
      omega
    rw [UInt32.toNat_toUInt16, UInt32.toNat_div, hsum]
    refine Nat.mod_eq_of_lt ?_
    show (value.toInt.toNat * 65535 + 16383) / 32767 < 2 ^ 16
    omega

/-- **The trigger is the nearest integer to the scaled axis.** -/
theorem normalizeTrigger_round {value : Int16} (h : 0 ≤ value) :
    ((normalizeTrigger value).toNat : ℤ) = round ((value.toInt : ℚ) * 65535 / 32767) := by
  have hcast : ((value.toInt.toNat : ℤ) : ℚ) = (value.toInt : ℚ) := by
    rw [Int.toNat_of_nonneg (Int16.le_iff_toInt_le.mp h)]
  have hround := round_div_odd (value.toInt.toNat * 65535) 16383
  rw [normalizeTrigger_toNat, ← hround]
  congr 1
  push_cast at hcast ⊢
  rw [hcast]

theorem invertYAxis_toInt (value : Int16) :
    (invertYAxis value).toInt = min 32767 (-value.toInt) := by
  have hlow := value.le_toInt
  have hhigh := value.toInt_lt
  rw [invertYAxis]
  split
  · rename_i h
    rw [h]
    rfl
  · rename_i h
    have hne : value.toInt ≠ -2 ^ 15 := fun he => h (Int16.toInt_inj.mp he)
    rw [Int16.toInt_neg, Int.bmod_eq_of_le (by omega) (by omega)]
    omega

end RemoteController
