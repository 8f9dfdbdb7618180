import RemoteController.Sdl.Sample

/-!
# The Xbox report

`ToXusbReport` of `vigem_virtual_controller_backend.cpp`: the report the driver gets
for a controller state.  Together with `ReadState` it carries a sample of the SDL
gamepad to the driver; `sample_to_report` says what arrives there.

* `Faithful`: buttons, sticks and triggers of a report, against the sample.
* `ScalesTriggers`: what the two stages do to a trigger.
* `released_trigger_far`: an axis below 0 is a released trigger, far from its value.
-/

namespace RemoteController

open Lib Protocol

/-- The values of `XUSB_BUTTON`, those of XInput. -/
def XUSB_GAMEPAD_DPAD_UP : UInt16 := 0x0001
def XUSB_GAMEPAD_DPAD_DOWN : UInt16 := 0x0002
def XUSB_GAMEPAD_DPAD_LEFT : UInt16 := 0x0004
def XUSB_GAMEPAD_DPAD_RIGHT : UInt16 := 0x0008
def XUSB_GAMEPAD_START : UInt16 := 0x0010
def XUSB_GAMEPAD_BACK : UInt16 := 0x0020
def XUSB_GAMEPAD_LEFT_THUMB : UInt16 := 0x0040
def XUSB_GAMEPAD_RIGHT_THUMB : UInt16 := 0x0080
def XUSB_GAMEPAD_LEFT_SHOULDER : UInt16 := 0x0100
def XUSB_GAMEPAD_RIGHT_SHOULDER : UInt16 := 0x0200
def XUSB_GAMEPAD_GUIDE : UInt16 := 0x0400
def XUSB_GAMEPAD_A : UInt16 := 0x1000
def XUSB_GAMEPAD_B : UInt16 := 0x2000
def XUSB_GAMEPAD_X : UInt16 := 0x4000
def XUSB_GAMEPAD_Y : UInt16 := 0x8000

structure XusbReport where
  wButtons : UInt16 := 0
  bLeftTrigger : UInt8 := 0
  bRightTrigger : UInt8 := 0
  sThumbLX : Int16 := 0
  sThumbLY : Int16 := 0
  sThumbRX : Int16 := 0
  sThumbRY : Int16 := 0
  deriving DecidableEq, Repr

def quantizeTrigger (value : UInt16) : UInt8 := ((value.toUInt32 * 255 + 32767) / 65535).toUInt8

/-- The tests of `ToXusbReport`, in their order. -/
def xusbButtons : List (UInt32 × UInt16) :=
  [(kDpadUp, XUSB_GAMEPAD_DPAD_UP),
    (kDpadDown, XUSB_GAMEPAD_DPAD_DOWN),
    (kDpadLeft, XUSB_GAMEPAD_DPAD_LEFT),
    (kDpadRight, XUSB_GAMEPAD_DPAD_RIGHT),
    (kStart, XUSB_GAMEPAD_START),
    (kBack, XUSB_GAMEPAD_BACK),
    (kLeftStick, XUSB_GAMEPAD_LEFT_THUMB),
    (kRightStick, XUSB_GAMEPAD_RIGHT_THUMB),
    (kLeftShoulder, XUSB_GAMEPAD_LEFT_SHOULDER),
    (kRightShoulder, XUSB_GAMEPAD_RIGHT_SHOULDER),
    (kGuide, XUSB_GAMEPAD_GUIDE),
    (kA, XUSB_GAMEPAD_A),
    (kB, XUSB_GAMEPAD_B),
    (kX, XUSB_GAMEPAD_X),
    (kY, XUSB_GAMEPAD_Y)]

def toXusbReport (state : GamepadStateV1) : XusbReport where
  wButtons := flagsOf xusbButtons fun flag => state.buttonFlags &&& flag != 0
  bLeftTrigger := quantizeTrigger state.leftTrigger
  bRightTrigger := quantizeTrigger state.rightTrigger
  sThumbLX := state.leftStickX
  sThumbLY := state.leftStickY
  sThumbRX := state.rightStickX
  sThumbRY := state.rightStickY

/-! ### Triggers -/

/-- The sum that `QuantizeTrigger` divides fits 32 bits. -/
theorem quantizeTrigger_fits (value : UInt16) : value.toNat * 255 + 32767 < 2 ^ 32 := by
  have h := value.toNat_lt
  omega

theorem quantizeTrigger_toNat (value : UInt16) :
    (quantizeTrigger value).toNat = (value.toNat * 255 + 32767) / 65535 := by
  have hlt := value.toNat_lt
  have hfits := quantizeTrigger_fits value
  have hsum : (value.toUInt32 * 255 + 32767).toNat = value.toNat * 255 + 32767 := by
    simp only [UInt32.toNat_add, UInt32.toNat_mul, UInt16.toNat_toUInt32, UInt32.toNat_ofNat]
    omega
  rw [quantizeTrigger, UInt32.toNat_toUInt8, UInt32.toNat_div, hsum]
  refine Nat.mod_eq_of_lt ?_
  show (value.toNat * 255 + 32767) / 65535 < 2 ^ 8
  omega

/-- **The trigger byte is the nearest integer to the scaled trigger.** -/
theorem quantizeTrigger_round (value : UInt16) :
    ((quantizeTrigger value).toNat : ℤ) = round ((value.toNat : ℚ) * 255 / 65535) := by
  have hround := round_div_odd (value.toNat * 255) 32767
  rw [quantizeTrigger_toNat, ← hround]
  congr 1
  push_cast
  norm_num

/-- The byte that an SDL trigger axis arrives as. -/
def triggerByte (value : Int16) : UInt8 := quantizeTrigger (normalizeTrigger value)

theorem triggerByte_toNat (value : Int16) : (triggerByte value).toNat =
    ((value.toInt.toNat * 65535 + 16383) / 32767 * 255 + 32767) / 65535 := by
  rw [triggerByte, quantizeTrigger_toNat, normalizeTrigger_toNat]

theorem triggerByte_mono {v w : Int16} (h : v ≤ w) :
    (triggerByte v).toNat ≤ (triggerByte w).toNat := by
  have hle : v.toInt.toNat ≤ w.toInt.toNat := Int.toNat_le_toNat (Int16.le_iff_toInt_le.mp h)
  rw [triggerByte_toNat, triggerByte_toNat]
  gcongr

/-- Half a step in either stage, of which the first counts 255 in 65535. -/
theorem triggerByte_error {value : Int16} (h : 0 ≤ value) :
    |((triggerByte value).toNat : ℚ) - (value.toInt : ℚ) * 255 / 32767| ≤ 1 / 2 + 1 / 514 := by
  have hfirst := abs_sub_round ((value.toInt : ℚ) * 65535 / 32767)
  have hsecond := abs_sub_round (((normalizeTrigger value).toNat : ℚ) * 255 / 65535)
  rw [← normalizeTrigger_round h] at hfirst
  rw [← quantizeTrigger_round] at hsecond
  rw [abs_le] at hfirst hsecond ⊢
  rw [triggerByte]
  push_cast at hfirst hsecond ⊢
  constructor <;> linarith only [hfirst.1, hfirst.2, hsecond.1, hsecond.2]

/-! ### From the sample to the report -/

/-- The buttons of an Xbox controller, and their bits. -/
def standardButtons : List (GamepadButton × UInt16) :=
  [(.dpadUp, XUSB_GAMEPAD_DPAD_UP),
    (.dpadDown, XUSB_GAMEPAD_DPAD_DOWN),
    (.dpadLeft, XUSB_GAMEPAD_DPAD_LEFT),
    (.dpadRight, XUSB_GAMEPAD_DPAD_RIGHT),
    (.start, XUSB_GAMEPAD_START),
    (.back, XUSB_GAMEPAD_BACK),
    (.leftStick, XUSB_GAMEPAD_LEFT_THUMB),
    (.rightStick, XUSB_GAMEPAD_RIGHT_THUMB),
    (.leftShoulder, XUSB_GAMEPAD_LEFT_SHOULDER),
    (.rightShoulder, XUSB_GAMEPAD_RIGHT_SHOULDER),
    (.guide, XUSB_GAMEPAD_GUIDE),
    (.south, XUSB_GAMEPAD_A),
    (.east, XUSB_GAMEPAD_B),
    (.west, XUSB_GAMEPAD_X),
    (.north, XUSB_GAMEPAD_Y)]

/-- The report shows the sample. -/
structure Faithful (sample : GamepadSample) (report : XusbReport) : Prop where
  pressed : ∀ e ∈ standardButtons, report.wButtons &&& e.2 ≠ 0 ↔ sample.pressed e.1 = true
  others : ∀ bits, (∀ e ∈ standardButtons, e.2 &&& bits = 0) → report.wButtons &&& bits = 0
  leftX : report.sThumbLX = sample.leftX
  rightX : report.sThumbRX = sample.rightX
  leftY : report.sThumbLY.toInt = min 32767 (-sample.leftY.toInt)
  rightY : report.sThumbRY.toInt = min 32767 (-sample.rightY.toInt)
  leftTrigger : report.bLeftTrigger = triggerByte sample.leftTrigger
  rightTrigger : report.bRightTrigger = triggerByte sample.rightTrigger

/-- The scale of the triggers, and of its two stages. -/
structure ScalesTriggers : Prop where
  released : ∀ value ≤ 0, triggerByte value = 0
  full : triggerByte 32767 = 255
  mono : ∀ v w, v ≤ w → (triggerByte v).toNat ≤ (triggerByte w).toNat
  error : ∀ value ≥ 0,
    |((triggerByte value).toNat : ℚ) - (value.toInt : ℚ) * 255 / 32767| ≤ 1 / 2 + 1 / 514
  normalized : ∀ value ≥ 0,
    ((normalizeTrigger value).toNat : ℤ) = round ((value.toInt : ℚ) * 65535 / 32767)
  quantized : ∀ value,
    ((quantizeTrigger value).toNat : ℤ) = round ((value.toNat : ℚ) * 255 / 65535)
  normalizes : ∀ value : Int16, value.toInt.toNat * 65535 + 16383 < 2 ^ 32
  quantizes : ∀ value : UInt16, value.toNat * 255 + 32767 < 2 ^ 32

theorem xusbButtons_separate : Separate xusbButtons := by
  decide

/-- Each standard button goes through one flag. -/
theorem standardButtons_flag : ∀ e ∈ standardButtons,
    ∃ flag, (e.1, flag) ∈ kButtonMap ∧ (flag, e.2) ∈ xusbButtons := by
  intro e he
  have hall : ∀ e ∈ standardButtons,
      ∃ m ∈ kButtonMap, m.1 = e.1 ∧ (m.2, e.2) ∈ xusbButtons := by decide
  obtain ⟨m, hm, hbutton, hbit⟩ := hall e he
  exact ⟨m.2, hbutton ▸ hm, hbit⟩

theorem faithful_report (sample : GamepadSample) :
    Faithful sample (toXusbReport (readState sample)) where
  pressed := by
    intro e he
    obtain ⟨flag, hbutton, hbit⟩ := standardButtons_flag e he
    rw [toXusbReport, flagsOf_and_ne_zero xusbButtons_separate hbit, bne_iff_ne]
    exact readButtons_and_ne_zero hbutton sample
  others := by
    intro bits hbits
    refine flagsOf_and_eq_zero.mpr fun m hm _ => ?_
    have hstandard : (xusbButtons.all fun m => standardButtons.any (·.2 == m.2)) = true := by
      decide
    obtain ⟨e, he, heq⟩ := List.any_eq_true.mp (List.all_eq_true.mp hstandard m hm)
    rw [← eq_of_beq heq]
    exact hbits e he
  leftX := rfl
  rightX := rfl
  leftY := invertYAxis_toInt sample.leftY
  rightY := invertYAxis_toInt sample.rightY
  leftTrigger := rfl
  rightTrigger := rfl

theorem scalesTriggers : ScalesTriggers where
  released := by
    intro value h
    apply UInt8.toNat_inj.mp
    rw [triggerByte_toNat, Int.toNat_of_nonpos (Int16.le_iff_toInt_le.mp h)]
    rfl
  full := rfl
  mono := fun _ _ h => triggerByte_mono h
  error := fun _ h => triggerByte_error h
  normalized := fun _ h => normalizeTrigger_round h
  quantized := quantizeTrigger_round
  normalizes := normalizeTrigger_fits
  quantizes := quantizeTrigger_fits

/-- **What is sampled is what the driver gets**: every standard button and no other
bit, the sticks with the vertical axes negated, and the triggers scaled to a byte
by two exact roundings. -/
theorem sample_to_report :
    (∀ sample, Faithful sample (toXusbReport (readState sample))) ∧ ScalesTriggers :=
  ⟨faithful_report, scalesTriggers⟩

/-- **A trigger axis below 0 is a released trigger**, and not near the scaled axis. -/
theorem released_trigger_far : ¬ ∀ sample : GamepadSample,
    |((toXusbReport (readState sample)).bLeftTrigger.toNat : ℚ) -
      (sample.leftTrigger.toInt : ℚ) * 255 / 32767| ≤ 1 / 2 + 1 / 514 := by
  intro h
  have hlow := h { pressed := fun _ => false, leftTrigger := -32768 }
  have hbyte : (toXusbReport (readState
      { pressed := fun _ => false, leftTrigger := -32768 })).bLeftTrigger.toNat = 0 := rfl
  have haxis : (-32768 : Int16).toInt = -32768 := rfl
  rw [hbyte, haxis] at hlow
  norm_num [abs_le] at hlow

end RemoteController
