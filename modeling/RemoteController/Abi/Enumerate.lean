import RemoteController.Abi.Strings
import RemoteController.Lib.Decimal
import RemoteController.Lib.Fill
import RemoteController.Lib.Packed
import RemoteController.Sdl.Sample

/-!
# Enumerating the gamepads

`rc_sdl_enumerate_gamepads` of `remote_controller_core.cpp` over `EnumerateDevices` of
`SdlInputBackend`.  The loop tests `struct_size` of an element, writes the element and goes
on to the next one, so an element that fails the test leaves the ones in front of it
written.

* `stoul_decimal`: the instance id survives its way through `InputDeviceInfo`.
* `Contract`: what the two-pass call owes its caller.
* `contract_iff`: when it keeps that.
* `second_element_bad`: two gamepads, and an array whose second element fails the test.
-/

namespace RemoteController

open Lib Protocol

/-! ### What SDL answers -/

/-- What SDL knows of a gamepad that it could open. -/
structure OpenGamepad where
  connectionState : Int32 := 0
  hasButton : GamepadButton → Bool := fun _ => false
  hasLeftTrigger : Bool := false
  hasRightTrigger : Bool := false
  capRumble : Bool := false
  capTriggerRumble : Bool := false

/-- What SDL knows of an attached gamepad; a null pointer is `none`. -/
structure AttachedGamepad where
  instanceId : UInt32
  name : Option (List UInt8) := none
  path : Option (List UInt8) := none
  vendor : UInt16 := 0
  product : UInt16 := 0
  productVersion : UInt16 := 0
  gamepadType : Int32 := 0
  guid : List UInt8 := []
  opened : Option OpenGamepad := none

/-- What `get_gamepads` returns, with its count, which is an `int`. -/
structure GamepadList where
  gamepads : List AttachedGamepad
  count_lt : gamepads.length < 2 ^ 31

structure SdlRuntime where
  available : Bool
  gamepads : Option GamepadList

/-! ### `EnumerateDevices` -/

structure InputDeviceInfo where
  id : List UInt8
  displayName : List UInt8
  devicePath : List UInt8
  guid : List UInt8
  vendorId : UInt16
  productId : UInt16
  productVersion : UInt16
  controllerType : UInt32
  connectionState : Int32
  capabilities : UInt32
  supportedButtons : UInt32
  flags : UInt32
  deriving DecidableEq, Repr

def kAnalogTriggers : UInt32 := 1
def kRumble : UInt32 := 2
def kTriggerRumble : UInt32 := 4

def kRogAllyX : UInt32 := 1

def kAsusVendorId : UInt16 := 0x0B05
def kRogAllyXProductId : UInt16 := 0x1B4C

def supportedButtons (gamepad : OpenGamepad) : UInt32 := flagsOf kButtonMap gamepad.hasButton

def capabilities (gamepad : OpenGamepad) : UInt32 :=
  (if gamepad.hasLeftTrigger || gamepad.hasRightTrigger then kAnalogTriggers else 0) |||
    (if gamepad.capRumble then kRumble else 0) |||
    (if gamepad.capTriggerRumble then kTriggerRumble else 0)

/-- One round of the loop.  `std::to_string` prints the id, and `guid` ends at its
NUL. -/
def deviceInfo (gamepad : AttachedGamepad) : InputDeviceInfo where
  id := decimal gamepad.instanceId.toNat
  displayName := gamepad.name.getD (ascii "Unknown SDL gamepad")
  devicePath := gamepad.path.getD []
  guid := gamepad.guid.takeWhile fun c => c ≠ 0
  vendorId := gamepad.vendor
  productId := gamepad.product
  productVersion := gamepad.productVersion
  controllerType := gamepad.gamepadType.toUInt32
  connectionState := (gamepad.opened.map (·.connectionState)).getD 0
  capabilities := (gamepad.opened.map capabilities).getD 0
  supportedButtons := (gamepad.opened.map supportedButtons).getD 0
  flags :=
    if gamepad.vendor = kAsusVendorId ∧ gamepad.product = kRogAllyXProductId then kRogAllyX else 0

def enumerateDevices (sdl : SdlRuntime) : List InputDeviceInfo :=
  if !sdl.available then []
  else
    match sdl.gamepads with
    | none => []
    | some list => list.gamepads.map deviceInfo

/-- The count fits the `uint32_t` of the caller. -/
theorem enumerateDevices_length (sdl : SdlRuntime) : (enumerateDevices sdl).length < 2 ^ 31 := by
  rw [enumerateDevices]
  split
  · decide
  · split
    · decide
    · rename_i list _
      rw [List.length_map]
      exact list.count_lt

namespace Abi

/-! ### `std::stoul` -/

/-- `std::isspace`. -/
def isSpace (b : UInt8) : Bool := b == 32 || (9 ≤ b && b ≤ 13)

/-- `std::stoul` with its 32-bit `unsigned long`; `none` stands for its exceptions. -/
def stoul (text : List UInt8) : Option Nat :=
  let (negative, digits) :=
    match text.dropWhile isSpace with
    | 43 :: rest => (false, rest.takeWhile isDigit)
    | 45 :: rest => (true, rest.takeWhile isDigit)
    | rest => (false, rest.takeWhile isDigit)
  let value := decimalValue digits 0
  if digits = [] then none
  else if 2 ^ 32 ≤ value then none
  else some (if negative then (2 ^ 32 - value) % 2 ^ 32 else value)

/-- **A printed id is read back.** -/
theorem stoul_decimal (n : UInt32) : stoul (decimal n.toNat) = some n.toNat := by
  obtain ⟨b, rest, hd⟩ := List.exists_cons_of_ne_nil (decimal_ne_nil n.toNat)
  have hdigit : ∀ c ∈ decimal n.toNat, isDigit c = true := fun c => isDigit_of_mem_decimal
  have hb := hdigit b (by rw [hd]; exact List.mem_cons_self)
  have hrange : 48 ≤ b.toNat ∧ b.toNat ≤ 57 := by simpa [isDigit] using hb
  -- a digit is neither a blank nor a sign
  have hspace : isSpace b = false := by
    simp only [isSpace, Bool.or_eq_false_iff, beq_eq_false_iff_ne, ne_eq, Bool.and_eq_false_imp,
      decide_eq_true_eq, decide_eq_false_iff_not, UInt8.le_iff_toNat_le, ← UInt8.toNat_inj]
    refine ⟨?_, fun _ => ?_⟩
    · show ¬ b.toNat = 32
      omega
    · show ¬ b.toNat ≤ 13
      omega
  have hdrop : (decimal n.toNat).dropWhile isSpace = b :: rest := by
    rw [hd, List.dropWhile_cons_of_neg (by rw [hspace]; decide)]
  have hplus : b ≠ 43 := by
    rintro rfl
    exact absurd hrange.1 (by decide)
  have hminus : b ≠ 45 := by
    rintro rfl
    exact absurd hrange.1 (by decide)
  have htake : (b :: rest).takeWhile isDigit = decimal n.toNat := by
    rw [← hd]
    exact List.takeWhile_eq_self_iff.mpr hdigit
  have hvalue := decimalValue_decimal n.toNat
  have hlt := n.toNat_lt
  have hne := decimal_ne_nil n.toNat
  simp only [stoul, hdrop]
  split
  · rename_i he
    exact absurd (List.cons.inj he).1 hplus
  · rename_i he
    exact absurd (List.cons.inj he).1 hminus
  · rw [htake, hvalue, if_neg hne, if_neg (by omega)]
    rfl

/-! ### `rc_input_device_info_v1` -/

/-- `char[n]`. -/
def CharArray (n : Nat) : Type := { chars : List UInt8 // chars.length = n }

instance (n : Nat) : DecidableEq (CharArray n) :=
  inferInstanceAs (DecidableEq { chars : List UInt8 // chars.length = n })

def CharArray.zero (n : Nat) : CharArray n := ⟨List.replicate n 0, List.length_replicate⟩

def CharArray.copyUtf8 {n : Nat} (destination : CharArray (n + 1)) (source : List UInt8) :
    CharArray (n + 1) :=
  ⟨Abi.copyUtf8 destination.1 source, by
    rw [copyUtf8_length, destination.2]
    exact List.ne_nil_of_length_pos (by rw [destination.2]; exact Nat.succ_pos n)⟩

structure RcInputDeviceInfoV1 where
  structSize : UInt32 := 0
  instanceId : UInt32 := 0
  vendorId : UInt16 := 0
  productId : UInt16 := 0
  productVersion : UInt16 := 0
  reserved : UInt16 := 0
  gamepadType : UInt32 := 0
  connectionState : Int32 := 0
  capabilities : UInt32 := 0
  supportedButtons : UInt32 := 0
  flags : UInt32 := 0
  name : CharArray 128 := .zero 128
  path : CharArray 512 := .zero 512
  guid : CharArray 33 := .zero 33
  reservedTail : CharArray 3 := .zero 3
  deriving DecidableEq

def RcInputDeviceInfoV1.fields (d : RcInputDeviceInfoV1) : List Nat :=
  [d.structSize.toNat, d.instanceId.toNat, d.vendorId.toNat, d.productId.toNat,
    d.productVersion.toNat, d.reserved.toNat, d.gamepadType.toNat,
    d.connectionState.toUInt32.toNat, d.capabilities.toNat, d.supportedButtons.toNat,
    d.flags.toNat]

/-- The element in memory.  No field needs padding in front of it. -/
def RcInputDeviceInfoV1.toBytes (d : RcInputDeviceInfoV1) : List UInt8 :=
  pack [4, 4, 2, 2, 2, 2, 4, 4, 4, 4, 4] d.fields ++ d.name.1 ++ d.path.1 ++ d.guid.1 ++
    d.reservedTail.1

/-- `sizeof(rc_input_device_info_v1)`. -/
def sizeofDeviceInfo : UInt32 := 712

theorem toBytes_length (d : RcInputDeviceInfoV1) :
    d.toBytes.length = sizeofDeviceInfo.toNat := by
  simp only [RcInputDeviceInfoV1.toBytes, List.length_append, pack_length, d.name.2, d.path.2,
    d.guid.2, d.reservedTail.2]
  rfl

/-! ### `rc_sdl_enumerate_gamepads` -/

inductive RcResult where
  | ok
  | invalidArgument
  | invalidState
  | staleSequence
  | backendFailure
  | notFound
  | bufferTooSmall
  | pairingKeyMismatch
  deriving DecidableEq, Repr

/-- How the call ends: it returns, an exception leaves it, or it has gone past the end of
the array. -/
inductive Outcome where
  | returned (result : RcResult)
  | thrown
  | overrun
  deriving DecidableEq, Repr

/-- What the loop leaves in an element, but for its `struct_size`. -/
def deviceRecord (source : InputDeviceInfo) (structSize : UInt32) (parsedInstanceId : Nat) :
    RcInputDeviceInfoV1 where
  structSize := structSize
  instanceId := .ofNat parsedInstanceId
  vendorId := source.vendorId
  productId := source.productId
  productVersion := source.productVersion
  gamepadType := source.controllerType
  connectionState := source.connectionState
  capabilities := source.capabilities
  supportedButtons := source.supportedButtons
  flags := source.flags
  name := (CharArray.zero 128).copyUtf8 source.displayName
  path := (CharArray.zero 512).copyUtf8 source.devicePath
  guid := (CharArray.zero 33).copyUtf8 source.guid

/-- One round of the loop. -/
def putDevice (source : InputDeviceInfo) (device : RcInputDeviceInfoV1) :
    Except Outcome RcInputDeviceInfoV1 :=
  if device.structSize ≠ sizeofDeviceInfo then .error (.returned .invalidArgument)
  else
    match stoul source.id with
    | none => .error .thrown
    | some parsedInstanceId => .ok (deviceRecord source device.structSize parsedInstanceId)

/-- What the call leaves behind; null pointers are `none`. -/
structure Enumeration where
  outcome : Outcome
  devices : Option (List RcInputDeviceInfoV1)
  outCount : Option UInt32

def rcSdlEnumerateGamepads (sdl : SdlRuntime) (devices : Option (List RcInputDeviceInfoV1))
    (capacity : UInt32) (outCount : Option UInt32) : Enumeration :=
  if outCount = none ∨ devices = none ∧ capacity ≠ 0 then
    ⟨.returned .invalidArgument, devices, outCount⟩
  else if !sdl.available then ⟨.returned .backendFailure, devices, some 0⟩
  else
    let found := enumerateDevices sdl
    let count := UInt32.ofNat found.length
    match devices with
    | none => ⟨.returned .ok, none, some count⟩
    | some elements =>
      if capacity.toNat < found.length then
        ⟨.returned .bufferTooSmall, some elements, some count⟩
      else
        match fill putDevice found elements with
        | (some (.ok ()), written) => ⟨.returned .ok, some written, some count⟩
        | (some (.error outcome), written) => ⟨outcome, some written, some count⟩
        | (none, written) => ⟨.overrun, some written, some count⟩

/-! ### The statement -/

def attached (sdl : SdlRuntime) : List AttachedGamepad :=
  if !sdl.available then []
  else
    match sdl.gamepads with
    | none => []
    | some list => list.gamepads

/-- An element that holds the gamepad. -/
def gamepadRecord (gamepad : AttachedGamepad) : RcInputDeviceInfoV1 :=
  deviceRecord (deviceInfo gamepad) sizeofDeviceInfo gamepad.instanceId.toNat

/-- **The two-pass call**, for the array that was given and what the call leaves behind. -/
structure Contract (sdl : SdlRuntime) (devices : Option (List RcInputDeviceInfoV1))
    (e : Enumeration) : Prop where
  returns : ∃ result, e.outcome = .returned result
  /-- A call that fails has written no element. -/
  unchanged : e.outcome ≠ .returned .ok → e.devices = devices
  /-- A call that succeeds has written the first `*out_count` elements and no other, and
  no `struct_size`. -/
  written : e.outcome = .returned .ok → ∀ elements, devices = some elements →
    ∃ count after, e.outCount = some count ∧ e.devices = some after ∧
      after.take count.toNat = (attached sdl).map gamepadRecord ∧
      after.drop count.toNat = elements.drop count.toNat ∧
      after.map (·.structSize) = elements.map (·.structSize)
  required : e.outcome = .returned .bufferTooSmall →
    ∃ count, e.outCount = some count ∧ count.toNat = (attached sdl).length

def sized (d : RcInputDeviceInfoV1) : Bool := d.structSize == sizeofDeviceInfo

/-- If the call gets as far as its loop, the elements it needs are all of the right size,
or those in front of the first one that is not hold their gamepads already. -/
def HarmlessLoop (sdl : SdlRuntime) (devices : Option (List RcInputDeviceInfoV1))
    (capacity : UInt32) (outCount : Option UInt32) : Prop :=
  ∀ elements, devices = some elements → outCount ≠ none → sdl.available = true →
    (attached sdl).length ≤ capacity.toNat →
    (∀ d ∈ elements.take (attached sdl).length, sized d = true) ∨
      ∀ p ∈ ((attached sdl).zip elements).takeWhile (fun p => sized p.2), p.2 = gamepadRecord p.1

/-! ### The loop -/

theorem enumerateDevices_eq (sdl : SdlRuntime) :
    enumerateDevices sdl = (attached sdl).map deviceInfo := by
  rw [enumerateDevices, attached]
  split
  · rfl
  · split <;> rfl

theorem count_toNat (sdl : SdlRuntime) :
    (UInt32.ofNat (enumerateDevices sdl).length).toNat = (attached sdl).length := by
  have hlt := enumerateDevices_length sdl
  rw [UInt32.toNat_ofNat', Nat.mod_eq_of_lt (by omega), enumerateDevices_eq, List.length_map]

/-- One round, for a gamepad. -/
def putGamepad (gamepad : AttachedGamepad) :
    RcInputDeviceInfoV1 → Except Outcome RcInputDeviceInfoV1 :=
  putDevice (deviceInfo gamepad)

theorem putGamepad_eq (gamepad : AttachedGamepad) (d : RcInputDeviceInfoV1) :
    putGamepad gamepad d =
      if sized d then .ok (gamepadRecord gamepad) else .error (.returned .invalidArgument) := by
  have hid : stoul (deviceInfo gamepad).id = some gamepad.instanceId.toNat := stoul_decimal _
  rw [putGamepad, putDevice, sized]
  by_cases hs : d.structSize = sizeofDeviceInfo
  · rw [if_neg (not_not.mpr hs), hid, if_pos (beq_iff_eq.mpr hs), hs]
    rfl
  · rw [if_pos hs, if_neg (by simpa using hs)]

theorem accepts_putGamepad (p : AttachedGamepad × RcInputDeviceInfoV1) :
    Fill.accepts putGamepad p = sized p.2 := by
  rw [Fill.accepts, putGamepad_eq]
  cases sized p.2 <;> rfl

theorem written_putGamepad {p : AttachedGamepad × RcInputDeviceInfoV1} (h : sized p.2 = true) :
    Fill.written putGamepad p = gamepadRecord p.1 := by
  rw [Fill.written, putGamepad_eq, if_pos h]

theorem front_putGamepad (gamepads : List AttachedGamepad) (elements : List RcInputDeviceInfoV1) :
    Fill.front putGamepad gamepads elements =
      (gamepads.zip elements).takeWhile fun p => sized p.2 := by
  rw [Fill.front]
  congr 1
  exact funext accepts_putGamepad

/-- All the elements that the loop needs are of the right size. -/
theorem accepted_iff {gamepads : List AttachedGamepad} {elements : List RcInputDeviceInfoV1}
    (hlen : gamepads.length ≤ elements.length) :
    Fill.Accepted putGamepad gamepads elements ↔
      ∀ d ∈ elements.take gamepads.length, sized d = true := by
  have htake : elements.take gamepads.length = (gamepads.zip elements).map Prod.snd := by
    rw [List.zip_eq_zip_take_min, List.map_snd_zip (by simp), Nat.min_eq_left hlen]
  rw [Fill.Accepted, htake, List.forall_mem_map]
  exact forall₂_congr fun p _ => by rw [accepts_putGamepad]

/-- The loop over elements of the right size. -/
theorem fill_accepted {gamepads : List AttachedGamepad} {elements : List RcInputDeviceInfoV1}
    (hlen : gamepads.length ≤ elements.length)
    (hall : ∀ d ∈ elements.take gamepads.length, sized d = true) :
    fill putGamepad gamepads elements =
      (some (.ok ()), gamepads.map gamepadRecord ++ elements.drop gamepads.length) := by
  have hacc := (accepted_iff hlen).mpr hall
  obtain ⟨hafter, hok, _⟩ := Fill.fill_eq putGamepad hlen
  have hfront := Fill.front_of_accepted putGamepad hacc
  have hzip : (gamepads.zip elements).length = gamepads.length := by
    rw [List.length_zip, Nat.min_eq_left hlen]
  have hmap : (gamepads.zip elements).map (Fill.written putGamepad) =
      gamepads.map gamepadRecord := by
    calc (gamepads.zip elements).map (Fill.written putGamepad)
        = (gamepads.zip elements).map (gamepadRecord ∘ Prod.fst) := by
          refine List.map_congr_left fun p hp => ?_
          exact written_putGamepad (by rw [← accepts_putGamepad]; exact hacc p hp)
      _ = gamepads.map gamepadRecord := by rw [← List.map_map, List.map_fst_zip hlen]
  rw [hfront, hzip, hmap] at hafter
  exact Prod.ext (hok hacc) hafter

/-- It has written the elements that hold a gamepad now. -/
theorem written_elements {gamepads : List AttachedGamepad} {elements : List RcInputDeviceInfoV1}
    (hlen : gamepads.length ≤ elements.length)
    (hall : ∀ d ∈ elements.take gamepads.length, sized d = true) :
    (gamepads.map gamepadRecord ++ elements.drop gamepads.length).take gamepads.length =
        gamepads.map gamepadRecord ∧
    (gamepads.map gamepadRecord ++ elements.drop gamepads.length).drop gamepads.length =
        elements.drop gamepads.length ∧
    (gamepads.map gamepadRecord ++ elements.drop gamepads.length).map (·.structSize) =
        elements.map (·.structSize) := by
  refine ⟨List.take_left' (List.length_map _), List.drop_left' (List.length_map _), ?_⟩
  have hsizes : (elements.take gamepads.length).map (·.structSize) =
      (gamepads.map gamepadRecord).map (·.structSize) := by
    calc (elements.take gamepads.length).map (·.structSize)
        = List.replicate gamepads.length sizeofDeviceInfo := by
          rw [List.eq_replicate_iff, List.length_map, List.length_take, Nat.min_eq_left hlen]
          refine ⟨rfl, ?_⟩
          intro size hsize
          obtain ⟨d, hd, rfl⟩ := List.mem_map.mp hsize
          exact beq_iff_eq.mp (hall d hd)
      _ = (gamepads.map gamepadRecord).map (·.structSize) := by
          rw [List.map_map]
          exact List.map_const'.symm
  rw [List.map_append, ← hsizes, ← List.map_append, List.take_append_drop]

/-- The loop when an element is of a wrong size. -/
theorem fill_refused {gamepads : List AttachedGamepad} {elements : List RcInputDeviceInfoV1}
    (hlen : gamepads.length ≤ elements.length)
    (hno : ¬ ∀ d ∈ elements.take gamepads.length, sized d = true) :
    (fill putGamepad gamepads elements).1 = some (.error (.returned .invalidArgument)) ∧
    ((fill putGamepad gamepads elements).2 = elements ↔
      ∀ p ∈ (gamepads.zip elements).takeWhile (fun p => sized p.2), p.2 = gamepadRecord p.1) := by
  constructor
  · obtain ⟨p, _, outcome, hput, hres⟩ :=
      (Fill.fill_eq putGamepad hlen).2.2 fun hacc => hno ((accepted_iff hlen).mp hacc)
    rw [putGamepad_eq] at hput
    split at hput
    · cases hput
    · cases hput
      exact hres
  · rw [Fill.fill_unchanged_iff putGamepad hlen, front_putGamepad]
    refine forall₂_congr fun p hp => ?_
    have hsized : sized p.2 = true :=
      List.mem_takeWhile_imp
        (p := fun p : AttachedGamepad × RcInputDeviceInfoV1 => sized p.2) hp
    rw [written_putGamepad hsized, eq_comm]

/-! ### The call -/

/-- A call that ends in front of the loop. -/
theorem Contract.of_eq {sdl : SdlRuntime} {devices : Option (List RcInputDeviceInfoV1)}
    {e : Enumeration} {result : RcResult} (hres : e.outcome = .returned result)
    (hsame : e.devices = devices) (hok : result = .ok → devices = none)
    (hcount : result = .bufferTooSmall →
      ∃ count, e.outCount = some count ∧ count.toNat = (attached sdl).length) :
    Contract sdl devices e where
  returns := ⟨result, hres⟩
  unchanged _ := hsame
  written h elements hd := by
    rw [hres] at h
    rw [hok (Outcome.returned.inj h)] at hd
    cases hd
  required h := by
    rw [hres] at h
    exact hcount (Outcome.returned.inj h)

/-- The call with room for every gamepad. -/
theorem enumerate_loop {sdl : SdlRuntime} {capacity : UInt32} {outCount : Option UInt32}
    (hout : outCount ≠ none) (havail : sdl.available = true)
    (hcap : (attached sdl).length ≤ capacity.toNat) (elements : List RcInputDeviceInfoV1) :
    rcSdlEnumerateGamepads sdl (some elements) capacity outCount =
      match fill putGamepad (attached sdl) elements with
      | (some (.ok ()), written) =>
        ⟨.returned .ok, some written, some (UInt32.ofNat (enumerateDevices sdl).length)⟩
      | (some (.error outcome), written) =>
        ⟨outcome, some written, some (UInt32.ofNat (enumerateDevices sdl).length)⟩
      | (none, written) =>
        ⟨.overrun, some written, some (UInt32.ofNat (enumerateDevices sdl).length)⟩ := by
  have hnull : ¬ (outCount = none ∨ some elements = none ∧ capacity ≠ 0) := by simp [hout]
  have hfound : ¬ capacity.toNat < (enumerateDevices sdl).length := by
    rw [enumerateDevices_eq, List.length_map]
    omega
  have hloop : fill putDevice (enumerateDevices sdl) elements =
      fill putGamepad (attached sdl) elements := by
    rw [enumerateDevices_eq, fill_map]
    rfl
  rw [rcSdlEnumerateGamepads, if_neg hnull, if_neg (by simp [havail])]
  simp only [if_neg hfound, hloop]

/-- The call gets as far as its loop, in an array with an element for every gamepad. -/
theorem loop_contract_iff {sdl : SdlRuntime} {elements : List RcInputDeviceInfoV1}
    {capacity : UInt32} {outCount : Option UInt32} (hout : outCount ≠ none)
    (havail : sdl.available = true) (hcap : (attached sdl).length ≤ capacity.toNat)
    (hlen : (attached sdl).length ≤ elements.length) :
    Contract sdl (some elements) (rcSdlEnumerateGamepads sdl (some elements) capacity outCount) ↔
      (∀ d ∈ elements.take (attached sdl).length, sized d = true) ∨
        ∀ p ∈ ((attached sdl).zip elements).takeWhile (fun p => sized p.2),
          p.2 = gamepadRecord p.1 := by
  rw [enumerate_loop hout havail hcap]
  by_cases hall : ∀ d ∈ elements.take (attached sdl).length, sized d = true
  · rw [fill_accepted hlen hall]
    refine iff_of_true ?_ (Or.inl hall)
    refine ⟨⟨.ok, rfl⟩, fun hne => absurd rfl hne, ?_, nofun⟩
    rintro _ _ he
    obtain rfl := Option.some.inj he
    refine ⟨_, _, rfl, rfl, ?_⟩
    rw [count_toNat]
    exact written_elements hlen hall
  · obtain ⟨hres, hsame⟩ := fill_refused hlen hall
    have hpair : fill putGamepad (attached sdl) elements =
        (some (.error (.returned .invalidArgument)),
          (fill putGamepad (attached sdl) elements).2) := Prod.ext hres rfl
    rw [or_iff_right hall, ← hsame, hpair]
    constructor
    · intro hc
      exact Option.some.inj (hc.unchanged nofun)
    · intro hafter
      exact .of_eq rfl (congrArg some hafter) nofun nofun

/-- **When the enumeration keeps its contract**: for every array that is not shorter than
`capacity`, every list of gamepads and every answer of SDL. -/
theorem contract_iff (sdl : SdlRuntime) (devices : Option (List RcInputDeviceInfoV1))
    (capacity : UInt32) (outCount : Option UInt32)
    (h : ∀ elements, devices = some elements → capacity.toNat ≤ elements.length) :
    Contract sdl devices (rcSdlEnumerateGamepads sdl devices capacity outCount) ↔
      HarmlessLoop sdl devices capacity outCount := by
  by_cases hnull : outCount = none ∨ devices = none ∧ capacity ≠ 0
  · rw [rcSdlEnumerateGamepads, if_pos hnull]
    refine iff_of_true (.of_eq rfl rfl nofun nofun) ?_
    rintro elements rfl hout
    rcases hnull with hnull | hnull
    · exact absurd hnull hout
    · cases hnull.1
  by_cases havail : sdl.available = true
  · cases devices with
    | none =>
      rw [rcSdlEnumerateGamepads, if_neg hnull, if_neg (by simp [havail])]
      exact iff_of_true (.of_eq rfl rfl (fun _ => rfl) nofun) nofun
    | some elements =>
      by_cases hcap : (attached sdl).length ≤ capacity.toNat
      · have hout : outCount ≠ none := fun ho => hnull (Or.inl ho)
        rw [loop_contract_iff hout havail hcap (hcap.trans (h elements rfl))]
        constructor
        · rintro hh _ he _ _ _
          obtain rfl := Option.some.inj he
          exact hh
        · intro hh
          exact hh elements rfl hout havail hcap
      · have hfound : capacity.toNat < (enumerateDevices sdl).length := by
          rw [enumerateDevices_eq, List.length_map]
          omega
        rw [rcSdlEnumerateGamepads, if_neg hnull, if_neg (by simp [havail])]
        simp only [if_pos hfound]
        refine iff_of_true (.of_eq rfl rfl nofun fun _ => ⟨_, rfl, count_toNat sdl⟩) ?_
        intro _ _ _ _ hle
        exact absurd hle hcap
  · rw [rcSdlEnumerateGamepads, if_neg hnull, if_pos (by simpa using havail)]
    refine iff_of_true (.of_eq rfl rfl nofun nofun) ?_
    intro _ _ _ ha
    exact absurd ha havail

/-! ### Two gamepads -/

def twoGamepads : SdlRuntime where
  available := true
  gamepads :=
    some ⟨[{ instanceId := 7, name := some (ascii "Pad") }, { instanceId := 9 }], by decide⟩

/-- An array of two elements, with the `struct_size` of the second. -/
def twoElements (structSize : UInt32) : List RcInputDeviceInfoV1 :=
  [{ structSize := sizeofDeviceInfo }, { structSize := structSize }]

theorem contract_two :
    Contract twoGamepads (some (twoElements sizeofDeviceInfo))
      (rcSdlEnumerateGamepads twoGamepads (some (twoElements sizeofDeviceInfo)) 2 (some 0)) := by
  refine (contract_iff _ _ 2 (some 0) ?_).mpr ?_
  · rintro elements he
    obtain rfl := Option.some.inj he
    decide
  · rintro elements he _ _ _
    obtain rfl := Option.some.inj he
    left
    simp [attached, twoGamepads, twoElements, sized]

/-- **An enumeration that fails has overwritten the first element**, when the second one
is of a wrong size. -/
theorem second_element_bad :
    ¬ ∀ (sdl : SdlRuntime) (devices : Option (List RcInputDeviceInfoV1)) (capacity : UInt32)
      (outCount : Option UInt32),
      (∀ elements, devices = some elements → capacity.toNat ≤ elements.length) →
      Contract sdl devices (rcSdlEnumerateGamepads sdl devices capacity outCount) := by
  intro hall
  have hc := hall twoGamepads (some (twoElements 0)) 2 (some 0) (by
    rintro elements he
    obtain rfl := Option.some.inj he
    decide)
  have hfails : (rcSdlEnumerateGamepads twoGamepads (some (twoElements 0)) 2 (some 0)).outcome =
      .returned .invalidArgument := rfl
  have hsame := hc.unchanged (by rw [hfails]; decide)
  have hids := congrArg (Option.map (List.map (·.instanceId))) hsame
  have hwrote : (rcSdlEnumerateGamepads twoGamepads (some (twoElements 0)) 2 (some 0)).devices.map
      (List.map (·.instanceId)) = some [7, 0] := rfl
  rw [hwrote] at hids
  exact absurd hids (by decide)

end Abi

end RemoteController
