import RemoteController.Abi.Enumerate

/-!
# Listing the gamepads

`SdlInput.enumerateGamepads` of the Dart package asks `rc_sdl_enumerate_gamepads` for the
number of gamepads, then for the gamepads, and asks again when there are more of them by
then.  Between two calls gamepads come and go; `sdl k` is what SDL answers to the `k`-th.

* `Shows`: a device of the list, against the gamepad.
* `enumerate_call`: one call with an array of the length that was counted before.
* `enumerate_ends`: how the listing ends.
-/

namespace RemoteController

open Lib Utf8

namespace Abi

/-! ### `SdlGamepadDevice` -/

structure SdlGamepadDevice where
  instanceId : Nat
  name : List Char
  path : List Char
  guid : List Char
  vendorId : Nat
  productId : Nat
  productVersion : Nat
  gamepadType : Nat
  connectionState : Int
  capabilities : UInt32
  supportedButtons : UInt32
  isRogAllyX : Bool
  deriving DecidableEq

def gamepadDevice (device : RcInputDeviceInfoV1) : SdlGamepadDevice where
  instanceId := device.instanceId.toNat
  name := decodeChars device.name.1 128
  path := decodeChars device.path.1 512
  guid := decodeChars device.guid.1 33
  vendorId := device.vendorId.toNat
  productId := device.productId.toNat
  productVersion := device.productVersion.toNat
  gamepadType := device.gamepadType.toNat
  connectionState := device.connectionState.toInt
  capabilities := device.capabilities
  supportedButtons := device.supportedButtons
  isRogAllyX := device.flags &&& 1 != 0

/-! ### `enumerateGamepads` -/

/-- What is thrown.  `undefined`: the native call does not return, or the array is read past
its end. -/
inductive Failure where
  | nativeCore (operation : String) (result : RcResult)
  | stateError (message : String)
  | undefined
  deriving DecidableEq

/-- The array, with its `struct_size`s. -/
def allocated (capacity : UInt32) : List RcInputDeviceInfoV1 :=
  List.replicate capacity.toNat { structSize := sizeofDeviceInfo }

/-- `List.generate` over the elements of the array. -/
def generate (devices : List RcInputDeviceInfoV1) (count : Nat) :
    Except Failure (List SdlGamepadDevice) :=
  if count ≤ devices.length then .ok ((devices.take count).map gamepadDevice)
  else .error .undefined

/-- The loop, with so many attempts left, before the `call`-th native call. -/
def attempts (sdl : Nat → SdlRuntime) : Nat → Nat → UInt32 →
    Except Failure (List SdlGamepadDevice)
  | 0, _, _ =>
    .error (.stateError "SDL gamepad list changed repeatedly during enumeration.")
  | n + 1, call, capacity =>
    if capacity = 0 then .ok []
    else
      let e := rcSdlEnumerateGamepads (sdl call) (some (allocated capacity)) capacity
        (some capacity)
      match e.outcome with
      | .returned .bufferTooSmall => attempts sdl n (call + 1) (e.outCount.getD 0)
      | .returned .ok => generate (e.devices.getD []) (e.outCount.getD 0).toNat
      | .returned result => .error (.nativeCore "rc_sdl_enumerate_gamepads" result)
      | .thrown | .overrun => .error .undefined

def enumerateGamepads (sdl : Nat → SdlRuntime) : Except Failure (List SdlGamepadDevice) :=
  let e := rcSdlEnumerateGamepads (sdl 0) none 0 (some 0)
  match e.outcome with
  | .returned .ok => attempts sdl 3 1 (e.outCount.getD 0)
  | .returned result => .error (.nativeCore "rc_sdl_enumerate_gamepads(count)" result)
  | .thrown | .overrun => .error .undefined

/-! ### What is shown of a gamepad -/

/-- What an array of `size` characters shows of a string: a beginning of its text, if no
character is cut, and all of it, if it fits. -/
def ShowsText (size : Nat) (bytes : List UInt8) (shown : List Char) : Prop :=
  ∀ text, bytes = encode text → Char.ofNat 0 ∉ text → ¬ Marked text →
    (CutBetween size text → shown <+: text) ∧
      ((encode text).length < size → shown = text)

structure Shows (gamepad : AttachedGamepad) (device : SdlGamepadDevice) : Prop where
  instanceId : device.instanceId = gamepad.instanceId.toNat
  name : ShowsText 128 (gamepad.name.getD (ascii "Unknown SDL gamepad")) device.name
  path : ShowsText 512 (gamepad.path.getD []) device.path
  guid : ShowsText 33 (gamepad.guid.takeWhile fun c => c ≠ 0) device.guid
  vendorId : device.vendorId = gamepad.vendor.toNat
  productId : device.productId = gamepad.product.toNat
  productVersion : device.productVersion = gamepad.productVersion.toNat
  gamepadType : device.gamepadType = gamepad.gamepadType.toUInt32.toNat
  /-- Nothing is known of a gamepad that could not be opened. -/
  closed : gamepad.opened = none →
    device.connectionState = 0 ∧ device.capabilities = 0 ∧ device.supportedButtons = 0
  opened : ∀ o, gamepad.opened = some o → device.connectionState = o.connectionState.toInt ∧
    device.capabilities = capabilities o ∧ device.supportedButtons = supportedButtons o
  isRogAllyX : device.isRogAllyX = true ↔
    gamepad.vendor = kAsusVendorId ∧ gamepad.product = kRogAllyXProductId

theorem showsText_copyUtf8 {n : Nat} (bytes : List UInt8) :
    ShowsText (n + 1) bytes
      (decodeChars ((CharArray.zero (n + 1)).copyUtf8 bytes).1 (n + 1)) := by
  rintro text rfl hnul hmark
  have hne : List.replicate (n + 1) (0 : UInt8) ≠ [] := by simp
  have hlen : (List.replicate (n + 1) (0 : UInt8)).length = n + 1 := List.length_replicate
  have hdecode := decodeChars_copyUtf8 hnul hne
  have hunmarked : ¬ encode [byteOrderMark] <+: keptBytes (n + 1) text := fun h =>
    hmark (marked_iff.mp (h.trans (List.take_prefix _ _)))
  have hsurvives : CutBetween (n + 1) text →
      Survives (List.replicate (n + 1) 0) text := fun hcut => by
    refine (survives_iff hne hnul).mpr ?_
    rw [hlen]
    exact ⟨hcut, .inl hunmarked⟩
  rw [hlen] at hdecode
  refine ⟨fun hcut => ?_, fun hfits => ?_⟩
  · have hbegin := (hsurvives hcut).beginning
    rw [hlen] at hbegin
    exact hbegin
  · show decodeChars (copyUtf8 (List.replicate (n + 1) 0) (encode text)) (n + 1) = text
    rw [hdecode, keptBytes, List.take_of_length_le (by omega)]
    exact utf8Decode_unmarked hmark

theorem shows_record (gamepad : AttachedGamepad) :
    Shows gamepad (gamepadDevice (gamepadRecord gamepad)) where
  instanceId := by
    show (UInt32.ofNat gamepad.instanceId.toNat).toNat = _
    rw [UInt32.ofNat_toNat]
  name := showsText_copyUtf8 _
  path := showsText_copyUtf8 _
  guid := showsText_copyUtf8 _
  vendorId := rfl
  productId := rfl
  productVersion := rfl
  gamepadType := rfl
  closed := by
    intro ho
    simp [gamepadDevice, gamepadRecord, deviceRecord, deviceInfo, ho]
  opened := by
    intro o ho
    simp [gamepadDevice, gamepadRecord, deviceRecord, deviceInfo, ho]
  isRogAllyX := by
    show ((if _ then kRogAllyX else 0) &&& 1 != 0) = true ↔ _
    split
    · rename_i h
      exact iff_of_true rfl h
    · rename_i h
      exact iff_of_false (by decide) h

/-! ### One call -/

/-- The number of gamepads that is known before a call. -/
def counted (sdl : Nat → SdlRuntime) : Nat → Nat
  | 0 => 0
  | k + 1 => (attached (sdl k)).length

/-- There are more gamepads at a call than were counted before it. -/
def Grows (sdl : Nat → SdlRuntime) (k : Nat) : Prop :=
  (sdl k).available = true ∧ counted sdl k < (attached (sdl k)).length

theorem length_allocated (capacity : UInt32) : (allocated capacity).length = capacity.toNat :=
  List.length_replicate

theorem sized_allocated {capacity : UInt32} {n : Nat} :
    ∀ d ∈ (allocated capacity).take n, sized d = true := by
  intro d hd
  obtain rfl := List.eq_of_mem_replicate (List.mem_of_mem_take hd)
  rfl

/-- What a call leaves that finds room for every gamepad. -/
theorem enumerate_call {sdl : SdlRuntime} {capacity : UInt32} (havail : sdl.available = true)
    (hcap : (attached sdl).length ≤ capacity.toNat) :
    rcSdlEnumerateGamepads sdl (some (allocated capacity)) capacity (some capacity) =
      ⟨.returned .ok,
        some ((attached sdl).map gamepadRecord ++ (allocated capacity).drop (attached sdl).length),
        some (UInt32.ofNat (enumerateDevices sdl).length)⟩ := by
  have hlen : (attached sdl).length ≤ (allocated capacity).length := by
    rw [length_allocated]
    exact hcap
  rw [enumerate_loop (by simp) havail hcap, fill_accepted hlen sized_allocated]

theorem enumerate_short {sdl : SdlRuntime} {capacity : UInt32} (havail : sdl.available = true)
    (hcap : capacity.toNat < (attached sdl).length) :
    rcSdlEnumerateGamepads sdl (some (allocated capacity)) capacity (some capacity) =
      ⟨.returned .bufferTooSmall, some (allocated capacity),
        some (UInt32.ofNat (enumerateDevices sdl).length)⟩ := by
  have hfound : capacity.toNat < (enumerateDevices sdl).length := by
    rw [enumerateDevices_eq, List.length_map]
    exact hcap
  rw [rcSdlEnumerateGamepads, if_neg (by simp), if_neg (by simp [havail])]
  simp only [if_pos hfound]

theorem enumerate_unavailable {sdl : SdlRuntime} {capacity : UInt32}
    (havail : ¬ sdl.available = true) :
    rcSdlEnumerateGamepads sdl (some (allocated capacity)) capacity (some capacity) =
      ⟨.returned .backendFailure, some (allocated capacity), some 0⟩ := by
  rw [rcSdlEnumerateGamepads, if_neg (by simp), if_pos (by simpa using havail)]

/-- The devices that are read out of the array are the gamepads of that call. -/
theorem generate_call {sdl : SdlRuntime} (rest : List RcInputDeviceInfoV1) :
    generate ((attached sdl).map gamepadRecord ++ rest)
        (UInt32.ofNat (enumerateDevices sdl).length).toNat =
      .ok ((attached sdl).map fun gamepad => gamepadDevice (gamepadRecord gamepad)) := by
  rw [count_toNat, generate, if_pos (by simp), List.take_left' (List.length_map _), List.map_map]
  rfl

theorem forall₂_shows (gamepads : List AttachedGamepad) :
    List.Forall₂ Shows gamepads
      (gamepads.map fun gamepad => gamepadDevice (gamepadRecord gamepad)) := by
  induction gamepads with
  | nil => exact .nil
  | cons gamepad rest ih => exact .cons (shows_record gamepad) ih

/-! ### The listing -/

/-- The call that is reported to have failed. -/
def operation : Nat → String
  | 0 => "rc_sdl_enumerate_gamepads(count)"
  | _ + 1 => "rc_sdl_enumerate_gamepads"

/-- **How a listing ends.**  The number of gamepads has grown up to the `k`-th call, which
is the first one that finds no more than were counted; the list is that of this one call. -/
inductive Ends (sdl : Nat → SdlRuntime) : Except Failure (List SdlGamepadDevice) → Prop where
  | listed {k devices} (hk : k ≤ 3) (grown : ∀ j < k, Grows sdl j)
      (available : (sdl k).available = true) (fits : (attached (sdl k)).length ≤ counted sdl k)
      (shows : List.Forall₂ Shows (attached (sdl k)) devices) : Ends sdl (.ok devices)
  | unavailable {k} (hk : k ≤ 3) (grown : ∀ j < k, Grows sdl j)
      (gone : (sdl k).available = false) :
      Ends sdl (.error (.nativeCore (operation k) .backendFailure))
  | changing (grown : ∀ j ≤ 3, Grows sdl j) :
      Ends sdl
        (.error (.stateError "SDL gamepad list changed repeatedly during enumeration."))

/-- The loop, from its `k`-th attempt on. -/
theorem attempts_ends {sdl : Nat → SdlRuntime} {n k : Nat} {capacity : UInt32}
    (hn : n + k = 3) (hgrown : ∀ j ≤ k, Grows sdl j)
    (hcap : capacity.toNat = counted sdl (k + 1)) :
    Ends sdl (attempts sdl n (k + 1) capacity) := by
  induction n generalizing k capacity with
  | zero => exact .changing fun j hj => hgrown j (by omega)
  | succ n ih =>
    have hpos : capacity ≠ 0 := by
      rintro rfl
      have hlast := (hgrown k (Nat.le_refl k)).2
      rw [counted] at hcap
      exact absurd hcap.symm (Nat.ne_of_gt (Nat.lt_of_le_of_lt (Nat.zero_le _) hlast))
    have hbefore : ∀ j < k + 1, Grows sdl j := fun j hj => hgrown j (by omega)
    rw [attempts, if_neg hpos]
    by_cases havail : (sdl (k + 1)).available = true
    · by_cases hfits : (attached (sdl (k + 1))).length ≤ capacity.toNat
      · simp only [enumerate_call havail hfits, Option.getD_some, generate_call]
        rw [hcap] at hfits
        exact .listed (by omega) hbefore havail hfits (forall₂_shows _)
      · have hshort : capacity.toNat < (attached (sdl (k + 1))).length := by omega
        simp only [enumerate_short havail hshort, Option.getD_some]
        refine ih (by omega) ?_ (count_toNat _)
        intro j hj
        rcases Nat.lt_or_eq_of_le hj with hlt | rfl
        · exact hbefore j hlt
        · exact ⟨havail, by rw [← hcap]; exact hshort⟩
    · simp only [enumerate_unavailable havail]
      exact .unavailable (k := k + 1) (by omega) hbefore (by simpa using havail)

/-- **How the listing ends**: with the gamepads of one moment, every one and in their order;
or with the failure of the backend; or, when there were more gamepads at each of the four
calls than before it, with the message that they keep changing.  The array is never read or
written past its end. -/
theorem enumerate_ends (sdl : Nat → SdlRuntime) : Ends sdl (enumerateGamepads sdl) := by
  by_cases havail : (sdl 0).available = true
  · have hcall : rcSdlEnumerateGamepads (sdl 0) none 0 (some 0) =
        ⟨.returned .ok, none, some (UInt32.ofNat (enumerateDevices (sdl 0)).length)⟩ := by
      rw [rcSdlEnumerateGamepads, if_neg (by simp), if_neg (by simp [havail])]
    simp only [enumerateGamepads, hcall, Option.getD_some]
    by_cases hnone : (attached (sdl 0)).length = 0
    · have hzero : UInt32.ofNat (enumerateDevices (sdl 0)).length = 0 := by
        rw [← UInt32.toNat_inj, count_toNat, hnone]
        rfl
      rw [attempts, if_pos hzero]
      refine .listed (k := 0) (by omega) (fun j hj => absurd hj (Nat.not_lt_zero j)) havail ?_ ?_
      · rw [hnone]
        exact Nat.zero_le _
      · rw [List.length_eq_zero_iff.mp hnone]
        exact .nil
    · refine attempts_ends (k := 0) (by omega) ?_ (count_toNat _)
      intro j hj
      obtain rfl : j = 0 := by omega
      exact ⟨havail, Nat.pos_of_ne_zero hnone⟩
  · have hcall : rcSdlEnumerateGamepads (sdl 0) none 0 (some 0) =
        ⟨.returned .backendFailure, none, some 0⟩ := by
      rw [rcSdlEnumerateGamepads, if_neg (by simp), if_pos (by simpa using havail)]
    simp only [enumerateGamepads, hcall]
    exact .unavailable (k := 0) (by omega) (fun j hj => absurd hj (Nat.not_lt_zero j))
      (by simpa using havail)

end Abi

end RemoteController
