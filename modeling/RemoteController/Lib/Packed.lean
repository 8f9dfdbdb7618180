import Mathlib.Data.List.Forall2
import Mathlib.Tactic.Ring

/-!
# Packed little-endian records

A record laid out without padding is a list of widths, in bytes; its content is
the list of the fields' values.  `pack` writes the values one after another,
lowest byte first, and `unpack` reads them back.

* `unpack_pack`: values that fit their widths are read back.
* `pack_unpack`: a buffer of exactly the record's size is rewritten byte for
  byte, so a packed record has no unread bit.
-/

namespace Lib

/-- The low `n` bytes of `v`, lowest first. -/
def leBytes : Nat → Nat → List UInt8
  | 0, _ => []
  | n + 1, v => UInt8.ofNat (v % 256) :: leBytes n (v / 256)

/-- The number whose bytes are given, lowest first. -/
def leValue : List UInt8 → Nat
  | [] => 0
  | b :: r => b.toNat + 256 * leValue r

@[simp] theorem leBytes_length : ∀ n v, (leBytes n v).length = n := by
  intro n
  induction n with
  | zero => intro v; rfl
  | succ n ih => intro v; simp [leBytes, ih]

theorem leValue_leBytes : ∀ n v, v < 256 ^ n → leValue (leBytes n v) = v := by
  intro n
  induction n with
  | zero => intro v hv; simp [leBytes, leValue] at hv ⊢; omega
  | succ n ih =>
    intro v hv
    have hq : v / 256 < 256 ^ n := by rw [pow_succ] at hv; omega
    simp only [leBytes, leValue, ih _ hq, UInt8.toNat_ofNat']
    omega

theorem leBytes_leValue : ∀ l : List UInt8, leBytes l.length (leValue l) = l := by
  intro l
  induction l with
  | nil => rfl
  | cons b r ih =>
    have hb := b.toNat_lt
    have hm : (b.toNat + 256 * leValue r) % 256 = b.toNat := by omega
    have hd : (b.toNat + 256 * leValue r) / 256 = leValue r := by omega
    rw [List.length_cons, leBytes, leValue, hm, hd, ih]
    simp

theorem leValue_lt : ∀ l : List UInt8, leValue l < 256 ^ l.length := by
  intro l
  induction l with
  | nil => simp [leValue]
  | cons b r ih =>
    have hb := b.toNat_lt
    rw [leValue, List.length_cons, pow_succ]
    omega

/-- The fields' bytes, one after another; a field without a value is zero. -/
def pack : List Nat → List Nat → List UInt8
  | [], _ => []
  | w :: ws, [] => leBytes w 0 ++ pack ws []
  | w :: ws, v :: vs => leBytes w v ++ pack ws vs

/-- Read each field from the front of the buffer. -/
def unpack : List Nat → List UInt8 → List Nat
  | [], _ => []
  | w :: ws, bytes => leValue (bytes.take w) :: unpack ws (bytes.drop w)

@[simp] theorem pack_length : ∀ ws vs, (pack ws vs).length = ws.sum := by
  intro ws
  induction ws with
  | nil => intro vs; rfl
  | cons w ws ih => intro vs; cases vs <;> simp [pack, ih]

@[simp] theorem unpack_length : ∀ ws bytes, (unpack ws bytes).length = ws.length := by
  intro ws
  induction ws with
  | nil => intro bytes; rfl
  | cons w ws ih => intro bytes; simp [unpack, ih]

/-- **What was packed is read back.** -/
theorem unpack_pack {ws vs : List Nat} (h : List.Forall₂ (fun w v => v < 256 ^ w) ws vs) :
    unpack ws (pack ws vs) = vs := by
  induction h with
  | nil => rfl
  | @cons w v ws vs hv _ ih =>
    have ht : (leBytes w v ++ pack ws vs).take w = leBytes w v :=
      List.take_left' (leBytes_length w v)
    have hd : (leBytes w v ++ pack ws vs).drop w = pack ws vs :=
      List.drop_left' (leBytes_length w v)
    rw [pack, unpack, ht, hd, leValue_leBytes w v hv, ih]

/-- **A buffer of the record's size is determined by the fields read from it.** -/
theorem pack_unpack : ∀ (ws : List Nat) (bytes : List UInt8), bytes.length = ws.sum →
    pack ws (unpack ws bytes) = bytes := by
  intro ws
  induction ws with
  | nil => intro bytes h; simp [pack, List.length_eq_zero_iff.mp (by simpa using h)]
  | cons w ws ih =>
    intro bytes h
    rw [List.sum_cons] at h
    have ht : (bytes.take w).length = w := by rw [List.length_take]; omega
    have hd : (bytes.drop w).length = ws.sum := by rw [List.length_drop]; omega
    have hb : leBytes w (leValue (bytes.take w)) = bytes.take w := by
      have := leBytes_leValue (bytes.take w)
      rwa [ht] at this
    rw [unpack, pack, ih _ hd, hb, List.take_append_drop]

/-- Only the record's own bytes are read. -/
theorem unpack_take : ∀ (ws : List Nat) (bytes : List UInt8),
    unpack ws (bytes.take ws.sum) = unpack ws bytes := by
  intro ws
  induction ws with
  | nil => intro bytes; rfl
  | cons w ws ih =>
    intro bytes
    have ht : (bytes.take (w + ws.sum)).take w = bytes.take w := by
      rw [List.take_take, Nat.min_eq_left (by omega)]
    have hd : (bytes.take (w + ws.sum)).drop w = (bytes.drop w).take ws.sum := by
      rw [List.drop_take, Nat.add_sub_cancel_left]
    rw [List.sum_cons, unpack, unpack, ht, hd, ih]

/-- Each field read fits its width. -/
theorem unpack_lt : ∀ (ws : List Nat) (bytes : List UInt8),
    List.Forall₂ (fun w v => v < 256 ^ w) ws (unpack ws bytes) := by
  intro ws
  induction ws with
  | nil => intro bytes; exact .nil
  | cons w ws ih =>
    intro bytes
    refine .cons ?_ (ih _)
    calc leValue (bytes.take w) < 256 ^ (bytes.take w).length := leValue_lt _
      _ ≤ 256 ^ w := Nat.pow_le_pow_right (by omega) (List.length_take_le w bytes)

end Lib
