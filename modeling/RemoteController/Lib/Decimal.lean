import Mathlib.Data.Nat.Notation

/-!
# Decimal numbers in bytes

`decimal n` is how a number is printed, and `decimalValue` what a reader makes of
a run of digits, multiplying by ten and adding.

* `decimalValue_decimal`: a printed number is read back.
* `le_decimalValue`: reading more digits never makes the value smaller, so a
  reader may give up as soon as a bound is passed.
-/

namespace Lib

/-- The bytes of an ASCII text. -/
def ascii (s : String) : List UInt8 := s.toList.map fun c => UInt8.ofNat c.toNat

/-- `'0'..'9'`. -/
def isDigit (b : UInt8) : Bool := 48 ≤ b.toNat && b.toNat ≤ 57

/-- The value of a run of digits behind a number already read. -/
def decimalValue : List UInt8 → Nat → Nat
  | [], v => v
  | b :: l, v => decimalValue l (10 * v + (b.toNat - 48))

/-- The number in decimal, without leading zeros. -/
def decimal (n : Nat) : List UInt8 := (Nat.toDigits 10 n).map fun c => UInt8.ofNat c.toNat

theorem le_decimalValue : ∀ (l : List UInt8) (v : Nat), v ≤ decimalValue l v := by
  intro l
  induction l with
  | nil => intro v; exact Nat.le_refl v
  | cons b l ih =>
    intro v
    have := ih (10 * v + (b.toNat - 48))
    rw [decimalValue]
    omega

theorem ten_mul_le_decimalValue {l : List UInt8} (h : l ≠ []) (v : Nat) :
    10 * v ≤ decimalValue l v := by
  cases l with
  | nil => exact absurd rfl h
  | cons b l =>
    have := le_decimalValue l (10 * v + (b.toNat - 48))
    rw [decimalValue]
    omega

theorem decimalValue_append : ∀ (l m : List UInt8) (v : Nat),
    decimalValue (l ++ m) v = decimalValue m (decimalValue l v) := by
  intro l
  induction l with
  | nil => intro m v; rfl
  | cons b l ih => intro m v; exact ih m _

/-- The byte of a digit character. -/
theorem toNat_of_isDigit {c : Char} (h : c.isDigit = true) :
    48 ≤ c.toNat ∧ c.toNat ≤ 57 ∧ (UInt8.ofNat c.toNat).toNat = c.toNat := by
  simp only [Char.isDigit, ge_iff_le, Bool.and_eq_true, decide_eq_true_eq] at h
  have h0 : 48 ≤ c.toNat := h.1
  have h9 : c.toNat ≤ 57 := h.2
  refine ⟨h0, h9, ?_⟩
  rw [UInt8.toNat_ofNat']
  omega

theorem isDigit_of_mem_decimal {n : Nat} {b : UInt8} (h : b ∈ decimal n) : isDigit b = true := by
  obtain ⟨c, hc, rfl⟩ := List.mem_map.mp h
  obtain ⟨h0, h9, he⟩ := toNat_of_isDigit (Nat.isDigit_of_mem_toDigits (by decide) (by decide) hc)
  simp [isDigit, he, h0, h9]

theorem decimal_ne_nil (n : Nat) : decimal n ≠ [] := by
  rw [decimal, ne_eq, List.map_eq_nil_iff]
  exact Nat.toDigits_ne_nil

theorem decimalValue_map : ∀ (l : List Char) (v : Nat), (∀ c ∈ l, c.isDigit = true) →
    decimalValue (l.map fun c => UInt8.ofNat c.toNat) v = Nat.ofDigitChars 10 l v := by
  intro l
  induction l with
  | nil => intro v _; rw [Nat.ofDigitChars_nil]; rfl
  | cons c l ih =>
    intro v h
    obtain ⟨_, _, he⟩ := toNat_of_isDigit (h c List.mem_cons_self)
    rw [List.map_cons, decimalValue, he, Nat.ofDigitChars_cons,
      ih _ fun d hd => h d (List.mem_cons_of_mem _ hd)]
    rfl

/-- **A printed number is read back.** -/
theorem decimalValue_decimal (n : Nat) : decimalValue (decimal n) 0 = n := by
  rw [decimal, decimalValue_map _ _ fun c hc =>
    Nat.isDigit_of_mem_toDigits (by decide) (by decide) hc]
  exact Nat.ofDigitChars_ten_toDigits

/-- A printed number that is cut off reads as another one. -/
theorem decimalValue_take_ne {n m : Nat} (h0 : 0 < m) (hm : m < (decimal n).length) :
    decimalValue ((decimal n).take m) 0 ≠ n := by
  intro he
  have hdrop : (decimal n).drop m ≠ [] := by
    rw [ne_eq, List.drop_eq_nil_iff]
    omega
  have hwhole := decimalValue_append ((decimal n).take m) ((decimal n).drop m) 0
  rw [List.take_append_drop, decimalValue_decimal, he] at hwhole
  have hten := ten_mul_le_decimalValue hdrop n
  -- only 0 is ten times itself, and it has one digit
  obtain rfl : n = 0 := by omega
  have hlen : (decimal 0).length = 1 := rfl
  omega

end Lib
