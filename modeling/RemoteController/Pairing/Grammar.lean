import RemoteController.Pairing.Store
import Mathlib.Data.List.TakeWhile

/-!
# What the key file may say

`ReadPersisted` with its 32-bit accumulator and its out-parameter, against the
grammar of the files that it accepts.

* `KeyText content key`: the content says `key`.
* `readInto_eq`: the 32-bit loop finds what `readPersisted` finds, which counts without
  a bound; `Passes.bounded` is why.
* `scanCode_run`: giving up on a large value early agrees with the value of the whole
  run of digits.
* `readPersisted_exact`: the reader accepts the grammar, and reads what `Persist` writes.
-/

namespace RemoteController

open Lib

namespace PairingKeyStore

/-! ### The loop -/

/-- What one turn of the loop does. -/
inductive Turn where
  | next (value : UInt32) (anyDigit : Bool)
  | leave
  | giveUp
  deriving DecidableEq, Repr

def turn (value : UInt32) (anyDigit : Bool) (c : UInt8) : Turn :=
  if isDigit c then
    if (value * 10 + (c - 48).toUInt32).toNat > kMaxCode then .giveUp
    else .next (value * 10 + (c - 48).toUInt32) true
  else if anyDigit then .leave
  else if c ∈ ascii " \t\r\n" then .next value anyDigit
  else .leave

def scanLoop : List UInt8 → UInt32 → Bool → Option (UInt32 × Bool)
  | [], value, anyDigit => some (value, anyDigit)
  | c :: rest, value, anyDigit =>
    match turn value anyDigit c with
    | .next value anyDigit => scanLoop rest value anyDigit
    | .leave => some (value, anyDigit)
    | .giveUp => none

/-- The loop gets from one of its states to another. -/
inductive Passes : List UInt8 → UInt32 → Bool → List UInt8 → UInt32 → Bool → Prop
  | here {l : List UInt8} {value : UInt32} {anyDigit : Bool} :
      Passes l value anyDigit l value anyDigit
  | next {l rest : List UInt8} {c : UInt8} {value value' value'' : UInt32}
      {anyDigit anyDigit' anyDigit'' : Bool} :
      Passes l value anyDigit (c :: rest) value' anyDigit' →
      turn value' anyDigit' c = .next value'' anyDigit'' →
      Passes l value anyDigit rest value'' anyDigit''

/-- What `ReadPersisted` returns, and `out_key` after it. -/
def readInto (content : List UInt8) (outKey : UInt16) : Bool × UInt16 :=
  match find (ascii "\"pairing_key\"") content with
  | none => (false, outKey)
  | some fromKey =>
    match find (ascii ":") fromKey with
    | none => (false, outKey)
    | some fromColon =>
      match scanLoop fromColon.tail 0 false with
      | none => (false, outKey)
      | some (value, anyDigit) => if !anyDigit then (false, outKey) else (true, value.toUInt16)

/-! ### The accumulator -/

theorem digit_toNat {c : UInt8} (h : isDigit c = true) :
    (c - 48).toUInt32.toNat = c.toNat - 48 ∧ c.toNat - 48 ≤ 9 := by
  simp only [isDigit, Bool.and_eq_true, decide_eq_true_eq] at h
  rw [UInt8.toNat_toUInt32, UInt8.toNat_sub_of_le _ _ (by rw [UInt8.le_iff_toNat_le]; exact h.1)]
  exact ⟨rfl, by have : (48 : UInt8).toNat = 48 := rfl; omega⟩

theorem accumulate_toNat {value : UInt32} {c : UInt8} (hv : value.toNat ≤ kMaxCode)
    (hc : isDigit c = true) :
    (value * 10 + (c - 48).toUInt32).toNat = 10 * value.toNat + (c.toNat - 48) := by
  obtain ⟨hd, h9⟩ := digit_toNat hc
  unfold kMaxCode at hv
  rw [UInt32.toNat_add, UInt32.toNat_mul, hd, show (10 : UInt32).toNat = 10 from rfl]
  omega

theorem turn_next {value value' : UInt32} {anyDigit anyDigit' : Bool} {c : UInt8}
    (hv : value.toNat ≤ kMaxCode) (h : turn value anyDigit c = .next value' anyDigit') :
    value'.toNat ≤ kMaxCode := by
  unfold turn at h
  split at h
  · split at h
    · cases h
    · rename_i hle
      obtain ⟨rfl, _⟩ := Turn.next.inj h
      omega
  · split at h
    · cases h
    · split at h
      · obtain ⟨rfl, _⟩ := Turn.next.inj h
        exact hv
      · cases h

/-- **The accumulator stays at most `kMaxCode`.** -/
theorem Passes.bounded {l rest : List UInt8} {value value' : UInt32} {anyDigit anyDigit' : Bool}
    (h : Passes l value anyDigit rest value' anyDigit') (hv : value.toNat ≤ kMaxCode) :
    value'.toNat ≤ kMaxCode := by
  induction h with
  | here => exact hv
  | next _ ht ih => exact turn_next (ih hv) ht

theorem scanLoop_eq : ∀ (l : List UInt8) (value : UInt32) (anyDigit : Bool),
    value.toNat ≤ kMaxCode →
    scanLoop l value anyDigit =
      (scanCode l value.toNat anyDigit).map fun r => (UInt32.ofNat r.1, r.2) := by
  intro l
  induction l with
  | nil => intro value anyDigit _; simp [scanLoop, scanCode]
  | cons c l ih =>
    intro value anyDigit hv
    rw [scanLoop, scanCode, turn]
    by_cases hc : isDigit c
    · rw [if_pos hc, if_pos hc, accumulate_toNat hv hc]
      by_cases hle : 10 * value.toNat + (c.toNat - 48) > kMaxCode
      · rw [if_pos hle, if_pos hle]
        rfl
      · rw [if_neg hle, if_neg hle, ← accumulate_toNat hv hc]
        exact ih _ _ (by rw [accumulate_toNat hv hc]; omega)
    · rw [if_neg hc, if_neg hc]
      cases anyDigit with
      | true => simp
      | false =>
        rw [if_neg Bool.false_ne_true, if_neg Bool.false_ne_true]
        by_cases hs : c ∈ ascii " \t\r\n"
        · rw [if_pos hs, if_pos hs]
          exact ih _ _ hv
        · rw [if_neg hs, if_neg hs]
          simp

theorem readInto_eq (content : List UInt8) (outKey : UInt16) :
    readInto content outKey =
      match readPersisted content with
      | some key => (true, key)
      | none => (false, outKey) := by
  rw [readInto, readPersisted]
  cases find (ascii "\"pairing_key\"") content with
  | none => rfl
  | some fromKey =>
    cases hcolon : find (ascii ":") fromKey with
    | none => simp only [hcolon]
    | some fromColon =>
      simp only [hcolon, scanLoop_eq fromColon.tail 0 false (Nat.zero_le _)]
      rw [show (0 : UInt32).toNat = 0 from rfl]
      cases scanCode fromColon.tail 0 false with
      | none => rfl
      | some r =>
        obtain ⟨value, anyDigit⟩ := r
        cases anyDigit with
        | false => rfl
        | true => simp

/-! ### Searching -/

/-- The first place in `content` with the text `pattern`, cut off there. -/
structure FirstAt (pattern content before rest : List UInt8) : Prop where
  whole : content = before ++ rest
  here : pattern <+: rest
  first : ∀ n, n < before.length → ¬ pattern <+: content.drop n

theorem find_eq_some {pattern : List UInt8} : ∀ {content rest : List UInt8},
    find pattern content = some rest ↔ ∃ before, FirstAt pattern content before rest := by
  intro content
  induction content with
  | nil =>
    intro rest
    rw [find]
    constructor
    · intro h
      split at h
      · rename_i he
        obtain rfl := Option.some.inj h
        exact ⟨[], rfl, by simp [List.isEmpty_iff.mp he], by simp⟩
      · cases h
    · rintro ⟨before, hw, hh, _⟩
      obtain ⟨rfl, rfl⟩ := List.append_eq_nil_iff.mp hw.symm
      rw [if_pos (by simpa using hh)]
  | cons c content ih =>
    intro rest
    rw [find]
    by_cases hp : pattern.isPrefixOf (c :: content) = true
    · rw [if_pos hp]
      constructor
      · intro h
        obtain rfl := Option.some.inj h
        exact ⟨[], rfl, List.isPrefixOf_iff_prefix.mp hp, by simp⟩
      · rintro ⟨before, hw, hh, hf⟩
        cases before with
        | nil => rw [hw]; rfl
        | cons b before =>
          exact absurd (List.isPrefixOf_iff_prefix.mp hp) (hf 0 (by simp))
    · rw [if_neg hp, ih]
      constructor
      · rintro ⟨before, hw, hh, hf⟩
        refine ⟨c :: before, by rw [hw]; rfl, hh, ?_⟩
        intro n hn
        cases n with
        | zero => exact fun h => hp (List.isPrefixOf_iff_prefix.mpr h)
        | succ n => exact hf n (by simpa using hn)
      · rintro ⟨before, hw, hh, hf⟩
        cases before with
        | nil =>
          obtain rfl : c :: content = rest := hw
          exact absurd (List.isPrefixOf_iff_prefix.mpr hh) hp
        | cons b before =>
          obtain ⟨_, rfl⟩ := List.cons.inj hw
          exact ⟨before, rfl, hh, fun n hn => hf (n + 1) (by simpa using hn)⟩

/-- Of one byte the first place has none before it. -/
theorem firstAt_byte {b : UInt8} {content before rest : List UInt8} :
    FirstAt [b] content before rest ↔
      content = before ++ rest ∧ b ∉ before ∧ ∃ tail, rest = b :: tail := by
  constructor
  · rintro ⟨hw, ⟨tail, hh⟩, hf⟩
    refine ⟨hw, ?_, tail, hh.symm⟩
    intro hb
    obtain ⟨l, r, rfl⟩ := List.append_of_mem hb
    refine hf l.length (by simp) ⟨r ++ rest, ?_⟩
    rw [hw]
    simp
  · rintro ⟨hw, hb, tail, hh⟩
    refine ⟨hw, ⟨tail, hh.symm⟩, ?_⟩
    rintro n hn ⟨r, hr⟩
    apply hb
    rw [hw, List.drop_append_of_le_length (Nat.le_of_lt hn)] at hr
    have hmem : b ∈ before.drop n ++ rest := by rw [← hr]; simp
    cases hd : before.drop n with
    | nil => rw [List.drop_eq_nil_iff] at hd; omega
    | cons d l =>
      rw [hd] at hr
      obtain ⟨rfl, _⟩ := List.cons.inj hr
      exact List.mem_of_mem_drop (by rw [hd]; exact List.mem_cons_self)

/-! ### The number -/

/-- Behind a digit the loop reads the whole run, and gives up if its value is too large. -/
theorem scanCode_run : ∀ (l : List UInt8) (v : Nat), v ≤ kMaxCode →
    scanCode l v true =
      if decimalValue (l.takeWhile isDigit) v ≤ kMaxCode then
        some (decimalValue (l.takeWhile isDigit) v, true)
      else none := by
  intro l
  induction l with
  | nil => intro v hv; rw [scanCode, List.takeWhile_nil, decimalValue, if_pos hv]
  | cons c l ih =>
    intro v hv
    rw [scanCode]
    by_cases hc : isDigit c
    · rw [if_pos hc, List.takeWhile_cons_of_pos hc, decimalValue]
      by_cases hle : 10 * v + (c.toNat - 48) > kMaxCode
      · -- the digits that follow do not make the value smaller
        have hmono := le_decimalValue (l.takeWhile isDigit) (10 * v + (c.toNat - 48))
        rw [if_pos hle, if_neg (by omega)]
      · rw [if_neg hle]
        exact ih _ (by omega)
    · rw [if_neg hc, if_pos rfl, List.takeWhile_cons_of_neg hc, decimalValue, if_pos hv]

theorem isDigit_space {c : UInt8} (h : c ∈ ascii " \t\r\n") : isDigit c = false := by
  have hall : (ascii " \t\r\n").all (fun c => !isDigit c) = true := by decide
  simpa using List.all_eq_true.mp hall c h

/-- Zero or more of space, tab, CR, LF, then digits, then no digit. -/
structure Number (l space digits after : List UInt8) : Prop where
  whole : l = space ++ (digits ++ after)
  blank : ∀ c ∈ space, c ∈ ascii " \t\r\n"
  allDigits : ∀ c ∈ digits, isDigit c = true
  nonempty : digits ≠ []
  maximal : ∀ c ∈ after.head?, isDigit c = false

theorem Number.takeWhile {l space digits after : List UInt8} (h : Number l space digits after) :
    (digits ++ after).takeWhile isDigit = digits := by
  rw [List.takeWhile_append_of_pos h.allDigits]
  cases after with
  | nil => simp
  | cons c after =>
    rw [List.takeWhile_cons_of_neg (by simpa using h.maximal c rfl), List.append_nil]

theorem scanCode_space {space : List UInt8} : ∀ (rest : List UInt8),
    (∀ c ∈ space, c ∈ ascii " \t\r\n") →
    scanCode (space ++ rest) 0 false = scanCode rest 0 false := by
  induction space with
  | nil => intro rest _; rfl
  | cons c space ih =>
    intro rest hb
    have hc := hb c List.mem_cons_self
    rw [List.cons_append, scanCode, if_neg (by simp [isDigit_space hc]),
      if_neg Bool.false_ne_true, if_pos hc]
    exact ih rest fun d hd => hb d (List.mem_cons_of_mem _ hd)

theorem scanCode_first {c : UInt8} {rest : List UInt8} (hc : isDigit c = true) :
    scanCode (c :: rest) 0 false = scanCode (c :: rest) 0 true := by
  rw [scanCode, scanCode, if_pos hc, if_pos hc]

/-- **The loop behind the colon** finds the number there, whatever its length. -/
theorem scanCode_eq_some {l : List UInt8} {v : Nat} : scanCode l 0 false = some (v, true) ↔
    ∃ space digits after, Number l space digits after ∧ decimalValue digits 0 = v ∧
      v ≤ kMaxCode := by
  constructor
  · induction l with
    | nil => intro h; cases h
    | cons c l ih =>
      intro h
      by_cases hc : isDigit c
      · rw [scanCode_first hc, scanCode_run _ _ (Nat.zero_le _)] at h
        split at h
        · rename_i hle
          obtain rfl : decimalValue ((c :: l).takeWhile isDigit) 0 = v := by simpa using h
          refine ⟨[], (c :: l).takeWhile isDigit, (c :: l).dropWhile isDigit,
            ⟨List.takeWhile_append_dropWhile.symm, by simp, ?_, ?_, ?_⟩, rfl, hle⟩
          · exact fun d hd => List.mem_takeWhile_imp hd
          · rw [List.takeWhile_cons_of_pos hc]
            exact List.cons_ne_nil _ _
          · intro d hd
            have := List.head?_dropWhile_not isDigit (c :: l)
            rw [Option.mem_def.mp hd] at this
            simpa using this
        · cases h
      · rw [scanCode, if_neg hc, if_neg Bool.false_ne_true] at h
        split at h
        · rename_i hs
          obtain ⟨space, digits, after, hn, hv⟩ := ih h
          refine ⟨c :: space, digits, after, ⟨by rw [hn.whole]; rfl, ?_, hn.allDigits, hn.nonempty,
            hn.maximal⟩, hv⟩
          intro d hd
          rcases List.mem_cons.mp hd with rfl | hd
          · exact hs
          · exact hn.blank d hd
        · cases h
  · rintro ⟨space, digits, after, hn, rfl, hle⟩
    rw [hn.whole, scanCode_space _ hn.blank]
    have htake := hn.takeWhile
    cases digits with
    | nil => exact absurd rfl hn.nonempty
    | cons c digits =>
      rw [List.cons_append] at htake ⊢
      rw [scanCode_first (hn.allDigits c List.mem_cons_self), scanCode_run _ _ (Nat.zero_le _),
        htake, if_pos hle]

/-! ### The grammar -/

/-- **The content says `key`.** -/
def KeyText (content : List UInt8) (key : UInt16) : Prop :=
  ∃ before fromKey skipped tail space digits after,
    FirstAt (ascii "\"pairing_key\"") content before fromKey ∧
    fromKey = skipped ++ 58 :: tail ∧ 58 ∉ skipped ∧
    Number tail space digits after ∧ decimalValue digits 0 = key.toNat ∧ key.toNat ≤ kMaxCode

theorem readPersisted_eq_some {content : List UInt8} {key : UInt16} :
    readPersisted content = some key ↔
      ∃ fromKey fromColon, find (ascii "\"pairing_key\"") content = some fromKey ∧
        find (ascii ":") fromKey = some fromColon ∧
        scanCode fromColon.tail 0 false = some (key.toNat, true) := by
  constructor
  · intro h
    have hle := readPersisted_le h
    rw [readPersisted] at h
    split at h
    · cases h
    · rename_i fromKey hkey
      split at h
      · cases h
      · rename_i fromColon hcolon
        split at h
        · rename_i value hscan
          refine ⟨fromKey, fromColon, hkey, hcolon, ?_⟩
          obtain rfl := Option.some.inj h
          have hv : value ≤ 9999 := scanCode_le _ 0 false (Nat.zero_le _) _ hscan
          rw [hscan, UInt16.toNat_ofNat', Nat.mod_eq_of_lt (by omega)]
        · cases h
  · rintro ⟨fromKey, fromColon, hkey, hcolon, hscan⟩
    rw [readPersisted, hkey]
    simp only [hcolon, hscan]
    exact congrArg some UInt16.ofNat_toNat

theorem readPersisted_iff {content : List UInt8} {key : UInt16} :
    readPersisted content = some key ↔ KeyText content key := by
  rw [readPersisted_eq_some]
  constructor
  · rintro ⟨fromKey, fromColon, hkey, hcolon, hscan⟩
    obtain ⟨before, hb⟩ := find_eq_some.mp hkey
    obtain ⟨skipped, hs⟩ := find_eq_some.mp hcolon
    obtain ⟨hw, hn, tail, rfl⟩ := firstAt_byte.mp hs
    obtain ⟨space, digits, after, hnum, hv, hle⟩ := scanCode_eq_some.mp hscan
    exact ⟨before, fromKey, skipped, tail, space, digits, after, hb, hw, hn, hnum, hv, hle⟩
  · rintro ⟨before, fromKey, skipped, tail, space, digits, after, hb, hw, hn, hnum, hv, hle⟩
    refine ⟨fromKey, 58 :: tail, find_eq_some.mpr ⟨before, hb⟩, ?_, ?_⟩
    · exact find_eq_some.mpr ⟨skipped, firstAt_byte.mpr ⟨hw, hn, tail, rfl⟩⟩
    · exact scanCode_eq_some.mpr ⟨space, digits, after, hnum, hv, hle⟩

/-- **The reader accepts its grammar**, leaves `out_key` alone otherwise, never overflows,
and reads what `Persist` writes. -/
theorem readPersisted_exact (content : List UInt8) (outKey : UInt16) :
    (∀ key, readInto content outKey = (true, key) ↔ KeyText content key) ∧
      ((¬ ∃ key, KeyText content key) → readInto content outKey = (false, outKey)) ∧
      (∀ l c rest value anyDigit, Passes l 0 false (c :: rest) value anyDigit →
        isDigit c = true → value.toNat * 10 + (c.toNat - 48) < UInt32.size) ∧
      ∀ key : UInt16, key.toNat ≤ kMaxCode → readInto (persisted key) outKey = (true, key) := by
  refine ⟨?_, ?_, ?_, ?_⟩
  · intro key
    rw [← readPersisted_iff, readInto_eq]
    cases readPersisted content with
    | none => simp
    | some k => simp
  · intro h
    rw [readInto_eq]
    cases hr : readPersisted content with
    | none => rfl
    | some key => exact absurd ⟨key, readPersisted_iff.mp hr⟩ h
  · intro l c rest value anyDigit h hc
    have hv := h.bounded (Nat.zero_le _)
    have h9 := (digit_toNat hc).2
    unfold kMaxCode at hv
    rw [UInt32.size]
    omega
  · intro key hk
    rw [readInto_eq, readPersisted_persisted hk]

/-- Leading zeros, and a value that ends at a letter. -/
example : readInto (ascii "\x7b\"pairing_key\": \t0042x") 7 = (true, 42) := by decide

end PairingKeyStore

end RemoteController
