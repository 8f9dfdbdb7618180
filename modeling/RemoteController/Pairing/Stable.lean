import RemoteController.Pairing.Store

/-!
# A store whose writes may fail

`Persist` says nothing of a write that failed, so `Get` and `Regenerate` return a
code that the file may not hold.  Here any write may fail in any way, and the calls
come in any order on any key file.

* `Stable`: every `Get` returns the code that was returned last.
* `Kept`: every code that a `Get` has to return next reached the file, or the `Get`
  comes to it all the same.
* `stable_iff`: the two are the same.
-/

namespace RemoteController

open Lib

namespace PairingKeyStore

/-- A call, with the value drawn for it and the fate of its write. -/
inductive Call where
  | get (value : UInt32) (write : Write)
  | regenerate (value : UInt32) (write : Write)
  deriving DecidableEq, Repr

def Call.run (file : KeyFile) : Call → KeyFile × UInt16
  | .get value write => PairingKeyStore.get file value write
  | .regenerate value write => PairingKeyStore.regenerate file value write

/-- The codes that the calls return. -/
def codes : KeyFile → List Call → List UInt16
  | _, [] => []
  | file, c :: calls => (c.run file).2 :: codes (c.run file).1 calls

/-- Every `Get` among the calls returns the code returned before it. -/
def Stable : KeyFile → List Call → Prop
  | file, c :: .get value write :: calls =>
    ((Call.get value write).run (c.run file).1).2 = (c.run file).2 ∧
      Stable (c.run file).1 (.get value write :: calls)
  | file, c :: calls => Stable (c.run file).1 calls
  | _, [] => True

/-- The bytes before the code in the text of `Persist`. -/
def codeOffset : Nat := 19

/-- A `Get` that draws `redrawn` if it has to returns `key`, after the write of `key`
went this way. -/
def Write.keeps (file : KeyFile) (key redrawn : UInt16) : Write → Prop
  | .ok => True
  | .notOpened => stored file = some key ∨ stored file = none ∧ redrawn = key
  | .cut n => codeOffset + (decimal key.toNat).length ≤ n ∨ n ≤ codeOffset ∧ redrawn = key

/-- What the call writes, if it writes. -/
def Call.persists (file : KeyFile) : Call → Option (UInt16 × Write)
  | .get value write => if (stored file).isSome then none else some (generate value, write)
  | .regenerate value write => some (generate value, write)

/-- Each write is one that the `Get` behind it can do with. -/
def Kept : KeyFile → List Call → Prop
  | file, c :: .get value write :: calls =>
    (∀ w ∈ c.persists file, w.2.keeps file w.1 (generate value)) ∧
      Kept (c.run file).1 (.get value write :: calls)
  | file, c :: calls => Kept (c.run file).1 calls
  | _, [] => True

/-! ### What a cut write leaves -/

/-- The code a scan came to. -/
def scanned : Option (Nat × Bool) → Option UInt16
  | some (value, true) => some (UInt16.ofNat value)
  | _ => none

/-- The scanner finds the code at its place. -/
theorem readPersisted_eq (rest : List UInt8) :
    readPersisted (ascii "\x7b\n  \"pairing_key\": " ++ rest) =
      scanned (scanCode rest 0 false) := by
  have hkey : find (ascii "\"pairing_key\"") (ascii "\x7b\n  \"pairing_key\": " ++ rest) =
      some (ascii "\"pairing_key\": " ++ rest) := rfl
  have hcolon : find (ascii ":") (ascii "\"pairing_key\": " ++ rest) =
      some (ascii ": " ++ rest) := rfl
  have hspace : scanCode (ascii ": " ++ rest).tail 0 false = scanCode rest 0 false := rfl
  rw [readPersisted, hkey]
  simp only [hcolon, hspace]
  rcases scanCode rest 0 false with _ | ⟨value, _ | _⟩ <;> rfl

/-- The scan stops at the end of the digits, wherever the text behind them is cut. -/
theorem scanCode_tail (n value : Nat) :
    scanCode ((ascii "\n\x7d\n").take n) value true = some (value, true) := by
  cases n <;> rfl

/-- **What the first bytes of the text read as**: nothing before the first digit, the
code behind the last one, and another code in between. -/
theorem readPersisted_take {key : UInt16} (h : key.toNat ≤ kMaxCode) (n : Nat) :
    (codeOffset + (decimal key.toNat).length ≤ n →
      readPersisted ((persisted key).take n) = some key) ∧
    (n ≤ codeOffset → readPersisted ((persisted key).take n) = none) ∧
    (codeOffset < n → n < codeOffset + (decimal key.toNat).length →
      ∃ other ≠ key, readPersisted ((persisted key).take n) = some other) := by
  have hhead : (ascii "\x7b\n  \"pairing_key\": ").length = codeOffset := rfl
  have hdigits : ∀ b ∈ decimal key.toNat, isDigit b = true := fun b hb => isDigit_of_mem_decimal hb
  have htext : persisted key = ascii "\x7b\n  \"pairing_key\": " ++
      (decimal key.toNat ++ ascii "\n\x7d\n") := List.append_assoc _ _ _
  refine ⟨fun hn => ?_, fun hn => ?_, fun hlow hhigh => ?_⟩
  · obtain ⟨j, rfl⟩ := Nat.exists_eq_add_of_le hn
    have hne : (decimal key.toNat).isEmpty = false := by
      rw [List.isEmpty_eq_false_iff]
      exact decimal_ne_nil _
    rw [htext, Nat.add_assoc, ← hhead, List.take_length_add_append, List.take_length_add_append,
      readPersisted_eq, scanCode_digits _ _ _ _ hdigits (by rw [decimalValue_decimal]; exact h),
      decimalValue_decimal, hne]
    simp only [Bool.not_false, Bool.or_true, scanCode_tail, scanned]
    exact congrArg some UInt16.ofNat_toNat
  · rw [htext, List.take_append_of_le_length (hhead ▸ hn)]
    have hall : ∀ n ≤ codeOffset,
        readPersisted ((ascii "\x7b\n  \"pairing_key\": ").take n) = none := by decide
    exact hall n hn
  · obtain ⟨m, rfl⟩ := Nat.exists_eq_add_of_le (Nat.le_of_lt hlow)
    have h0 : 0 < m := by omega
    have hm : m < (decimal key.toNat).length := by omega
    have hle : decimalValue ((decimal key.toNat).take m) 0 ≤ key.toNat := by
      have hrest := le_decimalValue ((decimal key.toNat).drop m)
        (decimalValue ((decimal key.toNat).take m) 0)
      rwa [← decimalValue_append, List.take_append_drop, decimalValue_decimal] at hrest
    have hne : ((decimal key.toNat).take m).isEmpty = false := by
      rw [List.isEmpty_eq_false_iff, ne_eq, List.take_eq_nil_iff, not_or]
      exact ⟨Nat.ne_of_gt h0, decimal_ne_nil key.toNat⟩
    refine ⟨UInt16.ofNat (decimalValue ((decimal key.toNat).take m) 0), ?_, ?_⟩
    · intro he
      have hvalue := congrArg UInt16.toNat he
      rw [UInt16.toNat_ofNat_of_lt' (Nat.lt_of_le_of_lt hle key.toNat_lt)] at hvalue
      exact decimalValue_take_ne h0 hm hvalue
    · have hscan := scanCode_digits [] ((decimal key.toNat).take m) 0 false
        (fun b hb => hdigits b (List.mem_of_mem_take hb)) (Nat.le_trans hle h)
      rw [List.append_nil, hne] at hscan
      rw [htext, ← hhead, List.take_length_add_append,
        List.take_append_of_le_length (Nat.le_of_lt hm), readPersisted_eq, hscan]
      rfl

/-! ### Which writes do -/

theorem run_le (file : KeyFile) (c : Call) : (c.run file).2.toNat ≤ kMaxCode := by
  cases c with
  | get value write => exact get_le file value write
  | regenerate value write => exact regenerate_le file value write

theorem codes_le : ∀ (calls : List Call) (file : KeyFile), ∀ code ∈ codes file calls,
    code.toNat ≤ kMaxCode := by
  intro calls
  induction calls with
  | nil => intro file code h; cases h
  | cons c calls ih =>
    intro file code h
    rcases List.mem_cons.mp h with rfl | h
    · exact run_le file c
    · exact ih _ code h

/-- What `Get` returns. -/
theorem get_eq_iff (file : KeyFile) (value : UInt32) (write : Write) (key : UInt16) :
    (PairingKeyStore.get file value write).2 = key ↔
      stored file = some key ∨ stored file = none ∧ generate value = key := by
  rw [PairingKeyStore.get]
  cases hs : stored file with
  | none => simp
  | some k => simp

/-- **Which writes keep a code** for the `Get` behind them. -/
theorem keeps_iff (file : KeyFile) {key : UInt16} (h : key.toNat ≤ kMaxCode) (write : Write)
    (redrawn : UInt16) : write.keeps file key redrawn ↔
      stored (persist file key write) = some key ∨
        stored (persist file key write) = none ∧ redrawn = key := by
  cases write with
  | ok => exact iff_of_true trivial (Or.inl (readPersisted_persisted h))
  | notOpened => exact Iff.rfl
  | cut n =>
    obtain ⟨hwhole, hnothing, hother⟩ := readPersisted_take h n
    have hstored : stored (persist file key (.cut n)) =
        readPersisted ((persisted key).take n) := rfl
    have hpos : 0 < (decimal key.toNat).length := List.length_pos_iff.mpr (decimal_ne_nil _)
    rw [hstored, Write.keeps]
    by_cases hlow : n ≤ codeOffset
    · rw [hnothing hlow]
      have hshort : ¬ codeOffset + (decimal key.toNat).length ≤ n := by omega
      simp [hlow, hshort]
    · by_cases hhigh : codeOffset + (decimal key.toNat).length ≤ n
      · exact iff_of_true (Or.inl hhigh) (Or.inl (hwhole hhigh))
      · obtain ⟨other, hne, he⟩ := hother (by omega) (by omega)
        rw [he]
        simp [hlow, hhigh, hne]

/-- A `Get` returns the code of the call before it exactly when that call's write, if
it made one, keeps the code. -/
theorem get_after_iff (file : KeyFile) (c : Call) (value : UInt32) (write : Write) :
    (PairingKeyStore.get (c.run file).1 value write).2 = (c.run file).2 ↔
      ∀ w ∈ c.persists file, w.2.keeps file w.1 (generate value) := by
  rw [get_eq_iff]
  cases c with
  | get v w =>
    cases hs : stored file with
    | some key =>
      have hrun : (Call.get v w).run file = (file, key) := get_of_stored hs v w
      rw [hrun]
      simp [Call.persists, hs]
    | none =>
      have hrun : (Call.get v w).run file = (persist file (generate v) w, generate v) := by
        simp only [Call.run, PairingKeyStore.get, hs]
      rw [hrun, ← keeps_iff file (generate_le v)]
      simp [Call.persists, hs]
  | regenerate v w =>
    have hrun : (Call.regenerate v w).run file = (persist file (generate v) w, generate v) := rfl
    rw [hrun, ← keeps_iff file (generate_le v)]
    simp [Call.persists]

theorem stable_iff_kept : ∀ (calls : List Call) (file : KeyFile),
    Stable file calls ↔ Kept file calls := by
  intro calls
  induction calls with
  | nil => intro file; exact Iff.rfl
  | cons c calls ih =>
    intro file
    cases calls with
    | nil => exact ih (c.run file).1
    | cons d calls =>
      cases d with
      | get value write => exact and_congr (get_after_iff file c value write) (ih _)
      | regenerate value write => exact ih _

/-- **When the store is stable.**  On any key file, for any calls and any failures of
their writes, every code is at most 9999; and every `Get` returns the code returned
last exactly when each write is one that the `Get` behind it can do with. -/
theorem stable_iff (file : KeyFile) (calls : List Call) :
    (∀ code ∈ codes file calls, code.toNat ≤ 9999) ∧ (Stable file calls ↔ Kept file calls) :=
  ⟨codes_le calls file, stable_iff_kept calls file⟩

/-- **A code that could not be written is forgotten**: the key file says 1234, the
file cannot be opened for the new code 5678, and `Get` returns 1234 again. -/
theorem regenerated_forgotten :
    ¬ ∀ file calls, Stable file calls ∧ ∀ code ∈ codes file calls, code.toNat ≤ 9999 := by
  intro h
  have hstable := (h (some (persisted 1234))
    [.regenerate 5678 .notOpened, .get 0 .ok]).1
  exact absurd hstable.1 (by decide)

end PairingKeyStore

end RemoteController
