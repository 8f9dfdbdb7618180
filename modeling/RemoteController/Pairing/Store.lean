import RemoteController.Lib.Decimal

/-!
# `PairingKeyStore`

The pairing code is kept in a small JSON file, written whole by `Persist` and
read by a scanner that looks for `"pairing_key"`, a colon and a decimal number of
at most 9999.  The file is the list of its bytes, or nothing when it cannot be
opened; the random value and the fate of a write are arguments.

* `readPersisted_persisted`: what `Persist` writes is read back.
* `stored_get`, `stored_regenerate`: after a call whose write, if any, succeeded,
  the file holds the code that was returned.
* `get_le`, `regenerate_le`: every code returned is at most 9999.
-/

namespace RemoteController

open Lib

namespace PairingKeyStore

def kMaxCode : Nat := 9999

/-- The key file: `none` when it cannot be opened for reading. -/
abbrev KeyFile := Option (List UInt8)

/-- How far a `Persist` gets. -/
inductive Write where
  | ok
  /-- The file cannot be opened for writing. -/
  | notOpened
  /-- The file is truncated, and the first `n` bytes of the text reach it. -/
  | cut (n : Nat)
  deriving DecidableEq, Repr

/-- `Generate`, from the value drawn. -/
def generate (value : UInt32) : UInt16 := UInt16.ofNat (value.toNat % (kMaxCode + 1))

/-- `std::string::find`: the content from the first occurrence of `pattern` on. -/
def find (pattern : List UInt8) : List UInt8 → Option (List UInt8)
  | [] => if pattern.isEmpty then some [] else none
  | c :: rest => if pattern.isPrefixOf (c :: rest) then some (c :: rest) else find pattern rest

/-- The loop of `ReadPersisted` behind the colon: `none` when it gives up on a
value above `kMaxCode`, else the value and whether there was a digit. -/
def scanCode : List UInt8 → Nat → Bool → Option (Nat × Bool)
  | [], value, anyDigit => some (value, anyDigit)
  | c :: rest, value, anyDigit =>
    if isDigit c then
      if 10 * value + (c.toNat - 48) > kMaxCode then none
      else scanCode rest (10 * value + (c.toNat - 48)) true
    else if anyDigit then some (value, anyDigit)
    else if c ∈ ascii " \t\r\n" then scanCode rest value anyDigit
    else some (value, anyDigit)

def readPersisted (content : List UInt8) : Option UInt16 :=
  match find (ascii "\"pairing_key\"") content with
  | none => none
  | some fromKey =>
    match find (ascii ":") fromKey with
    | none => none
    | some fromColon =>
      match scanCode fromColon.tail 0 false with
      | some (value, true) => some (UInt16.ofNat value)
      | _ => none

/-- The text `Persist` writes. -/
def persisted (key : UInt16) : List UInt8 :=
  ascii "\x7b\n  \"pairing_key\": " ++ decimal key.toNat ++ ascii "\n\x7d\n"

def persist (file : KeyFile) (key : UInt16) : Write → KeyFile
  | .ok => some (persisted key)
  | .notOpened => file
  | .cut n => some ((persisted key).take n)

/-- The code in the file, if there is one. -/
def stored (file : KeyFile) : Option UInt16 := file.bind readPersisted

def get (file : KeyFile) (value : UInt32) (write : Write) : KeyFile × UInt16 :=
  match stored file with
  | some key => (file, key)
  | none => (persist file (generate value) write, generate value)

def regenerate (file : KeyFile) (value : UInt32) (write : Write) : KeyFile × UInt16 :=
  (persist file (generate value) write, generate value)

/-! ### Codes -/

theorem generate_le (value : UInt32) : (generate value).toNat ≤ kMaxCode := by
  have hlt : value.toNat % (kMaxCode + 1) < kMaxCode + 1 := Nat.mod_lt _ (Nat.succ_pos _)
  rw [generate, UInt16.toNat_ofNat', Nat.mod_eq_of_lt (by unfold kMaxCode at *; omega)]
  omega

theorem scanCode_le : ∀ (l : List UInt8) (v : Nat) (any : Bool), v ≤ kMaxCode →
    ∀ r ∈ scanCode l v any, r.1 ≤ kMaxCode := by
  intro l
  induction l with
  | nil =>
    intro v any hv r hr
    obtain rfl := Option.some.inj hr
    exact hv
  | cons c l ih =>
    intro v any hv r hr
    rw [scanCode] at hr
    split at hr
    · split at hr
      · cases hr
      · exact ih _ _ (by omega) r hr
    · split at hr
      · obtain rfl := Option.some.inj hr
        exact hv
      · split at hr
        · exact ih _ _ hv r hr
        · obtain rfl := Option.some.inj hr
          exact hv

theorem readPersisted_le {content : List UInt8} {key : UInt16}
    (h : readPersisted content = some key) : key.toNat ≤ kMaxCode := by
  rw [readPersisted] at h
  split at h
  · cases h
  · split at h
    · cases h
    · split at h
      · rename_i value hscan
        obtain rfl := Option.some.inj h
        have hle := scanCode_le _ 0 false (Nat.zero_le _) _ hscan
        rw [UInt16.toNat_ofNat']
        exact Nat.le_trans (Nat.mod_le _ _) hle
      · cases h

theorem get_le (file : KeyFile) (value : UInt32) (write : Write) :
    (get file value write).2.toNat ≤ kMaxCode := by
  rw [get]
  split
  · rename_i key hkey
    obtain ⟨content, _, hread⟩ := Option.bind_eq_some_iff.mp hkey
    exact readPersisted_le hread
  · exact generate_le value

theorem regenerate_le (file : KeyFile) (value : UInt32) (write : Write) :
    (regenerate file value write).2.toNat ≤ kMaxCode :=
  generate_le value

/-! ### Reading back -/

/-- A run of digits is read to its end, unless its value is too large. -/
theorem scanCode_digits (rest : List UInt8) : ∀ (l : List UInt8) (v : Nat) (any : Bool),
    (∀ b ∈ l, isDigit b = true) → decimalValue l v ≤ kMaxCode →
    scanCode (l ++ rest) v any = scanCode rest (decimalValue l v) (any || !l.isEmpty) := by
  intro l
  induction l with
  | nil => intro v any _ _; simp [decimalValue]
  | cons b l ih =>
    intro v any hd hle
    rw [decimalValue] at hle
    have hmono := le_decimalValue l (10 * v + (b.toNat - 48))
    rw [List.cons_append, scanCode, if_pos (hd b List.mem_cons_self), if_neg (by omega),
      ih _ _ (fun c hc => hd c (List.mem_cons_of_mem _ hc)) hle]
    simp [decimalValue]

/-- **What `Persist` writes is read back.** -/
theorem readPersisted_persisted {key : UInt16} (h : key.toNat ≤ kMaxCode) :
    readPersisted (persisted key) = some key := by
  have hkey : find (ascii "\"pairing_key\"") (persisted key) =
      some (ascii "\"pairing_key\": " ++ decimal key.toNat ++ ascii "\n\x7d\n") := rfl
  have hcolon : find (ascii ":") (ascii "\"pairing_key\": " ++ decimal key.toNat ++ ascii "\n\x7d\n") =
      some (ascii ": " ++ decimal key.toNat ++ ascii "\n\x7d\n") := rfl
  have hscan : scanCode (decimal key.toNat ++ ascii "\n\x7d\n") 0 false = some (key.toNat, true) := by
    rw [scanCode_digits _ _ _ _ (fun b hb => isDigit_of_mem_decimal hb)
      (by rw [decimalValue_decimal]; exact h), decimalValue_decimal]
    have hne : (decimal key.toNat).isEmpty = false := by
      rw [List.isEmpty_eq_false_iff]
      exact decimal_ne_nil _
    rw [hne]
    rfl
  have hspace : scanCode (ascii ": " ++ decimal key.toNat ++ ascii "\n\x7d\n").tail 0 false =
      scanCode (decimal key.toNat ++ ascii "\n\x7d\n") 0 false := rfl
  rw [readPersisted, hkey]
  simp only [hcolon, hspace, hscan]
  exact congrArg some UInt16.ofNat_toNat

theorem stored_regenerate (file : KeyFile) (value : UInt32) :
    stored (regenerate file value .ok).1 = some (regenerate file value .ok).2 :=
  readPersisted_persisted (generate_le value)

theorem stored_get (file : KeyFile) (value : UInt32) :
    stored (get file value .ok).1 = some (get file value .ok).2 := by
  rw [get]
  split
  · assumption
  · exact readPersisted_persisted (generate_le value)

/-- A stored code is the one `Get` returns, without touching the file. -/
theorem get_of_stored {file : KeyFile} {key : UInt16} (h : stored file = some key) (value : UInt32)
    (write : Write) : get file value write = (file, key) := by
  rw [get, h]

end PairingKeyStore

end RemoteController
