import Mathlib.Data.List.Basic

/-!
# UTF-8

Lean's own encoding of a character, and a decoder that puts U+FFFD for what is not
UTF-8: one for each longest piece that could have been the start of a character, as
browsers do it.

* `decode_encode`: the decoder reads what was encoded.
* `encode_inj`, `not_valid_cut`: a text is encoded in one way, and one that is cut within a
  character is the encoding of no text.
* `decode_cut`: what is decoded then has a U+FFFD in the place of the character.
* `cut_cases`: the byte behind a cut tells which of the two it is.
-/

namespace Lib

namespace Utf8

def encode (chars : List Char) : List UInt8 := chars.flatMap String.utf8EncodeChar

/-- The bytes of some text. -/
def Valid (bytes : List UInt8) : Prop := ∃ chars, bytes = encode chars

/-! ### The decoder -/

/-- A character of which some bytes are missing, and the range of the next one. -/
structure Pending where
  value : Nat
  missing : Nat
  lower : Nat := 0x80
  upper : Nat := 0xBF
  deriving DecidableEq, Repr

def replacement : Char := Char.ofNat 0xFFFD

/-- A byte between two characters. -/
def lead (b : UInt8) : List Char × Option Pending :=
  if b.toNat ≤ 0x7F then ([Char.ofNat b.toNat], none)
  else if 0xC2 ≤ b.toNat ∧ b.toNat ≤ 0xDF then
    ([], some { value := b.toNat - 0xC0, missing := 1 })
  else if 0xE0 ≤ b.toNat ∧ b.toNat ≤ 0xEF then
    ([], some
      { value := b.toNat - 0xE0
        missing := 2
        lower := if b.toNat = 0xE0 then 0xA0 else 0x80
        upper := if b.toNat = 0xED then 0x9F else 0xBF })
  else if 0xF0 ≤ b.toNat ∧ b.toNat ≤ 0xF4 then
    ([], some
      { value := b.toNat - 0xF0
        missing := 3
        lower := if b.toNat = 0xF0 then 0x90 else 0x80
        upper := if b.toNat = 0xF4 then 0x8F else 0xBF })
  else ([replacement], none)

def feed : Option Pending → UInt8 → List Char × Option Pending
  | none, b => lead b
  | some p, b =>
    if p.lower ≤ b.toNat ∧ b.toNat ≤ p.upper then
      let value := p.value * 64 + (b.toNat - 0x80)
      if p.missing = 1 then ([Char.ofNat value], none)
      else ([], some { value := value, missing := p.missing - 1 })
    else (replacement :: (lead b).1, (lead b).2)

def decodeFrom : Option Pending → List UInt8 → List Char
  | none, [] => []
  | some _, [] => [replacement]
  | p, b :: l => (feed p b).1 ++ decodeFrom (feed p b).2 l

def decode (bytes : List UInt8) : List Char := decodeFrom none bytes

/-! ### One character -/

theorem decodeFrom_cons (p : Option Pending) (b : UInt8) (l : List UInt8) :
    decodeFrom p (b :: l) = (feed p b).1 ++ decodeFrom (feed p b).2 l := by
  cases p <;> rfl

/-- A byte of the range goes on with the character. -/
theorem feed_more {p : Pending} {b : UInt8} (hb : p.lower ≤ b.toNat ∧ b.toNat ≤ p.upper)
    (hm : p.missing ≠ 1) :
    feed (some p) b =
      ([], some { value := p.value * 64 + (b.toNat - 0x80), missing := p.missing - 1 }) := by
  rw [feed, if_pos hb, if_neg hm]

theorem feed_last {p : Pending} {b : UInt8} (hb : p.lower ≤ b.toNat ∧ b.toNat ≤ p.upper)
    (hm : p.missing = 1) :
    feed (some p) b = ([Char.ofNat (p.value * 64 + (b.toNat - 0x80))], none) := by
  rw [feed, if_pos hb, if_pos hm]

theorem toNat_ofNat {n : Nat} (h : n < 256) : (UInt8.ofNat n).toNat = n := by
  rw [UInt8.toNat_ofNat', Nat.mod_eq_of_lt h]

theorem tail_range (v : Nat) : 0x80 ≤ (UInt8.ofNat (v % 0x40 + 0x80)).toNat ∧
    (UInt8.ofNat (v % 0x40 + 0x80)).toNat ≤ 0xBF := by
  rw [toNat_ofNat (by omega)]
  omega

/-- `String.utf8EncodeChar`, from the code point. -/
def encodePoint (v : Nat) : List UInt8 :=
  if v ≤ 0x7F then [UInt8.ofNat v]
  else if v ≤ 0x7FF then [UInt8.ofNat (v / 64 % 0x20 + 0xC0), UInt8.ofNat (v % 0x40 + 0x80)]
  else if v ≤ 0xFFFF then
    [UInt8.ofNat (v / 4096 % 0x10 + 0xE0), UInt8.ofNat (v / 64 % 0x40 + 0x80),
      UInt8.ofNat (v % 0x40 + 0x80)]
  else
    [UInt8.ofNat (v / 262144 % 0x08 + 0xF0), UInt8.ofNat (v / 4096 % 0x40 + 0x80),
      UInt8.ofNat (v / 64 % 0x40 + 0x80), UInt8.ofNat (v % 0x40 + 0x80)]

theorem utf8EncodeChar_eq (c : Char) : String.utf8EncodeChar c = encodePoint c.toNat := rfl

theorem lead_two {v : Nat} (h : 0x80 ≤ v ∧ v ≤ 0x7FF) :
    lead (UInt8.ofNat (v / 64 % 0x20 + 0xC0)) = ([], some { value := v / 64, missing := 1 }) := by
  rw [lead, toNat_ofNat (by omega), if_neg (by omega), if_pos (by omega)]
  have hv : v / 64 % 0x20 + 0xC0 - 0xC0 = v / 64 := by omega
  rw [hv]

theorem lead_three {v : Nat} (h : 0x800 ≤ v ∧ v ≤ 0xFFFF) :
    lead (UInt8.ofNat (v / 4096 % 0x10 + 0xE0)) = ([], some
      { value := v / 4096
        missing := 2
        lower := if v / 4096 = 0 then 0xA0 else 0x80
        upper := if v / 4096 = 13 then 0x9F else 0xBF }) := by
  rw [lead, toNat_ofNat (by omega), if_neg (by omega), if_neg (by omega), if_pos (by omega)]
  have hv : v / 4096 % 0x10 + 0xE0 - 0xE0 = v / 4096 := by omega
  have hl : v / 4096 % 0x10 + 0xE0 = 0xE0 ↔ v / 4096 = 0 := by omega
  have hu : v / 4096 % 0x10 + 0xE0 = 0xED ↔ v / 4096 = 13 := by omega
  simp only [hv, hl, hu]

theorem lead_four {v : Nat} (h : 0x10000 ≤ v ∧ v < 0x110000) :
    lead (UInt8.ofNat (v / 262144 % 0x08 + 0xF0)) = ([], some
      { value := v / 262144
        missing := 3
        lower := if v / 262144 = 0 then 0x90 else 0x80
        upper := if v / 262144 = 4 then 0x8F else 0xBF }) := by
  rw [lead, toNat_ofNat (by omega), if_neg (by omega), if_neg (by omega), if_neg (by omega),
    if_pos (by omega)]
  have hv : v / 262144 % 0x08 + 0xF0 - 0xF0 = v / 262144 := by omega
  have hl : v / 262144 % 0x08 + 0xF0 = 0xF0 ↔ v / 262144 = 0 := by omega
  have hu : v / 262144 % 0x08 + 0xF0 = 0xF4 ↔ v / 262144 = 4 := by omega
  simp only [hv, hl, hu]

/-- The phases that the first bytes of a character lead through. -/
def Leads : Option Pending → List UInt8 → Option Pending → Prop
  | p, [], q => q = p
  | p, b :: l, q => ∃ r, feed p b = ([], some r) ∧ Leads (some r) l q

/-- **A character**: its bytes but the last give nothing yet, and the last gives it. -/
theorem point {v : Nat} (hv : v < 0xD800 ∨ 0xDFFF < v ∧ v < 0x110000) : ∃ init last p,
    encodePoint v = init ++ [last] ∧ Leads none init p ∧
      feed p last = ([Char.ofNat v], none) := by
  unfold encodePoint
  by_cases h1 : v ≤ 0x7F
  · rw [if_pos h1]
    refine ⟨[], _, none, rfl, rfl, ?_⟩
    rw [feed, lead, toNat_ofNat (by omega), if_pos h1]
  rw [if_neg h1]
  by_cases h2 : v ≤ 0x7FF
  · rw [if_pos h2]
    refine ⟨[_], _, _, rfl, ⟨_, lead_two (by omega), rfl⟩, ?_⟩
    rw [feed_last (tail_range _) rfl, toNat_ofNat (by omega)]
    have he : v / 64 * 64 + (v % 0x40 + 0x80 - 0x80) = v := by omega
    rw [he]
  rw [if_neg h2]
  by_cases h3 : v ≤ 0xFFFF
  · rw [if_pos h3]
    refine ⟨[_, _], _, _, rfl, ⟨_, lead_three (by omega), _, feed_more ?_ (by simp), rfl⟩, ?_⟩
    · rw [toNat_ofNat (by omega)]
      -- the range of the second byte leaves out what is too short, and the surrogates
      constructor
      · dsimp only
        split <;> omega
      · dsimp only
        split <;> omega
    · rw [feed_last (tail_range _) rfl,
        toNat_ofNat (by omega), toNat_ofNat (by omega)]
      have he : (v / 4096 * 64 + (v / 64 % 0x40 + 0x80 - 0x80)) * 64 +
          (v % 0x40 + 0x80 - 0x80) = v := by omega
      rw [he]
  · rw [if_neg h3]
    refine ⟨[_, _, _], _, _, rfl, ⟨_, lead_four (by omega), _, feed_more ?_ (by simp), _,
      feed_more (tail_range _) (by simp), rfl⟩, ?_⟩
    · rw [toNat_ofNat (by omega)]
      constructor
      · dsimp only
        split <;> omega
      · dsimp only
        split <;> omega
    · rw [feed_last (tail_range _) rfl,
        toNat_ofNat (by omega), toNat_ofNat (by omega), toNat_ofNat (by omega)]
      have he : ((v / 262144 * 64 + (v / 4096 % 0x40 + 0x80 - 0x80)) * 64 +
          (v / 64 % 0x40 + 0x80 - 0x80)) * 64 + (v % 0x40 + 0x80 - 0x80) = v := by omega
      rw [he]

theorem character (c : Char) : ∃ init last p, String.utf8EncodeChar c = init ++ [last] ∧
    Leads none init p ∧ feed p last = ([c], none) := by
  obtain ⟨init, last, p, he, hl, hf⟩ := point c.valid
  refine ⟨init, last, p, (utf8EncodeChar_eq c).trans he, hl, ?_⟩
  rw [hf]
  exact congrArg (fun x => ([x], none)) (Char.ofNat_toNat c)

/-! ### Texts -/

theorem decodeFrom_leads {init : List UInt8} : ∀ {p q : Option Pending}, Leads p init q →
    ∀ l, decodeFrom p (init ++ l) = decodeFrom q l := by
  induction init with
  | nil => intro p q h l; rw [show q = p from h]; rfl
  | cons b init ih =>
    intro p q h l
    obtain ⟨r, hf, hl⟩ := h
    rw [List.cons_append, decodeFrom_cons, hf]
    exact ih hl l

theorem decodeFrom_char (c : Char) (l : List UInt8) :
    decodeFrom none (String.utf8EncodeChar c ++ l) = c :: decodeFrom none l := by
  obtain ⟨init, last, p, he, hl, hf⟩ := character c
  rw [he, List.append_assoc, decodeFrom_leads hl, List.singleton_append, decodeFrom_cons, hf]
  rfl

theorem encode_cons (c : Char) (chars : List Char) :
    encode (c :: chars) = String.utf8EncodeChar c ++ encode chars := rfl

theorem encode_append (chars rest : List Char) :
    encode (chars ++ rest) = encode chars ++ encode rest := List.flatMap_append

theorem decodeFrom_encode (chars : List Char) (l : List UInt8) :
    decodeFrom none (encode chars ++ l) = chars ++ decodeFrom none l := by
  induction chars with
  | nil => rfl
  | cons c chars ih => rw [encode_cons, List.append_assoc, decodeFrom_char, ih]; rfl

/-- **The decoder reads what was encoded.** -/
theorem decode_encode (chars : List Char) : decode (encode chars) = chars := by
  have h := decodeFrom_encode chars []
  rw [List.append_nil, decodeFrom, List.append_nil] at h
  exact h

theorem encode_inj {chars chars' : List Char} (h : encode chars = encode chars') :
    chars = chars' := by
  rw [← decode_encode chars, h, decode_encode]

/-! ### A cut within a character -/

theorem lead_progress (b : UInt8) : (lead b).1 ≠ [] ∨ (lead b).2 ≠ none := by
  unfold lead
  split
  · simp
  split
  · simp
  split
  · simp
  split
  · simp
  · simp

theorem feed_progress (p : Option Pending) (b : UInt8) :
    (feed p b).1 ≠ [] ∨ (feed p b).2 ≠ none := by
  cases p with
  | none => exact lead_progress b
  | some p =>
    rw [feed]
    split
    · dsimp only
      split
      · simp
      · simp
    · simp

/-- Bytes always give a character. -/
theorem decodeFrom_ne_nil : ∀ {l : List UInt8} {p : Option Pending}, l ≠ [] ∨ p ≠ none →
    decodeFrom p l ≠ [] := by
  intro l
  induction l with
  | nil =>
    intro p h
    cases p with
    | none => simp at h
    | some p => simp [decodeFrom]
  | cons b l ih =>
    intro p _
    rw [decodeFrom_cons]
    rcases feed_progress p b with h | h
    · simp [h]
    · simp [ih (Or.inr h)]

theorem Leads.append {x y : List UInt8} : ∀ {p q : Option Pending}, Leads p (x ++ y) q →
    ∃ r, Leads p x r ∧ Leads r y q := by
  induction x with
  | nil => intro p q h; exact ⟨p, rfl, h⟩
  | cons b x ih =>
    intro p q h
    obtain ⟨r, hf, hl⟩ := h
    obtain ⟨r', hx, hy⟩ := ih hl
    exact ⟨r', ⟨r, hf, hx⟩, hy⟩

theorem Leads.some {x : List UInt8} : ∀ {p q : Option Pending}, Leads p x q → x ≠ [] →
    ∃ r, q = Option.some r := by
  induction x with
  | nil => intro p q _ h; exact absurd rfl h
  | cons b x ih =>
    intro p q h _
    obtain ⟨r, _, hl⟩ := h
    cases x with
    | nil => exact ⟨r, hl⟩
    | cons b' x => exact ih hl (List.cons_ne_nil _ _)

/-- **What is left of a character** is decoded as U+FFFD. -/
theorem decode_cut {c : Char} {x y : List UInt8} (h : String.utf8EncodeChar c = x ++ y)
    (hx : x ≠ []) (hy : y ≠ []) (kept : List Char) :
    decode (encode kept ++ x) = kept ++ [replacement] := by
  obtain ⟨init, last, p, he, hl, _⟩ := character c
  -- the last byte is not in `x`
  obtain ⟨y', b, rfl⟩ : ∃ y' b, y = y' ++ [b] := ⟨_, _, (List.dropLast_append_getLast hy).symm⟩
  rw [h, ← List.append_assoc] at he
  obtain ⟨rfl, _⟩ := List.append_inj' he rfl
  obtain ⟨r, hlx, _⟩ := hl.append
  obtain ⟨r, rfl⟩ := hlx.some hx
  have hd := decodeFrom_leads hlx []
  rw [List.append_nil] at hd
  rw [decode, decodeFrom_encode, hd]
  rfl

/-- **A text cut within a character** is no text. -/
theorem not_valid_cut {c : Char} {x y : List UInt8} (h : String.utf8EncodeChar c = x ++ y)
    (hx : x ≠ []) (hy : y ≠ []) (kept : List Char) : ¬ Valid (encode kept ++ x) := by
  rintro ⟨chars, he⟩
  have hd := decode_cut h hx hy kept
  rw [he, decode_encode] at hd
  -- so the piece would be a whole U+FFFD, and the character would be two
  rw [hd, encode_append] at he
  obtain rfl := List.append_cancel_left he
  have hone := decodeFrom_char c []
  rw [h, encode_cons, List.append_assoc, List.append_assoc, decodeFrom_char] at hone
  have htail := (List.cons.inj hone).2
  exact decodeFrom_ne_nil (Or.inl (by simp [hy])) htail

/-! ### Where a cut falls -/

/-- `10xxxxxx`: not the first byte of a character. -/
def isTail (b : UInt8) : Bool := 0x80 ≤ b.toNat && b.toNat ≤ 0xBF

theorem encodeChar_shape (c : Char) : ∃ b tails, String.utf8EncodeChar c = b :: tails ∧
    isTail b = false ∧ ∀ t ∈ tails, isTail t = true := by
  have hv := c.valid
  change c.toNat < 0xD800 ∨ 0xDFFF < c.toNat ∧ c.toNat < 0x110000 at hv
  rw [utf8EncodeChar_eq]
  generalize c.toNat = v at hv
  have htail : ∀ w, isTail (UInt8.ofNat (w % 0x40 + 0x80)) = true := by
    intro w
    rw [isTail, Bool.and_eq_true, decide_eq_true_eq, decide_eq_true_eq]
    exact tail_range w
  have hfirst : ∀ n, n < 256 → n < 0x80 ∨ 0xBF < n → isTail (UInt8.ofNat n) = false := by
    intro n hn h
    simp only [isTail, toNat_ofNat hn, Bool.and_eq_false_iff, decide_eq_false_iff_not]
    omega
  unfold encodePoint
  split
  · exact ⟨_, _, rfl, hfirst _ (by omega) (by omega), by simp⟩
  split
  · exact ⟨_, _, rfl, hfirst _ (by omega) (by omega), List.forall_mem_singleton.mpr (htail _)⟩
  split
  · exact ⟨_, _, rfl, hfirst _ (by omega) (by omega), List.forall_mem_cons.mpr ⟨htail _,
      List.forall_mem_singleton.mpr (htail _)⟩⟩
  · exact ⟨_, _, rfl, hfirst _ (by omega) (by omega), List.forall_mem_cons.mpr ⟨htail _,
      List.forall_mem_cons.mpr ⟨htail _, List.forall_mem_singleton.mpr (htail _)⟩⟩⟩

/-- **The byte behind a cut** tells whether the cut is between two characters. -/
theorem cut_cases : ∀ {chars : List Char} {n : Nat} {b : UInt8}, (encode chars)[n]? = some b →
    isTail b = false ∧ (∃ kept rest, chars = kept ++ rest ∧ (encode chars).take n = encode kept) ∨
    isTail b = true ∧ ∃ kept c rest x y, chars = kept ++ c :: rest ∧
      String.utf8EncodeChar c = x ++ y ∧ x ≠ [] ∧ y ≠ [] ∧
      (encode chars).take n = encode kept ++ x := by
  intro chars
  induction chars with
  | nil => intro n b h; simp [encode] at h
  | cons c chars ih =>
    intro n b h
    obtain ⟨first, tails, he, hfirst, htails⟩ := encodeChar_shape c
    rw [encode_cons] at h ⊢
    by_cases hn : n < (String.utf8EncodeChar c).length
    · rw [List.getElem?_append_left hn] at h
      rw [List.take_append_of_le_length (Nat.le_of_lt hn)]
      cases n with
      | zero =>
        rw [he] at h
        obtain rfl := Option.some.inj h
        exact Or.inl ⟨hfirst, [], c :: chars, rfl, rfl⟩
      | succ n =>
        refine Or.inr ⟨?_, [], c, chars, _, _, rfl, (List.take_append_drop (n + 1) _).symm, ?_,
          ?_, rfl⟩
        · rw [he, List.getElem?_cons_succ] at h
          exact htails b (List.mem_of_getElem? h)
        · rw [he]
          simp
        · rw [ne_eq, List.drop_eq_nil_iff]
          omega
    · rw [List.getElem?_append_right (by omega)] at h
      have htake : ∀ l : List UInt8, (String.utf8EncodeChar c ++ l).take n =
          String.utf8EncodeChar c ++ l.take (n - (String.utf8EncodeChar c).length) := by
        intro l
        rw [List.take_append, List.take_of_length_le (by omega)]
      rcases ih h with ⟨hb, kept, rest, rfl, ht⟩ | ⟨hb, kept, d, rest, x, y, rfl, hd, hx, hy, ht⟩
      · exact Or.inl ⟨hb, c :: kept, rest, rfl, by rw [htake, ht]; rfl⟩
      · refine Or.inr ⟨hb, c :: kept, d, rest, x, y, rfl, hd, hx, hy, ?_⟩
        rw [htake, ht, encode_cons, List.append_assoc]

/-- A byte below 0x80 is a character of its own. -/
theorem ascii_mem_encode {chars : List Char} {b : UInt8} (hb : b.toNat ≤ 0x7F)
    (h : b ∈ encode chars) : Char.ofNat b.toNat ∈ chars := by
  obtain ⟨n, hn⟩ := List.mem_iff_getElem?.mp h
  have htail : isTail b = false := by
    rw [isTail, Bool.and_eq_false_iff, decide_eq_false_iff_not]
    omega
  rcases cut_cases hn with ⟨_, kept, rest, rfl, ht⟩ | ⟨hb', _⟩
  · -- what follows the cut starts with the byte
    obtain ⟨hlt, hget⟩ := List.getElem?_eq_some_iff.mp hn
    have hsplit := List.take_append_drop n (encode (kept ++ rest))
    rw [ht, encode_append] at hsplit
    have hrest := List.append_cancel_left hsplit
    rw [← encode_append, List.drop_eq_getElem_cons hlt, hget] at hrest
    have hd := decode_encode rest
    rw [← hrest, decode, decodeFrom_cons, feed, lead, if_pos hb] at hd
    rw [← hd]
    simp
  · rw [htail] at hb'
    cases hb'

end Utf8

end Lib
