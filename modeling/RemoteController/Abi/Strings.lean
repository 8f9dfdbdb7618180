import RemoteController.Lib.Utf8

/-!
# Strings across the ABI

`CopyUtf8` of `remote_controller_core.cpp` writes a string into an array of `char`, and
`_decodeChars` of the Dart package reads it back up to the first NUL.  The copy is cut
off behind a byte, not behind a character, and the decoder of `dart:convert` drops a byte
order mark at the start.

* `Survives`: what arrives is UTF-8 and a beginning of what was sent, all of it if it fits.
* `survives_iff`: when that is so.
* `decodeChars_of_cut`: what arrives when a character is cut.
-/

namespace RemoteController

open Lib Utf8

namespace Abi

/-- `CopyUtf8`: the array afterwards. -/
def copyUtf8 (destination source : List UInt8) : List UInt8 :=
  let length := min source.length (destination.length - 1)
  source.take length ++ 0 :: destination.drop (length + 1)

def byteOrderMark : Char := Char.ofNat 0xFEFF

/-- `utf8.decode(bytes, allowMalformed: true)`. -/
def utf8Decode (bytes : List UInt8) : List Char :=
  if (encode [byteOrderMark]).isPrefixOf bytes then decode (bytes.drop 3) else decode bytes

/-- `_decodeChars`. -/
def decodeChars (chars : List UInt8) (capacity : Nat) : List Char :=
  utf8Decode ((chars.take capacity).takeWhile fun value => value ≠ 0)

/-! ### The bytes -/

/-- The bytes of the string that are written. -/
def keptBytes (size : Nat) (source : List Char) : List UInt8 := (encode source).take (size - 1)

theorem copyUtf8_length {destination source : List UInt8} (h : destination ≠ []) :
    (copyUtf8 destination source).length = destination.length := by
  have hpos := List.length_pos_iff.mpr h
  simp only [copyUtf8, List.length_append, List.length_take, List.length_cons, List.length_drop]
  omega

theorem keptBytes_ne_zero {source : List Char} (hs : Char.ofNat 0 ∉ source) (size : Nat) :
    ∀ b ∈ keptBytes size source, b ≠ 0 := by
  rintro b hb rfl
  exact hs (ascii_mem_encode (by decide) (List.mem_of_mem_take hb))

theorem copyUtf8_eq (destination : List UInt8) (source : List Char) :
    ∃ rest, copyUtf8 destination (encode source) =
      keptBytes destination.length source ++ 0 :: rest := by
  refine ⟨destination.drop (min (encode source).length (destination.length - 1) + 1), ?_⟩
  rw [copyUtf8, keptBytes]
  rcases Nat.le_total (encode source).length (destination.length - 1) with h | h
  · rw [Nat.min_eq_left h, List.take_length, List.take_of_length_le h]
  · rw [Nat.min_eq_right h]

/-- Up to the NUL stands what was kept. -/
theorem copyUtf8_takeWhile {source : List Char} (hs : Char.ofNat 0 ∉ source)
    (destination : List UInt8) :
    (copyUtf8 destination (encode source)).takeWhile (fun value => value ≠ 0) =
      keptBytes destination.length source := by
  obtain ⟨rest, he⟩ := copyUtf8_eq destination source
  rw [he, List.takeWhile_append_of_pos (by simpa using keptBytes_ne_zero hs _)]
  simp

theorem decodeChars_copyUtf8 {source : List Char} (hs : Char.ofNat 0 ∉ source)
    {destination : List UInt8} (hd : destination ≠ []) :
    decodeChars (copyUtf8 destination (encode source)) destination.length =
      utf8Decode (keptBytes destination.length source) := by
  rw [decodeChars, List.take_of_length_le (Nat.le_of_eq (copyUtf8_length hd)),
    copyUtf8_takeWhile hs]

/-! ### The mark -/

/-- The text starts with the mark. -/
def Marked (chars : List Char) : Prop := chars.head? = some byteOrderMark

theorem marked_iff {chars : List Char} :
    encode [byteOrderMark] <+: encode chars ↔ Marked chars := by
  have hmark : encode [byteOrderMark] = String.utf8EncodeChar byteOrderMark := by
    rw [encode_cons]
    exact List.append_nil _
  cases chars with
  | nil => simp [encode, Marked, String.utf8EncodeChar_ne_nil]
  | cons c rest =>
    rw [Marked, List.head?_cons, Option.some.injEq]
    constructor
    · rintro ⟨t, ht⟩
      have hd := decode_encode (c :: rest)
      rw [← ht, hmark, decode, decodeFrom_char] at hd
      exact (List.cons.inj hd).1.symm
    · rintro rfl
      rw [hmark, encode_cons]
      exact List.prefix_append _ _

/-- A mark at the start is dropped, and only that. -/
theorem utf8Decode_cons (c : Char) (rest : List Char) : utf8Decode (encode (c :: rest)) =
    if c = byteOrderMark then rest else c :: rest := by
  rw [utf8Decode]
  by_cases hc : c = byteOrderMark
  · subst hc
    have hm : Marked (byteOrderMark :: rest) := rfl
    rw [if_pos (List.isPrefixOf_iff_prefix.mpr (marked_iff.mpr hm)), if_pos rfl]
    exact decode_encode rest
  · have hp : ¬ (encode [byteOrderMark]).isPrefixOf (encode (c :: rest)) = true := by
      rw [List.isPrefixOf_iff_prefix, marked_iff]
      exact fun h => hc (Option.some.inj h)
    rw [if_neg hp, if_neg hc]
    exact decode_encode (c :: rest)

theorem utf8Decode_unmarked {chars : List Char} (h : ¬ Marked chars) :
    utf8Decode (encode chars) = chars := by
  cases chars with
  | nil => rfl
  | cons c rest =>
    rw [utf8Decode_cons, if_neg]
    rintro rfl
    exact h rfl

/-- A text that begins with itself behind one character is made of that character. -/
theorem eq_replicate_of_prefix {c : Char} : ∀ {l : List Char}, l <+: c :: l →
    l = List.replicate l.length c := by
  intro l
  induction l with
  | nil => intro _; rfl
  | cons d l ih =>
    intro h
    obtain ⟨rfl, hl⟩ := List.cons_prefix_cons.mp h
    rw [List.length_cons, List.replicate_succ, ← ih hl]

/-! ### What arrives -/

/-- **The string survives.** -/
structure Survives (destination : List UInt8) (source : List Char) : Prop where
  within : (copyUtf8 destination (encode source)).length = destination.length
  terminated : (0 : UInt8) ∈ copyUtf8 destination (encode source)
  valid : Valid ((copyUtf8 destination (encode source)).takeWhile fun value => value ≠ 0)
  beginning : decodeChars (copyUtf8 destination (encode source)) destination.length <+: source
  whole : (encode source).length ≤ destination.length - 1 →
    decodeChars (copyUtf8 destination (encode source)) destination.length = source

/-- The byte that is overwritten by the NUL does not continue a character. -/
def CutBetween (size : Nat) (source : List Char) : Prop :=
  ∀ b ∈ (encode source)[size - 1]?, isTail b = false

/-- What is kept is cut off, and only marks. -/
def OnlyMarks (size : Nat) (source : List Char) : Prop :=
  size - 1 < (encode source).length ∧
    ∃ k, keptBytes size source = encode (List.replicate k byteOrderMark)

theorem keptBytes_of_cutBetween {size : Nat} {source : List Char} (h : CutBetween size source) :
    ∃ kept, kept <+: source ∧ keptBytes size source = encode kept ∧
      ((encode source).length ≤ size - 1 → kept = source) := by
  cases hb : (encode source)[size - 1]? with
  | none =>
    rw [List.getElem?_eq_none_iff] at hb
    exact ⟨source, List.prefix_rfl, List.take_of_length_le hb, fun _ => rfl⟩
  | some b =>
    obtain ⟨hlt, _⟩ := List.getElem?_eq_some_iff.mp hb
    rcases cut_cases hb with ⟨_, kept, rest, hs, ht⟩ | ⟨htail, _⟩
    · exact ⟨kept, ⟨rest, hs.symm⟩, ht, fun hle => by omega⟩
    · rw [h b hb] at htail
      cases htail

theorem cutBetween_of_valid {size : Nat} {source : List Char}
    (h : Valid (keptBytes size source)) : CutBetween size source := by
  intro b hb
  rcases cut_cases hb with ⟨hb, _⟩ | ⟨_, kept, c, rest, x, y, rfl, hc, hx, hy, ht⟩
  · exact hb
  · rw [keptBytes, ht] at h
    exact absurd h (not_valid_cut hc hx hy kept)

/-- A mark in front of what is kept is lost, so the rest is only marks, cut off. -/
theorem onlyMarks_of_marked {size : Nat} {source kept : List Char} (hm : Marked kept)
    (he : keptBytes size source = encode kept) (hpre : kept <+: source)
    (hall : (encode source).length ≤ size - 1 → kept = source)
    (hbegin : utf8Decode (encode kept) <+: source)
    (hwhole : (encode source).length ≤ size - 1 → utf8Decode (encode kept) = source) :
    OnlyMarks size source := by
  obtain ⟨rest, rfl⟩ : ∃ rest, kept = byteOrderMark :: rest := by
    cases kept with
    | nil => cases hm
    | cons c rest => exact ⟨rest, by rw [Option.some.inj hm]⟩
  rw [utf8Decode_cons, if_pos rfl] at hbegin hwhole
  have hlong : size - 1 < (encode source).length := by
    by_contra hfits
    -- all of it would be there, with the mark and without
    have hsame := (hall (by omega)).trans (hwhole (by omega)).symm
    have := congrArg List.length hsame
    simp at this
  refine ⟨hlong, rest.length + 1, ?_⟩
  have hrest := eq_replicate_of_prefix
    (List.prefix_of_prefix_length_le hbegin hpre (by simp))
  rw [he, List.replicate_succ, ← hrest]

/-- Of marks that are cut off, one less is read, and they are a beginning still. -/
theorem utf8Decode_marks {k : Nat} {source : List Char}
    (h : List.replicate k byteOrderMark <+: source) :
    utf8Decode (encode (List.replicate k byteOrderMark)) <+: source := by
  cases k with
  | zero => exact List.nil_prefix
  | succ k =>
    rw [List.replicate_succ, utf8Decode_cons, if_pos rfl]
    refine List.IsPrefix.trans ?_ h
    rw [List.replicate_succ']
    exact List.prefix_append _ _

/-- **When a string survives**: the cut is between two characters, and there is no mark at
the start, or nothing but marks of a text that was cut. -/
theorem survives_iff {destination : List UInt8} {source : List Char} (hd : destination ≠ [])
    (hs : Char.ofNat 0 ∉ source) : Survives destination source ↔
      CutBetween destination.length source ∧
        (¬ encode [byteOrderMark] <+: keptBytes destination.length source ∨
          OnlyMarks destination.length source) := by
  have hdecode := decodeChars_copyUtf8 hs hd
  have hkept := copyUtf8_takeWhile hs destination
  constructor
  · intro h
    have hvalid := h.valid
    rw [hkept] at hvalid
    have hcut := cutBetween_of_valid hvalid
    refine ⟨hcut, ?_⟩
    obtain ⟨kept, hpre, he, hall⟩ := keptBytes_of_cutBetween hcut
    have hbegin := h.beginning
    have hwhole := h.whole
    rw [hdecode, he] at hbegin hwhole
    rw [he, marked_iff]
    by_cases hm : Marked kept
    · exact Or.inr (onlyMarks_of_marked hm he hpre hall hbegin hwhole)
    · exact Or.inl hm
  · rintro ⟨hcut, hmark⟩
    obtain ⟨kept, hpre, he, hall⟩ := keptBytes_of_cutBetween hcut
    obtain ⟨rest, hrest⟩ := copyUtf8_eq destination source
    have hread : utf8Decode (encode kept) <+: source ∧
        ((encode source).length ≤ destination.length - 1 → utf8Decode (encode kept) = source) := by
      rcases hmark with hm | ⟨hlong, k, hk⟩
      · rw [he, marked_iff] at hm
        rw [utf8Decode_unmarked hm]
        exact ⟨hpre, hall⟩
      · obtain rfl := encode_inj (he.symm.trans hk)
        exact ⟨utf8Decode_marks hpre, fun hle => by omega⟩
    refine ⟨copyUtf8_length hd, ?_, ?_, ?_, ?_⟩
    · rw [hrest]
      simp
    · rw [hkept]
      exact ⟨kept, he⟩
    · rw [hdecode, he]
      exact hread.1
    · rw [hdecode, he]
      exact hread.2

/-- In an array of four bytes the second letter of "xé" has room, a third one has not. -/
theorem survives_two : Survives (List.replicate 4 7) ['x', Char.ofNat 0xE9] := by
  refine (survives_iff (by decide) (by decide)).mpr ⟨?_, Or.inl ?_⟩
  · intro b hb
    cases hb
  · decide

theorem mark_of_prefix {bytes : List UInt8} (h : encode [byteOrderMark] <+: bytes) :
    (decode bytes).head? = some byteOrderMark := by
  obtain ⟨t, rfl⟩ := h
  rw [decode, decodeFrom_encode]
  rfl

/-- **A cut character** arrives as U+FFFD, whatever stood there. -/
theorem decodeChars_of_cut {destination : List UInt8} {source : List Char} (hd : destination ≠ [])
    (hs : Char.ofNat 0 ∉ source) (hcut : ¬ CutBetween destination.length source) :
    (decodeChars (copyUtf8 destination (encode source)) destination.length).getLast? =
      some replacement := by
  rw [CutBetween] at hcut
  push Not at hcut
  obtain ⟨b, hb, htail⟩ := hcut
  rcases cut_cases hb with ⟨hb, _⟩ | ⟨_, kept, c, rest, x, y, rfl, hc, hx, hy, ht⟩
  · exact absurd hb htail
  have hdecode := decode_cut hc hx hy
  rw [decodeChars_copyUtf8 hs hd, keptBytes, ht, utf8Decode]
  split
  · rename_i hp
    have hmark := mark_of_prefix (List.isPrefixOf_iff_prefix.mp hp)
    rw [hdecode] at hmark
    cases kept with
    | nil => exact absurd (Option.some.inj hmark) (by decide)
    | cons d kept =>
      obtain rfl : d = byteOrderMark := Option.some.inj hmark
      have hdrop : (encode (byteOrderMark :: kept) ++ x).drop 3 = encode kept ++ x := rfl
      rw [hdrop, hdecode, List.getLast?_concat]
  · rw [hdecode, List.getLast?_concat]

/-- "é" in an array of two bytes is cut after the first. -/
theorem accent_cut : ¬ ∀ (destination : List UInt8) (source : List Char), destination ≠ [] →
    Char.ofNat 0 ∉ source → Survives destination source := by
  intro h
  have hs : Char.ofNat 0 ∉ [Char.ofNat 0xE9] := by decide
  have hvalid := (h (List.replicate 2 0) [Char.ofNat 0xE9] (by decide) hs).valid
  rw [copyUtf8_takeWhile hs] at hvalid
  exact absurd (cutBetween_of_valid hvalid 0xA9 rfl) (by decide)

end Abi

end RemoteController
