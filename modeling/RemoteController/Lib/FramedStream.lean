import Mathlib.Data.List.Basic

/-!
# Frames over a byte stream

One writer sends frames of a fixed size over a reliable stream, each with as many
partial sends as it takes; one reader collects a frame's worth with as many
partial receives.  Between the two the stream keeps every byte and their order.

`begun` and `taken` record the frames whose sending was begun and those the
reader has taken.

* `FramedStream.Framed`: what is being read, is under way and is still to be sent
  is made of the frames begun and not taken, in order.
* `Framed.begin`, `Framed.push`, `Framed.abort`, `Framed.pull`, `Framed.take`:
  every operation keeps it.
* `Framed.take_eq`: whatever the segmentation, the frame that is taken is the next
  one that was begun.
-/

namespace Lib

universe u v

/-- Frames of `size` elements. -/
structure FrameCodec (α : Type u) (φ : Type v) where
  size : Nat
  encode : φ → List α
  decode : List α → φ
  size_pos : 0 < size
  length_encode : ∀ f, (encode f).length = size
  decode_encode : ∀ f, decode (encode f) = f

structure FramedStream (α : Type u) (φ : Type v) where
  /-- What the send in progress has still to hand over. -/
  sending : List α := []
  /-- What is under way. -/
  wire : List α := []
  /-- What the receive in progress has so far. -/
  reading : List α := []
  /-- A send was given up. -/
  broken : Bool := false
  begun : List φ := []
  taken : List φ := []
  deriving DecidableEq, Repr

namespace FramedStream

variable {α : Type u} {φ : Type v} (c : FrameCodec α φ)

/-! ### The operations -/

/-- A send begins. -/
def begin (s : FramedStream α φ) (f : φ) : Option (FramedStream α φ) :=
  if s.sending = [] ∧ s.broken = false then
    some { s with sending := c.encode f, begun := s.begun ++ [f] }
  else none

/-- `n` elements are handed over. -/
def push (s : FramedStream α φ) (n : Nat) : Option (FramedStream α φ) :=
  if 0 < n ∧ n ≤ s.sending.length then
    some { s with sending := s.sending.drop n, wire := s.wire ++ s.sending.take n }
  else none

/-- The send in progress is given up, and no other will succeed. -/
def abort (s : FramedStream α φ) : FramedStream α φ := { s with sending := [], broken := true }

/-- `n` elements arrive. -/
def pull (s : FramedStream α φ) (n : Nat) : Option (FramedStream α φ) :=
  if 0 < n ∧ n ≤ s.wire.length ∧ s.reading.length + n ≤ c.size then
    some { s with wire := s.wire.drop n, reading := s.reading ++ s.wire.take n }
  else none

/-- A frame is complete. -/
def take (s : FramedStream α φ) : Option (φ × FramedStream α φ) :=
  if s.reading.length = c.size then
    some (c.decode s.reading,
      { s with reading := [], taken := s.taken ++ [c.decode s.reading] })
  else none

theorem begin_some {c : FrameCodec α φ} {s t : FramedStream α φ} {f : φ}
    (h : s.begin c f = some t) : t.begun = s.begun ++ [f] ∧ t.taken = s.taken := by
  rw [begin] at h
  split at h
  · obtain rfl := Option.some.inj h
    exact ⟨rfl, rfl⟩
  · cases h

theorem push_some {s t : FramedStream α φ} {n : Nat} (h : s.push n = some t) :
    t.begun = s.begun ∧ t.taken = s.taken := by
  rw [push] at h
  split at h
  · obtain rfl := Option.some.inj h
    exact ⟨rfl, rfl⟩
  · cases h

theorem pull_some {c : FrameCodec α φ} {s t : FramedStream α φ} {n : Nat}
    (h : s.pull c n = some t) : t.begun = s.begun ∧ t.taken = s.taken := by
  rw [pull] at h
  split at h
  · obtain rfl := Option.some.inj h
    exact ⟨rfl, rfl⟩
  · cases h

/-! ### The invariant -/

/-- The stream holds the frames begun and not taken: all of them, or, once it is
broken, a beginning. -/
structure Framed (s : FramedStream α φ) : Prop where
  rest : ∃ fs, s.begun = s.taken ++ fs ∧
    s.reading ++ s.wire ++ s.sending <+: fs.flatMap c.encode ∧
    (s.broken = false → s.reading ++ s.wire ++ s.sending = fs.flatMap c.encode)
  reading_le : s.reading.length ≤ c.size
  sending_of_broken : s.broken = true → s.sending = []

variable {c} {s t : FramedStream α φ}

theorem framed_new : Framed c ({} : FramedStream α φ) :=
  ⟨⟨[], rfl, List.prefix_rfl, fun _ => rfl⟩, Nat.zero_le _, fun _ => rfl⟩

theorem Framed.begin {f : φ} (h : Framed c s) (hb : s.begin c f = some t) : Framed c t := by
  simp only [FramedStream.begin] at hb
  split at hb
  · rename_i hguard
    obtain ⟨hsend, hok⟩ := hguard
    obtain rfl := Option.some.inj hb
    obtain ⟨fs, hbegun, _, heq⟩ := h.rest
    have hbytes : s.reading ++ s.wire ++ c.encode f = (fs ++ [f]).flatMap c.encode := by
      have := heq hok
      rw [hsend, List.append_nil] at this
      rw [this, List.flatMap_append]
      simp
    refine ⟨⟨fs ++ [f], ?_, ?_, fun _ => hbytes⟩, h.reading_le, fun hbr => ?_⟩
    · show s.begun ++ [f] = s.taken ++ (fs ++ [f])
      rw [hbegun, List.append_assoc]
    · exact ⟨[], (List.append_nil _).trans hbytes⟩
    · rw [hok] at hbr
      cases hbr
  · cases hb

theorem Framed.push {n : Nat} (h : Framed c s) (hb : s.push n = some t) : Framed c t := by
  simp only [FramedStream.push] at hb
  split at hb
  · obtain rfl := Option.some.inj hb
    have hbytes : s.reading ++ (s.wire ++ s.sending.take n) ++ s.sending.drop n =
        s.reading ++ s.wire ++ s.sending := by
      rw [List.append_assoc, List.append_assoc, List.take_append_drop, List.append_assoc]
    obtain ⟨fs, hbegun, hpre, heq⟩ := h.rest
    refine ⟨⟨fs, hbegun, hbytes ▸ hpre, fun hok => hbytes ▸ heq hok⟩, h.reading_le, fun hbr => ?_⟩
    show s.sending.drop n = []
    rw [h.sending_of_broken hbr, List.drop_nil]
  · cases hb

theorem Framed.abort (h : Framed c s) : Framed c s.abort := by
  obtain ⟨fs, hbegun, hpre, _⟩ := h.rest
  refine ⟨⟨fs, hbegun, ?_, nofun⟩, h.reading_le, fun _ => rfl⟩
  show s.reading ++ s.wire ++ [] <+: _
  rw [List.append_nil]
  exact (List.prefix_append _ _).trans hpre

theorem Framed.pull {n : Nat} (h : Framed c s) (hb : s.pull c n = some t) : Framed c t := by
  simp only [FramedStream.pull] at hb
  split at hb
  · rename_i hguard
    obtain ⟨_, hn, hsize⟩ := hguard
    obtain rfl := Option.some.inj hb
    have hbytes : s.reading ++ s.wire.take n ++ s.wire.drop n ++ s.sending =
        s.reading ++ s.wire ++ s.sending := by
      rw [List.append_assoc s.reading, List.take_append_drop]
    obtain ⟨fs, hbegun, hpre, heq⟩ := h.rest
    refine ⟨⟨fs, hbegun, hbytes ▸ hpre, fun hok => hbytes ▸ heq hok⟩, ?_, h.sending_of_broken⟩
    show (s.reading ++ s.wire.take n).length ≤ c.size
    rw [List.length_append, List.length_take]
    omega
  · cases hb

/-- A full frame's worth has been read: it is the first frame outstanding. -/
theorem Framed.full (h : Framed c s) (hfull : s.reading.length = c.size) :
    ∃ f fs, s.begun = s.taken ++ f :: fs ∧ s.reading = c.encode f ∧
      s.wire ++ s.sending <+: fs.flatMap c.encode ∧
      (s.broken = false → s.wire ++ s.sending = fs.flatMap c.encode) := by
  obtain ⟨fs, hbegun, hpre, heq⟩ := h.rest
  cases fs with
  | nil =>
    -- nothing is outstanding, so nothing can have been read
    have hnil := List.prefix_nil.mp hpre
    simp only [List.append_eq_nil_iff] at hnil
    have hpos := c.size_pos
    rw [hnil.1.1, List.length_nil] at hfull
    omega
  | cons f fs =>
    rw [List.flatMap_cons, List.append_assoc] at hpre heq
    have hlen : s.reading.length = (c.encode f).length := by rw [hfull, c.length_encode]
    have hread : s.reading = c.encode f := by
      have h1 : s.reading <+: c.encode f ++ fs.flatMap c.encode :=
        (List.prefix_append _ _).trans hpre
      have h2 : s.reading <+: c.encode f :=
        List.prefix_of_prefix_length_le h1 (List.prefix_append _ _) (Nat.le_of_eq hlen)
      exact h2.eq_of_length hlen
    rw [hread] at hpre heq
    exact ⟨f, fs, hbegun, hread, (List.prefix_append_right_inj _).mp hpre,
      fun hok => List.append_cancel_left (heq hok)⟩

theorem take_some {f : φ} (hb : s.take c = some (f, t)) :
    s.reading.length = c.size ∧ f = c.decode s.reading ∧
      t = { s with reading := [], taken := s.taken ++ [f] } := by
  simp only [FramedStream.take] at hb
  split at hb
  · rename_i hfull
    obtain ⟨rfl, rfl⟩ := Prod.mk.inj (Option.some.inj hb)
    exact ⟨hfull, rfl, rfl⟩
  · cases hb

/-- **The frame that is taken is the next one that was begun.** -/
theorem Framed.take_eq {f : φ} (h : Framed c s) (hb : s.take c = some (f, t)) :
    s.begun[s.taken.length]? = some f := by
  obtain ⟨hfull, rfl, _⟩ := take_some hb
  obtain ⟨f, fs, hbegun, hread, _⟩ := h.full hfull
  rw [hbegun, hread, c.decode_encode, List.getElem?_append_right (Nat.le_refl _), Nat.sub_self]
  rfl

/-- It is the frame of the bytes that were read. -/
theorem Framed.encode_take {f : φ} (h : Framed c s) (hb : s.take c = some (f, t)) :
    c.encode f = s.reading := by
  obtain ⟨hfull, rfl, _⟩ := take_some hb
  obtain ⟨f, fs, _, hread, _⟩ := h.full hfull
  rw [hread, c.decode_encode]

theorem Framed.take {f : φ} (h : Framed c s) (hb : s.take c = some (f, t)) : Framed c t := by
  obtain ⟨hfull, rfl, rfl⟩ := take_some hb
  obtain ⟨f, fs, hbegun, hread, hpre, heq⟩ := h.full hfull
  rw [hread, c.decode_encode]
  refine ⟨⟨fs, ?_, ?_, fun hok => ?_⟩, Nat.zero_le _, h.sending_of_broken⟩
  · show s.begun = s.taken ++ [f] ++ fs
    rw [hbegun, List.append_assoc]
    rfl
  · show [] ++ s.wire ++ s.sending <+: _
    rw [List.nil_append]
    exact hpre
  · show [] ++ s.wire ++ s.sending = _
    rw [List.nil_append]
    exact heq hok

end FramedStream

end Lib
