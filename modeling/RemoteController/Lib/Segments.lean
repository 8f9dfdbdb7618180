import Mathlib.Data.List.Basic

/-!
# Streams that arrive in pieces

A reliable stream reaches its reader in pieces of any size, and a single read
returns what one piece still holds, up to what was asked for.  `Segments` is such
a stream: its pieces, none of them empty, as an empty read means that no more
will come.

* `stream`: the elements, whatever the pieces.
* `readExactly n`: read until `n` elements are there or the stream ends.
* `readExactly_bytes`, `readExactly_ok`, `readExactly_rest`: what it returns
  depends on the stream alone.
-/

namespace Lib

universe u

/-- A stream in the pieces in which it arrives. -/
structure Segments (α : Type u) where
  pieces : List (List α)
  nonempty : ∀ p ∈ pieces, p ≠ []

namespace Segments

variable {α : Type u}

/-- The elements in order. -/
def stream (s : Segments α) : List α := s.pieces.flatten

/-- The outcome of a read: the elements stored, whether all came, and the pieces
left. -/
structure Read (α : Type u) where
  bytes : List α
  ok : Bool
  rest : List (List α)

/-- Read until `n` elements are there; each round takes what is left of the first
piece, up to what is missing. -/
def readPieces : Nat → List (List α) → Read α
  | 0, ps => ⟨[], true, ps⟩
  | _ + 1, [] => ⟨[], false, []⟩
  | n + 1, p :: ps =>
    if n + 1 < p.length then ⟨p.take (n + 1), true, p.drop (n + 1) :: ps⟩
    else
      let r := readPieces (n + 1 - p.length) ps
      ⟨p ++ r.bytes, r.ok, r.rest⟩

theorem readPieces_spec : ∀ (ps : List (List α)) (n : Nat),
    (readPieces n ps).bytes = ps.flatten.take n ∧
      (readPieces n ps).ok = decide (n ≤ ps.flatten.length) ∧
      (readPieces n ps).rest.flatten = ps.flatten.drop n ∧
      ((∀ p ∈ ps, p ≠ []) → ∀ p ∈ (readPieces n ps).rest, p ≠ []) := by
  intro ps
  induction ps with
  | nil =>
    intro n
    cases n with
    | zero => exact ⟨rfl, rfl, rfl, id⟩
    | succ n => exact ⟨rfl, rfl, rfl, fun _ => nofun⟩
  | cons p ps ih =>
    intro n
    cases n with
    | zero => exact ⟨rfl, by simp [readPieces], rfl, id⟩
    | succ n =>
      rw [readPieces, List.flatten_cons]
      by_cases hp : n + 1 < p.length
      · rw [if_pos hp]
        refine ⟨?_, ?_, ?_, ?_⟩
        · rw [List.take_append_of_le_length (by omega)]
        · rw [List.length_append]
          exact (decide_eq_true (by omega)).symm
        · rw [List.drop_append_of_le_length (by omega)]
          rfl
        · intro hne q hq
          rcases List.mem_cons.mp hq with rfl | hq
          · intro hnil
            have := congrArg List.length hnil
            rw [List.length_drop, List.length_nil] at this
            omega
          · exact hne q (List.mem_cons_of_mem _ hq)
      · rw [if_neg hp]
        obtain ⟨hbytes, hok, hrest, hnon⟩ := ih (n + 1 - p.length)
        refine ⟨?_, ?_, ?_, ?_⟩
        · show p ++ (readPieces (n + 1 - p.length) ps).bytes = _
          rw [List.take_append, List.take_of_length_le (by omega), hbytes]
        · show (readPieces (n + 1 - p.length) ps).ok = _
          rw [hok, List.length_append]
          exact decide_eq_decide.mpr (by omega)
        · rw [List.drop_append, List.drop_eq_nil_of_le (by omega), List.nil_append]
          exact hrest
        · exact fun hne => hnon fun q hq => hne q (List.mem_cons_of_mem _ hq)

/-- Read until `n` elements are there or no more come. -/
def readExactly (n : Nat) (s : Segments α) : List α × Bool × Segments α :=
  ((readPieces n s.pieces).bytes, (readPieces n s.pieces).ok,
    ⟨(readPieces n s.pieces).rest, (readPieces_spec s.pieces n).2.2.2 s.nonempty⟩)

variable (n : Nat) (s : Segments α)

@[simp] theorem readExactly_bytes : (s.readExactly n).1 = s.stream.take n :=
  (readPieces_spec s.pieces n).1

@[simp] theorem readExactly_ok : (s.readExactly n).2.1 = decide (n ≤ s.stream.length) :=
  (readPieces_spec s.pieces n).2.1

@[simp] theorem readExactly_rest : (s.readExactly n).2.2.stream = s.stream.drop n :=
  (readPieces_spec s.pieces n).2.2.1

end Segments

end Lib
