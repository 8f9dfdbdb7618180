import Mathlib.Data.Multiset.AddSub
import RemoteController.Lib.Ledger

/-!
# Handles and the places that keep them

A program keeps each handle it was given in one place: a field, or a local variable
of one thread.  `Ledger.Keeps` says that the places hold different handles, and just
those which the log of calls has acquired and not released.

* `place`: the handle of one field, if it has one.
* `Keeps.acquire`: a new handle comes into a place.
* `Keeps.use`: the handle of a place is used.
* `Keeps.release`: the handle of one place is released.
* `Keeps.balanced`, `Keeps.all_released`: what the places say about the log.

That a handle moves from one place to another is an equation between multisets.
-/

namespace Lib

universe u v

/-- The handle of a field that may have none. -/
def place {η : Type v} : Option η → Multiset η
  | none => 0
  | some h => {h}

@[simp] theorem place_none {η : Type v} : place (none : Option η) = 0 := rfl

@[simp] theorem place_some {η : Type v} (h : η) : place (some h) = {h} := rfl

theorem card_place_le {η : Type v} (field : Option η) : (place field).card ≤ 1 := by
  cases field with
  | none => exact Nat.zero_le 1
  | some h => exact (Multiset.card_singleton h).le

theorem mem_place {η : Type v} {field : Option η} {h : η} : h ∈ place field ↔ field = some h := by
  cases field with
  | none => simp
  | some h' => simp [eq_comm]

namespace Ledger

variable {ε : Type u} {η : Type v} [DecidableEq η]

/-- The places hold the handles `hs`, which are those that the log holds. -/
structure Keeps (L : Ledger ε η) (hs : Multiset η) (log : List ε) : Prop where
  distinct : hs.Nodup
  walked : L.Walked (· ∈ hs) log

variable {L : Ledger ε η} {hs : Multiset η} {log calls : List ε} {h : η}

theorem keeps_nil : L.Keeps 0 [] := ⟨Multiset.nodup_zero, walked_nil fun _ => Multiset.notMem_zero _⟩

/-- No place holds a handle that was not named. -/
theorem Keeps.notMem (hk : L.Keeps hs log) (hn : ∀ e ∈ log, L.names e ≠ some h) : h ∉ hs := by
  intro hh
  obtain ⟨e, he, hne⟩ := hk.walked.named hh
  exact hn e he hne

/-- **A new handle comes into a place.** -/
theorem Keeps.acquire (hk : L.Keeps hs log) (hn : ∀ e ∈ log, L.names e ≠ some h)
    (honly : ∀ e ∈ calls, ∀ h', L.names e = some h' → h' = h)
    (hw : L.walk h .fresh calls = some .held) : L.Keeps (h ::ₘ hs) (log ++ calls) := by
  refine ⟨Multiset.nodup_cons.mpr ⟨hk.notMem hn, hk.distinct⟩, ?_⟩
  refine hk.walked.append (.inl ⟨rfl, hn⟩) honly ?_ ⟨.held, hw, ?_⟩
  · intro h' hne
    simp [hne]
  · simp

/-- The handle of a place is used. -/
theorem Keeps.use (hk : L.Keeps hs log) {e : ε} (hn : L.names e = some h)
    (hd : L.does e = some .use) (hh : h ∈ hs) : L.Keeps hs (log ++ [e]) := by
  refine ⟨hk.distinct, fun h' => ?_⟩
  obtain ⟨p, hp, hheld⟩ := hk.walked h'
  refine ⟨p, ?_, hheld⟩
  rw [walk_append, hp]
  by_cases he : h' = h
  · subst he
    obtain rfl := hheld.mpr hh
    exact walk_of_names (.inl hn) (by rw [hn, Option.bind_some, hd]; rfl)
  · refine walk_other fun e' he' hn' => he ?_
    obtain rfl := List.mem_singleton.mp he'
    exact Option.some.inj (hn'.symm.trans hn)

/-- **The handle of one place is released.** -/
theorem Keeps.release (hk : L.Keeps (h ::ₘ hs) log)
    (honly : ∀ e ∈ calls, ∀ h', L.names e = some h' → h' = h)
    (hw : L.walk h .held calls = some .released) : L.Keeps hs (log ++ calls) := by
  obtain ⟨hnot, hd⟩ := Multiset.nodup_cons.mp hk.distinct
  refine ⟨hd, hk.walked.append (.inr ⟨rfl, Multiset.mem_cons_self h hs⟩) honly ?_ ⟨.released, hw, ?_⟩⟩
  · intro h' hne
    simp [hne]
  · simp [hnot]

/-- Calls that name no handle change nothing. -/
theorem Keeps.idle (hk : L.Keeps hs log) (hn : ∀ e ∈ calls, L.names e = none) :
    L.Keeps hs (log ++ calls) := by
  refine ⟨hk.distinct, fun h => ?_⟩
  obtain ⟨p, hp, hh⟩ := hk.walked h
  refine ⟨p, ?_, hh⟩
  rw [walk_append, hp]
  exact walk_other fun e he => by simp [hn e he]

theorem Keeps.balanced (hk : L.Keeps hs log) : L.Balanced (· ∈ hs) log := hk.walked.balanced

/-- A handle that no place holds was released as often as acquired. -/
theorem Keeps.all_released (hk : L.Keeps 0 log) : ∀ h, L.acquires h log = L.releases h log :=
  fun h => hk.balanced.returned h (Multiset.notMem_zero h)

/-- **Everything was released just if no place holds a handle.** -/
theorem Keeps.all_released_iff (hk : L.Keeps hs log) :
    (∀ h, L.acquires h log = L.releases h log) ↔ hs = 0 := by
  constructor
  · intro ha
    refine Multiset.eq_zero_of_forall_notMem fun h hh => ?_
    have hkept := hk.balanced.kept h hh
    have heq := ha h
    omega
  · rintro rfl
    exact hk.all_released

end Ledger

end Lib
