import Mathlib.Data.List.TakeWhile

/-!
# Writing into an array in place

`fill` walks a list of values and an array side by side and puts each value into
its element.  `put` may refuse, which ends the walk; what was put before stays.

* `fill_eq`: the elements in front of the first refusal are written, the others are
  not.
* `fill_unchanged_iff`: a walk that ends early leaves the array as it was exactly
  when the elements in front of the refusal already held what they were given.
-/

namespace Lib

universe u v w

variable {α : Type u} {β : Type v} {ε : Type w}

/-- An array that is too short ends the walk as well. -/
def fill (put : α → β → Except ε β) : List α → List β → Option (Except ε Unit) × List β
  | [], elements => (some (.ok ()), elements)
  | _ :: _, [] => (none, [])
  | value :: values, element :: elements =>
    match put value element with
    | .error e => (some (.error e), element :: elements)
    | .ok written =>
      let (result, rest) := fill put values elements
      (result, written :: rest)

/-- A walk over values that are made on the way. -/
theorem fill_map {γ : Type*} (put : α → β → Except ε β) (f : γ → α) :
    ∀ (values : List γ) (elements : List β),
      fill put (values.map f) elements = fill (fun value => put (f value)) values elements := by
  intro values
  induction values with
  | nil => intro elements; rfl
  | cons value values ih =>
    intro elements
    cases elements with
    | nil => rfl
    | cons element elements =>
      rw [List.map_cons, fill, fill, ih]

namespace Fill

variable (put : α → β → Except ε β)

def accepts (p : α × β) : Bool := (put p.1 p.2).isOk

/-- What the element holds afterwards. -/
def written (p : α × β) : β :=
  match put p.1 p.2 with
  | .ok element => element
  | .error _ => p.2

/-- The values and elements in front of the first refusal. -/
def front (values : List α) (elements : List β) : List (α × β) :=
  (values.zip elements).takeWhile (accepts put)

/-- No element refuses its value. -/
def Accepted (values : List α) (elements : List β) : Prop :=
  ∀ p ∈ values.zip elements, accepts put p = true

theorem front_of_accepted {values : List α} {elements : List β} (h : Accepted put values elements) :
    front put values elements = values.zip elements :=
  List.takeWhile_eq_self_iff.mpr h

theorem map_snd_front (values : List α) (elements : List β) :
    (front put values elements).map Prod.snd =
      elements.take (front put values elements).length := by
  obtain ⟨rest, hrest⟩ := List.takeWhile_prefix (l := values.zip elements) (accepts put)
  have hzip : (values.zip elements).map Prod.snd <+: elements := by
    rw [List.zip_eq_zip_take_min, List.map_snd_zip (by simp)]
    exact List.take_prefix _ _
  have hfront :
      (front put values elements).map Prod.snd <+: (values.zip elements).map Prod.snd := by
    rw [← hrest, List.map_append]
    exact List.prefix_append _ _
  rw [List.prefix_iff_eq_take.mp (hfront.trans hzip), List.length_map]

/-- **What the walk does.** -/
theorem fill_eq : ∀ {values : List α} {elements : List β}, values.length ≤ elements.length →
    (fill put values elements).2 = (front put values elements).map (written put) ++
        elements.drop (front put values elements).length ∧
    (Accepted put values elements → (fill put values elements).1 = some (.ok ())) ∧
    (¬ Accepted put values elements → ∃ p ∈ values.zip elements, ∃ e,
      put p.1 p.2 = .error e ∧ (fill put values elements).1 = some (.error e)) := by
  intro values
  induction values with
  | nil =>
    intro elements _
    have hall : Accepted put [] elements := nofun
    exact ⟨rfl, fun _ => rfl, fun h => absurd hall h⟩
  | cons value values ih =>
    intro elements hlen
    cases elements with
    | nil => cases hlen
    | cons element elements =>
      obtain ⟨ih2, ihok, iherr⟩ := ih (Nat.le_of_succ_le_succ hlen)
      cases hp : put value element with
      | error e =>
        have hno : accepts put (value, element) = false := by rw [accepts, hp]; rfl
        have hfront : front put (value :: values) (element :: elements) = [] := by
          rw [front, List.zip_cons_cons, List.takeWhile_cons_of_neg (by rw [hno]; decide)]
        rw [hfront, fill, hp]
        refine ⟨rfl, ?_, fun _ => ⟨(value, element), by simp, e, hp, rfl⟩⟩
        intro hall
        have := hall (value, element) (by simp)
        rw [hno] at this
        cases this
      | ok after =>
        have hyes : accepts put (value, element) = true := by rw [accepts, hp]; rfl
        have hfront : front put (value :: values) (element :: elements) =
            (value, element) :: front put values elements := by
          rw [front, List.zip_cons_cons, List.takeWhile_cons_of_pos hyes, front]
        have hwritten : written put (value, element) = after := by rw [written, hp]
        have hiff : Accepted put (value :: values) (element :: elements) ↔
            Accepted put values elements := by
          rw [Accepted, List.zip_cons_cons, List.forall_mem_cons, Accepted]
          exact and_iff_right hyes
        rw [hfront, fill, hp, hiff]
        refine ⟨?_, ihok, ?_⟩
        · show after :: (fill put values elements).2 = _
          rw [ih2, List.map_cons, hwritten]
          rfl
        · intro hno
          obtain ⟨p, hmem, e, he, hres⟩ := iherr hno
          exact ⟨p, List.mem_cons_of_mem _ hmem, e, he, hres⟩

/-- **When a walk leaves the array as it was.** -/
theorem fill_unchanged_iff {values : List α} {elements : List β}
    (hlen : values.length ≤ elements.length) :
    (fill put values elements).2 = elements ↔
      ∀ p ∈ front put values elements, written put p = p.2 := by
  have hsplit : elements = (front put values elements).map Prod.snd ++
      elements.drop (front put values elements).length := by
    rw [map_snd_front, List.take_append_drop]
  rw [(fill_eq put hlen).1]
  calc (front put values elements).map (written put) ++
          elements.drop (front put values elements).length = elements
      ↔ (front put values elements).map (written put) ++
            elements.drop (front put values elements).length =
          (front put values elements).map Prod.snd ++
            elements.drop (front put values elements).length := by rw [← hsplit]
    _ ↔ (front put values elements).map (written put) =
          (front put values elements).map Prod.snd := List.append_left_inj _
    _ ↔ ∀ p ∈ front put values elements, written put p = p.2 := List.map_inj_left

end Fill

end Lib
