import RemoteController.Backends
import RemoteController.Lib.Transition

/-!
# `Start()` against `Stop()` on one handle

`LanControllerServer` and `LocalControllerBridge` start in the same way: they test
`kCreated` in one section, call `Create` outside `mutex_`, and write the next state in
another section, without a second test.  `View` is what the two calls and the
callbacks do to a handle, and `View.Moves` one step of it in which `Start()` does not
write over `kStopped`.

* `StopWins`: `Stop()`, once it has returned, stays won.
* `stopWins_of_moves`: so it is where every step is such a move.
-/

namespace RemoteController

open Lib

universe u v

/-- `kStopped`, `kDisconnected` and `kFaulted`. -/
def SessionState.terminal : SessionState → Bool
  | .stopped | .disconnected | .faulted => true
  | .created | .running => false

/-- Where `Start()` is: before the creation of the target or behind it, with its
next state not written, or with it written. -/
inductive StartView where
  | early
  | created
  | late
  | returned
  deriving DecidableEq, Repr

inductive StopView where
  | idle
  | inside
  | returned
  deriving DecidableEq, Repr

/-- `created`: the target of the virtual backend exists. -/
structure View where
  state : SessionState
  created : Bool
  start : StartView
  stop : StopView
  deriving DecidableEq, Repr

namespace View

def init : View := ⟨.created, false, .early, .idle⟩

/-- Both calls have returned.  `Stop()` returns `kOk` always. -/
def returned (v : View) : Bool := v.start == .returned && v.stop == .returned

/-- One step: of a callback or the worker, which leave a session alone that is not
running; of `Start()`; or of `Stop()`. -/
inductive Moves (v w : View) : Prop
  | callback : w.start = v.start → w.stop = v.stop → w.created = v.created →
      (v.state ≠ .running → w.state = v.state) → (w.state = .stopped → v.state = .stopped) →
      Moves v w
  | checks : v.start = .early → w.start = .early ∨ w.start = .returned → w.stop = v.stop →
      w.created = v.created → w.state = v.state → Moves v w
  | creates : v.start = .early → w.start = .created → w.stop = v.stop → w.state = v.state →
      Moves v w
  | writes : v.state ≠ .stopped → v.start ≠ .returned → w.start = .late ∨ w.start = .returned →
      w.stop = v.stop → w.state ≠ .stopped → (w.state = .running → v.start = .created) →
      Moves v w
  | goesOn : v.start = .late → w.start = .late ∨ w.start = .returned → w.stop = v.stop →
      w.state = v.state → (w.created = true → v.created = true) → Moves v w
  | stops : v.stop = .idle → w.stop ≠ .idle → w.start = v.start → w.state = .stopped →
      (v.state ≠ .stopped → w.stop = .inside) → Moves v w
  | destroys : v.stop = .inside → w.stop = .returned → w.start = v.start → w.state = v.state →
      w.created = false → Moves v w

/-- A target that outlives `Stop()` was created behind its back, and `Start()` is
still to find the session stopped. -/
structure Holds (v : View) : Prop where
  fresh : v.stop = .idle → v.state ≠ .stopped
  stopped : v.stop ≠ .idle → v.state = .stopped
  destroyed : v.stop = .returned → v.created = true → v.start = .created
  early : v.start = .early ∨ v.start = .created → v.state = .created ∨ v.state = .stopped

theorem holds_init : Holds init :=
  ⟨fun _ e => (by cases e), fun e => absurd rfl e, fun e => (by cases e), fun _ => Or.inl rfl⟩

variable {v w : View}

/-- A move that changes neither the state nor `Stop()`. -/
theorem Holds.same (h : Holds v) (hstate : w.state = v.state) (hstop : w.stop = v.stop)
    (hdestroyed : v.stop = .returned → w.created = true → w.start = .created)
    (hearly : w.start = .early ∨ w.start = .created → v.start = .early ∨ v.start = .created) :
    Holds w where
  fresh := fun e => by rw [hstate]; exact h.fresh (hstop ▸ e)
  stopped := fun e => by rw [hstate]; exact h.stopped (hstop ▸ e)
  destroyed := fun e => hdestroyed (hstop ▸ e)
  early := fun e => by rw [hstate]; exact h.early (hearly e)

/-- **A move keeps the invariant.** -/
theorem Holds.moves (h : Holds v) (hm : Moves v w) : Holds w := by
  cases hm with
  | callback hstart hstop hcreated hleft hstopped =>
    refine ⟨fun e hs => h.fresh (hstop ▸ e) (hstopped hs), fun e => ?_, fun e hc => ?_,
      fun e => ?_⟩
    · have hs := h.stopped (hstop ▸ e)
      rw [hleft (by rw [hs]; decide)]
      exact hs
    · rw [hstart]
      exact h.destroyed (hstop ▸ e) (hcreated ▸ hc)
    · have he := h.early (hstart ▸ e)
      rw [hleft]
      · exact he
      · rcases he with he | he <;> (rw [he]; decide)
  | checks hv hw hstop hcreated hstate =>
    refine h.same hstate hstop (fun e hc => ?_) fun _ => Or.inl hv
    have := h.destroyed e (hcreated ▸ hc)
    rw [hv] at this
    cases this
  | creates hv hw hstop hstate =>
    exact h.same hstate hstop (fun _ _ => hw) fun _ => Or.inl hv
  | writes hv _ hw hstop hstate _ =>
    have hidle : v.stop = .idle := by
      by_contra hs
      exact hv (h.stopped hs)
    refine ⟨fun _ => hstate, fun e => absurd (hstop.trans hidle) e, fun e => ?_, fun e => ?_⟩
    · rw [hstop, hidle] at e; cases e
    · rcases hw with hw | hw <;> (rw [hw] at e; rcases e with e | e <;> cases e)
  | goesOn hv hw hstop hstate hcreated =>
    refine h.same hstate hstop (fun e hc => ?_) fun e => ?_
    · have := h.destroyed e (hcreated hc)
      rw [hv] at this
      cases this
    · rcases hw with hw | hw <;> (rw [hw] at e; rcases e with e | e <;> cases e)
  | stops hv hw _ hstate hinside =>
    refine ⟨fun e => absurd e hw, fun _ => hstate, fun e => ?_, fun _ => Or.inr hstate⟩
    rw [hinside (h.fresh hv)] at e
    cases e
  | destroys hv hw hstart hstate hgone =>
    refine ⟨fun e => (by rw [hw] at e; cases e), fun _ => ?_, fun _ hc => ?_, fun e => ?_⟩
    · rw [hstate]
      exact h.stopped (by rw [hv]; decide)
    · rw [hgone] at hc; cases hc
    · rw [hstate]
      exact h.early (hstart ▸ e)

/-- Both calls have returned, and `Stop()` has won. -/
structure Over (v : View) : Prop where
  start : v.start = .returned
  stop : v.stop = .returned
  state : v.state = .stopped
  created : v.created = false

theorem Holds.over (h : Holds v) (hr : v.returned = true) : Over v := by
  simp only [returned, Bool.and_eq_true, beq_iff_eq] at hr
  refine ⟨hr.1, hr.2, h.stopped (by rw [hr.2]; decide), ?_⟩
  by_contra hc
  have := h.destroyed hr.2 (by simpa using hc)
  rw [hr.1] at this
  cases this

/-- The threads that are left change nothing. -/
theorem Over.moves (h : Over v) (hm : Moves v w) : Over w := by
  cases hm with
  | callback hstart hstop hcreated hleft _ =>
    refine ⟨hstart.trans h.start, hstop.trans h.stop, ?_, hcreated.trans h.created⟩
    rw [hleft (by rw [h.state]; decide)]
    exact h.state
  | checks hv | creates hv | goesOn hv =>
    rw [h.start] at hv
    cases hv
  | writes _ hv => exact absurd h.start hv
  | stops hv | destroys hv =>
    rw [h.stop] at hv
    cases hv

/-- Only `Start()` writes `kRunning`, and it finds `kCreated`. -/
theorem Holds.final (h : Holds v) (hm : Moves v w) (hv : v.state.terminal = true) :
    w.state ≠ .running := by
  have hleft : v.state ≠ .running := fun e => by rw [e] at hv; cases hv
  cases hm with
  | callback _ _ _ hw _ => rw [hw hleft]; exact hleft
  | checks _ _ _ _ hw | creates _ _ _ hw | goesOn _ _ _ hw | destroys _ _ _ hw =>
    rw [hw]; exact hleft
  | writes hs _ _ _ _ hw =>
    intro e
    rcases h.early (Or.inr (hw e)) with hc | hc
    · rw [hc] at hv; cases hv
    · exact hs hc
  | stops _ _ _ hw => rw [hw]; decide

end View

/-- In the runs whose steps meet `ok`, no terminal state is left for `kRunning`; and
when both calls have returned the handle is stopped and its target gone, whatever the
threads that are left still do. -/
structure StopWins {σ : Type u} {α : Type v} (M : System σ α) (view : σ → View)
    (ok : σ → α → Prop) : Prop where
  stays : ∀ l s, M.RunWith ok l s → (view s).returned = true → ∀ k t, M.Path s k t →
    (view t).state = .stopped ∧ (view t).created = false
  final : ∀ l s a t, M.RunWith ok l s → ok s a → M.next s a = some t →
    (view s).state.terminal = true → (view t).state ≠ .running

/-- **`Stop()` wins where every step is a move.**  Once `Start()` has returned, a step
cannot fail to meet `ok`. -/
theorem stopWins_of_moves {σ : Type u} {α : Type v} {M : System σ α} {view : σ → View}
    {ok : σ → α → Prop} (hinit : view M.init = .init)
    (hmoves : ∀ s a t, ok s a → M.next s a = some t → (view s).Moves (view t))
    (hreturned : ∀ s a t, (view s).start = .returned → M.next s a = some t → ok s a) :
    StopWins M view ok := by
  have hrun : ∀ l s, M.RunWith ok l s → (view s).Holds := fun l s h =>
    h.invariant (P := fun _ s => (view s).Holds) (hinit ▸ View.holds_init)
      fun _ s a t _ hi hok hn => hi.moves (hmoves s a t hok hn)
  constructor
  · intro l s h hret k t hp
    have hover : (view t).Over := by
      induction hp with
      | refl => exact (hrun l s h).over hret
      | @snoc k t u a _ hn ih => exact ih.moves (hmoves t a u (hreturned t a u ih.start hn) hn)
    exact ⟨hover.state, hover.created⟩
  · intro l s a t h hok hn
    exact (hrun l s h).final (hmoves s a t hok hn)

end RemoteController
