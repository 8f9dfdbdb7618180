import RemoteController.LanServer.Release
import RemoteController.Vigem.Report

/-!
# A release the driver refuses

`OnState` faults the session when the driver refuses its report.  `NeutralizeLocked`
sends its report through `SubmitNeutralState`, which drops the answer: after a
refused release the server shows a running session with nothing pressed and an
unarmed watchdog, while the driver still holds the last input down.

* `NoFalseRelease`: what a snapshot says of the driver in one state.
* `ReleaseTaken`: the steps after which it stays true.
* `noFalseRelease_iff`: in every run the two come to the same.
* `heldDown`: the shortest run that shows the difference.
-/

namespace RemoteController

open Lib Protocol

namespace LanControllerServer

/-- The last report the driver accepted is the neutral one. -/
def DriverNeutral (s : LanControllerServer) : Prop :=
  toXusbReport s.virtual.lastReport = toXusbReport {}

instance (s : LanControllerServer) : Decidable s.DriverNeutral :=
  inferInstanceAs (Decidable (_ = _))

/-- A snapshot says that the session runs and everything is released. -/
def ReportsRelease (s : LanControllerServer) : Prop :=
  s.state = .running ∧ s.currentState = {} ∧ s.watchdogArmed = false

/-- A failed release is not reported as a release. -/
def NoFalseRelease (s : LanControllerServer) : Prop :=
  ¬ s.DriverNeutral → ¬ s.ReportsRelease

/-- The thread comes back from its timed wait and takes the watchdog's branch. -/
def releases (inputTimeout : Nat) (s : Monitor.State LanControllerServer) : Bool :=
  match s.thread with
  | .timedOut deadline => (monitor inputTimeout).fires s deadline
  | _ => false

/-- The driver takes the report of a watchdog release, or was neutral before it. -/
def ReleaseTaken (inputTimeout : Nat) (s : Monitor.State LanControllerServer) :
    Monitor.Label Section Bool → Prop
  | .check neutralOk =>
    releases inputTimeout s = true → neutralOk = true ∨ s.core.DriverNeutral
  | _ => True

instance (inputTimeout : Nat) (s : Monitor.State LanControllerServer) :
    ∀ a : Monitor.Label Section Bool, Decidable (ReleaseTaken inputTimeout s a)
  | .check neutralOk =>
    inferInstanceAs (Decidable (releases inputTimeout s = true → neutralOk = true ∨ _))
  | .tick _ | .locked _ | .abandon _ | .notifyAll | .enter | .spurious | .expire | .resume =>
    .isTrue trivial

/-! ### What keeps the driver released -/

/-- While nothing is watched the driver is neutral, and the target lives until the
session is stopped. -/
structure Released (s : LanControllerServer) : Prop where
  unarmed : s.state = .running → s.watchdogArmed = false → s.DriverNeutral
  created : s.virtual.created = true ∨ s.stopRequested = true

theorem Released.noFalseRelease {s : LanControllerServer} (h : Released s) : NoFalseRelease s :=
  fun hn hr => hn (h.unarmed hr.1 hr.2.2)

theorem released_started : Released started where
  unarmed := fun _ _ => rfl
  created := Or.inl rfl

/-- The target outlives every section but `Destroy`, which comes after `Stop`. -/
theorem created_locked {s : LanControllerServer}
    (h : s.virtual.created = true ∨ s.stopRequested = true) (a : Section) (now : Nat) :
    (locked a now s).virtual.created = true ∨ (locked a now s).stopRequested = true := by
  cases a with
  | onState frame submitOk neutralOk =>
    rcases onState_cases s frame submitOk neutralOk now with ⟨_, he⟩ | ⟨_, _, _, he⟩ | ⟨_, _, he⟩
    · rw [locked, he]; exact h
    · rw [locked, he]; exact h
    · rw [locked, he]
      simpa [neutralizeLocked] using h
  | onRumble command =>
    simp only [locked, onRumble]
    split
    · exact h
    · exact h
  | onTransportDisconnected neutralOk =>
    simp only [locked, onTransportDisconnected]
    split
    · exact h
    · simpa [neutralizeLocked] using h
  | stop neutralOk =>
    simp only [locked, stopLocked]
    split
    · exact h
    · exact Or.inr rfl
  | transportStartFailed neutralOk =>
    simp only [locked, transportStartFailed]
    split
    · simpa [neutralizeLocked] using h
    · exact h
  | destroy =>
    simp only [locked]
    split
    · rename_i hs; exact Or.inr hs
    · exact h

theorem released_locked {s : LanControllerServer} (h : Released s) (a : Section) (now : Nat) :
    Released (locked a now s) where
  unarmed := by
    intro hr ha
    rcases locked_cases a now s with ⟨_, hs⟩ | ⟨_, _, _, _, _, _, _, he⟩ | ⟨_, _, _, _, hx, he⟩ |
      ⟨_, _, he⟩
    · rw [DriverNeutral, hs.lastReport]
      exact h.unarmed (hs.state ▸ hr) (hs.watchdogArmed ▸ ha)
    · rw [he] at ha; cases ha
    · rw [he] at hr; exact absurd hr hx
    · rw [he] at hr; cases hr
  created := created_locked h.created a now

/-- A release keeps the driver released, if the driver takes it or needs none. -/
theorem released_watchdogRelease {s : LanControllerServer} (h : Released s)
    (hlive : s.live = true) {neutralOk : Bool} (hok : neutralOk = true ∨ s.DriverNeutral) :
    Released (s.watchdogRelease neutralOk) where
  unarmed := by
    intro _ _
    have hc : s.virtual.created = true := by
      rcases h.created with hc | hc
      · exact hc
      · rw [(live_iff.mp hlive).1] at hc; cases hc
    cases neutralOk with
    | true =>
      exact congrArg toXusbReport (VirtualController.submitNeutralState_lastReport hc)
    | false =>
      rcases hok with hok | hok
      · cases hok
      · simpa [watchdogRelease, neutralizeLocked, VirtualController.submitNeutralState,
          VirtualController.submitState, DriverNeutral] using hok
  created := by simpa [watchdogRelease, neutralizeLocked] using h.created

theorem released_step {inputTimeout : Nat} {s t : Monitor.State LanControllerServer}
    {a : Monitor.Label Section Bool} (h : Released s.core) (hok : ReleaseTaken inputTimeout s a)
    (hn : (monitor inputTimeout).next s a = some t) : Released t.core := by
  rcases Monitor.core_step hn with hc | ⟨c, _, hc⟩ | ⟨neutralOk, d, rfl, ht, hf, hc⟩
  · rw [hc]; exact h
  · rw [hc]; exact released_locked h c s.now
  · have hlive : s.core.live = true := by
      simp only [Monitor.fires, Bool.and_eq_true] at hf
      exact hf.1.1
    have hrel : releases inputTimeout s = true := by rw [releases, ht]; exact hf
    rw [hc]
    exact released_watchdogRelease h hlive (hok hrel)

/-- A refused release is reported as a release. -/
theorem releaseTaken_of_noFalseRelease {inputTimeout : Nat}
    {s t : Monitor.State LanControllerServer} {a : Monitor.Label Section Bool}
    (hn : (monitor inputTimeout).next s a = some t) (ht : NoFalseRelease t.core) :
    ReleaseTaken inputTimeout s a := by
  cases a with
  | check neutralOk =>
    intro hrel
    cases neutralOk with
    | true => exact Or.inl rfl
    | false =>
      right
      by_contra hdriver
      rcases hs : s.thread with _ | _ | _ | _ | _ | d | _ <;>
        simp only [releases, hs, Bool.false_eq_true] at hrel
      simp only [Monitor.next, hs, Option.some.injEq] at hn
      have hcore : t.core = s.core.watchdogRelease false := by
        rw [← hn]
        simp only [Monitor.afterCheck, hrel, if_true]
        rfl
      have hlive : s.core.live = true := by
        simp only [Monitor.fires, Bool.and_eq_true] at hrel
        exact hrel.1.1
      rw [hcore] at ht
      refine ht ?_ ⟨(live_iff.mp hlive).2, rfl, rfl⟩
      simpa [watchdogRelease, neutralizeLocked, VirtualController.submitNeutralState,
        VirtualController.submitState, DriverNeutral] using hdriver
  | tick | locked | abandon | notifyAll | enter | spurious | expire | resume => exact trivial

/-- **When no failed release is reported as a release**: in a run of the server,
whatever the driver answers, it holds in every state exactly when each watchdog
release is taken by the driver or finds it neutral. -/
theorem noFalseRelease_iff {inputTimeout now : Nat} {l : List (Monitor.Label Section Bool)}
    {s : Monitor.State LanControllerServer} (h : (system inputTimeout now).Run l s) :
    (system inputTimeout now).Always (NoFalseRelease ·.core) l ↔
      (system inputTimeout now).RunWith (ReleaseTaken inputTimeout) l s := by
  apply System.always_iff_runWith (I := fun s => Released s.core) _ _ _ _ h
  · exact released_started
  · intro s a t hi hok hn
    exact released_step hi hok hn
  · intro s hi
    exact hi.noFalseRelease
  · intro s a t _ hn ht
    exact releaseTaken_of_noFalseRelease hn ht

theorem noFalseRelease_pressedTwice :
    (system 100 0).Always (NoFalseRelease ·.core) pressedTwice :=
  have h : (system 100 0).RunWith (ReleaseTaken 100) pressedTwice _ := System.runWith_of_exec rfl
  (noFalseRelease_iff h.run).mpr h

/-- A is pressed, 100 ms of silence pass, and the driver refuses the release. -/
def heldDown : List (Monitor.Label Section Bool) :=
  [.enter, .locked (.onState ⟨{ buttonFlags := kA }, 1, 10⟩ true true), .resume, .tick 100,
    .expire, .check false]

/-- **A refused release is reported as a release.** -/
theorem falseRelease_heldDown :
    ¬ ∀ inputTimeout now l s, (system inputTimeout now).Run l s → NoFalseRelease s.core := by
  intro h
  have hrun : (system 100 0).Run heldDown _ := System.run_of_exec rfl
  exact h 100 0 _ _ hrun (by decide) ⟨rfl, rfl, rfl⟩

end LanControllerServer

end RemoteController
