import RemoteController.LanServer.Release
import RemoteController.Session.State
import RemoteController.Lib.Wakeup

/-!
# The two watchdog loops and their condition variables

`condition_` of `LanControllerServer` and `watchdog_condition_` of `Session` are
notified from the callbacks and from `Stop()`, inside or after the section that
changed the state, and perhaps before the loop is entered.  Both meet
`Lib.Monitor.Announces`, so neither loop sleeps through an arming, a new arrival
or the end of the session (`noWakeupLost`).
-/

namespace RemoteController

open Lib Protocol

/-! ### The server -/

namespace LanControllerServer

theorem announces (inputTimeout : Nat) : (monitor inputTimeout).Announces where
  ended := by
    intro a t s hown hl hd
    replace hown : (monitor inputTimeout).own a = false := hown
    replace hl : s.live = true := hl
    replace hd : (locked a t s).live = false := hd
    obtain ⟨hstop, hrun⟩ := live_iff.mp hl
    change notify a s ≠ .none
    cases a with
    | onState frame submitOk neutralOk =>
      by_cases hr : s.refuses frame = true
      · simp only [locked, onState, hr, if_true] at hd
        rw [hl] at hd; cases hd
      · simp [notify, hr]
    | onRumble command =>
      simp [locked, onRumble, hrun, live, hstop] at hd
    | onTransportDisconnected neutralOk => simp [notify, hrun]
    | stop neutralOk => simp [notify, hrun]
    | transportStartFailed neutralOk => cases hown
    | destroy =>
      simp only [locked, hstop, Bool.false_eq_true, if_false] at hd
      rw [hl] at hd; cases hd
  arms := by
    intro a t s hf ha
    replace hf : feeds a s = false := hf
    replace ha : (locked a t s).watchdogArmed = true := ha
    change s.watchdogArmed = true
    rcases locked_cases a t s with ⟨_, hs⟩ | ⟨_, _, _, _, hf', _⟩ | ⟨_, _, _, _, _, he⟩ | ⟨_, _, he⟩
    · rw [← hs.watchdogArmed]; exact ha
    · rw [hf] at hf'; cases hf'
    · rw [he] at ha; cases ha
    · rw [he] at ha; exact ha

end LanControllerServer

/-! ### The loopback session -/

namespace Session

/-- A session that has left `kRunning` has told its loop to exit. -/
def ExitsWhenLeft (s : Session) : Prop :=
  s.state = .running ∨ s.watchdogExit = true ∧ s.state ≠ .created

theorem exitsWhenLeft_locked {s : Session} (h : s.ExitsWhenLeft) (a : Section) (now : Nat) :
    (locked a now s).ExitsWhenLeft := by
  cases a with
  | submitState sequence =>
    simp only [locked, submitStateLocked]
    split
    · exact h
    · split
      · exact h
      · exact h
  | onStateFrame frame submitOk neutralOk =>
    rcases onStateFrame_cases s frame submitOk neutralOk now with
      ⟨_, he⟩ | ⟨_, _, _, he⟩ | ⟨_, _, he⟩
    · rw [locked, he]; exact h
    · rw [locked, he]; exact h
    · rw [locked, he]; exact Or.inr ⟨rfl, fun e => by cases e⟩
  | onDisconnected neutralOk =>
    simp only [locked, onDisconnected]
    split
    · exact h
    · exact Or.inr ⟨rfl, fun e => by cases e⟩
  | stop neutralOk =>
    rcases h with hr | ⟨hx, hc⟩
    · simp only [locked, stopLocked, hr]
      exact Or.inr ⟨rfl, fun e => by cases e⟩
    · refine Or.inr ?_
      simp only [locked, stopLocked]
      cases hs : s.state with
      | created => exact absurd hs hc
      | stopped => exact ⟨hx, hc⟩
      | running => exact ⟨rfl, fun e => by cases e⟩
      | disconnected => exact ⟨rfl, fun e => by simp at e⟩
      | faulted => exact ⟨rfl, fun e => by simp at e⟩

theorem exitsWhenLeft_run {inputTimeout now : Nat} {l : List (Monitor.Label Section Bool)}
    {s : Monitor.State Session} (h : (system inputTimeout now).Run l s) :
    s.core.ExitsWhenLeft := by
  induction h with
  | refl => exact Or.inl rfl
  | @snoc l s t a _ hn ih =>
    rcases Monitor.core_step hn with hc | ⟨c, _, hc⟩ | ⟨b, d, _, _, _, hc⟩
    · rw [hc]; exact ih
    · rw [hc]; exact exitsWhenLeft_locked ih c s.now
    · rw [hc]; exact ih

theorem announces (inputTimeout : Nat) : (monitor inputTimeout).Announces where
  ended := by
    intro a t s _ hl hd
    replace hl : (!s.watchdogExit) = true := hl
    replace hd : (!(locked a t s).watchdogExit) = false := hd
    rw [Bool.not_eq_true'] at hl
    rw [Bool.not_eq_false'] at hd
    change notify a s ≠ .none
    cases a with
    | submitState sequence =>
      simp only [locked, submitStateLocked] at hd
      split at hd
      · rw [hl] at hd; cases hd
      · split at hd
        · rw [hl] at hd; cases hd
        · rw [hl] at hd; cases hd
    | onStateFrame frame submitOk neutralOk =>
      by_cases hr : s.refuses frame = true
      · simp only [locked, onStateFrame, hr, if_true] at hd
        rw [hl] at hd; cases hd
      · simp [notify, hr]
    | onDisconnected neutralOk =>
      by_cases hr : s.state = .running
      · simp [notify, hr]
      · simp only [locked, onDisconnected, ne_eq, hr, not_false_eq_true, if_true] at hd
        rw [hl] at hd; cases hd
    | stop neutralOk =>
      simp only [locked, stopLocked] at hd
      cases hs : s.state <;> simp [hs, hl] at hd <;> simp [notify, hs]
  arms := by
    intro a t s hf ha
    replace hf : feeds a s = false := hf
    replace ha : (locked a t s).watchdogArmed = true := ha
    change s.watchdogArmed = true
    cases a with
    | submitState sequence =>
      simp only [locked, submitStateLocked] at ha
      split at ha
      · exact ha
      · split at ha
        · exact ha
        · exact ha
    | onStateFrame frame submitOk neutralOk =>
      rcases onStateFrame_cases s frame submitOk neutralOk t with ⟨_, he⟩ | ⟨hf', _⟩ | ⟨_, _, he⟩
      · rw [locked, he] at ha; exact ha
      · rw [feeds, hf'] at hf; cases hf
      · rw [locked, he] at ha; cases ha
    | onDisconnected neutralOk =>
      simp only [locked, onDisconnected] at ha
      split at ha
      · exact ha
      · cases ha
    | stop neutralOk =>
      simp only [locked, stopLocked] at ha
      cases hs : s.state <;> simp only [hs] at ha
      · exact ha
      · cases ha
      · exact ha
      · exact ha
      · exact ha

end Session

/-! ### Both -/

/-- **No watchdog wake-up is lost**, in the server and in the session, whatever
the order of the sections, of the notifications and of the loop's own steps. -/
theorem noWakeupLost (inputTimeout now : Nat) :
    (∀ l s, (LanControllerServer.system inputTimeout now).Run l s →
      (LanControllerServer.monitor inputTimeout).WakesUp (·.state ≠ .running) s) ∧
    (∀ l s, (Session.system inputTimeout now).Run l s →
      (Session.monitor inputTimeout).WakesUp (·.state ≠ .running) s) := by
  constructor
  · intro l s h
    refine Monitor.wakesUp_of_run (LanControllerServer.announces inputTimeout) h fun hs => ?_
    change s.core.live = false
    simp [LanControllerServer.live, hs]
  · intro l s h
    refine Monitor.wakesUp_of_run (Session.announces inputTimeout) h fun hs => ?_
    rcases Session.exitsWhenLeft_run h with hr | ⟨hx, _⟩
    · exact absurd hr hs
    · simp [Session.monitor, hx]

/-- A frame comes before the loop is entered; the session is stopped while the
loop sleeps, and `Stop()` has not notified yet. -/
def stoppedAsleep : List (Monitor.Label LanControllerServer.Section Bool) :=
  [.locked (.onState ⟨{ buttonFlags := 0x1000 }, 1, 10⟩ true true), .enter, .locked (.stop true)]

/-- The loopback session loses its transport before its first frame. -/
def disconnectedAsleep : List (Monitor.Label Session.Section Bool) :=
  [.enter, .locked (.onDisconnected true)]

theorem noWakeupLost_asleep :
    (∃ s, (LanControllerServer.system 100 0).Run stoppedAsleep s ∧ s.thread = .timed 100 ∧
      s.core.state = .stopped ∧
      (LanControllerServer.monitor 100).WakesUp (·.state ≠ .running) s) ∧
    ∃ s, (Session.system 100 0).Run disconnectedAsleep s ∧ s.thread = .waiting ∧
      s.core.state = .disconnected ∧ (Session.monitor 100).WakesUp (·.state ≠ .running) s :=
  have hs : (LanControllerServer.system 100 0).Run stoppedAsleep _ := System.run_of_exec rfl
  have hd : (Session.system 100 0).Run disconnectedAsleep _ := System.run_of_exec rfl
  ⟨⟨_, hs, rfl, rfl, (noWakeupLost 100 0).1 _ _ hs⟩,
    ⟨_, hd, rfl, rfl, (noWakeupLost 100 0).2 _ _ hd⟩⟩

end RemoteController
