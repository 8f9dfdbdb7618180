import RemoteController.Lib.Response
import RemoteController.Wakeup

/-!
# The input watchdog releases in time

That the two watchdog loops do not release fresh input and do not sleep through a
notification leaves open whether they release stale input at all.  They do: the sections of
the server and of the loopback session meet `Lib.Monitor.Silent`, so a loop whose thread
gets to run has released the controller after three steps of its own, and one more for each
spurious wake-up (`watchdog_responds`).
-/

namespace RemoteController

open Lib Protocol

namespace LanControllerServer

theorem silent (inputTimeout : Nat) : (monitor inputTimeout).Silent where
  quiet := by
    intro a t s hf hl
    replace hf : feeds a s = false := hf
    replace hl : (locked a t s).live = true := hl
    change notify a s = .none
    cases a with
    | onState frame submitOk neutralOk =>
      by_cases hr : s.refuses frame = true
      · simp [notify, hr]
      · -- the driver refused the report, and the session is faulted
        have hstate := faulted_of_not_applies (by simpa using hr) hf neutralOk t
        rw [show locked (.onState frame submitOk neutralOk) t s =
          s.onState frame submitOk neutralOk t from rfl, live_iff, hstate] at hl
        cases hl.2
    | onRumble command => rfl
    | onTransportDisconnected neutralOk =>
      by_cases hr : s.state = .running
      · simp [locked, onTransportDisconnected, hr, live, neutralizeLocked] at hl
      · simp [notify, hr]
    | stop neutralOk =>
      by_cases hs : s.state = .stopped
      · simp [notify, hs]
      · simp [locked, stopLocked, hs, live] at hl
    | transportStartFailed neutralOk =>
      simp only [locked, transportStartFailed] at hl
      split at hl
      · simp [live, neutralizeLocked] at hl
      · rename_i hd
        exact absurd hl hd
    | destroy => rfl
  ends := by
    intro a t s hown
    cases a with
    | transportStartFailed neutralOk =>
      change (locked _ t s).live = false
      simp only [locked, transportStartFailed]
      split
      · simp [live, neutralizeLocked]
      · rename_i hd
        simpa [live] using hd
    | _ => cases hown

/-- The controller is released, and nothing is left to release. -/
def Silenced (s : LanControllerServer) : Prop := s.watchdogArmed = false ∧ s.currentState = {}

theorem silenced_locked {a : Section} {t : Nat} {s : LanControllerServer}
    (hf : feeds a s = false) (hl : (locked a t s).live = true) (hr : s.Silenced) :
    (locked a t s).Silenced := by
  rcases locked_cases a t s with ⟨_, hs⟩ | ⟨_, _, _, _, hf', _⟩ | ⟨_, _, x, _, hx, he⟩ | ⟨_, _, he⟩
  · exact ⟨hs.watchdogArmed.trans hr.1, hs.currentState.trans hr.2⟩
  · rw [hf] at hf'
    cases hf'
  · rw [he] at hl
    exact absurd (live_iff.mp hl).2 hx
  · rw [he] at hl
    cases (live_iff.mp hl).2

end LanControllerServer

namespace Session

/-- A frame that is neither refused nor applied ends the loop. -/
theorem exits_of_not_applies {s : Session} {frame : StateFrame} {submitOk : Bool}
    (hr : s.refuses frame = false) (ha : s.applies frame submitOk = false) (neutralOk : Bool)
    (now : Nat) : (s.onStateFrame frame submitOk neutralOk now).watchdogExit = true := by
  simp only [applies, hr, Bool.not_false, Bool.true_and] at ha
  simp only [onStateFrame, hr, ha, Bool.false_eq_true, if_false]

theorem silent (inputTimeout : Nat) : (monitor inputTimeout).Silent where
  quiet := by
    intro a t s hf hl
    replace hf : feeds a s = false := hf
    replace hl : (!(locked a t s).watchdogExit) = true := hl
    change notify a s = .none
    cases a with
    | submitState sequence => rfl
    | onStateFrame frame submitOk neutralOk =>
      by_cases hr : s.refuses frame = true
      · simp [notify, hr]
      · rw [locked, exits_of_not_applies (by simpa using hr) hf] at hl
        cases hl
    | onDisconnected neutralOk =>
      by_cases hr : s.state = .running
      · simp [locked, onDisconnected, hr] at hl
      · simp [notify, hr]
    | stop neutralOk =>
      simp only [locked, stopLocked] at hl
      cases hs : s.state <;> simp [hs] at hl <;> simp [notify, hs]
  ends := by
    intro a t s hown
    cases hown

def Silenced (s : Session) : Prop := s.watchdogArmed = false ∧ s.outputState = {}

theorem silenced_locked {a : Section} {t : Nat} {s : Session} (hf : feeds a s = false)
    (hl : (locked a t s).watchdogExit = false) (hr : s.Silenced) : (locked a t s).Silenced := by
  cases a with
  | submitState sequence =>
    simp only [locked, submitStateLocked]
    split
    · exact hr
    · split
      · exact hr
      · exact hr
  | onStateFrame frame submitOk neutralOk =>
    rcases onStateFrame_cases s frame submitOk neutralOk t with ⟨_, he⟩ | ⟨hf', _⟩ | ⟨_, _, he⟩
    · rw [locked, he]
      exact hr
    · rw [feeds, hf'] at hf
      cases hf
    · rw [locked, he]
      exact ⟨rfl, rfl⟩
  | onDisconnected neutralOk =>
    simp only [locked, onDisconnected]
    split
    · exact hr
    · exact ⟨rfl, rfl⟩
  | stop neutralOk =>
    simp only [locked, stopLocked]
    cases s.state with
    | created | stopped | disconnected | faulted => exact hr
    | running => exact ⟨rfl, rfl⟩

end Session

/-- **The input watchdog releases in time**, in the server and in the session.  Whenever a
running session has heard nothing for its timeout with the controller not released, the
watchdog thread can go on, and once it has taken three steps, and one more for each spurious
wake-up, with no frame accepted and the session still running, the output is neutral. -/
theorem watchdog_responds (inputTimeout now : Nat) :
    (LanControllerServer.monitor inputTimeout).Responds LanControllerServer.started now
        LanControllerServer.Silenced ∧
      (Session.monitor inputTimeout).Responds Session.started now Session.Silenced :=
  ⟨Monitor.responds (LanControllerServer.announces inputTimeout)
      (LanControllerServer.silent inputTimeout) (fun _ _ => ⟨rfl, rfl⟩)
      fun _ _ _ hf hl hr => LanControllerServer.silenced_locked hf hl hr,
    Monitor.responds (Session.announces inputTimeout) (Session.silent inputTimeout)
      (fun _ _ => ⟨rfl, rfl⟩)
      fun _ _ _ hf hl hr => Session.silenced_locked hf (by simpa [Session.monitor] using hl) hr⟩

/-- A frame comes before the loop is entered, 100 ms pass, and the thread wakes once too early. -/
theorem watchdog_responds_late :
    ∃ s t, (LanControllerServer.system 100 0).Run
        [.locked (.onState ⟨{ buttonFlags := 0x1000 }, 1, 10⟩ true true), .tick 100] s ∧
      (LanControllerServer.system 100 0).Path s
        [.enter, .spurious, .resume, .locked (.onRumble {}), .expire, .check true] t ∧
      s.core.currentState ≠ {} ∧ t.core.Silenced := by
  have hrun : (LanControllerServer.system 100 0).Run
      [.locked (.onState ⟨{ buttonFlags := 0x1000 }, 1, 10⟩ true true), .tick 100] _ :=
    System.run_of_exec rfl
  have hpath : (LanControllerServer.system 100 0).Path
      ⟨LanControllerServer.started.onState ⟨{ buttonFlags := 0x1000 }, 1, 10⟩ true true 0, 100,
        .outside, 0⟩
      [.enter, .spurious, .resume, .locked (.onRumble {}), .expire, .check true] _ :=
    System.path_of_exec rfl
  refine ⟨_, _, hrun, hpath, by decide, ?_⟩
  refine ((watchdog_responds 100 0).1 _ _ hrun rfl rfl (by decide)).2 _ _ hpath rfl ?_ (by decide)
  intro l₁ c l₂ u he hu
  have hc : Monitor.Label.locked c ∈
      [Monitor.Label.enter, .spurious, .resume, .locked (.onRumble {}), .expire, .check true] := by
    rw [he]
    simp
  obtain rfl : c = .onRumble {} := by simpa using hc
  rfl

end RemoteController
