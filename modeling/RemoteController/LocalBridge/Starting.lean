import RemoteController.LocalBridge.State
import RemoteController.Handle

/-!
# `Stop()` against `Start()` of the local bridge

`Start()` writes `kRunning`, or `kFaulted` after `Create` or `Open` failed, without a
second look at the state.  A step is a move of the handle as long as none of these
sections finds `kStopped` (`moves_step`).
-/

namespace RemoteController

open Lib Protocol

namespace LocalControllerBridge

/-- What the callbacks do: they leave a bridge alone that is not running, and do not
stop it. -/
structure Recedes (c d : LocalControllerBridge) : Prop where
  left : c.state ≠ .running → d.state = c.state
  stopped : d.state = .stopped → c.state = .stopped

theorem recedes_refl (c : LocalControllerBridge) : Recedes c c := ⟨fun _ => rfl, id⟩

theorem onStateRefused_recedes (c : LocalControllerBridge) : Recedes c c.onStateRefused := by
  rw [onStateRefused]
  split
  · rename_i h
    exact ⟨fun e => absurd h e, fun e => (by cases e)⟩
  · exact recedes_refl c

theorem onStateAccepted_recedes (c : LocalControllerBridge) (state : GamepadStateV1)
    (timestampUs : UInt64) : Recedes c (c.onStateAccepted state timestampUs) := by
  rw [onStateAccepted]
  split <;> exact ⟨fun _ => rfl, id⟩

theorem onDisconnected_recedes (c : LocalControllerBridge) : Recedes c c.onDisconnected.1 := by
  rw [onDisconnected]
  split
  · exact recedes_refl c
  · rename_i h
    exact ⟨fun e => absurd e h, fun e => (by cases e)⟩

theorem onRumble_recedes (c : LocalControllerBridge) (command : RumbleCommand) :
    Recedes c (c.onRumble command).1 :=
  ⟨fun _ => c.onRumble_state command, fun e => c.onRumble_state command ▸ e⟩

end LocalControllerBridge

def BridgeStart.view : BridgeStart → StartView
  | .checking | .creating | .createFailed => .early
  | .created => .created
  | .opening | .openFailed | .releasing | .destroying => .late
  | .returned _ => .returned

def BridgeStop.view : BridgeStop → StopView
  | .idle => .idle
  | .closing | .releasing | .destroying => .inside
  | .returned => .returned

namespace BridgeSide

open LocalControllerBridge

def view (s : BridgeSide) : View where
  state := s.core.state
  created := s.virtual.created
  start := s.start.view
  stop := s.stop.view

/-- No section of `Start()` finds `kStopped` when it writes the next state. -/
def StartMissesStop (s : BridgeSide) : BridgeLabel → Prop
  | .startFailed | .startRunning | .openFailed => s.core.state ≠ .stopped
  | _ => True

instance (s : BridgeSide) : ∀ a : BridgeLabel, Decidable (StartMissesStop s a)
  | .startFailed | .startRunning | .openFailed =>
    inferInstanceAs (Decidable (s.core.state ≠ .stopped))
  | .startChecks | .create _ | .openDevice _ | .startReleases _ | .startDestroys | .stop
  | .stopCloses | .stopReleases _ | .stopDestroys | .onState _ | .submitState _
  | .onStateRefused | .onStateAccepted _ | .onDisconnected | .pollReleases _ | .onRumble _ =>
    .isTrue trivial

variable {s t : BridgeSide} {a : BridgeLabel}

theorem moves_of_recedes (h : Recedes s.core t.core)
    (hcreated : t.virtual.created = s.virtual.created) (hstart : t.start = s.start)
    (hstop : t.stop = s.stop) : s.view.Moves t.view :=
  .callback (congrArg BridgeStart.view hstart) (congrArg BridgeStop.view hstop) hcreated h.left
    h.stopped

theorem moves_start (hok : StartMissesStop s a) (ha : a.thread = .start)
    (h : s.step a = some t) : s.view.Moves t.view := by
  cases a with
  | startChecks =>
    simp only [step, Option.ite_none_right_eq_some, Option.some.injEq] at h
    obtain ⟨hs, rfl⟩ := h
    refine .checks (congrArg BridgeStart.view hs) ?_ rfl rfl rfl
    cases hm : s.core.mayStart
    · exact Or.inr rfl
    · exact Or.inl rfl
  | create ok =>
    simp only [step, Option.ite_none_right_eq_some, Option.some.injEq] at h
    obtain ⟨hs, rfl⟩ := h
    rcases VirtualController.create_cases s.virtual ok with ⟨h2, h1⟩ | ⟨h2, h1⟩ <;> rw [h1, h2]
    · exact .creates (congrArg BridgeStart.view hs) rfl rfl rfl
    · exact .checks (congrArg BridgeStart.view hs) (Or.inl rfl) rfl rfl rfl
  | startFailed =>
    simp only [step, Option.ite_none_right_eq_some, Option.some.injEq] at h
    obtain ⟨hs, rfl⟩ := h
    exact .writes hok (by rw [view, hs]; exact fun e => by cases e) (Or.inr rfl) rfl
      (fun e => by cases e) fun e => by cases e
  | startRunning =>
    simp only [step, Option.ite_none_right_eq_some, Option.some.injEq] at h
    obtain ⟨hs, rfl⟩ := h
    exact .writes hok (by rw [view, hs]; exact fun e => by cases e) (Or.inl rfl) rfl
      (fun e => by cases e) fun _ => congrArg BridgeStart.view hs
  | openFailed =>
    simp only [step, Option.ite_none_right_eq_some, Option.some.injEq] at h
    obtain ⟨hs, rfl⟩ := h
    exact .writes hok (by rw [view, hs]; exact fun e => by cases e) (Or.inl rfl) rfl
      (fun e => by cases e) fun e => by cases e
  | openDevice ok =>
    simp only [step, Option.ite_none_right_eq_some] at h
    obtain ⟨hs, h⟩ := h
    split at h <;> obtain rfl := Option.some.inj h
    · exact .goesOn (congrArg BridgeStart.view hs) (Or.inr rfl) rfl rfl id
    · exact .goesOn (congrArg BridgeStart.view hs) (Or.inl rfl) rfl rfl id
  | startReleases neutralOk =>
    simp only [step, Option.ite_none_right_eq_some, Option.some.injEq] at h
    obtain ⟨hs, rfl⟩ := h
    refine .goesOn (congrArg BridgeStart.view hs) (Or.inl rfl) rfl rfl fun e => ?_
    exact (VirtualController.submitNeutralState_created s.virtual neutralOk).symm.trans e
  | startDestroys =>
    simp only [step, Option.ite_none_right_eq_some, Option.some.injEq] at h
    obtain ⟨hs, rfl⟩ := h
    exact .goesOn (congrArg BridgeStart.view hs) (Or.inr rfl) rfl rfl fun e => by cases e
  | stop | stopCloses | stopReleases | stopDestroys | onState | submitState | onStateRefused
    | onStateAccepted | onDisconnected | pollReleases | onRumble => cases ha

theorem moves_stop (ha : a.thread = .stop) (h : s.step a = some t) : s.view.Moves t.view := by
  cases a with
  | stop =>
    simp only [step, Option.ite_none_right_eq_some] at h
    obtain ⟨hs, h⟩ := h
    by_cases hst : s.core.state = .stopped
    · rw [stopLocked, if_pos hst] at h
      obtain rfl := Option.some.inj h
      exact .stops (congrArg BridgeStop.view hs) (fun e => by cases e) rfl hst
        fun e => absurd hst e
    · rw [stopLocked, if_neg hst] at h
      obtain rfl := Option.some.inj h
      exact .stops (congrArg BridgeStop.view hs) (fun e => by cases e) rfl rfl fun _ => rfl
  | stopCloses =>
    simp only [step, Option.ite_none_right_eq_some, Option.some.injEq] at h
    obtain ⟨⟨hs, _⟩, rfl⟩ := h
    exact .callback rfl (by rw [view, view, hs]; rfl) rfl (fun _ => rfl) id
  | stopReleases neutralOk =>
    simp only [step, Option.ite_none_right_eq_some, Option.some.injEq] at h
    obtain ⟨hs, rfl⟩ := h
    exact .callback rfl (by rw [view, view, hs]; rfl)
      (VirtualController.submitNeutralState_created _ _) (fun _ => rfl) id
  | stopDestroys =>
    simp only [step, Option.ite_none_right_eq_some, Option.some.injEq] at h
    obtain ⟨hs, rfl⟩ := h
    exact .destroys (congrArg BridgeStop.view hs) rfl rfl rfl rfl
  | startChecks | create | startFailed | startRunning | openDevice | openFailed | startReleases
    | startDestroys | onState | submitState | onStateRefused | onStateAccepted | onDisconnected
    | pollReleases | onRumble => cases ha

theorem moves_poll (ha : a.thread = .poll) (h : s.step a = some t) : s.view.Moves t.view := by
  cases a with
  | onState state =>
    simp only [step, Option.ite_none_right_eq_some, Option.some.injEq] at h
    obtain ⟨_, rfl⟩ := h
    exact moves_of_recedes (recedes_refl _) rfl rfl rfl
  | submitState ok =>
    simp only [step] at h
    split at h
    · obtain rfl := Option.some.inj h
      exact moves_of_recedes (recedes_refl _) (VirtualController.submitState_created _ _ _) rfl rfl
    · cases h
  | onStateRefused =>
    simp only [step, Option.ite_none_right_eq_some, Option.some.injEq] at h
    obtain ⟨_, rfl⟩ := h
    exact moves_of_recedes s.core.onStateRefused_recedes rfl rfl rfl
  | onStateAccepted timestampUs =>
    simp only [step] at h
    split at h
    · obtain rfl := Option.some.inj h
      exact moves_of_recedes (s.core.onStateAccepted_recedes _ _) rfl rfl rfl
    · cases h
  | onDisconnected =>
    simp only [step, Option.ite_none_right_eq_some, Option.some.injEq] at h
    obtain ⟨_, rfl⟩ := h
    exact moves_of_recedes s.core.onDisconnected_recedes rfl rfl rfl
  | pollReleases neutralOk =>
    simp only [step, Option.ite_none_right_eq_some, Option.some.injEq] at h
    obtain ⟨_, rfl⟩ := h
    exact moves_of_recedes (recedes_refl _) (VirtualController.submitNeutralState_created _ _)
      rfl rfl
  | startChecks | create | startFailed | startRunning | openDevice | openFailed | startReleases
    | startDestroys | stop | stopCloses | stopReleases | stopDestroys | onRumble => cases ha

/-- **What a step does to the handle.** -/
theorem moves_step (hok : StartMissesStop s a) (h : s.step a = some t) : s.view.Moves t.view := by
  cases ha : a.thread with
  | start => exact moves_start hok ha h
  | stop => exact moves_stop ha h
  | poll => exact moves_poll ha h
  | notification =>
    cases a with
    | onRumble command =>
      obtain rfl := Option.some.inj h
      exact moves_of_recedes (s.core.onRumble_recedes command) rfl rfl rfl
    | startChecks | create | startFailed | startRunning | openDevice | openFailed | startReleases
      | startDestroys | stop | stopCloses | stopReleases | stopDestroys | onState | submitState
      | onStateRefused | onStateAccepted | onDisconnected | pollReleases => cases ha

/-- `Start()` writes no state once it has returned. -/
theorem missesStop_of_returned (hs : s.start.view = .returned) (h : s.step a = some t) :
    StartMissesStop s a := by
  cases a with
  | startFailed | startRunning | openFailed =>
    simp only [step, Option.ite_none_right_eq_some] at h
    rw [h.1] at hs
    cases hs
  | startChecks | create | openDevice | startReleases | startDestroys | stop | stopCloses
    | stopReleases | stopDestroys | onState | submitState | onStateRefused | onStateAccepted
    | onDisconnected | pollReleases | onRumble => exact trivial

end BridgeSide

end RemoteController
