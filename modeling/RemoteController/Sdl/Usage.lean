import RemoteController.Backends
import RemoteController.Lib.Ledger
import RemoteController.Lib.Transition
import RemoteController.Sdl.Sample

/-!
# How a gamepad is used

The calls to SDL and the callbacks that `sdl_input_backend.cpp` makes, and what a gamepad
goes through from its opening to its closing, as a system of its own.

* `Event`: a call with its answer, or a callback.  A gamepad is named by the call that
  opened it.
* `usage`: how SDL is to be used; `Usage.Step` are the ways in which a use goes on.
* `silent_of_run`, `faithful_of_run`, `live_of_run`: what holds of every log that keeps to it.
-/

namespace RemoteController

open Lib Protocol

namespace SdlInputBackend

/-! ### What is done to SDL -/

/-- A call to SDL with its answer, or a callback.  `readState` stands for the calls of
`ReadState`, one for each button and axis. -/
inductive Event where
  | openGamepad (instanceId : UInt32) (result : Option Nat)
  | updateGamepads
  | gamepadConnected (gamepad : Nat) (connected : Bool)
  | readState (gamepad : Nat) (sample : GamepadSample)
  | stateCallback (state : GamepadStateV1)
  | disconnectCallback
  | rumbleGamepad (gamepad : Nat) (command : RumbleCommand) (durationMs : UInt32)
  | closeGamepad (gamepad : Nat)

def Event.gamepad : Event → Option Nat
  | .openGamepad _ result => result
  | .gamepadConnected gamepad _ | .readState gamepad _ | .rumbleGamepad gamepad _ _
  | .closeGamepad gamepad => some gamepad
  | _ => none

def Event.onGamepad : Event → Option Effect
  | .openGamepad _ _ => some .acquire
  | .closeGamepad _ => some .release
  | _ => some .use

def gamepads : Ledger Event Nat := ⟨Event.gamepad, Event.onGamepad⟩

def Event.isCallback : Event → Bool
  | .stateCallback _ | .disconnectCallback => true
  | _ => false

/-! ### How SDL is to be used -/

/-- What the gamepad `g` has gone through. -/
inductive Usage where
  | closed
  | polling (g : Nat)
  | updated (g : Nat)
  | connected (g : Nat)
  | sampled (g : Nat) (sample : GamepadSample)
  | reported (g : Nat)
  /-- SDL said that it is not connected any more. -/
  | gone (g : Nat)
  | told (g : Nat)
  /-- The motors are off, and nothing comes after it but the closing. -/
  | silent (g : Nat)

/-- The last rumble, which ends every use. -/
def Usage.endsWith (g gamepad : Nat) (command : RumbleCommand) (durationMs : UInt32) :
    Option Usage :=
  if gamepad = g ∧ command = {} ∧ durationMs = 0 then some (.silent g) else none

def Usage.next : Usage → Event → Option Usage
  | .closed, .openGamepad _ (some g) => some (.polling g)
  | .closed, .openGamepad _ none => some .closed
  | .polling g, .updateGamepads | .reported g, .updateGamepads => some (.updated g)
  | .updated g, .gamepadConnected gamepad isConnected =>
    if gamepad = g then some (if isConnected then .connected g else .gone g) else none
  | .connected g, .readState gamepad sample =>
    if gamepad = g then some (.sampled g sample) else none
  | .sampled g sample, .stateCallback state =>
    if state = RemoteController.readState sample then some (.reported g) else none
  | .reported g, .rumbleGamepad gamepad command durationMs =>
    if gamepad = g ∧ durationMs = 1000 then some (.polling g)
    else endsWith g gamepad command durationMs
  | .polling g, .rumbleGamepad gamepad command durationMs
  | .gone g, .rumbleGamepad gamepad command durationMs
  | .told g, .rumbleGamepad gamepad command durationMs => endsWith g gamepad command durationMs
  | .gone g, .disconnectCallback => some (.told g)
  | .silent g, .closeGamepad gamepad => if gamepad = g then some .closed else none
  | _, _ => none

def usage : System Usage Event where
  init := .closed
  next := Usage.next

/-! ### What the use of a gamepad promises -/

/-- The gamepad is open, and nobody was told that it is gone. -/
def Usage.live : Usage → Option Nat
  | .polling g | .updated g | .connected g | .sampled g _ | .reported g | .gone g => some g
  | _ => none

/-- The gamepad `g` was opened, and since then nothing was closed and nobody was told that
it is gone. -/
def LiveAfter (g : Nat) (log : List Event) : Prop :=
  ∃ id b₁ b₂, log = b₁ ++ .openGamepad id (some g) :: b₂ ∧ .disconnectCallback ∉ b₂ ∧
    ∀ g', .closeGamepad g' ∉ b₂

/-- The ten ways in which a use goes on. -/
inductive Usage.Step : Usage → Event → Usage → Prop
  | opened (id : UInt32) (g : Nat) : Step .closed (.openGamepad id (some g)) (.polling g)
  | notOpened (id : UInt32) : Step .closed (.openGamepad id none) .closed
  | update {u : Usage} {g : Nat} (hu : u = .polling g ∨ u = .reported g) :
      Step u .updateGamepads (.updated g)
  | present (g : Nat) : Step (.updated g) (.gamepadConnected g true) (.connected g)
  | absent (g : Nat) : Step (.updated g) (.gamepadConnected g false) (.gone g)
  | sample (g : Nat) (sample : GamepadSample) :
      Step (.connected g) (.readState g sample) (.sampled g sample)
  | report (g : Nat) (sample : GamepadSample) :
      Step (.sampled g sample) (.stateCallback (RemoteController.readState sample)) (.reported g)
  | rumble (g : Nat) (command : RumbleCommand) :
      Step (.reported g) (.rumbleGamepad g command 1000) (.polling g)
  | tell (g : Nat) : Step (.gone g) .disconnectCallback (.told g)
  | silence {u : Usage} {g : Nat}
      (hu : u = .polling g ∨ u = .reported g ∨ u = .gone g ∨ u = .told g) :
      Step u (.rumbleGamepad g {} 0) (.silent g)
  | closed (g : Nat) : Step (.silent g) (.closeGamepad g) .closed

theorem Usage.step_of_endsWith {u v : Usage} {g gamepad : Nat} {command : RumbleCommand}
    {durationMs : UInt32} (hn : Usage.endsWith g gamepad command durationMs = some v)
    (hu : u = .polling g ∨ u = .reported g ∨ u = .gone g ∨ u = .told g) :
    u.Step (.rumbleGamepad gamepad command durationMs) v := by
  simp only [Usage.endsWith] at hn
  split at hn
  · rename_i hc
    obtain ⟨rfl, rfl, rfl⟩ := hc
    obtain rfl := Option.some.inj hn
    exact .silence hu
  · cases hn

theorem Usage.step_of_next {u v : Usage} {e : Event} (hn : u.next e = some v) : u.Step e v := by
  simp only [Usage.next] at hn
  split at hn
  · obtain rfl := Option.some.inj hn
    exact .opened _ _
  · obtain rfl := Option.some.inj hn
    exact .notOpened _
  · obtain rfl := Option.some.inj hn
    exact .update (.inl rfl)
  · obtain rfl := Option.some.inj hn
    exact .update (.inr rfl)
  · rename_i isConnected
    split at hn
    · rename_i hg
      subst hg
      obtain rfl := Option.some.inj hn
      cases isConnected
      · exact .absent _
      · exact .present _
    · cases hn
  · split at hn
    · rename_i hg
      subst hg
      obtain rfl := Option.some.inj hn
      exact .sample _ _
    · cases hn
  · split at hn
    · rename_i hs
      subst hs
      obtain rfl := Option.some.inj hn
      exact .report _ _
    · cases hn
  · split at hn
    · rename_i hc
      obtain ⟨rfl, rfl⟩ := hc
      obtain rfl := Option.some.inj hn
      exact .rumble _ _
    · exact step_of_endsWith hn (.inr (.inl rfl))
  · exact step_of_endsWith hn (.inl rfl)
  · exact step_of_endsWith hn (.inr (.inr (.inl rfl)))
  · exact step_of_endsWith hn (.inr (.inr (.inr rfl)))
  · obtain rfl := Option.some.inj hn
    exact .tell _
  · split at hn
    · rename_i hg
      subst hg
      obtain rfl := Option.some.inj hn
      exact .closed _
    · cases hn
  · cases hn

/-- A step to a live gamepad: it is opened, or it was live and stays so. -/
theorem Usage.Step.live {u v : Usage} {e : Event} {g : Nat} (h : u.Step e v)
    (hv : v.live = some g) :
    (∃ id, e = .openGamepad id (some g)) ∨
      u.live = some g ∧ e ≠ .disconnectCallback ∧ ∀ g', e ≠ .closeGamepad g' := by
  cases h with
  | opened id g' =>
    obtain rfl : g' = g := Option.some.inj hv
    exact .inl ⟨id, rfl⟩
  | notOpened | tell | silence | closed => cases hv
  | update hu =>
    rcases hu with rfl | rfl
    · exact .inr ⟨hv, by simp, by simp⟩
    · exact .inr ⟨hv, by simp, by simp⟩
  | present | absent | sample | report | rumble => exact .inr ⟨hv, by simp, by simp⟩

theorem liveAfter_of_run {log : List Event} {u : Usage} {g : Nat} (h : usage.Run log u)
    (hu : u.live = some g) : LiveAfter g log := by
  induction h with
  | refl => cases hu
  | @snoc log v u e hrun hn ih =>
    rcases (Usage.step_of_next hn).live hu with ⟨id, rfl⟩ | ⟨hv, hd, hc⟩
    · exact ⟨id, log, [], rfl, by simp, by simp⟩
    · obtain ⟨id, b₁, b₂, rfl, hd', hc'⟩ := ih hv
      refine ⟨id, b₁, b₂ ++ [e], by simp, ?_, fun g' hm => ?_⟩
      · simp [hd', hd.symm]
      · rcases List.mem_append.mp hm with hm | hm
        · exact hc' g' hm
        · exact hc g' (List.mem_singleton.mp hm).symm

theorem silent_of_run {log before after : List Event} {g : Nat} {u : Usage}
    (h : usage.Run log u) (he : log = before ++ .closeGamepad g :: after) :
    ∃ b, before = b ++ [.rumbleGamepad g {} 0] := by
  subst he
  obtain ⟨v, hv, hrest⟩ := System.Path.split h
  obtain ⟨w, hw, _⟩ := System.path_cons_iff.mp hrest
  cases Usage.step_of_next hw
  rcases List.eq_nil_or_concat before with rfl | ⟨b, e, rfl⟩
  · cases System.path_nil_iff.mp hv
  · rw [List.concat_eq_append] at hv ⊢
    obtain ⟨x, _, hx⟩ := System.path_snoc_iff.mp hv
    cases Usage.step_of_next hx
    exact ⟨b, rfl⟩

theorem faithful_of_run {log before after : List Event} {state : GamepadStateV1} {u : Usage}
    (h : usage.Run log u) (he : log = before ++ .stateCallback state :: after) :
    ∃ b g sample, before = b ++ [.readState g sample] ∧ state = readState sample := by
  subst he
  obtain ⟨v, hv, hrest⟩ := System.Path.split h
  obtain ⟨w, hw, _⟩ := System.path_cons_iff.mp hrest
  cases Usage.step_of_next hw with
  | report g sample =>
    rcases List.eq_nil_or_concat before with rfl | ⟨b, e, rfl⟩
    · cases System.path_nil_iff.mp hv
    · rw [List.concat_eq_append] at hv ⊢
      obtain ⟨x, _, hx⟩ := System.path_snoc_iff.mp hv
      cases Usage.step_of_next hx
      exact ⟨b, g, sample, rfl, rfl⟩

theorem live_of_run {log before after : List Event} {e : Event} {u : Usage}
    (h : usage.Run log u) (hl : log = before ++ e :: after) (he : e.isCallback = true) :
    ∃ g, LiveAfter g before := by
  subst hl
  obtain ⟨v, hv, hrest⟩ := System.Path.split h
  obtain ⟨w, hw, _⟩ := System.path_cons_iff.mp hrest
  cases Usage.step_of_next hw with
  | report g sample => exact ⟨g, liveAfter_of_run hv rfl⟩
  | tell g => exact ⟨g, liveAfter_of_run hv rfl⟩
  | _ => cases he

end SdlInputBackend

end RemoteController
