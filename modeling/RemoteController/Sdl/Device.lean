import RemoteController.Abi.Enumerate
import RemoteController.Lib.Places
import RemoteController.Sdl.Usage

/-!
# The life of an open gamepad

`Open`, `Close`, `SetRumble` and `PollLoop` of `sdl_input_backend.cpp`.  The owner of the
backend calls `Open` and `Close` one after the other, in any order; the poll thread and any
number of callers of `SetRumble` run beside it.  One step is one access to an atomic, one
call to SDL, one callback or one section under `mutex_`.

* `parseInstanceId_id`: `Open` finds the gamepad that `EnumerateDevices` lists.
* `Inv.next`: every step of the backend is one of `usage` or none.
* `Heard.next`: what is played was stored by `SetRumble`.
* `device_contract`: what follows for every run.
-/

namespace RemoteController

open Lib Protocol

namespace SdlInputBackend

/-- The id that `Open` finds in the text, by `std::from_chars`: digits up to the end of the
text, of a value that fits 32 bits. -/
def parseInstanceId (deviceId : List UInt8) : Option UInt32 :=
  let digits := deviceId.takeWhile isDigit
  if digits = [] then none
  else if UInt32.size ≤ decimalValue digits 0 then none
  else if deviceId.dropWhile isDigit = [] then some (.ofNat (decimalValue digits 0))
  else none

/-- **`Open` finds the gamepad that `EnumerateDevices` lists.** -/
theorem parseInstanceId_id (gamepad : AttachedGamepad) :
    parseInstanceId (deviceInfo gamepad).id = some gamepad.instanceId := by
  have hdigit : ∀ c ∈ decimal gamepad.instanceId.toNat, isDigit c = true := fun c =>
    isDigit_of_mem_decimal
  have htake : (decimal gamepad.instanceId.toNat).takeWhile isDigit =
      decimal gamepad.instanceId.toNat := List.takeWhile_eq_self_iff.mpr hdigit
  have hdrop : (decimal gamepad.instanceId.toNat).dropWhile isDigit = [] :=
    List.dropWhile_eq_nil_iff.mpr hdigit
  have hlt := gamepad.instanceId.toNat_lt_size
  simp only [parseInstanceId, deviceInfo, htake, hdrop, decimalValue_decimal,
    if_neg (decimal_ne_nil _), if_neg (not_le.mpr hlt), if_true, UInt32.ofNat_toNat]

/-- **The texts that `Open` takes**: digits, at least one, of a value below 2^32. -/
theorem parseInstanceId_eq_some_iff {deviceId : List UInt8} {id : UInt32} :
    parseInstanceId deviceId = some id ↔
      deviceId ≠ [] ∧ (∀ c ∈ deviceId, isDigit c = true) ∧
        decimalValue deviceId 0 = id.toNat := by
  constructor
  · intro h
    simp only [parseInstanceId] at h
    split at h
    · cases h
    split at h
    · cases h
    split at h
    · rename_i hne hlt hdrop
      have hdigit := List.dropWhile_eq_nil_iff.mp hdrop
      have htake := List.takeWhile_eq_self_iff.mpr hdigit
      rw [htake] at hne hlt h
      obtain rfl := Option.some.inj h
      refine ⟨hne, hdigit, ?_⟩
      rw [UInt32.toNat_ofNat_of_lt' (not_le.mp hlt)]
    · cases h
  · rintro ⟨hne, hdigit, hv⟩
    have htake := List.takeWhile_eq_self_iff.mpr hdigit
    have hdrop := List.dropWhile_eq_nil_iff.mpr hdigit
    have hlt := id.toNat_lt_size
    simp only [parseInstanceId, htake, hdrop, hv, if_neg hne, if_neg (not_le.mpr hlt), if_true,
      UInt32.ofNat_toNat]

/-! ### The backend -/

/-- Where the poll thread is: before which step, with its local variables but for
`applied_rumble_generation`. -/
inductive PollPhase where
  /-- There is no thread, or it was joined. -/
  | none
  | start
  /-- The section of `start` found a null pointer. -/
  | null
  | test (g : Nat)
  | update (g : Nat)
  | connected (g : Nat)
  | disconnectTest (g : Nat)
  | disconnect (g : Nat)
  | read (g : Nat)
  | report (g : Nat) (sample : GamepadSample)
  | load (g : Nat)
  | readPacked (g : Nat) (generation : UInt64)
  | rumble (g : Nat) (generation : UInt64) (packed : UInt32)
  /-- After the loop. -/
  | last (g : Nat)
  | finished

/-- Where the owner is: between two calls, or before the section of `Open`, the join or the
section of `Close`. -/
inductive OwnerPhase where
  | idle
  | openSection (instanceId : UInt32)
  | join
  | closeSection
  deriving DecidableEq, Repr

/-- The fields of `sdl_input_backend.h`.  `testing` and `setting` are the commands of the
callers of `SetRumble` before the store and before the increment; `opened` counts the
gamepads that SDL opened, which names the next. -/
structure State where
  gamepad : Option Nat := none
  stopRequested : Bool := false
  pendingRumble : UInt32 := 0
  rumbleGeneration : UInt64 := 0
  hasDisconnectCallback : Bool := false
  appliedRumbleGeneration : UInt64 := 0
  thread : PollPhase := .none
  owner : OwnerPhase := .idle
  testing : List RumbleCommand := []
  setting : List RumbleCommand := []
  opened : Nat := 0
  events : List Event := []

inductive Label where
  /-- `Open` up to its section. -/
  | open (deviceId : List UInt8) (initialized hasStateCallback : Bool)
  | openSection (opens hasDisconnectCallback : Bool)
  | close
  | join
  | closeSection
  | rumbleTest (command : RumbleCommand)
  | rumbleStore (command : RumbleCommand)
  | rumbleIncrement (command : RumbleCommand)
  /-- The next step of `PollLoop`, with what SDL would answer. -/
  | poll (isConnected : Bool) (sample : GamepadSample)

namespace State

def emit (s : State) (e : Event) : State := { s with events := s.events ++ [e] }

def goto (s : State) (thread : PollPhase) : State := { s with thread := thread }

def poll (s : State) (isConnected : Bool) (sample : GamepadSample) : Option State :=
  match s.thread with
  | .none | .null | .finished => none
  | .start =>
    match s.gamepad with
    | some g => some { s with thread := .test g, appliedRumbleGeneration := 0 }
    | none => some (s.goto .null)
  | .test g => some (s.goto (if s.stopRequested then .last g else .update g))
  | .update g => some ((s.emit .updateGamepads).goto (.connected g))
  | .connected g =>
    some ((s.emit (.gamepadConnected g isConnected)).goto
      (if isConnected then .read g else .disconnectTest g))
  | .disconnectTest g =>
    some (s.goto (if !s.stopRequested && s.hasDisconnectCallback then .disconnect g else .last g))
  | .disconnect g => some ((s.emit .disconnectCallback).goto (.last g))
  | .read g => some ((s.emit (.readState g sample)).goto (.report g sample))
  | .report g sample => some ((s.emit (.stateCallback (readState sample))).goto (.load g))
  | .load g =>
    some (s.goto
      (if s.rumbleGeneration ≠ s.appliedRumbleGeneration then .readPacked g s.rumbleGeneration
        else .test g))
  | .readPacked g generation => some (s.goto (.rumble g generation s.pendingRumble))
  | .rumble g generation packed =>
    some { s.emit (.rumbleGamepad g (.ofPacked packed) 1000) with
      thread := .test g, appliedRumbleGeneration := generation }
  | .last g => some ((s.emit (.rumbleGamepad g {} 0)).goto .finished)

/-- The section of `Open`. -/
def openSection (s : State) (instanceId : UInt32) (opens hasDisconnectCallback : Bool) : State :=
  match s.gamepad, s.thread with
  | none, .none =>
    if opens then
      { s.emit (.openGamepad instanceId (some s.opened)) with
        owner := .idle
        gamepad := some s.opened
        opened := s.opened + 1
        hasDisconnectCallback := hasDisconnectCallback
        stopRequested := false
        thread := .start }
    else { s.emit (.openGamepad instanceId none) with owner := .idle }
  | _, _ => { s with owner := .idle }

/-- The section of `Close`. -/
def closeSection (s : State) : State :=
  match s.gamepad with
  | some g =>
    { s.emit (.closeGamepad g) with
      owner := .idle, gamepad := none, hasDisconnectCallback := false }
  | none => { s with owner := .idle, hasDisconnectCallback := false }

def step (s : State) : Label → Option State
  | .open deviceId initialized hasStateCallback =>
    if s.owner = .idle then
      if !initialized || !hasStateCallback then some s
      else
        match parseInstanceId deviceId with
        | some instanceId => some { s with owner := .openSection instanceId }
        | none => some s
    else none
  | .openSection opens hasDisconnectCallback =>
    match s.owner with
    | .openSection instanceId => some (s.openSection instanceId opens hasDisconnectCallback)
    | _ => none
  | .close =>
    if s.owner = .idle then some { s with owner := .join, stopRequested := true } else none
  | .join =>
    match s.owner, s.thread with
    | .join, .none | .join, .finished => some { s with owner := .closeSection, thread := .none }
    | _, _ => none
  | .closeSection => if s.owner = .closeSection then some s.closeSection else none
  | .rumbleTest command =>
    some (if s.gamepad = none then s else { s with testing := command :: s.testing })
  | .rumbleStore command =>
    if command ∈ s.testing then
      some { s with
        testing := s.testing.erase command
        setting := command :: s.setting
        pendingRumble := command.packed }
    else none
  | .rumbleIncrement command =>
    if command ∈ s.setting then
      some { s with
        setting := s.setting.erase command, rumbleGeneration := s.rumbleGeneration + 1 }
    else none
  | .poll isConnected sample => s.poll isConnected sample

end State

def system : System State Label where
  init := {}
  next := State.step

/-! ### The backend keeps to it -/

/-- Where the use of the gamepad is when the poll thread is in a phase. -/
def Agrees (gamepad : Option Nat) (owner : OwnerPhase) (u : Usage) : PollPhase → Prop
  | .none =>
    gamepad = none ∧ u = .closed ∨
      owner = .closeSection ∧ ∃ g, gamepad = some g ∧ u = .silent g
  | .null => False
  | .start => ∃ g, gamepad = some g ∧ u = .polling g
  | .test g | .update g => gamepad = some g ∧ (u = .polling g ∨ u = .reported g)
  | .connected g => gamepad = some g ∧ u = .updated g
  | .disconnectTest g | .disconnect g => gamepad = some g ∧ u = .gone g
  | .read g => gamepad = some g ∧ u = .connected g
  | .report g sample => gamepad = some g ∧ u = .sampled g sample
  | .load g | .readPacked g _ | .rumble g _ _ => gamepad = some g ∧ u = .reported g
  | .last g =>
    gamepad = some g ∧ (u = .polling g ∨ u = .reported g ∨ u = .gone g ∨ u = .told g)
  | .finished => ∃ g, gamepad = some g ∧ u = .silent g

/-- The owner's phase matters in one place only. -/
theorem Agrees.owner {gamepad : Option Nat} {o o' : OwnerPhase} {u : Usage} {thread : PollPhase}
    (h : Agrees gamepad o u thread) (ho : o ≠ .closeSection) : Agrees gamepad o' u thread := by
  cases thread with
  | none => exact .inl (h.resolve_right fun h => ho h.1)
  | _ => exact h

structure Inv (s : State) : Prop where
  usage : ∃ u, usage.Run s.events u ∧ Agrees s.gamepad s.owner u s.thread
  keeps : gamepads.Keeps (place s.gamepad) s.events
  named : ∀ e ∈ s.events, ∀ g, e.gamepad = some g → g < s.opened
  /-- `Close` has joined the thread when it takes the mutex. -/
  joined : s.owner = .closeSection → s.thread = .none

theorem inv_init : Inv {} where
  usage := ⟨.closed, .refl, .inl ⟨rfl, rfl⟩⟩
  keeps := Ledger.keeps_nil
  named := by simp
  joined := fun h => by cases h

variable {s t : State}

/-- A step of the poll thread that calls nothing. -/
theorem Inv.goto (hi : Inv s) {thread : PollPhase} (hne : s.thread ≠ .none)
    (ha : ∀ u, Agrees s.gamepad s.owner u s.thread → Agrees s.gamepad s.owner u thread) :
    Inv (s.goto thread) := by
  obtain ⟨u, hrun, hu⟩ := hi.usage
  exact ⟨⟨u, hrun, ha u hu⟩, hi.keeps, hi.named, fun h => absurd (hi.joined h) hne⟩

/-- A call of the poll thread, or a callback, that the use of the gamepad has a place for. -/
theorem Inv.emits (hi : Inv s) {e : Event} (hne : s.thread ≠ .none)
    (ht : t.events = s.events ++ [e]) (hg : t.gamepad = s.gamepad) (ho : t.owner = s.owner)
    (hopened : t.opened = s.opened)
    (ha : ∀ u, Agrees s.gamepad s.owner u s.thread →
      (e.gamepad = none ∨ e.gamepad = s.gamepad ∧ e.onGamepad = some .use) ∧
        ∃ u', u.next e = some u' ∧ Agrees s.gamepad s.owner u' t.thread) : Inv t := by
  obtain ⟨u, hrun, hu⟩ := hi.usage
  obtain ⟨he, u', hn, hu'⟩ := ha u hu
  constructor
  · rw [ht, hg, ho]
    exact ⟨u', hrun.snoc hn, hu'⟩
  · rw [ht, hg]
    rcases he with he | ⟨he, hd⟩
    · exact hi.keeps.idle fun e' he' => by obtain rfl := List.mem_singleton.mp he'; exact he
    · cases hgp : s.gamepad with
      | none =>
        rw [hgp] at he
        have hkeeps := hi.keeps
        rw [hgp] at hkeeps
        exact hkeeps.idle fun e' he' => by obtain rfl := List.mem_singleton.mp he'; exact he
      | some g =>
        rw [hgp] at he
        have hkeeps := hi.keeps
        rw [hgp] at hkeeps
        exact hkeeps.use he hd (mem_place.mpr rfl)
  · rw [ht, hopened]
    intro e' he' g hg'
    rcases List.mem_append.mp he' with he' | he'
    · exact hi.named e' he' g hg'
    · obtain rfl := List.mem_singleton.mp he'
      rcases he with he | ⟨he, _⟩
      · exact absurd (he.symm.trans hg') (by simp)
      · obtain ⟨e'', he'', hn''⟩ := hi.keeps.walked.named (mem_place.mpr (he.symm.trans hg'))
        exact hi.named e'' he'' g hn''
  · rw [ho]
    exact fun h => absurd (hi.joined h) hne

/-- **One step of `PollLoop`.** -/
theorem Inv.starts (hi : Inv s) {isConnected : Bool} {sample : GamepadSample}
    (hp : s.thread = .start) (hn : s.poll isConnected sample = some t) : Inv t := by
  obtain ⟨u, hrun, hu⟩ := hi.usage
  rw [hp] at hu
  obtain ⟨g, hg, rfl⟩ := hu
  simp only [State.poll, hp, hg, Option.some.injEq] at hn
  subst hn
  refine ⟨⟨_, hrun, rfl, .inl rfl⟩, hg ▸ hi.keeps, hi.named, fun h => ?_⟩
  have hnone := hi.joined h
  rw [hp] at hnone
  cases hnone

/-- The next step of the thread calls SDL, or calls back. -/
def PollPhase.calls : PollPhase → Bool
  | .update _ | .connected _ | .disconnect _ | .read _ | .report _ _ | .rumble _ _ _ | .last _ =>
    true
  | _ => false

theorem Inv.calls (hi : Inv s) {isConnected : Bool} {sample : GamepadSample}
    (hc : s.thread.calls = true) (hn : s.poll isConnected sample = some t) : Inv t := by
  have hne : s.thread ≠ .none := by
    intro hp
    rw [hp] at hc
    cases hc
  rw [State.poll] at hn
  cases hp : s.thread with
  | update g =>
    rw [hp] at hn
    obtain rfl := Option.some.inj hn
    refine hi.emits hne rfl rfl rfl rfl fun u hu => ?_
    rw [hp] at hu
    obtain ⟨hg, rfl | rfl⟩ := hu
    · exact ⟨.inl rfl, .updated g, rfl, hg, rfl⟩
    · exact ⟨.inl rfl, .updated g, rfl, hg, rfl⟩
  | connected g =>
    rw [hp] at hn
    obtain rfl := Option.some.inj hn
    refine hi.emits hne rfl rfl rfl rfl fun u hu => ?_
    rw [hp] at hu
    obtain ⟨hg, rfl⟩ := hu
    cases isConnected with
    | true => exact ⟨.inr ⟨hg.symm, rfl⟩, .connected g, if_pos rfl, hg, rfl⟩
    | false => exact ⟨.inr ⟨hg.symm, rfl⟩, .gone g, if_pos rfl, hg, rfl⟩
  | disconnect g =>
    rw [hp] at hn
    obtain rfl := Option.some.inj hn
    refine hi.emits hne rfl rfl rfl rfl fun u hu => ?_
    rw [hp] at hu
    obtain ⟨hg, rfl⟩ := hu
    exact ⟨.inl rfl, .told g, rfl, hg, .inr (.inr (.inr rfl))⟩
  | read g =>
    rw [hp] at hn
    obtain rfl := Option.some.inj hn
    refine hi.emits hne rfl rfl rfl rfl fun u hu => ?_
    rw [hp] at hu
    obtain ⟨hg, rfl⟩ := hu
    exact ⟨.inr ⟨hg.symm, rfl⟩, .sampled g sample, if_pos rfl, hg, rfl⟩
  | report g sample' =>
    rw [hp] at hn
    obtain rfl := Option.some.inj hn
    refine hi.emits hne rfl rfl rfl rfl fun u hu => ?_
    rw [hp] at hu
    obtain ⟨hg, rfl⟩ := hu
    exact ⟨.inl rfl, .reported g, if_pos rfl, hg, rfl⟩
  | rumble g generation packed =>
    rw [hp] at hn
    obtain rfl := Option.some.inj hn
    refine hi.emits hne rfl rfl rfl rfl fun u hu => ?_
    rw [hp] at hu
    obtain ⟨hg, rfl⟩ := hu
    exact ⟨.inr ⟨hg.symm, rfl⟩, .polling g, if_pos ⟨rfl, rfl⟩, hg, .inl rfl⟩
  | last g =>
    rw [hp] at hn
    obtain rfl := Option.some.inj hn
    refine hi.emits hne rfl rfl rfl rfl fun u hu => ?_
    rw [hp] at hu
    refine ⟨.inr ⟨hu.1.symm, rfl⟩, .silent g, ?_, g, hu.1, rfl⟩
    have hends : Usage.endsWith g g {} 0 = some (.silent g) := if_pos ⟨rfl, rfl, rfl⟩
    obtain ⟨_, rfl | rfl | rfl | rfl⟩ := hu
    · exact hends
    · exact (if_neg (by simp)).trans hends
    · exact hends
    · exact hends
  | _ =>
    rw [hp] at hc
    cases hc

theorem Inv.poll (hi : Inv s) {isConnected : Bool} {sample : GamepadSample}
    (hn : s.poll isConnected sample = some t) : Inv t := by
  by_cases hc : s.thread.calls = true
  · exact hi.calls hc hn
  have hne : s.thread ≠ .none := by
    intro hp
    rw [State.poll, hp] at hn
    cases hn
  cases hp : s.thread with
  | none | null | finished => simp only [State.poll, hp, reduceCtorEq] at hn
  | start => exact hi.starts hp hn
  | test g =>
    simp only [State.poll, hp, Option.some.injEq] at hn
    subst hn
    refine hi.goto hne fun u hu => ?_
    rw [hp] at hu
    split
    · exact ⟨hu.1, hu.2.elim .inl fun h => .inr (.inl h)⟩
    · exact hu
  | disconnectTest g =>
    simp only [State.poll, hp, Option.some.injEq] at hn
    subst hn
    refine hi.goto hne fun u hu => ?_
    rw [hp] at hu
    split
    · exact hu
    · exact ⟨hu.1, .inr (.inr (.inl hu.2))⟩
  | load g =>
    simp only [State.poll, hp, Option.some.injEq] at hn
    subst hn
    refine hi.goto hne fun u hu => ?_
    rw [hp] at hu
    split
    · exact hu
    · exact ⟨hu.1, .inr hu.2⟩
  | readPacked g generation =>
    simp only [State.poll, hp, Option.some.injEq] at hn
    subst hn
    refine hi.goto hne fun u hu => ?_
    rw [hp] at hu
    exact hu
  | update | connected | disconnect | read | report | rumble | last =>
    rw [hp] at hc
    exact absurd rfl hc

/-- With no thread and no gamepad, nothing is open. -/
theorem Inv.closed (hi : Inv s) (hg : s.gamepad = none) (ht : s.thread = .none) :
    SdlInputBackend.usage.Run s.events .closed := by
  obtain ⟨u, hrun, hu⟩ := hi.usage
  rw [ht] at hu
  rcases hu with ⟨_, rfl⟩ | ⟨_, g, hsome, _⟩
  · exact hrun
  · exact absurd (hg.symm.trans hsome) (by simp)

theorem Inv.openSection (hi : Inv s) {instanceId : UInt32} {opens hasDisconnectCallback : Bool}
    (ho : s.owner = .openSection instanceId) :
    Inv (s.openSection instanceId opens hasDisconnectCallback) := by
  have hback : Inv { s with owner := .idle } := by
    obtain ⟨u, hrun, hu⟩ := hi.usage
    exact ⟨⟨u, hrun, hu.owner (by rw [ho]; simp)⟩, hi.keeps, hi.named, fun h => by cases h⟩
  rw [State.openSection]
  split
  · rename_i hg hp
    have hrun := hi.closed hg hp
    have hkeeps := hi.keeps
    rw [hg, place_none] at hkeeps
    have hnew : ∀ e ∈ s.events, gamepads.names e ≠ some s.opened := fun e he hn =>
      absurd (hi.named e he _ hn) (lt_irrefl _)
    split
    · refine ⟨⟨_, hrun.snoc rfl, s.opened, rfl, rfl⟩, ?_, ?_, fun h => by cases h⟩
      · have honly : ∀ e ∈ [Event.openGamepad instanceId (some s.opened)], ∀ g,
            gamepads.names e = some g → g = s.opened := by
          intro e he g hn
          obtain rfl := List.mem_singleton.mp he
          exact (Option.some.inj hn).symm
        exact hkeeps.acquire hnew honly (Ledger.walk_of_names (.inl rfl) rfl)
      · intro e he g hn
        rcases List.mem_append.mp he with he | he
        · exact Nat.lt_succ_of_lt (hi.named e he g hn)
        · obtain rfl := List.mem_singleton.mp he
          obtain rfl : s.opened = g := Option.some.inj hn
          exact Nat.lt_succ_self _
    · refine ⟨⟨.closed, hrun.snoc rfl, ?_⟩, ?_, ?_, fun h => by cases h⟩
      · show Agrees s.gamepad .idle .closed s.thread
        rw [hg, hp]
        exact .inl ⟨rfl, rfl⟩
      · show gamepads.Keeps (place s.gamepad) _
        rw [hg]
        exact hkeeps.idle fun e he => by obtain rfl := List.mem_singleton.mp he; rfl
      · intro e he g hn
        rcases List.mem_append.mp he with he | he
        · exact hi.named e he g hn
        · obtain rfl := List.mem_singleton.mp he
          cases hn
  · exact hback

theorem Inv.closeSection (hi : Inv s) (ho : s.owner = .closeSection) : Inv s.closeSection := by
  have hp := hi.joined ho
  obtain ⟨u, hrun, hu⟩ := hi.usage
  rw [hp] at hu
  rw [State.closeSection]
  split
  · rename_i g hg
    rcases hu with ⟨hnone, _⟩ | ⟨_, g', hsome, rfl⟩
    · exact absurd (hg.symm.trans hnone) (by simp)
    obtain rfl : g = g' := Option.some.inj (hg.symm.trans hsome)
    refine ⟨⟨.closed, hrun.snoc (if_pos rfl), ?_⟩, ?_, ?_, fun h => by cases h⟩
    · show Agrees none .idle .closed s.thread
      rw [hp]
      exact .inl ⟨rfl, rfl⟩
    · have hkeeps : gamepads.Keeps (g ::ₘ 0) s.events := by
        have := hi.keeps
        rwa [hg] at this
      refine hkeeps.release (fun e he g' hn => ?_) (Ledger.walk_of_names (.inl rfl) rfl)
      obtain rfl := List.mem_singleton.mp he
      exact (Option.some.inj hn).symm
    · intro e he g' hn
      rcases List.mem_append.mp he with he | he
      · exact hi.named e he g' hn
      · obtain rfl := List.mem_singleton.mp he
        obtain ⟨e', he', hn'⟩ := hi.keeps.walked.named (mem_place.mpr (hg.trans hn))
        exact hi.named e' he' g' hn'
  · rename_i hg
    refine ⟨⟨.closed, hi.closed hg hp, ?_⟩, hi.keeps, hi.named, fun h => by cases h⟩
    show Agrees s.gamepad .idle .closed s.thread
    rw [hg, hp]
    exact .inl ⟨rfl, rfl⟩

/-- **Every step of the backend** leaves the gamepad to be used as it should be. -/
theorem Inv.next (hi : Inv s) {a : Label} (hn : s.step a = some t) : Inv t := by
  obtain ⟨u, hrun, hu⟩ := hi.usage
  cases a with
  | «open» deviceId initialized hasStateCallback =>
    simp only [State.step] at hn
    split at hn
    · rename_i ho
      split at hn
      · obtain rfl := Option.some.inj hn
        exact hi
      · split at hn
        · obtain rfl := Option.some.inj hn
          exact ⟨⟨u, hrun, hu.owner (by rw [ho]; simp)⟩, hi.keeps, hi.named, fun h => by cases h⟩
        · obtain rfl := Option.some.inj hn
          exact hi
    · cases hn
  | openSection opens hasDisconnectCallback =>
    simp only [State.step] at hn
    split at hn
    · rename_i ho
      obtain rfl := Option.some.inj hn
      exact hi.openSection ho
    · cases hn
  | close =>
    simp only [State.step] at hn
    split at hn
    · rename_i ho
      obtain rfl := Option.some.inj hn
      exact ⟨⟨u, hrun, hu.owner (by rw [ho]; simp)⟩, hi.keeps, hi.named, fun h => by cases h⟩
    · cases hn
  | join =>
    simp only [State.step] at hn
    split at hn
    · rename_i ho hp
      obtain rfl := Option.some.inj hn
      refine ⟨⟨u, hrun, ?_⟩, hi.keeps, hi.named, fun _ => rfl⟩
      rw [hp, ho] at hu
      exact .inl (hu.resolve_right fun h => by cases h.1)
    · rename_i ho hp
      obtain rfl := Option.some.inj hn
      rw [hp] at hu
      exact ⟨⟨u, hrun, .inr ⟨rfl, hu⟩⟩, hi.keeps, hi.named, fun _ => rfl⟩
    · cases hn
  | closeSection =>
    simp only [State.step] at hn
    split at hn
    · rename_i ho
      obtain rfl := Option.some.inj hn
      exact hi.closeSection ho
    · cases hn
  | rumbleTest command =>
    obtain rfl := Option.some.inj hn
    split
    · exact hi
    · exact ⟨⟨u, hrun, hu⟩, hi.keeps, hi.named, hi.joined⟩
  | rumbleStore command =>
    simp only [State.step] at hn
    split at hn
    · obtain rfl := Option.some.inj hn
      exact ⟨⟨u, hrun, hu⟩, hi.keeps, hi.named, hi.joined⟩
    · cases hn
  | rumbleIncrement command =>
    simp only [State.step] at hn
    split at hn
    · obtain rfl := Option.some.inj hn
      exact ⟨⟨u, hrun, hu⟩, hi.keeps, hi.named, hi.joined⟩
    · cases hn
  | poll isConnected sample => exact hi.poll hn

theorem inv_of_run {l : List Label} (h : system.Run l s) : Inv s :=
  h.invariant (P := fun _ s => Inv s) inv_init fun _ _ _ _ _ hi hn => hi.next hn

/-! ### Where the rumble and the ids come from -/

/-- The pair in `pending_rumble_` is one that a call of `SetRumble` stored. -/
def Stored (l : List Label) (s : State) : Prop :=
  ∃ c, .rumbleStore c ∈ l ∧ s.pendingRumble = c.packed

/-- A call of `Open`, with SDL initialized and a callback, asked for the gamepad. -/
def Asked (l : List Label) (id : UInt32) : Prop :=
  ∃ deviceId, .open deviceId true true ∈ l ∧ parseInstanceId deviceId = some id

/-- The poll thread has seen a generation that it did not apply. -/
def PollPhase.plays : PollPhase → Bool
  | .readPacked _ _ | .rumble _ _ _ => true
  | _ => false

/-- What is known of the rumble and of the ids. -/
structure Heard (l : List Label) (s : State) : Prop where
  pending : Stored l s ∨
    s.setting = [] ∧ s.rumbleGeneration = 0 ∧ s.appliedRumbleGeneration = 0
  plays : s.thread.plays = true → Stored l s
  loaded : ∀ g generation packed, s.thread = .rumble g generation packed →
    ∃ c, .rumbleStore c ∈ l ∧ packed = c.packed
  played : ∀ g command durationMs, .rumbleGamepad g command durationMs ∈ s.events →
    command = {} ∧ durationMs = 0 ∨ durationMs = 1000 ∧ .rumbleStore command ∈ l
  opening : ∀ id, s.owner = .openSection id → Asked l id
  asked : ∀ id result, .openGamepad id result ∈ s.events → Asked l id

theorem heard_init : Heard [] {} where
  pending := .inr ⟨rfl, rfl, rfl⟩
  plays := fun h => by cases h
  loaded := fun _ _ _ h => by cases h
  played := by simp
  opening := fun _ h => by cases h
  asked := by simp

variable {l : List Label} {a : Label}

/-- A step that leaves the atomics alone, asks for nothing and plays nothing. -/
theorem Heard.congr (h : Heard l s) (hp : t.pendingRumble = s.pendingRumble)
    (hset : t.setting = s.setting) (hgen : t.rumbleGeneration = s.rumbleGeneration)
    (happlied : t.appliedRumbleGeneration = s.appliedRumbleGeneration ∨
      t.appliedRumbleGeneration = 0)
    (hthread : t.thread = s.thread ∨ t.thread.plays = false)
    (howner : t.owner = s.owner ∨ ∀ id, t.owner ≠ .openSection id)
    (hevents : ∀ e ∈ t.events, e ∈ s.events ∨ (∃ g, e = .rumbleGamepad g {} 0) ∨
      (∀ g c d, e ≠ .rumbleGamepad g c d) ∧ ∀ id r, e ≠ .openGamepad id r) :
    Heard (l ++ [a]) t := by
  have hstored : Stored l s → Stored (l ++ [a]) t := by
    rintro ⟨c, hc, hpend⟩
    exact ⟨c, List.mem_append_left _ hc, hp.trans hpend⟩
  have hopen : ∀ id, Asked l id → Asked (l ++ [a]) id := by
    rintro id ⟨deviceId, hm, hparse⟩
    exact ⟨deviceId, List.mem_append_left _ hm, hparse⟩
  constructor
  · rcases h.pending with hs | ⟨h1, h2, h3⟩
    · exact .inl (hstored hs)
    · exact .inr ⟨hset.trans h1, hgen.trans h2, happlied.elim (·.trans h3) id⟩
  · intro hplays
    rcases hthread with ht | ht
    · exact hstored (h.plays (by rw [← ht]; exact hplays))
    · rw [ht] at hplays
      cases hplays
  · intro g generation packed hp'
    rcases hthread with ht | ht
    · obtain ⟨c, hc, he⟩ := h.loaded g generation packed (ht.symm.trans hp')
      exact ⟨c, List.mem_append_left _ hc, he⟩
    · rw [hp'] at ht
      cases ht
  · intro g command durationMs hm
    rcases hevents _ hm with hm | ⟨g', he⟩ | ⟨hno, _⟩
    · rcases h.played g command durationMs hm with hc | ⟨hd, hc⟩
      · exact .inl hc
      · exact .inr ⟨hd, List.mem_append_left _ hc⟩
    · cases he
      exact .inl ⟨rfl, rfl⟩
    · exact absurd rfl (hno g command durationMs)
  · intro id ho
    rcases howner with ho' | ho'
    · exact hopen id (h.opening id (ho'.symm.trans ho))
    · exact absurd ho (ho' id)
  · intro id result hm
    rcases hevents _ hm with hm | ⟨g', he⟩ | ⟨_, hno⟩
    · exact hopen id (h.asked id result hm)
    · cases he
    · exact absurd rfl (hno id result)

/-- A call or a callback that plays nothing and opens nothing. -/
theorem Heard.quiet {e : Event} (hn : ∀ g c d, e ≠ .rumbleGamepad g c d)
    (ho : ∀ id r, e ≠ .openGamepad id r) :
    ∀ e' ∈ s.events ++ [e], e' ∈ s.events ∨ (∃ g, e' = .rumbleGamepad g {} 0) ∨
      (∀ g c d, e' ≠ .rumbleGamepad g c d) ∧ ∀ id r, e' ≠ .openGamepad id r := by
  intro e' he'
  rcases List.mem_append.mp he' with he' | he'
  · exact .inl he'
  · obtain rfl := List.mem_singleton.mp he'
    exact .inr (.inr ⟨hn, ho⟩)

/-- A generation that was not applied is not the first, so something has been stored. -/
theorem Heard.stored (h : Heard l s) (hne : s.rumbleGeneration ≠ s.appliedRumbleGeneration) :
    Stored l s := by
  rcases h.pending with hs | ⟨_, h0, ha⟩
  · exact hs
  · exact absurd (h0.trans ha.symm) hne

/-- The poll thread goes on with what has been stored. -/
theorem Heard.goto (h : Heard l s) {phase : PollPhase} (hs : Stored l s)
    (hloaded : ∀ g generation packed, phase = .rumble g generation packed →
      ∃ c, .rumbleStore c ∈ l ∧ packed = c.packed) : Heard (l ++ [a]) (s.goto phase) := by
  obtain ⟨c, hc, hpend⟩ := hs
  have hs' : Stored (l ++ [a]) (s.goto phase) := ⟨c, List.mem_append_left _ hc, hpend⟩
  have hback := h.congr (t := s.goto .finished) (a := a) rfl rfl rfl (.inl rfl) (.inr rfl)
    (.inl rfl) fun _ => .inl
  refine ⟨.inl hs', fun _ => hs', fun g generation packed he => ?_, hback.played, hback.opening,
    hback.asked⟩
  obtain ⟨c', hc', hp⟩ := hloaded g generation packed he
  exact ⟨c', List.mem_append_left _ hc', hp⟩

/-- The motors play a command that was stored. -/
theorem Heard.rumbles (h : Heard l s) {g : Nat} {generation : UInt64} {packed : UInt32}
    (hp : s.thread = .rumble g generation packed) : ∀ g' command durationMs,
    .rumbleGamepad g' command durationMs ∈ s.events ++ [.rumbleGamepad g (.ofPacked packed) 1000] →
      command = {} ∧ durationMs = 0 ∨ durationMs = 1000 ∧ .rumbleStore command ∈ l ++ [a] := by
  intro g' command durationMs hm
  obtain ⟨c, hc, rfl⟩ := h.loaded g generation packed hp
  rcases List.mem_append.mp hm with hm | hm
  · exact (h.played g' command durationMs hm).imp_right fun hc =>
      ⟨hc.1, List.mem_append_left _ hc.2⟩
  · rw [RumbleCommand.ofPacked_packed] at hm
    cases List.mem_singleton.mp hm
    exact .inr ⟨rfl, List.mem_append_left _ hc⟩

theorem Heard.poll (h : Heard l s) {isConnected : Bool} {sample : GamepadSample}
    (hn : s.poll isConnected sample = some t) : Heard (l ++ [a]) t := by
  rw [State.poll] at hn
  cases hp : s.thread with
  | none | null | finished => rw [hp] at hn; cases hn
  | start =>
    rw [hp] at hn
    cases hg : s.gamepad with
    | none =>
      rw [hg] at hn
      obtain rfl := Option.some.inj hn
      exact h.congr rfl rfl rfl (.inl rfl) (.inr rfl) (.inl rfl) fun _ => .inl
    | some g =>
      rw [hg] at hn
      obtain rfl := Option.some.inj hn
      exact h.congr rfl rfl rfl (.inr rfl) (.inr rfl) (.inl rfl) fun _ => .inl
  | test g | disconnectTest g =>
    rw [hp] at hn
    obtain rfl := Option.some.inj hn
    refine h.congr rfl rfl rfl (.inl rfl) (.inr ?_) (.inl rfl) fun _ => .inl
    dsimp only [State.goto]
    split
    · rfl
    · rfl
  | connected g =>
    rw [hp] at hn
    obtain rfl := Option.some.inj hn
    refine h.congr rfl rfl rfl (.inl rfl) (.inr ?_) (.inl rfl) (quiet (by simp) (by simp))
    cases isConnected <;> rfl
  | update g | disconnect g | read g | report g sample' =>
    rw [hp] at hn
    obtain rfl := Option.some.inj hn
    exact h.congr rfl rfl rfl (.inl rfl) (.inr rfl) (.inl rfl) (quiet (by simp) (by simp))
  | load g =>
    rw [hp] at hn
    obtain rfl := Option.some.inj hn
    split
    · rename_i hne
      exact h.goto (h.stored hne) fun _ _ _ he => by cases he
    · exact h.congr rfl rfl rfl (.inl rfl) (.inr rfl) (.inl rfl) fun _ => .inl
  | readPacked g generation =>
    rw [hp] at hn
    obtain rfl := Option.some.inj hn
    have hs := h.plays (by rw [hp]; rfl)
    refine h.goto hs fun _ _ _ he => ?_
    cases he
    exact hs
  | rumble g generation packed =>
    rw [hp] at hn
    obtain rfl := Option.some.inj hn
    obtain ⟨c, hc, hpend⟩ := h.plays (by rw [hp]; rfl)
    have hback := h.congr (t := s.goto (.test g)) (a := a) rfl rfl rfl (.inl rfl) (.inr rfl)
      (.inl rfl) fun _ => .inl
    refine ⟨.inl ⟨c, List.mem_append_left _ hc, hpend⟩, fun he => (by cases he),
      fun _ _ _ he => (by cases he), h.rumbles hp, hback.opening, fun id result hm => ?_⟩
    rcases List.mem_append.mp hm with hm | hm
    · exact hback.asked id result hm
    · cases List.mem_singleton.mp hm
  | last g =>
    rw [hp] at hn
    obtain rfl := Option.some.inj hn
    refine h.congr rfl rfl rfl (.inl rfl) (.inr rfl) (.inl rfl) fun e he => ?_
    rcases List.mem_append.mp he with he | he
    · exact .inl he
    · exact .inr (.inl ⟨g, List.mem_singleton.mp he⟩)

theorem Heard.openSection (h : Heard l s) {instanceId : UInt32}
    {opens hasDisconnectCallback : Bool} (ho : s.owner = .openSection instanceId) :
    Heard (l ++ [a]) (s.openSection instanceId opens hasDisconnectCallback) := by
  have hback := h.congr (t := { s with owner := .idle }) (a := a) rfl rfl rfl (.inl rfl) (.inl rfl)
    (.inr fun _ => by simp) fun _ => .inl
  have hopened : ∀ result id r,
      .openGamepad id r ∈ s.events ++ [.openGamepad instanceId result] → Asked (l ++ [a]) id := by
    intro result id r hm
    rcases List.mem_append.mp hm with hm | hm
    · exact hback.asked id r hm
    · cases List.mem_singleton.mp hm
      obtain ⟨deviceId, hl, hparse⟩ := h.opening instanceId ho
      exact ⟨deviceId, List.mem_append_left _ hl, hparse⟩
  have hplayed : ∀ result g c d,
      .rumbleGamepad g c d ∈ s.events ++ [.openGamepad instanceId result] →
        c = {} ∧ d = 0 ∨ d = 1000 ∧ .rumbleStore c ∈ l ++ [a] := by
    intro result g c d hm
    rcases List.mem_append.mp hm with hm | hm
    · exact hback.played g c d hm
    · cases List.mem_singleton.mp hm
  rw [State.openSection]
  split
  · split
    · exact ⟨hback.pending, fun he => (by cases he), fun _ _ _ he => (by cases he), hplayed _,
        fun _ he => (by cases he), hopened _⟩
    · exact ⟨hback.pending, hback.plays, hback.loaded, hplayed _, fun _ he => (by cases he),
        hopened _⟩
  · exact hback

theorem Heard.next (h : Heard l s) (hn : s.step a = some t) : Heard (l ++ [a]) t := by
  cases a with
  | «open» deviceId initialized hasStateCallback =>
    simp only [State.step] at hn
    have hback := h.congr (a := .open deviceId initialized hasStateCallback) (t := s) rfl rfl rfl
      (.inl rfl) (.inl rfl) (.inl rfl) fun _ => .inl
    split at hn
    · split at hn
      · obtain rfl := Option.some.inj hn
        exact hback
      · rename_i hready
        split at hn
        · rename_i id hparse
          obtain rfl := Option.some.inj hn
          refine ⟨hback.pending, hback.plays, hback.loaded, hback.played, fun id' he => ?_,
            hback.asked⟩
          cases he
          obtain ⟨rfl, rfl⟩ : initialized = true ∧ hasStateCallback = true := by
            simpa using hready
          exact ⟨deviceId, by simp, hparse⟩
        · obtain rfl := Option.some.inj hn
          exact hback
    · cases hn
  | openSection opens hasDisconnectCallback =>
    simp only [State.step] at hn
    split at hn
    · rename_i ho
      obtain rfl := Option.some.inj hn
      exact h.openSection ho
    · cases hn
  | close =>
    simp only [State.step] at hn
    split at hn
    · obtain rfl := Option.some.inj hn
      exact h.congr rfl rfl rfl (.inl rfl) (.inl rfl) (.inr fun _ => by simp) fun _ => .inl
    · cases hn
  | join =>
    simp only [State.step] at hn
    split at hn
    · obtain rfl := Option.some.inj hn
      exact h.congr rfl rfl rfl (.inl rfl) (.inr rfl) (.inr fun _ => by simp) fun _ => .inl
    · obtain rfl := Option.some.inj hn
      exact h.congr rfl rfl rfl (.inl rfl) (.inr rfl) (.inr fun _ => by simp) fun _ => .inl
    · cases hn
  | closeSection =>
    simp only [State.step] at hn
    split at hn
    · obtain rfl := Option.some.inj hn
      rw [State.closeSection]
      split
      · exact h.congr rfl rfl rfl (.inl rfl) (.inl rfl) (.inr fun _ => by simp)
          (quiet (by simp) (by simp))
      · exact h.congr rfl rfl rfl (.inl rfl) (.inl rfl) (.inr fun _ => by simp) fun _ => .inl
    · cases hn
  | rumbleTest command =>
    obtain rfl := Option.some.inj hn
    split
    · exact h.congr rfl rfl rfl (.inl rfl) (.inl rfl) (.inl rfl) fun _ => .inl
    · exact h.congr rfl rfl rfl (.inl rfl) (.inl rfl) (.inl rfl) fun _ => .inl
  | rumbleStore command =>
    simp only [State.step] at hn
    split at hn
    · obtain rfl := Option.some.inj hn
      have hback := h.congr (a := .rumbleStore command) (t := s) rfl rfl rfl (.inl rfl) (.inl rfl)
        (.inl rfl) fun _ => .inl
      exact ⟨.inl ⟨command, by simp, rfl⟩, fun _ => ⟨command, by simp, rfl⟩, hback.loaded,
        hback.played, hback.opening, hback.asked⟩
    · cases hn
  | rumbleIncrement command =>
    simp only [State.step] at hn
    split at hn
    · rename_i hm
      obtain rfl := Option.some.inj hn
      have hback := h.congr (a := .rumbleIncrement command) (t := s) rfl rfl rfl (.inl rfl)
        (.inl rfl) (.inl rfl) fun _ => .inl
      -- a setter before its increment has stored
      have hs : Stored (l ++ [.rumbleIncrement command]) s := by
        rcases hback.pending with hs | ⟨h0, _⟩
        · exact hs
        · rw [h0] at hm
          cases hm
      exact ⟨.inl hs, fun _ => hs, hback.loaded, hback.played, hback.opening, hback.asked⟩
    · cases hn
  | poll isConnected sample => exact h.poll hn

theorem heard_of_run (h : system.Run l s) : Heard l s :=
  h.invariant (P := Heard) heard_init fun _ _ _ _ _ ih hn => ih.next hn

/-! ### Every run -/

/-- **What a run of the backend does to a gamepad.** -/
structure Contract (l : List Label) (s : State) : Prop where
  /-- A gamepad is closed once, unless it is open, and used only while it is open. -/
  balanced : gamepads.Balanced (fun g => s.gamepad = some g) s.events
  notNull : s.thread ≠ .null
  /-- Its motors are switched off right before it is closed. -/
  silent : ∀ before g after, s.events = before ++ .closeGamepad g :: after →
    ∃ b, before = b ++ [.rumbleGamepad g {} 0]
  /-- What is reported is the sample that was just read. -/
  faithful : ∀ before state after, s.events = before ++ .stateCallback state :: after →
    ∃ b g sample, before = b ++ [.readState g sample] ∧ state = readState sample
  /-- A callback comes while a gamepad is open, and none after the one that it is gone. -/
  inSession : ∀ before e after, s.events = before ++ e :: after → e.isCallback = true →
    ∃ g, LiveAfter g before
  /-- When `Close` returns, there is neither a gamepad nor a thread. -/
  returns : ∀ t, s.step .closeSection = some t → t.gamepad = none ∧ t.thread = .none
  /-- The motors play what a call of `SetRumble` stored, for a second. -/
  played : ∀ g command durationMs, .rumbleGamepad g command durationMs ∈ s.events →
    command = {} ∧ durationMs = 0 ∨ durationMs = 1000 ∧ .rumbleStore command ∈ l
  /-- What is opened is what `Open` was asked for. -/
  asked : ∀ id result, .openGamepad id result ∈ s.events → Asked l id

end SdlInputBackend

open SdlInputBackend in
/-- **The life of a gamepad**, for every order of `Open`, `Close`, `SetRumble` and the poll
thread and every answer of SDL. -/
theorem device_contract {l : List SdlInputBackend.Label} {s : SdlInputBackend.State}
    (h : SdlInputBackend.system.Run l s) : SdlInputBackend.Contract l s := by
  have hi := inv_of_run h
  have hheard := heard_of_run h
  obtain ⟨u, hrun, hu⟩ := hi.usage
  refine ⟨?_, ?_, fun _ _ _ he => silent_of_run hrun he, fun _ _ _ he => faithful_of_run hrun he,
    fun _ _ _ hl he => live_of_run hrun hl he, ?_, hheard.played, hheard.asked⟩
  · have hb := hi.keeps.balanced
    simp only [mem_place] at hb
    exact hb
  · intro hnull
    rw [hnull] at hu
    exact hu
  · intro t hn
    simp only [State.step] at hn
    split at hn
    · rename_i ho
      have hp := hi.joined ho
      obtain rfl := Option.some.inj hn
      rw [State.closeSection]
      split
      · exact ⟨rfl, hp⟩
      · rename_i hg
        exact ⟨hg, hp⟩
    · cases hn

open SdlInputBackend in
/-- A gamepad is opened, polled and rumbled once, and closed. -/
theorem device_contract_closed :
    ∃ l s, SdlInputBackend.system.Run l s ∧ s.opened = 1 ∧ s.gamepad = none ∧
      s.events.length = 8 ∧ SdlInputBackend.Contract l s := by
  have hend : (SdlInputBackend.system.exec {}
      ([.open [55] true true, .openSection true true, .rumbleTest ⟨3, 4⟩, .rumbleStore ⟨3, 4⟩,
        .rumbleIncrement ⟨3, 4⟩] ++
        List.replicate 9 (.poll true { pressed := fun _ => false }) ++
        [.close, .poll false { pressed := fun _ => false },
          .poll false { pressed := fun _ => false }, .join, .closeSection])).map
      (fun s => (s.opened, s.gamepad, s.events.length)) = some (1, none, 8) := rfl
  obtain ⟨s, hs, he⟩ := Option.map_eq_some_iff.mp hend
  have hrun := System.run_of_exec (M := SdlInputBackend.system) hs
  simp only [Prod.mk.injEq] at he
  exact ⟨_, s, hrun, he.1, he.2.1, he.2.2, device_contract hrun⟩

end RemoteController
