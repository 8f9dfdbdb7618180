import RemoteController.EndToEnd.Pads
import RemoteController.LocalBridge.Release

/-!
# From pad to pad on one computer

The gamepad that SDL polls and the bridge whose callbacks the poll thread runs:
`SdlInputBackend` under `LocalControllerBridge`, with the rumble of the driver on its way
back.

As in `PadPath`, a call of the device and the step of the bridge that makes it are one step,
and so are a callback and the step of the bridge that it is.  `Stop()` is called when
`Start()` has returned.

* `BridgeSide.Passes`: what the bridge has submitted, against what was reported to it.
* `LocalPath.system`: the whole.
* `bridge_to_pad`: the reports that `SubmitState` was called with, against the samples, and
  what the motors played, against the commands of the driver.
-/

namespace RemoteController

open Lib Protocol

/-! ### Who calls `SetRumble` -/

namespace SdlInputBackend

variable {s t : State} {a : Label}

theorem poll_testing {isConnected : Bool} {sample : GamepadSample}
    (h : s.poll isConnected sample = some t) : t.testing = s.testing := by
  cases hs : s.thread with
  | none | null | finished => simp [State.poll, hs] at h
  | start =>
    simp only [State.poll, hs] at h
    split at h <;> (obtain rfl := Option.some.inj h; rfl)
  | test | update | connected | disconnectTest | disconnect | read | report | load | readPacked
    | rumble | last =>
    simp only [State.poll, hs, Option.some.injEq] at h
    rw [← h]
    rfl

theorem testing_step (h : s.step a = some t) (command : RumbleCommand) (hm : command ∈ t.testing) :
    command ∈ s.testing ∨ a = .rumbleTest command := by
  cases a with
  | poll isConnected sample => exact .inl (poll_testing h ▸ hm)
  | rumbleTest other =>
    obtain rfl := Option.some.inj h
    split at hm
    · exact .inl hm
    · rcases List.mem_cons.mp hm with rfl | hm
      · exact .inr rfl
      · exact .inl hm
  | rumbleStore other =>
    simp only [State.step, Option.ite_none_right_eq_some, Option.some.injEq] at h
    obtain ⟨_, rfl⟩ := h
    exact .inl (List.mem_of_mem_erase hm)
  | closeSection =>
    simp only [State.step, Option.ite_none_right_eq_some, Option.some.injEq] at h
    obtain ⟨_, rfl⟩ := h
    rw [State.closeSection] at hm
    split at hm <;> exact .inl hm
  | openSection opens hasDisconnectCallback =>
    simp only [State.step] at h
    split at h
    · obtain rfl := Option.some.inj h
      rw [State.openSection] at hm
      repeat' split at hm
      all_goals exact .inl hm
    · cases h
  | «open» | close | join | rumbleIncrement =>
    simp only [State.step] at h
    repeat' split at h
    all_goals cases h <;> exact .inl hm

theorem PollPhase.length_pending (p : PollPhase) : p.pending.length ≤ 1 := by
  cases p with
  | report => exact Nat.le_refl 1
  | _ => exact Nat.zero_le 1

/-- A caller that has stored its command has found the gamepad open before. -/
theorem tested_of_run {l : List Label} (h : system.Run l s) :
    ∀ command, .rumbleStore command ∈ l → .rumbleTest command ∈ l := by
  have hall : (∀ command ∈ s.testing, .rumbleTest command ∈ l) ∧
      ∀ command, .rumbleStore command ∈ l → .rumbleTest command ∈ l := by
    refine h.invariant (P := fun l s => (∀ command ∈ s.testing, .rumbleTest command ∈ l) ∧
      ∀ command, .rumbleStore command ∈ l → .rumbleTest command ∈ l) ?_ ?_
    · exact ⟨fun _ hm => absurd hm List.not_mem_nil, fun _ hm => absurd hm List.not_mem_nil⟩
    · intro l s a t _ ⟨htesting, hstored⟩ hn
      refine ⟨fun command hm => ?_, fun command hm => ?_⟩
      · rcases testing_step hn command hm with hm | rfl
        · exact List.mem_append_left _ (htesting command hm)
        · exact List.mem_append_right _ (List.mem_singleton.mpr rfl)
      · rcases List.mem_append.mp hm with hm | hm
        · exact List.mem_append_left _ (hstored command hm)
        · obtain rfl := (List.mem_singleton.mp hm).symm
          simp only [system, State.step, Option.ite_none_right_eq_some] at hn
          exact List.mem_append_left _ (htesting command hn.1)
  exact hall.2

end SdlInputBackend

/-! ### What the bridge submits -/

def BridgePoll.inHand : BridgePoll → List GamepadStateV1
  | .submitting report => [report]
  | _ => []

namespace BridgeSide

/-- `Stop()` is called when `Start()` has returned. -/
def StopsLater (b : BridgeSide) : BridgeLabel → Prop
  | .stop => b.start.hasReturned = true
  | _ => True

instance (b : BridgeSide) : ∀ a : BridgeLabel, Decidable (StopsLater b a)
  | .stop => inferInstanceAs (Decidable (b.start.hasReturned = true))
  | .startChecks | .create _ | .startFailed | .startRunning | .openDevice _ | .openFailed
  | .startReleases _ | .startDestroys | .stopCloses | .stopReleases _ | .stopDestroys
  | .onState _ | .submitState _ | .onStateRefused | .onStateAccepted _ | .onDisconnected
  | .pollReleases _ | .onRumble _ => .isTrue trivial

/-- How often the bridge has been released, at most: not in the middle of a callback, nor
before `Start()` releases it; once by `Start()` or by a callback; and once more by `Stop()`. -/
def mostReleases (b : BridgeSide) : Nat :=
  if b.poll ≠ .idle then 0
  else
    match b.start, b.stop with
    | .destroying, _ => 1
    | .returned _, .destroying | .returned _, .returned => 2
    | .returned _, _ => 1
    | _, _ => 0

/-- **What has been submitted**, with the report in hand: a beginning of what was reported,
which is all of it while the bridge is running, and neutral reports. -/
def Submits (reported : List GamepadStateV1) (b : BridgeSide) : Prop :=
  ∃ shown k, b.submitted ++ b.poll.inHand = shown ++ List.replicate k .neutral ∧
    shown <+: reported ∧ k ≤ b.mostReleases ∧
      (b.core.state = .running → k = 0 ∧ shown = reported)

/-- `Submits`, and what it takes to keep it. -/
structure Passes (reported : List GamepadStateV1) (b : BridgeSide) : Prop where
  submits : b.Submits reported
  fresh : b.stop = .idle → b.core.state ≠ .stopped
  stopped : b.stop ≠ .idle → b.core.state = .stopped ∧ b.start.hasReturned = true
  opened : b.isOpen = true → b.start.hasReturned = true ∧ b.stop.joined = false
  closed : b.isOpen = false → b.poll = .idle
  early : b.start.hasReturned = false → reported = []
  faulted : b.start = .releasing ∨ b.start = .destroying → b.core.state ≠ .running
  releasing : b.poll = .releasing → b.core.state ≠ .running

theorem passes_init : Passes [] {} where
  submits := ⟨[], 0, rfl, List.nil_prefix, Nat.le_refl _, fun _ => ⟨rfl, rfl⟩⟩
  fresh _ h := by cases h
  stopped h := absurd rfl h
  opened h := by cases h
  closed _ := rfl
  early _ := rfl
  faulted h := by rcases h with h | h <;> cases h
  releasing h := by cases h

variable {reported : List GamepadStateV1} {b c : BridgeSide} {a : BridgeLabel}

theorem mostReleases_polling (h : b.poll ≠ .idle) : b.mostReleases = 0 := by
  rw [mostReleases, if_pos h]

/-- A step that submits nothing and does not set `kRunning`. -/
theorem Submits.same (h : b.Submits reported)
    (hs : c.submitted ++ c.poll.inHand = b.submitted ++ b.poll.inHand)
    (hm : b.mostReleases ≤ c.mostReleases)
    (hr : c.core.state = .running → b.core.state = .running) : c.Submits reported := by
  obtain ⟨shown, k, he, hp, hk, hrun⟩ := h
  exact ⟨shown, k, hs.trans he, hp, Nat.le_trans hk hm, fun hc => hrun (hr hc)⟩

/-- A release of a bridge that is not running. -/
theorem Submits.release (h : b.Submits reported) (hb : b.poll.inHand = [])
    (hs : c.submitted = b.submitted ++ [.neutral]) (hc : c.poll.inHand = [])
    (hm : b.mostReleases < c.mostReleases) (hr : c.core.state ≠ .running) :
    c.Submits reported := by
  obtain ⟨shown, k, he, hp, hk, _⟩ := h
  refine ⟨shown, k + 1, ?_, hp, Nat.lt_of_le_of_lt hk hm, fun h => absurd h hr⟩
  rw [hb, List.append_nil] at he
  rw [hc, List.append_nil, hs, he, List.append_assoc, List.replicate_succ']

/-! ### The steps of the bridge -/

theorem Passes.alone (h : Passes reported b) (hret : b.start.hasReturned = false) :
    b.isOpen = false ∧ b.poll = .idle ∧ b.stop = .idle :=
  alone_of_starting hret (fun ho => (h.opened ho).1) (fun hs => (h.stopped hs).2) h.closed

/-- A step of `Start()`. -/
theorem Passes.starts (h : Passes reported b) (hret : b.start.hasReturned = false)
    (hsub : c.Submits reported) (ho : c.isOpen = true → c.start.hasReturned = true)
    (hpoll : c.poll = .idle) (hstop : c.stop = .idle) (hfresh : c.core.state ≠ .stopped)
    (hfault : c.start = .releasing ∨ c.start = .destroying → c.core.state ≠ .running) :
    Passes reported c where
  submits := hsub
  fresh _ := hfresh
  stopped hs := absurd hstop hs
  opened hc := ⟨ho hc, by rw [hstop]; rfl⟩
  closed _ := hpoll
  early _ := h.early hret
  faulted := hfault
  releasing hc := by rw [hpoll] at hc; cases hc

/-- A step of `Start()` before it has opened the device, which submits nothing. -/
theorem Passes.begins (h : Passes reported b) (hret : b.start.hasReturned = false)
    (hsubmitted : c.submitted = b.submitted) (hpoll : c.poll = b.poll) (hstop : c.stop = b.stop)
    (ho : c.isOpen = b.isOpen) (hm : b.mostReleases ≤ c.mostReleases)
    (hr : c.core.state = .running → b.core.state = .running) (hfresh : c.core.state ≠ .stopped)
    (hfault : c.start = .releasing ∨ c.start = .destroying → c.core.state ≠ .running) :
    Passes reported c := by
  obtain ⟨hopen, hp, hs⟩ := h.alone hret
  refine h.starts hret (h.submits.same (by rw [hsubmitted, hpoll]) hm hr) (fun hc => ?_)
    (hpoll.trans hp) (hstop.trans hs) hfresh hfault
  rw [ho, hopen] at hc
  cases hc

/-- `Start()` sets `kRunning`, when nothing has been reported yet. -/
theorem Passes.runs (h : Passes reported b) (hst : b.start = .created) :
    Passes reported { b with core := b.core.startRunning, start := .opening } := by
  have hret : b.start.hasReturned = false := by rw [hst]; rfl
  obtain ⟨ho, hp, hs⟩ := h.alone hret
  obtain ⟨shown, k, he, hpre, hk, _⟩ := h.submits
  have hzero : k = 0 := by simpa [mostReleases, hp, hst] using hk
  have hnil := h.early hret
  have hsub : Submits reported { b with core := b.core.startRunning, start := .opening } := by
    refine ⟨shown, k, he, hpre, by rw [hzero]; exact Nat.zero_le _, fun _ => ⟨hzero, ?_⟩⟩
    rw [hnil] at hpre ⊢
    exact List.prefix_nil.mp hpre
  refine h.starts hret hsub (fun hc => ?_) hp hs (fun he => by cases he) (by simp)
  rw [show b.isOpen = true from hc] at ho
  cases ho

theorem Passes.start (h : Passes reported b) (ha : a.thread = .start) (hn : b.step a = some c) :
    Passes reported c := by
  have hret := starting_of_step ha hn
  obtain ⟨ho, hp, hs⟩ := h.alone hret
  have hfresh := h.fresh hs
  cases a with
  | startChecks =>
    simp only [step, Option.ite_none_right_eq_some, Option.some.injEq] at hn
    obtain ⟨hst, rfl⟩ := hn
    refine h.begins hret rfl rfl rfl rfl ?_ id hfresh ?_
    · simp [mostReleases, hp, hst]
    · cases b.core.mayStart <;> simp
  | create ok =>
    simp only [step, Option.ite_none_right_eq_some, Option.some.injEq] at hn
    obtain ⟨hst, rfl⟩ := hn
    refine h.begins hret rfl rfl rfl rfl ?_ id hfresh ?_
    · simp [mostReleases, hp, hst]
    · cases (b.virtual.create ok).2 <;> simp
  | startFailed | openFailed =>
    simp only [step, Option.ite_none_right_eq_some, Option.some.injEq] at hn
    obtain ⟨hst, rfl⟩ := hn
    refine h.begins hret rfl rfl rfl rfl ?_ (fun hr => by cases hr) (fun he => by cases he)
      fun _ he => by cases he
    simp [mostReleases, hp, hst]
  | startRunning =>
    simp only [step, Option.ite_none_right_eq_some, Option.some.injEq] at hn
    obtain ⟨hst, rfl⟩ := hn
    exact h.runs hst
  | openDevice ok =>
    simp only [step, Option.ite_none_right_eq_some] at hn
    obtain ⟨hst, hn⟩ := hn
    split at hn
    · obtain rfl := Option.some.inj hn
      refine h.starts hret (h.submits.same rfl ?_ id) (fun _ => rfl) hp hs hfresh ?_
      · simp [mostReleases, hp, hst]
      · simp
    · obtain rfl := Option.some.inj hn
      refine h.begins hret rfl rfl rfl rfl ?_ id hfresh ?_
      · simp [mostReleases, hp, hst]
      · simp
  | startReleases ok =>
    simp only [step, Option.ite_none_right_eq_some, Option.some.injEq] at hn
    obtain ⟨hst, rfl⟩ := hn
    have hr := h.faulted (.inl hst)
    have hhand : b.poll.inHand = [] := by rw [hp]; rfl
    refine h.starts hret (h.submits.release hhand rfl hhand ?_ hr) (fun hc => ?_) hp hs hfresh
      fun _ => hr
    · simp [mostReleases, BridgeSide.release, hp, hst]
    · rw [show b.isOpen = true from hc] at ho
      cases ho
  | startDestroys =>
    simp only [step, Option.ite_none_right_eq_some, Option.some.injEq] at hn
    obtain ⟨hst, rfl⟩ := hn
    refine h.starts hret (h.submits.same rfl ?_ id) (fun _ => rfl) hp hs hfresh ?_
    · simp [mostReleases, hp, hst, hs]
    · simp
  | stop | stopCloses | stopReleases | stopDestroys | onState | submitState | onStateRefused
    | onStateAccepted | onDisconnected | pollReleases | onRumble => cases ha

/-- The bridge is in the middle of a callback. -/
theorem Passes.polling (h : Passes reported b) (hp : b.poll ≠ .idle) :
    b.isOpen = true ∧ b.start.hasReturned = true ∧ b.stop.joined = false := by
  have ho : b.isOpen = true := by
    by_contra ho
    exact hp (h.closed (by simpa using ho))
  exact ⟨ho, h.opened ho⟩

/-- While the device is open, the bridge may be released once before `Stop()` does. -/
theorem mostReleases_open (hp : b.poll = .idle) (hret : b.start.hasReturned = true)
    (hj : b.stop.joined = false) : b.mostReleases = 1 := by
  rw [mostReleases, if_neg (not_not.mpr hp)]
  cases hst : b.start with
  | returned r =>
    cases hs : b.stop with
    | idle | closing | releasing => rfl
    | destroying | returned =>
      rw [hs] at hj
      cases hj
  | destroying => rfl
  | checking | creating | createFailed | created | opening | openFailed | releasing =>
    rw [hst] at hret
    cases hret

/-- A step of the poll thread. -/
theorem Passes.polls (h : Passes reported b) (ho : b.isOpen = true) (hc : c.isOpen = b.isOpen)
    (hstart : c.start = b.start) (hstop : c.stop = b.stop) (hsub : c.Submits reported)
    (hstate : c.core.state = .stopped ↔ b.core.state = .stopped)
    (hrel : c.poll = .releasing → c.core.state ≠ .running) : Passes reported c where
  submits := hsub
  fresh hs := by
    rw [hstop] at hs
    exact fun he => h.fresh hs (hstate.mp he)
  stopped hs := by
    rw [hstop] at hs
    rw [hstate, hstart]
    exact h.stopped hs
  opened _ := by
    rw [hstart, hstop]
    exact h.opened ho
  closed hn := by
    rw [hc, ho] at hn
    cases hn
  early hn := by
    rw [hstart] at hn
    exact h.early hn
  faulted hf := by
    have hret := (h.opened ho).1
    rw [hstart] at hf
    rcases hf with hf | hf <;> rw [hf] at hret <;> cases hret
  releasing := hrel

/-- A step in the middle of a callback, which submits nothing. -/
theorem Passes.callback (h : Passes reported b) (hp : b.poll ≠ .idle)
    (ho : c.isOpen = b.isOpen) (hstart : c.start = b.start) (hstop : c.stop = b.stop)
    (hs : c.submitted ++ c.poll.inHand = b.submitted ++ b.poll.inHand)
    (hr : c.core.state = .running → b.core.state = .running)
    (hstate : c.core.state = .stopped ↔ b.core.state = .stopped)
    (hrel : c.poll = .releasing → c.core.state ≠ .running) : Passes reported c := by
  refine h.polls (h.polling hp).1 ho hstart hstop (h.submits.same hs ?_ hr) hstate hrel
  rw [mostReleases_polling hp]
  exact Nat.zero_le _

theorem Passes.onStateRefused (h : Passes reported b) (hp : b.poll = .refused) :
    Passes reported { b with core := b.core.onStateRefused, poll := .releasing } := by
  have hne : b.poll ≠ .idle := by rw [hp]; decide
  rw [LocalControllerBridge.onStateRefused]
  split
  · rename_i hr
    exact h.callback hne rfl rfl rfl (by rw [hp]; rfl) (fun he => by cases he)
      (iff_of_false (fun he => by cases he) (by simp [hr])) fun _ he => by cases he
  · rename_i hr
    exact h.callback hne rfl rfl rfl (by rw [hp]; rfl) id Iff.rfl fun _ => hr

theorem Passes.onDisconnected (h : Passes reported b) (ho : b.isOpen = true)
    (hp : b.poll = .idle) :
    Passes reported { b with
      core := b.core.onDisconnected.1
      poll := if b.core.onDisconnected.2 then .releasing else .idle } := by
  rw [LocalControllerBridge.onDisconnected]
  split
  · have hsame : { b with core := b.core, poll := .idle } = b := by rw [← hp]
    exact hsame ▸ h
  · rename_i hr
    have hr := not_not.mp hr
    obtain ⟨shown, k, he, hpre, _, hrun⟩ := h.submits
    obtain ⟨rfl, _⟩ := hrun hr
    refine h.polls ho rfl rfl rfl ⟨shown, 0, ?_, hpre, Nat.zero_le _, fun he => by cases he⟩
      (iff_of_false (fun he => by cases he) (by simp [hr])) fun _ he => by cases he
    rw [hp] at he
    exact he

theorem Passes.pollReleases (ok : Bool) (h : Passes reported b) (hp : b.poll = .releasing) :
    Passes reported { b.release ok with poll := .idle } := by
  have hne : b.poll ≠ .idle := by rw [hp]; decide
  obtain ⟨ho, hret, hj⟩ := h.polling hne
  refine h.polls ho rfl rfl rfl (h.submits.release ?_ rfl rfl ?_ (h.releasing hp)) Iff.rfl
    fun he => by cases he
  · rw [hp]
    rfl
  · rw [mostReleases_polling hne,
      mostReleases_open (b := { b.release ok with poll := .idle }) rfl hret hj]
    exact Nat.zero_lt_one

theorem Passes.poll (h : Passes reported b) (ha : a.thread = .poll)
    (hno : ∀ state, a ≠ .onState state) (hn : b.step a = some c) : Passes reported c := by
  cases a with
  | onState state => exact absurd rfl (hno state)
  | submitState ok =>
    simp only [step] at hn
    split at hn
    · rename_i report hp
      obtain rfl := Option.some.inj hn
      have hne : b.poll ≠ .idle := by rw [hp]; exact fun he => by cases he
      refine h.callback hne rfl rfl rfl ?_ id Iff.rfl ?_
      · rw [hp]
        cases (b.virtual.submitState report ok).2 <;> simp [BridgePoll.inHand]
      · cases (b.virtual.submitState report ok).2 <;> simp
    · cases hn
  | onStateRefused =>
    simp only [step, Option.ite_none_right_eq_some, Option.some.injEq] at hn
    obtain ⟨hp, rfl⟩ := hn
    exact h.onStateRefused hp
  | onStateAccepted timestampUs =>
    simp only [step] at hn
    split at hn
    · rename_i report hp
      obtain rfl := Option.some.inj hn
      have hne : b.poll ≠ .idle := by rw [hp]; exact fun he => by cases he
      have hstate : (b.core.onStateAccepted report timestampUs).state = b.core.state := by
        rw [LocalControllerBridge.onStateAccepted]
        split <;> rfl
      exact h.callback hne rfl rfl rfl (by rw [hp]; rfl) (fun hr => hstate.symm.trans hr)
        (iff_of_eq (congrArg (· = .stopped) hstate)) fun he => by cases he
    · cases hn
  | onDisconnected =>
    simp only [step, Option.ite_none_right_eq_some, Option.some.injEq] at hn
    obtain ⟨⟨ho, hp⟩, rfl⟩ := hn
    exact h.onDisconnected ho hp
  | pollReleases ok =>
    simp only [step, Option.ite_none_right_eq_some, Option.some.injEq] at hn
    obtain ⟨hp, rfl⟩ := hn
    exact h.pollReleases ok hp
  | startChecks | create | startFailed | startRunning | openDevice | openFailed | startReleases
    | startDestroys | stop | stopCloses | stopReleases | stopDestroys | onRumble => cases ha

/-- A step of `Stop()`, behind its section. -/
theorem Passes.stops (h : Passes reported b) (hs : b.stop ≠ .idle) (hcore : c.core = b.core)
    (hstart : c.start = b.start) (hstop : c.stop ≠ .idle) (hpoll : c.poll = .idle)
    (ho : c.isOpen = false) (hsub : c.Submits reported) : Passes reported c := by
  obtain ⟨hstate, hret⟩ := h.stopped hs
  refine ⟨hsub, fun he => absurd he hstop, fun _ => ?_, fun he => ?_, fun _ => hpoll, fun hn => ?_,
    fun hf => ?_, fun he => ?_⟩
  · rw [hcore, hstart]
    exact ⟨hstate, hret⟩
  · rw [ho] at he
    cases he
  · rw [hstart] at hn
    exact h.early hn
  · rw [hcore, hstate]
    decide
  · rw [hpoll] at he
    cases he

theorem returned_of_hasReturned (h : b.start.hasReturned = true) : ∃ r, b.start = .returned r := by
  cases hs : b.start with
  | returned r => exact ⟨r, rfl⟩
  | checking | creating | createFailed | created | opening | openFailed | releasing
    | destroying =>
    rw [hs] at h
    cases h

/-- `Stop()` is past its `Close()`. -/
theorem Passes.joined (h : Passes reported b) (hj : b.stop.joined = true) :
    b.isOpen = false ∧ b.poll = .idle ∧ b.stop ≠ .idle := by
  have ho : b.isOpen = false := by
    by_contra ho
    have hno := (h.opened (by simpa using ho)).2
    rw [hj] at hno
    cases hno
  refine ⟨ho, h.closed ho, ?_⟩
  rintro hs
  rw [hs] at hj
  cases hj

theorem Passes.stop (h : Passes reported b) (hok : StopsLater b a) (ha : a.thread = .stop)
    (hn : b.step a = some c) : Passes reported c := by
  cases a with
  | stop =>
    simp only [step, Option.ite_none_right_eq_some] at hn
    obtain ⟨hs, hn⟩ := hn
    have hne := h.fresh hs
    rw [LocalControllerBridge.stopLocked, if_neg hne] at hn
    obtain rfl := Option.some.inj hn
    obtain ⟨r, hr⟩ := returned_of_hasReturned hok
    refine ⟨h.submits.same rfl ?_ ?_, ?_, fun _ => ⟨rfl, hok⟩, fun _ => ⟨hok, rfl⟩, h.closed,
      h.early, ?_, ?_⟩
    · simp [mostReleases, hr, hs]
    · exact fun he => by cases he
    · exact fun he => by cases he
    · exact fun _ he => by cases he
    · exact fun _ he => by cases he
  | stopCloses =>
    simp only [step, Option.ite_none_right_eq_some, Option.some.injEq] at hn
    obtain ⟨⟨hs, hp⟩, rfl⟩ := hn
    have hne : b.stop ≠ .idle := by rw [hs]; decide
    refine h.stops hne rfl rfl (by simp) hp rfl (h.submits.same rfl ?_ id)
    obtain ⟨r, hr⟩ := returned_of_hasReturned (h.stopped hne).2
    simp [mostReleases, hr, hs]
  | stopReleases ok =>
    simp only [step, Option.ite_none_right_eq_some, Option.some.injEq] at hn
    obtain ⟨hs, rfl⟩ := hn
    obtain ⟨ho, hp, hne⟩ := h.joined (by rw [hs]; rfl)
    obtain ⟨hstate, hret⟩ := h.stopped hne
    have hhand : b.poll.inHand = [] := by rw [hp]; rfl
    refine h.stops hne rfl rfl (by simp) hp ho (h.submits.release hhand rfl hhand ?_ ?_)
    · obtain ⟨r, hr⟩ := returned_of_hasReturned hret
      simp [mostReleases, BridgeSide.release, hr, hs, hp]
    · show b.core.state ≠ .running
      rw [hstate]
      decide
  | stopDestroys =>
    simp only [step, Option.ite_none_right_eq_some, Option.some.injEq] at hn
    obtain ⟨hs, rfl⟩ := hn
    obtain ⟨ho, hp, hne⟩ := h.joined (by rw [hs]; rfl)
    refine h.stops hne rfl rfl (by simp) hp ho (h.submits.same rfl ?_ id)
    obtain ⟨r, hr⟩ := returned_of_hasReturned (h.stopped hne).2
    simp [mostReleases, hr, hs]
  | startChecks | create | startFailed | startRunning | openDevice | openFailed | startReleases
    | startDestroys | onState | submitState | onStateRefused | onStateAccepted | onDisconnected
    | pollReleases | onRumble => cases ha

/-- **A step that reports nothing.** -/
theorem Passes.step (h : Passes reported b) (hok : StopsLater b a)
    (hno : ∀ state, a ≠ .onState state) (hn : b.step a = some c) : Passes reported c := by
  cases ha : a.thread with
  | start => exact h.start ha hn
  | poll => exact h.poll ha hno hn
  | stop => exact h.stop hok ha hn
  | notification =>
    cases a with
    | onRumble command =>
      obtain rfl := Option.some.inj hn
      have hstate := LocalControllerBridge.onRumble_state b.core command
      refine ⟨h.submits.same rfl (Nat.le_refl _) (fun hr => hstate.symm.trans hr), ?_, ?_, h.opened,
        h.closed, h.early, ?_, ?_⟩
      · exact fun hs he => h.fresh hs (hstate.symm.trans he)
      · exact fun hs => ⟨hstate.trans (h.stopped hs).1, (h.stopped hs).2⟩
      · exact fun hf he => h.faulted hf (hstate.symm.trans he)
      · exact fun hp he => h.releasing hp (hstate.symm.trans he)
    | startChecks | create | startFailed | startRunning | openDevice | openFailed | startReleases
      | startDestroys | stop | stopCloses | stopReleases | stopDestroys | onState | submitState
      | onStateRefused | onStateAccepted | onDisconnected | pollReleases => cases ha

/-- **A report.** -/
theorem Passes.report (h : Passes reported b) {state : GamepadStateV1}
    (hn : b.step (.onState state) = some c) : Passes (reported ++ [state]) c := by
  simp only [BridgeSide.step, Option.ite_none_right_eq_some, Option.some.injEq] at hn
  obtain ⟨⟨ho, hp⟩, rfl⟩ := hn
  obtain ⟨hret, hj⟩ := h.opened ho
  obtain ⟨shown, k, he, hpre, hk, hrun⟩ := h.submits
  have hnotEarly : b.start.hasReturned = false → reported ++ [state] = [] := fun hn => by
    rw [hret] at hn
    cases hn
  by_cases hr : b.core.state = .running
  · obtain ⟨rfl, rfl⟩ := hrun hr
    have hon : b.core.onState = true := by simp [LocalControllerBridge.onState, hr]
    rw [hon, if_pos rfl]
    refine ⟨⟨shown ++ [state], 0, ?_, List.prefix_refl _, Nat.zero_le _, fun _ => ⟨rfl, rfl⟩⟩,
      h.fresh, h.stopped, h.opened, fun hc => ?_, hnotEarly, h.faulted, fun he => by cases he⟩
    · rw [hp] at he
      simpa [BridgePoll.inHand] using he
    · rw [ho] at hc
      cases hc
  · have hon : b.core.onState = false := by simp [LocalControllerBridge.onState, hr]
    have hsame : { b with poll := .idle } = b := by rw [← hp]
    rw [hon, if_neg (by simp), hsame]
    exact ⟨⟨shown, k, he, hpre.trans (List.prefix_append _ _), hk, fun hn => absurd hn hr⟩,
      h.fresh, h.stopped, h.opened, h.closed, hnotEarly, h.faulted, h.releasing⟩

/-- What has been submitted, without the report in hand. -/
theorem Passes.submitted (h : Passes reported b) {pending : List GamepadStateV1}
    (hquiet : b.poll ≠ .idle → pending = []) :
    ∃ shown farewell, b.submitted = shown ++ farewell ∧ shown <+: reported ∧
      farewell.length ≤ 2 ∧ (∀ state ∈ farewell, state = .neutral) ∧
        (b.core.state = .running → farewell = [] ∧
          (reported.length ≤ shown.length ∨
            pending = [] ∧ reported.length ≤ shown.length + 1)) := by
  obtain ⟨shown, k, hsub, hprefix, hk, hrun⟩ := h.submits
  by_cases hp : ∃ report, b.poll = .submitting report
  · obtain ⟨report, hp⟩ := hp
    have hne : b.poll ≠ .idle := by rw [hp]; exact fun he => by cases he
    rw [mostReleases_polling hne] at hk
    obtain rfl := Nat.le_zero.mp hk
    rw [hp] at hsub
    replace hsub : b.submitted ++ [report] = shown := by simpa [BridgePoll.inHand] using hsub
    refine ⟨b.submitted, [], (List.append_nil _).symm, ?_, by simp, by simp, fun hr => ⟨rfl, ?_⟩⟩
    · exact (hsub ▸ List.prefix_append _ _ : b.submitted <+: shown).trans hprefix
    · obtain ⟨_, rfl⟩ := hrun hr
      refine .inr ⟨hquiet hne, ?_⟩
      rw [← hsub, List.length_append, List.length_singleton]
  · have hhand : b.poll.inHand = [] := by
      cases hb : b.poll with
      | submitting report => exact absurd ⟨report, hb⟩ hp
      | idle | refused | accepted | releasing => rfl
    rw [hhand, List.append_nil] at hsub
    refine ⟨shown, List.replicate k .neutral, hsub, hprefix, ?_,
      fun state hm => List.eq_of_mem_replicate hm, fun hr => ?_⟩
    · rw [List.length_replicate]
      refine Nat.le_trans hk ?_
      rw [mostReleases]
      split
      · exact Nat.zero_le _
      · split <;> decide
    · obtain ⟨rfl, rfl⟩ := hrun hr
      exact ⟨rfl, .inl (Nat.le_refl _)⟩

end BridgeSide

/-- A callback begins with `OnState` or `OnDisconnected`. -/
theorem BridgeSide.polling_of_step {b c : BridgeSide} {a : BridgeLabel} (h : b.step a = some c)
    (hno : ∀ state, a ≠ .onState state) (hdis : a ≠ .onDisconnected) (hc : c.poll ≠ .idle) :
    b.poll ≠ .idle := by
  intro hp
  cases a with
  | onState state => exact absurd rfl (hno state)
  | onDisconnected => exact absurd rfl hdis
  | submitState | onStateAccepted => simp [step, hp] at h
  | onStateRefused | pollReleases =>
    simp only [step, Option.ite_none_right_eq_some, hp] at h
    cases h.1
  | stop =>
    simp only [step, Option.ite_none_right_eq_some] at h
    obtain ⟨_, h⟩ := h
    split at h <;> (obtain rfl := Option.some.inj h; exact hc hp)
  | openDevice ok =>
    simp only [step, Option.ite_none_right_eq_some] at h
    obtain ⟨_, h⟩ := h
    split at h <;> (obtain rfl := Option.some.inj h; exact hc hp)
  | onRumble command =>
    obtain rfl := Option.some.inj h
    exact hc hp
  | startChecks | create | startFailed | startRunning | openFailed | startReleases
    | startDestroys | stopCloses | stopReleases | stopDestroys =>
    simp only [step, Option.ite_none_right_eq_some, Option.some.injEq] at h
    obtain ⟨_, rfl⟩ := h
    exact hc hp

/-! ### The rumble that the bridge shows -/

namespace LocalControllerBridge

/-- The command of the snapshot, and the number of commands. -/
def rumble (b : LocalControllerBridge) : RumbleCommand × UInt64 :=
  (⟨b.lowFrequencyMotor, b.highFrequencyMotor⟩, b.rumbleCount)

theorem onRumble_taken {b : LocalControllerBridge} {command : RumbleCommand}
    (h : (b.onRumble command).2 = true) :
    (b.onRumble command).1.rumble = (command, b.rumbleCount + 1) := by
  rw [onRumble] at h ⊢
  split at h
  · cases h
  · rename_i hs
    rw [if_neg hs]
    rfl

theorem onRumble_ignored {b : LocalControllerBridge} {command : RumbleCommand}
    (h : (b.onRumble command).2 = false) : (b.onRumble command).1 = b := by
  rw [onRumble] at h ⊢
  split at h
  · rename_i hs
    rw [if_pos hs]
  · cases h

end LocalControllerBridge

theorem BridgeSide.rumble_step {b c : BridgeSide} {a : BridgeLabel} (h : b.step a = some c)
    (ha : ∀ command, a ≠ .onRumble command) : c.core.rumble = b.core.rumble := by
  cases a with
  | onRumble command => exact absurd rfl (ha command)
  | onStateRefused =>
    simp only [step, Option.ite_none_right_eq_some, Option.some.injEq] at h
    obtain ⟨_, rfl⟩ := h
    dsimp only
    rw [LocalControllerBridge.onStateRefused]
    split <;> rfl
  | onStateAccepted timestampUs =>
    simp only [step] at h
    split at h
    · obtain rfl := Option.some.inj h
      dsimp only
      rw [LocalControllerBridge.onStateAccepted]
      split <;> rfl
    · cases h
  | onDisconnected =>
    simp only [step, Option.ite_none_right_eq_some, Option.some.injEq] at h
    obtain ⟨_, rfl⟩ := h
    dsimp only
    rw [LocalControllerBridge.onDisconnected]
    split <;> rfl
  | stop =>
    simp only [step, Option.ite_none_right_eq_some, LocalControllerBridge.stopLocked] at h
    obtain ⟨_, h⟩ := h
    split at h <;> rename_i hs <;> split at hs <;> cases hs <;> cases h <;> rfl
  | openDevice ok =>
    simp only [step, Option.ite_none_right_eq_some] at h
    obtain ⟨_, h⟩ := h
    split at h <;> (obtain rfl := Option.some.inj h; rfl)
  | submitState ok =>
    simp only [step] at h
    split at h
    · obtain rfl := Option.some.inj h
      rfl
    · cases h
  | startChecks | create | startFailed | startRunning | openFailed | startReleases
    | startDestroys | stopCloses | stopReleases | stopDestroys | onState | pollReleases =>
    simp only [step, Option.ite_none_right_eq_some, Option.some.injEq] at h
    obtain ⟨_, rfl⟩ := h
    rfl

/-! ### The whole -/

/-- `commands`: those the driver gave while the bridge was running, oldest first.  `rumbling`:
the calls of `OnRumble` behind their section, in front of `SetRumble`. -/
structure LocalPath where
  pad : SdlInputBackend.State := {}
  bridge : BridgeSide := {}
  commands : List RumbleCommand := []
  rumbling : List RumbleCommand := []

namespace LocalPath

inductive Label where
  /-- `Start()` calls `Open`, up to its section. -/
  | open (deviceId : List UInt8) (initialized : Bool)
  | openSection (opens : Bool)
  | close
  | join
  | closed
  /-- The next step of `PollLoop`. -/
  | poll (isConnected : Bool) (sample : GamepadSample)
  | onRumble (command : RumbleCommand)
  | rumbleTest (command : RumbleCommand)
  | rumbleStore (command : RumbleCommand)
  | rumbleIncrement (command : RumbleCommand)
  | bridge (a : BridgeLabel)

/-- The steps of the bridge that are a call of the device, or a callback. -/
def ofDevice : BridgeLabel → Bool
  | .openDevice _ | .stopCloses | .onState _ | .onDisconnected | .onRumble _ => true
  | _ => false

/-- A step of the device and the one of the bridge that goes with it. -/
def both (s : LocalPath) (pad : SdlInputBackend.State) (a : BridgeLabel) : Option LocalPath :=
  (s.bridge.step a).map fun bridge => { s with pad := pad, bridge := bridge }

def next (s : LocalPath) : Label → Option LocalPath
  | .open deviceId initialized =>
    if s.bridge.start = .opening then
      (s.pad.step (.open deviceId initialized true)).bind fun pad =>
        if pad.owner = .idle then s.both pad (.openDevice false) else some { s with pad := pad }
    else none
  | .openSection opens =>
    (s.pad.step (.openSection opens true)).bind fun pad =>
      s.both pad (.openDevice (PadPath.opened s.pad opens))
  | .close =>
    if s.bridge.stop = .closing then (s.pad.step .close).map fun pad => { s with pad := pad }
    else none
  | .join => (s.pad.step .join).map fun pad => { s with pad := pad }
  | .closed => (s.pad.step .closeSection).bind fun pad => s.both pad .stopCloses
  | .poll isConnected sample =>
    (s.pad.poll isConnected sample).bind fun pad =>
      match s.pad.thread with
      | .report _ held => s.both pad (.onState (readState held))
      | .disconnect _ => s.both pad .onDisconnected
      | _ => if s.bridge.poll = .idle then some { s with pad := pad } else none
  | .onRumble command =>
    (s.bridge.step (.onRumble command)).map fun bridge =>
      if (s.bridge.core.onRumble command).2 then
        { s with
          bridge := bridge
          commands := s.commands ++ [command]
          rumbling := command :: s.rumbling }
      else { s with bridge := bridge }
  | .rumbleTest command =>
    if command ∈ s.rumbling then
      (s.pad.step (.rumbleTest command)).map fun pad =>
        { s with pad := pad, rumbling := s.rumbling.erase command }
    else none
  | .rumbleStore command =>
    (s.pad.step (.rumbleStore command)).map fun pad => { s with pad := pad }
  | .rumbleIncrement command =>
    (s.pad.step (.rumbleIncrement command)).map fun pad => { s with pad := pad }
  | .bridge a => if ofDevice a then none else s.both s.pad a

def system : System LocalPath Label where
  init := {}
  next := next

/-- `Stop()` is called when `Start()` has returned. -/
def StopsLater (s : LocalPath) : Label → Prop
  | .bridge a => s.bridge.StopsLater a
  | _ => True

instance (s : LocalPath) : ∀ a : Label, Decidable (StopsLater s a)
  | .bridge a => inferInstanceAs (Decidable (s.bridge.StopsLater a))
  | .open _ _ | .openSection _ | .close | .join | .closed | .poll _ _ | .onRumble _
  | .rumbleTest _ | .rumbleStore _ | .rumbleIncrement _ => .isTrue trivial

variable {s t : LocalPath} {a : Label}

/-! ### A step, in its parts -/

/-- **What a step does**: it moves the device, the bridge or both, and only a callback is a
report.  What the callers of `SetRumble` store was commanded, and the poll thread reads no
sample in the middle of a callback. -/
inductive Moves (s t : LocalPath) : Label → Prop
  | pad {a b} (step : s.pad.step b = some t.pad) (reported : t.pad.reported = s.pad.reported)
      (bridge : t.bridge = s.bridge)
      (tested : ∀ command, b = .rumbleTest command → command ∈ s.rumbling)
      (commands : t.commands = s.commands)
      (rumbling : ∀ command ∈ t.rumbling, command ∈ s.rumbling)
      (pending : t.pad.thread.pending = s.pad.thread.pending ∨ s.bridge.poll = .idle) :
      Moves s t a
  | callback {a b state} (step : s.pad.step b = some t.pad)
      (reported : t.pad.reported = s.pad.reported ++ [state])
      (bridge : s.bridge.step (.onState state) = some t.bridge)
      (tested : ∀ command, b ≠ .rumbleTest command) (commands : t.commands = s.commands)
      (rumbling : t.rumbling = s.rumbling) (pending : t.pad.thread.pending = []) : Moves s t a
  | both {a b c} (step : s.pad.step b = some t.pad) (reported : t.pad.reported = s.pad.reported)
      (bridge : s.bridge.step c = some t.bridge) (noReport : ∀ state, c ≠ .onState state)
      (noStop : c ≠ .stop) (noRumble : ∀ command, c ≠ .onRumble command)
      (tested : ∀ command, b ≠ .rumbleTest command) (commands : t.commands = s.commands)
      (rumbling : t.rumbling = s.rumbling)
      (pending : t.pad.thread.pending = s.pad.thread.pending ∧ c ≠ .onDisconnected ∨
        t.pad.thread.pending = []) : Moves s t a
  | bridge {c} (pad : t.pad = s.pad) (bridge : s.bridge.step c = some t.bridge)
      (own : ofDevice c = false) (commands : t.commands = s.commands)
      (rumbling : t.rumbling = s.rumbling) : Moves s t (.bridge c)
  | rumble {a command} (pad : t.pad = s.pad)
      (bridge : s.bridge.step (.onRumble command) = some t.bridge)
      (taken : (s.bridge.core.onRumble command).2 = true)
      (commands : t.commands = s.commands ++ [command])
      (rumbling : t.rumbling = command :: s.rumbling) : Moves s t a
  | ignored {a command} (pad : t.pad = s.pad)
      (bridge : s.bridge.step (.onRumble command) = some t.bridge)
      (left : (s.bridge.core.onRumble command).2 = false) (commands : t.commands = s.commands)
      (rumbling : t.rumbling = s.rumbling) : Moves s t a

theorem both_eq {pad : SdlInputBackend.State} {c : BridgeLabel} (h : s.both pad c = some t) :
    t.pad = pad ∧ s.bridge.step c = some t.bridge ∧ t.commands = s.commands ∧
      t.rumbling = s.rumbling := by
  obtain ⟨bridge, hb, rfl⟩ := Option.map_eq_some_iff.mp h
  exact ⟨rfl, hb, rfl, rfl⟩

theorem moves_of_next (h : s.next a = some t) : Moves s t a := by
  cases a with
  | «open» deviceId initialized =>
    simp only [next, Option.ite_none_right_eq_some, Option.bind_eq_some_iff] at h
    obtain ⟨_, pad, hpad, h⟩ := h
    obtain ⟨_, hreported, hpending⟩ :=
      SdlInputBackend.State.other_step hpad fun _ _ he => by cases he
    split at h
    · obtain ⟨rfl, hbridge, hc, hr⟩ := both_eq h
      exact .both hpad hreported hbridge (by simp) (by simp) (by simp) (by simp) hc hr
        (.inl ⟨hpending, by simp⟩)
    · obtain rfl := Option.some.inj h
      exact .pad hpad hreported rfl (by simp) rfl (fun _ hm => hm) (.inl hpending)
  | openSection opens =>
    obtain ⟨pad, hpad, h⟩ := Option.bind_eq_some_iff.mp h
    obtain ⟨_, hreported, hpending⟩ :=
      SdlInputBackend.State.other_step hpad fun _ _ he => by cases he
    obtain ⟨rfl, hbridge, hc, hr⟩ := both_eq h
    exact .both hpad hreported hbridge (by simp) (by simp) (by simp) (by simp) hc hr
      (.inl ⟨hpending, by simp⟩)
  | close =>
    simp only [next, Option.ite_none_right_eq_some, Option.map_eq_some_iff] at h
    obtain ⟨_, pad, hpad, rfl⟩ := h
    obtain ⟨_, hreported, hpending⟩ :=
      SdlInputBackend.State.other_step hpad fun _ _ he => by cases he
    exact .pad hpad hreported rfl (by simp) rfl (fun _ hm => hm) (.inl hpending)
  | closed =>
    obtain ⟨pad, hpad, h⟩ := Option.bind_eq_some_iff.mp h
    obtain ⟨_, hreported, hpending⟩ :=
      SdlInputBackend.State.other_step hpad fun _ _ he => by cases he
    obtain ⟨rfl, hbridge, hc, hr⟩ := both_eq h
    exact .both hpad hreported hbridge (by simp) (by simp) (by simp) (by simp) hc hr
      (.inl ⟨hpending, by simp⟩)
  | poll isConnected sample =>
    obtain ⟨pad, hpad, h⟩ := Option.bind_eq_some_iff.mp h
    have hstep : s.pad.step (.poll isConnected sample) = some pad := hpad
    rcases SdlInputBackend.State.poll_step hpad with ⟨g, held, hs, hpending, _, hreported⟩ |
      ⟨hnone, hreported, _⟩
    · simp only [hs] at h
      obtain ⟨rfl, hbridge, hc, hr⟩ := both_eq h
      exact .callback hstep hreported hbridge (by simp) hc hr hpending
    · split at h
      · rename_i hs
        rw [hs] at hnone
        cases hnone
      · rename_i g hs
        obtain ⟨rfl, hbridge, hc, hr⟩ := both_eq h
        have hpending : t.pad.thread.pending = [] := by
          simp only [SdlInputBackend.State.poll, hs, Option.some.injEq] at hpad
          rw [← hpad]
          rfl
        exact .both hstep hreported hbridge (by simp) (by simp) (by simp) (by simp) hc hr
          (.inr hpending)
      · simp only [Option.ite_none_right_eq_some, Option.some.injEq] at h
        obtain ⟨hidle, rfl⟩ := h
        exact .pad hstep hreported rfl (by simp) rfl (fun _ hm => hm) (.inr hidle)
  | onRumble command =>
    simp only [next, Option.map_eq_some_iff] at h
    obtain ⟨bridge, hbridge, rfl⟩ := h
    cases hon : (s.bridge.core.onRumble command).2 with
    | true =>
      rw [if_pos rfl]
      exact .rumble rfl hbridge hon rfl rfl
    | false =>
      rw [if_neg (by simp)]
      exact .ignored rfl hbridge hon rfl rfl
  | rumbleTest command =>
    simp only [next, Option.ite_none_right_eq_some, Option.map_eq_some_iff] at h
    obtain ⟨hm, pad, hpad, rfl⟩ := h
    obtain ⟨_, hreported, hpending⟩ :=
      SdlInputBackend.State.other_step hpad fun _ _ he => by cases he
    refine .pad hpad hreported rfl (fun other he => ?_) rfl (fun _ hm => List.mem_of_mem_erase hm)
      (.inl hpending)
    cases he
    exact hm
  | join | rumbleStore command | rumbleIncrement command =>
    obtain ⟨pad, hpad, rfl⟩ := Option.map_eq_some_iff.mp h
    obtain ⟨_, hreported, hpending⟩ :=
      SdlInputBackend.State.other_step hpad fun _ _ he => by cases he
    exact .pad hpad hreported rfl (by simp) rfl (fun _ hm => hm) (.inl hpending)
  | bridge c =>
    simp only [next, Option.ite_none_left_eq_some] at h
    obtain ⟨hc, h⟩ := h
    obtain ⟨hpad, hbridge, hcommands, hr⟩ := both_eq h
    exact .bridge hpad hbridge (by simpa using hc) hcommands hr

theorem not_report_of_own {c : BridgeLabel} (h : ofDevice c = false) :
    (∀ state, c ≠ .onState state) ∧ c ≠ .onDisconnected ∧ ∀ command, c ≠ .onRumble command := by
  refine ⟨?_, ?_, ?_⟩
  · rintro state rfl
    cases h
  · rintro rfl
    cases h
  · rintro command rfl
    cases h

/-! ### Runs -/

/-- The run of the device, and what its callers of `SetRumble` were given. -/
theorem pad_of_run {l : List Label} (h : system.RunWith StopsLater l s) :
    (∃ k, SdlInputBackend.system.Run k s.pad ∧
      ∀ command, .rumbleTest command ∈ k → command ∈ s.commands) ∧
      ∀ command ∈ s.rumbling, command ∈ s.commands := by
  refine h.invariant (P := fun _ s => (∃ k, SdlInputBackend.system.Run k s.pad ∧
    ∀ command, .rumbleTest command ∈ k → command ∈ s.commands) ∧
      ∀ command ∈ s.rumbling, command ∈ s.commands) ?_ ?_
  · exact ⟨⟨[], .refl, fun _ hm => absurd hm List.not_mem_nil⟩,
      fun _ hm => absurd hm List.not_mem_nil⟩
  · intro l s a t _ ⟨⟨k, hk, htested⟩, hrumbling⟩ _ hn
    have hsnoc : ∀ {b}, s.pad.step b = some t.pad →
        (∀ command, b = .rumbleTest command → command ∈ s.commands) →
        t.commands = s.commands → ∃ k, SdlInputBackend.system.Run k t.pad ∧
          ∀ command, .rumbleTest command ∈ k → command ∈ t.commands := by
      intro b hb htest hc
      refine ⟨k ++ [b], hk.snoc hb, fun command hm => ?_⟩
      rw [hc]
      rcases List.mem_append.mp hm with hm | hm
      · exact htested command hm
      · exact htest command (List.mem_singleton.mp hm).symm
    cases moves_of_next hn with
    | pad hpad _ _ htest hc hr _ =>
      refine ⟨hsnoc hpad (fun command he => hrumbling command (htest command he)) hc, ?_⟩
      rw [hc]
      exact fun command hm => hrumbling command (hr command hm)
    | callback hpad _ _ htest hc hr _ =>
      refine ⟨hsnoc hpad (fun command he => absurd he (htest command)) hc, ?_⟩
      rw [hc, hr]
      exact hrumbling
    | both hpad _ _ _ _ _ htest hc hr _ =>
      refine ⟨hsnoc hpad (fun command he => absurd he (htest command)) hc, ?_⟩
      rw [hc, hr]
      exact hrumbling
    | bridge hpad _ _ hc hr | ignored hpad _ _ hc hr =>
      rw [hpad, hc, hr]
      exact ⟨⟨k, hk, htested⟩, hrumbling⟩
    | rumble hpad _ _ hc hr =>
      rw [hpad, hc, hr]
      refine ⟨⟨k, hk, fun command hm => List.mem_append_left _ (htested command hm)⟩, ?_⟩
      intro command hm
      rcases List.mem_cons.mp hm with rfl | hm
      · exact List.mem_append_right _ (List.mem_singleton.mpr rfl)
      · exact List.mem_append_left _ (hrumbling command hm)

/-- What was reported to the bridge, and the commands that it shows. -/
theorem bridge_of_run {l : List Label} (h : system.RunWith StopsLater l s) :
    BridgeSide.Passes s.pad.reported s.bridge ∧
      s.bridge.core.rumble = (s.commands.getLast?.getD {}, .ofNat s.commands.length) := by
  refine h.invariant (P := fun _ s => BridgeSide.Passes s.pad.reported s.bridge ∧
    s.bridge.core.rumble = (s.commands.getLast?.getD {}, .ofNat s.commands.length))
    ⟨BridgeSide.passes_init, rfl⟩ ?_
  intro l s a t _ ⟨hpasses, hrumble⟩ hok hn
  cases moves_of_next hn with
  | pad _ hreported hbridge _ hc _ _ =>
    rw [hreported, hbridge, hc]
    exact ⟨hpasses, hrumble⟩
  | callback _ hreported hbridge _ hc _ _ =>
    rw [hreported, hc]
    exact ⟨hpasses.report hbridge, (BridgeSide.rumble_step hbridge (by simp)).trans hrumble⟩
  | @both _ _ c _ hreported hbridge hno hstop hother _ hc _ _ =>
    have hlater : s.bridge.StopsLater c := by
      cases c <;> first | exact absurd rfl hstop | trivial
    rw [hreported, hc]
    exact ⟨hpasses.step hlater hno hbridge, (BridgeSide.rumble_step hbridge hother).trans hrumble⟩
  | bridge hpad hbridge hown hc _ =>
    obtain ⟨hno, _, hother⟩ := not_report_of_own hown
    rw [hpad, hc]
    exact ⟨hpasses.step hok hno hbridge, (BridgeSide.rumble_step hbridge hother).trans hrumble⟩
  | @rumble _ command hpad hbridge hon hc _ =>
    rw [hpad, hc]
    refine ⟨hpasses.step (a := .onRumble command) trivial (by simp) hbridge, ?_⟩
    have hcount : s.bridge.core.rumbleCount = .ofNat s.commands.length := congrArg Prod.snd hrumble
    rw [← Option.some.inj hbridge, LocalControllerBridge.onRumble_taken hon, hcount,
      List.getLast?_concat, List.length_append, List.length_singleton, UInt64.ofNat_add]
    rfl
  | @ignored _ command hpad hbridge hon hc _ =>
    rw [hpad, hc]
    refine ⟨hpasses.step (a := .onRumble command) trivial (by simp) hbridge, ?_⟩
    rw [← Option.some.inj hbridge, LocalControllerBridge.onRumble_ignored hon]
    exact hrumble

/-- The poll thread has no sample in hand in the middle of a callback. -/
theorem quiet_of_run {l : List Label} (h : system.RunWith StopsLater l s) :
    s.bridge.poll ≠ .idle → s.pad.thread.pending = [] := by
  refine h.invariant (P := fun _ s => s.bridge.poll ≠ .idle → s.pad.thread.pending = [])
    (fun hp => absurd rfl hp) ?_
  intro l s a t _ hquiet _ hn hp
  cases moves_of_next hn with
  | pad _ _ hbridge _ _ _ hpending =>
    rw [hbridge] at hp
    rcases hpending with hsame | hidle
    · rw [hsame]
      exact hquiet hp
    · exact absurd hidle hp
  | callback _ _ _ _ _ _ hpending => exact hpending
  | both _ _ hbridge hno _ _ _ _ _ hpending =>
    rcases hpending with ⟨hsame, hdis⟩ | hnil
    · rw [hsame]
      exact hquiet (BridgeSide.polling_of_step hbridge hno hdis hp)
    · exact hnil
  | bridge hpad hbridge hown _ _ =>
    obtain ⟨hno, hdis, _⟩ := not_report_of_own hown
    rw [hpad]
    exact hquiet (BridgeSide.polling_of_step hbridge hno hdis hp)
  | rumble hpad hbridge _ _ _ | ignored hpad hbridge _ _ _ =>
    rw [hpad]
    exact hquiet (BridgeSide.polling_of_step hbridge (by simp) (by simp) hp)

/-- The reports that `SubmitState` was called with.  The neutral one that `Destroy` sends on
its own comes on top and is not counted. -/
def reports (s : LocalPath) : List XusbReport := s.bridge.submitted.map toXusbReport

/-- **What passes between the pads**, in both directions. -/
structure ShowsPad (s : LocalPath) : Prop where
  /-- `SubmitState` is given reports of the samples, from the first one on and without a gap,
  and at most two neutral ones at the end.  While the bridge is running only the latest sample may
  be missing. -/
  reports : ∃ n shown farewell, s.reports = shown ++ farewell ∧
    List.Forall₂ Faithful (s.pad.samples.take n) shown ∧ farewell.length ≤ 2 ∧
      (∀ report ∈ farewell, report = toXusbReport .neutral) ∧
        (s.bridge.core.state = .running → farewell = [] ∧ s.pad.samples.length ≤ n + 1)
  /-- The motors play what the driver commanded, for a second, or nothing. -/
  played : ∀ g command durationMs, .rumbleGamepad g command durationMs ∈ s.pad.events →
    command = {} ∧ durationMs = 0 ∨ durationMs = 1000 ∧ command ∈ s.commands
  /-- The snapshot shows the latest command, and how many there were, modulo `2 ^ 64`. -/
  rumble : s.bridge.core.rumble = (s.commands.getLast?.getD {}, .ofNat s.commands.length)

end LocalPath

/-- **From pad to pad on one computer.**  In every run in which `Stop()` is called after
`Start()` has returned, whatever SDL and the driver answer and the threads' order is. -/
theorem bridge_to_pad {l : List LocalPath.Label} {s : LocalPath}
    (h : LocalPath.system.RunWith LocalPath.StopsLater l s) : s.ShowsPad := by
  obtain ⟨⟨k, hpad, htested⟩, _⟩ := LocalPath.pad_of_run h
  obtain ⟨hpasses, hrumble⟩ := LocalPath.bridge_of_run h
  have hreported := SdlInputBackend.reports_of_run hpad
  refine ⟨?_, fun g command durationMs hm => ?_, hrumble⟩
  · obtain ⟨shown, farewell, hsubmitted, hprefix, hfare, hneutral, hrun⟩ :=
      hpasses.submitted (LocalPath.quiet_of_run h)
    have hsamples : shown <+: s.pad.samples.map readState :=
      hreported ▸ hprefix.trans (List.prefix_append _ _)
    have htake : (s.pad.samples.take shown.length).map readState = shown := by
      rw [List.map_take]
      exact (List.prefix_iff_eq_take.mp hsamples).symm
    refine ⟨shown.length, shown.map toXusbReport, farewell.map toXusbReport, ?_, ?_, ?_, ?_, ?_⟩
    · rw [LocalPath.reports, hsubmitted, List.map_append]
    · have hfaithful : List.Forall₂ Faithful (s.pad.samples.take shown.length)
          (((s.pad.samples.take shown.length).map readState).map toXusbReport) := by
        rw [List.map_map, List.forall₂_map_right_iff, List.forall₂_same]
        exact fun sample _ => sample_to_report.1 sample
      rwa [htake] at hfaithful
    · rw [List.length_map]
      exact hfare
    · intro report hm
      obtain ⟨state, hstate, rfl⟩ := List.mem_map.mp hm
      rw [hneutral state hstate]
    · intro hr
      obtain ⟨rfl, hlen⟩ := hrun hr
      refine ⟨rfl, ?_⟩
      have hlength := congrArg List.length hreported
      rw [List.length_append, List.length_map] at hlength
      rcases hlen with hlen | ⟨hnil, hlen⟩
      · have hone := s.pad.thread.length_pending
        omega
      · rw [hnil, List.length_nil] at hlength
        omega
  · rcases (device_contract hpad).played g command durationMs hm with hz | ⟨hd, hstore⟩
    · exact .inl hz
    · exact .inr ⟨hd, htested command (SdlInputBackend.tested_of_run hpad command hstore)⟩

/-- The button A is held down and the driver commands a rumble, then the bridge is stopped. -/
def LocalPath.heldAndRumbled : List LocalPath.Label :=
  [.bridge .startChecks, .bridge (.create true), .bridge .startRunning, .open [55] true,
      .openSection true] ++
    List.replicate 6 (.poll true PadPath.held) ++
    [.bridge (.submitState true), .bridge (.onStateAccepted 10), .onRumble ⟨257, 514⟩,
      .rumbleTest ⟨257, 514⟩, .rumbleStore ⟨257, 514⟩, .rumbleIncrement ⟨257, 514⟩] ++
    List.replicate 3 (.poll true PadPath.held) ++
    [.bridge .stop, .close, .poll true PadPath.held, .poll true PadPath.held, .join, .closed,
      .bridge (.stopReleases true), .bridge .stopDestroys]

theorem bridge_to_pad_held :
    ∃ s, LocalPath.system.RunWith LocalPath.StopsLater LocalPath.heldAndRumbled s ∧
      s.reports = [{ wButtons := XUSB_GAMEPAD_A }, {}] ∧
      s.commands = [⟨257, 514⟩] ∧ s.ShowsPad := by
  have hend : (LocalPath.system.execWith LocalPath.StopsLater LocalPath.system.init
      LocalPath.heldAndRumbled).map (fun s => (s.reports, s.commands)) =
        some ([{ wButtons := XUSB_GAMEPAD_A }, {}], [⟨257, 514⟩]) := rfl
  obtain ⟨s, hs, he⟩ := Option.map_eq_some_iff.mp hend
  have hrun := System.runWith_of_exec hs
  simp only [Prod.mk.injEq] at he
  exact ⟨s, hrun, he.1, he.2, bridge_to_pad hrun⟩

end RemoteController
