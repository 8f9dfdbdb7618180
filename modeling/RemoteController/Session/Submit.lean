import RemoteController.Loopback
import RemoteController.Session.State

/-!
# `Session` over its loopback transport

`SubmitState` is two critical sections: the sequence check under the session's
`mutex_`, then `SendState` under the transport's.  A call between the two is
`inFlight`; any number of calls may be, and the worker delivers meanwhile.  The
virtual controller is the one `Session` is built with, which takes every report
once it is created.

`Stop`, `OnDisconnected`, `Shutdown` and the watchdog may come at any moment
here; `Undisturbed` runs are those without them and without a refused
`SendState`.

* `Converged`: the session shows the highest sequence that a call submitted.
* `Overwrites`: a `SendState` is about to be written over a queued frame with a
  higher sequence.
* `submit_converges`: runs without such a step converge once they are quiet.
* `overwritten_loses_update`: a run with one does not.
-/

namespace RemoteController

open Lib Protocol

/-- The session, its transport, and the calls of `SubmitState` that passed the
check and have not reached the transport. -/
structure LoopbackSession where
  session : Session
  transport : LoopbackTransportBackend
  inFlight : List StateFrame := []
  deriving DecidableEq, Repr

namespace LoopbackSession

inductive Label where
  /-- The check of `SubmitState`, and its result. -/
  | submitState (frame : StateFrame) (result : Result)
  /-- The rest of a call in flight: `SendState`, and its result. -/
  | sendState (frame : StateFrame) (ok : Bool)
  | workerTake
  | onStateFrame (frame : StateFrame) (now : Nat)
  | watchdogRelease
  | onDisconnected
  | stop
  | shutdown
  deriving DecidableEq, Repr

def next (s : LoopbackSession) : Label → Option LoopbackSession
  | .submitState frame result =>
    if (s.session.submitStateLocked frame.sequence).2 = result then
      some { s with
        session := (s.session.submitStateLocked frame.sequence).1
        inFlight := if result = .ok then frame :: s.inFlight else s.inFlight }
    else none
  | .sendState frame ok =>
    if frame ∈ s.inFlight ∧ (s.transport.sendState frame).2 = ok then
      some { s with
        transport := (s.transport.sendState frame).1
        inFlight := s.inFlight.erase frame }
    else none
  | .workerTake =>
    (s.transport.next .workerTake).map fun transport => { s with transport := transport }
  | .onStateFrame frame now =>
    (s.transport.next (.callback frame)).map fun transport =>
      { s with transport := transport, session := s.session.onStateFrame frame true true now }
  | .watchdogRelease => some { s with session := s.session.watchdogRelease true }
  | .onDisconnected => some { s with session := s.session.onDisconnected true }
  | .stop => some { s with session := s.session.stopLocked true }
  | .shutdown => some { s with transport := s.transport.shutdown }

/-- From the moment `Start()` returned `kOk`. -/
def system : System LoopbackSession Label where
  init := { session := Session.started, transport := LoopbackTransportBackend.started }
  next := next

/-! ### The statement -/

/-- A step that is part of a submission or of its delivery, and is not refused by
a full queue. -/
def Label.undisturbed : Label → Bool
  | .submitState _ _ | .sendState _ true | .workerTake | .onStateFrame _ _ => true
  | _ => false

/-- No overflow, no watchdog timeout, no `Stop` and no disconnect. -/
def Undisturbed (l : List Label) : Prop := ∀ a ∈ l, a.undisturbed = true

instance (l : List Label) : Decidable (Undisturbed l) :=
  inferInstanceAs (Decidable (∀ a ∈ l, a.undisturbed = true))

/-- The frames whose `SubmitState` returned `kOk`. -/
def submitted (l : List Label) : List StateFrame :=
  l.filterMap fun
    | .sendState frame true => some frame
    | _ => none

/-- All calls have returned and the queue is drained. -/
def Quiet (s : LoopbackSession) : Prop :=
  s.inFlight = [] ∧ s.transport.pendingStates = [] ∧ s.transport.worker = .waiting

/-- The session shows the highest sequence for which `SubmitState` returned
`kOk`. -/
def Converged (l : List Label) (s : LoopbackSession) : Prop :=
  ∀ frame ∈ submitted l, (∀ f ∈ submitted l, f.sequence ≤ frame.sequence) →
    s.session.latestSequence = frame.sequence ∧ s.session.outputState = frame.state

/-- The step writes a frame over a queued one with the same button mask and a
higher sequence. -/
def Overwrites (s : LoopbackSession) : Label → Prop
  | .sendState frame _ => ∃ back ∈ s.transport.pendingStates.getLast?,
      back.state.buttonFlags = frame.state.buttonFlags ∧ frame.sequence < back.sequence
  | _ => False

/-! ### What a step can do -/

/-- The frames that the worker has still to deliver. -/
def queued (s : LoopbackSession) : List StateFrame := s.transport.inHand ++ s.transport.pendingStates

@[simp] theorem submitted_append (l m : List Label) :
    submitted (l ++ m) = submitted l ++ submitted m :=
  List.filterMap_append

/-- A frame that reaches a running session over a created controller is stale, or
is applied. -/
theorem onStateFrame_running {s : Session} (hs : s.state = .running)
    (hv : s.virtual.created = true) (frame : StateFrame) (now : Nat) :
    (s.acceptedStateCount ≠ 0 ∧ frame.sequence ≤ s.latestSequence ∧
      s.onStateFrame frame true true now = s) ∨
    ((s.acceptedStateCount ≠ 0 → s.latestSequence < frame.sequence) ∧
      s.onStateFrame frame true true now =
        { s with
          virtual := { s.virtual with lastReport := frame.state }
          outputState := frame.state
          latestSequence := frame.sequence
          acceptedStateCount := s.acceptedStateCount + 1
          lastInputTimestampUs := frame.timestampUs
          lastInputArrival := now
          watchdogArmed := true }) := by
  rcases s.onStateFrame_cases frame true true now with ⟨ha, he⟩ | ⟨_, hr, _, he⟩ | ⟨ha, hr, _⟩
  · left
    have hsub : (s.virtual.submitState frame.state true).2 = true := by
      simp [VirtualController.submitState, hv]
    have hr : s.refuses frame = true := by
      rw [Session.applies, hsub] at ha
      simpa using ha
    simp only [Session.refuses, hs, bne_self_eq_false, Bool.false_or, Bool.and_eq_true, bne_iff_ne,
      decide_eq_true_eq] at hr
    exact ⟨hr.1, hr.2, he⟩
  · right
    refine ⟨fun hc => ?_, he⟩
    simp only [Session.refuses, hs, bne_self_eq_false, Bool.false_or, Bool.and_eq_false_imp,
      bne_iff_ne, decide_eq_false_iff_not, UInt64.not_le] at hr
    exact hr hc
  · simp [Session.applies, hr, VirtualController.submitState, hv] at ha

/-- The check of `SubmitState` lets a higher sequence through, or changes
nothing. -/
theorem submitStateLocked_cases (s : Session) (sequence : UInt64) :
    ((s.submitStateLocked sequence).2 ≠ .ok ∧ (s.submitStateLocked sequence).1 = s) ∨
    ((s.hasSubmittedSequence = true → s.highestSubmittedSequence < sequence) ∧
      (s.submitStateLocked sequence).1 =
        { s with hasSubmittedSequence := true, highestSubmittedSequence := sequence }) := by
  rw [Session.submitStateLocked]
  split
  · exact Or.inl ⟨(fun h => by cases h), rfl⟩
  · split
    · exact Or.inl ⟨(fun h => by cases h), rfl⟩
    · rename_i hstale
      simp only [Bool.and_eq_true, decide_eq_true_eq, not_and, UInt64.not_le] at hstale
      exact Or.inr ⟨hstale, rfl⟩

/-- An accepted `SendState` that does not overwrite a higher sequence queues its
frame and leaves every queued sequence covered. -/
theorem sendState_queued {s t : LoopbackSession} {frame : StateFrame}
    (hok : (s.transport.sendState frame).2 = true) (hno : ¬ Overwrites s (.sendState frame true))
    (ht : t.transport = (s.transport.sendState frame).1) :
    frame ∈ queued t ∧ (∀ g ∈ queued t, g = frame ∨ g ∈ queued s) ∧
      (∀ g ∈ queued s, ∃ g' ∈ queued t, g.sequence ≤ g'.sequence) ∧
      t.transport.stopRequested = s.transport.stopRequested := by
  rcases s.transport.sendState_cases frame with ⟨_, he⟩ | ⟨rest, back, _, hp, hm, he⟩ |
    ⟨_, _, _, he⟩ | ⟨_, _, _, he⟩
  · simp [he] at hok
  · -- the overwritten frame is the newest one, and its sequence is not higher
    have hle : back.sequence ≤ frame.sequence := by
      rw [← UInt64.not_lt]
      intro hlt
      exact hno ⟨back, by simp [hp], hm, hlt⟩
    have hqs : queued s = s.transport.inHand ++ (rest ++ [back]) := by rw [queued, hp]
    have hqt : queued t = s.transport.inHand ++ (rest ++ [frame]) := by rw [queued, ht, he]; rfl
    refine ⟨by simp [hqt], ?_, ?_, by rw [ht, he]⟩
    · intro g hg
      simp only [hqt, hqs, List.mem_append, List.mem_singleton] at hg ⊢
      rcases hg with hg | hg | hg
      · exact Or.inr (Or.inl hg)
      · exact Or.inr (Or.inr (Or.inl hg))
      · exact Or.inl hg
    · intro g hg
      simp only [hqt, hqs, List.mem_append, List.mem_singleton] at hg ⊢
      rcases hg with hg | hg | rfl
      · exact ⟨g, Or.inl hg, UInt64.le_refl _⟩
      · exact ⟨g, Or.inr (Or.inl hg), UInt64.le_refl _⟩
      · exact ⟨frame, Or.inr (Or.inr rfl), hle⟩
  · simp [he] at hok
  · have hqt : queued t = queued s ++ [frame] := by
      rw [queued, queued, ht, he, List.append_assoc]; rfl
    refine ⟨by simp [hqt], ?_, ?_, by rw [ht, he]⟩
    · intro g hg
      rw [hqt, List.mem_append, List.mem_singleton] at hg
      exact hg.symm
    · intro g hg
      exact ⟨g, by rw [hqt]; exact List.mem_append_left _ hg, UInt64.le_refl _⟩

/-- The worker takes a frame without losing it. -/
theorem workerTake_queued {s t : LoopbackSession} (hn : s.next .workerTake = some t)
    (hstop : s.transport.stopRequested = false) :
    t.session = s.session ∧ t.inFlight = s.inFlight ∧ queued t = queued s ∧
      t.transport.stopRequested = false := by
  simp only [next, Option.map_eq_some_iff] at hn
  obtain ⟨u, hu, rfl⟩ := hn
  rw [LoopbackTransportBackend.next] at hu
  split at hu
  · rename_i hw
    simp only [LoopbackTransportBackend.workerTake, hstop, Bool.false_eq_true, if_false] at hu
    split at hu
    · cases hu
    · rename_i frame rest hp
      obtain rfl := Option.some.inj hu
      exact ⟨rfl, rfl, by simp [queued, LoopbackTransportBackend.inHand, hw, hp], rfl⟩
  · cases hu

/-- The worker delivers the oldest of the queued frames. -/
theorem onStateFrame_queued {s t : LoopbackSession} {frame : StateFrame} {now : Nat}
    (hn : s.next (.onStateFrame frame now) = some t) :
    t.session = s.session.onStateFrame frame true true now ∧ t.inFlight = s.inFlight ∧
      queued s = frame :: queued t ∧
      t.transport.stopRequested = s.transport.stopRequested := by
  simp only [next, Option.map_eq_some_iff] at hn
  obtain ⟨u, hu, rfl⟩ := hn
  rw [LoopbackTransportBackend.next] at hu
  split at hu
  · rename_i hw
    obtain rfl := Option.some.inj hu
    exact ⟨rfl, rfl, by simp [queued, LoopbackTransportBackend.inHand, hw], rfl⟩
  · cases hu

/-! ### The invariant -/

/-- What holds in every undisturbed run in which no frame was written over a
higher sequence. -/
structure Inv (l : List Label) (s : LoopbackSession) : Prop where
  running : s.session.state = .running
  created : s.session.virtual.created = true
  stop : s.transport.stopRequested = false
  /-- Every checked sequence is at most the highest one... -/
  checked : ∀ f ∈ submitted l ++ s.inFlight, s.session.hasSubmittedSequence = true ∧
    f.sequence ≤ s.session.highestSubmittedSequence
  /-- ...and no sequence passes the check twice. -/
  distinct : ((submitted l ++ s.inFlight).map StateFrame.sequence).Nodup
  queued_submitted : ∀ f ∈ queued s, f ∈ submitted l
  shown : s.session.acceptedStateCount ≠ 0 → ∃ f ∈ submitted l,
    s.session.latestSequence = f.sequence ∧ s.session.outputState = f.state
  /-- No submitted sequence is lost: it is not above the one shown, or not above
  one that is queued. -/
  covered : ∀ f ∈ submitted l,
    (s.session.acceptedStateCount ≠ 0 ∧ f.sequence ≤ s.session.latestSequence) ∨
      ∃ g ∈ queued s, f.sequence ≤ g.sequence

theorem inv_started : Inv [] system.init where
  running := rfl
  created := rfl
  stop := rfl
  checked := nofun
  distinct := .nil
  queued_submitted := nofun
  shown := nofun
  covered := nofun

theorem Inv.submitState {l : List Label} {s t : LoopbackSession} {frame : StateFrame}
    {result : Result} (h : Inv l s) (hn : s.next (.submitState frame result) = some t) :
    Inv (l ++ [.submitState frame result]) t := by
  have hl : submitted (l ++ [.submitState frame result]) = submitted l := by
    rw [submitted_append]; exact List.append_nil _
  simp only [next] at hn
  split at hn
  · rename_i hres
    obtain rfl := Option.some.inj hn
    rcases submitStateLocked_cases s.session frame.sequence with ⟨hne, he⟩ | ⟨hlt, he⟩
    · rw [if_neg (hres ▸ hne), he]
      exact ⟨h.running, h.created, h.stop, hl ▸ h.checked, hl ▸ h.distinct,
        hl ▸ h.queued_submitted, hl ▸ h.shown, hl ▸ h.covered⟩
    · rw [he]
      have hold : ∀ f ∈ submitted l ++ s.inFlight, f.sequence < frame.sequence := by
        intro f hf
        obtain ⟨hhas, hle⟩ := h.checked f hf
        exact UInt64.lt_of_le_of_lt hle (hlt hhas)
      by_cases hok : result = .ok
      · rw [if_pos hok]
        refine ⟨h.running, h.created, h.stop, ?_, ?_, hl ▸ h.queued_submitted, hl ▸ h.shown,
          hl ▸ h.covered⟩
        · intro f hf
          refine ⟨rfl, ?_⟩
          rw [hl, List.mem_append, List.mem_cons] at hf
          rcases hf with hf | rfl | hf
          · exact UInt64.le_of_lt (hold f (List.mem_append_left _ hf))
          · exact UInt64.le_refl _
          · exact UInt64.le_of_lt (hold f (List.mem_append_right _ hf))
        · rw [hl]
          show ((submitted l ++ frame :: s.inFlight).map StateFrame.sequence).Nodup
          rw [(List.perm_middle.map StateFrame.sequence).nodup_iff, List.map_cons,
            List.nodup_cons]
          refine ⟨?_, h.distinct⟩
          intro hmem
          obtain ⟨f, hf, hseq⟩ := List.mem_map.mp hmem
          have := hold f hf
          rw [hseq] at this
          exact UInt64.lt_irrefl _ this
      · rw [if_neg hok]
        refine ⟨h.running, h.created, h.stop, ?_, hl ▸ h.distinct, hl ▸ h.queued_submitted,
          hl ▸ h.shown, hl ▸ h.covered⟩
        intro f hf
        rw [hl] at hf
        exact ⟨rfl, UInt64.le_of_lt (hold f hf)⟩
  · cases hn

theorem Inv.sendState {l : List Label} {s t : LoopbackSession} {frame : StateFrame}
    (h : Inv l s) (hno : ¬ Overwrites s (.sendState frame true))
    (hn : s.next (.sendState frame true) = some t) : Inv (l ++ [.sendState frame true]) t := by
  have hl : submitted (l ++ [.sendState frame true]) = submitted l ++ [frame] :=
    submitted_append _ _
  simp only [next] at hn
  split at hn
  · rename_i hguard
    obtain ⟨hmem, hok⟩ := hguard
    have ht : t.transport = (s.transport.sendState frame).1 := by rw [← Option.some.inj hn]
    obtain ⟨hnew, hsub, hcov, hstop⟩ := sendState_queued hok hno ht
    obtain rfl := Option.some.inj hn
    have hperm : (submitted l ++ [frame] ++ s.inFlight.erase frame).Perm
        (submitted l ++ s.inFlight) := by
      rw [List.append_assoc]
      exact (List.perm_cons_erase hmem).symm.append_left _
    refine ⟨h.running, h.created, hstop.trans h.stop, ?_, ?_, ?_, ?_, ?_⟩
    · intro f hf
      rw [hl] at hf
      exact h.checked f (hperm.mem_iff.mp hf)
    · rw [hl, (hperm.map _).nodup_iff]
      exact h.distinct
    · intro f hf
      rw [hl, List.mem_append, List.mem_singleton]
      rcases hsub f hf with rfl | hf
      · exact Or.inr rfl
      · exact Or.inl (h.queued_submitted f hf)
    · intro hc
      obtain ⟨f, hf, hshown⟩ := h.shown hc
      exact ⟨f, by rw [hl]; exact List.mem_append_left _ hf, hshown⟩
    · intro f hf
      rw [hl, List.mem_append, List.mem_singleton] at hf
      rcases hf with hf | rfl
      · rcases h.covered f hf with hshown | ⟨g, hg, hle⟩
        · exact Or.inl hshown
        · obtain ⟨g', hg', hle'⟩ := hcov g hg
          exact Or.inr ⟨g', hg', UInt64.le_trans hle hle'⟩
      · exact Or.inr ⟨f, hnew, UInt64.le_refl _⟩
  · cases hn

theorem Inv.workerTake {l : List Label} {s t : LoopbackSession} (h : Inv l s)
    (hn : s.next .workerTake = some t) : Inv (l ++ [.workerTake]) t := by
  have hl : submitted (l ++ [.workerTake]) = submitted l := by
    rw [submitted_append]; exact List.append_nil _
  obtain ⟨hs, hf, hq, hstop⟩ := workerTake_queued hn h.stop
  constructor
  · rw [hs]; exact h.running
  · rw [hs]; exact h.created
  · exact hstop
  · rw [hl, hs, hf]; exact h.checked
  · rw [hl, hf]; exact h.distinct
  · rw [hl, hq]; exact h.queued_submitted
  · rw [hl, hs]; exact h.shown
  · rw [hl, hs, hq]; exact h.covered

theorem Inv.onStateFrame {l : List Label} {s t : LoopbackSession} {frame : StateFrame} {now : Nat}
    (h : Inv l s) (hn : s.next (.onStateFrame frame now) = some t) :
    Inv (l ++ [.onStateFrame frame now]) t := by
  have hl : submitted (l ++ [.onStateFrame frame now]) = submitted l := by
    rw [submitted_append]; exact List.append_nil _
  obtain ⟨hs, hf, hq, hstop⟩ := onStateFrame_queued hn
  have hframe : frame ∈ submitted l := h.queued_submitted frame (by rw [hq]; exact List.mem_cons_self)
  have hsub : ∀ f ∈ queued t, f ∈ submitted l := by
    intro f hf
    exact h.queued_submitted f (by rw [hq]; exact List.mem_cons_of_mem _ hf)
  rcases onStateFrame_running h.running h.created frame now with ⟨hc, hle, he⟩ | ⟨hgt, he⟩
  · rw [he] at hs
    refine ⟨by rw [hs]; exact h.running, by rw [hs]; exact h.created, hstop.trans h.stop,
      by rw [hl, hs, hf]; exact h.checked, by rw [hl, hf]; exact h.distinct, by rw [hl]; exact hsub,
      by rw [hl, hs]; exact h.shown, ?_⟩
    rw [hl, hs]
    intro f hf
    rcases h.covered f hf with hshown | ⟨g, hg, hle'⟩
    · exact Or.inl hshown
    · rw [hq, List.mem_cons] at hg
      rcases hg with rfl | hg
      · exact Or.inl ⟨hc, UInt64.le_trans hle' hle⟩
      · exact Or.inr ⟨g, hg, hle'⟩
  · rw [he] at hs
    refine ⟨by rw [hs]; exact h.running, by rw [hs]; exact h.created, hstop.trans h.stop,
      by rw [hl, hs, hf]; exact h.checked, by rw [hl, hf]; exact h.distinct, by rw [hl]; exact hsub,
      ?_, ?_⟩
    · rw [hl, hs]
      exact fun _ => ⟨frame, hframe, rfl, rfl⟩
    · rw [hl, hs]
      intro f hf
      rcases h.covered f hf with ⟨hc, hle⟩ | ⟨g, hg, hle⟩
      · exact Or.inl ⟨Nat.succ_ne_zero _, UInt64.le_trans hle (UInt64.le_of_lt (hgt hc))⟩
      · rw [hq, List.mem_cons] at hg
        rcases hg with rfl | hg
        · exact Or.inl ⟨Nat.succ_ne_zero _, hle⟩
        · exact Or.inr ⟨g, hg, hle⟩

theorem inv_run {l : List Label} {s : LoopbackSession}
    (h : system.RunWith (fun s a => ¬ Overwrites s a) l s) : Undisturbed l → Inv l s := by
  refine System.RunWith.invariant (P := fun l s => Undisturbed l → Inv l s)
    (fun _ => inv_started) ?_ h
  intro l s a t _ ih hno hn hu
  have hi := ih fun b hb => hu b (List.mem_append_left _ hb)
  have ha : a.undisturbed = true := hu a (List.mem_append_right _ (List.mem_singleton_self a))
  cases a with
  | submitState frame result => exact hi.submitState hn
  | sendState frame ok =>
    cases ok with
    | true => exact hi.sendState hno hn
    | false => cases ha
  | workerTake => exact hi.workerTake hn
  | onStateFrame frame now => exact hi.onStateFrame hn
  | watchdogRelease | onDisconnected | stop | shutdown => cases ha

/-- **Concurrent submissions converge** in every undisturbed run in which no frame
is written over a higher sequence. -/
theorem submit_converges {l : List Label} {s : LoopbackSession}
    (h : system.RunWith (fun s a => ¬ Overwrites s a) l s) (hu : Undisturbed l) (hq : Quiet s) :
    Converged l s := by
  have hi := inv_run h hu
  obtain ⟨_, hpending, hworker⟩ := hq
  have hqueued : queued s = [] := by
    simp [queued, LoopbackTransportBackend.inHand, hpending, hworker]
  intro frame hframe hmax
  rcases hi.covered frame hframe with ⟨hc, hle⟩ | ⟨g, hg, _⟩
  · obtain ⟨f, hf, hseq, hstate⟩ := hi.shown hc
    have heq : frame.sequence = f.sequence :=
      UInt64.le_antisymm (hseq ▸ hle) (hmax f hf)
    have hnodup : ((submitted l).map StateFrame.sequence).Nodup :=
      hi.distinct.sublist (by rw [List.map_append]; exact List.sublist_append_left _ _)
    obtain rfl := List.inj_on_of_nodup_map hnodup hframe hf heq
    exact ⟨hseq, hstate⟩
  · rw [hqueued] at hg
    cases hg

/-! ### Two calls at once -/

instance (s : LoopbackSession) : (a : Label) → Decidable (Overwrites s a)
  | .sendState frame _ => inferInstanceAs (Decidable (∃ back ∈ s.transport.pendingStates.getLast?,
      back.state.buttonFlags = frame.state.buttonFlags ∧ frame.sequence < back.sequence))
  | .submitState _ _ | .workerTake | .onStateFrame _ _ | .watchdogRelease | .onDisconnected |
    .stop | .shutdown => inferInstanceAs (Decidable False)

/-- A frame with no button pressed and the left stick at `lx`. -/
def stickFrame (lx : Int16) (sequence : UInt64) : StateFrame :=
  { state := { leftStickX := lx }, sequence := sequence }

/-- Two calls pass the check and enqueue in the order `first`, `second`; then the
worker delivers the one frame left. -/
def twoCalls (first second : StateFrame) : List Label :=
  [.submitState (stickFrame 100 1) .ok, .submitState (stickFrame 200 2) .ok,
    .sendState first true, .sendState second true, .workerTake, .onStateFrame second 5]

theorem submit_converges_twoCalls :
    ∃ s, Converged (twoCalls (stickFrame 100 1) (stickFrame 200 2)) s ∧
      s.session.latestSequence = 2 :=
  ⟨_, submit_converges (System.runWith_of_exec rfl) (by decide) ⟨rfl, rfl, rfl⟩, rfl⟩

/-- **An update is lost** when the call with the higher sequence enqueues first:
both calls return `kOk`, and the session ends on the older one. -/
theorem overwritten_loses_update :
    ¬ ∀ l s, system.Run l s → Undisturbed l → Quiet s → Converged l s := by
  intro h
  have hlast := h (twoCalls (stickFrame 200 2) (stickFrame 100 1)) _ (System.run_of_exec rfl)
    (by decide) ⟨rfl, rfl, rfl⟩ (stickFrame 200 2) (by decide) (by decide)
  exact absurd hlast.1 (by decide)

end LoopbackSession

end RemoteController
