import RemoteController.Backends
import RemoteController.Lib.Coalesce
import RemoteController.Lib.Transition

/-!
# `LoopbackTransportBackend`

The transport of the loopback diagnostic: `SendState` queues a frame, or writes
it over the newest queued one when their button masks agree, and a worker thread
hands the queue to the state callback, oldest frame first.

Every call is one step, since it is one section under `mutex_`; the worker takes
two, as it calls back without the lock.  A session starts its transport once, so
the model ends where `Shutdown` would join the worker.

* `sendState_cases`: the four outcomes of `SendState`.
* `Inv`, `inv_run`: the shape of the queue, in every reachable state.
* `coalesces_run`: what is delivered and pending is what was accepted, coalesced
  by button mask.
* `loopback_keeps_edges`: so no button edge is lost, in any interleaving.
-/

namespace RemoteController

open Lib Protocol

/-- Where the worker thread is.  `holding`: it popped a frame and has not called
back yet. -/
inductive LoopbackWorker where
  | none
  | waiting
  | holding (frame : StateFrame)
  | finished
  deriving DecidableEq, Repr

structure LoopbackTransportBackend where
  pendingStates : List StateFrame := []
  worker : LoopbackWorker := .none
  accepting : Bool := false
  stopRequested : Bool := false
  deriving DecidableEq, Repr

namespace LoopbackTransportBackend

def kMaximumQueuedFrames : Nat := 64

/-! ### The calls -/

/-- `Start`, given whether the state callback is set. -/
def start (b : LoopbackTransportBackend) (stateCallback : Bool) :
    LoopbackTransportBackend × Bool :=
  if b.accepting || b.worker != .none || !stateCallback then (b, false)
  else
    ({ b with pendingStates := [], stopRequested := false, accepting := true, worker := .waiting },
      true)

/-- The newest queued frame has the button mask of `frame`. -/
def matchesBack (b : LoopbackTransportBackend) (frame : StateFrame) : Bool :=
  match b.pendingStates.getLast? with
  | some back => back.state.buttonFlags == frame.state.buttonFlags
  | none => false

def sendState (b : LoopbackTransportBackend) (frame : StateFrame) :
    LoopbackTransportBackend × Bool :=
  if !b.accepting then (b, false)
  else if b.matchesBack frame then
    ({ b with pendingStates := b.pendingStates.dropLast ++ [frame] }, true)
  else if kMaximumQueuedFrames ≤ b.pendingStates.length then (b, false)
  else ({ b with pendingStates := b.pendingStates ++ [frame] }, true)

/-- The first locked section of `Shutdown`. -/
def shutdown (b : LoopbackTransportBackend) : LoopbackTransportBackend :=
  if !b.accepting && b.worker == .none then b
  else { b with accepting := false, stopRequested := true, pendingStates := [] }

/-- The locked section of `WorkerLoop`, when its wait is over: leave, or take the
oldest frame. -/
def workerTake (b : LoopbackTransportBackend) : Option LoopbackTransportBackend :=
  if b.stopRequested then some { b with worker := .finished }
  else
    match b.pendingStates with
    | [] => none
    | frame :: rest => some { b with pendingStates := rest, worker := .holding frame }

/-- **The outcomes of `SendState`.** -/
theorem sendState_cases (b : LoopbackTransportBackend) (frame : StateFrame) :
    (b.accepting = false ∧ b.sendState frame = (b, false)) ∨
    (∃ rest back, b.accepting = true ∧ b.pendingStates = rest ++ [back] ∧
      back.state.buttonFlags = frame.state.buttonFlags ∧
      b.sendState frame = ({ b with pendingStates := rest ++ [frame] }, true)) ∨
    (b.accepting = true ∧ kMaximumQueuedFrames ≤ b.pendingStates.length ∧
      (∀ back ∈ b.pendingStates.getLast?, back.state.buttonFlags ≠ frame.state.buttonFlags) ∧
      b.sendState frame = (b, false)) ∨
    (b.accepting = true ∧ b.pendingStates.length < kMaximumQueuedFrames ∧
      (∀ back ∈ b.pendingStates.getLast?, back.state.buttonFlags ≠ frame.state.buttonFlags) ∧
      b.sendState frame = ({ b with pendingStates := b.pendingStates ++ [frame] }, true)) := by
  by_cases ha : b.accepting = true
  · right
    by_cases hm : b.matchesBack frame = true
    · left
      have hs : b.sendState frame =
          ({ b with pendingStates := b.pendingStates.dropLast ++ [frame] }, true) := by
        simp [sendState, ha, hm]
      rw [matchesBack] at hm
      split at hm
      · rename_i back hback
        obtain ⟨rest, hrest⟩ := List.getLast?_eq_some_iff.mp hback
        refine ⟨rest, back, ha, hrest, by simpa using hm, ?_⟩
        rw [hs, hrest, List.dropLast_concat]
      · cases hm
    · right
      have hne : ∀ back ∈ b.pendingStates.getLast?,
          back.state.buttonFlags ≠ frame.state.buttonFlags := by
        intro back hback
        rw [matchesBack, Option.mem_def.mp hback] at hm
        simpa using hm
      by_cases hl : kMaximumQueuedFrames ≤ b.pendingStates.length
      · exact Or.inl ⟨ha, hl, hne, by simp [sendState, ha, hm, hl]⟩
      · exact Or.inr ⟨ha, Nat.lt_of_not_le hl, hne, by simp [sendState, ha, hm, hl]⟩
  · left
    exact ⟨by simpa using ha, by simp [sendState, ha]⟩

/-! ### The threads -/

/-- The calls carry what they returned, and `callback` the frame it was called
with, so that a run shows what was accepted and what was delivered. -/
inductive Label where
  | start (stateCallback : Bool)
  | sendState (frame : StateFrame) (ok : Bool)
  | shutdown
  | workerTake
  | callback (frame : StateFrame)
  deriving DecidableEq, Repr

def next (b : LoopbackTransportBackend) : Label → Option LoopbackTransportBackend
  | .start stateCallback => some (b.start stateCallback).1
  | .sendState frame ok =>
    if (b.sendState frame).2 = ok then some (b.sendState frame).1 else none
  | .shutdown => some b.shutdown
  | .workerTake => if b.worker = .waiting then b.workerTake else none
  | .callback frame =>
    if b.worker = .holding frame then some { b with worker := .waiting } else none

/-- The backend after a `Start` that returned true. -/
def started : LoopbackTransportBackend := (start {} true).1

theorem start_ok : (start {} true).2 = true := rfl

def system : System LoopbackTransportBackend Label where
  init := started
  next := next

/-- The frames for which `SendState` returned true, oldest first. -/
def accepted (l : List Label) : List StateFrame :=
  l.filterMap fun
    | .sendState frame true => some frame
    | _ => none

/-- The frames the state callback was called with, oldest first. -/
def delivered (l : List Label) : List StateFrame :=
  l.filterMap fun
    | .callback frame => some frame
    | _ => none

/-- The frame the worker has popped and not delivered yet. -/
def inHand (b : LoopbackTransportBackend) : List StateFrame :=
  match b.worker with
  | .holding frame => [frame]
  | _ => []

def buttonMask (frame : StateFrame) : UInt32 := frame.state.buttonFlags

@[simp] theorem accepted_append (l m : List Label) : accepted (l ++ m) = accepted l ++ accepted m :=
  List.filterMap_append

@[simp] theorem delivered_append (l m : List Label) :
    delivered (l ++ m) = delivered l ++ delivered m :=
  List.filterMap_append

/-- **What a step can do.**  The first case is a call that changes nothing. -/
theorem next_cases {b c : LoopbackTransportBackend} {a : Label} (h : b.next a = some c) :
    (c = b ∧ accepted [a] = [] ∧ delivered [a] = []) ∨
    (∃ stateCallback, a = .start stateCallback ∧ b.accepting = false ∧ c.pendingStates = []) ∨
    (∃ frame, a = .sendState frame true ∧ (b.sendState frame).2 = true ∧
      c = (b.sendState frame).1) ∨
    (a = .shutdown ∧ c.pendingStates = []) ∨
    (a = .workerTake ∧ b.stopRequested = true ∧ c.pendingStates = b.pendingStates) ∨
    (∃ frame rest, a = .workerTake ∧ b.worker = .waiting ∧ b.pendingStates = frame :: rest ∧
      c = { b with pendingStates := rest, worker := .holding frame }) ∨
    (∃ frame, a = .callback frame ∧ b.worker = .holding frame ∧
      c = { b with worker := .waiting }) := by
  cases a with
  | start stateCallback =>
    obtain rfl := Option.some.inj h
    rw [start]
    split
    · exact Or.inl ⟨rfl, rfl, rfl⟩
    · rename_i hg
      simp only [Bool.or_eq_true, not_or] at hg
      exact Or.inr (Or.inl ⟨stateCallback, rfl, by simpa using hg.1.1, rfl⟩)
  | sendState frame ok =>
    simp only [next] at h
    split at h
    · rename_i hok
      obtain rfl := Option.some.inj h
      cases ok with
      | true => exact Or.inr (Or.inr (Or.inl ⟨frame, rfl, hok, rfl⟩))
      | false =>
        left
        rcases b.sendState_cases frame with ⟨_, he⟩ | ⟨_, _, _, _, _, he⟩ | ⟨_, _, _, he⟩ | ⟨_, _, _, he⟩
        · exact ⟨by rw [he], rfl, rfl⟩
        · simp [he] at hok
        · exact ⟨by rw [he], rfl, rfl⟩
        · simp [he] at hok
    · cases h
  | shutdown =>
    obtain rfl := Option.some.inj h
    rw [shutdown]
    split
    · exact Or.inl ⟨rfl, rfl, rfl⟩
    · exact Or.inr (Or.inr (Or.inr (Or.inl ⟨rfl, rfl⟩)))
  | workerTake =>
    simp only [next] at h
    split at h
    · rename_i hw
      rw [workerTake] at h
      split at h
      · rename_i hs
        obtain rfl := Option.some.inj h
        exact Or.inr (Or.inr (Or.inr (Or.inr (Or.inl ⟨rfl, hs, rfl⟩))))
      · split at h
        · cases h
        · rename_i frame rest hp
          exact Or.inr (Or.inr (Or.inr (Or.inr (Or.inr (Or.inl
            ⟨frame, rest, rfl, hw, hp, (Option.some.inj h).symm⟩)))))
    · cases h
  | callback frame =>
    simp only [next] at h
    split at h
    · rename_i hw
      exact Or.inr (Or.inr (Or.inr (Or.inr (Or.inr (Or.inr
        ⟨frame, rfl, hw, (Option.some.inj h).symm⟩)))))
    · cases h

/-! ### The queue -/

/-- The shape of the queue. -/
structure Inv (b : LoopbackTransportBackend) : Prop where
  length_le : b.pendingStates.length ≤ kMaximumQueuedFrames
  edges : (b.pendingStates.map buttonMask).IsChain (· ≠ ·)

theorem Inv.of_nil {b : LoopbackTransportBackend} (h : b.pendingStates = []) : Inv b :=
  ⟨by rw [h]; exact Nat.zero_le _, by rw [h]; exact .nil⟩

theorem Inv.sendState {b : LoopbackTransportBackend} (h : Inv b) (frame : StateFrame) :
    Inv (b.sendState frame).1 := by
  rcases b.sendState_cases frame with ⟨_, he⟩ | ⟨rest, back, _, hp, hm, he⟩ | ⟨_, _, _, he⟩ |
    ⟨_, hl, hm, he⟩
  · rw [he]; exact h
  · have hmask : (rest ++ [frame]).map buttonMask = b.pendingStates.map buttonMask := by
      simp [hp, buttonMask, hm]
    rw [he]
    constructor
    · have := h.length_le
      rw [hp] at this
      simpa using this
    · simp only [hmask]
      exact h.edges
  · rw [he]; exact h
  · rw [he]
    constructor
    · show (b.pendingStates ++ [frame]).length ≤ kMaximumQueuedFrames
      rw [List.length_append, List.length_singleton]
      omega
    · simp only [List.map_append, List.map_cons, List.map_nil, List.isChain_append]
      refine ⟨h.edges, .singleton _, ?_⟩
      intro x hx y hy
      obtain rfl : buttonMask frame = y := by simpa using hy
      rw [List.getLast?_map, Option.mem_def, Option.map_eq_some_iff] at hx
      obtain ⟨back, hback, rfl⟩ := hx
      exact hm back hback

theorem inv_run {l : List Label} {b : LoopbackTransportBackend} (h : system.Run l b) : Inv b := by
  refine System.Run.invariant (P := fun _ b => Inv b) (Inv.of_nil rfl) ?_ h
  intro l b a c _ ih hn
  rcases next_cases hn with ⟨rfl, _, _⟩ | ⟨_, _, _, hp⟩ | ⟨frame, _, _, rfl⟩ | ⟨_, hp⟩ |
    ⟨_, _, hp⟩ | ⟨frame, rest, _, _, hp, rfl⟩ | ⟨frame, _, _, rfl⟩
  · exact ih
  · exact Inv.of_nil hp
  · exact ih.sendState frame
  · exact Inv.of_nil hp
  · exact ⟨by rw [hp]; exact ih.length_le, by rw [hp]; exact ih.edges⟩
  · have hlen := ih.length_le
    have hchain := ih.edges
    rw [hp] at hlen hchain
    rw [List.length_cons] at hlen
    exact ⟨by simp only; omega, hchain.tail⟩
  · exact ⟨ih.length_le, ih.edges⟩

/-! ### Nothing but equal masks is coalesced -/

/-- Until `Shutdown`, what was delivered, is being delivered and is pending is
what was accepted, coalesced by button mask. -/
theorem coalesces_run {l : List Label} {b : LoopbackTransportBackend} (h : system.Run l b) :
    .shutdown ∉ l → b.accepting = true ∧ b.stopRequested = false ∧
      Coalesces buttonMask (accepted l) (delivered l ++ b.inHand ++ b.pendingStates) := by
  induction h with
  | refl => intro _; exact ⟨rfl, rfl, .nil⟩
  | @snoc l b c a _ hn ih =>
    intro hns
    rw [List.mem_append, List.mem_singleton, not_or] at hns
    obtain ⟨hacc, hstop, hco⟩ := ih hns.1
    rcases next_cases hn with ⟨rfl, ha, hd⟩ | ⟨_, rfl, hna, _⟩ | ⟨frame, rfl, hok, rfl⟩ |
      ⟨rfl, _⟩ | ⟨_, hs, _⟩ | ⟨frame, rest, rfl, hw, hp, rfl⟩ | ⟨frame, rfl, hw, rfl⟩
    · rw [accepted_append, delivered_append, ha, hd, List.append_nil, List.append_nil]
      exact ⟨hacc, hstop, hco⟩
    · rw [hacc] at hna; cases hna
    · have haccepted : accepted [Label.sendState frame true] = [frame] := rfl
      have hdelivered : delivered [Label.sendState frame true] = [] := rfl
      rw [accepted_append, delivered_append, haccepted, hdelivered, List.append_nil]
      rcases b.sendState_cases frame with ⟨_, he⟩ | ⟨rest, back, _, hp, hm, he⟩ | ⟨_, _, _, he⟩ |
        ⟨_, _, _, he⟩
      · simp [he] at hok
      · rw [he]
        refine ⟨hacc, hstop, ?_⟩
        rw [hp, ← List.append_assoc] at hco
        rw [← List.append_assoc]
        exact hco.overwrite hm
      · simp [he] at hok
      · rw [he]
        refine ⟨hacc, hstop, ?_⟩
        rw [← List.append_assoc]
        exact hco.push frame
    · exact absurd rfl hns.2
    · rw [hstop] at hs; cases hs
    · refine ⟨hacc, hstop, ?_⟩
      simpa [accepted, delivered, inHand, hw, hp] using hco
    · refine ⟨hacc, hstop, ?_⟩
      simpa [accepted, delivered, inHand, hw] using hco

/-- **The loopback loses no button edge**, for the labels `l` taken and the state
`b` reached. -/
structure KeepsEdges (l : List Label) (b : LoopbackTransportBackend) : Prop where
  sublist : .shutdown ∉ l →
    (delivered l ++ b.inHand ++ b.pendingStates).Sublist (accepted l)
  runEnds_sublist : .shutdown ∉ l →
    (runEnds buttonMask (accepted l)).Sublist (delivered l ++ b.inHand ++ b.pendingStates)
  /-- Each accepted frame that is not among them stood directly before one with
  its mask. -/
  coalesces : .shutdown ∉ l →
    Coalesces buttonMask (accepted l) (delivered l ++ b.inHand ++ b.pendingStates)
  masks : .shutdown ∉ l →
    ((delivered l ++ b.inHand ++ b.pendingStates).map buttonMask).destutter (· ≠ ·) =
      ((accepted l).map buttonMask).destutter (· ≠ ·)
  last : .shutdown ∉ l → b.inHand = [] → b.pendingStates = [] →
    (delivered l).getLast? = (accepted l).getLast?
  length_le : b.pendingStates.length ≤ kMaximumQueuedFrames
  edges : (b.pendingStates.map buttonMask).IsChain (· ≠ ·)
  refused : ∀ frame, (b.sendState frame).2 = false → (b.sendState frame).1 = b ∧
    (b.accepting = false ∨ b.pendingStates.length = kMaximumQueuedFrames ∧
      ∀ back ∈ b.pendingStates.getLast?, buttonMask back ≠ buttonMask frame)

theorem loopback_keeps_edges {l : List Label} {b : LoopbackTransportBackend}
    (h : system.Run l b) : KeepsEdges l b where
  sublist hs := (coalesces_run h hs).2.2.sublist
  runEnds_sublist hs := (coalesces_run h hs).2.2.runEnds_sublist
  coalesces hs := (coalesces_run h hs).2.2
  masks hs := (coalesces_run h hs).2.2.destutter_eq
  last hs hh hp := by
    have hlast := (coalesces_run h hs).2.2.getLast?_eq
    rwa [hh, hp, List.append_nil, List.append_nil] at hlast
  length_le := (inv_run h).length_le
  edges := (inv_run h).edges
  refused frame hf := by
    rcases b.sendState_cases frame with ⟨ha, he⟩ | ⟨_, _, _, _, _, he⟩ | ⟨_, hl, hm, he⟩ |
      ⟨_, _, _, he⟩
    · exact ⟨by rw [he], Or.inl ha⟩
    · simp [he] at hf
    · exact ⟨by rw [he], Or.inr ⟨Nat.le_antisymm (inv_run h).length_le hl, hm⟩⟩
    · simp [he] at hf

/-- A frame with button mask `mask`, as the submission `sequence`. -/
def maskedFrame (mask : UInt32) (sequence : UInt64) : StateFrame :=
  { state := { buttonFlags := mask }, sequence := sequence }

/-- Press, press, release: the second press is written over the first, which the
worker has not taken yet, and the release is queued behind it. -/
def pressRelease : List Label :=
  [.sendState (maskedFrame 1 1) true, .sendState (maskedFrame 1 2) true,
    .sendState (maskedFrame 0 3) true, .workerTake, .callback (maskedFrame 1 2)]

theorem loopback_keeps_edges_pressRelease :
    KeepsEdges pressRelease { started with pendingStates := [maskedFrame 0 3] } :=
  loopback_keeps_edges (System.run_of_exec rfl)

end LoopbackTransportBackend

end RemoteController
