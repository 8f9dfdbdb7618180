import Mathlib.Algebra.Order.Group.Multiset
import RemoteController.Lib.Places
import RemoteController.Lib.Transition
import RemoteController.Udp.Handshake

/-!
# The sockets of a backend

`StartClient` and `StartServer` with every socket they get and close, beside any
number of callers of `Stop()` (the destructor is one).  One step is one call that may
fail, one load of `stop_requested_`, or one section under `mutex_`.  A socket is named
by the call that returned it, so a handle that the system hands out again is a new name.

* `Sockets`: the three fields that keep a socket, and the calls made so far.
* `Kept`: every open socket is in one field or one local variable.
* `ClientPhase.starter`, `ServerPhase.starter`: the thread in `StartClient` or `StartServer`.
* `client_sockets_closed`: no socket of a client is left open.
* `server_sockets_closed`: one of a server is, after one way to meet a `Stop()`, and no other.

The calls that use a socket are not in the log: a thread may use one that `Stop()` has
closed, and gets an error for it.
-/

namespace RemoteController

open Lib Protocol

/-- A call that opens or closes a socket, with what it returned. -/
inductive SocketCall where
  | socket (result : Option Nat)
  | accept (result : Option Nat)
  | shutdown (handle : Nat)
  | closesocket (handle : Nat)
  deriving DecidableEq, Repr

def SocketCall.handle : SocketCall → Option Nat
  | .socket result | .accept result => result
  | .shutdown handle | .closesocket handle => some handle

def SocketCall.onHandle : SocketCall → Option Effect
  | .socket _ | .accept _ => some .acquire
  | .shutdown _ => some .use
  | .closesocket _ => some .release

def socketLedger : Ledger SocketCall Nat := ⟨SocketCall.handle, SocketCall.onHandle⟩

/-- Every socket there was is closed. -/
def AllClosed (calls : List SocketCall) : Prop :=
  ∀ h, socketLedger.acquires h calls = socketLedger.releases h calls

/-- `control_socket_`, `input_socket_` and `listener_socket_`, and what was done to
the system: `created` counts the sockets there were, which names the next. -/
structure Sockets where
  control : Option Nat := none
  input : Option Nat := none
  listener : Option Nat := none
  created : Nat := 0
  calls : List SocketCall := []
  deriving DecidableEq, Repr

namespace Sockets

def call (s : Sockets) (calls : List SocketCall) : Sockets := { s with calls := s.calls ++ calls }

/-- A call, `socket` or `accept`, that returns a socket. -/
def opened (s : Sockets) (call : Option Nat → SocketCall) : Sockets :=
  { s with created := s.created + 1, calls := s.calls ++ [call (some s.created)] }

/-- The calls of `CloseSocket`. -/
def closeSocket : Option Nat → List SocketCall
  | none => []
  | some handle => [.shutdown handle, .closesocket handle]

def closeControl (s : Sockets) : Sockets := { s with control := none }.call (closeSocket s.control)

def closeInput (s : Sockets) : Sockets := { s with input := none }.call (closeSocket s.input)

def closeListener (s : Sockets) : Sockets :=
  { s with listener := none }.call (closeSocket s.listener)

/-- The section of `Stop()`. -/
def closeAll (s : Sockets) : Sockets := s.closeListener.closeControl.closeInput

/-- The section after a failure: `if (control_socket_ == control) CloseSocket(control_socket_)`. -/
def dropControl (s : Sockets) (control : Nat) : Sockets :=
  if s.control = some control then s.closeControl else s

/-- The sockets in the fields. -/
def fields (s : Sockets) : Multiset Nat :=
  place s.control + place s.input + place s.listener

/-! ### Where the open sockets are -/

/-- Every open socket is in one field, or is one of `locals`. -/
structure Kept (s : Sockets) (locals : Multiset Nat) : Prop where
  keeps : socketLedger.Keeps (s.fields + locals) s.calls
  named : ∀ e ∈ s.calls, ∀ n, e.handle = some n → n < s.created

variable {s : Sockets} {locals : Multiset Nat} {h : Nat}

theorem kept_init : Kept {} 0 := ⟨Ledger.keeps_nil, by simp⟩

theorem Kept.opened (hk : s.Kept locals) {call : Option Nat → SocketCall}
    (hc : call = .socket ∨ call = .accept) : (s.opened call).Kept (s.created ::ₘ locals) := by
  have hname : (call (some s.created)).handle = some s.created := by
    rcases hc with rfl | rfl <;> rfl
  have honly : ∀ e ∈ [call (some s.created)], ∀ n, e.handle = some n → n = s.created := by
    intro e he n hn
    obtain rfl := List.mem_singleton.mp he
    exact Option.some.inj (hn.symm.trans hname)
  constructor
  · have hnew : ∀ e ∈ s.calls, socketLedger.names e ≠ some s.created := fun e he hn =>
      absurd (hk.named e he _ hn) (lt_irrefl _)
    have hw : socketLedger.walk s.created .fresh [call (some s.created)] = some .held := by
      rcases hc with rfl | rfl <;> exact Ledger.walk_of_names (.inl rfl) rfl
    have hkeeps := hk.keeps.acquire hnew honly hw
    rwa [← Multiset.add_cons] at hkeeps
  · intro e he n hn
    rcases List.mem_append.mp he with he | he
    · exact Nat.lt_succ_of_lt (hk.named e he n hn)
    · rw [honly e he n hn]
      exact Nat.lt_succ_self _

/-- A call that fails opens nothing. -/
theorem Kept.failed (hk : s.Kept locals) {e : SocketCall} (he : e.handle = none) :
    (s.call [e]).Kept locals := by
  constructor
  · refine hk.keeps.idle fun e' he' => ?_
    obtain rfl := List.mem_singleton.mp he'
    exact he
  · intro e' he' n hn
    rcases List.mem_append.mp he' with he' | he'
    · exact hk.named e' he' n hn
    · obtain rfl := List.mem_singleton.mp he'
      exact absurd (he.symm.trans hn) (by simp)

/-- A socket that is open is closed, by calls that name no other. -/
theorem Kept.closes {t : Sockets} {held : Multiset Nat} {calls : List SocketCall}
    (hk : s.Kept locals) (ht : t.calls = s.calls ++ calls) (hc : t.created = s.created)
    (hf : s.fields + locals = h ::ₘ (t.fields + held))
    (hcalls : calls = closeSocket (some h) ∨ calls = [.closesocket h]) : t.Kept held := by
  have hkeeps := hk.keeps
  rw [hf] at hkeeps
  have hlt : h < s.created := by
    obtain ⟨e, he, hn⟩ := hkeeps.walked.named (Multiset.mem_cons_self h _)
    exact hk.named e he h hn
  have honly : ∀ e ∈ calls, e.handle = some h := by
    rcases hcalls with rfl | rfl <;> simp [closeSocket, SocketCall.handle]
  constructor
  · rw [ht]
    refine hkeeps.release (fun e he n hn => ?_) ?_
    · exact Option.some.inj (hn.symm.trans (honly e he))
    · rcases hcalls with rfl | rfl
      · exact (Ledger.walk_of_names (.inl rfl) rfl).trans (Ledger.walk_of_names (.inl rfl) rfl)
      · exact Ledger.walk_of_names (.inl rfl) rfl
  · rw [ht, hc]
    intro e he n hn
    rcases List.mem_append.mp he with he | he
    · exact hk.named e he n hn
    · obtain rfl : h = n := Option.some.inj ((honly e he).symm.trans hn)
      exact hlt

theorem closeControl_of_none (hc : s.control = none) : s.closeControl = s := by
  cases s
  simp only at hc
  simp [closeControl, call, closeSocket, hc]

theorem closeInput_of_none (hc : s.input = none) : s.closeInput = s := by
  cases s
  simp only at hc
  simp [closeInput, call, closeSocket, hc]

theorem closeListener_of_none (hc : s.listener = none) : s.closeListener = s := by
  cases s
  simp only at hc
  simp [closeListener, call, closeSocket, hc]

theorem Kept.closeControl (hk : s.Kept locals) : s.closeControl.Kept locals := by
  cases hc : s.control with
  | none => rwa [closeControl_of_none hc]
  | some c =>
    refine hk.closes (by rw [← hc]; rfl) rfl ?_ (.inl rfl)
    rw [fields, hc, ← Multiset.singleton_add]
    simp only [fields, Sockets.closeControl, call, place_none, place_some, Multiset.zero_add]
    ac_rfl

theorem Kept.closeInput (hk : s.Kept locals) : s.closeInput.Kept locals := by
  cases hc : s.input with
  | none => rwa [closeInput_of_none hc]
  | some c =>
    refine hk.closes (by rw [← hc]; rfl) rfl ?_ (.inl rfl)
    rw [fields, hc, ← Multiset.singleton_add]
    simp only [fields, Sockets.closeInput, call, place_none, place_some, Multiset.add_zero]
    ac_rfl

theorem Kept.closeListener (hk : s.Kept locals) : s.closeListener.Kept locals := by
  cases hc : s.listener with
  | none => rwa [closeListener_of_none hc]
  | some c =>
    refine hk.closes (by rw [← hc]; rfl) rfl ?_ (.inl rfl)
    rw [fields, hc, ← Multiset.singleton_add]
    simp only [fields, Sockets.closeListener, call, place_none, place_some, Multiset.add_zero]
    ac_rfl

theorem Kept.closeAll (hk : s.Kept locals) : s.closeAll.Kept locals :=
  hk.closeListener.closeControl.closeInput

theorem Kept.dropControl (hk : s.Kept locals) (c : Nat) : (s.dropControl c).Kept locals := by
  rw [Sockets.dropControl]
  split
  · exact hk.closeControl
  · exact hk

/-- A local socket is closed. -/
theorem Kept.closeLocal (hk : s.Kept (h ::ₘ locals)) {calls : List SocketCall}
    (hcalls : calls = closeSocket (some h) ∨ calls = [.closesocket h]) :
    (s.call calls).Kept locals :=
  hk.closes rfl rfl (Multiset.add_cons h s.fields locals) hcalls

@[simp] theorem closeAll_control : s.closeAll.control = none := rfl

@[simp] theorem closeAll_input : s.closeAll.input = none := rfl

@[simp] theorem closeAll_listener : s.closeAll.listener = none := rfl

/-- The calls close everything just if nothing is in a place. -/
theorem Kept.allClosed_iff (hk : s.Kept locals) : AllClosed s.calls ↔ s.fields + locals = 0 :=
  hk.keeps.all_released_iff

end Sockets

/-! ### A starting thread beside the callers of `Stop()` -/

/-- A backend and the phase of the thread that starts it.  `stopping` counts the callers of
`Stop()` that are before its section. -/
structure Starting (φ : Type) where
  phase : φ
  sockets : Sockets := {}
  stopRequested : Bool := false
  stopping : Nat := 0
  deriving DecidableEq, Repr

inductive StartAct (α : Type) where
  /-- The next step of the starting thread, and the answer it gets. -/
  | starter (answer : α)
  | stopExchange
  | stopClose
  deriving DecidableEq, Repr

/-- What the starting thread does in a phase, from the fields and `stop_requested_`. -/
abbrev Starter (φ α : Type) := Sockets → Bool → φ → α → Option (Sockets × φ)

namespace Starting

variable {φ α : Type}

def step (starter : Starter φ α) (s : Starting φ) : StartAct α → Option (Starting φ)
  | .starter answer =>
    (starter s.sockets s.stopRequested s.phase answer).map fun (sockets, phase) =>
      { s with sockets := sockets, phase := phase }
  | .stopExchange => some { s with stopRequested := true, stopping := s.stopping + 1 }
  | .stopClose =>
    if 0 < s.stopping then
      some { s with stopping := s.stopping - 1, sockets := s.sockets.closeAll }
    else none

def system (init : φ) (starter : Starter φ α) : System (Starting φ) (StartAct α) where
  init := { phase := init }
  next := step starter

/-- Where a starting thread has its sockets: `locals` are in its local variables, and
`shape` says which fields keep one. -/
structure Discipline (init : φ) (starter : Starter φ α) where
  locals : φ → Multiset Nat
  shape : φ → Sockets → Bool → Prop
  locals_init : locals init = 0
  shape_init : shape init {} false
  /-- `Stop()` may close the fields at any time. -/
  shape_stop : ∀ {p s b}, shape p s b → shape p s true
  shape_closed : ∀ p (s : Sockets), shape p s.closeAll true
  step : ∀ {p s b a t q}, s.Kept (locals p) → shape p s b → starter s b p a = some (t, q) →
    t.Kept (locals q) ∧ shape q t b

variable {init : φ} {starter : Starter φ α}

structure Inv (D : Discipline init starter) (s : Starting φ) : Prop where
  kept : s.sockets.Kept (D.locals s.phase)
  shape : D.shape s.phase s.sockets s.stopRequested
  stopping : 0 < s.stopping → s.stopRequested = true

theorem Inv.next (D : Discipline init starter) {s t : Starting φ} {a : StartAct α}
    (hi : s.Inv D) (hn : step starter s a = some t) : t.Inv D := by
  cases a with
  | starter answer =>
    obtain ⟨⟨sockets, phase⟩, hs, rfl⟩ := Option.map_eq_some_iff.mp hn
    obtain ⟨hk, hsh⟩ := D.step hi.kept hi.shape hs
    exact ⟨hk, hsh, hi.stopping⟩
  | stopExchange =>
    obtain rfl := Option.some.inj hn
    exact ⟨hi.kept, D.shape_stop hi.shape, fun _ => rfl⟩
  | stopClose =>
    simp only [step] at hn
    split at hn
    · rename_i hpos
      obtain rfl := Option.some.inj hn
      have hstop := hi.stopping hpos
      refine ⟨hi.kept.closeAll, ?_, fun _ => hstop⟩
      rw [hstop]
      exact D.shape_closed _ _
    · cases hn

theorem Inv.of_run (D : Discipline init starter) {l : List (StartAct α)} {s : Starting φ}
    (h : (system init starter).Run l s) : s.Inv D :=
  h.invariant (P := fun _ s => s.Inv D)
    ⟨by rw [show (system init starter).init.phase = init from rfl, D.locals_init]
        exact Sockets.kept_init, D.shape_init, fun h => absurd h (lt_irrefl _)⟩
    fun _ _ _ _ _ hi hn => hi.next D hn

/-- **Once the starting thread has returned**, a `Stop()` leaves no field with a socket,
and none gets one again. -/
theorem fields_of_path {p : φ} (hdone : ∀ s b a, starter s b p a = none) {s t : Starting φ}
    {l : List (StartAct α)} (hp : s.phase = p) (h : (system init starter).Path s l t) :
    t.phase = p ∧ (.stopClose ∈ l → t.sockets.fields = 0) := by
  induction h with
  | refl => exact ⟨hp, fun h => absurd h List.not_mem_nil⟩
  | @snoc l t u a _ hn ih =>
    obtain ⟨ht, hc⟩ := ih
    cases a with
    | starter answer =>
      obtain ⟨_, hs, _⟩ := Option.map_eq_some_iff.mp hn
      rw [ht, hdone] at hs
      cases hs
    | stopExchange =>
      obtain rfl := Option.some.inj hn
      exact ⟨ht, fun hm => hc (by simpa using hm)⟩
    | stopClose =>
      simp only [system, step] at hn
      split at hn
      · obtain rfl := Option.some.inj hn
        exact ⟨ht, fun _ => by simp [Sockets.fields]⟩
      · cases hn

end Starting

end RemoteController
