import RemoteController.Lib.Transfer
import RemoteController.Udp.Control

/-!
# `SendAll` and `ReceiveAll`

The two loops that move a control frame over the TCP connection, and one direction
of the connection with all the threads that use it: at one end the starting thread,
the control loop and `Stop()`, which send, and at the other end the starting thread
and, behind it, the control loop, which receive.

One step is one call of `send` or `recv`, a lock or an unlock of
`control_send_mutex_`, or one access to `connected_`, `stop_requested_` or
`control_socket_`.  What the calls return is in the labels: `send` anything up to
what it was asked for, and `recv` anything up to what it was asked for and has
arrived.  The connection keeps the bytes and their order.  What a control loop does
between its frames is not modelled, nor which frames they are.

* `sendAll`, `receiveAll`: the loops, as instances of `Lib.moveAll`.
* `Exclusive`: what the lock and `connected_` are for; `Exclusive.alone`: no two
  threads are in `SendAll`.
-/

namespace RemoteController

open Lib Protocol

namespace Framing

/-! ### The two loops -/

/-- `send(socket, bytes + sent, ...)` returns `result`: so much is under way. -/
def handOver (data : List UInt8) (sent result : Int) (wire : List UInt8) : List UInt8 :=
  wire ++ (data.drop sent.toNat).take result.toNat

/-- `recv(socket, bytes + received, ...)` returns `result`: so much of what is under
way is stored. -/
def store (received result : Int) : List UInt8 × List UInt8 → List UInt8 × List UInt8
  | (bytes, wire) =>
    (bytes.take received.toNat ++ wire.take result.toNat ++
        bytes.drop (received.toNat + result.toNat),
      wire.drop result.toNat)

/-- `SendAll`, on what the calls of `send` return. -/
def sendAll (send : Nat → Int) (data : List UInt8) (length : Int) (wire : List UInt8) :
    Moved (List UInt8) :=
  moveAll (handOver data) send (.test length 0) wire

/-- `ReceiveAll`, on what the calls of `recv` return. -/
def receiveAll (recv : Nat → Int) (bytes : List UInt8) (length : Int) (wire : List UInt8) :
    Moved (List UInt8 × List UInt8) :=
  moveAll store recv (.test length 0) (bytes, wire)

/-! ### The threads -/

inductive Writer where
  | starting
  | controlLoop
  | stop
  deriving DecidableEq, Repr

/-- A `SendAll` of one frame. -/
structure SendAll where
  frame : PlaintextControlFrameV1
  transfer : Transfer 32 := .test 32 0
  deriving DecidableEq, Repr

/-- The starting thread, from the connection on.  It sends HELLO or HELLO_ACK without
the lock; `joined`: it has set `connected_`; in `abandoned` it found a `Stop()` then. -/
inductive Starting where
  | connection
  | sending (call : SendAll)
  | greeted
  | checked
  | joined
  | done
  | failed
  | abandoned
  deriving DecidableEq, Repr

/-- The control loop: at its `while`, with a frame or without in front of
`control_send_mutex_`, in `SendAll`, behind a `SendAll` that failed, or at its end. -/
inductive Looping where
  | none
  | top
  | body
  | locking (frame : PlaintextControlFrameV1)
  | sending (call : SendAll)
  | sendFailed
  | reading
  | left
  deriving DecidableEq, Repr

/-- The first caller of `Stop()`, up to where it closes the sockets. -/
inductive Stopping where
  | idle
  | exchanged
  | locking (frame : PlaintextControlFrameV1)
  | locked (frame : PlaintextControlFrameV1)
  | sending (call : SendAll)
  | finished
  deriving DecidableEq, Repr

/-- The receiving end.  In a `ReceiveAll` it has a frame's worth of bytes of which
`received` have been stored. -/
inductive Receiving where
  | idle
  | receiving (bytes : List UInt8) (received : Int) (left : received < 32)
  | failed
  deriving DecidableEq, Repr

/-- `isOpen`: `control_socket_` is not closed.  The last four fields are not the code's:
the frames in the order in which their `SendAll` began, the bytes that `recv` returned,
the frames that `ReceiveAll` returned, and the lengths that `send` and `recv` were
given. -/
structure State where
  starting : Starting := .connection
  loop : Looping := .none
  stop : Stopping := .idle
  mutex : Option Writer := none
  stopRequested : Bool := false
  connected : Bool := false
  isOpen : Bool := true
  wire : List UInt8 := []
  receiver : Receiving := .idle
  begun : List PlaintextControlFrameV1 := []
  consumed : List UInt8 := []
  returned : List (List UInt8) := []
  asked : List Int := []
  deriving DecidableEq, Repr

inductive Label where
  -- the starting thread
  | beginGreeting (frame : PlaintextControlFrameV1)
  | greetingSent
  | startFails
  | checkStop
  | setConnected
  | startLoop
  -- the control loop
  | loopTest
  | loopFrame (frame : PlaintextControlFrameV1)
  | loopNothing
  | loopLock
  | loopUnlock
  | loopSignals
  | loopReads (goesOn : Bool)
  -- `Stop()`, by its first caller, and what any caller does at its end
  | stopExchange
  | stopConnected (frame : PlaintextControlFrameV1)
  | stopLock
  | stopSocket
  | stopUnlock
  | close
  -- `SignalDisconnected` of another thread
  | disconnects
  -- the calls of the socket
  | send (writer : Writer) (result : Int)
  | beginReceive
  | recv (result : Int)
  deriving DecidableEq, Repr

namespace State

variable (s : State)

/-- The `SendAll` that a thread is in. -/
def call : Writer → Option SendAll
  | .starting => match s.starting with | .sending call => some call | _ => none
  | .controlLoop => match s.loop with | .sending call => some call | _ => none
  | .stop => match s.stop with | .sending call => some call | _ => none

def setCall (call : SendAll) : Writer → State
  | .starting => { s with starting := .sending call }
  | .controlLoop => { s with loop := .sending call }
  | .stop => { s with stop := .sending call }

/-- The threads of the writing side, without their calls of `send`. -/
def writes : Label → Option State
  | .beginGreeting frame =>
    if s.starting = .connection then
      some { s with starting := .sending { frame := frame }, begun := s.begun ++ [frame] }
    else none
  | .greetingSent =>
    match s.starting with
    | .sending ⟨_, .returned ok⟩ =>
      if ok then some { s with starting := .greeted }
      else some { s with starting := .failed, connected := false, isOpen := false }
    | _ => none
  | .startFails =>
    if s.starting = .greeted then
      some { s with starting := .failed, connected := false, isOpen := false }
    else none
  | .checkStop =>
    if s.starting = .greeted then
      if s.stopRequested then some { s with starting := .failed, isOpen := false }
      else some { s with starting := .checked }
    else none
  | .setConnected =>
    if s.starting = .checked then some { s with starting := .joined, connected := true } else none
  | .startLoop =>
    if s.starting = .joined then
      if s.stopRequested then
        some { s with starting := .abandoned, connected := false, isOpen := false }
      else some { s with starting := .done, loop := .top }
    else none
  | .loopTest =>
    if s.loop = .top then
      some { s with loop := if !s.stopRequested && s.connected then .body else .left }
    else none
  | .loopFrame frame => if s.loop = .body then some { s with loop := .locking frame } else none
  | .loopNothing => if s.loop = .body then some { s with loop := .reading } else none
  | .loopLock =>
    match s.loop, s.mutex with
    | .locking frame, none =>
      some { s with
        mutex := some .controlLoop
        loop := .sending { frame := frame }
        begun := s.begun ++ [frame] }
    | _, _ => none
  | .loopUnlock =>
    match s.loop with
    | .sending ⟨_, .returned ok⟩ =>
      some { s with mutex := none, loop := if ok then .reading else .sendFailed }
    | _ => none
  | .loopSignals =>
    if s.loop = .sendFailed then some { s with loop := .left, connected := false } else none
  | .loopReads goesOn =>
    if s.loop = .reading then
      if goesOn then some { s with loop := .top }
      else some { s with loop := .left, connected := false }
    else none
  | .stopExchange =>
    if s.stop = .idle then some { s with stop := .exchanged, stopRequested := true } else none
  | .stopConnected frame =>
    if s.stop = .exchanged then
      some { s with stop := if s.connected then .locking frame else .finished }
    else none
  | .stopLock =>
    match s.stop, s.mutex with
    | .locking frame, none => some { s with mutex := some .stop, stop := .locked frame }
    | _, _ => none
  | .stopSocket =>
    match s.stop with
    | .locked frame =>
      if s.isOpen then
        some { s with stop := .sending { frame := frame }, begun := s.begun ++ [frame] }
      else some { s with mutex := none, stop := .finished }
    | _ => none
  | .stopUnlock =>
    match s.stop with
    | .sending ⟨_, .returned _⟩ => some { s with mutex := none, stop := .finished }
    | _ => none
  | .close =>
    if s.stopRequested then some { s with connected := false, isOpen := false } else none
  | .disconnects => some { s with connected := false }
  | .send _ _ | .beginReceive | .recv _ => none

/-- A call of `send` by the thread `writer` returns `result`. -/
def send (writer : Writer) (result : Int) : Option State :=
  match s.call writer with
  | some ⟨frame, .calling sent left⟩ =>
    if result ≤ 32 - sent then
      let s := s.setCall ⟨frame, .answer result (.calling sent left)⟩ writer
      some { s with
        wire := if result ≤ 0 then s.wire else handOver frame.toBytes sent result s.wire
        asked := s.asked ++ [32 - sent] }
    else none
  | _ => none

/-- A call of `recv` returns `result`.  A `ReceiveAll` that is done returns with it. -/
def recv (result : Int) : Option State :=
  match s.receiver with
  | .receiving bytes received left =>
    if result ≤ 32 - received ∧ result ≤ s.wire.length then
      let s := { s with asked := s.asked ++ [32 - received] }
      match Transfer.answer result (.calling received left) with
      | .returned false => some { s with receiver := .failed }
      | .returned true =>
        let (bytes, wire) := store received result (bytes, s.wire)
        some { s with
          receiver := .idle
          wire := wire
          consumed := s.consumed ++ s.wire.take result.toNat
          returned := s.returned ++ [bytes] }
      | .calling received' left' =>
        let (bytes, wire) := store received result (bytes, s.wire)
        some { s with
          receiver := .receiving bytes received' left'
          wire := wire
          consumed := s.consumed ++ s.wire.take result.toNat }
    else none
  | _ => none

def next : Label → Option State
  | .send writer result => s.send writer result
  | .beginReceive =>
    if s.receiver = .idle then
      some { s with receiver := .receiving (List.replicate 32 0) 0 (by decide) }
    else none
  | .recv result => s.recv result
  | a => s.writes a

end State

def system : System State Label where
  init := {}
  next := State.next

/-! ### One thread at a time -/

/-- `connected_` has not been set. -/
def Starting.early : Starting → Bool
  | .connection | .sending _ | .greeted | .checked | .failed => true
  | .joined | .done | .abandoned => false

def Looping.holds : Looping → Bool
  | .sending _ => true
  | _ => false

def Stopping.holds : Stopping → Bool
  | .locked _ | .sending _ => true
  | _ => false

/-- `Stop()` has not found `connected_`, or is past its `SendAll`. -/
def Stopping.outside : Stopping → Bool
  | .idle | .exchanged | .finished => true
  | _ => false

/-- **What keeps two threads from sending at once**: the starting thread has no lock,
but what it sends comes before `connected_`; the other two have the lock. -/
structure Exclusive (s : State) : Prop where
  early : s.starting.early = true → s.connected = false ∧ s.stop.outside = true
  thread : s.loop ≠ .none → s.starting = .done
  loop : s.loop.holds = true → s.mutex = some .controlLoop
  stop : s.stop.holds = true → s.mutex = some .stop

/-- Which of the three threads takes the step, with the calls of the sockets as a
fourth.  The last two steps of `Stop()` are those of any caller and of any thread. -/
inductive Actor where
  | starting
  | controlLoop
  | stop
  | socket
  deriving DecidableEq

def Label.actor : Label → Actor
  | .beginGreeting _ | .greetingSent | .startFails | .checkStop | .setConnected | .startLoop =>
    .starting
  | .loopTest | .loopFrame _ | .loopNothing | .loopLock | .loopUnlock | .loopSignals
  | .loopReads _ => .controlLoop
  | .stopExchange | .stopConnected _ | .stopLock | .stopSocket | .stopUnlock | .close
  | .disconnects => .stop
  | .send _ _ | .beginReceive | .recv _ => .socket

variable {s t : State}

theorem exclusive_init : Exclusive system.init :=
  ⟨fun _ => ⟨rfl, rfl⟩, fun hl => absurd rfl hl, nofun, nofun⟩

/-- Once `Stop()` has found `connected_`, the starting thread has set it. -/
theorem Exclusive.late (h : Exclusive s) (hs : s.stop.outside = false) :
    s.starting.early = false := by
  cases he : s.starting.early with
  | false => rfl
  | true =>
    rw [(h.early he).2] at hs
    cases hs

/-- The starting thread goes on. -/
theorem Exclusive.setStarting (h : Exclusive s) (starting : Starting) (connected isOpen : Bool)
    (hs : s.starting ≠ .done)
    (he : starting.early = true → connected = false ∧ s.stop.outside = true) :
    Exclusive { s with starting := starting, connected := connected, isOpen := isOpen } :=
  ⟨he, fun hl => absurd (h.thread hl) hs, h.loop, h.stop⟩

/-- The control loop goes on outside of the lock. -/
theorem Exclusive.setLoop (h : Exclusive s) (loop : Looping) (connected : Bool)
    (hl : s.loop ≠ .none) (hh : loop.holds = false) :
    Exclusive { s with loop := loop, connected := connected } where
  early he := by
    rw [h.thread hl] at he
    cases he
  thread _ := h.thread hl
  loop he := by
    rw [hh] at he
    cases he
  stop := h.stop

/-- `connected_` is cleared, and perhaps the socket closed. -/
theorem Exclusive.disconnect (h : Exclusive s) (isOpen : Bool) :
    Exclusive { s with connected := false, isOpen := isOpen } :=
  ⟨fun he => ⟨rfl, (h.early he).2⟩, h.thread, h.loop, h.stop⟩

theorem exclusive_starting {a : Label} (h : Exclusive s) (ha : a.actor = .starting)
    (hn : s.writes a = some t) : Exclusive t := by
  cases a with
  | beginGreeting frame =>
    simp only [State.writes, Option.ite_none_right_eq_some, Option.some.injEq] at hn
    obtain ⟨hs, rfl⟩ := hn
    refine ⟨fun _ => h.early (by rw [hs]; rfl), fun hl => ?_, h.loop, h.stop⟩
    cases hs.symm.trans (h.thread hl)
  | greetingSent =>
    simp only [State.writes] at hn
    split at hn
    · rename_i hs
      have he := h.early (by rw [hs]; rfl)
      have hne : s.starting ≠ .done := by rw [hs]; exact Starting.noConfusion
      split at hn
      · obtain rfl := Option.some.inj hn
        exact h.setStarting _ _ _ hne fun _ => he
      · obtain rfl := Option.some.inj hn
        exact h.setStarting _ _ _ hne fun _ => ⟨rfl, he.2⟩
    · cases hn
  | startFails =>
    simp only [State.writes, Option.ite_none_right_eq_some, Option.some.injEq] at hn
    obtain ⟨hs, rfl⟩ := hn
    exact h.setStarting _ _ _ (by rw [hs]; exact Starting.noConfusion)
      fun _ => ⟨rfl, (h.early (by rw [hs]; rfl)).2⟩
  | checkStop =>
    simp only [State.writes, Option.ite_none_right_eq_some] at hn
    obtain ⟨hs, hn⟩ := hn
    have he := h.early (by rw [hs]; rfl)
    have hne : s.starting ≠ .done := by rw [hs]; exact Starting.noConfusion
    split at hn
    · obtain rfl := Option.some.inj hn
      exact h.setStarting _ _ _ hne fun _ => he
    · obtain rfl := Option.some.inj hn
      exact h.setStarting _ _ _ hne fun _ => he
  | setConnected =>
    simp only [State.writes, Option.ite_none_right_eq_some, Option.some.injEq] at hn
    obtain ⟨hs, rfl⟩ := hn
    exact h.setStarting _ _ _ (by rw [hs]; exact Starting.noConfusion) nofun
  | startLoop =>
    simp only [State.writes, Option.ite_none_right_eq_some] at hn
    obtain ⟨hs, hn⟩ := hn
    split at hn
    · obtain rfl := Option.some.inj hn
      exact h.setStarting _ _ _ (by rw [hs]; exact Starting.noConfusion) nofun
    · obtain rfl := Option.some.inj hn
      exact ⟨nofun, fun _ => rfl, nofun, h.stop⟩
  | loopTest | loopFrame | loopNothing | loopLock | loopUnlock | loopSignals | loopReads
    | stopExchange | stopConnected | stopLock | stopSocket | stopUnlock | close | disconnects
    | send | beginReceive | recv => cases ha

theorem exclusive_loop {a : Label} (h : Exclusive s) (ha : a.actor = .controlLoop)
    (hn : s.writes a = some t) : Exclusive t := by
  cases a with
  | loopTest =>
    simp only [State.writes, Option.ite_none_right_eq_some, Option.some.injEq] at hn
    obtain ⟨hl, rfl⟩ := hn
    refine h.setLoop _ _ (by rw [hl]; exact Looping.noConfusion) ?_
    split <;> rfl
  | loopFrame | loopNothing | loopSignals =>
    simp only [State.writes, Option.ite_none_right_eq_some, Option.some.injEq] at hn
    obtain ⟨hl, rfl⟩ := hn
    exact h.setLoop _ _ (by rw [hl]; exact Looping.noConfusion) rfl
  | loopReads goesOn =>
    simp only [State.writes, Option.ite_none_right_eq_some] at hn
    obtain ⟨hl, hn⟩ := hn
    have hne : s.loop ≠ .none := by rw [hl]; exact Looping.noConfusion
    split at hn
    · obtain rfl := Option.some.inj hn
      exact h.setLoop _ _ hne rfl
    · obtain rfl := Option.some.inj hn
      exact h.setLoop _ _ hne rfl
  | loopLock =>
    simp only [State.writes] at hn
    split at hn
    · rename_i hl hm
      obtain rfl := Option.some.inj hn
      have hdone := h.thread (by rw [hl]; exact Looping.noConfusion)
      refine ⟨fun he => ?_, fun _ => hdone, fun _ => rfl, fun hs => ?_⟩
      · dsimp only at he
        rw [hdone] at he
        cases he
      · cases hm.symm.trans (h.stop hs)
    · cases hn
  | loopUnlock =>
    simp only [State.writes] at hn
    split at hn
    · rename_i ok hl
      obtain rfl := Option.some.inj hn
      have hgoes := h.setLoop (if ok then .reading else .sendFailed) s.connected
        (by rw [hl]; exact Looping.noConfusion) (by split <;> rfl)
      refine ⟨hgoes.early, hgoes.thread, fun hh => ?_, fun hs => ?_⟩
      · dsimp only at hh
        split at hh <;> cases hh
      · -- it is the control loop that had the lock
        cases (h.loop (by rw [hl]; rfl)).symm.trans (h.stop hs)
    · cases hn
  | beginGreeting | greetingSent | startFails | checkStop | setConnected | startLoop
    | stopExchange | stopConnected | stopLock | stopSocket | stopUnlock | close | disconnects
    | send | beginReceive | recv => cases ha

theorem exclusive_stop {a : Label} (h : Exclusive s) (ha : a.actor = .stop)
    (hn : s.writes a = some t) : Exclusive t := by
  cases a with
  | stopExchange =>
    simp only [State.writes, Option.ite_none_right_eq_some, Option.some.injEq] at hn
    obtain ⟨_, rfl⟩ := hn
    exact ⟨fun he => ⟨(h.early he).1, rfl⟩, h.thread, h.loop, nofun⟩
  | stopConnected frame =>
    simp only [State.writes, Option.ite_none_right_eq_some, Option.some.injEq] at hn
    obtain ⟨_, rfl⟩ := hn
    refine ⟨fun he => ⟨(h.early he).1, ?_⟩, h.thread, h.loop, fun hh => ?_⟩
    · dsimp only
      rw [(h.early he).1]
      rfl
    · dsimp only at hh
      split at hh <;> cases hh
  | stopLock =>
    simp only [State.writes] at hn
    split at hn
    · rename_i hs hm
      obtain rfl := Option.some.inj hn
      have hlate := h.late (by rw [hs]; rfl)
      refine ⟨fun he => ?_, h.thread, fun hl => ?_, fun _ => rfl⟩
      · cases hlate.symm.trans he
      · cases hm.symm.trans (h.loop hl)
    · cases hn
  | stopSocket =>
    simp only [State.writes] at hn
    split at hn
    · rename_i hs
      have hmutex := h.stop (by rw [hs]; rfl)
      have hlate := h.late (by rw [hs]; rfl)
      split at hn
      · obtain rfl := Option.some.inj hn
        refine ⟨fun he => ?_, h.thread, h.loop, fun _ => hmutex⟩
        cases hlate.symm.trans he
      · obtain rfl := Option.some.inj hn
        refine ⟨fun he => ⟨(h.early he).1, rfl⟩, h.thread, fun hl => ?_, nofun⟩
        cases hmutex.symm.trans (h.loop hl)
    · cases hn
  | stopUnlock =>
    simp only [State.writes] at hn
    split at hn
    · rename_i hs
      obtain rfl := Option.some.inj hn
      have hmutex := h.stop (by rw [hs]; rfl)
      refine ⟨fun he => ⟨(h.early he).1, rfl⟩, h.thread, fun hl => ?_, nofun⟩
      cases hmutex.symm.trans (h.loop hl)
    · cases hn
  | close =>
    simp only [State.writes, Option.ite_none_right_eq_some, Option.some.injEq] at hn
    obtain ⟨_, rfl⟩ := hn
    exact h.disconnect false
  | disconnects =>
    obtain rfl := Option.some.inj hn
    exact h.disconnect s.isOpen
  | beginGreeting | greetingSent | startFails | checkStop | setConnected | startLoop
    | loopTest | loopFrame | loopNothing | loopLock | loopUnlock | loopSignals | loopReads
    | send | beginReceive | recv => cases ha

theorem exclusive_writes {a : Label} (h : Exclusive s) (hn : s.writes a = some t) :
    Exclusive t := by
  cases ha : a.actor with
  | starting => exact exclusive_starting h ha hn
  | controlLoop => exact exclusive_loop h ha hn
  | stop => exact exclusive_stop h ha hn
  | socket =>
    cases a with
    | send | beginReceive | recv => cases hn
    | beginGreeting | greetingSent | startFails | checkStop | setConnected | startLoop
      | loopTest | loopFrame | loopNothing | loopLock | loopUnlock | loopSignals | loopReads
      | stopExchange | stopConnected | stopLock | stopSocket | stopUnlock | close
      | disconnects => cases ha

theorem starting_of_call {call : SendAll} (h : s.call .starting = some call) :
    s.starting = .sending call := by
  simp only [State.call] at h
  split at h
  · rename_i hs
    rw [hs, Option.some.inj h]
  · cases h

theorem loop_of_call {call : SendAll} (h : s.call .controlLoop = some call) :
    s.loop = .sending call := by
  simp only [State.call] at h
  split at h
  · rename_i hl
    rw [hl, Option.some.inj h]
  · cases h

theorem stop_of_call {call : SendAll} (h : s.call .stop = some call) :
    s.stop = .sending call := by
  simp only [State.call] at h
  split at h
  · rename_i hs
    rw [hs, Option.some.inj h]
  · cases h

/-- What lets a thread into `SendAll`: that it is the starting thread, or the lock. -/
theorem Exclusive.admits (h : Exclusive s) {w : Writer} {call : SendAll}
    (hw : s.call w = some call) :
    if s.starting.early then w = .starting else s.mutex = some w := by
  cases w with
  | starting =>
    rw [starting_of_call hw]
    rfl
  | controlLoop =>
    have hl := loop_of_call hw
    rw [h.thread (by rw [hl]; exact Looping.noConfusion)]
    exact h.loop (by rw [hl]; rfl)
  | stop =>
    have hs := stop_of_call hw
    rw [h.late (by rw [hs]; rfl)]
    exact h.stop (by rw [hs]; rfl)

/-- **No two threads are in `SendAll`.** -/
theorem Exclusive.alone (h : Exclusive s) {w w' : Writer} {call call' : SendAll}
    (hw : s.call w = some call) (hw' : s.call w' = some call') : w = w' := by
  have hadmits := h.admits hw
  have hadmits' := h.admits hw'
  cases he : s.starting.early with
  | true =>
    rw [he] at hadmits hadmits'
    exact hadmits.trans hadmits'.symm
  | false =>
    rw [he] at hadmits hadmits'
    exact Option.some.inj (hadmits.symm.trans hadmits')

/-- A `SendAll` goes on. -/
theorem Exclusive.setCall (h : Exclusive s) {w : Writer} {call : SendAll}
    (hw : s.call w = some call) (call' : SendAll) : Exclusive (s.setCall call' w) := by
  cases w with
  | starting =>
    have hs := starting_of_call hw
    refine ⟨fun _ => h.early (by rw [hs]; rfl), fun hl => ?_, h.loop, h.stop⟩
    cases hs.symm.trans (h.thread hl)
  | controlLoop =>
    have hl := loop_of_call hw
    exact ⟨h.early, fun _ => h.thread (by rw [hl]; exact Looping.noConfusion),
      fun _ => h.loop (by rw [hl]; rfl), h.stop⟩
  | stop =>
    have hs := stop_of_call hw
    refine ⟨fun he => ?_, h.thread, h.loop, fun _ => h.stop (by rw [hs]; rfl)⟩
    cases (h.late (by rw [hs]; rfl)).symm.trans he

end Framing

end RemoteController
