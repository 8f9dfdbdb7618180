import RemoteController.Udp.Sockets

/-!
# `StartClient` and `StartServer` leave no socket open

The two starting threads, one call or one section a step, as they are in
`udp_lan_transport_backend.cpp`.

* `StartClient.starter`, `StartServer.starter`: the steps; the phase holds the local
  variables that keep a socket.
* `client_sockets_closed`: a `StartClient` that returned false left nothing open, and
  after one that returned true a `Stop()` closes everything.
* `server_sockets_closed`: after `StartServer` a `Stop()` closes everything, unless
  `StartServerSockets` met a `Stop()` with a connection in hand that it had just accepted.
-/

namespace RemoteController

open Lib Protocol Starting

/-- The field keeps a socket, for as long as there is no `Stop()`. -/
def InPlace (stopRequested : Bool) (field : Option Nat) : Prop :=
  field = none → stopRequested = true

/-- The field keeps the socket `c`, or a `Stop()` has closed it. -/
def Keeping (stopRequested : Bool) (field : Option Nat) (c : Nat) : Prop :=
  (field = some c ∨ field = none) ∧ InPlace stopRequested field

theorem inPlace_of_stop (field : Option Nat) : InPlace true field := fun _ => rfl

theorem inPlace_some (b : Bool) (c : Nat) : InPlace b (some c) := fun h => by cases h

theorem keeping_none (c : Nat) : Keeping true none c := ⟨.inr rfl, inPlace_of_stop _⟩

theorem keeping_some (b : Bool) (c : Nat) : Keeping b (some c) c := ⟨.inl rfl, inPlace_some b c⟩

theorem Keeping.stop {b : Bool} {field : Option Nat} {c : Nat} (h : Keeping b field c) :
    Keeping true field c := ⟨h.1, inPlace_of_stop _⟩

namespace Sockets

variable {s : Sockets} {locals : Multiset Nat} {c : Nat}

/-- A local socket goes into a field that keeps none. -/
theorem Kept.setControl (hk : s.Kept (c ::ₘ locals)) (hc : s.control = none) :
    { s with control := some c : Sockets }.Kept locals := by
  refine ⟨?_, hk.named⟩
  have heq : s.fields + c ::ₘ locals =
      { s with control := some c : Sockets }.fields + locals := by
    rw [← Multiset.singleton_add]
    simp only [fields, hc, place_none, place_some, Multiset.zero_add]
    ac_rfl
  rw [← heq]
  exact hk.keeps

theorem Kept.setInput (hk : s.Kept (c ::ₘ locals)) (hc : s.input = none) :
    { s with input := some c : Sockets }.Kept locals := by
  refine ⟨?_, hk.named⟩
  have heq : s.fields + c ::ₘ locals =
      { s with input := some c : Sockets }.fields + locals := by
    rw [← Multiset.singleton_add]
    simp only [fields, hc, place_none, place_some, Multiset.add_zero]
    ac_rfl
  rw [← heq]
  exact hk.keeps

theorem Kept.setListener (hk : s.Kept (c ::ₘ locals)) (hc : s.listener = none) :
    { s with listener := some c : Sockets }.Kept locals := by
  refine ⟨?_, hk.named⟩
  have heq : s.fields + c ::ₘ locals =
      { s with listener := some c : Sockets }.fields + locals := by
    rw [← Multiset.singleton_add]
    simp only [fields, hc, place_none, place_some, Multiset.add_zero]
    ac_rfl
  rw [← heq]
  exact hk.keeps

/-- After the section the field keeps nothing. -/
theorem dropControl_control {b : Bool} (h : Keeping b s.control c) :
    (s.dropControl c).control = none := by
  rw [dropControl]
  split
  · rfl
  · rename_i hne
    exact h.1.resolve_left hne

end Sockets

/-! ### `StartClient` -/

namespace StartClient

/-- Where the thread is: before which call, load or section. -/
inductive Phase where
  | start
  | resolve
  | createControl
  | setControl (control : Nat)
  | connect (control : Nat)
  | dropControl (control : Nat)
  | createInput
  /-- The section after `socket` failed for the input channel. -/
  | closeControl
  | setInput (input : Nat)
  | handshake
  /-- The section that closes both, in each of the four ways the handshake ends badly. -/
  | closeBoth
  | testStop
  | setConnected
  | testStopAgain
  | stop
  | returned (result : Bool)
  deriving DecidableEq, Repr

/-- `answer` says whether the call succeeds.  For `start` it is the tests of the role, the
address and the port, for `resolve` those of Winsock and the name, for `connect`
`ConnectWithTimeout`, and for `handshake` that a right HELLO_ACK came. -/
def starter : Starter Phase Bool := fun s stopRequested phase answer =>
  match phase with
  | .start => some (s, if answer && !stopRequested then .resolve else .returned false)
  | .resolve => some (s, if answer then .createControl else .returned false)
  | .createControl =>
    if answer then some (s.opened .socket, .setControl s.created)
    else some (s.call [.socket none], .returned false)
  | .setControl control => some ({ s with control := some control }, .connect control)
  | .connect control => some (s, if answer then .createInput else .dropControl control)
  | .dropControl control => some (s.dropControl control, .returned false)
  | .createInput =>
    if answer then some (s.opened .socket, .setInput s.created)
    else some (s.call [.socket none], .closeControl)
  | .closeControl => some (s.closeControl, .returned false)
  | .setInput input => some ({ s with input := some input }, .handshake)
  | .handshake => some (s, if answer then .testStop else .closeBoth)
  | .closeBoth => some (s.closeInput.closeControl, .returned false)
  | .testStop => some (s, if stopRequested then .closeBoth else .setConnected)
  | .setConnected => some (s, .testStopAgain)
  | .testStopAgain => some (s, if stopRequested then .stop else .returned true)
  | .stop => some (s.closeAll, .returned false)
  | .returned _ => none

def system : System (Starting Phase) (StartAct Bool) := Starting.system .start starter

/-- The sockets in local variables only. -/
def locals : Phase → Multiset Nat
  | .setControl control => {control}
  | .setInput input => {input}
  | _ => 0

/-- Which fields keep a socket. -/
def Shape (p : Phase) (s : Sockets) (stopRequested : Bool) : Prop :=
  s.listener = none ∧
    match p with
    | .start | .resolve | .createControl | .setControl _ | .returned false =>
      s.control = none ∧ s.input = none
    | .connect control | .dropControl control =>
      Keeping stopRequested s.control control ∧ s.input = none
    | .createInput | .setInput _ => InPlace stopRequested s.control ∧ s.input = none
    | .closeControl => s.input = none
    | .handshake | .testStop | .setConnected | .testStopAgain | .returned true =>
      InPlace stopRequested s.control ∧ InPlace stopRequested s.input
    | .closeBoth | .stop => True

theorem Shape.stop {p : Phase} {s : Sockets} {b : Bool} (h : Shape p s b) : Shape p s true := by
  obtain ⟨hl, h⟩ := h
  refine ⟨hl, ?_⟩
  cases p with
  | connect _ | dropControl _ => exact ⟨h.1.stop, h.2⟩
  | createInput | setInput _ => exact ⟨inPlace_of_stop _, h.2⟩
  | handshake | testStop | setConnected | testStopAgain =>
    exact ⟨inPlace_of_stop _, inPlace_of_stop _⟩
  | returned result =>
    cases result with
    | false => exact h
    | true => exact ⟨inPlace_of_stop _, inPlace_of_stop _⟩
  | _ => exact h

theorem shape_closed (p : Phase) (s : Sockets) : Shape p s.closeAll true := by
  refine ⟨rfl, ?_⟩
  cases p with
  | connect _ | dropControl _ => exact ⟨keeping_none _, rfl⟩
  | createInput | setInput _ => exact ⟨inPlace_of_stop _, rfl⟩
  | handshake | testStop | setConnected | testStopAgain =>
    exact ⟨inPlace_of_stop _, inPlace_of_stop _⟩
  | returned result =>
    cases result with
    | false => exact ⟨rfl, rfl⟩
    | true => exact ⟨inPlace_of_stop _, inPlace_of_stop _⟩
  | closeControl => rfl
  | closeBoth | stop => trivial
  | _ => exact ⟨rfl, rfl⟩

/-- **One step of the thread** keeps every open socket in one place. -/
theorem starter_keeps {p q : Phase} {s t : Sockets} {b a : Bool} (hk : s.Kept (locals p))
    (hs : Shape p s b) (hn : starter s b p a = some (t, q)) :
    t.Kept (locals q) ∧ Shape q t b := by
  obtain ⟨hl, hs⟩ := hs
  cases p with
  | start | resolve =>
    obtain ⟨rfl, rfl⟩ := Prod.mk.inj (Option.some.inj hn)
    split
    · exact ⟨hk, hl, hs⟩
    · exact ⟨hk, hl, hs⟩
  | createControl =>
    simp only [starter] at hn
    split at hn
    · obtain ⟨rfl, rfl⟩ := Prod.mk.inj (Option.some.inj hn)
      exact ⟨hk.opened (.inl rfl), hl, hs⟩
    · obtain ⟨rfl, rfl⟩ := Prod.mk.inj (Option.some.inj hn)
      exact ⟨hk.failed rfl, hl, hs⟩
  | setControl control =>
    obtain ⟨rfl, rfl⟩ := Prod.mk.inj (Option.some.inj hn)
    exact ⟨Sockets.Kept.setControl hk hs.1, hl, keeping_some b control, hs.2⟩
  | connect control =>
    obtain ⟨rfl, rfl⟩ := Prod.mk.inj (Option.some.inj hn)
    split
    · exact ⟨hk, hl, hs.1.2, hs.2⟩
    · exact ⟨hk, hl, hs⟩
  | dropControl control =>
    obtain ⟨rfl, rfl⟩ := Prod.mk.inj (Option.some.inj hn)
    refine ⟨hk.dropControl control, ?_, Sockets.dropControl_control hs.1, ?_⟩
    all_goals
      rw [Sockets.dropControl]
      split
    exacts [hl, hl, hs.2, hs.2]
  | createInput =>
    simp only [starter] at hn
    split at hn
    · obtain ⟨rfl, rfl⟩ := Prod.mk.inj (Option.some.inj hn)
      exact ⟨hk.opened (.inl rfl), hl, hs⟩
    · obtain ⟨rfl, rfl⟩ := Prod.mk.inj (Option.some.inj hn)
      exact ⟨hk.failed rfl, hl, hs.2⟩
  | closeControl =>
    obtain ⟨rfl, rfl⟩ := Prod.mk.inj (Option.some.inj hn)
    exact ⟨hk.closeControl, hl, rfl, hs⟩
  | setInput input =>
    obtain ⟨rfl, rfl⟩ := Prod.mk.inj (Option.some.inj hn)
    exact ⟨Sockets.Kept.setInput hk hs.2, hl, hs.1, inPlace_some b input⟩
  | handshake =>
    obtain ⟨rfl, rfl⟩ := Prod.mk.inj (Option.some.inj hn)
    split
    · exact ⟨hk, hl, hs⟩
    · exact ⟨hk, hl, trivial⟩
  | closeBoth =>
    obtain ⟨rfl, rfl⟩ := Prod.mk.inj (Option.some.inj hn)
    exact ⟨hk.closeInput.closeControl, hl, rfl, rfl⟩
  | testStop =>
    obtain ⟨rfl, rfl⟩ := Prod.mk.inj (Option.some.inj hn)
    split
    · exact ⟨hk, hl, trivial⟩
    · exact ⟨hk, hl, hs⟩
  | setConnected =>
    obtain ⟨rfl, rfl⟩ := Prod.mk.inj (Option.some.inj hn)
    exact ⟨hk, hl, hs⟩
  | testStopAgain =>
    obtain ⟨rfl, rfl⟩ := Prod.mk.inj (Option.some.inj hn)
    split
    · exact ⟨hk, hl, trivial⟩
    · exact ⟨hk, hl, hs⟩
  | stop =>
    obtain ⟨rfl, rfl⟩ := Prod.mk.inj (Option.some.inj hn)
    exact ⟨hk.closeAll, rfl, rfl, rfl⟩
  | returned result => cases hn

def discipline : Discipline .start starter where
  locals := locals
  shape := Shape
  locals_init := rfl
  shape_init := ⟨rfl, rfl, rfl⟩
  shape_stop := Shape.stop
  shape_closed := shape_closed
  step := starter_keeps

/-- The open sockets: those in fields and those in local variables. -/
def openSockets (s : Starting Phase) : Multiset Nat := s.sockets.fields + locals s.phase

theorem card_openSockets_le {s : Starting Phase} (hi : s.Inv discipline) :
    (openSockets s).card ≤ 2 := by
  obtain ⟨hl, hs⟩ := hi.shape
  have hc := card_place_le s.sockets.control
  have hin := card_place_le s.sockets.input
  simp only [openSockets, Sockets.fields, hl, place_none, Multiset.add_zero,
    Multiset.card_add]
  cases hp : s.phase with
  | setControl control =>
    rw [hp] at hs
    simp [locals, hs.1, hs.2]
  | setInput input =>
    rw [hp] at hs
    simp only [locals, hs.2, place_none, Multiset.card_zero, Multiset.card_singleton]
    omega
  | _ =>
    simp only [locals, Multiset.card_zero]
    omega

end StartClient

/-- **No socket of a client is left open.**  Each is shut down and closed once at most, and
only while it is open; two are open at most; a `StartClient` that returned false has closed
all it got, one that returned true and met no `Stop()` has the two channels, and any
`Stop()` after it closes them. -/
theorem client_sockets_closed {l : List (StartAct Bool)} {s : Starting StartClient.Phase}
    (h : StartClient.system.Run l s) :
    socketLedger.Balanced (· ∈ StartClient.openSockets s) s.sockets.calls ∧
      (StartClient.openSockets s).card ≤ 2 ∧
      (s.phase = .returned false → AllClosed s.sockets.calls) ∧
      (s.phase = .returned true → s.stopRequested = false →
        ∃ control input, s.sockets.control = some control ∧ s.sockets.input = some input ∧
          StartClient.openSockets s = {control, input}) ∧
      ∀ result l' t, s.phase = .returned result → StartClient.system.Path s l' t →
        .stopClose ∈ l' → AllClosed t.sockets.calls := by
  have hi := Inv.of_run StartClient.discipline h
  have hkept : s.sockets.Kept (StartClient.locals s.phase) := hi.kept
  refine ⟨hkept.keeps.balanced, StartClient.card_openSockets_le hi, ?_, ?_, ?_⟩
  · intro hp
    obtain ⟨hl, hs⟩ := hi.shape
    rw [hp] at hkept hs
    refine hkept.allClosed_iff.mpr ?_
    simp [Sockets.fields, hl, hs.1, hs.2, StartClient.locals]
  · intro hp hstop
    obtain ⟨hl, hs⟩ := hi.shape
    rw [hp, hstop] at hs
    obtain ⟨control, hc⟩ := Option.ne_none_iff_exists'.mp fun hn => absurd (hs.1 hn) (by decide)
    obtain ⟨input, hin⟩ := Option.ne_none_iff_exists'.mp fun hn => absurd (hs.2 hn) (by decide)
    refine ⟨control, input, hc, hin, ?_⟩
    simp [StartClient.openSockets, Sockets.fields, hl, hc, hin, hp, StartClient.locals]
  · intro result l' t hp hpath hclose
    have hi' := Inv.of_run StartClient.discipline (h.append hpath)
    have hkept' : t.sockets.Kept (StartClient.locals t.phase) := hi'.kept
    obtain ⟨hp', hf⟩ := fields_of_path (fun _ _ _ => rfl) hp hpath
    refine hkept'.allClosed_iff.mpr ?_
    rw [hf hclose, hp']
    rfl

/-- A `Stop()` while the thread connects: `StartClientSockets` closes the socket it gets
after it. -/
def stoppedWhileConnecting : List (StartAct Bool) :=
  [.starter true, .starter true, .starter true, .starter true, .stopExchange, .stopClose,
    .starter true, .starter true, .starter true, .starter true, .starter true, .starter true]

theorem client_sockets_closed_stopped :
    ∃ s, StartClient.system.Run stoppedWhileConnecting s ∧ s.phase = .returned false ∧
      s.sockets.created = 2 ∧ AllClosed s.sockets.calls := by
  have hrun := System.run_of_exec (M := StartClient.system) (l := stoppedWhileConnecting) rfl
  exact ⟨_, hrun, rfl, rfl, (client_sockets_closed hrun).2.2.1 rfl⟩

/-! ### `StartServer` -/

namespace StartServer

inductive Phase where
  | start
  | winsock
  | createInput
  | createListener (input : Option Nat)
  /-- One of the two is `INVALID_SOCKET`, or a port could not be bound. -/
  | discardInput (input listener : Option Nat)
  | discardListener (listener : Option Nat)
  | bind (input listener : Nat)
  | setBoth (input listener : Nat)
  | loop
  | waitForSocket
  | accept
  | receive (control : Nat)
  /-- Before `CloseSocket(control)`, after a HELLO that was malformed or had a wrong key. -/
  | refuse (control : Nat)
  /-- After the `break`, before the test of `stop_requested_`. -/
  | accepted (control : Nat)
  /-- The test found a `Stop()`: the local variable is gone, and its socket with it. -/
  | lost (control : Nat)
  | setControl (control : Nat)
  | sendAck (control : Nat)
  | testStop (control : Nat)
  | dropControl (control : Nat)
  | setConnected
  | testStopAgain
  | stop
  | returned (result : Bool)
  deriving DecidableEq, Repr

/-- What the thread is answered: whether a call succeeds, or the bytes that a connection
sent before `ReceiveAll` ended. -/
inductive Answer where
  | result (ok : Bool)
  | bytes (received : List UInt8)
  deriving DecidableEq, Repr

def Answer.ok : Answer → Bool
  | .result ok => ok
  | .bytes _ => false

/-- The connection sent a HELLO with the expected key. -/
def Answer.paired (key : UInt16) : Answer → Bool
  | .result _ => false
  | .bytes received =>
    ServerSockets.verdict key (decide (32 ≤ received.length)) (firstFrame received) = .accepted

/-- The calls of `closesocket` alone. -/
def closesocket : Option Nat → List SocketCall
  | none => []
  | some handle => [.closesocket handle]

/-- `start` stands for the tests of the role, the port and the callback, `bind` for both
calls of `bind` and `listen`. -/
def starter (key : UInt16) : Starter Phase Answer := fun s stopRequested phase answer =>
  match phase with
  | .start => some (s, if answer.ok && !stopRequested then .winsock else .returned false)
  | .winsock => some (s, if answer.ok then .createInput else .returned false)
  | .createInput =>
    if answer.ok then some (s.opened .socket, .createListener (some s.created))
    else some (s.call [.socket none], .createListener none)
  | .createListener input =>
    if answer.ok then
      match input with
      | some input => some (s.opened .socket, .bind input s.created)
      | none => some (s.opened .socket, .discardInput none (some s.created))
    else some (s.call [.socket none], .discardInput input none)
  | .discardInput input listener => some (s.call (closesocket input), .discardListener listener)
  | .discardListener listener => some (s.call (closesocket listener), .returned false)
  | .bind input listener =>
    some (s, if answer.ok then .setBoth input listener
      else .discardInput (some input) (some listener))
  | .setBoth input listener =>
    some ({ s with input := some input, listener := some listener }, .loop)
  | .loop => some (s, if stopRequested then .returned false else .waitForSocket)
  | .waitForSocket => some (s, if answer.ok then .accept else .loop)
  | .accept =>
    if answer.ok then some (s.opened .accept, .receive s.created)
    else some (s.call [.accept none], .returned false)
  | .receive control => some (s, if answer.paired key then .accepted control else .refuse control)
  | .refuse control => some (s.call (Sockets.closeSocket (some control)), .loop)
  | .accepted control => some (s, if stopRequested then .lost control else .setControl control)
  | .lost _ => none
  | .setControl control => some ({ s with control := some control }, .sendAck control)
  | .sendAck control => some (s, if answer.ok then .testStop control else .dropControl control)
  | .testStop control => some (s, if stopRequested then .dropControl control else .setConnected)
  | .dropControl control => some (s.dropControl control, .returned false)
  | .setConnected => some (s.closeListener, .testStopAgain)
  | .testStopAgain => some (s, if stopRequested then .stop else .returned true)
  | .stop => some (s.closeAll, .returned false)
  | .returned _ => none

def system (key : UInt16) : System (Starting Phase) (StartAct Answer) :=
  Starting.system .start (starter key)

def locals : Phase → Multiset Nat
  | .createListener input => place input
  | .discardInput input listener => place input + place listener
  | .discardListener listener => place listener
  | .bind input listener | .setBoth input listener => {input} + {listener}
  | .receive control | .refuse control | .accepted control | .lost control
  | .setControl control => {control}
  | _ => 0

def Shape (p : Phase) (s : Sockets) (stopRequested : Bool) : Prop :=
  match p with
  | .start | .winsock | .createInput | .createListener _ | .discardInput _ _
  | .discardListener _ | .bind _ _ | .setBoth _ _ =>
    s.control = none ∧ s.input = none ∧ s.listener = none
  | .loop | .waitForSocket | .accept | .receive _ | .refuse _ | .accepted _ | .lost _
  | .setControl _ => s.control = none ∧ InPlace stopRequested s.input
  | .sendAck control | .testStop control | .dropControl control =>
    Keeping stopRequested s.control control ∧ InPlace stopRequested s.input
  | .setConnected => InPlace stopRequested s.control ∧ InPlace stopRequested s.input
  | .testStopAgain | .returned true =>
    InPlace stopRequested s.control ∧ InPlace stopRequested s.input ∧ s.listener = none
  | .stop | .returned false => True

theorem Shape.stop {p : Phase} {s : Sockets} {b : Bool} (h : Shape p s b) : Shape p s true := by
  cases p with
  | loop | waitForSocket | accept | receive _ | refuse _ | accepted _ | lost _ | setControl _ =>
    exact ⟨h.1, inPlace_of_stop _⟩
  | sendAck _ | testStop _ | dropControl _ => exact ⟨h.1.stop, inPlace_of_stop _⟩
  | setConnected => exact ⟨inPlace_of_stop _, inPlace_of_stop _⟩
  | testStopAgain => exact ⟨inPlace_of_stop _, inPlace_of_stop _, h.2.2⟩
  | returned result =>
    cases result with
    | false => trivial
    | true => exact ⟨inPlace_of_stop _, inPlace_of_stop _, h.2.2⟩
  | _ => exact h

theorem shape_closed (p : Phase) (s : Sockets) : Shape p s.closeAll true := by
  cases p with
  | loop | waitForSocket | accept | receive _ | refuse _ | accepted _ | lost _ | setControl _ =>
    exact ⟨rfl, inPlace_of_stop _⟩
  | sendAck _ | testStop _ | dropControl _ => exact ⟨keeping_none _, inPlace_of_stop _⟩
  | setConnected => exact ⟨inPlace_of_stop _, inPlace_of_stop _⟩
  | testStopAgain => exact ⟨inPlace_of_stop _, inPlace_of_stop _, rfl⟩
  | returned result =>
    cases result with
    | false => trivial
    | true => exact ⟨inPlace_of_stop _, inPlace_of_stop _, rfl⟩
  | stop => trivial
  | _ => exact ⟨rfl, rfl, rfl⟩

/-- A local socket, if there is one, is closed. -/
theorem kept_closesocket {s : Sockets} {field : Option Nat} {rest : Multiset Nat}
    (hk : s.Kept (place field + rest)) : (s.call (closesocket field)).Kept rest := by
  cases field with
  | none => simpa [closesocket, Sockets.call] using hk
  | some c => exact Sockets.Kept.closeLocal (h := c) (by simpa using hk) (.inr rfl)

/-- Before the sockets are in their fields. -/
def Phase.opening : Phase → Bool
  | .start | .winsock | .createInput | .createListener _ | .discardInput _ _ | .discardListener _
  | .bind _ _ | .setBoth _ _ => true
  | _ => false

theorem opening_keeps {key : UInt16} {p q : Phase} {s t : Sockets} {b : Bool} {a : Answer}
    (hp : p.opening = true) (hk : s.Kept (locals p)) (hs : Shape p s b)
    (hn : starter key s b p a = some (t, q)) : t.Kept (locals q) ∧ Shape q t b := by
  cases p with
  | start | winsock =>
    obtain ⟨rfl, rfl⟩ := Prod.mk.inj (Option.some.inj hn)
    split
    · exact ⟨hk, hs⟩
    · exact ⟨hk, trivial⟩
  | createInput =>
    simp only [starter] at hn
    split at hn
    · obtain ⟨rfl, rfl⟩ := Prod.mk.inj (Option.some.inj hn)
      exact ⟨hk.opened (.inl rfl), hs⟩
    · obtain ⟨rfl, rfl⟩ := Prod.mk.inj (Option.some.inj hn)
      exact ⟨hk.failed rfl, hs⟩
  | createListener input =>
    simp only [starter] at hn
    split at hn
    · cases input with
      | none =>
        obtain ⟨rfl, rfl⟩ := Prod.mk.inj (Option.some.inj hn)
        exact ⟨hk.opened (.inl rfl), hs⟩
      | some input =>
        obtain ⟨rfl, rfl⟩ := Prod.mk.inj (Option.some.inj hn)
        refine ⟨?_, hs⟩
        have hkept := hk.opened (.inl rfl)
        rw [← Multiset.singleton_add, Multiset.add_comm] at hkept
        exact hkept
    · obtain ⟨rfl, rfl⟩ := Prod.mk.inj (Option.some.inj hn)
      exact ⟨by simpa [locals] using hk.failed (e := .socket none) rfl, hs⟩
  | discardInput input listener =>
    obtain ⟨rfl, rfl⟩ := Prod.mk.inj (Option.some.inj hn)
    exact ⟨kept_closesocket hk, hs⟩
  | discardListener listener =>
    obtain ⟨rfl, rfl⟩ := Prod.mk.inj (Option.some.inj hn)
    exact ⟨kept_closesocket (by simpa [locals] using hk), trivial⟩
  | bind input listener =>
    obtain ⟨rfl, rfl⟩ := Prod.mk.inj (Option.some.inj hn)
    split
    · exact ⟨hk, hs⟩
    · exact ⟨hk, hs⟩
  | setBoth input listener =>
    obtain ⟨rfl, rfl⟩ := Prod.mk.inj (Option.some.inj hn)
    have hkept : s.Kept (input ::ₘ listener ::ₘ 0) := hk
    exact ⟨(hkept.setInput hs.2.1).setListener hs.2.2, hs.1, inPlace_some b input⟩
  | _ => cases hp

/-- **One step of the thread** keeps every open socket in one place. -/
theorem starter_keeps {key : UInt16} {p q : Phase} {s t : Sockets} {b : Bool} {a : Answer}
    (hk : s.Kept (locals p)) (hs : Shape p s b) (hn : starter key s b p a = some (t, q)) :
    t.Kept (locals q) ∧ Shape q t b := by
  cases p with
  | start | winsock | createInput | createListener | discardInput | discardListener | bind
    | setBoth => exact opening_keeps rfl hk hs hn
  | loop =>
    obtain ⟨rfl, rfl⟩ := Prod.mk.inj (Option.some.inj hn)
    split
    · exact ⟨hk, trivial⟩
    · exact ⟨hk, hs⟩
  | waitForSocket | receive control | accepted control | sendAck control =>
    obtain ⟨rfl, rfl⟩ := Prod.mk.inj (Option.some.inj hn)
    split
    · exact ⟨hk, hs⟩
    · exact ⟨hk, hs⟩
  | accept =>
    simp only [starter] at hn
    split at hn
    · obtain ⟨rfl, rfl⟩ := Prod.mk.inj (Option.some.inj hn)
      exact ⟨hk.opened (.inr rfl), hs⟩
    · obtain ⟨rfl, rfl⟩ := Prod.mk.inj (Option.some.inj hn)
      exact ⟨hk.failed rfl, trivial⟩
  | refuse control =>
    obtain ⟨rfl, rfl⟩ := Prod.mk.inj (Option.some.inj hn)
    exact ⟨Sockets.Kept.closeLocal (h := control) hk (.inl rfl), hs⟩
  | lost control => cases hn
  | setControl control =>
    obtain ⟨rfl, rfl⟩ := Prod.mk.inj (Option.some.inj hn)
    exact ⟨Sockets.Kept.setControl hk hs.1, keeping_some b control, hs.2⟩
  | testStop control =>
    obtain ⟨rfl, rfl⟩ := Prod.mk.inj (Option.some.inj hn)
    split
    · exact ⟨hk, hs⟩
    · exact ⟨hk, hs.1.2, hs.2⟩
  | dropControl control =>
    obtain ⟨rfl, rfl⟩ := Prod.mk.inj (Option.some.inj hn)
    exact ⟨hk.dropControl control, trivial⟩
  | setConnected =>
    obtain ⟨rfl, rfl⟩ := Prod.mk.inj (Option.some.inj hn)
    exact ⟨hk.closeListener, hs.1, hs.2, rfl⟩
  | testStopAgain =>
    obtain ⟨rfl, rfl⟩ := Prod.mk.inj (Option.some.inj hn)
    split
    · exact ⟨hk, trivial⟩
    · exact ⟨hk, hs⟩
  | stop =>
    obtain ⟨rfl, rfl⟩ := Prod.mk.inj (Option.some.inj hn)
    exact ⟨hk.closeAll, trivial⟩
  | returned result => cases hn

def discipline (key : UInt16) : Discipline .start (starter key) where
  locals := locals
  shape := Shape
  locals_init := rfl
  shape_init := ⟨rfl, rfl, rfl⟩
  shape_stop := Shape.stop
  shape_closed := shape_closed
  step := starter_keeps

def openSockets (s : Starting Phase) : Multiset Nat := s.sockets.fields + locals s.phase

/-- However many connections come, one is open at a time. -/
theorem card_openSockets_le {key : UInt16} {s : Starting Phase} (hi : s.Inv (discipline key)) :
    (openSockets s).card ≤ 3 := by
  have hs := hi.shape
  have hc := card_place_le s.sockets.control
  have hin := card_place_le s.sockets.input
  have hl := card_place_le s.sockets.listener
  simp only [openSockets, Sockets.fields, Multiset.card_add]
  cases hp : s.phase with
  | createListener input =>
    rw [hp] at hs
    have := card_place_le input
    simp only [locals, hs.1, hs.2.1, hs.2.2, place_none, Multiset.card_zero]
    omega
  | discardInput input listener =>
    rw [hp] at hs
    have := card_place_le input
    have := card_place_le listener
    simp only [locals, hs.1, hs.2.1, hs.2.2, place_none, Multiset.card_zero,
      Multiset.card_add]
    omega
  | discardListener listener =>
    rw [hp] at hs
    have := card_place_le listener
    simp only [locals, hs.1, hs.2.1, hs.2.2, place_none, Multiset.card_zero]
    omega
  | bind input listener | setBoth input listener =>
    rw [hp] at hs
    simp [locals, hs.1, hs.2.1, hs.2.2]
  | receive control | refuse control | accepted control | lost control | setControl control =>
    rw [hp] at hs
    simp only [locals, hs.1, place_none, Multiset.card_zero, Multiset.card_singleton]
    omega
  | _ =>
    simp only [locals, Multiset.card_zero]
    omega

/-- `StartServerSockets` finds a `Stop()` when it has just accepted the right connection. -/
def losesConnection (s : Starting Phase) : StartAct Answer → Bool
  | .starter _ =>
    match s.phase with
    | .accepted _ => s.stopRequested
    | _ => false
  | _ => false

/-- `StartServer` has returned, and what. -/
def Phase.result : Phase → Option Bool
  | .returned result => some result
  | .lost _ => some false
  | _ => none

/-- The socket that is in no field and no variable any more. -/
def Phase.isLost : Phase → Bool
  | .lost _ => true
  | _ => false

variable {key : UInt16}

theorem isLost_next {s t : Starting Phase} {a : StartAct Answer}
    (hn : (system key).next s a = some t) :
    t.phase.isLost = (s.phase.isLost || losesConnection s a) := by
  cases a with
  | stopExchange =>
    obtain rfl := Option.some.inj hn
    simp [losesConnection]
  | stopClose =>
    simp only [system, Starting.system, Starting.step] at hn
    split at hn
    · obtain rfl := Option.some.inj hn
      simp [losesConnection]
    · cases hn
  | starter answer =>
    obtain ⟨⟨sockets, phase⟩, hs, rfl⟩ := Option.map_eq_some_iff.mp hn
    rw [losesConnection]
    cases hp : s.phase with
    | accepted control =>
      rw [hp] at hs
      obtain ⟨rfl, rfl⟩ := Prod.mk.inj (Option.some.inj hs)
      cases s.stopRequested <;> rfl
    | createInput | accept =>
      rw [hp] at hs
      simp only [starter] at hs
      split at hs
      all_goals
        obtain ⟨rfl, rfl⟩ := Prod.mk.inj (Option.some.inj hs)
        rfl
    | createListener input =>
      rw [hp] at hs
      simp only [starter] at hs
      split at hs
      · cases input with
        | none => obtain ⟨rfl, rfl⟩ := Prod.mk.inj (Option.some.inj hs); rfl
        | some input => obtain ⟨rfl, rfl⟩ := Prod.mk.inj (Option.some.inj hs); rfl
      · obtain ⟨rfl, rfl⟩ := Prod.mk.inj (Option.some.inj hs)
        rfl
    | lost control | returned result => rw [hp] at hs; cases hs
    | start | winsock | bind _ _ | loop | waitForSocket | receive _ | sendAck _ | testStop _
    | testStopAgain =>
      rw [hp] at hs
      obtain ⟨rfl, rfl⟩ := Prod.mk.inj (Option.some.inj hs)
      dsimp only
      split
      · rfl
      · rfl
    | _ =>
      rw [hp] at hs
      obtain ⟨rfl, rfl⟩ := Prod.mk.inj (Option.some.inj hs)
      rfl

/-- A connection is lost just in the runs that lose one in some step. -/
theorem runWith_iff_isLost {l : List (StartAct Answer)} {s : Starting Phase}
    (h : (system key).Run l s) :
    (system key).RunWith (fun s a => losesConnection s a = false) l s ↔
      s.phase.isLost = false := by
  constructor
  · intro hw
    refine hw.invariant (P := fun _ s => s.phase.isLost = false) rfl fun _ s a t _ ih hok hn => ?_
    rw [isLost_next hn, ih, hok]
    rfl
  · induction h with
    | refl => intro _; exact .start
    | snoc _ hn ih =>
      intro hl
      rw [isLost_next hn, Bool.or_eq_false_iff] at hl
      exact (ih hl.1).snoc hl.2 hn

end StartServer

/-- **The sockets of a server.**  Each is shut down and closed once at most, and only while
it is open; three are open at most, whoever connects; a `StartServer` that returned true and
met no `Stop()` has the two channels and no listener; and once `StartServer` has returned, a
`Stop()` closes every socket there was just if no step met a `Stop()` between the `break` of
the accept loop and the store of `control_socket_`. -/
theorem server_sockets_closed {key : UInt16} {l : List (StartAct StartServer.Answer)}
    {s : Starting StartServer.Phase} (h : (StartServer.system key).Run l s) :
    socketLedger.Balanced (· ∈ StartServer.openSockets s) s.sockets.calls ∧
      (StartServer.openSockets s).card ≤ 3 ∧
      (s.phase = .returned true → s.stopRequested = false →
        ∃ control input, s.sockets.control = some control ∧ s.sockets.input = some input ∧
          StartServer.openSockets s = {control, input}) ∧
      ∀ l' t, s.phase.result.isSome → (StartServer.system key).Path s l' t → .stopClose ∈ l' →
        (AllClosed t.sockets.calls ↔
          (StartServer.system key).RunWith
            (fun s a => StartServer.losesConnection s a = false) l s) := by
  have hi := Inv.of_run (StartServer.discipline key) h
  have hkept : s.sockets.Kept (StartServer.locals s.phase) := hi.kept
  refine ⟨hkept.keeps.balanced, StartServer.card_openSockets_le hi, ?_, ?_⟩
  · intro hp hstop
    have hs := hi.shape
    rw [hp, hstop] at hs
    obtain ⟨control, hc⟩ := Option.ne_none_iff_exists'.mp fun hn => absurd (hs.1 hn) (by decide)
    obtain ⟨input, hin⟩ := Option.ne_none_iff_exists'.mp fun hn => absurd (hs.2.1 hn) (by decide)
    refine ⟨control, input, hc, hin, ?_⟩
    simp [StartServer.openSockets, Sockets.fields, hs.2.2, hc, hin, hp, StartServer.locals]
  · intro l' t hresult hpath hclose
    have hi' := Inv.of_run (StartServer.discipline key) (h.append hpath)
    have hkept' : t.sockets.Kept (StartServer.locals t.phase) := hi'.kept
    have hdone : ∀ s' b a, StartServer.starter key s' b s.phase a = none := by
      intro s' b a
      cases hp : s.phase with
      | returned _ | lost _ => rfl
      | _ => rw [hp] at hresult; cases hresult
    obtain ⟨hp', hf⟩ := fields_of_path hdone rfl hpath
    rw [StartServer.runWith_iff_isLost h, hkept'.allClosed_iff, hf hclose, hp',
      Multiset.zero_add]
    cases hp : s.phase with
    | returned _ => exact iff_of_true rfl rfl
    | lost control =>
      refine iff_of_false (Multiset.singleton_ne_zero control) ?_
      simp [StartServer.Phase.isLost]
    | _ => rw [hp] at hresult; cases hresult

/-- A `Stop()` while the thread is in `ReceiveAll`, with a client that knows the key. -/
def stoppedWhileReceiving : List (StartAct StartServer.Answer) :=
  [.starter (.result true), .starter (.result true), .starter (.result true),
    .starter (.result true), .starter (.result true), .starter (.result true),
    .starter (.result true), .starter (.result true), .starter (.result true),
    .stopExchange, .stopClose,
    .starter (.bytes (makeControlFrame .hello 7 0 {} 1234).toBytes), .starter (.result true)]

/-- The socket of that client stays open, also after the destructor's `Stop()`. -/
theorem server_sockets_closed_not :
    ∃ s t, (StartServer.system 1234).Run stoppedWhileReceiving s ∧
      s.phase.result = some false ∧
      (StartServer.system 1234).Path s [.stopExchange, .stopClose] t ∧
      ¬ AllClosed t.sockets.calls := by
  have hend : ((StartServer.system 1234).exec (StartServer.system 1234).init
      stoppedWhileReceiving).map (·.phase) = some (.lost 2) := rfl
  obtain ⟨s, hs, hp⟩ := Option.map_eq_some_iff.mp hend
  have hrun := System.run_of_exec hs
  have hresult : s.phase.result = some false := by rw [hp]; rfl
  have hpath : (StartServer.system 1234).Path s [.stopExchange, .stopClose]
      { s with stopRequested := true, sockets := s.sockets.closeAll } :=
    .snoc (.snoc .refl rfl) rfl
  refine ⟨s, _, hrun, hresult, hpath, fun hall => ?_⟩
  have hwith := ((server_sockets_closed hrun).2.2.2 _ _ (by rw [hresult]; rfl) hpath
    (by decide)).mp hall
  have hnot := (StartServer.runWith_iff_isLost hrun).mp hwith
  rw [hp] at hnot
  cases hnot

end RemoteController
