import RemoteController.LanClient.Lifecycle
import RemoteController.LanServer.Release
import RemoteController.RumbleMailbox
import RemoteController.Udp.Frame

/-!
# Rumble from end to end

A rumble command goes from the driver's callback into the mailbox of the server's
transport, from there as a frame over the TCP stream, from the client's control
thread into the mailbox of the device, and from there to the motors.  The threads
on the way are the callback (one at a time), the two control loops and the poll
thread of the device; the client opens the device some time after its control
thread has started.

The stream keeps every frame and their order (`FramedStream.Framed.take_eq` has this
for any segmentation), so it is a list of frames here.

* `RumblePath.next`: what the threads can do.
* `Converged`: the motors run as the last accepted command says.
* `Carried`: where the commands are on their way, as long as each `SetRumble` of a
  running session finds the device open.
* `converges_of_run`: in such a run every quiescent state has converged, unless a
  generation has come round.
* `early_rumble_lost`: a command that arrives before the device is open is lost.
-/

namespace RemoteController

open Lib Protocol

/-- Where the driver's call of `OnRumble` is: past the locked section, past the
test of `SendRumble`, or between its two stores. -/
inductive ServerCall where
  | idle
  | admitted (command : RumbleCommand)
  | connected (command : RumbleCommand)
  | stored (command : RumbleCommand)
  deriving DecidableEq, Repr

/-- Where the client's control thread is with a command: before the locked section
of `OnRumble`, past it, past the test of `SetRumble`, or between its two stores.
`left`: its loop has ended. -/
inductive ControlCall where
  | idle
  | taken (command : RumbleCommand)
  | admitted (command : RumbleCommand)
  | found (command : RumbleCommand)
  | stored (command : RumbleCommand)
  | left
  deriving DecidableEq, Repr

/-- `connected_` of the server: not yet set, set, or cleared again. -/
inductive Link where
  | waiting
  | connected
  | gone
  deriving DecidableEq, Repr

/-- `commanded` are the commands for which `SendRumble` returned true, `handled`
those the client's control thread has taken from the stream, and `rumbled` those
given to `rumble_gamepad`.  `polling`: the poll thread is in its loop, and
`polled`: it has been through the rumble part of it. -/
structure RumblePath where
  server : Monitor.State LanControllerServer
  link : Link := .waiting
  calling : ServerCall := .idle
  serverBox : RumbleAtomics := {}
  commanded : List RumbleCommand := []
  stream : List PlaintextControlFrameV1 := []
  client : ClientSide
  handling : ControlCall := .idle
  handled : List RumbleCommand := []
  clientBox : RumbleAtomics := {}
  polling : Bool := false
  polled : Bool := false
  rumbled : List RumbleCommand := []

namespace RumblePath

inductive Label where
  -- the server
  | server (a : Monitor.Label LanControllerServer.Section Bool)
  | connects
  | disconnects
  | stops
  | onRumble (command : RumbleCommand)
  | sendRumble
  | storeRumble
  | advanceRumble
  | serverLoads
  | serverReads
  | serverSends
  | serverRecords
  -- the client
  | client (a : ClientLabel)
  | takeFrame
  | clientOnRumble
  | setRumble
  | storeSetRumble
  | advanceSetRumble
  | pollLoads
  | pollReads
  | pollRumbles
  | pollRecords
  deriving DecidableEq, Repr

/-- The step belongs to the threads below. -/
def ownRumble : ClientLabel → Bool
  | .onRumble _ => true
  | _ => false

/-- The poll thread calls back in this step, or is joined in it. -/
def betweenRounds : ClientLabel → Bool
  | .onInputState _ _ | .onInputDisconnected | .workerCloses | .stopCloses => true
  | _ => false

/-- The poll thread leaves its loop in this step. -/
def endsPolling : ClientLabel → Bool
  | .onInputDisconnected | .workerCloses | .stopCloses => true
  | _ => false

/-- What the step does to the poll thread, which ends with a rumble of (0, 0). -/
def pollStep (s : RumblePath) (a : ClientLabel) : RumblePath :=
  if a = .openDevice true then { s with polling := true }
  else if s.polling && endsPolling a then
    { s with polling := false, rumbled := s.rumbled ++ [{}] }
  else s

variable (inputTimeout : Nat) (sessionId : UInt32)

def next (s : RumblePath) : Label → Option RumblePath
  | .server a =>
    ((LanControllerServer.monitor inputTimeout).next s.server a).map fun server =>
      { s with server := server }
  | .connects => if s.link = .waiting then some { s with link := .connected } else none
  | .disconnects => if s.link = .connected then some { s with link := .gone } else none
  -- `Stop()` sends its frame before it clears `connected_`
  | .stops =>
    if s.link = .connected then
      some { s with link := .gone, stream := s.stream ++ [makeControlFrame .stop sessionId] }
    else none
  -- `OnRumble` and `SendRumble`
  | .onRumble command =>
    if s.calling = .idle then
      some { s with
        server := (LanControllerServer.monitor inputTimeout).afterLocked s.server (.onRumble command)
        calling := if s.server.core.state = .running then .admitted command else .idle }
    else none
  | .sendRumble =>
    match s.calling with
    | .admitted command =>
      some { s with calling := if s.link = .connected then .connected command else .idle }
    | _ => none
  | .storeRumble =>
    match s.calling with
    | .connected command =>
      (s.serverBox.next (.store command)).map fun box =>
        { s with serverBox := box, calling := .stored command }
    | _ => none
  | .advanceRumble =>
    match s.calling with
    | .stored command =>
      (s.serverBox.next (.increment command)).map fun box =>
        { s with serverBox := box, calling := .idle, commanded := s.commanded ++ [command] }
    | _ => none
  -- the rumble part of `ServerControlLoop`
  | .serverLoads => (s.serverBox.next .load).map fun box => { s with serverBox := box }
  | .serverReads => (s.serverBox.next .read).map fun box => { s with serverBox := box }
  | .serverSends =>
    match s.serverBox.consumer with
    | .read generation packed =>
      (s.serverBox.next (.apply true)).map fun box =>
        { s with
          serverBox := box
          stream := s.stream ++
            [makeControlFrame .rumble sessionId generation (.ofPacked packed)] }
    | _ => none
  | .serverRecords => (s.serverBox.next .record).map fun box => { s with serverBox := box }
  -- the worker, the poll thread's callbacks and `Stop()` of the client
  | .client a =>
    if ownRumble a = true ∨ betweenRounds a = true ∧ s.clientBox.consumer ≠ .idle ∨
        a = .controlEnds ∧ s.handling ≠ .idle ∧ s.handling ≠ .left then none
    else (s.client.step sessionId a).map fun client => { s.pollStep a with client := client }
  -- `ClientControlLoop`
  | .takeFrame =>
    if s.handling = .idle ∧ s.client.control = .running then
      match s.stream with
      | [] => none
      | frame :: rest =>
        if validControlFrame frame .rumble s.client.transport.sessionId then
          some { s with
            stream := rest
            handling := .taken ⟨frame.lowFrequencyMotor, frame.highFrequencyMotor⟩
            handled := s.handled ++ [⟨frame.lowFrequencyMotor, frame.highFrequencyMotor⟩] }
        else
          let signal : ClientLabel :=
            if validControlFrame frame .stop s.client.transport.sessionId then
              .signalDisconnected 0 "The server stopped the trusted-LAN session."
            else
              .signalDisconnected WSAEPROTONOSUPPORT
                "An invalid plaintext control frame was received."
          (s.client.step sessionId signal).map fun client =>
            { s with stream := rest, handling := .left, client := client }
    else none
  -- `OnRumble` and `SetRumble`
  | .clientOnRumble =>
    match s.handling with
    | .taken command =>
      (s.client.step sessionId (.onRumble command)).map fun client =>
        { s with
          client := client
          handling := if (s.client.core.onRumble command).2 then .admitted command else .idle }
    | _ => none
  | .setRumble =>
    match s.handling with
    | .admitted command =>
      some { s with handling := if s.client.isOpen then .found command else .idle }
    | _ => none
  | .storeSetRumble =>
    match s.handling with
    | .found command =>
      (s.clientBox.next (.store command)).map fun box =>
        { s with clientBox := box, handling := .stored command }
    | _ => none
  | .advanceSetRumble =>
    match s.handling with
    | .stored command =>
      (s.clientBox.next (.increment command)).map fun box =>
        { s with clientBox := box, handling := .idle }
    | _ => none
  -- the rumble part of `PollLoop`
  | .pollLoads =>
    if s.polling = true ∧ s.client.poll = .idle then
      (s.clientBox.next .load).map fun box => { s with clientBox := box, polled := true }
    else none
  | .pollReads =>
    if s.polling then (s.clientBox.next .read).map fun box => { s with clientBox := box } else none
  | .pollRumbles =>
    match s.clientBox.consumer with
    | .read _ packed =>
      if s.polling then
        (s.clientBox.next (.apply true)).map fun box =>
          { s with clientBox := box, rumbled := s.rumbled ++ [.ofPacked packed] }
      else none
    | _ => none
  | .pollRecords =>
    if s.polling then (s.clientBox.next .record).map fun box => { s with clientBox := box }
    else none

/-- Both sessions when their `Start()` has returned `kOk`. -/
def started (now : Nat) : RumblePath where
  server := ⟨LanControllerServer.started, now, .outside, 0⟩
  client := .started

def system (now : Nat) : System RumblePath Label where
  init := started now
  next := next inputTimeout sessionId

/-! ### The statement -/

/-- Both sessions are running and connected, every command is through, and the
device is open and polled. -/
structure Quiescent (s : RumblePath) : Prop where
  serverRunning : s.server.core.state = .running
  serverConnected : s.link = .connected
  clientRunning : s.client.core.state = .running
  clientConnected : s.client.transport.connected = true
  called : s.calling = .idle
  sent : s.serverBox.appliedRumbleGeneration = s.serverBox.rumbleGeneration
  stream : s.stream = []
  handled : s.handling = .idle
  rumbled : s.clientBox.appliedRumbleGeneration = s.clientBox.rumbleGeneration
  opened : s.client.isOpen = true
  polled : s.polled = true

/-- **The motors run as the last accepted command says.** -/
def Converged (s : RumblePath) : Prop :=
  match s.commanded.getLast? with
  | some command => s.rumbled.getLast? = some command
  | none => s.rumbled.getLast? = none ∨ s.rumbled.getLast? = some {}

/-- While the client's session runs, no `SetRumble` comes before the device is
open. -/
def DeviceOpen (s : RumblePath) : Label → Prop
  | .setRumble => s.client.isOpen = true ∨ s.client.core.state ≠ .running
  | _ => True

instance (s : RumblePath) (a : Label) : Decidable (s.DeviceOpen a) :=
  match a with
  | .setRumble =>
    inferInstanceAs (Decidable (s.client.isOpen = true ∨ s.client.core.state ≠ .running))
  | .server _ | .connects | .disconnects | .stops | .onRumble _ | .sendRumble | .storeRumble
  | .advanceRumble | .serverLoads | .serverReads | .serverSends | .serverRecords | .client _
  | .takeFrame | .clientOnRumble | .storeSetRumble | .advanceSetRumble | .pollLoads | .pollReads
  | .pollRumbles | .pollRecords => .isTrue trivial

/-! ### The invariant -/

/-- What the driver's call has stored without advancing the generation yet. -/
def written : ServerCall → List RumbleCommand
  | .stored command => [command]
  | _ => []

/-- The command that the control thread has taken and not yet stored. -/
def inHand : ControlCall → List RumbleCommand
  | .taken command | .admitted command | .found command => [command]
  | _ => []

/-- What the control thread has stored without advancing the generation yet. -/
def writing : ControlCall → List RumbleCommand
  | .stored command => [command]
  | _ => []

/-- The command in a rumble frame of the session. -/
def commandOf (sessionId : UInt32) (frame : PlaintextControlFrameV1) : Option RumbleCommand :=
  if validControlFrame frame .rumble sessionId then
    some ⟨frame.lowFrequencyMotor, frame.highFrequencyMotor⟩
  else none

theorem commandOf_rumble (sessionId : UInt32) (sequence : UInt64) (command : RumbleCommand) :
    commandOf sessionId (makeControlFrame .rumble sessionId sequence command) = some command :=
  if_pos ((validControlFrame_make _ _ _ _ _ _ _).mpr ⟨rfl, rfl⟩)

theorem commandOf_stop (sessionId : UInt32) :
    commandOf sessionId (makeControlFrame .stop sessionId) = none := by
  refine if_neg ?_
  rw [validControlFrame_make]
  rintro ⟨h, _⟩
  cases h

/-- Where the commands are, from the first mailbox to the motors.  What is behind
the stream counts only while the client's session runs. -/
structure Carried (sessionId : UInt32) (s : RumblePath) : Prop where
  run : ∃ l, (ClientSide.system sessionId).Run l s.client
  serverBox : s.serverBox.Backed
  clientBox : s.clientBox.Backed
  serverSetting : s.serverBox.setting = written s.calling
  clientSetting : s.clientBox.setting = writing s.handling
  commanded : s.serverBox.stored = s.commanded ++ written s.calling
  stream : s.client.core.state = .running →
    s.serverBox.applied = s.handled ++ s.stream.filterMap (commandOf sessionId)
  handled : s.client.core.state = .running → s.handled = s.clientBox.stored ++ inHand s.handling
  rumbled : s.client.core.state = .running → s.rumbled = s.clientBox.applied

theorem carried_started (sessionId : UInt32) (now : Nat) : Carried sessionId (started now) where
  run := ⟨[], .refl⟩
  serverBox := RumbleAtomics.backed_init
  clientBox := RumbleAtomics.backed_init
  serverSetting := rfl
  clientSetting := rfl
  commanded := rfl
  stream := fun _ => rfl
  handled := fun _ => rfl
  rumbled := fun _ => rfl

variable {inputTimeout : Nat} {sessionId : UInt32} {s : RumblePath}

/-! ### The server's threads -/

/-- A step of the server's loop that sends nothing. -/
theorem Carried.serverStep (hi : Carried sessionId s) {a : RumbleAtomics.Label}
    {box : RumbleAtomics} (ha : a.ofLoop = true) (hb : s.serverBox.next a = some box) :
    Carried sessionId { s with serverBox := box } := by
  have hs := RumbleAtomics.sameCommands_of_loop ha hb
  exact { hi with
    serverBox := hi.serverBox.next hb
    serverSetting := hs.setting.trans hi.serverSetting
    commanded := hs.stored.trans hi.commanded
    stream := fun hr => hs.applied.trans (hi.stream hr) }

/-- The driver's call goes on without touching the mailbox. -/
theorem Carried.call (hi : Carried sessionId s) {call : ServerCall} (h : written s.calling = [])
    (hc : written call = []) (server : Monitor.State LanControllerServer) :
    Carried sessionId { s with server := server, calling := call } :=
  { hi with
    serverSetting := by
      show s.serverBox.setting = written call
      rw [hc, hi.serverSetting, h]
    commanded := by
      show s.serverBox.stored = s.commanded ++ written call
      rw [hc, hi.commanded, h] }

theorem Carried.storeRumble (hi : Carried sessionId s) {command : RumbleCommand}
    {box : RumbleAtomics} (h : s.calling = .connected command)
    (hb : s.serverBox.next (.store command) = some box) :
    Carried sessionId { s with serverBox := box, calling := .stored command } := by
  have hset := hi.serverSetting
  have hst := hi.commanded
  rw [h] at hset hst
  have hbox := hi.serverBox.next hb
  obtain rfl := Option.some.inj hb
  refine { hi with serverBox := hbox, serverSetting := congrArg _ hset, commanded := ?_ }
  show s.serverBox.stored ++ [command] = s.commanded ++ [command]
  rw [hst]
  exact congrArg (· ++ _) (List.append_nil _)

theorem Carried.advanceRumble (hi : Carried sessionId s) {command : RumbleCommand}
    {box : RumbleAtomics} (h : s.calling = .stored command)
    (hb : s.serverBox.next (.increment command) = some box) :
    Carried sessionId { s with
      serverBox := box, calling := .idle, commanded := s.commanded ++ [command] } := by
  have hset := hi.serverSetting
  have hst := hi.commanded
  rw [h] at hset hst
  obtain ⟨hset', hst', happ⟩ := RumbleAtomics.increment_some hb
  refine { hi with serverBox := hi.serverBox.next hb, serverSetting := ?_, commanded := ?_,
                   stream := fun hr => happ.trans (hi.stream hr) }
  · show box.setting = []
    rw [hset', hset]
    simp [written]
  · show box.stored = s.commanded ++ [command] ++ []
    rw [hst', hst, List.append_nil]
    rfl

theorem Carried.serverSends (hi : Carried sessionId s) {generation : UInt64} {packed : UInt32}
    {box : RumbleAtomics} (hc : s.serverBox.consumer = .read generation packed)
    (hb : s.serverBox.next (.apply true) = some box) :
    Carried sessionId { s with
      serverBox := box
      stream := s.stream ++
        [makeControlFrame .rumble sessionId generation (.ofPacked packed)] } := by
  obtain ⟨hset, hst, happ⟩ := RumbleAtomics.apply_some hc hb
  refine { hi with serverBox := hi.serverBox.next hb, serverSetting := hset.trans hi.serverSetting,
                   commanded := hst.trans hi.commanded, stream := fun hr => ?_ }
  show box.applied = s.handled ++ (s.stream ++ [_]).filterMap (commandOf sessionId)
  rw [happ, hi.stream hr, List.filterMap_append, List.append_assoc]
  congr 2
  simp [commandOf_rumble]

/-- The STOP frame carries no command. -/
theorem Carried.stops (hi : Carried sessionId s) (link : Link) :
    Carried sessionId { s with
      link := link, stream := s.stream ++ [makeControlFrame .stop sessionId] } := by
  refine { hi with stream := fun hr => ?_ }
  show s.serverBox.applied = s.handled ++ (s.stream ++ [_]).filterMap _
  rw [hi.stream hr, List.filterMap_append]
  simp [commandOf_stop]

/-! ### The client's threads -/

theorem pollStep_fields (s : RumblePath) (a : ClientLabel) :
    (s.pollStep a).serverBox = s.serverBox ∧ (s.pollStep a).calling = s.calling ∧
      (s.pollStep a).commanded = s.commanded ∧ (s.pollStep a).stream = s.stream ∧
      (s.pollStep a).handling = s.handling ∧ (s.pollStep a).handled = s.handled ∧
      (s.pollStep a).clientBox = s.clientBox ∧
      ((s.pollStep a).rumbled = s.rumbled ∨ endsPolling a = true) := by
  unfold pollStep
  split
  · exact ⟨rfl, rfl, rfl, rfl, rfl, rfl, rfl, Or.inl rfl⟩
  · split
    · rename_i h
      simp only [Bool.and_eq_true] at h
      exact ⟨rfl, rfl, rfl, rfl, rfl, rfl, rfl, Or.inr h.2⟩
    · exact ⟨rfl, rfl, rfl, rfl, rfl, rfl, rfl, Or.inl rfl⟩

/-- The poll thread leaves its loop only when the session is over. -/
theorem over_of_endsPolling {a : ClientLabel} {c : ClientSide} {l : List ClientLabel}
    (hc : (ClientSide.system sessionId).Run l s.client) (he : endsPolling a = true)
    (h : s.client.step sessionId a = some c) : c.core.state ≠ .running := by
  have hf := ClientSide.fades_step h
  replace h := ClientSide.act_of_step h
  cases a with
  | onInputDisconnected =>
    simp only [ClientSide.act, Option.ite_none_right_eq_some, Option.some.injEq] at h
    obtain ⟨_, rfl⟩ := h
    exact s.client.core.disconnect_state
  | workerCloses =>
    simp only [ClientSide.act, Option.ite_none_right_eq_some, Option.some.injEq] at h
    obtain ⟨⟨hw, _⟩, rfl⟩ := h
    exact fun hr => (ClientSide.lifecycle_run hc).leaving (by rw [hw]; rfl) (hf hr).1
  | stopCloses =>
    cases hs : s.client.stop <;> simp only [ClientSide.act, hs, reduceCtorEq] at h
    have hstopped := (ClientSide.ordered_run hc).stopped fun he => by rw [hs] at he; cases he
    intro hr
    rw [(hf hr).1] at hstopped
    cases hstopped
  | _ => cases he

theorem Carried.clientStep (hi : Carried sessionId s) {a : ClientLabel} {c : ClientSide}
    (h : s.client.step sessionId a = some c) :
    Carried sessionId { s.pollStep a with client := c } := by
  obtain ⟨l, hc⟩ := hi.run
  have hback : c.core.state = .running → s.client.core.state = .running :=
    fun hr => (ClientSide.fades_step h hr).1
  obtain ⟨h1, h2, h3, h4, h5, h6, h7, h8⟩ := s.pollStep_fields a
  refine ⟨⟨_, .snoc hc h⟩, ?_, ?_, ?_, ?_, ?_, ?_, ?_, ?_⟩
  · exact h1 ▸ hi.serverBox
  · exact h7 ▸ hi.clientBox
  · show (s.pollStep a).serverBox.setting = written (s.pollStep a).calling
    rw [h1, h2]; exact hi.serverSetting
  · show (s.pollStep a).clientBox.setting = writing (s.pollStep a).handling
    rw [h7, h5]; exact hi.clientSetting
  · show (s.pollStep a).serverBox.stored =
      (s.pollStep a).commanded ++ written (s.pollStep a).calling
    rw [h1, h2, h3]; exact hi.commanded
  · intro hr
    show (s.pollStep a).serverBox.applied =
      (s.pollStep a).handled ++ (s.pollStep a).stream.filterMap _
    rw [h1, h4, h6]; exact hi.stream (hback hr)
  · intro hr
    show (s.pollStep a).handled = (s.pollStep a).clientBox.stored ++ inHand (s.pollStep a).handling
    rw [h6, h7, h5]; exact hi.handled (hback hr)
  · intro hr
    show (s.pollStep a).rumbled = (s.pollStep a).clientBox.applied
    rw [h7]
    rcases h8 with h8 | h8
    · rw [h8]; exact hi.rumbled (hback hr)
    · exact absurd hr (over_of_endsPolling hc h8 h)

/-- While the session runs, the control thread knows the frames of the session. -/
theorem Carried.commandOf_eq (hi : Carried sessionId s) (hc : s.client.control = .running)
    (hr : s.client.core.state = .running) (frame : PlaintextControlFrameV1) :
    commandOf sessionId frame =
      if validControlFrame frame .rumble s.client.transport.sessionId then
        some ⟨frame.lowFrequencyMotor, frame.highFrequencyMotor⟩
      else none := by
  obtain ⟨l, hrun⟩ := hi.run
  rw [(ClientSide.lifecycle_run hrun).sessionId (by rw [hc]; nofun) hr]
  rfl

/-- The control thread takes a command. -/
theorem Carried.takeCommand (hi : Carried sessionId s) (hh : s.handling = .idle)
    (hc : s.client.control = .running) {frame : PlaintextControlFrameV1}
    {rest : List PlaintextControlFrameV1} (hs : s.stream = frame :: rest)
    (hv : validControlFrame frame .rumble s.client.transport.sessionId = true) :
    Carried sessionId { s with
      stream := rest
      handling := .taken ⟨frame.lowFrequencyMotor, frame.highFrequencyMotor⟩
      handled := s.handled ++ [⟨frame.lowFrequencyMotor, frame.highFrequencyMotor⟩] } := by
  have hcw := hi.clientSetting
  rw [hh] at hcw
  refine { hi with clientSetting := hcw, stream := fun hr => ?_, handled := fun hr => ?_ }
  · show s.serverBox.applied = (s.handled ++ [_]) ++ rest.filterMap _
    have hsome := hi.commandOf_eq hc hr frame
    rw [if_pos hv] at hsome
    rw [hi.stream hr, hs, List.filterMap_cons_some hsome, List.append_assoc]
    rfl
  · have hha := hi.handled hr
    rw [hh] at hha
    show s.handled ++ [_] = s.clientBox.stored ++ [_]
    rw [hha]
    exact congrArg (· ++ _) (List.append_nil _)

/-- The control thread takes a frame that ends its loop. -/
theorem Carried.takeOther (hi : Carried sessionId s) (hh : s.handling = .idle)
    (hc : s.client.control = .running) {frame : PlaintextControlFrameV1}
    {rest : List PlaintextControlFrameV1} (hs : s.stream = frame :: rest)
    (hv : ¬ validControlFrame frame .rumble s.client.transport.sessionId = true) {error : UInt32}
    {message : String} {client : ClientSide}
    (h : s.client.step sessionId (.signalDisconnected error message) = some client) :
    Carried sessionId { s with stream := rest, handling := .left, client := client } := by
  have hcw := hi.clientSetting
  rw [hh] at hcw
  have hclient : Carried sessionId { s with client := client } := by
    have hstep := hi.clientStep h
    rwa [show s.pollStep (.signalDisconnected error message) = s by
      simp [pollStep, endsPolling]] at hstep
  have hback : client.core.state = .running → s.client.core.state = .running :=
    fun hr => (ClientSide.fades_step h hr).1
  refine { hclient with clientSetting := hcw, stream := fun hr => ?_, handled := fun hr => ?_ }
  · show s.serverBox.applied = s.handled ++ rest.filterMap _
    have hnone := hi.commandOf_eq hc (hback hr) frame
    rw [if_neg hv] at hnone
    rw [hi.stream (hback hr), hs, List.filterMap_cons_none hnone]
  · have hha := hi.handled (hback hr)
    rw [hh] at hha
    exact hha

/-- The control thread goes on without touching the mailbox. -/
theorem Carried.handle (hi : Carried sessionId s) {call : ControlCall}
    (hw : writing s.handling = writing call)
    (hc : s.client.core.state = .running → inHand call = inHand s.handling) :
    Carried sessionId { s with handling := call } :=
  { hi with
    clientSetting := hi.clientSetting.trans hw
    handled := fun hr => by
      show s.handled = _ ++ inHand call
      rw [hc hr]
      exact hi.handled hr }

theorem Carried.clientOnRumble (hi : Carried sessionId s) {command : RumbleCommand}
    (h : s.handling = .taken command) {client : ClientSide}
    (hstep : s.client.step sessionId (.onRumble command) = some client) :
    Carried sessionId { s with
      client := client
      handling := if (s.client.core.onRumble command).2 then .admitted command else .idle } := by
  have hclient : Carried sessionId { s with client := client } := by
    have hc := hi.clientStep hstep
    rwa [show s.pollStep (.onRumble command) = s by simp [pollStep, endsPolling]] at hc
  refine hclient.handle ?_ ?_
  · show writing s.handling = _
    rw [h]
    split <;> rfl
  · intro hr
    -- a session that runs admits the command
    have hrun : s.client.core.state = .running := (ClientSide.fades_step hstep hr).1
    have hgo : (s.client.core.onRumble command).2 = true := by
      rw [LanControllerClient.onRumble, if_neg (not_not.mpr hrun)]
    show inHand (if _ then _ else _) = inHand s.handling
    rw [h, if_pos hgo]
    rfl

/-- `SetRumble` tests the device. -/
theorem Carried.setRumble (hi : Carried sessionId s) {command : RumbleCommand}
    (h : s.handling = .admitted command)
    (hok : s.client.isOpen = true ∨ s.client.core.state ≠ .running) :
    Carried sessionId { s with handling := if s.client.isOpen then .found command else .idle } := by
  refine hi.handle (by rw [h]; split <;> rfl) fun hr => ?_
  have hopen : s.client.isOpen = true := hok.resolve_right (not_not_intro hr)
  rw [if_pos hopen, h]
  rfl

theorem Carried.storeSetRumble (hi : Carried sessionId s) {command : RumbleCommand}
    {box : RumbleAtomics} (h : s.handling = .found command)
    (hb : s.clientBox.next (.store command) = some box) :
    Carried sessionId { s with clientBox := box, handling := .stored command } := by
  have hset := hi.clientSetting
  have hha := hi.handled
  rw [h] at hset hha
  have hbox := hi.clientBox.next hb
  obtain rfl := Option.some.inj hb
  refine { hi with clientBox := hbox, clientSetting := congrArg _ hset, handled := fun hr => ?_ }
  show s.handled = (s.clientBox.stored ++ [command]) ++ []
  rw [hha hr, List.append_nil]
  rfl

theorem Carried.advanceSetRumble (hi : Carried sessionId s) {command : RumbleCommand}
    {box : RumbleAtomics} (h : s.handling = .stored command)
    (hb : s.clientBox.next (.increment command) = some box) :
    Carried sessionId { s with clientBox := box, handling := .idle } := by
  have hset := hi.clientSetting
  have hha := hi.handled
  rw [h] at hset hha
  obtain ⟨hset', hst, happ⟩ := RumbleAtomics.increment_some hb
  refine { hi with clientBox := hi.clientBox.next hb, clientSetting := ?_,
                   handled := fun hr => ?_, rumbled := fun hr => (hi.rumbled hr).trans happ.symm }
  · show box.setting = []
    rw [hset', hset]
    simp [writing]
  · show s.handled = box.stored ++ _
    rw [hst]
    exact hha hr

/-- A step of the poll thread that does not move the motors. -/
theorem Carried.pollLoop (hi : Carried sessionId s) {a : RumbleAtomics.Label} {box : RumbleAtomics}
    (ha : a.ofLoop = true) (hb : s.clientBox.next a = some box) :
    Carried sessionId { s with clientBox := box } := by
  have hs := RumbleAtomics.sameCommands_of_loop ha hb
  exact { hi with
    clientBox := hi.clientBox.next hb
    clientSetting := hs.setting.trans hi.clientSetting
    handled := fun hr => by
      show s.handled = box.stored ++ _
      rw [hs.stored]
      exact hi.handled hr
    rumbled := fun hr => (hi.rumbled hr).trans hs.applied.symm }

theorem Carried.pollRumbles (hi : Carried sessionId s) {generation : UInt64} {packed : UInt32}
    {box : RumbleAtomics} (hc : s.clientBox.consumer = .read generation packed)
    (hb : s.clientBox.next (.apply true) = some box) :
    Carried sessionId { s with clientBox := box, rumbled := s.rumbled ++ [.ofPacked packed] } := by
  obtain ⟨hset, hst, happ⟩ := RumbleAtomics.apply_some hc hb
  refine { hi with clientBox := hi.clientBox.next hb, clientSetting := hset.trans hi.clientSetting,
                   handled := fun hr => ?_, rumbled := fun hr => ?_ }
  · show s.handled = box.stored ++ _
    rw [hst]
    exact hi.handled hr
  · show s.rumbled ++ [_] = box.applied
    rw [happ, hi.rumbled hr]

/-! ### Runs -/

/-- The step is one of the server's threads. -/
def Label.ofServer : Label → Bool
  | .server _ | .connects | .disconnects | .stops | .onRumble _ | .sendRumble | .storeRumble
  | .advanceRumble | .serverLoads | .serverReads | .serverSends | .serverRecords => true
  | _ => false

theorem Carried.ofServer {t : RumblePath} {a : Label} (hi : Carried sessionId s)
    (ha : a.ofServer = true) (h : s.next inputTimeout sessionId a = some t) :
    Carried sessionId t := by
  cases a with
  | server a =>
    obtain ⟨server, _, rfl⟩ := Option.map_eq_some_iff.mp h
    exact { hi with }
  | connects | disconnects =>
    simp only [next, Option.ite_none_right_eq_some, Option.some.injEq] at h
    obtain ⟨_, rfl⟩ := h
    exact { hi with }
  | stops =>
    simp only [next, Option.ite_none_right_eq_some, Option.some.injEq] at h
    obtain ⟨_, rfl⟩ := h
    exact hi.stops _
  | onRumble command =>
    simp only [next, Option.ite_none_right_eq_some, Option.some.injEq] at h
    obtain ⟨hc, rfl⟩ := h
    exact hi.call (by rw [hc]; rfl) (by split <;> rfl) _
  | sendRumble =>
    cases hc : s.calling <;> simp only [next, hc, reduceCtorEq, Option.some.injEq] at h
    subst h
    exact hi.call (by rw [hc]; rfl) (by split <;> rfl) s.server
  | storeRumble =>
    cases hc : s.calling <;> simp only [next, hc, reduceCtorEq, Option.map_eq_some_iff] at h
    obtain ⟨box, hb, rfl⟩ := h
    exact hi.storeRumble hc hb
  | advanceRumble =>
    cases hc : s.calling <;> simp only [next, hc, reduceCtorEq, Option.map_eq_some_iff] at h
    obtain ⟨box, hb, rfl⟩ := h
    exact hi.advanceRumble hc hb
  | serverLoads | serverReads | serverRecords =>
    obtain ⟨box, hb, rfl⟩ := Option.map_eq_some_iff.mp h
    exact hi.serverStep rfl hb
  | serverSends =>
    cases hc : s.serverBox.consumer <;>
      simp only [next, hc, reduceCtorEq, Option.map_eq_some_iff] at h
    obtain ⟨box, hb, rfl⟩ := h
    exact hi.serverSends hc hb
  | _ => cases ha

theorem Carried.takeFrame {t : RumblePath} (hi : Carried sessionId s)
    (h : s.next inputTimeout sessionId .takeFrame = some t) : Carried sessionId t := by
  simp only [next, Option.ite_none_right_eq_some] at h
  obtain ⟨⟨hh, hc⟩, h⟩ := h
  cases hs : s.stream with
  | nil => simp only [hs, reduceCtorEq] at h
  | cons frame rest =>
    simp only [hs] at h
    split at h
    · rename_i hv
      obtain rfl := Option.some.inj h
      exact hi.takeCommand hh hc hs hv
    · rename_i hv
      obtain ⟨client, hstep, rfl⟩ := Option.map_eq_some_iff.mp h
      split at hstep <;> exact hi.takeOther hh hc hs hv hstep

/-- **Every step carries the commands on**, if `SetRumble` finds the device open. -/
theorem carried_step {t : RumblePath} {a : Label} (hi : Carried sessionId s) (hok : s.DeviceOpen a)
    (h : s.next inputTimeout sessionId a = some t) : Carried sessionId t := by
  cases a with
  | client a =>
    simp only [next] at h
    split at h
    · cases h
    · obtain ⟨client, hstep, rfl⟩ := Option.map_eq_some_iff.mp h
      exact hi.clientStep hstep
  | takeFrame => exact hi.takeFrame h
  | clientOnRumble =>
    cases hc : s.handling <;> simp only [next, hc, reduceCtorEq, Option.map_eq_some_iff] at h
    obtain ⟨client, hstep, rfl⟩ := h
    exact hi.clientOnRumble hc hstep
  | setRumble =>
    cases hc : s.handling <;> simp only [next, hc, reduceCtorEq, Option.some.injEq] at h
    subst h
    exact hi.setRumble hc hok
  | storeSetRumble =>
    cases hc : s.handling <;> simp only [next, hc, reduceCtorEq, Option.map_eq_some_iff] at h
    obtain ⟨box, hb, rfl⟩ := h
    exact hi.storeSetRumble hc hb
  | advanceSetRumble =>
    cases hc : s.handling <;> simp only [next, hc, reduceCtorEq, Option.map_eq_some_iff] at h
    obtain ⟨box, hb, rfl⟩ := h
    exact hi.advanceSetRumble hc hb
  | pollLoads =>
    simp only [next, Option.ite_none_right_eq_some, Option.map_eq_some_iff] at h
    obtain ⟨_, box, hb, rfl⟩ := h
    exact { hi.pollLoop rfl hb with }
  | pollReads | pollRecords =>
    simp only [next, Option.ite_none_right_eq_some, Option.map_eq_some_iff] at h
    obtain ⟨_, box, hb, rfl⟩ := h
    exact hi.pollLoop rfl hb
  | pollRumbles =>
    cases hc : s.clientBox.consumer <;>
      simp only [next, hc, reduceCtorEq, Option.ite_none_right_eq_some,
        Option.map_eq_some_iff] at h
    obtain ⟨_, box, hb, rfl⟩ := h
    exact hi.pollRumbles hc hb
  | server | connects | disconnects | stops | onRumble | sendRumble | storeRumble | advanceRumble
    | serverLoads | serverReads | serverSends | serverRecords => exact hi.ofServer rfl h

theorem carried_run {now : Nat} {l : List Label}
    (h : (system inputTimeout sessionId now).RunWith DeviceOpen l s) : Carried sessionId s :=
  System.RunWith.invariant (P := fun _ s => Carried sessionId s) (carried_started sessionId now)
    (fun _ _ _ _ _ hi hok hn => carried_step hi hok hn) h

/-- Through both mailboxes and the stream. -/
theorem Carried.last (hi : Carried sessionId s) (hq : Quiescent s)
    (hserver : ¬ s.serverBox.CameRound) (hclient : ¬ s.clientBox.CameRound) :
    s.rumbled.getLast? = s.commanded.getLast? := by
  have hr := hq.clientRunning
  have hsent : s.serverBox.applied.getLast? = s.serverBox.stored.getLast? :=
    hi.serverBox.last (by rw [hi.serverSetting, hq.called]; rfl) hq.sent hserver
  have hplayed : s.clientBox.applied.getLast? = s.clientBox.stored.getLast? :=
    hi.clientBox.last (by rw [hi.clientSetting, hq.handled]; rfl) hq.rumbled hclient
  have hhandled : s.handled = s.clientBox.stored := by
    rw [hi.handled hr, hq.handled]
    exact List.append_nil _
  have hstream : s.serverBox.applied = s.handled := by
    rw [hi.stream hr, hq.stream]
    exact List.append_nil _
  have hcommanded : s.serverBox.stored = s.commanded := by
    rw [hi.commanded, hq.called]
    exact List.append_nil _
  calc s.rumbled.getLast?
      = s.clientBox.applied.getLast? := by rw [hi.rumbled hr]
    _ = s.handled.getLast? := by rw [hplayed, hhandled]
    _ = s.serverBox.applied.getLast? := by rw [hstream]
    _ = s.commanded.getLast? := by rw [hsent, hcommanded]

/-- **Rumble converges, if the device is open in time**: in a run in which each
`SetRumble` of a running session finds it open, every quiescent state has the motors
as the last accepted command says, as long as neither generation has come round since
its consumer loaded the one it recorded. -/
theorem converges_of_run {now : Nat} {l : List Label}
    (h : (system inputTimeout sessionId now).RunWith DeviceOpen l s) (hq : Quiescent s)
    (hserver : ¬ s.serverBox.CameRound) (hclient : ¬ s.clientBox.CameRound) : Converged s := by
  have hlast := (carried_run h).last hq hserver hclient
  rw [Converged]
  split
  · rename_i command hc
    rw [hlast, hc]
  · rename_i hc
    rw [hlast, hc]
    exact Or.inl rfl

/-- Client and server connect, up to the start of both control threads. -/
def connecting : List Label :=
  [.client .inputSocket, .client .publish, .client .setSessionId, .client .startClientTests,
    .client .startClientReturns, .connects]

/-- The client opens its device. -/
def opening : List Label := [.client .takeLifecycle, .client (.openDevice true)]

/-- A command, up to the client's test of the device. -/
def commanding (command : RumbleCommand) : List Label :=
  [.onRumble command, .sendRumble, .storeRumble, .advanceRumble, .serverLoads, .serverReads,
    .serverSends, .serverRecords, .takeFrame, .clientOnRumble, .setRumble]

/-- The device is open when the command arrives. -/
def rumbleInTime : List Label :=
  connecting ++ opening ++ commanding ⟨100, 200⟩ ++
    [.storeSetRumble, .advanceSetRumble, .pollLoads, .pollReads, .pollRumbles, .pollRecords]

theorem converges_of_run_inTime : ∃ s,
    (system 100 7 0).RunWith DeviceOpen rumbleInTime s ∧ s.commanded = [⟨100, 200⟩] ∧
      Quiescent s ∧ Converged s :=
  have h : (system 100 7 0).RunWith DeviceOpen rumbleInTime _ := System.runWith_of_exec rfl
  have hq := ⟨rfl, rfl, rfl, rfl, rfl, rfl, rfl, rfl, rfl, rfl, rfl⟩
  ⟨_, h, rfl, hq, converges_of_run h hq (by decide) (by decide)⟩

/-- The command arrives before the device is open. -/
def rumbleTooEarly : List Label :=
  connecting ++ commanding ⟨100, 200⟩ ++ opening ++ [.pollLoads]

/-- **A command that arrives before the device is open is lost**, and the state in
which the motors stay off is quiescent. -/
theorem early_rumble_lost : ∃ s, (system 100 7 0).Run rumbleTooEarly s ∧
    s.commanded = [⟨100, 200⟩] ∧ s.rumbled = [] ∧ Quiescent s ∧ ¬ Converged s := by
  have h : (system 100 7 0).Run rumbleTooEarly _ := System.run_of_exec rfl
  obtain ⟨s, h, hcommanded, hrumbled, hq⟩ : ∃ s, (system 100 7 0).Run rumbleTooEarly s ∧
      s.commanded = [⟨100, 200⟩] ∧ s.rumbled = [] ∧ Quiescent s :=
    ⟨_, h, rfl, rfl, ⟨rfl, rfl, rfl, rfl, rfl, rfl, rfl, rfl, rfl, rfl, rfl⟩⟩
  refine ⟨s, h, hcommanded, hrumbled, hq, ?_⟩
  rw [Converged, hcommanded, hrumbled]
  intro hc
  cases hc

end RumblePath

end RemoteController
