import RemoteController.LanServer.Release
import RemoteController.Lib.Records
import RemoteController.Udp.Input

/-!
# How a server applies the frames it receives

`LanControllerServer` under the input thread of its transport, from the moment
that thread exists.  The thread tests the condition of its loop, waits in
`recvfrom`, and calls the session back before it tests again; the watchdog, the
control thread and the callers of `Stop()` move in between.

* `ServerSide.step`: what the threads can do.
* `applied_records`: what the server applied is a beginning of the records of what
  it received, and all of them while it is `kRunning`.
-/

namespace RemoteController

open Lib Protocol

/-- `reading`: the thread is past the test of its loop.  `callback`: what it is
about to call the session with.  `received` are the frames of the datagrams that
passed the test of the loop up to now, the sequence apart, and `applied` the
frames the session gave to the virtual controller. -/
structure ServerSide where
  input : ServerInput
  reading : Bool := false
  callback : Option InputEvent := none
  server : Monitor.State LanControllerServer
  received : List StateFrame := []
  applied : List StateFrame := []

inductive ServerLabel where
  | enterLoop
  | receive (d : Datagram)
  | receiveError (code : UInt32)
  | callback (submitOk neutralOk : Bool)
  | thread (a : Monitor.Label LanControllerServer.Section Bool)
  | signalDisconnected (error : UInt32) (message : String)
  | stopTransport
  | closeSockets
  deriving DecidableEq, Repr

namespace InputEvent

/-- The locked section that the callback runs. -/
def locked (submitOk neutralOk : Bool) : InputEvent → LanControllerServer.Section
  | .state frame => .onState frame submitOk neutralOk
  | .disconnected => .onTransportDisconnected neutralOk

/-- What the callback gives to the virtual controller. -/
def applied (s : LanControllerServer) (submitOk : Bool) : InputEvent → List StateFrame
  | .state frame => if s.applies frame submitOk then [frame] else []
  | .disconnected => []

end InputEvent

/-- `OnState` is the input thread's own section. -/
def ServerLabel.isOnState : Monitor.Label LanControllerServer.Section Bool → Bool
  | .locked (.onState _ _ _) | .abandon (.onState _ _ _) => true
  | _ => false

namespace ServerSide

open LanControllerServer (monitor)

def step (inputTimeout : Nat) (s : ServerSide) : ServerLabel → Option ServerSide
  | .enterLoop =>
    if s.reading = false ∧ s.callback = none ∧ s.input.looping = true then
      some { s with reading := true }
    else none
  | .receive d =>
    if s.reading = true then
      some { s with
        input := (s.input.iteration (recvfrom d)).1
        reading := false
        callback := (s.input.iteration (recvfrom d)).2.head?
        received := s.received ++ if s.input.valid d then [frameOf d.bytes] else [] }
    else none
  | .receiveError code =>
    if s.reading = true then
      some { s with
        input := (s.input.iteration (.error code)).1
        reading := false
        callback := (s.input.iteration (.error code)).2.head? }
    else none
  | .callback submitOk neutralOk =>
    match s.callback with
    | none => none
    | some event =>
      some { s with
        callback := none
        server := (monitor inputTimeout).afterLocked s.server (event.locked submitOk neutralOk)
        applied := s.applied ++ event.applied s.server.core submitOk }
  | .thread a =>
    if ServerLabel.isOnState a then none
    else ((monitor inputTimeout).next s.server a).map fun server => { s with server := server }
  -- the control thread, whose callback is a section of `thread`
  | .signalDisconnected error message =>
    some { s with input := (s.input.signalDisconnected error message).1 }
  | .stopTransport => some { s with input := { s.input with stopRequested := true } }
  | .closeSockets => some { s with input := { s.input with connected := false } }

/-- The server when the input thread of a session starts. -/
def started (expectedPeer sessionId : UInt32) (now : Nat) : ServerSide where
  input := { expectedPeer := expectedPeer, sessionId := sessionId }
  server := ⟨LanControllerServer.started, now, .outside, 0⟩

def system (inputTimeout : Nat) (expectedPeer sessionId : UInt32) (now : Nat) :
    System ServerSide ServerLabel where
  init := started expectedPeer sessionId now
  next := step inputTimeout

/-! ### What the session keeps -/

/-- A section that applies no frame and does not bring the session back. -/
structure Quiet (s t : LanControllerServer) : Prop where
  latestSequence : t.latestSequence = s.latestSequence
  receivedStateCount : t.receivedStateCount = s.receivedStateCount
  running : t.state = .running → s.state = .running ∧ t.stopRequested = s.stopRequested

theorem quiet_locked (a : LanControllerServer.Section) {s : LanControllerServer} (now : Nat)
    (h : LanControllerServer.feeds a s = false) : Quiet s (LanControllerServer.locked a now s) := by
  rcases LanControllerServer.locked_cases a now s with ⟨_, hs⟩ | ⟨_, _, _, _, hf, _⟩ |
    ⟨_, _, state, stop, hx, he⟩ | ⟨_, _, he⟩
  · exact ⟨hs.latestSequence, hs.receivedStateCount, fun hr => ⟨hs.state ▸ hr, hs.stopRequested⟩⟩
  · rw [hf] at h
    cases h
  · rw [he]
    exact ⟨rfl, rfl, fun hr => absurd hr hx⟩
  · rw [he]
    exact ⟨rfl, rfl, fun hr => by cases hr⟩

theorem feeds_onState_only {a : LanControllerServer.Section} (s : LanControllerServer)
    (h : ∀ frame submitOk neutralOk, a ≠ .onState frame submitOk neutralOk) :
    LanControllerServer.feeds a s = false := by
  cases a with
  | onState frame submitOk neutralOk => exact absurd rfl (h frame submitOk neutralOk)
  | onRumble | onTransportDisconnected | stop | transportStartFailed | destroy => rfl

/-- A step of another thread applies no frame. -/
theorem quiet_thread {inputTimeout : Nat} {s t : Monitor.State LanControllerServer}
    {a : Monitor.Label LanControllerServer.Section Bool} (ha : ServerLabel.isOnState a = false)
    (h : (monitor inputTimeout).next s a = some t) : Quiet s.core t.core := by
  rcases Monitor.core_step h with hc | ⟨c, hc, he⟩ | ⟨b, d, _, _, _, he⟩
  · rw [hc]
    exact ⟨rfl, rfl, fun hr => ⟨hr, rfl⟩⟩
  · rw [he]
    refine quiet_locked c s.now (feeds_onState_only s.core ?_)
    rintro frame submitOk neutralOk rfl
    rcases hc with rfl | rfl <;> cases ha
  · rw [he]
    exact ⟨rfl, rfl, fun hr => ⟨hr, rfl⟩⟩

/-! ### The invariant -/

def number (f : StateFrame) : Nat := f.sequence.toNat

/-- The received frames whose round of the loop is over: all but the one the input
thread holds. -/
def settled (s : ServerSide) : List StateFrame :=
  match s.callback with
  | some (.state _) => s.received.dropLast
  | _ => s.received

theorem settled_subset (s : ServerSide) : ∀ f ∈ s.settled, f ∈ s.received := by
  intro f hf
  unfold settled at hf
  split at hf
  · exact (List.dropLast_sublist _).subset hf
  · exact hf

theorem settled_eq (s : ServerSide) (h : ∀ f, s.callback ≠ some (.state f)) :
    s.settled = s.received := by
  unfold settled
  split
  · rename_i f hf
    exact absurd hf (h f)
  · rfl

structure Applying (s : ServerSide) : Prop where
  stateCallback : s.input.stateCallback = true
  highest : s.input.highestReceivedSequence.toNat = highWater number 0 s.received
  reading : s.reading = true → s.callback = none
  held : ∀ f, s.callback = some (.state f) →
    ∃ l, s.received = l ++ [f] ∧ highWater number 0 l < number f
  begun : s.applied <+: records number 0 s.settled
  running : s.server.core.state = .running →
    s.applied = records number 0 s.settled ∧ s.server.core.stopRequested = false
  count : s.server.core.receivedStateCount = s.applied.length
  latest : ∀ f ∈ s.applied.getLast?, s.server.core.latestSequence = f.sequence

theorem applying_started (expectedPeer sessionId : UInt32) (now : Nat) :
    Applying (started expectedPeer sessionId now) where
  stateCallback := rfl
  highest := rfl
  reading := fun hr => by cases hr
  held := fun f hf => by cases hf
  begun := List.prefix_refl _
  running := fun _ => ⟨rfl, rfl⟩
  count := rfl
  latest := fun f hf => by cases hf

theorem Applying.quiet {s : ServerSide} (hi : Applying s) {server : Monitor.State LanControllerServer}
    (h : Quiet s.server.core server.core) : Applying { s with server := server } :=
  { hi with
    running := fun hr =>
      have hr' := hi.running (h.running hr).1
      ⟨hr'.1, (h.running hr).2.trans hr'.2⟩
    count := h.receivedStateCount.trans hi.count
    latest := fun f hf => h.latestSequence.trans (hi.latest f hf) }

/-- The test of the loop, in the terms of the records. -/
theorem le_highWater_iff {s : ServerSide} (hi : Applying s) (f : StateFrame) :
    f.sequence ≤ s.input.highestReceivedSequence ↔ ¬ highWater number 0 s.received < number f := by
  rw [UInt64.le_iff_toNat_le, hi.highest, not_lt]
  rfl

/-- A round that hands nothing over. -/
theorem Applying.dropped {s : ServerSide} (hi : Applying s) (hc : s.callback = none)
    {input : ServerInput} {callback : Option InputEvent} (more : List StateFrame)
    (hs : input.stateCallback = s.input.stateCallback)
    (hh : input.highestReceivedSequence = s.input.highestReceivedSequence)
    (hcall : ∀ f, callback ≠ some (.state f))
    (hmore : highWater number 0 (s.received ++ more) = highWater number 0 s.received ∧
      records number 0 (s.received ++ more) = records number 0 s.received) :
    Applying { s with
      input := input, reading := false, callback := callback, received := s.received ++ more } := by
  have hold : s.settled = s.received := by rw [settled, hc]
  have hnew : ({ s with
      input := input, reading := false, callback := callback, received := s.received ++ more } :
        ServerSide).settled = s.received ++ more := by
    cases callback with
    | none => rfl
    | some event =>
      cases event with
      | state f => exact absurd rfl (hcall f)
      | disconnected => rfl
  have hrec := hold ▸ hmore.2
  refine ⟨hs.trans hi.stateCallback, ?_, (fun hr => by cases hr), fun f hf => absurd hf (hcall f),
    ?_, ?_, hi.count, hi.latest⟩
  · show input.highestReceivedSequence.toNat = _
    rw [hh, hi.highest]
    exact hmore.1.symm
  · show s.applied <+: _
    rw [hnew, hmore.2, ← hold]
    exact hi.begun
  · intro hr
    show s.applied = _ ∧ _
    rw [hnew, hmore.2, ← hold]
    exact hi.running hr

/-- A round that hands a frame over. -/
theorem Applying.handed {s : ServerSide} (hi : Applying s) (hc : s.callback = none) {f : StateFrame}
    (hf : highWater number 0 s.received < number f) {input : ServerInput}
    (hs : input.stateCallback = s.input.stateCallback)
    (hh : input.highestReceivedSequence = f.sequence) :
    Applying { s with
      input := input, reading := false, callback := some (.state f)
      received := s.received ++ [f] } := by
  have hold : s.settled = s.received := by rw [settled, hc]
  have hnew : ({ s with
      input := input, reading := false, callback := some (.state f)
      received := s.received ++ [f] } : ServerSide).settled = s.received := List.dropLast_concat
  refine ⟨hs.trans hi.stateCallback, ?_, (fun hr => by cases hr), ?_, ?_, ?_, hi.count, hi.latest⟩
  · show input.highestReceivedSequence.toNat = _
    rw [hh, highWater_concat, if_pos hf]
    rfl
  · intro g hg
    obtain rfl : f = g := by simpa using hg
    exact ⟨s.received, rfl, hf⟩
  · show s.applied <+: _
    rw [hnew, ← hold]
    exact hi.begun
  · intro hr
    show s.applied = _ ∧ _
    rw [hnew, ← hold]
    exact hi.running hr

theorem applying_receive {s : ServerSide} (hi : Applying s) (hr : s.reading = true) (d : Datagram) :
    Applying { s with
      input := (s.input.iteration (recvfrom d)).1
      reading := false
      callback := (s.input.iteration (recvfrom d)).2.head?
      received := s.received ++ if s.input.valid d then [frameOf d.bytes] else [] } := by
  have hc : s.callback = none := hi.reading hr
  rcases s.input.iteration_cases d with ⟨_, hdrop, he⟩ | ⟨hv, hnew, he⟩ | ⟨hlong, _⟩
  · rw [he]
    refine hi.dropped hc _ rfl rfl (fun f hf => by cases hf) ?_
    by_cases hv : s.input.valid d = true
    · -- a valid datagram that is not newer than an earlier one
      have hle := hdrop.resolve_left (by rw [hv]; decide)
      rw [if_pos hv, highWater_concat, records_concat, if_neg ((le_highWater_iff hi _).mp hle),
        if_neg ((le_highWater_iff hi _).mp hle), List.append_nil]
      exact ⟨rfl, rfl⟩
    · rw [if_neg hv, List.append_nil]
      exact ⟨rfl, rfl⟩
  · rw [he, if_pos hi.stateCallback, if_pos hv]
    refine hi.handed hc ?_ rfl rfl
    by_contra hlt
    exact UInt64.not_le.mpr hnew ((le_highWater_iff hi _).mpr hlt)
  · have hv : ¬ s.input.valid d = true := fun hv => by
      have := ServerInput.length_of_valid hv
      omega
    rw [recvfrom, if_neg (by omega), if_neg hv]
    obtain ⟨hh, hs, hev⟩ := s.input.iteration_error WSAEMSGSIZE
    refine hi.dropped hc [] hs hh ?_ ⟨by rw [List.append_nil], by rw [List.append_nil]⟩
    intro f hf
    cases hev _ (List.mem_of_head? hf)

/-- A frame that the input thread holds is newer than all that were applied. -/
theorem Applying.not_refused {s : ServerSide} (hi : Applying s) {f : StateFrame}
    (hc : s.callback = some (.state f)) (hr : s.server.core.state = .running) :
    s.server.core.refuses f = false := by
  obtain ⟨l, hl, hnew⟩ := hi.held f hc
  have hsettled : s.settled = l := by
    rw [settled, hc, hl]
    exact List.dropLast_concat
  have hlate : s.server.core.receivedStateCount ≠ 0 → ¬ f.sequence ≤ s.server.core.latestSequence := by
    intro hcount hle
    rw [hi.count] at hcount
    obtain ⟨g, hg⟩ : ∃ g, s.applied.getLast? = some g :=
      Option.ne_none_iff_exists'.mp (by simpa [List.length_eq_zero_iff] using hcount)
    have hmem : g ∈ records number 0 l :=
      hsettled ▸ hi.begun.subset (List.mem_of_getLast? hg)
    have hlt : number g < number f :=
      lt_of_le_of_lt (le_highWater_of_mem l 0 g ((records_sublist l 0).subset hmem)) hnew
    rw [hi.latest g hg, UInt64.le_iff_toNat_le] at hle
    exact absurd hle (not_le.mpr hlt)
  rw [LanControllerServer.refuses, hr, (hi.running hr).2]
  by_cases hcount : s.server.core.receivedStateCount = 0
  · simp [hcount]
  · simp [hlate hcount]

/-- `OnState` on the frame the input thread holds. -/
theorem applying_onState {inputTimeout : Nat} {s : ServerSide} (hi : Applying s) {f : StateFrame}
    (hc : s.callback = some (.state f)) (submitOk neutralOk : Bool) :
    Applying { s with
      callback := none
      server := (monitor inputTimeout).afterLocked s.server (.onState f submitOk neutralOk)
      applied := s.applied ++ if s.server.core.applies f submitOk then [f] else [] } := by
  obtain ⟨l, hl, hnew⟩ := hi.held f hc
  have hsettled : s.settled = l := by
    rw [settled, hc, hl]
    exact List.dropLast_concat
  have hrecords : records number 0 s.received = records number 0 s.settled ++ [f] := by
    rw [hl, records_concat, if_pos hnew, hsettled]
  have hnone : s.reading = true → (none : Option InputEvent) = none := fun _ => rfl
  by_cases ha : s.server.core.applies f submitOk = true
  · -- applied: the session was running, so the frame is the next record
    rw [if_pos ha]
    have hr : s.server.core.state = .running := by
      simp only [LanControllerServer.applies, Bool.and_eq_true, Bool.not_eq_true'] at ha
      exact (LanControllerServer.running_of_not_refuses ha.1).1
    have hall : s.applied ++ [f] = records number 0 s.received := by
      rw [hrecords, (hi.running hr).1]
    rcases LanControllerServer.onState_cases s.server.core f submitOk neutralOk s.server.now with
      ⟨hf, _⟩ | ⟨_, _, _, he⟩ | ⟨hf, _⟩
    · rw [hf] at ha; cases ha
    · replace he : ((monitor inputTimeout).afterLocked s.server
          (.onState f submitOk neutralOk)).core = _ := he
      refine ⟨hi.stateCallback, hi.highest, hnone, (fun g hg => by cases hg), ?_, ?_, ?_, ?_⟩
      · exact ⟨[], (List.append_nil _).trans hall⟩
      · intro _
        refine ⟨hall, ?_⟩
        show ((monitor inputTimeout).afterLocked _ _).core.stopRequested = false
        rw [he]
        exact (hi.running hr).2
      · show ((monitor inputTimeout).afterLocked _ _).core.receivedStateCount = _
        rw [he, List.length_append, List.length_singleton, ← hi.count]
      · intro g hg
        show ((monitor inputTimeout).afterLocked _ _).core.latestSequence = _
        obtain rfl : f = g := by simpa using hg
        rw [he]
    · rw [hf] at ha; cases ha
  · have ha' : s.server.core.applies f submitOk = false := by simpa using ha
    rw [if_neg ha, List.append_nil]
    have hq : Quiet s.server.core ((monitor inputTimeout).afterLocked s.server
        (.onState f submitOk neutralOk)).core :=
      quiet_locked (.onState f submitOk neutralOk) s.server.now ha'
    refine ⟨hi.stateCallback, hi.highest, hnone, (fun g hg => by cases hg), ?_, ?_,
      hq.receivedStateCount.trans hi.count, fun g hg => hq.latestSequence.trans (hi.latest g hg)⟩
    · show s.applied <+: records number 0 s.received
      rw [hrecords]
      exact hi.begun.trans (List.prefix_append _ _)
    · -- a running session does not turn the frame away, and a refusing driver faults it
      intro hr
      have hfault := LanControllerServer.faulted_of_not_applies
        (hi.not_refused hc (hq.running hr).1) ha' neutralOk s.server.now
      replace hr : (s.server.core.onState f submitOk neutralOk s.server.now).state = .running := hr
      rw [hfault] at hr
      cases hr

theorem applying_step {inputTimeout : Nat} {s t : ServerSide} {a : ServerLabel} (hi : Applying s)
    (h : s.step inputTimeout a = some t) : Applying t := by
  cases a with
  | enterLoop =>
    simp only [step, Option.ite_none_right_eq_some, Option.some.injEq] at h
    obtain ⟨⟨_, hc, _⟩, rfl⟩ := h
    exact { hi with reading := fun _ => hc }
  | receive d =>
    simp only [step, Option.ite_none_right_eq_some, Option.some.injEq] at h
    obtain ⟨hr, rfl⟩ := h
    exact applying_receive hi hr d
  | receiveError code =>
    simp only [step, Option.ite_none_right_eq_some, Option.some.injEq] at h
    obtain ⟨hr, rfl⟩ := h
    obtain ⟨hh, hs, hev⟩ := s.input.iteration_error code
    have hmain := hi.dropped (hi.reading hr) [] hs hh
      (fun f hf => by cases hev _ (List.mem_of_head? hf))
      ⟨by rw [List.append_nil], by rw [List.append_nil]⟩
    rwa [List.append_nil] at hmain
  | callback submitOk neutralOk =>
    cases hc : s.callback with
    | none => simp only [step, hc, reduceCtorEq] at h
    | some event =>
      simp only [step, hc, Option.some.injEq] at h
      subst h
      cases event with
      | state f => exact applying_onState hi hc submitOk neutralOk
      | disconnected =>
        have hq : Quiet s.server.core ((monitor inputTimeout).afterLocked s.server
            (.onTransportDisconnected neutralOk)).core :=
          quiet_locked (.onTransportDisconnected neutralOk) s.server.now rfl
        rw [show InputEvent.disconnected.applied s.server.core submitOk = [] from rfl,
          List.append_nil]
        have hmain := hi.quiet hq
        have hold : s.settled = s.received := by rw [settled, hc]
        refine ⟨hmain.stateCallback, hmain.highest, fun _ => rfl, (fun g hg => by cases hg), ?_, ?_,
          hmain.count, hmain.latest⟩
        · show s.applied <+: records number 0 s.received
          rw [← hold]
          exact hi.begun
        · intro hr
          show s.applied = records number 0 s.received ∧ _
          rw [← hold]
          exact hmain.running hr
  | thread a =>
    simp only [step] at h
    split at h
    · cases h
    · rename_i ha
      obtain ⟨server, hn, rfl⟩ := Option.map_eq_some_iff.mp h
      exact hi.quiet (quiet_thread (by simpa using ha) hn)
  | signalDisconnected error message =>
    obtain rfl := Option.some.inj h
    obtain ⟨hs, hh⟩ : (s.input.signalDisconnected error message).1.stateCallback =
        s.input.stateCallback ∧ (s.input.signalDisconnected error message).1.highestReceivedSequence =
        s.input.highestReceivedSequence := by
      rw [ServerInput.signalDisconnected]
      split <;> exact ⟨rfl, rfl⟩
    exact { hi with
      stateCallback := hs.trans hi.stateCallback
      highest := (congrArg UInt64.toNat hh).trans hi.highest }
  | stopTransport | closeSockets =>
    obtain rfl := Option.some.inj h
    exact { hi with }

/-- Only `recvfrom` adds to what the server received. -/
theorem received_step {inputTimeout : Nat} {s t : ServerSide} {a : ServerLabel}
    (h : s.step inputTimeout a = some t) :
    t.received = s.received ∨
      ∃ d, a = .receive d ∧ s.input.valid d = true ∧ t.received = s.received ++ [frameOf d.bytes] := by
  cases a with
  | receive d =>
    simp only [step, Option.ite_none_right_eq_some, Option.some.injEq] at h
    obtain ⟨_, rfl⟩ := h
    by_cases hv : s.input.valid d = true
    · exact Or.inr ⟨d, rfl, hv, by rw [if_pos hv]⟩
    · exact Or.inl (by rw [if_neg hv, List.append_nil])
  | enterLoop | receiveError =>
    simp only [step, Option.ite_none_right_eq_some, Option.some.injEq] at h
    obtain ⟨_, rfl⟩ := h
    exact Or.inl rfl
  | callback =>
    simp only [step] at h
    split at h
    · cases h
    · obtain rfl := Option.some.inj h
      exact Or.inl rfl
  | thread =>
    simp only [step] at h
    split at h
    · cases h
    · obtain ⟨server, _, rfl⟩ := Option.map_eq_some_iff.mp h
      exact Or.inl rfl
  | signalDisconnected | stopTransport | closeSockets =>
    obtain rfl := Option.some.inj h
    exact Or.inl rfl

/-! ### Runs -/

theorem applying_run {inputTimeout : Nat} {expectedPeer sessionId : UInt32} {now : Nat}
    {l : List ServerLabel} {s : ServerSide}
    (h : (system inputTimeout expectedPeer sessionId now).Run l s) : Applying s :=
  System.Run.invariant (P := fun _ s => Applying s) (applying_started expectedPeer sessionId now)
    (fun _ _ _ _ _ hi hn => applying_step hi hn) h

/-- **The server applies the records of what it receives**, a beginning of them once
it has left `kRunning`. -/
theorem applied_records {inputTimeout : Nat} {expectedPeer sessionId : UInt32} {now : Nat}
    {l : List ServerLabel} {s : ServerSide}
    (h : (system inputTimeout expectedPeer sessionId now).Run l s) :
    s.applied <+: records number 0 s.settled ∧
      (s.server.core.state = .running → s.applied = records number 0 s.settled) :=
  ⟨(applying_run h).begun, fun hr => ((applying_run h).running hr).1⟩

end ServerSide

end RemoteController
