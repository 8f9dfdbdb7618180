import RemoteController.EndToEnd.Input
import RemoteController.LanClient.Stopping
import RemoteController.Lib.Project
import RemoteController.Sdl.Device
import RemoteController.Vigem.Report

/-!
# From pad to pad

The gamepad that SDL polls, the client whose callbacks the poll thread runs, the network
and the server: `SdlInputBackend` under `InputPath`.

A call of the device and the step of the client that makes it are one step here, and so are
a callback and the step of the client that it is.  The poll thread goes on when its callback
has returned, and a call of `Open` or `Close` waits for the one before it, since both are
made under `input_lifecycle_mutex_`.

* `PadPath.system`: the whole.
* `reports_of_run`: each sample that is read is reported, once and in order.
* `pad_to_pad`: the reports that the server gave to the driver for the frames it applied,
  against the samples.
-/

namespace RemoteController

open Lib Protocol

/-! ### What the poll thread reports -/

namespace SdlInputBackend

def Event.sample : Event → Option GamepadSample
  | .readState _ sample => some sample
  | _ => none

def Event.reported : Event → Option GamepadStateV1
  | .stateCallback state => some state
  | _ => none

/-- The state that the thread has read and not called back with. -/
def PollPhase.pending : PollPhase → List GamepadStateV1
  | .report _ sample => [readState sample]
  | _ => []

namespace State

def samples (s : State) : List GamepadSample := s.events.filterMap Event.sample

def reported (s : State) : List GamepadStateV1 := s.events.filterMap Event.reported

@[simp] theorem emit_samples (s : State) (e : Event) :
    (s.emit e).samples = s.samples ++ e.sample.toList := by
  simp [samples, emit, List.filterMap_append, List.filterMap_cons]
  cases e.sample <;> rfl

@[simp] theorem emit_reported (s : State) (e : Event) :
    (s.emit e).reported = s.reported ++ e.reported.toList := by
  simp [reported, emit, List.filterMap_append, List.filterMap_cons]
  cases e.reported <;> rfl

@[simp] theorem goto_samples (s : State) (thread : PollPhase) :
    (s.goto thread).samples = s.samples :=
  rfl

@[simp] theorem goto_reported (s : State) (thread : PollPhase) :
    (s.goto thread).reported = s.reported :=
  rfl

/-- A step that is not the poll thread's reads no sample and reports none. -/
theorem other_step {s t : State} {a : Label} (h : s.step a = some t)
    (ha : ∀ isConnected sample, a ≠ .poll isConnected sample) :
    t.samples = s.samples ∧ t.reported = s.reported ∧ t.thread.pending = s.thread.pending := by
  cases a with
  | poll isConnected sample => exact absurd rfl (ha isConnected sample)
  | «open» deviceId initialized hasStateCallback =>
    simp only [step] at h
    repeat' split at h
    all_goals cases h <;> exact ⟨rfl, rfl, rfl⟩
  | openSection opens hasDisconnectCallback =>
    simp only [step] at h
    split at h
    · obtain rfl := Option.some.inj h
      simp only [openSection]
      split
      · rename_i ht
        split
        · refine ⟨?_, ?_, ht ▸ rfl⟩
          · exact (emit_samples _ _).trans (List.append_nil _)
          · exact (emit_reported _ _).trans (List.append_nil _)
        · refine ⟨?_, ?_, rfl⟩
          · exact (emit_samples _ _).trans (List.append_nil _)
          · exact (emit_reported _ _).trans (List.append_nil _)
      · exact ⟨rfl, rfl, rfl⟩
    · cases h
  | close | rumbleStore | rumbleIncrement =>
    simp only [step, Option.ite_none_right_eq_some, Option.some.injEq] at h
    obtain ⟨_, rfl⟩ := h
    exact ⟨rfl, rfl, rfl⟩
  | join =>
    simp only [step] at h
    split at h
    · rename_i ht
      obtain rfl := Option.some.inj h
      exact ⟨rfl, rfl, ht ▸ rfl⟩
    · rename_i ht
      obtain rfl := Option.some.inj h
      exact ⟨rfl, rfl, ht ▸ rfl⟩
    · cases h
  | closeSection =>
    simp only [step, Option.ite_none_right_eq_some, Option.some.injEq] at h
    obtain ⟨_, rfl⟩ := h
    simp only [closeSection]
    split
    · refine ⟨?_, ?_, rfl⟩
      · exact (emit_samples _ _).trans (List.append_nil _)
      · exact (emit_reported _ _).trans (List.append_nil _)
    · exact ⟨rfl, rfl, rfl⟩
  | rumbleTest command =>
    obtain rfl := Option.some.inj h
    split <;> exact ⟨rfl, rfl, rfl⟩

/-- **What a step of the poll thread reads and reports**: the sample it has read, or nothing,
and it may read the next. -/
theorem poll_step {s t : State} {isConnected : Bool} {sample : GamepadSample}
    (h : s.poll isConnected sample = some t) :
    (∃ g held, s.thread = .report g held ∧ t.thread.pending = [] ∧ t.samples = s.samples ∧
        t.reported = s.reported ++ [readState held]) ∨
      s.thread.pending = [] ∧ t.reported = s.reported ∧
        (t.samples = s.samples ∧ t.thread.pending = [] ∨
          t.samples = s.samples ++ [sample] ∧ t.thread.pending = [readState sample]) := by
  cases hs : s.thread with
  | none | null | finished => simp [poll, hs] at h
  | report g held =>
    simp only [poll, hs, Option.some.injEq] at h
    subst h
    exact .inl ⟨g, held, rfl, rfl, by simp [Event.sample], by simp [Event.reported]⟩
  | read g =>
    simp only [poll, hs, Option.some.injEq] at h
    subst h
    exact .inr ⟨rfl, by simp [Event.reported], .inr ⟨by simp [Event.sample], rfl⟩⟩
  | start =>
    simp only [poll, hs] at h
    split at h <;>
      (obtain rfl := Option.some.inj h
       exact .inr ⟨rfl, rfl, .inl ⟨rfl, rfl⟩⟩)
  | test g | disconnectTest g | load g =>
    simp only [poll, hs, Option.some.injEq] at h
    subst h
    refine .inr ⟨rfl, rfl, .inl ⟨rfl, ?_⟩⟩
    simp only [goto]
    split <;> rfl
  | connected g =>
    simp only [poll, hs, Option.some.injEq] at h
    subst h
    refine .inr ⟨rfl, by simp [Event.reported], .inl ⟨by simp [Event.sample], ?_⟩⟩
    simp only [goto]
    split <;> rfl
  | update g | disconnect g | last g =>
    simp only [poll, hs, Option.some.injEq] at h
    subst h
    exact .inr ⟨rfl, by simp [Event.reported], .inl ⟨by simp [Event.sample], rfl⟩⟩
  | readPacked g generation =>
    simp only [poll, hs, Option.some.injEq] at h
    subst h
    exact .inr ⟨rfl, rfl, .inl ⟨rfl, rfl⟩⟩
  | rumble g generation packed =>
    simp only [poll, hs, Option.some.injEq] at h
    subst h
    refine .inr ⟨rfl, ?_, .inl ⟨?_, rfl⟩⟩
    · exact (emit_reported _ _).trans (List.append_nil _)
    · exact (emit_samples _ _).trans (List.append_nil _)

end State

/-- **Each sample that is read is reported**, once and in order; the last one may still be
to come. -/
theorem reports_of_run {l : List Label} {s : State} (h : system.Run l s) :
    s.reported ++ s.thread.pending = s.samples.map readState := by
  refine System.Run.invariant (P := fun _ s => s.reported ++ s.thread.pending =
    s.samples.map readState) rfl ?_ h
  intro l s a t _ ih hn
  by_cases ha : ∃ isConnected sample, a = .poll isConnected sample
  · obtain ⟨isConnected, sample, rfl⟩ := ha
    rcases State.poll_step hn with ⟨g, held, hs, hp, hsamples, hreported⟩ |
      ⟨hp, hreported, ⟨hsamples, hp'⟩ | ⟨hsamples, hp'⟩⟩
    · rw [hp, hsamples, hreported, ← ih, hs, List.append_nil]
      rfl
    · rw [hreported, hsamples, hp', ← ih, hp]
    · rw [hreported, hsamples, hp', List.map_append, ← ih, hp, List.append_nil]
      rfl
  · obtain ⟨hsamples, hreported, hp⟩ :=
      State.other_step hn fun isConnected sample he => ha ⟨isConnected, sample, he⟩
    rw [hsamples, hreported, hp]
    exact ih

end SdlInputBackend

/-! ### What the client numbers -/

/-- `Stop()` is past the number of its neutral frame, or sends none. -/
def ClientStop.numbered : ClientStop → Bool
  | .sending _ | .stopping | .closingSockets | .joiningControl _ | .joining | .finished => true
  | .idle | .closing _ | .closed _ | .numbering => false

namespace ClientSide

/-- The states of the frames that have a number, in the order of their numbers. -/
def shown (s : ClientSide) : List GamepadStateV1 := (s.passed ++ s.unpassed).map (·.state)

theorem shown_congr {s t : ClientSide} (hp : t.poll.unpassed = s.poll.unpassed)
    (hs : t.stop.call.unpassed = s.stop.call.unpassed) (hpassed : t.passed = s.passed) :
    t.shown = s.shown := by
  rw [shown, shown, unpassed, unpassed, hp, hs, hpassed]

/-- **What a step adds to the numbered frames**: nothing, the state that the device reports,
or the neutral one of `Stop()`. -/
inductive Shows (s t : ClientSide) (a : ClientLabel) : Prop
  | nothing : t.shown = s.shown → (s.stop.numbered = true → t.stop.numbered = true) → Shows s t a
  | report {state : GamepadStateV1} {timestampUs : UInt64} :
      a = .onInputState state timestampUs → s.stop = .idle → t.shown = s.shown ++ [state] →
      Shows s t a
  | neutral {timestampUs : UInt64} : a = .stopNumbers timestampUs → s.stop = .numbering →
      t.stop.numbered = true → t.shown = s.shown ++ [.neutral] → Shows s t a

variable {negotiated : UInt32} {s t : ClientSide} {a : ClientLabel}

/-- `SendState` is called with the frame that has the latest number. -/
theorem shown_passes (hi : Ordered s) {caller : Caller} {f : StateFrame}
    (hc : s.call caller = .numbered f) (hp : t.poll.unpassed ++ t.stop.call.unpassed = [])
    (hpassed : t.passed = s.passed ++ [f]) : t.shown = s.shown := by
  have hun : s.unpassed = [f] := (hi.alone f (mem_unpassed hc)).1
  rw [shown, shown, unpassed, hp, hpassed, hun, List.append_nil]

theorem shows_report (hi : Ordered s) {state : GamepadStateV1} {timestampUs : UInt64}
    {core : LanControllerClient} {sequence : UInt64} (hp : s.poll = .idle)
    (hc : s.core.onInputState = some (core, sequence)) :
    Shows s { s with core := core, poll := .numbered ⟨state, sequence, timestampUs⟩ }
      (.onInputState state timestampUs) := by
  have hrun := (LanControllerClient.running_of_onInputState hc).1
  have hidle : s.stop = .idle := by
    by_contra hs
    rw [hi.stopped hs] at hrun
    cases hrun
  refine .report rfl hidle ?_
  have hun : s.unpassed = [] := by rw [unpassed, hp, hidle]; rfl
  rw [shown, shown, hun, unpassed, hidle]
  simp [Call.unpassed, ClientStop.call]

theorem shows_neutral (hi : Ordered s) {timestampUs : UInt64} (hs : s.stop = .numbering) :
    Shows s { s with
      core := (s.core.neutralLocked timestampUs).1
      stop := .sending (.numbered (s.core.neutralLocked timestampUs).2) }
      (.stopNumbers timestampUs) := by
  refine .neutral rfl hs rfl ?_
  have hj : s.stop.joined = true := by rw [hs]; rfl
  have hp : s.poll = .idle := hi.closed (hi.joined hj).1
  have hun : s.unpassed = [] := by rw [unpassed, hp, hs]; rfl
  rw [shown, shown, hun, unpassed, hp]
  simp [Call.unpassed, ClientStop.call, LanControllerClient.neutralLocked, GamepadStateV1.neutral]

/-- The frame that a call has passed on is not counted twice. -/
theorem shows_passes (hi : Ordered s) {caller : Caller} {f : StateFrame} {next : Call}
    (hc : s.call caller = .numbered f) (hn : next.unpassed = []) (a : ClientLabel) :
    Shows s { s.setCall caller next with passed := s.passed ++ [f] } a := by
  cases caller with
  | poll =>
    have hstop : s.stop.call = .idle :=
      hi.exclusive.resolve_left (by rw [show s.poll = _ from hc]; nofun)
    refine .nothing (shown_passes hi hc ?_ rfl) id
    show next.unpassed ++ s.stop.call.unpassed = []
    rw [hn, hstop]
    rfl
  | stop =>
    have hpoll : s.poll = .idle :=
      hi.exclusive.resolve_right (by rw [show s.stop.call = _ from hc]; nofun)
    refine .nothing (shown_passes hi hc ?_ rfl) fun _ => rfl
    show s.poll.unpassed ++ next.unpassed = []
    rw [hn, hpoll]
    rfl

theorem shows_sends {caller : Caller} {f : StateFrame} (hc : s.call caller = .admitted f)
    (ok : Bool) (transport : ClientOutput) (sent : List (List UInt8)) (a : ClientLabel) :
    Shows s { s.setCall caller (.returned f ok) with transport := transport, sent := sent } a := by
  cases caller with
  | poll => exact .nothing (shown_congr (by rw [show s.poll = _ from hc]; rfl) rfl rfl) id
  | stop =>
    exact .nothing (shown_congr rfl (by rw [show s.stop.call = _ from hc]; rfl) rfl) fun _ => rfl

/-- A step of `Stop()` outside its call of `SendState`. -/
theorem shows_stop {next : ClientStop} (hun : s.stop.call.unpassed = [])
    (hnext : next.call.unpassed = []) (hnum : s.stop.numbered = true → next.numbered = true)
    (ht : t.stop = next) (hp : t.poll = s.poll) (hpassed : t.passed = s.passed) : Shows s t a :=
  .nothing (shown_congr (by rw [hp]) (by rw [ht, hun, hnext]) hpassed) (by rw [ht]; exact hnum)

theorem shows_join {stopper : Stopper} {j : Join} (hj : s.join stopper = some j) :
    (∀ j', Shows s (s.setJoin stopper j') a) ∧ Shows s (s.endJoin stopper) a := by
  cases stopper with
  | worker => exact ⟨fun _ => .nothing rfl id, .nothing rfl id⟩
  | stop =>
    have hun : s.stop.call.unpassed = [] := by rw [(stop_of_join hj).1]; rfl
    exact ⟨fun _ => shows_stop hun rfl (fun _ => rfl) rfl rfl rfl,
      shows_stop hun rfl (fun _ => rfl) rfl rfl rfl⟩

theorem shown_step (hi : Ordered s) (h : s.step negotiated a = some t) : Shows s t a := by
  cases moves_of_step h with
  | reports _ hp hc => exact shows_report hi hp hc
  | stopNumbers hs => exact shows_neutral hi hs
  | passes hc => exact shows_passes hi hc (by split <;> rfl) _
  | sends hc => exact shows_sends hc _ _ _ _
  | returns hp _ => exact .nothing (shown_congr (by rw [hp]; rfl) rfl rfl) id
  | finds hj _ | joins hj _ => exact (shows_join hj).1 _
  | skips hj _ => exact (shows_join hj).2
  | @joined stopper hj _ =>
    cases stopper with
    | worker => exact .nothing rfl id
    | stop => exact shows_stop (by rw [(stop_of_join hj).1]; rfl) rfl (fun _ => rfl) rfl rfl rfl
  | stopBegins hc =>
    have hidle := hi.idle_of_stopLocked hc
    refine shows_stop (by rw [hidle]; rfl) rfl (fun hn => ?_) rfl rfl rfl
    rw [hidle] at hn
    cases hn
  | stopCloses hs _ _ =>
    exact shows_stop (by rw [hs]; rfl) rfl (by rw [hs]; nofun) rfl rfl rfl
  | stopChecks hs =>
    refine shows_stop (by rw [hs]; rfl) ?_ (by rw [hs]; nofun) rfl rfl rfl
    split <;> rfl
  | stopReturns hs | stopStops hs | stopClosesSockets hs | stopJoins hs _ =>
    exact shows_stop (by rw [hs]; rfl) rfl (fun _ => rfl) rfl rfl rfl
  | _ => exact .nothing rfl id

end ClientSide

/-! ### The whole -/

/-- Who calls `CloseInput()`. -/
inductive Closer where
  | worker
  | stop
  deriving DecidableEq, Repr

structure PadPath where
  pad : SdlInputBackend.State := {}
  path : InputPath

namespace PadPath

inductive Label where
  /-- `StartWorker` calls `Open`, up to its section. -/
  | open (deviceId : List UInt8) (initialized : Bool)
  | openSection (opens : Bool)
  | close
  | join
  | closed (closer : Closer)
  /-- The next step of `PollLoop`; the time is that of `OnInputState`. -/
  | poll (isConnected : Bool) (sample : GamepadSample) (timestampUs : UInt64)
  | setRumble (a : SdlInputBackend.Label)
  | client (a : ClientLabel)
  | server (a : ServerLabel)

/-- The steps of the client that are a call of the device, or a callback from it. -/
def ofDevice : ClientLabel → Bool
  | .openDevice _ | .workerCloses | .stopCloses | .onInputState _ _ | .onInputDisconnected => true
  | _ => false

def isSetRumble : SdlInputBackend.Label → Bool
  | .rumbleTest _ | .rumbleStore _ | .rumbleIncrement _ => true
  | _ => false

/-- What `Open` returns, given what SDL answers. -/
def opened (pad : SdlInputBackend.State) (opens : Bool) : Bool :=
  match pad.gamepad, pad.thread with
  | none, .none => opens
  | _, _ => false

/-- The worker or `Stop()` is in `CloseInput()`, and the worker not in the section of
`input_lifecycle_mutex_` that opens the device. -/
def Closing (s : ClientSide) : Prop :=
  s.worker = .closing ∨ s.stop ∈ [.closing true, .closing false] ∧ s.worker ≠ .checked

instance (s : ClientSide) : Decidable (Closing s) := by
  unfold Closing
  infer_instance

/-- A step of the device and the one of the client that goes with it. -/
def both (inputTimeout : Nat) (negotiated : UInt32) (s : PadPath) (pad : SdlInputBackend.State)
    (a : ClientLabel) : Option PadPath :=
  (s.path.next inputTimeout negotiated (.client a)).map fun path => ⟨pad, path⟩

def next (inputTimeout : Nat) (negotiated : UInt32) (s : PadPath) : Label → Option PadPath
  | .open deviceId initialized =>
    if s.path.client.worker = .checked then
      (s.pad.step (.open deviceId initialized true)).bind fun pad =>
        if pad.owner = .idle then s.both inputTimeout negotiated pad (.openDevice false)
        else some { s with pad := pad }
    else none
  | .openSection opens =>
    (s.pad.step (.openSection opens true)).bind fun pad =>
      s.both inputTimeout negotiated pad (.openDevice (opened s.pad opens))
  | .close =>
    if Closing s.path.client then (s.pad.step .close).map fun pad => { s with pad := pad } else none
  | .join => (s.pad.step .join).map fun pad => { s with pad := pad }
  | .closed closer =>
    (s.pad.step .closeSection).bind fun pad =>
      s.both inputTimeout negotiated pad
        (match closer with | .worker => .workerCloses | .stop => .stopCloses)
  | .poll isConnected sample timestampUs =>
    (s.pad.poll isConnected sample).bind fun pad =>
      match s.pad.thread with
      | .report _ held =>
        s.both inputTimeout negotiated pad (.onInputState (readState held) timestampUs)
      | .disconnect _ => s.both inputTimeout negotiated pad .onInputDisconnected
      | _ => if s.path.client.poll = .idle then some { s with pad := pad } else none
  | .setRumble a =>
    if isSetRumble a then (s.pad.step a).map fun pad => { s with pad := pad } else none
  | .client a =>
    -- `StartWorker` takes `input_lifecycle_mutex_` when no `CloseInput()` holds it
    if ofDevice a = false ∧ (a = .takeLifecycle → s.pad.owner = .idle) then
      s.both inputTimeout negotiated s.pad a
    else none
  | .server a =>
    (s.path.next inputTimeout negotiated (.server a)).map fun path => { s with path := path }

def system (inputTimeout : Nat) (clientAddress sessionId : UInt32) (now : Nat) :
    System PadPath Label where
  init := { path := (InputPath.system inputTimeout clientAddress sessionId now).init }
  next := next inputTimeout sessionId

variable {inputTimeout : Nat} {clientAddress sessionId : UInt32} {now : Nat} {s t : PadPath}
  {a : Label}

/-! ### A step, in its parts -/

/-- **What a step does**: a callback is one of the device and of the client, and every other
step reports nothing. -/
inductive Moves (inputTimeout : Nat) (sessionId : UInt32) (s t : PadPath) : Prop
  | pad {b : SdlInputBackend.Label} : s.pad.step b = some t.pad →
      t.pad.reported = s.pad.reported → t.path = s.path → Moves inputTimeout sessionId s t
  | callback {b : SdlInputBackend.Label} {state : GamepadStateV1} {timestampUs : UInt64} :
      s.pad.step b = some t.pad → t.pad.reported = s.pad.reported ++ [state] →
      s.path.next inputTimeout sessionId (.client (.onInputState state timestampUs)) =
        some t.path → Moves inputTimeout sessionId s t
  | both {b : SdlInputBackend.Label} {c : ClientLabel} : s.pad.step b = some t.pad →
      t.pad.reported = s.pad.reported →
      s.path.next inputTimeout sessionId (.client c) = some t.path →
      (∀ state timestampUs, c ≠ .onInputState state timestampUs) →
      Moves inputTimeout sessionId s t
  | path {c : InputPath.Label} : t.pad = s.pad →
      s.path.next inputTimeout sessionId c = some t.path →
      (∀ state timestampUs, c ≠ .client (.onInputState state timestampUs)) →
      Moves inputTimeout sessionId s t

theorem both_eq {pad : SdlInputBackend.State} {c : ClientLabel}
    (h : s.both inputTimeout sessionId pad c = some t) :
    t.pad = pad ∧ s.path.next inputTimeout sessionId (.client c) = some t.path := by
  obtain ⟨path, hp, rfl⟩ := Option.map_eq_some_iff.mp h
  exact ⟨rfl, hp⟩

theorem moves_of_next (h : s.next inputTimeout sessionId a = some t) :
    Moves inputTimeout sessionId s t := by
  cases a with
  | «open» deviceId initialized =>
    simp only [next, Option.ite_none_right_eq_some, Option.bind_eq_some_iff] at h
    obtain ⟨_, pad, hpad, h⟩ := h
    have hsame := (SdlInputBackend.State.other_step hpad fun _ _ he => by cases he).2.1
    split at h
    · obtain ⟨rfl, hpath⟩ := both_eq h
      exact .both hpad hsame hpath fun _ _ he => by cases he
    · obtain rfl := Option.some.inj h
      exact .pad hpad hsame rfl
  | openSection opens =>
    obtain ⟨pad, hpad, h⟩ := Option.bind_eq_some_iff.mp h
    have hsame := (SdlInputBackend.State.other_step hpad fun _ _ he => by cases he).2.1
    obtain ⟨rfl, hpath⟩ := both_eq h
    exact .both hpad hsame hpath fun _ _ he => by cases he
  | close =>
    simp only [next, Option.ite_none_right_eq_some, Option.map_eq_some_iff] at h
    obtain ⟨_, pad, hpad, rfl⟩ := h
    exact .pad hpad (SdlInputBackend.State.other_step hpad fun _ _ he => by cases he).2.1 rfl
  | join =>
    obtain ⟨pad, hpad, rfl⟩ := Option.map_eq_some_iff.mp h
    exact .pad hpad (SdlInputBackend.State.other_step hpad fun _ _ he => by cases he).2.1 rfl
  | closed closer =>
    obtain ⟨pad, hpad, h⟩ := Option.bind_eq_some_iff.mp h
    have hsame := (SdlInputBackend.State.other_step hpad fun _ _ he => by cases he).2.1
    obtain ⟨rfl, hpath⟩ := both_eq h
    refine .both hpad hsame hpath fun _ _ he => ?_
    cases closer <;> cases he
  | poll isConnected sample timestampUs =>
    obtain ⟨pad, hpad, h⟩ := Option.bind_eq_some_iff.mp h
    rcases SdlInputBackend.State.poll_step hpad with ⟨g, held, hs, _, _, hreported⟩ |
      ⟨hpending, hreported, _⟩
    · simp only [hs] at h
      obtain ⟨rfl, hpath⟩ := both_eq h
      exact .callback (b := .poll isConnected sample) hpad hreported hpath
    · split at h
      · rename_i hs
        rw [hs] at hpending
        cases hpending
      · obtain ⟨rfl, hpath⟩ := both_eq h
        exact .both (b := .poll isConnected sample) hpad hreported hpath fun _ _ he => by cases he
      · simp only [Option.ite_none_right_eq_some, Option.some.injEq] at h
        obtain ⟨_, rfl⟩ := h
        exact .pad (b := .poll isConnected sample) hpad hreported rfl
  | setRumble b =>
    simp only [next, Option.ite_none_right_eq_some, Option.map_eq_some_iff] at h
    obtain ⟨hb, pad, hpad, rfl⟩ := h
    refine .pad hpad (SdlInputBackend.State.other_step hpad ?_).2.1 rfl
    rintro _ _ rfl
    cases hb
  | client c =>
    simp only [next, Option.ite_none_right_eq_some] at h
    obtain ⟨⟨hc, _⟩, h⟩ := h
    obtain ⟨hpad, hpath⟩ := both_eq h
    refine .path hpad hpath fun _ _ he => ?_
    cases he
    cases hc
  | server c =>
    obtain ⟨path, hpath, rfl⟩ := Option.map_eq_some_iff.mp h
    exact .path rfl hpath fun _ _ he => by cases he

theorem pad_of_run {l : List Label}
    (h : (system inputTimeout clientAddress sessionId now).Run l s) :
    ∃ k, SdlInputBackend.system.Run k s.pad := by
  refine h.project PadPath.pad rfl fun s a t hn => ?_
  cases moves_of_next hn with
  | pad hpad _ _ | callback hpad _ _ | both hpad _ _ _ => exact .inr ⟨_, hpad⟩
  | path hpad _ _ => exact .inl hpad

theorem path_of_run {l : List Label}
    (h : (system inputTimeout clientAddress sessionId now).Run l s) :
    ∃ k, (InputPath.system inputTimeout clientAddress sessionId now).Run k s.path := by
  refine h.project PadPath.path rfl fun s a t hn => ?_
  cases moves_of_next hn with
  | pad _ _ hpath => exact .inl hpath
  | callback _ _ hpath | both _ _ hpath _ => exact .inr ⟨.client _, hpath⟩
  | @path c _ hpath _ => exact .inr ⟨c, hpath⟩

/-! ### What the client shows of the device -/

/-- The numbered frames show states that the device reported, in their order, and at the
end the neutral state of `Stop()`. -/
def Shown (s : PadPath) : Prop :=
  ∃ polled farewell, s.path.client.shown = polled ++ farewell ∧
    polled.Sublist s.pad.reported ∧
      (farewell = [] ∨ farewell = [.neutral] ∧ s.path.client.stop.numbered = true)

/-- A step of the client that is no report. -/
theorem Shown.client (h : Shown s) {c : ClientLabel} (hi : s.path.client.Ordered)
    (hreported : t.pad.reported = s.pad.reported)
    (hstep : s.path.client.step sessionId c = some t.path.client)
    (hc : ∀ state timestampUs, c ≠ .onInputState state timestampUs) : Shown t := by
  obtain ⟨polled, farewell, hshown, hsub, hfare⟩ := h
  cases ClientSide.shown_step hi hstep with
  | nothing hsame hnumbered =>
    exact ⟨polled, farewell, hsame.trans hshown, hreported ▸ hsub,
      hfare.imp_right fun hf => ⟨hf.1, hnumbered hf.2⟩⟩
  | report he _ _ => exact absurd he (hc _ _)
  | neutral _ hs hnumbered hadd =>
    rcases hfare with rfl | ⟨_, hf⟩
    · exact ⟨polled, [.neutral], by rw [hadd, hshown, List.append_nil], hreported ▸ hsub,
        .inr ⟨rfl, hnumbered⟩⟩
    · rw [hs] at hf
      cases hf

theorem Shown.callback (h : Shown s) {state : GamepadStateV1} {timestampUs : UInt64}
    (hi : s.path.client.Ordered) (hreported : t.pad.reported = s.pad.reported ++ [state])
    (hstep : s.path.client.step sessionId (.onInputState state timestampUs) =
      some t.path.client) : Shown t := by
  obtain ⟨polled, farewell, hshown, hsub, hfare⟩ := h
  cases ClientSide.shown_step hi hstep with
  | nothing hsame hnumbered =>
    exact ⟨polled, farewell, hsame.trans hshown,
      hreported ▸ hsub.trans (List.sublist_append_left _ _),
      hfare.imp_right fun hf => ⟨hf.1, hnumbered hf.2⟩⟩
  | report he hidle hadd =>
    cases he
    rcases hfare with rfl | ⟨_, hf⟩
    · refine ⟨polled ++ [state], [], ?_, ?_, .inl rfl⟩
      · rw [hadd, hshown, List.append_nil, List.append_nil]
      · rw [hreported]
        exact hsub.append (List.Sublist.refl _)
    · rw [hidle] at hf
      cases hf
  | neutral he _ _ _ => cases he

theorem shown_of_run {l : List Label}
    (h : (system inputTimeout clientAddress sessionId now).Run l s) : Shown s := by
  refine System.Run.invariant (P := fun _ s => Shown s)
    ⟨[], [], rfl, List.nil_sublist _, .inl rfl⟩ ?_ h
  intro l s a t hr hs hn
  obtain ⟨k, hk⟩ := path_of_run hr
  obtain ⟨⟨kc, hkc⟩, _, _⟩ := InputPath.sides_of_run hk
  have hi := ClientSide.ordered_run hkc
  cases moves_of_next hn with
  | pad _ hreported hpath =>
    obtain ⟨polled, farewell, hshown, hsub, hfare⟩ := hs
    exact ⟨polled, farewell, by rw [hpath]; exact hshown, by rw [hreported]; exact hsub,
      by rw [hpath]; exact hfare⟩
  | callback _ hreported hpath =>
    obtain ⟨client, hstep, he⟩ := Option.map_eq_some_iff.mp hpath
    exact hs.callback hi hreported (by rw [← he]; exact hstep)
  | both _ hreported hpath hc =>
    obtain ⟨client, hstep, he⟩ := Option.map_eq_some_iff.mp hpath
    exact hs.client hi hreported (by rw [← he]; exact hstep) hc
  | @path c hpad hpath hc =>
    cases c with
    | client c =>
      obtain ⟨client, hstep, he⟩ := Option.map_eq_some_iff.mp hpath
      exact hs.client hi (by rw [hpad]) (by rw [← he]; exact hstep)
        fun state timestampUs he => hc state timestampUs (congrArg _ he)
    | server c =>
      simp only [InputPath.next, Option.ite_none_right_eq_some, Option.map_eq_some_iff] at hpath
      obtain ⟨_, server, _, he⟩ := hpath
      have hclient : t.path.client = s.path.client := by rw [← he]
      obtain ⟨polled, farewell, hshown, hsub, hfare⟩ := hs
      exact ⟨polled, farewell, by rw [hclient]; exact hshown, by rw [hpad]; exact hsub,
        by rw [hclient]; exact hfare⟩

/-! ### Every run -/

/-- The reports of the frames that the server applied.  The neutral ones of
`NeutralizeLocked` come on top and are not counted. -/
def reports (s : PadPath) : List XusbReport :=
  s.path.server.applied.map fun f => toXusbReport f.state

/-- **What the driver gets of the applied frames**: reports that show samples of the pad,
none twice and none out of order, and at the end of the session the neutral one. -/
def ShowsPad (s : PadPath) : Prop :=
  ∃ polled shown farewell, s.reports = shown ++ farewell ∧ List.Forall₂ Faithful polled shown ∧
    polled.Sublist s.pad.samples ∧
      (farewell = [] ∨
        farewell = [toXusbReport .neutral] ∧ s.path.client.core.state = .stopped)

/-- The frames that the server applied are a part of those that the client passed to
`SendState`, in that order. -/
theorem applied_sublist {l : List InputPath.Label} {p : InputPath}
    (h : (InputPath.system inputTimeout clientAddress sessionId now).Run l p)
    (hlt : p.client.passed.length < 2 ^ 64) : p.server.applied.Sublist p.client.passed := by
  have hin := InputPath.inOrder_of_run h hlt
  obtain ⟨⟨kc, hkc⟩, _, _⟩ := InputPath.sides_of_run h
  have hpassed : (p.client.passed.map (·.sequence)).Pairwise fun a b => a.toNat < b.toNat := by
    rw [ClientSide.passed_sequence hkc, List.pairwise_map]
    refine (List.pairwise_lt_range' (s := 1) (n := p.client.passed.length)).imp_of_mem ?_
    intro a b ha hb hab
    rw [List.mem_range'_1] at ha hb
    have hsize : b < UInt64.size := by
      show b < 2 ^ 64
      omega
    rw [UInt64.toNat_ofNat_of_lt' (Nat.lt_trans hab hsize), UInt64.toNat_ofNat_of_lt' hsize]
    exact hab
  rw [List.pairwise_map] at hpassed
  exact sublist_of_increasing ServerSide.number hin.genuine
    (hin.increasing.imp fun hfg => UInt64.lt_iff_toNat_lt.mp hfg) hpassed

end PadPath

/-- **From pad to pad.**  In every run with fewer than 2^64 sends, whatever SDL answers, the
network does and the threads' order is: each report that the server gives to the driver for
a frame is faithful to a sample that was read of the gamepad, and they come in the order of
the samples; but for the neutral one that ends a session stopped by the client. -/
theorem pad_to_pad {inputTimeout : Nat} {clientAddress sessionId : UInt32} {now : Nat}
    {l : List PadPath.Label} {s : PadPath}
    (h : (PadPath.system inputTimeout clientAddress sessionId now).Run l s)
    (hlt : s.path.client.passed.length < 2 ^ 64) : s.ShowsPad := by
  obtain ⟨kp, hpad⟩ := PadPath.pad_of_run h
  obtain ⟨k, hpath⟩ := PadPath.path_of_run h
  obtain ⟨⟨kc, hkc⟩, _, _⟩ := InputPath.sides_of_run hpath
  obtain ⟨polled, farewell, hshown, hsub, hfare⟩ := PadPath.shown_of_run h
  have happlied : (s.path.server.applied.map (·.state)).Sublist (polled ++ farewell) := by
    rw [← hshown, ClientSide.shown, List.map_append]
    exact ((PadPath.applied_sublist hpath hlt).map _).trans (List.sublist_append_left _ _)
  have hsamples : polled.Sublist (s.pad.samples.map readState) := by
    rw [← SdlInputBackend.reports_of_run hpad]
    exact hsub.trans (List.sublist_append_left _ _)
  obtain ⟨states, rest, heq, hstates, hrest⟩ := List.sublist_append_iff.mp happlied
  obtain ⟨samples, hsublist, rfl⟩ := List.sublist_map_iff.mp (hstates.trans hsamples)
  refine ⟨samples, (samples.map readState).map toXusbReport, rest.map toXusbReport, ?_, ?_,
    hsublist, ?_⟩
  · rw [PadPath.reports, ← List.map_append, ← heq, List.map_map]
    rfl
  · rw [List.map_map, List.forall₂_map_right_iff, List.forall₂_same]
    exact fun sample _ => sample_to_report.1 sample
  · rcases hfare with rfl | ⟨rfl, hnumbered⟩
    · exact .inl (by rw [List.sublist_nil.mp hrest]; rfl)
    · rcases List.sublist_singleton.mp hrest with rfl | rfl
      · exact .inl rfl
      · refine .inr ⟨rfl, (ClientSide.ordered_run hkc).stopped fun hs => ?_⟩
        rw [hs] at hnumbered
        cases hnumbered

namespace PadPath

/-- The button A is held down. -/
def held : GamepadSample := { pressed := fun button => button == .south }

/-- It is read, reported, sent and applied; then `Stop()` sends the neutral frame, which the
server applies too. -/
def heldThenStopped : List Label :=
  [.client .inputSocket, .client .publish, .client .setSessionId, .client .startClientTests,
      .client .startClientReturns, .client .takeLifecycle, .open [55] true, .openSection true] ++
    List.replicate 6 (.poll true held 10) ++
    [.client (.sendState .poll), .client (.sendto .poll .sent), .client .pollReturns,
      .server .enterLoop, .server (.receive (InputPath.packet InputPath.pressed)),
      .server (.callback true true), .client .stop, .close] ++
    List.replicate 3 (.poll true held 20) ++
    [.join, .closed .stop, .client .stopChecks, .client (.stopNumbers 20),
      .client (.sendState .stop), .client (.sendto .stop .sent),
      .server .enterLoop, .server (.receive (InputPath.packet InputPath.released)),
      .server (.callback true true)]

end PadPath

theorem pad_to_pad_held : ∃ s, (PadPath.system 100 0x0200000A 7 0).Run PadPath.heldThenStopped s ∧
    s.reports = [{ wButtons := XUSB_GAMEPAD_A }, {}] ∧ s.ShowsPad := by
  have hend : ((PadPath.system 100 0x0200000A 7 0).exec (PadPath.system 100 0x0200000A 7 0).init
      PadPath.heldThenStopped).map (fun s => (s.reports, s.path.client.passed.length)) =
        some ([{ wButtons := XUSB_GAMEPAD_A }, {}], 2) := rfl
  obtain ⟨s, hs, he⟩ := Option.map_eq_some_iff.mp hend
  have hrun := System.run_of_exec hs
  simp only [Prod.mk.injEq] at he
  exact ⟨s, hrun, he.1, pad_to_pad hrun (by rw [he.2]; decide)⟩

end RemoteController
