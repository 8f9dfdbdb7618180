import RemoteController.LanClient.Steps

/-!
# How a client numbers and sends its frames

Two threads number frames and call `SendState`: the poll thread, and the caller of
`Stop()` when it sends the final neutral state.

* `Ordered`: at most one frame has a number and is not passed on, the latest one.
* `ordered_step`: every step keeps this.
* `passed_sequence`: the frames passed to `SendState` are numbered 1, 2, 3, ...
  in the order of the calls.
* `sent_of_passed`: what is sent was passed to `SendState`.
-/

namespace RemoteController

open Lib Protocol

namespace ClientSide

/-! ### The frames -/

/-- The frames with a number that are not passed to `SendState` yet. -/
def unpassed (s : ClientSide) : List StateFrame := s.poll.unpassed ++ s.stop.call.unpassed

/-- The step moves neither a call of `SendState` nor `Stop()`. -/
structure Bystander (s t : ClientSide) : Prop where
  core : s.core.KeepsNumber t.core
  worker : t.worker = .checked → s.worker = .checked
  isOpen : t.isOpen = s.isOpen
  poll : t.poll = s.poll
  stop : t.stop = s.stop
  passed : t.passed = s.passed
  sent : t.sent = s.sent

/-- The datagram carries one of the frames, under some session id. -/
def Carries (frames : List StateFrame) (bytes : List UInt8) : Prop :=
  ∃ sessionId, ∃ f ∈ frames, bytes = (inputDatagram sessionId f).toBytes

theorem Carries.mono {frames more : List StateFrame} {bytes : List UInt8}
    (h : Carries frames bytes) (hm : ∀ f ∈ frames, f ∈ more) : Carries more bytes := by
  obtain ⟨sessionId, f, hf, he⟩ := h
  exact ⟨sessionId, f, hm f hf, he⟩

/-- What the frames look like: at most one call has a frame that it has not passed
on, and it is the one with the latest number. -/
structure Ordered (s : ClientSide) : Prop where
  stopped : s.stop ≠ .idle → s.core.state = .stopped
  joined : s.stop.joined = true → s.isOpen = false ∧ s.worker ≠ .checked
  closed : s.isOpen = false → s.poll = .idle
  latest : s.core.latestSequence = .ofNat (s.passed.length + s.unpassed.length)
  alone : ∀ f ∈ s.unpassed, s.unpassed = [f] ∧ f.sequence = s.core.latestSequence
  numbers : s.passed.map (·.sequence) = (List.range' 1 s.passed.length).map .ofNat
  admitted : ∀ caller f, s.call caller = .admitted f → f ∈ s.passed
  sent : ∀ b ∈ s.sent, Carries s.passed b

theorem ordered_started : Ordered started where
  stopped := fun h => absurd rfl h
  joined := nofun
  closed := fun _ => rfl
  latest := rfl
  alone := nofun
  numbers := rfl
  admitted := by intro caller f h; cases caller <;> cases h
  sent := nofun

theorem Ordered.bystander {s t : ClientSide} (hi : Ordered s) (h : Bystander s t) : Ordered t := by
  have hcall : ∀ caller, t.call caller = s.call caller := by
    intro caller
    cases caller
    · exact h.poll
    · show t.stop.call = s.stop.call
      rw [h.stop]
  have hun : t.unpassed = s.unpassed := by rw [unpassed, unpassed, h.poll, h.stop]
  refine ⟨?_, ?_, ?_, ?_, ?_, ?_, ?_, ?_⟩
  · rw [h.stop]; exact fun hs => h.core.stopped (hi.stopped hs)
  · rw [h.stop, h.isOpen]
    exact fun hs => ⟨(hi.joined hs).1, fun hw => (hi.joined hs).2 (h.worker hw)⟩
  · rw [h.isOpen, h.poll]; exact hi.closed
  · rw [h.core.latestSequence, h.passed, hun]; exact hi.latest
  · rw [hun, h.core.latestSequence]; exact hi.alone
  · rw [h.passed]; exact hi.numbers
  · intro caller f; rw [hcall, h.passed]; exact hi.admitted caller f
  · rw [h.sent, h.passed]; exact hi.sent

/-- The worker or the control thread moves, and the core stays. -/
theorem Ordered.of_core {s t : ClientSide} (hi : Ordered s) (hc : t.core = s.core)
    (hw : t.worker = .checked → s.worker = .checked) (ho : t.isOpen = s.isOpen)
    (hp : t.poll = s.poll) (hs : t.stop = s.stop) (hpa : t.passed = s.passed)
    (hse : t.sent = s.sent) : Ordered t :=
  hi.bystander ⟨hc ▸ s.core.keepsNumber_refl, hw, ho, hp, hs, hpa, hse⟩

theorem mem_unpassed {s : ClientSide} {caller : Caller} {f : StateFrame}
    (h : s.call caller = .numbered f) : f ∈ s.unpassed := by
  cases caller with
  | poll =>
    replace h : s.poll = .numbered f := h
    simp [unpassed, h, Call.unpassed]
  | stop =>
    replace h : s.stop.call = .numbered f := h
    simp [unpassed, h, Call.unpassed]

theorem joined_of_call {s : ClientSide} (h : s.stop.call ≠ .idle) : s.stop.joined = true := by
  cases hs : s.stop with
  | sending c => rfl
  | idle | closing | closed | numbering | stopping | closingSockets | joiningControl | joining
    | finished =>
    rw [hs] at h
    exact absurd rfl h

theorem stop_ne_idle {s : ClientSide} (h : s.stop.joined = true) : s.stop ≠ .idle := by
  intro hs
  rw [hs] at h
  cases h

/-- In its join of the control thread `Stop()` is past its call of `SendState`. -/
theorem stop_of_join {s : ClientSide} {j : Join} (h : s.join .stop = some j) :
    s.stop.call = .idle ∧ s.stop.joined = true := by
  cases hs : s.stop with
  | joiningControl => exact ⟨rfl, rfl⟩
  | idle | closing | closed | numbering | sending | stopping | closingSockets | joining
    | finished =>
    rw [join, hs] at h
    cases h

/-- **One call of `SendState` at a time.**  The other caller is not in it. -/
theorem Ordered.exclusive {s : ClientSide} (hi : Ordered s) :
    s.poll = .idle ∨ s.stop.call = .idle := by
  by_cases h : s.stop.call = .idle
  · exact Or.inr h
  · exact Or.inl (hi.closed (hi.joined (joined_of_call h)).1)

theorem Ordered.unpassed_of_call {s : ClientSide} (hi : Ordered s) {caller : Caller}
    (h : s.call caller ≠ .idle) : s.unpassed = (s.call caller).unpassed := by
  cases caller with
  | poll =>
    show s.poll.unpassed ++ s.stop.call.unpassed = s.poll.unpassed
    rw [hi.exclusive.resolve_left h]
    exact List.append_nil _
  | stop =>
    show s.poll.unpassed ++ s.stop.call.unpassed = s.stop.call.unpassed
    rw [hi.exclusive.resolve_right h]
    rfl

/-- The frames passed on and the one with the latest number are in sequence. -/
theorem Ordered.numbers_unpassed {s : ClientSide} (hi : Ordered s) :
    (s.passed ++ s.unpassed).map (·.sequence) =
      (List.range' 1 (s.passed ++ s.unpassed).length).map .ofNat := by
  cases hu : s.unpassed with
  | nil => simpa using hi.numbers
  | cons f l =>
    obtain ⟨hl, hf⟩ := hi.alone f (by rw [hu]; exact List.mem_cons_self)
    obtain rfl : l = [] := by rw [hu] at hl; exact (List.cons.inj hl).2
    have hlatest := hi.latest
    rw [hu, List.length_singleton] at hlatest
    rw [List.map_append, hi.numbers, List.length_append, List.length_singleton,
      List.range'_1_concat, List.map_append]
    simp [hf, hlatest, Nat.add_comm]

/-- What the next phase of a call does to the frames and the transport. -/
theorem ordered_setCall {s : ClientSide} (hi : Ordered s) {caller : Caller} (next : Call)
    (hidle : s.call caller ≠ .idle) (hun : next.unpassed = [])
    (transport : ClientOutput) {sent : List (List UInt8)}
    (hadm : ∀ f, next = .admitted f → f ∈ s.passed ++ s.unpassed)
    (hsent : ∀ b ∈ sent, Carries (s.passed ++ s.unpassed) b) :
    Ordered { s.setCall caller next with
      passed := s.passed ++ s.unpassed, transport := transport, sent := sent } := by
  have hlatest : s.core.latestSequence = .ofNat (s.passed ++ s.unpassed).length := by
    rw [List.length_append]; exact hi.latest
  cases caller with
  | poll =>
    -- the device is open, so `Stop()` is not past its `CloseInput()`
    have hopen : s.isOpen = true := by
      by_contra ho
      exact hidle (hi.closed (by simpa using ho))
    have hstop : s.stop.call = .idle := hi.exclusive.resolve_left hidle
    have hnil : (s.setCall .poll next).unpassed = [] := by
      show next.unpassed ++ s.stop.call.unpassed = []
      rw [hun, hstop]; rfl
    refine ⟨hi.stopped, hi.joined, ?_, ?_, ?_, hi.numbers_unpassed, ?_, hsent⟩
    · intro ho
      rw [show s.isOpen = false from ho] at hopen
      cases hopen
    · show s.core.latestSequence = .ofNat (_ + (s.setCall .poll next).unpassed.length)
      rw [hnil]; exact hlatest
    · show ∀ f ∈ (s.setCall .poll next).unpassed, _
      rw [hnil]; nofun
    · intro caller f hf
      cases caller with
      | poll => exact hadm f hf
      | stop => rw [show s.stop.call = .admitted f from hf] at hstop; cases hstop
  | stop =>
    have hjoined : s.stop.joined = true := joined_of_call hidle
    have hpoll : s.poll = .idle := hi.exclusive.resolve_right hidle
    have hnil : (s.setCall .stop next).unpassed = [] := by
      show s.poll.unpassed ++ next.unpassed = []
      rw [hun, hpoll]; rfl
    refine ⟨fun _ => hi.stopped ?_, fun _ => hi.joined hjoined, hi.closed, ?_, ?_,
      hi.numbers_unpassed, ?_, hsent⟩
    · intro hs
      rw [hs] at hjoined
      cases hjoined
    · show s.core.latestSequence = .ofNat (_ + (s.setCall .stop next).unpassed.length)
      rw [hnil]; exact hlatest
    · show ∀ f ∈ (s.setCall .stop next).unpassed, _
      rw [hnil]; nofun
    · intro caller f hf
      cases caller with
      | poll => rw [show s.poll = .admitted f from hf] at hpoll; cases hpoll
      | stop => exact hadm f hf

/-- `SendState` is called, and tests `connected_`. -/
theorem ordered_sendState {s : ClientSide} (hi : Ordered s) {caller : Caller} {f : StateFrame}
    (hc : s.call caller = .numbered f) :
    Ordered { s.setCall caller (if s.transport.connected then .admitted f else .returned f false)
      with passed := s.passed ++ [f] } := by
  have hun : s.unpassed = [f] := (hi.alone f (mem_unpassed hc)).1
  have hmem : f ∈ s.passed ++ s.unpassed := by rw [hun]; simp
  have hidle : s.call caller ≠ .idle := by rw [hc]; nofun
  have hsent : ∀ b ∈ s.sent, Carries (s.passed ++ s.unpassed) b := fun b hb =>
    (hi.sent b hb).mono fun _ => List.mem_append_left s.unpassed
  rw [← hun]
  by_cases hconn : s.transport.connected = true
  · rw [if_pos hconn]
    have hmain := ordered_setCall hi (.admitted f) hidle rfl s.transport
      (fun g hg => Call.admitted.inj hg ▸ hmem) hsent
    cases caller <;> exact hmain
  · rw [if_neg hconn]
    have hmain := ordered_setCall hi (.returned f false) hidle rfl s.transport nofun hsent
    cases caller <;> exact hmain

/-- `SendState` goes on to `sendto`, and returns. -/
theorem ordered_sendto {s : ClientSide} (hi : Ordered s) {caller : Caller} {f : StateFrame}
    (hc : s.call caller = .admitted f) (answer : SendResult) :
    Ordered { s.setCall caller (.returned f (s.transport.transmit f answer).2.1) with
      transport := (s.transport.transmit f answer).1
      sent := s.sent ++ (s.transport.transmit f answer).2.2 } := by
  have hidle : s.call caller ≠ .idle := by rw [hc]; nofun
  have hun : s.passed ++ s.unpassed = s.passed := by
    rw [hi.unpassed_of_call hidle, hc]
    exact List.append_nil _
  have hsent : ∀ b ∈ s.sent ++ (s.transport.transmit f answer).2.2,
      Carries (s.passed ++ s.unpassed) b := by
    intro b hb
    rw [hun]
    rcases List.mem_append.mp hb with hb | hb
    · exact hi.sent b hb
    · exact ⟨_, f, hi.admitted caller f hc, s.transport.transmit_sends f answer b hb⟩
  have hmain := ordered_setCall hi (.returned f (s.transport.transmit f answer).2.1)
    hidle rfl (s.transport.transmit f answer).1 nofun hsent
  rw [hun] at hmain
  cases caller <;> exact hmain

theorem ordered_close {s : ClientSide} (hi : Ordered s) (hp : s.poll = .idle) :
    Ordered { s with isOpen := false } :=
  { hi with
    joined := fun hj => ⟨rfl, (hi.joined hj).2⟩
    closed := fun _ => hp }

/-- The poll thread is back in its loop. -/
theorem Ordered.pollIdle {s : ClientSide} (hi : Ordered s) (hun : s.poll.unpassed = []) :
    Ordered { s with poll := .idle } := by
  have hsame : s.stop.call.unpassed = s.unpassed := by rw [unpassed, hun]; rfl
  refine ⟨hi.stopped, hi.joined, fun _ => rfl, ?_, ?_, hi.numbers, ?_, hi.sent⟩
  · show s.core.latestSequence = .ofNat (_ + (s.stop.call.unpassed).length)
    rw [hsame]; exact hi.latest
  · show ∀ f ∈ s.stop.call.unpassed, s.stop.call.unpassed = [f] ∧ _
    rw [hsame]; exact hi.alone
  · intro caller f hf
    cases caller with
    | poll => cases hf
    | stop => exact hi.admitted .stop f hf

/-- `Stop()` moves on, outside its call of `SendState`. -/
theorem ordered_stop {s : ClientSide} (hi : Ordered s) {next : ClientStop}
    (hs : s.core.state = .stopped) (hun : s.stop.call.unpassed = []) (hnext : next.call = .idle)
    (hjoined : next.joined = true → s.isOpen = false ∧ s.worker ≠ .checked)
    (transport : ClientOutput) : Ordered { s with stop := next, transport := transport } := by
  have hsame : s.poll.unpassed ++ next.call.unpassed = s.unpassed := by
    rw [unpassed, hnext, hun]; rfl
  refine ⟨fun _ => hs, hjoined, hi.closed, ?_, ?_, hi.numbers, ?_, hi.sent⟩
  · show s.core.latestSequence = .ofNat (_ + (s.poll.unpassed ++ next.call.unpassed).length)
    rw [hsame]; exact hi.latest
  · show ∀ f ∈ s.poll.unpassed ++ next.call.unpassed,
      s.poll.unpassed ++ next.call.unpassed = [f] ∧ f.sequence = s.core.latestSequence
    rw [hsame]; exact hi.alone
  · intro caller f hf
    cases caller with
    | poll => exact hi.admitted .poll f hf
    | stop => rw [show next.call = .admitted f from hf] at hnext; cases hnext

/-- A caller takes the next number. -/
theorem ordered_number {s t : ClientSide} (hi : Ordered s) {f : StateFrame}
    (hstopped : t.stop ≠ .idle → t.core.state = .stopped)
    (hjoined : t.stop.joined = true → t.isOpen = false ∧ t.worker ≠ .checked)
    (hclosed : t.isOpen = false → t.poll = .idle) (hun : s.unpassed = []) (hone : t.unpassed = [f])
    (hpassed : t.passed = s.passed) (hsent : t.sent = s.sent)
    (hlatest : t.core.latestSequence = s.core.latestSequence + 1)
    (hf : f.sequence = s.core.latestSequence + 1)
    (hadm : ∀ caller g, t.call caller = .admitted g → s.call caller = .admitted g) : Ordered t := by
  refine ⟨hstopped, hjoined, hclosed, ?_, ?_, ?_, ?_, ?_⟩
  · rw [hlatest, hi.latest, hun, hone, hpassed, List.length_nil, List.length_singleton,
      Nat.add_zero, UInt64.ofNat_add]
    rfl
  · rw [hone]
    intro g hg
    obtain rfl := List.mem_singleton.mp hg
    exact ⟨rfl, hf.trans hlatest.symm⟩
  · rw [hpassed]; exact hi.numbers
  · intro caller g hg
    rw [hpassed]; exact hi.admitted caller g (hadm caller g hg)
  · rw [hsent, hpassed]; exact hi.sent

/-- The first section of `Stop()` is passed once. -/
theorem Ordered.idle_of_stopLocked {s : ClientSide} (hi : Ordered s) {core : LanControllerClient}
    {neutral : Bool} (h : s.core.stopLocked = some (core, neutral)) : s.stop = .idle := by
  by_contra hs
  exact (LanControllerClient.stopped_of_stopLocked h).1 (hi.stopped hs)

theorem ordered_stopLocked {s : ClientSide} (hi : Ordered s) {core : LanControllerClient}
    {neutral : Bool} (h : s.core.stopLocked = some (core, neutral)) :
    Ordered { s with core := core, stop := .closing neutral } := by
  obtain ⟨_, hstate, hlatest, _⟩ := LanControllerClient.stopped_of_stopLocked h
  have hidle : s.stop = .idle := hi.idle_of_stopLocked h
  have hcore : Ordered { s with core := core } :=
    hi.bystander ⟨⟨hlatest, fun _ => hstate, fun hr => by rw [hstate] at hr; cases hr⟩, id, rfl,
      rfl, rfl, rfl, rfl⟩
  exact ordered_stop hcore hstate (by show s.stop.call.unpassed = []; rw [hidle]; rfl) rfl
    (fun hj => by cases hj) s.transport

theorem ordered_onInputState {s : ClientSide} (hi : Ordered s) (hopen : s.isOpen = true)
    (hp : s.poll = .idle) (state : GamepadStateV1) (timestampUs : UInt64)
    {core : LanControllerClient} {sequence : UInt64}
    (hc : s.core.onInputState = some (core, sequence)) :
    Ordered { s with core := core, poll := .numbered ⟨state, sequence, timestampUs⟩ } := by
  obtain ⟨hr, _, hseq, rfl⟩ := LanControllerClient.running_of_onInputState hc
  have hidle : s.stop = .idle := by
    by_contra hs
    rw [hi.stopped hs] at hr
    cases hr
  have hun : s.unpassed = [] := by rw [unpassed, hp, hidle]; rfl
  refine ordered_number (f := ⟨state, sequence, timestampUs⟩) hi (fun hs => absurd hidle hs)
    hi.joined ?_ hun ?_ rfl rfl rfl hseq ?_
  · intro ho
    rw [show s.isOpen = false from ho] at hopen
    cases hopen
  · show _ :: s.stop.call.unpassed = _
    rw [hidle]; rfl
  · intro caller g hg
    cases caller with
    | poll => cases hg
    | stop => exact hg

theorem ordered_stopNumbers {s : ClientSide} (hi : Ordered s) (hs : s.stop = .numbering)
    (timestampUs : UInt64) :
    Ordered { s with
      core := (s.core.neutralLocked timestampUs).1
      stop := .sending (.numbered (s.core.neutralLocked timestampUs).2) } := by
  have hj : s.stop.joined = true := by rw [hs]; rfl
  have hp : s.poll = .idle := hi.closed (hi.joined hj).1
  have hstate : s.core.state = .stopped := hi.stopped (by rw [hs]; nofun)
  have hun : s.unpassed = [] := by rw [unpassed, hp, hs]; rfl
  refine ordered_number (f := (s.core.neutralLocked timestampUs).2) hi (fun _ => hstate)
    (fun _ => hi.joined hj) hi.closed hun ?_ rfl rfl rfl rfl ?_
  · show s.poll.unpassed ++ _ = _
    rw [hp]; rfl
  · intro caller g hg
    cases caller with
    | poll => exact hg
    | stop => cases hg

/-- Past its `CloseInput()`, `Stop()` moves on. -/
theorem ordered_goesOn {s : ClientSide} (hi : Ordered s) {next : ClientStop}
    (hj : s.stop.joined = true) (hun : s.stop.call.unpassed = []) (hnext : next.call = .idle)
    (transport : ClientOutput) : Ordered { s with stop := next, transport := transport } :=
  ordered_stop hi (hi.stopped (stop_ne_idle hj)) hun hnext (fun _ => hi.joined hj) transport

theorem ordered_setJoin {s : ClientSide} (hi : Ordered s) {stopper : Stopper} {j : Join}
    (hj : s.join stopper = some j) (j' : Join) : Ordered (s.setJoin stopper j') := by
  cases stopper with
  | worker => exact hi.of_core rfl nofun rfl rfl rfl rfl rfl
  | stop =>
    obtain ⟨hcall, hjoined⟩ := stop_of_join hj
    exact ordered_goesOn hi hjoined (by rw [hcall]; rfl) rfl s.transport

theorem ordered_endJoin {s : ClientSide} (hi : Ordered s) {stopper : Stopper} {j : Join}
    (hj : s.join stopper = some j) : Ordered (s.endJoin stopper) := by
  cases stopper with
  | worker => exact hi.of_core rfl nofun rfl rfl rfl rfl rfl
  | stop =>
    obtain ⟨hcall, hjoined⟩ := stop_of_join hj
    exact ordered_goesOn hi hjoined (by rw [hcall]; rfl) rfl s.transport

/-! ### Runs -/

theorem ordered_step {negotiated : UInt32} {s t : ClientSide} {a : ClientLabel} (hi : Ordered s)
    (h : s.step negotiated a = some t) : Ordered t := by
  cases moves_of_step h with
  | connects _ hw _ =>
    refine hi.of_core rfl ?_ rfl rfl rfl rfl rfl
    rintro rfl
    cases hw
  | creates _ | mayNot _ _ | opensNot _ | stops _ | closesSockets _ | wakes _ _ =>
    exact hi.of_core rfl nofun rfl rfl rfl rfl rfl
  | signals | controlEnds _ | crashes _ _ => exact hi.of_core rfl id rfl rfl rfl rfl rfl
  | fails _ hw =>
    refine hi.bystander ⟨s.core.startFailed_keeps, fun he => ?_, rfl, rfl, rfl, rfl, rfl⟩
    rcases hw with rfl | rfl <;> cases he
  | mayOpen _ hm =>
    -- the session is not over, so `Stop()` has not closed the device yet
    refine { hi with joined := fun hj => absurd hm ?_ }
    rw [LanControllerClient.mayOpen, hi.stopped (stop_ne_idle hj)]
    simp
  | opens hw =>
    exact { hi with
      joined := fun hj => absurd hw (hi.joined hj).2
      closed := fun ho => by cases ho }
  | closes _ hp => exact (ordered_close hi hp).of_core rfl nofun rfl rfl rfl rfl rfl
  | ignores | stopAgain => exact hi
  | reports hopen hp hc => exact ordered_onInputState hi hopen hp _ _ hc
  | passes hc => exact ordered_sendState hi hc
  | sends hc => exact ordered_sendto hi hc _
  | returns hp hk =>
    exact (hi.pollIdle (by rw [hp]; rfl)).bystander ⟨hk, id, rfl, rfl, rfl, rfl, rfl⟩
  | locked hk => exact hi.bystander ⟨hk, id, rfl, rfl, rfl, rfl, rfl⟩
  | finds hj _ | joins hj _ => exact ordered_setJoin hi hj _
  | skips hj _ => exact ordered_endJoin hi hj
  | joined hj _ => exact (ordered_endJoin hi hj).of_core rfl id rfl rfl rfl rfl rfl
  | stopBegins hc => exact ordered_stopLocked hi hc
  | stopCloses hs hp hw =>
    exact ordered_stop (ordered_close hi hp) (hi.stopped (by rw [hs]; nofun))
      (by show s.stop.call.unpassed = []; rw [hs]; rfl) rfl (fun _ => ⟨rfl, hw⟩) s.transport
  | stopChecks hs =>
    refine ordered_goesOn hi (by rw [hs]; rfl) (by rw [hs]; rfl) ?_ s.transport
    split <;> rfl
  | stopNumbers hs => exact ordered_stopNumbers hi hs _
  | stopReturns hs | stopStops hs | stopClosesSockets hs | stopJoins hs _ =>
    exact ordered_goesOn hi (by rw [hs]; rfl) (by rw [hs]; rfl) rfl _

/-- `SendState` calls are added and never taken back. -/
theorem passed_step {negotiated : UInt32} {s t : ClientSide} {a : ClientLabel}
    (h : s.step negotiated a = some t) : s.passed <+: t.passed := by
  cases moves_of_step h with
  | passes _ => exact List.prefix_append _ _
  | @sends caller _ _ _ => cases caller <;> exact List.prefix_refl _
  | @skips stopper _ _ | @finds stopper _ _ | @joins stopper _ _ | @joined stopper _ _ =>
    cases stopper <;> exact List.prefix_refl _
  | _ => exact List.prefix_refl _

theorem ordered_run {negotiated : UInt32} {l : List ClientLabel} {s : ClientSide}
    (h : (system negotiated).Run l s) : Ordered s :=
  System.Run.invariant (P := fun _ s => Ordered s) ordered_started
    (fun _ _ _ _ _ hi hn => ordered_step hi hn) h

/-- **The frames passed to `SendState` are numbered 1, 2, 3, ... in the order of the
calls**, whichever threads make them. -/
theorem passed_sequence {negotiated : UInt32} {l : List ClientLabel} {s : ClientSide}
    (h : (system negotiated).Run l s) :
    s.passed.map (·.sequence) = (List.range' 1 s.passed.length).map .ofNat :=
  (ordered_run h).numbers

/-- **What is sent was passed to `SendState`.** -/
theorem sent_of_passed {negotiated : UInt32} {l : List ClientLabel} {s : ClientSide}
    (h : (system negotiated).Run l s) : ∀ b ∈ s.sent, Carries s.passed b :=
  (ordered_run h).sent

end ClientSide

end RemoteController
