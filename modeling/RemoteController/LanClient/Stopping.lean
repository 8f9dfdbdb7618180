import RemoteController.LanClient.Joining

/-!
# Stopping a client

`Stop()` of `LanControllerClient` against the worker, the poll thread and the
control thread, wherever they are.

* `stop_step`: what one step does to a `Stop()` under way.
* `StoppedCleanly`: what is over for good when `Stop()` returns.
* `FinalNeutral`: the last frame of a session that was running and connected.
* `stops_cleanly`: both, for every run in which no two threads join the control thread
  at once (`joinedTwice_crashes` is one in which they do).
* `final_neutral_wraps`: after `2 ^ 64 - 1` frames the last one has number 0.
-/

namespace RemoteController

open Lib Protocol

namespace ClientSide

variable {negotiated : UInt32} {s t : ClientSide} {a : ClientLabel}

/-! ### What a step does to `Stop()` -/

/-- The step `a` leads from `s` to `t`: it is another thread's, or `Stop()` goes on. -/
inductive StopMoves (s t : ClientSide) (a : ClientLabel) : Prop
  | leaves : t.stop = s.stop → (s.stop.joined = true → t.passed = s.passed) → StopMoves s t a
  | begins {neutral : Bool} : s.stop = .idle → t.stop = .closing neutral → StopMoves s t a
  | closes {neutral : Bool} : s.stop = .closing neutral → t.stop = .closed neutral →
      StopMoves s t a
  | checks {neutral : Bool} : a = .stopChecks → s.stop = .closed neutral →
      t.stop = (if neutral && s.transport.connected then .numbering else .stopping) →
      t.passed = s.passed → StopMoves s t a
  | numbers {f : StateFrame} : s.stop = .numbering → t.stop = .sending (.numbered f) →
      f.state = {} → t.passed = s.passed → StopMoves s t a
  | passes {f : StateFrame} : s.stop = .sending (.numbered f) → t.stop.spent = true →
      t.stop ≠ .finished → t.passed = s.passed ++ [f] → StopMoves s t a
  | goesOn : s.stop.spent = true → t.stop.spent = true → t.stop ≠ .finished →
      t.passed = s.passed → StopMoves s t a
  | returns : s.stop = .joining → s.worker = .ended → t = { s with stop := .finished } →
      StopMoves s t a

theorem call_stop_eq {c : Call} (hc : c ≠ .idle) (h : s.call .stop = c) : s.stop = .sending c := by
  cases hs : s.stop with
  | sending c' => rw [call, hs] at h; exact congrArg _ h
  | idle | closing | closed | numbering | stopping | closingSockets | joiningControl | joining
    | finished =>
    rw [call, hs] at h
    exact absurd h.symm hc

theorem spent_of_join {j : Join} (h : s.join .stop = some j) : s.stop.spent = true := by
  cases hs : s.stop <;> simp only [join, hs, ClientStop.join, reduceCtorEq] at h
  rfl

theorem stopMoves_join {stopper : Stopper} {j : Join} (hj : s.join stopper = some j) :
    (∀ j', StopMoves s (s.setJoin stopper j') a) ∧ StopMoves s (s.endJoin stopper) a := by
  cases stopper with
  | worker => exact ⟨fun _ => .leaves rfl fun _ => rfl, .leaves rfl fun _ => rfl⟩
  | stop =>
    have hs : s.stop.spent = true := spent_of_join hj
    exact ⟨fun _ => .goesOn hs rfl nofun rfl, .goesOn hs rfl nofun rfl⟩

/-- **What a step does to `Stop()`.** -/
theorem stop_step (hi : Ordered s) (h : s.step negotiated a = some t) : StopMoves s t a := by
  cases moves_of_step h with
  | @passes caller f hc =>
    cases caller with
    | poll =>
      refine .leaves rfl fun hj => ?_
      -- the poll thread has ended
      have hp : s.call .poll = .idle := hi.closed (hi.joined hj).1
      rw [hp] at hc
      cases hc
    | stop =>
      have hspent : ∀ c : Call, c = .admitted f ∨ c = .returned f false →
          (ClientStop.sending c).spent = true := by rintro c (rfl | rfl) <;> rfl
      refine .passes (call_stop_eq (by nofun) hc) (hspent _ ?_) nofun rfl
      split
      · exact .inl rfl
      · exact .inr rfl
  | @sends caller f answer hc =>
    cases caller with
    | poll => exact .leaves rfl fun _ => rfl
    | stop =>
      have hst := call_stop_eq (by nofun) hc
      exact .goesOn (by rw [hst]; rfl) rfl nofun rfl
  | finds hj _ | joins hj _ => exact (stopMoves_join hj).1 _
  | skips hj _ => exact (stopMoves_join hj).2
  | @joined stopper hj _ =>
    cases stopper with
    | worker => exact .leaves rfl fun _ => rfl
    | stop => exact .goesOn (spent_of_join hj) rfl nofun rfl
  | stopBegins hc => exact .begins (hi.idle_of_stopLocked hc) rfl
  | stopCloses hs _ _ => exact .closes hs rfl
  | stopChecks hs => exact .checks rfl hs rfl rfl
  | stopNumbers hs => exact .numbers hs rfl rfl rfl
  | stopReturns hs | stopStops hs | stopClosesSockets hs =>
    exact .goesOn (by rw [hs]; rfl) rfl nofun rfl
  | stopJoins hs hw => exact .returns hs hw rfl
  | _ => exact .leaves rfl fun _ => rfl

/-! ### After `Stop()` -/

/-- `Stop()` has returned, and no thread of the client is left. -/
structure Over (s : ClientSide) : Prop where
  stop : s.stop = .finished
  worker : s.worker = .ended
  isOpen : s.isOpen = false
  poll : s.poll = .idle
  state : s.core.state = .stopped

/-- **Nothing happens any more.** -/
theorem Over.step (ho : Over s) (h : s.step negotiated a = some t) :
    Over t ∧ t.sent = s.sent ∧ t.passed = s.passed := by
  have hcall : ∀ caller, s.call caller = .idle := by
    intro caller
    cases caller with
    | poll => exact ho.poll
    | stop => rw [call, ho.stop]; rfl
  have hjoin : ∀ stopper, s.join stopper = none := by
    intro stopper
    cases stopper with
    | worker => rw [join, ho.worker]; rfl
    | stop => rw [join, ho.stop]; rfl
  cases moves_of_step h with
  | ignores | stopAgain => exact ⟨ho, rfl, rfl⟩
  | locked hk => exact ⟨⟨ho.stop, ho.worker, ho.isOpen, ho.poll, hk.stopped ho.state⟩, rfl, rfl⟩
  | signals | controlEnds _ | crashes _ _ =>
    exact ⟨⟨ho.stop, ho.worker, ho.isOpen, ho.poll, ho.state⟩, rfl, rfl⟩
  | connects hw _ _ => rw [ho.worker] at hw; cases hw
  | fails hw _ => exact absurd ho.worker hw
  | creates hw | mayOpen hw _ | mayNot hw _ | opens hw | opensNot hw | stops hw | closesSockets hw
    | wakes hw _ | closes hw _ => rw [ho.worker] at hw; cases hw
  | reports hopen _ _ => rw [ho.isOpen] at hopen; cases hopen
  | passes hc | sends hc => rw [hcall] at hc; cases hc
  | returns hp _ => rw [ho.poll] at hp; cases hp
  | skips hj _ | finds hj _ | joins hj _ | joined hj _ => rw [hjoin] at hj; cases hj
  | stopBegins hc => exact absurd ho.state (LanControllerClient.stopped_of_stopLocked hc).1
  | stopCloses hs _ _ | stopChecks hs | stopNumbers hs | stopReturns hs | stopStops hs
    | stopClosesSockets hs | stopJoins hs _ => rw [ho.stop] at hs; cases hs

theorem Over.path (ho : Over s) {l : List ClientLabel} (h : (system negotiated).Path s l t) :
    Over t ∧ t.sent = s.sent ∧ t.passed = s.passed := by
  induction h with
  | refl => exact ⟨ho, rfl, rfl⟩
  | snoc _ hn ih =>
    obtain ⟨ho', hsent, hpassed⟩ := ih
    obtain ⟨ho'', hsent', hpassed'⟩ := Over.step ho' hn
    exact ⟨ho'', hsent'.trans hsent, hpassed'.trans hpassed⟩

/-- `Stop()` returns from its join only. -/
theorem joins_of_finished (hi : Ordered s) (h : s.step negotiated a = some t)
    (ht : t.stop = .finished) :
    s.stop = .finished ∨
      s.worker = .ended ∧ s.stop = .joining ∧ t = { s with stop := .finished } := by
  cases stop_step hi h with
  | leaves hstop _ => exact Or.inl (hstop.symm.trans ht)
  | returns hs hw he => exact Or.inr ⟨hw, hs, he⟩
  | passes _ _ hne _ | goesOn _ _ hne _ => exact absurd ht hne
  | begins _ hstop | closes _ hstop | numbers _ hstop => rw [hstop] at ht; cases ht
  | checks _ _ hstop _ =>
    rw [hstop] at ht
    split at ht <;> cases ht

theorem over_run {l : List ClientLabel} {s : ClientSide} (h : (system negotiated).Run l s) :
    s.stop = .finished → Over s := by
  induction h with
  | refl => intro hs; cases hs
  | @snoc l s t a hr hn ih =>
    intro ht
    have hi := ordered_run hr
    rcases joins_of_finished hi hn ht with hs | ⟨hw, hs, rfl⟩
    · exact (Over.step (ih hs) hn).1
    · have hj := (hi.joined (by rw [hs]; rfl)).1
      exact ⟨rfl, hw, hj, hi.closed hj, hi.stopped (by rw [hs]; decide)⟩

/-! ### The final neutral state -/

/-- Past `stopChecks`, with `passed` the frames passed until then: the neutral frame
is still to come, or it is the last. -/
inductive Farewell (passed : List StateFrame) (s : ClientSide) : Prop
  | numbering : s.stop = .numbering → s.passed = passed → Farewell passed s
  | numbered {f : StateFrame} : s.stop = .sending (.numbered f) → f.state = {} →
      s.passed = passed → Farewell passed s
  | spent {f : StateFrame} : s.stop.spent = true → f.state = {} →
      s.passed = passed ++ [f] → Farewell passed s

theorem Farewell.joined {passed : List StateFrame} (h : Farewell passed s) :
    s.stop.joined = true := by
  cases h with
  | numbering hs _ => rw [hs]; rfl
  | numbered hs _ _ => rw [hs]; rfl
  | spent hs _ _ => exact ClientStop.joined_of_spent hs

theorem Farewell.same {passed : List StateFrame} (h : Farewell passed s)
    (hstop : t.stop = s.stop) (hpassed : t.passed = s.passed) : Farewell passed t := by
  cases h with
  | numbering hs hp => exact .numbering (hstop.trans hs) (hpassed.trans hp)
  | numbered hs hf hp => exact .numbered (hstop.trans hs) hf (hpassed.trans hp)
  | spent hs hf hp => exact .spent (by rw [hstop]; exact hs) hf (hpassed.trans hp)

theorem farewell_step {passed : List StateFrame} (hi : Ordered s) (hf : Farewell passed s)
    (h : s.step negotiated a = some t) : Farewell passed t := by
  have hj := hf.joined
  cases stop_step hi h with
  | leaves hstop hp => exact hf.same hstop (hp hj)
  | begins hs _ | closes hs _ => rw [hs] at hj; cases hj
  | checks _ hs _ _ =>
    cases hf with
    | numbering hs' _ | numbered hs' _ _ | spent hs' _ _ => rw [hs] at hs'; cases hs'
  | numbers hs ht hn hp =>
    cases hf with
    | numbering _ hp' => exact .numbered ht hn (hp.trans hp')
    | numbered hs' _ _ | spent hs' _ _ => rw [hs] at hs'; cases hs'
  | passes hs ht _ hp =>
    cases hf with
    | numbered hs' hn hp' =>
      obtain rfl := Call.numbered.inj (ClientStop.sending.inj (hs.symm.trans hs'))
      exact .spent ht hn (by rw [hp, hp'])
    | numbering hs' _ | spent hs' _ _ => rw [hs] at hs'; cases hs'
  | goesOn hs ht _ hp =>
    cases hf with
    | numbering hs' _ | numbered hs' _ _ => rw [hs'] at hs; cases hs
    | spent _ hn hp' => exact .spent ht hn (hp.trans hp')
  | returns hs _ he =>
    subst he
    cases hf with
    | numbering hs' _ | numbered hs' _ _ => rw [hs] at hs'; cases hs'
    | spent _ hn hp => exact .spent rfl hn hp

theorem farewell_path {passed : List StateFrame} {l k : List ClientLabel}
    (hr : (system negotiated).Run l s) (hf : Farewell passed s)
    (h : (system negotiated).Path s k t) : Farewell passed t := by
  induction h with
  | refl => exact hf
  | snoc hp hn ih => exact farewell_step (ordered_run (hr.append hp)) ih hn

/-- `send_neutral` stays what the first section of `Stop()` made it. -/
def SendsNeutral (s : ClientSide) : Prop :=
  s.stop ≠ .idle ∧ ∀ neutral, s.stop = .closing neutral ∨ s.stop = .closed neutral → neutral = true

theorem sendsNeutral_stop (hr : s.core.state = .running) (h : s.step negotiated .stop = some t) :
    SendsNeutral t := by
  replace h := act_of_step h
  simp only [act, LanControllerClient.stopLocked, hr, reduceCtorEq, if_false,
    Option.some.injEq] at h
  rw [← h]
  exact ⟨fun he => (by cases he), fun b hb => by rcases hb with hb | hb <;> cases hb; rfl⟩

theorem sendsNeutral_step (hi : Ordered s) (hn : SendsNeutral s)
    (h : s.step negotiated a = some t) : SendsNeutral t := by
  obtain ⟨hidle, hneutral⟩ := hn
  cases stop_step hi h with
  | leaves hstop _ => rw [SendsNeutral, hstop]; exact ⟨hidle, hneutral⟩
  | begins hs _ => exact absurd hs hidle
  | @closes b hs ht =>
    obtain rfl := hneutral b (Or.inl hs)
    rw [SendsNeutral, ht]
    exact ⟨fun e => (by cases e), fun b hb => by rcases hb with hb | hb <;> cases hb; rfl⟩
  | checks _ _ ht _ =>
    rw [SendsNeutral, ht]
    split <;>
      exact ⟨fun e => (by cases e), fun b hb => by rcases hb with hb | hb <;> cases hb⟩
  | numbers _ ht _ _ =>
    rw [SendsNeutral, ht]
    exact ⟨fun e => (by cases e), fun b hb => by rcases hb with hb | hb <;> cases hb⟩
  | passes _ ht _ _ | goesOn _ ht _ _ =>
    refine ⟨fun e => ?_, fun b hb => ?_⟩
    · rw [e] at ht; cases ht
    · rcases hb with hb | hb <;> (rw [hb] at ht; cases ht)
  | returns _ _ he =>
    subst he
    exact ⟨fun e => (by cases e), fun b hb => by rcases hb with hb | hb <;> cases hb⟩

theorem sendsNeutral_path {l k : List ClientLabel} (hr : (system negotiated).Run l s)
    (hn : SendsNeutral s) (h : (system negotiated).Path s k t) : SendsNeutral t := by
  induction h with
  | refl => exact hn
  | snoc hp hstep ih => exact sendsNeutral_step (ordered_run (hr.append hp)) ih hstep

theorem farewell_stopChecks (hn : SendsNeutral s) (hc : s.transport.connected = true)
    (h : s.step negotiated .stopChecks = some t) : Farewell s.passed t := by
  replace h := act_of_step h
  cases hs : s.stop <;> simp only [act, hs, reduceCtorEq, Option.some.injEq] at h
  obtain rfl := hn.2 _ (Or.inr hs)
  rw [← h, hc]
  exact .numbering rfl rfl

/-! ### Runs -/

/-- `Stop()` has returned: the worker and the poll thread have ended, and the device
stays closed and the channel silent. -/
structure StoppedCleanly (negotiated : UInt32) (s : ClientSide) : Prop where
  worker : s.worker = .ended
  poll : s.poll = .idle
  closed : ∀ l t, (system negotiated).Path s l t → t.isOpen = false
  silent : ∀ l t, (system negotiated).Path s l t → t.sent = s.sent ∧ t.passed = s.passed

/-- The frame `f` is numbered above the earlier ones. -/
def Highest (earlier : List StateFrame) (f : StateFrame) : Prop :=
  ∀ g ∈ earlier, g.sequence < f.sequence

/-- Fewer than `2 ^ 64` numbers are drawn, and `f` has the highest. -/
def HighestOf64 (earlier : List StateFrame) (f : StateFrame) : Prop :=
  earlier.length + 1 < 2 ^ 64 → Highest earlier f

/-- Where the run `l` stops a running session and `Stop()` finds the transport
connected, `s` is reached with the neutral state passed last, and its number is as
`numbered` says. -/
def FinalNeutral (negotiated : UInt32) (numbered : List StateFrame → StateFrame → Prop)
    (l : List ClientLabel) (s : ClientSide) : Prop :=
  ∀ l₁ l₂ l₃ s₁ s₂, l = l₁ ++ .stop :: (l₂ ++ .stopChecks :: l₃) →
    (system negotiated).Run l₁ s₁ → s₁.core.state = .running →
    (system negotiated).Run (l₁ ++ .stop :: l₂) s₂ → s₂.transport.connected = true →
    ∃ (earlier : List StateFrame) (f : StateFrame), s.passed = earlier ++ [f] ∧ f.state = {} ∧
      numbered earlier f

/-- Frames numbered 1, 2, 3, ... get higher numbers until the numbers run out. -/
theorem highestOf64 {l : List ClientLabel} (h : (system negotiated).Run l s)
    {earlier : List StateFrame} {f : StateFrame} (hp : s.passed = earlier ++ [f]) :
    HighestOf64 earlier f := by
  intro hlen
  have hnum := passed_sequence h
  have hlength : s.passed.length = earlier.length + 1 := by rw [hp, List.length_append]; rfl
  rw [hp, List.map_append, ← hp, hlength, List.range'_1_concat, List.map_append] at hnum
  obtain ⟨hearlier, hlast⟩ := List.append_inj' hnum rfl
  have hf : f.sequence = .ofNat (1 + earlier.length) := by simpa using hlast
  intro g hg
  have hmem : g.sequence ∈ (List.range' 1 earlier.length).map UInt64.ofNat := by
    rw [← hearlier]
    exact List.mem_map_of_mem hg
  obtain ⟨i, hi, hgi⟩ := List.mem_map.mp hmem
  have hib := (List.mem_range'_1.mp hi).2
  have hsize : UInt64.size = 2 ^ 64 := rfl
  rw [hf, ← hgi, UInt64.lt_iff_toNat_lt, UInt64.toNat_ofNat_of_lt' (by omega),
    UInt64.toNat_ofNat_of_lt' (by omega)]
  exact hib

theorem finalNeutral_run {l : List ClientLabel} (h : (system negotiated).Run l s)
    (hs : s.stop = .finished) : FinalNeutral negotiated HighestOf64 l s := by
  rintro l₁ l₂ l₃ s₁ s₂ rfl h₁ hrunning h₂ hconnected
  -- `Stop()` finds the session running
  obtain ⟨m, hm, hp⟩ := System.Path.split h₂
  obtain rfl := System.Path.unique h₁ hm
  obtain ⟨t₁, hn, hp₂⟩ := System.path_cons_iff.mp hp
  have hneutral := sendsNeutral_path (h₁.snoc hn) (sendsNeutral_stop hrunning hn) hp₂
  -- it finds the transport connected
  rw [show l₁ ++ .stop :: (l₂ ++ .stopChecks :: l₃) = (l₁ ++ .stop :: l₂) ++ .stopChecks :: l₃ by
    simp] at h
  obtain ⟨m, hm, hp₃⟩ := System.Path.split h
  obtain rfl := System.Path.unique h₂ hm
  obtain ⟨t₂, hn₂, hp₄⟩ := System.path_cons_iff.mp hp₃
  have hlast := farewell_stopChecks hneutral hconnected hn₂
  cases farewell_path (h₂.snoc hn₂) hlast hp₄ with
  | numbering hst _ => rw [hs] at hst; cases hst
  | numbered hst _ _ => rw [hs] at hst; cases hst
  | @spent f _ hf hpassed => exact ⟨_, f, hpassed, hf, highestOf64 h hpassed⟩

theorem stoppedCleanly_run {l : List ClientLabel} (h : (system negotiated).Run l s)
    (hs : s.stop = .finished) : StoppedCleanly negotiated s :=
  have hover := over_run h hs
  ⟨hover.worker, hover.poll, fun _ _ hp => (hover.path hp).1.isOpen,
    fun _ _ hp => (hover.path hp).2⟩

/-- **A client stops cleanly from any point**, if the two calls of the transport's
`Stop()` do not join the control thread at the same time.  Wherever the other threads
are, nothing crashes, and when `Stop()` returns they have ended and nothing is opened or
sent any more; and the last frame of a session that was running and connected is
neutral, with the highest number as long as the 64 bits last. -/
theorem stops_cleanly {l : List ClientLabel} (h : (system negotiated).RunWith JoinsAlone l s) :
    s.crashed = false ∧ (s.stop = .finished →
      StoppedCleanly negotiated s ∧ FinalNeutral negotiated HighestOf64 l s) :=
  ⟨(alone_run h).crashed, fun hs => ⟨stoppedCleanly_run h.run hs, finalNeutral_run h.run hs⟩⟩

/-- The client connects and opens its device. -/
def startup : List ClientLabel :=
  [.inputSocket, .publish, .setSessionId, .startClientTests, .startClientReturns, .takeLifecycle,
    .openDevice true]

/-- The poll thread reads a state and sends it. -/
def sample : List ClientLabel := [.onInputState {} 0, .sendState .poll, .sendto .poll .sent,
  .pollReturns]

/-- `Stop()` from the check of the connection on, and the end of the other threads. -/
def farewell : List ClientLabel :=
  [.stopNumbers 0, .sendState .stop, .sendto .stop .sent, .stopReturns, .stopStops,
    .stopClosesSockets, .testsControl .stop, .joinsControl .stop, .controlEnds,
    .joinedControl .stop, .workerWakes, .workerCloses, .stopJoins]

theorem stops_cleanly_afterOneFrame :
    ∃ s, (system 7).RunWith JoinsAlone
        (startup ++ sample ++ .stop :: ([.stopCloses] ++ .stopChecks :: farewell)) s ∧
      s.crashed = false ∧ StoppedCleanly 7 s ∧
      FinalNeutral 7 HighestOf64
        (startup ++ sample ++ .stop :: ([.stopCloses] ++ .stopChecks :: farewell)) s ∧
      s.passed.length = 2 :=
  have h : (system 7).RunWith JoinsAlone
    (startup ++ sample ++ .stop :: ([.stopCloses] ++ .stopChecks :: farewell)) _ :=
    System.runWith_of_exec rfl
  have hclean := stops_cleanly h
  ⟨_, h, hclean.1, (hclean.2 rfl).1, (hclean.2 rfl).2, rfl⟩

/-! ### When the numbers run out -/

/-- Connected, with the device open and no call under way. -/
structure Sampling (s : ClientSide) : Prop where
  worker : s.worker = .opened
  isOpen : s.isOpen = true
  poll : s.poll = .idle
  stop : s.stop = .idle
  running : s.core.state = .running
  requested : s.core.stopRequested = false
  connected : s.transport.connected = true
  inputOpen : s.transport.inputOpen = true
  control : s.control = .running
  crashed : s.crashed = false

/-- One more frame. -/
theorem Sampling.sample (h : Sampling s) (negotiated : UInt32) :
    ∃ t, (system negotiated).Path s sample t ∧ Sampling t ∧
      t.passed.length = s.passed.length + 1 := by
  obtain ⟨core, transport, control, worker, isOpen, poll, stop, crashed, passed, sent⟩ := s
  obtain ⟨state, current, latest, stamp, rumbles, low, high, requested⟩ := core
  obtain ⟨connected, sessionId, inputOpen, stopRequested, signaled, count, dropped, last, error⟩ :=
    transport
  obtain ⟨rfl, rfl, rfl, rfl, rfl, rfl, rfl, rfl, rfl, rfl⟩ := h
  refine ⟨_, System.path_of_exec rfl, ⟨rfl, rfl, rfl, rfl, rfl, rfl, rfl, rfl, rfl, rfl⟩, ?_⟩
  exact List.length_append

/-- As many frames as one likes. -/
theorem sampling_run (negotiated : UInt32) (n : Nat) :
    ∃ l s, (system negotiated).Run l s ∧ Sampling s ∧ s.passed.length = n := by
  induction n with
  | zero =>
    have h : (system negotiated).Run startup _ := System.run_of_exec rfl
    exact ⟨_, _, h, ⟨rfl, rfl, rfl, rfl, rfl, rfl, rfl, rfl, rfl, rfl⟩, rfl⟩
  | succ n ih =>
    obtain ⟨l, s, h, hs, hn⟩ := ih
    obtain ⟨t, hp, ht, hlen⟩ := hs.sample negotiated
    exact ⟨_, t, h.append hp, ht, by rw [hlen, hn]⟩

/-- `Stop()` passes the neutral state on, under the next number. -/
theorem Sampling.farewell (h : Sampling s) (negotiated : UInt32) :
    ∃ m t, (system negotiated).Path s [.stop, .stopCloses] m ∧ m.transport.connected = true ∧
      (system negotiated).Path m (.stopChecks :: farewell) t ∧ t.stop = .finished ∧
      t.passed = s.passed ++ [⟨{}, s.core.latestSequence + 1, 0⟩] := by
  obtain ⟨core, transport, control, worker, isOpen, poll, stop, crashed, passed, sent⟩ := s
  obtain ⟨state, current, latest, stamp, rumbles, low, high, requested⟩ := core
  obtain ⟨connected, sessionId, inputOpen, stopRequested, signaled, count, dropped, last, error⟩ :=
    transport
  obtain ⟨rfl, rfl, rfl, rfl, rfl, rfl, rfl, rfl, rfl, rfl⟩ := h
  exact ⟨_, _, System.path_of_exec rfl, rfl, System.path_of_exec rfl, rfl, rfl⟩

/-- **After `2 ^ 64 - 1` frames the numbers start again at 0**, and the neutral state
that `Stop()` sends has the lowest number of all. -/
theorem final_neutral_wraps :
    ¬ ∀ negotiated l s, (system negotiated).Run l s → s.stop = .finished →
      StoppedCleanly negotiated s ∧ FinalNeutral negotiated Highest l s := by
  intro hall
  obtain ⟨l, s, h, hs, hlen⟩ := sampling_run 7 (2 ^ 64 - 1)
  obtain ⟨m, t, hm, hconnected, ht, hfinished, hpassed⟩ := hs.farewell 7
  have hrun : (system 7).Run (l ++ .stop :: ([.stopCloses] ++ .stopChecks :: farewell)) t := by
    have := (h.append hm).append ht
    simpa using this
  obtain ⟨earlier, f, hp, _, hlt⟩ :=
    (hall 7 _ t hrun hfinished).2 l [.stopCloses] farewell s m rfl h
    hs.running (by simpa using h.append hm) hconnected
  rw [hpassed] at hp
  obtain ⟨rfl, hf⟩ := List.append_inj' hp rfl
  obtain rfl := (List.cons.inj hf).1
  have hlatest : s.core.latestSequence + 1 = 0 := by
    have hi := (ordered_run h).latest
    have hun : s.unpassed = [] := by rw [unpassed, hs.poll, hs.stop]; rfl
    rw [hi, hun, hlen]
    decide
  cases hfirst : s.passed with
  | nil => rw [hfirst] at hlen; cases hlen
  | cons g rest =>
    have hg := hlt g (by rw [hfirst]; exact List.mem_cons_self)
    rw [hlatest, UInt64.lt_iff_toNat_lt] at hg
    exact Nat.not_lt_zero _ hg

end ClientSide

end RemoteController
