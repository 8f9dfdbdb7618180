import RemoteController.LanServer.Threads

/-!
# What `Stop()` leaves behind

When `Stop()` of a LAN server returns, its worker has been joined and the target destroyed.
The threads of the two loops need not have been joined: `StartServer` may be about to create
them while the transport's `Stop()` looks for them.  Such a loop does nothing: it finds
`stop_requested_` set at its first test.

* `Aside`: what the other threads do to the owner's session.
* `Shape`: what holds where the owner is.
* `server_ends`: after a `Stop()`, no callback comes any more and the session never changes.
-/

namespace RemoteController

open Lib Protocol

namespace ServerLife

open LanControllerServer (monitor)

variable {inputTimeout : Nat} {s t : ServerLife}

/-- A step of the worker's loop: it fires over a running session, or leaves it alone. -/
theorem drifts_of_watchdog {core : Monitor.State LanControllerServer}
    {b : Monitor.Label LanControllerServer.Section Bool} (hown : ownWatchdog b = true)
    (hn : (monitor inputTimeout).next s.core b = some core) :
    s.session.Drifts .faulted core.core := by
  rcases Monitor.core_step hn with he | ⟨c, rfl | rfl, _⟩ | ⟨neutralOk, d, _, _, hf, he⟩
  · exact .inl he
  · cases hown
  · cases hown
  · simp only [Monitor.fires, Bool.and_eq_true] at hf
    rw [he]
    exact LanControllerServer.drifts_watchdogRelease
      (LanControllerServer.live_iff.mp hf.1.1).2 neutralOk

/-- The branch of `StartWorker` for a transport that did not start. -/
theorem core_of_abandon {core : Monitor.State LanControllerServer} {neutralOk : Bool}
    (hn : (monitor inputTimeout).next s.core (.abandon (.transportStartFailed neutralOk)) =
      some core) :
    core.core = s.session.transportStartFailed neutralOk := by
  cases hthread : s.core.thread with
  | outside =>
    simp only [Monitor.next, hthread] at hn
    obtain rfl := Option.some.inj hn
    rfl
  | waiting | woken | timed | timedWoken | timedOut | finished =>
    simp only [Monitor.next, hthread, reduceCtorEq] at hn

/-! ### The other threads -/

/-- The loop calls nobody, and will not once a stop is requested. -/
def Loop.inert : Loop → Bool
  | .none | .top | .left => true
  | _ => false

/-- **What the other threads can do.** -/
structure Aside (s t : ServerLife) : Prop where
  owner : t.owner = s.owner
  stopped : t.stopped = s.stopped
  stopRequested : t.transport.stopRequested = s.transport.stopRequested
  worker : s.worker = .none → t.worker = .none
  session : ∃ out, (out = .faulted ∨ out = .disconnected) ∧ s.session.Drifts out t.session
  inert : s.transport.stopRequested = true → ∀ c, (s.loop c).inert = true → (t.loop c).inert = true

/-- A step that leaves the loops alone. -/
theorem Aside.of_session (ho : t.owner = s.owner) (hs : t.stopped = s.stopped)
    (ht : t.transport.stopRequested = s.transport.stopRequested)
    (hw : s.worker = .none → t.worker = .none) (hl : t.loop = s.loop)
    (h : s.session.Drifts .faulted t.session) : Aside s t :=
  ⟨ho, hs, ht, hw, ⟨_, .inl rfl, h⟩, fun _ c hc => by rw [hl]; exact hc⟩

/-- The session is left alone. -/
theorem drifts_same : ∃ out, (out = .faulted ∨ out = .disconnected) ∧
    s.session.Drifts out s.session := ⟨_, .inl rfl, .inl rfl⟩

/-- A step of one loop, which is not inert or becomes so. -/
theorem Aside.of_loop {c : ServerLoop} {p : Loop} (ho : t.owner = s.owner)
    (hs : t.stopped = s.stopped) (ht : t.transport.stopRequested = s.transport.stopRequested)
    (hw : s.worker = .none → t.worker = .none) (hl : t.loop = (s.setLoop c p).loop)
    (h : ∃ out, (out = .faulted ∨ out = .disconnected) ∧ s.session.Drifts out t.session)
    (hp : s.transport.stopRequested = true → (s.loop c).inert = true → p.inert = true) :
    Aside s t := by
  refine ⟨ho, hs, ht, hw, h, fun hstop d hd => ?_⟩
  rw [hl, setLoop]
  by_cases hc : d = c
  · subst hc
    simpa using hp hstop hd
  · simpa [hc] using hd

theorem aside_worker {a : WorkerLabel} (h : s.workerNext inputTimeout a = some t) : Aside s t := by
  have hnone : ∀ {p : Worker}, s.worker = p → p ≠ .none → s.worker = .none → t.worker = .none :=
    fun hp hne hw => absurd (hp.symm.trans hw) hne
  cases a with
  | createThread =>
    simp only [workerNext] at h
    split at h
    · rename_i hw
      obtain rfl := Option.some.inj h
      exact .of_loop rfl rfl rfl (hnone hw (by decide)) rfl drifts_same fun _ _ => rfl
    · rename_i hw
      obtain rfl := Option.some.inj h
      exact .of_loop rfl rfl rfl (hnone hw (by decide)) rfl drifts_same fun _ _ => rfl
    · cases h
  | transportStartFailed neutralOk =>
    simp only [workerNext, Option.ite_none_right_eq_some, Option.map_eq_some_iff] at h
    obtain ⟨hw, core, hn, rfl⟩ := h
    refine .of_session rfl rfl rfl (hnone hw (by decide)) rfl ?_
    have hcore := core_of_abandon hn
    simp only [session, hcore]
    exact s.session.drifts_transportStartFailed neutralOk
  | watchdog b =>
    simp only [workerNext, Option.ite_none_right_eq_some, Option.map_eq_some_iff] at h
    obtain ⟨⟨hw, hown⟩, core, hn, rfl⟩ := h
    exact .of_session rfl rfl rfl (hnone hw (by decide)) rfl (drifts_of_watchdog hown hn)
  | startServer | setCallbacks | setError | sockets | connect | testStop | close =>
    simp only [workerNext, Option.ite_none_right_eq_some, Option.some.injEq] at h
    obtain ⟨hw, rfl⟩ := h
    exact .of_session rfl rfl rfl (hnone hw (by decide)) rfl (.inl rfl)

theorem aside_loop {c : ServerLoop} {a : LoopLabel} (h : s.loopNext inputTimeout c a = some t) :
    Aside s t := by
  cases a with
  | test =>
    simp only [loopNext, Option.ite_none_right_eq_some, Option.some.injEq] at h
    obtain ⟨_, rfl⟩ := h
    refine .of_loop rfl rfl rfl id rfl drifts_same fun hstop _ => ?_
    simp [hstop, Loop.inert]
  | exchange =>
    simp only [loopNext] at h
    split at h
    · rename_i why hc
      split at h
      · obtain rfl := Option.some.inj h
        exact .of_loop rfl rfl rfl id rfl drifts_same fun _ _ => rfl
      · obtain rfl := Option.some.inj h
        refine .of_loop rfl rfl rfl id rfl drifts_same fun _ hi => ?_
        rw [hc] at hi
        cases hi
    · cases h
  | disconnect =>
    simp only [loopNext] at h
    split at h
    · rename_i why hc
      obtain rfl := Option.some.inj h
      refine .of_loop rfl rfl rfl id rfl drifts_same fun _ hi => ?_
      rw [hc] at hi
      cases hi
    · cases h
  | testStop =>
    simp only [loopNext, Option.ite_none_right_eq_some, Option.some.injEq] at h
    obtain ⟨_, rfl⟩ := h
    refine .of_loop rfl rfl rfl id rfl drifts_same fun hstop _ => ?_
    simp [hstop, Loop.inert]
  | callback neutralOk =>
    simp only [loopNext, Option.ite_none_right_eq_some, Option.some.injEq] at h
    obtain ⟨hc, rfl⟩ := h
    refine .of_loop rfl rfl rfl id rfl
      ⟨_, .inr rfl, s.session.drifts_onTransportDisconnected neutralOk⟩ fun _ hi => ?_
    rw [hc] at hi
    cases hi
  | notify =>
    simp only [loopNext, Option.ite_none_right_eq_some, Option.some.injEq] at h
    obtain ⟨_, rfl⟩ := h
    exact .of_loop rfl rfl rfl id rfl drifts_same fun _ _ => rfl

theorem aside_inputRound (hc : s.loop .input = .round) (r : RecvResult) :
    Aside s (s.inputRound r) := by
  have hp : ∀ p : Loop, s.transport.stopRequested = true → (s.loop .input).inert = true →
      p.inert = true := by
    intro p _ hi
    rw [hc] at hi
    cases hi
  cases r with
  | error code =>
    simp only [inputRound]
    split
    · exact .of_loop rfl rfl rfl id rfl drifts_same (hp _)
    · split
      · exact .of_loop rfl rfl rfl id rfl drifts_same (hp _)
      · exact .of_loop rfl rfl rfl id rfl drifts_same (hp _)
  | received source bytes =>
    refine .of_loop (c := .input) rfl rfl ?_ id rfl drifts_same (hp _)
    simp only [inputRound, setLoop, ServerInput.iteration]
    split
    · rfl
    · split <;> rfl

theorem aside_next {a : Label} (hown : ∀ b, a ≠ .owner b) (h : s.next inputTimeout a = some t) :
    Aside s t := by
  cases a with
  | owner b => exact absurd rfl (hown b)
  | worker b => exact aside_worker h
  | loop c b => exact aside_loop h
  | controlRound why =>
    simp only [next, Option.ite_none_right_eq_some, Option.some.injEq] at h
    obtain ⟨⟨hc, _⟩, rfl⟩ := h
    refine .of_loop rfl rfl rfl id rfl drifts_same fun _ hi => ?_
    rw [hc] at hi
    cases hi
  | inputRound r =>
    simp only [next, Option.ite_none_right_eq_some, Option.some.injEq] at h
    obtain ⟨hc, rfl⟩ := h
    exact aside_inputRound hc r
  | onState submitOk neutralOk =>
    simp only [next] at h
    split at h
    · rename_i frame hc
      obtain rfl := Option.some.inj h
      exact .of_loop rfl rfl rfl id rfl
        ⟨_, .inl rfl, s.session.drifts_onState frame submitOk neutralOk s.core.now⟩ fun _ _ => rfl
    · cases h
  | onRumble command =>
    simp only [next, Option.ite_none_right_eq_some, Option.some.injEq] at h
    obtain ⟨_, rfl⟩ := h
    exact .of_session rfl rfl rfl id rfl (s.session.drifts_onRumble command)
  | tick d =>
    obtain rfl := Option.some.inj h
    exact .of_session rfl rfl rfl id rfl (.inl rfl)

/-! ### Where the owner is -/

/-- `Stop()` has asked the transport to stop. -/
structure Stopping (s : ServerLife) : Prop where
  state : s.session.state = .stopped
  stopRequested : s.transport.stopRequested = true

/-- Nothing is left but loops that have done nothing yet, and will not. -/
structure Over (s : ServerLife) : Prop extends Stopping s where
  owner : s.owner = .idle
  inert : ∀ c, (s.loop c).inert = true
  worker : s.worker = .none
  destroyed : s.session.virtual.created = false

/-- What holds where the owner is. -/
def Shape (s : ServerLife) : Prop :=
  match s.owner with
  | .idle => s.session.state = .stopped → s.Over
  | .create | .startFailed | .startRunning => s.session.state = .created
  | .createWorker => s.session.state ≠ .stopped
  | .notify | .stopTransport => s.session.state = .stopped
  | .sendStop | .closeSockets | .joinLoop .control => s.Stopping
  | .joinLoop .input => s.Stopping ∧ (s.loop .control).inert = true
  | .joinWorker => s.Stopping ∧ ∀ c, (s.loop c).inert = true
  | .destroy => s.Stopping ∧ (∀ c, (s.loop c).inert = true) ∧ s.worker = .none

structure Inv (s : ServerLife) : Prop where
  shape : s.Shape
  released : s.session.state ≠ .running → s.session.currentState = {}
  returned : s.stopped = true → s.owner = .idle ∧ s.session.state = .stopped

theorem Inv.over (h : Inv s) (hs : s.stopped = true) : s.Over := by
  obtain ⟨ho, hstate⟩ := h.returned hs
  have hshape := h.shape
  rw [Shape, ho] at hshape
  exact hshape hstate

theorem inv_init (inputTimeout now : Nat) : Inv (system inputTimeout now).init := by
  refine ⟨fun hs => ?_, fun _ => rfl, fun hs => ?_⟩ <;> cases hs

theorem Aside.eq_of_not_running (h : Aside s t) (hs : s.session.state ≠ .running) :
    t.session = s.session := by
  obtain ⟨out, _, hd⟩ := h.session
  exact hd.eq_of_not_running hs

theorem Aside.not_stopped (h : Aside s t) (hs : s.session.state ≠ .stopped) :
    t.session.state ≠ .stopped := by
  obtain ⟨out, hout, hd⟩ := h.session
  rcases hd.state_eq with he | he
  · rw [he]
    exact hs
  · rw [he]
    rcases hout with rfl | rfl <;> decide

theorem Aside.stopping (h : Aside s t) (hs : s.Stopping) :
    t.Stopping ∧ t.session = s.session := by
  have hsame := h.eq_of_not_running (by rw [hs.state]; decide)
  exact ⟨⟨by rw [hsame]; exact hs.state, h.stopRequested.trans hs.stopRequested⟩, hsame⟩

theorem Aside.over (h : Aside s t) (hs : s.Over) : t.Over ∧ t.session = s.session := by
  obtain ⟨hstopping, hsame⟩ := h.stopping hs.toStopping
  exact ⟨⟨hstopping, h.owner.trans hs.owner, fun c => h.inert hs.stopRequested c (hs.inert c),
    h.worker hs.worker, by rw [hsame]; exact hs.destroyed⟩, hsame⟩

theorem Aside.shape (h : Aside s t) (hs : s.Shape) : t.Shape := by
  have hstopped : s.session.state = .stopped → t.session.state = .stopped := by
    intro he
    rw [h.eq_of_not_running (by rw [he]; decide)]
    exact he
  rw [Shape] at hs ⊢
  rw [h.owner]
  cases ho : s.owner with
  | idle =>
    rw [ho] at hs
    intro he
    refine (h.over (hs ?_)).1
    by_contra hn
    exact h.not_stopped hn he
  | create | startFailed | startRunning =>
    rw [ho] at hs
    exact (h.eq_of_not_running (by rw [hs]; decide)) ▸ hs
  | createWorker =>
    rw [ho] at hs
    exact h.not_stopped hs
  | notify | stopTransport =>
    rw [ho] at hs
    exact hstopped hs
  | sendStop | closeSockets =>
    rw [ho] at hs
    exact (h.stopping hs).1
  | joinLoop c =>
    rw [ho] at hs
    cases c with
    | control => exact (h.stopping hs).1
    | input => exact ⟨(h.stopping hs.1).1, h.inert hs.1.stopRequested _ hs.2⟩
  | joinWorker =>
    rw [ho] at hs
    exact ⟨(h.stopping hs.1).1, fun c => h.inert hs.1.stopRequested c (hs.2 c)⟩
  | destroy =>
    rw [ho] at hs
    exact ⟨(h.stopping hs.1).1, fun c => h.inert hs.1.stopRequested c (hs.2.1 c), h.worker hs.2.2⟩

theorem Inv.aside (hi : Inv s) (h : Aside s t) : Inv t where
  shape := h.shape hi.shape
  released := by
    obtain ⟨out, _, hd⟩ := h.session
    exact hd.released hi.released
  returned ht := by
    obtain ⟨ho, hstate⟩ := hi.returned (h.stopped.symm.trans ht)
    refine ⟨h.owner.trans ho, ?_⟩
    rw [h.eq_of_not_running (by rw [hstate]; decide)]
    exact hstate

/-! ### The owner -/

/-- The section of `Stop()`, when it does not return at once. -/
theorem released_stopLocked {session : LanControllerServer}
    (hs : session.state ≠ .running → session.currentState = {})
    (hne : session.state ≠ .stopped) (neutralOk : Bool) :
    (session.stopLocked neutralOk).state = .stopped ∧
      (session.stopLocked neutralOk).currentState = {} := by
  rw [LanControllerServer.stopLocked, if_neg hne]
  by_cases hr : session.state = .running
  · simp [hr, LanControllerServer.neutralizeLocked]
  · simp [hr, hs hr]

/-- `Start()` is under way, and `Stop()` has not been called. -/
theorem Inv.running (h : Inv s) (ho : s.owner ≠ .idle) : s.stopped = false := by
  by_contra hs
  exact ho (h.returned (by simpa using hs)).1

/-- A step of `Start()` or `Stop()` that leaves the session as released as it was. -/
theorem Inv.move (h : Inv s) (ho : s.owner ≠ .idle) (ht : t.stopped = s.stopped)
    (hshape : t.Shape) (hr : t.session.state ≠ .running → t.session.currentState = {}) : Inv t :=
  ⟨hshape, hr, fun hs => absurd ((h.running ho).symm.trans (ht.symm.trans hs)) (by decide)⟩

theorem Inv.startChecks (h : Inv s) (ho : s.owner = .idle) :
    Inv { s with owner := if s.session.mayStart then .create else .idle } := by
  have hshape := h.shape
  rw [Shape, ho] at hshape
  by_cases hm : s.session.mayStart = true
  · simp only [hm, if_true]
    have hcreated : s.session.state = .created := by
      simpa [LanControllerServer.mayStart] using hm
    refine ⟨hcreated, h.released, fun hs => ?_⟩
    have hstate := (h.returned hs).2
    rw [hcreated] at hstate
    cases hstate
  · simp only [hm, Bool.false_eq_true, if_false]
    refine ⟨fun hs => ?_, h.released, fun hs => ⟨rfl, (h.returned hs).2⟩⟩
    have hover := hshape hs
    exact ⟨⟨hover.state, hover.stopRequested⟩, rfl, hover.inert, hover.worker, hover.destroyed⟩

/-- `Stop()` returns at once from a session that is stopped. -/
theorem Inv.stopAgain (h : Inv s) (ho : s.owner = .idle) (hs : s.session.state = .stopped) :
    Inv { s with stopped := true } := by
  have hshape := h.shape
  rw [Shape, ho] at hshape
  have hover := hshape hs
  refine ⟨?_, h.released, fun _ => ⟨ho, hs⟩⟩
  rw [Shape, ho]
  exact fun _ =>
    ⟨⟨hover.state, hover.stopRequested⟩, rfl, hover.inert, hover.worker, hover.destroyed⟩

theorem Inv.stopBegins (h : Inv s) (hs : s.session.state ≠ .stopped) (neutralOk : Bool) :
    Inv { s.locked inputTimeout (.stop neutralOk) with owner := .notify } := by
  obtain ⟨hstate, hneutral⟩ := released_stopLocked h.released hs neutralOk
  exact ⟨hstate, fun _ => hneutral, fun ht => absurd (h.returned ht).2 hs⟩

/-- A loop that was not created yet, or has ended, is joined. -/
theorem Inv.joinLoop (h : Inv s) {c : ServerLoop}
    (hn : s.ownerNext inputTimeout (.joinLoop c) = some t) : Inv t := by
  simp only [ServerLife.ownerNext, Option.ite_none_right_eq_some, Option.some.injEq] at hn
  obtain ⟨⟨ho, hc⟩, rfl⟩ := hn
  have hshape := h.shape
  rw [Shape, ho] at hshape
  have hinert : (s.loop c).inert = true := by
    rcases hc with hc | hc <;> rw [hc] <;> rfl
  refine h.move (by simp [ho]) rfl ?_ h.released
  rw [Shape]
  cases c with
  | control => exact ⟨⟨hshape.state, hshape.stopRequested⟩, hinert⟩
  | input =>
    refine ⟨⟨hshape.1.state, hshape.1.stopRequested⟩, fun c => ?_⟩
    cases c with
    | control => exact hshape.2
    | input => exact hinert

/-- The step is one of `Start()`. -/
def OwnerLabel.ofStart : OwnerLabel → Bool
  | .startChecks | .create _ | .startFailed | .startRunning | .createWorker => true
  | _ => false

theorem Inv.startNext {a : OwnerLabel} (h : Inv s) (ha : a.ofStart = true)
    (hn : s.ownerNext inputTimeout a = some t) : Inv t := by
  have hshape := h.shape
  rw [Shape] at hshape
  cases a with
  | startChecks =>
    simp only [ServerLife.ownerNext, Option.ite_none_right_eq_some, Option.some.injEq] at hn
    obtain ⟨ho, rfl⟩ := hn
    exact h.startChecks ho
  | create ok =>
    simp only [ServerLife.ownerNext, Option.ite_none_right_eq_some, Option.some.injEq] at hn
    obtain ⟨ho, rfl⟩ := hn
    rw [ho] at hshape
    refine h.move (by rw [ho]; decide) rfl ?_ h.released
    rw [Shape]
    cases (s.session.virtual.create ok).2 <;> exact hshape
  | startFailed =>
    simp only [ServerLife.ownerNext, Option.ite_none_right_eq_some, Option.some.injEq] at hn
    obtain ⟨ho, rfl⟩ := hn
    rw [ho] at hshape
    exact h.move (by rw [ho]; decide) rfl (fun hs => by cases hs)
      fun _ => h.released (by rw [hshape]; decide)
  | startRunning =>
    simp only [ServerLife.ownerNext, Option.ite_none_right_eq_some, Option.some.injEq] at hn
    obtain ⟨ho, rfl⟩ := hn
    refine h.move (by rw [ho]; decide) rfl ?_ fun hs => absurd rfl hs
    show SessionState.running ≠ .stopped
    decide
  | createWorker =>
    simp only [ServerLife.ownerNext, Option.ite_none_right_eq_some, Option.some.injEq] at hn
    obtain ⟨ho, rfl⟩ := hn
    rw [ho] at hshape
    exact h.move (by rw [ho]; decide) rfl (fun hs => absurd hs hshape) h.released
  | _ => cases ha

theorem Inv.ownerNext {a : OwnerLabel} (h : Inv s) (hn : s.ownerNext inputTimeout a = some t) :
    Inv t := by
  have hshape := h.shape
  rw [Shape] at hshape
  cases a with
  | startChecks | create | startFailed | startRunning | createWorker => exact h.startNext rfl hn
  | stop neutralOk =>
    simp only [ServerLife.ownerNext, Option.ite_none_right_eq_some] at hn
    obtain ⟨ho, hn⟩ := hn
    split at hn
    · obtain rfl := Option.some.inj hn
      exact h.stopAgain ho ‹_›
    · obtain rfl := Option.some.inj hn
      exact h.stopBegins ‹_› neutralOk
  | notify | sendStop =>
    simp only [ServerLife.ownerNext, Option.ite_none_right_eq_some, Option.some.injEq] at hn
    obtain ⟨ho, rfl⟩ := hn
    rw [ho] at hshape
    refine h.move (by rw [ho]; decide) rfl ?_ h.released
    first | exact hshape | exact ⟨hshape.state, hshape.stopRequested⟩
  | stopTransport =>
    simp only [ServerLife.ownerNext, Option.ite_none_right_eq_some, Option.some.injEq] at hn
    obtain ⟨ho, rfl⟩ := hn
    rw [ho] at hshape
    refine h.move (by rw [ho]; decide) rfl ?_ h.released
    rw [Shape]
    cases s.transport.stopRequested <;> exact ⟨hshape, rfl⟩
  | closeSockets =>
    simp only [ServerLife.ownerNext, Option.ite_none_right_eq_some, Option.some.injEq] at hn
    obtain ⟨ho, rfl⟩ := hn
    rw [ho] at hshape
    exact h.move (by rw [ho]; decide) rfl ⟨hshape.state, hshape.stopRequested⟩ h.released
  | joinLoop c => exact h.joinLoop hn
  | joinWorker =>
    simp only [ServerLife.ownerNext, Option.ite_none_right_eq_some, Option.some.injEq] at hn
    obtain ⟨⟨ho, _⟩, rfl⟩ := hn
    rw [ho] at hshape
    exact h.move (by rw [ho]; decide) rfl
      ⟨⟨hshape.1.state, hshape.1.stopRequested⟩, hshape.2, rfl⟩ h.released
  | destroy =>
    simp only [ServerLife.ownerNext, Option.ite_none_right_eq_some, Option.some.injEq] at hn
    obtain ⟨ho, rfl⟩ := hn
    rw [ho] at hshape
    refine ⟨fun _ => ?_, h.released, fun _ => ⟨rfl, hshape.1.state⟩⟩
    exact ⟨⟨hshape.1.state, hshape.1.stopRequested⟩, rfl, hshape.2.1, hshape.2.2, rfl⟩

/-! ### Runs -/

theorem Inv.next {a : Label} (h : Inv s) (hn : s.next inputTimeout a = some t) : Inv t := by
  by_cases hown : ∃ b, a = .owner b
  · obtain ⟨b, rfl⟩ := hown
    exact h.ownerNext hn
  · exact h.aside (aside_next (fun b hb => hown ⟨b, hb⟩) hn)

theorem inv_of_run {now : Nat} {l : List Label} (h : (system inputTimeout now).Run l s) : Inv s :=
  h.invariant (P := fun _ s => Inv s) (inv_init inputTimeout now)
    fun _ _ _ _ _ hi hn => hi.next hn

/-- After a `Stop()`, `Start()` and another `Stop()` return at once. -/
theorem Over.ownerNext {a : OwnerLabel} (h : s.Over) (hn : s.ownerNext inputTimeout a = some t) :
    t.Over ∧ t.session = s.session := by
  cases a with
  | startChecks =>
    have hm : s.session.mayStart = false := by simp [LanControllerServer.mayStart, h.state]
    simp only [ServerLife.ownerNext, h.owner, hm, if_true, Option.some.injEq] at hn
    subst hn
    exact ⟨⟨⟨h.state, h.stopRequested⟩, rfl, h.inert, h.worker, h.destroyed⟩, rfl⟩
  | stop neutralOk =>
    simp only [ServerLife.ownerNext, h.owner, h.state, if_true, Option.some.injEq] at hn
    subst hn
    exact ⟨⟨⟨h.state, h.stopRequested⟩, rfl, h.inert, h.worker, h.destroyed⟩, rfl⟩
  | create | startFailed | startRunning | createWorker | notify | stopTransport | sendStop
  | closeSockets | joinLoop | joinWorker | destroy =>
    simp [ServerLife.ownerNext, h.owner] at hn

theorem Over.next {a : Label} (h : s.Over) (hn : s.next inputTimeout a = some t) :
    t.Over ∧ t.session = s.session := by
  by_cases hown : ∃ b, a = .owner b
  · obtain ⟨b, rfl⟩ := hown
    exact h.ownerNext hn
  · exact (aside_next (fun b hb => hown ⟨b, hb⟩) hn).over h

theorem Over.path {now : Nat} {k : List Label} (h : s.Over)
    (hp : (system inputTimeout now).Path s k t) : t.Over ∧ t.session = s.session := by
  induction hp with
  | refl => exact ⟨h, rfl⟩
  | snoc _ hn ih =>
    obtain ⟨hover, hsame⟩ := ih.1.next hn
    exact ⟨hover, hsame.trans ih.2⟩

/-- A thread of the transport is in a callback, or will be. -/
def calls (s : ServerLife) : Bool := !(s.loop .control).inert || !(s.loop .input).inert

theorem Over.calls (h : s.Over) : s.calls = false := by
  simp [ServerLife.calls, h.inert]

end ServerLife

/-- **What `Stop()` leaves behind**, in every order of the owner's calls and of the steps of
the worker, the two loops, the watchdog and the driver: when it has returned, then and ever
after the worker has ended, no loop is in a callback or will be, the target is destroyed and
the output released, and the session does not change any more. -/
theorem server_ends {inputTimeout now : Nat} {l : List ServerLife.Label} {s : ServerLife}
    (h : (ServerLife.system inputTimeout now).Run l s) :
    (s.session.state ≠ .running → s.session.currentState = {}) ∧
    (s.stopped = true → ∀ k t, (ServerLife.system inputTimeout now).Path s k t →
      t.session = s.session ∧ t.session.state = .stopped ∧ t.session.currentState = {} ∧
        t.session.virtual.created = false ∧ t.worker = .none ∧ t.calls = false) := by
  have hinv := ServerLife.inv_of_run h
  refine ⟨hinv.released, fun hs k t hp => ?_⟩
  obtain ⟨hover, hsame⟩ := (hinv.over hs).path hp
  refine ⟨hsame, hover.state, ?_, hover.destroyed, hover.worker, hover.calls⟩
  rw [hsame]
  exact hinv.released (by rw [(hinv.returned hs).2]; decide)

/-- `Stop()` looks for the two loops before `StartServer` has created them, and the worker
is joined when it has: both loops are left at their first test. -/
def ServerLife.stopBetween : List ServerLife.Label :=
  [.owner .startChecks, .owner (.create true), .owner .startRunning, .owner .createWorker,
    .worker .startServer, .worker .setCallbacks, .worker (.sockets true), .worker (.connect 7 9),
    .worker .testStop, .owner (.stop true), .owner .notify, .owner .stopTransport,
    .owner .sendStop, .owner .closeSockets, .owner (.joinLoop .control), .owner (.joinLoop .input),
    .worker .createThread, .worker .createThread, .worker (.watchdog .enter),
    .owner .joinWorker, .owner .destroy]

theorem server_ends_between :
    ∃ s, (ServerLife.system 100 0).Run ServerLife.stopBetween s ∧ s.stopped = true ∧
      s.loop .control = .top ∧ s.loop .input = .top ∧
      ∀ k t, (ServerLife.system 100 0).Path s k t → t.session = s.session ∧ t.calls = false := by
  have hend : ((ServerLife.system 100 0).exec (ServerLife.system 100 0).init
      ServerLife.stopBetween).map (fun s => (s.stopped, s.loop .control, s.loop .input)) =
        some (true, .top, .top) := by decide +kernel
  obtain ⟨s, hs, he⟩ := Option.map_eq_some_iff.mp hend
  simp only [Prod.mk.injEq] at he
  have hrun := System.run_of_exec hs
  refine ⟨s, hrun, he.1, he.2.1, he.2.2, fun k t hp => ?_⟩
  obtain ⟨hsame, _, _, _, _, hcalls⟩ := (server_ends hrun).2 he.1 k t hp
  exact ⟨hsame, hcalls⟩

end RemoteController
