import RemoteController.LanServer.Life

/-!
# A lost connection does not go unnoticed

The control loop and the input loop of a server may both find the connection lost, at the
same time as `Stop()` is called.  The first of them to call `SignalDisconnected` tells the
session, once, and its reason is the one shown.  As long as a started session is running,
the connection is up and both loops serve it, or the session is about to be told.

* `Born`: which threads there are, while the worker starts the transport.
* `Tells`: what holds of a loop that gives the connection up, and of the one that won.
* `lost_connection_noticed`: the result, over every run.
-/

namespace RemoteController

open Lib Protocol

namespace ServerLife

open LanControllerServer (monitor)

variable {inputTimeout : Nat} {s t : ServerLife} {c : ServerLoop} {p : Loop} {why : Reason}

/-! ### Which threads there are -/

/-- No loop has been created. -/
def Worker.early : Worker → Bool
  | .none | .watch | .create .input => false
  | _ => true

/-- `StartServerSockets` has set `connected_`, and `StartServer` has not returned. -/
def Worker.connected : Worker → Bool
  | .testStop | .create _ => true
  | _ => false

/-- Which threads there are, and what a stop leaves. -/
structure Born (s : ServerLife) : Prop where
  unborn : s.session.state = .created ∨ s.owner = .createWorker →
    s.worker = .none ∧ ∀ c, s.loop c = .none
  begun : s.owner = .createWorker → s.session.state ≠ .created
  early : s.worker.early = true → ∀ c, s.loop c = .none
  half : s.worker = .create .input → s.loop .input = .none ∧ s.loop .control ≠ .none
  up : s.worker = .watch → s.session.state = .running → ∀ c, s.loop c ≠ .none
  live : s.session.state = .running → s.session.stopRequested = false
  stopRequested : s.transport.stopRequested = true → s.session.state = .stopped

/-- A step that changes neither the worker nor which loops there are. -/
theorem Born.keep (h : Born s) (howner : t.owner = .createWorker → s.owner = .createWorker)
    (hw : t.worker = s.worker) (hl : ∀ c, t.loop c = .none ↔ s.loop c = .none)
    (hstate : t.session.state = s.session.state ∨
      t.session.state ≠ .created ∧ t.session.state ≠ .running)
    (hlive : t.session.state = .running → t.session.stopRequested = s.session.stopRequested)
    (hstop : t.transport.stopRequested = true → t.session.state = .stopped) : Born t := by
  have hcreated : t.session.state = .created → s.session.state = .created := by
    intro he
    rcases hstate with hs | ⟨hs, _⟩
    · exact hs ▸ he
    · exact absurd he hs
  have hrunning : t.session.state = .running → s.session.state = .running := by
    intro he
    rcases hstate with hs | ⟨_, hs⟩
    · exact hs ▸ he
    · exact absurd he hs
  refine ⟨fun hu => ?_, fun ho hc => h.begun (howner ho) (hcreated hc), fun he c => ?_,
    fun he => ?_, fun he hr c => ?_, fun hr => ?_, hstop⟩
  · obtain ⟨hn, hloop⟩ := h.unborn (hu.imp hcreated howner)
    exact ⟨hw.trans hn, fun c => (hl c).mpr (hloop c)⟩
  · rw [hw] at he
    exact (hl c).mpr (h.early he c)
  · obtain ⟨hi, hc⟩ := h.half (hw.symm.trans he)
    exact ⟨(hl _).mpr hi, fun hn => hc ((hl _).mp hn)⟩
  · exact fun hn => h.up (hw.symm.trans he) (hrunning hr) c ((hl c).mp hn)
  · rw [hlive hr]
    exact h.live (hrunning hr)

theorem Born.drift (h : Born s) {out : SessionState} (hout : out = .faulted ∨ out = .disconnected)
    (hd : s.session.Drifts out t.session) (howner : t.owner = s.owner) (hw : t.worker = s.worker)
    (hl : ∀ c, t.loop c = .none ↔ s.loop c = .none)
    (hstop : t.transport.stopRequested = s.transport.stopRequested) : Born t := by
  refine h.keep (fun ho => howner ▸ ho) hw hl ?_ (fun _ => hd.stopRequested) fun hs => ?_
  · refine hd.state_eq.imp_right fun he => ?_
    rw [he]
    rcases hout with rfl | rfl <;> decide
  · have hstopped := h.stopRequested (hstop.symm.trans hs)
    rw [hd.eq_of_not_running (by rw [hstopped]; decide)]
    exact hstopped

/-- A step of the worker before it creates a loop. -/
theorem Born.worker (h : Born s) (hearly : s.worker.early = true) (hl : t.loop = s.loop)
    (hw : t.worker.early = true) (howner : t.owner = s.owner) (hsession : t.session = s.session)
    (hstop : t.transport.stopRequested = s.transport.stopRequested) : Born t := by
  have hne : ∀ {q : Worker}, q.early = false → t.worker ≠ q := by
    rintro q hq rfl
    rw [hq] at hw
    cases hw
  have hunborn : ¬ (s.session.state = .created ∨ s.owner = .createWorker) := by
    intro hu
    rw [(h.unborn hu).1] at hearly
    cases hearly
  refine ⟨fun hu => ?_, ?_, fun _ => ?_, fun he => absurd he (hne rfl),
    fun he => absurd he (hne rfl), ?_, ?_⟩
  · rw [howner, hsession] at hu
    exact absurd hu hunborn
  · rw [howner, hsession]
    exact h.begun
  · rw [hl]
    exact h.early hearly
  · rw [hsession]
    exact h.live
  · rw [hstop, hsession]
    exact h.stopRequested

/-- The steps of a loop neither create one nor bring one to nothing. -/
theorem loop_none_iff (hl : t.loop = (s.setLoop c p).loop) (hc : s.loop c ≠ .none)
    (hp : p ≠ .none) (d : ServerLoop) : t.loop d = .none ↔ s.loop d = .none := by
  rw [hl, setLoop]
  by_cases hd : d = c
  · subst hd
    simp [hc, hp]
  · simp [hd]

theorem Born.workerNext {a : WorkerLabel} (h : Born s)
    (hn : s.workerNext inputTimeout a = some t) : Born t := by
  cases a with
  | createThread =>
    simp only [ServerLife.workerNext] at hn
    split at hn
    · rename_i hw
      obtain rfl := Option.some.inj hn
      have hnone := h.early (by rw [hw]; rfl)
      refine ⟨fun hu => ?_, h.begun, fun he => (by cases he), fun _ => ?_, fun he => (by cases he),
        h.live, h.stopRequested⟩
      · have hno := (h.unborn hu).1
        rw [hw] at hno
        cases hno
      · exact ⟨hnone .input, by simp [setLoop]⟩
    · rename_i hw
      obtain rfl := Option.some.inj hn
      obtain ⟨_, hcontrol⟩ := h.half hw
      refine ⟨fun hu => ?_, h.begun, fun he => (by cases he), fun he => (by cases he),
        fun _ _ c => ?_, h.live, h.stopRequested⟩
      · have hno := (h.unborn hu).1
        rw [hw] at hno
        cases hno
      · cases c with
        | control => exact hcontrol
        | input => simp [setLoop]
    · cases hn
  | transportStartFailed neutralOk =>
    simp only [ServerLife.workerNext, Option.ite_none_right_eq_some, Option.map_eq_some_iff] at hn
    obtain ⟨hw, core, hcore, rfl⟩ := hn
    replace hcore := core_of_abandon hcore
    have hd := s.session.drifts_transportStartFailed neutralOk
    rw [← hcore] at hd
    have hleft : core.core.state ≠ .running := by
      intro hr
      have hrunning : s.session.state = .running := by
        by_contra hne
        rw [hd.eq_of_not_running hne] at hr
        exact hne hr
      rw [hcore, LanControllerServer.transportStartFailed, if_pos
        (by simp [hrunning, h.live hrunning])] at hr
      cases hr
    have hunborn : ¬ (s.session.state = .created ∨ s.owner = .createWorker) := by
      intro hu
      have hno := (h.unborn hu).1
      rw [hw] at hno
      cases hno
    refine ⟨fun hu => absurd (hu.imp_left fun he => ?_) hunborn,
      fun ho => absurd (.inr ho) hunborn, fun he => (by cases he), fun he => (by cases he),
      fun _ hr => absurd hr hleft, fun hr => absurd hr hleft, fun hs => ?_⟩
    · rcases hd.state_eq with heq | heq
      · exact heq ▸ he
      · rw [heq] at he
        cases he
    · have hstopped := h.stopRequested hs
      have hsame := hd.eq_of_not_running (by rw [hstopped]; decide)
      exact (congrArg LanControllerServer.state hsame).trans hstopped
  | watchdog b =>
    simp only [ServerLife.workerNext, Option.ite_none_right_eq_some, Option.map_eq_some_iff] at hn
    obtain ⟨⟨_, hown⟩, core, hcore, rfl⟩ := hn
    exact h.drift (.inl rfl) (drifts_of_watchdog hown hcore) rfl rfl (fun _ => Iff.rfl) rfl
  | startServer | sockets | testStop =>
    simp only [ServerLife.workerNext, Option.ite_none_right_eq_some, Option.some.injEq] at hn
    obtain ⟨hw, rfl⟩ := hn
    refine h.worker (by rw [hw]; rfl) rfl ?_ rfl rfl rfl
    dsimp only
    split <;> rfl
  | setCallbacks | connect | close =>
    simp only [ServerLife.workerNext, Option.ite_none_right_eq_some, Option.some.injEq] at hn
    obtain ⟨hw, rfl⟩ := hn
    exact h.worker (by rw [hw]; rfl) rfl rfl rfl rfl rfl
  | setError error message =>
    simp only [ServerLife.workerNext, Option.ite_none_right_eq_some, Option.some.injEq] at hn
    obtain ⟨hw, rfl⟩ := hn
    have hearly : s.worker.early = true := by rw [hw]; rfl
    exact h.worker hearly rfl hearly rfl rfl rfl

theorem Born.startNext {a : OwnerLabel} (h : Born s) (hi : Inv s) (ha : a.ofStart = true)
    (hn : s.ownerNext inputTimeout a = some t) : Born t := by
  have hshape := hi.shape
  rw [Shape] at hshape
  cases a with
  | startChecks =>
    simp only [ServerLife.ownerNext, Option.ite_none_right_eq_some, Option.some.injEq] at hn
    obtain ⟨_, rfl⟩ := hn
    refine h.keep (fun ho => ?_) rfl (fun _ => Iff.rfl) (.inl rfl) (fun _ => rfl) h.stopRequested
    dsimp only at ho
    split at ho <;> cases ho
  | create ok =>
    simp only [ServerLife.ownerNext, Option.ite_none_right_eq_some, Option.some.injEq] at hn
    obtain ⟨_, rfl⟩ := hn
    refine h.keep (fun ho => ?_) rfl (fun _ => Iff.rfl) (.inl rfl) (fun _ => rfl) h.stopRequested
    dsimp only at ho
    split at ho <;> cases ho
  | startFailed =>
    simp only [ServerLife.ownerNext, Option.ite_none_right_eq_some, Option.some.injEq] at hn
    obtain ⟨ho, rfl⟩ := hn
    rw [ho] at hshape
    refine h.keep (fun ho => (by cases ho)) rfl (fun _ => Iff.rfl) (.inr ?_) (fun _ => rfl)
      fun hs => ?_
    · exact ⟨by simp [setSession, LanControllerServer.startFailed],
        by simp [setSession, LanControllerServer.startFailed]⟩
    · have hstopped := h.stopRequested hs
      rw [hshape] at hstopped
      cases hstopped
  | startRunning =>
    simp only [ServerLife.ownerNext, Option.ite_none_right_eq_some, Option.some.injEq] at hn
    obtain ⟨ho, rfl⟩ := hn
    rw [ho] at hshape
    obtain ⟨hw, hloop⟩ := h.unborn (.inl hshape)
    refine ⟨fun _ => ⟨hw, hloop⟩, fun _ hc => (by cases hc), fun _ => hloop, fun he => ?_,
      fun he => ?_, fun _ => rfl, fun hs => ?_⟩
    · cases hw.symm.trans he
    · cases hw.symm.trans he
    · have hstopped := h.stopRequested hs
      rw [hshape] at hstopped
      cases hstopped
  | createWorker =>
    simp only [ServerLife.ownerNext, Option.ite_none_right_eq_some, Option.some.injEq] at hn
    obtain ⟨ho, rfl⟩ := hn
    obtain ⟨_, hloop⟩ := h.unborn (.inr ho)
    refine ⟨fun hu => ?_, fun he => (by cases he), fun _ => hloop, fun he => (by cases he),
      fun he => (by cases he), h.live, h.stopRequested⟩
    rcases hu with hc | hc
    · exact absurd hc (h.begun ho)
    · cases hc
  | _ => cases ha

theorem Born.ownerNext {a : OwnerLabel} (h : Born s) (hi : Inv s)
    (hn : s.ownerNext inputTimeout a = some t) : Born t := by
  have hshape := hi.shape
  rw [Shape] at hshape
  cases a with
  | startChecks | create | startFailed | startRunning | createWorker =>
    exact h.startNext hi rfl hn
  | stop neutralOk =>
    simp only [ServerLife.ownerNext, Option.ite_none_right_eq_some] at hn
    obtain ⟨ho, hn⟩ := hn
    split at hn
    · obtain rfl := Option.some.inj hn
      exact h.keep (fun ho => ho) rfl (fun _ => Iff.rfl) (.inl rfl) (fun _ => rfl) h.stopRequested
    · rename_i hs
      obtain rfl := Option.some.inj hn
      obtain ⟨hstate, _⟩ := released_stopLocked hi.released hs neutralOk
      have hstopped : (s.locked inputTimeout (.stop neutralOk)).session.state = .stopped := hstate
      refine h.keep (fun ho => (by cases ho)) rfl (fun _ => Iff.rfl) (.inr ?_) (fun hr => ?_)
        fun _ => hstopped
      · exact ⟨by rw [hstopped]; decide, by rw [hstopped]; decide⟩
      · rw [hstopped] at hr
        cases hr
  | notify | sendStop | closeSockets =>
    simp only [ServerLife.ownerNext, Option.ite_none_right_eq_some, Option.some.injEq] at hn
    obtain ⟨_, rfl⟩ := hn
    exact h.keep (fun ho => (by cases ho)) rfl (fun _ => Iff.rfl) (.inl rfl) (fun _ => rfl)
      h.stopRequested
  | stopTransport =>
    simp only [ServerLife.ownerNext, Option.ite_none_right_eq_some, Option.some.injEq] at hn
    obtain ⟨ho, rfl⟩ := hn
    rw [ho] at hshape
    refine h.keep (fun ho => ?_) rfl (fun _ => Iff.rfl) (.inl rfl) (fun _ => rfl) fun _ => hshape
    dsimp only at ho
    split at ho <;> cases ho
  | joinLoop c =>
    simp only [ServerLife.ownerNext, Option.ite_none_right_eq_some, Option.some.injEq] at hn
    obtain ⟨_, rfl⟩ := hn
    refine h.keep (fun ho => ?_) rfl (fun _ => Iff.rfl) (.inl rfl) (fun _ => rfl) h.stopRequested
    cases c <;> cases ho
  | joinWorker =>
    simp only [ServerLife.ownerNext, Option.ite_none_right_eq_some, Option.some.injEq] at hn
    obtain ⟨⟨ho, _⟩, rfl⟩ := hn
    rw [ho] at hshape
    have hstopped := hshape.1.state
    refine ⟨fun hu => ?_, fun he => (by cases he), fun he => (by cases he), fun he => (by cases he),
      fun he => (by cases he), h.live, h.stopRequested⟩
    rcases hu with hc | hc
    · cases hstopped.symm.trans hc
    · cases hc
  | destroy =>
    simp only [ServerLife.ownerNext, Option.ite_none_right_eq_some, Option.some.injEq] at hn
    obtain ⟨_, rfl⟩ := hn
    exact h.keep (fun ho => (by cases ho)) rfl (fun _ => Iff.rfl) (.inl rfl) (fun _ => rfl)
      h.stopRequested

/-! ### What a loop does -/

/-- Between the exchange and the end of the callback's section. -/
def Loop.telling : Loop → Bool
  | .disconnect _ | .testStop | .callback => true
  | _ => false

/-- The fields that only `SignalDisconnected` changes once there are loops. -/
structure SameLink (s t : ServerLife) : Prop where
  worker : t.worker = s.worker
  signaled : t.signaled = s.signaled
  told : t.told = s.told
  disconnectedSignaled : t.transport.disconnectedSignaled = s.transport.disconnectedSignaled
  connected : t.transport.connected = s.transport.connected
  lastError : t.transport.lastError = s.transport.lastError
  error : t.transport.error = s.transport.error

/-- Why a loop is left without a word. -/
def MayLeave (s : ServerLife) (c : ServerLoop) : Prop :=
  s.transport.stopRequested = true ∨ s.transport.connected = false ∨
    s.transport.disconnectedSignaled = true ∨ s.loop c = .notify

/-- **What a step of a loop, of the driver or of the clock does.** -/
inductive Moves (inputTimeout : Nat) (s : ServerLife) : ServerLife → Prop
  | same (t : ServerLife) : t.loop = s.loop → SameLink s t → s.session.Drifts .faulted t.session →
      Moves inputTimeout s t
  | quiet (c : ServerLoop) (p : Loop) (t : ServerLife) : t.loop = (s.setLoop c p).loop →
      s.loop c ≠ .none → (s.loop c).telling = false → (p = .left → s.MayLeave c) → p ≠ .none →
      p ≠ .notify → p.telling = false → SameLink s t → s.session.Drifts .faulted t.session →
      Moves inputTimeout s t
  | wins (c : ServerLoop) (why : Reason) : s.loop c = .exchange why →
      s.transport.disconnectedSignaled = false →
      Moves inputTimeout s { s.setLoop c (.disconnect why) with
        transport := { s.transport with disconnectedSignaled := true }
        signaled := some (c, why) }
  | disconnects (c : ServerLoop) (why : Reason) : s.loop c = .disconnect why →
      Moves inputTimeout s
        { s.setLoop c .testStop with transport := s.transport.disconnect why }
  | tests (c : ServerLoop) : s.loop c = .testStop →
      Moves inputTimeout s
        (s.setLoop c (if s.transport.stopRequested then .left else .callback))
  | tells (c : ServerLoop) (neutralOk : Bool) : s.loop c = .callback →
      Moves inputTimeout s
        { (s.locked inputTimeout (.onTransportDisconnected neutralOk)).setLoop c
            (if s.session.state = .running then .notify else .left) with told := s.told + 1 }

theorem sameLink_setLoop (s : ServerLife) (c : ServerLoop) (p : Loop) :
    SameLink s (s.setLoop c p) := ⟨rfl, rfl, rfl, rfl, rfl, rfl, rfl⟩

theorem moves_loop {a : LoopLabel} (h : s.loopNext inputTimeout c a = some t) :
    Moves inputTimeout s t := by
  cases a with
  | test =>
    simp only [loopNext, Option.ite_none_right_eq_some, Option.some.injEq] at h
    obtain ⟨hc, rfl⟩ := h
    by_cases hw : (!s.transport.stopRequested && s.transport.connected) = true
    · rw [if_pos hw]
      exact .quiet c .round _ rfl (by simp [hc]) (by simp [hc, Loop.telling])
        (fun he => by cases he) (by simp) (by simp) rfl (sameLink_setLoop _ _ _) (.inl rfl)
    · rw [if_neg hw]
      refine .quiet c .left _ rfl (by simp [hc]) (by simp [hc, Loop.telling]) (fun _ => ?_)
        (by simp) (by simp) rfl (sameLink_setLoop _ _ _) (.inl rfl)
      rw [MayLeave]
      cases hs : s.transport.stopRequested
      · simp [hs] at hw
        exact .inr (.inl hw)
      · exact .inl rfl
  | exchange =>
    simp only [loopNext] at h
    split at h
    · rename_i why hc
      split at h
      · rename_i hs
        obtain rfl := Option.some.inj h
        exact .quiet c .left _ rfl (by simp [hc]) (by simp [hc, Loop.telling])
          (fun _ => .inr (.inr (.inl hs))) (by simp) (by simp) rfl (sameLink_setLoop _ _ _)
          (.inl rfl)
      · rename_i hs
        obtain rfl := Option.some.inj h
        exact .wins c why hc (by simpa using hs)
    · cases h
  | disconnect =>
    simp only [loopNext] at h
    split at h
    · rename_i why hc
      obtain rfl := Option.some.inj h
      exact .disconnects c why hc
    · cases h
  | testStop =>
    simp only [loopNext, Option.ite_none_right_eq_some, Option.some.injEq] at h
    obtain ⟨hc, rfl⟩ := h
    exact .tests c hc
  | callback neutralOk =>
    simp only [loopNext, Option.ite_none_right_eq_some, Option.some.injEq] at h
    obtain ⟨hc, rfl⟩ := h
    exact .tells c neutralOk hc
  | notify =>
    simp only [loopNext, Option.ite_none_right_eq_some, Option.some.injEq] at h
    obtain ⟨hc, rfl⟩ := h
    exact .quiet c .left _ rfl (by simp [hc]) (by simp [hc, Loop.telling])
      (fun _ => .inr (.inr (.inr hc))) (by simp) (by simp) rfl ⟨rfl, rfl, rfl, rfl, rfl, rfl, rfl⟩
      (.inl rfl)

theorem moves_inputRound (hc : s.loop .input = .round) (r : RecvResult) :
    Moves inputTimeout s (s.inputRound r) := by
  have hround : s.loop .input ≠ .none ∧ (s.loop .input).telling = false := by
    rw [hc]
    exact ⟨by decide, rfl⟩
  cases r with
  | error code =>
    simp only [inputRound]
    split
    · exact .quiet .input .top _ rfl hround.1 hround.2 (fun he => by cases he) (by simp) (by simp)
        rfl (sameLink_setLoop _ _ _) (.inl rfl)
    · split
      · exact .quiet .input .left _ rfl hround.1 hround.2 (fun _ => .inl ‹_›) (by simp) (by simp)
          rfl (sameLink_setLoop _ _ _) (.inl rfl)
      · exact .quiet .input (.exchange (.inputFailed code)) _ rfl hround.1 hround.2
          (fun he => by cases he) (by simp) (by simp) rfl (sameLink_setLoop _ _ _) (.inl rfl)
  | received source bytes =>
    have hlink : SameLink s (s.inputRound (.received source bytes)) := by
      refine ⟨rfl, rfl, rfl, ?_, ?_, ?_, ?_⟩ <;>
        (simp only [inputRound, setLoop, ServerInput.iteration]; split <;> (try split) <;> rfl)
    cases he : (s.transport.iteration (.received source bytes)).2.head? with
    | none =>
      refine .quiet .input .top _ ?_ hround.1 hround.2 (fun he => by cases he) (by simp) (by simp)
        rfl hlink (.inl rfl)
      simp only [inputRound, he]
      rfl
    | some event =>
      cases event with
      | state frame =>
        refine .quiet .input (.state frame) _ ?_ hround.1 hround.2 (fun he => by cases he) (by simp)
          (by simp) rfl hlink (.inl rfl)
        simp only [inputRound, he]
        rfl
      | disconnected =>
        refine .quiet .input .top _ ?_ hround.1 hround.2 (fun he => by cases he) (by simp)
          (by simp) rfl hlink (.inl rfl)
        simp only [inputRound, he]
        rfl

theorem moves_next {a : Label} (howner : ∀ b, a ≠ .owner b) (hworker : ∀ b, a ≠ .worker b)
    (h : s.next inputTimeout a = some t) : Moves inputTimeout s t := by
  cases a with
  | owner b => exact absurd rfl (howner b)
  | worker b => exact absurd rfl (hworker b)
  | loop c b => exact moves_loop h
  | controlRound why =>
    simp only [next, Option.ite_none_right_eq_some, Option.some.injEq] at h
    obtain ⟨⟨hc, _⟩, rfl⟩ := h
    cases why with
    | none =>
      exact .quiet .control .top _ rfl (by simp [hc]) (by simp [hc, Loop.telling])
        (fun he => by cases he) (by simp) (by simp) rfl (sameLink_setLoop _ _ _) (.inl rfl)
    | some why =>
      exact .quiet .control (.exchange why) _ rfl (by simp [hc]) (by simp [hc, Loop.telling])
        (fun he => by cases he) (by simp) (by simp) rfl (sameLink_setLoop _ _ _) (.inl rfl)
  | inputRound r =>
    simp only [next, Option.ite_none_right_eq_some, Option.some.injEq] at h
    obtain ⟨hc, rfl⟩ := h
    exact moves_inputRound hc r
  | onState submitOk neutralOk =>
    simp only [next] at h
    split at h
    · rename_i frame hc
      obtain rfl := Option.some.inj h
      exact .quiet .input .top _ rfl (by simp [hc]) (by simp [hc, Loop.telling])
        (fun he => by cases he) (by simp) (by simp) rfl ⟨rfl, rfl, rfl, rfl, rfl, rfl, rfl⟩
        (s.session.drifts_onState frame submitOk neutralOk s.core.now)
    · cases h
  | onRumble command =>
    simp only [next, Option.ite_none_right_eq_some, Option.some.injEq] at h
    obtain ⟨_, rfl⟩ := h
    exact .same _ rfl ⟨rfl, rfl, rfl, rfl, rfl, rfl, rfl⟩ (s.session.drifts_onRumble command)
  | tick d =>
    obtain rfl := Option.some.inj h
    exact .same _ rfl ⟨rfl, rfl, rfl, rfl, rfl, rfl, rfl⟩ (.inl rfl)

theorem Born.moves (h : Born s) (ha : Aside s t) (hm : Moves inputTimeout s t) : Born t := by
  obtain ⟨out, hout, hd⟩ := ha.session
  cases hm with
  | same _ hloop hlink _ =>
    exact h.drift hout hd ha.owner hlink.worker (fun c => by rw [hloop]) ha.stopRequested
  | quiet c p _ hloop hne _ _ hp _ _ hlink _ =>
    exact h.drift hout hd ha.owner hlink.worker (loop_none_iff hloop hne hp) ha.stopRequested
  | wins c why hc _ =>
    exact h.drift hout hd ha.owner rfl
      (loop_none_iff (p := .disconnect why) rfl (by simp [hc]) (by simp)) ha.stopRequested
  | disconnects c why hc =>
    exact h.drift hout hd ha.owner rfl
      (loop_none_iff (p := .testStop) rfl (by simp [hc]) (by simp)) ha.stopRequested
  | tests c hc =>
    refine h.drift hout hd ha.owner rfl (loop_none_iff rfl (by simp [hc]) ?_) ha.stopRequested
    split <;> simp
  | tells c neutralOk hc =>
    refine h.drift hout hd ha.owner rfl (loop_none_iff rfl (by simp [hc]) ?_) ha.stopRequested
    split <;> simp

/-! ### Who tells the session -/

/-- The connection is up, and no error is shown. -/
structure Clean (s : ServerLife) : Prop where
  connected : s.transport.connected = true
  lastError : s.transport.lastError = 0
  error : s.transport.error = ""

/-- The connection is down, for the reason that is shown. -/
structure Shown (s : ServerLife) (why : Reason) : Prop where
  connected : s.transport.connected = false
  lastError : s.transport.lastError = why.error
  error : s.transport.error = why.message

/-- `StartServerSockets` has set `connected_`. -/
def Up (s : ServerLife) : Prop := s.worker.connected = true ∨ ∃ c, s.loop c ≠ .none

/-- What holds where a loop is. -/
def Loop.Holds (s : ServerLife) (c : ServerLoop) : Loop → Prop
  | .disconnect why => s.signaled = some (c, why) ∧ s.told = 0
  | .testStop | .callback => (∃ why, s.signaled = some (c, why)) ∧ s.told = 0
  | .notify => (∃ why, s.signaled = some (c, why)) ∧ s.session.state ≠ .running
  | .left => s.session.state ≠ .running ∨ s.signaled.isSome = true
  | _ => True

/-- What holds of the loop that won. -/
structure Winner (s : ServerLife) (c : ServerLoop) (why : Reason) : Prop where
  shown : s.loop c = .disconnect why ∨ s.Shown why
  telling : s.session.state = .running → (s.loop c).telling = true
  exists_loop : s.loop c ≠ .none

structure Tells (s : ServerLife) : Prop where
  flag : s.transport.disconnectedSignaled = s.signaled.isSome
  loops : ∀ c, (s.loop c).Holds s c
  silent : s.signaled = none → s.told = 0
  clean : s.signaled = none → s.Up → s.session.state = .running → s.Clean
  winner : ∀ c why, s.signaled = some (c, why) → s.Winner c why
  once : s.told ≤ 1
  disconnected : s.session.state = .disconnected → s.told = 1

/-- What holds of a loop is kept, as long as nobody signals and the session does not run
again. -/
theorem Loop.Holds.mono (h : p.Holds s c) (hsig : t.signaled = s.signaled)
    (htold : t.told = s.told) (hrun : t.session.state = .running → s.session.state = .running) :
    p.Holds t c := by
  cases p with
  | none | top | round | state | exchange => trivial
  | disconnect why => exact ⟨hsig.trans h.1, htold.trans h.2⟩
  | testStop | callback => exact ⟨by rw [hsig]; exact h.1, htold.trans h.2⟩
  | notify => exact ⟨by rw [hsig]; exact h.1, fun hr => h.2 (hrun hr)⟩
  | left => exact h.imp (fun hs hr => hs (hrun hr)) fun hs => by rw [hsig]; exact hs

/-- A loop that is not telling has told, or has not won. -/
theorem Tells.told_of_quiet (h : Tells s) (hc : (s.loop c).telling = false)
    (hs : s.signaled = some (c, why)) : s.Shown why ∧ s.session.state ≠ .running := by
  have hw := h.winner c why hs
  constructor
  · refine hw.shown.resolve_left fun he => ?_
    rw [he] at hc
    cases hc
  · intro hr
    rw [hw.telling hr] at hc
    cases hc

theorem no_loop (hnone : ∀ c, s.loop c = .none) : ¬ ∃ c, s.loop c ≠ .none := by
  rintro ⟨c, hc⟩
  exact hc (hnone c)

theorem Tells.signaled_of_none (h : Tells s) (hnone : ∀ c, s.loop c = .none) :
    s.signaled = none := by
  by_contra hs
  obtain ⟨⟨c, why⟩, hs⟩ := Option.ne_none_iff_exists'.mp hs
  exact (h.winner c why hs).exists_loop (hnone c)

/-- **A step that leaves the loops and the signal alone.**  While there is no loop, the
transport's fields are free. -/
theorem Tells.keep (h : Tells s) (hl : t.loop = s.loop) (hsig : t.signaled = s.signaled)
    (htold : t.told = s.told)
    (hflag : t.transport.disconnectedSignaled = s.transport.disconnectedSignaled)
    (hrun : (∃ c, s.loop c ≠ .none) → t.session.state = .running → s.session.state = .running)
    (hclean : s.signaled = none → t.Up → t.session.state = .running → t.Clean)
    (hshown : (∃ c, s.loop c ≠ .none) → ∀ why, s.Shown why → t.Shown why)
    (hdis : t.session.state = .disconnected → s.session.state = .disconnected) : Tells t := by
  refine ⟨?_, fun c => ?_, fun hs => ?_, fun hs => ?_, fun c why hs => ?_, ?_, fun hs => ?_⟩
  · rw [hflag, hsig]
    exact h.flag
  · rw [hl]
    by_cases hc : s.loop c = .none
    · rw [hc]
      trivial
    · exact (h.loops c).mono hsig htold (hrun ⟨c, hc⟩)
  · rw [htold]
    exact h.silent (hsig ▸ hs)
  · exact hclean (hsig ▸ hs)
  · have hw := h.winner c why (hsig ▸ hs)
    refine ⟨?_, fun hr => ?_, ?_⟩
    · rw [hl]
      exact hw.shown.imp_right (hshown ⟨c, hw.exists_loop⟩ why)
    · rw [hl]
      exact hw.telling (hrun ⟨c, hw.exists_loop⟩ hr)
    · rw [hl]
      exact hw.exists_loop
  · rw [htold]
    exact h.once
  · rw [htold]
    exact h.disconnected (hdis hs)

/-- **A step of one loop that does not signal.** -/
theorem Tells.move (h : Tells s) (hl : t.loop = (s.setLoop c p).loop)
    (hsig : t.signaled = s.signaled) (htold : t.told = s.told)
    (hflag : t.transport.disconnectedSignaled = s.transport.disconnectedSignaled)
    (hrun : t.session.state = .running → s.session.state = .running) (hup : s.Up)
    (hclean : s.signaled = none → s.Clean → t.Clean)
    (hshown : ∀ d why, d ≠ c → s.signaled = some (d, why) → s.Shown why → t.Shown why)
    (hdis : t.session.state = .disconnected → s.session.state = .disconnected)
    (hp : p.Holds t c) (hne : p ≠ .none)
    (hwin : ∀ why, s.signaled = some (c, why) →
      (p = .disconnect why ∨ t.Shown why) ∧ (t.session.state = .running → p.telling = true)) :
    Tells t := by
  have hself : t.loop c = p := by rw [hl]; simp [setLoop]
  have hother : ∀ d, d ≠ c → t.loop d = s.loop d := fun d hd => by rw [hl]; simp [setLoop, hd]
  refine ⟨?_, fun d => ?_, fun hs => ?_, fun hs _ hr => ?_, fun d why hs => ?_, ?_, fun hs => ?_⟩
  · rw [hflag, hsig]
    exact h.flag
  · by_cases hd : d = c
    · rw [hd, hself]
      exact hp
    · rw [hother d hd]
      exact (h.loops d).mono hsig htold hrun
  · rw [htold]
    exact h.silent (hsig ▸ hs)
  · exact hclean (hsig ▸ hs) (h.clean (hsig ▸ hs) hup (hrun hr))
  · rw [hsig] at hs
    by_cases hd : d = c
    · subst hd
      obtain ⟨hshows, htells⟩ := hwin why hs
      exact ⟨by rw [hself]; exact hshows, by rw [hself]; exact htells, by rw [hself]; exact hne⟩
    · have hw := h.winner d why hs
      refine ⟨?_, fun hr => ?_, ?_⟩
      · rw [hother d hd]
        exact hw.shown.imp_right (hshown d why hd hs)
      · rw [hother d hd]
        exact hw.telling (hrun hr)
      · rw [hother d hd]
        exact hw.exists_loop
  · rw [htold]
    exact h.once
  · rw [htold]
    exact h.disconnected (hdis hs)

theorem SameLink.clean (h : SameLink s t) (hs : s.Clean) : t.Clean :=
  ⟨h.connected.trans hs.connected, h.lastError.trans hs.lastError, h.error.trans hs.error⟩

theorem SameLink.shown (h : SameLink s t) (hs : s.Shown why) : t.Shown why :=
  ⟨h.connected.trans hs.connected, h.lastError.trans hs.lastError, h.error.trans hs.error⟩

/-- Of two loops only one wins. -/
theorem Loop.Holds.ne_telling {d : ServerLoop} (h : p.Holds s d) (hd : d ≠ c)
    (hs : s.signaled = some (c, why)) : p.telling = false ∧ p ≠ .notify := by
  have hno : ∀ {other : Reason}, s.signaled ≠ some (d, other) := by
    intro other ho
    rw [hs] at ho
    exact hd (congrArg Prod.fst (Option.some.inj ho)).symm
  cases p with
  | none | top | round | state | exchange | left => exact ⟨rfl, by simp⟩
  | disconnect => exact absurd h.1 hno
  | testStop | callback =>
    obtain ⟨other, ho⟩ := h.1
    exact absurd ho hno
  | notify =>
    obtain ⟨other, ho⟩ := h.1
    exact absurd ho hno

/-- A loop that neither tells nor notifies does not ask who signalled, once somebody did. -/
theorem Loop.Holds.of_signaled (ht : p.telling = false) (hn : p ≠ .notify)
    (hs : s.signaled = some (c, why)) (d : ServerLoop) : p.Holds s d := by
  cases p with
  | none | top | round | state | exchange => trivial
  | disconnect | testStop | callback => cases ht
  | notify => exact absurd rfl hn
  | left => exact .inr (by rw [hs]; rfl)

/-- The test of the `while` and the ends of `SignalDisconnected`. -/
theorem Tells.may_leave (h : Tells s) (hb : Born s) (hne : s.loop c ≠ .none)
    (hleave : s.MayLeave c) : s.session.state ≠ .running ∨ s.signaled.isSome = true := by
  rcases hleave with hs | hs | hs | hs
  · exact .inl (by rw [hb.stopRequested hs]; decide)
  · by_cases hsig : s.signaled = none
    · refine .inl fun hr => ?_
      rw [(h.clean hsig (.inr ⟨c, hne⟩) hr).connected] at hs
      cases hs
    · exact .inr (Option.isSome_iff_ne_none.mpr hsig)
  · exact .inr (h.flag.symm.trans hs)
  · have hnotify := h.loops c
    rw [hs] at hnotify
    exact .inl hnotify.2

theorem Tells.quiet (h : Tells s) (hb : Born s) (hl : t.loop = (s.setLoop c p).loop)
    (hne : s.loop c ≠ .none) (hc : (s.loop c).telling = false) (hleave : p = .left → s.MayLeave c)
    (hp : p ≠ .none) (hn : p ≠ .notify) (ht : p.telling = false) (hlink : SameLink s t)
    (hd : s.session.Drifts .faulted t.session) : Tells t := by
  have hrun : t.session.state = .running → s.session.state = .running := by
    intro hr
    rcases hd.state_eq with he | he
    · exact he.symm.trans hr
    · cases he.symm.trans hr
  refine h.move hl hlink.signaled hlink.told hlink.disconnectedSignaled hrun (.inr ⟨c, hne⟩)
    (fun _ => hlink.clean) (fun _ _ _ _ => hlink.shown) (fun hs => ?_) ?_ hp fun why hs => ?_
  · rcases hd.state_eq with he | he
    · exact he.symm.trans hs
    · cases he.symm.trans hs
  · cases p with
    | none => exact absurd rfl hp
    | top | round | state | exchange => trivial
    | disconnect | testStop | callback => cases ht
    | notify => exact absurd rfl hn
    | left =>
      refine (h.may_leave hb hne (hleave rfl)).imp (fun hs hr => hs (hrun hr)) fun hs => ?_
      rw [hlink.signaled]
      exact hs
  · obtain ⟨hshown, hleft⟩ := h.told_of_quiet hc hs
    exact ⟨.inr (hlink.shown hshown), fun hr => absurd (hrun hr) hleft⟩

theorem Tells.wins (h : Tells s) (hc : s.loop c = .exchange why)
    (hs : s.transport.disconnectedSignaled = false) :
    Tells { s.setLoop c (.disconnect why) with
      transport := { s.transport with disconnectedSignaled := true }
      signaled := some (c, why) } := by
  have hnone : s.signaled = none := by
    have hflag := h.flag.symm.trans hs
    simpa using hflag
  have htold := h.silent hnone
  refine ⟨rfl, fun d => ?_, fun he => (by cases he), fun he => (by cases he), fun d other he => ?_,
    h.once, fun hd => ?_⟩
  · by_cases hd : d = c
    · subst hd
      simp [setLoop, Loop.Holds, htold]
    · have hholds := h.loops d
      have hquiet : (s.loop d).telling = false ∧ s.loop d ≠ .notify := by
        cases hloop : s.loop d with
        | none | top | round | state | exchange | left => exact ⟨rfl, by simp⟩
        | disconnect =>
          rw [hloop] at hholds
          cases hnone.symm.trans hholds.1
        | testStop | callback | notify =>
          rw [hloop] at hholds
          obtain ⟨other, ho⟩ := hholds.1
          cases hnone.symm.trans ho
      simp only [setLoop, if_neg hd]
      exact .of_signaled hquiet.1 hquiet.2 rfl d
  · obtain ⟨rfl, rfl⟩ := Prod.mk.injEq .. ▸ Option.some.inj he
    exact ⟨.inl (by simp [setLoop]), fun _ => by simp [setLoop, Loop.telling], by simp [setLoop]⟩
  · have hone := h.disconnected hd
    rw [htold] at hone
    cases hone

theorem Tells.tells (h : Tells s) {neutralOk : Bool} (hc : s.loop c = .callback) :
    Tells { (s.locked inputTimeout (.onTransportDisconnected neutralOk)).setLoop c
        (if s.session.state = .running then .notify else .left) with told := s.told + 1 } := by
  obtain ⟨⟨why, hsig⟩, htold⟩ : (∃ why, s.signaled = some (c, why)) ∧ s.told = 0 := by
    have hholds := h.loops c
    rw [hc] at hholds
    exact hholds
  have hwinner := h.winner c why hsig
  have hshown : s.Shown why := hwinner.shown.resolve_left (by simp [hc])
  have hleft : (s.session.onTransportDisconnected neutralOk).state ≠ .running := by
    rw [LanControllerServer.onTransportDisconnected]
    split
    · assumption
    · simp [LanControllerServer.neutralizeLocked]
  refine ⟨h.flag, fun d => ?_, fun he => ?_, fun he => ?_, fun d other he => ?_, ?_, fun _ => ?_⟩
  · by_cases hd : d = c
    · subst hd
      simp only [setLoop, if_true]
      split
      · exact ⟨⟨why, hsig⟩, hleft⟩
      · exact .inl hleft
    · obtain ⟨hquiet, hnotify⟩ := (h.loops d).ne_telling hd hsig
      have hsame : ∀ u : ServerLife, u.signaled = s.signaled → (s.loop d).Holds u d :=
        fun u hu => .of_signaled hquiet hnotify (hu.trans hsig) d
      simp only [setLoop, if_neg hd]
      exact hsame _ rfl
  · cases hsig.symm.trans he
  · cases hsig.symm.trans he
  · obtain ⟨rfl, rfl⟩ := Prod.mk.injEq .. ▸ Option.some.inj (hsig.symm.trans he)
    refine ⟨.inr ⟨hshown.connected, hshown.lastError, hshown.error⟩, fun hr => absurd hr hleft, ?_⟩
    simp only [setLoop, if_true]
    split <;> simp
  · simp [htold]
  · simp [htold]

theorem Tells.moves (h : Tells s) (hb : Born s) (hm : Moves inputTimeout s t) : Tells t := by
  cases hm with
  | same _ hloop hlink hd =>
    have hstate := hd.state_eq
    refine h.keep hloop hlink.signaled hlink.told hlink.disconnectedSignaled (fun _ hr => ?_)
      (fun hs hup hr => ?_) (fun _ _ => hlink.shown) fun hs => ?_
    · rcases hstate with he | he
      · exact he.symm.trans hr
      · cases he.symm.trans hr
    · refine hlink.clean (h.clean hs ?_ ?_)
      · rwa [Up, hlink.worker, hloop] at hup
      · rcases hstate with he | he
        · exact he.symm.trans hr
        · cases he.symm.trans hr
    · rcases hstate with he | he
      · exact he.symm.trans hs
      · cases he.symm.trans hs
  | quiet c p _ hloop hne hc hleave hp hn ht hlink hd =>
    exact h.quiet hb hloop hne hc hleave hp hn ht hlink hd
  | wins c why hc hs => exact h.wins hc hs
  | disconnects c why hc =>
    obtain ⟨hsig, htold⟩ : s.signaled = some (c, why) ∧ s.told = 0 := by
      have hholds := h.loops c
      rw [hc] at hholds
      exact hholds
    refine h.move rfl rfl rfl rfl id (.inr ⟨c, by simp [hc]⟩) (fun hs => ?_)
      (fun d other hd hs => ?_) id ⟨⟨why, hsig⟩, htold⟩ (by simp) fun other hs => ?_
    · cases hsig.symm.trans hs
    · exact absurd (congrArg Prod.fst (Option.some.inj (hsig.symm.trans hs))).symm hd
    · obtain ⟨_, rfl⟩ := Prod.mk.injEq .. ▸ Option.some.inj (hsig.symm.trans hs)
      exact ⟨.inr ⟨rfl, rfl, rfl⟩, fun _ => rfl⟩
  | tests c hc =>
    have hholds := h.loops c
    rw [hc] at hholds
    by_cases hs : s.transport.stopRequested = true
    · have hleft : s.session.state ≠ .running := by rw [hb.stopRequested hs]; decide
      have hlink := sameLink_setLoop s c .left
      rw [if_pos hs]
      refine h.move rfl rfl rfl rfl id (.inr ⟨c, by simp [hc]⟩) (fun _ => hlink.clean)
        (fun _ _ _ _ => hlink.shown) id (.inl hleft) (by simp) fun why hsig => ?_
      exact ⟨(h.winner c why hsig).shown.imp (by simp [hc]) hlink.shown, fun hr => absurd hr hleft⟩
    · have hlink := sameLink_setLoop s c .callback
      rw [if_neg hs]
      refine h.move rfl rfl rfl rfl id (.inr ⟨c, by simp [hc]⟩) (fun _ => hlink.clean)
        (fun _ _ _ _ => hlink.shown) id hholds (by simp) fun why hsig => ?_
      exact ⟨(h.winner c why hsig).shown.imp (by simp [hc]) hlink.shown, fun _ => rfl⟩
  | tells c neutralOk hc => exact h.tells hc

/-! ### The owner and the worker -/

theorem Tells.ownerNext {a : OwnerLabel} (h : Tells s) (hb : Born s) (hi : Inv s)
    (hn : s.ownerNext inputTimeout a = some t) : Tells t := by
  have hshape := hi.shape
  rw [Shape] at hshape
  have hsame : t.worker = s.worker → t.loop = s.loop → t.signaled = s.signaled →
      t.told = s.told → t.session.state = s.session.state →
      t.transport.connected = s.transport.connected →
      t.transport.lastError = s.transport.lastError → t.transport.error = s.transport.error →
      t.transport.disconnectedSignaled = s.transport.disconnectedSignaled → Tells t := by
    intro hw hl hsig htold hstate hconnected hlast herror hflag
    have hlink : SameLink s t := ⟨hw, hsig, htold, hflag, hconnected, hlast, herror⟩
    refine h.keep hl hsig htold hflag (fun _ hr => hstate.symm.trans hr) (fun hs hup hr => ?_)
      (fun _ _ => hlink.shown) fun hs => hstate.symm.trans hs
    rw [Up, hw, hl] at hup
    exact hlink.clean (h.clean hs hup (hstate.symm.trans hr))
  cases a with
  | startChecks | create | notify | stopTransport | sendStop | joinLoop | destroy =>
    simp only [ServerLife.ownerNext, Option.ite_none_right_eq_some, Option.some.injEq] at hn
    obtain ⟨_, rfl⟩ := hn
    exact hsame rfl rfl rfl rfl rfl rfl rfl rfl rfl
  | startFailed =>
    simp only [ServerLife.ownerNext, Option.ite_none_right_eq_some, Option.some.injEq] at hn
    obtain ⟨_, rfl⟩ := hn
    refine h.keep rfl rfl rfl rfl (fun _ hr => ?_) (fun _ _ hr => ?_) (fun _ _ hs => ?_)
      fun hs => ?_
    · cases hr
    · cases hr
    · exact ⟨hs.connected, hs.lastError, hs.error⟩
    · cases hs
  | startRunning =>
    simp only [ServerLife.ownerNext, Option.ite_none_right_eq_some, Option.some.injEq] at hn
    obtain ⟨ho, rfl⟩ := hn
    rw [ho] at hshape
    obtain ⟨hw, hnone⟩ := hb.unborn (.inl hshape)
    refine h.keep rfl rfl rfl rfl (fun he => absurd he (no_loop hnone)) (fun _ hup _ => ?_)
      (fun he => absurd he (no_loop hnone)) fun hs => ?_
    · rcases hup with hup | ⟨c, hc⟩
      · replace hup : s.worker.connected = true := hup
        rw [hw] at hup
        cases hup
      · exact absurd (hnone c) hc
    · cases hs
  | createWorker =>
    simp only [ServerLife.ownerNext, Option.ite_none_right_eq_some, Option.some.injEq] at hn
    obtain ⟨ho, rfl⟩ := hn
    obtain ⟨_, hnone⟩ := hb.unborn (.inr ho)
    refine h.keep rfl rfl rfl rfl (fun he => absurd he (no_loop hnone)) (fun _ hup _ => ?_)
      (fun he => absurd he (no_loop hnone)) fun hs => hs
    rcases hup with hup | ⟨c, hc⟩
    · cases hup
    · exact absurd (hnone c) hc
  | stop neutralOk =>
    simp only [ServerLife.ownerNext, Option.ite_none_right_eq_some] at hn
    obtain ⟨_, hn⟩ := hn
    split at hn
    · obtain rfl := Option.some.inj hn
      exact hsame rfl rfl rfl rfl rfl rfl rfl rfl rfl
    · rename_i hs
      obtain rfl := Option.some.inj hn
      obtain ⟨hstate, _⟩ := released_stopLocked hi.released hs neutralOk
      have hstopped : (s.locked inputTimeout (.stop neutralOk)).session.state = .stopped := hstate
      refine h.keep rfl rfl rfl rfl (fun _ hr => ?_) (fun _ _ hr => ?_) (fun _ _ hs => ?_)
        fun hs => ?_
      · cases hstopped.symm.trans hr
      · cases hstopped.symm.trans hr
      · exact ⟨hs.connected, hs.lastError, hs.error⟩
      · cases hstopped.symm.trans hs
  | closeSockets =>
    simp only [ServerLife.ownerNext, Option.ite_none_right_eq_some, Option.some.injEq] at hn
    obtain ⟨ho, rfl⟩ := hn
    rw [ho] at hshape
    refine h.keep rfl rfl rfl rfl (fun _ hr => hr) (fun _ _ hr => ?_) (fun _ _ hs => ?_)
      fun hs => hs
    · cases hshape.state.symm.trans hr
    · exact ⟨rfl, hs.lastError, hs.error⟩
  | joinWorker =>
    simp only [ServerLife.ownerNext, Option.ite_none_right_eq_some, Option.some.injEq] at hn
    obtain ⟨⟨ho, _⟩, rfl⟩ := hn
    rw [ho] at hshape
    refine h.keep rfl rfl rfl rfl (fun _ hr => hr) (fun _ _ hr => ?_) (fun _ _ hs => ?_)
      fun hs => hs
    · cases hshape.1.state.symm.trans hr
    · exact ⟨hs.connected, hs.lastError, hs.error⟩

/-- A step of the worker before it creates a loop. -/
theorem Tells.early (h : Tells s) (hnone : ∀ c, s.loop c = .none) (hl : t.loop = s.loop)
    (hsig : t.signaled = s.signaled) (htold : t.told = s.told)
    (hflag : t.transport.disconnectedSignaled = s.transport.disconnectedSignaled)
    (hsession : t.session = s.session)
    (hclean : t.worker.connected = true → t.session.state = .running → t.Clean) : Tells t := by
  refine h.keep hl hsig htold hflag (fun he => absurd he (no_loop hnone)) (fun _ hup => ?_)
    (fun he => absurd he (no_loop hnone)) fun hs => hsession ▸ hs
  rcases hup with hup | ⟨c, hc⟩
  · exact hclean hup
  · rw [hl] at hc
    exact absurd (hnone c) hc

theorem Tells.workerNext {a : WorkerLabel} (h : Tells s) (hb : Born s)
    (hn : s.workerNext inputTimeout a = some t) : Tells t := by
  cases a with
  | createThread =>
    simp only [ServerLife.workerNext] at hn
    split at hn
    · rename_i hw
      obtain rfl := Option.some.inj hn
      have hsig := h.signaled_of_none (hb.early (by rw [hw]; rfl))
      refine h.move (p := .top) rfl rfl rfl rfl id (.inl (by rw [hw]; rfl)) (fun _ hs => ?_)
        (fun _ _ _ he => ?_) id trivial (by simp) fun why he => ?_
      · exact ⟨hs.connected, hs.lastError, hs.error⟩
      · cases hsig.symm.trans he
      · cases hsig.symm.trans he
    · rename_i hw
      obtain rfl := Option.some.inj hn
      refine h.move (p := .top) rfl rfl rfl rfl id (.inl (by rw [hw]; rfl)) (fun _ hs => ?_)
        (fun _ _ _ _ hs => ?_) id trivial (by simp) fun why he => ?_
      · exact ⟨hs.connected, hs.lastError, hs.error⟩
      · exact ⟨hs.connected, hs.lastError, hs.error⟩
      · exact absurd (hb.half hw).1 (h.winner .input why he).exists_loop
    · cases hn
  | transportStartFailed neutralOk =>
    simp only [ServerLife.workerNext, Option.ite_none_right_eq_some, Option.map_eq_some_iff] at hn
    obtain ⟨hw, core, hcore, rfl⟩ := hn
    have hnone := hb.early (by rw [hw]; rfl)
    replace hcore := core_of_abandon hcore
    have hstate := (s.session.drifts_transportStartFailed neutralOk).state_eq
    rw [← hcore] at hstate
    refine h.keep rfl rfl rfl rfl (fun he => absurd he (no_loop hnone)) (fun _ hup => ?_)
      (fun he => absurd he (no_loop hnone)) fun hs => ?_
    · rcases hup with hup | ⟨c, hc⟩
      · cases hup
      · exact absurd (hnone c) hc
    · rcases hstate with he | he
      · exact he.symm.trans hs
      · cases he.symm.trans hs
  | watchdog b =>
    simp only [ServerLife.workerNext, Option.ite_none_right_eq_some, Option.map_eq_some_iff] at hn
    obtain ⟨⟨_, hown⟩, core, hcore, rfl⟩ := hn
    have hm : Moves inputTimeout s { s with core := core } :=
      .same _ rfl ⟨rfl, rfl, rfl, rfl, rfl, rfl, rfl⟩ (drifts_of_watchdog hown hcore)
    exact h.moves hb hm
  | startServer | sockets =>
    simp only [ServerLife.workerNext, Option.ite_none_right_eq_some, Option.some.injEq] at hn
    obtain ⟨hw, rfl⟩ := hn
    refine h.early (hb.early (by rw [hw]; rfl)) rfl rfl rfl rfl rfl fun hc => ?_
    dsimp only at hc
    split at hc <;> cases hc
  | setCallbacks | close =>
    simp only [ServerLife.workerNext, Option.ite_none_right_eq_some, Option.some.injEq] at hn
    obtain ⟨hw, rfl⟩ := hn
    exact h.early (hb.early (by rw [hw]; rfl)) rfl rfl rfl rfl rfl fun hc => by cases hc
  | setError error message =>
    simp only [ServerLife.workerNext, Option.ite_none_right_eq_some, Option.some.injEq] at hn
    obtain ⟨hw, rfl⟩ := hn
    refine h.early (hb.early (by rw [hw]; rfl)) rfl rfl rfl rfl rfl fun hc => ?_
    rw [hw] at hc
    cases hc
  | connect peer sessionId =>
    simp only [ServerLife.workerNext, Option.ite_none_right_eq_some, Option.some.injEq] at hn
    obtain ⟨hw, rfl⟩ := hn
    exact h.early (hb.early (by rw [hw]; rfl)) rfl rfl rfl rfl rfl fun _ _ => ⟨rfl, rfl, rfl⟩
  | testStop =>
    simp only [ServerLife.workerNext, Option.ite_none_right_eq_some, Option.some.injEq] at hn
    obtain ⟨hw, rfl⟩ := hn
    have hnone := hb.early (by rw [hw]; rfl)
    refine h.early hnone rfl rfl rfl rfl rfl fun _ hr => ?_
    have hclean := h.clean (h.signaled_of_none hnone) (.inl (by rw [hw]; rfl)) hr
    exact ⟨hclean.connected, hclean.lastError, hclean.error⟩

/-! ### Runs -/

/-- What holds in every reachable state. -/
structure Noticing (s : ServerLife) : Prop where
  inv : Inv s
  born : Born s
  tells : Tells s

theorem noticing_init (inputTimeout now : Nat) : Noticing (system inputTimeout now).init where
  inv := inv_init inputTimeout now
  born := by
    refine ⟨fun _ => ⟨rfl, fun _ => rfl⟩, fun he => ?_, fun he => ?_, fun he => ?_, fun he => ?_,
      fun he => ?_, fun he => ?_⟩ <;> cases he
  tells := by
    refine ⟨rfl, fun _ => trivial, fun _ => rfl, fun _ _ hr => ?_, fun _ _ he => ?_, Nat.zero_le 1,
      fun hs => ?_⟩
    · cases hr
    · cases he
    · cases hs

theorem Noticing.next {a : Label} (h : Noticing s) (hn : s.next inputTimeout a = some t) :
    Noticing t := by
  have hinv := h.inv.next hn
  by_cases howner : ∃ b, a = .owner b
  · obtain ⟨b, rfl⟩ := howner
    exact ⟨hinv, h.born.ownerNext h.inv hn, h.tells.ownerNext h.born h.inv hn⟩
  · by_cases hworker : ∃ b, a = .worker b
    · obtain ⟨b, rfl⟩ := hworker
      exact ⟨hinv, h.born.workerNext hn, h.tells.workerNext h.born hn⟩
    · have ha := aside_next (fun b hb => howner ⟨b, hb⟩) hn
      have hm := moves_next (fun b hb => howner ⟨b, hb⟩) (fun b hb => hworker ⟨b, hb⟩) hn
      exact ⟨hinv, h.born.moves ha hm, h.tells.moves h.born hm⟩

theorem noticing_of_run {now : Nat} {l : List Label} (h : (system inputTimeout now).Run l s) :
    Noticing s :=
  h.invariant (P := fun _ s => Noticing s) (noticing_init inputTimeout now)
    fun _ _ _ _ _ hi hn => hi.next hn

/-- The loop is at work. -/
def Loop.serves : Loop → Bool
  | .top | .round | .state _ => true
  | _ => false

/-- The loop is in `SignalDisconnected`, and has not told the session yet. -/
def Loop.givesUp : Loop → Bool
  | .exchange _ | .disconnect _ | .testStop | .callback => true
  | _ => false

theorem Noticing.served (h : Noticing s) (hr : s.session.state = .running)
    (hw : s.worker = .watch) (hno : ∀ c, (s.loop c).givesUp = false) :
    s.Clean ∧ ∀ c, (s.loop c).serves = true := by
  have hup := h.born.up hw hr
  have hsilent : s.signaled = none := by
    by_contra hs
    obtain ⟨⟨c, why⟩, hs⟩ := Option.ne_none_iff_exists'.mp hs
    have htelling := (h.tells.winner c why hs).telling hr
    have hquiet := hno c
    cases hc : s.loop c <;> simp [hc, Loop.telling, Loop.givesUp] at htelling hquiet
  refine ⟨h.tells.clean hsilent (.inr ⟨.control, hup .control⟩) hr, fun c => ?_⟩
  have hholds := h.tells.loops c
  have hquiet := hno c
  cases hc : s.loop c with
  | none => exact absurd hc (hup c)
  | top | round | state => rfl
  | exchange | disconnect | testStop | callback =>
    rw [hc] at hquiet
    cases hquiet
  | notify =>
    rw [hc] at hholds
    exact absurd hr hholds.2
  | left =>
    rw [hc] at hholds
    rcases hholds with hs | hs
    · exact absurd hr hs
    · rw [hsilent] at hs
      cases hs

theorem Tells.shown_of_disconnected (h : Tells s) (hs : s.session.state = .disconnected) :
    ∃ c why, s.signaled = some (c, why) ∧ s.Shown why := by
  have htold := h.disconnected hs
  have hsig : s.signaled ≠ none := by
    intro hnone
    rw [h.silent hnone] at htold
    cases htold
  obtain ⟨⟨c, why⟩, hsig⟩ := Option.ne_none_iff_exists'.mp hsig
  refine ⟨c, why, hsig, (h.winner c why hsig).shown.resolve_left fun hc => ?_⟩
  have hholds := h.loops c
  rw [hc] at hholds
  cases hholds.2.symm.trans htold

end ServerLife

/-- **A lost connection does not go unnoticed**, in every order of the owner's calls and of
the steps of the worker, the two loops and the driver.  As long as a started session is
running, the connection is up, shows no error and is served by both loops, or a loop is about
to tell the session; the session is told once at most; and a session that was told shows the
reason of the loop that was first. -/
theorem lost_connection_noticed {inputTimeout now : Nat} {l : List ServerLife.Label}
    {s : ServerLife} (h : (ServerLife.system inputTimeout now).Run l s) :
    (s.session.state = .running → s.worker = .watch →
      (∃ c, (s.loop c).givesUp = true) ∨ s.Clean ∧ ∀ c, (s.loop c).serves = true) ∧
    s.told ≤ 1 ∧
    (s.session.state = .disconnected →
      ∃ c why, s.signaled = some (c, why) ∧ s.Shown why) := by
  have hinv := ServerLife.noticing_of_run h
  refine ⟨fun hr hw => ?_, hinv.tells.once, hinv.tells.shown_of_disconnected⟩
  by_cases hno : ∃ c, (s.loop c).givesUp = true
  · exact .inl hno
  · exact .inr (hinv.served hr hw fun c => by simpa using not_exists.mp hno c)

/-- Both loops find the connection lost, the control loop first. -/
def ServerLife.lostTwice : List ServerLife.Label :=
  [.owner .startChecks, .owner (.create true), .owner .startRunning, .owner .createWorker,
    .worker .startServer, .worker .setCallbacks, .worker (.sockets true), .worker (.connect 7 9),
    .worker .testStop, .worker .createThread, .worker .createThread, .worker (.watchdog .enter),
    .loop .control .test, .loop .input .test, .inputRound (.error 10054),
    .controlRound (some (.controlClosed 10053)), .loop .control .exchange, .loop .input .exchange,
    .loop .control .disconnect, .loop .control .testStop, .loop .control (.callback true),
    .loop .control .notify]

theorem lost_connection_noticed_twice :
    ∃ s, (ServerLife.system 100 0).Run ServerLife.lostTwice s ∧
      s.session.state = .disconnected ∧ s.told = 1 ∧
      s.transport.error = "The TCP control channel was closed." ∧
      ∃ c why, s.signaled = some (c, why) ∧ s.Shown why := by
  have hend : ((ServerLife.system 100 0).exec (ServerLife.system 100 0).init
      ServerLife.lostTwice).map (fun s => (s.session.state, s.told, s.transport.error)) =
        some (.disconnected, 1, "The TCP control channel was closed.") := by decide +kernel
  obtain ⟨s, hs, he⟩ := Option.map_eq_some_iff.mp hend
  simp only [Prod.mk.injEq] at he
  have hrun := System.run_of_exec hs
  exact ⟨s, hrun, he.1, he.2.1, he.2.2, (lost_connection_noticed hrun).2.2 he.1⟩

end RemoteController
