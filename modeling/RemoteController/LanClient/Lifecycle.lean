import RemoteController.LanClient.Sending

/-!
# When a client is running

A client never comes back to `kRunning`, its worker is still with the transport or
the device while it is there, and the session id is set before any thread needs
it.

* `fades_step`: no step brings the session back.
* `lifecycle_run`: the phases of the worker in which the session may be running.
-/

namespace RemoteController

open Lib Protocol

theorem ClientOutput.signalDisconnected_sessionId (t : ClientOutput) (error : UInt32)
    (message : String) : (t.signalDisconnected error message).sessionId = t.sessionId := by
  rw [ClientOutput.signalDisconnected]
  split <;> rfl

theorem ClientOutput.transmit_sessionId (t : ClientOutput) (frame : StateFrame)
    (answer : SendResult) : (t.transmit frame answer).1.sessionId = t.sessionId := by
  unfold ClientOutput.transmit
  split
  · rfl
  · cases answer with
    | sent => rfl
    | error code =>
      simp only
      split
      · rfl
      · exact t.signalDisconnected_sessionId _ _

theorem Worker.not_leaving_of_starting {worker : Worker} (h : worker.starting = true) :
    worker.leaving = false ∧ worker.hasControl = false := by
  cases worker <;> first | exact ⟨rfl, rfl⟩ | cases h

namespace ClientSide

open LanControllerClient

variable {negotiated : UInt32} {s t : ClientSide} {a : ClientLabel}

@[simp] theorem setCall_core (s : ClientSide) (caller : Caller) (c : Call) :
    (s.setCall caller c).core = s.core := by
  cases caller <;> rfl

@[simp] theorem setJoin_core (s : ClientSide) (stopper : Stopper) (j : Join) :
    (s.setJoin stopper j).core = s.core := by
  cases stopper <;> rfl

@[simp] theorem endJoin_core (s : ClientSide) (stopper : Stopper) :
    (s.endJoin stopper).core = s.core := by
  cases stopper <;> rfl

/-- **No step brings the session back to `kRunning`.** -/
theorem fades_step (h : s.step negotiated a = some t) : Fades s.core t.core := by
  cases moves_of_step h with
  | fails _ _ => exact s.core.startFailed_keeps.fades
  | reports _ _ hc =>
    obtain ⟨_, _, _, rfl⟩ := running_of_onInputState hc
    exact fun hr => ⟨hr, rfl⟩
  | returns _ hk | locked hk => exact hk.fades
  | passes _ | sends _ => simpa using fades_refl s.core
  | skips _ _ | finds _ _ | joins _ _ | joined _ _ => simpa using fades_refl s.core
  | stopBegins hc =>
    intro hr
    rw [(stopped_of_stopLocked hc).2.1] at hr
    cases hr
  | stopNumbers _ => exact fun hr => ⟨hr, rfl⟩
  | _ => exact fades_refl s.core

/-! ### The phases of the worker -/

structure Lifecycle (negotiated : UInt32) (s : ClientSide) : Prop where
  requested : s.core.stopRequested = true → s.core.state ≠ .running
  leaving : s.worker.leaving = true → s.core.state ≠ .running
  session : s.worker.hasSession = true → s.transport.sessionId = negotiated
  control : s.control ≠ .none → s.worker.hasControl = true

/-- While the session runs the control thread works under its session id. -/
theorem Lifecycle.sessionId (hi : Lifecycle negotiated s) (hc : s.control ≠ .none)
    (hr : s.core.state = .running) : s.transport.sessionId = negotiated := by
  have hw := hi.control hc
  refine hi.session ?_
  cases hk : s.worker with
  | handshaken | admitted | started | checked | opened | openFailed => rfl
  | stopping | closingSockets | joiningControl | closing | ended =>
    exact absurd hr (hi.leaving (by rw [hk]; rfl))
  | connecting | socketed | published | startFailed =>
    rw [hk] at hw
    cases hw

/-- A step that leaves the worker and the session id alone. -/
theorem Lifecycle.same (hi : Lifecycle negotiated s) (hf : Fades s.core t.core)
    (hw : t.worker = s.worker) (ht : t.transport.sessionId = s.transport.sessionId)
    (hc : t.control ≠ .none → s.control ≠ .none) : Lifecycle negotiated t where
  requested := fun hs hr => hi.requested ((hf hr).2 ▸ hs) (hf hr).1
  leaving := fun ho hr => hi.leaving (hw ▸ ho) (hf hr).1
  session := fun hs => ht.trans (hi.session (hw ▸ hs))
  control := fun h => hw ▸ hi.control (hc h)

/-- A step of the worker that leaves the control thread alone. -/
theorem Lifecycle.move (hi : Lifecycle negotiated s) (hf : Fades s.core t.core)
    (ho : t.worker.leaving = true → t.core.state ≠ .running)
    (hs : t.worker.hasSession = true → t.transport.sessionId = negotiated)
    (hc : s.worker.hasControl = true → t.worker.hasControl = true) (hsame : t.control = s.control) :
    Lifecycle negotiated t where
  requested := fun hr hrun => hi.requested ((hf hrun).2 ▸ hr) (hf hrun).1
  leaving := ho
  session := hs
  control := fun h => hc (hi.control (hsame ▸ h))

/-- The worker goes on leaving. -/
theorem Lifecycle.leave (hi : Lifecycle negotiated s) (hl : s.worker.leaving = true)
    (hf : Fades s.core t.core) (hs : t.worker.hasSession = false)
    (hc : t.worker.hasControl = true) : Lifecycle negotiated t where
  requested := fun hr hrun => hi.requested ((hf hrun).2 ▸ hr) (hf hrun).1
  leaving := fun _ hr => hi.leaving hl (hf hr).1
  session := fun h => by rw [hs] at h; cases h
  control := fun _ => hc

theorem lifecycle_started (negotiated : UInt32) : Lifecycle negotiated started where
  requested := (absurd · Bool.false_ne_true)
  leaving := (absurd · Bool.false_ne_true)
  session := (absurd · Bool.false_ne_true)
  control := fun h => absurd rfl h

theorem leaving_of_join {j : Join} (h : s.join .worker = some j) : s.worker.leaving = true := by
  cases hw : s.worker <;> simp only [join, hw, Worker.join, reduceCtorEq] at h
  rfl

theorem lifecycle_join (hi : Lifecycle negotiated s) {stopper : Stopper} {j : Join}
    (hj : s.join stopper = some j) :
    (∀ j', Lifecycle negotiated (s.setJoin stopper j')) ∧
      Lifecycle negotiated (s.endJoin stopper) := by
  have hf : Fades s.core s.core := fades_refl s.core
  cases stopper with
  | worker =>
    have hl := leaving_of_join hj
    exact ⟨fun _ => hi.leave hl hf rfl rfl, hi.leave hl hf rfl rfl⟩
  | stop => exact ⟨fun _ => hi.same hf rfl rfl id, hi.same hf rfl rfl id⟩

theorem lifecycle_step (hi : Lifecycle negotiated s) (h : s.step negotiated a = some t) :
    Lifecycle negotiated t := by
  have hf : Fades s.core t.core := fades_step h
  cases moves_of_step h with
  | connects hw hw' hs =>
    refine hi.move hf (fun hl => ?_) (fun ht => ?_) (fun hc => ?_) rfl
    · rw [(Worker.not_leaving_of_starting hw').1] at hl
      cases hl
    · rcases hs ht with he | ⟨hs, he⟩
      · exact he
      · exact he.trans (hi.session hs)
    · rw [(Worker.not_leaving_of_starting hw).2] at hc
      cases hc
  | creates hw =>
    exact ⟨hi.requested, (absurd · Bool.false_ne_true), fun _ => hi.session (by rw [hw]; rfl),
      fun _ => rfl⟩
  | fails _ hw =>
    rcases hw with rfl | rfl <;>
      exact hi.move hf (fun _ => startFailed_state hi.requested) (absurd · Bool.false_ne_true)
        (fun _ => rfl) rfl
  | mayOpen hw _ | opens hw | opensNot hw =>
    exact hi.move hf (absurd · Bool.false_ne_true) (fun _ => hi.session (by rw [hw]; rfl))
      (fun _ => rfl) rfl
  | mayNot _ hm =>
    refine hi.move hf (fun _ hr => ?_) (absurd · Bool.false_ne_true) (fun _ => rfl) rfl
    rw [mayOpen, show s.core.state = .running from hr] at hm
    exact hi.requested (by simpa using hm) hr
  | stops hw | closesSockets hw | closes hw _ => exact hi.leave (by rw [hw]; rfl) hf rfl rfl
  | wakes _ hm =>
    refine hi.move hf (fun _ hr => ?_) (absurd · Bool.false_ne_true) (fun _ => rfl) rfl
    rw [mustClose, show s.core.state = .running from hr] at hm
    exact hi.requested (by simpa using hm) hr
  | @passes caller _ _ => cases caller <;> exact hi.same hf rfl rfl id
  | @sends caller frame answer _ =>
    cases caller <;> exact hi.same hf rfl (s.transport.transmit_sessionId frame answer) id
  | @signals error message =>
    exact hi.same hf rfl (s.transport.signalDisconnected_sessionId error message) id
  | controlEnds hc => exact hi.same hf rfl rfl fun _ he => by rw [hc] at he; cases he
  | finds hj _ | joins hj _ => exact (lifecycle_join hi hj).1 _
  | skips hj _ => exact (lifecycle_join hi hj).2
  | joined hj _ =>
    exact (lifecycle_join hi hj).2.same (fades_refl _) rfl rfl fun hc => absurd rfl hc
  | ignores | reports _ _ _ | returns _ _ | locked _ | crashes _ _ | stopAgain | stopBegins _
    | stopCloses _ _ _ | stopChecks _ | stopNumbers _ | stopReturns _ | stopStops _
    | stopClosesSockets _ | stopJoins _ _ => exact hi.same hf rfl rfl id

theorem lifecycle_run {l : List ClientLabel} (h : (system negotiated).Run l s) :
    Lifecycle negotiated s :=
  System.Run.invariant (P := fun _ s => Lifecycle negotiated s) (lifecycle_started negotiated)
    (fun _ _ _ _ _ hi hn => lifecycle_step hi hn) h

end ClientSide

end RemoteController
