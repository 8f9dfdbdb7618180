import RemoteController.LanClient.Sending

/-!
# Who joins the control thread

The transport's `Stop()` tests `control_thread_` and then joins it, with no lock
around the two, and both the worker and `Stop()` call it once the device has failed
to open.

* `JoinsAlone`: who finds the control thread is alone with it.
* `alone_run`: in a run whose steps meet this, no join goes wrong.
* `joinedTwice_crashes`: otherwise one may.
-/

namespace RemoteController

open Lib Protocol

theorem Stopper.eq_other {stopper other : Stopper} (h : other ≠ stopper) :
    other = stopper.other := by
  cases stopper <;> cases other <;> first | rfl | exact absurd rfl h

theorem Worker.join_of_starting {worker : Worker} (h : worker.starting = true) :
    worker.join = none := by
  cases worker <;> first | rfl | cases h

namespace ClientSide

variable {negotiated : UInt32} {s t : ClientSide} {a : ClientLabel}

/-- The caller of the transport's `Stop()` has found the control thread and not joined
it yet. -/
def InJoin (s : ClientSide) (stopper : Stopper) : Prop :=
  s.join stopper = some .found ∨ s.join stopper = some .joining

instance (s : ClientSide) (stopper : Stopper) : Decidable (s.InJoin stopper) :=
  inferInstanceAs (Decidable (_ ∨ _))

/-- Where a call of the transport's `Stop()` finds the control thread, the other caller
is not on the way to join it. -/
def JoinsAlone (s : ClientSide) : ClientLabel → Prop
  | .testsControl stopper => s.control = .none ∨ ¬ s.InJoin stopper.other
  | _ => True

instance (s : ClientSide) : ∀ a, Decidable (s.JoinsAlone a) := by
  intro a
  cases a <;> simp only [JoinsAlone] <;> infer_instance

/-- Who is on the way to join the control thread is alone with it. -/
structure Alone (s : ClientSide) : Prop where
  crashed : s.crashed = false
  control : ∀ stopper, s.InJoin stopper → s.control ≠ .none
  other : ∀ stopper, s.InJoin stopper → ¬ s.InJoin stopper.other

theorem alone_started : Alone started where
  crashed := rfl
  control := by rintro (_ | _) (h | h) <;> cases h
  other := by rintro (_ | _) (h | h) <;> cases h

/-- Nobody comes to join the control thread, and it stays as it is. -/
theorem Alone.mono (hi : Alone s) (hcrash : t.crashed = s.crashed)
    (hjoin : ∀ stopper, t.InJoin stopper → s.InJoin stopper)
    (hc : t.control = .none → s.control = .none) : Alone t where
  crashed := hcrash.trans hi.crashed
  control := fun stopper h hn => hi.control stopper (hjoin stopper h) (hc hn)
  other := fun stopper h ho => hi.other stopper (hjoin stopper h) (hjoin _ ho)

/-- The phase is not one behind the test of the control thread. -/
def Outside (j : Option Join) : Prop := j = none ∨ j = some .testing

theorem Outside.not_inJoin (stopper : Stopper) (h : Outside (s.join stopper)) :
    ¬ s.InJoin stopper := by
  rintro (hj | hj) <;> rcases h with h | h <;> (rw [hj] at h; cases h)

/-- A step of the worker that does not join, or of `Stop()`. -/
theorem Alone.same (hi : Alone s) (hcrash : t.crashed = s.crashed) (hc : t.control = s.control)
    (hw : t.worker = s.worker ∨ Outside t.worker.join)
    (hs : t.stop = s.stop ∨ Outside t.stop.join) : Alone t := by
  refine hi.mono hcrash (fun stopper h => ?_) (hc ▸ id)
  cases stopper with
  | worker =>
    rcases hw with hw | hw
    · rw [InJoin, join, hw] at h
      exact h
    · exact absurd h (Outside.not_inJoin .worker hw)
  | stop =>
    rcases hs with hs | hs
    · rw [InJoin, join, hs] at h
      exact h
    · exact absurd h (Outside.not_inJoin .stop hs)

theorem inJoin_of_setJoin {stopper other : Stopper} {j : Join}
    (h : (s.setJoin stopper j).InJoin other) : other = stopper ∨ s.InJoin other := by
  cases stopper <;> cases other <;> first | exact .inl rfl | exact .inr h

theorem inJoin_of_endJoin {stopper other : Stopper} (h : (s.endJoin stopper).InJoin other) :
    other ≠ stopper ∧ s.InJoin other := by
  cases stopper <;> cases other <;>
    first | exact ⟨by nofun, h⟩ | (rcases h with h | h <;> cases h)

/-- A caller that is alone with the control thread goes on to join it. -/
theorem Alone.setJoin (hi : Alone s) {stopper : Stopper} {j : Join} (hc : s.control ≠ .none)
    (ho : ¬ s.InJoin stopper.other) : Alone (s.setJoin stopper j) where
  crashed := by cases stopper <;> exact hi.crashed
  control := fun _ _ => by cases stopper <;> exact hc
  other := by
    intro other h h'
    rcases inJoin_of_setJoin h with rfl | h
    · rcases inJoin_of_setJoin h' with he | h'
      · cases other <;> cases he
      · exact ho h'
    · by_cases he : other = stopper
      · rw [he] at h'
        rcases inJoin_of_setJoin h' with he' | h'
        · cases stopper <;> cases he'
        · exact ho h'
      · rw [Stopper.eq_other he] at h
        exact ho h

theorem alone_step (hi : Alone s) (hok : s.JoinsAlone a) (h : s.step negotiated a = some t) :
    Alone t := by
  cases moves_of_step h with
  | connects _ hw _ =>
    refine hi.same rfl rfl (.inr (.inl ?_)) (.inl rfl)
    exact Worker.join_of_starting hw
  | creates _ =>
    refine hi.mono rfl (fun stopper h => ?_) (fun hc => by cases hc)
    cases stopper with
    | worker => rcases h with h | h <;> cases h
    | stop => exact h
  | fails _ hw =>
    rcases hw with rfl | rfl <;> exact hi.same rfl rfl (.inr (.inl rfl)) (.inl rfl)
  | mayOpen _ _ | mayNot _ _ | opens _ | opensNot _ | stops _ | wakes _ _ | closes _ _ =>
    exact hi.same rfl rfl (.inr (.inl rfl)) (.inl rfl)
  | closesSockets _ => exact hi.same rfl rfl (.inr (.inr rfl)) (.inl rfl)
  | @passes caller _ _ | @sends caller _ _ _ =>
    cases caller
    · exact hi.same rfl rfl (.inl rfl) (.inl rfl)
    · exact hi.same rfl rfl (.inl rfl) (.inr (.inl rfl))
  | controlEnds _ => exact hi.mono rfl (fun _ h => h) (fun hc => by cases hc)
  | skips _ hc =>
    rename_i stopper _
    refine hi.mono (by cases stopper <;> rfl) (fun _ h => (inJoin_of_endJoin h).2) fun _ => hc
  | finds _ hc => exact hi.setJoin hc (hok.resolve_left hc)
  | joins hj hno =>
    have hin : s.InJoin _ := .inl hj
    exact hi.setJoin (hi.control _ hin) (hi.other _ hin)
  | crashes hj hbad =>
    -- neither joined already nor being joined
    have hin : s.InJoin _ := .inl hj
    rcases hbad with hc | ho
    · exact absurd hc (hi.control _ hin)
    · exact absurd (.inr ho) (hi.other _ hin)
  | joined hj _ =>
    rename_i stopper _
    have hnone : ∀ other, ¬ (s.endJoin stopper).InJoin other := by
      intro other h
      obtain ⟨hne, hin⟩ := inJoin_of_endJoin h
      rw [Stopper.eq_other hne] at hin
      exact hi.other stopper (.inr hj) hin
    exact ⟨by cases stopper <;> exact hi.crashed, fun other h => absurd h (hnone other),
      fun other h => absurd h (hnone other)⟩
  | stopBegins _ | stopCloses _ _ _ | stopNumbers _ | stopReturns _ | stopStops _ | stopJoins _ _ =>
    exact hi.same rfl rfl (.inl rfl) (.inr (.inl rfl))
  | stopClosesSockets _ => exact hi.same rfl rfl (.inl rfl) (.inr (.inr rfl))
  | stopChecks _ =>
    refine hi.same rfl rfl (.inl rfl) (.inr (.inl ?_))
    show (if _ then _ else _ : ClientStop).join = none
    split <;> rfl
  | ignores | reports _ _ _ | returns _ _ | locked _ | signals | stopAgain =>
    exact hi.same rfl rfl (.inl rfl) (.inl rfl)

theorem alone_run {l : List ClientLabel} (h : (system negotiated).RunWith JoinsAlone l s) :
    Alone s :=
  System.RunWith.invariant (P := fun _ s => Alone s) alone_started
    (fun _ _ _ _ _ hi hok hn => alone_step hi hok hn) h

/-! ### When both callers join -/

/-- The device does not open, and the worker stops the transport; meanwhile `Stop()`
does so too.  Both find the control thread, the worker joins it, and so does `Stop()`. -/
def joinedTwice : List ClientLabel :=
  [.inputSocket, .publish, .setSessionId, .startClientTests, .startClientReturns, .takeLifecycle,
    .openDevice false, .openFailed, .workerStops, .workerClosesSockets, .testsControl .worker,
    .joinsControl .worker, .stop, .stopCloses, .stopChecks, .stopStops, .stopClosesSockets,
    .testsControl .stop, .joinsControl .stop]

/-- **The control thread is joined twice at the same time**, which ends the process:
`Stop()` does not return. -/
theorem joinedTwice_crashes : ∃ s, (system 7).Run joinedTwice s ∧ s.crashed = true ∧
    ∀ l t, (system 7).Path s l t → t.stop ≠ .finished := by
  obtain ⟨s, h, hcrashed, hstop⟩ : ∃ s, (system 7).Run joinedTwice s ∧ s.crashed = true ∧
      s.stop = .joiningControl .found := ⟨_, System.run_of_exec rfl, rfl, rfl⟩
  refine ⟨s, h, hcrashed, fun l t hp => ?_⟩
  -- a process that has ended takes no step
  have hsame : t = s := by
    induction hp with
    | refl => rfl
    | snoc _ hn ih =>
      rw [ih] at hn
      simp [system, step, hcrashed] at hn
  rw [hsame, hstop]
  exact fun he => by cases he

end ClientSide

end RemoteController
