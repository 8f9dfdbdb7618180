import RemoteController.LanServer.Release
import RemoteController.Session.State

/-!
# The input watchdog and fresh input

`StartWorker` of `LanControllerServer` and `WatchdogLoop` of `Session` run the
same loop, and both compare the clock with the deadline they computed before
they slept.  A frame that is accepted during the wait moves `last_input_arrival_`
and not that deadline.  If the wait reports a timeout all the same, the branch
releases input that has just arrived (`race_releases_fresh`): because the frame
came after the report and before the thread had `mutex_` back, or because the
thread it notified got to run only when the deadline had passed.

`watchdog_releases_stale_iff` says this is the only way: a run of either loop
releases stale input only, exactly when no accepted frame overtakes the watchdog
thread in a wait that reports its timeout.
-/

namespace RemoteController

open Lib Protocol

/-- **When the watchdog releases stale input only**, for both loops: exactly when
no frame is accepted during a timed wait that reports its timeout, up to the moment
the thread has the mutex back, unless that moment comes another timeout later. -/
theorem watchdog_releases_stale_iff (inputTimeout now : Nat) :
    (∀ l s, (LanControllerServer.system inputTimeout now).Run l s →
      ((LanControllerServer.monitor inputTimeout).FiresOnlyStale
          LanControllerServer.started now l ↔
        (LanControllerServer.monitor inputTimeout).NeverOvertaken
          LanControllerServer.started now l)) ∧
    (∀ l s, (Session.system inputTimeout now).Run l s →
      ((Session.monitor inputTimeout).FiresOnlyStale Session.started now l ↔
        (Session.monitor inputTimeout).NeverOvertaken Session.started now l)) :=
  ⟨fun _ _ h => Monitor.firesOnlyStale_iff h, fun _ _ h => Monitor.firesOnlyStale_iff h⟩

/-- A frame at 0 ms, a timeout at 100 ms, and a second frame that takes `mutex_`
at 100 ms before the watchdog thread does. -/
def serverRace : List (Monitor.Label LanControllerServer.Section Bool) :=
  [.locked (.onState ⟨{ buttonFlags := 0x1000 }, 1, 10⟩ true true), .enter, .tick 100, .expire,
    .locked (.onState ⟨{ buttonFlags := 0x1000 }, 2, 20⟩ true true), .check true]

/-- The same schedule for the loopback session. -/
def sessionRace : List (Monitor.Label Session.Section Bool) :=
  [.locked (.onStateFrame ⟨{ buttonFlags := 0x1000 }, 1, 10⟩ true true), .enter, .tick 100,
    .expire, .locked (.onStateFrame ⟨{ buttonFlags := 0x1000 }, 2, 20⟩ true true), .check true]

/-- A frame at 0 ms and another at 60 ms, which notifies the thread.  It gets to run at
110 ms only, and the wait until 100 ms reports its timeout. -/
def serverLateWakeup : List (Monitor.Label LanControllerServer.Section Bool) :=
  [.locked (.onState ⟨{ buttonFlags := 0x1000 }, 1, 10⟩ true true), .enter, .tick 60,
    .locked (.onState ⟨{ buttonFlags := 0x1000 }, 2, 20⟩ true true), .tick 50, .expire, .check true]

/-- The same schedule for the loopback session. -/
def sessionLateWakeup : List (Monitor.Label Session.Section Bool) :=
  [.locked (.onStateFrame ⟨{ buttonFlags := 0x1000 }, 1, 10⟩ true true), .enter, .tick 60,
    .locked (.onStateFrame ⟨{ buttonFlags := 0x1000 }, 2, 20⟩ true true), .tick 50, .expire,
    .check true]

theorem watchdog_releases_stale_iff_race :
    ((LanControllerServer.monitor 100).FiresOnlyStale LanControllerServer.started 0 serverRace ↔
      (LanControllerServer.monitor 100).NeverOvertaken LanControllerServer.started 0 serverRace) ∧
    ((Session.monitor 100).FiresOnlyStale Session.started 0 sessionRace ↔
      (Session.monitor 100).NeverOvertaken Session.started 0 sessionRace) :=
  ⟨(watchdog_releases_stale_iff 100 0).1 serverRace _ (System.run_of_exec rfl),
    (watchdog_releases_stale_iff 100 0).2 sessionRace _ (System.run_of_exec rfl)⟩

/-- **Both loops release a frame that has just arrived**, in both schedules: when the clock
shows 100 ms and the latest arrival is 100 ms, and when it shows 110 ms and the arrival is
60 ms. -/
theorem race_releases_fresh :
    (∀ l ∈ [serverRace, serverLateWakeup],
      (∃ s, (LanControllerServer.system 100 0).Run l s) ∧
        ¬ (LanControllerServer.monitor 100).FiresOnlyStale LanControllerServer.started 0 l) ∧
    (∀ l ∈ [sessionRace, sessionLateWakeup],
      (∃ s, (Session.system 100 0).Run l s) ∧
        ¬ (Session.monitor 100).FiresOnlyStale Session.started 0 l) := by
  constructor
  · simp only [List.forall_mem_cons, List.not_mem_nil, false_implies, implies_true, and_true]
    exact ⟨⟨⟨_, System.run_of_exec rfl⟩,
        Monitor.not_firesOnlyStale (serverRace.take 5) (System.run_of_exec rfl) rfl rfl
          (by decide)⟩,
      ⟨_, System.run_of_exec rfl⟩,
        Monitor.not_firesOnlyStale (serverLateWakeup.take 6) (System.run_of_exec rfl) rfl rfl
          (by decide)⟩
  · simp only [List.forall_mem_cons, List.not_mem_nil, false_implies, implies_true, and_true]
    exact ⟨⟨⟨_, System.run_of_exec rfl⟩,
        Monitor.not_firesOnlyStale (sessionRace.take 5) (System.run_of_exec rfl) rfl rfl
          (by decide)⟩,
      ⟨_, System.run_of_exec rfl⟩,
        Monitor.not_firesOnlyStale (sessionLateWakeup.take 6) (System.run_of_exec rfl) rfl rfl
          (by decide)⟩

end RemoteController
