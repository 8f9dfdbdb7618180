import RemoteController.Blocking.Sessions
import RemoteController.Lib.Progress
import Mathlib.Data.Fintype.EquivFin

/-!
# Whoever waits, waits for somebody who can go on

The other handles of the library as programs: `LocalControllerBridge` and `InputCapture`
over the backends, and `Session` over the loopback transport.  Together with the server and
the client they are all the handles that have threads.

* `order`: one order of all their mutexes and of their threads' ends.
* `everyoneGoesOn`: in no reachable state of a handle does a thread wait, over others, for
  itself, and whom it waits for, over others, can go on.
-/

namespace RemoteController.Blocking

open Lib Lib.Prog

/-- The mutexes of `Blocking/Backends.lean` and those of the other handles. -/
inductive HandleMutex where
  | lan (m : Mutex)
  | localControllerBridge
  | inputCapture
  | session
  | loopback
  deriving DecidableEq, Repr

/-- The threads, among them the worker of the loopback transport and the watchdog of its
session. -/
inductive HandleThread where
  | lan (t : Thread)
  | loopbackWorker
  | watchdog
  deriving DecidableEq, Repr

instance : Fintype HandleThread :=
  .ofList [.lan .api, .lan .worker, .lan .control, .lan .input, .lan .poll, .lan .notification,
    .loopbackWorker, .watchdog] fun t => by
      cases t with
      | lan t => cases t <;> simp
      | loopbackWorker | watchdog => simp

abbrev HandleCode := Prog HandleMutex HandleThread

/-- The code of a backend. -/
def backend (p : Code) : HandleCode := p.map .lan .lan

/-! ### The callbacks of the other handles -/

/-- `PollLoop` of `SdlInputBackend`. -/
def pollLoop (stateCallback disconnectCallback : HandleCode) : HandleCode :=
  block [locked (.lan .sdlInput), loop (choice (maybe disconnectCallback) stateCallback)]

/-- `HandleRumble` of `VigemVirtualControllerBackend`. -/
def handleRumble (rumbleCallback : HandleCode) : HandleCode :=
  block [locked (.lan .vigem), maybe rumbleCallback]

/-- The two are those of the client and the server. -/
example (p q : Code) :
    pollLoop (backend p) (backend q) = backend (SdlInputBackend.pollLoop p q) ∧
      handleRumble (backend p) = backend (VigemVirtualControllerBackend.handleRumble p) :=
  ⟨rfl, rfl⟩

/-! ### `LocalControllerBridge` -/

namespace LocalControllerBridge

def start : HandleCode :=
  block [locked .localControllerBridge,
    maybe (block [backend VigemVirtualControllerBackend.create,
      choice (locked .localControllerBridge)
        (block [locked .localControllerBridge, backend SdlInputBackend.openDevice,
          maybe (block [locked .localControllerBridge,
            backend VigemVirtualControllerBackend.submitNeutralState,
            backend VigemVirtualControllerBackend.destroy])])])]

def stop : HandleCode :=
  block [locked .localControllerBridge,
    maybe (block [backend SdlInputBackend.close,
      backend VigemVirtualControllerBackend.submitNeutralState,
      backend VigemVirtualControllerBackend.destroy])]

def snapshot : HandleCode := locked .localControllerBridge

/-- `SubmitState` is called without `mutex_`. -/
def onState : HandleCode :=
  block [locked .localControllerBridge,
    maybe (block [backend VigemVirtualControllerBackend.submitState,
      choice (block [locked .localControllerBridge,
          backend VigemVirtualControllerBackend.submitNeutralState])
        (locked .localControllerBridge)])]

def onDisconnected : HandleCode :=
  block [locked .localControllerBridge,
    maybe (backend VigemVirtualControllerBackend.submitNeutralState)]

def onRumble : HandleCode :=
  block [locked .localControllerBridge, maybe (backend SdlInputBackend.setRumble)]

/-- `Stop()`, and then the members' own destructors. -/
def destructor : HandleCode :=
  block [stop, backend VigemVirtualControllerBackend.destroy, backend SdlInputBackend.close]

def main : HandleThread → HandleCode
  | .lan .api => block [loop (choice start (choice stop snapshot)), destructor]
  | .lan .poll => pollLoop onState onDisconnected
  | .lan .notification => loop (handleRumble onRumble)
  | _ => skip

end LocalControllerBridge

/-! ### `InputCapture` -/

namespace InputCapture

def start : HandleCode :=
  block [locked .inputCapture,
    maybe (block [backend SdlInputBackend.openDevice, maybe (locked .inputCapture)])]

def stop : HandleCode :=
  block [locked .inputCapture, maybe (backend SdlInputBackend.close)]

def snapshot : HandleCode := locked .inputCapture

def onState : HandleCode := locked .inputCapture

def onDisconnected : HandleCode := locked .inputCapture

def destructor : HandleCode := block [stop, backend SdlInputBackend.close]

def main : HandleThread → HandleCode
  | .lan .api => block [loop (choice start (choice stop snapshot)), destructor]
  | .lan .poll => pollLoop onState onDisconnected
  | _ => skip

end InputCapture

/-! ### `Session` over `LoopbackTransportBackend` -/

namespace LoopbackTransportBackend

def start : HandleCode := guarded .loopback (maybe (spawn .loopbackWorker))

def sendState : HandleCode := locked .loopback

/-- `Stop()` without the callback, `SimulateDisconnect()` with it. -/
def shutdown (disconnectCallback : HandleCode) : HandleCode :=
  block [locked .loopback,
    maybe (block [join .loopbackWorker, locked .loopback, disconnectCallback])]

def workerLoop (stateCallback : HandleCode) : HandleCode :=
  loop (block [guarded .loopback (loop (wait .loopback)), maybe stateCallback])

end LoopbackTransportBackend

namespace Session

open LoopbackTransportBackend (shutdown)

def onStateFrame : HandleCode := locked .session

def onDisconnected : HandleCode := locked .session

def start : HandleCode :=
  block [locked .session,
    maybe (block [LoopbackTransportBackend.start,
      choice (locked .session) (spawn .watchdog)])]

def submitState : HandleCode :=
  block [locked .session,
    maybe (block [LoopbackTransportBackend.sendState, maybe onDisconnected])]

def snapshot : HandleCode := locked .session

def simulateDisconnect : HandleCode :=
  block [locked .session, maybe (block [shutdown onDisconnected, join .watchdog])]

def stop : HandleCode :=
  block [locked .session, maybe (block [maybe (shutdown skip), join .watchdog])]

/-- Both waits of the loop. -/
def watchdogLoop : HandleCode := guarded .session (loop (wait .session))

def destructor : HandleCode := block [stop, shutdown skip]

def main : HandleThread → HandleCode
  | .lan .api =>
    block [loop (choice start (choice submitState
        (choice simulateDisconnect (choice stop snapshot)))), destructor]
  | .loopbackWorker => LoopbackTransportBackend.workerLoop onStateFrame
  | .watchdog => watchdogLoop
  | _ => skip

end Session

/-! ### Every handle -/

inductive Handle where
  | lan (side : Side)
  | localControllerBridge
  | inputCapture
  | session
  deriving DecidableEq, Repr

def Handle.main : Handle → HandleThread → HandleCode
  | .lan side, .lan t => backend (side.main t)
  | .lan _, _ => skip
  | .localControllerBridge, t => LocalControllerBridge.main t
  | .inputCapture, t => InputCapture.main t
  | .session, t => Session.main t

def Handle.system (handle : Handle) :
    System (Locks.State HandleMutex HandleThread) (HandleThread × Bool) :=
  Locks.system handle.main (.lan .api)

/-- That of the server and the client, and like it for the others. -/
def handleOrder : Locks.Order HandleMutex HandleThread where
  ending
    | .lan t => order.ending t
    | .loopbackWorker | .watchdog => 1
  mutex
    | .lan m => order.mutex m
    | .localControllerBridge | .inputCapture | .session => 5
    | .loopback => 6

theorem Handle.ordered_main (handle : Handle) (t : HandleThread) :
    handleOrder.ordered (handleOrder.ending t) (handle.main t) = true := by
  cases handle with
  | lan side =>
    cases side <;> rcases t with t | _ | _ <;> try rfl
    all_goals cases t <;> decide
  | localControllerBridge | inputCapture | session =>
    rcases t with t | _ | _ <;> try decide
    cases t <;> decide

theorem Handle.nests_main (handle : Handle) (t : HandleThread) :
    (handle.main t).nests none = true := by
  cases handle with
  | lan side =>
    cases side <;> rcases t with t | _ | _ <;> try rfl
    all_goals cases t <;> decide
  | localControllerBridge | inputCapture | session =>
    rcases t with t | _ | _ <;> try decide
    cases t <;> decide

/-- **Nobody waits for himself, and everybody for somebody who can go on**: for each kind of
handle, whatever the calls on it and however its threads take turns. -/
theorem everyoneGoesOn (handle : Handle) {l : List (HandleThread × Bool)}
    {s : Locks.State HandleMutex HandleThread} (h : handle.system.Run l s) (t : HandleThread) :
    ¬ Relation.TransGen (Locks.Waits s) t t ∧
      ∀ u, Locks.Waits s t u →
        ∃ v, Relation.TransGen (Locks.Waits s) t v ∧ Locks.GoesOn handle.main s v :=
  ⟨Locks.no_cycle handle.ordered_main h t,
    fun _ hw => Locks.progress handle.ordered_main handle.nests_main h hw⟩

/-- A bridge is started, and stopped before its poll thread has made a step. -/
def LocalControllerBridge.stopAtOnce : List (HandleThread × Bool) :=
  List.map (fun left => (.lan .api, left))
    (List.replicate 16 true ++ [false] ++ List.replicate 9 true ++ [false] ++
      List.replicate 11 true ++ [false] ++ List.replicate 5 true ++ [false] ++
      List.replicate 9 true)

/-- `Stop()` waits for the poll thread there. -/
theorem everyoneGoesOn_stopAtOnce :
    ∃ s, Handle.localControllerBridge.system.Run LocalControllerBridge.stopAtOnce s ∧
      Locks.Waits s (.lan .api) (.lan .poll) ∧
        ∃ v, Relation.TransGen (Locks.Waits s) (.lan .api) v ∧
          Locks.GoesOn Handle.localControllerBridge.main s v :=
  have h : Handle.localControllerBridge.system.Run LocalControllerBridge.stopAtOnce _ :=
    System.run_of_exec rfl
  ⟨_, h, .join rfl rfl,
    (everyoneGoesOn .localControllerBridge h (.lan .api)).2 (.lan .poll) (.join rfl rfl)⟩

end RemoteController.Blocking
