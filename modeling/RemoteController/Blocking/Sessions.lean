import RemoteController.Blocking.Backends

/-!
# No thread of a server or a client waits in a cycle

`LanControllerServer` and `LanControllerClient` over their backends, with every thread
of theirs as a program.  Callbacks run upwards, from the driver to the session and from
the session to the transport, while `Stop()` runs downwards and joins.

* `order`: one order of the mutexes and of the threads' ends.
* `noDeadlock`: in no reachable state does a thread wait, over others, for itself.
-/

namespace RemoteController.Blocking

open Lib Lib.Prog

/-! ### `LanControllerServer` -/

namespace LanControllerServer

open UdpLanTransportBackend VigemVirtualControllerBackend

/-- Called with `mutex_` held. -/
def neutralizeLocked : Code := submitNeutralState

/-- `SubmitState` is called with `mutex_` held. -/
def onState : Code :=
  guarded .lanControllerServer (maybe (block [submitState, maybe neutralizeLocked]))

/-- `SendRumble` is called without it. -/
def onRumble : Code := block [locked .lanControllerServer, maybe sendRumble]

def onTransportDisconnected : Code := guarded .lanControllerServer (maybe neutralizeLocked)

def start : Code :=
  block [locked .lanControllerServer,
    maybe (block [create,
      choice (locked .lanControllerServer)
        (block [locked .lanControllerServer, PairingKeyStore.get, spawn .worker])])]

def startWorker : Code :=
  block [startServer,
    choice (guarded .lanControllerServer (maybe neutralizeLocked))
      (guarded .lanControllerServer
        (loop (block [wait .lanControllerServer, maybe neutralizeLocked])))]

def stop : Code :=
  block [guarded .lanControllerServer (maybe neutralizeLocked),
    maybe (block [UdpLanTransportBackend.stop, join .worker, destroy])]

def snapshot : Code := block [UdpLanTransportBackend.snapshot, locked .lanControllerServer]

/-- `Stop()`, and then the members' own destructors. -/
def destructor : Code := block [stop, destroy, UdpLanTransportBackend.stop]

/-- The threads.  A server has no device to poll. -/
def main : Thread → Code
  | .api => block [loop (choice start (choice stop snapshot)), destructor]
  | .worker => startWorker
  | .control => serverControlLoop onTransportDisconnected
  | .input => serverInputLoop onState onTransportDisconnected
  | .notification => loop (handleRumble onRumble)
  | .poll => skip

end LanControllerServer

/-! ### `LanControllerClient` -/

namespace LanControllerClient

open UdpLanTransportBackend SdlInputBackend

def onTransportDisconnected : Code := locked .lanControllerClient

def onInputDisconnected : Code := locked .lanControllerClient

/-- `SendState` is called without `mutex_`. -/
def onInputState : Code :=
  block [locked .lanControllerClient,
    maybe (block [sendState onTransportDisconnected,
      choice onTransportDisconnected (locked .lanControllerClient)])]

def onRumble : Code := block [locked .lanControllerClient, maybe setRumble]

def closeInput : Code := guarded .inputLifecycle close

def start : Code := guarded .lanControllerClient (maybe (spawn .worker))

def startWorker : Code :=
  block [startClient,
    choice (locked .lanControllerClient)
      -- stopped meanwhile
      (choice (guarded .inputLifecycle (locked .lanControllerClient))
        (block [guarded .inputLifecycle (block [locked .lanControllerClient, openDevice]),
          choice (block [locked .lanControllerClient, UdpLanTransportBackend.stop])
            (block [
              guarded .lanControllerClient (loop (wait .lanControllerClient)),
              closeInput])]))]

def stop : Code :=
  block [locked .lanControllerClient,
    maybe (block [closeInput,
      -- the final neutral
      maybe (block [UdpLanTransportBackend.snapshot,
        maybe (block [locked .lanControllerClient, sendState onTransportDisconnected])]),
      UdpLanTransportBackend.stop, join .worker])]

def snapshot : Code := block [UdpLanTransportBackend.snapshot, locked .lanControllerClient]

/-- `Stop()`, and then the members' own destructors. -/
def destructor : Code := block [stop, UdpLanTransportBackend.stop, close]

/-- The threads.  A client receives no input and has no driver. -/
def main : Thread → Code
  | .api => block [loop (choice start (choice stop snapshot)), destructor]
  | .worker => startWorker
  | .control => clientControlLoop onRumble onTransportDisconnected
  | .poll => pollLoop onInputState onInputDisconnected
  | .input => skip
  | .notification => skip

end LanControllerClient

/-! ### The order -/

/-- Who joins comes before who is joined; the end of a thread that calls back comes
before the mutexes that its callbacks take, since nobody joins it while holding one;
and a session comes before the backends it calls with its mutex held. -/
def order : Locks.Order Mutex Thread where
  ending
    | .api => 0
    | .worker => 1
    | .control | .input | .poll | .notification => 3
  mutex
    | .inputLifecycle => 2
    | .controlSend => 4
    | .lanControllerServer | .lanControllerClient => 5
    | .transport | .sdlInput | .vigem | .pairingKeyStore => 6

theorem LanControllerServer.ordered_main (t : Thread) :
    order.ordered (order.ending t) (LanControllerServer.main t) = true := by
  cases t <;> decide

theorem LanControllerClient.ordered_main (t : Thread) :
    order.ordered (order.ending t) (LanControllerClient.main t) = true := by
  cases t <;> decide

/-- The two kinds of handle. -/
inductive Side where
  | server
  | client
  deriving DecidableEq, Repr

def Side.main : Side → Thread → Code
  | .server => LanControllerServer.main
  | .client => LanControllerClient.main

def Side.system (side : Side) : System (Locks.State Mutex Thread) (Thread × Bool) :=
  Locks.system side.main .api

/-- **No thread waits, over others, for itself**: neither for a mutex nor for a thread's
end, whatever the calls on the handle and however the threads take turns. -/
theorem noDeadlock (side : Side) {l : List (Thread × Bool)} {s : Locks.State Mutex Thread}
    (h : side.system.Run l s) (t : Thread) : ¬ Relation.TransGen (Locks.Waits s) t t := by
  apply Locks.no_cycle (o := order) _ h
  intro t
  cases side with
  | server => exact LanControllerServer.ordered_main t
  | client => exact LanControllerClient.ordered_main t

/-- The client is started, its worker connects and opens the device, and `Stop()` comes
before the worker has left `Open`. -/
def LanControllerClient.stopInOpen : List (Thread × Bool) :=
  List.replicate 7 (.api, true) ++
  -- the worker takes the way through `StartClientSockets` on which nothing fails
  List.map (fun left => (.worker, left))
    (List.replicate 7 true ++ [false] ++ List.replicate 5 true ++ [false] ++
      List.replicate 5 true ++ [false] ++ List.replicate 7 true ++ [false, true, true, true] ++
      [false, false] ++ List.replicate 11 true) ++
  [(.poll, true)] ++
  List.map (fun left => (.api, left))
    [true, false, true, true, true, true, true, true, true, true]

/-- The poll thread and `Stop()` both wait for the worker there. -/
theorem noDeadlock_stopInOpen :
    ∃ s, Side.client.system.Run LanControllerClient.stopInOpen s ∧
      Locks.Waits s .poll .worker ∧ Locks.Waits s .api .worker ∧
      ∀ t, ¬ Relation.TransGen (Locks.Waits s) t t :=
  have h : Side.client.system.Run LanControllerClient.stopInOpen _ := System.run_of_exec rfl
  ⟨_, h, .lock rfl rfl, .lock rfl rfl, noDeadlock .client h⟩

end RemoteController.Blocking
