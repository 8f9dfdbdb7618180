import RemoteController.Lib.Locks

/-!
# What the backends lock, join and call back

The functions of `UdpLanTransportBackend`, `SdlInputBackend`,
`VigemVirtualControllerBackend` and `PairingKeyStore` as the sequences of locks, joins,
threads created and callbacks in them, in the order of the source.  A callback is a
program of its own and stands where the function calls it; a test on data is a
`choice`, so a thread may go either way, and may go on in a loop that the source leaves
by `break`.
-/

namespace RemoteController.Blocking

open Lib Lib.Prog

/-- The mutexes, by the class that has them. -/
inductive Mutex where
  | lanControllerServer
  | lanControllerClient
  | inputLifecycle
  | transport
  | controlSend
  | sdlInput
  | vigem
  | pairingKeyStore
  deriving DecidableEq, Repr

/-- The threads of a server or of a client: `api` is whoever calls the handle, one call
at a time, and `notification` is the driver's. -/
inductive Thread where
  | api
  | worker
  | control
  | input
  | poll
  | notification
  deriving DecidableEq, Repr

abbrev Code := Prog Mutex Thread

/-! ### `UdpLanTransportBackend` -/

namespace UdpLanTransportBackend

def setError : Code := locked .transport

/-- The flag `disconnected_signaled_` lets one call through. -/
def signalDisconnected (disconnectCallback : Code) : Code :=
  maybe (block [locked .transport, maybe disconnectCallback])

def snapshot : Code := locked .transport

def sendState (disconnectCallback : Code) : Code :=
  maybe (block [locked .transport, maybe (signalDisconnected disconnectCallback)])

/-- Two atomics: the rumble is left to the control thread. -/
def sendRumble : Code := skip

/-- The Stop frame, the sockets, and the two threads. -/
def stop : Code :=
  block [maybe (guarded .controlSend (locked .transport)), locked .transport,
    join .control, join .input]

def startClientSockets : Code :=
  -- Winsock, the address, the control socket
  choice setError
    (block [locked .transport,
      -- the connection, the input socket
      choice (block [locked .transport, setError])
        (block [locked .transport,
          -- the handshake, the pairing key
          choice (block [locked .transport, setError])
            -- stopped meanwhile, or connected
            (locked .transport)])])

def startServerSockets : Code :=
  -- Winsock, the sockets, the port
  choice setError
    (block [locked .transport,
      -- clients with a wrong pairing key
      loop (maybe setError),
      choice (maybe setError)
        (block [locked .transport,
          -- the HELLO_ACK
          choice (block [locked .transport, setError])
            -- stopped meanwhile, or connected
            (locked .transport)])])

def startClient : Code :=
  maybe (block [locked .transport, startClientSockets,
    maybe (choice stop (spawn .control))])

def startServer : Code :=
  maybe (block [locked .transport, startServerSockets,
    maybe (choice stop (block [spawn .control, spawn .input]))])

/-- Heartbeats out; rumble frames, `STOP` and failures in. -/
def clientControlLoop (rumbleCallback disconnectCallback : Code) : Code :=
  block [locked .transport,
    loop (block [
      maybe (block [locked .controlSend, maybe (signalDisconnected disconnectCallback)]),
      maybe (choice (signalDisconnected disconnectCallback)
        (block [locked .transport, maybe rumbleCallback]))])]

/-- Rumble frames out; heartbeats, `STOP` and failures in. -/
def serverControlLoop (disconnectCallback : Code) : Code :=
  block [locked .transport,
    loop (block [
      maybe (block [locked .controlSend, maybe (signalDisconnected disconnectCallback)]),
      maybe (signalDisconnected disconnectCallback),
      maybe (signalDisconnected disconnectCallback)])]

def serverInputLoop (stateCallback disconnectCallback : Code) : Code :=
  block [locked .transport,
    loop (choice (maybe (signalDisconnected disconnectCallback))
      (maybe (block [locked .transport, maybe stateCallback])))]

end UdpLanTransportBackend

/-! ### `SdlInputBackend` -/

namespace SdlInputBackend

def openDevice : Code := maybe (guarded .sdlInput (maybe (spawn .poll)))

def setRumble : Code := locked .sdlInput

def close : Code := block [join .poll, locked .sdlInput]

def pollLoop (stateCallback disconnectCallback : Code) : Code :=
  block [locked .sdlInput, loop (choice (maybe disconnectCallback) stateCallback)]

end SdlInputBackend

/-! ### `VigemVirtualControllerBackend` -/

namespace VigemVirtualControllerBackend

def setError : Code := locked .vigem

/-- `vigem_target_x360_register_notification` starts the driver's thread, which may call
back before `Create` has stored the callback. -/
def create : Code :=
  block [locked .vigem,
    maybe (choice setError (block [spawn .notification, locked .vigem]))]

def submitState : Code := locked .vigem

def submitNeutralState : Code := submitState

/-- The driver is called, and may wait for its thread, after `mutex_` is released. -/
def destroy : Code := block [locked .vigem, maybe (join .notification)]

def handleRumble (rumbleCallback : Code) : Code := block [locked .vigem, maybe rumbleCallback]

end VigemVirtualControllerBackend

namespace PairingKeyStore

def get : Code := locked .pairingKeyStore

end PairingKeyStore

end RemoteController.Blocking
