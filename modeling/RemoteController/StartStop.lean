import RemoteController.LanServer.Starting
import RemoteController.LocalBridge.Starting

/-!
# Once `Stop()` has won

`LanControllerServer` and `LocalControllerBridge`, with one `Start()` and one `Stop()`
from two threads on the same handle.

* `stop_wins`: `Stop()` wins in every run in which no section of `Start()` writes over
  `kStopped`.
* `stop_overruled`: it does not in every run; `LanControllerClient::Start()`, which
  tests and writes in one section, leaves no room for it.
-/

namespace RemoteController

open Lib Protocol

/-- The components that start in two sections. -/
inductive Component where
  | lanControllerServer
  | localControllerBridge
  deriving DecidableEq, Repr

namespace Component

def State : Component → Type
  | .lanControllerServer => ServerHandle
  | .localControllerBridge => BridgeSide

def Label : Component → Type
  | .lanControllerServer => HandleLabel
  | .localControllerBridge => BridgeLabel

def system : (c : Component) → System c.State c.Label
  | .lanControllerServer => ServerHandle.system
  | .localControllerBridge => BridgeSide.system

def view : (c : Component) → c.State → View
  | .lanControllerServer => ServerHandle.view
  | .localControllerBridge => BridgeSide.view

def StartMissesStop : (c : Component) → c.State → c.Label → Prop
  | .lanControllerServer => ServerHandle.StartMissesStop
  | .localControllerBridge => BridgeSide.StartMissesStop

end Component

/-- **Once `Stop()` has won it stays won**, on a server and on a local bridge, unless a
section of `Start()` finds `kStopped` where it writes the next state. -/
theorem stop_wins (c : Component) : StopWins c.system c.view c.StartMissesStop := by
  cases c with
  | lanControllerServer =>
    apply stopWins_of_moves rfl
    · exact fun _ _ _ hok hn => ServerHandle.moves_step hok hn
    · exact fun _ _ _ hs hn => ServerHandle.missesStop_of_returned hs hn
  | localControllerBridge =>
    apply stopWins_of_moves rfl
    · exact fun _ _ _ hok hn => BridgeSide.moves_step hok hn
    · exact fun _ _ _ hs hn => BridgeSide.missesStop_of_returned hs hn

/-- `Stop()` takes `mutex_` before `Start()` has created the worker. -/
def ServerHandle.stopBehindStart : List HandleLabel :=
  [.startChecks, .create true, .startRunning, .stop true, .stopsTransport, .stopJoins,
    .setExpectedPairingKey, .createWorker, .stopDestroys]

/-- `Stop()` takes `mutex_` while `Start()` opens the device. -/
def BridgeSide.stopBehindStart : List BridgeLabel :=
  [.startChecks, .create true, .startRunning, .stop, .stopCloses, .openDevice true,
    .stopReleases true, .stopDestroys]

theorem stop_wins_behindStart :
    (∃ s, ServerHandle.system.RunWith ServerHandle.StartMissesStop ServerHandle.stopBehindStart s ∧
      s.worker = .starting ∧
      ∀ k t, ServerHandle.system.Path s k t → t.core.state = .stopped ∧
        t.core.virtual.created = false) ∧
    ∃ s, BridgeSide.system.RunWith BridgeSide.StartMissesStop BridgeSide.stopBehindStart s ∧
      s.isOpen = true ∧
      ∀ k t, BridgeSide.system.Path s k t → t.core.state = .stopped ∧ t.virtual.created = false :=
  have hs : ServerHandle.system.RunWith ServerHandle.StartMissesStop
    ServerHandle.stopBehindStart _ := System.runWith_of_exec rfl
  have hb : BridgeSide.system.RunWith BridgeSide.StartMissesStop
    BridgeSide.stopBehindStart _ := System.runWith_of_exec rfl
  ⟨⟨_, hs, rfl, (stop_wins .lanControllerServer).stays _ _ hs rfl⟩,
    ⟨_, hb, rfl, (stop_wins .localControllerBridge).stays _ _ hb rfl⟩⟩

/-- `Stop()` runs between the two sections of `Start()`. -/
def ServerHandle.stopInside : List HandleLabel :=
  [.startChecks, .stop true, .stopsTransport, .stopJoins, .stopDestroys, .create true,
    .startRunning, .setExpectedPairingKey, .createWorker]

def BridgeSide.stopInside : List BridgeLabel :=
  [.startChecks, .stop, .stopCloses, .stopReleases true, .stopDestroys, .create true,
    .startRunning, .openDevice true]

/-- **A `Stop()` between the two sections is overruled**: both calls return `kOk`, and
the session runs on a target that nobody will destroy. -/
theorem stop_overruled :
    ¬ StopWins ServerHandle.system ServerHandle.view (fun _ _ => True) ∧
    ¬ StopWins BridgeSide.system BridgeSide.view (fun _ _ => True) := by
  constructor
  · intro h
    have hrun : ServerHandle.system.RunWith (fun _ _ => True) ServerHandle.stopInside _ :=
      System.runWith_of_exec rfl
    cases (h.stays _ _ hrun rfl [] _ .refl).1
  · intro h
    have hrun : BridgeSide.system.RunWith (fun _ _ => True) BridgeSide.stopInside _ :=
      System.runWith_of_exec rfl
    cases (h.stays _ _ hrun rfl [] _ .refl).1

end RemoteController
