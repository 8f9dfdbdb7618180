import RemoteController.Vigem.Report
import RemoteController.Lib.Ledger
import RemoteController.Lib.Transition

/-!
# The driver's resources

`Create`, `SubmitState` and `Destroy` of `vigem_virtual_controller_backend.cpp`, with
every call they make to ViGEmClient kept in a log.  What the driver answers is an
argument: whether an allocation succeeds, and the result of every call that has one.

* `Call.client`, `Call.target`: the handles a call names.  A handle is named by its
  allocation, so an address that the driver hands out again is a new name.
* `clientMemory`, `connection`, `targetMemory`, `registration`: what the calls do to the
  four kinds of resource.
* `system`: the three calls in any order, with any answers.
-/

namespace RemoteController

open Lib Protocol

/-- `VIGEM_ERROR`, by its names. -/
inductive VigemError where
  | none
  | busNotFound
  | noFreeSlot
  | invalidTarget
  | removalFailed
  | alreadyConnected
  | targetUninitialized
  | targetNotPluggedIn
  | busVersionMismatch
  | busAccessFailed
  | callbackAlreadyRegistered
  | callbackNotFound
  | busAlreadyConnected
  | busInvalidHandle
  | xusbUserindexOutOfRange
  | invalidParameter
  | notSupported
  | winapi
  | timedOut
  | isDisposing
  | other (code : UInt32)
  deriving DecidableEq, Repr

/-- `VIGEM_SUCCESS`. -/
def VigemError.success (result : VigemError) : Bool := result = .none

def vigemErrorMessage : VigemError → String
  | .none => ""
  | .busNotFound => "ViGEmBus driver was not found."
  | .noFreeSlot => "ViGEmBus has no free virtual controller slot."
  | .invalidTarget => "ViGEmClient received an invalid target."
  | .removalFailed => "ViGEmBus failed to remove the virtual controller."
  | .alreadyConnected => "The ViGEm target is already connected."
  | .targetUninitialized => "The ViGEm target is not initialized."
  | .targetNotPluggedIn => "The ViGEm target is not plugged in."
  | .busVersionMismatch => "ViGEmClient and ViGEmBus versions are incompatible."
  | .busAccessFailed => "ViGEmBus was found but could not be opened."
  | .callbackAlreadyRegistered => "A ViGEm rumble callback is already registered."
  | .callbackNotFound => "The ViGEm rumble callback was not found."
  | .busAlreadyConnected => "The ViGEm client is already connected to the bus."
  | .busInvalidHandle => "ViGEmClient has an invalid bus handle."
  | .xusbUserindexOutOfRange => "The ViGEm XInput user index is out of range."
  | .invalidParameter => "ViGEmClient received an invalid parameter."
  | .notSupported => "The installed ViGEmBus does not support this operation."
  | .winapi => "A Windows API operation failed inside ViGEmClient."
  | .timedOut => "A ViGEmClient operation timed out."
  | .isDisposing => "The ViGEm target is being disposed."
  | .other _ => "ViGEmClient returned an unknown error."

namespace Vigem

/-- A call to ViGEmClient, with what it returned. -/
inductive Call where
  | alloc (client : Option Nat)
  | connect (client : Nat) (result : VigemError)
  | disconnect (client : Nat)
  | free (client : Nat)
  | targetX360Alloc (target : Option Nat)
  | targetAdd (client target : Nat) (result : VigemError)
  | registerNotification (client target : Nat) (result : VigemError)
  | unregisterNotification (target : Nat)
  | isAttached (target : Nat) (attached : Bool)
  | update (client target : Nat) (report : XusbReport) (result : VigemError)
  | targetRemove (client target : Nat) (result : VigemError)
  | targetFree (target : Nat)
  deriving DecidableEq, Repr

/-! ### What a call does to a resource -/

/-- The client that a call is given or returns. -/
@[simp] def Call.client : Call → Option Nat
  | .alloc client => client
  | .connect client _ | .disconnect client | .free client => some client
  | .targetAdd client _ _ | .registerNotification client _ _ => some client
  | .update client _ _ _ | .targetRemove client _ _ => some client
  | _ => none

@[simp] def Call.target : Call → Option Nat
  | .targetX360Alloc target => target
  | .targetAdd _ target _ | .registerNotification _ target _ => some target
  | .unregisterNotification target | .isAttached target _ => some target
  | .update _ target _ _ | .targetRemove _ target _ | .targetFree target => some target
  | _ => none

/-- The memory of a client: every call that names the client needs it. -/
@[simp] def Call.onClientMemory : Call → Option Effect
  | .alloc _ => some .acquire
  | .free _ => some .release
  | _ => some .use

/-- The connection of a client, which is gone before the client is freed. -/
@[simp] def Call.onConnection : Call → Option Effect
  | .alloc _ => none
  | .connect _ result => if result.success then some .acquire else none
  | .disconnect _ => some .release
  | .free _ => some .close
  | _ => some .use

@[simp] def Call.onTargetMemory : Call → Option Effect
  | .targetX360Alloc _ => some .acquire
  | .targetFree _ => some .release
  | _ => some .use

/-- The rumble notification of a target, which is gone before the target is freed. -/
@[simp] def Call.onRegistration : Call → Option Effect
  | .registerNotification _ _ result => if result.success then some .acquire else none
  | .unregisterNotification _ => some .release
  | .targetFree _ => some .close
  | _ => none

def clientMemory : Ledger Call Nat := ⟨Call.client, Call.onClientMemory⟩

def connection : Ledger Call Nat := ⟨Call.client, Call.onConnection⟩

def targetMemory : Ledger Call Nat := ⟨Call.target, Call.onTargetMemory⟩

def registration : Ledger Call Nat := ⟨Call.target, Call.onRegistration⟩

end Vigem

/-! ### The backend -/

/-- The fields of `vigem_virtual_controller_backend.h`; a `lastResultCode` of `none` is 0. -/
structure VigemVirtualControllerBackend (κ : Type) where
  client : Option Nat := none
  target : Option Nat := none
  rumbleCallback : Option κ := none
  lastResultCode : Option VigemError := none
  lastError : String := ""
  notificationRegistered : Bool := false
  created : Bool := false
  deriving DecidableEq, Repr

namespace Vigem

/-- The backend and what it did to the driver: `clients` and `targets` count what was
allocated, which gives the next name. -/
structure State (κ : Type) where
  backend : VigemVirtualControllerBackend κ := {}
  clients : Nat := 0
  targets : Nat := 0
  calls : List Call := []
  deriving DecidableEq, Repr

/-- What the driver answers to `Create`. -/
structure CreateResults where
  alloc : Bool := true
  connect : VigemError := .none
  targetAlloc : Bool := true
  add : VigemError := .none
  registerNotification : VigemError := .none
  remove : VigemError := .none
  deriving DecidableEq, Repr

variable {κ : Type}

namespace State

/-- The calls are made, in this order. -/
@[simp] def call (s : State κ) (calls : List Call) : State κ := { s with calls := s.calls ++ calls }

@[simp] def newClient (s : State κ) : State κ :=
  { s with clients := s.clients + 1, calls := s.calls ++ [.alloc (some s.clients)] }

@[simp] def newTarget (s : State κ) : State κ :=
  { s with targets := s.targets + 1, calls := s.calls ++ [.targetX360Alloc (some s.targets)] }

@[simp] def setLastError (s : State κ) (message : String) : State κ :=
  { s with backend := { s.backend with lastError := message } }

@[simp] def setError (s : State κ) (result : VigemError) : State κ :=
  { s with
    backend :=
      { s.backend with lastResultCode := some result, lastError := vigemErrorMessage result } }

end State

def create (s : State κ) (callback : Option κ) (r : CreateResults) : State κ × Bool :=
  if s.backend.created then (s, false)
  else
    let s := { s with backend := { s.backend with lastResultCode := none, lastError := "" } }
    if !r.alloc then
      ((s.call [.alloc none]).setLastError "ViGEmClient could not allocate a driver client.",
        false)
    else
      let client := s.clients
      let s := s.newClient.call [.connect client r.connect]
      if !r.connect.success then ((s.setError r.connect).call [.free client], false)
      else if !r.targetAlloc then
        let s := (s.call [.targetX360Alloc none]).setLastError
          "ViGEmClient could not allocate an Xbox 360 target."
        (s.call [.disconnect client, .free client], false)
      else
        let target := s.targets
        let s := s.newTarget.call [.targetAdd client target r.add]
        if !r.add.success then
          ((s.setError r.add).call [.targetFree target, .disconnect client, .free client], false)
        else
          let s := s.call [.registerNotification client target r.registerNotification]
          if !r.registerNotification.success then
            ((s.setError r.registerNotification).call
              [.targetRemove client target r.remove, .targetFree target, .disconnect client,
                .free client], false)
          else
            ({ s with
                backend :=
                  { s.backend with
                    client := some client
                    target := some target
                    rumbleCallback := callback
                    notificationRegistered := true
                    created := true } }, true)

def submitState (s : State κ) (state : GamepadStateV1) (result : VigemError) : State κ × Bool :=
  match s.backend.created, s.backend.client, s.backend.target with
  | true, some client, some target =>
    let s := s.call [.update client target (toXusbReport state) result]
    if !result.success then (s.setError result, false) else (s, true)
  | _, _, _ => (s, false)

/-- `SubmitNeutralState` discards the result. -/
def submitNeutralState (s : State κ) (result : VigemError) : State κ :=
  (submitState s .neutral result).1

/-- What the driver answers to `Destroy`. -/
structure DestroyResults where
  attached : Bool := true
  update : VigemError := .none
  remove : VigemError := .none
  deriving DecidableEq, Repr

def destroy (s : State κ) (r : DestroyResults) : State κ :=
  match s.backend.client, s.backend.target with
  | none, none => { s with backend := { s.backend with created := false, rumbleCallback := none } }
  | client, target =>
    let notificationRegistered := s.backend.notificationRegistered
    let s := { s with
      backend :=
        { s.backend with
          created := false
          client := none
          target := none
          notificationRegistered := false
          rumbleCallback := none } }
    let s := match target with
      | some t => if notificationRegistered then s.call [.unregisterNotification t] else s
      | none => s
    let s := match client, target with
      | some c, some t =>
        let s := s.call [.isAttached t r.attached]
        if r.attached then s.call [.update c t {} r.update, .targetRemove c t r.remove] else s
      | _, _ => s
    let s := match target with
      | some t => s.call [.targetFree t]
      | none => s
    match client with
    | some c => s.call [.disconnect c, .free c]
    | none => s

/-! ### Runs -/

inductive Op (κ : Type) where
  | create (callback : Option κ) (results : CreateResults)
  | submitState (state : GamepadStateV1) (result : VigemError)
  | destroy (results : DestroyResults)

def after (s : State κ) : Op κ → State κ
  | .create callback results => (create s callback results).1
  | .submitState state result => (submitState s state result).1
  | .destroy results => destroy s results

/-- Any sequence of the three calls, with any answers of the driver. -/
def system (κ : Type) : System (State κ) (Op κ) where
  init := {}
  next s op := some (after s op)

end Vigem

end RemoteController
