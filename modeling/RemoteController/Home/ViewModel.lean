import RemoteController.Home.Service
import RemoteController.Lib.Transition

/-!
# `HomeViewModel` and the native sessions

The operations of `HomeViewModel` over `NativeCoreService`, with what the calls of the
repository throw in the labels.  The view model keeps an id or a flag for each native
session; a start sets it behind the call that may throw next, and takes it back when that
call throws.

* `Agree`: the ids and flags are set exactly for the sessions that are held.
* `agree_step`: when a step keeps this.
* `agree_iff`: so a run keeps it in every state exactly when each of its steps is
  `Safe`.
* `failed_start_keeps_running`: two steps that are not.
-/

namespace RemoteController

open Lib

inductive AppRole where
  | client
  | server
  deriving DecidableEq, Repr

/-- What the view model keeps of the capture, and of the bridge. -/
structure DeviceSession where
  deviceId : Option UInt32 := none
  snapshot : Option NativeState := none
  error : Option CoreException := none
  pollTimer : Bool := false
  deriving DecidableEq, Repr

namespace DeviceSession

variable (d : DeviceSession)

/-- The `try` block of a start, given what its calls come to. -/
def start (instanceId : UInt32) : Except CoreException NativeState → DeviceSession
  | .ok snapshot =>
    { deviceId := some instanceId, snapshot := some snapshot, error := none, pollTimer := true }
  | .error error => { d with deviceId := none, snapshot := none, error := some error }

def stop : DeviceSession := { d with pollTimer := false, deviceId := none, snapshot := none }

def poll : Except CoreException NativeState → DeviceSession
  | .ok snapshot =>
    { d with
      snapshot := some snapshot
      pollTimer := d.pollTimer && snapshot != .disconnected && snapshot != .faulted
      error := none }
  | .error error => { d with error := some error, pollTimer := false }

end DeviceSession

/-- `capture.deviceId` is `_capturedDeviceId`, and `bridge.deviceId` is
`_bridgedDeviceId`; the error of the capture is also that of the device list. -/
structure HomeViewModel where
  service : NativeCoreService := {}
  selectedRole : Option AppRole := none
  isLoadingInputDevices : Bool := false
  capture : DeviceSession := {}
  virtualControllerAvailable : Option Bool := none
  bridge : DeviceSession := {}
  serverAddress : List Char := "127.0.0.1".toList
  pairingKey : Nat := 0
  serverPairingCode : Option String := none
  lanClientDeviceId : Option UInt32 := none
  lanServerActive : Bool := false
  lanSessionStatus : Option NativeState := none
  lanSessionError : Option CoreException := none
  lanPollTimer : Bool := false

namespace HomeViewModel

variable (s : HomeViewModel)

/-! ### The operations -/

/-- `isWhitespace` of `String.trim()`. -/
def isWhitespace (c : Char) : Bool :=
  (9 ≤ c.toNat && c.toNat ≤ 13) || (0x2000 ≤ c.toNat && c.toNat ≤ 0x200A) ||
    c.toNat ∈ [0x20, 0x85, 0xA0, 0x1680, 0x2028, 0x2029, 0x202F, 0x205F, 0x3000, 0xFEFF]

def trim (text : List Char) : List Char :=
  ((text.dropWhile isWhitespace).reverse.dropWhile isWhitespace).reverse

/-- `code.toString().padLeft(4, '0')`. -/
def pairingLabel (code : Nat) : String :=
  "".pushn '0' (4 - (toString code).length) ++ toString code

/-- The first part of `refreshInputDevices`, up to its `await`. -/
def refreshInputDevices : HomeViewModel :=
  if s.isLoadingInputDevices || s.capture.deviceId.isSome || s.bridge.deviceId.isSome ||
      s.lanClientDeviceId.isSome then s
  else { s with isLoadingInputDevices := true, capture := { s.capture with error := none } }

/-- The rest of it, when the enumeration has ended. -/
def inputDevicesEnumerated (error : Option CoreException) : HomeViewModel :=
  { s with
    isLoadingInputDevices := false
    capture := { s.capture with error := error.or s.capture.error } }

def selectRole (role : AppRole) : HomeViewModel :=
  if s.selectedRole = some role then s
  else
    let s := { s with selectedRole := some role }
    if role = .client then s.refreshInputDevices else s

def stopInputCapture : HomeViewModel :=
  { s with service := s.service.stopInputCapture, capture := s.capture.stop }

def stopLocalBridge : HomeViewModel :=
  { s with service := s.service.stopLocalBridge, bridge := s.bridge.stop }

def stopLanClient : HomeViewModel :=
  if s.lanClientDeviceId = none then s
  else
    { s with
      lanPollTimer := false
      service := s.service.stopLanClient
      lanClientDeviceId := none
      lanSessionStatus := none }

def stopLanServer : HomeViewModel :=
  if !s.lanServerActive then s
  else
    { s with
      lanPollTimer := false
      service := s.service.stopLanServer
      lanServerActive := false
      lanSessionStatus := none }

def clearRole : HomeViewModel :=
  if s.selectedRole = none then s
  else { s.stopInputCapture.stopLocalBridge.stopLanClient.stopLanServer with selectedRole := none }

/-- What a start and the snapshot after it come to. -/
def startOutcome (started : Option CoreException × NativeCoreService) (k : SessionKind)
    (answer : Except CoreException NativeState) : Except CoreException NativeState :=
  match started.1 with
  | some error => .error error
  | none => started.2.getSnapshot k answer

def startInputCapture (instanceId : UInt32) (a : StartAnswer)
    (snapshot : Except CoreException NativeState) : HomeViewModel :=
  let s := s.stopLocalBridge.stopLanClient
  let s := if s.capture.deviceId ≠ none then s.stopInputCapture else s
  let started := s.service.startInputCapture a
  { s with
    service := started.2
    capture := s.capture.start instanceId (startOutcome started .inputCapture snapshot) }

def startLocalBridge (instanceId : UInt32) (a : StartAnswer)
    (snapshot : Except CoreException NativeState) : HomeViewModel :=
  let s := s.stopInputCapture.stopLanClient
  let s := if s.bridge.deviceId ≠ none then s.stopLocalBridge else s
  let started := s.service.startLocalBridge a
  { s with
    service := started.2
    bridge := s.bridge.start instanceId (startOutcome started .localBridge snapshot) }

/-- The `catch` block of `startLanClient`. -/
def lanClientFailed (error : CoreException) : HomeViewModel :=
  { s with lanClientDeviceId := none, lanSessionStatus := none, lanSessionError := some error }

def startLanClient (instanceId : UInt32) (a : StartAnswer)
    (status : Except CoreException NativeState) : HomeViewModel :=
  let address := trim s.serverAddress
  if address = [] then
    { s with lanSessionError := some (.argumentError "请输入电脑的 IPv4 地址或主机名。") }
  else
    let s := s.stopInputCapture.stopLocalBridge.stopLanClient
    let (thrown, service) := s.service.startLanClient a
    let s := { s with service := service }
    match thrown with
    | some error => s.lanClientFailed error
    | none =>
      let s := { s with lanClientDeviceId := some instanceId, lanServerActive := false }
      match service.getSnapshot .lanClient status with
      | .error error => s.lanClientFailed error
      | .ok status =>
        { s with lanSessionStatus := some status, lanSessionError := none, lanPollTimer := true }

/-- The `catch` block of `startLanServer`. -/
def lanServerFailed (error : CoreException) : HomeViewModel :=
  { s with lanServerActive := false, lanSessionStatus := none, lanSessionError := some error }

def startLanServer (a : StartAnswer) (code : Except CoreException Nat)
    (status : Except CoreException NativeState) : HomeViewModel :=
  if s.lanServerActive || s.virtualControllerAvailable != some true then s
  else
    let s := s.stopLanServer
    let (thrown, service) := s.service.startLanServer a
    let s := { s with service := service }
    match thrown with
    | some error => s.lanServerFailed error
    | none =>
      match code with
      | .error error => s.lanServerFailed error
      | .ok code =>
        let s := { s with
          serverPairingCode := some (pairingLabel code)
          lanServerActive := true
          lanClientDeviceId := none }
        match service.getSnapshot .lanServer status with
        | .error error => s.lanServerFailed error
        | .ok status =>
          { s with lanSessionStatus := some status, lanSessionError := none, lanPollTimer := true }

def pollInputCapture (answer : Except CoreException NativeState) : HomeViewModel :=
  { s with capture := s.capture.poll (s.service.getSnapshot .inputCapture answer) }

def pollLocalBridge (answer : Except CoreException NativeState) : HomeViewModel :=
  { s with bridge := s.bridge.poll (s.service.getSnapshot .localBridge answer) }

def pollLanSession (answer : Except CoreException NativeState) : HomeViewModel :=
  let k := if s.lanClientDeviceId ≠ none then SessionKind.lanClient else .lanServer
  match s.service.getSnapshot k answer with
  | .ok status =>
    { s with
      lanSessionStatus := some status
      lanSessionError := none
      lanPollTimer := s.lanPollTimer && status != .disconnected && status != .faulted }
  | .error error => { s with lanSessionError := some error, lanPollTimer := false }

def setServerAddress (value : List Char) : HomeViewModel := { s with serverAddress := value }

/-- `setPairingKey`, given the number that `int.tryParse` finds. -/
def setPairingKey (parsed : Option Int) : HomeViewModel :=
  match parsed with
  | none => s
  | some parsed =>
    if parsed < 0 ∨ parsed > 9999 then s else { s with pairingKey := parsed.toNat }

/-- `refreshVirtualControllerRuntime`; a call that throws leaves the runtime as it is. -/
def refreshVirtualControllerRuntime (available : Except CoreException Bool) : HomeViewModel :=
  match available with
  | .ok available => { s with virtualControllerAvailable := some available }
  | .error _ => s

/-! ### Runs -/

inductive Label where
  | selectRole (role : AppRole)
  | inputDevicesEnumerated (error : Option CoreException)
  | clearRole
  | startInputCapture (instanceId : UInt32) (a : StartAnswer)
      (snapshot : Except CoreException NativeState)
  | stopInputCapture
  | startLocalBridge (instanceId : UInt32) (a : StartAnswer)
      (snapshot : Except CoreException NativeState)
  | stopLocalBridge
  | startLanClient (instanceId : UInt32) (a : StartAnswer)
      (status : Except CoreException NativeState)
  | stopLanClient
  | startLanServer (a : StartAnswer) (code : Except CoreException Nat)
      (status : Except CoreException NativeState)
  | stopLanServer
  | pollInputCapture (answer : Except CoreException NativeState)
  | pollLocalBridge (answer : Except CoreException NativeState)
  | pollLanSession (answer : Except CoreException NativeState)
  | refreshInputDevices
  | setServerAddress (value : List Char)
  | setPairingKey (parsed : Option Int)
  | refreshVirtualControllerRuntime (available : Except CoreException Bool)

/-- A poll comes while its timer runs, and the end of an enumeration while there is
one. -/
def next : Label → Option HomeViewModel
  | .selectRole role => some (s.selectRole role)
  | .inputDevicesEnumerated error =>
    if s.isLoadingInputDevices then some (s.inputDevicesEnumerated error) else none
  | .clearRole => some s.clearRole
  | .startInputCapture instanceId a snapshot => some (s.startInputCapture instanceId a snapshot)
  | .stopInputCapture => some s.stopInputCapture
  | .startLocalBridge instanceId a snapshot => some (s.startLocalBridge instanceId a snapshot)
  | .stopLocalBridge => some s.stopLocalBridge
  | .startLanClient instanceId a status => some (s.startLanClient instanceId a status)
  | .stopLanClient => some s.stopLanClient
  | .startLanServer a code status => some (s.startLanServer a code status)
  | .stopLanServer => some s.stopLanServer
  | .pollInputCapture answer =>
    if s.capture.pollTimer then some (s.pollInputCapture answer) else none
  | .pollLocalBridge answer =>
    if s.bridge.pollTimer then some (s.pollLocalBridge answer) else none
  | .pollLanSession answer => if s.lanPollTimer then some (s.pollLanSession answer) else none
  | .refreshInputDevices => some s.refreshInputDevices
  | .setServerAddress value => some (s.setServerAddress value)
  | .setPairingKey parsed => some (s.setPairingKey parsed)
  | .refreshVirtualControllerRuntime available =>
    some (s.refreshVirtualControllerRuntime available)

/-- From the moment the view model exists; `available` is what `initialize` found of the
virtual controller. -/
def system (available : Option Bool) : System HomeViewModel Label where
  init := { virtualControllerAvailable := available }
  next := next

/-! ### The statement -/

/-- The id or the flag of the session is set. -/
def shows : SessionKind → Bool
  | .inputCapture => s.capture.deviceId.isSome
  | .localBridge => s.bridge.deviceId.isSome
  | .lanClient => s.lanClientDeviceId.isSome
  | .lanServer => s.lanServerActive

def running (k : SessionKind) : Bool := (s.service.handle k).isSome

/-- **The view model and the service agree on what is running.** -/
def Agree : Prop := ∀ k, s.shows k = s.running k

/-- Where a step keeps the agreement: a session that has started is not taken back, the
starts that fail find no LAN server that they close, and a LAN server starts beside
nothing else. -/
def Safe : Label → Prop
  | .startInputCapture _ a snapshot | .startLocalBridge _ a snapshot =>
    a.ok = true → snapshot.isOk = true
  | .startLanClient _ a status =>
    trim s.serverAddress = [] ∨
      if a.ok then status.isOk = true else s.lanServerActive = false
  | .startLanServer a code status =>
    (s.lanServerActive = true ∨ s.virtualControllerAvailable ≠ some true) ∨
      s.capture.deviceId = none ∧ s.bridge.deviceId = none ∧
        if a.ok then code.isOk = true ∧ status.isOk = true else s.lanClientDeviceId = none
  | _ => True

variable {s} {t u : HomeViewModel}

/-! ### Stops -/

/-- The operation stops the sessions `ks`, and does nothing else to a session. -/
structure Stopped (s t : HomeViewModel) (ks : List SessionKind) : Prop where
  shows : ∀ k, t.shows k = if k ∈ ks then false else s.shows k
  running : ∀ k, k ∉ ks → t.running k = s.running k
  agree : s.Agree → t.Agree

theorem Stopped.trans {ks ks' : List SessionKind} (h : Stopped s t ks) (h' : Stopped t u ks') :
    Stopped s u (ks ++ ks') where
  shows k := by
    rw [h'.shows, h.shows]
    by_cases hk : k ∈ ks' <;> by_cases hk' : k ∈ ks <;> simp [hk, hk']
  running k hk := by
    rw [List.mem_append, not_or] at hk
    rw [h'.running k hk.2, h.running k hk.1]
  agree hs := h'.agree (h.agree hs)

/-- An unguarded stop. -/
theorem Stopped.of_stop {k : SessionKind} (hservice : t.service = s.service.stop k)
    (hshows : ∀ k', t.shows k' = if k' = k then false else s.shows k') : Stopped s t [k] := by
  have hrunning : ∀ k', t.running k' = if k' = k then false else s.running k' := by
    intro k'
    show (t.service.handle k').isSome = if k' = k then false else (s.service.handle k').isSome
    rw [hservice, NativeCoreService.stop_handle]
    split <;> rfl
  refine ⟨?_, ?_, ?_⟩
  · intro k'
    rw [hshows]
    exact if_congr List.mem_singleton.symm rfl rfl
  · intro k' hk
    rw [hrunning, if_neg (fun he => hk (List.mem_singleton.mpr he))]
  · intro hs k'
    rw [hshows, hrunning, hs]

/-- A stop that its guard leaves out. -/
theorem Stopped.of_not_shows {k : SessionKind} (h : s.shows k = false) : Stopped s s [k] where
  shows k' := by
    by_cases hk : k' = k
    · rw [hk, h, if_pos List.mem_cons_self]
    · rw [if_neg (fun hm => hk (List.mem_singleton.mp hm))]
  running _ _ := rfl
  agree hs := hs

theorem stopInputCapture_stopped (s : HomeViewModel) :
    Stopped s s.stopInputCapture [.inputCapture] := by
  refine .of_stop rfl ?_
  intro k
  cases k <;> rfl

theorem stopLocalBridge_stopped (s : HomeViewModel) :
    Stopped s s.stopLocalBridge [.localBridge] := by
  refine .of_stop rfl ?_
  intro k
  cases k <;> rfl

theorem stopLanClient_stopped (s : HomeViewModel) : Stopped s s.stopLanClient [.lanClient] := by
  rw [stopLanClient]
  split
  · rename_i hid
    refine .of_not_shows ?_
    rw [shows, hid]
    rfl
  · refine .of_stop rfl ?_
    intro k
    cases k <;> rfl

theorem stopLanServer_stopped (s : HomeViewModel) : Stopped s s.stopLanServer [.lanServer] := by
  rw [stopLanServer]
  split
  · rename_i hactive
    exact .of_not_shows (by simpa [shows] using hactive)
  · refine .of_stop rfl ?_
    intro k
    cases k <;> rfl

theorem clearRole_agree (h : s.Agree) : s.clearRole.Agree := by
  rw [clearRole]
  split
  · exact h
  · have hall := (((stopInputCapture_stopped s).trans (stopLocalBridge_stopped _)).trans
      (stopLanClient_stopped _)).trans (stopLanServer_stopped _)
    intro k
    have := hall.agree h k
    cases k <;> exact this

/-- The sessions that `startInputCapture` stops first. -/
theorem beforeCapture_stopped (s : HomeViewModel) :
    Stopped s
      (if s.stopLocalBridge.stopLanClient.capture.deviceId ≠ none then
        s.stopLocalBridge.stopLanClient.stopInputCapture else s.stopLocalBridge.stopLanClient)
      [.localBridge, .lanClient, .inputCapture] := by
  refine ((stopLocalBridge_stopped s).trans (stopLanClient_stopped _)).trans ?_
  split
  · exact stopInputCapture_stopped _
  · rename_i hid
    refine .of_not_shows ?_
    rw [shows, not_not.mp hid]
    rfl

/-- The sessions that `startLocalBridge` stops first. -/
theorem beforeBridge_stopped (s : HomeViewModel) :
    Stopped s
      (if s.stopInputCapture.stopLanClient.bridge.deviceId ≠ none then
        s.stopInputCapture.stopLanClient.stopLocalBridge else s.stopInputCapture.stopLanClient)
      [.inputCapture, .lanClient, .localBridge] := by
  refine ((stopInputCapture_stopped s).trans (stopLanClient_stopped _)).trans ?_
  split
  · exact stopLocalBridge_stopped _
  · rename_i hid
    refine .of_not_shows ?_
    rw [shows, not_not.mp hid]
    rfl

/-! ### Starts -/

/-- A start throws nothing exactly when it is `ok`, and then there is a session to ask. -/
theorem startWith_cases (service : NativeCoreService) {k : SessionKind}
    {others : List SessionKind} (hk : k ∈ others) (a : StartAnswer) :
    (∃ error, (service.startWith k others a).1 = some error ∧ a.ok = false) ∨
      (service.startWith k others a).1 = none ∧ a.ok = true ∧
        ∀ answer, (service.startWith k others a).2.getSnapshot k answer = answer := by
  have hfst := service.startWith_fst k others a
  have hsnd := service.startWith_handle k others hk a k
  rw [if_pos rfl] at hsnd
  cases hthrown : (service.startWith k others a).1 with
  | some error =>
    rw [hthrown] at hfst
    exact Or.inl ⟨error, rfl, hfst.symm⟩
  | none =>
    rw [hthrown] at hfst
    rw [← hfst] at hsnd
    obtain ⟨n, hn⟩ := Option.isSome_iff_exists.mp hsnd
    refine Or.inr ⟨rfl, hfst.symm, fun answer => ?_⟩
    simp only [NativeCoreService.getSnapshot, hn]

theorem startOutcome_isOk (service : NativeCoreService) {k : SessionKind}
    {others : List SessionKind} (hk : k ∈ others) (a : StartAnswer)
    (answer : Except CoreException NativeState) :
    (startOutcome (service.startWith k others a) k answer).isOk = (a.ok && answer.isOk) := by
  rw [startOutcome]
  rcases startWith_cases service hk a with ⟨error, hthrown, hok⟩ | ⟨hthrown, hok, hanswer⟩
  · rw [hthrown, hok]
    rfl
  · rw [hthrown, hok]
    simp only [hanswer, Bool.true_and]

theorem DeviceSession_start_isSome (d : DeviceSession) (instanceId : UInt32)
    (outcome : Except CoreException NativeState) :
    (d.start instanceId outcome).deviceId.isSome = outcome.isOk := by
  cases outcome <;> rfl

/-- A start that stops what the view model has stopped before it. -/
theorem agree_iff_of_start {b : HomeViewModel} {k : SessionKind} {ks : List SessionKind}
    {ok shown : Bool} (others : List SessionKind) (h : s.Agree) (hb : Stopped s b ks)
    (hothers : ∀ k' ∈ others, k' ∈ ks)
    (hrunning : ∀ k', t.running k' =
      if k' = k then ok else if k' ∈ others then false else b.running k')
    (hshows : ∀ k', t.shows k' = if k' = k then shown else b.shows k') :
    t.Agree ↔ shown = ok := by
  constructor
  · intro ht
    have := ht k
    rwa [hrunning, hshows, if_pos rfl, if_pos rfl] at this
  · intro hok k'
    rw [hrunning, hshows]
    split
    · exact hok
    · split
      · rename_i hmem
        rw [hb.shows, if_pos (hothers k' hmem)]
      · exact hb.agree h k'

theorem and_eq_left_iff (a b : Bool) : (a && b) = a ↔ (a = true → b = true) := by
  cases a <;> cases b <;> decide

theorem startInputCapture_agree_iff (h : s.Agree) (instanceId : UInt32) (a : StartAnswer)
    (snapshot : Except CoreException NativeState) :
    (s.startInputCapture instanceId a snapshot).Agree ↔ (a.ok = true → snapshot.isOk = true) := by
  have hb := beforeCapture_stopped s
  rw [startInputCapture]
  generalize (if s.stopLocalBridge.stopLanClient.capture.deviceId ≠ none then
    s.stopLocalBridge.stopLanClient.stopInputCapture else s.stopLocalBridge.stopLanClient) = b at hb
  rw [← and_eq_left_iff]
  refine agree_iff_of_start (k := .inputCapture) [.lanClient, .localBridge, .inputCapture] h hb
    (by simp) ?_ ?_
  · exact b.service.startWith_handle .inputCapture _ (by simp) a
  · intro k
    cases k with
    | inputCapture =>
      show (DeviceSession.start _ _ _).deviceId.isSome = _
      rw [DeviceSession_start_isSome]
      exact startOutcome_isOk b.service (by simp) a snapshot
    | localBridge | lanClient | lanServer => rfl

theorem startLocalBridge_agree_iff (h : s.Agree) (instanceId : UInt32) (a : StartAnswer)
    (snapshot : Except CoreException NativeState) :
    (s.startLocalBridge instanceId a snapshot).Agree ↔ (a.ok = true → snapshot.isOk = true) := by
  have hb := beforeBridge_stopped s
  rw [startLocalBridge]
  generalize (if s.stopInputCapture.stopLanClient.bridge.deviceId ≠ none then
    s.stopInputCapture.stopLanClient.stopLocalBridge
    else s.stopInputCapture.stopLanClient) = b at hb
  rw [← and_eq_left_iff]
  refine agree_iff_of_start (k := .localBridge) [.lanClient, .inputCapture, .localBridge] h hb
    (by simp) ?_ ?_
  · exact b.service.startWith_handle .localBridge _ (by simp) a
  · intro k
    cases k with
    | localBridge =>
      show (DeviceSession.start _ _ _).deviceId.isSome = _
      rw [DeviceSession_start_isSome]
      exact startOutcome_isOk b.service (by simp) a snapshot
    | inputCapture | lanClient | lanServer => rfl

/-- The start of a LAN session leaves no other session running. -/
theorem startWith_running (service : NativeCoreService) {k : SessionKind}
    {others : List SessionKind} (hall : ∀ k', k' ∈ others) (a : StartAnswer) (k' : SessionKind) :
    ((service.startWith k others a).2.handle k').isSome = if k' = k then a.ok else false := by
  rw [service.startWith_handle k others (hall k) a k', if_pos (hall k')]

theorem startLanClient_service (hr : trim s.serverAddress ≠ []) (instanceId : UInt32)
    (a : StartAnswer) (status : Except CoreException NativeState) :
    (s.startLanClient instanceId a status).service =
      (s.stopInputCapture.stopLocalBridge.stopLanClient.service.startLanClient a).2 := by
  simp only [startLanClient, if_neg hr]
  split
  · rfl
  · split <;> rfl

theorem startLanClient_running (hr : trim s.serverAddress ≠ []) (instanceId : UInt32)
    (a : StartAnswer) (status : Except CoreException NativeState) (k : SessionKind) :
    (s.startLanClient instanceId a status).running k = if k = .lanClient then a.ok else false := by
  rw [running, startLanClient_service hr]
  exact startWith_running _ (by intro k; cases k <;> simp) a k

theorem startLanClient_shows (hr : trim s.serverAddress ≠ []) (instanceId : UInt32)
    (a : StartAnswer) (status : Except CoreException NativeState) (k : SessionKind) :
    (s.startLanClient instanceId a status).shows k =
      match k with
      | .inputCapture | .localBridge => false
      | .lanClient => a.ok && status.isOk
      | .lanServer => if a.ok then false else s.lanServerActive := by
  have hb := ((stopInputCapture_stopped s).trans (stopLocalBridge_stopped _)).trans
    (stopLanClient_stopped _)
  simp only [startLanClient, if_neg hr]
  generalize s.stopInputCapture.stopLocalBridge.stopLanClient = b at hb ⊢
  have hcapture : b.capture.deviceId.isSome = false := hb.shows .inputCapture
  have hbridge : b.bridge.deviceId.isSome = false := hb.shows .localBridge
  have hserver : b.lanServerActive = s.lanServerActive := hb.shows .lanServer
  rw [NativeCoreService.startLanClient]
  rcases startWith_cases b.service (k := .lanClient)
    (by simp : _ ∈ [.inputCapture, .localBridge, .lanServer, .lanClient]) a with
    ⟨error, hthrown, hok⟩ | ⟨hthrown, hok, hanswer⟩
  · rw [hthrown, hok]
    cases k with
    | inputCapture => exact hcapture
    | localBridge => exact hbridge
    | lanClient => rfl
    | lanServer => exact hserver
  · rw [hthrown, hok]
    simp only [hanswer]
    cases status with
    | error error =>
      cases k with
      | inputCapture => exact hcapture
      | localBridge => exact hbridge
      | lanClient | lanServer => rfl
    | ok status =>
      cases k with
      | inputCapture => exact hcapture
      | localBridge => exact hbridge
      | lanClient | lanServer => rfl

theorem startLanClient_agree_iff (hr : trim s.serverAddress ≠ []) (instanceId : UInt32)
    (a : StartAnswer) (status : Except CoreException NativeState) :
    (s.startLanClient instanceId a status).Agree ↔
      if a.ok then status.isOk = true else s.lanServerActive = false := by
  constructor
  · intro ht
    have heq : ∀ k, _ = _ := fun k => (startLanClient_shows hr instanceId a status k).symm.trans
      ((ht k).trans (startLanClient_running hr instanceId a status k))
    have hclient : (a.ok && status.isOk) = a.ok := heq .lanClient
    have hserver : (if a.ok then false else s.lanServerActive) = false := heq .lanServer
    cases hok : a.ok with
    | false => simpa [hok] using hserver
    | true => simpa [hok] using hclient
  · intro hsafe k
    rw [startLanClient_shows hr, startLanClient_running hr]
    cases hok : a.ok with
    | false =>
      rw [hok] at hsafe
      cases k with
      | lanServer => exact hsafe
      | inputCapture | localBridge | lanClient => rfl
    | true =>
      rw [hok] at hsafe
      cases k with
      | lanClient => exact hsafe
      | inputCapture | localBridge | lanServer => rfl

/-- `startLanServer` goes past its first test. -/
def CanStartServer (s : HomeViewModel) : Prop :=
  s.lanServerActive = false ∧ s.virtualControllerAvailable = some true

theorem startLanServer_of_not (hc : ¬ CanStartServer s) (a : StartAnswer)
    (code : Except CoreException Nat) (status : Except CoreException NativeState) :
    s.startLanServer a code status = s := by
  refine if_pos ?_
  rw [CanStartServer, not_and] at hc
  cases hactive : s.lanServerActive with
  | true => rfl
  | false => exact bne_iff_ne.mpr (hc hactive)

theorem CanStartServer.guard (hc : CanStartServer s) :
    ¬ (s.lanServerActive || s.virtualControllerAvailable != some true) = true := by
  simp [hc.1, hc.2]

/-- Nothing is left to stop first. -/
theorem CanStartServer.stopLanServer (hc : CanStartServer s) : s.stopLanServer = s :=
  if_pos (by simp [hc.1])

theorem startLanServer_service (hc : CanStartServer s) (a : StartAnswer)
    (code : Except CoreException Nat) (status : Except CoreException NativeState) :
    (s.startLanServer a code status).service = (s.service.startLanServer a).2 := by
  simp only [startLanServer, if_neg hc.guard, hc.stopLanServer]
  split
  · rfl
  · split
    · rfl
    · split <;> rfl

theorem startLanServer_of (hc : CanStartServer s) (a : StartAnswer)
    (code : Except CoreException Nat) (status : Except CoreException NativeState) :
    (∀ k, (s.startLanServer a code status).running k = if k = .lanServer then a.ok else false) ∧
    ∀ k, (s.startLanServer a code status).shows k =
      match k with
      | .inputCapture | .localBridge => s.shows k
      | .lanClient => if a.ok && code.isOk then false else s.lanClientDeviceId.isSome
      | .lanServer => a.ok && code.isOk && status.isOk := by
  constructor
  · intro k
    rw [running, startLanServer_service hc]
    exact startWith_running _ (by intro k; cases k <;> simp) a k
  · intro k
    simp only [startLanServer, if_neg hc.guard, hc.stopLanServer, NativeCoreService.startLanServer]
    rcases startWith_cases s.service (k := .lanServer)
      (by simp : _ ∈ [.inputCapture, .localBridge, .lanClient, .lanServer]) a with
      ⟨error, hthrown, hok⟩ | ⟨hthrown, hok, hanswer⟩
    · rw [hthrown, hok]
      cases k <;> rfl
    · rw [hthrown, hok]
      simp only [hanswer]
      cases code with
      | error error => cases k <;> rfl
      | ok code =>
        cases status with
        | error error => cases k <;> rfl
        | ok status => cases k <;> rfl

theorem startLanServer_agree_iff (h : s.Agree) (a : StartAnswer) (code : Except CoreException Nat)
    (status : Except CoreException NativeState) :
    (s.startLanServer a code status).Agree ↔ s.Safe (.startLanServer a code status) := by
  by_cases hc : CanStartServer s
  · obtain ⟨hrunning, hshows⟩ := startLanServer_of hc a code status
    have hsafe : s.Safe (.startLanServer a code status) ↔
        s.capture.deviceId = none ∧ s.bridge.deviceId = none ∧
          if a.ok then code.isOk = true ∧ status.isOk = true else s.lanClientDeviceId = none := by
      rw [Safe, or_iff_right]
      rintro (hactive | hruntime)
      · rw [hc.1] at hactive
        cases hactive
      · exact hruntime hc.2
    rw [hsafe]
    constructor
    · intro ht
      have heq : ∀ k, _ = _ := fun k => (hshows k).symm.trans ((ht k).trans (hrunning k))
      have hcapture : s.capture.deviceId.isSome = false := heq .inputCapture
      have hbridge : s.bridge.deviceId.isSome = false := heq .localBridge
      have hclient : (if a.ok && code.isOk then false else s.lanClientDeviceId.isSome) = false :=
        heq .lanClient
      have hserver : (a.ok && code.isOk && status.isOk) = a.ok := heq .lanServer
      refine ⟨by simpa using hcapture, by simpa using hbridge, ?_⟩
      cases hok : a.ok with
      | false => simpa [hok] using hclient
      | true => simpa [hok] using hserver
    · rintro ⟨hcapture, hbridge, hrest⟩ k
      rw [hrunning, hshows]
      cases k with
      | inputCapture => simp [shows, hcapture]
      | localBridge => simp [shows, hbridge]
      | lanClient =>
        cases hok : a.ok with
        | false =>
          rw [hok] at hrest
          exact congrArg Option.isSome hrest
        | true =>
          rw [hok] at hrest
          rw [hrest.1]
          rfl
      | lanServer =>
        cases hok : a.ok with
        | false => rfl
        | true =>
          rw [hok] at hrest
          rw [hrest.1, hrest.2]
          rfl
  · rw [startLanServer_of_not hc]
    refine iff_of_true h (Or.inl ?_)
    rw [CanStartServer] at hc
    cases hactive : s.lanServerActive with
    | true => exact Or.inl rfl
    | false => exact Or.inr fun hruntime => hc ⟨hactive, hruntime⟩

/-! ### Steps and runs -/

/-- The operation leaves the sessions alone, and what is shown of them. -/
structure Quiet (s t : HomeViewModel) : Prop where
  service : t.service = s.service
  shows : ∀ k, t.shows k = s.shows k

theorem Quiet.agree (hq : Quiet s t) (h : s.Agree) : t.Agree := by
  intro k
  rw [hq.shows, h k, running, running, hq.service]

theorem DeviceSession_poll_deviceId (d : DeviceSession)
    (answer : Except CoreException NativeState) : (d.poll answer).deviceId = d.deviceId := by
  cases answer <;> rfl

theorem refreshInputDevices_quiet (s : HomeViewModel) : Quiet s s.refreshInputDevices := by
  rw [refreshInputDevices]
  split
  · exact ⟨rfl, fun _ => rfl⟩
  · exact ⟨rfl, fun k => by cases k <;> rfl⟩

theorem selectRole_quiet (s : HomeViewModel) (role : AppRole) : Quiet s (s.selectRole role) := by
  rw [selectRole]
  split
  · exact ⟨rfl, fun _ => rfl⟩
  · dsimp only
    split
    · have hq := refreshInputDevices_quiet { s with selectedRole := some role }
      exact ⟨hq.service, fun k => (hq.shows k).trans (by cases k <;> rfl)⟩
    · exact ⟨rfl, fun k => by cases k <;> rfl⟩

theorem pollLanSession_quiet (s : HomeViewModel) (answer : Except CoreException NativeState) :
    Quiet s (s.pollLanSession answer) := by
  rw [pollLanSession]
  split
  · exact ⟨rfl, fun k => by cases k <;> rfl⟩
  · exact ⟨rfl, fun k => by cases k <;> rfl⟩

/-- The operations that start or stop a session. -/
def Label.ofSession : Label → Bool
  | .clearRole | .startInputCapture _ _ _ | .stopInputCapture | .startLocalBridge _ _ _
  | .stopLocalBridge | .startLanClient _ _ _ | .stopLanClient | .startLanServer _ _ _
  | .stopLanServer => true
  | _ => false

theorem quiet_step {a : Label} (ha : a.ofSession = false) (hn : s.next a = some t) :
    Quiet s t := by
  cases a with
  | selectRole role =>
    obtain rfl := Option.some.inj hn
    exact selectRole_quiet s role
  | refreshInputDevices =>
    obtain rfl := Option.some.inj hn
    exact refreshInputDevices_quiet s
  | inputDevicesEnumerated error =>
    simp only [next] at hn
    split at hn
    · obtain rfl := Option.some.inj hn
      exact ⟨rfl, fun k => by cases k <;> rfl⟩
    · cases hn
  | pollInputCapture answer =>
    simp only [next] at hn
    split at hn
    · obtain rfl := Option.some.inj hn
      refine ⟨rfl, fun k => ?_⟩
      cases k with
      | inputCapture => exact congrArg Option.isSome (DeviceSession_poll_deviceId _ _)
      | localBridge | lanClient | lanServer => rfl
    · cases hn
  | pollLocalBridge answer =>
    simp only [next] at hn
    split at hn
    · obtain rfl := Option.some.inj hn
      refine ⟨rfl, fun k => ?_⟩
      cases k with
      | localBridge => exact congrArg Option.isSome (DeviceSession_poll_deviceId _ _)
      | inputCapture | lanClient | lanServer => rfl
    · cases hn
  | pollLanSession answer =>
    simp only [next] at hn
    split at hn
    · obtain rfl := Option.some.inj hn
      exact pollLanSession_quiet s answer
    · cases hn
  | setServerAddress value =>
    obtain rfl := Option.some.inj hn
    exact ⟨rfl, fun k => by cases k <;> rfl⟩
  | setPairingKey parsed =>
    obtain rfl := Option.some.inj hn
    cases parsed with
    | none => exact ⟨rfl, fun _ => rfl⟩
    | some parsed =>
      show Quiet s (if _ then _ else _)
      split
      · exact ⟨rfl, fun _ => rfl⟩
      · exact ⟨rfl, fun k => by cases k <;> rfl⟩
  | refreshVirtualControllerRuntime available =>
    obtain rfl := Option.some.inj hn
    cases available with
    | error error => exact ⟨rfl, fun _ => rfl⟩
    | ok available => exact ⟨rfl, fun k => by cases k <;> rfl⟩
  | clearRole | startInputCapture | stopInputCapture | startLocalBridge | stopLocalBridge
  | startLanClient | stopLanClient | startLanServer | stopLanServer => cases ha

/-- **When a step keeps the agreement.** -/
theorem agree_step (h : s.Agree) {a : Label} (hn : s.next a = some t) : t.Agree ↔ s.Safe a := by
  cases a with
  | startInputCapture instanceId a snapshot =>
    obtain rfl := Option.some.inj hn
    exact startInputCapture_agree_iff h instanceId a snapshot
  | startLocalBridge instanceId a snapshot =>
    obtain rfl := Option.some.inj hn
    exact startLocalBridge_agree_iff h instanceId a snapshot
  | startLanClient instanceId a status =>
    obtain rfl := Option.some.inj hn
    by_cases hr : trim s.serverAddress = []
    · have hsame : (s.startLanClient instanceId a status).Agree := by
        rw [startLanClient]
        dsimp only
        rw [if_pos hr]
        exact Quiet.agree ⟨rfl, fun k => by cases k <;> rfl⟩ h
      exact iff_of_true hsame (Or.inl hr)
    · rw [startLanClient_agree_iff hr, Safe, or_iff_right hr]
  | startLanServer a code status =>
    obtain rfl := Option.some.inj hn
    exact startLanServer_agree_iff h a code status
  | stopInputCapture =>
    obtain rfl := Option.some.inj hn
    exact iff_of_true ((stopInputCapture_stopped s).agree h) trivial
  | stopLocalBridge =>
    obtain rfl := Option.some.inj hn
    exact iff_of_true ((stopLocalBridge_stopped s).agree h) trivial
  | stopLanClient =>
    obtain rfl := Option.some.inj hn
    exact iff_of_true ((stopLanClient_stopped s).agree h) trivial
  | stopLanServer =>
    obtain rfl := Option.some.inj hn
    exact iff_of_true ((stopLanServer_stopped s).agree h) trivial
  | clearRole =>
    obtain rfl := Option.some.inj hn
    exact iff_of_true (clearRole_agree h) trivial
  | selectRole | inputDevicesEnumerated | pollInputCapture | pollLocalBridge | pollLanSession
  | refreshInputDevices | setServerAddress | setPairingKey | refreshVirtualControllerRuntime =>
    exact iff_of_true ((quiet_step rfl hn).agree h) trivial

/-! ### No session is lost -/

/-- Every native session that is alive is held by the service. -/
def Tracked (s : HomeViewModel) : Prop := s.service.Tracked

theorem Tracked.stopInputCapture (h : s.Tracked) : s.stopInputCapture.Tracked :=
  NativeCoreService.Tracked.stop h _

theorem Tracked.stopLocalBridge (h : s.Tracked) : s.stopLocalBridge.Tracked :=
  NativeCoreService.Tracked.stop h _

theorem Tracked.stopLanClient (h : s.Tracked) : s.stopLanClient.Tracked := by
  rw [HomeViewModel.stopLanClient]
  split
  · exact h
  · exact NativeCoreService.Tracked.stop h _

theorem Tracked.stopLanServer (h : s.Tracked) : s.stopLanServer.Tracked := by
  rw [HomeViewModel.stopLanServer]
  split
  · exact h
  · exact NativeCoreService.Tracked.stop h _

theorem Tracked.clearRole (h : s.Tracked) : s.clearRole.Tracked := by
  rw [HomeViewModel.clearRole]
  split
  · exact h
  · exact h.stopInputCapture.stopLocalBridge.stopLanClient.stopLanServer

theorem Tracked.startInputCapture (h : s.Tracked) (instanceId : UInt32) (a : StartAnswer)
    (snapshot : Except CoreException NativeState) :
    (s.startInputCapture instanceId a snapshot).Tracked := by
  rw [HomeViewModel.startInputCapture]
  refine NativeCoreService.Tracked.startWith ?_ (by simp) a
  split
  · exact h.stopLocalBridge.stopLanClient.stopInputCapture
  · exact h.stopLocalBridge.stopLanClient

theorem Tracked.startLocalBridge (h : s.Tracked) (instanceId : UInt32) (a : StartAnswer)
    (snapshot : Except CoreException NativeState) :
    (s.startLocalBridge instanceId a snapshot).Tracked := by
  rw [HomeViewModel.startLocalBridge]
  refine NativeCoreService.Tracked.startWith ?_ (by simp) a
  split
  · exact h.stopInputCapture.stopLanClient.stopLocalBridge
  · exact h.stopInputCapture.stopLanClient

theorem Tracked.startLanClient (h : s.Tracked) (instanceId : UInt32) (a : StartAnswer)
    (status : Except CoreException NativeState) :
    (s.startLanClient instanceId a status).Tracked := by
  by_cases hr : trim s.serverAddress = []
  · rw [HomeViewModel.startLanClient]
    dsimp only
    rw [if_pos hr]
    exact h
  · rw [Tracked, startLanClient_service hr]
    exact NativeCoreService.Tracked.startWith h.stopInputCapture.stopLocalBridge.stopLanClient
      (by simp) a

theorem Tracked.startLanServer (h : s.Tracked) (a : StartAnswer) (code : Except CoreException Nat)
    (status : Except CoreException NativeState) : (s.startLanServer a code status).Tracked := by
  by_cases hc : CanStartServer s
  · rw [Tracked, startLanServer_service hc]
    exact NativeCoreService.Tracked.startWith h (by simp) a
  · rw [startLanServer_of_not hc]
    exact h

theorem Tracked.step (h : s.Tracked) {a : Label} (hn : s.next a = some t) : t.Tracked := by
  cases a with
  | clearRole =>
    obtain rfl := Option.some.inj hn
    exact h.clearRole
  | startInputCapture instanceId a snapshot =>
    obtain rfl := Option.some.inj hn
    exact h.startInputCapture instanceId a snapshot
  | stopInputCapture =>
    obtain rfl := Option.some.inj hn
    exact h.stopInputCapture
  | startLocalBridge instanceId a snapshot =>
    obtain rfl := Option.some.inj hn
    exact h.startLocalBridge instanceId a snapshot
  | stopLocalBridge =>
    obtain rfl := Option.some.inj hn
    exact h.stopLocalBridge
  | startLanClient instanceId a status =>
    obtain rfl := Option.some.inj hn
    exact h.startLanClient instanceId a status
  | stopLanClient =>
    obtain rfl := Option.some.inj hn
    exact h.stopLanClient
  | startLanServer a code status =>
    obtain rfl := Option.some.inj hn
    exact h.startLanServer a code status
  | stopLanServer =>
    obtain rfl := Option.some.inj hn
    exact h.stopLanServer
  | selectRole | inputDevicesEnumerated | pollInputCapture | pollLocalBridge | pollLanSession
  | refreshInputDevices | setServerAddress | setPairingKey | refreshVirtualControllerRuntime =>
    rw [Tracked, (quiet_step rfl hn).service]
    exact h

variable {available : Option Bool}

theorem tracked_run {l : List Label} (h : (system available).Run l s) : s.Tracked := by
  refine System.Run.invariant (P := fun _ s => s.Tracked) NativeCoreService.tracked_init ?_ h
  intro l s a t _ ih hn
  exact ih.step hn

theorem agree_init (available : Option Bool) : (system available).init.Agree := by
  intro k
  cases k <;> rfl

/-- A stop reaches a session that is shown. -/
theorem stop_reaches (h : s.Agree) :
    s.stopInputCapture.running .inputCapture = false ∧
    s.stopLocalBridge.running .localBridge = false ∧
    s.stopLanClient.running .lanClient = false ∧
    s.stopLanServer.running .lanServer = false := by
  have hc := stopInputCapture_stopped s
  have hb := stopLocalBridge_stopped s
  have hl := stopLanClient_stopped s
  have hs := stopLanServer_stopped s
  exact ⟨(hc.agree h _).symm.trans (hc.shows .inputCapture),
    (hb.agree h _).symm.trans (hb.shows .localBridge),
    (hl.agree h _).symm.trans (hl.shows .lanClient),
    (hs.agree h _).symm.trans (hs.shows .lanServer)⟩

/-- **When the view model and the service agree on what is running**: in every state of
a run exactly when each of its steps is safe.  Then each stop reaches a running session;
and safe or not, a native session that is alive is one that the service holds. -/
theorem agree_iff {l : List Label} (h : (system available).Run l s) :
    ((system available).Always Agree l ↔ (system available).RunWith Safe l s) ∧
    ((system available).Always Agree l →
      s.stopInputCapture.running .inputCapture = false ∧
      s.stopLocalBridge.running .localBridge = false ∧
      s.stopLanClient.running .lanClient = false ∧
      s.stopLanServer.running .lanServer = false) ∧
    ∀ n, n ∈ s.service.alive ↔ ∃ k, s.service.handle k = some n := by
  refine ⟨?_, ?_, (tracked_run h).alive⟩
  · refine System.always_iff_runWith (I := Agree) (agree_init available) ?_ (fun _ hs => hs) ?_ h
    · intro s a t hs hok hn
      exact (agree_step hs hn).mpr hok
    · intro s a t hs hn ht
      exact (agree_step hs hn).mp ht
  · intro hall
    exact stop_reaches (hall l [] s (List.append_nil l).symm h)

/-! ### Three runs -/

instance (s : HomeViewModel) : (a : Label) → Decidable (s.Safe a)
  | .startInputCapture _ a snapshot | .startLocalBridge _ a snapshot =>
    inferInstanceAs (Decidable (a.ok = true → snapshot.isOk = true))
  | .startLanClient _ a status =>
    inferInstanceAs (Decidable (trim s.serverAddress = [] ∨
      if a.ok then status.isOk = true else s.lanServerActive = false))
  | .startLanServer a code status =>
    inferInstanceAs (Decidable
      ((s.lanServerActive = true ∨ s.virtualControllerAvailable ≠ some true) ∨
        s.capture.deviceId = none ∧ s.bridge.deviceId = none ∧
          if a.ok then code.isOk = true ∧ status.isOk = true else s.lanClientDeviceId = none))
  | .selectRole _ | .inputDevicesEnumerated _ | .clearRole | .stopInputCapture | .stopLocalBridge
  | .stopLanClient | .stopLanServer | .pollInputCapture _ | .pollLocalBridge _
  | .pollLanSession _ | .refreshInputDevices | .setServerAddress _ | .setPairingKey _
  | .refreshVirtualControllerRuntime _ => isTrue trivial

/-- A capture that is stopped before the LAN server starts. -/
def oneAfterTheOther : List Label :=
  [.selectRole .client, .inputDevicesEnumerated none, .startInputCapture 7 {} (.ok .running),
    .pollInputCapture (.ok .running), .clearRole, .selectRole .server,
    .startLanServer {} (.ok 1234) (.ok .running)]

theorem agree_iff_oneAfterTheOther :
    (system (some true)).Always Agree oneAfterTheOther ∧
      ∃ s, (system (some true)).Run oneAfterTheOther s ∧ s.lanServerActive = true := by
  have h : (system (some true)).Run oneAfterTheOther _ := System.run_of_exec rfl
  exact ⟨(agree_iff h).1.mpr (System.runWith_of_exec rfl), _, h, rfl⟩

/-- The capture starts, and its first snapshot throws. -/
def snapshotThrows : List Label :=
  [.startInputCapture 7 {} (.error (.nativeCore "rc_input_capture_get_snapshot" 1))]

/-- The LAN server starts beside a capture, and nothing throws. -/
def serverBesideCapture : List Label :=
  [.startInputCapture 7 {} (.ok .running), .startLanServer {} (.ok 1234) (.ok .running)]

/-- **A start that is reported as failed leaves its session running**, and a LAN server
closes a capture whose id stays set. -/
theorem failed_start_keeps_running :
    (∃ s, (system (some true)).Run snapshotThrows s ∧ s.capture.error.isSome = true ∧
      s.capture.deviceId = none ∧ s.running .inputCapture = true) ∧
    (∃ s, (system (some true)).Run serverBesideCapture s ∧ s.capture.deviceId = some 7 ∧
      s.running .inputCapture = false) ∧
    ¬ ∀ available l s, (system available).Run l s → Agree s := by
  have h : (system (some true)).Run snapshotThrows _ := System.run_of_exec rfl
  have h' : (system (some true)).Run serverBesideCapture _ := System.run_of_exec rfl
  refine ⟨⟨_, h, rfl, rfl, rfl⟩, ⟨_, h', rfl, rfl⟩, fun hall => ?_⟩
  have hagree := hall _ _ _ h .inputCapture
  cases hagree

end HomeViewModel

end RemoteController
