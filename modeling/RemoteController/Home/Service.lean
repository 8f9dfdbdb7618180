import Mathlib.Data.List.Basic

/-!
# `NativeCoreService`

The native sessions that the application holds, at most one of each kind.  Each start
closes the sessions that may not run beside the new one, creates the native session
and starts it; a session that does not start is closed again.

`close()` ignores what its two native calls return, so a stop never throws.  What the
factories, `start()` and `snapshot()` throw comes with the call.

* `stop_handle`, `startWith_handle`: which handles are held after a stop and a start.
* `Tracked`: every native session that is alive is held.
-/

namespace RemoteController

/-- The four fields of the service. -/
inductive SessionKind where
  | inputCapture
  | localBridge
  | lanClient
  | lanServer
  deriving DecidableEq, Repr

/-- What the calls of the repository throw. -/
inductive CoreException where
  | stateError (message : String)
  | argumentError (message : String)
  | nativeCore (operation : String) (resultCode : Int)
  deriving DecidableEq, Repr

/-- The `state` of a native snapshot. -/
inductive NativeState where
  | created
  | running
  | stopped
  | disconnected
  | faulted
  | unknown
  deriving DecidableEq, Repr

/-- What creating and starting a native session throw, if anything. -/
structure StartAnswer where
  create : Option CoreException := none
  start : Option CoreException := none
  deriving DecidableEq, Repr

/-- The session was created and started. -/
def StartAnswer.ok (a : StartAnswer) : Bool := a.create.isNone && a.start.isNone

/-- `handle` are the fields of the service.  Native sessions are numbered in the order
in which they are created; `alive` are those that are not destroyed. -/
structure NativeCoreService where
  handle : SessionKind → Option Nat := fun _ => none
  created : Nat := 0
  alive : List Nat := []

namespace NativeCoreService

variable (s : NativeCoreService) (k : SessionKind)

def close (n : Nat) : NativeCoreService := { s with alive := s.alive.filter fun m => m ≠ n }

def hold (h : Option Nat) : NativeCoreService :=
  { s with handle := fun k' => if k' = k then h else s.handle k' }

/-- Close the session, if there is one. -/
def stop : NativeCoreService :=
  match s.handle k with
  | none => s
  | some n => (s.close n).hold k none

def stopInputCapture : NativeCoreService := s.stop .inputCapture

def stopLocalBridge : NativeCoreService := s.stop .localBridge

def stopLanClient : NativeCoreService := s.stop .lanClient

def stopLanServer : NativeCoreService := s.stop .lanServer

/-- Stop the sessions `others` in this order, then create and start a session.  What is
thrown is returned. -/
def startWith (others : List SessionKind) (a : StartAnswer) :
    Option CoreException × NativeCoreService :=
  let s := others.foldl stop s
  match a.create with
  | some error => (some error, s)
  | none =>
    let n := s.created
    let s := { s with created := n + 1, alive := n :: s.alive }
    match a.start with
    | some error => (some error, s.close n)
    | none => (none, s.hold k (some n))

def startInputCapture (a : StartAnswer) : Option CoreException × NativeCoreService :=
  s.startWith .inputCapture [.lanClient, .localBridge, .inputCapture] a

def startLocalBridge (a : StartAnswer) : Option CoreException × NativeCoreService :=
  s.startWith .localBridge [.lanClient, .inputCapture, .localBridge] a

def startLanClient (a : StartAnswer) : Option CoreException × NativeCoreService :=
  s.startWith .lanClient [.inputCapture, .localBridge, .lanServer, .lanClient] a

def startLanServer (a : StartAnswer) : Option CoreException × NativeCoreService :=
  s.startWith .lanServer [.inputCapture, .localBridge, .lanClient, .lanServer] a

/-- The `StateError` of a snapshot without a session. -/
def inactive : SessionKind → CoreException
  | .inputCapture => .stateError "No SDL input capture is active."
  | .localBridge => .stateError "No local controller bridge is active."
  | .lanClient => .stateError "No LAN controller client is active."
  | .lanServer => .stateError "No LAN controller server is active."

/-- The snapshot of a session, given what `snapshot()` answers. -/
def getSnapshot (answer : Except CoreException NativeState) : Except CoreException NativeState :=
  match s.handle k with
  | none => .error (inactive k)
  | some _ => answer

/-! ### The handles -/

theorem stop_handle (k' : SessionKind) :
    (s.stop k).handle k' = if k' = k then none else s.handle k' := by
  rw [stop]
  split
  · rename_i hk
    split
    · rename_i he
      rw [he, hk]
    · rfl
  · rfl

theorem foldl_stop_handle (k' : SessionKind) : ∀ (others : List SessionKind)
    (s : NativeCoreService), (others.foldl stop s).handle k' =
      if k' ∈ others then none else s.handle k' := by
  intro others
  induction others with
  | nil => intro s; rfl
  | cons k others ih =>
    intro s
    rw [List.foldl_cons, ih, stop_handle]
    by_cases hm : k' ∈ others
    · rw [if_pos hm, if_pos (List.mem_cons_of_mem _ hm)]
    · by_cases hk : k' = k
      · rw [if_neg hm, if_pos hk, if_pos (by rw [hk]; exact List.mem_cons_self)]
      · rw [if_neg hm, if_neg hk, if_neg (by simp [hk, hm])]

/-- **Which handles are held after a start** that stops its own kind as well. -/
theorem startWith_handle (others : List SessionKind) (hk : k ∈ others) (a : StartAnswer)
    (k' : SessionKind) : ((s.startWith k others a).2.handle k').isSome =
      if k' = k then a.ok else if k' ∈ others then false else (s.handle k').isSome := by
  have hstop := foldl_stop_handle k' others s
  have hstopped : ((others.foldl stop s).handle k').isSome =
      if k' = k then false else if k' ∈ others then false else (s.handle k').isSome := by
    rw [hstop]
    by_cases he : k' = k
    · rw [if_pos he, he, if_pos hk]
      rfl
    · rw [if_neg he]
      split <;> rfl
  rw [startWith]
  cases hcreate : a.create with
  | some error =>
    have hok : a.ok = false := by rw [StartAnswer.ok, hcreate]; rfl
    rw [hok]
    exact hstopped
  | none =>
    cases hstart : a.start with
    | some error =>
      have hok : a.ok = false := by rw [StartAnswer.ok, hcreate, hstart]; rfl
      rw [hok]
      exact hstopped
    | none =>
      have hok : a.ok = true := by rw [StartAnswer.ok, hcreate, hstart]; rfl
      rw [hok]
      show (if k' = k then some _ else (others.foldl stop s).handle k').isSome = _
      by_cases he : k' = k
      · rw [if_pos he, if_pos he]
        rfl
      · rw [if_neg he, hstopped, if_neg he, if_neg he]

theorem startWith_fst (others : List SessionKind) (a : StartAnswer) :
    (s.startWith k others a).1.isNone = a.ok := by
  rw [startWith, StartAnswer.ok]
  cases a.create with
  | some error => rfl
  | none => cases a.start <;> rfl

/-! ### No session is lost -/

/-- The native sessions that are alive are those that are held, and each is held
once. -/
structure Tracked : Prop where
  alive : ∀ n, n ∈ s.alive ↔ ∃ k, s.handle k = some n
  once : ∀ k k' n, s.handle k = some n → s.handle k' = some n → k = k'
  created : ∀ n ∈ s.alive, n < s.created

theorem tracked_init : Tracked {} where
  alive n := by simp
  once := nofun
  created := nofun

variable {s}

theorem hold_handle {k k' : SessionKind} {h : Option Nat} {n : Nat} :
    (s.hold k h).handle k' = some n ↔
      k' = k ∧ h = some n ∨ k' ≠ k ∧ s.handle k' = some n := by
  show (if k' = k then h else s.handle k') = some n ↔ _
  by_cases he : k' = k
  · simp [he]
  · simp [he]

theorem Tracked.stop (h : s.Tracked) (k : SessionKind) : (s.stop k).Tracked := by
  rw [NativeCoreService.stop]
  split
  · exact h
  · rename_i n hn
    have hhandle : ∀ k' m, ((s.close n).hold k none).handle k' = some m ↔
        k' ≠ k ∧ s.handle k' = some m := by
      intro k' m
      rw [hold_handle, or_iff_right (by simp)]
      rfl
    refine ⟨?_, ?_, ?_⟩
    · intro m
      show m ∈ s.alive.filter (fun m => m ≠ n) ↔ _
      rw [List.mem_filter, h.alive]
      constructor
      · rintro ⟨⟨k', hk'⟩, hne⟩
        refine ⟨k', (hhandle k' m).mpr ⟨?_, hk'⟩⟩
        rintro rfl
        rw [hn] at hk'
        exact of_decide_eq_true hne (Option.some.inj hk').symm
      · rintro ⟨k', hk'⟩
        obtain ⟨hne, hold⟩ := (hhandle k' m).mp hk'
        refine ⟨⟨k', hold⟩, decide_eq_true ?_⟩
        rintro rfl
        exact hne (h.once k' k m hold hn)
    · intro k₁ k₂ m h₁ h₂
      exact h.once k₁ k₂ m ((hhandle k₁ m).mp h₁).2 ((hhandle k₂ m).mp h₂).2
    · intro m hm
      exact h.created m (List.mem_of_mem_filter hm)

theorem Tracked.foldl_stop (others : List SessionKind) (h : s.Tracked) :
    (others.foldl NativeCoreService.stop s).Tracked := by
  induction others generalizing s with
  | nil => exact h
  | cons k others ih => exact ih (h.stop k)

theorem Tracked.created_not_mem (h : s.Tracked) : s.created ∉ s.alive :=
  fun hm => Nat.lt_irrefl _ (h.created _ hm)

/-- A session is created and destroyed again. -/
theorem Tracked.discard (h : s.Tracked) :
    (close { s with created := s.created + 1, alive := s.created :: s.alive }
      s.created).Tracked := by
  have hfilter : (s.created :: s.alive).filter (fun m => m ≠ s.created) = s.alive := by
    rw [List.filter_cons_of_neg (by simp), List.filter_eq_self]
    intro m hm
    exact decide_eq_true fun he => h.created_not_mem (he ▸ hm)
  rw [close, hfilter]
  exact ⟨h.alive, h.once, fun m hm => Nat.lt_succ_of_lt (h.created m hm)⟩

/-- A session is created and held where nothing was. -/
theorem Tracked.keep (h : s.Tracked) {k : SessionKind} (hfree : s.handle k = none) :
    (hold { s with created := s.created + 1, alive := s.created :: s.alive } k
      (some s.created)).Tracked := by
  have halive : ∀ k', s.handle k' ≠ some s.created := by
    intro k' hk'
    exact h.created_not_mem ((h.alive _).mpr ⟨k', hk'⟩)
  refine ⟨?_, ?_, ?_⟩
  · intro m
    show m ∈ s.created :: s.alive ↔ _
    rw [List.mem_cons, h.alive]
    constructor
    · rintro (rfl | ⟨k', hk'⟩)
      · exact ⟨k, hold_handle.mpr (Or.inl ⟨rfl, rfl⟩)⟩
      · refine ⟨k', hold_handle.mpr (Or.inr ⟨?_, hk'⟩)⟩
        rintro rfl
        rw [hfree] at hk'
        cases hk'
    · rintro ⟨k', hk'⟩
      rcases hold_handle.mp hk' with ⟨_, he⟩ | ⟨_, hk'⟩
      · exact Or.inl (Option.some.inj he).symm
      · exact Or.inr ⟨k', hk'⟩
  · intro k₁ k₂ m h₁ h₂
    rcases hold_handle.mp h₁ with ⟨rfl, he⟩ | ⟨_, h₁⟩
    · obtain rfl := Option.some.inj he
      rcases hold_handle.mp h₂ with ⟨rfl, _⟩ | ⟨_, h₂⟩
      · rfl
      · exact absurd h₂ (halive k₂)
    · rcases hold_handle.mp h₂ with ⟨_, he⟩ | ⟨_, h₂⟩
      · obtain rfl := Option.some.inj he
        exact absurd h₁ (halive k₁)
      · exact h.once k₁ k₂ m h₁ h₂
  · intro m hm
    rcases List.mem_cons.mp hm with rfl | hm
    · exact Nat.lt_succ_self _
    · exact Nat.lt_succ_of_lt (h.created m hm)

theorem Tracked.startWith (h : s.Tracked) {k : SessionKind} {others : List SessionKind}
    (hk : k ∈ others) (a : StartAnswer) : (s.startWith k others a).2.Tracked := by
  have hs := h.foldl_stop others
  have hfree : (others.foldl NativeCoreService.stop s).handle k = none := by
    rw [foldl_stop_handle, if_pos hk]
  rw [NativeCoreService.startWith]
  cases a.create with
  | some error => exact hs
  | none =>
    cases a.start with
    | some error => exact hs.discard
    | none => exact hs.keep hfree

end NativeCoreService

end RemoteController
