import RemoteController.Home.Service
import RemoteController.Lib.Transition

/-!
# Which native sessions live at the same time

An input capture, a local bridge and a LAN client each open a gamepad, and a LAN client does
not run beside a LAN server.  `NativeCoreService` keeps it so by the order of its calls: what
may not run beside the new session is closed before that is created.  `NativeCall` are the
native calls by which a session comes and goes; the log of a run has them in order, those
inside a service call as well.

* `LoggedService`: the service and the log.
* `Logged`: the log creates nothing twice, closes only what lives, and leaves alive what the
  service holds.
* `live_together`: the sets of sessions that can live at the same time.
-/

namespace RemoteController

open Lib

/-- The native calls by which a session comes and goes. -/
inductive NativeCall where
  | create (k : SessionKind)
  | close (k : SessionKind)
  deriving DecidableEq, Repr

/-- The sessions that live, by their kind: of each kind one at most. -/
def NativeCall.next (live : SessionKind → Bool) : NativeCall → Option (SessionKind → Bool)
  | .create k => if live k then none else some fun k' => k' = k || live k'
  | .close k => if live k then some fun k' => k' ≠ k && live k' else none

def NativeCall.system : System (SessionKind → Bool) NativeCall where
  init := fun _ => false
  next := NativeCall.next

/-- The sessions can live at the same time: one of them at most opens a gamepad, and a client
and a server exclude each other. -/
structure Exclusive (live : SessionKind → Bool) : Prop where
  capture : live .inputCapture = true → live .localBridge = false ∧ live .lanClient = false
  bridge : live .localBridge = true → live .lanClient = false
  client : live .lanClient = true → live .lanServer = false

/-- What a start closes before it creates a session. -/
def SessionKind.stops : SessionKind → List SessionKind
  | .inputCapture => [.lanClient, .localBridge, .inputCapture]
  | .localBridge => [.lanClient, .inputCapture, .localBridge]
  | .lanClient => [.inputCapture, .localBridge, .lanServer, .lanClient]
  | .lanServer => [.inputCapture, .localBridge, .lanClient, .lanServer]

theorem exclusive_init : Exclusive NativeCall.system.init :=
  ⟨fun h => (by cases h), fun h => (by cases h), fun h => (by cases h)⟩

/-- Fewer sessions can live at the same time as well. -/
theorem Exclusive.mono {live fewer : SessionKind → Bool} (h : Exclusive live)
    (hle : ∀ k, fewer k = true → live k = true) : Exclusive fewer where
  capture hk := by
    obtain ⟨hb, hc⟩ := h.capture (hle _ hk)
    exact ⟨Bool.eq_false_iff.mpr fun he => by simp [hle _ he] at hb,
      Bool.eq_false_iff.mpr fun he => by simp [hle _ he] at hc⟩
  bridge hk := Bool.eq_false_iff.mpr fun he => by simpa [hle _ he] using h.bridge (hle _ hk)
  client hk := Bool.eq_false_iff.mpr fun he => by simpa [hle _ he] using h.client (hle _ hk)

/-- **The order of the calls**: where what a start closes does not live, the new session can
live beside the others. -/
theorem exclusive_create {k : SessionKind} {live : SessionKind → Bool}
    (hk : ∀ k' ∈ k.stops, live k' = false) : Exclusive fun k' => k' = k || live k' := by
  cases k with
  | inputCapture | localBridge =>
    simp only [SessionKind.stops, List.mem_cons, List.not_mem_nil, or_false, forall_eq_or_imp,
      forall_eq] at hk
    obtain ⟨hclient, hother, hself⟩ := hk
    exact ⟨by simp [hclient, hother, hself], by simp [hclient, hother, hself], by simp [hclient]⟩
  | lanClient =>
    simp only [SessionKind.stops, List.mem_cons, List.not_mem_nil, or_false, forall_eq_or_imp,
      forall_eq] at hk
    obtain ⟨hcapture, hbridge, hserver, _⟩ := hk
    exact ⟨by simp [hcapture], by simp [hbridge], by simp [hserver]⟩
  | lanServer =>
    simp only [SessionKind.stops, List.mem_cons, List.not_mem_nil, or_false, forall_eq_or_imp,
      forall_eq] at hk
    obtain ⟨hcapture, hbridge, hclient, _⟩ := hk
    exact ⟨by simp [hcapture], by simp [hbridge], by simp [hclient]⟩

/-! ### The service and the log -/

structure LoggedService where
  service : NativeCoreService := {}
  log : List NativeCall := []

/-- The calls of `NativeCoreService` that create and close sessions. -/
inductive ServiceCall where
  | start (k : SessionKind) (a : StartAnswer)
  | stop (k : SessionKind)
  | dispose
  deriving DecidableEq, Repr

namespace LoggedService

def holds (s : LoggedService) (k : SessionKind) : Bool := (s.service.handle k).isSome

def stop (s : LoggedService) (k : SessionKind) : LoggedService where
  service := s.service.stop k
  log := s.log ++ if s.holds k then [.close k] else []

/-- `startInputCapture`, `startLocalBridge`, `startLanClient` and `startLanServer`. -/
def start (s : LoggedService) (k : SessionKind) (a : StartAnswer) : LoggedService where
  service := (s.service.startWith k k.stops a).2
  log := (k.stops.foldl stop s).log ++
    match a.create, a.start with
    | some _, _ => []
    | none, some _ => [.create k, .close k]
    | none, none => [.create k]

def dispose (s : LoggedService) : LoggedService :=
  [SessionKind.inputCapture, .localBridge, .lanClient, .lanServer].foldl stop s

def call (s : LoggedService) : ServiceCall → LoggedService
  | .start k a => s.start k a
  | .stop k => s.stop k
  | .dispose => s.dispose

def system : System LoggedService ServiceCall where
  init := {}
  next s c := some (s.call c)

/-- The starts are those of the service. -/
theorem start_service (s : LoggedService) (a : StartAnswer) :
    (s.start .inputCapture a).service = (s.service.startInputCapture a).2 ∧
    (s.start .localBridge a).service = (s.service.startLocalBridge a).2 ∧
    (s.start .lanClient a).service = (s.service.startLanClient a).2 ∧
    (s.start .lanServer a).service = (s.service.startLanServer a).2 := ⟨rfl, rfl, rfl, rfl⟩

variable {s : LoggedService} {k : SessionKind}

theorem foldl_stop_service (others : List SessionKind) (s : LoggedService) :
    (others.foldl stop s).service = others.foldl NativeCoreService.stop s.service := by
  induction others generalizing s with
  | nil => rfl
  | cons k others ih => exact ih (s.stop k)

theorem foldl_stop_holds (others : List SessionKind) (s : LoggedService) (k : SessionKind) :
    (others.foldl stop s).holds k = (decide (k ∉ others) && s.holds k) := by
  rw [holds, foldl_stop_service, NativeCoreService.foldl_stop_handle]
  by_cases hk : k ∈ others
  · simp [hk]
  · simp [hk, holds]

/-! ### The log -/

/-- The log leads to what the service holds, and through sessions that can live at the same
time only. -/
structure Logged (s : LoggedService) : Prop where
  run : NativeCall.system.Run s.log s.holds
  always : NativeCall.system.Always Exclusive s.log

/-- A native call that leads to sessions that can live at the same time. -/
theorem Logged.snoc (h : Logged s) {t : LoggedService} {c : NativeCall}
    (hlog : t.log = s.log ++ [c]) (hnext : c.next s.holds = some t.holds)
    (hexclusive : Exclusive t.holds) : Logged t := by
  have hrun : NativeCall.system.Run t.log t.holds := by
    rw [hlog]
    exact .snoc h.run hnext
  refine ⟨hrun, ?_⟩
  rw [hlog] at hrun ⊢
  exact h.always.snoc hrun hexclusive

theorem Logged.exclusive (h : Logged s) : Exclusive s.holds :=
  h.always s.log [] s.holds (List.append_nil _).symm h.run

theorem stop_holds (s : LoggedService) (k k' : SessionKind) :
    (s.stop k).holds k' = (decide (k' ≠ k) && s.holds k') := by
  have := foldl_stop_holds [k] s k'
  simpa using this

theorem Logged.stop (h : Logged s) (k : SessionKind) : Logged (s.stop k) := by
  by_cases hk : s.holds k = true
  · refine h.snoc (c := .close k) (by simp [LoggedService.stop, hk]) ?_ ?_
    · rw [NativeCall.next, if_pos hk]
      exact congrArg some (funext fun k' => (stop_holds s k k').symm)
    · refine h.exclusive.mono fun k' hk' => ?_
      rw [stop_holds] at hk'
      exact ((Bool.and_eq_true _ _).mp hk').2
  · have hsame : (s.stop k).holds = s.holds := by
      funext k'
      rw [stop_holds]
      by_cases he : k' = k
      · simp [he, hk]
      · simp [he]
    have hlog : (s.stop k).log = s.log := by simp [LoggedService.stop, hk]
    exact ⟨by rw [hlog, hsame]; exact h.run, by rw [hlog]; exact h.always⟩

theorem Logged.foldl_stop (h : Logged s) (others : List SessionKind) :
    Logged (others.foldl LoggedService.stop s) := by
  induction others generalizing s with
  | nil => exact h
  | cons k others ih => exact ih (h.stop k)

theorem start_holds (s : LoggedService) (k : SessionKind) (a : StartAnswer) (k' : SessionKind) :
    (s.start k a).holds k' =
      if k' = k then a.ok else (k.stops.foldl stop s).holds k' := by
  have hself : k ∈ k.stops := by cases k <;> decide
  rw [holds, start, NativeCoreService.startWith_handle _ _ _ hself, foldl_stop_holds]
  by_cases hk : k' = k
  · rw [if_pos hk, if_pos hk]
  · rw [if_neg hk, if_neg hk]
    by_cases hm : k' ∈ k.stops
    · simp [hm]
    · simp [hm, holds]

theorem Logged.congr (h : Logged s) {t : LoggedService} (hlog : t.log = s.log)
    (hholds : t.holds = s.holds) : Logged t where
  run := by
    rw [hlog, hholds]
    exact h.run
  always := by
    rw [hlog]
    exact h.always

/-- A start that does not throw. -/
theorem Logged.start_ok (h : Logged s) {k : SessionKind} {a : StartAnswer} (ha : a.ok = true) :
    Logged (s.start k a) := by
  have hstopped := h.foldl_stop k.stops
  have hfree : ∀ k' ∈ k.stops, (k.stops.foldl LoggedService.stop s).holds k' = false := by
    intro k' hk'
    rw [foldl_stop_holds]
    simp [hk']
  have hself : (k.stops.foldl LoggedService.stop s).holds k = false :=
    hfree k (by cases k <;> decide)
  have hnew : (s.start k a).holds =
      fun k' => k' = k || (k.stops.foldl LoggedService.stop s).holds k' := by
    funext k'
    rw [start_holds, ha]
    by_cases hk : k' = k <;> simp [hk]
  obtain ⟨hcreate, hstart⟩ : a.create = none ∧ a.start = none := by
    simpa [StartAnswer.ok] using ha
  refine hstopped.snoc (c := .create k) ?_ ?_ ?_
  · simp only [LoggedService.start, hcreate, hstart]
  · rw [NativeCall.next, if_neg (by simp [hself]), hnew]
  · rw [hnew]
    exact exclusive_create hfree

theorem Logged.start (h : Logged s) (k : SessionKind) (a : StartAnswer) :
    Logged (s.start k a) := by
  have hself : (k.stops.foldl LoggedService.stop s).holds k = false := by
    rw [foldl_stop_holds]
    cases k <;> simp [SessionKind.stops]
  have hfailed : a.ok = false →
      (s.start k a).holds = (k.stops.foldl LoggedService.stop s).holds := by
    intro ha
    funext k'
    rw [start_holds, ha]
    by_cases hk : k' = k
    · rw [if_pos hk, hk, hself]
    · rw [if_neg hk]
  cases hcreate : a.create with
  | some error =>
    refine (h.foldl_stop k.stops).congr ?_ (hfailed (by simp [StartAnswer.ok, hcreate]))
    simp only [LoggedService.start, hcreate, List.append_nil]
  | none =>
    cases hstart : a.start with
    | none => exact h.start_ok (by simp [StartAnswer.ok, hcreate, hstart])
    | some error =>
      -- the session is created, and closed again
      have hstarted : Logged (s.start k {}) := h.start_ok rfl
      refine (hstarted.stop k).congr ?_ ?_
      · have hheld : (s.start k {}).holds k = true := by rw [start_holds, if_pos rfl]; rfl
        have hlog : ((s.start k {}).stop k).log = (s.start k {}).log ++ [.close k] := by
          simp only [LoggedService.stop, hheld, if_true]
        rw [hlog]
        simp [LoggedService.start, hcreate, hstart]
      · rw [hfailed (by simp [StartAnswer.ok, hcreate, hstart])]
        funext k'
        rw [stop_holds, start_holds]
        by_cases hk : k' = k
        · simp [hk, hself]
        · simp [hk]

theorem Logged.call (h : Logged s) (c : ServiceCall) : Logged (s.call c) := by
  cases c with
  | start k a => exact h.start k a
  | stop k => exact h.stop k
  | dispose => exact h.foldl_stop _

theorem tracked_call (h : s.service.Tracked) (c : ServiceCall) : (s.call c).service.Tracked := by
  cases c with
  | start k a => exact h.startWith (by cases k <;> decide) a
  | stop k => exact h.stop k
  | dispose =>
    show (LoggedService.dispose s).service.Tracked
    rw [dispose, foldl_stop_service]
    exact h.foldl_stop _

/-! ### Runs -/

theorem logged_of_run {l : List ServiceCall} (h : system.Run l s) :
    Logged s ∧ s.service.Tracked := by
  refine h.invariant (P := fun _ s => Logged s ∧ s.service.Tracked) ?_ ?_
  · refine ⟨⟨.refl, fun l₁ l₂ live he hr => ?_⟩, NativeCoreService.tracked_init⟩
    obtain ⟨rfl, _⟩ := List.append_eq_nil_iff.mp he.symm
    obtain rfl := System.path_nil_iff.mp hr
    exact exclusive_init
  · intro l s c t _ hi hn
    obtain rfl := Option.some.inj hn
    exact ⟨hi.1.call c, tracked_call hi.2 c⟩

theorem dispose_holds (s : LoggedService) (k : SessionKind) : s.dispose.holds k = false := by
  rw [dispose, foldl_stop_holds]
  cases k <;> simp

/-- A disposed service has left no native session. -/
theorem alive_dispose (h : s.service.Tracked) : s.dispose.service.alive = [] := by
  have htracked : s.dispose.service.Tracked := tracked_call h .dispose
  refine List.eq_nil_iff_forall_not_mem.mpr fun n hn => ?_
  obtain ⟨k, hk⟩ := (htracked.alive n).mp hn
  have hnone := dispose_holds s k
  rw [holds, hk] at hnone
  cases hnone

/-- Which of the four sessions live. -/
def liveOf (capture bridge client server : Bool) : SessionKind → Bool
  | .inputCapture => capture
  | .localBridge => bridge
  | .lanClient => client
  | .lanServer => server

/-- The starts that lead to `live`: a server first, then who runs beside it. -/
def startsOf (live : SessionKind → Bool) : List ServiceCall :=
  ([.lanServer, .inputCapture, .localBridge, .lanClient].filter live).map (.start · {})

theorem startsOf_reaches : ∀ capture bridge client server : Bool,
    (capture = true → bridge = false ∧ client = false) → (bridge = true → client = false) →
    (client = true → server = false) →
    (system.exec {} (startsOf (liveOf capture bridge client server))).map
        (fun s => (s.holds .inputCapture, s.holds .localBridge, s.holds .lanClient,
          s.holds .lanServer)) =
      some (capture, bridge, client, server) := by
  decide

/-- Sessions that can live at the same time do. -/
theorem reached_of_exclusive {live : SessionKind → Bool} (h : Exclusive live) :
    ∃ l s, system.Run l s ∧ ∀ k, s.holds k = live k := by
  obtain ⟨s, hs, he⟩ := Option.map_eq_some_iff.mp
    (startsOf_reaches _ _ _ _ h.capture h.bridge h.client)
  simp only [Prod.mk.injEq] at he
  refine ⟨_, s, System.run_of_exec hs, fun k => ?_⟩
  cases k with
  | inputCapture => exact he.1
  | localBridge => exact he.2.1
  | lanClient => exact he.2.2.1
  | lanServer => exact he.2.2.2

end LoggedService

/-- **Which native sessions live at the same time.**  After any calls of the service, with any
answers of the native calls, the native sessions that live are those that are held; at no
moment, inside the calls either, do two live that exclude each other, and none is created twice
or closed without being alive; `dispose()` leaves none.  Any set without such a pair can be
reached. -/
theorem live_together :
    (∀ l s, LoggedService.system.Run l s → s.service.Tracked ∧
      NativeCall.system.Run s.log s.holds ∧ NativeCall.system.Always Exclusive s.log ∧
        s.dispose.service.alive = []) ∧
    ∀ live, (∃ l s, LoggedService.system.Run l s ∧ ∀ k, s.holds k = live k) ↔ Exclusive live := by
  refine ⟨fun l s h => ?_, fun live => ⟨fun ⟨l, s, h, hlive⟩ => ?_, ?_⟩⟩
  · obtain ⟨hlogged, htracked⟩ := LoggedService.logged_of_run h
    exact ⟨htracked, hlogged.run, hlogged.always, LoggedService.alive_dispose htracked⟩
  · obtain rfl : s.holds = live := funext hlive
    exact (LoggedService.logged_of_run h).1.exclusive
  · exact LoggedService.reached_of_exclusive

end RemoteController
