import RemoteController.Backends
import RemoteController.Lib.Extremes
import Mathlib.Data.List.Induction

/-!
# `InputCapture`

The capture of `input_capture.cpp`: its life from `Start` to `Stop`, and what it keeps of
the samples that come in between.  Whether the backend opens and what the clock says
are arguments; a backend that does not open delivers nothing.

* `samples l`: the states that were passed to `OnState` while running.
* `Tallies`: what the snapshot says of a list of samples, field by field.
* `capture_exact`: the snapshot tallies the samples after any sequence of calls, and
  stays as it is once the capture is over.
-/

namespace RemoteController

open Lib Protocol

structure InputCaptureSnapshot where
  state : SessionState := .created
  sampleCount : UInt64 := 0
  timestampUs : UInt64 := 0
  currentState : GamepadStateV1 := {}
  observedButtonFlags : UInt32 := 0
  leftTriggerMax : UInt16 := 0
  rightTriggerMax : UInt16 := 0
  leftStickXMin : Int16 := 0
  leftStickXMax : Int16 := 0
  leftStickYMin : Int16 := 0
  leftStickYMax : Int16 := 0
  rightStickXMin : Int16 := 0
  rightStickXMax : Int16 := 0
  rightStickYMin : Int16 := 0
  rightStickYMax : Int16 := 0
  deriving DecidableEq, Repr

structure InputCapture where
  snapshot : InputCaptureSnapshot := {}
  hasSample : Bool := false
  deriving DecidableEq, Repr

namespace InputCapture

def setState (c : InputCapture) (state : SessionState) : InputCapture :=
  { c with snapshot := { c.snapshot with state := state } }

/-- `snapshot_.state` and `snapshot_.current_state = {}`. -/
def leave (c : InputCapture) (state : SessionState) : InputCapture :=
  { c with snapshot := { c.snapshot with state := state, currentState := {} } }

def start (c : InputCapture) (opened : Bool) : InputCapture × Result :=
  if c.snapshot.state ≠ .created then (c, .invalidState)
  else if !opened then ((c.setState .running).setState .faulted, .backendFailure)
  else (c.setState .running, .ok)

def stop (c : InputCapture) : InputCapture × Result :=
  if c.snapshot.state = .stopped then (c, .ok) else (c.leave .stopped, .ok)

def onState (c : InputCapture) (state : GamepadStateV1) (timestampUs : UInt64) : InputCapture :=
  if c.snapshot.state ≠ .running then c
  else
    let s := c.snapshot
    let s := { s with
      currentState := state
      timestampUs := timestampUs
      observedButtonFlags := s.observedButtonFlags ||| state.buttonFlags
      leftTriggerMax := larger s.leftTriggerMax state.leftTrigger
      rightTriggerMax := larger s.rightTriggerMax state.rightTrigger }
    let s :=
      if !c.hasSample then
        { s with
          leftStickXMin := state.leftStickX, leftStickXMax := state.leftStickX
          leftStickYMin := state.leftStickY, leftStickYMax := state.leftStickY
          rightStickXMin := state.rightStickX, rightStickXMax := state.rightStickX
          rightStickYMin := state.rightStickY, rightStickYMax := state.rightStickY }
      else
        { s with
          leftStickXMin := smaller s.leftStickXMin state.leftStickX
          leftStickXMax := larger s.leftStickXMax state.leftStickX
          leftStickYMin := smaller s.leftStickYMin state.leftStickY
          leftStickYMax := larger s.leftStickYMax state.leftStickY
          rightStickXMin := smaller s.rightStickXMin state.rightStickX
          rightStickXMax := larger s.rightStickXMax state.rightStickX
          rightStickYMin := smaller s.rightStickYMin state.rightStickY
          rightStickYMax := larger s.rightStickYMax state.rightStickY }
    { snapshot := { s with sampleCount := s.sampleCount + 1 }, hasSample := true }

def onDisconnected (c : InputCapture) : InputCapture :=
  if c.snapshot.state = .running then c.leave .disconnected else c

/-! ### Calls -/

inductive Call where
  | start (opened : Bool)
  | onState (state : GamepadStateV1) (timestampUs : UInt64)
  | onDisconnected
  | stop
  deriving DecidableEq, Repr

def after (c : InputCapture) : Call → InputCapture
  | .start opened => (c.start opened).1
  | .onState state timestampUs => c.onState state timestampUs
  | .onDisconnected => c.onDisconnected
  | .stop => c.stop.1

/-- The capture after the calls, in their order. -/
def captured (l : List Call) : InputCapture := l.foldl after {}

/-- The sample of a call, if it is one that counts. -/
def sampled (c : InputCapture) : Call → List GamepadStateV1
  | .onState state _ => if c.snapshot.state = .running then [state] else []
  | .start _ | .onDisconnected | .stop => []

/-- The states passed to `OnState` while running, by calls made from `c` on. -/
def samplesFrom (c : InputCapture) : List Call → List GamepadStateV1
  | [] => []
  | a :: l => c.sampled a ++ samplesFrom (c.after a) l

def samples (l : List Call) : List GamepadStateV1 := samplesFrom {} l

theorem samplesFrom_snoc (l : List Call) : ∀ (c : InputCapture) (a : Call),
    c.samplesFrom (l ++ [a]) = c.samplesFrom l ++ (l.foldl after c).sampled a := by
  induction l with
  | nil => intro c a; simp [samplesFrom]
  | cons b l ih =>
    intro c a
    rw [List.cons_append, samplesFrom, samplesFrom, ih, List.append_assoc]
    rfl

theorem samples_snoc (l : List Call) (a : Call) :
    samples (l ++ [a]) = samples l ++ (captured l).sampled a := samplesFrom_snoc l {} a

theorem captured_snoc (l : List Call) (a : Call) :
    captured (l ++ [a]) = (captured l).after a := by
  simp [captured]

/-! ### The tallies -/

/-- One axis of the sticks: its value in a sample, and the two fields about it. -/
structure Axis where
  value : GamepadStateV1 → Int16
  min : InputCaptureSnapshot → Int16
  max : InputCaptureSnapshot → Int16

def axes : List Axis :=
  [⟨GamepadStateV1.leftStickX, InputCaptureSnapshot.leftStickXMin,
      InputCaptureSnapshot.leftStickXMax⟩,
    ⟨GamepadStateV1.leftStickY, InputCaptureSnapshot.leftStickYMin,
      InputCaptureSnapshot.leftStickYMax⟩,
    ⟨GamepadStateV1.rightStickX, InputCaptureSnapshot.rightStickXMin,
      InputCaptureSnapshot.rightStickXMax⟩,
    ⟨GamepadStateV1.rightStickY, InputCaptureSnapshot.rightStickYMin,
      InputCaptureSnapshot.rightStickYMax⟩]

/-- Least and greatest of the values, 0 if there are none. -/
def Range (values : List Int16) (lo hi : Int16) : Prop :=
  (values = [] → lo = 0 ∧ hi = 0) ∧
    (values ≠ [] → IsLeast (valuesOf values) lo ∧ IsGreatest (valuesOf values) hi)

/-- The greatest of the values, 0 if there are none. -/
def Peak (values : List UInt16) (hi : UInt16) : Prop :=
  (values = [] → hi = 0) ∧ (values ≠ [] → IsGreatest (valuesOf values) hi)

/-- **What the snapshot says of the samples.** -/
structure Tallies (samples : List GamepadStateV1) (s : InputCaptureSnapshot) : Prop where
  /-- The counter has 64 bits. -/
  count : s.sampleCount.toNat = samples.length % 2 ^ 64
  axis : ∀ axis ∈ axes, Range (samples.map axis.value) (axis.min s) (axis.max s)
  flags : s.observedButtonFlags = (samples.map GamepadStateV1.buttonFlags).foldl (· ||| ·) 0
  leftTrigger : Peak (samples.map GamepadStateV1.leftTrigger) s.leftTriggerMax
  rightTrigger : Peak (samples.map GamepadStateV1.rightTrigger) s.rightTriggerMax
  /-- The last sample while running, else neutral. -/
  current : s.currentState =
    if s.state = .running then samples.getLast?.getD .neutral else .neutral

theorem Range.first (v : Int16) : Range [v] v v :=
  ⟨fun h => by simp at h, fun _ => ⟨isLeast_one v, isGreatest_one v⟩⟩

theorem Range.add {values : List Int16} {lo hi : Int16} (h : Range values lo hi)
    (hne : values ≠ []) (v : Int16) : Range (values ++ [v]) (smaller lo v) (larger hi v) :=
  ⟨fun h => by simp at h,
    fun _ => ⟨isLeast_snoc (h.2 hne).1 v, isGreatest_snoc (h.2 hne).2 v⟩⟩

theorem zero_le_uint16 (v : UInt16) : 0 ≤ v := by
  rw [UInt16.le_iff_toNat_le]
  exact Nat.zero_le _

/-- A field that starts at 0 is the greatest of the values and 0. -/
theorem peak_iff {values : List UInt16} {hi : UInt16} :
    Peak values hi ↔ IsGreatest (valuesOf (0 :: values)) hi := by
  constructor
  · intro h
    by_cases hne : values = []
    · rw [h.1 hne, hne]
      exact isGreatest_one 0
    · refine ⟨List.mem_cons_of_mem _ (h.2 hne).1, ?_⟩
      intro w hw
      rcases List.mem_cons.mp hw with rfl | hw
      · exact zero_le_uint16 hi
      · exact (h.2 hne).2 hw
  · intro h
    refine ⟨?_, isGreatest_of_bottom zero_le_uint16 h⟩
    rintro rfl
    exact List.mem_singleton.mp h.1

theorem Peak.add {values : List UInt16} {hi : UInt16} (h : Peak values hi) (v : UInt16) :
    Peak (values ++ [v]) (larger hi v) := by
  rw [peak_iff] at h ⊢
  exact isGreatest_snoc h v

/-! ### One call -/

/-- What holds between two calls: `hasSample` tells whether there was a sample. -/
structure Tallied (xs : List GamepadStateV1) (c : InputCapture) : Prop where
  tallies : Tallies xs c.snapshot
  hasSample : c.hasSample = true ↔ xs ≠ []
  /-- No sample before the start. -/
  created : c.snapshot.state = .created → xs = []

theorem tallied_init : Tallied [] {} where
  tallies :=
    { count := rfl
      axis := by simp [axes, Range]
      flags := rfl
      leftTrigger := ⟨fun _ => rfl, fun h => absurd rfl h⟩
      rightTrigger := ⟨fun _ => rfl, fun h => absurd rfl h⟩
      current := rfl }
  hasSample := by simp
  created := fun _ => rfl

variable {c : InputCapture} {xs : List GamepadStateV1}

theorem forall_axes {P : Axis → Prop} : (∀ axis ∈ axes, P axis) ↔
    P ⟨GamepadStateV1.leftStickX, InputCaptureSnapshot.leftStickXMin,
        InputCaptureSnapshot.leftStickXMax⟩ ∧
      P ⟨GamepadStateV1.leftStickY, InputCaptureSnapshot.leftStickYMin,
        InputCaptureSnapshot.leftStickYMax⟩ ∧
      P ⟨GamepadStateV1.rightStickX, InputCaptureSnapshot.rightStickXMin,
        InputCaptureSnapshot.rightStickXMax⟩ ∧
      P ⟨GamepadStateV1.rightStickY, InputCaptureSnapshot.rightStickYMin,
        InputCaptureSnapshot.rightStickYMax⟩ := by
  simp [axes]

/-- The four ranges, by whether there was a sample before. -/
theorem Tallied.axis (h : Tallied xs c) (hr : c.snapshot.state = .running) (x : GamepadStateV1)
    (timestampUs : UInt64) : ∀ axis ∈ axes, Range ((xs ++ [x]).map axis.value)
      (axis.min (c.onState x timestampUs).snapshot)
      (axis.max (c.onState x timestampUs).snapshot) := by
  have haxis := forall_axes.mp h.tallies.axis
  rw [forall_axes, InputCapture.onState, if_neg (not_not.mpr hr)]
  simp only [List.map_append, List.map_cons, List.map_nil]
  cases hc : c.hasSample with
  | false =>
    obtain rfl : xs = [] := by simpa [hc] using h.hasSample
    exact ⟨Range.first _, Range.first _, Range.first _, Range.first _⟩
  | true =>
    have hne : ∀ value : GamepadStateV1 → Int16, xs.map value ≠ [] := by
      intro value
      rw [ne_eq, List.map_eq_nil_iff]
      exact h.hasSample.mp hc
    exact ⟨haxis.1.add (hne _) _, haxis.2.1.add (hne _) _, haxis.2.2.1.add (hne _) _,
      haxis.2.2.2.add (hne _) _⟩

/-- What `OnState` does to the other fields. -/
theorem onState_fields (hr : c.snapshot.state = .running) (x : GamepadStateV1)
    (timestampUs : UInt64) :
    (c.onState x timestampUs).hasSample = true ∧
      (c.onState x timestampUs).snapshot.state = .running ∧
      (c.onState x timestampUs).snapshot.sampleCount = c.snapshot.sampleCount + 1 ∧
      (c.onState x timestampUs).snapshot.currentState = x ∧
      (c.onState x timestampUs).snapshot.observedButtonFlags =
        c.snapshot.observedButtonFlags ||| x.buttonFlags ∧
      (c.onState x timestampUs).snapshot.leftTriggerMax =
        larger c.snapshot.leftTriggerMax x.leftTrigger ∧
      (c.onState x timestampUs).snapshot.rightTriggerMax =
        larger c.snapshot.rightTriggerMax x.rightTrigger := by
  rw [InputCapture.onState, if_neg (not_not.mpr hr)]
  cases c.hasSample <;> exact ⟨rfl, hr, rfl, rfl, rfl, rfl, rfl⟩

/-- **One sample more.** -/
theorem Tallied.onState (h : Tallied xs c) (hr : c.snapshot.state = .running)
    (x : GamepadStateV1) (timestampUs : UInt64) :
    Tallied (xs ++ [x]) (c.onState x timestampUs) := by
  have ht := h.tallies
  obtain ⟨hsample, hstate, hcount, hcurrent, hflags, hleft, hright⟩ :=
    onState_fields hr x timestampUs
  refine ⟨⟨?_, h.axis hr x timestampUs, ?_, ?_, ?_, ?_⟩, ?_, ?_⟩
  · rw [hcount, UInt64.toNat_add, ht.count, List.length_append, List.length_singleton]
    simp
  · rw [hflags, ht.flags, List.map_append, List.foldl_append]
    rfl
  · rw [hleft, List.map_append]
    exact ht.leftTrigger.add _
  · rw [hright, List.map_append]
    exact ht.rightTrigger.add _
  · rw [hcurrent, hstate, if_pos rfl, List.getLast?_concat, Option.getD_some]
  · simp [hsample]
  · intro he
    rw [hstate] at he
    cases he

/-- The fields that only `OnState` writes. -/
def statistics (s : InputCaptureSnapshot) : InputCaptureSnapshot :=
  { s with state := .created, currentState := {} }

theorem Tallied.congr {c' : InputCapture} (h : Tallied xs c)
    (he : statistics c'.snapshot = statistics c.snapshot) (hs : c'.hasSample = c.hasSample)
    (hcreated : c'.snapshot.state = .created → c.snapshot.state = .created)
    (hcurrent : c'.snapshot.currentState =
      if c'.snapshot.state = .running then xs.getLast?.getD .neutral else .neutral) :
    Tallied xs c' := by
  obtain ⟨⟨state, count, stamp, current, flags, lt, rt, lx, lX, ly, lY, rx, rX, ry, rY⟩,
    sample⟩ := c
  obtain ⟨⟨state', count', stamp', current', flags', lt', rt', lx', lX', ly', lY', rx', rX', ry',
    rY'⟩, sample'⟩ := c'
  simp only [statistics, InputCaptureSnapshot.mk.injEq, true_and] at he
  obtain ⟨rfl, rfl, rfl, rfl, rfl, rfl, rfl, rfl, rfl, rfl, rfl, rfl, rfl⟩ := he
  have ht := h.tallies
  have haxis := forall_axes.mp ht.axis
  exact ⟨⟨ht.count, forall_axes.mpr haxis, ht.flags, ht.leftTrigger, ht.rightTrigger, hcurrent⟩,
    by rw [hs]; exact h.hasSample, fun hc => h.created (hcreated hc)⟩

theorem leave_neutral (c : InputCapture) {state : SessionState} (hs : state ≠ .running) :
    (c.leave state).snapshot.currentState =
      if (c.leave state).snapshot.state = .running then xs.getLast?.getD .neutral
      else .neutral := by
  exact (if_neg hs).symm

/-- **One call.** -/
theorem Tallied.after (h : Tallied xs c) (a : Call) : Tallied (xs ++ c.sampled a) (c.after a) := by
  have hcurrent := h.tallies.current
  cases a with
  | onState x timestampUs =>
    by_cases hr : c.snapshot.state = .running
    · rw [sampled, if_pos hr]
      exact h.onState hr x timestampUs
    · rw [sampled, if_neg hr, List.append_nil, InputCapture.after, InputCapture.onState,
        if_pos hr]
      exact h
  | start opened =>
    rw [sampled, List.append_nil, InputCapture.after, start]
    split
    · exact h
    · rename_i hcreated
      have hxs := h.created (not_not.mp hcreated)
      subst hxs
      rw [not_not] at hcreated
      rw [hcreated, if_neg (by decide)] at hcurrent
      cases opened with
      | true => exact h.congr rfl rfl (fun _ => hcreated) (by simpa [setState] using hcurrent)
      | false => exact h.congr rfl rfl (fun _ => hcreated) (by simpa [setState] using hcurrent)
  | onDisconnected =>
    rw [sampled, List.append_nil, InputCapture.after, onDisconnected]
    split
    · exact h.congr rfl rfl (fun he => by cases he) (leave_neutral c (by decide))
    · exact h
  | stop =>
    rw [sampled, List.append_nil, InputCapture.after, stop]
    split
    · exact h
    · exact h.congr rfl rfl (fun he => by cases he) (leave_neutral c (by decide))

theorem tallied_captured (l : List Call) : Tallied (samples l) (captured l) := by
  induction l using List.reverseRecOn with
  | nil => exact tallied_init
  | append_singleton l a ih =>
    rw [samples_snoc, captured_snoc]
    exact ih.after a

/-! ### When it is over -/

/-- Neither to be started nor running. -/
def Over (c : InputCapture) : Prop := c.snapshot.state ≠ .created ∧ c.snapshot.state ≠ .running

theorem Over.after (h : Over c) (a : Call) : Over (c.after a) ∧ c.sampled a = [] ∧
    statistics (c.after a).snapshot = statistics c.snapshot := by
  cases a with
  | onState x timestampUs =>
    rw [sampled, if_neg h.2, InputCapture.after, InputCapture.onState, if_pos h.2]
    exact ⟨h, rfl, rfl⟩
  | start opened =>
    rw [InputCapture.after, start, if_pos h.1]
    exact ⟨h, rfl, rfl⟩
  | onDisconnected =>
    rw [InputCapture.after, onDisconnected, if_neg h.2]
    exact ⟨h, rfl, rfl⟩
  | stop =>
    rw [InputCapture.after, stop]
    split
    · exact ⟨h, rfl, rfl⟩
    · exact ⟨⟨by simp [leave], by simp [leave]⟩, rfl, rfl⟩

theorem Over.run (m : List Call) : ∀ {c : InputCapture}, Over c →
    statistics (m.foldl InputCapture.after c).snapshot = statistics c.snapshot := by
  induction m with
  | nil => intro c _; rfl
  | cons a m ih =>
    intro c h
    obtain ⟨ha, _, he⟩ := h.after a
    exact (ih ha).trans he

/-- **The statistics are exact** after any sequence of calls, up to the width of the
counter, and stay as they are once the capture has left `kRunning`. -/
theorem capture_exact (l : List Call) :
    Tallies (samples l) (captured l).snapshot ∧
      (Over (captured l) → ∀ m,
        statistics (captured (l ++ m)).snapshot = statistics (captured l).snapshot) := by
  refine ⟨(tallied_captured l).tallies, ?_⟩
  intro h m
  rw [captured, List.foldl_append]
  exact Over.run m h

/-! ### The width of the counter -/

theorem samplesFrom_running (state : GamepadStateV1) (n : Nat) : ∀ {c : InputCapture},
    c.snapshot.state = .running →
    (c.samplesFrom (List.replicate n (.onState state 0))).length = n := by
  induction n with
  | zero => intro c _; rfl
  | succ n ih =>
    intro c hr
    have hnext : (c.after (.onState state 0)).snapshot.state = .running :=
      (onState_fields hr state 0).2.1
    rw [List.replicate_succ, samplesFrom, sampled, if_pos hr, List.length_append, ih hnext,
      List.length_singleton, Nat.add_comm]

theorem samples_running (n : Nat) :
    (samples (.start true :: List.replicate n (.onState .neutral 0))).length = n := by
  rw [samples, samplesFrom, sampled, List.nil_append]
  exact samplesFrom_running .neutral n rfl

/-- **After `2 ^ 64` samples the counter is back at 0.** -/
theorem sampleCount_wraps :
    ¬ ∀ l : List Call, (captured l).snapshot.sampleCount.toNat = (samples l).length := by
  intro h
  have hmod : ∀ n : Nat, n % 2 ^ 64 = n := by
    intro n
    have hn := h (.start true :: List.replicate n (.onState .neutral 0))
    rwa [(tallied_captured _).tallies.count, samples_running] at hn
  exact absurd (hmod (2 ^ 64)) (by decide)

end InputCapture

end RemoteController
