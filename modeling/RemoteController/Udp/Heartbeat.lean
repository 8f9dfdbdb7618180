import RemoteController.Lib.Transition

/-!
# The heartbeat

`ClientControlLoop` sends a HEARTBEAT once a second, and `ServerControlLoop` gives the
client up when it has read none for three seconds.  Here are the two loops with their
clocks, in milliseconds, for as long as both sides run and send nothing else: a round of
the client's loop, and on the server's side the test of the timeout, and the read or the
wait that follows it.

What is not in the program's hands is in `Bounds`: how late a round of the client's loop
may come, how long a frame may be under way, and how long one step of the server's loop
may take.  `Timely` says that a run keeps them.

* `gives_up_iff`: the bounds under which no live client is given up, and no weaker ones.
* `heard_lately`: a client that has gone silent is given up in time.
-/

namespace RemoteController

open Lib

namespace Heartbeat

def kHeartbeatPeriod : Nat := 1000

def kHeartbeatTimeout : Nat := 3000

/-- Where the server's loop is: before the test of the timeout, in front of
`WaitForSocket`, or out of the loop after `SignalDisconnected(WSAETIMEDOUT, …)`. -/
inductive Phase where
  | test
  | wait
  | timedOut
  deriving DecidableEq, Repr

/-- The clock, the client's `next_heartbeat`, the heartbeats under way and those that have
arrived, each with the time it was sent at, and the server's `last_heartbeat`.  `stepped`
is when the server's loop made its latest step. -/
structure State where
  now : Nat := 0
  nextHeartbeat : Nat
  underWay : List Nat := []
  arrived : List Nat := []
  lastHeartbeat : Nat := 0
  phase : Phase := .test
  stepped : Nat := 0
  deriving DecidableEq, Repr

inductive Label where
  | tick (d : Nat)
  /-- A round of the client's loop. -/
  | client
  /-- The oldest heartbeat that is under way can be read. -/
  | arrive
  | test
  | read
  /-- `WaitForSocket` returns false. -/
  | nothing
  deriving DecidableEq, Repr

def next (s : State) : Label → Option State
  | .tick d => some { s with now := s.now + d }
  | .client =>
    some (if s.nextHeartbeat ≤ s.now then
      { s with underWay := s.underWay ++ [s.now], nextHeartbeat := s.now + kHeartbeatPeriod }
    else s)
  | .arrive =>
    match s.underWay with
    | [] => none
    | sent :: rest => some { s with underWay := rest, arrived := s.arrived ++ [sent] }
  | .test =>
    if s.phase = .test then
      some { s with
        phase := if kHeartbeatTimeout < s.now - s.lastHeartbeat then .timedOut else .wait
        stepped := s.now }
    else none
  | .read =>
    match s.phase, s.arrived with
    | .wait, _ :: rest =>
      some { s with
        arrived := rest, lastHeartbeat := s.now, phase := .test, stepped := s.now }
    | _, _ => none
  | .nothing =>
    match s.phase, s.arrived with
    | .wait, [] => some { s with phase := .test, stepped := s.now }
    | _, _ => none

/-- Both loops at the start of the server's, at time 0; the client's first heartbeat is due
at `start`. -/
def system (start : Nat) : System State Label where
  init := { nextHeartbeat := start }
  next := next

/-! ### Time -/

/-- `gap`: how long after it is due a heartbeat is sent at the latest; `delay`: how long it
is under way at most; `pace`: how long one step of the server's loop takes at most. -/
structure Bounds where
  gap : Nat
  delay : Nat
  pace : Nat

/-- The clock does not run past what the bounds allow. -/
def Timely (b : Bounds) (s : State) : Label → Prop
  | .tick d =>
    s.now + d ≤ s.nextHeartbeat + b.gap ∧ (∀ sent ∈ s.underWay, s.now + d ≤ sent + b.delay) ∧
      (s.phase ≠ .timedOut → s.now + d ≤ s.stepped + b.pace)
  | _ => True

/-- The server's loop keeps its pace; nothing is said of the client and the network. -/
def Paced (pace : Nat) (s : State) : Label → Prop
  | .tick d => s.phase ≠ .timedOut → s.now + d ≤ s.stepped + pace
  | _ => True

instance (b : Bounds) (s : State) (a : Label) : Decidable (Timely b s a) := by
  cases a <;> unfold Timely <;> infer_instance

instance (pace : Nat) (s : State) (a : Label) : Decidable (Paced pace s a) := by
  cases a <;> unfold Paced <;> infer_instance

/-- The heartbeats `sent` come after the time `t`, each in time after the one before it, and
`due` is when the next one is. -/
def Spaced (gap : Nat) : Nat → List Nat → Nat → Prop
  | t, [], due => due ≤ t + kHeartbeatPeriod
  | t, sent :: rest, due => sent ≤ t + kHeartbeatPeriod + gap ∧ Spaced gap sent rest due

theorem Spaced.mono {gap : Nat} : ∀ {l : List Nat} {t t' due : Nat}, Spaced gap t l due → t ≤ t' →
    Spaced gap t' l due := by
  intro l
  cases l with
  | nil =>
    intro t t' due h hle
    exact Nat.le_trans h (Nat.add_le_add_right hle _)
  | cons sent rest =>
    intro t t' due h hle
    have h1 := h.1
    exact ⟨by omega, h.2⟩

/-- A heartbeat is sent, no later than `gap` after it is due. -/
theorem Spaced.send {gap now : Nat} : ∀ {l : List Nat} {t due : Nat}, Spaced gap t l due →
    now ≤ due + gap → Spaced gap t (l ++ [now]) (now + kHeartbeatPeriod) := by
  intro l
  induction l with
  | nil =>
    intro t due h hle
    have h' : due ≤ t + kHeartbeatPeriod := h
    exact ⟨by omega, Nat.le_refl _⟩
  | cons sent rest ih =>
    intro t due h hle
    exact ⟨h.1, ih h.2 hle⟩

/-! ### No live client is given up -/

/-- What holds while the bounds are kept: the heartbeats are spaced, none is overdue, and
the server's next test comes early enough. -/
structure Alive (b : Bounds) (s : State) : Prop where
  spaced : Spaced b.gap s.lastHeartbeat (s.arrived ++ s.underWay) s.nextHeartbeat
  due : s.now ≤ s.nextHeartbeat + b.gap
  onTime : ∀ sent ∈ s.underWay, s.now ≤ sent + b.delay
  past : ∀ sent ∈ s.arrived ++ s.underWay, sent ≤ s.now
  running : s.phase ≠ .timedOut
  paced : s.now ≤ s.stepped + b.pace
  order : s.lastHeartbeat ≤ s.now ∧ s.stepped ≤ s.now
  /-- A heartbeat that has arrived did so after the latest step in front of a test. -/
  fresh : s.phase = .test → s.arrived ≠ [] →
    s.stepped ≤ s.lastHeartbeat + kHeartbeatPeriod + b.gap + b.delay

/-- While nothing has arrived, the next heartbeat is not overdue. -/
theorem Alive.now_le {b : Bounds} {s : State} (h : Alive b s) (ha : s.arrived = []) :
    s.now ≤ s.lastHeartbeat + kHeartbeatPeriod + b.gap + b.delay := by
  have hs := h.spaced
  have hd := h.due
  rw [ha, List.nil_append] at hs
  cases hu : s.underWay with
  | nil =>
    rw [hu] at hs
    have hs' : s.nextHeartbeat ≤ s.lastHeartbeat + kHeartbeatPeriod := hs
    omega
  | cons sent rest =>
    rw [hu] at hs
    have h1 := hs.1
    have h2 := h.onTime sent (by rw [hu]; exact List.mem_cons_self)
    omega

/-- **The test passes.** -/
theorem Alive.test {b : Bounds} {s : State} (h : Alive b s) (hp : s.phase = .test)
    (hb : kHeartbeatPeriod + b.gap + b.delay + b.pace ≤ kHeartbeatTimeout) :
    s.now - s.lastHeartbeat ≤ kHeartbeatTimeout := by
  by_cases ha : s.arrived = []
  · have := h.now_le ha
    omega
  · have h1 := h.fresh hp ha
    have h2 := h.paced
    omega

theorem alive_init (b : Bounds) {start : Nat} (hs : start ≤ kHeartbeatPeriod) :
    Alive b { nextHeartbeat := start } where
  spaced := by
    show start ≤ 0 + kHeartbeatPeriod
    omega
  due := Nat.zero_le _
  onTime := by simp
  past := by simp
  running := by simp
  paced := Nat.zero_le _
  order := ⟨Nat.le_refl _, Nat.le_refl _⟩
  fresh := by simp

/-- A heartbeat that is due is sent. -/
theorem Alive.sends {b : Bounds} {s : State} (h : Alive b s) :
    Alive b { s with
      underWay := s.underWay ++ [s.now], nextHeartbeat := s.now + kHeartbeatPeriod } := by
  obtain ⟨hspaced, hdue, honTime, hpast, hrunning, hpaced, horder, hfresh⟩ := h
  refine ⟨?_, by dsimp only; omega, ?_, ?_, hrunning, hpaced, horder, hfresh⟩
  · show Spaced b.gap s.lastHeartbeat (s.arrived ++ (s.underWay ++ [s.now])) _
    rw [← List.append_assoc]
    exact hspaced.send hdue
  · intro sent hm
    rcases List.mem_append.mp hm with hm | hm
    · exact honTime sent hm
    · rw [List.mem_singleton.mp hm]
      exact Nat.le_add_right _ _
  · intro sent hm
    rcases List.mem_append.mp hm with hm | hm
    · exact hpast sent (List.mem_append_left _ hm)
    · rcases List.mem_append.mp hm with hm | hm
      · exact hpast sent (List.mem_append_right _ hm)
      · exact Nat.le_of_eq (List.mem_singleton.mp hm)

/-- The oldest heartbeat under way arrives. -/
theorem Alive.arrives {b : Bounds} {s : State} {sent : Nat} {rest : List Nat} (h : Alive b s)
    (hu : s.underWay = sent :: rest) :
    Alive b { s with underWay := rest, arrived := s.arrived ++ [sent] } := by
  have hlist : (s.arrived ++ [sent]) ++ rest = s.arrived ++ s.underWay := by simp [hu]
  refine ⟨?_, h.due, ?_, ?_, h.running, h.paced, h.order, ?_⟩
  · show Spaced b.gap s.lastHeartbeat ((s.arrived ++ [sent]) ++ rest) _
    rw [hlist]
    exact h.spaced
  · exact fun sent' hm => h.onTime sent' (by rw [hu]; exact List.mem_cons_of_mem _ hm)
  · show ∀ sent' ∈ (s.arrived ++ [sent]) ++ rest, sent' ≤ s.now
    rw [hlist]
    exact h.past
  · intro hp _
    by_cases ha : s.arrived = []
    · have hnow := h.now_le ha
      have hstepped := h.order.2
      show s.stepped ≤ s.lastHeartbeat + kHeartbeatPeriod + b.gap + b.delay
      omega
    · exact h.fresh hp ha

/-- The oldest heartbeat that has arrived is read. -/
theorem Alive.reads {b : Bounds} {s : State} {sent : Nat} {rest : List Nat} (h : Alive b s)
    (ha : s.arrived = sent :: rest) :
    Alive b { s with
      arrived := rest, lastHeartbeat := s.now, phase := .test, stepped := s.now } := by
  obtain ⟨hspaced, hdue, honTime, hpast, _, _, _, _⟩ := h
  rw [ha] at hspaced hpast
  refine ⟨hspaced.2.mono (hpast sent List.mem_cons_self), hdue, honTime,
    fun sent' hm => hpast sent' (List.mem_cons_of_mem _ hm), by simp, Nat.le_add_right _ _,
    ⟨Nat.le_refl _, Nat.le_refl _⟩, fun _ _ => ?_⟩
  show s.now ≤ s.now + kHeartbeatPeriod + b.gap + b.delay
  omega

theorem Alive.next {b : Bounds} {s t : State} {a : Label} (h : Alive b s) (hok : Timely b s a)
    (hb : kHeartbeatPeriod + b.gap + b.delay + b.pace ≤ kHeartbeatTimeout)
    (hn : Heartbeat.next s a = some t) : Alive b t := by
  obtain ⟨hlast, hstepped⟩ := h.order
  cases a with
  | tick d =>
    obtain rfl := Option.some.inj hn
    exact ⟨h.spaced, hok.1, hok.2.1,
      fun sent hm => Nat.le_trans (h.past sent hm) (Nat.le_add_right _ _), h.running,
      hok.2.2 h.running, ⟨Nat.le_trans hlast (Nat.le_add_right _ _),
        Nat.le_trans hstepped (Nat.le_add_right _ _)⟩, h.fresh⟩
  | client =>
    obtain rfl := Option.some.inj hn
    split
    · exact h.sends
    · exact h
  | arrive =>
    cases hu : s.underWay with
    | nil => simp [Heartbeat.next, hu] at hn
    | cons sent rest =>
      simp only [Heartbeat.next, hu, Option.some.injEq] at hn
      subst hn
      exact h.arrives hu
  | test =>
    simp only [Heartbeat.next] at hn
    split at hn
    · rename_i hp
      have hpass := h.test hp hb
      rw [if_neg (by omega)] at hn
      obtain rfl := Option.some.inj hn
      exact ⟨h.spaced, h.due, h.onTime, h.past, by simp, Nat.le_add_right _ _,
        ⟨hlast, Nat.le_refl _⟩, fun h => by cases h⟩
    · cases hn
  | read =>
    cases hp : s.phase with
    | test | timedOut => simp [Heartbeat.next, hp] at hn
    | wait =>
      cases ha : s.arrived with
      | nil => simp [Heartbeat.next, hp, ha] at hn
      | cons sent rest =>
        simp only [Heartbeat.next, hp, ha, Option.some.injEq] at hn
        subst hn
        exact h.reads ha
  | nothing =>
    cases hp : s.phase with
    | test | timedOut => simp [Heartbeat.next, hp] at hn
    | wait =>
      cases ha : s.arrived with
      | cons sent rest => simp [Heartbeat.next, hp, ha] at hn
      | nil =>
        simp only [Heartbeat.next, hp, ha, Option.some.injEq] at hn
        subst hn
        have hspaced := h.spaced
        have hpast := h.past
        rw [ha] at hspaced hpast
        exact ⟨hspaced, h.due, h.onTime, hpast, by simp, Nat.le_add_right _ _,
          ⟨hlast, Nat.le_refl _⟩, fun _ hne => absurd rfl hne⟩

/-! ### With weaker bounds one is -/

variable {b : Bounds}

/-- A timely run, of a client whose first heartbeat is due after a period, ends in `P`. -/
def Reaches (b : Bounds) (P : State → Prop) : Prop :=
  ∃ l s, (system kHeartbeatPeriod).RunWith (Timely b) l s ∧ P s

/-- One more step, if one is needed. -/
theorem Reaches.step {P Q : State → Prop} (h : Reaches b P)
    (hs : ∀ s, P s → Q s ∨ ∃ a t, Timely b s a ∧ Heartbeat.next s a = some t ∧ Q t) :
    Reaches b Q := by
  obtain ⟨l, s, hrun, hp⟩ := h
  rcases hs s hp with hq | ⟨a, t, hok, hn, hq⟩
  · exact ⟨l, s, hrun, hq⟩
  · exact ⟨l ++ [a], t, hrun.snoc hok hn, hq⟩

/-- The server waits in vain at time `n`: each heartbeat that is under way was sent as late
as it could be, none has arrived, and the loop is in front of its test. -/
structure Idle (b : Bounds) (n : Nat) (s : State) : Prop where
  now : s.now = n
  stepped : s.stepped = n
  last : s.lastHeartbeat = 0
  arrived : s.arrived = []
  late : ∀ sent ∈ s.underWay, kHeartbeatPeriod + b.gap ≤ sent
  period : kHeartbeatPeriod ≤ s.nextHeartbeat
  due : n ≤ s.nextHeartbeat + b.gap

theorem idle_zero : Reaches b fun s => Idle b 0 s ∧ s.phase = .test :=
  ⟨[], _, .start, ⟨rfl, rfl, rfl, rfl, by simp [system], Nat.le_refl _, Nat.zero_le _⟩, rfl⟩

/-- A millisecond goes by without a heartbeat. -/
theorem idle_succ {n : Nat} (hpace : 1 ≤ b.pace) (hn : n ≤ kHeartbeatTimeout)
    (hd : n + 1 ≤ kHeartbeatPeriod + b.gap + b.delay)
    (h : Reaches b fun s => Idle b n s ∧ s.phase = .test) :
    Reaches b fun s => Idle b (n + 1) s ∧ s.phase = .test := by
  have htest : Reaches b fun s => Idle b n s ∧ s.phase = .wait := by
    refine h.step fun s ⟨hi, hp⟩ => .inr ⟨.test, _, trivial, if_pos hp, ?_, ?_⟩
    · exact ⟨hi.now, hi.now, hi.last, hi.arrived, hi.late, hi.period, hi.due⟩
    · have h0 := hi.last
      have h1 := hi.now
      exact if_neg (by omega)
  have hsent : Reaches b fun s =>
      Idle b n s ∧ s.phase = .wait ∧ n + 1 ≤ s.nextHeartbeat + b.gap := by
    refine htest.step fun s ⟨hi, hp⟩ => ?_
    by_cases hdue : n + 1 ≤ s.nextHeartbeat + b.gap
    · exact .inl ⟨hi, hp, hdue⟩
    · have h1 := hi.now
      have h2 := hi.due
      have h3 := hi.period
      refine .inr ⟨.client, _, trivial, congrArg some (if_pos (by omega)), ?_, hp, ?_⟩
      · refine ⟨hi.now, hi.stepped, hi.last, hi.arrived, fun sent hm => ?_, ?_, ?_⟩
        · rcases List.mem_append.mp hm with hm | hm
          · exact hi.late sent hm
          · rw [List.mem_singleton.mp hm]
            omega
        · dsimp only
          omega
        · dsimp only
          omega
      · have hpos : 0 < kHeartbeatPeriod := by decide
        dsimp only
        omega
  have htick : Reaches b fun s => s.phase = .wait ∧ s.arrived = [] ∧ s.now = n + 1 ∧
      s.lastHeartbeat = 0 ∧ (∀ sent ∈ s.underWay, kHeartbeatPeriod + b.gap ≤ sent) ∧
      kHeartbeatPeriod ≤ s.nextHeartbeat ∧ n + 1 ≤ s.nextHeartbeat + b.gap := by
    refine hsent.step fun s ⟨hi, hp, hdue⟩ => .inr ⟨.tick 1, _,
      ⟨?_, fun sent hm => ?_, fun _ => ?_⟩, rfl, hp, hi.arrived, congrArg (· + 1) hi.now,
      hi.last, hi.late, hi.period, hdue⟩
    · rw [hi.now]
      exact hdue
    · have h1 := hi.late sent hm
      rw [hi.now]
      omega
    · rw [hi.now, hi.stepped]
      omega
  refine htick.step fun s ⟨hp, ha, hnow, hlast, hlate, hperiod, hdue⟩ =>
    .inr ⟨.nothing, { s with phase := .test, stepped := s.now }, trivial, ?_,
      ⟨hnow, hnow, hlast, ha, hlate, hperiod, hdue⟩, rfl⟩
  simp [Heartbeat.next, hp, ha]

theorem idle_of_le (hpace : 1 ≤ b.pace) : ∀ n, n ≤ kHeartbeatTimeout + 1 →
    n ≤ kHeartbeatPeriod + b.gap + b.delay →
    Reaches b fun s => Idle b n s ∧ s.phase = .test := by
  intro n
  induction n with
  | zero => exact fun _ _ => idle_zero
  | succ n ih =>
    intro h1 h2
    exact idle_succ hpace (by omega) h2 (ih (by omega) (by omega))

/-- The test is late, whatever has arrived: the loop has made no step since time `n`. -/
structure Stuck (b : Bounds) (n m : Nat) (s : State) : Prop where
  now : s.now = n + m
  stepped : s.stepped = n
  last : s.lastHeartbeat = 0
  phase : s.phase = .test
  empty : s.underWay = []
  due : n + m ≤ s.nextHeartbeat + b.gap

/-- All that is under way arrives. -/
theorem stuck_of_underWay {n m : Nat} : ∀ k, (Reaches b fun s => s.underWay.length = k ∧
    s.now = n + m ∧ s.stepped = n ∧ s.lastHeartbeat = 0 ∧ s.phase = .test ∧
      n + m ≤ s.nextHeartbeat + b.gap) → Reaches b (Stuck b n m) := by
  intro k
  induction k with
  | zero =>
    intro h
    exact h.step fun s ⟨hl, hnow, hst, hlast, hp, hdue⟩ =>
      .inl ⟨hnow, hst, hlast, hp, List.eq_nil_of_length_eq_zero hl, hdue⟩
  | succ k ih =>
    intro h
    refine ih (h.step fun s ⟨hl, hnow, hst, hlast, hp, hdue⟩ => .inr ?_)
    obtain ⟨sent, rest, hu⟩ := List.exists_cons_of_length_eq_add_one hl
    refine ⟨.arrive, { s with underWay := rest, arrived := s.arrived ++ [sent] }, trivial, ?_, ?_,
      hnow, hst, hlast, hp, hdue⟩
    · simp [Heartbeat.next, hu]
    · simpa [hu] using hl

theorem stuck_succ {n m : Nat} (hm : m + 1 ≤ b.pace) (h : Reaches b (Stuck b n m)) :
    Reaches b (Stuck b n (m + 1)) := by
  have hsent : Reaches b fun s => Stuck b n m s ∧ n + m + 1 ≤ s.nextHeartbeat + b.gap := by
    by_cases hall : ∃ l s, (system kHeartbeatPeriod).RunWith (Timely b) l s ∧ Stuck b n m s ∧
        n + m + 1 ≤ s.nextHeartbeat + b.gap
    · exact hall
    · -- the next heartbeat cannot wait any longer: it is sent, and arrives at once
      have hclient : Reaches b fun s => s.underWay.length = 1 ∧ s.now = n + m ∧ s.stepped = n ∧
          s.lastHeartbeat = 0 ∧ s.phase = .test ∧
          s.nextHeartbeat = n + m + kHeartbeatPeriod := by
        obtain ⟨l, s, hrun, hs⟩ := h
        have hdue := hs.due
        have hnow := hs.now
        have hover : ¬ n + m + 1 ≤ s.nextHeartbeat + b.gap := fun hle => hall ⟨l, s, hrun, hs, hle⟩
        have hok : Timely b s .client := trivial
        have hn : Heartbeat.next s .client = some { s with
            underWay := s.underWay ++ [s.now], nextHeartbeat := s.now + kHeartbeatPeriod } :=
          congrArg some (if_pos (by omega))
        refine ⟨_, _, hrun.snoc hok hn, ?_, hs.now, hs.stepped, hs.last, hs.phase, ?_⟩
        · simp [hs.empty]
        · dsimp only
          omega
      have harrive : Reaches b fun s => Stuck b n m s ∧
          s.nextHeartbeat = n + m + kHeartbeatPeriod := by
        refine hclient.step fun s ⟨hl, hnow, hst, hlast, hp, hnext⟩ => .inr ?_
        obtain ⟨sent, hu⟩ := List.length_eq_one_iff.mp hl
        refine ⟨.arrive, { s with underWay := [], arrived := s.arrived ++ [sent] }, trivial, ?_,
          ⟨hnow, hst, hlast, hp, rfl, ?_⟩, hnext⟩
        · simp [Heartbeat.next, hu]
        · dsimp only
          omega
      have hpos : 0 < kHeartbeatPeriod := by decide
      exact harrive.step fun s ⟨hs, hnext⟩ => .inl ⟨hs, by omega⟩
  refine hsent.step fun s ⟨hs, hdue⟩ => .inr ⟨.tick 1, _, ⟨?_, ?_, fun _ => ?_⟩, rfl,
    ⟨?_, hs.stepped, hs.last, hs.phase, hs.empty, hdue⟩⟩
  · rw [hs.now]
    exact hdue
  · rw [hs.empty]
    simp
  · rw [hs.now, hs.stepped]
    omega
  · show s.now + 1 = n + (m + 1)
    rw [hs.now]
    rfl

/-- A test more than the timeout after the start ends the loop. -/
theorem timedOut_of_late {n : Nat} (hn : kHeartbeatTimeout < n)
    (h : Reaches b fun s => s.now = n ∧ s.lastHeartbeat = 0 ∧ s.phase = .test) :
    Reaches b fun s => s.phase = .timedOut := by
  refine h.step fun s ⟨hnow, hlast, hp⟩ => .inr ⟨.test, _, trivial, if_pos hp, ?_⟩
  exact if_pos (by omega)

/-- **A live client is given up** as soon as the bounds allow it. -/
theorem reaches_timedOut (hpace : 1 ≤ b.pace)
    (hb : kHeartbeatTimeout < kHeartbeatPeriod + b.gap + b.delay + b.pace) :
    Reaches b fun s => s.phase = .timedOut := by
  by_cases hlong : kHeartbeatTimeout + 1 ≤ kHeartbeatPeriod + b.gap + b.delay
  · refine timedOut_of_late (Nat.lt_succ_self _) ?_
    exact (idle_of_le hpace _ (Nat.le_refl _) hlong).step fun s ⟨hi, hp⟩ =>
      .inl ⟨hi.now, hi.last, hp⟩
  · have hidle := idle_of_le (n := kHeartbeatPeriod + b.gap + b.delay) hpace (by omega)
      (Nat.le_refl _)
    obtain ⟨l, s, hrun, hi, hp⟩ := hidle
    have hstuck : ∀ m, m ≤ b.pace →
        Reaches b (Stuck b (kHeartbeatPeriod + b.gap + b.delay) m) := by
      intro m
      induction m with
      | zero =>
        intro _
        exact stuck_of_underWay s.underWay.length
          ⟨l, s, hrun, rfl, hi.now, hi.stepped, hi.last, hp, hi.due⟩
      | succ m ih => exact fun hm => stuck_succ hm (ih (by omega))
    refine timedOut_of_late (n := kHeartbeatPeriod + b.gap + b.delay + b.pace) hb ?_
    exact (hstuck b.pace (Nat.le_refl _)).step fun s hs => .inl ⟨hs.now, hs.last, hs.phase⟩

/-! ### A silent client is -/

/-- What the server's pace gives, whatever the client does. -/
structure Watched (pace : Nat) (s : State) : Prop where
  paced : s.phase ≠ .timedOut → s.now ≤ s.stepped + pace
  wait : s.phase = .wait → s.stepped ≤ s.lastHeartbeat + kHeartbeatTimeout
  test : s.phase = .test → s.stepped ≤ s.lastHeartbeat + kHeartbeatTimeout + pace

theorem Watched.next {pace : Nat} {s t : State} {a : Label} (h : Watched pace s)
    (hok : Paced pace s a) (hn : Heartbeat.next s a = some t) : Watched pace t := by
  cases a with
  | tick d =>
    obtain rfl := Option.some.inj hn
    exact ⟨hok, h.wait, h.test⟩
  | client =>
    obtain rfl := Option.some.inj hn
    split
    · exact ⟨h.paced, h.wait, h.test⟩
    · exact h
  | arrive =>
    cases hu : s.underWay with
    | nil => simp [Heartbeat.next, hu] at hn
    | cons sent rest =>
      simp only [Heartbeat.next, hu, Option.some.injEq] at hn
      subst hn
      exact ⟨h.paced, h.wait, h.test⟩
  | test =>
    simp only [Heartbeat.next] at hn
    split at hn
    · obtain rfl := Option.some.inj hn
      by_cases hlate : kHeartbeatTimeout < s.now - s.lastHeartbeat
      · rw [if_pos hlate]
        exact ⟨fun hp => absurd rfl hp, fun hp => (by cases hp), fun hp => (by cases hp)⟩
      · rw [if_neg hlate]
        refine ⟨fun _ => Nat.le_add_right _ _, fun _ => ?_, fun hp => by cases hp⟩
        dsimp only
        omega
    · cases hn
  | read =>
    cases hp : s.phase with
    | test | timedOut => simp [Heartbeat.next, hp] at hn
    | wait =>
      cases ha : s.arrived with
      | nil => simp [Heartbeat.next, hp, ha] at hn
      | cons sent rest =>
        simp only [Heartbeat.next, hp, ha, Option.some.injEq] at hn
        subst hn
        refine ⟨fun _ => Nat.le_add_right _ _, fun h => (by cases h), fun _ => ?_⟩
        dsimp only
        omega
  | nothing =>
    cases hp : s.phase with
    | test | timedOut => simp [Heartbeat.next, hp] at hn
    | wait =>
      cases ha : s.arrived with
      | cons sent rest => simp [Heartbeat.next, hp, ha] at hn
      | nil =>
        simp only [Heartbeat.next, hp, ha, Option.some.injEq] at hn
        subst hn
        have h1 := h.paced (by rw [hp]; simp)
        have h2 := h.wait hp
        refine ⟨fun _ => Nat.le_add_right _ _, fun h => (by cases h), fun _ => ?_⟩
        dsimp only
        omega

theorem watched_of_run {start pace : Nat} {l : List Label} {s : State}
    (h : (system start).RunWith (Paced pace) l s) : Watched pace s :=
  h.invariant (P := fun _ s => Watched pace s)
    ⟨fun _ => Nat.zero_le _, fun _ => Nat.zero_le _, fun _ => Nat.zero_le _⟩
    fun _ _ _ _ _ hw hok hn => hw.next hok hn

end Heartbeat

/-- **When a live client is given up**: just if the period of the heartbeat, its lateness,
its way and one step of the server's loop may add up to more than the timeout. -/
theorem gives_up_iff (b : Heartbeat.Bounds) (hpace : 1 ≤ b.pace) :
    (∃ start l s, start ≤ Heartbeat.kHeartbeatPeriod ∧
        (Heartbeat.system start).RunWith (Heartbeat.Timely b) l s ∧ s.phase = .timedOut) ↔
      Heartbeat.kHeartbeatTimeout <
        Heartbeat.kHeartbeatPeriod + b.gap + b.delay + b.pace := by
  constructor
  · rintro ⟨start, l, s, hstart, hrun, hp⟩
    by_contra hb
    have halive := hrun.invariant (P := fun _ s => Heartbeat.Alive b s)
      (Heartbeat.alive_init b hstart)
      fun _ _ _ _ _ ha hok hn => ha.next hok (Nat.not_lt.mp hb) hn
    exact halive.running hp
  · intro hb
    obtain ⟨l, s, hrun, hp⟩ := Heartbeat.reaches_timedOut hpace hb
    exact ⟨Heartbeat.kHeartbeatPeriod, l, s, Nat.le_refl _, hrun, hp⟩

/-- With a heartbeat under way for nearly two seconds a live client may be given up, with
one under way for half a second it is not. -/
theorem gives_up_iff_delay :
    (∃ start l s, start ≤ Heartbeat.kHeartbeatPeriod ∧
        (Heartbeat.system start).RunWith (Heartbeat.Timely ⟨100, 1800, 200⟩) l s ∧
          s.phase = .timedOut) ∧
      ¬ ∃ start l s, start ≤ Heartbeat.kHeartbeatPeriod ∧
        (Heartbeat.system start).RunWith (Heartbeat.Timely ⟨100, 500, 200⟩) l s ∧
          s.phase = .timedOut :=
  ⟨(gives_up_iff ⟨100, 1800, 200⟩ (by decide)).mpr (by decide),
    fun h => absurd ((gives_up_iff ⟨100, 500, 200⟩ (by decide)).mp h) (by decide)⟩

/-- **A client that is silent is given up in time**: a server whose loop keeps its pace, and
that has not given up, has read a heartbeat within the timeout and two steps of its loop. -/
theorem heard_lately {start pace : Nat} {l : List Heartbeat.Label} {s : Heartbeat.State}
    (h : (Heartbeat.system start).RunWith (Heartbeat.Paced pace) l s) (hp : s.phase ≠ .timedOut) :
    s.now ≤ s.lastHeartbeat + Heartbeat.kHeartbeatTimeout + 2 * pace := by
  have hw := Heartbeat.watched_of_run h
  have h1 := hw.paced hp
  cases hs : s.phase with
  | timedOut => exact absurd hs hp
  | wait =>
    have h2 := hw.wait hs
    omega
  | test =>
    have h2 := hw.test hs
    omega

/-- After one heartbeat and two rounds of the server's loop. -/
theorem heard_lately_once : ∃ s, (Heartbeat.system 0).RunWith (Heartbeat.Paced 200)
    [.client, .arrive, .test, .tick 100, .read, .tick 150, .test, .nothing, .tick 200] s ∧
      s.now ≤ s.lastHeartbeat + Heartbeat.kHeartbeatTimeout + 2 * 200 := by
  have hrun : (Heartbeat.system 0).RunWith (Heartbeat.Paced 200)
      [.client, .arrive, .test, .tick 100, .read, .tick 150, .test, .nothing, .tick 200]
      { now := 450, nextHeartbeat := 1000, lastHeartbeat := 100, stepped := 250 } :=
    System.runWith_of_exec (by decide)
  exact ⟨_, hrun, heard_lately hrun (by decide)⟩

end RemoteController
