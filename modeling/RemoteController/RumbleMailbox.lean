import RemoteController.Backends
import RemoteController.Lib.Mailbox
import RemoteController.Lib.Transition

/-!
# `pending_rumble_` and `rumble_generation_`

`SetRumble` of `SdlInputBackend` and `SendRumble` of `UdpLanTransportBackend` leave
a command in two atomics: they store the packed pair and then increment the
generation.  `PollLoop` and `ServerControlLoop` load the generation and, if it is
not the one they applied, load the pair, apply it and record the generation they
loaded.  Each is one atomic step here, and any number of setters may be between
their two.

The tests in front of the two stores let a call through or end it, and touch
neither variable.  A `SendAll` that fails ends `ServerControlLoop` before it
records.  What `PollLoop` does once it has ended, a rumble of (0, 0), is not part
of its loop.

The generation is a `uint64_t` and wraps around, so `Lib.Mailbox`, whose
generations do not, is the abstract model: `Refines` relates the two, and a load
that finds equal generations after a wrap is a step that the mailbox does not
take.

* `Backed.next`: a mailbox follows every step.
* `mailbox_keeps_last`: the last command applied is the last one stored, unless
  the generation has come round since the consumer loaded it.
* `wrap_loses_command`: 2^64 setters later the last command is lost.
-/

namespace RemoteController

open Lib

/-- Where the loop is, with what it has loaded.  `left`: it has ended. -/
inductive RumbleConsumer where
  | idle
  | loaded (generation : UInt64)
  | read (generation : UInt64) (packed : UInt32)
  | applied (generation : UInt64)
  | left
  deriving DecidableEq, Repr

/-- `setting` are the commands of the setters between their two steps.  The last
five fields are not the code's: the commands stored and applied up to now, how
often the generation was incremented, and how often it had been when the consumer
loaded the generation that it is working on, and that it recorded. -/
structure RumbleAtomics where
  pendingRumble : UInt32 := 0
  rumbleGeneration : UInt64 := 0
  setting : List RumbleCommand := []
  appliedRumbleGeneration : UInt64 := 0
  consumer : RumbleConsumer := .idle
  stored : List RumbleCommand := []
  applied : List RumbleCommand := []
  increments : Nat := 0
  loadedAt : Nat := 0
  recordedAt : Nat := 0
  deriving DecidableEq, Repr

namespace RumbleAtomics

inductive Label where
  | store (command : RumbleCommand)
  | increment (command : RumbleCommand)
  | load
  | read
  | apply (ok : Bool)
  | record
  | leave
  deriving DecidableEq, Repr

def next (s : RumbleAtomics) : Label → Option RumbleAtomics
  | .store command =>
    some { s with
      pendingRumble := command.packed
      setting := command :: s.setting
      stored := s.stored ++ [command] }
  | .increment command =>
    if command ∈ s.setting then
      some { s with
        rumbleGeneration := s.rumbleGeneration + 1
        setting := s.setting.erase command
        increments := s.increments + 1 }
    else none
  | .load =>
    match s.consumer with
    | .idle =>
      if s.rumbleGeneration ≠ s.appliedRumbleGeneration then
        some { s with consumer := .loaded s.rumbleGeneration, loadedAt := s.increments }
      else some s
    | _ => none
  | .read =>
    match s.consumer with
    | .loaded generation => some { s with consumer := .read generation s.pendingRumble }
    | _ => none
  | .apply ok =>
    match s.consumer with
    | .read generation packed =>
      if ok then
        some { s with consumer := .applied generation, applied := s.applied ++ [.ofPacked packed] }
      else some { s with consumer := .left }
    | _ => none
  | .record =>
    match s.consumer with
    | .applied generation =>
      some { s with
        consumer := .idle, appliedRumbleGeneration := generation, recordedAt := s.loadedAt }
    | _ => none
  | .leave =>
    match s.consumer with
    | .idle => some { s with consumer := .left }
    | _ => none

def system : System RumbleAtomics Label where
  init := {}
  next := next

/-! ### The mailbox beside it -/

/-- The loop and the reader of the mailbox are at the same place.  Once the loop
has ended, the reader waits for ever. -/
def Sees (loadedAt : Nat) : RumbleConsumer → Reader UInt32 → Prop
  | .idle, .idle => True
  | .loaded generation, .loaded n => generation = .ofNat n ∧ loadedAt = n
  | .read generation packed, .read n v => generation = .ofNat n ∧ loadedAt = n ∧ packed = v
  | .applied generation, .used n => generation = .ofNat n ∧ loadedAt = n
  | .left, _ => True
  | _, _ => False

structure Refines (s : RumbleAtomics) (m : Mailbox UInt32) : Prop where
  slot : s.pendingRumble = m.slot
  generation : s.rumbleGeneration = .ofNat m.generation
  increments : s.increments = m.generation
  writing : s.setting.length = m.writing
  recorded : s.appliedRumbleGeneration = .ofNat m.recorded
  recordedAt : s.recordedAt = m.recorded
  reader : Sees s.loadedAt s.consumer m.reader
  stored : s.stored.map (·.packed) = m.stored
  applied : s.applied = m.uses.map .ofPacked

theorem refines_init : Refines system.init { slot := 0 } :=
  ⟨rfl, rfl, rfl, rfl, rfl, rfl, trivial, rfl, rfl⟩

theorem ofNat_succ (n : Nat) : UInt64.ofNat (n + 1) = UInt64.ofNat n + 1 := by
  apply UInt64.toNat_inj.mp
  simp [UInt64.toNat_add]

variable {s t : RumbleAtomics} {m : Mailbox UInt32}

theorem Refines.store (h : Refines s m) (command : RumbleCommand) (hm : m.Synced)
    (hn : s.next (.store command) = some t) : ∃ m', m'.Synced ∧ Refines t m' := by
  obtain rfl := Option.some.inj hn
  refine ⟨m.store command.packed, hm.store _, ?_⟩
  exact { h with
    slot := rfl
    writing := congrArg (· + 1) h.writing
    stored := by rw [Mailbox.store, List.map_append, h.stored]; rfl }

theorem Refines.increment (h : Refines s m) (command : RumbleCommand) (hm : m.Synced)
    (hn : s.next (.increment command) = some t) : ∃ m', m'.Synced ∧ Refines t m' := by
  simp only [next] at hn
  split at hn
  · rename_i hmem
    obtain rfl := Option.some.inj hn
    have hw : m.writing ≠ 0 := by
      rw [← h.writing]
      exact (List.length_pos_of_mem hmem).ne'
    have ha : m.advance =
        some { m with generation := m.generation + 1, writing := m.writing - 1 } := if_neg hw
    refine ⟨_, hm.advance ha, ?_⟩
    exact { h with
      generation := by
        show s.rumbleGeneration + 1 = .ofNat (m.generation + 1)
        rw [h.generation, ofNat_succ]
      increments := congrArg (· + 1) h.increments
      writing := by
        show (s.setting.erase command).length = m.writing - 1
        rw [List.length_erase_of_mem hmem, h.writing] }
  · cases hn

/-- **A load that finds equal generations leaves the mailbox alone**, be they equal
or a multiple of 2^64 apart. -/
theorem Refines.load (h : Refines s m) (hm : m.Synced) (hn : s.next .load = some t) :
    ∃ m', m'.Synced ∧ Refines t m' := by
  have hreader := h.reader
  cases hc : s.consumer with
  | idle =>
    simp only [next, hc] at hn
    split at hn
    · rename_i hg
      obtain rfl := Option.some.inj hn
      have hidle : m.reader = .idle := by
        rw [hc] at hreader
        cases hr : m.reader with
        | idle => rfl
        | loaded | read | used => rw [hr] at hreader; exact hreader.elim
      -- different modulo 2^64, so different
      have hne : m.generation ≠ m.recorded := by
        intro he
        exact hg (by rw [h.generation, h.recorded, he])
      have hl : m.load = some { m with reader := .loaded m.generation } := by
        rw [Mailbox.load, hidle]
        exact congrArg some (if_pos hne)
      exact ⟨_, hm.load hl, { h with reader := ⟨h.generation, h.increments⟩ }⟩
    · obtain rfl := Option.some.inj hn
      exact ⟨m, hm, h⟩
  | loaded | read | applied | left => simp only [next, hc, reduceCtorEq] at hn

theorem Refines.read (h : Refines s m) (hm : m.Synced) (hn : s.next .read = some t) :
    ∃ m', m'.Synced ∧ Refines t m' := by
  have hreader := h.reader
  cases hc : s.consumer with
  | loaded generation =>
    simp only [next, hc] at hn
    obtain rfl := Option.some.inj hn
    cases hr : m.reader with
    | loaded n =>
      rw [hc, hr] at hreader
      have hl : m.read = some { m with reader := .read n m.slot } := by rw [Mailbox.read, hr]
      exact ⟨_, hm.read hl, { h with reader := ⟨hreader.1, hreader.2, h.slot⟩ }⟩
    | idle | read | used =>
      rw [hc, hr] at hreader
      exact hreader.elim
  | idle | read | applied | left => simp only [next, hc, reduceCtorEq] at hn

theorem Refines.apply (h : Refines s m) (ok : Bool) (hm : m.Synced)
    (hn : s.next (.apply ok) = some t) : ∃ m', m'.Synced ∧ Refines t m' := by
  have hreader := h.reader
  cases hc : s.consumer with
  | read generation packed =>
    simp only [next, hc] at hn
    split at hn
    · obtain rfl := Option.some.inj hn
      cases hr : m.reader with
      | read n v =>
        rw [hc, hr] at hreader
        obtain ⟨hg, hat, rfl⟩ := hreader
        have hl : m.use =
            some (n, packed, { m with reader := .used n, uses := m.uses ++ [packed] }) := by
          rw [Mailbox.use, hr]
        refine ⟨_, hm.use hl, ?_⟩
        exact { h with
          reader := ⟨hg, hat⟩
          applied := by
            show s.applied ++ _ = (m.uses ++ [packed]).map _
            rw [h.applied, List.map_append]
            rfl }
      | idle | loaded | used =>
        rw [hc, hr] at hreader
        exact hreader.elim
    · obtain rfl := Option.some.inj hn
      exact ⟨m, hm, { h with reader := trivial }⟩
  | idle | loaded | applied | left => simp only [next, hc, reduceCtorEq] at hn

theorem Refines.record (h : Refines s m) (hm : m.Synced) (hn : s.next .record = some t) :
    ∃ m', m'.Synced ∧ Refines t m' := by
  have hreader := h.reader
  cases hc : s.consumer with
  | applied generation =>
    simp only [next, hc] at hn
    obtain rfl := Option.some.inj hn
    cases hr : m.reader with
    | used n =>
      rw [hc, hr] at hreader
      have hl : m.record = some { m with reader := .idle, recorded := n } := by
        rw [Mailbox.record, hr]
      exact ⟨_, hm.record hl,
        { h with recorded := hreader.1, recordedAt := hreader.2, reader := trivial }⟩
    | idle | loaded | read =>
      rw [hc, hr] at hreader
      exact hreader.elim
  | idle | loaded | read | left => simp only [next, hc, reduceCtorEq] at hn

theorem Refines.leave (h : Refines s m) (hm : m.Synced) (hn : s.next .leave = some t) :
    ∃ m', m'.Synced ∧ Refines t m' := by
  cases hc : s.consumer with
  | idle =>
    simp only [next, hc] at hn
    obtain rfl := Option.some.inj hn
    exact ⟨m, hm, { h with reader := trivial }⟩
  | loaded | read | applied | left => simp only [next, hc, reduceCtorEq] at hn

/-- There is a mailbox beside it. -/
def Backed (s : RumbleAtomics) : Prop := ∃ m : Mailbox UInt32, m.Synced ∧ Refines s m

theorem backed_init : Backed system.init := ⟨_, Mailbox.synced_new 0, refines_init⟩

/-- **The mailbox follows each step**, or stays where it is. -/
theorem Backed.next {a : Label} (h : Backed s) (hn : s.next a = some t) : Backed t := by
  obtain ⟨m, hm, hs⟩ := h
  cases a with
  | store command => exact hs.store command hm hn
  | increment command => exact hs.increment command hm hn
  | load => exact hs.load hm hn
  | read => exact hs.read hm hn
  | apply ok => exact hs.apply ok hm hn
  | record => exact hs.record hm hn
  | leave => exact hs.leave hm hn

theorem backed_run {l : List Label} (h : system.Run l s) : Backed s :=
  System.Run.invariant (P := fun _ s => Backed s) backed_init
    (fun _ _ _ _ _ hs hn => hs.next hn) h

/-! ### The last command -/

/-- The generation has come round, once or more often, since the consumer loaded
the one it recorded. -/
def CameRound (s : RumbleAtomics) : Prop := s.recordedAt + 2 ^ 64 ≤ s.increments

instance (s : RumbleAtomics) : Decidable (CameRound s) :=
  inferInstanceAs (Decidable (s.recordedAt + 2 ^ 64 ≤ s.increments))

/-- Equal generations stand for equally many increments, unless the generation has
come round. -/
theorem Refines.recorded_eq (h : Refines s m) (hm : m.Synced) (hround : ¬ CameRound s)
    (hg : s.appliedRumbleGeneration = s.rumbleGeneration) : m.recorded = m.generation := by
  have hle := hm.recorded
  rw [CameRound, h.recordedAt, h.increments] at hround
  rw [h.recorded, h.generation, ← UInt64.toNat_inj, UInt64.toNat_ofNat', UInt64.toNat_ofNat'] at hg
  omega

/-- The packed pairs are unpacked exactly. -/
theorem Refines.unpacked (h : Refines s m) : m.stored.map .ofPacked = s.stored := by
  rw [← h.stored, List.map_map]
  exact List.map_id'' RumbleCommand.ofPacked_packed _

theorem Backed.last (h : Backed s) (hset : s.setting = [])
    (hg : s.appliedRumbleGeneration = s.rumbleGeneration) (hround : ¬ CameRound s) :
    s.applied.getLast? = s.stored.getLast? := by
  obtain ⟨m, hm, hs⟩ := h
  have hw : m.writing = 0 := by rw [← hs.writing, hset]; rfl
  have hlast := hm.used_last hw (hs.recorded_eq hm hround hg)
  rw [hs.applied, ← hs.unpacked, List.getLast?_map, List.getLast?_map, hlast]

theorem Backed.genuine (h : Backed s) : ∀ command ∈ s.applied, command ∈ s.stored := by
  obtain ⟨m, hm, hs⟩ := h
  intro command hc
  rw [hs.applied] at hc
  obtain ⟨v, hv, rfl⟩ := List.mem_map.mp hc
  rw [← hs.unpacked]
  exact List.mem_map_of_mem (hm.genuine.1 v hv)

/-- **The mailbox loses no final command**, in any interleaving of the setters with
the loop, as long as the generation has not come round since the consumer loaded
the one it recorded; and what the loop applies is always a pair that some setter
stored. -/
theorem mailbox_keeps_last {l : List Label} (h : system.Run l s) :
    (s.setting = [] → s.appliedRumbleGeneration = s.rumbleGeneration → ¬ CameRound s →
      s.applied.getLast? = s.stored.getLast?) ∧
    ∀ command ∈ s.applied, command ∈ s.stored :=
  ⟨(backed_run h).last, (backed_run h).genuine⟩

/-- One command is set, and the loop applies it. -/
def setAndApply (command : RumbleCommand) : List Label :=
  [.store command, .increment command, .load, .read, .apply true, .record]

theorem mailbox_keeps_last_setAndApply :
    ∃ s, system.Run (setAndApply ⟨7, 9⟩) s ∧ s.applied = [⟨7, 9⟩] ∧
      s.applied.getLast? = s.stored.getLast? := by
  have h : system.Run (setAndApply ⟨7, 9⟩) _ := System.run_of_exec rfl
  exact ⟨_, h, rfl, (mailbox_keeps_last h).1 rfl rfl (by decide)⟩

/-! ### What the steps leave alone -/

/-- The step neither stores a command nor applies one. -/
structure SameCommands (s t : RumbleAtomics) : Prop where
  setting : t.setting = s.setting
  stored : t.stored = s.stored
  applied : t.applied = s.applied

/-- The loop is at its own variables. -/
def Label.ofLoop : Label → Bool
  | .load | .read | .record | .leave => true
  | _ => false

theorem sameCommands_of_loop {a : Label} (ha : a.ofLoop = true) (h : s.next a = some t) :
    SameCommands s t := by
  cases a with
  | store | increment | apply => cases ha
  | load | read | record | leave =>
    simp only [next] at h
    repeat' split at h
    all_goals cases h <;> exact ⟨rfl, rfl, rfl⟩

theorem increment_some {command : RumbleCommand} (h : s.next (.increment command) = some t) :
    t.setting = s.setting.erase command ∧ t.stored = s.stored ∧ t.applied = s.applied := by
  simp only [next, Option.ite_none_right_eq_some, Option.some.injEq] at h
  obtain ⟨_, rfl⟩ := h
  exact ⟨rfl, rfl, rfl⟩

/-- The pair that was loaded is applied. -/
theorem apply_some {generation : UInt64} {packed : UInt32}
    (hc : s.consumer = .read generation packed) (h : s.next (.apply true) = some t) :
    t.setting = s.setting ∧ t.stored = s.stored ∧ t.applied = s.applied ++ [.ofPacked packed] := by
  simp only [next, hc, if_true, Option.some.injEq] at h
  subst h
  exact ⟨rfl, rfl, rfl⟩

/-! ### When the generation comes round -/

/-- `n` setters after one another. -/
def sets (command : RumbleCommand) : Nat → List Label
  | 0 => []
  | n + 1 => sets command n ++ [.store command, .increment command]

theorem path_sets (command : RumbleCommand) (hs : s.setting = []) :
    ∀ n, ∃ t, system.Path s (sets command n) t ∧ t.setting = [] ∧
      t.rumbleGeneration = s.rumbleGeneration + .ofNat n ∧
      t.appliedRumbleGeneration = s.appliedRumbleGeneration ∧ t.applied = s.applied ∧
      (n ≠ 0 → t.stored.getLast? = some command) := by
  intro n
  induction n with
  | zero => exact ⟨s, .refl, hs, by simp, rfl, rfl, fun h => absurd rfl h⟩
  | succ n ih =>
    obtain ⟨t, hpath, hset, hgen, happ, huses, _⟩ := ih
    have hstore : t.next (.store command) = some { t with
        pendingRumble := command.packed
        setting := [command]
        stored := t.stored ++ [command] } := by
      simp [next, hset]
    have hincrement : ({ t with
        pendingRumble := command.packed
        setting := [command]
        stored := t.stored ++ [command] } : RumbleAtomics).next (.increment command) =
        some { t with
          pendingRumble := command.packed
          setting := []
          stored := t.stored ++ [command]
          rumbleGeneration := t.rumbleGeneration + 1
          increments := t.increments + 1 } := by
      simp [next]
    refine ⟨_, hpath.append (.snoc (.snoc (l := []) .refl hstore) hincrement), rfl, ?_, happ, huses,
      fun _ => List.getLast?_concat⟩
    show t.rumbleGeneration + 1 = s.rumbleGeneration + .ofNat (n + 1)
    rw [hgen, ofNat_succ, UInt64.add_assoc]

/-- **2^64 setters later the last command is lost**: the generation is the recorded
one again, no setter is between its two steps, and the command that was applied
last is not the one that was stored last. -/
theorem wrap_loses_command :
    ¬ ∀ l s, system.Run l s → s.setting = [] →
      s.appliedRumbleGeneration = s.rumbleGeneration →
      ∀ command ∈ s.applied.getLast?, s.stored.getLast? = some command := by
  intro h
  obtain ⟨s, hrun, hset, hg, happlied⟩ : ∃ s, system.Run (setAndApply ⟨7, 9⟩) s ∧
      s.setting = [] ∧ s.appliedRumbleGeneration = s.rumbleGeneration ∧ s.applied = [⟨7, 9⟩] :=
    ⟨_, System.run_of_exec rfl, rfl, rfl, rfl⟩
  obtain ⟨t, hpath, hset', hgen, happ, huses, hlast⟩ := path_sets ⟨0, 0⟩ hset (2 ^ 64)
  have hround : t.appliedRumbleGeneration = t.rumbleGeneration := by
    rw [happ, hgen, hg, show UInt64.ofNat (2 ^ 64) = 0 from by decide, UInt64.add_zero]
  have hsame := h _ t (hrun.append hpath) hset' hround ⟨7, 9⟩ (by rw [huses, happlied]; rfl)
  rw [hlast (by decide)] at hsame
  exact absurd hsame (by decide)

end RumbleAtomics

end RemoteController
