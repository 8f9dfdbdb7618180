import RemoteController.Lib.Transition
import RemoteController.Pairing.Store
import RemoteController.Udp.Handshake

/-!
# The pairing code shown and the one enforced

`LanControllerServer::Start` reads the code from the store and hands it to the
transport; the accept loop copies it once more before it listens.  Meanwhile the
user may read the code or have a new one drawn, at any moment.  Each call and
each copy is one step, and every file operation succeeds.

* `Enforces`: the accept loop takes exactly the HELLOs whose code `Get` would
  return at this moment.
* `enforces_iff`: in a listening state this is so exactly when no code other than
  the one `Start` read was drawn since.
-/

namespace RemoteController

open Lib Protocol PairingKeyStore

/-- How far the start of the server has come. -/
inductive StartPhase where
  | created
  /-- `PairingKeyStore::Get()` has returned in `Start`. -/
  | gotKey (key : UInt16)
  /-- `SetExpectedPairingKey` has returned. -/
  | keySet
  /-- The accept loop runs, with its local copy. -/
  | listening (expectedPairingKey : UInt16)
  | accepted
  deriving DecidableEq, Repr

/-- The key file, the transport's `expected_pairing_key_`, and the server. -/
structure PairedServer where
  file : KeyFile
  expectedPairingKey : UInt32 := 0
  phase : StartPhase := .created

namespace PairedServer

inductive Label where
  /-- `Get` and `Regenerate`, called by the user interface. -/
  | get (value : UInt32)
  | regenerate (value : UInt32)
  /-- The three steps of the start. -/
  | startGet (value : UInt32) (key : UInt16)
  | setExpectedPairingKey
  | listen
  /-- The decision on a frame of 32 bytes. -/
  | hello (frame : PlaintextControlFrameV1)
  deriving DecidableEq, Repr

def next (s : PairedServer) : Label → Option PairedServer
  | .get value => some { s with file := (PairingKeyStore.get s.file value .ok).1 }
  | .regenerate value => some { s with file := (PairingKeyStore.regenerate s.file value .ok).1 }
  | .startGet value key =>
    match s.phase with
    | .created =>
      if (PairingKeyStore.get s.file value .ok).2 = key then
        some { s with file := (PairingKeyStore.get s.file value .ok).1, phase := .gotKey key }
      else none
    | _ => none
  | .setExpectedPairingKey =>
    match s.phase with
    | .gotKey key => some { s with expectedPairingKey := key.toUInt32, phase := .keySet }
    | _ => none
  | .listen =>
    match s.phase with
    | .keySet => some { s with phase := .listening s.expectedPairingKey.toUInt16 }
    | _ => none
  | .hello frame =>
    match s.phase with
    | .listening expected =>
      if ServerSockets.verdict expected true frame = .accepted then some { s with phase := .accepted }
      else some s
    | _ => none

def system (file : KeyFile) : System PairedServer Label where
  init := { file := file }
  next := next

/-! ### The statement -/

/-- The listening server takes a well-formed HELLO exactly when it carries the code
that `Get` would return now. -/
def Enforces (s : PairedServer) (expected : UInt16) : Prop :=
  ∀ hello : PlaintextControlFrameV1, hello.sessionId ≠ 0 →
    validControlFrame hello .hello hello.sessionId = true → ∀ value write,
      ServerSockets.verdict expected true hello = .accepted ↔
        hello.pairingKey = (PairingKeyStore.get s.file value write).2

/-- The code that `Start` read, and the one drawn by the last `Regenerate` since. -/
def codesStep (codes : Option UInt16 × Option UInt16) : Label → Option UInt16 × Option UInt16
  | .startGet _ key => (some key, none)
  | .regenerate value => (codes.1, some (generate value))
  | _ => codes

def codes (l : List Label) : Option UInt16 × Option UInt16 := l.foldl codesStep (none, none)

/-- The last `Regenerate` since `Start` read the code, if there was one, drew the
same code again. -/
def Unreplaced (l : List Label) : Prop := ∀ code ∈ (codes l).2, (codes l).1 = some code

/-! ### The proof -/

theorem codes_snoc (l : List Label) (a : Label) : codes (l ++ [a]) = codesStep (codes l) a := by
  rw [codes, List.foldl_append]
  rfl

/-- Of a start that has read `key`: the file holds `key`, or what was drawn
since. -/
def Started (l : List Label) (s : PairedServer) (key : UInt16) : Prop :=
  (codes l).1 = some key ∧ stored s.file = some ((codes l).2.getD key)

/-- What holds in every state, by phase. -/
def Inv (l : List Label) (s : PairedServer) : Prop :=
  match s.phase with
  | .created => True
  | .gotKey key | .listening key => Started l s key
  | .keySet => ∃ key, s.expectedPairingKey = key.toUInt32 ∧ Started l s key
  | .accepted => ∃ key, Started l s key

/-- A call of the user interface keeps what is known of the start. -/
theorem Started.store {l : List Label} {s : PairedServer} {key : UInt16} (h : Started l s key)
    {a : Label} {file : KeyFile} (ha : (codes (l ++ [a])).1 = (codes l).1)
    (hf : stored file = some ((codes (l ++ [a])).2.getD key)) :
    Started (l ++ [a]) { s with file := file } key :=
  ⟨ha.trans h.1, hf⟩

theorem Inv.store {l : List Label} {s : PairedServer} (h : Inv l s) {a : Label} {file : KeyFile}
    (ha : (codes (l ++ [a])).1 = (codes l).1)
    (hf : ∀ key, stored s.file = some ((codes l).2.getD key) →
      stored file = some ((codes (l ++ [a])).2.getD key)) :
    Inv (l ++ [a]) { s with file := file } := by
  have hstep : ∀ key, Started l s key → Started (l ++ [a]) { s with file := file } key :=
    fun key hs => hs.store ha (hf key hs.2)
  unfold Inv at h ⊢
  cases hp : s.phase with
  | created => trivial
  | gotKey key => rw [hp] at h; exact hstep key h
  | keySet =>
    rw [hp] at h
    obtain ⟨key, he, hs⟩ := h
    exact ⟨key, he, hstep key hs⟩
  | listening key => rw [hp] at h; exact hstep key h
  | accepted =>
    rw [hp] at h
    obtain ⟨key, hs⟩ := h
    exact ⟨key, hstep key hs⟩

theorem inv_run {file : KeyFile} {l : List Label} {s : PairedServer}
    (h : (system file).Run l s) : Inv l s := by
  refine System.Run.invariant (M := system file) (P := Inv) trivial ?_ h
  intro l s a t _ ih hn
  cases a with
  | get value =>
    obtain rfl := Option.some.inj hn
    refine ih.store (by rw [codes_snoc]; rfl) ?_
    intro key hkey
    rw [get_of_stored hkey, codes_snoc]
    exact hkey
  | regenerate value =>
    obtain rfl := Option.some.inj hn
    refine ih.store (by rw [codes_snoc]; rfl) ?_
    intro key _
    rw [stored_regenerate, codes_snoc]
    rfl
  | startGet value key =>
    simp only [system, next] at hn
    split at hn
    · split at hn
      · rename_i hkey
        obtain rfl := Option.some.inj hn
        refine ⟨by rw [codes_snoc]; rfl, ?_⟩
        rw [codes_snoc, stored_get, hkey]
        rfl
      · cases hn
    · cases hn
  | setExpectedPairingKey =>
    simp only [system, next] at hn
    split at hn
    · rename_i key hp
      obtain rfl := Option.some.inj hn
      rw [Inv, hp] at ih
      exact ⟨key, rfl, by rw [codes_snoc]; exact ih.1, by rw [codes_snoc]; exact ih.2⟩
    · cases hn
  | listen =>
    simp only [system, next] at hn
    split at hn
    · rename_i hp
      obtain rfl := Option.some.inj hn
      rw [Inv, hp] at ih
      obtain ⟨key, he, hs⟩ := ih
      have hkey : s.expectedPairingKey.toUInt16 = key := by rw [he]; simp
      show Started _ _ _
      rw [hkey]
      exact ⟨by rw [codes_snoc]; exact hs.1, by rw [codes_snoc]; exact hs.2⟩
    · cases hn
  | hello frame =>
    simp only [system, next] at hn
    split at hn
    · rename_i expected hp
      have hs : Started (l ++ [.hello frame]) s expected := by
        rw [Inv, hp] at ih
        exact ⟨by rw [codes_snoc]; exact ih.1, by rw [codes_snoc]; exact ih.2⟩
      split at hn
      · obtain rfl := Option.some.inj hn
        exact ⟨expected, hs⟩
      · obtain rfl := Option.some.inj hn
        rw [Inv, hp]
        exact hs
    · cases hn

/-- A well-formed HELLO is taken exactly when it carries the expected key. -/
theorem verdict_accepted {expected : UInt16} {hello : PlaintextControlFrameV1}
    (hs : hello.sessionId ≠ 0) (hv : validControlFrame hello .hello hello.sessionId = true) :
    ServerSockets.verdict expected true hello = .accepted ↔ hello.pairingKey = expected := by
  rw [ServerSockets.verdict, hv]
  by_cases hk : hello.pairingKey = expected
  · simp [hs, hk]
  · simp [hs, hk]

theorem enforces_iff_stored {s : PairedServer} {expected code : UInt16}
    (hcode : stored s.file = some code) : Enforces s expected ↔ code = expected := by
  constructor
  · intro h
    have hv := validControlFrame_make .hello .hello 1 1 0 {} expected
    have hs : (makeControlFrame .hello 1 0 {} expected).sessionId ≠ 0 :=
      show (1 : UInt32) ≠ 0 by decide
    have := (h (makeControlFrame .hello 1 0 {} expected) hs (hv.mpr ⟨rfl, rfl⟩) 0 .ok).mp
      ((verdict_accepted hs (hv.mpr ⟨rfl, rfl⟩)).mpr rfl)
    rw [get_of_stored hcode] at this
    exact this.symm
  · rintro rfl hello hs hv value write
    rw [get_of_stored hcode]
    exact verdict_accepted hs hv

/-- **The code shown is enforced exactly while it is the one `Start` read.** -/
theorem enforces_iff {file : KeyFile} {l : List Label} {s : PairedServer} {expected : UInt16}
    (h : (system file).Run l s) (hl : s.phase = .listening expected) :
    Enforces s expected ↔ Unreplaced l := by
  have hi := inv_run h
  rw [Inv, hl] at hi
  obtain ⟨hkey, hstored⟩ := hi
  rw [enforces_iff_stored hstored, Unreplaced, hkey]
  cases (codes l).2 with
  | none => simp
  | some code => simp [eq_comm]

/-- The start of a server without a key file, the code 1234 being drawn. -/
def startup : List Label := [.startGet 1234 1234, .setExpectedPairingKey, .listen]

theorem enforces_iff_startup :
    ∃ s, (system none).Run startup s ∧ (Enforces s 1234 ↔ Unreplaced startup) :=
  have h : (system none).Run startup _ := System.run_of_exec rfl
  ⟨_, h, enforces_iff h rfl⟩

/-- **A code regenerated while the server listens is not enforced**: the new code
5678 is turned away, and the old one is still taken. -/
theorem regenerated_not_enforced :
    ∃ l s, (system none).Run l s ∧ s.phase = .listening 1234 ∧ ¬ Enforces s 1234 ∧
      stored s.file = some 5678 ∧
      ServerSockets.verdict 1234 true (makeControlFrame .hello 7 0 {} 5678) = .wrongKey ∧
      ServerSockets.verdict 1234 true (makeControlFrame .hello 7 0 {} 1234) = .accepted := by
  have hstored : stored (some (persisted 5678)) = some 5678 :=
    readPersisted_persisted (show (5678 : UInt16).toNat ≤ kMaxCode by decide)
  refine ⟨startup ++ [.regenerate 5678], _, System.run_of_exec rfl, rfl, ?_, hstored, rfl, rfl⟩
  rw [enforces_iff_stored hstored]
  decide

end PairedServer

end RemoteController
