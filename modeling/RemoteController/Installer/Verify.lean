import RemoteController.Lib.Ledger

/-!
# The pinned installer

`VerifyPinnedInstaller` and `LaunchVigemInstaller` of `vigem_installer.cpp`.  What the
file holds is what `ReadFile` returns, call by call, and need not agree with the size
that is reported; every call to BCrypt may fail.  SHA-256 is a parameter: a hash object
that was fed these bytes gives that digest.

* `File.ReadsTo`: the reads come to an end of file behind these chunks.
* `verified_iff`: the result is `ERROR_SUCCESS` for the pinned file only, and for it
  whenever BCrypt succeeds; the handles that were opened are closed once.
* `launch_verified`: `ShellExecuteExW` is called behind that result only.
-/

namespace RemoteController

open Lib

namespace VigemInstaller

def kInstallerSize : Nat := 6278576

def kInstallerSha256 : List UInt8 :=
  [0x89, 0x22, 0x0A, 0x78, 0x65, 0x07, 0x6B, 0x34, 0x28, 0x92, 0xF9, 0x88, 0x65, 0xF3, 0x49, 0x9F,
    0xB7, 0xC4, 0xCF, 0xD6, 0x73, 0x15, 0x9E, 0x89, 0xD3, 0x52, 0xC3, 0x60, 0xFD, 0x01, 0x4C, 0x6A]

def ERROR_SUCCESS : UInt32 := 0
def ERROR_NOT_ENOUGH_MEMORY : UInt32 := 8
def ERROR_INVALID_DATA : UInt32 := 13
def ERROR_GEN_FAILURE : UInt32 := 31
def ERROR_INVALID_PARAMETER : UInt32 := 87

/-- `GetLastError` behind a call that failed. -/
abbrev LastError := { code : UInt32 // code ≠ 0 }

/-- One `ReadFile` into a buffer of 64 KiB. -/
inductive ReadResult where
  | bytes (chunk : List UInt8) (fits : 0 < chunk.length ∧ chunk.length ≤ 64 * 1024)
  | endOfFile
  | failed (error : LastError)

structure File where
  size : Except LastError Int
  reads : Nat → ReadResult

/-- Which of the BCrypt calls succeed, `BCryptHashData` by the read before it, and
whether the buffer for the hash object can be had. -/
structure Bcrypt where
  openAlgorithm : Bool := true
  getProperty : Bool := true
  allocate : Bool := true
  createHash : Bool := true
  hashData : Nat → Bool := fun _ => true
  finishHash : Bool := true

inductive BcryptCall where
  | openAlgorithm (ok : Bool)
  | getProperty (ok : Bool)
  | createHash (ok : Bool)
  | hashData (ok : Bool)
  | finishHash (ok : Bool)
  | destroyHash
  | closeAlgorithm
  deriving DecidableEq, Repr

/-- What a verification returns, and the calls it made. -/
structure Outcome where
  result : UInt32
  calls : List BcryptCall := []
  reads : Nat := 0
  deriving DecidableEq, Repr

variable (sha256 : List UInt8 → List UInt8)

/-- The loop, before the read `n`, with `total` bytes read and `fed` in the hash object. -/
def readLoop (f : File) (b : Bcrypt) (n total : Nat) (fed : List UInt8) : Outcome :=
  match f.reads n with
  | .failed error => { result := error, reads := n + 1 }
  | .endOfFile =>
    if total = kInstallerSize then
      { result :=
          if b.finishHash && sha256 fed == kInstallerSha256 then ERROR_SUCCESS
          else ERROR_INVALID_DATA
        calls := [.finishHash b.finishHash]
        reads := n + 1 }
    else { result := ERROR_INVALID_DATA, reads := n + 1 }
  | .bytes chunk _ =>
    if total + chunk.length > kInstallerSize then
      { result := ERROR_INVALID_DATA, reads := n + 1 }
    else if !b.hashData n then
      { result := ERROR_INVALID_DATA, calls := [.hashData false], reads := n + 1 }
    else
      let rest := readLoop f b (n + 1) (total + chunk.length) (fed ++ chunk)
      { rest with calls := .hashData true :: rest.calls }
  termination_by kInstallerSize - total

def verifyPinnedInstaller (f : File) (b : Bcrypt) : Outcome :=
  match f.size with
  | .error error => { result := error }
  | .ok size =>
    if size ≠ kInstallerSize then { result := ERROR_INVALID_DATA }
    else if !b.openAlgorithm then
      { result := ERROR_GEN_FAILURE, calls := [.openAlgorithm false] }
    else if !b.getProperty then
      { result := ERROR_GEN_FAILURE
        calls := [.openAlgorithm true, .getProperty false, .closeAlgorithm] }
    else if !b.allocate then
      -- `std::bad_alloc`: no hash was created yet
      { result := ERROR_NOT_ENOUGH_MEMORY
        calls := [.openAlgorithm true, .getProperty true, .closeAlgorithm] }
    else if !b.createHash then
      { result := ERROR_GEN_FAILURE
        calls := [.openAlgorithm true, .getProperty true, .createHash false, .closeAlgorithm] }
    else
      let loop := readLoop sha256 f b 0 0 []
      { loop with
        calls := [.openAlgorithm true, .getProperty true, .createHash true] ++ loop.calls ++
          [.destroyHash, .closeAlgorithm] }

/-! ### The handles -/

/-- The provider: the hash object and its calls need it too. -/
def algorithm : Ledger BcryptCall Unit where
  names _ := some ()
  does
    | .openAlgorithm ok => if ok then some .acquire else none
    | .closeAlgorithm => some .release
    | _ => some .use

/-- The hash object, which is gone before the provider is closed. -/
def hash : Ledger BcryptCall Unit where
  names _ := some ()
  does
    | .createHash ok => if ok then some .acquire else none
    | .hashData _ | .finishHash _ => some .use
    | .destroyHash => some .release
    | .closeAlgorithm => some .close
    | _ => none

/-- The calls of the loop. -/
def BcryptCall.hashes : BcryptCall → Prop
  | .hashData _ | .finishHash _ => True
  | _ => False

theorem readLoop_hashes (f : File) (b : Bcrypt) (n total : Nat) (fed : List UInt8) :
    ∀ e ∈ (readLoop sha256 f b n total fed).calls, e.hashes := by
  fun_induction readLoop sha256 f b n total fed with
  | case1 | case3 | case4 => simp
  | case2 | case5 => simp [BcryptCall.hashes]
  | case6 n total fed chunk fits hr hs hd rest ih =>
    intro e he
    rcases List.mem_cons.mp he with rfl | he
    · trivial
    · exact ih e he

theorem readLoop_reads (f : File) (b : Bcrypt) (n total : Nat) (fed : List UInt8) :
    total ≤ kInstallerSize →
      (readLoop sha256 f b n total fed).reads ≤ n + (kInstallerSize - total) + 1 := by
  fun_induction readLoop sha256 f b n total fed with
  | case1 | case2 | case3 | case4 | case5 => intro _; dsimp only; omega
  | case6 n total fed chunk fits hr hs hd rest ih =>
    intro _
    have hrest : rest.reads ≤ n + 1 + (kInstallerSize - (total + chunk.length)) + 1 :=
      ih (by omega)
    show rest.reads ≤ n + (kInstallerSize - total) + 1
    omega

/-- Every path opens and closes the two handles as it should. -/
theorem walk_verify (f : File) (b : Bcrypt) :
    algorithm.Walked (fun _ => False) (verifyPinnedInstaller sha256 f b).calls ∧
      hash.Walked (fun _ => False) (verifyPinnedInstaller sha256 f b).calls := by
  have huse : ∀ e : BcryptCall, e.hashes →
      algorithm.effect e () = some .use ∧ hash.effect e () = some .use := by
    intro e he
    cases e <;> first | exact ⟨rfl, rfl⟩ | exact he.elim
  have hloop := readLoop_hashes sha256 f b 0 0 []
  unfold verifyPinnedInstaller
  split
  · exact ⟨Ledger.walked_nil fun _ => id, Ledger.walked_nil fun _ => id⟩
  split
  · exact ⟨Ledger.walked_nil fun _ => id, Ledger.walked_nil fun _ => id⟩
  split
  · exact ⟨fun _ => ⟨.fresh, rfl, by simp⟩, fun _ => ⟨.fresh, rfl, by simp⟩⟩
  split
  · exact ⟨fun _ => ⟨.released, rfl, by simp⟩, fun _ => ⟨.fresh, rfl, by simp⟩⟩
  split
  · exact ⟨fun _ => ⟨.released, rfl, by simp⟩, fun _ => ⟨.fresh, rfl, by simp⟩⟩
  split
  · exact ⟨fun _ => ⟨.released, rfl, by simp⟩, fun _ => ⟨.fresh, rfl, by simp⟩⟩
  · constructor
    all_goals
      intro h
      refine ⟨.released, ?_, by simp⟩
      rw [Ledger.walk_append, Ledger.walk_append]
    · rw [show algorithm.walk h .fresh
          [.openAlgorithm true, .getProperty true, .createHash true] = some .held from rfl,
        Option.bind_some, Ledger.walk_uses fun e he => Or.inl (huse e (hloop e he)).1]
      rfl
    · rw [show hash.walk h .fresh
          [.openAlgorithm true, .getProperty true, .createHash true] = some .held from rfl,
        Option.bind_some, Ledger.walk_uses fun e he => Or.inl (huse e (hloop e he)).2]
      rfl

/-! ### The result -/

/-- From the read `n` on: these chunks, and then the end of the file. -/
inductive File.ReadsTo (f : File) : Nat → List (List UInt8) → Prop
  | done {n : Nat} : f.reads n = .endOfFile → f.ReadsTo n []
  | more {n : Nat} {chunk : List UInt8} {chunks : List (List UInt8)}
      {fits : 0 < chunk.length ∧ chunk.length ≤ 64 * 1024} :
      f.reads n = .bytes chunk fits → f.ReadsTo (n + 1) chunks → f.ReadsTo n (chunk :: chunks)

theorem File.readsTo_failed {f : File} {n : Nat} {error : LastError} {chunks : List (List UInt8)}
    (h : f.reads n = .failed error) : ¬ f.ReadsTo n chunks := by
  intro hr
  cases hr with
  | done hr => cases h.symm.trans hr
  | more hr _ => cases h.symm.trans hr

theorem File.readsTo_endOfFile {f : File} {n : Nat} {chunks : List (List UInt8)}
    (h : f.reads n = .endOfFile) : f.ReadsTo n chunks ↔ chunks = [] := by
  constructor
  · intro hr
    cases hr with
    | done _ => rfl
    | more hr _ => cases h.symm.trans hr
  · rintro rfl
    exact .done h

theorem File.readsTo_bytes {f : File} {n : Nat} {chunk : List UInt8} {chunks : List (List UInt8)}
    {fits : 0 < chunk.length ∧ chunk.length ≤ 64 * 1024} (h : f.reads n = .bytes chunk fits) :
    f.ReadsTo n chunks ↔ ∃ rest, chunks = chunk :: rest ∧ f.ReadsTo (n + 1) rest := by
  constructor
  · intro hr
    cases hr with
    | done hr => cases h.symm.trans hr
    | more hr hrest =>
      obtain ⟨rfl⟩ := ReadResult.bytes.inj (h.symm.trans hr)
      exact ⟨_, rfl, hrest⟩
  · rintro ⟨rest, rfl, hrest⟩
    exact .more h hrest

theorem invalid_ne_success : ERROR_INVALID_DATA ≠ ERROR_SUCCESS := by decide

/-- **The loop** succeeds behind an end of file at the pinned size with the pinned digest. -/
theorem readLoop_iff (f : File) (b : Bcrypt) (n total : Nat) (fed : List UInt8) :
    (readLoop sha256 f b n total fed).result = ERROR_SUCCESS ↔
      ∃ chunks, f.ReadsTo n chunks ∧ total + chunks.flatten.length = kInstallerSize ∧
        sha256 (fed ++ chunks.flatten) = kInstallerSha256 ∧
        (∀ i < chunks.length, b.hashData (n + i) = true) ∧ b.finishHash = true := by
  fun_induction readLoop sha256 f b n total fed with
  | case1 n total fed error h =>
    refine iff_of_false error.2 ?_
    rintro ⟨chunks, hr, _⟩
    exact File.readsTo_failed h hr
  | case2 n fed h =>
    simp only [File.readsTo_endOfFile h, exists_eq_left]
    by_cases hd : b.finishHash = true ∧ sha256 fed = kInstallerSha256
    · rw [if_pos (by simpa using hd)]
      simpa [and_comm] using hd
    · rw [if_neg (by simpa using hd)]
      refine iff_of_false invalid_ne_success ?_
      simpa [and_comm] using hd
  | case3 n total fed h hs =>
    refine iff_of_false invalid_ne_success ?_
    rintro ⟨chunks, hr, hlen, _⟩
    obtain rfl := (File.readsTo_endOfFile h).mp hr
    exact hs (by simpa using hlen)
  | case4 n total fed chunk fits h hs =>
    refine iff_of_false invalid_ne_success ?_
    rintro ⟨chunks, hr, hlen, _⟩
    obtain ⟨rest, rfl, _⟩ := (File.readsTo_bytes h).mp hr
    rw [List.flatten_cons, List.length_append] at hlen
    omega
  | case5 n total fed chunk fits h hs hd =>
    refine iff_of_false invalid_ne_success ?_
    rintro ⟨chunks, hr, _, _, hdata, _⟩
    obtain ⟨rest, rfl, _⟩ := (File.readsTo_bytes h).mp hr
    have hn : b.hashData n = true := hdata 0 (by simp)
    rw [hn] at hd
    cases hd
  | case6 n total fed chunk fits h hs hd rest ih =>
    have hdata : b.hashData n = true := by simpa using hd
    refine ih.trans ?_
    constructor
    · rintro ⟨chunks, hr, hlen, hsha, hall, hfin⟩
      refine ⟨chunk :: chunks, (File.readsTo_bytes h).mpr ⟨chunks, rfl, hr⟩, ?_, ?_, ?_, hfin⟩
      · rw [List.flatten_cons, List.length_append]
        omega
      · rwa [List.flatten_cons, ← List.append_assoc]
      · intro i hi
        cases i with
        | zero => exact hdata
        | succ i =>
          have := hall i (by simpa using hi)
          rwa [show n + 1 + i = n + (i + 1) by omega] at this
    · rintro ⟨chunks, hr, hlen, hsha, hall, hfin⟩
      obtain ⟨chunks, rfl, hrest⟩ := (File.readsTo_bytes h).mp hr
      rw [List.flatten_cons, List.length_append] at hlen
      rw [List.flatten_cons, ← List.append_assoc] at hsha
      refine ⟨chunks, hrest, by omega, hsha, ?_, hfin⟩
      intro i hi
      have := hall (i + 1) (by simpa using hi)
      rwa [show n + (i + 1) = n + 1 + i by omega] at this

theorem verify_result (f : File) (b : Bcrypt) :
    (verifyPinnedInstaller sha256 f b).result = ERROR_SUCCESS ↔
      f.size = .ok kInstallerSize ∧ b.openAlgorithm = true ∧ b.getProperty = true ∧
        b.allocate = true ∧ b.createHash = true ∧
        (readLoop sha256 f b 0 0 []).result = ERROR_SUCCESS := by
  unfold verifyPinnedInstaller
  split
  · rename_i error hsize
    exact iff_of_false error.2 (by simp [hsize])
  rename_i size hsize
  have hne : ERROR_GEN_FAILURE ≠ ERROR_SUCCESS ∧ ERROR_NOT_ENOUGH_MEMORY ≠ ERROR_SUCCESS := by
    decide
  split
  · rename_i h
    exact iff_of_false invalid_ne_success (by simp [hsize, h])
  rename_i hpinned
  split
  · rename_i h
    refine iff_of_false hne.1 ?_
    rintro ⟨_, hopen, _⟩
    simp [hopen] at h
  rename_i hopen
  split
  · rename_i h
    refine iff_of_false hne.1 ?_
    rintro ⟨_, _, hproperty, _⟩
    simp [hproperty] at h
  rename_i hproperty
  split
  · rename_i h
    refine iff_of_false hne.2 ?_
    rintro ⟨_, _, _, hallocate, _⟩
    simp [hallocate] at h
  rename_i hallocate
  split
  · rename_i h
    refine iff_of_false hne.1 ?_
    rintro ⟨_, _, _, _, hhash, _⟩
    simp [hhash] at h
  · rename_i hhash
    rw [Bool.not_eq_true', Bool.not_eq_false] at hopen hproperty hallocate hhash
    simp [hsize, not_not.mp hpinned, hopen, hproperty, hallocate, hhash]

theorem verify_reads (f : File) (b : Bcrypt) :
    (verifyPinnedInstaller sha256 f b).reads ≤ kInstallerSize + 1 := by
  have hloop := readLoop_reads sha256 f b 0 0 [] (Nat.zero_le _)
  unfold verifyPinnedInstaller
  repeat' split
  all_goals first | exact Nat.zero_le _ | (dsimp only; omega)

/-- **The verification is exact**, whatever the chunks: it succeeds for the pinned bytes
read to their end with no call to BCrypt failing, and for nothing else.  The reads are
bounded, and each handle that was opened is closed once. -/
theorem verified_iff (f : File) (b : Bcrypt) :
    ((verifyPinnedInstaller sha256 f b).result = ERROR_SUCCESS ↔
      f.size = .ok kInstallerSize ∧ b.openAlgorithm = true ∧ b.getProperty = true ∧
        b.allocate = true ∧ b.createHash = true ∧
        ∃ chunks, f.ReadsTo 0 chunks ∧ chunks.flatten.length = kInstallerSize ∧
          sha256 chunks.flatten = kInstallerSha256 ∧
          (∀ i < chunks.length, b.hashData i = true) ∧ b.finishHash = true) ∧
      (verifyPinnedInstaller sha256 f b).reads ≤ kInstallerSize + 1 ∧
      algorithm.Balanced (fun _ => False) (verifyPinnedInstaller sha256 f b).calls ∧
      hash.Balanced (fun _ => False) (verifyPinnedInstaller sha256 f b).calls := by
  obtain ⟨ha, hh⟩ := walk_verify sha256 f b
  refine ⟨?_, verify_reads sha256 f b, ha.balanced, hh.balanced⟩
  rw [verify_result, readLoop_iff]
  simp only [Nat.zero_add, List.nil_append]

/-- A file of zeros, one byte at a time. -/
def zeros : File where
  size := .ok kInstallerSize
  reads n := if n < kInstallerSize then .bytes [0] (by decide) else .endOfFile

theorem zeros_readsTo : ∀ (k n : Nat), n + k = kInstallerSize →
    zeros.ReadsTo n (List.replicate k [0]) := by
  intro k
  induction k with
  | zero => intro n h; exact .done (if_neg (by omega))
  | succ k ih => intro n h; exact .more (if_pos (by omega)) (ih (n + 1) (by omega))

/-- What is asked of the file alone: its size, all its bytes and their digest. -/
def File.IsPinned (f : File) : Prop :=
  f.size = .ok kInstallerSize ∧
    ∃ chunks, f.ReadsTo 0 chunks ∧ chunks.flatten.length = kInstallerSize ∧
      sha256 chunks.flatten = kInstallerSha256

/-- Without a SHA-256 provider no file is accepted, whatever the digest. -/
theorem verify_of_no_provider (f : File) {b : Bcrypt} (h : b.openAlgorithm = false) :
    (verifyPinnedInstaller sha256 f b).result ≠ ERROR_SUCCESS := by
  rw [Ne, verify_result, h]
  rintro ⟨_, hopen, _⟩
  cases hopen

/-- Where no SHA-256 provider opens, a file is refused that has all that is asked of it,
under every digest; the file of zeros is one under a digest that agrees with it. -/
theorem provider_missing :
    (∀ (sha256 : List UInt8 → List UInt8) (f : File), f.IsPinned sha256 →
      (verifyPinnedInstaller sha256 f { openAlgorithm := false }).result ≠ ERROR_SUCCESS) ∧
    ¬ ∀ (sha256 : List UInt8 → List UInt8) (f : File) (b : Bcrypt),
      (verifyPinnedInstaller sha256 f b).result = ERROR_SUCCESS ↔ f.IsPinned sha256 := by
  refine ⟨fun sha256 f _ => verify_of_no_provider sha256 f rfl, fun h => ?_⟩
  have hpinned : zeros.IsPinned fun _ => kInstallerSha256 :=
    ⟨rfl, _, zeros_readsTo kInstallerSize 0 (Nat.zero_add _), by simp, rfl⟩
  exact verify_of_no_provider (fun _ => kInstallerSha256) zeros rfl
    ((h _ zeros { openAlgorithm := false }).mpr hpinned)

/-! ### The launch -/

/-- What happens to a launch: the path is empty, or does not become a full path, or the
file is opened or not, and `ShellExecuteExW` fails or starts a process, whose handle it
may return. -/
structure Launch where
  emptyPath : Bool
  fullPath : Except UInt32 Unit
  createFile : Except LastError File
  shellExecute : Except LastError Bool

inductive LaunchCall where
  | createFile (ok : Bool)
  | verify (result : UInt32)
  | shellExecute (ok : Bool)
  | closeProcess
  | closeFile
  deriving DecidableEq, Repr

structure VigemInstallerLaunchResult where
  launched : Bool
  error : UInt32
  deriving DecidableEq, Repr

def failure (error : UInt32) : VigemInstallerLaunchResult := ⟨false, error⟩

def launchVigemInstaller (l : Launch) (b : Bcrypt) :
    VigemInstallerLaunchResult × List LaunchCall :=
  if l.emptyPath then (failure ERROR_INVALID_PARAMETER, [])
  else
    match l.fullPath, l.createFile with
    | .error error, _ => (failure error, [])
    | .ok _, .error error => (failure error, [.createFile false])
    | .ok _, .ok file =>
      let verified := (verifyPinnedInstaller sha256 file b).result
      if verified ≠ ERROR_SUCCESS then
        (failure verified, [.createFile true, .verify verified, .closeFile])
      else
        match l.shellExecute with
        | .error error =>
          (failure error,
            [.createFile true, .verify verified, .shellExecute false, .closeFile])
        | .ok process =>
          (⟨true, ERROR_SUCCESS⟩,
            [.createFile true, .verify verified, .shellExecute true] ++
              (if process then [.closeProcess] else []) ++ [.closeFile])

/-- The handle of the file. -/
def installerFile : Ledger LaunchCall Unit where
  names _ := some ()
  does
    | .createFile ok => if ok then some .acquire else none
    | .closeFile => some .release
    | _ => some .use

/-- **Only a verified file is run**, while its handle keeps others from writing to it; the
handle is closed once. -/
theorem launch_verified (l : Launch) (b : Bcrypt) :
    (∀ ok, .shellExecute ok ∈ (launchVigemInstaller sha256 l b).2 →
      ∃ file, l.createFile = .ok file ∧
        (verifyPinnedInstaller sha256 file b).result = ERROR_SUCCESS) ∧
      installerFile.Balanced (fun _ => False) (launchVigemInstaller sha256 l b).2 := by
  unfold launchVigemInstaller
  split
  · exact ⟨by simp, (Ledger.walked_nil fun _ => id).balanced⟩
  split
  · exact ⟨by simp, (Ledger.walked_nil fun _ => id).balanced⟩
  · exact ⟨by simp, Ledger.Walked.balanced fun _ => ⟨.fresh, rfl, by simp⟩⟩
  rename_i _ file _ hf
  dsimp only
  split
  · exact ⟨by simp, Ledger.Walked.balanced fun _ => ⟨.released, rfl, by simp⟩⟩
  rename_i hv
  refine ⟨fun ok _ => ⟨file, hf, not_not.mp hv⟩, ?_⟩
  split
  · exact Ledger.Walked.balanced fun _ => ⟨.released, rfl, by simp⟩
  · rename_i process _
    cases process <;> exact Ledger.Walked.balanced fun _ => ⟨.released, rfl, by simp⟩

end VigemInstaller

end RemoteController
