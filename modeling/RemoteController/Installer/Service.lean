import RemoteController.Installer.Verify

/-!
# The installer service

`VigemInstallerService` of `vigem_installer_service.dart`.  Of the cache directory there
are two files, the installer and its `.partial`; what the downloader and the launcher
answer, and which of writing and renaming throws with what left behind, is in `World`.

* `Verified`: the size and the digest are those of the specification.
* `downloadAndLaunch_safe`: only a verified file is launched or kept.
* `verified_official`: for the official installer these are the bytes that
  `VerifyPinnedInstaller` accepts.
-/

namespace RemoteController

open Lib

namespace VigemInstallerService

structure VigemInstallerSpec where
  version : String
  fileName : String
  downloadUrl : String
  byteLength : Int
  sha256Hex : String
  deriving DecidableEq, Repr

def officialVigemBusInstaller : VigemInstallerSpec where
  version := "1.22.0"
  fileName := "ViGEmBus_1.22.0_x64_x86_arm64.exe"
  downloadUrl := "https://github.com/nefarius/ViGEmBus/releases/download/v1.22.0/" ++
    "ViGEmBus_1.22.0_x64_x86_arm64.exe"
  byteLength := 6278576
  sha256Hex := "89220a7865076b342892f98865f3499fb7c4cfd673159e89d352c360fd014c6a"

/-- What is thrown: a `VigemInstallerException` with its message, or something from
outside the service. -/
inductive Thrown where
  | exception (message : String)
  | downloader
  | writing
  | renaming
  | launcher
  deriving DecidableEq, Repr

/-- The installer file and the `.partial` file, if there. -/
structure Cache where
  installer : Option (List UInt8) := none
  partFile : Option (List UInt8) := none
  deriving DecidableEq, Repr

structure World where
  download : Except Thrown (List UInt8)
  /-- A write that throws leaves some file, or none. -/
  write : Except (Option (List UInt8)) Unit := .ok ()
  /-- A rename that throws may have happened. -/
  rename : Except Bool Unit := .ok ()
  launch : Except Thrown VigemInstaller.VigemInstallerLaunchResult

/-- A launch is kept with the file at the path. -/
inductive Event where
  | download (url : String) (maximumBytes : Int)
  | write (bytes : List UInt8)
  | launch (installer : Option (List UInt8))
  deriving DecidableEq, Repr

/-- The path is relative to the cache directory. -/
structure VigemInstallerData where
  version : String
  sourceUrl : String
  installerPath : String
  deriving DecidableEq, Repr

/-- How a call ends. -/
structure Exit (α : Type) where
  value : Except Thrown α
  cache : Cache
  events : List Event

-- `sha256` is `sha256.convert(bytes).toString()`
variable (sha256 : List UInt8 → String) (spec : VigemInstallerSpec)

def verifyBytes (bytes : List UInt8) : Except Thrown Unit :=
  if bytes.length ≠ spec.byteLength then
    .error (.exception ("ViGEmBus 安装器大小不匹配：预期 " ++ toString spec.byteLength ++
      "，实际 " ++ toString bytes.length ++ "。"))
  else if sha256 bytes ≠ spec.sha256Hex then
    .error (.exception ("ViGEmBus 安装器 SHA-256 校验失败：" ++ sha256 bytes ++ "。"))
  else .ok ()

def isVerified (c : Cache) : Bool :=
  match c.installer with
  | none => false
  | some bytes =>
    match verifyBytes sha256 spec bytes with
    | .ok _ => true
    | .error _ => false

/-- The `try` block, behind the check of the bytes. -/
def replaceInstaller (w : World) (c : Cache) (bytes : List UInt8) : Except Thrown Unit × Cache :=
  -- an old `.partial` is deleted first
  match w.write with
  | .error left => (.error .writing, { c with partFile := left })
  | .ok _ =>
    match w.rename with
    | .error false => (.error .renaming, { c with partFile := some bytes })
    | .error true => (.error .renaming, { installer := some bytes, partFile := none })
    | .ok _ => (.ok (), { installer := some bytes, partFile := none })

def downloadVerifiedInstaller (w : World) (c : Cache) : Exit Unit :=
  let asked := Event.download spec.downloadUrl spec.byteLength
  match w.download with
  | .error thrown => ⟨.error thrown, c, [asked]⟩
  | .ok bytes =>
    match verifyBytes sha256 spec bytes with
    | .error thrown => ⟨.error thrown, c, [asked]⟩
    | .ok _ =>
      let tried := replaceInstaller w { c with partFile := none } bytes
      -- `finally`
      ⟨tried.1, { tried.2 with partFile := none }, [asked, .write bytes]⟩

def launchInstaller (w : World) (c : Cache) (events : List Event) : Exit VigemInstallerData :=
  let events := events ++ [.launch c.installer]
  match w.launch with
  | .error thrown => ⟨.error thrown, c, events⟩
  | .ok launch =>
    if !launch.launched then
      if launch.error = 1223 then ⟨.error (.exception "管理员权限确认已取消。"), c, events⟩
      else
        ⟨.error (.exception ("无法启动 ViGEmBus 安装器（Win32 " ++ toString launch.error ++ "）。")),
          c, events⟩
    else ⟨.ok ⟨spec.version, spec.downloadUrl, spec.fileName⟩, c, events⟩

def downloadAndLaunch (w : World) (c : Cache) : Exit VigemInstallerData :=
  if isVerified sha256 spec c then launchInstaller spec w c []
  else
    let e := downloadVerifiedInstaller sha256 spec w { c with installer := none }
    match e.value with
    | .error thrown => ⟨.error thrown, e.cache, e.events⟩
    | .ok _ => launchInstaller spec w e.cache e.events

/-! ### Verified files -/

/-- The bytes are those of the specification, by size and digest. -/
def Verified (bytes : List UInt8) : Prop :=
  bytes.length = spec.byteLength ∧ sha256 bytes = spec.sha256Hex

theorem verifyBytes_ok {bytes : List UInt8} :
    verifyBytes sha256 spec bytes = .ok () ↔ Verified sha256 spec bytes := by
  unfold verifyBytes
  split
  · rename_i h
    simp [Verified, h]
  · rename_i h
    split
    · rename_i hh
      simp [Verified, hh]
    · rename_i hh
      exact iff_of_true rfl ⟨not_not.mp h, not_not.mp hh⟩

theorem isVerified_iff {c : Cache} :
    isVerified sha256 spec c = true ↔ ∃ bytes, c.installer = some bytes ∧
      Verified sha256 spec bytes := by
  unfold isVerified
  cases c.installer with
  | none => simp
  | some bytes =>
    simp only [Option.some.injEq, exists_eq_left', ← verifyBytes_ok]
    cases verifyBytes sha256 spec bytes with
    | ok _ => simp
    | error _ => simp

/-- The installer is absent or verified. -/
def Clean (c : Cache) : Prop := ∀ bytes, c.installer = some bytes → Verified sha256 spec bytes

theorem replaceInstaller_cases (w : World) (c : Cache) (bytes : List UInt8) :
    (replaceInstaller w c bytes).2.installer = c.installer ∧
        (∃ thrown, (replaceInstaller w c bytes).1 = .error thrown) ∨
      (replaceInstaller w c bytes).2.installer = some bytes := by
  unfold replaceInstaller
  split
  · exact Or.inl ⟨rfl, _, rfl⟩
  split
  · exact Or.inl ⟨rfl, _, rfl⟩
  · exact Or.inr rfl
  · exact Or.inr rfl

/-- The launches among the events, with the file that was there. -/
def launches (events : List Event) : List (Option (List UInt8)) :=
  events.filterMap fun
    | .launch installer => some installer
    | _ => none

/-- A `.partial` file that the call wrote is gone, another one is as it was. -/
def PartialGone (c : Cache) {α : Type} (e : Exit α) : Prop :=
  ((∃ bytes, .write bytes ∈ e.events) → e.cache.partFile = none) ∧
    ((¬ ∃ bytes, .write bytes ∈ e.events) → e.cache.partFile = c.partFile)

theorem download_spec (w : World) {c : Cache} (hc : c.installer = none) :
    Clean sha256 spec (downloadVerifiedInstaller sha256 spec w c).cache ∧
      ((downloadVerifiedInstaller sha256 spec w c).value = .ok () →
        (downloadVerifiedInstaller sha256 spec w c).cache.installer ≠ none) ∧
      launches (downloadVerifiedInstaller sha256 spec w c).events = [] ∧
      PartialGone c (downloadVerifiedInstaller sha256 spec w c) := by
  have hclean : Clean sha256 spec c := fun bytes hb => by rw [hc] at hb; cases hb
  unfold downloadVerifiedInstaller
  cases w.download with
  | error thrown => exact ⟨hclean, by simp, rfl, by simp [PartialGone]⟩
  | ok bytes =>
    cases hv : verifyBytes sha256 spec bytes with
    | error thrown => simpa [hv, PartialGone, launches] using hclean
    | ok _ =>
      have hb := (verifyBytes_ok sha256 spec).mp hv
      simp only [hv]
      rcases replaceInstaller_cases w { c with partFile := none } bytes with ⟨hi, _, he⟩ | hi
      · refine ⟨fun b h => ?_, by simp [he], rfl, by simp [PartialGone]⟩
        rw [show _ = c.installer from hi, hc] at h
        cases h
      · refine ⟨fun b h => ?_, fun _ => by simp [hi], rfl, by simp [PartialGone]⟩
        obtain rfl := Option.some.inj (hi.symm.trans h)
        exact hb

theorem launch_spec (w : World) (c : Cache) (events : List Event) :
    (launchInstaller spec w c events).cache = c ∧
      (launchInstaller spec w c events).events = events ++ [.launch c.installer] := by
  unfold launchInstaller
  dsimp only
  split
  · exact ⟨rfl, rfl⟩
  split
  · split
    · exact ⟨rfl, rfl⟩
    · exact ⟨rfl, rfl⟩
  · exact ⟨rfl, rfl⟩

theorem PartialGone.launch {c : Cache} {e : Exit Unit} (w : World) (h : PartialGone c e) :
    PartialGone c (launchInstaller spec w e.cache e.events) := by
  obtain ⟨hc, he⟩ := launch_spec spec w e.cache e.events
  unfold PartialGone at h ⊢
  rw [hc, he]
  simpa using h

/-- A verified file in the cache is launched, and nothing else happens. -/
theorem downloadAndLaunch_cached (w : World) {c : Cache} {bytes : List UInt8}
    (hb : c.installer = some bytes) (hver : Verified sha256 spec bytes) :
    (downloadAndLaunch sha256 spec w c).cache = c ∧
      (downloadAndLaunch sha256 spec w c).events = [.launch (some bytes)] := by
  obtain ⟨hc, he⟩ := launch_spec spec w c []
  rw [downloadAndLaunch, if_pos ((isVerified_iff sha256 spec).mpr ⟨bytes, hb, hver⟩), hc, he, hb]
  exact ⟨rfl, rfl⟩

/-- Otherwise the file is downloaded, and launched if it is there then. -/
theorem downloadAndLaunch_downloaded (w : World) {c : Cache}
    (hv : isVerified sha256 spec c ≠ true) :
    Clean sha256 spec (downloadAndLaunch sha256 spec w c).cache ∧
      PartialGone c (downloadAndLaunch sha256 spec w c) ∧
      (launches (downloadAndLaunch sha256 spec w c).events = [] ∨
        ∃ bytes, (downloadAndLaunch sha256 spec w c).cache.installer = some bytes ∧
          launches (downloadAndLaunch sha256 spec w c).events = [some bytes]) := by
  have hdown := download_spec sha256 spec w (c := { c with installer := none }) rfl
  rw [downloadAndLaunch, if_neg hv]
  generalize downloadVerifiedInstaller sha256 spec w { c with installer := none } = e at hdown
  obtain ⟨hclean, hfile, hnone, hgone⟩ := hdown
  cases hval : e.value with
  | error thrown =>
    simp only [hval]
    exact ⟨hclean, hgone, Or.inl hnone⟩
  | ok _ =>
    simp only [hval]
    obtain ⟨hc, he⟩ := launch_spec spec w e.cache e.events
    obtain ⟨bytes, hb⟩ := Option.ne_none_iff_exists'.mp (hfile hval)
    have hone : launches (e.events ++ [.launch (some bytes)]) =
        launches e.events ++ [some bytes] := by simp [launches]
    refine ⟨by rw [hc]; exact hclean, hgone.launch spec w, Or.inr ⟨bytes, by rw [hc, hb], ?_⟩⟩
    rw [he, hb, hone, hnone, List.nil_append]

/-- **Only a verified file is launched or kept.** -/
theorem downloadAndLaunch_safe (w : World) (c : Cache) :
    (launches (downloadAndLaunch sha256 spec w c).events).length ≤ 1 ∧
      (∀ installer ∈ launches (downloadAndLaunch sha256 spec w c).events,
        ∃ bytes, installer = some bytes ∧ Verified sha256 spec bytes) ∧
      (∀ bytes, (downloadAndLaunch sha256 spec w c).cache.installer = some bytes →
        Verified sha256 spec bytes) ∧
      PartialGone c (downloadAndLaunch sha256 spec w c) ∧
      ∀ bytes, c.installer = some bytes → Verified sha256 spec bytes →
        (downloadAndLaunch sha256 spec w c).events = [.launch (some bytes)] := by
  by_cases hv : isVerified sha256 spec c = true
  · obtain ⟨bytes, hb, hver⟩ := (isVerified_iff sha256 spec).mp hv
    obtain ⟨hc, he⟩ := downloadAndLaunch_cached sha256 spec w hb hver
    unfold PartialGone
    rw [hc, he, hb]
    refine ⟨Nat.le_refl 1, ?_, ?_, by simp, ?_⟩
    · intro installer hi
      obtain rfl : installer = some bytes := by simpa [launches] using hi
      exact ⟨bytes, rfl, hver⟩
    · intro b h
      obtain rfl := Option.some.inj h
      exact hver
    · intro b h _
      rw [h]
  · obtain ⟨hclean, hgone, hlaunch⟩ := downloadAndLaunch_downloaded sha256 spec w hv
    refine ⟨?_, ?_, hclean, hgone, ?_⟩
    · rcases hlaunch with hl | ⟨bytes, _, hl⟩
      · rw [hl]
        exact Nat.zero_le 1
      · rw [hl]
        exact Nat.le_refl 1
    · rcases hlaunch with hl | ⟨bytes, hb, hl⟩
      · rw [hl]
        exact nofun
      · rw [hl]
        intro installer hi
        obtain rfl := List.mem_singleton.mp hi
        exact ⟨bytes, rfl, hclean bytes hb⟩
    · intro bytes hb hver
      exact absurd ((isVerified_iff sha256 spec).mpr ⟨bytes, hb, hver⟩) hv

/-! ### The official installer -/

/-- `Digest.toString` of the crypto package: two lower-case digits for each byte. -/
def hexDigits (b : UInt8) : List Char :=
  [Nat.digitChar (b.toNat / 16), Nat.digitChar (b.toNat % 16)]

def hex (digest : List UInt8) : String := String.ofList (digest.flatMap hexDigits)

theorem hexDigits_inj {a b : UInt8} (h : hexDigits a = hexDigits b) : a = b := by
  have hinj : ∀ m < 16, ∀ n < 16, Nat.digitChar m = Nat.digitChar n → m = n := by decide
  have ha := a.toNat_lt
  have hb := b.toNat_lt
  simp only [hexDigits, List.cons.injEq, and_true] at h
  have h1 := hinj _ (by omega) _ (by omega) h.1
  have h2 := hinj _ (by omega) _ (by omega) h.2
  apply UInt8.toNat_inj.mp
  omega

theorem hex_inj {d e : List UInt8} (h : hex d = hex e) : d = e := by
  have hl : d.flatMap hexDigits = e.flatMap hexDigits := String.ofList_inj.mp h
  clear h
  induction d generalizing e with
  | nil =>
    cases e with
    | nil => rfl
    | cons b e => simp [hexDigits] at hl
  | cons a d ih =>
    cases e with
    | nil => simp [hexDigits] at hl
    | cons b e =>
      obtain ⟨hab, hde⟩ := List.append_inj hl rfl
      rw [hexDigits_inj hab, ih hde]

theorem official_hex :
    hex VigemInstaller.kInstallerSha256 = officialVigemBusInstaller.sha256Hex := by
  decide

/-- What the service takes for the official installer are the bytes pinned in the native
code, which checks them again before it runs them. -/
theorem verified_official (digest : List UInt8 → List UInt8) (bytes : List UInt8) :
    Verified (fun b => hex (digest b)) officialVigemBusInstaller bytes ↔
      bytes.length = VigemInstaller.kInstallerSize ∧
        digest bytes = VigemInstaller.kInstallerSha256 := by
  unfold Verified
  rw [← official_hex]
  constructor
  · rintro ⟨hl, hd⟩
    have hlen : (bytes.length : Int) = (VigemInstaller.kInstallerSize : Int) := hl
    exact ⟨by exact_mod_cast hlen, hex_inj hd⟩
  · rintro ⟨hl, hd⟩
    exact ⟨by rw [hl]; rfl, congrArg hex hd⟩

end VigemInstallerService

end RemoteController
