import WekaShareDriver.ShareParts
import WekaShareDriver.Access.NfsRuns
import WekaShareDriver.Foundation.Trimming
import Mathlib.Data.Bool.AllAny

/-! # Deleting under a mount

Before the filesystem of a share is deleted its mount is undone, if the mount table shows one.
The table is read line by line and its paths are compared as texts; the kernel writes there the
canonical path of a mount point, with white space and backslashes escaped, and the driver joins
the path it asks for from its configuration. A table that cannot be read shows nothing.

So the filesystem is never deleted under its mount exactly when the table can be read and shows
the mount under the text of the joined path (`WekaShareDriver.delete_under_mount_iff`).
-/

namespace WekaShareDriver

open Foundation Program

/-! ## The kernel's side -/

/-- Undo the topmost mount at a path. -/
def takeTop (path : String) (mounts : List Mount) : List Mount :=
  (mounts.reverse.eraseP fun mount => mount.mountPoint = path).reverse

/-- What an operation does where the kernel resolves paths: a mount is recorded under the
canonical path of its mount point, and an unmount undoes the topmost mount there. -/
def respondAt (resolve : String → String) : (op : Op) → World → Except Error op.Res × World
  | .host (.wekafsMount source mountPoint options), w =>
      respond (.host (.wekafsMount source (resolve mountPoint) options)) w
  | .host (.nfsMount mountExport mountPoint), w =>
      respond (.host (.nfsMount mountExport (resolve mountPoint))) w
  | .host (.umount mountPoint _), w =>
      if w.host.mounts.any fun mount => mount.mountPoint = resolve mountPoint then
        (.ok (), { w with host := { w.host with
          mounts := takeTop (resolve mountPoint) w.host.mounts } })
      else (.error .process, w)
  | op, w => respond op w

/-- The world where the kernel resolves paths and each operation may fail as it may. -/
abbrev kernelService (resolve : String → String) (fails : Op → Error → Prop) :
    Service Op Op.Res Error World := withFaults (respondAt resolve) fun _ => fails

/-- The mount by which the driver mounts a share's filesystem. -/
def shareMount (cfg : Config) (share : Share) : WekaMount where
  backends := some cfg.backends
  fsName := cfg.shareName share.id
  mountPoint := cfg.mountPoint (cfg.shareName share.id)
  authTokenPath := none
  numCores := 1
  net := none

/-- A mount of the share's filesystem at the driver's mount point for it. -/
def IsShareMount (resolve : String → String) (cfg : Config) (share : Share) (mount : Mount) :
    Prop :=
  mount.device = (shareMount cfg share).source ∧
    mount.mountPoint = resolve (shareMount cfg share).mountPoint ∧ mount.fstype = "wekafs"

instance (resolve : String → String) (cfg : Config) (share : Share) (mount : Mount) :
    Decidable (IsShareMount resolve cfg share mount) :=
  inferInstanceAs (Decidable (_ ∧ _ ∧ _))

/-- The share's filesystem is mounted at the driver's mount point for it. -/
def MountedShare (resolve : String → String) (cfg : Config) (share : Share)
    (mounts : List Mount) : Prop :=
  ∃ mount ∈ mounts, IsShareMount resolve cfg share mount

instance (resolve : String → String) (cfg : Config) (share : Share) (mounts : List Mount) :
    Decidable (MountedShare resolve cfg share mounts) :=
  inferInstanceAs (Decidable (∃ _ ∈ _, _))

/-- The mount table shows a WekaFS mount under the text of a path. -/
def showsMount (mountPoint : String) (lines : List String) : Bool :=
  lines.any fun line =>
    match Text.words line with
    | _ :: mounted :: fstype :: _ => mounted = mountPoint && fstype = "wekafs"
    | _ => false

/-- A mount point is looked for among the lines of the table. -/
theorem isMounted_eq (mountPoint : String) : isMounted mountPoint =
    tryCatch
      (do
        let lines ← onHost .readProcMounts
        return showsMount mountPoint lines)
      fun
        | .os => pure false
        | error => throw error := rfl

private theorem unmountShare_eq (cfg : Config) (share : Share) : unmountShare cfg share = (do
    if ← isMounted (shareMount cfg share).mountPoint then
      (shareMount cfg share).unmount true) := rfl

/-! ## Reading the table -/

/-- A path that the kernel lists as it is written: it is canonical and has neither white space
nor a backslash. -/
structure PlainPath (resolve : String → String) (path : String) : Prop where
  canonical : resolve path = path
  nonempty : path ≠ ""
  spaceless : ∀ char ∈ path.toList, Text.isSpace char = false ∧ char ≠ '\\'

/-- The kernel lists a text without white space and backslashes as it is written. -/
theorem mountField_of_plain {text : String}
    (spaceless : ∀ char ∈ text.toList, Text.isSpace char = false ∧ char ≠ '\\') :
    mountField text = text := by
  have same : ∀ chars : List Char, (∀ char ∈ chars, Text.isSpace char = false ∧ char ≠ '\\') →
      chars.flatMap (fun char =>
        if char = ' ' then "\\040".toList
        else if char = '\t' then "\\011".toList
        else if char = '\n' then "\\012".toList
        else if char = '\\' then "\\134".toList
        else [char]) = chars := by
    intro chars plain
    induction chars with
    | nil => rfl
    | cons char rest ih =>
        obtain ⟨space, backslash⟩ := plain char List.mem_cons_self
        have blank : char ≠ ' ' ∧ char ≠ '\t' ∧ char ≠ '\n' := by
          refine ⟨?_, ?_, ?_⟩ <;> rintro rfl <;> exact absurd space (by decide)
        rw [List.flatMap_cons, if_neg blank.1, if_neg blank.2.1, if_neg blank.2.2,
          if_neg backslash, ih fun other member => plain other (List.mem_cons_of_mem _ member)]
        rfl
  rw [mountField, same _ spaceless, String.ofList_toList]

/-- A WekaFS mount at a path without white space is shown, if its device is written as a word. -/
theorem showsMount_of_mem {mounts : List Mount} {mount : Mount} (member : mount ∈ mounts)
    (fstype : mount.fstype = "wekafs") (named : mountField mount.device ≠ "")
    (word : ∀ char ∈ (mountField mount.device).toList, Text.isSpace char = false)
    (placed : mount.mountPoint ≠ "")
    (spaceless : ∀ char ∈ mount.mountPoint.toList, Text.isSpace char = false ∧ char ≠ '\\') :
    showsMount mount.mountPoint (mounts.map Mount.line) = true := by
  refine List.any_eq_true.mpr ⟨mount.line, List.mem_map.mpr ⟨mount, member, rfl⟩, ?_⟩
  have written : mount.line = mountField mount.device ++ String.singleton ' ' ++
      (mount.mountPoint ++ String.singleton ' ' ++
        ("wekafs" ++ String.singleton ' ' ++ "rw 0 0")) := by
    rw [Mount.line, fstype, mountField_of_plain spaceless]
    simp only [String.append_assoc]
    rfl
  have space : Text.isSpace ' ' = true := by decide
  rw [written, Text.words_append named word space, Text.words_append placed (fun char member =>
      (spaceless char member).1) space, Text.words_append (by decide)
      (List.all_iff_forall_prop.mp (by decide)) space]
  simp

/-- A mount at such a path is shown, if its device is plain too. -/
theorem showsMount_of_plain {resolve : String → String} {cfg : Config} {share : Share}
    {mounts : List Mount} (mounted : MountedShare resolve cfg share mounts)
    (device : PlainPath id (shareMount cfg share).source)
    (plain : PlainPath resolve (shareMount cfg share).mountPoint) :
    showsMount (shareMount cfg share).mountPoint (mounts.map Mount.line) = true := by
  obtain ⟨mount, member, source, path, fstype⟩ := mounted
  have there : mount.mountPoint = (shareMount cfg share).mountPoint := path.trans plain.canonical
  have written := mountField_of_plain device.spaceless
  rw [← source] at written
  rw [← there]
  refine showsMount_of_mem member fstype ?_ ?_ ?_ ?_
  · rw [written, source]
    exact device.nonempty
  · rw [written, source]
    exact fun char member => (device.spaceless char member).1
  · rw [there]
    exact plain.nonempty
  · rw [there]
    exact plain.spaceless

/-! ## Undoing the mount -/

/-- The mount is undone, or there is none: the table can be read and shows the mount, and no
other mount of the filesystem lies beneath it. -/
def Released (resolve : String → String) (fails : Op → Error → Prop) (cfg : Config)
    (share : Share) (mounts : List Mount) : Prop :=
  ¬ MountedShare resolve cfg share mounts ∨
    ¬ fails (.host .readProcMounts) .os ∧
      showsMount (shareMount cfg share).mountPoint (mounts.map Mount.line) = true ∧
      ¬ MountedShare resolve cfg share
        (takeTop (resolve (shareMount cfg share).mountPoint) mounts)

section Unmount

variable {resolve : String → String} {fails : Op → Error → Prop} {cfg : Config} {share : Share}
  {w t : World}

/-- Undoing a mount adds none. -/
theorem not_mountedShare_takeTop {path : String} {mounts : List Mount}
    (none : ¬ MountedShare resolve cfg share mounts) :
    ¬ MountedShare resolve cfg share (takeTop path mounts) := by
  rintro ⟨mount, member, same⟩
  have kept := List.mem_of_mem_eraseP (List.mem_reverse.mp member)
  exact none ⟨mount, List.mem_reverse.mp kept, same⟩

/-- The table is read as it is, or cannot be read and shows nothing. -/
theorem exec_isMounted {mountPoint : String} {outcome : Except Error Bool}
    (run : Exec (kernelService resolve fails) (isMounted mountPoint) w outcome t) :
    t = w ∧ ∀ shown, outcome = .ok shown →
      shown = showsMount mountPoint (w.host.mounts.map Mount.line) ∨
        fails (.host .readProcMounts) .os := by
  rw [isMounted_eq] at run
  rcases Exec.of_tryCatch run with ⟨shown, rfl, read⟩ | ⟨error, u, read, handled⟩
  · rcases Exec.of_bind read with ⟨lines, u, first, rest⟩ | ⟨error, same, _⟩
    · rcases first.of_perform with answered | ⟨error, _, failed, _⟩
      · cases answered
        cases rest
        exact ⟨rfl, fun shown same => Or.inl (Except.ok.inj same).symm⟩
      · cases failed
    · cases same
  · have failed : fails (.host .readProcMounts) error ∧ u = w := by
      rcases Exec.of_bind read with ⟨lines, v, first, rest⟩ | ⟨error, same, first⟩
      · cases rest
      · cases same
        rcases first.of_perform with answered | ⟨_, raised, failed, same⟩
        · cases answered
        · cases failed
          exact ⟨raised, same⟩
    obtain ⟨raised, rfl⟩ := failed
    cases error <;> cases handled <;> first
      | exact ⟨rfl, fun shown _ => Or.inr raised⟩
      | exact ⟨rfl, fun shown same => by cases same⟩

/-- The table can be read. -/
theorem isMounted_reads (mountPoint : String) :
    Exec (kernelService resolve fails) (isMounted mountPoint) w
      (.ok (showsMount mountPoint (w.host.mounts.map Mount.line))) w := by
  rw [isMounted_eq]
  exact .tryCatch_ok (.bind (.perform (Or.inl rfl)) (.ret _ _))

/-- A table that cannot be read shows nothing. -/
theorem isMounted_unreadable (mountPoint : String)
    (unreadable : fails (.host .readProcMounts) .os) :
    Exec (kernelService resolve fails) (isMounted mountPoint) w (.ok false) w := by
  rw [isMounted_eq]
  exact .tryCatch_error (.bind_error (.perform (Or.inr ⟨.os, unreadable, rfl, rfl⟩))) (.ret _ _)

/-- An unmount that returns took the topmost mount away, or the table showed none. -/
theorem exec_unmount
    (run : Exec (kernelService resolve fails) ((shareMount cfg share).unmount true) w (.ok ()) t) :
    t = w ∧ (showsMount (shareMount cfg share).mountPoint (w.host.mounts.map Mount.line) = false ∨
        fails (.host .readProcMounts) .os) ∨
      t.host.mounts = takeTop (resolve (shareMount cfg share).mountPoint) w.host.mounts := by
  rcases Exec.of_bind run with ⟨shown, u, first, rest⟩ | ⟨error, same, _⟩
  · obtain ⟨rfl, read⟩ := exec_isMounted first
    cases shown with
    | false =>
        cases rest
        refine Or.inl ⟨rfl, ?_⟩
        rcases read false rfl with shows | unreadable
        · exact Or.inl shows.symm
        · exact Or.inr unreadable
    | true =>
        right
        rcases Exec.of_tryCatch rest with ⟨_, _, undone⟩ | ⟨error, v, _, handled⟩
        · rcases undone.of_perform with answered | ⟨error, _, failed, _⟩
          · simp only [respondAt] at answered
            split at answered
            · cases answered
              rfl
            · cases answered
          · cases failed
        · cases error <;> cases handled
  · cases same

private theorem exec_unmountShare
    (run : Exec (kernelService resolve fails) (unmountShare cfg share) w (.ok ()) t) :
    t = w ∧ (showsMount (shareMount cfg share).mountPoint (w.host.mounts.map Mount.line) = false ∨
        fails (.host .readProcMounts) .os) ∨
      t.host.mounts = takeTop (resolve (shareMount cfg share).mountPoint) w.host.mounts := by
  rw [unmountShare_eq] at run
  rcases Exec.of_bind run with ⟨shown, u, first, rest⟩ | ⟨error, same, _⟩
  · obtain ⟨rfl, read⟩ := exec_isMounted first
    cases shown with
    | false =>
        cases rest
        refine Or.inl ⟨rfl, ?_⟩
        rcases read false rfl with shows | unreadable
        · exact Or.inl shows.symm
        · exact Or.inr unreadable
    | true => exact exec_unmount rest
  · cases same

/-- Where the mount can be undone it is gone when the program returns. -/
theorem not_mounted_of_released (released : Released resolve fails cfg share w.host.mounts)
    (run : Exec (kernelService resolve fails) (unmountShare cfg share) w (.ok ()) t) :
    ¬ MountedShare resolve cfg share t.host.mounts := by
  rcases exec_unmountShare run with ⟨rfl, hidden⟩ | taken
  · rcases released with none | ⟨readable, shows, _⟩
    · exact none
    · rcases hidden with hides | unreadable
      · rw [shows] at hides
        cases hides
      · exact absurd unreadable readable
  · rw [taken]
    rcases released with none | ⟨_, _, only⟩
    · exact not_mountedShare_takeTop none
    · exact only

/-- Otherwise it may be left there. -/
theorem mounted_of_not_released (stuck : ¬ Released resolve fails cfg share w.host.mounts) :
    ∃ t, Exec (kernelService resolve fails) (unmountShare cfg share) w (.ok ()) t ∧
      MountedShare resolve cfg share t.host.mounts := by
  rw [unmountShare_eq]
  obtain ⟨mounted, stuck⟩ := not_or.mp stuck
  rw [not_not] at mounted
  by_cases unreadable : fails (.host .readProcMounts) .os
  · exact ⟨w, .bind (isMounted_unreadable _ unreadable) (.ret _ _), mounted⟩
  have reads : Exec (kernelService resolve fails) (isMounted (shareMount cfg share).mountPoint) w
      (.ok (showsMount (shareMount cfg share).mountPoint (w.host.mounts.map Mount.line))) w :=
    isMounted_reads _
  by_cases shows :
      showsMount (shareMount cfg share).mountPoint (w.host.mounts.map Mount.line) = true
  · -- the topmost mount goes, and another one of the filesystem is left
    have left : MountedShare resolve cfg share
        (takeTop (resolve (shareMount cfg share).mountPoint) w.host.mounts) := by
      by_contra gone
      exact stuck ⟨unreadable, shows, gone⟩
    obtain ⟨mount, member, source, path, fstype⟩ := mounted
    have there : (w.host.mounts.any fun mount =>
        mount.mountPoint = resolve (shareMount cfg share).mountPoint) = true :=
      List.any_eq_true.mpr ⟨mount, member, by simpa using path⟩
    rw [shows] at reads
    refine ⟨{ w with host := { w.host with
        mounts := takeTop (resolve (shareMount cfg share).mountPoint) w.host.mounts } },
      .bind reads (.bind reads (.tryCatch_ok (.perform (Or.inl ?_)))), left⟩
    simp only [respondAt, there, ↓reduceIte]
  · rw [Bool.not_eq_true] at shows
    rw [shows] at reads
    exact ⟨w, .bind reads (.ret _ _), mounted⟩

end Unmount

/-! ## The delete -/

/-- Open the session of a share and look its filesystem up. -/
def findShare (cfg : Config) (share : Share) : Driver (Session × Option (Entry Filesystem)) := do
  let session ← clientForShare cfg share
  let found ← getFilesystemByName session (cfg.shareName share.id)
  return (session, found)

private theorem deleteShare_eq_findShare (cfg : Config) (share : Share) :
    deleteShare cfg share = (do
      let (session, found) ← findShare cfg share
      match found with
      | none => return ()
      | some fs =>
          closeAccess share session fs.uid
          unmountShare cfg share
          deleteFound session fs.uid) := by
  rw [deleteShare_eq, findShare, LawfulMonad.bind_assoc]
  refine congrArg (_ >>= ·) (funext fun session => ?_)
  rw [LawfulMonad.bind_assoc]
  rfl

/-- An operation that neither mounts nor deletes. -/
def SparesMounts : Op → Prop
  | .api _ (.deleteFilesystem _) => False
  | .host (.wekafsMount ..) => False
  | .host (.nfsMount ..) => False
  | .host (.umount ..) => False
  | _ => True

section Delete

variable {resolve : String → String} {fails : Op → Error → Prop} {cfg : Config} {share : Share}
  {w t : World} {session : Session}

/-- It leaves the mounts alone. -/
theorem SparesMounts.kept {op : Op} {answer : Except Error op.Res} (spares : SparesMounts op)
    (answered : kernelService resolve fails w op answer t) : t.host.mounts = w.host.mounts := by
  rcases answered with equal | ⟨_, _, _, rfl⟩
  · have final : t = (respondAt resolve op w).2 := (congrArg Prod.snd equal).symm
    subst final
    cases op with
    | api session request => rfl
    | login org username password => rfl
    | host call =>
        cases call with
        | wekafsMount source mountPoint options | nfsMount mountExport mountPoint
        | umount mountPoint force => exact spares.elim
        | shareTypeExtraSpecs typeId | rmdir path =>
            simp only [respondAt, respond, Host.answer]
            split <;> rfl
        | _ => rfl
  · rfl

/-- Opening a session neither mounts nor deletes. -/
theorem OpenOp.spares {op : Op} (opens : OpenOp op) : SparesMounts op := by
  cases op with
  | api session request =>
      cases request with
      | deleteFilesystem uid => cases session <;> exact opens.elim
      | _ => trivial
  | login org username password => trivial
  | host call => cases call <;> trivial

private theorem uses_findShare : (findShare cfg share).Uses SparesMounts :=
  .bind ((uses_clientForShare share).mono fun _ => OpenOp.spares) fun _ =>
    .bind (.bind (uses_perform trivial) fun _ => trivial) fun _ => trivial

/-- A request about policies neither mounts nor deletes. -/
theorem PolicyOp.spares {op : Op} (policies : PolicyOp session op) : SparesMounts op := by
  obtain ⟨request, rfl, about⟩ := policies
  cases request <;> trivial

private theorem closeAccess_spares (fsUid : Uid) :
    (closeAccess share session fsUid).Uses SparesMounts :=
  (uses_closeAccess fsUid).mono fun _ => PolicyOp.spares

/-- Closing the access to a filesystem always returns. -/
theorem exec_closeAccess (fsUid : Uid) :
    ∃ t, Exec (kernelService resolve fails) (closeAccess share session fsUid) w (.ok ()) t := by
  unfold closeAccess
  split
  · obtain ⟨outcome, t, run⟩ : ∃ outcome t, Exec (kernelService resolve fails)
        (cleanupWekafsPolicies session share fsUid) w outcome t :=
      exec_exists (fun s op => ⟨_, _, Or.inl rfl⟩) _ w
    cases outcome with
    | ok value => exact ⟨t, .tryCatch_ok run⟩
    | error error => exact ⟨t, .tryCatch_error run (.ret _ _)⟩
  · exact ⟨w, .ret _ _⟩

/-- A program of such operations leaves the mounts alone. -/
theorem mounts_kept {α : Type} {program : Driver α} {value : α} (uses : program.Uses SparesMounts)
    (run : Exec (kernelService resolve fails) program w (.ok value) t) :
    t.host.mounts = w.host.mounts := by
  have kept : ∀ s op (answer : Except Error op.Res) t, SparesMounts op →
      s.host.mounts = w.host.mounts → kernelService resolve fails s op answer t →
        t.host.mounts = w.host.mounts :=
    fun s op answer t spares here answered => (spares.kept answered).trans here
  exact run.post (uses.wp kept rfl)

/-- The filesystem is deleted in the state in which the mount was undone. -/
theorem issued_deleteFound {fsUid : Uid} {u v : World} {op : Op}
    (issued : Issues (kernelService resolve fails) (deleteFound session fsUid) w u op v) :
    u = w := by
  cases issued with
  | here _ => rfl
  | @later _ _ _ _ _ _ _ answer answered more =>
      cases answer with
      | ok value => cases more
      | error error =>
          have rest : Issues (kernelService resolve fails)
              (if isNotFound error then pure () else throw error : Driver Unit) _ u op v := more
          split at rest <;> cases rest

/-- A mount that is not released may be deleted under. -/
theorem deletes_under_mount {fs : Entry Filesystem} {u : World}
    (found : Exec (kernelService resolve fails) (findShare cfg share) w (.ok (session, some fs)) u)
    (stuck : ¬ Released resolve fails cfg share w.host.mounts) :
    ∃ u v, Issues (kernelService resolve fails) (deleteShare cfg share) w u
      (.api session (.deleteFilesystem fs.uid)) v ∧
        MountedShare resolve cfg share u.host.mounts := by
  have same := mounts_kept uses_findShare found
  obtain ⟨x, closed⟩ : ∃ x, Exec (kernelService resolve fails) (closeAccess share session fs.uid)
    u (.ok ()) x := exec_closeAccess fs.uid
  have same' := mounts_kept (closeAccess_spares fs.uid) closed
  rw [← same, ← same'] at stuck
  obtain ⟨y, left, mounted⟩ := mounted_of_not_released stuck
  rw [deleteShare_eq_findShare]
  refine ⟨y, _, .bind_right found (.bind_right closed (.bind_right left
    (.tryCatch_left (.here (Or.inl rfl)) _))), mounted⟩

/-- The filesystem of a share is never deleted under its mount exactly when it is not found,
or not mounted, or when the mount table can be read and shows the mount under the text of the
path joined from the configuration and no second mount of the filesystem lies beneath. The table
shows it so where the kernel lists device and mount point as they are written. -/
theorem delete_under_mount_iff (resolve : String → String) (fails : Op → Error → Prop)
    (cfg : Config) (share : Share) (w : World) :
    ((∀ session uid u v, Issues (kernelService resolve fails) (deleteShare cfg share) w u
        (.api session (.deleteFilesystem uid)) v →
          ¬ MountedShare resolve cfg share u.host.mounts) ↔
      (∀ session fs t, ¬ Exec (kernelService resolve fails) (findShare cfg share) w
        (.ok (session, some fs)) t) ∨ Released resolve fails cfg share w.host.mounts) ∧
    (MountedShare resolve cfg share w.host.mounts → PlainPath id (shareMount cfg share).source →
      PlainPath resolve (shareMount cfg share).mountPoint →
        showsMount (shareMount cfg share).mountPoint (w.host.mounts.map Mount.line) = true) := by
  refine ⟨⟨fun safe => ?_, fun meets session uid u v issued mounted => ?_⟩,
    fun mounted device plain => showsMount_of_plain mounted device plain⟩
  · by_contra fails'
    obtain ⟨reachable, stuck⟩ := not_or.mp fails'
    simp only [not_forall, not_not] at reachable
    obtain ⟨session, fs, t, found⟩ := reachable
    obtain ⟨u, v, issued, mounted⟩ := deletes_under_mount found stuck
    exact safe _ _ _ _ issued mounted
  · rw [deleteShare_eq_findShare] at issued
    rcases issued.of_bind with finding | ⟨⟨opened, result⟩, x, found, later⟩
    · exact finding.uses uses_findShare
    cases result with
    | none => cases later
    | some fs =>
        rcases later.of_bind with closing | ⟨_, y, closed, unmounting⟩
        · exact (closing.uses (uses_closeAccess fs.uid)).spares
        rcases unmounting.of_bind with undoing | ⟨_, z, undone, deleting⟩
        · exact undoing.uses uses_unmountShare
        have same := (mounts_kept (closeAccess_spares fs.uid) closed).trans
          (mounts_kept uses_findShare found)
        rcases meets with missing | released
        · exact missing _ _ _ found
        · rw [← same] at released
          have here := issued_deleteFound deleting
          rw [here] at mounted
          exact not_mounted_of_released released undone mounted

end Delete

section Sample

/-- The sample share's filesystem, mounted where the driver mounts it. -/
def mountedWekafs (path : String) : World :=
  { sampleWekafs with host := { Host.empty with
      mounts := [⟨(shareMount sampleConfig (sampleShare .wekafs)).source, path, "wekafs"⟩] } }

/-- The mount table cannot be read. -/
def tableUnreadable (op : Op) (error : Error) : Prop :=
  op = .host .readProcMounts ∧ error = .os

/-- A base directory with a slash too many. -/
def slashedConfig : Config := { sampleConfig with mountPointBase := "/mnt//weka" }

/-- The kernel's path for it. -/
def withoutSlash (path : String) : String :=
  if path = (shareMount slashedConfig (sampleShare .wekafs)).mountPoint then
    (shareMount sampleConfig (sampleShare .wekafs)).mountPoint
  else path

/-- The session of the sample share's project. -/
def sampleSession : Session := projectSession sampleConfig (some "p1")

/-- The sample share's filesystem as the cluster lists it. -/
def listedWekafs : Entry Filesystem :=
  ⟨0, ⟨sampleSession, sampleConfig.shareName (sampleShare .wekafs).id, "default", gbToBytes 1, 0,
    true⟩⟩

private theorem mountedWekafs_found {resolve : String → String} {fails : Op → Error → Prop}
    {cfg : Config} {path : String}
    (same : findShare cfg (sampleShare .wekafs) = findShare sampleConfig (sampleShare .wekafs)) :
    ∃ t, Exec (kernelService resolve fails) (findShare cfg (sampleShare .wekafs))
      (mountedWekafs path) (.ok (sampleSession, some listedWekafs)) t := by
  rw [same]
  exact ⟨_, exec_run _ _⟩

/-- A share is deleted under its mount when the mount table cannot be read, and when the base
directory is written with a slash too many. -/
theorem deleted_under_mount :
    (∃ u v, Issues (kernelService id tableUnreadable)
        (deleteShare sampleConfig (sampleShare .wekafs))
        (mountedWekafs (shareMount sampleConfig (sampleShare .wekafs)).mountPoint) u
        (.api sampleSession (.deleteFilesystem 0)) v ∧
      MountedShare id sampleConfig (sampleShare .wekafs) u.host.mounts) ∧
    ∃ u v, Issues (kernelService withoutSlash fun _ _ => False)
        (deleteShare slashedConfig (sampleShare .wekafs))
        (mountedWekafs (shareMount sampleConfig (sampleShare .wekafs)).mountPoint) u
        (.api sampleSession (.deleteFilesystem 0)) v ∧
      MountedShare withoutSlash slashedConfig (sampleShare .wekafs) u.host.mounts := by
  constructor
  · obtain ⟨t, found⟩ : ∃ t, Exec (kernelService id tableUnreadable)
        (findShare sampleConfig (sampleShare .wekafs))
        (mountedWekafs (shareMount sampleConfig (sampleShare .wekafs)).mountPoint)
        (.ok (sampleSession, some listedWekafs)) t := mountedWekafs_found rfl
    refine deletes_under_mount found (not_or.mpr ⟨not_not.mpr (by decide), fun released => ?_⟩)
    exact released.1 ⟨rfl, rfl⟩
  · obtain ⟨t, found⟩ : ∃ t, Exec (kernelService withoutSlash fun _ _ => False)
        (findShare slashedConfig (sampleShare .wekafs))
        (mountedWekafs (shareMount sampleConfig (sampleShare .wekafs)).mountPoint)
        (.ok (sampleSession, some listedWekafs)) t := mountedWekafs_found rfl
    refine deletes_under_mount found (not_or.mpr ⟨not_not.mpr (by decide), fun released => ?_⟩)
    exact absurd released.2.1 (by decide +kernel)

end Sample

end WekaShareDriver
