import WekaShareDriver.Cleanups
import WekaShareDriver.CopyPhases
import WekaShareDriver.CopyStatus
import WekaShareDriver.LiveMounts

/-! # Cleaning up after a copy

Whatever step of a copy fails, its cleanup undoes what the steps before it have set up: the
mounts, the temporary directories and, over NFS, the temporary client group with its permissions.
Nothing else is touched (`WekaShareDriver.snapshot_copy_cleans_up`).

What a copy has set up so far is an invariant of its stages
(`WekaShareDriver.NfsUnderway`, `WekaShareDriver.WekafsUnderway`), and the cleanup is run from any
state in which it holds.
-/

namespace WekaShareDriver

open Foundation Program

variable {cfg : Config} {job : CopyJob} {fault : Fault} {w t u : World}

/-! ## Temporary directories -/

/-- Path of the `n`-th temporary directory. -/
def tempDirPath (front : String) (n : Nat) : String := "/tmp/" ++ front ++ Nat.repr n

/-- The directories that will be made are new. -/
def FreshTempDirs (w : World) : Prop :=
  ∀ front n, w.host.nextTempDir ≤ n → tempDirPath front n ∉ w.host.tempDirs ∧
    ∀ mount ∈ w.host.mounts, mount.mountPoint ≠ tempDirPath front n

/-- A path that the mount table lists as it is. -/
def PlainDir (path : String) : Prop :=
  path ≠ "" ∧ ∀ char ∈ path.toList, Text.isSpace char = false ∧ char ≠ '\\'

/-- A world in which the temporary directories of a copy have been made. -/
structure DirsMade (w u : World) (srcMnt dstMnt : String) : Prop where
  mounts : u.host.mounts = w.host.mounts
  dirs : u.host.tempDirs = w.host.tempDirs ++ [srcMnt, dstMnt]
  apart : srcMnt ≠ dstMnt
  newSrc : srcMnt ∉ w.host.tempDirs
  newDst : dstMnt ∉ w.host.tempDirs
  bareSrc : ∀ mount ∈ w.host.mounts, mount.mountPoint ≠ srcMnt
  bareDst : ∀ mount ∈ w.host.mounts, mount.mountPoint ≠ dstMnt
  plainSrc : PlainDir srcMnt
  plainDst : PlainDir dstMnt
  clientGroups : u.cluster.clientGroups = w.cluster.clientGroups
  permissions : u.cluster.permissions = w.cluster.permissions

private theorem src_ne_dst (n m : Nat) : tempDirPath "manila_weka_snap_src_" n ≠
    tempDirPath "manila_weka_snap_dst_" m := by
  intro same
  have lists := congrArg String.toList same
  simp only [tempDirPath, String.toList_append] at lists
  exact absurd (List.append_inj_left lists (by decide +kernel)) (by decide +kernel)

private theorem plainDir_tempDirPath {front : String}
    (plain : ∀ char ∈ front.toList, Text.isSpace char = false ∧ char ≠ '\\') (n : Nat) :
    PlainDir (tempDirPath front n) := by
  constructor
  · intro empty
    have lists := congrArg String.toList empty
    simp [tempDirPath] at lists
  · intro char member
    simp only [tempDirPath, String.toList_append, List.mem_append] at member
    rcases member with (root | named) | digit
    · have rooted : ∀ char ∈ "/tmp/".toList, Text.isSpace char = false ∧ char ≠ '\\' :=
        List.all_iff_forall_prop.mp (by decide +kernel)
      exact rooted char root
    · exact plain char named
    · rw [Nat.repr, String.toList_ofList] at digit
      have numeral := Nat.isDigit_of_mem_toDigits (by decide) (by decide) digit
      constructor
      · cases space : Text.isSpace char with
        | false => rfl
        | true => exact absurd numeral (Text.not_isDigit_of_isSpace space)
      · intro backslash
        rw [backslash] at numeral
        cases numeral

/-- An operation is answered, or fails and changes nothing. -/
theorem answered_or_failed {op : Op} {outcome : Except Error op.Res}
    (run : Exec (service fault) (perform op) w outcome t) :
    respond op w = (outcome, t) ∨ (∃ error, outcome = .error error) ∧ t = w := by
  rcases run.of_perform with answered | ⟨error, _, same, kept⟩
  · exact Or.inl answered
  · exact Or.inr ⟨⟨error, same⟩, kept⟩

private theorem exec_mkdtemp {front path : String}
    (run : Exec (service fault) (onHost (.mkdtemp front)) w (.ok path) t) :
    path = tempDirPath front w.host.nextTempDir ∧
      t = { w with host := { w.host with
        tempDirs := w.host.tempDirs ++ [path], nextTempDir := w.host.nextTempDir + 1 } } := by
  rcases answered_or_failed run with answered | ⟨⟨_, impossible⟩, _⟩
  · cases answered
    exact ⟨rfl, rfl⟩
  · cases impossible

/-- Two new directories. -/
theorem dirsMade_of_mkdtemp {v : World} {srcMnt dstMnt : String} (fresh : FreshTempDirs w)
    (src : Exec (service fault) (onHost (.mkdtemp "manila_weka_snap_src_")) w (.ok srcMnt) v)
    (dst : Exec (service fault) (onHost (.mkdtemp "manila_weka_snap_dst_")) v (.ok dstMnt) u) :
    DirsMade w u srcMnt dstMnt := by
  obtain ⟨rfl, rfl⟩ := exec_mkdtemp src
  obtain ⟨rfl, rfl⟩ := exec_mkdtemp dst
  obtain ⟨newSrc, bareSrc⟩ := fresh "manila_weka_snap_src_" _ (Nat.le_refl _)
  obtain ⟨newDst, bareDst⟩ := fresh "manila_weka_snap_dst_" _ (Nat.le_succ _)
  exact {
    mounts := rfl
    dirs := by simp
    apart := src_ne_dst _ _
    newSrc, newDst, bareSrc, bareDst
    plainSrc := plainDir_tempDirPath (List.all_iff_forall_prop.mp (by decide +kernel)) _
    plainDst := plainDir_tempDirPath (List.all_iff_forall_prop.mp (by decide +kernel)) _
    clientGroups := rfl
    permissions := rfl }

/-! ## Undoing mounts -/

/-- A world without the mounts at a path. -/
def World.unmounted (w : World) (path : String) : World :=
  { w with host := { w.host with
    mounts := w.host.mounts.filter fun mount => mount.mountPoint ≠ path } }

private theorem unmounted_of_bare {path : String}
    (bare : ∀ mount ∈ w.host.mounts, mount.mountPoint ≠ path) : w.unmounted path = w := by
  have kept : (w.host.mounts.filter fun mount => decide (mount.mountPoint ≠ path)) =
      w.host.mounts := List.filter_eq_self.mpr fun mount member => decide_eq_true (bare mount member)
  unfold World.unmounted
  rw [kept]

/-- Undoing the mounts at a path leaves none there, whether there was one or not. -/
theorem run_umount (path : String) (force : Bool) :
    ((onHost (.umount path force)).run respond w).2 = w.unmounted path := by
  rw [onHost, run_perform, respond, Host.answer]
  split
  · rfl
  · next none =>
      refine (unmounted_of_bare fun mount member there => none ?_).symm
      exact List.any_eq_true.mpr ⟨mount, member, decide_eq_true there⟩

/-- What a program leaves does not depend on ignoring its error. -/
theorem run_ignoring (program : Driver Unit) :
    (tryCatch program fun _ => pure () : Driver Unit).run respond w =
      (.ok (), (program.run respond w).2) := by
  rw [run_tryCatch]
  rcases program.run respond w with ⟨outcome, t⟩
  cases outcome <;> rfl

private theorem run_umountIf {mounted : Bool} {path : String}
    (noted : mounted = false → ∀ mount ∈ w.host.mounts, mount.mountPoint ≠ path) :
    (umountIf mounted path).run respond w = (.ok (), w.unmounted path) := by
  cases mounted with
  | false =>
      rw [unmounted_of_bare (noted rfl)]
      rfl
  | true => exact (run_ignoring _).trans (congrArg _ (run_umount path false))

private theorem run_isMounted (path : String) : (isMounted path).run respond w =
    (.ok (showsMount path (w.host.mounts.map Mount.line)), w) := rfl

private theorem run_exitIf {entered : Bool} {mnt : WekaMount}
    (noted : entered = false → ∀ mount ∈ w.host.mounts, mount.mountPoint ≠ mnt.mountPoint)
    (shown : ∀ mount ∈ w.host.mounts, mount.mountPoint = mnt.mountPoint →
      showsMount mnt.mountPoint (w.host.mounts.map Mount.line) = true) :
    (exitIf entered mnt).run respond w = (.ok (), w.unmounted mnt.mountPoint) := by
  cases entered with
  | false =>
      rw [unmounted_of_bare (noted rfl)]
      rfl
  | true =>
      refine (run_ignoring _).trans (congrArg _ ?_)
      rw [WekaMount.unmount, run_bind_ok (run_isMounted _)]
      cases shows : showsMount mnt.mountPoint (w.host.mounts.map Mount.line) with
      | false =>
          refine (unmounted_of_bare fun mount member there => ?_).symm
          rw [shown mount member there] at shows
          cases shows
      | true =>
          have left : ((onHost (.umount mnt.mountPoint false)).run respond w).2 =
              w.unmounted mnt.mountPoint := run_umount _ _
          simp only [↓reduceIte, run_tryCatch]
          generalize (onHost (.umount mnt.mountPoint false)).run respond w = ran at left ⊢
          obtain ⟨outcome, t⟩ := ran
          cases outcome with
          | ok _ => exact left
          | error error => cases error <;> exact left

/-! ## Removing directories -/

/-- A world with other temporary directories. -/
def World.withDirs (w : World) (tempDirs : List String) : World :=
  { w with host := { w.host with tempDirs } }

private theorem run_rmdir {path : String} (made : path ∈ w.host.tempDirs)
    (bare : ∀ mount ∈ w.host.mounts, mount.mountPoint ≠ path) :
    (tryCatch (onHost (.rmdir path)) fun _ => pure () : Driver Unit).run respond w =
      (.ok (), w.withDirs (w.host.tempDirs.filter (· ≠ path))) := by
  have none : (w.host.mounts.any fun mount => decide (mount.mountPoint = path)) ≠ true := by
    intro shown
    obtain ⟨mount, member, there⟩ := List.any_eq_true.mp shown
    exact bare mount member (of_decide_eq_true there)
  refine (run_ignoring _).trans (congrArg _ ?_)
  simp only [onHost, run_perform, respond, Host.answer]
  rw [if_pos ⟨made, none⟩]
  rfl

/-- The directories of a copy are removed once nothing is mounted there. -/
theorem run_removeTempDirs {dirs : List String} {srcMnt dstMnt : String}
    (made : w.host.tempDirs = dirs ++ [srcMnt, dstMnt]) (apart : srcMnt ≠ dstMnt)
    (newSrc : srcMnt ∉ dirs) (newDst : dstMnt ∉ dirs)
    (bareSrc : ∀ mount ∈ w.host.mounts, mount.mountPoint ≠ srcMnt)
    (bareDst : ∀ mount ∈ w.host.mounts, mount.mountPoint ≠ dstMnt) :
    (removeTempDirs [srcMnt, dstMnt]).run respond w = (.ok (), w.withDirs dirs) := by
  have earlier (path : String) (new : path ∉ dirs) : dirs.filter (· ≠ path) = dirs :=
    List.filter_eq_self.mpr fun dir member =>
      decide_eq_true fun same => new (by rwa [← same])
  have first : w.host.tempDirs.filter (· ≠ srcMnt) = dirs ++ [dstMnt] := by
    rw [made, List.filter_append, earlier srcMnt newSrc]
    simp [apart.symm]
  have second : (dirs ++ [dstMnt]).filter (· ≠ dstMnt) = dirs := by
    rw [List.filter_append, earlier dstMnt newDst]
    simp
  have removedSrc := run_rmdir (by simp [made]) bareSrc
  rw [first] at removedSrc
  have removedDst : (tryCatch (onHost (.rmdir dstMnt)) fun _ => pure () : Driver Unit).run respond
      (w.withDirs (dirs ++ [dstMnt])) = (.ok (), w.withDirs dirs) := by
    have made' : dstMnt ∈ (w.withDirs (dirs ++ [dstMnt])).host.tempDirs := by simp [World.withDirs]
    exact (run_rmdir made' bareDst).trans
      (congrArg (fun left => (Except.ok (), w.withDirs left)) second)
  have steps : removeTempDirs [srcMnt, dstMnt] =
      (tryCatch (onHost (.rmdir srcMnt)) fun _ => pure ()) >>= fun _ =>
        (tryCatch (onHost (.rmdir dstMnt)) fun _ => pure ()) >>= fun _ => pure () := rfl
  rw [steps, run_bind_ok removedSrc, run_bind_ok removedDst]
  rfl

/-! ## Removing the temporary client group -/

/-- The permissions of a client group are deleted, and no others. -/
theorem run_removePermissions (group : String) :
    (tryCatch
      (do
        let permissions ← send .admin .listNfsPermissions
        permissions.forM fun perm =>
          if perm.val.group = group then
            tryCatch (send .admin (.deleteNfsPermission perm.uid)) fun _ => pure ()
          else pure ())
      fun _ => pure () : Driver Unit).run respond w =
        (.ok (), w.withPermissions (permissionsBut w
          (w.cluster.permissions.rows.filter fun perm => perm.val.group = group))) := by
  have listed : (send .admin .listNfsPermissions).run respond w =
      (.ok w.cluster.permissions.rows, w) := rfl
  apply run_tryCatch_ok
  rw [run_bind_ok listed]
  have loop := run_forM respond
    (fun perm : Entry NfsPermission =>
      if perm.val.group = group then
        (tryCatch (send .admin (.deleteNfsPermission perm.uid)) fun _ => pure () : Driver Unit)
      else pure ())
    (fun visited => w.withPermissions (permissionsBut w
      (visited.filter fun perm => perm.val.group = group)))
    w.cluster.permissions.rows fun visited perm rest split => by
      have inside : perm ∈ w.cluster.permissions.rows := by simp [split]
      by_cases chosen : perm.val.group = group
      · have distinct := w.cluster.permissions.nodup_rows
        rw [split, List.nodup_append] at distinct
        have fresh : perm ∉ visited.filter fun perm => perm.val.group = group := fun earlier =>
          distinct.2.2 perm (List.mem_filter.mp earlier).1 perm List.mem_cons_self rfl
        have present : (permissionsBut w (visited.filter fun perm =>
            perm.val.group = group)).get? perm.uid = some perm :=
          Registry.get?_of_mem (Registry.mem_filter.mpr ⟨inside, decide_eq_true fresh⟩)
        have alone : [perm].filter (fun perm => perm.val.group = group) = [perm] := by
          simp [chosen]
        rw [if_pos chosen, List.filter_append, alone, ← erase_permissionsBut inside]
        apply run_tryCatch_ok
        simp only [send, run_perform, respond, Cluster.answer, present, asRaised]
      · rw [if_neg chosen, List.filter_append, List.filter_cons_of_neg (by simpa using chosen),
          List.filter_nil, List.append_nil]
        rfl
  have untouched : permissionsBut w [] = w.cluster.permissions :=
    Registry.filter_eq_self fun _ _ => by simp
  rw [List.filter_nil, untouched] at loop
  exact loop

/-! ## What a copy has set up -/

/-- A stage keeps an invariant, noting what it sets up when it returns. -/
def StageKeeps (service : Service Op Op.Res Error World) (holds : NfsCopy → World → Prop)
    (stage : NfsCopy → Driver NfsCopy) : Prop :=
  ∀ progress v outcome v', holds progress v → Exec service (stage progress) v outcome v' →
    match outcome with
    | .ok progress' => holds progress' v'
    | .error _ => holds progress v'

/-- A stage made of one call, after which it notes something. -/
theorem keeps_of_call {β : Type} {service : Service Op Op.Res Error World}
    {holds : NfsCopy → World → Prop} {call : NfsCopy → Driver β} (note : NfsCopy → β → NfsCopy)
    (kept : ∀ progress v outcome v', holds progress v → Exec service (call progress) v outcome v' →
      match outcome with
      | .ok reply => holds (note progress reply) v'
      | .error _ => holds progress v') :
    StageKeeps service holds fun progress => call progress >>= fun reply =>
      pure (note progress reply) := by
  intro progress v outcome v' here run
  rcases run.of_bind with ⟨reply, u, called, returned⟩ | ⟨error, rfl, failed⟩
  · cases returned
    exact kept progress v _ _ here called
  · exact kept progress v _ _ here failed

/-- What every stage keeps holds however far a copy gets. -/
theorem StagesRun.keeps {service : Service Op Op.Res Error World}
    {holds : NfsCopy → World → Prop} {stages : List (NfsCopy → Driver NfsCopy)}
    {progress final : NfsCopy} {failure : Option Error}
    (run : StagesRun service stages progress w final failure u)
    (each : ∀ stage ∈ stages, StageKeeps service holds stage) (here : holds progress w) :
    holds final u := by
  induction run with
  | done progress w => exact here
  | raised ran => exact each _ List.mem_cons_self _ _ _ _ here ran
  | returned ran _ ih =>
      exact ih (fun stage member => each stage (List.mem_cons_of_mem _ member))
        (each _ List.mem_cons_self _ _ _ _ here ran)

/-- The mounts a copy has added are noted, and are of a kind. -/
structure HostUnderway (kind : Mount → Prop) (base : World) (srcMnt dstMnt : String)
    (progress : NfsCopy) (v : World) : Prop where
  mounts : ∃ added, v.host.mounts = base.host.mounts ++ added ∧ ∀ mount ∈ added, kind mount ∧
    (mount.mountPoint = srcMnt ∧ progress.srcMounted = true ∨
      mount.mountPoint = dstMnt ∧ progress.dstMounted = true)
  dirs : v.host.tempDirs = base.host.tempDirs

section Host

variable {kind : Mount → Prop} {base v : World} {srcMnt dstMnt : String} {progress : NfsCopy}

/-- At first a copy has added no mounts. -/
theorem HostUnderway.start (v : World) (srcMnt dstMnt : String) :
    HostUnderway kind v srcMnt dstMnt .start v :=
  ⟨⟨[], (List.append_nil _).symm, fun _ member => absurd member List.not_mem_nil⟩, rfl⟩

/-- A stage that leaves the host alone. -/
theorem HostUnderway.same {v' : World} {progress' : NfsCopy}
    (underway : HostUnderway kind base srcMnt dstMnt progress v) (host : v'.host = v.host)
    (src : progress.srcMounted = true → progress'.srcMounted = true)
    (dst : progress.dstMounted = true → progress'.dstMounted = true) :
    HostUnderway kind base srcMnt dstMnt progress' v' := by
  obtain ⟨added, same, each⟩ := underway.mounts
  rw [← host] at same
  refine ⟨⟨added, same, fun mount member => ?_⟩, ?_⟩
  · exact ⟨(each mount member).1,
      (each mount member).2.imp (And.imp_right src) (And.imp_right dst)⟩
  · rw [host]
    exact underway.dirs

/-- A stage that adds a mount at the source's directory, or at the target's. -/
theorem HostUnderway.mounted {v' : World} {progress' : NfsCopy} {mount : Mount}
    (underway : HostUnderway kind base srcMnt dstMnt progress v)
    (added : v'.host.mounts = v.host.mounts ++ [mount]) (dirs : v'.host.tempDirs = v.host.tempDirs)
    (fits : kind mount)
    (noted : mount.mountPoint = srcMnt ∧ progress'.srcMounted = true ∨
      mount.mountPoint = dstMnt ∧ progress'.dstMounted = true)
    (src : progress.srcMounted = true → progress'.srcMounted = true)
    (dst : progress.dstMounted = true → progress'.dstMounted = true) :
    HostUnderway kind base srcMnt dstMnt progress' v' := by
  obtain ⟨earlier, same, each⟩ := underway.mounts
  refine ⟨⟨earlier ++ [mount], ?_, fun other member => ?_⟩, dirs.trans underway.dirs⟩
  · rw [added, same, List.append_assoc]
  · rcases List.mem_append.mp member with old | new
    · exact ⟨(each other old).1, (each other old).2.imp (And.imp_right src) (And.imp_right dst)⟩
    · rw [List.mem_singleton.mp new]
      exact ⟨fits, noted⟩

/-- Nothing is mounted at the target's directory unless that was noted. -/
theorem HostUnderway.bareDst (underway : HostUnderway kind base srcMnt dstMnt progress v)
    (apart : srcMnt ≠ dstMnt) (bare : ∀ mount ∈ base.host.mounts, mount.mountPoint ≠ dstMnt)
    (noted : progress.dstMounted = false) :
    ∀ mount ∈ v.host.mounts, mount.mountPoint ≠ dstMnt := by
  obtain ⟨added, same, each⟩ := underway.mounts
  intro mount member
  rw [same] at member
  rcases List.mem_append.mp member with old | new
  · exact bare mount old
  · rcases (each mount new).2 with ⟨there, _⟩ | ⟨_, impossible⟩
    · exact fun other => apart (there.symm.trans other)
    · rw [noted] at impossible
      cases impossible

private theorem HostUnderway.bareSrc (underway : HostUnderway kind base srcMnt dstMnt progress v)
    (apart : srcMnt ≠ dstMnt) (bare : ∀ mount ∈ base.host.mounts, mount.mountPoint ≠ srcMnt)
    (noted : progress.srcMounted = false) :
    ∀ mount ∈ v.host.mounts, mount.mountPoint ≠ srcMnt := by
  obtain ⟨added, same, each⟩ := underway.mounts
  intro mount member
  rw [same] at member
  rcases List.mem_append.mp member with old | new
  · exact bare mount old
  · rcases (each mount new).2 with ⟨_, impossible⟩ | ⟨there, _⟩
    · rw [noted] at impossible
      cases impossible
    · exact fun other => apart (other.symm.trans there)

/-- Without its mounts at both directories a copy leaves the mounts as they were. -/
theorem HostUnderway.unmounted (underway : HostUnderway kind base srcMnt dstMnt progress v)
    (bareSrc : ∀ mount ∈ base.host.mounts, mount.mountPoint ≠ srcMnt)
    (bareDst : ∀ mount ∈ base.host.mounts, mount.mountPoint ≠ dstMnt) :
    ((v.unmounted dstMnt).unmounted srcMnt).host.mounts = base.host.mounts := by
  obtain ⟨added, same, each⟩ := underway.mounts
  simp only [World.unmounted, List.filter_filter, same, List.filter_append]
  have kept : base.host.mounts.filter (fun mount =>
      decide (mount.mountPoint ≠ srcMnt) && decide (mount.mountPoint ≠ dstMnt)) =
      base.host.mounts :=
    List.filter_eq_self.mpr fun mount member => by simp [bareSrc mount member, bareDst mount member]
  have gone : added.filter (fun mount =>
      decide (mount.mountPoint ≠ srcMnt) && decide (mount.mountPoint ≠ dstMnt)) = [] :=
    List.filter_eq_nil_iff.mpr fun mount member => by
      rcases (each mount member).2 with ⟨there, _⟩ | ⟨there, _⟩ <;> simp [there]
  rw [kept, gone, List.append_nil]

end Host

/-! ## Through temporary NFS mounts -/

/-- The temporary client group is the last one, once it was made. -/
def GroupUnderway (earlier : Registry ClientGroup) (group : String) :
    Option Uid → Registry ClientGroup → Prop
  | none, clientGroups => clientGroups = earlier
  | some uid, clientGroups => ∃ rules, clientGroups.rows = earlier.rows ++ [⟨uid, ⟨group, rules⟩⟩]

/-- What a copy through NFS has set up: the noted mounts, the temporary client group and
permissions for it. -/
structure NfsUnderway (base : World) (group srcMnt dstMnt : String) (progress : NfsCopy)
    (v : World) : Prop where
  host : HostUnderway (fun _ => True) base srcMnt dstMnt progress v
  clientGroups :
    GroupUnderway base.cluster.clientGroups group progress.cgUid v.cluster.clientGroups
  permissions : ∃ new,
    v.cluster.permissions.rows = base.cluster.permissions.rows ++ new ∧
      ∀ perm ∈ new, perm.val.group = group

section Nfs

variable {base v : World} {group srcMnt dstMnt : String} {progress : NfsCopy}

/-- At first a copy through NFS has set up nothing. -/
theorem NfsUnderway.start (v : World) (group srcMnt dstMnt : String) :
    NfsUnderway v group srcMnt dstMnt .start v :=
  ⟨.start v srcMnt dstMnt, rfl, [], (List.append_nil _).symm, fun _ member => absurd member List.not_mem_nil⟩

/-- A mount is retried until it is there or the last try has failed. -/
theorem exec_nfsMountWithRetry {mountExport mountPath : String} {retries : Nat}
    {outcome : Except Error Unit}
    (run : Exec (service fault) (nfsMountWithRetry mountExport mountPath retries) w outcome t) :
    (outcome = .ok () ∧ t = { w with host := { w.host with
      mounts := w.host.mounts ++ [⟨mountExport, mountPath, "nfs"⟩] } }) ∨
      (∃ error, outcome = .error error) ∧ t = w := by
  have once {outcome : Except Error Unit} {t : World}
      (run : Exec (service fault) (onHost (.nfsMount mountExport mountPath)) w outcome t) :
      (outcome = .ok () ∧ t = { w with host := { w.host with
        mounts := w.host.mounts ++ [⟨mountExport, mountPath, "nfs"⟩] } }) ∨
        (∃ error, outcome = .error error) ∧ t = w := by
    rcases answered_or_failed run with answered | failed
    · cases answered
      exact Or.inl ⟨rfl, rfl⟩
    · exact Or.inr failed
  induction retries with
  | zero => exact once run
  | succ retries ih =>
      rcases run.of_tryCatch with ⟨_, rfl, mounted⟩ | ⟨error, u, failed, again⟩
      · exact once mounted
      · rcases once failed with ⟨impossible, _⟩ | ⟨_, rfl⟩
        · cases impossible
        · cases error with
          | process => exact ih again
          | _ =>
              cases again
              exact Or.inr ⟨⟨_, rfl⟩, rfl⟩

/-- The first stage makes the client group, whose name is free. -/
theorem nfs_creates_group (srcMnt dstMnt : String) {outcome : Except Error NfsCopy}
    (free : base.cluster.clientGroups.find? group = none)
    (run : Exec (service fault) (do
      let cg ← send .admin (.createClientGroup group)
      return { NfsCopy.start with cgUid := some cg.uid }) base outcome t) :
    match outcome with
    | .ok progress => NfsUnderway base group srcMnt dstMnt progress t ∧ progress.cgUid ≠ none
    | .error _ => NfsUnderway base group srcMnt dstMnt .start t := by
  have untaken : base.cluster.clientGroups.find? (Keyed.key (⟨group, []⟩ : ClientGroup)) = none :=
    free
  have made : Cluster.create base.cluster.clientGroups ⟨group, []⟩
      (.conflict "/nfs/clientGroups: already exists") =
        (.ok ⟨base.cluster.clientGroups.next, ⟨group, []⟩⟩,
          base.cluster.clientGroups.insert ⟨group, []⟩) := by
    rw [Cluster.create, untaken]
  have rows : (base.cluster.clientGroups.insert ⟨group, []⟩).rows =
      base.cluster.clientGroups.rows ++ [⟨base.cluster.clientGroups.next, ⟨group, []⟩⟩] := by
    rw [Registry.insert, dif_pos untaken]
    rfl
  rcases run.of_bind with ⟨cg, u, created, returned⟩ | ⟨error, rfl, failed⟩
  · cases returned
    rcases answered_or_failed created with answered | ⟨⟨_, impossible⟩, _⟩
    · simp only [respond, Cluster.answer, made, asRaised, Prod.mk.injEq, Except.ok.injEq]
        at answered
      obtain ⟨rfl, rfl⟩ := answered
      refine ⟨⟨?_, ⟨[], rows⟩, [], (List.append_nil _).symm, fun _ member => absurd member List.not_mem_nil⟩,
        Option.some_ne_none _⟩
      exact (HostUnderway.start base srcMnt dstMnt).same rfl id id
    · cases impossible
  · rcases answered_or_failed failed with answered | ⟨_, rfl⟩
    · simp only [respond, Cluster.answer, made, asRaised, Prod.mk.injEq] at answered
      cases answered.1
    · exact .start _ _ _ _

/-- The later stages know the client group. -/
def Grouped (base : World) (group srcMnt dstMnt : String) (progress : NfsCopy) (v : World) : Prop :=
  NfsUnderway base group srcMnt dstMnt progress v ∧ progress.cgUid ≠ none

/-- A rule is added to the temporary client group only. -/
theorem keeps_addRule (localIp : String) :
    StageKeeps (service fault) (Grouped base group srcMnt dstMnt) fun progress => do
      let rule ← send .admin (.addClientGroupRule (progress.cgUid.getD 0) .ip localIp)
      return { progress with ruleUid := some rule.uid } := by
  refine keeps_of_call (fun progress (rule : GroupRule) => { progress with ruleUid := some rule.uid })
    fun progress v outcome v' here called => ?_
  obtain ⟨underway, grouped⟩ := here
  obtain ⟨uid, known⟩ := Option.ne_none_iff_exists'.mp grouped
  have clientGroups := underway.clientGroups
  rw [known] at clientGroups
  obtain ⟨rules, rows⟩ := clientGroups
  have found : v.cluster.clientGroups.get? uid = some ⟨uid, ⟨group, rules⟩⟩ :=
    Registry.get?_eq_some_iff.mpr ⟨by simp [rows], rfl⟩
  rcases answered_or_failed called with answered | ⟨⟨error, rfl⟩, rfl⟩
  · rw [known] at answered
    simp only [Option.getD_some, respond, Cluster.answer, found] at answered
    split at answered
    · cases answered
      exact ⟨underway, grouped⟩
    · cases answered
      refine ⟨⟨underway.host.same rfl id id, ?_, underway.permissions⟩, grouped⟩
      rw [known]
      exact ⟨_, Registry.rows_modify_last rows _ _⟩
  · exact ⟨underway, grouped⟩

/-- A permission is created for the temporary client group. -/
theorem keeps_createPermission (fsName : String) (type : PermissionType) :
    StageKeeps (service fault) (Grouped base group srcMnt dstMnt) fun progress => do
      let _ ← send .admin (.createNfsPermission group fsName "/" type false)
      return progress := by
  refine keeps_of_call (fun progress _ => progress) fun progress v outcome v' here called => ?_
  obtain ⟨underway, grouped⟩ := here
  rcases answered_or_failed called with answered | ⟨⟨error, rfl⟩, rfl⟩
  · obtain ⟨new, rows, each⟩ := underway.permissions
    simp only [respond, Cluster.answer, Cluster.create] at answered
    split at answered
    · cases answered
      exact ⟨underway, grouped⟩
    · next free =>
        cases answered
        refine ⟨⟨underway.host.same rfl id id, underway.clientGroups,
          new ++ [⟨v.cluster.permissions.next, ⟨fsName, group, "/", type, false⟩⟩], ?_, ?_⟩, grouped⟩
        · simp only [Registry.insert, free, ↓reduceDIte, Registry.issue, rows, List.append_assoc]
        · intro perm member
          rcases List.mem_append.mp member with old | latest
          · exact each perm old
          · rw [List.mem_singleton.mp latest]
  · exact ⟨underway, grouped⟩

/-- A mount is noted once it is there. -/
theorem keeps_nfsMount {mountExport path : String} {retries : Nat} {note : NfsCopy → NfsCopy}
    (noted : ∀ progress, path = srcMnt ∧ (note progress).srcMounted = true ∨
      path = dstMnt ∧ (note progress).dstMounted = true)
    (src : ∀ progress, progress.srcMounted = true → (note progress).srcMounted = true)
    (dst : ∀ progress, progress.dstMounted = true → (note progress).dstMounted = true)
    (cgUid : ∀ progress, (note progress).cgUid = progress.cgUid) :
    StageKeeps (service fault) (Grouped base group srcMnt dstMnt) fun progress => do
      nfsMountWithRetry mountExport path retries
      return note progress := by
  refine keeps_of_call (fun progress _ => note progress) fun progress v outcome v' here called => ?_
  obtain ⟨underway, grouped⟩ := here
  rcases exec_nfsMountWithRetry called with ⟨rfl, rfl⟩ | ⟨⟨error, rfl⟩, rfl⟩
  · refine ⟨⟨?_, ?_, underway.permissions⟩, ?_⟩
    · exact underway.host.mounted rfl rfl trivial (noted progress) (src progress) (dst progress)
    · rw [cgUid]
      exact underway.clientGroups
    · rw [cgUid]
      exact grouped
  · exact ⟨underway, grouped⟩

private theorem keeps_rsync (srcMnt' accessPoint dstMnt' : String)
    {holds : NfsCopy → World → Prop} :
    StageKeeps (service fault) holds fun progress => do
      rsyncSnapshot srcMnt' accessPoint dstMnt'
      return progress := by
  refine keeps_of_call (fun progress _ => progress) fun progress v outcome v' here called => ?_
  rcases answered_or_failed called with answered | ⟨⟨error, rfl⟩, rfl⟩
  · cases answered
    exact here
  · exact here

/-- However far a copy through NFS gets, what it has set up is noted. -/
theorem nfsUnderway_of_run {nfsServer localIp : String} {final : NfsCopy} {failure : Option Error}
    (free : base.cluster.clientGroups.find? group = none)
    (run : StagesRun (service fault)
      (nfsCopyStages nfsServer group localIp srcMnt dstMnt job) .start base final failure v) :
    NfsUnderway base group srcMnt dstMnt final v := by
  cases run with
  | raised failed => exact nfs_creates_group _ _ free failed
  | returned created run =>
      have grouped : Grouped base group srcMnt dstMnt _ _ :=
        nfs_creates_group srcMnt dstMnt free created
      refine (run.keeps (fun stage member => ?_) grouped).1
      simp only [List.mem_cons, List.not_mem_nil, or_false] at member
      rcases member with rfl | rfl | rfl | rfl | rfl | rfl
      · exact keeps_addRule localIp
      · exact keeps_createPermission _ _
      · exact keeps_createPermission _ _
      · exact keeps_nfsMount (fun _ => Or.inl ⟨rfl, rfl⟩) (fun _ _ => rfl) (fun _ => id) fun _ => rfl
      · exact keeps_nfsMount (fun _ => Or.inr ⟨rfl, rfl⟩) (fun _ => id) (fun _ _ => rfl) fun _ => rfl
      · exact keeps_rsync _ _ _

/-- The temporary client group is deleted, whatever its rules. -/
theorem run_deleteTempGroup (v : World) {uid : Uid} {rules : List GroupRule}
    {earlier : List (Entry ClientGroup)} (ruleUid : Option Uid)
    (rows : v.cluster.clientGroups.rows = earlier ++ [⟨uid, ⟨group, rules⟩⟩]) :
    ∃ t, Program.run respond (do
        match ruleUid with
        | some ruleUid =>
            tryCatch (send .admin (.deleteClientGroupRule uid ruleUid)) fun _ => pure ()
        | none => pure ()
        tryCatch (deleteClientGroup uid) fun _ => pure () : Driver Unit) v = (.ok (), t) ∧
      t.host = v.host ∧ t.cluster.permissions = v.cluster.permissions ∧
      t.cluster.clientGroups.rows = earlier := by
  have deleted (u : World) {rules : List GroupRule}
      (rows : u.cluster.clientGroups.rows = earlier ++ [⟨uid, ⟨group, rules⟩⟩]) :
      (tryCatch (deleteClientGroup uid) fun _ => pure () : Driver Unit).run respond u =
          (.ok (), u.withGroups (u.cluster.clientGroups.erase uid)) ∧
        (u.cluster.clientGroups.erase uid).rows = earlier := by
    have found : u.cluster.clientGroups.get? uid = some ⟨uid, ⟨group, rules⟩⟩ :=
      Registry.get?_eq_some_iff.mpr ⟨by simp [rows], rfl⟩
    exact ⟨run_tryCatch_ok (@run_deleteClientGroup u ⟨uid, ⟨group, rules⟩⟩ found) _,
      Registry.rows_erase_last rows⟩
  cases ruleUid with
  | none =>
      obtain ⟨run, left⟩ := deleted v rows
      exact ⟨_, run, rfl, rfl, left⟩
  | some ruleUid =>
      have found : v.cluster.clientGroups.get? uid = some ⟨uid, ⟨group, rules⟩⟩ :=
        Registry.get?_eq_some_iff.mpr ⟨by simp [rows], rfl⟩
      have stripped : (tryCatch (send .admin (.deleteClientGroupRule uid ruleUid)) fun _ => pure () :
          Driver Unit).run respond v = (.ok (), v.withGroups (v.cluster.clientGroups.modify uid
            (fun group => group.deleteRule ruleUid) fun _ => rfl)) := by
        apply run_tryCatch_ok
        simp only [send, run_perform, respond, Cluster.answer, found, asRaised]
      obtain ⟨run, left⟩ := deleted (v.withGroups _) (Registry.rows_modify_last rows
        (fun group => group.deleteRule ruleUid) fun _ => rfl)
      exact ⟨_, (run_bind_ok stripped _).trans run, rfl, rfl, left⟩

/-- The cleanup leaves the client groups and permissions there were before. -/
theorem run_removeTempGroup (base v : World)
    (clientGroups : GroupUnderway base.cluster.clientGroups group progress.cgUid
      v.cluster.clientGroups)
    (permissions : ∃ new, v.cluster.permissions.rows = base.cluster.permissions.rows ++ new ∧
      ∀ perm ∈ new, perm.val.group = group)
    (others : ∀ perm ∈ base.cluster.permissions.rows, perm.val.group ≠ group) :
    ∃ t, (removeTempGroup group progress).run respond v = (.ok (), t) ∧ t.host = v.host ∧
      t.cluster.permissions.rows = base.cluster.permissions.rows ∧
      t.cluster.clientGroups.rows = base.cluster.clientGroups.rows := by
  obtain ⟨new, rows, each⟩ := permissions
  have left : (permissionsBut v (v.cluster.permissions.rows.filter fun perm =>
      perm.val.group = group)).rows = base.cluster.permissions.rows := by
    have kept : base.cluster.permissions.rows.filter (fun perm => decide (perm ∉
        v.cluster.permissions.rows.filter fun perm => perm.val.group = group)) =
        base.cluster.permissions.rows :=
      List.filter_eq_self.mpr fun perm member => decide_eq_true fun listed =>
        others perm member (of_decide_eq_true (List.mem_filter.mp listed).2)
    have gone : new.filter (fun perm => decide (perm ∉
        v.cluster.permissions.rows.filter fun perm => perm.val.group = group)) = [] :=
      List.filter_eq_nil_iff.mpr fun perm member kept => of_decide_eq_true kept
        (List.mem_filter.mpr ⟨by simp [rows, member], decide_eq_true (each perm member)⟩)
    refine (congrArg (List.filter _) rows).trans ?_
    rw [List.filter_append, kept, gone, List.append_nil]
  unfold removeTempGroup
  rw [run_bind_ok (run_removePermissions group)]
  cases made : progress.cgUid with
  | none =>
      rw [made] at clientGroups
      exact ⟨_, rfl, rfl, left, congrArg Registry.rows clientGroups⟩
  | some cgUid =>
      rw [made] at clientGroups
      obtain ⟨rules, grouped⟩ := clientGroups
      obtain ⟨t, run, host, same, gone⟩ := run_deleteTempGroup
        (v.withPermissions (permissionsBut v (v.cluster.permissions.rows.filter fun perm =>
          perm.val.group = group))) progress.ruleUid grouped
      exact ⟨t, run, host, (congrArg Registry.rows same).trans left, gone⟩

/-- After a copy through NFS everything it has set up is gone, and nothing else is. -/
structure NfsCleaned (w t : World) : Prop where
  mounts : t.host.mounts = w.host.mounts
  dirs : t.host.tempDirs = w.host.tempDirs
  clientGroups : t.cluster.clientGroups.rows = w.cluster.clientGroups.rows
  permissions : t.cluster.permissions.rows = w.cluster.permissions.rows

private theorem run_cleanupNfsCopy (made : DirsMade w base srcMnt dstMnt)
    (underway : NfsUnderway base (tmpGroupName job) srcMnt dstMnt progress v)
    (others : ∀ perm ∈ w.cluster.permissions.rows, perm.val.group ≠ tmpGroupName job) :
    ∃ t, (cleanupNfsCopy job srcMnt dstMnt progress).run respond v = (.ok (), t) ∧
      NfsCleaned w t := by
  have bareSrc : ∀ mount ∈ base.host.mounts, mount.mountPoint ≠ srcMnt := by
    rw [made.mounts]
    exact made.bareSrc
  have bareDst : ∀ mount ∈ base.host.mounts, mount.mountPoint ≠ dstMnt := by
    rw [made.mounts]
    exact made.bareDst
  have left := underway.host.unmounted bareSrc bareDst
  have dst : (umountIf progress.dstMounted dstMnt).run respond v = (.ok (), v.unmounted dstMnt) :=
    run_umountIf (underway.host.bareDst made.apart bareDst)
  have src : (umountIf progress.srcMounted srcMnt).run respond (v.unmounted dstMnt) =
      (.ok (), (v.unmounted dstMnt).unmounted srcMnt) :=
    run_umountIf fun noted mount member =>
      underway.host.bareSrc made.apart bareSrc noted mount (List.mem_filter.mp member).1
  have dirs : ((v.unmounted dstMnt).unmounted srcMnt).host.tempDirs =
      w.host.tempDirs ++ [srcMnt, dstMnt] := underway.host.dirs.trans made.dirs
  have removed := run_removeTempDirs dirs made.apart made.newSrc made.newDst
    (by rw [left]; exact bareSrc) (by rw [left]; exact bareDst)
  obtain ⟨t, run, host, permissions, clientGroups⟩ := run_removeTempGroup base
    (((v.unmounted dstMnt).unmounted srcMnt).withDirs w.host.tempDirs)
    underway.clientGroups underway.permissions (by rw [made.permissions]; exact others)
  refine ⟨t, ?_, ?_, ?_, ?_, ?_⟩
  · rw [cleanupNfsCopy, run_bind_ok dst, run_bind_ok src, run_bind_ok removed, run]
  · rw [host]
    exact left.trans made.mounts
  · rw [host]
    rfl
  · rw [clientGroups, made.clientGroups]
  · rw [permissions, made.permissions]

end Nfs

/-! ## Through WekaFS mounts -/

/-- A WekaFS mount whose device is one word of the mount table. -/
def ListedMount (mount : Mount) : Prop :=
  mount.fstype = "wekafs" ∧ mountField mount.device ≠ "" ∧
    ∀ char ∈ (mountField mount.device).toList, Text.isSpace char = false

/-- A name that is one word of the mount table, where spaces, tabs, newlines and backslashes are
escaped. -/
def ListedName (name : String) : Prop :=
  mountField name ≠ "" ∧ ∀ char ∈ (mountField name).toList, Text.isSpace char = false

section Wekafs

variable {base v : World} {src dst : WekaMount} {progress : NfsCopy}

/-- A program whose operations change nothing leaves the world alone. -/
theorem world_of_uses {α : Type} {allowed : Op → Prop} {program : Driver α}
    {outcome : Except Error α} (uses : program.Uses allowed)
    (still : ∀ op, allowed op → ∀ w, (respond op w).2 = w)
    (run : Exec (service fault) program w outcome t) : t = w := by
  have kept : ∀ u op answer v, allowed op → u = w → service fault u op answer v → v = w := by
    intro u op answer v use here answered
    rcases answered_world answered with there | there
    · rw [there, still op use, here]
    · rw [there, here]
  have ended := run.post (uses.wp kept rfl)
  cases outcome <;> exact ended

/-- Mounting adds the mount and returns, or changes nothing. -/
theorem exec_mount {mnt : WekaMount} {outcome : Except Error Unit}
    (run : Exec (service fault) mnt.mount w outcome t) :
    (outcome = .ok () ∧ t = { w with host := { w.host with
      mounts := w.host.mounts ++ [⟨mnt.source, mnt.mountPoint, "wekafs"⟩] } }) ∨ t = w := by
  have looks : (isMounted mnt.mountPoint).Uses (· = .host .readProcMounts) := by
    refine .tryCatch (.bind (uses_perform rfl) fun _ => trivial) fun error => ?_
    cases error <;> trivial
  have reads : ∀ op, op = .host .readProcMounts → ∀ w, (respond op w).2 = w := by
    intro op same w
    rw [same]
    rfl
  have ensures : ∀ op, op = .host (.ensureMountPointDir mnt.mountPoint) →
      ∀ w, (respond op w).2 = w := by
    intro op same w
    rw [same]
    rfl
  rcases run.of_bind with ⟨shown, u, looked, later⟩ | ⟨error, rfl, looked⟩
  · obtain rfl := world_of_uses looks reads looked
    cases shown with
    | true =>
        cases later
        exact Or.inr rfl
    | false =>
        have kept {handler : Error → Driver Unit} {outcome : Except Error Unit} {v x : World}
            (prepared : Exec (service fault)
              (tryCatch (onHost (.ensureMountPointDir mnt.mountPoint)) handler) v outcome x)
            (raises : ∀ error, (handler error).Uses
              fun op => op = .host (.ensureMountPointDir mnt.mountPoint)) : x = v := by
          refine world_of_uses (.tryCatch (uses_perform ?_) raises) ensures prepared
          rfl
        rcases later.of_bind with ⟨_, v, prepared, mounting⟩ | ⟨error, rfl, prepared⟩
        · obtain rfl := kept prepared fun error => by cases error <;> trivial
          rcases mounting.of_tryCatch with ⟨_, rfl, mounted⟩ | ⟨error, x, failed, handled⟩
          · rcases answered_or_failed mounted with answered | ⟨⟨_, impossible⟩, _⟩
            · cases answered
              exact Or.inl ⟨rfl, rfl⟩
            · cases impossible
          · rcases answered_or_failed failed with answered | ⟨_, rfl⟩
            · cases answered
            · cases error <;> cases handled <;> exact Or.inr rfl
        · exact Or.inr (kept prepared fun error => by cases error <;> trivial)
  · exact Or.inr (world_of_uses looks reads looked)

/-- A WekaFS mount is noted once it is there. -/
theorem keeps_mount {mnt : WekaMount} {srcMnt dstMnt : String} {note : NfsCopy → NfsCopy}
    (listed : ListedName mnt.source)
    (noted : ∀ progress, mnt.mountPoint = srcMnt ∧ (note progress).srcMounted = true ∨
      mnt.mountPoint = dstMnt ∧ (note progress).dstMounted = true)
    (src : ∀ progress, progress.srcMounted = true → (note progress).srcMounted = true)
    (dst : ∀ progress, progress.dstMounted = true → (note progress).dstMounted = true) :
    StageKeeps (service fault) (HostUnderway ListedMount base srcMnt dstMnt) fun progress => do
      mnt.mount
      return note progress := by
  refine keeps_of_call (fun progress _ => note progress)
    fun progress v outcome v' underway called => ?_
  rcases exec_mount called with ⟨rfl, rfl⟩ | rfl
  · exact underway.mounted rfl rfl ⟨rfl, listed⟩ (noted progress) (src progress) (dst progress)
  · cases outcome with
    | ok _ => exact underway.same rfl (src progress) (dst progress)
    | error error => exact underway

/-- However far a copy through WekaFS mounts gets, its mounts are noted. -/
theorem wekafsUnderway_of_run (src dst : WekaMount) {accessPoint : String} {final : NfsCopy} {failure : Option Error}
    (srcListed : ListedName src.source) (dstListed : ListedName dst.source)
    (run : StagesRun (service fault) (wekafsCopyStages src dst accessPoint) .start base final
      failure v) :
    HostUnderway ListedMount base src.mountPoint dst.mountPoint final v := by
  refine run.keeps (fun stage member => ?_) (.start _ _ _)
  simp only [wekafsCopyStages, List.mem_cons, List.not_mem_nil, or_false] at member
  rcases member with rfl | rfl | rfl
  · exact keeps_mount srcListed (fun _ => Or.inl ⟨rfl, rfl⟩) (fun _ _ => rfl) fun _ => id
  · exact keeps_mount dstListed (fun _ => Or.inr ⟨rfl, rfl⟩) (fun _ => id) fun _ _ => rfl
  · exact keeps_rsync _ _ _

/-- A mount that a copy has added is shown. -/
theorem HostUnderway.shown {srcMnt dstMnt path : String}
    (underway : HostUnderway ListedMount base srcMnt dstMnt progress v) (plain : PlainDir path)
    (bare : ∀ mount ∈ base.host.mounts, mount.mountPoint ≠ path) {mounts : List Mount}
    (among : ∀ mount ∈ mounts, mount ∈ v.host.mounts) :
    ∀ mount ∈ mounts, mount.mountPoint = path →
      showsMount path (mounts.map Mount.line) = true := by
  obtain ⟨added, same, each⟩ := underway.mounts
  intro mount member there
  have inside := among mount member
  rw [same] at inside
  rcases List.mem_append.mp inside with old | new
  · exact absurd there (bare mount old)
  · obtain ⟨fstype, named, word⟩ := (each mount new).1
    subst there
    exact showsMount_of_mem member fstype named word plain.1 plain.2

/-- After a copy through WekaFS mounts its mounts and directories are gone, and no others. -/
structure WekafsCleaned (w t : World) : Prop where
  mounts : t.host.mounts = w.host.mounts
  dirs : t.host.tempDirs = w.host.tempDirs

private theorem run_cleanupWekafsCopy (src dst : WekaMount)
    (made : DirsMade w base src.mountPoint dst.mountPoint)
    (underway : HostUnderway ListedMount base src.mountPoint dst.mountPoint progress v) :
    ∃ t, (cleanupWekafsCopy src dst progress).run respond v = (.ok (), t) ∧
      WekafsCleaned w t := by
  have bareSrc : ∀ mount ∈ base.host.mounts, mount.mountPoint ≠ src.mountPoint := by
    rw [made.mounts]
    exact made.bareSrc
  have bareDst : ∀ mount ∈ base.host.mounts, mount.mountPoint ≠ dst.mountPoint := by
    rw [made.mounts]
    exact made.bareDst
  have left := underway.unmounted bareSrc bareDst
  have kept : ∀ mount ∈ (v.unmounted dst.mountPoint).host.mounts, mount ∈ v.host.mounts :=
    fun mount member => (List.mem_filter.mp member).1
  have exitsDst : (exitIf progress.dstMounted dst).run respond v =
      (.ok (), v.unmounted dst.mountPoint) :=
    run_exitIf (underway.bareDst made.apart bareDst)
      (underway.shown made.plainDst bareDst fun _ => id)
  have exitsSrc : (exitIf progress.srcMounted src).run respond (v.unmounted dst.mountPoint) =
      (.ok (), (v.unmounted dst.mountPoint).unmounted src.mountPoint) :=
    run_exitIf (fun noted mount member =>
      underway.bareSrc made.apart bareSrc noted mount (kept mount member))
      (underway.shown made.plainSrc bareSrc kept)
  have dirs : ((v.unmounted dst.mountPoint).unmounted src.mountPoint).host.tempDirs =
      w.host.tempDirs ++ [src.mountPoint, dst.mountPoint] := underway.dirs.trans made.dirs
  have removed := run_removeTempDirs dirs made.apart made.newSrc made.newDst
    (by rw [left]; exact bareSrc) (by rw [left]; exact bareDst)
  refine ⟨((v.unmounted dst.mountPoint).unmounted src.mountPoint).withDirs w.host.tempDirs, ?_,
    left.trans made.mounts, rfl⟩
  rw [cleanupWekafsCopy, run_bind_ok exitsDst, run_bind_ok exitsSrc, removed]

end Wekafs

/-! ## Both copies -/

/-- Opening a session and writing its token file leaves mounts and directories alone. -/
theorem TokenOp.host_kept {op : Op} {answer : Except Error op.Res} (token : TokenOp op)
    (answered : service fault w op answer t) :
    t.host.mounts = w.host.mounts ∧ t.host.tempDirs = w.host.tempDirs ∧
      t.host.nextTempDir = w.host.nextTempDir := by
  rcases answered_world answered with rfl | rfl
  · rcases token with opens | ⟨path, session, rfl⟩
    · cases op with
      | host call =>
          cases call with
          | orgClientGet projectId | orgClientPut projectId session => exact ⟨rfl, rfl, rfl⟩
          | _ => exact opens.elim
      | _ => exact ⟨rfl, rfl, rfl⟩
    · exact ⟨rfl, rfl, rfl⟩
  · exact ⟨rfl, rfl, rfl⟩

private theorem nfsCleaned_of_run {plan : CopyPlan} {outcome : Except Error Unit}
    (fresh : FreshTempDirs w) (free : w.cluster.clientGroups.find? (tmpGroupName job) = none)
    (others : ∀ perm ∈ w.cluster.permissions.rows, perm.val.group ≠ tmpGroupName job)
    (planned : Exec (service fault) (planNfsCopy cfg job) w (.ok plan) u)
    (run : PlanRun (service fault) reliable plan u outcome t) : NfsCleaned w t := by
  obtain ⟨nfsServer, localIp, srcMnt, dstMnt, v₁, v₂, located, src, dst, rfl⟩ :=
    exec_planNfsCopy planned
  obtain ⟨progress, failure, v, staged, cleaned, _⟩ := run
  have same : v₁ = w := by
    have uses : (onHost (.localIp nfsServer)).Uses (· = .host (.localIp nfsServer)) :=
      uses_perform rfl
    refine world_of_uses uses (fun op here u => ?_) located
    rw [here]
    rfl
  subst same
  have made := dirsMade_of_mkdtemp fresh src dst
  rw [← made.clientGroups] at free
  obtain ⟨t', clean, restored⟩ :=
    run_cleanupNfsCopy made (nfsUnderway_of_run free staged) others
  have ended : t' = t := congrArg Prod.snd (clean.symm.trans (exec_noFaults_iff.mp cleaned))
  rw [← ended]
  exact restored

private theorem source_copyMount (authTokenPath fsName mountPoint : String) :
    (copyMount cfg authTokenPath fsName mountPoint).source = fsName := rfl

private theorem wekafsCleaned_of_run {plan : CopyPlan} {outcome : Except Error Unit}
    (fresh : FreshTempDirs w) (srcListed : ListedName job.srcFsName)
    (dstListed : ListedName job.newFsName)
    (planned : Exec (service fault) (planWekafsCopy cfg job) w (.ok plan) u)
    (run : PlanRun (service fault) reliable plan u outcome t) : WekafsCleaned w t := by
  obtain ⟨authTokenPath, srcMnt, dstMnt, v₁, v₂, opened, src, dst, rfl⟩ :=
    exec_planWekafsCopy planned
  obtain ⟨progress, failure, v, staged, cleaned, _⟩ := run
  have kept : v₁.host.mounts = w.host.mounts ∧ v₁.host.tempDirs = w.host.tempDirs ∧
      v₁.host.nextTempDir = w.host.nextTempDir := by
    have safe : ∀ u op answer v, TokenOp op →
        (u.host.mounts = w.host.mounts ∧ u.host.tempDirs = w.host.tempDirs ∧
          u.host.nextTempDir = w.host.nextTempDir) → service fault u op answer v →
        v.host.mounts = w.host.mounts ∧ v.host.tempDirs = w.host.tempDirs ∧
          v.host.nextTempDir = w.host.nextTempDir := by
      intro u op answer v token here answered
      obtain ⟨mounts, dirs, next⟩ := token.host_kept answered
      exact ⟨mounts.trans here.1, dirs.trans here.2.1, next.trans here.2.2⟩
    exact opened.post ((opens_orgTokenFile _).wp safe ⟨rfl, rfl, rfl⟩)
  have fresh' : FreshTempDirs v₁ := by
    intro front n later
    rw [kept.1, kept.2.1]
    rw [kept.2.2] at later
    exact fresh front n later
  have made := dirsMade_of_mkdtemp fresh' src dst
  obtain ⟨t', clean, restored⟩ := run_cleanupWekafsCopy
    (copyMount cfg authTokenPath job.srcFsName srcMnt)
    (copyMount cfg authTokenPath job.newFsName dstMnt) made
    (wekafsUnderway_of_run _ _ (by rwa [source_copyMount]) (by rwa [source_copyMount]) staged)
  have ended : t' = t := congrArg Prod.snd (clean.symm.trans (exec_noFaults_iff.mp cleaned))
  rw [← ended]
  exact ⟨restored.mounts.trans kept.1, restored.dirs.trans kept.2.1⟩

/-- A copy is a run of its stages and of its cleanup, and whatever fails there it raises exactly
what a stage has raised. Whatever stage fails, a cleanup that works leaves of a copy through NFS
no mount, no directory, no client group and no permission, and of a copy through WekaFS mounts no
mount and no directory; nothing else is touched. -/
theorem snapshot_copy_cleans_up (cfg : Config) (job : CopyJob) :
    (∀ service w outcome t, Exec service (copySnapshotNfs cfg job) w outcome t ↔
      CopyRun service (planNfsCopy cfg job) w outcome t) ∧
    (∀ service w outcome t, Exec service (copySnapshotWekafs cfg job) w outcome t ↔
      CopyRun service (planWekafsCopy cfg job) w outcome t) ∧
    (∀ during after plan w outcome t, PlanRun during after plan w outcome t →
      (outcome = .ok () ∧ ∃ progress u, StagesRun during plan.stages .start w progress none u) ∨
        ∃ error, outcome = .error error ∧ RaisedBy during plan.stages .start w error) ∧
    (∀ fault w plan u outcome t, FreshTempDirs w →
      w.cluster.clientGroups.find? (tmpGroupName job) = none →
      (∀ perm ∈ w.cluster.permissions.rows, perm.val.group ≠ tmpGroupName job) →
      Exec (service fault) (planNfsCopy cfg job) w (.ok plan) u →
      PlanRun (service fault) reliable plan u outcome t → NfsCleaned w t) ∧
    ∀ fault w plan u outcome t, FreshTempDirs w → ListedName job.srcFsName →
      ListedName job.newFsName → Exec (service fault) (planWekafsCopy cfg job) w (.ok plan) u →
      PlanRun (service fault) reliable plan u outcome t → WekafsCleaned w t := by
  refine ⟨fun _ _ _ _ => exec_copySnapshotNfs_iff, fun _ _ _ _ => exec_copySnapshotWekafs_iff,
    fun _ _ _ _ _ _ => raises_of_planRun, ?_, ?_⟩
  · intro fault w plan u outcome t fresh free others planned run
    exact nfsCleaned_of_run fresh free others planned run
  · intro fault w plan u outcome t fresh srcListed dstListed planned run
    exact wekafsCleaned_of_run fresh srcListed dstListed planned run

/-- The copy of the sample snapshot. -/
def sampleJob : CopyJob where
  share := copyShare
  snapshotId := sampleSnapshot.id
  accessPoint := snapshotName sampleSnapshot.id
  srcFsName := copyConfig.shareName (sampleShare .nfs).id
  newFsName := copyConfig.shareName copyShare.id

/-- Copying the data may fail. -/
def rsyncFaults : Fault := fun _ op error =>
  match op with
  | .host (.rsync ..) => error = .process
  | _ => False

instance (w : World) (op : Op) (error : Error) : Decidable (rsyncFaults w op error) := by
  unfold rsyncFaults
  split <;> infer_instance

private theorem snapshotTaken_fresh : FreshTempDirs snapshotTaken :=
  fun _ _ _ => ⟨List.not_mem_nil, fun _ member => absurd member List.not_mem_nil⟩

/-- The copy of the sample snapshot to a WEKAFS share. -/
def wekafsJob : CopyJob := { sampleJob with share := { copyShare with shareProto := .wekafs } }

/-- Both copies of the sample snapshot are cleaned up after when their last stage fails. -/
theorem snapshot_copy_cleans_up_sample :
    (∃ plan u t,
      Exec (service rsyncFaults) (planNfsCopy copyConfig sampleJob) snapshotTaken (.ok plan) u ∧
        PlanRun (service rsyncFaults) reliable plan u (.error .process) t ∧
        NfsCleaned snapshotTaken t) ∧
    ∃ plan u t,
      Exec (service rsyncFaults) (planWekafsCopy copyConfig wekafsJob) snapshotTaken (.ok plan) u ∧
        PlanRun (service rsyncFaults) reliable plan u (.error .process) t ∧
        WekafsCleaned snapshotTaken t := by
  have run (plans : Driver CopyPlan) (progress : NfsCopy)
      (quiet : ∀ plan u, Exec (service rsyncFaults) plans snapshotTaken (.ok plan) u →
        ∀ progress, (plan.cleanup progress).NeverRaises)
      (staged : (match plans.run respond snapshotTaken with
        | (.ok plan, u) => ((runStages plan.stages .start).runScript respond rsyncFaults
            (List.replicate 6 none ++ [some Error.process]) u).1
        | (.error error, _) => .error error) = .ok (progress, some .process)) :
      ∃ plan u t, Exec (service rsyncFaults) plans snapshotTaken (.ok plan) u ∧
        PlanRun (service rsyncFaults) reliable plan u (.error .process) t := by
    have planned : Exec (service rsyncFaults) plans snapshotTaken _ _ := exec_run _ _
    generalize plans.run respond snapshotTaken = ran at staged planned
    obtain ⟨outcome, u⟩ := ran
    cases outcome with
    | error error => cases staged
    | ok plan =>
        dsimp only at staged
        obtain ⟨v, stages⟩ : ∃ v, Exec (service rsyncFaults) (runStages plan.stages .start) u
            (.ok (progress, some .process)) v := by
          have scripted : Exec (service rsyncFaults) (runStages plan.stages .start) u _ _ :=
            exec_runScript _ (List.replicate 6 none ++ [some Error.process]) _
          rw [staged] at scripted
          exact ⟨_, scripted⟩
        obtain ⟨progress', failure, same, run⟩ := exec_runStages_iff.mp stages
        cases same
        have cleaned : Exec reliable (plan.cleanup progress) v _ _ := exec_run _ _
        obtain ⟨_, returned⟩ := (quiet plan u planned progress).returns cleaned
        rw [returned] at cleaned
        exact ⟨plan, u, _, planned, _, _, _, run, cleaned, rfl⟩
  constructor
  · obtain ⟨plan, u, t, planned, ran⟩ := run (planNfsCopy copyConfig sampleJob)
      ⟨some 0, some 0, true, true⟩ (fun plan u planned => by
        obtain ⟨_, _, _, _, _, _, _, _, _, rfl⟩ := exec_planNfsCopy planned
        exact neverRaises_cleanupNfsCopy _ _) (by decide +kernel)
    have free : snapshotTaken.cluster.clientGroups.find? (tmpGroupName sampleJob) = none := by
      decide +kernel
    exact ⟨plan, u, t, planned, ran, (snapshot_copy_cleans_up copyConfig sampleJob).2.2.2.1 _ _ _ _ _
      _ snapshotTaken_fresh free (fun _ member => nomatch member) planned ran⟩
  · obtain ⟨plan, u, t, planned, ran⟩ := run (planWekafsCopy copyConfig wekafsJob)
      ⟨none, none, true, true⟩ (fun plan u planned => by
        obtain ⟨_, _, _, _, _, _, _, _, rfl⟩ := exec_planWekafsCopy planned
        exact neverRaises_cleanupWekafsCopy _ _) (by decide +kernel)
    have listed (fsName : String) (named : mountField fsName ≠ "")
        (word : (mountField fsName).toList.all (Text.isSpace · = false) = true) :
        ListedName fsName :=
      ⟨named, fun char member => of_decide_eq_true (List.all_eq_true.mp word char member)⟩
    have src : ListedName wekafsJob.srcFsName := listed _ (by decide +kernel) (by decide +kernel)
    have dst : ListedName wekafsJob.newFsName := listed _ (by decide +kernel) (by decide +kernel)
    exact ⟨plan, u, t, planned, ran, (snapshot_copy_cleans_up copyConfig wekafsJob).2.2.2.2 _ _ _ _ _
      _ snapshotTaken_fresh src dst planned ran⟩

end WekaShareDriver
