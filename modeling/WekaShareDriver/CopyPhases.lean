import WekaShareDriver.Snapshots
import WekaShareDriver.Foundation.Reaches

/-! # The phases of a copy

A copy is planned: its temporary directories are made, and what to mount and to clean up is
fixed. Then its steps run until one raises, everything set up so far is cleaned up, and the error
of that step is raised (`WekaShareDriver.exec_carryOut_iff`). Over NFS that is how the copy is
written; over WekaFS its mounts are nested context managers, which come to the same
(`WekaShareDriver.copySnapshotWekafs_eq`).

No cleanup raises, so whatever fails there the copy raises what its failing step raised.
-/

namespace WekaShareDriver

open Foundation Program

/-! ## Plans -/

/-- What a copy is going to do once its temporary directories exist. -/
structure CopyPlan where
  srcMnt : String
  dstMnt : String
  stages : List (NfsCopy → Driver NfsCopy)
  cleanup : NfsCopy → Driver Unit

/-- Nothing is set up yet. -/
def NfsCopy.start : NfsCopy := ⟨none, none, false, false⟩

/-- Run the stages of a copy, clean up, and raise the error of the stage that failed. -/
def CopyPlan.carryOut (plan : CopyPlan) : Driver Unit := do
  let (progress, failure) ← runStages plan.stages .start
  plan.cleanup progress
  reraise failure

/-- Name of the temporary client group of a copy. -/
def tmpGroupName (job : CopyJob) : String := "manila-snap-" ++ Text.take job.share.id 8

/-- Clean up after a copy through NFS. -/
def cleanupNfsCopy (job : CopyJob) (srcMnt dstMnt : String) (progress : NfsCopy) :
    Driver Unit := do
  umountIf progress.dstMounted dstMnt
  umountIf progress.srcMounted srcMnt
  removeTempDirs [srcMnt, dstMnt]
  removeTempGroup (tmpGroupName job) progress

/-- Plan a copy through NFS. -/
def planNfsCopy (cfg : Config) (job : CopyJob) : Driver CopyPlan := do
  match cfg.nfsServer.filter (· ≠ "") with
  | none =>
      throw (.manila "weka_nfs_server must be configured for create_share_from_snapshot")
  | some nfsServer =>
      let localIp ← onHost (.localIp nfsServer)
      let srcMnt ← onHost (.mkdtemp "manila_weka_snap_src_")
      let dstMnt ← onHost (.mkdtemp "manila_weka_snap_dst_")
      return {
        srcMnt, dstMnt
        stages := nfsCopyStages nfsServer (tmpGroupName job) localIp srcMnt dstMnt job
        cleanup := cleanupNfsCopy job srcMnt dstMnt }

/-- The stages of a copy through the WekaFS mounts of its source and its target. -/
def wekafsCopyStages (src dst : WekaMount) (accessPoint : String) :
    List (NfsCopy → Driver NfsCopy) :=
  [fun progress => do
      src.mount
      return { progress with srcMounted := true },
   fun progress => do
      dst.mount
      return { progress with dstMounted := true },
   fun progress => do
      rsyncSnapshot src.mountPoint accessPoint dst.mountPoint
      return progress]

/-- Leave the context of a WekaFS mount, if it was entered; failures are ignored. -/
def exitIf (entered : Bool) (mnt : WekaMount) : Driver Unit :=
  if entered then tryCatch (mnt.unmount false) fun _ => pure () else pure ()

/-- Clean up after a copy through WekaFS mounts. -/
def cleanupWekafsCopy (src dst : WekaMount) (progress : NfsCopy) : Driver Unit := do
  exitIf progress.dstMounted dst
  exitIf progress.srcMounted src
  removeTempDirs [src.mountPoint, dst.mountPoint]

/-- Plan a copy through WekaFS mounts. -/
def planWekafsCopy (cfg : Config) (job : CopyJob) : Driver CopyPlan := do
  let authTokenPath ← orgTokenFile cfg job.share.projectId
  let srcMnt ← onHost (.mkdtemp "manila_weka_snap_src_")
  let dstMnt ← onHost (.mkdtemp "manila_weka_snap_dst_")
  let src := copyMount cfg authTokenPath job.srcFsName srcMnt
  let dst := copyMount cfg authTokenPath job.newFsName dstMnt
  return {
    srcMnt, dstMnt
    stages := wekafsCopyStages src dst job.accessPoint
    cleanup := cleanupWekafsCopy src dst }

variable {cfg : Config} {job : CopyJob}

/-! ## The copies follow their plans -/

private theorem copySnapshotNfs_eq (cfg : Config) (job : CopyJob) :
    copySnapshotNfs cfg job = planNfsCopy cfg job >>= CopyPlan.carryOut := by
  unfold copySnapshotNfs planNfsCopy
  cases cfg.nfsServer.filter (· ≠ "") with
  | none => rfl
  | some nfsServer =>
      simp only [CopyPlan.carryOut, cleanupNfsCopy, LawfulMonad.bind_assoc, LawfulMonad.pure_bind]
      rfl

/-- A sequence is attempted part by part. -/
theorem attempt_bind {α β : Type} (program : Driver α) (rest : α → Driver β) :
    attempt (program >>= rest) = attempt program >>= fun outcome =>
      match outcome with
      | .ok value => attempt (rest value)
      | .error error => pure (.error error) := by
  induction program with
  | ret value => rfl
  | fail error => rfl
  | call op next ih => exact congrArg (Program.call op) (funext ih)

private theorem attempt_pure {α : Type} (value : α) :
    attempt (pure value : Driver α) = pure (.ok value) := rfl

/-- A program that does not raise is attempted by running it. -/
theorem attempt_of_neverRaises {α : Type} {program : Driver α} (never : program.NeverRaises) :
    attempt program = program >>= fun value => pure (.ok value) := by
  induction program with
  | ret value => rfl
  | fail error => exact never.elim
  | call op next ih => exact congrArg (Program.call op) (funext fun answer => ih answer (never answer))

private theorem neverRaises_attempt {α : Type} (program : Driver α) :
    (attempt program).NeverRaises :=
  .tryCatch fun _ => .pure _

private theorem neverRaises_ignoring (program : Driver Unit) :
    (tryCatch program fun _ => pure () : Driver Unit).NeverRaises :=
  .tryCatch fun _ => .pure ()

/-- What a program inside a WekaFS mount ends with. -/
theorem attempt_withWekaMount (mnt : WekaMount) (body : Driver Unit) :
    attempt (withWekaMount mnt body) = attempt mnt.mount >>= fun mounted =>
      match mounted with
      | .ok _ => attempt body >>= fun outcome =>
          (tryCatch (mnt.unmount false) fun _ => pure ()) >>= fun _ => pure outcome
      | .error error => pure (.error error) := by
  unfold withWekaMount
  rw [attempt_bind]
  refine congrArg (_ >>= ·) (funext fun mounted => ?_)
  cases mounted with
  | error error => rfl
  | ok _ =>
      dsimp only
      rw [attempt_bind, attempt_of_neverRaises (neverRaises_attempt body)]
      simp only [LawfulMonad.bind_assoc, LawfulMonad.pure_bind]
      refine congrArg (_ >>= ·) (funext fun outcome => ?_)
      rw [attempt_bind, attempt_of_neverRaises (neverRaises_ignoring _)]
      simp only [LawfulMonad.bind_assoc, LawfulMonad.pure_bind]
      refine congrArg (_ >>= ·) (funext fun _ => ?_)
      cases outcome <;> rfl

/-- Nested contexts of WekaFS mounts are left in the order of the plan's cleanup. -/
theorem copySnapshotWekafs_eq (cfg : Config) (job : CopyJob) :
    copySnapshotWekafs cfg job = planWekafsCopy cfg job >>= CopyPlan.carryOut := by
  unfold copySnapshotWekafs planWekafsCopy CopyPlan.carryOut
  simp only [LawfulMonad.bind_assoc, LawfulMonad.pure_bind]
  refine congrArg (_ >>= ·) (funext fun authTokenPath => congrArg (_ >>= ·) (funext fun srcMnt =>
    congrArg (_ >>= ·) (funext fun dstMnt => ?_)))
  simp only [attempt_withWekaMount, wekafsCopyStages, runStages, attempt_bind, attempt_pure,
    cleanupWekafsCopy, LawfulMonad.bind_assoc]
  refine congrArg (_ >>= ·) (funext fun srcMounted => ?_)
  cases srcMounted with
  | error error => rfl
  | ok _ =>
      simp only [LawfulMonad.pure_bind, LawfulMonad.bind_assoc]
      refine congrArg (_ >>= ·) (funext fun dstMounted => ?_)
      cases dstMounted with
      | error error => rfl
      | ok _ =>
          simp only [LawfulMonad.pure_bind, LawfulMonad.bind_assoc]
          refine congrArg (_ >>= ·) (funext fun copied => ?_)
          cases copied <;> rfl

/-! ## Runs of a plan -/

variable {service : Service Op Op.Res Error World} {w t u : World}

/-- A run of the stages of a copy: each returns and the next one runs, or it raises and no other
one runs. -/
inductive StagesRun (service : Service Op Op.Res Error World) :
    List (NfsCopy → Driver NfsCopy) → NfsCopy → World → NfsCopy → Option Error → World → Prop where
  | done (progress : NfsCopy) (w : World) : StagesRun service [] progress w progress none w
  | raised {stage : NfsCopy → Driver NfsCopy} {rest : List (NfsCopy → Driver NfsCopy)}
      {progress : NfsCopy} {error : Error} {w t : World} :
      Exec service (stage progress) w (.error error) t →
        StagesRun service (stage :: rest) progress w progress (some error) t
  | returned {stage : NfsCopy → Driver NfsCopy} {rest : List (NfsCopy → Driver NfsCopy)}
      {progress progress' final : NfsCopy} {failure : Option Error} {w t u : World} :
      Exec service (stage progress) w (.ok progress') t →
        StagesRun service rest progress' t final failure u →
          StagesRun service (stage :: rest) progress w final failure u

/-- A stage raises an error, after the stages before it have returned. -/
def RaisedBy (service : Service Op Op.Res Error World) (stages : List (NfsCopy → Driver NfsCopy))
    (progress : NfsCopy) (w : World) (error : Error) : Prop :=
  ∃ earlier stage later progress' u t, stages = earlier ++ stage :: later ∧
    StagesRun service earlier progress w progress' none u ∧
      Exec service (stage progress') u (.error error) t

/-- The failure of a run of stages is what one of them has raised. -/
theorem raisedBy_of_run {stages : List (NfsCopy → Driver NfsCopy)} {progress final : NfsCopy}
    {failure : Option Error} (run : StagesRun service stages progress w final failure t) :
    ∀ error, failure = some error → RaisedBy service stages progress w error := by
  induction run with
  | done => exact fun _ impossible => nomatch impossible
  | @raised stage rest progress error w t ran =>
      intro error' same
      cases same
      exact ⟨[], stage, rest, progress, w, t, rfl, .done _ _, ran⟩
  | returned ran _ ih =>
      intro error same
      obtain ⟨earlier, stage, later, progress', u, t, split, staged, raised⟩ := ih error same
      exact ⟨_ :: earlier, stage, later, progress', u, t, congrArg _ split, .returned ran staged,
        raised⟩

/-- What a program ends with that raises a failure, if there is one. -/
def raising : Option Error → Except Error Unit
  | none => .ok ()
  | some error => .error error

/-- A run of a plan: of its stages, and of the cleanup of what they have set up. It raises what a
stage has raised. -/
def PlanRun (during after : Service Op Op.Res Error World) (plan : CopyPlan) (w : World)
    (outcome : Except Error Unit) (t : World) : Prop :=
  ∃ progress failure u, StagesRun during plan.stages .start w progress failure u ∧
    Exec after (plan.cleanup progress) u (.ok ()) t ∧ outcome = raising failure

/-- A plan returns when all its stages have returned, and raises what a stage has raised. -/
theorem raises_of_planRun {during after : Service Op Op.Res Error World} {plan : CopyPlan}
    {outcome : Except Error Unit} (run : PlanRun during after plan w outcome t) :
    (outcome = .ok () ∧ ∃ progress u, StagesRun during plan.stages .start w progress none u) ∨
      ∃ error, outcome = .error error ∧ RaisedBy during plan.stages .start w error := by
  obtain ⟨progress, failure, u, staged, _, rfl⟩ := run
  cases failure with
  | none => exact Or.inl ⟨rfl, progress, u, staged⟩
  | some error => exact Or.inr ⟨error, rfl, raisedBy_of_run staged error rfl⟩

private theorem exec_attempt_iff {α : Type} {program : Driver α}
    {result : Except Error (Except Error α)} :
    Exec service (attempt program) w result t ↔
      ∃ outcome, result = .ok outcome ∧ Exec service program w outcome t := by
  unfold attempt
  rw [← bind_pure_comp]
  constructor
  · intro run
    rcases run.of_tryCatch with ⟨outcome, rfl, tried⟩ | ⟨error, u, tried, handled⟩
    · rcases tried.of_bind with ⟨value, v, ran, returned⟩ | ⟨error, impossible, _⟩
      · cases returned
        exact ⟨.ok value, rfl, ran⟩
      · cases impossible
    · rcases tried.of_bind with ⟨value, v, ran, returned⟩ | ⟨error', same, ran⟩
      · cases returned
      · cases same
        cases handled
        exact ⟨.error error, rfl, ran⟩
  · intro ⟨outcome, same, ran⟩
    subst same
    cases outcome with
    | ok value => exact .tryCatch_ok (.bind ran (.ret _ _))
    | error error => exact .tryCatch_error (.bind_error ran) (.ret _ _)

/-- Running the stages ends with how far they came and what stopped them. -/
theorem exec_runStages_iff {stages : List (NfsCopy → Driver NfsCopy)} {progress : NfsCopy}
    {result : Except Error (NfsCopy × Option Error)} :
    Exec service (runStages stages progress) w result t ↔
      ∃ final failure, result = .ok (final, failure) ∧
        StagesRun service stages progress w final failure t := by
  induction stages generalizing progress w with
  | nil =>
      constructor
      · intro run
        cases run
        exact ⟨_, _, rfl, .done _ _⟩
      · intro ⟨final, failure, same, run⟩
        cases run
        subst same
        exact .ret _ _
  | cons stage rest ih =>
      constructor
      · intro run
        rcases run.of_bind with ⟨outcome, u, tried, later⟩ | ⟨error, rfl, tried⟩
        · obtain ⟨_, same, ran⟩ := exec_attempt_iff.mp tried
          cases same
          cases outcome with
          | ok progress' =>
              obtain ⟨final, failure, same, staged⟩ := ih.mp later
              exact ⟨final, failure, same, .returned ran staged⟩
          | error error =>
              cases later
              exact ⟨progress, some error, rfl, .raised ran⟩
        · obtain ⟨_, impossible, _⟩ := exec_attempt_iff.mp tried
          cases impossible
      · intro ⟨final, failure, same, run⟩
        subst same
        cases run with
        | raised ran => exact .bind (exec_attempt_iff.mpr ⟨_, rfl, ran⟩) (.ret _ _)
        | returned ran run =>
            exact .bind (exec_attempt_iff.mpr ⟨_, rfl, ran⟩) (ih.mpr ⟨_, _, rfl, run⟩)

private theorem exec_reraise_iff {failure : Option Error} {outcome : Except Error Unit} :
    Exec service (reraise failure) w outcome t ↔ outcome = raising failure ∧ t = w := by
  constructor
  · intro run
    cases failure <;> cases run <;> exact ⟨rfl, rfl⟩
  · intro ⟨same, kept⟩
    subst same kept
    cases failure with
    | none => exact .ret _ _
    | some error => exact .fail _ _

/-- Whatever fails, a plan whose cleanup does not raise ends as its stages do. -/
theorem exec_carryOut_iff {plan : CopyPlan} {outcome : Except Error Unit}
    (quiet : ∀ progress, (plan.cleanup progress).NeverRaises) :
    Exec service plan.carryOut w outcome t ↔ PlanRun service service plan w outcome t := by
  constructor
  · intro run
    rcases run.of_bind with ⟨_, u, staged, later⟩ | ⟨error, rfl, staged⟩
    · obtain ⟨progress, failure, same, run⟩ := exec_runStages_iff.mp staged
      cases same
      rcases later.of_bind with ⟨_, v, cleaned, raised⟩ | ⟨error, rfl, cleaned⟩
      · obtain ⟨ended, rfl⟩ := exec_reraise_iff.mp raised
        exact ⟨progress, failure, u, run, cleaned, ended⟩
      · obtain ⟨_, impossible⟩ := (quiet progress).returns cleaned
        cases impossible
    · obtain ⟨_, _, impossible, _⟩ := exec_runStages_iff.mp staged
      cases impossible
  · intro ⟨progress, failure, u, run, cleaned, ended⟩
    exact .bind (exec_runStages_iff.mpr ⟨_, _, rfl, run⟩)
      (.bind cleaned (exec_reraise_iff.mpr ⟨ended, rfl⟩))

/-! ## No cleanup raises -/

private theorem neverRaises_removeTempDirs (paths : List String) :
    (removeTempDirs paths).NeverRaises :=
  .forM fun _ _ => neverRaises_ignoring _

private theorem neverRaises_umountIf (mounted : Bool) (mountPoint : String) :
    (umountIf mounted mountPoint).NeverRaises :=
  .ite (fun _ => neverRaises_ignoring _) fun _ => .pure ()

private theorem neverRaises_exitIf (entered : Bool) (mnt : WekaMount) :
    (exitIf entered mnt).NeverRaises :=
  .ite (fun _ => neverRaises_ignoring _) fun _ => .pure ()

private theorem neverRaises_removeTempGroup (tmpCgName : String) (progress : NfsCopy) :
    (removeTempGroup tmpCgName progress).NeverRaises := by
  refine .bind (neverRaises_ignoring _) fun _ => ?_
  cases progress.cgUid with
  | none => exact .pure ()
  | some cgUid =>
      cases progress.ruleUid with
      | none => exact neverRaises_ignoring _
      | some ruleUid => exact .bind (neverRaises_ignoring _) fun _ => neverRaises_ignoring _

/-- Cleaning up after a copy through NFS does not raise. -/
theorem neverRaises_cleanupNfsCopy (srcMnt dstMnt : String) (progress : NfsCopy) :
    (cleanupNfsCopy job srcMnt dstMnt progress).NeverRaises :=
  .bind (neverRaises_umountIf _ _) fun _ => .bind (neverRaises_umountIf _ _) fun _ =>
    .bind (neverRaises_removeTempDirs _) fun _ => neverRaises_removeTempGroup _ _

/-- Cleaning up after a copy through WekaFS does not raise. -/
theorem neverRaises_cleanupWekafsCopy (src dst : WekaMount) (progress : NfsCopy) :
    (cleanupWekafsCopy src dst progress).NeverRaises :=
  .bind (neverRaises_exitIf _ _) fun _ => .bind (neverRaises_exitIf _ _) fun _ =>
    neverRaises_removeTempDirs _

/-- What a copy plans once its directories exist. -/
theorem exec_planNfsCopy {plan : CopyPlan}
    (run : Exec service (planNfsCopy cfg job) w (.ok plan) u) :
    ∃ nfsServer localIp srcMnt dstMnt v₁ v₂,
      Exec service (onHost (.localIp nfsServer)) w (.ok localIp) v₁ ∧
      Exec service (onHost (.mkdtemp "manila_weka_snap_src_")) v₁ (.ok srcMnt) v₂ ∧
      Exec service (onHost (.mkdtemp "manila_weka_snap_dst_")) v₂ (.ok dstMnt) u ∧
      plan = {
        srcMnt, dstMnt
        stages := nfsCopyStages nfsServer (tmpGroupName job) localIp srcMnt dstMnt job
        cleanup := cleanupNfsCopy job srcMnt dstMnt } := by
  unfold planNfsCopy at run
  cases served : cfg.nfsServer.filter (· ≠ "") with
  | none =>
      rw [served] at run
      cases run
  | some nfsServer =>
      rw [served] at run
      rcases run.of_bind with ⟨localIp, v₁, found, run⟩ | ⟨_, impossible, _⟩
      · rcases run.of_bind with ⟨srcMnt, v₂, src, run⟩ | ⟨_, impossible, _⟩
        · rcases run.of_bind with ⟨dstMnt, v₃, dst, run⟩ | ⟨_, impossible, _⟩
          · cases run
            exact ⟨nfsServer, localIp, srcMnt, dstMnt, v₁, v₂, found, src, dst, rfl⟩
          · cases impossible
        · cases impossible
      · cases impossible

/-- A copy through WekaFS is planned by writing the token and making two directories. -/
theorem exec_planWekafsCopy {plan : CopyPlan}
    (run : Exec service (planWekafsCopy cfg job) w (.ok plan) u) :
    ∃ authTokenPath srcMnt dstMnt v₁ v₂,
      Exec service (orgTokenFile cfg job.share.projectId) w (.ok authTokenPath) v₁ ∧
      Exec service (onHost (.mkdtemp "manila_weka_snap_src_")) v₁ (.ok srcMnt) v₂ ∧
      Exec service (onHost (.mkdtemp "manila_weka_snap_dst_")) v₂ (.ok dstMnt) u ∧
      plan = {
        srcMnt, dstMnt
        stages := wekafsCopyStages (copyMount cfg authTokenPath job.srcFsName srcMnt)
          (copyMount cfg authTokenPath job.newFsName dstMnt) job.accessPoint
        cleanup := cleanupWekafsCopy (copyMount cfg authTokenPath job.srcFsName srcMnt)
          (copyMount cfg authTokenPath job.newFsName dstMnt) } := by
  rcases run.of_bind with ⟨authTokenPath, v₁, opened, run⟩ | ⟨_, impossible, _⟩
  · rcases run.of_bind with ⟨srcMnt, v₂, src, run⟩ | ⟨_, impossible, _⟩
    · rcases run.of_bind with ⟨dstMnt, v₃, dst, run⟩ | ⟨_, impossible, _⟩
      · cases run
        exact ⟨authTokenPath, srcMnt, dstMnt, v₁, v₂, opened, src, dst, rfl⟩
      · cases impossible
    · cases impossible
  · cases impossible

/-- A run of a planned copy fails before there is a plan, or is a run of the plan. -/
def CopyRun (service : Service Op Op.Res Error World) (plans : Driver CopyPlan) (w : World)
    (outcome : Except Error Unit) (t : World) : Prop :=
  (∃ error, outcome = .error error ∧ Exec service plans w (.error error) t) ∨
    ∃ plan u, Exec service plans w (.ok plan) u ∧ PlanRun service service plan u outcome t

private theorem exec_planned_iff {plans : Driver CopyPlan} {outcome : Except Error Unit}
    (quiet : ∀ plan u, Exec service plans w (.ok plan) u →
      ∀ progress, (plan.cleanup progress).NeverRaises) :
    Exec service (plans >>= CopyPlan.carryOut) w outcome t ↔ CopyRun service plans w outcome t := by
  constructor
  · intro run
    rcases run.of_bind with ⟨plan, u, planned, carried⟩ | ⟨error, same, planned⟩
    · exact Or.inr ⟨plan, u, planned, (exec_carryOut_iff (quiet plan u planned)).mp carried⟩
    · exact Or.inl ⟨error, same, planned⟩
  · intro run
    rcases run with ⟨error, same, planned⟩ | ⟨plan, u, planned, carried⟩
    · subst same
      exact .bind_error planned
    · exact .bind planned ((exec_carryOut_iff (quiet plan u planned)).mpr carried)

/-- A copy through NFS is its stages and its cleanup, whatever fails. -/
theorem exec_copySnapshotNfs_iff {outcome : Except Error Unit} :
    Exec service (copySnapshotNfs cfg job) w outcome t ↔
      CopyRun service (planNfsCopy cfg job) w outcome t := by
  rw [copySnapshotNfs_eq]
  refine exec_planned_iff fun plan u planned => ?_
  obtain ⟨_, _, _, _, _, _, _, _, _, rfl⟩ := exec_planNfsCopy planned
  exact neverRaises_cleanupNfsCopy _ _

/-- A copy through WekaFS mounts is its stages and its cleanup, whatever fails. -/
theorem exec_copySnapshotWekafs_iff {outcome : Except Error Unit} :
    Exec service (copySnapshotWekafs cfg job) w outcome t ↔
      CopyRun service (planWekafsCopy cfg job) w outcome t := by
  rw [copySnapshotWekafs_eq]
  refine exec_planned_iff fun plan u planned => ?_
  obtain ⟨_, _, _, _, _, _, _, _, rfl⟩ := exec_planWekafsCopy planned
  exact neverRaises_cleanupWekafsCopy _ _

end WekaShareDriver
