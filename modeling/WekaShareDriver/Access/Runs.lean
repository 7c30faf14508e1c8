import WekaShareDriver.Access.WekafsUses

/-! # Runs of access updates

Manila updates the access of a share again and again, and any call of any update
may fail (`WekaShareDriver.UpdatesReach`). A WEKAFS share that is ready for an
update stays ready through all of them, whatever failed
(`WekaShareDriver.UpdatesReach.wekafsReady`).
-/

namespace WekaShareDriver

open Foundation Program

/-- The rule lists of one update request. -/
structure AccessUpdate where
  accessRules : List AccessRule
  addRules : List AccessRule
  deleteRules : List AccessRule
  updateRules : List AccessRule

namespace AccessUpdate

/-- A request with nothing to add, delete or update asks for a full sync. -/
def fullSync (update : AccessUpdate) : Bool :=
  update.addRules.isEmpty && update.deleteRules.isEmpty && update.updateRules.isEmpty

/-- The rules a request applies. -/
def applied (update : AccessUpdate) : List AccessRule :=
  (if update.fullSync then update.accessRules else update.addRules) ++ update.updateRules

/-- The full synchronization of a list of rules. -/
def sync (rules : List AccessRule) : AccessUpdate := ⟨rules, [], [], []⟩

/-- What the driver does for a request. -/
def program (cfg : Config) (share : Share) (update : AccessUpdate) : Driver RuleStates :=
  updateAccess cfg share update.accessRules update.addRules update.deleteRules update.updateRules

@[simp] theorem fullSync_sync (rules : List AccessRule) : (sync rules).fullSync = true := rfl

@[simp] theorem applied_sync (rules : List AccessRule) : (sync rules).applied = rules :=
  List.append_nil rules

/-- A full sync has nothing to delete. -/
theorem deleteRules_of_fullSync {update : AccessUpdate} (full : update.fullSync = true) :
    update.deleteRules = [] := by
  simp only [fullSync, Bool.and_eq_true, List.isEmpty_iff] at full
  exact full.1.2

/-- A request for a WEKAFS share runs the update of WEKAFS access. -/
theorem program_wekafs {cfg : Config} {share : Share} (protocol : share.shareProto = .wekafs)
    (update : AccessUpdate) : update.program cfg share =
      updateWekafsAccess cfg share update.applied update.deleteRules update.fullSync := by
  unfold program updateAccess
  rw [protocol]
  rfl

/-- A request for an NFS share runs the update of NFS access. -/
theorem program_nfs {cfg : Config} {share : Share} (protocol : share.shareProto = .nfs)
    (update : AccessUpdate) : update.program cfg share =
      updateNfsAccess cfg share update.applied update.deleteRules update.fullSync := by
  unfold program updateAccess
  rw [protocol]
  rfl

end AccessUpdate

/-- The worlds between updates: each allowed request runs to its end, returning or
raising, with whatever faults strike on the way. -/
inductive UpdatesReach (cfg : Config) (share : Share) (fault : Fault)
    (allowed : AccessUpdate → Prop) (start : World) : World → Prop where
  | start : UpdatesReach cfg share fault allowed start start
  | update {w t : World} {update : AccessUpdate} {outcome : Except Error RuleStates}
      (reached : UpdatesReach cfg share fault allowed start w) (request : allowed update)
      (run : Exec (service fault) (update.program cfg share) w outcome t) :
      UpdatesReach cfg share fault allowed start t

variable {cfg : Config} {share : Share} {fault : Fault} {allowed : AccessUpdate → Prop}
  {start w t : World} {fsUid : Uid}

/-- What every completed update keeps holds between any updates. -/
theorem UpdatesReach.invariant {safe : World → Prop}
    (reached : UpdatesReach cfg share fault allowed start w) (initial : safe start)
    (kept : ∀ update w t outcome, allowed update → safe w →
      Exec (service fault) (update.program cfg share) w outcome t → safe t) : safe w := by
  induction reached with
  | start => exact initial
  | update _ request run ih => exact kept _ _ _ _ request ih run

/-- A share is ready whatever the policies are. -/
theorem WekafsReady.policies (ready : WekafsReady cfg share fsUid w)
    (policies : Registry SecurityPolicy) :
    WekafsReady cfg share fsUid { w with cluster := { w.cluster with policies } } :=
  ⟨ready.protocol, ready.project, ready.sessions, ready.login, ready.filesystem, ready.ungrouped⟩

/-- The batch of an update keeps a share ready besides whatever else it does. -/
theorem wp_updateWekafsPolicies_ready {session : Session} {mountPassword : String}
    {addRules deleteRules : List AccessRule} {fullSync : Bool} {passed : World → Prop}
    {done : RuleStates → World → Prop} {raised : Error → World → Prop}
    (ready : WekafsReady cfg share fsUid w)
    (holds : (updateWekafsPolicies session share (some fsUid) mountPassword addRules deleteRules
        fullSync).wp (service fault) (passing passed) (ending done raised) w) :
    (updateWekafsPolicies session share (some fsUid) mountPassword addRules deleteRules
        fullSync).wp (service fault)
      (passing fun t => WekafsReady cfg share fsUid t ∧ passed t)
      (ending (fun states t => WekafsReady cfg share fsUid t ∧ done states t)
        (fun error t => WekafsReady cfg share fsUid t ∧ raised error t)) w := by
  have keeps : ∀ u op answer v, PolicyOp session op → WekafsReady cfg share fsUid u →
      service fault u op answer v → WekafsReady cfg share fsUid v := by
    intro u op answer v policy there answered
    rw [policyOp_changes policy answered]
    exact there.policies _
  have uses : (updateWekafsPolicies session share (some fsUid) mountPassword addRules deleteRules
      fullSync).Uses (PolicyOp session) := uses_updateWekafsPolicies addRules deleteRules fullSync
  have stays := Uses.wp uses keeps ready
  refine wp_mono (fun _ _ _ kept => kept) (fun outcome t ended => ?_) (wp_and stays holds)
  cases outcome with
  | ok states => exact ended
  | error error => exact ended

/-- An update keeps a share ready at every call, whatever fails. -/
theorem wp_program_ready (ready : WekafsReady cfg share fsUid w) (update : AccessUpdate) :
    (update.program cfg share).wp (service fault) (passing (WekafsReady cfg share fsUid))
      (ending (fun _ => WekafsReady cfg share fsUid) (fun _ => WekafsReady cfg share fsUid)) w := by
  rw [update.program_wekafs ready.protocol]
  refine wp_weaken (wp_updateWekafsAccess ready (fun _ => True) trivial
    (fun _ t _ ready' _ => ready') fun t ready' _ => ?_) (fun _ kept => kept.1)
    (fun _ _ kept => kept) fun _ _ kept => kept
  have anything : (updateWekafsPolicies (projectSession cfg share.projectId) share (some fsUid)
      (cfg.orgMountPassword share.projectId) update.applied update.deleteRules update.fullSync).wp
      (service fault) (passing fun _ => True) (ending (fun _ _ => True) fun _ _ => True) t :=
    wp_of_exec (fun outcome _ _ => by cases outcome <;> trivial) fun _ _ _ _ => trivial
  exact wp_weaken (wp_updateWekafsPolicies_ready ready' anything) (fun _ kept => kept)
    (fun _ _ kept => kept.1) fun _ _ kept => kept.1

/-- A ready share stays ready between any updates. -/
theorem UpdatesReach.wekafsReady (reached : UpdatesReach cfg share fault allowed start w)
    (ready : WekafsReady cfg share fsUid start) : WekafsReady cfg share fsUid w := by
  refine reached.invariant ready fun update w t outcome _ ready run => ?_
  have ended := run.post (wp_program_ready ready update)
  cases outcome with
  | ok states => exact ended
  | error error => exact ended

/-! ## A small world -/

/-- A driver with the default names. -/
def sampleConfig : Config where
  shareNamePrefix := "manila_"
  filesystemGroup := "default"
  mountPointBase := "/mnt/weka"
  apiServer := "10.0.0.1"
  nfsServer := none
  numCores := 1
  netDevice := none
  orgPrefix := "manila-"
  orgUser := "manila"
  orgAdminSecret := "secret"
  authTokenDir := "/etc/weka"
  securityPolicyGroup := none
  hmacHexdigest := fun secret message => secret ++ message
  iterationOrder := id
  secretSet := by decide
  iterationPerm := fun _ => .refl _

/-- A share of project `p1`. -/
def sampleShare (protocol : ShareProto) : Share :=
  ⟨"5a7c1e90-0000-4000-8000-000000000001", 1, protocol, some "p1", none, []⟩

/-- Every request may fail, with any API error. -/
def apiFaults : Fault := fun _ op error =>
  match op with
  | .api _ _ => isApiError error = true
  | _ => False

instance (w : World) (op : Op) (error : Error) : Decidable (apiFaults w op error) :=
  match op with
  | .api _ _ => inferInstanceAs (Decidable (isApiError error = true))
  | .login .. => inferInstanceAs (Decidable False)
  | .host _ => inferInstanceAs (Decidable False)

/-- A cluster with the sample share's filesystem and its project's
organization. -/
def sampleWekafs : World where
  cluster := { Cluster.empty with
    organizations := Registry.empty.insert (projectOrg sampleConfig (some "p1"))
    filesystems := Registry.empty.insert ⟨projectSession sampleConfig (some "p1"),
      sampleConfig.shareName (sampleShare .wekafs).id, "default", gbToBytes 1, 0, true⟩ }
  host := Host.empty

/-- The sample share is ready. -/
theorem sampleWekafs_ready : WekafsReady sampleConfig (sampleShare .wekafs) 0 sampleWekafs where
  protocol := rfl
  project := by decide
  sessions := fun _ cached => by cases cached
  login := by
    intro org found
    have only : sampleWekafs.cluster.organizations.find? (sampleConfig.orgName (some "p1")) =
        some ⟨0, projectOrg sampleConfig (some "p1")⟩ := by decide
    change sampleWekafs.cluster.organizations.find? (sampleConfig.orgName (some "p1")) = _ at found
    rw [only, Option.some.injEq] at found
    subst found
    exact ⟨rfl, rfl⟩
  filesystem := ⟨⟨0, projectSession sampleConfig (some "p1"),
    sampleConfig.shareName (sampleShare .wekafs).id, "default", gbToBytes 1, 0, true⟩, by decide, rfl⟩
  ungrouped := fun _ _ typed => by cases typed

/-- An address granted to the sample share. -/
def sampleRule : AccessRule := ⟨"a1b2c3d4-0000-4000-8000-000000000002", .ip, "10.1.2.3", .rw⟩

/-- Another address for the sample share. -/
def otherRule : AccessRule := ⟨"b2c3d4e5-0000-4000-8000-000000000003", .ip, "10.4.5.6", .rw⟩

/-- The sample share with one rule. -/
def grantedWekafs : World :=
  ((⟨[sampleRule], [sampleRule], [], []⟩ : AccessUpdate).program sampleConfig
    (sampleShare .wekafs)).run respond sampleWekafs |>.2

/-- The sample request reaches the world with its rule. -/
theorem grantedWekafs_reached : UpdatesReach sampleConfig (sampleShare .wekafs) apiFaults
    (fun _ => True) sampleWekafs grantedWekafs :=
  UpdatesReach.start.update trivial (exec_run _ _)

end WekaShareDriver
