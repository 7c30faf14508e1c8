import WekaShareDriver.GroupEnforcement
import WekaShareDriver.ShareFilesystems

/-! # Changing the policies of a group

The policies of a group are objects of the cluster and outlive the driver that made them.
A driver that is started with other addresses for the group finds them and attaches them
as they are: the option is read again, but the policies are not reconciled with it.

A share therefore gets what the configuration says exactly if the policies that exist say
the same, and if it is not attached yet to a policy at a level that is not granted any more
(`WekaShareDriver.group_policies_follow`). An NFS share joins no group.
-/

namespace WekaShareDriver

open Foundation Program

/-- A driver that starts has no session and no copy of the one before it. -/
def restarted (w : World) : World :=
  { w with host := { w.host with orgClients := [], asyncCopies := [], copyJobs := [] } }

/-- A share of a group was created: by which driver, and the worlds before and after. -/
structure GroupCreation where
  cfg : Config
  share : Share
  group : String
  before : World
  after : World

/-- Lifetimes of the driver, each with its own option for the policy groups, and the shares of
a project that were created in them. -/
inductive GroupLifetimes (base : Config) (fault : Fault) (projectId : Option String)
    (start : World) : Config → World → List GroupCreation → Prop where
  | first (option : Option String) : GroupLifetimes base fault projectId start
      { base with securityPolicyGroup := option } (restarted start) []
  | restart {cfg : Config} {w : World} {log : List GroupCreation} (option : Option String)
      (lived : GroupLifetimes base fault projectId start cfg w log) :
      GroupLifetimes base fault projectId start { base with securityPolicyGroup := option }
        (restarted w) log
  | retyped {cfg : Config} {w : World} {log : List GroupCreation}
      (types : Dict String (Dict String String))
      (lived : GroupLifetimes base fault projectId start cfg w log) :
      GroupLifetimes base fault projectId start cfg
        { w with host := { w.host with shareTypes := types } } log
  | create {cfg : Config} {w t : World} {log : List GroupCreation} {share : Share}
      {group : String} {locations : List ExportLocation}
      (lived : GroupLifetimes base fault projectId start cfg w log)
      (project : share.projectId = projectId) (selects : SelectsGroup share group w)
      (created : Exec (service fault) (createShare cfg share) w (.ok locations) t) :
      GroupLifetimes base fault projectId start cfg t (⟨cfg, share, group, w, t⟩ :: log)

/-- A list of addresses names the same ones as another. -/
def SameCidrs (first second : List String) : Prop := ∀ cidr, cidr ∈ first ↔ cidr ∈ second

namespace GroupCreation

variable (creation : GroupCreation)

/-- Where the policy of the group at a level is found. -/
def policyKey (level : Level) : Session × String :=
  groupKey (projectSession creation.cfg creation.share.projectId) creation.group level

/-- The policies of a configured group that are attached to the new filesystem are the ones
that the configuration grants, with the addresses it gives. -/
def Follows : Prop :=
  ∀ levels, creation.cfg.policyGroups.get? creation.group = some levels →
    ∀ fs, creation.after.cluster.filesystems.find? (shareKey creation.cfg creation.share) =
      some fs →
    ∀ level policy, creation.after.cluster.policies.find? (creation.policyKey level) = some policy →
      fs.uid ∈ policy.val.attached →
        levelIps levels level ≠ [] ∧ SameCidrs policy.val.ips (levelIps levels level)

/-- Before the creation, the policies that a WEKAFS share will be attached to list the
addresses that the configuration gives, if they exist, and so does every policy of the group
that the share's filesystem, if it exists, is attached to already. -/
def Current : Prop :=
  ∀ levels, creation.cfg.policyGroups.get? creation.group = some levels →
    ∀ level policy, creation.before.cluster.policies.find? (creation.policyKey level) =
      some policy →
      (creation.share.shareProto = .wekafs → levelIps levels level ≠ [] →
        SameCidrs policy.val.ips (levelIps levels level)) ∧
      ∀ fs, creation.before.cluster.filesystems.find? (shareKey creation.cfg creation.share) =
        some fs → fs.uid ∈ policy.val.attached →
          levelIps levels level ≠ [] ∧ SameCidrs policy.val.ips (levelIps levels level)

end GroupCreation

/-- The filesystem of a share was found, or issued new; the policies are as before. -/
structure FoundOrIssued (cfg : Config) (share : Share) (w t : World) (fs : Entry Filesystem) :
    Prop where
  policies : t.cluster.policies = w.cluster.policies
  shareTypes : t.host.shareTypes = w.host.shareTypes
  own : OwnSession cfg share.projectId t
  next : w.cluster.filesystems.next ≤ t.cluster.filesystems.next
  found : t.cluster.filesystems.find? (shareKey cfg share) = some fs
  origin : w.cluster.filesystems.find? (shareKey cfg share) = some fs ∨
    w.cluster.filesystems.find? (shareKey cfg share) = none ∧
      fs.uid = w.cluster.filesystems.next

/-- Policies are attached to filesystems that were issued. -/
def AttachedBelow (w : World) : Prop :=
  ∀ policy ∈ w.cluster.policies.rows, ∀ uid ∈ policy.val.attached, uid < w.cluster.filesystems.next

variable {base cfg : Config} {fault : Fault} {projectId : Option String} {start w t u : World}
  {log : List GroupCreation} {share : Share} {group : String} {levels : Dict Level (List String)}
  {locations : List ExportLocation} {fs : Entry Filesystem} {fsUid : Uid}

/-! ## Attached filesystems were issued -/

/-- The filesystems that an operation may attach a policy to. -/
def AttachesTo (allowed : Uid → Prop) (op : Op) : Prop :=
  ∀ session uid policyUid, op = .api session (.attachFsSecurityPolicy uid policyUid) → allowed uid

/-- What a policy is attached to was attached before, or is attached now. -/
theorem attached_of_answer {session : Session} {request : Request} {cluster : Cluster} {uid : Uid}
    {policy : Entry SecurityPolicy}
    (member : policy ∈ (cluster.answer session request).2.policies.rows)
    (attached : uid ∈ policy.val.attached) :
    (∃ origin ∈ cluster.policies.rows, uid ∈ origin.val.attached) ∨
      ∃ policyUid, request = .attachFsSecurityPolicy uid policyUid := by
  have modified {changed : Uid} {change : SecurityPolicy → SecurityPolicy}
      {keeps : ∀ val, Keyed.key (change val) = Keyed.key val}
      (member : policy ∈ (cluster.policies.modify changed change keeps).rows) :
      ∃ origin ∈ cluster.policies.rows,
        policy = origin ∨ policy = ⟨origin.uid, change origin.val⟩ := by
    obtain ⟨origin, earlier, rfl⟩ := Registry.mem_modify.mp member
    refine ⟨origin, earlier, ?_⟩
    split
    · exact Or.inr rfl
    · exact Or.inl rfl
  cases request with
  | createSecurityPolicy name ips readOnly =>
      simp only [Cluster.answer, Cluster.create] at member
      split at member
      · exact Or.inl ⟨policy, member, attached⟩
      · next free =>
          rcases (Registry.mem_insert free).mp member with earlier | rfl
          · exact Or.inl ⟨policy, earlier, attached⟩
          · cases attached
  | updateSecurityPolicy policyUid addIps removeIps =>
      simp only [Cluster.answer] at member
      split at member
      · obtain ⟨origin, earlier, rfl | rfl⟩ := modified member
        · exact Or.inl ⟨_, earlier, attached⟩
        · exact Or.inl ⟨origin, earlier, attached⟩
      · exact Or.inl ⟨policy, member, attached⟩
  | deleteSecurityPolicy policyUid =>
      simp only [Cluster.answer] at member
      split at member
      · exact Or.inl ⟨policy, (Registry.mem_erase.mp member).1, attached⟩
      · exact Or.inl ⟨policy, member, attached⟩
  | attachFsSecurityPolicy fsUid policyUid =>
      simp only [Cluster.answer] at member
      repeat' split at member
      · exact Or.inl ⟨policy, member, attached⟩
      · obtain ⟨origin, earlier, rfl | rfl⟩ := modified member
        · exact Or.inl ⟨_, earlier, attached⟩
        · rcases List.mem_append.mp attached with before | now
          · exact Or.inl ⟨origin, earlier, before⟩
          · rw [List.mem_singleton.mp now]
            exact Or.inr ⟨policyUid, rfl⟩
      · exact Or.inl ⟨policy, member, attached⟩
  | detachFsSecurityPolicy fsUid policyUid =>
      simp only [Cluster.answer] at member
      split at member
      · obtain ⟨origin, earlier, rfl | rfl⟩ := modified member
        · exact Or.inl ⟨_, earlier, attached⟩
        · exact Or.inl ⟨origin, earlier, List.mem_of_mem_filter attached⟩
      · exact Or.inl ⟨policy, member, attached⟩
  | deleteFilesystem fsUid =>
      simp only [Cluster.answer] at member
      split at member
      · obtain ⟨origin, earlier, rfl⟩ := List.mem_map.mp member
        exact Or.inl ⟨origin, earlier, List.mem_of_mem_filter attached⟩
      · exact Or.inl ⟨policy, member, attached⟩
  | _ =>
      simp only [Cluster.answer] at member
      repeat' split at member
      all_goals exact Or.inl ⟨policy, member, attached⟩

/-- Filesystems are issued further, and policies attached to issued ones. -/
theorem AttachedBelow.kept (below : AttachedBelow w) {op : Op} {answer : Except Error op.Res}
    (attaches : AttachesTo (· < w.cluster.filesystems.next) op)
    (answered : service fault w op answer t) :
    AttachedBelow t ∧ w.cluster.filesystems.next ≤ t.cluster.filesystems.next := by
  have follows : w.cluster.filesystems.Follows t.cluster.filesystems :=
    follows_of_answer (fun _ _ _ => answer_filesystems) answered
  refine ⟨fun policy member uid attached => Nat.lt_of_lt_of_le ?_ follows.next, follows.next⟩
  rcases answered_world answered with rfl | rfl
  · cases op with
    | api session request =>
        rcases attached_of_answer member attached with ⟨origin, earlier, before⟩ | ⟨policyUid, now⟩
        · exact below origin earlier uid before
        · exact attaches session uid policyUid (congrArg _ now)
    | login org username password => exact below policy member uid attached
    | host call => exact below policy member uid attached
  · exact below policy member uid attached

/-- A program that attaches policies to issued filesystems only. -/
theorem obeys_attachedBelow {α : Type} {program : Driver α} {allowed : Uid → Prop} {next : Uid}
    (uses : program.Uses (AttachesTo allowed)) (issued : ∀ uid, allowed uid → uid < next) :
    Obeys (service fault) (fun w => AttachedBelow w ∧ next ≤ w.cluster.filesystems.next)
      (fun _ _ _ => True) program := by
  apply Obeys.of_uses uses
  rintro s op answer t attaches ⟨below, later⟩ answered
  have kept := below.kept (fun session uid policyUid same =>
    Nat.lt_of_lt_of_le (issued uid (attaches session uid policyUid same)) later) answered
  exact ⟨trivial, kept.1, later.trans kept.2⟩

private theorem SetupOp.attachesTo {allowed : Uid → Prop} {op : Op} (setup : SetupOp op) :
    AttachesTo allowed op := by
  rintro session uid policyUid rfl
  exact setup.elim

/-- Only the share's own filesystem is attached to the policies of its group. -/
theorem uses_ensureGroupPolicies_attaches (fsUid : Uid) :
    (ensureGroupPolicies cfg share fsUid).Uses (AttachesTo (· = fsUid)) := by
  have attach (session : Session) (policyUid : Uid) :
      (attachPolicy session fsUid policyUid).Uses (AttachesTo (· = fsUid)) := by
    refine .tryCatch (uses_perform fun _ _ _ same => ?_) fun _ =>
      .ite (fun _ => trivial) fun _ => trivial
    cases same
    rfl
  have ensure (session : Session) (group : String) (level : Level) (ips : List String) :
      (ensureGroupPolicy session fsUid group level ips).Uses (AttachesTo (· = fsUid)) := by
    refine .ite (fun _ => .bind (.bind (uses_perform fun _ _ _ same => by cases same) fun _ =>
      trivial) fun found => ?_) fun _ => trivial
    cases found with
    | some policy => exact attach session _
    | none => exact .bind (uses_perform fun _ _ _ same => by cases same) fun _ => attach session _
  refine .bind ((uses_setup uses_sharePolicyGroup).mono fun _ => SetupOp.attachesTo)
    fun selected => ?_
  cases selected with
  | none => trivial
  | some group =>
      dsimp only
      cases (cfg.policyGroups.get? group).filter (· ≠ []) with
      | none => trivial
      | some levels =>
          exact .bind ((uses_setup_of_opens (uses_orgClient _)).mono fun _ => SetupOp.attachesTo)
            fun session => .bind (ensure session _ _ _) fun _ => ensure session _ _ _

private theorem uses_joinGroup_attaches (fsUid : Uid) :
    (joinGroup cfg share fsUid).Uses (AttachesTo (· = fsUid)) :=
  .ite (fun _ => uses_ensureGroupPolicies_attaches fsUid) fun _ => trivial

/-! ## One creation -/

/-- A filesystem that is found or created on the session of its share. -/
theorem Prepared.foundOrIssued {authRequired : Bool} (prepared : Prepared cfg share.projectId w u)
    (own : OwnSession cfg share.projectId w)
    (created : MaybeCreated (newFilesystem (shareSession cfg share) (cfg.shareName share.id)
      cfg.filesystemGroup (gbToBytes share.size) authRequired) u t)
    (found : t.cluster.filesystems.find? (shareKey cfg share) = some fs) :
    FoundOrIssued cfg share w t fs := by
  have policies : u.cluster.policies = w.cluster.policies := by rw [prepared.cluster]
  have shareTypes : u.host.shareTypes = w.host.shareTypes := by rw [prepared.host]
  have filesystems : u.cluster.filesystems = w.cluster.filesystems := by rw [prepared.cluster]
  have own' : OwnSession cfg share.projectId u := own.prepared prepared
  rcases created with rfl | ⟨free, rfl⟩
  · rw [filesystems] at found
    exact ⟨policies, shareTypes, own', filesystems ▸ le_rfl, filesystems ▸ found, Or.inl found⟩
  · have inserted := congrFun (Registry.find?_insert u.cluster.filesystems _ free)
      (shareKey cfg share)
    have issued := Option.some.inj (found.symm.trans (inserted.trans (Function.update_self ..)))
    refine ⟨policies, shareTypes, own', ?_, found, Or.inr ?_⟩
    · rw [← filesystems]
      exact (Registry.Follows.insert _ _).next
    · rw [← filesystems, issued]
      exact ⟨free, rfl⟩

private theorem FoundOrIssued.attachedBelow (opened : FoundOrIssued cfg share w t fs)
    (below : AttachedBelow w) : AttachedBelow t := by
  intro policy member uid attached
  rw [opened.policies] at member
  exact Nat.lt_of_lt_of_le (below policy member uid attached) opened.next

/-- A filesystem that no policy is attached to yet, unless it was there before. -/
theorem FoundOrIssued.attached (opened : FoundOrIssued cfg share w t fs) (below : AttachedBelow w)
    {key : Session × String} {policy : Entry SecurityPolicy}
    (before : w.cluster.policies.find? key = some policy)
    (attached : fs.uid ∈ policy.val.attached) :
    w.cluster.filesystems.find? (shareKey cfg share) = some fs := by
  rcases opened.origin with there | ⟨_, issued⟩
  · exact there
  · have earlier := below policy (Registry.find?_eq_some_iff.mp before).1 _ attached
    exact absurd earlier (by rw [issued]; exact lt_irrefl _)

private theorem served_of_created
    (created : Exec (service fault) (createShare cfg share) w (.ok locations) t) :
    share.shareProto = .wekafs ∨ share.shareProto = .nfs := by
  cases protocol : share.shareProto with
  | wekafs => exact Or.inl rfl
  | nfs => exact Or.inr rfl
  | other name =>
      unfold createShare at created
      rw [protocol] at created
      cases created

/-- A share that is created has its filesystem found or issued, and then joins its group. -/
theorem created_parts (own : OwnSession cfg share.projectId w)
    (created : Exec (service fault) (createShare cfg share) w (.ok locations) t) :
    ∃ fs u, FoundOrIssued cfg share w u fs ∧
      Exec (service fault) (joinGroup cfg share fs.uid) u (.ok ()) t := by
  have served : ∀ name, share.shareProto ≠ .other name := by
    intro name other
    rcases served_of_created created with wekafs | nfs
    · cases other.symm.trans wekafs
    · cases other.symm.trans nfs
  rw [createShare_eq served] at created
  rcases created.of_bind with ⟨session, v, opens, rest⟩ | ⟨error, failed, _⟩
  · rcases rest.of_bind with ⟨fs, u, finds, rest'⟩ | ⟨error, failed, _⟩
    · rcases rest'.of_bind with ⟨_, x, joins, returns⟩ | ⟨error, failed, _⟩
      · cases returns
        obtain ⟨prepared, rfl⟩ := opens.post (wp_clientForShare_prepared own)
        obtain ⟨made, found⟩ := finds.post wp_createFilesystemIdempotent
        exact ⟨fs, u, prepared.foundOrIssued own made found, joins⟩
      · cases failed
    · cases failed
  · cases failed

/-- Creating a share attaches its own filesystem only, once it is issued. -/
theorem AttachedBelow.created (below : AttachedBelow w) (own : OwnSession cfg share.projectId w)
    (created : Exec (service fault) (createShare cfg share) w (.ok locations) t) :
    AttachedBelow t := by
  obtain ⟨fs, u, opened, joins⟩ := created_parts own created
  have issued : fs.uid < u.cluster.filesystems.next :=
    u.cluster.filesystems.below fs (Registry.find?_eq_some_iff.mp opened.found).1
  exact ((obeys_attachedBelow (uses_joinGroup_attaches fs.uid)
    fun uid same => same.trans_lt issued).restored ⟨opened.attachedBelow below, le_rfl⟩ joins).1

section Creation

variable (own : OwnSession cfg share.projectId w) (honest : Honest fault)
  (selects : SelectsGroup share group w)
  (created : Exec (service fault) (createShare cfg share) w (.ok locations) t)

include own honest selects created

/-- A WEKAFS share that is created joins the policies of its group, unless the read of its
type fails; another joins none. -/
theorem joined_of_created (configured : cfg.policyGroups.get? group = some levels) :
    ∃ fs u, FoundOrIssued cfg share w u fs ∧ t.cluster.filesystems = u.cluster.filesystems ∧
      (share.shareProto = .wekafs ∧
          GroupJoined (projectSession cfg share.projectId) fs.uid group levels u t ∨
        (share.shareProto = .wekafs → ∃ op error, ReadsType op ∧ fault u op error) ∧
          t.cluster.policies = u.cluster.policies) := by
  obtain ⟨fs, u, opened, joins⟩ := created_parts own created
  unfold joinGroup at joins
  by_cases wekafs : share.shareProto = .wekafs
  · have isolated : isIsolatedWekafs share = true := decide_eq_true wekafs
    rw [isolated, if_pos rfl] at joins
    have joined := joins.post (wp_ensureGroupPolicies honest
      (selects.of_shareTypes opened.shareTypes) configured opened.own)
    rcases joined with joined | ⟨failed, rfl⟩
    · exact ⟨fs, u, opened, joined.filesystems, Or.inl ⟨wekafs, joined⟩⟩
    · exact ⟨fs, _, opened, rfl, Or.inr ⟨fun _ => failed, rfl⟩⟩
  · have isolated : isIsolatedWekafs share = false := decide_eq_false wekafs
    rw [isolated] at joins
    cases joins
    exact ⟨fs, _, opened, rfl, Or.inr ⟨fun same => absurd same wekafs, rfl⟩⟩

/-- With current policies, a share that is created gets what is configured. -/
theorem GroupCreation.Current.follows (below : AttachedBelow w)
    (current : GroupCreation.Current ⟨cfg, share, group, w, t⟩) :
    GroupCreation.Follows ⟨cfg, share, group, w, t⟩ := by
  intro levels configured fs found level policy found' attached
  obtain ⟨fs', u, opened, filesystems, joined⟩ :=
    joined_of_created own honest selects created configured
  have same : fs = fs' := by
    have there := opened.found
    rw [← filesystems] at there
    exact Option.some.inj (found.symm.trans there)
  subst same
  -- A policy that the filesystem was attached to before is as configured.
  have kept : ∀ earlier, w.cluster.policies.find?
      (groupKey (projectSession cfg share.projectId) group level) = some earlier →
      fs.uid ∈ earlier.val.attached →
      levelIps levels level ≠ [] ∧ SameCidrs earlier.val.ips (levelIps levels level) :=
    fun earlier before member => (current levels configured level earlier before).2 fs
      (opened.attached below before member) member
  rcases joined with ⟨wekafs, joined⟩ | ⟨_, policies⟩
  · by_cases some' : levelIps levels level ≠ []
    · obtain ⟨entry, there, join⟩ := joined.joined level some'
      cases there.symm.trans found'
      rw [opened.policies] at join
      refine ⟨some', ?_⟩
      cases before : w.cluster.policies.find?
          (groupKey (projectSession cfg share.projectId) group level) with
      | none =>
          rw [join.ips, before]
          exact fun _ => Iff.rfl
      | some earlier =>
          rw [join.ips, before]
          exact (current levels configured level earlier before).1 wekafs some'
    · have before := joined.skipped level (not_not.mp some')
      rw [opened.policies] at before
      exact kept policy (before.symm.trans found') attached
  · have before : w.cluster.policies.find?
        (groupKey (projectSession cfg share.projectId) group level) = some policy := by
      rw [← opened.policies, ← policies]
      exact found'
    exact kept policy before attached

/-- A share that gets what is configured found current policies, if its type was read. -/
theorem GroupCreation.Follows.current (readable : ∀ u op error, ReadsType op → ¬ fault u op error)
    (follows : GroupCreation.Follows ⟨cfg, share, group, w, t⟩) :
    GroupCreation.Current ⟨cfg, share, group, w, t⟩ := by
  intro levels configured level policy before
  change w.cluster.policies.find? (groupKey (projectSession cfg share.projectId) group level) =
    some policy at before
  obtain ⟨fs, u, opened, filesystems, joined⟩ :=
    joined_of_created own honest selects created configured
  have found : t.cluster.filesystems.find? (shareKey cfg share) = some fs := by
    rw [filesystems]
    exact opened.found
  -- What holds of a policy attached afterwards held before.
  have same : ∀ fs', w.cluster.filesystems.find? (shareKey cfg share) = some fs' → fs' = fs := by
    intro fs' there
    rcases opened.origin with there' | ⟨free, _⟩
    · exact Option.some.inj (there.symm.trans there')
    · cases free.symm.trans there
  have carried : ∀ entry, t.cluster.policies.find?
      (groupKey (projectSession cfg share.projectId) group level) = some entry →
      entry.val.ips = policy.val.ips → fs.uid ∈ entry.val.attached →
      levelIps levels level ≠ [] ∧ SameCidrs policy.val.ips (levelIps levels level) := by
    intro entry there ips attached
    rw [← ips]
    exact follows levels configured fs found level entry there attached
  rcases joined with ⟨wekafs, joined⟩ | ⟨failed, policies⟩
  · by_cases some' : levelIps levels level ≠ []
    · obtain ⟨entry, there, join⟩ := joined.joined level some'
      have ips : entry.val.ips = policy.val.ips := by
        rw [join.ips, opened.policies, before]
        rfl
      exact ⟨fun _ _ => (carried entry there ips join.attached).2, fun _ _ _ =>
        carried entry there ips join.attached⟩
    · refine ⟨fun _ granted => absurd granted some', fun fs' there attached => ?_⟩
      rw [same fs' there] at attached
      have after := joined.skipped level (not_not.mp some')
      rw [opened.policies] at after
      exact carried policy (after.trans before) rfl attached
  · refine ⟨fun wekafs _ => ?_, fun fs' there attached => ?_⟩
    · obtain ⟨op, error, reads, raised⟩ := failed wekafs
      exact absurd raised (readable u op error reads)
    · rw [same fs' there] at attached
      have after : t.cluster.policies.find?
          (groupKey (projectSession cfg share.projectId) group level) = some policy := by
        rw [policies, opened.policies]
        exact before
      exact carried policy after rfl attached

end Creation

/-! ## Runs -/

/-- In all lifetimes the sessions stay isolated and policies are attached to issued filesystems. -/
theorem GroupLifetimes.kept (below : AttachedBelow start)
    (run : GroupLifetimes base fault projectId start cfg w log) :
    Isolated cfg (fun _ => True) w ∧ AttachedBelow w := by
  have fresh (cfg : Config) (w : World) : Isolated cfg (fun _ => True) (restarted w) :=
    fun _ _ cached => by cases cached
  induction run with
  | first option => exact ⟨fresh _ _, below⟩
  | restart option _ kept => exact ⟨fresh _ _, kept.2⟩
  | retyped types _ kept => exact kept
  | create _ project selects created kept =>
      exact ⟨(obeys_createShare (fun _ => trivial) (served_of_created created)).restored kept.1
        created, kept.2.created (kept.1.ownSession _) created⟩

/-- Whatever the option was in the lifetimes before, a share that is created gets the
policies that the configuration says if the policies of its group are current. It gets
other ones if they are not, as long as its type can be read. -/
theorem group_policies_follow (honest : Honest fault) (below : AttachedBelow start)
    (run : GroupLifetimes base fault projectId start cfg w log) :
    (∀ creation ∈ log, creation.Current → creation.Follows) ∧
      ((∀ u op error, ReadsType op → ¬ fault u op error) →
        ∀ creation ∈ log, creation.Follows → creation.Current) := by
  induction run with
  | first option => exact ⟨List.forall_mem_nil _, fun _ => List.forall_mem_nil _⟩
  | restart option _ ih => exact ih
  | retyped types _ ih => exact ih
  | create lived project selects created ih =>
      obtain ⟨isolated, below'⟩ := lived.kept below
      refine ⟨fun creation member current => ?_, fun readable creation member follows => ?_⟩
      · rcases List.mem_cons.mp member with rfl | earlier
        · exact current.follows (isolated.ownSession _) honest selects created below'
        · exact ih.1 creation earlier current
      · rcases List.mem_cons.mp member with rfl | earlier
        · exact follows.current (isolated.ownSession _) honest selects created readable
        · exact ih.2 readable creation earlier follows

section Sample

/-- The driver with the addresses of the group narrowed. -/
def editedConfig : Config :=
  { groupConfig with securityPolicyGroup := some "gold:rw:10.0.0.0/25" }

/-- Another share of the group. -/
def editedShare : Share := { groupShare with id := "8f000000-0000-4000-8000-000000000008" }

/-- The first share of the group, created before the option is edited. -/
def firstCreation : GroupCreation where
  cfg := groupConfig
  share := groupShare
  group := "gold"
  before := restarted groupWorld
  after := ((createShare groupConfig groupShare).run respond (restarted groupWorld)).2

/-- The other share, created after the option is edited. -/
def editedCreation : GroupCreation where
  cfg := editedConfig
  share := editedShare
  group := "gold"
  before := restarted firstCreation.after
  after := ((createShare editedConfig editedShare).run respond (restarted firstCreation.after)).2

private theorem editedRun : GroupLifetimes groupConfig noFaults (some "p1") groupWorld editedConfig
    editedCreation.after [editedCreation, firstCreation] := by
  have selects : ∀ w : World, w.host.shareTypes = groupWorld.host.shareTypes →
      ∀ share : Share, share.shareTypeId = some "t1" → SelectsGroup share "gold" w := by
    intro w types share typed
    refine ⟨"t1", [(policyGroupSpec, "gold")], by rw [typed]; decide, by rw [types]; decide,
      by decide⟩
  have first : GroupLifetimes groupConfig noFaults (some "p1") groupWorld groupConfig
      firstCreation.after [firstCreation] :=
    .create (.first groupConfig.securityPolicyGroup) rfl (selects _ rfl _ rfl) (exec_run _ _)
  exact .create (.restart editedConfig.securityPolicyGroup first) rfl (selects _ rfl _ rfl)
    (exec_run _ _)

private theorem groupWorld_attachedBelow :
    AttachedBelow groupWorld := fun _ member => by cases member

private theorem firstCreation_current : firstCreation.Current := by
  intro levels _ level policy found
  cases level <;> cases found

/-- In this run the first share gets what is configured. -/
theorem group_policies_follow_sample : firstCreation.Follows :=
  (group_policies_follow honest_noFaults groupWorld_attachedBelow editedRun).1 firstCreation
    (List.mem_cons_of_mem _ (List.mem_singleton_self _)) firstCreation_current

/-- The share created after the option is edited gets the addresses of before. -/
theorem edited_group_keeps_addresses :
    GroupLifetimes groupConfig noFaults (some "p1") groupWorld editedConfig editedCreation.after
        [editedCreation, firstCreation] ∧
      ¬ ∀ creation ∈ [editedCreation, firstCreation], creation.Follows := by
  refine ⟨editedRun, fun follows => ?_⟩
  have attached : ∃ fs policy,
      editedCreation.after.cluster.filesystems.find? (shareKey editedConfig editedShare) =
        some fs ∧
      editedCreation.after.cluster.policies.find? (editedCreation.policyKey .rw) = some policy ∧
      fs.uid ∈ policy.val.attached ∧ policy.val.ips = ["10.0.0.0/24"] :=
    ⟨_, _, rfl, rfl, by decide, by decide⟩
  obtain ⟨fs, policy, found, found', member, ips⟩ := attached
  have same := (follows editedCreation List.mem_cons_self [(.rw, ["10.0.0.0/25"])] (by decide)
    fs found .rw policy found' member).2
  rw [ips] at same
  exact absurd ((same "10.0.0.0/24").mp (by decide)) (by decide)

end Sample

end WekaShareDriver
