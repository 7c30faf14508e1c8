import WekaShareDriver.Access.Runs
import WekaShareDriver.Foundation.Tracks
import WekaShareDriver.Requests
import WekaShareDriver.ShareCreation
import WekaShareDriver.TenantUses

/-! # Creates whose response is lost

A create whose response is lost is sent again and refused with a conflict it caused
itself. Where the driver takes a conflict for success, or looks the object up, it
goes on as if nothing happened; the creation of a client group, an NFS permission, a
security policy and a snapshot it does not recover from
(`WekaShareDriver.creates_repeatable_iff`).
-/

namespace WekaShareDriver

open Foundation Program

/-- The creates whose conflict no caller recovers from. -/
def Request.unrecovered : Request → Bool
  | .createClientGroup _ => true
  | .createNfsPermission .. => true
  | .createSecurityPolicy .. => true
  | .createSnapshot .. => true
  | _ => false

/-- The response to a create that is not recovered from is not lost. -/
def NotLost (losing : World → Op → Prop) (u : World) (op : Op) (_ : World) : Prop :=
  ∀ session request, op = .api session request → request.unrecovered = true →
    CreateExecuted op u → ¬ losing u op

/-- The operations that create something for Manila. A rule is applied as an update
of the share's access that adds it. -/
inductive CreateCall where
  | createShare (share : Share)
  | createSnapshot (snapshot : ShareSnapshot)
  | applyRule (share : Share) (accessRules : List AccessRule) (rule : AccessRule)

namespace CreateCall

@[reducible] def Result : CreateCall → Type
  | .createShare _ => List ExportLocation
  | .createSnapshot _ => Unit
  | .applyRule .. => RuleStates

/-- What the driver does for an operation. -/
def program (cfg : Config) : (call : CreateCall) → Driver call.Result
  | .createShare share => WekaShareDriver.createShare cfg share
  | .createSnapshot snapshot => WekaShareDriver.createSnapshot cfg snapshot
  | .applyRule share accessRules rule =>
      AccessUpdate.program cfg share ⟨accessRules, [rule], [], []⟩

end CreateCall

/-- Over a network that loses no response to a create that is not recovered from, a
program runs as over a network that loses none. -/
def Recovers (maxRetries : Nat) (losing : World → Op → Prop) {α : Type} (program : Driver α) :
    Prop :=
  Tracks reliable (lossy maxRetries losing) (NotLost losing) program

/-- An operation that creates nothing, or what is not recovered from. -/
def PlainOp : Op → Prop
  | .api _ request => request.isCreate = true → request.unrecovered = true
  | _ => True

variable {cfg : Config} {share : Share} {maxRetries : Nat} {losing : World → Op → Prop}
  {session : Session}

/-! ## Going on as if nothing was lost -/

section Recovering

variable (retried : 1 ≤ maxRetries)

include retried

/-- What a network without losses does one with losses may do. -/
theorem lossy_of_reliable {w t : World} {op : Op} {answer : Except Error op.Res}
    (answered : reliable w op answer t) : lossy maxRetries losing w op answer t := by
  rcases answered with equal | ⟨_, impossible, _⟩
  · cases op with
    | api session request => exact (lossy_iff retried).mpr (Or.inl equal)
    | _ => exact equal
  · exact impossible.elim

private theorem recovers_of_uses {α : Type} {program : Driver α} (uses : program.Uses PlainOp) :
    Recovers maxRetries losing program := by
  apply Tracks.of_uses uses
  intro s op answer t plain answered guaranteed
  cases op with
  | api session request =>
      rcases (lossy_iff retried).mp answered with equal | ⟨loses, executed, -, -⟩
      · exact Or.inl equal
      · obtain ⟨_, _, same, creates, _⟩ := id executed
        cases same
        have kept := guaranteed _ _ (Or.inl rfl) _ _ rfl (plain creates) executed
        exact absurd loses kept
  | _ => exact Or.inl answered

private theorem recovers_send {request : Request}
    (plain : request.isCreate = true → request.unrecovered = true) :
    Recovers maxRetries losing (send session request) :=
  recovers_of_uses retried (uses_perform plain)

private theorem recovers_onHost (call : HostCall) : Recovers maxRetries losing (onHost call) :=
  recovers_of_uses retried (uses_perform trivial)

/-- What takes the conflict of a create for its success. -/
theorem recovers_create {α : Type} {request : Request} {rest : request.Reply → Driver α}
    {handler : Error → Driver α} {value : α} (completes : ∀ reply, rest reply = pure value)
    (tolerates : ∀ reason, handler (.api (.conflict reason)) = pure value)
    (handled : ∀ error, Recovers maxRetries losing (handler error)) :
    Recovers maxRetries losing (tryCatch (send session request >>= rest) handler) := by
  intro s holds outcome u run
  have sent {answer : Except Error request.Reply} {t : World}
      (replied : respond (.api session request) s = (answer, t)) :
      Exec reliable (send session request) s answer t :=
    .perform (Or.inl replied)
  have succeeded {reply : request.Reply} {t : World}
      (replied : respond (.api session request) s = (.ok reply, t)) :
      Exec reliable (send session request >>= rest) s (.ok value) t := by
    refine (sent replied).bind ?_
    rw [completes]
    exact .ret _ _
  rcases run.of_tryCatch with ⟨value', rfl, first⟩ | ⟨error, t, first, second⟩
  · rcases first.of_bind with ⟨reply, t, sending, returning⟩ | ⟨_, impossible, _⟩
    · rw [completes] at returning
      cases returning
      rcases (lossy_iff retried).mp sending.of_perform with replied | ⟨-, -, -, reason, impossible⟩
      · exact (succeeded replied).tryCatch_ok
      · cases impossible
    · cases impossible
  · rcases first.of_bind with ⟨reply, _, _, returning⟩ | ⟨_, same, sending⟩
    · rw [completes] at returning
      cases returning
    · cases same
      rcases (lossy_iff retried).mp sending.of_perform with replied | ⟨-, executed, rfl, reason, same⟩
      · have failed : Exec reliable (send session request >>= rest) s (.error error) t :=
          (sent replied).bind_error
        rw [wp_tryCatch] at holds
        exact failed.tryCatch_error (handled error t (failed.post holds) _ _ second)
      · cases same
        rw [tolerates] at second
        cases second
        obtain ⟨_, _, same, _, reply, replied⟩ := executed
        cases same
        exact (succeeded (Prod.ext replied rfl)).tryCatch_ok

omit retried in
/-- A filesystem that was created is found under its name. -/
theorem find?_created {w t : World} {fsName groupName : String} {sizeBytes : Nat}
    {authRequired : Bool} {reply : Entry Filesystem}
    (created : respond (.api session (.createFilesystem fsName groupName sizeBytes authRequired)) w =
      (.ok reply, t)) : t.cluster.filesystems.find? (session, fsName) = some reply := by
  cases found : w.cluster.filesystems.find? (session, fsName) with
  | some existing =>
      have taken : w.cluster.filesystems.find? (Keyed.key
        (newFilesystem session fsName groupName sizeBytes authRequired)) = some existing := found
      simp only [respond, Cluster.answer, Cluster.create, taken] at created
      cases created
  | none =>
      have free : w.cluster.filesystems.find? (Keyed.key
        (newFilesystem session fsName groupName sizeBytes authRequired)) = none := found
      have key : (session, fsName) = Keyed.key
        (newFilesystem session fsName groupName sizeBytes authRequired) := rfl
      rw [respond, answer_createFilesystem_free found] at created
      cases created
      dsimp only
      rw [Registry.find?_insert _ _ free, key, Function.update_self]

omit retried in
/-- Where creating a filesystem fails, it is at most looked up again, and so it is
after a conflict. -/
theorem createFilesystemIdempotent_shape (session : Session) (fsName groupName : String)
    (sizeBytes : Nat) (authRequired : Bool) : ∃ handler : Error → Driver (Entry Filesystem),
    createFilesystemIdempotent session fsName groupName sizeBytes authRequired =
      (getFilesystemByName session fsName >>= fun
        | some existing => pure existing
        | none => tryCatch
            (send session (.createFilesystem fsName groupName sizeBytes authRequired)) handler) ∧
    (∀ error, (handler error).Uses (· = .api session .listFilesystems)) ∧
    ∀ reason, handler (.api (.conflict reason)) = (getFilesystemByName session fsName >>= fun
        | some fs => pure fs
        | none => throw (.api (.conflict reason))) := by
  refine ⟨_, rfl, fun error => ?_, fun reason => rfl⟩
  cases error with
  | api error =>
      refine .ite (fun _ => .bind (.bind (uses_perform rfl) fun _ => trivial) fun found => ?_)
        fun _ => trivial
      cases found <;> trivial
  | _ => trivial

/-- A filesystem whose creation was lost is found by its name. -/
theorem recovers_createFilesystemIdempotent (fsName groupName : String) (sizeBytes : Nat)
    (authRequired : Bool) : Recovers maxRetries losing
      (createFilesystemIdempotent session fsName groupName sizeBytes authRequired) := by
  obtain ⟨handler, shape, uses, afterConflict⟩ :=
    createFilesystemIdempotent_shape session fsName groupName sizeBytes authRequired
  have lists {α : Type} {program : Driver α}
      (uses : program.Uses (· = .api session .listFilesystems)) :
      Recovers maxRetries losing program := by
    apply recovers_of_uses retried
    refine uses.mono ?_
    rintro _ rfl
    exact Bool.noConfusion
  rw [shape]
  have lookup : (getFilesystemByName session fsName).Uses (· = .api session .listFilesystems) :=
    .bind (uses_perform rfl) fun _ => trivial
  apply Tracks.bind (lists lookup)
  intro found
  cases found with
  | some existing => exact .pure _
  | none =>
      intro s holds outcome u run
      have sent {answer : Except Error (Entry Filesystem)} {t : World}
          (replied : respond (.api session (.createFilesystem fsName groupName sizeBytes
            authRequired)) s = (answer, t)) :
          Exec reliable (send session (.createFilesystem fsName groupName sizeBytes authRequired)) s
            answer t :=
        .perform (Or.inl replied)
      rcases run.of_tryCatch with ⟨fs, rfl, first⟩ | ⟨error, t, first, second⟩
      · rcases (lossy_iff retried).mp first.of_perform with replied | ⟨-, -, -, _, impossible⟩
        · exact (sent replied).tryCatch_ok
        · cases impossible
      · have followed : Exec reliable (handler error) t outcome u := by
          refine lists (uses error) t (wp_of_free ((uses error).mono ?_)) _ _ second
          rintro _ rfl _ _ _ _ same creates
          cases same
          cases creates
        rcases (lossy_iff retried).mp first.of_perform with replied | ⟨-, executed, rfl, reason, same⟩
        · exact (sent replied).tryCatch_error followed
        · cases same
          obtain ⟨_, _, same, _, reply, replied⟩ := executed
          cases same
          have created := find?_created (Prod.ext replied rfl)
          rw [afterConflict] at followed
          have found : (getFilesystemByName session fsName >>= fun
              | some fs => pure fs
              | none => throw (.api (.conflict reason)) : Driver (Entry Filesystem)).wp reliable
                (fun _ _ _ => True) (fun outcome v => outcome = .ok reply ∧
                  v = (respond (.api session (.createFilesystem fsName groupName sizeBytes
                    authRequired)) s).2)
                (respond (.api session (.createFilesystem fsName groupName sizeBytes
                  authRequired)) s).2 := by
            rw [wp_bind]
            refine wp_getFilesystemByName trivial ?_ fun _ impossible => impossible.elim
            rw [onOk_ok, created]
            exact ⟨rfl, rfl⟩
          obtain ⟨rfl, rfl⟩ := followed.post found
          exact (sent (Prod.ext replied rfl)).tryCatch_ok

omit retried in
private theorem plain_of_host {op : Op} (host : HostOp op) : PlainOp op := by
  cases op with
  | api session request => exact host.elim
  | _ => trivial

/-- Looking a filesystem up runs as without losses. -/
theorem recovers_getFilesystemByName (name : String) :
    Recovers maxRetries losing (getFilesystemByName session name) :=
  .bind (recovers_send retried Bool.noConfusion) fun _ => .pure _

private theorem recovers_getSecurityPolicyByName (name : String) :
    Recovers maxRetries losing (getSecurityPolicyByName session name) :=
  .bind (recovers_send retried Bool.noConfusion) fun _ => .pure _

/-! ### Sessions -/

private theorem recovers_ensureOrg (projectId : Option String) :
    Recovers maxRetries losing (ensureOrg cfg projectId) := by
  apply Tracks.bind (.bind (recovers_send retried Bool.noConfusion) fun _ => .pure _)
  intro found
  cases found with
  | some org => exact .pure _
  | none =>
      apply recovers_create retried (fun _ => rfl) (fun _ => rfl)
      intro error
      cases error with
      | api error => exact .ite (fun _ => .pure _) fun _ => .throw _
      | _ => exact .throw _

/-- Opening a project's session runs as without losses. -/
theorem recovers_orgClient (projectId : Option String) :
    Recovers maxRetries losing (orgClient cfg projectId) := by
  apply Tracks.ite (fun _ => .throw _)
  intro project
  apply Tracks.bind (recovers_onHost retried _)
  intro cached
  cases cached with
  | some session => exact .pure _
  | none =>
      have login (org username password : String) :
          Recovers maxRetries losing (login org username password) :=
        recovers_of_uses retried (uses_perform trivial)
      exact .bind (recovers_ensureOrg retried projectId) fun _ => .bind (login _ _ _) fun _ =>
        .bind (recovers_onHost retried _) fun _ => .pure _

private theorem recovers_clientForShare : Recovers maxRetries losing (clientForShare cfg share) :=
  .ite (fun _ => recovers_orgClient retried _) fun _ => .pure _

/-! ### Policies -/

private theorem recovers_attachPolicy (fsUid policyUid : Uid) :
    Recovers maxRetries losing (attachPolicy session fsUid policyUid) := by
  unfold attachPolicy
  rw [← bind_pure (send session (.attachFsSecurityPolicy fsUid policyUid))]
  exact recovers_create retried (fun _ => rfl) (fun _ => rfl) fun _ =>
    .ite (fun _ => .pure _) fun _ => .throw _

private theorem recovers_ensureGroupPolicy (fsUid : Uid) (group : String) (level : Level)
    (ips : List String) :
    Recovers maxRetries losing (ensureGroupPolicy session fsUid group level ips) := by
  apply Tracks.ite _ fun _ => .pure _
  intro some'
  apply Tracks.bind (recovers_getSecurityPolicyByName retried _)
  intro found
  cases found with
  | some policy => exact recovers_attachPolicy retried _ _
  | none =>
      exact .bind (recovers_send retried fun _ => rfl) fun _ => recovers_attachPolicy retried _ _

/-- Reading the group of a share type runs as without losses. -/
theorem recovers_sharePolicyGroup : Recovers maxRetries losing (sharePolicyGroup share) :=
  recovers_of_uses retried (uses_sharePolicyGroup.mono fun _ => plain_of_host)

private theorem recovers_ensureGroupPolicies (fsUid : Uid) :
    Recovers maxRetries losing (ensureGroupPolicies cfg share fsUid) := by
  apply Tracks.bind (recovers_sharePolicyGroup retried)
  intro selected
  cases selected with
  | none => exact .pure _
  | some group =>
      dsimp only
      cases (cfg.policyGroups.get? group).filter (· ≠ []) with
      | none => exact .pure _
      | some levels =>
          exact .bind (recovers_orgClient retried _) fun session =>
            .bind (recovers_ensureGroupPolicy retried _ _ _ _) fun _ =>
              recovers_ensureGroupPolicy retried _ _ _ _

/-- Creating a share runs as without losses. -/
theorem recovers_createShare : Recovers maxRetries losing (createShare cfg share) := by
  have create : Recovers maxRetries losing (do
      let session ← clientForShare cfg share
      let fs ← createFilesystemIdempotent session (cfg.shareName share.id) cfg.filesystemGroup
        (gbToBytes share.size) (isIsolatedWekafs share)
      if isIsolatedWekafs share then
        ensureGroupPolicies cfg share fs.uid
      return buildExportLocations cfg share (cfg.shareName share.id) (some fs.uid)
        share.shareProto) :=
    .bind (recovers_clientForShare retried) fun session =>
      .bind (recovers_createFilesystemIdempotent retried _ _ _ _) fun fs =>
        .ite (fun _ => .bind (recovers_ensureGroupPolicies retried _) fun _ => .pure _)
          fun _ => .pure _
  unfold createShare
  cases protocol : share.shareProto with
  | other name => exact .throw _
  | _ =>
      rw [protocol] at create
      exact create

/-! ### Snapshots -/

private theorem recovers_getFsUidForShare :
    Recovers maxRetries losing (getFsUidForShare cfg session share) := by
  apply recovers_of_uses retried
  refine lists_getFsUidForShare.mono ?_
  rintro _ rfl
  exact Bool.noConfusion

/-- Creating a snapshot runs as without losses, where no response to its own request is lost. -/
theorem recovers_createSnapshot (snapshot : ShareSnapshot) :
    Recovers maxRetries losing (createSnapshot cfg snapshot) :=
  .bind (recovers_clientForShare retried) fun _ => .bind (recovers_getFsUidForShare retried) fun _ =>
    .bind (recovers_send retried fun _ => rfl) fun _ => .pure _

/-! ### Access rules -/

/-- Making the mount user runs as without losses. -/
theorem recovers_ensureMountUser (password : String) :
    Recovers maxRetries losing (ensureMountUser cfg session password) := by
  unfold ensureMountUser
  rw [← bind_pure (send session (.createUser cfg.orgMountUser "Regular" password))]
  exact recovers_create retried (fun _ => rfl) (fun _ => rfl) fun _ =>
    .ite (fun _ => .pure _) fun _ => .throw _

private theorem recovers_tolerating {request : Request} {tolerated : Error → Bool}
    (plain : request.isCreate = true → request.unrecovered = true) {value : request.Reply} :
    Recovers maxRetries losing (tryCatch (send session request) fun error =>
      if tolerated error then pure value else throw error) :=
  .tryCatch (recovers_send retried plain) fun _ => .ite (fun _ => .pure _) fun _ => .throw _

private theorem recovers_retirePolicy (fsUid : Option Uid) (policyUid : Uid) :
    Recovers maxRetries losing (retirePolicy session fsUid policyUid) := by
  have delete : Recovers maxRetries losing
      (tryCatch (send session (.deleteSecurityPolicy policyUid)) fun error =>
        if isNotFound error then pure () else throw error) :=
    recovers_tolerating retried Bool.noConfusion
  cases fsUid with
  | none => exact delete
  | some fsUid => exact .bind (recovers_tolerating retried Bool.noConfusion) fun _ => delete

private theorem recovers_policySetIp (fsUid : Option Uid) (level : Level) (ip : String)
    (present : Bool) :
    Recovers maxRetries losing (policySetIp session share fsUid level ip present) := by
  apply Tracks.bind (recovers_getSecurityPolicyByName retried _)
  intro found
  apply Tracks.ite
  · intro isPresent
    apply Tracks.bind
    · cases found with
      | none => exact .bind (recovers_send retried fun _ => rfl) fun _ => .pure _
      | some policy =>
          exact .ite (fun _ => .bind (recovers_tolerating retried Bool.noConfusion) fun _ => .pure _)
            fun _ => .pure _
    · intro policyUid
      cases fsUid with
      | none => exact .pure _
      | some fsUid => exact recovers_attachPolicy retried _ _
  · intro isAbsent
    cases found with
    | none => exact .pure _
    | some policy =>
        apply Tracks.bind
        · exact .ite (fun _ => .bind (recovers_tolerating retried Bool.noConfusion) fun _ => .pure _)
            fun _ => .pure _
        · intro current
          exact .ite (fun _ => recovers_retirePolicy retried fsUid policy.uid) fun _ => .pure _

/-- Applying a WEKAFS rule runs as without losses. -/
theorem recovers_addWekafsRule (fsUid : Option Uid) (mountPassword : String) (states : RuleStates)
    (rule : AccessRule) :
    Recovers maxRetries losing (addWekafsRule session share fsUid mountPassword states rule) := by
  apply Tracks.ite (fun _ => .pure _)
  intro isIp
  apply Tracks.ite (fun _ => .pure _)
  intro isIpv4
  apply Tracks.tryCatch _ fun _ => .pure _
  apply Tracks.bind _ fun _ => .pure _
  exact .bind (recovers_of_uses retried (uses_liftExcept _)) fun ip =>
    .bind (recovers_policySetIp retried _ _ _ _) fun _ => recovers_policySetIp retried _ _ _ _

private theorem recovers_getClientGroupByName (name : String) :
    Recovers maxRetries losing (getClientGroupByName name) :=
  .bind (recovers_send retried Bool.noConfusion) fun _ => .pure _

private theorem recovers_ensureClientGroup (cgName : String) :
    Recovers maxRetries losing (ensureClientGroup cgName) := by
  apply Tracks.bind (recovers_getClientGroupByName retried _)
  intro found
  cases found with
  | none => exact .bind (recovers_send retried fun _ => rfl) fun _ => .pure _
  | some group => exact .bind (recovers_send retried Bool.noConfusion) fun _ => .pure _

private theorem recovers_ensureGroupRule (groupUid : Uid) (wekaIp : String)
    (existing : List String) :
    Recovers maxRetries losing (ensureGroupRule groupUid wekaIp existing) :=
  .ite (fun _ => recovers_create retried (fun _ => rfl) (fun _ => rfl) fun _ =>
    .ite (fun _ => .pure _) fun _ => .throw _) fun _ => .pure _

private theorem recovers_ensureNfsPermission (fsName cgName : String) (type : PermissionType) :
    Recovers maxRetries losing (ensureNfsPermission fsName cgName type) := by
  apply Tracks.bind (.bind (recovers_send retried Bool.noConfusion) fun _ => .pure _)
  intro found
  have create : Recovers maxRetries losing (do
      let _ ← send .admin (.createNfsPermission cgName fsName "/" type false)) :=
    .bind (recovers_send retried fun _ => rfl) fun _ => .pure _
  cases found with
  | none => exact create
  | some perm =>
      exact .ite (fun _ => .bind (recovers_send retried Bool.noConfusion) fun _ => create)
        fun _ => .pure _

/-- Applying an NFS rule runs as without losses. -/
theorem recovers_addNfsRule (fsName : String) (states : RuleStates) (rule : AccessRule) :
    Recovers maxRetries losing (addNfsRule share fsName states rule) := by
  apply Tracks.ite (fun _ => .pure _)
  intro isIp
  apply Tracks.ite (fun _ => .pure _)
  intro isIpv4
  apply Tracks.tryCatch _ fun _ => .pure _
  apply Tracks.bind _ fun _ => .pure _
  unfold applyNfsRule
  cases cidrToWekaIp rule.accessTo with
  | error error => exact .throw _
  | ok wekaIp =>
      exact .bind (recovers_ensureClientGroup retried _) fun _ =>
        .bind (recovers_ensureGroupRule retried _ _ _) fun _ =>
          recovers_ensureNfsPermission retried _ _ _

end Recovering

/-! ## One rule -/

/-- Adding one NFS rule is applying it. -/
theorem updateNfsAccess_single (rule : AccessRule) :
    updateNfsAccess cfg share [rule] [] false = addNfsRule share (cfg.shareName share.id) [] rule := by
  unfold updateNfsAccess
  simp only [List.foldlM_cons, List.foldlM_nil, bind_pure]
  exact bind_pure _

/-- Adding one WEKAFS rule is applying it. -/
theorem updateWekafsPolicies_single (fsUid : Option Uid) (mountPassword : String)
    (rule : AccessRule) :
    updateWekafsPolicies session share fsUid mountPassword [rule] [] false =
      addWekafsRule session share fsUid mountPassword [] rule := by
  unfold updateWekafsPolicies
  simp only [List.foldlM_cons, List.foldlM_nil, bind_pure]
  exact bind_pure _

end WekaShareDriver
