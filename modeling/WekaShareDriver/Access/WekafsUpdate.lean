import WekaShareDriver.Access.WekafsSync
import WekaShareDriver.FilesystemSpec
import WekaShareDriver.SessionSpec

/-! # Updating the access of a WEKAFS share

A share is ready for an update when its project's session can be opened, its
filesystem exists and its type selects no policy group
(`WekaShareDriver.WekafsReady`). Every update keeps it ready, whatever fails, and
what an update does to the share's policies is what its batch does
(`WekaShareDriver.wp_updateWekafsAccess`).
-/

namespace WekaShareDriver

open Foundation Program

/-- The type of a share selects no policy group. -/
def NoPolicyGroup (share : Share) (w : World) : Prop :=
  ∀ typeId specs, share.shareTypeId = some typeId → w.host.shareTypes.get? typeId = some specs →
    (Dict.get? specs policyGroupSpec).filter (· ≠ "") = none

/-- A WEKAFS share without a policy group whose session can be opened and whose
filesystem exists. -/
structure WekafsReady (cfg : Config) (share : Share) (fsUid : Uid) (w : World) : Prop where
  protocol : share.shareProto = .wekafs
  project : hasProject share.projectId = true
  sessions : ∀ session, w.host.orgClients.get? (share.projectId.getD "") = some session →
    session = projectSession cfg share.projectId
  login : LoginAccepted cfg share.projectId w
  filesystem : ∃ entry, w.cluster.filesystems.find?
    (projectSession cfg share.projectId, cfg.shareName share.id) = some entry ∧ entry.uid = fsUid
  ungrouped : NoPolicyGroup share w

/-- The share's policies as its filesystem sees them through its project's
session. -/
abbrev sharePolicies (cfg : Config) (share : Share) (fsUid : Uid) (w : World) :
    PolicyState String :=
  policyState (projectSession cfg share.projectId) share fsUid w

variable {cfg : Config} {share : Share} {fsUid : Uid} {fault : Fault} {w t : World}
  {addRules deleteRules : List AccessRule} {fullSync : Bool}

/-- A share stays ready when its project's session is opened. -/
theorem WekafsReady.prepared (ready : WekafsReady cfg share fsUid w)
    (prepared : Prepared cfg share.projectId w t) : WekafsReady cfg share fsUid t := by
  refine ⟨ready.protocol, ready.project, ?_, ready.login.prepared prepared, ?_, ?_⟩
  · intro session cached
    rcases prepared.orgClients with same | put
    · rw [same] at cached
      exact ready.sessions session cached
    · rw [put, Dict.get?_assign_self, Option.some.injEq] at cached
      exact cached.symm
  · rw [prepared.cluster]
    exact ready.filesystem
  · unfold NoPolicyGroup
    rw [prepared.host]
    exact ready.ungrouped

/-- A share is ready whatever the users are. -/
theorem WekafsReady.users (ready : WekafsReady cfg share fsUid w) (users : Registry User) :
    WekafsReady cfg share fsUid { w with cluster := { w.cluster with users } } :=
  ⟨ready.protocol, ready.project, ready.sessions, ready.login, ready.filesystem, ready.ungrouped⟩

/-- Opening the project's session leaves the share's policies. -/
theorem Prepared.policies (prepared : Prepared cfg share.projectId w t) :
    sharePolicies cfg share fsUid t = sharePolicies cfg share fsUid w := by
  unfold sharePolicies policyState
  rw [prepared.cluster]

/-- Creating the mount user changes nothing but users, and fails by a fault
only. -/
theorem wp_ensureMountUser {session : Session} {password : String} (passed : World → Prop)
    (here : passed w)
    (created : ∀ users, passed { w with cluster := { w.cluster with users } }) :
    (ensureMountUser cfg session password).wp (service fault) (passing passed)
      (ending
        (fun _ t => ∃ users, t = { w with cluster := { w.cluster with users } })
        (fun _ t => Possible fault ∧ t = w)) w := by
  unfold ensureMountUser
  rw [wp_tryCatch, onError_ending, wp_send]
  refine ⟨?_, fun error raised => ⟨here, ?_⟩⟩
  · cases taken : w.cluster.users.find?
        (Keyed.key (⟨session, cfg.orgMountUser, "Regular", password⟩ : User)) with
    | some entry =>
        simp only [Cluster.answer, Cluster.create, taken, Except.map, asRaised]
        exact ⟨here, w.cluster.users, rfl⟩
    | none =>
        simp only [Cluster.answer, Cluster.create, taken, Except.map, asRaised]
        exact ⟨created _, _, rfl⟩
  · rw [ending_error, wp_ite]
    split
    · exact ⟨w.cluster.users, rfl⟩
    · exact ⟨⟨w, _, error, raised⟩, rfl⟩

/-- A share without a policy group is seen to have none. -/
theorem wp_sharePolicyGroup {guarantee : World → Op → World → Prop}
    (guaranteed : ∀ op, guarantee w op w) (ungrouped : NoPolicyGroup share w)
    {post : Except Error (Option String) → World → Prop} (none' : post (.ok none) w) :
    (sharePolicyGroup share).wp (service fault) guarantee post w := by
  unfold sharePolicyGroup
  cases typed : share.shareTypeId.filter (· ≠ "") with
  | none => exact none'
  | some typeId =>
      have selected : share.shareTypeId = some typeId := (Option.filter_eq_some_iff.mp typed).1
      dsimp only
      rw [wp_tryCatch, wp_bind, wp_onHost]
      refine ⟨?_, fun error raised => ⟨guaranteed _, none'⟩⟩
      cases specs : w.host.shareTypes.get? typeId with
      | none =>
          simp only [Host.answer, specs]
          exact ⟨guaranteed _, none'⟩
      | some found =>
          simp only [Host.answer, specs]
          refine ⟨guaranteed _, ?_⟩
          rw [onOk_ok, wp_pure, onError_ok, ungrouped typeId found selected specs]
          exact none'

/-- Rules that name no address need no filesystem. -/
theorem updateWekafsPolicies_without_ip {session : Session} {mountPassword : String}
    (idle : ∀ rule ∈ addRules ++ deleteRules, rule.accessType ≠ .ip) :
    updateWekafsPolicies session share none mountPassword addRules deleteRules false =
      updateWekafsPolicies session share (some fsUid) mountPassword addRules deleteRules false := by
  have adds : ∀ (rules : List AccessRule) (states : RuleStates),
      (∀ rule ∈ rules, rule.accessType ≠ .ip) →
        rules.foldlM (addWekafsRule session share none mountPassword) states =
          rules.foldlM (addWekafsRule session share (some fsUid) mountPassword) states := by
    intro rules
    induction rules with
    | nil => exact fun _ _ => rfl
    | cons rule rest ih =>
        intro states others
        have other : rule.accessType ≠ .ip := others rule List.mem_cons_self
        have step : ∀ fsUid, addWekafsRule session share fsUid mountPassword states rule =
            pure (states.assign rule.accessId ⟨.active, some mountPassword⟩) := by
          intro fsUid
          simp only [addWekafsRule, other, ne_eq, not_false_eq_true, ↓reduceIte]
        rw [List.foldlM_cons, List.foldlM_cons, step, step]
        exact congrArg _ (funext fun states => ih states fun rule member =>
          others rule (List.mem_cons_of_mem _ member))
  have deletes : ∀ (rules : List AccessRule), (∀ rule ∈ rules, rule.accessType ≠ .ip) →
      (rules.forM fun rule => (tryCatch (removeWekafsRule session share none rule)
        fun _ => pure () : Driver Unit)) =
      (rules.forM fun rule => (tryCatch (removeWekafsRule session share (some fsUid) rule)
        fun _ => pure () : Driver Unit)) := by
    intro rules
    induction rules with
    | nil => exact fun _ => rfl
    | cons rule rest ih =>
        intro others
        have other : rule.accessType ≠ .ip := others rule List.mem_cons_self
        have step : ∀ fsUid, removeWekafsRule session share fsUid rule = pure () := by
          intro fsUid
          simp only [removeWekafsRule, other, ne_eq, not_false_eq_true, ↓reduceIte]
        change (tryCatch (removeWekafsRule session share none rule) _ >>= fun _ => rest.forM _) =
          (tryCatch (removeWekafsRule session share (some fsUid) rule) _ >>= fun _ => rest.forM _)
        rw [step, step, ih fun rule member => others rule (List.mem_cons_of_mem _ member)]
  unfold updateWekafsPolicies
  rw [adds addRules [] fun rule member => idle rule (List.mem_append_left _ member),
    deletes deleteRules fun rule member => idle rule (List.mem_append_right _ member)]
  rfl

variable (cfg share addRules deleteRules fullSync) in
/-- What an update does before it looks at its rules: it opens the project's session, creates the
mount user, and finds the share's filesystem unless the share has a policy group. -/
def openWekafsAccess : Driver (Session × Option (Option Uid)) := do
  let session ← orgClient cfg share.projectId
  (if addRules ≠ [] then ensureMountUser cfg session (cfg.orgMountPassword share.projectId)
    else pure ())
  match ← sharePolicyGroup share with
  | some _ => return (session, none)
  | none =>
      let fs ← findPolicyFilesystem cfg session share addRules deleteRules fullSync
      return (session, some (fs.map Entry.uid))

variable (cfg share addRules deleteRules fullSync) in
/-- The rest of an update: the rules of a share with a policy group are accepted as they are, those
of another reconcile its policies. -/
def reconcileWekafsAccess (opened : Session × Option (Option Uid)) : Driver RuleStates :=
  match opened.2 with
  | none => return addRules.foldl (fun states rule =>
      states.assign rule.accessId ⟨.active, some (cfg.orgMountPassword share.projectId)⟩) []
  | some fsUid => updateWekafsPolicies opened.1 share fsUid (cfg.orgMountPassword share.projectId)
      addRules deleteRules fullSync

/-- An update is its two parts. -/
theorem updateWekafsAccess_eq : updateWekafsAccess cfg share addRules deleteRules fullSync =
    openWekafsAccess cfg share addRules deleteRules fullSync >>=
      reconcileWekafsAccess cfg share addRules deleteRules fullSync := by
  unfold updateWekafsAccess openWekafsAccess
  simp only [LawfulMonad.bind_assoc]
  refine congrArg (_ >>= ·) (funext fun session => congrArg (_ >>= ·) (funext fun _ =>
    congrArg (_ >>= ·) (funext fun group => ?_)))
  cases group with
  | some group => rfl
  | none =>
      dsimp only
      rw [LawfulMonad.bind_assoc]
      rfl

/-- A ready share is found to have no policy group, and its filesystem is found unless no rule names
an address. -/
theorem wp_openWekafsAccess (ready : WekafsReady cfg share fsUid w)
    (safe : PolicyState String → Prop) (here : safe (sharePolicies cfg share fsUid w)) :
    (openWekafsAccess cfg share addRules deleteRules fullSync).wp (service fault)
      (passing fun u => WekafsReady cfg share fsUid u ∧ safe (sharePolicies cfg share fsUid u))
      (ending
        (fun opened t => (WekafsReady cfg share fsUid t ∧
            sharePolicies cfg share fsUid t = sharePolicies cfg share fsUid w) ∧
          (opened = (projectSession cfg share.projectId, some (some fsUid)) ∨
            opened = (projectSession cfg share.projectId, some none) ∧ fullSync = false ∧
              ∀ rule ∈ addRules ++ deleteRules, rule.accessType ≠ .ip))
        (fun _ t => Possible fault ∧ WekafsReady cfg share fsUid t ∧
          sharePolicies cfg share fsUid t = sharePolicies cfg share fsUid w)) w := by
  have kept : ∀ t, WekafsReady cfg share fsUid t →
      sharePolicies cfg share fsUid t = sharePolicies cfg share fsUid w →
        WekafsReady cfg share fsUid t ∧ safe (sharePolicies cfg share fsUid t) := by
    intro t ready' same
    rw [same]
    exact ⟨ready', here⟩
  unfold openWekafsAccess
  refine wp_bind_of (fun session t => session = projectSession cfg share.projectId ∧
    WekafsReady cfg share fsUid t ∧
      sharePolicies cfg share fsUid t = sharePolicies cfg share fsUid w)
    (wp_weaken (wp_orgClient ready.project) ?_ ?_ ?_) ?_
  · exact fun t prepared => kept t (ready.prepared prepared) prepared.policies
  · intro session t opened
    obtain ⟨prepared, cached | fresh⟩ := opened
    · exact ⟨ready.sessions session cached, ready.prepared prepared, prepared.policies⟩
    · exact ⟨fresh, ready.prepared prepared, prepared.policies⟩
  · intro error t refused
    obtain ⟨possible | rejected, prepared⟩ := refused
    · exact ⟨possible, ready.prepared prepared, prepared.policies⟩
    · exact absurd ready.login rejected
  intro session t opened
  obtain ⟨rfl, ready', same⟩ := opened
  refine wp_bind_of (fun _ u => WekafsReady cfg share fsUid u ∧
    sharePolicies cfg share fsUid u = sharePolicies cfg share fsUid w) ?_ ?_
  · rw [wp_ite]
    split
    · refine wp_weaken (wp_ensureMountUser _ (kept t ready' same) fun users => ?_)
        (fun _ passed => passed) ?_ ?_
      · exact kept _ (ready'.users users) same
      · intro _ u created
        obtain ⟨users, rfl⟩ := created
        exact ⟨ready'.users users, same⟩
      · intro error u raised
        obtain ⟨possible, rfl⟩ := raised
        exact ⟨possible, ready', same⟩
    · exact ⟨ready', same⟩
  intro _ u reached
  obtain ⟨ready'', same'⟩ := reached
  rw [wp_bind, onOk_ending]
  refine wp_sharePolicyGroup (fun _ => kept u ready'' same') ready''.ungrouped ?_
  rw [ending_ok]
  dsimp only
  rw [wp_bind, onOk_ending]
  unfold findPolicyFilesystem
  rw [wp_ite]
  split
  · refine wp_getFilesystemByName (kept u ready'' same') ?_ fun error raised =>
      ⟨⟨u, _, error, raised⟩, ready'', same'⟩
    obtain ⟨entry, found, rfl⟩ := ready''.filesystem
    rw [ending_ok, found]
    exact ⟨⟨ready'', same'⟩, Or.inl rfl⟩
  · next idle =>
      simp only [Bool.or_eq_true, List.any_eq_true, decide_eq_true_eq, not_or, not_exists,
        not_and, Bool.not_eq_true] at idle
      exact ⟨⟨ready'', same'⟩, Or.inr ⟨rfl, idle.2, idle.1⟩⟩

/-- Whichever way the filesystem was looked for, a batch is that of the share's filesystem. -/
theorem reconcileWekafsAccess_of_opened {opened : Session × Option (Option Uid)}
    (found : opened = (projectSession cfg share.projectId, some (some fsUid)) ∨
      opened = (projectSession cfg share.projectId, some none) ∧ fullSync = false ∧
        ∀ rule ∈ addRules ++ deleteRules, rule.accessType ≠ .ip) :
    reconcileWekafsAccess cfg share addRules deleteRules fullSync opened =
      updateWekafsPolicies (projectSession cfg share.projectId) share (some fsUid)
        (cfg.orgMountPassword share.projectId) addRules deleteRules fullSync := by
  rcases found with rfl | ⟨rfl, rfl, idle⟩
  · rfl
  · exact updateWekafsPolicies_without_ip idle

/-- What an update does to a ready share is what its batch does, from a world
with the same policies. -/
theorem wp_updateWekafsAccess (ready : WekafsReady cfg share fsUid w)
    (safe : PolicyState String → Prop) {done : RuleStates → World → Prop}
    {raised : Error → World → Prop} (here : safe (sharePolicies cfg share fsUid w))
    (failed : ∀ error t, Possible fault → WekafsReady cfg share fsUid t →
      sharePolicies cfg share fsUid t = sharePolicies cfg share fsUid w → raised error t)
    (body : ∀ t, WekafsReady cfg share fsUid t →
      sharePolicies cfg share fsUid t = sharePolicies cfg share fsUid w →
      (updateWekafsPolicies (projectSession cfg share.projectId) share (some fsUid)
          (cfg.orgMountPassword share.projectId) addRules deleteRules fullSync).wp (service fault)
        (passing fun u => WekafsReady cfg share fsUid u ∧ safe (sharePolicies cfg share fsUid u))
        (ending done raised) t) :
    (updateWekafsAccess cfg share addRules deleteRules fullSync).wp (service fault)
      (passing fun u => WekafsReady cfg share fsUid u ∧ safe (sharePolicies cfg share fsUid u))
      (ending done raised) w := by
  rw [updateWekafsAccess_eq]
  refine wp_bind_of _ (wp_weaken (wp_openWekafsAccess ready safe here) (fun _ kept => kept)
    (fun _ _ opened => opened) fun error t raised' =>
      failed error t raised'.1 raised'.2.1 raised'.2.2) fun opened t reached => ?_
  obtain ⟨⟨ready', same⟩, found⟩ := reached
  rw [reconcileWekafsAccess_of_opened found]
  exact body t ready' same

end WekaShareDriver
