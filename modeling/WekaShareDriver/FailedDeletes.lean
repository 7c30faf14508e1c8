import WekaShareDriver.Foundation.May
import WekaShareDriver.ShareFilesystems

/-! # Deletes that fail

The delete of a WEKAFS share removes the share's own policies, ignoring failures,
and then unmounts and deletes the filesystem, where it stops at the first failure.
A filesystem without a policy is open to every holder of a token of its
organization, so a delete that fails late leaves it open if it had no other policy
(`WekaShareDriver.Unlocks`, `WekaShareDriver.fails_closed_iff`).
-/

namespace WekaShareDriver

open Foundation Program

/-- The sources that may mount a filesystem: all while no policy is attached to it,
then those an address of an attached policy covers. -/
def MayMount {Source : Type} (covers : String → Source → Prop) (fsUid : Uid) (w : World)
    (source : Source) : Prop :=
  (∀ policy ∈ w.cluster.policies.rows, fsUid ∉ policy.val.attached) ∨
    ∃ policy ∈ w.cluster.policies.rows, fsUid ∈ policy.val.attached ∧
      ∃ ip ∈ policy.val.ips, covers ip source

/-- A delete of the share that raises leaves its filesystem there and lets no source
mount it that could not before; one that returns has deleted it. -/
def FailsClosed {Source : Type} (covers : String → Source → Prop) (cfg : Config) (share : Share)
    (fault : Fault) (fsUid : Uid) (w : World) : Prop :=
  ∀ outcome t, Exec (service fault) (deleteShare cfg share) w outcome t →
    ending (fun _ t => t.cluster.filesystems.get? fsUid = none)
      (fun _ t => filesystemAt (shareKey cfg share) t = some fsUid ∧
        ∀ source, MayMount covers fsUid t source → MayMount covers fsUid w source) outcome t

/-- The session of a project can be opened: it is cached, or the project's organization
is free or accepts its login. -/
def SessionOpens (cfg : Config) (projectId : Option String) (w : World) : Prop :=
  hasProject projectId = true ∧
    (w.host.orgClients.get? (projectId.getD "") ≠ none ∨ LoginAccepted cfg projectId w)

/-- A name of a share's own policies. -/
def ownPolicyKey (session : Session) (share : Share) (level : Level) : Session × String :=
  (session, wekafsPolicyName share.id level)

/-- Policies are attached to the filesystem, all of them the share's own, and some source
is covered by none. -/
structure Unlocks {Source : Type} (covers : String → Source → Prop) (session : Session)
    (share : Share) (fsUid : Uid) (w : World) : Prop where
  guarded : ∃ policy ∈ w.cluster.policies.rows, fsUid ∈ policy.val.attached
  own : ∀ policy ∈ w.cluster.policies.rows, fsUid ∈ policy.val.attached →
    ∃ level, Keyed.key policy.val = ownPolicyKey session share level
  refused : ∃ source, ∀ policy ∈ w.cluster.policies.rows, fsUid ∈ policy.val.attached →
    ∀ ip ∈ policy.val.ips, ¬ covers ip source

/-- The share's own policies were at most detached from the filesystem or deleted. -/
structure Loosened (session : Session) (share : Share) (fsUid : Uid) (w t : World) : Prop where
  others : ∀ key, (∀ level, key ≠ ownPolicyKey session share level) →
    t.cluster.policies.find? key = w.cluster.policies.find? key
  less : ∀ key policy, t.cluster.policies.find? key = some policy →
    ∃ earlier, w.cluster.policies.find? key = some earlier ∧ policy.val.ips = earlier.val.ips ∧
      (fsUid ∈ policy.val.attached → fsUid ∈ earlier.val.attached)

variable {Source : Type} {covers : String → Source → Prop} {cfg : Config} {share : Share}
  {session : Session} {fault : Fault} {fsUid : Uid} {level : Level} {source : Source}
  {w t u : World}

/-! ## Fewer policies -/

namespace Loosened

private theorem of_policies (same : t.cluster.policies = w.cluster.policies) :
    Loosened session share fsUid w t := by
  refine ⟨fun key _ => by rw [same], fun key policy found => ?_⟩
  rw [same] at found
  exact ⟨policy, found, rfl, id⟩

/-- Policies may be loosened further. -/
theorem trans (first : Loosened session share fsUid w t)
    (second : Loosened session share fsUid t u) : Loosened session share fsUid w u := by
  refine ⟨fun key other => (second.others key other).trans (first.others key other),
    fun key policy found => ?_⟩
  obtain ⟨middle, found', ips, attached⟩ := second.less key policy found
  obtain ⟨earlier, found'', ips', attached'⟩ := first.less key middle found'
  exact ⟨earlier, found'', ips.trans ips', fun there => attached' (attached there)⟩

/-- A policy that is gone stays gone. -/
theorem missing {key : Session × String} (loosened : Loosened session share fsUid w t)
    (gone : w.cluster.policies.find? key = none) : t.cluster.policies.find? key = none := by
  cases found : t.cluster.policies.find? key with
  | none => rfl
  | some policy =>
      obtain ⟨earlier, found', _⟩ := loosened.less key policy found
      rw [gone] at found'
      cases found'

/-- One of the share's policies is replaced by what is left of it. -/
theorem of_replaced {entry : Option (Entry SecurityPolicy)}
    (replaced : Replaced w t (ownPolicyKey session share level) entry)
    (less : ∀ policy, entry = some policy → ∃ earlier,
      w.cluster.policies.find? (ownPolicyKey session share level) = some earlier ∧
        policy.val.ips = earlier.val.ips ∧
        (fsUid ∈ policy.val.attached → fsUid ∈ earlier.val.attached)) :
    Loosened session share fsUid w t := by
  refine ⟨fun key other => ?_, fun key policy found => ?_⟩
  · rw [replaced.lookup, Function.update_of_ne (other level)]
  · by_cases same : key = ownPolicyKey session share level
    · subst same
      rw [replaced.found] at found
      exact less policy found
    · rw [replaced.lookup, Function.update_of_ne same] at found
      exact ⟨policy, found, rfl, id⟩

/-- A policy that is attached was so before. -/
theorem attached_of_attached (loosened : Loosened session share fsUid w t)
    {policy : Entry SecurityPolicy} (member : policy ∈ t.cluster.policies.rows)
    (attached : fsUid ∈ policy.val.attached) : ∃ earlier ∈ w.cluster.policies.rows,
      fsUid ∈ earlier.val.attached ∧ policy.val.ips = earlier.val.ips := by
  obtain ⟨earlier, found, ips, attached'⟩ := loosened.less _ policy (Registry.find?_of_mem member)
  exact ⟨earlier, (Registry.find?_eq_some_iff.mp found).1, attached' attached, ips⟩

/-- With fewer policies the same sources may mount a filesystem, unless it is unlocked. -/
theorem mayMount (loosened : Loosened session share fsUid w t)
    (locked : ¬ Unlocks covers session share fsUid w) (may : MayMount covers fsUid t source) :
    MayMount covers fsUid w source := by
  rcases may with free | ⟨policy, member, attached, ip, listed, covered⟩
  · by_contra refused
    rw [MayMount, not_or] at refused
    obtain ⟨guarded, uncovered⟩ := refused
    push Not at guarded uncovered
    refine locked ⟨guarded, fun policy member attached => ?_, source, uncovered⟩
    by_contra other
    push Not at other
    have kept := (loosened.others _ other).trans (Registry.find?_of_mem member)
    exact free policy (Registry.find?_eq_some_iff.mp kept).1 attached
  · obtain ⟨earlier, member', attached', ips⟩ := loosened.attached_of_attached member attached
    exact Or.inr ⟨earlier, member', attached', ip, ips ▸ listed, covered⟩

end Loosened

/-! ## Removing the policies -/

/-- The removal of the policy of a level. -/
theorem wp_cleanupLevel (level : Level) :
    (do
      let found ← tryCatch (getSecurityPolicyByName session (wekafsPolicyName share.id level))
        fun _ => pure none
      match found with
      | none => return ()
      | some policy =>
          tryCatch (send session (.detachFsSecurityPolicy fsUid policy.uid)) fun _ => pure ()
          tryCatch (send session (.deleteSecurityPolicy policy.uid)) fun _ => pure () :
      Driver PUnit).wp (service fault) (passing fun _ => True)
      (ending
        (fun _ t => Loosened session share fsUid w t ∧
          (Possible fault ∨ t.cluster.policies.find? (ownPolicyKey session share level) = none))
        (fun _ _ => False)) w := by
  refine wp_bind_of (fun found t => t = w ∧ (Possible fault ∧ found = none ∨
    found = w.cluster.policies.find? (ownPolicyKey session share level))) ?_ fun found t looked => ?_
  · rw [wp_tryCatch, onError_ending]
    refine wp_getSecurityPolicyByName trivial ⟨rfl, Or.inr rfl⟩ fun error raised => ?_
    exact ⟨rfl, Or.inl ⟨⟨w, _, error, raised⟩, rfl⟩⟩
  obtain ⟨rfl, looked⟩ := looked
  cases found with
  | none => exact ⟨.of_policies rfl, looked.imp And.left Eq.symm⟩
  | some policy =>
      have found : t.cluster.policies.find? (ownPolicyKey session share level) = some policy := by
        rcases looked with ⟨-, none'⟩ | same
        · cases none'
        · exact same.symm
      refine wp_bind_of (fun _ u => Loosened session share fsUid t u ∧
        ∃ policy', policy'.uid = policy.uid ∧
          u.cluster.policies.find? (ownPolicyKey session share level) = some policy') ?_
        fun _ u detached => ?_
      · rw [wp_tryCatch, onError_ending]
        refine wp_detachFsSecurityPolicy found (fun u replaced => ⟨trivial, ?_⟩)
          fun error raised => ⟨trivial, .of_policies rfl, policy, rfl, found⟩
        refine ⟨.of_replaced replaced fun policy' same => ⟨policy, found, ?_⟩,
          ⟨policy.uid, policy.val.detach fsUid⟩, rfl, replaced.found⟩
        cases same
        exact ⟨rfl, fun there => List.mem_of_mem_filter there⟩
      · obtain ⟨loosened, policy', uid, found'⟩ := detached
        rw [← uid, wp_tryCatch, onError_ending]
        refine wp_deleteSecurityPolicy found' (fun v replaced => ⟨trivial, ?_⟩)
          fun error raised => ⟨trivial, loosened, Or.inl ⟨u, _, error, raised⟩⟩
        exact ⟨loosened.trans (.of_replaced replaced fun _ none' => by cases none'),
          Or.inr replaced.found⟩

/-- Whatever fails, the removal takes away only; without a fault, both policies are
gone at its end. -/
theorem wp_cleanupWekafsPolicies :
    (cleanupWekafsPolicies session share fsUid).wp (service fault)
      (passing fun _ => True)
      (ending
        (fun _ t => Loosened session share fsUid w t ∧ (Possible fault ∨
          ∀ level, t.cluster.policies.find? (ownPolicyKey session share level) = none))
        (fun _ _ => False)) w := by
  refine wp_forM (fun visited t => Loosened session share fsUid w t ∧ (Possible fault ∨
    ∀ level ∈ visited, t.cluster.policies.find? (ownPolicyKey session share level) = none)) _
    (fun visited level rest s split here => ?_) (fun s here => ?_)
    ⟨.of_policies rfl, Or.inr (by simp)⟩
  · rw [onOk_ending]
    refine wp_weaken (wp_cleanupLevel level) (fun _ _ => trivial) (fun _ t closed => ?_)
      fun _ _ never => never
    refine ⟨here.1.trans closed.1, ?_⟩
    rcases here.2 with possible | gone
    · exact Or.inl possible
    · refine closed.2.imp_right fun gone' level' member => ?_
      rcases List.mem_append.mp member with earlier | last
      · exact closed.1.missing (gone level' earlier)
      · rw [List.eq_of_mem_singleton last]
        exact gone'
  · exact ⟨here.1, here.2.imp_right fun gone level => gone level (by cases level <;> simp)⟩

/-! ## Opening the session -/

/-- A session that is returned could be opened. -/
theorem wp_orgClient_opens {projectId : Option String} :
    (orgClient cfg projectId).wp (service fault) (passing fun _ => True)
      (ending (fun _ _ => SessionOpens cfg projectId w) fun _ _ => True) w := by
  unfold orgClient
  rw [wp_ite]
  split
  · trivial
  · next project =>
      have project' : hasProject projectId = true := by simpa using project
      rw [wp_bind, onOk_ending, wp_onHost]
      refine ⟨⟨trivial, ?_⟩, fun _ _ => ⟨trivial, trivial⟩⟩
      simp only [Host.answer, ending_ok]
      cases cached : w.host.orgClients.get? (projectId.getD "") with
      | some session =>
          exact ⟨project', Or.inl (by rw [cached]; exact Option.some_ne_none session)⟩
      | none =>
          refine wp_bind_of _ (wp_weaken wp_ensureOrg (fun _ _ => trivial)
            (fun _ _ reached => reached.1) fun _ _ _ => trivial) fun _ t prepared => ?_
          rw [wp_bind, onOk_ending, login, wp_perform_withFaults]
          refine ⟨⟨trivial, ?_⟩, fun _ _ => ⟨trivial, trivial⟩⟩
          change ending _ _ (asRaised (t.cluster.login (cfg.orgName projectId) cfg.orgUser
            (cfg.orgPassword projectId))) t
          cases granted : t.cluster.login (cfg.orgName projectId) cfg.orgUser
              (cfg.orgPassword projectId) with
          | error error => trivial
          | ok session =>
              obtain ⟨rfl, entry, found, credentials⟩ := owned_of_login granted
              have opens : SessionOpens cfg projectId w := by
                refine ⟨project', Or.inr fun org there => ?_⟩
                rcases prepared.organizations with same | ⟨missing, -⟩
                · rw [same, there, Option.some.injEq] at found
                  subst found
                  exact credentials
                · rw [missing] at there
                  cases there
              rw [asRaised, ending_ok, wp_bind, onOk_ending, wp_onHost]
              exact ⟨⟨trivial, opens⟩, fun _ _ => ⟨trivial, trivial⟩⟩

/-- Without a fault, a session that can be opened is. -/
theorem may_orgClient (fault : Fault) {projectId : Option String} (own : OwnSession cfg projectId w)
    (opens : SessionOpens cfg projectId w) :
    May (service fault) (orgClient cfg projectId) (fun session t =>
      Prepared cfg projectId w t ∧ session = projectSession cfg projectId) w := by
  obtain ⟨project, cached | accepted⟩ := opens
  · apply May.of_wp
    unfold orgClient
    simp only [project, Bool.true_eq_false, ↓reduceIte]
    obtain ⟨session, found⟩ := Option.ne_none_iff_exists'.mp cached
    rw [wp_bind, onOk_ending, wp_onHost]
    refine ⟨⟨trivial, ?_⟩, fun _ impossible => impossible.elim⟩
    simp only [Host.answer, ending_ok, found]
    exact ⟨.refl w, own session found⟩
  · refine May.of_wp (wp_weaken (wp_orgClient project) (fun _ _ => trivial)
      (fun session t opened => ?_) fun _ _ raised => ?_)
    · obtain ⟨prepared, cached | new⟩ := opened
      · exact ⟨prepared, own session cached⟩
      · exact ⟨prepared, new⟩
    · exact raised.1.elim not_possible_noFaults fun refused => refused accepted

/-! ## Deletes that fail leave the share closed -/

variable {key : Session × String}

private theorem clientForShare_wekafs (wekafs : share.shareProto = .wekafs) :
    clientForShare cfg share = orgClient cfg share.projectId :=
  if_pos (decide_eq_true wekafs)

private theorem shareSession_wekafs (cfg : Config) (wekafs : share.shareProto = .wekafs) :
    shareSession cfg share = projectSession cfg share.projectId :=
  if_pos (decide_eq_true wekafs)

private theorem mayMount_of_policies (same : t.cluster.policies = w.cluster.policies)
    (may : MayMount covers fsUid t source) : MayMount covers fsUid w source := by
  unfold MayMount at may ⊢
  rwa [same] at may

private theorem filesystemAt_of_filesystems (same : t.cluster.filesystems = w.cluster.filesystems) :
    filesystemAt key t = filesystemAt key w := by
  unfold filesystemAt
  rw [same]

/-- The policies are removed, and nothing else. -/
theorem wp_closeAccess (wekafs : share.shareProto = .wekafs)
    (there : filesystemAt key w = some fsUid) :
    (closeAccess share session fsUid).wp (service fault) (passing fun _ => True)
      (ending
        (fun _ t => filesystemAt key t = some fsUid ∧ Loosened session share fsUid w t ∧
          (Possible fault ∨
            ∀ level, t.cluster.policies.find? (ownPolicyKey session share level) = none))
        (fun _ _ => False)) w := by
  have removes : (closeAccess share session fsUid).wp (service fault) (passing fun _ => True)
      (ending
        (fun _ t => Loosened session share fsUid w t ∧ (Possible fault ∨
          ∀ level, t.cluster.policies.find? (ownPolicyKey session share level) = none))
        (fun _ _ => False)) w := by
    unfold closeAccess
    have isolated : isIsolatedWekafs share = true := decide_eq_true wekafs
    rw [if_pos isolated]
    exact wp_tryCatch_of _ wp_cleanupWekafsPolicies fun _ _ never => never.elim
  have uses : (closeAccess share session fsUid).Uses (MakesOnly "") :=
    (uses_closeAccess fsUid).mono fun _ => PolicyOp.makesOnly
  have keeps : Obeys (service fault) (fun u => filesystemAt key u = some fsUid)
      (fun _ _ _ => True) (closeAccess share session fsUid) :=
    obeys_filesystemAt (uses.mono fun _ makes session' => makes.keeps session' _)
  refine wp_mono (fun _ _ _ _ => trivial) (fun outcome t both => ?_)
    (wp_and (keeps w there) removes)
  cases outcome with
  | ok value => exact both
  | error error => exact both.2

/-- Unmounting changes nothing on the cluster. -/
theorem wp_unmountShare : (unmountShare cfg share).wp (service fault) (passing fun _ => True)
    (ending (fun _ t => t.cluster = w.cluster) fun _ t => t.cluster = w.cluster) w := by
  have keeps : Obeys (service fault) (fun t => t.cluster = w.cluster) (fun _ _ _ => True)
      (unmountShare cfg share) :=
    .of_uses uses_unmountShare fun _ _ _ _ host same answered =>
      ⟨trivial, (host.kept answered).1.trans same⟩
  exact keeps.wp_restored rfl

/-- The delete of a filesystem that is there leaves none of its uid, or fails and
changes nothing. -/
theorem wp_deleteFound_gone (honest : Honest fault) {name : String}
    (there : filesystemAt (session, name) w = some fsUid) :
    (deleteFound session fsUid).wp (service fault) (passing fun _ => True)
      (ending (fun _ t => t.cluster.filesystems.get? fsUid = none) fun _ t => t = w) w := by
  obtain ⟨fs, member, key, rfl⟩ := filesystemAt_eq_some.mp there
  have org : fs.val.org = session := congrArg Prod.fst key
  have owned : Cluster.owned w.cluster.filesystems fs.uid (fun fs => fs.org = session) =
      some fs := by
    rw [Cluster.owned, Registry.get?_of_mem member, Option.filter_some, org]
    simp
  unfold deleteFound
  rw [wp_tryCatch, onError_ending, wp_send]
  refine ⟨⟨trivial, ?_⟩, fun error raised => ⟨trivial, ?_⟩⟩
  · simp only [Cluster.answer, owned]
    exact Registry.get?_erase w.cluster.filesystems fs.uid
  · rw [ending_error, wp_ite]
    split
    · next notFound =>
        exact honest.gone w session (.deleteFilesystem fs.uid) error raised notFound
    · exact rfl

/-- A delete that raises admits no source it did not admit before, unless the session
opens and the share is unlocked. -/
theorem wp_deleteShare_closed (covers : String → Source → Prop) (honest : Honest fault)
    (wekafs : share.shareProto = .wekafs) (own : OwnSession cfg share.projectId w)
    (there : filesystemAt (shareKey cfg share) w = some fsUid)
    (locked : SessionOpens cfg share.projectId w →
      ¬ Unlocks covers (projectSession cfg share.projectId) share fsUid w) :
    (deleteShare cfg share).wp (service fault) (passing fun _ => True)
      (ending (fun _ t => t.cluster.filesystems.get? fsUid = none)
        (fun _ t => ∀ source, MayMount covers fsUid t source → MayMount covers fsUid w source))
      w := by
  have session := shareSession_wekafs cfg wekafs
  rw [deleteShare_eq, clientForShare_wekafs wekafs]
  refine wp_bind_of (fun session t => (Prepared cfg share.projectId w t ∧
    session = projectSession cfg share.projectId) ∧ SessionOpens cfg share.projectId w) ?_ ?_
  · refine wp_mono (fun _ _ _ _ => trivial) (fun outcome t both => ?_)
      (wp_and (wp_orgClient_own own) wp_orgClient_opens)
    cases outcome with
    | ok session => exact both
    | error error =>
        have prepared : Prepared cfg share.projectId w t := both.1
        exact fun source => mayMount_of_policies (by rw [prepared.cluster])
  · rintro _ t ⟨⟨prepared, rfl⟩, opens⟩
    have policies : t.cluster.policies = w.cluster.policies := by rw [prepared.cluster]
    have there' : filesystemAt (shareKey cfg share) t = some fsUid :=
      (filesystemAt_of_filesystems (by rw [prepared.cluster])).trans there
    have closed {u : World} (loosened : Loosened (projectSession cfg share.projectId) share fsUid
        t u) (source : Source) (may : MayMount covers fsUid u source) :
        MayMount covers fsUid w source :=
      ((Loosened.of_policies policies).trans loosened).mayMount (locked opens) may
    rw [wp_bind, onOk_ending]
    refine wp_getFilesystemByName trivial ?_ fun _ _ => closed (.of_policies rfl)
    obtain ⟨fs, found, rfl⟩ := Option.map_eq_some_iff.mp there'
    rw [shareKey, session] at found
    rw [ending_ok, found]
    refine wp_bind_of _ (wp_weaken (wp_closeAccess wekafs there') (fun _ _ => trivial)
      (fun _ _ removed => removed) fun _ _ never => never.elim) fun _ u removed => ?_
    obtain ⟨there'', loosened, -⟩ := removed
    refine wp_bind_of _ (wp_weaken wp_unmountShare (fun _ _ => trivial) (fun _ _ same => same)
      fun _ v same => ?_) fun _ v same => ?_
    · exact closed (loosened.trans (.of_policies (by rw [same])))
    · rw [shareKey, session] at there''
      have here : filesystemAt (projectSession cfg share.projectId, cfg.shareName share.id) v =
          some fs.uid := (filesystemAt_of_filesystems (by rw [same])).trans there''
      refine wp_weaken (wp_deleteFound_gone honest here) (fun _ _ => trivial) (fun _ _ gone => gone)
        fun _ x unchanged => ?_
      rw [unchanged]
      exact closed (loosened.trans (.of_policies (by rw [same])))

/-! ## A delete that leaves the share open -/

/-- The deletion of a filesystem is refused by the server. -/
def deletionRefused : Fault := fun _ op error =>
  (∃ session uid, op = .api session (.deleteFilesystem uid)) ∧
    error = .api (.generic 500 "/fileSystems: internal error")

private theorem honest_deletionRefused : Honest deletionRefused := by
  have silent : (isAlreadyExistsError (.api (.generic 500 "/fileSystems: internal error")) ||
      isAlreadyAttachedError (.api (.generic 500 "/fileSystems: internal error"))) = false := by
    decide
  constructor
  · rintro w session request error ⟨-, rfl⟩ claims
    rw [silent] at claims
    cases claims
  · rintro w session request error ⟨-, rfl⟩ claims
    cases claims

/-- With its policies removed, an unlocked share is open to all. -/
theorem Unlocks.open_of_removed (unlocks : Unlocks covers session share fsUid w)
    (loosened : Loosened session share fsUid w t)
    (gone : ∀ level, t.cluster.policies.find? (ownPolicyKey session share level) = none)
    (policy : Entry SecurityPolicy) (member : policy ∈ t.cluster.policies.rows) :
    fsUid ∉ policy.val.attached := by
  intro attached
  have found := Registry.find?_of_mem member
  have other (level : Level) : Keyed.key policy.val ≠ ownPolicyKey session share level := by
    intro same
    rw [same, gone level] at found
    cases found
  have found' := (loosened.others _ other).symm.trans found
  obtain ⟨level, own⟩ := unlocks.own policy (Registry.find?_eq_some_iff.mp found').1 attached
  exact other level own

/-- Where the session opens and the share is unlocked, its delete can fail and leave it
open to all. -/
theorem exists_open_delete (wekafs : share.shareProto = .wekafs)
    (own : OwnSession cfg share.projectId w)
    (there : filesystemAt (shareKey cfg share) w = some fsUid)
    (opens : SessionOpens cfg share.projectId w)
    (unlocks : Unlocks covers (projectSession cfg share.projectId) share fsUid w) :
    ∃ error t, Exec (service deletionRefused) (deleteShare cfg share) w (.error error) t ∧
      ∀ policy ∈ t.cluster.policies.rows, fsUid ∉ policy.val.attached := by
  have session := shareSession_wekafs cfg wekafs
  rw [deleteShare_eq, clientForShare_wekafs wekafs]
  obtain ⟨_, t, opened, prepared, rfl⟩ := may_orgClient deletionRefused own opens
  have there' : filesystemAt (shareKey cfg share) t = some fsUid :=
    (filesystemAt_of_filesystems (by rw [prepared.cluster])).trans there
  obtain ⟨fs, found, rfl⟩ := Option.map_eq_some_iff.mp there'
  rw [shareKey, session] at found
  have lookup : May (service deletionRefused)
      (getFilesystemByName (projectSession cfg share.projectId) (cfg.shareName share.id))
      (fun value u => u = t ∧ value = some fs) t :=
    .of_wp (wp_getFilesystemByName trivial ⟨rfl, found⟩ fun _ impossible => impossible.elim)
  obtain ⟨_, _, looked, rfl, rfl⟩ := lookup
  have removal : May (service deletionRefused)
      (closeAccess share (projectSession cfg share.projectId) fs.uid) _ _ :=
    .of_wp (wp_weaken (wp_closeAccess wekafs there') (fun _ _ => trivial)
      (fun _ _ removed => removed) fun _ _ never => never)
  obtain ⟨_, u, removed, -, loosened, gone⟩ := removal
  have free : ∀ policy ∈ u.cluster.policies.rows, fs.uid ∉ policy.val.attached :=
    unlocks.open_of_removed
      ((Loosened.of_policies (by rw [prepared.cluster])).trans loosened)
      (gone.resolve_left not_possible_noFaults)
  -- The unmount returns or raises; the deletion after it is refused.
  have unmounts : Exec (service deletionRefused) (unmountShare cfg share) u _ _ := exec_run _ _
  have same := unmounts.post wp_unmountShare
  have deletes (v : World) : Exec (service deletionRefused)
      (deleteFound (projectSession cfg share.projectId) fs.uid) v
      (.error (.api (.generic 500 "/fileSystems: internal error"))) v :=
    .tryCatch_error (.perform (Or.inr ⟨_, ⟨⟨_, _, rfl⟩, rfl⟩, rfl, rfl⟩)) (.fail _ _)
  cases outcome : ((unmountShare cfg share).run respond u).1 with
  | ok value =>
      rw [outcome] at unmounts same
      refine ⟨_, _, opened.bind (looked.bind (removed.bind (unmounts.bind (deletes _)))), ?_⟩
      rw [ending_ok] at same
      rw [same]
      exact free
  | error error =>
      rw [outcome] at unmounts same
      refine ⟨_, _, opened.bind (looked.bind (removed.bind unmounts.bind_error)), ?_⟩
      rw [ending_error] at same
      rw [same]
      exact free

/-- Whatever fails, a delete of a WEKAFS share that raises leaves it as closed as it was
and one that returns has deleted it, if and only if its session cannot be opened or it
is not unlocked by the loss of its own policies. -/
theorem fails_closed_iff (wekafs : share.shareProto = .wekafs)
    (own : OwnSession cfg share.projectId w)
    (there : filesystemAt (shareKey cfg share) w = some fsUid) :
    (∀ fault, Honest fault → FailsClosed covers cfg share fault fsUid w) ↔
      ¬ (SessionOpens cfg share.projectId w ∧
        Unlocks covers (projectSession cfg share.projectId) share fsUid w) := by
  constructor
  · rintro closed ⟨opens, unlocks⟩
    obtain ⟨error, t, run, free⟩ := exists_open_delete wekafs own there opens unlocks
    obtain ⟨source, refused⟩ := unlocks.refused
    obtain ⟨policy, member, attached⟩ := unlocks.guarded
    rcases (closed deletionRefused honest_deletionRefused _ t run).2 source (Or.inl free) with
      empty | ⟨policy', member', attached', ip, listed, covered⟩
    · exact empty policy member attached
    · exact refused policy' member' attached' ip listed covered
  · intro locked fault honest outcome t run
    have ended := run.post (wp_deleteShare_closed covers honest wekafs own there
      fun opens unlocks => locked ⟨opens, unlocks⟩)
    cases outcome with
    | ok value => exact ended
    | error error => exact ⟨run.post (wp_deleteShare_spares share fault own there), ended⟩

section Sample

/-- A share with the policy of its group. -/
def governedWekafs : World := ((createShare groupConfig groupShare).run respond groupWorld).2

/-- The policy of the group stays when the deletion is refused. -/
theorem fails_closed_sample :
    FailsClosed (fun ip source : String => ip = source) groupConfig groupShare deletionRefused 1
      governedWekafs := by
  have own : OwnSession groupConfig groupShare.projectId governedWekafs := by
    intro session cached
    have only : governedWekafs.host.orgClients.get? (groupShare.projectId.getD "") =
      some (projectSession groupConfig groupShare.projectId) := by decide +kernel
    rw [only, Option.some.injEq] at cached
    exact cached.symm
  refine (fails_closed_iff rfl own (by decide +kernel)).mpr (fun opened => ?_) deletionRefused
    honest_deletionRefused
  have other : ∃ policy ∈ governedWekafs.cluster.policies.rows, 1 ∈ policy.val.attached ∧
      Keyed.key policy.val ∉ [Level.rw, Level.ro].map
        (ownPolicyKey (projectSession groupConfig groupShare.projectId) groupShare) := by
    decide +kernel
  obtain ⟨policy, member, attached, apart⟩ := other
  obtain ⟨level, same⟩ := opened.2.own policy member attached
  refine apart (List.mem_map.mpr ⟨level, ?_, same.symm⟩)
  cases level <;> simp

/-- A share with one rule is open to all once its delete failed. -/
theorem failed_delete_unlocks : ¬ ∀ fault, Honest fault →
    FailsClosed (fun ip source : String => ip = source) sampleConfig (sampleShare .wekafs) fault 0
      grantedWekafs := by
  intro closed
  have ready := grantedWekafs_reached.wekafsReady sampleWekafs_ready
  have unlocks : Unlocks (fun ip source : String => ip = source)
      (projectSession sampleConfig (sampleShare .wekafs).projectId) (sampleShare .wekafs) 0
      grantedWekafs := by
    refine ⟨by decide +kernel, ?_, "10.9.9.9", by decide +kernel⟩
    have all : ∀ policy ∈ grantedWekafs.cluster.policies.rows, 0 ∈ policy.val.attached →
        Keyed.key policy.val =
          ownPolicyKey (projectSession sampleConfig (some "p1")) (sampleShare .wekafs) .rw := by
      decide +kernel
    exact fun policy member attached => ⟨.rw, all policy member attached⟩
  obtain ⟨error, t, run, free⟩ := exists_open_delete rfl ready.sessions (by decide +kernel)
    ⟨ready.project, Or.inr ready.login⟩ unlocks
  have kept := (closed deletionRefused honest_deletionRefused _ t run).2 "10.9.9.9" (Or.inl free)
  rcases kept with empty | ⟨policy, member, attached, ip, listed, covered⟩
  · exact (unlocks.guarded.elim fun policy there => empty policy there.1 there.2)
  · have refused : ∀ policy ∈ grantedWekafs.cluster.policies.rows, 0 ∈ policy.val.attached →
        ∀ ip ∈ policy.val.ips, ip ≠ "10.9.9.9" := by decide +kernel
    exact refused policy member attached ip listed covered

end Sample

end WekaShareDriver
