import WekaShareDriver.Access.NfsRuns

/-! # Applying an NFS rule again

The address of a rule passes through three texts: the form it is given to the cluster in, the
form the cluster stores, and the network both are reduced to when the rules of a group are
compared. All the forms of one network are reduced to one text and those of different networks
to different ones (`WekaShareDriver.normWekaIp_eq_iff`). So a rule that was applied is
recognised in any form, and applying it again only looks; a rule for another network is not,
and is added (`WekaShareDriver.nfs_rule_reapplied`).
-/

namespace WekaShareDriver

open Foundation Program

/-! ## The texts of a network -/

section Texts

variable {text text' : String} {net net' : Ipv4.Network}

/-- Two texts are reduced to one exactly when they denote the same addresses. -/
theorem normWekaIp_eq_iff (denotes : network? text = some net)
    (denotes' : network? text' = some net') :
    normWekaIp text = normWekaIp text' ↔
      ∀ address, net.Contains address ↔ net'.Contains address := by
  rw [normWekaIp, normWekaIp, denotes, denotes', String.ofList_inj]
  constructor
  · intro same address
    rw [Ipv4.networkText_injective same]
  · intro same
    rw [Ipv4.Network.eq_of_contains same]

end Texts

/-- A request that only looks. -/
def Request.looks : Request → Bool
  | .listOrganizations | .listFilesystems | .getFilesystem _ | .listSnapshots
  | .listSecurityPolicies | .listClientGroups | .getClientGroup _ | .listNfsPermissions => true
  | _ => false

/-- An operation that only looks at the cluster. -/
def Op.looks : Op → Bool
  | .api _ request => request.looks
  | _ => false

section Again

variable {fault : Fault} {w : World} {fsName name wekaIp : String} {type : PermissionType}
  {share : Share} {rule : AccessRule} {net : Ipv4.Network}

/-- The group holds a network and the filesystem is exported to it with a type. -/
def GrantedTo (fsName name network : String) (type : PermissionType) (w : World) : Prop :=
  Rooted fsName w ∧ ∃ networks, nfsState fsName w name = ⟨some networks, some type⟩ ∧
    network ∈ networks

/-- A group that exists is only looked at. -/
theorem looks_ensureClientGroup {group : Entry ClientGroup}
    (found : w.cluster.clientGroups.find? name = some group) :
    (ensureClientGroup name).wp (service fault) (fun _ op _ => op.looks = true)
      (ending (fun result t => t = w ∧ result = (group, group.val.addresses))
        fun _ _ => True) w := by
  unfold ensureClientGroup
  rw [wp_bind, onOk_ending]
  refine wp_getClientGroupByName rfl ?_ fun error _ => trivial
  rw [ending_ok, found]
  dsimp only
  rw [wp_bind, onOk_ending]
  exact wp_getClientGroup found rfl ⟨rfl, rfl⟩ fun error _ => trivial

/-- A permission of the type is only looked at. -/
theorem looks_ensureNfsPermission {perm : Entry NfsPermission} (rooted : Rooted fsName w)
    (found : w.cluster.permissions.find? (fsName, name, "/") = some perm)
    (same : perm.val.permissionType = type) :
    (ensureNfsPermission fsName name type).wp (service fault) (fun _ op _ => op.looks = true)
      (ending (fun _ _ => True) fun _ _ => True) w := by
  unfold ensureNfsPermission
  rw [wp_bind, onOk_ending]
  refine wp_findNfsPermission rooted rfl ?_ fun error _ => trivial
  rw [ending_ok, found]
  dsimp only
  rw [if_neg (not_not.mpr same)]
  trivial

/-- A rule whose network is granted is recognised, whatever lookups fail. -/
theorem looks_applyNfsRule (denotes : network? rule.accessTo = some net)
    (granted : GrantedTo fsName (nfsCgName share.id rule.accessId)
      (String.ofList (Ipv4.networkText net)) (nfsType rule.accessLevel) w) :
    (applyNfsRule share fsName rule).wp (service fault) (fun _ op _ => op.looks = true)
      (ending (fun _ _ => True) fun _ _ => True) w := by
  obtain ⟨wekaIp, read, reduced, _⟩ := cidrToWekaIp_stored denotes
  obtain ⟨rooted, networks, state, holds⟩ := granted
  obtain ⟨group, found, listed⟩ : ∃ group,
      w.cluster.clientGroups.find? (nfsCgName share.id rule.accessId) = some group ∧
        group.val.networks = networks := by
    have held := congrArg GroupAccess.networks state
    simpa [nfsState] using held
  obtain ⟨perm, permitted, type⟩ : ∃ perm, w.cluster.permissions.find?
      (fsName, nfsCgName share.id rule.accessId, "/") = some perm ∧
        perm.val.permissionType = nfsType rule.accessLevel := by
    have given := congrArg GroupAccess.permission state
    simpa [nfsState] using given
  have member : normWekaIp wekaIp ∈ group.val.addresses := by
    rw [reduced, ← List.mem_toFinset]
    rwa [← listed] at holds
  unfold applyNfsRule
  rw [read]
  dsimp only
  refine wp_bind_of _ (looks_ensureClientGroup found) fun result t reached => ?_
  obtain ⟨rfl, rfl⟩ := reached
  have recognised : ensureGroupRule group.uid wekaIp group.val.addresses = pure () :=
    if_neg (not_not.mpr member)
  dsimp only
  rw [recognised, pure_bind]
  exact looks_ensureNfsPermission rooted permitted type

/-- A rule that was applied is granted, and nothing its group held is lost. -/
theorem granted_of_applied {t : World} (honest : Honest fault) (rooted : Rooted fsName w)
    (denotes : network? rule.accessTo = some net)
    (applied : Exec (service fault) (applyNfsRule share fsName rule) w (.ok ()) t) :
    GrantedTo fsName (nfsCgName share.id rule.accessId) (String.ofList (Ipv4.networkText net))
        (nfsType rule.accessLevel) t ∧
      (nfsState fsName t (nfsCgName share.id rule.accessId)).held =
        insert (String.ofList (Ipv4.networkText net))
          (nfsState fsName w (nfsCgName share.id rule.accessId)).held := by
  obtain ⟨wekaIp, read, reduced, stored⟩ := cidrToWekaIp_stored denotes
  have ended := applied.post (wp_applyNfsRule rooted read rfl)
  obtain ⟨⟨rooted', _⟩, _, accepted⟩ := ended
  have state := accepted honest (Or.inr (reduced.trans stored.symm))
  rw [stored] at state
  have here : nfsState fsName t (nfsCgName share.id rule.accessId) =
      (nfsState fsName w (nfsCgName share.id rule.accessId)).accept
        (String.ofList (Ipv4.networkText net)) (nfsType rule.accessLevel) := by
    rw [state, NfsState.accept, Function.update_self]
  refine ⟨⟨rooted', _, here, Finset.mem_insert_self _ _⟩, ?_⟩
  rw [here]
  rfl

/-- A rule for a network its group does not hold is added. -/
theorem adds_applyNfsRule
    (denotes : network? rule.accessTo = some net)
    (new : String.ofList (Ipv4.networkText net) ∉
      (nfsState fsName w (nfsCgName share.id rule.accessId)).held) :
    ∃ uid wekaIp u v, cidrToWekaIp rule.accessTo = .ok wekaIp ∧
      Issues reliable (applyNfsRule share fsName rule) w u
        (.api .admin (.addClientGroupRule uid .ip wekaIp)) v := by
  obtain ⟨wekaIp, read, reduced, _⟩ := cidrToWekaIp_stored denotes
  have first : Exec reliable (ensureClientGroup (nfsCgName share.id rule.accessId)) w _ _ :=
    exec_run _ _
  generalize (ensureClientGroup (nfsCgName share.id rule.accessId)).run respond w = ended at first
  obtain ⟨outcome, t⟩ := ended
  have ensures : (ensureClientGroup (nfsCgName share.id rule.accessId)).wp reliable
      (passing fun _ => True)
      (ending (fun result _ => result.2 = result.1.val.addresses ∧ result.1.val.networks =
          (nfsState fsName w (nfsCgName share.id rule.accessId)).held)
        fun _ _ => Possible noFaults ∧ True) w :=
    wp_ensureClientGroup fsName trivial fun t group _ same => ⟨trivial, rfl, same⟩
  have reached := first.post ensures
  cases outcome with
  | error error => exact absurd reached.1 not_possible_noFaults
  | ok result =>
      obtain ⟨group, existing⟩ := result
      obtain ⟨listed, holds⟩ := reached
      dsimp only at listed holds
      have missing : normWekaIp wekaIp ∉ existing := by
        rw [reduced, listed, ← List.mem_toFinset]
        rwa [← holds] at new
      refine ⟨group.uid, wekaIp, t,
        (respond (.api .admin (.addClientGroupRule group.uid .ip wekaIp)) t).2, read, ?_⟩
      unfold applyNfsRule
      rw [read]
      refine .bind_right first (.bind_left ?_ _)
      dsimp only
      rw [ensureGroupRule, if_pos missing]
      exact .tryCatch_left (.bind_left (.here (Or.inl rfl)) _) _

end Again

/-- The address of a rule means one network in whatever form it is given, stored and read back.
So where a rule was applied, applying it again, its network in any form, only looks, whatever
fails; a rule of the same group for another network is added unless the group held that one
before. -/
theorem nfs_rule_reapplied :
    (∀ (text : String) (net : Ipv4.Network), network? text = some net →
      ∃ wekaIp, cidrToWekaIp text = .ok wekaIp ∧
        normWekaIp (storedRule wekaIp) = normWekaIp text) ∧
    (∀ (text text' : String) (net net' : Ipv4.Network), network? text = some net →
      network? text' = some net' → (normWekaIp text = normWekaIp text' ↔
        ∀ address, net.Contains address ↔ net'.Contains address)) ∧
    ∀ (fault : Fault) (share : Share) (fsName : String) (rule rule' : AccessRule)
      (net net' : Ipv4.Network) (w t : World), Honest fault → Rooted fsName w →
      network? rule.accessTo = some net → network? rule'.accessTo = some net' →
      rule'.accessId = rule.accessId →
      Exec (service fault) (applyNfsRule share fsName rule) w (.ok ()) t →
        ((∀ address, net.Contains address ↔ net'.Contains address) →
          rule'.accessLevel = rule.accessLevel → ∀ (fault' : Fault) (u : World) (op : Op)
            (v : World), Issues (service fault') (applyNfsRule share fsName rule') t u op v →
              op.looks = true) ∧
        ((¬ ∀ address, net.Contains address ↔ net'.Contains address) →
          normWekaIp rule'.accessTo ∉
            (nfsState fsName w (nfsCgName share.id rule.accessId)).held →
          ∃ uid wekaIp u v, cidrToWekaIp rule'.accessTo = .ok wekaIp ∧
            Issues reliable (applyNfsRule share fsName rule') t u
              (.api .admin (.addClientGroupRule uid .ip wekaIp)) v) := by
  refine ⟨fun text net denotes => ?_, fun text text' net net' => normWekaIp_eq_iff, ?_⟩
  · obtain ⟨wekaIp, read, _, stored⟩ := cidrToWekaIp_stored denotes
    refine ⟨wekaIp, read, ?_⟩
    rw [stored, normWekaIp, denotes]
  intro fault share fsName rule rule' net net' w t honest rooted denotes denotes' group applied
  obtain ⟨granted, held⟩ := granted_of_applied honest rooted denotes applied
  constructor
  · intro same level fault' u op v issued
    have equal : net = net' := Ipv4.Network.eq_of_contains same
    rw [← group, ← level, equal] at granted
    exact issued.meets (looks_applyNfsRule denotes' granted)
  · intro different new
    apply adds_applyNfsRule denotes'
    rw [group, held, Finset.mem_insert, not_or]
    constructor
    · intro same
      have equal : net' = net := Ipv4.networkText_injective (String.ofList_inj.mp same)
      exact different fun address => by rw [equal]
    · rwa [normWekaIp, denotes'] at new

section Sample

/-- The sample rule, for a network in some form. -/
def sampleRuleFor (accessTo : String) : AccessRule := { sampleRule with accessTo }

/-- Applying a rule of the sample rule's group. -/
def applySample (accessTo : String) : Driver Unit :=
  applyNfsRule (sampleShare .nfs) (sampleConfig.shareName (sampleShare .nfs).id)
    (sampleRuleFor accessTo)

/-- The world where the sample rule was applied. -/
def appliedNfs : World := ((applySample "10.1.2.3").run respond sampleNfs).2

/-- The sample rule is recognised with its mask written out; a network of the group that is not
there yet is added. -/
theorem nfs_rule_reapplied_sample :
    (∀ (fault : Fault) (u : World) (op : Op) (v : World),
      Issues (service fault) (applySample "10.1.2.3/255.255.255.255") appliedNfs u op v →
        op.looks = true) ∧
    ∃ uid u v, Issues reliable (applySample "10.4.0.0/16") appliedNfs u
      (.api .admin (.addClientGroupRule uid .ip "10.4.0.0/255.255.0.0")) v := by
  have applied : Exec (service noFaults) (applySample "10.1.2.3") sampleNfs (.ok ()) appliedNfs :=
    exec_run _ _
  have rooted : Rooted (sampleConfig.shareName (sampleShare .nfs).id) sampleNfs := by
    intro name path entry found
    cases found
  have first : network? "10.1.2.3" = some ((network? "10.1.2.3").get (by decide)) := by simp
  have masked : network? "10.1.2.3/255.255.255.255" =
    some ((network? "10.1.2.3/255.255.255.255").get (by decide)) := by simp
  have second : network? "10.4.0.0/16" = some ((network? "10.4.0.0/16").get (by decide)) := by simp
  have again := nfs_rule_reapplied.2.2 noFaults (sampleShare .nfs) _ (sampleRuleFor "10.1.2.3")
    (sampleRuleFor "10.1.2.3/255.255.255.255") _ _ sampleNfs appliedNfs honest_noFaults rooted first
    masked rfl applied
  have added := nfs_rule_reapplied.2.2 noFaults (sampleShare .nfs) _ (sampleRuleFor "10.1.2.3")
    (sampleRuleFor "10.4.0.0/16") _ _ sampleNfs appliedNfs honest_noFaults rooted first second rfl
    applied
  refine ⟨again.1 ((normWekaIp_eq_iff first masked).mp (by decide)) rfl, ?_⟩
  obtain ⟨uid, wekaIp, u, v, read, issued⟩ := added.2
    (fun same => absurd ((normWekaIp_eq_iff first second).mpr same) (by decide)) (by decide)
  cases read
  exact ⟨uid, u, v, issued⟩

end Sample

end WekaShareDriver
