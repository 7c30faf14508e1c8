import WekaShareDriver.Access.NfsCalls
import WekaShareDriver.Access.Wekafs

/-! # NFS access rules on exports

Applying an ip rule accepts its grant to its group and to no other, whatever
fails (`WekaShareDriver.wp_applyNfsRule`). Removing a rule and pruning clear the
groups they match (`WekaShareDriver.wp_removeNfsRule`,
`WekaShareDriver.wp_pruneNfsRules`): without faults all of each group's access
goes, with faults some of it may.
-/

namespace WekaShareDriver

open Foundation Program

/-- The filesystem is exported at its root only, with access as given. -/
def Exporting (fsName : String) (states : NfsState → Prop) (t : World) : Prop :=
  Rooted fsName t ∧ states (nfsState fsName t)

/-- What an ip rule grants: the network the cluster stores for its target, to
its own group. -/
def AccessRule.grant? (share : Share) (rule : AccessRule) : Option Grant :=
  if rule.isIpv4 then
    (cidrToWekaIp rule.accessTo).toOption.map fun wekaIp =>
      ⟨nfsCgName share.id rule.accessId, normWekaIp (storedRule wekaIp), nfsType rule.accessLevel⟩
  else none

section Groups

variable {group : ClientGroup} {value : String}

private theorem storedRule_ne_empty (value : String) : storedRule value ≠ "" := by
  unfold storedRule
  intro empty
  split at empty
  · next slash =>
      rw [empty] at slash
      exact absurd slash (by decide)
  · have lists := congrArg String.toList empty
    rw [String.toList_append] at lists
    simp at lists

private theorem mem_networks {network : String} : network ∈ group.networks ↔
    ∃ rule ∈ group.rules, rule.type = .ip ∧ rule.rule ≠ "" ∧ normWekaIp rule.rule = network := by
  simp [ClientGroup.networks, ClientGroup.addresses, and_assoc]

private theorem networks_addRule : (group.addRule .ip (storedRule value)).networks =
    insert (normWekaIp (storedRule value)) group.networks := by
  ext network
  have nonempty := storedRule_ne_empty value
  rw [Finset.mem_insert, mem_networks, mem_networks]
  simp only [ClientGroup.addRule, List.mem_append, List.mem_singleton]
  constructor
  · rintro ⟨rule, member | rfl, ip, filled, equal⟩
    · exact Or.inr ⟨rule, member, ip, filled, equal⟩
    · exact Or.inl equal.symm
  · intro member
    rcases member with equal | ⟨rule, member, ip, filled, equal⟩
    · exact ⟨_, Or.inr rfl, rfl, nonempty, equal.symm⟩
    · exact ⟨rule, Or.inl member, ip, filled, equal⟩

/-- Deleting a rule adds no network. -/
theorem networks_deleteRule_subset (ruleUid : Uid) :
    (group.deleteRule ruleUid).networks ⊆ group.networks := by
  intro network member
  obtain ⟨rule, kept, rest⟩ := mem_networks.mp member
  exact mem_networks.mpr ⟨rule, (List.mem_filter.mp kept).1, rest⟩

/-- A group that has the rule already holds its network. -/
theorem insert_networks_of_present
    (present : ∃ rule ∈ group.rules, rule.type = .ip ∧ rule.rule = storedRule value) :
    insert (normWekaIp (storedRule value)) group.networks = group.networks := by
  obtain ⟨rule, member, ip, stored⟩ := present
  apply Finset.insert_eq_of_mem
  have nonempty := storedRule_ne_empty value
  exact mem_networks.mpr ⟨rule, member, ip, by rw [stored]; exact nonempty, by rw [stored]⟩

end Groups

section Apply

variable {fault : Fault} {passed : World → Prop} {w : World} {fsName name wekaIp : String}
  {group : Entry ClientGroup} {type : PermissionType}

variable (fsName) in
/-- The group exists afterwards, with the networks it had. -/
theorem wp_ensureClientGroup {done : Entry ClientGroup × List String → World → Prop}
    (here : passed w)
    (ensured : ∀ t group, GroupReplaced w t name (some group) →
      group.val.networks = (nfsState fsName w name).held →
        passed t ∧ done (group, group.val.addresses) t) :
    (ensureClientGroup name).wp (service fault) (passing passed)
      (ending done fun _ t => Possible fault ∧ passed t) w := by
  unfold ensureClientGroup
  rw [wp_bind, onOk_ending]
  refine wp_getClientGroupByName here ?_ fun error raised => ⟨⟨w, _, error, raised⟩, here⟩
  rw [ending_ok]
  cases found : w.cluster.clientGroups.find? name with
  | none =>
      dsimp only
      rw [wp_bind, onOk_ending]
      refine wp_createClientGroup found (fun uid t replaced => ?_) fun error raised =>
        ⟨here, ⟨w, _, error, raised⟩, here⟩
      apply ensured t ⟨uid, ⟨name, []⟩⟩ replaced
      simp [nfsState, GroupAccess.held, found, ClientGroup.networks, ClientGroup.addresses]
  | some group =>
      dsimp only
      rw [wp_bind, onOk_ending]
      refine wp_getClientGroup found here ?_ fun error raised => ⟨⟨w, _, error, raised⟩, here⟩
      have unchanged : GroupReplaced w w name (some group) := by
        rw [← found]
        exact .refl w name
      have same : group.val.networks = (nfsState fsName w name).held := by
        simp [nfsState, GroupAccess.held, found]
      exact (ensured w group unchanged same).2

/-- The group holds the network afterwards; a wrong report that it does already
is believed. -/
theorem wp_ensureGroupRule {done : Unit → World → Prop}
    (found : w.cluster.clientGroups.find? name = some group) (here : passed w)
    (ensured : ∀ t group', GroupReplaced w t name (some group') →
      (group'.val.networks = group.val.networks ∨
        group'.val.networks = insert (normWekaIp (storedRule wekaIp)) group.val.networks) →
      (Honest fault → (group.val.networks ⊆ {normWekaIp (storedRule wekaIp)} ∨
          normWekaIp wekaIp = normWekaIp (storedRule wekaIp)) →
        group'.val.networks = insert (normWekaIp (storedRule wekaIp)) group.val.networks) →
      passed t ∧ done () t) :
    (ensureGroupRule group.uid wekaIp group.val.addresses).wp (service fault) (passing passed)
      (ending done fun _ t => Possible fault ∧ passed t) w := by
  have unchanged : GroupReplaced w w name (some group) := by
    rw [← found]
    exact .refl w name
  unfold ensureGroupRule
  rw [wp_ite]
  split
  · rw [wp_tryCatch, onError_ending, wp_bind, onOk_ending]
    refine wp_addClientGroupRule found ?_ ?_ ?_
    · intro rule t replaced
      exact ensured t ⟨group.uid, group.val.addRule .ip (storedRule wekaIp)⟩ replaced
        (Or.inr networks_addRule) fun _ _ => networks_addRule
    · intro present
      have tolerated : isAlreadyExistsError
          (.api (.generic 400 "/nfs/clientGroups: rule already exists")) = true := by decide
      have same := (insert_networks_of_present present).symm
      refine ⟨here, ?_⟩
      rw [ending_error, tolerated]
      exact (ensured w group unchanged (Or.inl rfl) fun _ _ => same).2
    · intro error raised
      refine ⟨here, ?_⟩
      rw [ending_error, wp_ite]
      split
      · next tolerated =>
          apply (ensured w group unchanged (Or.inl rfl) _).2
          intro honest _
          obtain ⟨entry, present, there⟩ := honest.alreadyThere w _ _ error raised
            (Bool.or_eq_true_iff.mpr (Or.inl tolerated))
          rw [Registry.get?_of_find? found, Option.some.injEq] at present
          subst present
          exact (insert_networks_of_present there).symm
      · exact ⟨⟨w, _, error, raised⟩, here⟩
  · next member =>
      apply (ensured w group unchanged (Or.inl rfl) _).2
      intro _ reads
      have held : normWekaIp wekaIp ∈ group.val.networks :=
        List.mem_toFinset.mpr (not_not.mp member)
      have same : normWekaIp wekaIp = normWekaIp (storedRule wekaIp) := by
        rcases reads with fits | same
        · exact Finset.mem_singleton.mp (fits held)
        · exact same
      rw [← same]
      exact (Finset.insert_eq_of_mem held).symm

/-- The permission is of the type afterwards; one of another type is withdrawn
first. -/
theorem wp_ensureNfsPermission {done : Unit → World → Prop} (rooted : Rooted fsName w)
    (named : name ≠ "") (here : passed w)
    (withdrawn : ∀ t, Rooted fsName t → (nfsState fsName w name).permission ≠ some type →
      nfsState fsName t =
        Function.update (nfsState fsName w) name ⟨(nfsState fsName w name).networks, none⟩ →
      passed t)
    (ensured : ∀ t, Rooted fsName t → nfsState fsName t =
        Function.update (nfsState fsName w) name ⟨(nfsState fsName w name).networks, some type⟩ →
      passed t ∧ done () t) :
    (ensureNfsPermission fsName name type).wp (service fault) (passing passed)
      (ending done fun _ t => Possible fault ∧ passed t) w := by
  unfold ensureNfsPermission
  rw [wp_bind, onOk_ending]
  refine wp_findNfsPermission rooted here ?_ fun error raised => ⟨⟨w, _, error, raised⟩, here⟩
  rw [ending_ok]
  cases found : w.cluster.permissions.find? (fsName, name, "/") with
  | none =>
      dsimp only
      rw [wp_bind, onOk_ending]
      refine wp_createNfsPermission found (fun uid t replaced => ?_) fun error raised =>
        ⟨here, ⟨w, _, error, raised⟩, here⟩
      exact ensured t (replaced.rooted rooted fun _ => ⟨rfl, named⟩) replaced.nfsState
  | some permission =>
      have held : (nfsState fsName w name).permission = some permission.val.permissionType := by
        simp only [nfsState, found, Option.map_some]
      dsimp only
      rw [wp_ite]
      split
      · next differs =>
          rw [wp_bind, onOk_ending]
          have present := Registry.get?_of_find? found
          refine wp_deleteNfsPermission ?_ ?_ fun error raised =>
            ⟨here, ⟨w, _, error, raised⟩, here⟩
          · intro permission' t present' replaced
            rw [present, Option.some.injEq] at present'
            subst present'
            have key : Keyed.key permission.val = (fsName, name, "/") :=
              (Registry.find?_eq_some_iff.mp found).2
            rw [key] at replaced
            have rooted' : Rooted fsName t :=
              replaced.rooted rooted fun impossible => by cases impossible
            have there : passed t := by
              refine withdrawn t rooted' ?_ replaced.nfsState
              rw [held]
              exact fun same => differs (Option.some.inj same)
            refine ⟨there, ?_⟩
            rw [ending_ok, wp_bind, onOk_ending]
            refine wp_createNfsPermission replaced.found (fun uid u replaced' => ?_)
              fun error raised => ⟨there, ⟨t, _, error, raised⟩, there⟩
            apply ensured u (replaced'.rooted rooted' fun _ => ⟨rfl, named⟩)
            rw [replaced'.nfsState, replaced.nfsState, Function.update_idem, Function.update_self]
            rfl
          · intro gone
            rw [present] at gone
            cases gone
      · next same =>
          apply (ensured w rooted _).2
          rw [not_not] at same
          rw [← same, ← held]
          exact (Function.update_eq_self _ _).symm

/-- Whatever fails, applying a rule passes through the states of accepting its
grant. When it returns, the permission is in force, and the network is held
unless a wrong report was believed or the group held something else and the
network is read differently than it was given. -/
theorem wp_applyNfsRule {share : Share} {rule : AccessRule} {grant : Grant}
    (rooted : Rooted fsName w) (read : cidrToWekaIp rule.accessTo = .ok wekaIp)
    (granted : grant = ⟨nfsCgName share.id rule.accessId, normWekaIp (storedRule wekaIp),
      nfsType rule.accessLevel⟩) :
    (applyNfsRule share fsName rule).wp (service fault)
      (passing (Exporting fsName ((nfsState fsName w).Accepting grant)))
      (ending
        (fun _ t => Exporting fsName ((nfsState fsName w).Accepting grant) t ∧
          (nfsState fsName t grant.group).permission = some grant.type ∧
          (Honest fault → ((nfsState fsName w grant.group).held ⊆ {grant.network} ∨
              normWekaIp wekaIp = grant.network) →
            nfsState fsName t = (nfsState fsName w).accept grant))
        (fun _ t => Possible fault ∧
          Exporting fsName ((nfsState fsName w).Accepting grant) t)) w := by
  subst granted
  generalize named : nfsCgName share.id rule.accessId = name
  have nonempty : name ≠ "" := by
    intro empty
    have lists := congrArg String.toList (named.trans empty)
    simp [nfsCgName, nfsCgPrefix] at lists
  -- With the group's part done, the permission is as it was.
  have grouped : ∀ t (group : Entry ClientGroup), GroupReplaced w t name (some group) →
      nfsState fsName t = Function.update (nfsState fsName w) name
        ⟨some group.val.networks, (nfsState fsName w name).permission⟩ :=
    fun t group replaced => replaced.nfsState
  have accepting : ∀ access, (nfsState fsName w name).Accepting (normWekaIp (storedRule wekaIp))
      (nfsType rule.accessLevel) access → (nfsState fsName w).Accepting
        ⟨name, normWekaIp (storedRule wekaIp), nfsType rule.accessLevel⟩
          (Function.update (nfsState fsName w) name access) :=
    fun access step => ⟨access, step, rfl⟩
  have here : Exporting fsName ((nfsState fsName w).Accepting
      ⟨name, normWekaIp (storedRule wekaIp), nfsType rule.accessLevel⟩) w := ⟨rooted, .refl⟩
  unfold applyNfsRule
  rw [read, named]
  dsimp only
  refine wp_bind_of (fun result t => GroupReplaced w t name (some result.1) ∧
    result.2 = result.1.val.addresses ∧
    result.1.val.networks = (nfsState fsName w name).held)
    (wp_ensureClientGroup fsName here fun t group replaced same => ?_) fun result t reached => ?_
  · refine ⟨⟨replaced.rooted rooted, ?_⟩, replaced, rfl, same⟩
    rw [grouped t group replaced, same]
    exact accepting _ ⟨Or.inr (Or.inl rfl), Or.inl rfl⟩
  obtain ⟨group, existing⟩ := result
  obtain ⟨replaced, listed, same⟩ := reached
  dsimp only at replaced listed same ⊢
  subst listed
  have there : Exporting fsName ((nfsState fsName w).Accepting
      ⟨name, normWekaIp (storedRule wekaIp), nfsType rule.accessLevel⟩) t := by
    refine ⟨replaced.rooted rooted, ?_⟩
    rw [grouped t group replaced, same]
    exact accepting _ ⟨Or.inr (Or.inl rfl), Or.inl rfl⟩
  refine wp_bind_of (fun _ u => Rooted fsName u ∧ ∃ networks,
    nfsState fsName u = Function.update (nfsState fsName w) name
      ⟨some networks, (nfsState fsName w name).permission⟩ ∧
    (networks = (nfsState fsName w name).held ∨
      networks = insert (normWekaIp (storedRule wekaIp)) (nfsState fsName w name).held) ∧
    (Honest fault → ((nfsState fsName w name).held ⊆ {normWekaIp (storedRule wekaIp)} ∨
        normWekaIp wekaIp = normWekaIp (storedRule wekaIp)) →
      networks = insert (normWekaIp (storedRule wekaIp)) (nfsState fsName w name).held))
    (wp_ensureGroupRule replaced.found there fun u group' replaced' networks exact' => ?_)
    fun _ u reached => ?_
  · have total := replaced.trans replaced'
    rw [same] at networks exact'
    refine ⟨⟨total.rooted rooted, ?_⟩, total.rooted rooted, group'.val.networks,
      grouped u group' total, networks, exact'⟩
    rw [grouped u group' total]
    apply accepting
    rcases networks with kept | added
    · rw [kept]
      exact ⟨Or.inr (Or.inl rfl), Or.inl rfl⟩
    · rw [added]
      exact ⟨Or.inr (Or.inr rfl), Or.inl rfl⟩
  obtain ⟨rooted', networks, state, held, exact'⟩ := reached
  have networked : ∀ permission, (permission = (nfsState fsName w name).permission ∨
      permission = some (nfsType rule.accessLevel) ∨
      (nfsState fsName w name).permission ≠ some (nfsType rule.accessLevel) ∧ permission = none) →
      (nfsState fsName w).Accepting
        ⟨name, normWekaIp (storedRule wekaIp), nfsType rule.accessLevel⟩
          (Function.update (nfsState fsName w) name ⟨some networks, permission⟩) := by
    intro permission left
    apply accepting
    refine ⟨?_, left⟩
    rcases held with kept | added
    · rw [kept]
      exact Or.inr (Or.inl rfl)
    · rw [added]
      exact Or.inr (Or.inr rfl)
  have at' : nfsState fsName u name = ⟨some networks, (nfsState fsName w name).permission⟩ := by
    rw [state, Function.update_self]
  apply wp_ensureNfsPermission rooted' nonempty
  · refine ⟨rooted', ?_⟩
    rw [state]
    exact networked _ (Or.inl rfl)
  · intro v rooted'' differs left
    rw [at'] at differs left
    rw [state, Function.update_idem] at left
    refine ⟨rooted'', ?_⟩
    rw [left]
    exact networked _ (Or.inr (Or.inr ⟨differs, rfl⟩))
  · intro v rooted'' left
    rw [at', state, Function.update_idem] at left
    have final : Exporting fsName ((nfsState fsName w).Accepting
        ⟨name, normWekaIp (storedRule wekaIp), nfsType rule.accessLevel⟩) v := by
      refine ⟨rooted'', ?_⟩
      rw [left]
      exact networked _ (Or.inr (Or.inl rfl))
    refine ⟨final, final, ?_, fun honest reads => ?_⟩
    · rw [left, Function.update_self]
    · rw [left, exact' honest reads]
      rfl

end Apply

end WekaShareDriver
