import WekaShareDriver.Access.NfsCalls
import WekaShareDriver.Access.WekafsSpec
import WekaShareDriver.Foundation.Obeys

/-! # Exports that are left alone

Some client groups are foreign to a filesystem's own rules. What is left alone
while its exports change (`WekaShareDriver.LeftAlone`) are the foreign groups, the
permissions to them, and the permissions of every other filesystem. A request
names the group or the permission it changes by a uid, and the driver takes the
uid from what was listed; a uid listed for something else stands for nothing
foreign (`WekaShareDriver.LeftAlone.groupFree`,
`WekaShareDriver.LeftAlone.permissionFree`).
-/

namespace WekaShareDriver

open Foundation Program

/-- The permissions of a filesystem to a group, as they are listed. -/
def exportedTo (filesystem name : String) (w : World) : List (Entry NfsPermission) :=
  w.cluster.permissions.rows.filter fun perm =>
    perm.val.filesystem = filesystem && perm.val.group = name

/-- The foreign groups, the permissions to them and those of other filesystems are
the same. -/
structure LeftAlone (fsName : String) (foreign : String → Prop) (w t : World) : Prop where
  groups : ∀ name, foreign name →
    t.cluster.clientGroups.find? name = w.cluster.clientGroups.find? name
  exports : ∀ filesystem name, filesystem ≠ fsName ∨ foreign name →
    exportedTo filesystem name t = exportedTo filesystem name w

/-- No foreign group has the uid. -/
def GroupFree (foreign : String → Prop) (w : World) (uid : Uid) : Prop :=
  ∀ group ∈ w.cluster.clientGroups.rows, foreign group.val.name → group.uid ≠ uid

/-- A foreign group with the uid has the rule already. -/
def RuleHeld (foreign : String → Prop) (w : World) (uid : Uid) (type : GroupRuleType)
    (value : String) : Prop :=
  ∃ group ∈ w.cluster.clientGroups.rows, group.uid = uid ∧ foreign group.val.name ∧
    ∃ rule ∈ group.val.rules, rule.type = type ∧ rule.rule = storedRule value

/-- No permission of another filesystem or to a foreign group has the uid. -/
def PermissionFree (fsName : String) (foreign : String → Prop) (w : World) (uid : Uid) : Prop :=
  ∀ perm ∈ w.cluster.permissions.rows, perm.val.filesystem ≠ fsName ∨ foreign perm.val.group →
    perm.uid ≠ uid

/-- The requests about exports that change nothing foreign. -/
def Request.spares (fsName : String) (foreign : String → Prop) (w : World) : Request → Prop
  | .listClientGroups => True
  | .getClientGroup _ => True
  | .createClientGroup name => ¬ foreign name
  | .addClientGroupRule uid type value => GroupFree foreign w uid ∨ RuleHeld foreign w uid type value
  | .deleteClientGroupRule uid _ => GroupFree foreign w uid
  | .deleteClientGroup uid => GroupFree foreign w uid
  | .listNfsPermissions => True
  | .createNfsPermission name filesystem .. => filesystem = fsName ∧ ¬ foreign name
  | .deleteNfsPermission uid => PermissionFree fsName foreign w uid
  | _ => False

/-- A request of the administrator's that changes nothing foreign. -/
def Spares (fsName : String) (foreign : String → Prop) (w : World) (op : Op) : Prop :=
  ∃ request : Request, op = .api .admin request ∧ request.spares fsName foreign w

variable {fsName filesystem name : String} {foreign foreign' : String → Prop} {fault : Fault}
  {w s t : World} {uid : Uid}

/-- What is exported to a group are the permissions of the filesystem and the group. -/
theorem mem_exportedTo {perm : Entry NfsPermission} : perm ∈ exportedTo filesystem name w ↔
    perm ∈ w.cluster.permissions.rows ∧ perm.val.filesystem = filesystem ∧ perm.val.group = name := by
  simp [exportedTo]

/-- Nothing is exported to a group that no permission of the filesystem names. -/
theorem exportedTo_eq_nil_iff : exportedTo filesystem name w = [] ↔
    ∀ perm ∈ w.cluster.permissions.rows, perm.val.filesystem = filesystem →
      perm.val.group ≠ name := by
  simp [exportedTo]

/-- The permission for a filesystem and a group is the first one listed. -/
theorem find?_rows_eq_head? (w : World) (filesystem name : String) :
    (w.cluster.permissions.rows.find? fun perm =>
      perm.val.filesystem = filesystem && perm.val.group = name) =
        (exportedTo filesystem name w).head? :=
  List.head?_filter.symm

namespace LeftAlone

/-- Doing nothing leaves everything foreign alone. -/
theorem refl (w : World) : LeftAlone fsName foreign w w := ⟨fun _ _ => rfl, fun _ _ _ => rfl⟩

/-- What is left alone twice is left alone. -/
theorem trans (first : LeftAlone fsName foreign w s) (second : LeftAlone fsName foreign s t) :
    LeftAlone fsName foreign w t :=
  ⟨fun name held => (second.groups name held).trans (first.groups name held),
    fun filesystem name held =>
      (second.exports filesystem name held).trans (first.exports filesystem name held)⟩

/-- What is left alone was there as it is now. -/
theorem symm (leftAlone : LeftAlone fsName foreign w t) : LeftAlone fsName foreign t w :=
  ⟨fun name held => (leftAlone.groups name held).symm,
    fun filesystem name held => (leftAlone.exports filesystem name held).symm⟩

/-- Leaving some groups alone leaves fewer of them alone. -/
theorem mono (leftAlone : LeftAlone fsName foreign w t)
    (narrower : ∀ name, foreign' name → foreign name) : LeftAlone fsName foreign' w t :=
  ⟨fun name held => leftAlone.groups name (narrower name held),
    fun filesystem name held => leftAlone.exports filesystem name (held.imp_right (narrower name))⟩

/-- A foreign group is still there. -/
theorem group_mem (leftAlone : LeftAlone fsName foreign w s) {group : Entry ClientGroup}
    (member : group ∈ w.cluster.clientGroups.rows) (held : foreign group.val.name) :
    group ∈ s.cluster.clientGroups.rows := by
  have found := Registry.find?_of_mem member
  have same := leftAlone.groups group.val.name held
  exact (Registry.find?_eq_some_iff.mp (same.trans found)).1

/-- A permission to a foreign group or of another filesystem is still there. -/
theorem permission_mem (leftAlone : LeftAlone fsName foreign w s) {perm : Entry NfsPermission}
    (member : perm ∈ w.cluster.permissions.rows)
    (held : perm.val.filesystem ≠ fsName ∨ foreign perm.val.group) :
    perm ∈ s.cluster.permissions.rows := by
  have listed : perm ∈ exportedTo perm.val.filesystem perm.val.group w :=
    mem_exportedTo.mpr ⟨member, rfl, rfl⟩
  rw [← leftAlone.exports _ _ held] at listed
  exact (mem_exportedTo.mp listed).1

/-- The uid of a group that is not foreign is no foreign group's. -/
theorem groupFree (leftAlone : LeftAlone fsName foreign w s) {group : Entry ClientGroup}
    (member : group ∈ s.cluster.clientGroups.rows) (own : ¬ foreign group.val.name) :
    GroupFree foreign w group.uid := by
  intro other earlier held same
  have there := leftAlone.group_mem earlier held
  rw [Registry.eq_of_uid _ there member same] at held
  exact own held

/-- The next uid is no foreign group's. -/
theorem groupFree_next (leftAlone : LeftAlone fsName foreign w s) :
    GroupFree foreign w s.cluster.clientGroups.next := by
  intro other earlier held
  exact Nat.ne_of_lt (s.cluster.clientGroups.below other (leftAlone.group_mem earlier held))

private theorem permissionFree (leftAlone : LeftAlone fsName foreign w s)
    {perm : Entry NfsPermission}
    (member : perm ∈ s.cluster.permissions.rows) (here : perm.val.filesystem = fsName)
    (own : ¬ foreign perm.val.group) : PermissionFree fsName foreign w perm.uid := by
  intro other earlier held same
  have there := leftAlone.permission_mem earlier held
  rw [Registry.eq_of_uid _ there member same] at held
  rcases held with elsewhere | held
  · exact elsewhere here
  · exact own held

private theorem groupFree_of (leftAlone : LeftAlone fsName foreign w s)
    (free : GroupFree foreign w uid) :
    GroupFree foreign s uid :=
  fun group member held => free group (leftAlone.symm.group_mem member held) held

private theorem permissionFree_of (leftAlone : LeftAlone fsName foreign w s)
    (free : PermissionFree fsName foreign w uid) : PermissionFree fsName foreign s uid :=
  fun perm member held => free perm (leftAlone.symm.permission_mem member held) held

end LeftAlone

/-! ## What a sparing request leaves -/

/-- Replacing the group of a name that is not foreign. -/
theorem leftAlone_of_groups {clientGroups : Registry ClientGroup} {left : Option (Entry ClientGroup)}
    (own : ¬ foreign name)
    (lookup : clientGroups.find? = Function.update w.cluster.clientGroups.find? name left) :
    LeftAlone fsName foreign w { w with cluster := { w.cluster with clientGroups } } := by
  refine ⟨fun other held => ?_, fun _ _ _ => rfl⟩
  have apart : other ≠ name := by
    rintro rfl
    exact own held
  change clientGroups.find? other = _
  rw [lookup, Function.update_of_ne apart]

private theorem leftAlone_modify {group : Entry ClientGroup} (free : GroupFree foreign w uid)
    (found : w.cluster.clientGroups.get? uid = some group) (change' : ClientGroup → ClientGroup)
    (keeps : ∀ group, Keyed.key (change' group) = Keyed.key group) :
    LeftAlone fsName foreign w { w with cluster := { w.cluster with
      clientGroups := w.cluster.clientGroups.modify group.uid change' keeps } } := by
  obtain ⟨member, same⟩ := Registry.get?_eq_some_iff.mp found
  have named := Registry.find?_of_mem member
  exact leftAlone_of_groups (fun held => free group member held same)
    (Registry.find?_modify named change' keeps)

private theorem leftAlone_erase {group : Entry ClientGroup} (free : GroupFree foreign w uid)
    (found : w.cluster.clientGroups.get? uid = some group) :
    LeftAlone fsName foreign w { w with cluster := { w.cluster with
      clientGroups := w.cluster.clientGroups.erase group.uid } } := by
  obtain ⟨member, same⟩ := Registry.get?_eq_some_iff.mp found
  exact leftAlone_of_groups (fun held => free group member held same)
    (Registry.find?_erase (Registry.find?_of_mem member))

/-- Replacing the permissions where those listed for others are the same. -/
theorem leftAlone_of_permissions {permissions : Registry NfsPermission}
    (listed : ∀ filesystem name, filesystem ≠ fsName ∨ foreign name →
      (permissions.rows.filter fun perm =>
        perm.val.filesystem = filesystem && perm.val.group = name) =
          exportedTo filesystem name w) :
    LeftAlone fsName foreign w { w with cluster := { w.cluster with permissions } } :=
  ⟨fun _ _ => rfl, listed⟩

private theorem leftAlone_permit {perm : NfsPermission} (here : perm.filesystem = fsName)
    (own : ¬ foreign perm.group) :
    LeftAlone fsName foreign w { w with cluster := { w.cluster with
      permissions := w.cluster.permissions.insert perm } } := by
  apply leftAlone_of_permissions
  intro filesystem name held
  have apart : ¬ (perm.filesystem = filesystem ∧ perm.group = name) := by
    rintro ⟨rfl, rfl⟩
    rcases held with elsewhere | held
    · exact elsewhere here
    · exact own held
  unfold Registry.insert
  split
  · next free =>
      simp only [Registry.issue, List.filter_append]
      rw [List.filter_cons_of_neg (by simpa using apart), List.filter_nil, List.append_nil]
      rfl
  · rfl

private theorem leftAlone_revoke (free : PermissionFree fsName foreign w uid) :
    LeftAlone fsName foreign w { w with cluster := { w.cluster with
      permissions := w.cluster.permissions.erase uid } } := by
  apply leftAlone_of_permissions
  intro filesystem name held
  simp only [Registry.erase, Registry.filter, List.filter_filter]
  refine List.filter_congr fun perm member => ?_
  by_cases selected : perm.val.filesystem = filesystem ∧ perm.val.group = name
  · obtain ⟨rfl, rfl⟩ := selected
    simp [free perm member held]
  · have out : (decide (perm.val.filesystem = filesystem) && decide (perm.val.group = name)) =
        false := by simpa using selected
    rw [out, Bool.false_and]

/-- A sparing request touches nothing foreign. -/
theorem leftAlone_answer {request : Request} (spares : request.spares fsName foreign w) :
    LeftAlone fsName foreign w
      { w with cluster := (w.cluster.answer .admin request).2 } := by
  cases request with
  | listClientGroups | listNfsPermissions => exact .refl w
  | getClientGroup uid =>
      simp only [Cluster.answer]
      split <;> exact .refl w
  | createClientGroup name =>
      simp only [Cluster.answer, Cluster.create]
      split
      · exact .refl w
      · next free => exact leftAlone_of_groups spares (Registry.find?_insert _ _ free)
  | addClientGroupRule uid type value =>
      simp only [Cluster.answer]
      split
      · next group found =>
          split
          · exact .refl w
          · next missing =>
              rcases spares with free | ⟨held, member, rfl, -, there⟩
              · exact leftAlone_modify free found (·.addRule type (storedRule value)) fun _ => rfl
              · rw [Registry.get?_of_mem member, Option.some.injEq] at found
                subst found
                exact absurd there missing
      · exact .refl w
  | deleteClientGroupRule uid ruleUid =>
      simp only [Cluster.answer]
      split
      · next group found =>
          exact leftAlone_modify spares found (·.deleteRule ruleUid) fun _ => rfl
      · exact .refl w
  | deleteClientGroup uid =>
      simp only [Cluster.answer]
      split
      · next group found =>
          split
          · exact leftAlone_erase spares found
          · exact .refl w
      · exact .refl w
  | createNfsPermission group filesystem path type squash =>
      simp only [Cluster.answer, Cluster.create]
      split
      · exact .refl w
      · exact leftAlone_permit spares.1 spares.2
  | deleteNfsPermission uid =>
      simp only [Cluster.answer]
      split
      · next perm found =>
          have same : perm.uid = uid := (Registry.get?_eq_some_iff.mp found).2
          rw [same]
          exact leftAlone_revoke spares
      · exact .refl w
  | _ => exact spares.elim

/-- A sparing request keeps what was leftAlone so. -/
theorem LeftAlone.step {op : Op} {answer : Except Error op.Res}
    (leftAlone : LeftAlone fsName foreign w s) (spares : Spares fsName foreign w op)
    (answered : service fault s op answer t) : LeftAlone fsName foreign w t := by
  obtain ⟨request, rfl, spared⟩ := spares
  rcases answered_world answered with rfl | rfl
  · refine leftAlone.trans (leftAlone_answer ?_)
    cases request with
    | addClientGroupRule uid type value =>
        refine spared.imp leftAlone.groupFree_of ?_
        rintro ⟨held, member, same, foreign', there⟩
        exact ⟨held, leftAlone.group_mem member foreign', same, foreign', there⟩
    | deleteClientGroupRule uid ruleUid | deleteClientGroup uid =>
        exact leftAlone.groupFree_of spared
    | deleteNfsPermission uid => exact leftAlone.permissionFree_of spared
    | _ => exact spared
  · exact leftAlone

/-! ## Programs that spare what is foreign -/

/-- Applying a rule would find its group with its address, in the form of the rule or
as the cluster stores it, and its permission with its type. -/
def AccessRule.Settled (share : Share) (fsName : String) (rule : AccessRule) (w : World) : Prop :=
  ∀ wekaIp, cidrToWekaIp rule.accessTo = .ok wekaIp →
    (∃ group, w.cluster.clientGroups.find? (nfsCgName share.id rule.accessId) = some group ∧
      (normWekaIp wekaIp ∈ group.val.addresses ∨
        ∃ held ∈ group.val.rules, held.type = .ip ∧ held.rule = storedRule wekaIp)) ∧
    ∃ perm, (exportedTo fsName (nfsCgName share.id rule.accessId) w).head? = some perm ∧
      perm.val.permissionType = nfsType rule.accessLevel

/-- A program that touches nothing foreign, whatever fails. -/
abbrev SparesForeign (fault : Fault) (fsName : String) (foreign : String → Prop) (w : World)
    {α : Type} (program : Driver α) : Prop :=
  Obeys (service fault) (LeftAlone fsName foreign w) (fun _ op _ => Spares fsName foreign w op)
    program

section Programs

variable {cfg : Config} {share : Share} {rule : AccessRule} {α : Type}

private theorem spares_of_uses {program : Driver α}
    (uses : program.Uses (Spares fsName foreign w)) :
    SparesForeign fault fsName foreign w program :=
  .of_uses uses fun _ _ _ _ spares leftAlone answered =>
    ⟨spares, leftAlone.step spares answered⟩

private theorem uses_sparing {request : Request} (spares : request.spares fsName foreign w) :
    (send .admin request).Uses (Spares fsName foreign w) :=
  uses_perform ⟨request, rfl, spares⟩

/-- What is listed is what stands in a state that is leftAlone so far. -/
theorem spares_listNfsPermissions {rest : List (Entry NfsPermission) → Driver α}
    (each : ∀ s, LeftAlone fsName foreign w s →
      SparesForeign fault fsName foreign w (rest s.cluster.permissions.rows)) :
    SparesForeign fault fsName foreign w (send .admin .listNfsPermissions >>= rest) := by
  intro s leftAlone
  have lists : Spares fsName foreign w (.api .admin .listNfsPermissions) := ⟨_, rfl, trivial⟩
  rw [wp_bind, onOk_ending]
  exact wp_listNfsPermissions ⟨lists, leftAlone⟩ (each s leftAlone s leftAlone) fun _ _ => leftAlone

private theorem spares_getClientGroupByName {rest : Option (Entry ClientGroup) → Driver α}
    (each : ∀ s, LeftAlone fsName foreign w s →
      SparesForeign fault fsName foreign w (rest (s.cluster.clientGroups.find? name))) :
    SparesForeign fault fsName foreign w (getClientGroupByName name >>= rest) := by
  intro s leftAlone
  have lists : Spares fsName foreign w (.api .admin .listClientGroups) := ⟨_, rfl, trivial⟩
  rw [wp_bind, onOk_ending]
  exact wp_getClientGroupByName ⟨lists, leftAlone⟩ (each s leftAlone s leftAlone) fun _ _ => leftAlone

/-- A group of a name that is not foreign is changed freely once it is found. -/
theorem spares_foundGroup {rest : Option (Entry ClientGroup) → Driver α} (own : ¬ foreign name)
    (missing : SparesForeign fault fsName foreign w (rest none))
    (present : ∀ group, GroupFree foreign w group.uid →
      SparesForeign fault fsName foreign w (rest (some group))) :
    SparesForeign fault fsName foreign w (getClientGroupByName name >>= rest) := by
  apply spares_getClientGroupByName
  intro s leftAlone
  cases found : s.cluster.clientGroups.find? name with
  | none => exact missing
  | some group =>
      obtain ⟨member, named⟩ := Registry.find?_eq_some_iff.mp found
      have same : group.val.name = name := named
      exact present group (leftAlone.groupFree member (same.symm ▸ own))

private theorem uses_deleteFreeGroup (free : GroupFree foreign w uid) :
    (deleteClientGroup uid).Uses (Spares fsName foreign w) := by
  refine .bind (.tryCatch (.bind (uses_sparing trivial) fun group => ?_) fun _ => trivial)
    fun _ => uses_sparing free
  exact .forM fun rule _ => .tryCatch (uses_sparing free) fun _ => trivial

private theorem spares_deleteClientGroupByName (own : ¬ foreign name) :
    SparesForeign fault fsName foreign w (deleteClientGroupByName name) := by
  refine spares_foundGroup own (.pure _) fun group free => spares_of_uses ?_
  exact .tryCatch (uses_deleteFreeGroup free) fun _ => .ite (fun _ => trivial) fun _ => trivial

/-- The rest of an application, with the group at hand. -/
theorem spares_ensureNfsPermission (own : ¬ foreign name) (type : PermissionType) :
    SparesForeign fault fsName foreign w (ensureNfsPermission fsName name type) := by
  have permits : Request.spares fsName foreign w
      (.createNfsPermission name fsName "/" type false) := ⟨rfl, own⟩
  unfold ensureNfsPermission findNfsPermission
  rw [LawfulMonad.bind_assoc]
  apply spares_listNfsPermissions
  intro s leftAlone
  rw [LawfulMonad.pure_bind, find?_rows_eq_head?]
  cases listed : (exportedTo fsName name s).head? with
  | none => exact spares_of_uses (.bind (uses_sparing permits) fun _ => trivial)
  | some perm =>
      obtain ⟨member, here, named⟩ := mem_exportedTo.mp (List.mem_of_mem_head? listed)
      have free := leftAlone.permissionFree member here (named.symm ▸ own)
      refine spares_of_uses (.ite (fun _ => .bind (uses_sparing free) fun _ => ?_) fun _ => trivial)
      exact .bind (uses_sparing permits) fun _ => trivial

/-- Applying a rule to a group that is not foreign. -/
theorem spares_applyOwnRule (own : ¬ foreign (nfsCgName share.id rule.accessId)) :
    SparesForeign fault fsName foreign w (applyNfsRule share fsName rule) := by
  unfold applyNfsRule
  cases cidrToWekaIp rule.accessTo with
  | error error => exact .throw _
  | ok wekaIp =>
      have adds (group : Entry ClientGroup) (existing : List String)
          (free : GroupFree foreign w group.uid) :
          (ensureGroupRule group.uid wekaIp existing).Uses (Spares fsName foreign w) :=
        .ite (fun _ => .tryCatch (.bind (uses_sparing (Or.inl free)) fun _ => trivial) fun _ =>
          .ite (fun _ => trivial) fun _ => trivial) fun _ => trivial
      unfold ensureClientGroup
      dsimp only
      rw [LawfulMonad.bind_assoc]
      refine spares_foundGroup own ?_ fun group free => ?_
      · -- The group is made, under a uid that no group had.
        intro s leftAlone
        dsimp only
        rw [LawfulMonad.bind_assoc]
        have makes : Spares fsName foreign w
          (.api .admin (.createClientGroup (nfsCgName share.id rule.accessId))) := ⟨_, rfl, own⟩
        apply wp_bind_of fun group t =>
          LeftAlone fsName foreign w t ∧ GroupFree foreign w group.uid
        · rw [wp_send]
          have made : service fault s (.api .admin (.createClientGroup (nfsCgName share.id
              rule.accessId))) _ _ := Or.inl rfl
          refine ⟨⟨⟨makes, leftAlone.step makes made⟩, ?_⟩, fun _ _ => ⟨⟨makes, leftAlone⟩, leftAlone⟩⟩
          have left := leftAlone.step makes made
          simp only [Cluster.answer, Cluster.create] at left ⊢
          split
          · exact leftAlone
          · next free =>
              rw [free] at left
              exact ⟨left, leftAlone.groupFree_next⟩
        · intro group t made
          rw [LawfulMonad.pure_bind]
          refine (Obeys.bind (spares_of_uses (adds group [] made.2)) fun _ =>
            spares_ensureNfsPermission own _) t made.1
      · dsimp only
        rw [LawfulMonad.bind_assoc]
        refine .bind (spares_of_uses (uses_sparing trivial)) fun detail => ?_
        rw [LawfulMonad.pure_bind]
        exact .bind (spares_of_uses (adds group _ free)) fun _ => spares_ensureNfsPermission own _

/-- Applying a rule that is settled in its group changes nothing. -/
theorem spares_applySettledRule (foreign' : foreign (nfsCgName share.id rule.accessId))
    (settled : rule.Settled share fsName w) :
    SparesForeign fault fsName foreign w (applyNfsRule share fsName rule) := by
  unfold applyNfsRule
  cases read : cidrToWekaIp rule.accessTo with
  | error error => exact .throw _
  | ok wekaIp =>
      obtain ⟨⟨group, found, listed⟩, perm, exported, typed⟩ := settled wekaIp read
      have permitted : SparesForeign fault fsName foreign w (ensureNfsPermission fsName
          (nfsCgName share.id rule.accessId) (nfsType rule.accessLevel)) := by
        unfold ensureNfsPermission findNfsPermission
        rw [LawfulMonad.bind_assoc]
        apply spares_listNfsPermissions
        intro s leftAlone
        rw [LawfulMonad.pure_bind, find?_rows_eq_head?, leftAlone.exports _ _ (Or.inr foreign'),
          exported]
        exact .ite (fun differs => absurd typed differs) fun _ => .pure _
      unfold ensureClientGroup
      dsimp only
      rw [LawfulMonad.bind_assoc]
      apply spares_getClientGroupByName
      intro s leftAlone
      have here := (leftAlone.groups _ foreign').trans found
      rw [here]
      dsimp only
      rw [LawfulMonad.bind_assoc]
      -- The details are those of the group that was listed.
      intro t leftAlone'
      have reads : Spares fsName foreign w (.api .admin (.getClientGroup group.uid)) :=
        ⟨_, rfl, trivial⟩
      rw [wp_bind, onOk_ending]
      refine wp_getClientGroup ((leftAlone'.groups _ foreign').trans found) ⟨reads, leftAlone'⟩ ?_
        fun _ _ => leftAlone'
      rw [ending_ok, LawfulMonad.pure_bind]
      have known : SparesForeign fault fsName foreign w
          (ensureGroupRule group.uid wekaIp group.val.addresses) := by
        refine .ite (fun missing => spares_of_uses ?_) fun _ => .pure _
        obtain ⟨member, named⟩ := Registry.find?_eq_some_iff.mp found
        have same : group.val.name = nfsCgName share.id rule.accessId := named
        have held : RuleHeld foreign w group.uid .ip wekaIp :=
          ⟨group, member, rfl, same.symm ▸ foreign', listed.resolve_left missing⟩
        exact .tryCatch (.bind (uses_sparing (Or.inr held)) fun _ => trivial) fun _ =>
          .ite (fun _ => trivial) fun _ => trivial
      exact Obeys.bind known (fun _ => permitted) t leftAlone'

/-- Applying a rule touches nothing foreign, if its own group is not foreign or would be found as
the rule leaves it. -/
theorem spares_addNfsRule (states : RuleStates)
    (settled : rule.isIpv4 = true → foreign (nfsCgName share.id rule.accessId) →
      rule.Settled share fsName w) :
    SparesForeign fault fsName foreign w (addNfsRule share fsName states rule) := by
  refine .ite (fun _ => .pure _) fun ip => .ite (fun _ => .pure _) fun ipv4 => ?_
  refine .tryCatch (.bind ?_ fun _ => .pure _) fun _ => .pure _
  by_cases foreign' : foreign (nfsCgName share.id rule.accessId)
  · have readable := AccessRule.isIpv4_iff.mpr ⟨not_not.mp ip, Bool.eq_false_iff.mpr ipv4⟩
    exact spares_applySettledRule foreign' (settled readable foreign')
  · exact spares_applyOwnRule foreign'

/-- Deleting the selected permissions and then their groups, where none of them is
foreign. -/
theorem spares_collecting (selected : Entry NfsPermission → Prop)
    {step : List String → Entry NfsPermission → Driver (List String)} {delete : String → Driver Unit}
    (own : ∀ perm, selected perm → perm.val.filesystem = fsName ∧
      (perm ∈ w.cluster.permissions.rows → ¬ foreign perm.val.group))
    (skips : ∀ names perm, ¬ selected perm → step names perm = pure names)
    (revokes : ∀ names perm, selected perm →
      (step names perm).Uses fun op => op = .api .admin (.deleteNfsPermission perm.uid))
    (notes : ∀ names perm, selected perm →
      (step names perm).Returns fun noted => ∀ name ∈ noted, name ∈ names ∨ name = perm.val.group)
    (deletes : ∀ name, ¬ foreign name → SparesForeign fault fsName foreign w (delete name)) :
    SparesForeign fault fsName foreign w (do
      let permissions ← send .admin .listNfsPermissions
      let names ← permissions.foldlM step []
      (cfg.iterationOrder names).forM delete) := by
  apply spares_listNfsPermissions
  intro s leftAlone
  have own' : ∀ perm ∈ s.cluster.permissions.rows, selected perm → ¬ foreign perm.val.group :=
    fun perm member chosen foreign' => (own perm chosen).2
      (leftAlone.symm.permission_mem member (Or.inr foreign')) foreign'
  have collects : (s.cluster.permissions.rows.foldlM step []).Returns
      fun names => ∀ name ∈ names, ¬ foreign name := by
    refine .foldlM (fun names known perm member => ?_) fun _ none => absurd none List.not_mem_nil
    by_cases chosen : selected perm
    · refine (notes names perm chosen).mono fun noted listed name member' => ?_
      rcases listed name member' with earlier | rfl
      · exact known name earlier
      · exact own' perm member chosen
    · rw [skips names perm chosen]
      exact known
  refine .bind_returning (.foldlM (fun names perm member => ?_) _) collects fun names own'' => ?_
  · by_cases chosen : selected perm
    · have free := leftAlone.permissionFree member (own perm chosen).1 (own' perm member chosen)
      refine spares_of_uses ((revokes names perm chosen).mono fun op same => ?_)
      exact ⟨_, same, free⟩
    · rw [skips names perm chosen]
      exact .pure _
  · exact .forM fun name member =>
      deletes name (own'' name ((cfg.iterationPerm names).mem_iff.mp member))

/-- Removing a rule touches nothing foreign, if no foreign group of the filesystem contains the
start of its id. -/
theorem spares_removeNfsRule (spared : ∀ perm ∈ w.cluster.permissions.rows,
      perm.val.filesystem = fsName → foreign perm.val.group →
        Text.contains perm.val.group (Text.take rule.accessId 8) = false) :
    SparesForeign fault fsName foreign w (removeNfsRule cfg fsName rule) := by
  refine spares_collecting (fun perm => perm.val.filesystem = fsName ∧
    Text.contains perm.val.group (Text.take rule.accessId 8) = true) (fun perm matching => ?_)
    (fun names perm other => if_neg other) (fun names perm matching => ?_)
    (fun names perm matching => ?_) fun name => spares_deleteClientGroupByName
  · refine ⟨matching.1, fun member foreign' => ?_⟩
    rw [spared perm member matching.1 foreign'] at matching
    exact Bool.false_ne_true matching.2
  · unfold removeMatchingPermission
    rw [if_pos matching]
    exact .bind (uses_perform rfl) fun _ => trivial
  · unfold removeMatchingPermission
    rw [if_pos matching]
    refine .bind (.perform _) fun _ _ name listed => ?_
    split at listed
    · exact Or.inl listed
    · exact (List.mem_insert_iff.mp listed).symm

/-- Pruning touches nothing foreign, if every foreign group with the prefix of the share is named
for a rule. -/
theorem spares_pruneNfsRules {rules : List AccessRule}
    (expected : ∀ perm ∈ w.cluster.permissions.rows, perm.val.filesystem = fsName →
      foreign perm.val.group → Text.startsWith perm.val.group (nfsCgPrefix share.id) = true →
        perm.val.group ∈ rules.map fun rule => nfsCgName share.id rule.accessId) :
    SparesForeign fault fsName foreign w (pruneNfsRules cfg share fsName rules) := by
  have deletes : ∀ name, ¬ foreign name → SparesForeign fault fsName foreign w
      (tryCatch (deleteClientGroupByName name) fun _ => pure ()) :=
    fun name own => .tryCatch (spares_deleteClientGroupByName own) fun _ => .pure _
  refine spares_collecting (fun perm => perm.val.filesystem = fsName ∧
    Text.startsWith perm.val.group (nfsCgPrefix share.id) = true ∧
    perm.val.group ∉ rules.map fun rule => nfsCgName share.id rule.accessId) (fun perm stale => ?_)
    (fun names perm other => ?_) (fun names perm stale => ?_)
    (fun names perm stale => ?_) deletes
  · refine ⟨stale.1, fun member foreign' => ?_⟩
    exact stale.2.2 (expected perm member stale.1 foreign' stale.2.1)
  · unfold prunePermission
    rw [if_neg other]
  · unfold prunePermission
    rw [if_pos stale]
    exact .tryCatch (.bind (uses_perform rfl) fun _ => trivial) fun _ => trivial
  · unfold prunePermission
    rw [if_pos stale]
    refine .tryCatch (.bind (.perform _) fun _ _ => ?_) fun _ => ?_
    · intro name listed
      exact (List.mem_insert_iff.mp listed).symm
    · intro name listed
      exact Or.inl listed

end Programs

end WekaShareDriver
