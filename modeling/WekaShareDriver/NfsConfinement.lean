import WekaShareDriver.Access.NfsFrame
import WekaShareDriver.Access.NfsRuns
import WekaShareDriver.Cleanups
import WekaShareDriver.Foundation.Reaches

/-! # NFS access changes and what belongs to others

The groups of a share's rules carry its name and theirs, both cut short. A change of
access finds them by their exact name when it applies a rule, by a part of the name
when it deletes one, and by the start of the name when it prunes. It stays inside
the share (`WekaShareDriver.StaysInside`) exactly where these find nothing of others
(`WekaShareDriver.ActsInside`).
-/

namespace WekaShareDriver

open Foundation Program

/-- The groups of a share's rules. -/
def groupNames (share : Share) (rules : List AccessRule) : List String :=
  rules.map fun rule => nfsCgName share.id rule.accessId

/-- A group that is none of the share's, or is one of another share's. -/
def Foreign (share : Share) (rules : List AccessRule) (others : List (Share × List AccessRule))
    (name : String) : Prop :=
  name ∉ groupNames share rules ∨
    ∃ other ∈ others, other.1.id ≠ share.id ∧ name ∈ groupNames other.1 other.2

instance (share : Share) (rules : List AccessRule) (others : List (Share × List AccessRule))
    (name : String) : Decidable (Foreign share rules others name) := by
  unfold Foreign
  infer_instance

namespace AccessUpdate

/-- The rules that are to be in force after the request. -/
def remaining (update : AccessUpdate) : List AccessRule :=
  (update.accessRules ++ update.applied).filter fun rule =>
    update.deleteRules.all fun deleted => deleted.accessId ≠ rule.accessId

/-- Applying the rules of a request. -/
def applyNfsRules (cfg : Config) (share : Share) (update : AccessUpdate) : Driver RuleStates :=
  update.applied.foldlM (addNfsRule share (cfg.shareName share.id)) []

/-- Removing the rules a request deletes. -/
def removeNfsRules (cfg : Config) (share : Share) (update : AccessUpdate) : Driver PUnit :=
  update.deleteRules.forM fun rule =>
    tryCatch (removeNfsRule cfg (cfg.shareName share.id) rule) fun _ => pure ()

end AccessUpdate

/-- A change of access touches only the groups of the share's rules and its
filesystem's permissions to them, and the removal of a rule touches nothing of the
rules that stay. -/
structure StaysInside (cfg : Config) (share : Share) (fault : Fault) (foreign : String → Prop)
    (update : AccessUpdate) (w : World) : Prop where
  others : ∀ t, Reaches (service fault) (update.program cfg share) w t →
    LeftAlone (cfg.shareName share.id) foreign w t
  live : ∀ states u t, Exec (service fault) (update.applyNfsRules cfg share) w (.ok states) u →
    Reaches (service fault) (update.removeNfsRules cfg share) u t →
      ∀ rule ∈ update.remaining,
        LeftAlone (cfg.shareName share.id) (· = nfsCgName share.id rule.accessId) u t

/-- An applied rule makes its group's exports. -/
def AccessRule.Exports (rule : AccessRule) : Prop :=
  rule.isIpv4 = true ∧ ∃ wekaIp, cidrToWekaIp rule.accessTo = .ok wekaIp

/-- A rule is applied to a foreign group only where that changes nothing, and no
permission to a foreign group, nor to one of a rule that stays, is found by a part or
the start of the group's name. -/
structure ActsInside (cfg : Config) (share : Share) (foreign : String → Prop)
    (update : AccessUpdate) (w : World) : Prop where
  settled : ∀ rule ∈ update.applied, rule.isIpv4 = true →
    foreign (nfsCgName share.id rule.accessId) → rule.Settled share (cfg.shareName share.id) w
  spared : ∀ rule ∈ update.deleteRules, ∀ perm ∈ w.cluster.permissions.rows,
    perm.val.filesystem = cfg.shareName share.id → foreign perm.val.group →
      Text.contains perm.val.group (Text.take rule.accessId 8) = false
  expected : update.fullSync = true → ∀ perm ∈ w.cluster.permissions.rows,
    perm.val.filesystem = cfg.shareName share.id → foreign perm.val.group →
      Text.startsWith perm.val.group (nfsCgPrefix share.id) = true →
        perm.val.group ∈ groupNames share update.applied
  kept : ∀ rule ∈ update.deleteRules, ∀ other ∈ update.remaining,
    Text.contains (nfsCgName share.id other.accessId) (Text.take rule.accessId 8) = true →
      exportedTo (cfg.shareName share.id) (nfsCgName share.id other.accessId) w = [] ∧
        ∀ applied ∈ update.applied, applied.Exports →
          nfsCgName share.id applied.accessId ≠ nfsCgName share.id other.accessId

variable {cfg : Config} {share : Share} {fault : Fault} {foreign : String → Prop}
  {update : AccessUpdate} {w u t : World}

private theorem updateNfsAccess_phases (protocol : share.shareProto = .nfs) :
    update.program cfg share = (do
      let states ← update.applyNfsRules cfg share
      update.removeNfsRules cfg share
      if update.fullSync then
        pruneNfsRules cfg share (cfg.shareName share.id) update.applied
      return states) :=
  AccessUpdate.program_nfs protocol update

private theorem neverRaises_addNfsRule {fsName : String} (states : RuleStates) (rule : AccessRule) :
    (addNfsRule share fsName states rule).NeverRaises :=
  .ite (fun _ => .pure _) fun _ => .ite (fun _ => .pure _) fun _ => .tryCatch fun _ => .pure _

/-! ## Acting inside is enough -/

private theorem spares_applyNfsRules (settled : ∀ rule ∈ update.applied, rule.isIpv4 = true →
      foreign (nfsCgName share.id rule.accessId) → rule.Settled share (cfg.shareName share.id) w) :
    SparesForeign fault (cfg.shareName share.id) foreign w (update.applyNfsRules cfg share) :=
  .foldlM (fun states rule member => spares_addNfsRule states (settled rule member)) _

private theorem spares_removeNfsRules (spared : ∀ rule ∈ update.deleteRules,
      ∀ perm ∈ w.cluster.permissions.rows, perm.val.filesystem = cfg.shareName share.id →
        foreign perm.val.group →
          Text.contains perm.val.group (Text.take rule.accessId 8) = false) :
    SparesForeign fault (cfg.shareName share.id) foreign w (update.removeNfsRules cfg share) :=
  .forM fun rule member => .tryCatch (spares_removeNfsRule (spared rule member)) fun _ => .pure _

/-- An update that acts inside leaves foreign groups alone wherever it has come. -/
theorem ActsInside.others (inside : ActsInside cfg share foreign update w)
    (protocol : share.shareProto = .nfs)
    (reached : Reaches (service fault) (update.program cfg share) w t) :
    LeftAlone (cfg.shareName share.id) foreign w t := by
  suffices spares : SparesForeign fault (cfg.shareName share.id) foreign w
      (update.program cfg share) from spares.reached (.refl w) reached
  rw [updateNfsAccess_phases protocol]
  refine .bind (spares_applyNfsRules inside.settled) fun states => ?_
  refine .bind (spares_removeNfsRules inside.spared) fun _ => ?_
  cases full : update.fullSync with
  | false => exact .pure _
  | true => exact .bind (spares_pruneNfsRules (inside.expected full)) fun _ => .pure _

/-- While such an update removes rules, the exports of the remaining ones stay. -/
theorem ActsInside.live (inside : ActsInside cfg share foreign update w) {states : RuleStates}
    (applied : Exec (service fault) (update.applyNfsRules cfg share) w (.ok states) u)
    (reached : Reaches (service fault) (update.removeNfsRules cfg share) u t) {rule : AccessRule}
    (member : rule ∈ update.remaining) :
    LeftAlone (cfg.shareName share.id) (· = nfsCgName share.id rule.accessId) u t := by
  refine (spares_removeNfsRules fun deleted listed perm there exports named => ?_).reached (.refl u)
    reached
  by_contra matching
  rw [Bool.not_eq_false, named] at matching
  obtain ⟨absent, others⟩ := inside.kept deleted listed rule member matching
  -- No permission to the rule's group was there, and none has come.
  have still : LeftAlone (cfg.shareName share.id) (· = nfsCgName share.id rule.accessId) w u := by
    refine (spares_applyNfsRules fun other listed' ipv4 same => ?_).reached (.refl w) applied.reaches
    intro wekaIp read
    exact absurd same (others other listed' ⟨ipv4, wekaIp, read⟩)
  rw [← still.exports _ _ (Or.inr rfl)] at absent
  exact exportedTo_eq_nil_iff.mp absent perm there exports named

/-! ## Acting inside is needed -/

section Applying

variable {fsName name wekaIp : String} {group : Entry ClientGroup} {type : PermissionType}

/-- A group that is there is taken as it is. -/
theorem run_ensureClientGroup (found : u.cluster.clientGroups.find? name = some group) :
    (ensureClientGroup name).run respond u = (.ok (group, group.val.addresses), u) := by
  have listed : (getClientGroupByName name).run respond u = (.ok (some group), u) :=
    congrArg (fun group => (Except.ok group, u)) found
  have detailed : (send .admin (.getClientGroup group.uid)).run respond u = (.ok group, u) := by
    simp only [send, run_perform, respond, Cluster.answer, Registry.get?_of_find? found, asRaised]
  unfold ensureClientGroup
  rw [run_bind_ok listed]
  exact run_bind_ok detailed _

/-- A missing group is made. -/
theorem run_ensureClientGroup_absent (found : u.cluster.clientGroups.find? name = none) :
    (ensureClientGroup name).run respond u =
      (.ok (⟨u.cluster.clientGroups.next, ⟨name, []⟩⟩, []),
        u.withGroups (u.cluster.clientGroups.insert ⟨name, []⟩)) := by
  have free : u.cluster.clientGroups.find? (Keyed.key (⟨name, []⟩ : ClientGroup)) = none := found
  have listed : (getClientGroupByName name).run respond u = (.ok none, u) :=
    congrArg (fun group => (Except.ok group, u)) found
  have made : (send .admin (.createClientGroup name)).run respond u =
      (.ok ⟨u.cluster.clientGroups.next, ⟨name, []⟩⟩,
        u.withGroups (u.cluster.clientGroups.insert ⟨name, []⟩)) := by
    simp only [send, run_perform, respond, Cluster.answer, Cluster.create, free, asRaised]
  unfold ensureClientGroup
  rw [run_bind_ok listed]
  exact run_bind_ok made _

private theorem find?_insertGroup (found : u.cluster.clientGroups.find? name = none) :
    (u.cluster.clientGroups.insert ⟨name, []⟩).find? name =
      some ⟨u.cluster.clientGroups.next, ⟨name, []⟩⟩ := by
  have free : u.cluster.clientGroups.find? (Keyed.key (⟨name, []⟩ : ClientGroup)) = none := found
  exact (congrFun (Registry.find?_insert _ _ free) name).trans (Function.update_self ..)

/-- A group that has the address, in one of its forms, is left as it is. -/
theorem run_ensureGroupRule_held (found : u.cluster.clientGroups.find? name = some group)
    (held : normWekaIp wekaIp ∈ group.val.addresses ∨
      ∃ held ∈ group.val.rules, held.type = .ip ∧ held.rule = storedRule wekaIp) :
    (ensureGroupRule group.uid wekaIp group.val.addresses).run respond u = (.ok (), u) := by
  unfold ensureGroupRule
  by_cases listed : normWekaIp wekaIp ∈ group.val.addresses
  · rw [if_neg (not_not.mpr listed)]
    rfl
  · have refused : (send .admin (.addClientGroupRule group.uid .ip wekaIp)).run respond u =
        (.error (.api (.generic 400 "/nfs/clientGroups: rule already exists")), u) := by
      simp only [send, run_perform, respond, Cluster.answer, Registry.get?_of_find? found,
        held.resolve_left listed, ↓reduceIte, asRaised]
    rw [if_pos listed, run_tryCatch_error (run_bind_error refused _)]
    rfl

/-- A group without the address gets a rule. -/
theorem run_ensureGroupRule_missing (found : u.cluster.clientGroups.find? name = some group)
    (missing : ¬ (normWekaIp wekaIp ∈ group.val.addresses ∨
      ∃ held ∈ group.val.rules, held.type = .ip ∧ held.rule = storedRule wekaIp)) :
    (ensureGroupRule group.uid wekaIp group.val.addresses).run respond u =
      (.ok (), u.withGroups (u.cluster.clientGroups.modify group.uid
        (·.addRule .ip (storedRule wekaIp)) fun _ => rfl)) := by
  rw [not_or] at missing
  obtain ⟨rule, added⟩ : ∃ rule, (send .admin (.addClientGroupRule group.uid .ip wekaIp)).run
      respond u = (.ok rule, u.withGroups (u.cluster.clientGroups.modify group.uid
        (·.addRule .ip (storedRule wekaIp)) fun _ => rfl)) := by
    simp only [send, run_perform, respond, Cluster.answer, Registry.get?_of_find? found, missing.2,
      ↓reduceIte, asRaised]
    exact ⟨_, rfl⟩
  unfold ensureGroupRule
  rw [if_pos missing.1, run_tryCatch_ok (run_bind_ok added _)]

/-- A group with a further rule is another one. -/
theorem find?_addRule (found : u.cluster.clientGroups.find? name = some group) :
    (u.cluster.clientGroups.modify group.uid (·.addRule .ip (storedRule wekaIp))
      fun _ => rfl).find? name ≠ some group := by
  have changed := Registry.find?_modify found (·.addRule .ip (storedRule wekaIp)) fun _ => rfl
  intro same
  have same := (congrFun changed name).symm.trans same
  rw [Function.update_self] at same
  have longer := congrArg (fun entry => entry.val.rules.length) (Option.some.inj same)
  simp [ClientGroup.addRule] at longer

/-- A missing group is made and a missing address added. -/
theorem exists_grouped (name wekaIp : String) (u : World) :
    ∃ group t v, (ensureClientGroup name).run respond u = (.ok (group, group.val.addresses), t) ∧
      (ensureGroupRule group.uid wekaIp group.val.addresses).run respond t = (.ok (), v) := by
  have ruled (t : World) (group : Entry ClientGroup)
      (found : t.cluster.clientGroups.find? name = some group) :
      ∃ v, (ensureGroupRule group.uid wekaIp group.val.addresses).run respond t = (.ok (), v) := by
    by_cases held : normWekaIp wekaIp ∈ group.val.addresses ∨
        ∃ held ∈ group.val.rules, held.type = .ip ∧ held.rule = storedRule wekaIp
    · exact ⟨_, run_ensureGroupRule_held found held⟩
    · exact ⟨_, run_ensureGroupRule_missing found held⟩
  cases found : u.cluster.clientGroups.find? name with
  | none =>
      obtain ⟨v, added⟩ := ruled (u.withGroups (u.cluster.clientGroups.insert ⟨name, []⟩)) _
        (find?_insertGroup found)
      exact ⟨_, _, v, run_ensureClientGroup_absent found, added⟩
  | some group =>
      obtain ⟨v, added⟩ := ruled u group found
      exact ⟨group, u, v, run_ensureClientGroup found, added⟩

private theorem run_findNfsPermission (u : World) (fsName name : String) :
    (findNfsPermission fsName name).run respond u = (.ok (exportedTo fsName name u).head?, u) :=
  congrArg (fun found => (Except.ok found, u)) (find?_rows_eq_head? u fsName name)

private theorem run_withdraw {perm : Entry NfsPermission}
    (listed : (exportedTo fsName name u).head? = some perm) :
    (send .admin (.deleteNfsPermission perm.uid)).run respond u =
      (.ok (), u.withPermissions (u.cluster.permissions.erase perm.uid)) := by
  have member := (mem_exportedTo.mp (List.mem_of_mem_head? listed)).1
  simp only [send, run_perform, respond, Cluster.answer, Registry.get?_of_mem member, asRaised]

/-- A permission of another type is withdrawn before one of the type is given. -/
theorem reaches_withdrawn {perm : Entry NfsPermission}
    (listed : (exportedTo fsName name u).head? = some perm)
    (differs : perm.val.permissionType ≠ type) :
    Reaches (service fault) (ensureNfsPermission fsName name type) u
      (u.withPermissions (u.cluster.permissions.erase perm.uid)) := by
  have looked := run_findNfsPermission u fsName name
  rw [listed] at looked
  unfold ensureNfsPermission
  refine .after (.of_run looked) ?_
  dsimp only
  rw [if_pos differs]
  exact (Exec.of_run (run_withdraw listed)).reaches.bind _

/-- There is a permission afterwards. -/
theorem exportedTo_ensureNfsPermission (fsName name : String) (type : PermissionType) (u : World) :
    exportedTo fsName name ((ensureNfsPermission fsName name type).run respond u).2 ≠ [] := by
  -- Giving a permission is refused only where there is one.
  have given (v : World) : exportedTo fsName name ((send .admin (.createNfsPermission name fsName "/"
      type false) >>= fun _ => pure ()).run respond v).2 ≠ [] := by
    cases taken : v.cluster.permissions.find?
        (Keyed.key (⟨fsName, name, "/", type, false⟩ : NfsPermission)) with
    | none =>
        have made : (send .admin (.createNfsPermission name fsName "/" type false)).run respond v =
            (.ok ⟨v.cluster.permissions.next, ⟨fsName, name, "/", type, false⟩⟩,
              v.withPermissions (v.cluster.permissions.insert ⟨fsName, name, "/", type, false⟩)) := by
          simp only [send, run_perform, respond, Cluster.answer, Cluster.create, taken, asRaised]
        rw [run_bind_ok made]
        have there := (Registry.mem_insert taken).mpr (Or.inr rfl)
        exact List.ne_nil_of_mem (mem_exportedTo.mpr ⟨there, rfl, rfl⟩)
    | some perm =>
        have refused : (send .admin (.createNfsPermission name fsName "/" type false)).run respond v =
            (.error (.api (.conflict "/nfs/permissions: already exists")), v) := by
          simp only [send, run_perform, respond, Cluster.answer, Cluster.create, taken, asRaised]
        rw [run_bind_error refused]
        obtain ⟨member, same⟩ := Registry.find?_eq_some_iff.mp taken
        have parts : (perm.val.filesystem, perm.val.group, perm.val.path) = (fsName, name, "/") :=
          same
        simp only [Prod.mk.injEq] at parts
        exact List.ne_nil_of_mem (mem_exportedTo.mpr ⟨member, parts.1, parts.2.1⟩)
  have looked := run_findNfsPermission u fsName name
  unfold ensureNfsPermission
  rw [run_bind_ok looked]
  cases listed : (exportedTo fsName name u).head? with
  | none => exact given u
  | some perm =>
      dsimp only
      split
      · rw [run_bind_ok (run_withdraw listed)]
        exact given _
      · exact List.ne_nil_of_mem (List.mem_of_mem_head? listed)

/-- Applying a rule leaves a permission to its group. -/
theorem exportedTo_applyNfsRule (share : Share) (fsName : String) {rule : AccessRule}
    (read : cidrToWekaIp rule.accessTo = .ok wekaIp) (u : World) :
    exportedTo fsName (nfsCgName share.id rule.accessId)
      ((applyNfsRule share fsName rule).run respond u).2 ≠ [] := by
  obtain ⟨group, t, v, grouped, ruled⟩ := exists_grouped (nfsCgName share.id rule.accessId) wekaIp u
  unfold applyNfsRule
  rw [read]
  dsimp only
  rw [run_bind_ok grouped, run_bind_ok ruled]
  exact exportedTo_ensureNfsPermission _ _ _ v

end Applying

/-- Where a rule is not settled, applying it is seen at its group. -/
theorem settled_of_leftAlone (fault : Fault) {fsName : String} {rule : AccessRule}
    (same : ∀ t, Reaches (service fault) (applyNfsRule share fsName rule) u t →
      LeftAlone fsName (· = nfsCgName share.id rule.accessId) u t) :
    rule.Settled share fsName u := by
  generalize named : nfsCgName share.id rule.accessId = name at same
  intro wekaIp read
  unfold applyNfsRule at same
  rw [read, named] at same
  rw [named]
  dsimp only at same
  cases found : u.cluster.clientGroups.find? name with
  | none =>
      have made := same _ ((Exec.of_run (run_ensureClientGroup_absent found)).reaches.bind _)
      have there := (find?_insertGroup found).symm.trans ((made.groups name rfl).trans found)
      cases there
  | some group =>
      have grouped := run_ensureClientGroup found
      have held : normWekaIp wekaIp ∈ group.val.addresses ∨
          ∃ held ∈ group.val.rules, held.type = .ip ∧ held.rule = storedRule wekaIp := by
        by_contra lacks
        have added := same _ (.after (.of_run grouped)
          ((Exec.of_run (run_ensureGroupRule_missing found lacks)).reaches.bind _))
        exact find?_addRule found ((added.groups name rfl).trans found)
      refine ⟨⟨group, rfl, held⟩, ?_⟩
      have permits : ∀ t, Reaches (service fault) (ensureNfsPermission fsName name
          (nfsType rule.accessLevel)) u t → exportedTo fsName name t = exportedTo fsName name u :=
        fun t reached => (same t (.after (.of_run grouped)
          (.after (.of_run (run_ensureGroupRule_held found held)) reached))).exports _ _ (Or.inr rfl)
      cases listed : (exportedTo fsName name u).head? with
      | none =>
          have nothing := List.head?_eq_none_iff.mp listed
          have made := permits _ (exec_run _ u).reaches
          exact absurd (made.trans nothing) (exportedTo_ensureNfsPermission _ _ _ u)
      | some perm =>
          refine ⟨perm, rfl, ?_⟩
          by_contra differs
          have withdrawn := permits _ (reaches_withdrawn listed differs)
          have member := List.mem_of_mem_head? listed
          rw [← withdrawn] at member
          exact (Registry.mem_erase.mp (mem_exportedTo.mp member).1).2 rfl

/-- A rule that is settled stays so while its group is not touched. -/
theorem AccessRule.Settled.of_leftAlone {fsName : String} {rule : AccessRule}
    (settled : rule.Settled share fsName u) (leftAlone : LeftAlone fsName foreign w u)
    (foreign' : foreign (nfsCgName share.id rule.accessId)) :
    rule.Settled share fsName w := by
  unfold AccessRule.Settled at settled ⊢
  rwa [leftAlone.groups _ foreign', leftAlone.exports _ _ (Or.inr foreign')] at settled

/-- The request gets to each rule it applies. -/
theorem reaches_applied (cfg : Config) (share : Share) (fault : Fault) (w : World)
    {rule : AccessRule} (member : rule ∈ update.applied) :
    ∃ states u, Reaches (service fault) (update.applyNfsRules cfg share) w u ∧
      ∀ t, Reaches (service fault) (addNfsRule share (cfg.shareName share.id) states rule) u t →
        Reaches (service fault) (update.applyNfsRules cfg share) w t := by
  obtain ⟨visited, rest, split⟩ := List.append_of_mem member
  have never : (visited.foldlM (addNfsRule share (cfg.shareName share.id)) []).NeverRaises :=
    .foldlM (fun states rule _ => neverRaises_addNfsRule states rule) _
  obtain ⟨states, u, before⟩ := never.exists_run respond fault w
  unfold AccessUpdate.applyNfsRules
  rw [split]
  exact ⟨states, u, reaches_foldlM before (.start _ _), fun t => reaches_foldlM before⟩

/-- The request gets to each rule it deletes. -/
theorem reaches_removed (cfg : Config) (share : Share) (fault : Fault) (w : World)
    {rule : AccessRule} (member : rule ∈ update.deleteRules) :
    ∃ u, Reaches (service fault) (update.removeNfsRules cfg share) w u ∧
      ∀ t, Reaches (service fault) (removeNfsRule cfg (cfg.shareName share.id) rule) u t →
        Reaches (service fault) (update.removeNfsRules cfg share) w t := by
  obtain ⟨visited, rest, split⟩ := List.append_of_mem member
  have never : (visited.forM fun rule => tryCatch (removeNfsRule cfg (cfg.shareName share.id) rule)
      fun _ => pure () : Driver PUnit).NeverRaises :=
    .forM fun rule _ => .tryCatch fun _ => .pure _
  obtain ⟨⟨⟩, u, before⟩ := never.exists_run respond fault w
  unfold AccessUpdate.removeNfsRules
  rw [split]
  exact ⟨u, reaches_forM before (.start _ _), fun t reached =>
    reaches_forM before (reached.tryCatch _)⟩

/-- A permission with a part of a deleted rule's id in its group's name is gone once
the rule is removed. -/
theorem exists_reaches_removed {rule : AccessRule} {perm : Entry NfsPermission} {fsName : String}
    (here : perm.val.filesystem = fsName)
    (matching' : Text.contains perm.val.group (Text.take rule.accessId 8) = true) :
    ∃ t, Reaches (service fault) (removeNfsRule cfg fsName rule) u t ∧
      (perm ∈ u.cluster.permissions.rows → perm ∉ t.cluster.permissions.rows) := by
  refine ⟨_, (Exec.of_run (run_removeNfsRule cfg fsName rule)).reaches, fun member left => ?_⟩
  have doomed' : perm ∈ doomed fsName rule u :=
    List.mem_filter.mpr ⟨member, decide_eq_true ⟨here, matching'⟩⟩
  have spared := (Registry.mem_filter.mp left).2
  rw [decide_eq_true_eq] at spared
  exact spared doomed'

namespace StaysInside

variable (stays : StaysInside cfg share fault foreign update w) (protocol : share.shareProto = .nfs)
include stays protocol

/-- While rules are applied, foreign groups are left alone. -/
theorem applying (reached : Reaches (service fault) (update.applyNfsRules cfg share) w t) :
    LeftAlone (cfg.shareName share.id) foreign w t := by
  refine stays.others t ?_
  rw [updateNfsAccess_phases protocol]
  exact reached.bind _

/-- While rules are removed, foreign groups are left alone. -/
theorem removing {states : RuleStates}
    (applied : Exec (service fault) (update.applyNfsRules cfg share) w (.ok states) u)
    (reached : Reaches (service fault) (update.removeNfsRules cfg share) u t) :
    LeftAlone (cfg.shareName share.id) foreign w t := by
  refine stays.others t ?_
  rw [updateNfsAccess_phases protocol]
  exact .after applied (reached.bind _)

/-- A rule to apply whose group is foreign would be found as it is. -/
theorem settled {rule : AccessRule} (member : rule ∈ update.applied) (ipv4 : rule.isIpv4 = true)
    (foreign' : foreign (nfsCgName share.id rule.accessId)) :
    rule.Settled share (cfg.shareName share.id) w := by
  obtain ⟨states, u, before, later⟩ := reaches_applied cfg share fault w member
  have leftAlone := stays.applying protocol before
  refine (settled_of_leftAlone fault fun t reached => ?_).of_leftAlone leftAlone foreign'
  have there : Reaches (service fault) (addNfsRule share (cfg.shareName share.id) states rule) u
      t := by
    obtain ⟨ipType, notIpv6⟩ := AccessRule.isIpv4_iff.mp ipv4
    unfold addNfsRule
    rw [if_neg (not_not.mpr ipType), if_neg (Bool.eq_false_iff.mp notIpv6)]
    exact (reached.bind _).tryCatch _
  refine (leftAlone.symm.trans (stays.applying protocol (later t there))).mono ?_
  rintro name rfl
  exact foreign'

/-- No foreign group of the filesystem contains the start of the id of a rule to delete. -/
theorem spared {rule : AccessRule} (member : rule ∈ update.deleteRules) {perm : Entry NfsPermission}
    (there : perm ∈ w.cluster.permissions.rows)
    (here : perm.val.filesystem = cfg.shareName share.id) (foreign' : foreign perm.val.group) :
    Text.contains perm.val.group (Text.take rule.accessId 8) = false := by
  by_contra matching'
  rw [Bool.not_eq_false] at matching'
  have never : (update.applyNfsRules cfg share).NeverRaises :=
    .foldlM (fun states rule _ => neverRaises_addNfsRule states rule) _
  obtain ⟨states, v, applied⟩ := never.exists_run respond fault w
  obtain ⟨u, before, later⟩ := reaches_removed cfg share fault v member
  obtain ⟨t, removed, gone⟩ := exists_reaches_removed here matching'
  have still := (stays.removing protocol applied before).permission_mem there (Or.inr foreign')
  exact gone still ((stays.removing protocol applied (later t removed)).permission_mem there
    (Or.inr foreign'))

/-- Every foreign group with the prefix of the share is named for a rule of a full sync. -/
theorem expected (full : update.fullSync = true) {perm : Entry NfsPermission}
    (there : perm ∈ w.cluster.permissions.rows)
    (here : perm.val.filesystem = cfg.shareName share.id) (foreign' : foreign perm.val.group)
    (carries : Text.startsWith perm.val.group (nfsCgPrefix share.id) = true) :
    perm.val.group ∈ groupNames share update.applied := by
  by_contra unexpected
  have never : (update.applyNfsRules cfg share).NeverRaises :=
    .foldlM (fun states rule _ => neverRaises_addNfsRule states rule) _
  obtain ⟨states, u, applied⟩ := never.exists_run respond fault w
  have nothing : Exec (service fault) (update.removeNfsRules cfg share) u (.ok ⟨⟩) u := by
    unfold AccessUpdate.removeNfsRules
    rw [AccessUpdate.deleteRules_of_fullSync full]
    exact .ret _ _
  have still := (stays.removing protocol applied nothing.reaches).permission_mem there
    (Or.inr foreign')
  have pruned := run_pruneNfsRules u (fun _ => false) cfg share (cfg.shareName share.id)
    update.applied
  rw [vanishing_nothing] at pruned
  obtain ⟨t, dropped, pruned⟩ : ∃ t, t.cluster.permissions = permissionsBut u
      (stalePermissions share (cfg.shareName share.id) update.applied u) ∧
        (pruneNfsRules cfg share (cfg.shareName share.id) update.applied).run respond u =
          (.ok (), t) := ⟨_, rfl, pruned⟩
  have reached : Reaches (service fault) (update.program cfg share) w t := by
    rw [updateNfsAccess_phases protocol]
    refine .after applied (.after nothing ?_)
    rw [if_pos full]
    exact (Exec.of_run pruned).reaches.bind _
  have left := (stays.others _ reached).permission_mem there (Or.inr foreign')
  have stale' : perm ∈ stalePermissions share (cfg.shareName share.id) update.applied u :=
    List.mem_filter.mpr ⟨still, decide_eq_true ⟨here, carries, unexpected⟩⟩
  rw [dropped] at left
  have spared := (Registry.mem_filter.mp left).2
  rw [decide_eq_true_eq] at spared
  exact spared stale'

omit protocol in
/-- What a part of a deleted rule's id is found in, nothing is exported to. -/
theorem unexported {states : RuleStates} {rule other : AccessRule}
    (applied : Exec (service fault) (update.applyNfsRules cfg share) w (.ok states) u)
    (member : rule ∈ update.deleteRules) (member' : other ∈ update.remaining)
    (matching' : Text.contains (nfsCgName share.id other.accessId)
      (Text.take rule.accessId 8) = true) :
    exportedTo (cfg.shareName share.id) (nfsCgName share.id other.accessId) u = [] := by
  refine exportedTo_eq_nil_iff.mpr fun perm there here named => ?_
  rw [← named] at matching'
  obtain ⟨v, before, later⟩ := reaches_removed cfg share fault u member
  obtain ⟨t, removed, gone⟩ := exists_reaches_removed here matching'
  have kept {v : World} (reached : Reaches (service fault) (update.removeNfsRules cfg share) u v) :
      perm ∈ v.cluster.permissions.rows :=
    (stays.live states u v applied reached other member').permission_mem there (Or.inr named)
  exact gone (kept before) (kept (later t removed))

end StaysInside

/-- Where an application runs through, the permissions to a group stay or are replaced,
and the rules of the group have one. -/
theorem exported_addNfsRule {fsName name : String} {rule : AccessRule} (states : RuleStates)
    (exports : exportedTo fsName name u ≠ [] ∨
      rule.Exports ∧ nfsCgName share.id rule.accessId = name) :
    exportedTo fsName name ((addNfsRule share fsName states rule).run respond u).2 ≠ [] := by
  by_cases own : rule.Exports ∧ nfsCgName share.id rule.accessId = name
  · obtain ⟨⟨ipv4, wekaIp, read⟩, rfl⟩ := own
    obtain ⟨ipType, notIpv6⟩ := AccessRule.isIpv4_iff.mp ipv4
    unfold addNfsRule
    rw [if_neg (not_not.mpr ipType), if_neg (Bool.eq_false_iff.mp notIpv6), run_tryCatch, run_bind]
    have given := exportedTo_applyNfsRule share fsName read u
    revert given
    rcases (applyNfsRule share fsName rule).run respond u with ⟨error | value, t⟩
    · exact fun given => given
    · exact fun given => given
  · have leftAlone : LeftAlone fsName (· = name) u
        ((addNfsRule share fsName states rule).run respond u).2 := by
      have ran : Exec reliable (addNfsRule share fsName states rule) u _ _ := exec_run _ _
      refine (spares_addNfsRule states fun ipv4 same wekaIp read => ?_).reached (.refl u) ran.reaches
      exact absurd ⟨⟨ipv4, wekaIp, read⟩, same⟩ own
    rw [leftAlone.exports _ _ (Or.inr rfl)]
    exact exports.resolve_right own

/-- Where all rules are applied, so. -/
theorem exported_applyNfsRules {name : String}
    (exports : exportedTo (cfg.shareName share.id) name w ≠ [] ∨
      ∃ rule ∈ update.applied, rule.Exports ∧ nfsCgName share.id rule.accessId = name) :
    exportedTo (cfg.shareName share.id) name
      ((update.applyNfsRules cfg share).run respond w).2 ≠ [] := by
  suffices general : ∀ (rules : List AccessRule) (states : RuleStates) (u : World),
      (exportedTo (cfg.shareName share.id) name u ≠ [] ∨
        ∃ rule ∈ rules, rule.Exports ∧ nfsCgName share.id rule.accessId = name) →
      exportedTo (cfg.shareName share.id) name
        ((rules.foldlM (addNfsRule share (cfg.shareName share.id)) states).run respond u).2 ≠ [] from
    general update.applied [] w exports
  intro rules
  induction rules with
  | nil =>
      intro states u exports'
      exact exports'.resolve_right fun ⟨rule, member, _⟩ => absurd member List.not_mem_nil
  | cons rule rest ih =>
      intro states u exports'
      have ran : Exec reliable (addNfsRule share (cfg.shareName share.id) states rule) u _ _ :=
        exec_run _ _
      obtain ⟨states', returned⟩ := (neverRaises_addNfsRule states rule).returns ran
      rw [List.foldlM_cons, run_bind_ok (Prod.ext returned rfl)]
      refine ih states' _ ?_
      rcases exports' with here | ⟨rule', member, exports', named⟩
      · exact Or.inl (exported_addNfsRule states (Or.inl here))
      · rcases List.mem_cons.mp member with rfl | later
        · exact Or.inl (exported_addNfsRule states (Or.inr ⟨exports', named⟩))
        · exact Or.inr ⟨rule', later, exports', named⟩

/-- A remaining rule whose group contains the start of the id of a rule to delete is
not exported. -/
theorem StaysInside.kept (stays : StaysInside cfg share fault foreign update w)
    {rule other : AccessRule} (member : rule ∈ update.deleteRules)
    (member' : other ∈ update.remaining)
    (matching' : Text.contains (nfsCgName share.id other.accessId)
      (Text.take rule.accessId 8) = true) :
    exportedTo (cfg.shareName share.id) (nfsCgName share.id other.accessId) w = [] ∧
      ∀ applied ∈ update.applied, applied.Exports →
        nfsCgName share.id applied.accessId ≠ nfsCgName share.id other.accessId := by
  have never : (update.applyNfsRules cfg share).NeverRaises :=
    .foldlM (fun states rule _ => neverRaises_addNfsRule states rule) _
  have run : Exec (service fault) (update.applyNfsRules cfg share) w _ _ := exec_run _ _
  obtain ⟨states, returned⟩ := never.returns run
  rw [returned] at run
  have nothing := stays.unexported run member member' matching'
  constructor
  · by_contra exports
    exact exported_applyNfsRules (Or.inl exports) nothing
  · intro applied listed exports named
    exact exported_applyNfsRules (Or.inr ⟨applied, listed, exports, named⟩) nothing

/-- A change of access of an NFS share, whatever fails, leaves what is not the share's
alone exactly where it finds nothing of it. -/
theorem nfs_access_inside_iff (cfg : Config) (share : Share) (fault : Fault) (w : World)
    (update : AccessUpdate) (rules : List AccessRule) (others : List (Share × List AccessRule))
    (protocol : share.shareProto = .nfs) :
    StaysInside cfg share fault (Foreign share (rules ++ update.rules) others) update w ↔
      ActsInside cfg share (Foreign share (rules ++ update.rules) others) update w := by
  constructor
  · intro stays
    exact ⟨fun rule member => stays.settled protocol member,
      fun rule member perm there => stays.spared protocol member there,
      fun full perm there => stays.expected protocol full there,
      fun rule member other member' => stays.kept member member'⟩
  · intro inside
    exact ⟨fun t reached => inside.others protocol reached,
      fun states u t applied reached rule member => inside.live applied reached member⟩

/-! ## A group made by hand -/

/-- A hand-made group with a part of the other rule's id in its name. -/
def handMadeGroup : String := "backup-b2c3d4e5"

/-- The sample share is exported to a hand-made group, too. -/
def handMadeNfs : World :=
  { grantedNfs with cluster := { grantedNfs.cluster with
      clientGroups := grantedNfs.cluster.clientGroups.insert ⟨handMadeGroup, []⟩
      permissions := grantedNfs.cluster.permissions.insert
        ⟨sampleConfig.shareName (sampleShare .nfs).id, handMadeGroup, "/", .rw, false⟩ } }

/-- The deletion of the other rule. -/
def deleteOther : AccessUpdate := ⟨[sampleRule], [], [otherRule], []⟩

/-- The deletion of the sample rule. -/
def deleteSample : AccessUpdate := ⟨[], [], [sampleRule], []⟩

/-- Deleting the sample rule stays inside its share. -/
theorem nfs_access_inside_sample :
    StaysInside sampleConfig (sampleShare .nfs) apiFaults
      (Foreign (sampleShare .nfs) ([sampleRule] ++ deleteSample.rules) []) deleteSample
        handMadeNfs := by
  refine (nfs_access_inside_iff sampleConfig (sampleShare .nfs) apiFaults handMadeNfs deleteSample
    [sampleRule] [] rfl).mpr ⟨by simp [deleteSample, AccessUpdate.applied, AccessUpdate.fullSync],
      by decide, by simp [deleteSample, AccessUpdate.fullSync],
      by simp [deleteSample, AccessUpdate.remaining, AccessUpdate.applied, AccessUpdate.fullSync]⟩

/-- Deleting a rule deletes the hand-made group and the permission to it. -/
theorem deletion_reaches_hand_made :
    ¬ StaysInside sampleConfig (sampleShare .nfs) apiFaults
      (Foreign (sampleShare .nfs) ([sampleRule] ++ deleteOther.rules) []) deleteOther
        handMadeNfs := by
  intro stays
  have ran : Exec (service apiFaults) (deleteOther.program sampleConfig (sampleShare .nfs))
    handMadeNfs _ _ := exec_run _ _
  have foreign : Foreign (sampleShare .nfs) ([sampleRule] ++ deleteOther.rules) [] handMadeGroup :=
    Or.inl (by decide)
  have same := (stays.others _ ran.reaches).groups handMadeGroup foreign
  revert same
  decide

end WekaShareDriver
