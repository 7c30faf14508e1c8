import WekaShareDriver.Access.NfsState
import WekaShareDriver.Faults
import Mathlib.Data.Finset.Dedup
import Mathlib.Data.List.Find

/-! # Calls on one client group and one permission

Every request about NFS access replaces what the cluster finds under one group
name or under one permission key, and nothing else
(`WekaShareDriver.GroupReplaced`, `WekaShareDriver.PermissionReplaced`). The
rules below give each request's effect in those terms, for any faults, and what
a replacement means for the access to one filesystem.
-/

namespace WekaShareDriver

open Foundation Program

/-- One world differs from another at most in the client group of a name. -/
structure GroupReplaced (w t : World) (name : String) (entry : Option (Entry ClientGroup)) :
    Prop where
  world : t = { w with cluster := { w.cluster with clientGroups := t.cluster.clientGroups } }
  lookup : t.cluster.clientGroups.find? = Function.update w.cluster.clientGroups.find? name entry

/-- One world differs from another at most in the permission of a key. -/
structure PermissionReplaced (w t : World) (key : String × String × String)
    (entry : Option (Entry NfsPermission)) : Prop where
  world : t = { w with cluster := { w.cluster with permissions := t.cluster.permissions } }
  lookup : t.cluster.permissions.find? = Function.update w.cluster.permissions.find? key entry

/-- A client group as access to a filesystem sees it. -/
def ClientGroup.networks (group : ClientGroup) : Finset String := group.addresses.toFinset

/-- The access to a filesystem. -/
def nfsState (fsName : String) (w : World) : NfsState := fun name =>
  ⟨(w.cluster.clientGroups.find? name).map fun entry => entry.val.networks,
    (w.cluster.permissions.find? (fsName, name, "/")).map fun entry => entry.val.permissionType⟩

/-- A filesystem is exported at its root only, and to named groups only. -/
def Rooted (fsName : String) (w : World) : Prop :=
  ∀ name path entry, w.cluster.permissions.find? (fsName, name, path) = some entry →
    path = "/" ∧ name ≠ ""

section Replaced

variable {w t u : World} {name fsName path : String} {key : String × String × String}
  {group group' : Option (Entry ClientGroup)} {permission : Option (Entry NfsPermission)}

/-- A world has the group that it has. -/
theorem GroupReplaced.refl (w : World) (name : String) :
    GroupReplaced w w name (w.cluster.clientGroups.find? name) :=
  ⟨rfl, (Function.update_eq_self name _).symm⟩

/-- Of two replacements of one group the second counts. -/
theorem GroupReplaced.trans (first : GroupReplaced w t name group)
    (second : GroupReplaced t u name group') : GroupReplaced w u name group' := by
  refine ⟨?_, ?_⟩
  · rw [second.world, first.world]
  · rw [second.lookup, first.lookup, Function.update_idem]

/-- What replaced a group is found by its name. -/
theorem GroupReplaced.found (replaced : GroupReplaced w t name group) :
    t.cluster.clientGroups.find? name = group := by
  rw [replaced.lookup, Function.update_self]

/-- Replacing a group leaves the permissions. -/
theorem GroupReplaced.permissions (replaced : GroupReplaced w t name group) :
    t.cluster.permissions = w.cluster.permissions := by
  rw [replaced.world]

/-- Replacing a group leaves every permission at the root of its filesystem. -/
theorem GroupReplaced.rooted (replaced : GroupReplaced w t name group) (rooted : Rooted fsName w) :
    Rooted fsName t := by
  unfold Rooted
  rw [replaced.permissions]
  exact rooted

/-- Replacing a group replaces the networks under its name. -/
theorem GroupReplaced.nfsState (replaced : GroupReplaced w t name group) :
    nfsState fsName t = Function.update (nfsState fsName w) name
      ⟨group.map fun entry => entry.val.networks, (nfsState fsName w name).permission⟩ := by
  funext other
  unfold WekaShareDriver.nfsState
  rw [replaced.lookup, replaced.permissions]
  by_cases same : other = name
  · subst same
    rw [Function.update_self, Function.update_self]
  · rw [Function.update_of_ne same, Function.update_of_ne same]

/-- What replaced a permission is found by its key. -/
theorem PermissionReplaced.found (replaced : PermissionReplaced w t key permission) :
    t.cluster.permissions.find? key = permission := by
  rw [replaced.lookup, Function.update_self]

/-- Replacing a permission leaves the client groups. -/
theorem PermissionReplaced.clientGroups (replaced : PermissionReplaced w t key permission) :
    t.cluster.clientGroups = w.cluster.clientGroups := by
  rw [replaced.world]

/-- A permission that is gone, or at the root to a named group, keeps the
filesystem exported at its root. -/
theorem PermissionReplaced.rooted (replaced : PermissionReplaced w t (fsName, name, path) permission)
    (rooted : Rooted fsName w) (atRoot : permission.isSome → path = "/" ∧ name ≠ "") :
    Rooted fsName t := by
  intro other path' entry found
  rw [replaced.lookup] at found
  by_cases same : (fsName, other, path') = (fsName, name, path)
  · rw [same, Function.update_self] at found
    obtain ⟨root, named⟩ := atRoot (by rw [found]; rfl)
    simp only [Prod.mk.injEq, true_and] at same
    rw [same.1, same.2]
    exact ⟨root, named⟩
  · rw [Function.update_of_ne same] at found
    exact rooted other path' entry found

/-- Replacing a permission at the root replaces the permission under its group's
name. -/
theorem PermissionReplaced.nfsState
    (replaced : PermissionReplaced w t (fsName, name, "/") permission) :
    nfsState fsName t = Function.update (nfsState fsName w) name
      ⟨(nfsState fsName w name).networks, permission.map fun entry => entry.val.permissionType⟩ := by
  funext other
  unfold WekaShareDriver.nfsState
  rw [replaced.lookup, replaced.clientGroups]
  by_cases same : other = name
  · subst same
    rw [Function.update_self, Function.update_self]
  · have ne : (fsName, other, "/") ≠ (fsName, name, "/") := fun equal =>
      same (congrArg (fun key : String × String × String => key.2.1) equal)
    rw [Function.update_of_ne same, Function.update_of_ne ne]

end Replaced

section Calls

variable {fault : Fault} {guarantee : World → Op → World → Prop} {w : World} {name fsName : String}
  {group : Entry ClientGroup} {permission : Entry NfsPermission}

/-- Looking a client group up finds the one of the name, or fails. -/
theorem wp_getClientGroupByName {post : Except Error (Option (Entry ClientGroup)) → World → Prop}
    (guaranteed : guarantee w (.api .admin .listClientGroups) w)
    (listed : post (.ok (w.cluster.clientGroups.find? name)) w)
    (failed : ∀ error, fault w (.api .admin .listClientGroups) error → post (.error error) w) :
    (getClientGroupByName name).wp (service fault) guarantee post w := by
  unfold getClientGroupByName
  rw [wp_bind, wp_send]
  exact ⟨⟨guaranteed, listed⟩, fun error raised => ⟨guaranteed, failed error raised⟩⟩

/-- Getting a client group that is there answers with it, or fails. -/
theorem wp_getClientGroup {post : Except Error (Entry ClientGroup) → World → Prop}
    (found : w.cluster.clientGroups.find? name = some group)
    (guaranteed : guarantee w (.api .admin (.getClientGroup group.uid)) w)
    (got : post (.ok group) w)
    (failed : ∀ error, fault w (.api .admin (.getClientGroup group.uid)) error →
      post (.error error) w) :
    (send .admin (.getClientGroup group.uid)).wp (service fault) guarantee post w := by
  have answered : w.cluster.answer .admin (.getClientGroup group.uid) = (.ok group, w.cluster) := by
    simp only [Cluster.answer, Registry.get?_of_find? found]
  exact wp_send_of_answer answered guaranteed got fun error raised =>
    ⟨guaranteed, failed error raised⟩

/-- Creating a client group that is missing leaves an empty one, or fails. -/
theorem wp_createClientGroup {post : Except Error (Entry ClientGroup) → World → Prop}
    (missing : w.cluster.clientGroups.find? name = none)
    (created : ∀ uid t, GroupReplaced w t name (some ⟨uid, ⟨name, []⟩⟩) →
      guarantee w (.api .admin (.createClientGroup name)) t ∧ post (.ok ⟨uid, ⟨name, []⟩⟩) t)
    (failed : ∀ error, fault w (.api .admin (.createClientGroup name)) error →
      guarantee w (.api .admin (.createClientGroup name)) w ∧ post (.error error) w) :
    (send .admin (.createClientGroup name)).wp (service fault) guarantee post w := by
  rw [wp_send]
  have free : w.cluster.clientGroups.find? (Keyed.key (⟨name, []⟩ : ClientGroup)) = none := missing
  refine ⟨?_, failed⟩
  simp only [Cluster.answer, Cluster.create, free]
  exact created _ _ ⟨rfl, Registry.find?_insert _ _ free⟩

/-- A request that changes a group found by name. -/
theorem wp_changeGroup {request : Request} (change' : ClientGroup → ClientGroup)
    (keeps : ∀ group, Keyed.key (change' group) = Keyed.key group)
    {post : Except Error request.Reply → World → Prop} (reply : request.Reply)
    (found : w.cluster.clientGroups.find? name = some group)
    (answered : w.cluster.answer .admin request = (.ok reply,
      { w.cluster with clientGroups := w.cluster.clientGroups.modify group.uid change' keeps }))
    (changed : ∀ t, GroupReplaced w t name (some ⟨group.uid, change' group.val⟩) →
      guarantee w (.api .admin request) t ∧ post (.ok reply) t)
    (failed : ∀ error, fault w (.api .admin request) error →
      guarantee w (.api .admin request) w ∧ post (.error error) w) :
    (send .admin request).wp (service fault) guarantee post w := by
  rw [wp_send, answered]
  exact ⟨changed _ ⟨rfl, Registry.find?_modify found change' keeps⟩, failed⟩

/-- A rule the group has already is refused and changes nothing. -/
theorem wp_addClientGroupRule {value : String} {post : Except Error GroupRule → World → Prop}
    (found : w.cluster.clientGroups.find? name = some group)
    (added : ∀ rule t, GroupReplaced w t name
        (some ⟨group.uid, group.val.addRule .ip (storedRule value)⟩) →
      guarantee w (.api .admin (.addClientGroupRule group.uid .ip value)) t ∧ post (.ok rule) t)
    (present : (∃ rule ∈ group.val.rules, rule.type = .ip ∧ rule.rule = storedRule value) →
      guarantee w (.api .admin (.addClientGroupRule group.uid .ip value)) w ∧
        post (.error (.api (.generic 400 "/nfs/clientGroups: rule already exists"))) w)
    (failed : ∀ error, fault w (.api .admin (.addClientGroupRule group.uid .ip value)) error →
      guarantee w (.api .admin (.addClientGroupRule group.uid .ip value)) w ∧
        post (.error error) w) :
    (send .admin (.addClientGroupRule group.uid .ip value)).wp (service fault) guarantee post w := by
  by_cases there : ∃ rule ∈ group.val.rules, rule.type = .ip ∧ rule.rule = storedRule value
  · rw [wp_send]
    refine ⟨?_, failed⟩
    simp only [Cluster.answer, Registry.get?_of_find? found, there, ↓reduceIte]
    exact present there
  · refine wp_changeGroup (·.addRule .ip (storedRule value)) (fun _ => rfl)
      ⟨(group.val.rules.map GroupRule.uid).foldr (fun uid next => max (uid + 1) next) 0, .ip,
        storedRule value⟩ found ?_ (added _) failed
    simp only [Cluster.answer, Registry.get?_of_find? found, there, ↓reduceIte]

/-- Deleting a rule of a client group leaves the group without it, or fails. -/
theorem wp_deleteClientGroupRule {ruleUid : Uid} {post : Except Error Unit → World → Prop}
    (found : w.cluster.clientGroups.find? name = some group)
    (deleted : ∀ t, GroupReplaced w t name (some ⟨group.uid, group.val.deleteRule ruleUid⟩) →
      guarantee w (.api .admin (.deleteClientGroupRule group.uid ruleUid)) t ∧ post (.ok ()) t)
    (failed : ∀ error, fault w (.api .admin (.deleteClientGroupRule group.uid ruleUid)) error →
      guarantee w (.api .admin (.deleteClientGroupRule group.uid ruleUid)) w ∧
        post (.error error) w) :
    (send .admin (.deleteClientGroupRule group.uid ruleUid)).wp (service fault) guarantee post
      w := by
  refine wp_changeGroup (·.deleteRule ruleUid) (fun _ => rfl) () found ?_ deleted failed
  simp only [Cluster.answer, Registry.get?_of_find? found]

/-- A group is deleted only once it has no rule. -/
theorem wp_deleteClientGroupRequest {post : Except Error Unit → World → Prop}
    (found : w.cluster.clientGroups.find? name = some group)
    (deleted : ∀ t, group.val.rules = [] → GroupReplaced w t name none →
      guarantee w (.api .admin (.deleteClientGroup group.uid)) t ∧ post (.ok ()) t)
    (refused : group.val.rules ≠ [] → guarantee w (.api .admin (.deleteClientGroup group.uid)) w ∧
      post (.error (.api (.generic 400 "/nfs/clientGroups: group has rules"))) w)
    (failed : ∀ error, fault w (.api .admin (.deleteClientGroup group.uid)) error →
      guarantee w (.api .admin (.deleteClientGroup group.uid)) w ∧ post (.error error) w) :
    (send .admin (.deleteClientGroup group.uid)).wp (service fault) guarantee post w := by
  rw [wp_send]
  refine ⟨?_, failed⟩
  by_cases empty : group.val.rules = []
  · simp only [Cluster.answer, Registry.get?_of_find? found, empty, ↓reduceIte]
    exact deleted _ empty ⟨rfl, Registry.find?_erase found⟩
  · simp only [Cluster.answer, Registry.get?_of_find? found, empty, ↓reduceIte]
    exact refused empty

/-- Listing the permissions answers with all of them, or fails. -/
theorem wp_listNfsPermissions {post : Except Error (List (Entry NfsPermission)) → World → Prop}
    (guaranteed : guarantee w (.api .admin .listNfsPermissions) w)
    (listed : post (.ok w.cluster.permissions.rows) w)
    (failed : ∀ error, fault w (.api .admin .listNfsPermissions) error → post (.error error) w) :
    (send .admin .listNfsPermissions).wp (service fault) guarantee post w := by
  rw [wp_send]
  exact ⟨⟨guaranteed, listed⟩, fun error raised => ⟨guaranteed, failed error raised⟩⟩

/-- Where a filesystem is exported at its root only, its permission to a group is
the one at the root. -/
theorem wp_findNfsPermission {post : Except Error (Option (Entry NfsPermission)) → World → Prop}
    (rooted : Rooted fsName w) (guaranteed : guarantee w (.api .admin .listNfsPermissions) w)
    (listed : post (.ok (w.cluster.permissions.find? (fsName, name, "/"))) w)
    (failed : ∀ error, fault w (.api .admin .listNfsPermissions) error → post (.error error) w) :
    (findNfsPermission fsName name).wp (service fault) guarantee post w := by
  have selects : (w.cluster.permissions.rows.find? fun perm =>
      perm.val.filesystem = fsName && perm.val.group = name) =
        w.cluster.permissions.find? (fsName, name, "/") := by
    unfold Registry.find?
    refine List.find?_congr fun entry member => ?_
    rw [← Bool.decide_and]
    refine decide_eq_decide.mpr ?_
    have found := Registry.find?_of_mem member
    constructor
    · intro ⟨filesystem, group⟩
      have key : Keyed.key entry.val = (fsName, name, entry.val.path) := by
        rw [← filesystem, ← group]
        rfl
      rw [key] at found
      rw [key, (rooted name _ entry found).1]
    · intro key
      have parts : (entry.val.filesystem, entry.val.group, entry.val.path) = (fsName, name, "/") :=
        key
      simp only [Prod.mk.injEq] at parts
      exact ⟨parts.1, parts.2.1⟩
  unfold findNfsPermission
  rw [wp_bind]
  refine wp_listNfsPermissions guaranteed ?_ failed
  change post (.ok _) w
  rw [selects]
  exact listed

/-- Creating a permission that is missing leaves it as asked for, or fails. -/
theorem wp_createNfsPermission {path : String} {type : PermissionType} {squash : Bool}
    {post : Except Error (Entry NfsPermission) → World → Prop}
    (missing : w.cluster.permissions.find? (fsName, name, path) = none)
    (created : ∀ uid t, PermissionReplaced w t (fsName, name, path)
        (some ⟨uid, ⟨fsName, name, path, type, squash⟩⟩) →
      guarantee w (.api .admin (.createNfsPermission name fsName path type squash)) t ∧
        post (.ok ⟨uid, ⟨fsName, name, path, type, squash⟩⟩) t)
    (failed : ∀ error, fault w (.api .admin (.createNfsPermission name fsName path type squash))
        error → guarantee w (.api .admin (.createNfsPermission name fsName path type squash)) w ∧
          post (.error error) w) :
    (send .admin (.createNfsPermission name fsName path type squash)).wp (service fault) guarantee
      post w := by
  rw [wp_send]
  have free : w.cluster.permissions.find?
      (Keyed.key (⟨fsName, name, path, type, squash⟩ : NfsPermission)) = none := missing
  refine ⟨?_, failed⟩
  simp only [Cluster.answer, Cluster.create, free]
  exact created _ _ ⟨rfl, Registry.find?_insert _ _ free⟩

/-- A permission is deleted by its uid; one that is gone is reported. -/
theorem wp_deleteNfsPermission {uid : Uid} {post : Except Error Unit → World → Prop}
    (deleted : ∀ permission t, w.cluster.permissions.get? uid = some permission →
      PermissionReplaced w t (Keyed.key permission.val) none →
      guarantee w (.api .admin (.deleteNfsPermission uid)) t ∧ post (.ok ()) t)
    (gone : w.cluster.permissions.get? uid = none →
      guarantee w (.api .admin (.deleteNfsPermission uid)) w ∧
        post (.error (.api (.notFound "/nfs/permissions"))) w)
    (failed : ∀ error, fault w (.api .admin (.deleteNfsPermission uid)) error →
      guarantee w (.api .admin (.deleteNfsPermission uid)) w ∧ post (.error error) w) :
    (send .admin (.deleteNfsPermission uid)).wp (service fault) guarantee post w := by
  rw [wp_send]
  refine ⟨?_, failed⟩
  cases found : w.cluster.permissions.get? uid with
  | none =>
      simp only [Cluster.answer, found]
      exact gone found
  | some permission =>
      obtain ⟨member, _⟩ := Registry.get?_eq_some_iff.mp found
      have keyed := Registry.find?_of_mem member
      simp only [Cluster.answer, found]
      exact deleted permission _ found ⟨rfl, Registry.find?_erase keyed⟩

end Calls

end WekaShareDriver
