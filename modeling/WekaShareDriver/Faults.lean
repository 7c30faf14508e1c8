import WekaShareDriver.World

/-! # Honest faults

Any call may fail, with any error. A fault is honest when its error says nothing
false about the cluster: it reports that an object exists or an attachment is
present only if it is really there, and that an object is not found only if it
is really gone (`WekaShareDriver.Honest`).
-/

namespace WekaShareDriver

open Foundation Program

namespace Cluster

/-- What a request would add is there already. -/
def AlreadyThere (session : Session) : Request → Cluster → Prop
  | .createOrganization name _ _, cluster => (cluster.organizations.find? name).isSome
  | .createUser username _ _, cluster => (cluster.users.find? (session, username)).isSome
  | .createFilesystem name _ _ _, cluster => (cluster.filesystems.find? (session, name)).isSome
  | .createSnapshot fsUid name _, cluster => (cluster.snapshots.find? (fsUid, name)).isSome
  | .createSecurityPolicy name _ _, cluster => (cluster.policies.find? (session, name)).isSome
  | .updateSecurityPolicy uid addIps _, cluster =>
      ∃ entry, cluster.policies.get? uid = some entry ∧ ∀ ip ∈ addIps, ip ∈ entry.val.ips
  | .attachFsSecurityPolicy fsUid policyUid, cluster =>
      ∃ entry, cluster.policies.get? policyUid = some entry ∧ fsUid ∈ entry.val.attached
  | .createClientGroup name, cluster => (cluster.clientGroups.find? name).isSome
  | .addClientGroupRule uid type value, cluster =>
      ∃ entry, cluster.clientGroups.get? uid = some entry ∧
        ∃ rule ∈ entry.val.rules, rule.type = type ∧ rule.rule = storedRule value
  | .createNfsPermission group filesystem path _ _, cluster =>
      (cluster.permissions.find? (filesystem, group, path)).isSome
  | _, _ => False

/-- An object a request names is gone. -/
def Gone : Request → Cluster → Prop
  | .getFilesystem uid, cluster => cluster.filesystems.get? uid = none
  | .updateFilesystem uid _, cluster => cluster.filesystems.get? uid = none
  | .deleteFilesystem uid, cluster => cluster.filesystems.get? uid = none
  | .createSnapshot fsUid _ _, cluster => cluster.filesystems.get? fsUid = none
  | .deleteSnapshot uid, cluster => cluster.snapshots.get? uid = none
  | .restoreSnapshot uid fsUid, cluster =>
      cluster.snapshots.get? uid = none ∨ cluster.filesystems.get? fsUid = none
  | .updateSecurityPolicy uid _ _, cluster => cluster.policies.get? uid = none
  | .deleteSecurityPolicy uid, cluster => cluster.policies.get? uid = none
  | .attachFsSecurityPolicy fsUid policyUid, cluster =>
      cluster.policies.get? policyUid = none ∨ cluster.filesystems.get? fsUid = none
  | .detachFsSecurityPolicy fsUid policyUid, cluster =>
      cluster.policies.get? policyUid = none ∨ cluster.filesystems.get? fsUid = none
  | .getClientGroup uid, cluster => cluster.clientGroups.get? uid = none
  | .addClientGroupRule uid _ _, cluster => cluster.clientGroups.get? uid = none
  | .deleteClientGroupRule uid ruleUid, cluster =>
      ∀ entry, cluster.clientGroups.get? uid = some entry →
        ∀ rule ∈ entry.val.rules, rule.uid ≠ ruleUid
  | .deleteClientGroup uid, cluster => cluster.clientGroups.get? uid = none
  | .deleteNfsPermission uid, cluster => cluster.permissions.get? uid = none
  | _, _ => False

end Cluster

/-- Every fault of a request says nothing false about the cluster. -/
structure Honest (fault : Fault) : Prop where
  alreadyThere : ∀ w session request error, fault w (.api session request) error →
    (isAlreadyExistsError error || isAlreadyAttachedError error) = true →
      Cluster.AlreadyThere session request w.cluster
  gone : ∀ w session request error, fault w (.api session request) error →
    isNotFound error = true → Cluster.Gone request w.cluster

/-- Some call can fail. -/
def Possible (fault : Fault) : Prop := ∃ w op error, fault w op error

/-- No fault is possible without faults. -/
theorem not_possible_noFaults : ¬ Possible noFaults := fun ⟨_, _, _, impossible⟩ => impossible

/-- No faults are honest faults. -/
theorem honest_noFaults : Honest noFaults :=
  ⟨fun _ _ _ _ impossible => impossible.elim, fun _ _ _ _ impossible => impossible.elim⟩

/-- A call leaves what it does when it works, or nothing changed. -/
theorem answered_world {fault : Fault} {w t : World} {op : Op} {answer : Except Error op.Res}
    (answered : service fault w op answer t) : t = (respond op w).2 ∨ t = w := by
  rcases answered with equal | ⟨_, _, _, same⟩
  · exact Or.inl (congrArg Prod.snd equal).symm
  · exact Or.inr same

section Calls

variable {fault : Fault} {guarantee : World → Op → World → Prop}

/-- A request changes the cluster as it answers, or fails and changes nothing. -/
theorem wp_send (session : Session) (request : Request)
    (post : Except Error request.Reply → World → Prop) (w : World) :
    (send session request).wp (service fault) guarantee post w ↔
      (guarantee w (.api session request)
          { w with cluster := (w.cluster.answer session request).2 } ∧
        post (asRaised (w.cluster.answer session request).1)
          { w with cluster := (w.cluster.answer session request).2 }) ∧
      ∀ error, fault w (.api session request) error →
        guarantee w (.api session request) w ∧ post (.error error) w := by
  rw [send, wp_perform_withFaults]
  rfl

/-- A request that is answered without changing the cluster. -/
theorem wp_send_of_answer {session : Session} {request : Request}
    {post : Except Error request.Reply → World → Prop} {w : World} {cluster : Cluster}
    {reply : Except WekaApiError request.Reply}
    (answered : w.cluster.answer session request = (reply, cluster))
    (guaranteed : guarantee w (.api session request) { w with cluster })
    (replied : post (asRaised reply) { w with cluster })
    (failed : ∀ error, fault w (.api session request) error →
      guarantee w (.api session request) w ∧ post (.error error) w) :
    (send session request).wp (service fault) guarantee post w := by
  rw [wp_send, answered]
  exact ⟨⟨guaranteed, replied⟩, failed⟩

/-- A call of the host changes the host as it answers, or fails and changes nothing. -/
theorem wp_onHost (call : HostCall) (post : Except Error call.Reply → World → Prop) (w : World) :
    (onHost call).wp (service fault) guarantee post w ↔
      (guarantee w (.host call) { w with host := (w.host.answer call).2 } ∧
        post (w.host.answer call).1 { w with host := (w.host.answer call).2 }) ∧
      ∀ error, fault w (.host call) error →
        guarantee w (.host call) w ∧ post (.error error) w := by
  rw [onHost, wp_perform_withFaults]
  rfl

end Calls

end WekaShareDriver
