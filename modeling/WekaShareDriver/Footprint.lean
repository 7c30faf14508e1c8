import WekaShareDriver.Faults

/-! # What a request leaves alone

Each request changes the registries it is about and no other. Uids are never
issued twice, so an object seen under a uid is the only one ever seen under it
(`WekaShareDriver.answer_filesystems`, `WekaShareDriver.answer_permissions`), and
only the request that creates a filesystem adds one.
-/

namespace WekaShareDriver

open Foundation Program

/-- The request to create a filesystem. -/
def Request.createsFilesystem : Request → Bool
  | .createFilesystem .. => true
  | _ => false

variable {session : Session} {request : Request} {cluster : Cluster} {fault : Fault} {w t : World}

/-- After a creation the registry follows the one before. -/
theorem create_follows {ρ κ : Type} [Keyed ρ κ] [DecidableEq κ] (registry : Registry ρ) (val : ρ)
    (taken : WekaApiError) : registry.Follows (Cluster.create registry val taken).2 := by
  unfold Cluster.create
  split
  · exact .refl registry
  · exact .insert registry val

/-- A filesystem keeps its uid, its organization and its name. -/
theorem answer_filesystems : cluster.filesystems.Follows
    (cluster.answer session request).2.filesystems := by
  cases request with
  | createFilesystem name groupName totalCapacity authRequired =>
      exact create_follows cluster.filesystems _ _
  | updateFilesystem uid totalCapacity =>
      simp only [Cluster.answer]
      split
      · exact .modify cluster.filesystems _ (fun fs => { fs with totalCapacity }) fun _ => rfl
      · exact .refl cluster.filesystems
  | deleteFilesystem uid =>
      simp only [Cluster.answer]
      split
      · exact .erase cluster.filesystems _
      · exact .refl cluster.filesystems
  | _ =>
      simp only [Cluster.answer]
      repeat' split
      all_goals exact .refl cluster.filesystems

/-- Only one request adds a filesystem. -/
theorem answer_filesystems_next (other : request.createsFilesystem = false) :
    (cluster.answer session request).2.filesystems.next = cluster.filesystems.next := by
  cases request with
  | createFilesystem name groupName totalCapacity authRequired => cases other
  | _ =>
      simp only [Cluster.answer]
      repeat' split
      all_goals rfl

/-- A permission keeps its uid, its filesystem, its group and its path. -/
theorem answer_permissions : cluster.permissions.Follows
    (cluster.answer session request).2.permissions := by
  cases request with
  | createNfsPermission group filesystem path permissionType squash =>
      exact create_follows cluster.permissions _ _
  | deleteNfsPermission uid =>
      simp only [Cluster.answer]
      split
      · exact .erase cluster.permissions _
      · exact .refl cluster.permissions
  | _ =>
      simp only [Cluster.answer]
      repeat' split
      all_goals exact .refl cluster.permissions

/-- What every request of the cluster does to itself or to a later state, every
operation does, failing or not. -/
theorem follows_of_answer {ρ κ : Type} [Keyed ρ κ] {registry : Cluster → Registry ρ}
    (follows : ∀ cluster session request,
      (registry cluster).Follows (registry (Cluster.answer session request cluster).2))
    {op : Op} {answer : Except Error op.Res} (answered : service fault w op answer t) :
    (registry w.cluster).Follows (registry t.cluster) := by
  rcases answered with equal | ⟨_, _, _, rfl⟩
  · have final : t = (respond op w).2 := (congrArg Prod.snd equal).symm
    subst final
    cases op with
    | api session request => exact follows w.cluster session request
    | login org username password => exact .refl (registry w.cluster)
    | host call => exact .refl (registry w.cluster)
  · exact .refl (registry t.cluster)

end WekaShareDriver
