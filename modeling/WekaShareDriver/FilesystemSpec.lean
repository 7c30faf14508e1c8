import WekaShareDriver.Filesystems
import WekaShareDriver.Footprint

/-! # Finding and creating filesystems

A lookup by name finds what the session's organization has under the name.
Getting or creating a filesystem returns the one of the name, and creates it only
where there was none (`WekaShareDriver.wp_createFilesystemIdempotent`).
-/

namespace WekaShareDriver

open Foundation Program

variable {cfg : Config} {share : Share} {fault : Fault} {w t : World} {session : Session}

/-- Looking a filesystem up finds the one of the name, or fails. -/
theorem wp_getFilesystemByName {guarantee : World → Op → World → Prop} {session : Session}
    {name : String} {post : Except Error (Option (Entry Filesystem)) → World → Prop}
    (guaranteed : guarantee w (.api session .listFilesystems) w)
    (listed : post (.ok (w.cluster.filesystems.find? (session, name))) w)
    (failed : ∀ error, fault w (.api session .listFilesystems) error → post (.error error) w) :
    (getFilesystemByName session name).wp (service fault) guarantee post w := by
  have selects : ((w.cluster.filesystems.rows.filter fun entry => entry.val.org = session).find?
      fun fs => fs.val.name = name) = w.cluster.filesystems.find? (session, name) := by
    refine Registry.find?_filter _ _ _ _ fun entry => ?_
    rw [← Bool.decide_and]
    exact decide_eq_decide.mpr (Prod.mk.injEq ..).symm.to_iff
  unfold getFilesystemByName
  rw [wp_bind, wp_send]
  refine ⟨⟨guaranteed, ?_⟩, fun error raised => ⟨guaranteed, failed error raised⟩⟩
  change post (.ok _) w
  rw [selects]
  exact listed

/-- A filesystem as it is created. -/
abbrev newFilesystem (session : Session) (name groupName : String) (totalCapacity : Nat)
    (authRequired : Bool) : Filesystem :=
  ⟨session, name, groupName, totalCapacity, 0, authRequired⟩

/-- A filesystem was created unless there was one of its name. -/
def MaybeCreated (val : Filesystem) (w t : World) : Prop :=
  t = w ∨ w.cluster.filesystems.find? (val.org, val.name) = none ∧
    t = { w with cluster := { w.cluster with filesystems := w.cluster.filesystems.insert val } }

/-- Creating a filesystem under a free name. -/
theorem answer_createFilesystem_free {cluster : Cluster} {name groupName : String}
    {totalCapacity : Nat} {authRequired : Bool}
    (free : cluster.filesystems.find? (session, name) = none) :
    cluster.answer session (.createFilesystem name groupName totalCapacity authRequired) =
      (.ok ⟨cluster.filesystems.next,
          newFilesystem session name groupName totalCapacity authRequired⟩,
        { cluster with
          filesystems := cluster.filesystems.insert
            (newFilesystem session name groupName totalCapacity authRequired) }) := by
  have lookup : cluster.filesystems.find? (Keyed.key
    (newFilesystem session name groupName totalCapacity authRequired)) = none := free
  simp only [Cluster.answer, Cluster.create, lookup]

/-- The filesystem of the name is returned; it fails by a fault only. -/
theorem wp_createFilesystemIdempotent {fsName groupName : String} {sizeBytes : Nat}
    {authRequired : Bool} :
    (createFilesystemIdempotent session fsName groupName sizeBytes authRequired).wp (service fault)
      (passing (MaybeCreated (newFilesystem session fsName groupName sizeBytes authRequired) w))
      (ending
        (fun fs t =>
          MaybeCreated (newFilesystem session fsName groupName sizeBytes authRequired) w t ∧
            t.cluster.filesystems.find? (session, fsName) = some fs)
        (fun _ t => Possible fault ∧ t = w)) w := by
  have here : MaybeCreated (newFilesystem session fsName groupName sizeBytes authRequired) w w :=
    Or.inl rfl
  unfold createFilesystemIdempotent
  rw [wp_bind, onOk_ending]
  refine wp_getFilesystemByName here ?_ fun error raised => ⟨⟨w, _, error, raised⟩, rfl⟩
  rw [ending_ok]
  cases found : w.cluster.filesystems.find? (session, fsName) with
  | some existing => exact ⟨here, found⟩
  | none =>
      dsimp only
      rw [wp_tryCatch, onError_ending, wp_send, answer_createFilesystem_free found]
      refine ⟨⟨Or.inr ⟨found, rfl⟩, Or.inr ⟨found, rfl⟩, ?_⟩, fun error raised => ⟨here, ?_⟩⟩
      · have free : w.cluster.filesystems.find? (Keyed.key
          (newFilesystem session fsName groupName sizeBytes authRequired)) = none := found
        have key : (session, fsName) = Keyed.key
          (newFilesystem session fsName groupName sizeBytes authRequired) := rfl
        dsimp only
        rw [Registry.find?_insert _ _ free, key, Function.update_self]
      · have possible : Possible fault := ⟨w, _, error, raised⟩
        rw [ending_error]
        cases error with
        | api apiError =>
            dsimp only
            rw [wp_ite]
            split
            · rw [wp_bind, onOk_ending]
              refine wp_getFilesystemByName here ?_ fun error raised =>
                ⟨⟨w, _, error, raised⟩, rfl⟩
              rw [ending_ok, found]
              exact ⟨possible, rfl⟩
            · exact ⟨possible, rfl⟩
        | _ => exact ⟨possible, rfl⟩

end WekaShareDriver
