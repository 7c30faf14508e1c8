import WekaShareDriver.Access.NfsUses
import WekaShareDriver.Access.Runs
import WekaShareDriver.FilesystemSpec
import WekaShareDriver.Snapshots

/-! # The life of a share

A share is made by creating its filesystem or by adopting one
(`WekaShareDriver.Made`). Every later call carries the export locations the share
was made with, and any request of any call may fail
(`WekaShareDriver.CallsReach`).
-/

namespace WekaShareDriver

open Foundation Program

/-- The calls Manila makes for a share it has. -/
inductive ShareCall where
  | extendShare (newSize : Nat)
  | shrinkShare (newSize : Nat)
  | createSnapshot (snapshotId : String)
  | deleteSnapshot (snapshotId : String)
  | revertToSnapshot (snapshotId : String)
  | updateAccess (update : AccessUpdate)
  | ensureShares (shares : List Share)
  | deleteShare

namespace ShareCall

@[reducible] def Result : ShareCall → Type
  | .updateAccess _ => RuleStates
  | .ensureShares _ => Dict String ShareUpdate
  | _ => Unit

/-- What the driver does for a call. -/
def program (cfg : Config) (share : Share) : (call : ShareCall) → Driver call.Result
  | .extendShare newSize => WekaShareDriver.extendShare cfg share newSize
  | .shrinkShare newSize => WekaShareDriver.shrinkShare cfg share newSize
  | .createSnapshot snapshotId => WekaShareDriver.createSnapshot cfg ⟨snapshotId, share⟩
  | .deleteSnapshot snapshotId => WekaShareDriver.deleteSnapshot cfg ⟨snapshotId, share⟩
  | .revertToSnapshot snapshotId => WekaShareDriver.revertToSnapshot cfg ⟨snapshotId, share⟩
  | .updateAccess update => update.program cfg share
  | .ensureShares shares => WekaShareDriver.ensureShares cfg shares
  | .deleteShare => WekaShareDriver.deleteShare cfg share

/-- The shares verified together include the share, and no other of its id. -/
def Carries (share : Share) : ShareCall → Prop
  | .ensureShares shares => share ∈ shares ∧ ∀ other ∈ shares, other.id = share.id → other = share
  | _ => True

end ShareCall

/-- A share returned with its export locations by its creation or its adoption. -/
inductive Made (cfg : Config) (fault : Fault) (share : Share) (w : World) : Prop where
  | created {u : World} (given : List ExportLocation)
      (run : Exec (service fault) (createShare cfg { share with exportLocations := given }) u
        (.ok share.exportLocations) w)
  | managed {u : World} (given : List ExportLocation) (size : Nat)
      (run : Exec (service fault) (manageExisting cfg { share with exportLocations := given }) u
        (.ok ⟨size, share.exportLocations⟩) w)

/-- The worlds between the calls for a share, each of which ended with a result or
an error. -/
inductive CallsReach (cfg : Config) (share : Share) (fault : Fault) (start : World) :
    World → Prop where
  | start : CallsReach cfg share fault start start
  | call {w t : World} {call : ShareCall} {outcome : Except Error call.Result}
      (reached : CallsReach cfg share fault start w) (carries : call.Carries share)
      (run : Exec (service fault) (call.program cfg share) w outcome t) :
      CallsReach cfg share fault start t

/-- The filesystem whose uid and name are in a share's export locations. -/
structure Backed (cfg : Config) (share : Share) (fs : Entry Filesystem) (w : World) : Prop where
  present : fs ∈ w.cluster.filesystems.rows
  org : fs.val.org = .admin
  locations : share.exportLocations =
    buildExportLocations cfg share fs.val.name (some fs.uid) share.shareProto

variable {cfg : Config} {share : Share} {fault : Fault} {fs : Entry Filesystem} {w t : World}

/-- An NFS share is reached by the administrator's session. -/
theorem clientForShare_nfs (protocol : share.shareProto = .nfs) :
    clientForShare cfg share = pure .admin := by
  unfold clientForShare isIsolatedWekafs
  rw [protocol]
  rfl

/-- The uid in the export metadata is taken without a request. -/
theorem getFsUidForShare_of_backed (session : Session) (backed : Backed cfg share fs w) :
    getFsUidForShare cfg session share = pure fs.uid := by
  unfold getFsUidForShare
  rw [backed.locations]
  rfl

/-- Creating an NFS share returns the filesystem of the generated name. -/
theorem wp_createShare_nfs (protocol : share.shareProto = .nfs) :
    (createShare cfg share).wp (service fault) (passing fun _ => True)
      (ending
        (fun locations t => ∃ fs : Entry Filesystem,
          t.cluster.filesystems.find? (.admin, cfg.shareName share.id) = some fs ∧
            locations = buildExportLocations cfg share fs.val.name (some fs.uid) .nfs)
        (fun _ _ => True)) w := by
  have isolated : isIsolatedWekafs share = false := by
    unfold isIsolatedWekafs
    rw [protocol]
    rfl
  unfold createShare
  rw [protocol]
  dsimp only
  rw [clientForShare_nfs protocol, LawfulMonad.pure_bind, isolated]
  apply wp_bind_of _ (wp_weaken wp_createFilesystemIdempotent (fun _ _ => trivial)
    (fun _ _ reached => reached) fun _ _ _ => trivial)
  intro fs t reached
  refine ⟨fs, reached.2, ?_⟩
  have name : fs.val.name = cfg.shareName share.id :=
    congrArg Prod.snd (Registry.find?_eq_some_iff.mp reached.2).2
  rw [name]

/-- Adopting a filesystem of the administrator's returns it. -/
theorem wp_manageExisting (protocol : share.shareProto = .nfs) :
    (manageExisting cfg share).wp (service fault) (passing fun _ => True)
      (ending
        (fun managed t => ∃ fs : Entry Filesystem, fs ∈ t.cluster.filesystems.rows ∧
          fs.val.org = .admin ∧ managed.exportLocations =
            buildExportLocations cfg share fs.val.name (some fs.uid) .nfs)
        (fun _ _ => True)) w := by
  unfold manageExisting
  rw [if_neg (by rw [protocol]; exact ShareProto.noConfusion), protocol]
  cases named : managedFsName share with
  | none => trivial
  | some fsName =>
      dsimp only
      rw [wp_bind, onOk_ending]
      refine wp_getFilesystemByName trivial ?_ fun _ _ => trivial
      rw [ending_ok]
      cases found : w.cluster.filesystems.find? (.admin, fsName) with
      | none => trivial
      | some fs =>
          have here := Registry.find?_eq_some_iff.mp found
          have cleared : Obeys (service fault)
              (fun t => t.cluster.filesystems = w.cluster.filesystems) (fun _ _ _ => True)
              (tryCatch (removeAllNfsPermissions cfg fsName) fun _ => pure ()) := by
            refine .tryCatch (fun s holds => ?_) fun _ => .pure _
            refine wp_mono (fun _ _ _ kept => ⟨trivial, kept.2⟩) (fun _ _ ended => ended)
              (obeys_removeAllNfsPermissions (fun _ _ _ _ use same answered =>
                (use.filesystems answered).trans same) s holds)
          apply wp_bind_of _ (wp_mono (fun _ _ _ _ => trivial) (fun _ _ ended => ended)
            (wp_weaken (cleared w rfl) (fun _ _ => trivial) (fun _ _ same => same)
              fun _ _ _ => trivial))
          intro _ t same
          refine ⟨fs, ?_, congrArg Prod.fst here.2, ?_⟩
          · rw [same]
            exact here.1
          · have name : fs.val.name = fsName := congrArg Prod.snd here.2
            rw [name]

/-- A share that was made is backed by a filesystem. -/
theorem Made.backed (made : Made cfg fault share w) (protocol : share.shareProto = .nfs) :
    ∃ fs, Backed cfg share fs w := by
  cases made with
  | created given run =>
      obtain ⟨fs, found, locations⟩ := run.post (wp_createShare_nfs protocol)
      have here := Registry.find?_eq_some_iff.mp found
      refine ⟨fs, here.1, congrArg Prod.fst here.2, ?_⟩
      rw [locations, protocol]
      rfl
  | managed given size run =>
      obtain ⟨fs, present, org, locations⟩ := run.post (wp_manageExisting protocol)
      refine ⟨fs, present, org, ?_⟩
      rw [protocol]
      exact locations

end WekaShareDriver
