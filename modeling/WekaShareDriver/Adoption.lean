import Mathlib.Algebra.Group.Nat.Defs
import WekaShareDriver.Foundation.May
import WekaShareDriver.Resolution

/-! # Adopting an existing filesystem

The name of an adopted filesystem is read from an export path, and read again from the
path when the share is looked up later. The two readings agree exactly where the last
component of the path has no colon (`WekaShareDriver.export_path_names_agree_iff`). The
size recorded for it is never larger than the filesystem unless it ends within half a
hundredth of the next whole GiB (`WekaShareDriver.managed_size_iff`).
-/

namespace WekaShareDriver

open Foundation Program

/-- The filesystem name a lookup takes from an export path, if there is one. -/
def candidateName (path : String) : Option String := (some (exportPathName path)).filter (· ≠ "")

variable {cfg : Config} {share : Share} {fault : Fault} {w t : World} {path name : String}

/-! ## The name in an export path -/

/-- What a lookup takes from a last component with a colon is shorter. -/
theorem length_exportPathName_lt (colon : ':' ∈ (Text.afterLast path '/').toList) :
    (exportPathName path).toList.length < (Text.afterLast path '/').toList.length := by
  have shorter := Text.length_afterFirst_lt colon
  have stripped := Text.length_lstrip_le (Text.afterFirst (Text.afterLast path '/') ':') '/'
  unfold exportPathName
  dsimp only
  rw [if_pos colon]
  omega

/-- A lookup keeps the last component of a path exactly if it has no colon. -/
theorem exportPathName_eq_iff (path : String) :
    Text.afterLast path '/' = exportPathName path ↔ ':' ∉ (Text.afterLast path '/').toList := by
  constructor
  · intro same colon
    have shorter := length_exportPathName_lt colon
    rw [← same] at shorter
    omega
  · intro absent
    exact (if_neg absent).symm

private theorem filter_nonempty_inj {left right : String} :
    (some left).filter (· ≠ "") = (some right).filter (· ≠ "") ↔ left = right := by
  by_cases l : left = "" <;> by_cases r : right = "" <;> simp [Option.filter, l, r, eq_comm]

/-- The last component of the path that is built is the filesystem's name. -/
theorem afterLast_builtPath {fsUid : Option Uid} {shareProto : ShareProto} {loc : ExportLocation}
    (slashless : '/' ∉ name.toList)
    (built : loc ∈ buildExportLocations cfg share name fsUid shareProto) :
    loc.path ≠ "" ∧ Text.afterLast loc.path '/' = name := by
  have built' := List.mem_singleton.mp built
  have ends (server : String) : ∀ separator ∈ ["/", ":/"],
      server ++ separator ++ name ≠ "" ∧
        Text.afterLast (server ++ separator ++ name) '/' = name := by
    intro separator member
    have last : (server ++ separator).toList.getLast? = some '/' := by
      rcases List.mem_cons.mp member with rfl | rest
      · simp
      · rw [List.eq_of_mem_singleton rest]
        simp
    refine ⟨fun empty => ?_, Text.afterLast_append last slashless⟩
    have nothing := congrArg (fun text => text.toList.length) empty
    rcases List.mem_cons.mp member with rfl | rest
    · simp at nothing
    · rw [List.eq_of_mem_singleton rest] at nothing
      simp at nothing
  subst built'
  dsimp only
  split
  · exact ends _ _ (by simp)
  · exact ends _ _ (by simp)

/-- The two readings of an export path agree exactly if its last component has no colon, and
read back the name a path was built for exactly if the name has none. -/
theorem export_path_names_agree_iff (cfg : Config) (share : Share) :
    (∀ loc, share.exportLocations.find? (fun loc => loc.path ≠ "") = some loc →
      (managedFsName share = candidateName loc.path ↔
        ':' ∉ (Text.afterLast loc.path '/').toList)) ∧
    ∀ name fsUid shareProto, '/' ∉ name.toList →
      ∀ loc ∈ buildExportLocations cfg share name fsUid shareProto,
        managedFsName { share with exportLocations := [loc] } = (some name).filter (· ≠ "") ∧
        (candidateName loc.path = (some name).filter (· ≠ "") ↔ ':' ∉ name.toList) := by
  constructor
  · intro loc first
    rw [managedFsName, first, candidateName, Option.map_some, filter_nonempty_inj]
    exact exportPathName_eq_iff loc.path
  · intro name fsUid shareProto slashless loc built
    obtain ⟨nonempty, last⟩ := afterLast_builtPath slashless built
    constructor
    · have first : [loc].find? (fun loc => loc.path ≠ "") = some loc := by simp [nonempty]
      rw [managedFsName, first, Option.map_some, last]
    · rw [candidateName, filter_nonempty_inj, eq_comm]
      have agree := exportPathName_eq_iff loc.path
      rwa [last] at agree

/-- An export path without a slash is read as one name when it is adopted, and without the
part before the colon when it is looked up. -/
theorem colon_path_names_differ : ¬ ∀ share loc,
    share.exportLocations.find? (fun loc => loc.path ≠ "") = some loc →
      managedFsName share = candidateName loc.path := by
  intro agree
  have names := agree { sampleShare .nfs with
    exportLocations := [⟨"filer:data", false, ⟨none, none, none, none⟩⟩] } _ rfl
  exact absurd names (by decide)

/-! ## The recorded size -/

/-- The recorded size is the whole number of GiB, and one more within half a hundredth of
the next. -/
theorem bytesToGbHundredths_div (sizeBytes : Nat) : bytesToGbHundredths sizeBytes / 100 =
    sizeBytes / 1073741824 + if sizeBytes % 1073741824 < 1068373115 then 0 else 1 := by
  unfold bytesToGbHundredths
  dsimp only
  split_ifs <;> omega

/-- An adopted share is recorded with the rounded size of its filesystem. -/
theorem wp_manageExisting_size {fsName : String} {fs : Entry Filesystem}
    (shared : share.shareProto ≠ .wekafs) (named : managedFsName share = some fsName)
    (found : w.cluster.filesystems.find? (.admin, fsName) = some fs) :
    (manageExisting cfg share).wp (service fault) (passing fun _ => True)
      (ending (fun managed _ => managed.size =
          max 1 (bytesToGbHundredths fs.val.totalCapacity / 100))
        (fun _ _ => Possible fault)) w := by
  unfold manageExisting
  rw [if_neg shared, named]
  dsimp only
  rw [wp_bind, onOk_ending]
  refine wp_getFilesystemByName trivial ?_ fun error raised => ⟨w, _, error, raised⟩
  rw [ending_ok, found]
  dsimp only
  rw [wp_bind, onOk_ending, wp_tryCatch, onError_ending]
  exact wp_mono (fun _ _ _ _ => trivial) (fun outcome _ _ => by cases outcome <;> rfl)
    (wp_true _ _)

/-- An adopted share is recorded with the whole GiB of its filesystem exactly if the
filesystem is below 1 GiB or does not end within half a hundredth of the next GiB. -/
theorem managed_size_iff (cfg : Config) {share : Share} (fault : Fault) {w : World}
    {fsName : String} {fs : Entry Filesystem} (shared : share.shareProto ≠ .wekafs)
    (named : managedFsName share = some fsName)
    (found : w.cluster.filesystems.find? (.admin, fsName) = some fs)
    (_exact : fs.val.totalCapacity < 2 ^ 53) :
    (∀ managed t, Exec (service fault) (manageExisting cfg share) w (.ok managed) t →
      managed.size = max 1 (fs.val.totalCapacity / 2 ^ 30) ∧
      (2 ^ 30 ≤ fs.val.totalCapacity →
        gbToBytes managed.size ≤ fs.val.totalCapacity ∧
        fs.val.totalCapacity < gbToBytes managed.size + 2 ^ 30)) ↔
      fs.val.totalCapacity < 2 ^ 30 ∨ fs.val.totalCapacity % 2 ^ 30 < 1068373115 := by
  have rounded := bytesToGbHundredths_div fs.val.totalCapacity
  have returns : May (service fault) (manageExisting cfg share) (fun managed _ => managed.size =
      max 1 (bytesToGbHundredths fs.val.totalCapacity / 100)) w :=
    .of_wp (wp_weaken (wp_manageExisting_size shared named found) (fun _ _ => trivial)
      (fun _ _ size => size) fun _ _ => not_possible_noFaults)
  constructor
  · intro sizes
    obtain ⟨managed, t, run, size⟩ := returns
    have exact := (sizes managed t run).1
    rw [size, rounded] at exact
    split at exact <;> omega
  · intro within managed t run
    have size := run.post (wp_manageExisting_size shared named found)
    rw [ending_ok, rounded] at size
    unfold gbToBytes
    split at size <;> omega

/-- The sample filesystem a byte below a size. -/
def shortOf (sizeGb : Nat) : World where
  cluster := { Cluster.empty with
    filesystems := Registry.empty.insert
      { sampleFilesystem with totalCapacity := gbToBytes sizeGb - 1 } }
  host := Host.empty

/-- A filesystem of one GiB is adopted with that size. -/
theorem managed_size_sample : ∃ managed t, Exec reliable
    (manageExisting sampleConfig { sampleShare .nfs with exportLocations := adoptedGiven })
    unmanaged (.ok managed) t ∧ managed.size = 1 ∧ gbToBytes managed.size ≤ gbToBytes 1 := by
  have named : managedFsName { sampleShare .nfs with exportLocations := adoptedGiven } =
      some "data" := by decide
  have found : unmanaged.cluster.filesystems.find? (.admin, "data") =
      some ⟨0, sampleFilesystem⟩ := by decide
  have returned : ((manageExisting sampleConfig { sampleShare .nfs with
      exportLocations := adoptedGiven }).run respond unmanaged).1.isOk = true := by decide +kernel
  have run : Exec reliable (manageExisting sampleConfig { sampleShare .nfs with
      exportLocations := adoptedGiven }) unmanaged _ _ := exec_run _ _
  cases outcome : ((manageExisting sampleConfig { sampleShare .nfs with
      exportLocations := adoptedGiven }).run respond unmanaged).1 with
  | error error =>
      rw [outcome] at returned
      cases returned
  | ok managed =>
      rw [outcome] at run
      have sizes := (managed_size_iff sampleConfig noFaults (by decide) named found
        (by decide)).mpr (Or.inr (by decide)) managed _ run
      exact ⟨managed, _, run, sizes.1, (sizes.2 (by decide)).1⟩

/-- A filesystem a byte below two GiB is recorded with two. -/
theorem almost_two_recorded_as_two : ¬ ∀ managed t, Exec reliable
    (manageExisting sampleConfig { sampleShare .nfs with exportLocations := adoptedGiven })
    (shortOf 2) (.ok managed) t → managed.size = max 1 ((gbToBytes 2 - 1) / 2 ^ 30) := by
  intro sizes
  have recorded : ((manageExisting sampleConfig { sampleShare .nfs with
      exportLocations := adoptedGiven }).run respond (shortOf 2)).1.map ManagedShare.size =
        .ok 2 := by decide +kernel
  have run : Exec reliable (manageExisting sampleConfig { sampleShare .nfs with
      exportLocations := adoptedGiven }) (shortOf 2) _ _ := exec_run _ _
  cases outcome : ((manageExisting sampleConfig { sampleShare .nfs with
      exportLocations := adoptedGiven }).run respond (shortOf 2)).1 with
  | error error =>
      rw [outcome] at recorded
      cases recorded
  | ok managed =>
      rw [outcome] at recorded run
      have size := sizes managed _ run
      rw [Except.ok.inj recorded] at size
      exact absurd size (by decide)

end WekaShareDriver
