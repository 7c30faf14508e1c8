import WekaShareDriver.Resolution
import WekaShareDriver.ShareFilesystems

/-! # The health check of the shares

The check of a share finds its filesystem again and mounts it if it is not mounted.
It changes nothing on the cluster, although it opens sessions by the way that creates
organizations: the organization is looked up first, so the creation is never reached
(`WekaShareDriver.wp_ensureOrg_present`). What a share is reported with depends on the
cluster alone (`WekaShareDriver.healthOf`), but only a missing share is reported: any
other failure of a check ends the check of all (`WekaShareDriver.Sound`).
-/

namespace WekaShareDriver

open Foundation Program

/-- The mount table shows a WekaFS mount at a mount point. -/
def tableShows (lines : List String) (mountPoint : String) : Bool :=
  lines.any fun line =>
    match Text.words line with
    | _ :: mounted :: fstype :: _ => mounted = mountPoint && fstype = "wekafs"
    | _ => false

/-- A share's filesystem is mounted on the host. -/
def Mounted (cfg : Config) (share : Share) (w : World) : Prop :=
  tableShows (w.host.mounts.map Mount.line) (cfg.mountPoint (cfg.shareName share.id)) = true

/-- The mount-token file of a project. -/
def tokenPath (cfg : Config) (projectId : Option String) : String :=
  pathJoin cfg.authTokenDir (Text.afterLast (cfg.orgName projectId ++ ".json") '/')

/-- The mount a check makes. -/
def checkedMount (cfg : Config) (share : Share) : WekaMount where
  backends := some cfg.backends
  fsName := cfg.shareName share.id
  mountPoint := cfg.mountPoint (cfg.shareName share.id)
  authTokenPath := some (tokenPath cfg share.projectId)
  numCores := cfg.numCores
  net := cfg.netDevice

/-- The session a check uses for a project: the cached one, or that of the project's own
organization. -/
def heldSession (cfg : Config) (projectId : Option String) (w : World) : Session :=
  (w.host.orgClients.get? (projectId.getD "")).getD (projectSession cfg projectId)

/-- Where a check looks for a share's filesystem. -/
def checkedKey (cfg : Config) (share : Share) (w : World) : Session × String :=
  (if isIsolatedWekafs share then heldSession cfg share.projectId w else .admin,
    cfg.shareName share.id)

/-- The filesystem a check finds, if the organization of a WEKAFS share exists. -/
def verifiedUid (cfg : Config) (share : Share) (w : World) : Option Uid :=
  if isIsolatedWekafs share ∧ w.cluster.organizations.find? (cfg.orgName share.projectId) = none
  then none
  else filesystemAt (checkedKey cfg share w) w

/-- What a share is reported with. -/
def healthOf (cfg : Config) (share : Share) (w : World) : ShareUpdate :=
  match verifiedUid cfg share w with
  | none => .error
  | some uid => .exportLocations (buildExportLocations cfg share (cfg.shareName share.id)
      (some uid) share.shareProto)

/-- What a list of shares is reported with: the last share of an id counts. -/
def reportOf (cfg : Config) (shares : List Share) (w : World) (shareId : String) :
    Option ShareUpdate :=
  (shares.reverse.find? fun share => share.id = shareId).map fun share => healthOf cfg share w

/-- Mount the filesystem of a share unless it is mounted. -/
def remount (cfg : Config) (share : Share) : Driver Unit := do
  if !(← isMounted (cfg.mountPoint (cfg.shareName share.id))) then
    let authTokenPath ← orgTokenFile cfg share.projectId
    WekaMount.mount { checkedMount cfg share with authTokenPath := some authTokenPath }

/-- What a check may change: the cache of sessions grows, and so does the mount table. -/
structure Checked (cfg : Config) (w t : World) : Prop where
  cluster : t.cluster = w.cluster
  cached : ∀ p session, w.host.orgClients.get? p = some session →
    t.host.orgClients.get? p = some session
  opened : ∀ p session, t.host.orgClients.get? p = some session →
    w.host.orgClients.get? p = some session ∨ session = projectSession cfg (some p)
  mounts : ∀ mount ∈ w.host.mounts, mount ∈ t.host.mounts

/-- The session of a project whose organization exists is opened whatever calls fail. -/
structure SessionWorks (fails : Op → Error → Prop) (cfg : Config) (projectId : Option String)
    (w : World) : Prop where
  lists : ∀ error, ¬ fails (.api .admin .listOrganizations) error
  project : hasProject projectId = true
  read : ∀ error, ¬ fails (.host (.orgClientGet (projectId.getD ""))) error
  login : w.host.orgClients.get? (projectId.getD "") = none →
    LoginAccepted cfg projectId w ∧
      (∀ error, ¬ fails (.login (cfg.orgName projectId) cfg.orgUser (cfg.orgPassword projectId))
        error) ∧
      ∀ error, ¬ fails (.host (.orgClientPut (projectId.getD "") (projectSession cfg projectId)))
        error

/-- The filesystem of a share is mounted whatever calls fail. -/
structure MountWorks (fails : Op → Error → Prop) (cfg : Config) (share : Share) (w : World) :
    Prop where
  token : ∀ error, ¬ fails (.host (.writeTokenFile (tokenPath cfg share.projectId)
    (heldSession cfg share.projectId w))) error
  directory : ∀ error, ¬ fails (.host (.ensureMountPointDir (checkedMount cfg share).mountPoint))
    error
  mount : ∀ error, ¬ fails (.host (.wekafsMount (checkedMount cfg share).source
    (checkedMount cfg share).mountPoint (checkedMount cfg share).options)) error

/-- The check of a WEKAFS share passes, or finds the share missing, whatever calls fail. -/
structure Sound (fails : Op → Error → Prop) (cfg : Config) (share : Share) (w : World) :
    Prop where
  lists : ∀ error, ¬ fails (.api .admin .listOrganizations) error
  session : w.cluster.organizations.find? (cfg.orgName share.projectId) ≠ none →
    SessionWorks fails cfg share.projectId w
  lookup : w.cluster.organizations.find? (cfg.orgName share.projectId) ≠ none →
    ∀ error, ¬ fails (.api (heldSession cfg share.projectId w) .listFilesystems) error
  table : verifiedUid cfg share w ≠ none → ∀ error, fails (.host .readProcMounts) error →
    error = .os
  mount : verifiedUid cfg share w ≠ none →
    (¬ Mounted cfg share w ∨ ∃ error, fails (.host .readProcMounts) error) →
      MountWorks fails cfg share w

variable {cfg : Config} {share : Share} {shares : List Share} {fault : Fault}
  {fails : Op → Error → Prop} {projectId : Option String} {listed : List (Entry Filesystem)}
  {w t u : World}

/-! ## What a check may change -/

namespace Checked

/-- A check may change nothing. -/
theorem refl (w : World) : Checked cfg w w :=
  ⟨rfl, fun _ _ held => held, fun _ _ held => Or.inl held, fun _ member => member⟩

/-- A call that leaves the cluster, the cache and the mounts alone. -/
theorem after (checked : Checked cfg w t) (cluster : u.cluster = t.cluster)
    (orgClients : u.host.orgClients = t.host.orgClients)
    (mounts : ∀ mount ∈ t.host.mounts, mount ∈ u.host.mounts) : Checked cfg w u := by
  refine ⟨cluster.trans checked.cluster, fun p session held => ?_, fun p session held => ?_,
    fun mount member => mounts mount (checked.mounts mount member)⟩
  · rw [orgClients]
    exact checked.cached p session held
  · rw [orgClients] at held
    exact checked.opened p session held

/-- A session of its own is cached for a project that had none. -/
theorem put (checked : Checked cfg w t)
    (missing : t.host.orgClients.get? (projectId.getD "") = none) :
    Checked cfg w { t with host := { t.host with
      orgClients := t.host.orgClients.assign (projectId.getD "")
        (projectSession cfg projectId) } } := by
  refine ⟨checked.cluster, fun p session held => ?_, fun p session held => ?_, checked.mounts⟩
  · have other : p ≠ projectId.getD "" := by
      rintro rfl
      rw [checked.cached _ session held] at missing
      cases missing
    exact (Dict.get?_assign_of_ne _ _ other).trans (checked.cached p session held)
  · change (t.host.orgClients.assign _ _).get? p = some session at held
    rw [Dict.get?_assign] at held
    split at held
    · next same =>
        subst same
        exact Or.inr (Option.some.inj held).symm
    · exact checked.opened p session held

/-- The session used for a project stays the same. -/
theorem heldSession (checked : Checked cfg w t) (projectId : Option String) :
    heldSession cfg projectId t = heldSession cfg projectId w := by
  unfold WekaShareDriver.heldSession
  have named : projectSession cfg (some (projectId.getD "")) = projectSession cfg projectId := rfl
  cases before : w.host.orgClients.get? (projectId.getD "") with
  | some session => rw [checked.cached _ session before]
  | none =>
      cases after : t.host.orgClients.get? (projectId.getD "") with
      | none => rfl
      | some session =>
          rcases checked.opened _ session after with kept | own
          · rw [before] at kept
            cases kept
          · exact own.trans named

/-- A check does not change what the next one finds. -/
theorem verifiedUid (checked : Checked cfg w t) (share : Share) :
    verifiedUid cfg share t = verifiedUid cfg share w := by
  unfold WekaShareDriver.verifiedUid checkedKey filesystemAt
  rw [checked.cluster, checked.heldSession]

/-- What was mounted stays so. -/
theorem mounted (checked : Checked cfg w t) (mounted : Mounted cfg share w) :
    Mounted cfg share t := by
  unfold Mounted tableShows at mounted ⊢
  rw [List.any_map, List.any_eq_true] at mounted ⊢
  obtain ⟨mount, member, shown⟩ := mounted
  exact ⟨mount, checked.mounts mount member, shown⟩

end Checked

/-! ## The session of an organization that exists -/

/-- An error that is no missing share's, unless a failing call's is. -/
def Surfaces (fails : Op → Error → Prop) (error : Error) : Prop :=
  (∃ op, fails op error) ∨ ∀ shareId, error ≠ .shareNotFound shareId

/-- An organization that accepts the driver's login grants a session. -/
theorem login_of_accepted (accepted : LoginAccepted cfg projectId w)
    (present : w.cluster.organizations.find? (cfg.orgName projectId) ≠ none) :
    w.cluster.login (cfg.orgName projectId) cfg.orgUser (cfg.orgPassword projectId) =
      .ok (projectSession cfg projectId) := by
  obtain ⟨org, found⟩ := Option.ne_none_iff_exists'.mp present
  unfold Cluster.login
  rw [found]
  exact if_pos (accepted org found)

section Sessions

variable (covers : ∀ v op error, fault v op error → fails op error)
include covers

/-- An organization that exists is not created. -/
theorem wp_ensureOrg_present (checked : Checked cfg w t)
    (present : w.cluster.organizations.find? (cfg.orgName projectId) ≠ none) :
    (ensureOrg cfg projectId).wp (service fault) (passing (Checked cfg w))
      (ending (fun _ u => u = t)
        (fun error u => u = t ∧ fails (.api .admin .listOrganizations) error)) t := by
  unfold ensureOrg
  rw [wp_bind, onOk_ending]
  refine wp_getOrganizationByName checked ?_ fun error raised => ⟨rfl, covers t _ error raised⟩
  rw [ending_ok, checked.cluster]
  cases found : w.cluster.organizations.find? (cfg.orgName projectId) with
  | none => exact absurd found present
  | some org => exact rfl

/-- The session of a project whose organization exists is the one it holds. -/
theorem wp_orgClient_present (checked : Checked cfg w t)
    (present : w.cluster.organizations.find? (cfg.orgName projectId) ≠ none) :
    (orgClient cfg projectId).wp (service fault) (passing (Checked cfg w))
      (ending
        (fun session u => Checked cfg w u ∧ session = heldSession cfg projectId w ∧
          u.host.mounts = t.host.mounts)
        (fun error u => Checked cfg w u ∧ Surfaces fails error ∧
          ¬ SessionWorks fails cfg projectId w)) t := by
  unfold orgClient
  rw [wp_ite]
  split
  · next missing =>
      exact ⟨checked, Or.inr fun _ => Error.noConfusion, fun works => by
        rw [works.project] at missing
        cases missing⟩
  · rw [wp_bind, onOk_ending, wp_onHost]
    refine ⟨⟨checked, ?_⟩, fun error raised => ⟨checked, checked, Or.inl ⟨_, covers _ _ _ raised⟩,
      fun works => works.read error (covers _ _ _ raised)⟩⟩
    simp only [Host.answer, ending_ok]
    cases cached : t.host.orgClients.get? (projectId.getD "") with
    | some session =>
        refine ⟨checked, ?_, rfl⟩
        rw [← checked.heldSession projectId, heldSession, cached]
        rfl
    | none =>
        have uncached : w.host.orgClients.get? (projectId.getD "") = none := by
          cases before : w.host.orgClients.get? (projectId.getD "") with
          | none => rfl
          | some session =>
              rw [checked.cached _ session before] at cached
              cases cached
        have own : heldSession cfg projectId w = projectSession cfg projectId := by
          rw [heldSession, uncached]
          rfl
        dsimp only
        refine wp_bind_of _ (wp_weaken (wp_ensureOrg_present covers checked present)
          (fun _ kept => kept) (fun _ _ reached => reached) fun error u raised => ?_) ?_
        · obtain ⟨rfl, failed⟩ := raised
          exact ⟨checked, Or.inl ⟨_, failed⟩, fun works => works.lists error failed⟩
        rintro _ u rfl
        rw [wp_bind, onOk_ending, login, wp_perform_withFaults]
        refine ⟨⟨checked, ?_⟩, fun error raised => ⟨checked, checked,
          Or.inl ⟨_, covers _ _ _ raised⟩, fun works =>
            (works.login uncached).2.1 error (covers _ _ _ raised)⟩⟩
        change ending _ _ (asRaised (t.cluster.login (cfg.orgName projectId) cfg.orgUser
          (cfg.orgPassword projectId))) t
        cases granted : t.cluster.login (cfg.orgName projectId) cfg.orgUser
            (cfg.orgPassword projectId) with
        | error error =>
            refine ⟨checked, Or.inr fun _ => Error.noConfusion, fun works => ?_⟩
            rw [checked.cluster, login_of_accepted (works.login uncached).1 present] at granted
            cases granted
        | ok session =>
            obtain ⟨rfl, -⟩ := owned_of_login granted
            rw [asRaised, ending_ok, wp_bind, onOk_ending, wp_onHost]
            exact ⟨⟨checked.put cached, checked.put cached, own.symm, rfl⟩, fun error raised =>
              ⟨checked, checked, Or.inl ⟨_, covers _ _ _ raised⟩, fun works =>
                (works.login uncached).2.2 error (covers _ _ _ raised)⟩⟩

end Sessions

/-! ## The check of one share -/

/-- A check finds the filesystem of a share and mounts it. -/
theorem ensureShare_eq (cfg : Config) (listed : List (Entry Filesystem)) (share : Share) :
    ensureShare cfg listed share = (do
      match ← findEnsuredFilesystem cfg listed share with
      | none => throw (.shareNotFound share.id)
      | some fs =>
          if share.shareProto = .wekafs then remount cfg share else pure ()
          return buildExportLocations cfg share (cfg.shareName share.id) (some fs.uid)
            share.shareProto) := by
  refine congrArg (findEnsuredFilesystem cfg listed share >>= ·) (funext fun found => ?_)
  cases found with
  | none => rfl
  | some fs =>
      dsimp only
      split
      · rw [remount, LawfulMonad.bind_assoc]
        refine congrArg (isMounted _ >>= ·) (funext fun mounted => ?_)
        cases mounted with
        | false => exact (LawfulMonad.bind_assoc _ _ _).symm
        | true => rfl
      · rfl

section Checks

variable (covers : ∀ v op error, fault v op error → fails op error)
include covers

/-- A share is mounted unless the mount table says so. -/
theorem wp_isMounted_checked (checked : Checked cfg w t) :
    (isMounted (cfg.mountPoint (cfg.shareName share.id))).wp (service fault)
      (passing (Checked cfg w))
      (ending
        (fun mounted u => u = t ∧ (mounted = false → ¬ Mounted cfg share w ∨
          ∃ error, fails (.host .readProcMounts) error))
        (fun error u => u = t ∧ error ≠ .os ∧ fails (.host .readProcMounts) error)) t := by
  unfold isMounted
  rw [wp_tryCatch, onError_ending, wp_bind, onOk_ending, wp_onHost]
  refine ⟨⟨checked, rfl, fun unmounted => Or.inl fun mounted => ?_⟩, fun error raised => ?_⟩
  · exact Bool.noConfusion (unmounted.symm.trans (checked.mounted mounted))
  · refine ⟨checked, ?_⟩
    rw [ending_error]
    cases error with
    | os => exact ⟨rfl, fun _ => Or.inr ⟨_, covers _ _ _ raised⟩⟩
    | _ => exact ⟨rfl, Error.noConfusion, covers _ _ _ raised⟩

/-- The token file of a project is written. -/
theorem wp_orgTokenFile (checked : Checked cfg w t)
    (present : w.cluster.organizations.find? (cfg.orgName projectId) ≠ none) :
    (orgTokenFile cfg projectId).wp (service fault) (passing (Checked cfg w))
      (ending (fun path u => Checked cfg w u ∧ path = tokenPath cfg projectId)
        (fun error u => Checked cfg w u ∧ Surfaces fails error ∧
          (SessionWorks fails cfg projectId w → ∃ error, fails (.host (.writeTokenFile
            (tokenPath cfg projectId) (heldSession cfg projectId w))) error))) t := by
  unfold orgTokenFile
  refine wp_bind_of _ (wp_weaken (wp_orgClient_present covers checked present)
    (fun _ kept => kept) (fun _ _ opened => opened) fun error u raised => ?_) ?_
  · exact ⟨raised.1, raised.2.1, fun works => absurd works raised.2.2⟩
  · rintro session u ⟨checked', rfl, -⟩
    rw [wp_bind, onOk_ending, wp_tryCatch, onError_ending, wp_onHost]
    have written : Checked cfg w { u with host := { u.host with
        tokenFiles := u.host.tokenFiles.assign (tokenPath cfg projectId)
          (heldSession cfg projectId w) } } :=
      checked'.after rfl rfl fun _ member => member
    refine ⟨⟨written, written, rfl⟩, fun error raised => ⟨checked', ?_⟩⟩
    have failed := covers _ _ _ raised
    rw [ending_error]
    cases error with
    | os => exact ⟨checked', Or.inr fun _ => Error.noConfusion, fun _ => ⟨_, failed⟩⟩
    | _ => exact ⟨checked', Or.inl ⟨_, failed⟩, fun _ => ⟨_, failed⟩⟩

/-- The filesystem of a share is mounted. -/
theorem wp_mount_checked (checked : Checked cfg w t) :
    (checkedMount cfg share).mount.wp (service fault) (passing (Checked cfg w))
      (ending (fun _ u => Checked cfg w u)
        (fun error u => Checked cfg w u ∧ Surfaces fails error ∧
          ((∀ error, fails (.host .readProcMounts) error → error = .os) →
            ¬ MountWorks fails cfg share w))) t := by
  unfold WekaMount.mount
  refine wp_bind_of _ (wp_weaken (wp_isMounted_checked covers checked)
    (fun _ kept => kept) (fun _ _ shown => shown) fun error u raised => ?_) ?_
  · obtain ⟨rfl, other, failed⟩ := raised
    exact ⟨checked, Or.inl ⟨_, failed⟩, fun table => absurd (table error failed) other⟩
  · rintro mounted u ⟨same, -⟩
    subst same
    cases mounted with
    | true => exact checked
    | false =>
        rw [wp_ite, if_neg Bool.false_ne_true, wp_bind, onOk_ending, wp_tryCatch, onError_ending,
          wp_onHost]
        refine ⟨⟨checked, ?_⟩, fun error raised => ⟨checked, ?_⟩⟩
        · change (tryCatch _ _ : Driver Unit).wp _ _ _ u
          rw [wp_tryCatch, onError_ending, wp_onHost]
          have mounted : Checked cfg w { u with host := (u.host.answer
              (.wekafsMount (checkedMount cfg share).source (checkedMount cfg share).mountPoint
                (checkedMount cfg share).options)).2 } :=
            checked.after rfl rfl fun mount member => List.mem_append_left _ member
          refine ⟨⟨mounted, mounted⟩, fun error raised => ⟨checked, ?_⟩⟩
          have failed := covers _ _ _ raised
          rw [ending_error]
          cases error with
          | process =>
              exact ⟨checked, Or.inr fun _ => Error.noConfusion, fun _ works =>
                works.mount _ failed⟩
          | _ => exact ⟨checked, Or.inl ⟨_, failed⟩, fun _ works => works.mount _ failed⟩
        · have failed := covers _ _ _ raised
          rw [ending_error]
          cases error with
          | os =>
              exact ⟨checked, Or.inr fun _ => Error.noConfusion, fun _ works =>
                works.directory _ failed⟩
          | _ => exact ⟨checked, Or.inl ⟨_, failed⟩, fun _ works => works.directory _ failed⟩

/-- The filesystem of a share is mounted unless it is. -/
theorem wp_remount (checked : Checked cfg w t)
    (present : w.cluster.organizations.find? (cfg.orgName share.projectId) ≠ none)
    (verified : verifiedUid cfg share w ≠ none) :
    (remount cfg share).wp (service fault) (passing (Checked cfg w))
      (ending (fun _ u => Checked cfg w u)
        (fun error u => Checked cfg w u ∧ Surfaces fails error ∧ ¬ Sound fails cfg share w)) t := by
  unfold remount
  refine wp_bind_of _ (wp_weaken (wp_isMounted_checked covers checked)
    (fun _ kept => kept) (fun _ _ shown => shown) fun error u raised => ?_) ?_
  · obtain ⟨rfl, other, failed⟩ := raised
    exact ⟨checked, Or.inl ⟨_, failed⟩, fun sound => other (sound.table verified error failed)⟩
  · rintro mounted u ⟨same, unmounted⟩
    subst same
    cases mounted with
    | true => exact checked
    | false =>
        have needed := unmounted rfl
        rw [wp_ite, Bool.not_false, if_pos rfl]
        refine wp_bind_of _ (wp_weaken (wp_orgTokenFile covers checked present)
          (fun _ kept => kept) (fun _ _ written => written) fun error v raised => ?_) ?_
        · obtain ⟨checked', surfaces, broken⟩ := raised
          refine ⟨checked', surfaces, fun sound => ?_⟩
          obtain ⟨error', failed⟩ := broken (sound.session present)
          exact (sound.mount verified needed).token error' failed
        · rintro path v ⟨checked', rfl⟩
          refine wp_weaken (wp_mount_checked covers checked') (fun _ kept => kept)
            (fun _ _ mounted => mounted) fun error v' raised => ?_
          exact ⟨raised.1, raised.2.1, fun sound =>
            raised.2.2 (sound.table verified) (sound.mount verified needed)⟩

/-- The filesystem of a share is found, or the share is missing. -/
theorem wp_findEnsuredFilesystem (checked : Checked cfg w t)
    (listing : listed = w.cluster.filesystems.rows.filter fun entry => entry.val.org = .admin) :
    (findEnsuredFilesystem cfg listed share).wp (service fault) (passing (Checked cfg w))
      (ending
        (fun found u => Checked cfg w u ∧ found.map Entry.uid = verifiedUid cfg share w ∧
          (share.shareProto = .wekafs →
            w.cluster.organizations.find? (cfg.orgName share.projectId) ≠ none))
        (fun error u => Checked cfg w u ∧
          (error = .shareNotFound share.id ∧ verifiedUid cfg share w = none ∨
            Surfaces fails error ∧ share.shareProto = .wekafs ∧ ¬ Sound fails cfg share w))) t := by
  unfold findEnsuredFilesystem
  rw [wp_ite]
  split
  · next isolated =>
      have wekafs : share.shareProto = .wekafs := of_decide_eq_true isolated
      rw [wp_bind, onOk_ending]
      refine wp_getOrganizationByName checked ?_ fun error raised => ?_
      · rw [ending_ok, checked.cluster]
        cases found : w.cluster.organizations.find? (cfg.orgName share.projectId) with
        | none => exact ⟨checked, Or.inl ⟨rfl, if_pos ⟨isolated, found⟩⟩⟩
        | some org =>
            have present : w.cluster.organizations.find? (cfg.orgName share.projectId) ≠ none := by
              rw [found]
              exact Option.some_ne_none org
            have lookup : verifiedUid cfg share w =
                filesystemAt (heldSession cfg share.projectId w, cfg.shareName share.id) w := by
              rw [verifiedUid, if_neg fun missing => present missing.2, checkedKey,
                if_pos isolated]
            refine wp_bind_of _ (wp_weaken (wp_orgClient_present covers checked present)
              (fun _ kept => kept) (fun _ _ opened => opened) fun error u raised => ?_) ?_
            · exact ⟨raised.1, Or.inr ⟨raised.2.1, wekafs, fun sound =>
                raised.2.2 (sound.session present)⟩⟩
            · rintro session u ⟨checked', rfl, -⟩
              refine wp_getFilesystemByName checked' ?_ fun error raised => ?_
              · rw [checked'.cluster]
                exact ⟨checked', lookup.symm, fun _ => Option.some_ne_none org⟩
              · have failed := covers _ _ _ raised
                exact ⟨checked', Or.inr ⟨Or.inl ⟨_, failed⟩, wekafs, fun sound =>
                  sound.lookup present error failed⟩⟩
      · have failed := covers _ _ _ raised
        exact ⟨checked, Or.inr ⟨Or.inl ⟨_, failed⟩, wekafs, fun sound =>
          sound.lists error failed⟩⟩
  · next shared =>
      have other : ¬ share.shareProto = .wekafs := fun wekafs => shared (decide_eq_true wekafs)
      refine ⟨checked, ?_, fun wekafs => absurd wekafs other⟩
      rw [listing, find?_listed, verifiedUid, if_neg fun missing => shared missing.1, checkedKey,
        if_neg shared]
      rfl

/-- A share is reported with its locations, or missing, unless its check is not sound. -/
theorem wp_ensureShare (checked : Checked cfg w t)
    (listing : listed = w.cluster.filesystems.rows.filter fun entry => entry.val.org = .admin) :
    (ensureShare cfg listed share).wp (service fault) (passing (Checked cfg w))
      (ending
        (fun locations u => Checked cfg w u ∧
          healthOf cfg share w = .exportLocations locations)
        (fun error u => Checked cfg w u ∧
          (error = .shareNotFound share.id ∧ healthOf cfg share w = .error ∨
            Surfaces fails error ∧ share.shareProto = .wekafs ∧ ¬ Sound fails cfg share w))) t := by
  have missing : verifiedUid cfg share w = none → healthOf cfg share w = .error := by
    intro verified
    rw [healthOf, verified]
  rw [ensureShare_eq]
  refine wp_bind_of _ (wp_weaken (wp_findEnsuredFilesystem covers checked listing)
    (fun _ kept => kept) (fun _ _ found => found) fun error u raised => ?_) ?_
  · exact ⟨raised.1, raised.2.imp_left fun gone => ⟨gone.1, missing gone.2⟩⟩
  · rintro found u ⟨checked', verified, org⟩
    cases found with
    | none => exact ⟨checked', Or.inl ⟨rfl, missing verified.symm⟩⟩
    | some fs =>
        have health : healthOf cfg share w = .exportLocations (buildExportLocations cfg share
            (cfg.shareName share.id) (some fs.uid) share.shareProto) := by
          rw [healthOf, ← verified]
          rfl
        dsimp only
        rw [wp_ite]
        split
        · next wekafs =>
            rw [wp_bind, onOk_ending]
            have there : verifiedUid cfg share w ≠ none := by
              rw [← verified]
              exact Option.some_ne_none fs.uid
            exact wp_weaken (wp_remount covers checked' (org wekafs) there) (fun _ kept => kept)
              (fun _ _ mounted => ⟨mounted, health⟩) fun error v raised =>
                ⟨raised.1, Or.inr ⟨raised.2.1, wekafs, raised.2.2⟩⟩
        · exact ⟨checked', health⟩

/-- The shares are reported as they are, unless the check of one is not sound. -/
theorem wp_ensureShares_report (cfg : Config) (shares : List Share) (w : World) :
    (ensureShares cfg shares).wp (service fault) (passing (Checked cfg w))
      (ending
        (fun updates _ => (∀ op shareId, ¬ fails op (.shareNotFound shareId)) →
          ∀ shareId, updates.get? shareId = reportOf cfg shares w shareId)
        (fun error _ => fails (.api .admin .listFilesystems) error ∨
          ∃ share ∈ shares, share.shareProto = .wekafs ∧ ¬ Sound fails cfg share w)) w := by
  have start : Checked cfg w w := .refl w
  unfold ensureShares
  rw [wp_bind, onOk_ending, wp_send]
  refine ⟨⟨start, ?_⟩, fun error raised => ⟨start, Or.inl (covers _ _ _ raised)⟩⟩
  change wp _ _ (List.foldlM _ [] shares) _ w
  apply wp_foldlM (fun visited updates t => Checked cfg w t ∧
    ((∀ op shareId, ¬ fails op (.shareNotFound shareId)) →
      ∀ shareId, Dict.get? updates shareId = reportOf cfg visited w shareId))
  · rintro visited share rest updates t split ⟨checked, reported⟩
    have member : share ∈ shares := by simp [split]
    have reports {update : ShareUpdate} (health : healthOf cfg share w = update)
        (foreign : ∀ op shareId, ¬ fails op (.shareNotFound shareId)) (shareId : String) :
        Dict.get? (Dict.assign updates share.id update) shareId =
          reportOf cfg (visited ++ [share]) w shareId := by
      rw [Dict.get?_assign, reportOf, List.reverse_append, List.reverse_singleton,
        List.singleton_append, List.find?_cons, ← health]
      by_cases same : shareId = share.id
      · simp [same]
      · rw [if_neg same, reported foreign shareId, decide_eq_false (Ne.symm same)]
        rfl
    rw [onOk_ending, wp_tryCatch, onError_ending]
    refine wp_bind_of _ (wp_weaken (wp_ensureShare covers checked rfl) (fun _ kept => kept)
      (fun _ _ verified => verified) fun error u raised => ?_) fun locations u verified =>
        ⟨verified.1, reports verified.2⟩
    obtain ⟨checked', failed⟩ := raised
    cases error with
    | shareNotFound shareId =>
        refine ⟨checked', fun foreign => ?_⟩
        rcases failed with ⟨-, health⟩ | ⟨surfaces, -⟩
        · exact reports health foreign
        · rcases surfaces with ⟨op, fault⟩ | never
          · exact absurd fault (foreign op shareId)
          · exact absurd rfl (never shareId)
    | _ =>
        rcases failed with ⟨missing, -⟩ | ⟨-, broken⟩
        · exact Error.noConfusion missing
        · exact Or.inr ⟨share, member, broken⟩
  · exact fun updates t reached => reached.2
  · exact ⟨start, fun _ _ => rfl⟩

end Checks

/-! ## The check of all shares -/

/-- The last share of an id is the one reported. -/
theorem reportOf_last {before after : List Share} (split : shares = before ++ share :: after)
    (last : ∀ other ∈ after, other.id ≠ share.id) :
    reportOf cfg shares w share.id = some (healthOf cfg share w) := by
  have later : after.reverse.find? (fun other => decide (other.id = share.id)) = none := by
    rw [List.find?_eq_none]
    intro other member
    simpa using last other (List.mem_reverse.mp member)
  rw [reportOf, split, List.reverse_append, List.reverse_cons, List.append_assoc,
    List.find?_append, later]
  simp

/-- A WEKAFS share is reported missing with its organization or its filesystem. -/
theorem healthOf_eq_error (wekafs : share.shareProto = .wekafs) : healthOf cfg share w = .error ↔
    w.cluster.organizations.find? (cfg.orgName share.projectId) = none ∨
      w.cluster.filesystems.find? (heldSession cfg share.projectId w, cfg.shareName share.id) =
        none := by
  have isolated : isIsolatedWekafs share = true := decide_eq_true wekafs
  have verified : healthOf cfg share w = .error ↔ verifiedUid cfg share w = none := by
    unfold healthOf
    cases verifiedUid cfg share w <;> simp
  rw [verified, verifiedUid, isolated]
  by_cases missing : w.cluster.organizations.find? (cfg.orgName share.projectId) = none
  · simp [missing]
  · simp [missing, checkedKey, filesystemAt, isolated]

/-- The check of the shares leaves the cluster as it is, whatever sessions are cached and
whatever fails. It reports a WEKAFS share as missing exactly if its project's organization
does not exist, or holds no filesystem of the share's name; and it returns unless the check
of some share is not sound. -/
theorem health_check_frame (cfg : Config) (shares : List Share) (fault : Fault) (w : World) :
    (∀ t, Reaches (service fault) (ensureShares cfg shares) w t → t.cluster = w.cluster) ∧
    ((∀ v op shareId, ¬ fault v op (.shareNotFound shareId)) →
      ∀ updates t, Exec (service fault) (ensureShares cfg shares) w (.ok updates) t →
        ∀ before share after, shares = before ++ share :: after →
          (∀ other ∈ after, other.id ≠ share.id) → share.shareProto = .wekafs →
            (updates.get? share.id = some .error ↔
              w.cluster.organizations.find? (cfg.orgName share.projectId) = none ∨
              w.cluster.filesystems.find?
                (heldSession cfg share.projectId w, cfg.shareName share.id) = none)) ∧
    ((∀ v error, ¬ fault v (.api .admin .listFilesystems) error) →
      (∀ share ∈ shares, share.shareProto = .wekafs →
        Sound (fun op error => ∃ v, fault v op error) cfg share w) →
      ∀ outcome t, Exec (service fault) (ensureShares cfg shares) w outcome t →
        ∃ updates, outcome = .ok updates) := by
  have covers : ∀ v op error, fault v op error → ∃ v, fault v op error :=
    fun v _ _ raised => ⟨v, raised⟩
  have holds := wp_ensureShares_report covers cfg shares w
  refine ⟨fun t reached => (reached.of_wp (.refl w) holds).cluster, ?_, ?_⟩
  · intro foreign updates t run before share after split last wekafs
    have reported := run.post holds (fun op shareId ⟨v, raised⟩ => foreign v op shareId raised)
      share.id
    rw [reported, reportOf_last split last, Option.some.injEq]
    exact healthOf_eq_error wekafs
  · intro lists sound outcome t run
    cases outcome with
    | ok updates => exact ⟨updates, rfl⟩
    | error error =>
        rcases run.post holds with ⟨v, raised⟩ | ⟨share, member, wekafs, broken⟩
        · exact absurd raised (lists v error)
        · exact absurd (sound share member wekafs) broken

/-- The sample project's organization without a filesystem. -/
def bareWekafs : World where
  cluster := { Cluster.empty with
    organizations := Registry.empty.insert (projectOrg sampleConfig (some "p1")) }
  host := Host.empty

/-- A share without a filesystem is reported as an error, and the cluster is left alone. -/
theorem health_check_frame_sample :
    (∀ t, Reaches reliable (ensureShares sampleConfig [sampleShare .wekafs]) bareWekafs t →
      t.cluster = bareWekafs.cluster) ∧
    ∀ outcome t, Exec reliable (ensureShares sampleConfig [sampleShare .wekafs]) bareWekafs
      outcome t → ∃ updates, outcome = .ok updates ∧
        updates.get? (sampleShare .wekafs).id = some .error := by
  obtain ⟨frame, reports, returns⟩ :=
    health_check_frame sampleConfig [sampleShare .wekafs] noFaults bareWekafs
  refine ⟨frame, fun outcome t run => ?_⟩
  have missing : bareWekafs.cluster.filesystems.find? (heldSession sampleConfig (some "p1")
      bareWekafs, sampleConfig.shareName (sampleShare .wekafs).id) = none := by decide
  have lost : verifiedUid sampleConfig (sampleShare .wekafs) bareWekafs = none := by decide
  have accepted : LoginAccepted sampleConfig (some "p1") bareWekafs := by
    intro org found
    have only : bareWekafs.cluster.organizations.find? (sampleConfig.orgName (some "p1")) =
        some ⟨0, projectOrg sampleConfig (some "p1")⟩ := by decide
    rw [only, Option.some.injEq] at found
    subst found
    exact ⟨rfl, rfl⟩
  obtain ⟨updates, rfl⟩ := returns (fun _ _ => id) (fun share member _ => by
    rw [List.eq_of_mem_singleton member]
    exact ⟨nofun, fun _ => ⟨nofun, by decide, nofun, fun _ => ⟨accepted, nofun, nofun⟩⟩,
      nofun, nofun, fun there => absurd lost there⟩) outcome t run
  exact ⟨updates, rfl, (reports (fun _ _ _ => id) updates t run [] (sampleShare .wekafs) []
    rfl nofun rfl).mpr (Or.inr missing)⟩

end WekaShareDriver
