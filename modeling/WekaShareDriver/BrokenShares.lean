import WekaShareDriver.HealthChecks
import WekaShareDriver.Foundation.May

/-! # One broken share in a check of all

A share that is missing is reported, and the others are checked on. Every other failure
of the check of a share ends the check of all: a refused login, a failed lookup, a token
file that cannot be written, a mount that fails. So no share spoils the check of the
others exactly if none has a failure of its own but to be missing
(`WekaShareDriver.unspoilt_iff`).
-/

namespace WekaShareDriver

open Foundation Program

/-- The filesystems the administrator lists. -/
def adminFilesystems (w : World) : List (Entry Filesystem) :=
  w.cluster.filesystems.rows.filter fun entry => entry.val.org = .admin

/-- The own steps of a share succeed: its check raises nothing but that it is missing. -/
def StepsSucceed (fails : Op → Error → Prop) (cfg : Config) (share : Share) (w : World) : Prop :=
  ∀ error t, Exec (service fun _ => fails) (ensureShare cfg (adminFilesystems w) share) w
    (.error error) t → error = .shareNotFound share.id

/-- No share spoils the check of the others: in every order the call returns an entry for
every share, and for one whose own steps succeed the entry it gets alone. -/
def Unspoilt (fails : Op → Error → Prop) (cfg : Config) (shares : List Share) (w : World) : Prop :=
  ∀ order, order.Perm shares →
    ∀ outcome t, Exec (service fun _ => fails) (ensureShares cfg order) w outcome t →
      ∃ updates, outcome = .ok updates ∧ ∀ share ∈ shares,
        updates.get? share.id ≠ none ∧
        (StepsSucceed fails cfg share w → ∀ alone u,
          Exec (service fun _ => fails) (ensureShares cfg [share]) w (.ok alone) u →
            updates.get? share.id = alone.get? share.id)

/-- An error is a missing share's. -/
def OnlyMissing (error : Error) (_ : World) : Prop := ∃ shareId, error = .shareNotFound shareId

variable {cfg : Config} {share : Share} {shares : List Share} {fails : Op → Error → Prop}
  {projectId : Option String} {w t : World}

/-- A session that works may be opened. -/
theorem SessionWorks.may_orgClient (works : SessionWorks fails cfg projectId w)
    (checked : Checked cfg w t)
    (present : w.cluster.organizations.find? (cfg.orgName projectId) ≠ none) :
    May (service fun _ => fails) (orgClient cfg projectId)
      (fun session u => Checked cfg w u ∧ session = heldSession cfg projectId w ∧
        u.host.mounts = t.host.mounts) t :=
  .of_wp (wp_weaken (wp_orgClient_present (fun _ _ _ impossible => impossible) checked present)
    (fun _ _ => trivial) (fun _ _ opened => opened) fun _ _ raised =>
      raised.2.2 ⟨nofun, works.project, nofun, fun uncached =>
        ⟨(works.login uncached).1, nofun, nofun⟩⟩)

/-! ## What a check that raises nothing shows -/

section Safe

variable (foreign : ∀ op shareId, ¬ fails op (.shareNotFound shareId))
include foreign

/-- A call whose failure would be raised does not fail. -/
theorem not_fails {α : Type} {op : Op} {guaranteed : Prop} {done : α → World → Prop}
    (raises : ∀ error, fails op error → guaranteed ∧ ending done OnlyMissing (.error error) w)
    (error : Error) : ¬ fails op error := by
  intro failed
  obtain ⟨-, shareId, rfl⟩ := raises error failed
  exact foreign op shareId failed

/-- A session that is opened whatever fails. -/
theorem sessionWorks_of_wp {done : Session → World → Prop}
    (lists : ∀ error, ¬ fails (.api .admin .listOrganizations) error)
    (present : w.cluster.organizations.find? (cfg.orgName projectId) ≠ none)
    (safe : (orgClient cfg projectId).wp (service fun _ => fails) (passing fun _ => True)
      (ending done OnlyMissing) w) : SessionWorks fails cfg projectId w := by
  unfold orgClient at safe
  rw [wp_ite] at safe
  split at safe
  · obtain ⟨_, impossible⟩ := safe
    exact Error.noConfusion impossible
  · next project =>
      rw [wp_bind, onOk_ending, wp_onHost] at safe
      obtain ⟨⟨-, next⟩, unread⟩ := safe
      refine ⟨lists, by simpa using project, not_fails foreign unread, fun uncached => ?_⟩
      simp only [Host.answer, ending_ok, uncached] at next
      rw [wp_bind, onOk_ending] at next
      have ensured : May (service fun _ => fails) (ensureOrg cfg projectId)
          (fun _ u => u = w) w :=
        .of_wp (wp_weaken (wp_ensureOrg_present (fun _ _ _ impossible => impossible) (.refl w)
          present) (fun _ _ => trivial) (fun _ _ same => same) fun _ _ raised => raised.2)
      obtain ⟨_, u, same, opens⟩ := ensured.post next
      rw [same, ending_ok, wp_bind, onOk_ending, login, wp_perform_withFaults] at opens
      obtain ⟨⟨-, opened⟩, refused⟩ := opens
      change ending _ _ (asRaised (w.cluster.login (cfg.orgName projectId) cfg.orgUser
        (cfg.orgPassword projectId))) w at opened
      cases granted : w.cluster.login (cfg.orgName projectId) cfg.orgUser
          (cfg.orgPassword projectId) with
      | error error =>
          rw [granted] at opened
          obtain ⟨_, impossible⟩ := opened
          exact Error.noConfusion impossible
      | ok session =>
          obtain ⟨rfl, entry, found, credentials⟩ := owned_of_login granted
          rw [granted, asRaised, ending_ok, wp_bind, onOk_ending, wp_onHost] at opened
          refine ⟨fun org there => ?_, not_fails foreign refused, not_fails foreign opened.2⟩
          rw [there, Option.some.injEq] at found
          subst found
          exact credentials

/-- The mount table fails as an unreadable file only, and what follows when it shows no
mount raises nothing either. -/
theorem of_wp_isMounted {α : Type} {mountPoint : String} {rest : Bool → Driver α}
    {done : α → World → Prop}
    (safe : (isMounted mountPoint >>= rest).wp (service fun _ => fails) (passing fun _ => True)
      (ending done OnlyMissing) t) :
    (∀ error, fails (.host .readProcMounts) error → error = .os) ∧
    ((tableShows (t.host.mounts.map Mount.line) mountPoint = false ∨
        ∃ error, fails (.host .readProcMounts) error) →
      (rest false).wp (service fun _ => fails) (passing fun _ => True)
        (ending done OnlyMissing) t) := by
  unfold isMounted at safe
  rw [wp_bind, onOk_ending, wp_tryCatch, onError_ending, wp_bind, onOk_ending, wp_onHost] at safe
  obtain ⟨⟨-, shown⟩, unread⟩ := safe
  have table : ∀ error, fails (.host .readProcMounts) error → error = .os := by
    intro error failed
    cases error with
    | os => rfl
    | shareNotFound shareId => exact absurd failed (foreign _ shareId)
    | _ =>
        obtain ⟨-, _, impossible⟩ := unread _ failed
        exact Error.noConfusion impossible
  refine ⟨table, ?_⟩
  rintro (unmounted | ⟨error, failed⟩)
  · change (rest (tableShows (t.host.mounts.map Mount.line) mountPoint)).wp _ _ _ t at shown
    rwa [unmounted] at shown
  · have handled := (unread error failed).2
    rw [table error failed] at handled
    exact handled

/-- A call on the host whose failures are raised as others does not fail. -/
theorem of_wp_guarded {α : Type} {call : HostCall} {handler : Error → Driver call.Reply}
    {rest : call.Reply → Driver α} {done : α → World → Prop}
    (raises : ∀ error, (∀ shareId, error ≠ .shareNotFound shareId) →
      ∃ raised, handler error = throw raised ∧ ∀ shareId, raised ≠ .shareNotFound shareId)
    (safe : (tryCatch (onHost call) handler >>= rest).wp (service fun _ => fails)
      (passing fun _ => True) (ending done OnlyMissing) t) :
    (∀ error, ¬ fails (.host call) error) ∧
    ∀ reply u, respond (.host call) t = (.ok reply, u) →
      (rest reply).wp (service fun _ => fails) (passing fun _ => True)
        (ending done OnlyMissing) u := by
  rw [wp_bind, onOk_ending, wp_tryCatch, onError_ending, wp_onHost] at safe
  obtain ⟨⟨-, answered⟩, failed⟩ := safe
  refine ⟨fun error failing => ?_, fun reply u responded => ?_⟩
  · obtain ⟨raised, handled, other⟩ := raises error fun shareId same =>
      foreign _ shareId (same ▸ failing)
    obtain ⟨-, missing⟩ := failed error failing
    rw [ending_error, handled] at missing
    obtain ⟨shareId, same⟩ := missing
    exact other shareId same
  · have outcome : (t.host.answer call).1 = .ok reply := congrArg Prod.fst responded
    have after : { t with host := (t.host.answer call).2 } = u := congrArg Prod.snd responded
    rwa [outcome, after] at answered

/-- A filesystem that is mounted whatever fails. -/
theorem mountWorks_of_wp
    (present : w.cluster.organizations.find? (cfg.orgName share.projectId) ≠ none)
    (works : SessionWorks fails cfg share.projectId w) (checked : Checked cfg w t)
    (mounts : t.host.mounts = w.host.mounts)
    (needed : ¬ Mounted cfg share w ∨ ∃ error, fails (.host .readProcMounts) error)
    {done : Unit → World → Prop}
    (safe : (remount cfg share).wp (service fun _ => fails) (passing fun _ => True)
      (ending done OnlyMissing) t) : MountWorks fails cfg share w := by
  have unmounted {u : World} (same : u.host.mounts = w.host.mounts) :
      tableShows (u.host.mounts.map Mount.line) (cfg.mountPoint (cfg.shareName share.id)) =
        false ∨ ∃ error, fails (.host .readProcMounts) error := by
    rw [same]
    exact needed.imp_left (Bool.eq_false_iff.mpr ·)
  have mounting := (of_wp_isMounted foreign safe).2 (unmounted mounts)
  rw [Bool.not_false, if_pos rfl, orgTokenFile, wp_bind, onOk_ending, wp_bind,
    onOk_ending] at mounting
  obtain ⟨session, u, ⟨-, rfl, mounts'⟩, writing⟩ :=
    (works.may_orgClient checked present).post mounting
  obtain ⟨token, written⟩ := of_wp_guarded foreign (fun error other => by
    cases error with
    | os => exact ⟨_, rfl, fun _ => Error.noConfusion⟩
    | _ => exact ⟨_, rfl, other⟩) writing
  have mounting' : (checkedMount cfg share).mount.wp (service fun _ => fails)
      (passing fun _ => True) (ending done OnlyMissing) _ := written _ _ rfl
  have fresh := (of_wp_isMounted foreign mounting').2 (unmounted (mounts'.trans mounts))
  rw [if_neg Bool.false_ne_true] at fresh
  obtain ⟨directory, prepared⟩ := of_wp_guarded foreign (fun error other => by
    cases error with
    | os => exact ⟨_, rfl, fun _ => Error.noConfusion⟩
    | _ => exact ⟨_, rfl, other⟩) fresh
  have last := prepared _ _ rfl
  rw [← bind_pure (tryCatch _ _ : Driver Unit)] at last
  refine ⟨token, directory, (of_wp_guarded foreign (fun error other => ?_) last).1⟩
  cases error with
  | process => exact ⟨_, rfl, fun _ => Error.noConfusion⟩
  | _ => exact ⟨_, rfl, other⟩

/-- A share whose check raises nothing but that it is missing is sound. -/
theorem sound_of_wp (wekafs : share.shareProto = .wekafs)
    {done : List ExportLocation → World → Prop}
    (safe : (ensureShare cfg (adminFilesystems w) share).wp (service fun _ => fails)
      (passing fun _ => True) (ending done OnlyMissing) w) : Sound fails cfg share w := by
  have isolated : isIsolatedWekafs share = true := decide_eq_true wekafs
  rw [ensureShare_eq, wp_bind, onOk_ending, findEnsuredFilesystem, wp_ite, if_pos isolated,
    wp_bind, onOk_ending, getOrganizationByName, wp_bind, onOk_ending, wp_send] at safe
  obtain ⟨⟨-, found⟩, unlisted⟩ := safe
  have lists := not_fails foreign unlisted
  have search : (w.cluster.organizations.rows.find? fun org =>
      org.val.name = cfg.orgName share.projectId) =
        w.cluster.organizations.find? (cfg.orgName share.projectId) := rfl
  cases org : w.cluster.organizations.find? (cfg.orgName share.projectId) with
  | none =>
      have missing : verifiedUid cfg share w = none := if_pos ⟨isolated, org⟩
      exact ⟨lists, fun present => absurd org present, fun present => absurd org present,
        fun there => absurd missing there, fun there => absurd missing there⟩
  | some entry =>
      have present : w.cluster.organizations.find? (cfg.orgName share.projectId) ≠ none := by
        rw [org]
        exact Option.some_ne_none entry
      have lookup : verifiedUid cfg share w =
          (w.cluster.filesystems.find? (heldSession cfg share.projectId w,
            cfg.shareName share.id)).map Entry.uid := by
        rw [verifiedUid, if_neg fun missing => present missing.2, checkedKey, if_pos isolated]
        rfl
      simp only [Cluster.answer, asRaised, ending_ok, wp_pure, search, org] at found
      rw [wp_bind, onOk_ending] at found
      have works := sessionWorks_of_wp foreign lists present found
      obtain ⟨session, u, ⟨checked, rfl, mounts⟩, looking⟩ :=
        (works.may_orgClient (.refl w) present).post found
      rw [ending_ok] at looking
      have looked : May (service fun _ => fails)
          (getFilesystemByName (heldSession cfg share.projectId w) (cfg.shareName share.id))
          (fun fs v => v = u ∧ fs = u.cluster.filesystems.find?
            (heldSession cfg share.projectId w, cfg.shareName share.id)) u :=
        .of_wp (wp_getFilesystemByName trivial ⟨rfl, rfl⟩ fun _ => False.elim)
      obtain ⟨fs, v, ⟨same, listed⟩, mounting⟩ := looked.post looking
      rw [getFilesystemByName, wp_bind, onOk_ending, wp_send] at looking
      rw [same, ending_ok] at mounting
      rw [checked.cluster] at listed
      subst listed
      have mounts' (there : verifiedUid cfg share w ≠ none) : (remount cfg share).wp
          (service fun _ => fails) (passing fun _ => True) (ending
            (fun _ v => done (buildExportLocations cfg share (cfg.shareName share.id)
              (verifiedUid cfg share w) share.shareProto) v) OnlyMissing) u := by
        rw [lookup] at there ⊢
        obtain ⟨fs, some⟩ := Option.ne_none_iff_exists'.mp (mt (congrArg (Option.map _)) there)
        rw [some] at mounting ⊢
        dsimp only at mounting
        rwa [wp_ite, if_pos wekafs, wp_bind, onOk_ending] at mounting
      refine ⟨lists, fun _ => works, fun _ => not_fails foreign looking.2, fun there => ?_,
        fun there needed => mountWorks_of_wp foreign present works checked mounts needed
          (mounts' there)⟩
      exact (of_wp_isMounted foreign (mounts' there)).1

end Safe

/-! ## When no share spoils the check of the others -/

/-- A share is reported as it is, wherever it stands in the list. -/
theorem reportOf_member (identified : ∀ one ∈ shares, ∀ other ∈ shares, one.id = other.id →
    one = other) (member : share ∈ shares) :
    reportOf cfg shares w share.id = some (healthOf cfg share w) := by
  rw [reportOf]
  cases found : shares.reverse.find? (fun other => decide (other.id = share.id)) with
  | none =>
      have absent := List.find?_eq_none.mp found share (List.mem_reverse.mpr member)
      simp at absent
  | some other =>
      have same : other.id = share.id := by simpa using List.find?_some found
      rw [identified other (List.mem_reverse.mp (List.mem_of_find?_eq_some found)) share member
        same]
      rfl

/-- A check of all that returns whatever fails starts with a sound share. -/
theorem sound_of_first (foreign : ∀ op shareId, ¬ fails op (.shareNotFound shareId))
    {rest : List Share} (wekafs : share.shareProto = .wekafs)
    (returns : ∀ outcome t, Exec (service fun _ => fails) (ensureShares cfg (share :: rest)) w
      outcome t → ∃ updates, outcome = .ok updates) : Sound fails cfg share w := by
  have safe : (ensureShares cfg (share :: rest)).wp (service fun _ => fails)
      (passing fun _ => True) (ending (fun _ _ => True) fun _ _ => False) w := by
    refine wp_of_exec (fun outcome t run => ?_) fun _ _ _ _ => trivial
    obtain ⟨updates, rfl⟩ := returns outcome t run
    trivial
  unfold ensureShares at safe
  rw [wp_bind, onOk_ending, wp_send] at safe
  have first := safe.1.2
  change wp _ _ (List.foldlM _ [] (share :: rest)) _ w at first
  rw [List.foldlM_cons, wp_bind, onOk_ending, wp_tryCatch, onError_ending, wp_bind,
    onOk_ending] at first
  refine sound_of_wp foreign wekafs (wp_weaken first (fun _ _ => trivial)
    (fun _ _ _ => trivial) fun error t handled => ?_)
  cases error with
  | shareNotFound shareId => exact ⟨shareId, rfl⟩
  | _ => exact handled.elim

/-- No share spoils the check of the others exactly if every WEKAFS share is sound. -/
theorem unspoilt_iff (cfg : Config) (shares : List Share) (fails : Op → Error → Prop) (w : World)
    (foreign : ∀ op shareId, ¬ fails op (.shareNotFound shareId))
    (lists : ∀ error, ¬ fails (.api .admin .listFilesystems) error)
    (identified : ∀ one ∈ shares, ∀ other ∈ shares, one.id = other.id → one = other) :
    Unspoilt fails cfg shares w ↔
      ∀ share ∈ shares, share.shareProto = .wekafs → Sound fails cfg share w := by
  constructor
  · intro unspoilt share member wekafs
    obtain ⟨before, after, split⟩ := List.append_of_mem member
    have order : (share :: (before ++ after)).Perm shares := by
      rw [split]
      exact List.perm_middle.symm
    have returns (outcome : Except Error (Dict String ShareUpdate)) (t : World)
        (run : Exec (service fun _ => fails) (ensureShares cfg (share :: (before ++ after))) w
          outcome t) : ∃ updates, outcome = .ok updates := by
      obtain ⟨updates, returned, -⟩ := unspoilt _ order outcome t run
      exact ⟨updates, returned⟩
    exact sound_of_first foreign wekafs returns
  · intro sound order perm outcome t run
    have covers : ∀ (_ : World) op error, fails op error → fails op error :=
      fun _ _ _ failed => failed
    have report (order : List Share) := wp_ensureShares_report covers cfg order w
    have among (share : Share) (member : share ∈ order) : share ∈ shares := perm.mem_iff.mp member
    cases outcome with
    | error error =>
        rcases run.post (report order) with failed | ⟨share, member, wekafs, broken⟩
        · exact absurd failed (lists error)
        · exact absurd (sound share (among share member) wekafs) broken
    | ok updates =>
        refine ⟨updates, rfl, fun share member => ?_⟩
        have reported : updates.get? share.id = some (healthOf cfg share w) := by
          rw [run.post (report order) foreign, reportOf_member _ (perm.mem_iff.mpr member)]
          exact fun one here other there => identified one (among one here) other
            (among other there)
        refine ⟨by rw [reported]; exact Option.some_ne_none _, fun _ alone u run' => ?_⟩
        rw [reported, run'.post (report [share]) foreign]
        refine (reportOf_member (fun one here other there _ => ?_) List.mem_cons_self).symm
        rw [List.eq_of_mem_singleton here, List.eq_of_mem_singleton there]

/-- A share of project `p2`. -/
def guestShare : Share :=
  { sampleShare .wekafs with id := "6b8d2fa1-0000-4000-8000-000000000009", projectId := some "p2" }

/-- The two projects' organizations, the second of them with the password given. -/
def hostedProjects (password : String) : World where
  cluster := { Cluster.empty with
    organizations := (Registry.empty.insert (projectOrg sampleConfig (some "p1"))).insert
      { projectOrg sampleConfig (some "p2") with password }
    filesystems := Registry.empty.insert ⟨projectSession sampleConfig (some "p1"),
      sampleConfig.shareName (sampleShare .wekafs).id, "default", gbToBytes 1, 0, true⟩ }
  host := Host.empty

/-- With the mount table unreadable, the checks of both projects return. -/
theorem unspoilt_sample : Unspoilt (fun op error => op = .host .readProcMounts ∧ error = .os)
    sampleConfig [sampleShare .wekafs, guestShare]
    (hostedProjects (sampleConfig.orgPassword (some "p2"))) := by
  have accepted : ∀ p ∈ ["p1", "p2"], LoginAccepted sampleConfig (some p)
      (hostedProjects (sampleConfig.orgPassword (some "p2"))) := by
    have credentials : ∀ p ∈ ["p1", "p2"], ((hostedProjects (sampleConfig.orgPassword (some "p2"))
        ).cluster.organizations.find? (sampleConfig.orgName (some p))).all (fun org =>
          org.val.username = sampleConfig.orgUser ∧
            org.val.password = sampleConfig.orgPassword (some p)) := by decide +kernel
    intro p member org found
    have holds := credentials p member
    rw [found, Option.all_some, decide_eq_true_eq] at holds
    exact holds
  have sound : ∀ share ∈ [sampleShare .wekafs, guestShare], ∀ p ∈ ["p1", "p2"],
      share.projectId = some p →
        Sound (fun op error => op = .host .readProcMounts ∧ error = .os) sampleConfig share
          (hostedProjects (sampleConfig.orgPassword (some "p2"))) := by
    intro share _ p member project
    refine ⟨nofun, fun _ => ⟨nofun, ?_, nofun, fun _ => ⟨?_, nofun, nofun⟩⟩, nofun,
      fun _ error failed => failed.2, fun _ _ => ⟨nofun, nofun, nofun⟩⟩
    · rw [project]
      exact (by decide : ∀ p ∈ ["p1", "p2"], hasProject (some p) = true) p member
    · rw [project]
      exact accepted p member
  refine (unspoilt_iff _ _ _ _ (fun _ _ failed => by cases failed.2)
    (fun _ failed => by cases failed.1) (by decide)).mpr fun share member _ => ?_
  rcases List.mem_cons.mp member with rfl | last
  · exact sound _ member "p1" (by decide) rfl
  · rw [List.eq_of_mem_singleton last] at member ⊢
    exact sound _ member "p2" (by decide) rfl

/-- An organization that refuses the driver's login ends the check of all. -/
theorem refused_login_ends_check : ¬ Unspoilt (fun _ _ => False) sampleConfig
    [sampleShare .wekafs, guestShare] (hostedProjects "changed") := by
  intro unspoilt
  obtain ⟨updates, returned, -⟩ := unspoilt _ (.refl _) _ _ (exec_run _ _)
  have raised : ((ensureShares sampleConfig [sampleShare .wekafs, guestShare]).run respond
      (hostedProjects "changed")).1.isOk = false := by decide +kernel
  rw [returned] at raised
  cases raised

end WekaShareDriver
