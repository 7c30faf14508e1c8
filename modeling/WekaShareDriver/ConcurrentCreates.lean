import WekaShareDriver.FilesystemSpec
import WekaShareDriver.RepeatedCreates
import WekaShareDriver.ShareParts
import WekaShareDriver.Foundation.Interference

/-! # Shares created at once

Manila may create shares from several threads of several hosts at once, also one share twice:
each host has its own cache of sessions, and all of them talk to one cluster
(`WekaShareDriver.Sites`). Whatever one of them finds missing another may create before it does; it
is then told so, and takes what the other one made.

Hence no creation fails, whatever the order of their steps, and all creations of one share return
the export locations of its one filesystem (`WekaShareDriver.concurrent_creates_agree`).
-/

namespace WekaShareDriver

open Foundation Program

/-- The cluster and the hosts that use it. -/
structure Sites (η : Type) where
  cluster : Cluster
  hosts : η → Host

variable {η : Type}

/-- The world as a host sees it. -/
def Sites.world (s : Sites η) (host : η) : World := ⟨s.cluster, s.hosts host⟩

variable [DecidableEq η]

/-- What is left when a host has changed its world. -/
def Sites.put (s : Sites η) (host : η) (w : World) : Sites η :=
  ⟨w.cluster, Function.update s.hosts host w.host⟩

/-- An operation made on a host, on which nothing fails but what the world refuses. -/
def onSite (host : η) : Service Op Op.Res Error (Sites η) := fun s op answer t =>
  (respond op (s.world host)).1 = answer ∧ t = s.put host (respond op (s.world host)).2

private theorem Sites.put_world (s : Sites η) (host : η) : s.put host (s.world host) = s := by
  change Sites.mk s.cluster (Function.update s.hosts host (s.hosts host)) = s
  rw [Function.update_eq_self]

/-! ## Creating what another has created -/

/-- Creating an organization answers whether there is one. -/
theorem respond_createOrganization (name username password : String) (w : World) :
    respond (.api .admin (.createOrganization name username password)) w =
      if (w.cluster.organizations.find? name).isSome then
        (.error (.api (.conflict "/organizations: already exists")), w)
      else (.ok ⟨w.cluster.organizations.next, ⟨name, username, password⟩⟩,
        { w with cluster := { w.cluster with
          organizations := w.cluster.organizations.insert ⟨name, username, password⟩ } }) := by
  have key : Keyed.key (⟨name, username, password⟩ : Organization) = name := rfl
  cases found : w.cluster.organizations.find? name with
  | none =>
      simp only [respond, Cluster.answer, Cluster.create, key, found, asRaised, Option.isSome_none,
        Bool.false_eq_true, ↓reduceIte]
  | some org =>
      simp only [respond, Cluster.answer, Cluster.create, key, found, asRaised, Option.isSome_some,
        ↓reduceIte]

/-- Creating a filesystem answers whether the session has one of the name. -/
theorem respond_createFilesystem (session : Session) (name groupName : String) (totalCapacity : Nat)
    (authRequired : Bool) (w : World) :
    respond (.api session (.createFilesystem name groupName totalCapacity authRequired)) w =
      if (w.cluster.filesystems.find? (session, name)).isSome then
        (.error (.api (.conflict "/fileSystems: already exists")), w)
      else (.ok ⟨w.cluster.filesystems.next,
          newFilesystem session name groupName totalCapacity authRequired⟩,
        { w with cluster := { w.cluster with
          filesystems := w.cluster.filesystems.insert
            (newFilesystem session name groupName totalCapacity authRequired) } }) := by
  have key : Keyed.key (newFilesystem session name groupName totalCapacity authRequired) =
    (session, name) := rfl
  cases found : w.cluster.filesystems.find? (session, name) with
  | none =>
      simp only [respond, Cluster.answer, Cluster.create, key, found, asRaised, Option.isSome_none,
        Bool.false_eq_true, ↓reduceIte]
  | some org =>
      simp only [respond, Cluster.answer, Cluster.create, key, found, asRaised, Option.isSome_some,
        ↓reduceIte]

/-- Finding organizations once a project's was created. -/
theorem find?_projectOrg {cfg : Config} {projectId : Option String}
    {organizations : Registry Organization}
    (free : organizations.find? (cfg.orgName projectId) = none) (name : String) :
    (organizations.insert (projectOrg cfg projectId)).find? name =
      if name = cfg.orgName projectId then
        some ⟨organizations.next, projectOrg cfg projectId⟩
      else organizations.find? name := by
  have key : organizations.find? (Keyed.key (projectOrg cfg projectId)) = none := free
  rw [Registry.find?_insert _ _ key, Function.update_apply]
  rfl

section Creates

variable {ι : Type} (cfg : Config) (shares : ι → Share)

/-- The projects of the shares have their own organizations, or none yet, and the sessions that
hosts have for them are of these. -/
structure OwnSessions (s : Sites η) : Prop where
  accepted : ∀ i, isIsolatedWekafs (shares i) = true → ∀ org,
    s.cluster.organizations.find? (cfg.orgName (shares i).projectId) = some org →
      org.val.username = cfg.orgUser ∧ org.val.password = cfg.orgPassword (shares i).projectId
  cached : ∀ i, isIsolatedWekafs (shares i) = true → ∀ host session,
    (s.hosts host).orgClients.get? ((shares i).projectId.getD "") = some session →
      session = projectSession cfg (shares i).projectId

/-- What creations do between two steps of another: organizations and filesystems are added and
sessions opened. -/
structure OnlyCreates (s t : Sites η) : Prop where
  organizations : ∀ name org, s.cluster.organizations.find? name = some org →
    t.cluster.organizations.find? name = some org
  filesystems : ∀ key fs, s.cluster.filesystems.find? key = some fs →
    t.cluster.filesystems.find? key = some fs
  types : ∀ host, (t.hosts host).shareTypes = (s.hosts host).shareTypes
  sessions : OwnSessions cfg shares s → OwnSessions cfg shares t

def creations : Rely (Sites η) where
  may := OnlyCreates cfg shares
  refl _ := ⟨fun _ _ => id, fun _ _ => id, fun _ => rfl, id⟩
  trans _ _ _ first second :=
    { organizations := fun name org found =>
        second.organizations name org (first.organizations name org found)
      filesystems := fun key fs found => second.filesystems key fs (first.filesystems key fs found)
      types := fun host => (second.types host).trans (first.types host)
      sessions := second.sessions ∘ first.sessions }

variable {cfg shares} {host : η} {s : Sites η}

/-- An operation of a creation, among others. -/
theorem amid_onSite {op : Op} {post : Except Error op.Res → Sites η → Prop}
    (then' : ∀ t, OnlyCreates cfg shares s t →
      OnlyCreates cfg shares t (t.put host (respond op (t.world host)).2) ∧
        post (respond op (t.world host)).1 (t.put host (respond op (t.world host)).2)) :
    (perform op : Driver op.Res).amid (onSite host) (creations cfg shares)
      (fun s _ t => OnlyCreates cfg shares s t) post s := by
  rw [amid_perform]
  intro t answer u moved answered
  obtain ⟨rfl, rfl⟩ := answered
  exact then' t moved

/-- An operation that changes nothing. -/
theorem amid_reading {op : Op} {post : Except Error op.Res → Sites η → Prop}
    (reads : ∀ w, (respond op w).2 = w)
    (then' : ∀ t, OnlyCreates cfg shares s t → post (respond op (t.world host)).1 t) :
    (perform op : Driver op.Res).amid (onSite host) (creations cfg shares)
      (fun s _ t => OnlyCreates cfg shares s t) post s := by
  refine amid_onSite fun t moved => ?_
  rw [reads, Sites.put_world]
  exact ⟨(creations cfg shares).refl t, then' t moved⟩

private theorem amid_getOrganizationByName {name : String}
    {post : Except Error (Option (Entry Organization)) → Sites η → Prop}
    (then' : ∀ t, OnlyCreates cfg shares s t →
      post (.ok (t.cluster.organizations.find? name)) t) :
    (getOrganizationByName name).amid (onSite host) (creations cfg shares)
      (fun s _ t => OnlyCreates cfg shares s t) post s := by
  unfold getOrganizationByName
  rw [amid_bind, send]
  exact amid_reading (fun _ => rfl) then'

private theorem amid_getFilesystemByName {session : Session} {name : String}
    {post : Except Error (Option (Entry Filesystem)) → Sites η → Prop}
    (then' : ∀ t, OnlyCreates cfg shares s t →
      post (.ok (t.cluster.filesystems.find? (session, name))) t) :
    (getFilesystemByName session name).amid (onSite host) (creations cfg shares)
      (fun s _ t => OnlyCreates cfg shares s t) post s := by
  have selects (t : Sites η) :
      (((t.world host).cluster.filesystems.rows.filter fun entry => entry.val.org = session).find?
        fun fs => fs.val.name = name) = t.cluster.filesystems.find? (session, name) := by
    refine Registry.find?_filter _ _ _ _ fun entry => ?_
    rw [← Bool.decide_and]
    exact decide_eq_decide.mpr (Prod.mk.injEq ..).symm.to_iff
  unfold getFilesystemByName
  rw [amid_bind, send]
  refine amid_reading (fun _ => rfl) fun t moved => ?_
  change post (.ok _) t
  rw [selects]
  exact then' t moved

/-- Projects under one key of the cache are the same. -/
theorem projectId_eq_of_key {first second : Option String} (project : hasProject first = true)
    (key : second.getD "" = first.getD "") : second = first := by
  have named : first.getD "" ≠ "" := bne_iff_ne.mp project
  cases first with
  | none => exact absurd rfl named
  | some first =>
      cases second with
      | none => exact absurd key.symm named
      | some second => exact congrArg some key

section Parts

variable (apart : ∀ i j, isIsolatedWekafs (shares i) = true → isIsolatedWekafs (shares j) = true →
  cfg.orgName (shares i).projectId = cfg.orgName (shares j).projectId →
    (shares i).projectId = (shares j).projectId) {i : ι}

include apart in
/-- Creating a project's organization where there is none. -/
theorem creates_organization (isolated : isIsolatedWekafs (shares i) = true)
    (free : s.cluster.organizations.find? (cfg.orgName (shares i).projectId) = none) :
    OnlyCreates cfg shares s (s.put host { s.world host with cluster :=
      { s.cluster with
        organizations := s.cluster.organizations.insert
          (projectOrg cfg (shares i).projectId) } }) := by
  have lookup := find?_projectOrg free
  have hosts : Function.update s.hosts host (s.hosts host) = s.hosts := Function.update_eq_self _ _
  refine ⟨fun name org found => ?_, fun _ _ => id, fun other => ?_, fun own => ⟨?_, ?_⟩⟩
  · change (s.cluster.organizations.insert _).find? name = some org
    rw [lookup, if_neg, found]
    rintro rfl
    rw [free] at found
    cases found
  · change (Function.update s.hosts host (s.hosts host) other).shareTypes = _
    rw [hosts]
  · intro j other org found
    change (s.cluster.organizations.insert _).find? _ = some org at found
    rw [lookup] at found
    by_cases same : cfg.orgName (shares j).projectId = cfg.orgName (shares i).projectId
    · rw [if_pos same] at found
      cases found
      rw [apart j i other isolated same]
      exact ⟨rfl, rfl⟩
    · rw [if_neg same] at found
      exact own.accepted j other org found
  · intro j other site session held
    change (Function.update s.hosts host (s.hosts host) site).orgClients.get? _ = _ at held
    rw [hosts] at held
    exact own.cached j other site session held

include apart in
/-- Afterwards the project's organization exists. -/
theorem amid_ensureOrg (isolated : isIsolatedWekafs (shares i) = true) :
    (ensureOrg cfg (shares i).projectId).amid (onSite host) (creations cfg shares)
      (fun s _ t => OnlyCreates cfg shares s t)
      (ending (fun _ t => OnlyCreates cfg shares s t ∧
          (t.cluster.organizations.find? (cfg.orgName (shares i).projectId)).isSome = true)
        fun _ _ => False) s := by
  unfold ensureOrg
  rw [amid_bind, onOk_ending]
  refine amid_getOrganizationByName fun t moved => ?_
  rw [ending_ok]
  cases found : t.cluster.organizations.find? (cfg.orgName (shares i).projectId) with
  | some org => exact ⟨moved, by rw [found]; rfl⟩
  | none =>
      dsimp only
      rw [amid_tryCatch, onError_ending, amid_bind, onOk_ending]
      refine amid_onSite fun u later => ?_
      rw [respond_createOrganization]
      cases found : u.cluster.organizations.find? (cfg.orgName (shares i).projectId) with
      | none =>
          have created : OnlyCreates cfg shares u (u.put host _) :=
            creates_organization apart isolated found
          have lookup : (u.world host).cluster.organizations.find?
            (cfg.orgName (shares i).projectId) = none := found
          rw [lookup, Option.isSome_none, if_neg Bool.false_ne_true]
          refine ⟨created, (creations cfg shares).trans _ _ _ moved
            ((creations cfg shares).trans _ _ _ later created), ?_⟩
          exact congrArg Option.isSome ((find?_projectOrg found _).trans (if_pos rfl))
      | some org =>
          -- another creation was first
          have lookup : (u.world host).cluster.organizations.find?
            (cfg.orgName (shares i).projectId) = some org := found
          rw [lookup, Option.isSome_some, if_pos rfl, Sites.put_world]
          refine ⟨(creations cfg shares).refl u, (creations cfg shares).trans _ _ _ moved later, ?_⟩
          rw [found]
          rfl

/-- Storing a project's session in a host's cache. -/
theorem stores_session (project : hasProject (shares i).projectId = true) :
    OnlyCreates cfg shares s (s.put host (respond (.host (.orgClientPut
      ((shares i).projectId.getD "") (projectSession cfg (shares i).projectId)))
      (s.world host)).2) := by
  have put (site : η) : ((s.put host (respond (.host (.orgClientPut ((shares i).projectId.getD "")
      (projectSession cfg (shares i).projectId))) (s.world host)).2).hosts site) =
      if site = host then { s.hosts host with
        orgClients := (s.hosts host).orgClients.assign ((shares i).projectId.getD "")
          (projectSession cfg (shares i).projectId) }
      else s.hosts site := Function.update_apply ..
  refine ⟨fun _ _ => id, fun _ _ => id, fun site => ?_, fun own => ⟨own.accepted, ?_⟩⟩
  · rw [put]
    split
    · next same => rw [same]
    · rfl
  · intro j isolated site session held
    rw [put] at held
    by_cases same : site = host
    · rw [if_pos same, Dict.get?_assign] at held
      by_cases key : (shares j).projectId.getD "" = (shares i).projectId.getD ""
      · rw [if_pos key] at held
        cases held
        rw [projectId_eq_of_key project key]
      · rw [if_neg key] at held
        exact own.cached j isolated host session held
    · rw [if_neg same] at held
      exact own.cached j isolated site session held

include apart in
/-- The session of a project's own organization. -/
theorem amid_orgClient (isolated : isIsolatedWekafs (shares i) = true)
    (project : hasProject (shares i).projectId = true) (own : OwnSessions cfg shares s) :
    (orgClient cfg (shares i).projectId).amid (onSite host) (creations cfg shares)
      (fun s _ t => OnlyCreates cfg shares s t)
      (ending (fun session t => OnlyCreates cfg shares s t ∧
          session = projectSession cfg (shares i).projectId)
        fun _ _ => False) s := by
  unfold orgClient
  simp only [project, Bool.true_eq_false, ↓reduceIte]
  rw [amid_bind, onOk_ending]
  refine amid_reading (fun _ => rfl) fun t moved => ?_
  have answer : (respond (.host (.orgClientGet ((shares i).projectId.getD ""))) (t.world host)).1 =
    .ok ((t.hosts host).orgClients.get? ((shares i).projectId.getD "")) := rfl
  rw [answer, ending_ok]
  cases cached : (t.hosts host).orgClients.get? ((shares i).projectId.getD "") with
  | some session => exact ⟨moved, (moved.sessions own).cached i isolated host session cached⟩
  | none =>
      refine amid_bind_of _ (amid_ensureOrg apart isolated) fun _ u ensured => ?_
      obtain ⟨later, exists'⟩ := ensured
      have moved := (creations cfg shares).trans _ _ _ moved later
      rw [amid_bind, onOk_ending, login]
      refine amid_reading (fun _ => rfl) fun v later => ?_
      have moved := (creations cfg shares).trans _ _ _ moved later
      obtain ⟨org, found⟩ := Option.isSome_iff_exists.mp exists'
      have found := later.organizations _ _ found
      obtain ⟨username, password⟩ := (moved.sessions own).accepted i isolated org found
      have answer : (respond (.login (cfg.orgName (shares i).projectId) cfg.orgUser
          (cfg.orgPassword (shares i).projectId)) (v.world host)).1 =
            .ok (projectSession cfg (shares i).projectId) := by
        change asRaised (v.cluster.login _ _ _) = _
        unfold Cluster.login
        rw [found]
        simp only [username, password, and_self, ↓reduceIte]
        rfl
      rw [answer, ending_ok, amid_bind, onOk_ending, onHost]
      refine amid_onSite fun x later => ?_
      have stored : OnlyCreates cfg shares x (x.put host _) := stores_session project
      exact ⟨stored, (creations cfg shares).trans _ _ _ moved
        ((creations cfg shares).trans _ _ _ later stored), rfl⟩

end Parts

/-- Creating a filesystem where there is none of its name. -/
theorem creates_filesystem {val : Filesystem}
    (free : s.cluster.filesystems.find? (Keyed.key val) = none) :
    OnlyCreates cfg shares s (s.put host { s.world host with cluster := { s.cluster with
      filesystems := s.cluster.filesystems.insert val } }) := by
  have hosts : Function.update s.hosts host (s.hosts host) = s.hosts := Function.update_eq_self _ _
  refine ⟨fun _ _ => id, fun key fs found => ?_, fun other => ?_, fun own => ⟨own.accepted, ?_⟩⟩
  · change (s.cluster.filesystems.insert val).find? key = some fs
    rw [Registry.find?_insert _ _ free, Function.update_of_ne, found]
    rintro rfl
    rw [free] at found
    cases found
  · change (Function.update s.hosts host (s.hosts host) other).shareTypes = _
    rw [hosts]
  · intro j other site session held
    change (Function.update s.hosts host (s.hosts host) site).orgClients.get? _ = _ at held
    rw [hosts] at held
    exact own.cached j other site session held

/-- The filesystem of a name, whoever created it. -/
theorem amid_createFilesystemIdempotent {session : Session} {fsName groupName : String}
    {sizeBytes : Nat} {authRequired : Bool} :
    (createFilesystemIdempotent session fsName groupName sizeBytes authRequired).amid (onSite host)
      (creations cfg shares) (fun s _ t => OnlyCreates cfg shares s t)
      (ending (fun fs t => OnlyCreates cfg shares s t ∧
          t.cluster.filesystems.find? (session, fsName) = some fs)
        fun _ _ => False) s := by
  unfold createFilesystemIdempotent
  rw [amid_bind, onOk_ending]
  refine amid_getFilesystemByName fun t moved => ?_
  rw [ending_ok]
  cases found : t.cluster.filesystems.find? (session, fsName) with
  | some fs => exact ⟨moved, found⟩
  | none =>
      dsimp only
      rw [amid_tryCatch, onError_ending, send]
      refine amid_onSite fun u later => ?_
      rw [respond_createFilesystem]
      have moved := (creations cfg shares).trans _ _ _ moved later
      cases found : u.cluster.filesystems.find? (session, fsName) with
      | none =>
          have lookup : (u.world host).cluster.filesystems.find? (session, fsName) = none := found
          rw [lookup, Option.isSome_none, if_neg Bool.false_ne_true]
          have free : u.cluster.filesystems.find? (Keyed.key
            (newFilesystem session fsName groupName sizeBytes authRequired)) = none := found
          have created : OnlyCreates cfg shares u (u.put host _) := creates_filesystem free
          refine ⟨created, (creations cfg shares).trans _ _ _ moved created, ?_⟩
          refine (congrFun (Registry.find?_insert _ _ free) _).trans ?_
          exact Function.update_self ..
      | some fs =>
          -- another creation was first
          have lookup : (u.world host).cluster.filesystems.find? (session, fsName) = some fs :=
            found
          rw [lookup, Option.isSome_some, if_pos rfl, Sites.put_world]
          refine ⟨(creations cfg shares).refl u, ?_⟩
          have conflict : (WekaApiError.conflict "/fileSystems: already exists").kind = .conflict :=
            rfl
          dsimp only [ending_error]
          rw [if_pos conflict, amid_bind, onOk_ending]
          refine amid_getFilesystemByName fun v later => ?_
          have found := later.filesystems _ _ found
          rw [found, ending_ok]
          exact ⟨(creations cfg shares).trans _ _ _ moved later, found⟩

/-- A share's type selects the same group as before. -/
theorem selectedGroup_of_types {share : Share} {w t : World}
    (same : t.host.shareTypes = w.host.shareTypes) :
    selectedGroup share t = selectedGroup share w := by
  unfold selectedGroup
  rw [same]

/-- A share whose type selects no policy group is given no policies. -/
theorem amid_joinGroup {share : Share} {fsUid : Uid}
    (ungrouped : isIsolatedWekafs share = true → selectedGroup share (s.world host) = none) :
    (joinGroup cfg share fsUid).amid (onSite host) (creations cfg shares)
      (fun s _ t => OnlyCreates cfg shares s t)
      (ending (fun _ t => OnlyCreates cfg shares s t) fun _ _ => False) s := by
  unfold joinGroup
  cases isolated : isIsolatedWekafs share with
  | false => exact (creations cfg shares).refl s
  | true =>
      have none := ungrouped isolated
      rw [if_pos rfl, ensureGroupPolicies]
      refine amid_bind_of (fun group t => group = Option.none ∧ OnlyCreates cfg shares s t) ?_
        fun group t read => ?_
      · unfold sharePolicyGroup
        unfold selectedGroup at none
        cases typed : share.shareTypeId.filter (· ≠ "") with
        | none => exact ⟨rfl, (creations cfg shares).refl s⟩
        | some typeId =>
            rw [typed, Option.bind_some] at none
            dsimp only
            rw [amid_tryCatch, onError_ending, amid_bind, onOk_ending, onHost]
            refine amid_reading (fun w => ?_) fun t moved => ?_
            · simp only [respond, Host.answer]
              split <;> rfl
            · have types : (t.world host).host.shareTypes = (s.world host).host.shareTypes :=
                moved.types host
              rw [← types] at none
              cases known : (t.world host).host.shareTypes.get? typeId with
              | none =>
                  simp only [respond, Host.answer, known]
                  exact ⟨rfl, moved⟩
              | some specs =>
                  rw [known, Option.bind_some] at none
                  simp only [respond, Host.answer, known]
                  exact ⟨none, moved⟩
      · obtain ⟨rfl, moved⟩ := read
        exact moved

/-- The session a share's filesystem belongs to. -/
def ownSession (cfg : Config) (share : Share) : Session :=
  if isIsolatedWekafs share then projectSession cfg share.projectId else .admin

/-- The export locations of a share's filesystem on the cluster. -/
def LocatedAt (cfg : Config) (share : Share) (cluster : Cluster) (locations : List ExportLocation) :
    Prop :=
  ∃ fs, cluster.filesystems.find? (ownSession cfg share, cfg.shareName share.id) = some fs ∧
    locations = buildExportLocations cfg share (cfg.shareName share.id) (some fs.uid)
      share.shareProto

private theorem amid_createShare {i : ι}
    (apart : ∀ i j, isIsolatedWekafs (shares i) = true → isIsolatedWekafs (shares j) = true →
      cfg.orgName (shares i).projectId = cfg.orgName (shares j).projectId →
        (shares i).projectId = (shares j).projectId)
    (served : ∀ name, (shares i).shareProto ≠ .other name)
    (project : isIsolatedWekafs (shares i) = true → hasProject (shares i).projectId = true)
    (ungrouped : isIsolatedWekafs (shares i) = true →
      selectedGroup (shares i) (s.world host) = none)
    (own : OwnSessions cfg shares s) :
    (createShare cfg (shares i)).amid (onSite host) (creations cfg shares)
      (fun s _ t => OnlyCreates cfg shares s t)
      (ending (fun locations t => LocatedAt cfg (shares i) t.cluster locations) fun _ _ => False)
      s := by
  rw [createShare_eq served]
  refine amid_bind_of (fun session t => OnlyCreates cfg shares s t ∧
    session = ownSession cfg (shares i)) ?_ fun session t opened => ?_
  · unfold clientForShare ownSession
    cases isolated : isIsolatedWekafs (shares i) with
    | true =>
        rw [if_pos rfl, if_pos rfl]
        exact amid_orgClient apart isolated (project isolated) own
    | false => exact ⟨(creations cfg shares).refl s, rfl⟩
  obtain ⟨moved, rfl⟩ := opened
  refine amid_bind_of _ amid_createFilesystemIdempotent fun fs u created => ?_
  obtain ⟨later, found⟩ := created
  have moved := (creations cfg shares).trans _ _ _ moved later
  have still : isIsolatedWekafs (shares i) = true →
      selectedGroup (shares i) (u.world host) = none := fun isolated =>
    (selectedGroup_of_types (moved.types host)).trans (ungrouped isolated)
  exact amid_bind_of _ (amid_joinGroup still) fun _ v joined =>
    ⟨fs, joined.filesystems _ _ found, rfl⟩

end Creates

/-- Creating shares from any threads of any hosts at once never fails, and every creation of a
share returns the export locations of the one filesystem that the share then has on the cluster:
two creations of one share return the same. -/
theorem concurrent_creates_agree {ι : Type} [DecidableEq ι] (cfg : Config) (shares : ι → Share)
    (site : ι → η) (start : Sites η) (served : ∀ i name, (shares i).shareProto ≠ .other name)
    (project : ∀ i, isIsolatedWekafs (shares i) = true → hasProject (shares i).projectId = true)
    (apart : ∀ i j, isIsolatedWekafs (shares i) = true → isIsolatedWekafs (shares j) = true →
      cfg.orgName (shares i).projectId = cfg.orgName (shares j).projectId →
        (shares i).projectId = (shares j).projectId)
    (ungrouped : ∀ i, isIsolatedWekafs (shares i) = true →
      selectedGroup (shares i) (start.world (site i)) = none)
    (own : OwnSessions cfg shares start)
    {pool : Pool Op Op.Res Error (Sites η) (fun _ : ι => List ExportLocation)}
    (reached : Interleaves (fun i => onSite (site i)) ⟨fun i => createShare cfg (shares i), start⟩
      pool) :
    (∀ i error, pool.threads i ≠ .fail error) ∧
      (∀ i locations, pool.threads i = .ret locations →
        LocatedAt cfg (shares i) pool.state.cluster locations) ∧
      ∀ i j locations locations', shares i = shares j → pool.threads i = .ret locations →
        pool.threads j = .ret locations' → locations = locations' := by
  have fares (i : ι) := reached.amid
    (fun i => amid_createShare apart (served i) (project i) (ungrouped i) own)
    (fun i outcome s t ended moved => by
      cases outcome with
      | ok locations =>
          obtain ⟨fs, found, rfl⟩ := ended
          exact ⟨fs, moved.filesystems _ _ found, rfl⟩
      | error error => exact ended)
    (fun _ _ _ _ _ _ _ _ kept => kept) i
  have returned (i : ι) (locations : List ExportLocation)
      (ended : pool.threads i = .ret locations) :
      LocatedAt cfg (shares i) pool.state.cluster locations := by
    have fares := fares i
    rw [ended] at fares
    exact fares
  refine ⟨fun i error failed => ?_, returned, fun i j locations locations' same first second => ?_⟩
  · have fares := fares i
    rw [failed] at fares
    exact fares
  · obtain ⟨fs, found, rfl⟩ := returned i locations first
    obtain ⟨fs', found', rfl⟩ := returned j locations' second
    rw [same] at found ⊢
    rw [found] at found'
    cases found'
    rfl

section Sample

/-- Two hosts of a cluster that is still empty. -/
def emptySites : Sites Bool := ⟨Cluster.empty, fun _ => Host.empty⟩

/-- Two hosts create one share. Both find neither its project's organization nor its filesystem; the
second is told that the first has made them, and returns what the first returns. -/
theorem concurrent_creates_agree_sample :
    ∃ pool : Pool Op Op.Res Error (Sites Bool) (fun _ : Bool => List ExportLocation),
      Interleaves (fun i => onSite i)
        ⟨fun _ => createShare sampleConfig (sampleShare .wekafs), emptySites⟩ pool ∧
      ∃ locations, pool.threads true = .ret locations ∧ pool.threads false = .ret locations ∧
        LocatedAt sampleConfig (sampleShare .wekafs) pool.state.cluster locations := by
  have own : OwnSessions sampleConfig (fun _ : Bool => sampleShare .wekafs) emptySites := by
    refine ⟨fun i _ org found => ?_, fun i _ host session held => ?_⟩
    · cases found
    · cases held
  have run : Interleaves (fun i => onSite i)
    ⟨fun _ => createShare sampleConfig (sampleShare .wekafs), emptySites⟩ _ := .start
  have run := run.step (i := true) rfl ⟨rfl, rfl⟩
  have run := run.step (i := true) rfl ⟨rfl, rfl⟩
  have run := run.step (i := false) rfl ⟨rfl, rfl⟩
  have run := run.step (i := false) rfl ⟨rfl, rfl⟩
  have run := run.step (i := true) rfl ⟨rfl, rfl⟩
  have run := run.step (i := false) rfl ⟨rfl, rfl⟩
  have run := run.step (i := true) rfl ⟨rfl, rfl⟩
  have run := run.step (i := true) rfl ⟨rfl, rfl⟩
  have run := run.step (i := false) rfl ⟨rfl, rfl⟩
  have run := run.step (i := false) rfl ⟨rfl, rfl⟩
  have run := run.step (i := true) rfl ⟨rfl, rfl⟩
  have run := run.step (i := false) rfl ⟨rfl, rfl⟩
  have run := run.step (i := true) rfl ⟨rfl, rfl⟩
  have run := run.step (i := false) rfl ⟨rfl, rfl⟩
  have run := run.step (i := false) rfl ⟨rfl, rfl⟩
  exact ⟨_, run, _, rfl, rfl, (concurrent_creates_agree sampleConfig _ id emptySites
    (fun _ _ => ShareProto.noConfusion) (fun _ _ => rfl) (fun _ _ _ _ _ => rfl) (fun _ _ => rfl) own
    run).2.1 true _ rfl⟩

end Sample

end WekaShareDriver
