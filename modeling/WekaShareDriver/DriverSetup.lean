import WekaShareDriver.World
import WekaShareDriver.Foundation.Interference

/-! # Starting the driver

Manila sets a driver up, which checks some of its options and makes sure that its filesystem group
exists, and then has it check for errors. Every back end of every host does so, and they may start
at once: one may make the group that another has just not found, which then fails to start.

Whoever has started has options that passed all checks, and finds the group under the uid it was
started with: those with one group agree on it. Whoever failed did so for its latest call, for its
options, or because another start made the group in between (`WekaShareDriver.starts_agree`).
-/

namespace WekaShareDriver

open Foundation Program

/-- A filesystem group of the cluster. -/
structure FilesystemGroup where
  name : String
  deriving DecidableEq

instance : Keyed FilesystemGroup String := ⟨FilesystemGroup.name⟩

/-- What a driver asks for while it starts: requests of its session, and the kernel's list of
filesystems, on which only a warning depends. -/
inductive SetupCall where
  | login
  | getClusterStatus
  | listFilesystemGroups
  | createFilesystemGroup (name : String)
  | readProcFilesystems
  deriving DecidableEq

@[reducible] def SetupCall.Res : SetupCall → Type
  | .listFilesystemGroups => List (Entry FilesystemGroup)
  | .createFilesystemGroup _ => Entry FilesystemGroup
  | _ => Unit

/-- A program that is run when the driver starts. -/
abbrev Setup (α : Type) : Type := Program SetupCall SetupCall.Res Error α

/-- Make a call of the setup. -/
def onSetup (call : SetupCall) : Setup call.Res := Program.perform call

/-- What a call does to the filesystem groups when it works. -/
def SetupCall.respond :
    (call : SetupCall) → Registry FilesystemGroup →
      Except Error call.Res × Registry FilesystemGroup
  | .listFilesystemGroups, groups => (.ok groups.rows, groups)
  | .createFilesystemGroup name, groups =>
      let (reply, groups) := Cluster.create groups ⟨name⟩
        (.conflict "/fileSystemGroups: already exists")
      (asRaised reply, groups)
  | .login, groups => (.ok (), groups)
  | .getClusterStatus, groups => (.ok (), groups)
  | .readProcFilesystems, groups => (.ok (), groups)

/-- Which calls of a setup can fail, and with what. -/
abbrev SetupFault : Type := Registry FilesystemGroup → SetupCall → Error → Prop

/-- The cluster and the host while drivers start. -/
abbrev setupService (fault : SetupFault) :
    Service SetupCall SetupCall.Res Error (Registry FilesystemGroup) :=
  Program.withFaults SetupCall.respond fault

/-- The options of the driver; one without a default may be unset. -/
structure Options where
  apiServer : Option String
  username : Option String
  password : Option String
  shareNamePrefix : String
  filesystemGroup : String
  mountPointBase : String
  nfsServer : Option String
  numCores : Nat
  netDevice : Option String
  orgPrefix : String
  orgUser : String
  orgAdminSecret : Option String
  authTokenDir : String
  securityPolicyGroup : Option String

/-- What of Python the driver's configuration rests on. -/
structure Runtime where
  hmacHexdigest : String → String → String
  iterationOrder : List String → List String
  iterationPerm : ∀ names, (iterationOrder names).Perm names

/-- The configuration that a driver with these options and this secret works with. A server that is
not set is the empty text wherever it is used. -/
def Options.config (options : Options) (runtime : Runtime) (secret : String)
    (secretSet : secret ≠ "") : Config where
  shareNamePrefix := options.shareNamePrefix
  filesystemGroup := options.filesystemGroup
  mountPointBase := options.mountPointBase
  apiServer := options.apiServer.getD ""
  nfsServer := options.nfsServer
  numCores := options.numCores
  netDevice := options.netDevice
  orgPrefix := options.orgPrefix
  orgUser := options.orgUser
  orgAdminSecret := secret
  authTokenDir := options.authTokenDir
  securityPolicyGroup := options.securityPolicyGroup
  hmacHexdigest := runtime.hmacHexdigest
  iterationOrder := runtime.iterationOrder
  secretSet := secretSet
  iterationPerm := runtime.iterationPerm

/-- A driver that was set up. -/
structure Started where
  cfg : Config
  fsGroupUid : Uid

/-- Find a filesystem group by name. -/
def getFilesystemGroupByName (name : String) : Setup (Option (Entry FilesystemGroup)) := do
  let groups ← onSetup .listFilesystemGroups
  return groups.find? fun group => group.val.name = name

/-- The uid of the filesystem group, which is created if there is none. -/
def ensureFilesystemGroup (groupName : String) : Setup Uid := do
  match ← getFilesystemGroupByName groupName with
  | some group => return group.uid
  | none =>
      let group ← onSetup (.createFilesystemGroup groupName)
      return group.uid

/-- A text with a path separator. -/
def hasSeparator (text : String) : Bool := '/' ∈ text.toList || '\\' ∈ text.toList

/-- The error for a prefix that would lead out of the directory of the token files. -/
def Options.separatedPrefix (options : Options) : Error :=
  .configuration ("weka_org_prefix must not contain path separators: " ++ options.orgPrefix)

/-- The error for a secret that is not set. -/
def secretNotSet : Error :=
  .configuration ("weka_org_admin_secret must be set: WEKAFS shares are always created with " ++
    "per-tenant organization isolation, which derives per-org credentials from this secret")

/-- Set the driver up: log in, check the options of the tenants' organizations, and make sure of
the filesystem group. The cluster's status is only logged. -/
def doSetup (runtime : Runtime) (options : Options) : Setup Started := do
  onSetup .login
  if hasSeparator options.orgPrefix then
    throw options.separatedPrefix
  else
    let secret := options.orgAdminSecret.getD ""
    if secretSet : secret ≠ "" then do
      tryCatch (onSetup .getClusterStatus) fun _ => pure ()
      let fsGroupUid ← ensureFilesystemGroup options.filesystemGroup
      return ⟨options.config runtime secret secretSet, fsGroupUid⟩
    else
      throw secretNotSet

/-- The required options that are not set. -/
def Options.missing (options : Options) : List String :=
  [("weka_api_server", options.apiServer), ("weka_username", options.username),
    ("weka_password", options.password)].filterMap fun (name, value) =>
      if value.getD "" = "" then some name else none

/-- The error for required options that are not set. -/
def Options.incomplete (options : Options) : Error :=
  .manila ("Invalid input received: Weka driver: required config options not set: " ++
    ", ".intercalate options.missing)

/-- An error that says the credentials are wrong. -/
def authFailure : Error → Option WekaApiError
  | .api error => if error.kind = .auth then some error else none
  | _ => none

/-- The error for credentials that the cluster refuses. -/
def authenticationFailed (error : WekaApiError) : Error :=
  .manila ("Weka driver: API authentication failed: " ++ error.message)

/-- Check the options and the environment of a driver that was set up. -/
def checkForSetupError (options : Options) : Setup Unit := do
  if options.missing ≠ [] then
    throw options.incomplete
  else
    tryCatch (onSetup .readProcFilesystems) fun error =>
      if error = .os then pure () else throw error
    tryCatch (onSetup .getClusterStatus) fun error =>
      match authFailure error with
      | some error => throw (authenticationFailed error)
      | none => pure ()

/-- Start the driver as Manila does. -/
def start (runtime : Runtime) (options : Options) : Setup Started := do
  let started ← doSetup runtime options
  checkForSetupError options
  return started

/-! ## What a start does among others -/

/-- Options that pass every check. -/
structure Options.Valid (options : Options) : Prop where
  plainPrefix : hasSeparator options.orgPrefix = false
  secretSet : options.orgAdminSecret.getD "" ≠ ""
  complete : options.missing = []

/-- Options that pass the checks made before anything is created. -/
structure Options.Checked (options : Options) : Prop where
  plainPrefix : hasSeparator options.orgPrefix = false
  secretSet : options.orgAdminSecret.getD "" ≠ ""

/-- What a start raises for options that do not pass a check. -/
inductive Options.Refused (options : Options) : Error → Prop where
  | separator : hasSeparator options.orgPrefix = true → Refused options options.separatedPrefix
  | secret : options.orgAdminSecret.getD "" = "" → Refused options secretNotSet
  | missing : options.missing ≠ [] → Refused options options.incomplete

/-- What a start raises when a call fails, if it does not go on. -/
def SetupCall.ends : SetupCall → Error → Option Error
  | .getClusterStatus, error => (authFailure error).map authenticationFailed
  | .readProcFilesystems, error => if error = .os then none else some error
  | _, error => some error

/-- The groups, with the calls of all starts. -/
abbrev StartsWorld (ι : Type) : Type := Recorded ι SetupCall Error (Registry FilesystemGroup)

/-- The call that creates the group the options name. -/
abbrev Options.creation (options : Options) : SetupCall :=
  .createFilesystemGroup options.filesystemGroup

/-- The cluster's answer to the creation of a group that is there. -/
abbrev groupExists : Error := .api (.conflict "/fileSystemGroups: already exists")

section Starts

variable {ι : Type}

/-- A start looked for its group when it was not there, another one made it, and then the group
could not be created: that was the latest call of the start. -/
def Overtaken (options : Options) (i : ι)
    (calls : List (MadeCall ι SetupCall Error (Registry FilesystemGroup))) : Prop :=
  ∃ before between after rest j looked made tried, j ≠ i ∧
    calls = before ++ ⟨i, .listFilesystemGroups, looked, none⟩ ::
      (between ++ ⟨j, options.creation, made, none⟩ ::
        (after ++ ⟨i, options.creation, tried, some groupExists⟩ :: rest)) ∧
    (∀ call ∈ rest, call.thread ≠ i) ∧
    looked.find? options.filesystemGroup = none ∧ made.find? options.filesystemGroup = none

/-- Why a start failed with an error: its latest call failed and made it raise that error, its
options do not pass the check that raises it, or another start made the group in between. -/
inductive EndedBy (fault : SetupFault) (options : Options) (i : ι)
    (calls : List (MadeCall ι SetupCall Error (Registry FilesystemGroup))) : Error → Prop where
  | failed {call : SetupCall} {before : Registry FilesystemGroup} {error raised : Error} :
      LatestCall ⟨i, call, before, some error⟩ calls → fault before call error →
      call.ends error = some raised → EndedBy fault options i calls raised
  | refused {error : Error} : options.Refused error → EndedBy fault options i calls error
  | overtaken : Overtaken options i calls → EndedBy fault options i calls groupExists

/-- What the other starts do: they make calls of their own, and only add groups, each by one of
these calls. -/
structure Others (i : ι) (s t : StartsWorld ι) : Prop where
  grow : ∀ name group, s.state.find? name = some group → t.state.find? name = some group
  made : ∃ added, t.calls = s.calls ++ added ∧ (∀ call ∈ added, call.thread ≠ i) ∧
    ∀ name, s.state.find? name = none → t.state.find? name ≠ none →
      ∃ call ∈ added, call.op = .createFilesystemGroup name ∧ call.raised = none ∧
        call.before.find? name = none

/-- Nothing, or several things in turn, may be done by the others. -/
def others (i : ι) : Rely (StartsWorld ι) where
  may := Others i
  refl s := ⟨fun _ _ => id, [], (List.append_nil _).symm,
    fun _ impossible => absurd impossible List.not_mem_nil, fun _ free there => absurd free there⟩
  trans s t u first second := by
    obtain ⟨grow, added, calls, apart, makes⟩ := first
    obtain ⟨grow', added', calls', apart', makes'⟩ := second
    refine ⟨fun name group found => grow' name group (grow name group found), added ++ added', ?_,
      fun call member => ?_, fun name free there => ?_⟩
    · rw [calls', calls, List.append_assoc]
    · rcases List.mem_append.mp member with member | member
      · exact apart call member
      · exact apart' call member
    · by_cases free' : t.state.find? name = none
      · obtain ⟨call, member, made⟩ := makes' name free' there
        exact ⟨call, List.mem_append_right _ member, made⟩
      · obtain ⟨call, member, made⟩ := makes name free free'
        exact ⟨call, List.mem_append_left _ member, made⟩

/-- What a call of a start does: it is recorded, and leaves the groups or, with options that pass
the checks, adds the one they name. -/
def Starts (options : Options) (i : ι) (s : StartsWorld ι) (call : SetupCall)
    (t : StartsWorld ι) : Prop :=
  ∃ raised, t.calls = s.calls ++ [⟨i, call, s.state, raised⟩] ∧
    (t.state = s.state ∨ call = options.creation ∧ raised = none ∧ options.Checked ∧
      s.state.find? options.filesystemGroup = none ∧
        t.state = s.state.insert ⟨options.filesystemGroup⟩)

/-- The group that the options name is there under a uid. -/
def GroupAt (options : Options) (uid : Uid) (groups : Registry FilesystemGroup) : Prop :=
  groups.find? options.filesystemGroup = some ⟨uid, ⟨options.filesystemGroup⟩⟩

/-- The options that a configuration is made of. -/
def Configures (runtime : Runtime) (options : Options) (cfg : Config) : Prop :=
  ∃ secretSet, cfg = options.config runtime (options.orgAdminSecret.getD "") secretSet

variable {fault : SetupFault} {runtime : Runtime} {options : Options} {i j : ι}
  {groups : Registry FilesystemGroup} {s t : StartsWorld ι}

/-- A group that is found has the name it was looked up by. -/
private theorem find?_group {name : String} {group : Entry FilesystemGroup}
    (found : groups.find? name = some group) : group = ⟨group.uid, ⟨name⟩⟩ := by
  obtain ⟨-, same⟩ := Registry.find?_eq_some_iff.mp found
  change group.val.name = name at same
  subst same
  rfl

/-- Adding a group leaves the others. -/
private theorem find?_insert_of_ne {name other : String} (free : groups.find? name = none)
    (apart : other ≠ name) : (groups.insert ⟨name⟩).find? other = groups.find? other := by
  have key : groups.find? (Keyed.key (⟨name⟩ : FilesystemGroup)) = none := free
  rw [Registry.find?_insert _ _ key]
  exact Function.update_of_ne apart ..

/-- The group that was added is found. -/
private theorem find?_inserted {name : String} (free : groups.find? name = none) :
    (groups.insert ⟨name⟩).find? name = some ⟨groups.next, ⟨name⟩⟩ := by
  have key : groups.find? (Keyed.key (⟨name⟩ : FilesystemGroup)) = none := free
  rw [Registry.find?_insert _ _ key]
  exact Function.update_self ..

/-- Creating a group answers whether there is one. -/
private theorem respond_createFilesystemGroup (name : String) (groups : Registry FilesystemGroup) :
    (SetupCall.createFilesystemGroup name).respond groups =
      if (groups.find? name).isSome then (.error groupExists, groups)
      else (.ok ⟨groups.next, ⟨name⟩⟩, groups.insert ⟨name⟩) := by
  have key : Keyed.key (⟨name⟩ : FilesystemGroup) = name := rfl
  cases found : groups.find? name with
  | none =>
      simp only [SetupCall.respond, Cluster.create, key, found, asRaised, Option.isSome_none,
        Bool.false_eq_true, ↓reduceIte]
  | some group =>
      simp only [SetupCall.respond, Cluster.create, key, found, asRaised, Option.isSome_some,
        ↓reduceIte]

/-- Groups are only added by a start. -/
theorem Starts.grow {call : SetupCall} (starts : Starts options i s call t) (name : String)
    (group : Entry FilesystemGroup) (found : s.state.find? name = some group) :
    t.state.find? name = some group := by
  obtain ⟨raised, -, same | ⟨-, -, -, free, added⟩⟩ := starts
  · rwa [same]
  · have apart : name ≠ options.filesystemGroup := by
      intro same
      rw [same, free] at found
      cases found
    rw [added, find?_insert_of_ne free apart, found]

/-- What one start does is what the others may rely on. -/
theorem Starts.others {call : SetupCall} (starts : Starts options i s call t) (apart : j ≠ i) :
    Others j s t := by
  refine ⟨starts.grow, ?_⟩
  obtain ⟨raised, calls, changed⟩ := starts
  refine ⟨_, calls, fun call member => ?_, fun name free there => ?_⟩
  · rw [List.mem_singleton.mp member]
    exact apart.symm
  · rcases changed with same | ⟨creates, returned, -, none', added⟩
    · rw [same] at there
      exact absurd free there
    · have named : name = options.filesystemGroup := by
        by_contra other
        rw [added, find?_insert_of_ne none' other] at there
        exact there free
      subst named
      exact ⟨_, List.mem_singleton_self _, creates, returned, none'⟩

/-- Why a start failed stays so. -/
theorem EndedBy.lasts {error : Error} (ended : EndedBy fault options i s.calls error)
    (moved : Others i s t) : EndedBy fault options i t.calls error := by
  obtain ⟨-, added, calls, apart, -⟩ := moved
  rw [calls]
  cases ended with
  | failed latest struck raises => exact .failed (latest.append apart) struck raises
  | refused refused => exact .refused refused
  | overtaken overtaken =>
      obtain ⟨before, between, after, rest, j, looked, made, tried, different, recorded, mine,
        free⟩ := overtaken
      refine .overtaken ⟨before, between, after, rest ++ added, j, looked, made, tried, different,
        ?_, fun call member => ?_, free⟩
      · rw [recorded]
        simp
      · rcases List.mem_append.mp member with earlier | member
        · exact mine call earlier
        · exact apart call member

/-- A call that leaves the groups: what it answers, or that it failed and was the latest. -/
theorem amid_asking {call : SetupCall} {post : Except Error call.Res → StartsWorld ι → Prop}
    (reads : ∀ groups, (call.respond groups).2 = groups)
    (answered : ∀ t u, Others i s t → u.state = t.state →
      u.calls = t.calls ++ [⟨i, call, t.state, errorOf (call.respond t.state).1⟩] →
      post (call.respond t.state).1 u)
    (failed : ∀ t u error, Others i s t → u.state = t.state → fault t.state call error →
      LatestCall ⟨i, call, t.state, some error⟩ u.calls → post (.error error) u) :
    (onSetup call).amid (recording (setupService fault) i) (others i) (Starts options i) post s := by
  rw [onSetup, amid_perform]
  rintro t answer u moved ⟨replied | ⟨error, struck, rfl, same⟩, recorded⟩
  · have same : u.state = t.state := (congrArg Prod.snd replied).symm.trans (reads _)
    have answers : answer = (call.respond t.state).1 := (congrArg Prod.fst replied).symm
    subst answers
    exact ⟨⟨_, recorded, Or.inl same⟩, answered t u moved same recorded⟩
  · refine ⟨⟨_, recorded, Or.inl same⟩, failed t u error moved same struck ?_⟩
    rw [recorded]
    exact latestCall_append ..

/-- Where the group is there that a start had missed, another one made it in between. -/
theorem overtaken_of_found {before : List (MadeCall ι SetupCall Error (Registry FilesystemGroup))}
    (looked : s.calls = before ++ [⟨i, .listFilesystemGroups, s.state, none⟩])
    (missed : s.state.find? options.filesystemGroup = none) (moved : Others i s t)
    (there : t.state.find? options.filesystemGroup ≠ none) :
    Overtaken options i (t.calls ++ [⟨i, options.creation, t.state, some groupExists⟩]) := by
  obtain ⟨-, added, calls, apart, makes⟩ := moved
  obtain ⟨made, member, creates, returned, free⟩ := makes _ missed there
  obtain ⟨between, after, split⟩ := List.append_of_mem member
  have made' : made = ⟨made.thread, options.creation, made.before, none⟩ := by
    change _ = (⟨_, SetupCall.createFilesystemGroup _, _, _⟩ : MadeCall ..)
    rw [← creates, ← returned]
  refine ⟨before, between, after, [], made.thread, s.state, made.before, t.state,
    apart made member, ?_, fun _ impossible => absurd impossible List.not_mem_nil, missed, free⟩
  rw [calls, looked, split, made']
  simp

/-- A start that has missed its group creates it, or is told that another one has. -/
theorem amid_createGroup (checked : options.Checked)
    {before : List (MadeCall ι SetupCall Error (Registry FilesystemGroup))}
    (looked : s.calls = before ++ [⟨i, .listFilesystemGroups, s.state, none⟩])
    (missed : s.state.find? options.filesystemGroup = none) :
    (onSetup options.creation).amid (recording (setupService fault) i) (others i) (Starts options i)
      (ending (fun group t => GroupAt options group.uid t.state)
        fun error t => EndedBy fault options i t.calls error) s := by
  rw [onSetup, amid_perform]
  rintro t answer u moved ⟨replied | ⟨error, struck, rfl, same⟩, recorded⟩
  · rw [respond_createFilesystemGroup] at replied
    cases found : t.state.find? options.filesystemGroup with
    | none =>
        rw [found] at replied
        obtain ⟨rfl, inserted⟩ := Prod.mk.inj replied
        refine ⟨⟨none, recorded, Or.inr ⟨rfl, rfl, checked, found, inserted.symm⟩⟩, ?_⟩
        change GroupAt options t.state.next u.state
        rw [← inserted]
        exact find?_inserted found
    | some group =>
        have there : t.state.find? options.filesystemGroup ≠ none := by
          rw [found]
          exact Option.some_ne_none group
        rw [found] at replied
        obtain ⟨rfl, same⟩ := Prod.mk.inj replied
        refine ⟨⟨_, recorded, Or.inl same.symm⟩, .overtaken ?_⟩
        rw [recorded]
        exact overtaken_of_found looked missed moved there
  · refine ⟨⟨_, recorded, Or.inl same⟩, .failed ?_ struck rfl⟩
    rw [recorded]
    exact latestCall_append ..

/-- The group is found under the uid that is returned, from now on. -/
theorem amid_ensureFilesystemGroup (checked : options.Checked) :
    (ensureFilesystemGroup options.filesystemGroup).amid (recording (setupService fault) i)
      (others i) (Starts options i)
      (ending (fun uid t => GroupAt options uid t.state)
        fun error t => EndedBy fault options i t.calls error) s := by
  unfold ensureFilesystemGroup getFilesystemGroupByName
  refine amid_bind_of (fun found t => t.state.find? options.filesystemGroup = found ∧
    ∃ before, t.calls = before ++ [⟨i, .listFilesystemGroups, t.state, none⟩]) ?_ ?_
  · rw [amid_bind, onOk_ending]
    refine amid_asking (fun _ => rfl) (fun t u _ same recorded => ?_)
      fun t u error _ _ struck latest => .failed latest struck rfl
    rw [← same] at recorded ⊢
    exact ⟨rfl, t.calls, recorded⟩
  · intro found t looked
    obtain ⟨here, before, calls⟩ := looked
    cases found with
    | some group =>
        rw [find?_group here] at here
        exact here
    | none => exact amid_bind_of _ (amid_createGroup checked calls here) fun group u there => there

/-- A driver that was set up has options that passed the checks. -/
theorem amid_doSetup :
    (doSetup runtime options).amid (recording (setupService fault) i) (others i) (Starts options i)
      (ending (fun started t => options.Checked ∧ GroupAt options started.fsGroupUid t.state ∧
          Configures runtime options started.cfg)
        fun error t => EndedBy fault options i t.calls error) s := by
  unfold doSetup
  refine amid_bind_of (fun _ _ => True) (amid_asking (fun _ => rfl) (fun _ _ _ _ _ => trivial)
    fun _ _ _ _ _ struck latest => .failed latest struck rfl) fun _ t _ => ?_
  rw [amid_ite]
  split
  case isTrue separated => exact .refused (.separator separated)
  case isFalse plain =>
    dsimp only
    split
    case isTrue secretSet =>
      have checked : options.Checked := ⟨Bool.eq_false_iff.mpr plain, secretSet⟩
      refine amid_bind_of (fun _ _ => True) (amid_tryCatch_of (fun _ _ => True) ?_ ?_) ?_
      · exact amid_asking (fun _ => rfl) (fun _ _ _ _ _ => trivial) fun _ _ _ _ _ _ _ => trivial
      · exact fun _ _ _ => trivial
      · intro _ u _
        refine amid_bind_of _ (amid_ensureFilesystemGroup checked) fun uid v there => ?_
        exact ⟨checked, there, secretSet, rfl⟩
    case isFalse unset => exact .refused (.secret (not_not.mp unset))

/-- The check for errors passes only complete options, and leaves the groups. -/
theorem amid_checkForSetupError (there : GroupAt options uid s.state) :
    (checkForSetupError options).amid (recording (setupService fault) i) (others i)
      (Starts options i)
      (ending (fun _ t => options.missing = [] ∧ GroupAt options uid t.state)
        fun error t => EndedBy fault options i t.calls error) s := by
  unfold checkForSetupError
  rw [amid_ite]
  split
  case isTrue missing => exact .refused (.missing missing)
  case isFalse complete =>
    have complete : options.missing = [] := not_not.mp complete
    have asking {call : SetupCall} (reads : ∀ groups, (call.respond groups).2 = groups)
        (answers : ∀ groups, ∃ value, (call.respond groups).1 = .ok value) {u : StartsWorld ι}
        (there : GroupAt options uid u.state) :
        (onSetup call).amid (recording (setupService fault) i) (others i) (Starts options i)
          (ending (fun _ t => GroupAt options uid t.state)
            fun error t => GroupAt options uid t.state ∧ ∃ before,
              LatestCall ⟨i, call, before, some error⟩ t.calls ∧ fault before call error) u := by
      refine amid_asking reads (fun v x moved same _ => ?_)
        fun v x error moved same struck latest => ?_
      · obtain ⟨value, answer⟩ := answers v.state
        rw [answer]
        change GroupAt options uid x.state
        rw [same]
        exact moved.grow _ _ there
      · refine ⟨?_, _, latest, struck⟩
        rw [same]
        exact moved.grow _ _ there
    refine amid_bind_of (fun _ t => GroupAt options uid t.state)
      (amid_tryCatch_of _ (asking (fun _ => rfl) (fun _ => ⟨(), rfl⟩) there) ?_) ?_
    · intro error t caught
      obtain ⟨there, before, latest, struck⟩ := caught
      rw [amid_ite]
      split
      case isTrue unreadable => exact there
      case isFalse other => exact .failed latest struck (if_neg other)
    · intro _ t there
      refine amid_tryCatch_of _ (amid_weaken (asking (fun _ => rfl) (fun _ => ⟨(), rfl⟩) there)
        (fun _ _ there => ⟨complete, there⟩) fun _ _ => id) ?_
      intro error u caught
      obtain ⟨there, before, latest, struck⟩ := caught
      cases auth : authFailure error with
      | some refusal =>
          exact .failed latest struck (congrArg (Option.map authenticationFailed) auth)
      | none => exact ⟨complete, there⟩

/-- A driver that started has valid options, works with them, and finds its group. -/
theorem amid_start :
    (start runtime options).amid (recording (setupService fault) i) (others i) (Starts options i)
      (ending (fun started t => options.Valid ∧ GroupAt options started.fsGroupUid t.state ∧
          Configures runtime options started.cfg)
        fun error t => EndedBy fault options i t.calls error) s := by
  unfold start
  refine amid_bind_of _ amid_doSetup fun started t setUp => ?_
  obtain ⟨checked, there, configured⟩ := setUp
  refine amid_bind_of _ (amid_checkForSetupError there) fun _ u passed => ?_
  exact ⟨⟨checked.plainPrefix, checked.secretSet, passed.1⟩, passed.2, configured⟩

/-- The groups that were not there at first are named by options that passed the checks. -/
def NamedBy (options : ι → Options) (groups groups' : Registry FilesystemGroup) : Prop :=
  ∀ name group, groups'.find? name = some group → groups.find? name = some group ∨
    ∃ i, (options i).Checked ∧ name = (options i).filesystemGroup

/-- A start adds only the group that its options name. -/
theorem Starts.named {options : ι → Options} {call : SetupCall}
    (starts : Starts (options i) i s call t) (before : NamedBy options groups s.state) :
    NamedBy options groups t.state := by
  intro name group found
  obtain ⟨raised, -, same | ⟨-, -, checked, free, added⟩⟩ := starts
  · rw [same] at found
    exact before name group found
  · by_cases same : name = (options i).filesystemGroup
    · exact Or.inr ⟨i, checked, same⟩
    · rw [added, find?_insert_of_ne free same] at found
      exact before name group found

/-- However many drivers start at once, in any interleaving and whatever calls fail: those that
have started have valid options, work with the configuration made of them and find the group these
name, each the same under one uid. A start that failed did so because its latest call failed, its
options did not pass a check, or another start made the group after it was not found, and with the
error of that. Groups are only added, and only those that options name which pass the checks made
before. -/
theorem starts_agree [DecidableEq ι] (fault : SetupFault) (runtime : Runtime)
    (options : ι → Options) (groups : Registry FilesystemGroup)
    {pool : Pool SetupCall SetupCall.Res Error (StartsWorld ι) (fun _ : ι => Started)}
    (reached : Interleaves (recording (setupService fault))
      ⟨fun i => start runtime (options i), ⟨groups, []⟩⟩ pool) :
    (∀ i started, pool.threads i = .ret started → (options i).Valid ∧
      pool.state.state.find? (options i).filesystemGroup =
        some ⟨started.fsGroupUid, ⟨(options i).filesystemGroup⟩⟩ ∧
      Configures runtime (options i) started.cfg) ∧
    (∀ i error, pool.threads i = .fail error →
      EndedBy fault (options i) i pool.state.calls error) ∧
    (∀ name group, groups.find? name = some group → pool.state.state.find? name = some group) ∧
    ∀ name group, pool.state.state.find? name = some group →
      groups.find? name = some group ∨
        ∃ i, (options i).Checked ∧ name = (options i).filesystemGroup := by
  have lasting (i : ι) (outcome : Except Error Started) (s t : StartsWorld ι)
      (ended : ending (fun started t => (options i).Valid ∧
          GroupAt (options i) started.fsGroupUid t.state ∧
          Configures runtime (options i) started.cfg)
        (fun error t => EndedBy fault (options i) i t.calls error) outcome s)
      (moved : (others i).may s t) :
      ending (fun started t => (options i).Valid ∧
          GroupAt (options i) started.fsGroupUid t.state ∧
          Configures runtime (options i) started.cfg)
        (fun error t => EndedBy fault (options i) i t.calls error) outcome t := by
    cases outcome with
    | ok started => exact ⟨ended.1, moved.grow _ _ ended.2.1, ended.2.2⟩
    | error error => exact ended.lasts moved
  have apart (i j : ι) (different : j ≠ i) (s : StartsWorld ι) (call : SetupCall)
      (answer : Except Error call.Res) (t : StartsWorld ι)
      (_ : recording (setupService fault) i s call answer t)
      (starts : Starts (options i) i s call t) : (others j).may s t := starts.others different
  have fares := reached.amid (fun i => amid_start) lasting apart
  have kept {safe : StartsWorld ι → Prop} (initial : safe ⟨groups, []⟩)
      (kept : ∀ i s call t, safe s → Starts (options i) i s call t → safe t) : safe pool.state :=
    reached.invariant (fun i => amid_start) lasting apart initial kept
  refine ⟨fun i started ended => ?_, fun i error failed => ?_, fun name group found => ?_, ?_⟩
  · have fares := fares i
    rw [ended] at fares
    exact fares
  · have fares := fares i
    rw [failed] at fares
    exact fares
  · have initial : (⟨groups, []⟩ : StartsWorld ι).state.find? name = some group := found
    exact kept initial fun i s call t before starts => starts.grow name group before
  · have initial : NamedBy options groups (⟨groups, []⟩ : StartsWorld ι).state :=
      fun _ _ found => Or.inl found
    exact kept initial fun i s call t before starts => starts.named before

end Starts

section Sample

/-- Options that pass every check. -/
def sampleOptions : Options where
  apiServer := some "weka"
  username := some "admin"
  password := some "secret"
  shareNamePrefix := "manila_"
  filesystemGroup := "default"
  mountPointBase := "/mnt/weka"
  nfsServer := none
  numCores := 1
  netDevice := none
  orgPrefix := "manila-"
  orgUser := "manila"
  orgAdminSecret := some "key"
  authTokenDir := "/var/lib/manila/weka-tokens"
  securityPolicyGroup := none

def sampleRuntime : Runtime := ⟨fun _ text => text, id, List.Perm.refl⟩

/-- Two drivers start at once and both miss their group. The one that makes it starts; the other is
told that it exists, and fails. -/
theorem starts_agree_sample :
    ∃ pool : Pool SetupCall SetupCall.Res Error (StartsWorld Bool) (fun _ => Started),
      Interleaves (recording (setupService Program.noFaults))
        ⟨fun _ => start sampleRuntime sampleOptions, ⟨.empty, []⟩⟩ pool ∧
      (∃ started, pool.threads true = .ret started ∧
        pool.state.state.find? "default" = some ⟨started.fsGroupUid, ⟨"default"⟩⟩) ∧
      pool.threads false = .fail groupExists ∧
      EndedBy Program.noFaults sampleOptions false pool.state.calls groupExists := by
  have run : Interleaves (recording (setupService Program.noFaults))
    ⟨fun _ : Bool => start sampleRuntime sampleOptions, ⟨.empty, []⟩⟩ _ := .start
  have run := run.record (i := true) rfl (Or.inl rfl)
  have run := run.record (i := false) rfl (Or.inl rfl)
  have run := run.record (i := true) rfl (Or.inl rfl)
  have run := run.record (i := false) rfl (Or.inl rfl)
  have run := run.record (i := true) rfl (Or.inl rfl)
  have run := run.record (i := false) rfl (Or.inl rfl)
  have run := run.record (i := true) rfl (Or.inl rfl)
  have run := run.record (i := false) rfl (Or.inl rfl)
  have run := run.record (i := true) rfl (Or.inl rfl)
  have run := run.record (i := true) rfl (Or.inl rfl)
  have agree := starts_agree Program.noFaults sampleRuntime (fun _ => sampleOptions) .empty run
  exact ⟨_, run, ⟨_, rfl, (agree.1 true _ rfl).2.1⟩, rfl, agree.2.1 false _ rfl⟩

end Sample

end WekaShareDriver
