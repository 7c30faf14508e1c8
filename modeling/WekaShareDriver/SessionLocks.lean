import WekaShareDriver.SetupUses
import WekaShareDriver.SessionSpec
import WekaShareDriver.Access.Runs
import WekaShareDriver.Foundation.Locks
import WekaShareDriver.Foundation.Translate

/-! # Opening sessions under a lock

The threads of the driver ask for the sessions of projects at any time, all through one cache and
under one lock (`WekaShareDriver.OrgJob.program`). Whoever holds the lock finds every login that
was ever granted in the cache, each for a project of its own
(`WekaShareDriver.sessionDiscipline`); it logs in only for a project that is not there and stores
the session before it gives the lock back.

Hence in every interleaving each project is logged in once, however often and from however many
threads its session is asked for, and all get the same one
(`WekaShareDriver.logged_in_once`).
-/

namespace WekaShareDriver

open Foundation Program

/-- The world, and the logins that were granted so far. -/
structure SessionState where
  world : World
  logins : List (String × String × String)

/-- The login that an answer grants. -/
def grantedLogins : (op : Op) → Except Error op.Res → List (String × String × String)
  | .login org username password, .ok _ => [(org, username, password)]
  | _, _ => []

/-- The world as a service, with its logins on record. -/
def recorded (fault : Fault) : Service Op Op.Res Error SessionState := fun s op answer t =>
  service fault s.world op answer t.world ∧ t.logins = s.logins ++ grantedLogins op answer

/-- Get the project's session from the cache, or open it and put it there. -/
def cachedSession (cfg : Config) (projectId : Option String) : Driver Session := do
  match ← onHost (.orgClientGet (projectId.getD "")) with
  | some session => return session
  | none =>
      ensureOrg cfg projectId
      let session ← login (cfg.orgName projectId) cfg.orgUser (cfg.orgPassword projectId)
      onHost (.orgClientPut (projectId.getD "") session)
      return session

/-- A program of a thread that takes the lock of the sessions. -/
abbrev SessionThread (α : Type) : Type := Program (LockOp Unit Op) (LockOp.Res Op.Res) Error α

/-- The cached session of a project, looked up and opened under the lock. -/
def orgClientLocked (cfg : Config) (projectId : Option String) : SessionThread Session := do
  if hasProject projectId = false then
    throw (.org "share has no project_id; cannot map it to a per-tenant Weka organization")
  else
    withLock () ((cachedSession cfg projectId).lockless Unit)

/-- Alone, a thread does without the lock. -/
theorem orgClientLocked_unlocked (cfg : Config) (projectId : Option String) :
    (orgClientLocked cfg projectId).unlocked = orgClient cfg projectId := by
  unfold orgClientLocked orgClient
  split
  · rfl
  · rw [unlocked_withLock, unlocked_lockless]
    rfl

/-- What a thread of the driver does: ask for the session of a project, or anything else. -/
inductive OrgJob where
  | client (projectId : Option String)
  | other (op : Op)

@[reducible] def OrgJob.Res : OrgJob → Type
  | .client _ => Session
  | .other op => op.Res

/-- Carry a job out. -/
def OrgJob.program (cfg : Config) : (job : OrgJob) → SessionThread job.Res
  | .client projectId => orgClientLocked cfg projectId
  | .other op => (perform op).lockless Unit

/-- The operations that open sessions and store them. -/
def OpensSession : Op → Prop
  | .login .. => True
  | .host (.orgClientPut ..) => True
  | _ => False

/-- Sessions are opened and stored where they are asked for, and nowhere else. -/
def OrgJob.Plain : OrgJob → Prop
  | .client _ => True
  | .other op => ¬ OpensSession op

/-! ## What the lock guards -/

/-- What a project logs in with. -/
def credentials (cfg : Config) (projectId : String) : String × String × String :=
  (cfg.orgName (some projectId), cfg.orgUser, cfg.orgPassword (some projectId))

/-- The projects whose sessions are cached. -/
def cachedProjects (s : SessionState) : List String := s.world.host.orgClients.map Prod.fst

/-- Each login was granted for a project of its own, and all their sessions are cached but those
of the given projects. -/
structure LoggedIn (cfg : Config) (pending : List String) (s : SessionState) : Prop where
  logins : s.logins = (cachedProjects s ++ pending).map (credentials cfg)
  once : (cachedProjects s ++ pending).Nodup
  own : ∀ entry ∈ s.world.host.orgClients, entry.2 = projectSession cfg (some entry.1)

private theorem LoggedIn.of_same {cfg : Config} {pending : List String} {s t : SessionState}
    (holds : LoggedIn cfg pending s)
    (cache : t.world.host.orgClients = s.world.host.orgClients) (logins : t.logins = s.logins) :
    LoggedIn cfg pending t where
  logins := by rw [logins, holds.logins, cachedProjects, cachedProjects, cache]
  once := by
    rw [cachedProjects, cache]
    exact holds.once
  own := by
    rw [cache]
    exact holds.own

/-- Sessions stay in the cache. -/
def SessionsKept (s t : SessionState) : Prop :=
  ∀ projectId session, s.world.host.orgClients.get? projectId = some session →
    t.world.host.orgClients.get? projectId = some session

/-- At most one session is opened that is not stored yet. -/
def NearlyStored (cfg : Config) (s : SessionState) : Prop :=
  ∃ pending, pending.length ≤ 1 ∧ LoggedIn cfg pending s

/-- The lock guards the cache and the logins. -/
def sessionDiscipline (cfg : Config) : Discipline Unit SessionState where
  same _ s t := t.world.host.orgClients = s.world.host.orgClients ∧ t.logins = s.logins
  invariant _ s := LoggedIn cfg [] s
  evolves :=
    { may := fun s t => SessionsKept s t ∧ (NearlyStored cfg s → NearlyStored cfg t)
      refl := fun _ => ⟨fun _ _ => id, id⟩
      trans := fun _ _ _ first second =>
        ⟨fun project session found => second.1 project session (first.1 project session found),
          second.2 ∘ first.2⟩ }
  same_refl _ _ := ⟨rfl, rfl⟩
  same_trans _ _ _ _ first second := ⟨second.1.trans first.1, second.2.trans first.2⟩
  kept _ _ _ holds same := holds.of_same same.1 same.2

section Session

variable {cfg : Config} {fault : Fault} {projectId : Option String} {s t : SessionState}

private theorem ensureOrg_opens_none (projectId : Option String) :
    (ensureOrg cfg projectId).Uses fun op => ¬ OpensSession op := by
  refine .bind (.bind (uses_perform not_false) fun _ => trivial) fun found => ?_
  cases found with
  | some org => trivial
  | none =>
      refine .tryCatch (.bind (uses_perform not_false) fun _ => trivial) fun error => ?_
      cases error with
      | api error => exact .ite (fun _ => trivial) fun _ => trivial
      | _ => trivial

/-- Whatever opens no session leaves the cache and the logins as they are. -/
theorem same_of_not_opens {op : Op} {answer : Except Error op.Res} (other : ¬ OpensSession op)
    (answered : recorded fault s op answer t) :
    t.world.host.orgClients = s.world.host.orgClients ∧ t.logins = s.logins := by
  obtain ⟨answered, logins⟩ := answered
  have none : grantedLogins op answer = [] := by
    cases op with
    | login org username password => exact absurd trivial other
    | _ => rfl
  rw [none, List.append_nil] at logins
  refine ⟨?_, logins⟩
  rcases answered_world answered with same | same
  · rw [same]
    cases op with
    | api session request => rfl
    | login org username password => rfl
    | host call =>
        cases call with
        | orgClientPut projectId session => exact absurd trivial other
        | shareTypeExtraSpecs typeId | umount path force | rmdir path =>
            simp only [respond, Host.answer]
            split <;> rfl
        | _ => rfl
  · rw [same]

/-- An operation that opens no session touches nothing the lock guards. -/
theorem touches_of_same {held : Unit → Prop} {op : Op}
    (same : t.world.host.orgClients = s.world.host.orgClients ∧ t.logins = s.logins) :
    (sessionDiscipline cfg).touches held s op t := by
  refine ⟨fun _ _ => same, fun project session found => ?_, fun near => ?_⟩
  · rw [same.1]
    exact found
  · obtain ⟨pending, few, holds⟩ := near
    exact ⟨pending, few, holds.of_same same.1 same.2⟩

/-- What is known of the cache and the logins under the lock. -/
theorem amid_not_opening {α : Type} {program : Driver α}
    (uses : program.Uses fun op => ¬ OpensSession op) {known : SessionState → Prop}
    (lasting : ∀ s t : SessionState, known s → t.world.host.orgClients = s.world.host.orgClients →
      t.logins = s.logins → known t) (holds : known s) :
    program.amid (recorded fault) ((sessionDiscipline cfg).inside (· = ()))
      ((sessionDiscipline cfg).touches (· = ())) (ending (fun _ => known) fun _ => known) s := by
  refine amid_of_uses uses (fun s t holds moved => ?_) (fun s op answer t other holds answered => ?_)
    holds
  · obtain ⟨cache, logins⟩ := moved.1 () rfl
    exact lasting s t holds cache logins
  · have same := same_of_not_opens other answered
    exact ⟨touches_of_same same, lasting s t holds same.1 same.2⟩

/-- A login is granted in the organization asked for and recorded, or refused. -/
theorem login_recorded {org username password : String} {answer : Except Error Session}
    (answered : recorded fault s (.login org username password) answer t) :
    t.world = s.world ∧
      (answer = .ok (.org org) ∧ t.logins = s.logins ++ [(org, username, password)] ∨
        (∃ error, answer = .error error) ∧ t.logins = s.logins) := by
  obtain ⟨answered, logins⟩ := answered
  have refused {error : Error} (same : answer = .error error) : t.logins = s.logins := by
    rw [logins, same]
    exact List.append_nil _
  rcases answered with answered | ⟨error, _, same, kept⟩
  · have reply : asRaised (s.world.cluster.login org username password) = answer :=
      congrArg Prod.fst answered
    refine ⟨(congrArg Prod.snd answered).symm, ?_⟩
    unfold Cluster.login at reply
    split at reply
    · split at reply
      · cases reply
        exact Or.inl ⟨rfl, logins⟩
      · exact Or.inr ⟨⟨_, reply.symm⟩, refused reply.symm⟩
    · exact Or.inr ⟨⟨_, reply.symm⟩, refused reply.symm⟩
  · exact ⟨kept, Or.inr ⟨⟨error, same⟩, refused same⟩⟩

/-- A login for a project whose session is not cached yet. -/
theorem LoggedIn.pending {key : String} (holds : LoggedIn cfg [] s)
    (absent : s.world.host.orgClients.get? key = none) (world : t.world = s.world)
    (logins : t.logins = s.logins ++ [credentials cfg key]) : LoggedIn cfg [key] t := by
  have projects : cachedProjects t = cachedProjects s := by rw [cachedProjects, world, cachedProjects]
  have once := holds.once
  rw [List.append_nil] at once
  refine ⟨?_, ?_, ?_⟩
  · rw [logins, holds.logins, projects, List.append_nil, List.map_append]
    rfl
  · rw [projects]
    refine once.append (List.nodup_singleton key) ?_
    rw [List.disjoint_singleton]
    exact Dict.not_mem_keys_of_get?_none absent
  · rw [world]
    exact holds.own

/-- Storing the session that was opened last. -/
theorem LoggedIn.stored {key : String} (holds : LoggedIn cfg [key] s)
    (absent : s.world.host.orgClients.get? key = none)
    (cache : t.world.host.orgClients =
      s.world.host.orgClients.assign key (projectSession cfg (some key)))
    (logins : t.logins = s.logins) : LoggedIn cfg [] t := by
  rw [Dict.assign_of_get?_none absent] at cache
  have projects : cachedProjects t = cachedProjects s ++ [key] := by
    rw [cachedProjects, cache, List.map_append]
    rfl
  refine ⟨?_, ?_, fun entry member => ?_⟩
  · rw [logins, holds.logins, projects, List.append_nil]
  · rw [projects, List.append_nil]
    exact holds.once
  · rw [cache] at member
    rcases List.mem_append.mp member with before | new
    · exact holds.own entry before
    · rw [List.mem_singleton.mp new]

/-- Under the lock the session of a project is found or opened. -/
theorem amid_cachedSession (unfailing : ∀ w call error, call.local = true →
      ¬ fault w (.host call) error) (project : hasProject projectId = true)
    (holds : LoggedIn cfg [] s) :
    (cachedSession cfg projectId).amid (recorded fault) ((sessionDiscipline cfg).inside (· = ()))
      ((sessionDiscipline cfg).touches (· = ()))
      (ending (fun session t => LoggedIn cfg [] t ∧
          t.world.host.orgClients.get? (projectId.getD "") = some session)
        fun _ t => LoggedIn cfg [] t ∧ True) s := by
  obtain ⟨key, rfl⟩ : ∃ key, projectId = some key := by
    cases projectId with
    | none => cases project
    | some key => exact ⟨key, rfl⟩
  have lasts {found : Option Session} (u v : SessionState)
      (known : LoggedIn cfg [] u ∧ u.world.host.orgClients.get? key = found)
      (cache : v.world.host.orgClients = u.world.host.orgClients) (logins : v.logins = u.logins) :
      LoggedIn cfg [] v ∧ v.world.host.orgClients.get? key = found := by
    refine ⟨known.1.of_same cache logins, ?_⟩
    rw [cache]
    exact known.2
  unfold cachedSession
  refine amid_bind_of (fun found t => LoggedIn cfg [] t ∧
    t.world.host.orgClients.get? key = found) ?_ fun found t looked => ?_
  · rw [onHost, amid_perform]
    intro u answer v moved answered
    obtain ⟨cache, logins⟩ := moved.1 () rfl
    have known := lasts s u ⟨holds, rfl⟩ cache logins
    have other : ¬ OpensSession (.host (.orgClientGet key)) := not_false
    have same := same_of_not_opens other answered
    refine ⟨touches_of_same same, ?_⟩
    rcases answered.1 with answered | ⟨error, failed, _⟩
    · have reply := congrArg Prod.fst answered
      cases reply
      exact lasts u v ⟨known.1, rfl⟩ same.1 same.2
    · exact absurd failed (unfailing _ _ _ rfl)
  cases found with
  | some session => exact looked
  | none =>
      refine amid_bind_of (fun _ u => LoggedIn cfg [] u ∧
        u.world.host.orgClients.get? key = none) ?_ fun _ u opened => ?_
      · refine amid_weaken (amid_not_opening (ensureOrg_opens_none _) lasts looked)
          (fun _ _ known => known) fun _ _ known => ⟨known.1, trivial⟩
      refine amid_bind_of (fun session v => LoggedIn cfg [key] v ∧
        v.world.host.orgClients.get? key = none ∧ session = projectSession cfg (some key)) ?_
        fun session v logged => ?_
      · rw [login, amid_perform]
        intro v answer x moved answered
        obtain ⟨cache, logins⟩ := moved.1 () rfl
        obtain ⟨known, absent⟩ := lasts u v opened cache logins
        obtain ⟨world, granted⟩ := login_recorded answered
        have kept : SessionsKept v x := fun project session found => by
          rw [world]
          exact found
        rcases granted with ⟨rfl, logins⟩ | ⟨⟨error, rfl⟩, logins⟩
        · have logged := known.pending absent world logins
          refine ⟨⟨fun _ free => absurd rfl free, kept, fun _ => ⟨[key], Nat.le_refl 1, logged⟩⟩,
            logged, ?_, rfl⟩
          rw [world]
          exact absent
        · have same := known.of_same (congrArg (fun w : World => w.host.orgClients) world) logins
          exact ⟨⟨fun _ free => absurd rfl free, kept, fun _ => ⟨[], Nat.zero_le 1, same⟩⟩, same,
            trivial⟩
      · obtain ⟨logged, absent, rfl⟩ := logged
        refine amid_bind_of (fun _ w => LoggedIn cfg [] w ∧
          w.world.host.orgClients.get? key = some (projectSession cfg (some key))) ?_
          fun _ _ stored => stored
        rw [onHost, amid_perform]
        intro u answer w moved answered
        obtain ⟨cache, logins⟩ := moved.1 () rfl
        have logged := logged.of_same cache logins
        rw [← cache] at absent
        obtain ⟨answered, recorded⟩ := answered
        rcases answered with answered | ⟨error, failed, _⟩
        · have reply := congrArg Prod.fst answered
          have cache : w.world.host.orgClients =
              u.world.host.orgClients.assign key (projectSession cfg (some key)) :=
            congrArg (fun outcome => outcome.2.host.orgClients) answered.symm
          have stored := logged.stored absent cache (recorded.trans (List.append_nil _))
          cases reply
          refine ⟨⟨fun _ free => absurd rfl free, fun project session found => ?_,
            fun _ => ⟨[], Nat.zero_le 1, stored⟩⟩, stored, ?_⟩
          · have different : project ≠ key := by
              rintro rfl
              rw [absent] at found
              cases found
            rw [cache, Dict.get?_assign_of_ne _ _ different]
            exact found
          · rw [cache, Dict.get?_assign_self]
        · exact absurd failed (unfailing _ _ _ rfl)

end Session

/-! ## Threads -/

/-- Whoever got a project's session got the one in the cache. -/
def Served : (job : OrgJob) → Except Error job.Res → SessionState → Prop
  | .client projectId, .ok session, s =>
      s.world.host.orgClients.get? (projectId.getD "") = some session
  | _, _, _ => True

section Threads

variable {cfg : Config} {fault : Fault} {ι : Type}

/-- A job leaves its thread without the lock. -/
theorem amid_orgJob (unfailing : ∀ w call error, call.local = true → ¬ fault w (.host call) error)
    {thread : ι} {job : OrgJob} (plain : job.Plain) {s : Locked Unit ι SessionState}
    (idle : (sessionDiscipline cfg).Idle thread (fun _ => True) s) :
    (job.program cfg).amid (LockAnswers (recorded fault) thread) ((sessionDiscipline cfg).rely thread)
      ((sessionDiscipline cfg).respecting thread)
      (fun outcome => (sessionDiscipline cfg).Idle thread (Served job outcome)) s := by
  cases job with
  | client projectId =>
      change (orgClientLocked cfg projectId).amid _ _ _ _ _
      unfold orgClientLocked
      cases project : hasProject projectId with
      | false => exact ⟨idle.owns, idle.free, trivial⟩
      | true =>
          rw [if_neg (Ne.symm Bool.false_ne_true)]
          refine amid_consequence (amid_withLock (fun _ _ _ _ => trivial)
            (fun session u v found moved => moved.1 _ session found) (fun _ _ _ _ _ => trivial)
            (fun u _ holds => amid_cachedSession unfailing project holds) idle) fun outcome t ended => ?_
          cases outcome <;> exact ended
  | other op =>
      have stands : (perform op : Driver op.Res).amid (recorded fault)
          ((sessionDiscipline cfg).inside fun _ => False)
          ((sessionDiscipline cfg).touches fun _ => False) (fun _ _ => True) s.shared := by
        rw [amid_perform]
        intro t answer u moved answered
        exact ⟨touches_of_same (same_of_not_opens plain answered), trivial⟩
      exact amid_free stands idle

/-- The threads of the driver, each with its own jobs to do. -/
def sessionThreads (cfg : Config) (jobs : ι → Program OrgJob OrgJob.Res Error Session)
    (start : SessionState) :
    Pool (LockOp Unit Op) (LockOp.Res Op.Res) Error (Locked Unit ι SessionState)
      (fun _ : ι => Session) :=
  ⟨fun i => (jobs i).translate (OrgJob.program cfg), .unowned start⟩

variable [DecidableEq ι] {jobs : ι → Program OrgJob OrgJob.Res Error Session} {start : SessionState}
  {pool : Pool (LockOp Unit Op) (LockOp.Res Op.Res) Error (Locked Unit ι SessionState)
    (fun _ : ι => Session)}

/-- However many threads ask for sessions, and whatever fails, every login was granted for a
project of its own and all sessions but at most one are cached, all of them while the lock is
free; a thread that asked for a project's session has the one in the cache. -/
theorem logged_in_once
    (unfailing : ∀ w call error, call.local = true → ¬ fault w (.host call) error)
    (plain : ∀ i, (jobs i).Uses OrgJob.Plain) (uncached : start.world.host.orgClients = [])
    (unlogged : start.logins = [])
    (reached : Interleaves (LockAnswers (recorded fault)) (sessionThreads cfg jobs start) pool) :
    (∃ pending, pending.length ≤ 1 ∧ LoggedIn cfg pending pool.state.shared) ∧
      (pool.state.owner () = none → LoggedIn cfg [] pool.state.shared) ∧
      ∀ i projectId session, jobs i = perform (OrgJob.client projectId) →
        pool.threads i = .ret session →
          pool.state.shared.world.host.orgClients.get? (projectId.getD "") = some session := by
  have initial : LoggedIn cfg [] start := by
    refine ⟨?_, ?_, ?_⟩
    · rw [unlogged, cachedProjects, uncached]
      rfl
    · rw [cachedProjects, uncached]
      exact List.nodup_nil
    · rw [uncached]
      exact fun entry member => absurd member List.not_mem_nil
  have idle (i : ι) : (sessionDiscipline cfg).Idle i (fun _ => True)
      (sessionThreads cfg jobs start).state :=
    Discipline.idle_unowned (fun _ => initial) trivial
  have holds (i : ι) : ((sessionThreads cfg jobs start).threads i).amid
      (LockAnswers (recorded fault) i) ((sessionDiscipline cfg).rely i)
      ((sessionDiscipline cfg).respecting i)
      (fun outcome => (sessionDiscipline cfg).Idle i fun s =>
        ∀ projectId session, jobs i = perform (OrgJob.client projectId) → outcome = .ok session →
          s.world.host.orgClients.get? (projectId.getD "") = some session)
      (sessionThreads cfg jobs start).state := by
    by_cases asks : ∃ projectId, jobs i = perform (OrgJob.client projectId)
    · obtain ⟨projectId, asked⟩ := asks
      change ((jobs i).translate (OrgJob.program cfg)).amid _ _ _ _ _
      rw [asked, translate_perform]
      have plain : (OrgJob.client projectId).Plain := trivial
      refine amid_consequence (amid_orgJob unfailing plain (idle i)) fun outcome t ended => ?_
      refine ⟨ended.owns, ended.free, fun other session same answered => ?_⟩
      rw [answered] at ended
      cases same
      exact ended.known
    · refine amid_consequence (amid_translate (plain i) (fun job plain s idle =>
        amid_consequence (amid_orgJob unfailing plain idle) fun _ _ ended =>
          ⟨ended.owns, ended.free, trivial⟩) (idle i)) fun outcome t ended => ?_
      exact ⟨ended.owns, ended.free, fun projectId _ asked _ => absurd ⟨projectId, asked⟩ asks⟩
  have lasting (i : ι) (outcome : Except Error Session) (u v : SessionState)
      (cached : ∀ projectId session, jobs i = perform (OrgJob.client projectId) →
        outcome = .ok session → u.world.host.orgClients.get? (projectId.getD "") = some session)
      (moved : (sessionDiscipline cfg).evolves.may u v) (projectId : Option String)
      (session : Session) (asked : jobs i = perform (OrgJob.client projectId))
      (answered : outcome = .ok session) :
      v.world.host.orgClients.get? (projectId.getD "") = some session :=
    moved.1 _ _ (cached projectId session asked answered)
  refine ⟨?_, ?_, fun i projectId session asked ended => ?_⟩
  · exact Discipline.safe_of_interleaves reached holds lasting ⟨[], Nat.zero_le 1, initial⟩
      fun u v near moved => moved.2 near
  · exact Discipline.free_of_interleaves reached holds lasting (fun _ _ => initial) ()
  · have stands := Discipline.amid_of_interleaves reached holds lasting i
    rw [ended] at stands
    exact stands.known projectId session asked rfl

end Threads

section Sample

private theorem recorded_respond (s : SessionState) (op : Op) :
    recorded noFaults s op (respond op s.world).1
      ⟨(respond op s.world).2, s.logins ++ grantedLogins op (respond op s.world).1⟩ :=
  ⟨Or.inl rfl, rfl⟩

/-- A driver that has just started. -/
def startedSessions : SessionState := ⟨⟨Cluster.empty, Host.empty⟩, []⟩

/-- Two threads ask for the session of one project. The first opens it, the second gets it from
the cache. -/
theorem logged_in_once_sample :
    ∃ pool, Interleaves (LockAnswers (recorded noFaults))
        (sessionThreads sampleConfig (fun _ : Bool => perform (OrgJob.client (some "p1")))
          startedSessions) pool ∧
      pool.threads false = .ret (projectSession sampleConfig (some "p1")) ∧
      pool.state.shared.logins = [credentials sampleConfig "p1"] ∧
      (∃ pending, pending.length ≤ 1 ∧ LoggedIn sampleConfig pending pool.state.shared) := by
  have unfailing : ∀ w call error, HostCall.local call = true →
      ¬ (noFaults : Fault) w (.host call) error := fun _ _ _ _ => not_false
  have plain (i : Bool) : (perform (OrgJob.client (some "p1")) :
      Program OrgJob OrgJob.Res Error Session).Uses OrgJob.Plain := uses_perform trivial
  have run : Interleaves (LockAnswers (recorded noFaults))
    (sessionThreads sampleConfig (fun _ : Bool => perform (OrgJob.client (some "p1")))
      startedSessions) _ := .start
  have run := run.step (i := true) rfl (.acquire rfl)
  have run := run.step (i := true) rfl (.call (recorded_respond _ _))
  have run := run.step (i := true) rfl (.call (recorded_respond _ _))
  have run := run.step (i := true) rfl (.call (recorded_respond _ _))
  have run := run.step (i := true) rfl (.call (recorded_respond _ _))
  have run := run.step (i := true) rfl (.call (recorded_respond _ _))
  have run := run.step (i := true) rfl .release
  have run := run.step (i := false) rfl (.acquire rfl)
  have run := run.step (i := false) rfl (.call (recorded_respond _ _))
  have run := run.step (i := false) rfl .release
  exact ⟨_, run, rfl, rfl, (logged_in_once unfailing plain rfl rfl run).1⟩

end Sample

end WekaShareDriver
