import WekaShareDriver.Access.Runs
import WekaShareDriver.SessionSpec
import WekaShareDriver.TenantUses

/-! # Tenants and their organizations

The name of an organization does not determine the project it was created for:
only its password does. A cached session therefore belongs to a project if the
organization was created with the project's own credentials
(`WekaShareDriver.Owned`), and every operation keeps all cached sessions so
(`WekaShareDriver.Isolated`), because a login with another project's password
fails.
-/

namespace WekaShareDriver

open Foundation Program

/-- The organization of a project's name was created with the project's
credentials. -/
def Owned (cfg : Config) (projectId : Option String) (w : World) : Prop :=
  ∃ org, w.cluster.organizations.find? (cfg.orgName projectId) = some org ∧
    org.val.username = cfg.orgUser ∧ org.val.password = cfg.orgPassword projectId

/-- Every cached session is one of the project's own organization. -/
def Isolated (cfg : Config) (projects : String → Prop) (w : World) : Prop :=
  ∀ p session, w.host.orgClients.get? p = some session →
    projects p ∧ session = projectSession cfg (some p) ∧ Owned cfg (some p) w

/-- The operations made for a share. A WEKAFS share is served by the organization
of its project only, another by the administrator's session only. -/
inductive TenantCall (cfg : Config) (share : Share) (u : World) : Op → Prop where
  | host (call : HostCall) : TenantCall cfg share u (.host call)
  | listOrganizations : TenantCall cfg share u (.api .admin .listOrganizations)
  | createOrganization (wekafs : share.shareProto = .wekafs)
      (project : hasProject share.projectId = true) :
      TenantCall cfg share u (.api .admin (.createOrganization (cfg.orgName share.projectId)
        cfg.orgUser (cfg.orgPassword share.projectId)))
  | login (wekafs : share.shareProto = .wekafs) (project : hasProject share.projectId = true) :
      TenantCall cfg share u (.login (cfg.orgName share.projectId) cfg.orgUser
        (cfg.orgPassword share.projectId))
  | admin {request : Request} (other : share.shareProto ≠ .wekafs)
      (on : request.onSession .admin = true) : TenantCall cfg share u (.api .admin request)
  | tenant {request : Request} (wekafs : share.shareProto = .wekafs)
      (project : hasProject share.projectId = true) (owned : Owned cfg share.projectId u)
      (on : request.onSession (projectSession cfg share.projectId) = true) :
      TenantCall cfg share u (.api (projectSession cfg share.projectId) request)

variable {cfg : Config} {projects : String → Prop} {share : Share} {fault : Fault}
  {projectId : Option String} {w t : World}

/-! ## Organizations stay -/

/-- An organization is never changed or deleted. -/
theorem answer_organizations {cluster : Cluster} {session : Session} {request : Request}
    {name : String} {org : Entry Organization}
    (found : cluster.organizations.find? name = some org) :
    (cluster.answer session request).2.organizations.find? name = some org := by
  cases request with
  | createOrganization name' username password =>
      simp only [Cluster.answer, Cluster.create]
      cases taken : cluster.organizations.find?
          (Keyed.key (⟨name', username, password⟩ : Organization)) with
      | some other => exact found
      | none =>
          have apart : name ≠ Keyed.key (⟨name', username, password⟩ : Organization) := by
            intro same
            rw [same, taken] at found
            cases found
          dsimp only
          rw [Registry.find?_insert _ _ taken, Function.update_of_ne apart]
          exact found
  | _ =>
      simp only [Cluster.answer]
      repeat' split
      all_goals exact found

/-- No call takes a project's organization from it. -/
theorem Owned.kept (owned : Owned cfg projectId w) {op : Op} {answer : Except Error op.Res}
    (answered : service fault w op answer t) : Owned cfg projectId t := by
  obtain ⟨org, found, credentials⟩ := owned
  rcases answered_world answered with rfl | rfl
  · cases op with
    | api session request => exact ⟨org, answer_organizations found, credentials⟩
    | _ => exact ⟨org, found, credentials⟩
  · exact ⟨org, found, credentials⟩

/-- Whatever does not cache a session keeps the cached ones. -/
theorem Isolated.kept (isolated : Isolated cfg projects w) {op : Op} {answer : Except Error op.Res}
    (puts : ∀ p session, op ≠ .host (.orgClientPut p session))
    (answered : service fault w op answer t) : Isolated cfg projects t := by
  have same : t.host.orgClients = w.host.orgClients := by
    cases op with
    | host call =>
        have host : HostOp (.host call) := by
          cases call with
          | orgClientPut p session => exact absurd rfl (puts p session)
          | _ => trivial
        exact (host.kept answered).2
    | _ =>
        rcases answered_world answered with rfl | rfl
        · rfl
        · rfl
  intro p session cached
  rw [same] at cached
  obtain ⟨known, own, owned⟩ := isolated p session cached
  exact ⟨known, own, owned.kept answered⟩

/-- Two projects whose credentials differ do not own one organization. -/
theorem Owned.exclusive {other : Option String} (owned : Owned cfg projectId w)
    (owned' : Owned cfg other w) (same : cfg.orgName projectId = cfg.orgName other) :
    cfg.orgPassword projectId = cfg.orgPassword other := by
  obtain ⟨org, found, _, password⟩ := owned
  obtain ⟨org', found', _, password'⟩ := owned'
  rw [← same, found, Option.some.injEq] at found'
  subst found'
  exact password.symm.trans password'

/-! ## Opening a session -/

/-- A login with a project's credentials succeeds in its own organization only. -/
theorem owned_of_login {org username password : String} {session : Session}
    (granted : w.cluster.login org username password = .ok session) :
    session = .org org ∧ ∃ entry, w.cluster.organizations.find? org = some entry ∧
      entry.val.username = username ∧ entry.val.password = password := by
  unfold Cluster.login at granted
  split at granted
  · next entry found =>
      split at granted
      · next credentials => exact ⟨(Except.ok.inj granted).symm, entry, found, credentials⟩
      · cases granted
  · cases granted

section Session

variable (wekafs : share.shareProto = .wekafs) (project : hasProject share.projectId = true)
include wekafs project

private theorem obeys_ensureOrg :
    Obeys (service fault) (Isolated cfg projects) (fun u op _ => TenantCall cfg share u op)
      (ensureOrg cfg share.projectId) := by
  have step {request : Request} (call : ∀ u, TenantCall cfg share u (.api .admin request)) :
      Obeys (service fault) (Isolated cfg projects) (fun u op _ => TenantCall cfg share u op)
        (send .admin request) := by
    have uses : (send .admin request).Uses fun op => op = .api .admin request := uses_perform rfl
    apply Obeys.of_uses uses
    rintro s op answer t rfl isolated answered
    exact ⟨call s, isolated.kept (fun _ _ => Op.noConfusion) answered⟩
  refine .bind (.bind (step fun _ => .listOrganizations) fun _ => .pure _) fun found => ?_
  cases found with
  | some org => exact .pure _
  | none =>
      refine .tryCatch (.bind (step fun _ => .createOrganization wekafs project) fun _ => .pure _)
        fun error => ?_
      cases error with
      | api error => exact .ite (fun _ => .pure _) fun _ => .throw _
      | _ => exact .throw _

/-- The session of a project is opened in the organization the project owns. -/
theorem wp_orgClient_isolated (known : projects (share.projectId.getD ""))
    (isolated : Isolated cfg projects w) :
    (orgClient cfg share.projectId).wp (service fault)
      (fun u op v => TenantCall cfg share u op ∧ Isolated cfg projects v)
      (ending
        (fun session t => Isolated cfg projects t ∧
          session = projectSession cfg share.projectId ∧ Owned cfg share.projectId t)
        (fun _ t => Isolated cfg projects t)) w := by
  unfold orgClient
  simp only [project, Bool.true_eq_false, ↓reduceIte]
  rw [wp_bind, onOk_ending, wp_onHost]
  refine ⟨⟨⟨.host _, isolated⟩, ?_⟩, fun _ _ => ⟨⟨.host _, isolated⟩, isolated⟩⟩
  simp only [Host.answer, ending_ok]
  cases cached : w.host.orgClients.get? (share.projectId.getD "") with
  | some session => exact ⟨isolated, (isolated _ session cached).2⟩
  | none =>
      refine wp_bind_of _ (obeys_ensureOrg wekafs project w isolated) fun _ t isolated' => ?_
      rw [wp_bind, onOk_ending, login, wp_perform_withFaults]
      have log : TenantCall cfg share t (.login (cfg.orgName share.projectId) cfg.orgUser
        (cfg.orgPassword share.projectId)) := .login wekafs project
      refine ⟨⟨⟨log, isolated'⟩, ?_⟩, fun _ _ => ⟨⟨log, isolated'⟩, isolated'⟩⟩
      change ending _ _ (asRaised (t.cluster.login (cfg.orgName share.projectId) cfg.orgUser
        (cfg.orgPassword share.projectId))) t
      cases granted : t.cluster.login (cfg.orgName share.projectId) cfg.orgUser
          (cfg.orgPassword share.projectId) with
      | error error => exact isolated'
      | ok session =>
          obtain ⟨rfl, owned⟩ := owned_of_login granted
          have put : Isolated cfg projects { t with host := { t.host with
              orgClients := t.host.orgClients.assign (share.projectId.getD "")
                (projectSession cfg share.projectId) } } := by
            intro p session cached'
            change (t.host.orgClients.assign _ _).get? p = some session at cached'
            rw [Dict.get?_assign] at cached'
            split at cached'
            · next same =>
                subst same
                exact ⟨known, (Option.some.inj cached').symm, owned⟩
            · exact isolated' p session cached'
          rw [asRaised, ending_ok, wp_bind, onOk_ending, wp_onHost]
          exact ⟨⟨⟨.host _, put⟩, put, rfl, owned⟩, fun _ _ => ⟨⟨.host _, isolated'⟩, isolated'⟩⟩

end Session

/-! ## Programs for one share -/

section Programs

variable (known : hasProject share.projectId = true → projects (share.projectId.getD ""))

/-- Without a project id no session is opened. -/
theorem orgClient_without_project (project : ¬ hasProject share.projectId = true) :
    orgClient cfg share.projectId = throw (.org
      ("share has no project_id; cannot map it to a per-tenant Weka organization")) := by
  unfold orgClient
  rw [if_pos (Bool.not_eq_true _ ▸ project)]

include known in
/-- A WEKAFS program that opens its project's session and then uses it. -/
theorem obeys_orgClient_bind {α : Type} {rest : Session → Driver α}
    (wekafs : share.shareProto = .wekafs)
    (uses : (rest (projectSession cfg share.projectId)).Uses
      (TenantOp (projectSession cfg share.projectId))) :
    Obeys (service fault) (Isolated cfg projects) (fun u op _ => TenantCall cfg share u op)
      (orgClient cfg share.projectId >>= rest) := by
  by_cases project : hasProject share.projectId = true
  · apply Obeys.bind_knowing fun session t =>
      session = projectSession cfg share.projectId ∧ Owned cfg share.projectId t
    · exact fun s isolated => wp_orgClient_isolated wekafs project (known project) isolated
    · intro session
      by_cases own : session = projectSession cfg share.projectId
      · subst own
        apply Obeys.of_uses uses
        rintro s op answer t use ⟨isolated, same, owned⟩ answered
        rcases use with host | ⟨request, rfl, on⟩
        · refine ⟨?_, isolated.kept ?_ answered, same, owned.kept answered⟩
          · cases op with
            | host call => exact .host call
            | _ => exact host.elim
          · rintro p session rfl
            exact host
        · exact ⟨.tenant wekafs project owned on, isolated.kept (fun _ _ => Op.noConfusion) answered,
            same, owned.kept answered⟩
      · exact fun s holds => absurd holds.2.1 own
  · rw [orgClient_without_project project]
    exact fun _ isolated => isolated

/-- A program that only uses the host. -/
theorem obeys_host {α : Type} {program : Driver α} (uses : program.Uses HostOp) :
    Obeys (service fault) (Isolated cfg projects) (fun u op _ => TenantCall cfg share u op)
      program := by
  apply Obeys.of_uses uses
  intro s op answer t host isolated answered
  refine ⟨?_, isolated.kept ?_ answered⟩
  · cases op with
    | host call => exact .host call
    | _ => exact host.elim
  · rintro p session rfl
    exact host

/-- A program on the administrator's session for a share that is not WEKAFS. -/
theorem obeys_admin {α : Type} {program : Driver α} (other : share.shareProto ≠ .wekafs)
    (uses : program.Uses (TenantOp .admin)) :
    Obeys (service fault) (Isolated cfg projects) (fun u op _ => TenantCall cfg share u op)
      program := by
  apply Obeys.of_uses uses
  intro s op answer t use isolated answered
  rcases use with host | ⟨request, rfl, on⟩
  · refine ⟨?_, isolated.kept ?_ answered⟩
    · cases op with
      | host call => exact .host call
      | _ => exact host.elim
    · rintro p session rfl
      exact host
  · exact ⟨.admin other on, isolated.kept (fun _ _ => Op.noConfusion) answered⟩

include known in
/-- A program that opens the session a share is served by and then uses it. -/
theorem obeys_client_bind {α : Type} {rest : Session → Driver α}
    (uses : ∀ session, isIsolatedWekafs share = (session != .admin) →
      (rest session).Uses (TenantOp session)) :
    Obeys (service fault) (Isolated cfg projects) (fun u op _ => TenantCall cfg share u op)
      (clientForShare cfg share >>= rest) := by
  unfold clientForShare
  cases isolated : isIsolatedWekafs share with
  | true =>
      have wekafs : share.shareProto = .wekafs := of_decide_eq_true isolated
      exact obeys_orgClient_bind known wekafs (uses _ (by rw [isolated]; rfl))
  | false =>
      have other : share.shareProto ≠ .wekafs := of_decide_eq_false isolated
      exact obeys_admin other (uses .admin (by rw [isolated]; rfl))

end Programs

end WekaShareDriver
