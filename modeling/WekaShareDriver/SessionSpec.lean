import WekaShareDriver.Faults
import WekaShareDriver.Session

/-! # Opening a project's session

Opening a project's session changes at most two things: the project's
organization is created if there was none, and the session is cached
(`WekaShareDriver.Prepared`). It fails without a fault only where the
organization belongs to another user or password.
-/

namespace WekaShareDriver

open Foundation Program

/-- The session of a project's own organization. -/
def projectSession (cfg : Config) (projectId : Option String) : Session :=
  .org (cfg.orgName projectId)

/-- The organization the driver creates for a project. -/
def projectOrg (cfg : Config) (projectId : Option String) : Organization :=
  ⟨cfg.orgName projectId, cfg.orgUser, cfg.orgPassword projectId⟩

/-- What opening a project's session may change. -/
structure Prepared (cfg : Config) (projectId : Option String) (w t : World) : Prop where
  cluster : t.cluster = { w.cluster with organizations := t.cluster.organizations }
  host : t.host = { w.host with orgClients := t.host.orgClients }
  organizations : t.cluster.organizations = w.cluster.organizations ∨
    w.cluster.organizations.find? (cfg.orgName projectId) = none ∧
      t.cluster.organizations = w.cluster.organizations.insert (projectOrg cfg projectId)
  orgClients : t.host.orgClients = w.host.orgClients ∨
    t.host.orgClients = w.host.orgClients.assign (projectId.getD "") (projectSession cfg projectId)

/-- The organization of a project's name, if it exists, accepts the project's
login. -/
def LoginAccepted (cfg : Config) (projectId : Option String) (w : World) : Prop :=
  ∀ org, w.cluster.organizations.find? (cfg.orgName projectId) = some org →
    org.val.username = cfg.orgUser ∧ org.val.password = cfg.orgPassword projectId

variable {cfg : Config} {projectId : Option String} {fault : Fault} {w t : World}

/-- Opening a session may change nothing. -/
theorem Prepared.refl (w : World) : Prepared cfg projectId w w :=
  ⟨rfl, rfl, Or.inl rfl, Or.inl rfl⟩

/-- A login is still accepted once the session was opened. -/
theorem LoginAccepted.prepared (accepted : LoginAccepted cfg projectId w)
    (prepared : Prepared cfg projectId w t) : LoginAccepted cfg projectId t := by
  intro org found
  rcases prepared.organizations with same | ⟨missing, created⟩
  · rw [same] at found
    exact accepted org found
  · have free : w.cluster.organizations.find? (Keyed.key (projectOrg cfg projectId)) = none :=
      missing
    rw [created, Registry.find?_insert _ _ free] at found
    have here : cfg.orgName projectId = Keyed.key (projectOrg cfg projectId) := rfl
    rw [here, Function.update_self, Option.some.injEq] at found
    subst found
    exact ⟨rfl, rfl⟩

/-- Looking an organization up finds the one of the name, or fails. -/
theorem wp_getOrganizationByName {guarantee : World → Op → World → Prop} {name : String}
    {post : Except Error (Option (Entry Organization)) → World → Prop}
    (guaranteed : guarantee w (.api .admin .listOrganizations) w)
    (listed : post (.ok (w.cluster.organizations.find? name)) w)
    (failed : ∀ error, fault w (.api .admin .listOrganizations) error → post (.error error) w) :
    (getOrganizationByName name).wp (service fault) guarantee post w := by
  unfold getOrganizationByName
  rw [wp_bind, wp_send]
  exact ⟨⟨guaranteed, listed⟩, fun error raised => ⟨guaranteed, failed error raised⟩⟩

/-- The organization exists afterwards, or a fault struck. -/
theorem wp_ensureOrg :
    (ensureOrg cfg projectId).wp (service fault) (passing (Prepared cfg projectId w))
      (ending
        (fun _ t => Prepared cfg projectId w t ∧ t.host.orgClients = w.host.orgClients ∧
          (Possible fault ∨ (t.cluster.organizations.find? (cfg.orgName projectId)).isSome))
        (fun _ t => Possible fault ∧ Prepared cfg projectId w t)) w := by
  unfold ensureOrg
  rw [wp_bind, onOk_ending]
  refine wp_getOrganizationByName (.refl w) ?_ fun error raised =>
    ⟨⟨w, _, error, raised⟩, .refl w⟩
  rw [ending_ok]
  cases found : w.cluster.organizations.find? (cfg.orgName projectId) with
  | some org => exact ⟨.refl w, rfl, Or.inr (by rw [found]; rfl)⟩
  | none =>
      have free : w.cluster.organizations.find? (Keyed.key (projectOrg cfg projectId)) = none :=
        found
      dsimp only
      rw [wp_tryCatch, onError_ending, wp_bind, onOk_ending, wp_send]
      have created : Prepared cfg projectId w { w with cluster := { w.cluster with
          organizations := w.cluster.organizations.insert (projectOrg cfg projectId) } } :=
        ⟨rfl, rfl, Or.inr ⟨found, rfl⟩, Or.inl rfl⟩
      have answered : w.cluster.answer .admin (.createOrganization (cfg.orgName projectId)
          cfg.orgUser (cfg.orgPassword projectId)) =
            (.ok ⟨w.cluster.organizations.next, projectOrg cfg projectId⟩, { w.cluster with
              organizations := w.cluster.organizations.insert (projectOrg cfg projectId) }) := by
        have lookup : w.cluster.organizations.find? (Keyed.key (⟨cfg.orgName projectId, cfg.orgUser,
          cfg.orgPassword projectId⟩ : Organization)) = none := found
        simp only [Cluster.answer, Cluster.create, lookup]
        rfl
      rw [answered]
      refine ⟨⟨created, created, rfl, Or.inr ?_⟩, fun error raised => ⟨.refl w, ?_⟩⟩
      · change ((w.cluster.organizations.insert (projectOrg cfg projectId)).find?
          (Keyed.key (projectOrg cfg projectId))).isSome
        rw [Registry.find?_insert _ _ free, Function.update_self]
        rfl
      · have possible : Possible fault := ⟨w, _, error, raised⟩
        rw [ending_error]
        cases error with
        | api apiError =>
            dsimp only
            rw [wp_ite]
            split
            · exact ⟨.refl w, rfl, Or.inl possible⟩
            · exact ⟨possible, .refl w⟩
        | _ => exact ⟨possible, .refl w⟩

/-- Opening the session returns the cached one or one of the project's
organization. -/
theorem wp_orgClient (project : hasProject projectId = true) :
    (orgClient cfg projectId).wp (service fault) (passing (Prepared cfg projectId w))
      (ending
        (fun session t => Prepared cfg projectId w t ∧
          (w.host.orgClients.get? (projectId.getD "") = some session ∨
            session = projectSession cfg projectId))
        (fun _ t => (Possible fault ∨ ¬ LoginAccepted cfg projectId w) ∧
          Prepared cfg projectId w t)) w := by
  unfold orgClient
  simp only [project, Bool.true_eq_false, ↓reduceIte]
  rw [wp_bind, onOk_ending, wp_onHost]
  refine ⟨⟨.refl w, ?_⟩, fun error raised =>
    ⟨.refl w, Or.inl ⟨w, _, error, raised⟩, .refl w⟩⟩
  simp only [Host.answer, ending_ok]
  cases cached : w.host.orgClients.get? (projectId.getD "") with
  | some session => exact ⟨.refl w, Or.inl rfl⟩
  | none =>
      dsimp only
      refine wp_bind_of _ (wp_weaken wp_ensureOrg (fun _ kept => kept) (fun _ _ reached => reached)
        fun _ t raised => ⟨Or.inl raised.1, raised.2⟩) ?_
      intro _ t reached
      obtain ⟨prepared, uncached, exists'⟩ := reached
      rw [wp_bind, onOk_ending, login, wp_perform_withFaults]
      refine ⟨⟨prepared, ?_⟩, fun error raised =>
        ⟨prepared, Or.inl ⟨t, _, error, raised⟩, prepared⟩⟩
      have answered : respond (.login (cfg.orgName projectId) cfg.orgUser
          (cfg.orgPassword projectId)) t = (asRaised (t.cluster.login (cfg.orgName projectId)
            cfg.orgUser (cfg.orgPassword projectId)), t) := rfl
      rw [answered]
      by_cases granted : t.cluster.login (cfg.orgName projectId) cfg.orgUser
          (cfg.orgPassword projectId) = .ok (projectSession cfg projectId)
      · rw [granted, asRaised, ending_ok, wp_bind, onOk_ending, wp_onHost]
        have put : Prepared cfg projectId w { t with host := { t.host with
            orgClients := t.host.orgClients.assign (projectId.getD "")
              (projectSession cfg projectId) } } := by
          refine ⟨prepared.cluster, ?_, prepared.organizations, Or.inr ?_⟩
          · rw [prepared.host]
          · rw [uncached]
        exact ⟨⟨put, put, Or.inr rfl⟩, fun error raised =>
          ⟨prepared, Or.inl ⟨t, _, error, raised⟩, prepared⟩⟩
      · have refused : ∃ error, t.cluster.login (cfg.orgName projectId) cfg.orgUser
            (cfg.orgPassword projectId) = .error error := by
          unfold Cluster.login at granted ⊢
          split at granted
          · next org found =>
              split at granted
              · exact absurd rfl granted
              · next mismatch =>
                  rw [if_neg mismatch]
                  exact ⟨_, rfl⟩
          · exact ⟨_, rfl⟩
        obtain ⟨error, raised⟩ := refused
        rw [raised, asRaised, ending_error]
        refine ⟨?_, prepared⟩
        rcases exists' with possible | present
        · exact Or.inl possible
        · right
          intro accepted
          obtain ⟨org, found⟩ := Option.isSome_iff_exists.mp present
          obtain ⟨username, password⟩ := accepted.prepared prepared org found
          apply granted
          simp only [Cluster.login, found, username, password, and_self, ↓reduceIte]
          rfl

end WekaShareDriver
