import WekaShareDriver.Client

/-! # Sessions of the projects' organizations

WEKAFS shares live in the organization of their project, NFS shares in the
administrator's. A project's session is opened on first use, getting or creating
its organization, and cached under the project id as Manila writes it.
-/

namespace WekaShareDriver

open Foundation

/-- Whether a share has a project id to map it to an organization. -/
def hasProject (projectId : Option String) : Bool := projectId.getD "" != ""

/-- Get or create the project's organization. -/
def ensureOrg (cfg : Config) (projectId : Option String) : Driver Unit := do
  match ← getOrganizationByName (cfg.orgName projectId) with
  | some _ => return ()
  | none =>
      tryCatch
        (do
          let _ ← send .admin (.createOrganization (cfg.orgName projectId) cfg.orgUser
            (cfg.orgPassword projectId)))
        fun
          | .api error =>
              if isAlreadyExistsError (.api error) then pure ()
              else throw (.org ("failed to create organization " ++ cfg.orgName projectId ++ ": " ++
                error.message))
          | error => throw error

/-- The cached session of the project's own organization. A share without a
project id would map to a shared organization. -/
def orgClient (cfg : Config) (projectId : Option String) : Driver Session := do
  if hasProject projectId = false then
    throw (.org ("share has no project_id; cannot map it to a per-tenant Weka organization"))
  else
    match ← onHost (.orgClientGet (projectId.getD "")) with
    | some session => return session
    | none =>
        ensureOrg cfg projectId
        let session ← login (cfg.orgName projectId) cfg.orgUser (cfg.orgPassword projectId)
        onHost (.orgClientPut (projectId.getD "") session)
        return session

/-- WEKAFS shares are always isolated in an organization. -/
def isIsolatedWekafs (share : Share) : Bool := share.shareProto = .wekafs

/-- The organization's session for WEKAFS shares, the administrator's for NFS. -/
def clientForShare (cfg : Config) (share : Share) : Driver Session :=
  if isIsolatedWekafs share then orgClient cfg share.projectId else pure .admin

/-- Write the organization's mount-token file and return its path. -/
def orgTokenFile (cfg : Config) (projectId : Option String) : Driver String := do
  let session ← orgClient cfg projectId
  let path := pathJoin cfg.authTokenDir (Text.afterLast (cfg.orgName projectId ++ ".json") '/')
  tryCatch (onHost (.writeTokenFile path session)) fun
    | .os => throw (.mount "failed to write auth token file")
    | error => throw error
  return path

end WekaShareDriver
