import WekaShareDriver.Session

/-! # WekaFS mounts on the Manila host -/

namespace WekaShareDriver

open Foundation

/-- A single WekaFS mount. -/
structure WekaMount where
  backends : Option String
  fsName : String
  mountPoint : String
  authTokenPath : Option String
  numCores : Nat
  net : Option String

/-- Whether a mount point holds a WekaFS mount, by the mount table; an
unreadable table shows none. -/
def isMounted (mountPoint : String) : Driver Bool :=
  tryCatch
    (do
      let lines ← onHost .readProcMounts
      return lines.any fun line =>
        match Text.words line with
        | _ :: mounted :: fstype :: _ => mounted = mountPoint && fstype = "wekafs"
        | _ => false)
    fun
      | .os => pure false
      | error => throw error

namespace WekaMount

/-- The mount options. -/
def options (mnt : WekaMount) : List String :=
  ["num_cores=" ++ Nat.repr mnt.numCores] ++
    ((mnt.authTokenPath.filter (· ≠ "")).map ("auth_token_path=" ++ ·)).toList ++
    ((mnt.net.filter (· ≠ "")).map ("net=" ++ ·)).toList

/-- A joined client mounts by bare filesystem name; a stateless one needs the
backends. -/
def source (mnt : WekaMount) : String :=
  match mnt.backends.filter (· ≠ "") with
  | some backends => backends ++ "/" ++ mnt.fsName
  | none => mnt.fsName

/-- Mount; nothing happens when mounted already. -/
def mount (mnt : WekaMount) : Driver Unit := do
  if ← isMounted mnt.mountPoint then
    return ()
  tryCatch (onHost (.ensureMountPointDir mnt.mountPoint)) fun
    | .os => throw (.mount ("Cannot create mount point " ++ mnt.mountPoint))
    | error => throw error
  tryCatch (onHost (.wekafsMount mnt.source mnt.mountPoint mnt.options)) fun
    | .process => throw (.mount "mount command failed")
    | error => throw error

/-- Unmount; nothing happens when nothing is mounted. -/
def unmount (mnt : WekaMount) (force : Bool) : Driver Unit := do
  if ← isMounted mnt.mountPoint then
    tryCatch (onHost (.umount mnt.mountPoint force)) fun
      | .process => throw (.unmount "umount command failed")
      | error => throw error

end WekaMount

end WekaShareDriver
