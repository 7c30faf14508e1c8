import WekaShareDriver.Share
import WekaShareDriver.Foundation.Program

/-! # The world a driver call runs in

A driver call talks to the cluster through its API sessions and to the Manila
host: the driver's own tables, the share-type database, the mount table,
temporary directories and commands. `WekaShareDriver.Op` lists everything a
driver program can ask for and `WekaShareDriver.respond` says what each does
when it works. A call may instead fail with any error a fault relation allows;
a failing call changes nothing.
-/

namespace WekaShareDriver

open Foundation

/-- One line of the kernel's mount table. -/
structure Mount where
  device : String
  mountPoint : String
  fstype : String
  deriving DecidableEq, Repr

/-- Status of a share that Manila polls. -/
inductive ShareStatus where
  | creatingFromSnapshot
  | available
  | error
  deriving DecidableEq, Repr

/-- An entry of the table of background copies. -/
structure CopyEntry where
  status : ShareStatus
  fsUid : Option Uid
  fsName : Option String
  deriving DecidableEq, Repr

/-- What a background copy was started with. -/
structure CopyJob where
  share : Share
  snapshotId : String
  accessPoint : String
  srcFsName : String
  newFsName : String
  deriving DecidableEq, Repr

/-- The state of the Manila host. -/
structure Host where
  orgClients : Dict String Session
  shareTypes : Dict String (Dict String String)
  mounts : List Mount
  tokenFiles : Dict String Session
  tempDirs : List String
  nextTempDir : Nat
  localAddress : String
  asyncCopies : Dict String CopyEntry
  copyJobs : List CopyJob

/-- A host on which nothing happened yet. -/
def Host.empty : Host := ⟨[], [], [], [], [], 0, "127.0.0.1", [], []⟩

structure World where
  cluster : Cluster
  host : Host

/-- The operations on the host. -/
inductive HostCall where
  | orgClientGet (projectId : String)
  | orgClientPut (projectId : String) (session : Session)
  | shareTypeExtraSpecs (typeId : String)
  | readProcMounts
  | ensureMountPointDir (path : String)
  | wekafsMount (source mountPoint : String) (options : List String)
  | nfsMount (mountExport mountPoint : String)
  | umount (mountPoint : String) (force : Bool)
  | rsync (source target : String)
  | mkdtemp (front : String)
  | rmdir (path : String)
  | localIp (server : String)
  | writeTokenFile (path : String) (session : Session)
  | asyncCopyGet (shareId : String)
  | asyncCopyPut (shareId : String) (entry : CopyEntry)
  | startCopy (job : CopyJob)
  deriving DecidableEq

@[reducible] def HostCall.Reply : HostCall → Type
  | .orgClientGet _ => Option Session
  | .shareTypeExtraSpecs _ => Dict String String
  | .readProcMounts => List String
  | .mkdtemp _ => String
  | .localIp _ => String
  | .asyncCopyGet _ => Option CopyEntry
  | _ => Unit

/-- The calls on which nothing but the driver's own memory depends. -/
def HostCall.local : HostCall → Bool
  | .orgClientGet _ => true
  | .orgClientPut .. => true
  | .asyncCopyGet _ => true
  | .asyncCopyPut .. => true
  | .startCopy _ => true
  | _ => false

/-- An operation of a driver program: a request of an API session, a login, or
an operation on the host. -/
inductive Op where
  | api (session : Session) (request : Request)
  | login (org username password : String)
  | host (call : HostCall)
  deriving DecidableEq

@[reducible] def Op.Res : Op → Type
  | .api _ request => request.Reply
  | .login .. => Session
  | .host call => call.Reply

/-- A field of the mount table as the kernel writes it. -/
def mountField (text : String) : String :=
  String.ofList (text.toList.flatMap fun char =>
    if char = ' ' then "\\040".toList
    else if char = '\t' then "\\011".toList
    else if char = '\n' then "\\012".toList
    else if char = '\\' then "\\134".toList
    else [char])

/-- A line of `/proc/mounts`. -/
def Mount.line (mount : Mount) : String :=
  mountField mount.device ++ " " ++ mountField mount.mountPoint ++ " " ++ mount.fstype ++
    " rw 0 0"

/-- What an operation on the host does. -/
def Host.answer : (call : HostCall) → Host → Except Error call.Reply × Host
  | .orgClientGet projectId, host => (.ok (host.orgClients.get? projectId), host)
  | .orgClientPut projectId session, host =>
      (.ok (), { host with orgClients := host.orgClients.assign projectId session })
  | .shareTypeExtraSpecs typeId, host =>
      match host.shareTypes.get? typeId with
      | some specs => (.ok specs, host)
      | none => (.error (.manila "share type not found"), host)
  | .readProcMounts, host => (.ok (host.mounts.map Mount.line), host)
  | .ensureMountPointDir _, host => (.ok (), host)
  | .wekafsMount source mountPoint _, host =>
      (.ok (), { host with mounts := host.mounts ++ [⟨source, mountPoint, "wekafs"⟩] })
  | .nfsMount mountExport mountPoint, host =>
      (.ok (), { host with mounts := host.mounts ++ [⟨mountExport, mountPoint, "nfs"⟩] })
  | .umount mountPoint _, host =>
      if host.mounts.any fun mount => mount.mountPoint = mountPoint then
        (.ok (), { host with
          mounts := host.mounts.filter fun mount => mount.mountPoint ≠ mountPoint })
      else (.error .process, host)
  | .rsync _ _, host => (.ok (), host)
  | .mkdtemp front, host =>
      let path := "/tmp/" ++ front ++ Nat.repr host.nextTempDir
      (.ok path, { host with tempDirs := host.tempDirs ++ [path]
                             nextTempDir := host.nextTempDir + 1 })
  | .rmdir path, host =>
      if path ∈ host.tempDirs ∧ ¬ host.mounts.any fun mount => mount.mountPoint = path then
        (.ok (), { host with tempDirs := host.tempDirs.filter (· ≠ path) })
      else (.error .os, host)
  | .localIp _, host => (.ok host.localAddress, host)
  | .writeTokenFile path session, host =>
      (.ok (), { host with tokenFiles := host.tokenFiles.assign path session })
  | .asyncCopyGet shareId, host => (.ok (host.asyncCopies.get? shareId), host)
  | .asyncCopyPut shareId entry, host =>
      (.ok (), { host with asyncCopies := host.asyncCopies.assign shareId entry })
  | .startCopy job, host => (.ok (), { host with copyJobs := host.copyJobs ++ [job] })

/-- An answer of the cluster as the client raises it. -/
def asRaised {α : Type} : Except WekaApiError α → Except Error α
  | .ok reply => .ok reply
  | .error error => .error (.api error)

/-- What an operation does when no fault strikes. -/
def respond : (op : Op) → World → Except Error op.Res × World
  | .api session request, w =>
      (asRaised (w.cluster.answer session request).1,
        { w with cluster := (w.cluster.answer session request).2 })
  | .login org username password, w => (asRaised (w.cluster.login org username password), w)
  | .host call, w => ((w.host.answer call).1, { w with host := (w.host.answer call).2 })

/-- A program of the driver. -/
abbrev Driver (α : Type) : Type := Program Op Op.Res Error α

/-- Which operations can fail, and with what, in which state. -/
abbrev Fault : Type := World → Op → Error → Prop

/-- The world as a service, with the given faults. -/
abbrev service (fault : Fault) : Service Op Op.Res Error World :=
  Program.withFaults respond fault

/-- Nothing fails but what the world itself refuses. -/
abbrev reliable : Service Op Op.Res Error World := service Program.noFaults

/-- Send a request on a session. -/
def send (session : Session) (request : Request) : Driver request.Reply :=
  Program.perform (Op.api session request)

/-- Open a session in an organization. -/
def login (org username password : String) : Driver Session :=
  Program.perform (Op.login org username password)

/-- Perform an operation on the host. -/
def onHost (call : HostCall) : Driver call.Reply := Program.perform (Op.host call)

end WekaShareDriver
