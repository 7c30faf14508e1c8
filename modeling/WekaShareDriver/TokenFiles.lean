import WekaShareDriver.HealthChecks
import WekaShareDriver.Foundation.Refinement

/-! # Token files

A mount authenticates with a file that holds the tokens of its project's organization. The driver
writes it to a temporary file of the same directory and renames that over the path, so that nobody
who opens the path reads less than a whole token, even where several threads write it at once, calls
fail and threads stop halfway.

The disk is modelled call by call (`WekaShareDriver.TokenDisk`). There the program that writes a
token (`WekaShareDriver.writeTokens`) stands for the one call that the rest of the driver is
modelled with (`WekaShareDriver.writeToken`): every interleaving of the small steps is matched by
one of the whole writes (`WekaShareDriver.TokenDisk.writes_atomic`). Whoever has opened a path has a
whole token for good (`WekaShareDriver.TokenDisk.opened_whole`), and a thread that has ended leaves no temporary
file (`WekaShareDriver.TokenDisk.no_temporary_left`).
-/

namespace WekaShareDriver

open Foundation Program

/-! ## The steps -/

/-- What writing a token asks of the operating system. -/
inductive FileOp where
  | makedirs (dir : String) (mode : Nat)
  | chmod (dir : String) (mode : Nat)
  | mkstemp (dir : String)
  | write (number : Nat) (text : String)
  | close (number : Nat)
  | replace (source target : String)
  | unlink (path : String)

@[reducible] def FileOp.Res : FileOp → Type
  | .mkstemp _ => String × Nat
  | _ => Unit

/-- A program that writes files. -/
abbrev TokenWriter (α : Type) : Type := Program FileOp FileOp.Res Error α

/-- One call of the operating system. -/
def onDisk (op : FileOp) : TokenWriter op.Res := perform op

/-- Fill a temporary file and rename it, or remove it. -/
def fillTemporary (tmp path : String) (number : Nat) (chunks : List String) : TokenWriter Unit :=
  tryCatch
    (do
      chunks.forM fun chunk => onDisk (.write number chunk)
      onDisk (.close number)
      onDisk (.replace tmp path))
    fun
      | .os => do
          tryCatch (onDisk (.unlink tmp)) fun
            | .os => pure ()
            | error => throw error
          throw .os
      | error => throw error

/-- Write a token, given as the pieces it is written in, and return its path. -/
def writeTokens (dir path : String) (chunks : List String) : TokenWriter String :=
  tryCatch
    (do
      onDisk (.makedirs dir 0o700)
      tryCatch (onDisk (.chmod dir 0o700)) fun
        | .os => pure ()
        | error => throw error
      let made ← onDisk (.mkstemp dir)
      fillTemporary made.1 path made.2 chunks
      return path)
    fun
      | .os => throw (.mount "failed to write auth token file")
      | error => throw error

/-- The same as one call. -/
def writeToken (path : String) (session : Session) : Driver String := do
  tryCatch (onHost (.writeTokenFile path session)) fun
    | .os => throw (.mount "failed to write auth token file")
    | error => throw error
  return path

/-- That is how the driver writes the tokens of a project. -/
theorem orgTokenFile_eq (cfg : Config) (projectId : Option String) :
    orgTokenFile cfg projectId =
      orgClient cfg projectId >>= fun session => writeToken (tokenPath cfg projectId) session := rfl

/-! ## The disk -/

/-- A file; who made it is recorded to speak about it. -/
structure TokenFile (ι : Type) where
  text : String
  mode : Nat
  maker : Option ι

/-- The modes of the directories, the names of the files, and the files themselves, which stay as
long as somebody has them open. -/
structure TokenDisk (ι : Type) where
  dirs : String → Option Nat
  names : String → Option Nat
  file : Nat → TokenFile ι
  next : Nat
  bounded : ∀ path number, names path = some number → number < next

/-- A name that `mkstemp` gives in a directory. -/
def tempPath (dir middle : String) : String := pathJoin dir (".tok-" ++ middle ++ ".tmp")

namespace TokenDisk

variable {ι : Type}

/-- A directory has another mode. -/
def setMode (s : TokenDisk ι) (dir : String) (mode : Nat) : TokenDisk ι :=
  { s with dirs := Function.update s.dirs dir (some mode) }

/-- A new file is made. -/
def make (s : TokenDisk ι) (path : String) (maker : ι) : TokenDisk ι where
  dirs := s.dirs
  names := Function.update s.names path (some s.next)
  file := Function.update s.file s.next ⟨"", 0o600, some maker⟩
  next := s.next + 1
  bounded := by
    intro other number named
    by_cases same : other = path
    · rw [same, Function.update_self] at named
      obtain rfl := Option.some.inj named
      exact Nat.lt_succ_self _
    · rw [Function.update_of_ne same] at named
      exact Nat.lt_succ_of_lt (s.bounded other number named)

/-- A file has another text. -/
def setText (s : TokenDisk ι) (number : Nat) (text : String) : TokenDisk ι :=
  { s with file := Function.update s.file number { s.file number with text := text } }

/-- A name is taken away. -/
def remove (s : TokenDisk ι) (path : String) : TokenDisk ι where
  dirs := s.dirs
  names := Function.update s.names path none
  file := s.file
  next := s.next
  bounded := by
    intro other number named
    by_cases same : other = path
    · rw [same, Function.update_self] at named
      cases named
    · rw [Function.update_of_ne same] at named
      exact s.bounded other number named

/-- A file is renamed over a path. -/
def rename (s : TokenDisk ι) (source target : String) (number : Nat)
    (named : s.names source = some number) : TokenDisk ι where
  dirs := s.dirs
  names := Function.update (Function.update s.names source none) target (some number)
  file := s.file
  next := s.next
  bounded := by
    intro other number' named'
    by_cases same : other = target
    · rw [same, Function.update_self] at named'
      obtain rfl := Option.some.inj named'
      exact s.bounded source number named
    · rw [Function.update_of_ne same] at named'
      exact (s.remove source).bounded other number' named'

private theorem names_make (s : TokenDisk ι) (path : String) (maker : ι) :
    (s.make path maker).names = Function.update s.names path (some s.next) := rfl

private theorem file_make (s : TokenDisk ι) (path : String) (maker : ι) :
    (s.make path maker).file = Function.update s.file s.next ⟨"", 0o600, some maker⟩ := rfl

private theorem file_setText (s : TokenDisk ι) (number : Nat) (text : String) :
    (s.setText number text).file =
      Function.update s.file number { s.file number with text := text } := rfl

private theorem names_remove (s : TokenDisk ι) (path : String) :
    (s.remove path).names = Function.update s.names path none := rfl

private theorem names_rename (s : TokenDisk ι) {source target : String} {number : Nat}
    (named : s.names source = some number) : (s.rename source target number named).names =
      Function.update (Function.update s.names source none) target (some number) := rfl

/-- What somebody reads who opens a path, and its mode. -/
def read (s : TokenDisk ι) (path : String) : Option (String × Nat) :=
  (s.names path).map fun number => ((s.file number).text, (s.file number).mode)

end TokenDisk

/-- How the operating system answers a thread. Some operations may fail, a failing write leaves
part of its text, and the name of a temporary file is any that is free. -/
inductive DiskAnswers {ι : Type} (fails : FileOp → Prop) (thread : ι) :
    Service FileOp FileOp.Res Error (TokenDisk ι) where
  | fails {s : TokenDisk ι} {op : FileOp} : fails op → DiskAnswers fails thread s op (.error .os) s
  | partly {s : TokenDisk ι} {number : Nat} {text : String} (part : String) :
      fails (.write number text) → DiskAnswers fails thread s (.write number text) (.error .os)
        (s.setText number ((s.file number).text ++ part))
  | madeDir {s : TokenDisk ι} {dir : String} {mode : Nat} : s.dirs dir = none →
      DiskAnswers fails thread s (.makedirs dir mode) (.ok ()) (s.setMode dir mode)
  | foundDir {s : TokenDisk ι} {dir : String} {mode : Nat} : s.dirs dir ≠ none →
      DiskAnswers fails thread s (.makedirs dir mode) (.ok ()) s
  | chmod {s : TokenDisk ι} {dir : String} {mode : Nat} :
      DiskAnswers fails thread s (.chmod dir mode) (.ok ()) (s.setMode dir mode)
  | mkstemp {s : TokenDisk ι} {dir : String} (middle : String) : s.dirs dir ≠ none →
      s.names (tempPath dir middle) = none → DiskAnswers fails thread s (.mkstemp dir)
        (.ok (tempPath dir middle, s.next)) (s.make (tempPath dir middle) thread)
  | write {s : TokenDisk ι} {number : Nat} {text : String} :
      DiskAnswers fails thread s (.write number text) (.ok ())
        (s.setText number ((s.file number).text ++ text))
  | close {s : TokenDisk ι} {number : Nat} : DiskAnswers fails thread s (.close number) (.ok ()) s
  | replace {s : TokenDisk ι} {source target : String} (number : Nat)
      (named : s.names source = some number) :
      DiskAnswers fails thread s (.replace source target) (.ok ())
        (s.rename source target number named)
  | unlink {s : TokenDisk ι} {path : String} : s.names path ≠ none →
      DiskAnswers fails thread s (.unlink path) (.ok ()) (s.remove path)

private theorem suffix_pathJoin (base name : String) :
    name.toList <:+ (pathJoin base name).toList := by
  unfold pathJoin
  split
  · exact List.suffix_rfl
  · split
    · exact ⟨base.toList, String.toList_append.symm⟩
    · exact ⟨(base ++ "/").toList, String.toList_append.symm⟩

private theorem getLast?_pathJoin (base : String) {name : String} {char : Char}
    (ends : name.toList.getLast? = some char) :
    (pathJoin base name).toList.getLast? = some char := by
  obtain ⟨front, split⟩ := suffix_pathJoin base name
  rw [← split, List.getLast?_append, ends, Option.some_or]

/-- The path of a token is no temporary name. -/
theorem tokenPath_ne_tempPath (cfg : Config) (projectId : Option String) (middle : String) :
    tokenPath cfg projectId ≠ tempPath cfg.authTokenDir middle := by
  have json : (Text.afterLast (cfg.orgName projectId ++ ".json") '/').toList.getLast? =
      some 'n' := by
    rw [Text.toList_afterLast, String.toList_append, List.reverse_append]
    have front : ".json".toList.reverse = ['n', 'o', 's', 'j', '.'] := by decide
    rw [front, List.cons_append, List.takeWhile_cons_of_pos (by decide), List.reverse_cons,
      List.getLast?_concat]
  have tmp : (".tok-" ++ middle ++ ".tmp").toList.getLast? = some 'p' := by
    rw [String.toList_append, List.getLast?_append]
    rfl
  intro same
  have last := getLast?_pathJoin cfg.authTokenDir tmp
  rw [← tempPath, ← same, tokenPath, getLast?_pathJoin _ json] at last
  exact absurd last (by decide)

namespace TokenDisk

section Threads

variable {ι : Type} {dir path tmp text whole : String} {thread other : ι} {number : Nat}
  {s t u : TokenDisk ι}

/-! ## What threads rely on -/

/-- A temporary name of a directory. -/
def IsTemp (dir path : String) : Prop := ∃ middle, path = tempPath dir middle

/-- What the others leave as it is: the files a thread has made, their temporary names, and that
they have no more names than the thread gave them. -/
structure Spared (dir : String) (thread : ι) (s t : TokenDisk ι) : Prop where
  grows : s.next ≤ t.next
  makers : ∀ number < s.next, (t.file number).maker = (s.file number).maker
  files : ∀ number < s.next, (s.file number).maker = some thread → t.file number = s.file number
  names : ∀ path, ∀ number < s.next, (s.file number).maker = some thread →
    t.names path = some number → s.names path = some number
  temps : ∀ path, ∀ number < s.next, (s.file number).maker = some thread → IsTemp dir path →
    s.names path = some number → t.names path = some number
  fresh : ∀ number, s.next ≤ number → number < t.next → (t.file number).maker ≠ some thread

/-- A file that may have been opened: it has no temporary name. -/
def Sealed (dir : String) (s : TokenDisk ι) (number : Nat) : Prop :=
  number < s.next ∧ ∀ path, s.names path = some number → ¬ IsTemp dir path

/-- What a thread owes to whoever opens files: a sealed one stays as it is, and a path gets no file
but a sealed one with the whole text. Nor does it touch the temporary names that none of the threads
has made. -/
structure Owed (dir : String) (thread : ι) (path text : String) (s t : TokenDisk ι) : Prop where
  stays : ∀ number, Sealed dir s number → Sealed dir t number ∧ t.file number = s.file number
  opened : ∀ path' number, ¬ IsTemp dir path' → t.names path' = some number →
    s.names path' = some number ∨
      Sealed dir t number ∧ path' = path ∧ t.file number = ⟨text, 0o600, some thread⟩
  strangers : ∀ path number, IsTemp dir path → t.names path = some number →
    (t.file number).maker = none → s.names path = some number ∧ (s.file number).maker = none

/-- Doing nothing spares a thread's files. -/
theorem Spared.refl (s : TokenDisk ι) : Spared dir thread s s where
  grows := le_rfl
  makers := fun _ _ => rfl
  files := fun _ _ _ => rfl
  names := fun _ _ _ _ named => named
  temps := fun _ _ _ _ _ named => named
  fresh := fun _ least most => absurd least (not_le.mpr most)

/-- What is spared twice is spared. -/
theorem Spared.trans (first : Spared dir thread s t) (second : Spared dir thread t u) :
    Spared dir thread s u where
  grows := first.grows.trans second.grows
  makers := fun number old => (second.makers number (old.trans_le first.grows)).trans
    (first.makers number old)
  files := fun number old made => by
    have made' := (first.makers number old).trans made
    exact (second.files number (old.trans_le first.grows) made').trans (first.files number old made)
  names := fun path number old made named => by
    have made' := (first.makers number old).trans made
    exact first.names path number old made
      (second.names path number (old.trans_le first.grows) made' named)
  temps := fun path number old made temp named => by
    have made' := (first.makers number old).trans made
    exact second.temps path number (old.trans_le first.grows) made' temp
      (first.temps path number old made temp named)
  fresh := fun number least most => by
    by_cases old : number < t.next
    · rw [second.makers number old]
      exact first.fresh number least old
    · exact second.fresh number (not_lt.mp old) most

/-- The others, as a thread sees them. -/
def others (dir : String) (thread : ι) : Rely (TokenDisk ι) where
  may := Spared dir thread
  refl := Spared.refl
  trans := fun _ _ _ => Spared.trans

/-- A thread has a temporary file, which has one name and some text; it has no other. -/
structure Holds (dir : String) (thread : ι) (tmp : String) (number : Nat) (text : String)
    (s : TokenDisk ι) : Prop where
  temp : IsTemp dir tmp
  named : s.names tmp = some number
  file : s.file number = ⟨text, 0o600, some thread⟩
  sole : ∀ path, s.names path = some number → path = tmp
  only : ∀ path number', IsTemp dir path → s.names path = some number' →
    (s.file number').maker = some thread → number' = number

/-- A thread has no temporary file. -/
def Clean (dir : String) (thread : ι) (s : TokenDisk ι) : Prop :=
  ∀ path number, IsTemp dir path → s.names path = some number →
    (s.file number).maker ≠ some thread

private theorem Spared.maker_of_maker (spared : Spared dir thread s t)
    (named : t.names path = some number)
    (made : (t.file number).maker = some thread) :
    number < s.next ∧ (s.file number).maker = some thread := by
  have new := t.bounded path number named
  by_cases old : number < s.next
  · exact ⟨old, (spared.makers number old).symm.trans made⟩
  · exact absurd made (spared.fresh number (not_lt.mp old) new)

/-- A thread has no temporary file while the others spare its own. -/
theorem Clean.spared (clean : Clean dir thread s) (spared : Spared dir thread s t) :
    Clean dir thread t := by
  intro path number temp named made
  obtain ⟨old, made'⟩ := spared.maker_of_maker named made
  exact clean path number temp (spared.names path number old made' named) made'

/-- A thread holds its temporary file while the others spare it. -/
theorem Holds.spared (holds : Holds dir thread tmp number text s)
    (spared : Spared dir thread s t) : Holds dir thread tmp number text t := by
  have old := s.bounded tmp number holds.named
  have made : (s.file number).maker = some thread := by rw [holds.file]
  exact
    { temp := holds.temp
      named := spared.temps tmp number old made holds.temp holds.named
      file := (spared.files number old made).trans holds.file
      sole := fun path named => holds.sole path (spared.names path number old made named)
      only := fun path number' temp named made' => by
        obtain ⟨old', made''⟩ := spared.maker_of_maker named made'
        exact holds.only path number' temp (spared.names path number' old' made'' named) made'' }

/-! ## What the steps owe -/

/-- What a step of a thread owes to the others and to whoever opens files. -/
structure Gives (dir : String) (thread : ι) (path text : String) (s t : TokenDisk ι) : Prop where
  spares : ∀ other, other ≠ thread → Spared dir other s t
  owed : Owed dir thread path text s t

/-- Doing nothing meets what a thread owes. -/
theorem Owed.refl (s : TokenDisk ι) : Owed dir thread path text s s where
  stays := fun _ here => ⟨here, rfl⟩
  opened := fun _ _ _ named => .inl named
  strangers := fun _ _ _ named made => ⟨named, made⟩

/-- Doing nothing gives what is owed. -/
theorem Gives.refl (s : TokenDisk ι) : Gives dir thread path text s s :=
  ⟨fun _ _ => .refl s, .refl s⟩

private theorem gives_setMode (s : TokenDisk ι) (name : String) (mode : Nat) :
    Gives dir thread path text s (s.setMode name mode) := by
  refine ⟨fun other _ => ?_, ?_⟩
  · have same : Spared dir other s s := .refl s
    exact ⟨same.grows, same.makers, same.files, same.names, same.temps, same.fresh⟩
  · have same : Owed dir thread path text s s := .refl s
    exact ⟨same.stays, same.opened, same.strangers⟩

private theorem gives_make (temp : IsTemp dir tmp) (free : s.names tmp = none) :
    Gives dir thread path text s (s.make tmp thread) := by
  have older {number : Nat} (old : number < s.next) :
      (s.make tmp thread).file number = s.file number := Function.update_of_ne (Nat.ne_of_lt old) ..
  have named {path : String} {number : Nat} (old : number < s.next) :
      (s.make tmp thread).names path = some number ↔ s.names path = some number := by
    rw [names_make]
    by_cases same : path = tmp
    · rw [same, Function.update_self, free]
      simp only [Option.some.injEq, reduceCtorEq, iff_false]
      exact Nat.ne_of_gt old
    · rw [Function.update_of_ne same]
  refine ⟨fun other different => ?_, ?_⟩
  · exact
      { grows := Nat.le_succ _
        makers := fun number old => by rw [older old]
        files := fun number old _ => older old
        names := fun path number old _ there => (named old).mp there
        temps := fun path number old _ _ there => (named old).mpr there
        fresh := fun number least most => by
          obtain rfl : number = s.next := Nat.le_antisymm (Nat.lt_succ_iff.mp most) least
          rw [file_make, Function.update_self]
          exact fun same => different (Option.some.inj same).symm }
  · refine ⟨fun number here => ⟨⟨Nat.lt_succ_of_lt here.1, fun path there =>
      here.2 path ((named here.1).mp there)⟩, older here.1⟩, fun path number final there => ?_,
      fun path number temp there made => ?_⟩
    · have apart : path ≠ tmp := by
        rintro rfl
        exact final temp
      rw [names_make, Function.update_of_ne apart] at there
      exact .inl there
    by_cases old : number < s.next
    · exact ⟨(named old).mp there, by rwa [older old] at made⟩
    · have new := (s.make tmp thread).bounded path number there
      obtain rfl : number = s.next := Nat.le_antisymm (Nat.lt_succ_iff.mp new) (not_lt.mp old)
      rw [file_make, Function.update_self] at made
      cases made

private theorem gives_setText (holds : Holds dir thread tmp number text s) (text' : String) :
    Gives dir thread path whole s (s.setText number text') := by
  have made : (s.file number).maker = some thread := by rw [holds.file]
  have apart {number' : Nat} (different : number' ≠ number) :
      (s.setText number text').file number' = s.file number' := Function.update_of_ne different ..
  have makers (number' : Nat) :
      ((s.setText number text').file number').maker = (s.file number').maker := by
    by_cases same : number' = number
    · subst same
      rw [file_setText, Function.update_self]
    · rw [apart same]
  refine ⟨fun other different => ?_, fun number' here => ?_, fun _ _ _ there => .inl there,
    fun path number' _ there made' => ?_⟩
  · exact
      { grows := le_rfl
        makers := fun number' _ => makers number'
        files := fun number' _ made' => apart fun same => by
          rw [same, made] at made'
          exact different (Option.some.inj made').symm
        names := fun _ _ _ _ there => there
        temps := fun _ _ _ _ _ there => there
        fresh := fun _ least most => absurd least (not_le.mpr most) }
  · refine ⟨here, apart fun same => ?_⟩
    subst same
    exact here.2 tmp holds.named holds.temp
  · exact ⟨there, (makers number').symm.trans made'⟩

/-- Taking names away from a temporary file, or giving it one that is not temporary. -/
theorem gives_of_names (holds : Holds dir thread tmp number text s) (grows : t.next = s.next)
    (files : t.file = s.file)
    (others : ∀ path number', number' ≠ number → t.names path = some number' →
      s.names path = some number')
    (temps : ∀ path, IsTemp dir path → path ≠ tmp → t.names path = s.names path)
    (gone : t.names tmp = none)
    (named : ∀ path', t.names path' = some number → path' = path ∧ text = whole) :
    Gives dir thread path whole s t := by
  have made : (s.file number).maker = some thread := by rw [holds.file]
  refine ⟨fun other different => ?_, fun number' here => ?_, fun path' number' final there => ?_,
    fun path number' _ there made' => ?_⟩
  · have apart {number' : Nat} (made' : (s.file number').maker = some other) :
        number' ≠ number := by
      rintro rfl
      rw [made] at made'
      exact different (Option.some.inj made').symm
    exact
      { grows := grows.ge
        makers := fun number' _ => by rw [files]
        files := fun number' _ _ => by rw [files]
        names := fun path number' _ made' there => others path number' (apart made') there
        temps := fun path number' _ made' temp there => by
          refine (temps path temp ?_).trans there
          rintro rfl
          exact apart made' (Option.some.inj (there.symm.trans holds.named))
        fresh := fun _ least most => absurd least (not_le.mpr (grows ▸ most)) }
  · refine ⟨⟨grows ▸ here.1, fun path there => ?_⟩, by rw [files]⟩
    refine here.2 path (others path number' ?_ there)
    rintro rfl
    exact here.2 tmp holds.named holds.temp
  · by_cases same : number' = number
    · subst same
      obtain ⟨rfl, rfl⟩ := named path' there
      refine .inr ⟨⟨t.bounded path' number' there, fun other there' temp => ?_⟩, rfl, ?_⟩
      · exact final ((named other there').1 ▸ temp)
      · rw [files, holds.file]
    · exact .inl (others path' number' same there)
  · rw [files] at made'
    refine ⟨others path number' ?_ there, made'⟩
    rintro rfl
    rw [made] at made'
    cases made'

private theorem gives_remove (holds : Holds dir thread tmp number text s) :
    Gives dir thread path whole s (s.remove tmp) := by
  have left {path' : String} {number' : Nat} (named : (s.remove tmp).names path' = some number') :
      path' ≠ tmp ∧ s.names path' = some number' := by
    rw [names_remove] at named
    by_cases same : path' = tmp
    · rw [same, Function.update_self] at named
      cases named
    · rw [Function.update_of_ne same] at named
      exact ⟨same, named⟩
  refine gives_of_names holds rfl rfl (fun _ _ _ named => (left named).2)
    (fun _ _ apart => Function.update_of_ne apart ..) (Function.update_self ..)
    fun path' named => ?_
  exact absurd (holds.sole path' (left named).2) (left named).1

private theorem gives_rename (holds : Holds dir thread tmp number text s)
    (final : ¬ IsTemp dir path) :
    Gives dir thread path text s (s.rename tmp path number holds.named) := by
  have apart : tmp ≠ path := by
    rintro rfl
    exact final holds.temp
  have left {path' : String} {number' : Nat} (different : path' ≠ path)
      (named : (s.rename tmp path number holds.named).names path' = some number') :
      path' ≠ tmp ∧ s.names path' = some number' := by
    rw [names_rename, Function.update_of_ne different] at named
    by_cases same : path' = tmp
    · rw [same, Function.update_self] at named
      cases named
    · rw [Function.update_of_ne same] at named
      exact ⟨same, named⟩
  refine gives_of_names holds rfl rfl (fun path' number' different named => ?_)
    (fun path' temp apart' => ?_) ?_ fun path' named => ?_
  · by_cases same : path' = path
    · rw [same, names_rename, Function.update_self] at named
      exact absurd (Option.some.inj named).symm different
    · exact (left same named).2
  · rw [names_rename, Function.update_of_ne, Function.update_of_ne apart']
    rintro rfl
    exact final temp
  · rw [names_rename, Function.update_of_ne apart, Function.update_self]
  · by_contra different
    have other : path' ≠ path := fun same => different ⟨same, rfl⟩
    exact (left other named).1 (holds.sole path' (left other named).2)

/-! ## What the steps show -/

/-- Whoever opens a path that is not temporary sees the same. -/
def Unseen (dir : String) (s t : TokenDisk ι) : Prop :=
  ∀ path, ¬ IsTemp dir path → t.read path = s.read path

private theorem read_of_names {path : String} (names : t.names path = s.names path)
    (files : ∀ number, s.names path = some number → t.file number = s.file number) :
    t.read path = s.read path := by
  unfold read
  rw [names]
  cases found : s.names path with
  | none => rfl
  | some number => rw [Option.map_some, Option.map_some, files number found]

private theorem unseen_make (temp : IsTemp dir tmp) : Unseen dir s (s.make tmp thread) := by
  intro path final
  have apart : path ≠ tmp := by
    rintro rfl
    exact final temp
  exact read_of_names (Function.update_of_ne apart ..) fun number named =>
    Function.update_of_ne (Nat.ne_of_lt (s.bounded path number named)) ..

private theorem unseen_setText (holds : Holds dir thread tmp number text s) (text' : String) :
    Unseen dir s (s.setText number text') := by
  intro path final
  refine read_of_names rfl fun number' named => Function.update_of_ne ?_ ..
  rintro rfl
  obtain rfl := holds.sole path named
  exact final holds.temp

private theorem unseen_remove (temp : IsTemp dir tmp) : Unseen dir s (s.remove tmp) := by
  intro path final
  refine read_of_names (Function.update_of_ne ?_ ..) fun _ _ => rfl
  rintro rfl
  exact final temp

private theorem read_rename (holds : Holds dir thread tmp number text s) (final : ¬ IsTemp dir path)
    {other : String} (final' : ¬ IsTemp dir other) :
    (s.rename tmp path number holds.named).read other =
      if other = path then some (text, 0o600) else s.read other := by
  split
  · next same =>
    subst same
    rw [read, names_rename, Function.update_self, Option.map_some]
    change some ((s.file number).text, (s.file number).mode) = _
    rw [holds.file]
  · next different =>
    refine read_of_names ?_ fun _ _ => rfl
    rw [names_rename, Function.update_of_ne different, Function.update_of_ne]
    rintro rfl
    exact final' holds.temp

/-! ## What a thread has -/

private theorem holds_make (clean : Clean dir thread s) (temp : IsTemp dir tmp)
    (free : s.names tmp = none) : Holds dir thread tmp s.next "" (s.make tmp thread) where
  temp := temp
  named := Function.update_self ..
  file := Function.update_self ..
  sole := fun path named => by
    by_contra different
    rw [names_make, Function.update_of_ne different] at named
    exact absurd (s.bounded path _ named) (lt_irrefl _)
  only := fun path number' temp' named made => by
    by_contra different
    have apart : path ≠ tmp := by
      rintro rfl
      rw [names_make, Function.update_self] at named
      exact different (Option.some.inj named).symm
    rw [names_make, Function.update_of_ne apart] at named
    rw [file_make, Function.update_of_ne different] at made
    exact clean path number' temp' named made

private theorem holds_setText (holds : Holds dir thread tmp number text s) (text' : String) :
    Holds dir thread tmp number text' (s.setText number text') where
  temp := holds.temp
  named := holds.named
  file := by
    rw [file_setText, Function.update_self, holds.file]
  sole := holds.sole
  only := fun path number' temp named made => by
    by_contra different
    rw [file_setText, Function.update_of_ne different] at made
    exact different (holds.only path number' temp named made)

/-- A thread whose temporary file has lost its name has none. -/
theorem Holds.clean (holds : Holds dir thread tmp number text s) (files : t.file = s.file)
    (temps : ∀ path, IsTemp dir path → path ≠ tmp → t.names path = s.names path)
    (gone : t.names tmp = none) : Clean dir thread t := by
  intro path number' temp named made
  have apart : path ≠ tmp := by
    rintro rfl
    cases gone.symm.trans named
  rw [files] at made
  rw [temps path temp apart] at named
  obtain rfl := holds.only path number' temp named made
  exact apart (holds.sole path named)

/-! ## Many steps for one call -/

/-- The disk shows what the host's table of token files says, each readable by its owner only. -/
def Shows (dir : String) (payload : Session → String) (s : TokenDisk ι) (w : World) : Prop :=
  ∀ path, ¬ IsTemp dir path →
    s.read path = (w.host.tokenFiles.get? path).map fun session => (payload session, 0o600)

/-- A thread that writes a token in many steps, and one that writes it with one call. -/
def writing (dir path : String) (payload : Session → String) (session : Session)
    (fails : FileOp → Prop) (fault : Fault) (thread : ι) :
    Refinement FileOp FileOp.Res Op Op.Res Error (Shows (ι := ι) dir payload) where
  service := DiskAnswers fails thread
  service' := service fault
  rely := others dir thread
  guarantee := fun s _ t => Gives dir thread path (payload session) s t

variable {payload : Session → String} {fails : FileOp → Prop} {fault : Fault} {session : Session}
  {shadow : Driver String}

/-- An operation that changes nothing a thread or a reader looks at. -/
theorem step_unseen (unseen : Unseen dir s t) :
    (writing dir path payload session fails fault thread).Step s t shadow shadow := by
  refine .refl fun w shows path final => ?_
  rw [unseen path final]
  exact shows path final

/-- Where a step fails the one call fails. -/
theorem step_failed (may : ∀ w, fault w (.host (.writeTokenFile path session)) .os)
    (unseen : Unseen dir s t) :
    (writing dir path payload session fails fault thread).Step s t (writeToken path session)
      (throw (.mount "failed to write auth token file")) := by
  intro w shows
  have failed : service fault w (.host (.writeTokenFile path session)) (.error .os) w :=
    .inr ⟨_, may w, rfl, rfl⟩
  refine ⟨w, fun path' final => ?_, .call failed (.refl _ _)⟩
  rw [unseen path' final]
  exact shows path' final

/-- The renaming is the one call. -/
theorem step_renamed (holds : Holds dir thread tmp number (payload session) s)
    (final : ¬ IsTemp dir path) :
    (writing dir path payload session fails fault thread).Step s
      (s.rename tmp path number holds.named) (writeToken path session) (pure path) := by
  intro w shows
  have written : service fault w (.host (.writeTokenFile path session)) (.ok ())
      { w with host := { w.host with tokenFiles := w.host.tokenFiles.assign path session } } :=
    .inl rfl
  refine ⟨_, fun path' final' => ?_, .call written (.refl _ _)⟩
  rw [read_rename holds final final', Dict.get?_assign]
  split
  · rfl
  · exact shows path' final'

/-- How a thread ends: with nothing left of the other program, and without a temporary file if it
could remove it. -/
def Ended (dir : String) (fails : FileOp → Prop) (thread : ι) (rest : Driver String)
    (s : Driver String × TokenDisk ι) : Prop :=
  s.1 = rest ∧ ((∀ path, ¬ fails (.unlink path)) → Clean dir thread s.2)

/-- A thread fails as the one call does. -/
def Failed (dir : String) (fails : FileOp → Prop) (thread : ι) (error : Error)
    (s : Driver String × TokenDisk ι) : Prop :=
  error = .os ∧ Ended dir fails thread (throw (.mount "failed to write auth token file")) s

/-- A thread has failed and still has its temporary file. -/
def Stuck (dir : String) (thread : ι) (tmp : String) (number : Nat) (error : Error)
    (s : Driver String × TokenDisk ι) : Prop :=
  error = .os ∧ s.1 = throw (.mount "failed to write auth token file") ∧
    ∃ text, Holds dir thread tmp number text s.2

/-- A thread has its temporary file, and the one call is still to be made. -/
def Underway (dir : String) (thread : ι) (tmp : String) (number : Nat) (text path : String)
    (session : Session) (s : Driver String × TokenDisk ι) : Prop :=
  s.1 = writeToken path session ∧ Holds dir thread tmp number text s.2

section Follows

variable (may : ∀ w, fault w (.host (.writeTokenFile path session)) .os)
  (final : ¬ IsTemp dir path)

include may

private theorem follows_makedirs {mode : Nat} (clean : Clean dir thread s) :
    (onDisk (.makedirs dir mode)).follows (writing dir path payload session fails fault thread)
      (ending (fun _ t => t.1 = writeToken path session ∧ Clean dir thread t.2)
        (Failed dir fails thread)) (writeToken path session, s) := by
  refine (follows_perform _ _ _).mpr fun t answer u moved answered => ?_
  have clean := clean.spared moved
  cases answered with
  | fails _ =>
      exact ⟨.refl t, _, step_failed may fun _ _ => rfl, rfl, rfl, fun _ => clean⟩
  | madeDir _ => exact ⟨gives_setMode .., _, step_unseen fun _ _ => rfl, rfl, clean⟩
  | foundDir _ => exact ⟨.refl t, _, step_unseen fun _ _ => rfl, rfl, clean⟩

omit may in
private theorem follows_chmod {mode : Nat} (clean : Clean dir thread s) :
    (onDisk (.chmod dir mode)).follows (writing dir path payload session fails fault thread)
      (ending (fun _ t => t.1 = shadow ∧ Clean dir thread t.2)
        fun error t => error = .os ∧ t.1 = shadow ∧ Clean dir thread t.2) (shadow, s) := by
  refine (follows_perform _ _ _).mpr fun t answer u moved answered => ?_
  have clean := clean.spared moved
  cases answered with
  | fails _ => exact ⟨.refl t, _, step_unseen fun _ _ => rfl, rfl, rfl, clean⟩
  | chmod => exact ⟨gives_setMode .., _, step_unseen fun _ _ => rfl, rfl, clean⟩

private theorem follows_mkstemp (clean : Clean dir thread s) :
    (onDisk (.mkstemp dir)).follows (writing dir path payload session fails fault thread)
      (ending (fun made => Underway dir thread made.1 made.2 "" path session)
        (Failed dir fails thread)) (writeToken path session, s) := by
  refine (follows_perform _ _ _).mpr fun t answer u moved answered => ?_
  have clean := clean.spared moved
  cases answered with
  | fails _ => exact ⟨.refl t, _, step_failed may fun _ _ => rfl, rfl, rfl, fun _ => clean⟩
  | mkstemp middle _ free =>
      have temp : IsTemp dir (tempPath dir middle) := ⟨middle, rfl⟩
      exact ⟨gives_make temp free, _, step_unseen (unseen_make temp), rfl,
        holds_make clean temp free⟩

private theorem follows_write (holds : Holds dir thread tmp number text s) (chunk : String) :
    (onDisk (.write number chunk)).follows (writing dir path payload session fails fault thread)
      (ending (fun _ => Underway dir thread tmp number (text ++ chunk) path session)
        (Stuck dir thread tmp number)) (writeToken path session, s) := by
  refine (follows_perform _ _ _).mpr fun t answer u moved answered => ?_
  have holds := holds.spared moved
  cases answered with
  | fails _ => exact ⟨.refl t, _, step_failed may fun _ _ => rfl, rfl, rfl, text, holds⟩
  | partly part _ =>
      exact ⟨gives_setText holds _, _, step_failed may (unseen_setText holds _), rfl, rfl, _,
        holds_setText holds _⟩
  | write =>
      refine ⟨gives_setText holds _, _, step_unseen (unseen_setText holds _), rfl, ?_⟩
      have text' : (t.file number).text = text := by rw [holds.file]
      rw [text']
      exact holds_setText holds _

private theorem follows_writes (holds : Holds dir thread tmp number text s) (chunks : List String) :
    (chunks.forM fun chunk => onDisk (.write number chunk)).follows
      (writing dir path payload session fails fault thread)
      (ending (fun _ => Underway dir thread tmp number (chunks.foldl (· ++ ·) text) path session)
        (Stuck dir thread tmp number)) (writeToken path session, s) := by
  induction chunks generalizing text s with
  | nil => exact ⟨rfl, holds⟩
  | cons chunk rest ih =>
      refine follows_bind_of _ (follows_write may holds chunk) ?_
      rintro - ⟨_, t⟩ ⟨rfl, holds⟩
      exact ih holds

private theorem follows_close (holds : Holds dir thread tmp number text s) :
    (onDisk (.close number)).follows (writing dir path payload session fails fault thread)
      (ending (fun _ => Underway dir thread tmp number text path session)
        (Stuck dir thread tmp number)) (writeToken path session, s) := by
  refine (follows_perform _ _ _).mpr fun t answer u moved answered => ?_
  have holds := holds.spared moved
  cases answered with
  | fails _ => exact ⟨.refl t, _, step_failed may fun _ _ => rfl, rfl, rfl, text, holds⟩
  | close => exact ⟨.refl t, _, step_unseen fun _ _ => rfl, rfl, holds⟩

include final

private theorem follows_replace (holds : Holds dir thread tmp number (payload session) s) :
    (onDisk (.replace tmp path)).follows (writing dir path payload session fails fault thread)
      (ending (fun _ => Ended dir fails thread (pure path)) (Stuck dir thread tmp number))
      (writeToken path session, s) := by
  refine (follows_perform _ _ _).mpr fun t answer u moved answered => ?_
  have holds := holds.spared moved
  cases answered with
  | fails _ => exact ⟨.refl t, _, step_failed may fun _ _ => rfl, rfl, rfl, _, holds⟩
  | replace number' named =>
      obtain rfl : number' = number := Option.some.inj (named.symm.trans holds.named)
      refine ⟨gives_rename holds final, _, step_renamed holds final, rfl, fun _ => ?_⟩
      have apart : tmp ≠ path := by
        rintro rfl
        exact final holds.temp
      refine holds.clean rfl (fun path' temp apart' => ?_) ?_
      · rw [names_rename, Function.update_of_ne, Function.update_of_ne apart']
        rintro rfl
        exact final temp
      · rw [names_rename, Function.update_of_ne apart, Function.update_self]

omit may final in
private theorem follows_unlink (holds : Holds dir thread tmp number text s) :
    (onDisk (.unlink tmp)).follows (writing dir path payload session fails fault thread)
      (ending (fun _ => Ended dir fails thread shadow)
        fun error t => error = .os ∧ Ended dir fails thread shadow t) (shadow, s) := by
  refine (follows_perform _ _ _).mpr fun t answer u moved answered => ?_
  have holds := holds.spared moved
  cases answered with
  | fails refused =>
      exact ⟨.refl t, _, step_unseen fun _ _ => rfl, rfl, rfl, fun tidy => absurd refused (tidy _)⟩
  | unlink _ =>
      refine ⟨gives_remove holds, _, step_unseen (unseen_remove holds.temp), rfl, fun _ => ?_⟩
      exact holds.clean rfl (fun path _ apart => Function.update_of_ne apart ..)
        (Function.update_self ..)

private theorem follows_fillTemporary {chunks : List String}
    (written : chunks.foldl (· ++ ·) "" = payload session)
    (holds : Holds dir thread tmp number "" s) :
    (fillTemporary tmp path number chunks).follows
      (writing dir path payload session fails fault thread)
      (ending (fun _ => Ended dir fails thread (pure path)) (Failed dir fails thread))
      (writeToken path session, s) := by
  refine follows_tryCatch_of (Stuck dir thread tmp number) ?_ ?_
  · refine follows_bind_of _ (follows_writes may holds chunks) ?_
    rintro - ⟨_, t⟩ ⟨rfl, holds⟩
    refine follows_bind_of _ (follows_close may holds) ?_
    rintro - ⟨_, u⟩ ⟨rfl, holds⟩
    rw [written] at holds
    exact follows_replace may final holds
  · rintro _ ⟨_, t⟩ ⟨rfl, rfl, text, holds⟩
    refine follows_bind_of
      (fun _ => Ended dir fails thread (throw (.mount "failed to write auth token file"))) ?_
      fun _ u ended => ⟨rfl, ended⟩
    refine follows_tryCatch_of _ (follows_unlink holds) ?_
    rintro _ u ⟨rfl, ended⟩
    exact ended

/-- Writing a token in many steps stands for writing it with one call. -/
theorem follows_writeTokens {chunks : List String}
    (written : chunks.foldl (· ++ ·) "" = payload session) (clean : Clean dir thread s) :
    (writeTokens dir path chunks).follows (writing dir path payload session fails fault thread)
      (ending (fun value => Ended dir fails thread (pure value))
        fun error => Ended dir fails thread (throw error)) (writeToken path session, s) := by
  refine follows_tryCatch_of (Failed dir fails thread) ?_ ?_
  · refine follows_bind_of _ (follows_makedirs may clean) ?_
    rintro - ⟨_, t⟩ ⟨rfl, clean⟩
    refine follows_bind_of (fun _ u => u.1 = writeToken path session ∧ Clean dir thread u.2) ?_ ?_
    · refine follows_tryCatch_of _ (follows_chmod clean) ?_
      rintro _ u ⟨rfl, here⟩
      exact here
    rintro - ⟨_, u⟩ ⟨rfl, clean⟩
    refine follows_bind_of _ (follows_mkstemp may clean) ?_
    rintro made ⟨_, v⟩ ⟨rfl, holds⟩
    exact follows_bind_of _ (follows_fillTemporary may final written holds) fun _ _ ended => ended
  · rintro _ t ⟨rfl, ended⟩
    exact ended

end Follows

end Threads

/-! ## Threads that write tokens -/

section Writers

variable {ι : Type} [DecidableEq ι] {cfg : Config} {payload : Session → String}
  {fails : FileOp → Prop} {projects : ι → Option String} {sessions : ι → Session}
  {chunks : ι → List String} {start : TokenDisk ι}
  {pool later : Pool FileOp FileOp.Res Error (TokenDisk ι) (fun _ : ι => String)}

/-- Each thread writes the token of a project, in pieces. -/
def writers (cfg : Config) (projects : ι → Option String) (chunks : ι → List String)
    (start : TokenDisk ι) : Pool FileOp FileOp.Res Error (TokenDisk ι) (fun _ : ι => String) :=
  ⟨fun i => writeTokens cfg.authTokenDir (tokenPath cfg (projects i)) (chunks i), start⟩

/-- Each thread writes the token of a project with one call. -/
def wholeWriters (cfg : Config) (projects : ι → Option String) (sessions : ι → Session)
    (w : World) : Pool Op Op.Res Error World (fun _ : ι => String) :=
  ⟨fun i => writeToken (tokenPath cfg (projects i)) (sessions i), w⟩

private theorem final_tokenPath (cfg : Config) (projectId : Option String) :
    ¬ IsTemp cfg.authTokenDir (tokenPath cfg projectId) := by
  rintro ⟨middle, same⟩
  exact tokenPath_ne_tempPath cfg projectId middle same

omit [DecidableEq ι] in
private theorem lasting_ended {dir : String} {thread : ι} (outcome : Except Error String)
    {shadow : Driver String} {s t : TokenDisk ι}
    (ended : ending (fun value => Ended dir fails thread (pure value))
      (fun error => Ended dir fails thread (throw error)) outcome (shadow, s))
    (moved : Spared dir thread s t) :
    ending (fun value => Ended dir fails thread (pure value))
      (fun error => Ended dir fails thread (throw error)) outcome (shadow, t) := by
  cases outcome with
  | ok value => exact ⟨ended.1, fun tidy => (ended.2 tidy).spared moved⟩
  | error error => exact ⟨ended.1, fun tidy => (ended.2 tidy).spared moved⟩

omit [DecidableEq ι] in
private theorem follows_writers (cfg : Config) (projects : ι → Option String)
    (fails : FileOp → Prop)
    (fault : Fault)
    (may : ∀ w path session, fault w (.host (.writeTokenFile path session)) .os)
    (written : ∀ i, (chunks i).foldl (· ++ ·) "" = payload (sessions i))
    (clean : ∀ i, Clean cfg.authTokenDir i start) (i : ι) :
    ((writers cfg projects chunks start).threads i).follows
      (writing cfg.authTokenDir (tokenPath cfg (projects i)) payload (sessions i) fails fault i)
      (ending (fun value => Ended cfg.authTokenDir fails i (pure value))
        fun error => Ended cfg.authTokenDir fails i (throw error))
      (writeToken (tokenPath cfg (projects i)) (sessions i), start) :=
  follows_writeTokens (fun w => may w _ _) (final_tokenPath cfg (projects i)) (written i) (clean i)

/-- What a thread owes at each step, and how it ends. -/
def Writes (cfg : Config) (projects : ι → Option String) (texts : ι → String)
    (fails : FileOp → Prop) (i : ι) (program : TokenWriter String) (s : TokenDisk ι) : Prop :=
  program.amid (DiskAnswers fails i) (others cfg.authTokenDir i)
    (fun s _ t => Gives cfg.authTokenDir i (tokenPath cfg (projects i)) (texts i) s t)
    (fun _ t => (∀ path, ¬ fails (.unlink path)) → Clean cfg.authTokenDir i t) s

private theorem writes_of_reached
    (written : ∀ i, (chunks i).foldl (· ++ ·) "" = payload (sessions i))
    (clean : ∀ i, Clean cfg.authTokenDir i start)
    (reached : Interleaves (DiskAnswers fails) (writers cfg projects chunks start) pool) (i : ι) :
    Writes cfg projects (fun i => payload (sessions i)) fails i (pool.threads i) pool.state := by
  have first (i : ι) : Writes cfg projects (fun i => payload (sessions i)) fails i
      ((writers cfg projects chunks start).threads i) start := by
    have follow := follows_writers cfg projects fails (fun _ _ _ => True) (fun _ _ _ => trivial)
      written clean i
    refine amid_consequence (amid_of_follows follow) fun outcome t ended => ?_
    obtain ⟨rest, ended⟩ := ended
    cases outcome with
    | ok value => exact ended.2
    | error error => exact ended.2
  refine reached.amid first ?_ ?_ i
  · intro i outcome s t ended moved tidy
    exact (ended tidy).spared moved
  · intro i j different s op answer t _ gives
    exact gives.spares j different

/-- What the steps of the threads keep holds later. -/
theorem kept_of_reached (safe : TokenDisk ι → Prop)
    (written : ∀ i, (chunks i).foldl (· ++ ·) "" = payload (sessions i))
    (clean : ∀ i, Clean cfg.authTokenDir i start)
    (reached : Interleaves (DiskAnswers fails) (writers cfg projects chunks start) pool)
    (further : Interleaves (DiskAnswers fails) pool later) (initial : safe pool.state)
    (kept : ∀ i s t, safe s →
      Owed cfg.authTokenDir i (tokenPath cfg (projects i)) (payload (sessions i)) s t → safe t) :
    safe later.state := by
  refine further.invariant (writes_of_reached written clean reached) ?_ ?_ initial ?_
  · intro i outcome s t ended moved tidy
    exact (ended tidy).spared moved
  · intro i j different s op answer t _ gives
    exact gives.spares j different
  · intro i s op t here gives
    exact kept i s t here gives.owed

/-! ### Two threads -/

/-- The text of a token file. -/
def sampleText : Session → String
  | .admin => "admin"
  | .org name => "Bearer " ++ name

/-- The text of the token of a project, in two pieces and in one. -/
def sampleChunks : Bool → List String
  | true => ["Bearer ", "manila-p1"]
  | false => ["Bearer manila-p1"]

/-- A directory that is not there yet. -/
def sampleDisk : TokenDisk Bool :=
  ⟨fun _ => none, fun _ => none, fun _ => ⟨"", 0, none⟩, 0, fun _ _ named => by cases named⟩

/-- Two threads that write the token of one project. -/
def sampleWriters : Pool FileOp FileOp.Res Error (TokenDisk Bool) (fun _ : Bool => String) :=
  writers sampleConfig (fun _ => some "p1") sampleChunks sampleDisk

private theorem sample_written (i : Bool) :
    (sampleChunks i).foldl (· ++ ·) "" = sampleText (.org "manila-p1") := by
  cases i <;> decide

private theorem sample_clean (i : Bool) : Clean sampleConfig.authTokenDir i sampleDisk := by
  intro path number temp named
  cases named

/-- One thread has renamed its file while the other is writing, and the other renames its own
later. -/
theorem sample_runs : ∃ pool, Interleaves (DiskAnswers fun _ => False) sampleWriters pool ∧
    pool.state.names (tokenPath sampleConfig (some "p1")) = some 1 ∧
    pool.state.names (tempPath sampleConfig.authTokenDir "a") = some 0 ∧
    ∃ later, Interleaves (DiskAnswers fun _ => False) pool later ∧
      ∀ i, later.threads i = .ret (tokenPath sampleConfig (some "p1")) := by
  have run : Interleaves (DiskAnswers fun _ => False) sampleWriters _ := .start
  have run := run.step (i := true) rfl (.madeDir rfl)
  have run := run.step (i := false) rfl (.foundDir (by decide))
  have run := run.step (i := true) rfl .chmod
  have run := run.step (i := false) rfl .chmod
  have run := run.step (i := true) rfl (.mkstemp "a" (by decide) rfl)
  have run := run.step (i := false) rfl (.mkstemp "b" (by decide) rfl)
  have run := run.step (i := true) rfl .write
  have run := run.step (i := false) rfl .write
  have run := run.step (i := false) rfl .close
  have run := run.step (i := false) rfl (.replace 1 rfl)
  refine ⟨_, run, rfl, rfl, _, .step (i := true) (.step (i := true)
    (.step (i := true) .start rfl .write) rfl .close) rfl (.replace 0 rfl), fun i => ?_⟩
  cases i <;> rfl

/-! ### What the threads do -/

/-- In any interleaving, the threads that write tokens step by step do what threads do that write
each token with one call: the paths show what those have written, and each thread that has ended has
ended alike. -/
theorem writes_atomic (fault : Fault) {w : World}
    (may : ∀ w path session, fault w (.host (.writeTokenFile path session)) .os)
    (written : ∀ i, (chunks i).foldl (· ++ ·) "" = payload (sessions i))
    (clean : ∀ i, Clean cfg.authTokenDir i start) (shows : Shows cfg.authTokenDir payload start w)
    (reached : Interleaves (DiskAnswers fails) (writers cfg projects chunks start) pool) :
    ∃ pool' : Pool Op Op.Res Error World (fun _ : ι => String),
      Interleaves (fun _ => service fault) (wholeWriters cfg projects sessions w) pool' ∧
      Shows cfg.authTokenDir payload pool.state pool'.state ∧
      ∀ i, (∀ path, pool.threads i = .ret path → pool'.threads i = .ret path) ∧
        ∀ error, pool.threads i = .fail error → pool'.threads i = .fail error := by
  obtain ⟨pool', reached', shows', follow⟩ := Interleaves.refines reached
    (show Shows cfg.authTokenDir payload (writers cfg projects chunks start).state
      (wholeWriters cfg projects sessions w).state from shows)
    (follows_writers cfg projects fails fault may written clean)
    (fun _ outcome _ _ _ ended moved => lasting_ended outcome ended moved)
    (fun _ j different _ _ _ _ _ gives => gives.spares j different)
  refine ⟨pool', reached', shows', fun i => ⟨fun path ended => ?_, fun error ended => ?_⟩⟩
  · have here := follow i
    rw [ended] at here
    exact here.1
  · have here := follow i
    rw [ended] at here
    exact here.1

/-- Two threads write one token file, as two whole writes would. -/
theorem writes_atomic_sample : ∃ pool : Pool Op Op.Res Error World (fun _ : Bool => String),
    Interleaves (fun _ => service fun _ _ error => error = .os)
      (wholeWriters sampleConfig (fun _ => some "p1") (fun _ => .org "manila-p1")
        ⟨Cluster.empty, Host.empty⟩) pool ∧
      ∀ i, pool.threads i = .ret (tokenPath sampleConfig (some "p1")) := by
  obtain ⟨pool, run, -, -, later, further, ended⟩ := sample_runs
  obtain ⟨pool', run', -, same⟩ := writes_atomic (fun _ _ error => error = .os)
    (fun _ _ _ => rfl) sample_written sample_clean (show Shows _ sampleText sampleDisk
      ⟨Cluster.empty, Host.empty⟩ from fun _ _ => rfl) (run.trans further)
  exact ⟨pool', run', fun i => (same i).1 _ (ended i)⟩

/-- Whoever has opened a path has a whole token, for good: the one that was there at first or one
that a thread wrote for the path. -/
theorem opened_whole (written : ∀ i, (chunks i).foldl (· ++ ·) "" = payload (sessions i))
    (clean : ∀ i, Clean cfg.authTokenDir i start)
    (single : ∀ path number, ¬ IsTemp cfg.authTokenDir path → start.names path = some number →
      Sealed cfg.authTokenDir start number)
    (reached : Interleaves (DiskAnswers fails) (writers cfg projects chunks start) pool)
    (further : Interleaves (DiskAnswers fails) pool later) {path : String} {number : Nat}
    (final : ¬ IsTemp cfg.authTokenDir path) (opened : pool.state.names path = some number) :
    start.names path = some number ∧ later.state.file number = start.file number ∨
      ∃ i, path = tokenPath cfg (projects i) ∧
        later.state.file number = ⟨payload (sessions i), 0o600, some i⟩ := by
  have whole := kept_of_reached (fun s => ∀ path number, ¬ IsTemp cfg.authTokenDir path →
      s.names path = some number → Sealed cfg.authTokenDir s number ∧
        (start.names path = some number ∧ s.file number = start.file number ∨
          ∃ i, path = tokenPath cfg (projects i) ∧
            s.file number = ⟨payload (sessions i), 0o600, some i⟩)) written clean .start reached
    (fun path number final named => ⟨single path number final named, .inl ⟨named, rfl⟩⟩) ?_
  · obtain ⟨here, file⟩ := whole path number final opened
    have stays := kept_of_reached (fun t => Sealed cfg.authTokenDir t number ∧
      t.file number = pool.state.file number) written clean reached further ⟨here, rfl⟩ ?_
    · rwa [stays.2]
    · intro i s t kept owed
      obtain ⟨later, same⟩ := owed.stays number kept.1
      exact ⟨later, same.trans kept.2⟩
  · intro i s t kept owed path number final named
    rcases owed.opened path number final named with before | ⟨new, rfl, file⟩
    · obtain ⟨here, file⟩ := kept path number final before
      obtain ⟨later, same⟩ := owed.stays number here
      exact ⟨later, by rwa [same]⟩
    · exact ⟨new, .inr ⟨i, rfl, file⟩⟩

/-- Whoever opens the token path in the sample has the whole token, also after the other write. -/
theorem opened_whole_sample : ∃ pool later,
    Interleaves (DiskAnswers fun _ => False) sampleWriters pool ∧
    Interleaves (DiskAnswers fun _ => False) pool later ∧
    pool.state.names (tokenPath sampleConfig (some "p1")) = some 1 ∧
    (later.state.file 1).text = "Bearer manila-p1" := by
  obtain ⟨pool, run, opened, -, later, further, -⟩ := sample_runs
  refine ⟨pool, later, run, further, opened, ?_⟩
  rcases opened_whole sample_written sample_clean (fun _ _ _ named => by cases named) run further
    (final_tokenPath _ _) opened with ⟨impossible, -⟩ | ⟨i, -, file⟩
  · cases impossible
  · rw [file]
    exact (by decide : sampleText (.org "manila-p1") = "Bearer manila-p1")

/-- Every temporary file that was not there at first belongs to a thread that has not ended, if
removing files does not fail. -/
theorem no_temporary_left (written : ∀ i, (chunks i).foldl (· ++ ·) "" = payload (sessions i))
    (clean : ∀ i, Clean cfg.authTokenDir i start) (tidy : ∀ path, ¬ fails (.unlink path))
    (reached : Interleaves (DiskAnswers fails) (writers cfg projects chunks start) pool)
    {path : String} {number : Nat} (temp : IsTemp cfg.authTokenDir path)
    (named : pool.state.names path = some number) :
    start.names path = some number ∨ ∃ i op next, (pool.state.file number).maker = some i ∧
      pool.threads i = .call op next := by
  cases made : (pool.state.file number).maker with
  | none =>
      have strange := kept_of_reached (fun s => ∀ path number, IsTemp cfg.authTokenDir path →
        s.names path = some number → (s.file number).maker = none →
          start.names path = some number) written clean .start reached
        (fun _ _ _ named _ => named) ?_
      · exact .inl (strange path number temp named made)
      · intro i s t kept owed path number temp named made
        obtain ⟨named, made⟩ := owed.strangers path number temp named made
        exact kept path number temp named made
  | some i =>
      have writes := writes_of_reached written clean reached i
      cases running : pool.threads i with
      | ret value =>
          rw [running] at writes
          exact absurd made (writes tidy path number temp named)
      | fail error =>
          rw [running] at writes
          exact absurd made (writes tidy path number temp named)
      | call op next => exact .inr ⟨i, op, next, rfl, running⟩

/-- In the sample a temporary file belongs to a thread that is still writing. -/
theorem no_temporary_left_sample : ∃ pool,
    Interleaves (DiskAnswers fun _ => False) sampleWriters pool ∧
      ∃ i op next, (pool.state.file 0).maker = some i ∧ pool.threads i = .call op next := by
  obtain ⟨pool, run, -, left, -⟩ := sample_runs
  refine ⟨pool, run, ?_⟩
  rcases no_temporary_left sample_written sample_clean (fun _ => id) run ⟨"a", rfl⟩ left with
    impossible | running
  · cases impossible
  · exact running

end Writers
end TokenDisk

end WekaShareDriver
