import WekaShareDriver.Gerrit.Events
import WekaShareDriver.Foundation.Reaches
import WekaShareDriver.Foundation.Obeys

/-! # The listener that starts the CI

`gerrit-listener.py` runs the patch sets that the events of a Gerrit server ask for, and remembers
in a file which ones it has run. The file is emptied and then written, the listener may be stopped
at any point, and it is started again (`WekaShareDriver.Gerrit.Lifetimes`).

Whatever the server sends, every run answers the last event, which the settings let start a run
(`WekaShareDriver.Gerrit.runs_authorized`), and a patch set is run again only after somebody asked
for it, unless the listener was stopped while the file was empty
(`WekaShareDriver.Gerrit.not_run_twice`).
-/

namespace WekaShareDriver

open Foundation Program

namespace Gerrit

/-- The file of what was run: none yet, one that is no JSON, as it is while it is written, or a
list of changes and patch sets. -/
inductive StateFile where
  | missing
  | broken
  | holds (tested : List (String × String))

/-- What a file tells; one that is missing or no JSON tells nothing. -/
def StateFile.tested : StateFile → List (String × String)
  | .holds tested => tested
  | .missing => []
  | .broken => []

/-- How the script that runs the CI ends. -/
inductive RunnerEnd where
  | completed (code : Int)
  | timedOut

/-- What the listener does outside its memory. -/
inductive ListenerOp where
  | makeStateDir
  | readState
  | receive (event : Json)
  | emptyState
  | dumpState (tested : List (String × String))
  | openLock
  | lock
  | runner (change patchset revision : String)
  | postResults (change patchset : String) (revision : Json)
  | unlock

/-- What each operation returns. -/
def ListenerOp.Res : ListenerOp → Type
  | .readState => StateFile
  | .runner _ _ _ => RunnerEnd
  | _ => Unit

/-- What ends a life of the listener. -/
inductive ListenerError where
  | python (error : PyError)
  | os (reason : String)

/-- A program of the listener. -/
abbrev Listener (α : Type) : Type := Program ListenerOp ListenerOp.Res ListenerError α

/-- The set of the changes and patch sets that were run. -/
def loadState : Listener (List (String × String)) := do
  let file ← (perform ListenerOp.readState : Listener StateFile)
  return file.tested

/-- Write the set; opening the file empties it. -/
def saveState (tested : List (String × String)) : Listener Unit := do
  (perform ListenerOp.emptyState : Listener Unit)
  (perform (ListenerOp.dumpState tested) : Listener Unit)

/-- Record that a patch set is run. -/
def markTested (tested : List (String × String)) (key : String × String) :
    Listener (List (String × String)) := do
  saveState (tested.insert key)
  return tested.insert key

/-- Forget that a patch set was run. -/
def clearTested (tested : List (String × String)) (key : String × String) :
    Listener (List (String × String)) := do
  saveState (tested.filter (· ≠ key))
  return tested.filter (· ≠ key)

/-- The first twelve characters of a revision can be logged. -/
def sliced : Json → Listener Unit
  | .str _ => return ()
  | .arr _ => return ()
  | _ => throw (.python .type)

/-- Run the script, whose arguments have to be strings. -/
def runScript (change patchset : String) : Json → Listener RunnerEnd
  | .str revision => perform (ListenerOp.runner change patchset revision)
  | _ => throw (.python .type)

/-- Run the CI for a patch set, one run at a time. -/
def runJob (change patchset : String) (revision : Json) : Listener Unit := do
  sliced revision
  (perform ListenerOp.openLock : Listener Unit)
  tryCatch (do
    (perform ListenerOp.lock : Listener Unit)
    match ← runScript change patchset revision with
    | .completed _ => return ()
    | .timedOut =>
        tryCatch (perform (ListenerOp.postResults change patchset revision) : Listener Unit)
          fun _ => return ())
    fun _ => return ()
  (perform ListenerOp.unlock : Listener Unit)

section Main

variable (settings : Settings)

/-- The trigger of an event; what it raises is not caught. -/
def parsed (event : Json) : Listener (Option Trigger) :=
  match settings.parseEvent event with
  | .ok trigger => return trigger
  | .error error => throw (.python error)

/-- Run a patch set, unless it was run before and nobody asks for it again. -/
def start (tested : List (String × String)) (trigger : Trigger) :
    Listener (List (String × String)) := do
  let key := (trigger.change, trigger.patchset)
  let tested ← (if trigger.recheck then clearTested tested key else pure tested : Listener _)
  if key ∈ tested then
    return tested
  else
    let tested ← markTested tested key
    runJob trigger.change trigger.patchset trigger.revision
    return tested

/-- One turn of the loop over the events. -/
def turn (tested : List (String × String)) (event : Json) : Listener (List (String × String)) := do
  (perform (ListenerOp.receive event) : Listener Unit)
  match ← parsed settings event with
  | none => return tested
  | some trigger => start tested trigger

/-- The listener, on the events of one life. -/
def main (events : List Json) : Listener (List (String × String)) := do
  (perform ListenerOp.makeStateDir : Listener Unit)
  let tested ← loadState
  events.foldlM (turn settings) tested

end Main

/-! ## What happens -/

/-- What is recorded of the lives of a listener, to speak about them. -/
inductive Entry where
  | started
  | received (event : Json)
  | emptied
  | saved (tested : List (String × String))
  | ran (change patchset revision : String)

/-- A run of the script. -/
def Entry.isRun : Entry → Bool
  | .ran _ _ _ => true
  | _ => false

/-- The file of what was run, and what happened, the latest first. -/
structure Journal where
  file : StateFile
  history : List Entry

/-- Record what happens. -/
def Journal.note (journal : Journal) (entry : Entry) : Journal :=
  { journal with history := entry :: journal.history }

/-- How the host answers: any operation may fail, the list is only on the disk when it is written
whole, and a run of the script counts as one however it ends. -/
inductive Serves : Service ListenerOp ListenerOp.Res ListenerError Journal where
  | fails {journal : Journal} {op : ListenerOp} (error : ListenerError) :
      Serves journal op (.error error) journal
  | madeStateDir {journal : Journal} : Serves journal .makeStateDir (.ok ()) journal
  | readState {journal : Journal} : Serves journal .readState (.ok journal.file) journal
  | received {journal : Journal} {event : Json} :
      Serves journal (.receive event) (.ok ()) (journal.note (.received event))
  | emptied {journal : Journal} :
      Serves journal .emptyState (.ok ()) ⟨.broken, .emptied :: journal.history⟩
  | dumped {journal : Journal} {tested : List (String × String)} :
      Serves journal (.dumpState tested) (.ok ())
        ⟨.holds tested, .saved tested :: journal.history⟩
  | openedLock {journal : Journal} : Serves journal .openLock (.ok ()) journal
  | locked {journal : Journal} : Serves journal .lock (.ok ()) journal
  | ran {journal : Journal} {change patchset revision : String}
      (outcome : Except ListenerError RunnerEnd) :
      Serves journal (.runner change patchset revision) outcome
        (journal.note (.ran change patchset revision))
  | posted {journal : Journal} {change patchset : String} {revision : Json} :
      Serves journal (.postResults change patchset revision) (.ok ()) journal
  | unlocked {journal : Journal} : Serves journal .unlock (.ok ()) journal

/-- The lives of a listener: each handles any events and may be stopped at any point. -/
inductive Lifetimes (settings : Settings) : Journal → Prop where
  | none : Lifetimes settings ⟨.missing, []⟩
  | life {journal journal' : Journal} (events : List Json) : Lifetimes settings journal →
      Reaches Serves (main settings events) (journal.note .started) journal' →
      Lifetimes settings journal'

/-! ## Whom a run answers -/

section Runs

variable (settings : Settings)

/-- Somebody asks for a patch set to be run. -/
def Asks (event : Json) (key : String × String) : Prop :=
  ∃ revision, settings.parseEvent event = .ok (some ⟨key.1, key.2, revision, true⟩)

/-- Since a patch set was run somebody asked for it again, or a life ended while the file was
written. -/
def Renewed (key : String × String) (since : List Entry) : Prop :=
  (∃ event, .received event ∈ since ∧ Asks settings event key) ∨
    ∃ newer older, since = newer ++ .started :: .emptied :: older

/-- A patch set may be run: every run of it is renewed. -/
def Due (key : String × String) (history : List Entry) : Prop :=
  ∀ since revision before, history = since ++ .ran key.1 key.2 revision :: before →
    Renewed settings key since

/-- Nothing but writing the file has happened since an event with a trigger. -/
def Answers (trigger : Trigger) (history : List Entry) : Prop :=
  ∃ writes event before, history = writes ++ .received event :: before ∧
    (∀ entry ∈ writes, entry = .emptied ∨ ∃ tested, entry = .saved tested) ∧
    settings.parseEvent event = .ok (some trigger)

/-- Every run answers an event and was due. -/
def Sound (history : List Entry) : Prop :=
  ∀ later change patchset revision before,
    history = later ++ .ran change patchset revision :: before →
      (∃ recheck, Answers settings ⟨change, patchset, .str revision, recheck⟩ before) ∧
        Due settings (change, patchset) before

/-- A set has all patch sets that may not be run. -/
def Covers (tested : List (String × String)) (history : List Entry) : Prop :=
  ∀ key, key ∉ tested → Due settings key history

/-- What holds wherever a listener is stopped: the next one finds what it has to know. -/
structure Safe (journal : Journal) : Prop where
  sound : Sound settings journal.history
  kept : Covers settings journal.file.tested (.started :: journal.history)

/-- What holds between two events. -/
structure Ready (tested : List (String × String)) (journal : Journal) : Prop where
  sound : Sound settings journal.history
  known : Covers settings tested journal.history
  kept : Covers settings journal.file.tested journal.history

variable {settings} {key : String × String} {history : List Entry} {entry : Entry}

/-- What was asked for again has been so since. -/
theorem Renewed.cons (renewed : Renewed settings key history) :
    Renewed settings key (entry :: history) := by
  rcases renewed with ⟨event, member, asks⟩ | ⟨newer, older, rfl⟩
  · exact .inl ⟨event, List.mem_cons_of_mem _ member, asks⟩
  · exact .inr ⟨entry :: newer, older, rfl⟩

/-- A patch set stays due until it is run. -/
theorem Due.cons (due : Due settings key history)
    (other : ∀ revision, entry ≠ .ran key.1 key.2 revision) :
    Due settings key (entry :: history) := by
  intro since revision before split
  cases since with
  | nil => exact absurd (List.cons_eq_cons.mp split).1 (other revision)
  | cons newest since =>
      obtain ⟨rfl, rest⟩ := List.cons_eq_cons.mp split
      exact (due since revision before rest).cons

/-- A patch set that is asked for is due. -/
theorem due_of_asks {event : Json} (asks : Asks settings event key) :
    Due settings key (.received event :: history) := by
  intro since revision before split
  cases since with
  | nil => cases (List.cons_eq_cons.mp split).1
  | cons newest since =>
      obtain ⟨rfl, -⟩ := List.cons_eq_cons.mp split
      exact .inl ⟨event, List.mem_cons_self, asks⟩

/-- Every patch set is due where the file was lost. -/
theorem due_of_lost : Due settings key (.started :: .emptied :: history) := by
  intro since revision before split
  cases since with
  | nil => cases (List.cons_eq_cons.mp split).1
  | cons newest since =>
      obtain ⟨rfl, rest⟩ := List.cons_eq_cons.mp split
      cases since with
      | nil => cases (List.cons_eq_cons.mp rest).1
      | cons next since =>
          obtain ⟨rfl, -⟩ := List.cons_eq_cons.mp rest
          exact .inr ⟨[], since, rfl⟩

/-- Whatever happens but a run, the patch sets in memory cover the runs. -/
theorem Covers.cons {tested : List (String × String)} (covers : Covers settings tested history)
    (other : entry.isRun = false) : Covers settings tested (entry :: history) := by
  intro key absent
  refine (covers key absent).cons ?_
  rintro revision rfl
  cases other

/-- A set that has a patch set stays enough when that is run. -/
theorem Covers.ran {tested : List (String × String)} {change patchset revision : String}
    (covers : Covers settings tested history) (member : (change, patchset) ∈ tested) :
    Covers settings tested (.ran change patchset revision :: history) := by
  intro key absent
  refine (covers key absent).cons fun revision' same => absent ?_
  injection same with first second
  rwa [first, second] at member

/-- Whatever happens but a run, the history is sound. -/
theorem Sound.cons (sound : Sound settings history) (other : entry.isRun = false) :
    Sound settings (entry :: history) := by
  intro later change patchset revision before split
  cases later with
  | nil =>
      obtain ⟨rfl, -⟩ := List.cons_eq_cons.mp split
      cases other
  | cons newest later =>
      exact sound later change patchset revision before (List.cons_eq_cons.mp split).2

/-- A run that answers the last event and is due leaves the history sound. -/
theorem Sound.ran {change patchset revision : String} {recheck : Bool}
    (sound : Sound settings history)
    (answers : Answers settings ⟨change, patchset, .str revision, recheck⟩ history)
    (due : Due settings (change, patchset) history) :
    Sound settings (.ran change patchset revision :: history) := by
  intro later change' patchset' revision' before split
  cases later with
  | nil =>
      obtain ⟨same, rfl⟩ := List.cons_eq_cons.mp split
      injection same with first second third
      subst first second third
      exact ⟨⟨recheck, answers⟩, due⟩
  | cons newest later =>
      exact sound later change' patchset' revision' before (List.cons_eq_cons.mp split).2

/-- A listener between two events may stop. -/
theorem Ready.safe {tested : List (String × String)} {journal : Journal}
    (ready : Ready settings tested journal) : Safe settings journal :=
  ⟨ready.sound, ready.kept.cons rfl⟩

/-! ### The steps of a listener -/

/-- Writing the file leaves it as meant or fails, and a restart loses nothing it has to know. -/
theorem wp_saveState {tested : List (String × String)} {journal : Journal}
    (safe : Safe settings journal) (covers : Covers settings tested journal.history) :
    (saveState tested).wp Serves (passing (Safe settings))
      (ending (fun _ t => t = ⟨.holds tested, .saved tested :: .emptied :: journal.history⟩)
        fun _ => Safe settings) journal := by
  intro answer t emptied
  cases emptied with
  | fails error => exact ⟨safe, safe⟩
  | emptied =>
      have sound : Sound settings (.emptied :: journal.history) :=
        safe.sound.cons rfl
      have lost : Safe settings ⟨.broken, .emptied :: journal.history⟩ :=
        ⟨sound, fun key _ => due_of_lost⟩
      refine ⟨lost, fun answer u dumped => ?_⟩
      cases dumped with
      | fails error => exact ⟨lost, lost⟩
      | dumped =>
          exact ⟨⟨sound.cons rfl, ((covers.cons rfl).cons rfl).cons rfl⟩, rfl⟩

/-- Between two events, right after the file was written. -/
theorem ready_of_saved {tested : List (String × String)} {journal : Journal}
    (sound : Sound settings journal.history) (covers : Covers settings tested journal.history) :
    Ready settings tested ⟨.holds tested, .saved tested :: .emptied :: journal.history⟩ := by
  have covers : Covers settings tested (.saved tested :: .emptied :: journal.history) :=
    (covers.cons rfl).cons rfl
  exact ⟨(sound.cons rfl).cons rfl, covers, covers⟩

/-- Writing the file does not answer the event. -/
theorem Answers.saved {trigger : Trigger} {tested : List (String × String)}
    (answers : Answers settings trigger history) :
    Answers settings trigger (.saved tested :: .emptied :: history) := by
  obtain ⟨writes, event, before, rfl, only, parsed⟩ := answers
  refine ⟨.saved tested :: .emptied :: writes, event, before, rfl, fun entry member => ?_, parsed⟩
  rcases List.mem_cons.mp member with rfl | member
  · exact .inr ⟨tested, rfl⟩
  · rcases List.mem_cons.mp member with rfl | member
    · exact .inl rfl
    · exact only entry member

/-- The operations that nothing is recorded of. -/
def ListenerOp.silent : ListenerOp → Bool
  | .makeStateDir => true
  | .readState => true
  | .openLock => true
  | .lock => true
  | .postResults _ _ _ => true
  | .unlock => true
  | _ => false

private theorem wp_silent {op : ListenerOp} {journal : Journal} (silent : op.silent = true)
    (safe : Safe settings journal) :
    (perform op : Listener op.Res).wp Serves (passing (Safe settings))
      (ending (fun _ t => t = journal) fun _ t => t = journal) journal := by
  rw [wp_perform]
  intro answer t served
  cases served with
  | fails error => exact ⟨safe, rfl⟩
  | madeStateDir => exact ⟨safe, rfl⟩
  | readState => exact ⟨safe, rfl⟩
  | received => cases silent
  | emptied => cases silent
  | dumped => cases silent
  | openedLock => exact ⟨safe, rfl⟩
  | locked => exact ⟨safe, rfl⟩
  | ran outcome => cases silent
  | posted => exact ⟨safe, rfl⟩
  | unlocked => exact ⟨safe, rfl⟩

/-- Between two events, right after the patch set of the last one was run. -/
theorem Ready.ran {tested : List (String × String)} {journal : Journal}
    {change patchset revision : String} {recheck : Bool} (ready : Ready settings tested journal)
    (answers : Answers settings ⟨change, patchset, .str revision, recheck⟩ journal.history)
    (due : Due settings (change, patchset) journal.history)
    (known : (change, patchset) ∈ tested) (kept : (change, patchset) ∈ journal.file.tested) :
    Ready settings tested (journal.note (.ran change patchset revision)) :=
  ⟨ready.sound.ran answers due, ready.known.ran known, ready.kept.ran kept⟩

/-- The script runs the patch set that the event is about, or nothing. -/
theorem wp_runScript {trigger : Trigger} {tested : List (String × String)} {journal : Journal}
    (ready : Ready settings tested journal)
    (answers : Answers settings trigger journal.history)
    (due : Due settings (trigger.change, trigger.patchset) journal.history)
    (known : (trigger.change, trigger.patchset) ∈ tested)
    (kept : (trigger.change, trigger.patchset) ∈ journal.file.tested) :
    (runScript trigger.change trigger.patchset trigger.revision).wp Serves
      (passing (Safe settings))
      (ending (fun _ => Ready settings tested) fun _ => Ready settings tested) journal := by
  obtain ⟨change, patchset, revision, recheck⟩ := trigger
  cases revision with
  | str revision =>
      intro answer t served
      have after : Ready settings tested t := by
        cases served with
        | fails error => exact ready
        | ran outcome => exact ready.ran answers due known kept
      refine ⟨after.safe, ?_⟩
      cases answer with
      | ok ended => exact after
      | error error => exact after
  | null => exact ready
  | bool value => exact ready
  | int value => exact ready
  | float text => exact ready
  | arr items => exact ready
  | obj fields => exact ready

/-- A job runs the patch set at most once, and answers the event with it. -/
theorem wp_runJob {trigger : Trigger} {tested : List (String × String)} {journal : Journal}
    (ready : Ready settings tested journal)
    (answers : Answers settings trigger journal.history)
    (due : Due settings (trigger.change, trigger.patchset) journal.history)
    (known : (trigger.change, trigger.patchset) ∈ tested)
    (kept : (trigger.change, trigger.patchset) ∈ journal.file.tested) :
    (runJob trigger.change trigger.patchset trigger.revision).wp Serves
      (passing (Safe settings)) (ending (fun _ => Ready settings tested) fun _ => Safe settings)
      journal := by
  have silently {op : ListenerOp} (silent : op.silent = true) (t : Journal)
      (ready : Ready settings tested t) : (perform op : Listener op.Res).wp Serves
        (passing (Safe settings))
        (ending (fun _ => Ready settings tested) fun _ => Ready settings tested) t := by
    refine wp_weaken (wp_silent silent ready.safe) (fun _ safe => safe) ?_ ?_
    · rintro _ _ rfl
      exact ready
    · rintro _ _ rfl
      exact ready
  refine wp_bind_of (fun _ t => t = journal) ?_ fun _ t same => ?_
  · cases trigger.revision with
    | str revision => exact rfl
    | arr items => exact rfl
    | null => exact ready.safe
    | bool value => exact ready.safe
    | int value => exact ready.safe
    | float text => exact ready.safe
    | obj fields => exact ready.safe
  subst same
  refine wp_bind_of (fun _ u => u = t) ?_ fun _ u same => ?_
  · refine wp_weaken (wp_silent rfl ready.safe) (fun _ safe => safe) (fun _ _ same => same) ?_
    rintro _ _ rfl
    exact ready.safe
  subst same
  refine wp_bind_of (fun _ => Ready settings tested) ?_ fun _ v after => ?_
  · refine wp_tryCatch_of (fun _ => Ready settings tested) ?_ fun _ v after => after
    refine wp_bind_of (fun _ v => v = u) ?_ fun _ v same => ?_
    · refine wp_weaken (wp_silent rfl ready.safe) (fun _ safe => safe) (fun _ _ same => same) ?_
      rintro _ _ rfl
      exact ready
    subst same
    refine wp_bind_of _ (wp_runScript ready answers due known kept) fun ended w after => ?_
    cases ended with
    | completed code => exact after
    | timedOut =>
        exact wp_tryCatch_of _ (silently rfl w after) fun _ x after => after
  · exact wp_weaken (silently rfl v after) (fun _ safe => safe) (fun _ _ after => after)
      fun _ _ after => after.safe

/-- What follows once an event is known to be a trigger. -/
theorem wp_start {trigger : Trigger} {tested : List (String × String)} {journal : Journal}
    (ready : Ready settings tested journal) (answers : Answers settings trigger journal.history)
    (asked : trigger.recheck = true →
      Due settings (trigger.change, trigger.patchset) journal.history) :
    (start tested trigger).wp Serves (passing (Safe settings))
      (ending (Ready settings) fun _ => Safe settings) journal := by
  have forgotten (here : trigger.recheck = true) : Covers settings
      (tested.filter (· ≠ (trigger.change, trigger.patchset))) journal.history := by
    intro key absent
    by_cases same : key = (trigger.change, trigger.patchset)
    · rw [same]
      exact asked here
    · refine ready.known key fun member => absent ?_
      exact List.mem_filter.mpr ⟨member, decide_eq_true same⟩
  refine wp_bind_of (fun tested t => Ready settings tested t ∧ Answers settings trigger t.history)
    ?_ fun tested t here => ?_
  · by_cases recheck : trigger.recheck
    · rw [if_pos recheck]
      refine wp_bind_of _ (wp_saveState ready.safe (forgotten recheck)) ?_
      rintro - _ rfl
      exact ⟨ready_of_saved ready.sound (forgotten recheck), answers.saved⟩
    · rw [if_neg recheck]
      exact ⟨ready, answers⟩
  · obtain ⟨ready, answers⟩ := here
    by_cases member : (trigger.change, trigger.patchset) ∈ tested
    · rw [if_pos member]
      exact ready
    · rw [if_neg member]
      have due := ready.known _ member
      have marked : Covers settings (tested.insert (trigger.change, trigger.patchset)) t.history :=
        fun key absent => ready.known key fun held => absent (List.mem_insert_of_mem held)
      refine wp_bind_of (fun tested u => Ready settings tested u ∧
        (trigger.change, trigger.patchset) ∈ tested ∧
        (trigger.change, trigger.patchset) ∈ u.file.tested ∧
        Answers settings trigger u.history ∧
        Due settings (trigger.change, trigger.patchset) u.history) ?_ fun tested u here => ?_
      · refine wp_bind_of _ (wp_saveState ready.safe marked) ?_
        rintro - _ rfl
        exact ⟨ready_of_saved ready.sound marked, List.mem_insert_self, List.mem_insert_self,
          answers.saved, (due.cons fun _ same => by cases same).cons fun _ same => by cases same⟩
      · obtain ⟨ready, known, kept, answers, due⟩ := here
        refine wp_bind_of _ (wp_runJob ready answers due known kept) fun _ v after => ?_
        exact after

/-- A turn of the loop. -/
theorem wp_turn {tested : List (String × String)} {journal : Journal} (event : Json)
    (ready : Ready settings tested journal) :
    (turn settings tested event).wp Serves (passing (Safe settings))
      (ending (Ready settings) fun _ => Safe settings) journal := by
  have heard : Ready settings tested (journal.note (.received event)) :=
    ⟨ready.sound.cons rfl, ready.known.cons rfl, ready.kept.cons rfl⟩
  refine wp_bind_of (fun _ t => t = journal.note (.received event)) ?_ ?_
  · intro answer t served
    cases served with
    | fails error => exact ⟨ready.safe, ready.safe⟩
    | received => exact ⟨heard.safe, rfl⟩
  · rintro - _ rfl
    unfold parsed
    cases result : settings.parseEvent event with
    | error error => exact heard.safe
    | ok trigger =>
        cases trigger with
        | none => exact heard
        | some trigger =>
            refine wp_start heard ⟨[], event, journal.history, rfl, ?_, result⟩ fun asked => ?_
            · intro entry member
              cases member
            · refine due_of_asks ⟨trigger.revision, ?_⟩
              rw [result, ← asked]

/-- The whole life of a listener. -/
theorem wp_main {journal : Journal} (events : List Json) (safe : Safe settings journal) :
    (main settings events).wp Serves (passing (Safe settings))
      (ending (Ready settings) fun _ => Safe settings) (journal.note .started) := by
  have ready : Ready settings journal.file.tested (journal.note .started) :=
    ⟨safe.sound.cons rfl, safe.kept, safe.kept⟩
  refine wp_bind_of (fun _ t => t = journal.note .started) ?_ ?_
  · refine wp_weaken (wp_silent rfl ready.safe) (fun _ safe => safe) (fun _ _ same => same) ?_
    rintro _ _ rfl
    exact ready.safe
  rintro - _ rfl
  refine wp_bind_of (Ready settings) ?_ fun tested t here => ?_
  · intro answer t served
    cases served with
    | fails error => exact ⟨ready.safe, ready.safe⟩
    | readState => exact ⟨ready.safe, ready⟩
  · refine wp_foldlM (fun _ => Ready settings) events ?_ (fun _ _ ready => ready) here
    intro visited event rest tested t _ ready
    rw [onOk_ending]
    exact wp_turn event ready

/-- Wherever a listener is, whatever happened in its lives. -/
theorem Lifetimes.safe {journal : Journal} (lives : Lifetimes settings journal) :
    Safe settings journal := by
  induction lives with
  | none =>
      refine ⟨?_, ?_⟩
      · intro later change patchset revision before split
        exact absurd split.symm (List.append_ne_nil_of_right_ne_nil _ (List.cons_ne_nil _ _))
      · refine fun key _ since revision before split => ?_
        cases since with
        | nil => cases (List.cons_eq_cons.mp split).1
        | cons newest since =>
            have rest := (List.cons_eq_cons.mp split).2
            exact absurd rest.symm (List.append_ne_nil_of_right_ne_nil _ (List.cons_ne_nil _ _))
  | life events _ reached ih =>
      have started : Safe settings (Journal.note _ .started) :=
        ⟨ih.sound.cons rfl, ih.kept.cons rfl⟩
      exact reached.of_wp started (wp_main events ih)

end Runs

/-! ## A listener that is asked twice -/

section Sample

variable {settings : Settings}

private theorem exec_saveState (tested : List (String × String)) (journal : Journal) :
    Exec Serves (saveState tested) journal (.ok ())
      ⟨.holds tested, .saved tested :: .emptied :: journal.history⟩ :=
  .call .emptied (.call .dumped (.ret _ _))

private theorem exec_runJob {change patchset revision : String} {journal : Journal} :
    Exec Serves (runJob change patchset (.str revision)) journal (.ok ())
      (journal.note (.ran change patchset revision)) :=
  .call .openedLock (.call .locked (.call (.ran (.ok (.completed 0)))
    (.call .unlocked (.ret _ _))))

/-- The set after a patch set was run that somebody asked for. -/
def rerun (tested : List (String × String)) (key : String × String) : List (String × String) :=
  (tested.filter (· ≠ key)).insert key

/-- A comment that asks for a patch set is answered by a run of it. -/
theorem exec_turn_asked {event : Json} {change patchset revision : String}
    {tested : List (String × String)} {journal : Journal}
    (asked : settings.parseEvent event = .ok (some ⟨change, patchset, .str revision, true⟩)) :
    Exec Serves (turn settings tested event) journal (.ok (rerun tested (change, patchset)))
      ⟨.holds (rerun tested (change, patchset)), .ran change patchset revision ::
        .saved (rerun tested (change, patchset)) :: .emptied ::
        .saved (tested.filter (· ≠ (change, patchset))) :: .emptied :: .received event ::
        journal.history⟩ := by
  refine .call .received ?_
  have told : parsed settings event = pure (some ⟨change, patchset, .str revision, true⟩) := by
    unfold parsed
    rw [asked]
  change Exec Serves (parsed settings event >>= _) _ _ _
  rw [told]
  change Exec Serves (clearTested tested (change, patchset) >>= _) _ _ _
  have forgotten : (change, patchset) ∉ tested.filter (· ≠ (change, patchset)) := by simp
  refine Exec.bind ((exec_saveState _ _).bind (.ret _ _)) ?_
  rw [if_neg forgotten]
  refine Exec.bind ((exec_saveState _ _).bind (.ret _ _)) ?_
  exact Exec.bind exec_runJob (.ret _ _)

/-- A listener that runs what one reviewer asks for. -/
def sampleSettings : Settings where
  word := fun char => char.isAlphanum || char == '_'
  alike := fun char other => char.toLower == other.toLower
  lower := fun text => String.ofList (text.toList.map Char.toLower)
  repr := fun _ => ""
  project := "openstack/manila"
  branch := "master"
  autoRun := false
  ciTrustedUsers := "reviewer"

/-- The reviewer asks for a patch set. -/
def sampleComment : Json :=
  .obj [("type", .str "comment-added"),
    ("change", .obj [("project", .str "openstack/manila"), ("branch", .str "master"),
      ("number", .int 812)]),
    ("patchSet", .obj [("number", .int 3), ("revision", .str "f00d")]),
    ("comment", .str "Patch Set 3: Run-Weka-CI, please"),
    ("author", .obj [("username", .str "Reviewer")])]

/-- What happens when the reviewer asks, the latest first. -/
def sampleTurn : List Entry :=
  [.ran "812" "3" "f00d", .saved [("812", "3")], .emptied, .saved [], .emptied,
    .received sampleComment]

/-- A life in which the reviewer asks twice. -/
theorem lifetimes_sample : Lifetimes sampleSettings
    ⟨.holds [("812", "3")], sampleTurn ++ (sampleTurn ++ [.started])⟩ := by
  have asked : sampleSettings.parseEvent sampleComment =
      .ok (some ⟨"812", "3", .str "f00d", true⟩) := rfl
  have turns : Exec Serves ([sampleComment, sampleComment].foldlM (turn sampleSettings) [])
      ⟨.missing, [.started]⟩ (.ok [("812", "3")])
      ⟨.holds [("812", "3")], sampleTurn ++ (sampleTurn ++ [.started])⟩ :=
    Exec.bind (exec_turn_asked asked) (Exec.bind (exec_turn_asked asked) (.ret _ _))
  have life : Exec Serves (main sampleSettings [sampleComment, sampleComment])
      ⟨.missing, [.started]⟩ (.ok [("812", "3")])
      ⟨.holds [("812", "3")], sampleTurn ++ (sampleTurn ++ [.started])⟩ :=
    .call .madeStateDir (.call .readState turns)
  exact .life _ .none life.reaches

end Sample

section Guarantees

variable {settings : Settings}

/-- Whatever the server sends and wherever its lives end, every run of a listener answers the last
event it received, which is about the patch set that is run and which the settings let start a
run. -/
theorem runs_authorized {journal : Journal} (lives : Lifetimes settings journal)
    {later before : List Entry} {change patchset revision : String}
    (ran : journal.history = later ++ .ran change patchset revision :: before) :
    ∃ writes event earlier recheck, before = writes ++ .received event :: earlier ∧
      (∀ entry ∈ writes, entry = .emptied ∨ ∃ tested, entry = .saved tested) ∧
      About settings event ⟨change, patchset, .str revision, recheck⟩ ∧
      Allowed settings event recheck := by
  obtain ⟨⟨recheck, writes, event, earlier, split, only, parsed⟩, -⟩ :=
    lives.safe.sound later change patchset revision before ran
  obtain ⟨about, allowed⟩ := parseEvent_eq_some parsed
  exact ⟨writes, event, earlier, recheck, split, only, about, allowed⟩

/-- The run of the sample life answers the comment of the reviewer. -/
theorem runs_authorized_sample : ∃ writes event earlier recheck,
    [.saved [("812", "3")], .emptied, .saved [], .emptied, .received sampleComment] ++
      (sampleTurn ++ [.started]) = writes ++ .received event :: earlier ∧
      (∀ entry ∈ writes, entry = .emptied ∨ ∃ tested, entry = .saved tested) ∧
      About sampleSettings event ⟨"812", "3", .str "f00d", recheck⟩ ∧
      Allowed sampleSettings event recheck :=
  runs_authorized lifetimes_sample (show _ = [] ++ _ from rfl)

/-- Between two runs of one patch set a comment that is let start a run has asked for it, or the
listener was stopped after it emptied the file and before it had written it. -/
theorem not_run_twice {journal : Journal} (lives : Lifetimes settings journal)
    {later since before : List Entry} {change patchset revision revision' : String}
    (ran : journal.history = later ++ .ran change patchset revision' :: (since ++
      .ran change patchset revision :: before)) :
    (∃ event revision'', .received event ∈ since ∧
      About settings event ⟨change, patchset, revision'', true⟩ ∧ Allowed settings event true) ∨
      ∃ newer older, since = newer ++ .started :: .emptied :: older := by
  obtain ⟨-, due⟩ := lives.safe.sound later change patchset revision' _ ran
  rcases due since revision before rfl with ⟨event, member, revision'', parsed⟩ | lost
  · obtain ⟨about, allowed⟩ := parseEvent_eq_some parsed
    exact .inl ⟨event, revision'', member, about, allowed⟩
  · exact .inr lost

/-- Between the two runs of the sample life the reviewer has asked again, or the listener
was stopped. -/
theorem not_run_twice_sample :
    (∃ event revision, .received event ∈ sampleTurn.tail ∧
      About sampleSettings event ⟨"812", "3", revision, true⟩ ∧
      Allowed sampleSettings event true) ∨
      ∃ newer older, sampleTurn.tail = newer ++ .started :: .emptied :: older :=
  not_run_twice lifetimes_sample (show _ = [] ++ _ :: (sampleTurn.tail ++ _) from rfl)

end Guarantees

end Gerrit

end WekaShareDriver
