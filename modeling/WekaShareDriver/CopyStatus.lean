import Mathlib.Data.List.Forall2
import WekaShareDriver.CopyThreads
import WekaShareDriver.RepeatedCreates

/-! # What a poll reports

A poll answers by the entry of its share's id. In a run in which nothing contends for an entry it
tells the truth about the filesystem: the share is available only once the latest copy into its
filesystem has succeeded and none is running, it is in error only if that copy failed or there is
none, and once the latest copy has ended the answer stays
(`WekaShareDriver.status_reported`).

A worker that is still running when its share is made again writes its end into the entry of the
newer copy (`WekaShareDriver.stale_copy_reported`).
-/

namespace WekaShareDriver

open Foundation Program

/-- The copies into a share's filesystem, the latest first. -/
def copiesInto (cfg : Config) (share : Share) (copies : List Copy) : List Copy :=
  copies.filter fun copy => shareKey cfg copy.share = shareKey cfg share

namespace Process

/-- A run of a process all of whose steps meet a condition. -/
def Run (cfg : Config) (fault : Fault) (condition : Process → Event → Prop) :
    Process → Process → Prop :=
  Relation.ReflTransGen fun p q => ∃ event, condition p event ∧ Step cfg fault p event q

end Process

open Process

variable {cfg : Config} {fault : Fault} {share : Share} {p q : Process}

private theorem sound_run (run : Run cfg fault (fun p event => event.Uncontended cfg p) p q)
    (sound : p.Sound cfg) : q.Sound cfg := by
  induction run with
  | refl => exact sound
  | tail _ step ih =>
      obtain ⟨event, uncontended, step⟩ := step
      exact ih.step uncontended step

/-! ## Copies only end -/

/-- What a copy may have become: once it has ended it is the same. -/
def Copy.Grows (copy later : Copy) : Prop :=
  later = { copy with state := later.state } ∧ (copy.state ≠ .running → later = copy)

/-- A copy may be what it was. -/
theorem Copy.Grows.refl (copy : Copy) : copy.Grows copy := ⟨rfl, fun _ => rfl⟩

/-- A copy may go on. -/
theorem Copy.Grows.trans {first second third : Copy} (grows : first.Grows second)
    (further : second.Grows third) : first.Grows third := by
  obtain ⟨same, kept⟩ := grows
  obtain ⟨same', kept'⟩ := further
  refine ⟨?_, fun ended => ?_⟩
  · rw [same', same]
  · have equal := kept ended
    subst equal
    exact kept' ended

private theorem Copy.Grows.all_trans {first second third : List Copy}
    (grown : List.Forall₂ Copy.Grows first second)
    (further : List.Forall₂ Copy.Grows second third) : List.Forall₂ Copy.Grows first third := by
  induction grown generalizing third with
  | nil => exact further
  | cons grows _ ih =>
      cases further with
      | cons grows' rest => exact .cons (grows.trans grows') (ih rest)

/-- Copies have been announced and have ended since. -/
def Extends (copies later : List Copy) : Prop :=
  ∃ new kept, later = new ++ kept ∧ List.Forall₂ Copy.Grows copies kept

/-- No copy need be announced or end. -/
theorem Extends.refl (copies : List Copy) : Extends copies copies :=
  ⟨[], copies, rfl, List.forall₂_same.mpr fun copy _ => .refl copy⟩

/-- More copies may be announced and end. -/
theorem Extends.trans {first second third : List Copy} (extends' : Extends first second)
    (further : Extends second third) : Extends first third := by
  obtain ⟨new, kept, rfl, grown⟩ := extends'
  obtain ⟨new', kept', rfl, grown'⟩ := further
  refine ⟨new' ++ kept'.take new.length, kept'.drop new.length, ?_, ?_⟩
  · rw [List.append_assoc, List.take_append_drop]
  · have tail := List.forall₂_drop new.length grown'
    rw [List.drop_left] at tail
    exact Copy.Grows.all_trans grown tail

private theorem extends_markCopy {copies : List Copy} {copy : Copy} {state : CopyState}
    (distinct : (copies.map Copy.thread).Nodup) (member : copy ∈ copies)
    (running : copy.state = .running) : Extends copies (markCopy copy.thread state copies) := by
  refine ⟨[], _, rfl, List.forall₂_map_right_iff.mpr (List.forall₂_same.mpr fun other among => ?_)⟩
  by_cases same : other.thread = copy.thread
  · rw [if_pos same]
    refine ⟨rfl, fun ended => absurd running ?_⟩
    rwa [← eq_of_thread_eq distinct among member same]
  · rw [if_neg same]
    exact .refl other

/-- A step announces a copy or ends one, or leaves the copies alone. -/
theorem extends_step {event : Event} (sound : p.Sound cfg) (step : Step cfg fault p event q) :
    Extends p.copies q.copies := by
  cases step with
  | elsewhere | request | create | start | copy | poll => exact .refl _
  | @announce i share shareId fsName fsUid next answer w here answered =>
      exact ⟨[_], p.copies, rfl, List.forall₂_same.mpr fun copy _ => .refl copy⟩
  | @unstarted i share job next error w here answered =>
      have current := sound.held i
      rw [here] at current
      obtain ⟨copy, member, rfl, running, _⟩ := current
      exact extends_markCopy sound.distinct member running
  | @finish i job copied w here records =>
      have current := sound.held i
      rw [here] at current
      obtain ⟨⟨copy, member, rfl, running, _⟩, _⟩ := current
      exact extends_markCopy sound.distinct member running

private theorem extends_run (run : Run cfg fault (fun p event => event.Uncontended cfg p) p q)
    (sound : p.Sound cfg) : Extends p.copies q.copies := by
  induction run with
  | refl => exact .refl _
  | tail before step ih =>
      obtain ⟨event, _, step⟩ := step
      exact ih.trans (extends_step (sound_run before sound) step)

/-- A share's ended copy stays as it is for as long as no newer copy is announced. -/
theorem copiesInto_kept {copies later older : List Copy} {copy : Copy}
    (extends' : Extends copies later) (latest : copiesInto cfg share copies = copy :: older)
    (ended : copy.state ≠ .running)
    (noNewer : (copiesInto cfg share later).length = (copiesInto cfg share copies).length) :
    ∃ older', copiesInto cfg share later = copy :: older' := by
  obtain ⟨new, kept, rfl, grown⟩ := extends'
  have filtered : List.Forall₂ Copy.Grows (copiesInto cfg share copies)
      (copiesInto cfg share kept) := by
    refine List.rel_filter (fun copy later grows => ?_) grown
    rw [grows.1]
  have split : copiesInto cfg share (new ++ kept) =
      copiesInto cfg share new ++ copiesInto cfg share kept := List.filter_append _ _
  have none : copiesInto cfg share new = [] := by
    rw [split, List.length_append, filtered.length_eq] at noNewer
    exact List.eq_nil_of_length_eq_zero (by omega)
  rw [split, none, List.nil_append]
  rw [latest] at filtered
  cases found : copiesInto cfg share kept with
  | nil => rw [found] at filtered; cases filtered
  | cons copy' older' =>
      rw [found] at filtered
      cases filtered with
      | cons grows _ => exact ⟨older', by rw [grows.2 ended]⟩

/-! ## The reports -/

/-- Where nothing contends for it, the entry of a share's id is about its filesystem. -/
theorem copiesInto_eq {answer : ShareStatus × Option (List ExportLocation)}
    (uncontended : (Event.poll share answer).Uncontended cfg p) :
    copiesInto cfg share p.copies = copiesOf share.id p.copies :=
  List.filter_congr fun copy member => by
    simp only [decide_eq_decide]
    exact (uncontended copy member).symm

/-- The answer to a poll, by the copies into the share's filesystem. -/
def copyReport (cfg : Config) (share : Share) :
    List Copy → ShareStatus × Option (List ExportLocation)
  | [] => (.error, none)
  | copy :: _ => statusAnswer cfg share (some copy.entry)

private theorem copyReport_cons_fst (copy : Copy) (older : List Copy) :
    (copyReport cfg share (copy :: older)).1 = copy.state.status := by
  cases state : copy.state <;> simp [copyReport, statusAnswer, Copy.entry, CopyState.status, state]

private theorem copyReport_of_succeeded {copy : Copy} {older : List Copy}
    (succeeded : copy.state = .succeeded) :
    copyReport cfg share (copy :: older) = (.available, some (buildExportLocations cfg share
      copy.fsName (some copy.fsUid) share.shareProto)) := by
  simp [copyReport, statusAnswer, Copy.entry, CopyState.status, succeeded]

private theorem CopyState.status_eq_available {state : CopyState} :
    state.status = .available ↔ state = .succeeded := by
  cases state <;> decide

private theorem CopyState.status_eq_error {state : CopyState} :
    state.status = .error ↔ state = .failed := by
  cases state <;> decide

private theorem answer_eq {answer : ShareStatus × Option (List ExportLocation)}
    (sound : p.Sound cfg)
    (uncontended : (Event.poll share answer).Uncontended cfg p)
    (poll : Step cfg fault p (.poll share answer) q) :
    answer = copyReport cfg share (copiesInto cfg share p.copies) := by
  cases poll with
  | poll answers =>
      have given := (exec_getShareStatus answers).1
      have told := sound.told share.id
      cases given
      rw [copiesInto_eq uncontended]
      cases found : copiesOf share.id p.copies with
      | nil =>
          rw [found] at told
          rw [show p.world.host.asyncCopies.get? share.id = none from told]
          rfl
      | cons copy older =>
          rw [found] at told
          rw [told.1]
          rfl

/-- In a run in which nothing contends for an entry, polls tell the truth: a share is available
only once the latest copy into its filesystem has succeeded and none is running, with the
filesystem of that copy; it is in error only if that copy has failed or there is none; and once
the latest copy has ended the answer stays until another is announced. -/
theorem status_reported {start : Process} {answer : ShareStatus × Option (List ExportLocation)}
    (fresh : start.Fresh)
    (run : Run cfg fault (fun p event => event.Uncontended cfg p) start p)
    (uncontended : (Event.poll share answer).Uncontended cfg p)
    (poll : Step cfg fault p (.poll share answer) q) :
    (answer.1 = .available → ∃ copy older, copiesInto cfg share p.copies = copy :: older ∧
      copy.state = .succeeded ∧ (∀ other ∈ older, other.state ≠ .running) ∧
      answer.2 = some (buildExportLocations cfg share copy.fsName (some copy.fsUid)
        share.shareProto)) ∧
    (answer.1 = .error → copiesInto cfg share p.copies = [] ∨
      ∃ copy older, copiesInto cfg share p.copies = copy :: older ∧ copy.state = .failed) ∧
    ∀ copy older, copiesInto cfg share p.copies = copy :: older →
      copy.state = .succeeded ∨ copy.state = .failed → ∀ p' q' answer',
        Run cfg fault (fun p event => event.Uncontended cfg p) q p' →
        (Event.poll share answer').Uncontended cfg p' →
        Step cfg fault p' (.poll share answer') q' →
        (copiesInto cfg share p'.copies).length = (copiesInto cfg share p.copies).length →
          answer' = answer := by
  have sound : p.Sound cfg := sound_run run fresh.sound
  have told := sound.told share.id
  rw [← copiesInto_eq uncontended] at told
  have given := answer_eq sound uncontended poll
  refine ⟨fun available => ?_, fun error => ?_, ?_⟩
  · cases found : copiesInto cfg share p.copies with
    | nil =>
        rw [given, found] at available
        cases available
    | cons copy older =>
        rw [found] at told
        rw [given, found, copyReport_cons_fst] at available
        have succeeded := CopyState.status_eq_available.mp available
        refine ⟨copy, older, rfl, succeeded, told.2, ?_⟩
        rw [given, found, copyReport_of_succeeded succeeded]
  · cases found : copiesInto cfg share p.copies with
    | nil => exact Or.inl rfl
    | cons copy older =>
        rw [given, found, copyReport_cons_fst] at error
        exact Or.inr ⟨copy, older, rfl, CopyState.status_eq_error.mp error⟩
  · intro copy older latest ended p' q' answer' later uncontended' poll' noNewer
    have kept : q.copies = p.copies := by cases poll with | poll => rfl
    have sound' : q.Sound cfg := sound.step uncontended poll
    have stopped : copy.state ≠ .running := by
      rcases ended with succeeded | failed
      · rw [succeeded]; decide
      · rw [failed]; decide
    have extends' : Extends p.copies p'.copies := by
      rw [← kept]
      exact extends_run later sound'
    obtain ⟨older', same⟩ := copiesInto_kept extends' latest stopped noNewer
    rw [answer_eq (sound_run later sound') uncontended' poll', given, same, latest]
    rfl

/-! ## A scheduler -/

namespace Process

/-- Let a thread make its next step when nothing fails. -/
def advance (cfg : Config) (p : Process) (i : Nat) : Option (Event × Process) :=
  match p.threads i with
  | some (.creating share (.call (.host (.asyncCopyPut shareId
      ⟨.creatingFromSnapshot, some fsUid, some fsName⟩)) next)) =>
      let (answer, w) := respond (.host (.asyncCopyPut shareId
        ⟨.creatingFromSnapshot, some fsUid, some fsName⟩)) p.world
      some (.announce share, p.announced i share fsUid fsName (next answer) w)
  | some (.creating share (.call op next)) =>
      if TableOp op then none
      else
        some (.move, p.goOn i (.creating share (next (respond op p.world).1)) (respond op p.world).2)
  | some (.starting _ (.call (.host (.startCopy job)) _)) =>
      some (.move, p.goOn i (.copying job (copySnapshot cfg job))
        (respond (.host (.startCopy job)) p.world).2)
  | some (.copying job (.call op next)) =>
      some (.move, p.goOn i (.copying job (next (respond op p.world).1)) (respond op p.world).2)
  | some (.copying job (.ret _)) =>
      some (.move, p.finished i .succeeded
        ((recordCopy job.share.id .available).run respond p.world).2)
  | some (.copying job (.fail _)) =>
      some (.move, p.finished i .failed ((recordCopy job.share.id .error).run respond p.world).2)
  | _ => none

private theorem exec_recording (shareId : String) (status : ShareStatus) (w : World) :
    Exec (processService fault) (recordCopy shareId status) w (.ok ())
      ((recordCopy shareId status).run respond w).2 := by
  have run : Exec (processService fault) (recordCopy shareId status) w _ _ := exec_run _ _
  rwa [(exec_recordCopy run).1] at run

/-- What the scheduler lets a thread do is a step. -/
theorem step_advance {p q : Process} {i : Nat} {event : Event}
    (advanced : p.advance cfg i = some (event, q)) : Step cfg fault p event q := by
  unfold advance at advanced
  split at advanced
  · next here =>
      cases advanced
      exact .announce here (Or.inl rfl)
  · next here =>
      split at advanced
      · cases advanced
      · next quiet =>
          cases advanced
          exact .create here quiet (Or.inl rfl)
  · next here =>
      cases advanced
      exact .start here (Or.inl rfl)
  · next here =>
      cases advanced
      exact .copy here (Or.inl rfl)
  · next job value here =>
      cases advanced
      have done : p.threads i = some (.copying job (MonadExcept.ofExcept (.ok value))) := here
      exact .finish done (exec_recording _ _ _)
  · next job error here =>
      cases advanced
      have done : p.threads i = some (.copying job (MonadExcept.ofExcept (.error error))) := here
      exact .finish done (exec_recording _ _ _)
  · cases advanced

/-- Let threads make their next steps in the given order, as long as a condition is met. -/
def schedule (cfg : Config) (condition : Process → Event → Prop)
    [∀ p event, Decidable (condition p event)] : List Nat → Process → Option Process
  | [], p => some p
  | i :: order, p =>
      match p.advance cfg i with
      | none => none
      | some (event, q) => if condition p event then schedule cfg condition order q else none

private theorem run_schedule {condition : Process → Event → Prop}
    [∀ p event, Decidable (condition p event)] {order : List Nat} {p q : Process}
    (scheduled : schedule cfg condition order p = some q) : Run cfg fault condition p q := by
  induction order generalizing p with
  | nil =>
      cases scheduled
      exact .refl
  | cons i order ih =>
      unfold schedule at scheduled
      split at scheduled
      · cases scheduled
      · next event r advanced =>
          split at scheduled
          · next met => exact .head ⟨event, met, step_advance advanced⟩ (ih scheduled)
          · cases scheduled

/-- A poll is answered by the entry of the share's id. -/
theorem step_poll (cfg : Config) (fault : Fault) (share : Share) (p : Process) :
    Step cfg fault p (.poll share (statusAnswer cfg share
      (p.world.host.asyncCopies.get? share.id))) p := by
  have run : Exec (processService fault) (getShareStatus cfg share) p.world _ _ := exec_run _ _
  obtain ⟨answered, kept⟩ := exec_getShareStatus run
  rw [answered, kept] at run
  exact .poll run

end Process

/-- A driver that serves NFS shares. -/
def copyConfig : Config := { sampleConfig with nfsServer := some "10.0.0.2" }

/-- A share to be made from the sample snapshot. -/
def copyShare : Share := { sampleShare .nfs with id := "7d3e2f10-0000-4000-8000-000000000007" }

/-- A process that has just started. -/
def idleProcess : Process := ⟨snapshotTaken, fun _ => none, []⟩

private theorem idleProcess_fresh : idleProcess.Fresh where
  table := by decide +kernel
  threads _ := rfl
  copies := rfl

/-- The process once it has been asked for a copy. -/
def askedOnce : Process :=
  idleProcess.goOn 0 (.creating copyShare
    (createShareFromSnapshot copyConfig copyShare sampleSnapshot)) idleProcess.world

/-- The process once it has been asked for the copy again. -/
def askedTwice : Process :=
  askedOnce.goOn 1 (.creating copyShare
    (createShareFromSnapshot copyConfig copyShare sampleSnapshot)) askedOnce.world

/-- The share is available once its copy has been made. -/
theorem status_reported_sample : ∃ p answer copy older,
    Run copyConfig noFaults (fun p event => event.Uncontended copyConfig p) idleProcess p ∧
      Step copyConfig noFaults p (.poll copyShare answer) p ∧ answer.1 = .available ∧
      copiesInto copyConfig copyShare p.copies = copy :: older ∧ copy.state = .succeeded ∧
      answer.2 = some (buildExportLocations copyConfig copyShare copy.fsName (some copy.fsUid)
        .nfs) := by
  have scheduled : (schedule copyConfig (fun p event => event.Uncontended copyConfig p)
      (List.replicate 27 0) askedOnce).any (fun p =>
        decide ((∀ copy ∈ p.copies, copy.share.id = copyShare.id ↔
          shareKey copyConfig copy.share = shareKey copyConfig copyShare) ∧
        (statusAnswer copyConfig copyShare
          (p.world.host.asyncCopies.get? copyShare.id)).1 = .available)) = true := by
    decide +kernel
  obtain ⟨p, made, facts⟩ := (Option.any_eq_true _ _).mp scheduled
  obtain ⟨uncontended, available⟩ := of_decide_eq_true facts
  have run : Run copyConfig noFaults (fun p event => event.Uncontended copyConfig p)
      idleProcess p := .head ⟨.move, trivial, .request _ _ rfl⟩ (run_schedule made)
  obtain ⟨copy, older, latest, succeeded, _, locations⟩ :=
    (status_reported idleProcess_fresh run uncontended (step_poll _ _ _ _)).1 available
  exact ⟨p, _, copy, older, run, step_poll _ _ _ _, available, latest, succeeded, locations⟩

/-- A share is reported available while the latest copy into its filesystem is running: the copy
it was made by before has ended meanwhile. -/
theorem stale_copy_reported : ∃ start p answer copy older, start.Fresh ∧
    Run copyConfig noFaults (fun _ _ => True) start p ∧
      Step copyConfig noFaults p (.poll copyShare answer) p ∧ answer.1 = .available ∧
      copiesInto copyConfig copyShare p.copies = copy :: older ∧ copy.state = .running := by
  have scheduled : (schedule copyConfig (fun _ _ => True)
      (List.replicate 6 0 ++ List.replicate 6 1 ++ List.replicate 21 0) askedTwice).any (fun p =>
        decide ((statusAnswer copyConfig copyShare
          (p.world.host.asyncCopies.get? copyShare.id)).1 = .available ∧
        (copiesInto copyConfig copyShare p.copies).map Copy.state = [.running, .succeeded])) =
          true := by
    decide +kernel
  obtain ⟨p, made, facts⟩ := (Option.any_eq_true _ _).mp scheduled
  obtain ⟨available, states⟩ := of_decide_eq_true facts
  have run : Run copyConfig noFaults (fun _ _ => True) idleProcess p :=
    .head ⟨.move, trivial, .request _ _ rfl⟩
      (.head ⟨.move, trivial, .request _ _ rfl⟩ (run_schedule made))
  obtain ⟨copy, older, latest, running, _⟩ := List.map_eq_cons_iff.mp states
  exact ⟨idleProcess, p, _, copy, older, idleProcess_fresh, run, step_poll _ _ _ _, available,
    latest, running⟩

end WekaShareDriver
