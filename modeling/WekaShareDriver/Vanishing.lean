import WekaShareDriver.Foundation.RunsAlike
import WekaShareDriver.TenantUses

/-! # Deleting what is gone already

An object may vanish by the time its DELETE is sent, for instance because an earlier
DELETE of it was executed and its response lost: the cluster then answers 404
(`WekaShareDriver.vanishing`). Where the driver takes that answer for success, or
ignores it, the run of an operation does not show whether anything had vanished.
-/

namespace WekaShareDriver

open Foundation Program

/-- The requests sent as a DELETE. -/
def Request.isDelete : Request → Bool
  | .deleteFilesystem _ => true
  | .deleteSnapshot _ => true
  | .deleteSecurityPolicy _ => true
  | .deleteClientGroupRule .. => true
  | .deleteClientGroup _ => true
  | .deleteNfsPermission _ => true
  | _ => false

/-- The answer to the DELETE of what is gone. -/
def alreadyGone : Error := .api (.notFound "resource not found")

/-- The operations of a world in which some objects, named by the requests that
delete them, have vanished by the time their DELETE is sent. -/
def vanishing (gone : Request → Bool) : (op : Op) → World → Except Error op.Res × World
  | .api session request, w =>
      match respond (.api session request) w with
      | (.ok reply, t) =>
          if request.isDelete && gone request then
            (.error alreadyGone, t)
          else (.ok reply, t)
      | refused => refused
  | op, w => respond op w

/-- A DELETE of something that may have vanished. -/
def Op.deletes (gone : Request → Bool) : Op → Bool
  | .api _ request => request.isDelete && gone request
  | _ => false

section Vanishing

variable {gone : Request → Bool} {α : Type}

/-- An operation that deletes nothing that has vanished is answered as ever. -/
theorem vanishing_other {op : Op} (other : op.deletes gone = false) (w : World) :
    vanishing gone op w = respond op w := by
  cases op with
  | login org username password => rfl
  | host call => rfl
  | api session request =>
      simp only [Op.deletes] at other
      simp only [vanishing, other]
      rcases respond (.api session request) w with ⟨error | reply, t⟩ <;> rfl

/-- A delete that ends with 404, in the same world, where what it deletes has
vanished. -/
def EndsGone (gone : Request → Bool) (delete : Driver α) : Prop :=
  ∀ w, delete.run (vanishing gone) w = delete.run respond w ∨
    ∃ value error t, isNotFound error = true ∧ delete.run respond w = (.ok value, t) ∧
      delete.run (vanishing gone) w = (.error error, t)

/-- A request ends as ever, or with 404 where what it deletes has vanished. -/
theorem endsGone_send (session : Session) (request : Request) :
    EndsGone gone (send session request) := by
  intro w
  simp only [send, run_perform, vanishing]
  rcases respond (.api session request) w with ⟨error | reply, t⟩
  · exact Or.inl rfl
  · by_cases vanished : (request.isDelete && gone request) = true
    · simp only [vanished, ↓reduceIte]
      exact Or.inr ⟨reply, _, t, rfl, rfl, rfl⟩
    · simp only [vanished, Bool.false_eq_true, ↓reduceIte]
      exact Or.inl trivial

/-- What a delete does first may not depend on what has vanished. -/
theorem EndsGone.after {β : Type} {program : Driver β} {delete : β → Driver α}
    (alike : RunsAlike (vanishing gone) respond program)
    (ends : ∀ value, EndsGone gone (delete value)) : EndsGone gone (program >>= delete) := by
  intro w
  rw [run_bind, run_bind, alike w]
  rcases program.run respond w with ⟨error | value, t⟩
  · exact Or.inl rfl
  · exact ends value t

/-- A handler that lets 404 pass. -/
theorem EndsGone.alike {delete : Driver Unit} {handler : Error → Driver Unit}
    (ends : EndsGone gone delete)
    (passes : ∀ error, isNotFound error = true → handler error = pure ())
    (handlers : ∀ error, RunsAlike (vanishing gone) respond (handler error)) :
    RunsAlike (vanishing gone) respond (tryCatch delete handler) := by
  intro w
  rcases ends w with same | ⟨_, error, t, notFound, returned, raised⟩
  · rw [run_tryCatch, run_tryCatch, same]
    rcases delete.run respond w with ⟨error | value, t⟩
    · exact handlers error t
    · rfl
  · rw [run_tryCatch_ok returned, run_tryCatch_error raised, passes error notFound, run_pure]

/-- Looking up and setting up deletes nothing. -/
theorem alike_of_setup {program : Driver α} (uses : program.Uses SetupOp) :
    RunsAlike (vanishing gone) respond program := by
  refine .of_uses uses fun op setup => vanishing_other ?_
  cases op with
  | login org username password => rfl
  | host given => rfl
  | api session request => cases request <;> first | rfl | exact setup.elim

/-- A request that is no DELETE. -/
theorem alike_send {session : Session} {request : Request} (other : request.isDelete = false) :
    RunsAlike (vanishing gone) respond (send session request) :=
  .perform (vanishing_other (by simp [Op.deletes, other]))

private theorem alike_getSecurityPolicyByName (session : Session) (name : String) :
    RunsAlike (vanishing gone) respond (getSecurityPolicyByName session name) :=
  .bind (alike_send rfl) fun _ => .pure _

/-- A delete whose 404 is let pass. -/
theorem alike_deleteOrGone {delete : Driver Unit} (ends : EndsGone gone delete) :
    RunsAlike (vanishing gone) respond
      (tryCatch delete fun error => if isNotFound error then pure () else throw error) :=
  ends.alike (fun error notFound => by rw [notFound]; rfl) fun error =>
    .ite (fun _ => .pure _) fun _ => .throw _

/-- A delete whose failure is ignored. -/
theorem alike_deleteQuietly {delete : Driver Unit} (ends : EndsGone gone delete) :
    RunsAlike (vanishing gone) respond (tryCatch delete fun _ => pure ()) :=
  ends.alike (fun _ _ => rfl) fun _ => .pure _

/-! ## Policies, filesystems and snapshots -/

private theorem alike_attachPolicy (session : Session) (fsUid policyUid : Uid) :
    RunsAlike (vanishing gone) respond (attachPolicy session fsUid policyUid) :=
  .tryCatch (alike_send rfl) fun _ => .ite (fun _ => .pure _) fun _ => .throw _

private theorem alike_retirePolicy (session : Session) (fsUid : Option Uid) (policyUid : Uid) :
    RunsAlike (vanishing gone) respond (retirePolicy session fsUid policyUid) := by
  have delete : RunsAlike (vanishing gone) respond
      (tryCatch (send session (.deleteSecurityPolicy policyUid)) fun error =>
        if isNotFound error then pure () else throw error) := alike_deleteOrGone (endsGone_send _ _)
  cases fsUid with
  | none => exact delete
  | some fsUid =>
      exact .bind (.tryCatch (alike_send rfl) fun _ => .ite (fun _ => .pure _) fun _ => .throw _)
        fun _ => delete

private theorem alike_policySetIp (session : Session) (share : Share) (fsUid : Option Uid)
    (level : Level)
    (wekaIp : String) (present : Bool) :
    RunsAlike (vanishing gone) respond (policySetIp session share fsUid level wekaIp present) := by
  refine .bind (alike_getSecurityPolicyByName _ _) fun found => .ite (fun _ => ?_) fun _ => ?_
  · refine .bind ?_ fun policyUid => ?_
    · cases found with
      | none => exact .bind (alike_send rfl) fun _ => .pure _
      | some policy =>
          refine .ite (fun _ => ?_) fun _ => .pure _
          exact .bind (.tryCatch (alike_send rfl) fun _ => .ite (fun _ => .pure _) fun _ => .throw _)
            fun _ => .pure _
    · cases fsUid with
      | none => exact .pure _
      | some fsUid => exact alike_attachPolicy _ _ _
  · cases found with
    | none => exact .pure _
    | some policy =>
        refine .bind (.ite (fun _ => ?_) fun _ => .pure _) fun current =>
          .ite (fun _ => alike_retirePolicy _ _ _) fun _ => .pure _
        exact .bind (.tryCatch (alike_send rfl) fun _ => .ite (fun _ => .pure _) fun _ => .throw _)
          fun _ => .pure _

private theorem alike_liftExcept (value : Except Error α) :
    RunsAlike (vanishing gone) respond (liftExcept value) := by
  cases value with
  | ok value => exact .pure value
  | error error => exact .throw error

/-- Pruning WEKAFS rules runs alike whatever has vanished. -/
theorem alike_pruneWekafsRules (session : Session) (share : Share) (fsUid : Option Uid)
    (rules : List AccessRule) :
    RunsAlike (vanishing gone) respond (pruneWekafsRules session share fsUid rules) := by
  have level : ∀ expected level,
      RunsAlike (vanishing gone) respond (pruneLevel session share fsUid expected level) := by
    intro expected level
    refine .bind (alike_getSecurityPolicyByName _ _) fun found => ?_
    cases found with
    | none => exact .pure _
    | some policy =>
        exact .forM fun ip _ => .ite (fun _ => .pure _) fun _ =>
          .tryCatch (alike_policySetIp _ _ _ _ _ _) fun _ => .pure _
  exact .bind (alike_liftExcept _) fun expected => .bind (level _ _) fun _ => level _ _

private theorem alike_removeWekafsRule (session : Session) (share : Share) (fsUid : Option Uid)
    (rule : AccessRule) :
    RunsAlike (vanishing gone) respond (removeWekafsRule session share fsUid rule) := by
  refine .ite (fun _ => .pure _) fun _ => .ite (fun _ => .pure _) fun _ => ?_
  exact .bind (alike_liftExcept _) fun ip =>
    .bind (alike_policySetIp _ _ _ _ _ _) fun _ => alike_policySetIp _ _ _ _ _ _

private theorem alike_sharePolicyGroup (share : Share) :
    RunsAlike (vanishing gone) respond (sharePolicyGroup share) :=
  alike_of_setup (uses_setup (uses_sharePolicyGroup))

/-- The removal of a rule from a WEKAFS share. -/
theorem alike_updateWekafsAccess (cfg : Config) (share : Share) (rule : AccessRule) :
    RunsAlike (vanishing gone) respond (updateWekafsAccess cfg share [] [rule] false) := by
  refine .bind (alike_of_setup (uses_setup_of_opens (uses_orgClient _))) fun session =>
    .bind (.ite (fun added => absurd rfl added) fun _ => .pure _) fun _ =>
      .bind (alike_sharePolicyGroup share) fun group => ?_
  cases group with
  | some group => exact .pure _
  | none =>
      refine .bind (.ite (fun _ => alike_of_setup (uses_getFilesystemByName _ _)) fun _ => .pure _)
        fun fs => .bind (.pure _) fun states => .bind (.forM fun rule _ => ?_) fun _ => .pure _
      exact .tryCatch (alike_removeWekafsRule _ _ _ _) fun _ => .pure _

private theorem alike_cleanupWekafsPolicies (session : Session) (share : Share) (fsUid : Uid) :
    RunsAlike (vanishing gone) respond (cleanupWekafsPolicies session share fsUid) := by
  refine .forM fun level _ => ?_
  refine .bind (.tryCatch (alike_getSecurityPolicyByName _ _) fun _ => .pure _) fun found => ?_
  cases found with
  | none => exact .pure _
  | some policy =>
      exact .bind (.tryCatch (alike_send rfl) fun _ => .pure _) fun _ =>
        alike_deleteQuietly (endsGone_send _ _)

/-- Deleting a share recovers from whatever has vanished. -/
theorem alike_deleteShare (cfg : Config) (share : Share) :
    RunsAlike (vanishing gone) respond (deleteShare cfg share) := by
  refine .bind (alike_of_setup (uses_setup_of_opens (uses_clientForShare share))) fun session =>
    .bind (alike_of_setup (uses_getFilesystemByName _ _)) fun found => ?_
  cases found with
  | none => exact .pure _
  | some fs =>
      have unmounted : RunsAlike (vanishing gone) respond (do
          if ← isMounted (cfg.mountPoint (cfg.shareName share.id)) then
            WekaMount.unmount
              { backends := some cfg.backends, fsName := cfg.shareName share.id
                mountPoint := cfg.mountPoint (cfg.shareName share.id)
                authTokenPath := none, numCores := 1, net := none } true
          tryCatch (send session (.deleteFilesystem fs.uid)) fun error =>
            if isNotFound error then pure () else throw error) := by
        refine .bind (alike_of_setup (uses_setup (uses_isMounted _))) fun mounted =>
          .ite (fun _ => ?_) fun _ => alike_deleteOrGone (endsGone_send _ _)
        exact .bind (alike_of_setup (uses_setup (uses_unmount _ _))) fun _ =>
          alike_deleteOrGone (endsGone_send _ _)
      refine .ite (fun _ => ?_) fun _ => unmounted
      exact .bind (.tryCatch (alike_cleanupWekafsPolicies _ _ _) fun _ => .pure _) fun _ => unmounted

/-- Deleting a snapshot recovers from whatever has vanished. -/
theorem alike_deleteSnapshot (cfg : Config) (snapshot : ShareSnapshot) :
    RunsAlike (vanishing gone) respond (deleteSnapshot cfg snapshot) := by
  refine .bind (alike_of_setup (uses_setup_of_opens (uses_clientForShare _))) fun session =>
    .bind (.tryCatch ?_ fun error => ?_) fun fsUid => ?_
  · exact .map _ (alike_of_setup (lists_getFsUidForShare.mono fun _ lists => lists ▸ trivial))
  · cases error <;> first | exact .pure _ | exact .throw _
  · cases fsUid with
    | none => exact .pure _
    | some fsUid =>
        refine .bind (.bind (alike_send rfl) fun _ => .pure _) fun found => ?_
        cases found with
        | none => exact .pure _
        | some snap => exact alike_deleteOrGone (endsGone_send _ _)

end Vanishing

end WekaShareDriver
