import WekaShareDriver.Access.NfsRepair
import WekaShareDriver.Vanishing

/-! # Cleanups in which something has vanished

What a cleanup leaves is compared with what it leaves when every DELETE is answered
as usual (`WekaShareDriver.Cleanup.Resumes`). Shares, snapshots and the rules of
WEKAFS shares are cleaned up all the same. The removal of an NFS rule stops at the
first permission that has vanished, and a full sync of an NFS share does not reap
the client group of such a permission (`WekaShareDriver.cleanup_resumes_iff`).
-/

namespace WekaShareDriver

open Foundation Program

variable {gone : Request → Bool} {w : World}

/-! ## Client groups -/

private theorem alike_deleteClientGroupByName (name : String) :
    RunsAlike (vanishing gone) respond (deleteClientGroupByName name) := by
  have rules : ∀ uid, RunsAlike (vanishing gone) respond (deleteClientGroupRules uid) := by
    intro uid
    refine .tryCatch (.bind (alike_send rfl) fun group => .forM fun rule _ => ?_) fun _ => .pure _
    exact alike_deleteQuietly (endsGone_send _ _)
  refine .bind (.bind (alike_send rfl) fun _ => .pure _) fun found => ?_
  cases found with
  | none => exact .pure _
  | some group => exact alike_deleteOrGone (.after (rules _) fun _ => endsGone_send _ _)

/-- A world with other client groups. -/
abbrev World.withGroups (w : World) (clientGroups : Registry ClientGroup) : World :=
  { w with cluster := { w.cluster with clientGroups } }

/-- The client groups but those of some names. -/
abbrev groupsBut (w : World) (names : List String) : Registry ClientGroup :=
  w.cluster.clientGroups.filter fun group => decide (group.val.name ∉ names)

/-- A client group without the rules of some uids. -/
def ClientGroup.withoutRules (group : ClientGroup) (uids : List Uid) : ClientGroup :=
  { group with rules := group.rules.filter fun rule => decide (rule.uid ∉ uids) }

/-- The client groups once the rules of some uids are deleted from one. -/
abbrev rulesDeleted (registry : Registry ClientGroup) (uid : Uid) (uids : List Uid) :
    Registry ClientGroup :=
  registry.modify uid (fun group => group.withoutRules uids) fun _ => rfl

private theorem withoutRules_deleteRule (group : ClientGroup) (uids : List Uid) (uid : Uid) :
    (group.withoutRules uids).deleteRule uid = group.withoutRules (uids ++ [uid]) := by
  simp only [ClientGroup.withoutRules, ClientGroup.deleteRule, List.filter_filter,
    List.mem_append, List.mem_singleton, not_or, Bool.decide_and, bne, Bool.and_comm,
    decide_not, ClientGroup.mk.injEq, true_and]
  rfl

private theorem rulesDeleted_nil (registry : Registry ClientGroup) (uid : Uid) :
    rulesDeleted registry uid [] = registry := by
  refine Registry.ext ?_ rfl
  simp [rulesDeleted, Registry.modify, ClientGroup.withoutRules]

/-- The rules of a client group are all removed. -/
theorem run_deleteClientGroupRules {entry : Entry ClientGroup}
    (found : w.cluster.clientGroups.get? entry.uid = some entry) :
    (deleteClientGroupRules entry.uid).run respond w =
      (.ok (), w.withGroups (rulesDeleted w.cluster.clientGroups entry.uid
        (entry.val.rules.map GroupRule.uid))) := by
  have listed : (send .admin (.getClientGroup entry.uid)).run respond w = (.ok entry, w) := by
    simp only [send, run_perform, respond, Cluster.answer, found, asRaised]
  apply run_tryCatch_ok
  rw [run_bind_ok listed]
  have loop := run_forM respond
    (fun rule : GroupRule =>
      tryCatch (send .admin (.deleteClientGroupRule entry.uid rule.uid)) fun _ => pure ())
    (fun visited => w.withGroups (rulesDeleted w.cluster.clientGroups entry.uid
      (visited.map GroupRule.uid))) entry.val.rules fun visited rule rest split => by
        apply run_tryCatch_ok
        have current := Registry.get?_modify found
          (fun group => group.withoutRules (visited.map GroupRule.uid)) fun _ => rfl
        simp only [send, run_perform, respond, Cluster.answer, current, asRaised]
        refine congrArg (fun groups => (Except.ok (), w.withGroups groups))
          ((Registry.modify_modify _ _ _ _ _ _).trans ?_)
        simp only [withoutRules_deleteRule, List.map_append, List.map_cons, List.map_nil]
  rw [List.map_nil, rulesDeleted_nil] at loop
  exact loop

/-- A client group is deleted, whatever its rules. -/
theorem run_deleteClientGroup {entry : Entry ClientGroup}
    (found : w.cluster.clientGroups.get? entry.uid = some entry) :
    (deleteClientGroup entry.uid).run respond w =
      (.ok (), w.withGroups (w.cluster.clientGroups.erase entry.uid)) := by
  have emptied := Registry.get?_modify found
    (fun group => group.withoutRules (entry.val.rules.map GroupRule.uid)) fun _ => rfl
  have bare : (entry.val.withoutRules (entry.val.rules.map GroupRule.uid)).rules = [] := by
    simp only [ClientGroup.withoutRules, List.filter_eq_nil_iff, decide_eq_true_eq, not_not]
    exact fun rule member => List.mem_map_of_mem member
  rw [deleteClientGroup, run_bind_ok (run_deleteClientGroupRules found)]
  simp only [send, run_perform, respond, Cluster.answer, emptied, bare, ↓reduceIte, asRaised]
  exact congrArg (fun groups => (Except.ok (), w.withGroups groups))
    (Registry.erase_modify _ _ _ _)

private theorem run_deleteClientGroupByName (name : String) :
    (deleteClientGroupByName name).run respond w = (.ok (), w.withGroups (groupsBut w [name])) := by
  have listed : (getClientGroupByName name).run respond w =
      (.ok (w.cluster.clientGroups.find? name), w) := rfl
  rw [deleteClientGroupByName, run_bind_ok listed]
  cases found : w.cluster.clientGroups.find? name with
  | none =>
      have absent : groupsBut w [name] = w.cluster.clientGroups :=
        Registry.filter_eq_self fun group member => by
          have other : group.val.name ≠ name := Registry.find?_eq_none_iff.mp found group member
          simpa using other
      rw [absent]
      rfl
  | some group =>
      have erased : w.cluster.clientGroups.erase group.uid = groupsBut w [name] := by
        rw [Registry.erase_of_find? found]
        simp [groupsBut, Keyed.key]
      have returned := run_deleteClientGroup (Registry.get?_of_find? found)
      rw [erased] at returned
      exact run_tryCatch_ok returned _

/-- Client groups are deleted one after another. -/
theorem run_deleteGroups {delete : String → Driver Unit} (names : List String)
    (deletes : ∀ name u, (delete name).run respond u =
      (.ok (), u.withGroups (groupsBut u [name]))) :
    (names.forM delete).run respond w = (.ok (), w.withGroups (groupsBut w names)) := by
  have loop := run_forM respond delete
    (fun visited => w.withGroups (groupsBut w visited)) names fun visited name rest split => by
      rw [deletes]
      refine congrArg (fun groups => (Except.ok (), w.withGroups groups))
        ((Registry.filter_filter _ _ _).trans (Registry.filter_congr fun group member => ?_))
      simp [Bool.decide_and]
  have untouched : groupsBut w [] = w.cluster.clientGroups :=
    Registry.filter_eq_self fun _ _ => by simp
  rw [untouched] at loop
  exact loop

/-! ## Permissions -/

/-- A world with other permissions. -/
abbrev World.withPermissions (w : World) (permissions : Registry NfsPermission) : World :=
  { w with cluster := { w.cluster with permissions } }

/-- The permissions but those of a list. -/
abbrev permissionsBut (w : World) (deleted : List (Entry NfsPermission)) :
    Registry NfsPermission :=
  w.cluster.permissions.filter fun perm => decide (perm ∉ deleted)

/-- Deleting one more permission leaves those but the ones deleted. -/
theorem erase_permissionsBut {deleted : List (Entry NfsPermission)} {perm : Entry NfsPermission}
    (member : perm ∈ w.cluster.permissions.rows) :
    (permissionsBut w deleted).erase perm.uid = permissionsBut w (deleted ++ [perm]) := by
  refine (Registry.filter_filter _ _ _).trans (Registry.filter_congr fun other inside => ?_)
  have same : other.uid = perm.uid ↔ other = perm :=
    ⟨w.cluster.permissions.eq_of_uid inside member, congrArg Entry.uid⟩
  simp [Bool.decide_and, bne, beq_eq_decide, same]

/-- Note the group of a permission, if it is one to note. -/
def noteGroup (noted : Entry NfsPermission → Bool) (names : List String)
    (perm : Entry NfsPermission) : List String :=
  if noted perm then names.insert perm.val.group else names

private theorem mem_noted {noted : Entry NfsPermission → Bool} {perms : List (Entry NfsPermission)}
    {names : List String} {name : String} :
    name ∈ perms.foldl (noteGroup noted) names ↔
      name ∈ names ∨ ∃ perm ∈ perms, noted perm = true ∧ perm.val.group = name := by
  induction perms generalizing names with
  | nil => simp
  | cons perm rest ih =>
      rw [List.foldl_cons, ih]
      by_cases note : noted perm = true
      · simp only [noteGroup, note, ↓reduceIte, List.mem_insert_iff, List.mem_cons]
        grind
      · simp only [noteGroup, note, Bool.false_eq_true, ↓reduceIte, List.mem_cons]
        grind

/-- What one step of a loop over permissions does: it deletes a selected one and
notes its group. -/
structure Takes (implementation : (op : Op) → World → Except Error op.Res × World)
    (selected noted : Entry NfsPermission → Bool)
    (step : List String → Entry NfsPermission → Driver (List String))
    (perm : Entry NfsPermission) : Prop where
  takes : selected perm = true → ∀ names u, u.cluster.permissions.get? perm.uid = some perm →
    (step names perm).run implementation u =
      (.ok (noteGroup noted names perm),
        u.withPermissions (u.cluster.permissions.erase perm.uid))
  passes : selected perm = false → ∀ names u,
    (step names perm).run implementation u = (.ok names, u)

private theorem Takes.of_alike {implementation implementation' :
    (op : Op) → World → Except Error op.Res × World} {selected noted : Entry NfsPermission → Bool}
    {step : List String → Entry NfsPermission → Driver (List String)} {perm : Entry NfsPermission}
    (takes : Takes implementation' selected noted step perm)
    (alike : ∀ names, RunsAlike implementation implementation' (step names perm)) :
    Takes implementation selected noted step perm where
  takes chosen names u present := (alike names u).trans (takes.takes chosen names u present)
  passes passed names u := (alike names u).trans (takes.passes passed names u)

/-- A loop over listed permissions deletes the selected ones. -/
theorem run_takePermissions
    {implementation : (op : Op) → World → Except Error op.Res × World}
    {selected noted : Entry NfsPermission → Bool}
    {step : List String → Entry NfsPermission → Driver (List String)}
    {perms : List (Entry NfsPermission)} (listed : perms ⊆ w.cluster.permissions.rows)
    (distinct : perms.Nodup) (each : ∀ perm ∈ perms, Takes implementation selected noted step perm) :
    (perms.foldlM step []).run implementation w =
      (.ok ((perms.filter selected).foldl (noteGroup noted) []),
        w.withPermissions (permissionsBut w (perms.filter selected))) := by
  have loop := run_foldlM implementation step
    (fun visited => (visited.filter selected).foldl (noteGroup noted) [])
    (fun visited => w.withPermissions (permissionsBut w (visited.filter selected))) perms
    fun visited perm rest split => by
      have inside : perm ∈ perms := by simp [split]
      cases chosen : selected perm with
      | false =>
          rw [(each perm inside).passes chosen]
          simp [List.filter_append, chosen]
      | true =>
          have fresh : perm ∉ visited := by
            rw [split, List.nodup_append] at distinct
            exact fun earlier => distinct.2.2 perm earlier perm List.mem_cons_self rfl
          have present : (permissionsBut w (visited.filter selected)).get? perm.uid = some perm :=
            Registry.get?_of_mem (Registry.mem_filter.mpr ⟨listed inside, by simp [fresh]⟩)
          rw [(each perm inside).takes chosen _ _ present, List.filter_append,
            List.filter_cons_of_pos chosen, List.filter_nil, List.foldl_append,
            ← erase_permissionsBut (listed inside)]
          rfl
  have untouched : permissionsBut w [] = w.cluster.permissions :=
    Registry.filter_eq_self fun _ _ => by simp
  simp only [List.filter_nil, List.foldl_nil, untouched] at loop
  exact loop

/-- What is left once permissions and client groups are deleted. -/
abbrev World.without (w : World) (perms : List (Entry NfsPermission)) (names : List String) : World :=
  (w.withPermissions (permissionsBut w perms)).withGroups (groupsBut w names)

/-- The permission is gone by the time its DELETE is sent. -/
abbrev permGone (gone : Request → Bool) (perm : Entry NfsPermission) : Bool :=
  gone (.deleteNfsPermission perm.uid)

private theorem permissionsBut_eq_iff {deleted deleted' : List (Entry NfsPermission)}
    (listed : deleted ⊆ w.cluster.permissions.rows)
    (listed' : deleted' ⊆ w.cluster.permissions.rows) :
    permissionsBut w deleted = permissionsBut w deleted' ↔
      ∀ perm, perm ∈ deleted ↔ perm ∈ deleted' := by
  constructor
  · intro same perm
    have kept (deleted : List (Entry NfsPermission)) (member : perm ∈ w.cluster.permissions.rows) :
        perm ∈ (permissionsBut w deleted).rows ↔ perm ∉ deleted := by
      rw [Registry.mem_filter, decide_eq_true_eq]
      exact and_iff_right member
    have same' : perm ∈ (permissionsBut w deleted).rows ↔
        perm ∈ (permissionsBut w deleted').rows := by
      rw [same]
    by_cases member : perm ∈ w.cluster.permissions.rows
    · exact not_iff_not.mp ((kept _ member).symm.trans (same'.trans (kept _ member)))
    · exact iff_of_false (fun inside => member (listed inside)) fun inside =>
        member (listed' inside)
  · intro same
    exact Registry.filter_congr fun perm _ => by simp [same]

private theorem groupsBut_eq_iff {names names' : List String} :
    groupsBut w names = groupsBut w names' ↔
      ∀ name, w.cluster.clientGroups.find? name ≠ none → (name ∈ names ↔ name ∈ names') := by
  constructor
  · intro same name held
    obtain ⟨group, found⟩ := Option.ne_none_iff_exists'.mp held
    obtain ⟨member, rfl⟩ := Registry.find?_eq_some_iff.mp found
    have kept (names : List String) :
        group ∈ (groupsBut w names).rows ↔ group.val.name ∉ names := by
      rw [Registry.mem_filter, decide_eq_true_eq]
      exact and_iff_right member
    have same' : group ∈ (groupsBut w names).rows ↔ group ∈ (groupsBut w names').rows := by
      rw [same]
    exact not_iff_not.mp ((kept names).symm.trans (same'.trans (kept names')))
  · intro same
    refine Registry.filter_congr fun group member => ?_
    have held : w.cluster.clientGroups.find? group.val.name ≠ none :=
      fun absent => Registry.find?_eq_none_iff.mp absent group member rfl
    simp [same _ held]

private theorem without_groups_iff {perms : List (Entry NfsPermission)}
    {names names' : List String} :
    (w.without perms names).cluster = (w.without perms names').cluster ↔
      groupsBut w names = groupsBut w names' := by
  simp only [Cluster.mk.injEq, true_and, and_true]

section Removal

variable {fsName : String} {rule : AccessRule}

/-- A permission the removal of a rule deletes. -/
def matching (fsName : String) (rule : AccessRule) (perm : Entry NfsPermission) : Bool :=
  decide (perm.val.filesystem = fsName ∧
    Text.contains perm.val.group (Text.take rule.accessId 8))

/-- A permission with the name of a group. -/
def named (perm : Entry NfsPermission) : Bool := decide (perm.val.group ≠ "")

private theorem takes_removeMatchingPermission (fsName : String) (rule : AccessRule)
    (perm : Entry NfsPermission) :
    Takes respond (matching fsName rule) named
      (removeMatchingPermission fsName (Text.take rule.accessId 8)) perm := by
  constructor
  · intro chosen names u present
    have deleted : (send .admin (.deleteNfsPermission perm.uid)).run respond u =
        (.ok (), u.withPermissions (u.cluster.permissions.erase perm.uid)) := by
      simp only [send, run_perform, respond, Cluster.answer, present, asRaised]
    rw [removeMatchingPermission, if_pos (of_decide_eq_true chosen), run_bind_ok deleted, run_pure]
    by_cases unnamed : perm.val.group = "" <;> simp [noteGroup, named, unnamed]
  · intro passed names u
    rw [removeMatchingPermission, if_neg (of_decide_eq_false passed), run_pure]

/-- The DELETE of a permission that has vanished is refused. -/
theorem run_deletePermission_gone (w : World) {perm : Entry NfsPermission}
    {permissions : Registry NfsPermission}
    (present : permissions.get? perm.uid = some perm) (vanished : permGone gone perm = true) :
    (send .admin (.deleteNfsPermission perm.uid)).run (vanishing gone)
        (w.withPermissions permissions) =
      (.error alreadyGone, w.withPermissions (permissions.erase perm.uid)) := by
  simp only [permGone] at vanished
  simp only [send, run_perform, vanishing, respond, Cluster.answer, present, asRaised,
    Request.isDelete, vanished, Bool.and_self, ↓reduceIte]

/-- A permission that has not vanished is removed as usual. -/
theorem alike_removeMatchingPermission (names : List String) (perm : Entry NfsPermission)
    (held : matching fsName rule perm = true → permGone gone perm = false) :
    RunsAlike (vanishing gone) respond
      (removeMatchingPermission fsName (Text.take rule.accessId 8) names perm) := by
  refine .ite (fun chosen => .bind (.perform (vanishing_other ?_)) fun _ => .pure _) fun _ => .pure _
  simp [Op.deletes, held (decide_eq_true chosen)]

/-- The permissions the removal of a rule deletes. -/
abbrev doomed (fsName : String) (rule : AccessRule) (w : World) : List (Entry NfsPermission) :=
  w.cluster.permissions.rows.filter (matching fsName rule)

/-- Deleting the groups found, in the order of a set's iteration. -/
theorem run_deleteIterated {delete : String → Driver Unit} (cfg : Config) (names : List String)
    (deletes : ∀ name u, (delete name).run respond u =
      (.ok (), u.withGroups (groupsBut u [name]))) :
    ((cfg.iterationOrder names).forM delete).run respond w =
      (.ok (), w.withGroups (groupsBut w names)) := by
  rw [run_deleteGroups _ deletes]
  refine congrArg (fun groups => (Except.ok (), w.withGroups groups)) (groupsBut_eq_iff.mpr ?_)
  exact fun name _ => (cfg.iterationPerm names).mem_iff

/-- Where nothing vanishes, the removal of a rule deletes the matching permissions
and their client groups. -/
theorem run_removeNfsRule (cfg : Config) (fsName : String) (rule : AccessRule) :
    (removeNfsRule cfg fsName rule).run respond w =
      (.ok (), w.without (doomed fsName rule w)
        ((doomed fsName rule w).foldl (noteGroup named) [])) := by
  have listed : (send .admin .listNfsPermissions).run respond w =
      (.ok w.cluster.permissions.rows, w) := rfl
  have taken := run_takePermissions (List.Subset.refl _) w.cluster.permissions.nodup_rows
    fun perm _ => takes_removeMatchingPermission fsName rule perm
  rw [removeNfsRule, run_bind_ok listed, run_bind_ok taken,
    run_deleteIterated cfg _ fun name u => run_deleteClientGroupByName name]

/-- Where no matching permission has vanished, the removal of a rule does not show
what else has. -/
theorem run_removeNfsRule_held (cfg : Config) (fsName : String) (rule : AccessRule)
    (held : ∀ perm ∈ doomed fsName rule w, permGone gone perm = false) :
    (removeNfsRule cfg fsName rule).run (vanishing gone) w =
      (removeNfsRule cfg fsName rule).run respond w := by
  have listed {implementation : (op : Op) → World → Except Error op.Res × World}
      (same : implementation (.api .admin .listNfsPermissions) w =
        respond (.api .admin .listNfsPermissions) w) :
      (send .admin .listNfsPermissions).run implementation w =
        (.ok w.cluster.permissions.rows, w) := by
    rw [send, run_perform, same]
    rfl
  rw [removeNfsRule, run_bind_ok (listed (vanishing_other rfl w)), run_bind_ok (listed rfl)]
  refine RunsAlike.bind (.foldlM (fun names perm member => ?_) _) (fun names => ?_) w
  · exact alike_removeMatchingPermission names perm fun chosen =>
      held perm (List.mem_filter.mpr ⟨member, chosen⟩)
  · exact .forM fun name _ => alike_deleteClientGroupByName name

/-- The first matching permission that has vanished ends the removal of a rule. -/
theorem run_removeNfsRule_stopped (cfg : Config) (fsName : String) (rule : AccessRule)
    {before after : List (Entry NfsPermission)} {perm : Entry NfsPermission}
    (split : w.cluster.permissions.rows = before ++ perm :: after)
    (held : ∀ other ∈ before, matching fsName rule other = true →
      permGone gone other = false)
    (chosen : matching fsName rule perm = true)
    (vanished : permGone gone perm = true) :
    (removeNfsRule cfg fsName rule).run (vanishing gone) w =
      (.error alreadyGone, w.withPermissions (permissionsBut w
        (before.filter (matching fsName rule) ++ [perm]))) := by
  have listed : (send .admin .listNfsPermissions).run (vanishing gone) w =
      (.ok w.cluster.permissions.rows, w) := by
    rw [send, run_perform, vanishing_other rfl]
    rfl
  have distinct := w.cluster.permissions.nodup_rows
  have visible : before ⊆ w.cluster.permissions.rows := by simp [split]
  have inside : perm ∈ w.cluster.permissions.rows := by simp [split]
  rw [split] at distinct
  have fresh : perm ∉ before := fun earlier =>
    (List.nodup_append.mp distinct).2.2 perm earlier perm List.mem_cons_self rfl
  have taken := run_takePermissions visible (List.nodup_append.mp distinct).1 fun other member =>
    (takes_removeMatchingPermission fsName rule other).of_alike fun names =>
      alike_removeMatchingPermission names other (held other member)
  have present : (permissionsBut w (before.filter
      (matching fsName rule))).get? perm.uid = some perm :=
    Registry.get?_of_mem (Registry.mem_filter.mpr ⟨inside, by simp [fresh]⟩)
  have refused := run_deletePermission_gone w present vanished
  rw [removeNfsRule, run_bind_ok listed, split, List.foldlM_append]
  apply run_bind_error
  rw [run_bind_ok taken, List.foldlM_cons]
  apply run_bind_error
  rw [removeMatchingPermission, if_pos (of_decide_eq_true chosen), run_bind_error refused,
    erase_permissionsBut inside]

/-- No permission the removal deletes has vanished, except perhaps the last one, with
no client group left to reap. -/
def RemovalUnhindered (gone : Request → Bool) (fsName : String) (rule : AccessRule) (w : World) :
    Prop :=
  (∀ perm ∈ (doomed fsName rule w).dropLast, permGone gone perm = false) ∧
    ((∃ perm ∈ doomed fsName rule w, permGone gone perm = true) →
      ∀ perm ∈ doomed fsName rule w, perm.val.group ≠ "" →
        w.cluster.clientGroups.find? perm.val.group = none)

private theorem mem_foldl_named {perms : List (Entry NfsPermission)} {name : String} :
    name ∈ perms.foldl (noteGroup named) [] ↔
      name ≠ "" ∧ ∃ perm ∈ perms, perm.val.group = name := by
  rw [mem_noted]
  simp only [List.not_mem_nil, false_or, named, decide_eq_true_eq]
  constructor
  · rintro ⟨perm, member, some', rfl⟩
    exact ⟨some', perm, member, rfl⟩
  · rintro ⟨some', perm, member, rfl⟩
    exact ⟨perm, member, some', rfl⟩

/-- A removal that stopped leaves what a whole one leaves, if nothing was left to
delete. -/
theorem stopped_same_iff {first rest : List (Entry NfsPermission)} {perm : Entry NfsPermission}
    {names : List String} (listed : first ++ perm :: rest ⊆ w.cluster.permissions.rows)
    (distinct : (first ++ perm :: rest).Nodup) :
    (w.withPermissions (permissionsBut w (first ++ [perm]))).cluster =
        (w.without (first ++ perm :: rest) names).cluster ↔
      rest = [] ∧ ∀ name, w.cluster.clientGroups.find? name ≠ none → name ∉ names := by
  have untouched : groupsBut w [] = w.cluster.clientGroups :=
    Registry.filter_eq_self fun _ _ => by simp
  have parts : (w.withPermissions (permissionsBut w (first ++ [perm]))).cluster =
        (w.without (first ++ perm :: rest) names).cluster ↔
      permissionsBut w (first ++ [perm]) = permissionsBut w (first ++ perm :: rest) ∧
        groupsBut w [] = groupsBut w names := by
    rw [untouched]
    simp only [Cluster.mk.injEq, true_and]
    exact and_comm
  rw [parts, groupsBut_eq_iff, permissionsBut_eq_iff _ listed]
  · refine and_congr ⟨fun same => ?_, ?_⟩ (by simp)
    · refine List.eq_nil_iff_forall_not_mem.mpr fun other member => ?_
      have inside := (same other).mpr (by simp [member])
      have apart := List.nodup_append.mp distinct
      rcases List.mem_append.mp inside with earlier | last
      · exact apart.2.2 other earlier other (List.mem_cons_of_mem _ member) rfl
      · rw [List.mem_singleton.mp last] at member
        exact (List.nodup_cons.mp apart.2.1).1 member
    · rintro rfl other
      exact Iff.rfl
  · exact fun other member => listed (by
      rcases List.mem_append.mp member with earlier | last
      · exact List.mem_append_left _ earlier
      · rw [List.mem_singleton.mp last]
        simp)

private theorem none_before_last_iff {α : Type} {first rest : List α} {element : α}
    {marked : α → Bool}
    (none' : ∀ other ∈ first, marked other = false) (here : marked element = true) :
    (∀ other ∈ (first ++ element :: rest).dropLast, marked other = false) ↔ rest = [] := by
  cases rest with
  | nil =>
      refine iff_of_true (fun other member => none' other ?_) rfl
      rwa [List.dropLast_concat] at member
  | cons next rest =>
      refine iff_of_false (fun all => ?_) (List.cons_ne_nil _ _)
      have inside : element ∈ (first ++ element :: next :: rest).dropLast := by
        rw [List.dropLast_append_of_ne_nil (List.cons_ne_nil _ _)]
        simp
      rw [all element inside] at here
      cases here

/-- The removal of a rule recovers from what has vanished exactly where it is
unhindered. -/
theorem removal_recovers_iff (cfg : Config) (fsName : String) (rule : AccessRule) :
    ((removeNfsRule cfg fsName rule).run (vanishing gone) w).2.cluster =
        ((removeNfsRule cfg fsName rule).run respond w).2.cluster ↔
      RemovalUnhindered gone fsName rule w := by
  cases first : w.cluster.permissions.rows.find? fun perm =>
      matching fsName rule perm && permGone gone perm with
  | none =>
      have held : ∀ perm ∈ doomed fsName rule w, permGone gone perm = false := by
        intro perm member
        obtain ⟨listed, chosen⟩ := List.mem_filter.mp member
        simpa [chosen] using List.find?_eq_none.mp first perm listed
      rw [run_removeNfsRule_held cfg fsName rule held]
      refine iff_of_true rfl ⟨fun perm member => held perm (List.mem_of_mem_dropLast member), ?_⟩
      rintro ⟨perm, member, vanished⟩
      rw [held perm member] at vanished
      cases vanished
  | some perm =>
      obtain ⟨found, before, after, split, none'⟩ := List.find?_eq_some_iff_append.mp first
      rw [Bool.and_eq_true] at found
      have held : ∀ other ∈ before, matching fsName rule other = true →
          permGone gone other = false := by
        intro other member chosen
        simpa [chosen] using none' other member
      rw [run_removeNfsRule_stopped cfg fsName rule split held found.1 found.2, run_removeNfsRule]
      have whole : doomed fsName rule w = before.filter (matching fsName rule) ++
          perm :: after.filter (matching fsName rule) := by
        rw [doomed, split, List.filter_append, List.filter_cons_of_pos found.1]
      have distinct : (doomed fsName rule w).Nodup := w.cluster.permissions.nodup_rows.filter _
      have listed : doomed fsName rule w ⊆ w.cluster.permissions.rows := List.filter_sublist.subset
      simp only [RemovalUnhindered]
      rw [whole] at distinct listed ⊢
      refine (stopped_same_iff listed distinct).trans (and_congr ?_ ?_)
      · refine (none_before_last_iff (fun other member => ?_) found.2).symm
        exact held other (List.mem_filter.mp member).1 (List.mem_filter.mp member).2
      · have some' : ∃ other ∈ before.filter (matching fsName rule) ++
            perm :: after.filter (matching fsName rule), permGone gone other = true :=
          ⟨perm, by simp, found.2⟩
        refine Iff.trans ?_ (imp_iff_right some').symm
        simp only [mem_foldl_named, not_and, not_exists]
        constructor
        · intro absent other member some''
          by_contra held'
          exact absent _ held' some'' other member rfl
        · rintro absent name held' some'' other member rfl
          exact held' (absent other member some'')

end Removal

section Pruning

variable {fsName : String} {share : Share} {rules : List AccessRule}

/-- A permission a full sync prunes. -/
def stale (share : Share) (fsName : String) (rules : List AccessRule)
    (perm : Entry NfsPermission) : Bool :=
  decide (perm.val.filesystem = fsName ∧ Text.startsWith perm.val.group (nfsCgPrefix share.id) ∧
    perm.val.group ∉ rules.map fun rule => nfsCgName share.id rule.accessId)

/-- The permissions a full sync prunes. -/
abbrev stalePermissions (share : Share) (fsName : String) (rules : List AccessRule) (w : World) :
    List (Entry NfsPermission) :=
  w.cluster.permissions.rows.filter (stale share fsName rules)

/-- The group of a permission that has vanished is not noted. -/
theorem takes_prunePermission (gone : Request → Bool) (share : Share) (fsName : String)
    (rules : List AccessRule) (perm : Entry NfsPermission) :
    Takes (vanishing gone) (stale share fsName rules) (fun perm => !permGone gone perm)
      (prunePermission fsName (nfsCgPrefix share.id)
        (rules.map fun rule => nfsCgName share.id rule.accessId)) perm := by
  constructor
  · intro chosen names u present
    rw [prunePermission, if_pos (of_decide_eq_true chosen)]
    cases vanished : permGone gone perm with
    | true =>
        have refused : (send .admin (.deleteNfsPermission perm.uid)).run (vanishing gone) u = _ :=
          run_deletePermission_gone u present vanished
        rw [run_tryCatch_error (run_bind_error refused _)]
        simp [noteGroup, vanished]
    | false =>
        have deleted : (send .admin (.deleteNfsPermission perm.uid)).run (vanishing gone) u =
            (.ok (), u.withPermissions (u.cluster.permissions.erase perm.uid)) := by
          rw [send, run_perform, vanishing_other (by simpa [Op.deletes] using fun _ => vanished)]
          simp only [respond, Cluster.answer, present, asRaised]
        have noted := (run_bind_ok deleted fun _ => pure (names.insert perm.val.group)).trans
          (run_pure _ _)
        rw [run_tryCatch_ok noted]
        simp [noteGroup, vanished]
  · intro passed names u
    rw [prunePermission, if_neg (of_decide_eq_false passed), run_pure]

/-- Where nothing vanishes the world answers as usual. -/
theorem vanishing_nothing : vanishing (fun _ => false) = respond := by
  funext op w
  exact vanishing_other (by cases op <;> simp [Op.deletes]) w

/-- A full sync deletes the stale permissions, and the groups of those that had not
vanished. -/
theorem run_pruneNfsRules (w : World) (gone : Request → Bool) (cfg : Config) (share : Share)
    (fsName : String) (rules : List AccessRule) :
    (pruneNfsRules cfg share fsName rules).run (vanishing gone) w =
      (.ok (), w.without (stalePermissions share fsName rules w)
        ((stalePermissions share fsName rules w).foldl
          (noteGroup fun perm => !permGone gone perm) [])) := by
  have listed : (send .admin .listNfsPermissions).run (vanishing gone) w =
      (.ok w.cluster.permissions.rows, w) := by
    rw [send, run_perform, vanishing_other rfl]
    rfl
  have taken := run_takePermissions (List.Subset.refl _) w.cluster.permissions.nodup_rows
    fun perm _ => takes_prunePermission gone share fsName rules perm
  have reaped : ∀ names, RunsAlike (vanishing gone) respond
      (((cfg.iterationOrder names).forM fun cgName =>
        tryCatch (deleteClientGroupByName cgName) fun _ => pure ()) : Driver PUnit) :=
    fun names => .forM fun name _ => .tryCatch (alike_deleteClientGroupByName name) fun _ => .pure _
  rw [pruneNfsRules, run_bind_ok listed, run_bind_ok taken, reaped,
    run_deleteIterated cfg _ fun name u => run_tryCatch_ok (run_deleteClientGroupByName name) _]

/-- Where a stale permission has vanished, another one of its group has not, or the
group does not exist. -/
def PruningUnhindered (gone : Request → Bool) (share : Share) (fsName : String)
    (rules : List AccessRule) (w : World) : Prop :=
  ∀ perm ∈ stalePermissions share fsName rules w, permGone gone perm = true →
    (∃ other ∈ stalePermissions share fsName rules w, permGone gone other = false ∧
      other.val.group = perm.val.group) ∨ w.cluster.clientGroups.find? perm.val.group = none

/-- A full sync recovers from what has vanished exactly where it is unhindered. -/
theorem pruning_recovers_iff (cfg : Config) (share : Share) (fsName : String)
    (rules : List AccessRule) :
    ((pruneNfsRules cfg share fsName rules).run (vanishing gone) w).2.cluster =
        ((pruneNfsRules cfg share fsName rules).run respond w).2.cluster ↔
      PruningUnhindered gone share fsName rules w := by
  have usual := run_pruneNfsRules w (fun _ => false) cfg share fsName rules
  rw [vanishing_nothing] at usual
  rw [run_pruneNfsRules, usual]
  refine without_groups_iff.trans (groupsBut_eq_iff.trans ?_)
  simp only [mem_noted, List.not_mem_nil, false_or, Bool.not_eq_eq_eq_not, Bool.not_true, true_and]
  constructor
  · intro same perm member vanished
    by_cases held : w.cluster.clientGroups.find? perm.val.group = none
    · exact Or.inr held
    · obtain ⟨other, member', kept, shared⟩ := (same _ held).mpr ⟨perm, member, rfl⟩
      exact Or.inl ⟨other, member', kept, shared⟩
  · intro unhindered name held
    constructor
    · rintro ⟨perm, member, -, same⟩
      exact ⟨perm, member, same⟩
    · rintro ⟨perm, member, rfl⟩
      cases vanished : permGone gone perm with
      | false => exact ⟨perm, member, vanished, rfl⟩
      | true =>
          rcases unhindered perm member vanished with another | absent
          · exact another
          · exact absurd absent held

end Pruning

/-! ## Cleanups -/

/-- The operations that clean up. The removal of an access rule is an update that
deletes it. -/
inductive Cleanup where
  | deleteShare (share : Share)
  | deleteSnapshot (snapshot : ShareSnapshot)
  | removeRule (share : Share) (accessRules : List AccessRule) (rule : AccessRule)
  | pruneNfs (share : Share) (rules : List AccessRule)
  | pruneWekafs (session : Session) (share : Share) (fsUid : Option Uid) (rules : List AccessRule)

namespace Cleanup

@[reducible] def Result : Cleanup → Type
  | .removeRule .. => RuleStates
  | _ => Unit

/-- What the driver does for an operation. -/
def program (cfg : Config) : (cleanup : Cleanup) → Driver cleanup.Result
  | .deleteShare share => WekaShareDriver.deleteShare cfg share
  | .deleteSnapshot snapshot => WekaShareDriver.deleteSnapshot cfg snapshot
  | .removeRule share accessRules rule => updateAccess cfg share accessRules [] [rule] []
  | .pruneNfs share rules => pruneNfsRules cfg share (cfg.shareName share.id) rules
  | .pruneWekafs session share fsUid rules => pruneWekafsRules session share fsUid rules

/-- The operation ends as it does when every DELETE is answered as usual: with the
same outcome, and everything it deletes gone. -/
def Resumes (cfg : Config) (gone : Request → Bool) (w : World) (cleanup : Cleanup) : Prop :=
  ((cleanup.program cfg).run (vanishing gone) w).1 = ((cleanup.program cfg).run respond w).1 ∧
    ((cleanup.program cfg).run (vanishing gone) w).2.cluster =
      ((cleanup.program cfg).run respond w).2.cluster

/-- What has vanished is not in the way of the operation. -/
def Unhindered (cfg : Config) (gone : Request → Bool) (w : World) : Cleanup → Prop
  | .removeRule share _ rule =>
      share.shareProto = .nfs → RemovalUnhindered gone (cfg.shareName share.id) rule w
  | .pruneNfs share rules => PruningUnhindered gone share (cfg.shareName share.id) rules w
  | _ => True

end Cleanup

variable {cfg : Config}

private theorem resumes_of_alike {cleanup : Cleanup}
    (alike : RunsAlike (vanishing gone) respond (cleanup.program cfg)) :
    cleanup.Resumes cfg gone w := by
  rw [Cleanup.Resumes, alike w]
  exact ⟨rfl, rfl⟩

/-- An update that only deletes a rule of an NFS share always returns. -/
theorem run_updateAccess_remove {share : Share} (protocol : share.shareProto = .nfs)
    (implementation : (op : Op) → World → Except Error op.Res × World)
    (accessRules : List AccessRule) (rule : AccessRule) :
    (updateAccess cfg share accessRules [] [rule] []).run implementation w =
      (.ok [], ((removeNfsRule cfg (cfg.shareName share.id) rule).run implementation w).2) := by
  have shape : updateAccess cfg share accessRules [] [rule] [] =
      updateNfsAccess cfg share [] [rule] false := if_pos protocol
  have quiet : (tryCatch (removeNfsRule cfg (cfg.shareName share.id) rule) fun _ => pure ()).run
      implementation w =
        (.ok (), ((removeNfsRule cfg (cfg.shareName share.id) rule).run implementation w).2) := by
    rw [run_tryCatch]
    rcases (removeNfsRule cfg (cfg.shareName share.id) rule).run implementation w with
      ⟨error | value, t⟩ <;> rfl
  rw [shape]
  have once := (run_bind_ok quiet fun _ => (pure ⟨⟩ : Driver PUnit)).trans (run_pure _ _)
  exact run_bind_ok once fun _ => pure ([] : RuleStates)

/-- A cleanup ends as if nothing had vanished exactly where it is unhindered. -/
theorem cleanup_resumes_iff (cfg : Config) (gone : Request → Bool) (w : World)
    (cleanup : Cleanup) : cleanup.Resumes cfg gone w ↔ cleanup.Unhindered cfg gone w := by
  cases cleanup with
  | deleteShare share => exact iff_of_true (resumes_of_alike (alike_deleteShare cfg share)) trivial
  | deleteSnapshot snapshot =>
      exact iff_of_true (resumes_of_alike (alike_deleteSnapshot cfg snapshot)) trivial
  | pruneWekafs session share fsUid rules =>
      exact iff_of_true (resumes_of_alike (alike_pruneWekafsRules session share fsUid rules)) trivial
  | pruneNfs share rules =>
      have returned (gone : Request → Bool) :
          ((pruneNfsRules cfg share (cfg.shareName share.id) rules).run (vanishing gone) w).1 =
            .ok () := by
        rw [run_pruneNfsRules]
      have usual := returned fun _ => false
      rw [vanishing_nothing] at usual
      refine (and_iff_right ?_).trans
        (pruning_recovers_iff cfg share (cfg.shareName share.id) rules)
      exact (returned gone).trans usual.symm
  | removeRule share accessRules rule =>
      by_cases protocol : share.shareProto = .nfs
      · simp only [Cleanup.Resumes, Cleanup.program, Cleanup.Unhindered,
          run_updateAccess_remove protocol, true_and, protocol, true_imp_iff]
        exact removal_recovers_iff cfg (cfg.shareName share.id) rule
      · refine iff_of_true (resumes_of_alike ?_) fun nfs => absurd nfs protocol
        have shape : updateAccess cfg share accessRules [] [rule] [] =
            updateWekafsAccess cfg share [] [rule] false := if_neg protocol
        rw [Cleanup.program, shape]
        exact alike_updateWekafsAccess cfg share rule

/-! ## A vanished permission -/

/-- The sample rule is in force. -/
def grantedNfs : World :=
  ((⟨[sampleRule], [sampleRule], [], []⟩ : AccessUpdate).program sampleConfig
    (sampleShare .nfs)).run respond sampleNfs |>.2

/-- The DELETE of the sample rule's permission finds it gone. -/
def permissionVanished : Request → Bool := fun request => request == .deleteNfsPermission 0

/-- Neither the removal of the rule nor a full sync without it reaps its client
group. -/
theorem vanished_permission_leaves_group :
    ¬ (Cleanup.removeRule (sampleShare .nfs) [] sampleRule).Resumes sampleConfig
        permissionVanished grantedNfs ∧
      ¬ (Cleanup.pruneNfs (sampleShare .nfs) []).Resumes sampleConfig permissionVanished
        grantedNfs := by
  let held : Cluster → Bool := fun cluster =>
    (cluster.clientGroups.find? (nfsCgName (sampleShare .nfs).id sampleRule.accessId)).isSome
  constructor
  · rintro ⟨-, same⟩
    have same' := congrArg held same
    revert same'
    decide
  · rintro ⟨-, same⟩
    have same' := congrArg held same
    revert same'
    decide

end WekaShareDriver
