import WekaShareDriver.Access.NfsCalls
import WekaShareDriver.LostResponses

/-! # Operations that lost responses leave undisturbed

A create that the driver does not recover from makes its operation fail, or leaves
less on the cluster, when its response is lost. An operation is therefore
undisturbed exactly where no response to such a create is lost
(`WekaShareDriver.call_agrees_iff`).
-/

namespace WekaShareDriver

open Foundation Program

/-- Two worlds with one cluster. -/
def SameCluster (w t : World) : Prop := t.cluster = w.cluster

/-- Both outcomes are results or both are errors. -/
def SameEnding {α : Type} (outcome outcome' : Except Error α) : Prop :=
  outcome.isOk = outcome'.isOk

/-- From a state, a program runs to the same ending with and without losses, and
without them it returns. -/
structure Exposed (maxRetries : Nat) (losing : World → Op → Prop) {α : Type}
    (program : Driver α) (w : World) : Prop where
  agrees : Agrees reliable (lossy maxRetries losing) SameEnding SameCluster program w
  completes : program.wp reliable (passing fun _ => True) (ending (fun _ _ => True) fun _ _ => False)
    w

variable {cfg : Config} {share : Share} {maxRetries : Nat} {losing : World → Op → Prop}
  {session : Session} {w t : World}

section Exposed

variable (retried : 1 ≤ maxRetries)

include retried

/-- Where a program and its rest are exposed, so is the rest once the program has returned. -/
theorem Exposed.rest {α β : Type} {program : Driver α} {rest : α → Driver β} {value : α}
    (exposed : Exposed maxRetries losing (program >>= rest) w)
    (run : Exec reliable program w (.ok value) t) : Exposed maxRetries losing (rest value) t := by
  have completes := exposed.completes
  rw [wp_bind, onOk_ending] at completes
  exact ⟨exposed.agrees.rest (fun _ _ _ _ => lossy_of_reliable retried) run, run.post completes⟩

/-- Where an operation is to return, the response to its next create is not lost. -/
theorem Exposed.not_lost {α : Type} {request : Request} {rest : request.Reply → Driver α}
    (exposed : Exposed maxRetries losing (send session request >>= rest) w)
    (executed : CreateExecuted (.api session request) w) : ¬ losing w (.api session request) := by
  intro loses
  have lost : Exec (lossy maxRetries losing) (send session request >>= rest) w
      (.error (.api (.conflict ""))) (respond (.api session request) w).2 :=
    .bind_error (.perform ((lossy_iff retried).mpr (Or.inr ⟨loses, executed, rfl, "", rfl⟩)))
  have straight : Exec reliable (send session request >>= rest) w
      ((send session request >>= rest).run respond w).1
      ((send session request >>= rest).run respond w).2 := exec_run _ w
  obtain ⟨same, -⟩ := exposed.agrees _ _ _ _ lost straight
  have returned := straight.post exposed.completes
  cases ended : ((send session request >>= rest).run respond w).1 with
  | ok value =>
      rw [ended] at same
      cases same
  | error error =>
      rw [ended] at returned
      exact returned

/-- The first request of an operation that is to return. -/
theorem Exposed.wp_request {α : Type} {request : Request} {rest : request.Reply → Driver α}
    (exposed : Exposed maxRetries losing (send session request >>= rest) w)
    (later : ∀ reply t, Exec reliable (send session request) w (.ok reply) t →
      (rest reply).wp reliable (NotLost losing) (fun _ _ => True) t) :
    (send session request >>= rest).wp reliable (NotLost losing) (fun _ _ => True) w := by
  rw [wp_bind, wp_send]
  refine ⟨⟨?_, ?_⟩, fun _ impossible => impossible.elim⟩
  · rintro _ _ same _ executed
    cases same
    exact exposed.not_lost retried executed
  · cases replied : asRaised (w.cluster.answer session request).1 with
    | ok reply => exact later reply _ (.perform (Or.inl (Prod.ext replied rfl)))
    | error error => trivial

/-- A part that sends no create is followed to where the rest begins. -/
theorem Exposed.wp_rest {α β : Type} {program : Driver α} {rest : α → Driver β}
    (exposed : Exposed maxRetries losing (program >>= rest) w)
    (free : program.Uses fun op => ∀ u v, NotLost losing u op v)
    (later : ∀ value t, Exposed maxRetries losing (rest value) t →
      (rest value).wp reliable (NotLost losing) (fun _ _ => True) t) :
    (program >>= rest).wp reliable (NotLost losing) (fun _ _ => True) w :=
  wp_of_rest free fun value t run => later value t (exposed.rest retried run)

/-- The request an operation ends with. -/
theorem wp_lastRequest {α : Type} {request : Request} {value : α}
    (agrees : Agrees reliable (lossy maxRetries losing) SameEnding SameCluster
      (send session request >>= fun _ => pure value : Driver α) w) :
    (send session request >>= fun _ => pure value : Driver α).wp reliable (NotLost losing)
      (fun _ _ => True) w := by
  rw [wp_bind, wp_send]
  refine ⟨⟨?_, ?_⟩, fun _ impossible => impossible.elim⟩
  · rintro _ _ same _ executed
    cases same
    refine Exposed.not_lost retried ⟨agrees, ?_⟩ executed
    obtain ⟨_, _, same, _, reply, replied⟩ := executed
    cases same
    change asRaised (w.cluster.answer session request).1 = .ok reply at replied
    rw [wp_bind, wp_send, replied]
    exact ⟨⟨trivial, trivial⟩, fun _ impossible => impossible.elim⟩
  · cases asRaised (w.cluster.answer session request).1 <;> trivial

omit retried in
/-- What a guarded operation reports shows how it ended. -/
theorem agrees_of_guarded {α : Type} {program : Driver Unit} {good bad : α}
    (distinct : good ≠ bad)
    (agrees : Agrees reliable (lossy maxRetries losing) Eq SameCluster
      (tryCatch (program >>= fun _ => pure good) fun _ => pure bad) w) :
    Agrees reliable (lossy maxRetries losing) SameEnding SameCluster program w := by
  have guarded {service : Service Op Op.Res Error World} {outcome : Except Error Unit} {t : World}
      (run : Exec service program w outcome t) :
      Exec service (tryCatch (program >>= fun _ => pure good) fun _ => pure bad) w
        (.ok (if outcome.isOk then good else bad)) t := by
    cases outcome with
    | ok value => exact (run.bind (.ret good t)).tryCatch_ok
    | error error => exact run.bind_error.tryCatch_error (.ret bad t)
  intro outcome t outcome' t' astray straight
  obtain ⟨same, cluster⟩ := agrees _ _ _ _ (guarded astray) (guarded straight)
  refine ⟨?_, cluster⟩
  have reported := Except.ok.inj same
  unfold SameEnding
  cases returned : outcome.isOk <;> cases returned' : outcome'.isOk
  · rfl
  · rw [returned, returned'] at reported
    exact absurd reported.symm distinct
  · rw [returned, returned'] at reported
    exact absurd reported distinct
  · rfl

end Exposed

/-- An operation that is not one of the creates not recovered from. -/
theorem notLost_of_recovered {request : Request} (recovered : request.unrecovered = false)
    (u v : World) : NotLost losing u (.api session request) v := by
  rintro _ _ same unrecovered
  cases same
  rw [recovered] at unrecovered
  cases unrecovered

private theorem notLost_of_setup {op : Op} (setup : SetupOp op) (u v : World) :
    NotLost losing u op v := by
  cases op with
  | api session request =>
      cases request with
      | listOrganizations | createOrganization name username password | listFilesystems =>
          exact notLost_of_recovered rfl u v
      | _ => exact setup.elim
  | _ => exact fun _ _ same => by cases same

private theorem uses_notLost {request : Request} (recovered : request.unrecovered = false) :
    (send session request).Uses fun op => ∀ u v, NotLost losing u op v :=
  uses_perform fun u v => notLost_of_recovered recovered u v

/-! ## Group policies -/

section GroupPolicies

variable (retried : 1 ≤ maxRetries)

include retried

private theorem wp_ensureGroupPolicy_exposed {α : Type} {fsUid : Uid} {group : String}
    {level : Level}
    {ips : List String} {rest : Unit → Driver α}
    (exposed : Exposed maxRetries losing
      (ensureGroupPolicy session fsUid group level ips >>= rest) w)
    (later : ∀ t, Exposed maxRetries losing (rest ()) t →
      (rest ()).wp reliable (NotLost losing) (fun _ _ => True) t) :
    (ensureGroupPolicy session fsUid group level ips >>= rest).wp reliable (NotLost losing)
      (fun _ _ => True) w := by
  have attach (policyUid : Uid) {t : World}
      (exposed : Exposed maxRetries losing (attachPolicy session fsUid policyUid >>= rest) t) :
      (attachPolicy session fsUid policyUid >>= rest).wp reliable (NotLost losing)
        (fun _ _ => True) t :=
    exposed.wp_rest retried (.tryCatch (uses_notLost rfl) fun _ =>
      .ite (fun _ => trivial) fun _ => trivial) fun _ t => later t
  unfold ensureGroupPolicy at exposed ⊢
  by_cases none' : ips = []
  · rw [if_neg (not_not.mpr none')] at exposed ⊢
    exact later w exposed
  · rw [if_pos none', LawfulMonad.bind_assoc] at exposed ⊢
    refine exposed.wp_rest retried (.bind (uses_notLost rfl) fun _ => trivial) fun found t exposed => ?_
    cases found with
    | some policy => exact attach policy.uid exposed
    | none =>
        dsimp only at exposed ⊢
        rw [LawfulMonad.bind_assoc] at exposed ⊢
        exact exposed.wp_request retried fun policy u run =>
          attach policy.uid (exposed.rest retried run)

omit retried in
/-- Without faults the policies of a group are made. -/
theorem ensureGroupPolicy_completes (fsUid : Uid) (group : String) (level : Level)
    (ips : List String) (w : World) :
    (ensureGroupPolicy session fsUid group level ips).wp reliable (passing fun _ => True)
      (ending (fun _ _ => True) fun _ _ => False) w :=
  wp_weaken (wp_ensureGroupPolicy honest_noFaults) (fun _ _ => trivial) (fun _ _ _ => trivial)
    fun _ _ raised => not_possible_noFaults raised.1

omit retried in
private theorem uses_notLost_createFilesystemIdempotent (fsName groupName : String)
    (sizeBytes : Nat)
    (authRequired : Bool) :
    (createFilesystemIdempotent session fsName groupName sizeBytes authRequired).Uses
      fun op => ∀ u v, NotLost losing u op v := by
  obtain ⟨handler, shape, uses, -⟩ :=
    createFilesystemIdempotent_shape session fsName groupName sizeBytes authRequired
  rw [shape]
  refine .bind (.bind (uses_notLost rfl) fun _ => trivial) fun found => ?_
  cases found with
  | some existing => trivial
  | none =>
      refine .tryCatch (uses_notLost rfl) fun error => (uses error).mono ?_
      rintro _ rfl u v
      exact notLost_of_recovered rfl u v

/-- Where the creation of a share is undisturbed, the response to no creation of a
policy is lost. -/
theorem createShare_notLost
    (agrees : Agrees reliable (lossy maxRetries losing) SameEnding SameCluster
      (createShare cfg share) w) :
    (createShare cfg share).wp reliable (NotLost losing) (fun _ _ => True) w := by
  have wider : ∀ s op answer t, reliable s op answer t → lossy maxRetries losing s op answer t :=
    fun _ _ _ _ => lossy_of_reliable retried
  have opens : (clientForShare cfg share).Uses fun op => ∀ u v, NotLost losing u op v :=
    (uses_clientForShare share).mono fun _ opens => notLost_of_setup opens.setup
  cases protocol : share.shareProto with
  | other name =>
      unfold createShare
      rw [protocol]
      trivial
  | nfs =>
      have isolated : isIsolatedWekafs share = false := by
        unfold isIsolatedWekafs
        rw [protocol]
        rfl
      unfold createShare
      rw [protocol, isolated]
      exact wp_of_free (.bind opens fun session =>
        .bind (uses_notLost_createFilesystemIdempotent _ _ _ _) fun _ => trivial)
  | wekafs =>
      rw [createShare_wekafs protocol] at agrees ⊢
      have uses : (openFilesystem cfg share).Uses fun op => ∀ u v, NotLost losing u op v :=
        .bind ((uses_orgClient _).mono fun _ opens => notLost_of_setup opens.setup) fun session =>
          uses_notLost_createFilesystemIdempotent _ _ _ _
      refine wp_of_rest uses fun fs t run => ?_
      replace agrees := agrees.rest wider run
      unfold ensureGroupPolicies at agrees ⊢
      rw [LawfulMonad.bind_assoc] at agrees ⊢
      refine wp_of_rest (uses_sharePolicyGroup.mono fun _ host => notLost_of_setup host.setup)
        fun selected u run => ?_
      replace agrees := agrees.rest wider run
      cases selected with
      | none => trivial
      | some group =>
          dsimp only at agrees ⊢
          cases configured : (cfg.policyGroups.get? group).filter (· ≠ []) with
          | none => trivial
          | some levels =>
              rw [configured] at agrees
              dsimp only at agrees ⊢
              rw [LawfulMonad.bind_assoc] at agrees ⊢
              refine wp_of_rest ((uses_orgClient _).mono fun _ opens =>
                notLost_of_setup opens.setup) fun session v run => ?_
              replace agrees := agrees.rest wider run
              rw [LawfulMonad.bind_assoc] at agrees ⊢
              apply wp_ensureGroupPolicy_exposed retried
              · refine ⟨agrees, wp_bind_of _ (ensureGroupPolicy_completes _ _ _ _ v)
                  fun _ x _ => wp_bind_of _ (ensureGroupPolicy_completes _ _ _ _ x)
                    fun _ _ _ => trivial⟩
              · exact fun x exposed => wp_ensureGroupPolicy_exposed retried exposed
                  fun _ _ => trivial

end GroupPolicies

/-! ## Snapshots -/

section Rules

variable (retried : 1 ≤ maxRetries)

include retried

private theorem createSnapshot_notLost {snapshot : ShareSnapshot}
    (agrees : Agrees reliable (lossy maxRetries losing) SameEnding SameCluster
      (createSnapshot cfg snapshot) w) :
    (createSnapshot cfg snapshot).wp reliable (NotLost losing) (fun _ _ => True) w := by
  have wider : ∀ s op answer t, reliable s op answer t → lossy maxRetries losing s op answer t :=
    fun _ _ _ _ => lossy_of_reliable retried
  have opens : (clientForShare cfg snapshot.share).Uses fun op => ∀ u v, NotLost losing u op v :=
    (uses_clientForShare _).mono fun _ opens => notLost_of_setup opens.setup
  refine wp_of_rest opens fun session t run => ?_
  replace agrees := agrees.rest wider run
  refine wp_of_rest (lists_getFsUidForShare.mono ?_) fun fsUid u run => ?_
  · rintro _ rfl u v
    exact notLost_of_recovered rfl u v
  · have last := agrees.rest wider run
    exact wp_lastRequest retried last

/-! ## NFS rules -/

private theorem ensureNfsPermission_notLost {fsName cgName : String} {type : PermissionType}
    (agrees : Agrees reliable (lossy maxRetries losing) SameEnding SameCluster
      (ensureNfsPermission fsName cgName type) w) :
    (ensureNfsPermission fsName cgName type).wp reliable (NotLost losing) (fun _ _ => True) w := by
  have wider : ∀ s op answer t, reliable s op answer t → lossy maxRetries losing s op answer t :=
    fun _ _ _ _ => lossy_of_reliable retried
  refine wp_of_rest (.bind (uses_notLost rfl) fun _ => trivial) fun found t run => ?_
  replace agrees := agrees.rest wider run
  cases found with
  | none => exact wp_lastRequest retried agrees
  | some perm =>
      dsimp only at agrees ⊢
      by_cases differs : perm.val.permissionType ≠ type
      · rw [if_pos differs] at agrees ⊢
        refine wp_of_rest (uses_notLost rfl) fun _ u run => ?_
        have last := agrees.rest wider run
        exact wp_lastRequest retried last
      · rw [if_neg differs]
        trivial

omit retried in
/-- A permission request leaves the client groups alone. -/
theorem ensureNfsPermission_clientGroups (fsName cgName : String) (type : PermissionType)
    (w : World) :
    (ensureNfsPermission fsName cgName type).wp reliable
      (passing fun t => t.cluster.clientGroups = w.cluster.clientGroups)
      (ending (fun _ t => t.cluster.clientGroups = w.cluster.clientGroups)
        fun _ t => t.cluster.clientGroups = w.cluster.clientGroups) w := by
  have uses : (ensureNfsPermission fsName cgName type).Uses fun op => ∃ request : Request,
      op = .api .admin request ∧ ∀ cluster : Cluster,
        (cluster.answer .admin request).2.clientGroups = cluster.clientGroups := by
    have delete (uid : Uid) (cluster : Cluster) : (cluster.answer .admin
        (.deleteNfsPermission uid)).2.clientGroups = cluster.clientGroups := by
      simp only [Cluster.answer]
      split <;> rfl
    refine .bind (.bind (uses_perform ⟨_, rfl, fun _ => rfl⟩) fun _ => trivial) fun found => ?_
    cases found with
    | none => exact .bind (uses_perform ⟨_, rfl, fun _ => rfl⟩) fun _ => trivial
    | some perm =>
        refine .ite (fun _ => .bind (uses_perform ⟨_, rfl, delete perm.uid⟩) fun _ => ?_)
          fun _ => trivial
        exact .bind (uses_perform ⟨_, rfl, fun _ => rfl⟩) fun _ => trivial
  refine Uses.wp uses ?_ rfl
  rintro s op answer t ⟨request, rfl, keeps⟩ same answered
  rcases answered_world answered with rfl | rfl
  · exact (keeps _).trans same
  · exact same

omit retried in
/-- A group made for a rule gets the rule's address. -/
theorem newGroup_has_rule {fsName cgName wekaIp : String} {type : PermissionType} {uid : Uid}
    (found : w.cluster.clientGroups.find? cgName = some ⟨uid, ⟨cgName, []⟩⟩) :
    (ensureGroupRule uid wekaIp [] >>= fun _ => ensureNfsPermission fsName cgName type).wp reliable
      (passing fun _ => True)
      (fun _ t => t.cluster.clientGroups.find? cgName ≠ some ⟨uid, ⟨cgName, []⟩⟩) w := by
  have added : ∀ t, GroupReplaced w t cgName
      (some ⟨uid, (⟨cgName, []⟩ : ClientGroup).addRule .ip (storedRule wekaIp)⟩) →
      (ensureNfsPermission fsName cgName type).wp reliable (passing fun _ => True)
        (fun _ u => u.cluster.clientGroups.find? cgName ≠ some ⟨uid, ⟨cgName, []⟩⟩) t := by
    intro t replaced
    refine wp_mono (fun _ _ _ _ => trivial) (fun outcome u ended => ?_)
      (ensureNfsPermission_clientGroups fsName cgName type t)
    have kept : u.cluster.clientGroups = t.cluster.clientGroups := by
      cases outcome <;> exact ended
    rw [kept, replaced.found]
    intro same
    cases same
  unfold ensureGroupRule
  rw [if_pos List.not_mem_nil, wp_bind, wp_tryCatch, wp_bind]
  refine wp_addClientGroupRule found (fun rule t replaced => ⟨trivial, added t replaced⟩) ?_
    fun _ impossible => impossible.elim
  rintro ⟨rule, member, _⟩
  cases member

/-- Where applying a rule is undisturbed, the response to the creation of its group is
not lost: without the loss the group has the rule at the end, with it none. -/
theorem newGroup_not_lost {fsName cgName wekaIp : String} {type : PermissionType}
    (agrees : Agrees reliable (lossy maxRetries losing) SameEnding SameCluster
      (send .admin (.createClientGroup cgName) >>= fun group =>
        ensureGroupRule group.uid wekaIp [] >>= fun _ => ensureNfsPermission fsName cgName type) w)
    (executed : CreateExecuted (.api .admin (.createClientGroup cgName)) w) :
    ¬ losing w (.api .admin (.createClientGroup cgName)) := by
  intro loses
  have lost : Exec (lossy maxRetries losing)
      (send .admin (.createClientGroup cgName) >>= fun group =>
        ensureGroupRule group.uid wekaIp [] >>= fun _ => ensureNfsPermission fsName cgName type) w
      (.error (.api (.conflict ""))) (respond (.api .admin (.createClientGroup cgName)) w).2 :=
    .bind_error (.perform ((lossy_iff retried).mpr (Or.inr ⟨loses, executed, rfl, "", rfl⟩)))
  have missing : w.cluster.clientGroups.find? cgName = none := by
    cases found : w.cluster.clientGroups.find? cgName with
    | none => rfl
    | some group =>
        have taken : w.cluster.clientGroups.find? (Keyed.key (⟨cgName, []⟩ : ClientGroup)) =
          some group := found
        obtain ⟨_, _, same, _, reply, replied⟩ := executed
        cases same
        simp only [respond, Cluster.answer, Cluster.create, taken] at replied
        cases replied
  have free : w.cluster.clientGroups.find? (Keyed.key (⟨cgName, []⟩ : ClientGroup)) = none := missing
  have answered : w.cluster.answer .admin (.createClientGroup cgName) =
      (.ok ⟨w.cluster.clientGroups.next, ⟨cgName, []⟩⟩,
        { w.cluster with clientGroups := w.cluster.clientGroups.insert ⟨cgName, []⟩ }) := by
    simp only [Cluster.answer, Cluster.create, free]
  have found : (w.cluster.clientGroups.insert ⟨cgName, []⟩).find?
      (Keyed.key (⟨cgName, []⟩ : ClientGroup)) =
        some ⟨w.cluster.clientGroups.next, ⟨cgName, []⟩⟩ := by
    rw [Registry.find?_insert _ _ free, Function.update_self]
  have straight : (send .admin (.createClientGroup cgName) >>= fun group =>
      ensureGroupRule group.uid wekaIp [] >>= fun _ =>
        ensureNfsPermission fsName cgName type).wp reliable (passing fun _ => True)
      (fun _ t => t.cluster.clientGroups.find? cgName ≠
        some ⟨w.cluster.clientGroups.next, ⟨cgName, []⟩⟩) w := by
    rw [wp_bind, wp_send, answered]
    refine ⟨⟨trivial, newGroup_has_rule ?_⟩, fun _ impossible => impossible.elim⟩
    exact found
  have run : Exec reliable (send .admin (.createClientGroup cgName) >>= fun group =>
      ensureGroupRule group.uid wekaIp [] >>= fun _ => ensureNfsPermission fsName cgName type) w
      (Program.run respond _ w).1 (Program.run respond _ w).2 := exec_run _ w
  obtain ⟨-, cluster⟩ := agrees _ _ _ _ lost run
  have given := run.post straight
  rw [cluster, respond, answered] at given
  exact given found

private theorem applyNfsRule_notLost {fsName : String} {rule : AccessRule}
    (agrees : Agrees reliable (lossy maxRetries losing) SameEnding SameCluster
      (applyNfsRule share fsName rule) w) :
    (applyNfsRule share fsName rule).wp reliable (NotLost losing) (fun _ _ => True) w := by
  have wider : ∀ s op answer t, reliable s op answer t → lossy maxRetries losing s op answer t :=
    fun _ _ _ _ => lossy_of_reliable retried
  have later {groupUid : Uid} {wekaIp : String} {existing : List String} {t : World}
      (agrees : Agrees reliable (lossy maxRetries losing) SameEnding SameCluster
        (ensureGroupRule groupUid wekaIp existing >>= fun _ =>
          ensureNfsPermission fsName (nfsCgName share.id rule.accessId) (nfsType rule.accessLevel)) t) :
      (ensureGroupRule groupUid wekaIp existing >>= fun _ =>
        ensureNfsPermission fsName (nfsCgName share.id rule.accessId)
          (nfsType rule.accessLevel)).wp reliable (NotLost losing) (fun _ _ => True) t := by
    refine wp_of_rest (.ite (fun _ => .tryCatch (.bind (uses_notLost rfl) fun _ => trivial)
      fun _ => .ite (fun _ => trivial) fun _ => trivial) fun _ => trivial) fun _ u run => ?_
    replace agrees := agrees.rest wider run
    exact ensureNfsPermission_notLost retried agrees
  unfold applyNfsRule at agrees ⊢
  cases address : cidrToWekaIp rule.accessTo with
  | error error => trivial
  | ok wekaIp =>
      rw [address] at agrees
      dsimp only at agrees ⊢
      unfold ensureClientGroup at agrees ⊢
      rw [LawfulMonad.bind_assoc] at agrees ⊢
      refine wp_of_rest (.bind (uses_notLost rfl) fun _ => trivial) fun found t run => ?_
      replace agrees := agrees.rest wider run
      cases found with
      | some group =>
          dsimp only at agrees ⊢
          rw [LawfulMonad.bind_assoc] at agrees ⊢
          refine wp_of_rest (uses_notLost rfl) fun detail u run => ?_
          replace agrees := agrees.rest wider run
          exact later agrees
      | none =>
          dsimp only at agrees ⊢
          rw [LawfulMonad.bind_assoc] at agrees ⊢
          rw [wp_bind, wp_send]
          refine ⟨⟨?_, ?_⟩, fun _ impossible => impossible.elim⟩
          · rintro _ _ same _ executed loses
            cases same
            exact newGroup_not_lost retried agrees executed loses
          · cases replied : asRaised (t.cluster.answer .admin
                (.createClientGroup (nfsCgName share.id rule.accessId))).1 with
            | error error => trivial
            | ok group =>
                have sent : Exec reliable
                    (send .admin (.createClientGroup (nfsCgName share.id rule.accessId))) t
                    (.ok group) (respond (.api .admin (.createClientGroup
                      (nfsCgName share.id rule.accessId))) t).2 :=
                  .perform (Or.inl (Prod.ext replied rfl))
                replace agrees := agrees.rest wider sent
                exact later agrees

/-! ## WEKAFS rules -/

omit retried in
/-- Without faults an address is set in a policy, also while the filesystem is
missing. -/
theorem policySetIp_completes (fsUid : Option Uid) (level : Level) (ip : String) (present : Bool)
    (w : World) :
    (policySetIp session share fsUid level ip present).wp reliable (passing fun _ => True)
      (ending (fun _ _ => True) fun _ _ => False) w := by
  have impossible {raised : Prop} : Possible noFaults ∧ raised → False :=
    fun raised => not_possible_noFaults raised.1
  cases fsUid with
  | some fsUid =>
      cases present with
      | true =>
          exact wp_weaken (wp_policySetIp_present honest_noFaults) (fun _ _ => trivial)
            (fun _ _ _ => trivial) fun _ _ => impossible
      | false =>
          exact wp_weaken (wp_policySetIp_absent honest_noFaults) (fun _ _ => trivial)
            (fun _ _ _ => trivial) fun _ _ => impossible
  | none =>
      unfold policySetIp
      rw [wp_bind, onOk_ending]
      refine wp_getSecurityPolicyByName trivial ?_ fun _ fault => fault.elim
      rw [ending_ok]
      cases present with
      | true =>
          simp only [↓reduceIte]
          have ensured : (ensurePolicyIp session share level ip (w.cluster.policies.find?
              (policyKey session share level))).wp reliable (passing fun _ => True)
                (ending (fun _ _ => True) fun _ t => Possible noFaults ∧ True) w :=
            wp_ensurePolicyIp 0 honest_noFaults trivial fun _ _ _ _ => ⟨trivial, trivial⟩
          exact wp_bind_of _ (wp_weaken ensured (fun _ _ => trivial) (fun _ _ done => done)
            fun _ _ => impossible) fun _ _ _ => trivial
      | false =>
          simp only [Bool.false_eq_true, ↓reduceIte]
          cases found : w.cluster.policies.find? (session, wekafsPolicyName share.id level) with
          | none => trivial
          | some entry =>
              refine wp_bind_of (fun _ t => ∃ entry', entry'.uid = entry.uid ∧
                Replaced w t (policyKey session share level) (some entry'))
                (wp_weaken (wp_dropPolicyIp 0 honest_noFaults found trivial
                  fun t entry' _ replaced same _ _ => ⟨trivial, entry', same, replaced⟩)
                    (fun _ _ => trivial) (fun _ _ done => done) fun _ _ => impossible) ?_
              rintro current t ⟨entry', same, replaced⟩
              rw [wp_ite]
              split
              · change (tryCatch (send session (.deleteSecurityPolicy entry.uid)) fun error =>
                  if isNotFound error then pure () else throw error : Driver Unit).wp _ _ _ t
                rw [← same, wp_tryCatch, onError_ending]
                exact wp_deleteSecurityPolicy replaced.found (fun _ _ => ⟨trivial, trivial⟩)
                  fun _ fault => fault.elim
              · trivial

private theorem policySetIp_notLost {α : Type} {fsUid : Option Uid} {level : Level} {ip : String}
    {rest : Unit → Driver α}
    (exposed : Exposed maxRetries losing
      (policySetIp session share fsUid level ip true >>= rest) w)
    (later : ∀ t, (rest ()).wp reliable (NotLost losing) (fun _ _ => True) t) :
    (policySetIp session share fsUid level ip true >>= rest).wp reliable (NotLost losing)
      (fun _ _ => True) w := by
  have attach (policyUid : Uid) (t : World) {finish : Driver Unit}
      (unattached : fsUid = none → finish = pure ())
      (attached : ∀ uid, fsUid = some uid → finish = attachPolicy session uid policyUid) :
      (finish >>= rest).wp reliable (NotLost losing) (fun _ _ => True) t := by
    refine wp_of_rest ?_ fun _ u _ => later u
    cases fsUid with
    | none => rw [unattached rfl]; trivial
    | some uid =>
        rw [attached uid rfl]
        exact .tryCatch (uses_notLost rfl) fun _ => .ite (fun _ => trivial) fun _ => trivial
  unfold policySetIp at exposed ⊢
  simp only [↓reduceIte] at exposed ⊢
  rw [LawfulMonad.bind_assoc] at exposed ⊢
  refine exposed.wp_rest retried (.bind (uses_notLost rfl) fun _ => trivial) fun found t exposed => ?_
  rw [LawfulMonad.bind_assoc] at exposed ⊢
  cases found with
  | none =>
      unfold ensurePolicyIp at exposed ⊢
      dsimp only at exposed ⊢
      rw [LawfulMonad.bind_assoc] at exposed ⊢
      refine exposed.wp_request retried fun policy u _ => ?_
      exact attach policy.uid u (by rintro rfl; rfl) (by rintro _ rfl; rfl)
  | some policy =>
      refine wp_of_rest (.ite (fun _ => .bind (.tryCatch (uses_notLost rfl) fun _ =>
        .ite (fun _ => trivial) fun _ => trivial) fun _ => trivial) fun _ => trivial)
        fun policyUid u _ => ?_
      exact attach policyUid u (by rintro rfl; rfl) (by rintro _ rfl; rfl)

private theorem applyWekafsRule_notLost {fsUid : Option Uid} {rule : AccessRule}
    (agrees : Agrees reliable (lossy maxRetries losing) SameEnding SameCluster
      (applyWekafsRule session share fsUid rule) w) :
    (applyWekafsRule session share fsUid rule).wp reliable (NotLost losing) (fun _ _ => True) w := by
  have absent (level : Level) (ip : String) :
      (policySetIp session share fsUid level ip false).Uses fun op =>
        ∀ u v, NotLost losing u op v := by
    have tolerating {request : Request} {tolerated : Error → Bool} {value : request.Reply}
        (recovered : request.unrecovered = false) :
        (tryCatch (send session request) fun error =>
          if tolerated error then pure value else throw error).Uses fun op =>
            ∀ u v, NotLost losing u op v :=
      .tryCatch (uses_notLost recovered) fun _ => .ite (fun _ => trivial) fun _ => trivial
    refine .bind (.bind (uses_notLost rfl) fun _ => trivial) fun found => ?_
    cases found with
    | none => trivial
    | some policy =>
        refine .bind (.ite (fun _ => .bind (tolerating rfl) fun _ => trivial) fun _ => trivial)
          fun current => .ite (fun _ => ?_) fun _ => trivial
        cases fsUid with
        | none => exact tolerating rfl
        | some fsUid => exact .bind (tolerating rfl) fun _ => tolerating rfl
  unfold applyWekafsRule at agrees ⊢
  cases address : policyIp rule.accessTo with
  | error error => trivial
  | ok ip =>
      rw [address] at agrees
      refine policySetIp_notLost retried ⟨agrees, ?_⟩ fun t => wp_of_free (absent _ _)
      exact wp_bind_of _ (policySetIp_completes _ _ _ _ w) fun _ t _ =>
        policySetIp_completes _ _ _ _ t

end Rules

/-! ## One rule -/

section Call

variable (retried : 1 ≤ maxRetries)

include retried

omit retried in
private theorem assign_ne {states : RuleStates} {id : String} {state state' : RuleState}
    (differ : state ≠ state') : states.assign id state ≠ states.assign id state' := by
  intro same
  have found := congrArg (fun states : RuleStates => states.get? id) same
  rw [Dict.get?_assign_self, Dict.get?_assign_self, Option.some.injEq] at found
  exact differ found

omit retried in
/-- A guarded rule is applied with no loss it does not recover from. -/
theorem wp_guarded {α : Type} {program : Driver Unit} {good bad : α} (distinct : good ≠ bad)
    (agrees : Agrees reliable (lossy maxRetries losing) Eq SameCluster
      (tryCatch (program >>= fun _ => pure good) fun _ => pure bad) w)
    (inside : Agrees reliable (lossy maxRetries losing) SameEnding SameCluster program w →
      program.wp reliable (NotLost losing) (fun _ _ => True) w) :
    (tryCatch (program >>= fun _ => pure good) fun _ => pure bad : Driver α).wp reliable
      (NotLost losing) (fun _ _ => True) w := by
  rw [wp_tryCatch, wp_bind]
  refine wp_consequence (inside (agrees_of_guarded distinct agrees)) fun outcome t _ => ?_
  cases outcome <;> trivial

private theorem addNfsRule_notLost {fsName : String} {states : RuleStates} {rule : AccessRule}
    (agrees : Agrees reliable (lossy maxRetries losing) Eq SameCluster
      (addNfsRule share fsName states rule) w) :
    (addNfsRule share fsName states rule).wp reliable (NotLost losing) (fun _ _ => True) w := by
  unfold addNfsRule at agrees ⊢
  by_cases other : rule.accessType ≠ .ip
  · rw [if_pos other]
    trivial
  · rw [if_neg other] at agrees ⊢
    by_cases ignored : isIpv6 rule.accessTo = true
    · rw [if_pos ignored]
      trivial
    · rw [if_neg ignored] at agrees ⊢
      exact wp_guarded (assign_ne fun same => by cases same) agrees
        (applyNfsRule_notLost retried)

private theorem addWekafsRule_notLost {fsUid : Option Uid} {mountPassword : String}
    {states : RuleStates}
    {rule : AccessRule}
    (agrees : Agrees reliable (lossy maxRetries losing) Eq SameCluster
      (addWekafsRule session share fsUid mountPassword states rule) w) :
    (addWekafsRule session share fsUid mountPassword states rule).wp reliable (NotLost losing)
      (fun _ _ => True) w := by
  unfold addWekafsRule at agrees ⊢
  by_cases other : rule.accessType ≠ .ip
  · rw [if_pos other]
    trivial
  · rw [if_neg other] at agrees ⊢
    by_cases ignored : isIpv6 rule.accessTo = true
    · rw [if_pos ignored]
      trivial
    · rw [if_neg ignored] at agrees ⊢
      exact wp_guarded (assign_ne fun same => by cases same) agrees
        (applyWekafsRule_notLost retried)

private theorem updateWekafsAccess_notLost {rule : AccessRule}
    (agrees : Agrees reliable (lossy maxRetries losing) Eq SameCluster
      (updateWekafsAccess cfg share [rule] [] false) w) :
    (updateWekafsAccess cfg share [rule] [] false).wp reliable (NotLost losing) (fun _ _ => True)
      w := by
  have wider : ∀ s op answer t, reliable s op answer t → lossy maxRetries losing s op answer t :=
    fun _ _ _ _ => lossy_of_reliable retried
  refine wp_of_rest ((uses_orgClient _).mono fun _ opens => notLost_of_setup opens.setup)
    fun session t run => ?_
  replace agrees := agrees.rest wider run
  refine wp_of_rest (.ite (fun _ => .tryCatch (uses_notLost rfl) fun _ =>
    .ite (fun _ => trivial) fun _ => trivial) fun _ => trivial) fun _ u run => ?_
  replace agrees := agrees.rest wider run
  refine wp_of_rest (uses_sharePolicyGroup.mono fun _ host => notLost_of_setup host.setup)
    fun selected v run => ?_
  replace agrees := agrees.rest wider run
  cases selected with
  | some group => trivial
  | none =>
      refine wp_of_rest (.ite (fun _ => .bind (uses_notLost rfl) fun _ => trivial) fun _ => trivial)
        fun found x run => ?_
      replace agrees := agrees.rest wider run
      rw [updateWekafsPolicies_single] at agrees ⊢
      exact addWekafsRule_notLost retried agrees

private theorem recovers_call (call : CreateCall) :
    Recovers maxRetries losing (call.program cfg) := by
  cases call with
  | createShare share => exact recovers_createShare retried
  | createSnapshot snapshot => exact recovers_createSnapshot retried snapshot
  | applyRule share accessRules rule =>
      change Recovers maxRetries losing (if share.shareProto = .nfs
        then updateNfsAccess cfg share [rule] [] false else updateWekafsAccess cfg share [rule] [] false)
      apply Tracks.ite
      · intro _
        rw [updateNfsAccess_single]
        exact recovers_addNfsRule retried _ _ _
      · intro _
        apply Tracks.bind (recovers_orgClient retried _)
        intro session
        apply Tracks.bind (.ite (fun _ => recovers_ensureMountUser retried _) fun _ => .pure _)
        intro _
        apply Tracks.bind (recovers_sharePolicyGroup retried)
        intro selected
        cases selected with
        | some group => exact .pure _
        | none =>
            apply Tracks.bind (.ite (fun _ => recovers_getFilesystemByName retried _) fun _ => .pure _)
            intro found
            rw [updateWekafsPolicies_single]
            exact recovers_addWekafsRule retried _ _ _ _

/-- Losing responses changes nothing exactly where the run without losses gets no
response to a create that is not recovered from that may be lost. -/
theorem call_agrees_iff (call : CreateCall) (w : World) :
    Agrees reliable (lossy maxRetries losing) Eq SameCluster (call.program cfg) w ↔
      (call.program cfg).wp reliable (NotLost losing) (fun _ _ => True) w := by
  constructor
  · intro agrees
    have endings : Agrees reliable (lossy maxRetries losing) SameEnding SameCluster
        (call.program cfg) w := by
      intro outcome t outcome' t' astray straight
      obtain ⟨rfl, cluster⟩ := agrees _ _ _ _ astray straight
      exact ⟨rfl, cluster⟩
    cases call with
    | createShare share => exact createShare_notLost retried endings
    | createSnapshot snapshot => exact createSnapshot_notLost retried endings
    | applyRule share accessRules rule =>
        change Agrees _ _ _ _ (if share.shareProto = .nfs
          then updateNfsAccess cfg share [rule] [] false
          else updateWekafsAccess cfg share [rule] [] false) w at agrees
        change (if share.shareProto = .nfs then updateNfsAccess cfg share [rule] [] false
          else updateWekafsAccess cfg share [rule] [] false).wp _ _ _ w
        by_cases nfs : share.shareProto = .nfs
        · rw [if_pos nfs, updateNfsAccess_single] at agrees ⊢
          exact addNfsRule_notLost retried agrees
        · rw [if_neg nfs] at agrees ⊢
          exact updateWekafsAccess_notLost retried agrees
  · intro careful outcome t outcome' t' astray straight
    have followed := recovers_call retried call w careful _ _ astray
    have only := exec_noFaults_iff.mp followed
    rw [exec_noFaults_iff.mp straight] at only
    cases only
    exact ⟨rfl, rfl⟩

end Call

end WekaShareDriver
