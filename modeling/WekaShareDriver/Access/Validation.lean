import WekaShareDriver.Access.NfsUpdate
import WekaShareDriver.TenantUses

/-! # A cluster that takes addresses only

The driver hands a rule's text to the cluster unread unless it has a prefix or a mask. What the
cluster puts on a list has to denote an IPv4 network: it refuses a request that names any other
text, with an error of its own that reports nothing as existing already, and changes nothing
(`WekaShareDriver.Validation`). All other requests it answers as ever, so that a program which names
no such text has the runs it always had (`WekaShareDriver.Validation.wp_of_accepted`). Its
lists hold addresses only after every run that starts so
(`WekaShareDriver.Validation.addressed_run`).
-/

namespace WekaShareDriver

open Foundation Program

/-- The addresses a request asks to put on a list. -/
def Request.addresses : Request → List String
  | .createSecurityPolicy _ ips _ => ips
  | .updateSecurityPolicy _ addIps _ => addIps
  | .addClientGroupRule _ .ip value => [value]
  | _ => []

/-- A request that names a text which denotes no network. -/
def Request.misaddressed (request : Request) : Bool :=
  request.addresses.any fun text => (network? text).isNone

/-- How a cluster refuses texts that denote no network. -/
structure Validation where
  refusal : Request → WekaApiError
  unlike : ∀ request, isAlreadyExistsError (.api (refusal request)) = false

/-- An operation that names no text which denotes no network. -/
def Accepted : Op → Prop
  | .api _ request => request.misaddressed = false
  | _ => True

namespace Validation

variable (validation : Validation)

/-- What an operation does on a cluster that takes addresses only. -/
def respond : (op : Op) → World → Except Error op.Res × World
  | .api session request, w =>
      if request.misaddressed then (.error (.api (validation.refusal request)), w)
      else WekaShareDriver.respond (.api session request) w
  | .login org username password, w => WekaShareDriver.respond (.login org username password) w
  | .host asked, w => WekaShareDriver.respond (.host asked) w

/-- The world with such a cluster as a service; nothing else fails. -/
abbrev service : Service Op Op.Res Error World := withFaults validation.respond noFaults

variable {validation}

/-- An accepted operation does what it always does. -/
theorem respond_of_accepted {op : Op} (accepted : Accepted op) (w : World) :
    validation.respond op w = WekaShareDriver.respond op w := by
  cases op with
  | api session request =>
      have named : request.misaddressed = false := accepted
      rw [respond, named]
      rfl
  | login org username password => rfl
  | host asked => rfl

/-- What a program of accepted operations guarantees without faults, it guarantees here. -/
theorem wp_of_accepted {α : Type} {program : Driver α} {guarantee : World → Op → World → Prop}
    {post : Except Error α → World → Prop} {w : World} (uses : program.Uses Accepted)
    (holds : program.wp reliable guarantee post w) :
    program.wp validation.service guarantee post w := by
  refine uses.wp_of (fun s op answer t accepted answered => ?_) holds
  rcases answered with equal | ⟨_, impossible, _⟩
  · rw [respond_of_accepted accepted] at equal
    exact Or.inl equal
  · exact impossible.elim

/-- A request that names no address is refused and changes nothing. -/
theorem wp_send_misaddressed {session : Session} {request : Request}
    {guarantee : World → Op → World → Prop} {post : Except Error request.Reply → World → Prop}
    {w : World} (misaddressed : request.misaddressed = true)
    (guaranteed : guarantee w (.api session request) w)
    (refused : post (.error (.api (validation.refusal request))) w) :
    (send session request).wp validation.service guarantee post w := by
  rw [send, wp_perform_withFaults, respond, misaddressed]
  exact ⟨⟨guaranteed, refused⟩, fun _ impossible => impossible.elim⟩

end Validation

/-! ## What its lists hold -/

/-- A policy that lists addresses only. -/
def SecurityPolicy.Addressed (policy : SecurityPolicy) : Prop :=
  ∀ ip ∈ policy.ips, (network? ip).isSome = true

/-- A group whose ip rules are for addresses only. -/
def ClientGroup.Addressed (group : ClientGroup) : Prop :=
  ∀ rule ∈ group.rules, rule.type = .ip → (network? rule.rule).isSome = true

/-- A cluster whose lists hold addresses only. -/
structure Cluster.Addressed (cluster : Cluster) : Prop where
  policies : cluster.policies.Every SecurityPolicy.Addressed
  clientGroups : cluster.clientGroups.Every ClientGroup.Addressed

section Addressed

variable {session : Session} {request : Request} {cluster : Cluster} {w : World}

private theorem every_create {ρ κ : Type} [Keyed ρ κ] [DecidableEq κ] {property : ρ → Prop}
    {registry : Registry ρ} (every : registry.Every property) {val : ρ} (new : property val)
    (taken : WekaApiError) : (Cluster.create registry val taken).2.Every property := by
  unfold Cluster.create
  split
  · exact every
  · exact every.insert new

private theorem denotes_of_accepted {texts : List String} {text : String}
    (accepted : (texts.any fun text => (network? text).isNone) = false) (member : text ∈ texts) :
    (network? text).isSome = true := by
  have denotes := List.any_eq_false.mp accepted text member
  rw [Option.isSome_iff_ne_none]
  simpa using denotes

private theorem SecurityPolicy.Addressed.update {policy : SecurityPolicy}
    (addressed : policy.Addressed) {addIps removeIps : List String}
    (accepted : (addIps.any fun text => (network? text).isNone) = false) :
    (policy.update addIps removeIps).Addressed := by
  intro ip member
  rcases List.mem_append.mp (List.mem_filter.mp member).1 with old | new
  · exact addressed ip old
  · exact denotes_of_accepted accepted (List.mem_filter.mp new).1

private theorem ClientGroup.Addressed.addRule {group : ClientGroup} (addressed : group.Addressed)
    {type : GroupRuleType} {value : String}
    (denotes : type = .ip → (network? value).isSome = true) :
    (group.addRule type (storedRule value)).Addressed := by
  intro rule member ipType
  rcases List.mem_append.mp member with old | new
  · exact addressed rule old ipType
  · obtain rfl := List.mem_singleton.mp new
    obtain ⟨net, found⟩ := Option.isSome_iff_exists.mp (denotes ipType)
    rw [network?_storedRule found]
    rfl

private theorem ClientGroup.Addressed.deleteRule {group : ClientGroup}
    (addressed : group.Addressed) (ruleUid : Uid) : (group.deleteRule ruleUid).Addressed :=
  fun rule member => addressed rule (List.mem_filter.mp member).1

private theorem addressed_answer_policies (accepted : request.misaddressed = false)
    (every : cluster.policies.Every SecurityPolicy.Addressed) :
    (cluster.answer session request).2.policies.Every SecurityPolicy.Addressed := by
  cases request with
  | createSecurityPolicy name ips readOnly =>
      exact every_create every (fun ip member => denotes_of_accepted accepted member) _
  | updateSecurityPolicy uid addIps removeIps =>
      simp only [Cluster.answer]
      split
      · exact every.modify fun policy addressed => addressed.update accepted
      · exact every
  | deleteSecurityPolicy uid =>
      simp only [Cluster.answer]
      split
      · exact every.erase _
      · exact every
  | attachFsSecurityPolicy fsUid policyUid =>
      simp only [Cluster.answer]
      split
      · split
        · exact every
        · exact every.modify fun policy addressed => addressed
      · exact every
  | detachFsSecurityPolicy fsUid policyUid =>
      simp only [Cluster.answer]
      split
      · exact every.modify fun policy addressed => addressed
      · exact every
  | deleteFilesystem uid =>
      simp only [Cluster.answer]
      split
      · exact every.modifyAll fun policy addressed => addressed
      · exact every
  | _ =>
      simp only [Cluster.answer]
      repeat' split
      all_goals exact every

private theorem addressed_answer_clientGroups (accepted : request.misaddressed = false)
    (every : cluster.clientGroups.Every ClientGroup.Addressed) :
    (cluster.answer session request).2.clientGroups.Every ClientGroup.Addressed := by
  cases request with
  | createClientGroup name =>
      refine every_create every (fun rule member => ?_) _
      cases member
  | addClientGroupRule uid type value =>
      have denotes : type = .ip → (network? value).isSome = true := by
        intro ipType
        subst ipType
        exact denotes_of_accepted accepted List.mem_cons_self
      simp only [Cluster.answer]
      split
      · split
        · exact every
        · exact every.modify fun group addressed => addressed.addRule denotes
      · exact every
  | deleteClientGroupRule uid ruleUid =>
      simp only [Cluster.answer]
      split
      · exact every.modify fun group addressed => addressed.deleteRule ruleUid
      · exact every
  | deleteClientGroup uid =>
      simp only [Cluster.answer]
      split
      · split
        · exact every.erase _
        · exact every
      · exact every
  | _ =>
      simp only [Cluster.answer]
      repeat' split
      all_goals exact every

/-- No operation puts anything but an address on a list. -/
theorem Validation.addressed_respond (validation : Validation) (op : Op)
    (addressed : w.cluster.Addressed) : (validation.respond op w).2.cluster.Addressed := by
  cases op with
  | api session request =>
      rw [Validation.respond]
      split
      · exact addressed
      · next accepted =>
          have accepted : request.misaddressed = false := Bool.eq_false_iff.mpr accepted
          exact ⟨addressed_answer_policies accepted addressed.policies,
            addressed_answer_clientGroups accepted addressed.clientGroups⟩
  | login org username password => exact addressed
  | host asked => exact addressed

/-- Nor does any run. -/
theorem Validation.addressed_run {α : Type} (validation : Validation) (program : Driver α)
    (addressed : w.cluster.Addressed) :
    (program.run validation.respond w).2.cluster.Addressed := by
  have kept : program.wp validation.service (passing fun t => t.cluster.Addressed)
      (ending (fun _ t => t.cluster.Addressed) fun _ t => t.cluster.Addressed) w := by
    refine (uses_anything program).wp (fun s op answer t _ holds answered => ?_) addressed
    rcases answered with equal | ⟨_, impossible, _⟩
    · have final : t = (validation.respond op s).2 := (congrArg Prod.snd equal).symm
      rw [final]
      exact validation.addressed_respond op holds
    · exact impossible.elim
  have ended := post_run kept
  cases outcome : (program.run validation.respond w).1 with
  | ok value =>
      rw [outcome] at ended
      exact ended
  | error error =>
      rw [outcome] at ended
      exact ended

end Addressed

/-! ## Requests about policies -/

section Wekafs

variable {cfg : Config} {session : Session} {share : Share} {fsUid : Option Uid} {level : Level}
  {ip : String}

private theorem accepted_request {request : Request} (none' : request.addresses = []) :
    (send session request).Uses Accepted := by
  refine uses_perform ?_
  change request.misaddressed = false
  rw [Request.misaddressed, none']
  rfl

private theorem misaddressed_singleton (denotes : (network? ip).isSome = true) :
    ([ip].any fun text => (network? text).isNone) = false := by
  simpa using denotes

private theorem accepted_getSecurityPolicyByName (name : String) :
    (getSecurityPolicyByName session name).Uses Accepted :=
  .bind (accepted_request rfl) fun _ => trivial

/-- An address is granted by accepted requests. -/
theorem accepted_policySetIp_present (denotes : (network? ip).isSome = true) :
    (policySetIp session share fsUid level ip true).Uses Accepted := by
  refine .bind (accepted_getSecurityPolicyByName _) fun found =>
    .ite (fun _ => ?_) fun absurd' => ?_
  · refine .bind ?_ fun policyUid => ?_
    · cases found with
      | none => exact .bind (uses_perform (misaddressed_singleton denotes)) fun _ => trivial
      | some policy =>
          refine .ite (fun _ => ?_) fun _ => trivial
          exact .bind (.tryCatch (uses_perform (misaddressed_singleton denotes)) fun _ =>
            .ite (fun _ => trivial) fun _ => trivial) fun _ => trivial
    · cases fsUid with
      | none => trivial
      | some fsUid =>
          exact .tryCatch (accepted_request rfl) fun _ => .ite (fun _ => trivial) fun _ => trivial
  · exact absurd rfl absurd'

/-- Any text is revoked by accepted requests. -/
theorem accepted_policySetIp_absent :
    (policySetIp session share fsUid level ip false).Uses Accepted := by
  refine .bind (accepted_getSecurityPolicyByName _) fun found =>
    .ite (fun present => ?_) fun _ => ?_
  · cases present
  · cases found with
    | none => trivial
    | some policy =>
        refine .bind (.ite (fun _ => ?_) fun _ => trivial) fun current =>
          .ite (fun _ => ?_) fun _ => trivial
        · exact .bind (.tryCatch (accepted_request rfl) fun _ =>
            .ite (fun _ => trivial) fun _ => trivial) fun _ => trivial
        · have delete : (tryCatch (send session (.deleteSecurityPolicy policy.uid)) fun error =>
              if isNotFound error then pure () else throw error : Driver Unit).Uses Accepted :=
            .tryCatch (accepted_request rfl) fun _ => .ite (fun _ => trivial) fun _ => trivial
          cases fsUid with
          | none => exact delete
          | some fsUid =>
              exact .bind (.tryCatch (accepted_request rfl) fun _ =>
                .ite (fun _ => trivial) fun _ => trivial) fun _ => delete

private theorem SetupOp.accepted {op : Op} (setup : SetupOp op) : Accepted op := by
  cases op with
  | api session request =>
      cases request with
      | listOrganizations | createOrganization name username password | listFilesystems => rfl
      | _ => exact setup.elim
  | login org username password => trivial
  | host asked => trivial

/-- An update is opened by accepted requests. -/
theorem accepted_openWekafsAccess {addRules deleteRules : List AccessRule} {fullSync : Bool} :
    (openWekafsAccess cfg share addRules deleteRules fullSync).Uses Accepted := by
  refine .bind ((uses_setup_of_opens (uses_orgClient _)).mono fun _ => SetupOp.accepted)
    fun session => .bind (.ite (fun _ => ?_) fun _ => trivial) fun _ =>
      .bind ((uses_setup uses_sharePolicyGroup).mono fun _ => SetupOp.accepted) fun group => ?_
  · exact .tryCatch (accepted_request rfl) fun _ => .ite (fun _ => trivial) fun _ => trivial
  · cases group with
    | some group => trivial
    | none =>
        exact .bind (.ite (fun _ => (uses_getFilesystemByName _ _).mono fun _ => SetupOp.accepted)
          fun _ => trivial) fun _ => trivial

/-- A rule is deleted by accepted requests. -/
theorem accepted_removeWekafsRule (rule : AccessRule) :
    (removeWekafsRule session share fsUid rule).Uses Accepted :=
  .ite (fun _ => trivial) fun _ => .ite (fun _ => trivial) fun _ =>
    .bind (uses_liftExcept _) fun _ => .bind accepted_policySetIp_absent fun _ =>
      accepted_policySetIp_absent

/-- Policies are pruned by accepted requests. -/
theorem accepted_pruneWekafsRules (rules : List AccessRule) :
    (pruneWekafsRules session share fsUid rules).Uses Accepted := by
  have level : ∀ expected level,
      (pruneLevel session share fsUid expected level).Uses Accepted := by
    intro expected level
    refine .bind (accepted_getSecurityPolicyByName _) fun found => ?_
    cases found with
    | none => trivial
    | some policy =>
        exact .forM fun ip _ => .ite (fun _ => trivial) fun _ =>
          .tryCatch accepted_policySetIp_absent fun _ => trivial
  exact .bind (uses_liftExcept _) fun expected => .bind (level _ _) fun _ => level _ _

/-- A text that is no address is not added to a policy that does not list it, and nothing
changes. -/
theorem wp_applyWekafsRule_unreadable {validation : Validation} {fsUid : Uid} {w : World}
    {rule : AccessRule} (unreadable : rule.Unreadable)
    (unlisted : rule.accessTo ∉ (policyState session share fsUid w).addressesAt rule.accessLevel) :
    (applyWekafsRule session share (some fsUid) rule).wp validation.service (passing fun _ => True)
      (ending (fun _ _ => False) fun _ t => t = w) w := by
  obtain ⟨-, bare, none'⟩ := unreadable
  have misaddressed : ([rule.accessTo].any fun text => (network? text).isNone) = true := by
    simp [none']
  unfold applyWekafsRule
  rw [policyIp, if_pos bare, liftExcept, pure_bind, wp_bind, onOk_ending, policySetIp, wp_bind,
    onOk_ending]
  refine Validation.wp_of_accepted (accepted_getSecurityPolicyByName _)
    (wp_getSecurityPolicyByName trivial ?_ fun _ impossible => impossible.elim)
  rw [ending_ok, wp_ite, if_pos rfl, wp_bind, onOk_ending, ensurePolicyIp.eq_def]
  cases found : w.cluster.policies.find? (session, wekafsPolicyName share.id rule.accessLevel) with
  | none =>
      dsimp only
      rw [wp_bind, onOk_ending]
      exact Validation.wp_send_misaddressed misaddressed trivial rfl
  | some policy =>
      have listed : rule.accessTo ∉ policy.val.ips := fun member => by
        rw [PolicyState.addressesAt_of_some (policyState_of_found found)] at unlisted
        exact unlisted (List.mem_toFinset.mpr member)
      dsimp only
      rw [wp_ite, if_pos listed, wp_bind, onOk_ending, wp_tryCatch, onError_ending]
      refine Validation.wp_send_misaddressed misaddressed trivial ?_
      rw [ending_error, validation.unlike]
      rfl

end Wekafs

/-! ## Requests about exports -/

section Nfs

variable {cfg : Config} {share : Share} {fsName : String} {rule : AccessRule} {net : Ipv4.Network}

private theorem accepted_getClientGroupByName (name : String) :
    (getClientGroupByName name).Uses Accepted :=
  .bind (accepted_request rfl) fun _ => trivial

private theorem accepted_deleteClientGroupByName (name : String) :
    (deleteClientGroupByName name).Uses Accepted := by
  refine .bind (accepted_getClientGroupByName name) fun found => ?_
  cases found with
  | none => trivial
  | some group =>
      refine .tryCatch (.bind (.tryCatch (.bind (accepted_request rfl) fun _ => ?_) fun _ =>
        trivial) fun _ => accepted_request rfl) fun _ => .ite (fun _ => trivial) fun _ => trivial
      exact .forM fun rule _ => .tryCatch (accepted_request rfl) fun _ => trivial

private theorem accepted_ensureClientGroup (name : String) :
    (ensureClientGroup name).Uses Accepted := by
  refine .bind (accepted_getClientGroupByName name) fun found => ?_
  cases found with
  | none => exact .bind (accepted_request rfl) fun _ => trivial
  | some group => exact .bind (accepted_request rfl) fun _ => trivial

private theorem network?_of_normWekaIp {text : String}
    (reduced : normWekaIp text = String.ofList (Ipv4.networkText net)) :
    (network? text).isSome = true := by
  cases parsed : network? text with
  | some net => rfl
  | none =>
      have unreduced : normWekaIp text = text := by rw [normWekaIp, parsed]
      rw [← unreduced, reduced, network?_networkText] at parsed
      cases parsed

/-- A rule for a network is applied by accepted requests. -/
theorem accepted_applyNfsRule (denotes : network? rule.accessTo = some net) :
    (applyNfsRule share fsName rule).Uses Accepted := by
  obtain ⟨wekaIp, read, reduced, -⟩ := cidrToWekaIp_stored denotes
  unfold applyNfsRule
  rw [read]
  refine .bind (accepted_ensureClientGroup _) fun ensured => .bind (.ite (fun _ => ?_) fun _ =>
    trivial) fun _ => .bind (.bind (accepted_request rfl) fun _ => trivial) fun found => ?_
  · exact .tryCatch (.bind (uses_perform (misaddressed_singleton (network?_of_normWekaIp reduced)))
      fun _ => trivial) fun _ => .ite (fun _ => trivial) fun _ => trivial
  · cases found with
    | none => exact .bind (accepted_request rfl) fun _ => trivial
    | some perm =>
        exact .ite (fun _ => .bind (accepted_request rfl) fun _ =>
          .bind (accepted_request rfl) fun _ => trivial) fun _ => trivial

/-- A rule is deleted by accepted requests. -/
theorem accepted_removeNfsRule (rule : AccessRule) :
    (removeNfsRule cfg fsName rule).Uses Accepted := by
  refine .bind (accepted_request rfl) fun listed => .bind (.foldlM (fun names perm _ => ?_) _)
    fun names => .forM fun name _ => accepted_deleteClientGroupByName name
  exact .ite (fun _ => .bind (accepted_request rfl) fun _ => trivial) fun _ => trivial

/-- Exports are pruned by accepted requests. -/
theorem accepted_pruneNfsRules (rules : List AccessRule) :
    (pruneNfsRules cfg share fsName rules).Uses Accepted := by
  refine .bind (accepted_request rfl) fun listed => .bind (.foldlM (fun names perm _ => ?_) _)
    fun names => .forM fun name _ =>
      .tryCatch (accepted_deleteClientGroupByName name) fun _ => trivial
  exact .ite (fun _ => .tryCatch (.bind (accepted_request rfl) fun _ => trivial) fun _ => trivial)
    fun _ => trivial

/-- A text that is no address is not added to a group that does not hold it: the group may be made
for it, and nothing else changes. -/
theorem wp_applyNfsRule_unreadable {validation : Validation} {w : World}
    (unreadable : rule.Unreadable) (rooted : Rooted fsName w)
    (unheld : rule.accessTo ∉ (nfsState fsName w (nfsCgName share.id rule.accessId)).held) :
    (applyNfsRule share fsName rule).wp validation.service (passing fun _ => True)
      (ending (fun _ _ => False) fun _ t => Rooted fsName t ∧
        (nfsState fsName t).Alike (nfsState fsName w)) w := by
  obtain ⟨-, bare, none'⟩ := unreadable
  have misaddressed : ([rule.accessTo].any fun text => (network? text).isNone) = true := by
    simp [none']
  have unreduced : normWekaIp rule.accessTo = rule.accessTo := by rw [normWekaIp, none']
  unfold applyNfsRule
  rw [cidrToWekaIp, if_pos bare]
  refine wp_bind_of (fun ensured t => GroupReplaced w t (nfsCgName share.id rule.accessId)
      (some ensured.1) ∧ ensured.2 = ensured.1.val.addresses ∧
      ensured.1.val.networks = (nfsState fsName w (nfsCgName share.id rule.accessId)).held)
    (Validation.wp_of_accepted (accepted_ensureClientGroup _)
      (wp_weaken (wp_ensureClientGroup fsName trivial fun t group replaced same =>
        ⟨trivial, replaced, rfl, same⟩) (fun _ kept => kept) (fun _ _ reached => reached)
        fun _ _ raised => (not_possible_noFaults raised.1).elim)) fun ensured t reached => ?_
  obtain ⟨group, existing⟩ := ensured
  obtain ⟨replaced, listed, same⟩ := reached
  dsimp only at replaced listed same ⊢
  subst listed
  have unlisted : normWekaIp rule.accessTo ∉ group.val.addresses := fun member => by
    rw [unreduced] at member
    rw [← same] at unheld
    exact unheld (List.mem_toFinset.mpr member)
  rw [ensureGroupRule, wp_bind, onOk_ending, wp_ite, if_pos unlisted, wp_tryCatch, onError_ending,
    wp_bind, onOk_ending]
  refine Validation.wp_send_misaddressed misaddressed trivial ?_
  rw [ending_error, validation.unlike]
  refine ⟨replaced.rooted rooted, fun name => ?_⟩
  rw [replaced.nfsState]
  by_cases own : name = nfsCgName share.id rule.accessId
  · subst own
    rw [Function.update_self, GroupAccess.held, Option.map_some, Option.getD_some, same]
    exact ⟨rfl, rfl⟩
  · rw [Function.update_of_ne own]
    exact ⟨rfl, rfl⟩

end Nfs

end WekaShareDriver
