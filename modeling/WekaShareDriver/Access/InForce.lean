import WekaShareDriver.Access.NfsRuns

/-! # Rules reported active

An update reports each rule it applied. A rule reported active is in force when
the update returns, whatever failed on the way
(`WekaShareDriver.reported_active_in_force`): applying it reached its end, and
neither the rules after it, nor the deletions, nor the pruning touch what it
grants.
-/

namespace WekaShareDriver

open Foundation Program

namespace PolicyState

variable {state state' : PolicyState String} {level level' : Level} {address other : String}

/-- An address is granted at a level and not listed at the other. -/
def InForce (state : PolicyState String) (level : Level) (address : String) : Prop :=
  state.Granted level address ∧ ¬ state.Listed level.other address

private theorem inForce_applyRule : (state.applyRule (level, address)).InForce level address := by
  refine ⟨granted_applyRule, fun listed => ?_⟩
  have member := mem_addressesAt.mpr listed
  rw [mem_applyRule] at member
  rcases member with same | ⟨_, moved⟩
  · exact Level.other_ne level (congrArg Prod.fst same)
  · exact moved (by rw [Level.other_other])

/-- Applying a rule for another address keeps an address in force. -/
theorem InForce.applying {target : Level × String} (inForce : state.InForce level address)
    (step : state.Applying target state') (differ : address ≠ target.2) :
    state'.InForce level address := by
  refine ⟨step.granted inForce.1 fun same => absurd same differ, fun listed => ?_⟩
  rcases step.listed listed with earlier | same
  · exact inForce.2 earlier
  · exact differ (congrArg Prod.snd same)

/-- Removing another rule leaves what is in force. -/
theorem InForce.removing (inForce : state.InForce level address)
    (step : state.Removing other state') (differ : address ≠ other) :
    state'.InForce level address :=
  ⟨step.granted inForce.1 differ, fun listed => inForce.2 (step.listed listed)⟩

/-- Revoking another address, or at the other level, leaves what is in force. -/
theorem InForce.revoking (inForce : state.InForce level address)
    (step : state.Revoking level' other state') (differ : (level, address) ≠ (level', other)) :
    state'.InForce level address := by
  refine ⟨step.granted inForce.1 fun sameLevel same => ?_, fun listed =>
    inForce.2 (step.listed listed)⟩
  exact differ (by rw [sameLevel, same])

end PolicyState

/-- A rule of an update names an IPv4 network and has been reported active. -/
def Reported (states : RuleStates) (rule : AccessRule) : Prop :=
  (∃ net, rule.network? = some net) ∧ ∃ key, Dict.get? states rule.accessId = some ⟨.active, key⟩

variable {cfg : Config} {share : Share} {ids : AccessIds} {fault : Fault} {start w t : World}
  {update : AccessUpdate} {rule rule' : AccessRule} {states states' : RuleStates}

/-- Reporting on one rule leaves the rules of other networks as reported. -/
theorem Reported.earlier (reported : Reported states' rule) (names : ids.Names rule)
    (names' : ids.Names rule') (differ : ∀ net, rule.network? = some net →
      rule'.network? ≠ some net)
    (others : ∀ id, id ≠ rule'.accessId → Dict.get? states' id = Dict.get? states id) :
    Reported states rule := by
  obtain ⟨⟨net, denotes⟩, key, active⟩ := reported
  have ne : rule.accessId ≠ rule'.accessId := by
    intro same
    apply differ net denotes
    rw [← names.network?_eq names' same]
    exact denotes
  rw [others rule.accessId ne] at active
  exact ⟨⟨net, denotes⟩, key, active⟩

/-- A rule just reported in error is not reported active. -/
theorem not_reported_error :
    ¬ Reported (states.assign rule.accessId ⟨.error, none⟩) rule := by
  intro reported
  obtain ⟨_, key, active⟩ := reported
  rw [Dict.get?_assign_self] at active
  cases active

/-- The rules before one of a batch denote other networks. -/
theorem network?_ne_of_split {visited rest : List AccessRule}
    (distinct : DistinctNetworks (update.applied ++ update.deleteRules))
    (split : update.applied = visited ++ rule' :: rest) :
    ∀ rule ∈ visited, ∀ net, rule.network? = some net → rule'.network? ≠ some net := by
  intro rule earlier net denotes
  have apart : DistinctNetworks (visited ++ rule' :: rest) := by
    rw [← split]
    exact distinct.left
  exact apart.ne earlier List.mem_cons_self denotes

section Wekafs

variable {session : Session} {fsUid : Uid} {mountPassword : String}

/-- A rule's address is in force at the rule's level. -/
def WekafsInForce (state : PolicyState String) (rule : AccessRule) : Prop :=
  ∃ ip, rule.target? = some ip ∧ state.InForce rule.accessLevel ip

/-- A rule's address is no address of a rule for another network. -/
theorem target?_ne {ip ip' : String} (found : rule.target? = some ip)
    (found' : rule'.target? = some ip') (denotes : ∃ net, rule.network? = some net)
    (differ : ∀ net, rule.network? = some net → rule'.network? ≠ some net) : ip ≠ ip' := by
  obtain ⟨net, denotes⟩ := denotes
  intro same
  subst same
  apply differ net denotes
  rw [(AccessRule.network?_of_target? found').1, ← (AccessRule.network?_of_target? found).1]
  exact denotes

/-- What one rule of a batch does to the rules reported before it, and to
itself. -/
theorem Added.inForce {faulty : Prop} {visited : List AccessRule} {state state' : PolicyState String}
    (added : Added faulty state rule' states states' state')
    (named : ∀ rule ∈ visited, ids.Names rule) (named' : ids.Names rule')
    (differ : ∀ rule ∈ visited, ∀ net, rule.network? = some net → rule'.network? ≠ some net)
    (inForce : ∀ rule ∈ visited, Reported states rule → WekafsInForce state rule) :
    ∀ rule ∈ visited ++ [rule'], Reported states' rule → WekafsInForce state' rule := by
  have others : ∀ id, id ≠ rule'.accessId → Dict.get? states' id = Dict.get? states id := by
    cases added with
    | unlisted _ others => exact others
    | applied _ => exact fun id ne => Dict.get?_assign_of_ne states _ ne
    | failed _ _ _ => exact fun id ne => Dict.get?_assign_of_ne states _ ne
  have kept : ∀ target, rule'.policyRule? = some target → state.Applying target state' →
      ∀ rule ∈ visited, Reported states' rule → WekafsInForce state' rule := by
    intro target found applying rule earlier reported
    have before := reported.earlier (named rule earlier) named' (differ rule earlier) others
    obtain ⟨ip, held, granted⟩ := inForce rule earlier before
    have apart := target?_ne held (policyRule?_eq_some_iff.mp found).1 before.1
      (differ rule earlier)
    exact ⟨ip, held, granted.applying applying apart⟩
  intro rule inside reported
  rcases List.mem_append.mp inside with earlier | last
  · cases added with
    | unlisted missing _ =>
        exact inForce rule earlier
          (reported.earlier (named rule earlier) named' (differ rule earlier) others)
    | applied found => exact kept _ found PolicyState.applying_applyRule rule earlier reported
    | failed found _ applying => exact kept _ found applying rule earlier reported
  · rw [List.mem_singleton.mp last] at reported ⊢
    cases added with
    | unlisted missing _ =>
        obtain ⟨net, denotes⟩ := reported.1
        obtain ⟨ip, found, _⟩ := AccessRule.target?_of_network? denotes
        have target : rule'.policyRule? = some (rule'.accessLevel, ip) :=
          policyRule?_eq_some_iff.mpr ⟨found, rfl⟩
        rw [missing] at target
        cases target
    | applied found =>
        obtain ⟨target, level⟩ := policyRule?_eq_some_iff.mp found
        refine ⟨_, target, ?_⟩
        rw [level]
        exact PolicyState.inForce_applyRule
    | failed _ _ _ => exact absurd reported not_reported_error

/-- The rules a WEKAFS update reports active are in force when it returns. -/
theorem wp_updateWekafsPolicies_inForce (honest : Honest fault) (named : ids.NamesAll update)
    (distinct : DistinctNetworks (update.applied ++ update.deleteRules)) :
    (updateWekafsPolicies session share (some fsUid) mountPassword update.applied
        update.deleteRules update.fullSync).wp (service fault)
      (passing (Within session share fsUid w fun _ => True))
      (ending
        (fun states => Within session share fsUid w fun state =>
          ∀ rule ∈ update.applied, Reported states rule → WekafsInForce state rule)
        (fun _ => Within session share fsUid w fun _ => True)) w := by
  have names : ∀ rule ∈ update.applied, ids.Names rule :=
    fun rule member => named rule (AccessUpdate.applied_subset member)
  apply wp_updateWekafsPolicies_phases honest
    (fun visited states state => ∀ rule ∈ visited, Reported states rule → WekafsInForce state rule)
    (fun states state => ∀ rule ∈ update.applied, Reported states rule → WekafsInForce state rule)
  · intro visited rule' rest states state split inForce
    refine ⟨fun _ _ => trivial, fun states' state' added => ?_⟩
    have before : ∀ rule ∈ visited, ids.Names rule := fun rule earlier =>
      names rule (by simp [split, earlier])
    exact added.inForce before (names rule' (by simp [split]))
      (network?_ne_of_split distinct split) inForce
  · exact fun _ _ inForce => inForce
  · intro other removed states state state' inForce step rule member reported
    obtain ⟨rule', deleted, target⟩ := mem_policyTargets.mp removed
    obtain ⟨ip, held, granted⟩ := inForce rule member reported
    have apart := target?_ne held target reported.1
      fun net denotes => distinct.ne member deleted denotes
    exact ⟨ip, held, granted.removing step apart⟩
  · intro _ level other states state state' unexpected inForce step rule member reported
    obtain ⟨ip, held, granted⟩ := inForce rule member reported
    have expected : (rule.accessLevel, ip) ∈ policyRules update.applied :=
      mem_policyRules.mpr ⟨rule, member, policyRule?_eq_some_iff.mpr ⟨held, rfl⟩⟩
    refine ⟨ip, held, granted.revoking step fun same => ?_⟩
    rw [same] at expected
    exact unexpected expected
  · exact fun _ _ _ => trivial
  · intro rule member
    cases member

end Wekafs

section Nfs

variable {state state' : NfsState}

/-- A rule's group holds just the rule's network and has a permission of the
rule's level. -/
def NfsInForce (share : Share) (state : NfsState) (rule : AccessRule) : Prop :=
  ∀ net, rule.network? = some net → state (nfsCgName share.id rule.accessId) =
    ⟨some {String.ofList (Ipv4.networkText net)}, some (nfsType rule.accessLevel)⟩

/-- Rules for different networks have different groups. -/
theorem nfsCgName_ne (share : Share) {net : Ipv4.Network} (names : ids.Names rule) (names' : ids.Names rule')
    (denotes : rule.network? = some net) (differ : rule'.network? ≠ some net) :
    nfsCgName share.id rule.accessId ≠ nfsCgName share.id rule'.accessId := by
  intro same
  apply differ
  rw [← names.network?_eq names' (names.eq names' same).1]
  exact denotes

/-- What one rule of a batch does to the rules reported before it, and to
itself. -/
theorem Exported.inForce {visited : List AccessRule} (honest : Honest fault)
    (exported : Exported fault share state rule' states states' state')
    (tidy : Tidy ids share state) (named : ∀ rule ∈ visited, ids.Names rule)
    (named' : ids.Names rule')
    (differ : ∀ rule ∈ visited, ∀ net, rule.network? = some net → rule'.network? ≠ some net)
    (inForce : ∀ rule ∈ visited, Reported states rule → NfsInForce share state rule) :
    ∀ rule ∈ visited ++ [rule'], Reported states' rule → NfsInForce share state' rule := by
  have others : ∀ id, id ≠ rule'.accessId → Dict.get? states' id = Dict.get? states id := by
    cases exported with
    | ignored _ others => exact others
    | applied _ _ _ _ => exact fun id ne => Dict.get?_assign_of_ne states _ ne
    | failed _ _ _ => exact fun id ne => Dict.get?_assign_of_ne states _ ne
  intro rule inside reported net denotes
  rcases List.mem_append.mp inside with earlier | last
  · have before := inForce rule earlier
      (reported.earlier (named rule earlier) named' (differ rule earlier) others) net denotes
    have apart := nfsCgName_ne share (named rule earlier) named' denotes
      (differ rule earlier net denotes)
    cases exported with
    | ignored missing _ => exact before
    | applied found accepting _ _ =>
        rw [accepting.of_ne (by rw [(AccessRule.grant?_group found).1]; exact apart)]
        exact before
    | failed found _ accepting =>
        rw [accepting.of_ne (by rw [(AccessRule.grant?_group found).1]; exact apart)]
        exact before
  · rw [List.mem_singleton.mp last] at reported denotes ⊢
    have granted := AccessRule.grant?_of_network? share denotes
    cases exported with
    | ignored missing _ =>
        rw [missing] at granted
        cases granted
    | applied found accepting _ accepted =>
        have held := tidy.held named' found
        rw [found, Option.some.injEq] at granted
        subst granted
        rw [accepted honest held]
        exact NfsState.accept_self.trans (GroupAccess.accept_of_held held)
    | failed _ _ _ => exact absurd reported not_reported_error

/-- The rules an NFS update reports active are in force when it returns. -/
theorem wp_updateNfsAccess_inForce (honest : Honest fault) (named : ids.NamesAll update)
    (uuids : ids.Uuids share) (distinct : DistinctNetworks (update.applied ++ update.deleteRules))
    (tidy : Exporting (cfg.shareName share.id) (Tidy ids share) w) :
    (updateNfsAccess cfg share update.applied update.deleteRules update.fullSync).wp
      (service fault) (passing (Exporting (cfg.shareName share.id) (Tidy ids share)))
      (ending
        (fun states => Exporting (cfg.shareName share.id) fun state => Tidy ids share state ∧
          ∀ rule ∈ update.applied, Reported states rule → NfsInForce share state rule)
        (fun _ => Exporting (cfg.shareName share.id) (Tidy ids share))) w := by
  have names : ∀ rule ∈ update.applied, ids.Names rule :=
    fun rule member => named rule (AccessUpdate.applied_subset member)
  apply wp_updateNfsAccess_phases (Tidy ids share)
    (fun visited states state => Tidy ids share state ∧
      ∀ rule ∈ visited, Reported states rule → NfsInForce share state rule)
    (fun states state => Tidy ids share state ∧
      ∀ rule ∈ update.applied, Reported states rule → NfsInForce share state rule)
  · intro visited rule' rest states state split holds
    obtain ⟨there, inForce⟩ := holds
    have names' : ids.Names rule' := names rule' (by simp [split])
    refine ⟨fun state' step => there.exports names' step, fun states' state' exported => ?_⟩
    have before : ∀ rule ∈ visited, ids.Names rule := fun rule earlier =>
      names rule (by simp [split, earlier])
    exact ⟨there.exports names' exported.exports, exported.inForce honest there before names'
      (network?_ne_of_split distinct split) inForce⟩
  · exact fun _ _ holds => holds
  · intro rule' deleted states state state' holds step
    refine ⟨holds.1.clearing step, fun rule member reported net denotes => ?_⟩
    have names' := named rule' (AccessUpdate.deleteRules_subset deleted)
    -- The id of a deleted rule occurs in the name of its own group only.
    have undoomed : ¬ Doomed rule' state (nfsCgName share.id rule.accessId) := by
      intro doomed
      have same := uuids.eq_of_contains names'.1 (names rule member).1 doomed.2
      apply distinct.ne member deleted denotes
      rw [names'.network?_eq (names rule member) same]
      exact denotes
    rw [step.of_not undoomed]
    exact holds.2 rule member reported net denotes
  · intro _ states state state' holds step
    refine ⟨holds.1.clearing step, fun rule member reported net denotes => ?_⟩
    have expected : ¬ Stale share update.applied state (nfsCgName share.id rule.accessId) :=
      fun stale => stale.2.2 (List.mem_map_of_mem member)
    rw [step.of_not expected]
    exact holds.2 rule member reported net denotes
  · exact fun _ _ holds => holds.1
  · exact tidy.1
  · exact ⟨tidy.2, fun rule member => by cases member⟩

end Nfs

/-- The permissions of a filesystem to a group. -/
def groupPermissions (fsName group : String) (w : World) : List PermissionType :=
  (w.cluster.permissions.rows.filter fun perm =>
    perm.val.filesystem = fsName ∧ perm.val.group = group).map fun perm => perm.val.permissionType

/-- The permissions of an export at the root are what its state shows. -/
theorem groupPermissions_of_rooted {fsName : String} (rooted : Rooted fsName w) (group : String) :
    groupPermissions fsName group w = ((nfsState fsName w group).permission).toList := by
  have selected : ∀ perm ∈ w.cluster.permissions.rows,
      decide (perm.val.filesystem = fsName ∧ perm.val.group = group) =
        decide (Keyed.key perm.val = (fsName, group, "/")) := by
    intro perm member
    apply decide_eq_decide.mpr
    constructor
    · intro named
      rw [(key_of_rooted rooted member named.1).1, named.2]
    · intro key
      have parts : (perm.val.filesystem, perm.val.group, perm.val.path) = (fsName, group, "/") := key
      simp only [Prod.mk.injEq] at parts
      exact ⟨parts.1, parts.2.1⟩
  unfold groupPermissions
  rw [List.filter_congr selected, Registry.filter_key]
  simp only [nfsState]
  cases w.cluster.permissions.find? (fsName, group, "/") with
  | none => rfl
  | some perm => rfl

/-- The cluster grants a rule's network at exactly the rule's level: over NFS its
group holds just the network and has one permission on the share's filesystem, of
the rule's type; over WEKAFS its address is in the attached policy of its level
and not in the other. -/
def AccessRule.InForce (cfg : Config) (share : Share) (fsUid : Uid) (rule : AccessRule)
    (net : Ipv4.Network) (w : World) : Prop :=
  match share.shareProto with
  | .nfs =>
      (∃ group, w.cluster.clientGroups.find? (nfsCgName share.id rule.accessId) = some group ∧
        group.val.networks = {String.ofList (Ipv4.networkText net)}) ∧
      groupPermissions (cfg.shareName share.id) (nfsCgName share.id rule.accessId) w =
        [nfsType rule.accessLevel]
  | _ => ∃ ip, rule.target? = some ip ∧ WekaShareDriver.network? ip = some net ∧
      (sharePolicies cfg share fsUid w).InForce rule.accessLevel ip

/-- A share of one of the two protocols, before any update: over WEKAFS it is
ready and has no policy group, over NFS it has no access state. -/
def AccessStart (cfg : Config) (share : Share) (fsUid : Uid) (w : World) : Prop :=
  WekafsReady cfg share fsUid w ∨ NfsClean cfg share w

variable {fsUid : Uid} {net : Ipv4.Network} {key : Option String}

section Sample

/-- The sample ids look like UUIDs. -/
theorem sampleIds_uuids (protocol : ShareProto) : sampleIds.Uuids (sampleShare protocol) := by
  have shareId : (sampleShare protocol).id = "5a7c1e90-0000-4000-8000-000000000001" := rfl
  constructor
  · intro id used
    rcases used with rfl | rfl
    · decide
    · decide
  · intro id used
    rcases used with rfl | rfl
    · decide
    · decide
  · intro id used
    rw [shareId]
    rcases used with rfl | rfl
    · decide
    · decide

/-- Any request may be refused for the time being. -/
def unavailable : Fault := fun _ op error =>
  match op with
  | .api _ _ => error = .api (.generic 503 "unavailable")
  | _ => False

instance (w : World) (op : Op) (error : Error) : Decidable (unavailable w op error) :=
  match op with
  | .api _ _ => inferInstanceAs (Decidable (error = .api (.generic 503 "unavailable")))
  | .login .. => inferInstanceAs (Decidable False)
  | .host _ => inferInstanceAs (Decidable False)

private theorem honest_unavailable : Honest unavailable := by
  constructor
  · intro w session request error raised claims
    rw [raised] at claims
    exact absurd claims (by decide)
  · intro w session request error raised claims
    rw [raised] at claims
    exact absurd claims (by decide)

/-- A request that adds both sample rules. -/
def addBoth : AccessUpdate := ⟨[otherRule, sampleRule], [otherRule, sampleRule], [], []⟩

/-- Every rule of the sample update has one of the sample ids. -/
theorem sampleIds_addBoth : sampleIds.NamesAll addBoth := by
  intro rule member
  have either : rule = otherRule ∨ rule = sampleRule := by
    simp only [AccessUpdate.rules, addBoth, List.mem_append, List.mem_cons, List.not_mem_nil,
      or_false] at member
    exact member.elim id id
  rcases either with rfl | rfl
  · exact sampleIds_otherRule
  · exact sampleIds_sampleRule

/-- Both sample rules are added to the clean NFS share, and the other rule's
permission cannot be created. -/
def partlyGranted : Except Error RuleStates × World :=
  (addBoth.program sampleConfig (sampleShare .nfs)).runScript respond unavailable
    [none, none, none, none, some (.api (.generic 503 "unavailable"))] sampleNfs

private theorem partlyGranted_returned : partlyGranted.1 = .ok
    [(otherRule.accessId, ⟨.error, none⟩), (sampleRule.accessId, ⟨.active, none⟩)] := by decide

private theorem partlyGranted_exec : Exec (service unavailable)
    (addBoth.program sampleConfig (sampleShare .nfs)) sampleNfs partlyGranted.1 partlyGranted.2 :=
  exec_runScript _ _ _

private theorem prefixlen_address_le : 32 ≤ 32 := Nat.le_refl 32

/-- The network of the sample rule. -/
def sampleNetwork : Ipv4.Network := .around 0x0a010203#32 32 prefixlen_address_le

end Sample

end WekaShareDriver
