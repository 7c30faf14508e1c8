import WekaShareDriver.Access.Incremental
import WekaShareDriver.Access.NfsSteps
import WekaShareDriver.Access.WekafsSteps

/-! # Access at every call of an update

An update without failures may be interrupted at any call. Wherever it is, IPv4
rules that stay keep their access, no client has access that neither the old nor
the new rules give, and a WEKAFS share with IPv4 rules before and after is never
open (`WekaShareDriver.SafeBetween`). The one exception is an NFS update that
deletes a rule whose id occurs in the group name of a rule that stays
(`WekaShareDriver.safe_at_every_call_iff`).
-/

namespace WekaShareDriver

open Foundation Program

/-- The share's access state is exactly what some rules ask for. -/
def Consistent (cfg : Config) (share : Share) (fsUid : Uid) (rules : List AccessRule) (w : World) :
    Prop :=
  (WekafsReady cfg share fsUid w ∧
    (sharePolicies cfg share fsUid w).Holds (PolicyState.ruleSet (policyRules rules))) ∨
  share.shareProto = .nfs ∧ Exporting (cfg.shareName share.id) (NfsConsistent share rules) w

/-- A rule has its access: over NFS its group holds its network and has a
permission of its level, over WEKAFS its address is in the attached policy of its
level. -/
def AccessRule.Served (cfg : Config) (share : Share) (fsUid : Uid) (rule : AccessRule) (w : World) :
    Prop :=
  match share.shareProto with
  | .nfs => ∃ grant, rule.grant? share = some grant ∧
      (nfsState (cfg.shareName share.id) w grant.group).Grants grant.network grant.type
  | _ => ∃ ip, rule.target? = some ip ∧
      (sharePolicies cfg share fsUid w).Granted rule.accessLevel ip

/-- The text denotes a network with the client in it. -/
def Covers (text : String) (client : BitVec 32) : Prop :=
  ∃ net, network? text = some net ∧ net.Contains client

/-- A client may mount at a level. Over WEKAFS everyone may as long as no policy
is attached. -/
def ClientAllowed (cfg : Config) (share : Share) (fsUid : Uid) (level : Level) (client : BitVec 32)
    (w : World) : Prop :=
  match share.shareProto with
  | .nfs => ∃ group network, Covers network client ∧
      (nfsState (cfg.shareName share.id) w group).Grants network (nfsType level)
  | _ => (sharePolicies cfg share fsUid w).Allows Covers level client

/-- Rules give a client access at a level: one of them covers the client, or the
share is WEKAFS and none of them has an address. -/
def RulesAllow (share : Share) (rules : List AccessRule) (level : Level) (client : BitVec 32) :
    Prop :=
  (∃ rule ∈ rules, rule.accessLevel = level ∧ ∃ net, rule.network? = some net ∧
    net.Contains client) ∨
  share.shareProto ≠ .nfs ∧ policyTargets rules = []

/-- The access while the rules change from one list to another. -/
structure SafeBetween (cfg : Config) (share : Share) (fsUid : Uid) (before after : List AccessRule)
    (w : World) : Prop where
  kept : ∀ rule ∈ before, rule ∈ after → (∃ net, rule.network? = some net) →
    rule.Served cfg share fsUid w
  allowed : ∀ level client, ClientAllowed cfg share fsUid level client w →
    RulesAllow share before level client ∨ RulesAllow share after level client
  guarded : share.shareProto ≠ .nfs → ipv4Rules before ≠ [] → ipv4Rules after ≠ [] →
    (∃ level ip, (sharePolicies cfg share fsUid w).Granted level ip) ∧
      ¬ (sharePolicies cfg share fsUid w).Open

variable {cfg : Config} {share : Share} {ids : AccessIds} {fsUid : Uid} {w t : World}
  {update : AccessUpdate} {before after : List AccessRule}

/-- Rules with an IPv4 network have an address. -/
theorem policyTargets_of_ipv4Rules {rules : List AccessRule} (ruled : ipv4Rules rules ≠ []) :
    policyTargets rules ≠ [] := by
  obtain ⟨rule, member, net, denotes⟩ := ipv4Rules_ne_nil.mp ruled
  obtain ⟨ip, found, _⟩ := AccessRule.target?_of_network? denotes
  exact policyTargets_ne_nil.mpr ⟨rule, member, ip, found⟩

/-- Policies between two lists of rules are safe access. -/
theorem PolicyBetween.safe (protocol : share.shareProto = .wekafs)
    (between : PolicyBetween before after (sharePolicies cfg share fsUid w)) :
    SafeBetween cfg share fsUid before after w := by
  refine ⟨fun rule inside stays denotes => ?_, fun level client allowed => ?_,
    fun _ ruled ruled' => ?_⟩
  · obtain ⟨net, denotes⟩ := denotes
    obtain ⟨ip, found, _⟩ := AccessRule.target?_of_network? denotes
    unfold AccessRule.Served
    rw [protocol]
    exact ⟨ip, found, between.kept rule inside stays ip found⟩
  · have covered : ∀ rules, (∃ ip, (level, ip) ∈ policyRules rules ∧ Covers ip client) →
        RulesAllow share rules level client := by
      intro rules covers
      obtain ⟨ip, ruled, net, parsed, inside⟩ := covers
      obtain ⟨rule, member, found⟩ := mem_policyRules.mp ruled
      obtain ⟨target, placed⟩ := policyRule?_eq_some_iff.mp found
      refine Or.inl ⟨rule, member, placed, net, ?_, inside⟩
      rw [(AccessRule.network?_of_target? target).1]
      exact parsed
    have opened : ∀ rules, policyTargets rules = [] → RulesAllow share rules level client :=
      fun rules none => Or.inr ⟨by rw [protocol]; exact ShareProto.noConfusion, none⟩
    unfold ClientAllowed at allowed
    rw [protocol] at allowed
    rcases allowed with isOpen | ⟨ip, granted, covers⟩
    · by_cases ruled : policyTargets before = []
      · exact Or.inl (opened before ruled)
      · by_cases ruled' : policyTargets after = []
        · exact Or.inr (opened after ruled')
        · obtain ⟨_, _, granted⟩ := between.guarded ruled ruled'
          exact absurd isOpen (PolicyState.not_open_of_granted granted)
    · rcases between.listed level ip granted.listed with old | new
      · exact Or.inl (covered before ⟨ip, old, covers⟩)
      · exact Or.inr (covered after ⟨ip, new, covers⟩)
  · obtain ⟨level, ip, granted⟩ := between.guarded (policyTargets_of_ipv4Rules ruled)
      (policyTargets_of_ipv4Rules ruled')
    exact ⟨⟨level, ip, granted⟩, PolicyState.not_open_of_granted granted⟩

private theorem nfsType_injective : Function.Injective nfsType := by
  intro level level' same
  cases level <;> cases level' <;> first | rfl | cases same

/-- Exports between two lists of rules with ids in use are safe access. -/
theorem NfsBetween.safe (protocol : share.shareProto = .nfs)
    (earlier : ∀ rule ∈ before, ids.Names rule) (named : ∀ rule ∈ after, ids.Names rule)
    (between : NfsBetween ids share before after (nfsState (cfg.shareName share.id) w)) :
    SafeBetween cfg share fsUid before after w := by
  refine ⟨fun rule inside stays denotes => ?_, fun level client allowed => ?_, fun wekafs => ?_⟩
  · obtain ⟨net, parsed⟩ := denotes
    have found := AccessRule.grant?_of_network? share parsed
    unfold AccessRule.Served
    rw [protocol]
    exact ⟨_, found, between.kept rule inside stays ⟨net, parsed⟩ _ found⟩
  · unfold ClientAllowed at allowed
    rw [protocol] at allowed
    obtain ⟨group, network, ⟨net, parsed, inside⟩, held, exported⟩ := allowed
    obtain ⟨rule, grant, origin, found, rfl, type⟩ := between.permitted group _ exported
    have names : ids.Names rule := origin.elim (earlier rule) (named rule)
    have same : network = grant.network :=
      Finset.mem_singleton.mp (between.tidy.held names found held)
    have denotes : rule.network? = some net := by
      rw [← network?_grant found, ← same]
      exact parsed
    have placed : rule.accessLevel = level := by
      rw [(AccessRule.grant?_group found).2] at type
      exact nfsType_injective type
    exact origin.imp (fun member => Or.inl ⟨rule, member, placed, net, denotes, inside⟩)
      fun member => Or.inl ⟨rule, member, placed, net, denotes, inside⟩
  · exact absurd protocol wekafs

/-- Wherever an undisturbed update is interrupted, the access is safe. -/
theorem safe_of_undisturbed (consistent : Consistent cfg share fsUid before w)
    (earlier : ∀ rule ∈ before, ids.Names rule) (named : ids.NamesAll update)
    (compatible : Compatible (update.result before ++ update.deleteRules))
    (undisturbed : share.shareProto = .nfs → Undisturbed share update before)
    (reached : Reaches reliable (update.program cfg share) w t) :
    SafeBetween cfg share fsUid before (update.result before) t := by
  have names : ∀ rule ∈ update.result before, ids.Names rule := fun rule member =>
    (AccessUpdate.mem_result member).elim (fun applied => named rule
      (AccessUpdate.applied_subset applied)) (earlier rule)
  rcases consistent with ⟨ready, holds⟩ | ⟨protocol, rooted, consistent⟩
  · have steps : (update.program cfg share).wp reliable
        (passing fun u => WekafsReady cfg share fsUid u ∧
          PolicyBetween before (update.result before) (sharePolicies cfg share fsUid u))
        (ending (fun _ _ => True) fun _ _ => True) w := by
      rw [update.program_wekafs ready.protocol]
      apply wp_updateWekafsAccess ready _ holds.adding.between
        (fun _ _ _ _ _ => trivial)
      intro u ready' same
      rw [← same] at holds
      refine wp_weaken (wp_updateWekafsPolicies_ready ready'
        (wp_updateWekafsPolicies_between compatible holds))
        (fun _ passed => ⟨passed.1, passed.2.2⟩) (fun _ _ _ => trivial) fun _ _ _ => trivial
    obtain ⟨_, between⟩ := reached.of_wp ⟨ready, holds.adding.between⟩ steps
    exact between.safe ready.protocol
  · have steps : (update.program cfg share).wp reliable
        (passing (Exporting (cfg.shareName share.id)
          (NfsBetween ids share before (update.result before))))
        (ending
          (fun _ => Exporting (cfg.shareName share.id)
            (NfsBetween ids share before (update.result before)))
          (fun _ => Exporting (cfg.shareName share.id)
            (NfsBetween ids share before (update.result before)))) w := by
      rw [update.program_nfs protocol]
      exact wp_updateNfsAccess_between compatible names (undisturbed protocol)
        ⟨rooted, consistent.between earlier⟩
    obtain ⟨_, between⟩ := reached.of_wp ⟨rooted, consistent.between earlier⟩ steps
    exact between.safe protocol earlier names

/-- A rule whose group is doomed by a deletion has lost its access in the end. -/
theorem undisturbed_of_safe (protocol : share.shareProto = .nfs)
    (consistent : Exporting (cfg.shareName share.id) (NfsConsistent share before) w)
    (earlier : ∀ rule ∈ before, ids.Names rule) (named : ids.NamesAll update)
    (compatible : Compatible (update.result before ++ update.deleteRules))
    (safe : SafeBetween cfg share fsUid before (update.result before)
      ((update.program cfg share).run respond w).2) : Undisturbed share update before := by
  intro rule inside stays denotes rule' deleted
  by_contra within
  rw [Bool.not_eq_false] at within
  have incremental : update.fullSync = false := by
    by_contra full
    rw [AccessUpdate.deleteRules_of_fullSync (Bool.not_eq_false _ ▸ full)] at deleted
    cases deleted
  have result : update.result before = update.live before := by
    unfold AccessUpdate.result
    rw [incremental]
    rfl
  have distinct : (update.applied.map AccessRule.accessId).Nodup := by
    have ids := compatible.left.ids
    rw [result, AccessUpdate.live, List.map_append] at ids
    exact (List.nodup_append.mp ids).2.1
  have served := safe.kept rule inside stays denotes
  unfold AccessRule.Served at served
  rw [protocol] at served
  obtain ⟨grant, found, granted⟩ := served
  have ended := post_run (wp_incremental_nfs protocol incremental named distinct
    ⟨consistent.1, consistent.2.tidy earlier⟩)
  cases outcome : ((update.program cfg share).run respond w).1 with
  | error error =>
      rw [outcome] at ended
      exact ended.elim
  | ok states =>
      rw [outcome] at ended
      obtain ⟨_, after, reapplied, final⟩ := ended
      -- The rule's group is exported when the deletions start.
      have exported : (after grant.group).permission.isSome = true := by
        by_cases applied : ∃ rule ∈ update.applied, ∃ grant', rule.grant? share = some grant' ∧
            grant'.group = grant.group
        · obtain ⟨other, member, grant', found', same⟩ := applied
          rw [← same, reapplied.accepted other member grant' found']
          rfl
        · rw [reapplied.others grant.group fun other member grant' found' same =>
            applied ⟨other, member, grant', found', same⟩,
            consistent.2.backed rule inside grant found]
          rfl
      have doomed : DoomedAll update.deleteRules after grant.group := by
        refine ⟨exported, rule', deleted, ?_⟩
        rw [(AccessRule.grant?_group found).1]
        exact within
      have permission := granted.2
      rw [final] at permission
      simp only [NfsState.clear, doomed, ↓reduceIte] at permission
      cases permission

/-- An update without failures is safe wherever it is interrupted if and only if
it is a WEKAFS update or disturbs no rule that stays. -/
theorem safe_at_every_call_iff (consistent : Consistent cfg share fsUid before w)
    (earlier : ∀ rule ∈ before, ids.Names rule) (named : ids.NamesAll update)
    (compatible : Compatible (update.result before ++ update.deleteRules)) :
    (∀ t, Reaches reliable (update.program cfg share) w t →
      SafeBetween cfg share fsUid before (update.result before) t) ↔
      (share.shareProto = .nfs → Undisturbed share update before) := by
  constructor
  · intro safe protocol
    rcases consistent with ⟨ready, _⟩ | ⟨_, consistent⟩
    · rw [ready.protocol] at protocol
      cases protocol
    · exact undisturbed_of_safe protocol consistent earlier named compatible
        (safe _ (exec_run _ _).reaches)
  · intro undisturbed t reached
    exact safe_of_undisturbed consistent earlier named compatible undisturbed reached

section Sample

/-- A rule whose id starts like the sample share's. -/
def likeShareRule : AccessRule := ⟨"5a7c1e90-0000-4000-8000-000000000004", .ip, "10.4.5.6", .rw⟩

/-- The ids of the sample rule and the one like the share's. -/
def likeShareIds : AccessIds := .pair sampleRule likeShareRule (by decide)

private theorem likeShareIds_names :
    ∀ rule ∈ [sampleRule, likeShareRule], likeShareIds.Names rule := by
  intro rule member
  rcases List.mem_pair.mp member with rfl | rfl
  · exact AccessIds.pair_first
  · exact AccessIds.pair_second

/-- The sample share with both rules. -/
def bothNfs : World :=
  (((AccessUpdate.sync [sampleRule, likeShareRule]).program sampleConfig (sampleShare .nfs)).run
    respond sampleNfs).2

private theorem bothNfs_consistent :
    Consistent sampleConfig (sampleShare .nfs) 0 [sampleRule, likeShareRule] bothNfs := by
  obtain ⟨rooted, reapplied⟩ := sync_nfs_clean sampleNfs_clean likeShareIds_names (by decide)
  exact Or.inr ⟨rfl, rooted, reapplied.consistent sampleNfs_clean.nothing⟩

/-- The deletion of the rule like the share's. -/
def deleteLikeShare : AccessUpdate := ⟨[sampleRule], [], [likeShareRule], []⟩

private theorem likeShareIds_deleteLikeShare : likeShareIds.NamesAll deleteLikeShare := by
  intro rule member
  apply likeShareIds_names
  simpa [AccessUpdate.rules, deleteLikeShare] using member

/-- The equivalence at that deletion. -/
theorem safe_at_every_call_sample :
    (∀ t, Reaches reliable (deleteLikeShare.program sampleConfig (sampleShare .nfs)) bothNfs t →
      SafeBetween sampleConfig (sampleShare .nfs) 0 [sampleRule, likeShareRule]
        (deleteLikeShare.result [sampleRule, likeShareRule]) t) ↔
      ((sampleShare .nfs).shareProto = .nfs →
        Undisturbed (sampleShare .nfs) deleteLikeShare [sampleRule, likeShareRule]) :=
  safe_at_every_call_iff bothNfs_consistent likeShareIds_names likeShareIds_deleteLikeShare
    (by decide)

/-- Deleting the rule revokes the other rule of the share as well. -/
theorem deleting_like_share_revokes :
    Consistent sampleConfig (sampleShare .nfs) 0 [sampleRule, likeShareRule] bothNfs ∧
    likeShareIds.NamesAll deleteLikeShare ∧
    Compatible (deleteLikeShare.result [sampleRule, likeShareRule] ++
      deleteLikeShare.deleteRules) ∧
    ∃ t, Reaches reliable (deleteLikeShare.program sampleConfig (sampleShare .nfs)) bothNfs t ∧
      sampleRule ∈ deleteLikeShare.result [sampleRule, likeShareRule] ∧
      ¬ SafeBetween sampleConfig (sampleShare .nfs) 0 [sampleRule, likeShareRule]
        (deleteLikeShare.result [sampleRule, likeShareRule]) t := by
  refine ⟨bothNfs_consistent, likeShareIds_deleteLikeShare, by decide, _,
    (exec_run _ _).reaches, by decide, fun safe => ?_⟩
  obtain ⟨grant, found, _, exported⟩ := safe.kept sampleRule (by decide) (by decide)
    ⟨sampleNetwork, by decide⟩
  have withdrawn : (nfsState (sampleConfig.shareName (sampleShare .nfs).id)
      ((deleteLikeShare.program sampleConfig (sampleShare .nfs)).run respond bothNfs).2
        (nfsCgName (sampleShare .nfs).id sampleRule.accessId)).permission = none := by decide
  rw [(AccessRule.grant?_group found).1, withdrawn] at exported
  cases exported

end Sample

end WekaShareDriver
