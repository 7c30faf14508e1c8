import WekaShareDriver.Access.NfsRuns

/-! # Full synchronization of an NFS share

A full sync without failures applies its rules and prunes every exported group
that no rule expects. It leaves exactly the IPv4 rules unless a group without a
permission was left behind, which pruning cannot find, or a rule names no
network (`WekaShareDriver.nfs_fullSync_repairs_iff`).
-/

namespace WekaShareDriver

open Foundation Program

/-- The exports of a share are exactly its IPv4 rules: each has its group, with
just its network and a permission of its level, and no other group carries the
share's prefix. -/
structure NfsExact (share : Share) (rules : List AccessRule) (state : NfsState) : Prop where
  backed : ∀ rule ∈ rules, ∀ net, rule.network? = some net →
    state (nfsCgName share.id rule.accessId) =
      ⟨some {String.ofList (Ipv4.networkText net)}, some (nfsType rule.accessLevel)⟩
  nothingElse : ∀ name, Text.startsWith name (nfsCgPrefix share.id) = true →
    (∀ rule ∈ ipv4Rules rules, name ≠ nfsCgName share.id rule.accessId) → state name = .absent

/-- The exports a full sync can repair: every group without a permission is one
of its IPv4 rules' groups. -/
structure NfsRepairable (share : Share) (rules : List AccessRule) (state : NfsState) : Prop where
  addressed : ∀ rule ∈ rules, ¬ rule.Unreadable
  unorphaned : ∀ name, Text.startsWith name (nfsCgPrefix share.id) = true →
    (state name).networks.isSome = true → (state name).permission = none →
      ∃ rule ∈ ipv4Rules rules, name = nfsCgName share.id rule.accessId

/-- What applying some of the rules leaves: groups of other rules are as they
were, and each rule's group has just the rule's grant. -/
structure Reapplied (share : Share) (before : NfsState) (visited : List AccessRule)
    (after : NfsState) : Prop where
  others : ∀ name, (∀ rule ∈ visited, ∀ grant, rule.grant? share = some grant →
    grant.group ≠ name) → after name = before name
  accepted : ∀ rule ∈ visited, ∀ grant, rule.grant? share = some grant →
    after grant.group = ⟨some {grant.network}, some grant.type⟩

variable {cfg : Config} {share : Share} {ids : AccessIds} {w : World} {rules : List AccessRule}
  {before after : NfsState}

/-- A rule that grants something denotes a network or is unreadable. -/
theorem AccessRule.grant?_cases {rule : AccessRule} {grant : Grant}
    (found : rule.grant? share = some grant) :
    (∃ net, rule.network? = some net) ∨ rule.Unreadable := by
  obtain ⟨ipv4, wekaIp, read, _⟩ := grant?_eq_some_iff.mp found
  have ipType := (isIpv4_iff.mp ipv4).1
  cases parsed : WekaShareDriver.network? rule.accessTo with
  | some net => exact Or.inl ⟨net, network?_eq_some_iff.mpr ⟨ipType, parsed⟩⟩
  | none =>
      right
      refine ⟨ipv4, ?_, parsed⟩
      intro slash
      unfold cidrToWekaIp at read
      rw [if_neg (not_not.mpr slash), parsed] at read
      cases read

/-- A rule that cannot be read grants something all the same. -/
theorem AccessRule.Unreadable.grant? (share : Share) {rule : AccessRule} (unreadable : rule.Unreadable) :
    ∃ grant, rule.grant? share = some grant := by
  obtain ⟨ipv4, bare, _⟩ := unreadable
  have read : cidrToWekaIp rule.accessTo = .ok rule.accessTo := by
    rw [cidrToWekaIp, if_pos bare]
  exact ⟨_, grant?_eq_some_iff.mpr ⟨ipv4, _, read, rfl⟩⟩

/-- Whether a rule grants something depends on its client only. -/
theorem AccessRule.grant?_of_client {rule rule' : AccessRule} {grant : Grant}
    (found : rule.grant? share = some grant) (type : rule.accessType = rule'.accessType)
    (target : rule.accessTo = rule'.accessTo) : ∃ grant', rule'.grant? share = some grant' := by
  obtain ⟨ipv4, wekaIp, read, _⟩ := grant?_eq_some_iff.mp found
  have ipv4' : rule'.isIpv4 = true := by
    unfold isIpv4 at ipv4 ⊢
    rw [← type, ← target]
    exact ipv4
  rw [target] at read
  exact ⟨_, grant?_eq_some_iff.mpr ⟨ipv4', wekaIp, read, rfl⟩⟩

/-- Rules with different ids have different groups. -/
theorem group_ne_of_visited (share : Share) {visited rest : List AccessRule} {rule : AccessRule}
    (named : ∀ rule ∈ rules, ids.Names rule) (distinct : (rules.map AccessRule.accessId).Nodup)
    (split : rules = visited ++ rule :: rest) :
    ∀ other ∈ visited, nfsCgName share.id other.accessId ≠ nfsCgName share.id rule.accessId := by
  intro other earlier same
  have namesOther := named other (by simp [split, earlier])
  have namesRule := named rule (by simp [split])
  have equal := (namesOther.eq namesRule same).1
  rw [split, List.map_append, List.map_cons, List.nodup_append] at distinct
  exact distinct.2.2 _ (List.mem_map_of_mem earlier) _ List.mem_cons_self equal

/-- Without faults applying one more rule leaves its group with just its grant. -/
theorem Reapplied.step {visited rest : List AccessRule} {rule : AccessRule} {state : NfsState}
    {states states' : RuleStates} (tidy : Tidy ids share before)
    (named : ∀ rule ∈ rules, ids.Names rule) (distinct : (rules.map AccessRule.accessId).Nodup)
    (split : rules = visited ++ rule :: rest) (reapplied : Reapplied share before visited state)
    (exported : Exported noFaults share state rule states states' after) :
    Reapplied share before (visited ++ [rule]) after := by
  have fresh := group_ne_of_visited share named distinct split
  have differs : ∀ other ∈ visited, ∀ grant grant', other.grant? share = some grant →
      rule.grant? share = some grant' → grant.group ≠ grant'.group := by
    intro other earlier grant grant' found found'
    rw [(AccessRule.grant?_group found).1, (AccessRule.grant?_group found').1]
    exact fresh other earlier
  cases exported with
  | ignored missing _ =>
      refine ⟨fun name foreign => ?_, fun other inside grant found => ?_⟩
      · exact reapplied.others name fun other earlier grant found =>
          foreign other (List.mem_append_left _ earlier) grant found
      · rcases List.mem_append.mp inside with earlier | last
        · exact reapplied.accepted other earlier grant found
        · rw [List.mem_singleton.mp last, missing] at found
          cases found
  | @applied grant' _ found' accepting permitted accepted =>
      have untouched : ∀ other ∈ visited, ∀ grant, other.grant? share = some grant →
          after grant.group = state grant.group := fun other earlier grant found =>
        accepting.of_ne (differs other earlier grant grant' found found')
      refine ⟨fun name foreign => ?_, fun other inside grant found => ?_⟩
      · have ne : name ≠ grant'.group := fun same =>
          foreign rule (by simp) grant' found' same.symm
        rw [accepting.of_ne ne]
        exact reapplied.others name fun other earlier grant found =>
          foreign other (List.mem_append_left _ earlier) grant found
      · rcases List.mem_append.mp inside with earlier | last
        · rw [untouched other earlier grant found]
          exact reapplied.accepted other earlier grant found
        · rw [List.mem_singleton.mp last, found', Option.some.injEq] at found
          subst found
          have unchanged : state grant'.group = before grant'.group :=
            reapplied.others _ fun other earlier grant found =>
              differs other earlier grant grant' found found'
          have held : (state grant'.group).held ⊆ {grant'.network} := by
            rw [unchanged]
            exact tidy.held (named rule (by simp [split])) found'
          rw [accepted honest_noFaults held, NfsState.accept_self, GroupAccess.accept_of_held held]
  | failed _ possible _ => exact absurd possible not_possible_noFaults

/-- Without faults, applying rules with different ids accepts each grant. -/
theorem wp_addNfsRules_reliable {states : RuleStates} {fsName : String}
    (named : ∀ rule ∈ rules, ids.Names rule) (distinct : (rules.map AccessRule.accessId).Nodup)
    (tidy : Exporting fsName (Tidy ids share) w) :
    (rules.foldlM (addNfsRule share fsName) states).wp reliable (passing fun _ => True)
      (ending (fun _ => Exporting fsName (Reapplied share (nfsState fsName w) rules))
        (fun _ _ => False)) w := by
  refine wp_weaken (wp_addNfsRules (fun _ => True)
    (fun visited _ => Reapplied share (nfsState fsName w) visited) ?_ tidy.1 ?_)
    (fun _ _ => trivial) (fun _ _ reached => reached) fun _ _ impossible => impossible
  · intro visited rule rest states state split reapplied
    exact ⟨fun _ _ => trivial, fun states' state' exported =>
      reapplied.step tidy.2 named distinct split exported⟩
  · exact ⟨fun _ _ => rfl, fun _ impossible => by cases impossible⟩

/-- Reapplying and pruning leaves exactly the IPv4 rules if and only if the
exports before were repairable. -/
theorem exact_clear_iff (tidy : Tidy ids share before) (named : ∀ rule ∈ rules, ids.Names rule)
    (reapplied : Reapplied share before rules after) :
    NfsExact share rules (after.clear (Stale share rules after)) ↔
      NfsRepairable share rules before := by
  -- The share's groups that a rule of the list expects are not pruned.
  have expected : ∀ rule ∈ rules, after.clear (Stale share rules after)
      (nfsCgName share.id rule.accessId) = after (nfsCgName share.id rule.accessId) := by
    intro rule member
    have kept : ¬ Stale share rules after (nfsCgName share.id rule.accessId) := fun stale =>
      stale.2.2 (List.mem_map.mpr ⟨rule, member, rfl⟩)
    simp only [NfsState.clear, kept, ↓reduceIte]
  -- A rule that grants nothing has no group.
  have ungranted : ∀ rule ∈ rules, rule.grant? share = none →
      before (nfsCgName share.id rule.accessId) = .absent := by
    intro rule member missing
    by_contra present
    obtain ⟨rule', grant', names', found', group, _⟩ :=
      tidy _ (Text.startsWith_append _ _) present
    rw [(AccessRule.grant?_group found').1] at group
    obtain ⟨_, type, target⟩ := names'.eq (named rule member) group
    obtain ⟨grant, found⟩ := AccessRule.grant?_of_client found' type target
    rw [missing] at found
    cases found
  have unmatched : ∀ name, (∀ rule ∈ rules, ∀ grant, rule.grant? share = some grant →
      name ≠ nfsCgName share.id rule.accessId) → after name = before name := by
    intro name foreign
    apply reapplied.others
    intro rule member grant found same
    rw [(AccessRule.grant?_group found).1] at same
    exact foreign rule member grant found same.symm
  constructor
  · intro exact'
    have addressed : ∀ rule ∈ rules, ¬ rule.Unreadable := by
      intro rule member unreadable
      obtain ⟨grant, found⟩ := unreadable.grant? share
      have group := (AccessRule.grant?_group found).1
      have accepted := reapplied.accepted rule member grant found
      have absent : after.clear (Stale share rules after)
          (nfsCgName share.id rule.accessId) = .absent := by
        apply exact'.nothingElse _ (Text.startsWith_append _ _)
        intro other inside same
        obtain ⟨member', net, denotes⟩ := mem_ipv4Rules.mp inside
        obtain ⟨_, type, target⟩ := (named rule member).eq (named other member') same
        have other' : rule.network? = some net := by
          unfold AccessRule.network? at denotes ⊢
          rw [type, target]
          exact denotes
        exact AccessRule.not_unreadable_of_network? other' unreadable
      rw [expected rule member, ← group] at absent
      rw [absent] at accepted
      cases accepted
    refine ⟨addressed, fun name prefixed present unexported => ?_⟩
    by_contra foreign
    have absent := exact'.nothingElse name prefixed fun rule inside same =>
      foreign ⟨rule, inside, same⟩
    have same : after name = before name := by
      apply unmatched
      intro rule member grant found equal
      rcases AccessRule.grant?_cases found with ⟨net, denotes⟩ | unreadable
      · exact foreign ⟨rule, mem_ipv4Rules.mpr ⟨member, net, denotes⟩, equal⟩
      · exact addressed rule member unreadable
    have kept : ¬ Stale share rules after name := by
      intro stale
      have exported := stale.1
      rw [same, unexported] at exported
      cases exported
    simp only [NfsState.clear, kept, ↓reduceIte] at absent
    rw [← same, absent] at present
    cases present
  · intro repairable
    refine ⟨fun rule member net denotes => ?_, fun name prefixed foreign => ?_⟩
    · have found := AccessRule.grant?_of_network? share denotes
      rw [expected rule member]
      exact reapplied.accepted rule member _ found
    · have unexpected : ∀ rule ∈ rules, ∀ grant, rule.grant? share = some grant →
          name ≠ nfsCgName share.id rule.accessId := by
        intro rule member grant found
        rcases AccessRule.grant?_cases found with ⟨net, denotes⟩ | unreadable
        · exact foreign rule (mem_ipv4Rules.mpr ⟨member, net, denotes⟩)
        · exact absurd unreadable (repairable.addressed rule member)
      have same := unmatched name unexpected
      by_cases stale : Stale share rules after name
      · simp only [NfsState.clear, stale, ↓reduceIte]
      · simp only [NfsState.clear, stale, ↓reduceIte, same]
        by_cases listed : ∃ rule ∈ rules, name = nfsCgName share.id rule.accessId
        · obtain ⟨rule, member, rfl⟩ := listed
          apply ungranted rule member
          cases found : rule.grant? share with
          | none => rfl
          | some grant => exact absurd rfl (unexpected rule member grant found)
        · have unexported : (before name).permission = none := by
            by_contra exported
            apply stale
            rw [← same] at exported
            refine ⟨Option.isSome_iff_ne_none.mpr exported, prefixed, fun member => ?_⟩
            obtain ⟨rule, member', equal⟩ := List.mem_map.mp member
            exact listed ⟨rule, member', equal.symm⟩
          have ungrouped : (before name).networks = none := by
            by_contra grouped
            obtain ⟨rule, inside, equal⟩ := repairable.unorphaned name prefixed
              (Option.isSome_iff_ne_none.mpr grouped) unexported
            exact foreign rule inside equal
          exact GroupAccess.ext ungrouped unexported

/-- A full sync without failures reapplies its rules and prunes the rest. -/
theorem wp_sync_nfs (protocol : share.shareProto = .nfs)
    (named : ∀ rule ∈ rules, ids.Names rule) (distinct : (rules.map AccessRule.accessId).Nodup)
    (tidy : Exporting (cfg.shareName share.id) (Tidy ids share) w) :
    ((AccessUpdate.sync rules).program cfg share).wp reliable (passing fun _ => True)
      (ending
        (fun _ => Exporting (cfg.shareName share.id) fun state => ∃ after,
          Reapplied share (nfsState (cfg.shareName share.id) w) rules after ∧
            state = after.clear (Stale share rules after))
        (fun _ _ => False)) w := by
  rw [AccessUpdate.program_nfs protocol, AccessUpdate.applied_sync, AccessUpdate.fullSync_sync]
  unfold updateNfsAccess
  refine wp_bind_of _ (wp_addNfsRules_reliable named distinct tidy) fun states t reached => ?_
  obtain ⟨rooted', reapplied⟩ := reached
  change (pruneNfsRules cfg share (cfg.shareName share.id) rules >>= fun _ => pure states).wp _ _ _ t
  refine wp_bind_of _ (wp_weaken (wp_pruneNfsRules rooted' rules) (fun _ _ => trivial)
    (fun _ _ reached => reached) fun _ _ raised => not_possible_noFaults raised.1) fun _ u ended => ?_
  exact ⟨ended.1.1, _, reapplied, ended.2 not_possible_noFaults⟩

/-- After any updates of a share that started clean, with any failures, a full
sync without failures leaves exactly its IPv4 rules if and only if the exports
before it were repairable. -/
theorem nfs_fullSync_repairs_iff {fault : Fault} {start : World}
    (clean : NfsClean cfg share start)
    (reached : UpdatesReach cfg share fault ids.NamesAll start w)
    (named : ∀ rule ∈ rules, ids.Names rule)
    (distinct : (rules.map AccessRule.accessId).Nodup) :
    Exporting (cfg.shareName share.id) (NfsExact share rules)
        (((AccessUpdate.sync rules).program cfg share).run respond w).2 ↔
      NfsRepairable share rules (nfsState (cfg.shareName share.id) w) := by
  have tidy := UpdatesReach.tidy clean reached
  have synced := post_run (wp_sync_nfs clean.protocol named distinct tidy)
  cases outcome : (((AccessUpdate.sync rules).program cfg share).run respond w).1 with
  | error error =>
      rw [outcome] at synced
      exact synced.elim
  | ok states =>
      rw [outcome] at synced
      obtain ⟨rooted', after, reapplied, final⟩ := synced
      unfold Exporting
      rw [final]
      exact (and_iff_right rooted').trans (exact_clear_iff tidy.2 named reapplied)

section Sample

/-- The sample rule was added, but its permission could not be created. -/
def groupedNfs : World :=
  ((⟨[sampleRule], [sampleRule], [], []⟩ : AccessUpdate).program sampleConfig
    (sampleShare .nfs)).runScript respond apiFaults
      [none, none, none, none, some (.api (.generic 503 "unavailable"))] sampleNfs |>.2

/-- Then it was deleted. -/
def orphanNfs : World :=
  ((⟨[], [], [sampleRule], []⟩ : AccessUpdate).program sampleConfig (sampleShare .nfs)).run respond
    groupedNfs |>.2

private theorem orphanNfs_reached : UpdatesReach sampleConfig (sampleShare .nfs) apiFaults
    sampleIds.NamesAll sampleNfs orphanNfs := by
  have named : ∀ rule ∈ [sampleRule], sampleIds.Names rule := by
    intro rule member
    rw [List.mem_singleton.mp member]
    exact sampleIds_sampleRule
  refine (UpdatesReach.start.update ?_ (exec_runScript _ _ _)).update ?_ (exec_run _ _)
  · intro rule member
    apply named
    simpa [AccessUpdate.rules] using member
  · intro rule member
    apply named
    simpa [AccessUpdate.rules] using member

/-- A sync of the sample rule repairs what is left. -/
theorem nfs_fullSync_repairs_sample :
    Exporting (sampleConfig.shareName (sampleShare .nfs).id)
        (NfsExact (sampleShare .nfs) [sampleRule])
        (((AccessUpdate.sync [sampleRule]).program sampleConfig (sampleShare .nfs)).run respond
          orphanNfs).2 ↔
      NfsRepairable (sampleShare .nfs) [sampleRule]
        (nfsState (sampleConfig.shareName (sampleShare .nfs).id) orphanNfs) :=
  nfs_fullSync_repairs_iff sampleNfs_clean orphanNfs_reached
    (fun rule member => by
      rw [List.mem_singleton.mp member]
      exact sampleIds_sampleRule)
    (by decide)

/-- A sync without rules leaves the orphaned group in place. -/
theorem nfs_fullSync_leaves_orphan :
    NfsClean sampleConfig (sampleShare .nfs) sampleNfs ∧
    UpdatesReach sampleConfig (sampleShare .nfs) apiFaults sampleIds.NamesAll sampleNfs
      orphanNfs ∧
    ¬ Exporting (sampleConfig.shareName (sampleShare .nfs).id) (NfsExact (sampleShare .nfs) [])
      (((AccessUpdate.sync []).program sampleConfig (sampleShare .nfs)).run respond
        orphanNfs).2 := by
  refine ⟨sampleNfs_clean, orphanNfs_reached, fun exact' => ?_⟩
  have absent := exact'.2.nothingElse
    (nfsCgName (sampleShare .nfs).id sampleRule.accessId) (Text.startsWith_append _ _)
    fun _ impossible => by cases impossible
  have present : (nfsState (sampleConfig.shareName (sampleShare .nfs).id)
      (((AccessUpdate.sync []).program sampleConfig (sampleShare .nfs)).run respond orphanNfs).2
        (nfsCgName (sampleShare .nfs).id sampleRule.accessId)).networks.isSome = true := by decide
  rw [absent] at present
  cases present

end Sample

end WekaShareDriver
