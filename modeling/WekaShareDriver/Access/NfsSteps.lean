import WekaShareDriver.Access.LiveRules
import WekaShareDriver.Access.NfsRepair

/-! # The exports between two lists of rules

While the rules of a share change from one list to another, an IPv4 rule of both
lists keeps its grant, and every permission belongs to a rule of one of the lists
(`WekaShareDriver.NfsBetween`). Every call of an update leaves such exports, as
long as no deleted rule's id occurs in the group name of a rule that stays
(`WekaShareDriver.Undisturbed`).
-/

namespace WekaShareDriver

open Foundation Program

/-- The exports are exactly what the driver makes for some rules. -/
structure NfsConsistent (share : Share) (rules : List AccessRule) (state : NfsState) : Prop where
  backed : ∀ rule ∈ rules, ∀ grant, rule.grant? share = some grant →
    state grant.group = ⟨some {grant.network}, some grant.type⟩
  others : ∀ name, (∀ rule ∈ rules, ∀ grant, rule.grant? share = some grant →
    grant.group ≠ name) → (state name).permission = none ∧
      (Text.startsWith name (nfsCgPrefix share.id) = true → state name = .absent)

/-- The exports while the rules change from one list to another. -/
structure NfsBetween (ids : AccessIds) (share : Share) (before after : List AccessRule)
    (state : NfsState) : Prop where
  tidy : Tidy ids share state
  kept : ∀ rule ∈ before, rule ∈ after → (∃ net, rule.network? = some net) →
    ∀ grant, rule.grant? share = some grant →
      (state grant.group).Grants grant.network grant.type
  permitted : ∀ name type, (state name).permission = some type →
    ∃ rule grant, (rule ∈ before ∨ rule ∈ after) ∧ rule.grant? share = some grant ∧
      grant.group = name ∧ grant.type = type

/-- No deleted rule's id occurs in the group name of an IPv4 rule that stays. -/
def Undisturbed (share : Share) (update : AccessUpdate) (before : List AccessRule) : Prop :=
  ∀ rule ∈ before, rule ∈ update.result before → (∃ net, rule.network? = some net) →
    ∀ rule' ∈ update.deleteRules,
      Text.contains (nfsCgName share.id rule.accessId) (Text.take rule'.accessId 8) = false

variable {cfg : Config} {share : Share} {ids : AccessIds} {w : World} {update : AccessUpdate}
  {before after rules : List AccessRule} {rule rule' : AccessRule} {grant : Grant}
  {state state' : NfsState}

/-- A grant's network reads back as the rule's. -/
theorem network?_grant (found : rule.grant? share = some grant) :
    network? grant.network = rule.network? := by
  obtain ⟨ipv4, wekaIp, read, same⟩ := AccessRule.grant?_eq_some_iff.mp found
  rcases AccessRule.grant?_cases found with ⟨net, denotes⟩ | unreadable
  · have granted := AccessRule.grant?_of_network? share denotes
    rw [found, Option.some.injEq] at granted
    rw [granted, denotes]
    exact network?_networkText net
  · obtain ⟨_, bare, unparsed⟩ := unreadable
    have text : wekaIp = rule.accessTo := by
      rw [cidrToWekaIp, if_pos bare] at read
      exact (Except.ok.inj read).symm
    have stored : network? (storedRule rule.accessTo) = none := by
      rw [network?, storedRule, if_neg bare, String.toList_append]
      exact (Ipv4.parseNetwork_full_mask bare).trans unparsed
    rw [same, text, normWekaIp, stored]
    rw [AccessRule.network?, if_pos (AccessRule.isIpv4_iff.mp ipv4).1, unparsed]
    exact stored

/-- Exports made for rules with ids in use are tidy. -/
theorem NfsConsistent.tidy (consistent : NfsConsistent share rules state)
    (named : ∀ rule ∈ rules, ids.Names rule) : Tidy ids share state := by
  intro name prefixed present
  by_contra none
  apply present
  refine (consistent.others name fun rule member grant found equal => none ?_).2 prefixed
  refine ⟨rule, grant, named rule member, found, equal, ?_⟩
  rw [← equal, consistent.backed rule member grant found]
  exact Finset.Subset.refl _

/-- Rules applied to a clean share leave it consistent. -/
theorem Reapplied.consistent {base : NfsState} (reapplied : Reapplied share base rules state)
    (clean : ∀ name, (base name).permission = none ∧
      (Text.startsWith name (nfsCgPrefix share.id) = true → base name = .absent)) :
    NfsConsistent share rules state := by
  refine ⟨reapplied.accepted, fun name foreign => ?_⟩
  rw [reapplied.others name foreign]
  exact clean name

/-- Before anything is changed. -/
theorem NfsConsistent.between (consistent : NfsConsistent share before state)
    (named : ∀ rule ∈ before, ids.Names rule) : NfsBetween ids share before after state := by
  refine ⟨consistent.tidy named, fun rule inside _ _ grant found => ?_, fun name type exported => ?_⟩
  · rw [consistent.backed rule inside grant found]
    exact ⟨Finset.mem_singleton_self _, rfl⟩
  · by_contra foreign
    have unexported := (consistent.others name fun rule member grant found equal => foreign ?_).1
    · rw [unexported] at exported
      cases exported
    · refine ⟨rule, grant, Or.inl member, found, equal, ?_⟩
      rw [← equal, consistent.backed rule member grant found] at exported
      exact Option.some.inj exported

/-- Applying a rule of the new list keeps the exports between the lists. -/
theorem NfsBetween.exports (between : NfsBetween ids share before after state)
    (named : ∀ rule ∈ after, ids.Names rule) (compatible : Compatible after)
    (member : rule' ∈ after) (step : Exports share state rule' state') :
    NfsBetween ids share before after state' := by
  refine ⟨between.tidy.exports (named rule' member) step, ?_, ?_⟩
  · intro rule inside stays denotes grant found
    have granted := between.kept rule inside stays denotes grant found
    cases found' : rule'.grant? share with
    | none =>
        rw [(exports_of_missing found').mp step]
        exact granted
    | some grant' =>
        rw [exports_of_found found'] at step
        by_cases own : grant.group = grant'.group
        · have groups := own
          rw [(AccessRule.grant?_group found).1, (AccessRule.grant?_group found').1] at groups
          have same := compatible.eq_of_id stays member
            ((named rule stays).eq (named rule' member) groups).1
          subst same
          rw [found, Option.some.injEq] at found'
          subst found'
          exact step.group.grants granted
        · rw [step.of_ne own]
          exact granted
  · intro name type exported
    cases found' : rule'.grant? share with
    | none =>
        rw [(exports_of_missing found').mp step] at exported
        exact between.permitted name type exported
    | some grant' =>
        rw [exports_of_found found'] at step
        by_cases own : name = grant'.group
        · subst own
          rcases step.group.permission with same | given | ⟨_, withdrawn⟩
          · rw [same] at exported
            exact between.permitted _ type exported
          · rw [given, Option.some.injEq] at exported
            exact ⟨rule', grant', Or.inr member, found', rfl, exported⟩
          · rw [withdrawn] at exported
            cases exported
        · rw [step.of_ne own] at exported
          exact between.permitted name type exported

/-- Clearing groups of other rules keeps the exports between the lists. -/
theorem NfsBetween.clearing {matching : String → Prop}
    (between : NfsBetween ids share before after state)
    (spared : ∀ rule ∈ before, rule ∈ after → (∃ net, rule.network? = some net) →
      ¬ matching (nfsCgName share.id rule.accessId))
    (step : state.Clearing matching state') : NfsBetween ids share before after state' := by
  refine ⟨between.tidy.clearing step, ?_, ?_⟩
  · intro rule inside stays denotes grant found
    have unmatched := spared rule inside stays denotes
    rw [← (AccessRule.grant?_group found).1] at unmatched
    rw [step.of_not unmatched]
    exact between.kept rule inside stays denotes grant found
  · intro name type exported
    rcases (step.retracting name).permission with gone | same
    · rw [gone] at exported
      cases exported
    · rw [same] at exported
      exact between.permitted name type exported

/-- Every call of an undisturbed update leaves the exports between the rules
before it and those after it. -/
theorem wp_updateNfsAccess_between {fault : Fault}
    (compatible : Compatible (update.result before ++ update.deleteRules))
    (named : ∀ rule ∈ update.result before, ids.Names rule)
    (undisturbed : Undisturbed share update before)
    (here : Exporting (cfg.shareName share.id)
      (NfsBetween ids share before (update.result before)) w) :
    (updateNfsAccess cfg share update.applied update.deleteRules update.fullSync).wp
      (service fault)
      (passing (Exporting (cfg.shareName share.id)
        (NfsBetween ids share before (update.result before))))
      (ending
        (fun _ => Exporting (cfg.shareName share.id)
          (NfsBetween ids share before (update.result before)))
        (fun _ => Exporting (cfg.shareName share.id)
          (NfsBetween ids share before (update.result before)))) w := by
  apply wp_updateNfsAccess_invariant here.1
  · intro rule applied state state' between step
    exact between.exports named compatible.left (AccessUpdate.applied_subset_result applied) step
  · intro rule' deleted state state' between step
    refine between.clearing (fun rule inside stays denotes doomed => ?_) step
    have within : Text.contains (nfsCgName share.id rule.accessId)
      (Text.take rule'.accessId 8) = true := doomed.2
    rw [undisturbed rule inside stays denotes rule' deleted] at within
    cases within
  · intro full state state' between step
    refine between.clearing (fun rule inside stays denotes stale => ?_) step
    rw [AccessUpdate.result, if_pos full] at stays
    exact stale.2.2 (List.mem_map_of_mem stays)
  · exact here.2

end WekaShareDriver
