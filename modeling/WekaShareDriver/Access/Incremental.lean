import WekaShareDriver.Access.InForce
import WekaShareDriver.Access.LiveRules
import WekaShareDriver.Access.NfsRepair
import WekaShareDriver.Access.WekafsRepair

/-! # Incremental updates and full synchronization

A share without access state may get to a list of rules through many incremental
requests or through one full sync. Without failures the cluster ends up with the
same access state (`WekaShareDriver.incremental_agrees_with_sync`): after every
request it holds exactly the rules alive by then.
-/

namespace WekaShareDriver

open Foundation Program

variable {cfg : Config} {share : Share} {ids : AccessIds} {fsUid : Uid} {start w : World}
  {update : AccessUpdate} {before live rules : List AccessRule}

/-- Incremental requests without failures, and the rules alive after them. -/
inductive IncrementalRun (cfg : Config) (share : Share) (ids : AccessIds) (start : World) :
    List AccessRule → World → Prop where
  | start : IncrementalRun cfg share ids start [] start
  | update {live : List AccessRule} {w : World} {update : AccessUpdate}
      (reached : IncrementalRun cfg share ids start live w)
      (incremental : update.fullSync = false) (named : ids.NamesAll update)
      (compatible : Compatible (update.live live ++ update.deleteRules)) :
      IncrementalRun cfg share ids start (update.live live)
        ((update.program cfg share).run respond w).2

/-- The rules alive name the clients of their ids and are compatible. -/
theorem IncrementalRun.alive (run : IncrementalRun cfg share ids start live w) :
    (∀ rule ∈ live, ids.Names rule) ∧ Compatible live := by
  induction run with
  | start =>
      refine ⟨fun _ impossible => ?_, List.nodup_nil, List.nodup_nil, List.Pairwise.nil⟩
      cases impossible
  | update _ _ named compatible ih =>
      exact ⟨AccessUpdate.names_live named ih.1, compatible.left⟩

section Wekafs

/-- What a request does to the addresses of the rules alive. -/
theorem mem_policyRules_live (named : ids.NamesAll update)
    (earlier : ∀ rule ∈ before, ids.Names rule)
    (compatible : Compatible (update.live before ++ update.deleteRules)) (level : Level)
    (ip : String) :
    (level, ip) ∈ policyRules (update.live before) ↔
      ((level, ip) ∈ policyRules update.applied ∨
        ip ∈ PolicyState.ruleSet (policyRules before) level ∧
          (level.other, ip) ∉ policyRules update.applied) ∧
        ip ∉ policyTargets update.deleteRules := by
  rw [PolicyState.mem_ruleSet]
  constructor
  · intro member
    obtain ⟨rule, alive, found⟩ := mem_policyRules.mp member
    have target := (policyRule?_eq_some_iff.mp found).1
    refine ⟨?_, fun removed => ?_⟩
    · rcases AccessUpdate.mem_live.mp alive with applied | ⟨inside, _⟩
      · exact Or.inl (mem_policyRules.mpr ⟨rule, applied, found⟩)
      · by_cases again : rule ∈ update.applied
        · exact Or.inl (mem_policyRules.mpr ⟨rule, again, found⟩)
        · refine Or.inr ⟨mem_policyRules.mpr ⟨rule, inside, found⟩, fun moved => ?_⟩
          obtain ⟨rule', applied', found'⟩ := mem_policyRules.mp moved
          have kept : rule ∈ before.filter fun rule => rule.accessId ∉
              (update.applied ++ update.deleteRules).map AccessRule.accessId := by
            rcases List.mem_append.mp alive with kept | applied
            · exact kept
            · exact absurd applied again
          exact compatible.left.target_ne kept applied' target
            (policyRule?_eq_some_iff.mp found').1
    · obtain ⟨rule', deleted, target'⟩ := mem_policyTargets.mp removed
      exact compatible.target_ne alive deleted target target'
  · intro changed
    obtain ⟨applied | ⟨old, unmoved⟩, undeleted⟩ := changed
    · obtain ⟨rule, applied, found⟩ := mem_policyRules.mp applied
      exact mem_policyRules.mpr ⟨rule, AccessUpdate.mem_live.mpr (Or.inl applied), found⟩
    · obtain ⟨rule, inside, found⟩ := mem_policyRules.mp old
      obtain ⟨target, placed⟩ := policyRule?_eq_some_iff.mp found
      by_cases mentioned : ∃ rule' ∈ update.applied, rule'.accessId = rule.accessId
      · -- The rule has a new level, which can only be the old one.
        obtain ⟨rule', applied', same⟩ := mentioned
        have target' : rule'.target? = some ip := by
          rw [(named rule' (AccessUpdate.applied_subset applied')).target?_eq
            (earlier rule inside) same, target]
        rcases Level.eq_or_eq_other rule'.accessLevel level with equal | opposite
        · exact mem_policyRules.mpr ⟨rule', AccessUpdate.mem_live.mpr (Or.inl applied'),
            policyRule?_eq_some_iff.mpr ⟨target', equal.symm⟩⟩
        · refine absurd (mem_policyRules.mpr ⟨rule', applied', ?_⟩) unmoved
          refine policyRule?_eq_some_iff.mpr ⟨target', ?_⟩
          rw [opposite, Level.other_other]
      · refine mem_policyRules.mpr ⟨rule, AccessUpdate.mem_live.mpr (Or.inr ⟨inside, ?_, ?_⟩), found⟩
        · exact fun rule' applied' same => mentioned ⟨rule', applied', same⟩
        · intro rule' deleted same
          apply undeleted
          refine mem_policyTargets.mpr ⟨rule', deleted, ?_⟩
          rw [(named rule' (AccessUpdate.deleteRules_subset deleted)).target?_eq
            (earlier rule inside) same, target]

/-- What an incremental request does to the policies of a ready share. -/
theorem wp_incremental_wekafs (ready : WekafsReady cfg share fsUid w)
    (incremental : update.fullSync = false) :
    (update.program cfg share).wp reliable
      (passing fun u => WekafsReady cfg share fsUid u ∧ True)
      (ending
        (fun _ t => WekafsReady cfg share fsUid t ∧ sharePolicies cfg share fsUid t =
          ((sharePolicies cfg share fsUid w).applyAll (policyRules update.applied)).removeAll
            (policyTargets update.deleteRules))
        (fun _ _ => False)) w := by
  rw [update.program_wekafs ready.protocol, incremental]
  apply wp_updateWekafsAccess ready (fun _ => True) trivial
  · intro _ t possible
    exact absurd possible not_possible_noFaults
  intro t ready' same
  refine wp_weaken (wp_updateWekafsPolicies_ready ready' wp_updateWekafsPolicies_incremental)
    (fun _ passed => ⟨passed.1, trivial⟩) ?_ fun _ _ raised => raised.2
  intro _ u reached
  obtain ⟨there, _, changed⟩ := reached
  rw [← same]
  exact ⟨there, changed⟩

/-- Between incremental requests the policies are exactly the rules alive. -/
theorem IncrementalRun.wekafs (ready : WekafsReady cfg share fsUid start)
    (clean : sharePolicies cfg share fsUid start = fun _ => none)
    (run : IncrementalRun cfg share ids start live w) :
    WekafsReady cfg share fsUid w ∧
      (sharePolicies cfg share fsUid w).Holds (PolicyState.ruleSet (policyRules live)) ∧
      (sharePolicies cfg share fsUid w).Flagged := by
  induction run with
  | start =>
      refine ⟨ready, ?_, ?_⟩
      · rw [clean]
        exact ⟨fun _ => rfl, fun _ => by simp [policyRules, PolicyState.ruleSet],
          fun _ _ impossible => by cases impossible⟩
      · rw [clean]
        exact fun _ _ impossible => by cases impossible
  | @update live w update reached incremental named compatible ih =>
      obtain ⟨ready', holds, flagged⟩ := ih
      have ended := post_run (wp_incremental_wekafs ready' incremental)
      cases outcome : ((update.program cfg share).run respond w).1 with
      | error error =>
          rw [outcome] at ended
          exact ended.elim
      | ok states =>
          rw [outcome] at ended
          obtain ⟨there, changed⟩ := ended
          have distinct : ((policyRules update.applied).map Prod.snd).Nodup := by
            have targets := compatible.left.targets
            unfold AccessUpdate.live policyTargets at targets
            rw [List.filterMap_append] at targets
            rw [map_snd_policyRules]
            exact (List.nodup_append.mp targets).2.1
          refine ⟨there, ?_, ?_⟩
          · rw [changed]
            exact holds.update distinct (mem_policyRules_live named reached.alive.1 compatible)
          · rw [changed]
            exact PolicyState.flagged_removeAll (PolicyState.flagged_applyAll flagged)

/-- A full sync of a share without policies leaves exactly its rules, also when
a malformed rule stops it. -/
theorem Synced.of_clean {after : PolicyState String}
    (synced : Synced rules (fun _ => none) after) (compatible : Compatible rules) :
    after.Holds (PolicyState.ruleSet (policyRules rules)) ∧ after.Flagged := by
  have distinct : ((policyRules rules).map Prod.snd).Nodup := by
    rw [map_snd_policyRules]
    exact compatible.targets
  have nothing : ∀ level, ¬ PolicyState.Leftover (fun _ => none : PolicyState String) level := by
    intro level leftover
    obtain ⟨_, impossible, _⟩ := leftover
    cases impossible
  have flagged : PolicyState.Flagged (fun _ => none : PolicyState String) :=
    fun _ _ impossible => by cases impossible
  cases synced with
  | pruned _ listing complete =>
      exact ⟨(PolicyState.holds_prune_applyAll distinct complete).mpr (Or.inr nothing),
        PolicyState.flagged_prune (PolicyState.flagged_applyAll flagged)⟩
  | stopped _ =>
      refine ⟨(PolicyState.holds_applyAll distinct).mpr ⟨Or.inr nothing, ?_⟩,
        PolicyState.flagged_applyAll flagged⟩
      intro _ _ listed
      obtain ⟨_, impossible, _⟩ := listed
      cases impossible

end Wekafs

section Nfs

variable {base state after after' : NfsState}

/-- The exported groups whose name contains the start of a deleted rule's id. -/
def DoomedAll (deleteRules : List AccessRule) (state : NfsState) : String → Prop :=
  state.Exported fun name =>
    ∃ rule ∈ deleteRules, Text.contains name (Text.take rule.accessId 8) = true

instance (deleteRules : List AccessRule) (state : NfsState) :
    DecidablePred (DoomedAll deleteRules state) :=
  inferInstanceAs (DecidablePred (state.Exported _))

/-- A group's name contains the start of its rule's id. -/
theorem contains_nfsCgName (shareId id : String) :
    Text.contains (nfsCgName shareId id) (Text.take id 8) = true := by
  rw [Text.contains_iff, nfsCgName, String.toList_append]
  exact (List.suffix_append _ _).isInfix

/-- Clearing for one more deleted rule. -/
theorem clear_doomedAll (visited : List AccessRule) (rule : AccessRule) :
    (state.clear (DoomedAll visited state)).clear
        (Doomed rule (state.clear (DoomedAll visited state))) =
      state.clear (DoomedAll (visited ++ [rule]) state) := by
  funext name
  by_cases earlier : DoomedAll visited state name
  · have later : DoomedAll (visited ++ [rule]) state name := by
      obtain ⟨exported, other, inside, within⟩ := earlier
      exact ⟨exported, other, List.mem_append_left _ inside, within⟩
    simp only [NfsState.clear, earlier, later, ↓reduceIte, ite_self]
  · have same : state.clear (DoomedAll visited state) name = state name := by
      simp only [NfsState.clear, earlier, ↓reduceIte]
    by_cases doomed : Doomed rule (state.clear (DoomedAll visited state)) name
    · have later : DoomedAll (visited ++ [rule]) state name := by
        obtain ⟨exported, within⟩ := doomed
        rw [same] at exported
        exact ⟨exported, rule, by simp, within⟩
      simp only [NfsState.clear] at doomed ⊢
      rw [if_pos doomed, if_pos later]
    · have later : ¬ DoomedAll (visited ++ [rule]) state name := by
        intro later
        obtain ⟨exported, other, inside, within⟩ := later
        rcases List.mem_append.mp inside with visited' | last
        · exact earlier ⟨exported, other, visited', within⟩
        · rw [List.mem_singleton.mp last] at within
          refine doomed ⟨?_, within⟩
          rw [same]
          exact exported
      simp only [NfsState.clear] at doomed ⊢
      rw [if_neg doomed, if_neg later, if_neg earlier]

/-- Where no rule is deleted, nothing is cleared. -/
theorem clear_doomedAll_nil (state : NfsState) : state.clear (DoomedAll [] state) = state := by
  funext name
  have none : ¬ DoomedAll [] state name := by
    intro doomed
    obtain ⟨_, _, impossible, _⟩ := doomed
    cases impossible
  simp only [NfsState.clear, none, ↓reduceIte]

/-- Without faults all rules to delete are removed, with all groups that take them for theirs. -/
theorem wp_removeNfsRules_reliable {fsName : String} {deleteRules : List AccessRule}
    (rooted : Rooted fsName w) :
    (deleteRules.forM fun rule =>
        (tryCatch (removeNfsRule cfg fsName rule) fun _ => pure () : Driver Unit)).wp reliable
      (passing fun _ => True)
      (ending
        (fun _ => Exporting fsName fun state =>
          state = (nfsState fsName w).clear (DoomedAll deleteRules (nfsState fsName w)))
        (fun _ _ => False)) w := by
  refine wp_weaken (wp_removeNfsRules (fun _ => True) (fun visited state =>
    state = (nfsState fsName w).clear (DoomedAll visited (nfsState fsName w))) ?_ rooted ?_)
    (fun _ _ => trivial) (fun _ _ left => left) fun _ _ impossible => impossible
  · intro visited rule rest state split same
    refine ⟨fun _ _ => trivial, fun state' _ cleared => ?_⟩
    rw [cleared not_possible_noFaults, same, clear_doomedAll]
  · exact (clear_doomedAll_nil _).symm

/-- What an incremental request does to a tidy share. -/
theorem wp_incremental_nfs (protocol : share.shareProto = .nfs)
    (incremental : update.fullSync = false) (named : ids.NamesAll update)
    (distinct : (update.applied.map AccessRule.accessId).Nodup)
    (tidy : Exporting (cfg.shareName share.id) (Tidy ids share) w) :
    (update.program cfg share).wp reliable (passing fun _ => True)
      (ending
        (fun _ => Exporting (cfg.shareName share.id) fun state => ∃ after,
          Reapplied share (nfsState (cfg.shareName share.id) w) update.applied after ∧
            state = after.clear (DoomedAll update.deleteRules after))
        (fun _ _ => False)) w := by
  rw [update.program_nfs protocol, incremental]
  unfold updateNfsAccess
  have names : ∀ rule ∈ update.applied, ids.Names rule :=
    fun rule member => named rule (AccessUpdate.applied_subset member)
  refine wp_bind_of _ (wp_addNfsRules_reliable names distinct tidy) fun states t reached => ?_
  obtain ⟨rooted, reapplied⟩ := reached
  refine wp_bind_of _ (wp_removeNfsRules_reliable rooted) fun _ u left => ?_
  exact ⟨left.1, _, reapplied, left.2⟩

/-- The rules alive determine the exports. -/
theorem Reapplied.ext (reapplied : Reapplied share base live after)
    (reapplied' : Reapplied share base rules after') (same : ∀ rule, rule ∈ live ↔ rule ∈ rules) :
    after = after' := by
  funext name
  by_cases granted : ∃ rule ∈ live, ∃ grant, rule.grant? share = some grant ∧ grant.group = name
  · obtain ⟨rule, member, grant, found, rfl⟩ := granted
    rw [reapplied.accepted rule member grant found,
      reapplied'.accepted rule ((same rule).mp member) grant found]
  · have foreign : ∀ rule ∈ live, ∀ grant, rule.grant? share = some grant → grant.group ≠ name :=
      fun rule member grant found equal => granted ⟨rule, member, grant, found, equal⟩
    rw [reapplied.others name foreign]
    exact (reapplied'.others name fun rule member => foreign rule ((same rule).mpr member)).symm

/-- An incremental request takes the exports of the rules alive before it to
those of the rules alive after it. -/
theorem Reapplied.incremental (uuids : ids.Uuids share) (named : ids.NamesAll update)
    (earlier : ∀ rule ∈ before, ids.Names rule)
    (compatible : Compatible (update.live before ++ update.deleteRules))
    (clean : ∀ name, (base name).permission = none ∧
      (Text.startsWith name (nfsCgPrefix share.id) = true → base name = .absent))
    (holds : Reapplied share base before state) (applied : Reapplied share state update.applied after) :
    Reapplied share base (update.live before)
      (after.clear (DoomedAll update.deleteRules after)) := by
  have names := AccessUpdate.names_live named earlier
  constructor
  · intro name foreign
    have unapplied : after name = state name := applied.others name fun rule member =>
      foreign rule (AccessUpdate.mem_live.mpr (Or.inl member))
    by_cases owned : ∃ rule ∈ before, ∃ grant, rule.grant? share = some grant ∧ grant.group = name
    · obtain ⟨rule, inside, grant, found, rfl⟩ := owned
      have group := (AccessRule.grant?_group found).1
      have absent : base grant.group = .absent := by
        apply (clean grant.group).2
        rw [group]
        exact Text.startsWith_append _ _
      -- The rule is not alive any more, and no rule replaced it.
      have deleted : ∃ rule' ∈ update.deleteRules, rule'.accessId = rule.accessId := by
        by_contra undeleted
        apply foreign rule _ grant found rfl
        refine AccessUpdate.mem_live.mpr (Or.inr ⟨inside, fun rule' member same => ?_,
          fun rule' member same => undeleted ⟨rule', member, same⟩⟩)
        have names' := named rule' (AccessUpdate.applied_subset member)
        obtain ⟨type, target⟩ := (earlier rule inside).client_eq names' same.symm
        obtain ⟨grant', found'⟩ := AccessRule.grant?_of_client found type target
        apply foreign rule' (AccessUpdate.mem_live.mpr (Or.inl member)) grant' found'
        rw [(AccessRule.grant?_group found').1, group, same]
      obtain ⟨rule', member, same⟩ := deleted
      have doomed : DoomedAll update.deleteRules after grant.group := by
        refine ⟨?_, rule', member, ?_⟩
        · rw [unapplied, holds.accepted rule inside grant found]
          rfl
        · rw [group, same]
          exact contains_nfsCgName _ _
      rw [absent]
      simp only [NfsState.clear, doomed, ↓reduceIte]
    · have untouched : after name = base name := unapplied.trans
        (holds.others name fun rule inside grant found equal =>
          owned ⟨rule, inside, grant, found, equal⟩)
      have kept : ¬ DoomedAll update.deleteRules after name := by
        intro doomed
        have exported := doomed.1
        rw [untouched, (clean name).1] at exported
        cases exported
      simp only [NfsState.clear, kept, ↓reduceIte]
      exact untouched
  · intro rule member grant found
    have group := (AccessRule.grant?_group found).1
    have kept : ¬ DoomedAll update.deleteRules after grant.group := by
      intro doomed
      obtain ⟨_, rule', deleted, within⟩ := doomed
      rw [group] at within
      have names' := named rule' (AccessUpdate.deleteRules_subset deleted)
      have same := uuids.eq_of_contains names'.1 (names rule member).1 within
      exact compatible.id_ne member deleted same.symm
    simp only [NfsState.clear, kept, ↓reduceIte]
    rcases AccessUpdate.mem_live.mp member with inside | ⟨inside, unapplied, _⟩
    · exact applied.accepted rule inside grant found
    · rw [applied.others]
      · exact holds.accepted rule inside grant found
      · intro rule' member' grant' found' same
        rw [group, (AccessRule.grant?_group found').1] at same
        have names' := named rule' (AccessUpdate.applied_subset member')
        exact unapplied rule' member' (names'.eq (names rule member) same).1

/-- Without failures incremental requests are runs of updates. -/
theorem IncrementalRun.reach (run : IncrementalRun cfg share ids start live w) :
    UpdatesReach cfg share noFaults ids.NamesAll start w := by
  induction run with
  | start => exact .start
  | update _ _ named _ ih => exact ih.update named (exec_run _ _)

/-- Between incremental requests the exports are exactly the rules alive. -/
theorem IncrementalRun.nfs (clean : NfsClean cfg share start) (uuids : ids.Uuids share)
    (run : IncrementalRun cfg share ids start live w) :
    Reapplied share (nfsState (cfg.shareName share.id) start) live
      (nfsState (cfg.shareName share.id) w) := by
  induction run with
  | start => exact ⟨fun _ _ => rfl, fun _ impossible => by cases impossible⟩
  | @update live w update reached incremental named compatible ih =>
      have distinct : (update.applied.map AccessRule.accessId).Nodup := by
        have ids := compatible.left.ids
        unfold AccessUpdate.live at ids
        rw [List.map_append] at ids
        exact (List.nodup_append.mp ids).2.1
      have ended := post_run (wp_incremental_nfs clean.protocol incremental named distinct
        (UpdatesReach.tidy clean reached.reach))
      cases outcome : ((update.program cfg share).run respond w).1 with
      | error error =>
          rw [outcome] at ended
          exact ended.elim
      | ok states =>
          rw [outcome] at ended
          obtain ⟨_, after, applied, final⟩ := ended
          rw [final]
          exact ih.incremental uuids named reached.alive.1 compatible clean.nothing applied

/-- A full sync of a clean share leaves exactly its rules. -/
theorem sync_nfs_clean (clean : NfsClean cfg share start) (named : ∀ rule ∈ rules, ids.Names rule)
    (distinct : (rules.map AccessRule.accessId).Nodup) :
    Exporting (cfg.shareName share.id)
      (Reapplied share (nfsState (cfg.shareName share.id) start) rules)
      (((AccessUpdate.sync rules).program cfg share).run respond start).2 := by
  have ended := post_run (wp_sync_nfs clean.protocol named distinct ⟨clean.rooted, clean.tidy⟩)
  cases outcome : (((AccessUpdate.sync rules).program cfg share).run respond start).1 with
  | error error =>
      rw [outcome] at ended
      exact ended.elim
  | ok states =>
      rw [outcome] at ended
      obtain ⟨rooted, after, reapplied, final⟩ := ended
      have unpruned : after.clear (Stale share rules after) = after := by
        funext name
        have kept : ¬ Stale share rules after name := by
          intro stale
          obtain ⟨exported, _, unexpected⟩ := stale
          rw [reapplied.others name, (clean.nothing name).1] at exported
          · cases exported
          · intro rule member grant found equal
            apply unexpected
            rw [← equal, (AccessRule.grant?_group found).1]
            exact List.mem_map_of_mem member
        simp only [NfsState.clear, kept, ↓reduceIte]
      rw [unpruned] at final
      rw [Exporting, final]
      exact ⟨rooted, reapplied⟩

end Nfs

/-- The same access state: over NFS the same permissions of the share's
filesystem to every group and the same networks in every group, over WEKAFS the
same policies with the same addresses, flags and attachments. -/
def SameAccess (cfg : Config) (share : Share) (fsUid : Uid) (w t : World) : Prop :=
  match share.shareProto with
  | .nfs => ∀ group,
      groupPermissions (cfg.shareName share.id) group w =
        groupPermissions (cfg.shareName share.id) group t ∧
      (w.cluster.clientGroups.find? group).map (fun entry => entry.val.networks) =
        (t.cluster.clientGroups.find? group).map fun entry => entry.val.networks
  | _ => sharePolicies cfg share fsUid w = sharePolicies cfg share fsUid t

/-- A share of one of the two protocols without any access state. -/
def Bare (cfg : Config) (share : Share) (fsUid : Uid) (w : World) : Prop :=
  (WekafsReady cfg share fsUid w ∧ sharePolicies cfg share fsUid w = fun _ => none) ∨
    NfsClean cfg share w

/-- Incremental requests without failures leave the access state that one full
sync of the rules alive, in any order, would have produced. -/
theorem incremental_agrees_with_sync (bare : Bare cfg share fsUid start) (uuids : ids.Uuids share)
    (run : IncrementalRun cfg share ids start live w) (same : rules.Perm live) :
    SameAccess cfg share fsUid w (((AccessUpdate.sync rules).program cfg share).run respond start).2
    := by
  obtain ⟨named, compatible⟩ := run.alive
  rcases bare with ⟨ready, clean⟩ | clean
  · obtain ⟨_, holds, flagged⟩ := run.wekafs ready clean
    have synced : Synced rules (sharePolicies cfg share fsUid start) (sharePolicies cfg share fsUid
        (((AccessUpdate.sync rules).program cfg share).run respond start).2) :=
      post_run (wp_sync_wekafs ready)
    rw [clean] at synced
    obtain ⟨holds', flagged'⟩ := synced.of_clean (compatible.perm same.symm)
    have sets : PolicyState.ruleSet (policyRules rules) =
        PolicyState.ruleSet (policyRules live) := by
      funext level
      ext ip
      rw [PolicyState.mem_ruleSet, PolicyState.mem_ruleSet]
      exact (same.filterMap _).mem_iff
    rw [sets] at holds'
    unfold SameAccess
    rw [ready.protocol]
    exact holds.ext holds' flagged flagged'
  · have named' : ∀ rule ∈ rules, ids.Names rule := fun rule member =>
      named rule (same.mem_iff.mp member)
    have distinct : (rules.map AccessRule.accessId).Nodup :=
      (same.map _).nodup_iff.mpr compatible.ids
    obtain ⟨rooted, synced⟩ := sync_nfs_clean clean named' distinct
    have rooted' := (UpdatesReach.tidy clean run.reach).1
    have equal := (run.nfs clean uuids).ext synced fun _ => same.mem_iff.symm
    unfold SameAccess
    rw [clean.protocol]
    intro group
    rw [groupPermissions_of_rooted rooted, groupPermissions_of_rooted rooted', equal]
    exact ⟨rfl, congrArg GroupAccess.networks (congrFun equal group)⟩

section Sample

/-- The sample rule, read-only. -/
def readOnlyRule : AccessRule := { sampleRule with accessLevel := .ro }

/-- A request that makes the sample rule read-only and deletes the other one. -/
def flipAndDelete : AccessUpdate := ⟨[readOnlyRule], [], [otherRule], [readOnlyRule]⟩

private theorem sampleIds_flipAndDelete : sampleIds.NamesAll flipAndDelete := by
  intro rule member
  have either : rule = readOnlyRule ∨ rule = otherRule := by
    simp only [AccessUpdate.rules, flipAndDelete, List.append_nil, List.cons_append,
      List.nil_append, List.mem_cons, List.not_mem_nil, or_false] at member
    rcases member with first | second | third
    · exact Or.inl first
    · exact Or.inr second
    · exact Or.inl third
  rcases either with rfl | rfl
  · exact sampleIds_sampleRule
  · exact sampleIds_otherRule

/-- The sample share after both requests. -/
def flipped (protocol : ShareProto) (start : World) : World :=
  ((flipAndDelete.program sampleConfig (sampleShare protocol)).run respond
    ((addBoth.program sampleConfig (sampleShare protocol)).run respond start).2).2

private theorem flipped_run (protocol : ShareProto) (start : World) :
    IncrementalRun sampleConfig (sampleShare protocol) sampleIds start [readOnlyRule]
      (flipped protocol start) := by
  have added : IncrementalRun sampleConfig (sampleShare protocol) sampleIds start
      [otherRule, sampleRule]
      ((addBoth.program sampleConfig (sampleShare protocol)).run respond start).2 :=
    IncrementalRun.start.update rfl sampleIds_addBoth (by decide)
  exact added.update rfl sampleIds_flipAndDelete (by decide)

/-- Either protocol ends up with the read-only rule alone. -/
theorem incremental_agrees_with_sync_sample :
    SameAccess sampleConfig (sampleShare .nfs) 0 (flipped .nfs sampleNfs)
        (((AccessUpdate.sync [readOnlyRule]).program sampleConfig (sampleShare .nfs)).run respond
          sampleNfs).2 ∧
      SameAccess sampleConfig (sampleShare .wekafs) 0 (flipped .wekafs sampleWekafs)
        (((AccessUpdate.sync [readOnlyRule]).program sampleConfig (sampleShare .wekafs)).run respond
          sampleWekafs).2 := by
  refine ⟨?_, ?_⟩
  · exact incremental_agrees_with_sync (Or.inr sampleNfs_clean) (sampleIds_uuids .nfs)
      (flipped_run .nfs sampleNfs) (.refl _)
  · have clean : sharePolicies sampleConfig (sampleShare .wekafs) 0 sampleWekafs = fun _ => none := by
      funext level
      cases level <;> rfl
    exact incremental_agrees_with_sync (Or.inl ⟨sampleWekafs_ready, clean⟩)
      (sampleIds_uuids .wekafs) (flipped_run .wekafs sampleWekafs) (.refl _)

end Sample

end WekaShareDriver
