import WekaShareDriver.Access.NfsBatches

/-! # What bad rules spoil

Bad rules are to spoil nothing: an update of a share returns, every other rule is reported and in
force as if the bad ones were not in the list, and a full sync leaves nothing that no other rule
backs (`WekaShareDriver.SpoilsNothing`). So it is but for two kinds of full sync: one over WEKAFS
that meets a network it cannot read, and one over NFS that finds a permission to a group named for
bad rules only (`WekaShareDriver.bad_rules_spoil_nothing_iff`).
-/

namespace WekaShareDriver

open Foundation Program

section Updates

variable (validation : Validation) (cfg : Config) (share : Share) (fsUid : Uid)
  (update : AccessUpdate) (w : World)

/-- Apply and delete some rules in one of the two modes, as an update does with its own. -/
def updateShareAccess (rules deleteRules : List AccessRule) (fullSync : Bool) : Driver RuleStates :=
  if share.shareProto = .nfs then updateNfsAccess cfg share rules deleteRules fullSync
  else updateWekafsAccess cfg share rules deleteRules fullSync

/-- The good rules among those an update applies. -/
def AccessUpdate.good : List AccessRule := goodRules share.shareProto update.applied

/-- The networks of a client group; a group that is missing gives as much access as an empty one. -/
def groupNetworks (group : String) (w : World) : Finset String :=
  (w.cluster.clientGroups.find? group).elim ∅ fun entry => entry.val.networks

/-- The same access to a share: over NFS the same permissions of its filesystem to every group and
the same networks in every group, over WEKAFS the same policies with the same addresses, flags and
attachments. -/
def SameGrants (w t : World) : Prop :=
  match share.shareProto with
  | .nfs => ∀ group,
      groupPermissions (cfg.shareName share.id) group w =
        groupPermissions (cfg.shareName share.id) group t ∧
      groupNetworks group w = groupNetworks group t
  | _ => sharePolicies cfg share fsUid w = sharePolicies cfg share fsUid t

/-- Nothing is left that no rule backs: over NFS no permission of the filesystem to a group of the
share, over WEKAFS no address in the share's policies. -/
def BackedBy (rules : List AccessRule) (w : World) : Prop :=
  match share.shareProto with
  | .nfs => ∀ group, groupPermissions (cfg.shareName share.id) group w ≠ [] →
      Text.startsWith group (nfsCgPrefix share.id) = true →
        ∃ rule ∈ rules, nfsCgName share.id rule.accessId = group
  | _ => ∀ level ip, (sharePolicies cfg share fsUid w).Listed level ip →
      (level, ip) ∈ policyRules rules

/-- The bad rules of an update spoil nothing: it returns, every other rule is reported as by the
update without them, which deletes the same rules in the same mode, the same access is left, and
after a full sync nothing that no other rule backs. -/
def SpoilsNothing : Prop :=
  ∃ states t states' t',
    (update.program cfg share).run validation.respond w = (.ok states, t) ∧
    (updateShareAccess cfg share (update.good share) update.deleteRules update.fullSync).run
      validation.respond w = (.ok states', t') ∧
    (∀ rule ∈ update.good share, states.get? rule.accessId = states'.get? rule.accessId) ∧
    SameGrants cfg share fsUid t t' ∧
    (update.fullSync = true → BackedBy cfg share fsUid (update.good share) t)

/-- Where bad rules do no harm: a full sync over WEKAFS meets no network that cannot be read, and
one over NFS finds no permission to a group that is named for bad rules only. -/
def Harmless : Prop :=
  update.fullSync = true →
    match share.shareProto with
    | .nfs => ∀ rule ∈ update.applied, rule.bad .nfs = true →
        groupPermissions (cfg.shareName share.id) (nfsCgName share.id rule.accessId) w ≠ [] →
          ∃ other ∈ update.good share,
            nfsCgName share.id other.accessId = nfsCgName share.id rule.accessId
    | _ => ∀ rule ∈ update.applied, ¬ rule.Malformed

/-- A share that can be updated on a cluster that took addresses only so far: over WEKAFS it is
ready, over NFS its filesystem is exported at its root only. -/
structure Serves : Prop where
  addressed : w.cluster.Addressed
  serving : WekafsReady cfg share fsUid w ∨
    (share.shareProto = .nfs ∧ Rooted (cfg.shareName share.id) w)

end Updates

section SpoilsNothing

variable {validation : Validation} {cfg : Config} {share : Share} {fsUid : Uid}
  {update : AccessUpdate} {w : World}

private theorem run_of_wp {α : Type} {program : Driver α} {done : α → World → Prop}
    (holds : program.wp validation.service (passing fun _ => True)
      (ending done fun _ _ => False) w) :
    ∃ value t, program.run validation.respond w = (.ok value, t) ∧ done value t := by
  have ended := post_run holds
  rcases returned : program.run validation.respond w with ⟨outcome, t⟩
  rw [returned] at ended
  cases outcome with
  | ok value => exact ⟨value, t, rfl, ended⟩
  | error error => exact ended.elim

private theorem held_nfsState {fsName group : String} :
    (nfsState fsName w group).held = groupNetworks group w := by
  unfold groupNetworks GroupAccess.held
  simp only [nfsState]
  cases w.cluster.clientGroups.find? group <;> rfl

private theorem groupPermissions_ne_nil {fsName group : String} (rooted : Rooted fsName w) :
    groupPermissions fsName group w ≠ [] ↔ (nfsState fsName w group).permission.isSome = true := by
  rw [groupPermissions_of_rooted rooted]
  cases (nfsState fsName w group).permission <;> simp

private theorem wekafs_spoils_nothing_iff (ready : WekafsReady cfg share fsUid w)
    (addressed : Addressed (sharePolicies cfg share fsUid w))
    (distinct : (update.applied.map AccessRule.accessId).Nodup) :
    SpoilsNothing validation cfg share fsUid update w ↔ Harmless cfg share update w := by
  have protocol := ready.protocol
  have good : update.good share = goodRules .wekafs update.applied := by
    rw [AccessUpdate.good, protocol]
  have harmless_iff : Harmless cfg share update w ↔
      (update.fullSync = true → ∀ rule ∈ update.applied, ¬ rule.Malformed) := by
    unfold Harmless
    rw [protocol]
  rw [harmless_iff]
  constructor
  · intro spared full rule member malformed
    obtain ⟨states, t, _, _, returned, -⟩ := spared
    rw [update.program_wekafs protocol, full] at returned
    have ended := post_run (wp_updateWekafsAccess_raises validation update.deleteRules ready
      addressed ⟨rule, member, malformed⟩)
    rw [returned] at ended
    exact ended
  · intro readable
    have readable' : update.fullSync = true → ∀ rule ∈ goodRules .wekafs update.applied,
        ¬ rule.Malformed :=
      fun full rule member => readable full rule (mem_goodRules.mp member).1
    have batch : updateShareAccess cfg share (update.good share) update.deleteRules
        update.fullSync = updateWekafsAccess cfg share (goodRules .wekafs update.applied)
          update.deleteRules update.fullSync := by
      rw [updateShareAccess, protocol, good]
      rfl
    obtain ⟨states, t, returned, reported, reconciled⟩ := run_of_wp
      (wp_updateWekafsAccess_validated validation update.deleteRules ready addressed readable)
    obtain ⟨states', t', returned', reported', reconciled'⟩ := run_of_wp
      (wp_updateWekafsAccess_validated validation update.deleteRules ready addressed readable')
    rw [goodRules_goodRules] at reconciled'
    refine ⟨states, t, states', t', ?_, ?_, ?_, ?_, ?_⟩
    · rw [update.program_wekafs protocol, returned]
    · rw [batch, returned']
    · intro rule member
      rw [good] at member
      rw [reported, reported']
      exact reportStates_goodRules distinct member
    · unfold SameGrants
      rw [protocol]
      exact reconciled.unique reconciled'
    · intro full
      unfold BackedBy
      rw [protocol, good]
      intro level ip listed
      obtain ⟨listing, complete, after⟩ := reconciled
      rw [after, full, if_pos rfl, ← PolicyState.mem_addressesAt,
        PolicyState.mem_prune complete] at listed
      exact listed.2

private theorem nfs_spoils_nothing_iff (protocol : share.shareProto = .nfs)
    (rooted : Rooted (cfg.shareName share.id) w)
    (addressed : (nfsState (cfg.shareName share.id) w).Addressed)
    (distinct : (update.applied.map AccessRule.accessId).Nodup) :
    SpoilsNothing validation cfg share fsUid update w ↔ Harmless cfg share update w := by
  have good : update.good share = goodRules .nfs update.applied := by
    rw [AccessUpdate.good, protocol]
  have harmless_iff : Harmless cfg share update w ↔ (update.fullSync = true →
      ∀ rule ∈ update.applied, rule.bad .nfs = true →
        (nfsState (cfg.shareName share.id) w
            (nfsCgName share.id rule.accessId)).permission.isSome = true →
          ∃ other ∈ goodRules .nfs update.applied,
            nfsCgName share.id other.accessId = nfsCgName share.id rule.accessId) := by
    unfold Harmless
    rw [protocol, good]
    simp only [groupPermissions_ne_nil rooted]
  have batch : updateShareAccess cfg share (update.good share) update.deleteRules
      update.fullSync = updateNfsAccess cfg share (goodRules .nfs update.applied)
        update.deleteRules update.fullSync := by
    rw [updateShareAccess, if_pos protocol, good]
  obtain ⟨states, t, returned, reported, rooted', alike⟩ := run_of_wp
    (wp_updateNfsAccess_validated validation update.applied update.deleteRules update.fullSync
      rooted addressed)
  rw [← update.program_nfs protocol] at returned
  obtain ⟨states', t', returned', reported', rooted'', alike'⟩ := run_of_wp
    (wp_updateNfsAccess_validated validation (goodRules .nfs update.applied) update.deleteRules
      update.fullSync rooted addressed)
  rw [← batch] at returned'
  rw [harmless_iff]
  constructor
  · intro spared full rule member bad exported
    obtain ⟨_, u, _, _, again, -, -, -, backed⟩ := spared
    rw [returned, Prod.mk.injEq] at again
    rw [← again.2, BackedBy, protocol, good] at backed
    by_contra unnamed
    have foreign : ∀ other ∈ goodRules .nfs update.applied,
        nfsCgName share.id other.accessId ≠ nfsCgName share.id rule.accessId :=
      fun other inside same => unnamed ⟨other, inside, same⟩
    refine unnamed (backed full _ ?_ (Text.startsWith_append _ _))
    rw [groupPermissions_ne_nil rooted', (alike _).2, exportsAfter, full, if_pos rfl,
      update.deleteRules_of_fullSync full]
    have kept : ¬ Stale share update.applied (changedExports share update.applied []
        (nfsState (cfg.shareName share.id) w)) (nfsCgName share.id rule.accessId) :=
      fun stale => stale.2.2 (List.mem_map_of_mem member)
    simp only [NfsState.clear, kept, ↓reduceIte]
    rw [changedExports_of_foreign foreign]
    exact exported
  · intro harmless
    have same : (exportsAfter share update.applied update.deleteRules update.fullSync
        (nfsState (cfg.shareName share.id) w)).Alike (exportsAfter share
          (goodRules .nfs update.applied) update.deleteRules update.fullSync
            (nfsState (cfg.shareName share.id) w)) := by
      have changed : changedExports share (goodRules .nfs update.applied) update.deleteRules
          (nfsState (cfg.shareName share.id) w) = changedExports share update.applied
            update.deleteRules (nfsState (cfg.shareName share.id) w) := by
        unfold changedExports
        rw [goodRules_goodRules]
      unfold exportsAfter
      rw [changed]
      cases full : update.fullSync with
      | false => exact .refl
      | true =>
          rw [update.deleteRules_of_fullSync full]
          exact NfsState.Alike.refl.clear (stale_goodRules_iff (harmless full))
    refine ⟨states, t, states', t', returned, returned', ?_, ?_, ?_⟩
    · intro rule member
      rw [good] at member
      rw [reported, reported']
      exact reportStates_goodRules distinct member
    · unfold SameGrants
      rw [protocol]
      intro group
      obtain ⟨held, permission⟩ := (alike.trans (same.trans alike'.symm)) group
      rw [groupPermissions_of_rooted rooted', groupPermissions_of_rooted rooted'', permission,
        ← held_nfsState, ← held_nfsState, held]
      exact ⟨rfl, rfl⟩
    · intro full
      rw [BackedBy, protocol, good]
      intro group exported prefixed
      rw [groupPermissions_ne_nil rooted', (alike.trans same _).2, exportsAfter, full,
        if_pos rfl] at exported
      obtain ⟨kept, changed⟩ := permission_clear exported
      by_contra unnamed
      refine kept ⟨changed, prefixed, fun member => unnamed ?_⟩
      obtain ⟨rule, inside, named⟩ := List.mem_map.mp member
      exact ⟨rule, inside, named⟩

end SpoilsNothing

section Sample

/-- A cluster that refuses with status 400. -/
def sampleValidation : Validation :=
  ⟨fun _ => .generic 400 "invalid IP address", fun _ => by decide⟩

/-- A rule for a host name. -/
def hostRule : AccessRule := ⟨"e5f60718-0000-4000-8000-000000000007", .ip, "client.example", .rw⟩

/-- One good rule among bad ones of every kind. -/
def badRules : List AccessRule := hostRule :: mixedRules

private theorem sampleWekafs_serves :
    Serves sampleConfig (sampleShare .wekafs) 0 sampleWekafs where
  addressed := ⟨.empty, .empty⟩
  serving := Or.inl sampleWekafs_ready

private theorem sampleNfs_serves : Serves sampleConfig (sampleShare .nfs) 0 sampleNfs where
  addressed := ⟨.empty, .empty⟩
  serving := Or.inr ⟨rfl, sampleNfs_clean.rooted⟩

end Sample

end WekaShareDriver
