import WekaShareDriver.Access.NfsUpdate
import WekaShareDriver.Access.Runs

/-! # Runs of NFS access updates

An access id stands for one client for all its life, and the first eight
characters tell the ids in use apart (`WekaShareDriver.AccessIds`). Starting
from a filesystem without exports, every group of a share then belongs to one
id and holds at most that id's network, whatever calls fail
(`WekaShareDriver.UpdatesReach.tidy`).
-/

namespace WekaShareDriver

open Foundation Program

/-- The access ids in use and the client each stands for. -/
structure AccessIds where
  used : String → Prop
  client : String → AccessType × String
  distinct : ∀ id id', used id → used id' → Text.take id 8 = Text.take id' 8 → id = id'

/-- A rule has an id in use and names the id's client. -/
def AccessIds.Names (ids : AccessIds) (rule : AccessRule) : Prop :=
  ids.used rule.accessId ∧ ids.client rule.accessId = (rule.accessType, rule.accessTo)

/-- All the rules of a request. -/
def AccessUpdate.rules (update : AccessUpdate) : List AccessRule :=
  update.accessRules ++ update.addRules ++ update.deleteRules ++ update.updateRules

/-- Every rule of a request has an id in use and names its client. -/
def AccessIds.NamesAll (ids : AccessIds) (update : AccessUpdate) : Prop :=
  ∀ rule ∈ update.rules, ids.Names rule

/-- An NFS share whose filesystem is not exported and that has no group. -/
structure NfsClean (cfg : Config) (share : Share) (w : World) : Prop where
  protocol : share.shareProto = .nfs
  unexported : ∀ name path,
    w.cluster.permissions.find? (cfg.shareName share.id, name, path) = none
  ungrouped : ∀ name, Text.startsWith name (nfsCgPrefix share.id) = true →
    w.cluster.clientGroups.find? name = none

/-- Every group of a share belongs to one id and holds at most its network. -/
def Tidy (ids : AccessIds) (share : Share) (state : NfsState) : Prop :=
  ∀ name, Text.startsWith name (nfsCgPrefix share.id) = true → state name ≠ .absent →
    ∃ rule grant, ids.Names rule ∧ rule.grant? share = some grant ∧ grant.group = name ∧
      (state name).held ⊆ {grant.network}

variable {cfg : Config} {share : Share} {ids : AccessIds} {fault : Fault} {start w : World}
  {update : AccessUpdate} {rule rule' : AccessRule} {grant grant' : Grant}
  {state state' : NfsState}

/-- What a request applies is among its rules. -/
theorem AccessUpdate.applied_subset : update.applied ⊆ update.rules := by
  intro rule member
  unfold applied rules at *
  simp only [List.mem_append] at member ⊢
  rcases member with first | last
  · split at first
    · exact Or.inl (Or.inl (Or.inl first))
    · exact Or.inl (Or.inl (Or.inr first))
  · exact Or.inr last

/-- What a request deletes is among its rules. -/
theorem AccessUpdate.deleteRules_subset : update.deleteRules ⊆ update.rules := by
  intro rule member
  simp only [rules, List.mem_append]
  exact Or.inl (Or.inr member)

private theorem nfsCgName_inj {shareId id id' : String} :
    nfsCgName shareId id = nfsCgName shareId id' ↔ Text.take id 8 = Text.take id' 8 :=
  Text.append_left_inj

/-- The ids look like UUIDs: eight characters stand before the first dash, and
they are not those of the share. -/
structure AccessIds.Uuids (ids : AccessIds) (share : Share) : Prop where
  long : ∀ id, ids.used id → 8 ≤ id.toList.length
  dashless : ∀ id, ids.used id → '-' ∉ (Text.take id 8).toList
  apart : ∀ id, ids.used id → Text.take id 8 ≠ Text.take share.id 8

/-- The start of an id lies in no other id's group name. -/
theorem AccessIds.Uuids.eq_of_contains {id id' : String} (uuids : ids.Uuids share)
    (used : ids.used id) (used' : ids.used id')
    (within : Text.contains (nfsCgName share.id id') (Text.take id 8) = true) : id = id' := by
  have short (text : String) : (Text.take text 8).toList.length ≤ 8 := by
    rw [Text.toList_take]
    exact List.length_take_le _ _
  have long : (Text.take id 8).toList.length = 8 := by
    have := uuids.long id used
    rw [Text.toList_take, List.length_take]
    omega
  have dashless := uuids.dashless id used
  have name : (nfsCgName share.id id').toList = "manila".toList ++
      '-' :: ((Text.take share.id 8).toList ++ '-' :: (Text.take id' 8).toList) := by
    unfold nfsCgName nfsCgPrefix
    simp [String.toList_append]
  rw [Text.contains_iff, name] at within
  rcases Text.infix_of_infix_append_cons within dashless with inManila | later
  · have fits := inManila.length_le
    rw [long] at fits
    exact absurd fits (by decide)
  · rcases Text.infix_of_infix_append_cons later dashless with inShare | inId
    · have same := inShare.eq_of_length_le (by rw [long]; exact short share.id)
      exact absurd (String.toList_inj.mp same) (uuids.apart id used)
    · have same := inId.eq_of_length_le (by rw [long]; exact short id')
      exact ids.distinct id id' used used' (String.toList_inj.mp same)

/-- Rules with one id name one client. -/
theorem AccessIds.Names.client_eq (names : ids.Names rule) (names' : ids.Names rule')
    (same : rule.accessId = rule'.accessId) :
    rule.accessType = rule'.accessType ∧ rule.accessTo = rule'.accessTo := by
  have clients := names.2
  rw [same, names'.2, Prod.mk.injEq] at clients
  exact ⟨clients.1.symm, clients.2.symm⟩

/-- A group's name tells whose it is. -/
theorem AccessIds.Names.eq (names : ids.Names rule) (names' : ids.Names rule')
    (same : nfsCgName share.id rule.accessId = nfsCgName share.id rule'.accessId) :
    rule.accessId = rule'.accessId ∧ rule.accessType = rule'.accessType ∧
      rule.accessTo = rule'.accessTo := by
  have ids' := ids.distinct _ _ names.1 names'.1 (nfsCgName_inj.mp same)
  exact ⟨ids', names.client_eq names' ids'⟩

/-- Rules with the same group grant the same network. -/
theorem AccessIds.Names.network_eq (names : ids.Names rule) (names' : ids.Names rule')
    (found : rule.grant? share = some grant) (found' : rule'.grant? share = some grant')
    (same : grant.group = grant'.group) : grant.network = grant'.network := by
  rw [(AccessRule.grant?_group found).1, (AccessRule.grant?_group found').1] at same
  obtain ⟨_, _, target⟩ := names.eq names' same
  exact AccessRule.grant?_network found found' target

/-- An id's rules all denote its network. -/
theorem AccessIds.Names.network?_eq (names : ids.Names rule) (names' : ids.Names rule')
    (same : rule.accessId = rule'.accessId) : rule.network? = rule'.network? := by
  obtain ⟨type, target⟩ := names.client_eq names' same
  unfold AccessRule.network?
  rw [type, target]

/-- What a tidy share holds in a rule's group is at most the rule's network. -/
theorem Tidy.held (tidy : Tidy ids share state) (names : ids.Names rule)
    (found : rule.grant? share = some grant) : (state grant.group).held ⊆ {grant.network} := by
  by_cases absent : state grant.group = .absent
  · rw [absent]
    exact Finset.empty_subset _
  · have prefixed : Text.startsWith grant.group (nfsCgPrefix share.id) = true := by
      rw [(AccessRule.grant?_group found).1]
      exact Text.startsWith_append _ _
    obtain ⟨rule', grant', names', found', group, held⟩ := tidy _ prefixed absent
    rw [names.network_eq names' found found' group.symm]
    exact held

/-- While a rule with an id in use is applied, the groups stay tidy. -/
theorem Tidy.exports (tidy : Tidy ids share state) (names : ids.Names rule)
    (step : Exports share state rule state') : Tidy ids share state' := by
  intro name prefixed present
  cases found : rule.grant? share with
  | none =>
      rw [(exports_of_missing found).mp step] at present ⊢
      exact tidy name prefixed present
  | some grant =>
      rw [exports_of_found found] at step
      by_cases own : name = grant.group
      · subst own
        refine ⟨rule, grant, names, found, rfl, ?_⟩
        intro network member
        rcases Finset.mem_insert.mp (step.group.held.2 member) with rfl | earlier
        · exact Finset.mem_singleton_self _
        · exact tidy.held names found earlier
      · rw [step.of_ne own] at present ⊢
        exact tidy name prefixed present

/-- While groups are cleared, the groups stay tidy. -/
theorem Tidy.clearing {matching : String → Prop} (tidy : Tidy ids share state)
    (step : state.Clearing matching state') : Tidy ids share state' := by
  intro name prefixed present
  have retracting := step.retracting name
  have earlier : state name ≠ .absent := by
    intro absent
    rw [absent] at retracting
    exact present retracting.absent
  obtain ⟨rule, grant, names, found, group, held⟩ := tidy name prefixed earlier
  exact ⟨rule, grant, names, found, group, retracting.held.trans held⟩

/-- A share that is not exported is exported nowhere but at its root. -/
theorem NfsClean.rooted (clean : NfsClean cfg share w) : Rooted (cfg.shareName share.id) w := by
  intro name path entry found
  rw [clean.unexported] at found
  cases found

/-- A clean share has no permission and no group of its own. -/
theorem NfsClean.nothing (clean : NfsClean cfg share w) (name : String) :
    (nfsState (cfg.shareName share.id) w name).permission = none ∧
      (Text.startsWith name (nfsCgPrefix share.id) = true →
        nfsState (cfg.shareName share.id) w name = .absent) := by
  have unexported : (nfsState (cfg.shareName share.id) w name).permission = none := by
    simp only [nfsState, clean.unexported, Option.map_none]
  refine ⟨unexported, fun prefixed => GroupAccess.ext ?_ unexported⟩
  simp only [nfsState, clean.ungrouped name prefixed, Option.map_none]
  rfl

/-- A share without groups is tidy. -/
theorem NfsClean.tidy (clean : NfsClean cfg share w) :
    Tidy ids share (nfsState (cfg.shareName share.id) w) :=
  fun name prefixed present => absurd ((clean.nothing name).2 prefixed) present

/-- An update keeps a share tidy at every call, whatever fails. -/
theorem wp_program_tidy (protocol : share.shareProto = .nfs) (named : ids.NamesAll update)
    (tidy : Exporting (cfg.shareName share.id) (Tidy ids share) w) :
    (update.program cfg share).wp (service fault)
      (passing (Exporting (cfg.shareName share.id) (Tidy ids share)))
      (ending (fun _ => Exporting (cfg.shareName share.id) (Tidy ids share))
        (fun _ => Exporting (cfg.shareName share.id) (Tidy ids share))) w := by
  rw [update.program_nfs protocol]
  refine wp_updateNfsAccess_invariant tidy.1 ?_ ?_ ?_ tidy.2
  · intro rule member state state' holds step
    exact holds.exports (named rule (AccessUpdate.applied_subset member)) step
  · intro _ _ state state' holds step
    exact holds.clearing step
  · intro _ state state' holds step
    exact holds.clearing step

/-- Between any updates of a share that started clean, it is tidy. -/
theorem UpdatesReach.tidy (clean : NfsClean cfg share start)
    (reached : UpdatesReach cfg share fault ids.NamesAll start w) :
    Exporting (cfg.shareName share.id) (Tidy ids share) w := by
  refine reached.invariant ⟨clean.rooted, clean.tidy⟩ fun update w t outcome named tidy run => ?_
  have ended := run.post (wp_program_tidy clean.protocol named tidy)
  cases outcome with
  | ok states => exact ended
  | error error => exact ended

/-! ## A small world -/

/-- The ids of two rules. -/
def AccessIds.pair (first second : AccessRule)
    (apart : Text.take first.accessId 8 ≠ Text.take second.accessId 8) : AccessIds where
  used := fun id => id = first.accessId ∨ id = second.accessId
  client := fun id =>
    if id = first.accessId then (first.accessType, first.accessTo)
    else (second.accessType, second.accessTo)
  distinct := by
    intro id id' used used' same
    rcases used with rfl | rfl
    · rcases used' with rfl | rfl
      · rfl
      · exact absurd same apart
    · rcases used' with rfl | rfl
      · exact absurd same.symm apart
      · rfl

/-- The first of two rules has one of their ids. -/
theorem AccessIds.pair_first {first second : AccessRule}
    {apart : Text.take first.accessId 8 ≠ Text.take second.accessId 8} :
    (AccessIds.pair first second apart).Names first :=
  ⟨Or.inl rfl, if_pos rfl⟩

/-- The second of two rules has one of their ids. -/
theorem AccessIds.pair_second {first second : AccessRule}
    {apart : Text.take first.accessId 8 ≠ Text.take second.accessId 8} :
    (AccessIds.pair first second apart).Names second :=
  ⟨Or.inr rfl, if_neg fun same => apart (by rw [same])⟩

/-- The ids of the two sample rules. -/
def sampleIds : AccessIds := .pair sampleRule otherRule (by decide)

/-- The sample rule has one of the sample ids. -/
theorem sampleIds_sampleRule : sampleIds.Names sampleRule := AccessIds.pair_first

/-- The other rule has one of the sample ids. -/
theorem sampleIds_otherRule : sampleIds.Names otherRule := AccessIds.pair_second

/-- A cluster with the sample share's filesystem. -/
def sampleNfs : World where
  cluster := { Cluster.empty with
    filesystems := Registry.empty.insert ⟨.admin,
      sampleConfig.shareName (sampleShare .nfs).id, "default", gbToBytes 1, 0, false⟩ }
  host := Host.empty

/-- The sample share is not exported and has no group. -/
theorem sampleNfs_clean : NfsClean sampleConfig (sampleShare .nfs) sampleNfs :=
  ⟨rfl, fun _ _ => rfl, fun _ _ => rfl⟩

end WekaShareDriver
