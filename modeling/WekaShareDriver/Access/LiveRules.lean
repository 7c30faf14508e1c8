import WekaShareDriver.Access.NfsRuns

/-! # Rules alive across updates

An incremental request replaces the rules it applies and drops the ones it
deletes (`WekaShareDriver.AccessUpdate.live`). The rules alive after a request
and those it deletes may have been in force together, so they are told apart by
their ids, networks and texts (`WekaShareDriver.Compatible`).
-/

namespace WekaShareDriver

open Foundation

/-- Rules that may be in force together: no id, no network and no unreadable
text stands twice. -/
structure Compatible (rules : List AccessRule) : Prop where
  ids : (rules.map AccessRule.accessId).Nodup
  networks : DistinctNetworks rules
  texts : DistinctTexts rules

instance (rules : List AccessRule) : Decidable (Compatible rules) :=
  decidable_of_iff ((rules.map AccessRule.accessId).Nodup ∧ DistinctNetworks rules ∧
    DistinctTexts rules)
    ⟨fun ⟨ids, networks, texts⟩ => ⟨ids, networks, texts⟩,
      fun ⟨ids, networks, texts⟩ => ⟨ids, networks, texts⟩⟩

/-- The rules alive after a request, given those before it. -/
def AccessUpdate.live (update : AccessUpdate) (before : List AccessRule) : List AccessRule :=
  before.filter (fun rule =>
    rule.accessId ∉ (update.applied ++ update.deleteRules).map AccessRule.accessId) ++
    update.applied

/-- The rules in force once a request is done: a full sync leaves its own. -/
def AccessUpdate.result (update : AccessUpdate) (before : List AccessRule) : List AccessRule :=
  if update.fullSync then update.applied else update.live before

variable {ids : AccessIds} {update : AccessUpdate} {before rules first second : List AccessRule}
  {rule rule' : AccessRule} {share : Share}

/-- An id's rules all have the same address. -/
theorem AccessIds.Names.target?_eq (names : ids.Names rule) (names' : ids.Names rule')
    (same : rule.accessId = rule'.accessId) : rule.target? = rule'.target? := by
  obtain ⟨type, target⟩ := names.client_eq names' same
  unfold AccessRule.target? AccessRule.isIpv4
  rw [type, target]

/-- A rule is alive after a request because the request applied it, or because
it was alive before and the request says nothing of its id. -/
theorem AccessUpdate.mem_live : rule ∈ update.live before ↔
    rule ∈ update.applied ∨ rule ∈ before ∧
      (∀ rule' ∈ update.applied, rule'.accessId ≠ rule.accessId) ∧
      ∀ rule' ∈ update.deleteRules, rule'.accessId ≠ rule.accessId := by
  unfold live
  rw [List.mem_append, List.mem_filter, or_comm]
  simp only [List.map_append, List.mem_append, List.mem_map, not_or, decide_eq_true_eq,
    not_exists, not_and]

/-- The rules alive all name the clients of their ids. -/
theorem AccessUpdate.names_live (named : ids.NamesAll update)
    (earlier : ∀ rule ∈ before, ids.Names rule) : ∀ rule ∈ update.live before, ids.Names rule := by
  intro rule member
  rcases mem_live.mp member with applied | ⟨inside, _⟩
  · exact named rule (applied_subset applied)
  · exact earlier rule inside

/-- A request's result is what it applied and some of the rules before it. -/
theorem AccessUpdate.mem_result (member : rule ∈ update.result before) :
    rule ∈ update.applied ∨ rule ∈ before := by
  unfold result at member
  split at member
  · exact Or.inl member
  · exact (mem_live.mp member).imp_right fun kept => kept.1

/-- What a request applies is in force once it is done. -/
theorem AccessUpdate.applied_subset_result : update.applied ⊆ update.result before := by
  intro rule applied
  unfold result
  split
  · exact applied
  · exact mem_live.mpr (Or.inl applied)

namespace Compatible

/-- The first of rules that may be in force together may be. -/
theorem left (compatible : Compatible (first ++ second)) : Compatible first := by
  refine ⟨?_, compatible.networks.left, ?_⟩
  · have ids := compatible.ids
    rw [List.map_append] at ids
    exact (List.nodup_append.mp ids).1
  · exact (List.pairwise_append.mp compatible.texts).1

/-- Rules may be in force together in any order. -/
theorem perm (compatible : Compatible first) (same : first.Perm second) : Compatible second := by
  refine ⟨(same.map _).nodup_iff.mp compatible.ids, ?_, ?_⟩
  · exact (same.filterMap _).nodup_iff.mp compatible.networks
  · refine same.pairwise compatible.texts ?_
    intro rule rule' differ unreadable unreadable' equal
    exact differ unreadable' unreadable equal.symm

/-- No address stands twice. -/
theorem targets (compatible : Compatible rules) : (policyTargets rules).Nodup :=
  nodup_policyTargets compatible.networks compatible.texts

/-- Rules of two parts of a list have different addresses. -/
theorem target_ne {ip : String} (compatible : Compatible (first ++ second)) (member : rule ∈ first)
    (member' : rule' ∈ second) (found : rule.target? = some ip) : rule'.target? ≠ some ip := by
  intro found'
  have targets := compatible.targets
  unfold policyTargets at targets
  rw [List.filterMap_append, List.nodup_append] at targets
  exact targets.2.2 ip (List.mem_filterMap.mpr ⟨rule, member, found⟩) ip
    (List.mem_filterMap.mpr ⟨rule', member', found'⟩) rfl

/-- Rules with the same address are the same rule. -/
theorem eq_of_target {ip : String} (compatible : Compatible rules) (member : rule ∈ rules)
    (member' : rule' ∈ rules) (found : rule.target? = some ip) (found' : rule'.target? = some ip) :
    rule = rule' := by
  have targets := compatible.targets
  unfold policyTargets at targets
  rw [List.Nodup, List.pairwise_filterMap] at targets
  have equal : ∀ rule ∈ rules, ∀ rule' ∈ rules, ∀ ip, rule.target? = some ip →
      rule'.target? = some ip → rule = rule' := by
    apply List.Pairwise.forall_of_forall_of_flip
    · exact fun _ _ _ _ _ => rfl
    · exact targets.imp fun ne ip here there => absurd rfl (ne ip here ip there)
    · exact targets.imp fun ne ip here there => absurd rfl (ne ip there ip here)
  exact equal rule member rule' member' ip found found'

/-- Rules with the same id are the same rule. -/
theorem eq_of_id (compatible : Compatible rules) (member : rule ∈ rules) (member' : rule' ∈ rules)
    (same : rule.accessId = rule'.accessId) : rule = rule' :=
  List.inj_on_of_nodup_map compatible.ids member member' same

/-- Rules of two parts of a list have different ids. -/
theorem id_ne (compatible : Compatible (first ++ second)) (member : rule ∈ first)
    (member' : rule' ∈ second) : rule.accessId ≠ rule'.accessId := by
  have ids := compatible.ids
  rw [List.map_append, List.nodup_append] at ids
  exact ids.2.2 _ (List.mem_map_of_mem member) _ (List.mem_map_of_mem member')

end Compatible

end WekaShareDriver
