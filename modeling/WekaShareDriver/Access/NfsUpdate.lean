import WekaShareDriver.Access.NfsRemoval
import WekaShareDriver.Access.Rules

/-! # Whole NFS access updates

A batch of rules is a loop over admissions, the deleted rules a loop over
removals; each loop is given here by an invariant over the rules already
visited. A predicate of the exports that accepting, removing and pruning all
keep holds at every call of an update, whatever fails
(`WekaShareDriver.wp_updateNfsAccess_invariant`).
-/

namespace WekaShareDriver

open Foundation Program

section Grants

variable {share : Share} {rule : AccessRule} {grant : Grant} {net : Ipv4.Network}

/-- An IPv4 rule grants what the cluster stores of its network, to the group of the rule. -/
theorem AccessRule.grant?_eq_some_iff : rule.grant? share = some grant ↔
    rule.isIpv4 = true ∧ ∃ wekaIp, cidrToWekaIp rule.accessTo = .ok wekaIp ∧
      grant = ⟨nfsCgName share.id rule.accessId, normWekaIp (storedRule wekaIp),
        nfsType rule.accessLevel⟩ := by
  unfold AccessRule.grant?
  split
  · next ipv4 =>
      cases cidrToWekaIp rule.accessTo with
      | ok wekaIp => simp [ipv4, Except.toOption, eq_comm]
      | error error => simp [Except.toOption]
  · next other => simp [other]

/-- What the cluster stores of a text that denotes a network denotes the same one. -/
theorem network?_storedRule {text : String} (denotes : network? text = some net) :
    network? (storedRule text) = some net := by
  by_cases bare : '/' ∉ text.toList
  · rw [network?, storedRule, if_neg bare, String.toList_append]
    exact (Ipv4.parseNetwork_full_mask bare).trans denotes
  · rw [storedRule, if_pos (not_not.mp bare), denotes]

/-- What denotes a network can be given to the cluster, which stores what is reduced to the
same text. -/
theorem cidrToWekaIp_stored {text : String} (denotes : network? text = some net) :
    ∃ wekaIp, cidrToWekaIp text = .ok wekaIp ∧
      normWekaIp wekaIp = String.ofList (Ipv4.networkText net) ∧
        normWekaIp (storedRule wekaIp) = String.ofList (Ipv4.networkText net) := by
  by_cases bare : '/' ∉ text.toList
  · refine ⟨text, if_pos bare, ?_, ?_⟩
    · rw [normWekaIp, denotes]
    · rw [normWekaIp, network?_storedRule denotes]
  · generalize written : String.ofList (Ipv4.addressText net.address ++
      '/' :: Ipv4.addressText (Ipv4.netmask net.prefixlen)) = wekaIp
    have masked : network? wekaIp = some net := by
      rw [network?, ← written, String.toList_ofList]
      exact Ipv4.parseNetwork_masked net
    refine ⟨wekaIp, ?_, ?_, ?_⟩
    · rw [cidrToWekaIp, if_neg bare, denotes, ← written]
    · rw [normWekaIp, masked]
    · rw [normWekaIp, network?_storedRule masked]

/-- A readable target is read back from the cluster as its network. -/
theorem normWekaIp_of_network? {wekaIp : String} (read : cidrToWekaIp rule.accessTo = .ok wekaIp)
    (denotes : rule.network? = some net) :
    normWekaIp (storedRule wekaIp) = String.ofList (Ipv4.networkText net) := by
  obtain ⟨given, read', _, stored⟩ :=
    cidrToWekaIp_stored (AccessRule.network?_eq_some_iff.mp denotes).2
  rw [read, Except.ok.injEq] at read'
  rw [read', stored]

/-- An IPv4 rule grants its network at its level to its own group. -/
theorem AccessRule.grant?_of_network? (share : Share) (denotes : rule.network? = some net) :
    rule.grant? share = some ⟨nfsCgName share.id rule.accessId,
      String.ofList (Ipv4.networkText net), nfsType rule.accessLevel⟩ := by
  have ipv4 := isIpv4_of_network? denotes
  have parsed := (network?_eq_some_iff.mp denotes).2
  have readable : ∃ wekaIp, cidrToWekaIp rule.accessTo = .ok wekaIp := by
    unfold cidrToWekaIp
    split
    · exact ⟨_, rfl⟩
    · rw [parsed]
      exact ⟨_, rfl⟩
  obtain ⟨wekaIp, read⟩ := readable
  apply grant?_eq_some_iff.mpr
  refine ⟨ipv4, wekaIp, read, ?_⟩
  rw [normWekaIp_of_network? read denotes]

/-- The group and the type of what a rule grants. -/
theorem AccessRule.grant?_group (found : rule.grant? share = some grant) :
    grant.group = nfsCgName share.id rule.accessId ∧ grant.type = nfsType rule.accessLevel := by
  obtain ⟨_, _, _, rfl⟩ := grant?_eq_some_iff.mp found
  exact ⟨rfl, rfl⟩

/-- What a rule grants depends on its target and its id, but for the level. -/
theorem AccessRule.grant?_network {rule' : AccessRule} {grant' : Grant}
    (found : rule.grant? share = some grant) (found' : rule'.grant? share = some grant')
    (same : rule.accessTo = rule'.accessTo) : grant.network = grant'.network := by
  obtain ⟨_, wekaIp, read, rfl⟩ := grant?_eq_some_iff.mp found
  obtain ⟨_, wekaIp', read', rfl⟩ := grant?_eq_some_iff.mp found'
  rw [same, read', Except.ok.injEq] at read
  rw [read]

/-- What the rules grant, in order. -/
def grants (share : Share) (rules : List AccessRule) : List Grant :=
  rules.filterMap (AccessRule.grant? share)

end Grants

/-- The states passed while one rule of a batch is applied. -/
def Exports (share : Share) (state : NfsState) (rule : AccessRule) (state' : NfsState) : Prop :=
  match rule.grant? share with
  | some grant => state.Accepting grant state'
  | none => state' = state

/-- What applying one rule of a batch may report and leave: a rule that grants
nothing leaves the exports alone, one with a grant is reported active exactly
when it was applied. -/
inductive Exported (fault : Fault) (share : Share) (state : NfsState) (rule : AccessRule)
    (states : RuleStates) : RuleStates → NfsState → Prop where
  | ignored {states' : RuleStates} (missing : rule.grant? share = none)
      (others : ∀ id, id ≠ rule.accessId → states'.get? id = states.get? id) :
      Exported fault share state rule states states' state
  | applied {grant : Grant} {state' : NfsState} (found : rule.grant? share = some grant)
      (accepting : state.Accepting grant state')
      (permitted : (state' grant.group).permission = some grant.type)
      (accepted : Honest fault → (state grant.group).held ⊆ {grant.network} →
        state' = state.accept grant) :
      Exported fault share state rule states (states.assign rule.accessId ⟨.active, none⟩) state'
  | failed {grant : Grant} {state' : NfsState} (found : rule.grant? share = some grant)
      (possible : Possible fault) (accepting : state.Accepting grant state') :
      Exported fault share state rule states (states.assign rule.accessId ⟨.error, none⟩) state'

section Loops

variable {cfg : Config} {share : Share} {fsName : String} {fault : Fault} {w : World}
  {states states' : RuleStates} {rule : AccessRule} {state state' : NfsState}

/-- A rule with a grant is applied by accepting it. -/
theorem exports_of_found {grant : Grant} (found : rule.grant? share = some grant) :
    Exports share state rule = state.Accepting grant := by
  funext state'
  rw [Exports, found]

/-- A rule that grants nothing leaves the exports alone. -/
theorem exports_of_missing (missing : rule.grant? share = none) :
    Exports share state rule state' ↔ state' = state := by
  rw [Exports, missing]

/-- What one rule of a batch leaves is one of the states passed for it. -/
theorem Exported.exports (exported : Exported fault share state rule states states' state') :
    Exports share state rule state' := by
  cases exported with
  | ignored missing _ => exact (exports_of_missing missing).mpr rfl
  | applied found accepting _ _ =>
      rw [exports_of_found found]
      exact accepting
  | failed found _ accepting =>
      rw [exports_of_found found]
      exact accepting

private theorem wp_addNfsRule (rooted : Rooted fsName w) :
    (addNfsRule share fsName states rule).wp (service fault)
      (passing (Exporting fsName (Exports share (nfsState fsName w) rule)))
      (ending
        (fun states' => Exporting fsName
          (Exported fault share (nfsState fsName w) rule states states'))
        (fun _ _ => False)) w := by
  have others : ∀ (reported : RuleState) (id : String), id ≠ rule.accessId →
      Dict.get? (Dict.assign states rule.accessId reported) id = Dict.get? states id :=
    fun reported id ne => Dict.get?_assign_of_ne states reported ne
  unfold addNfsRule
  by_cases foreign : rule.accessType = .ip
  · by_cases ipv6 : isIpv6 rule.accessTo = true
    · simp only [foreign, ne_eq, not_true_eq_false, ipv6, ↓reduceIte]
      have missing : rule.grant? share = none := by
        simp [AccessRule.grant?, AccessRule.isIpv4, ipv6]
      exact ⟨rooted, .ignored missing fun _ _ => rfl⟩
    · have ipv4 : rule.isIpv4 = true := AccessRule.isIpv4_iff.mpr ⟨foreign, by simpa using ipv6⟩
      simp only [foreign, ne_eq, not_true_eq_false, ipv6, ↓reduceIte, Bool.false_eq_true]
      cases read : cidrToWekaIp rule.accessTo with
      | error error =>
          have missing : rule.grant? share = none := by
            simp [AccessRule.grant?, read, Except.toOption]
          unfold applyNfsRule
          rw [read]
          exact ⟨rooted, .ignored missing (others _)⟩
      | ok wekaIp =>
          have found : rule.grant? share = some _ :=
            AccessRule.grant?_eq_some_iff.mpr ⟨ipv4, wekaIp, read, rfl⟩
          rw [exports_of_found found]
          refine wp_tryCatch_of _ (wp_bind_of _ (wp_applyNfsRule rooted read rfl) ?_) ?_
          · intro _ t ended
            obtain ⟨⟨rooted', accepting⟩, permitted, accepted⟩ := ended
            rw [wp_pure, ending_ok]
            exact ⟨rooted', .applied found accepting permitted fun honest fits =>
              accepted honest (Or.inl fits)⟩
          · intro _ t raised
            obtain ⟨possible, rooted', accepting⟩ := raised
            exact ⟨rooted', .failed found possible accepting⟩
  · simp only [foreign, ne_eq, not_false_eq_true, ↓reduceIte]
    have missing : rule.grant? share = none := by
      simp [AccessRule.grant?, AccessRule.isIpv4, foreign]
    exact ⟨rooted, .ignored missing (others _)⟩

variable (passed : NfsState → Prop)

/-- The loop over the rules to apply keeps an invariant that each step keeps. -/
theorem wp_addNfsRules {addRules : List AccessRule}
    (invariant : List AccessRule → RuleStates → NfsState → Prop)
    (step : ∀ visited rule rest states state, addRules = visited ++ rule :: rest →
      invariant visited states state →
        (∀ state', Exports share state rule state' → passed state') ∧
        ∀ states' state', Exported fault share state rule states states' state' →
          invariant (visited ++ [rule]) states' state')
    (rooted : Rooted fsName w) (initial : invariant [] states (nfsState fsName w)) :
    (addRules.foldlM (addNfsRule share fsName) states).wp (service fault)
      (passing (Exporting fsName passed))
      (ending (fun states' => Exporting fsName (invariant addRules states')) (fun _ _ => False))
      w := by
  refine wp_foldlM (fun visited states' => Exporting fsName (invariant visited states')) addRules ?_
    (fun _ _ reached => reached) ⟨rooted, initial⟩
  intro visited rule rest states' t split reached
  obtain ⟨rooted', holds⟩ := reached
  obtain ⟨passes, reaches⟩ := step visited rule rest states' _ split holds
  rw [onOk_ending]
  refine wp_weaken (wp_addNfsRule rooted') ?_ ?_ fun _ _ impossible => impossible
  · exact fun u left => ⟨left.1, passes _ left.2⟩
  · exact fun _ u left => ⟨left.1, reaches _ _ left.2⟩

/-- A group whose exported name contains the start of a rule's id. -/
def Doomed (rule : AccessRule) (state : NfsState) : String → Prop :=
  state.Exported fun name => Text.contains name (Text.take rule.accessId 8) = true

instance (rule : AccessRule) (state : NfsState) : DecidablePred (Doomed rule state) :=
  inferInstanceAs (DecidablePred (state.Exported _))

/-- The loop over the rules to delete keeps an invariant that each step keeps. -/
theorem wp_removeNfsRules {deleteRules : List AccessRule}
    (invariant : List AccessRule → NfsState → Prop)
    (step : ∀ visited rule rest state, deleteRules = visited ++ rule :: rest →
      invariant visited state →
        (∀ state', state.Clearing (Doomed rule state) state' → passed state') ∧
        ∀ state', state.Clearing (Doomed rule state) state' →
          (¬ Possible fault → state' = state.clear (Doomed rule state)) →
            invariant (visited ++ [rule]) state')
    (rooted : Rooted fsName w) (initial : invariant [] (nfsState fsName w)) :
    (deleteRules.forM fun rule =>
        (tryCatch (removeNfsRule cfg fsName rule) fun _ => pure () : Driver Unit)).wp
      (service fault) (passing (Exporting fsName passed))
      (ending (fun _ => Exporting fsName (invariant deleteRules)) (fun _ _ => False)) w := by
  refine wp_forM (fun visited => Exporting fsName (invariant visited)) deleteRules ?_
    (fun _ reached => reached) ⟨rooted, initial⟩
  intro visited rule rest t split reached
  obtain ⟨rooted', holds⟩ := reached
  obtain ⟨passes, reaches⟩ := step visited rule rest _ split holds
  rw [onOk_ending]
  refine wp_tryCatch_of (fun _ u => Possible fault ∧ Exporting fsName
    ((nfsState fsName t).Clearing (Doomed rule (nfsState fsName t))) u)
    (wp_weaken (wp_removeNfsRule rooted' rule) ?_ ?_ fun _ _ raised => raised) ?_
  · exact fun u left => ⟨left.1, passes _ left.2⟩
  · exact fun _ u left => ⟨left.1.1, reaches _ left.1.2 left.2⟩
  · intro _ u raised
    exact ⟨raised.2.1, reaches _ raised.2.2 fun sound => absurd raised.1 sound⟩

/-- A group of the share that is exported and that no rule expects. -/
def Stale (share : Share) (rules : List AccessRule) (state : NfsState) : String → Prop :=
  state.Exported fun name => Text.startsWith name (nfsCgPrefix share.id) = true ∧
    name ∉ rules.map fun rule => nfsCgName share.id rule.accessId

instance (rules : List AccessRule) (state : NfsState) : DecidablePred (Stale share rules state) :=
  inferInstanceAs (DecidablePred (state.Exported _))

/-- An update in two phases: its additions are followed rule by rule, and what
they leave is kept by every removal and by the pruning. -/
theorem wp_updateNfsAccess_phases {addRules deleteRules : List AccessRule} {fullSync : Bool}
    (adding : List AccessRule → RuleStates → NfsState → Prop)
    (kept : RuleStates → NfsState → Prop)
    (step : ∀ visited rule rest states state, addRules = visited ++ rule :: rest →
      adding visited states state →
        (∀ state', Exports share state rule state' → passed state') ∧
        ∀ states' state', Exported fault share state rule states states' state' →
          adding (visited ++ [rule]) states' state')
    (added : ∀ states state, adding addRules states state → kept states state)
    (removing : ∀ rule ∈ deleteRules, ∀ states state state', kept states state →
      state.Clearing (Doomed rule state) state' → kept states state')
    (pruning : fullSync = true → ∀ states state state', kept states state →
      state.Clearing (Stale share addRules state) state' → kept states state')
    (passes : ∀ states state, kept states state → passed state)
    (rooted : Rooted (cfg.shareName share.id) w)
    (initial : adding [] [] (nfsState (cfg.shareName share.id) w)) :
    (updateNfsAccess cfg share addRules deleteRules fullSync).wp (service fault)
      (passing (Exporting (cfg.shareName share.id) passed))
      (ending (fun states => Exporting (cfg.shareName share.id) (kept states))
        (fun _ => Exporting (cfg.shareName share.id) passed)) w := by
  have within : ∀ {states : RuleStates} {t : World},
      Exporting (cfg.shareName share.id) (kept states) t →
        Exporting (cfg.shareName share.id) passed t :=
    fun reached => ⟨reached.1, passes _ _ reached.2⟩
  unfold updateNfsAccess
  refine wp_bind_of _ (wp_weaken (wp_addNfsRules passed adding step rooted initial)
    (fun _ left => left) (fun _ _ reached => reached) fun _ _ impossible => impossible.elim) ?_
  intro states t reached
  obtain ⟨rooted', holds⟩ := reached
  refine wp_bind_of (fun _ => Exporting (cfg.shareName share.id) (kept states))
    (wp_weaken (wp_removeNfsRules (kept states) (fun _ => kept states) ?_ rooted'
        (added states _ holds)) (fun _ left => within left)
      (fun _ _ reached => reached) fun _ _ impossible => impossible.elim) ?_
  · intro visited rule rest state split holds'
    have member : rule ∈ deleteRules := by simp [split]
    exact ⟨fun state' => removing rule member states state state' holds',
      fun state' clearing _ => removing rule member states state state' holds' clearing⟩
  intro _ u reached
  obtain ⟨rooted'', holds'⟩ := reached
  cases fullSync with
  | false => exact ⟨rooted'', holds'⟩
  | true =>
      simp only [↓reduceIte]
      have pruned : ∀ v, Exporting (cfg.shareName share.id) ((nfsState (cfg.shareName share.id)
          u).Clearing (Stale share addRules (nfsState (cfg.shareName share.id) u))) v →
          Exporting (cfg.shareName share.id) (kept states) v :=
        fun v left => ⟨left.1, pruning rfl states _ _ holds' left.2⟩
      exact wp_bind_of (fun _ => Exporting (cfg.shareName share.id) (kept states))
        (wp_weaken (wp_pruneNfsRules rooted'' addRules) (fun v left => within (pruned v left))
          (fun _ v left => pruned v left.1) fun _ v raised => within (pruned v raised.2))
        fun _ _ left => left

/-- An update keeps what each of its steps keeps, at every call. -/
theorem wp_updateNfsAccess_invariant {addRules deleteRules : List AccessRule} {fullSync : Bool}
    {safe : NfsState → Prop} (rooted : Rooted (cfg.shareName share.id) w)
    (applying : ∀ rule ∈ addRules, ∀ state state', safe state → Exports share state rule state' →
      safe state')
    (removing : ∀ rule ∈ deleteRules, ∀ state state', safe state →
      state.Clearing (Doomed rule state) state' → safe state')
    (pruning : fullSync = true → ∀ state state', safe state →
      state.Clearing (Stale share addRules state) state' → safe state')
    (here : safe (nfsState (cfg.shareName share.id) w)) :
    (updateNfsAccess cfg share addRules deleteRules fullSync).wp (service fault)
      (passing (Exporting (cfg.shareName share.id) safe))
      (ending (fun _ => Exporting (cfg.shareName share.id) safe)
        (fun _ => Exporting (cfg.shareName share.id) safe)) w := by
  refine wp_updateNfsAccess_phases safe (fun _ _ => safe) (fun _ => safe) ?_
    (fun _ _ holds => holds) (fun rule member _ => removing rule member)
    (fun full _ => pruning full) (fun _ _ holds => holds) rooted here
  intro visited rule rest states state split holds
  have member : rule ∈ addRules := by simp [split]
  exact ⟨fun state' => applying rule member state state' holds,
    fun _ state' exported => applying rule member state state' holds exported.exports⟩

end Loops

end WekaShareDriver
