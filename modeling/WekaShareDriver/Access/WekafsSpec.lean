import WekaShareDriver.Access.PolicyRules
import WekaShareDriver.Access.PolicySpec

/-! # WEKAFS access updates on allow lists

Every rule with an IPv4 target refines the application or the removal of that
target on the share's allow lists, and every other rule leaves the lists alone.
A batch is a loop over such steps; pruning is a loop of revocations. The rules
at the end of this module give each loop by an invariant over the rules already
visited.
-/

namespace WekaShareDriver

open Foundation Program

/-- The address a rule has in the share's policies, if it has one. -/
def AccessRule.target? (rule : AccessRule) : Option String :=
  if rule.isIpv4 then (policyIp rule.accessTo).toOption else none

/-- A rule as an address at a level. -/
def AccessRule.policyRule? (rule : AccessRule) : Option (Level × String) :=
  rule.target?.map fun ip => (rule.accessLevel, ip)

/-- The addresses the rules have, with their levels. -/
def policyRules (rules : List AccessRule) : List (Level × String) :=
  rules.filterMap AccessRule.policyRule?

/-- The address of a rule is that of its text if the rule is for IPv4. -/
theorem AccessRule.target?_eq_some_iff {rule : AccessRule} {ip : String} :
    rule.target? = some ip ↔ rule.isIpv4 = true ∧ policyIp rule.accessTo = .ok ip := by
  unfold AccessRule.target?
  split
  · next ipv4 =>
      cases policyIp rule.accessTo with
      | ok address => simp [ipv4, Except.toOption]
      | error error => simp [Except.toOption]
  · next other => simp [other]

/-- A rule is for IPv4 if it is an ip rule whose text is no IPv6 address. -/
theorem AccessRule.isIpv4_iff {rule : AccessRule} :
    rule.isIpv4 = true ↔ rule.accessType = .ip ∧ isIpv6 rule.accessTo = false := by
  simp [AccessRule.isIpv4]

variable {session : Session} {share : Share} {fsUid : Uid} {fault : Fault} {w : World}
  {rule : AccessRule} {ip mountPassword : String} {states : RuleStates}

/-- Applying a rule passes through the states of applying its address. -/
theorem wp_applyWekafsRule (honest : Honest fault) (target : policyIp rule.accessTo = .ok ip) :
    (applyWekafsRule session share (some fsUid) rule).wp (service fault)
      (passing (Within session share fsUid w
        ((policyState session share fsUid w).Applying (rule.accessLevel, ip))))
      (ending
        (fun _ => Within session share fsUid w
          (· = (policyState session share fsUid w).applyRule (rule.accessLevel, ip)))
        (fun _ t => Possible fault ∧ Within session share fsUid w
          ((policyState session share fsUid w).Applying (rule.accessLevel, ip)) t)) w := by
  unfold applyWekafsRule
  rw [target, liftExcept, pure_bind]
  refine wp_bind_of (fun _ => Within session share fsUid w
      (· = (policyState session share fsUid w).grant rule.accessLevel ip))
    (wp_weaken (wp_policySetIp_present honest) ?_ ?_ ?_) ?_
  · exact fun t within => ⟨within.1, Or.inl within.2⟩
  · exact fun _ t within => within
  · exact fun _ t raised => ⟨raised.1, raised.2.1, Or.inl raised.2.2⟩
  · rintro _ t ⟨frame, granted⟩
    refine wp_weaken (wp_policySetIp_absent honest) ?_ ?_ ?_
    · rintro u ⟨frame', revoking⟩
      rw [granted] at revoking
      exact ⟨frame.trans frame', Or.inr revoking⟩
    · rintro _ u ⟨frame', revoked⟩
      rw [granted] at revoked
      exact ⟨frame.trans frame', revoked⟩
    · rintro _ u ⟨possible, frame', revoking⟩
      rw [granted] at revoking
      exact ⟨possible, frame.trans frame', Or.inr revoking⟩

/-- What applying one rule of a batch may report and leave: a rule without an
address leaves the lists alone, one with an address is reported active exactly
when it was applied. -/
inductive Added (faulty : Prop) (state : PolicyState String) (rule : AccessRule)
    (states : RuleStates) : RuleStates → PolicyState String → Prop where
  | unlisted {states' : RuleStates} (missing : rule.policyRule? = none)
      (others : ∀ id, id ≠ rule.accessId → states'.get? id = states.get? id) :
      Added faulty state rule states states' state
  | applied {target : Level × String} {key : Option String} (found : rule.policyRule? = some target) :
      Added faulty state rule states (states.assign rule.accessId ⟨.active, key⟩)
        (state.applyRule target)
  | failed {target : Level × String} {state' : PolicyState String}
      (found : rule.policyRule? = some target) (possible : faulty)
      (applying : state.Applying target state') :
      Added faulty state rule states (states.assign rule.accessId ⟨.error, none⟩) state'

/-- The states passed while one rule of a batch is applied. -/
def Adding (state : PolicyState String) (rule : AccessRule) (state' : PolicyState String) : Prop :=
  match rule.policyRule? with
  | some target => state.Applying target state'
  | none => state' = state

/-- Applying one rule of a batch passes the states of applying it, and ends with it applied and
reported or not. -/
theorem wp_addWekafsRule (honest : Honest fault) :
    (addWekafsRule session share (some fsUid) mountPassword states rule).wp (service fault)
      (passing (Within session share fsUid w (Adding (policyState session share fsUid w) rule)))
      (ending
        (fun states' => Within session share fsUid w
          (Added (Possible fault) (policyState session share fsUid w) rule states states'))
        (fun _ _ => False)) w := by
  have others : ∀ (reported : RuleState) (id : String), id ≠ rule.accessId →
      Dict.get? (Dict.assign states rule.accessId reported) id = Dict.get? states id :=
    fun reported id ne => Dict.get?_assign_of_ne states reported ne
  unfold addWekafsRule
  by_cases foreign : rule.accessType = .ip
  · by_cases ipv6 : isIpv6 rule.accessTo = true
    · simp only [foreign, ne_eq, not_true_eq_false, ipv6, ↓reduceIte]
      have missing : rule.policyRule? = none := by
        simp [AccessRule.policyRule?, AccessRule.target?, AccessRule.isIpv4, ipv6]
      exact ⟨.refl w, .unlisted missing fun _ _ => rfl⟩
    · have ipv4 : rule.isIpv4 = true := AccessRule.isIpv4_iff.mpr ⟨foreign, by simpa using ipv6⟩
      simp only [foreign, ne_eq, not_true_eq_false, ipv6, ↓reduceIte, Bool.false_eq_true]
      cases target : policyIp rule.accessTo with
      | error error =>
          have missing : rule.policyRule? = none := by
            simp [AccessRule.policyRule?, AccessRule.target?, target, Except.toOption]
          unfold applyWekafsRule
          rw [target, liftExcept]
          exact ⟨.refl w, .unlisted missing (others _)⟩
      | ok ip =>
          have found : rule.policyRule? = some (rule.accessLevel, ip) := by
            rw [AccessRule.policyRule?, AccessRule.target?_eq_some_iff.mpr ⟨ipv4, target⟩,
              Option.map_some]
          have adding : Adding (policyState session share fsUid w) rule =
              (policyState session share fsUid w).Applying (rule.accessLevel, ip) := by
            funext state'
            rw [Adding, found]
          rw [adding]
          refine wp_tryCatch_of (fun _ t => Possible fault ∧ Within session share fsUid w
              ((policyState session share fsUid w).Applying (rule.accessLevel, ip)) t)
            (wp_bind_of _ (wp_applyWekafsRule honest target) ?_) ?_
          · rintro _ t ⟨frame, applied⟩
            rw [wp_pure, ending_ok]
            refine ⟨frame, ?_⟩
            rw [applied]
            exact .applied found
          · rintro _ t ⟨possible, frame, applying⟩
            exact ⟨frame, .failed found possible applying⟩
  · simp only [foreign, ne_eq, not_false_eq_true, ↓reduceIte]
    have missing : rule.policyRule? = none := by
      simp [AccessRule.policyRule?, AccessRule.target?, AccessRule.isIpv4, foreign]
    exact ⟨.refl w, .unlisted missing (others _)⟩

/-- What removing one rule of a batch may leave. -/
inductive Dropped (faulty : Prop) (state : PolicyState String) (rule : AccessRule) :
    PolicyState String → Prop where
  | unlisted (missing : rule.target? = none) : Dropped faulty state rule state
  | removed {ip : String} (found : rule.target? = some ip) :
      Dropped faulty state rule (state.removeRule ip)
  | failed {ip : String} {state' : PolicyState String} (found : rule.target? = some ip)
      (possible : faulty) (removing : state.Removing ip state') :
      Dropped faulty state rule state'

/-- The states passed while one rule of a batch is removed. -/
def Dropping (state : PolicyState String) (rule : AccessRule) (state' : PolicyState String) :
    Prop :=
  match rule.target? with
  | some ip => state.Removing ip state'
  | none => state' = state

private theorem wp_removeWekafsRule (honest : Honest fault) :
    (tryCatch (removeWekafsRule session share (some fsUid) rule) fun _ => pure () :
        Driver Unit).wp (service fault)
      (passing (Within session share fsUid w (Dropping (policyState session share fsUid w) rule)))
      (ending
        (fun _ => Within session share fsUid w
          (Dropped (Possible fault) (policyState session share fsUid w) rule))
        (fun _ _ => False)) w := by
  by_cases ipv4 : rule.isIpv4 = true
  · obtain ⟨ipType, notIpv6⟩ := AccessRule.isIpv4_iff.mp ipv4
    unfold removeWekafsRule
    simp only [ipType, ne_eq, not_true_eq_false, notIpv6, ↓reduceIte, Bool.false_eq_true]
    cases target : policyIp rule.accessTo with
    | error error =>
        have missing : rule.target? = none := by
          simp [AccessRule.target?, target, Except.toOption]
        rw [liftExcept]
        exact ⟨.refl w, .unlisted missing⟩
    | ok ip =>
        have found : rule.target? = some ip := AccessRule.target?_eq_some_iff.mpr ⟨ipv4, target⟩
        have dropping : Dropping (policyState session share fsUid w) rule =
            (policyState session share fsUid w).Removing ip := by
          funext state'
          rw [Dropping, found]
        rw [dropping, liftExcept, pure_bind]
        refine wp_tryCatch_of (fun _ t => Possible fault ∧ Within session share fsUid w
          ((policyState session share fsUid w).Removing ip) t) (wp_bind_of
            (fun _ => Within session share fsUid w
              (· = (policyState session share fsUid w).revoke .rw ip))
            (wp_weaken (wp_policySetIp_absent honest) ?_ ?_ ?_) ?_) ?_
        · exact fun t within => ⟨within.1, Or.inl within.2⟩
        · exact fun _ t within => within
        · exact fun _ t raised => ⟨raised.1, raised.2.1, Or.inl raised.2.2⟩
        · rintro _ t ⟨frame, revoked⟩
          refine wp_weaken (wp_policySetIp_absent honest) ?_ ?_ ?_
          · rintro u ⟨frame', revoking⟩
            rw [revoked] at revoking
            exact ⟨frame.trans frame', Or.inr revoking⟩
          · rintro _ u ⟨frame', removed⟩
            rw [revoked] at removed
            refine ⟨frame.trans frame', ?_⟩
            rw [removed]
            exact .removed found
          · rintro _ u ⟨possible, frame', revoking⟩
            rw [revoked] at revoking
            exact ⟨possible, frame.trans frame', Or.inr revoking⟩
        · rintro _ t ⟨possible, frame, removing⟩
          exact ⟨frame, .failed found possible removing⟩
  · have missing : rule.target? = none := by
      simp [AccessRule.target?, ipv4]
    have ignored : removeWekafsRule session share (some fsUid) rule = pure () := by
      unfold removeWekafsRule
      by_cases ipType : rule.accessType = .ip
      · have ipv6 : isIpv6 rule.accessTo = true := by
          simpa [AccessRule.isIpv4, ipType] using ipv4
        simp [ipType, ipv6]
      · simp [ipType]
    rw [ignored]
    exact ⟨.refl w, .unlisted missing⟩

/-! ## Loops over the rules of a batch -/

section Loops

variable (passed : PolicyState String → Prop)

/-- The loop over the rules to apply keeps an invariant that each step keeps. -/
theorem wp_addWekafsRules (honest : Honest fault) {addRules : List AccessRule}
    (invariant : List AccessRule → RuleStates → PolicyState String → Prop)
    (step : ∀ visited rule rest states state, addRules = visited ++ rule :: rest →
      invariant visited states state →
        (∀ state', Adding state rule state' → passed state') ∧
        ∀ states' state', Added (Possible fault) state rule states states' state' →
          invariant (visited ++ [rule]) states' state')
    (initial : invariant [] states (policyState session share fsUid w)) :
    (addRules.foldlM (addWekafsRule session share (some fsUid) mountPassword) states).wp
      (service fault) (passing (Within session share fsUid w passed))
      (ending (fun states' => Within session share fsUid w (invariant addRules states'))
        (fun _ _ => False)) w := by
  refine wp_foldlM (fun visited states' => Within session share fsUid w (invariant visited states'))
    addRules ?_ (fun _ _ reached => reached) ⟨.refl w, initial⟩
  rintro visited rule rest states' t split ⟨frame, holds⟩
  obtain ⟨passes, reaches⟩ := step visited rule rest states' _ split holds
  rw [onOk_ending]
  refine wp_weaken (wp_addWekafsRule honest) ?_ ?_ fun _ _ impossible => impossible
  · exact fun u within => ⟨frame.trans within.1, passes _ within.2⟩
  · exact fun _ u within => ⟨frame.trans within.1, reaches _ _ within.2⟩

/-- The loop over the rules to delete keeps an invariant that each step keeps. -/
theorem wp_removeWekafsRules (honest : Honest fault) {deleteRules : List AccessRule}
    (invariant : List AccessRule → PolicyState String → Prop)
    (step : ∀ visited rule rest state, deleteRules = visited ++ rule :: rest →
      invariant visited state →
        (∀ state', Dropping state rule state' → passed state') ∧
        ∀ state', Dropped (Possible fault) state rule state' →
          invariant (visited ++ [rule]) state')
    (initial : invariant [] (policyState session share fsUid w)) :
    (deleteRules.forM fun rule =>
        (tryCatch (removeWekafsRule session share (some fsUid) rule) fun _ => pure () :
          Driver Unit)).wp
      (service fault) (passing (Within session share fsUid w passed))
      (ending (fun _ => Within session share fsUid w (invariant deleteRules))
        (fun _ _ => False)) w := by
  refine wp_forM (fun visited => Within session share fsUid w (invariant visited)) deleteRules ?_
    (fun _ reached => reached) ⟨.refl w, initial⟩
  rintro visited rule rest t split ⟨frame, holds⟩
  obtain ⟨passes, reaches⟩ := step visited rule rest _ split holds
  rw [onOk_ending]
  refine wp_weaken (wp_removeWekafsRule honest) ?_ ?_ fun _ _ impossible => impossible
  · exact fun u within => ⟨frame.trans within.1, passes _ within.2⟩
  · exact fun _ u within => ⟨frame.trans within.1, reaches _ within.2⟩

/-- Pruning a level revokes the unexpected addresses in the order the cluster
lists them. -/
theorem wp_pruneLevel (honest : Honest fault) {expected : List (Level × String)} {level : Level}
    (invariant : List String → PolicyState String → Prop)
    (step : ∀ visited ip state, (level, ip) ∉ expected → invariant visited state →
      (∀ state', state.Revoking level ip state' → passed state') ∧
      invariant (visited ++ [ip]) (state.revoke level ip) ∧
      ∀ state', Possible fault → state.Revoking level ip state' →
        invariant (visited ++ [ip]) state')
    (skip : ∀ visited ip state, (level, ip) ∈ expected → invariant visited state →
      invariant (visited ++ [ip]) state)
    (here : passed (policyState session share fsUid w))
    (initial : invariant [] (policyState session share fsUid w)) :
    (pruneLevel session share (some fsUid) expected level).wp (service fault)
      (passing (Within session share fsUid w passed))
      (ending
        (fun _ t => ∃ listing : List String,
          listing.toFinset = (policyState session share fsUid w).addressesAt level ∧
          Within session share fsUid w (invariant listing) t)
        (fun _ t => Possible fault ∧ t = w)) w := by
  unfold pruneLevel
  rw [wp_bind, onOk_ending]
  refine wp_getSecurityPolicyByName ⟨.refl w, here⟩ ?_ fun error raised =>
    ⟨⟨w, _, error, raised⟩, rfl⟩
  rw [ending_ok]
  cases found : w.cluster.policies.find? (session, wekafsPolicyName share.id level) with
  | none =>
      have unlisted : (policyState session share fsUid w).addressesAt level = ∅ :=
        PolicyState.addressesAt_of_none (policyState_of_missing found)
      exact ⟨[], by rw [unlisted, List.toFinset_nil], .refl w, initial⟩
  | some entry =>
      have listed : entry.val.ips.toFinset =
          (policyState session share fsUid w).addressesAt level :=
        (PolicyState.addressesAt_of_some (policyState_of_found found)).symm
      refine wp_weaken (wp_forM (fun visited => Within session share fsUid w (invariant visited))
        entry.val.ips ?_ (fun t reached => ?_) ⟨.refl w, initial⟩) (fun t kept => kept)
        (fun _ t reached => ⟨_, listed, reached⟩) (fun _ _ impossible => impossible)
      rotate_left
      · rw [ending_ok]
        exact reached
      rintro visited ip rest t - ⟨frame, holds⟩
      rw [onOk_ending, wp_ite]
      split
      · next wanted => exact ⟨frame, skip visited ip _ wanted holds⟩
      · next unwanted =>
          obtain ⟨passes, revoked, revoking⟩ := step visited ip _ unwanted holds
          refine wp_tryCatch_of (fun _ u => Possible fault ∧ Within session share fsUid t
              ((policyState session share fsUid t).Revoking level ip) u)
            (wp_weaken (wp_policySetIp_absent honest) ?_ ?_ fun _ _ raised => raised) ?_
          · exact fun u within => ⟨frame.trans within.1, passes _ within.2⟩
          · rintro _ u ⟨frame', left⟩
            refine ⟨frame.trans frame', ?_⟩
            rw [left]
            exact revoked
          · rintro _ u ⟨possible, frame', left⟩
            exact ⟨frame.trans frame', revoking _ possible left⟩

end Loops

end WekaShareDriver
