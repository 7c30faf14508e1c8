import WekaShareDriver.Access.WekafsSpec

/-! # Whole WEKAFS access updates on allow lists

Without faults an update has one result: the rules applied, then the deleted ones removed
(`WekaShareDriver.wp_updateWekafsPolicies_incremental`) or, in a full sync, the stale ones pruned
(`WekaShareDriver.wp_updateWekafsPolicies_fullSync`).
-/

namespace WekaShareDriver

open Foundation Program

/-- The addresses the rules have. -/
def policyTargets (rules : List AccessRule) : List String := rules.filterMap AccessRule.target?

/-- An IPv4 rule whose network cannot be read stops the pruning. -/
def AccessRule.Malformed (rule : AccessRule) : Prop :=
  rule.isIpv4 = true ∧ ∃ error, policyIp rule.accessTo = .error error

/-- What a rule asks of the policies is its address at its level. -/
theorem policyRule?_eq_some_iff {rule : AccessRule} {target : Level × String} :
    rule.policyRule? = some target ↔
      rule.target? = some target.2 ∧ rule.accessLevel = target.1 := by
  obtain ⟨level, ip⟩ := target
  unfold AccessRule.policyRule?
  rw [Option.map_eq_some_iff]
  constructor
  · rintro ⟨ip', found, equal⟩
    cases equal
    exact ⟨found, rfl⟩
  · rintro ⟨found, rfl⟩
    exact ⟨ip, found, rfl⟩

/-- What rules ask of the policies is what one of them asks. -/
theorem mem_policyRules {rules : List AccessRule} {target : Level × String} :
    target ∈ policyRules rules ↔ ∃ rule ∈ rules, rule.policyRule? = some target :=
  List.mem_filterMap

/-- The addresses of rules are those of one of them. -/
theorem mem_policyTargets {rules : List AccessRule} {ip : String} :
    ip ∈ policyTargets rules ↔ ∃ rule ∈ rules, rule.target? = some ip :=
  List.mem_filterMap

/-- The addresses of what rules ask are the addresses of the rules. -/
theorem map_snd_policyRules (rules : List AccessRule) :
    (policyRules rules).map Prod.snd = policyTargets rules := by
  unfold policyRules policyTargets
  rw [List.map_filterMap]
  congr 1
  funext rule
  unfold AccessRule.policyRule?
  cases rule.target? <;> rfl

/-- Readable rules expect their addresses at their levels. -/
theorem expectedIps_eq {rules : List AccessRule} (readable : ∀ rule ∈ rules, ¬ rule.Malformed) :
    expectedIps rules = .ok (policyRules rules) := by
  unfold expectedIps
  induction rules with
  | nil => rfl
  | cons rule rest ih =>
      have later := ih fun rule member => readable rule (List.mem_cons_of_mem _ member)
      by_cases ipv4 : rule.isIpv4 = true
      · cases target : policyIp rule.accessTo with
        | error error => exact absurd ⟨ipv4, error, target⟩ (readable rule List.mem_cons_self)
        | ok ip =>
            have found : rule.policyRule? = some (rule.accessLevel, ip) :=
              policyRule?_eq_some_iff.mpr
                ⟨AccessRule.target?_eq_some_iff.mpr ⟨ipv4, target⟩, rfl⟩
            rw [List.filter_cons_of_pos ipv4, List.mapM_cons, target, later, policyRules,
              policyRules, List.filterMap_cons_some found]
            rfl
      · have missing : rule.policyRule? = none := by
          simp [AccessRule.policyRule?, AccessRule.target?, ipv4]
        rw [List.filter_cons_of_neg ipv4, later, policyRules, policyRules,
          List.filterMap_cons_none missing]

/-- A malformed rule makes the expectation raise. -/
theorem expectedIps_error {rules : List AccessRule} (malformed : ∃ rule ∈ rules, rule.Malformed) :
    ∃ error, expectedIps rules = .error error := by
  unfold expectedIps
  induction rules with
  | nil => simp at malformed
  | cons rule rest ih =>
      by_cases ipv4 : rule.isIpv4 = true
      · rw [List.filter_cons_of_pos ipv4, List.mapM_cons]
        cases target : policyIp rule.accessTo with
        | error error => exact ⟨error, rfl⟩
        | ok ip =>
            have later : ∃ rule ∈ rest, rule.Malformed := by
              obtain ⟨bad, member, broken⟩ := malformed
              rcases List.mem_cons.mp member with rfl | inside
              · obtain ⟨_, error, raised⟩ := broken
                rw [target] at raised
                cases raised
              · exact ⟨bad, inside, broken⟩
            obtain ⟨error, raised⟩ := ih later
            exact ⟨error, by rw [raised]; rfl⟩
      · rw [List.filter_cons_of_neg ipv4]
        refine ih ?_
        obtain ⟨bad, member, broken⟩ := malformed
        rcases List.mem_cons.mp member with rfl | inside
        · exact absurd broken.1 ipv4
        · exact ⟨bad, inside, broken⟩

variable {session : Session} {share : Share} {fsUid : Uid} {fault : Fault} {w : World}
  {mountPassword : String} {rules addRules deleteRules : List AccessRule}

/-- With a network that cannot be read, pruning only raises. -/
theorem pruneWekafsRules_malformed (session : Session) (share : Share) (fsUid : Uid)
    (malformed : ∃ rule ∈ rules, rule.Malformed) :
    ∃ error, pruneWekafsRules session share (some fsUid) rules = throw error := by
  obtain ⟨error, raised⟩ := expectedIps_error malformed
  refine ⟨error, ?_⟩
  unfold pruneWekafsRules
  rw [raised]
  rfl

/-- Pruning keeps what revoking unexpected addresses keeps. -/
theorem wp_pruneWekafsRules_invariant (honest : Honest fault) {safe : PolicyState String → Prop}
    (closed : ∀ level ip state state', (level, ip) ∉ policyRules rules → safe state →
      state.Revoking level ip state' → safe state')
    (here : safe (policyState session share fsUid w)) :
    (pruneWekafsRules session share (some fsUid) rules).wp (service fault)
      (passing (Within session share fsUid w safe))
      (ending (fun _ => Within session share fsUid w safe)
        (fun _ => Within session share fsUid w safe)) w := by
  by_cases malformed : ∃ rule ∈ rules, rule.Malformed
  · obtain ⟨error, raises⟩ := pruneWekafsRules_malformed session share fsUid malformed
    rw [raises]
    exact ⟨.refl w, here⟩
  · have level : ∀ level (u : World), Within session share fsUid w safe u →
        (pruneLevel session share (some fsUid) (policyRules rules) level).wp (service fault)
          (passing (Within session share fsUid w safe))
          (ending (fun _ => Within session share fsUid w safe)
            (fun _ => Within session share fsUid w safe)) u := by
      rintro level u ⟨frame, holds⟩
      refine wp_weaken (wp_pruneLevel safe honest (fun _ => safe) ?_ (fun _ _ _ _ kept => kept) holds
        holds) (fun t within => within.trans frame) ?_ ?_
      · intro visited ip state unwanted holds
        exact ⟨fun state' => closed level ip state state' unwanted holds,
          closed level ip state _ unwanted holds .done,
          fun state' _ => closed level ip state state' unwanted holds⟩
      · rintro _ t ⟨_, _, within⟩
        exact within.trans frame
      · rintro _ t ⟨_, rfl⟩
        exact ⟨frame, holds⟩
    unfold pruneWekafsRules
    rw [expectedIps_eq (by simpa using malformed), liftExcept, pure_bind]
    exact wp_bind_of _ (level .rw w ⟨.refl w, here⟩) fun _ u => level .ro u

/-- Without faults, pruning readable rules revokes everything unexpected. -/
theorem wp_pruneWekafsRules_reliable (readable : ∀ rule ∈ rules, ¬ rule.Malformed) :
    (pruneWekafsRules session share (some fsUid) rules).wp reliable (passing fun _ => True)
      (ending
        (fun _ t => ∃ listing : Level → List String,
          (∀ level, (listing level).toFinset =
            (policyState session share fsUid w).addressesAt level) ∧
          Within session share fsUid w
            (· = (policyState session share fsUid w).prune (policyRules rules) listing) t)
        (fun _ _ => False)) w := by
  have level : ∀ level (u : World),
      (pruneLevel session share (some fsUid) (policyRules rules) level).wp reliable
        (passing fun _ => True)
        (ending
          (fun _ t => ∃ listing : List String,
            listing.toFinset = (policyState session share fsUid u).addressesAt level ∧
            Within session share fsUid u (· = (policyState session share fsUid u).revokeAll level
              (listing.filter fun ip => (level, ip) ∉ policyRules rules)) t)
          (fun _ _ => False)) u := by
    intro level u
    refine wp_weaken (wp_pruneLevel (fun _ => True) honest_noFaults
      (fun visited state => state = (policyState session share fsUid u).revokeAll level
        (visited.filter fun ip => (level, ip) ∉ policyRules rules)) ?_ ?_ trivial rfl)
      (fun _ _ => trivial) (fun _ _ reached => reached)
      fun _ _ raised => not_possible_noFaults raised.1
    · rintro visited ip state unwanted rfl
      refine ⟨fun _ _ => trivial, ?_, fun _ possible => absurd possible not_possible_noFaults⟩
      simp [PolicyState.revokeAll, List.filter_append, unwanted]
    · rintro visited ip state wanted rfl
      simp [List.filter_append, wanted]
  unfold pruneWekafsRules
  rw [expectedIps_eq readable, liftExcept, pure_bind]
  refine wp_bind_of _ (level .rw w) ?_
  rintro _ u ⟨rw', listedRw, frame, stateRw⟩
  refine wp_weaken (level .ro u) (fun _ kept => kept) ?_ fun _ _ impossible => impossible
  rintro _ t ⟨ro', listedRo, frame', stateRo⟩
  refine ⟨fun level => if level = .rw then rw' else ro', ?_, frame.trans frame', ?_⟩
  · rintro (_ | _)
    · exact listedRw
    · change ro'.toFinset = _
      rw [listedRo, stateRw]
      exact PolicyState.addressesAt_revokeAll_of_ne _ (by decide)
  · rw [stateRo, stateRw]
    rfl

/-- A rule with an address is applied at its level. -/
theorem adding_of_found {state : PolicyState String} {rule : AccessRule} {target : Level × String}
    (found : rule.policyRule? = some target) : Adding state rule = state.Applying target := by
  funext state'
  rw [Adding, found]

/-- A rule without an address leaves the lists alone. -/
theorem adding_of_missing {state state' : PolicyState String} {rule : AccessRule}
    (missing : rule.policyRule? = none) : Adding state rule state' ↔ state' = state := by
  rw [Adding, missing]

/-- What one rule of a batch leaves is one of the states passed for it. -/
theorem Added.adding {faulty : Prop} {state state' : PolicyState String} {rule : AccessRule}
    {states states' : RuleStates} (added : Added faulty state rule states states' state') :
    Adding state rule state' := by
  cases added with
  | unlisted missing _ => exact (adding_of_missing missing).mpr rfl
  | applied found =>
      rw [adding_of_found found]
      exact PolicyState.applying_applyRule
  | failed found _ applying =>
      rw [adding_of_found found]
      exact applying

/-- What removing a rule leaves is one of the states passed. -/
theorem Dropped.dropping {faulty : Prop} {state state' : PolicyState String} {rule : AccessRule}
    (dropped : Dropped faulty state rule state') : Dropping state rule state' := by
  unfold Dropping
  cases dropped with
  | unlisted missing => rw [missing]
  | removed found =>
      rw [found]
      exact PolicyState.removing_removeRule
  | failed found _ removing =>
      rw [found]
      exact removing

/-- An update in two phases: its additions are followed rule by rule, and what
they leave is kept by every removal and by the pruning. -/
theorem wp_updateWekafsPolicies_phases (honest : Honest fault) {fullSync : Bool}
    {passed : PolicyState String → Prop}
    (adding : List AccessRule → RuleStates → PolicyState String → Prop)
    (kept : RuleStates → PolicyState String → Prop)
    (step : ∀ visited rule rest states state, addRules = visited ++ rule :: rest →
      adding visited states state →
        (∀ state', Adding state rule state' → passed state') ∧
        ∀ states' state', Added (Possible fault) state rule states states' state' →
          adding (visited ++ [rule]) states' state')
    (added : ∀ states state, adding addRules states state → kept states state)
    (removing : ∀ ip ∈ policyTargets deleteRules, ∀ states state state', kept states state →
      state.Removing ip state' → kept states state')
    (pruning : fullSync = true → ∀ level ip states state state',
      (level, ip) ∉ policyRules addRules → kept states state → state.Revoking level ip state' →
        kept states state')
    (passes : ∀ states state, kept states state → passed state)
    (initial : adding [] [] (policyState session share fsUid w)) :
    (updateWekafsPolicies session share (some fsUid) mountPassword addRules deleteRules
        fullSync).wp (service fault)
      (passing (Within session share fsUid w passed))
      (ending (fun states => Within session share fsUid w (kept states))
        (fun _ => Within session share fsUid w passed)) w := by
  have within : ∀ {states : RuleStates} {t : World}, Within session share fsUid w (kept states) t →
      Within session share fsUid w passed t := fun reached => ⟨reached.1, passes _ _ reached.2⟩
  have dropping : ∀ states, ∀ rule ∈ deleteRules, ∀ state state', kept states state →
      Dropping state rule state' → kept states state' := by
    intro states rule member state state' holds step
    unfold Dropping at step
    cases found : rule.target? with
    | none =>
        rw [found] at step
        rw [step]
        exact holds
    | some ip =>
        rw [found] at step
        exact removing ip (mem_policyTargets.mpr ⟨rule, member, found⟩) states state state' holds
          step
  unfold updateWekafsPolicies
  refine wp_bind_of _ (wp_weaken (wp_addWekafsRules passed honest adding step initial)
    (fun _ left => left) (fun _ _ reached => reached) fun _ _ impossible => impossible.elim) ?_
  intro states t reached
  obtain ⟨frame, holds⟩ := reached
  refine wp_bind_of (fun _ => Within session share fsUid w (kept states))
    (wp_weaken (wp_removeWekafsRules (kept states) honest (fun _ => kept states) ?_
        (added states _ holds))
      (fun _ left => within (left.trans frame)) (fun _ _ left => left.trans frame)
      fun _ _ impossible => impossible.elim) ?_
  · intro visited rule rest state split holds'
    have member : rule ∈ deleteRules := by simp [split]
    exact ⟨fun state' => dropping states rule member state state' holds',
      fun state' dropped => dropping states rule member state state' holds' dropped.dropping⟩
  intro _ u reached
  obtain ⟨frame', holds'⟩ := reached
  cases fullSync with
  | false => exact ⟨frame', holds'⟩
  | true =>
      simp only [↓reduceIte]
      refine wp_bind_of (fun _ => Within session share fsUid w (kept states))
        (wp_weaken (wp_pruneWekafsRules_invariant honest
            (fun level ip state state' => pruning rfl level ip states state state') holds')
          (fun _ left => within (left.trans frame')) (fun _ _ left => left.trans frame')
          (fun _ _ left => within (left.trans frame'))) ?_
      exact fun _ v left => left

/-! ## Without faults -/

private theorem applyAll_append (state : PolicyState String)
    (first second : List (Level × String)) :
    state.applyAll (first ++ second) = (state.applyAll first).applyAll second :=
  List.foldl_append

private theorem removeAll_append (state : PolicyState String) (first second : List String) :
    state.removeAll (first ++ second) = (state.removeAll first).removeAll second :=
  List.foldl_append

/-- Without faults the rule is applied. -/
theorem Added.reliable {faulty : Prop} {state state' : PolicyState String} {rule : AccessRule}
    {states states' : RuleStates} (sound : ¬ faulty)
    (added : Added faulty state rule states states' state') :
    state' = state.applyAll (policyRules [rule]) := by
  cases added with
  | unlisted missing _ =>
      rw [policyRules, List.filterMap_cons_none missing]
      rfl
  | applied found =>
      rw [policyRules, List.filterMap_cons_some found]
      rfl
  | failed _ possible _ => exact absurd possible sound

/-- Without faults the rule is removed. -/
theorem Dropped.reliable {faulty : Prop} {state state' : PolicyState String} {rule : AccessRule}
    (sound : ¬ faulty) (dropped : Dropped faulty state rule state') :
    state' = state.removeAll (policyTargets [rule]) := by
  cases dropped with
  | unlisted missing =>
      rw [policyTargets, List.filterMap_cons_none missing]
      rfl
  | removed found =>
      rw [policyTargets, List.filterMap_cons_some found]
      rfl
  | failed _ possible _ => exact absurd possible sound

private theorem wp_addWekafsRules_reliable (states : RuleStates) :
    (addRules.foldlM (addWekafsRule session share (some fsUid) mountPassword) states).wp reliable
      (passing fun _ => True)
      (ending
        (fun _ => Within session share fsUid w
          (· = (policyState session share fsUid w).applyAll (policyRules addRules)))
        (fun _ _ => False)) w := by
  refine wp_weaken (wp_addWekafsRules (fun _ => True) honest_noFaults
    (fun visited _ state =>
      state = (policyState session share fsUid w).applyAll (policyRules visited)) ?_ rfl)
    (fun _ _ => trivial) (fun _ _ reached => reached) fun _ _ impossible => impossible
  intro visited rule rest states' state _ holds
  refine ⟨fun _ _ => trivial, fun states'' state' added => ?_⟩
  rw [added.reliable not_possible_noFaults, holds, policyRules, policyRules, policyRules,
    List.filterMap_append, applyAll_append]

/-- Without faults all rules to delete are removed. -/
theorem wp_removeWekafsRules_reliable :
    (deleteRules.forM fun rule =>
        (tryCatch (removeWekafsRule session share (some fsUid) rule) fun _ => pure () :
          Driver Unit)).wp reliable
      (passing fun _ => True)
      (ending
        (fun _ => Within session share fsUid w
          (· = (policyState session share fsUid w).removeAll (policyTargets deleteRules)))
        (fun _ _ => False)) w := by
  refine wp_weaken (wp_removeWekafsRules (fun _ => True) honest_noFaults
    (fun visited state =>
      state = (policyState session share fsUid w).removeAll (policyTargets visited)) ?_ rfl)
    (fun _ _ => trivial) (fun _ _ reached => reached) fun _ _ impossible => impossible
  intro visited rule rest state _ holds
  refine ⟨fun _ _ => trivial, fun state' dropped => ?_⟩
  rw [dropped.reliable not_possible_noFaults, holds, policyTargets, policyTargets, policyTargets,
    List.filterMap_append, removeAll_append]

/-- An incremental update applies its rules and removes the deleted ones. -/
theorem wp_updateWekafsPolicies_incremental :
    (updateWekafsPolicies session share (some fsUid) mountPassword addRules deleteRules false).wp
      reliable (passing fun _ => True)
      (ending
        (fun _ => Within session share fsUid w
          (· = ((policyState session share fsUid w).applyAll (policyRules addRules)).removeAll
            (policyTargets deleteRules)))
        (fun _ _ => False)) w := by
  unfold updateWekafsPolicies
  refine wp_bind_of _ (wp_addWekafsRules_reliable []) fun states t reached => ?_
  obtain ⟨frame, applied⟩ := reached
  refine wp_bind_of _ wp_removeWekafsRules_reliable fun _ u reached => ?_
  obtain ⟨frame', removed⟩ := reached
  rw [applied] at removed
  exact ⟨frame.trans frame', removed⟩

/-- A full sync applies its rules and prunes the rest; a malformed rule stops it
before the pruning. -/
theorem wp_updateWekafsPolicies_fullSync :
    (updateWekafsPolicies session share (some fsUid) mountPassword addRules [] true).wp
      reliable (passing fun _ => True)
      (ending
        (fun _ t => (∀ rule ∈ addRules, ¬ rule.Malformed) ∧ ∃ listing : Level → List String,
          (∀ level, (listing level).toFinset = ((policyState session share fsUid w).applyAll
            (policyRules addRules)).addressesAt level) ∧
          Within session share fsUid w (· = ((policyState session share fsUid w).applyAll
            (policyRules addRules)).prune (policyRules addRules) listing) t)
        (fun _ t => (∃ rule ∈ addRules, rule.Malformed) ∧ Within session share fsUid w
          (· = (policyState session share fsUid w).applyAll (policyRules addRules)) t)) w := by
  unfold updateWekafsPolicies
  refine wp_bind_of _ (wp_weaken (wp_addWekafsRules_reliable []) (fun _ kept => kept)
    (fun _ _ reached => reached) fun _ _ impossible => impossible.elim) fun states t reached => ?_
  obtain ⟨frame, applied⟩ := reached
  simp only [↓reduceIte]
  change (pruneWekafsRules session share (some fsUid) addRules >>= _).wp _ _ _ t
  by_cases malformed : ∃ rule ∈ addRules, rule.Malformed
  · obtain ⟨error, raises⟩ := pruneWekafsRules_malformed session share fsUid malformed
    rw [raises]
    exact ⟨malformed, frame, applied⟩
  · have readable : ∀ rule ∈ addRules, ¬ rule.Malformed := by simpa using malformed
    refine wp_bind_of _ (wp_weaken (wp_pruneWekafsRules_reliable readable) (fun _ kept => kept)
      (fun _ _ reached => reached) fun _ _ impossible => impossible.elim) fun _ u reached => ?_
    obtain ⟨listing, complete, frame', pruned⟩ := reached
    rw [applied] at complete pruned
    exact ⟨readable, listing, complete, frame.trans frame', pruned⟩

end WekaShareDriver
